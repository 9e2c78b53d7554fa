import Difi.Machine.Outcome

namespace Difi.Machine

/-- A computation on a state of its own. What it has done before an error or a
panic stays done. -/
def Effect (σ ε α : Type) := σ → Outcome ε α × σ

namespace Effect

variable {σ ε α β : Type}

def bind (m : Effect σ ε α) (f : α → Effect σ ε β) : Effect σ ε β := fun s =>
  match m s with
  | (.ok a, t) => f a t
  | (.err e, t) => (.err e, t)
  | (.panic, t) => (.panic, t)

instance : Monad (Effect σ ε) where
  pure a := fun s => (.ok a, s)
  bind := bind

def get : Effect σ ε σ := fun s => (.ok s, s)

def lift (x : Outcome ε α) : Effect σ ε α := fun s => (x, s)

def modify (f : σ → σ) : Effect σ ε Unit := fun s => (.ok (), f s)

/-- From a state with the precondition, the computation does not panic. It ends
in a state with the postcondition, or with an error that the states allow. -/
def Ensures (P : σ → Prop) (m : Effect σ ε α) (Q : α → σ → Prop) (E : ε → σ → Prop) : Prop :=
  ∀ s, P s → (∃ a t, m s = (.ok a, t) ∧ Q a t) ∨ ∃ e t, m s = (.err e, t) ∧ E e t

variable {P : σ → Prop} {Q : α → σ → Prop} {R : β → σ → Prop} {E : ε → σ → Prop}
variable {m : Effect σ ε α} {f : α → Effect σ ε β}

theorem bind_of_ok {s t : σ} {a : α} (h : m s = (.ok a, t)) : (m >>= f) s = f a t := by
  change bind m f s = f a t
  rw [bind, h]

theorem bind_of_err {s t : σ} {e : ε} (h : m s = (.err e, t)) : (m >>= f) s = (.err e, t) := by
  change bind m f s = _
  rw [bind, h]

@[simp] theorem get_bind (f : σ → Effect σ ε β) (s : σ) : (get >>= f) s = f s s := rfl

@[simp] theorem lift_bind_ok (a : α) (f : α → Effect σ ε β) (s : σ) : (lift (.ok a) >>= f) s = f a s := rfl

@[simp] theorem lift_bind_err (e : ε) (f : α → Effect σ ε β) (s : σ) : (lift (.err e) >>= f) s = (.err e, s) := rfl

theorem Ensures.bind (hm : Ensures P m Q E) (hf : ∀ a, Ensures (Q a) (f a) R E) : Ensures P (m >>= f) R E := by
  intro s hs
  rcases hm s hs with ⟨a, t, hrun, ht⟩ | ⟨e, t, hrun, ht⟩
  · rw [bind_of_ok hrun]
    exact hf a t ht
  · exact .inr ⟨e, t, bind_of_err hrun, ht⟩

end Effect

/-- A program that runs on a state for as long as nothing goes wrong. -/
structure Process (σ ε : Type) where
  state : σ
  status : Outcome ε Unit

namespace Process

variable {σ ε : Type}

def perform (p : Process σ ε) (m : Effect σ ε Unit) : Process σ ε :=
  match p.status with
  | .ok () => ⟨(m p.state).2, (m p.state).1⟩
  | .err _ | .panic => p

/-- Either the program runs and its state keeps an invariant, or it has ended with
an error that the state allows. -/
def Holds (I : σ → Prop) (E : ε → σ → Prop) (p : Process σ ε) : Prop :=
  (p.status = .ok () ∧ I p.state) ∨ ∃ e, p.status = .err e ∧ E e p.state

variable {I : σ → Prop} {E : ε → σ → Prop} {p : Process σ ε}

theorem perform_running (s : σ) (m : Effect σ ε Unit) :
    (⟨s, .ok ()⟩ : Process σ ε).perform m = ⟨(m s).2, (m s).1⟩ :=
  rfl

theorem perform_ended {e : ε} (s : σ) (m : Effect σ ε Unit) :
    (⟨s, .err e⟩ : Process σ ε).perform m = ⟨s, .err e⟩ :=
  rfl

theorem Holds.both {C : σ → Prop} (hp : p.Holds I E) (hrun : ∀ s, I s → C s) (hend : ∀ e s, E e s → C s) :
    C p.state := by
  rcases hp with ⟨-, hs⟩ | ⟨e, -, hs⟩
  · exact hrun _ hs
  · exact hend e _ hs

theorem Holds.ended (hp : p.Holds I E) {e : ε} (he : p.status = .err e) : E e p.state := by
  rcases hp with ⟨hstatus, -⟩ | ⟨e', hstatus, hs⟩
  · rw [hstatus] at he
    cases he
  · rw [hstatus] at he
    cases he
    exact hs

theorem Holds.safe (hp : p.Holds I E) : p.status.Safe := by
  rcases hp with ⟨hstatus, -⟩ | ⟨e, hstatus, -⟩
  · exact Outcome.safe_of_eq_ok hstatus
  · rw [hstatus]
    exact Outcome.safe_err e

end Process

end Difi.Machine
