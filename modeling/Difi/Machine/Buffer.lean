import Difi.Machine.Outcome
import Mathlib.Data.List.TakeDrop

namespace Difi.Machine

/-- A computation on a buffer borrowed from its caller. Whatever was stored
before an error or a panic stays stored. -/
def Mut (β ε α : Type) := List β → Outcome ε α × List β

namespace Mut

variable {β ε α γ : Type}

def bind (m : Mut β ε α) (f : α → Mut β ε γ) : Mut β ε γ := fun out =>
  match m out with
  | (.ok a, out) => f a out
  | (.err e, out) => (.err e, out)
  | (.panic, out) => (.panic, out)

instance : Monad (Mut β ε) where
  pure a := fun out => (.ok a, out)
  bind := bind

def lift (x : Outcome ε α) : Mut β ε α := fun out => (x, out)

def length : Mut β ε Nat := fun out => (.ok out.length, out)

def copyInto (start stop : Nat) (source : List β) : Mut β ε Unit := fun out =>
  if start ≤ stop ∧ stop ≤ out.length ∧ source.length = stop - start then
    (.ok (), out.take start ++ source ++ out.drop stop)
  else (.panic, out)

def storeAt (i : Nat) (b : β) : Mut β ε Unit := fun out =>
  if i < out.length then (.ok (), out.set i b) else (.panic, out)

def onPrefix (stop : Nat) (m : Mut β ε α) : Mut β ε α := fun out =>
  if stop ≤ out.length then ((m (out.take stop)).1, (m (out.take stop)).2 ++ out.drop stop)
  else (.panic, out)

theorem bind_apply (m : Mut β ε α) (f : α → Mut β ε γ) (out : List β) :
    (m >>= f) out = match m out with
      | (.ok a, out) => f a out
      | (.err e, out) => (.err e, out)
      | (.panic, out) => (.panic, out) := rfl

@[simp] theorem pure_apply (a : α) (out : List β) : (pure a : Mut β ε α) out = (.ok a, out) := rfl

@[simp] theorem lift_apply (x : Outcome ε α) (out : List β) : lift x out = (x, out) := rfl

theorem lift_bind_apply (x : Outcome ε α) (f : α → Mut β ε γ) (out : List β) :
    (lift x >>= f) out = match x with
      | .ok a => f a out
      | .err e => (.err e, out)
      | .panic => (.panic, out) := by
  cases x <;> rfl

/-- The computation stores exactly the given elements from a position on and
leaves the rest of the buffer as it was. -/
def Emits (m : Mut β ε Unit) (start : Nat) (emitted : List β) : Prop :=
  ∀ front back, front.length = start → emitted.length ≤ back.length →
    m (front ++ back) = (.ok (), front ++ emitted ++ back.drop emitted.length)

theorem Emits.pure (start : Nat) : Emits (pure () : Mut β ε Unit) start [] := by
  intro front back _ _
  simp

theorem Emits.bind {m : Mut β ε Unit} {k : Unit → Mut β ε Unit} {start : Nat} {xs ys : List β}
    (hm : Emits m start xs) (hk : Emits (k ()) (start + xs.length) ys) :
    Emits (m >>= k) start (xs ++ ys) := by
  intro front back hf hb
  rw [List.length_append] at hb
  have hfirst := hm front back hf (by omega)
  have hsecond := hk (front ++ xs) (back.drop xs.length) (by simp [hf])
    (by rw [List.length_drop]; omega)
  rw [bind_apply, hfirst]
  simpa only [List.append_assoc, List.drop_drop, List.length_append] using hsecond

theorem Emits.lift_bind {x : Outcome ε α} {a : α} {k : α → Mut β ε Unit} {start : Nat} {xs : List β}
    (hx : x = .ok a) (hk : Emits (k a) start xs) : Emits (Mut.lift x >>= k) start xs := by
  subst hx
  exact hk

theorem Emits.copyInto {start stop : Nat} {source : List β} (h : start + source.length = stop) :
    Emits (copyInto start stop source : Mut β ε Unit) start source := by
  intro front back hf hb
  subst hf h
  have hcond : front.length ≤ front.length + source.length ∧
      front.length + source.length ≤ (front ++ back).length ∧
      source.length = front.length + source.length - front.length := by
    rw [List.length_append]
    omega
  rw [Mut.copyInto, if_pos hcond, List.take_left', List.drop_append, List.drop_of_length_le (by omega),
    Nat.add_sub_cancel_left, List.nil_append]
  rfl

theorem Emits.storeAt (i : Nat) (b : β) : Emits (storeAt i b : Mut β ε Unit) i [b] := by
  intro front back hf hb
  subst hf
  match back, hb with
  | c :: back, _ => simp [Mut.storeAt]

theorem Emits.run {m : Mut β ε Unit} {xs : List β} (hm : Emits m 0 xs) (out : List β)
    (h : xs.length ≤ out.length) :
    m out = (.ok (), xs ++ out.drop xs.length) := by
  simpa using hm [] out rfl h

theorem Emits.onPrefix {m : Mut β ε Unit} {stop : Nat} {xs out : List β} (hm : Emits m 0 xs)
    (h : xs.length ≤ stop) (hstop : stop ≤ out.length) :
    Mut.onPrefix stop m out = (.ok (), xs ++ out.drop xs.length) := by
  have hrun := hm.run (out.take stop) (by rw [List.length_take]; omega)
  have hdrop : (out.take stop).drop xs.length ++ out.drop stop = out.drop xs.length := by
    rw [List.drop_take, show out.drop stop = (out.drop xs.length).drop (stop - xs.length) by
      rw [List.drop_drop]; congr 1; omega, List.take_append_drop]
  rw [Mut.onPrefix, if_pos hstop, hrun]
  simp only [List.append_assoc, hdrop]

/-- A store behind a length check. It returns the length of what it has
stored, and stores nothing unless the buffer is long enough for all of it. -/
def Commits (m : Mut β ε Nat) (len : Outcome ε Nat) (short : Nat → Nat → ε) (xs : List β) : Prop :=
  (∀ n, len = .ok n → n = xs.length) ∧ ∀ out, m out =
    match len with
    | .ok n => if out.length < n then (.err (short n out.length), out) else (.ok n, xs ++ out.drop n)
    | .err e => (.err e, out)
    | .panic => (.panic, out)

section Commits

variable {m : Mut β ε Nat} {len : Outcome ε Nat} {short : Nat → Nat → ε} {xs : List β}

theorem Commits.eq_ok_iff (h : Commits m len short xs) {out out' : List β} {n : Nat} :
    m out = (.ok n, out') ↔ len = .ok n ∧ n ≤ out.length ∧ out' = xs ++ out.drop n := by
  rw [h.2 out]
  rcases len with k | e | _
  · simp only [Outcome.ok.injEq]
    by_cases hshort : out.length < k
    · rw [if_pos hshort]
      simp only [Prod.mk.injEq, reduceCtorEq, false_and, false_iff]
      rintro ⟨rfl, hle, -⟩
      omega
    · rw [if_neg hshort]
      simp only [Prod.mk.injEq, Outcome.ok.injEq]
      constructor
      · rintro ⟨rfl, rfl⟩
        exact ⟨rfl, Nat.le_of_not_lt hshort, rfl⟩
      · rintro ⟨rfl, -, rfl⟩
        exact ⟨rfl, rfl⟩
  · simp
  · simp

theorem Commits.agree {m' : Mut β ε Nat} {len' : Outcome ε Nat} (h : Commits m len short xs)
    (h' : Commits m' len' short xs) (hlen : ∀ n, len = .ok n ↔ len' = .ok n) (out out' : List β) (n : Nat) :
    m out = (.ok n, out') ↔ m' out = (.ok n, out') := by
  rw [h.eq_ok_iff, h'.eq_ok_iff, hlen]

theorem Commits.ok_iff (h : Commits m len short xs) (out : List β) (n : Nat) :
    (m out).1 = .ok n ↔ len = .ok n ∧ n ≤ out.length := by
  constructor
  · intro hm
    obtain ⟨hlen, hle, -⟩ := h.eq_ok_iff.mp (Prod.ext hm rfl : m out = (.ok n, (m out).2))
    exact ⟨hlen, hle⟩
  · rintro ⟨hlen, hle⟩
    rw [h.eq_ok_iff.mpr ⟨hlen, hle, rfl⟩]

theorem Commits.short_eq (h : Commits m len short xs) {out : List β} {n : Nat} (hlen : len = .ok n)
    (hshort : out.length < n) : m out = (.err (short n out.length), out) := by
  rw [h.2 out, hlen]
  exact if_pos hshort

theorem Commits.err_eq (h : Commits m len short xs) (out : List β) {e : ε} (hlen : len = .err e) :
    m out = (.err e, out) := by
  rw [h.2 out, hlen]

theorem Commits.safe (h : Commits m len short xs) (hlen : len.Safe) (out : List β) : (m out).1.Safe := by
  rw [h.2 out]
  rcases len with k | e | _
  · simp only
    split
    next => exact Outcome.safe_err _
    next => exact Outcome.safe_ok _
  · exact Outcome.safe_err _
  · exact absurd rfl hlen

theorem Commits.within {P : ε → Prop} (h : Commits m len short xs) (hlen : Outcome.Within P len) {out : List β}
    (hshort : ∀ n, len = .ok n → out.length < n → P (short n out.length)) : Outcome.Within P (m out).1 := by
  rw [h.2 out]
  rcases hx : len with n | e | _
  · simp only
    split
    next hless => exact (Outcome.within_err _).mpr (hshort n hx hless)
    next => exact Outcome.within_ok n
  · exact (Outcome.within_err e).mpr (hlen.err e hx)
  · exact absurd hx hlen.safe

theorem Commits.unchanged (h : Commits m len short xs) {out : List β} {e : ε} (he : (m out).1 = .err e) :
    (m out).2 = out := by
  rw [h.2 out] at he ⊢
  rcases len with k | e' | _
  · simp only at he ⊢
    split
    next => rfl
    next hlong =>
        rw [if_neg hlong] at he
        cases he
  · rfl
  · rfl

theorem Commits.stored (h : Commits m len short xs) {out out' : List β} {n : Nat} (hm : m out = (.ok n, out')) :
    n = xs.length ∧ out'.take n = xs ∧ out'.drop n = out.drop n ∧ out'.length = out.length := by
  obtain ⟨hlen, hle, rfl⟩ := h.eq_ok_iff.mp hm
  have hn := h.1 n hlen
  refine ⟨hn, List.take_left' hn.symm, List.drop_left' hn.symm, ?_⟩
  rw [List.length_append, List.length_drop]
  omega

end Commits

end Mut

end Difi.Machine
