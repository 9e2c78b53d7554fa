import Mathlib.Algebra.Group.Nat.Defs
import Mathlib.Logic.Basic
import Mathlib.Tactic.TypeStar

namespace Difi.Machine

/-- What a call of a panicking language comes back with. The third case is a
panic, an abort that no caller can handle. -/
inductive Outcome (ε α : Type) where
  | ok (a : α)
  | err (e : ε)
  | panic
deriving DecidableEq, Repr

namespace Outcome

variable {ε δ α β : Type}

def bind : Outcome ε α → (α → Outcome ε β) → Outcome ε β
  | .ok a, f => f a
  | .err e, _ => .err e
  | .panic, _ => .panic

instance : Monad (Outcome ε) where
  pure := .ok
  bind := bind

def map (f : α → β) : Outcome ε α → Outcome ε β
  | .ok a => .ok (f a)
  | .err e => .err e
  | .panic => .panic

def mapErr (f : ε → δ) : Outcome ε α → Outcome δ α
  | .ok a => .ok a
  | .err e => .err (f e)
  | .panic => .panic

/-- Unwrapping a result that the caller takes to be a success. -/
def expect : Outcome ε α → Outcome δ α
  | .ok a => .ok a
  | .err _ | .panic => .panic

def handle : Outcome ε α → (ε → Outcome δ α) → Outcome δ α
  | .ok a, _ => .ok a
  | .err e, f => f e
  | .panic, _ => .panic

def okOr (o : Option α) (e : ε) : Outcome ε α :=
  match o with
  | some a => .ok a
  | none => .err e

def toOption : Outcome ε α → Option α
  | .ok a => some a
  | .err _ | .panic => none

@[simp] theorem pure_eq (a : α) : (pure a : Outcome ε α) = .ok a := rfl

@[simp] theorem ok_bind (a : α) (f : α → Outcome ε β) : (Outcome.ok a >>= f) = f a := rfl

@[simp] theorem err_bind (e : ε) (f : α → Outcome ε β) : (Outcome.err e >>= f) = .err e := rfl

@[simp] theorem panic_bind (f : α → Outcome ε β) : (Outcome.panic >>= f) = .panic := rfl

theorem bind_assoc' {γ : Type} (x : Outcome ε α) (f : α → Outcome ε β) (g : β → Outcome ε γ) :
    (x >>= f) >>= g = x >>= fun a => f a >>= g := by
  cases x <;> rfl

theorem bind_eq_ok {x : Outcome ε α} {f : α → Outcome ε β} {b : β} :
    (x >>= f) = .ok b ↔ ∃ a, x = .ok a ∧ f a = .ok b := by
  cases x <;> simp

theorem bind_eq_err {x : Outcome ε α} {f : α → Outcome ε β} {e : ε} :
    (x >>= f) = .err e ↔ x = .err e ∨ ∃ a, x = .ok a ∧ f a = .err e := by
  cases x <;> simp

theorem if_eq_ok {p : Prop} [Decidable p] {x y : Outcome ε α} {a : α} :
    (if p then x else y) = .ok a ↔ (p ∧ x = .ok a) ∨ (¬p ∧ y = .ok a) := by
  split
  next h => simp [h]
  next h => simp [h]

theorem bind_ok_unit (x : Outcome ε Unit) : (x >>= fun _ => .ok ()) = x := by
  cases x <;> rfl

@[simp] theorem map_ok (f : α → β) (a : α) : (Outcome.ok a : Outcome ε α).map f = .ok (f a) := rfl

@[simp] theorem map_err (f : α → β) (e : ε) : (Outcome.err e : Outcome ε α).map f = .err e := rfl

@[simp] theorem handle_ok (a : α) (f : ε → Outcome δ α) : (Outcome.ok a).handle f = .ok a := rfl

@[simp] theorem handle_err (e : ε) (f : ε → Outcome δ α) : (Outcome.err e).handle f = f e := rfl

theorem toOption_eq_some {x : Outcome ε α} {a : α} : x.toOption = some a ↔ x = .ok a := by
  cases x <;> simp [toOption]

theorem toOption_map (f : α → β) (x : Outcome ε α) : (x.map f).toOption = x.toOption.map f := by
  cases x <;> rfl

theorem toOption_bind_none {x : Outcome ε α} (h : x.toOption = none) (f : α → Outcome ε β) :
    (x >>= f).toOption = none := by
  cases x with
  | ok a => cases h
  | err e => rfl
  | panic => rfl

theorem exists_unit {q : Unit → Prop} : (∃ u, q u) ↔ q () := ⟨fun ⟨_, h⟩ => h, fun h => ⟨(), h⟩⟩

theorem check_eq_ok {x : Outcome ε Unit} {f : Unit → Outcome ε β} {b : β} :
    (x >>= f) = .ok b ↔ x = .ok () ∧ f () = .ok b :=
  bind_eq_ok.trans exists_unit

theorem map_eq_ok {f : α → β} {x : Outcome ε α} {b : β} :
    x.map f = .ok b ↔ ∃ a, x = .ok a ∧ f a = b := by
  cases x <;> simp [map]

@[simp] theorem mapErr_ok (f : ε → δ) (a : α) : (Outcome.ok a).mapErr f = .ok a := rfl

@[simp] theorem mapErr_err (f : ε → δ) (e : ε) : (Outcome.err e : Outcome ε α).mapErr f = .err (f e) := rfl

@[simp] theorem mapErr_eq_ok {f : ε → δ} {x : Outcome ε α} {a : α} :
    x.mapErr f = .ok a ↔ x = .ok a := by
  cases x <;> simp [mapErr]

theorem mapErr_bind (f : ε → δ) (x : Outcome ε α) (g : α → Outcome ε β) :
    (x >>= g).mapErr f = x.mapErr f >>= fun a => (g a).mapErr f := by
  cases x <;> rfl

@[simp] theorem expect_ok (a : α) : (Outcome.ok a : Outcome ε α).expect = (.ok a : Outcome δ α) := rfl

@[simp] theorem okOr_some (a : α) (e : ε) : okOr (some a) e = .ok a := rfl

@[simp] theorem okOr_none (e : ε) : okOr (none : Option α) e = .err e := rfl

theorem okOr_eq_ok {o : Option α} {e : ε} {a : α} : okOr o e = .ok a ↔ o = some a := by
  cases o <;> simp [okOr]

/-- A call that returns, with a value or with an error. -/
def Safe (x : Outcome ε α) : Prop := x ≠ .panic

@[simp] theorem safe_ok (a : α) : Safe (.ok a : Outcome ε α) := by
  intro h
  cases h

@[simp] theorem safe_err (e : ε) : Safe (.err e : Outcome ε α) := by
  intro h
  cases h

theorem safe_of_eq_ok {x : Outcome ε α} {a : α} (h : x = .ok a) : Safe x := by
  rw [h]
  exact safe_ok a

theorem Safe.bind {x : Outcome ε α} {f : α → Outcome ε β} (hx : Safe x)
    (hf : ∀ a, x = .ok a → Safe (f a)) : Safe (x >>= f) := by
  cases x with
  | ok a => exact hf a rfl
  | err e => exact safe_err e
  | panic => exact absurd rfl hx

@[simp] theorem safe_bind {x : Outcome ε α} {f : α → Outcome ε β} (hx : Safe x) (hf : ∀ a, Safe (f a)) :
    Safe (x >>= f) :=
  hx.bind fun a _ => hf a

theorem Safe.ite {p : Prop} [Decidable p] {x y : Outcome ε α} (hx : p → Safe x) (hy : ¬p → Safe y) :
    Safe (if p then x else y) := by
  split
  next h => exact hx h
  next h => exact hy h

@[simp] theorem safe_ite {p : Prop} [Decidable p] {x y : Outcome ε α} (hx : Safe x) (hy : Safe y) :
    Safe (if p then x else y) :=
  Safe.ite (fun _ => hx) fun _ => hy

theorem Safe.mapErr {x : Outcome ε α} (hx : Safe x) (f : ε → δ) : Safe (x.mapErr f) := by
  cases x with
  | ok a => exact safe_ok a
  | err e => exact safe_err (f e)
  | panic => exact absurd rfl hx

@[simp] theorem safe_okOr (o : Option α) (e : ε) : Safe (okOr o e) := by
  cases o with
  | none => exact safe_err e
  | some a => exact safe_ok a

def Raises (P : ε → Prop) (x : Outcome ε α) : Prop := ∃ e, x = .err e ∧ P e

section Raises

variable {P : ε → Prop}

@[simp] theorem raises_ok (a : α) : ¬Raises P (.ok a : Outcome ε α) := by
  rintro ⟨e, h, -⟩
  cases h

@[simp] theorem raises_panic : ¬Raises P (.panic : Outcome ε α) := by
  rintro ⟨e, h, -⟩
  cases h

@[simp] theorem raises_err (e : ε) : Raises P (.err e : Outcome ε α) ↔ P e := by
  simp [Raises]

theorem raises_bind {x : Outcome ε α} {f : α → Outcome ε β} :
    Raises P (x >>= f) ↔ Raises P x ∨ ∃ a, x = .ok a ∧ Raises P (f a) := by
  cases x <;> simp

theorem raises_map {f : α → β} {x : Outcome ε α} : Raises P (x.map f) ↔ Raises P x := by
  cases x <;> simp [map]

theorem raises_ite {p : Prop} [Decidable p] {x y : Outcome ε α} :
    Raises P (if p then x else y) ↔ (p ∧ Raises P x) ∨ (¬p ∧ Raises P y) := by
  split
  next h => simp [h]
  next h => simp [h]

/-- A call that returns, with a value or with an error of a kind. -/
structure Within (P : ε → Prop) (x : Outcome ε α) : Prop where
  safe : Safe x
  err : ∀ e, x = .err e → P e

@[simp] theorem within_ok (a : α) : Within P (.ok a : Outcome ε α) where
  safe := safe_ok a
  err e h := by cases h

theorem within_of_eq_ok {x : Outcome ε α} {a : α} (h : x = .ok a) : Within P x := by
  rw [h]
  exact within_ok a

@[simp] theorem within_err (e : ε) : Within P (.err e : Outcome ε α) ↔ P e := by
  constructor
  · intro h
    exact h.err e rfl
  · intro h
    refine ⟨safe_err e, fun e' he => ?_⟩
    cases he
    exact h

theorem Within.bind {x : Outcome ε α} {f : α → Outcome ε β} (hx : Within P x)
    (hf : ∀ a, x = .ok a → Within P (f a)) : Within P (x >>= f) := by
  cases x with
  | ok a => exact hf a rfl
  | err e => exact (within_err e).mpr (hx.err e rfl)
  | panic => exact absurd rfl hx.safe

theorem within_bind {x : Outcome ε α} {f : α → Outcome ε β} (hx : Within P x) (hf : ∀ a, Within P (f a)) :
    Within P (x >>= f) :=
  hx.bind fun a _ => hf a

@[simp] theorem within_ite {p : Prop} [Decidable p] {x y : Outcome ε α} :
    Within P (if p then x else y) ↔ (p → Within P x) ∧ (¬p → Within P y) := by
  split
  next h => simp [h]
  next h => simp [h]

theorem within_check {p : Prop} [Decidable p] {e : ε} :
    Within P (if p then (.ok () : Outcome ε Unit) else .err e) ↔ (¬p → P e) := by
  simp

theorem within_okOr {o : Option α} {e : ε} : Within P (okOr o e) ↔ (o.isSome = false → P e) := by
  cases o with
  | none => simp [okOr]
  | some a => simp [okOr]

theorem within_map {x : Outcome ε α} (f : α → β) (h : Within P x) :
    Within P (x.map f) := by
  cases x with
  | ok a => exact within_ok (f a)
  | err e => exact (within_err e).mpr (h.err e rfl)
  | panic => exact absurd rfl h.safe

theorem Within.mono {Q : ε → Prop} {x : Outcome ε α} (hx : Within P x) (h : ∀ e, P e → Q e) : Within Q x where
  safe := hx.safe
  err e he := h e (hx.err e he)

theorem Within.not_raises {Q : ε → Prop} {x : Outcome ε α} (hx : Within P x) (h : ∀ e, P e → ¬Q e) :
    ¬Raises Q x := by
  rintro ⟨e, he, hQ⟩
  exact h e (hx.err e he) hQ

end Raises

end Outcome

open Outcome

section Checked

variable {ε α : Type}

/-- The values of a machine size are below this bound. -/
def usizeLimit : Nat := 2 ^ 64

def addUsize (a b : Nat) : Outcome ε Nat := if a + b < usizeLimit then .ok (a + b) else .panic

def mulUsize (a b : Nat) : Outcome ε Nat := if a * b < usizeLimit then .ok (a * b) else .panic

def subUsize (a b : Nat) : Outcome ε Nat := if b ≤ a then .ok (a - b) else .panic

def checkedMulUsize (a b : Nat) : Option Nat := if a * b < usizeLimit then some (a * b) else none

def checkedAddUsize (a b : Nat) : Option Nat := if a + b < usizeLimit then some (a + b) else none

/-- The most bytes that one object in memory has. -/
def isizeMax : Nat := 2 ^ 63 - 1

def addU8 (a b : UInt8) : Outcome ε UInt8 :=
  if a.toNat + b.toNat < 256 then .ok (a + b) else .panic

def subU8 (a b : UInt8) : Outcome ε UInt8 := if b ≤ a then .ok (a - b) else .panic

def subU16 (a b : UInt16) : Outcome ε UInt16 := if b ≤ a then .ok (a - b) else .panic

def shlU16 (a s : UInt16) : Outcome ε UInt16 := if s < 16 then .ok (a <<< s) else .panic

def tryIntoU16 (n : Nat) : Option UInt16 := if n < 65536 then some (UInt16.ofNat n) else none

def tryIntoU32 (n : Nat) : Option UInt32 := if n < 2 ^ 32 then some (UInt32.ofNat n) else none

def mulU64 (a b : UInt64) : Outcome ε UInt64 := if a.toNat * b.toNat < 2 ^ 64 then .ok (a * b) else .panic

/-- An assertion that a build with checks runs. -/
def debugAssert (holds : Bool) : Outcome ε Unit := if holds then .ok () else .panic

def indexAt (xs : List α) (i : Nat) : Outcome ε α :=
  match xs[i]? with
  | some x => .ok x
  | none => .panic

/-- The optional slice from start to stop, without a panic. -/
def getRange (xs : List α) (start stop : Nat) : Option (List α) :=
  if start ≤ stop ∧ stop ≤ xs.length then some ((xs.drop start).take (stop - start)) else none

def sliceRange (xs : List α) (start stop : Nat) : Outcome ε (List α) :=
  match getRange xs start stop with
  | some slice => .ok slice
  | none => .panic

def sliceFrom (xs : List α) (start : Nat) : Outcome ε (List α) :=
  if start ≤ xs.length then .ok (xs.drop start) else .panic

def sliceTo (xs : List α) (stop : Nat) : Outcome ε (List α) :=
  if stop ≤ xs.length then .ok (xs.take stop) else .panic

theorem addUsize_ok {a b : Nat} (h : a + b < usizeLimit) : (addUsize a b : Outcome ε Nat) = .ok (a + b) :=
  if_pos h

theorem addUsize_eq_ok {a b c : Nat} :
    (addUsize a b : Outcome ε Nat) = .ok c ↔ a + b < usizeLimit ∧ a + b = c := by
  rw [addUsize, Outcome.if_eq_ok]
  simp

theorem mulUsize_ok {a b : Nat} (h : a * b < usizeLimit) : (mulUsize a b : Outcome ε Nat) = .ok (a * b) :=
  if_pos h

theorem subUsize_ok {a b : Nat} (h : b ≤ a) : (subUsize a b : Outcome ε Nat) = .ok (a - b) :=
  if_pos h

theorem addU8_ok {a b : UInt8} (h : a.toNat + b.toNat < 256) : (addU8 a b : Outcome ε UInt8) = .ok (a + b) :=
  if_pos h

theorem mulU64_ok {a b : UInt64} (h : a.toNat * b.toNat < 2 ^ 64) :
    (mulU64 a b : Outcome ε UInt64) = .ok (a * b) :=
  if_pos h

theorem subU8_ok {a b : UInt8} (h : b ≤ a) : (subU8 a b : Outcome ε UInt8) = .ok (a - b) :=
  if_pos h

theorem subU16_ok {a b : UInt16} (h : b ≤ a) : (subU16 a b : Outcome ε UInt16) = .ok (a - b) :=
  if_pos h

theorem shlU16_ok {a s : UInt16} (h : s < 16) : (shlU16 a s : Outcome ε UInt16) = .ok (a <<< s) :=
  if_pos h

theorem indexAt_ok {xs : List α} {i : Nat} (h : i < xs.length) : (indexAt xs i : Outcome ε α) = .ok xs[i] := by
  simp [indexAt, h]

theorem indexAt_getD {xs : List α} {i : Nat} (d : α) (h : i < xs.length) :
    (indexAt xs i : Outcome ε α) = .ok (xs.getD i d) := by
  rw [indexAt_ok h]
  simp [h]

theorem getRange_some {xs : List α} {start stop : Nat} (h : start ≤ stop) (hstop : stop ≤ xs.length) :
    getRange xs start stop = some ((xs.drop start).take (stop - start)) :=
  if_pos ⟨h, hstop⟩

theorem getRange_none {xs : List α} {start stop : Nat} (h : xs.length < stop) : getRange xs start stop = none :=
  if_neg fun hrange => absurd hrange.2 (Nat.not_le_of_lt h)

theorem sliceRange_ok {xs : List α} {start stop : Nat} (h : start ≤ stop) (hstop : stop ≤ xs.length) :
    (sliceRange xs start stop : Outcome ε (List α)) = .ok ((xs.drop start).take (stop - start)) := by
  rw [sliceRange, getRange_some h hstop]

theorem checkedAddUsize_some {a b : Nat} (h : a + b < usizeLimit) : checkedAddUsize a b = some (a + b) :=
  if_pos h

theorem checkedAddUsize_eq_some {a b c : Nat} :
    checkedAddUsize a b = some c ↔ a + b < usizeLimit ∧ a + b = c := by
  simp [checkedAddUsize]

theorem sliceFrom_ok {xs : List α} {start : Nat} (h : start ≤ xs.length) :
    (sliceFrom xs start : Outcome ε (List α)) = .ok (xs.drop start) :=
  if_pos h

theorem sliceTo_ok {xs : List α} {stop : Nat} (h : stop ≤ xs.length) :
    (sliceTo xs stop : Outcome ε (List α)) = .ok (xs.take stop) :=
  if_pos h

theorem tryIntoU16_eq_some {n : Nat} {w : UInt16} : tryIntoU16 n = some w ↔ w.toNat = n := by
  unfold tryIntoU16
  split
  next h =>
      constructor
      · rintro ⟨⟩
        simp [Nat.mod_eq_of_lt h]
      · rintro rfl
        simp
  next h =>
      simp only [reduceCtorEq, false_iff]
      have := w.toNat_lt
      omega

end Checked

end Difi.Machine
