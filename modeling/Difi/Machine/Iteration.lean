import Difi.Machine.Outcome
import Difi.Machine.Chunks

namespace Difi.Machine

/-- A cursor that is asked for one item after the other. Unless an instance says
otherwise, its hint about what is left is that it may be anything. -/
class Iterator (σ : Type) (item : outParam Type) where
  next : σ → Outcome Empty (Option item) × σ
  sizeHint : σ → Nat × Option Nat := fun _ => (0, none)

/-- A cursor that says to know how many items are left. The default reads the
number off the hint and panics when the two bounds of the hint differ. -/
class ExactSizeIterator (σ : Type) (item : outParam Type) extends Iterator σ item where
  len : σ → Outcome Empty Nat := fun it =>
    if (sizeHint it).2 = some (sizeHint it).1 then .ok (sizeHint it).1 else .panic

section Runs

variable {σ τ α β : Type}

/-- The cursor gives these items and then ends. -/
inductive Yields [Iterator σ α] : σ → List α → Prop
  | done {it : σ} : (Iterator.next it).1 = .ok none → Yields it []
  | item {it : σ} {x : α} {xs : List α} : (Iterator.next it).1 = .ok (some x) →
      Yields (Iterator.next it).2 xs → Yields it (x :: xs)

def advance [Iterator σ α] : Nat → σ → σ
  | 0, it => it
  | k + 1, it => advance k (Iterator.next it).2

theorem Yields.unique [Iterator σ α] {it : σ} {xs ys : List α} (h : Yields it xs) (h' : Yields it ys) :
    xs = ys := by
  induction h generalizing ys with
  | done hnone =>
      cases h' with
      | done _ => rfl
      | item hsome _ =>
          rw [hnone] at hsome
          cases hsome
  | item hsome _ ih =>
      cases h' with
      | done hnone =>
          rw [hsome] at hnone
          cases hnone
      | item hsome' hrest =>
          rw [hsome] at hsome'
          cases hsome'
          rw [ih hrest]

theorem Yields.iff [Iterator σ α] {it : σ} {xs : List α} (h : Yields it xs) (ys : List α) :
    Yields it ys ↔ ys = xs := by
  constructor
  · intro h'
    exact h'.unique h
  · rintro rfl
    exact h

theorem Yields.advance [Iterator σ α] {it : σ} {xs : List α} (h : Yields it xs) {k : Nat}
    (hk : k ≤ xs.length) : Yields (advance k it) (xs.drop k) := by
  induction h generalizing k with
  | done hnone =>
      obtain rfl := Nat.le_zero.mp hk
      exact .done hnone
  | item hsome hrest ih =>
      cases k with
      | zero => exact .item hsome hrest
      | succ k => exact ih (Nat.le_of_succ_le_succ hk)

theorem Yields.wrap [Iterator σ α] [Iterator τ β] (wrap : σ → τ) (f : α → β) {P : α → Prop}
    (hdone : ∀ it, (Iterator.next it).1 = .ok none → (Iterator.next (wrap it)).1 = .ok none)
    (hitem : ∀ it x, (Iterator.next it).1 = .ok (some x) → P x →
      (Iterator.next (wrap it)).1 = .ok (some (f x)) ∧ (Iterator.next (wrap it)).2 = wrap (Iterator.next it).2)
    {it : σ} {xs : List α} (h : Yields it xs) (hxs : ∀ x ∈ xs, P x) : Yields (wrap it) (xs.map f) := by
  induction h with
  | done hnone => exact .done (hdone _ hnone)
  | item hsome _ ih =>
      obtain ⟨hfirst, hnext⟩ := hitem _ _ hsome (hxs _ (List.mem_cons_self ..))
      have hrest := ih fun x hx => hxs x (List.mem_cons_of_mem _ hx)
      rw [← hnext] at hrest
      exact .item hfirst hrest

/-- What a cursor that knows its length promises about the items that are left. -/
structure Exact [ExactSizeIterator σ α] (it : σ) (rest : List α) : Prop where
  hint : Iterator.sizeHint it = (rest.length, some rest.length)
  len : ExactSizeIterator.len it = .ok rest.length
  yields : Yields it rest

end Runs

section ChunksExact

variable {α : Type} {size : Nat}

/-- A list that is gone through in chunks of one size. What does not fill a chunk
is kept apart. -/
structure ChunksExact (α : Type) (size : Nat) where
  v : List α
  rem : List α
  whole : size ∣ v.length

namespace ChunksExact

def new (size : Nat) (slice : List α) : ChunksExact α size where
  v := slice.take (slice.length - slice.length % size)
  rem := slice.drop (slice.length - slice.length % size)
  whole := by
    rw [List.length_take_of_le (Nat.sub_le _ _)]
    exact Nat.dvd_sub_mod slice.length

def remainder (c : ChunksExact α size) : List α := c.rem

instance : Iterator (ChunksExact α size) (List α) where
  next c :=
    if c.v.length < size then (.ok none, c)
    else (.ok (some (c.v.take size)), {
      v := c.v.drop size
      rem := c.rem
      whole := by
        rw [List.length_drop]
        exact Nat.dvd_sub c.whole (Nat.dvd_refl size) })
  sizeHint c := (c.v.length / size, some (c.v.length / size))

instance : ExactSizeIterator (ChunksExact α size) (List α) where

theorem next_short {c : ChunksExact α size} (h : c.v.length < size) : Iterator.next c = (.ok none, c) :=
  if_pos h

theorem next_long {c : ChunksExact α size} (h : ¬c.v.length < size) :
    (Iterator.next c).1 = .ok (some (c.v.take size)) ∧ (Iterator.next c).2.v = c.v.drop size := by
  simp only [Iterator.next]
  rw [if_neg h]
  exact ⟨rfl, rfl⟩

theorem yields (hsize : 0 < size) (c : ChunksExact α size) : Yields c (chunks size c.v) := by
  induction hn : c.v.length using Nat.strongRecOn generalizing c with
  | ind n ih =>
      by_cases hshort : c.v.length < size
      · rw [chunks_short hshort]
        exact .done (by rw [next_short hshort])
      · obtain ⟨hfirst, hrest⟩ := next_long hshort
        rw [chunks_cons hsize (Nat.le_of_not_lt hshort), ← hrest]
        refine .item hfirst (ih _ ?_ _ rfl)
        rw [hrest, List.length_drop]
        omega

theorem remainder_new (slice : List α) :
    (new size slice).remainder.isEmpty = true ↔ size ∣ slice.length := by
  have hle := Nat.mod_le slice.length size
  rw [remainder, new, List.isEmpty_iff, List.drop_eq_nil_iff, Nat.dvd_iff_mod_eq_zero]
  omega

theorem v_new {slice : List α} (h : size ∣ slice.length) : (new size slice).v = slice := by
  have hmod := Nat.dvd_iff_mod_eq_zero.mp h
  exact List.take_of_length_le (by omega)

theorem exact (hsize : 0 < size) (c : ChunksExact α size) : Exact c (chunks size c.v) where
  hint := by
    rw [length_chunks]
    rfl
  len := by
    rw [length_chunks]
    exact if_pos rfl
  yields := yields hsize c

end ChunksExact

end ChunksExact

end Difi.Machine
