import Mathlib.Data.List.Induction
import Mathlib.Logic.Function.Basic

namespace Difi.Machine

variable {α β κ : Type} [DecidableEq κ]

/-- A map seen through its lookups. -/
abbrev Table (κ β : Type) := κ → Option β

namespace Table

def empty : Table κ β := fun _ => none

def insert (t : Table κ β) (k : κ) (v : β) : Option β × Table κ β := (t k, Function.update t k (some v))

omit [DecidableEq κ] in
@[simp] theorem empty_apply (k : κ) : (empty : Table κ β) k = none := rfl

@[simp] theorem insert_fst (t : Table κ β) (k : κ) (v : β) : (t.insert k v).1 = t k := rfl

@[simp] theorem insert_self (t : Table κ β) (k : κ) (v : β) : (t.insert k v).2 k = some v := by
  unfold insert
  exact Function.update_self k (some v) t

theorem insert_of_ne (t : Table κ β) {j k : κ} (v : β) (h : j ≠ k) : (t.insert k v).2 j = t j := by
  unfold insert
  exact Function.update_of_ne h (some v) t

theorem forall_insert {t : Table κ β} {k : κ} {v : β} {P : β → Prop} (ht : ∀ j, ∀ w ∈ t j, P w) (hv : P v) :
    ∀ j, ∀ w ∈ (t.insert k v).2 j, P w := by
  intro j w hw
  by_cases hj : j = k
  · subst hj
    rw [insert_self] at hw
    cases hw
    exact hv
  · rw [insert_of_ne t v hj] at hw
    exact ht j w hw

end Table

/-- What a table is told: something to record, or to forget everything. -/
inductive Event (α : Type) where
  | observe (a : α)
  | reset

section Recording

variable (key : α → κ) (value : α → β)

def Table.record (t : Table κ β) : Event α → Table κ β
  | .observe a => (t.insert (key a) (value a)).2
  | .reset => .empty

def Table.recordAll (t : Table κ β) (events : List (Event α)) : Table κ β := events.foldl (record key value) t

def sinceReset (events : List (Event α)) : List α :=
  events.foldl (fun seen event => match event with
    | .observe a => seen ++ [a]
    | .reset => []) []

/-- The last observation of a key. -/
def latest (k : κ) (seen : List α) : Option α := (seen.filter fun a => key a = k).getLast?

def concerns (k : κ) : Event α → Bool
  | .observe a => key a = k
  | .reset => true

variable {key value}

theorem sinceReset_observe (events : List (Event α)) (a : α) :
    sinceReset (events ++ [.observe a]) = sinceReset events ++ [a] := by
  rw [sinceReset, List.foldl_append]
  rfl

theorem sinceReset_reset (events : List (Event α)) : sinceReset (events ++ [.reset]) = [] := by
  rw [sinceReset, List.foldl_append]
  rfl

theorem latest_append_self (seen : List α) {k : κ} {a : α} (h : key a = k) :
    latest key k (seen ++ [a]) = some a := by
  rw [latest, List.filter_append, List.filter_cons_of_pos (by simpa using h), List.filter_nil,
    List.getLast?_concat]

theorem latest_append_of_ne (seen : List α) {k : κ} {a : α} (h : key a ≠ k) :
    latest key k (seen ++ [a]) = latest key k seen := by
  rw [latest, List.filter_append, List.filter_cons_of_neg (by simpa using h), List.filter_nil,
    List.append_nil, latest]

theorem latest_map {γ μ : Type} [DecidableEq μ] {f : γ → α} {label : γ → μ} {k : κ} {l : μ} {seen : List γ}
    (h : ∀ x ∈ seen, key (f x) = k ↔ label x = l) : latest key k (seen.map f) = (latest label l seen).map f := by
  have hfilter : seen.filter ((fun a => decide (key a = k)) ∘ f) = seen.filter fun x => label x = l :=
    List.filter_congr fun x hx => decide_eq_decide.mpr (h x hx)
  rw [latest, List.filter_map, hfilter, List.getLast?_map, latest]

theorem Table.recordAll_append (t : Table κ β) (events : List (Event α)) (e : Event α) :
    t.recordAll key value (events ++ [e]) = (t.recordAll key value events).record key value e := by
  rw [recordAll, List.foldl_append]
  rfl

/-- The table refines the history: it holds the last observation of each key. -/
theorem Table.recordAll_eq (events : List (Event α)) (k : κ) :
    (Table.empty : Table κ β).recordAll key value events k = (latest key k (sinceReset events)).map value := by
  induction events using List.reverseRecOn with
  | nil => rfl
  | append_singleton events e ih =>
      rw [recordAll_append]
      cases e with
      | reset =>
          rw [sinceReset_reset]
          rfl
      | observe a =>
          rw [sinceReset_observe, record]
          by_cases h : key a = k
          · subst h
            rw [insert_self, latest_append_self _ rfl]
            rfl
          · rw [insert_of_ne _ _ (Ne.symm h), latest_append_of_ne _ h, ih]

end Recording

end Difi.Machine
