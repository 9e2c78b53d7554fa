import Difi.Machine.Outcome
import Difi.Machine.History
import Mathlib.Data.Finset.Basic

namespace Difi.Machine

section Runs

variable {ε α β ρ : Type}

/-- Reading items one after the other, up to the first that cannot be read. -/
def readAll (read : α → Outcome ε ρ) : List α → Outcome ε (List ρ)
  | [] => .ok []
  | a :: as => do
    let r ← read a
    let rs ← readAll read as
    .ok (r :: rs)

/-- A loop that reads each item and keeps a value of all that was read can read
the items first. -/
theorem foldlM_readAll {f : β → α → Outcome ε β} {read : α → Outcome ε ρ} {g : List ρ → β}
    (hstep : ∀ seen a, f (g seen) a = read a >>= fun r => .ok (g (seen ++ [r]))) (seen : List ρ) (as : List α) :
    as.foldlM f (g seen) = readAll read as >>= fun rs => .ok (g (seen ++ rs)) := by
  induction as generalizing seen with
  | nil =>
      rw [readAll, Outcome.ok_bind, List.append_nil]
      rfl
  | cons a as ih =>
      rw [List.foldlM_cons, hstep, readAll, Outcome.bind_assoc', Outcome.bind_assoc']
      refine congrArg _ (funext fun r => ?_)
      rw [Outcome.ok_bind, ih, Outcome.bind_assoc']
      simp only [Outcome.ok_bind, List.append_assoc, List.singleton_append]

theorem readAll_ok (as : List α) : readAll (ε := ε) .ok as = .ok as := by
  induction as with
  | nil => rfl
  | cons a as ih => rw [readAll, Outcome.ok_bind, ih, Outcome.ok_bind]

theorem foldlM_seen {f : β → α → Outcome ε β} {g : List α → β}
    (hstep : ∀ seen a, f (g seen) a = .ok (g (seen ++ [a]))) (as : List α) :
    as.foldlM f (g []) = .ok (g as) := by
  have hread : as.foldlM f (g []) = readAll Outcome.ok as >>= fun rs => .ok (g ([] ++ rs)) :=
    foldlM_readAll (fun seen a => hstep seen a) [] as
  rw [readAll_ok, Outcome.ok_bind, List.nil_append] at hread
  exact hread

theorem readAll_cons_eq_ok {read : α → Outcome ε ρ} {a : α} {as : List α} {rs : List ρ} :
    readAll read (a :: as) = .ok rs ↔ ∃ r rest, rs = r :: rest ∧ read a = .ok r ∧ readAll read as = .ok rest := by
  simp only [readAll, Outcome.bind_eq_ok, Outcome.ok.injEq]
  constructor
  · rintro ⟨r, hr, rest, hrest, rfl⟩
    exact ⟨r, rest, rfl, hr, hrest⟩
  · rintro ⟨r, rest, rfl, hr, hrest⟩
    exact ⟨r, hr, rest, hrest, rfl⟩

theorem readAll_mem {read : α → Outcome ε ρ} {as : List α} {rs : List ρ} (h : readAll read as = .ok rs) :
    ∀ r ∈ rs, ∃ a ∈ as, read a = .ok r := by
  induction as generalizing rs with
  | nil =>
      cases h
      simp
  | cons a as ih =>
      obtain ⟨r, rest, rfl, hr, hrest⟩ := readAll_cons_eq_ok.mp h
      rw [List.forall_mem_cons]
      refine ⟨⟨a, List.mem_cons_self .., hr⟩, fun r' hr' => ?_⟩
      obtain ⟨a', ha', hread⟩ := ih hrest r' hr'
      exact ⟨a', List.mem_cons_of_mem a ha', hread⟩

theorem readAll_err {read : α → Outcome ε ρ} {as : List α} {e : ε} (h : readAll read as = .err e) :
    ∃ a ∈ as, read a = .err e := by
  induction as with
  | nil => cases h
  | cons a as ih =>
      obtain ha | ⟨r, -, h⟩ := Outcome.bind_eq_err.mp h
      · exact ⟨a, List.mem_cons_self .., ha⟩
      · obtain h | ⟨rs, -, h⟩ := Outcome.bind_eq_err.mp h
        · obtain ⟨a', ha', hread⟩ := ih h
          exact ⟨a', List.mem_cons_of_mem a ha', hread⟩
        · cases h

theorem readAll_all {read : α → Outcome ε ρ} {P : ρ → Prop} {as : List α} :
    (∃ rs, readAll read as = .ok rs ∧ ∀ r ∈ rs, P r) ↔ ∀ a ∈ as, ∃ r, read a = .ok r ∧ P r := by
  induction as with
  | nil => simp [readAll]
  | cons a as ih =>
      rw [List.forall_mem_cons, ← ih]
      simp only [readAll_cons_eq_ok]
      constructor
      · rintro ⟨rs, ⟨r, rest, rfl, hr, hrest⟩, hP⟩
        rw [List.forall_mem_cons] at hP
        exact ⟨⟨r, hr, hP.1⟩, rest, hrest, hP.2⟩
      · rintro ⟨⟨r, hr, hPr⟩, rest, hrest, hP⟩
        exact ⟨r :: rest, ⟨r, rest, rfl, hr, hrest⟩, List.forall_mem_cons.mpr ⟨hPr, hP⟩⟩

theorem readAll_nil_iff {read : α → Outcome ε ρ} {as : List α} {rs : List ρ} (h : readAll read as = .ok rs) :
    rs = [] ↔ as = [] := by
  cases as with
  | nil =>
      cases h
      simp
  | cons a as =>
      obtain ⟨r, rest, rfl, -⟩ := readAll_cons_eq_ok.mp h
      simp

end Runs

section Tally

variable {κ α : Type} [DecidableEq κ]

def Table.bump (t : Table κ Nat) (k : κ) : Table κ Nat := (t.insert k ((t k).getD 0 + 1)).2

/-- How often each key occurs; the keys that do not occur are not in the table. -/
def tally (key : α → κ) (as : List α) : Table κ Nat := fun k =>
  if as.countP (fun a => key a = k) = 0 then none else some (as.countP fun a => key a = k)

theorem tally_getD (key : α → κ) (as : List α) (k : κ) :
    (tally key as k).getD 0 = as.countP fun a => key a = k := by
  unfold tally
  split
  next h => exact h.symm
  next => rfl

theorem tally_append (key : α → κ) (as : List α) (a : α) :
    tally key (as ++ [a]) = (tally key as).bump (key a) := by
  have hcount (k : κ) : (as ++ [a]).countP (fun b => key b = k) =
      as.countP (fun b => key b = k) + if key a = k then 1 else 0 := by
    rw [List.countP_append, List.countP_singleton]
    simp
  funext k
  by_cases hk : key a = k
  · subst hk
    rw [Table.bump, Table.insert_self, tally_getD, tally, hcount, if_pos rfl, if_neg (Nat.succ_ne_zero _)]
  · rw [Table.bump, Table.insert_of_ne _ _ (Ne.symm hk), tally, hcount, if_neg hk, Nat.add_zero, tally]

end Tally

end Difi.Machine
