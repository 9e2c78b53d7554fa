import Mathlib.Order.Interval.Finset.Nat
import Mathlib.Data.Finset.Card
import Mathlib.Data.List.GetD

namespace Difi.Machine

/-- The places that are missing between the first and the last of a list of
places. -/
def missingBetween : List Nat → Nat
  | [] => 0
  | first :: rest => (Finset.Icc first (rest.getLastD first) \ (first :: rest).toFinset).card

theorem places_bounds {first : Nat} {rest : List Nat} (h : (first :: rest).Pairwise (· < ·)) :
    ∀ i ∈ first :: rest, first ≤ i ∧ i ≤ rest.getLastD first := by
  induction rest generalizing first with
  | nil =>
      intro i hi
      obtain rfl := List.mem_singleton.mp hi
      exact ⟨Nat.le_refl i, Nat.le_refl i⟩
  | cons second rest ih =>
      obtain ⟨hfirst, hrest⟩ := List.pairwise_cons.mp h
      have hsecond := hfirst second (List.mem_cons_self ..)
      intro i hi
      rw [List.getLastD_cons]
      rcases List.mem_cons.mp hi with rfl | hi
      · have hlast := (ih hrest second (List.mem_cons_self ..)).2
        omega
      · obtain ⟨hlow, hhigh⟩ := ih hrest i hi
        omega

theorem missingBetween_add {first : Nat} {rest : List Nat} (h : (first :: rest).Pairwise (· < ·)) :
    missingBetween (first :: rest) + rest.length + first = rest.getLastD first := by
  have hbounds := places_bounds h
  have hsubset : (first :: rest).toFinset ⊆ Finset.Icc first (rest.getLastD first) := by
    intro i hi
    exact Finset.mem_Icc.mpr (hbounds i (List.mem_toFinset.mp hi))
  have hnodup : (first :: rest).Nodup := h.imp Nat.ne_of_lt
  have hcard := List.toFinset_card_of_nodup hnodup
  have hle := Finset.card_le_card hsubset
  rw [hcard, Nat.card_Icc, List.length_cons] at hle
  rw [missingBetween, Finset.card_sdiff_of_subset hsubset, hcard, Nat.card_Icc, List.length_cons]
  omega

theorem missingBetween_append {places : List Nat} {last k : Nat} (h : (places ++ [k]).Pairwise (· < ·))
    (hlast : places.getLast? = some last) :
    missingBetween (places ++ [k]) = missingBetween places + (k - last - 1) := by
  cases places with
  | nil => cases hlast
  | cons first rest =>
      have hplaces := List.pairwise_append.mp h
      have hlt := hplaces.2.2 last (List.mem_of_getLast? hlast) k (List.mem_singleton_self k)
      have hend : rest.getLastD first = last := by
        rw [List.getLast?_cons, ← List.getLastD_eq_getLast?] at hlast
        exact Option.some.inj hlast
      have hbefore := missingBetween_add hplaces.1
      have hafter : missingBetween (first :: (rest ++ [k])) + (rest ++ [k]).length + first =
          (rest ++ [k]).getLastD first := missingBetween_add h
      rw [List.length_append, List.length_singleton, List.getLastD_concat] at hafter
      rw [List.cons_append]
      omega

theorem missingBetween_countP {places : List Nat} {n : Nat} (h : places.Pairwise (· < ·))
    (hn : ∀ i ∈ places, i < n) : missingBetween places =
      (List.range n).countP fun k => k ∉ places ∧ (∃ i ∈ places, i < k) ∧ ∃ j ∈ places, k < j := by
  have hcard : ∀ p : Nat → Bool, (List.range n).countP p = ((Finset.range n).filter fun k => p k).card := by
    intro p
    rw [List.countP_eq_length_filter, ← List.toFinset_card_of_nodup (List.nodup_range.filter _),
      List.toFinset_filter, List.toFinset_range]
  rw [hcard]
  cases places with
  | nil => simp [missingBetween]
  | cons first rest =>
      have hbounds := places_bounds h
      have hlast : rest.getLastD first ∈ first :: rest := List.getLastD_mem_cons
      rw [missingBetween]
      congr 1
      ext k
      simp only [Finset.mem_sdiff, Finset.mem_Icc, List.mem_toFinset, Finset.mem_filter, Finset.mem_range,
        decide_eq_true_eq]
      constructor
      · rintro ⟨⟨hlow, hhigh⟩, hk⟩
        have hlt : first < k := Nat.lt_of_le_of_ne hlow fun heq => hk (heq ▸ List.mem_cons_self ..)
        have hgt : k < rest.getLastD first := Nat.lt_of_le_of_ne hhigh fun heq => hk (heq ▸ hlast)
        exact ⟨hgt.trans (hn _ hlast), hk, ⟨first, List.mem_cons_self .., hlt⟩, _, hlast, hgt⟩
      · rintro ⟨-, hk, ⟨i, hi, hlow⟩, j, hj, hhigh⟩
        have hfirst := (hbounds i hi).1
        have hend := (hbounds j hj).2
        exact ⟨⟨by omega, by omega⟩, hk⟩

end Difi.Machine
