import Difi.Machine.Loop
import Mathlib.Data.List.TakeDrop

namespace Difi.Machine

variable {ε σ α : Type}

theorem take_drop_append (b : List α) {m n : Nat} (h : m ≤ n) :
    (b.drop m).take (n - m) ++ b.drop n = b.drop m := by
  conv_rhs => rw [← List.take_append_drop (n - m) (b.drop m), List.drop_drop, Nat.add_sub_cancel' h]

/-- A reader that goes through a list by an offset, in rounds. A round that
succeeds looks at the list up to where the next one starts. A round that is cut
short says so and names where it has started. Lists are no longer than a limit. -/
structure Walk (offset : σ → Nat) (body : List α → σ → Outcome ε σ) (limit : Nat) (cut : Nat → ε → Prop) :
    Prop where
  forward : ∀ b s t, b.length ≤ limit → offset s < b.length → body b s = .ok t →
    offset s < offset t ∧ offset t ≤ b.length
  agree : ∀ b c s t, b.length ≤ limit → c.length ≤ limit → offset s < b.length → body b s = .ok t →
    c.take (offset t) = b.take (offset t) → body c s = .ok t
  short : ∀ b s t n, b.length ≤ limit → body b s = .ok t → offset s < n → n < offset t → offset t ≤ b.length →
    ∃ e, body (b.take n) s = .err e ∧ cut (offset s) e

section Walks

variable {offset : σ → Nat} {body : List α → σ → Outcome ε σ} {limit : Nat} {cut : Nat → ε → Prop}

def unread (offset : σ → Nat) (b : List α) (s : σ) : Bool := offset s < b.length

@[simp] theorem unread_eq_true {b : List α} {s : σ} : unread offset b s = true ↔ offset s < b.length :=
  decide_eq_true_iff

@[simp] theorem unread_eq_false {b : List α} {s : σ} : unread offset b s = false ↔ b.length ≤ offset s := by
  rw [unread, decide_eq_false_iff_not, Nat.not_lt]

abbrev Walked (offset : σ → Nat) (body : List α → σ → Outcome ε σ) (b : List α) : σ → σ → Prop :=
  Heads (unread offset b) (body b)

theorem Walk.mono (h : Walk offset body limit cut) {b : List α} {s t : σ} (hb : b.length ≤ limit)
    (hwalk : Walked offset body b s t) : offset s ≤ offset t := by
  induction hwalk with
  | refl s => exact Nat.le_refl _
  | round hcond hbody _ ih =>
      have hforward := (h.forward b _ _ hb (unread_eq_true.mp hcond) hbody).1
      omega

theorem Walk.bound (h : Walk offset body limit cut) {b : List α} {s t : σ} (hb : b.length ≤ limit)
    (hwalk : Walked offset body b s t) (hs : offset s ≤ b.length) : offset t ≤ b.length :=
  hwalk.invariant (P := fun u => offset u ≤ b.length)
    (fun u v hcond hbody _ => (h.forward b u v hb (unread_eq_true.mp hcond) hbody).2) hs

theorem take_eq_of_le {b c : List α} {m n : Nat} (h : c.take n = b.take n) (hm : m ≤ n) : c.take m = b.take m := by
  rw [← Nat.min_eq_left hm, ← List.take_take, h, List.take_take]

theorem length_of_take_eq {b c : List α} {n : Nat} (h : c.take n = b.take n) (hn : n ≤ b.length) :
    n ≤ c.length := by
  have hlen := congrArg List.length h
  rw [List.length_take, List.length_take] at hlen
  omega

theorem Walk.agreeing (h : Walk offset body limit cut) {b c : List α} {s t : σ} (hb : b.length ≤ limit)
    (hc : c.length ≤ limit) (hwalk : Walked offset body b s t) (ht : offset t ≤ b.length)
    (htake : c.take (offset t) = b.take (offset t)) : Walked offset body c s t := by
  induction hwalk with
  | refl s => exact .refl s
  | @round s u t hcond hbody hrest ih =>
      have hs := unread_eq_true.mp hcond
      have hforward := (h.forward b s u hb hs hbody).1
      have hmono := h.mono hb hrest
      have hlen := length_of_take_eq htake ht
      refine .round ?_ (h.agree b c s u hb hc hs hbody (take_eq_of_le htake hmono)) (ih ht htake)
      rw [unread_eq_true]
      omega

theorem Walk.truncated (h : Walk offset body limit cut) {b : List α} {s t : σ} {n : Nat} (hb : b.length ≤ limit)
    (hwalk : Walked offset body b s t) (hs : offset s ≤ n) (hn : n ≤ offset t) (ht : offset t ≤ b.length) :
    ∃ u, Walked offset body b s u ∧ (offset u = n ∨
      (offset u < n ∧ ∃ e, body (b.take n) u = .err e ∧ cut (offset u) e)) := by
  induction hwalk with
  | refl s => exact ⟨s, .refl s, .inl (Nat.le_antisymm hs hn)⟩
  | @round s v t hcond hbody hrest ih =>
      have hread := unread_eq_true.mp hcond
      obtain ⟨hlt, hle⟩ := h.forward b s v hb hread hbody
      rcases Nat.eq_or_lt_of_le hs with hsn | hsn
      · exact ⟨s, .refl s, .inl hsn⟩
      by_cases hvn : offset v ≤ n
      · obtain ⟨u, hwalk, hu⟩ := ih hvn hn ht
        exact ⟨u, .round hcond hbody hwalk, hu⟩
      · obtain ⟨e, he, hcut⟩ := h.short b s v n hb hbody hsn (by omega) hle
        exact ⟨s, .refl s, .inr ⟨hsn, e, he, hcut⟩⟩

section Reading

variable {β : Type} {found : σ → List β} {start : σ}

/-- A run that has gone through the whole list, with what it has found. -/
def Accepts (offset : σ → Nat) (body : List α → σ → Outcome ε σ) (found : σ → List β) (start : σ) (b : List α)
    (items : List β) : Prop :=
  ∃ t, Walked offset body b start t ∧ b.length ≤ offset t ∧ found t = items

def Rejects (offset : σ → Nat) (body : List α → σ → Outcome ε σ) (start : σ) (b : List α) (t : σ) (e : ε) : Prop :=
  Walked offset body b start t ∧ offset t < b.length ∧ body b t = .err e

theorem found_prefix (hfound : ∀ b s t, b.length ≤ limit → offset s < b.length → body b s = .ok t →
      found s <+: found t) {b : List α} {s t : σ} (hb : b.length ≤ limit) (hwalk : Walked offset body b s t) :
    found s <+: found t :=
  hwalk.invariant (P := fun u => found s <+: found u)
    (fun u v hcond hbody hu => hu.trans (hfound b u v hb (unread_eq_true.mp hcond) hbody)) (List.prefix_refl _)

theorem Walk.accepts_take (h : Walk offset body limit cut) {b : List α} {t : σ} (hb : b.length ≤ limit)
    (hwalk : Walked offset body b start t) (ht : offset t ≤ b.length) :
    Accepts offset body found start (b.take (offset t)) (found t) := by
  have hlen : (b.take (offset t)).length = offset t := List.length_take_of_le ht
  refine ⟨t, h.agreeing hb (by omega) hwalk ht ?_, by omega, rfl⟩
  rw [List.take_take, Nat.min_self]

/-- Where a list is rejected, what has been read so far is settled: it is accepted
by itself, and no other list that begins with it is rejected earlier. -/
theorem Walk.located (h : Walk offset body limit cut)
    (hfound : ∀ b s t, b.length ≤ limit → offset s < b.length → body b s = .ok t → found s <+: found t)
    {b : List α} {t : σ} {e : ε} (hb : b.length ≤ limit) (hrejects : Rejects offset body start b t e) :
    Accepts offset body found start (b.take (offset t)) (found t) ∧
      ∀ c : List α, c.length ≤ limit → c.take (offset t) = b.take (offset t) →
        (∀ items, Accepts offset body found start c items → found t <+: items) ∧
        ∀ u e', Rejects offset body start c u e' → offset t ≤ offset u := by
  obtain ⟨hwalk, ht, -⟩ := hrejects
  refine ⟨h.accepts_take hb hwalk (Nat.le_of_lt ht), fun c hc htake => ?_⟩
  have hcommon := h.agreeing hb hc hwalk (Nat.le_of_lt ht) htake
  constructor
  · rintro items ⟨u, hu, hend, rfl⟩
    rcases hcommon.comparable hu with hafter | hbefore
    · exact found_prefix hfound hc hafter
    · have hsame := hbefore.eq_of_stuck fun hread => absurd (unread_eq_true.mp hread) (Nat.not_lt.mpr hend)
      exact hsame ▸ List.prefix_refl _
  · rintro u e' ⟨hu, -, he'⟩
    rcases hcommon.comparable hu with hafter | hbefore
    · exact h.mono hc hafter
    · have hsame := hbefore.eq_of_stuck fun _ v hv => by rw [he'] at hv; cases hv
      exact hsame ▸ Nat.le_refl _

/-- An accepted list that is cut short anywhere is accepted up to the last round
it holds in full, and is rejected as cut short there unless the cut is there. -/
theorem Walk.cut_short (h : Walk offset body limit cut)
    (hfound : ∀ b s t, b.length ≤ limit → offset s < b.length → body b s = .ok t → found s <+: found t)
    {b : List α} {items : List β} {n : Nat} (hb : b.length ≤ limit)
    (haccepts : Accepts offset body found start b items) (hs : offset start ≤ n) (hn : n ≤ b.length) :
    ∃ u, found u <+: items ∧ Accepts offset body found start (b.take (offset u)) (found u) ∧
      (offset u = n ∨ (offset u < n ∧ ∃ e, Rejects offset body start (b.take n) u e ∧ cut (offset u) e)) := by
  obtain ⟨t, hwalk, hend, rfl⟩ := haccepts
  have ht := h.bound hb hwalk (Nat.le_trans hs hn)
  obtain ⟨u, hu, hcut⟩ := h.truncated hb hwalk hs (by omega) ht
  have hle : offset u ≤ n := by
    rcases hcut with rfl | ⟨hlt, -⟩
    · exact Nat.le_refl _
    · exact Nat.le_of_lt hlt
  have hleft : found u <+: found t := by
    rcases hwalk.comparable hu with hafter | hbefore
    · have hsame := hafter.eq_of_stuck fun hread => absurd (unread_eq_true.mp hread) (Nat.not_lt.mpr hend)
      exact hsame ▸ List.prefix_refl _
    · exact found_prefix hfound hb hbefore
  refine ⟨u, hleft, h.accepts_take hb hu (by omega), ?_⟩
  rcases hcut with hat | ⟨hlt, e, he, hcut⟩
  · exact .inl hat
  · have hlen : (b.take n).length = n := List.length_take_of_le hn
    refine .inr ⟨hlt, e, ⟨h.agreeing hb (by omega) hu (by omega) ?_, by omega, he⟩, hcut⟩
    rw [List.take_take, Nat.min_eq_left hle]

end Reading

/-- Lists that lie in another one, one after the other, with anything between them. -/
inductive Pieces : List (List α) → List α → Prop
  | done (b : List α) : Pieces [] b
  | piece {gap p rest : List α} {ps : List (List α)} : Pieces ps rest → Pieces (p :: ps) (gap ++ (p ++ rest))

theorem Pieces.skip {ps : List (List α)} {b : List α} (h : Pieces ps b) (gap : List α) : Pieces ps (gap ++ b) := by
  cases h with
  | done b => exact .done _
  | piece hrest =>
      rw [← List.append_assoc]
      exact .piece hrest

theorem Pieces.append {ps qs : List (List α)} {b c : List α} (hb : Pieces ps b) (hc : Pieces qs c) :
    Pieces (ps ++ qs) (b ++ c) := by
  induction hb with
  | done b => exact hc.skip b
  | piece _ ih =>
      rw [List.append_assoc, List.append_assoc]
      exact .piece ih

theorem Pieces.length_le {ps : List (List α)} {b : List α} (h : Pieces ps b) : ps.flatten.length ≤ b.length := by
  induction h with
  | done b => exact Nat.zero_le _
  | piece _ ih =>
      simp only [List.flatten_cons, List.length_append]
      omega

theorem Walk.pieces (h : Walk offset body limit cut) {found : σ → List (List α)}
    (hround : ∀ b s t, b.length ≤ limit → offset s < b.length → body b s = .ok t →
      ∃ ps, found t = found s ++ ps ∧ Pieces ps ((b.drop (offset s)).take (offset t - offset s)))
    {b : List α} {s t : σ} (hb : b.length ≤ limit) (hwalk : Walked offset body b s t) :
    ∃ ps, found t = found s ++ ps ∧ Pieces ps (b.drop (offset s)) := by
  induction hwalk with
  | refl s => exact ⟨[], (List.append_nil _).symm, .done _⟩
  | @round s u t hcond hbody _ ih =>
      have hs := unread_eq_true.mp hcond
      obtain ⟨ps, hps, hpieces⟩ := hround b s u hb hs hbody
      obtain ⟨qs, hqs, hrest⟩ := ih
      refine ⟨ps ++ qs, by rw [hqs, hps, List.append_assoc], ?_⟩
      rw [← take_drop_append b (Nat.le_of_lt (h.forward b s u hb hs hbody).1)]
      exact hpieces.append hrest

end Walks

end Difi.Machine
