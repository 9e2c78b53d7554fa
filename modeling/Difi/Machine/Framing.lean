import Difi.Machine.Outcome
import Mathlib.Data.List.Basic

namespace Difi.Machine

variable {ε α π : Type}

/-- A run that takes frames off the front until nothing is left or a step
fails: the frames with the bytes they were taken from, the bytes left over, and
the error if there was one. -/
inductive Cut (step : List α → Outcome ε (π × List α)) :
    List α → List (List α × π) → List α → Option ε → Prop
  | done : Cut step [] [] [] none
  | stop {b : List α} {e : ε} : b ≠ [] → step b = .err e → Cut step b [] b (some e)
  | take {s rest r : List α} {p : π} {frames : List (List α × π)} {e : Option ε} :
      s ++ rest ≠ [] → step (s ++ rest) = .ok (p, rest) → Cut step rest frames r e →
        Cut step (s ++ rest) ((s, p) :: frames) r e

def joined (frames : List (List α × π)) : List α := (frames.map Prod.fst).flatten

@[simp] theorem joined_nil : joined ([] : List (List α × π)) = [] := rfl

@[simp] theorem joined_cons (f : List α × π) (frames : List (List α × π)) :
    joined (f :: frames) = f.1 ++ joined frames := rfl

/-- A step that takes one self-delimiting frame off the front, of a least length,
and that reports a frame cut short. -/
structure Framing (step : List α → Outcome ε (π × List α)) (least : Nat) (cutError : List α → List α → ε) :
    Prop where
  least_pos : 0 < least
  safe : ∀ b, Outcome.Safe (step b)
  split : ∀ b p rest, step b = .ok (p, rest) →
    ∃ s, b = s ++ rest ∧ least ≤ s.length ∧ step s = .ok (p, [])
  extend : ∀ s p rest, step s = .ok (p, []) → step (s ++ rest) = .ok (p, rest)
  short : ∀ s p t, step s = .ok (p, []) → t <+: s → t ≠ s → t ≠ [] → step t = .err (cutError s t)

section Runs

variable {step : List α → Outcome ε (π × List α)}

theorem Cut.concat {b r : List α} {frames : List (List α × π)} {e : Option ε} (h : Cut step b frames r e) :
    joined frames ++ r = b := by
  induction h with
  | done => rfl
  | stop hne hstep => rfl
  | take hne hstep hrest ih => rw [joined_cons, List.append_assoc, ih]

theorem Cut.stops {b r : List α} {frames : List (List α × π)} {e : Option ε} (h : Cut step b frames r e) :
    (e = none ∧ r = []) ∨ ∃ error, e = some error ∧ r ≠ [] ∧ step r = .err error := by
  induction h with
  | done => exact .inl ⟨rfl, rfl⟩
  | stop hne hstep => exact .inr ⟨_, rfl, hne, hstep⟩
  | take hne hstep hrest ih => exact ih

theorem Cut.unique {b r r' : List α} {frames frames' : List (List α × π)} {e e' : Option ε}
    (h : Cut step b frames r e) (h' : Cut step b frames' r' e') : frames = frames' ∧ r = r' ∧ e = e' := by
  induction h generalizing frames' r' e' with
  | done =>
      generalize hb : ([] : List α) = b at h'
      cases h' with
      | done => exact ⟨rfl, rfl, rfl⟩
      | stop hne hstep => exact absurd hb.symm hne
      | take hne hstep hrest => exact absurd hb.symm hne
  | @stop b error hne hstep =>
      cases h' with
      | done => exact absurd rfl hne
      | stop hne' hstep' =>
          rw [hstep] at hstep'
          cases hstep'
          exact ⟨rfl, rfl, rfl⟩
      | take hne' hstep' hrest' =>
          rw [hstep] at hstep'
          cases hstep'
  | @take s rest r p frames e hne hstep hrest ih =>
      generalize hb : s ++ rest = b at h'
      cases h' with
      | done => exact absurd hb hne
      | stop hne' hstep' =>
          rw [← hb, hstep] at hstep'
          cases hstep'
      | @take s' rest' _ p' frames' _ hne' hstep' hrest' =>
          rw [← hb, hstep] at hstep'
          cases hstep'
          obtain rfl := List.append_cancel_right hb
          obtain ⟨rfl, rfl, rfl⟩ := ih hrest'
          exact ⟨rfl, rfl, rfl⟩

variable {least : Nat} {cutError : List α → List α → ε}

theorem Framing.run (h : Framing step least cutError) (b : List α) :
    ∃ frames r e, Cut step b frames r e := by
  induction hn : b.length using Nat.strongRecOn generalizing b with
  | ind n ih =>
      by_cases hb : b = []
      · subst hb
        exact ⟨[], [], none, .done⟩
      rcases hstep : step b with ⟨p, rest⟩ | error | _
      · obtain ⟨s, rfl, hs, -⟩ := h.split b p rest hstep
        have hpos := h.least_pos
        have hlt : rest.length < n := by
          rw [← hn, List.length_append]
          omega
        obtain ⟨frames, r, e, hrest⟩ := ih rest.length hlt rest rfl
        exact ⟨(s, p) :: frames, r, e, .take hb hstep hrest⟩
      · exact ⟨[], b, some error, .stop hb hstep⟩
      · exact absurd hstep (h.safe b)

theorem Framing.accepted (h : Framing step least cutError) {b r : List α} {frames : List (List α × π)}
    {e : Option ε} (hrun : Cut step b frames r e) :
    ∀ f ∈ frames, step f.1 = .ok (f.2, []) ∧ least ≤ f.1.length := by
  induction hrun with
  | done => simp
  | stop hne hstep => simp
  | take hne hstep hrest ih =>
      obtain ⟨s', hs', hleast, hexact⟩ := h.split _ _ _ hstep
      obtain rfl := List.append_cancel_right hs'
      intro f hf
      rcases List.mem_cons.mp hf with rfl | hf
      · exact ⟨hexact, hleast⟩
      · exact ih f hf

theorem length_joined {k : Nat} {frames : List (List α × π)} (h : ∀ f ∈ frames, k ≤ f.1.length) :
    k * frames.length ≤ (joined frames).length := by
  induction frames with
  | nil => simp
  | cons f frames ih =>
      have hf := h f (List.mem_cons_self ..)
      have hrest := ih fun g hg => h g (List.mem_cons_of_mem _ hg)
      rw [joined_cons, List.length_cons, List.length_append, Nat.mul_succ]
      omega

theorem Framing.count (h : Framing step least cutError) {b r : List α} {frames : List (List α × π)}
    {e : Option ε} (hrun : Cut step b frames r e) : frames.length ≤ b.length / least := by
  have hjoined := length_joined fun f hf => (h.accepted hrun f hf).2
  have hb := congrArg List.length hrun.concat
  rw [List.length_append] at hb
  rw [Nat.le_div_iff_mul_le h.least_pos, Nat.mul_comm]
  omega

theorem Framing.replay (h : Framing step least cutError) {frames : List (List α × π)} {t : List α}
    {e : Option ε} (hframes : ∀ f ∈ frames, step f.1 = .ok (f.2, [])) (ht : Cut step t [] t e) :
    Cut step (joined frames ++ t) frames t e := by
  induction frames with
  | nil => exact ht
  | cons f frames ih =>
      obtain ⟨s, p⟩ := f
      have hexact := hframes (s, p) (List.mem_cons_self ..)
      obtain ⟨s', hs', hleast, -⟩ := h.split _ _ _ hexact
      have hpos := h.least_pos
      rw [joined_cons, List.append_assoc]
      refine .take ?_ (h.extend s p _ hexact) (ih fun g hg => hframes g (List.mem_cons_of_mem _ hg))
      intro hnil
      obtain ⟨rfl, -⟩ := List.append_eq_nil_iff.mp hnil
      rw [List.append_nil] at hs'
      rw [← hs', List.length_nil] at hleast
      omega

theorem Framing.tail (h : Framing step least cutError) {s t : List α} {p : π} (hs : step s = .ok (p, []))
    (hcut : t <+: s) (hne : t ≠ s) [Decidable (t = [])] :
    Cut step t [] t (if t = [] then none else some (cutError s t)) := by
  by_cases ht : t = []
  · subst ht
    rw [if_pos rfl]
    exact .done
  · rw [if_neg ht]
    exact .stop ht (h.short s p t hs hcut hne ht)

theorem Framing.prefix_free (h : Framing step least cutError) {s t : List α} {p q : π}
    (hs : step s = .ok (p, [])) (ht : step t = .ok (q, [])) (hcut : t <+: s) : t = s := by
  obtain ⟨rest, rfl⟩ := hcut
  have hext := h.extend t q rest ht
  rw [hs] at hext
  cases hext
  rw [List.append_nil]

end Runs

end Difi.Machine
