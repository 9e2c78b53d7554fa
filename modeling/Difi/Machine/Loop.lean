import Difi.Machine.Outcome

namespace Difi.Machine

variable {ε σ : Type}

section Loops

variable (cond : σ → Bool) (body : σ → Outcome ε σ) (size : σ → Nat)
  (shrinks : ∀ s t, cond s = true → body s = .ok t → size t < size s)

/-- A while loop. Each round makes the state smaller, so the loop comes to an end. -/
def whileLoop (s : σ) : Outcome ε σ :=
  if hcond : cond s = true then
    match hbody : body s with
    | .ok t =>
      have := shrinks s t hcond hbody
      whileLoop t
    | .err e => .err e
    | .panic => .panic
  else .ok s
termination_by size s

/-- The states at the head of a loop, one round after the other. -/
inductive Heads : σ → σ → Prop
  | refl (s : σ) : Heads s s
  | round {s t u : σ} : cond s = true → body s = .ok t → Heads t u → Heads s u

variable {cond body size shrinks}

theorem whileLoop_done {s : σ} (h : cond s = false) : whileLoop cond body size shrinks s = .ok s := by
  rw [whileLoop, dif_neg (by simp [h])]

theorem whileLoop_round {s : σ} (h : cond s = true) :
    whileLoop cond body size shrinks s = body s >>= whileLoop cond body size shrinks := by
  rw [whileLoop, dif_pos h]
  split
  next t ht => exact (congrArg (fun x => x >>= whileLoop cond body size shrinks) ht).symm
  next e he => exact (congrArg (fun x => x >>= whileLoop cond body size shrinks) he).symm
  next hp => exact (congrArg (fun x => x >>= whileLoop cond body size shrinks) hp).symm

theorem loop_induction (shrinks : ∀ s t, cond s = true → body s = .ok t → size t < size s) {P : σ → Prop}
    (hdone : ∀ s, cond s = false → P s)
    (hround : ∀ s, cond s = true → (∀ t, body s = .ok t → P t) → P s) (s : σ) : P s := by
  induction hn : size s using Nat.strongRecOn generalizing s with
  | ind n ih =>
      cases hcond : cond s with
      | false => exact hdone s hcond
      | true =>
          refine hround s hcond fun t ht => ih (size t) ?_ t rfl
          rw [← hn]
          exact shrinks s t hcond ht

theorem Heads.invariant {P : σ → Prop} {s t : σ} (h : Heads cond body s t)
    (hstep : ∀ u v, cond u = true → body u = .ok v → P u → P v) (hs : P s) : P t := by
  induction h with
  | refl s => exact hs
  | round hcond hbody _ ih => exact ih (hstep _ _ hcond hbody hs)

theorem Heads.comparable {s t u : σ} (h : Heads cond body s t) (h' : Heads cond body s u) :
    Heads cond body t u ∨ Heads cond body u t := by
  induction h with
  | refl s => exact .inl h'
  | round hcond hbody hrest ih =>
      cases h' with
      | refl s => exact .inr (.round hcond hbody hrest)
      | round hcond' hbody' hrest' =>
          rw [hbody] at hbody'
          cases hbody'
          exact ih hrest'

theorem Heads.eq_of_stuck {s t : σ} (h : Heads cond body s t) (hs : cond s = true → ∀ u, body s ≠ .ok u) :
    s = t := by
  cases h with
  | refl s => rfl
  | round hcond hbody _ => exact absurd hbody (hs hcond _)

theorem Heads.resume {s t : σ} (h : Heads cond body s t) :
    whileLoop cond body size shrinks s = whileLoop cond body size shrinks t := by
  induction h with
  | refl s => rfl
  | round hcond hbody _ ih => rw [whileLoop_round hcond, hbody, Outcome.ok_bind, ih]

theorem whileLoop_eq_ok {s t : σ} :
    whileLoop cond body size shrinks s = .ok t ↔ Heads cond body s t ∧ cond t = false := by
  constructor
  · induction s using loop_induction shrinks with
    | hdone s hcond =>
        rw [whileLoop_done hcond]
        rintro ⟨⟩
        exact ⟨.refl _, hcond⟩
    | hround s hcond ih =>
        rw [whileLoop_round hcond, Outcome.bind_eq_ok]
        rintro ⟨u, hu, hloop⟩
        obtain ⟨hheads, ht⟩ := ih u hu hloop
        exact ⟨.round hcond hu hheads, ht⟩
  · rintro ⟨hheads, ht⟩
    rw [hheads.resume, whileLoop_done ht]

theorem whileLoop_eq_err {s : σ} {e : ε} : whileLoop cond body size shrinks s = .err e ↔
    ∃ t, Heads cond body s t ∧ cond t = true ∧ body t = .err e := by
  constructor
  · induction s using loop_induction shrinks with
    | hdone s hcond =>
        rw [whileLoop_done hcond]
        rintro ⟨⟩
    | hround s hcond ih =>
        rw [whileLoop_round hcond, Outcome.bind_eq_err]
        rintro (he | ⟨u, hu, hloop⟩)
        · exact ⟨s, .refl s, hcond, he⟩
        · obtain ⟨t, hheads, ht⟩ := ih u hu hloop
          exact ⟨t, .round hcond hu hheads, ht⟩
  · rintro ⟨t, hheads, hcond, he⟩
    rw [hheads.resume, whileLoop_round hcond, he, Outcome.err_bind]

theorem whileLoop_safe {P : σ → Prop} (hsafe : ∀ s, cond s = true → P s → Outcome.Safe (body s))
    (hstep : ∀ s t, cond s = true → body s = .ok t → P s → P t) {s : σ} (hs : P s) :
    Outcome.Safe (whileLoop cond body size shrinks s) := by
  induction s using loop_induction shrinks with
  | hdone s hcond =>
      rw [whileLoop_done hcond]
      exact Outcome.safe_ok s
  | hround s hcond ih =>
      rw [whileLoop_round hcond]
      exact (hsafe s hcond hs).bind fun t ht => ih t ht (hstep s t hcond ht hs)

/-- A loop that does on the images what another one does on the states, as far
as neither fails, ends on the image of the state the other one ends on. -/
theorem whileLoop_image {δ τ : Type} {cond' : τ → Bool} {body' : τ → Outcome δ τ} {size' : τ → Nat}
    {shrinks' : ∀ s t, cond' s = true → body' s = .ok t → size' t < size' s} (f : σ → τ)
    (hcond : ∀ s, cond' (f s) = cond s)
    (hbody : ∀ s, cond s = true → (body' (f s)).toOption = (body s).toOption.map f) (s : σ) :
    (whileLoop cond' body' size' shrinks' (f s)).toOption =
      (whileLoop cond body size shrinks s).toOption.map f := by
  induction s using loop_induction shrinks with
  | hdone s hs =>
      rw [whileLoop_done hs, whileLoop_done ((hcond s).trans hs)]
      rfl
  | hround s hs ih =>
      have hround := hbody s hs
      rw [whileLoop_round hs, whileLoop_round ((hcond s).trans hs)]
      rcases ht : body s with t | e | _
      · rw [ht, Outcome.toOption, Option.map_some, Outcome.toOption_eq_some] at hround
        rw [hround, Outcome.ok_bind, Outcome.ok_bind, ih t ht]
      · rw [ht] at hround
        rw [Outcome.err_bind]
        exact Outcome.toOption_bind_none hround _
      · rw [ht] at hround
        rw [Outcome.panic_bind]
        exact Outcome.toOption_bind_none hround _

end Loops

end Difi.Machine
