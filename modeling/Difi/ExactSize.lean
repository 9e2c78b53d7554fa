import Difi.SampleCodec

namespace Difi.ExactSize

open Machine SampleCodec

section Contract

variable {σ item : Type} [ExactSizeIterator σ item]

def CountsDown (it : σ) (n : Nat) (rest : Nat → List item) : Prop :=
  ∀ k ≤ n, (rest k).length = n - k ∧ Exact (advance k it) (rest k)

/-- A cursor that gives its items but neither a hint about them nor a length. -/
structure Unhinted (it : σ) (rest : List item) : Prop where
  yields : Yields it rest
  hint : Iterator.sizeHint it = (0, none)
  len : ExactSizeIterator.len it = .panic
  not_exact : ¬Exact it rest

theorem codec_unhinted {α : Type} {size : Nat} (hsize : 0 < size) (codec : ChunkCodec α item size) {it : σ}
    {payload : List α} (hyields : Yields it (codec.decodeAll payload)) {k : Nat}
    (hhint : Iterator.sizeHint (advance k it) = (0, none))
    (hlen : ExactSizeIterator.len (advance k it) = .panic) (hk : k ≤ payload.length / size) :
    (codec.decodeAll (payload.drop (size * k))).length = payload.length / size - k ∧
      Unhinted (advance k it) (codec.decodeAll (payload.drop (size * k))) := by
  have hrest := hyields.advance (k := k) (by rwa [codec.length_decodeAll])
  have hdrop := codec.drop_decodeAll hsize payload hk
  rw [hdrop] at hrest
  refine ⟨?_, hrest, hhint, hlen, fun hexact => ?_⟩
  · rw [← hdrop, List.length_drop, codec.length_decodeAll]
  · have hbound := congrArg Prod.snd hexact.hint
    rw [hhint] at hbound
    cases hbound

theorem not_countsDown {it : σ} {n : Nat} {rest : Nat → List item}
    (h : ∀ k ≤ n, (rest k).length = n - k ∧ Unhinted (advance k it) (rest k)) :
    ¬CountsDown it n rest ∧ ∀ k ≤ n, (rest k).length = n - k ∧ Unhinted (advance k it) (rest k) := by
  refine ⟨fun hcount => ?_, h⟩
  exact (h 0 (Nat.zero_le n)).2.not_exact (hcount 0 (Nat.zero_le n)).2

end Contract

/-- The iterators over samples take the default hint, so the exact length that
they declare is wrong for every payload and after every number of calls, although
the samples themselves are all given. -/
theorem sample_iterators_never_exact (payload : List UInt8) :
    (∀ samples, iqI8Samples payload = .ok samples →
      ¬CountsDown samples (payload.length / 2) (fun k => codecI8.decodeAll (payload.drop (2 * k))) ∧
      ∀ k ≤ payload.length / 2, (codecI8.decodeAll (payload.drop (2 * k))).length = payload.length / 2 - k ∧
        Unhinted (advance k samples) (codecI8.decodeAll (payload.drop (2 * k)))) ∧
    (∀ samples, iqI16Samples payload = .ok samples →
      ¬CountsDown samples (payload.length / 4) (fun k => codecI16.decodeAll (payload.drop (4 * k))) ∧
      ∀ k ≤ payload.length / 4, (codecI16.decodeAll (payload.drop (4 * k))).length = payload.length / 4 - k ∧
        Unhinted (advance k samples) (codecI16.decodeAll (payload.drop (4 * k)))) := by
  refine ⟨fun samples h => ?_, fun samples h => ?_⟩
  · exact not_countsDown fun k hk => codec_unhinted (by decide) codecI8 (iqI8Samples_yields h) rfl rfl hk
  · exact not_countsDown fun k hk => codec_unhinted (by decide) codecI16 (iqI16Samples_yields h) rfl rfl hk

theorem sample_iterators_not_exact :
    ¬((∀ payload samples, iqI8Samples payload = .ok samples →
        CountsDown samples (payload.length / 2) fun k => codecI8.decodeAll (payload.drop (2 * k))) ∧
      ∀ payload samples, iqI16Samples payload = .ok samples →
        CountsDown samples (payload.length / 4) fun k => codecI16.decodeAll (payload.drop (4 * k))) := by
  rintro ⟨h, -⟩
  have hwhole : 2 ∣ [(1 : UInt8), 2].length := by decide
  have hexact := (h _ _ (iqI8Samples_eq_ok.mpr ⟨hwhole, rfl⟩) 0 (by decide)).2
  have hbound := congrArg Prod.snd hexact.hint
  cases hbound

end Difi.ExactSize
