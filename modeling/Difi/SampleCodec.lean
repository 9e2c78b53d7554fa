import Difi.Machine.BitFields
import Difi.Writer

namespace Difi.SampleCodec

open Machine

theorem i16FromBeBytes_toBeBytes (value : Int16) :
    i16FromBeBytes (value.toUInt16 >>> 8).toUInt8 value.toUInt16.toUInt8 = value := by
  have hlt := value.toUInt16.toNat_lt
  have hword : ((value.toUInt16 >>> 8).toUInt8.toUInt16 <<< 8 ||| value.toUInt16.toUInt8.toUInt16) =
      value.toUInt16 := by
    apply UInt16.toNat_inj.mp
    simp only [UInt16.toNat_or, UInt16.toNat_shiftLeft, UInt8.toNat_toUInt16, UInt16.toNat_toUInt8,
      UInt16.toNat_shiftRight, UInt16.reduceToNat, Nat.reduceMod, Nat.shiftLeft_eq, Nat.shiftRight_eq_div_pow]
    rw [or_eq_add 8]
    all_goals omega
  rw [i16FromBeBytes, hword, Int16.toInt16_toUInt16]

theorem toBeBytes_i16FromBeBytes (b0 b1 : UInt8) : Writer.i16ToBeBytes (i16FromBeBytes b0 b1) = [b0, b1] := by
  have h0 := b0.toNat_lt
  have h1 := b1.toNat_lt
  have hword : (b0.toUInt16 <<< 8 ||| b1.toUInt16).toNat = b0.toNat * 2 ^ 8 + b1.toNat := by
    simp only [UInt16.toNat_or, UInt16.toNat_shiftLeft, UInt8.toNat_toUInt16, UInt16.reduceToNat, Nat.reduceMod,
      Nat.shiftLeft_eq]
    rw [or_eq_add 8]
    all_goals omega
  have hhigh : ((b0.toUInt16 <<< 8 ||| b1.toUInt16) >>> 8).toUInt8 = b0 := by
    apply UInt8.toNat_inj.mp
    simp only [UInt16.toNat_toUInt8, UInt16.toNat_shiftRight, hword, UInt16.reduceToNat, Nat.reduceMod,
      Nat.shiftRight_eq_div_pow]
    omega
  have hlow : (b0.toUInt16 <<< 8 ||| b1.toUInt16).toUInt8 = b1 := by
    apply UInt8.toNat_inj.mp
    rw [UInt16.toNat_toUInt8, hword]
    omega
  rw [Writer.i16ToBeBytes, i16FromBeBytes, UInt16.toUInt16_toInt16, hhigh, hlow]

def codecI8 : ChunkCodec UInt8 ComplexI8 2 where
  encode sample := [sample.i.toUInt8, sample.q.toUInt8]
  decode chunk := { i := (chunk.getD 0 0).toInt8, q := (chunk.getD 1 0).toInt8 }
  length_encode _ := rfl
  decode_encode sample := by
    simp
  encode_decode chunk h := by
    match chunk, h with
    | [i, q], _ => simp

/-- A sample of two signed numbers of two bytes, the high byte first. -/
def codecI16 : ChunkCodec UInt8 ComplexI16 4 where
  encode sample := Writer.i16ToBeBytes sample.i ++ Writer.i16ToBeBytes sample.q
  decode chunk := {
    i := i16FromBeBytes (chunk.getD 0 0) (chunk.getD 1 0)
    q := i16FromBeBytes (chunk.getD 2 0) (chunk.getD 3 0) }
  length_encode _ := rfl
  decode_encode sample := by
    obtain ⟨i, q⟩ := sample
    exact congrArg₂ ComplexI16.mk (i16FromBeBytes_toBeBytes i) (i16FromBeBytes_toBeBytes q)
  encode_decode chunk h := by
    match chunk, h with
    | [i0, i1, q0, q1], _ =>
        exact congrArg₂ _ (toBeBytes_i16FromBeBytes i0 i1) (toBeBytes_i16FromBeBytes q0 q1)

section Cursors

variable {σ sample : Type} [Iterator σ sample] {size : Nat} {wrap : ChunksExact UInt8 size → σ}

/-- A cursor around the chunks of a payload gives the decoded chunks. -/
theorem wrapped_yields (hsize : 0 < size) (codec : ChunkCodec UInt8 sample size)
    (hnone : ∀ c, (Iterator.next c).1 = .ok none → (Iterator.next (wrap c)).1 = .ok none)
    (hsome : ∀ c chunk, (Iterator.next c).1 = .ok (some chunk) → chunk.length = size →
      (Iterator.next (wrap c)).1 = .ok (some (codec.decode chunk)) ∧
        (Iterator.next (wrap c)).2 = wrap (Iterator.next c).2)
    (c : ChunksExact UInt8 size) : Yields (wrap c) (codec.decodeAll c.v) := by
  refine (c.exact hsize).yields.wrap wrap codec.decode hnone hsome fun chunk hchunk => ?_
  exact length_of_mem_chunks hchunk

theorem opened_iff {payload : List UInt8} {e : SampleError} {it : σ} :
    (if (ChunksExact.new size payload).remainder.isEmpty then .ok (wrap (.new size payload))
      else .err e : Outcome SampleError σ) = .ok it ↔ size ∣ payload.length ∧ it = wrap (.new size payload) := by
  rw [← ChunksExact.remainder_new payload]
  split
  next h => rw [Outcome.ok.injEq, and_iff_right h, eq_comm]
  next h => simp [h]

end Cursors

theorem next_i8 {c : ChunksExact UInt8 2} {chunk : List UInt8} (h : (Iterator.next c).1 = .ok (some chunk))
    (hlen : chunk.length = 2) :
    (Iterator.next (IqI8Samples.mk c)).1 = .ok (some (codecI8.decode chunk)) := by
  match chunk, hlen with
  | [i, q], _ =>
      simp only [Iterator.next] at h ⊢
      rw [h]
      rfl

theorem next_i16 {c : ChunksExact UInt8 4} {chunk : List UInt8} (h : (Iterator.next c).1 = .ok (some chunk))
    (hlen : chunk.length = 4) :
    (Iterator.next (IqI16Samples.mk c)).1 = .ok (some (codecI16.decode chunk)) := by
  match chunk, hlen with
  | [i0, i1, q0, q1], _ =>
      simp only [Iterator.next] at h ⊢
      rw [h]
      rfl

theorem i8_yields (c : ChunksExact UInt8 2) : Yields (IqI8Samples.mk c) (codecI8.decodeAll c.v) := by
  refine wrapped_yields (by decide) codecI8 (fun c hnone => ?_) (fun c chunk h hlen => ⟨next_i8 h hlen, rfl⟩) c
  simp only [Iterator.next] at hnone ⊢
  rw [hnone]
  rfl

theorem i16_yields (c : ChunksExact UInt8 4) : Yields (IqI16Samples.mk c) (codecI16.decodeAll c.v) := by
  refine wrapped_yields (by decide) codecI16 (fun c hnone => ?_) (fun c chunk h hlen => ⟨next_i16 h hlen, rfl⟩) c
  simp only [Iterator.next] at hnone ⊢
  rw [hnone]
  rfl

theorem iqI8Samples_eq_ok {payload : List UInt8} {samples : IqI8Samples} :
    iqI8Samples payload = .ok samples ↔ 2 ∣ payload.length ∧ samples = ⟨.new 2 payload⟩ :=
  opened_iff

theorem iqI16Samples_eq_ok {payload : List UInt8} {samples : IqI16Samples} :
    iqI16Samples payload = .ok samples ↔ 4 ∣ payload.length ∧ samples = ⟨.new 4 payload⟩ :=
  opened_iff

theorem iqI8Samples_yields {payload : List UInt8} {samples : IqI8Samples}
    (h : iqI8Samples payload = .ok samples) : Yields samples (codecI8.decodeAll payload) := by
  obtain ⟨hwhole, rfl⟩ := iqI8Samples_eq_ok.mp h
  have hyields := i8_yields (.new 2 payload)
  rwa [ChunksExact.v_new hwhole] at hyields

theorem iqI16Samples_yields {payload : List UInt8} {samples : IqI16Samples}
    (h : iqI16Samples payload = .ok samples) : Yields samples (codecI16.decodeAll payload) := by
  obtain ⟨hwhole, rfl⟩ := iqI16Samples_eq_ok.mp h
  have hyields := i16_yields (.new 4 payload)
  rwa [ChunksExact.v_new hwhole] at hyields

end Difi.SampleCodec
