import Difi.SampleCodec
import Difi.Storing

namespace Difi.Sampling

open Machine Outcome Checks Fields Bodies Layout Decoding Acceptance Preparation Storing Difi.Writer

def samplesI8Bytes (samples : List ComplexI8) : List UInt8 :=
  samples.flatMap fun sample => [sample.i.toUInt8, sample.q.toUInt8]

def samplesI16Bytes (samples : List ComplexI16) : List UInt8 :=
  samples.flatMap fun sample => i16ToBeBytes sample.i ++ i16ToBeBytes sample.q

theorem samplesI8Bytes_length (samples : List ComplexI8) :
    (samplesI8Bytes samples).length = 2 * samples.length :=
  SampleCodec.codecI8.length_encodeAll samples

theorem samplesI16Bytes_length (samples : List ComplexI16) :
    (samplesI16Bytes samples).length = 4 * samples.length :=
  SampleCodec.codecI16.length_encodeAll samples

theorem writeSamplesI8_emits (samples : List ComplexI8) {offset : Nat}
    (h : offset + 2 * samples.length < usizeLimit) :
    Mut.Emits (writeSamplesI8 offset samples) offset (samplesI8Bytes samples) := by
  induction samples generalizing offset with
  | nil => exact .pure offset
  | cons sample samples ih =>
      rw [List.length_cons] at h
      have hnext : (addUsize offset 1 : WriteResult Nat) = .ok (offset + 1) := addUsize_ok (by omega)
      have hoffset : (addUsize offset 2 : WriteResult Nat) = .ok (offset + 2) := addUsize_ok (by omega)
      exact (Mut.Emits.storeAt offset _).bind (.lift_bind hnext ((Mut.Emits.storeAt _ _).bind
        (.lift_bind hoffset (ih (by omega)))))

theorem writeSamplesI16_emits (samples : List ComplexI16) {offset : Nat}
    (h : offset + 4 * samples.length < usizeLimit) :
    Mut.Emits (writeSamplesI16 offset samples) offset (samplesI16Bytes samples) := by
  induction samples generalizing offset with
  | nil => exact .pure offset
  | cons sample samples ih =>
      rw [List.length_cons] at h
      have hmiddle : (addUsize offset 2 : WriteResult Nat) = .ok (offset + 2) := addUsize_ok (by omega)
      have hstop : (addUsize offset 4 : WriteResult Nat) = .ok (offset + 4) := addUsize_ok (by omega)
      rw [samplesI16Bytes, List.flatMap_cons, List.append_assoc]
      exact .lift_bind hmiddle ((Mut.Emits.copyInto rfl).bind (.lift_bind hstop ((Mut.Emits.copyInto rfl).bind
        (ih (by omega)))))

/-- The header of the data packets that are written from samples. The sequence
is cut to its field, as a larger one is rejected. -/
def iqHeader (spec : SignalDataWriteSpec) (words : UInt16) : PacketHeader where
  raw := (PacketType.signalDataWithStreamId.code.toUInt32 <<< 28) ||| ((1 : UInt32) <<< 27) |||
    ((0 : UInt8).toUInt32 <<< 24) ||| (spec.tsi.code.toUInt32 <<< 22) ||| (spec.tsf.code.toUInt32 <<< 20) |||
    ((spec.sequence &&& 0x0F).toUInt32 <<< 16) ||| words.toUInt32
  packetType := .signalDataWithStreamId
  classIdIndicator := true
  typeSpecificBits := 0
  tsm := none
  tsi := spec.tsi
  tsf := spec.tsf
  sequence := spec.sequence
  packetSizeWords := words

def iqPrologue (spec : SignalDataWriteSpec) (words : UInt16) : Prologue where
  header := iqHeader spec words
  streamId := spec.streamId
  classId := {
    padBitCount := 0
    oui := difiCid
    informationClass := spec.informationClass
    packetClass := spec.packetClass }
  integerSecondsTimestamp := spec.integerSecondsTimestamp
  fractionalSecondsTimestamp := spec.fractionalSecondsTimestamp

def iqPacket (spec : SignalDataWriteSpec) (payload : List UInt8) : Packet :=
  .signalData { prologue := iqPrologue spec (UInt16.ofNat (7 + payload.length / 4)), payload }

theorem headerWord_iq {spec : SignalDataWriteSpec} (words : UInt16) (h : ¬spec.sequence > 0x0F) :
    headerWord .signalDataWithStreamId 0 spec.tsi spec.tsf spec.sequence words =
      .ok (iqHeader spec words).raw := by
  have hmask : spec.sequence &&& 0x0F = spec.sequence := by
    apply UInt8.toNat_inj.mp
    rw [gt_iff_lt, UInt8.lt_iff_toNat_lt] at h
    simp only [UInt8.reduceToNat] at h
    rw [UInt8.toNat_and, and_mask (by decide)]
    simp only [UInt8.reduceToNat]
    omega
  have hbits : ¬(0 : UInt8) > 0x7 := by decide
  simp only [headerWord, if_neg hbits, if_neg h, iqHeader, hmask]

theorem iqPrologue_form {spec : SignalDataWriteSpec} (words : UInt16) (h : ¬spec.sequence > 0x0F) :
    PrologueForm (iqPrologue spec words) := by
  obtain ⟨hbits, hsequence, hraw⟩ := headerWord_eq_ok.mp (headerWord_iq words h)
  have hpad : (0 : UInt8).toNat < 32 := by decide
  refine ⟨⟨?_, hbits, hsequence, rfl⟩, rfl, ⟨hpad, rfl⟩⟩
  have hindicator : (iqPrologue spec words).header.classIdIndicator.toNat * 2 ^ 27 = 2 ^ 27 := Nat.one_mul _
  rw [hindicator]
  exact hraw

theorem signalDataSpecWords_eq_ok {spec : SignalDataWriteSpec} {payloadBytes : Nat} {words : UInt16}
    (hlimit : payloadBytes < usizeLimit) :
    signalDataSpecWords spec payloadBytes = .ok words ↔
      payloadBytes % 4 = 0 ∧ ¬spec.sequence > 0x0F ∧ 4 * words.toNat = 28 + payloadBytes ∧
        profileChecks ⟨{}⟩ (iqHeader spec words) (iqPrologue spec words).classId = .ok () := by
  have h4 : wordBytes = 4 := rfl
  have h7 : prologueWords.toNat = 7 := rfl
  have hadd : (addUsize prologueWords.toNat (payloadBytes / wordBytes) : WriteResult Nat) =
      .ok (7 + payloadBytes / 4) :=
    addUsize_ok (by rw [h4, h7]; simp only [usizeLimit] at *; omega)
  rw [signalDataSpecWords, ite_err_eq_ok, ite_err_eq_ok, not_not]
  refine and_congr_right fun hmod => and_congr_right fun hsequence => ?_
  have hmod : payloadBytes % 4 = 0 := hmod
  rw [hadd, Outcome.ok_bind, Outcome.bind_eq_ok]
  simp only [Outcome.okOr_eq_ok, tryIntoU16_eq_some]
  constructor
  · rintro ⟨size, hsize, h⟩
    rw [headerWord_iq size hsequence, Outcome.ok_bind] at h
    simp only [Outcome.check_eq_ok, profileError_eq_ok] at h
    obtain ⟨h1, h2, h3, h5, h6, h8, h9, -, hwords⟩ := h
    cases hwords
    exact ⟨by omega, profileChecks_eq_ok.mpr ⟨h1, h2, h3, h5, h6, h8, h9⟩⟩
  · rintro ⟨hsize, h⟩
    obtain ⟨h1, h2, h3, h5, h6, h8, h9⟩ := profileChecks_eq_ok.mp h
    refine ⟨words, by omega, ?_⟩
    rw [headerWord_iq words hsequence, Outcome.ok_bind]
    simp only [Outcome.check_eq_ok, profileError_eq_ok]
    exact ⟨h1, h2, h3, h5, h6, h8, h9, rfl, trivial⟩

theorem writeSignalDataSpecPrologue_emits {spec : SignalDataWriteSpec} {words : UInt16}
    (h : ¬spec.sequence > 0x0F) :
    Mut.Emits (writeSignalDataSpecPrologue spec words) 0 (flat (prologueLayout (iqPrologue spec words))) := by
  refine .lift_bind (congrArg Outcome.expect (headerWord_iq words h)) ?_
  have hclass : classIdWord0 (iqPrologue spec words).classId = difiCid := by
    simp [classIdWord0, iqPrologue]
  rw [← List.append_nil (flat _), prologueLayout, hclass]
  refine word_then (k := 0) (by decide) ?_
  iterate 4 refine word_then (by decide) ?_
  rw [List.append_nil]
  exact writeU64Be_emits (by decide)

theorem iqPacket_length (spec : SignalDataWriteSpec) (payload : List UInt8) :
    (encode (iqPacket spec payload)).length = 28 + payload.length := by
  rw [encode, List.length_append, flat_length]
  rfl

/-- A writer of samples commits the packet that its spec and payload describe:
both of them check the length, store the prologue, then store the samples. -/
theorem iqPacket_commits {spec : SignalDataWriteSpec} {payload : List UInt8} {words : WriteResult UInt16}
    {storeSamples : Write Unit}
    (hwords : ∀ n, words = .ok n → ¬spec.sequence > 0x0F ∧ 4 * n.toNat = 28 + payload.length)
    (hsamples : 28 + payload.length < usizeLimit → Mut.Emits storeSamples prologueBytes payload) :
    Mut.Commits (do
      let words ← Mut.lift words
      let encodedLen ← Mut.lift (mulUsize words.toNat wordBytes)
      let outLen ← Mut.length
      if outLen < encodedLen then Mut.lift (.err (.outputTooSmall encodedLen outLen))
      else do
        writeSignalDataSpecPrologue spec words
        storeSamples
        pure encodedLen)
      (words >>= fun words => mulUsize words.toNat wordBytes) .outputTooSmall
      (encode (iqPacket spec payload)) := by
  rcases words with n | e | _
  · obtain ⟨hsequence, hsize⟩ := hwords n rfl
    have hlt := n.toNat_lt
    have hlen := iqPacket_length spec payload
    have hlimit : 28 + payload.length < usizeLimit := by
      simp only [usizeLimit]
      omega
    have hmul : (mulUsize n.toNat wordBytes : WriteResult Nat) =
        .ok (encode (iqPacket spec payload)).length := by
      rw [Bodies.mulUsize_words, hlen, hsize]
    have hn : UInt16.ofNat (7 + payload.length / 4) = n := by
      apply UInt16.toNat_inj.mp
      rw [UInt16.toNat_ofNat']
      omega
    have hencode : encode (iqPacket spec payload) = flat (prologueLayout (iqPrologue spec n)) ++ payload := by
      rw [encode, iqPacket, hn]
      rfl
    refine ⟨fun m hm => ?_, fun out => ?_⟩
    · rw [Outcome.ok_bind, hmul] at hm
      cases hm
      rfl
    · rw [Mut.lift_bind_apply]
      simp only [Outcome.ok_bind, hmul]
      rw [Mut.lift_bind_apply]
      simp only
      rw [Mut.bind_apply, Mut.length]
      simp only
      by_cases hshort : out.length < (encode (iqPacket spec payload)).length
      · rw [if_pos hshort, if_pos hshort]
        rfl
      · have hlong : 28 + payload.length ≤ out.length := by
          rw [← hlen]
          exact Nat.le_of_not_lt hshort
        have hfront : (flat (prologueLayout (iqPrologue spec n))).length = 28 := flat_length _
        have hprologue := (writeSignalDataSpecPrologue_emits hsequence).run out
          (show (flat (prologueLayout (iqPrologue spec n))).length ≤ out.length by omega)
        have hstore := hsamples hlimit (flat (prologueLayout (iqPrologue spec n)))
          (out.drop (flat (prologueLayout (iqPrologue spec n))).length) hfront
          (by rw [List.length_drop]; omega)
        rw [if_neg hshort, if_neg hshort, Mut.bind_apply, hprologue]
        simp only
        rw [Mut.bind_apply, hstore, List.drop_drop, ← List.length_append, ← hencode]
        rfl
  · exact ⟨fun n hn => (by cases hn), fun out => rfl⟩
  · exact ⟨fun n hn => (by cases hn), fun out => rfl⟩

theorem iqI8Words_eq_ok {spec : SignalDataWriteSpec} {samples : List ComplexI8} {words : UInt16} :
    iqI8Words spec samples = .ok words ↔ samples.length % 2 = 0 ∧ 2 * samples.length < usizeLimit ∧
      signalDataSpecWords spec (2 * samples.length) = .ok words := by
  rw [iqI8Words, ite_err_eq_ok, not_not, Outcome.bind_eq_ok]
  simp only [Outcome.okOr_eq_ok, checkedMulUsize, Nat.mul_comm samples.length 2]
  refine and_congr_right fun _ => ?_
  by_cases hlimit : 2 * samples.length < usizeLimit
  · simp [hlimit]
  · simp [hlimit]

theorem iqI16Words_eq_ok {spec : SignalDataWriteSpec} {samples : List ComplexI16} {words : UInt16} :
    iqI16Words spec samples = .ok words ↔ 4 * samples.length < usizeLimit ∧
      signalDataSpecWords spec (4 * samples.length) = .ok words := by
  rw [iqI16Words, Outcome.bind_eq_ok]
  simp only [Outcome.okOr_eq_ok, checkedMulUsize, Nat.mul_comm samples.length 4]
  by_cases hlimit : 4 * samples.length < usizeLimit
  · simp [hlimit]
  · simp [hlimit]

theorem writeIqDataI8_commits (spec : SignalDataWriteSpec) (samples : List ComplexI8) :
    Mut.Commits (writeIqDataI8 spec samples) (encodedIqDataI8Len spec samples) .outputTooSmall
      (encode (iqPacket spec (samplesI8Bytes samples))) := by
  have hlen := samplesI8Bytes_length samples
  refine iqPacket_commits (fun n hn => ?_) fun hlimit => ?_
  · obtain ⟨-, hlimit, hn⟩ := iqI8Words_eq_ok.mp hn
    obtain ⟨-, hsequence, hsize, -⟩ := (signalDataSpecWords_eq_ok hlimit).mp hn
    exact ⟨hsequence, by rw [hlen, hsize]⟩
  · rw [hlen] at hlimit
    exact writeSamplesI8_emits samples hlimit

theorem writeIqDataI16_commits (spec : SignalDataWriteSpec) (samples : List ComplexI16) :
    Mut.Commits (writeIqDataI16 spec samples) (encodedIqDataI16Len spec samples) .outputTooSmall
      (encode (iqPacket spec (samplesI16Bytes samples))) := by
  have hlen := samplesI16Bytes_length samples
  refine iqPacket_commits (fun n hn => ?_) fun hlimit => ?_
  · obtain ⟨hlimit, hn⟩ := iqI16Words_eq_ok.mp hn
    obtain ⟨-, hsequence, hsize, -⟩ := (signalDataSpecWords_eq_ok hlimit).mp hn
    exact ⟨hsequence, by rw [hlen, hsize]⟩
  · rw [hlen] at hlimit
    exact writeSamplesI16_emits samples hlimit

end Difi.Sampling
