import Difi.Fields

namespace Difi.Bodies

open Machine Checks Fields Difi.Parser

theorem readU32Be_eq {b : List UInt8} {k : Nat} (hk : k < 2 ^ 32) : readU32Be b k =
    if 4 * k + 4 ≤ b.length then .ok (wordAt b k) else .err (.inputTooShort (4 * k + 4) b.length) := by
  rw [readU32Be, mulUsize_ok (by simp only [wordBytes, usizeLimit]; omega), Outcome.ok_bind,
    addUsize_ok (by simp only [wordBytes, usizeLimit]; omega), Outcome.ok_bind]
  have hstop : k * wordBytes + wordBytes = 4 * k + 4 := by
    simp only [wordBytes]
    omega
  rw [hstop, getRange]
  by_cases h : 4 * k + 4 ≤ b.length
  · have hbytes : ((b.drop (k * wordBytes)).take (4 * k + 4 - k * wordBytes)) =
        [b.getD (4 * k) 0, b.getD (4 * k + 1) 0, b.getD (4 * k + 2) 0, b.getD (4 * k + 3) 0] := by
      apply List.ext_getElem
      · simp only [List.length_take, List.length_drop, List.length_cons, List.length_nil, wordBytes]
        omega
      · intro i h1 h2
        simp only [List.length_cons, List.length_nil] at h2
        simp only [List.getElem_take, List.getElem_drop, wordBytes]
        match i, h2 with
        | 0, _ | 1, _ | 2, _ | 3, _ =>
            simp only [List.getElem_cons_zero, List.getElem_cons_succ]
            rw [List.getD_eq_getElem _ _ (by omega)]
            congr 1
            omega
    rw [if_pos (by constructor; (simp only [wordBytes]; omega); exact h), if_pos h, hbytes]
    rfl
  · rw [if_neg (fun hc => h hc.2), if_neg h]
    rfl

theorem readU32Be_ok {b : List UInt8} {k : Nat} (h : 4 * k + 4 ≤ b.length) (hk : k < 2 ^ 32) :
    readU32Be b k = .ok (wordAt b k) := by
  rw [readU32Be_eq hk, if_pos h]

theorem readU64Be_ok {b : List UInt8} {k : Nat} (h : 4 * k + 8 ≤ b.length) (hk : k < 2 ^ 31) :
    readU64Be b k = .ok (doubleAt b k) := by
  rw [readU64Be, readU32Be_ok (by omega) (by omega), Outcome.ok_bind,
    addUsize_ok (by simp only [usizeLimit]; omega), Outcome.ok_bind, readU32Be_ok (by omega) (by omega)]
  rfl

theorem readI64Be_ok {b : List UInt8} {k : Nat} (h : 4 * k + 8 ≤ b.length) (hk : k < 2 ^ 31) :
    readI64Be b k = .ok (doubleAt b k).toInt64 := by
  rw [readI64Be, readU64Be_ok h hk]
  rfl

theorem parseCommon_ok {b : List UInt8} (h : 44 ≤ b.length) :
    parseCommon b = .ok ⟨wordAt b 7, wordAt b 8, wordAt b 9, wordAt b 10⟩ := by
  simp (disch := omega) only [parseCommon, readU32Be_ok, Outcome.ok_bind]

theorem prologueWords_le {size : UInt16} : ¬size < prologueWords ↔ 7 ≤ size.toNat := by
  rw [UInt16.lt_iff_toNat_lt, Nat.not_lt]
  rfl

theorem mulUsize_words {ε : Type} (size : UInt16) :
    (mulUsize size.toNat wordBytes : Outcome ε Nat) = .ok (4 * size.toNat) := by
  have hlt := size.toNat_lt
  rw [mulUsize_ok (by simp only [wordBytes, usizeLimit]; omega), Nat.mul_comm]
  rfl

theorem parseData_eq_ok {b : List UInt8} {prologue : Prologue} {profile : StandardProfile}
    {x : SignalDataPacket} (hlen : b.length = 4 * prologue.header.packetSizeWords.toNat) :
    parseData b prologue profile = .ok x ↔
      7 ≤ prologue.header.packetSizeWords.toNat ∧
      (prologue.classId.padBitCount ≠ 0 →
        profile.permitsDataPadding prologue.classId.informationClass prologue.classId.packetClass = true) ∧
      validateDataPadding (b.drop prologueBytes) prologue.classId.padBitCount = .ok () ∧
      x = { prologue, payload := b.drop prologueBytes } := by
  simp only [parseData]
  rw [ite_err_eq_ok, prologueWords_le]
  apply and_congr_right
  intro hsize
  rw [sliceFrom_ok (by rw [hlen]; exact Nat.mul_le_mul_left 4 hsize), Outcome.ok_bind, ite_err_eq_ok,
    Outcome.bind_eq_ok]
  simp only [ne_eq, Bool.not_eq_eq_eq_not, Bool.not_true, not_and, Bool.not_eq_false, Outcome.ok.injEq,
    eq_comm (b := x)]
  constructor
  · rintro ⟨hp, u, hv, hx⟩
    exact ⟨hp, hv, hx⟩
  · rintro ⟨hp, hv, hx⟩
    exact ⟨hp, (), hv, hx⟩

theorem parseSignalContext_eq_ok {b : List UInt8} {prologue : Prologue} {profile : StandardProfile}
    {x : SignalContextPacket} (hlen : b.length = 4 * prologue.header.packetSizeWords.toNat) :
    parseSignalContext b prologue profile = .ok x ↔
      prologue.header.packetSizeWords = 27 ∧ prologue.classId.padBitCount = 0 ∧
      wordAt b 7 ∈ [cifContextChanged, cifContextUnchanged] ∧
      (doubleAt b 9).toNat % 2 ^ 20 = 0 ∧ (doubleAt b 19).toNat % 2 ^ 20 = 0 ∧
      (doubleAt b 11).toNat % 2 ^ 20 = 0 ∧ (doubleAt b 13).toNat % 2 ^ 20 = 0 ∧
      (doubleAt b 15).toNat % 2 ^ 20 = 0 ∧
      ∃ f, PayloadFormat.parse (wordAt b 25) (wordAt b 26) = .ok f ∧ x = {
        prologue
        cif0 := wordAt b 7
        contextChanged := wordAt b 7 == cifContextChanged
        referencePoint := wordAt b 8
        bandwidth := ⟨doubleAt b 9⟩
        ifReferenceFrequency := ⟨(doubleAt b 11).toInt64⟩
        rfReferenceFrequency := ⟨(doubleAt b 13).toInt64⟩
        ifBandOffset := ⟨(doubleAt b 15).toInt64⟩
        scalingLevel := (wordAt b 17 >>> 16).toUInt16.toInt16
        referenceLevel := (wordAt b 17).toUInt16.toInt16
        gain2 := (wordAt b 18 >>> 16).toUInt16
        gain1 := (wordAt b 18).toUInt16
        sampleRate := ⟨doubleAt b 19⟩
        timestampAdjustment := ⟨(doubleAt b 21).toInt64⟩
        timestampCalibrationTime := wordAt b 23
        stateAndEventIndicators := wordAt b 24
        payloadFormat := f } := by
  by_cases hsize : prologue.header.packetSizeWords = 27
  · rw [hsize] at hlen
    simp only [UInt16.reduceToNat] at hlen
    simp (disch := omega) only [parseSignalContext, readU32Be_ok, readU64Be_ok, readI64Be_ok,
      Outcome.ok_bind, Outcome.bind_eq_ok, expectPacketSize_eq_ok, parserExpectNoPadding_eq_ok,
      StandardProfile.expectSignalContextCif0, expectWordOneOf_eq_ok, validateFixedIntegerHz_eq_ok,
      UInt64.toUInt64_toInt64, exists_and_left, exists_const, Outcome.ok.injEq, eq_comm (b := x)]
  · simp only [parseSignalContext, Outcome.bind_eq_ok, expectPacketSize_eq_ok, hsize, false_and, exists_const]

theorem parseVersionContext_eq_ok {b : List UInt8} {prologue : Prologue} {profile : StandardProfile}
    {x : VersionContextPacket} (hlen : b.length = 4 * prologue.header.packetSizeWords.toNat) :
    parseVersionContext b prologue profile = .ok x ↔
      prologue.header.packetSizeWords = 11 ∧ prologue.classId.padBitCount = 0 ∧
      wordAt b 7 ∈ [cifVersionChanged, cifVersionUnchanged] ∧ wordAt b 8 = cifVersion1 ∧
      wordAt b 9 = vita49SpecVersion ∧
      ∃ year day revision, VersionWord (wordAt b 10) year day revision ∧ x = {
        prologue
        cif0 := wordAt b 7
        contextChanged := wordAt b 7 == cifVersionChanged
        cif1 := wordAt b 8
        vita49SpecVersion := wordAt b 9
        year
        day
        revision
        deviceType := 0
        icdVersion := .version1 } := by
  by_cases hsize : prologue.header.packetSizeWords = 11
  · rw [hsize] at hlen
    simp only [UInt16.reduceToNat] at hlen
    simp (disch := omega) only [parseVersionContext, readU32Be_ok, Outcome.ok_bind, Outcome.bind_eq_ok,
      expectPacketSize_eq_ok, parserExpectNoPadding_eq_ok, StandardProfile.expectVersionContextCif0,
      StandardProfile.expectVersionContextCif1, StandardProfile.expectVita49SpecVersion,
      expectWordOneOf_eq_ok, expectWord_eq_ok, exists_and_left, exists_const, hsize, true_and]
    refine and_congr_right fun _ => and_congr_right fun _ => and_congr_right fun _ =>
      and_congr_right fun _ => ?_
    rw [ite_err_eq_ok, ite_err_eq_ok, not_not, not_not]
    constructor
    · rintro ⟨hdev, hicd, hx⟩
      cases hx
      exact ⟨_, _, _, versionWord_extract.mpr ⟨hdev, hicd, rfl, rfl, rfl⟩, by rw [hdev]⟩
    · rintro ⟨year, day, revision, hw, rfl⟩
      obtain ⟨hdev, hicd, rfl, rfl, rfl⟩ := versionWord_extract.mp hw
      exact ⟨hdev, hicd, by rw [hdev]⟩
  · simp only [parseVersionContext, Outcome.bind_eq_ok, expectPacketSize_eq_ok, hsize, false_and, exists_const]

theorem parseTimingFlowControl_eq_ok {b : List UInt8} {prologue : Prologue} {profile : StandardProfile}
    {x : TimingFlowControlPacket} (hlen : b.length = 4 * prologue.header.packetSizeWords.toNat) :
    parseTimingFlowControl b prologue profile = .ok x ↔
      prologue.header.packetSizeWords = 21 ∧ prologue.classId.padBitCount = 0 ∧
      wordAt b 7 = camControlExecute ∧ wordAt b 11 = cifControlFlow0 ∧ wordAt b 12 = cifControlFlow1 ∧
      (doubleAt b 14).toNat % 2 ^ 20 = 0 ∧
      ∃ s, s.raw = wordAt b 20 ∧ BufferStatusWord s ∧ x = {
        prologue
        common := ⟨wordAt b 7, wordAt b 8, wordAt b 9, wordAt b 10⟩
        cif0 := wordAt b 11
        cif1 := wordAt b 12
        referencePoint := wordAt b 13
        sampleRate := ⟨doubleAt b 14⟩
        timestampAdjustment := ⟨(doubleAt b 16).toInt64⟩
        bufferSizeBytes := doubleAt b 18
        bufferStatus := s } := by
  by_cases hsize : prologue.header.packetSizeWords = 21
  · rw [hsize] at hlen
    simp only [UInt16.reduceToNat] at hlen
    simp (disch := omega) only [parseTimingFlowControl, parseCommon_ok, readU32Be_ok, readU64Be_ok,
      readI64Be_ok, Outcome.ok_bind, Outcome.bind_eq_ok, expectPacketSize_eq_ok,
      parserExpectNoPadding_eq_ok, StandardProfile.expectTimingFlowControlCam,
      StandardProfile.expectTimingFlowControlCif0, StandardProfile.expectTimingFlowControlCif1,
      expectWord_eq_ok, validateFixedIntegerHz_eq_ok, exists_and_left, exists_const, hsize, true_and]
    refine and_congr_right fun _ => and_congr_right fun _ => and_congr_right fun _ =>
      and_congr_right fun _ => and_congr_right fun _ => ?_
    rw [ite_err_eq_ok, ne_eq, not_not]
    constructor
    · rintro ⟨hhigh, hx⟩
      rw [Outcome.ok.injEq] at hx
      have hstatus := bufferStatusWord_of_word hhigh
      subst hx
      exact ⟨_, rfl, hstatus, rfl⟩
    · rintro ⟨s, hraw, hs, rfl⟩
      obtain ⟨hhigh, hs⟩ := bufferStatus_extract.mp hs
      rw [hraw] at hhigh hs
      refine ⟨hhigh, ?_⟩
      rw [hs]
  · simp only [parseTimingFlowControl, Outcome.bind_eq_ok, expectPacketSize_eq_ok, hsize, false_and,
      exists_const]

theorem readU32Be_eq_ok {b : List UInt8} {k : Nat} {w : UInt32} (hk : k < 2 ^ 32) :
    readU32Be b k = .ok w ↔ 4 * k + 4 ≤ b.length ∧ wordAt b k = w := by
  rw [readU32Be_eq hk]
  split
  next h => simp [h]
  next h => simp [h]

/-- The commands read their common words and the first indicator field before
their layouts part. -/
def command {α : Type} (input : List UInt8) (check : UInt32 → Result Unit)
    (layout : CommandCommon → UInt32 → Result α) : Result α := do
  let common ← parseCommon input
  check common.cam
  let cif0 ← readU32Be input 11
  layout common cif0

theorem command_eq_ok {α : Type} {b : List UInt8} {check : UInt32 → Result Unit}
    {k : CommandCommon → UInt32 → Result α} {x : α} : command b check k = .ok x ↔
      48 ≤ b.length ∧ check (wordAt b 7) = .ok () ∧
        k ⟨wordAt b 7, wordAt b 8, wordAt b 9, wordAt b 10⟩ (wordAt b 11) = .ok x := by
  rw [command]
  constructor
  · intro h
    have hb : 48 ≤ b.length := by
      obtain ⟨common, -, h⟩ := Outcome.bind_eq_ok.mp h
      obtain ⟨-, h⟩ := Outcome.check_eq_ok.mp h
      obtain ⟨cif0, h, -⟩ := Outcome.bind_eq_ok.mp h
      exact ((readU32Be_eq_ok (by decide)).mp h).1
    rw [parseCommon_ok (by omega), Outcome.ok_bind] at h
    obtain ⟨hcheck, h⟩ := Outcome.check_eq_ok.mp h
    rw [readU32Be_ok (by omega) (by decide), Outcome.ok_bind] at h
    exact ⟨hb, hcheck, h⟩
  · rintro ⟨hb, hcheck, h⟩
    rw [parseCommon_ok (by omega), Outcome.ok_bind]
    refine Outcome.check_eq_ok.mpr ⟨hcheck, ?_⟩
    rw [readU32Be_ok (by omega) (by decide), Outcome.ok_bind]
    exact h

theorem short_bit {w : UInt32} (h : (w &&& 0x80000000 != 0) = true) : w ≠ cifCommandLong := by
  rintro rfl
  revert h
  decide

theorem long_bit {w : UInt32} (h : ¬(w &&& 0x80000000 != 0) = true) : w ≠ cifCommandShort := by
  rintro rfl
  exact h (by decide)

theorem parseSinkCapabilitiesQuery_eq_ok {b : List UInt8} {prologue : Prologue}
    {profile : StandardProfile} {x : SinkCapabilitiesQueryPacket}
    (hlen : b.length = 4 * prologue.header.packetSizeWords.toNat) :
    parseSinkCapabilitiesQuery b prologue profile = .ok x ↔
      prologue.classId.padBitCount = 0 ∧ wordAt b 7 = camExtensionControlValidate ∧
      ((prologue.header.packetSizeWords = 15 ∧ wordAt b 11 = cifCommandShort ∧ x = {
          prologue
          common := ⟨wordAt b 7, wordAt b 8, wordAt b 9, wordAt b 10⟩
          form := .short
          cif0 := wordAt b 11
          cif1 := none
          sinkTimeCalibrationInteger := some (wordAt b 12)
          sinkTimeCalibrationFractional := some (doubleAt b 13) }) ∨
        (prologue.header.packetSizeWords = 13 ∧ wordAt b 11 = cifCommandLong ∧
          wordAt b 12 = cifControlFlow1 ∧ x = {
          prologue
          common := ⟨wordAt b 7, wordAt b 8, wordAt b 9, wordAt b 10⟩
          form := .long
          cif0 := wordAt b 11
          cif1 := some (wordAt b 12)
          sinkTimeCalibrationInteger := none
          sinkTimeCalibrationFractional := none })) := by
  rw [parseSinkCapabilitiesQuery, Outcome.check_eq_ok, parserExpectNoPadding_eq_ok]
  refine and_congr_right fun _ => command_eq_ok.trans ?_
  rw [StandardProfile.expectSinkCapabilitiesQueryCam, expectWord_eq_ok, and_left_comm]
  refine and_congr_right fun _ => ?_
  simp only
  split
  next hbit =>
      rw [Outcome.check_eq_ok, expectPacketSize_eq_ok, Outcome.check_eq_ok,
        StandardProfile.expectSinkCapabilitiesShortQueryCif0, expectWord_eq_ok]
      simp only [short_bit hbit, false_and, and_false, or_false]
      refine (and_iff_right_of_imp ?_).trans (and_congr_right fun hsize => and_congr_right fun _ => ?_)
      · rintro ⟨hsize, -⟩
        rw [hlen, hsize]
        decide
      · rw [hsize] at hlen
        simp only [UInt16.reduceToNat] at hlen
        rw [readU32Be_ok (by omega) (by decide), Outcome.ok_bind, readU64Be_ok (by omega) (by decide),
          Outcome.ok_bind, Outcome.ok.injEq, eq_comm]
  next hbit =>
      rw [Outcome.check_eq_ok, expectPacketSize_eq_ok, Outcome.check_eq_ok,
        StandardProfile.expectSinkCapabilitiesLongQueryCif0, expectWord_eq_ok]
      simp only [long_bit hbit, false_and, and_false, false_or]
      refine (and_iff_right_of_imp ?_).trans (and_congr_right fun hsize => and_congr_right fun _ => ?_)
      · rintro ⟨hsize, -⟩
        rw [hlen, hsize]
        decide
      · rw [hsize] at hlen
        simp only [UInt16.reduceToNat] at hlen
        rw [readU32Be_ok (by omega) (by decide), Outcome.ok_bind, Outcome.check_eq_ok,
          StandardProfile.expectSinkCapabilitiesLongQueryCif1, expectWord_eq_ok, Outcome.ok.injEq,
          eq_comm (b := x)]

theorem parseSinkCapabilitiesResponse_eq_ok {b : List UInt8} {prologue : Prologue}
    {profile : StandardProfile} {x : SinkCapabilitiesResponsePacket}
    (hlen : b.length = 4 * prologue.header.packetSizeWords.toNat) :
    parseSinkCapabilitiesResponse b prologue profile = .ok x ↔
      prologue.classId.padBitCount = 0 ∧ wordAt b 7 = camExtensionAckValidate ∧
      ((prologue.header.packetSizeWords = 18 ∧ wordAt b 11 = cifCommandShort ∧ x = {
          prologue
          common := ⟨wordAt b 7, wordAt b 8, wordAt b 9, wordAt b 10⟩
          form := .short
          cif0 := wordAt b 11
          cif1 := none
          controlPacketIntegerTimestamp := some (wordAt b 12)
          controlPacketFractionalTimestamp := some (doubleAt b 13)
          sinkReceptionIntegerTimestamp := some (wordAt b 15)
          sinkReceptionFractionalTimestamp := some (doubleAt b 16)
          capabilityTable := [] }) ∨
        (13 < prologue.header.packetSizeWords.toNat ∧ wordAt b 11 = cifCommandLong ∧
          wordAt b 12 = cifControlFlow1 ∧ x = {
          prologue
          common := ⟨wordAt b 7, wordAt b 8, wordAt b 9, wordAt b 10⟩
          form := .long
          cif0 := wordAt b 11
          cif1 := some (wordAt b 12)
          controlPacketIntegerTimestamp := none
          controlPacketFractionalTimestamp := none
          sinkReceptionIntegerTimestamp := none
          sinkReceptionFractionalTimestamp := none
          capabilityTable := b.drop 52 })) := by
  have hwords : prologue.header.packetSizeWords ≤ 13 ↔ ¬13 < prologue.header.packetSizeWords.toNat := by
    rw [UInt16.le_iff_toNat_le, Nat.not_lt]
    rfl
  rw [parseSinkCapabilitiesResponse, Outcome.check_eq_ok, parserExpectNoPadding_eq_ok]
  refine and_congr_right fun _ => command_eq_ok.trans ?_
  rw [StandardProfile.expectSinkCapabilitiesResponseCam, expectWord_eq_ok, and_left_comm]
  refine and_congr_right fun _ => ?_
  simp only
  split
  next hbit =>
      rw [Outcome.check_eq_ok, expectPacketSize_eq_ok, Outcome.check_eq_ok,
        StandardProfile.expectSinkCapabilitiesShortResponseCif0, expectWord_eq_ok]
      simp only [short_bit hbit, false_and, and_false, or_false]
      refine (and_iff_right_of_imp ?_).trans (and_congr_right fun hsize => and_congr_right fun _ => ?_)
      · rintro ⟨hsize, -⟩
        rw [hlen, hsize]
        decide
      · rw [hsize] at hlen
        simp only [UInt16.reduceToNat] at hlen
        rw [readU32Be_ok (by omega) (by decide), Outcome.ok_bind, readU64Be_ok (by omega) (by decide),
          Outcome.ok_bind, readU32Be_ok (by omega) (by decide), Outcome.ok_bind,
          readU64Be_ok (by omega) (by decide), Outcome.ok_bind, Outcome.ok.injEq, eq_comm]
  next hbit =>
      rw [ite_err_eq_ok, hwords, not_not, Outcome.check_eq_ok,
        StandardProfile.expectSinkCapabilitiesLongResponseCif0, expectWord_eq_ok]
      simp only [long_bit hbit, false_and, and_false, false_or]
      refine (and_iff_right_of_imp ?_).trans (and_congr_right fun hsize => and_congr_right fun _ => ?_)
      · rintro ⟨hsize, -⟩
        omega
      · have hslice : (sliceFrom b (13 * wordBytes) : Result (List UInt8)) = .ok (b.drop 52) :=
          sliceFrom_ok (by simp only [wordBytes]; omega)
        rw [readU32Be_ok (by omega) (by decide), Outcome.ok_bind, Outcome.check_eq_ok,
          StandardProfile.expectSinkCapabilitiesLongResponseCif1, expectWord_eq_ok, hslice, Outcome.ok_bind,
          Outcome.ok.injEq, eq_comm (b := x)]

/-- The flags that say which limits a status report of a size carries. -/
def quantitativeFlags (packetSize : UInt16) : UInt32 :=
  if packetSize = 15 then 0 else if packetSize = 17 then 0x10 else 0x18

theorem parseStatusReport_eq_ok {b : List UInt8} {prologue : Prologue} {profile : StandardProfile}
    {x : StatusReportPacket} (hlen : b.length = 4 * prologue.header.packetSizeWords.toNat) :
    parseStatusReport b prologue profile = .ok x ↔
      (prologue.header.packetSizeWords = 15 ∨ prologue.header.packetSizeWords = 17 ∨
        prologue.header.packetSizeWords = 21) ∧
      prologue.classId.padBitCount = 0 ∧ wordAt b 7 = camStatusReportExecute ∧
      wordAt b 11 = 0 ∧ wordAt b 12 = 0 ∧
      wordAt b 14 &&& 0x18 = quantitativeFlags prologue.header.packetSizeWords ∧
      (prologue.header.packetSizeWords = 21 →
        (doubleAt b 17).toNat % 2 ^ 20 = 0 ∧ (doubleAt b 19).toNat % 2 ^ 20 = 0) ∧
      x = {
        prologue
        common := ⟨wordAt b 7, wordAt b 8, wordAt b 9, wordAt b 10⟩
        cif0 := wordAt b 11
        cif1 := wordAt b 12
        packetErrors := wordAt b 13
        sinkErrorsWarnings := wordAt b 14
        referenceLevelLimit := if 17 ≤ prologue.header.packetSizeWords.toNat then
          some ⟨wordAt b 15, wordAt b 16⟩ else none
        sampleRateLimit := if prologue.header.packetSizeWords = 21 then some ⟨doubleAt b 17⟩ else none
        bandwidthLimit := if prologue.header.packetSizeWords = 21 then some ⟨doubleAt b 19⟩ else none } := by
  by_cases hsizes : prologue.header.packetSizeWords = 15 ∨ prologue.header.packetSizeWords = 17 ∨
      prologue.header.packetSizeWords = 21
  · rcases hsizes with hsize | hsize | hsize
    all_goals
      rw [hsize] at hlen
      simp only [UInt16.reduceToNat] at hlen
      simp (disch := omega) only [parseStatusReport, parseCommon_ok, readU32Be_ok, readU64Be_ok,
        Outcome.ok_bind, Outcome.bind_eq_ok, validateStatusReportSize_eq_ok, parserExpectNoPadding_eq_ok,
        StandardProfile.expectStatusReportCam, StandardProfile.expectStatusReportCif0,
        StandardProfile.expectStatusReportCif1, expectWord_eq_ok, exists_and_left, exists_const, hsize]
      refine and_congr (by decide) (and_congr_right fun _ => and_congr_right fun _ =>
        and_congr_right fun _ => and_congr_right fun _ => ?_)
      rw [ite_err_eq_ok, ne_eq, not_not]
      refine and_congr_right fun _ => ?_
    · simp [eq_comm (b := x)]
    · simp [eq_comm (b := x)]
    · simp only [ge_iff_le, UInt16.reduceLE, UInt16.reduceToNat, Nat.reduceLeDiff, if_true, Outcome.ok_bind,
        Outcome.bind_assoc', Outcome.bind_eq_ok, validateFixedIntegerHz_eq_ok, exists_and_left, exists_const,
        Outcome.ok.injEq, forall_const, eq_comm (b := x), and_assoc]
  · simp only [parseStatusReport, Outcome.bind_eq_ok, validateStatusReportSize_eq_ok, hsizes, false_and,
      exists_const]

end Difi.Bodies
