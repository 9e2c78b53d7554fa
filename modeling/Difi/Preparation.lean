import Difi.Acceptance
import Difi.Padding

namespace Difi.Preparation

open Machine Checks Fields Bodies Layout Decoding Acceptance Difi.Writer

def parseOptions (options : WriteOptions) : ParseOptions :=
  { standard := options.standard, compatibility := options.compatibility }

def validateBody (p : Packet) (options : WriteOptions) : WriteResult Unit :=
  match p with
  | .signalData p => validateSignalData p.prologue p.payload options
  | .signalContext p => validateSignalContext p options
  | .versionContext p => validateVersionContext p options
  | .timingFlowControl p => validateTimingFlowControl p options
  | .sinkCapabilitiesQuery p => validateSinkCapabilitiesQuery p options
  | .sinkCapabilitiesResponse p => validateSinkCapabilitiesResponse p options
  | .statusReport p => validateStatusReport p options

def planOf (p : Prologue) : WritePlan :=
  ⟨p.header.packetType, p.header.typeSpecificBits, p.header.packetSizeWords⟩

theorem validateSignalContext_eq_ok {p : SignalContextPacket} {options : WriteOptions} :
    validateSignalContext p options = .ok () ↔ SignalContextForm p := by
  simp only [validateSignalContext, Outcome.bind_eq_ok, writerExpectNoPadding_eq_ok, profileError_eq_ok,
    expectPacketSize_eq_ok, StandardProfile.expectSignalContextCif0, expectWordOneOf_eq_ok,
    expectField_eq_ok, toUInt64_inj32, validateFixedIntegerHz_eq_ok, validatePayloadFormat_eq_ok,
    exists_and_left, exists_const]
  constructor
  · rintro ⟨hpad, hsize, -, hcif, hbw, hif, hrf, hbo, hsr, hf⟩
    exact ⟨hsize, hpad, hcif.symm, hbw, hif, hrf, hbo, hsr, hf⟩
  · rintro ⟨hsize, hpad, hcif, hbw, hif, hrf, hbo, hsr, hf⟩
    exact ⟨hpad, hsize, ((choice_mem (by decide)).mp hcif).1, hcif.symm, hbw, hif, hrf, hbo, hsr, hf⟩

theorem validateVersionContext_eq_ok {p : VersionContextPacket} {options : WriteOptions} :
    validateVersionContext p options = .ok () ↔ VersionContextForm p := by
  simp only [validateVersionContext, Outcome.bind_eq_ok, writerExpectNoPadding_eq_ok, profileError_eq_ok,
    expectPacketSize_eq_ok, StandardProfile.expectVersionContextCif0, StandardProfile.expectVersionContextCif1,
    StandardProfile.expectVita49SpecVersion, expectWordOneOf_eq_ok, expectWord_eq_ok,
    expectField_eq_ok, toUInt64_inj32, exists_and_left, exists_const]
  rw [ite_err_eq_ok, ite_err_eq_ok, ite_err_eq_ok, Outcome.check_eq_ok, expectField_eq_ok,
    expectField_eq_ok]
  simp only [gt_iff_lt, UInt8.lt_iff_toNat_lt, UInt16.lt_iff_toNat_lt, UInt8.reduceToNat, UInt16.reduceToNat,
    Nat.not_lt]
  constructor
  · rintro ⟨hpad, hsize, -, hcif0, hcif1, hspec, hy, hd, hr, hdev, -⟩
    have hdev : p.deviceType = 0 := (toUInt64_inj8 (a := 0).mp hdev).symm
    refine ⟨hsize, hpad, hcif0.symm, hcif1, hspec, ⟨by omega, by omega, by omega, ?_⟩, hdev⟩
    exact versionWord_toNat (by omega) (by omega) (by omega) hdev
  · rintro ⟨hsize, hpad, hcif0, hcif1, hspec, ⟨hy, hd, hr, -⟩, hdev⟩
    refine ⟨hpad, hsize, ((choice_mem (by decide)).mp hcif0).1, hcif0.symm, hcif1, hspec, by omega, by omega,
      by omega, ?_, ?_⟩
    · rw [hdev]
      rfl
    · cases p.icdVersion
      trivial

theorem validateTimingFlowControl_eq_ok {p : TimingFlowControlPacket} {options : WriteOptions} :
    validateTimingFlowControl p options = .ok () ↔ TimingFlowControlForm p := by
  simp only [validateTimingFlowControl, Outcome.bind_eq_ok, writerExpectNoPadding_eq_ok, profileError_eq_ok,
    expectPacketSize_eq_ok, StandardProfile.expectTimingFlowControlCam,
    StandardProfile.expectTimingFlowControlCif0, StandardProfile.expectTimingFlowControlCif1,
    expectWord_eq_ok, validateFixedIntegerHz_eq_ok, validateBufferStatus_eq_ok, exists_and_left, exists_const]
  constructor
  · rintro ⟨hpad, hsize, hcam, hcif0, hcif1, hrate, hs⟩
    exact ⟨hsize, hpad, hcam, hcif0, hcif1, hrate, hs⟩
  · rintro ⟨hsize, hpad, hcam, hcif0, hcif1, hrate, hs⟩
    exact ⟨hpad, hsize, hcam, hcif0, hcif1, hrate, hs⟩

theorem validateSinkCapabilitiesQuery_eq_ok {p : SinkCapabilitiesQueryPacket} {options : WriteOptions} :
    validateSinkCapabilitiesQuery p options = .ok () ↔ SinkCapabilitiesQueryForm p := by
  obtain ⟨prologue, common, form, cif0, cif1, integer, fractional⟩ := p
  cases form
  all_goals
    simp only [validateSinkCapabilitiesQuery, Outcome.bind_eq_ok, writerExpectNoPadding_eq_ok,
      profileError_eq_ok, expectPacketSize_eq_ok, StandardProfile.expectSinkCapabilitiesQueryCam,
      StandardProfile.expectSinkCapabilitiesLongQueryCif0, StandardProfile.expectSinkCapabilitiesLongQueryCif1,
      StandardProfile.expectSinkCapabilitiesShortQueryCif0, expectWord_eq_ok, required_eq_ok,
      expectAbsentU32_eq_ok, expectAbsentU64_eq_ok, exists_and_left, exists_const]
  · constructor
    · rintro ⟨hpad, hcam, hsize, hcif0, _, hcif1, rfl, hint, hfrac⟩
      exact ⟨hpad, hcam, hsize, hcif0, hcif1, hint, hfrac⟩
    · rintro ⟨hpad, hcam, hsize, hcif0, hcif1, hint, hfrac⟩
      exact ⟨hpad, hcam, hsize, hcif0, _, hcif1, rfl, hint, hfrac⟩
  · constructor
    · rintro ⟨hpad, hcam, hsize, hcif0, hcif1, i, rfl, f, rfl, -⟩
      exact ⟨hpad, hcam, hsize, hcif0, hcif1, rfl, rfl⟩
    · rintro ⟨hpad, hcam, hsize, hcif0, hcif1, hint, hfrac⟩
      obtain ⟨i, hi⟩ := Option.isSome_iff_exists.mp hint
      obtain ⟨f, hf⟩ := Option.isSome_iff_exists.mp hfrac
      exact ⟨hpad, hcam, hsize, hcif0, hcif1, i, hi, f, hf, trivial⟩

theorem packetSizeWords_signalData {p : SignalDataPacket} {n : UInt16} :
    packetSizeWords (.signalData p) = .ok n ↔
      p.payload.length % 4 = 0 ∧ 4 * n.toNat = prologueBytes + p.payload.length := by
  rw [packetSizeWords, Outcome.bind_eq_ok]
  simp only [Outcome.okOr_eq_ok, tryIntoU16_eq_some]
  have h28 : prologueBytes = 28 := rfl
  have h7 : prologueWords.toNat = 7 := rfl
  have h4 : wordBytes = 4 := rfl
  constructor
  · rintro ⟨words, hwords, hn⟩
    obtain ⟨hmod, hwords⟩ := ite_err_eq_ok.mp hwords
    rw [not_not, h4] at hmod
    rw [Outcome.ok.injEq, h4] at hwords
    omega
  · rintro ⟨hmod, hn⟩
    refine ⟨_, ite_err_eq_ok.mpr ⟨not_not.mpr hmod, rfl⟩, ?_⟩
    rw [h4]
    omega

theorem packetSizeWords_response {p : SinkCapabilitiesResponsePacket} {n : UInt16} (hform : p.form = .long) :
    packetSizeWords (.sinkCapabilitiesResponse p) = .ok n ↔
      p.capabilityTable.length % 4 = 0 ∧ 4 * n.toNat = 52 + p.capabilityTable.length := by
  rw [packetSizeWords, Outcome.bind_eq_ok]
  simp only [hform, Outcome.okOr_eq_ok, tryIntoU16_eq_some]
  have h4 : wordBytes = 4 := rfl
  constructor
  · rintro ⟨words, hwords, hn⟩
    obtain ⟨hmod, hwords⟩ := ite_err_eq_ok.mp hwords
    rw [not_not, h4] at hmod
    rw [Outcome.ok.injEq, h4] at hwords
    omega
  · rintro ⟨hmod, hn⟩
    refine ⟨_, ite_err_eq_ok.mpr ⟨not_not.mpr hmod, rfl⟩, ?_⟩
    rw [h4]
    omega

theorem validateSinkCapabilitiesResponse_eq_ok {p : SinkCapabilitiesResponsePacket} {options : WriteOptions}
    (hsize : packetSizeWords (.sinkCapabilitiesResponse p) = .ok p.prologue.header.packetSizeWords) :
    validateSinkCapabilitiesResponse p options = .ok () ↔ SinkCapabilitiesResponseForm p := by
  have hlong := packetSizeWords_response (p := p) (n := p.prologue.header.packetSizeWords)
  obtain ⟨prologue, common, form, cif0, cif1, ci, cf, si, sf, table⟩ := p
  have hwords : prologue.header.packetSizeWords ≤ 13 ↔ ¬13 < prologue.header.packetSizeWords.toNat := by
    rw [UInt16.le_iff_toNat_le, Nat.not_lt]
    rfl
  cases form with
  | long =>
      obtain ⟨hmod, hbytes⟩ := (hlong rfl).mp hsize
      simp only at hmod hbytes
      simp only [validateSinkCapabilitiesResponse, Outcome.bind_eq_ok, writerExpectNoPadding_eq_ok,
        profileError_eq_ok, StandardProfile.expectSinkCapabilitiesResponseCam, expectWord_eq_ok,
        exists_and_left, exists_const]
      rw [ite_err_eq_ok, ite_err_eq_ok, hwords, not_not, not_not]
      simp only [Outcome.bind_eq_ok, profileError_eq_ok, StandardProfile.expectSinkCapabilitiesLongResponseCif0,
        StandardProfile.expectSinkCapabilitiesLongResponseCif1, expectWord_eq_ok, required_eq_ok,
        expectAbsentU32_eq_ok, expectAbsentU64_eq_ok, exists_and_left, exists_const]
      constructor
      · rintro ⟨hpad, hcam, -, h13, hcif0, _, hcif1, rfl, hci, hcf, hsi, hsf⟩
        refine ⟨hpad, hcam, hbytes, ?_, hcif0, hcif1, hci, hcf, hsi, hsf⟩
        rintro rfl
        simp only [List.length_nil] at hbytes
        omega
      · rintro ⟨hpad, hcam, -, hne, hcif0, hcif1, hci, hcf, hsi, hsf⟩
        have hpos := List.length_pos_iff.mpr hne
        simp only at hpos
        exact ⟨hpad, hcam, hmod, by omega, hcif0, _, hcif1, rfl, hci, hcf, hsi, hsf⟩
  | short =>
      simp only [validateSinkCapabilitiesResponse, Outcome.bind_eq_ok, writerExpectNoPadding_eq_ok,
        profileError_eq_ok, StandardProfile.expectSinkCapabilitiesResponseCam, expectPacketSize_eq_ok,
        StandardProfile.expectSinkCapabilitiesShortResponseCif0, expectWord_eq_ok, expectAbsentU32_eq_ok,
        exists_and_left, exists_const]
      rw [ite_err_eq_ok]
      simp only [Outcome.bind_eq_ok, required_eq_ok]
      constructor
      · rintro ⟨hpad, hcam, h18, hcif0, hcif1, htable, ci, rfl, cf, rfl, si, rfl, sf, rfl, -⟩
        refine ⟨hpad, hcam, h18, hcif0, hcif1, rfl, rfl, rfl, rfl, ?_⟩
        simpa using htable
      · rintro ⟨hpad, hcam, h18, hcif0, hcif1, hci, hcf, hsi, hsf, htable⟩
        obtain ⟨ci, hci⟩ := Option.isSome_iff_exists.mp hci
        obtain ⟨cf, hcf⟩ := Option.isSome_iff_exists.mp hcf
        obtain ⟨si, hsi⟩ := Option.isSome_iff_exists.mp hsi
        obtain ⟨sf, hsf⟩ := Option.isSome_iff_exists.mp hsf
        refine ⟨hpad, hcam, h18, hcif0, hcif1, ?_, ci, hci, cf, hcf, si, hsi, sf, hsf, trivial⟩
        simpa using htable

theorem statusReportWords_eq_ok {p : StatusReportPacket} {n : Nat} :
    statusReportWords p = .ok n ↔ Limits n p.referenceLevelLimit p.sampleRateLimit p.bandwidthLimit := by
  obtain ⟨prologue, common, cif0, cif1, errors, warnings, level, rate, band⟩ := p
  constructor
  · intro h
    cases level <;> cases rate <;> cases band <;> cases h <;> constructor
  · intro h
    simp only at h
    cases h with
    | without => rfl
    | level l => rfl
    | all l r w => rfl

theorem packetSizeWords_statusReport {p : StatusReportPacket} {n : UInt16} :
    packetSizeWords (.statusReport p) = .ok n ↔ statusReportWords p = .ok n.toNat := by
  rw [packetSizeWords, Outcome.bind_eq_ok]
  simp only [Outcome.okOr_eq_ok, tryIntoU16_eq_some]
  constructor
  · rintro ⟨words, hwords, rfl⟩
    exact hwords
  · intro hwords
    exact ⟨_, hwords, rfl⟩

theorem expectedFlags_eq_ok {n : UInt16} {level : Option ReferenceLevelLimit} {rate band : Option FixedU64}
    (h : Limits n.toNat level rate band) (warnings : UInt32) : (∃ flags : UInt64, (match n.toNat with
      | 15 => (.ok 0 : WriteResult UInt64)
      | 17 => .ok 0x10
      | 21 => .ok 0x18
      | _ => .panic) = .ok flags ∧ flags = (warnings &&& 0x18).toUInt64) ↔
        warnings &&& 0x18 = quantitativeFlags n := by
  have hflag (k : UInt32) : (∃ flags : UInt64, (.ok k.toUInt64 : WriteResult UInt64) = .ok flags ∧
      flags = (warnings &&& 0x18).toUInt64) ↔ warnings &&& 0x18 = k := by
    simp only [Outcome.ok.injEq, exists_eq_left', toUInt64_inj32]
    exact eq_comm
  generalize hn : n.toNat = k at h
  cases h with
  | without =>
      obtain rfl : n = 15 := UInt16.toNat_inj.mp hn
      exact hflag 0
  | level l =>
      obtain rfl : n = 17 := UInt16.toNat_inj.mp hn
      exact hflag 0x10
  | all l r w =>
      obtain rfl : n = 21 := UInt16.toNat_inj.mp hn
      exact hflag 0x18

theorem validateLimit_eq_ok {field : String} {limit : Option FixedU64} :
    (match limit with
      | some limit => profileError (validateFixedIntegerHz field limit.raw)
      | none => .ok ()) = .ok () ↔ ∀ r ∈ limit, r.raw.toNat % 2 ^ 20 = 0 := by
  cases limit with
  | none => simp
  | some r => simp

theorem validateStatusReport_eq_ok {p : StatusReportPacket} {options : WriteOptions}
    (hsize : packetSizeWords (.statusReport p) = .ok p.prologue.header.packetSizeWords) :
    validateStatusReport p options = .ok () ↔ StatusReportForm p := by
  have hwords := packetSizeWords_statusReport.mp hsize
  have hlimits := statusReportWords_eq_ok.mp hwords
  obtain ⟨-, hlevel, hrate, hband⟩ := limits_iff.mp hlimits
  have hflags := expectedFlags_eq_ok hlimits p.sinkErrorsWarnings
  simp only [validateStatusReport, Outcome.bind_eq_ok, writerExpectNoPadding_eq_ok, profileError_eq_ok,
    validateStatusReportSize_eq_ok, StandardProfile.expectStatusReportCam,
    StandardProfile.expectStatusReportCif0, StandardProfile.expectStatusReportCif1, expectWord_eq_ok,
    hwords, Outcome.ok.injEq, exists_and_left, exists_const, exists_eq_left', expectField_eq_ok,
    Outcome.exists_unit]
  constructor
  · rintro ⟨hpad, hsize, hcam, hcif0, hcif1, flags, hmatch, hword, hrates, hbands⟩
    exact ⟨hsize, hpad, hcam, hcif0, hcif1, hflags.mp ⟨flags, hmatch, hword⟩, hlevel, hrate, hband,
      validateLimit_eq_ok.mp hrates, validateLimit_eq_ok.mp hbands⟩
  · rintro ⟨hsize, hpad, hcam, hcif0, hcif1, hword, -, -, -, hrates, hbands⟩
    obtain ⟨flags, hmatch, hword⟩ := hflags.mpr hword
    exact ⟨hpad, hsize, hcam, hcif0, hcif1, flags, hmatch, hword, validateLimit_eq_ok.mpr hrates,
      validateLimit_eq_ok.mpr hbands⟩

section Lifting

theorem profileError_bind {α β : Type} (x : Result α) (f : α → Result β) :
    profileError (x >>= f) = profileError x >>= fun a => profileError (f a) :=
  Outcome.mapErr_bind _ _ _

theorem profileError_mulUsize (a b : Nat) : profileError (mulUsize a b) = mulUsize a b := by
  unfold mulUsize
  split <;> rfl

theorem profileError_subUsize (a b : Nat) : profileError (subUsize a b) = subUsize a b := by
  unfold subUsize
  split <;> rfl

theorem profileError_sliceFrom (xs : List UInt8) (start : Nat) :
    profileError (sliceFrom xs start) = sliceFrom xs start := by
  unfold sliceFrom
  split <;> rfl

theorem profileError_shlU16 (a s : UInt16) : profileError (shlU16 a s) = shlU16 a s := by
  unfold shlU16
  split <;> rfl

theorem profileError_subU16 (a b : UInt16) : profileError (subU16 a b) = subU16 a b := by
  unfold subU16
  split <;> rfl

theorem profileError_indexAt (xs : List UInt8) (i : Nat) : profileError (indexAt xs i) = indexAt xs i := by
  unfold indexAt
  split <;> rfl

end Lifting

theorem validateDataPadding_eq (payload : List UInt8) (padBitCount : UInt8) :
    validateDataPadding payload padBitCount =
      profileError (Parser.validateDataPadding payload padBitCount) := by
  rw [validateDataPadding, Parser.validateDataPadding]
  split
  next => rfl
  next =>
      rw [profileError_bind, profileError_mulUsize]
      refine congrArg _ (funext fun payloadBits => ?_)
      by_cases hmany : padBitCount.toNat > payloadBits
      · rw [if_pos (.inl hmany), if_pos hmany]
        rfl
      · by_cases hempty : payload.isEmpty
        · rw [if_pos (.inr hempty), if_neg hmany, if_pos hempty]
          rfl
        · rw [if_neg (fun h => h.elim hmany hempty), if_neg hmany, if_neg hempty]
          simp only [profileError_bind, apply_ite profileError, profileError_subUsize, profileError_sliceFrom,
            profileError_shlU16, profileError_subU16, profileError_indexAt]
          rfl

/-- Both copies of the padding check ask whether the payload, read as one number,
is a multiple of the power of two that the padding leaves. -/
theorem padding_checks_agree {payload : List UInt8} (padBitCount : UInt8)
    (hlimit : payload.length * 8 < usizeLimit) :
    Parser.validateDataPadding payload padBitCount =
      (if padBitCount = 0 then .ok ()
      else if padBitCount.toNat > payload.length * 8 then
        .err (.invalidPadding padBitCount (payload.length * 8))
      else if 2 ^ padBitCount.toNat ∣ bigEndian payload then .ok ()
      else .err .nonZeroPaddingBits) ∧
    validateDataPadding payload padBitCount =
      (Parser.validateDataPadding payload padBitCount).mapErr .profile :=
  ⟨Padding.validateDataPadding_verdict padBitCount hlimit, validateDataPadding_eq payload padBitCount⟩

theorem padding_checks_agree_byte : Parser.validateDataPadding [0x18] 4 = .err .nonZeroPaddingBits ∧
    validateDataPadding [0x18] 4 = .err (.profile .nonZeroPaddingBits) := by
  have hlimit : [(0x18 : UInt8)].length * 8 < usizeLimit := by decide
  have hdvd : ¬2 ^ (4 : UInt8).toNat ∣ bigEndian [0x18] := by decide
  obtain ⟨hparser, hwriter⟩ := padding_checks_agree 4 hlimit
  rw [if_neg (by decide), if_neg (by decide), if_neg hdvd] at hparser
  rw [hparser] at hwriter
  exact ⟨hparser, hwriter⟩

theorem validateSignalData_eq {p : SignalDataPacket} (options : WriteOptions) (h : SignalDataForm p) :
    validateSignalData p.prologue p.payload options =
      profileError (paddingPermission ⟨parseOptions options⟩ (.signalData p)) := by
  have hsize := h.size
  have h28 : prologueBytes = 28 := rfl
  have hmod : ¬p.payload.length % wordBytes ≠ 0 := by
    simp only [wordBytes, ne_eq, not_not]
    omega
  rw [validateSignalData, if_neg hmod, paddingPermission, apply_ite profileError]
  simp only [validateDataPadding_eq, h.padding]
  rfl

theorem validateBody_eq {p : Packet} (options : WriteOptions) (h : BodyForm p)
    (hsize : packetSizeWords p = .ok p.prologue.header.packetSizeWords) :
    validateBody p options = profileError (paddingPermission ⟨parseOptions options⟩ p) := by
  cases p with
  | signalData p => exact validateSignalData_eq options h
  | signalContext p => exact validateSignalContext_eq_ok.mpr h
  | versionContext p => exact validateVersionContext_eq_ok.mpr h
  | timingFlowControl p => exact validateTimingFlowControl_eq_ok.mpr h
  | sinkCapabilitiesQuery p => exact validateSinkCapabilitiesQuery_eq_ok.mpr h
  | sinkCapabilitiesResponse p => exact (validateSinkCapabilitiesResponse_eq_ok hsize).mpr h
  | statusReport p => exact (validateStatusReport_eq_ok hsize).mpr h

theorem packetSizeWords_eq {p : Packet} (h : BodyForm p) :
    packetSizeWords p = .ok p.prologue.header.packetSizeWords := by
  cases p with
  | signalData p =>
      have hsize := h.size
      have h28 : prologueBytes = 28 := rfl
      exact packetSizeWords_signalData.mpr ⟨by omega, hsize⟩
  | signalContext p => exact congrArg Outcome.ok h.size.symm
  | versionContext p => exact congrArg Outcome.ok h.size.symm
  | timingFlowControl p => exact congrArg Outcome.ok h.size.symm
  | sinkCapabilitiesQuery p =>
      obtain ⟨-, -, hform⟩ := h
      obtain ⟨prologue, common, form, cif0, cif1, integer, fractional⟩ := p
      cases form with
      | short => exact congrArg Outcome.ok hform.1.symm
      | long => exact congrArg Outcome.ok hform.1.symm
  | sinkCapabilitiesResponse p =>
      obtain ⟨-, -, hform⟩ := h
      have hlong := packetSizeWords_response (p := p) (n := p.prologue.header.packetSizeWords)
      obtain ⟨prologue, common, form, cif0, cif1, ci, cf, si, sf, table⟩ := p
      cases form with
      | short => exact congrArg Outcome.ok hform.1.symm
      | long =>
          obtain ⟨hsize, -⟩ := hform
          simp only at hsize
          refine (hlong rfl).mpr ⟨?_, hsize⟩
          simp only
          omega
  | statusReport p => exact packetSizeWords_statusReport.mpr (statusReportWords_eq_ok.mpr h.limits)

theorem bodyForm_of_validateBody {p : Packet} {options : WriteOptions}
    (hsize : packetSizeWords p = .ok p.prologue.header.packetSizeWords)
    (h : validateBody p options = .ok ()) : BodyForm p := by
  cases p with
  | signalData p =>
      obtain ⟨hmod, hbytes⟩ := packetSizeWords_signalData.mp hsize
      obtain ⟨-, h⟩ := ite_err_eq_ok.mp h
      obtain ⟨-, h⟩ := ite_err_eq_ok.mp h
      rw [validateDataPadding_eq, profileError_eq_ok] at h
      exact ⟨hbytes, h⟩
  | signalContext p => exact validateSignalContext_eq_ok.mp h
  | versionContext p => exact validateVersionContext_eq_ok.mp h
  | timingFlowControl p => exact validateTimingFlowControl_eq_ok.mp h
  | sinkCapabilitiesQuery p => exact validateSinkCapabilitiesQuery_eq_ok.mp h
  | sinkCapabilitiesResponse p => exact (validateSinkCapabilitiesResponse_eq_ok hsize).mp h
  | statusReport p => exact (validateStatusReport_eq_ok hsize).mp h

theorem validateClassId_eq_ok {c : ClassId} : validateClassId c = .ok () ↔ ClassIdWord c := by
  rw [validateClassId, ite_err_eq_ok, ite_err_eq_ok, not_not, and_iff_left rfl, gt_iff_lt,
    UInt8.lt_iff_toNat_lt]
  simp only [UInt8.reduceToNat]
  constructor
  · rintro ⟨hpad, houi⟩
    exact ⟨by omega, houi⟩
  · rintro ⟨hpad, houi⟩
    exact ⟨by omega, houi⟩

theorem profileChecks_lift (profile : StandardProfile) (header : PacketHeader) (classId : ClassId) :
    profileError (profileChecks profile header classId) = (do
      profileError (profile.validatePacketTypeAvailable header.packetType)
      profileError (profile.validatePacketClassAvailable classId.packetClass)
      profileError (profile.validatePacketTypeClass header.packetType classId.packetClass)
      profileError (profile.validateHeaderBits header classId.packetClass)
      profileError (profile.validateClassMembership classId.informationClass classId.packetClass)
      profileError (profile.validateTsf header classId.packetClass)
      profileError (profile.validateTsm header classId.informationClass classId.packetClass)
      .ok ()) := by
  simp only [profileChecks, profileError_bind, Outcome.bind_ok_unit]

/-- The writer rebuilds the header that it was given, and checks that one. -/
theorem validatePrologue_eq {p : Prologue} (options : WriteOptions) (h : PrologueForm p) :
    validatePrologue p (planOf p) options =
      profileError (profileChecks ⟨parseOptions options⟩ p.header p.classId) := by
  obtain ⟨hheader, hindicator, hclass⟩ := h
  have hsequence : ¬p.header.sequence > 0x0F := by
    have hlt := hheader.sequence_lt
    rw [gt_iff_lt, UInt8.lt_iff_toNat_lt]
    simp only [UInt8.reduceToNat]
    omega
  have htsm := hheader.tsm
  have hword := hheader.headerWord hindicator
  obtain ⟨⟨raw, t, indicator, bits, tsm, tsi, tsf, sequence, size⟩, streamId, classId, integer, fractional⟩ := p
  simp only at hindicator hsequence htsm hword hclass
  subst hindicator htsm
  simp only [profileChecks_lift, validatePrologue, planOf, if_neg hsequence, validateClassId_eq_ok.mpr hclass,
    hword, Outcome.ok_bind, ne_eq, not_true_eq_false, Bool.not_true, Bool.false_eq_true, if_false]
  rfl

theorem prologueForm_of_validatePrologue {p : Prologue} {plan : WritePlan} {options : WriteOptions}
    (h : validatePrologue p plan options = .ok ()) : PrologueForm p ∧ plan = planOf p := by
  rw [validatePrologue, ite_err_eq_ok, ite_err_eq_ok, ite_err_eq_ok, ite_err_eq_ok, ite_err_eq_ok] at h
  simp only [ite_err_eq_ok, Outcome.bind_eq_ok] at h
  obtain ⟨-, htype, hbits, hindicator, hsize, htsm, _, hclass, word, hword, hraw, -⟩ := h
  obtain ⟨t, bits, size⟩ := plan
  simp only [not_not] at htype hbits hsize htsm hraw hword
  subst htype hbits hsize hraw
  obtain ⟨hbits, hsequence, hraw⟩ := headerWord_eq_ok.mp hword
  have hindicator : p.header.classIdIndicator = true := by simpa using hindicator
  refine ⟨⟨⟨?_, hbits, hsequence, htsm⟩, hindicator, validateClassId_eq_ok.mp hclass⟩, rfl⟩
  rw [hraw, hindicator]
  rfl

theorem preparePacket_eq {p : Packet} (options : WriteOptions) (h : WellFormed p)
    (hbits : canonicalTypeSpecificBits p = .ok p.prologue.header.typeSpecificBits) :
    preparePacket p options =
      profileError (verdict ⟨parseOptions options⟩ p) >>= fun _ => .ok (planOf p.prologue) := by
  have hsize := packetSizeWords_eq h.body
  have hplan := validatePrologue_eq options h.prologue
  rw [planOf] at hplan
  rw [verdict, profileError_bind, Outcome.bind_assoc', ← validateBody_eq options h.body hsize, ← hplan]
  simp only [preparePacket, hsize, hbits, Outcome.ok_bind]
  cases p <;> rfl

/-- The writer prepares exactly the well-formed packets that the standard
admits and whose type-specific bits are canonical for their variant. -/
theorem preparePacket_eq_ok {p : Packet} {options : WriteOptions} {plan : WritePlan} :
    preparePacket p options = .ok plan ↔
      (WellFormed p ∧ canonicalTypeSpecificBits p = .ok p.prologue.header.typeSpecificBits ∧
        verdict ⟨parseOptions options⟩ p = .ok ()) ∧ plan = planOf p.prologue := by
  constructor
  · intro h
    have hcopy := h
    obtain ⟨size, hsize, h⟩ := Outcome.bind_eq_ok.mp h
    obtain ⟨bits, hbits, h⟩ := Outcome.bind_eq_ok.mp h
    obtain ⟨_, hprologue, h⟩ := Outcome.bind_eq_ok.mp h
    obtain ⟨_, hbody, h⟩ := Outcome.bind_eq_ok.mp h
    obtain ⟨hform, hplan⟩ := prologueForm_of_validatePrologue hprologue
    have hbody : validateBody p options = .ok () := by
      cases p <;> exact hbody
    obtain ⟨-, rfl, rfl⟩ := WritePlan.mk.inj hplan
    have hwell : WellFormed p := ⟨hform, bodyForm_of_validateBody hsize hbody⟩
    rw [preparePacket_eq options hwell hbits] at hcopy
    obtain ⟨_, hverdict, hcopy⟩ := Outcome.bind_eq_ok.mp hcopy
    cases hcopy
    exact ⟨⟨hwell, hbits, profileError_eq_ok.mp hverdict⟩, rfl⟩
  · rintro ⟨⟨hwell, hbits, hverdict⟩, rfl⟩
    rw [preparePacket_eq options hwell hbits, hverdict]
    rfl

end Difi.Preparation
