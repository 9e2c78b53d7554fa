import Difi.Layout

namespace Difi.Decoding

open Machine Checks Fields Bodies Layout Difi.Parser

theorem choice_mem {w changed unchanged : UInt32} {c : Bool} (hne : changed ≠ unchanged) :
    (w = if c then changed else unchanged) ↔ w ∈ [changed, unchanged] ∧ c = (w == changed) := by
  cases c <;> simp <;> grind

theorem parseData_iff {b : List UInt8} {prologue : Prologue} {profile : StandardProfile}
    {x : SignalDataPacket} (hlen : b.length = 4 * prologue.header.packetSizeWords.toNat) :
    parseData b prologue profile = .ok x ↔
      (x.prologue = prologue ∧ SignalDataForm x ∧ prologueBytes ≤ b.length ∧
        b.drop prologueBytes = bodyBytes (.signalData x)) ∧
      (prologue.classId.padBitCount ≠ 0 →
        profile.permitsDataPadding prologue.classId.informationClass prologue.classId.packetClass = true) := by
  rw [parseData_eq_ok hlen]
  constructor
  · rintro ⟨hsize, hpermit, hpad, rfl⟩
    have hb : prologueBytes ≤ b.length := by
      rw [hlen]
      exact Nat.mul_le_mul_left 4 hsize
    refine ⟨⟨rfl, ⟨?_, hpad⟩, hb, rfl⟩, hpermit⟩
    simp only [List.length_drop]
    omega
  · rintro ⟨⟨rfl, hform, hb, hbytes⟩, hpermit⟩
    have hsize : 28 ≤ b.length := hb
    refine ⟨by omega, hpermit, ?_, ?_⟩
    · rw [hbytes]
      exact hform.padding
    · rw [hbytes]
      rfl

theorem parseSignalContext_iff {b : List UInt8} {prologue : Prologue} {profile : StandardProfile}
    {x : SignalContextPacket} (hlen : b.length = 4 * prologue.header.packetSizeWords.toNat) :
    parseSignalContext b prologue profile = .ok x ↔
      x.prologue = prologue ∧ SignalContextForm x ∧ b.drop prologueBytes = bodyBytes (.signalContext x) := by
  have hbytes (h27 : prologue.header.packetSizeWords = 27) :
      b.drop 28 = bodyBytes (.signalContext x) ↔
      wordAt b 7 = x.cif0 ∧ wordAt b 8 = x.referencePoint ∧ doubleAt b 9 = x.bandwidth.raw ∧
      doubleAt b 11 = x.ifReferenceFrequency.raw.toUInt64 ∧
      doubleAt b 13 = x.rfReferenceFrequency.raw.toUInt64 ∧ doubleAt b 15 = x.ifBandOffset.raw.toUInt64 ∧
      wordAt b 17 = joinHalves x.scalingLevel.toUInt16 x.referenceLevel.toUInt16 ∧
      wordAt b 18 = joinHalves x.gain2 x.gain1 ∧ doubleAt b 19 = x.sampleRate.raw ∧
      doubleAt b 21 = x.timestampAdjustment.raw.toUInt64 ∧ wordAt b 23 = x.timestampCalibrationTime ∧
      wordAt b 24 = x.stateAndEventIndicators ∧ wordAt b 25 = x.payloadFormat.rawWord0 ∧
      wordAt b 26 = x.payloadFormat.rawWord1 := by
    rw [h27] at hlen
    refine (drop_eq_flat (k := 7) hlen).trans ?_
    simp only [signalContextLayout, WordsFrom, Nat.reduceAdd, doubleAt_eq_iff, and_assoc, and_true]
  rw [parseSignalContext_eq_ok hlen]
  constructor
  · rintro ⟨h27, hpad, hcif, hbw, hsr, hif, hrf, hbo, f, hf, rfl⟩
    obtain ⟨hw0, hw1, hformat⟩ := parse_payloadFormat_eq_ok.mp hf
    refine ⟨rfl, ⟨h27, hpad, (choice_mem (by decide)).mpr ⟨hcif, rfl⟩, hbw, ?_, ?_, ?_, hsr, hformat⟩, ?_⟩
    · simpa using hif
    · simpa using hrf
    · simpa using hbo
    · rw [show prologueBytes = 28 from rfl, hbytes h27]
      simp [hw0, hw1]
  · rintro ⟨rfl, hform, hb⟩
    obtain ⟨h7, h8, h9, h11, h13, h15, h17, h18, h19, h21, h23, h24, h25, h26⟩ := (hbytes hform.size).mp hb
    obtain ⟨hcif, hchanged⟩ := (choice_mem (by decide)).mp hform.cif0
    rw [h7, h8, h9, h11, h13, h15, h17, h18, h19, h21, h23, h24, h25, h26]
    refine ⟨hform.size, hform.padding, hcif, hform.bandwidth, hform.sampleRate,
      hform.ifReferenceFrequency, hform.rfReferenceFrequency, hform.ifBandOffset, x.payloadFormat,
      parse_payloadFormat_eq_ok.mpr ⟨rfl, rfl, hform.payloadFormat⟩, ?_⟩
    simp [← hchanged]

theorem parseVersionContext_iff {b : List UInt8} {prologue : Prologue} {profile : StandardProfile}
    {x : VersionContextPacket} (hlen : b.length = 4 * prologue.header.packetSizeWords.toNat) :
    parseVersionContext b prologue profile = .ok x ↔
      x.prologue = prologue ∧ VersionContextForm x ∧ b.drop prologueBytes = bodyBytes (.versionContext x) := by
  have hbytes (h11 : prologue.header.packetSizeWords = 11) :
      b.drop 28 = bodyBytes (.versionContext x) ↔
      wordAt b 7 = x.cif0 ∧ wordAt b 8 = x.cif1 ∧ wordAt b 9 = x.vita49SpecVersion ∧
      wordAt b 10 = Writer.versionWord x := by
    rw [h11] at hlen
    refine (drop_eq_flat (k := 7) hlen).trans ?_
    simp only [versionContextLayout, WordsFrom, Nat.reduceAdd, and_true]
  rw [parseVersionContext_eq_ok hlen]
  constructor
  · rintro ⟨h11, hpad, hcif, hcif1, hspec, year, day, revision, hv, rfl⟩
    have hword : Writer.versionWord {
        prologue, cif0 := wordAt b 7, contextChanged := wordAt b 7 == cifVersionChanged, cif1 := wordAt b 8,
        vita49SpecVersion := wordAt b 9, year, day, revision, deviceType := 0,
        icdVersion := .version1 } = wordAt b 10 := by
      apply UInt32.toNat_inj.mp
      rw [versionWord_toNat hv.year_lt hv.day_lt hv.revision_lt rfl, hv.word]
    refine ⟨rfl, ⟨h11, hpad, (choice_mem (by decide)).mpr ⟨hcif, rfl⟩, hcif1, hspec, ?_, rfl⟩, ?_⟩
    · rw [hword]
      exact hv
    · rw [show prologueBytes = 28 from rfl, hbytes h11]
      exact ⟨rfl, rfl, rfl, hword.symm⟩
  · rintro ⟨rfl, hform, hb⟩
    obtain ⟨h7, h8, h9, h10⟩ := (hbytes hform.size).mp hb
    obtain ⟨hcif, hchanged⟩ := (choice_mem (by decide)).mp hform.cif0
    rw [h7, h8, h9, h10]
    refine ⟨hform.size, hform.padding, hcif, hform.cif1, hform.specVersion, x.year, x.day, x.revision,
      hform.version, ?_⟩
    rw [← hchanged, ← hform.deviceType]

theorem parseTimingFlowControl_iff {b : List UInt8} {prologue : Prologue} {profile : StandardProfile}
    {x : TimingFlowControlPacket} (hlen : b.length = 4 * prologue.header.packetSizeWords.toNat) :
    parseTimingFlowControl b prologue profile = .ok x ↔
      x.prologue = prologue ∧ TimingFlowControlForm x ∧
        b.drop prologueBytes = bodyBytes (.timingFlowControl x) := by
  have hbytes (h21 : prologue.header.packetSizeWords = 21) :
      b.drop 28 = bodyBytes (.timingFlowControl x) ↔
      wordAt b 7 = x.common.cam ∧ wordAt b 8 = x.common.messageId ∧ wordAt b 9 = x.common.controlleeId ∧
      wordAt b 10 = x.common.controllerId ∧ wordAt b 11 = x.cif0 ∧ wordAt b 12 = x.cif1 ∧
      wordAt b 13 = x.referencePoint ∧ doubleAt b 14 = x.sampleRate.raw ∧
      doubleAt b 16 = x.timestampAdjustment.raw.toUInt64 ∧ doubleAt b 18 = x.bufferSizeBytes ∧
      wordAt b 20 = x.bufferStatus.raw := by
    rw [h21] at hlen
    refine (drop_eq_flat (k := 7) hlen).trans ?_
    simp only [timingFlowControlLayout, commonLayout, List.cons_append, List.nil_append, WordsFrom,
      Nat.reduceAdd, doubleAt_eq_iff, and_assoc, and_true]
  rw [parseTimingFlowControl_eq_ok hlen]
  constructor
  · rintro ⟨h21, hpad, hcam, hcif0, hcif1, hrate, s, hraw, hs, rfl⟩
    refine ⟨rfl, ⟨h21, hpad, hcam, hcif0, hcif1, hrate, hs⟩, ?_⟩
    rw [show prologueBytes = 28 from rfl, hbytes h21]
    simp [hraw]
  · rintro ⟨rfl, hform, hb⟩
    obtain ⟨h7, h8, h9, h10, h11, h12, h13, h14, h16, h18, h20⟩ := (hbytes hform.size).mp hb
    rw [h7, h8, h9, h10, h11, h12, h13, h14, h16, h18, h20]
    refine ⟨hform.size, hform.padding, hform.cam, hform.cif0, hform.cif1, hform.sampleRate,
      x.bufferStatus, rfl, hform.bufferStatus, ?_⟩
    simp

theorem parseSinkCapabilitiesQuery_iff {b : List UInt8} {prologue : Prologue} {profile : StandardProfile}
    {x : SinkCapabilitiesQueryPacket} (hlen : b.length = 4 * prologue.header.packetSizeWords.toNat) :
    parseSinkCapabilitiesQuery b prologue profile = .ok x ↔
      x.prologue = prologue ∧ SinkCapabilitiesQueryForm x ∧
        b.drop prologueBytes = bodyBytes (.sinkCapabilitiesQuery x) := by
  rw [parseSinkCapabilitiesQuery_eq_ok hlen]
  constructor
  · rintro ⟨hpad, hcam, ⟨h15, hcif0, rfl⟩ | ⟨h13, hcif0, hcif1, rfl⟩⟩
    · rw [h15] at hlen
      refine ⟨rfl, ⟨hpad, hcam, h15, hcif0, rfl, rfl, rfl⟩, (drop_eq_flat (k := 7) hlen).mpr ?_⟩
      simp [sinkCapabilitiesQueryLayout, commonLayout, optionalDouble, WordsFrom]
    · rw [h13] at hlen
      refine ⟨rfl, ⟨hpad, hcam, h13, hcif0, congrArg some hcif1, rfl, rfl⟩,
        (drop_eq_flat (k := 7) hlen).mpr ?_⟩
      simp [sinkCapabilitiesQueryLayout, commonLayout, optionalDouble, WordsFrom]
  · rintro ⟨rfl, ⟨hpad, hcam, hform⟩, hb⟩
    obtain ⟨prologue, common, form, cif0, cif1, integer, fractional⟩ := x
    cases form with
    | short =>
        obtain ⟨h15, hcif0, hcif1, hint, hfrac⟩ := hform
        obtain ⟨i, rfl⟩ := Option.isSome_iff_exists.mp hint
        obtain ⟨f, rfl⟩ := Option.isSome_iff_exists.mp hfrac
        subst hcif1
        rw [h15] at hlen
        have hw := (drop_eq_flat (k := 7) hlen).mp hb
        simp only [sinkCapabilitiesQueryLayout, commonLayout, Option.toList_none, Option.toList_some,
          optionalDouble, Option.elim_some, List.cons_append, List.nil_append, WordsFrom, Nat.reduceAdd,
          and_true] at hw
        obtain ⟨h7, h8, h9, h10, h11, h12, h13, h14⟩ := hw
        rw [h7, h8, h9, h10, h11, h12, doubleAt_eq_iff.mpr ⟨h13, h14⟩]
        exact ⟨hpad, hcam, .inl ⟨h15, hcif0, rfl⟩⟩
    | long =>
        obtain ⟨h13, hcif0, hcif1, hint, hfrac⟩ := hform
        subst hcif1 hint hfrac
        rw [h13] at hlen
        have hw := (drop_eq_flat (k := 7) hlen).mp hb
        simp only [sinkCapabilitiesQueryLayout, commonLayout, Option.toList_none, Option.toList_some,
          optionalDouble, Option.elim_none, List.cons_append, List.nil_append, List.append_nil, WordsFrom,
          Nat.reduceAdd, and_true] at hw
        obtain ⟨h7, h8, h9, h10, h11, h12⟩ := hw
        rw [h7, h8, h9, h10, h11, h12]
        exact ⟨hpad, hcam, .inr ⟨h13, hcif0, rfl, rfl⟩⟩

theorem parseSinkCapabilitiesResponse_iff {b : List UInt8} {prologue : Prologue} {profile : StandardProfile}
    {x : SinkCapabilitiesResponsePacket} (hlen : b.length = 4 * prologue.header.packetSizeWords.toNat) :
    parseSinkCapabilitiesResponse b prologue profile = .ok x ↔
      x.prologue = prologue ∧ SinkCapabilitiesResponseForm x ∧
        b.drop prologueBytes = bodyBytes (.sinkCapabilitiesResponse x) := by
  rw [parseSinkCapabilitiesResponse_eq_ok hlen]
  constructor
  · rintro ⟨hpad, hcam, ⟨h18, hcif0, rfl⟩ | ⟨h13, hcif0, hcif1, rfl⟩⟩
    · rw [h18] at hlen
      refine ⟨rfl, ⟨hpad, hcam, h18, hcif0, rfl, rfl, rfl, rfl, rfl, rfl⟩, ?_⟩
      rw [bodyBytes, List.append_nil]
      refine (drop_eq_flat (k := 7) hlen).mpr ?_
      simp [sinkCapabilitiesResponseLayout, commonLayout, optionalDouble, WordsFrom]
    · refine ⟨rfl, ⟨hpad, hcam, ?_, ?_, hcif0, congrArg some hcif1, rfl, rfl, rfl, rfl⟩, ?_⟩
      · simp only [List.length_drop]
        omega
      · intro hnil
        have hle := List.drop_eq_nil_iff.mp hnil
        omega
      · refine (drop_eq_flat_append (k := 7) ?_).mpr ⟨?_, ?_⟩
        · simp [sinkCapabilitiesResponseLayout, commonLayout, optionalDouble]
          omega
        · simp [sinkCapabilitiesResponseLayout, commonLayout, optionalDouble, WordsFrom]
        · simp [sinkCapabilitiesResponseLayout, commonLayout, optionalDouble]
  · rintro ⟨rfl, ⟨hpad, hcam, hform⟩, hb⟩
    obtain ⟨prologue, common, form, cif0, cif1, ci, cf, si, sf, table⟩ := x
    cases form with
    | short =>
        obtain ⟨h18, hcif0, hcif1, hci, hcf, hsi, hsf, htable⟩ := hform
        obtain ⟨ci, rfl⟩ := Option.isSome_iff_exists.mp hci
        obtain ⟨cf, rfl⟩ := Option.isSome_iff_exists.mp hcf
        obtain ⟨si, rfl⟩ := Option.isSome_iff_exists.mp hsi
        obtain ⟨sf, rfl⟩ := Option.isSome_iff_exists.mp hsf
        subst hcif1 htable
        rw [h18] at hlen
        rw [bodyBytes, List.append_nil] at hb
        have hw := (drop_eq_flat (k := 7) hlen).mp hb
        simp only [sinkCapabilitiesResponseLayout, commonLayout, Option.toList_none, Option.toList_some,
          optionalDouble, Option.elim_some, List.cons_append, List.nil_append, WordsFrom, Nat.reduceAdd,
          and_true] at hw
        obtain ⟨h7, h8, h9, h10, h11, h12, h13, h14, h15, h16, h17⟩ := hw
        rw [h7, h8, h9, h10, h11, h12, doubleAt_eq_iff.mpr ⟨h13, h14⟩, h15, doubleAt_eq_iff.mpr ⟨h16, h17⟩]
        exact ⟨hpad, hcam, .inl ⟨h18, hcif0, rfl⟩⟩
    | long =>
        obtain ⟨hsize, hne, hcif0, hcif1, hci, hcf, hsi, hsf⟩ := hform
        have hpos := List.length_pos_iff.mpr hne
        simp only at hsize hpos hlen
        subst hcif1 hci hcf hsi hsf
        obtain ⟨hw, htail⟩ := (drop_eq_flat_append (k := 7) (by
          simp [sinkCapabilitiesResponseLayout, commonLayout, optionalDouble]
          omega)).mp hb
        simp only [sinkCapabilitiesResponseLayout, commonLayout, Option.toList_none, Option.toList_some,
          optionalDouble, Option.elim_none, List.cons_append, List.nil_append, List.append_nil, WordsFrom,
          Nat.reduceAdd, and_true, List.length_cons, List.length_nil, Nat.reduceMul] at hw htail
        obtain ⟨h7, h8, h9, h10, h11, h12⟩ := hw
        rw [h7, h8, h9, h10, h11, h12, htail]
        have hlarge : 13 < prologue.header.packetSizeWords.toNat := by omega
        exact ⟨hpad, hcam, .inr ⟨hlarge, hcif0, rfl, rfl⟩⟩

theorem parseStatusReport_iff {b : List UInt8} {prologue : Prologue} {profile : StandardProfile}
    {x : StatusReportPacket} (hlen : b.length = 4 * prologue.header.packetSizeWords.toNat) :
    parseStatusReport b prologue profile = .ok x ↔
      x.prologue = prologue ∧ StatusReportForm x ∧ b.drop prologueBytes = bodyBytes (.statusReport x) := by
  rw [parseStatusReport_eq_ok hlen]
  constructor
  · rintro ⟨hsize, hpad, hcam, hcif0, hcif1, hflags, hhz, rfl⟩
    refine ⟨rfl, ⟨hsize, hpad, hcam, hcif0, hcif1, hflags, ?_, ?_, ?_, ?_, ?_⟩, ?_⟩
    · rcases hsize with h | h | h <;> simp [h]
    · rcases hsize with h | h | h <;> simp [h]
    · rcases hsize with h | h | h <;> simp [h]
    · rcases hsize with h | h | h
      · simp [h]
      · simp [h]
      · simpa [h] using (hhz h).1
    · rcases hsize with h | h | h
      · simp [h]
      · simp [h]
      · simpa [h] using (hhz h).2
    · rcases hsize with h | h | h
      all_goals
        rw [h] at hlen
        simp only [h]
        refine (drop_eq_flat (k := 7) hlen).mpr ?_
        simp [statusReportLayout, commonLayout, optionalDouble, WordsFrom]
  · rintro ⟨rfl, hform, hb⟩
    have hlimits := hform.limits
    obtain ⟨-, hpad, hcam, hcif0, hcif1, hflags, -, -, -, hrate, hband⟩ := hform
    obtain ⟨prologue, common, cif0, cif1, errors, warnings, level, rate, band⟩ := x
    simp only at hpad hcam hcif0 hcif1 hflags hlimits hlen hrate hband
    generalize hn : prologue.header.packetSizeWords.toNat = n at hlimits
    rw [hn] at hlen
    cases hlimits with
    | without =>
        have h : prologue.header.packetSizeWords = 15 := UInt16.toNat_inj.mp hn
        have hws := (drop_eq_flat (k := 7) hlen).mp hb
        simp only [statusReportLayout, commonLayout, optionalDouble, Option.map_none, Option.elim_none,
          List.cons_append, List.nil_append, List.append_nil, WordsFrom, Nat.reduceAdd, and_true] at hws
        obtain ⟨h7, h8, h9, h10, h11, h12, h13, h14⟩ := hws
        rw [h7, h8, h9, h10, h11, h12, h13, h14]
        refine ⟨.inl h, hpad, hcam, hcif0, hcif1, hflags, ?_, ?_⟩
        · simp [h]
        · simp [h]
    | level l =>
        have h : prologue.header.packetSizeWords = 17 := UInt16.toNat_inj.mp hn
        have hws := (drop_eq_flat (k := 7) hlen).mp hb
        simp only [statusReportLayout, commonLayout, optionalDouble, Option.map_none, Option.elim_none,
          Option.elim_some, List.cons_append, List.nil_append, List.append_nil, WordsFrom, Nat.reduceAdd,
          and_true] at hws
        obtain ⟨h7, h8, h9, h10, h11, h12, h13, h14, h15, h16⟩ := hws
        rw [h7, h8, h9, h10, h11, h12, h13, h14, h15, h16]
        refine ⟨.inr (.inl h), hpad, hcam, hcif0, hcif1, hflags, ?_, ?_⟩
        · simp [h]
        · simp [h]
    | all l r w =>
        have h : prologue.header.packetSizeWords = 21 := UInt16.toNat_inj.mp hn
        have hws := (drop_eq_flat (k := 7) hlen).mp hb
        simp only [statusReportLayout, commonLayout, optionalDouble, Option.map_some, Option.elim_some,
          List.cons_append, List.nil_append, WordsFrom, Nat.reduceAdd, and_true] at hws
        obtain ⟨h7, h8, h9, h10, h11, h12, h13, h14, h15, h16, h17, h18, h19, h20⟩ := hws
        rw [h7, h8, h9, h10, h11, h12, h13, h14, h15, h16, doubleAt_eq_iff.mpr ⟨h17, h18⟩,
          doubleAt_eq_iff.mpr ⟨h19, h20⟩]
        refine ⟨.inr (.inr h), hpad, hcam, hcif0, hcif1, hflags, fun _ => ⟨hrate r rfl, hband w rfl⟩, ?_⟩
        simp [h]

/-- The body decoder of a variant, whatever the packet class says. -/
def decodeAs (v : Variant) (b : List UInt8) (prologue : Prologue) (profile : StandardProfile) :
    Result Packet :=
  match v with
  | .signalData => (parseData b prologue profile).map .signalData
  | .signalContext => (parseSignalContext b prologue profile).map .signalContext
  | .versionContext => (parseVersionContext b prologue profile).map .versionContext
  | .timingFlowControl => (parseTimingFlowControl b prologue profile).map .timingFlowControl
  | .sinkCapabilitiesQuery =>
    (parseSinkCapabilitiesQuery b prologue profile).map .sinkCapabilitiesQuery
  | .sinkCapabilitiesResponse =>
    (parseSinkCapabilitiesResponse b prologue profile).map .sinkCapabilitiesResponse
  | .statusReport => (parseStatusReport b prologue profile).map .statusReport

/-- The one rule on a body that depends on the standard. -/
def paddingPermission (profile : StandardProfile) : Packet → Result Unit
  | .signalData p =>
    if p.prologue.classId.padBitCount ≠ 0 ∧
        !profile.permitsDataPadding p.prologue.classId.informationClass p.prologue.classId.packetClass then
      .err (.padBitsNotAllowed p.prologue.classId.informationClass p.prologue.classId.packetClass
        p.prologue.classId.padBitCount)
    else .ok ()
  | _ => .ok ()

theorem paddingPermission_signalData {profile : StandardProfile} {p : SignalDataPacket} {u : Unit} :
    paddingPermission profile (.signalData p) = .ok u ↔
      (p.prologue.classId.padBitCount ≠ 0 → profile.permitsDataPadding
        p.prologue.classId.informationClass p.prologue.classId.packetClass = true) := by
  rw [paddingPermission, ite_err_eq_ok, and_iff_left rfl, not_and]
  simp

/-- A decoder succeeds on exactly the bytes of the well-formed packets of its
variant. -/
theorem decodeAs_eq_ok {v : Variant} {b : List UInt8} {prologue : Prologue} {profile : StandardProfile}
    {x : Packet} (hlen : b.length = 4 * prologue.header.packetSizeWords.toNat)
    (h28 : prologueBytes ≤ b.length) :
    decodeAs v b prologue profile = .ok x ↔
      variant x = v ∧ x.prologue = prologue ∧ BodyForm x ∧ paddingPermission profile x = .ok () ∧
        b.drop prologueBytes = bodyBytes x := by
  cases v
  all_goals
    simp only [decodeAs, Outcome.map_eq_ok, parseData_iff hlen, parseSignalContext_iff hlen,
      parseVersionContext_iff hlen, parseTimingFlowControl_iff hlen, parseSinkCapabilitiesQuery_iff hlen,
      parseSinkCapabilitiesResponse_iff hlen, parseStatusReport_iff hlen]
    cases x
    all_goals
      simp only [variant, reduceCtorEq, false_and, and_false, exists_false, true_and, Packet.signalData.injEq,
        Packet.signalContext.injEq, Packet.versionContext.injEq, Packet.timingFlowControl.injEq,
        Packet.sinkCapabilitiesQuery.injEq, Packet.sinkCapabilitiesResponse.injEq,
        Packet.statusReport.injEq, exists_eq_right, Packet.prologue, BodyForm, paddingPermission_signalData]
  · constructor
    · rintro ⟨⟨rfl, hform, -, hb⟩, hpermit⟩
      exact ⟨rfl, hform, hpermit, hb⟩
    · rintro ⟨rfl, hform, hpermit, hb⟩
      exact ⟨⟨rfl, hform, h28, hb⟩, hpermit⟩
  all_goals
    simp only [paddingPermission, true_and]

theorem parseData_denied {b : List UInt8} {prologue : Prologue} {profile : StandardProfile}
    (hlen : b.length = 4 * prologue.header.packetSizeWords.toNat) (h28 : prologueBytes ≤ b.length)
    (hdenied : prologue.classId.padBitCount ≠ 0 ∧
      !profile.permitsDataPadding prologue.classId.informationClass prologue.classId.packetClass) :
    parseData b prologue profile = .err (.padBitsNotAllowed prologue.classId.informationClass
      prologue.classId.packetClass prologue.classId.padBitCount) := by
  have hwords : ¬prologue.header.packetSizeWords < prologueWords := by
    have h : 28 ≤ b.length := h28
    exact prologueWords_le.mpr (by omega)
  simp only [parseData]
  rw [if_neg hwords, sliceFrom_ok h28, Outcome.ok_bind, if_pos hdenied]

theorem decodeAs_variant {b : List UInt8} {x : Packet} (profile : StandardProfile)
    (hlen : b.length = 4 * x.prologue.header.packetSizeWords.toNat) (h28 : prologueBytes ≤ b.length)
    (hform : BodyForm x) (hb : b.drop prologueBytes = bodyBytes x) :
    decodeAs (variant x) b x.prologue profile = paddingPermission profile x >>= fun _ => .ok x := by
  rcases hp : paddingPermission profile x with u | e | _
  · exact (decodeAs_eq_ok hlen h28).mpr ⟨rfl, rfl, hform, hp, hb⟩
  · cases x with
    | signalData p =>
        rw [paddingPermission] at hp
        split at hp
        next hdenied =>
            cases hp
            exact congrArg (Outcome.map Packet.signalData) (parseData_denied hlen h28 hdenied)
        next => cases hp
    | _ => cases hp
  · cases x with
    | signalData p =>
        rw [paddingPermission] at hp
        split at hp
        next => cases hp
        next => cases hp
    | _ => cases hp

end Difi.Decoding
