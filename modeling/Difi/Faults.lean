import Difi.Grammar

namespace Difi.Faults

open Machine Outcome Checks Fields Bodies Layout Decoding Acceptance Grammar

def contextClasses : List PacketClassCode := [.standardFlowSignalContext, .sampleCountSignalContext]

def timingClasses : List PacketClassCode := [.sampleCountTimingFlowControl, .realTimeTimingFlowControl]

/-- The words of a body that have one value each. -/
inductive Fixed where
  | versionCif1
  | specVersion
  | deviceType
  | icdVersion
  | timingCam
  | timingCif0
  | timingCif1
  | queryCam
  | shortQueryCif0
  | longQueryCif0
  | longQueryCif1
  | responseCam
  | shortResponseCif0
  | longResponseCif0
  | longResponseCif1
  | statusCam
  | statusCif0
  | statusCif1
  | statusFlags (size : Nat)

def Short (b : List UInt8) : Prop := 2 ^ 31 ≤ word b 11

structure FixedRow where
  name : String
  classes : List PacketClassCode
  applies : Prop
  read : Nat
  expected : Nat

/-- The name of a field, where it is checked, where it is read, and its value. -/
def Fixed.row (b : List UInt8) : Fixed → FixedRow
  | .versionCif1 => ⟨"version context CIF1", [.versionFlowSignalContext], True, word b 8, 0x0000000C⟩
  | .specVersion => ⟨"VITA 49.2 spec version", [.versionFlowSignalContext], True, word b 9, 4⟩
  | .deviceType => ⟨"version device type", [.versionFlowSignalContext], True, word b 10 / 2 ^ 6 % 2 ^ 4, 0⟩
  | .icdVersion => ⟨"DIFI ICD version", [.versionFlowSignalContext], True, word b 10 % 2 ^ 6, 0⟩
  | .timingCam => ⟨"timing flow control CAM", timingClasses, True, word b 7, 0xA1000000⟩
  | .timingCif0 => ⟨"timing flow control CIF0", timingClasses, True, word b 11, 0x40300002⟩
  | .timingCif1 => ⟨"timing flow control CIF1", timingClasses, True, word b 12, 0x00000002⟩
  | .queryCam => ⟨"sink capabilities query CAM", [.sinkCapabilitiesQuery], True, word b 7, 0xA1100000⟩
  | .shortQueryCif0 =>
    ⟨"sink capabilities short query CIF0", [.sinkCapabilitiesQuery], Short b, word b 11, 0x80000000⟩
  | .longQueryCif0 =>
    ⟨"sink capabilities long query CIF0", [.sinkCapabilitiesQuery], ¬Short b, word b 11, 0x7BB98002⟩
  | .longQueryCif1 =>
    ⟨"sink capabilities long query CIF1", [.sinkCapabilitiesQuery], ¬Short b, word b 12, 0x00000002⟩
  | .responseCam =>
    ⟨"sink capabilities response CAM", [.sinkCapabilitiesResponse], True, word b 7, 0xA1100400⟩
  | .shortResponseCif0 =>
    ⟨"sink capabilities short response CIF0", [.sinkCapabilitiesResponse], Short b, word b 11, 0x80000000⟩
  | .longResponseCif0 =>
    ⟨"sink capabilities long response CIF0", [.sinkCapabilitiesResponse], ¬Short b, word b 11, 0x7BB98002⟩
  | .longResponseCif1 =>
    ⟨"sink capabilities long response CIF1", [.sinkCapabilitiesResponse], ¬Short b, word b 12, 0x00000002⟩
  | .statusCam => ⟨"status report CAM", [.statusReport], True, word b 7, 0xA1080000⟩
  | .statusCif0 => ⟨"status report CIF0", [.statusReport], True, word b 11, 0⟩
  | .statusCif1 => ⟨"status report CIF1", [.statusReport], True, word b 12, 0⟩
  | .statusFlags size =>
    ⟨"status report quantitative flags", [.statusReport], words b = size, word b 14 / 2 ^ 3 % 4 * 2 ^ 3,
      if size = 15 then 0 else if size = 17 then 0x10 else 0x18⟩

/-- The fields in hertz: the name, the classes and the size of their packets, and
the word that they begin at. -/
def hertzFields : List (String × List PacketClassCode × Nat × Nat) := [
  ("context bandwidth", contextClasses, 27, 9),
  ("context IF reference frequency", contextClasses, 27, 11),
  ("context RF reference frequency", contextClasses, 27, 13),
  ("context IF band offset", contextClasses, 27, 15),
  ("context sample rate", contextClasses, 27, 19),
  ("timing flow control sample rate", timingClasses, 21, 14),
  ("status sample rate limit", [.statusReport], 21, 17),
  ("status bandwidth limit", [.statusReport], 21, 19)]

def TypeAt (b : List UInt8) (t : PacketType) : Prop := t.code.toNat = word b 0 / 2 ^ 28

def InformationAt (b : List UInt8) (i : InformationClassCode) : Prop := i.raw.toNat = word b 3 / 2 ^ 16

def ClassAt (b : List UInt8) (c : PacketClassCode) : Prop := c.raw.toNat = word b 3 % 2 ^ 16

def Missized (b : List UInt8) (expected : Nat) : PacketClassCode → Prop
  | .standardFlowSignalContext | .sampleCountSignalContext => expected = 27 ∧ words b ≠ 27
  | .versionFlowSignalContext => expected = 11 ∧ words b ≠ 11
  | .sampleCountTimingFlowControl | .realTimeTimingFlowControl => expected = 21 ∧ words b ≠ 21
  | .sinkCapabilitiesQuery =>
    (Short b ∧ expected = 15 ∧ words b ≠ 15) ∨ (¬Short b ∧ expected = 13 ∧ words b ≠ 13)
  | .sinkCapabilitiesResponse =>
    (Short b ∧ expected = 18 ∧ words b ≠ 18) ∨ (¬Short b ∧ expected = 14 ∧ words b < 14)
  | _ => False

def layoutWords : PacketLayout → UInt16
  | .signalContext => 27
  | .versionContext => 11
  | .timingFlowControl => 21
  | .sinkCapabilitiesQueryLong => 13
  | .sinkCapabilitiesQueryShort => 15
  | .sinkCapabilitiesResponseShort => 18

def bitsName : PacketType → String
  | .signalDataWithStreamId | .commandWithStreamId => "packet header type-specific"
  | .contextWithStreamId | .versionWithStreamId => "timestamp mode"
  | .extensionCommandWithStreamId => "extension command header type-specific"

/-- What an error of the checks of a prologue says about the prologue and about the
standard. -/
def PrologueFault (options : ParseOptions) (header : PacketHeader) (classId : ClassId) : ParseError → Prop
  | .packetTypeNotAvailableInStandard standard t => standard = options.standard ∧ t = header.packetType ∧
      ∀ i c, (StandardProfile.mk options).allowsPacketClass i c = true → t.code.toNat ∉ typeNibbles options c
  | .packetClassNotAvailableInStandard standard c => standard = options.standard ∧
      c = classId.packetClass ∧ ∀ i, (StandardProfile.mk options).allowsPacketClass i c = false
  | .packetClassNotInInformationClass i c => i = classId.informationClass ∧ c = classId.packetClass ∧
      (StandardProfile.mk options).allowsPacketClass i c = false
  | .packetTypeClassMismatch t c =>
      t = header.packetType ∧ c = classId.packetClass ∧ t.code.toNat ∉ typeNibbles options c
  | .invalidTsfForPacketClass c expected actual => c = classId.packetClass ∧
      tsfCodes c = [expected.code.toNat] ∧ actual = header.tsf ∧ actual ≠ expected
  | .reservedBitsNonZero field bits => field = "context packet header" ∧
      header.packetType.code.toNat ∈ [4, 5] ∧ bits.toNat = header.typeSpecificBits.toNat / 2 % 4 * 2 ∧
      bits.toNat ≠ 0
  | .invalidHeaderBits field expected actual => field = bitsName header.packetType ∧
      expected.toNat = typeSpecific classId.informationClass classId.packetClass ∧
      actual = header.typeSpecificBits ∧ actual ≠ expected
  | _ => False

/-- What an error says about the bytes of the packet that it is raised for, and
about the standard. -/
def PacketFault (options : ParseOptions) (b : List UInt8) : ParseError → Prop
  | .inputTooShort least actual => actual = b.length ∧ actual < least ∧ least ≤ 48 ∧
      (ClassAt b .sinkCapabilitiesQuery ∨ ClassAt b .sinkCapabilitiesResponse)
  | .packetSizeTooSmall _ | .packetTruncated _ _ | .trailingBytes _ => False
  | .unsupportedPacketType value => value.toNat = word b 0 / 2 ^ 28 ∧ ∀ t, value ≠ PacketType.code t
  | .missingClassId => word b 0 / 2 ^ 27 % 2 = 0
  | .reservedBitsNonZero field bits => bits.toNat ≠ 0 ∧
      ((field = "class identifier" ∧ bits.toNat = word b 2 / 2 ^ 24 % 8) ∨
        (field = "context packet header" ∧ word b 0 / 2 ^ 28 ∈ [4, 5] ∧
          bits.toNat = word b 0 / 2 ^ 25 % 4 * 2) ∨
        (field = "buffer status" ∧ (∃ c ∈ timingClasses, ClassAt b c) ∧ bits.toNat = word b 20 / 2 ^ 16))
  | .invalidOui actual => actual.toNat = word b 2 % 2 ^ 24 ∧ actual ≠ difiCid
  | .invalidTsi value => value.toNat = word b 0 / 2 ^ 22 % 4 ∧ ∀ t, value ≠ Tsi.code t
  | .invalidTsf value => value.toNat = word b 0 / 2 ^ 20 % 4 ∧ ∀ t, value ≠ Tsf.code t
  | .unknownInformationClass value =>
      value.toNat = word b 3 / 2 ^ 16 ∧ ∀ i, value ≠ InformationClassCode.raw i
  | .unknownPacketClass value => value.toNat = word b 3 % 2 ^ 16 ∧ ∀ c, value ≠ PacketClassCode.raw c
  | .packetTypeNotAvailableInStandard standard t => standard = options.standard ∧ TypeAt b t ∧
      ∀ i c, (StandardProfile.mk options).allowsPacketClass i c = true → t.code.toNat ∉ typeNibbles options c
  | .packetClassNotAvailableInStandard standard c => standard = options.standard ∧ ClassAt b c ∧
      ∀ i, (StandardProfile.mk options).allowsPacketClass i c = false
  | .packetClassNotInInformationClass i c => InformationAt b i ∧ ClassAt b c ∧
      (StandardProfile.mk options).allowsPacketClass i c = false
  | .packetTypeClassMismatch t c => TypeAt b t ∧ ClassAt b c ∧ t.code.toNat ∉ typeNibbles options c
  | .invalidTsfForPacketClass c expected actual => ClassAt b c ∧ tsfCodes c = [expected.code.toNat] ∧
      actual.code.toNat = word b 0 / 2 ^ 20 % 4 ∧ actual ≠ expected
  | .invalidTsiForPacketClass _ _ => False
  | .invalidHeaderBits field expected actual => ∃ t i c, TypeAt b t ∧ InformationAt b i ∧ ClassAt b c ∧
      field = bitsName t ∧ expected.toNat = typeSpecific i c ∧ actual.toNat = word b 0 / 2 ^ 24 % 8 ∧
      actual ≠ expected
  | .invalidPacketSize c expected actual =>
      ClassAt b c ∧ actual.toNat = words b ∧ Missized b expected.toNat c
  | .invalidPacketSizeSet c expected actual =>
      c = .statusReport ∧ ClassAt b c ∧ expected = statusReportSizes ∧ actual.toNat = words b ∧
      actual ∉ expected
  | .padBitsNotAllowed i c n => InformationAt b i ∧ ClassAt b c ∧ n.toNat = word b 2 / 2 ^ 27 ∧ n ≠ 0 ∧
      ¬PaddingAllowed options i c
  | .invalidPadding n payloadBits =>
      n.toNat = word b 2 / 2 ^ 27 ∧ payloadBits = (b.length - 28) * 8 ∧ payloadBits < n.toNat
  | .nonZeroPaddingBits => ¬2 ^ (word b 2 / 2 ^ 27) ∣ bigEndian (b.drop 28)
  | .invalidFieldValue field expected actual => ∃ f : Fixed, field = (f.row b).name ∧
      (∃ c ∈ (f.row b).classes, ClassAt b c) ∧ (f.row b).applies ∧
      expected.toNat = (f.row b).expected ∧ actual.toNat = (f.row b).read ∧ actual ≠ expected
  | .invalidFieldValueSet field actual => actual.toNat = word b 7 ∧
      ((field = "signal context CIF0" ∧ (∃ c ∈ contextClasses, ClassAt b c) ∧
          actual ∉ [cifContextChanged, cifContextUnchanged]) ∨
        (field = "version context CIF0" ∧ ClassAt b .versionFlowSignalContext ∧
          actual ∉ [cifVersionChanged, cifVersionUnchanged]))
  | .invalidPayloadFormat word0 word1 => (∃ c ∈ contextClasses, ClassAt b c) ∧ word0.toNat = word b 25 ∧
      word1.toNat = word b 26 ∧ ¬((∃ size, 4 ≤ size ∧ size ≤ 16 ∧
        word0.toNat = 0xA0000000 + (size - 1) * 2 ^ 6 + (size - 1)) ∧ word1.toNat = 0)
  | .fractionalHzNotAllowed field raw => raw.toNat % 2 ^ 20 ≠ 0 ∧ ∃ classes k,
      (field, classes, words b, k) ∈ hertzFields ∧ (∃ c ∈ classes, ClassAt b c) ∧ raw.toNat = double b k

/-- What an error says about the bytes given to the parser. -/
def Fault (options : ParseOptions) (input : List UInt8) : ParseError → Prop
  | .packetSizeTooSmall size => size.toNat = words input ∧ size.toNat < 7
  | .packetTruncated needed actual => needed = 4 * words input ∧ actual = input.length ∧ actual < needed
  | .trailingBytes trailing => 0 < trailing ∧ input.length = 4 * words input + trailing
  | .inputTooShort least actual => (least = 28 ∧ actual = input.length ∧ actual < least) ∨
      PacketFault options (input.take (4 * words input)) (.inputTooShort least actual)
  | e => PacketFault options (input.take (4 * words input)) e

/-- What a prologue tells about the words that it is read from. -/
structure ReadFrom (b : List UInt8) (prologue : Prologue) : Prop where
  packetType : TypeAt b prologue.header.packetType
  bits : prologue.header.typeSpecificBits.toNat = word b 0 / 2 ^ 24 % 8
  tsf : prologue.header.tsf.code.toNat = word b 0 / 2 ^ 20 % 4
  information : InformationAt b prologue.classId.informationClass
  packetClass : ClassAt b prologue.classId.packetClass
  pad : prologue.classId.padBitCount.toNat = word b 2 / 2 ^ 27

theorem readFrom_words {b : List UInt8} {prologue : Prologue} (hform : PrologueForm prologue)
    (hw : WordsFrom b 0 (prologueLayout prologue)) : ReadFrom b prologue := by
  obtain ⟨h0, -, -, h3, -⟩ := wordsFrom_prologue.mp hw
  obtain ⟨htype, -, hbits, -, htsf, -, -⟩ := headerWord_digits hform.header
  have hclass1 : (classIdWord1 prologue.classId).toNat = _ := joinHalves_toNat _ _
  have hlow := prologue.classId.packetClass.raw.toNat_lt
  rw [← h0, wordAt_toNat] at htype hbits htsf
  rw [← h3, wordAt_toNat] at hclass1
  refine ⟨htype, hbits, htsf, ?_, ?_, (padBitCount_word hform hw).symm⟩
  · rw [InformationAt]
    omega
  · rw [ClassAt]
    omega

theorem ReadFrom.classIn {b : List UInt8} {prologue : Prologue} (h : ReadFrom b prologue)
    {classes : List PacketClassCode} (hclass : prologue.classId.packetClass ∈ classes) :
    ∃ c ∈ classes, ClassAt b c :=
  ⟨_, hclass, h.packetClass⟩

section Rules

variable {P : ParseError → Prop}

theorem within_expectWord {field : String} {expected actual : UInt32} :
    Within P (expectWord field expected actual) ↔
      (actual ≠ expected → P (.invalidFieldValue field expected actual)) :=
  within_check

theorem within_expectWordOneOf {field : String} {actual : UInt32} {allowed : List UInt32} :
    Within P (expectWordOneOf field actual allowed) ↔
      (actual ∉ allowed → P (.invalidFieldValueSet field actual)) := by
  rw [expectWordOneOf, within_check, List.contains_iff_mem]

theorem within_expectBits {field : String} {expected actual : UInt8} :
    Within P (expectBits field expected actual) ↔
      (actual ≠ expected → P (.invalidHeaderBits field expected actual)) :=
  within_check

theorem within_validateFixedIntegerHz {field : String} {raw : UInt64} :
    Within P (validateFixedIntegerHz field raw) ↔
      (raw.toNat % 2 ^ 20 ≠ 0 → P (.fractionalHzNotAllowed field raw)) := by
  rw [validateFixedIntegerHz, within_check, ← UInt64.toNat_inj, fixedMask_toNat]
  rfl

theorem within_expectNoPadding {prologue : Prologue} :
    Within P (Parser.expectNoPadding prologue) ↔ (prologue.classId.padBitCount ≠ 0 →
      P (.padBitsNotAllowed prologue.classId.informationClass prologue.classId.packetClass
        prologue.classId.padBitCount)) :=
  within_check

theorem within_readU32Be {b : List UInt8} {k : Nat} (hk : k < 2 ^ 32) :
    Within P (readU32Be b k) ↔ (b.length < 4 * k + 4 → P (.inputTooShort (4 * k + 4) b.length)) := by
  rw [readU32Be_eq hk, within_ite]
  simp

end Rules

section Codes

variable {P : ParseError → Prop}

theorem within_tryFrom {α : Type} {x : Result α} {e : ParseError} (hx : (∃ a, x = .ok a) ∨ x = .err e)
    (h : (∀ a, x ≠ .ok a) → P e) : Within P x := by
  obtain ⟨a, rfl⟩ | rfl := hx
  · exact within_ok a
  · exact (within_err e).mpr (h fun a => by simp)

theorem packetType_within {value : UInt8}
    (h : (∀ t, value ≠ PacketType.code t) → P (.unsupportedPacketType value)) :
    Within P (PacketType.tryFrom value) := by
  refine within_tryFrom ?_ fun hnone => h fun t ht => hnone t (PacketType.tryFrom_eq_ok.mpr ht)
  unfold PacketType.tryFrom
  split <;> simp

theorem tsi_within {value : UInt8} (h : (∀ t, value ≠ Tsi.code t) → P (.invalidTsi value)) :
    Within P (Tsi.tryFrom value) := by
  refine within_tryFrom ?_ fun hnone => h fun t ht => hnone t (Tsi.tryFrom_eq_ok.mpr ht)
  unfold Tsi.tryFrom
  split <;> simp

theorem tsf_within {value : UInt8} (h : (∀ t, value ≠ Tsf.code t) → P (.invalidTsf value)) :
    Within P (Tsf.tryFrom value) := by
  refine within_tryFrom ?_ fun hnone => h fun t ht => hnone t (Tsf.tryFrom_eq_ok.mpr ht)
  unfold Tsf.tryFrom
  split <;> simp

theorem informationClass_within {value : UInt16}
    (h : (∀ i, value ≠ InformationClassCode.raw i) → P (.unknownInformationClass value)) :
    Within P (InformationClassCode.tryFrom value) := by
  refine within_tryFrom ?_ fun hnone => h fun i hi => hnone i (InformationClassCode.tryFrom_eq_ok.mpr hi)
  unfold InformationClassCode.tryFrom
  split <;> simp

theorem packetClass_within {value : UInt16}
    (h : (∀ c, value ≠ PacketClassCode.raw c) → P (.unknownPacketClass value)) :
    Within P (PacketClassCode.tryFrom value) := by
  refine within_tryFrom ?_ fun hnone => h fun c hc => hnone c (PacketClassCode.tryFrom_eq_ok.mpr hc)
  unfold PacketClassCode.tryFrom
  split <;> simp

end Codes

section Prologue

variable {options : ParseOptions} {b : List UInt8}

theorem parseHeader_faults : Within (PacketFault options b) (PacketHeader.parse (wordAt b 0)) := by
  have hword := word_lt b 0
  have htype := shift_mask_toUInt8_toNat (wordAt b 0) 28 0xF (by decide) (by decide) (by decide)
  have htsi := shift_mask_toUInt8_toNat (wordAt b 0) 22 0x3 (by decide) (by decide) (by decide)
  have htsf := shift_mask_toUInt8_toNat (wordAt b 0) 20 0x3 (by decide) (by decide) (by decide)
  simp only [UInt32.reduceToNat, Nat.reduceAdd, wordAt_toNat] at htype htsi htsf
  rw [Nat.mod_eq_of_lt (by omega)] at htype
  unfold PacketHeader.parse
  refine within_bind (packetType_within fun hnone => ⟨htype, hnone⟩) fun _ => ?_
  refine within_bind (tsi_within fun hnone => ⟨htsi, hnone⟩) fun _ => ?_
  exact within_bind (tsf_within fun hnone => ⟨htsf, hnone⟩) fun _ => within_ok _

theorem parseClassId_faults : Within (PacketFault options b) (ClassId.parse (wordAt b 2) (wordAt b 3)) := by
  have hreserved := shift_mask_toNat (wordAt b 2) 24 0x7 (by decide) (by decide)
  have houi := mask_toNat (wordAt b 2) 0x00FFFFFF (by decide)
  have hhigh := highHalf_toNat (wordAt b 3)
  have hlow := mask_toUInt16_toNat (wordAt b 3) 0xFFFF (by decide) (by decide)
  simp only [UInt32.reduceToNat, Nat.reduceAdd, wordAt_toNat] at hreserved houi hhigh hlow
  unfold ClassId.parse
  refine within_ite.mpr ⟨fun hne => ?_, fun _ => within_ite.mpr ⟨fun hne => ?_, fun _ => ?_⟩⟩
  · exact (within_err _).mpr ⟨fun hzero => hne (UInt32.toNat_inj.mp hzero), .inl ⟨rfl, hreserved⟩⟩
  · exact (within_err _).mpr ⟨houi, hne⟩
  · refine within_bind (informationClass_within fun hnone => ⟨hhigh, hnone⟩) fun _ => ?_
    exact within_bind (packetClass_within fun hnone => ⟨hlow, hnone⟩) fun _ => within_ok _

end Prologue

section Profile

variable {options : ParseOptions} {header : PacketHeader} {classId : ClassId}

theorem typeNibbles_of_unavailable {t : PacketType}
    (h : (StandardProfile.mk options).packetTypeAvailable t = false) {i : InformationClassCode}
    {c : PacketClassCode} (hlisted : (StandardProfile.mk options).allowsPacketClass i c = true) :
    t.code.toNat ∉ typeNibbles options c := by
  intro hnibble
  have hpair := (packetType_iff (packetClassAvailable_of_allows hlisted)).mpr hnibble
  rw [hpair.1] at h
  cases h

theorem typeNibbles_iff {t : PacketType} {c : PacketClassCode} :
    (StandardProfile.mk options).validatePacketTypeClass t c = .ok () ↔
      t.code.toNat ∈ typeNibbles options c := by
  obtain ⟨standard, compatibility⟩ := options
  cases standard <;> cases compatibility <;> cases t <;> cases c <;> decide

theorem allows_of_available {i : InformationClassCode} {c : PacketClassCode}
    (h : (StandardProfile.mk options).packetClassAvailable c = false) :
    (StandardProfile.mk options).allowsPacketClass i c = false := by
  rw [Bool.eq_false_iff] at h ⊢
  exact fun hlisted => h (packetClassAvailable_of_allows hlisted)

theorem packetTypeClass_faults : Within (PrologueFault options header classId)
    (StandardProfile.validatePacketTypeClass ⟨options⟩ header.packetType classId.packetClass) :=
  within_check.mpr fun hnone => ⟨rfl, rfl, fun hmem => hnone (ite_eq_ok.mp (typeNibbles_iff.mpr hmem))⟩

theorem reservedBits_toNat (bits : UInt8) : (bits &&& 0b110).toNat = bits.toNat / 2 % 4 * 2 := by
  have hmask := and_shifted_mask (n := bits.toNat) (m := 3) 1 (by decide)
  have hand : (bits &&& 0b110).toNat = bits.toNat &&& 6 := UInt8.toNat_and _ _
  exact hand.trans hmask

theorem headerBits_faults (hindicator : header.classIdIndicator = true)
    (hclass : (StandardProfile.mk options).validatePacketTypeClass header.packetType
      classId.packetClass = .ok ()) : Within (PrologueFault options header classId)
      (StandardProfile.validateHeaderBits ⟨options⟩ header classId.packetClass) := by
  have hreserved (ht : header.packetType.code.toNat ∈ [4, 5]) : Within (PrologueFault options header classId)
      (if header.typeSpecificBits &&& 0b110 ≠ 0 then
        (.err (.reservedBitsNonZero "context packet header"
          (header.typeSpecificBits &&& 0b110).toUInt32) : Result Unit)
      else .ok ()) := by
    refine within_ite.mpr ⟨fun hne => (within_err _).mpr ?_, fun _ => within_ok _⟩
    exact ⟨rfl, ht, reservedBits_toNat _, fun hzero => hne (UInt8.toNat_inj.mp hzero)⟩
  unfold StandardProfile.validateHeaderBits
  rw [hindicator]
  simp only [Bool.not_true, Bool.false_eq_true, if_false]
  have hname {s : String} {e : UInt8} (hs : s = bitsName header.packetType)
      (he : e.toNat = typeSpecific classId.informationClass classId.packetClass) :
      Within (PrologueFault options header classId) (expectBits s e header.typeSpecificBits) :=
    within_expectBits.mpr fun hne => ⟨hs, he, rfl, hne⟩
  cases ht : header.packetType with
  | contextWithStreamId | versionWithStreamId =>
      rw [ht] at hreserved
      exact hreserved (by decide)
  | _ =>
      rw [ht] at hclass hname
      refine hname rfl ?_
      cases hc : classId.packetClass <;> first | rfl | (rw [hc] at hclass; cases hclass)

theorem validateTsf_faults : Within (PrologueFault options header classId)
    (StandardProfile.validateTsf ⟨options⟩ header classId.packetClass) := by
  have hcheck (expected : Tsf) (hexpected : tsfCodes classId.packetClass = [expected.code.toNat]) :
      Within (PrologueFault options header classId) (if header.tsf ≠ expected then
        (.err (.invalidTsfForPacketClass classId.packetClass expected header.tsf) : Result Unit)
        else .ok ()) :=
    within_ite.mpr ⟨fun hne => (within_err _).mpr ⟨rfl, hexpected, rfl, hne⟩, fun _ => within_ok _⟩
  unfold StandardProfile.validateTsf
  cases hclass : classId.packetClass with
  | sinkCapabilitiesQuery | sinkCapabilitiesResponse | statusReport => exact within_ok _
  | _ =>
      rw [hclass] at hcheck
      exact hcheck _ rfl

theorem tsm_code (hw : HeaderWord header)
    (hbits : (StandardProfile.mk options).validateHeaderBits header classId.packetClass = .ok ())
    {mode : TimestampMode} (hmode : header.tsm = some mode) :
    header.typeSpecificBits = mode.code ∧ bitsName header.packetType = "timestamp mode" := by
  have htsm := hw.tsm
  rw [hmode] at htsm
  have hreserved := (ite_err_eq_ok.mp hbits).2
  cases ht : header.packetType with
  | contextWithStreamId | versionWithStreamId =>
      rw [ht] at htsm hreserved
      have hzero : header.typeSpecificBits &&& 0b110 = 0 := by
        simpa using (ite_err_eq_ok.mp hreserved).1
      refine ⟨UInt8.toNat_inj.mp ((context_bits_iff mode hw.typeSpecificBits_lt).mp ⟨hzero, ?_⟩), rfl⟩
      rw [Writer.expectedTsm, ← apply_ite] at htsm
      exact (Option.some.inj htsm).symm
  | _ =>
      rw [ht] at htsm
      cases htsm

theorem validateTsm_faults (hw : HeaderWord header)
    (hbits : (StandardProfile.mk options).validateHeaderBits header classId.packetClass = .ok ()) :
    Within (PrologueFault options header classId)
      (StandardProfile.validateTsm ⟨options⟩ header classId.informationClass classId.packetClass) := by
  unfold StandardProfile.validateTsm
  cases htsm : header.tsm with
  | none => exact within_ok ()
  | some actual =>
      obtain ⟨hcode, hname⟩ := tsm_code hw hbits htsm
      have hcheck (expected : TimestampMode)
          (hexpected : expected.code.toNat = typeSpecific classId.informationClass classId.packetClass) :
          Within (PrologueFault options header classId) (if actual = expected then (.ok () : Result Unit)
            else .err (.invalidHeaderBits "timestamp mode" expected.code actual.code)) := by
        refine within_check.mpr fun hne => ⟨hname.symm, hexpected, hcode.symm, fun hsame => hne ?_⟩
        cases actual <;> cases expected <;> first | rfl | cases hsame
      cases hc : classId.packetClass with
      | standardFlowSignalContext =>
          rw [hc] at hcheck
          cases hi : classId.informationClass <;> rw [hi] at hcheck <;> exact hcheck _ rfl
      | sampleCountSignalContext | versionFlowSignalContext =>
          rw [hc] at hcheck
          exact hcheck _ rfl
      | _ => exact within_ok ()

theorem profileChecks_faults (hw : HeaderWord header) (hindicator : header.classIdIndicator = true) :
    Within (PrologueFault options header classId) (profileChecks ⟨options⟩ header classId) := by
  unfold profileChecks
  refine within_bind (within_check.mpr fun hnone => ?_) fun _ => ?_
  · exact ⟨rfl, rfl, fun i c => typeNibbles_of_unavailable (Bool.eq_false_iff.mpr hnone)⟩
  refine within_bind (within_check.mpr fun hnone => ?_) fun _ => ?_
  · exact ⟨rfl, rfl, fun i => allows_of_available (Bool.eq_false_iff.mpr hnone)⟩
  refine packetTypeClass_faults.bind fun _ hclass => ?_
  refine (headerBits_faults hindicator hclass).bind fun _ hbits => ?_
  refine within_bind (within_check.mpr fun hnone => ?_) fun _ => ?_
  · exact ⟨rfl, rfl, Bool.eq_false_iff.mpr hnone⟩
  exact within_bind validateTsf_faults fun _ => validateTsm_faults hw hbits

theorem PrologueFault.packetFault {b : List UInt8} {prologue : Prologue} {e : ParseError}
    (hfault : PrologueFault options prologue.header prologue.classId e) (h : ReadFrom b prologue) :
    PacketFault options b e := by
  cases e with
  | packetTypeNotAvailableInStandard standard t =>
      obtain ⟨hstandard, rfl, hnone⟩ := hfault
      exact ⟨hstandard, h.packetType, hnone⟩
  | packetClassNotAvailableInStandard standard c =>
      obtain ⟨hstandard, rfl, hnone⟩ := hfault
      exact ⟨hstandard, h.packetClass, hnone⟩
  | packetClassNotInInformationClass i c =>
      obtain ⟨rfl, rfl, hnone⟩ := hfault
      exact ⟨h.information, h.packetClass, hnone⟩
  | packetTypeClassMismatch t c =>
      obtain ⟨rfl, rfl, hnone⟩ := hfault
      exact ⟨h.packetType, h.packetClass, hnone⟩
  | invalidTsfForPacketClass c expected actual =>
      obtain ⟨rfl, hexpected, rfl, hne⟩ := hfault
      exact ⟨h.packetClass, hexpected, h.tsf, hne⟩
  | reservedBitsNonZero field bits =>
      obtain ⟨hfield, htype, hbits, hne⟩ := hfault
      rw [h.packetType] at htype
      refine ⟨hne, .inr (.inl ⟨hfield, htype, ?_⟩)⟩
      rw [hbits, h.bits]
      omega
  | invalidHeaderBits field expected actual =>
      obtain ⟨hfield, hexpected, rfl, hne⟩ := hfault
      exact ⟨_, _, _, h.packetType, h.information, h.packetClass, hfield, hexpected, h.bits, hne⟩
  | _ => exact hfault.elim

end Profile

end Difi.Faults
