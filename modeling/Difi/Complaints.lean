import Difi.Acceptance
import Difi.Padding

namespace Difi.Complaints

open Machine Outcome Checks Bodies Acceptance

/-- The errors that find fault with the bytes that are there, and do not ask for
more of them. -/
def Complaint : ParseError → Prop
  | .inputTooShort _ _ | .packetTruncated _ _ => False
  | _ => True

section Checks

variable (profile : StandardProfile)

theorem check_within {p : Prop} [Decidable p] {e : ParseError} (he : Complaint e) :
    Within Complaint (if p then (.ok () : Result Unit) else .err e) := by
  simp [he]

@[simp] theorem validateFixedIntegerHz_within (field : String) (raw : UInt64) :
    Within Complaint (validateFixedIntegerHz field raw) :=
  check_within trivial

@[simp] theorem expectWord_within (field : String) (expected actual : UInt32) :
    Within Complaint (expectWord field expected actual) :=
  check_within trivial

@[simp] theorem expectWordOneOf_within (field : String) (actual : UInt32) (allowed : List UInt32) :
    Within Complaint (expectWordOneOf field actual allowed) :=
  check_within trivial

@[simp] theorem expectBits_within (field : String) (expected actual : UInt8) :
    Within Complaint (expectBits field expected actual) :=
  check_within trivial

@[simp] theorem expectPacketSize_within (layout : PacketLayout) (packetClass : PacketClassCode)
    (actual : UInt16) : Within Complaint (profile.expectPacketSize layout packetClass actual) :=
  check_within trivial

@[simp] theorem validateStatusReportSize_within (packetClass : PacketClassCode) (actual : UInt16) :
    Within Complaint (profile.validateStatusReportSize packetClass actual) :=
  check_within trivial

@[simp] theorem expectNoPadding_within (prologue : Prologue) :
    Within Complaint (Parser.expectNoPadding prologue) :=
  check_within trivial

@[simp] theorem validatePacketTypeAvailable_within (packetType : PacketType) :
    Within Complaint (profile.validatePacketTypeAvailable packetType) :=
  check_within trivial

@[simp] theorem validatePacketClassAvailable_within (packetClass : PacketClassCode) :
    Within Complaint (profile.validatePacketClassAvailable packetClass) :=
  check_within trivial

@[simp] theorem validatePacketTypeClass_within (packetType : PacketType) (packetClass : PacketClassCode) :
    Within Complaint (profile.validatePacketTypeClass packetType packetClass) :=
  check_within trivial

@[simp] theorem validateClassMembership_within (informationClass : InformationClassCode)
    (packetClass : PacketClassCode) :
    Within Complaint (profile.validateClassMembership informationClass packetClass) :=
  check_within trivial

@[simp] theorem validateHeaderBits_within (header : PacketHeader) (packetClass : PacketClassCode) :
    Within Complaint (profile.validateHeaderBits header packetClass) := by
  unfold StandardProfile.validateHeaderBits
  refine within_ite.mpr ⟨fun _ => by simp [Complaint], fun _ => ?_⟩
  cases header.packetType <;> simp [Complaint]

@[simp] theorem validateTsf_within (header : PacketHeader) (packetClass : PacketClassCode) :
    Within Complaint (profile.validateTsf header packetClass) := by
  unfold StandardProfile.validateTsf
  cases packetClass <;> simp [Complaint]

@[simp] theorem validateTsm_within (header : PacketHeader) (informationClass : InformationClassCode)
    (packetClass : PacketClassCode) :
    Within Complaint (profile.validateTsm header informationClass packetClass) := by
  unfold StandardProfile.validateTsm
  cases header.tsm with
  | none => exact within_ok ()
  | some actual =>
      have hcheck (expected : TimestampMode) : Within Complaint (if actual = expected then (.ok () : Result Unit)
          else .err (.invalidHeaderBits "timestamp mode" expected.code actual.code)) :=
        check_within trivial
      cases packetClass with
      | standardFlowSignalContext => cases informationClass <;> exact hcheck _
      | sampleCountSignalContext | versionFlowSignalContext => exact hcheck _
      | _ => exact within_ok ()

theorem profileChecks_within (header : PacketHeader) (classId : ClassId) :
    Within Complaint (profileChecks profile header classId) := by
  unfold profileChecks
  repeat' refine within_bind ?_ fun _ => ?_
  all_goals simp

theorem parseHeader_within (raw : UInt32) : Within Complaint (PacketHeader.parse raw) := by
  unfold PacketHeader.parse
  refine within_bind ?_ fun _ => within_bind ?_ fun _ => within_bind ?_ fun _ => within_ok _
  · unfold PacketType.tryFrom
    split <;> simp [Complaint]
  · unfold Tsi.tryFrom
    split <;> simp [Complaint]
  · unfold Tsf.tryFrom
    split <;> simp [Complaint]

theorem parseClassId_within (word0 word1 : UInt32) : Within Complaint (ClassId.parse word0 word1) := by
  unfold ClassId.parse
  refine within_ite.mpr ⟨fun _ => by simp [Complaint], fun _ => within_ite.mpr ⟨fun _ => by simp [Complaint],
    fun _ => within_bind ?_ fun _ => within_bind ?_ fun _ => within_ok _⟩⟩
  · unfold InformationClassCode.tryFrom
    split <;> simp [Complaint]
  · unfold PacketClassCode.tryFrom
    split <;> simp [Complaint]

theorem parsePayloadFormat_within (word0 word1 : UInt32) : Within Complaint (PayloadFormat.parse word0 word1) := by
  have hsix (w : UInt32) : (addU8 (w &&& 0x3F).toUInt8 1 : Result UInt8) = .ok ((w &&& 0x3F).toUInt8 + 1) := by
    refine addU8_ok ?_
    rw [mask_toUInt8_toNat w 0x3F (by decide) (by decide)]
    simp only [UInt32.reduceToNat, UInt8.reduceToNat]
    omega
  simp only [PayloadFormat.parse, hsix, ok_bind]
  simp [Complaint]

theorem validateDataPadding_within {payload : List UInt8} (padBitCount : UInt8)
    (h : payload.length * 8 < usizeLimit) :
    Within Complaint (Parser.validateDataPadding payload padBitCount) := by
  rw [Padding.validateDataPadding_verdict padBitCount h]
  simp [Complaint]

end Checks

section Bodies

variable {b : List UInt8} {prologue : Prologue} {profile : StandardProfile}

theorem parseData_within (hlen : b.length = 4 * prologue.header.packetSizeWords.toNat) :
    Within Complaint (Parser.parseData b prologue profile) := by
  have hlt := prologue.header.packetSizeWords.toNat_lt
  unfold Parser.parseData
  refine within_ite.mpr ⟨fun _ => by simp [Complaint], fun hsize => ?_⟩
  have hslice : prologueBytes ≤ b.length := by
    rw [hlen]
    exact Nat.mul_le_mul_left 4 (prologueWords_le.mp hsize)
  rw [sliceFrom_ok hslice, ok_bind]
  refine within_ite.mpr ⟨fun _ => by simp [Complaint], fun _ => ?_⟩
  refine within_bind (validateDataPadding_within _ ?_) fun _ => within_ok _
  rw [List.length_drop]
  simp only [usizeLimit]
  omega

/-- A reader that checks the size first finds all its words there. -/
theorem parseSignalContext_within (hlen : b.length = 4 * prologue.header.packetSizeWords.toNat) :
    Within Complaint (Parser.parseSignalContext b prologue profile) := by
  unfold Parser.parseSignalContext
  refine Within.bind (by simp) fun _ hsize => within_bind (by simp) fun _ => ?_
  rw [expectPacketSize_eq_ok.mp hsize] at hlen
  simp only [UInt16.reduceToNat] at hlen
  simp (disch := omega) only [readU32Be_ok, readU64Be_ok, readI64Be_ok, ok_bind]
  repeat' with_reducible refine within_bind ?_ fun _ => ?_
  all_goals simp [StandardProfile.expectSignalContextCif0, parsePayloadFormat_within]

theorem parseVersionContext_within (hlen : b.length = 4 * prologue.header.packetSizeWords.toNat) :
    Within Complaint (Parser.parseVersionContext b prologue profile) := by
  unfold Parser.parseVersionContext
  refine Within.bind (by simp) fun _ hsize => within_bind (by simp) fun _ => ?_
  rw [expectPacketSize_eq_ok.mp hsize] at hlen
  simp only [UInt16.reduceToNat] at hlen
  simp (disch := omega) only [readU32Be_ok, ok_bind]
  repeat' with_reducible refine within_bind ?_ fun _ => ?_
  all_goals simp [StandardProfile.expectVersionContextCif0, StandardProfile.expectVersionContextCif1,
    StandardProfile.expectVita49SpecVersion, Complaint]

theorem parseTimingFlowControl_within (hlen : b.length = 4 * prologue.header.packetSizeWords.toNat) :
    Within Complaint (Parser.parseTimingFlowControl b prologue profile) := by
  unfold Parser.parseTimingFlowControl
  refine Within.bind (by simp) fun _ hsize => within_bind (by simp) fun _ => ?_
  rw [expectPacketSize_eq_ok.mp hsize] at hlen
  simp only [UInt16.reduceToNat] at hlen
  simp (disch := omega) only [parseCommon_ok, readU32Be_ok, readU64Be_ok, readI64Be_ok, ok_bind]
  repeat' with_reducible refine within_bind ?_ fun _ => ?_
  all_goals simp [StandardProfile.expectTimingFlowControlCam, StandardProfile.expectTimingFlowControlCif0,
    StandardProfile.expectTimingFlowControlCif1, Complaint]

theorem parseStatusReport_within (hlen : b.length = 4 * prologue.header.packetSizeWords.toNat) :
    Within Complaint (Parser.parseStatusReport b prologue profile) := by
  unfold Parser.parseStatusReport
  refine Within.bind (by simp) fun _ hsizes => within_bind (by simp) fun _ => ?_
  rcases validateStatusReportSize_eq_ok.mp hsizes with hsize | hsize | hsize
  all_goals
    rw [hsize] at hlen ⊢
    simp only [UInt16.reduceToNat] at hlen
    simp (disch := omega) only [parseCommon_ok, readU32Be_ok, readU64Be_ok, ok_bind]
    refine within_bind ?_ fun _ => within_bind ?_ fun _ => within_bind ?_ fun _ =>
      within_ite.mpr ⟨fun _ => ?_, fun _ => ?_⟩
    · simp [StandardProfile.expectStatusReportCam]
    · simp [StandardProfile.expectStatusReportCif0]
    · simp [StandardProfile.expectStatusReportCif1]
    · simp [Complaint]
  · simp
  · simp
  · refine within_bind (by simp) fun _ => within_bind (within_ite.mpr ⟨fun _ => ?_, fun _ => within_ok _⟩)
      fun _ => within_ok _
    exact within_bind (validateFixedIntegerHz_within _ _) fun _ =>
      within_bind (validateFixedIntegerHz_within _ _) fun _ => within_ok _

/-- What comes after the first indicator field of a command checks the size, and
finds all its words there. -/
theorem parseSinkCapabilitiesQuery_command (hlen : b.length = 4 * prologue.header.packetSizeWords.toNat) :
    ∃ k, (∀ common cif0, Within Complaint (k common cif0)) ∧
      Parser.parseSinkCapabilitiesQuery b prologue profile = Parser.expectNoPadding prologue >>= fun _ =>
        command b profile.expectSinkCapabilitiesQueryCam k := by
  refine ⟨_, fun common cif0 => ?_, rfl⟩
  refine within_ite.mpr ⟨fun _ => Within.bind (by simp) fun _ hsize => ?_,
    fun _ => Within.bind (by simp) fun _ hsize => ?_⟩
  all_goals
    rw [expectPacketSize_eq_ok.mp hsize] at hlen
    simp only [UInt16.reduceToNat] at hlen
    simp (disch := omega) only [readU32Be_ok, readU64Be_ok, ok_bind]
    repeat' with_reducible refine within_bind ?_ fun _ => ?_
    all_goals simp [StandardProfile.expectSinkCapabilitiesShortQueryCif0,
      StandardProfile.expectSinkCapabilitiesLongQueryCif0, StandardProfile.expectSinkCapabilitiesLongQueryCif1]

theorem parseSinkCapabilitiesResponse_command (hlen : b.length = 4 * prologue.header.packetSizeWords.toNat) :
    ∃ k, (∀ common cif0, Within Complaint (k common cif0)) ∧
      Parser.parseSinkCapabilitiesResponse b prologue profile = Parser.expectNoPadding prologue >>= fun _ =>
        command b profile.expectSinkCapabilitiesResponseCam k := by
  refine ⟨_, fun common cif0 => ?_, rfl⟩
  refine within_ite.mpr ⟨fun _ => Within.bind (by simp) fun _ hsize => ?_,
    fun _ => within_ite.mpr ⟨fun _ => by simp [Complaint], fun hsize => ?_⟩⟩
  · rw [expectPacketSize_eq_ok.mp hsize] at hlen
    simp only [UInt16.reduceToNat] at hlen
    simp (disch := omega) only [readU32Be_ok, readU64Be_ok, ok_bind]
    exact within_bind (expectWord_within _ _ _) fun _ => within_ok _
  · have hwords : 13 < prologue.header.packetSizeWords.toNat := by
      rw [UInt16.le_iff_toNat_le] at hsize
      exact Nat.lt_of_not_le hsize
    have hslice : (sliceFrom b (13 * wordBytes) : Result (List UInt8)) = .ok (b.drop 52) :=
      sliceFrom_ok (by simp only [wordBytes]; omega)
    rw [readU32Be_ok (by omega) (by decide), ok_bind, hslice, ok_bind]
    exact within_bind (expectWord_within _ _ _) fun _ =>
      within_bind (expectWord_within _ _ _) fun _ => within_ok _

end Bodies

end Difi.Complaints
