import Difi.Faults

namespace Difi.BodyFaults

open Machine Outcome Checks Fields Bodies Layout Decoding Acceptance Grammar Faults

section Bodies

variable {options : ParseOptions} {b : List UInt8} {prologue : Prologue}

theorem expectNoPadding_faults (h : ReadFrom b prologue)
    (hdata : classVariant prologue.classId.packetClass ≠ .signalData) :
    Within (PacketFault options b) (Parser.expectNoPadding prologue) := by
  refine within_expectNoPadding.mpr fun hne => ⟨h.information, h.packetClass, h.pad, hne, ?_⟩
  rintro ⟨-, hclass | ⟨hclass, -⟩⟩
  · exact hdata (by rw [hclass]; rfl)
  · exact hdata (by rw [hclass]; rfl)

theorem expectWord_faults (f : Fixed) {expected actual : UInt32} (h : ∃ c ∈ (f.row b).classes, ClassAt b c)
    (happlies : (f.row b).applies) (hexpected : expected.toNat = (f.row b).expected)
    (hactual : actual.toNat = (f.row b).read) :
    Within (PacketFault options b) (expectWord (f.row b).name expected actual) :=
  within_expectWord.mpr fun hne => ⟨f, rfl, h, happlies, hexpected, hactual, hne⟩

theorem validateFixedIntegerHz_faults {field : String} {classes : List PacketClassCode} {k : Nat} {raw : UInt64}
    (hfield : (field, classes, words b, k) ∈ hertzFields) (h : ∃ c ∈ classes, ClassAt b c)
    (hraw : raw.toNat = double b k) : Within (PacketFault options b) (validateFixedIntegerHz field raw) :=
  within_validateFixedIntegerHz.mpr fun hne => ⟨hne, classes, k, hfield, h, hraw⟩

theorem expectPacketSize_faults (h : ReadFrom b prologue) (hframe : Frame b prologue) (layout : PacketLayout)
    (hmiss : words b ≠ (layoutWords layout).toNat →
      Missized b (layoutWords layout).toNat prologue.classId.packetClass) :
    Within (PacketFault options b) ((StandardProfile.mk options).expectPacketSize layout
      prologue.classId.packetClass prologue.header.packetSizeWords) := by
  refine within_check.mpr fun hne => ⟨h.packetClass, hframe.size.symm, hmiss fun hsame => hne ?_⟩
  exact UInt16.toNat_inj.mp (hframe.size.symm.trans hsame)

theorem validateDataPadding_faults (h : ReadFrom b prologue) (hlimit : b.length * 8 < usizeLimit) :
    Within (PacketFault options b)
      (Parser.validateDataPadding (b.drop prologueBytes) prologue.classId.padBitCount) := by
  have hdrop : (b.drop prologueBytes).length = b.length - 28 := List.length_drop
  rw [Padding.validateDataPadding_verdict _ (by rw [hdrop]; omega), hdrop]
  refine within_ite.mpr ⟨fun _ => within_ok _, fun _ => within_ite.mpr ⟨fun hshort => ?_, fun _ =>
    within_check.mpr fun hzeros => ?_⟩⟩
  · exact (within_err _).mpr ⟨h.pad, rfl, hshort⟩
  · rw [h.pad] at hzeros
    exact hzeros

theorem parseData_faults (h : ReadFrom b prologue) (hframe : Frame b prologue) :
    Within (PacketFault options b) (Parser.parseData b prologue ⟨options⟩) := by
  obtain ⟨hlen, hwords, hge⟩ := hframe
  have hlt := prologue.header.packetSizeWords.toNat_lt
  have hseven : ¬prologue.header.packetSizeWords < prologueWords := prologueWords_le.mpr (by omega)
  have hslice : prologueBytes ≤ b.length := by
    rw [hlen]
    exact Nat.mul_le_mul_left 4 (prologueWords_le.mp hseven)
  unfold Parser.parseData
  rw [if_neg hseven, sliceFrom_ok hslice, ok_bind]
  refine within_ite.mpr ⟨fun hdenied => ?_, fun _ =>
    within_bind (validateDataPadding_faults h ?_) fun _ => within_ok _⟩
  · obtain ⟨hne, hdenied⟩ := hdenied
    refine (within_err _).mpr ⟨h.information, h.packetClass, h.pad, hne, ?_⟩
    rw [← permitsDataPadding_iff]
    simpa using hdenied
  · simp only [usizeLimit]
    omega

theorem parsePayloadFormat_faults {w0 w1 : UInt32} (h : ∃ c ∈ contextClasses, ClassAt b c)
    (h0 : w0.toNat = word b 25) (h1 : w1.toNat = word b 26) :
    Within (PacketFault options b) (PayloadFormat.parse w0 w1) := by
  have hsix (w : UInt32) : (addU8 (w &&& 0x3F).toUInt8 1 : Result UInt8) = .ok ((w &&& 0x3F).toUInt8 + 1) := by
    refine addU8_ok ?_
    rw [mask_toUInt8_toNat w 0x3F (by decide) (by decide)]
    simp only [UInt32.reduceToNat, UInt8.reduceToNat]
    omega
  refine within_tryFrom (e := .invalidPayloadFormat w0 w1) ?_ fun hnone => ⟨h, h0, h1, fun hgood => ?_⟩
  · simp only [PayloadFormat.parse, hsix, ok_bind]
    split <;> simp
  · obtain ⟨f, hf⟩ := payloadFormat_iff.mpr hgood
    exact hnone f hf

theorem parseSignalContext_faults (h : ReadFrom b prologue) (hframe : Frame b prologue)
    (hclass : prologue.classId.packetClass ∈ contextClasses) :
    Within (PacketFault options b) (Parser.parseSignalContext b prologue ⟨options⟩) := by
  have hnamed := h.classIn hclass
  have hdata : ∀ c ∈ contextClasses, classVariant c ≠ .signalData := by decide
  have hmiss : ∀ c ∈ contextClasses, words b ≠ 27 → Missized b 27 c := by simp [contextClasses, Missized]
  have hlen := hframe.length
  have hwords := hframe.size
  unfold Parser.parseSignalContext
  refine Within.bind (expectPacketSize_faults h hframe .signalContext (hmiss _ hclass)) fun _ hsize =>
    within_bind (expectNoPadding_faults h (hdata _ hclass)) fun _ => ?_
  rw [expectPacketSize_eq_ok.mp hsize] at hlen hwords
  simp only [UInt16.reduceToNat] at hlen hwords
  have hertz {field : String} {k : Nat} {raw : UInt64} (hfield : (field, contextClasses, 27, k) ∈ hertzFields)
      (hraw : raw.toNat = double b k) : Within (PacketFault options b) (validateFixedIntegerHz field raw) :=
    validateFixedIntegerHz_faults (by rw [hwords]; exact hfield) hnamed hraw
  simp (disch := omega) only [readU32Be_ok, readU64Be_ok, readI64Be_ok, ok_bind]
  refine within_bind (within_expectWordOneOf.mpr fun hne => ?_) fun _ => ?_
  · exact ⟨wordAt_toNat b 7, .inl ⟨rfl, hnamed, hne⟩⟩
  refine within_bind (hertz (by simp [hertzFields]) (doubleAt_toNat b 9)) fun _ => ?_
  refine within_bind (hertz (by simp [hertzFields]) (doubleAt_toNat b 19)) fun _ => ?_
  refine within_bind (hertz (by simp [hertzFields]) (doubleAt_toNat b 11)) fun _ => ?_
  refine within_bind (hertz (by simp [hertzFields]) (doubleAt_toNat b 13)) fun _ => ?_
  refine within_bind (hertz (by simp [hertzFields]) (doubleAt_toNat b 15)) fun _ => ?_
  exact within_bind (parsePayloadFormat_faults hnamed (wordAt_toNat b 25) (wordAt_toNat b 26)) fun _ =>
    within_ok _

theorem parseVersionContext_faults (h : ReadFrom b prologue) (hframe : Frame b prologue)
    (hclass : prologue.classId.packetClass = .versionFlowSignalContext) :
    Within (PacketFault options b) (Parser.parseVersionContext b prologue ⟨options⟩) := by
  have hnamed := h.classIn (List.mem_singleton.mpr hclass)
  have hlen := hframe.length
  have hdevice := shift_mask_toUInt8_toNat (wordAt b 10) 6 0xF (by decide) (by decide) (by decide)
  have hicd := mask_toUInt8_toNat (wordAt b 10) 0x3F (by decide) (by decide)
  simp only [UInt32.reduceToNat, Nat.reduceAdd, wordAt_toNat] at hdevice hicd
  have hwide {a : UInt8} (hne : a ≠ 0) : a.toUInt32 ≠ 0 := fun hzero => hne (by
    rw [← UInt8.toNat_inj, ← UInt8.toNat_toUInt32, hzero]
    rfl)
  unfold Parser.parseVersionContext
  refine Within.bind (expectPacketSize_faults h hframe .versionContext fun hne => ?_) fun _ hsize =>
    within_bind (expectNoPadding_faults h (by rw [hclass]; decide)) fun _ => ?_
  · rw [hclass]
    exact ⟨rfl, hne⟩
  rw [expectPacketSize_eq_ok.mp hsize] at hlen
  simp only [UInt16.reduceToNat] at hlen
  simp (disch := omega) only [readU32Be_ok, ok_bind]
  refine within_bind (within_expectWordOneOf.mpr fun hne => ?_) fun _ => ?_
  · exact ⟨wordAt_toNat b 7, .inr ⟨rfl, hclass ▸ h.packetClass, hne⟩⟩
  refine within_bind (expectWord_faults .versionCif1 hnamed trivial rfl (wordAt_toNat b 8)) fun _ => ?_
  refine within_bind (expectWord_faults .specVersion hnamed trivial rfl (wordAt_toNat b 9)) fun _ => ?_
  refine within_ite.mpr ⟨fun hne => (within_err _).mpr ?_, fun _ =>
    within_ite.mpr ⟨fun hne => (within_err _).mpr ?_, fun _ => within_ok _⟩⟩
  · exact ⟨.deviceType, rfl, hnamed, trivial, rfl, hdevice, hwide hne⟩
  · exact ⟨.icdVersion, rfl, hnamed, trivial, rfl, hicd, hwide hne⟩

theorem parseTimingFlowControl_faults (h : ReadFrom b prologue) (hframe : Frame b prologue)
    (hclass : prologue.classId.packetClass ∈ timingClasses) :
    Within (PacketFault options b) (Parser.parseTimingFlowControl b prologue ⟨options⟩) := by
  have hnamed := h.classIn hclass
  have hdata : ∀ c ∈ timingClasses, classVariant c ≠ .signalData := by decide
  have hmiss : ∀ c ∈ timingClasses, words b ≠ 21 → Missized b 21 c := by simp [timingClasses, Missized]
  have hlen := hframe.length
  have hwords := hframe.size
  unfold Parser.parseTimingFlowControl
  refine Within.bind (expectPacketSize_faults h hframe .timingFlowControl (hmiss _ hclass)) fun _ hsize =>
    within_bind (expectNoPadding_faults h (hdata _ hclass)) fun _ => ?_
  rw [expectPacketSize_eq_ok.mp hsize] at hlen hwords
  simp only [UInt16.reduceToNat] at hlen hwords
  simp (disch := omega) only [parseCommon_ok, readU32Be_ok, readU64Be_ok, readI64Be_ok, ok_bind]
  refine within_bind (expectWord_faults .timingCam hnamed trivial rfl (wordAt_toNat b 7)) fun _ => ?_
  refine within_bind (expectWord_faults .timingCif0 hnamed trivial rfl (wordAt_toNat b 11)) fun _ => ?_
  refine within_bind (expectWord_faults .timingCif1 hnamed trivial rfl (wordAt_toNat b 12)) fun _ => ?_
  refine within_bind (validateFixedIntegerHz_faults (by rw [hwords]; simp [hertzFields]) hnamed
    (doubleAt_toNat b 14)) fun _ => ?_
  refine within_ite.mpr ⟨fun hne => (within_err _).mpr ?_, fun _ => within_ok _⟩
  have hhigh : (wordAt b 20 >>> 16).toNat = word b 20 / 2 ^ 16 := by
    rw [← wordAt_toNat]
    simp only [UInt32.toNat_shiftRight, UInt32.reduceToNat, Nat.reduceMod, Nat.shiftRight_eq_div_pow]
  exact ⟨fun hzero => hne (UInt32.toNat_inj.mp hzero), .inr (.inr ⟨rfl, hnamed, hhigh⟩)⟩

theorem short_iff : (wordAt b 11 &&& 0x80000000 != 0) = true ↔ Short b := by
  have hmask := and_shifted_mask (n := (wordAt b 11).toNat) (m := 1) 31 (by decide)
  have hand : (wordAt b 11 &&& 0x80000000).toNat = (wordAt b 11).toNat / 2 ^ 31 % 2 * 2 ^ 31 :=
    (UInt32.toNat_and _ _).trans hmask
  have hlt := word_lt b 11
  rw [wordAt_toNat] at hand
  rw [bne_iff_ne, ne_eq, ← UInt32.toNat_inj, hand, Short]
  simp only [UInt32.reduceToNat]
  omega

/-- A command that is too short for its first words is short of bytes; what comes
after them finds the rest there. -/
theorem command_faults {α : Type} (check : UInt32 → Result Unit) (layout : CommandCommon → UInt32 → Result α)
    (h : ClassAt b .sinkCapabilitiesQuery ∨ ClassAt b .sinkCapabilitiesResponse)
    (hcheck : Within (PacketFault options b) (check (wordAt b 7)))
    (hlayout : ∀ common, 48 ≤ b.length → Within (PacketFault options b) (layout common (wordAt b 11))) :
    Within (PacketFault options b) (command b check layout) := by
  have hread {k : Nat} (hk : k < 12) : Within (PacketFault options b) (readU32Be b k) :=
    (within_readU32Be (by omega)).mpr fun hshort => ⟨rfl, hshort, by omega, h⟩
  unfold command
  by_cases hcommon : 44 ≤ b.length
  · rw [parseCommon_ok hcommon, ok_bind]
    refine within_bind hcheck fun _ => (hread (by decide)).bind fun cif0 hcif0 => ?_
    obtain ⟨hlen, rfl⟩ := (readU32Be_eq_ok (by decide)).mp hcif0
    exact hlayout _ hlen
  · refine Within.bind ?_ fun common hok => ?_
    · unfold Parser.parseCommon
      exact within_bind (hread (by decide)) fun _ => within_bind (hread (by decide)) fun _ =>
        within_bind (hread (by decide)) fun _ => within_bind (hread (by decide)) fun _ => within_ok _
    · unfold Parser.parseCommon at hok
      obtain ⟨_, -, hok⟩ := bind_eq_ok.mp hok
      obtain ⟨_, -, hok⟩ := bind_eq_ok.mp hok
      obtain ⟨_, -, hok⟩ := bind_eq_ok.mp hok
      obtain ⟨_, hlast, -⟩ := bind_eq_ok.mp hok
      exact absurd ((readU32Be_eq_ok (by decide)).mp hlast).1 hcommon

theorem parseSinkCapabilitiesQuery_faults (h : ReadFrom b prologue) (hframe : Frame b prologue)
    (hclass : prologue.classId.packetClass = .sinkCapabilitiesQuery) :
    Within (PacketFault options b) (Parser.parseSinkCapabilitiesQuery b prologue ⟨options⟩) := by
  have hnamed := h.classIn (List.mem_singleton.mpr hclass)
  have hlen := hframe.length
  unfold Parser.parseSinkCapabilitiesQuery
  refine within_bind (expectNoPadding_faults h (by rw [hclass]; decide)) fun _ => ?_
  refine command_faults (StandardProfile.expectSinkCapabilitiesQueryCam ⟨options⟩) _
    (.inl (hclass ▸ h.packetClass)) (expectWord_faults .queryCam hnamed trivial rfl (wordAt_toNat b 7))
    fun common h48 => ?_
  refine within_ite.mpr ⟨fun hform => ?_, fun hform => ?_⟩
  all_goals rw [short_iff] at hform
  · refine Within.bind (expectPacketSize_faults h hframe .sinkCapabilitiesQueryShort fun hne => ?_)
      fun _ hsize => ?_
    · rw [hclass]
      exact .inl ⟨hform, rfl, hne⟩
    rw [expectPacketSize_eq_ok.mp hsize] at hlen
    simp only [UInt16.reduceToNat] at hlen
    simp (disch := omega) only [readU32Be_ok, readU64Be_ok, ok_bind]
    exact within_bind (expectWord_faults .shortQueryCif0 hnamed hform rfl (wordAt_toNat b 11)) fun _ =>
      within_ok _
  · refine Within.bind (expectPacketSize_faults h hframe .sinkCapabilitiesQueryLong fun hne => ?_)
      fun _ hsize => ?_
    · rw [hclass]
      exact .inr ⟨hform, rfl, hne⟩
    rw [expectPacketSize_eq_ok.mp hsize] at hlen
    simp only [UInt16.reduceToNat] at hlen
    simp (disch := omega) only [readU32Be_ok, ok_bind]
    exact within_bind (expectWord_faults .longQueryCif0 hnamed hform rfl (wordAt_toNat b 11)) fun _ =>
      within_bind (expectWord_faults .longQueryCif1 hnamed hform rfl (wordAt_toNat b 12)) fun _ => within_ok _

theorem parseSinkCapabilitiesResponse_faults (h : ReadFrom b prologue) (hframe : Frame b prologue)
    (hclass : prologue.classId.packetClass = .sinkCapabilitiesResponse) :
    Within (PacketFault options b) (Parser.parseSinkCapabilitiesResponse b prologue ⟨options⟩) := by
  have hnamed := h.classIn (List.mem_singleton.mpr hclass)
  have hlen := hframe.length
  unfold Parser.parseSinkCapabilitiesResponse
  refine within_bind (expectNoPadding_faults h (by rw [hclass]; decide)) fun _ => ?_
  refine command_faults (StandardProfile.expectSinkCapabilitiesResponseCam ⟨options⟩) _
    (.inr (hclass ▸ h.packetClass)) (expectWord_faults .responseCam hnamed trivial rfl (wordAt_toNat b 7))
    fun common h48 => ?_
  refine within_ite.mpr ⟨fun hform => ?_, fun hform => within_ite.mpr ⟨fun hsmall => ?_, fun hsize => ?_⟩⟩
  all_goals rw [short_iff] at hform
  · refine Within.bind (expectPacketSize_faults h hframe .sinkCapabilitiesResponseShort fun hne => ?_)
      fun _ hsize => ?_
    · rw [hclass]
      exact .inl ⟨hform, rfl, hne⟩
    rw [expectPacketSize_eq_ok.mp hsize] at hlen
    simp only [UInt16.reduceToNat] at hlen
    simp (disch := omega) only [readU32Be_ok, readU64Be_ok, ok_bind]
    exact within_bind (expectWord_faults .shortResponseCif0 hnamed hform rfl (wordAt_toNat b 11)) fun _ =>
      within_ok _
  · have hsize : prologue.header.packetSizeWords.toNat ≤ 13 := hsmall
    refine (within_err _).mpr ⟨h.packetClass, hframe.size.symm, ?_⟩
    rw [hclass]
    refine .inr ⟨hform, rfl, ?_⟩
    rw [hframe.size]
    omega
  · have hwords : 13 < prologue.header.packetSizeWords.toNat := Nat.lt_of_not_le hsize
    have hslice : (sliceFrom b (13 * wordBytes) : Result (List UInt8)) = .ok (b.drop 52) :=
      sliceFrom_ok (by simp only [wordBytes]; omega)
    rw [readU32Be_ok (by omega) (by decide), ok_bind, hslice, ok_bind]
    exact within_bind (expectWord_faults .longResponseCif0 hnamed hform rfl (wordAt_toNat b 11)) fun _ =>
      within_bind (expectWord_faults .longResponseCif1 hnamed hform rfl (wordAt_toNat b 12)) fun _ => within_ok _

theorem statusFlags_faults (hnamed : ∃ c ∈ [PacketClassCode.statusReport], ClassAt b c) {expected : UInt32}
    (hexpected : expected.toNat = if words b = 15 then 0 else if words b = 17 then 0x10 else 0x18)
    (hne : wordAt b 14 &&& 0x18 ≠ expected) : PacketFault options b
      (.invalidFieldValue "status report quantitative flags" expected (wordAt b 14 &&& 0x18)) := by
  have hmask := and_shifted_mask (n := (wordAt b 14).toNat) (m := 3) 3 (by decide)
  have hand : (wordAt b 14 &&& 0x18).toNat = (wordAt b 14).toNat / 2 ^ 3 % 4 * 2 ^ 3 :=
    (UInt32.toNat_and _ _).trans hmask
  rw [wordAt_toNat] at hand
  exact ⟨.statusFlags (words b), rfl, hnamed, rfl, hexpected, hand, hne⟩

theorem parseStatusReport_faults (h : ReadFrom b prologue) (hframe : Frame b prologue)
    (hclass : prologue.classId.packetClass = .statusReport) :
    Within (PacketFault options b) (Parser.parseStatusReport b prologue ⟨options⟩) := by
  have hnamed := h.classIn (List.mem_singleton.mpr hclass)
  have hlen := hframe.length
  have hwords := hframe.size
  unfold Parser.parseStatusReport
  refine Within.bind (within_check.mpr fun hnone => ?_) fun _ hsizes =>
    within_bind (expectNoPadding_faults h (by rw [hclass]; decide)) fun _ => ?_
  · exact ⟨hclass, h.packetClass, rfl, hwords.symm, fun hmem => hnone (List.contains_iff_mem.mpr hmem)⟩
  rcases validateStatusReportSize_eq_ok.mp hsizes with hsize | hsize | hsize
  all_goals
    rw [hsize] at hlen hwords ⊢
    simp only [UInt16.reduceToNat] at hlen hwords
    simp (disch := omega) only [parseCommon_ok, readU32Be_ok, readU64Be_ok, ok_bind]
    refine within_bind (expectWord_faults .statusCam hnamed trivial rfl (wordAt_toNat b 7)) fun _ => ?_
    refine within_bind (expectWord_faults .statusCif0 hnamed trivial rfl (wordAt_toNat b 11)) fun _ => ?_
    refine within_bind (expectWord_faults .statusCif1 hnamed trivial rfl (wordAt_toNat b 12)) fun _ => ?_
    refine within_ite.mpr ⟨fun hne => (within_err _).mpr (statusFlags_faults hnamed (by rw [hwords]; rfl) hne),
      fun _ => ?_⟩
  · simp
  · simp
  · have hertz {field : String} {k : Nat} {raw : UInt64}
        (hfield : (field, [PacketClassCode.statusReport], 21, k) ∈ hertzFields) (hraw : raw.toNat = double b k) :
        Within (PacketFault options b) (validateFixedIntegerHz field raw) :=
      validateFixedIntegerHz_faults (by rw [hwords]; exact hfield) hnamed hraw
    refine within_bind (by simp) fun _ => within_bind (within_ite.mpr ⟨fun _ => ?_, fun _ => within_ok _⟩)
      fun _ => within_ok _
    refine within_bind (hertz (by simp [hertzFields]) (doubleAt_toNat b 17)) fun _ => ?_
    exact within_bind (hertz (by simp [hertzFields]) (doubleAt_toNat b 19)) fun _ => within_ok _

theorem decodeAs_faults (h : ReadFrom b prologue) (hframe : Frame b prologue) : Within (PacketFault options b)
    (decodeAs (classVariant prologue.classId.packetClass) b prologue ⟨options⟩) := by
  have hcontext : prologue.classId.packetClass ∈ contextClasses → Within (PacketFault options b)
      (Parser.parseSignalContext b prologue ⟨options⟩) := parseSignalContext_faults h hframe
  have htiming : prologue.classId.packetClass ∈ timingClasses → Within (PacketFault options b)
      (Parser.parseTimingFlowControl b prologue ⟨options⟩) := parseTimingFlowControl_faults h hframe
  cases hclass : prologue.classId.packetClass with
  | standardFlowSignalData | sampleCountSignalData => exact within_map _ (parseData_faults h hframe)
  | standardFlowSignalContext | sampleCountSignalContext =>
      rw [hclass] at hcontext
      exact within_map _ (hcontext (by decide))
  | versionFlowSignalContext => exact within_map _ (parseVersionContext_faults h hframe hclass)
  | sampleCountTimingFlowControl | realTimeTimingFlowControl =>
      rw [hclass] at htiming
      exact within_map _ (htiming (by decide))
  | sinkCapabilitiesQuery => exact within_map _ (parseSinkCapabilitiesQuery_faults h hframe hclass)
  | sinkCapabilitiesResponse => exact within_map _ (parseSinkCapabilitiesResponse_faults h hframe hclass)
  | statusReport => exact within_map _ (parseStatusReport_faults h hframe hclass)

theorem parseSinglePacket_faults (hlen : b.length = 4 * words b) (hge : 7 ≤ words b) :
    Within (PacketFault options b) (Parser.parseSinglePacket b ⟨options⟩) := by
  have h28 : prologueBytes ≤ b.length := by
    rw [hlen]
    exact Nat.mul_le_mul_left 4 hge
  rw [parseSinglePacket_eq _ h28]
  refine Within.bind parseHeader_faults fun header hheader => ?_
  obtain ⟨hraw, hword⟩ := parse_header_eq_ok.mp hheader
  rw [within_ite]
  refine ⟨fun hnone => ?_, fun hindicator => ?_⟩
  · rw [within_err]
    have hdigit := (headerWord_digits hword).2.1
    rw [Bool.not_eq_true'] at hnone
    rw [hnone, hraw, wordAt_toNat] at hdigit
    exact hdigit.symm
  refine Within.bind parseClassId_faults fun classId hclass => ?_
  obtain ⟨hcid, hw2, hw3⟩ := parse_classId_eq_ok.mp hclass
  have hform : PrologueForm ⟨header, wordAt b 1, classId, wordAt b 4, doubleAt b 5⟩ :=
    ⟨hword, by simpa using hindicator, hcid⟩
  have hw : WordsFrom b 0 (prologueLayout ⟨header, wordAt b 1, classId, wordAt b 4, doubleAt b 5⟩) :=
    wordsFrom_prologue.mpr ⟨hraw.symm, rfl, hw2, hw3, rfl, rfl⟩
  have hread := readFrom_words hform hw
  have hchecks : Within (PrologueFault options header classId) (profileChecks ⟨options⟩ header classId) :=
    profileChecks_faults hword hform.classIdIndicator
  exact within_bind (hchecks.mono fun e he => he.packetFault hread) fun _ =>
    decodeAs_faults hread (frame_of_words hform hw hlen hge)

end Bodies

section Input

variable {options : ParseOptions} {input : List UInt8}

theorem fault_of_packet {e : ParseError} (h : PacketFault options (input.take (4 * words input)) e) :
    Fault options input e := by
  cases e with
  | inputTooShort least actual => exact .inr h
  | packetSizeTooSmall | packetTruncated | trailingBytes => exact h.elim
  | _ => exact h

theorem parsePacketPrefix_faults :
    Within (Fault options input) (Parser.parsePacketPrefixWithOptions input options) := by
  by_cases hlong : prologueBytes ≤ input.length
  · rw [parsePacketPrefix_eq options hlong]
    refine within_ite.mpr ⟨fun hsmall => ?_, fun hsize => within_ite.mpr ⟨fun hshort => ?_, fun hfits => ?_⟩⟩
    · exact (within_err _).mpr ⟨declaredSize_toNat input, hsmall⟩
    · rw [declaredSize_toNat] at hshort ⊢
      exact (within_err _).mpr ⟨rfl, rfl, hshort⟩
    · have hge := prologueWords_le.mp hsize
      rw [declaredSize_toNat] at hfits hge ⊢
      have hfits := Nat.le_of_not_lt hfits
      have hpacket : Within (PacketFault options (input.take (4 * words input)))
          (Parser.parseSinglePacket (input.take (4 * words input)) ⟨options⟩) := by
        refine parseSinglePacket_faults ?_ ?_
        · rw [words_take hge hfits, List.length_take_of_le hfits]
        · rw [words_take hge hfits]
          exact hge
      exact within_bind (hpacket.mono fun e he => fault_of_packet he) fun _ => within_ok _
  · rw [Parser.parsePacketPrefixWithOptions, if_pos (Nat.lt_of_not_le hlong)]
    exact (within_err _).mpr (.inl ⟨rfl, rfl, Nat.lt_of_not_le hlong⟩)

theorem parsePacketPrefix_rest {p : Packet} {rest : List UInt8}
    (h : Parser.parsePacketPrefixWithOptions input options = .ok (p, rest)) :
    input.length = 4 * words input + rest.length := by
  have hlong := Nat.le_of_not_lt (ite_err_eq_ok.mp h).1
  rw [parsePacketPrefix_eq options hlong, declaredSize_toNat] at h
  obtain ⟨-, h⟩ := ite_err_eq_ok.mp h
  obtain ⟨hfits, h⟩ := ite_err_eq_ok.mp h
  obtain ⟨_, -, h⟩ := bind_eq_ok.mp h
  cases h
  rw [List.length_drop]
  omega

theorem parsePacketExact_faults :
    Within (Fault options input) (Parser.parsePacketExactWithOptions input options) := by
  unfold Parser.parsePacketExactWithOptions
  refine parsePacketPrefix_faults.bind fun r hr => ?_
  obtain ⟨p, rest⟩ := r
  refine within_ite.mpr ⟨fun _ => within_ok _, fun hrest =>
    (within_err _).mpr ⟨?_, parsePacketPrefix_rest hr⟩⟩
  rw [List.isEmpty_iff] at hrest
  exact List.length_pos_iff.mpr hrest

end Input

end Difi.BodyFaults
