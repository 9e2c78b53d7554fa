import Difi.Acceptance
import Difi.Padding

namespace Difi.Grammar

open Machine Checks Fields Bodies Layout Decoding Acceptance

/-- The big-endian word at a word index, as a number. -/
def word (b : List UInt8) (k : Nat) : Nat :=
  (b.getD (4 * k) 0).toNat * 2 ^ 24 + (b.getD (4 * k + 1) 0).toNat * 2 ^ 16 +
    (b.getD (4 * k + 2) 0).toNat * 2 ^ 8 + (b.getD (4 * k + 3) 0).toNat

def double (b : List UInt8) (k : Nat) : Nat := word b k * 2 ^ 32 + word b (k + 1)

def words (b : List UInt8) : Nat := word b 0 % 2 ^ 16

/-- The packet types that a class comes under. -/
def typeNibbles (options : ParseOptions) : PacketClassCode → List Nat
  | .standardFlowSignalData | .sampleCountSignalData => [1]
  | .standardFlowSignalContext | .sampleCountSignalContext => [4]
  | .versionFlowSignalContext =>
    match options.standard, options.compatibility with
    | .v1_1, _ => [5]
    | .v1_2_1, .strict => [4]
    | .v1_2_1, .legacyVersionPacketType => [4, 5]
    | .v1_3_0, _ => [4]
  | .sampleCountTimingFlowControl | .realTimeTimingFlowControl => [6]
  | .sinkCapabilitiesQuery | .sinkCapabilitiesResponse | .statusReport => [7]

def tsfCodes : PacketClassCode → List Nat
  | .standardFlowSignalData | .standardFlowSignalContext | .versionFlowSignalContext
  | .realTimeTimingFlowControl => [2]
  | .sampleCountSignalData | .sampleCountSignalContext | .sampleCountTimingFlowControl => [1]
  | .sinkCapabilitiesQuery | .sinkCapabilitiesResponse | .statusReport => [1, 2]

def typeSpecific (information : InformationClassCode) : PacketClassCode → Nat
  | .standardFlowSignalContext =>
    match information with
    | .basicDataPlane | .basicDataPlaneWithLinkEstablishment => 1
    | _ => 0
  | .versionFlowSignalContext => 1
  | .sinkCapabilitiesResponse => 4
  | _ => 0

def PaddingAllowed (options : ParseOptions) (information : InformationClassCode)
    (packetClass : PacketClassCode) : Prop :=
  options.standard ≠ .v1_1 ∧ (packetClass = .sampleCountSignalData ∨
    (packetClass = .standardFlowSignalData ∧ information ≠ .basicDataPlane ∧
      information ≠ .basicDataPlaneWithLinkEstablishment))

def PaddingRule (options : ParseOptions) (b : List UInt8) (information : InformationClassCode)
    (packetClass : PacketClassCode) (n : Nat) : Prop :=
  n = 0 ∨ (PaddingAllowed options information packetClass ∧ n ≤ (b.length - 28) * 8 ∧
    2 ^ n ∣ bigEndian (b.drop 28))

/-- The words of a body that are fixed or restricted, by packet class. -/
def BodyRule (b : List UInt8) : PacketClassCode → Prop
  | .standardFlowSignalData | .sampleCountSignalData => True
  | .standardFlowSignalContext | .sampleCountSignalContext =>
    words b = 27 ∧ word b 7 ∈ [0xFBB98000, 0x7BB98000] ∧ double b 9 % 2 ^ 20 = 0 ∧
      double b 11 % 2 ^ 20 = 0 ∧ double b 13 % 2 ^ 20 = 0 ∧ double b 15 % 2 ^ 20 = 0 ∧
      double b 19 % 2 ^ 20 = 0 ∧
      (∃ size, 4 ≤ size ∧ size ≤ 16 ∧ word b 25 = 0xA0000000 + (size - 1) * 2 ^ 6 + (size - 1)) ∧
      word b 26 = 0
  | .versionFlowSignalContext =>
    words b = 11 ∧ word b 7 ∈ [0x80000002, 0x00000002] ∧ word b 8 = 0x0000000C ∧ word b 9 = 4 ∧
      word b 10 % 2 ^ 10 = 0
  | .sampleCountTimingFlowControl | .realTimeTimingFlowControl =>
    words b = 21 ∧ word b 7 = 0xA1000000 ∧ word b 11 = 0x40300002 ∧ word b 12 = 0x00000002 ∧
      double b 14 % 2 ^ 20 = 0 ∧ word b 20 < 2 ^ 16
  | .sinkCapabilitiesQuery =>
    word b 7 = 0xA1100000 ∧ ((words b = 15 ∧ word b 11 = 0x80000000) ∨
      (words b = 13 ∧ word b 11 = 0x7BB98002 ∧ word b 12 = 0x00000002))
  | .sinkCapabilitiesResponse =>
    word b 7 = 0xA1100400 ∧ ((words b = 18 ∧ word b 11 = 0x80000000) ∨
      (13 < words b ∧ word b 11 = 0x7BB98002 ∧ word b 12 = 0x00000002))
  | .statusReport =>
    word b 7 = 0xA1080000 ∧ word b 11 = 0 ∧ word b 12 = 0 ∧
      ((words b = 15 ∧ word b 14 / 2 ^ 3 % 4 = 0) ∨ (words b = 17 ∧ word b 14 / 2 ^ 3 % 4 = 2) ∨
        (words b = 21 ∧ word b 14 / 2 ^ 3 % 4 = 3 ∧ double b 17 % 2 ^ 20 = 0 ∧ double b 19 % 2 ^ 20 = 0))

/-- The byte strings of the packets of an information class and a packet class. -/
structure Sentence (options : ParseOptions) (b : List UInt8) (information : InformationClassCode)
    (packetClass : PacketClassCode) : Prop where
  length : b.length = 4 * words b
  words_ge : 7 ≤ words b
  classIdIndicator : word b 0 / 2 ^ 27 % 2 = 1
  tsi : word b 0 / 2 ^ 22 % 4 ∈ [1, 2, 3]
  reserved : word b 2 / 2 ^ 24 % 8 = 0
  oui : word b 2 % 2 ^ 24 = 0x6A621E
  classes : word b 3 = information.raw.toNat * 2 ^ 16 + packetClass.raw.toNat
  listed : (StandardProfile.mk options).allowsPacketClass information packetClass = true
  packetType : word b 0 / 2 ^ 28 ∈ typeNibbles options packetClass
  tsf : word b 0 / 2 ^ 20 % 4 ∈ tsfCodes packetClass
  typeSpecificBits : word b 0 / 2 ^ 24 % 8 = typeSpecific information packetClass
  padding : PaddingRule options b information packetClass (word b 2 / 2 ^ 27)
  body : BodyRule b packetClass

/-- The words of a prologue that the standard admits. -/
structure Opening (options : ParseOptions) (b : List UInt8) (information : InformationClassCode)
    (packetClass : PacketClassCode) : Prop where
  classIdIndicator : word b 0 / 2 ^ 27 % 2 = 1
  tsi : word b 0 / 2 ^ 22 % 4 ∈ [1, 2, 3]
  reserved : word b 2 / 2 ^ 24 % 8 = 0
  oui : word b 2 % 2 ^ 24 = 0x6A621E
  classes : word b 3 = information.raw.toNat * 2 ^ 16 + packetClass.raw.toNat
  listed : (StandardProfile.mk options).allowsPacketClass information packetClass = true
  packetType : word b 0 / 2 ^ 28 ∈ typeNibbles options packetClass
  tsf : word b 0 / 2 ^ 20 % 4 ∈ tsfCodes packetClass
  typeSpecificBits : word b 0 / 2 ^ 24 % 8 = typeSpecific information packetClass

theorem sentence_parts {options : ParseOptions} {b : List UInt8} {information : InformationClassCode}
    {packetClass : PacketClassCode} : Sentence options b information packetClass ↔
      (b.length = 4 * words b ∧ 7 ≤ words b) ∧ Opening options b information packetClass ∧
        PaddingRule options b information packetClass (word b 2 / 2 ^ 27) ∧ BodyRule b packetClass := by
  constructor
  · rintro ⟨hlen, hge, hind, htsi, hres, houi, hclasses, hlisted, hnibble, hcode, hspecific, hrule, hbody⟩
    exact ⟨⟨hlen, hge⟩, ⟨hind, htsi, hres, houi, hclasses, hlisted, hnibble, hcode, hspecific⟩, hrule, hbody⟩
  · rintro ⟨⟨hlen, hge⟩, ⟨hind, htsi, hres, houi, hclasses, hlisted, hnibble, hcode, hspecific⟩, hrule, hbody⟩
    exact ⟨hlen, hge, hind, htsi, hres, houi, hclasses, hlisted, hnibble, hcode, hspecific, hrule, hbody⟩

theorem wordAt_toNat (b : List UInt8) (k : Nat) : (wordAt b k).toNat = word b k :=
  fromBeBytes_toNat _ _ _ _

theorem doubleAt_toNat (b : List UInt8) (k : Nat) : (doubleAt b k).toNat = double b k := by
  rw [doubleAt, joinWords_toNat, wordAt_toNat, wordAt_toNat, double]

theorem wordAt_eq_iff {b : List UInt8} {k : Nat} {w : UInt32} : wordAt b k = w ↔ word b k = w.toNat := by
  rw [← UInt32.toNat_inj, wordAt_toNat]

theorem declaredSize_toNat (b : List UInt8) : (declaredSize b).toNat = words b := by
  rw [declaredSize, mask_toUInt16_toNat _ 0xFFFF (by decide) (by decide), wordAt_toNat]
  rfl

theorem word_take {b : List UInt8} {m k : Nat} (hm : m ≤ b.length) (hk : 4 * k + 4 ≤ m) :
    word (b.take m) k = word b k := by
  have happend := wordAt_append (b.take m) (b.drop m) k (by rwa [List.length_take_of_le hm])
  rw [List.take_append_drop] at happend
  rw [← wordAt_toNat, ← happend, wordAt_toNat]

theorem words_take {b : List UInt8} (hge : 7 ≤ words b) (hfits : 4 * words b ≤ b.length) :
    words (b.take (4 * words b)) = words b :=
  congrArg (· % 2 ^ 16) (word_take hfits (by omega))

/-- Membership in an information class implies that the packet class is there
in the standard, so that the check of the class alone never decides. -/
theorem packetClassAvailable_of_allows {profile : StandardProfile} {information : InformationClassCode}
    {packetClass : PacketClassCode} (h : profile.allowsPacketClass information packetClass = true) :
    profile.packetClassAvailable packetClass = true := by
  obtain ⟨⟨standard, compatibility⟩⟩ := profile
  cases standard
  · cases information <;> cases packetClass <;> first | rfl | cases h
  · cases information <;> cases packetClass <;> first | rfl | cases h
  · rfl

theorem packetType_iff {options : ParseOptions} {t : PacketType} {packetClass : PacketClassCode}
    (h : (StandardProfile.mk options).packetClassAvailable packetClass = true) :
    ((StandardProfile.mk options).packetTypeAvailable t = true ∧
      (StandardProfile.mk options).validatePacketTypeClass t packetClass = .ok ()) ↔
      t.code.toNat ∈ typeNibbles options packetClass := by
  obtain ⟨standard, compatibility⟩ := options
  cases standard
  all_goals
    cases packetClass
    all_goals first | (cases h; done) | cases t <;> cases compatibility <;> decide

theorem validateTsf_iff {profile : StandardProfile} {header : PacketHeader} {packetClass : PacketClassCode} :
    profile.validateTsf header packetClass = .ok () ↔ header.tsf.code.toNat ∈ tsfCodes packetClass := by
  obtain ⟨raw, t, indicator, bits, tsm, tsi, tsf, sequence, size⟩ := header
  cases packetClass <;> cases tsf <;> simp [StandardProfile.validateTsf, tsfCodes, Tsf.code]

def contextMode (information : InformationClassCode) : PacketClassCode → TimestampMode
  | .standardFlowSignalContext =>
    match information with
    | .basicDataPlane | .basicDataPlaneWithLinkEstablishment => .coarse
    | _ => .fine
  | .versionFlowSignalContext => .coarse
  | _ => .fine

theorem context_bits_iff {bits : UInt8} (mode : TimestampMode) (h : bits.toNat < 8) :
    (bits &&& 0b110 = 0 ∧ (if bits &&& 1 = 1 then TimestampMode.coarse else .fine) = mode) ↔
      bits.toNat = mode.code.toNat := by
  refine forall_small_byte (P := fun bits => (bits &&& 0b110 = 0 ∧
    (if bits &&& 1 = 1 then TimestampMode.coarse else .fine) = mode) ↔ bits.toNat = mode.code.toNat) ?_ bits h
  cases mode <;> decide

theorem validateTsm_context {profile : StandardProfile} {header : PacketHeader} {mode : TimestampMode}
    {information : InformationClassCode} {packetClass : PacketClassCode} (htsm : header.tsm = some mode)
    (hclass : classVariant packetClass = .signalContext ∨ classVariant packetClass = .versionContext) :
    profile.validateTsm header information packetClass = .ok () ↔
      mode = contextMode information packetClass := by
  rw [StandardProfile.validateTsm, htsm]
  cases packetClass with
  | standardFlowSignalContext => cases information <;> exact ite_eq_ok
  | sampleCountSignalContext | versionFlowSignalContext => exact ite_eq_ok
  | _ => exact absurd hclass (by decide)

theorem typeSpecific_context {information : InformationClassCode} {packetClass : PacketClassCode}
    (hclass : classVariant packetClass = .signalContext ∨ classVariant packetClass = .versionContext) :
    typeSpecific information packetClass = (contextMode information packetClass).code.toNat := by
  cases packetClass with
  | standardFlowSignalContext => cases information <;> rfl
  | sampleCountSignalContext | versionFlowSignalContext => rfl
  | _ => exact absurd hclass (by decide)

theorem headerBits_context {profile : StandardProfile} {header : PacketHeader}
    {information : InformationClassCode} {packetClass : PacketClassCode} (hw : HeaderWord header)
    (ht : header.packetType = .contextWithStreamId ∨ header.packetType = .versionWithStreamId)
    (hclass : classVariant packetClass = .signalContext ∨ classVariant packetClass = .versionContext) :
    (profile.validateHeaderBits header packetClass = .ok () ∧
      profile.validateTsm header information packetClass = .ok ()) ↔
      header.classIdIndicator = true ∧ header.typeSpecificBits.toNat = typeSpecific information packetClass := by
  have htsm : header.tsm = some (if header.typeSpecificBits &&& 1 = 1 then .coarse else .fine) := by
    rw [hw.tsm]
    rcases ht with ht | ht
    · rw [ht, Writer.expectedTsm, ← apply_ite]
    · rw [ht, Writer.expectedTsm, ← apply_ite]
  have hbits : profile.validateHeaderBits header packetClass = .ok () ↔
      header.classIdIndicator = true ∧ header.typeSpecificBits &&& 0b110 = 0 := by
    obtain ⟨raw, t, indicator, bits, tsm, tsi, tsf, sequence, size⟩ := header
    rcases ht with rfl | rfl
    · refine ite_err_eq_ok.trans (and_congr (by simp) ?_)
      simp
    · refine ite_err_eq_ok.trans (and_congr (by simp) ?_)
      simp
  rw [hbits, validateTsm_context htsm hclass, and_assoc, context_bits_iff _ hw.typeSpecificBits_lt,
    typeSpecific_context hclass]

theorem headerBits_iff {profile : StandardProfile} {header : PacketHeader}
    {information : InformationClassCode} {packetClass : PacketClassCode} (hw : HeaderWord header)
    (hclass : profile.validatePacketTypeClass header.packetType packetClass = .ok ()) :
    (profile.validateHeaderBits header packetClass = .ok () ∧
      profile.validateTsm header information packetClass = .ok ()) ↔
      header.classIdIndicator = true ∧ header.typeSpecificBits.toNat = typeSpecific information packetClass := by
  have hcode (k : UInt8) : header.typeSpecificBits = k ↔ header.typeSpecificBits.toNat = k.toNat :=
    UInt8.toNat_inj.symm
  cases ht : header.packetType with
  | contextWithStreamId =>
      refine headerBits_context hw (.inl ht) ?_
      rw [ht] at hclass
      cases packetClass <;> first | exact .inl rfl | exact .inr rfl | cases hclass
  | versionWithStreamId =>
      refine headerBits_context hw (.inr ht) ?_
      rw [ht] at hclass
      cases packetClass <;> first | exact .inr rfl | cases hclass
  | _ =>
      have htsm : header.tsm = none := by
        rw [hw.tsm, ht]
        rfl
      have hok : profile.validateTsm header information packetClass = .ok () := by
        rw [StandardProfile.validateTsm, htsm]
      rw [hok, and_iff_left rfl]
      rw [ht] at hclass
      obtain ⟨raw, t, indicator, bits, tsm, tsi, tsf, sequence, size⟩ := header
      subst ht
      refine ite_err_eq_ok.trans (and_congr (by simp) ?_)
      cases packetClass <;> first | (cases hclass; done) | exact expectBits_eq_ok.trans (hcode _)

theorem profileChecks_iff (options : ParseOptions) {header : PacketHeader} (classId : ClassId)
    (hw : HeaderWord header) :
    (header.classIdIndicator = true ∧ profileChecks ⟨options⟩ header classId = .ok ()) ↔
      header.classIdIndicator = true ∧
      (StandardProfile.mk options).allowsPacketClass classId.informationClass classId.packetClass = true ∧
      header.packetType.code.toNat ∈ typeNibbles options classId.packetClass ∧
      header.tsf.code.toNat ∈ tsfCodes classId.packetClass ∧
      header.typeSpecificBits.toNat = typeSpecific classId.informationClass classId.packetClass := by
  rw [profileChecks_eq_ok, StandardProfile.validateClassMembership, ite_eq_ok,
    StandardProfile.validatePacketTypeAvailable, ite_eq_ok, StandardProfile.validatePacketClassAvailable,
    ite_eq_ok, validateTsf_iff]
  constructor
  · rintro ⟨hindicator, htype, hclass, hpair, hbits, hlisted, htsf, htsm⟩
    exact ⟨hindicator, hlisted, (packetType_iff hclass).mp ⟨htype, hpair⟩, htsf,
      ((headerBits_iff hw hpair).mp ⟨hbits, htsm⟩).2⟩
  · rintro ⟨hindicator, hlisted, htype, htsf, hspecific⟩
    have hclass := packetClassAvailable_of_allows hlisted
    obtain ⟨htype, hpair⟩ := (packetType_iff hclass).mpr htype
    obtain ⟨hbits, htsm⟩ := (headerBits_iff hw hpair).mpr ⟨hindicator, hspecific⟩
    exact ⟨hindicator, htype, hclass, hpair, hbits, hlisted, htsf, htsm⟩

theorem packetType_of_nibble {options : ParseOptions} {packetClass : PacketClassCode} {n : Nat}
    (h : n ∈ typeNibbles options packetClass) : ∃ t : PacketType, t.code.toNat = n := by
  obtain ⟨standard, compatibility⟩ := options
  have hmem : n ∈ [1, 4, 5, 6, 7] := by
    cases packetClass <;> cases standard <;> cases compatibility <;>
      simp only [typeNibbles, List.mem_cons, List.not_mem_nil, or_false] at h ⊢ <;> omega
  simp only [List.mem_cons, List.not_mem_nil, or_false] at hmem
  rcases hmem with rfl | rfl | rfl | rfl | rfl
  · exact ⟨.signalDataWithStreamId, rfl⟩
  · exact ⟨.contextWithStreamId, rfl⟩
  · exact ⟨.versionWithStreamId, rfl⟩
  · exact ⟨.commandWithStreamId, rfl⟩
  · exact ⟨.extensionCommandWithStreamId, rfl⟩

theorem tsi_of_code {n : Nat} (h : n ∈ [1, 2, 3]) : ∃ t : Tsi, t.code.toNat = n := by
  simp only [List.mem_cons, List.not_mem_nil, or_false] at h
  rcases h with rfl | rfl | rfl
  · exact ⟨.utc, rfl⟩
  · exact ⟨.gps, rfl⟩
  · exact ⟨.posix, rfl⟩

theorem tsf_of_code {packetClass : PacketClassCode} {n : Nat} (h : n ∈ tsfCodes packetClass) :
    ∃ t : Tsf, t.code.toNat = n := by
  have hmem : n ∈ [1, 2] := by
    cases packetClass <;> simp only [tsfCodes, List.mem_cons, List.not_mem_nil, or_false] at h ⊢ <;> omega
  simp only [List.mem_cons, List.not_mem_nil, or_false] at hmem
  rcases hmem with rfl | rfl
  · exact ⟨.sampleCount, rfl⟩
  · exact ⟨.realTimePicoseconds, rfl⟩

theorem exists_headerWord {raw : UInt32} {t : PacketType} {tsi : Tsi} {tsf : Tsf}
    (ht : t.code.toNat = raw.toNat / 2 ^ 28) (htsi : tsi.code.toNat = raw.toNat / 2 ^ 22 % 4)
    (htsf : tsf.code.toNat = raw.toNat / 2 ^ 20 % 4) :
    ∃ header : PacketHeader, header.raw = raw ∧ HeaderWord header := by
  have hraw := raw.toNat_lt
  have hind : (raw.toNat / 2 ^ 27 % 2 == 1).toNat = raw.toNat / 2 ^ 27 % 2 := by
    rcases Nat.mod_two_eq_zero_or_one (raw.toNat / 2 ^ 27) with h | h <;> rw [h] <;> rfl
  refine ⟨{
    raw
    packetType := t
    classIdIndicator := raw.toNat / 2 ^ 27 % 2 == 1
    typeSpecificBits := UInt8.ofNat (raw.toNat / 2 ^ 24 % 8)
    tsm := Writer.expectedTsm t (UInt8.ofNat (raw.toNat / 2 ^ 24 % 8))
    tsi
    tsf
    sequence := UInt8.ofNat (raw.toNat / 2 ^ 16 % 16)
    packetSizeWords := UInt16.ofNat (raw.toNat % 2 ^ 16) }, rfl, ?_, ?_, ?_, rfl⟩
  · simp only [UInt8.toNat_ofNat', UInt16.toNat_ofNat', hind, ht, htsi, htsf]
    omega
  · simp only [UInt8.toNat_ofNat']
    omega
  · simp only [UInt8.toNat_ofNat']
    omega

theorem permitsDataPadding_iff {options : ParseOptions} {information : InformationClassCode}
    {packetClass : PacketClassCode} :
    (StandardProfile.mk options).permitsDataPadding information packetClass = true ↔
      PaddingAllowed options information packetClass := by
  obtain ⟨standard, compatibility⟩ := options
  cases standard <;> cases information <;> cases packetClass <;>
    simp [StandardProfile.permitsDataPadding, PaddingAllowed]

theorem paddingRule_iff {options : ParseOptions} {b : List UInt8} {information : InformationClassCode}
    {packetClass : PacketClassCode} {n : Nat} (h : classVariant packetClass ≠ .signalData) :
    PaddingRule options b information packetClass n ↔ n = 0 := by
  refine or_iff_left ?_
  rintro ⟨⟨-, hclass⟩, -⟩
  rcases hclass with rfl | ⟨rfl, -⟩
  · exact h rfl
  · exact h rfl

theorem size_eq_iff {n k : UInt16} : n = k ↔ n.toNat = k.toNat := UInt16.toNat_inj.symm

theorem byte_eq_zero_iff {n : UInt8} : n = 0 ↔ n.toNat = 0 := UInt8.toNat_inj.symm

theorem payloadFormat_iff {w0 w1 : UInt32} : (∃ f, PayloadFormat.parse w0 w1 = .ok f) ↔
    (∃ size, 4 ≤ size ∧ size ≤ 16 ∧ w0.toNat = 0xA0000000 + (size - 1) * 2 ^ 6 + (size - 1)) ∧ w1.toNat = 0 := by
  simp only [parse_payloadFormat_eq_ok]
  constructor
  · rintro ⟨f, rfl, rfl, hf⟩
    have hword := hf.word0
    refine ⟨⟨f.dataItemSizeBits.toNat, hf.size_ge, hf.size_le, by omega⟩, ?_⟩
    rw [hf.word1]
    rfl
  · rintro ⟨⟨size, hge, hle, hword⟩, hzero⟩
    have hsize : (UInt8.ofNat size).toNat = size := by
      rw [UInt8.toNat_ofNat']
      omega
    refine ⟨⟨w0, w1, .complexSignedCartesian, UInt8.ofNat size, UInt8.ofNat size⟩, rfl, rfl, ?_, ?_, rfl, ?_, ?_⟩
    · rw [hsize]
      exact hge
    · rw [hsize]
      exact hle
    · simp only [hsize]
      omega
    · exact UInt32.toNat_inj.mp hzero

theorem versionWord_iff {w : UInt32} :
    (∃ year day revision, VersionWord w year day revision) ↔ w.toNat % 2 ^ 10 = 0 := by
  have hdev := shift_mask_toUInt8_toNat w 6 0xF (by decide) (by decide) (by decide)
  have hicd := mask_toUInt8_toNat w 0x3F (by decide) (by decide)
  simp only [UInt32.reduceToNat, Nat.reduceAdd] at hdev hicd
  have hzero : (w >>> 6 &&& 15).toUInt8 = 0 ∧ (w &&& 63).toUInt8 = 0 ↔ w.toNat % 2 ^ 10 = 0 := by
    rw [byte_eq_zero_iff, byte_eq_zero_iff, hdev, hicd]
    omega
  rw [← hzero]
  simp only [versionWord_extract]
  constructor
  · rintro ⟨year, day, revision, hdev, hicd, -⟩
    exact ⟨hdev, hicd⟩
  · rintro ⟨hdev, hicd⟩
    exact ⟨_, _, _, hdev, hicd, rfl, rfl, rfl⟩

theorem bufferStatus_iff {w : UInt32} : (∃ s, s.raw = w ∧ BufferStatusWord s) ↔ w.toNat < 2 ^ 16 := by
  have hhigh : w >>> 16 = 0 ↔ w.toNat < 2 ^ 16 := by
    rw [← UInt32.toNat_inj]
    simp only [UInt32.toNat_shiftRight, UInt32.reduceToNat, Nat.reduceMod, Nat.shiftRight_eq_div_pow]
    omega
  rw [← hhigh]
  constructor
  · rintro ⟨s, rfl, hs⟩
    exact (bufferStatus_extract.mp hs).1
  · intro h
    exact ⟨_, rfl, bufferStatusWord_of_word h⟩

theorem statusFlags_iff {w : UInt32} {n : Nat} (hn : n < 4) :
    w &&& 0x18 = UInt32.ofNat (n * 2 ^ 3) ↔ w.toNat / 2 ^ 3 % 4 = n := by
  have h := and_shifted_mask (n := w.toNat) (m := 3) 3 (by decide)
  rw [← UInt32.toNat_inj, UInt32.toNat_and, UInt32.toNat_ofNat']
  have hmask : (0x18 : UInt32).toNat = 3 * 2 ^ 3 := rfl
  rw [hmask, h]
  omega

section Body

variable {options : ParseOptions} {b : List UInt8} {prologue : Prologue}

structure Frame (b : List UInt8) (prologue : Prologue) : Prop where
  length : b.length = 4 * prologue.header.packetSizeWords.toNat
  size : words b = prologue.header.packetSizeWords.toNat
  words_ge : 7 ≤ words b

theorem data_iff (hframe : Frame b prologue) : (∃ x, Parser.parseData b prologue ⟨options⟩ = .ok x) ↔
    PaddingRule options b prologue.classId.informationClass prologue.classId.packetClass
      prologue.classId.padBitCount.toNat := by
  obtain ⟨hlen, hwords, hge⟩ := hframe
  have hsize := prologue.header.packetSizeWords.toNat_lt
  have hdrop : (b.drop prologueBytes).length = b.length - 28 := List.length_drop
  simp only [parseData_eq_ok hlen, exists_and_left, exists_eq, and_true]
  rw [Padding.validateDataPadding_verdict _ (by rw [hdrop]; simp only [usizeLimit]; omega), hdrop,
    permitsDataPadding_iff]
  have hzero : prologue.classId.padBitCount = 0 ↔ prologue.classId.padBitCount.toNat = 0 := byte_eq_zero_iff
  by_cases hpad : prologue.classId.padBitCount = 0
  · rw [if_pos hpad]
    refine ⟨fun _ => .inl (hzero.mp hpad), fun _ => ⟨by omega, fun h => absurd hpad h, rfl⟩⟩
  · rw [if_neg hpad, ite_err_eq_ok, ite_eq_ok, gt_iff_lt, Nat.not_lt, PaddingRule, ← hzero, or_iff_right hpad]
    constructor
    · rintro ⟨-, hallowed, h⟩
      exact ⟨hallowed hpad, h⟩
    · rintro ⟨hallowed, h⟩
      exact ⟨by omega, fun _ => hallowed, h⟩

theorem signalContext_iff (hframe : Frame b prologue) :
    (∃ x, Parser.parseSignalContext b prologue ⟨options⟩ = .ok x) ↔
      prologue.classId.padBitCount.toNat = 0 ∧ BodyRule b .standardFlowSignalContext := by
  obtain ⟨hlen, hwords, hge⟩ := hframe
  have hformat : (∃ f, PayloadFormat.parse (wordAt b 25) (wordAt b 26) = .ok f) ↔ _ := payloadFormat_iff
  simp only [parseSignalContext_eq_ok hlen, exists_and_left, @exists_comm SignalContextPacket, exists_eq,
    and_true, hformat, BodyRule, hwords, size_eq_iff, byte_eq_zero_iff, doubleAt_toNat, wordAt_eq_iff,
    List.mem_cons, List.not_mem_nil, or_false, wordAt_toNat]
  constructor
  · rintro ⟨hsize, hpad, hcif, hbw, hsr, hif, hrf, hbo, hformat⟩
    exact ⟨hpad, hsize, hcif, hbw, hif, hrf, hbo, hsr, hformat⟩
  · rintro ⟨hpad, hsize, hcif, hbw, hif, hrf, hbo, hsr, hformat⟩
    exact ⟨hsize, hpad, hcif, hbw, hsr, hif, hrf, hbo, hformat⟩

theorem versionContext_iff (hframe : Frame b prologue) :
    (∃ x, Parser.parseVersionContext b prologue ⟨options⟩ = .ok x) ↔
      prologue.classId.padBitCount.toNat = 0 ∧ BodyRule b .versionFlowSignalContext := by
  obtain ⟨hlen, hwords, hge⟩ := hframe
  simp only [parseVersionContext_eq_ok hlen, exists_and_left, @exists_comm VersionContextPacket, exists_eq,
    and_true, versionWord_iff, BodyRule, hwords, size_eq_iff, byte_eq_zero_iff, wordAt_eq_iff,
    List.mem_cons, List.not_mem_nil, or_false, wordAt_toNat]
  exact and_left_comm

theorem timingFlowControl_iff (hframe : Frame b prologue) :
    (∃ x, Parser.parseTimingFlowControl b prologue ⟨options⟩ = .ok x) ↔
      prologue.classId.padBitCount.toNat = 0 ∧ BodyRule b .sampleCountTimingFlowControl := by
  obtain ⟨hlen, hwords, hge⟩ := hframe
  have hstatus : (∃ s, s.raw = wordAt b 20 ∧ BufferStatusWord s) ↔ _ := bufferStatus_iff
  simp only [parseTimingFlowControl_eq_ok hlen, exists_and_left, @exists_comm TimingFlowControlPacket,
    exists_eq, and_true, hstatus, BodyRule, hwords, size_eq_iff, byte_eq_zero_iff, doubleAt_toNat,
    wordAt_eq_iff, wordAt_toNat]
  exact and_left_comm

theorem sinkCapabilitiesQuery_iff (hframe : Frame b prologue) :
    (∃ x, Parser.parseSinkCapabilitiesQuery b prologue ⟨options⟩ = .ok x) ↔
      prologue.classId.padBitCount.toNat = 0 ∧ BodyRule b .sinkCapabilitiesQuery := by
  obtain ⟨hlen, hwords, hge⟩ := hframe
  simp only [parseSinkCapabilitiesQuery_eq_ok hlen, exists_and_left, exists_or, exists_eq, and_true, BodyRule,
    hwords, size_eq_iff, byte_eq_zero_iff, wordAt_eq_iff]
  exact Iff.rfl

theorem sinkCapabilitiesResponse_iff (hframe : Frame b prologue) :
    (∃ x, Parser.parseSinkCapabilitiesResponse b prologue ⟨options⟩ = .ok x) ↔
      prologue.classId.padBitCount.toNat = 0 ∧ BodyRule b .sinkCapabilitiesResponse := by
  obtain ⟨hlen, hwords, hge⟩ := hframe
  simp only [parseSinkCapabilitiesResponse_eq_ok hlen, exists_and_left, exists_or, exists_eq, and_true, BodyRule,
    hwords, size_eq_iff, byte_eq_zero_iff, wordAt_eq_iff]
  exact Iff.rfl

theorem statusReport_iff (hframe : Frame b prologue) :
    (∃ x, Parser.parseStatusReport b prologue ⟨options⟩ = .ok x) ↔
      prologue.classId.padBitCount.toNat = 0 ∧ BodyRule b .statusReport := by
  obtain ⟨hlen, hwords, hge⟩ := hframe
  have hflags (n : Nat) (hn : n < 4) :
      wordAt b 14 &&& 0x18 = UInt32.ofNat (n * 2 ^ 3) ↔ word b 14 / 2 ^ 3 % 4 = n := by
    rw [statusFlags_iff hn, wordAt_toNat]
  have h0 := hflags 0 (by decide)
  have h2 := hflags 2 (by decide)
  have h3 := hflags 3 (by decide)
  simp only [parseStatusReport_eq_ok hlen, exists_and_left, exists_eq, and_true, BodyRule, hwords,
    byte_eq_zero_iff, wordAt_eq_iff, doubleAt_toNat, ← h0, ← h2, ← h3]
  have hsize (k : UInt16) :
      prologue.header.packetSizeWords = k ↔ prologue.header.packetSizeWords.toNat = k.toNat :=
    size_eq_iff
  constructor
  · rintro ⟨hsizes, hpad, hcam, hcif0, hcif1, hbits, hlimits⟩
    refine ⟨hpad, hcam, hcif0, hcif1, ?_⟩
    rcases hsizes with h | h | h
    · rw [h] at hbits ⊢
      exact .inl ⟨rfl, hbits⟩
    · rw [h] at hbits ⊢
      exact .inr (.inl ⟨rfl, hbits⟩)
    · have hlimits := hlimits h
      rw [h] at hbits ⊢
      exact .inr (.inr ⟨rfl, hbits, hlimits⟩)
  · rintro ⟨hpad, hcam, hcif0, hcif1, ⟨h, hbits⟩ | ⟨h, hbits⟩ | ⟨h, hbits, hlimits⟩⟩
    · rw [(hsize 15).mpr h]
      exact ⟨.inl rfl, hpad, hcam, hcif0, hcif1, hbits, fun h => absurd h (by decide)⟩
    · rw [(hsize 17).mpr h]
      exact ⟨.inr (.inl rfl), hpad, hcam, hcif0, hcif1, hbits, fun h => absurd h (by decide)⟩
    · rw [(hsize 21).mpr h]
      exact ⟨.inr (.inr rfl), hpad, hcam, hcif0, hcif1, hbits, fun _ => hlimits⟩

theorem decodeAs_iff (hframe : Frame b prologue) :
    (∃ p, decodeAs (classVariant prologue.classId.packetClass) b prologue ⟨options⟩ = .ok p) ↔
      PaddingRule options b prologue.classId.informationClass prologue.classId.packetClass
        prologue.classId.padBitCount.toNat ∧ BodyRule b prologue.classId.packetClass := by
  have hmap {α : Type} {x : Result α} (f : α → Packet) : (∃ p, x.map f = .ok p) ↔ ∃ a, x = .ok a := by
    cases x <;> simp [Outcome.map]
  have hrule (h : classVariant prologue.classId.packetClass ≠ .signalData) :
      PaddingRule options b prologue.classId.informationClass prologue.classId.packetClass
        prologue.classId.padBitCount.toNat ↔ prologue.classId.padBitCount.toNat = 0 :=
    paddingRule_iff h
  cases hclass : prologue.classId.packetClass with
  | standardFlowSignalData | sampleCountSignalData =>
      rw [← hclass, ← data_iff hframe, hclass]
      exact (hmap _).trans (and_iff_left trivial).symm
  | _ =>
      rw [hclass] at hrule
      rw [hrule (by decide)]
      refine (hmap _).trans ?_
      first
        | exact signalContext_iff hframe
        | exact versionContext_iff hframe
        | exact timingFlowControl_iff hframe
        | exact sinkCapabilitiesQuery_iff hframe
        | exact sinkCapabilitiesResponse_iff hframe
        | exact statusReport_iff hframe

theorem word_lt (b : List UInt8) (k : Nat) : word b k < 2 ^ 32 := by
  rw [← wordAt_toNat]
  exact UInt32.toNat_lt _

theorem frame_of_words (hform : PrologueForm prologue) (hw : WordsFrom b 0 (prologueLayout prologue))
    (hlen : b.length = 4 * words b) (hge : 7 ≤ words b) : Frame b prologue := by
  have hraw := (wordsFrom_prologue.mp hw).1
  have hsize : words b = prologue.header.packetSizeWords.toNat := by
    rw [words, ← wordAt_toNat, hraw, (headerWord_digits hform.header).2.2.2.2.2.2]
  exact ⟨by rw [hlen, hsize], hsize, hge⟩

theorem exact_iff : (∃ p, Parser.parsePacketExactWithOptions b options = .ok p) ↔
    (b.length = 4 * words b ∧ 7 ≤ words b) ∧
      ∃ prologue, PrologueForm prologue ∧ WordsFrom b 0 (prologueLayout prologue) ∧
        profileChecks ⟨options⟩ prologue.header prologue.classId = .ok () ∧
        ∃ p, decodeAs (classVariant prologue.classId.packetClass) b prologue ⟨options⟩ = .ok p := by
  constructor
  · rintro ⟨p, hp⟩
    obtain ⟨⟨hwell, hd, hverdict⟩, rfl⟩ := parsePacketExact_eq_ok.mp hp
    obtain ⟨hw, hdrop⟩ := encode_words hwell.body
    have hlen := encode_length hwell.body
    have h28 := prologueBytes_le hwell.body
    have hsize : words (encode p) = p.prologue.header.packetSizeWords.toNat := by
      rw [words, ← wordAt_toNat, (wordsFrom_prologue.mp hw).1,
        (headerWord_digits hwell.prologue.header).2.2.2.2.2.2]
    have hseven : 7 ≤ words (encode p) := by
      rw [hsize]
      exact Nat.le_of_mul_le_mul_left (c := 4) h28 (by decide)
    obtain ⟨hchecks, hpermit⟩ := Outcome.check_eq_ok.mp hverdict
    refine ⟨⟨by rw [hlen, hsize], hseven⟩, p.prologue, hwell.prologue, hw, hchecks, p, ?_⟩
    refine (decodeAs_eq_ok hlen (by rw [hlen]; exact h28)).mpr ⟨hd, rfl, hwell.body, hpermit, hdrop⟩
  · rintro ⟨⟨hlen, hge⟩, prologue, hform, hw, hchecks, p, hp⟩
    have hframe := frame_of_words hform hw hlen hge
    have h28 : prologueBytes ≤ b.length := by
      rw [hlen]
      exact Nat.mul_le_mul_left 4 hge
    have hsize : b.length = 4 * (declaredSize b).toNat := by
      rw [declaredSize, (wordsFrom_prologue.mp hw).1, headerWord_size hform.header, hframe.length]
    have hsingle : Parser.parseSinglePacket b ⟨options⟩ = .ok p := by
      rw [parseSinglePacket_prologue _ h28 hform hw, hchecks]
      exact hp
    obtain ⟨hwell, hd, hverdict, hb⟩ := parseSinglePacket_wellFormed hsize h28 hsingle
    exact ⟨p, parsePacketExact_eq_ok.mpr ⟨⟨hwell, hd, hverdict⟩, hb⟩⟩

theorem opening_iff (hform : PrologueForm prologue) (hw : WordsFrom b 0 (prologueLayout prologue)) :
    Opening options b prologue.classId.informationClass prologue.classId.packetClass ↔
      profileChecks ⟨options⟩ prologue.header prologue.classId = .ok () := by
  obtain ⟨h0, -, h2, h3, -⟩ := wordsFrom_prologue.mp hw
  obtain ⟨htype, hind, hbits, htsi, htsf, -, -⟩ := headerWord_digits hform.header
  have hclass0 := classIdWord0_toNat hform.classId
  have hclass1 : (classIdWord1 prologue.classId).toNat = _ := joinHalves_toNat _ _
  rw [← h0, wordAt_toNat] at htype hind hbits htsi htsf
  rw [← h2, wordAt_toNat] at hclass0
  rw [← h3, wordAt_toNat] at hclass1
  rw [hform.classIdIndicator] at hind
  have hchecks := profileChecks_iff options prologue.classId hform.header
  rw [and_iff_right hform.classIdIndicator, and_iff_right hform.classIdIndicator, htype, htsf, hbits] at hchecks
  rw [hchecks]
  constructor
  · rintro ⟨-, -, -, -, -, hlisted, hnibble, hcode, hspecific⟩
    exact ⟨hlisted, hnibble, hcode, hspecific⟩
  · rintro ⟨hlisted, hnibble, hcode, hspecific⟩
    refine ⟨hind.symm, ?_, by omega, by omega, hclass1, hlisted, hnibble, hcode, hspecific⟩
    rw [← htsi]
    cases prologue.header.tsi <;> decide

theorem padBitCount_word (hform : PrologueForm prologue) (hw : WordsFrom b 0 (prologueLayout prologue)) :
    word b 2 / 2 ^ 27 = prologue.classId.padBitCount.toNat := by
  obtain ⟨-, -, h2, -⟩ := wordsFrom_prologue.mp hw
  have hclass0 := classIdWord0_toNat hform.classId
  rw [← h2, wordAt_toNat] at hclass0
  omega

theorem opening_prologue {information : InformationClassCode} {packetClass : PacketClassCode}
    (h : Opening options b information packetClass) :
    ∃ prologue, PrologueForm prologue ∧ WordsFrom b 0 (prologueLayout prologue) ∧
      prologue.classId.informationClass = information ∧ prologue.classId.packetClass = packetClass := by
  have h2 := word_lt b 2
  obtain ⟨t, ht⟩ := packetType_of_nibble h.packetType
  obtain ⟨tsi, htsi⟩ := tsi_of_code h.tsi
  obtain ⟨tsf, htsf⟩ := tsf_of_code h.tsf
  rw [← wordAt_toNat] at ht htsi htsf
  obtain ⟨header, hraw, hheader⟩ := exists_headerWord ht htsi htsf
  have hpad : (UInt8.ofNat (word b 2 / 2 ^ 27)).toNat = word b 2 / 2 ^ 27 := by
    rw [UInt8.toNat_ofNat']
    omega
  let classId : ClassId := ⟨UInt8.ofNat (word b 2 / 2 ^ 27), difiCid, information, packetClass⟩
  have hclassId : ClassIdWord classId := ⟨by rw [hpad]; omega, rfl⟩
  have hword0 : wordAt b 2 = classIdWord0 classId := by
    have houi := h.oui
    have hreserved := h.reserved
    rw [wordAt_eq_iff, classIdWord0_toNat hclassId, hpad]
    omega
  have hword1 : wordAt b 3 = classIdWord1 classId := by
    rw [wordAt_eq_iff, classIdWord1, joinHalves_toNat, h.classes]
  have hindicator : header.classIdIndicator = true := by
    have hdigit := (headerWord_digits hheader).2.1
    rw [hraw, wordAt_toNat, h.classIdIndicator] at hdigit
    cases hi : header.classIdIndicator with
    | true => rfl
    | false =>
        rw [hi] at hdigit
        cases hdigit
  refine ⟨⟨header, wordAt b 1, classId, wordAt b 4, doubleAt b 5⟩, ⟨hheader, hindicator, hclassId⟩, ?_, rfl, rfl⟩
  exact wordsFrom_prologue.mpr ⟨hraw.symm, rfl, hword0, hword1, rfl, rfl⟩

theorem sentence_iff (hform : PrologueForm prologue) (hw : WordsFrom b 0 (prologueLayout prologue)) :
    Sentence options b prologue.classId.informationClass prologue.classId.packetClass ↔
      (b.length = 4 * words b ∧ 7 ≤ words b) ∧
        profileChecks ⟨options⟩ prologue.header prologue.classId = .ok () ∧
        ∃ p, decodeAs (classVariant prologue.classId.packetClass) b prologue ⟨options⟩ = .ok p := by
  rw [sentence_parts, opening_iff hform hw, padBitCount_word hform hw]
  refine and_congr_right fun ⟨hlen, hge⟩ => and_congr_right fun _ => ?_
  exact (decodeAs_iff (frame_of_words hform hw hlen hge)).symm

end Body

/-- The exact parser accepts exactly the sentences of the grammar. -/
theorem parser_accepts_grammar (b : List UInt8) (options : ParseOptions) :
    (∃ p, Parser.parsePacketExactWithOptions b options = .ok p) ↔
      ∃ information packetClass, Sentence options b information packetClass := by
  rw [exact_iff]
  constructor
  · rintro ⟨hsize, prologue, hform, hw, h⟩
    exact ⟨_, _, (sentence_iff hform hw).mpr ⟨hsize, h⟩⟩
  · rintro ⟨information, packetClass, h⟩
    obtain ⟨prologue, hform, hw, rfl, rfl⟩ := opening_prologue (sentence_parts.mp h).2.1
    obtain ⟨hsize, hrest⟩ := (sentence_iff hform hw).mp h
    exact ⟨hsize, prologue, hform, hw, hrest⟩

end Difi.Grammar
