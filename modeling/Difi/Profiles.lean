import Difi.Grammar

namespace Difi.Profiles

open Machine Checks Fields Layout Decoding Acceptance Grammar Difi.Parser

section Mode

variable {standard : DifiStandardVersion}

theorem packetTypeAvailable_mode (h : standard = .v1_1 ∨ standard = .v1_3_0) (m n : CompatibilityMode)
    (t : PacketType) : (StandardProfile.mk ⟨standard, m⟩).packetTypeAvailable t =
      (StandardProfile.mk ⟨standard, n⟩).packetTypeAvailable t := by
  rcases h with rfl | rfl
  · rfl
  · rfl

theorem validatePacketTypeClass_mode (h : standard = .v1_1 ∨ standard = .v1_3_0) (m n : CompatibilityMode)
    (t : PacketType) (c : PacketClassCode) : (StandardProfile.mk ⟨standard, m⟩).validatePacketTypeClass t c =
      (StandardProfile.mk ⟨standard, n⟩).validatePacketTypeClass t c := by
  rcases h with rfl | rfl
  · cases t <;> rfl
  · cases t <;> rfl

theorem parseSinglePacket_mode (h : standard = .v1_1 ∨ standard = .v1_3_0) (m n : CompatibilityMode)
    (b : List UInt8) : parseSinglePacket b ⟨⟨standard, m⟩⟩ = parseSinglePacket b ⟨⟨standard, n⟩⟩ := by
  simp only [parseSinglePacket, StandardProfile.validatePacketTypeAvailable, packetTypeAvailable_mode h m n,
    validatePacketTypeClass_mode h m n]
  rfl

theorem parsePacketPrefix_mode (h : standard = .v1_1 ∨ standard = .v1_3_0) (m n : CompatibilityMode)
    (b : List UInt8) : parsePacketPrefixWithOptions b ⟨standard, m⟩ =
      parsePacketPrefixWithOptions b ⟨standard, n⟩ := by
  simp only [parsePacketPrefixWithOptions, parseSinglePacket_mode h m n]

end Mode

/-- The bytes start with a packet that the standard admits. -/
def Accepts (options : ParseOptions) (b : List UInt8) : Prop :=
  ∃ result, parsePacketPrefixWithOptions b options = .ok result

theorem parsePacketPrefix_unique {b : List UInt8} {o₁ o₂ : ParseOptions} {r₁ r₂ : Packet × List UInt8}
    (h₁ : parsePacketPrefixWithOptions b o₁ = .ok r₁) (h₂ : parsePacketPrefixWithOptions b o₂ = .ok r₂) :
    r₁ = r₂ := by
  obtain ⟨p, rest⟩ := r₁
  obtain ⟨hwell, hd, -, rfl⟩ := parsePacketPrefix_ok h₁
  rw [parsePacketPrefix_encode o₂ rest hwell hd] at h₂
  obtain ⟨-, h₂⟩ := Outcome.check_eq_ok.mp h₂
  cases h₂
  rfl

section Tables

/-- What the tables of a standard say about a packet type, an information class
and a packet class, and about a payload with padding bits. -/
structure Admitted (options : ParseOptions) (t : PacketType) (classId : ClassId) : Prop where
  listed : (StandardProfile.mk options).allowsPacketClass classId.informationClass classId.packetClass = true
  nibble : t.code.toNat ∈ typeNibbles options classId.packetClass
  padding : classVariant classId.packetClass = .signalData → classId.padBitCount ≠ 0 →
    PaddingAllowed options classId.informationClass classId.packetClass

/-- The part of the verdict on a packet that no standard changes. -/
def FieldsAgree (p : Packet) : Prop :=
  p.prologue.header.tsf.code.toNat ∈ tsfCodes p.prologue.classId.packetClass ∧
    p.prologue.header.typeSpecificBits.toNat =
      typeSpecific p.prologue.classId.informationClass p.prologue.classId.packetClass

theorem paddingPermission_iff {options : ParseOptions} {p : Packet} (hd : Dispatched p) :
    paddingPermission ⟨options⟩ p = .ok () ↔
      (classVariant p.prologue.classId.packetClass = .signalData → p.prologue.classId.padBitCount ≠ 0 →
        PaddingAllowed options p.prologue.classId.informationClass p.prologue.classId.packetClass) := by
  rw [← hd]
  cases p with
  | signalData p =>
      rw [paddingPermission_signalData, permitsDataPadding_iff]
      exact (imp_iff_right rfl).symm
  | _ => simp [paddingPermission, variant]

theorem verdict_iff {options : ParseOptions} {p : Packet} (hwell : WellFormed p) (hd : Dispatched p) :
    verdict ⟨options⟩ p = .ok () ↔
      FieldsAgree p ∧ Admitted options p.prologue.header.packetType p.prologue.classId := by
  have hchecks := profileChecks_iff options p.prologue.classId hwell.prologue.header
  rw [and_iff_right hwell.prologue.classIdIndicator, and_iff_right hwell.prologue.classIdIndicator] at hchecks
  rw [verdict, Outcome.check_eq_ok, hchecks, paddingPermission_iff hd]
  constructor
  · rintro ⟨⟨hlisted, hnibble, htsf, hbits⟩, hpad⟩
    exact ⟨⟨htsf, hbits⟩, hlisted, hnibble, hpad⟩
  · rintro ⟨⟨htsf, hbits⟩, hlisted, hnibble, hpad⟩
    exact ⟨⟨hlisted, hnibble, htsf, hbits⟩, hpad⟩

theorem accepts_iff {options : ParseOptions} {b : List UInt8} : Accepts options b ↔
    ∃ p rest, WellFormed p ∧ Dispatched p ∧ FieldsAgree p ∧ b = encode p ++ rest ∧
      Admitted options p.prologue.header.packetType p.prologue.classId := by
  constructor
  · rintro ⟨⟨p, rest⟩, h⟩
    obtain ⟨⟨hwell, hd, hverdict⟩, hb⟩ := parsePacketPrefix_eq_ok.mp h
    obtain ⟨hfields, hadmitted⟩ := (verdict_iff hwell hd).mp hverdict
    exact ⟨p, rest, hwell, hd, hfields, hb, hadmitted⟩
  · rintro ⟨p, rest, hwell, hd, hfields, hb, hadmitted⟩
    have hverdict := (verdict_iff hwell hd).mpr ⟨hfields, hadmitted⟩
    exact ⟨(p, rest), parsePacketPrefix_eq_ok.mpr ⟨⟨hwell, hd, hverdict⟩, hb⟩⟩

theorem framed_or_rejected (b : List UInt8) :
    (∃ p rest, WellFormed p ∧ Dispatched p ∧ FieldsAgree p ∧ b = encode p ++ rest) ∨
      ∀ options, ¬Accepts options b := by
  by_cases h : ∃ p rest, WellFormed p ∧ Dispatched p ∧ FieldsAgree p ∧ b = encode p ++ rest
  · exact .inl h
  · refine .inr fun options haccepts => h ?_
    obtain ⟨p, rest, hwell, hd, hfields, hb, -⟩ := accepts_iff.mp haccepts
    exact ⟨p, rest, hwell, hd, hfields, hb⟩

theorem accepts_encode {options : ParseOptions} {p : Packet} {rest : List UInt8} (hwell : WellFormed p)
    (hd : Dispatched p) (hfields : FieldsAgree p) : Accepts options (encode p ++ rest) ↔
      Admitted options p.prologue.header.packetType p.prologue.classId := by
  rw [Accepts, parsePacketPrefix_encode options rest hwell hd]
  simp only [Outcome.check_eq_ok, verdict_iff hwell hd, exists_and_left, Outcome.ok.injEq, exists_eq', and_true]
  exact and_iff_right hfields

theorem nibble_encode {p : Packet} {rest : List UInt8} (hwell : WellFormed p) :
    word (encode p ++ rest) 0 / 2 ^ 28 = p.prologue.header.packetType.code.toNat := by
  rw [← wordAt_toNat, wordAt_encode_append hwell.body, (headerWord_digits hwell.prologue.header).1]

theorem classes_encode {p : Packet} {rest : List UInt8} (hwell : WellFormed p) :
    word (encode p ++ rest) 3 / 2 ^ 16 = p.prologue.classId.informationClass.raw.toNat := by
  have hlen := encode_length hwell.body
  have hle := prologueBytes_le hwell.body
  have h28 : prologueBytes = 28 := rfl
  have hlow := p.prologue.classId.packetClass.raw.toNat_lt
  have hword := (wordsFrom_prologue.mp (encode_words hwell.body).1).2.2.2.1
  rw [← wordAt_toNat, wordAt_append _ _ _ (by omega), hword, classIdWord1, joinHalves_toNat]
  omega

theorem allows_strict {i : InformationClassCode} {c : PacketClassCode} {m n : CompatibilityMode} :
    (StandardProfile.mk ⟨.v1_2_1, m⟩).allowsPacketClass i c = true ↔
      (StandardProfile.mk ⟨.v1_3_0, n⟩).allowsPacketClass i c = true ∧ i.raw.toNat < 0x0100 := by
  cases i with
  | basicDataPlane | versionFlow | dataPlaneUpstreamFlowControlSampleCount
  | dataPlaneUpstreamFlowControlRealTime | basicDataPlaneSampleCount
  | dataPlaneDownstreamFlowControlSampleCount | dataPlaneDownstreamFlowControlRealTime =>
      exact (and_iff_left (by decide)).symm
  | _ => exact ⟨fun h => absurd h Bool.false_ne_true, fun h => absurd h.2 (by decide)⟩

theorem admitted_strict {t : PacketType} {classId : ClassId} {m : CompatibilityMode} :
    Admitted ⟨.v1_2_1, .strict⟩ t classId ↔
      Admitted ⟨.v1_3_0, m⟩ t classId ∧ classId.informationClass.raw.toNat < 0x0100 := by
  have hnibbles : typeNibbles ⟨.v1_2_1, .strict⟩ classId.packetClass =
      typeNibbles ⟨.v1_3_0, m⟩ classId.packetClass := by
    cases classId.packetClass <;> rfl
  have hpadding : PaddingAllowed ⟨.v1_2_1, .strict⟩ classId.informationClass classId.packetClass ↔
      PaddingAllowed ⟨.v1_3_0, m⟩ classId.informationClass classId.packetClass :=
    and_congr_left fun _ => by simp
  constructor
  · rintro ⟨hlisted, hnibble, hpad⟩
    obtain ⟨hlisted, hbelow⟩ := (allows_strict (n := m)).mp hlisted
    rw [hnibbles] at hnibble
    exact ⟨⟨hlisted, hnibble, fun hdata hne => hpadding.mp (hpad hdata hne)⟩, hbelow⟩
  · rintro ⟨⟨hlisted, hnibble, hpad⟩, hbelow⟩
    rw [← hnibbles] at hnibble
    exact ⟨allows_strict.mpr ⟨hlisted, hbelow⟩, hnibble, fun hdata hne => hpadding.mpr (hpad hdata hne)⟩

theorem allows_first {i : InformationClassCode} {c : PacketClassCode} {m : CompatibilityMode} :
    (StandardProfile.mk ⟨.v1_1, m⟩).allowsPacketClass i c = true ↔
      (i = .basicDataPlane ∧ (c = .standardFlowSignalData ∨ c = .standardFlowSignalContext)) ∨
        (i = .versionFlow ∧ c = .versionFlowSignalContext) := by
  cases i with
  | basicDataPlane =>
      cases c with
      | standardFlowSignalData => exact iff_of_true rfl (.inl ⟨rfl, .inl rfl⟩)
      | standardFlowSignalContext => exact iff_of_true rfl (.inl ⟨rfl, .inr rfl⟩)
      | _ => exact iff_of_false Bool.false_ne_true (by simp)
  | versionFlow =>
      cases c with
      | versionFlowSignalContext => exact iff_of_true rfl (.inr ⟨rfl, rfl⟩)
      | _ => exact iff_of_false Bool.false_ne_true (by simp)
  | _ => exact iff_of_false Bool.false_ne_true (by simp)

theorem typeNibbles_five {options : ParseOptions} {c : PacketClassCode} (h : 5 ∈ typeNibbles options c) :
    c = .versionFlowSignalContext := by
  cases c with
  | versionFlowSignalContext => rfl
  | _ => simp [typeNibbles] at h

theorem information_zero {i : InformationClassCode} (h : i.raw.toNat = 0) : i = .basicDataPlane := by
  cases i with
  | basicDataPlane => rfl
  | _ => exact absurd h (by decide)

/-- A version packet of the first standard is one of the second in legacy mode,
and the other way round. -/
theorem admitted_five {t : PacketType} {classId : ClassId} {m : CompatibilityMode} (ht : t.code.toNat = 5) :
    Admitted ⟨.v1_1, m⟩ t classId ↔ Admitted ⟨.v1_2_1, .legacyVersionPacketType⟩ t classId := by
  constructor
  · rintro ⟨hlisted, hnibble, -⟩
    rw [ht] at hnibble
    have hc := typeNibbles_five hnibble
    rcases allows_first.mp hlisted with ⟨-, h | h⟩ | ⟨hi, -⟩
    · exact absurd (h.symm.trans hc) (by decide)
    · exact absurd (h.symm.trans hc) (by decide)
    · refine ⟨?_, ?_, ?_⟩
      · rw [hi, hc]
        rfl
      · rw [ht, hc]
        decide
      · rw [hc]
        exact fun h => absurd h (by decide)
  · rintro ⟨hlisted, hnibble, -⟩
    rw [ht] at hnibble
    have hc := typeNibbles_five hnibble
    have hi : classId.informationClass = .versionFlow := by
      rw [hc] at hlisted
      cases hi : classId.informationClass with
      | versionFlow => rfl
      | _ =>
          rw [hi] at hlisted
          exact absurd hlisted Bool.false_ne_true
    refine ⟨?_, ?_, ?_⟩
    · rw [hi, hc]
      rfl
    · rw [ht, hc]
      exact List.mem_singleton.mpr rfl
    · rw [hc]
      exact fun h => absurd h (by decide)

theorem admitted_basic {t : PacketType} {classId : ClassId} {m : CompatibilityMode} (ht : t.code.toNat ≠ 5) :
    Admitted ⟨.v1_1, m⟩ t classId ↔ Admitted ⟨.v1_2_1, .legacyVersionPacketType⟩ t classId ∧
      classId.informationClass.raw.toNat = 0 := by
  constructor
  · rintro ⟨hlisted, hnibble, hpad⟩
    rcases allows_first.mp hlisted with ⟨hi, hc⟩ | ⟨-, hc⟩
    · rw [hi]
      refine ⟨⟨?_, ?_, fun hdata hne => absurd rfl (hpad hdata hne).1⟩, rfl⟩
      · rcases hc with hc | hc <;> rw [hi, hc] <;> rfl
      · rcases hc with hc | hc <;> rw [hc] at hnibble ⊢ <;> exact hnibble
    · rw [hc] at hnibble
      exact absurd (List.mem_singleton.mp hnibble) ht
  · rintro ⟨⟨hlisted, hnibble, hpad⟩, hi⟩
    have hi := information_zero hi
    have hc : classId.packetClass = .standardFlowSignalData ∨
        classId.packetClass = .standardFlowSignalContext := by
      rw [hi] at hlisted
      cases hc : classId.packetClass with
      | standardFlowSignalData => exact .inl rfl
      | standardFlowSignalContext => exact .inr rfl
      | _ =>
          rw [hc] at hlisted
          exact absurd hlisted Bool.false_ne_true
    refine ⟨allows_first.mpr (.inl ⟨hi, hc⟩), ?_, fun hdata hne => ?_⟩
    · rcases hc with hc | hc <;> rw [hc] at hnibble ⊢ <;> exact hnibble
    · obtain ⟨-, hsample | ⟨-, hbasic, -⟩⟩ := hpad hdata hne
      · rcases hc with hc | hc <;> exact absurd (hc.symm.trans hsample) (by decide)
      · exact absurd hi hbasic

theorem admitted_first {t : PacketType} {classId : ClassId} {m : CompatibilityMode} :
    Admitted ⟨.v1_1, m⟩ t classId ↔ Admitted ⟨.v1_2_1, .legacyVersionPacketType⟩ t classId ∧
      (t.code.toNat = 5 ∨ classId.informationClass.raw.toNat = 0) := by
  by_cases ht : t.code.toNat = 5
  · rw [admitted_five ht, and_iff_left (.inl ht)]
  · rw [admitted_basic ht, or_iff_right ht]

theorem admitted_legacy {t : PacketType} {classId : ClassId} {m : CompatibilityMode} :
    Admitted ⟨.v1_2_1, .legacyVersionPacketType⟩ t classId ↔ Admitted ⟨.v1_2_1, .strict⟩ t classId ∨
      (Admitted ⟨.v1_1, m⟩ t classId ∧ t.code.toNat = 5) := by
  by_cases ht : t.code.toNat = 5
  · have hnone : ¬Admitted ⟨.v1_2_1, .strict⟩ t classId := by
      rintro ⟨-, hnibble, -⟩
      rw [ht] at hnibble
      rw [typeNibbles_five hnibble] at hnibble
      exact absurd hnibble (by decide)
    rw [or_iff_right hnone, and_iff_left ht, admitted_five ht]
  · have hnibbles : t.code.toNat ∈ typeNibbles ⟨.v1_2_1, .legacyVersionPacketType⟩ classId.packetClass ↔
        t.code.toNat ∈ typeNibbles ⟨.v1_2_1, .strict⟩ classId.packetClass := by
      cases classId.packetClass with
      | versionFlowSignalContext => simp [typeNibbles, ht]
      | _ => exact Iff.rfl
    rw [or_iff_left (fun h => ht h.2)]
    constructor
    · rintro ⟨hlisted, hnibble, hpad⟩
      exact ⟨hlisted, hnibbles.mp hnibble, hpad⟩
    · rintro ⟨hlisted, hnibble, hpad⟩
      exact ⟨hlisted, hnibbles.mpr hnibble, hpad⟩

end Tables

/-- The standards are nested, and none of them changes how a packet is decoded. -/
theorem profiles_nested :
    (∀ b o₁ o₂ r₁ r₂, parsePacketPrefixWithOptions b o₁ = .ok r₁ →
      parsePacketPrefixWithOptions b o₂ = .ok r₂ → r₁ = r₂) ∧
    (∀ b m n, parsePacketPrefixWithOptions b ⟨.v1_1, m⟩ = parsePacketPrefixWithOptions b ⟨.v1_1, n⟩ ∧
      parsePacketPrefixWithOptions b ⟨.v1_3_0, m⟩ = parsePacketPrefixWithOptions b ⟨.v1_3_0, n⟩) ∧
    (∀ b m, Accepts ⟨.v1_2_1, .strict⟩ b ↔ Accepts ⟨.v1_3_0, m⟩ b ∧ word b 3 / 2 ^ 16 < 0x0100) ∧
    (∀ b m, Accepts ⟨.v1_2_1, .legacyVersionPacketType⟩ b ↔
      Accepts ⟨.v1_2_1, .strict⟩ b ∨ (Accepts ⟨.v1_1, m⟩ b ∧ word b 0 / 2 ^ 28 = 0x5)) ∧
    (∀ b m, Accepts ⟨.v1_1, m⟩ b ↔ Accepts ⟨.v1_2_1, .legacyVersionPacketType⟩ b ∧
      (word b 0 / 2 ^ 28 = 0x5 ∨ word b 3 / 2 ^ 16 = 0x0000)) := by
  refine ⟨fun b o₁ o₂ r₁ r₂ => parsePacketPrefix_unique, fun b m n => ?_, fun b m => ?_, fun b m => ?_,
    fun b m => ?_⟩
  · exact ⟨parsePacketPrefix_mode (.inl rfl) m n b, parsePacketPrefix_mode (.inr rfl) m n b⟩
  all_goals
    obtain ⟨p, rest, hwell, hd, hfields, rfl⟩ | hnone := framed_or_rejected b
  · rw [accepts_encode hwell hd hfields, accepts_encode hwell hd hfields, classes_encode hwell]
    exact admitted_strict
  · simp only [hnone, false_and]
  · rw [accepts_encode hwell hd hfields, accepts_encode hwell hd hfields, accepts_encode hwell hd hfields,
      nibble_encode hwell]
    exact admitted_legacy
  · simp only [hnone, false_and, or_false]
  · rw [accepts_encode hwell hd hfields, accepts_encode hwell hd hfields, nibble_encode hwell,
      classes_encode hwell]
    exact admitted_first
  · simp only [hnone, false_and]

end Difi.Profiles
