import Difi.Profiles
import Difi.Storing

namespace Difi.WriterProfiles

open Machine Outcome Checks Fields Layout Decoding Acceptance Preparation Storing Grammar Profiles

section Mode

variable {standard : DifiStandardVersion}

theorem writePacket_mode (h : standard = .v1_1 ∨ standard = .v1_3_0) (m n : CompatibilityMode) (p : Packet) :
    Writer.writePacketWithOptions p ⟨standard, m⟩ = Writer.writePacketWithOptions p ⟨standard, n⟩ := by
  have hprologue (plan : WritePlan) : Writer.validatePrologue p.prologue plan ⟨standard, m⟩ =
      Writer.validatePrologue p.prologue plan ⟨standard, n⟩ := by
    simp only [Writer.validatePrologue, Writer.profile, StandardProfile.validatePacketTypeAvailable,
      packetTypeAvailable_mode h m n, validatePacketTypeClass_mode h m n]
    rfl
  have hprepare : Writer.preparePacket p ⟨standard, m⟩ = Writer.preparePacket p ⟨standard, n⟩ := by
    simp only [Writer.preparePacket, hprologue]
    rfl
  simp only [Writer.writePacketWithOptions, hprepare]

end Mode

section Tables

variable {options : WriteOptions} {p : Packet}

/-- The writer takes a packet under a standard. How much room there is does not matter. -/
def Writes (options : WriteOptions) (p : Packet) : Prop :=
  ∃ n, Writer.encodedLenWithOptions p options = .ok n

structure Canonical (p : Packet) : Prop where
  wellFormed : WellFormed p
  bits : Writer.canonicalTypeSpecificBits p = .ok p.prologue.header.typeSpecificBits
  fields : FieldsAgree p
  padded : p.prologue.classId.padBitCount ≠ 0 → classVariant p.prologue.classId.packetClass = .signalData

theorem signalData_of_padded (h : WellFormed p) (hne : p.prologue.classId.padBitCount ≠ 0) :
    variant p = .signalData := by
  have hbody := h.body
  cases p with
  | signalData p => rfl
  | _ => exact absurd hbody.padding hne

theorem paddingAllowed_class {standard : ParseOptions} {i : InformationClassCode} {c : PacketClassCode}
    (h : PaddingAllowed standard i c) : classVariant c = .signalData := by
  obtain ⟨-, rfl | ⟨rfl, -⟩⟩ := h
  · rfl
  · rfl

theorem paddingPermission_eq_ok (h : WellFormed p) {standard : ParseOptions} :
    paddingPermission ⟨standard⟩ p = .ok () ↔ (p.prologue.classId.padBitCount ≠ 0 →
      PaddingAllowed standard p.prologue.classId.informationClass p.prologue.classId.packetClass) := by
  have hdata := signalData_of_padded h
  cases p with
  | signalData p => rw [paddingPermission_signalData, permitsDataPadding_iff]; rfl
  | _ => exact iff_of_true rfl fun hne => absurd (hdata hne) (by simp [variant])

theorem writes_iff : Writes options p ↔
    Canonical p ∧ Admitted (parseOptions options) p.prologue.header.packetType p.prologue.classId := by
  simp only [Writes, encodedLen_eq_ok, exists_and_left, exists_eq, and_true]
  constructor
  · rintro ⟨hwell, hbits, hverdict⟩
    obtain ⟨hchecks, hpermit⟩ := check_eq_ok.mp hverdict
    have hpadding := (paddingPermission_eq_ok hwell).mp hpermit
    have hindicator := hwell.prologue.classIdIndicator
    obtain ⟨-, hlisted, hnibble, htsf, hspecific⟩ :=
      (profileChecks_iff _ _ hwell.prologue.header).mp ⟨hindicator, hchecks⟩
    exact ⟨⟨hwell, hbits, ⟨htsf, hspecific⟩, fun hne => paddingAllowed_class (hpadding hne)⟩, hlisted, hnibble,
      fun _ => hpadding⟩
  · rintro ⟨⟨hwell, hbits, ⟨htsf, hspecific⟩, hpadded⟩, hlisted, hnibble, hpadding⟩
    have hindicator := hwell.prologue.classIdIndicator
    refine ⟨hwell, hbits, check_eq_ok.mpr ⟨?_, (paddingPermission_eq_ok hwell).mpr fun hne => ?_⟩⟩
    · exact ((profileChecks_iff _ _ hwell.prologue.header).mpr ⟨hindicator, hlisted, hnibble, htsf, hspecific⟩).2
    · exact hpadding (hpadded hne) hne

end Tables

/-- The standards are nested for the writer as they are for the parser, and none of
them changes the bytes of a packet. -/
theorem writer_profiles_nested :
    (∀ p out o₁ o₂ n₁ n₂ out₁ out₂, Writer.writePacketWithOptions p o₁ out = (.ok n₁, out₁) →
      Writer.writePacketWithOptions p o₂ out = (.ok n₂, out₂) → n₁ = n₂ ∧ out₁ = out₂) ∧
    (∀ p m n, Writer.writePacketWithOptions p ⟨.v1_1, m⟩ = Writer.writePacketWithOptions p ⟨.v1_1, n⟩ ∧
      Writer.writePacketWithOptions p ⟨.v1_3_0, m⟩ = Writer.writePacketWithOptions p ⟨.v1_3_0, n⟩) ∧
    (∀ p m, Writes ⟨.v1_2_1, .strict⟩ p ↔
      Writes ⟨.v1_3_0, m⟩ p ∧ p.prologue.classId.informationClass.raw.toNat < 0x0100) ∧
    (∀ p m, Writes ⟨.v1_2_1, .legacyVersionPacketType⟩ p ↔ Writes ⟨.v1_2_1, .strict⟩ p ∨
      (Writes ⟨.v1_1, m⟩ p ∧ p.prologue.header.packetType = .versionWithStreamId)) ∧
    (∀ p m, Writes ⟨.v1_1, m⟩ p ↔ Writes ⟨.v1_2_1, .legacyVersionPacketType⟩ p ∧
      (p.prologue.header.packetType = .versionWithStreamId ∨
        p.prologue.classId.informationClass = .basicDataPlane)) := by
  have hfive (t : PacketType) : t.code.toNat = 5 ↔ t = .versionWithStreamId := by
    cases t <;> decide
  have hzero (i : InformationClassCode) : i.raw.toNat = 0 ↔ i = .basicDataPlane := by
    cases i <;> decide
  refine ⟨fun p out o₁ o₂ n₁ n₂ out₁ out₂ h₁ h₂ => ?_, fun p m n => ?_, fun p m => ?_, fun p m => ?_,
    fun p m => ?_⟩
  · obtain ⟨hn₁, -, rfl⟩ := (writePacket_commits p o₁).eq_ok_iff.mp h₁
    obtain ⟨hn₂, -, rfl⟩ := (writePacket_commits p o₂).eq_ok_iff.mp h₂
    obtain rfl := (writePacket_commits p o₁).1 _ hn₁
    obtain rfl := (writePacket_commits p o₂).1 _ hn₂
    exact ⟨rfl, rfl⟩
  · exact ⟨writePacket_mode (.inl rfl) m n p, writePacket_mode (.inr rfl) m n p⟩
  · rw [writes_iff, writes_iff, and_assoc]
    exact and_congr_right fun _ => admitted_strict
  · rw [writes_iff, writes_iff, writes_iff, ← hfive, and_assoc, ← and_or_left]
    exact and_congr_right fun _ => admitted_legacy
  · rw [writes_iff, writes_iff, ← hfive, ← hzero, and_assoc]
    exact and_congr_right fun _ => admitted_first

end Difi.WriterProfiles
