import Difi.BodyRefusals
import Difi.Diagnosis
import Difi.Storing

namespace Difi.WriterDiagnosis

open Machine Outcome Checks Fields Bodies Layout Decoding Acceptance Preparation Storing Grammar Faults Refusals
open BodyRefusals

section Rows

variable {p : Packet}

theorem wordsOf_eq (h : BodyForm p) : wordsOf p = p.prologue.header.packetSizeWords.toNat :=
  ((packetSizeWords_refused {} 0 p).2 _ (packetSizeWords_eq h)).symm

theorem pinnedPrologue_holds (h : WellFormed p)
    (hbits : Writer.canonicalTypeSpecificBits p = .ok p.prologue.header.typeSpecificBits) :
    ∀ row ∈ pinnedPrologue p, row.2.1 = row.2.2 := by
  have hcanonical := (canonicalBits_refused {} 0 p).2 _ hbits
  have hraw := h.prologue.header.raw
  rw [h.prologue.classIdIndicator] at hraw
  simp only [pinnedPrologue, List.forall_mem_cons]
  refine ⟨hcanonical.symm, ?_, wordsOf_eq h.body, ?_, ?_, ?_, by simp⟩
  · rw [h.prologue.classIdIndicator]
    rfl
  · rw [h.prologue.header.tsm]
  · rw [h.prologue.classId.oui]
    rfl
  · rw [hraw, headerNumber, Bool.toNat_true, Nat.one_mul]

theorem pinnedBody_holds (h : BodyForm p) : ∀ row ∈ pinnedBody p, row.2.1 = row.2.2 := by
  cases p with
  | signalContext p =>
      have hcif := h.cif0
      have hformat := h.payloadFormat
      simp only [pinnedBody, List.forall_mem_cons]
      refine ⟨?_, ?_, hformat.word0.symm, ?_, by simp⟩
      · rw [hcif]
        cases p.contextChanged <;> rfl
      · rw [hformat.packing]
      · rw [hformat.word1]
        rfl
  | versionContext p =>
      have hcif := h.cif0
      simp only [pinnedBody, List.forall_mem_cons]
      refine ⟨?_, ?_, by simp⟩
      · rw [hcif]
        cases p.contextChanged <;> rfl
      · rw [h.deviceType]
        rfl
  | timingFlowControl p =>
      simp only [pinnedBody, List.forall_mem_cons]
      exact ⟨h.bufferStatus.raw.symm, by simp⟩
  | statusReport p =>
      have hflags := h.flags
      have hlevel := h.referenceLevelLimit
      have hrate := h.sampleRateLimit
      simp only [pinnedBody, List.forall_mem_cons]
      refine ⟨?_, by simp⟩
      rw [hflags]
      obtain hsize | hsize | hsize := h.size
      all_goals
        simp only [hsize] at hlevel hrate ⊢
        simp at hlevel hrate
        simp [hlevel, hrate, quantitativeFlags]
  | _ => simp [pinnedBody]

theorem bounded_holds (h : WellFormed p) :
    ∀ row ∈ bounded p, row.2.1 ≤ row.2.2.2 ∧ row.2.2.2 ≤ row.2.2.1 := by
  have hsequence := h.prologue.header.sequence_lt
  have hpad := h.prologue.classId.padBitCount_lt
  have hbody := h.body
  simp only [bounded, List.forall_mem_cons]
  refine ⟨⟨Nat.zero_le _, by omega⟩, ⟨Nat.zero_le _, by omega⟩, ?_⟩
  cases p with
  | signalContext p =>
      have hformat := hbody.payloadFormat
      simpa using ⟨hformat.size_ge, hformat.size_le⟩
  | versionContext p =>
      have hyear := hbody.version.year_lt
      have hday := hbody.version.day_lt
      have hrevision := hbody.version.revision_lt
      simp only [List.forall_mem_cons]
      exact ⟨⟨Nat.zero_le _, by omega⟩, ⟨Nat.zero_le _, by omega⟩, ⟨Nat.zero_le _, by omega⟩, by simp⟩
  | timingFlowControl p =>
      have hlevel := hbody.bufferStatus.bufferLevel_lt
      simp only [List.forall_mem_cons]
      exact ⟨⟨Nat.zero_le _, by omega⟩, by simp⟩
  | _ => simp

theorem required_holds (h : BodyForm p) {bits : UInt8}
    (hbits : Writer.canonicalTypeSpecificBits p = .ok bits) : ∀ row ∈ required p, row.2 = true := by
  have hmode (tsm : Option TimestampMode) (htsm : Writer.tsmTypeSpecific tsm = .ok bits) : tsm.isSome = true := by
    cases tsm with
    | none => cases htsm
    | some mode => rfl
  cases p with
  | signalContext p => simpa [required] using hmode _ hbits
  | versionContext p => simpa [required] using hmode _ hbits
  | sinkCapabilitiesQuery p =>
      obtain ⟨prologue, common, form, cif0, cif1, integer, fractional⟩ := p
      have hform := h.form
      cases form with
      | long =>
          have hcif1 : cif1 = some cifControlFlow1 := hform.2.2.1
          simp [required, hcif1]
      | short =>
          obtain ⟨-, -, -, hinteger, hfractional⟩ := hform
          simp only at hinteger hfractional
          simp [required, hinteger, hfractional]
  | sinkCapabilitiesResponse p =>
      obtain ⟨prologue, common, form, cif0, cif1, ci, cf, si, sf, table⟩ := p
      have hform := h.form
      cases form with
      | long =>
          have hcif1 : cif1 = some cifControlFlow1 := hform.2.2.2.1
          simp [required, hcif1]
      | short =>
          obtain ⟨-, -, -, hci, hcf, hsi, hsf, -⟩ := hform
          simp only at hci hcf hsi hsf
          simp [required, hci, hcf, hsi, hsf]
  | statusReport p =>
      obtain ⟨prologue, common, cif0, cif1, errors, warnings, level, rate, band⟩ := p
      have hlimits := h.limits
      simp only at hlimits
      generalize prologue.header.packetSizeWords.toNat = words at hlimits
      cases hlimits <;> simp [required]
  | _ => simp [required]

theorem excluded_holds (h : BodyForm p) : ∀ row ∈ excluded p, row.2 = false := by
  cases p with
  | sinkCapabilitiesQuery p =>
      obtain ⟨prologue, common, form, cif0, cif1, integer, fractional⟩ := p
      have hform := h.form
      cases form with
      | long =>
          obtain ⟨-, -, -, hinteger, hfractional⟩ := hform
          simp only at hinteger hfractional
          simp [excluded, hinteger, hfractional]
      | short =>
          have hcif1 : cif1 = none := hform.2.2.1
          simp [excluded, hcif1]
  | sinkCapabilitiesResponse p =>
      obtain ⟨prologue, common, form, cif0, cif1, ci, cf, si, sf, table⟩ := p
      have hform := h.form
      cases form with
      | long =>
          obtain ⟨-, -, -, -, hci, hcf, hsi, hsf⟩ := hform
          simp only at hci hcf hsi hsf
          simp [excluded, hci, hcf, hsi, hsf]
      | short =>
          obtain ⟨-, -, hcif1, -, -, -, -, htable⟩ := hform
          simp only at hcif1 htable
          simp [excluded, hcif1, htable]
  | _ => simp [excluded]

theorem fixedWords_hold (h : BodyForm p) : ∀ row ∈ fixedWords p, row.2.1 = row.2.2 := by
  cases p with
  | versionContext p => simp [fixedWords, h.cif1, h.specVersion, cifVersion1, vita49SpecVersion]
  | timingFlowControl p =>
      simp [fixedWords, h.cam, h.cif0, h.cif1, camControlExecute, cifControlFlow0, cifControlFlow1]
  | sinkCapabilitiesQuery p =>
      obtain ⟨prologue, common, form, cif0, cif1, integer, fractional⟩ := p
      have hcam := h.cam
      have hform := h.form
      simp only at hcam
      cases form with
      | long =>
          obtain ⟨-, hcif0, hcif1, -⟩ := hform
          simp only at hcif0 hcif1
          simp [fixedWords, hcam, hcif0, hcif1, camExtensionControlValidate, cifCommandLong, cifControlFlow1]
      | short =>
          have hcif0 : cif0 = cifCommandShort := hform.2.1
          simp [fixedWords, hcam, hcif0, camExtensionControlValidate, cifCommandShort]
  | sinkCapabilitiesResponse p =>
      obtain ⟨prologue, common, form, cif0, cif1, ci, cf, si, sf, table⟩ := p
      have hcam := h.cam
      have hform := h.form
      simp only at hcam
      cases form with
      | long =>
          obtain ⟨-, -, hcif0, hcif1, -⟩ := hform
          simp only at hcif0 hcif1
          simp [fixedWords, hcam, hcif0, hcif1, camExtensionAckValidate, cifCommandLong, cifControlFlow1]
      | short =>
          have hcif0 : cif0 = cifCommandShort := hform.2.1
          simp [fixedWords, hcam, hcif0, camExtensionAckValidate, cifCommandShort]
  | statusReport p => simp [fixedWords, h.cam, h.cif0, h.cif1, camStatusReportExecute]
  | _ => simp [fixedWords]

theorem chosenWords_hold (h : BodyForm p) : ∀ row ∈ chosenWords p, row.2.2 ∈ row.2.1 := by
  cases p with
  | signalContext p =>
      have hcif := h.cif0
      cases hchanged : p.contextChanged <;>
        simp [chosenWords, hcif, hchanged, cifContextChanged, cifContextUnchanged]
  | versionContext p =>
      have hcif := h.cif0
      cases hchanged : p.contextChanged <;>
        simp [chosenWords, hcif, hchanged, cifVersionChanged, cifVersionUnchanged]
  | _ => simp [chosenWords]

theorem hertzOf_holds (h : BodyForm p) : ∀ row ∈ hertzOf p, row.2.toNat % 2 ^ 20 = 0 := by
  cases p with
  | signalContext p =>
      simp only [hertzOf, List.forall_mem_cons]
      exact ⟨h.bandwidth, h.ifReferenceFrequency, h.rfReferenceFrequency, h.ifBandOffset, h.sampleRate, by simp⟩
  | timingFlowControl p =>
      simp only [hertzOf, List.forall_mem_cons]
      exact ⟨h.sampleRate, by simp⟩
  | statusReport p =>
      have hrate := h.sampleRate
      have hband := h.bandwidth
      rintro row hrow
      simp only [hertzOf, List.mem_append, List.mem_map, Option.mem_toList] at hrow
      obtain ⟨limit, hlimit, rfl⟩ | ⟨limit, hlimit, rfl⟩ := hrow
      · exact hrate limit hlimit
      · exact hband limit hlimit
  | _ => simp [hertzOf]

end Rows

section Packets

variable {options : WriteOptions} {p : Packet}

theorem padding_holds (h : WellFormed p) (hpermit : paddingPermission ⟨parseOptions options⟩ p = .ok ())
    (hne : p.prologue.classId.padBitCount ≠ 0) :
    variant p = .signalData ∧
      PaddingAllowed (parseOptions options) p.prologue.classId.informationClass
        p.prologue.classId.packetClass := by
  have hbody := h.body
  cases p with
  | signalData p => exact ⟨rfl, permitsDataPadding_iff.mp (paddingPermission_signalData.mp hpermit hne)⟩
  | _ => exact absurd hbody.padding hne

theorem payload_holds {p : SignalDataPacket} (h : SignalDataForm p) :
    p.prologue.classId.padBitCount.toNat ≤ p.payload.length * 8 ∧
      2 ^ p.prologue.classId.padBitCount.toNat ∣ bigEndian p.payload := by
  have hlt := p.prologue.header.packetSizeWords.toNat_lt
  have hsize := h.size
  have hpadding := h.padding
  rw [Padding.validateDataPadding_verdict _ (by simp only [usizeLimit]; omega)] at hpadding
  by_cases hzero : p.prologue.classId.padBitCount = 0
  · rw [hzero]
    exact ⟨Nat.zero_le _, one_dvd _⟩
  · rw [if_neg hzero, ite_err_eq_ok, ite_eq_ok] at hpadding
    exact ⟨Nat.le_of_not_lt hpadding.1, hpadding.2⟩

theorem prologue_faultless {standard : ParseOptions} {header : PacketHeader} {classId : ClassId}
    (h : HeaderWord header) (hindicator : header.classIdIndicator = true)
    (hchecks : profileChecks ⟨standard⟩ header classId = .ok ()) (e : ParseError) :
    ¬PrologueFault standard header classId e := by
  obtain ⟨-, hlisted, hnibble, htsf, hbits⟩ := (profileChecks_iff standard classId h).mp ⟨hindicator, hchecks⟩
  intro hfault
  cases e with
  | packetTypeNotAvailableInStandard standard t =>
      obtain ⟨-, rfl, hnone⟩ := hfault
      exact hnone _ _ hlisted hnibble
  | packetClassNotAvailableInStandard standard c =>
      obtain ⟨-, rfl, hnone⟩ := hfault
      rw [hnone] at hlisted
      cases hlisted
  | packetClassNotInInformationClass i c =>
      obtain ⟨rfl, rfl, hnone⟩ := hfault
      rw [hnone] at hlisted
      cases hlisted
  | packetTypeClassMismatch t c =>
      obtain ⟨rfl, rfl, hnone⟩ := hfault
      exact hnone hnibble
  | invalidTsfForPacketClass c expected actual =>
      obtain ⟨rfl, hexpected, rfl, hne⟩ := hfault
      rw [hexpected, List.mem_singleton] at htsf
      cases hactual : header.tsf <;> cases expected <;> rw [hactual] at htsf hne <;>
        first | exact hne rfl | cases htsf
  | reservedBitsNonZero field bits =>
      obtain ⟨-, htype, hreserved, hne⟩ := hfault
      have hle := Diagnosis.typeSpecific_le (i := classId.informationClass) hnibble htype
      rw [← hbits] at hle
      omega
  | invalidHeaderBits field expected actual =>
      obtain ⟨-, hexpected, rfl, hne⟩ := hfault
      exact hne (UInt8.toNat_inj.mp (hbits.trans hexpected.symm))
  | _ => exact hfault

theorem profile_faultless (h : WellFormed p) (hverdict : verdict ⟨parseOptions options⟩ p = .ok ())
    (e : ParseError) : ¬ProfileRefused (parseOptions options) p e := by
  have hprologue := prologue_faultless h.prologue.header h.prologue.classIdIndicator
    (check_eq_ok.mp hverdict).1 e
  intro hfault
  cases e with
  | padBitsNotAllowed i c n =>
      obtain ⟨rfl, rfl, rfl, hne, hdenied⟩ := hfault
      obtain ⟨hdata, hallowed⟩ := padding_holds h (check_eq_ok.mp hverdict).2 hne
      exact hdenied hdata hallowed
  | invalidPadding n payloadBits =>
      obtain ⟨rfl, q, rfl, rfl, hless⟩ := hfault
      exact Nat.not_lt.mpr (payload_holds h.body).1 hless
  | nonZeroPaddingBits =>
      obtain ⟨q, rfl, hzeros⟩ := hfault
      exact hzeros (payload_holds h.body).2
  | invalidPacketSize c expected actual =>
      obtain ⟨-, -, -, q, rfl, hform, hempty⟩ := hfault
      obtain ⟨-, -, hbody⟩ := h.body
      rw [hform] at hbody
      exact hbody.2.1 hempty
  | invalidFieldValue field expected actual => exact hfault.2 (fixedWords_hold h.body _ hfault.1)
  | invalidFieldValueSet field actual =>
      obtain ⟨allowed, hrow, hne⟩ := hfault
      exact hne (chosenWords_hold h.body _ hrow)
  | fractionalHzNotAllowed field raw => exact hfault.2 (hertzOf_holds h.body _ hfault.1)
  | _ => exact hprologue hfault

theorem faultless (h : WellFormed p)
    (hbits : Writer.canonicalTypeSpecificBits p = .ok p.prologue.header.typeSpecificBits)
    (hverdict : verdict ⟨parseOptions options⟩ p = .ok ()) {room : Nat} (hroom : (encode p).length ≤ room)
    (e : WriteError) : ¬Refused (parseOptions options) p room e := by
  have hsize := wordsOf_eq h.body
  have hlt := p.prologue.header.packetSizeWords.toNat_lt
  have hlen := encode_length h.body
  have hbody := h.body
  intro hfault
  cases e with
  | outputTooSmall needed actual =>
      obtain ⟨rfl, rfl, hless⟩ := hfault
      omega
  | packetTooLarge size =>
      obtain ⟨rfl, hlarge⟩ := hfault
      omega
  | payloadLengthNotWordAligned len =>
      obtain ⟨q, rfl, rfl, hodd⟩ := hfault
      have hbytes := SignalDataForm.size hbody
      have h28 : prologueBytes = 28 := rfl
      omega
  | capabilityTableLengthNotWordAligned len =>
      obtain ⟨q, rfl, hform, rfl, hodd⟩ := hfault
      obtain ⟨-, -, hbody⟩ := hbody
      rw [hform] at hbody
      have hbytes := hbody.1
      omega
  | oddComplexI8SampleCount samples => exact hfault
  | fieldOutOfRange field most actual =>
      obtain ⟨least, hrow, hout⟩ := hfault
      exact hout (bounded_holds h _ hrow)
  | missingField field => exact Bool.false_ne_true (required_holds h.body hbits _ hfault)
  | unexpectedField field => exact Bool.false_ne_true (excluded_holds h.body _ hfault).symm
  | fieldMismatch field expected actual =>
      obtain ⟨hrow, hne⟩ := hfault
      refine hne (UInt64.toNat_inj.mp ?_)
      rcases List.mem_append.mp hrow with hrow | hrow
      · exact pinnedPrologue_holds h hbits _ hrow
      · exact pinnedBody_holds h.body _ hrow
  | profile e => exact profile_faultless h hverdict e hfault

/-- The writer turns down the packets that have a fault, or that there is no room
for, and no others. The error that it gives tells of one of their faults. -/
theorem writer_errors_are_faults (p : Packet) (options : WriteOptions) (out : List UInt8) :
    (∀ e out', Writer.writePacketWithOptions p options out = (.err e, out') →
      Refused (parseOptions options) p out.length e) ∧
      ((∃ n out', Writer.writePacketWithOptions p options out = (.ok n, out')) ↔
        ∀ e, ¬Refused (parseOptions options) p out.length e) := by
  have hcommits := writePacket_commits p options
  have hwrite := hcommits.within (encodedLen_refused p options out.length) fun n hn hshort => by
    obtain ⟨⟨hwell, -⟩, rfl⟩ := encodedLen_eq_ok.mp hn
    exact ⟨by rw [encode_length hwell.body, wordsOf_eq hwell.body], rfl, hshort⟩
  refine ⟨fun e out' he => hwrite.err e (congrArg Prod.fst he), ?_, fun hnone => ?_⟩
  · rintro ⟨n, out', hok⟩ e
    obtain ⟨hn, hroom, -⟩ := hcommits.eq_ok_iff.mp hok
    obtain ⟨⟨hwell, hbits, hverdict⟩, rfl⟩ := encodedLen_eq_ok.mp hn
    exact faultless hwell hbits hverdict hroom e
  · cases hx : (Writer.writePacketWithOptions p options out).1 with
    | ok n => exact ⟨n, _, Prod.ext hx rfl⟩
    | err e => exact absurd (hwrite.err e hx) (hnone e)
    | panic => exact absurd hx hwrite.safe

end Packets

end Difi.WriterDiagnosis
