import Difi.Faults
import Difi.Preparation

namespace Difi.Refusals

open Machine Outcome Checks Fields Bodies Layout Decoding Acceptance Preparation Grammar Faults

section Tables

def wordsOf : Packet → Nat
  | .signalData p => 7 + p.payload.length / 4
  | .signalContext _ => 27
  | .versionContext _ => 11
  | .timingFlowControl _ => 21
  | .sinkCapabilitiesQuery p => if p.form = .long then 13 else 15
  | .sinkCapabilitiesResponse p => if p.form = .long then 13 + p.capabilityTable.length / 4 else 18
  | .statusReport p => 15 + 2 * (p.referenceLevelLimit.isSome.toNat + p.sampleRateLimit.isSome.toNat +
      p.bandwidthLimit.isSome.toNat)

def canonicalBits (p : Packet) : Nat :=
  match variant p with
  | .signalContext | .versionContext => if p.prologue.header.tsm = some .coarse then 1 else 0
  | .sinkCapabilitiesResponse => 4
  | _ => 0

def headerNumber (header : PacketHeader) : Nat :=
  header.packetType.code.toNat * 2 ^ 28 + 2 ^ 27 + header.typeSpecificBits.toNat * 2 ^ 24 +
    header.tsi.code.toNat * 2 ^ 22 + header.tsf.code.toNat * 2 ^ 20 + header.sequence.toNat * 2 ^ 16 +
    header.packetSizeWords.toNat

/-- The fields of a prologue that the rest of the packet leaves one value for: the
name, that value, and the value that the field has. -/
def pinnedPrologue (p : Packet) : List (String × Nat × Nat) :=
  let header := p.prologue.header
  [("header.type_specific_bits", canonicalBits p, header.typeSpecificBits.toNat),
    ("header.class_id_indicator", 1, header.classIdIndicator.toNat),
    ("header.packet_size_words", wordsOf p, header.packetSizeWords.toNat),
    ("header.tsm", (Writer.tsmCode (Writer.expectedTsm header.packetType header.typeSpecificBits)).toNat,
      (Writer.tsmCode header.tsm).toNat),
    ("class_id.oui", 0x6A621E, p.prologue.classId.oui.toNat),
    ("header.raw", headerNumber header, header.raw.toNat)]

def pinnedBody : Packet → List (String × Nat × Nat)
  | .signalContext p =>
    let size := p.payloadFormat.dataItemSizeBits.toNat
    [("signal_context.cif0", if p.contextChanged then 0xFBB98000 else 0x7BB98000, p.cif0.toNat),
      ("payload_format.item_packing_field_size_bits", size,
        p.payloadFormat.itemPackingFieldSizeBits.toNat),
      ("payload_format.raw_word0", 0xA0000000 + (size - 1) * 65, p.payloadFormat.rawWord0.toNat),
      ("payload_format.raw_word1", 0, p.payloadFormat.rawWord1.toNat)]
  | .versionContext p =>
    [("version_context.cif0", if p.contextChanged then 0x80000002 else 0x00000002, p.cif0.toNat),
      ("version_context.device_type", 0, p.deviceType.toNat)]
  | .timingFlowControl p =>
    let status := p.bufferStatus
    [("buffer_status.raw", status.bufferLevel.toNat * 16 + status.overflow.toNat * 8 +
      status.nearlyFull.toNat * 4 + status.nearlyEmpty.toNat * 2 + status.underflow.toNat,
      status.raw.toNat)]
  | .statusReport p =>
    [("status_report.quantitative_flags", 16 * p.referenceLevelLimit.isSome.toNat +
      8 * p.sampleRateLimit.isSome.toNat, (p.sinkErrorsWarnings &&& 0x18).toNat)]
  | _ => []

/-- The fields that are wider in a packet than on the wire: the name, the least and
the greatest value, and the value that the field has. -/
def bounded (p : Packet) : List (String × Nat × Nat × Nat) :=
  ("header.sequence", 0, 0x0F, p.prologue.header.sequence.toNat) ::
    ("class_id.pad_bit_count", 0, 0x1F, p.prologue.classId.padBitCount.toNat) ::
    match p with
    | .signalContext p =>
      [("payload_format.data_item_size_bits", 4, 16, p.payloadFormat.dataItemSizeBits.toNat)]
    | .versionContext p =>
      [("version_context.year", 0, 0x7F, p.year.toNat), ("version_context.day", 0, 0x01FF, p.day.toNat),
        ("version_context.revision", 0, 0x3F, p.revision.toNat)]
    | .timingFlowControl p =>
      [("buffer_status.buffer_level", 0, 0x0FFF, p.bufferStatus.bufferLevel.toNat)]
    | _ => []

def required : Packet → List (String × Bool)
  | .signalContext p => [("header.tsm", p.prologue.header.tsm.isSome)]
  | .versionContext p => [("header.tsm", p.prologue.header.tsm.isSome)]
  | .sinkCapabilitiesQuery p =>
    if p.form = .long then [("cif1", p.cif1.isSome)]
    else [("sink_time_calibration_integer", p.sinkTimeCalibrationInteger.isSome),
      ("sink_time_calibration_fractional", p.sinkTimeCalibrationFractional.isSome)]
  | .sinkCapabilitiesResponse p =>
    if p.form = .long then [("cif1", p.cif1.isSome)]
    else [("control_packet_integer_timestamp", p.controlPacketIntegerTimestamp.isSome),
      ("control_packet_fractional_timestamp", p.controlPacketFractionalTimestamp.isSome),
      ("sink_reception_integer_timestamp", p.sinkReceptionIntegerTimestamp.isSome),
      ("sink_reception_fractional_timestamp", p.sinkReceptionFractionalTimestamp.isSome)]
  | .statusReport p =>
    [("reference_level_limit", !(p.sampleRateLimit.isSome || p.bandwidthLimit.isSome) ||
        p.referenceLevelLimit.isSome),
      ("sample_rate_limit", !p.bandwidthLimit.isSome || p.sampleRateLimit.isSome),
      ("bandwidth_limit", !p.sampleRateLimit.isSome || p.bandwidthLimit.isSome)]
  | _ => []

def excluded : Packet → List (String × Bool)
  | .sinkCapabilitiesQuery p =>
    if p.form = .long then [("sink_time_calibration_integer", p.sinkTimeCalibrationInteger.isSome),
      ("sink_time_calibration_fractional", p.sinkTimeCalibrationFractional.isSome)]
    else [("cif1", p.cif1.isSome)]
  | .sinkCapabilitiesResponse p =>
    if p.form = .long then [("control_packet_integer_timestamp", p.controlPacketIntegerTimestamp.isSome),
      ("control_packet_fractional_timestamp", p.controlPacketFractionalTimestamp.isSome),
      ("sink_reception_integer_timestamp", p.sinkReceptionIntegerTimestamp.isSome),
      ("sink_reception_fractional_timestamp", p.sinkReceptionFractionalTimestamp.isSome)]
    else [("cif1", p.cif1.isSome), ("capability_table", !p.capabilityTable.isEmpty)]
  | _ => []

def fixedWords : Packet → List (String × UInt32 × UInt32)
  | .versionContext p =>
    [("version context CIF1", 0x0000000C, p.cif1), ("VITA 49.2 spec version", 4, p.vita49SpecVersion)]
  | .timingFlowControl p =>
    [("timing flow control CAM", 0xA1000000, p.common.cam), ("timing flow control CIF0", 0x40300002, p.cif0),
      ("timing flow control CIF1", 0x00000002, p.cif1)]
  | .sinkCapabilitiesQuery p =>
    ("sink capabilities query CAM", 0xA1100000, p.common.cam) ::
      if p.form = .long then ("sink capabilities long query CIF0", 0x7BB98002, p.cif0) ::
        p.cif1.toList.map fun cif1 => ("sink capabilities long query CIF1", 0x00000002, cif1)
      else [("sink capabilities short query CIF0", 0x80000000, p.cif0)]
  | .sinkCapabilitiesResponse p =>
    ("sink capabilities response CAM", 0xA1100400, p.common.cam) ::
      if p.form = .long then ("sink capabilities long response CIF0", 0x7BB98002, p.cif0) ::
        p.cif1.toList.map fun cif1 => ("sink capabilities long response CIF1", 0x00000002, cif1)
      else [("sink capabilities short response CIF0", 0x80000000, p.cif0)]
  | .statusReport p =>
    [("status report CAM", 0xA1080000, p.common.cam), ("status report CIF0", 0, p.cif0),
      ("status report CIF1", 0, p.cif1)]
  | _ => []

def chosenWords : Packet → List (String × List UInt32 × UInt32)
  | .signalContext p => [("signal context CIF0", [0xFBB98000, 0x7BB98000], p.cif0)]
  | .versionContext p => [("version context CIF0", [0x80000002, 0x00000002], p.cif0)]
  | _ => []

def hertzOf : Packet → List (String × UInt64)
  | .signalContext p =>
    [("context bandwidth", p.bandwidth.raw),
      ("context IF reference frequency", p.ifReferenceFrequency.raw.toUInt64),
      ("context RF reference frequency", p.rfReferenceFrequency.raw.toUInt64),
      ("context IF band offset", p.ifBandOffset.raw.toUInt64), ("context sample rate", p.sampleRate.raw)]
  | .timingFlowControl p => [("timing flow control sample rate", p.sampleRate.raw)]
  | .statusReport p =>
    (p.sampleRateLimit.toList.map fun limit => ("status sample rate limit", limit.raw)) ++
      p.bandwidthLimit.toList.map fun limit => ("status bandwidth limit", limit.raw)
  | _ => []

end Tables

/-- What an error about the standard says about the packet that it is raised for. -/
def ProfileRefused (options : ParseOptions) (p : Packet) : ParseError → Prop
  | .padBitsNotAllowed i c n => i = p.prologue.classId.informationClass ∧ c = p.prologue.classId.packetClass ∧
      n = p.prologue.classId.padBitCount ∧ n ≠ 0 ∧ (variant p = .signalData → ¬PaddingAllowed options i c)
  | .invalidPadding n payloadBits => n = p.prologue.classId.padBitCount ∧ ∃ q, p = .signalData q ∧
      payloadBits = q.payload.length * 8 ∧ payloadBits < n.toNat
  | .nonZeroPaddingBits => ∃ q, p = .signalData q ∧
      ¬2 ^ q.prologue.classId.padBitCount.toNat ∣ bigEndian q.payload
  | .invalidPacketSize c expected actual => c = p.prologue.classId.packetClass ∧ expected = 14 ∧ actual = 13 ∧
      ∃ q, p = .sinkCapabilitiesResponse q ∧ q.form = .long ∧ q.capabilityTable = []
  | .invalidFieldValue field expected actual => (field, expected, actual) ∈ fixedWords p ∧ expected ≠ actual
  | .invalidFieldValueSet field actual =>
      ∃ allowed, (field, allowed, actual) ∈ chosenWords p ∧ actual ∉ allowed
  | .fractionalHzNotAllowed field raw => (field, raw) ∈ hertzOf p ∧ raw.toNat % 2 ^ 20 ≠ 0
  | e => PrologueFault options p.prologue.header p.prologue.classId e

/-- What an error of the writer says about the packet that it was given, and about
the room that there was for it. -/
def Refused (options : ParseOptions) (p : Packet) (room : Nat) : WriteError → Prop
  | .outputTooSmall needed actual => needed = 4 * wordsOf p ∧ actual = room ∧ actual < needed
  | .packetTooLarge size => size = wordsOf p ∧ 2 ^ 16 ≤ size
  | .payloadLengthNotWordAligned len => ∃ q, p = .signalData q ∧ len = q.payload.length ∧ len % 4 ≠ 0
  | .capabilityTableLengthNotWordAligned len => ∃ q, p = .sinkCapabilitiesResponse q ∧ q.form = .long ∧
      len = q.capabilityTable.length ∧ len % 4 ≠ 0
  | .oddComplexI8SampleCount _ => False
  | .fieldOutOfRange field most actual => ∃ least, (field, least, most.toNat, actual.toNat) ∈ bounded p ∧
      ¬(least ≤ actual.toNat ∧ actual.toNat ≤ most.toNat)
  | .missingField field => (field, false) ∈ required p
  | .unexpectedField field => (field, true) ∈ excluded p
  | .fieldMismatch field expected actual =>
      (field, expected.toNat, actual.toNat) ∈ pinnedPrologue p ++ pinnedBody p ∧ expected ≠ actual
  | .profile e => ProfileRefused options p e

section Rules

variable {P : WriteError → Prop}

@[simp] theorem within_profileError {α : Type} {x : Result α} :
    Within P (profileError x) ↔ Within (fun e => P (.profile e)) x := by
  cases x with
  | ok a => exact iff_of_true (within_ok a) (within_ok a)
  | err e =>
      rw [within_err]
      exact within_err (WriteError.profile e)
  | panic => exact iff_of_false (fun h => h.safe rfl) (fun h => h.safe rfl)

theorem within_expectField {field : String} {expected actual : UInt64} :
    Within P (Writer.expectField field expected actual) ↔
      (expected ≠ actual → P (.fieldMismatch field expected actual)) :=
  within_check

theorem within_required {α : Type} {field : String} {value : Option α} :
    Within P (Writer.required field value) ↔ (value.isSome = false → P (.missingField field)) :=
  within_okOr

theorem within_expectAbsentU32 {field : String} {value : Option UInt32} :
    Within P (Writer.expectAbsentU32 field value) ↔ (value.isSome = true → P (.unexpectedField field)) := by
  rw [Writer.expectAbsentU32, within_check]
  cases value <;> simp

theorem within_expectAbsentU64 {field : String} {value : Option UInt64} :
    Within P (Writer.expectAbsentU64 field value) ↔ (value.isSome = true → P (.unexpectedField field)) := by
  rw [Writer.expectAbsentU64, within_check]
  cases value <;> simp

theorem within_writerExpectNoPadding {prologue : Prologue} :
    Within P (Writer.expectNoPadding prologue) ↔ (prologue.classId.padBitCount ≠ 0 →
      P (.profile (.padBitsNotAllowed prologue.classId.informationClass prologue.classId.packetClass
        prologue.classId.padBitCount))) :=
  within_check

end Rules

section Sizes

variable (options : ParseOptions) (room : Nat)

theorem statusReportWords_refused (p : StatusReportPacket) :
    Within (Refused options (.statusReport p) room) (Writer.statusReportWords p) ∧
      ∀ n, Writer.statusReportWords p = .ok n → n = wordsOf (.statusReport p) := by
  obtain ⟨prologue, common, cif0, cif1, errors, warnings, level, rate, band⟩ := p
  cases level <;> cases rate <;> cases band <;>
    simp [Writer.statusReportWords, Refused, required, wordsOf, eq_comm]

theorem packetSizeWords_refused (p : Packet) : Within (Refused options p room) (Writer.packetSizeWords p) ∧
    ∀ n, Writer.packetSizeWords p = .ok n → n.toNat = wordsOf p := by
  have hfits (words : Nat) (hwords : words = wordsOf p) : Within (Refused options p room)
      (okOr (tryIntoU16 words) (.packetTooLarge words) : WriteResult UInt16) := by
    refine within_okOr.mpr fun hnone => ⟨hwords, Nat.le_of_not_lt fun hlt => ?_⟩
    rw [tryIntoU16, if_pos (show words < 65536 from hlt)] at hnone
    cases hnone
  have hsized (x : WriteResult Nat) (hx : Within (Refused options p room) x)
      (hwords : ∀ words, x = .ok words → words = wordsOf p) :
      Within (Refused options p room) (x >>= fun words => okOr (tryIntoU16 words) (.packetTooLarge words)) ∧
        ∀ n, (x >>= fun words => okOr (tryIntoU16 words) (.packetTooLarge words)) = .ok n →
          n.toNat = wordsOf p := by
    refine ⟨hx.bind fun words hword => hfits words (hwords words hword), fun n hn => ?_⟩
    obtain ⟨words, hword, hn⟩ := bind_eq_ok.mp hn
    rw [okOr_eq_ok, tryIntoU16_eq_some] at hn
    rw [hn, hwords words hword]
  have hplain (words : Nat) (hwords : words = wordsOf p) := hsized (.ok words) (within_ok words) fun k hk => by
    cases hk
    exact hwords
  cases p with
  | signalData q =>
      refine hsized _ (within_ite.mpr ⟨fun hodd => (within_err _).mpr ⟨q, rfl, rfl, hodd⟩, fun _ =>
        within_ok _⟩) fun words hwords => ?_
      obtain ⟨-, hwords⟩ := ite_err_eq_ok.mp hwords
      cases hwords
      rfl
  | signalContext q => exact hplain 27 rfl
  | versionContext q => exact hplain 11 rfl
  | timingFlowControl q => exact hplain 21 rfl
  | sinkCapabilitiesQuery q =>
      obtain ⟨prologue, common, form, rest⟩ := q
      cases form with
      | long => exact hplain 13 rfl
      | short => exact hplain 15 rfl
  | sinkCapabilitiesResponse q =>
      obtain ⟨prologue, common, form, cif0, cif1, ci, cf, si, sf, table⟩ := q
      cases form with
      | short => exact hplain 18 rfl
      | long =>
          refine hsized _ (within_ite.mpr ⟨fun hodd => (within_err _).mpr ⟨_, rfl, rfl, rfl, hodd⟩, fun _ =>
            within_ok _⟩) fun words hwords => ?_
          obtain ⟨-, hwords⟩ := ite_err_eq_ok.mp hwords
          cases hwords
          rfl
  | statusReport q =>
      obtain ⟨hwithin, hwords⟩ := statusReportWords_refused options room q
      exact hsized _ hwithin hwords

theorem canonicalBits_refused (p : Packet) :
    Within (Refused options p room) (Writer.canonicalTypeSpecificBits p) ∧
      ∀ bits, Writer.canonicalTypeSpecificBits p = .ok bits → bits.toNat = canonicalBits p := by
  have hmode (tsm : Option TimestampMode) (htsm : p.prologue.header.tsm = tsm)
      (hrequired : ("header.tsm", p.prologue.header.tsm.isSome) ∈ required p) :
      Within (Refused options p room) (Writer.tsmTypeSpecific tsm) ∧
        ∀ bits, Writer.tsmTypeSpecific tsm = .ok bits →
          bits.toNat = if p.prologue.header.tsm = some .coarse then 1 else 0 := by
    rw [htsm] at hrequired ⊢
    rcases tsm with _ | mode
    · exact ⟨(within_err _).mpr hrequired, fun bits hbits => by cases hbits⟩
    · cases mode <;> simp [Writer.tsmTypeSpecific, eq_comm]
  have hplain (k : UInt8) (hk : k.toNat = canonicalBits p) : Within (Refused options p room) (.ok k) ∧
      ∀ bits, (.ok k : WriteResult UInt8) = .ok bits → bits.toNat = canonicalBits p := by
    refine ⟨within_ok k, fun bits hbits => ?_⟩
    cases hbits
    exact hk
  cases p with
  | signalContext q => exact hmode _ rfl (List.mem_singleton.mpr rfl)
  | versionContext q => exact hmode _ rfl (List.mem_singleton.mpr rfl)
  | sinkCapabilitiesResponse q => exact hplain 4 rfl
  | _ => exact hplain 0 rfl

end Sizes

section Prologue

variable {options : WriteOptions} {p : Packet} {room : Nat}

theorem mismatch {standard : ParseOptions} {field : String} {expected actual : UInt64} {value found : Nat}
    (hrow : (field, value, found) ∈ pinnedPrologue p ++ pinnedBody p) (hvalue : expected.toNat = value)
    (hhave : actual.toNat = found) (hne : expected ≠ actual) :
    Refused standard p room (.fieldMismatch field expected actual) := by
  subst hvalue hhave
  exact ⟨hrow, hne⟩

theorem outOfRange {standard : ParseOptions} {field : String} {most actual : UInt64} (least value : Nat)
    {found : Nat} (hrow : (field, least, value, found) ∈ bounded p) (hvalue : most.toNat = value)
    (hhave : actual.toNat = found) (hout : ¬(least ≤ found ∧ found ≤ value)) :
    Refused standard p room (.fieldOutOfRange field most actual) := by
  subst hvalue hhave
  exact ⟨least, hrow, hout⟩

theorem tooLarge {standard : ParseOptions} {field : String} {most actual : UInt64} (value : Nat) {found : Nat}
    (hrow : (field, 0, value, found) ∈ bounded p) (hvalue : most.toNat = value) (hhave : actual.toNat = found)
    (hlt : value < found) : Refused standard p room (.fieldOutOfRange field most actual) :=
  outOfRange 0 value hrow hvalue hhave fun hin => Nat.not_le.mpr hlt hin.2

theorem tsmCode_inj {a b : Option TimestampMode} (h : Writer.tsmCode a = Writer.tsmCode b) : a = b := by
  rcases a with _ | a <;> rcases b with _ | b
  · rfl
  · cases b <;> cases h
  · cases a <;> cases h
  · cases a <;> cases b <;> first | rfl | cases h

theorem canonicalBits_lt (p : Packet) : canonicalBits p < 8 := by
  unfold canonicalBits
  split
  all_goals first | decide | (split <;> decide)

theorem profileRefused_of_prologue {standard : ParseOptions} {e : ParseError}
    (h : PrologueFault standard p.prologue.header p.prologue.classId e) : ProfileRefused standard p e := by
  cases e <;> first | exact h | exact h.elim

theorem validateClassId_refused {standard : ParseOptions} :
    Within (Refused standard p room) (Writer.validateClassId p.prologue.classId) := by
  refine within_ite.mpr ⟨fun hpad => (within_err _).mpr ?_, fun _ => within_ite.mpr ⟨fun houi =>
    (within_err _).mpr ?_, fun _ => within_ok _⟩⟩
  · exact tooLarge 0x1F (List.mem_cons_of_mem _ List.mem_cons_self) rfl (UInt8.toNat_toUInt64 _)
      (UInt8.lt_iff_toNat_lt.mp hpad)
  · refine mismatch (List.mem_append_left _ ?_) rfl (UInt32.toNat_toUInt64 _) fun hsame => houi ?_
    · simp [pinnedPrologue, difiCid]
    · exact (toUInt64_inj32.mp hsame).symm

theorem headerWord_refused {standard : ParseOptions} {t : PacketType} {bits : UInt8} {tsi : Tsi} {tsf : Tsf}
    {size : UInt16} (hbits : bits.toNat < 8) :
    Within (Refused standard p room) (Writer.headerWord t bits tsi tsf p.prologue.header.sequence size) := by
  refine within_ite.mpr ⟨fun hlarge => ?_, fun _ => within_ite.mpr ⟨fun hlarge => (within_err _).mpr ?_,
    fun _ => within_ok _⟩⟩
  · have hlt : 7 < bits.toNat := UInt8.lt_iff_toNat_lt.mp hlarge
    omega
  · exact tooLarge 0x0F List.mem_cons_self rfl (UInt8.toNat_toUInt64 _) (UInt8.lt_iff_toNat_lt.mp hlarge)

theorem validatePrologue_refused {plan : WritePlan} (htype : plan.packetType = p.prologue.header.packetType)
    (hbits : plan.typeSpecificBits.toNat = canonicalBits p) (hsize : plan.packetSizeWords.toNat = wordsOf p) :
    Within (Refused (parseOptions options) p room) (Writer.validatePrologue p.prologue plan options) := by
  have hlt : plan.typeSpecificBits.toNat < 8 := hbits ▸ canonicalBits_lt p
  obtain ⟨t, bits, size⟩ := plan
  simp only at htype hbits hsize hlt
  subst htype
  unfold Writer.validatePrologue
  refine within_ite.mpr ⟨fun hlarge => (within_err _).mpr ?_, fun hsequence => ?_⟩
  · exact tooLarge 0x0F List.mem_cons_self rfl (UInt8.toNat_toUInt64 _) (UInt8.lt_iff_toNat_lt.mp hlarge)
  refine within_ite.mpr ⟨fun hne => absurd rfl hne, fun _ => ?_⟩
  refine within_ite.mpr ⟨fun hne => (within_err _).mpr ?_, fun hsame => ?_⟩
  · refine mismatch (List.mem_append_left _ ?_) (UInt8.toNat_toUInt64 _) (UInt8.toNat_toUInt64 _)
      fun hsame => hne (toUInt64_inj8.mp hsame).symm
    simp [pinnedPrologue, hbits]
  obtain rfl := not_not.mp hsame
  refine within_ite.mpr ⟨fun hnone => (within_err _).mpr ?_, fun hindicator => ?_⟩
  · refine mismatch (List.mem_append_left _ ?_) rfl rfl (by decide)
    simp only [Bool.not_eq_true'] at hnone
    simp [pinnedPrologue, hnone]
  refine within_ite.mpr ⟨fun hne => (within_err _).mpr ?_, fun hsame => ?_⟩
  · refine mismatch (List.mem_append_left _ ?_) (UInt16.toNat_toUInt64 _) (UInt16.toNat_toUInt64 _)
      fun hsame => hne (UInt16.toNat_inj.mp ?_)
    · simp [pinnedPrologue, hsize]
    · have hnat := congrArg UInt64.toNat hsame
      rw [UInt16.toNat_toUInt64, UInt16.toNat_toUInt64] at hnat
      exact hnat.symm
  obtain rfl := not_not.mp hsame
  refine within_ite.mpr ⟨fun hne => (within_err _).mpr ?_, fun hsame => ?_⟩
  · refine mismatch (List.mem_append_left _ ?_) rfl rfl fun hsame => hne (tsmCode_inj hsame).symm
    simp [pinnedPrologue]
  refine within_bind validateClassId_refused fun _ => (headerWord_refused hlt).bind fun word hword => ?_
  obtain ⟨-, hsequence, hnumber⟩ := headerWord_eq_ok.mp hword
  refine within_ite.mpr ⟨fun hne => (within_err _).mpr ?_, fun hraw => ?_⟩
  · refine mismatch (List.mem_append_left _ ?_) (UInt32.toNat_toUInt64 _) (UInt32.toNat_toUInt64 _)
      fun hsame => hne (toUInt64_inj32.mp hsame).symm
    rw [hnumber]
    simp [pinnedPrologue, headerNumber]
  -- The writer checks the header that it has put together, which differs in nothing that is checked.
  let header : PacketHeader := { p.prologue.header with
    raw := word
    classIdIndicator := true
    tsm := Writer.expectedTsm p.prologue.header.packetType p.prologue.header.typeSpecificBits }
  have hheader : HeaderWord header := by
    refine ⟨?_, hlt, hsequence, rfl⟩
    simp only [header, hnumber, Bool.toNat_true, Nat.one_mul]
  have hchecks : Within (Refused (parseOptions options) p room) (profileError
      (profileChecks ⟨parseOptions options⟩ header p.prologue.classId)) :=
    within_profileError.mpr ((profileChecks_faults hheader rfl).mono fun _ he => profileRefused_of_prologue he)
  rw [profileChecks_lift] at hchecks
  exact hchecks

end Prologue

end Difi.Refusals
