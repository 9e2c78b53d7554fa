import Difi.Refusals

namespace Difi.BodyRefusals

open Machine Outcome Checks Fields Bodies Layout Decoding Acceptance Preparation Grammar Faults Refusals

section Checks

variable {options : ParseOptions} {p : Packet} {room : Nat}

theorem noPadding_refused (hdata : variant p ≠ .signalData) :
    Within (Refused options p room) (Writer.expectNoPadding p.prologue) :=
  within_writerExpectNoPadding.mpr fun hne => ⟨rfl, rfl, rfl, hne, fun hsame => absurd hsame hdata⟩

theorem fixed_refused {field : String} {expected actual : UInt32}
    (hrow : (field, expected, actual) ∈ fixedWords p) :
    Within (Refused options p room) (profileError (expectWord field expected actual)) :=
  within_profileError.mpr (within_expectWord.mpr fun hne => ⟨hrow, hne.symm⟩)

theorem chosen_refused {field : String} {allowed : List UInt32} {actual : UInt32}
    (hrow : (field, allowed, actual) ∈ chosenWords p) :
    Within (Refused options p room) (profileError (expectWordOneOf field actual allowed)) :=
  within_profileError.mpr (within_expectWordOneOf.mpr fun hne => ⟨allowed, hrow, hne⟩)

theorem hertz_refused {field : String} {raw : UInt64} (hrow : (field, raw) ∈ hertzOf p) :
    Within (Refused options p room) (profileError (validateFixedIntegerHz field raw)) :=
  within_profileError.mpr (within_validateFixedIntegerHz.mpr fun hne => ⟨hrow, hne⟩)

theorem limit_refused {field : String} {limit : Option FixedU64}
    (hrow : ∀ l, limit = some l → (field, l.raw) ∈ hertzOf p) :
    Within (Refused options p room) (match limit with
      | some l => profileError (validateFixedIntegerHz field l.raw)
      | none => .ok ()) := by
  cases limit with
  | none => exact within_ok ()
  | some l => exact hertz_refused (hrow l rfl)

theorem pinned_refused {field : String} {expected actual : UInt64} (value : Nat) {found : Nat}
    (hrow : (field, value, found) ∈ pinnedBody p) (hvalue : expected.toNat = value)
    (hfound : actual.toNat = found) :
    Within (Refused options p room) (Writer.expectField field expected actual) :=
  within_expectField.mpr fun hne => mismatch (List.mem_append_right _ hrow) hvalue hfound hne

/-- The size has been checked before, against the variant. -/
theorem packetSize_refused {profile : StandardProfile} {layout : PacketLayout} {c : PacketClassCode}
    {size : UInt16} (hsize : size = layoutWords layout) :
    Within (Refused options p room) (profileError (profile.expectPacketSize layout c size)) := by
  have hok : profile.expectPacketSize layout c size = .ok () := by
    rw [expectPacketSize_eq_ok, hsize]
    cases layout <;> rfl
  exact within_profileError.mpr (within_of_eq_ok hok)

theorem required_refused {α : Type} {field : String} {value : Option α}
    (hrow : (field, value.isSome) ∈ required p) :
    Within (Refused options p room) (Writer.required field value) := by
  refine within_required.mpr fun hnone => ?_
  rw [hnone] at hrow
  exact hrow

theorem absentU32_refused {field : String} {value : Option UInt32}
    (hrow : (field, value.isSome) ∈ excluded p) :
    Within (Refused options p room) (Writer.expectAbsentU32 field value) := by
  refine within_expectAbsentU32.mpr fun hsome => ?_
  rw [hsome] at hrow
  exact hrow

theorem absentU64_refused {field : String} {value : Option UInt64}
    (hrow : (field, value.isSome) ∈ excluded p) :
    Within (Refused options p room) (Writer.expectAbsentU64 field value) := by
  refine within_expectAbsentU64.mpr fun hsome => ?_
  rw [hsome] at hrow
  exact hrow

end Checks

section Bodies

variable {options : WriteOptions} {room : Nat}

theorem validateSignalData_refused {p : SignalDataPacket}
    (hok : Writer.packetSizeWords (.signalData p) = .ok p.prologue.header.packetSizeWords) :
    Within (Refused (parseOptions options) (.signalData p) room)
      (Writer.validateSignalData p.prologue p.payload options) := by
  have hbytes := (packetSizeWords_signalData.mp hok).2
  have hlt := p.prologue.header.packetSizeWords.toNat_lt
  have h28 : prologueBytes = 28 := rfl
  refine within_ite.mpr ⟨fun hodd => (within_err _).mpr ⟨p, rfl, rfl, hodd⟩, fun _ => ?_⟩
  refine within_ite.mpr ⟨fun hdenied => (within_err _).mpr ?_, fun _ => ?_⟩
  · obtain ⟨hne, hdenied⟩ := hdenied
    refine ⟨rfl, rfl, rfl, hne, fun _ => ?_⟩
    rw [← permitsDataPadding_iff]
    simpa [Writer.profile, parseOptions] using hdenied
  rw [validateDataPadding_eq, within_profileError,
    Padding.validateDataPadding_verdict _ (by simp only [usizeLimit]; omega)]
  refine within_ite.mpr ⟨fun _ => within_ok _, fun _ => within_ite.mpr ⟨fun hshort => ?_, fun _ =>
    within_check.mpr fun hzeros => ?_⟩⟩
  · exact (within_err _).mpr ⟨rfl, p, rfl, rfl, hshort⟩
  · exact ⟨p, rfl, hzeros⟩

theorem validatePayloadFormat_refused {p : SignalContextPacket} :
    Within (Refused (parseOptions options) (.signalContext p) room)
      (Writer.validatePayloadFormat p.payloadFormat) := by
  unfold Writer.validatePayloadFormat
  have hsample : ¬p.payloadFormat.sampleFormat ≠ .complexSignedCartesian := by
    cases p.payloadFormat.sampleFormat
    exact not_not.mpr rfl
  refine within_ite.mpr ⟨fun hne => absurd hne hsample, fun _ => ?_⟩
  refine within_ite.mpr ⟨fun hout => (within_err _).mpr ?_, fun hin => ?_⟩
  · refine outOfRange 4 16 (by simp [bounded]) rfl (UInt8.toNat_toUInt64 _) fun hin => hout ?_
    exact ⟨UInt8.le_iff_toNat_le.mpr hin.1, UInt8.le_iff_toNat_le.mpr hin.2⟩
  refine within_ite.mpr ⟨fun hne => (within_err _).mpr ?_, fun hpacking => ?_⟩
  · refine mismatch (List.mem_append_right _ ?_) (UInt8.toNat_toUInt64 _) (UInt8.toNat_toUInt64 _)
      fun hsame => hne (toUInt64_inj8.mp hsame).symm
    simp [pinnedBody]
  obtain ⟨hge, hle⟩ := not_not.mp hin
  have hsub : (subU8 p.payloadFormat.dataItemSizeBits 1 : WriteResult UInt8) =
      .ok (p.payloadFormat.dataItemSizeBits - 1) :=
    subU8_ok (UInt8.le_iff_toNat_le.mpr (Nat.le_trans (by decide) (UInt8.le_iff_toNat_le.mp hge)))
  -- The word that the writer expects is the one that it accepts in its place.
  let expected : PayloadFormat := { p.payloadFormat with
    rawWord0 := (0xA0000000 : UInt32) ||| ((p.payloadFormat.dataItemSizeBits - 1).toUInt32 <<< 6) |||
      (p.payloadFormat.dataItemSizeBits - 1).toUInt32
    rawWord1 := 0 }
  have haccepted : Writer.validatePayloadFormat expected = .ok () := by
    rw [Writer.validatePayloadFormat, if_neg hsample, if_neg hin, if_neg hpacking]
    simp only [expected, hsub, ok_bind, Writer.expectField, if_true]
    rfl
  have hword := (validatePayloadFormat_eq_ok.mp haccepted).word0
  rw [hsub, ok_bind]
  exact within_bind (pinned_refused (0xA0000000 + (p.payloadFormat.dataItemSizeBits.toNat - 1) * 65)
    (by simp [pinnedBody]) ((UInt32.toNat_toUInt64 _).trans hword) (UInt32.toNat_toUInt64 _)) fun _ =>
    pinned_refused 0 (by simp [pinnedBody]) rfl (UInt32.toNat_toUInt64 _)

theorem validateSignalContext_refused {p : SignalContextPacket}
    (hok : Writer.packetSizeWords (.signalContext p) = .ok p.prologue.header.packetSizeWords) :
    Within (Refused (parseOptions options) (.signalContext p) room)
      (Writer.validateSignalContext p options) := by
  have hsize : p.prologue.header.packetSizeWords = 27 := (Outcome.ok.inj hok).symm
  unfold Writer.validateSignalContext
  refine within_bind (noPadding_refused (p := .signalContext p) (by simp [variant])) fun _ => ?_
  refine within_bind (packetSize_refused hsize) fun _ => ?_
  refine within_bind (chosen_refused (by simp [chosenWords, cifContextChanged, cifContextUnchanged])) fun _ => ?_
  refine within_bind (pinned_refused (if p.contextChanged then 0xFBB98000 else 0x7BB98000)
    (by simp [pinnedBody]) ?_ (UInt32.toNat_toUInt64 _)) fun _ => ?_
  · cases p.contextChanged <;> rfl
  refine within_bind (hertz_refused (by simp [hertzOf])) fun _ => ?_
  refine within_bind (hertz_refused (by simp [hertzOf])) fun _ => ?_
  refine within_bind (hertz_refused (by simp [hertzOf])) fun _ => ?_
  refine within_bind (hertz_refused (by simp [hertzOf])) fun _ => ?_
  refine within_bind (hertz_refused (by simp [hertzOf])) fun _ => ?_
  exact validatePayloadFormat_refused

theorem validateVersionContext_refused {p : VersionContextPacket}
    (hok : Writer.packetSizeWords (.versionContext p) = .ok p.prologue.header.packetSizeWords) :
    Within (Refused (parseOptions options) (.versionContext p) room)
      (Writer.validateVersionContext p options) := by
  have hsize : p.prologue.header.packetSizeWords = 11 := (Outcome.ok.inj hok).symm
  unfold Writer.validateVersionContext
  refine within_bind (noPadding_refused (p := .versionContext p) (by simp [variant])) fun _ => ?_
  refine within_bind (packetSize_refused hsize) fun _ => ?_
  refine within_bind (chosen_refused (by simp [chosenWords, cifVersionChanged, cifVersionUnchanged])) fun _ => ?_
  refine within_bind (pinned_refused (if p.contextChanged then 0x80000002 else 0x00000002)
    (by simp [pinnedBody]) ?_ (UInt32.toNat_toUInt64 _)) fun _ => ?_
  · cases p.contextChanged <;> rfl
  refine within_bind (fixed_refused (by simp [fixedWords, cifVersion1])) fun _ => ?_
  refine within_bind (fixed_refused (by simp [fixedWords, vita49SpecVersion])) fun _ => ?_
  refine within_ite.mpr ⟨fun hlarge => (within_err _).mpr ?_, fun _ => ?_⟩
  · exact tooLarge 0x7F (by simp [bounded]) rfl (UInt8.toNat_toUInt64 _) (UInt8.lt_iff_toNat_lt.mp hlarge)
  refine within_ite.mpr ⟨fun hlarge => (within_err _).mpr ?_, fun _ => ?_⟩
  · exact tooLarge 0x01FF (by simp [bounded]) rfl (UInt16.toNat_toUInt64 _) (UInt16.lt_iff_toNat_lt.mp hlarge)
  refine within_ite.mpr ⟨fun hlarge => (within_err _).mpr ?_, fun _ => ?_⟩
  · exact tooLarge 0x3F (by simp [bounded]) rfl (UInt8.toNat_toUInt64 _) (UInt8.lt_iff_toNat_lt.mp hlarge)
  refine within_bind (pinned_refused 0 (by simp [pinnedBody]) rfl (UInt8.toNat_toUInt64 _)) fun _ => ?_
  exact within_expectField.mpr fun hne => absurd (by cases p.icdVersion; rfl) hne

theorem validateBufferStatus_refused {p : TimingFlowControlPacket} :
    Within (Refused (parseOptions options) (.timingFlowControl p) room)
      (Writer.validateBufferStatus p.bufferStatus) := by
  unfold Writer.validateBufferStatus
  refine within_ite.mpr ⟨fun hlarge => (within_err _).mpr ?_, fun hlevel => ?_⟩
  · exact tooLarge 0x0FFF (by simp [bounded]) rfl (UInt16.toNat_toUInt64 _) (UInt16.lt_iff_toNat_lt.mp hlarge)
  -- The word that the writer expects is the one that it accepts in its place.
  let expected : BufferStatus := { p.bufferStatus with
    raw := (p.bufferStatus.bufferLevel.toUInt32 <<< 4) ||| ((p.bufferStatus.overflow.toUInt32 <<< 3) |||
      (p.bufferStatus.nearlyFull.toUInt32 <<< 2) ||| (p.bufferStatus.nearlyEmpty.toUInt32 <<< 1) |||
      p.bufferStatus.underflow.toUInt32) }
  have haccepted : Writer.validateBufferStatus expected = .ok () := by
    rw [Writer.validateBufferStatus, if_neg hlevel]
    exact expectField_eq_ok.mpr rfl
  have hword := (validateBufferStatus_eq_ok.mp haccepted).raw
  exact pinned_refused _ List.mem_cons_self ((UInt32.toNat_toUInt64 _).trans hword) (UInt32.toNat_toUInt64 _)

theorem validateTimingFlowControl_refused {p : TimingFlowControlPacket}
    (hok : Writer.packetSizeWords (.timingFlowControl p) = .ok p.prologue.header.packetSizeWords) :
    Within (Refused (parseOptions options) (.timingFlowControl p) room)
      (Writer.validateTimingFlowControl p options) := by
  have hsize : p.prologue.header.packetSizeWords = 21 := (Outcome.ok.inj hok).symm
  unfold Writer.validateTimingFlowControl
  refine within_bind (noPadding_refused (p := .timingFlowControl p) (by simp [variant])) fun _ => ?_
  refine within_bind (packetSize_refused hsize) fun _ => ?_
  refine within_bind (fixed_refused (by simp [fixedWords, camControlExecute])) fun _ => ?_
  refine within_bind (fixed_refused (by simp [fixedWords, cifControlFlow0])) fun _ => ?_
  refine within_bind (fixed_refused (by simp [fixedWords, cifControlFlow1])) fun _ => ?_
  exact within_bind (hertz_refused (by simp [hertzOf])) fun _ => validateBufferStatus_refused

theorem validateSinkCapabilitiesQuery_refused {p : SinkCapabilitiesQueryPacket}
    (hok : Writer.packetSizeWords (.sinkCapabilitiesQuery p) = .ok p.prologue.header.packetSizeWords) :
    Within (Refused (parseOptions options) (.sinkCapabilitiesQuery p) room)
      (Writer.validateSinkCapabilitiesQuery p options) := by
  unfold Writer.validateSinkCapabilitiesQuery
  refine within_bind (noPadding_refused (p := .sinkCapabilitiesQuery p) (by simp [variant])) fun _ => ?_
  refine within_bind (fixed_refused (by simp [fixedWords, camExtensionControlValidate])) fun _ => ?_
  obtain ⟨prologue, common, form, cif0, cif1, integer, fractional⟩ := p
  cases form with
  | long =>
      have hsize : prologue.header.packetSizeWords = 13 := (Outcome.ok.inj hok).symm
      refine within_bind (packetSize_refused hsize) fun _ => ?_
      refine within_bind (fixed_refused (by simp [fixedWords, cifCommandLong])) fun _ => ?_
      refine (required_refused (by simp [required])).bind fun word hword => ?_
      obtain rfl := required_eq_ok.mp hword
      refine within_bind (fixed_refused (by simp [fixedWords, cifControlFlow1])) fun _ => ?_
      exact within_bind (absentU32_refused (by simp [excluded])) fun _ => absentU64_refused (by simp [excluded])
  | short =>
      have hsize : prologue.header.packetSizeWords = 15 := (Outcome.ok.inj hok).symm
      refine within_bind (packetSize_refused hsize) fun _ => ?_
      refine within_bind (fixed_refused (by simp [fixedWords, cifCommandShort])) fun _ => ?_
      refine within_bind (absentU32_refused (by simp [excluded])) fun _ => ?_
      refine within_bind (required_refused (by simp [required])) fun _ => ?_
      exact within_bind (required_refused (by simp [required])) fun _ => within_ok _

theorem validateSinkCapabilitiesResponse_refused {p : SinkCapabilitiesResponsePacket}
    (hok : Writer.packetSizeWords (.sinkCapabilitiesResponse p) = .ok p.prologue.header.packetSizeWords) :
    Within (Refused (parseOptions options) (.sinkCapabilitiesResponse p) room)
      (Writer.validateSinkCapabilitiesResponse p options) := by
  have hlong := packetSizeWords_response (p := p) (n := p.prologue.header.packetSizeWords)
  unfold Writer.validateSinkCapabilitiesResponse
  refine within_bind (noPadding_refused (p := .sinkCapabilitiesResponse p) (by simp [variant])) fun _ => ?_
  refine within_bind (fixed_refused (by simp [fixedWords, camExtensionAckValidate])) fun _ => ?_
  obtain ⟨prologue, common, form, cif0, cif1, ci, cf, si, sf, table⟩ := p
  cases form with
  | long =>
      obtain ⟨hmod, hbytes⟩ := (hlong rfl).mp hok
      simp only at hmod hbytes
      refine within_ite.mpr ⟨fun hodd => absurd hmod hodd, fun _ => within_ite.mpr ⟨fun hsmall => ?_, fun _ => ?_⟩⟩
      · have hle : prologue.header.packetSizeWords.toNat ≤ 13 := UInt16.le_iff_toNat_le.mp hsmall
        have hempty : table = [] := List.length_eq_zero_iff.mp (by omega)
        have hsize : prologue.header.packetSizeWords.toNat = 13 := by omega
        exact (within_err _).mpr ⟨rfl, rfl, UInt16.toNat_inj.mp hsize, _, rfl, rfl, hempty⟩
      refine within_bind (fixed_refused (by simp [fixedWords, cifCommandLong])) fun _ => ?_
      refine (required_refused (by simp [required])).bind fun word hword => ?_
      obtain rfl := required_eq_ok.mp hword
      refine within_bind (fixed_refused (by simp [fixedWords, cifControlFlow1])) fun _ => ?_
      refine within_bind (absentU32_refused (by simp [excluded])) fun _ => ?_
      refine within_bind (absentU64_refused (by simp [excluded])) fun _ => ?_
      exact within_bind (absentU32_refused (by simp [excluded])) fun _ => absentU64_refused (by simp [excluded])
  | short =>
      have hsize : prologue.header.packetSizeWords = 18 := (Outcome.ok.inj hok).symm
      refine within_bind (packetSize_refused hsize) fun _ => ?_
      refine within_bind (fixed_refused (by simp [fixedWords, cifCommandShort])) fun _ => ?_
      refine within_bind (absentU32_refused (by simp [excluded])) fun _ => ?_
      refine within_ite.mpr ⟨fun htable => (within_err _).mpr ?_, fun _ => ?_⟩
      · have hrow : ("capability_table", !table.isEmpty) ∈ excluded (.sinkCapabilitiesResponse
            ⟨prologue, common, .short, cif0, cif1, ci, cf, si, sf, table⟩) := by simp [excluded]
        rw [htable] at hrow
        exact hrow
      refine within_bind (required_refused (by simp [required])) fun _ => ?_
      refine within_bind (required_refused (by simp [required])) fun _ => ?_
      refine within_bind (required_refused (by simp [required])) fun _ => ?_
      exact within_bind (required_refused (by simp [required])) fun _ => within_ok _

/-- The limits have been checked before, with the size. -/
theorem validateStatusReport_refused {p : StatusReportPacket}
    (hok : Writer.packetSizeWords (.statusReport p) = .ok p.prologue.header.packetSizeWords) :
    Within (Refused (parseOptions options) (.statusReport p) room)
      (Writer.validateStatusReport p options) := by
  have hwords := packetSizeWords_statusReport.mp hok
  have hlimits := statusReportWords_eq_ok.mp hwords
  have hsize := (limits_iff.mp hlimits).1
  have hrates := @limit_refused (parseOptions options) (.statusReport p) room "status sample rate limit"
    p.sampleRateLimit fun l hl => by simp [hertzOf, hl]
  have hbands := @limit_refused (parseOptions options) (.statusReport p) room "status bandwidth limit"
    p.bandwidthLimit fun l hl => by simp [hertzOf, hl]
  have hflag (flags : UInt64) (hflags : flags.toNat = 16 * p.referenceLevelLimit.isSome.toNat +
      8 * p.sampleRateLimit.isSome.toNat) : Within (Refused (parseOptions options) (.statusReport p) room)
      (Writer.expectField "status_report.quantitative_flags" flags (p.sinkErrorsWarnings &&& 0x18).toUInt64) :=
    pinned_refused _ List.mem_cons_self hflags (UInt32.toNat_toUInt64 _)
  unfold Writer.validateStatusReport
  refine within_bind (noPadding_refused (p := .statusReport p) (by simp [variant])) fun _ => ?_
  refine within_bind (within_profileError.mpr (within_of_eq_ok
    ((validateStatusReportSize_eq_ok (u := ())).mpr hsize))) fun _ => ?_
  refine within_bind (fixed_refused (by simp [fixedWords, camStatusReportExecute])) fun _ => ?_
  refine within_bind (fixed_refused (by simp [fixedWords])) fun _ => ?_
  refine within_bind (fixed_refused (by simp [fixedWords])) fun _ => ?_
  rw [hwords, ok_bind]
  generalize p.prologue.header.packetSizeWords.toNat = words at hlimits
  generalize p.referenceLevelLimit = level at hlimits hflag
  generalize p.sampleRateLimit = rate at hlimits hflag hrates
  generalize p.bandwidthLimit = band at hlimits hbands
  have hrest (flags : UInt64) (hflags : flags.toNat = 16 * level.isSome.toNat + 8 * rate.isSome.toNat) :=
    within_bind (hflag flags hflags) fun _ => within_bind hrates fun _ => hbands
  cases hlimits with
  | without => exact hrest 0 rfl
  | level l => exact hrest 0x10 rfl
  | all l r w => exact hrest 0x18 rfl

end Bodies

section Packet

variable {options : WriteOptions} {p : Packet} {room : Nat}

theorem validateBody_refused (hok : Writer.packetSizeWords p = .ok p.prologue.header.packetSizeWords) :
    Within (Refused (parseOptions options) p room) (validateBody p options) := by
  cases p with
  | signalData p => exact validateSignalData_refused hok
  | signalContext p => exact validateSignalContext_refused hok
  | versionContext p => exact validateVersionContext_refused hok
  | timingFlowControl p => exact validateTimingFlowControl_refused hok
  | sinkCapabilitiesQuery p => exact validateSinkCapabilitiesQuery_refused hok
  | sinkCapabilitiesResponse p => exact validateSinkCapabilitiesResponse_refused hok
  | statusReport p => exact validateStatusReport_refused hok

theorem preparePacket_refused :
    Within (Refused (parseOptions options) p room) (Writer.preparePacket p options) := by
  have hbody (hok : Writer.packetSizeWords p = .ok p.prologue.header.packetSizeWords) {plan : WritePlan} :
      Within (Refused (parseOptions options) p room) (validateBody p options >>= fun _ => .ok plan) :=
    within_bind (validateBody_refused hok) fun _ => within_ok _
  obtain ⟨hsize, hwords⟩ := packetSizeWords_refused (parseOptions options) room p
  obtain ⟨hmode, hbits⟩ := canonicalBits_refused (parseOptions options) room p
  unfold Writer.preparePacket
  refine hsize.bind fun size hok => hmode.bind fun bits hmode => ?_
  refine (validatePrologue_refused rfl (hbits bits hmode) (hwords size hok)).bind fun _ hprologue => ?_
  obtain ⟨-, hplan⟩ := prologueForm_of_validatePrologue hprologue
  obtain ⟨-, -, rfl⟩ := WritePlan.mk.inj hplan
  cases p <;> exact hbody hok

theorem encodedLen_refused (p : Packet) (options : WriteOptions) (room : Nat) :
    Within (Refused (parseOptions options) p room) (Writer.encodedLenWithOptions p options) :=
  within_bind preparePacket_refused fun _ => within_of_eq_ok (mulUsize_words _)

end Packet

end Difi.BodyRefusals
