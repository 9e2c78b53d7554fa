import Difi.Machine.Buffer
import Difi.Parser
import Difi.Samples

namespace Difi

open Machine

structure WriteOptions where
  standard : DifiStandardVersion := .v1_3_0
  compatibility : CompatibilityMode := .strict
deriving DecidableEq, Repr

inductive WriteError where
  | outputTooSmall (needed actual : Nat)
  | packetTooLarge (words : Nat)
  | payloadLengthNotWordAligned (len : Nat)
  | capabilityTableLengthNotWordAligned (len : Nat)
  | oddComplexI8SampleCount (samples : Nat)
  | fieldOutOfRange (field : String) (max actual : UInt64)
  | missingField (field : String)
  | unexpectedField (field : String)
  | fieldMismatch (field : String) (expected actual : UInt64)
  | profile (source : ParseError)
deriving DecidableEq, Repr

abbrev WriteResult := Outcome WriteError

structure WritePlan where
  packetType : PacketType
  typeSpecificBits : UInt8
  packetSizeWords : UInt16
deriving DecidableEq, Repr

structure SignalDataWriteSpec where
  streamId : UInt32
  informationClass : InformationClassCode
  packetClass : PacketClassCode
  tsi : Tsi
  tsf : Tsf
  sequence : UInt8
  integerSecondsTimestamp : UInt32
  fractionalSecondsTimestamp : UInt64
deriving DecidableEq, Repr

def profileError {α : Type} (x : Result α) : WriteResult α := x.mapErr .profile

namespace Writer

abbrev Write := Mut UInt8 WriteError

def writeU32Be (wordIndex : Nat) (value : UInt32) : Write Unit := do
  let start ← Mut.lift (mulUsize wordIndex wordBytes)
  let stop ← Mut.lift (addUsize start wordBytes)
  Mut.copyInto start stop (toBeBytes value)

def writeU64Be (wordIndex : Nat) (value : UInt64) : Write Unit := do
  writeU32Be wordIndex (highWord value)
  let lowIndex ← Mut.lift (addUsize wordIndex 1)
  writeU32Be lowIndex (lowWord value)

def writeI64Be (wordIndex : Nat) (value : Int64) : Write Unit :=
  writeU64Be wordIndex value.toUInt64

def profile (options : WriteOptions) : StandardProfile :=
  ⟨{ standard := options.standard, compatibility := options.compatibility }⟩

def expectField (field : String) (expected actual : UInt64) : WriteResult Unit :=
  if expected = actual then .ok () else .err (.fieldMismatch field expected actual)

def expectAbsentU32 (field : String) (value : Option UInt32) : WriteResult Unit :=
  if value.isNone then .ok () else .err (.unexpectedField field)

def expectAbsentU64 (field : String) (value : Option UInt64) : WriteResult Unit :=
  if value.isNone then .ok () else .err (.unexpectedField field)

def required {α : Type} (field : String) (value : Option α) : WriteResult α :=
  Outcome.okOr value (.missingField field)

def headerWord (packetType : PacketType) (typeSpecificBits : UInt8) (tsi : Tsi) (tsf : Tsf)
    (sequence : UInt8) (packetSizeWords : UInt16) : WriteResult UInt32 :=
  if typeSpecificBits > 0x7 then
    .err (.fieldOutOfRange "header.type_specific_bits" 0x7 typeSpecificBits.toUInt64)
  else if sequence > 0x0F then
    .err (.fieldOutOfRange "header.sequence" 0x0F sequence.toUInt64)
  else
    .ok ((packetType.code.toUInt32 <<< 28) ||| ((1 : UInt32) <<< 27) |||
      (typeSpecificBits.toUInt32 <<< 24) ||| (tsi.code.toUInt32 <<< 22) ||| (tsf.code.toUInt32 <<< 20) |||
      (sequence.toUInt32 <<< 16) ||| packetSizeWords.toUInt32)

def statusReportWords (packet : StatusReportPacket) : WriteResult Nat :=
  match packet.referenceLevelLimit, packet.sampleRateLimit, packet.bandwidthLimit with
  | none, none, none => .ok 15
  | some _, none, none => .ok 17
  | some _, some _, some _ => .ok 21
  | none, some _, _ | none, _, some _ => .err (.missingField "reference_level_limit")
  | some _, some _, none => .err (.missingField "bandwidth_limit")
  | some _, none, some _ => .err (.missingField "sample_rate_limit")

/-- The sums are exact: a slice holds fewer bytes than half the values of
the machine size. -/
def packetSizeWords (packet : Packet) : WriteResult UInt16 := do
  let words ← (match packet with
    | .signalData packet =>
      if packet.payload.length % wordBytes ≠ 0 then
        .err (.payloadLengthNotWordAligned packet.payload.length)
      else .ok (prologueWords.toNat + packet.payload.length / wordBytes)
    | .signalContext _ => .ok 27
    | .versionContext _ => .ok 11
    | .timingFlowControl _ => .ok 21
    | .sinkCapabilitiesQuery packet =>
      match packet.form with
      | .long => .ok 13
      | .short => .ok 15
    | .sinkCapabilitiesResponse packet =>
      match packet.form with
      | .short => .ok 18
      | .long =>
        if packet.capabilityTable.length % wordBytes ≠ 0 then
          .err (.capabilityTableLengthNotWordAligned packet.capabilityTable.length)
        else .ok (13 + packet.capabilityTable.length / wordBytes)
    | .statusReport packet => statusReportWords packet)
  Outcome.okOr (tryIntoU16 words) (.packetTooLarge words)

def tsmTypeSpecific (tsm : Option TimestampMode) : WriteResult UInt8 :=
  match tsm with
  | some .fine => .ok 0
  | some .coarse => .ok 1
  | none => .err (.missingField "header.tsm")

def canonicalTypeSpecificBits (packet : Packet) : WriteResult UInt8 :=
  match packet with
  | .signalData _ | .timingFlowControl _ => .ok 0
  | .signalContext packet => tsmTypeSpecific packet.prologue.header.tsm
  | .versionContext packet => tsmTypeSpecific packet.prologue.header.tsm
  | .sinkCapabilitiesQuery _ | .statusReport _ => .ok 0
  | .sinkCapabilitiesResponse _ => .ok 0b100

def validateClassId (classId : ClassId) : WriteResult Unit :=
  if classId.padBitCount > 0x1F then
    .err (.fieldOutOfRange "class_id.pad_bit_count" 0x1F classId.padBitCount.toUInt64)
  else if classId.oui ≠ difiCid then
    .err (.fieldMismatch "class_id.oui" difiCid.toUInt64 classId.oui.toUInt64)
  else .ok ()

def tsmCode (tsm : Option TimestampMode) : UInt64 := tsm.elim 2 (fun tsm => tsm.code.toUInt64)

def expectedTsm (packetType : PacketType) (typeSpecificBits : UInt8) : Option TimestampMode :=
  match packetType with
  | .contextWithStreamId | .versionWithStreamId =>
    if typeSpecificBits &&& 1 = 1 then some .coarse else some .fine
  | _ => none

def validatePrologue (prologue : Prologue) (plan : WritePlan) (options : WriteOptions) : WriteResult Unit :=
  if prologue.header.sequence > 0x0F then
    .err (.fieldOutOfRange "header.sequence" 0x0F prologue.header.sequence.toUInt64)
  else if prologue.header.packetType ≠ plan.packetType then
    .err (.fieldMismatch "header.packet_type" plan.packetType.code.toUInt64
      prologue.header.packetType.code.toUInt64)
  else if prologue.header.typeSpecificBits ≠ plan.typeSpecificBits then
    .err (.fieldMismatch "header.type_specific_bits" plan.typeSpecificBits.toUInt64
      prologue.header.typeSpecificBits.toUInt64)
  else if !prologue.header.classIdIndicator then
    .err (.fieldMismatch "header.class_id_indicator" 1 0)
  else if prologue.header.packetSizeWords ≠ plan.packetSizeWords then
    .err (.fieldMismatch "header.packet_size_words" plan.packetSizeWords.toUInt64
      prologue.header.packetSizeWords.toUInt64)
  else
    let expectedTsm := expectedTsm plan.packetType plan.typeSpecificBits
    if prologue.header.tsm ≠ expectedTsm then
      .err (.fieldMismatch "header.tsm" (tsmCode expectedTsm) (tsmCode prologue.header.tsm))
    else do
      validateClassId prologue.classId
      let headerWord ← headerWord plan.packetType plan.typeSpecificBits prologue.header.tsi
        prologue.header.tsf prologue.header.sequence plan.packetSizeWords
      if prologue.header.raw ≠ headerWord then
        .err (.fieldMismatch "header.raw" headerWord.toUInt64 prologue.header.raw.toUInt64)
      else do
        let profile := profile options
        let header : PacketHeader := {
          raw := headerWord
          packetType := plan.packetType
          classIdIndicator := true
          typeSpecificBits := plan.typeSpecificBits
          tsm := expectedTsm
          tsi := prologue.header.tsi
          tsf := prologue.header.tsf
          sequence := prologue.header.sequence
          packetSizeWords := plan.packetSizeWords }
        profileError (profile.validatePacketTypeAvailable plan.packetType)
        profileError (profile.validatePacketClassAvailable prologue.classId.packetClass)
        profileError (profile.validatePacketTypeClass plan.packetType prologue.classId.packetClass)
        profileError (profile.validateHeaderBits header prologue.classId.packetClass)
        profileError (profile.validateClassMembership prologue.classId.informationClass
          prologue.classId.packetClass)
        profileError (profile.validateTsf header prologue.classId.packetClass)
        profileError (profile.validateTsm header prologue.classId.informationClass
          prologue.classId.packetClass)
        .ok ()

def expectNoPadding (prologue : Prologue) : WriteResult Unit :=
  if prologue.classId.padBitCount = 0 then .ok ()
  else .err (.profile (.padBitsNotAllowed prologue.classId.informationClass
    prologue.classId.packetClass prologue.classId.padBitCount))

def validateDataPadding (payload : List UInt8) (padBitCount : UInt8) : WriteResult Unit :=
  if padBitCount = 0 then .ok ()
  else do
    let payloadBits ← mulUsize payload.length 8
    if padBitCount.toNat > payloadBits ∨ payload.isEmpty then
      .err (.profile (.invalidPadding padBitCount payloadBits))
    else
      let fullPadBytes := (padBitCount / 8).toNat
      let partialPadBits := padBitCount % 8
      (if fullPadBytes ≠ 0 then do
        let start ← subUsize payload.length fullPadBytes
        let trailing ← sliceFrom payload start
        if trailing.any (· ≠ 0) then .err (.profile .nonZeroPaddingBits) else .ok ()
      else .ok ())
      if partialPadBits ≠ 0 then do
        let beforePad ← subUsize payload.length fullPadBytes
        let byteIndex ← subUsize beforePad 1
        let bit ← shlU16 1 partialPadBits.toUInt16
        let mask ← subU16 bit 1
        let byte ← indexAt payload byteIndex
        if byte.toUInt16 &&& mask ≠ 0 then .err (.profile .nonZeroPaddingBits) else .ok ()
      else .ok ()

def validateSignalData (prologue : Prologue) (payload : List UInt8) (options : WriteOptions) :
    WriteResult Unit :=
  if payload.length % wordBytes ≠ 0 then .err (.payloadLengthNotWordAligned payload.length)
  else
    let profile := profile options
    let informationClass := prologue.classId.informationClass
    let packetClass := prologue.classId.packetClass
    let padBitCount := prologue.classId.padBitCount
    if padBitCount ≠ 0 ∧ !profile.permitsDataPadding informationClass packetClass then
      .err (.profile (.padBitsNotAllowed informationClass packetClass padBitCount))
    else validateDataPadding payload padBitCount

def validatePayloadFormat (payloadFormat : PayloadFormat) : WriteResult Unit :=
  if payloadFormat.sampleFormat ≠ .complexSignedCartesian then
    .err (.fieldMismatch "payload_format.sample_format" 0 1)
  else if ¬(4 ≤ payloadFormat.dataItemSizeBits ∧ payloadFormat.dataItemSizeBits ≤ 16) then
    .err (.fieldOutOfRange "payload_format.data_item_size_bits" 16
      payloadFormat.dataItemSizeBits.toUInt64)
  else if payloadFormat.itemPackingFieldSizeBits ≠ payloadFormat.dataItemSizeBits then
    .err (.fieldMismatch "payload_format.item_packing_field_size_bits"
      payloadFormat.dataItemSizeBits.toUInt64 payloadFormat.itemPackingFieldSizeBits.toUInt64)
  else do
    let minusOne ← subU8 payloadFormat.dataItemSizeBits 1
    let minusOne := minusOne.toUInt32
    let expectedWord0 := (0xA0000000 : UInt32) ||| (minusOne <<< 6) ||| minusOne
    expectField "payload_format.raw_word0" expectedWord0.toUInt64 payloadFormat.rawWord0.toUInt64
    expectField "payload_format.raw_word1" 0 payloadFormat.rawWord1.toUInt64

def validateSignalContext (packet : SignalContextPacket) (options : WriteOptions) : WriteResult Unit := do
  expectNoPadding packet.prologue
  let profile := profile options
  profileError (profile.expectPacketSize .signalContext packet.prologue.classId.packetClass
    packet.prologue.header.packetSizeWords)
  profileError (profile.expectSignalContextCif0 packet.cif0)
  let expectedCif0 := if packet.contextChanged then cifContextChanged else cifContextUnchanged
  expectField "signal_context.cif0" expectedCif0.toUInt64 packet.cif0.toUInt64
  profileError (validateFixedIntegerHz "context bandwidth" packet.bandwidth.raw)
  profileError (validateFixedIntegerHz "context IF reference frequency"
    packet.ifReferenceFrequency.raw.toUInt64)
  profileError (validateFixedIntegerHz "context RF reference frequency"
    packet.rfReferenceFrequency.raw.toUInt64)
  profileError (validateFixedIntegerHz "context IF band offset" packet.ifBandOffset.raw.toUInt64)
  profileError (validateFixedIntegerHz "context sample rate" packet.sampleRate.raw)
  validatePayloadFormat packet.payloadFormat

def validateVersionContext (packet : VersionContextPacket) (options : WriteOptions) :
    WriteResult Unit := do
  expectNoPadding packet.prologue
  let profile := profile options
  profileError (profile.expectPacketSize .versionContext packet.prologue.classId.packetClass
    packet.prologue.header.packetSizeWords)
  profileError (profile.expectVersionContextCif0 packet.cif0)
  let expectedCif0 := if packet.contextChanged then cifVersionChanged else cifVersionUnchanged
  expectField "version_context.cif0" expectedCif0.toUInt64 packet.cif0.toUInt64
  profileError (profile.expectVersionContextCif1 packet.cif1)
  profileError (profile.expectVita49SpecVersion packet.vita49SpecVersion)
  if packet.year > 0x7F then
    .err (.fieldOutOfRange "version_context.year" 0x7F packet.year.toUInt64)
  else if packet.day > 0x01FF then
    .err (.fieldOutOfRange "version_context.day" 0x01FF packet.day.toUInt64)
  else if packet.revision > 0x3F then
    .err (.fieldOutOfRange "version_context.revision" 0x3F packet.revision.toUInt64)
  else do
    expectField "version_context.device_type" 0 packet.deviceType.toUInt64
    expectField "version_context.icd_version" DifiVersionCode.version1.code.toUInt64
      packet.icdVersion.code.toUInt64

def validateBufferStatus (status : BufferStatus) : WriteResult Unit :=
  if status.bufferLevel > 0x0FFF then
    .err (.fieldOutOfRange "buffer_status.buffer_level" 0x0FFF status.bufferLevel.toUInt64)
  else
    let flags := (status.overflow.toUInt32 <<< 3) ||| (status.nearlyFull.toUInt32 <<< 2) |||
      (status.nearlyEmpty.toUInt32 <<< 1) ||| status.underflow.toUInt32
    let expected := (status.bufferLevel.toUInt32 <<< 4) ||| flags
    expectField "buffer_status.raw" expected.toUInt64 status.raw.toUInt64

def validateTimingFlowControl (packet : TimingFlowControlPacket) (options : WriteOptions) :
    WriteResult Unit := do
  expectNoPadding packet.prologue
  let profile := profile options
  profileError (profile.expectPacketSize .timingFlowControl packet.prologue.classId.packetClass
    packet.prologue.header.packetSizeWords)
  profileError (profile.expectTimingFlowControlCam packet.common.cam)
  profileError (profile.expectTimingFlowControlCif0 packet.cif0)
  profileError (profile.expectTimingFlowControlCif1 packet.cif1)
  profileError (validateFixedIntegerHz "timing flow control sample rate" packet.sampleRate.raw)
  validateBufferStatus packet.bufferStatus

def validateSinkCapabilitiesQuery (packet : SinkCapabilitiesQueryPacket) (options : WriteOptions) :
    WriteResult Unit := do
  expectNoPadding packet.prologue
  let profile := profile options
  profileError (profile.expectSinkCapabilitiesQueryCam packet.common.cam)
  match packet.form with
  | .long =>
    profileError (profile.expectPacketSize .sinkCapabilitiesQueryLong
      packet.prologue.classId.packetClass packet.prologue.header.packetSizeWords)
    profileError (profile.expectSinkCapabilitiesLongQueryCif0 packet.cif0)
    let cif1 ← required "cif1" packet.cif1
    profileError (profile.expectSinkCapabilitiesLongQueryCif1 cif1)
    expectAbsentU32 "sink_time_calibration_integer" packet.sinkTimeCalibrationInteger
    expectAbsentU64 "sink_time_calibration_fractional" packet.sinkTimeCalibrationFractional
  | .short =>
    profileError (profile.expectPacketSize .sinkCapabilitiesQueryShort
      packet.prologue.classId.packetClass packet.prologue.header.packetSizeWords)
    profileError (profile.expectSinkCapabilitiesShortQueryCif0 packet.cif0)
    expectAbsentU32 "cif1" packet.cif1
    let _ ← required "sink_time_calibration_integer" packet.sinkTimeCalibrationInteger
    let _ ← required "sink_time_calibration_fractional" packet.sinkTimeCalibrationFractional
    .ok ()

def validateSinkCapabilitiesResponse (packet : SinkCapabilitiesResponsePacket) (options : WriteOptions) :
    WriteResult Unit := do
  expectNoPadding packet.prologue
  let profile := profile options
  profileError (profile.expectSinkCapabilitiesResponseCam packet.common.cam)
  match packet.form with
  | .long =>
    if packet.capabilityTable.length % wordBytes ≠ 0 then
      .err (.capabilityTableLengthNotWordAligned packet.capabilityTable.length)
    else if packet.prologue.header.packetSizeWords ≤ 13 then
      .err (.profile (.invalidPacketSize packet.prologue.classId.packetClass 14
        packet.prologue.header.packetSizeWords))
    else do
      profileError (profile.expectSinkCapabilitiesLongResponseCif0 packet.cif0)
      let cif1 ← required "cif1" packet.cif1
      profileError (profile.expectSinkCapabilitiesLongResponseCif1 cif1)
      expectAbsentU32 "control_packet_integer_timestamp" packet.controlPacketIntegerTimestamp
      expectAbsentU64 "control_packet_fractional_timestamp" packet.controlPacketFractionalTimestamp
      expectAbsentU32 "sink_reception_integer_timestamp" packet.sinkReceptionIntegerTimestamp
      expectAbsentU64 "sink_reception_fractional_timestamp" packet.sinkReceptionFractionalTimestamp
  | .short =>
    profileError (profile.expectPacketSize .sinkCapabilitiesResponseShort
      packet.prologue.classId.packetClass packet.prologue.header.packetSizeWords)
    profileError (profile.expectSinkCapabilitiesShortResponseCif0 packet.cif0)
    expectAbsentU32 "cif1" packet.cif1
    if !packet.capabilityTable.isEmpty then .err (.unexpectedField "capability_table")
    else do
      let _ ← required "control_packet_integer_timestamp" packet.controlPacketIntegerTimestamp
      let _ ← required "control_packet_fractional_timestamp" packet.controlPacketFractionalTimestamp
      let _ ← required "sink_reception_integer_timestamp" packet.sinkReceptionIntegerTimestamp
      let _ ← required "sink_reception_fractional_timestamp" packet.sinkReceptionFractionalTimestamp
      .ok ()

def validateStatusReport (packet : StatusReportPacket) (options : WriteOptions) : WriteResult Unit := do
  expectNoPadding packet.prologue
  let profile := profile options
  profileError (profile.validateStatusReportSize packet.prologue.classId.packetClass
    packet.prologue.header.packetSizeWords)
  profileError (profile.expectStatusReportCam packet.common.cam)
  profileError (profile.expectStatusReportCif0 packet.cif0)
  profileError (profile.expectStatusReportCif1 packet.cif1)
  let words ← statusReportWords packet
  let expectedFlags : UInt64 ← (match words with
    | 15 => .ok 0
    | 17 => .ok 0x10
    | 21 => .ok 0x18
    | _ => .panic)
  expectField "status_report.quantitative_flags" expectedFlags
    (packet.sinkErrorsWarnings &&& 0x18).toUInt64
  (match packet.sampleRateLimit with
    | some sampleRate => profileError (validateFixedIntegerHz "status sample rate limit" sampleRate.raw)
    | none => .ok ())
  match packet.bandwidthLimit with
  | some bandwidth => profileError (validateFixedIntegerHz "status bandwidth limit" bandwidth.raw)
  | none => .ok ()

def preparePacket (packet : Packet) (options : WriteOptions) : WriteResult WritePlan := do
  let packetSizeWords ← packetSizeWords packet
  let packetType := packet.prologue.header.packetType
  let typeSpecificBits ← canonicalTypeSpecificBits packet
  let plan : WritePlan := { packetType, typeSpecificBits, packetSizeWords }
  validatePrologue packet.prologue plan options
  (match packet with
    | .signalData packet => validateSignalData packet.prologue packet.payload options
    | .signalContext packet => validateSignalContext packet options
    | .versionContext packet => validateVersionContext packet options
    | .timingFlowControl packet => validateTimingFlowControl packet options
    | .sinkCapabilitiesQuery packet => validateSinkCapabilitiesQuery packet options
    | .sinkCapabilitiesResponse packet => validateSinkCapabilitiesResponse packet options
    | .statusReport packet => validateStatusReport packet options)
  .ok plan

def encodedLenWithOptions (packet : Packet) (options : WriteOptions) : WriteResult Nat := do
  let plan ← preparePacket packet options
  mulUsize plan.packetSizeWords.toNat wordBytes

def writePrologue (prologue : Prologue) (plan : WritePlan) : Write Unit := do
  let headerWord ← Mut.lift (headerWord plan.packetType plan.typeSpecificBits prologue.header.tsi
    prologue.header.tsf prologue.header.sequence plan.packetSizeWords).expect
  writeU32Be 0 headerWord
  writeU32Be 1 prologue.streamId
  writeU32Be 2 ((prologue.classId.padBitCount.toUInt32 <<< 27) ||| prologue.classId.oui)
  writeU32Be 3 ((prologue.classId.informationClass.raw.toUInt32 <<< 16) |||
    prologue.classId.packetClass.raw.toUInt32)
  writeU32Be 4 prologue.integerSecondsTimestamp
  writeU64Be 5 prologue.fractionalSecondsTimestamp

def writeSignalContext (packet : SignalContextPacket) : Write Unit := do
  writeU32Be 7 packet.cif0
  writeU32Be 8 packet.referencePoint
  writeU64Be 9 packet.bandwidth.raw
  writeI64Be 11 packet.ifReferenceFrequency.raw
  writeI64Be 13 packet.rfReferenceFrequency.raw
  writeI64Be 15 packet.ifBandOffset.raw
  writeU32Be 17 ((packet.scalingLevel.toUInt16.toUInt32 <<< 16) |||
    packet.referenceLevel.toUInt16.toUInt32)
  writeU32Be 18 ((packet.gain2.toUInt32 <<< 16) ||| packet.gain1.toUInt32)
  writeU64Be 19 packet.sampleRate.raw
  writeI64Be 21 packet.timestampAdjustment.raw
  writeU32Be 23 packet.timestampCalibrationTime
  writeU32Be 24 packet.stateAndEventIndicators
  writeU32Be 25 packet.payloadFormat.rawWord0
  writeU32Be 26 packet.payloadFormat.rawWord1

def versionWord (packet : VersionContextPacket) : UInt32 :=
  (packet.year.toUInt32 <<< 25) ||| (packet.day.toUInt32 <<< 16) ||| (packet.revision.toUInt32 <<< 10) |||
    (packet.deviceType.toUInt32 <<< 6) ||| packet.icdVersion.code.toUInt32

def writeVersionContext (packet : VersionContextPacket) : Write Unit := do
  writeU32Be 7 packet.cif0
  writeU32Be 8 packet.cif1
  writeU32Be 9 packet.vita49SpecVersion
  writeU32Be 10 (versionWord packet)

def writeCommon (common : CommandCommon) : Write Unit := do
  writeU32Be 7 common.cam
  writeU32Be 8 common.messageId
  writeU32Be 9 common.controlleeId
  writeU32Be 10 common.controllerId

def writeTimingFlowControl (packet : TimingFlowControlPacket) : Write Unit := do
  writeCommon packet.common
  writeU32Be 11 packet.cif0
  writeU32Be 12 packet.cif1
  writeU32Be 13 packet.referencePoint
  writeU64Be 14 packet.sampleRate.raw
  writeI64Be 16 packet.timestampAdjustment.raw
  writeU64Be 18 packet.bufferSizeBytes
  writeU32Be 20 packet.bufferStatus.raw

def writeSinkCapabilitiesQuery (packet : SinkCapabilitiesQueryPacket) : Write Unit := do
  writeCommon packet.common
  writeU32Be 11 packet.cif0
  match packet.form with
  | .long =>
    let cif1 ← Mut.lift (required "cif1" packet.cif1)
    writeU32Be 12 cif1
  | .short =>
    let integer ← Mut.lift (required "sink_time_calibration_integer" packet.sinkTimeCalibrationInteger)
    writeU32Be 12 integer
    let fractional ← Mut.lift
      (required "sink_time_calibration_fractional" packet.sinkTimeCalibrationFractional)
    writeU64Be 13 fractional

def writeSinkCapabilitiesResponse (packet : SinkCapabilitiesResponsePacket) : Write Unit := do
  writeCommon packet.common
  writeU32Be 11 packet.cif0
  match packet.form with
  | .long =>
    let cif1 ← Mut.lift (required "cif1" packet.cif1)
    writeU32Be 12 cif1
    let stop ← Mut.lift (addUsize (13 * wordBytes) packet.capabilityTable.length)
    Mut.copyInto (13 * wordBytes) stop packet.capabilityTable
  | .short =>
    let controlInteger ← Mut.lift
      (required "control_packet_integer_timestamp" packet.controlPacketIntegerTimestamp)
    writeU32Be 12 controlInteger
    let controlFractional ← Mut.lift
      (required "control_packet_fractional_timestamp" packet.controlPacketFractionalTimestamp)
    writeU64Be 13 controlFractional
    let receptionInteger ← Mut.lift
      (required "sink_reception_integer_timestamp" packet.sinkReceptionIntegerTimestamp)
    writeU32Be 15 receptionInteger
    let receptionFractional ← Mut.lift
      (required "sink_reception_fractional_timestamp" packet.sinkReceptionFractionalTimestamp)
    writeU64Be 16 receptionFractional

def writeStatusReport (packet : StatusReportPacket) : Write Unit := do
  writeCommon packet.common
  writeU32Be 11 packet.cif0
  writeU32Be 12 packet.cif1
  writeU32Be 13 packet.packetErrors
  writeU32Be 14 packet.sinkErrorsWarnings
  (match packet.referenceLevelLimit with
    | some referenceLevelLimit => do
      writeU32Be 15 referenceLevelLimit.rawMinMax
      writeU32Be 16 referenceLevelLimit.rawResolutionReserved
    | none => pure ())
  (match packet.sampleRateLimit with
    | some sampleRateLimit => writeU64Be 17 sampleRateLimit.raw
    | none => pure ())
  match packet.bandwidthLimit with
  | some bandwidthLimit => writeU64Be 19 bandwidthLimit.raw
  | none => pure ()

/-- The body of a packet, written by variant whatever its packet class. -/
def writeBody (packet : Packet) (encodedLen : Nat) : Write Unit :=
  match packet with
  | .signalData packet => Mut.copyInto prologueBytes encodedLen packet.payload
  | .signalContext packet => writeSignalContext packet
  | .versionContext packet => writeVersionContext packet
  | .timingFlowControl packet => writeTimingFlowControl packet
  | .sinkCapabilitiesQuery packet => writeSinkCapabilitiesQuery packet
  | .sinkCapabilitiesResponse packet => writeSinkCapabilitiesResponse packet
  | .statusReport packet => writeStatusReport packet

def writePacketWithOptions (packet : Packet) (options : WriteOptions) : Write Nat := do
  let plan ← Mut.lift (preparePacket packet options)
  let encodedLen ← Mut.lift (mulUsize plan.packetSizeWords.toNat wordBytes)
  let outLen ← Mut.length
  if outLen < encodedLen then Mut.lift (.err (.outputTooSmall encodedLen outLen))
  else do
    Mut.onPrefix encodedLen (writePrologue packet.prologue plan)
    writeBody packet encodedLen
    pure encodedLen

def writePacket (packet : Packet) : Write Nat := writePacketWithOptions packet {}

def signalDataSpecWords (spec : SignalDataWriteSpec) (payloadBytes : Nat) : WriteResult UInt16 :=
  if payloadBytes % wordBytes ≠ 0 then .err (.payloadLengthNotWordAligned payloadBytes)
  else if spec.sequence > 0x0F then
    .err (.fieldOutOfRange "sequence" 0x0F spec.sequence.toUInt64)
  else do
    let words ← addUsize prologueWords.toNat (payloadBytes / wordBytes)
    let packetSizeWords ← Outcome.okOr (tryIntoU16 words) (.packetTooLarge words)
    let headerWord ← headerWord .signalDataWithStreamId 0 spec.tsi spec.tsf spec.sequence packetSizeWords
    let classId : ClassId := {
      padBitCount := 0
      oui := difiCid
      informationClass := spec.informationClass
      packetClass := spec.packetClass }
    let profile := profile {}
    let header : PacketHeader := {
      raw := headerWord
      packetType := .signalDataWithStreamId
      classIdIndicator := true
      typeSpecificBits := 0
      tsm := none
      tsi := spec.tsi
      tsf := spec.tsf
      sequence := spec.sequence
      packetSizeWords }
    profileError (profile.validatePacketTypeAvailable .signalDataWithStreamId)
    profileError (profile.validatePacketClassAvailable spec.packetClass)
    profileError (profile.validatePacketTypeClass .signalDataWithStreamId spec.packetClass)
    profileError (profile.validateHeaderBits header spec.packetClass)
    profileError (profile.validateClassMembership spec.informationClass spec.packetClass)
    profileError (profile.validateTsf header spec.packetClass)
    profileError (profile.validateTsm header spec.informationClass spec.packetClass)
    validateClassId classId
    .ok packetSizeWords

def iqI8Words (spec : SignalDataWriteSpec) (samples : List ComplexI8) : WriteResult UInt16 :=
  if samples.length % 2 ≠ 0 then .err (.oddComplexI8SampleCount samples.length)
  else do
    let payloadBytes ← Outcome.okOr (checkedMulUsize samples.length 2) (.packetTooLarge (usizeLimit - 1))
    signalDataSpecWords spec payloadBytes

def iqI16Words (spec : SignalDataWriteSpec) (samples : List ComplexI16) : WriteResult UInt16 := do
  let payloadBytes ← Outcome.okOr (checkedMulUsize samples.length 4) (.packetTooLarge (usizeLimit - 1))
  signalDataSpecWords spec payloadBytes

def encodedIqDataI8Len (spec : SignalDataWriteSpec) (samples : List ComplexI8) : WriteResult Nat := do
  let words ← iqI8Words spec samples
  mulUsize words.toNat wordBytes

def encodedIqDataI16Len (spec : SignalDataWriteSpec) (samples : List ComplexI16) : WriteResult Nat := do
  let words ← iqI16Words spec samples
  mulUsize words.toNat wordBytes

def writeSignalDataSpecPrologue (spec : SignalDataWriteSpec) (words : UInt16) : Write Unit := do
  let header ← Mut.lift
    (headerWord .signalDataWithStreamId 0 spec.tsi spec.tsf spec.sequence words).expect
  writeU32Be 0 header
  writeU32Be 1 spec.streamId
  writeU32Be 2 difiCid
  writeU32Be 3 ((spec.informationClass.raw.toUInt32 <<< 16) ||| spec.packetClass.raw.toUInt32)
  writeU32Be 4 spec.integerSecondsTimestamp
  writeU64Be 5 spec.fractionalSecondsTimestamp

def writeSamplesI8 (offset : Nat) : List ComplexI8 → Write Unit
  | [] => pure ()
  | sample :: samples => do
    Mut.storeAt offset sample.i.toUInt8
    let next ← Mut.lift (addUsize offset 1)
    Mut.storeAt next sample.q.toUInt8
    let offset ← Mut.lift (addUsize offset 2)
    writeSamplesI8 offset samples

def i16ToBeBytes (value : Int16) : List UInt8 :=
  [(value.toUInt16 >>> 8).toUInt8, value.toUInt16.toUInt8]

def writeSamplesI16 (offset : Nat) : List ComplexI16 → Write Unit
  | [] => pure ()
  | sample :: samples => do
    let middle ← Mut.lift (addUsize offset 2)
    Mut.copyInto offset middle (i16ToBeBytes sample.i)
    let stop ← Mut.lift (addUsize offset 4)
    Mut.copyInto middle stop (i16ToBeBytes sample.q)
    writeSamplesI16 stop samples

def writeIqDataI8 (spec : SignalDataWriteSpec) (samples : List ComplexI8) : Write Nat := do
  let words ← Mut.lift (iqI8Words spec samples)
  let encodedLen ← Mut.lift (mulUsize words.toNat wordBytes)
  let outLen ← Mut.length
  if outLen < encodedLen then Mut.lift (.err (.outputTooSmall encodedLen outLen))
  else do
    writeSignalDataSpecPrologue spec words
    writeSamplesI8 prologueBytes samples
    pure encodedLen

def writeIqDataI16 (spec : SignalDataWriteSpec) (samples : List ComplexI16) : Write Nat := do
  let words ← Mut.lift (iqI16Words spec samples)
  let encodedLen ← Mut.lift (mulUsize words.toNat wordBytes)
  let outLen ← Mut.length
  if outLen < encodedLen then Mut.lift (.err (.outputTooSmall encodedLen outLen))
  else do
    writeSignalDataSpecPrologue spec words
    writeSamplesI16 prologueBytes samples
    pure encodedLen

end Writer

end Difi
