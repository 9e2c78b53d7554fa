import Difi.Machine.Bytes
import Difi.Standard

namespace Difi

open Machine

def wordBytes : Nat := 4
def prologueWords : UInt16 := 7
def prologueBytes : Nat := prologueWords.toNat * wordBytes

def readU32Be (input : List UInt8) (wordIndex : Nat) : Result UInt32 := do
  let start ← mulUsize wordIndex wordBytes
  let stop ← addUsize start wordBytes
  let bytes ← Outcome.okOr (getRange input start stop) (.inputTooShort stop input.length)
  let b0 ← indexAt bytes 0
  let b1 ← indexAt bytes 1
  let b2 ← indexAt bytes 2
  let b3 ← indexAt bytes 3
  .ok (fromBeBytes b0 b1 b2 b3)

def readU64Be (input : List UInt8) (wordIndex : Nat) : Result UInt64 := do
  let high ← readU32Be input wordIndex
  let lowIndex ← addUsize wordIndex 1
  let low ← readU32Be input lowIndex
  .ok (joinWords high low)

def readI64Be (input : List UInt8) (wordIndex : Nat) : Result Int64 := do
  let value ← readU64Be input wordIndex
  .ok value.toInt64

namespace Parser

def expectNoPadding (prologue : Prologue) : Result Unit :=
  if prologue.classId.padBitCount = 0 then .ok ()
  else .err (.padBitsNotAllowed prologue.classId.informationClass prologue.classId.packetClass
    prologue.classId.padBitCount)

def validateDataPadding (payload : List UInt8) (padBitCount : UInt8) : Result Unit :=
  if padBitCount = 0 then .ok ()
  else do
    let payloadBits ← mulUsize payload.length 8
    if padBitCount.toNat > payloadBits then .err (.invalidPadding padBitCount payloadBits)
    else if payload.isEmpty then .err (.invalidPadding padBitCount payloadBits)
    else
      let fullPadBytes := (padBitCount / 8).toNat
      let partialPadBits := padBitCount % 8
      -- The whole trailing pad bytes, looked at only when there are some.
      (if fullPadBytes ≠ 0 then do
        let start ← subUsize payload.length fullPadBytes
        let trailing ← sliceFrom payload start
        if trailing.any (· ≠ 0) then .err .nonZeroPaddingBits else .ok ()
      else .ok ())
      -- The low bits of the byte before them.
      if partialPadBits ≠ 0 then do
        let beforePad ← subUsize payload.length fullPadBytes
        let byteIndex ← subUsize beforePad 1
        let bit ← shlU16 1 partialPadBits.toUInt16
        let mask ← subU16 bit 1
        let byte ← indexAt payload byteIndex
        if byte.toUInt16 &&& mask ≠ 0 then .err .nonZeroPaddingBits else .ok ()
      else .ok ()

def parseCommon (input : List UInt8) : Result CommandCommon := do
  let cam ← readU32Be input 7
  let messageId ← readU32Be input 8
  let controlleeId ← readU32Be input 9
  let controllerId ← readU32Be input 10
  .ok { cam, messageId, controlleeId, controllerId }

def parseData (input : List UInt8) (prologue : Prologue) (profile : StandardProfile) :
    Result SignalDataPacket :=
  let packetClass := prologue.classId.packetClass
  let informationClass := prologue.classId.informationClass
  if prologue.header.packetSizeWords < prologueWords then
    .err (.packetSizeTooSmall prologue.header.packetSizeWords)
  else do
    let payload ← sliceFrom input prologueBytes
    let padBitCount := prologue.classId.padBitCount
    if padBitCount ≠ 0 ∧ !profile.permitsDataPadding informationClass packetClass then
      .err (.padBitsNotAllowed informationClass packetClass padBitCount)
    else
      validateDataPadding payload padBitCount
      .ok { prologue, payload }

def parseSignalContext (input : List UInt8) (prologue : Prologue) (profile : StandardProfile) :
    Result SignalContextPacket := do
  profile.expectPacketSize .signalContext prologue.classId.packetClass prologue.header.packetSizeWords
  expectNoPadding prologue
  let cif0 ← readU32Be input 7
  profile.expectSignalContextCif0 cif0
  let bandwidth ← readU64Be input 9
  let sampleRate ← readU64Be input 19
  validateFixedIntegerHz "context bandwidth" bandwidth
  validateFixedIntegerHz "context sample rate" sampleRate
  let ifReferenceFrequency ← readI64Be input 11
  let rfReferenceFrequency ← readI64Be input 13
  let ifBandOffset ← readI64Be input 15
  validateFixedIntegerHz "context IF reference frequency" ifReferenceFrequency.toUInt64
  validateFixedIntegerHz "context RF reference frequency" rfReferenceFrequency.toUInt64
  validateFixedIntegerHz "context IF band offset" ifBandOffset.toUInt64
  let referencePoint ← readU32Be input 8
  let scalingWord ← readU32Be input 17
  let referenceWord ← readU32Be input 17
  let gain2Word ← readU32Be input 18
  let gain1Word ← readU32Be input 18
  let timestampAdjustment ← readI64Be input 21
  let timestampCalibrationTime ← readU32Be input 23
  let stateAndEventIndicators ← readU32Be input 24
  let formatWord0 ← readU32Be input 25
  let formatWord1 ← readU32Be input 26
  let payloadFormat ← PayloadFormat.parse formatWord0 formatWord1
  .ok {
    prologue
    cif0
    contextChanged := cif0 == cifContextChanged
    referencePoint
    bandwidth := ⟨bandwidth⟩
    ifReferenceFrequency := ⟨ifReferenceFrequency⟩
    rfReferenceFrequency := ⟨rfReferenceFrequency⟩
    ifBandOffset := ⟨ifBandOffset⟩
    scalingLevel := (scalingWord >>> 16).toUInt16.toInt16
    referenceLevel := referenceWord.toUInt16.toInt16
    gain2 := (gain2Word >>> 16).toUInt16
    gain1 := gain1Word.toUInt16
    sampleRate := ⟨sampleRate⟩
    timestampAdjustment := ⟨timestampAdjustment⟩
    timestampCalibrationTime
    stateAndEventIndicators
    payloadFormat }

def parseVersionContext (input : List UInt8) (prologue : Prologue) (profile : StandardProfile) :
    Result VersionContextPacket := do
  profile.expectPacketSize .versionContext prologue.classId.packetClass prologue.header.packetSizeWords
  expectNoPadding prologue
  let cif0 ← readU32Be input 7
  profile.expectVersionContextCif0 cif0
  let cif1 ← readU32Be input 8
  profile.expectVersionContextCif1 cif1
  let vita49SpecVersion ← readU32Be input 9
  profile.expectVita49SpecVersion vita49SpecVersion
  let versionWord ← readU32Be input 10
  let deviceType := ((versionWord >>> 6) &&& 0xF).toUInt8
  let icdVersionCode := (versionWord &&& 0x3F).toUInt8
  if deviceType ≠ 0 then .err (.invalidFieldValue "version device type" 0 deviceType.toUInt32)
  else if icdVersionCode ≠ DifiVersionCode.version1.code then
    .err (.invalidFieldValue "DIFI ICD version" DifiVersionCode.version1.code.toUInt32
      icdVersionCode.toUInt32)
  else
    .ok {
      prologue
      cif0
      contextChanged := cif0 == cifVersionChanged
      cif1
      vita49SpecVersion
      year := ((versionWord >>> 25) &&& 0x7F).toUInt8
      day := ((versionWord >>> 16) &&& 0x1FF).toUInt16
      revision := ((versionWord >>> 10) &&& 0x3F).toUInt8
      deviceType
      icdVersion := .version1 }

def parseTimingFlowControl (input : List UInt8) (prologue : Prologue) (profile : StandardProfile) :
    Result TimingFlowControlPacket := do
  profile.expectPacketSize .timingFlowControl prologue.classId.packetClass
    prologue.header.packetSizeWords
  expectNoPadding prologue
  let common ← parseCommon input
  profile.expectTimingFlowControlCam common.cam
  let cif0 ← readU32Be input 11
  let cif1 ← readU32Be input 12
  profile.expectTimingFlowControlCif0 cif0
  profile.expectTimingFlowControlCif1 cif1
  let sampleRateRaw ← readU64Be input 14
  validateFixedIntegerHz "timing flow control sample rate" sampleRateRaw
  let bufferStatusRaw ← readU32Be input 20
  if bufferStatusRaw >>> 16 ≠ 0 then .err (.reservedBitsNonZero "buffer status" (bufferStatusRaw >>> 16))
  else do
    let bufferLevel := ((bufferStatusRaw >>> 4) &&& 0x0FFF).toUInt16
    let flags := (bufferStatusRaw &&& 0xF).toUInt8
    let referencePoint ← readU32Be input 13
    let timestampAdjustment ← readI64Be input 16
    let bufferSizeBytes ← readU64Be input 18
    .ok {
      prologue
      common
      cif0
      cif1
      referencePoint
      sampleRate := ⟨sampleRateRaw⟩
      timestampAdjustment := ⟨timestampAdjustment⟩
      bufferSizeBytes
      bufferStatus := {
        raw := bufferStatusRaw
        bufferLevel
        overflow := flags &&& 0b1000 != 0
        nearlyFull := flags &&& 0b0100 != 0
        nearlyEmpty := flags &&& 0b0010 != 0
        underflow := flags &&& 0b0001 != 0 } }

def parseSinkCapabilitiesQuery (input : List UInt8) (prologue : Prologue) (profile : StandardProfile) :
    Result SinkCapabilitiesQueryPacket := do
  expectNoPadding prologue
  let common ← parseCommon input
  profile.expectSinkCapabilitiesQueryCam common.cam
  let cif0 ← readU32Be input 11
  let isShort := cif0 &&& 0x80000000 != 0
  if isShort then do
    profile.expectPacketSize .sinkCapabilitiesQueryShort prologue.classId.packetClass
      prologue.header.packetSizeWords
    profile.expectSinkCapabilitiesShortQueryCif0 cif0
    let sinkTimeCalibrationInteger ← readU32Be input 12
    let sinkTimeCalibrationFractional ← readU64Be input 13
    .ok {
      prologue
      common
      form := .short
      cif0
      cif1 := none
      sinkTimeCalibrationInteger := some sinkTimeCalibrationInteger
      sinkTimeCalibrationFractional := some sinkTimeCalibrationFractional }
  else do
    profile.expectPacketSize .sinkCapabilitiesQueryLong prologue.classId.packetClass
      prologue.header.packetSizeWords
    profile.expectSinkCapabilitiesLongQueryCif0 cif0
    let cif1 ← readU32Be input 12
    profile.expectSinkCapabilitiesLongQueryCif1 cif1
    .ok {
      prologue
      common
      form := .long
      cif0
      cif1 := some cif1
      sinkTimeCalibrationInteger := none
      sinkTimeCalibrationFractional := none }

def parseSinkCapabilitiesResponse (input : List UInt8) (prologue : Prologue)
    (profile : StandardProfile) : Result SinkCapabilitiesResponsePacket := do
  expectNoPadding prologue
  let common ← parseCommon input
  profile.expectSinkCapabilitiesResponseCam common.cam
  let cif0 ← readU32Be input 11
  let isShort := cif0 &&& 0x80000000 != 0
  if isShort then do
    profile.expectPacketSize .sinkCapabilitiesResponseShort prologue.classId.packetClass
      prologue.header.packetSizeWords
    profile.expectSinkCapabilitiesShortResponseCif0 cif0
    let controlPacketIntegerTimestamp ← readU32Be input 12
    let controlPacketFractionalTimestamp ← readU64Be input 13
    let sinkReceptionIntegerTimestamp ← readU32Be input 15
    let sinkReceptionFractionalTimestamp ← readU64Be input 16
    .ok {
      prologue
      common
      form := .short
      cif0
      cif1 := none
      controlPacketIntegerTimestamp := some controlPacketIntegerTimestamp
      controlPacketFractionalTimestamp := some controlPacketFractionalTimestamp
      sinkReceptionIntegerTimestamp := some sinkReceptionIntegerTimestamp
      sinkReceptionFractionalTimestamp := some sinkReceptionFractionalTimestamp
      capabilityTable := [] }
  else if prologue.header.packetSizeWords ≤ 13 then
    .err (.invalidPacketSize prologue.classId.packetClass 14 prologue.header.packetSizeWords)
  else do
    profile.expectSinkCapabilitiesLongResponseCif0 cif0
    let cif1 ← readU32Be input 12
    profile.expectSinkCapabilitiesLongResponseCif1 cif1
    let capabilityTable ← sliceFrom input (13 * wordBytes)
    .ok {
      prologue
      common
      form := .long
      cif0
      cif1 := some cif1
      controlPacketIntegerTimestamp := none
      controlPacketFractionalTimestamp := none
      sinkReceptionIntegerTimestamp := none
      sinkReceptionFractionalTimestamp := none
      capabilityTable }

def parseStatusReport (input : List UInt8) (prologue : Prologue) (profile : StandardProfile) :
    Result StatusReportPacket := do
  let packetSize := prologue.header.packetSizeWords
  profile.validateStatusReportSize prologue.classId.packetClass packetSize
  expectNoPadding prologue
  let common ← parseCommon input
  profile.expectStatusReportCam common.cam
  let cif0 ← readU32Be input 11
  profile.expectStatusReportCif0 cif0
  let cif1 ← readU32Be input 12
  profile.expectStatusReportCif1 cif1
  let packetErrors ← readU32Be input 13
  let sinkErrorsWarnings ← readU32Be input 14
  let expectedFlags : UInt32 ← (match packetSize with
    | 15 => .ok 0
    | 17 => .ok 0x10
    | 21 => .ok 0x18
    | _ => .panic)
  let actualFlags := sinkErrorsWarnings &&& 0x18
  if actualFlags ≠ expectedFlags then
    .err (.invalidFieldValue "status report quantitative flags" expectedFlags actualFlags)
  else do
    let referenceLevelLimit ← (if packetSize ≥ 17 then do
      let rawMinMax ← readU32Be input 15
      let rawResolutionReserved ← readU32Be input 16
      .ok (some { rawMinMax, rawResolutionReserved })
    else .ok none)
    let limits ← (if packetSize = 21 then do
      let sampleRate ← readU64Be input 17
      let bandwidth ← readU64Be input 19
      validateFixedIntegerHz "status sample rate limit" sampleRate
      validateFixedIntegerHz "status bandwidth limit" bandwidth
      .ok (some (FixedU64.mk sampleRate), some (FixedU64.mk bandwidth))
    else .ok (none, none))
    .ok {
      prologue
      common
      cif0
      cif1
      packetErrors
      sinkErrorsWarnings
      referenceLevelLimit
      sampleRateLimit := limits.1
      bandwidthLimit := limits.2 }

def parseSinglePacket (input : List UInt8) (profile : StandardProfile) : Result Packet := do
  let headerWord ← readU32Be input 0
  let header ← PacketHeader.parse headerWord
  if !header.classIdIndicator then .err .missingClassId
  else do
    let word2 ← readU32Be input 2
    let word3 ← readU32Be input 3
    let classId ← ClassId.parse word2 word3
    profile.validatePacketTypeAvailable header.packetType
    profile.validatePacketClassAvailable classId.packetClass
    profile.validatePacketTypeClass header.packetType classId.packetClass
    profile.validateHeaderBits header classId.packetClass
    profile.validateClassMembership classId.informationClass classId.packetClass
    profile.validateTsf header classId.packetClass
    profile.validateTsm header classId.informationClass classId.packetClass
    let streamId ← readU32Be input 1
    let integerSecondsTimestamp ← readU32Be input 4
    let fractionalSecondsTimestamp ← readU64Be input 5
    let prologue : Prologue :=
      { header, streamId, classId, integerSecondsTimestamp, fractionalSecondsTimestamp }
    match classId.packetClass with
    | .standardFlowSignalData | .sampleCountSignalData =>
      (parseData input prologue profile).map .signalData
    | .standardFlowSignalContext | .sampleCountSignalContext =>
      (parseSignalContext input prologue profile).map .signalContext
    | .versionFlowSignalContext =>
      (parseVersionContext input prologue profile).map .versionContext
    | .sampleCountTimingFlowControl | .realTimeTimingFlowControl =>
      (parseTimingFlowControl input prologue profile).map .timingFlowControl
    | .sinkCapabilitiesQuery =>
      (parseSinkCapabilitiesQuery input prologue profile).map .sinkCapabilitiesQuery
    | .sinkCapabilitiesResponse =>
      (parseSinkCapabilitiesResponse input prologue profile).map .sinkCapabilitiesResponse
    | .statusReport =>
      (parseStatusReport input prologue profile).map .statusReport

def parsePacketPrefixWithOptions (input : List UInt8) (options : ParseOptions) :
    Result (Packet × List UInt8) :=
  if input.length < prologueBytes then .err (.inputTooShort prologueBytes input.length)
  else do
    let headerWord ← readU32Be input 0
    let packetSizeWords := (headerWord &&& 0xFFFF).toUInt16
    if packetSizeWords < prologueWords then .err (.packetSizeTooSmall packetSizeWords)
    else do
      let packetLen ← mulUsize packetSizeWords.toNat wordBytes
      if input.length < packetLen then .err (.packetTruncated packetLen input.length)
      else do
        let packetBytes ← sliceTo input packetLen
        let remainder ← sliceFrom input packetLen
        let packet ← parseSinglePacket packetBytes ⟨options⟩
        .ok (packet, remainder)

def parsePacketExactWithOptions (input : List UInt8) (options : ParseOptions) : Result Packet := do
  let (packet, remainder) ← parsePacketPrefixWithOptions input options
  if remainder.isEmpty then .ok packet else .err (.trailingBytes remainder.length)

def parsePacketExact (input : List UInt8) : Result Packet := parsePacketExactWithOptions input {}

end Parser

end Difi
