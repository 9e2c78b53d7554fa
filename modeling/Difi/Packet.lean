import Difi.Codes

namespace Difi

open Machine

structure PacketHeader where
  raw : UInt32
  packetType : PacketType
  classIdIndicator : Bool
  typeSpecificBits : UInt8
  tsm : Option TimestampMode
  tsi : Tsi
  tsf : Tsf
  sequence : UInt8
  packetSizeWords : UInt16
deriving DecidableEq, Repr

def PacketHeader.parse (raw : UInt32) : Result PacketHeader := do
  let packetType ← PacketType.tryFrom ((raw >>> 28) &&& 0xF).toUInt8
  let classIdIndicator := ((raw >>> 27) &&& 0x1) == 1
  let typeSpecificBits := ((raw >>> 24) &&& 0x7).toUInt8
  let tsi ← Tsi.tryFrom ((raw >>> 22) &&& 0x3).toUInt8
  let tsf ← Tsf.tryFrom ((raw >>> 20) &&& 0x3).toUInt8
  let sequence := ((raw >>> 16) &&& 0xF).toUInt8
  let packetSizeWords := (raw &&& 0xFFFF).toUInt16
  let tsm := match packetType with
    | .contextWithStreamId | .versionWithStreamId =>
      if (typeSpecificBits &&& 0b001) == 1 then some TimestampMode.coarse
      else some TimestampMode.fine
    | _ => none
  .ok { raw, packetType, classIdIndicator, typeSpecificBits, tsm, tsi, tsf, sequence, packetSizeWords }

def difiCid : UInt32 := 0x6A621E

structure ClassId where
  padBitCount : UInt8
  oui : UInt32
  informationClass : InformationClassCode
  packetClass : PacketClassCode
deriving DecidableEq, Repr

def ClassId.parse (word0 word1 : UInt32) : Result ClassId :=
  let padBitCount := ((word0 >>> 27) &&& 0x1F).toUInt8
  let reserved := (word0 >>> 24) &&& 0x7
  if reserved ≠ 0 then .err (.reservedBitsNonZero "class identifier" reserved)
  else
    let oui := word0 &&& 0x00FFFFFF
    if oui ≠ difiCid then .err (.invalidOui oui)
    else do
      let informationClass ← InformationClassCode.tryFrom (word1 >>> 16).toUInt16
      let packetClass ← PacketClassCode.tryFrom (word1 &&& 0xFFFF).toUInt16
      .ok { padBitCount, oui, informationClass, packetClass }

inductive PayloadSampleFormat where
  | complexSignedCartesian
deriving DecidableEq, Repr

structure PayloadFormat where
  rawWord0 : UInt32
  rawWord1 : UInt32
  sampleFormat : PayloadSampleFormat
  dataItemSizeBits : UInt8
  itemPackingFieldSizeBits : UInt8
deriving DecidableEq, Repr

def PayloadFormat.parse (word0 word1 : UInt32) : Result PayloadFormat := do
  let dataItemSizeMinusOne := (word0 &&& 0x3F).toUInt8
  let itemPackingMinusOne := ((word0 >>> 6) &&& 0x3F).toUInt8
  let fixed := word0 &&& ~~~0x0FFF
  let dataItemSizeBits ← addU8 dataItemSizeMinusOne 1
  let itemPackingFieldSizeBits ← addU8 itemPackingMinusOne 1
  if fixed ≠ 0xA0000000 ∨ word1 ≠ 0 ∨ dataItemSizeMinusOne ≠ itemPackingMinusOne ∨
      ¬(4 ≤ dataItemSizeBits ∧ dataItemSizeBits ≤ 16) then
    .err (.invalidPayloadFormat word0 word1)
  else
    .ok { rawWord0 := word0, rawWord1 := word1, sampleFormat := .complexSignedCartesian,
          dataItemSizeBits, itemPackingFieldSizeBits }

structure Prologue where
  header : PacketHeader
  streamId : UInt32
  classId : ClassId
  integerSecondsTimestamp : UInt32
  fractionalSecondsTimestamp : UInt64
deriving DecidableEq, Repr

structure FixedU64 where
  raw : UInt64
deriving DecidableEq, Repr

structure FixedI64 where
  raw : Int64
deriving DecidableEq, Repr

structure SignalDataPacket where
  prologue : Prologue
  payload : List UInt8
deriving DecidableEq, Repr

structure SignalContextPacket where
  prologue : Prologue
  cif0 : UInt32
  contextChanged : Bool
  referencePoint : UInt32
  bandwidth : FixedU64
  ifReferenceFrequency : FixedI64
  rfReferenceFrequency : FixedI64
  ifBandOffset : FixedI64
  scalingLevel : Int16
  referenceLevel : Int16
  gain2 : UInt16
  gain1 : UInt16
  sampleRate : FixedU64
  timestampAdjustment : FixedI64
  timestampCalibrationTime : UInt32
  stateAndEventIndicators : UInt32
  payloadFormat : PayloadFormat
deriving DecidableEq, Repr

inductive DifiVersionCode where
  | version1
deriving DecidableEq, Repr

def DifiVersionCode.code : DifiVersionCode → UInt8
  | .version1 => 0

structure VersionContextPacket where
  prologue : Prologue
  cif0 : UInt32
  contextChanged : Bool
  cif1 : UInt32
  vita49SpecVersion : UInt32
  year : UInt8
  day : UInt16
  revision : UInt8
  deviceType : UInt8
  icdVersion : DifiVersionCode
deriving DecidableEq, Repr

inductive CapabilityForm where
  | long
  | short
deriving DecidableEq, Repr

structure CommandCommon where
  cam : UInt32
  messageId : UInt32
  controlleeId : UInt32
  controllerId : UInt32
deriving DecidableEq, Repr

structure BufferStatus where
  raw : UInt32
  bufferLevel : UInt16
  overflow : Bool
  nearlyFull : Bool
  nearlyEmpty : Bool
  underflow : Bool
deriving DecidableEq, Repr

structure TimingFlowControlPacket where
  prologue : Prologue
  common : CommandCommon
  cif0 : UInt32
  cif1 : UInt32
  referencePoint : UInt32
  sampleRate : FixedU64
  timestampAdjustment : FixedI64
  bufferSizeBytes : UInt64
  bufferStatus : BufferStatus
deriving DecidableEq, Repr

structure SinkCapabilitiesQueryPacket where
  prologue : Prologue
  common : CommandCommon
  form : CapabilityForm
  cif0 : UInt32
  cif1 : Option UInt32
  sinkTimeCalibrationInteger : Option UInt32
  sinkTimeCalibrationFractional : Option UInt64
deriving DecidableEq, Repr

structure SinkCapabilitiesResponsePacket where
  prologue : Prologue
  common : CommandCommon
  form : CapabilityForm
  cif0 : UInt32
  cif1 : Option UInt32
  controlPacketIntegerTimestamp : Option UInt32
  controlPacketFractionalTimestamp : Option UInt64
  sinkReceptionIntegerTimestamp : Option UInt32
  sinkReceptionFractionalTimestamp : Option UInt64
  capabilityTable : List UInt8
deriving DecidableEq, Repr

structure ReferenceLevelLimit where
  rawMinMax : UInt32
  rawResolutionReserved : UInt32
deriving DecidableEq, Repr

structure StatusReportPacket where
  prologue : Prologue
  common : CommandCommon
  cif0 : UInt32
  cif1 : UInt32
  packetErrors : UInt32
  sinkErrorsWarnings : UInt32
  referenceLevelLimit : Option ReferenceLevelLimit
  sampleRateLimit : Option FixedU64
  bandwidthLimit : Option FixedU64
deriving DecidableEq, Repr

inductive Packet where
  | signalData (packet : SignalDataPacket)
  | signalContext (packet : SignalContextPacket)
  | versionContext (packet : VersionContextPacket)
  | timingFlowControl (packet : TimingFlowControlPacket)
  | sinkCapabilitiesQuery (packet : SinkCapabilitiesQueryPacket)
  | sinkCapabilitiesResponse (packet : SinkCapabilitiesResponsePacket)
  | statusReport (packet : StatusReportPacket)
deriving DecidableEq, Repr

def Packet.prologue : Packet → Prologue
  | .signalData packet => packet.prologue
  | .signalContext packet => packet.prologue
  | .versionContext packet => packet.prologue
  | .timingFlowControl packet => packet.prologue
  | .sinkCapabilitiesQuery packet => packet.prologue
  | .sinkCapabilitiesResponse packet => packet.prologue
  | .statusReport packet => packet.prologue

end Difi
