import Difi.Machine.Outcome

namespace Difi

open Machine

inductive PacketType where
  | signalDataWithStreamId
  | contextWithStreamId
  | versionWithStreamId
  | commandWithStreamId
  | extensionCommandWithStreamId
deriving DecidableEq, Repr

def PacketType.code : PacketType → UInt8
  | .signalDataWithStreamId => 0x1
  | .contextWithStreamId => 0x4
  | .versionWithStreamId => 0x5
  | .commandWithStreamId => 0x6
  | .extensionCommandWithStreamId => 0x7

inductive Tsi where
  | utc
  | gps
  | posix
deriving DecidableEq, Repr

def Tsi.code : Tsi → UInt8
  | .utc => 0x1
  | .gps => 0x2
  | .posix => 0x3

inductive Tsf where
  | sampleCount
  | realTimePicoseconds
deriving DecidableEq, Repr

def Tsf.code : Tsf → UInt8
  | .sampleCount => 0x1
  | .realTimePicoseconds => 0x2

inductive TimestampMode where
  | fine
  | coarse
deriving DecidableEq, Repr

def TimestampMode.code : TimestampMode → UInt8
  | .fine => 0
  | .coarse => 1

inductive InformationClassCode where
  | basicDataPlane
  | versionFlow
  | dataPlaneUpstreamFlowControlSampleCount
  | dataPlaneUpstreamFlowControlRealTime
  | basicDataPlaneSampleCount
  | dataPlaneDownstreamFlowControlSampleCount
  | dataPlaneDownstreamFlowControlRealTime
  | basicDataPlaneWithLinkEstablishment
  | standaloneLinkEstablishment
  | dataPlaneUpstreamFlowControlSampleCountWithLinkEstablishment
  | dataPlaneUpstreamFlowControlRealTimeWithLinkEstablishment
  | basicDataPlaneSampleCountWithLinkEstablishment
  | dataPlaneDownstreamFlowControlSampleCountWithLinkEstablishment
  | dataPlaneDownstreamFlowControlRealTimeWithLinkEstablishment
deriving DecidableEq, Repr

def InformationClassCode.raw : InformationClassCode → UInt16
  | .basicDataPlane => 0x0000
  | .versionFlow => 0x0001
  | .dataPlaneUpstreamFlowControlSampleCount => 0x0002
  | .dataPlaneUpstreamFlowControlRealTime => 0x0003
  | .basicDataPlaneSampleCount => 0x0004
  | .dataPlaneDownstreamFlowControlSampleCount => 0x0005
  | .dataPlaneDownstreamFlowControlRealTime => 0x0006
  | .basicDataPlaneWithLinkEstablishment => 0x0100
  | .standaloneLinkEstablishment => 0x0101
  | .dataPlaneUpstreamFlowControlSampleCountWithLinkEstablishment => 0x0102
  | .dataPlaneUpstreamFlowControlRealTimeWithLinkEstablishment => 0x0103
  | .basicDataPlaneSampleCountWithLinkEstablishment => 0x0104
  | .dataPlaneDownstreamFlowControlSampleCountWithLinkEstablishment => 0x0105
  | .dataPlaneDownstreamFlowControlRealTimeWithLinkEstablishment => 0x0106

inductive PacketClassCode where
  | standardFlowSignalData
  | standardFlowSignalContext
  | sampleCountSignalData
  | sampleCountSignalContext
  | versionFlowSignalContext
  | sampleCountTimingFlowControl
  | realTimeTimingFlowControl
  | sinkCapabilitiesQuery
  | sinkCapabilitiesResponse
  | statusReport
deriving DecidableEq, Repr

def PacketClassCode.raw : PacketClassCode → UInt16
  | .standardFlowSignalData => 0x0000
  | .standardFlowSignalContext => 0x0001
  | .sampleCountSignalData => 0x0002
  | .sampleCountSignalContext => 0x0003
  | .versionFlowSignalContext => 0x0004
  | .sampleCountTimingFlowControl => 0x0005
  | .realTimeTimingFlowControl => 0x0006
  | .sinkCapabilitiesQuery => 0x0007
  | .sinkCapabilitiesResponse => 0x0008
  | .statusReport => 0x0009

inductive DifiStandardVersion where
  | v1_1
  | v1_2_1
  | v1_3_0
deriving DecidableEq, Repr

inductive CompatibilityMode where
  | strict
  | legacyVersionPacketType
deriving DecidableEq, Repr

structure ParseOptions where
  standard : DifiStandardVersion := .v1_3_0
  compatibility : CompatibilityMode := .strict
deriving DecidableEq, Repr

inductive ParseError where
  | inputTooShort (min actual : Nat)
  | packetSizeTooSmall (words : UInt16)
  | packetTruncated (needed actual : Nat)
  | trailingBytes (trailing : Nat)
  | unsupportedPacketType (value : UInt8)
  | missingClassId
  | reservedBitsNonZero (field : String) (bits : UInt32)
  | invalidOui (actual : UInt32)
  | invalidTsi (value : UInt8)
  | invalidTsf (value : UInt8)
  | unknownInformationClass (value : UInt16)
  | unknownPacketClass (value : UInt16)
  | packetTypeNotAvailableInStandard (standard : DifiStandardVersion) (packetType : PacketType)
  | packetClassNotAvailableInStandard (standard : DifiStandardVersion) (packetClass : PacketClassCode)
  | packetClassNotInInformationClass (informationClass : InformationClassCode) (packetClass : PacketClassCode)
  | packetTypeClassMismatch (packetType : PacketType) (packetClass : PacketClassCode)
  | invalidTsfForPacketClass (packetClass : PacketClassCode) (expected actual : Tsf)
  | invalidTsiForPacketClass (packetClass : PacketClassCode) (actual : Tsi)
  | invalidHeaderBits (field : String) (expected actual : UInt8)
  | invalidPacketSize (packetClass : PacketClassCode) (expected actual : UInt16)
  | invalidPacketSizeSet (packetClass : PacketClassCode) (expected : List UInt16) (actual : UInt16)
  | padBitsNotAllowed (informationClass : InformationClassCode) (packetClass : PacketClassCode)
      (padBitCount : UInt8)
  | invalidPadding (padBitCount : UInt8) (payloadBits : Nat)
  | nonZeroPaddingBits
  | invalidFieldValue (field : String) (expected actual : UInt32)
  | invalidFieldValueSet (field : String) (actual : UInt32)
  | invalidPayloadFormat (word0 word1 : UInt32)
  | fractionalHzNotAllowed (field : String) (raw : UInt64)
deriving DecidableEq, Repr

abbrev Result := Outcome ParseError

def PacketType.tryFrom (value : UInt8) : Result PacketType :=
  match value with
  | 0x1 => .ok .signalDataWithStreamId
  | 0x4 => .ok .contextWithStreamId
  | 0x5 => .ok .versionWithStreamId
  | 0x6 => .ok .commandWithStreamId
  | 0x7 => .ok .extensionCommandWithStreamId
  | value => .err (.unsupportedPacketType value)

def Tsi.tryFrom (value : UInt8) : Result Tsi :=
  match value with
  | 0x1 => .ok .utc
  | 0x2 => .ok .gps
  | 0x3 => .ok .posix
  | value => .err (.invalidTsi value)

def Tsf.tryFrom (value : UInt8) : Result Tsf :=
  match value with
  | 0x1 => .ok .sampleCount
  | 0x2 => .ok .realTimePicoseconds
  | value => .err (.invalidTsf value)

def InformationClassCode.tryFrom (value : UInt16) : Result InformationClassCode :=
  match value with
  | 0x0000 => .ok .basicDataPlane
  | 0x0001 => .ok .versionFlow
  | 0x0002 => .ok .dataPlaneUpstreamFlowControlSampleCount
  | 0x0003 => .ok .dataPlaneUpstreamFlowControlRealTime
  | 0x0004 => .ok .basicDataPlaneSampleCount
  | 0x0005 => .ok .dataPlaneDownstreamFlowControlSampleCount
  | 0x0006 => .ok .dataPlaneDownstreamFlowControlRealTime
  | 0x0100 => .ok .basicDataPlaneWithLinkEstablishment
  | 0x0101 => .ok .standaloneLinkEstablishment
  | 0x0102 => .ok .dataPlaneUpstreamFlowControlSampleCountWithLinkEstablishment
  | 0x0103 => .ok .dataPlaneUpstreamFlowControlRealTimeWithLinkEstablishment
  | 0x0104 => .ok .basicDataPlaneSampleCountWithLinkEstablishment
  | 0x0105 => .ok .dataPlaneDownstreamFlowControlSampleCountWithLinkEstablishment
  | 0x0106 => .ok .dataPlaneDownstreamFlowControlRealTimeWithLinkEstablishment
  | value => .err (.unknownInformationClass value)

def PacketClassCode.tryFrom (value : UInt16) : Result PacketClassCode :=
  match value with
  | 0x0000 => .ok .standardFlowSignalData
  | 0x0001 => .ok .standardFlowSignalContext
  | 0x0002 => .ok .sampleCountSignalData
  | 0x0003 => .ok .sampleCountSignalContext
  | 0x0004 => .ok .versionFlowSignalContext
  | 0x0005 => .ok .sampleCountTimingFlowControl
  | 0x0006 => .ok .realTimeTimingFlowControl
  | 0x0007 => .ok .sinkCapabilitiesQuery
  | 0x0008 => .ok .sinkCapabilitiesResponse
  | 0x0009 => .ok .statusReport
  | value => .err (.unknownPacketClass value)

/-- Each conversion accepts exactly the codes of its enumeration. -/
theorem PacketType.tryFrom_eq_ok {value : UInt8} {t : PacketType} :
    PacketType.tryFrom value = .ok t ↔ value = t.code := by
  constructor
  · intro h
    unfold PacketType.tryFrom at h
    split at h <;> cases h <;> rfl
  · rintro rfl
    cases t <;> rfl

theorem Tsi.tryFrom_eq_ok {value : UInt8} {t : Tsi} : Tsi.tryFrom value = .ok t ↔ value = t.code := by
  constructor
  · intro h
    unfold Tsi.tryFrom at h
    split at h <;> cases h <;> rfl
  · rintro rfl
    cases t <;> rfl

theorem Tsf.tryFrom_eq_ok {value : UInt8} {t : Tsf} : Tsf.tryFrom value = .ok t ↔ value = t.code := by
  constructor
  · intro h
    unfold Tsf.tryFrom at h
    split at h <;> cases h <;> rfl
  · rintro rfl
    cases t <;> rfl

theorem InformationClassCode.tryFrom_eq_ok {value : UInt16} {c : InformationClassCode} :
    InformationClassCode.tryFrom value = .ok c ↔ value = c.raw := by
  constructor
  · intro h
    unfold InformationClassCode.tryFrom at h
    split at h <;> cases h <;> rfl
  · rintro rfl
    cases c <;> rfl

theorem PacketClassCode.tryFrom_eq_ok {value : UInt16} {c : PacketClassCode} :
    PacketClassCode.tryFrom value = .ok c ↔ value = c.raw := by
  constructor
  · intro h
    unfold PacketClassCode.tryFrom at h
    split at h <;> cases h <;> rfl
  · rintro rfl
    cases c <;> rfl

end Difi
