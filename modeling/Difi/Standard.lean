import Difi.Packet

namespace Difi

open Machine

section Validation

def validateFixedIntegerHz (field : String) (raw : UInt64) : Result Unit :=
  if raw &&& (((1 : UInt64) <<< 20) - 1) = 0 then .ok () else .err (.fractionalHzNotAllowed field raw)

def expectWord (field : String) (expected actual : UInt32) : Result Unit :=
  if actual = expected then .ok () else .err (.invalidFieldValue field expected actual)

def expectWordOneOf (field : String) (actual : UInt32) (allowed : List UInt32) : Result Unit :=
  if allowed.contains actual then .ok () else .err (.invalidFieldValueSet field actual)

def expectBits (field : String) (expected actual : UInt8) : Result Unit :=
  if actual = expected then .ok () else .err (.invalidHeaderBits field expected actual)

end Validation

def cifContextChanged : UInt32 := 0xFBB98000
def cifContextUnchanged : UInt32 := 0x7BB98000
def cifVersionChanged : UInt32 := 0x80000002
def cifVersionUnchanged : UInt32 := 0x00000002
def cifVersion1 : UInt32 := 0x0000000C
def vita49SpecVersion : UInt32 := 0x00000004
def camControlExecute : UInt32 := 0xA1000000
def camExtensionControlValidate : UInt32 := 0xA1100000
def camExtensionAckValidate : UInt32 := 0xA1100400
def camStatusReportExecute : UInt32 := 0xA1080000
def cifCommandLong : UInt32 := 0x7BB98002
def cifCommandShort : UInt32 := 0x80000000
def cifControlFlow0 : UInt32 := 0x40300002
def cifControlFlow1 : UInt32 := 0x00000002

def statusReportSizes : List UInt16 := [15, 17, 21]

inductive PacketLayout where
  | signalContext
  | versionContext
  | timingFlowControl
  | sinkCapabilitiesQueryLong
  | sinkCapabilitiesQueryShort
  | sinkCapabilitiesResponseShort
deriving DecidableEq, Repr

structure StandardProfile where
  options : ParseOptions
deriving DecidableEq, Repr

namespace StandardProfile

variable (profile : StandardProfile)

def packetTypeAvailable (packetType : PacketType) : Bool :=
  match profile.options.standard with
  | .v1_1 =>
    match packetType with
    | .signalDataWithStreamId | .contextWithStreamId | .versionWithStreamId => true
    | _ => false
  | .v1_2_1 =>
    (match packetType with
      | .signalDataWithStreamId | .contextWithStreamId | .commandWithStreamId => true
      | _ => false) ||
    (packetType == .versionWithStreamId &&
      profile.options.compatibility == .legacyVersionPacketType)
  | .v1_3_0 =>
    match packetType with
    | .signalDataWithStreamId | .contextWithStreamId | .commandWithStreamId
    | .extensionCommandWithStreamId => true
    | _ => false

def packetClassAvailable (packetClass : PacketClassCode) : Bool :=
  match profile.options.standard with
  | .v1_1 =>
    match packetClass with
    | .standardFlowSignalData | .standardFlowSignalContext | .versionFlowSignalContext => true
    | _ => false
  | .v1_2_1 =>
    match packetClass with
    | .standardFlowSignalData | .standardFlowSignalContext | .sampleCountSignalData
    | .sampleCountSignalContext | .versionFlowSignalContext | .sampleCountTimingFlowControl
    | .realTimeTimingFlowControl => true
    | _ => false
  | .v1_3_0 => true

def allowsPacketClass (informationClass : InformationClassCode) (packetClass : PacketClassCode) : Bool :=
  match profile.options.standard with
  | .v1_1 =>
    match informationClass with
    | .basicDataPlane =>
      match packetClass with
      | .standardFlowSignalData | .standardFlowSignalContext => true
      | _ => false
    | .versionFlow =>
      match packetClass with
      | .versionFlowSignalContext => true
      | _ => false
    | _ => false
  | .v1_2_1 =>
    match informationClass with
    | .basicDataPlane =>
      match packetClass with
      | .standardFlowSignalData | .standardFlowSignalContext => true
      | _ => false
    | .versionFlow =>
      match packetClass with
      | .versionFlowSignalContext => true
      | _ => false
    | .dataPlaneUpstreamFlowControlSampleCount | .dataPlaneDownstreamFlowControlSampleCount =>
      match packetClass with
      | .sampleCountSignalData | .sampleCountSignalContext | .sampleCountTimingFlowControl => true
      | _ => false
    | .dataPlaneUpstreamFlowControlRealTime | .dataPlaneDownstreamFlowControlRealTime =>
      match packetClass with
      | .standardFlowSignalData | .standardFlowSignalContext | .realTimeTimingFlowControl => true
      | _ => false
    | .basicDataPlaneSampleCount =>
      match packetClass with
      | .sampleCountSignalData | .sampleCountSignalContext => true
      | _ => false
    | _ => false
  | .v1_3_0 =>
    match informationClass with
    | .basicDataPlane =>
      match packetClass with
      | .standardFlowSignalData | .standardFlowSignalContext => true
      | _ => false
    | .versionFlow =>
      match packetClass with
      | .versionFlowSignalContext => true
      | _ => false
    | .dataPlaneUpstreamFlowControlSampleCount | .dataPlaneDownstreamFlowControlSampleCount =>
      match packetClass with
      | .sampleCountSignalData | .sampleCountSignalContext | .sampleCountTimingFlowControl => true
      | _ => false
    | .dataPlaneUpstreamFlowControlRealTime | .dataPlaneDownstreamFlowControlRealTime =>
      match packetClass with
      | .standardFlowSignalData | .standardFlowSignalContext | .realTimeTimingFlowControl => true
      | _ => false
    | .basicDataPlaneSampleCount =>
      match packetClass with
      | .sampleCountSignalData | .sampleCountSignalContext => true
      | _ => false
    | .basicDataPlaneWithLinkEstablishment =>
      match packetClass with
      | .standardFlowSignalData | .standardFlowSignalContext | .sinkCapabilitiesQuery
      | .sinkCapabilitiesResponse | .statusReport => true
      | _ => false
    | .standaloneLinkEstablishment =>
      match packetClass with
      | .sinkCapabilitiesQuery | .sinkCapabilitiesResponse => true
      | _ => false
    | .dataPlaneUpstreamFlowControlSampleCountWithLinkEstablishment
    | .dataPlaneDownstreamFlowControlSampleCountWithLinkEstablishment =>
      match packetClass with
      | .sampleCountSignalData | .sampleCountSignalContext | .sampleCountTimingFlowControl
      | .sinkCapabilitiesQuery | .sinkCapabilitiesResponse | .statusReport => true
      | _ => false
    | .dataPlaneUpstreamFlowControlRealTimeWithLinkEstablishment
    | .dataPlaneDownstreamFlowControlRealTimeWithLinkEstablishment =>
      match packetClass with
      | .standardFlowSignalData | .standardFlowSignalContext | .realTimeTimingFlowControl
      | .sinkCapabilitiesQuery | .sinkCapabilitiesResponse | .statusReport => true
      | _ => false
    | .basicDataPlaneSampleCountWithLinkEstablishment =>
      match packetClass with
      | .sampleCountSignalData | .sampleCountSignalContext | .sinkCapabilitiesQuery
      | .sinkCapabilitiesResponse | .statusReport => true
      | _ => false

def validatePacketTypeAvailable (packetType : PacketType) : Result Unit :=
  if profile.packetTypeAvailable packetType then .ok ()
  else .err (.packetTypeNotAvailableInStandard profile.options.standard packetType)

def validatePacketClassAvailable (packetClass : PacketClassCode) : Result Unit :=
  if profile.packetClassAvailable packetClass then .ok ()
  else .err (.packetClassNotAvailableInStandard profile.options.standard packetClass)

def validatePacketTypeClass (packetType : PacketType) (packetClass : PacketClassCode) : Result Unit :=
  let valid : Bool := match packetType with
    | .signalDataWithStreamId =>
      match packetClass with
      | .standardFlowSignalData | .sampleCountSignalData => true
      | _ => false
    | .contextWithStreamId =>
      match packetClass with
      | .standardFlowSignalContext | .sampleCountSignalContext => true
      | .versionFlowSignalContext => !(profile.options.standard == .v1_1)
      | _ => false
    | .versionWithStreamId =>
      packetClass == .versionFlowSignalContext &&
        (profile.options.standard == .v1_1 ||
          (profile.options.standard == .v1_2_1 &&
            profile.options.compatibility == .legacyVersionPacketType))
    | .commandWithStreamId =>
      match packetClass with
      | .sampleCountTimingFlowControl | .realTimeTimingFlowControl => true
      | _ => false
    | .extensionCommandWithStreamId =>
      match packetClass with
      | .sinkCapabilitiesQuery | .sinkCapabilitiesResponse | .statusReport => true
      | _ => false
  if valid then .ok () else .err (.packetTypeClassMismatch packetType packetClass)

def validateHeaderBits (_profile : StandardProfile) (header : PacketHeader)
    (packetClass : PacketClassCode) : Result Unit :=
  if !header.classIdIndicator then .err .missingClassId
  else
    match header.packetType with
    | .signalDataWithStreamId | .commandWithStreamId =>
      expectBits "packet header type-specific" 0 header.typeSpecificBits
    | .contextWithStreamId | .versionWithStreamId =>
      let reserved := header.typeSpecificBits &&& 0b110
      if reserved ≠ 0 then .err (.reservedBitsNonZero "context packet header" reserved.toUInt32)
      else .ok ()
    | .extensionCommandWithStreamId =>
      let expected := match packetClass with
        | .sinkCapabilitiesResponse => 0b100
        | .sinkCapabilitiesQuery | .statusReport => 0
        | _ => header.typeSpecificBits
      expectBits "extension command header type-specific" expected header.typeSpecificBits

def validateClassMembership (informationClass : InformationClassCode)
    (packetClass : PacketClassCode) : Result Unit :=
  if profile.allowsPacketClass informationClass packetClass then .ok ()
  else .err (.packetClassNotInInformationClass informationClass packetClass)

def validateTsf (_profile : StandardProfile) (header : PacketHeader)
    (packetClass : PacketClassCode) : Result Unit :=
  let expected := match packetClass with
    | .standardFlowSignalData | .standardFlowSignalContext | .versionFlowSignalContext
    | .realTimeTimingFlowControl => some Tsf.realTimePicoseconds
    | .sampleCountSignalData | .sampleCountSignalContext | .sampleCountTimingFlowControl =>
      some Tsf.sampleCount
    | .sinkCapabilitiesQuery | .sinkCapabilitiesResponse | .statusReport => none
  match expected with
  | some expected =>
    if header.tsf ≠ expected then .err (.invalidTsfForPacketClass packetClass expected header.tsf)
    else .ok ()
  | none => .ok ()

def validateTsm (_profile : StandardProfile) (header : PacketHeader)
    (informationClass : InformationClassCode) (packetClass : PacketClassCode) : Result Unit :=
  match header.tsm with
  | none => .ok ()
  | some actual =>
    let check (expected : TimestampMode) : Result Unit :=
      if actual = expected then .ok ()
      else .err (.invalidHeaderBits "timestamp mode" expected.code actual.code)
    match packetClass with
    | .standardFlowSignalContext =>
      match informationClass with
      | .basicDataPlane | .basicDataPlaneWithLinkEstablishment => check .coarse
      | _ => check .fine
    | .sampleCountSignalContext => check .fine
    | .versionFlowSignalContext => check .coarse
    | _ => .ok ()

def permitsDataPadding (informationClass : InformationClassCode) (packetClass : PacketClassCode) : Bool :=
  if profile.options.standard = .v1_1 then false
  else
    let disallowedBasicFlow : Bool := match informationClass, packetClass with
      | .basicDataPlane, .standardFlowSignalData
      | .basicDataPlaneWithLinkEstablishment, .standardFlowSignalData => true
      | _, _ => false
    !disallowedBasicFlow &&
      (match packetClass with
        | .standardFlowSignalData | .sampleCountSignalData => true
        | _ => false)

def expectPacketSize (_profile : StandardProfile) (layout : PacketLayout)
    (packetClass : PacketClassCode) (actual : UInt16) : Result Unit :=
  let expected := match layout with
    | .signalContext => 27
    | .versionContext => 11
    | .timingFlowControl => 21
    | .sinkCapabilitiesQueryLong => 13
    | .sinkCapabilitiesQueryShort => 15
    | .sinkCapabilitiesResponseShort => 18
  if actual = expected then .ok () else .err (.invalidPacketSize packetClass expected actual)

def validateStatusReportSize (_profile : StandardProfile) (packetClass : PacketClassCode)
    (actual : UInt16) : Result Unit :=
  if statusReportSizes.contains actual then .ok ()
  else .err (.invalidPacketSizeSet packetClass statusReportSizes actual)

def expectSignalContextCif0 (_profile : StandardProfile) (actual : UInt32) : Result Unit :=
  expectWordOneOf "signal context CIF0" actual [cifContextChanged, cifContextUnchanged]

def expectVersionContextCif0 (_profile : StandardProfile) (actual : UInt32) : Result Unit :=
  expectWordOneOf "version context CIF0" actual [cifVersionChanged, cifVersionUnchanged]

def expectVersionContextCif1 (_profile : StandardProfile) (actual : UInt32) : Result Unit :=
  expectWord "version context CIF1" cifVersion1 actual

def expectVita49SpecVersion (_profile : StandardProfile) (actual : UInt32) : Result Unit :=
  expectWord "VITA 49.2 spec version" vita49SpecVersion actual

def expectTimingFlowControlCam (_profile : StandardProfile) (actual : UInt32) : Result Unit :=
  expectWord "timing flow control CAM" camControlExecute actual

def expectTimingFlowControlCif0 (_profile : StandardProfile) (actual : UInt32) : Result Unit :=
  expectWord "timing flow control CIF0" cifControlFlow0 actual

def expectTimingFlowControlCif1 (_profile : StandardProfile) (actual : UInt32) : Result Unit :=
  expectWord "timing flow control CIF1" cifControlFlow1 actual

def expectSinkCapabilitiesQueryCam (_profile : StandardProfile) (actual : UInt32) : Result Unit :=
  expectWord "sink capabilities query CAM" camExtensionControlValidate actual

def expectSinkCapabilitiesShortQueryCif0 (_profile : StandardProfile) (actual : UInt32) : Result Unit :=
  expectWord "sink capabilities short query CIF0" cifCommandShort actual

def expectSinkCapabilitiesLongQueryCif0 (_profile : StandardProfile) (actual : UInt32) : Result Unit :=
  expectWord "sink capabilities long query CIF0" cifCommandLong actual

def expectSinkCapabilitiesLongQueryCif1 (_profile : StandardProfile) (actual : UInt32) : Result Unit :=
  expectWord "sink capabilities long query CIF1" cifControlFlow1 actual

def expectSinkCapabilitiesResponseCam (_profile : StandardProfile) (actual : UInt32) : Result Unit :=
  expectWord "sink capabilities response CAM" camExtensionAckValidate actual

def expectSinkCapabilitiesShortResponseCif0 (_profile : StandardProfile) (actual : UInt32) : Result Unit :=
  expectWord "sink capabilities short response CIF0" cifCommandShort actual

def expectSinkCapabilitiesLongResponseCif0 (_profile : StandardProfile) (actual : UInt32) : Result Unit :=
  expectWord "sink capabilities long response CIF0" cifCommandLong actual

def expectSinkCapabilitiesLongResponseCif1 (_profile : StandardProfile) (actual : UInt32) : Result Unit :=
  expectWord "sink capabilities long response CIF1" cifControlFlow1 actual

def expectStatusReportCam (_profile : StandardProfile) (actual : UInt32) : Result Unit :=
  expectWord "status report CAM" camStatusReportExecute actual

def expectStatusReportCif0 (_profile : StandardProfile) (actual : UInt32) : Result Unit :=
  expectWord "status report CIF0" 0 actual

def expectStatusReportCif1 (_profile : StandardProfile) (actual : UInt32) : Result Unit :=
  expectWord "status report CIF1" 0 actual

end StandardProfile

end Difi
