import Difi.Bodies

namespace Difi.Layout

open Machine Fields Bodies

/-- The seven shapes of a packet. -/
inductive Variant where
  | signalData
  | signalContext
  | versionContext
  | timingFlowControl
  | sinkCapabilitiesQuery
  | sinkCapabilitiesResponse
  | statusReport
deriving DecidableEq, Repr

def variant : Packet → Variant
  | .signalData _ => .signalData
  | .signalContext _ => .signalContext
  | .versionContext _ => .versionContext
  | .timingFlowControl _ => .timingFlowControl
  | .sinkCapabilitiesQuery _ => .sinkCapabilitiesQuery
  | .sinkCapabilitiesResponse _ => .sinkCapabilitiesResponse
  | .statusReport _ => .statusReport

def classVariant : PacketClassCode → Variant
  | .standardFlowSignalData | .sampleCountSignalData => .signalData
  | .standardFlowSignalContext | .sampleCountSignalContext => .signalContext
  | .versionFlowSignalContext => .versionContext
  | .sampleCountTimingFlowControl | .realTimeTimingFlowControl => .timingFlowControl
  | .sinkCapabilitiesQuery => .sinkCapabilitiesQuery
  | .sinkCapabilitiesResponse => .sinkCapabilitiesResponse
  | .statusReport => .statusReport

def prologueLayout (p : Prologue) : List UInt32 :=
  [p.header.raw, p.streamId, classIdWord0 p.classId, classIdWord1 p.classId, p.integerSecondsTimestamp,
    highWord p.fractionalSecondsTimestamp, lowWord p.fractionalSecondsTimestamp]

def signalContextLayout (p : SignalContextPacket) : List UInt32 :=
  [p.cif0, p.referencePoint, highWord p.bandwidth.raw, lowWord p.bandwidth.raw,
    highWord p.ifReferenceFrequency.raw.toUInt64, lowWord p.ifReferenceFrequency.raw.toUInt64,
    highWord p.rfReferenceFrequency.raw.toUInt64, lowWord p.rfReferenceFrequency.raw.toUInt64,
    highWord p.ifBandOffset.raw.toUInt64, lowWord p.ifBandOffset.raw.toUInt64,
    joinHalves p.scalingLevel.toUInt16 p.referenceLevel.toUInt16, joinHalves p.gain2 p.gain1,
    highWord p.sampleRate.raw, lowWord p.sampleRate.raw,
    highWord p.timestampAdjustment.raw.toUInt64, lowWord p.timestampAdjustment.raw.toUInt64,
    p.timestampCalibrationTime, p.stateAndEventIndicators, p.payloadFormat.rawWord0, p.payloadFormat.rawWord1]

def versionContextLayout (p : VersionContextPacket) : List UInt32 :=
  [p.cif0, p.cif1, p.vita49SpecVersion, Writer.versionWord p]

def commonLayout (c : CommandCommon) : List UInt32 := [c.cam, c.messageId, c.controlleeId, c.controllerId]

def timingFlowControlLayout (p : TimingFlowControlPacket) : List UInt32 :=
  commonLayout p.common ++ [p.cif0, p.cif1, p.referencePoint, highWord p.sampleRate.raw,
    lowWord p.sampleRate.raw, highWord p.timestampAdjustment.raw.toUInt64,
    lowWord p.timestampAdjustment.raw.toUInt64, highWord p.bufferSizeBytes, lowWord p.bufferSizeBytes,
    p.bufferStatus.raw]

def optionalDouble (v : Option UInt64) : List UInt32 := v.elim [] fun v => [highWord v, lowWord v]

def sinkCapabilitiesQueryLayout (p : SinkCapabilitiesQueryPacket) : List UInt32 :=
  commonLayout p.common ++ p.cif0 :: (p.cif1.toList ++ p.sinkTimeCalibrationInteger.toList ++
    optionalDouble p.sinkTimeCalibrationFractional)

def sinkCapabilitiesResponseLayout (p : SinkCapabilitiesResponsePacket) : List UInt32 :=
  commonLayout p.common ++ p.cif0 :: (p.cif1.toList ++ p.controlPacketIntegerTimestamp.toList ++
    optionalDouble p.controlPacketFractionalTimestamp ++ p.sinkReceptionIntegerTimestamp.toList ++
    optionalDouble p.sinkReceptionFractionalTimestamp)

def statusReportLayout (p : StatusReportPacket) : List UInt32 :=
  commonLayout p.common ++ p.cif0 :: p.cif1 :: p.packetErrors :: p.sinkErrorsWarnings ::
    (p.referenceLevelLimit.elim [] (fun l => [l.rawMinMax, l.rawResolutionReserved]) ++
      (optionalDouble (p.sampleRateLimit.map FixedU64.raw) ++
        optionalDouble (p.bandwidthLimit.map FixedU64.raw)))

/-- The words after the prologue, followed by the bytes of the borrowed slice. -/
def bodyBytes : Packet → List UInt8
  | .signalData p => p.payload
  | .signalContext p => flat (signalContextLayout p)
  | .versionContext p => flat (versionContextLayout p)
  | .timingFlowControl p => flat (timingFlowControlLayout p)
  | .sinkCapabilitiesQuery p => flat (sinkCapabilitiesQueryLayout p)
  | .sinkCapabilitiesResponse p => flat (sinkCapabilitiesResponseLayout p) ++ p.capabilityTable
  | .statusReport p => flat (statusReportLayout p)

def encode (p : Packet) : List UInt8 := flat (prologueLayout p.prologue) ++ bodyBytes p

structure PrologueForm (p : Prologue) : Prop where
  header : HeaderWord p.header
  classIdIndicator : p.header.classIdIndicator = true
  classId : ClassIdWord p.classId

structure SignalDataForm (p : SignalDataPacket) : Prop where
  size : 4 * p.prologue.header.packetSizeWords.toNat = prologueBytes + p.payload.length
  padding : Parser.validateDataPadding p.payload p.prologue.classId.padBitCount = .ok ()

structure SignalContextForm (p : SignalContextPacket) : Prop where
  size : p.prologue.header.packetSizeWords = 27
  padding : p.prologue.classId.padBitCount = 0
  cif0 : p.cif0 = if p.contextChanged then cifContextChanged else cifContextUnchanged
  bandwidth : p.bandwidth.raw.toNat % 2 ^ 20 = 0
  ifReferenceFrequency : p.ifReferenceFrequency.raw.toUInt64.toNat % 2 ^ 20 = 0
  rfReferenceFrequency : p.rfReferenceFrequency.raw.toUInt64.toNat % 2 ^ 20 = 0
  ifBandOffset : p.ifBandOffset.raw.toUInt64.toNat % 2 ^ 20 = 0
  sampleRate : p.sampleRate.raw.toNat % 2 ^ 20 = 0
  payloadFormat : PayloadFormatWords p.payloadFormat

structure VersionContextForm (p : VersionContextPacket) : Prop where
  size : p.prologue.header.packetSizeWords = 11
  padding : p.prologue.classId.padBitCount = 0
  cif0 : p.cif0 = if p.contextChanged then cifVersionChanged else cifVersionUnchanged
  cif1 : p.cif1 = cifVersion1
  specVersion : p.vita49SpecVersion = vita49SpecVersion
  version : VersionWord (Writer.versionWord p) p.year p.day p.revision
  deviceType : p.deviceType = 0

structure TimingFlowControlForm (p : TimingFlowControlPacket) : Prop where
  size : p.prologue.header.packetSizeWords = 21
  padding : p.prologue.classId.padBitCount = 0
  cam : p.common.cam = camControlExecute
  cif0 : p.cif0 = cifControlFlow0
  cif1 : p.cif1 = cifControlFlow1
  sampleRate : p.sampleRate.raw.toNat % 2 ^ 20 = 0
  bufferStatus : BufferStatusWord p.bufferStatus

structure SinkCapabilitiesQueryForm (p : SinkCapabilitiesQueryPacket) : Prop where
  padding : p.prologue.classId.padBitCount = 0
  cam : p.common.cam = camExtensionControlValidate
  form : match p.form with
    | .short => p.prologue.header.packetSizeWords = 15 ∧ p.cif0 = cifCommandShort ∧ p.cif1 = none ∧
        p.sinkTimeCalibrationInteger.isSome ∧ p.sinkTimeCalibrationFractional.isSome
    | .long => p.prologue.header.packetSizeWords = 13 ∧ p.cif0 = cifCommandLong ∧
        p.cif1 = some cifControlFlow1 ∧ p.sinkTimeCalibrationInteger = none ∧
        p.sinkTimeCalibrationFractional = none

structure SinkCapabilitiesResponseForm (p : SinkCapabilitiesResponsePacket) : Prop where
  padding : p.prologue.classId.padBitCount = 0
  cam : p.common.cam = camExtensionAckValidate
  form : match p.form with
    | .short => p.prologue.header.packetSizeWords = 18 ∧ p.cif0 = cifCommandShort ∧ p.cif1 = none ∧
        p.controlPacketIntegerTimestamp.isSome ∧ p.controlPacketFractionalTimestamp.isSome ∧
        p.sinkReceptionIntegerTimestamp.isSome ∧ p.sinkReceptionFractionalTimestamp.isSome ∧
        p.capabilityTable = []
    | .long => 4 * p.prologue.header.packetSizeWords.toNat = 52 + p.capabilityTable.length ∧
        p.capabilityTable ≠ [] ∧ p.cif0 = cifCommandLong ∧ p.cif1 = some cifControlFlow1 ∧
        p.controlPacketIntegerTimestamp = none ∧ p.controlPacketFractionalTimestamp = none ∧
        p.sinkReceptionIntegerTimestamp = none ∧ p.sinkReceptionFractionalTimestamp = none

structure StatusReportForm (p : StatusReportPacket) : Prop where
  size : p.prologue.header.packetSizeWords = 15 ∨ p.prologue.header.packetSizeWords = 17 ∨
    p.prologue.header.packetSizeWords = 21
  padding : p.prologue.classId.padBitCount = 0
  cam : p.common.cam = camStatusReportExecute
  cif0 : p.cif0 = 0
  cif1 : p.cif1 = 0
  flags : p.sinkErrorsWarnings &&& 0x18 = quantitativeFlags p.prologue.header.packetSizeWords
  referenceLevelLimit : p.referenceLevelLimit.isSome ↔ p.prologue.header.packetSizeWords ≠ 15
  sampleRateLimit : p.sampleRateLimit.isSome ↔ p.prologue.header.packetSizeWords = 21
  bandwidthLimit : p.bandwidthLimit.isSome ↔ p.prologue.header.packetSizeWords = 21
  sampleRate : ∀ r ∈ p.sampleRateLimit, r.raw.toNat % 2 ^ 20 = 0
  bandwidth : ∀ r ∈ p.bandwidthLimit, r.raw.toNat % 2 ^ 20 = 0

/-- The limits that a status report of a number of words carries. -/
inductive Limits : Nat → Option ReferenceLevelLimit → Option FixedU64 → Option FixedU64 → Prop
  | without : Limits 15 none none none
  | level (l : ReferenceLevelLimit) : Limits 17 (some l) none none
  | all (l : ReferenceLevelLimit) (r w : FixedU64) : Limits 21 (some l) (some r) (some w)

theorem limits_iff {n : UInt16} {level : Option ReferenceLevelLimit} {rate band : Option FixedU64} :
    Limits n.toNat level rate band ↔ (n = 15 ∨ n = 17 ∨ n = 21) ∧ (level.isSome ↔ n ≠ 15) ∧
      (rate.isSome ↔ n = 21) ∧ (band.isSome ↔ n = 21) := by
  constructor
  · intro h
    generalize hn : n.toNat = k at h
    cases h with
    | without =>
        obtain rfl : n = 15 := UInt16.toNat_inj.mp hn
        simp
    | level l =>
        obtain rfl : n = 17 := UInt16.toNat_inj.mp hn
        simp
    | all l r w =>
        obtain rfl : n = 21 := UInt16.toNat_inj.mp hn
        simp
  · rintro ⟨rfl | rfl | rfl, hl, hr, hw⟩
    · simp at hl hr hw
      subst hl hr hw
      exact .without
    · simp at hl hr hw
      obtain ⟨l, rfl⟩ := Option.isSome_iff_exists.mp hl
      subst hr hw
      exact .level l
    · simp at hl hr hw
      obtain ⟨l, rfl⟩ := Option.isSome_iff_exists.mp hl
      obtain ⟨r, rfl⟩ := Option.isSome_iff_exists.mp hr
      obtain ⟨w, rfl⟩ := Option.isSome_iff_exists.mp hw
      exact .all l r w

theorem StatusReportForm.limits {p : StatusReportPacket} (h : StatusReportForm p) :
    Limits p.prologue.header.packetSizeWords.toNat p.referenceLevelLimit p.sampleRateLimit p.bandwidthLimit :=
  limits_iff.mpr ⟨h.size, h.referenceLevelLimit, h.sampleRateLimit, h.bandwidthLimit⟩

def BodyForm : Packet → Prop
  | .signalData p => SignalDataForm p
  | .signalContext p => SignalContextForm p
  | .versionContext p => VersionContextForm p
  | .timingFlowControl p => TimingFlowControlForm p
  | .sinkCapabilitiesQuery p => SinkCapabilitiesQueryForm p
  | .sinkCapabilitiesResponse p => SinkCapabilitiesResponseForm p
  | .statusReport p => StatusReportForm p

/-- A packet whose redundant fields all agree, so that its bytes determine
it. This says nothing about the standard it is written under. -/
structure WellFormed (p : Packet) : Prop where
  prologue : PrologueForm p.prologue
  body : BodyForm p

end Difi.Layout
