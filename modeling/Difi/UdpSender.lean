import Difi.Machine.Effect
import Difi.Writer

namespace Difi.UdpSender

open Machine

def udpDatagramBytes : Nat := 9000
def signalDataPrologueBytes : Nat := 7 * 4
def complexI16SampleBytes : Nat := 4
def signalContextWords : UInt16 := 27
def streamId : UInt32 := 0x01020304
def samplesPerPacket : Nat := (udpDatagramBytes - signalDataPrologueBytes) / complexI16SampleBytes

structure Duration where
  asSecs : UInt64
  subsecNanos : UInt32
  subsecNanos_lt : subsecNanos.toNat < 1000000000
deriving DecidableEq, Repr

inductive SenderError where
  | systemTime
  | tryFromInt
  | write (source : WriteError)
  | io
deriving DecidableEq, Repr

abbrev SenderResult := Outcome SenderError

/-- The clock may stand before the epoch. -/
def currentTimestamp (now : Option Duration) : SenderResult (UInt32 × UInt64) := do
  let now ← Outcome.okOr now .systemTime
  let integerSecondsTimestamp ← Outcome.okOr (tryIntoU32 now.asSecs.toNat) .tryFromInt
  let fractionalSecondsTimestamp ← mulU64 now.subsecNanos.toUInt64 1000
  .ok (integerSecondsTimestamp, fractionalSecondsTimestamp)

def headerWord (packetType : PacketType) (typeSpecificBits : UInt8) (tsi : Tsi) (tsf : Tsf) (sequence : UInt8)
    (packetSizeWords : UInt16) : UInt32 :=
  (packetType.code.toUInt32 <<< 28) ||| ((1 : UInt32) <<< 27) ||| (typeSpecificBits.toUInt32 <<< 24) |||
    (tsi.code.toUInt32 <<< 22) ||| (tsf.code.toUInt32 <<< 20) ||| (sequence.toUInt32 <<< 16) |||
    packetSizeWords.toUInt32

def nextSequence (sequence : UInt8) : SenderResult UInt8 := do
  let next ← addU8 sequence 1
  .ok (next &&& 0x0F)

/-- A ramp through 64 values. It stays inside the machine integers it is made of. -/
def samplesForPacket (packetCount : UInt64) : List ComplexI16 :=
  (List.range samplesPerPacket).map fun index =>
    let ramp : Int := (((packetCount + UInt64.ofNat index) % 64).toNat - 32) * 512
    { i := Int16.ofInt ramp, q := Int16.ofInt (-ramp) }

def signalDataSpecAt (sequence : UInt8) (integerSecondsTimestamp : UInt32) (fractionalSecondsTimestamp : UInt64) :
    SignalDataWriteSpec where
  streamId
  informationClass := .basicDataPlane
  packetClass := .standardFlowSignalData
  tsi := .utc
  tsf := .realTimePicoseconds
  sequence
  integerSecondsTimestamp
  fractionalSecondsTimestamp

def signalDataSpec (sequence : UInt8) (now : Option Duration) : SenderResult SignalDataWriteSpec := do
  let (integerSecondsTimestamp, fractionalSecondsTimestamp) ← currentTimestamp now
  .ok (signalDataSpecAt sequence integerSecondsTimestamp fractionalSecondsTimestamp)

def signalContextPacketAt (sequence : UInt8) (integerSecondsTimestamp : UInt32)
    (fractionalSecondsTimestamp : UInt64) : SignalContextPacket where
  prologue := {
    header := {
      raw := headerWord .contextWithStreamId 1 .utc .realTimePicoseconds sequence signalContextWords
      packetType := .contextWithStreamId
      classIdIndicator := true
      typeSpecificBits := 1
      tsm := some .coarse
      tsi := .utc
      tsf := .realTimePicoseconds
      sequence
      packetSizeWords := signalContextWords }
    streamId
    classId := {
      padBitCount := 0
      oui := difiCid
      informationClass := .basicDataPlane
      packetClass := .standardFlowSignalContext }
    integerSecondsTimestamp
    fractionalSecondsTimestamp }
  cif0 := 0xFBB98000
  contextChanged := true
  referencePoint := 0
  bandwidth := ⟨(20000000 : UInt64) <<< 20⟩
  ifReferenceFrequency := ⟨0⟩
  rfReferenceFrequency := ⟨(1500000000 : Int64) <<< 20⟩
  ifBandOffset := ⟨0⟩
  scalingLevel := 0
  referenceLevel := 0
  gain2 := 0
  gain1 := 0
  sampleRate := ⟨(40000000 : UInt64) <<< 20⟩
  timestampAdjustment := ⟨0⟩
  timestampCalibrationTime := 0
  stateAndEventIndicators := 0
  payloadFormat := {
    rawWord0 := (0xA0000000 : UInt32) ||| ((15 : UInt32) <<< 6) ||| 15
    rawWord1 := 0
    sampleFormat := .complexSignedCartesian
    dataItemSizeBits := 16
    itemPackingFieldSizeBits := 16 }

def signalContextPacket (sequence : UInt8) (now : Option Duration) : SenderResult SignalContextPacket := do
  let (integerSecondsTimestamp, fractionalSecondsTimestamp) ← currentTimestamp now
  .ok (signalContextPacketAt sequence integerSecondsTimestamp fractionalSecondsTimestamp)

structure SenderState where
  dataSequence : UInt8
  contextSequence : UInt8
  packetCount : UInt64
  buffer : List UInt8
  sent : List (List UInt8)

def SenderState.initial : SenderState where
  dataSequence := 0
  contextSequence := 0
  packetCount := 0
  buffer := List.replicate udpDatagramBytes 0
  sent := []

abbrev Sender := Effect SenderState SenderError

/-- What the sender meets at one datagram: the clock, and a socket that takes the
datagram or fails. -/
structure Moment where
  now : Option Duration
  taken : Bool

def onBuffer {α : Type} (m : Mut UInt8 WriteError α) : Sender α := fun s =>
  ((m s.buffer).1.mapErr .write, { s with buffer := (m s.buffer).2 })

def send (moment : Moment) (len : Nat) : Sender Unit := do
  let s ← Effect.get
  let datagram ← Effect.lift (sliceTo s.buffer len)
  if moment.taken then Effect.modify fun s => { s with sent := s.sent ++ [datagram] }
  else Effect.lift (.err .io)

def sendSignalContext (sequence : UInt8) (moment : Moment) : Sender Unit := do
  let packet ← Effect.lift (signalContextPacket sequence moment.now)
  let len ← onBuffer (Writer.writePacket (.signalContext packet))
  send moment len

def contextTurn (moment : Moment) : Sender Unit := do
  let s ← Effect.get
  sendSignalContext s.contextSequence moment
  let contextSequence ← Effect.lift (nextSequence s.contextSequence)
  Effect.modify fun s => { s with contextSequence }

def dataTurn (moment : Moment) : Sender Unit := do
  let s ← Effect.get
  let spec ← Effect.lift (signalDataSpec s.dataSequence moment.now)
  let samples := samplesForPacket s.packetCount
  let len ← onBuffer (Writer.writeIqDataI16 spec samples)
  Effect.lift (debugAssert (len = udpDatagramBytes))
  send moment len
  let dataSequence ← Effect.lift (nextSequence s.dataSequence)
  Effect.modify fun s => { s with dataSequence, packetCount := s.packetCount + 1 }

/-- One round of the loop of the sender. The second moment is met when the round
sends a context packet. -/
def round (data context : Moment) : Sender Unit := do
  dataTurn data
  let s ← Effect.get
  if s.packetCount % 5 = 0 then contextTurn context else pure ()

/-- The sender up to its loop. -/
def begin (moment : Moment) : Process SenderState SenderError :=
  Process.perform ⟨.initial, .ok ()⟩ (contextTurn moment)

def main (moment : Moment) (rounds : List (Moment × Moment)) : Process SenderState SenderError :=
  rounds.foldl (fun p moments => p.perform (round moments.1 moments.2)) (begin moment)

end Difi.UdpSender
