import Difi.Machine.Effect
import Difi.PacketStream

namespace Difi.UdpReceiver

open Machine

variable {Source : Type}

inductive Line (Source : Type) where
  | duplicate (source : Source)
  | gap (source : Source) (expected actual : UInt8)
  | signalData (streamId : UInt32) (payloadBytes : Nat)
deriving DecidableEq, Repr

inductive ReceiverError where
  | io
  | parse (source : ParseError)
deriving DecidableEq, Repr

structure ReceiverState (Source : Type) where
  parser : PacketStreamParser
  buffer : List UInt8
  lines : List (Line Source)

def ReceiverState.initial : ReceiverState Source where
  parser := .new
  buffer := List.replicate 9000 0
  lines := []

abbrev Receiver (Source : Type) := Effect (ReceiverState Source) ReceiverError

/-- What the socket of the receiver comes back with: a datagram and where it is
from, or a failure. -/
abbrev Arrival (Source : Type) := Option (Source × List UInt8)

/-- A datagram is stored at the front of the buffer. One that is longer is cut. -/
def recvFrom (arrival : Arrival Source) : Receiver Source (Nat × Source) := fun s =>
  match arrival with
  | none => (.err .io, s)
  | some (source, datagram) =>
    let len := min datagram.length s.buffer.length
    (.ok (len, source), { s with buffer := datagram.take len ++ s.buffer.drop len })

def parseDatagram (bytes : List UInt8) : Receiver Source ParsedDatagram := fun s =>
  ((s.parser.parseDatagram bytes).1.mapErr .parse, { s with parser := (s.parser.parseDatagram bytes).2 })

def printLine (line : Line Source) : Receiver Source Unit :=
  Effect.modify fun s => { s with lines := s.lines ++ [line] }

def printStatus (source : Source) : SequenceStatus → Receiver Source Unit
  | .first | .inOrder => pure ()
  | .duplicate => printLine (.duplicate source)
  | .gap expected actual => printLine (.gap source expected actual)

def printPacket : Packet → Receiver Source Unit
  | .signalData packet => printLine (.signalData packet.prologue.streamId packet.payload.length)
  | _ => pure ()

/-- One round of the loop of the receiver. -/
def receive (arrival : Arrival Source) : Receiver Source Unit := do
  let (len, source) ← recvFrom arrival
  let s ← Effect.get
  let bytes ← Effect.lift (sliceTo s.buffer len)
  let parsed ← parseDatagram bytes
  printStatus source parsed.sequenceStatus
  printPacket parsed.packet

def main (arrivals : List (Arrival Source)) : Process (ReceiverState Source) ReceiverError :=
  arrivals.foldl (fun p arrival => p.perform (receive arrival)) ⟨.initial, .ok ()⟩

end Difi.UdpReceiver
