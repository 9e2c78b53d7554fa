import Difi.Parser
import Difi.Sequence

namespace Difi

open Machine

structure ParsedDatagram where
  packet : Packet
  sequenceStatus : SequenceStatus
deriving DecidableEq, Repr

structure PacketStreamParser where
  options : ParseOptions
  sequences : SequenceTracker

namespace PacketStreamParser

def withOptions (options : ParseOptions) : PacketStreamParser := { options, sequences := .new }

def new : PacketStreamParser := withOptions {}

def withOptionsAndSequenceCapacity (options : ParseOptions) (sequenceCapacity : Nat) : PacketStreamParser :=
  { options, sequences := .withCapacity sequenceCapacity }

def parseDatagram (parser : PacketStreamParser) (datagram : List UInt8) :
    Result ParsedDatagram × PacketStreamParser :=
  match Parser.parsePacketExactWithOptions datagram parser.options with
  | .ok packet =>
    let (sequenceStatus, sequences) := parser.sequences.observe packet
    (sequenceStatus.map fun sequenceStatus => { packet, sequenceStatus }, { parser with sequences })
  | .err e => (.err e, parser)
  | .panic => (.panic, parser)

def resetSequences (parser : PacketStreamParser) : PacketStreamParser :=
  { parser with sequences := parser.sequences.reset }

/-- What a caller does with a parser. -/
inductive Operation where
  | datagram (bytes : List UInt8)
  | reset
deriving DecidableEq, Repr

def perform (parser : PacketStreamParser) : Operation → PacketStreamParser
  | .datagram bytes => (parser.parseDatagram bytes).2
  | .reset => parser.resetSequences

def performAll (parser : PacketStreamParser) (run : List Operation) : PacketStreamParser :=
  run.foldl perform parser

def results (parser : PacketStreamParser) : List Operation → List (Result ParsedDatagram)
  | [] => []
  | .datagram bytes :: run =>
    (parser.parseDatagram bytes).1 :: results (parser.parseDatagram bytes).2 run
  | .reset :: run => results parser.resetSequences run

end PacketStreamParser

end Difi
