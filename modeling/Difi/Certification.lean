import Difi.Capture
import Difi.Parser
import Difi.Machine.Tally
import Mathlib.Data.Finset.Insert

namespace Difi.Certification

open Machine Capture

def maxFailures : Nat := 16

def minDifiPacketBytes : Nat := 28

/-- Why a payload is turned down before it is parsed. -/
inductive StrictError where
  | tooShort
  | lengthNotMultiple
  | unsupportedPacketType (packetType : UInt32)
  | missingClassId
  | packetSize (packetSizeBytes payloadLen : Nat)
  | invalidOui (oui : UInt32)
deriving DecidableEq, Repr

def upperHex (width n : Nat) : String :=
  String.ofList (((Nat.toDigits 16 n).map Char.toUpper).leftpad width '0')

def StrictError.text : StrictError → String
  | .tooShort => s!"DIFI packet is too short: need at least {minDifiPacketBytes} bytes"
  | .lengthNotMultiple => "DIFI packet length is not a multiple of 4 bytes"
  | .unsupportedPacketType packetType => s!"unsupported DIFI packet type 0x{upperHex 1 packetType.toNat}"
  | .missingClassId => "class identifier indicator is not set"
  | .packetSize packetSizeBytes payloadLen =>
    s!"DIFI header packet size is {packetSizeBytes} bytes, UDP payload is {payloadLen} bytes"
  | .invalidOui oui =>
    s!"invalid DIFI CID/OUI: expected 0x{upperHex 6 difiCid.toNat}, got 0x{upperHex 6 oui.toNat}"

def wordAtOffset (payload : List UInt8) (start : Nat) : Option UInt32 :=
  match getRange payload start (start + 4) with
  | some [b0, b1, b2, b3] => some (fromBeBytes b0 b1 b2 b3)
  | _ => none

def headerWord (payload : List UInt8) : Option UInt32 := wordAtOffset payload 0

def payloadOui (payload : List UInt8) : Option UInt32 := (wordAtOffset payload 8).map (· &&& 0x00FFFFFF)

def validateStrictDifiPayload (payload : List UInt8) : Outcome StrictError Unit :=
  if payload.length < minDifiPacketBytes then .err .tooShort
  else if payload.length % 4 ≠ 0 then .err .lengthNotMultiple
  else do
    let header ← (Outcome.okOr (headerWord payload) ()).expect
    let packetType := header >>> 28
    let classIdIndicator := header &&& 0x08000000 != 0
    let packetSizeWords := (header &&& 0x0000FFFF).toNat
    let packetSizeBytes ← mulUsize packetSizeWords 4
    let oui ← (Outcome.okOr (payloadOui payload) ()).expect
    if packetType ∉ [0x1, 0x4, 0x5, 0x6, 0x7] then .err (.unsupportedPacketType packetType)
    else if !classIdIndicator then .err .missingClassId
    else if packetSizeBytes ≠ payload.length then .err (.packetSize packetSizeBytes payload.length)
    else if oui ≠ difiCid then .err (.invalidOui oui)
    else .ok ()

structure ParsedPayload where
  profile : String
  packet : Packet

def profiles : List (String × ParseOptions) := [
  ("DIFI 1.3.0 strict", {}),
  ("DIFI 1.2.1 strict", ⟨.v1_2_1, .strict⟩),
  ("DIFI 1.2.1 legacy version packet type", ⟨.v1_2_1, .legacyVersionPacketType⟩),
  ("DIFI 1.1 strict", ⟨.v1_1, .strict⟩)]

/-- The first profile that parses the payload gives the packet; the errors of
those before it are kept. -/
def tryProfiles (payload : List UInt8) :
    List (String × ParseOptions) → List (String × ParseError) → Outcome (List (String × ParseError)) ParsedPayload
  | [], errors => .err errors
  | (label, options) :: rest, errors =>
    match Parser.parsePacketExactWithOptions payload options with
    | .ok packet => .ok { profile := label, packet }
    | .err e => tryProfiles payload rest (errors ++ [(label, e)])
    | .panic => .panic

def parseWithSupportedProfiles (payload : List UInt8) : Outcome (List (String × ParseError)) ParsedPayload :=
  tryProfiles payload profiles []

inductive PayloadError where
  | strict (e : StrictError)
  | unparsed (errors : List (String × ParseError))
deriving DecidableEq, Repr

structure PayloadFailure where
  capture : String
  payloadIndex : Nat
  payloadLen : Nat
  header : Option UInt32
  oui : Option UInt32
  error : PayloadError
deriving DecidableEq, Repr

def payloadFailure (capture : String) (payloadIndex : Nat) (payload : List UInt8) (error : PayloadError) :
    PayloadFailure where
  capture
  payloadIndex
  payloadLen := payload.length
  header := headerWord payload
  oui := payloadOui payload
  error

def recordFailure (failures : List PayloadFailure) (failure : PayloadFailure) : List PayloadFailure :=
  if failures.length < maxFailures then failures ++ [failure] else failures

def packetTypeLabel : PacketType → String
  | .signalDataWithStreamId => "0x1 SignalDataWithStreamId"
  | .contextWithStreamId => "0x4 ContextWithStreamId"
  | .versionWithStreamId => "0x5 VersionWithStreamId"
  | .commandWithStreamId => "0x6 CommandWithStreamId"
  | .extensionCommandWithStreamId => "0x7 ExtensionCommandWithStreamId"

def packetClassLabel : PacketClassCode → String
  | .standardFlowSignalData => "0x0000 StandardFlowSignalData"
  | .standardFlowSignalContext => "0x0001 StandardFlowSignalContext"
  | .sampleCountSignalData => "0x0002 SampleCountSignalData"
  | .sampleCountSignalContext => "0x0003 SampleCountSignalContext"
  | .versionFlowSignalContext => "0x0004 VersionFlowSignalContext"
  | .sampleCountTimingFlowControl => "0x0005 SampleCountTimingFlowControl"
  | .realTimeTimingFlowControl => "0x0006 RealTimeTimingFlowControl"
  | .sinkCapabilitiesQuery => "0x0007 SinkCapabilitiesQuery"
  | .sinkCapabilitiesResponse => "0x0008 SinkCapabilitiesResponse"
  | .statusReport => "0x0009 StatusReport"

structure LengthRange where
  min : Option Nat := none
  max : Option Nat := none
deriving DecidableEq, Repr

def LengthRange.record (r : LengthRange) (len : Nat) : LengthRange where
  min := some (r.min.elim len fun least => Nat.min least len)
  max := some (r.max.elim len fun most => Nat.max most len)

structure CaptureSummary where
  path : String
  udpPayloads : Nat := 0
  lengthRange : LengthRange := {}
  streamIds : Finset UInt32 := ∅

def CaptureSummary.recordUdpPayload (s : CaptureSummary) (len : Nat) : CaptureSummary :=
  { s with udpPayloads := s.udpPayloads + 1, lengthRange := s.lengthRange.record len }

def CaptureSummary.recordParsedPayload (s : CaptureSummary) (prologue : Prologue) : CaptureSummary :=
  { s with streamIds := insert prologue.streamId s.streamIds }

/-- The counts of a run of fewer than 2 ^ 64 payloads. The counters of the source are
64 bits wide and go no further. -/
structure CertificationSummary where
  udpPayloads : Nat := 0
  parsedPayloads : Nat := 0
  lengthRange : LengthRange := {}
  streamIds : Finset UInt32 := ∅
  byProfile : Table String Nat := Table.empty
  byPacketType : Table String Nat := Table.empty
  byPacketClass : Table String Nat := Table.empty
  captures : List CaptureSummary := []

namespace CertificationSummary

variable (s : CertificationSummary)

def recordUdpPayload (len : Nat) : CertificationSummary :=
  { s with udpPayloads := s.udpPayloads + 1, lengthRange := s.lengthRange.record len }

def recordParsedPayload (profile : String) (prologue : Prologue) : CertificationSummary :=
  { s with
    parsedPayloads := s.parsedPayloads + 1
    streamIds := insert prologue.streamId s.streamIds
    byProfile := s.byProfile.bump profile
    byPacketType := s.byPacketType.bump (packetTypeLabel prologue.header.packetType)
    byPacketClass := s.byPacketClass.bump (packetClassLabel prologue.classId.packetClass) }

def recordCapture (capture : CaptureSummary) : CertificationSummary :=
  { s with captures := s.captures ++ [capture] }

end CertificationSummary

/-- The messages that a run ends with when it does not pass. -/
inductive Rejection where
  | unreadable (capture : String) (e : CaptureError)
  | noPayloadsIn (capture : String)
  | noPayloads
  | failed (failedPayloads : Nat) (failures : List PayloadFailure)
  | miscounted (parsedPayloads udpPayloads : Nat)
deriving DecidableEq, Repr

structure Progress where
  summary : CertificationSummary := {}
  failedPayloads : Nat := 0
  failures : List PayloadFailure := []

def Progress.fail (s : Progress) (failure : PayloadFailure) : Progress :=
  { s with failedPayloads := s.failedPayloads + 1, failures := recordFailure s.failures failure }

def certifyPayload (capture : String) (s : Progress × CaptureSummary) (entry : List UInt8 × Nat) :
    Outcome Rejection (Progress × CaptureSummary) :=
  let payload := entry.1
  let progress := { s.1 with summary := s.1.summary.recordUdpPayload payload.length }
  let captureSummary := s.2.recordUdpPayload payload.length
  match validateStrictDifiPayload payload with
  | .panic => .panic
  | .err e => .ok (progress.fail (payloadFailure capture entry.2 payload (.strict e)), captureSummary)
  | .ok () =>
    match parseWithSupportedProfiles payload with
    | .panic => .panic
    | .err errors =>
      .ok (progress.fail (payloadFailure capture entry.2 payload (.unparsed errors)), captureSummary)
    | .ok parsed =>
      let prologue := parsed.packet.prologue
      .ok ({ progress with summary := progress.summary.recordParsedPayload parsed.profile prologue },
        captureSummary.recordParsedPayload prologue)

def certifyCapture (s : Progress) (capture : String × List UInt8) : Outcome Rejection Progress := do
  let udpPayloads ← (captureUdpPayloads capture.2).mapErr (.unreadable capture.1)
  if udpPayloads.isEmpty then .err (.noPayloadsIn capture.1)
  else do
    let (progress, captureSummary) ←
      udpPayloads.zipIdx.foldlM (certifyPayload capture.1) (s, { path := capture.1 })
    .ok { progress with summary := progress.summary.recordCapture captureSummary }

def certify (captures : List (String × List UInt8)) : Outcome Rejection CertificationSummary := do
  let s ← captures.foldlM certifyCapture {}
  if ¬s.summary.udpPayloads > 0 then .err .noPayloads
  else if s.failedPayloads ≠ 0 then .err (.failed s.failedPayloads s.failures)
  else if s.summary.parsedPayloads ≠ s.summary.udpPayloads then
    .err (.miscounted s.summary.parsedPayloads s.summary.udpPayloads)
  else .ok s.summary

end Difi.Certification
