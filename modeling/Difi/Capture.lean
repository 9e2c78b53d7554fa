import Difi.Machine.Bytes
import Difi.Machine.Walk

namespace Difi.Capture

open Machine

/-- Why a capture file cannot be read. -/
inductive CaptureError where
  | unsupportedMagic
  | truncatedU16 (offset : Nat)
  | truncatedU32 (offset : Nat)
  | truncatedGlobalHeader
  | unsupportedPcapMagic
  | unsupportedLinkType (linkType : UInt32)
  | truncatedPacketHeader (offset : Nat)
  | packetLengthOverflow
  | packetPastInput (offset packetEnd len : Nat)
  | truncatedBlockHeader (offset : Nat)
  | dataBeforeSection (offset : Nat)
  | invalidBlockLength (blockLen offset : Nat)
  | blockLengthOverflow
  | blockPastInput (offset blockEnd len : Nat)
  | trailerMismatch (offset trailingLen blockLen : Nat)
  | truncatedInterfaceDescription (offset : Nat)
  | truncatedEnhancedPacket (offset : Nat)
  | unknownInterface (offset interfaceId : Nat)
  | capturedLengthOverflow
  | packetPastBody (offset : Nat)
deriving DecidableEq, Repr

def CaptureError.text : CaptureError → String
  | .unsupportedMagic => "unsupported capture file magic"
  | .truncatedU16 offset => s!"truncated u16 at offset {offset}"
  | .truncatedU32 offset => s!"truncated u32 at offset {offset}"
  | .truncatedGlobalHeader => "truncated pcap global header"
  | .unsupportedPcapMagic => "unsupported pcap magic"
  | .unsupportedLinkType linkType => s!"unsupported pcap link type {linkType}"
  | .truncatedPacketHeader offset => s!"truncated pcap packet header at offset {offset}"
  | .packetLengthOverflow => "pcap packet length overflow"
  | .packetPastInput offset packetEnd len =>
    s!"pcap packet at offset {offset} extends past input: {packetEnd} > {len}"
  | .truncatedBlockHeader offset => s!"truncated block header at offset {offset}"
  | .dataBeforeSection offset => s!"pcapng data before section header at {offset}"
  | .invalidBlockLength blockLen offset => s!"invalid block length {blockLen} at offset {offset}"
  | .blockLengthOverflow => "pcapng block length overflow"
  | .blockPastInput offset blockEnd len => s!"block at offset {offset} extends past input: {blockEnd} > {len}"
  | .trailerMismatch offset trailingLen blockLen =>
    s!"block length trailer mismatch at offset {offset}: {trailingLen} != {blockLen}"
  | .truncatedInterfaceDescription offset =>
    s!"truncated pcapng interface description block at offset {offset}"
  | .truncatedEnhancedPacket offset => s!"truncated pcapng enhanced packet block at offset {offset}"
  | .unknownInterface offset interfaceId =>
    s!"pcapng enhanced packet block at offset {offset} references unknown interface {interfaceId}"
  | .capturedLengthOverflow => "captured packet length overflow"
  | .packetPastBody offset => s!"pcapng enhanced packet block at offset {offset} extends past block body"

abbrev CaptureResult := Outcome CaptureError

inductive ByteOrder where
  | little
  | big
deriving DecidableEq, Repr

def ByteOrder.readU16 (order : ByteOrder) (input : List UInt8) (offset : Nat) : CaptureResult UInt16 := do
  let stop ← addUsize offset 2
  let bytes ← Outcome.okOr (getRange input offset stop) (.truncatedU16 offset)
  let b0 ← indexAt bytes 0
  let b1 ← indexAt bytes 1
  match order with
  | .little => .ok (fromBeBytes16 b1 b0)
  | .big => .ok (fromBeBytes16 b0 b1)

def ByteOrder.readU32 (order : ByteOrder) (input : List UInt8) (offset : Nat) : CaptureResult UInt32 := do
  let stop ← addUsize offset 4
  let bytes ← Outcome.okOr (getRange input offset stop) (.truncatedU32 offset)
  let b0 ← indexAt bytes 0
  let b1 ← indexAt bytes 1
  let b2 ← indexAt bytes 2
  let b3 ← indexAt bytes 3
  match order with
  | .little => .ok (fromBeBytes b3 b2 b1 b0)
  | .big => .ok (fromBeBytes b0 b1 b2 b3)

/-- A call that may find nothing: it then comes back with an empty error. -/
abbrev Maybe := Outcome Unit

def ipv4UdpPayload (packet : List UInt8) : Maybe (List UInt8) :=
  if packet.length < 20 then .err ()
  else do
    let first ← indexAt packet 0
    if first >>> 4 ≠ 4 then .err ()
    else do
      let headerLen ← mulUsize (first &&& 0x0F).toNat 4
      if headerLen < 20 ∨ packet.length < headerLen then .err ()
      else do
        let l0 ← indexAt packet 2
        let l1 ← indexAt packet 3
        let totalLen := (fromBeBytes16 l0 l1).toNat
        let least ← addUsize headerLen 8
        if totalLen < least ∨ packet.length < totalLen then .err ()
        else do
          let protocol ← indexAt packet 9
          if protocol ≠ 17 then .err ()
          else do
            let f0 ← indexAt packet 6
            let f1 ← indexAt packet 7
            let fragment := fromBeBytes16 f0 f1 &&& 0x3FFF
            if fragment ≠ 0 then .err ()
            else do
              let udp ← sliceRange packet headerLen totalLen
              let u0 ← indexAt udp 4
              let u1 ← indexAt udp 5
              let udpLen := (fromBeBytes16 u0 u1).toNat
              if udpLen < 8 ∨ udpLen > udp.length then .err ()
              else sliceRange udp 8 udpLen

structure EthernetState where
  ethertype : UInt16
  payloadOffset : Nat
deriving DecidableEq, Repr

def isVlanTag (ethertype : UInt16) : Bool := ethertype = 0x8100 ∨ ethertype = 0x88A8 ∨ ethertype = 0x9100

def skipVlanTag (frame : List UInt8) (s : EthernetState) : Maybe EthernetState := do
  let tagEnd ← addUsize s.payloadOffset 4
  if frame.length < tagEnd then .err ()
  else do
    let high ← addUsize s.payloadOffset 2
    let b0 ← indexAt frame high
    let low ← addUsize s.payloadOffset 3
    let b1 ← indexAt frame low
    let payloadOffset ← addUsize s.payloadOffset 4
    .ok { ethertype := fromBeBytes16 b0 b1, payloadOffset }

theorem skipVlanTag_eq_ok {frame : List UInt8} {s t : EthernetState} (h : skipVlanTag frame s = .ok t) :
    t.payloadOffset = s.payloadOffset + 4 ∧ s.payloadOffset + 4 ≤ frame.length := by
  simp only [skipVlanTag, Outcome.bind_eq_ok, Outcome.if_eq_ok, addUsize_eq_ok, reduceCtorEq, and_false,
    false_or, Outcome.ok.injEq] at h
  obtain ⟨tagEnd, ⟨-, htag⟩, hlong, -, -, -, -, -, -, -, -, next, ⟨-, hnext⟩, rfl⟩ := h
  exact ⟨hnext.symm, by omega⟩

theorem skipVlanTag_shrinks {frame : List UInt8} {s t : EthernetState} (h : skipVlanTag frame s = .ok t) :
    frame.length - t.payloadOffset < frame.length - s.payloadOffset := by
  obtain ⟨hnext, hle⟩ := skipVlanTag_eq_ok h
  omega

def ethernetUdpPayload (frame : List UInt8) : Maybe (List UInt8) :=
  if frame.length < 14 then .err ()
  else do
    let b0 ← indexAt frame 12
    let b1 ← indexAt frame 13
    let s ← whileLoop (fun s => isVlanTag s.ethertype) (skipVlanTag frame)
      (fun s => frame.length - s.payloadOffset) (fun _ _ _ h => skipVlanTag_shrinks h)
      { ethertype := fromBeBytes16 b0 b1, payloadOffset := 14 }
    if s.ethertype = 0x0800 then do
      let packet ← sliceFrom frame s.payloadOffset
      ipv4UdpPayload packet
    else .err ()

def linuxCookedUdpPayload (frame : List UInt8) : Maybe (List UInt8) :=
  if frame.length < 16 then .err ()
  else do
    let b0 ← indexAt frame 14
    let b1 ← indexAt frame 15
    if fromBeBytes16 b0 b1 = 0x0800 then do
      let packet ← sliceFrom frame 16
      ipv4UdpPayload packet
    else .err ()

def udpPayload (linkType : UInt16) (packet : List UInt8) : Maybe (List UInt8) :=
  if linkType = 1 then ethernetUdpPayload packet
  else if linkType = 101 then ipv4UdpPayload packet
  else if linkType = 113 then linuxCookedUdpPayload packet
  else if linkType = 147 then .ok packet
  else .err ()

/-- A payload is kept when there is one. -/
def collect (payloads : List (List UInt8)) (found : Maybe (List UInt8)) : CaptureResult (List (List UInt8)) :=
  (found.map fun payload => payloads ++ [payload]).handle fun _ => .ok payloads

def pcapByteOrder (input : List UInt8) : Option ByteOrder :=
  (getRange input 0 4).bind fun magic =>
    if magic = [0xD4, 0xC3, 0xB2, 0xA1] ∨ magic = [0x4D, 0x3C, 0xB2, 0xA1] then some .little
    else if magic = [0xA1, 0xB2, 0xC3, 0xD4] ∨ magic = [0xA1, 0xB2, 0x3C, 0x4D] then some .big
    else none

structure PcapState where
  offset : Nat
  payloads : List (List UInt8)
deriving DecidableEq, Repr

/-- One round over the records of a file. -/
def pcapRecord (order : ByteOrder) (linkType : UInt16) (input : List UInt8) (s : PcapState) :
    CaptureResult PcapState := do
  let left ← subUsize input.length s.offset
  if left < 16 then .err (.truncatedPacketHeader s.offset)
  else do
    let capturedAt ← addUsize s.offset 8
    let capturedLen ← order.readU32 input capturedAt
    let packetStart ← addUsize s.offset 16
    let packetEnd ← Outcome.okOr (checkedAddUsize packetStart capturedLen.toNat) .packetLengthOverflow
    if packetEnd > input.length then .err (.packetPastInput s.offset packetEnd input.length)
    else do
      let packet ← sliceRange input packetStart packetEnd
      let payloads ← collect s.payloads (udpPayload linkType packet)
      .ok { offset := packetEnd, payloads }

theorem pcapRecord_forward {order : ByteOrder} {linkType : UInt16} {input : List UInt8} {s t : PcapState}
    (h : pcapRecord order linkType input s = .ok t) : s.offset + 16 ≤ t.offset ∧ t.offset ≤ input.length := by
  simp only [pcapRecord, Outcome.bind_eq_ok, Outcome.if_eq_ok, addUsize_eq_ok, Outcome.okOr_eq_ok,
    checkedAddUsize_eq_some, reduceCtorEq, and_false, false_or, Outcome.ok.injEq] at h
  obtain ⟨-, -, -, -, -, capturedLen, -, packetStart, ⟨-, hstart⟩, packetEnd, ⟨-, hend⟩, hle, -, -, -, -, rfl⟩ := h
  simp only
  omega

def pcapRecords (order : ByteOrder) (linkType : UInt16) (input : List UInt8) :
    PcapState → CaptureResult PcapState :=
  whileLoop (unread PcapState.offset input) (pcapRecord order linkType input)
    (fun s => input.length - s.offset)
    (fun s t _ h => by
      obtain ⟨hforward, hle⟩ := pcapRecord_forward h
      omega)

def pcapUdpPayloads (input : List UInt8) : CaptureResult (List (List UInt8)) :=
  if input.length < 24 then .err .truncatedGlobalHeader
  else do
    let order ← Outcome.okOr (pcapByteOrder input) .unsupportedPcapMagic
    let linkType ← order.readU32 input 20
    let linkType ← Outcome.okOr (tryIntoU16 linkType.toNat) (.unsupportedLinkType linkType)
    let s ← pcapRecords order linkType input { offset := 24, payloads := [] }
    .ok s.payloads

def sectionByteOrder (input : List UInt8) (offset : Nat) : Maybe ByteOrder := do
  let typeEnd ← addUsize offset 4
  let blockType ← Outcome.okOr (getRange input offset typeEnd) ()
  if blockType ≠ [0x0A, 0x0D, 0x0D, 0x0A] then .err ()
  else do
    let magicStart ← addUsize offset 8
    let magicEnd ← addUsize offset 12
    let magic ← Outcome.okOr (getRange input magicStart magicEnd) ()
    if magic = [0x4D, 0x3C, 0x2B, 0x1A] then .ok .little
    else if magic = [0x1A, 0x2B, 0x3C, 0x4D] then .ok .big
    else .err ()

structure PcapngSection where
  byteOrder : Option ByteOrder
  linkTypes : List UInt16
deriving DecidableEq, Repr

structure PcapngState where
  offset : Nat
  current : PcapngSection
  payloads : List (List UInt8)
deriving DecidableEq, Repr

/-- The block at an offset opens a section of its own, or belongs to the current one. -/
def enterSection (input : List UInt8) (s : PcapngState) : CaptureResult PcapngSection :=
  ((sectionByteOrder input s.offset).map fun order => ⟨some order, []⟩).handle fun _ => .ok s.current

def interfaceDescription (order : ByteOrder) (offset : Nat) (body : List UInt8) (linkTypes : List UInt16) :
    CaptureResult (List UInt16) :=
  if body.length < 8 then .err (.truncatedInterfaceDescription offset)
  else do
    let linkType ← order.readU16 body 0
    .ok (linkTypes ++ [linkType])

def enhancedPacket (order : ByteOrder) (offset : Nat) (body : List UInt8) (linkTypes : List UInt16)
    (payloads : List (List UInt8)) : CaptureResult (List (List UInt8)) :=
  if body.length < 20 then .err (.truncatedEnhancedPacket offset)
  else do
    let interfaceId ← order.readU32 body 0
    let linkType ← Outcome.okOr linkTypes[interfaceId.toNat]? (.unknownInterface offset interfaceId.toNat)
    let capturedLen ← order.readU32 body 12
    let packetEnd ← Outcome.okOr (checkedAddUsize 20 capturedLen.toNat) .capturedLengthOverflow
    if packetEnd > body.length then .err (.packetPastBody offset)
    else do
      let packet ← sliceRange body 20 packetEnd
      collect payloads (udpPayload linkType packet)

/-- One round over the blocks of a file. -/
def pcapngBlock (input : List UInt8) (s : PcapngState) : CaptureResult PcapngState := do
  let left ← subUsize input.length s.offset
  if left < 12 then .err (.truncatedBlockHeader s.offset)
  else do
    let current ← enterSection input s
    let order ← Outcome.okOr current.byteOrder (.dataBeforeSection s.offset)
    let blockType ← order.readU32 input s.offset
    let lenAt ← addUsize s.offset 4
    let blockLen ← order.readU32 input lenAt
    let blockLen := blockLen.toNat
    if blockLen < 12 ∨ blockLen % 4 ≠ 0 then .err (.invalidBlockLength blockLen s.offset)
    else do
      let blockEnd ← Outcome.okOr (checkedAddUsize s.offset blockLen) .blockLengthOverflow
      if blockEnd > input.length then .err (.blockPastInput s.offset blockEnd input.length)
      else do
        let bodyEnd ← subUsize blockEnd 4
        let trailingLen ← order.readU32 input bodyEnd
        if trailingLen.toNat ≠ blockLen then .err (.trailerMismatch s.offset trailingLen.toNat blockLen)
        else if blockType = 0x0000_0001 then do
          let bodyStart ← addUsize s.offset 8
          let body ← sliceRange input bodyStart bodyEnd
          let linkTypes ← interfaceDescription order s.offset body current.linkTypes
          .ok { offset := blockEnd, current := { current with linkTypes }, payloads := s.payloads }
        else if blockType = 0x0000_0006 then do
          let bodyStart ← addUsize s.offset 8
          let body ← sliceRange input bodyStart bodyEnd
          let payloads ← enhancedPacket order s.offset body current.linkTypes s.payloads
          .ok { offset := blockEnd, current, payloads }
        -- A section header has done its part above, and other blocks are skipped.
        else .ok { offset := blockEnd, current, payloads := s.payloads }

theorem pcapngBlock_forward {input : List UInt8} {s t : PcapngState} (h : pcapngBlock input s = .ok t) :
    s.offset + 12 ≤ t.offset ∧ t.offset ≤ input.length := by
  simp only [pcapngBlock, Outcome.bind_eq_ok, Outcome.if_eq_ok, Outcome.okOr_eq_ok,
    checkedAddUsize_eq_some, reduceCtorEq, and_false, false_or, Outcome.ok.injEq] at h
  obtain ⟨_, -, -, _, -, _, -, _, -, _, -, blockLen, -, hlen, blockEnd, ⟨-, hend⟩, hle, _, -, _, -, -, h⟩ := h
  have hoffset : t.offset = blockEnd := by
    rcases h with ⟨-, _, -, _, -, _, -, rfl⟩ | ⟨-, ⟨-, _, -, _, -, _, -, rfl⟩ | ⟨-, rfl⟩⟩ <;> rfl
  omega

def pcapngBlocks (input : List UInt8) : PcapngState → CaptureResult PcapngState :=
  whileLoop (unread PcapngState.offset input) (pcapngBlock input) (fun s => input.length - s.offset)
    (fun s t _ h => by
      obtain ⟨hforward, hle⟩ := pcapngBlock_forward h
      omega)

def pcapngUdpPayloads (input : List UInt8) : CaptureResult (List (List UInt8)) := do
  let s ← pcapngBlocks input { offset := 0, current := ⟨none, []⟩, payloads := [] }
  .ok s.payloads

def captureUdpPayloads (input : List UInt8) : CaptureResult (List (List UInt8)) :=
  if [0x0A, 0x0D, 0x0D, 0x0A].isPrefixOf input then pcapngUdpPayloads input
  else if (pcapByteOrder input).isSome then pcapUdpPayloads input
  else .err .unsupportedMagic

end Difi.Capture
