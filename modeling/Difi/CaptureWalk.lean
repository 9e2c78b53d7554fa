import Difi.Encapsulation

namespace Difi.CaptureWalk

open Machine Capture Encapsulation

def fieldAt (order : ByteOrder) (b : List UInt8) (k : Nat) : UInt32 :=
  match order with
  | .little => fromBeBytes (b.getD (k + 3) 0) (b.getD (k + 2) 0) (b.getD (k + 1) 0) (b.getD k 0)
  | .big => fromBeBytes (b.getD k 0) (b.getD (k + 1) 0) (b.getD (k + 2) 0) (b.getD (k + 3) 0)

def shortAt (order : ByteOrder) (b : List UInt8) (k : Nat) : UInt16 :=
  match order with
  | .little => fromBeBytes16 (b.getD (k + 1) 0) (b.getD k 0)
  | .big => fromBeBytes16 (b.getD k 0) (b.getD (k + 1) 0)

def stretch (b : List UInt8) (k n : Nat) : List UInt8 := (b.drop k).take n

section Slices

variable {b c : List UInt8} {k n m : Nat}

theorem length_stretch (h : k + n ≤ b.length) : (stretch b k n).length = n := by
  rw [stretch, List.length_take, List.length_drop]
  omega

theorem getD_stretch (h : m < n) : (stretch b k n).getD m 0 = b.getD (k + m) 0 := by
  rw [stretch, List.getD_eq_getElem?_getD, List.getElem?_take_of_lt h, List.getElem?_drop,
    ← List.getD_eq_getElem?_getD]

theorem getRange_stretch (h : k + n ≤ b.length) : getRange b k (k + n) = some (stretch b k n) := by
  rw [getRange_some (Nat.le_add_right k n) h, Nat.add_sub_cancel_left, stretch]

theorem sliceRange_stretch {ε : Type} (h : k + n ≤ b.length) :
    (sliceRange b k (k + n) : Outcome ε (List UInt8)) = .ok (stretch b k n) := by
  rw [sliceRange, getRange_stretch h]

theorem stretch_agree (h : c.take m = b.take m) (hn : k + n ≤ m) : stretch c k n = stretch b k n := by
  have hcut : ∀ d : List UInt8, stretch d k n = ((d.take m).drop k).take n := by
    intro d
    rw [stretch, List.drop_take, List.take_take, Nat.min_eq_left (by omega)]
  rw [hcut c, h, ← hcut b]

theorem getD_agree (h : c.take m = b.take m) (hk : k < m) : c.getD k 0 = b.getD k 0 := by
  rw [List.getD_eq_getElem?_getD, List.getD_eq_getElem?_getD, ← List.getElem?_take_of_lt hk, h,
    List.getElem?_take_of_lt hk]

theorem fieldAt_agree (order : ByteOrder) (h : c.take m = b.take m) (hk : k + 4 ≤ m) :
    fieldAt order c k = fieldAt order b k := by
  simp only [fieldAt, getD_agree h (show k < m by omega), getD_agree h (show k + 1 < m by omega),
    getD_agree h (show k + 2 < m by omega), getD_agree h (show k + 3 < m by omega)]

theorem readU32_ok (order : ByteOrder) (hb : b.length ≤ isizeMax) (h : k + 4 ≤ b.length) :
    order.readU32 b k = .ok (fieldAt order b k) := by
  have hlen := length_stretch h
  have hlimit : k + 4 < usizeLimit := by
    unfold isizeMax at hb
    unfold usizeLimit
    omega
  rw [ByteOrder.readU32, addUsize_ok hlimit, Outcome.ok_bind, getRange_stretch h, Outcome.okOr_some,
    Outcome.ok_bind, indexAt_getD 0 (by omega), Outcome.ok_bind, indexAt_getD 0 (by omega), Outcome.ok_bind,
    indexAt_getD 0 (by omega), Outcome.ok_bind, indexAt_getD 0 (by omega), Outcome.ok_bind]
  simp only [getD_stretch (b := b) (k := k) (show 0 < 4 by omega),
    getD_stretch (b := b) (k := k) (show 1 < 4 by omega), getD_stretch (b := b) (k := k) (show 2 < 4 by omega),
    getD_stretch (b := b) (k := k) (show 3 < 4 by omega)]
  cases order <;> rfl

theorem readU16_ok (order : ByteOrder) (hb : b.length ≤ isizeMax) (h : k + 2 ≤ b.length) :
    order.readU16 b k = .ok (shortAt order b k) := by
  have hlen := length_stretch h
  have hlimit : k + 2 < usizeLimit := by
    unfold isizeMax at hb
    unfold usizeLimit
    omega
  rw [ByteOrder.readU16, addUsize_ok hlimit, Outcome.ok_bind, getRange_stretch h, Outcome.okOr_some,
    Outcome.ok_bind, indexAt_getD 0 (by omega), Outcome.ok_bind, indexAt_getD 0 (by omega), Outcome.ok_bind]
  simp only [getD_stretch (b := b) (k := k) (show 0 < 2 by omega),
    getD_stretch (b := b) (k := k) (show 1 < 2 by omega)]
  cases order <;> rfl

end Slices

/-- The payload that a packet of a link carries, if it carries one. -/
def payloadOf (linkType : UInt16) (packet : List UInt8) : Option (List UInt8) :=
  (udpPayload linkType packet).toOption

theorem payloadOf_eq_some {linkType : UInt16} {packet payload : List UInt8} (h : packet.length ≤ isizeMax) :
    payloadOf linkType packet = some payload ↔ Encapsulated linkType packet payload := by
  rw [payloadOf, Outcome.toOption_eq_some, udpPayload_eq_ok linkType h]

theorem collect_eq (payloads : List (List UInt8)) (linkType : UInt16) {packet : List UInt8}
    (h : packet.length ≤ isizeMax) :
    collect payloads (udpPayload linkType packet) = .ok (payloads ++ (payloadOf linkType packet).toList) := by
  have hsafe := udpPayload_safe linkType h
  rw [payloadOf]
  cases hfound : udpPayload linkType packet with
  | ok payload => rfl
  | err e =>
      rw [collect, Outcome.map_err, Outcome.handle_err, Outcome.toOption, Option.toList_none, List.append_nil]
  | panic => exact absurd hfound hsafe

theorem stretch_le {b : List UInt8} {k n : Nat} (h : b.length ≤ isizeMax) : (stretch b k n).length ≤ isizeMax := by
  rw [stretch, List.length_take, List.length_drop]
  omega

section Pcap

variable {order : ByteOrder} {linkType : UInt16} {b : List UInt8} {s : PcapState}

def capturedLen (order : ByteOrder) (b : List UInt8) (k : Nat) : Nat := (fieldAt order b (k + 8)).toNat

theorem pcapRecord_eq (hb : b.length ≤ isizeMax) (hs : s.offset < b.length) : pcapRecord order linkType b s =
    if b.length < s.offset + 16 then .err (.truncatedPacketHeader s.offset)
    else if b.length < s.offset + 16 + capturedLen order b s.offset then
      .err (.packetPastInput s.offset (s.offset + 16 + capturedLen order b s.offset) b.length)
    else .ok {
      offset := s.offset + 16 + capturedLen order b s.offset
      payloads := s.payloads ++ (payloadOf linkType
        (stretch b (s.offset + 16) (capturedLen order b s.offset))).toList } := by
  have hfield : (fieldAt order b (s.offset + 8)).toNat < 2 ^ 32 := UInt32.toNat_lt _
  have hlimit : s.offset + 16 + capturedLen order b s.offset < usizeLimit := by
    unfold isizeMax at hb
    unfold usizeLimit
    rw [capturedLen]
    omega
  rw [pcapRecord, subUsize_ok (Nat.le_of_lt hs), Outcome.ok_bind]
  by_cases hheader : b.length < s.offset + 16
  · rw [if_pos (by omega), if_pos hheader]
  rw [if_neg (by omega), if_neg hheader, addUsize_ok (by omega), Outcome.ok_bind,
    readU32_ok order hb (by omega), Outcome.ok_bind, ← capturedLen, addUsize_ok (by omega), Outcome.ok_bind,
    checkedAddUsize_some hlimit, Outcome.okOr_some, Outcome.ok_bind]
  by_cases hpast : b.length < s.offset + 16 + capturedLen order b s.offset
  · rw [if_pos hpast, if_pos hpast]
  · rw [if_neg hpast, if_neg hpast, sliceRange_stretch (by omega), Outcome.ok_bind, collect_eq _ _ (stretch_le hb),
      Outcome.ok_bind]

theorem pcapRecord_eq_ok {t : PcapState} (hb : b.length ≤ isizeMax) (hs : s.offset < b.length) :
    pcapRecord order linkType b s = .ok t ↔ s.offset + 16 + capturedLen order b s.offset ≤ b.length ∧ t = {
      offset := s.offset + 16 + capturedLen order b s.offset
      payloads := s.payloads ++ (payloadOf linkType
        (stretch b (s.offset + 16) (capturedLen order b s.offset))).toList } := by
  rw [pcapRecord_eq hb hs]
  split
  next hshort =>
      simp only [reduceCtorEq, false_iff]
      omega
  next hlong =>
      split
      next hpast =>
          simp only [reduceCtorEq, false_iff]
          omega
      next hfits =>
          rw [Outcome.ok.injEq, eq_comm]
          exact ⟨fun h => ⟨Nat.le_of_not_lt hfits, h⟩, fun h => h.2⟩

/-- A record that is cut short: its header, or the packet in it. -/
def RecordCut (k : Nat) (e : CaptureError) : Prop :=
  e = .truncatedPacketHeader k ∨ ∃ packetEnd len, e = .packetPastInput k packetEnd len

theorem pcapRecord_agree {c : List UInt8} {t : PcapState} (hb : b.length ≤ isizeMax) (hc : c.length ≤ isizeMax)
    (hs : s.offset < b.length) (h : pcapRecord order linkType b s = .ok t)
    (htake : c.take t.offset = b.take t.offset) : pcapRecord order linkType c s = .ok t := by
  obtain ⟨hfits, rfl⟩ := (pcapRecord_eq_ok hb hs).mp h
  simp only at htake
  have hlen := length_of_take_eq htake hfits
  have hcaptured : capturedLen order c s.offset = capturedLen order b s.offset := by
    rw [capturedLen, fieldAt_agree order htake (by omega), capturedLen]
  rw [pcapRecord_eq_ok hc (by omega), hcaptured, stretch_agree htake (by omega)]
  exact ⟨hlen, rfl⟩

theorem pcapRecord_short {t : PcapState} {n : Nat} (hb : b.length ≤ isizeMax)
    (h : pcapRecord order linkType b s = .ok t) (hs : s.offset < n) (hn : n < t.offset)
    (ht : t.offset ≤ b.length) :
    ∃ e, pcapRecord order linkType (b.take n) s = .err e ∧ RecordCut s.offset e := by
  obtain ⟨hfits, rfl⟩ := (pcapRecord_eq_ok hb (by omega)).mp h
  simp only at hn
  have hlen : (b.take n).length = n := List.length_take_of_le (by omega)
  rw [pcapRecord_eq (by omega) (by omega), hlen]
  by_cases hheader : n < s.offset + 16
  · rw [if_pos hheader]
    exact ⟨_, rfl, .inl rfl⟩
  · have hcaptured : capturedLen order (b.take n) s.offset = capturedLen order b s.offset := by
      rw [capturedLen,
        fieldAt_agree order (c := b.take n) (List.take_take.trans (by rw [Nat.min_self])) (by omega),
        capturedLen]
    rw [if_neg hheader, hcaptured, if_pos hn]
    exact ⟨_, rfl, .inr ⟨_, _, rfl⟩⟩

theorem pcapRecord_walk (order : ByteOrder) (linkType : UInt16) :
    Walk PcapState.offset (pcapRecord order linkType) isizeMax RecordCut where
  forward b s t _ _ h := by
    obtain ⟨hforward, hle⟩ := pcapRecord_forward h
    exact ⟨by omega, hle⟩
  agree b c s t hb hc hs h htake := pcapRecord_agree hb hc hs h htake
  short b s t n hb h hs hn ht := pcapRecord_short hb h hs hn ht

theorem pcapRecord_within (hb : b.length ≤ isizeMax) (hs : s.offset < b.length) :
    Outcome.Within (RecordCut s.offset) (pcapRecord order linkType b s) := by
  rw [pcapRecord_eq hb hs]
  simp only [Outcome.within_ite, Outcome.within_err, Outcome.within_ok, implies_true, and_true]
  exact ⟨fun _ => .inl rfl, fun _ _ => .inr ⟨_, _, rfl⟩⟩

end Pcap

section Pcapng

variable {b : List UInt8} {s : PcapngState}

def orderAt (b : List UInt8) (k : Nat) : Option ByteOrder :=
  if stretch b k 4 = [0x0A, 0x0D, 0x0D, 0x0A] then
    if stretch b (k + 8) 4 = [0x4D, 0x3C, 0x2B, 0x1A] then some .little
    else if stretch b (k + 8) 4 = [0x1A, 0x2B, 0x3C, 0x4D] then some .big
    else none
  else none

def sectionAt (b : List UInt8) (s : PcapngState) : PcapngSection :=
  match orderAt b s.offset with
  | some order => ⟨some order, []⟩
  | none => s.current

theorem enterSection_eq (hb : b.length ≤ isizeMax) (h : s.offset + 12 ≤ b.length) :
    enterSection b s = .ok (sectionAt b s) := by
  have hlimit : s.offset + 12 < usizeLimit := by
    unfold isizeMax at hb
    unfold usizeLimit
    omega
  have horder : sectionByteOrder b s.offset = Outcome.okOr (orderAt b s.offset) () := by
    rw [sectionByteOrder, addUsize_ok (by omega), Outcome.ok_bind, getRange_stretch (by omega), Outcome.okOr_some,
      Outcome.ok_bind, orderAt]
    by_cases hkind : stretch b s.offset 4 = [0x0A, 0x0D, 0x0D, 0x0A]
    · rw [if_neg (not_not_intro hkind), if_pos hkind, addUsize_ok (by omega), Outcome.ok_bind, addUsize_ok hlimit,
        Outcome.ok_bind, show s.offset + 12 = s.offset + 8 + 4 from rfl, getRange_stretch (by omega),
        Outcome.okOr_some, Outcome.ok_bind]
      split
      next => rfl
      next => split <;> rfl
    · rw [if_pos hkind, if_neg hkind]
      rfl
  rw [enterSection, horder, sectionAt]
  cases orderAt b s.offset <;> rfl

def blockLen (order : ByteOrder) (b : List UInt8) (k : Nat) : Nat := (fieldAt order b (k + 4)).toNat

def addBlock (order : ByteOrder) (offset : Nat) (kind : UInt32) (body : List UInt8) (current : PcapngSection)
    (payloads : List (List UInt8)) : CaptureResult (PcapngSection × List (List UInt8)) :=
  if kind = 0x0000_0001 then
    (interfaceDescription order offset body current.linkTypes).map fun linkTypes =>
      ({ current with linkTypes }, payloads)
  else if kind = 0x0000_0006 then
    (enhancedPacket order offset body current.linkTypes payloads).map fun payloads => (current, payloads)
  else .ok (current, payloads)

theorem pcapngBlock_eq (hb : b.length ≤ isizeMax) (hs : s.offset < b.length) : pcapngBlock b s =
    if b.length < s.offset + 12 then .err (.truncatedBlockHeader s.offset)
    else Outcome.okOr (sectionAt b s).byteOrder (.dataBeforeSection s.offset) >>= fun order =>
      if blockLen order b s.offset < 12 ∨ blockLen order b s.offset % 4 ≠ 0 then
        .err (.invalidBlockLength (blockLen order b s.offset) s.offset)
      else if b.length < s.offset + blockLen order b s.offset then
        .err (.blockPastInput s.offset (s.offset + blockLen order b s.offset) b.length)
      else if (fieldAt order b (s.offset + blockLen order b s.offset - 4)).toNat ≠ blockLen order b s.offset then
        .err (.trailerMismatch s.offset (fieldAt order b (s.offset + blockLen order b s.offset - 4)).toNat
          (blockLen order b s.offset))
      else (addBlock order s.offset (fieldAt order b s.offset)
          (stretch b (s.offset + 8) (blockLen order b s.offset - 12)) (sectionAt b s) s.payloads).map fun added =>
        ⟨s.offset + blockLen order b s.offset, added.1, added.2⟩ := by
  rw [pcapngBlock, subUsize_ok (Nat.le_of_lt hs), Outcome.ok_bind]
  by_cases hheader : b.length < s.offset + 12
  · rw [if_pos (by omega), if_pos hheader]
  rw [if_neg (by omega), if_neg hheader, enterSection_eq hb (by omega), Outcome.ok_bind]
  cases horder : (sectionAt b s).byteOrder with
  | none => rfl
  | some order =>
      have hfield : (fieldAt order b (s.offset + 4)).toNat < 2 ^ 32 := UInt32.toNat_lt _
      rw [← blockLen] at hfield
      have hlimit : s.offset + blockLen order b s.offset < usizeLimit := by
        unfold isizeMax at hb
        unfold usizeLimit
        omega
      rw [Outcome.okOr_some, Outcome.ok_bind, Outcome.ok_bind, readU32_ok order hb (by omega), Outcome.ok_bind,
        addUsize_ok (by unfold isizeMax at hb; unfold usizeLimit; omega), Outcome.ok_bind,
        readU32_ok order hb (by omega), Outcome.ok_bind, ← blockLen]
      by_cases hlen : blockLen order b s.offset < 12 ∨ blockLen order b s.offset % 4 ≠ 0
      · rw [if_pos hlen, if_pos hlen]
      rw [if_neg hlen, if_neg hlen, checkedAddUsize_some hlimit, Outcome.okOr_some, Outcome.ok_bind]
      by_cases hpast : b.length < s.offset + blockLen order b s.offset
      · rw [if_pos hpast, if_pos hpast]
      rw [if_neg hpast, if_neg hpast, subUsize_ok (by omega), Outcome.ok_bind, readU32_ok order hb (by omega),
        Outcome.ok_bind]
      by_cases htrailer : (fieldAt order b (s.offset + blockLen order b s.offset - 4)).toNat ≠
          blockLen order b s.offset
      · rw [if_pos htrailer, if_pos htrailer]
      rw [if_neg htrailer, if_neg htrailer, addBlock]
      have hbody : (sliceRange b (s.offset + 8) (s.offset + blockLen order b s.offset - 4) :
          CaptureResult (List UInt8)) = .ok (stretch b (s.offset + 8) (blockLen order b s.offset - 12)) := by
        rw [← sliceRange_stretch (by omega)]
        congr 1
        omega
      have hstart : (addUsize s.offset 8 : CaptureResult Nat) = .ok (s.offset + 8) :=
        addUsize_ok (by unfold isizeMax at hb; unfold usizeLimit; omega)
      split
      next =>
          rw [hstart, Outcome.ok_bind, hbody, Outcome.ok_bind, horder]
          cases interfaceDescription order s.offset (stretch b (s.offset + 8) (blockLen order b s.offset - 12))
            (sectionAt b s).linkTypes <;> rfl
      next =>
          split
          next =>
              rw [hstart, Outcome.ok_bind, hbody, Outcome.ok_bind]
              cases enhancedPacket order s.offset (stretch b (s.offset + 8) (blockLen order b s.offset - 12))
                (sectionAt b s).linkTypes s.payloads <;> rfl
          next => rfl

theorem pcapngBlock_eq_ok {t : PcapngState} (hb : b.length ≤ isizeMax) (hs : s.offset < b.length) :
    pcapngBlock b s = .ok t ↔ ∃ order added, (sectionAt b s).byteOrder = some order ∧
      12 ≤ blockLen order b s.offset ∧ blockLen order b s.offset % 4 = 0 ∧
      s.offset + blockLen order b s.offset ≤ b.length ∧
      (fieldAt order b (s.offset + blockLen order b s.offset - 4)).toNat = blockLen order b s.offset ∧
      addBlock order s.offset (fieldAt order b s.offset)
        (stretch b (s.offset + 8) (blockLen order b s.offset - 12)) (sectionAt b s) s.payloads = .ok added ∧
      t = ⟨s.offset + blockLen order b s.offset, added.1, added.2⟩ := by
  rw [pcapngBlock_eq hb hs]
  simp only [Outcome.if_eq_ok, Outcome.bind_eq_ok, Outcome.okOr_eq_ok, Outcome.map_eq_ok, reduceCtorEq, and_false,
    false_or, not_or, Nat.not_lt, not_not, ne_eq]
  constructor
  · rintro ⟨-, order, horder, ⟨hge, hfour⟩, hfits, htrailer, added, hadded, rfl⟩
    exact ⟨order, added, horder, hge, hfour, hfits, htrailer, hadded, rfl⟩
  · rintro ⟨order, added, horder, hge, hfour, hfits, htrailer, hadded, rfl⟩
    exact ⟨by omega, order, horder, ⟨hge, hfour⟩, hfits, htrailer, added, hadded, rfl⟩

theorem orderAt_agree {c : List UInt8} {k m : Nat} (h : c.take m = b.take m) (hk : k + 12 ≤ m) :
    orderAt c k = orderAt b k := by
  rw [orderAt, stretch_agree h (by omega), stretch_agree h (by omega), orderAt]

theorem sectionAt_agree {c : List UInt8} {m : Nat} (h : c.take m = b.take m) (hs : s.offset + 12 ≤ m) :
    sectionAt c s = sectionAt b s := by
  rw [sectionAt, orderAt_agree h hs, sectionAt]

theorem pcapngBlock_agree {c : List UInt8} {t : PcapngState} (hb : b.length ≤ isizeMax) (hc : c.length ≤ isizeMax)
    (hs : s.offset < b.length) (h : pcapngBlock b s = .ok t) (htake : c.take t.offset = b.take t.offset) :
    pcapngBlock c s = .ok t := by
  obtain ⟨order, added, horder, hge, hfour, hfits, htrailer, hadded, rfl⟩ := (pcapngBlock_eq_ok hb hs).mp h
  simp only at htake
  have hlen := length_of_take_eq htake hfits
  have hblock : blockLen order c s.offset = blockLen order b s.offset := by
    rw [blockLen, fieldAt_agree order htake (by omega), blockLen]
  rw [pcapngBlock_eq_ok hc (by omega)]
  refine ⟨order, added, ?_⟩
  rw [hblock, sectionAt_agree htake (by omega), fieldAt_agree order htake (by omega),
    fieldAt_agree order htake (by omega), stretch_agree htake (by omega)]
  exact ⟨horder, hge, hfour, hlen, htrailer, hadded, rfl⟩

/-- A block that is cut short: its header, or what comes after it. -/
def BlockCut (k : Nat) (e : CaptureError) : Prop :=
  e = .truncatedBlockHeader k ∨ ∃ blockEnd len, e = .blockPastInput k blockEnd len

theorem pcapngBlock_short {t : PcapngState} {n : Nat} (hb : b.length ≤ isizeMax) (h : pcapngBlock b s = .ok t)
    (hs : s.offset < n) (hn : n < t.offset) (ht : t.offset ≤ b.length) :
    ∃ e, pcapngBlock (b.take n) s = .err e ∧ BlockCut s.offset e := by
  obtain ⟨order, added, horder, hge, hfour, hfits, -, -, rfl⟩ := (pcapngBlock_eq_ok hb (by omega)).mp h
  simp only at hn
  have hlen : (b.take n).length = n := List.length_take_of_le (by omega)
  have htake : (b.take n).take n = b.take n := by rw [List.take_take, Nat.min_self]
  rw [pcapngBlock_eq (by omega) (by omega), hlen]
  by_cases hheader : n < s.offset + 12
  · rw [if_pos hheader]
    exact ⟨_, rfl, .inl rfl⟩
  · have hblock : blockLen order (b.take n) s.offset = blockLen order b s.offset := by
      rw [blockLen, fieldAt_agree order htake (by omega), blockLen]
    rw [if_neg hheader, sectionAt_agree htake (by omega), horder, Outcome.okOr_some, Outcome.ok_bind, hblock,
      if_neg (by omega), if_pos hn]
    exact ⟨_, rfl, .inr ⟨_, _, rfl⟩⟩

theorem pcapngBlock_walk : Walk PcapngState.offset pcapngBlock isizeMax BlockCut where
  forward b s t _ _ h := by
    obtain ⟨hforward, hle⟩ := pcapngBlock_forward h
    exact ⟨by omega, hle⟩
  agree b c s t hb hc hs h htake := pcapngBlock_agree hb hc hs h htake
  short b s t n hb h hs hn ht := pcapngBlock_short hb h hs hn ht

theorem interfaceDescription_eq {order : ByteOrder} {body : List UInt8} (offset : Nat) (linkTypes : List UInt16)
    (hbody : body.length ≤ isizeMax) : interfaceDescription order offset body linkTypes =
      if body.length < 8 then .err (.truncatedInterfaceDescription offset)
      else .ok (linkTypes ++ [shortAt order body 0]) := by
  rw [interfaceDescription]
  split
  next => rfl
  next => rw [readU16_ok order hbody (by omega), Outcome.ok_bind]

def interfaceOf (order : ByteOrder) (body : List UInt8) : Nat := (fieldAt order body 0).toNat

def packetLen (order : ByteOrder) (body : List UInt8) : Nat := (fieldAt order body 12).toNat

theorem enhancedPacket_eq {order : ByteOrder} {body : List UInt8} (offset : Nat) (linkTypes : List UInt16)
    (payloads : List (List UInt8)) (hbody : body.length ≤ isizeMax) :
    enhancedPacket order offset body linkTypes payloads =
      if body.length < 20 then .err (.truncatedEnhancedPacket offset)
      else Outcome.okOr linkTypes[interfaceOf order body]? (.unknownInterface offset (interfaceOf order body)) >>=
        fun linkType =>
          if body.length < 20 + packetLen order body then .err (.packetPastBody offset)
          else .ok (payloads ++ (payloadOf linkType (stretch body 20 (packetLen order body))).toList) := by
  have hfield : packetLen order body < 2 ^ 32 := UInt32.toNat_lt _
  rw [enhancedPacket]
  by_cases hshort : body.length < 20
  · rw [if_pos hshort, if_pos hshort]
  rw [if_neg hshort, if_neg hshort, readU32_ok order hbody (by omega), Outcome.ok_bind, ← interfaceOf]
  cases linkTypes[interfaceOf order body]? with
  | none => rfl
  | some linkType =>
      rw [Outcome.okOr_some, Outcome.ok_bind, Outcome.ok_bind, readU32_ok order hbody (by omega), Outcome.ok_bind,
        ← packetLen, checkedAddUsize_some (by unfold usizeLimit; omega), Outcome.okOr_some, Outcome.ok_bind]
      by_cases hpast : body.length < 20 + packetLen order body
      · rw [if_pos hpast, if_pos hpast]
      · rw [if_neg hpast, if_neg hpast, sliceRange_stretch (by omega), Outcome.ok_bind,
          collect_eq _ _ (stretch_le hbody)]

/-- The record or the block that an error is about. -/
def failedAt : CaptureError → Option Nat
  | .truncatedPacketHeader offset | .packetPastInput offset _ _ | .truncatedBlockHeader offset
  | .dataBeforeSection offset | .invalidBlockLength _ offset | .blockPastInput offset _ _
  | .trailerMismatch offset _ _ | .truncatedInterfaceDescription offset | .truncatedEnhancedPacket offset
  | .unknownInterface offset _ | .packetPastBody offset => some offset
  | .unsupportedMagic | .truncatedU16 _ | .truncatedU32 _ | .truncatedGlobalHeader | .unsupportedPcapMagic
  | .unsupportedLinkType _ | .packetLengthOverflow | .blockLengthOverflow | .capturedLengthOverflow => none

theorem addBlock_within {order : ByteOrder} {body : List UInt8} (offset : Nat) (kind : UInt32)
    (current : PcapngSection) (payloads : List (List UInt8)) (hbody : body.length ≤ isizeMax) :
    Outcome.Within (fun e => failedAt e = some offset) (addBlock order offset kind body current payloads) := by
  rw [addBlock, interfaceDescription_eq offset _ hbody, enhancedPacket_eq offset _ _ hbody]
  refine Outcome.within_ite.mpr ⟨fun _ => Outcome.within_map _ ?_, fun _ => Outcome.within_ite.mpr
    ⟨fun _ => Outcome.within_map _ ?_, fun _ => Outcome.within_ok _⟩⟩
  · simp only [Outcome.within_ite, Outcome.within_err, Outcome.within_ok, implies_true, and_true]
    exact fun _ => rfl
  · refine Outcome.within_ite.mpr ⟨fun _ => (Outcome.within_err _).mpr rfl, fun _ => ?_⟩
    refine Outcome.within_bind (Outcome.within_okOr.mpr fun _ => rfl) fun linkType => ?_
    simp only [Outcome.within_ite, Outcome.within_err, Outcome.within_ok, implies_true, and_true]
    exact fun _ => rfl

theorem pcapngBlock_within (hb : b.length ≤ isizeMax) (hs : s.offset < b.length) :
    Outcome.Within (fun e => failedAt e = some s.offset) (pcapngBlock b s) := by
  rw [pcapngBlock_eq hb hs]
  refine Outcome.within_ite.mpr ⟨fun _ => (Outcome.within_err _).mpr rfl, fun _ => ?_⟩
  refine Outcome.within_bind (Outcome.within_okOr.mpr fun _ => rfl) fun order => ?_
  simp only [Outcome.within_ite, Outcome.within_err, failedAt, implies_true, true_and]
  exact fun _ _ _ => Outcome.within_map _ (addBlock_within _ _ _ _ (stretch_le hb))

end Pcapng

end Difi.CaptureWalk
