import Difi.CaptureReading

namespace Difi.CaptureJoin

open Machine Capture Encapsulation CaptureWalk CaptureReading

theorem ipv4_piece {packet payload : List UInt8} (h : Ipv4Packet packet payload) : Pieces [payload] packet := by
  cases h with
  | @mk header udpHeader payload slack trailer =>
      exact Pieces.skip (.piece (.done (slack ++ trailer))) header

theorem payload_piece {linkType : UInt16} {packet payload : List UInt8}
    (h : Encapsulated linkType packet payload) :
    Pieces [payload] packet := by
  cases h with
  | ethernet h =>
      cases h with
      | mk _ _ hpacket => exact (((ipv4_piece hpacket).skip _).skip _).skip _
  | ipv4 h => exact ipv4_piece h
  | linuxCooked h =>
      cases h with
      | mk _ hpacket => exact ((ipv4_piece hpacket).skip _).skip _
  | bare =>
      have h : Pieces [packet] ([] ++ (packet ++ [])) := .piece (.done [])
      rwa [List.nil_append, List.append_nil] at h

theorem payloadOf_pieces {linkType : UInt16} {packet : List UInt8} (h : packet.length ≤ isizeMax) :
    Pieces (payloadOf linkType packet).toList packet := by
  cases hfound : payloadOf linkType packet with
  | none => exact .done packet
  | some payload => exact payload_piece ((payloadOf_eq_some h).mp hfound)

theorem stretch_add (b : List UInt8) (k m n : Nat) :
    stretch b k (m + n) = stretch b k m ++ stretch b (k + m) n := by
  rw [stretch, List.take_add, List.drop_drop, stretch, stretch]

theorem pieces_stretch {ps : List (List UInt8)} {b : List UInt8} {k i m n : Nat}
    (h : Pieces ps (stretch b (k + i) m)) (hn : i + m ≤ n) : Pieces ps (stretch b k n) := by
  have hsplit : stretch b k n = stretch b k i ++ (stretch b (k + i) m ++ stretch b (k + i + m) (n - (i + m))) := by
    rw [← stretch_add, ← stretch_add, show i + (m + (n - (i + m))) = n by omega]
  have hextend := h.append (.done (stretch b (k + i + m) (n - (i + m))))
  rw [List.append_nil] at hextend
  rw [hsplit]
  exact hextend.skip _

theorem pcapRecord_pieces (order : ByteOrder) (linkType : UInt16) (b : List UInt8) (s t : PcapState)
    (hb : b.length ≤ isizeMax) (hs : s.offset < b.length) (h : pcapRecord order linkType b s = .ok t) :
    ∃ ps, t.payloads = s.payloads ++ ps ∧ Pieces ps ((b.drop s.offset).take (t.offset - s.offset)) := by
  obtain ⟨-, rfl⟩ := (pcapRecord_eq_ok hb hs).mp h
  exact ⟨_, rfl, pieces_stretch (i := 16) (payloadOf_pieces (stretch_le hb)) (by simp only; omega)⟩

theorem addBlock_pieces {order : ByteOrder} {offset : Nat} {kind : UInt32} {body : List UInt8}
    {current : PcapngSection} {payloads : List (List UInt8)} {added : PcapngSection × List (List UInt8)}
    (hbody : body.length ≤ isizeMax) (h : addBlock order offset kind body current payloads = .ok added) :
    ∃ ps, added.2 = payloads ++ ps ∧ Pieces ps body := by
  rw [addBlock] at h
  split at h
  next =>
      obtain ⟨linkTypes, -, rfl⟩ := Outcome.map_eq_ok.mp h
      exact ⟨[], (List.append_nil _).symm, .done body⟩
  next =>
      split at h
      next =>
          obtain ⟨all, hall, rfl⟩ := Outcome.map_eq_ok.mp h
          obtain ⟨linkType, hfits, -, rfl⟩ := enhancedPacket_found hbody hall
          refine ⟨_, rfl, ?_⟩
          have hwhole : stretch body 0 body.length = body := by rw [stretch, List.drop_zero, List.take_length]
          rw [← hwhole]
          refine pieces_stretch (i := 20) ?_ hfits
          rw [hwhole, Nat.zero_add]
          exact payloadOf_pieces (stretch_le hbody)
      next =>
          cases h
          exact ⟨[], (List.append_nil _).symm, .done body⟩

theorem pcapngBlock_pieces (b : List UInt8) (s t : PcapngState) (hb : b.length ≤ isizeMax)
    (hs : s.offset < b.length) (h : pcapngBlock b s = .ok t) :
    ∃ ps, t.payloads = s.payloads ++ ps ∧ Pieces ps ((b.drop s.offset).take (t.offset - s.offset)) := by
  obtain ⟨order, added, -, hge, -, -, -, hadded, rfl⟩ := (pcapngBlock_eq_ok hb hs).mp h
  obtain ⟨ps, hps, hpieces⟩ := addBlock_pieces (stretch_le hb) hadded
  exact ⟨ps, hps, pieces_stretch (i := 8) hpieces (by simp only; omega)⟩

/-- The payloads of a capture lie in it one after the other, and do not overlap. -/
theorem payloads_are_pieces {b : List UInt8} {payloads : List (List UInt8)} (hb : b.length ≤ isizeMax)
    (h : captureUdpPayloads b = .ok payloads) : Pieces payloads b ∧ payloads.flatten.length ≤ b.length := by
  have hpieces : Pieces payloads b := by
    obtain ⟨kind, hkind⟩ := opens_of_ok hb h
    have haccepts := (captureUdpPayloads_eq_ok hb hkind).mp h
    cases kind with
    | pcapng =>
        obtain ⟨t, hwalk, -, rfl⟩ := haccepts
        obtain ⟨ps, hps, hpieces⟩ := pcapngBlock_walk.pieces pcapngBlock_pieces hb hwalk
        rw [hps]
        exact hpieces
    | pcap order linkType =>
        obtain ⟨t, hwalk, -, rfl⟩ := haccepts
        obtain ⟨ps, hps, hpieces⟩ :=
          (pcapRecord_walk order linkType).pieces (pcapRecord_pieces order linkType) hb hwalk
        rw [hps, ← List.take_append_drop 24 b]
        exact hpieces.skip _
  exact ⟨hpieces, hpieces.length_le⟩

theorem smallCapture_pieces : Pieces [[0xA1, 0xA2], [0xB1]] smallCapture ∧
    [[0xA1, 0xA2], [(0xB1 : UInt8)]].flatten.length ≤ smallCapture.length :=
  payloads_are_pieces (by decide) (by decide +kernel)

section Join

variable {a b : List UInt8}

theorem fieldAt_shift (order : ByteOrder) (a b : List UInt8) (k : Nat) :
    fieldAt order (a ++ b) (a.length + k) = fieldAt order b k := by
  have hshift : ∀ i, (a ++ b).getD (a.length + i) 0 = b.getD i 0 := by
    intro i
    rw [List.getD_append_right _ _ _ _ (Nat.le_add_right _ _), Nat.add_sub_cancel_left]
  simp only [fieldAt, Nat.add_assoc, hshift]

theorem stretch_shift (a b : List UInt8) (k n : Nat) : stretch (a ++ b) (a.length + k) n = stretch b k n := by
  rw [stretch, ← List.drop_drop, List.drop_left, stretch]

theorem orderAt_shift (a b : List UInt8) (k : Nat) : orderAt (a ++ b) (a.length + k) = orderAt b k := by
  rw [orderAt, Nat.add_assoc, stretch_shift, stretch_shift, orderAt]

/-- A state that goes through a list after another one, with payloads found in
the first. -/
def after (a : List UInt8) (found : List (List UInt8)) (s : PcapngState) : PcapngState where
  offset := a.length + s.offset
  current := s.current
  payloads := found ++ s.payloads

theorem addBlock_after {order : ByteOrder} (offset : Nat) {offset' : Nat} {kind : UInt32} {body : List UInt8}
    {current : PcapngSection} {payloads found : List (List UInt8)} (hbody : body.length ≤ isizeMax) :
    (addBlock order offset' kind body current (found ++ payloads)).toOption =
      (addBlock order offset kind body current payloads).toOption.map fun added =>
        (added.1, found ++ added.2) := by
  rw [addBlock, addBlock, interfaceDescription_eq _ _ hbody, interfaceDescription_eq _ _ hbody,
    enhancedPacket_eq _ _ _ hbody, enhancedPacket_eq _ _ _ hbody]
  split
  next => split <;> rfl
  next =>
      split
      next =>
          split
          next => rfl
          next =>
              cases current.linkTypes[interfaceOf order body]? with
              | none => rfl
              | some linkType =>
                  simp only [Outcome.okOr_some, Outcome.ok_bind]
                  split
                  next => rfl
                  next => simp only [Outcome.map_ok, Outcome.toOption, Option.map_some, List.append_assoc]
      next => rfl

theorem sectionAt_after (found : List (List UInt8)) (s : PcapngState) :
    sectionAt (a ++ b) (after a found s) = sectionAt b s := by
  rw [sectionAt, after, orderAt_shift, sectionAt]

theorem pcapngBlock_after (found : List (List UInt8)) {s : PcapngState} (hab : (a ++ b).length ≤ isizeMax)
    (hs : s.offset < b.length) :
    (pcapngBlock (a ++ b) (after a found s)).toOption = (pcapngBlock b s).toOption.map (after a found) := by
  have hlen : (a ++ b).length = a.length + b.length := List.length_append
  have hoffset : (after a found s).offset = a.length + s.offset := rfl
  rw [pcapngBlock_eq hab (by omega), pcapngBlock_eq (by omega) hs, sectionAt_after found s, hoffset, hlen]
  by_cases hheader : b.length < s.offset + 12
  · rw [if_pos (by omega), if_pos hheader]
    rfl
  rw [if_neg (by omega), if_neg hheader]
  cases (sectionAt b s).byteOrder with
  | none => rfl
  | some order =>
      have hblock : blockLen order (a ++ b) (a.length + s.offset) = blockLen order b s.offset := by
        rw [blockLen, Nat.add_assoc, fieldAt_shift, blockLen]
      rw [Outcome.okOr_some, Outcome.okOr_some, Outcome.ok_bind, Outcome.ok_bind, hblock]
      by_cases hshort : blockLen order b s.offset < 12 ∨ blockLen order b s.offset % 4 ≠ 0
      · rw [if_pos hshort, if_pos hshort]
        rfl
      rw [if_neg hshort, if_neg hshort]
      by_cases hpast : b.length < s.offset + blockLen order b s.offset
      · rw [if_pos (by omega), if_pos hpast]
        rfl
      have htrailer : fieldAt order (a ++ b) (a.length + s.offset + blockLen order b s.offset - 4) =
          fieldAt order b (s.offset + blockLen order b s.offset - 4) := by
        rw [← fieldAt_shift order a b]
        congr 1
        omega
      have hpayloads : (after a found s).payloads = found ++ s.payloads := rfl
      rw [if_neg (by omega), if_neg hpast, htrailer]
      split
      next => rfl
      next =>
          rw [fieldAt_shift, Nat.add_assoc a.length s.offset 8, stretch_shift, hpayloads, Outcome.toOption_map,
            Outcome.toOption_map, addBlock_after s.offset (stretch_le (by omega)), Option.map_map, Option.map_map]
          congr 1
          funext added
          simp only [Function.comp_apply, after, Nat.add_assoc]

theorem pcapngBlocks_after (found : List (List UInt8)) (s : PcapngState) (hab : (a ++ b).length ≤ isizeMax) :
    (pcapngBlocks (a ++ b) (after a found s)).toOption = (pcapngBlocks b s).toOption.map (after a found) := by
  refine whileLoop_image (after a found) (fun s => ?_) (fun s hs => ?_) s
  · rw [unread, unread, after, List.length_append]
    exact decide_eq_decide.mpr (show a.length + s.offset < a.length + b.length ↔ s.offset < b.length by omega)
  · exact pcapngBlock_after found hab (unread_eq_true.mp hs)

/-- The payloads of a capture that is read on in a section. -/
def readIn (current : PcapngSection) (b : List UInt8) : CaptureResult (List (List UInt8)) :=
  (pcapngBlocks b ⟨0, current, []⟩).map PcapngState.payloads

theorem pcapngUdpPayloads_readIn (b : List UInt8) : pcapngUdpPayloads b = readIn ⟨none, []⟩ b := by
  change (pcapngBlocks b pcapngStart >>= fun s => Outcome.ok s.payloads) =
    (pcapngBlocks b pcapngStart).map PcapngState.payloads
  cases pcapngBlocks b pcapngStart <;> rfl

theorem opens_of_order {order : ByteOrder} (h : orderAt b 0 = some order) : Opens b .pcapng ∧ 0 < b.length := by
  rw [orderAt] at h
  split at h
  next hmagic =>
      have hb := List.take_append_drop 4 b
      rw [stretch, List.drop_zero] at hmagic
      rw [hmagic] at hb
      refine ⟨⟨b.drop 4, hb⟩, ?_⟩
      rw [← hb]
      exact Nat.succ_pos _
  next => cases h

theorem readIn_section {order : ByteOrder} (current : PcapngSection) (hb : b.length ≤ isizeMax)
    (h : orderAt b 0 = some order) : readIn current b = captureUdpPayloads b := by
  obtain ⟨hopens, hpos⟩ := opens_of_order h
  have hsection (current : PcapngSection) : sectionAt b ⟨0, current, []⟩ = ⟨some order, []⟩ := by rw [sectionAt, h]
  have hfirst : pcapngBlock b ⟨0, current, []⟩ = pcapngBlock b ⟨0, ⟨none, []⟩, []⟩ := by
    rw [pcapngBlock_eq hb hpos, pcapngBlock_eq hb hpos, hsection, hsection]
  have hunread (current : PcapngSection) : unread PcapngState.offset b ⟨0, current, []⟩ = true :=
    unread_eq_true.mpr hpos
  rw [captureUdpPayloads_pcapng hopens, pcapngUdpPayloads_readIn, readIn, readIn, pcapngBlocks,
    whileLoop_round (hunread _), whileLoop_round (hunread _), hfirst]

/-- A capture after another one is read on in the last section of that one. When it
opens with a section of its own, it is read there as it is read by itself. -/
theorem captures_join {found : List (List UInt8)} (hlen : a.length ≤ isizeMax) (hopens : Opens a .pcapng)
    (ha : captureUdpPayloads a = .ok found) :
    ∃ last, pcapngBlocks a pcapngStart = .ok ⟨a.length, last, found⟩ ∧
      ∀ b, (a ++ b).length ≤ isizeMax →
        (∀ all, captureUdpPayloads (a ++ b) = .ok all ↔ ∃ own, readIn last b = .ok own ∧ all = found ++ own) ∧
        ∀ order, orderAt b 0 = some order → ∀ all, captureUdpPayloads (a ++ b) = .ok all ↔
          ∃ own, captureUdpPayloads b = .ok own ∧ all = found ++ own := by
  rw [captureUdpPayloads_pcapng hopens, pcapngUdpPayloads_eq_ok] at ha
  obtain ⟨⟨offset, last, payloads⟩, hwalk, hend, rfl⟩ := ha
  have hbound := pcapngBlock_walk.bound hlen hwalk (Nat.zero_le _)
  obtain rfl : offset = a.length := Nat.le_antisymm hbound hend
  refine ⟨last, whileLoop_eq_ok.mpr ⟨hwalk, unread_eq_false.mpr hend⟩, fun b hab => ?_⟩
  have hwhole : Walked PcapngState.offset pcapngBlock (a ++ b) pcapngStart ⟨a.length, last, payloads⟩ := by
    refine pcapngBlock_walk.agreeing hlen hab hwalk hbound ?_
    rw [List.take_left, List.take_length]
  have hjoin (all : List (List UInt8)) : captureUdpPayloads (a ++ b) = .ok all ↔
      ∃ own, readIn last b = .ok own ∧ all = payloads ++ own := by
    have hresume : pcapngBlocks (a ++ b) pcapngStart = pcapngBlocks (a ++ b) ⟨a.length, last, payloads⟩ :=
      hwhole.resume
    have hafter := pcapngBlocks_after payloads ⟨0, last, []⟩ hab
    rw [after, Nat.add_zero, List.append_nil, ← hresume] at hafter
    rw [captureUdpPayloads_pcapng (hopens.trans (List.prefix_append a b)), pcapngUdpPayloads_readIn]
    change (pcapngBlocks (a ++ b) pcapngStart).map PcapngState.payloads = _ ↔ _
    simp only [readIn, ← Outcome.toOption_eq_some, Outcome.toOption_map, hafter, Option.map_map,
      Option.map_eq_some_iff, Function.comp_apply]
    constructor
    · rintro ⟨u, hu, rfl⟩
      exact ⟨u.payloads, ⟨u, hu, rfl⟩, rfl⟩
    · rintro ⟨own, ⟨u, hu, rfl⟩, rfl⟩
      exact ⟨u, hu, rfl⟩
  refine ⟨hjoin, fun order horder all => ?_⟩
  rw [hjoin, readIn_section last (by rw [List.length_append] at hab; omega) horder]

def smallSection (payload : UInt8) : List UInt8 :=
  [0x0A, 0x0D, 0x0D, 0x0A, 28, 0, 0, 0, 0x4D, 0x3C, 0x2B, 0x1A, 1, 0, 0, 0, 0xFF, 0xFF, 0xFF, 0xFF,
    0xFF, 0xFF, 0xFF, 0xFF, 28, 0, 0, 0, 1, 0, 0, 0, 20, 0, 0, 0, 147, 0, 0, 0, 0, 0, 0, 0, 20, 0, 0, 0,
    6, 0, 0, 0, 36, 0, 0, 0, 0, 0, 0, 0, 0, 0, 0, 0, 0, 0, 0, 0, 1, 0, 0, 0, 1, 0, 0, 0, payload, 0, 0, 0,
    36, 0, 0, 0]

theorem smallSections_join : captureUdpPayloads (smallSection 7 ++ smallSection 8) = .ok [[7], [8]] := by
  have hopens : Opens (smallSection 7) .pcapng := List.isPrefixOf_iff_prefix.mp (by decide)
  have hfirst : captureUdpPayloads (smallSection 7) = .ok [[7]] := by decide +kernel
  have hsecond : captureUdpPayloads (smallSection 8) = .ok [[8]] := by decide +kernel
  have horder : orderAt (smallSection 8) 0 = some .little := by decide +kernel
  have hlen : (smallSection 7 ++ smallSection 8).length ≤ isizeMax := by decide +kernel
  obtain ⟨last, -, hjoin⟩ := captures_join (by decide +kernel) hopens hfirst
  exact ((hjoin _ hlen).2 _ horder _).mpr ⟨[[8]], hsecond, rfl⟩

end Join

end Difi.CaptureJoin
