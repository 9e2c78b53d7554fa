import Difi.Capture

namespace Difi.Encapsulation

open Machine Capture

theorem version_iff (b : UInt8) : b >>> 4 ≠ 4 ↔ b.toNat / 16 ≠ 4 := by
  rw [ne_eq, ← UInt8.toNat_inj, UInt8.toNat_shiftRight]
  simp [Nat.shiftRight_eq_div_pow]

theorem headerWords (b : UInt8) : (b &&& 0x0F).toNat = b.toNat % 16 := by
  rw [UInt8.toNat_and]
  exact and_mask (m := 15) (by decide)

theorem fragment_iff (w : UInt16) : w &&& 0x3FFF ≠ 0 ↔ w.toNat % 2 ^ 14 ≠ 0 := by
  have hmask : (0x3FFF : UInt16).toNat = 2 ^ 14 - 1 := rfl
  rw [ne_eq, ← UInt16.toNat_inj, UInt16.toNat_and, hmask, Nat.and_two_pow_sub_one_eq_mod, UInt16.toNat_zero]

structure Carries (packet : List UInt8) (headerLen totalLen udpLen : Nat) : Prop where
  least : 20 ≤ packet.length
  version : (packet.getD 0 0).toNat / 16 = 4
  header : headerLen = (packet.getD 0 0).toNat % 16 * 4
  header_ge : 20 ≤ headerLen
  total : totalLen = halfAt packet 2
  total_ge : headerLen + 8 ≤ totalLen
  total_le : totalLen ≤ packet.length
  protocol : packet.getD 9 0 = 17
  fragment : halfAt packet 6 % 2 ^ 14 = 0
  udp : udpLen = halfAt packet (headerLen + 4)
  udp_ge : 8 ≤ udpLen
  udp_le : headerLen + udpLen ≤ totalLen

theorem ipv4UdpPayload_cases (packet : List UInt8) :
    (∃ headerLen totalLen udpLen, Carries packet headerLen totalLen udpLen ∧
      ipv4UdpPayload packet = .ok ((packet.drop (headerLen + 8)).take (udpLen - 8))) ∨
    ((∀ headerLen totalLen udpLen, ¬Carries packet headerLen totalLen udpLen) ∧
      ipv4UdpPayload packet = .err ()) := by
  rw [ipv4UdpPayload]
  by_cases hleast : packet.length < 20
  · rw [if_pos hleast]
    exact .inr ⟨fun _ _ _ h => absurd h.least (by omega), rfl⟩
  rw [if_neg hleast, indexAt_getD 0 (by omega), Outcome.ok_bind]
  by_cases hversion : packet.getD 0 0 >>> 4 ≠ 4
  · rw [if_pos hversion]
    exact .inr ⟨fun _ _ _ h => (version_iff _).mp hversion h.version, rfl⟩
  have hnibble : (packet.getD 0 0 &&& 0x0F).toNat = (packet.getD 0 0).toNat % 16 := headerWords _
  have hfour : (packet.getD 0 0).toNat % 16 * 4 ≤ 60 := by omega
  rw [if_neg hversion, hnibble, mulUsize_ok (by unfold usizeLimit; omega), Outcome.ok_bind]
  generalize hheader : (packet.getD 0 0).toNat % 16 * 4 = headerLen at hfour ⊢
  by_cases hlen : headerLen < 20 ∨ packet.length < headerLen
  · rw [if_pos hlen]
    refine .inr ⟨fun n t u h => ?_, rfl⟩
    obtain rfl : n = headerLen := h.header.trans hheader
    have h1 := h.header_ge
    have h2 := h.total_ge
    have h3 := h.total_le
    omega
  rw [if_neg hlen, indexAt_getD 0 (by omega), Outcome.ok_bind, indexAt_getD 0 (by omega), Outcome.ok_bind]
  simp only [fromBeBytes16_getD packet 2]
  rw [addUsize_ok (by unfold usizeLimit; omega), Outcome.ok_bind]
  by_cases htotal : halfAt packet 2 < headerLen + 8 ∨ packet.length < halfAt packet 2
  · rw [if_pos htotal]
    refine .inr ⟨fun n t u h => ?_, rfl⟩
    obtain rfl : n = headerLen := h.header.trans hheader
    obtain rfl := h.total
    have h2 := h.total_ge
    have h3 := h.total_le
    omega
  rw [if_neg htotal, indexAt_getD 0 (by omega), Outcome.ok_bind]
  by_cases hprotocol : packet.getD 9 0 ≠ 17
  · rw [if_pos hprotocol]
    exact .inr ⟨fun _ _ _ h => hprotocol h.protocol, rfl⟩
  rw [if_neg hprotocol, indexAt_getD 0 (by omega), Outcome.ok_bind, indexAt_getD 0 (by omega), Outcome.ok_bind]
  by_cases hfragment : fromBeBytes16 (packet.getD 6 0) (packet.getD 7 0) &&& 0x3FFF ≠ 0
  · rw [if_pos hfragment]
    refine .inr ⟨fun _ _ _ h => ?_, rfl⟩
    rw [fragment_iff, fromBeBytes16_getD packet 6] at hfragment
    exact hfragment h.fragment
  rw [if_neg hfragment, sliceRange_ok (by omega) (by omega), Outcome.ok_bind]
  have hudpLen : ((packet.drop headerLen).take (halfAt packet 2 - headerLen)).length =
      halfAt packet 2 - headerLen := by
    rw [List.length_take, List.length_drop]
    omega
  rw [indexAt_getD 0 (by omega), Outcome.ok_bind, indexAt_getD 0 (by omega), Outcome.ok_bind]
  simp only [fromBeBytes16_getD _ 4]
  rw [halfAt_take (by omega), halfAt_drop, hudpLen]
  by_cases hudp : halfAt packet (headerLen + 4) < 8 ∨ halfAt packet (headerLen + 4) > halfAt packet 2 - headerLen
  · rw [if_pos hudp]
    refine .inr ⟨fun n t u h => ?_, rfl⟩
    obtain rfl : n = headerLen := h.header.trans hheader
    obtain rfl := h.total
    obtain rfl := h.udp
    have h1 := h.udp_ge
    have h2 := h.udp_le
    omega
  rw [if_neg hudp, sliceRange_ok (by omega) (by omega)]
  refine .inl ⟨headerLen, halfAt packet 2, halfAt packet (headerLen + 4), ?_, ?_⟩
  · rw [fragment_iff, fromBeBytes16_getD packet 6] at hfragment
    rw [version_iff] at hversion
    exact ⟨by omega, by omega, hheader.symm, by omega, rfl, by omega, by omega, by simpa using hprotocol,
      by omega, rfl, by omega, by omega⟩
  · rw [List.drop_take, List.drop_drop, List.take_take]
    congr 2
    omega

/-- A packet that carries one whole datagram: its header, the header of the
datagram, the payload, the rest of the packet, and what comes after the packet. -/
inductive Ipv4Packet : List UInt8 → List UInt8 → Prop
  | mk {header udpHeader payload slack trailer : List UInt8} :
      (header.getD 0 0).toNat / 16 = 4 → header.length = (header.getD 0 0).toNat % 16 * 4 → 20 ≤ header.length →
      halfAt header 2 = header.length + 8 + payload.length + slack.length → halfAt header 6 % 2 ^ 14 = 0 →
      header.getD 9 0 = 17 → udpHeader.length = 8 → halfAt udpHeader 4 = 8 + payload.length →
      Ipv4Packet (header ++ (udpHeader ++ (payload ++ (slack ++ trailer)))) payload

theorem Carries.split {packet : List UInt8} {h t u : Nat} (hc : Carries packet h t u) : packet =
    packet.take h ++ ((packet.drop h).take 8 ++ ((packet.drop (h + 8)).take (u - 8) ++
      ((packet.drop (h + u)).take (t - (h + u)) ++ packet.drop t))) := by
  have hu := hc.udp_ge
  have h1 := take_drop_append packet hc.udp_le
  have h2 := take_drop_append packet (show h + 8 ≤ h + u by omega)
  have h3 := take_drop_append packet (show h ≤ h + 8 by omega)
  rw [Nat.add_sub_add_left] at h2
  rw [Nat.add_sub_cancel_left] at h3
  rw [h1, h2, h3, List.take_append_drop]

theorem Ipv4Packet.carries {packet payload : List UInt8} (h : Ipv4Packet packet payload) :
    ∃ headerLen totalLen udpLen, Carries packet headerLen totalLen udpLen ∧
      (packet.drop (headerLen + 8)).take (udpLen - 8) = payload := by
  cases h with
  | @mk header udpHeader payload slack trailer hversion hheader hge htotal hfragment hprotocol hlen hudp =>
      have h0 := getD_append_left (udpHeader ++ (payload ++ (slack ++ trailer)))
        (show 0 < header.length by omega)
      have h9 := getD_append_left (udpHeader ++ (payload ++ (slack ++ trailer)))
        (show 9 < header.length by omega)
      have h2 := halfAt_append_left (udpHeader ++ (payload ++ (slack ++ trailer)))
        (show 2 + 2 ≤ header.length by omega)
      have h6 := halfAt_append_left (udpHeader ++ (payload ++ (slack ++ trailer)))
        (show 6 + 2 ≤ header.length by omega)
      have h4 := halfAt_append_right header (udpHeader ++ (payload ++ (slack ++ trailer))) 4
      rw [halfAt_append_left (payload ++ (slack ++ trailer)) (show 4 + 2 ≤ udpHeader.length by omega)] at h4
      refine ⟨header.length, halfAt header 2, halfAt udpHeader 4, ⟨?_, ?_, ?_, hge, h2.symm, ?_, ?_, ?_, ?_,
        h4.symm, ?_, ?_⟩, ?_⟩
      · simp only [List.length_append]
        omega
      · rw [h0, hversion]
      · rw [h0, hheader]
      · omega
      · simp only [List.length_append]
        omega
      · rw [h9, hprotocol]
      · rw [h6, hfragment]
      · omega
      · omega
      · rw [← List.append_assoc, List.drop_left' (by rw [List.length_append, hlen]),
          List.take_left' (by omega)]

theorem Carries.packet {packet : List UInt8} {h t u : Nat} (hc : Carries packet h t u) :
    Ipv4Packet packet ((packet.drop (h + 8)).take (u - 8)) := by
  have hge := hc.header_ge
  have htotal := hc.total_ge
  have htle := hc.total_le
  have huge := hc.udp_ge
  have hule := hc.udp_le
  have hheader : (packet.take h).length = h := List.length_take_of_le (by omega)
  have hudpHeader : ((packet.drop h).take 8).length = 8 := by
    rw [List.length_take, List.length_drop]
    omega
  have hpayload : ((packet.drop (h + 8)).take (u - 8)).length = u - 8 := by
    rw [List.length_take, List.length_drop]
    omega
  have hslack : ((packet.drop (h + u)).take (t - (h + u))).length = t - (h + u) := by
    rw [List.length_take, List.length_drop]
    omega
  have hfirst : ∀ k < 20, (packet.take h).getD k 0 = packet.getD k 0 := by
    intro k hk
    rw [List.getD_eq_getElem?_getD, List.getD_eq_getElem?_getD, List.getElem?_take_of_lt (by omega)]
  have hparts := @Ipv4Packet.mk (packet.take h) ((packet.drop h).take 8) ((packet.drop (h + 8)).take (u - 8))
    ((packet.drop (h + u)).take (t - (h + u))) (packet.drop t)
  rw [hheader, hudpHeader, hpayload, hslack, hfirst 0 (by omega), hfirst 9 (by omega), halfAt_take (by omega),
    halfAt_take (by omega), halfAt_take (by omega), halfAt_drop, ← hc.split] at hparts
  have hfields := hc.header
  have hlen := hc.total
  have hudp := hc.udp
  exact hparts hc.version hfields hge (by omega) hc.fragment hc.protocol rfl (by omega)

theorem ipv4UdpPayload_eq_ok {packet payload : List UInt8} :
    ipv4UdpPayload packet = .ok payload ↔ Ipv4Packet packet payload := by
  rcases ipv4UdpPayload_cases packet with ⟨h, t, u, hc, hok⟩ | ⟨hnone, herr⟩
  · rw [hok, Outcome.ok.injEq]
    constructor
    · rintro rfl
      exact hc.packet
    · intro hpacket
      obtain ⟨h', t', u', hc', rfl⟩ := hpacket.carries
      obtain rfl : h = h' := hc.header.trans hc'.header.symm
      obtain rfl : u = u' := hc.udp.trans hc'.udp.symm
      rfl
  · rw [herr]
    simp only [reduceCtorEq, false_iff]
    intro hpacket
    obtain ⟨h', t', u', hc', -⟩ := hpacket.carries
    exact hnone h' t' u' hc'

theorem ipv4UdpPayload_safe (packet : List UInt8) : Outcome.Safe (ipv4UdpPayload packet) := by
  rcases ipv4UdpPayload_cases packet with ⟨h, t, u, -, hok⟩ | ⟨-, herr⟩
  · exact Outcome.safe_of_eq_ok hok
  · rw [herr]
    exact Outcome.safe_err ()

structure IsTag (tag : List UInt8) : Prop where
  length : tag.length = 4
  protocol : halfAt tag 0 ∈ [0x8100, 0x88A8, 0x9100]

/-- A frame that carries a datagram: addresses, any number of tags, the type of
the packet, and the packet. -/
inductive EthernetFrame : List UInt8 → List UInt8 → Prop
  | mk {addresses packet payload : List UInt8} {tags : List (List UInt8)} :
      addresses.length = 12 → (∀ tag ∈ tags, IsTag tag) → Ipv4Packet packet payload →
      EthernetFrame (addresses ++ (tags.flatten ++ ([0x08, 0x00] ++ packet))) payload

inductive LinuxCookedFrame : List UInt8 → List UInt8 → Prop
  | mk {header packet payload : List UInt8} :
      header.length = 14 → Ipv4Packet packet payload →
      LinuxCookedFrame (header ++ ([0x08, 0x00] ++ packet)) payload

inductive Encapsulated : UInt16 → List UInt8 → List UInt8 → Prop
  | ethernet {frame payload : List UInt8} : EthernetFrame frame payload → Encapsulated 1 frame payload
  | ipv4 {packet payload : List UInt8} : Ipv4Packet packet payload → Encapsulated 101 packet payload
  | linuxCooked {frame payload : List UInt8} : LinuxCookedFrame frame payload → Encapsulated 113 frame payload
  | bare {payload : List UInt8} : Encapsulated 147 payload payload

theorem isVlanTag_iff {w : UInt16} : isVlanTag w = true ↔ w.toNat ∈ [0x8100, 0x88A8, 0x9100] := by
  simp only [isVlanTag, decide_eq_true_eq, ← UInt16.toNat_inj, List.mem_cons, List.not_mem_nil, or_false]
  rfl

section Tags

variable {frame : List UInt8}

/-- The loop over the tags stands after the type of what comes next. -/
structure AtType (frame : List UInt8) (s : EthernetState) : Prop where
  offset : 2 ≤ s.payloadOffset
  bound : s.payloadOffset ≤ frame.length
  ethertype : s.ethertype.toNat = halfAt frame (s.payloadOffset - 2)

theorem skipVlanTag_short {s : EthernetState} (hframe : frame.length ≤ isizeMax)
    (hbound : s.payloadOffset ≤ frame.length) (h : frame.length < s.payloadOffset + 4) :
    skipVlanTag frame s = .err () := by
  rw [skipVlanTag, addUsize_ok (by unfold isizeMax at hframe; unfold usizeLimit; omega), Outcome.ok_bind, if_pos h]

theorem skipVlanTag_long {s : EthernetState} (hframe : frame.length ≤ isizeMax)
    (h : s.payloadOffset + 4 ≤ frame.length) : skipVlanTag frame s = .ok {
      ethertype := fromBeBytes16 (frame.getD (s.payloadOffset + 2) 0) (frame.getD (s.payloadOffset + 3) 0)
      payloadOffset := s.payloadOffset + 4 } := by
  have hlimit : s.payloadOffset + 4 < usizeLimit := by
    unfold isizeMax at hframe
    unfold usizeLimit
    omega
  rw [skipVlanTag, addUsize_ok hlimit, Outcome.ok_bind, if_neg (by omega), addUsize_ok (by omega), Outcome.ok_bind,
    indexAt_getD 0 (by omega), Outcome.ok_bind, addUsize_ok (by omega), Outcome.ok_bind, indexAt_getD 0 (by omega),
    Outcome.ok_bind, Outcome.ok_bind]

theorem skipVlanTag_atType {s t : EthernetState} (hframe : frame.length ≤ isizeMax) (hs : AtType frame s)
    (h : skipVlanTag frame s = .ok t) : AtType frame t ∧ t.payloadOffset = s.payloadOffset + 4 ∧
      frame.drop (s.payloadOffset - 2) = (frame.drop (s.payloadOffset - 2)).take 4 ++
        frame.drop (t.payloadOffset - 2) := by
  obtain ⟨hnext, hle⟩ := skipVlanTag_eq_ok h
  have hoffset := hs.offset
  rw [skipVlanTag_long hframe hle] at h
  cases h
  refine ⟨⟨by simp only; omega, hle, ?_⟩, rfl, ?_⟩
  · simp only
    rw [fromBeBytes16_getD frame (s.payloadOffset + 2)]
    congr 1
  · have hsplit := take_drop_append frame (show s.payloadOffset - 2 ≤ s.payloadOffset + 4 - 2 by omega)
    rw [show s.payloadOffset + 4 - 2 - (s.payloadOffset - 2) = 4 by omega] at hsplit
    exact hsplit.symm

theorem tags_of_heads {s t : EthernetState} (hframe : frame.length ≤ isizeMax)
    (h : Heads (fun s => isVlanTag s.ethertype) (skipVlanTag frame) s t) (hs : AtType frame s) :
    AtType frame t ∧ ∃ tags : List (List UInt8), (∀ tag ∈ tags, IsTag tag) ∧
      frame.drop (s.payloadOffset - 2) = tags.flatten ++ frame.drop (t.payloadOffset - 2) := by
  induction h with
  | refl s => exact ⟨hs, [], by simp, rfl⟩
  | @round s u t hcond hbody _ ih =>
      obtain ⟨hu, hnext, hsplit⟩ := skipVlanTag_atType hframe hs hbody
      obtain ⟨ht, tags, htags, hrest⟩ := ih hu
      have hoffset := hs.offset
      have hle := hu.bound
      refine ⟨ht, (frame.drop (s.payloadOffset - 2)).take 4 :: tags, ?_, ?_⟩
      · intro tag htag
        rcases List.mem_cons.mp htag with rfl | htag
        · refine ⟨?_, ?_⟩
          · rw [List.length_take, List.length_drop]
            omega
          · rw [halfAt_take (by omega), halfAt_drop, Nat.add_zero, ← hs.ethertype]
            exact isVlanTag_iff.mp hcond
        · exact htags tag htag
      · rw [List.flatten_cons, List.append_assoc, ← hrest]
        exact hsplit

theorem heads_of_tags {s : EthernetState} {tags : List (List UInt8)} {rest : List UInt8}
    (hframe : frame.length ≤ isizeMax) (hs : AtType frame s) (htags : ∀ tag ∈ tags, IsTag tag)
    (hsplit : frame.drop (s.payloadOffset - 2) = tags.flatten ++ ([0x08, 0x00] ++ rest)) :
    ∃ t, Heads (fun s => isVlanTag s.ethertype) (skipVlanTag frame) s t ∧ AtType frame t ∧
      frame.drop (t.payloadOffset - 2) = [0x08, 0x00] ++ rest := by
  induction tags generalizing s with
  | nil => exact ⟨s, .refl s, hs, hsplit⟩
  | cons tag tags ih =>
      have htag := htags tag (List.mem_cons_self ..)
      have hoffset := hs.offset
      rw [List.flatten_cons, List.append_assoc] at hsplit
      have hlen := congrArg List.length hsplit
      simp only [List.length_drop, List.length_append, htag.length, List.length_cons] at hlen
      have hskip := skipVlanTag_long (s := s) hframe (by omega)
      obtain ⟨hu, -, htake⟩ := skipVlanTag_atType hframe hs hskip
      have hfirst : (frame.drop (s.payloadOffset - 2)).take 4 = tag := by
        rw [hsplit, List.take_left' htag.length]
      have hcond : isVlanTag s.ethertype = true := by
        rw [isVlanTag_iff, hs.ethertype, ← Nat.add_zero (s.payloadOffset - 2), ← halfAt_drop,
          ← halfAt_take (show 0 + 2 ≤ 4 by omega), hfirst]
        exact htag.protocol
      rw [hfirst, hsplit] at htake
      obtain ⟨t, hheads, ht, hrest⟩ := ih hu (fun x hx => htags x (List.mem_cons_of_mem _ hx))
        (List.append_cancel_left htake).symm
      exact ⟨t, .round hcond hskip hheads, ht, hrest⟩

theorem drop_eq_ipv4Type {n : Nat} (hn : n + 2 ≤ frame.length) (h : halfAt frame n = 0x0800) :
    frame.drop n = [0x08, 0x00] ++ frame.drop (n + 2) := by
  have h0 := (frame.getD n 0).toNat_lt
  have h1 := (frame.getD (n + 1) 0).toNat_lt
  rw [halfAt] at h
  have hhigh : frame.getD n 0 = 0x08 := by
    apply UInt8.toNat_inj.mp
    rw [show (0x08 : UInt8).toNat = 8 from rfl]
    omega
  have hlow : frame.getD (n + 1) 0 = 0x00 := by
    apply UInt8.toNat_inj.mp
    rw [UInt8.toNat_zero]
    omega
  rw [List.getD_eq_getElem frame 0 (by omega)] at hhigh hlow
  rw [List.drop_eq_getElem_cons (by omega), List.drop_eq_getElem_cons (by omega), hhigh, hlow, Nat.add_assoc]
  simp only [List.cons_append, List.nil_append]

theorem halfAt_ipv4Type {n : Nat} {rest : List UInt8} (h : frame.drop n = [0x08, 0x00] ++ rest) :
    halfAt frame n = 0x0800 := by
  rw [← Nat.add_zero n, ← halfAt_drop, h, halfAt_append_left rest (by decide)]
  decide

def firstType (frame : List UInt8) : EthernetState where
  ethertype := fromBeBytes16 (frame.getD 12 0) (frame.getD 13 0)
  payloadOffset := 14

theorem firstType_atType (h : 14 ≤ frame.length) : AtType frame (firstType frame) where
  offset := show 2 ≤ 14 by omega
  bound := h
  ethertype := fromBeBytes16_getD frame 12

theorem ethernetUdpPayload_eq (h : 14 ≤ frame.length) : ethernetUdpPayload frame =
    whileLoop (fun s => isVlanTag s.ethertype) (skipVlanTag frame) (fun s => frame.length - s.payloadOffset)
      (fun _ _ _ h => skipVlanTag_shrinks h) (firstType frame) >>= fun s =>
      if s.ethertype = 0x0800 then sliceFrom frame s.payloadOffset >>= ipv4UdpPayload else .err () := by
  rw [ethernetUdpPayload, if_neg (by omega), indexAt_getD 0 (by omega), Outcome.ok_bind, indexAt_getD 0 (by omega),
    Outcome.ok_bind]
  rfl

theorem ethernetUdpPayload_safe (hframe : frame.length ≤ isizeMax) :
    Outcome.Safe (ethernetUdpPayload frame) := by
  by_cases hshort : frame.length < 14
  · rw [ethernetUdpPayload, if_pos hshort]
    exact Outcome.safe_err ()
  have hfirst := firstType_atType (Nat.le_of_not_lt hshort)
  rw [ethernetUdpPayload_eq (Nat.le_of_not_lt hshort)]
  refine Outcome.Safe.bind (whileLoop_safe (P := AtType frame) ?_ ?_ hfirst) ?_
  · intro s _ hs
    by_cases hlong : frame.length < s.payloadOffset + 4
    · rw [skipVlanTag_short hframe hs.bound hlong]
      exact Outcome.safe_err ()
    · rw [skipVlanTag_long hframe (by omega)]
      exact Outcome.safe_ok _
  · intro s t _ hbody hs
    exact (skipVlanTag_atType hframe hs hbody).1
  · intro t ht
    obtain ⟨htype, -⟩ := tags_of_heads hframe (whileLoop_eq_ok.mp ht).1 hfirst
    rw [sliceFrom_ok htype.bound, Outcome.ok_bind]
    exact Outcome.safe_ite (ipv4UdpPayload_safe _) (Outcome.safe_err ())

theorem ethernetUdpPayload_eq_ok {payload : List UInt8} (hframe : frame.length ≤ isizeMax) :
    ethernetUdpPayload frame = .ok payload ↔ EthernetFrame frame payload := by
  constructor
  · intro h
    by_cases hshort : frame.length < 14
    · rw [ethernetUdpPayload, if_pos hshort] at h
      cases h
    rw [ethernetUdpPayload_eq (Nat.le_of_not_lt hshort), Outcome.bind_eq_ok] at h
    obtain ⟨t, hloop, h⟩ := h
    obtain ⟨htype, tags, htags, hsplit⟩ := tags_of_heads hframe (whileLoop_eq_ok.mp hloop).1
      (firstType_atType (Nat.le_of_not_lt hshort))
    have hoffset := htype.offset
    have hbound := htype.bound
    split at h
    next hethertype =>
        rw [sliceFrom_ok hbound, Outcome.ok_bind, ipv4UdpPayload_eq_ok] at h
        have hhalf : halfAt frame (t.payloadOffset - 2) = 0x0800 := by
          rw [← htype.ethertype, hethertype]
          rfl
        rw [drop_eq_ipv4Type (by omega) hhalf, Nat.sub_add_cancel hoffset] at hsplit
        have hframe := List.take_append_drop 12 frame
        rw [show frame.drop 12 = frame.drop ((firstType frame).payloadOffset - 2) from rfl, hsplit] at hframe
        rw [← hframe]
        exact .mk (List.length_take_of_le (by omega)) htags h
    next => cases h
  · rintro ⟨haddresses, htags, hpacket⟩
    rename_i addresses packet tags
    generalize hwhole : addresses ++ (tags.flatten ++ ([0x08, 0x00] ++ packet)) = frame at hframe
    have hlong : 14 ≤ frame.length := by
      rw [← hwhole]
      simp only [List.length_append, List.length_cons]
      omega
    have hsplit : frame.drop ((firstType frame).payloadOffset - 2) =
        tags.flatten ++ ([0x08, 0x00] ++ packet) := by
      rw [← hwhole]
      exact List.drop_left' haddresses
    obtain ⟨t, hheads, htype, hrest⟩ := heads_of_tags hframe (firstType_atType hlong) htags hsplit
    have hhalf := halfAt_ipv4Type hrest
    rw [← htype.ethertype] at hhalf
    have hethertype : t.ethertype = 0x0800 := UInt16.toNat_inj.mp hhalf
    have hdone : isVlanTag t.ethertype = false := by
      rw [hethertype]
      rfl
    have hoffset := htype.offset
    have hafter : frame.drop t.payloadOffset = packet := by
      rw [show t.payloadOffset = t.payloadOffset - 2 + 2 by omega, ← List.drop_drop, hrest]
      rfl
    rw [ethernetUdpPayload_eq hlong, whileLoop_eq_ok.mpr ⟨hheads, hdone⟩, Outcome.ok_bind, if_pos hethertype,
      sliceFrom_ok htype.bound, Outcome.ok_bind, hafter, ipv4UdpPayload_eq_ok]
    exact hpacket

end Tags

theorem linuxCookedUdpPayload_eq {frame : List UInt8} (h : 16 ≤ frame.length) : linuxCookedUdpPayload frame =
    if halfAt frame 14 = 0x0800 then ipv4UdpPayload (frame.drop 16) else .err () := by
  rw [linuxCookedUdpPayload, if_neg (by omega), indexAt_getD 0 (by omega), Outcome.ok_bind,
    indexAt_getD 0 (by omega), Outcome.ok_bind, sliceFrom_ok h, Outcome.ok_bind]
  simp only [fromBeBytes16_eq_iff frame 14]
  rfl

theorem linuxCookedUdpPayload_safe (frame : List UInt8) : Outcome.Safe (linuxCookedUdpPayload frame) := by
  by_cases hshort : frame.length < 16
  · rw [linuxCookedUdpPayload, if_pos hshort]
    exact Outcome.safe_err ()
  · rw [linuxCookedUdpPayload_eq (Nat.le_of_not_lt hshort)]
    exact Outcome.safe_ite (ipv4UdpPayload_safe _) (Outcome.safe_err ())

theorem linuxCookedUdpPayload_eq_ok {frame payload : List UInt8} :
    linuxCookedUdpPayload frame = .ok payload ↔ LinuxCookedFrame frame payload := by
  constructor
  · intro h
    by_cases hshort : frame.length < 16
    · rw [linuxCookedUdpPayload, if_pos hshort] at h
      cases h
    rw [linuxCookedUdpPayload_eq (Nat.le_of_not_lt hshort)] at h
    split at h
    next hhalf =>
        have hframe := List.take_append_drop 14 frame
        rw [drop_eq_ipv4Type (by omega) hhalf] at hframe
        rw [← hframe]
        exact .mk (List.length_take_of_le (by omega)) (ipv4UdpPayload_eq_ok.mp h)
    next => cases h
  · rintro ⟨hheader, hpacket⟩
    rename_i header packet
    generalize hwhole : header ++ ([0x08, 0x00] ++ packet) = frame
    have hlong : 16 ≤ frame.length := by
      rw [← hwhole]
      simp only [List.length_append, List.length_cons]
      omega
    have hsplit : frame.drop 14 = [0x08, 0x00] ++ packet := by
      rw [← hwhole]
      exact List.drop_left' hheader
    have hafter : frame.drop 16 = packet := by
      rw [show 16 = 14 + 2 from rfl, ← List.drop_drop, hsplit]
      rfl
    rw [linuxCookedUdpPayload_eq hlong, if_pos (halfAt_ipv4Type hsplit), hafter, ipv4UdpPayload_eq_ok]
    exact hpacket

theorem udpPayload_safe (linkType : UInt16) {packet : List UInt8} (hpacket : packet.length ≤ isizeMax) :
    Outcome.Safe (udpPayload linkType packet) := by
  unfold udpPayload
  refine Outcome.safe_ite (ethernetUdpPayload_safe hpacket) (Outcome.safe_ite (ipv4UdpPayload_safe packet)
    (Outcome.safe_ite (linuxCookedUdpPayload_safe packet) (Outcome.safe_ite (Outcome.safe_ok packet) ?_)))
  exact Outcome.safe_err ()

theorem udpPayload_eq_ok (linkType : UInt16) {packet payload : List UInt8} (hpacket : packet.length ≤ isizeMax) :
    udpPayload linkType packet = .ok payload ↔ Encapsulated linkType packet payload := by
  unfold udpPayload
  by_cases h1 : linkType = 1
  · subst h1
    rw [if_pos rfl, ethernetUdpPayload_eq_ok hpacket]
    exact ⟨.ethernet, fun | .ethernet h => h⟩
  rw [if_neg h1]
  by_cases h101 : linkType = 101
  · subst h101
    rw [if_pos rfl, ipv4UdpPayload_eq_ok]
    exact ⟨.ipv4, fun | .ipv4 h => h⟩
  rw [if_neg h101]
  by_cases h113 : linkType = 113
  · subst h113
    rw [if_pos rfl, linuxCookedUdpPayload_eq_ok]
    exact ⟨.linuxCooked, fun | .linuxCooked h => h⟩
  rw [if_neg h113]
  by_cases h147 : linkType = 147
  · subst h147
    rw [if_pos rfl, Outcome.ok.injEq]
    constructor
    · rintro rfl
      exact .bare
    · intro h
      cases h
      rfl
  · rw [if_neg h147]
    simp only [reduceCtorEq, false_iff]
    intro h
    cases h <;> contradiction

/-- A payload is found exactly in what carries one, and looking for it never panics. -/
theorem payload_found_iff_carried (linkType : UInt16) {packet : List UInt8} (hpacket : packet.length ≤ isizeMax) :
    Outcome.Safe (udpPayload linkType packet) ∧
      ∀ payload, udpPayload linkType packet = .ok payload ↔ Encapsulated linkType packet payload :=
  ⟨udpPayload_safe linkType hpacket, fun _ => udpPayload_eq_ok linkType hpacket⟩

def taggedFrame : List UInt8 :=
  [2, 0, 0, 0, 0, 1, 2, 0, 0, 0, 0, 2, 0x81, 0x00, 0, 7, 0x08, 0x00, 0x45, 0, 0, 29, 0, 1, 0x40, 0, 64, 17, 0, 0,
    10, 0, 0, 1, 10, 0, 0, 2, 0x13, 0x7F, 0x13, 0x7F, 0, 9, 0, 0, 0xAB]

theorem taggedFrame_carries : Outcome.Safe (udpPayload 1 taggedFrame) ∧ Encapsulated 1 taggedFrame [0xAB] := by
  have h := payload_found_iff_carried 1 (show taggedFrame.length ≤ isizeMax by decide)
  exact ⟨h.1, (h.2 [0xAB]).mp (by decide +kernel)⟩

end Difi.Encapsulation
