import Difi.CaptureWalk

namespace Difi.CaptureReading

open Machine Capture CaptureWalk

def pcapngStart : PcapngState := { offset := 0, current := ⟨none, []⟩, payloads := [] }

def pcapStart : PcapState := { offset := 24, payloads := [] }

abbrev PcapngAccepts : List UInt8 → List (List UInt8) → Prop :=
  Accepts PcapngState.offset pcapngBlock PcapngState.payloads pcapngStart

abbrev PcapngRejects : List UInt8 → PcapngState → CaptureError → Prop :=
  Rejects PcapngState.offset pcapngBlock pcapngStart

abbrev PcapAccepts (order : ByteOrder) (linkType : UInt16) : List UInt8 → List (List UInt8) → Prop :=
  Accepts PcapState.offset (pcapRecord order linkType) PcapState.payloads pcapStart

abbrev PcapRejects (order : ByteOrder) (linkType : UInt16) : List UInt8 → PcapState → CaptureError → Prop :=
  Rejects PcapState.offset (pcapRecord order linkType) pcapStart

theorem pcapRecord_found (order : ByteOrder) (linkType : UInt16) (b : List UInt8) (s t : PcapState)
    (hb : b.length ≤ isizeMax) (hs : s.offset < b.length) (h : pcapRecord order linkType b s = .ok t) :
    s.payloads <+: t.payloads := by
  obtain ⟨-, rfl⟩ := (pcapRecord_eq_ok hb hs).mp h
  exact List.prefix_append _ _

theorem enhancedPacket_found {order : ByteOrder} {offset : Nat} {body : List UInt8} {linkTypes : List UInt16}
    {payloads all : List (List UInt8)} (hbody : body.length ≤ isizeMax)
    (h : enhancedPacket order offset body linkTypes payloads = .ok all) : ∃ linkType,
      20 + packetLen order body ≤ body.length ∧ linkTypes[interfaceOf order body]? = some linkType ∧
      all = payloads ++ (payloadOf linkType (stretch body 20 (packetLen order body))).toList := by
  rw [enhancedPacket_eq offset linkTypes payloads hbody] at h
  simp only [Outcome.if_eq_ok, Outcome.bind_eq_ok, Outcome.okOr_eq_ok, reduceCtorEq, and_false, false_or,
    Outcome.ok.injEq, Nat.not_lt] at h
  obtain ⟨-, linkType, hlink, hfits, rfl⟩ := h
  exact ⟨linkType, hfits, hlink, rfl⟩

theorem addBlock_found {order : ByteOrder} {offset : Nat} {kind : UInt32} {body : List UInt8}
    {current : PcapngSection} {payloads : List (List UInt8)} {added : PcapngSection × List (List UInt8)}
    (hbody : body.length ≤ isizeMax) (h : addBlock order offset kind body current payloads = .ok added) :
    payloads <+: added.2 := by
  rw [addBlock] at h
  split at h
  next =>
      obtain ⟨linkTypes, -, rfl⟩ := Outcome.map_eq_ok.mp h
      exact List.prefix_refl _
  next =>
      split at h
      next =>
          obtain ⟨all, hall, rfl⟩ := Outcome.map_eq_ok.mp h
          obtain ⟨linkType, -, -, rfl⟩ := enhancedPacket_found hbody hall
          exact List.prefix_append _ _
      next =>
          cases h
          exact List.prefix_refl _

theorem pcapngBlock_found (b : List UInt8) (s t : PcapngState) (hb : b.length ≤ isizeMax)
    (hs : s.offset < b.length) (h : pcapngBlock b s = .ok t) : s.payloads <+: t.payloads := by
  obtain ⟨order, added, -, -, -, -, -, hadded, rfl⟩ := (pcapngBlock_eq_ok hb hs).mp h
  exact addBlock_found (stretch_le hb) hadded

section Runs

variable {b : List UInt8} {payloads : List (List UInt8)} {e : CaptureError}

theorem pcapngUdpPayloads_eq_ok : pcapngUdpPayloads b = .ok payloads ↔ PcapngAccepts b payloads := by
  rw [pcapngUdpPayloads, Outcome.bind_eq_ok]
  simp only [pcapngBlocks, whileLoop_eq_ok, unread_eq_false, Outcome.ok.injEq, and_assoc]
  rfl

theorem pcapngUdpPayloads_eq_err : pcapngUdpPayloads b = .err e ↔ ∃ t, PcapngRejects b t e := by
  rw [pcapngUdpPayloads, Outcome.bind_eq_err]
  simp only [pcapngBlocks, whileLoop_eq_err, unread_eq_true, reduceCtorEq, and_false, exists_false, or_false]
  rfl

theorem pcapngUdpPayloads_safe (hb : b.length ≤ isizeMax) : Outcome.Safe (pcapngUdpPayloads b) := by
  refine Outcome.Safe.bind (whileLoop_safe (P := fun _ => True) ?_ (fun _ _ _ _ _ => trivial) trivial)
    fun _ _ => Outcome.safe_ok _
  exact fun s hs _ => (pcapngBlock_within hb (unread_eq_true.mp hs)).safe

structure PcapHeader (b : List UInt8) (order : ByteOrder) (linkType : UInt16) : Prop where
  length : 24 ≤ b.length
  magic : pcapByteOrder b = some order
  link : (fieldAt order b 20).toNat = linkType.toNat

theorem tryIntoU16_field {w : UInt32} {n : UInt16} : tryIntoU16 w.toNat = some n ↔ w.toNat = n.toNat := by
  rw [tryIntoU16_eq_some, eq_comm]

theorem pcapUdpPayloads_header {order : ByteOrder} {linkType : UInt16} (hb : b.length ≤ isizeMax)
    (h : PcapHeader b order linkType) :
    pcapUdpPayloads b = pcapRecords order linkType b pcapStart >>= fun s => .ok s.payloads := by
  rw [pcapUdpPayloads, if_neg (Nat.not_lt.mpr h.length), h.magic, Outcome.okOr_some, Outcome.ok_bind,
    readU32_ok order hb h.length, Outcome.ok_bind, tryIntoU16_field.mpr h.link, Outcome.okOr_some,
    Outcome.ok_bind]
  rfl

theorem pcapUdpPayloads_headless (hb : b.length ≤ isizeMax) (h : ∀ order linkType, ¬PcapHeader b order linkType) :
    ∃ e, pcapUdpPayloads b = .err e ∧ failedAt e = none := by
  rw [pcapUdpPayloads]
  by_cases hlen : b.length < 24
  · rw [if_pos hlen]
    exact ⟨_, rfl, rfl⟩
  rw [if_neg hlen]
  cases horder : pcapByteOrder b with
  | none => exact ⟨_, rfl, rfl⟩
  | some order =>
      rw [Outcome.okOr_some, Outcome.ok_bind, readU32_ok order hb (by omega), Outcome.ok_bind]
      cases hlink : tryIntoU16 (fieldAt order b 20).toNat with
      | none => exact ⟨_, rfl, rfl⟩
      | some linkType => exact absurd ⟨Nat.le_of_not_lt hlen, horder, tryIntoU16_field.mp hlink⟩ (h order linkType)

section Header

variable {order : ByteOrder} {linkType : UInt16}

theorem pcapUdpPayloads_eq_ok (hb : b.length ≤ isizeMax) (h : PcapHeader b order linkType) :
    pcapUdpPayloads b = .ok payloads ↔ PcapAccepts order linkType b payloads := by
  rw [pcapUdpPayloads_header hb h, Outcome.bind_eq_ok]
  simp only [pcapRecords, whileLoop_eq_ok, unread_eq_false, Outcome.ok.injEq, and_assoc]
  rfl

theorem pcapUdpPayloads_eq_err (hb : b.length ≤ isizeMax) (h : PcapHeader b order linkType) :
    pcapUdpPayloads b = .err e ↔ ∃ t, PcapRejects order linkType b t e := by
  rw [pcapUdpPayloads_header hb h, Outcome.bind_eq_err]
  simp only [pcapRecords, whileLoop_eq_err, unread_eq_true, reduceCtorEq, and_false, exists_false, or_false]
  rfl

theorem pcapUdpPayloads_safe (hb : b.length ≤ isizeMax) : Outcome.Safe (pcapUdpPayloads b) := by
  by_cases h : ∃ order linkType, PcapHeader b order linkType
  · obtain ⟨order, linkType, h⟩ := h
    rw [pcapUdpPayloads_header hb h]
    refine Outcome.Safe.bind (whileLoop_safe (P := fun _ => True) ?_ (fun _ _ _ _ _ => trivial) trivial)
      fun _ _ => Outcome.safe_ok _
    exact fun s hs _ => (pcapRecord_within hb (unread_eq_true.mp hs)).safe
  · obtain ⟨e, he, -⟩ := pcapUdpPayloads_headless hb fun order linkType hheader => h ⟨order, linkType, hheader⟩
    rw [he]
    exact Outcome.safe_err e

theorem PcapHeader.agree {c : List UInt8} {k : Nat} (h : PcapHeader b order linkType) (hk : 24 ≤ k)
    (hkb : k ≤ b.length) (htake : c.take k = b.take k) : PcapHeader c order linkType where
  length := Nat.le_trans hk (length_of_take_eq htake hkb)
  magic := by
    have hlen := length_of_take_eq htake hkb
    have hmagic : getRange c 0 (0 + 4) = getRange b 0 (0 + 4) := by
      rw [getRange_stretch (by omega), getRange_stretch (by omega), stretch_agree htake (by omega)]
    rw [pcapByteOrder, show getRange c 0 4 = getRange b 0 4 from hmagic]
    exact h.magic
  link := by
    rw [fieldAt_agree order htake (by omega), h.link]

end Header

end Runs

/-- How a capture begins: with a section, or with the header of a file of records. -/
inductive Kind where
  | pcapng
  | pcap (order : ByteOrder) (linkType : UInt16)
deriving DecidableEq, Repr

def Kind.least : Kind → Nat
  | .pcapng => 4
  | .pcap _ _ => 24

def Opens (b : List UInt8) : Kind → Prop
  | .pcapng => [0x0A, 0x0D, 0x0D, 0x0A] <+: b
  | .pcap order linkType => PcapHeader b order linkType

def AcceptsAs : Kind → List UInt8 → List (List UInt8) → Prop
  | .pcapng => PcapngAccepts
  | .pcap order linkType => PcapAccepts order linkType

/-- The record or the block at an offset ends the run, after the payloads found before it. -/
def RejectsAs : Kind → List UInt8 → Nat → List (List UInt8) → CaptureError → Prop
  | .pcapng => fun b k found e => ∃ t, t.offset = k ∧ t.payloads = found ∧ PcapngRejects b t e
  | .pcap order linkType => fun b k found e =>
    ∃ t, t.offset = k ∧ t.payloads = found ∧ PcapRejects order linkType b t e

section Capture

variable {b : List UInt8} {payloads : List (List UInt8)} {e : CaptureError} {kind : Kind}

theorem magic_of_byteOrder {order : ByteOrder} (h : pcapByteOrder b = some order) :
    [0x0A, 0x0D, 0x0D, 0x0A].isPrefixOf b = false := by
  rw [Bool.eq_false_iff, ne_eq, List.isPrefixOf_iff_prefix]
  rintro ⟨rest, rfl⟩
  rw [pcapByteOrder, getRange_some (Nat.zero_le 4) (by simp)] at h
  revert h
  simp

theorem captureUdpPayloads_pcapng (h : Opens b .pcapng) : captureUdpPayloads b = pcapngUdpPayloads b := by
  rw [captureUdpPayloads, if_pos (List.isPrefixOf_iff_prefix.mpr h)]

theorem captureUdpPayloads_pcap {order : ByteOrder} (h : pcapByteOrder b = some order) :
    captureUdpPayloads b = pcapUdpPayloads b := by
  rw [captureUdpPayloads, magic_of_byteOrder h, if_neg Bool.false_ne_true, h]
  rfl

theorem captureUdpPayloads_eq_ok (hb : b.length ≤ isizeMax) (h : Opens b kind) :
    captureUdpPayloads b = .ok payloads ↔ AcceptsAs kind b payloads := by
  cases kind with
  | pcapng =>
      rw [captureUdpPayloads_pcapng h]
      exact pcapngUdpPayloads_eq_ok
  | pcap order linkType =>
      rw [captureUdpPayloads_pcap h.magic]
      exact pcapUdpPayloads_eq_ok hb h

theorem captureUdpPayloads_eq_err (hb : b.length ≤ isizeMax) (h : Opens b kind) :
    captureUdpPayloads b = .err e ↔ ∃ k found, RejectsAs kind b k found e := by
  cases kind with
  | pcapng =>
      rw [captureUdpPayloads_pcapng h, pcapngUdpPayloads_eq_err]
      exact ⟨fun ⟨t, ht⟩ => ⟨_, _, t, rfl, rfl, ht⟩, fun ⟨_, _, t, _, _, ht⟩ => ⟨t, ht⟩⟩
  | pcap order linkType =>
      rw [captureUdpPayloads_pcap h.magic, pcapUdpPayloads_eq_err hb h]
      exact ⟨fun ⟨t, ht⟩ => ⟨_, _, t, rfl, rfl, ht⟩, fun ⟨_, _, t, _, _, ht⟩ => ⟨t, ht⟩⟩

theorem captureUdpPayloads_safe (hb : b.length ≤ isizeMax) : Outcome.Safe (captureUdpPayloads b) := by
  rw [captureUdpPayloads]
  exact Outcome.safe_ite (pcapngUdpPayloads_safe hb) (Outcome.safe_ite (pcapUdpPayloads_safe hb)
    (Outcome.safe_err _))

theorem captureUdpPayloads_unopened (hb : b.length ≤ isizeMax) (h : ∀ kind, ¬Opens b kind) :
    ∃ e, captureUdpPayloads b = .err e ∧ failedAt e = none := by
  rw [captureUdpPayloads, if_neg fun hmagic => h .pcapng (List.isPrefixOf_iff_prefix.mp hmagic)]
  split
  next => exact pcapUdpPayloads_headless hb fun order linkType => h (.pcap order linkType)
  next => exact ⟨_, rfl, rfl⟩

theorem opens_of_ok (hb : b.length ≤ isizeMax) (h : captureUdpPayloads b = .ok payloads) :
    ∃ kind, Opens b kind := by
  by_contra hnone
  obtain ⟨e, he, -⟩ := captureUdpPayloads_unopened hb fun kind hkind => hnone ⟨kind, hkind⟩
  rw [h] at he
  cases he

/-- What is settled about a capture by its first bytes, once the record or the
block after them has been rejected. -/
structure Settled (b : List UInt8) (k : Nat) (found : List (List UInt8)) : Prop where
  accepted : captureUdpPayloads (b.take k) = .ok found
  kept : ∀ c all, c.length ≤ isizeMax → c.take k = b.take k → captureUdpPayloads c = .ok all → found <+: all
  later : ∀ c e, c.length ≤ isizeMax → c.take k = b.take k → captureUdpPayloads c = .err e →
    ∃ n, failedAt e = some n ∧ k ≤ n

theorem RejectsAs.offset {k : Nat} {found : List (List UInt8)} (hb : b.length ≤ isizeMax)
    (h : RejectsAs kind b k found e) : failedAt e = some k ∧ k < b.length := by
  cases kind with
  | pcapng =>
      obtain ⟨t, rfl, -, -, ht, he⟩ := h
      exact ⟨(pcapngBlock_within hb ht).err e he, ht⟩
  | pcap order linkType =>
      obtain ⟨t, rfl, -, -, ht, he⟩ := h
      refine ⟨?_, ht⟩
      rcases (pcapRecord_within hb ht).err e he with rfl | ⟨_, _, rfl⟩ <;> rfl

theorem Opens.agree {c : List UInt8} {k : Nat} (h : Opens b kind) (hk : k ≤ b.length)
    (hkind : kind.least ≤ k) (htake : c.take k = b.take k) :
    Opens c kind := by
  cases kind with
  | pcapng =>
      obtain ⟨rest, hrest⟩ := h
      have hfour : c.take 4 = b.take 4 := take_eq_of_le htake hkind
      have hlen : ([0x0A, 0x0D, 0x0D, 0x0A] : List UInt8).length = 4 := rfl
      rw [← hrest, List.take_left' hlen] at hfour
      exact ⟨c.drop 4, by rw [← hfour, List.take_append_drop]⟩
  | pcap order linkType => exact PcapHeader.agree h hkind hk htake

theorem AcceptsAs.take {k : Nat} {found : List (List UInt8)} (hb : b.length ≤ isizeMax)
    (h : RejectsAs kind b k found e) : AcceptsAs kind (b.take k) found ∧
      ∀ c : List UInt8, c.length ≤ isizeMax → c.take k = b.take k →
        (∀ all, AcceptsAs kind c all → found <+: all) ∧
        ∀ n later e', RejectsAs kind c n later e' → k ≤ n := by
  cases kind with
  | pcapng =>
      obtain ⟨t, rfl, rfl, ht⟩ := h
      obtain ⟨haccepts, hother⟩ := pcapngBlock_walk.located pcapngBlock_found hb ht
      refine ⟨haccepts, fun c hc htake => ⟨(hother c hc htake).1, ?_⟩⟩
      rintro n later e' ⟨u, rfl, -, hu⟩
      exact (hother c hc htake).2 u e' hu
  | pcap order linkType =>
      obtain ⟨t, rfl, rfl, ht⟩ := h
      obtain ⟨haccepts, hother⟩ :=
        (pcapRecord_walk order linkType).located (pcapRecord_found order linkType) hb ht
      refine ⟨haccepts, fun c hc htake => ⟨(hother c hc htake).1, ?_⟩⟩
      rintro n later e' ⟨u, rfl, -, hu⟩
      exact (hother c hc htake).2 u e' hu

theorem RejectsAs.least {k : Nat} {found : List (List UInt8)} (hb : b.length ≤ isizeMax)
    (h : RejectsAs kind b k found e) (hk : 0 < k) : kind.least ≤ k := by
  cases kind with
  | pcapng =>
      obtain ⟨t, rfl, -, hwalk, -, -⟩ := h
      cases hwalk with
      | refl s => exact absurd hk (Nat.lt_irrefl 0)
      | round _ hbody hrest =>
          have hforward := (pcapngBlock_forward hbody).1
          have hmono := pcapngBlock_walk.mono hb hrest
          exact Nat.le_trans (show 4 ≤ 0 + 12 by omega) (Nat.le_trans hforward hmono)
  | pcap order linkType =>
      obtain ⟨t, rfl, -, hwalk, -, -⟩ := h
      exact (pcapRecord_walk order linkType).mono hb hwalk

theorem RejectsAs.settled {k : Nat} {found : List (List UInt8)} (hb : b.length ≤ isizeMax) (hopens : Opens b kind)
    (h : RejectsAs kind b k found e) (hk : 0 < k) : Settled b k found := by
  have hleast := h.least hb hk
  have hlt := (h.offset hb).2
  have hopen : ∀ c : List UInt8, c.take k = b.take k → Opens c kind :=
    fun c htake => hopens.agree (Nat.le_of_lt hlt) hleast htake
  obtain ⟨haccepts, hother⟩ := AcceptsAs.take hb h
  have hlen : (b.take k).length ≤ isizeMax := by
    rw [List.length_take]
    omega
  have htake : (b.take k).take k = b.take k := by rw [List.take_take, Nat.min_self]
  refine ⟨(captureUdpPayloads_eq_ok hlen (hopen _ htake)).mpr haccepts, ?_, ?_⟩
  · intro c all hc htake hall
    exact (hother c hc htake).1 all ((captureUdpPayloads_eq_ok hc (hopen c htake)).mp hall)
  · intro c e' hc htake he'
    obtain ⟨n, later, hn⟩ := (captureUdpPayloads_eq_err hc (hopen c htake)).mp he'
    exact ⟨n, (hn.offset hc).1, (hother c hc htake).2 n later e' hn⟩

theorem RejectsAs.first {found : List (List UInt8)} (hb : b.length ≤ isizeMax) (h : RejectsAs kind b 0 found e) :
    kind = .pcapng ∧ found = [] ∧ pcapngBlock b pcapngStart = .err e := by
  cases kind with
  | pcapng =>
      obtain ⟨t, hzero, rfl, hwalk, hstep⟩ := h
      cases hwalk with
      | refl s => exact ⟨rfl, rfl, hstep.2⟩
      | round _ hbody hrest =>
          have hforward := (pcapngBlock_forward hbody).1
          have hmono := pcapngBlock_walk.mono hb hrest
          omega
  | pcap order linkType =>
      obtain ⟨t, hzero, -, hwalk, -⟩ := h
      have hmono : 24 ≤ t.offset := (pcapRecord_walk order linkType).mono hb hwalk
      omega

/-- Reading a capture never panics. Its error is about no record or block exactly
when the capture does not open. Otherwise it is about one of them, and what stands
before that is settled, or it is the first block of the file that cannot be read. -/
theorem failure_located (hb : b.length ≤ isizeMax) : Outcome.Safe (captureUdpPayloads b) ∧
    ((∃ e, captureUdpPayloads b = .err e ∧ failedAt e = none) ↔ ∀ kind, ¬Opens b kind) ∧
    ∀ e k, captureUdpPayloads b = .err e → failedAt e = some k → k < b.length ∧
      ∃ kind found, Opens b kind ∧ RejectsAs kind b k found e ∧ (0 < k → Settled b k found) ∧
        (k = 0 → kind = .pcapng ∧ found = [] ∧ pcapngBlock b pcapngStart = .err e) := by
  refine ⟨captureUdpPayloads_safe hb, ⟨?_, captureUdpPayloads_unopened hb⟩, fun e k he hk => ?_⟩
  · rintro ⟨e, he, hnone⟩ kind hkind
    obtain ⟨k, found, hrejects⟩ := (captureUdpPayloads_eq_err hb hkind).mp he
    rw [(hrejects.offset hb).1] at hnone
    cases hnone
  · by_cases hopens : ∃ kind, Opens b kind
    · obtain ⟨kind, hkind⟩ := hopens
      obtain ⟨k', found, hrejects⟩ := (captureUdpPayloads_eq_err hb hkind).mp he
      obtain ⟨hoffset, hlt⟩ := hrejects.offset hb
      obtain rfl : k' = k := Option.some.inj (hoffset.symm.trans hk)
      refine ⟨hlt, kind, found, hkind, hrejects, hrejects.settled hb hkind, fun hzero => ?_⟩
      subst hzero
      exact hrejects.first hb
    · obtain ⟨e', he', hnone⟩ := captureUdpPayloads_unopened hb fun kind hkind => hopens ⟨kind, hkind⟩
      rw [he] at he'
      cases he'
      rw [hnone] at hk
      cases hk

def smallCapture : List UInt8 :=
  [0xD4, 0xC3, 0xB2, 0xA1, 2, 0, 4, 0, 0, 0, 0, 0, 0, 0, 0, 0, 0xFF, 0xFF, 0, 0, 147, 0, 0, 0,
    0, 0, 0, 0, 0, 0, 0, 0, 2, 0, 0, 0, 2, 0, 0, 0, 0xA1, 0xA2,
    0, 0, 0, 0, 0, 0, 0, 0, 1, 0, 0, 0, 1, 0, 0, 0, 0xB1]

theorem smallCapture_failure : captureUdpPayloads (smallCapture.take 50) = .err (.truncatedPacketHeader 42) ∧
    Settled (smallCapture.take 50) 42 [[0xA1, 0xA2]] := by
  have herr : captureUdpPayloads (smallCapture.take 50) = .err (.truncatedPacketHeader 42) := by decide +kernel
  have hbefore : captureUdpPayloads ((smallCapture.take 50).take 42) = .ok [[0xA1, 0xA2]] := by decide +kernel
  obtain ⟨-, -, found, -, -, hsettled, -⟩ :=
    (failure_located (b := smallCapture.take 50) (by decide)).2.2 _ 42 herr rfl
  have haccepted := (hsettled (by decide)).accepted
  rw [hbefore, Outcome.ok.injEq] at haccepted
  exact ⟨herr, haccepted ▸ hsettled (by decide)⟩

/-- What is left of a capture does not hold all of its beginning. -/
def HeaderCut (n : Nat) (e : CaptureError) : Prop :=
  (n < 4 ∧ e = .unsupportedMagic) ∨ (n < 24 ∧ e = .truncatedGlobalHeader)

theorem AcceptsAs.cut {all : List (List UInt8)} {n : Nat} (hb : b.length ≤ isizeMax) (h : AcceptsAs kind b all)
    (hleast : kind.least ≤ n) (hn : n ≤ b.length) :
    (∃ found, AcceptsAs kind (b.take n) found ∧ found <+: all) ∨
      ∃ e k found, RejectsAs kind (b.take n) k found e ∧ (RecordCut k e ∨ BlockCut k e) ∧ found <+: all := by
  cases kind with
  | pcapng =>
      obtain ⟨u, hleft, haccepts, rfl | ⟨-, e, hrejects, hcut⟩⟩ :=
        pcapngBlock_walk.cut_short pcapngBlock_found hb h (Nat.zero_le n) hn
      · exact .inl ⟨u.payloads, haccepts, hleft⟩
      · exact .inr ⟨e, u.offset, u.payloads, ⟨u, rfl, rfl, hrejects⟩, .inr hcut, hleft⟩
  | pcap order linkType =>
      obtain ⟨u, hleft, haccepts, rfl | ⟨-, e, hrejects, hcut⟩⟩ :=
        (pcapRecord_walk order linkType).cut_short (pcapRecord_found order linkType) hb h hleast hn
      · exact .inl ⟨u.payloads, haccepts, hleft⟩
      · exact .inr ⟨e, u.offset, u.payloads, ⟨u, rfl, rfl, hrejects⟩, .inl hcut, hleft⟩

theorem pcapByteOrder_short (h : b.length < 4) : pcapByteOrder b = none := by
  rw [pcapByteOrder, getRange_none h]
  rfl

theorem captureUdpPayloads_headerCut {n : Nat} (hopens : Opens b kind) (hn : n ≤ b.length)
    (hcut : n < kind.least) :
    ∃ e, captureUdpPayloads (b.take n) = .err e ∧ HeaderCut n e := by
  have hlen : (b.take n).length = n := List.length_take_of_le hn
  by_cases hfour : n < 4
  · refine ⟨.unsupportedMagic, ?_, .inl ⟨hfour, rfl⟩⟩
    have hmagic : ¬[0x0A, 0x0D, 0x0D, 0x0A].isPrefixOf (b.take n) = true := by
      rw [List.isPrefixOf_iff_prefix]
      intro hleft
      have hle := hleft.length_le
      rw [hlen] at hle
      exact absurd hle (Nat.not_le_of_lt hfour)
    rw [captureUdpPayloads, if_neg hmagic, pcapByteOrder_short (by omega)]
    rfl
  · cases kind with
    | pcapng => exact absurd hcut hfour
    | pcap order linkType =>
        have hmagic : pcapByteOrder (b.take n) = some order := by
          have htake : (b.take n).take n = b.take n := by rw [List.take_take, Nat.min_self]
          have hrange : getRange (b.take n) 0 (0 + 4) = getRange b 0 (0 + 4) := by
            rw [getRange_stretch (by omega), getRange_stretch (by omega), stretch_agree htake (by omega)]
          rw [pcapByteOrder, show getRange (b.take n) 0 4 = getRange b 0 4 from hrange]
          exact hopens.magic
        refine ⟨.truncatedGlobalHeader, ?_, .inr ⟨hcut, rfl⟩⟩
        rw [captureUdpPayloads_pcap hmagic, pcapUdpPayloads, if_pos (by rw [hlen]; exact hcut)]

/-- A capture that is cut short anywhere is never misread. Either it gives the
payloads of the records or blocks that it holds in full, or its error says where
it is cut. -/
theorem cut_never_misread {all : List (List UInt8)} {n : Nat} (hb : b.length ≤ isizeMax)
    (h : captureUdpPayloads b = .ok all) (hn : n ≤ b.length) :
    (∃ found, captureUdpPayloads (b.take n) = .ok found ∧ found <+: all) ∨
      ∃ e, captureUdpPayloads (b.take n) = .err e ∧ (HeaderCut n e ∨
        ∃ k found, k < n ∧ (RecordCut k e ∨ BlockCut k e) ∧ found <+: all ∧
          (0 < k → captureUdpPayloads (b.take k) = .ok found)) := by
  obtain ⟨kind, hkind⟩ := opens_of_ok hb h
  have hlen : (b.take n).length = n := List.length_take_of_le hn
  have htake : (b.take n).take n = b.take n := by rw [List.take_take, Nat.min_self]
  by_cases hleast : n < kind.least
  · obtain ⟨e, he, hcut⟩ := captureUdpPayloads_headerCut hkind hn hleast
    exact .inr ⟨e, he, .inl hcut⟩
  have hopen := hkind.agree hn (Nat.le_of_not_lt hleast) htake
  rcases ((captureUdpPayloads_eq_ok hb hkind).mp h).cut hb (Nat.le_of_not_lt hleast) hn with
    ⟨found, haccepts, hleft⟩ | ⟨e, k, found, hrejects, hcut, hleft⟩
  · exact .inl ⟨found, (captureUdpPayloads_eq_ok (by omega) hopen).mpr haccepts, hleft⟩
  · have hk := (hrejects.offset (by omega)).2
    refine .inr ⟨e, (captureUdpPayloads_eq_err (by omega) hopen).mpr ⟨k, found, hrejects⟩,
      .inr ⟨k, found, by omega, hcut, hleft, fun hpos => ?_⟩⟩
    have hsettled := (hrejects.settled (by omega) hopen hpos).accepted
    rwa [List.take_take, Nat.min_eq_left (by omega)] at hsettled

theorem smallCapture_cut :
    (∃ found, captureUdpPayloads (smallCapture.take 58) = .ok found ∧ found <+: [[0xA1, 0xA2], [0xB1]]) ∨
      ∃ e, captureUdpPayloads (smallCapture.take 58) = .err e ∧ (HeaderCut 58 e ∨
        ∃ k found, k < 58 ∧ (RecordCut k e ∨ BlockCut k e) ∧ found <+: [[0xA1, 0xA2], [0xB1]] ∧
          (0 < k → captureUdpPayloads (smallCapture.take k) = .ok found)) :=
  cut_never_misread (by decide) (by decide +kernel) (by decide)

end Capture

end Difi.CaptureReading
