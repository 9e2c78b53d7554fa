import Difi.Machine.Places
import Difi.Streams

namespace Difi.Loss

open Machine PacketStreamParser Streams

/-- A datagram as it is delivered, with the place of its packet in the stream of
its sender. -/
structure Delivery where
  datagram : List UInt8
  place : Nat
deriving DecidableEq, Repr

def packetOf (options : ParseOptions) (d : Delivery) : Option Packet :=
  match Parser.parsePacketExactWithOptions d.datagram options with
  | .ok p => some p
  | _ => none

def runOf (deliveries : List Delivery) : List Operation := deliveries.map fun d => .datagram d.datagram

/-- Each stream is numbered modulo 16 from a start and is delivered in order,
with any losses, among the other streams and any rejected datagrams. -/
structure Delivered (options : ParseOptions) (start : SequenceKey → Nat) (deliveries : List Delivery) :
    Prop where
  numbered : ∀ d ∈ deliveries, ∀ p ∈ packetOf options d,
    (sequenceOf p).toNat = (start (keyOf p) + d.place) % 16
  ordered : deliveries.Pairwise fun d e => ∀ p ∈ packetOf options d, ∀ q ∈ packetOf options e,
    keyOf p = keyOf q → d.place < e.place

/-- The loss modulo 16 that a status stands for. -/
def lossOf : SequenceStatus → Nat
  | .first | .inOrder => 0
  | .duplicate => 15
  | .gap expected actual => (actual.toNat + 16 - expected.toNat) % 16

theorem statusAfter_loss {s t : UInt8} {c i j : Nat} (hs : s.toNat = (c + i) % 16) (ht : t.toNat = (c + j) % 16)
    (h : i < j) :
    (SequenceTracker.statusAfter (some s) t = .inOrder ↔ (j - i - 1) % 16 = 0) ∧
      (SequenceTracker.statusAfter (some s) t = .duplicate ↔ (j - i - 1) % 16 = 15) ∧
      ((j - i - 1) % 16 ≠ 0 → (j - i - 1) % 16 ≠ 15 → ∃ expected actual,
        SequenceTracker.statusAfter (some s) t = .gap expected actual ∧
          (actual.toNat + 16 - expected.toNat) % 16 = (j - i - 1) % 16) ∧
      lossOf (SequenceTracker.statusAfter (some s) t) = (j - i - 1) % 16 := by
  have hsame : t = s ↔ (j - i - 1) % 16 = 15 := by
    rw [← UInt8.toNat_inj, hs, ht]
    omega
  have hnext : t.toNat = (s.toNat + 1) % 16 ↔ (j - i - 1) % 16 = 0 := by
    rw [hs, ht]
    omega
  rw [SequenceTracker.statusAfter]
  by_cases hduplicate : t = s
  · have hlost := hsame.mp hduplicate
    rw [if_pos hduplicate]
    simp [hlost, lossOf]
  · have hlost := mt hsame.mpr hduplicate
    rw [if_neg hduplicate]
    by_cases horder : t.toNat = (s.toNat + 1) % 16
    · have hzero := hnext.mp horder
      rw [if_pos horder]
      simp [hzero, lossOf]
    · have hnonzero := mt hnext.mpr horder
      have hexpected : (UInt8.ofNat ((s.toNat + 1) % 16)).toNat = (s.toNat + 1) % 16 := by
        rw [UInt8.toNat_ofNat']
        omega
      have hgap : (t.toNat + 16 - (UInt8.ofNat ((s.toNat + 1) % 16)).toNat) % 16 = (j - i - 1) % 16 := by
        rw [hexpected, hs, ht]
        omega
      rw [if_neg horder]
      refine ⟨iff_of_false (by simp) hnonzero, iff_of_false (by simp) hlost, fun _ _ => ?_, hgap⟩
      exact ⟨_, _, rfl, hgap⟩

def statusRun : Option UInt8 → List UInt8 → List SequenceStatus
  | _, [] => []
  | previous, s :: rest => SequenceTracker.statusAfter previous s :: statusRun (some s) rest

def ownOf (options : ParseOptions) (key : SequenceKey) (d : Delivery) : Option (Packet × Nat) :=
  (packetOf options d).bind fun p => if keyOf p = key then some (p, d.place) else none

def own (options : ParseOptions) (key : SequenceKey) (deliveries : List Delivery) : List (Packet × Nat) :=
  deliveries.filterMap (ownOf options key)

variable {options : ParseOptions} {start : SequenceKey → Nat} {deliveries : List Delivery}

theorem ownOf_eq_some {key : SequenceKey} {d : Delivery} {x : Packet × Nat} :
    ownOf options key d = some x ↔ packetOf options d = some x.1 ∧ keyOf x.1 = key ∧ d.place = x.2 := by
  obtain ⟨p, place⟩ := x
  simp only [ownOf, Option.bind_eq_some_iff, Option.ite_none_right_eq_some, Option.some.injEq, Prod.mk.injEq]
  constructor
  · rintro ⟨q, hq, hkey, rfl, rfl⟩
    exact ⟨hq, hkey, rfl⟩
  · rintro ⟨hq, hkey, rfl⟩
    exact ⟨p, hq, hkey, rfl, rfl⟩

theorem own_numbered (h : Delivered options start deliveries) (key : SequenceKey) :
    ∀ x ∈ own options key deliveries, (sequenceOf x.1).toNat = (start key + x.2) % 16 := by
  intro x hx
  obtain ⟨d, hd, hown⟩ := List.mem_filterMap.mp hx
  obtain ⟨hp, rfl, hplace⟩ := ownOf_eq_some.mp hown
  rw [← hplace]
  exact h.numbered d hd x.1 hp

theorem own_ordered (h : Delivered options start deliveries) (key : SequenceKey) :
    ((own options key deliveries).map Prod.snd).Pairwise (· < ·) := by
  refine List.pairwise_map.mpr (List.pairwise_filterMap.mpr (h.ordered.imp ?_))
  intro d e hlt x hx y hy
  obtain ⟨hp, hkeyp, hi⟩ := ownOf_eq_some.mp hx
  obtain ⟨hq, hkeyq, hj⟩ := ownOf_eq_some.mp hy
  rw [← hi, ← hj]
  exact hlt x.1 hp y.1 hq (hkeyp.trans hkeyq.symm)

theorem statuses_own {parser : PacketStreamParser} (hoptions : parser.options = options) (key : SequenceKey)
    (deliveries : List Delivery) : statuses key (parser.results (runOf deliveries)) =
      statusRun (parser.sequences.lastSeen key) ((own options key deliveries).map fun x => sequenceOf x.1) := by
  induction deliveries generalizing parser with
  | nil => rfl
  | cons d deliveries ih =>
      rw [runOf, List.map_cons]
      by_cases h : ∃ p, Parser.parsePacketExactWithOptions d.datagram options = .ok p ∧ keyOf p = key
      · obtain ⟨p, hp, hkey⟩ := h
        have hpacket : packetOf options d = some p := by rw [packetOf, hp]
        have hown : own options key (d :: deliveries) = (p, d.place) :: own options key deliveries :=
          List.filterMap_cons_some (ownOf_eq_some.mpr ⟨hpacket, hkey, rfl⟩)
        obtain ⟨hstatuses, hnext, hseen⟩ := own_step (by rw [hoptions]; exact hp) hkey (runOf deliveries)
        rw [hown, List.map_cons, statusRun, ← hseen, ← ih (hnext.trans hoptions)]
        exact hstatuses
      · have hother : ∀ p, Parser.parsePacketExactWithOptions d.datagram options = .ok p → keyOf p ≠ key :=
          fun p hp hkey => h ⟨p, hp, hkey⟩
        have hown : own options key (d :: deliveries) = own options key deliveries := by
          apply List.filterMap_cons_none
          rcases exact_cases d.datagram options with ⟨p, hp⟩ | ⟨e, he⟩
          · simp [ownOf, packetOf, hp, hother p hp]
          · simp [ownOf, packetOf, he]
        obtain ⟨hstatuses, hnext, hseen⟩ := other_step (by rw [hoptions]; exact hother) (runOf deliveries)
        rw [hown, ← hseen, ← ih (hnext.trans hoptions)]
        exact hstatuses

theorem statusRun_loss {c : Nat} (rest : List (Packet × Nat)) {s : UInt8} {i : Nat}
    (hs : s.toNat = (c + i) % 16) (hnumbered : ∀ x ∈ rest, (sequenceOf x.1).toNat = (c + x.2) % 16)
    (hordered : (i :: rest.map Prod.snd).Pairwise (· < ·)) :
    (((statusRun (some s) (rest.map fun x => sequenceOf x.1)).map lossOf).sum + rest.length + i) % 16 =
      (rest.map Prod.snd).getLastD i % 16 := by
  induction rest generalizing s i with
  | nil => simp [statusRun]
  | cons x rest ih =>
      obtain ⟨hfirst, hrest⟩ := List.pairwise_cons.mp hordered
      have hx := hnumbered x (List.mem_cons_self ..)
      have hlt := hfirst x.2 (List.mem_cons_self ..)
      have hloss := (statusAfter_loss hs hx hlt).2.2.2
      have hsum := ih hx (fun y hy => hnumbered y (List.mem_cons_of_mem _ hy)) hrest
      rw [List.map_cons, List.map_cons, statusRun, List.map_cons, List.sum_cons, hloss, List.getLastD_cons,
        ← hsum, List.length_cons]
      omega

theorem accepted_run (options : ParseOptions) (deliveries : List Delivery) :
    accepted options (runOf deliveries) = deliveries.filterMap (packetOf options) := by
  induction deliveries using List.reverseRecOn with
  | nil => rfl
  | append_singleton deliveries d ih =>
      rw [runOf, List.map_append, accepted, List.filterMap_append, List.filterMap_append]
      rcases exact_cases d.datagram options with ⟨p, hp⟩ | ⟨e, he⟩
      · have hevent : [Operation.datagram d.datagram].filterMap (event options) = [.observe p] := by
          simp [event, hp]
        have hpacket : [d].filterMap (packetOf options) = [p] := by simp [packetOf, hp]
        rw [List.map_singleton, hevent, sinceReset_observe, hpacket, ← ih]
        rfl
      · have hevent : [Operation.datagram d.datagram].filterMap (event options) = [] := by simp [event, he]
        have hpacket : [d].filterMap (packetOf options) = [] := by simp [packetOf, he]
        rw [List.map_singleton, hevent, List.append_nil, hpacket, List.append_nil, ← ih]
        rfl

theorem latest_previous {before between : List Delivery} {d : Delivery} {p : Packet} {key : SequenceKey}
    (hp : packetOf options d = some p) (hkey : keyOf p = key)
    (hnone : ∀ x ∈ between, ∀ r ∈ packetOf options x, keyOf r ≠ key) :
    latest keyOf key (accepted options (runOf (before ++ d :: between))) = some p := by
  have hempty : (between.filterMap (packetOf options)).filter (fun a => keyOf a = key) = [] := by
    refine List.filter_eq_nil_iff.mpr ?_
    intro r hr
    obtain ⟨x, hx, hpacket⟩ := List.mem_filterMap.mp hr
    simpa using hnone x hx r hpacket
  rw [accepted_run, List.filterMap_append, List.filterMap_cons_some hp, latest, List.filter_append,
    List.filter_cons_of_pos (by simpa using hkey), hempty, List.getLast?_concat]

/-- The statuses of a delivered run account for the packets that are missing
from it, modulo 16. -/
theorem statuses_account_for_loss (capacity : Option Nat) (h : Delivered options start deliveries) :
    (∀ before d between e after p q, deliveries = before ++ d :: (between ++ e :: after) →
      packetOf options d = some p → packetOf options e = some q → keyOf p = keyOf q →
      (∀ x ∈ between, ∀ r ∈ packetOf options x, keyOf r ≠ keyOf q) →
      ∃ status, (((created options capacity).performAll
          (runOf (before ++ d :: between))).parseDatagram e.datagram).1 = .ok ⟨q, status⟩ ∧
        (status = .inOrder ↔ (e.place - d.place - 1) % 16 = 0) ∧
        (status = .duplicate ↔ (e.place - d.place - 1) % 16 = 15) ∧
        ((e.place - d.place - 1) % 16 ≠ 0 → (e.place - d.place - 1) % 16 ≠ 15 →
          ∃ expected actual, status = .gap expected actual ∧
            (actual.toNat + 16 - expected.toNat) % 16 = (e.place - d.place - 1) % 16)) ∧
    ∀ key, ((statuses key ((created options capacity).results (runOf deliveries))).map lossOf).sum % 16 =
      missingBetween ((own options key deliveries).map Prod.snd) % 16 := by
  refine ⟨?_, ?_⟩
  · intro before d between e after p q hsplit hp hq hkey hnone
    have hd : d ∈ deliveries := by
      rw [hsplit]
      simp
    have he : e ∈ deliveries := by
      rw [hsplit]
      simp
    have hs := h.numbered d hd p hp
    have ht := h.numbered e he q hq
    have hlt : d.place < e.place := by
      have hordered := h.ordered
      rw [hsplit] at hordered
      have htail := (List.pairwise_append.mp hordered).2.1
      exact (List.pairwise_cons.mp htail).1 e (by simp) p hp q hq hkey
    obtain ⟨hoptions, hseen⟩ := performAll_created options capacity (runOf (before ++ d :: between)) (keyOf q)
    rw [latest_previous hp hkey hnone, Option.map_some] at hseen
    have hexact : Parser.parsePacketExactWithOptions e.datagram options = .ok q := by
      rcases exact_cases e.datagram options with ⟨r, hr⟩ | ⟨error, hr⟩
      · rw [packetOf, hr] at hq
        cases hq
        exact hr
      · rw [packetOf, hr] at hq
        cases hq
    have hresult := (parseDatagram_ok _ (by rw [hoptions]; exact hexact)).1
    rw [hseen] at hresult
    rw [hkey] at hs
    obtain ⟨horder, hduplicate, hgap, -⟩ := statusAfter_loss hs ht hlt
    exact ⟨_, hresult, horder, hduplicate, hgap⟩
  · intro key
    have hstatuses := statuses_own (created_options options capacity) key deliveries
    rw [created_lastSeen] at hstatuses
    rw [hstatuses]
    have hnumbered := own_numbered h key
    have hordered := own_ordered h key
    cases hown : own options key deliveries with
    | nil => rfl
    | cons x rest =>
        rw [hown] at hnumbered hordered
        have hx := hnumbered x (List.mem_cons_self ..)
        have hsum := statusRun_loss rest hx (fun y hy => hnumbered y (List.mem_cons_of_mem _ hy)) hordered
        have hmissing := missingBetween_add hordered
        rw [List.map_cons, List.map_cons, statusRun, List.map_cons, List.sum_cons]
        rw [List.length_map] at hmissing
        simp only [Table.empty_apply, SequenceTracker.statusAfter, lossOf]
        omega

def dataBytes (sequence : UInt8) : List UInt8 :=
  flat [(0x18600007 : UInt32) ||| (sequence.toUInt32 <<< 16), 1, difiCid, 0, 0, 0, 0]

def oneLost : List Delivery := [⟨dataBytes 15, 0⟩, ⟨[0xFF], 0⟩, ⟨dataBytes 1, 2⟩]

theorem oneLost_accounted : ((statuses ⟨.signalDataWithStreamId, .standardFlowSignalData, 1⟩
    ((created {} none).results (runOf oneLost))).map lossOf).sum % 16 = 1 := by
  have h : Delivered {} (fun _ => 15) oneLost := ⟨by decide, by decide⟩
  have hmissing : missingBetween ((own {} ⟨.signalDataWithStreamId, .standardFlowSignalData, 1⟩ oneLost).map
      Prod.snd) % 16 = 1 := by decide
  exact ((statuses_account_for_loss none h).2 _).trans hmissing

end Difi.Loss
