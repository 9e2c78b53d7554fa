import Difi.Streams
import Difi.UdpReceiver

namespace Difi.Receiving

open Machine Streams UdpReceiver

variable {Source : Type}

def complaint (source : Source) : SequenceStatus → List (Line Source)
  | .first | .inOrder => []
  | .duplicate => [.duplicate source]
  | .gap expected actual => [.gap source expected actual]

def announcement : Packet → List (Line Source)
  | .signalData packet => [.signalData packet.prologue.streamId packet.payload.length]
  | _ => []

/-- The lines for packets that are heard after earlier ones. -/
def linesAfter : List Packet → List (Source × Packet) → List (Line Source)
  | _, [] => []
  | earlier, (source, packet) :: heard =>
    complaint source (historyStatus (latest keyOf (keyOf packet) earlier) packet) ++ announcement packet ++
      linesAfter (earlier ++ [packet]) heard

/-- What a receiver with a buffer of 9000 bytes hears of an arrival. -/
def hear : Arrival Source → Outcome ReceiverError (Source × Packet)
  | none => .err .io
  | some (source, datagram) =>
    ((Parser.parsePacketExact (datagram.take 9000)).mapErr .parse).map fun packet => (source, packet)

/-- The receiver remembers no more of what it has heard than the history says. -/
structure Hearing (heard : List (Source × Packet)) (s : ReceiverState Source) : Prop where
  options : s.parser.options = {}
  lastSeen : ∀ key, s.parser.sequences.lastSeen key = (latest keyOf key (heard.map Prod.snd)).map sequenceOf
  buffer : s.buffer.length = 9000
  lines : s.lines = linesAfter [] heard

theorem linesAfter_append (earlier : List Packet) (heard : List (Source × Packet)) (source : Source)
    (packet : Packet) : linesAfter earlier (heard ++ [(source, packet)]) = linesAfter earlier heard ++
      (complaint source (historyStatus (latest keyOf (keyOf packet) (earlier ++ heard.map Prod.snd)) packet) ++
        announcement packet) := by
  induction heard generalizing earlier with
  | nil => simp only [List.nil_append, linesAfter, List.append_nil, List.map_nil]
  | cons x heard ih =>
      rw [List.cons_append, linesAfter, linesAfter, ih, List.map_cons, List.append_assoc, List.append_assoc,
        List.append_assoc, List.append_assoc]
      rfl

section Round

variable {heard : List (Source × Packet)} {s : ReceiverState Source}

theorem recvFrom_some (source : Source) (datagram : List UInt8) (hs : s.buffer.length = 9000) :
    recvFrom (some (source, datagram)) s = (.ok ((datagram.take 9000).length, source),
      { s with buffer := datagram.take 9000 ++ s.buffer.drop (datagram.take 9000).length }) := by
  have hlen : min datagram.length s.buffer.length = (datagram.take 9000).length := by
    rw [List.length_take, hs, Nat.min_comm]
  have htake : datagram.take (datagram.take 9000).length = datagram.take 9000 := by
    rw [List.length_take, ← List.take_take, List.take_length]
  rw [recvFrom, hlen, htake]

def filled (s : ReceiverState Source) (bytes : List UInt8) : ReceiverState Source :=
  { s with buffer := bytes ++ s.buffer.drop bytes.length }

theorem printStatus_run (source : Source) (status : SequenceStatus) (t : ReceiverState Source) :
    printStatus source status t = (.ok (), { t with lines := t.lines ++ complaint source status }) := by
  cases status with
  | first | inOrder =>
      exact congrArg (fun lines => (Outcome.ok (), { t with lines })) (List.append_nil t.lines).symm
  | duplicate | gap expected actual => rfl

theorem printPacket_run (packet : Packet) (t : ReceiverState Source) :
    printPacket packet t = (.ok (), { t with lines := t.lines ++ announcement packet }) := by
  cases packet with
  | signalData packet => rfl
  | _ => exact congrArg (fun lines => (Outcome.ok (), { t with lines })) (List.append_nil t.lines).symm

theorem parseDatagram_run {bytes : List UInt8} {result : Result ParsedDatagram} {parser : PacketStreamParser}
    (h : s.parser.parseDatagram bytes = (result, parser)) :
    UdpReceiver.parseDatagram bytes s = (result.mapErr .parse, { s with parser }) := by
  rw [UdpReceiver.parseDatagram, h]

theorem receive_some (source : Source) (datagram : List UInt8) (hs : s.buffer.length = 9000) :
    receive (some (source, datagram)) s = (UdpReceiver.parseDatagram (datagram.take 9000) >>= fun parsed =>
      printStatus source parsed.sequenceStatus >>= fun _ => printPacket parsed.packet)
        (filled s (datagram.take 9000)) := by
  have hslice : (sliceTo (filled s (datagram.take 9000)).buffer (datagram.take 9000).length :
      Outcome ReceiverError (List UInt8)) = .ok (datagram.take 9000) := by
    rw [filled, sliceTo_ok (by simp), List.take_left]
  rw [receive, Effect.bind_of_ok (recvFrom_some source datagram hs)]
  dsimp only
  rw [Effect.get_bind]
  change (Effect.lift (sliceTo (filled s (datagram.take 9000)).buffer (datagram.take 9000).length) >>= _)
    (filled s (datagram.take 9000)) = _
  rw [hslice, Effect.lift_bind_ok]

theorem filled_length (hs : s.buffer.length = 9000) (datagram : List UInt8) :
    (filled s (datagram.take 9000)).buffer.length = 9000 := by
  simp only [filled, List.length_append, List.length_take, List.length_drop]
  omega

theorem receive_accepted {source : Source} {datagram : List UInt8} {packet : Packet} (hs : Hearing heard s)
    (h : hear (some (source, datagram)) = .ok (source, packet)) :
    ∃ t, receive (some (source, datagram)) s = (.ok (), t) ∧ Hearing (heard ++ [(source, packet)]) t := by
  have haccepted : Parser.parsePacketExactWithOptions (datagram.take 9000) s.parser.options = .ok packet := by
    simp only [hear, Outcome.map_eq_ok, Outcome.mapErr_eq_ok, Prod.mk.injEq, true_and] at h
    obtain ⟨_, hpacket, rfl⟩ := h
    rw [hs.options]
    exact hpacket
  obtain ⟨hresult, hoptions, hseen⟩ := parseDatagram_ok s.parser haccepted
  rw [hs.lastSeen, ← historyStatus_eq] at hresult
  have hparse := parseDatagram_run (s := filled s (datagram.take 9000)) (Prod.ext hresult rfl)
  rw [receive_some source datagram hs.buffer, Effect.bind_of_ok hparse, Effect.bind_of_ok (printStatus_run ..),
    printPacket_run]
  refine ⟨_, rfl, hoptions.trans hs.options, fun key => ?_, filled_length hs.buffer datagram, ?_⟩
  · simp only
    change (s.parser.parseDatagram (datagram.take 9000)).2.sequences.lastSeen key = _
    rw [hseen, List.map_append]
    by_cases hkey : keyOf packet = key
    · subst hkey
      rw [Table.insert_self, List.map_singleton, latest_append_self _ rfl]
      rfl
    · rw [Table.insert_of_ne _ _ (Ne.symm hkey), List.map_singleton, latest_append_of_ne _ hkey, hs.lastSeen]
  · simp only
    rw [linesAfter_append, List.nil_append, ← List.append_assoc, ← hs.lines]
    rfl

theorem receive_rejected {arrival : Arrival Source} {e : ReceiverError} (hs : Hearing heard s)
    (h : hear arrival = .err e) : ∃ t, receive arrival s = (.err e, t) ∧ Hearing heard t := by
  cases arrival with
  | none =>
      cases h
      exact ⟨s, rfl, hs⟩
  | some arrival =>
      obtain ⟨source, datagram⟩ := arrival
      rcases exact_cases (datagram.take 9000) {} with ⟨packet, hpacket⟩ | ⟨error, herror⟩
      · rw [hear, Parser.parsePacketExact, hpacket] at h
        cases h
      · rw [hear, Parser.parsePacketExact, herror] at h
        cases h
        rw [← hs.options] at herror
        have hparse := parseDatagram_run (s := filled s (datagram.take 9000)) (parseDatagram_err herror)
        rw [receive_some source datagram hs.buffer, Effect.bind_of_err hparse]
        exact ⟨_, rfl, hs.options, hs.lastSeen, filled_length hs.buffer datagram, hs.lines⟩

end Round

theorem hear_cases (arrival : Arrival Source) :
    (∃ source datagram packet, arrival = some (source, datagram) ∧ hear arrival = .ok (source, packet)) ∨
      ∃ e, hear arrival = .err e := by
  cases arrival with
  | none => exact .inr ⟨_, rfl⟩
  | some arrival =>
      obtain ⟨source, datagram⟩ := arrival
      rcases exact_cases (datagram.take 9000) {} with ⟨packet, hpacket⟩ | ⟨error, herror⟩
      · refine .inl ⟨source, datagram, packet, rfl, ?_⟩
        rw [hear, Parser.parsePacketExact, hpacket]
        rfl
      · refine .inr ⟨.parse error, ?_⟩
        rw [hear, Parser.parsePacketExact, herror]
        rfl

/-- What the receiver has heard so far, and whether it still listens. -/
inductive Listening (p : Process (ReceiverState Source) ReceiverError) (arrivals : List (Arrival Source)) :
    Prop
  | going (heard : List (Source × Packet)) (hheard : arrivals.map hear = heard.map .ok)
      (hs : Hearing heard p.state) (hstatus : p.status = .ok ())
  | ended (heard : List (Source × Packet)) (e : ReceiverError)
      (rest : List (Outcome ReceiverError (Source × Packet)))
      (hheard : arrivals.map hear = heard.map .ok ++ .err e :: rest) (hs : Hearing heard p.state)
      (hstatus : p.status = .err e)

theorem main_append (arrivals : List (Arrival Source)) (arrival : Arrival Source) :
    main (arrivals ++ [arrival]) = (main arrivals).perform (receive arrival) := by
  rw [main, List.foldl_append]
  rfl

theorem main_listening (arrivals : List (Arrival Source)) : Listening (main arrivals) arrivals := by
  induction arrivals using List.reverseRecOn with
  | nil => exact .going [] rfl ⟨rfl, fun _ => rfl, List.length_replicate, rfl⟩ rfl
  | append_singleton arrivals arrival ih =>
      rw [main_append]
      rcases hp : main arrivals with ⟨s, status⟩
      rw [hp] at ih
      cases ih with
      | going heard hheard hs hstatus =>
          cases hstatus
          rw [Process.perform_running]
          rcases hear_cases arrival with ⟨source, datagram, packet, rfl, hpacket⟩ | ⟨e, he⟩
          · obtain ⟨t, hrun, ht⟩ := receive_accepted hs hpacket
            rw [hrun]
            refine .going (heard ++ [(source, packet)]) ?_ ht rfl
            rw [List.map_append, List.map_append, hheard, List.map_singleton, List.map_singleton, hpacket]
          · obtain ⟨t, hrun, ht⟩ := receive_rejected hs he
            rw [hrun]
            refine .ended heard e [] ?_ ht rfl
            rw [List.map_append, hheard, List.map_singleton, he]
      | ended heard e rest hheard hs hstatus =>
          cases hstatus
          rw [Process.perform_ended]
          refine .ended heard e (rest ++ [hear arrival]) ?_ hs rfl
          rw [List.map_append, hheard, List.map_singleton, List.append_assoc, List.cons_append]

theorem main_heard {arrivals : List (Arrival Source)} {heard : List (Source × Packet)}
    (h : arrivals.map hear = heard.map .ok) :
    (main arrivals).status = .ok () ∧ (main arrivals).state.lines = linesAfter [] heard := by
  cases main_listening arrivals with
  | going heard' hheard hs hstatus =>
      rw [hheard] at h
      obtain rfl := List.map_injective_iff.mpr (fun _ _ => Outcome.ok.inj) h
      exact ⟨hstatus, hs.lines⟩
  | ended heard' e rest hheard hs hstatus =>
      have hmem : Outcome.err e ∈ heard.map (Outcome.ok (ε := ReceiverError)) := by
        rw [← h, hheard]
        exact List.mem_append_right _ (List.mem_cons_self ..)
      obtain ⟨_, -, hne⟩ := List.mem_map.mp hmem
      cases hne

/-- The receiver prints what the history of the packets it has heard says, stops at
the first arrival that it cannot read, and never panics. Nothing of an earlier
datagram is left in its buffer for a later one. -/
theorem receiver_refines_history (arrivals : List (Arrival Source)) : (main arrivals).status.Safe ∧
    ∃ heard : List (Source × Packet), (main arrivals).state.lines = linesAfter [] heard ∧
      ((arrivals.map hear = heard.map .ok ∧ (main arrivals).status = .ok ()) ∨
        ∃ e rest, arrivals.map hear = heard.map .ok ++ .err e :: rest ∧ (main arrivals).status = .err e) := by
  cases main_listening arrivals with
  | going heard hheard hs hstatus =>
      exact ⟨Outcome.safe_of_eq_ok hstatus, heard, hs.lines, .inl ⟨hheard, hstatus⟩⟩
  | ended heard e rest hheard hs hstatus =>
      refine ⟨?_, heard, hs.lines, .inr ⟨e, rest, hheard, hstatus⟩⟩
      rw [hstatus]
      exact Outcome.safe_err e

end Difi.Receiving
