import Difi.IqCodec
import Difi.Streams
import Difi.UdpSender
import Mathlib.Data.List.Nodup

namespace Difi.Sending

open Machine Checks Fields Layout Decoding Acceptance Preparation Storing Sampling IqCodec UdpSender

structure Timestamp where
  seconds : UInt32
  picoseconds : UInt64
  picoseconds_lt : picoseconds.toNat < 1000000000000
deriving DecidableEq, Repr

inductive Content where
  | context
  | data
deriving DecidableEq, Repr

/-- A packet of the sender, with its place in the stream of its content. -/
structure Message where
  content : Content
  place : Nat
  time : Timestamp
deriving DecidableEq, Repr

def sequenceAt (place : Nat) : UInt8 := UInt8.ofNat (place % 16)

def samplesAt (place : Nat) : List ComplexI16 := samplesForPacket (UInt64.ofNat place)

def Message.dataSpec (m : Message) : SignalDataWriteSpec :=
  signalDataSpecAt (sequenceAt m.place) m.time.seconds m.time.picoseconds

def Message.contextPacket (m : Message) : SignalContextPacket :=
  signalContextPacketAt (sequenceAt m.place) m.time.seconds m.time.picoseconds

def Message.packet (m : Message) : Packet :=
  match m.content with
  | .context => .signalContext m.contextPacket
  | .data => iqPacket m.dataSpec (samplesI16Bytes (samplesAt m.place))

def Message.datagram (m : Message) : List UInt8 := encode m.packet

section Messages

theorem sequenceAt_toNat (place : Nat) : (sequenceAt place).toNat = place % 16 := by
  rw [sequenceAt, UInt8.toNat_ofNat']
  omega

theorem sequenceAt_fits (place : Nat) : ¬sequenceAt place > 0x0F := by
  rw [gt_iff_lt, UInt8.lt_iff_toNat_lt, sequenceAt_toNat]
  exact Nat.not_lt.mpr (Nat.le_of_lt_succ (Nat.mod_lt _ (by decide)))

theorem sequenceAt_succ (place : Nat) : nextSequence (sequenceAt place) = .ok (sequenceAt (place + 1)) := by
  have hlt := sequenceAt_toNat place
  have hone : (1 : UInt8).toNat = 1 := rfl
  rw [nextSequence, addU8_ok (by omega), Outcome.ok_bind, Outcome.ok.injEq]
  apply UInt8.toNat_inj.mp
  rw [SequenceTracker.successor_toNat, sequenceAt_toNat, sequenceAt_toNat]
  omega

theorem samplesAt_length (place : Nat) : (samplesAt place).length = 2243 := by
  rw [samplesAt, samplesForPacket, List.length_map, List.length_range]
  rfl

theorem dataWritable (m : Message) :
    Writable m.dataSpec (samplesI16Bytes (samplesAt m.place)).length 2250 where
  sequence := sequenceAt_fits m.place
  size := by
    rw [samplesI16Bytes_length, samplesAt_length]
    decide
  checks := profileChecks_eq_ok.mpr ⟨rfl, rfl, rfl, rfl, rfl, rfl, rfl⟩

theorem contextPrologue_form (m : Message) : PrologueForm m.contextPacket.prologue := by
  have hword : Writer.headerWord .contextWithStreamId 1 .utc .realTimePicoseconds (sequenceAt m.place)
      signalContextWords = .ok m.contextPacket.prologue.header.raw := by
    have hbits : ¬(1 : UInt8) > 0x7 := by decide
    rw [Writer.headerWord, if_neg hbits, if_neg (sequenceAt_fits m.place)]
    rfl
  obtain ⟨hbits, hsequence, hraw⟩ := headerWord_eq_ok.mp hword
  have hpad : (0 : UInt8).toNat < 32 := by decide
  have htsm : some TimestampMode.coarse = Writer.expectedTsm .contextWithStreamId 1 := by decide
  refine ⟨⟨?_, hbits, hsequence, htsm⟩, rfl, ⟨hpad, rfl⟩⟩
  have hindicator : m.contextPacket.prologue.header.classIdIndicator.toNat * 2 ^ 27 = 2 ^ 27 := Nat.one_mul _
  rw [hindicator]
  exact hraw

theorem payloadFormat_words : PayloadFormatWords {
    rawWord0 := (0xA0000000 : UInt32) ||| ((15 : UInt32) <<< 6) ||| 15
    rawWord1 := 0
    sampleFormat := .complexSignedCartesian
    dataItemSizeBits := 16
    itemPackingFieldSizeBits := 16 } :=
  ⟨by decide, by decide, rfl, by decide, rfl⟩

theorem contextPacket_wellFormed (m : Message) : WellFormed (.signalContext m.contextPacket) where
  prologue := contextPrologue_form m
  body := {
    size := rfl
    padding := rfl
    cif0 := rfl
    bandwidth := show ((20000000 : UInt64) <<< 20).toNat % 2 ^ 20 = 0 by decide
    ifReferenceFrequency := rfl
    rfReferenceFrequency := show ((1500000000 : Int64) <<< 20).toUInt64.toNat % 2 ^ 20 = 0 by decide
    ifBandOffset := rfl
    sampleRate := show ((40000000 : UInt64) <<< 20).toNat % 2 ^ 20 = 0 by decide
    payloadFormat := payloadFormat_words }

theorem contextHeaderBits (m : Message) (packetClass : PacketClassCode) :
    StandardProfile.validateHeaderBits ⟨{}⟩ m.contextPacket.prologue.header packetClass = .ok () := by
  have hbits : ¬(1 : UInt8) &&& 0b110 ≠ 0 := by decide
  exact if_neg hbits

theorem message_form (m : Message) :
    (WellFormed m.packet ∧ Dispatched m.packet) ∧ verdict ⟨{}⟩ m.packet = .ok () := by
  obtain ⟨content, place, time⟩ := m
  cases content with
  | context =>
      refine ⟨⟨contextPacket_wellFormed _, rfl⟩, ?_⟩
      refine Outcome.check_eq_ok.mpr ⟨profileChecks_eq_ok.mpr ?_, rfl⟩
      exact ⟨rfl, rfl, rfl, contextHeaderBits _ _, rfl, rfl, rfl⟩
  | data =>
      have hwritable := dataWritable ⟨.data, place, time⟩
      refine ⟨⟨iqPacket_wellFormed hwritable, iqPacket_dispatched hwritable⟩, ?_⟩
      exact (verdict_iqPacket hwritable.words_eq).trans hwritable.checks

theorem message_accepted (m : Message) : Parser.parsePacketExact m.datagram = .ok m.packet :=
  parsePacketExact_eq_ok.mpr ⟨⟨(message_form m).1.1, (message_form m).1.2, (message_form m).2⟩, rfl⟩

theorem message_length (m : Message) :
    m.datagram.length = match m.content with
      | .context => 108
      | .data => 9000 := by
  obtain ⟨content, place, time⟩ := m
  cases content with
  | context => exact encode_length (contextPacket_wellFormed _).body
  | data =>
      refine (iqPacket_length _ _).trans ?_
      rw [samplesI16Bytes_length, samplesAt_length]

theorem writePacket_context (m : Message) (h : m.content = .context) {buffer : List UInt8}
    (hbuffer : buffer.length = 9000) : Writer.writePacket (.signalContext m.contextPacket) buffer =
      (.ok 108, m.datagram ++ buffer.drop 108) := by
  have hform := message_form m
  have hlen := message_length m
  have hdatagram : m.datagram = encode (.signalContext m.contextPacket) := by
    rw [Message.datagram, Message.packet, h]
  simp only [Message.packet, h] at hform hlen
  refine (writePacket_commits _ {}).eq_ok_iff.mpr ⟨?_, by omega, ?_⟩
  · exact encodedLen_eq_ok.mpr ⟨⟨hform.1.1, rfl, hform.2⟩, by rw [← hdatagram, hlen]⟩
  · rw [hdatagram]

theorem writeIqData_data (m : Message) (h : m.content = .data) {buffer : List UInt8}
    (hbuffer : buffer.length = 9000) : Writer.writeIqDataI16 m.dataSpec (samplesAt m.place) buffer =
      (.ok 9000, m.datagram ++ buffer.drop 9000) := by
  have hwritable := dataWritable m
  have hdatagram : m.datagram = encode (iqPacket m.dataSpec (samplesI16Bytes (samplesAt m.place))) := by
    rw [Message.datagram, Message.packet, h]
  rw [samplesI16Bytes_length] at hwritable
  refine (writeIqDataI16_commits _ _).eq_ok_iff.mpr ⟨?_, by omega, ?_⟩
  · exact encodedIqDataI16Len_eq_ok.mpr ⟨2250, hwritable, rfl⟩
  · rw [hdatagram]

def InRange (now : Option Duration) : Prop := ∃ t, now = some t ∧ t.asSecs.toNat < 2 ^ 32

theorem currentTimestamp_cases (now : Option Duration) :
    (∃ time : Timestamp, currentTimestamp now = .ok (time.seconds, time.picoseconds)) ∨
      ¬InRange now ∧ (currentTimestamp now = .err .systemTime ∨ currentTimestamp now = .err .tryFromInt) := by
  cases now with
  | none => exact .inr ⟨by simp [InRange], .inl rfl⟩
  | some now =>
      have hnanos := now.subsecNanos_lt
      have hthousand : (1000 : UInt64).toNat = 1000 := rfl
      have hwide : now.subsecNanos.toUInt64.toNat = now.subsecNanos.toNat := UInt32.toNat_toUInt64 _
      rw [currentTimestamp, Outcome.okOr_some, Outcome.ok_bind, mulU64_ok (by rw [hwide, hthousand]; omega)]
      cases hseconds : tryIntoU32 now.asSecs.toNat with
      | none =>
          refine .inr ⟨?_, .inr rfl⟩
          rintro ⟨t, ht, hlt⟩
          cases ht
          rw [tryIntoU32, if_pos hlt] at hseconds
          cases hseconds
      | some seconds =>
          refine .inl ⟨⟨seconds, now.subsecNanos.toUInt64 * 1000, ?_⟩, rfl⟩
          rw [UInt64.toNat_mul, hwide, hthousand, Nat.mod_eq_of_lt (by omega)]
          omega

end Messages

def placesOf (content : Content) (messages : List Message) : List Nat :=
  (messages.filter fun m => m.content = content).map Message.place

def countOf (content : Content) (messages : List Message) : Nat := (placesOf content messages).length

/-- Each stream is numbered from zero, in order and without a gap. -/
def Numbered (messages : List Message) : Prop :=
  ∀ content, placesOf content messages = List.range (countOf content messages)

/-- A context packet comes first, and another one after every five data packets.
The counter of the data packets wraps around beyond this bound. -/
def Scheduled (messages : List Message) : Prop :=
  ∀ i m, messages[i]? = some m → i < 2 ^ 64 → m.content = if i % 6 = 0 then .context else .data

section Log

variable {messages : List Message} {m : Message} {content : Content}

theorem placesOf_append (content : Content) (messages : List Message) (m : Message) :
    placesOf content (messages ++ [m]) =
      placesOf content messages ++ if m.content = content then [m.place] else [] := by
  rw [placesOf, List.filter_append, List.map_append, ← placesOf]
  congr 1
  by_cases h : m.content = content
  · rw [if_pos h, List.filter_cons_of_pos (by simpa using h)]
    rfl
  · rw [if_neg h, List.filter_cons_of_neg (by simpa using h)]
    rfl

theorem countOf_append (content : Content) (messages : List Message) (m : Message) :
    countOf content (messages ++ [m]) = countOf content messages + if m.content = content then 1 else 0 := by
  rw [countOf, placesOf_append, List.length_append, ← countOf]
  congr 1
  split <;> rfl

theorem countOf_length (messages : List Message) :
    countOf .context messages + countOf .data messages = messages.length := by
  induction messages using List.reverseRecOn with
  | nil => rfl
  | append_singleton messages m ih =>
      rw [countOf_append, countOf_append, List.length_append, List.length_singleton]
      cases m.content <;> simp <;> omega

theorem Numbered.append (h : Numbered messages) (hplace : m.place = countOf m.content messages) :
    Numbered (messages ++ [m]) := by
  intro content
  rw [placesOf_append, countOf_append, h content]
  by_cases hcontent : m.content = content
  · rw [if_pos hcontent, if_pos hcontent, List.range_succ, hplace, hcontent]
  · rw [if_neg hcontent, if_neg hcontent, List.append_nil, Nat.add_zero]

theorem Scheduled.append (h : Scheduled messages)
    (hnext : messages.length < 2 ^ 64 → m.content = if messages.length % 6 = 0 then .context else .data) :
    Scheduled (messages ++ [m]) := by
  intro i x hx hi
  rcases Nat.lt_trichotomy i messages.length with hlt | rfl | hgt
  · rw [List.getElem?_append_left hlt] at hx
    exact h i x hx hi
  · rw [List.getElem?_concat_length] at hx
    cases hx
    exact hnext hi
  · rw [List.getElem?_eq_none (by simp; omega)] at hx
    cases hx

theorem Scheduled.countOf_data (h : Scheduled messages) {n : Nat} (hn : n ≤ messages.length)
    (hbound : n ≤ 2 ^ 64) : countOf .data (messages.take n) + (n + 5) / 6 = n := by
  induction n with
  | zero => rfl
  | succ n ih =>
      have hcount := ih (Nat.le_of_succ_le hn) (Nat.le_of_succ_le hbound)
      have hcontent := h n messages[n] (List.getElem?_eq_getElem hn) hbound
      rw [List.take_succ_eq_append_getElem hn, countOf_append, hcontent]
      by_cases hdue : n % 6 = 0
      · rw [if_pos hdue, if_neg (by decide)]
        omega
      · rw [if_neg hdue, if_pos rfl]
        omega

theorem Scheduled.length_lt (h : Scheduled messages) (hcount : countOf .data messages < 2 ^ 63) :
    messages.length < 2 ^ 64 := by
  by_contra hlong
  have htake := h.countOf_data (Nat.le_of_not_lt hlong) (Nat.le_refl _)
  have hle : countOf .data (messages.take (2 ^ 64)) ≤ countOf .data messages :=
    (((List.take_sublist _ messages).filter _).map _).length_le
  omega

def Ordered (messages : List Message) : Prop :=
  messages.Pairwise fun e m => e.content = m.content → e.place < m.place

theorem Numbered.ordered (h : Numbered messages) : Ordered messages := by
  have hcontent : ∀ content, messages.Pairwise fun e m =>
      e.content = content → m.content = content → e.place < m.place := by
    intro content
    have hrange : (placesOf content messages).Pairwise (· < ·) := by
      rw [h content]
      exact List.pairwise_lt_range
    simpa only [placesOf, List.pairwise_map, List.pairwise_filter, decide_eq_true_eq] using hrange
  refine ((hcontent .context).and (hcontent .data)).imp ?_
  rintro e m ⟨hcontext, hdata⟩ hsame
  cases hm : m.content with
  | context => exact hcontext (hsame.trans hm) hm
  | data => exact hdata (hsame.trans hm) hm

theorem Ordered.places (h : Ordered messages) (content : Content) :
    (placesOf content messages).Pairwise (· < ·) := by
  rw [placesOf, List.pairwise_map, List.pairwise_filter]
  exact h.imp fun hlt he hm => hlt ((of_decide_eq_true he).trans (of_decide_eq_true hm).symm)

theorem mem_placesOf {k : Nat} :
    k ∈ placesOf content messages ↔ ∃ m ∈ messages, m.content = content ∧ m.place = k := by
  simp only [placesOf, List.mem_map, List.mem_filter, decide_eq_true_eq, and_assoc]

theorem Numbered.unique (h : Numbered messages) {e : Message} (he : e ∈ messages)
    (hm : m ∈ messages) (hcontent : e.content = m.content) (hplace : e.place = m.place) : e = m := by
  have hnodup : (placesOf m.content messages).Nodup := by
    rw [h m.content]
    exact List.nodup_range
  exact List.inj_on_of_nodup_map hnodup (List.mem_filter.mpr ⟨he, decide_eq_true hcontent⟩)
    (List.mem_filter.mpr ⟨hm, decide_eq_true rfl⟩) hplace

theorem Numbered.dropLast (h : Numbered (messages ++ [m])) :
    Numbered messages ∧ m.place = countOf m.content messages := by
  have hsplit : ∀ content, placesOf content messages ++ (if m.content = content then [m.place] else []) =
      List.range (countOf content messages + if m.content = content then 1 else 0) := by
    intro content
    rw [← placesOf_append, ← countOf_append]
    exact h content
  refine ⟨fun content => ?_, ?_⟩
  · have hcontent := hsplit content
    by_cases hm : m.content = content
    · rw [if_pos hm, if_pos hm, List.range_succ] at hcontent
      exact (List.append_inj' hcontent rfl).1
    · rw [if_neg hm, if_neg hm, List.append_nil, Nat.add_zero] at hcontent
      exact hcontent
  · have hcontent := hsplit m.content
    rw [if_pos rfl, if_pos rfl, List.range_succ] at hcontent
    exact List.singleton_inj.mp (List.append_inj' hcontent rfl).2

theorem Numbered.of_prefix {arrived : List Message} (h : Numbered messages) (hleft : arrived <+: messages) :
    Numbered arrived := by
  obtain ⟨rest, rfl⟩ := hleft
  induction rest using List.reverseRecOn with
  | nil => rwa [List.append_nil] at h
  | append_singleton rest m ih =>
      rw [← List.append_assoc] at h
      exact ih h.dropLast.1

theorem latest_place {e : Message} (h : Numbered messages)
    (he : latest Message.content content messages = some e) : e.place + 1 = countOf content messages := by
  have hplaces := h content
  have hlast : (placesOf content messages).getLast? = some e.place := by
    rw [placesOf, List.getLast?_map]
    exact congrArg (Option.map Message.place) he
  rw [hplaces, List.getLast?_range] at hlast
  split at hlast
  · cases hlast
  · have hsub := Option.some.inj hlast
    omega

end Log

structure Sent (messages : List Message) (s : SenderState) : Prop where
  sent : s.sent = messages.map Message.datagram
  numbered : Numbered messages
  scheduled : Scheduled messages
  buffer : s.buffer.length = 9000

structure Counted (messages : List Message) (s : SenderState) : Prop where
  contextSequence : s.contextSequence = sequenceAt (countOf .context messages)
  dataSequence : s.dataSequence = sequenceAt (countOf .data messages)
  packetCount : s.packetCount = UInt64.ofNat (countOf .data messages)

def ContextNext (messages : List Message) : Prop :=
  messages.length < 2 ^ 64 →
    5 ∣ countOf .data messages ∧ countOf .context messages = countOf .data messages / 5

def DataNext (messages : List Message) : Prop :=
  messages.length < 2 ^ 64 → countOf .context messages = countOf .data messages / 5 + 1

/-- The sender stands between two datagrams, after some messages and others with a
number of data packets among them. -/
def Between (before : List Message) (n : Nat) (next : List Message → Prop) (s : SenderState) : Prop :=
  ∃ messages, (before <+: messages ∧ countOf .data messages = countOf .data before + n) ∧ Sent messages s ∧
    Counted messages s ∧ next messages

/-- An error of the sender comes from its clock or from its socket. -/
def Outside (e : SenderError) : Prop := e = .systemTime ∨ e = .tryFromInt ∨ e = .io

/-- The clock and the socket do what the sender asks of them. -/
structure Works (moment : Moment) : Prop where
  clock : InRange moment.now
  socket : moment.taken = true

def Stopped (before : List Message) (works : Prop) (e : SenderError) (s : SenderState) : Prop :=
  (Outside e ∧ ¬works) ∧ ∃ messages, before <+: messages ∧ Sent messages s

section Turns

variable {before messages : List Message} {s : SenderState} {works : Prop}

theorem send_taken {moment : Moment} {len : Nat} (hlen : len ≤ s.buffer.length) (h : moment.taken = true) :
    send moment len s = (.ok (), { s with sent := s.sent ++ [s.buffer.take len] }) := by
  rw [send, Effect.get_bind, sliceTo_ok hlen, Effect.lift_bind_ok, if_pos h]
  rfl

theorem send_failed {moment : Moment} {len : Nat} (hlen : len ≤ s.buffer.length) (h : ¬moment.taken = true) :
    send moment len s = (.err .io, s) := by
  rw [send, Effect.get_bind, sliceTo_ok hlen, Effect.lift_bind_ok, if_neg h]
  rfl

def loaded (s : SenderState) (m : Message) : SenderState :=
  { s with buffer := m.datagram ++ s.buffer.drop m.datagram.length }

theorem loaded_length {m : Message} (hs : s.buffer.length = 9000) : (loaded s m).buffer.length = 9000 := by
  have hlen := message_length m
  rw [loaded, List.length_append, List.length_drop]
  cases hcontent : m.content <;> simp only [hcontent] at hlen <;> omega

theorem send_loaded (hbefore : before <+: messages) (hs : Sent messages s) {moment : Moment}
    (hworks : works → Works moment) (m : Message) (hplace : m.place = countOf m.content messages)
    (hnext : messages.length < 2 ^ 64 → m.content = if messages.length % 6 = 0 then .context else .data) :
    (∃ t, send moment m.datagram.length (loaded s m) = (.ok (), t) ∧ Sent (messages ++ [m]) t ∧
      t.contextSequence = s.contextSequence ∧ t.dataSequence = s.dataSequence ∧ t.packetCount = s.packetCount) ∨
      ∃ e t, send moment m.datagram.length (loaded s m) = (.err e, t) ∧ Stopped before works e t := by
  have hlength := loaded_length (m := m) hs.buffer
  have hfits : m.datagram.length ≤ (loaded s m).buffer.length := by
    rw [loaded, List.length_append]
    exact Nat.le_add_right _ _
  by_cases htaken : moment.taken = true
  · refine .inl ⟨_, send_taken hfits htaken, ⟨?_, hs.numbered.append hplace, hs.scheduled.append hnext, hlength⟩,
      rfl, rfl, rfl⟩
    rw [List.map_append, ← hs.sent]
    exact congrArg (s.sent ++ [·]) List.take_left
  · exact .inr ⟨_, _, send_failed hfits htaken, ⟨.inr (.inr rfl), fun h => htaken (hworks h).socket⟩, messages,
      hbefore, hs.sent, hs.numbered, hs.scheduled, hlength⟩

theorem stopped_clock (hbefore : before <+: messages) (hs : Sent messages s) {moment : Moment}
    (hworks : works → Works moment) (hclock : ¬InRange moment.now) {e : SenderError}
    (he : e = .systemTime ∨ e = .tryFromInt) : Stopped before works e s := by
  refine ⟨⟨?_, fun h => hclock (hworks h).clock⟩, messages, hbefore, hs⟩
  rcases he with rfl | rfl
  · exact .inl rfl
  · exact .inr (.inl rfl)

theorem onBuffer_loaded {w : Mut UInt8 WriteError Nat} {m : Message}
    (h : w s.buffer = (.ok m.datagram.length, m.datagram ++ s.buffer.drop m.datagram.length)) :
    onBuffer w s = (.ok m.datagram.length, loaded s m) := by
  rw [onBuffer, h]
  rfl

theorem sendSignalContext_run (hbefore : before <+: messages) (hs : Sent messages s)
    (hcounted : Counted messages s) (hnext : ContextNext messages) {moment : Moment}
    (hworks : works → Works moment) :
    (∃ m t, m.content = .context ∧ sendSignalContext s.contextSequence moment s = (.ok (), t) ∧
      Sent (messages ++ [m]) t ∧ t.contextSequence = s.contextSequence ∧ t.dataSequence = s.dataSequence ∧
      t.packetCount = s.packetCount) ∨
      ∃ e t, sendSignalContext s.contextSequence moment s = (.err e, t) ∧ Stopped before works e t := by
  rw [sendSignalContext]
  rcases currentTimestamp_cases moment.now with ⟨time, htime⟩ | ⟨hclock, htime⟩
  · have hlen : (Message.mk .context (countOf .context messages) time).datagram.length = 108 := message_length _
    have hwrite := writePacket_context ⟨.context, countOf .context messages, time⟩ rfl hs.buffer
    rw [← hlen] at hwrite
    have hturn := send_loaded hbefore hs hworks ⟨.context, countOf .context messages, time⟩ rfl (fun hshort => by
      obtain ⟨hwhole, hcount⟩ := hnext hshort
      have htotal := countOf_length messages
      rw [if_pos (by omega)])
    have hpacket : signalContextPacket s.contextSequence moment.now =
        .ok (Message.mk .context (countOf .context messages) time).contextPacket := by
      rw [signalContextPacket, htime, hcounted.contextSequence]
      rfl
    rw [hpacket, Effect.lift_bind_ok, Effect.bind_of_ok (onBuffer_loaded hwrite)]
    rcases hturn with ⟨t, hrun, ht⟩ | hfailed
    · exact .inl ⟨_, t, rfl, hrun, ht⟩
    · exact .inr hfailed
  · rcases htime with htime | htime
    · rw [signalContextPacket, htime, Outcome.err_bind, Effect.lift_bind_err]
      exact .inr ⟨_, s, rfl, stopped_clock hbefore hs hworks hclock (.inl rfl)⟩
    · rw [signalContextPacket, htime, Outcome.err_bind, Effect.lift_bind_err]
      exact .inr ⟨_, s, rfl, stopped_clock hbefore hs hworks hclock (.inr rfl)⟩

theorem contextTurn_ensures (before : List Message) (n : Nat) {moment : Moment} (hworks : works → Works moment) :
    Effect.Ensures (Between before n ContextNext) (contextTurn moment) (fun _ => Between before n DataNext)
      (Stopped before works) := by
  rintro s ⟨messages, ⟨hbefore, hdatas⟩, hs, hcounted, hnext⟩
  rw [contextTurn, Effect.get_bind]
  rcases sendSignalContext_run hbefore hs hcounted hnext hworks with
    ⟨m, t, hcontent, hrun, ht, hcontext, hdata, hcount⟩ | ⟨e, t, hrun, ht⟩
  · have hsucc := sequenceAt_succ (countOf .context messages)
    rw [Effect.bind_of_ok hrun, hcounted.contextSequence, hsucc, Effect.lift_bind_ok]
    refine .inl ⟨(), _, rfl, messages ++ [m], ⟨hbefore.trans (List.prefix_append _ _), ?_⟩,
      ⟨ht.sent, ht.numbered, ht.scheduled, ht.buffer⟩, ⟨?_, ?_, ?_⟩, ?_⟩
    · rw [countOf_append, hcontent, if_neg (by decide)]
      exact hdatas
    · rw [countOf_append, hcontent, if_pos rfl]
    · rw [countOf_append, hcontent, if_neg (by decide)]
      exact hdata.trans hcounted.dataSequence
    · rw [countOf_append, hcontent, if_neg (by decide)]
      exact hcount.trans hcounted.packetCount
    · intro hshort
      rw [List.length_append, List.length_singleton] at hshort
      have hbefore := hnext (by omega)
      rw [countOf_append, countOf_append, hcontent, if_pos rfl, if_neg (by decide)]
      omega
  · rw [Effect.bind_of_err hrun]
    exact .inr ⟨e, t, rfl, ht⟩

def DataDone (messages : List Message) : Prop :=
  messages.length < 2 ^ 64 → 0 < countOf .data messages ∧
    countOf .context messages = (countOf .data messages - 1) / 5 + 1

theorem dataTurn_ensures (before : List Message) (n : Nat) {moment : Moment} (hworks : works → Works moment) :
    Effect.Ensures (Between before n DataNext) (dataTurn moment) (fun _ => Between before (n + 1) DataDone)
      (Stopped before works) := by
  rintro s ⟨messages, ⟨hbefore, hdatas⟩, hs, hcounted, hnext⟩
  have hother : ¬Content.data = Content.context := by decide
  rw [dataTurn, Effect.get_bind]
  rcases currentTimestamp_cases moment.now with ⟨time, htime⟩ | ⟨hclock, htime⟩
  · have hlen : (Message.mk .data (countOf .data messages) time).datagram.length = 9000 := message_length _
    have hwrite := writeIqData_data ⟨.data, countOf .data messages, time⟩ rfl hs.buffer
    have hassert : (debugAssert (9000 = udpDatagramBytes) : SenderResult Unit) = .ok () := rfl
    rw [← hlen] at hwrite hassert
    have hturn := send_loaded hbefore hs hworks ⟨.data, countOf .data messages, time⟩ rfl (fun hshort => by
      have hcount := hnext hshort
      have htotal := countOf_length messages
      rw [if_neg (by omega)])
    have hspec : signalDataSpec s.dataSequence moment.now =
        .ok (Message.mk .data (countOf .data messages) time).dataSpec := by
      rw [signalDataSpec, htime, hcounted.dataSequence]
      rfl
    have hsamples : samplesForPacket s.packetCount =
        samplesAt (Message.mk .data (countOf .data messages) time).place := by
      rw [hcounted.packetCount]
      rfl
    rw [hspec, Effect.lift_bind_ok, hsamples, Effect.bind_of_ok (onBuffer_loaded hwrite), hassert,
      Effect.lift_bind_ok, hcounted.dataSequence]
    rcases hturn with ⟨t, hrun, ht, hcontext, hdata, hcount⟩ | ⟨e, t, hrun, ht⟩
    · have hsucc := sequenceAt_succ (countOf .data messages)
      rw [Effect.bind_of_ok hrun, hsucc, Effect.lift_bind_ok]
      refine .inl ⟨(), _, rfl, messages ++ [⟨.data, countOf .data messages, time⟩],
        ⟨hbefore.trans (List.prefix_append _ _), ?_⟩, ⟨ht.sent, ht.numbered, ht.scheduled, ht.buffer⟩,
        ⟨?_, ?_, ?_⟩, ?_⟩
      · rw [countOf_append, if_pos rfl, hdatas, Nat.add_assoc]
      · rw [countOf_append, if_neg hother]
        exact hcontext.trans hcounted.contextSequence
      · rw [countOf_append, if_pos rfl]
      · rw [countOf_append, if_pos rfl]
        simp only
        rw [hcount, hcounted.packetCount, UInt64.ofNat_add]
        rfl
      · intro hshort
        rw [List.length_append, List.length_singleton] at hshort
        have hbefore := hnext (by omega)
        rw [countOf_append, countOf_append, if_pos rfl, if_neg hother, hbefore]
        exact ⟨Nat.succ_pos _, rfl⟩
    · rw [Effect.bind_of_err hrun]
      exact .inr ⟨e, t, rfl, ht⟩
  · rcases htime with htime | htime
    · rw [signalDataSpec, htime, Outcome.err_bind, Effect.lift_bind_err]
      exact .inr ⟨_, s, rfl, stopped_clock hbefore hs hworks hclock (.inl rfl)⟩
    · rw [signalDataSpec, htime, Outcome.err_bind, Effect.lift_bind_err]
      exact .inr ⟨_, s, rfl, stopped_clock hbefore hs hworks hclock (.inr rfl)⟩

theorem packetCount_due {n : Nat} (h : n < 2 ^ 64) : UInt64.ofNat n % 5 = 0 ↔ n % 5 = 0 := by
  rw [← UInt64.toNat_inj, UInt64.toNat_mod, UInt64.toNat_ofNat_of_lt' h]
  rfl

theorem round_ensures (before : List Message) {data context : Moment} (hdata : works → Works data)
    (hcontext : works → Works context) : Effect.Ensures (Between before 0 DataNext) (round data context)
      (fun _ => Between before 1 DataNext) (Stopped before works) := by
  refine (dataTurn_ensures before 0 hdata).bind fun _ => ?_
  rintro s ⟨messages, hbefore, hs, hcounted, hdone⟩
  have htotal := countOf_length messages
  rw [Effect.get_bind, hcounted.packetCount]
  by_cases hdue : UInt64.ofNat (countOf .data messages) % 5 = 0
  · rw [if_pos hdue]
    refine contextTurn_ensures before 1 hcontext s ⟨messages, hbefore, hs, hcounted, fun hshort => ?_⟩
    have hcount := hdone hshort
    have hfive := (packetCount_due (by omega)).mp hdue
    omega
  · rw [if_neg hdue]
    refine .inl ⟨(), s, rfl, messages, hbefore, hs, hcounted, fun hshort => ?_⟩
    have hcount := hdone hshort
    have hfive := mt (packetCount_due (by omega)).mpr hdue
    omega

/-- The sender runs after its messages, or has been stopped after them. -/
def Holding (messages : List Message) (p : Process SenderState SenderError) : Prop :=
  p.Holds (fun s => Sent messages s ∧ Counted messages s ∧ DataNext messages)
    fun e s => Outside e ∧ Sent messages s

theorem Holding.sent {p : Process SenderState SenderError} (h : Holding messages p) : Sent messages p.state :=
  h.both (fun _ hs => hs.1) (fun _ _ hs => hs.2)

theorem Holding.next {p : Process SenderState SenderError} (h : Holding messages p) (hstatus : p.status = .ok ()) :
    DataNext messages := by
  rcases h with ⟨-, hs⟩ | ⟨e, he, -⟩
  · exact hs.2.2
  · rw [he] at hstatus
    cases hstatus

theorem Holding.contexts {p : Process SenderState SenderError} (h : Holding messages p)
    (hstatus : p.status = .ok ()) {datas : Nat} (hdatas : countOf .data messages = datas) (hshort : datas < 2 ^ 63) :
    countOf .context messages = datas / 5 + 1 := by
  rw [← hdatas] at hshort ⊢
  exact h.next hstatus (h.sent.scheduled.length_lt hshort)

theorem Holding.round {p : Process SenderState SenderError} (h : Holding messages p) (data context : Moment) :
    ∃ messages', messages <+: messages' ∧ Holding messages' (p.perform (UdpSender.round data context)) ∧
      ((p.perform (UdpSender.round data context)).status = .ok () →
        p.status = .ok () ∧ countOf .data messages' = countOf .data messages + 1) ∧
      (p.status = .ok () → Works data → Works context →
        (p.perform (UdpSender.round data context)).status = .ok ()) := by
  obtain ⟨s, status⟩ := p
  rcases h with ⟨rfl, hs⟩ | ⟨e, rfl, hs⟩
  · have hround := round_ensures messages (fun h : Works data ∧ Works context => h.1) (fun h => h.2) s
      ⟨messages, ⟨List.prefix_rfl, rfl⟩, hs⟩
    rw [Process.perform_running]
    rcases hround with ⟨_, t, hrun, messages', ⟨hleft, hdatas⟩, ht⟩ | ⟨e, t, hrun, ⟨houtside, hfails⟩, messages',
      hleft, ht⟩
    · rw [hrun]
      exact ⟨messages', hleft, .inl ⟨rfl, ht⟩, fun _ => ⟨rfl, hdatas⟩, fun _ _ _ => rfl⟩
    · rw [hrun]
      refine ⟨messages', hleft, .inr ⟨e, rfl, houtside, ht⟩, fun h => ?_, fun _ hdata hcontext => ?_⟩
      · cases h
      · exact absurd ⟨hdata, hcontext⟩ hfails
  · rw [Process.perform_ended]
    refine ⟨messages, List.prefix_rfl, .inr ⟨e, rfl, hs⟩, fun h => ?_, fun h => ?_⟩
    · cases h
    · cases h

theorem begin_holding (moment : Moment) : ∃ messages, Holding messages (begin moment) ∧
    ((begin moment).status = .ok () → countOf .data messages = 0) ∧
    (Works moment → (begin moment).status = .ok ()) := by
  have hinitial : Between [] 0 ContextNext .initial := by
    refine ⟨[], ⟨List.prefix_rfl, rfl⟩, ?_, ⟨rfl, rfl, rfl⟩, fun _ => ⟨⟨0, rfl⟩, rfl⟩⟩
    exact ⟨rfl, fun _ => rfl, fun i m hm => by simp at hm, List.length_replicate⟩
  rw [begin, Process.perform_running]
  rcases contextTurn_ensures [] 0 (fun h : Works moment => h) _ hinitial with
    ⟨_, t, hrun, messages, ⟨-, hdatas⟩, ht⟩ | ⟨e, t, hrun, ⟨houtside, hfails⟩, messages, -, ht⟩
  · rw [hrun]
    exact ⟨messages, .inl ⟨rfl, ht⟩, fun _ => hdatas, fun _ => rfl⟩
  · rw [hrun]
    refine ⟨messages, .inr ⟨e, rfl, houtside, ht⟩, fun h => ?_, fun h => absurd h hfails⟩
    cases h

/-- Whatever its clock and its socket do, the sender runs after its messages or has
been stopped after them. While they work it runs, with a data packet a round. -/
theorem main_holding (moment : Moment) (rounds : List (Moment × Moment)) :
    ∃ messages, Holding messages (main moment rounds) ∧
      ((main moment rounds).status = .ok () → countOf .data messages = rounds.length) ∧
      (Works moment → (∀ r ∈ rounds, Works r.1 ∧ Works r.2) → (main moment rounds).status = .ok ()) := by
  induction rounds using List.reverseRecOn with
  | nil =>
      obtain ⟨messages, hholding, hdatas, hworks⟩ := begin_holding moment
      exact ⟨messages, hholding, hdatas, fun hmoment _ => hworks hmoment⟩
  | append_singleton rounds moments ih =>
      obtain ⟨messages, hholding, hdatas, hworks⟩ := ih
      obtain ⟨messages', -, hround, hcount, hruns⟩ := hholding.round moments.1 moments.2
      rw [main, List.foldl_append]
      refine ⟨messages', hround, fun hstatus => ?_, fun hmoment hall => ?_⟩
      · obtain ⟨hbefore, hcount⟩ := hcount hstatus
        rw [hcount, hdatas hbefore, List.length_append, List.length_singleton]
      · have hlast := hall moments (List.mem_append_right _ (List.mem_singleton_self _))
        exact hruns (hworks hmoment fun r hr => hall r (List.mem_append_left _ hr)) hlast.1 hlast.2

theorem main_sent_length {moment : Moment} {rounds : List (Moment × Moment)} (hmoment : Works moment)
    (hrounds : ∀ r ∈ rounds, Works r.1 ∧ Works r.2) (hshort : rounds.length < 2 ^ 63) :
    (main moment rounds).state.sent.length = rounds.length + rounds.length / 5 + 1 := by
  obtain ⟨messages, hholding, hdatas, hworks⟩ := main_holding moment rounds
  have hstatus := hworks hmoment hrounds
  have hcontexts := hholding.contexts hstatus (hdatas hstatus) hshort
  have hdata := hdatas hstatus
  rw [hholding.sent.sent, List.length_map, ← countOf_length]
  omega

end Turns

section Samples

def rampAt (place : Nat) : Int := ((place % 64 : Nat) - 32) * 512

theorem ofInt_toInt {i : Int} (hlow : -32768 ≤ i) (hhigh : i < 32768) : (Int16.ofInt i).toInt = i :=
  Int16.toInt_ofInt_of_le hlow hhigh

/-- The samples go on where those of the packet before began one value earlier,
also when the counter of the packets has wrapped around. -/
theorem samplesAt_ramp (place : Nat) {index : Nat} (h : index < 2243) :
    ∃ sample, (samplesAt place)[index]? = some sample ∧ sample.i.toInt = rampAt (place + index) ∧
      sample.q.toInt = -rampAt (place + index) := by
  have hsum : ((UInt64.ofNat place + UInt64.ofNat index) % 64).toNat = (place + index) % 64 := by
    have hbase : (64 : UInt64).toNat = 64 := rfl
    rw [UInt64.toNat_mod, hbase, ← UInt64.ofNat_add, UInt64.toNat_ofNat']
    omega
  have hramp : (((UInt64.ofNat place + UInt64.ofNat index) % 64).toNat - 32 : Int) * 512 =
      rampAt (place + index) := by
    rw [hsum, rampAt]
  have hbound : -32768 < rampAt (place + index) ∧ rampAt (place + index) < 32768 := by
    unfold rampAt
    omega
  refine ⟨⟨Int16.ofInt (rampAt (place + index)), Int16.ofInt (-rampAt (place + index))⟩, ?_,
    ofInt_toInt (by omega) (by omega), ofInt_toInt (by omega) (by omega)⟩
  have hrange : (List.range samplesPerPacket)[index]? = some index := List.getElem?_range h
  rw [samplesAt, samplesForPacket, List.getElem?_map, hrange, Option.map_some, hramp]

end Samples

/-- What a receiver can read from a message. -/
structure Readable (m : Message) : Prop where
  accepted : Parser.parsePacketExact m.datagram = .ok m.packet
  stream : m.packet.prologue.streamId = 0x01020304
  sequence : m.packet.prologue.header.sequence.toNat = m.place % 16
  seconds : m.packet.prologue.integerSecondsTimestamp = m.time.seconds
  picoseconds : m.packet.prologue.fractionalSecondsTimestamp = m.time.picoseconds
  size : m.datagram.length = match m.content with
    | .context => 108
    | .data => 9000
  samples : m.content = .data → ∃ p it, m.packet = .signalData p ∧ iqI16Samples p.payload = .ok it ∧
    ∀ xs, Yields it xs ↔ xs = samplesAt m.place

theorem message_readable (m : Message) : Readable m where
  accepted := message_accepted m
  stream := by
    obtain ⟨content, place, time⟩ := m
    cases content <;> rfl
  sequence := by
    obtain ⟨content, place, time⟩ := m
    cases content <;> exact sequenceAt_toNat place
  seconds := by
    obtain ⟨content, place, time⟩ := m
    cases content <;> rfl
  picoseconds := by
    obtain ⟨content, place, time⟩ := m
    cases content <;> rfl
  size := message_length m
  samples hcontent := by
    have hwhole : 4 ∣ (samplesI16Bytes (samplesAt m.place)).length := ⟨_, samplesI16Bytes_length _⟩
    obtain ⟨it, hopen, hyields⟩ := flowI16.opens _ hwhole
    have hdecode : SampleCodec.codecI16.decodeAll (samplesI16Bytes (samplesAt m.place)) = samplesAt m.place :=
      SampleCodec.codecI16.decodeAll_encodeAll (by decide) _
    rw [hdecode] at hyields
    have hpacket : m.packet = iqPacket m.dataSpec (samplesI16Bytes (samplesAt m.place)) := by
      rw [Message.packet, hcontent]
    refine ⟨_, it, hpacket.trans rfl, ?_, hyields.iff⟩
    dsimp only
    exact hopen

/-- Whatever its clock and its socket do, the sender never panics and never fails
to write. It is stopped by its clock or by its socket alone, and what it has sent
until then are packets that a receiver can read, numbered and in order. While clock
and socket work it is not stopped, and sends a data packet each round. -/
theorem sender_run (moment : Moment) (rounds : List (Moment × Moment)) :
    (main moment rounds).status.Safe ∧ (∀ e, (main moment rounds).status = .err e → Outside e) ∧
      (Works moment → (∀ r ∈ rounds, Works r.1 ∧ Works r.2) → (main moment rounds).status = .ok ()) ∧
      ∃ messages, (main moment rounds).state.sent = messages.map Message.datagram ∧ Numbered messages ∧
        Scheduled messages ∧ (∀ m ∈ messages, Readable m) ∧
        ((main moment rounds).status = .ok () → countOf .data messages = rounds.length ∧
          (rounds.length < 2 ^ 63 → countOf .context messages = rounds.length / 5 + 1)) := by
  obtain ⟨messages, hholding, hdatas, hworks⟩ := main_holding moment rounds
  have hs := hholding.sent
  exact ⟨hholding.safe, fun e he => (hholding.ended he).1, hworks, messages, hs.sent, hs.numbered, hs.scheduled,
    fun m _ => message_readable m, fun hstatus => ⟨hdatas hstatus, hholding.contexts hstatus (hdatas hstatus)⟩⟩

/-- At any point of a run, each data packet sent is read back by the parser and the
sample iterator as a stretch of the ramp, one value further than that of the
data packet before it. -/
theorem sender_samples (moment : Moment) (rounds : List (Moment × Moment)) :
    ∃ messages, (main moment rounds).state.sent = messages.map Message.datagram ∧
      ∀ before m after, messages = before ++ m :: after → m.content = .data → ∃ p it xs,
        Parser.parsePacketExact m.datagram = .ok (.signalData p) ∧ iqI16Samples p.payload = .ok it ∧
        (∀ ys, Yields it ys ↔ ys = xs) ∧ xs.length = 2243 ∧ ∀ index sample, xs[index]? = some sample →
          sample.i.toInt = rampAt (countOf .data before + index) ∧
          sample.q.toInt = -rampAt (countOf .data before + index) := by
  obtain ⟨messages, hholding, -, -⟩ := main_holding moment rounds
  refine ⟨messages, hholding.sent.sent, ?_⟩
  rintro before m after rfl hdata
  have hleft : before ++ [m] <+: before ++ m :: after := ⟨after, by simp⟩
  have hplace := (hholding.sent.numbered.of_prefix hleft).dropLast.2
  rw [hdata] at hplace
  have hreadable := message_readable m
  obtain ⟨p, it, hpacket, hopen, hyields⟩ := hreadable.samples hdata
  have haccepted := hreadable.accepted
  rw [hpacket] at haccepted
  refine ⟨p, it, samplesAt m.place, haccepted, hopen, hyields, samplesAt_length _,
    fun index sample hsample => ?_⟩
  obtain ⟨hlt, -⟩ := List.getElem?_eq_some_iff.mp hsample
  rw [samplesAt_length] at hlt
  obtain ⟨ramped, hramped, hi, hq⟩ := samplesAt_ramp m.place hlt
  rw [hsample] at hramped
  cases hramped
  rw [← hplace]
  exact ⟨hi, hq⟩

end Difi.Sending
