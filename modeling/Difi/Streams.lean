import Difi.BodyFaults
import Difi.PacketStream

namespace Difi.Streams

open Machine PacketStreamParser Acceptance

section History

variable (options : ParseOptions)

def keyOf (p : Packet) : SequenceKey :=
  ⟨p.prologue.header.packetType, p.prologue.classId.packetClass, p.prologue.streamId⟩

def sequenceOf (p : Packet) : UInt8 := p.prologue.header.sequence

def event : Operation → Option (Event Packet)
  | .datagram bytes =>
    match Parser.parsePacketExactWithOptions bytes options with
    | .ok p => some (.observe p)
    | _ => none
  | .reset => some .reset

def accepted (run : List Operation) : List Packet := sinceReset (run.filterMap (event options))

/-- The history's answer: the last accepted packet of the same key decides. -/
def historyStatus (earlier : Option Packet) (current : Packet) : SequenceStatus :=
  match earlier with
  | none => .first
  | some earlier =>
    let s := sequenceOf earlier
    let t := sequenceOf current
    if t = s then .duplicate
    else if t.toNat = (s.toNat + 1) % 16 then .inOrder
    else .gap (UInt8.ofNat ((s.toNat + 1) % 16)) t

def statuses (key : SequenceKey) (results : List (Result ParsedDatagram)) : List SequenceStatus :=
  results.filterMap fun result => match result with
    | .ok parsed => if keyOf parsed.packet = key then some parsed.sequenceStatus else none
    | _ => none

/-- The operations that a key can tell: its own datagrams and the resets. -/
def ownRun (key : SequenceKey) (run : List Operation) : List Operation :=
  run.filter fun operation => (event options operation).any (concerns keyOf key)

end History

variable {options : ParseOptions}

theorem exact_cases (bytes : List UInt8) (options : ParseOptions) :
    (∃ p, Parser.parsePacketExactWithOptions bytes options = .ok p) ∨
      ∃ e, Parser.parsePacketExactWithOptions bytes options = .err e := by
  have hsafe : Outcome.Safe (Parser.parsePacketExactWithOptions bytes options) :=
    BodyFaults.parsePacketExact_faults.safe
  rcases h : Parser.parsePacketExactWithOptions bytes options with p | e | _
  · exact .inl ⟨p, rfl⟩
  · exact .inr ⟨e, rfl⟩
  · exact absurd h hsafe

theorem sequence_lt {bytes : List UInt8} {p : Packet}
    (h : Parser.parsePacketExactWithOptions bytes options = .ok p) : (sequenceOf p).toNat < 16 :=
  (parsePacketExact_eq_ok.mp h).1.1.prologue.header.sequence_lt

theorem parseDatagram_err {parser : PacketStreamParser} {bytes : List UInt8} {e : ParseError}
    (h : Parser.parsePacketExactWithOptions bytes parser.options = .err e) :
    parser.parseDatagram bytes = (.err e, parser) := by
  rw [parseDatagram, h]

theorem parseDatagram_ok (parser : PacketStreamParser) {bytes : List UInt8} {p : Packet}
    (h : Parser.parsePacketExactWithOptions bytes parser.options = .ok p) :
    (parser.parseDatagram bytes).1 =
        .ok ⟨p, SequenceTracker.statusAfter (parser.sequences.lastSeen (keyOf p)) (sequenceOf p)⟩ ∧
      (parser.parseDatagram bytes).2.options = parser.options ∧
      (parser.parseDatagram bytes).2.sequences.lastSeen =
        (parser.sequences.lastSeen.insert (keyOf p) (sequenceOf p)).2 := by
  have hnibble := SequenceTracker.nibble_of_lt (sequence_lt h)
  rw [parseDatagram, h]
  refine ⟨?_, rfl, ?_⟩
  · simp only [SequenceTracker.observe, SequenceTracker.observeFields_status]
    rw [show p.prologue.header.sequence = sequenceOf p from rfl, hnibble]
    rfl
  · simp only [SequenceTracker.observe, SequenceTracker.observeFields_lastSeen]
    rw [show p.prologue.header.sequence = sequenceOf p from rfl, hnibble]
    rfl

theorem parseDatagram_safe (parser : PacketStreamParser) (bytes : List UInt8) :
    (parser.parseDatagram bytes).1.Safe := by
  rcases exact_cases bytes parser.options with ⟨p, hp⟩ | ⟨e, he⟩
  · exact Outcome.safe_of_eq_ok (parseDatagram_ok parser hp).1
  · rw [parseDatagram_err he]
    exact Outcome.safe_err e

theorem perform_lastSeen (parser : PacketStreamParser) (operation : Operation) :
    (parser.perform operation).options = parser.options ∧
      (parser.perform operation).sequences.lastSeen =
        ((event parser.options operation).elim parser.sequences.lastSeen
          (parser.sequences.lastSeen.record keyOf sequenceOf)) := by
  cases operation with
  | reset => exact ⟨rfl, rfl⟩
  | datagram bytes =>
      rw [perform, event]
      rcases exact_cases bytes parser.options with ⟨p, hp⟩ | ⟨e, he⟩
      · obtain ⟨-, hoptions, hseen⟩ := parseDatagram_ok parser hp
        rw [hp]
        exact ⟨hoptions, hseen⟩
      · rw [parseDatagram_err he, he]
        exact ⟨rfl, rfl⟩

theorem performAll_lastSeen (parser : PacketStreamParser) (run : List Operation) :
    (parser.performAll run).options = parser.options ∧
      (parser.performAll run).sequences.lastSeen =
        parser.sequences.lastSeen.recordAll keyOf sequenceOf (run.filterMap (event parser.options)) := by
  induction run generalizing parser with
  | nil => exact ⟨rfl, rfl⟩
  | cons operation run ih =>
      obtain ⟨hoptions, hseen⟩ := perform_lastSeen parser operation
      obtain ⟨hrunOptions, hrunSeen⟩ := ih (parser.perform operation)
      rw [hoptions] at hrunOptions hrunSeen
      refine ⟨hrunOptions, hrunSeen.trans ?_⟩
      rw [hseen]
      cases hevent : event parser.options operation with
      | none => rw [List.filterMap_cons_none hevent, Option.elim_none]
      | some e =>
          rw [List.filterMap_cons_some hevent, Option.elim_some]
          rfl

theorem historyStatus_eq (earlier : Option Packet) (current : Packet) :
    historyStatus earlier current =
      SequenceTracker.statusAfter (earlier.map sequenceOf) (sequenceOf current) := by
  cases earlier <;> rfl

def created (options : ParseOptions) : Option Nat → PacketStreamParser
  | none => withOptions options
  | some sequenceCapacity => withOptionsAndSequenceCapacity options sequenceCapacity

theorem created_options (options : ParseOptions) (capacity : Option Nat) :
    (created options capacity).options = options := by
  cases capacity <;> rfl

theorem created_lastSeen (options : ParseOptions) (capacity : Option Nat) :
    (created options capacity).sequences.lastSeen = .empty := by
  cases capacity <;> rfl

theorem performAll_created (options : ParseOptions) (capacity : Option Nat) (run : List Operation)
    (key : SequenceKey) : ((created options capacity).performAll run).options = options ∧
      ((created options capacity).performAll run).sequences.lastSeen key =
        (latest keyOf key (accepted options run)).map sequenceOf := by
  obtain ⟨hoptions, hseen⟩ := performAll_lastSeen (created options capacity) run
  rw [created_options] at hoptions hseen
  refine ⟨hoptions, ?_⟩
  rw [hseen, created_lastSeen, Table.recordAll_eq]
  rfl

theorem results_safe (parser : PacketStreamParser) (run : List Operation) :
    ∀ result ∈ parser.results run, result.Safe := by
  induction run generalizing parser with
  | nil => simp [results]
  | cons operation run ih =>
      cases operation with
      | reset => exact ih parser.resetSequences
      | datagram bytes =>
          intro result hresult
          rcases List.mem_cons.mp hresult with rfl | hrest
          · exact parseDatagram_safe parser bytes
          · exact ih _ result hrest

theorem parser_never_panics (options : ParseOptions) :
    (∀ bytes, Parser.parsePacketPrefixWithOptions bytes options ≠ .panic) ∧
    (∀ bytes, Parser.parsePacketExactWithOptions bytes options ≠ .panic) ∧
    (∀ capacity run bytes, (((created options capacity).performAll run).parseDatagram bytes).1 ≠ .panic) ∧
    ∀ capacity run, ∀ result ∈ (created options capacity).results run, result ≠ .panic := by
  refine ⟨fun bytes => BodyFaults.parsePacketPrefix_faults.safe,
    fun bytes => BodyFaults.parsePacketExact_faults.safe,
    fun capacity run bytes => parseDatagram_safe _ bytes, fun capacity run => ?_⟩
  exact results_safe (created options capacity) run

theorem own_step {parser : PacketStreamParser} {bytes : List UInt8} {p : Packet} {key : SequenceKey}
    (hp : Parser.parsePacketExactWithOptions bytes parser.options = .ok p) (hkey : keyOf p = key)
    (run : List Operation) :
    statuses key (parser.results (.datagram bytes :: run)) =
        SequenceTracker.statusAfter (parser.sequences.lastSeen key) (sequenceOf p) ::
          statuses key ((parser.parseDatagram bytes).2.results run) ∧
      (parser.parseDatagram bytes).2.options = parser.options ∧
      (parser.parseDatagram bytes).2.sequences.lastSeen key = some (sequenceOf p) := by
  obtain ⟨hresult, hoptions, hseen⟩ := parseDatagram_ok parser hp
  subst hkey
  refine ⟨?_, hoptions, ?_⟩
  · rw [results, hresult]
    simp only [statuses, List.filterMap_cons, if_true]
  · rw [hseen, Table.insert_self]

theorem other_step {parser : PacketStreamParser} {bytes : List UInt8} {key : SequenceKey}
    (h : ∀ p, Parser.parsePacketExactWithOptions bytes parser.options = .ok p → keyOf p ≠ key)
    (run : List Operation) :
    statuses key (parser.results (.datagram bytes :: run)) =
        statuses key ((parser.parseDatagram bytes).2.results run) ∧
      (parser.parseDatagram bytes).2.options = parser.options ∧
      (parser.parseDatagram bytes).2.sequences.lastSeen key = parser.sequences.lastSeen key := by
  rcases exact_cases bytes parser.options with ⟨p, hp⟩ | ⟨e, he⟩
  · obtain ⟨hresult, hoptions, hseen⟩ := parseDatagram_ok parser hp
    have hkey := h p hp
    refine ⟨?_, hoptions, ?_⟩
    · rw [results, hresult]
      simp only [statuses, List.filterMap_cons, hkey, if_false]
    · rw [hseen, Table.insert_of_ne _ _ (Ne.symm hkey)]
  · rw [results, parseDatagram_err he]
    exact ⟨rfl, rfl, rfl⟩

theorem statuses_ownRun {parser own : PacketStreamParser} {key : SequenceKey} (run : List Operation)
    (hparser : parser.options = options) (hown : own.options = options)
    (hseen : parser.sequences.lastSeen key = own.sequences.lastSeen key) :
    statuses key (parser.results run) = statuses key (own.results (ownRun options key run)) := by
  induction run generalizing parser own with
  | nil => rfl
  | cons operation run ih =>
      cases operation with
      | reset => exact ih hparser hown rfl
      | datagram bytes =>
          by_cases h : ∃ p, Parser.parsePacketExactWithOptions bytes options = .ok p ∧ keyOf p = key
          · obtain ⟨p, hp, hkey⟩ := h
            have hkept : ownRun options key (.datagram bytes :: run) =
                .datagram bytes :: ownRun options key run := by
              apply List.filter_cons_of_pos
              simp [event, hp, concerns, hkey]
            obtain ⟨hleft, hleftOptions, hleftSeen⟩ := own_step (by rw [hparser]; exact hp) hkey run
            obtain ⟨hright, hrightOptions, hrightSeen⟩ :=
              own_step (by rw [hown]; exact hp) hkey (ownRun options key run)
            rw [hkept, hleft, hright, hseen]
            exact congrArg _ (ih (hleftOptions.trans hparser) (hrightOptions.trans hown)
              (hleftSeen.trans hrightSeen.symm))
          · have hother : ∀ p, Parser.parsePacketExactWithOptions bytes options = .ok p → keyOf p ≠ key :=
              fun p hp hkey => h ⟨p, hp, hkey⟩
            have hdropped : ownRun options key (.datagram bytes :: run) = ownRun options key run := by
              apply List.filter_cons_of_neg
              rcases exact_cases bytes options with ⟨p, hp⟩ | ⟨e, he⟩
              · simp [event, hp, concerns, hother p hp]
              · simp [event, he]
            obtain ⟨hleft, hleftOptions, hleftSeen⟩ := other_step (by rw [hparser]; exact hother) run
            rw [hdropped, hleft]
            exact ih (hleftOptions.trans hparser) hown (hleftSeen.trans hseen)

/-- Over any run the parser gives the statuses of the history, and each key the
statuses of its own datagrams alone. -/
theorem parser_refines_history (options : ParseOptions) (capacity : Option Nat) :
    (∀ run bytes,
      (∃ e, Parser.parsePacketExactWithOptions bytes options = .err e ∧
        ((created options capacity).performAll run).parseDatagram bytes =
          (.err e, (created options capacity).performAll run)) ∨
      (∃ p, Parser.parsePacketExactWithOptions bytes options = .ok p ∧
        (((created options capacity).performAll run).parseDatagram bytes).1 =
          .ok ⟨p, historyStatus (latest keyOf (keyOf p) (accepted options run)) p⟩)) ∧
    ∀ run key, statuses key ((created options capacity).results run) =
      statuses key ((created options capacity).results (ownRun options key run)) := by
  refine ⟨fun run bytes => ?_, fun run key => ?_⟩
  · rcases exact_cases bytes options with ⟨p, hp⟩ | ⟨e, he⟩
    · obtain ⟨hoptions, hseen⟩ := performAll_created options capacity run (keyOf p)
      refine .inr ⟨p, hp, ?_⟩
      rw [(parseDatagram_ok _ (by rw [hoptions]; exact hp)).1, hseen, historyStatus_eq]
    · obtain ⟨hoptions, -⟩ := performAll_lastSeen (created options capacity) run
      rw [created_options] at hoptions
      exact .inl ⟨e, he, parseDatagram_err (by rw [hoptions]; exact he)⟩
  · exact statuses_ownRun run (created_options options capacity) (created_options options capacity) rfl

end Difi.Streams
