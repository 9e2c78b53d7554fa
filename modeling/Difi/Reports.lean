import Difi.Machine.Places
import Difi.Receiving
import Difi.Sending

namespace Difi.Reports

open Machine Streams Sending UdpReceiver Receiving

variable {Source : Type}

theorem message_heard (source : Source) (m : Message) :
    hear (some (source, m.datagram)) = .ok (source, m.packet) := by
  have hlen := message_length m
  have hle : m.datagram.length ≤ 9000 := by
    cases hcontent : m.content <;> simp only [hcontent] at hlen <;> omega
  rw [hear, List.take_of_length_le hle, message_accepted]
  rfl

section Observation

variable {messages arrived earlier : List Message}

/-- What is printed before a message about the messages of its content that were
lost since an earlier one. -/
def report (source : Source) (earlier : Option Message) (m : Message) : List (Line Source) :=
  earlier.elim [] fun earlier =>
    if (m.place - earlier.place - 1) % 16 = 0 then []
    else if (m.place - earlier.place - 1) % 16 = 15 then [.duplicate source]
    else [.gap source (sequenceAt (earlier.place + 1)) (sequenceAt m.place)]

def printed (m : Message) : List (Line Source) :=
  match m.content with
  | .context => []
  | .data => [.signalData 0x01020304 8972]

/-- The lines for messages that arrive after earlier ones. -/
def observed (source : Source) : List Message → List Message → List (Line Source)
  | _, [] => []
  | earlier, m :: arrived =>
    report source (latest Message.content m.content earlier) m ++ printed m ++
      observed source (earlier ++ [m]) arrived

theorem keyOf_message (m : Message) : keyOf m.packet =
    match m.content with
    | .context => ⟨.contextWithStreamId, .standardFlowSignalContext, 0x01020304⟩
    | .data => ⟨.signalDataWithStreamId, .standardFlowSignalData, 0x01020304⟩ := by
  obtain ⟨content, place, time⟩ := m
  cases content <;> rfl

theorem keyOf_message_iff (m e : Message) : keyOf e.packet = keyOf m.packet ↔ e.content = m.content := by
  rw [keyOf_message, keyOf_message]
  cases m.content <;> cases e.content <;> decide

theorem sequenceOf_message (m : Message) : sequenceOf m.packet = sequenceAt m.place := by
  obtain ⟨content, place, time⟩ := m
  cases content <;> rfl

theorem announcement_message (m : Message) : (announcement m.packet : List (Line Source)) = printed m := by
  obtain ⟨content, place, time⟩ := m
  cases content with
  | context => rfl
  | data =>
      have hlen : (Sampling.samplesI16Bytes (samplesAt place)).length = 8972 := by
        rw [Sampling.samplesI16Bytes_length, samplesAt_length]
      simp only [Message.packet, Sampling.iqPacket, announcement, hlen, printed]
      rfl

theorem complaint_report (source : Source) {e m : Message} (h : e.place < m.place) :
    complaint source (historyStatus (some e.packet) m.packet) = report source (some e) m := by
  have hduplicate : sequenceAt m.place = sequenceAt e.place ↔ (m.place - e.place - 1) % 16 = 15 := by
    rw [← UInt8.toNat_inj, sequenceAt_toNat, sequenceAt_toNat]
    omega
  have horder : (sequenceAt m.place).toNat = ((sequenceAt e.place).toNat + 1) % 16 ↔
      (m.place - e.place - 1) % 16 = 0 := by
    rw [sequenceAt_toNat, sequenceAt_toNat]
    omega
  have hexpected : UInt8.ofNat (((sequenceAt e.place).toNat + 1) % 16) = sequenceAt (e.place + 1) := by
    rw [sequenceAt_toNat, Nat.mod_add_mod, sequenceAt]
  rw [historyStatus, report, Option.elim_some, sequenceOf_message, sequenceOf_message]
  simp only [hduplicate, horder, hexpected]
  by_cases hzero : (m.place - e.place - 1) % 16 = 0
  · rw [if_neg (by omega), if_pos hzero, if_pos hzero]
    rfl
  · rw [if_neg hzero, if_neg hzero]
    split <;> rfl

theorem linesAfter_observed (source : Source) (h : Ordered (earlier ++ arrived)) :
    linesAfter (earlier.map Message.packet) (arrived.map fun m => (source, m.packet)) =
      observed source earlier arrived := by
  induction arrived generalizing earlier with
  | nil => rfl
  | cons m arrived ih =>
      have hlatest : latest keyOf (keyOf m.packet) (earlier.map Message.packet) =
          (latest Message.content m.content earlier).map Message.packet :=
        latest_map fun e _ => keyOf_message_iff m e
      have hreport : complaint source
          (historyStatus ((latest Message.content m.content earlier).map Message.packet) m.packet) =
            report source (latest Message.content m.content earlier) m := by
        cases he : latest Message.content m.content earlier with
        | none => rfl
        | some e =>
            have hmem := List.mem_filter.mp (List.mem_of_getLast? he)
            refine complaint_report source ((List.pairwise_append.mp h).2.2 e hmem.1 m (List.mem_cons_self ..) ?_)
            simpa using hmem.2
      rw [List.append_cons] at h
      rw [List.map_cons, linesAfter, observed, hlatest, hreport, announcement_message, ← ih h, List.map_append]
      rfl

theorem observed_append (source : Source) (earlier arrived : List Message) (m : Message) :
    observed source earlier (arrived ++ [m]) = observed source earlier arrived ++
      (report source (latest Message.content m.content (earlier ++ arrived)) m ++ printed m) := by
  induction arrived generalizing earlier with
  | nil => simp only [List.nil_append, observed, List.append_nil]
  | cons x arrived ih =>
      rw [List.cons_append, observed, observed, ih, List.append_assoc, List.append_assoc, List.append_assoc,
        List.append_assoc]
      rfl

theorem observed_all (source : Source) (h : Numbered arrived) :
    observed source [] arrived = arrived.flatMap printed := by
  induction arrived using List.reverseRecOn with
  | nil => rfl
  | append_singleton arrived m ih =>
      obtain ⟨harrived, hplace⟩ := h.dropLast
      have hreport : report source (latest Message.content m.content arrived) m = [] := by
        cases he : latest Message.content m.content arrived with
        | none => rfl
        | some e =>
            have hnext := latest_place harrived he
            rw [report, Option.elim_some, if_pos (by omega)]
      rw [observed_append, List.nil_append, hreport, ih harrived, List.flatMap_append, List.nil_append,
        List.flatMap_singleton]

end Observation

def announced : Line Source → Option (UInt32 × Nat)
  | .signalData streamId payloadBytes => some (streamId, payloadBytes)
  | .duplicate _ | .gap _ _ _ => none

theorem announced_lines (source : Source) (earlier : List Packet) (arrived : List Message) :
    (linesAfter earlier (arrived.map fun m => (source, m.packet))).filterMap announced =
      (arrived.filter fun m => m.content = .data).map fun _ => (0x01020304, 8972) := by
  induction arrived generalizing earlier with
  | nil => rfl
  | cons m arrived ih =>
      have hcomplaint : ∀ status, (complaint source status).filterMap announced = [] := by
        intro status
        cases status <;> rfl
      rw [List.map_cons, linesAfter, List.filterMap_append, List.filterMap_append, hcomplaint, ih,
        announcement_message, printed, List.nil_append]
      cases hcontent : m.content with
      | context => rw [List.filter_cons_of_neg (by rw [hcontent]; decide)]; rfl
      | data => rw [List.filter_cons_of_pos (by rw [hcontent]; decide)]; rfl

section Losses

variable {arrived : List Message}

/-- The number of lost messages that a line stands for. -/
def lossOfLine : Line Source → Nat
  | .duplicate _ => 15
  | .gap _ expected actual => (actual.toNat + 16 - expected.toNat) % 16
  | .signalData _ _ => 0

def missing (content : Content) (arrived : List Message) : Nat := missingBetween (placesOf content arrived)

/-- The messages of one content that have not arrived, though an earlier and a later
one of it have. -/
def lostBetween (content : Content) (messages arrived : List Message) : Nat :=
  messages.countP fun m => m.content = content ∧ m ∉ arrived ∧
    (∃ e ∈ arrived, e.content = content ∧ e.place < m.place) ∧
      ∃ l ∈ arrived, l.content = content ∧ m.place < l.place

/-- No more than fifteen messages of one content are lost in a row. -/
def ShortLosses (arrived : List Message) : Prop :=
  ∀ content, (placesOf content arrived).IsChain fun i j => j ≤ i + 16

theorem report_loss (source : Source) (earlier : Option Message) (m : Message) :
    ((report source earlier m).map lossOfLine).sum =
      (earlier.elim 0 fun e => m.place - e.place - 1) % 16 := by
  cases earlier with
  | none => rfl
  | some e =>
      rw [report, Option.elim_some, Option.elim_some]
      split
      next hzero => exact hzero.symm
      next hnonzero =>
          split
          next hduplicate => exact hduplicate.symm
          next =>
              simp only [List.map_cons, List.map_nil, List.sum_cons, List.sum_nil, lossOfLine, sequenceAt_toNat]
              omega

theorem printed_loss (m : Message) : ((printed m : List (Line Source)).map lossOfLine).sum = 0 := by
  rw [printed]
  cases m.content <;> rfl

theorem latest_getLast (content : Content) (arrived : List Message) :
    (latest Message.content content arrived).map Message.place = (placesOf content arrived).getLast? := by
  rw [placesOf, List.getLast?_map, latest]

theorem missing_append {m : Message} (h : Ordered (arrived ++ [m])) (content : Content) :
    missing content (arrived ++ [m]) = missing content arrived + if m.content = content then
      (latest Message.content content arrived).elim 0 fun e => m.place - e.place - 1 else 0 := by
  have hall := Ordered.places h content
  have hlatest := latest_getLast content arrived
  rw [placesOf_append] at hall
  rw [missing, missing, placesOf_append]
  by_cases hcontent : m.content = content
  · rw [if_pos hcontent] at hall
    rw [if_pos hcontent, if_pos hcontent]
    cases he : latest Message.content content arrived with
    | none =>
        rw [he, Option.map_none, eq_comm, List.getLast?_eq_none_iff] at hlatest
        rw [hlatest]
        simp [missingBetween]
    | some e =>
        rw [he, Option.map_some] at hlatest
        exact missingBetween_append hall hlatest.symm
  · rw [if_neg hcontent, if_neg hcontent, List.append_nil, Nat.add_zero]

theorem missing_eq_lost {messages : List Message} (h : Numbered messages) (hsub : arrived.Sublist messages)
    (content : Content) : missing content arrived = lostBetween content messages arrived := by
  have hplaces : (placesOf content arrived).Sublist (List.range (countOf content messages)) := by
    rw [← h content]
    exact (hsub.filter _).map _
  have hsorted := List.pairwise_lt_range.sublist hplaces
  rw [missing, missingBetween_countP hsorted fun i hi => List.mem_range.mp (hplaces.mem hi), ← h content,
    placesOf.eq_1 content messages, List.countP_map, List.countP_filter, lostBetween]
  refine List.countP_congr fun m hm => ?_
  have harrived (hcontent : m.content = content) : m.place ∈ placesOf content arrived ↔ m ∈ arrived := by
    rw [mem_placesOf]
    constructor
    · rintro ⟨e, he, hsame, hplace⟩
      rwa [← h.unique (hsub.mem he) hm (hsame.trans hcontent.symm) hplace]
    · exact fun hmem => ⟨m, hmem, hcontent, rfl⟩
  have hearlier : (∃ i ∈ placesOf content arrived, i < m.place) ↔
      ∃ e ∈ arrived, e.content = content ∧ e.place < m.place := by
    simp only [mem_placesOf]
    aesop
  have hlater : (∃ j ∈ placesOf content arrived, m.place < j) ↔
      ∃ l ∈ arrived, l.content = content ∧ m.place < l.place := by
    simp only [mem_placesOf]
    aesop
  rw [Bool.and_eq_true, Function.comp_apply, decide_eq_true_eq, decide_eq_true_eq, decide_eq_true_eq, hearlier,
    hlater]
  constructor
  · rintro ⟨⟨habsent, hbetween⟩, hcontent⟩
    exact ⟨hcontent, mt (harrived hcontent).mpr habsent, hbetween⟩
  · rintro ⟨hcontent, habsent, hbetween⟩
    exact ⟨⟨mt (harrived hcontent).mp habsent, hbetween⟩, hcontent⟩

/-- The lines stand for the messages that are missing, modulo 16. They tell the
exact number when no sixteen of one content are lost in a row. -/
theorem observed_losses (source : Source) (h : Ordered arrived) :
    ((observed source [] arrived).map lossOfLine).sum % 16 =
      (missing .context arrived + missing .data arrived) % 16 ∧
      (ShortLosses arrived →
        ((observed source [] arrived).map lossOfLine).sum = missing .context arrived + missing .data arrived) := by
  induction arrived using List.reverseRecOn with
  | nil => exact ⟨rfl, fun _ => rfl⟩
  | append_singleton arrived m ih =>
      obtain ⟨hmod, hexact⟩ := ih (List.pairwise_append.mp h).1
      have hcontext := missing_append h .context
      have hdata := missing_append h .data
      have hsum : missing .context (arrived ++ [m]) + missing .data (arrived ++ [m]) =
          missing .context arrived + missing .data arrived +
            (latest Message.content m.content arrived).elim 0 fun e => m.place - e.place - 1 := by
        rw [hcontext, hdata]
        cases m.content with
        | context => rw [if_pos rfl, if_neg (by decide)]; omega
        | data => rw [if_pos rfl, if_neg (by decide)]; omega
      rw [observed_append, List.nil_append, List.map_append, List.sum_append, List.map_append, List.sum_append,
        report_loss, printed_loss, hsum]
      refine ⟨by omega, fun hshort => ?_⟩
      have hbefore : ShortLosses arrived := by
        intro content
        have hchain := hshort content
        rw [placesOf_append] at hchain
        exact (List.isChain_append.mp hchain).1
      have hlast : ((latest Message.content m.content arrived).elim 0 fun e => m.place - e.place - 1) < 16 := by
        cases he : latest Message.content m.content arrived with
        | none => exact Nat.succ_pos 15
        | some e =>
            have hchain := hshort m.content
            have hlatest := latest_getLast m.content arrived
            rw [he, Option.map_some] at hlatest
            rw [placesOf_append, if_pos rfl, List.isChain_append] at hchain
            have hle := hchain.2.2 e.place hlatest.symm m.place rfl
            rw [Option.elim_some]
            omega
      have hsame := hexact hbefore
      omega

end Losses

end Difi.Reports
