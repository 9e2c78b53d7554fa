import Difi.Reports

namespace Difi.UdpLink

open Machine Streams Sending UdpSender UdpReceiver Receiving Reports

variable {Source : Type}

/-- The sender, the network and the receiver. The network names a datagram by its
place among those that were sent: those under way, and those it has delivered. -/
structure System (Source : Type) where
  sender : Process SenderState SenderError
  wire : List Nat
  delivered : List Nat
  receiver : Process (ReceiverState Source) ReceiverError

/-- What may come next. The network may lose a datagram, copy it, or deliver any
of those under way. -/
inductive Action where
  | round (data context : Moment)
  | lose (i : Nat)
  | copy (i : Nat)
  | deliver (i : Nat)

def System.start (moment : Moment) : System Source where
  sender := begin moment
  wire := List.range (begin moment).state.sent.length
  delivered := []
  receiver := UdpReceiver.main []

def System.arrival (source : Source) (system : System Source) (place : Nat) : Arrival Source :=
  system.sender.state.sent[place]?.map fun datagram => (source, datagram)

def System.step (source : Source) (system : System Source) : Action → System Source
  | .round data context =>
    let sender := system.sender.perform (round data context)
    let before := system.sender.state.sent.length
    { system with
      sender
      wire := system.wire ++ List.range' before (sender.state.sent.length - before) }
  | .lose i => { system with wire := system.wire.eraseIdx i }
  | .copy i => { system with wire := system.wire ++ system.wire[i]?.toList }
  | .deliver i =>
    match system.wire[i]? with
    | none => system
    | some place => { system with
        wire := system.wire.eraseIdx i
        delivered := system.delivered ++ [place]
        receiver := system.receiver.perform (receive (system.arrival source place)) }

def System.run (source : Source) (moment : Moment) (actions : List Action) : System Source :=
  actions.foldl (System.step source) (.start moment)

/-- The network keeps the order of the datagrams, and makes no copies. -/
def Action.InOrder : Action → Prop
  | .round _ _ | .lose _ => True
  | .copy _ => False
  | .deliver i => i = 0

def Action.Lossless : Action → Prop
  | .lose _ => False
  | _ => True

def Action.moments : Action → Option (Moment × Moment)
  | .round data context => some (data, context)
  | .lose _ | .copy _ | .deliver _ => none

/-- The sender has sent some messages, the network knows places among them, and the
receiver is one that has got what was delivered. -/
structure Carries (source : Source) (messages : List Message) (system : System Source) : Prop where
  sender : Holding messages system.sender
  known : ∀ place ∈ system.delivered ++ system.wire, place < messages.length
  receiver : system.receiver = UdpReceiver.main (system.delivered.map (system.arrival source))

section Step

variable {source : Source} {system : System Source} {messages : List Message}

theorem Carries.sent_length (h : Carries source messages system) :
    system.sender.state.sent.length = messages.length := by
  rw [h.sender.sent.sent, List.length_map]

theorem carries_round (h : Carries source messages system) (data context : Moment) :
    ∃ messages', messages <+: messages' ∧ Carries source messages' (system.step source (.round data context)) := by
  obtain ⟨messages', ⟨new, rfl⟩, hround, -, -⟩ := h.sender.round data context
  have hlen : (system.sender.perform (UdpSender.round data context)).state.sent.length =
      (messages ++ new).length := by
    rw [hround.sent.sent, List.length_map]
  refine ⟨messages ++ new, List.prefix_append _ _, hround, fun place hplace => ?_, ?_⟩
  · rw [List.length_append]
    simp only [System.step] at hplace
    rw [← List.append_assoc, List.mem_append, List.mem_range'_1, h.sent_length, hlen, List.length_append] at hplace
    rcases hplace with hplace | hplace
    · exact Nat.lt_add_right _ (h.known place hplace)
    · omega
  · refine h.receiver.trans (congrArg UdpReceiver.main (List.map_congr_left fun place hplace => ?_))
    have hknown := h.known place (List.mem_append_left _ hplace)
    rw [System.arrival, System.arrival, h.sender.sent.sent]
    simp only [System.step]
    rw [hround.sent.sent, List.map_append, List.getElem?_append_left (by rwa [List.length_map])]

theorem carries_deliver (h : Carries source messages system) (i : Nat) :
    Carries source messages (system.step source (.deliver i)) := by
  simp only [System.step]
  split
  next => exact h
  next place hplace =>
    refine ⟨h.sender, fun k hk => ?_, ?_⟩
    · refine h.known k ?_
      simp only [List.append_assoc, List.mem_append, List.mem_singleton] at hk
      rcases hk with hk | rfl | hk
      · exact List.mem_append_left _ hk
      · exact List.mem_append_right _ (List.mem_of_getElem? hplace)
      · exact List.mem_append_right _ (List.mem_of_mem_eraseIdx hk)
    · simp only
      rw [h.receiver, List.map_append, List.map_singleton, main_append]
      rfl

theorem carries_step (h : Carries source messages system) (action : Action) :
    ∃ messages', messages <+: messages' ∧ Carries source messages' (system.step source action) := by
  cases action with
  | round data context => exact carries_round h data context
  | lose i =>
      refine ⟨messages, List.prefix_rfl, h.sender, fun place hplace => h.known place ?_, h.receiver⟩
      rcases List.mem_append.mp hplace with hplace | hplace
      · exact List.mem_append_left _ hplace
      · exact List.mem_append_right _ (List.mem_of_mem_eraseIdx hplace)
  | copy i =>
      refine ⟨messages, List.prefix_rfl, h.sender, fun place hplace => h.known place ?_, h.receiver⟩
      simp only [System.step] at hplace
      rw [← List.append_assoc] at hplace
      rcases List.mem_append.mp hplace with hplace | hplace
      · exact hplace
      · exact List.mem_append_right _ (List.mem_of_getElem? (Option.mem_toList.mp hplace))
  | deliver i => exact ⟨messages, List.prefix_rfl, carries_deliver h i⟩

theorem deliver_front (source : Source) (system : System Source) :
    (system.step source (.deliver 0)).delivered ++ (system.step source (.deliver 0)).wire =
      system.delivered ++ system.wire := by
  obtain ⟨sender, wire, delivered, receiver⟩ := system
  cases wire with
  | nil => rfl
  | cons place wire => simp [System.step]

theorem range_append {m n : Nat} (h : m ≤ n) : List.range m ++ List.range' m (n - m) = List.range n := by
  have hsplit := @List.range'_append_1 0 m (n - m)
  rwa [Nat.zero_add, Nat.add_sub_cancel' h, ← List.range_eq_range', ← List.range_eq_range'] at hsplit

/-- Over a network that keeps the order, what was delivered and what is under way
are in the order of the sender, and are all that was sent when nothing is lost. -/
theorem order_step (h : Carries source messages system) {action : Action} (horder : action.InOrder) :
    ((system.delivered ++ system.wire).Sublist (List.range system.sender.state.sent.length) →
      ((system.step source action).delivered ++ (system.step source action).wire).Sublist
        (List.range (system.step source action).sender.state.sent.length)) ∧
    (action.Lossless → system.delivered ++ system.wire = List.range system.sender.state.sent.length →
      (system.step source action).delivered ++ (system.step source action).wire =
        List.range (system.step source action).sender.state.sent.length) := by
  cases action with
  | round data context =>
      obtain ⟨messages', hleft, hround⟩ := carries_round h data context
      have hle : system.sender.state.sent.length ≤
          (system.step source (.round data context)).sender.state.sent.length := by
        rw [h.sent_length, hround.sent_length]
        exact hleft.length_le
      simp only [System.step] at hle ⊢
      rw [← List.append_assoc, ← range_append hle]
      exact ⟨fun hsub => hsub.append_right _, fun _ hall => by rw [hall]⟩
  | lose i =>
      refine ⟨fun hsub => List.Sublist.trans ?_ hsub, fun hlossless => hlossless.elim⟩
      exact (List.Sublist.refl _).append (List.eraseIdx_sublist _ i)
  | copy i => exact horder.elim
  | deliver i =>
      cases horder
      have hsender : (system.step source (.deliver 0)).sender = system.sender := by
        simp only [System.step]
        split <;> rfl
      rw [deliver_front, hsender]
      exact ⟨id, fun _ => id⟩

end Step

theorem run_append (source : Source) (moment : Moment) (actions : List Action) (action : Action) :
    System.run source moment (actions ++ [action]) = (System.run source moment actions).step source action := by
  rw [System.run, List.foldl_append]
  rfl

theorem run_nil_wire (source : Source) (moment : Moment) : (System.run source moment []).wire =
    List.range (System.run source moment []).sender.state.sent.length := rfl

theorem run_sender (source : Source) (moment : Moment) (actions : List Action) :
    (System.run source moment actions).sender = UdpSender.main moment (actions.filterMap Action.moments) := by
  induction actions using List.reverseRecOn with
  | nil => rfl
  | append_singleton actions action ih =>
      rw [run_append, List.filterMap_append, UdpSender.main, List.foldl_append, ← UdpSender.main, ← ih]
      cases action with
      | round _ _ | lose _ | copy _ => rfl
      | deliver i =>
          rw [System.step]
          split <;> rfl

theorem carries_run (source : Source) (moment : Moment) (actions : List Action) :
    ∃ messages, Carries source messages (System.run source moment actions) := by
  induction actions using List.reverseRecOn with
  | nil =>
      obtain ⟨messages, hholding, -, -⟩ := begin_holding moment
      refine ⟨messages, hholding, fun place hplace => ?_, rfl⟩
      have hlt := List.mem_range.mp hplace
      rwa [hholding.sent.sent, List.length_map] at hlt
  | append_singleton actions action ih =>
      obtain ⟨messages, h⟩ := ih
      obtain ⟨messages', -, h'⟩ := carries_step h action
      rw [run_append]
      exact ⟨messages', h'⟩

theorem order_run (source : Source) (moment : Moment) (actions : List Action)
    (horder : ∀ action ∈ actions, action.InOrder) :
    ((System.run source moment actions).delivered ++ (System.run source moment actions).wire).Sublist
      (List.range (System.run source moment actions).sender.state.sent.length) ∧
    ((∀ action ∈ actions, action.Lossless) →
      (System.run source moment actions).delivered ++ (System.run source moment actions).wire =
        List.range (System.run source moment actions).sender.state.sent.length) := by
  induction actions using List.reverseRecOn with
  | nil => exact ⟨List.Sublist.refl _, fun _ => rfl⟩
  | append_singleton actions action ih =>
      rw [List.forall_mem_append, List.forall_mem_singleton] at horder
      obtain ⟨hsub, hall⟩ := ih horder.1
      obtain ⟨messages, h⟩ := carries_run source moment actions
      obtain ⟨hsub', hall'⟩ := order_step h horder.2
      rw [run_append]
      refine ⟨hsub' hsub, fun hlossless => ?_⟩
      rw [List.forall_mem_append, List.forall_mem_singleton] at hlossless
      exact hall' hlossless.2 (hall hlossless.1)

def arrived (messages : List Message) (places : List Nat) : List Message := places.filterMap (messages[·]?)

theorem arrived_cons {messages : List Message} {place : Nat} {m : Message} (hm : messages[place]? = some m)
    (places : List Nat) : arrived messages (place :: places) = m :: arrived messages places :=
  List.filterMap_cons_some hm

theorem delivered_heard {source : Source} {system : System Source} {messages : List Message}
    (h : Carries source messages system) : (system.delivered.map (system.arrival source)).map hear =
      ((arrived messages system.delivered).map fun m => (source, m.packet)).map .ok := by
  have hplaces (places : List Nat) (hknown : ∀ place ∈ places, place < messages.length) :
      (places.map (system.arrival source)).map hear =
        ((arrived messages places).map fun m => (source, m.packet)).map .ok := by
    induction places with
    | nil => rfl
    | cons place places ih =>
        rw [List.forall_mem_cons] at hknown
        have hm := List.getElem?_eq_getElem hknown.1
        have hheard : hear (system.arrival source place) = .ok (source, messages[place].packet) := by
          rw [System.arrival, h.sender.sent.sent, List.getElem?_map, hm, Option.map_some, Option.map_some,
            message_heard]
        rw [arrived_cons hm, List.map_cons, List.map_cons, ih hknown.2, hheard]
        rfl
  exact hplaces _ fun place hplace => h.known place (List.mem_append_left _ hplace)

theorem arrived_all (messages : List Message) : arrived messages (List.range messages.length) = messages := by
  induction messages using List.reverseRecOn with
  | nil => rfl
  | append_singleton messages m ih =>
      have hbefore : arrived (messages ++ [m]) (List.range messages.length) =
          arrived messages (List.range messages.length) :=
        List.filterMap_congr fun i hi => List.getElem?_append_left (List.mem_range.mp hi)
      rw [List.length_append, List.length_singleton, List.range_succ]
      rw [arrived, List.filterMap_append, ← arrived, hbefore, ih]
      rw [List.filterMap_cons_some (List.getElem?_concat_length ..), List.filterMap_nil]

/-- Over any network the receiver is never stopped and never panics, nor does the
sender. What the receiver prints is what the history of the delivered messages
says, and each data packet delivered is announced once with its stream and size. -/
theorem link_never_stops (source : Source) (moment : Moment) (actions : List Action) :
    (System.run source moment actions).sender = UdpSender.main moment (actions.filterMap Action.moments) ∧
    (System.run source moment actions).sender.status.Safe ∧
    (∀ e, (System.run source moment actions).sender.status = .err e → Outside e) ∧
    (System.run source moment actions).receiver.status = .ok () ∧
    ∃ messages : List Message,
      (System.run source moment actions).sender.state.sent = messages.map Message.datagram ∧ Numbered messages ∧
      (∀ place ∈ (System.run source moment actions).delivered, place < messages.length) ∧
      (System.run source moment actions).receiver.state.lines =
        linesAfter [] ((arrived messages (System.run source moment actions).delivered).map
          fun m => (source, m.packet)) ∧
      ((System.run source moment actions).receiver.state.lines.filterMap announced) =
        ((arrived messages (System.run source moment actions).delivered).filter fun m => m.content = .data).map
          fun _ => (0x01020304, 8972) := by
  obtain ⟨messages, h⟩ := carries_run source moment actions
  obtain ⟨hstatus, hlines⟩ := main_heard (delivered_heard h)
  rw [← h.receiver] at hstatus hlines
  refine ⟨run_sender source moment actions, h.sender.safe, fun e he => (h.sender.ended he).1, hstatus, messages,
    h.sender.sent.sent, h.sender.sent.numbered, fun place hplace => h.known place (List.mem_append_left _ hplace),
    hlines, ?_⟩
  rw [hlines]
  exact announced_lines source [] _

section LossyRun

def plainMoment : Moment where
  now := some ⟨0, 0, by decide⟩
  taken := true

/-- The second data packet is lost. -/
def lossyRun : List Action :=
  [.round plainMoment plainMoment, .deliver 0, .deliver 0, .round plainMoment plainMoment, .lose 0,
    .round plainMoment plainMoment, .deliver 0]

structure Stands (actions : List Action) (rounds : Nat) (wire delivered : List Nat) : Prop where
  moments : actions.filterMap Action.moments = List.replicate rounds (plainMoment, plainMoment)
  wire : (System.run () plainMoment actions).wire = wire
  delivered : (System.run () plainMoment actions).delivered = delivered

variable {actions : List Action} {rounds place : Nat} {wire delivered : List Nat}

theorem Stands.sent_length (h : Stands actions rounds wire delivered) (hrounds : rounds < 5) :
    (System.run () plainMoment actions).sender.state.sent.length = rounds + 1 := by
  have hplain : Works plainMoment := ⟨⟨_, rfl, by decide⟩, rfl⟩
  have hall : ∀ r ∈ List.replicate rounds (plainMoment, plainMoment), Works r.1 ∧ Works r.2 := by
    intro r hr
    rw [List.eq_of_mem_replicate hr]
    exact ⟨hplain, hplain⟩
  have hlen := main_sent_length hplain hall (by rw [List.length_replicate]; omega)
  rw [List.length_replicate] at hlen
  rw [run_sender, h.moments, hlen]
  omega

theorem stands_start : Stands [] 0 [0] [] := by
  have hstands : Stands [] 0 (System.run () plainMoment []).wire [] := ⟨rfl, rfl, rfl⟩
  have hlen := hstands.sent_length (by decide)
  exact ⟨rfl, (run_nil_wire () plainMoment).trans (congrArg List.range hlen), rfl⟩

theorem Stands.round (h : Stands actions rounds wire delivered) (hrounds : rounds < 4) :
    Stands (actions ++ [.round plainMoment plainMoment]) (rounds + 1) (wire ++ [rounds + 1]) delivered := by
  have hlen := h.sent_length (Nat.lt_succ_of_lt hrounds)
  have hnext : Stands (actions ++ [.round plainMoment plainMoment]) (rounds + 1)
      (System.run () plainMoment (actions ++ [.round plainMoment plainMoment])).wire delivered := by
    refine ⟨?_, rfl, ?_⟩
    · rw [List.filterMap_append, h.moments, List.replicate_succ']
      rfl
    · rw [run_append]
      exact h.delivered
  have hlen' := hnext.sent_length (Nat.succ_lt_succ hrounds)
  refine ⟨hnext.moments, ?_, hnext.delivered⟩
  rw [run_append] at hlen' ⊢
  simp only [System.step] at hlen' ⊢
  rw [hlen', hlen, h.wire, Nat.add_sub_cancel_left]
  rfl

theorem Stands.lose (h : Stands actions rounds (place :: wire) delivered) :
    Stands (actions ++ [.lose 0]) rounds wire delivered := by
  refine ⟨?_, ?_, ?_⟩
  · rw [List.filterMap_append, h.moments]
    exact List.append_nil _
  · rw [run_append, System.step, h.wire]
    rfl
  · rw [run_append]
    exact h.delivered

theorem Stands.deliver (h : Stands actions rounds (place :: wire) delivered) :
    Stands (actions ++ [.deliver 0]) rounds wire (delivered ++ [place]) := by
  refine ⟨?_, ?_, ?_⟩
  · rw [List.filterMap_append, h.moments]
    exact List.append_nil _
  · rw [run_append, System.step, h.wire]
    rfl
  · rw [run_append, System.step, h.wire]
    exact congrArg (· ++ [place]) h.delivered

theorem lossyRun_stands : Stands lossyRun 3 [] [0, 1, 3] := by
  have hfirst := (stands_start.round (by decide)).deliver.deliver
  exact ((hfirst.round (by decide)).lose.round (by decide)).deliver

theorem observed_fourSent {messages : List Message} (hnumbered : Numbered messages)
    (hscheduled : Scheduled messages) (hlen : messages.length = 4) : observed () [] (arrived messages [0, 1, 3]) =
      [.signalData 0x01020304 8972, .gap () 1 2, .signalData 0x01020304 8972] := by
  have hcontent (i : Nat) (m : Message) (hm : messages[i]? = some m) (hi : i < 4) := hscheduled i m hm (by omega)
  obtain ⟨⟨c, i, _⟩, ⟨c₀, i₀, _⟩, ⟨c₁, i₁, _⟩, ⟨c₂, i₂, _⟩, rfl⟩ := List.length_eq_four.mp hlen
  obtain rfl : c = .context := hcontent 0 _ rfl (by decide)
  obtain rfl : c₀ = .data := hcontent 1 _ rfl (by decide)
  obtain rfl : c₁ = .data := hcontent 2 _ rfl (by decide)
  obtain rfl : c₂ = .data := hcontent 3 _ rfl (by decide)
  have hplaces : [i₀, i₁, i₂] = [0, 1, 2] := hnumbered .data
  cases hplaces
  rfl

end LossyRun

/-- Over a network that keeps the order, the receiver prints what was lost on the
way: nothing when nothing was, and the exact number of packets while no sixteen of
one stream are lost in a row. A packet counts when an earlier and a later one of its
stream have arrived. -/
theorem link_reports_loss (source : Source) (moment : Moment) (actions : List Action)
    (horder : ∀ action ∈ actions, action.InOrder) :
    ∃ messages : List Message,
      (System.run source moment actions).sender.state.sent = messages.map Message.datagram ∧
      Numbered messages ∧ Scheduled messages ∧
      (System.run source moment actions).delivered.Sublist (List.range messages.length) ∧
      (System.run source moment actions).receiver.state.lines =
        observed source [] (arrived messages (System.run source moment actions).delivered) ∧
      ((System.run source moment actions).receiver.state.lines.map lossOfLine).sum % 16 =
        (lostBetween .context messages (arrived messages (System.run source moment actions).delivered) +
          lostBetween .data messages (arrived messages (System.run source moment actions).delivered)) % 16 ∧
      (ShortLosses (arrived messages (System.run source moment actions).delivered) →
        ((System.run source moment actions).receiver.state.lines.map lossOfLine).sum =
          lostBetween .context messages (arrived messages (System.run source moment actions).delivered) +
            lostBetween .data messages (arrived messages (System.run source moment actions).delivered)) ∧
      ((∀ action ∈ actions, action.Lossless) →
        (System.run source moment actions).delivered <+: List.range messages.length ∧
        (System.run source moment actions).receiver.state.lines =
          (arrived messages (System.run source moment actions).delivered).flatMap printed) := by
  obtain ⟨messages, h⟩ := carries_run source moment actions
  obtain ⟨hplaces, hlossless⟩ := order_run source moment actions horder
  rw [h.sent_length] at hplaces hlossless
  have hdelivered := (List.sublist_append_left _ _).trans hplaces
  have hnumbered := h.sender.sent.numbered
  have hsub : (arrived messages (System.run source moment actions).delivered).Sublist messages := by
    have hall := hdelivered.filterMap (messages[·]?)
    rwa [← arrived, ← arrived, arrived_all] at hall
  have hordered : Ordered (arrived messages (System.run source moment actions).delivered) :=
    List.Pairwise.sublist hsub hnumbered.ordered
  have hlines := (main_heard (delivered_heard h)).2
  rw [← h.receiver, ← List.map_nil, linesAfter_observed source hordered] at hlines
  obtain ⟨hmod, hexact⟩ := observed_losses source hordered
  rw [missing_eq_lost hnumbered hsub, missing_eq_lost hnumbered hsub, ← hlines] at hmod hexact
  refine ⟨messages, h.sender.sent.sent, hnumbered, h.sender.sent.scheduled, hdelivered, hlines, hmod, hexact,
    fun hall => ?_⟩
  have hleft : (System.run source moment actions).delivered <+: List.range messages.length :=
    ⟨_, hlossless hall⟩
  have harrived : arrived messages (System.run source moment actions).delivered <+: messages := by
    have hprefix := hleft.filterMap (messages[·]?)
    rwa [← arrived, ← arrived, arrived_all] at hprefix
  exact ⟨hleft, hlines.trans (observed_all source (hnumbered.of_prefix harrived))⟩

theorem lossyRun_reports : (System.run () plainMoment lossyRun).receiver.state.lines =
    [.signalData 0x01020304 8972, .gap () 1 2, .signalData 0x01020304 8972] := by
  obtain ⟨messages, hsent, hnumbered, hscheduled, -, hlines, -⟩ := link_reports_loss () plainMoment lossyRun
    (by simp [lossyRun, Action.InOrder])
  have hlen := lossyRun_stands.sent_length (by decide)
  rw [hsent, List.length_map] at hlen
  rw [hlines, lossyRun_stands.delivered]
  exact observed_fourSent hnumbered hscheduled hlen

end Difi.UdpLink
