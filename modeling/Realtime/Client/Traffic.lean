import Realtime.Client.Tables

/-! Where the messages of the client are, from the call or loop that makes them to the processing
of the server's answer. Messages are told apart by who made them and by their identifier. No
step but the making of a message adds to what is on its way. -/

namespace Realtime.Client

open RealtimeClient List Option

abbrev Tag := Origin × Text

def OutboundMessage.tag (message : OutboundMessage) : Tag := (message.origin, message.correlationId)

def weigh (mark : Tag → Bool) (messages : List OutboundMessage) : Nat :=
  messages.countP (fun message => mark message.tag)

section

variable {mark : Tag → Bool}

@[simp] theorem weigh_nil : weigh mark [] = 0 := rfl

@[simp] theorem weigh_append (l r : List OutboundMessage) :
    weigh mark (l ++ r) = weigh mark l + weigh mark r := countP_append

theorem weigh_cons (message : OutboundMessage) (l : List OutboundMessage) :
    weigh mark (message :: l) = weigh mark [message] + weigh mark l := weigh_append [message] l

@[simp] theorem weigh_refreshTimestamp (now : UtcNow) (message : OutboundMessage) :
    weigh mark [message.refreshTimestamp now] = weigh mark [message] := rfl

theorem weigh_singleton (message : OutboundMessage) :
    weigh mark [message] = if mark message.tag then 1 else 0 := by
  simp [weigh, countP_cons]

theorem weigh_eq_zero {messages : List OutboundMessage} :
    weigh mark messages = 0 ↔ ∀ message ∈ messages, mark message.tag = false := by
  simp [weigh, countP_eq_zero]

end

def HeartbeatPhase.messages : HeartbeatPhase → List OutboundMessage
  | acquiring heartbeat | enqueuing heartbeat | rejecting heartbeat | forgetting heartbeat _ =>
    [heartbeat]
  | _ => []

def Sender.messages (sender : Sender) : List OutboundMessage := sender.message.toList

def SubscriptionChange.messages (change : SubscriptionChange) : List OutboundMessage :=
  match change.phase with
  | .enqueuing command => [command]
  | _ => []

def ReplayPhase.commands : ReplayPhase → List OutboundMessage
  | registering _ command _ _ | sending _ command _ _ => [command]
  | _ => []

namespace RealtimeClient

def called (mark : Tag → Bool) (s : RealtimeClient) : Nat :=
  (s.senders.map (fun sender => weigh mark sender.messages)).sum +
    (s.changes.map (fun change => weigh mark change.messages)).sum +
    weigh mark (s.replay.elim [] ReplayPhase.commands)

def queued (mark : Tag → Bool) (s : RealtimeClient) : Nat :=
  weigh mark (s.heartbeat.elim [] HeartbeatPhase.messages) + weigh mark s.waiting

/-- On the current connection, as long as somebody receives from it. -/
def connected (mark : Tag → Bool) (s : RealtimeClient) : Nat :=
  if s.receive.isSome then
    weigh mark s.wire + weigh mark (s.unprocessed.filterMap ServerFrame.answers)
  else 0

def volume (mark : Tag → Bool) (s : RealtimeClient) : Nat :=
  s.called mark + s.queued mark + s.connected mark

def idsOf (s : RealtimeClient) : Origin → List Text
  | .application => s.applicationIds
  | .subscription => s.commandIds
  | .heartbeat => s.heartbeatIds

inductive Flow (s t : RealtimeClient) : Prop where
  | steady (volume : ∀ mark, t.volume mark ≤ s.volume mark)
  | made (tag : Tag) (volume : ∀ mark, t.volume mark ≤ s.volume mark + if mark tag then 1 else 0)
      (origin : tag.1 ≠ .heartbeat) (id : tag.2 ∈ t.idsOf tag.1)
  | beat (id : Text) (volume : ∀ mark,
        t.volume mark ≤ s.volume mark + if mark (.heartbeat, id) then 1 else 0)
      (unused : id ∉ s.usedIds) (drawn : id ∈ t.heartbeatIds)

variable {s t : RealtimeClient} {input : Await} {now : UtcNow} {fresh : Guid} {k : Nat}
  {change next : SubscriptionChange} {mark : Tag → Bool}

theorem weigh_keepPending (s : RealtimeClient) (now : UtcNow) (mark : Tag → Bool)
    (pending : List OutboundMessage) (message : OutboundMessage) :
    weigh mark (s.keepPending now pending message) ≤ weigh mark pending + weigh mark [message] := by
  unfold keepPending
  split_ifs <;> simp

theorem Flow.stepSend (ht : s.stepSend input now = some t) : Flow s t := by
  refine .steady ?_
  intro mark
  revert ht
  fun_cases s.stepSend input now <;> intro ht <;> cases ht
  all_goals
    simp only [volume, called, queued, connected, waiting, unprocessed, inFlight, *,
      weigh_append, elim_some, SendPhase.inFlight, weigh_nil]
  case case1.refl hp message outbound ho =>
    rw [weigh_cons message outbound, weigh_refreshTimestamp]
    split_ifs <;> omega
  all_goals split_ifs <;> omega

theorem Flow.stepReplay (ht : s.stepReplay input now fresh = some t) : Flow s t := by
  by_cases hc : ∃ pending route routes, s.replay = some (.commanding pending (route :: routes)) ∧
      input = .ok
  · obtain ⟨pending, route, routes, hp, rfl⟩ := hc
    simp only [RealtimeClient.stepReplay, hp, ite_none_right_eq_some,
      some.injEq] at ht
    obtain ⟨-, rfl⟩ := ht
    refine .made (.subscription, fresh.toText) ?_ nofun
      (mem_append_right _ (mem_singleton_self _))
    intro mark
    simp only [volume, called, queued, connected, waiting, unprocessed, replayList, hp,
      weigh_append, elim_some, ReplayPhase.commands, ReplayPhase.pending, weigh_nil,
      weigh_singleton]
    have htag : OutboundMessage.tag ⟨subscriptionCommand true route none fresh now,
        .subscription⟩ = (.subscription, fresh.toText) := rfl
    rw [htag]
    split_ifs <;> omega
  · refine .steady ?_
    intro mark
    revert ht
    fun_cases s.stepReplay input now fresh <;> intro ht <;> cases ht
    all_goals
      simp only [volume, called, queued, connected, waiting, unprocessed, replayList, *,
        weigh_append, elim_some, ReplayPhase.commands, ReplayPhase.pending, weigh_nil,
        registerSubscriptionMutation, removeSubscriptionMutation]
    case case4.refl pending _ message backlog _ =>
      have hke := weigh_keepPending s now mark pending message
      rw [weigh_cons message backlog]
      split_ifs <;> omega
    case case6.refl pending _ message outbound _ =>
      have hke := weigh_keepPending s now mark pending message
      rw [weigh_cons message outbound]
      split_ifs <;> omega
    case case11.refl pending route routes hp _ => exact absurd ⟨pending, route, routes, hp, rfl⟩ hc
    case case18.refl pending command failure _ =>
      by_cases hco : s.containsMutation command.correlationId = true
      · simp only [hco, if_true, weigh_nil]
        split_ifs <;> omega
      · simp only [hco, Bool.false_eq_true, if_false, weigh_nil]
        split_ifs <;> omega
    case case21.refl message pending _ =>
      rw [weigh_cons message pending, weigh_refreshTimestamp]
      split_ifs <;> omega
    case case22.refl message pending _ _ =>
      rw [weigh_cons message pending, weigh_cons _ pending, weigh_refreshTimestamp]
    all_goals split_ifs <;> omega

variable {slots : Nat} {tooLarge : Bool} {label : Label} {id : Text}

theorem volume_set_sender {sender next : Sender} {outbound accepted : List OutboundMessage}
    (hk : s.senders[k]? = some sender)
    (hle : weigh mark next.messages + weigh mark outbound ≤ weigh mark sender.messages + weigh mark
      s.outbound) :
    volume mark { s with
      senders := s.senders.set k next, sendSlots := slots, outbound := outbound,
      accepted := accepted } ≤ s.volume mark := by
  have hset := sum_map_set (fun sender : Sender => weigh mark sender.messages) hk next
  simp only [volume, called, queued, connected, waiting, unprocessed, weigh_append] at hset ⊢
  split_ifs <;> omega

theorem Flow.stepSender (ht : s.stepSender k input = some t) : Flow s t := by
  refine .steady ?_
  intro mark
  revert ht
  fun_cases s.stepSender k input <;> intro ht <;> cases ht
  case case4.refl message hk _ =>
    refine volume_set_sender hk ?_
    simp only [Sender.messages, Sender.message, toList_none, toList_some, weigh_nil,
      weigh_append]
    omega
  all_goals
    refine volume_set_sender ‹_› ?_
    simp only [Sender.messages, Sender.message, toList_none, toList_some, weigh_nil]
    omega

theorem volume_set_change (hk : s.changes[k]? = some change) (hc : t.changes = s.changes.set k next)
    (hle : weigh mark next.messages + weigh mark t.outbound ≤
      weigh mark change.messages + weigh mark s.outbound)
    (ht : s.stepChange k input now fresh tooLarge = some t) :
    t.volume mark ≤ s.volume mark := by
  obtain ⟨u, rfl⟩ := step_footprint (.changeStep k input now fresh tooLarge) ht
  have hset := sum_map_set (fun change : SubscriptionChange => weigh mark change.messages) hk next
  simp only [Label.footprint] at hc hle
  simp only [volume, called, queued, connected, waiting, unprocessed, weigh_append,
    Label.footprint, hc] at hset ⊢
  split_ifs <;> omega

/-- What a step of a change does to the messages: it moves or drops its command, or makes it. -/
inductive ChangeMessages (s t : RealtimeClient) (change next : SubscriptionChange) : Prop where
  | moved (messages : next.messages = [])
      (weight : ∀ mark, weigh mark t.outbound ≤ weigh mark change.messages + weigh mark s.outbound)
  | made (message : OutboundMessage) (messages : next.messages = [message])
      (origin : message.origin = .subscription) (outbound : t.outbound = s.outbound)
      (id : message.correlationId ∈ t.commandIds)

theorem ChangeMessages.of_nil (hn : next.messages = []) (ho : t.outbound = s.outbound) :
    ChangeMessages s t change next := by
  refine .moved hn ?_
  intro mark
  rw [ho]
  omega

theorem stepChange_messages : s.stepChange k input now fresh tooLarge = some t →
    ∃ change next, s.changes[k]? = some change ∧ t.changes = s.changes.set k next ∧
      next.correlationId = change.correlationId ∧ ChangeMessages s t change next := by
  intro ht
  obtain ⟨change, hk, ⟨hp, -, ht⟩ | ht | ht | ht⟩ := stepChange_cases ht
  all_goals revert ht
  all_goals first
    | fun_cases stepRegister
    | fun_cases stepChangeEntry
    | fun_cases stepChangeApply
    | fun_cases stepChangeExit
  all_goals
    intro ht
    cases ht
  all_goals refine ⟨_, _, ‹_›, rfl, ?_, ?_⟩
  case inr.inr.inr.case1.refl.refine_2 hp _ =>
    refine .moved rfl ?_
    intro mark
    simp only [SubscriptionChange.messages, hp, weigh_append]
    omega
  all_goals try split_ifs
  all_goals first
    | rfl
    | exact .of_nil rfl rfl
    | exact .made _ rfl rfl rfl (mem_append_right _ (mem_singleton_self _))

theorem Flow.stepChange (ht : s.stepChange k input now fresh tooLarge = some t) : Flow s t := by
  obtain ⟨change, next, hk, hset, -, hm⟩ := stepChange_messages ht
  cases hm with
  | moved hn hle =>
    refine .steady ?_
    intro mark
    refine volume_set_change hk hset ?_ ht
    have hle := hle mark
    rw [hn, weigh_nil]
    omega
  | made message hme hor hou hid =>
    have htag : message.tag.1 = .subscription := hor
    refine .made message.tag ?_ (by rw [htag]; nofun) (by rw [htag]; exact hid)
    intro mark
    obtain ⟨u, rfl⟩ := step_footprint (.changeStep k input now fresh tooLarge) ht
    have hsum := sum_map_set (fun change : SubscriptionChange => weigh mark change.messages) hk next
    rw [← weigh_singleton, ← hme]
    simp only [Label.footprint] at hset hou
    simp only [volume, called, queued, connected, waiting, unprocessed, weigh_append,
      Label.footprint, hset, hou] at hsum ⊢
    split_ifs <;> omega

theorem Flow.callSend {message : MessageEnvelope} : s.callSend message now tooLarge = some t →
    Flow s t := by
  fun_cases s.callSend message now tooLarge <;> intro ht <;> cases ht
  case case4.refl owned _ _ =>
    refine .made (.application, owned.correlationId.getD []) ?_ (by rintro ⟨⟩)
      (mem_append_right _ (mem_singleton_self _))
    intro mark
    have hone : weigh mark (Sender.acquiring ⟨owned, .application⟩).messages =
        if mark (.application, owned.correlationId.getD []) then 1 else 0 :=
      weigh_singleton _
    simp only [volume, called, queued, connected, waiting, unprocessed, map_append,
      sum_append, map_cons, map_nil, sum_cons, sum_nil, hone]
    split_ifs <;> omega

theorem Flow.callChange {route : Text} {subscribe : Bool} {correlationId : Option Text} :
    s.callChange route subscribe correlationId = some t → Flow s t := by
  fun_cases s.callChange route subscribe correlationId <;> intro ht <;> cases ht
  refine .steady ?_
  intro mark
  simp only [volume, called, queued, connected, waiting, unprocessed, map_append,
    sum_append, map_cons, map_nil, sum_cons, sum_nil,
    SubscriptionChange.messages, weigh_nil]
  split_ifs <;> omega

theorem Flow.stepHeartbeat : s.stepHeartbeat input now fresh = some t → Flow s t := by
  fun_cases s.stepHeartbeat input now fresh <;> intro ht <;> cases ht
  case case1.refl hp hun =>
    refine .beat fresh.toText ?_ hun (mem_append_right _ (mem_singleton_self _))
    intro mark
    have hone : weigh mark [heartbeatMessage fresh now] =
        if mark (.heartbeat, fresh.toText) then 1 else 0 := weigh_singleton _
    simp only [volume, called, queued, connected, waiting, unprocessed, elim_some,
      HeartbeatPhase.messages, hone, hp, weigh_nil]
    split_ifs <;> omega
  all_goals
    refine .steady ?_
    intro mark
    simp only [volume, called, queued, connected, waiting, unprocessed, elim_some,
      HeartbeatPhase.messages, *, weigh_nil, weigh_append]
    split_ifs <;> omega

theorem Flow.serve {accepted : Bool} (ht : s.serve accepted now = some t) : Flow s t := by
  refine .steady ?_
  intro mark
  revert ht
  fun_cases s.serve accepted now <;> intro ht <;> cases ht
  case case1.refl message wire hw _ =>
    simp only [volume, called, queued, connected, waiting, unprocessed, weigh_append, hw,
      filterMap_append, filterMap_cons, filterMap_nil]
    rw [weigh_cons message wire]
    split_ifs <;> omega

theorem Flow.push {envelope : ServerMessageEnvelope} (ht : s.push envelope = some t) : Flow s t := by
  refine .steady ?_
  intro mark
  revert ht
  fun_cases s.push envelope <;> intro ht <;> cases ht
  simp only [volume, called, queued, connected, waiting, unprocessed, weigh_append,
    filterMap_append, filterMap_cons, filterMap_nil, weigh_nil]
  split_ifs <;> omega

theorem receivedPhase_unprocessed (frame : ServerFrame) :
    (receivedPhase frame).unprocessed = [] ∨ (receivedPhase frame).unprocessed = [frame] := by
  unfold receivedPhase
  split_ifs
  · exact .inl rfl
  · exact .inr rfl
  · exact .inl rfl

theorem volume_le_of_connected (hs : t.senders = s.senders)
    (hc : t.changes.map SubscriptionChange.messages = s.changes.map SubscriptionChange.messages)
    (hr : t.replay = s.replay) (hh : t.heartbeat = s.heartbeat) (hw : t.waiting = s.waiting)
    (hco : t.connected mark ≤ s.connected mark) : t.volume mark ≤ s.volume mark := by
  have hch (u : RealtimeClient) : u.changes.map (fun change => weigh mark change.messages) =
      (u.changes.map SubscriptionChange.messages).map (weigh mark) := by
    rw [List.map_map]
    rfl
  simp only [volume, called, queued, hs, hch, hc, hr, hh, hw]
  omega

theorem connected_le (hr : s.receive.isSome = true) (hw : t.wire = s.wire)
    (hu : weigh mark (t.unprocessed.filterMap ServerFrame.answers) ≤
      weigh mark (s.unprocessed.filterMap ServerFrame.answers)) :
    t.connected mark ≤ s.connected mark := by
  simp only [connected, hr, hw, if_true]
  split_ifs <;> omega

theorem weigh_answers_cons (frame : ServerFrame) (frames : List ServerFrame) :
    weigh mark (frames.filterMap ServerFrame.answers) ≤
      weigh mark ((frame :: frames).filterMap ServerFrame.answers) := by
  rw [filterMap_cons]
  split
  · exact Nat.le_refl _
  · rw [weigh_cons]
    omega

theorem Flow.stepReceived {received : Received} (ht : s.stepReceived received = some t) :
    Flow s t := by
  refine .steady ?_
  intro mark
  revert ht
  fun_cases s.stepReceived received <;> intro ht <;> cases ht
  case case1.refl hp frame frames hf =>
    refine volume_le_of_connected rfl rfl rfl rfl rfl (connected_le (by rw [hp]; rfl) rfl ?_)
    simp only [unprocessed, hp, hf, elim_some]
    rcases receivedPhase_unprocessed frame with h | h
    · rw [h]
      exact weigh_answers_cons frame frames
    · rw [h]
      exact Nat.le_refl _
  all_goals
    refine volume_le_of_connected rfl rfl rfl rfl rfl
      (connected_le (by rw [‹s.receive = _›]; rfl) rfl ?_)
    simp only [unprocessed, *, elim_some]
    exact Nat.le_refl _

theorem Flow.stepReceive (ht : s.stepReceive input = some t) : Flow s t := by
  refine .steady ?_
  intro mark
  revert ht
  fun_cases s.stepReceive input <;> intro ht <;> cases ht
  case case11.refl frame hp mutation hm =>
    refine volume_le_of_connected rfl (map_observeResponse (fun _ _ => rfl) mutation.route) rfl rfl
      rfl (connected_le (by rw [hp]; rfl) rfl ?_)
    simp only [unprocessed, hp, elim_some]
    exact weigh_answers_cons frame s.frames
  all_goals
    refine volume_le_of_connected rfl rfl rfl rfl rfl
      (connected_le (by rw [‹s.receive = _›]; rfl) rfl ?_)
    simp only [unprocessed, *, elim_some]
    first
    | exact Nat.le_refl _
    | exact weigh_answers_cons _ _

theorem volume_le_of_connection {run : RunPhase} {transportOpen : Bool} {opened slots : Nat}
    {pending : List SubscriptionMutation} {confirmed server : List Text} {cancelled : Bool}
    {receive : Option ReceivePhase} {replay : Option ReplayPhase} {wire : List OutboundMessage}
    {frames : List ServerFrame}
    (hrec : receive = none ∨ receive = some .receiving ∧ wire = [] ∧ frames = [])
    (hre : replay = none ∨ replay = some .waiting) :
    volume mark { s with
      run := run, transportOpen := transportOpen, opened := opened, responseSlots := slots,
      pendingSubscriptionMutations := pending, confirmedSubscriptions := confirmed,
      connectionCancelled := cancelled, serverSubscriptions := server, wire := wire,
      frames := frames, receive := receive, replay := replay, send := none, heartbeat := none } ≤
    s.volume mark := by
  have hco : replay.elim [] ReplayPhase.commands = [] := by
    rcases hre with rfl | rfl <;> rfl
  have hli : replay.elim [] ReplayPhase.pending = [] := by
    rcases hre with rfl | rfl <;> rfl
  simp only [volume, called, queued, connected, waiting, unprocessed, inFlight, replayList,
    weigh_append, elim_none, hco, hli, weigh_nil]
  rcases hrec with rfl | ⟨rfl, rfl, rfl⟩
  · simp only [isSome_none, Bool.false_eq_true, if_false]
    split_ifs <;> omega
  · simp only [isSome_some, if_true, elim_some, ReceivePhase.unprocessed,
      append_nil, filterMap_nil, weigh_nil]
    split_ifs <;> omega

theorem volume_discardLeftovers (s : RealtimeClient) (mark : Tag → Bool) :
    s.discardLeftovers.volume mark ≤ s.volume mark := by
  have hco : s.discardLeftovers.connected mark = s.connected mark := rfl
  simp only [volume, hco]
  simp only [called, queued, waiting, discardLeftovers, weigh_append, weigh_nil]
  omega

theorem Flow.stepRun {first : FirstLoop} (ht : s.stepRun input first = some t) : Flow s t := by
  refine .steady ?_
  intro mark
  revert ht
  fun_cases s.stepRun input first <;> intro ht <;> cases ht
  case case5.refl => exact volume_le_of_connection (.inr ⟨rfl, rfl, rfl⟩) (.inr rfl)
  case case11.refl =>
    have hco : s.reportConnected.connected mark = s.connected mark := rfl
    simp only [volume, hco]
    simp only [called, queued, waiting, reportConnected, inFlight, weigh_append, elim_some,
      HeartbeatPhase.messages, SendPhase.inFlight, weigh_nil]
    omega
  case case20.refl => exact volume_le_of_connection (.inl rfl) (.inl rfl)
  case case32.refl => exact s.volume_discardLeftovers mark
  all_goals exact Nat.le_refl _

theorem Flow.stepStopper (ht : s.stepStopper k = some t) : Flow s t := by
  refine .steady ?_
  intro mark
  revert ht
  fun_cases s.stepStopper k <;> intro ht <;> cases ht
  case case3.refl => exact s.volume_discardLeftovers mark
  all_goals exact Nat.le_refl _

theorem step_flow (ht : step s label = some t) : Flow s t := by
  cases label with
  | send message now tooLarge => exact Flow.callSend ht
  | change route subscribe correlationId => exact Flow.callChange ht
  | sender k input => exact Flow.stepSender ht
  | changeStep k input now fresh tooLarge => exact Flow.stepChange ht
  | stopper k => exact Flow.stepStopper ht
  | run input first => exact Flow.stepRun ht
  | received received => exact Flow.stepReceived ht
  | receive input => exact Flow.stepReceive ht
  | replay input now fresh => exact Flow.stepReplay ht
  | sendLoop input now => exact Flow.stepSend ht
  | heartbeat input now fresh => exact Flow.stepHeartbeat ht
  | serve accepted now => exact Flow.serve ht
  | push envelope => exact Flow.push ht
  | _ =>
    obtain ⟨u, rfl⟩ := step_footprint _ ht
    exact .steady (fun _ => Nat.le_refl _)

inductive Draws (s t : RealtimeClient) : Prop where
  | plain (application : ∀ id ∈ s.applicationIds, id ∈ t.applicationIds)
      (commands : t.commandIds = s.commandIds) (heartbeats : t.heartbeatIds = s.heartbeatIds)
  | command (id : Text) (application : t.applicationIds = s.applicationIds)
      (commands : t.commandIds = s.commandIds ++ [id])
      (heartbeats : t.heartbeatIds = s.heartbeatIds)
      (unused : id ∈ s.commandIds ∨ id ∉ s.heartbeatIds)
  | heartbeat (id : Text) (application : t.applicationIds = s.applicationIds)
      (commands : t.commandIds = s.commandIds)
      (heartbeats : t.heartbeatIds = s.heartbeatIds ++ [id]) (unused : id ∉ s.usedIds)

theorem Draws.of_same (ha : t.applicationIds = s.applicationIds)
    (hc : t.commandIds = s.commandIds) (hh : t.heartbeatIds = s.heartbeatIds) : Draws s t :=
  .plain (fun _ hm => ha ▸ hm) hc hh

theorem not_mem_heartbeatIds (h : id ∉ s.usedIds) : id ∉ s.heartbeatIds :=
  fun hm => h (by simp [usedIds, hm])

theorem Draws.stepReplay : s.stepReplay input now fresh = some t → Draws s t := by
  fun_cases s.stepReplay input now fresh <;> intro ht <;> cases ht
  case case11.refl hp hfr =>
    exact .command fresh.toText rfl rfl rfl (.inr (not_mem_heartbeatIds hfr.2))
  all_goals exact .of_same rfl rfl rfl

theorem Draws.stepRegister
    (hid : isNullOrWhiteSpace change.correlationId = false → change.correlationId.getD [] ∈
      s.commandIds) : s.stepRegister k change now fresh tooLarge = some t → Draws s t := by
  fun_cases s.stepRegister k change now fresh tooLarge <;> intro ht <;> cases ht
  case case4.refl hfr owned how _ =>
    have how : owned.correlationId.getD [] =
        if isNullOrWhiteSpace change.correlationId then fresh.toText
        else change.correlationId.getD [] := by
      rw [correlationId_of_prepared how, subscriptionCommand_correlationId]
    refine .command (owned.correlationId.getD []) rfl rfl rfl ?_
    rw [how]
    split_ifs with hb
    · simp only [hb, true_and] at hfr
      exact .inr (not_mem_heartbeatIds hfr)
    · exact .inl (hid (by simpa using hb))
  all_goals exact .of_same rfl rfl rfl

theorem Draws.stepChange
    (hid : ∀ change ∈ s.changes, isNullOrWhiteSpace change.correlationId = false →
      change.correlationId.getD [] ∈ s.commandIds) :
    s.stepChange k input now fresh tooLarge = some t → Draws s t := by
  fun_cases s.stepChange k input now fresh tooLarge
  case case1 | case3 => rintro ⟨⟩
  case case2 change hk _ _ => exact Draws.stepRegister (hid change (mem_of_getElem? hk))
  all_goals first
    | fun_cases stepChangeEntry
    | fun_cases stepChangeApply
    | fun_cases stepChangeExit
  all_goals
    intro ht
    cases ht
  all_goals exact .of_same rfl rfl rfl

theorem step_draws
    (hid : ∀ change ∈ s.changes, isNullOrWhiteSpace change.correlationId = false →
      change.correlationId.getD [] ∈ s.commandIds) (ht : step s label = some t) : Draws s t := by
  cases label with
  | send message now tooLarge =>
    replace ht : s.callSend message now tooLarge = some t := ht
    revert ht
    fun_cases s.callSend message now tooLarge <;> intro ht <;> cases ht
    exact .plain (fun _ hm => mem_append_left _ hm) rfl rfl
  | change route subscribe correlationId =>
    replace ht : s.callChange route subscribe correlationId = some t := ht
    revert ht
    fun_cases s.callChange route subscribe correlationId <;> intro ht <;> cases ht
    next hgu =>
      by_cases hb : isNullOrWhiteSpace correlationId = true
      · exact .of_same rfl (by simp [hb]) rfl
      · refine .command (correlationId.getD []) rfl (by simp [hb]) rfl (.inr ?_)
        simp only [Bool.or_eq_true, decide_eq_true_eq, not_or] at hgu
        exact hgu.2
  | changeStep k input now fresh tooLarge => exact Draws.stepChange hid ht
  | replay input now fresh => exact Draws.stepReplay ht
  | heartbeat input now fresh =>
    replace ht : s.stepHeartbeat input now fresh = some t := ht
    revert ht
    fun_cases s.stepHeartbeat input now fresh <;> intro ht <;> cases ht
    case case1.refl _ hun => exact .heartbeat fresh.toText rfl rfl rfl hun
    all_goals exact .of_same rfl rfl rfl
  | _ =>
    obtain ⟨u, rfl⟩ := step_footprint _ ht
    exact .of_same rfl rfl rfl

theorem Draws.idsOf (h : Draws s t) (origin : Origin) (hm : id ∈ s.idsOf origin) :
    id ∈ t.idsOf origin := by
  cases h with
  | plain ha hc hh =>
    cases origin with
    | application => exact ha id hm
    | heartbeat => simpa only [RealtimeClient.idsOf, hh] using hm
    | subscription => simpa only [RealtimeClient.idsOf, hc] using hm
  | command other ha hc hh _ =>
    cases origin with
    | application => simpa only [RealtimeClient.idsOf, ha] using hm
    | heartbeat => simpa only [RealtimeClient.idsOf, hh] using hm
    | subscription =>
      simp only [RealtimeClient.idsOf, hc]
      exact mem_append_left _ hm
  | heartbeat other ha hc hh _ =>
    cases origin with
    | application => simpa only [RealtimeClient.idsOf, ha] using hm
    | heartbeat =>
      simp only [RealtimeClient.idsOf, hh]
      exact mem_append_left _ hm
    | subscription => simpa only [RealtimeClient.idsOf, hc] using hm

/-- The messages on their way carry identifiers of their maker, and the heartbeat loop shares
its own with no command. Only commands are on their way from changes. -/
structure Identified (s : RealtimeClient) : Prop where
  drawn : ∀ tag, 0 < s.volume (· == tag) → tag.2 ∈ s.idsOf tag.1
  commands : ∀ id ∈ s.heartbeatIds, id ∉ s.commandIds
  changes : ∀ change ∈ s.changes, isNullOrWhiteSpace change.correlationId = false →
    change.correlationId.getD [] ∈ s.commandIds
  origins : ∀ change ∈ s.changes, ∀ message ∈ change.messages, message.origin = .subscription

theorem Identified.origin_eq (h : s.Identified) (hd : s.Delivering) {tag : Tag}
    (hv : 0 < s.volume (· == tag)) (hm : tag.2 ∈ s.heartbeatIds) : tag.1 = .heartbeat := by
  have hid := h.drawn tag hv
  cases ho : tag.1 with
  | heartbeat => rfl
  | application =>
    rw [ho] at hid
    exact absurd hid (hd.drawn_fresh _ hm)
  | subscription =>
    rw [ho] at hid
    exact absurd hid (h.commands _ hm)

theorem Identified.step_drawn (h : s.Identified) (ht : step s label = some t) (tag : Tag)
    (hv : 0 < t.volume (· == tag)) : tag.2 ∈ t.idsOf tag.1 := by
  have hdr := step_draws h.changes ht
  cases step_flow ht with
  | steady hle =>
    have hle := hle (· == tag)
    exact hdr.idsOf _ (h.drawn tag (by omega))
  | made other hle _ hid =>
    by_cases he : other = tag
    · exact he ▸ hid
    · have hle := hle (· == tag)
      rw [if_neg (by simpa using he)] at hle
      exact hdr.idsOf _ (h.drawn tag (by omega))
  | beat id hle _ hdra =>
    by_cases he : (.heartbeat, id) = tag
    · subst he
      exact hdra
    · have hle := hle (· == tag)
      rw [if_neg (by simpa using he)] at hle
      exact hdr.idsOf _ (h.drawn tag (by omega))

theorem Identified.step_commands (h : s.Identified) (ht : step s label = some t) :
    ∀ id ∈ t.heartbeatIds, id ∉ t.commandIds := by
  intro id hm
  cases step_draws h.changes ht with
  | plain _ hc hh =>
    rw [hc]
    exact h.commands id (hh ▸ hm)
  | command other _ hc hh hun =>
    rw [hh] at hm
    rw [hc, mem_append, mem_singleton]
    rintro (hco | rfl)
    · exact h.commands id hm hco
    · rcases hun with hco | hnot
      · exact h.commands id hm hco
      · exact hnot hm
  | heartbeat other _ hc hh hun =>
    rw [hc]
    rw [hh, mem_append, mem_singleton] at hm
    rcases hm with hm | rfl
    · exact h.commands id hm
    · exact fun hco => hun (by simp [usedIds, hco])

theorem Identified.step_changes (h : s.Identified) (ht : step s label = some t) :
    ∀ change ∈ t.changes, isNullOrWhiteSpace change.correlationId = false →
      change.correlationId.getD [] ∈ t.commandIds := by
  have hke {id : Text} (hm : id ∈ s.commandIds) : id ∈ t.commandIds :=
    (step_draws h.changes ht).idsOf .subscription hm
  intro change hm hb
  cases (step_moves ht).2.1 with
  | same hc => exact hke (h.changes change (hc ▸ hm) hb)
  | called route subscribe correlationId hc hl =>
    subst hl
    rw [hc, mem_append, mem_singleton] at hm
    rcases hm with hm | rfl
    · exact hke (h.changes change hm hb)
    · replace ht : s.callChange route subscribe correlationId = some t := ht
      revert ht
      fun_cases s.callChange route subscribe correlationId <;> intro ht <;> cases ht
      simp only at hb
      simp [hb]
  | stepped j input now fresh tooLarge hl =>
    subst hl
    obtain ⟨before, next, hk, hset, hid, -⟩ := stepChange_messages ht
    rw [hset] at hm
    rcases mem_or_eq_of_mem_set hm with hm | rfl
    · exact hke (h.changes change hm hb)
    · rw [hid] at hb ⊢
      exact hke (h.changes before (mem_of_getElem? hk) hb)
  | observed mutation _ _ _ _ hc =>
    rw [hc] at hm
    obtain ⟨j, hj⟩ := mem_iff_getElem?.mp hm
    obtain ⟨before, hbe, rfl⟩ := observeResponse_getElem? hj
    exact hke (h.changes before (mem_of_getElem? hbe) hb)

theorem Identified.step_origins (h : s.Identified) (ht : step s label = some t) :
    ∀ change ∈ t.changes, ∀ message ∈ change.messages, message.origin = .subscription := by
  intro change hm message hme
  cases (step_moves ht).2.1 with
  | same hc => exact h.origins change (hc ▸ hm) message hme
  | called route subscribe correlationId hc hl =>
    rw [hc, mem_append, mem_singleton] at hm
    rcases hm with hm | rfl
    · exact h.origins change hm message hme
    · exact absurd hme not_mem_nil
  | stepped j input now fresh tooLarge hl =>
    subst hl
    obtain ⟨before, next, hk, hset, -, hmes⟩ := stepChange_messages ht
    rw [hset] at hm
    rcases mem_or_eq_of_mem_set hm with hm | rfl
    · exact h.origins change hm message hme
    · cases hmes with
      | moved hn _ =>
        rw [hn] at hme
        exact absurd hme not_mem_nil
      | made made hn hor _ _ =>
        rw [hn, mem_singleton] at hme
        exact hme ▸ hor
  | observed mutation _ _ _ _ hc =>
    rw [hc] at hm
    obtain ⟨j, hj⟩ := mem_iff_getElem?.mp hm
    obtain ⟨before, hbe, rfl⟩ := observeResponse_getElem? hj
    exact h.origins before (mem_of_getElem? hbe) message hme

theorem Identified.step (h : s.Identified) (ht : step s label = some t) :
    t.Identified :=
  ⟨h.step_drawn ht, h.step_commands ht, h.step_changes ht, h.step_origins ht⟩

theorem volume_initial (options : RealtimeClientOptions) : volume mark { options } = 0 := by
  simp only [volume, called, queued, connected, waiting, inFlight, replayList, map_nil,
    sum_nil, elim_none, append_nil, weigh_nil, isSome_none,
    Bool.false_eq_true, if_false, Nat.add_zero]

theorem identified_initial (options : RealtimeClientOptions) : Identified { options } where
  drawn tag hv := by
    rw [volume_initial] at hv
    omega
  commands id hm := absurd hm not_mem_nil
  changes change hm := absurd hm not_mem_nil
  origins change hm := absurd hm not_mem_nil

end RealtimeClient

end Realtime.Client
