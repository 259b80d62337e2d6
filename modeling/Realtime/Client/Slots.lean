import Realtime.Client.Accounting

/-! The slots that bound the client's queues are conserved. A send slot is free,
belongs to a message that is queued, in flight or to be replayed, or is held by a
call; a response slot is free, belongs to an unanswered command, or is held by a
change, the replay or the handler of a response. -/

namespace Realtime.Client

open List Option

/-- The message of the send loop keeps its slot until it is released after the send. -/
def SendPhase.slots : SendPhase → Nat
  | sending _ | failing _ _ | releasing => 1
  | _ => 0

def ReplayPhase.slots : ReplayPhase → Nat
  | drainingBacklog pending | drainingOutbound pending | clearing pending | reading pending
  | commanding pending _ | registering pending _ _ _ | sending pending _ _ _
  | forgetting pending _ _ | returningSlot pending _ | messages pending
  | retaining pending _ => pending.length
  | releasing pending => pending.length + 1
  | _ => 0

def HeartbeatPhase.slots : HeartbeatPhase → Nat
  | enqueuing _ | rejecting _ => 1
  | _ => 0

def Sender.slots : Sender → Nat
  | enqueuing _ | rejecting => 1
  | _ => 0

/-- A change holds its slot itself, or has handed it to `EnqueueOwnedAsync`. -/
def SubscriptionChange.sendSlots (change : SubscriptionChange) : Nat :=
  change.sendSlot.toNat + match change.phase with
    | .enqueuing _ | .rejecting => 1
    | _ => 0

def ChangePhase.sendSlot : ChangePhase → Option Bool
  | ordering | entering | gating | disposal | inspecting | comparing | releasing true
  | slotting => some false
  | regating | redisposal | reinspecting | applying | awaitingResponse | lastDisposal | confirming
  | reapplying | registering => some true
  | _ => none

def ChangePhase.responseSlot : ChangePhase → Option Bool
  | ordering | entering | gating | disposal | inspecting | comparing | releasing true | slotting
  | regating | redisposal | reinspecting | applying | awaitingResponse => some false
  | lastDisposal | confirming | reapplying | registering | enqueuing _ | rejecting => some true
  | _ => none

def ReplayPhase.responseSlots : ReplayPhase → Nat
  | registering _ _ _ _ | returningSlot _ _ => 1
  | _ => 0

def ReceivePhase.responseSlots : ReceivePhase → Nat
  | releasing _ => 1
  | _ => 0

/-- Between its registration and the end of `EnqueueOwnedAsync` a change has its
flag set, but the slot belongs to the pending mutation, if that is still there. -/
def SubscriptionChange.responseSlots (change : SubscriptionChange) : Nat :=
  match change.phase, change.registered with
  | .enqueuing _, _ | .rejecting, _ | .forgetting, some _ => 0
  | _, _ => change.responseSlot.toNat

structure SubscriptionChange.Slotted (change : SubscriptionChange) : Prop where
  send : ∀ flag ∈ change.phase.sendSlot, change.sendSlot = flag
  response : ∀ flag ∈ change.phase.responseSlot, change.responseSlot = flag
  early : change.phase.isEarly = true → change.registered = none
  late : (∃ message, change.phase = .enqueuing message) ∨ change.phase = .rejecting →
    change.registered ≠ none
  forgetting : change.phase = .forgetting → change.registered ≠ none →
    change.responseSlot = true

namespace RealtimeClient

def usedSendSlots (s : RealtimeClient) : Nat :=
  s.outbound.length + s.replayBacklog.length + s.send.elim 0 SendPhase.slots +
    s.replay.elim 0 ReplayPhase.slots + s.heartbeat.elim 0 HeartbeatPhase.slots +
    (s.senders.map Sender.slots).sum + (s.changes.map SubscriptionChange.sendSlots).sum

def SendSlotsKept (s : RealtimeClient) : Prop :=
  s.completed = false → s.sendSlots + s.usedSendSlots = s.options.sendQueueCapacity

variable {s t : RealtimeClient} {input : Await} {now : UtcNow} {fresh : Guid} {k : Nat}
  {change next : SubscriptionChange} {label : Label}

theorem SendSlotsKept.released (h : s.SendSlotsKept) (hc : s.completed = false)
    (hu : 0 < s.usedSendSlots) : s.releasedSendSlots = s.sendSlots + 1 := by
  have hs := h hc
  have hn : ¬ s.options.sendQueueCapacity ≤ s.sendSlots := by omega
  simp [releasedSendSlots, hc, hn]

theorem SendSlotsKept.of_eq (h : s.SendSlotsKept) (hc : t.completed = false → s.completed = false)
    (ho : t.options = s.options)
    (hs : s.completed = false → t.sendSlots + t.usedSendSlots = s.sendSlots + s.usedSendSlots) :
    t.SendSlotsKept := by
  intro ht
  rw [ho, ← h (hc ht)]
  exact hs (hc ht)

theorem SendSlotsKept.stepSend (h : s.SendSlotsKept) : s.stepSend input now = some t →
    t.SendSlotsKept := by
  fun_cases s.stepSend input now <;> intro ht <;> cases ht
  case case9 hp =>
    refine h.of_eq id rfl (fun hc => ?_)
    have hu : s.send.elim 0 SendPhase.slots = 1 := by rw [hp]; rfl
    rw [h.released hc (by unfold usedSendSlots; omega)]
    simp only [usedSendSlots, hu, elim_some, SendPhase.slots]
    omega
  all_goals
    refine h.of_eq id rfl (fun _ => ?_)
    simp [usedSendSlots, SendPhase.slots, *]
    try omega

theorem SendSlotsKept.of_sender (h : s.SendSlotsKept) {sender next : Sender}
    (hk : s.senders[k]? = some sender) {sendSlots : Nat} {outbound accepted : List OutboundMessage}
    (hs : s.completed = false → sendSlots + outbound.length + next.slots =
      s.sendSlots + s.outbound.length + sender.slots) :
    SendSlotsKept { s with
      sendSlots := sendSlots, outbound := outbound, accepted := accepted
      senders := s.senders.set k next } := by
  refine h.of_eq id rfl (fun hc => ?_)
  have hset := sum_map_set Sender.slots hk next
  have hs := hs hc
  simp only [usedSendSlots]
  omega

theorem SendSlotsKept.stepSender (h : s.SendSlotsKept) : s.stepSender k input = some t →
    t.SendSlotsKept := by
  fun_cases s.stepSender k input <;> intro ht <;> cases ht
  case case6 hk =>
    refine h.of_sender hk (fun hc => ?_)
    have hle := le_sum_map Sender.slots hk
    simp only [Sender.slots] at hle ⊢
    rw [h.released hc (by unfold usedSendSlots; omega)]
    omega
  all_goals
    refine h.of_sender ‹_› (fun _ => ?_)
    simp only [Sender.slots, length_append, length_singleton]
    try omega

theorem SendSlotsKept.stepHeartbeat (h : s.SendSlotsKept) :
    s.stepHeartbeat input now fresh = some t → t.SendSlotsKept := by
  fun_cases s.stepHeartbeat input now fresh <;> intro ht <;> cases ht
  case case11 message hp =>
    refine h.of_eq id rfl (fun hc => ?_)
    have hu : s.heartbeat.elim 0 HeartbeatPhase.slots = 1 := by rw [hp]; rfl
    rw [h.released hc (by unfold usedSendSlots; omega)]
    simp only [usedSendSlots, hu, elim_some, HeartbeatPhase.slots]
    omega
  all_goals
    refine h.of_eq id rfl (fun _ => ?_)
    simp [usedSendSlots, HeartbeatPhase.slots, *]
    try omega

theorem SendSlotsKept.keepPending (h : s.SendSlotsKept) (hc : s.completed = false)
    (hu : 0 < s.usedSendSlots) (now : UtcNow) (pending : List OutboundMessage)
    (message : OutboundMessage) :
    s.slotsAfterKeeping message + (s.keepPending now pending message).length =
      s.sendSlots + pending.length + 1 := by
  unfold slotsAfterKeeping RealtimeClient.keepPending
  split_ifs
  · simp only [length_append, length_singleton]
    omega
  · rw [h.released hc hu]
    omega

theorem SendSlotsKept.stepReplay (h : s.SendSlotsKept) : s.stepReplay input now fresh = some t →
    t.SendSlotsKept := by
  fun_cases s.stepReplay input now fresh <;> intro ht <;> cases ht
  case case4 pending hp message backlog hb =>
    refine h.of_eq id rfl (fun hc => ?_)
    have hl : s.replayBacklog.length = backlog.length + 1 := by simp [hb]
    have hke := h.keepPending hc (by unfold usedSendSlots; omega) now pending message
    simp only [usedSendSlots, hp, elim_some, ReplayPhase.slots]
    omega
  case case6 pending hp message outbound hb =>
    refine h.of_eq id rfl (fun hc => ?_)
    have hl : s.outbound.length = outbound.length + 1 := by simp [hb]
    have hke := h.keepPending hc (by unfold usedSendSlots; omega) now pending message
    simp only [usedSendSlots, hp, elim_some, ReplayPhase.slots]
    omega
  case case18 pending command failure hp =>
    refine h.of_eq id rfl (fun _ => ?_)
    by_cases hm : s.containsMutation command.correlationId = true <;>
      simp [usedSendSlots, removeSubscriptionMutation, hp, hm, ReplayPhase.slots]
  case case23 pending hp =>
    refine h.of_eq id rfl (fun hc => ?_)
    have hu : s.replay.elim 0 ReplayPhase.slots = pending.length + 1 := by rw [hp]; rfl
    rw [h.released hc (by unfold usedSendSlots; omega)]
    simp only [usedSendSlots, hu, elim_some, ReplayPhase.slots]
    omega
  all_goals
    refine h.of_eq id rfl (fun _ => ?_)
    simp [usedSendSlots, ReplayPhase.slots, registerSubscriptionMutation, *]
    try omega

theorem SendSlotsKept.of_change (h : s.SendSlotsKept) (hk : s.changes[k]? = some change)
    (hc : t.changes = s.changes.set k next) (hco : t.completed = s.completed)
    (ho : t.options = s.options) (hb : t.replayBacklog = s.replayBacklog) (hse : t.send = s.send)
    (hr : t.replay = s.replay) (hh : t.heartbeat = s.heartbeat) (hsd : t.senders = s.senders)
    (hs : s.completed = false → t.sendSlots + t.outbound.length + next.sendSlots =
      s.sendSlots + s.outbound.length + change.sendSlots) : t.SendSlotsKept := by
  refine h.of_eq (fun hf => hco ▸ hf) ho (fun hf => ?_)
  have hset := sum_map_set SubscriptionChange.sendSlots hk next
  have hs := hs hf
  simp only [usedSendSlots, hc, hb, hse, hr, hh, hsd]
  omega

variable {tooLarge subscribe : Bool} {route id : Text} {correlationId : Option Text}
  {first : FirstLoop}

theorem forall_slotted_stepChange (h : ∀ change ∈ s.changes, change.Slotted)
    (ht : s.stepChange k input now fresh tooLarge = some t) :
    ∀ change ∈ t.changes, change.Slotted := by
  obtain ⟨change, hk, ht⟩ := stepChange_cases ht
  obtain ⟨hs, hr, he, hl, hf⟩ := h change (mem_of_getElem? hk)
  suffices hc : ∃ next, t.changes = s.changes.set k next ∧ next.Slotted by
    obtain ⟨next, hc, hn⟩ := hc
    intro other ho
    rw [hc] at ho
    rcases mem_or_eq_of_mem_set ho with ho | rfl
    · exact h other ho
    · exact hn
  clear h hk
  rcases ht with ⟨hp, -, ht⟩ | ht | ht | ht <;> revert ht
  all_goals first
    | fun_cases stepRegister
    | fun_cases stepChangeEntry
    | fun_cases stepChangeApply
    | fun_cases stepChangeExit
  all_goals
    intro ht
    cases ht
  all_goals refine ⟨_, rfl, ?_⟩
  case inr.inl.case10.refl =>
    cases hb : (decide (change.route ∈ s.subscriptions) != change.subscribe) <;>
      (constructor <;> simp_all [ChangePhase.sendSlot, ChangePhase.responseSlot,
        ChangePhase.isEarly, SubscriptionChange.goto])
  case inr.inr.inr.case8.refl proceed hp =>
    cases proceed <;>
      (constructor <;> simp_all [ChangePhase.sendSlot, ChangePhase.responseSlot,
        ChangePhase.isEarly, SubscriptionChange.goto])
  all_goals
    try split_ifs
    all_goals
      constructor <;>
        simp_all [ChangePhase.sendSlot, ChangePhase.responseSlot, ChangePhase.isEarly,
          SubscriptionChange.goto, SubscriptionChange.fail]

theorem forall_slotted_callChange (h : ∀ change ∈ s.changes, change.Slotted) :
    s.callChange route subscribe correlationId = some t →
      ∀ change ∈ t.changes, change.Slotted := by
  fun_cases s.callChange route subscribe correlationId <;> intro ht <;> cases ht
  refine forall_mem_concat h ?_
  constructor <;> simp [ChangePhase.sendSlot, ChangePhase.responseSlot]

theorem forall_slotted_stepReceive (h : ∀ change ∈ s.changes, change.Slotted) :
    s.stepReceive input = some t → ∀ change ∈ t.changes, change.Slotted := by
  fun_cases s.stepReceive input <;> intro ht <;> cases ht
  case case11 mutation _ =>
    intro change hm
    obtain ⟨j, hj⟩ := mem_iff_getElem?.mp hm
    obtain ⟨before, hb, rfl⟩ := observeResponse_getElem? hj
    obtain ⟨hs, hr, he, hl, hf⟩ := h before (mem_of_getElem? hb)
    exact ⟨hs, hr, he, hl, hf⟩
  all_goals exact h

theorem SendSlotsKept.stepChange (h : s.SendSlotsKept) (hs : ∀ change ∈ s.changes, change.Slotted)
    (ht : s.stepChange k input now fresh tooLarge = some t) : t.SendSlotsKept := by
  obtain ⟨change, hk, ht⟩ := stepChange_cases ht
  have hsl := (hs change (mem_of_getElem? hk)).send
  have hle := le_sum_map SubscriptionChange.sendSlots hk
  rcases ht with ⟨hp, -, ht⟩ | ht | ht | ht <;> revert ht
  all_goals first
    | fun_cases stepRegister
    | fun_cases stepChangeEntry
    | fun_cases stepChangeApply
    | fun_cases stepChangeExit
  all_goals
    intro ht
    cases ht
  all_goals refine h.of_change hk rfl rfl rfl rfl rfl rfl rfl rfl (fun hc => ?_)
  case inr.inl.case11.refl hp hpos =>
    have hf : change.sendSlot = false := hsl _ (by rw [hp]; rfl)
    simp [SubscriptionChange.sendSlots, hf, hp]
    omega
  case inr.inr.inr.case3.refl hp =>
    simp only [SubscriptionChange.sendSlots, SubscriptionChange.fail, hp] at hle ⊢
    rw [h.released hc (by unfold usedSendSlots; omega)]
    omega
  case inr.inr.inr.case8.refl proceed hp =>
    cases proceed <;> simp [SubscriptionChange.sendSlots, SubscriptionChange.goto, hp]
  case inr.inr.inr.case9.refl hp =>
    simp only [SubscriptionChange.sendSlots, hp] at hle ⊢
    by_cases hf : change.sendSlot = true
    · simp only [hf, Bool.toNat_true, Bool.toNat_false, if_true] at hle ⊢
      rw [h.released hc (by unfold usedSendSlots; omega)]
      omega
    · simp [hf]
  case inl.case4.refl =>
    have hf : change.sendSlot = true := hsl _ (by rw [hp]; rfl)
    simp [SubscriptionChange.sendSlots, registerSubscriptionMutation, hp, hf]
  all_goals
    clear hle hsl
    try split_ifs
    all_goals
      simp [SubscriptionChange.sendSlots, setChange, SubscriptionChange.goto,
        SubscriptionChange.fail, removeSubscriptionMutation, rollbackSubscriptionChange, *]
      try omega

theorem SendSlotsKept.callSend {message : MessageEnvelope} (h : s.SendSlotsKept) :
    s.callSend message now tooLarge = some t → t.SendSlotsKept := by
  fun_cases s.callSend message now tooLarge <;> intro ht <;> cases ht
  refine h.of_eq id rfl (fun _ => ?_)
  simp [usedSendSlots, Sender.slots]

theorem SendSlotsKept.callChange (h : s.SendSlotsKept) :
    s.callChange route subscribe correlationId = some t → t.SendSlotsKept := by
  fun_cases s.callChange route subscribe correlationId <;> intro ht <;> cases ht
  refine h.of_eq id rfl (fun _ => ?_)
  simp [usedSendSlots, SubscriptionChange.sendSlots]

theorem map_observeResponse {α : Type*} {f : SubscriptionChange → α}
    (hf : ∀ change observed, f { change with responseObserved := observed } = f change)
    (route : Text) : (s.observeResponse route).map f = s.changes.map f := by
  unfold observeResponse
  split
  · rfl
  · apply ext_getElem?
    intro j
    simp only [getElem?_map, getElem?_modify]
    rcases s.changes[j]? with _ | change
    · rfl
    · simp only [map_some]
      split_ifs
      · exact congrArg some (hf _ _)
      · rfl

theorem SendSlotsKept.stepRun (h : s.SendSlotsKept) (hta : s.tasks.Ok) :
    s.stepRun input first = some t → t.SendSlotsKept := by
  fun_cases s.stepRun input first <;> intro ht <;> cases ht
  case case5 hr =>
    obtain ⟨-, hp, hs, hb⟩ := hta.none_of_idle (by simp [hr, RunPhase.inConnection])
    simp only [tasks_replay, tasks_send, tasks_heartbeat] at hp hs hb
    refine h.of_eq id rfl (fun _ => ?_)
    simp [usedSendSlots, openConnection, hp, hs, hb, ReplayPhase.slots]
  case case11 hr =>
    obtain ⟨hs, hb⟩ := hta.loops_none (.inr hr)
    simp only [tasks_send, tasks_heartbeat] at hs hb
    refine h.of_eq id rfl (fun _ => ?_)
    simp [usedSendSlots, reportConnected, hs, hb, SendPhase.slots, HeartbeatPhase.slots]
  case case20 result hr =>
    have hd := hta.done_of_clearing result hr
    simp only [Tasks.allDone, Bool.and_eq_true, tasks_replay, tasks_send, tasks_heartbeat] at hd
    obtain ⟨⟨⟨-, hp⟩, hs⟩, hb⟩ := hd
    have hp : s.replay.elim 0 ReplayPhase.slots = 0 := by
      revert hp; rcases s.replay with _ | phase; · simp
      cases phase <;> simp [ReplayPhase.isDone, ReplayPhase.slots]
    have hs : s.send.elim 0 SendPhase.slots = 0 := by
      revert hs; rcases s.send with _ | phase; · simp
      cases phase <;> simp [SendPhase.isDone, SendPhase.slots]
    have hb : s.heartbeat.elim 0 HeartbeatPhase.slots = 0 := by
      revert hb; rcases s.heartbeat with _ | phase; · simp
      cases phase <;> simp [HeartbeatPhase.isDone, HeartbeatPhase.slots]
    refine h.of_eq id rfl (fun _ => ?_)
    simp [usedSendSlots, forgetConnection, hp, hs, hb]
  case case31 => rintro ⟨⟩
  case case32 hr =>
    have hc : s.completed = true := hta.completed_of_final (by simp [hr, RunPhase.isFinal])
      (by simp [hr])
    intro hf
    simp [discardLeftovers, hc] at hf
  all_goals exact h

theorem SendSlotsKept.stepStopper (h : s.SendSlotsKept) (hta : s.tasks.Ok) :
    s.stepStopper k = some t → t.SendSlotsKept := by
  fun_cases s.stepStopper k <;> intro ht <;> cases ht
  case case2 => rintro ⟨⟩
  case case3 hk =>
    have hc : s.completed = true := hta.completed_of_stopper (mem_of_getElem? hk)
    intro hf
    simp [discardLeftovers, hc] at hf
  all_goals exact h

theorem SendSlotsKept.stepReceive (h : s.SendSlotsKept) : s.stepReceive input = some t →
    t.SendSlotsKept := by
  fun_cases s.stepReceive input <;> intro ht <;> cases ht
  case case11 mutation _ =>
    refine h.of_eq id rfl (fun _ => ?_)
    have hm := map_observeResponse (s := s) (f := SubscriptionChange.sendSlots)
      (fun _ _ => rfl) mutation.route
    simp only [usedSendSlots, applyResponse, hm]
  all_goals exact h

theorem SendSlotsKept.step (h : s.SendSlotsKept) (hta : s.tasks.Ok)
    (hs : ∀ change ∈ s.changes, change.Slotted) (ht : step s label = some t) :
    t.SendSlotsKept := by
  cases label with
  | send message now tooLarge => exact h.callSend ht
  | change route subscribe correlationId => exact h.callChange ht
  | sender k input => exact h.stepSender ht
  | changeStep k input now fresh tooLarge => exact h.stepChange hs ht
  | stopper k => exact h.stepStopper hta ht
  | run input first => exact h.stepRun hta ht
  | receive input => exact h.stepReceive ht
  | replay input now fresh => exact h.stepReplay ht
  | sendLoop input now => exact h.stepSend ht
  | heartbeat input now fresh => exact h.stepHeartbeat ht
  | _ =>
    obtain ⟨u, rfl⟩ := step_footprint _ ht
    exact h

def usedResponseSlots (s : RealtimeClient) : Nat :=
  s.pendingSubscriptionMutations.length + s.receive.elim 0 ReceivePhase.responseSlots +
    s.replay.elim 0 ReplayPhase.responseSlots +
    (s.changes.map SubscriptionChange.responseSlots).sum

structure ResponseSlotsKept (s : RealtimeClient) : Prop where
  nodup : (s.pendingSubscriptionMutations.map SubscriptionMutation.correlationId).Nodup
  kept : s.responseSlots + s.usedResponseSlots = s.options.sendQueueCapacity

theorem containsMutation_eq_false (hc : ¬ s.containsMutation id = true) :
    id ∉ s.pendingSubscriptionMutations.map SubscriptionMutation.correlationId := by
  simpa [containsMutation] using hc

theorem ResponseSlotsKept.nodup_register (h : s.ResponseSlotsKept)
    (hc : ¬ s.containsMutation id = true) (route : Text) (subscribe : Bool) :
    ((s.registerSubscriptionMutation id route subscribe).pendingSubscriptionMutations.map
      SubscriptionMutation.correlationId).Nodup := by
  have hm := containsMutation_eq_false hc
  simp only [registerSubscriptionMutation, map_append, map_cons, map_nil]
  exact nodup_append.mpr ⟨h.nodup, by simp, by
    intro a ha b hb
    rw [mem_singleton.mp hb]
    rintro rfl
    exact hm ha⟩

theorem ResponseSlotsKept.nodup_remove (h : s.ResponseSlotsKept) (id : Text) :
    ((withoutMutation s.pendingSubscriptionMutations id).map
      SubscriptionMutation.correlationId).Nodup :=
  h.nodup.sublist (filter_sublist.map _)

theorem length_withoutMutation {pending : List SubscriptionMutation}
    (hn : (pending.map SubscriptionMutation.correlationId).Nodup) (id : Text) :
    (withoutMutation pending id).length +
      (pending.any (fun mutation => mutation.correlationId == id)).toNat = pending.length := by
  unfold withoutMutation
  induction pending with
  | nil => simp
  | cons mutation pending ih =>
    simp only [map_cons, nodup_cons] at hn
    have ih := ih hn.2
    by_cases hm : mutation.correlationId = id
    · have hall : ∀ other ∈ pending, ¬ other.correlationId = id := by
        intro other ho he
        exact hn.1 (hm.trans he.symm ▸ List.mem_map_of_mem ho)
      simpa [hm] using hall
    · simp only [ne_eq, hm, not_false_eq_true, decide_true, filter_cons_of_pos,
        length_cons, any_cons, beq_eq_false_iff_ne.mpr hm, Bool.false_or]
      simp only [ne_eq] at ih
      omega

theorem ResponseSlotsKept.of_eq (h : s.ResponseSlotsKept) (ho : t.options = s.options)
    (hn : (t.pendingSubscriptionMutations.map SubscriptionMutation.correlationId).Nodup)
    (hs : t.responseSlots + t.usedResponseSlots = s.responseSlots + s.usedResponseSlots) :
    t.ResponseSlotsKept where
  nodup := hn
  kept := by rw [ho, ← h.kept, hs]

theorem ResponseSlotsKept.stepReceive (h : s.ResponseSlotsKept) : s.stepReceive input = some t →
    t.ResponseSlotsKept := by
  fun_cases s.stepReceive input <;> intro ht <;> cases ht
  case case11 frame hp mutation hm =>
    refine h.of_eq rfl (h.nodup_remove _) ?_
    have hc := map_observeResponse (s := s) (f := SubscriptionChange.responseSlots)
      (fun _ _ => rfl) mutation.route
    have hany : s.pendingSubscriptionMutations.any
        (fun other => other.correlationId == mutation.correlationId) = true := by
      unfold answeredMutation at hm
      split_ifs at hm
      exact List.any_eq_true.mpr ⟨mutation, mem_of_find?_eq_some hm, by simp⟩
    have hl := length_withoutMutation h.nodup mutation.correlationId
    rw [hany, Bool.toNat_true] at hl
    simp only [usedResponseSlots, applyResponse, hc, hp, elim_some,
      ReceivePhase.responseSlots]
    omega
  all_goals
    refine h.of_eq rfl h.nodup ?_
    simp [usedResponseSlots, ReceivePhase.responseSlots, beginProtocolFailure, beginStopping, *]
    try omega

theorem ResponseSlotsKept.stepReceived {received : Received} (h : s.ResponseSlotsKept) :
    s.stepReceived received = some t → t.ResponseSlotsKept := by
  fun_cases s.stepReceived received <;> intro ht <;> cases ht
  case case1 frame frames _ _ =>
    refine h.of_eq rfl h.nodup ?_
    unfold receivedPhase
    split_ifs <;> simp [usedResponseSlots, ReceivePhase.responseSlots, *]
  all_goals
    refine h.of_eq rfl h.nodup ?_
    simp [usedResponseSlots, ReceivePhase.responseSlots, *]

theorem ResponseSlotsKept.stepReplay (h : s.ResponseSlotsKept) :
    s.stepReplay input now fresh = some t → t.ResponseSlotsKept := by
  fun_cases s.stepReplay input now fresh <;> intro ht <;> cases ht
  case case15 pending command route routes hp hc =>
    refine h.of_eq rfl (h.nodup_register hc route true) ?_
    simp only [usedResponseSlots, registerSubscriptionMutation, length_append,
      length_singleton, hp, elim_some, ReplayPhase.responseSlots]
    omega
  case case18 pending command failure hp =>
    refine h.of_eq rfl (h.nodup_remove _) ?_
    have hl := length_withoutMutation h.nodup command.correlationId
    rw [← containsMutation] at hl
    by_cases hc : s.containsMutation command.correlationId = true
    all_goals
      simp only [hc, Bool.toNat_true, Bool.toNat_false] at hl
      simp only [usedResponseSlots, removeSubscriptionMutation, hp, hc, elim_some,
        if_true, Bool.false_eq_true, if_false, ReplayPhase.responseSlots]
      omega
  all_goals
    refine h.of_eq rfl h.nodup ?_
    simp [usedResponseSlots, ReplayPhase.responseSlots, *]
    try omega

theorem ResponseSlotsKept.of_change (h : s.ResponseSlotsKept) (hk : s.changes[k]? = some change)
    (hc : t.changes = s.changes.set k next) (ho : t.options = s.options)
    (hv : t.receive = s.receive) (hr : t.replay = s.replay)
    (hn : (t.pendingSubscriptionMutations.map SubscriptionMutation.correlationId).Nodup)
    (hs : t.responseSlots + t.pendingSubscriptionMutations.length + next.responseSlots =
      s.responseSlots + s.pendingSubscriptionMutations.length + change.responseSlots) :
    t.ResponseSlotsKept := by
  refine h.of_eq ho hn ?_
  have hset := sum_map_set SubscriptionChange.responseSlots hk next
  simp only [usedResponseSlots, hc, hv, hr]
  omega

theorem ResponseSlotsKept.stepChange (h : s.ResponseSlotsKept)
    (hs : ∀ change ∈ s.changes, change.Slotted)
    (ht : s.stepChange k input now fresh tooLarge = some t) : t.ResponseSlotsKept := by
  obtain ⟨change, hk, ht⟩ := stepChange_cases ht
  have hsl := hs change (mem_of_getElem? hk)
  rcases ht with ⟨hp, -, ht⟩ | ht | ht | ht <;> revert ht
  all_goals first
    | fun_cases stepRegister
    | fun_cases stepChangeEntry
    | fun_cases stepChangeApply
    | fun_cases stepChangeExit
  all_goals
    intro ht
    cases ht
  case inl.case4.refl owned _ hc =>
    have hf : change.responseSlot = true := hsl.response _ (by rw [hp]; rfl)
    refine h.of_change hk rfl rfl rfl rfl
      (h.nodup_register hc change.route change.subscribe) ?_
    simp [SubscriptionChange.responseSlots, registerSubscriptionMutation, hp, hf]
    omega
  -- The slot is the change's own again exactly when the mutation was still pending.
  case inr.inr.inr.case6.refl hp id hid =>
    have hf : change.responseSlot = true := hsl.forgetting hp (by simp [hid])
    have hl := length_withoutMutation h.nodup id
    rw [← containsMutation] at hl
    refine h.of_change hk rfl rfl rfl rfl (h.nodup_remove id) ?_
    simp only [SubscriptionChange.responseSlots, removeSubscriptionMutation, hp, hid, hf,
      Bool.true_and]
    omega
  all_goals refine h.of_change hk rfl rfl rfl rfl h.nodup ?_
  case inr.inr.inr.case3.refl hp =>
    obtain ⟨id, hid⟩ := ne_none_iff_exists'.mp (hsl.late (.inr hp))
    simp [SubscriptionChange.responseSlots, SubscriptionChange.fail, hp, hid]
  case inr.inr.inr.case8.refl proceed hp =>
    cases proceed <;> simp [SubscriptionChange.responseSlots, SubscriptionChange.goto, hp]
  case inr.inr.inr.case10.refl hp =>
    by_cases hf : change.responseSlot = true <;>
      simp [SubscriptionChange.responseSlots, hp, hf]
    omega
  all_goals
    have hf := hsl.response
    have he := hsl.early
    simp only [*, ChangePhase.responseSlot, ChangePhase.isEarly, mem_def, some.injEq,
      forall_eq', true_implies] at hf he
    try split_ifs
    all_goals
      simp [SubscriptionChange.responseSlots, setChange, SubscriptionChange.goto,
        SubscriptionChange.fail, rollbackSubscriptionChange, *]
      try omega

theorem ResponseSlotsKept.callChange (h : s.ResponseSlotsKept) :
    s.callChange route subscribe correlationId = some t → t.ResponseSlotsKept := by
  fun_cases s.callChange route subscribe correlationId <;> intro ht <;> cases ht
  refine h.of_eq rfl h.nodup ?_
  simp [usedResponseSlots, SubscriptionChange.responseSlots]

theorem ResponseSlotsKept.clear (h : s.ResponseSlotsKept) :
    s.clearPendingSubscriptionMutations.ResponseSlotsKept := by
  refine h.of_eq rfl (by simp [clearPendingSubscriptionMutations]) ?_
  simp [clearPendingSubscriptionMutations, usedResponseSlots]
  omega

theorem ResponseSlotsKept.stepRun (h : s.ResponseSlotsKept) (hta : s.tasks.Ok) :
    s.stepRun input first = some t → t.ResponseSlotsKept := by
  fun_cases s.stepRun input first <;> intro ht <;> cases ht
  case case5 hr =>
    obtain ⟨hv, hp, -, -⟩ := hta.none_of_idle (by simp [hr, RunPhase.inConnection])
    simp only [tasks_receive, tasks_replay] at hv hp
    refine h.of_eq rfl h.nodup ?_
    simp [usedResponseSlots, openConnection, hv, hp, ReceivePhase.responseSlots,
      ReplayPhase.responseSlots]
  case case20 result hr =>
    have hd := hta.done_of_clearing result hr
    simp only [Tasks.allDone, Bool.and_eq_true, tasks_receive, tasks_replay] at hd
    obtain ⟨⟨⟨hv, hp⟩, -⟩, -⟩ := hd
    have hv : s.receive.elim 0 ReceivePhase.responseSlots = 0 := by
      revert hv; rcases s.receive with _ | phase; · simp
      cases phase <;> simp [ReceivePhase.isDone, ReceivePhase.responseSlots]
    have hp : s.replay.elim 0 ReplayPhase.responseSlots = 0 := by
      revert hp; rcases s.replay with _ | phase; · simp
      cases phase <;> simp [ReplayPhase.isDone, ReplayPhase.responseSlots]
    refine h.of_eq rfl (by simp [forgetConnection]) ?_
    simp [usedResponseSlots, forgetConnection, hv, hp]
    omega
  case case33 => exact ⟨h.clear.nodup, h.clear.kept⟩
  all_goals exact ⟨h.nodup, h.kept⟩

theorem ResponseSlotsKept.stepStopper (h : s.ResponseSlotsKept) : s.stepStopper k = some t →
    t.ResponseSlotsKept := by
  fun_cases s.stepStopper k <;> intro ht <;> cases ht
  case case4 => exact ⟨h.clear.nodup, h.clear.kept⟩
  all_goals exact ⟨h.nodup, h.kept⟩

theorem ResponseSlotsKept.step (h : s.ResponseSlotsKept) (hta : s.tasks.Ok)
    (hs : ∀ change ∈ s.changes, change.Slotted) (ht : step s label = some t) :
    t.ResponseSlotsKept := by
  cases label with
  | change route subscribe correlationId => exact h.callChange ht
  | changeStep k input now fresh tooLarge => exact h.stepChange hs ht
  | stopper k => exact h.stepStopper ht
  | run input first => exact h.stepRun hta ht
  | received received => exact h.stepReceived ht
  | receive input => exact h.stepReceive ht
  | replay input now fresh => exact h.stepReplay ht
  | _ =>
    obtain ⟨u, rfl⟩ := step_footprint _ ht
    exact ⟨h.nodup, h.kept⟩

structure SlotsKept (options : RealtimeClientOptions) (s : RealtimeClient) : Prop where
  options : s.options = options
  tasks : s.tasks.Ok
  slotted : ∀ change ∈ s.changes, change.Slotted
  send : s.SendSlotsKept
  response : s.ResponseSlotsKept

theorem options_and_changes (ht : step s label = some t)
    (hs : ∀ change ∈ s.changes, change.Slotted) :
    t.options = s.options ∧ ∀ change ∈ t.changes, change.Slotted := by
  obtain ⟨u, hu⟩ := step_footprint _ ht
  refine ⟨?_, ?_⟩
  · subst hu
    cases label <;> rfl
  cases label with
  | change route subscribe correlationId => exact forall_slotted_callChange hs ht
  | changeStep k input now fresh tooLarge => exact forall_slotted_stepChange hs ht
  | receive input => exact forall_slotted_stepReceive hs ht
  | _ =>
    subst hu
    exact hs

theorem SlotsKept.step {options : RealtimeClientOptions} (h : s.SlotsKept options)
    (ht : step s label = some t) : t.SlotsKept options := by
  obtain ⟨ho, hs⟩ := options_and_changes ht h.slotted
  exact ⟨ho.trans h.options, step_tasks h.tasks ht, hs, h.send.step h.tasks h.slotted ht,
    h.response.step h.tasks h.slotted ht⟩

theorem slotsKept_initial (options : RealtimeClientOptions) : SlotsKept options { options } where
  options := rfl
  tasks := tasks_initial options
  slotted := by simp
  send _ := by simp [usedSendSlots]
  response := ⟨by simp, by simp [usedResponseSlots]⟩

end RealtimeClient

variable {options : RealtimeClientOptions} {labels : List Label} {s : RealtimeClient}

theorem slotsKept_of_run (h : step.run { options } labels = some s) : s.SlotsKept options :=
  StepFn.run_induct (fun _ _ _ hs ht => hs.step ht) (RealtimeClient.slotsKept_initial options) h

theorem send_slots_conserved (h : step.run { options } labels = some s)
    (hc : s.completed = false) : s.sendSlots + s.usedSendSlots = options.sendQueueCapacity := by
  have hk := slotsKept_of_run h
  rw [← hk.options]
  exact hk.send hc

theorem response_slots_conserved (h : step.run { options } labels = some s) :
    s.responseSlots + s.usedResponseSlots = options.sendQueueCapacity ∧
      s.responseSlots ≤ options.sendQueueCapacity := by
  have hk := slotsKept_of_run h
  have hr := hk.response.kept
  rw [hk.options] at hr
  exact ⟨hr, by omega⟩

def exampleSubscribing : List Label :=
  connectSteps ++ [.change (utf16 "orders") true none] ++
    List.replicate 17 (.changeStep 0 .ok exampleClock exampleFresh false)

theorem send_slots_conserved_subscribing : ∃ s : RealtimeClient,
    step.run { options := {} } exampleSubscribing = some s ∧ s.completed = false ∧
      s.sendSlots = 127 ∧ s.sendSlots + s.usedSendSlots = 128 := by
  have hrun : ∃ s, step.run { options := {} } exampleSubscribing = some s ∧
      s.completed = false ∧ s.sendSlots = 127 := by decide +kernel
  obtain ⟨s, hs, hc, hsl⟩ := hrun
  exact ⟨s, hs, hc, hsl, send_slots_conserved hs hc⟩

theorem response_slots_conserved_subscribing : ∃ s : RealtimeClient,
    step.run { options := {} } exampleSubscribing = some s ∧ s.responseSlots = 127 ∧
      s.responseSlots + s.usedResponseSlots = 128 := by
  have hrun : ∃ s, step.run { options := {} } exampleSubscribing = some s ∧
      s.responseSlots = 127 := by decide +kernel
  obtain ⟨s, hs, hc⟩ := hrun
  exact ⟨s, hs, hc, (response_slots_conserved hs).1⟩

end Realtime.Client
