import Realtime.Client.Machine

/-! Which tasks of the client exist in which phase of `RunAsync`. The loops of a
connection start and end with it, the send and heartbeat loops only run once the
replay has returned, and the channels are completed after the last connection. -/

namespace Realtime.Client

open RealtimeClient

/-- The part of the client that the life of its tasks depends on. -/
structure Tasks where
  run : RunPhase
  receive : Option ReceivePhase
  replay : Option ReplayPhase
  send : Option SendPhase
  heartbeat : Option HeartbeatPhase
  completed : Bool
  stoppers : List Stopper

def RealtimeClient.tasks (s : RealtimeClient) : Tasks :=
  ⟨s.run, s.receive, s.replay, s.send, s.heartbeat, s.completed, s.stoppers⟩

section

variable (s : RealtimeClient)

@[simp] theorem tasks_run : s.tasks.run = s.run := rfl
@[simp] theorem tasks_receive : s.tasks.receive = s.receive := rfl
@[simp] theorem tasks_replay : s.tasks.replay = s.replay := rfl
@[simp] theorem tasks_send : s.tasks.send = s.send := rfl
@[simp] theorem tasks_heartbeat : s.tasks.heartbeat = s.heartbeat := rfl
@[simp] theorem tasks_completed : s.tasks.completed = s.completed := rfl

end

def RunPhase.inConnection : RunPhase → Bool
  | awaitingReplay | reporting | awaitingLoops | leaving _ | cancelling _ | observing _
  | clearing _ => true
  | _ => false

def RunPhase.isFinal : RunPhase → Bool
  | discarding | forgetting | ending | disconnecting | ended | skipped => true
  | _ => false

def Stopper.completes : Stopper → Bool
  | cancelling completeWithoutRun => completeWithoutRun
  | completing | discarding | forgetting => true
  | finished => false

namespace Tasks

def allDone (tasks : Tasks) : Bool :=
  tasks.receive.all ReceivePhase.isDone && tasks.replay.all ReplayPhase.isDone &&
    tasks.send.all SendPhase.isDone && tasks.heartbeat.all HeartbeatPhase.isDone

structure Ok (tasks : Tasks) : Prop where
  none_of_idle : tasks.run.inConnection = false →
    tasks.receive = none ∧ tasks.replay = none ∧ tasks.send = none ∧ tasks.heartbeat = none
  some_of_connection : tasks.run.inConnection = true →
    tasks.receive.isSome = true ∧ tasks.replay.isSome = true
  loops_none : tasks.run = .awaitingReplay ∨ tasks.run = .reporting →
    tasks.send = none ∧ tasks.heartbeat = none
  replayed : tasks.send ≠ none ∨ tasks.heartbeat ≠ none ∨ tasks.run = .reporting →
    ∃ close, tasks.replay = some (.done (.returned close))
  done_of_clearing : ∀ result, tasks.run = .clearing result → tasks.allDone = true
  final_of_completed : tasks.completed = true → tasks.run.isFinal = true
  completed_of_final : tasks.run.isFinal = true → tasks.run ≠ .skipped → tasks.completed = true
  skipped_of_stopper : ∀ stopper ∈ tasks.stoppers, stopper.completes = true → tasks.run = .skipped
  completed_of_stopper : Stopper.discarding ∈ tasks.stoppers → tasks.completed = true

variable {tasks : Tasks}

theorem Ok.of_receive (h : tasks.Ok) {phase next : ReceivePhase} (hp : tasks.receive = some phase)
    (hd : phase.isDone = false) : Ok { tasks with receive := some next } := { h with
  none_of_idle hi := by simp [(h.none_of_idle hi).1] at hp
  some_of_connection hc := ⟨rfl, (h.some_of_connection hc).2⟩
  done_of_clearing result hr := by simpa [allDone, hp, hd] using h.done_of_clearing result hr }

theorem Ok.of_replay (h : tasks.Ok) {phase next : ReplayPhase} (hp : tasks.replay = some phase)
    (hd : phase.isDone = false) : Ok { tasks with replay := some next } := { h with
  none_of_idle hi := by simp [(h.none_of_idle hi).2.1] at hp
  some_of_connection hc := ⟨(h.some_of_connection hc).1, rfl⟩
  replayed hs := by
    obtain ⟨close, hc⟩ := h.replayed hs
    rw [hp] at hc
    cases hc
    cases hd
  done_of_clearing result hr := by simpa [allDone, hp, hd] using h.done_of_clearing result hr }

theorem Ok.of_send (h : tasks.Ok) {phase next : SendPhase} (hp : tasks.send = some phase)
    (hd : phase.isDone = false) : Ok { tasks with send := some next } := { h with
  none_of_idle hi := by simp [(h.none_of_idle hi).2.2.1] at hp
  loops_none hr := by simp [(h.loops_none hr).1] at hp
  replayed _ := h.replayed (.inl (by simp [hp]))
  done_of_clearing result hr := by simpa [allDone, hp, hd] using h.done_of_clearing result hr }

theorem Ok.of_heartbeat (h : tasks.Ok) {phase next : HeartbeatPhase}
    (hp : tasks.heartbeat = some phase) (hd : phase.isDone = false) :
    Ok { tasks with heartbeat := some next } := { h with
  none_of_idle hi := by simp [(h.none_of_idle hi).2.2.2] at hp
  loops_none hr := by simp [(h.loops_none hr).2] at hp
  replayed _ := h.replayed (.inr (.inl (by simp [hp])))
  done_of_clearing result hr := by simpa [allDone, hp, hd] using h.done_of_clearing result hr }

theorem Ok.skipped_of_run (h : tasks.Ok) (hr : tasks.run ≠ .skipped) {P : Prop}
    (stopper : Stopper) (hm : stopper ∈ tasks.stoppers) (hc : stopper.completes = true) : P :=
  absurd (h.skipped_of_stopper stopper hm hc) hr

theorem Ok.of_idle (h : tasks.Ok) {phase next : RunPhase} {completed : Bool}
    (hr : tasks.run = phase) (hi : phase.inConnection = false) (hk : phase ≠ .skipped)
    (hn : next.inConnection = false) (hf : completed = true → next.isFinal = true)
    (hg : next.isFinal = true → completed = true) :
    Ok { tasks with run := next, completed := completed } := by
  subst hr
  obtain ⟨hr, hp, hs, hb⟩ := h.none_of_idle hi
  constructor
  · exact fun _ => ⟨hr, hp, hs, hb⟩
  · exact fun hc => by simp [hn] at hc
  · exact fun _ => ⟨hs, hb⟩
  · rintro (hs' | hb' | rfl)
    · exact absurd hs hs'
    · exact absurd hb hb'
    · cases hn
  · rintro result rfl
    cases hn
  · exact hf
  · exact fun he _ => hg he
  · exact fun stopper => h.skipped_of_run hk stopper
  · exact fun hm => h.skipped_of_run hk _ hm rfl

theorem Ok.of_connection (h : tasks.Ok) (hi : tasks.run.inConnection = true) {next : RunPhase}
    (hn : next.inConnection = true)
    (hl : next = .awaitingReplay ∨ next = .reporting → tasks.send = none ∧ tasks.heartbeat = none)
    (hp : next = .reporting → ∃ close, tasks.replay = some (.done (.returned close)))
    (hd : ∀ result, next = .clearing result → tasks.allDone = true) :
    Ok { tasks with run := next } where
  none_of_idle hf := by simp [hn] at hf
  some_of_connection _ := h.some_of_connection hi
  loops_none := hl
  replayed := by
    rintro (hs | hb | hr)
    · exact h.replayed (.inl hs)
    · exact h.replayed (.inr (.inl hb))
    · exact hp hr
  done_of_clearing := hd
  final_of_completed hc := by
    have hf := h.final_of_completed hc
    revert hf hi
    cases tasks.run <;> simp [RunPhase.isFinal, RunPhase.inConnection]
  completed_of_final hf := by
    revert hf hn
    cases next <;> simp [RunPhase.isFinal, RunPhase.inConnection]
  skipped_of_stopper stopper :=
    h.skipped_of_run (fun hs => by simp [hs, RunPhase.inConnection] at hi) stopper
  completed_of_stopper := h.completed_of_stopper

theorem Ok.opened (h : tasks.Ok) (hi : tasks.run = .connecting) :
    Ok ⟨.awaitingReplay, some .receiving, some .waiting, none, none, tasks.completed,
      tasks.stoppers⟩ where
  none_of_idle hf := by cases hf
  some_of_connection _ := ⟨rfl, rfl⟩
  loops_none _ := ⟨rfl, rfl⟩
  replayed := by simp
  done_of_clearing := by simp
  final_of_completed hc := by
    have hf := h.final_of_completed hc
    simp [hi, RunPhase.isFinal] at hf
  completed_of_final hf := by cases hf
  skipped_of_stopper stopper := h.skipped_of_run (by simp [hi]) stopper
  completed_of_stopper := h.completed_of_stopper

theorem Ok.reported (h : tasks.Ok) (hi : tasks.run = .reporting) :
    Ok { tasks with
      run := .awaitingLoops, send := some .waiting, heartbeat := some .delaying } where
  none_of_idle hf := by cases hf
  some_of_connection _ := h.some_of_connection (by simp [hi, RunPhase.inConnection])
  loops_none := by simp
  replayed _ := h.replayed (.inr (.inr hi))
  done_of_clearing := by simp
  final_of_completed hc := by
    have hf := h.final_of_completed hc
    simp [hi, RunPhase.isFinal] at hf
  completed_of_final hf := by cases hf
  skipped_of_stopper stopper := h.skipped_of_run (by simp [hi]) stopper
  completed_of_stopper := h.completed_of_stopper

theorem Ok.forgotten (h : tasks.Ok) (hi : tasks.run.inConnection = true) {next : RunPhase}
    (hn : next.inConnection = false) (hf : next.isFinal = false) :
    Ok ⟨next, none, none, none, none, tasks.completed, tasks.stoppers⟩ where
  none_of_idle _ := ⟨rfl, rfl, rfl, rfl⟩
  some_of_connection hc := by simp [hn] at hc
  loops_none _ := ⟨rfl, rfl⟩
  replayed := by
    rintro (hs | hb | rfl)
    · exact absurd rfl hs
    · exact absurd rfl hb
    · cases hn
  done_of_clearing _ _ := rfl
  final_of_completed hc := by
    have hf := h.final_of_completed hc
    revert hf hi
    cases tasks.run <;> simp [RunPhase.isFinal, RunPhase.inConnection]
  completed_of_final hn := by simp [hf] at hn
  skipped_of_stopper stopper :=
    h.skipped_of_run (fun hs => by simp [hs, RunPhase.inConnection] at hi) stopper
  completed_of_stopper := h.completed_of_stopper

end Tasks

section

variable {s t : RealtimeClient} {input : Await} {now : UtcNow} {fresh : Guid} {k : Nat}

/-- A step of a change is one of its registration or of one of its three parts. -/
theorem stepChange_cases {tooLarge : Bool} : s.stepChange k input now fresh tooLarge = some t →
    ∃ change, s.changes[k]? = some change ∧
      (change.phase = .registering ∧ input = .ok ∧
          s.stepRegister k change now fresh tooLarge = some t ∨
        s.stepChangeEntry k change input = some t ∨ s.stepChangeApply k change input = some t ∨
        s.stepChangeExit k change input = some t) := by
  fun_cases s.stepChange k input now fresh tooLarge <;> intro ht
  case case1 | case3 => cases ht
  case case2 change hk hp hi => exact ⟨change, hk, .inl ⟨hp, hi, ht⟩⟩
  all_goals exact ⟨_, ‹_›, by simp [ht]⟩

theorem stepReceive_tasks : s.stepReceive input = some t →
    ∃ phase next, s.receive = some phase ∧ phase.isDone = false ∧
      t.tasks = { s.tasks with receive := some next } := by
  fun_cases s.stepReceive input <;> intro ht <;> cases ht
  all_goals exact ⟨_, _, by assumption, rfl, rfl⟩

theorem stepReplay_tasks : s.stepReplay input now fresh = some t →
    ∃ phase next, s.replay = some phase ∧ phase.isDone = false ∧
      t.tasks = { s.tasks with replay := some next } := by
  fun_cases s.stepReplay input now fresh <;> intro ht <;> cases ht
  all_goals exact ⟨_, _, by assumption, rfl, rfl⟩

theorem stepSend_tasks : s.stepSend input now = some t →
    ∃ phase next, s.send = some phase ∧ phase.isDone = false ∧
      t.tasks = { s.tasks with send := some next } := by
  fun_cases s.stepSend input now <;> intro ht <;> cases ht
  all_goals exact ⟨_, _, by assumption, rfl, rfl⟩

theorem stepHeartbeat_tasks : s.stepHeartbeat input now fresh = some t →
    ∃ phase next, s.heartbeat = some phase ∧ phase.isDone = false ∧
      t.tasks = { s.tasks with heartbeat := some next } := by
  fun_cases s.stepHeartbeat input now fresh <;> intro ht <;> cases ht
  all_goals exact ⟨_, _, by assumption, rfl, rfl⟩

variable {tasks : Tasks} {label : Label}

/-- A client after a step: the parts that a step with this label may change are those of another
client. -/
def Label.footprint (s u : RealtimeClient) : Label → RealtimeClient
  | .connect | .disconnect | .dispose => { s with
      state := u.state, acceptingSends := u.acceptingSends, disposed := u.disposed,
      connectPending := u.connectPending, run := u.run, stoppers := u.stoppers }
  | .cancelConnect => { s with cancelled := u.cancelled }
  | .connectReturned => { s with connectPending := u.connectPending }
  | .consume => { s with inbound := u.inbound }
  | .send .. => { s with applicationIds := u.applicationIds, senders := u.senders }
  | .change .. => { s with commandIds := u.commandIds, changes := u.changes }
  | .sender .. => { s with
      sendSlots := u.sendSlots, senders := u.senders, outbound := u.outbound,
      accepted := u.accepted }
  | .changeStep .. => { s with
      orderGate := u.orderGate, gate := u.gate, sendSlots := u.sendSlots,
      responseSlots := u.responseSlots, subscriptions := u.subscriptions,
      pendingSubscriptionMutations := u.pendingSubscriptionMutations,
      nextSubscriptionMutationSequence := u.nextSubscriptionMutationSequence,
      activeSubscriptionRollback := u.activeSubscriptionRollback, outbound := u.outbound,
      commandIds := u.commandIds, changes := u.changes }
  | .stopper _ => { s with
      acceptingSends := u.acceptingSends, cancelled := u.cancelled, completed := u.completed,
      outbound := u.outbound, inbound := u.inbound, replayBacklog := u.replayBacklog,
      heartbeatCorrelations := u.heartbeatCorrelations, responseSlots := u.responseSlots,
      pendingSubscriptionMutations := u.pendingSubscriptionMutations,
      confirmedSubscriptions := u.confirmedSubscriptions, stoppers := u.stoppers }
  | .run .. => { s with
      state := u.state, acceptingSends := u.acceptingSends,
      connectionCancelled := u.connectionCancelled, completed := u.completed,
      outbound := u.outbound, inbound := u.inbound, replayBacklog := u.replayBacklog,
      heartbeatCorrelations := u.heartbeatCorrelations, responseSlots := u.responseSlots,
      pendingSubscriptionMutations := u.pendingSubscriptionMutations,
      confirmedSubscriptions := u.confirmedSubscriptions, run := u.run,
      reconnectAttempt := u.reconnectAttempt, transportOpen := u.transportOpen, opened := u.opened,
      receive := u.receive, replay := u.replay, send := u.send, heartbeat := u.heartbeat,
      wire := u.wire, serverSubscriptions := u.serverSubscriptions, frames := u.frames }
  | .received _ => { s with receive := u.receive, frames := u.frames }
  | .receive _ => { s with
      state := u.state, acceptingSends := u.acceptingSends, inbound := u.inbound,
      heartbeatCorrelations := u.heartbeatCorrelations, responseSlots := u.responseSlots,
      pendingSubscriptionMutations := u.pendingSubscriptionMutations,
      confirmedSubscriptions := u.confirmedSubscriptions, subscriptions := u.subscriptions,
      changes := u.changes, receive := u.receive }
  | .replay .. => { s with
      gate := u.gate, sendSlots := u.sendSlots, responseSlots := u.responseSlots,
      pendingSubscriptionMutations := u.pendingSubscriptionMutations,
      nextSubscriptionMutationSequence := u.nextSubscriptionMutationSequence,
      heartbeatCorrelations := u.heartbeatCorrelations, replayBacklog := u.replayBacklog,
      outbound := u.outbound, commandIds := u.commandIds, wire := u.wire, sent := u.sent,
      replay := u.replay }
  | .sendLoop .. => { s with
      outbound := u.outbound, sendSlots := u.sendSlots, replayBacklog := u.replayBacklog,
      wire := u.wire, sent := u.sent, send := u.send }
  | .heartbeat .. => { s with
      outbound := u.outbound, sendSlots := u.sendSlots, heartbeatIds := u.heartbeatIds,
      heartbeatCorrelations := u.heartbeatCorrelations, heartbeat := u.heartbeat }
  | .serve .. => { s with
      wire := u.wire, serverSubscriptions := u.serverSubscriptions, frames := u.frames }
  | .push _ => { s with frames := u.frames }

theorem step_footprint (label : Label) (ht : step s label = some t) :
    ∃ u, t = label.footprint s u := by
  refine ⟨t, ?_⟩
  revert ht
  cases label <;> simp only [step]
  case connect => fun_cases callConnect s <;> intro ht <;> cases ht <;> rfl
  case disconnect => fun_cases callDisconnect s <;> intro ht <;> cases ht <;> rfl
  case dispose => fun_cases callDispose s <;> intro ht <;> cases ht <;> rfl
  case cancelConnect => intro ht; split at ht <;> cases ht; rfl
  case connectReturned => intro ht; cases ht; rfl
  case consume => intro ht; split at ht <;> cases ht; rfl
  case send message now tooLarge =>
    fun_cases s.callSend message now tooLarge <;> intro ht <;> cases ht
    rfl
  case change route subscribe correlationId =>
    fun_cases s.callChange route subscribe correlationId <;> intro ht <;> cases ht
    rfl
  case sender k input => fun_cases s.stepSender k input <;> intro ht <;> cases ht <;> rfl
  case changeStep k input now fresh tooLarge =>
    fun_cases s.stepChange k input now fresh tooLarge
    all_goals first
      | fun_cases stepRegister
      | fun_cases stepChangeEntry
      | fun_cases stepChangeApply
      | fun_cases stepChangeExit
      | skip
    all_goals
      intro ht
      cases ht <;> rfl
  case stopper k => fun_cases s.stepStopper k <;> intro ht <;> cases ht <;> rfl
  case run input first => fun_cases s.stepRun input first <;> intro ht <;> cases ht <;> rfl
  case received received => fun_cases s.stepReceived received <;> intro ht <;> cases ht <;> rfl
  case receive input => fun_cases s.stepReceive input <;> intro ht <;> cases ht <;> rfl
  case replay input now fresh =>
    fun_cases s.stepReplay input now fresh <;> intro ht <;> cases ht <;> rfl
  case sendLoop input now => fun_cases s.stepSend input now <;> intro ht <;> cases ht <;> rfl
  case heartbeat input now fresh =>
    fun_cases s.stepHeartbeat input now fresh <;> intro ht <;> cases ht <;> rfl
  case serve accepted now =>
    fun_cases s.serve accepted now <;> intro ht <;> cases ht
    rfl
  case push envelope =>
    fun_cases s.push envelope <;> intro ht <;> cases ht
    rfl

theorem stepReceived_tasks {received : Received} : s.stepReceived received = some t →
    ∃ phase next, s.receive = some phase ∧ phase.isDone = false ∧
      t.tasks = { s.tasks with receive := some next } := by
  fun_cases s.stepReceived received <;> intro ht <;> cases ht
  all_goals exact ⟨_, _, by assumption, rfl, rfl⟩

theorem afterConnection_inConnection (result : Completion) :
    (RealtimeClient.afterConnection result).inConnection = false := by
  cases result <;> rfl

theorem afterConnection_isFinal (result : Completion) :
    (RealtimeClient.afterConnection result).isFinal = false := by
  cases result <;> rfl

theorem catchPhase_inConnection (failure : Failure) :
    (s.catchPhase failure).inConnection = false := by
  unfold catchPhase
  split_ifs <;> rfl

theorem catchPhase_isFinal (failure : Failure) : (s.catchPhase failure).isFinal = false := by
  unfold catchPhase
  split_ifs <;> rfl

theorem stepRun_tasks {first : FirstLoop} (h : s.tasks.Ok) (ht : s.stepRun input first = some t) :
    t.tasks.Ok := by
  have hop (hr : s.run.isFinal = false) (hc : s.completed = true) : False := by
    have hf : s.run.isFinal = true := h.final_of_completed hc
    simp [hr] at hf
  revert ht
  fun_cases s.stepRun input first <;> intro ht <;> cases ht
  case case5 hr => exact h.opened hr
  case case11 hr => exact h.reported hr
  case case20 result hr =>
    exact h.forgotten (by simp [hr, RunPhase.inConnection])
      (afterConnection_inConnection result) (afterConnection_isFinal result)
  -- The phases of a connection.
  case case8 hr _ hp _ =>
    have hl : s.send = none ∧ s.heartbeat = none := h.loops_none (.inl hr)
    exact h.of_connection (by simp [hr, RunPhase.inConnection]) rfl
      (fun _ => hl) (fun _ => ⟨_, hp⟩) nofun
  case case18 hr hd =>
    exact h.of_connection (by simp [hr, RunPhase.inConnection]) rfl
      (by simp) (by simp) (fun _ _ => hd)
  all_goals try
    have hr : s.run.inConnection = true := by simp [RunPhase.inConnection, *]
    exact h.of_connection hr rfl (by simp) (by simp) (by simp)
  -- The phases outside a connection; only `CompleteChannels` completes the writers.
  all_goals
    refine h.of_idle (by assumption) rfl (by simp) ?_ ?_ ?_
    · first
      | rfl
      | exact catchPhase_inConnection _
      | (split_ifs <;> rfl)
    · first
      | exact fun _ => rfl
      | (intro _; split_ifs <;> rfl)
      | exact fun hc => (hop (by simp [RunPhase.isFinal, *]) hc).elim
    · first
      | exact fun _ => rfl
      | (intro hf; rw [catchPhase_isFinal] at hf; cases hf)
      | (intro hf; cases hf; done)
      | (intro hf; split_ifs at hf <;> cases hf; done)
      | exact fun _ => h.completed_of_final (by simp [RunPhase.isFinal, *])
          (by simp [*])

theorem callConnect_tasks (h : s.tasks.Ok) (ht : s.callConnect = some t) : t.tasks.Ok := by
  have hop (hr : s.run.isFinal = false) (hc : s.completed = true) : False := by
    have hf : s.run.isFinal = true := h.final_of_completed hc
    simp [hr] at hf
  revert ht
  fun_cases callConnect s <;> intro ht <;> cases ht
  all_goals
    have hr : s.run = .idle := not_not.mp ‹¬ s.run ≠ .idle›
    exact h.of_idle hr rfl (by simp) rfl
      (fun hc => (hop (by simp [RunPhase.isFinal, hr]) hc).elim) nofun

theorem Tasks.Ok.stopped (h : tasks.Ok) (hr : tasks.run = .idle) :
    Tasks.Ok { tasks with run := .skipped, stoppers := tasks.stoppers ++ [.cancelling true] } where
  none_of_idle _ := h.none_of_idle (by simp [hr, RunPhase.inConnection])
  some_of_connection hc := by cases hc
  loops_none := by simp
  replayed := by
    obtain ⟨-, -, hs, hb⟩ := h.none_of_idle (by simp [hr, RunPhase.inConnection])
    simp [hs, hb]
  done_of_clearing := by simp
  final_of_completed _ := rfl
  completed_of_final _ hs := absurd rfl hs
  skipped_of_stopper _ _ _ := rfl
  completed_of_stopper hm := by
    rcases List.mem_append.mp hm with hm | hm
    · exact h.completed_of_stopper hm
    · simp at hm

theorem Tasks.Ok.joined (h : tasks.Ok) :
    Tasks.Ok { tasks with stoppers := tasks.stoppers ++ [.cancelling false] } := { h with
  skipped_of_stopper stopper hm hc := by
    rcases List.mem_append.mp hm with hm | hm
    · exact h.skipped_of_stopper stopper hm hc
    · rw [List.mem_singleton.mp hm] at hc
      cases hc
  completed_of_stopper hm := by
    rcases List.mem_append.mp hm with hm | hm
    · exact h.completed_of_stopper hm
    · simp at hm }

theorem callDisconnect_tasks (h : s.tasks.Ok) : s.callDisconnect = some t → t.tasks.Ok := by
  fun_cases callDisconnect s <;> intro ht <;> cases ht
  · exact h.stopped ‹_›
  · exact h
  · exact h.joined

theorem callDispose_tasks (h : s.tasks.Ok) : s.callDispose = some t → t.tasks.Ok := by
  fun_cases callDispose s <;> intro ht <;> cases ht
  · exact h.stopped ‹_›
  · exact h.joined

theorem Tasks.Ok.of_stopper (h : tasks.Ok) {stopper next : Stopper}
    (hk : tasks.stoppers[k]? = some stopper) (hn : next.completes = true → stopper.completes = true)
    {completed : Bool} (hf : completed = true → tasks.run.isFinal = true)
    (hg : tasks.completed = true ∨ next = .discarding → completed = true) :
    Tasks.Ok { tasks with completed := completed, stoppers := tasks.stoppers.set k next } :=
  { h with
  final_of_completed := hf
  completed_of_final hf hs := hg (.inl (h.completed_of_final hf hs))
  skipped_of_stopper other hm hc := by
    rcases List.mem_or_eq_of_mem_set hm with hm | rfl
    · exact h.skipped_of_stopper other hm hc
    · exact h.skipped_of_stopper stopper (List.mem_of_getElem? hk) (hn hc)
  completed_of_stopper hm := by
    rcases List.mem_or_eq_of_mem_set hm with hm | hm
    · exact hg (.inl (h.completed_of_stopper hm))
    · exact hg (.inr hm.symm) }

theorem stepStopper_tasks (h : s.tasks.Ok) : s.stepStopper k = some t → t.tasks.Ok := by
  fun_cases s.stepStopper k <;> intro ht <;> cases ht
  case case1 completeWithoutRun hk =>
    refine h.of_stopper hk (by cases completeWithoutRun <;> simp [Stopper.completes])
      h.final_of_completed ?_
    rintro (hc | hc)
    · exact hc
    · split_ifs at hc
  case case2 hk =>
    have hr : s.run = .skipped := h.skipped_of_stopper _ (List.mem_of_getElem? hk) rfl
    exact h.of_stopper hk (fun _ => rfl)
      (fun _ => by simp [hr, RunPhase.isFinal]) (fun _ => rfl)
  all_goals
    refine h.of_stopper ‹_› (fun _ => rfl) h.final_of_completed ?_
    rintro (hc | hc)
    · exact hc
    · cases hc

theorem step_tasks (h : s.tasks.Ok) (ht : step s label = some t) : t.tasks.Ok := by
  cases label with
  | connect => exact callConnect_tasks h ht
  | disconnect => exact callDisconnect_tasks h ht
  | dispose => exact callDispose_tasks h ht
  | stopper k => exact stepStopper_tasks h ht
  | run input first => exact stepRun_tasks h ht
  | received received =>
    obtain ⟨phase, next, hp, hd, he⟩ := stepReceived_tasks ht
    exact he ▸ h.of_receive hp hd
  | receive input =>
    obtain ⟨phase, next, hp, hd, he⟩ := stepReceive_tasks ht
    exact he ▸ h.of_receive hp hd
  | replay input now fresh =>
    obtain ⟨phase, next, hp, hd, he⟩ := stepReplay_tasks ht
    exact he ▸ h.of_replay hp hd
  | sendLoop input now =>
    obtain ⟨phase, next, hp, hd, he⟩ := stepSend_tasks ht
    exact he ▸ h.of_send hp hd
  | heartbeat input now fresh =>
    obtain ⟨phase, next, hp, hd, he⟩ := stepHeartbeat_tasks ht
    exact he ▸ h.of_heartbeat hp hd
  | _ =>
    obtain ⟨u, rfl⟩ := step_footprint _ ht
    exact h

theorem tasks_initial (options : RealtimeClientOptions) :
    (RealtimeClient.tasks { options }).Ok where
  none_of_idle _ := ⟨rfl, rfl, rfl, rfl⟩
  some_of_connection hc := by cases hc
  loops_none := by simp [tasks]
  replayed := by simp [tasks]
  done_of_clearing := by simp [tasks]
  final_of_completed hc := by cases hc
  completed_of_final hf := by cases hf
  skipped_of_stopper _ hm := by cases hm
  completed_of_stopper hm := by cases hm

end

end Realtime.Client
