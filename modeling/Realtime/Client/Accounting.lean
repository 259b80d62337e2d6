import Realtime.Client.Ledger

/-! What the messages of a connection are: registered subscription commands, each
under an identifier that nothing else carries, and messages of the application and
of the heartbeat loop. The frames of the server answer them or are no responses. -/

namespace Realtime.Client

open RealtimeClient List Option

def ReceivePhase.unprocessed : ReceivePhase → List ServerFrame
  | filtering frame | responding frame => [frame]
  | _ => []

/-- A frame of the server is an answer to a message, or no response at all. -/
inductive ServerFrame.Ok : ServerFrame → Prop
  | pushed (envelope : ServerMessageEnvelope) (h : isResponse envelope = false) : Ok ⟨envelope, none⟩
  | answered (message : OutboundMessage) (accepted : Bool) (now : UtcNow)
      (h : ProtocolValidator.validateServer
        (some (RealtimeClient.answer message.envelope accepted now)) = .valid) :
      Ok ⟨RealtimeClient.answer message.envelope accepted now, some message⟩

theorem ServerFrame.Ok.receivedPhase_eq {frame : ServerFrame} (hok : frame.Ok)
    (ha : frame.answers ≠ none) : RealtimeClient.receivedPhase frame = .filtering frame := by
  cases hok with
  | pushed envelope h => exact absurd rfl ha
  | answered message accepted now hva =>
    have hack : ProtocolMessageTypes.acknowledge ≠ ProtocolMessageTypes.serviceRestart := by decide
    have herr : ProtocolMessageTypes.error ≠ ProtocolMessageTypes.serviceRestart := by decide
    have hty : (RealtimeClient.answer message.envelope accepted now).type ≠
        some ProtocolMessageTypes.serviceRestart := by
      cases accepted <;> simp [answer, hack, herr]
    simp only [receivedPhase, hva, if_true, if_neg hty]

def ChangePhase.isEarly : ChangePhase → Bool
  | enqueuing _ | rejecting | settling | forgetting | rollingBack | releasing false
  | returningSendSlot | returningResponseSlot | unordering | finished => false
  | _ => true

structure SubscriptionChange.Prepared (change : SubscriptionChange) : Prop where
  early : change.phase.isEarly = true → change.registered = none
  command : ∀ message, change.phase = .enqueuing message → ∃ id,
    change.registered = some id ∧ message.command = some ⟨id, change.route, change.subscribe⟩

def ReplayPhase.Prepared (ids : List Text) : ReplayPhase → Prop
  | registering _ command route _ | sending _ command route _ =>
    command.command = some ⟨command.correlationId, route, true⟩ ∧ command.correlationId ∈ ids
  | _ => True

theorem ReplayPhase.prepared_mono {ids more : List Text} {phase : ReplayPhase}
    (h : phase.Prepared ids) (hm : ∀ id ∈ ids, id ∈ more) : phase.Prepared more := by
  cases phase <;> first | trivial | exact ⟨h.1, hm _ h.2⟩

namespace RealtimeClient

def unprocessed (s : RealtimeClient) : List ServerFrame :=
  s.receive.elim [] ReceivePhase.unprocessed ++ s.frames

/-- Registered commands carry identifiers that no other message carries. -/
structure Registered (s : RealtimeClient) : Prop where
  command_ids : ∀ id ∈ s.commandIds, id ∉ s.applicationIds ∧ id ∉ s.heartbeatIds
  change_ids : ∀ change ∈ s.changes, isNullOrWhiteSpace change.correlationId = false →
    change.correlationId.getD [] ∈ s.commandIds
  change_prepared : ∀ change ∈ s.changes, change.Prepared
  replay_prepared : ∀ phase, s.replay = some phase → phase.Prepared s.commandIds
  pending_ids : ∀ mutation ∈ s.pendingSubscriptionMutations,
    mutation.correlationId ∈ s.commandIds

/-- The callers' part: a registration finds the client Connected, and application
messages and subscription commands are not given the same identifier. -/
def attentive (s : RealtimeClient) : Label → Bool
  | .changeStep k _ _ _ _ => s.changes[k]?.all (fun change =>
      match change.phase with
      | .registering => s.state == .connected
      | _ => true)
  | .send message _ _ => decide (message.correlationId.getD [] ∉ s.commandIds)
  | .change _ _ correlationId =>
    isNullOrWhiteSpace correlationId || decide (correlationId.getD [] ∉ s.applicationIds)
  | _ => true

variable {s t : RealtimeClient} {input : Await} {now : UtcNow} {fresh : Guid} {k : Nat}
  {change next : SubscriptionChange}

variable {tooLarge subscribe : Bool} {route : Text} {first : FirstLoop} {label : Label}

theorem correlationId_of_prepared {message owned : MessageEnvelope}
    (h : prepareOwnedMessage message now tooLarge = some owned) :
    owned.correlationId = message.correlationId := by
  simp only [prepareOwnedMessage, ite_none_right_eq_some, some.injEq] at h
  obtain ⟨-, rfl⟩ := h
  rfl

theorem command_subscriptionCommand {id : Option Text} {message : OutboundMessage}
    (h : prepareOwnedMessage (subscriptionCommand subscribe route id fresh now) now tooLarge = some
      message.envelope) :
    message.command = some ⟨message.correlationId, route, subscribe⟩ := by
  simp only [prepareOwnedMessage, ite_none_right_eq_some, some.injEq] at h
  obtain ⟨-, he⟩ := h
  have hty : message.envelope.type = some (if subscribe then ProtocolMessageTypes.subscribe
      else ProtocolMessageTypes.unsubscribe) := by rw [← he]; rfl
  have hro : message.envelope.route = some route := by rw [← he]; rfl
  have hne : ProtocolMessageTypes.unsubscribe ≠ ProtocolMessageTypes.subscribe := by decide
  cases subscribe <;>
    simp [OutboundMessage.command, isSubscriptionCommand, hty, hro, hne]

theorem subscriptionCommand_correlationId (subscribe : Bool) (route : Text) (id : Option Text) :
    (subscriptionCommand subscribe route id fresh now).correlationId.getD [] =
      if isNullOrWhiteSpace id then fresh.toText else id.getD [] := rfl

theorem Registered.change_ids_set (h : s.Registered) (hk : s.changes[k]? = some change)
    (hid : next.correlationId = change.correlationId) : ∀ other ∈ s.changes.set k next,
      isNullOrWhiteSpace other.correlationId = false →
        other.correlationId.getD [] ∈ s.commandIds := by
  refine forall_mem_set h.change_ids ?_
  rw [hid]
  exact h.change_ids change (mem_of_getElem? hk)

theorem mem_withoutMutation {pending : List SubscriptionMutation} {id : Text}
    {mutation : SubscriptionMutation} (h : mutation ∈ withoutMutation pending id) :
    mutation ∈ pending :=
  (mem_filter.mp h).1

theorem Registered.stepRegister (h : s.Registered) (hk : s.changes[k]? = some change)
    (hp : change.phase = .registering) (ht : s.stepRegister k change now fresh tooLarge = some t) :
    t.Registered := by
  have hno : change.registered = none :=
    (h.change_prepared change (mem_of_getElem? hk)).early (by rw [hp]; rfl)
  revert ht
  fun_cases s.stepRegister k change now fresh tooLarge <;> intro ht <;> cases ht
  case case4 hfr owned how hc =>
    have hid : owned.correlationId.getD [] =
        if isNullOrWhiteSpace change.correlationId then fresh.toText
        else change.correlationId.getD [] := by
      rw [correlationId_of_prepared how, subscriptionCommand_correlationId]
    have hnew : owned.correlationId.getD [] ∉ s.applicationIds ∧
        owned.correlationId.getD [] ∉ s.heartbeatIds := by
      rw [hid]
      split_ifs with hb
      · simp only [hb, true_and, usedIds, mem_append, not_or] at hfr
        exact ⟨hfr.1.1, hfr.2⟩
      · exact h.command_ids _ (h.change_ids change (mem_of_getElem? hk) (by simpa using hb))
    have hco : (OutboundMessage.mk owned .subscription).command =
        some ⟨owned.correlationId.getD [], change.route, change.subscribe⟩ :=
      command_subscriptionCommand how
    refine ⟨?_, ?_, ?_, ?_, ?_⟩
    · exact forall_mem_concat h.command_ids hnew
    · intro other ho hb
      exact mem_append_left _ (h.change_ids_set hk (by rfl) other ho hb)
    · refine forall_mem_set h.change_prepared ?_
      refine ⟨by rintro ⟨⟩, ?_⟩
      intro message he
      cases he
      exact ⟨_, rfl, hco⟩
    · intro phase hph
      exact ReplayPhase.prepared_mono (h.replay_prepared phase hph) (fun id => mem_append_left _)
    · exact forall_mem_concat (fun mutation hm => mem_append_left _ (h.pending_ids mutation hm))
        (by simp)
  all_goals
    exact { h with
      change_ids := h.change_ids_set hk rfl
      change_prepared := forall_mem_set h.change_prepared ⟨by rintro ⟨⟩, by rintro _ ⟨⟩⟩ }

theorem Registered.stepChange (h : s.Registered)
    (ht : s.stepChange k input now fresh tooLarge = some t) : t.Registered := by
  obtain ⟨change, hk, ⟨hp, -, ht⟩ | ht | ht | ht⟩ := stepChange_cases ht
  · exact h.stepRegister hk hp ht
  all_goals
    have hno := (h.change_prepared change (mem_of_getElem? hk)).early
    revert ht
  all_goals first
    | fun_cases stepChangeEntry
    | fun_cases stepChangeApply
    | fun_cases stepChangeExit
  all_goals
    intro ht
    cases ht
  case inr.inr.inr.case8.refl proceed hp =>
    refine { h with
      change_ids := h.change_ids_set hk rfl
      change_prepared := forall_mem_set h.change_prepared ⟨fun he => ?_, fun _ he => ?_⟩ }
    · cases proceed
      · cases he
      · exact hno (by rw [hp]; rfl)
    · cases proceed <;> cases he
  all_goals
    refine { h with
      change_ids := h.change_ids_set hk ?_
      change_prepared := forall_mem_set h.change_prepared ⟨fun he => ?_, fun _ he => ?_⟩
      pending_ids := ?_ }
    · try split_ifs
      all_goals rfl
    · try split_ifs at he ⊢
      all_goals first
        | exact hno (by rw [‹change.phase = _›]; rfl)
        | cases he
    · try split_ifs at he
      all_goals cases he
    · first
      | exact h.pending_ids
      | exact fun mutation hm => h.pending_ids mutation (mem_withoutMutation hm)

theorem Registered.stepReplay (h : s.Registered) (ht : s.stepReplay input now fresh = some t) :
    t.Registered := by
  have hpr := h.replay_prepared
  revert ht
  fun_cases s.stepReplay input now fresh <;> intro ht <;> cases ht
  case case11 pending route routes hp hsl =>
    have hfr : fresh.toText ∉ s.applicationIds ∧ fresh.toText ∉ s.heartbeatIds := by
      have hu := hsl.2
      simp only [usedIds, mem_append, not_or] at hu
      exact ⟨hu.1.1, hu.2⟩
    refine ⟨?_, ?_, h.change_prepared, ?_, ?_⟩
    · exact forall_mem_concat h.command_ids hfr
    · exact fun other ho hb => mem_append_left _ (h.change_ids other ho hb)
    · rintro phase hph
      cases hph
      exact ⟨by simp [OutboundMessage.command, isSubscriptionCommand, subscriptionCommand,
        createMessage], mem_append_right _ (by
          simp [OutboundMessage.correlationId, subscriptionCommand, createMessage,
            isNullOrWhiteSpace])⟩
    · exact fun mutation hm => mem_append_left _ (h.pending_ids mutation hm)
  case case15 pending command route routes hp hc =>
    refine ⟨h.command_ids, h.change_ids, h.change_prepared, ?_, ?_⟩
    · rintro phase hph
      cases hph
      exact (hpr _ hp :)
    · exact forall_mem_concat h.pending_ids ((hpr _ hp).2)
  case case18 pending command failure hp =>
    refine { h with
      replay_prepared := ?_
      pending_ids := fun mutation hm => h.pending_ids mutation (mem_withoutMutation hm) }
    rintro phase hph
    cases hph
    split_ifs <;> trivial
  all_goals
    refine { h with replay_prepared := ?_ }
    rintro phase hph
    cases hph
    trivial

theorem Registered.stepReceive (h : s.Registered) : s.stepReceive input = some t →
    t.Registered := by
  fun_cases s.stepReceive input <;> intro ht <;> cases ht
  case case11 frame hp mutation hm =>
    have hch {other : SubscriptionChange} (ho : other ∈ s.observeResponse mutation.route) :
        ∃ before ∈ s.changes, other.correlationId = before.correlationId ∧
          (before.Prepared → other.Prepared) := by
      obtain ⟨j, hj⟩ := mem_iff_getElem?.mp ho
      obtain ⟨before, hb, rfl⟩ := observeResponse_getElem? hj
      exact ⟨before, mem_of_getElem? hb, rfl, fun hpr => ⟨hpr.early, hpr.command⟩⟩
    refine ⟨h.command_ids, ?_, ?_, h.replay_prepared,
      fun other ho => h.pending_ids other (mem_withoutMutation ho)⟩
    · intro other ho hb
      obtain ⟨before, hmem, hid, -⟩ := hch ho
      rw [hid] at hb ⊢
      exact h.change_ids before hmem hb
    · intro other ho
      obtain ⟨before, hmem, -, hpr⟩ := hch ho
      exact hpr (h.change_prepared before hmem)
  all_goals exact { h with }

theorem Registered.callSend {message : MessageEnvelope} (h : s.Registered)
    (hok : s.attentive (.send message now tooLarge) = true) :
    s.callSend message now tooLarge = some t → t.Registered := by
  fun_cases s.callSend message now tooLarge <;> intro ht <;> cases ht
  rename_i owned how hfr
  refine { h with command_ids := ?_ }
  intro id hm
  obtain ⟨ha, hb⟩ := h.command_ids id hm
  refine ⟨fun hm' => ?_, hb⟩
  rcases mem_append.mp hm' with hm' | hm'
  · exact ha hm'
  · rw [mem_singleton.mp hm', correlationId_of_prepared how] at hm
    simp [attentive, hm] at hok

theorem Registered.callChange {correlationId : Option Text} (h : s.Registered)
    (hok : s.attentive (.change route subscribe correlationId) = true) :
    s.callChange route subscribe correlationId = some t → t.Registered := by
  fun_cases s.callChange route subscribe correlationId <;> intro ht <;> cases ht
  rename_i hfr
  have hmo {id : Text} (hm : id ∈ s.commandIds) : id ∈ (if isNullOrWhiteSpace correlationId then
      s.commandIds else s.commandIds ++ [correlationId.getD []]) := by
    split_ifs
    · exact hm
    · exact mem_append_left _ hm
  refine ⟨?_, ?_, ?_, ?_, fun mutation hm => hmo (h.pending_ids mutation hm)⟩
  · intro id hm
    simp only at hm
    split_ifs at hm with hb
    · exact h.command_ids id hm
    · rcases mem_append.mp hm with hm | hm
      · exact h.command_ids id hm
      · rw [mem_singleton.mp hm]
        simp only [attentive, hb, Bool.false_or, decide_eq_true_eq] at hok
        simp only [Bool.or_eq_true, decide_eq_true_eq, not_or] at hfr
        exact ⟨hok, hfr.2⟩
  · intro other ho hb
    rcases mem_append.mp ho with ho | ho
    · exact hmo (h.change_ids other ho hb)
    · rw [mem_singleton.mp ho] at hb ⊢
      simp only at hb
      simp [hb]
  · exact forall_mem_concat h.change_prepared ⟨fun _ => rfl, by rintro _ ⟨⟩⟩
  · intro phase hph
    exact ReplayPhase.prepared_mono (h.replay_prepared phase hph) (fun _ => hmo)

theorem Registered.stepHeartbeat (h : s.Registered) : s.stepHeartbeat input now fresh = some t →
    t.Registered := by
  fun_cases s.stepHeartbeat input now fresh <;> intro ht <;> cases ht
  case case1 hp hfr =>
    refine { h with command_ids := ?_ }
    intro id hm
    obtain ⟨ha, hb⟩ := h.command_ids id hm
    refine ⟨ha, fun hm' => ?_⟩
    rcases mem_append.mp hm' with hm' | hm'
    · exact hb hm'
    · rw [mem_singleton.mp hm'] at hm
      simp [usedIds, hm] at hfr
  all_goals exact { h with }

theorem Registered.stepRun (h : s.Registered) : s.stepRun input first = some t → t.Registered := by
  fun_cases s.stepRun input first <;> intro ht <;> cases ht
  case case5 hr =>
    refine { h with replay_prepared := ?_ }
    rintro phase hph
    cases hph
    trivial
  case case20 result hr => exact { h with replay_prepared := (by rintro _ ⟨⟩), pending_ids := (by rintro _ ⟨⟩) }
  case case33 hr => exact { h with pending_ids := (by rintro _ ⟨⟩) }
  all_goals exact { h with }

theorem Registered.stepStopper (h : s.Registered) : s.stepStopper k = some t → t.Registered := by
  fun_cases s.stepStopper k <;> intro ht <;> cases ht
  case case4 hk => exact { h with pending_ids := (by rintro _ ⟨⟩) }
  all_goals exact { h with }

theorem Registered.step (h : s.Registered) (hok : s.attentive label = true)
    (ht : Client.step s label = some t) : t.Registered := by
  cases label with
  | send message now tooLarge => exact h.callSend hok ht
  | change route subscribe correlationId => exact h.callChange hok ht
  | changeStep k input now fresh tooLarge => exact h.stepChange ht
  | receive input => exact h.stepReceive ht
  | replay input now fresh => exact h.stepReplay ht
  | heartbeat input now fresh => exact h.stepHeartbeat ht
  | run input first => exact h.stepRun ht
  | stopper k => exact h.stepStopper ht
  | _ =>
    obtain ⟨u, rfl⟩ := step_footprint _ ht
    exact { h with }

def outgoing (s : RealtimeClient) : List OutboundMessage := s.wire ++ s.waiting

def Carried (s : RealtimeClient) (message : OutboundMessage) : Prop :=
  isSubscriptionCommand message.envelope = false →
    message.correlationId ∈ s.applicationIds ∨ message.correlationId ∈ s.heartbeatIds

structure Accounted (s : RealtimeClient) : Prop where
  frames_ok : ∀ frame ∈ s.unprocessed, frame.Ok ∧ ∀ message ∈ frame.answers, s.Carried message
  carried : ∀ message ∈ s.outgoing, s.Carried message
  replay_plain : ∀ message ∈ replayList s.replay, isSubscriptionCommand message.envelope = false
  heartbeat_plain : ∀ message, s.heartbeat = some (.acquiring message) ∨
    s.heartbeat = some (.enqueuing message) →
      isSubscriptionCommand message.envelope = false ∧ message.correlationId ∈ s.heartbeatIds

theorem Accounted.of_moved (h : s.Accounted) (ha : t.applicationIds = s.applicationIds)
    (hh : t.heartbeatIds = s.heartbeatIds) (hb : t.heartbeat = s.heartbeat)
    (hf : ∀ frame ∈ t.unprocessed, frame ∈ s.unprocessed)
    (hm : ∀ message ∈ t.outgoing, message ∈ s.outgoing ∨ s.Carried message)
    (hr : ∀ message ∈ replayList t.replay, isSubscriptionCommand message.envelope = false) :
    t.Accounted := by
  have hc {message : OutboundMessage} (hm : s.Carried message) : t.Carried message := by
    unfold Carried
    rw [ha, hh]
    exact hm
  refine ⟨?_, ?_, hr, by rw [hb, hh]; exact h.heartbeat_plain⟩
  · intro frame hm
    obtain ⟨hok, hca⟩ := h.frames_ok frame (hf frame hm)
    exact ⟨hok, fun message hmem => hc (hca message hmem)⟩
  · intro message hmem
    rcases hm message hmem with hm | hm
    · exact hc (h.carried message hm)
    · exact hc hm

theorem Accounted.of_same (h : s.Accounted) (ha : t.applicationIds = s.applicationIds)
    (hh : t.heartbeatIds = s.heartbeatIds) (hb : t.heartbeat = s.heartbeat)
    (hf : ∀ frame ∈ t.unprocessed, frame ∈ s.unprocessed) (hw : t.wire = s.wire)
    (hwa : t.waiting = s.waiting)
    (hr : replayList t.replay = replayList s.replay) : t.Accounted :=
  h.of_moved ha hh hb hf (fun message hm => .inl (by simpa only [outgoing, hw, hwa] using hm))
    (by rw [hr]; exact h.replay_plain)

theorem mem_outgoing {message : OutboundMessage} : message ∈ s.outgoing ↔
    message ∈ s.wire ∨ message ∈ inFlight s.send ∨ message ∈ replayList s.replay ∨
      message ∈ s.replayBacklog ∨ message ∈ s.outbound := by
  simp [outgoing, waiting]

theorem isSubscriptionCommand_of_kept {message other : OutboundMessage}
    {pending : List OutboundMessage} (h : other ∈ s.keepPending now pending message)
    (hp : ∀ message ∈ pending, isSubscriptionCommand message.envelope = false) :
    isSubscriptionCommand other.envelope = false := by
  unfold keepPending at h
  split_ifs at h with hk
  · rcases mem_append.mp h with h | h
    · exact hp other h
    · rw [mem_singleton.mp h]
      simp only [isKept, Bool.and_eq_true, Bool.not_eq_true'] at hk
      exact hk.1
  · exact hp other h

theorem Accounted.stepReplay (h : s.Accounted) (hreg : s.Registered)
    (ht : s.stepReplay input now fresh = some t) : t.Accounted := by
  have hpl := h.replay_plain
  have hca := h.carried
  have hpr := hreg.replay_prepared
  revert ht
  fun_cases s.stepReplay input now fresh <;> intro ht <;> cases ht
  case case4 pending hp message rest hb | case6 pending hp message rest hb =>
    simp only [hp, replayList, elim_some, ReplayPhase.pending] at hpl
    refine h.of_moved rfl rfl rfl (fun _ => id) ?_
      (fun other ho => isSubscriptionCommand_of_kept ho hpl)
    have hm : s.Carried (message.refreshTimestamp now) :=
      hca message (mem_outgoing.mpr (by simp [hb]))
    intro other ho
    simp only [mem_outgoing, hp, hb, replayList, elim_some, ReplayPhase.pending,
      mem_cons] at ho ⊢
    grind [mem_keepPending]
  case case16 pending command route routes hp =>
    simp only [hp, replayList, elim_some, ReplayPhase.pending] at hpl
    refine h.of_moved rfl rfl rfl (fun _ => id) ?_ hpl
    have hm : s.Carried command := by
      have hc : command.command = some ⟨command.correlationId, route, true⟩ := (hpr _ hp).1
      intro hn
      simp [OutboundMessage.command, hn] at hc
    intro other ho
    simp only [mem_outgoing, hp, replayList, elim_some, ReplayPhase.pending,
      mem_append, mem_singleton] at ho ⊢
    grind
  case case21 message pending hp =>
    simp only [hp, replayList, elim_some, ReplayPhase.pending] at hpl
    refine h.of_moved rfl rfl rfl (fun _ => id) ?_
      (fun other ho => hpl other (mem_cons_of_mem _ ho))
    have hm : s.Carried (message.refreshTimestamp now) :=
      hca message (mem_outgoing.mpr (by simp [hp, replayList, ReplayPhase.pending]))
    intro other ho
    simp only [mem_outgoing, hp, replayList, elim_some, ReplayPhase.pending,
      mem_append, mem_cons, not_mem_nil, or_false] at ho ⊢
    grind
  case case22 message pending failure hp =>
    simp only [hp, replayList, elim_some, ReplayPhase.pending] at hpl
    refine h.of_moved rfl rfl rfl (fun _ => id) ?_ ?_
    · have hm : s.Carried (message.refreshTimestamp now) :=
        hca message (mem_outgoing.mpr (by simp [hp, replayList, ReplayPhase.pending]))
      intro other ho
      simp only [mem_outgoing, hp, replayList, elim_some, ReplayPhase.pending,
        mem_cons] at ho ⊢
      grind
    · intro other ho
      rcases mem_cons.mp ho with rfl | ho
      · exact hpl message (by simp)
      · exact hpl other (mem_cons_of_mem _ ho)
  case case24 pending failure hp =>
    refine h.of_moved rfl rfl rfl (fun _ => id) ?_ (by rintro _ ⟨⟩)
    intro other ho
    simp only [mem_outgoing, hp, replayList, elim_some, ReplayPhase.pending,
      mem_append] at ho ⊢
    grind
  case case18 pending command failure hp =>
    have hl : replayList (some (if s.containsMutation command.correlationId then
        .returningSlot pending failure else .retaining pending failure)) = replayList s.replay := by
      rw [hp]
      split_ifs <;> rfl
    exact h.of_same rfl rfl rfl (fun _ => id) rfl
      (by simp only [waiting, removeSubscriptionMutation, hl]) hl
  all_goals
    have hl := congrArg replayList ‹s.replay = _›
    exact h.of_same rfl rfl rfl (fun _ => id) rfl (by simp only [waiting, hl]; rfl) hl.symm

theorem Accounted.stepSend (h : s.Accounted) (ht : s.stepSend input now = some t) :
    t.Accounted := by
  have hca := h.carried
  revert ht
  fun_cases s.stepSend input now <;> intro ht <;> cases ht
  case case1 hp message outbound ho =>
    refine h.of_moved rfl rfl rfl (fun _ => id) ?_ h.replay_plain
    have hm : s.Carried (message.refreshTimestamp now) :=
      hca message (mem_outgoing.mpr (by simp [ho]))
    intro other hmem
    simp only [mem_outgoing, ho, inFlight, elim_some, SendPhase.inFlight,
      mem_cons, not_mem_nil, or_false] at hmem ⊢
    grind
  case case7 hp | case10 hp =>
    refine h.of_moved rfl rfl rfl (fun _ => id) ?_ h.replay_plain
    intro other hmem
    simp only [mem_outgoing, hp, inFlight, elim_some, SendPhase.inFlight, mem_append,
      mem_cons, not_mem_nil, or_false] at hmem ⊢
    grind
  all_goals
    have hl := congrArg inFlight ‹s.send = _›
    exact h.of_same rfl rfl rfl (fun _ => id) rfl (by simp only [waiting, hl]; rfl) rfl

theorem mem_outgoing_enqueue {message other : OutboundMessage} (hm : other ∈ t.outgoing)
    (hw : t.wire = s.wire) (hs : t.send = s.send) (hr : t.replay = s.replay)
    (hb : t.replayBacklog = s.replayBacklog) (ho : t.outbound = s.outbound ++ [message]) :
    other ∈ s.outgoing ∨ other = message := by
  simp only [mem_outgoing, hw, hs, hr, hb, ho, mem_append, mem_singleton] at hm ⊢
  grind

theorem Accounted.enqueue (h : s.Accounted) {message : OutboundMessage}
    (ha : t.applicationIds = s.applicationIds) (hh : t.heartbeatIds = s.heartbeatIds)
    (hb : t.heartbeat = s.heartbeat) (hf : t.unprocessed = s.unprocessed) (hw : t.wire = s.wire)
    (hs : t.send = s.send) (hr : t.replay = s.replay) (hbl : t.replayBacklog = s.replayBacklog)
    (ho : t.outbound = s.outbound ++ [message]) (hm : s.Carried message) : t.Accounted := by
  refine h.of_moved ha hh hb (fun _ => hf ▸ id) (fun other hot => ?_)
    (by rw [hr]; exact h.replay_plain)
  rcases mem_outgoing_enqueue hot hw hs hr hbl ho with hot | rfl
  · exact .inl hot
  · exact .inr hm

theorem Accounted.stepSender (h : s.Accounted) (hd : s.Delivering) : s.stepSender k input = some t →
    t.Accounted := by
  fun_cases s.stepSender k input <;> intro ht <;> cases ht
  case case4 message hk _ =>
    obtain ⟨ha, hm⟩ := hd.senders_known _ (mem_of_getElem? hk) message rfl
    exact h.enqueue rfl rfl rfl rfl rfl rfl rfl rfl rfl (fun _ => .inl (hm ha).2)
  all_goals exact { h with }

theorem isSubscriptionCommand_heartbeat (fresh : Guid) (now : UtcNow) :
    isSubscriptionCommand (heartbeatMessage fresh now).envelope = false := by
  have hs : ProtocolMessageTypes.ping ≠ ProtocolMessageTypes.subscribe := by decide
  have hu : ProtocolMessageTypes.ping ≠ ProtocolMessageTypes.unsubscribe := by decide
  simp [isSubscriptionCommand, heartbeatMessage, createMessage, hs, hu]

theorem Accounted.stepHeartbeat (h : s.Accounted)
    (ht : s.stepHeartbeat input now fresh = some t) : t.Accounted := by
  have hpl := h.heartbeat_plain
  revert ht
  fun_cases s.stepHeartbeat input now fresh <;> intro ht <;> cases ht
  case case1 hp hfr =>
    have hc {message : OutboundMessage} (hm : s.Carried message)
        (hn : isSubscriptionCommand message.envelope = false) :
        message.correlationId ∈ s.applicationIds ∨
          message.correlationId ∈ s.heartbeatIds ++ [fresh.toText] :=
      (hm hn).imp_right (mem_append_left _)
    refine ⟨?_, fun message hm => hc (h.carried message hm), h.replay_plain, ?_⟩
    · intro frame hm
      obtain ⟨hok, hca⟩ := h.frames_ok frame hm
      exact ⟨hok, fun message hmem => hc (hca message hmem)⟩
    · rintro message (he | he)
      · cases he
        refine ⟨isSubscriptionCommand_heartbeat fresh now, mem_append_right _ ?_⟩
        simp [OutboundMessage.correlationId, heartbeatMessage, createMessage, isNullOrWhiteSpace]
      · cases he
  case case6 message hp _ =>
    refine ⟨h.frames_ok, h.carried, h.replay_plain, ?_⟩
    rintro other (he | he)
    · cases he
    · cases he
      exact hpl message (.inl hp)
  case case9 message hp _ =>
    have hm := hpl message (.inr hp)
    refine ⟨h.frames_ok, ?_, h.replay_plain, ?_⟩
    · intro other ho
      rcases mem_outgoing_enqueue (s := s) ho rfl rfl rfl rfl rfl with ho | rfl
      · exact h.carried other ho
      · exact fun _ => .inr hm.2
    · rintro other (he | he) <;> cases he
  all_goals
    refine ⟨h.frames_ok, h.carried, h.replay_plain, ?_⟩
    rintro other (he | he) <;> cases he

theorem stepChange_outbound : s.stepChange k input now fresh tooLarge = some t →
    t.outbound = s.outbound ∨
      ∃ change command, s.changes[k]? = some change ∧ change.phase = .enqueuing command ∧
        t.outbound = s.outbound ++ [command] := by
  fun_cases s.stepChange k input now fresh tooLarge
  all_goals first
    | (intro ht; cases ht)
    | fun_cases stepRegister
    | fun_cases stepChangeEntry
    | fun_cases stepChangeApply
    | fun_cases stepChangeExit
  all_goals intro ht; cases ht
  all_goals first
    | exact .inl rfl
    | exact .inr ⟨_, _, ‹_›, ‹_›, rfl⟩

theorem carried_of_command {message : OutboundMessage} {command : SubscriptionCommand}
    (h : message.command = some command) : s.Carried message := by
  intro hn
  simp [OutboundMessage.command, hn] at h

theorem Accounted.stepChange (h : s.Accounted) (hreg : s.Registered)
    (ht : s.stepChange k input now fresh tooLarge = some t) : t.Accounted := by
  have hou := stepChange_outbound ht
  obtain ⟨u, rfl⟩ := step_footprint (.changeStep k input now fresh tooLarge) ht
  rcases hou with he | ⟨change, command, hk, hp, he⟩
  · have hwa := congrArg (inFlight s.send ++ replayList s.replay ++ s.replayBacklog ++ ·) he
    exact h.of_same rfl rfl rfl (fun _ => id) rfl hwa rfl
  · obtain ⟨id, -, hc⟩ := (hreg.change_prepared change (mem_of_getElem? hk)).command command hp
    exact h.enqueue rfl rfl rfl rfl rfl rfl rfl rfl he (carried_of_command hc)

theorem Accounted.serve {accepted : Bool} (h : s.Accounted) : s.serve accepted now = some t →
    t.Accounted := by
  fun_cases s.serve accepted now <;> intro ht <;> cases ht
  rename_i message wire hw hva
  have hm : s.Carried message := h.carried message (mem_outgoing.mpr (by simp [hw]))
  refine ⟨?_, ?_, h.replay_plain, h.heartbeat_plain⟩
  · simp only [unprocessed]
    rw [← append_assoc]
    refine forall_mem_concat h.frames_ok ⟨.answered message accepted now hva, ?_⟩
    intro other ho
    cases ho
    exact hm
  · intro other ho
    refine h.carried other ?_
    rw [mem_outgoing] at ho ⊢
    rw [hw, mem_cons]
    rcases ho with ho | ho
    · exact .inl (.inr ho)
    · exact .inr ho

theorem Accounted.push {envelope : ServerMessageEnvelope} (h : s.Accounted) :
    s.push envelope = some t → t.Accounted := by
  fun_cases s.push envelope <;> intro ht <;> cases ht
  rename_i hre
  refine { h with frames_ok := ?_ }
  simp only [unprocessed]
  rw [← append_assoc]
  exact forall_mem_concat h.frames_ok ⟨.pushed envelope (by simpa using hre), by rintro _ ⟨⟩⟩

theorem Accounted.stepReceived {received : Received} (h : s.Accounted) :
    s.stepReceived received = some t → t.Accounted := by
  fun_cases s.stepReceived received <;> intro ht <;> cases ht
  case case1 hp frame frames hf =>
    refine { h with frames_ok := fun other ho => h.frames_ok other ?_ }
    simp only [unprocessed, elim_some, hp, hf, mem_append, mem_cons] at ho ⊢
    rcases ho with ho | ho
    · unfold receivedPhase at ho
      split_ifs at ho
      · simp [ReceivePhase.unprocessed] at ho
      · exact .inr (.inl (mem_singleton.mp ho))
      · simp [ReceivePhase.unprocessed] at ho
    · exact .inr (.inr ho)
  all_goals
    exact { h with frames_ok := fun other ho => h.frames_ok other (mem_append_right _ ho) }

theorem Accounted.stepReceive (h : s.Accounted) : s.stepReceive input = some t → t.Accounted := by
  fun_cases s.stepReceive input <;> intro ht <;> cases ht
  case case10 frame hp _ _ =>
    refine { h with frames_ok := fun other ho => h.frames_ok other ?_ }
    simpa [unprocessed, hp, ReceivePhase.unprocessed] using ho
  all_goals
    exact { h with frames_ok := fun other ho => h.frames_ok other (mem_append_right _ ho) }

theorem Accounted.discardLeftovers (h : s.Accounted) : s.discardLeftovers.Accounted := by
  refine { h with carried := fun message hm => h.carried message ?_ }
  simp only [mem_outgoing, RealtimeClient.discardLeftovers, not_mem_nil, or_false] at hm
  exact mem_outgoing.mpr (hm.imp_right (.imp_right .inl))

theorem Accounted.stepRun (h : s.Accounted) : s.stepRun input first = some t → t.Accounted := by
  fun_cases s.stepRun input first <;> intro ht <;> cases ht
  case case5 hr =>
    constructor
    · simp [unprocessed, openConnection, ReceivePhase.unprocessed]
    · intro message hm
      refine h.carried message ?_
      simp only [mem_outgoing, openConnection, inFlight, replayList, ReplayPhase.pending,
        elim_none, elim_some, not_mem_nil, false_or] at hm
      exact mem_outgoing.mpr (.inr (.inr (.inr hm)))
    · simp [openConnection, replayList, ReplayPhase.pending]
    · simp [openConnection]
  case case11 hr =>
    refine ⟨h.frames_ok, ?_, h.replay_plain, by simp [reportConnected]⟩
    intro message hm
    refine h.carried message ?_
    simp only [mem_outgoing, reportConnected, inFlight, SendPhase.inFlight, elim_some,
      not_mem_nil, false_or] at hm
    exact mem_outgoing.mpr (hm.imp_right .inr)
  case case20 result hr =>
    constructor
    · exact fun frame hf => h.frames_ok frame (mem_append_right _ hf)
    · intro message hm
      refine h.carried message ?_
      simp only [mem_outgoing, forgetConnection, inFlight, replayList, elim_none,
        not_mem_nil, false_or] at hm
      exact mem_outgoing.mpr (hm.imp_right (fun hm => .inr (.inr hm)))
    · simp [forgetConnection, replayList]
    · simp [forgetConnection]
  case case32 hr => exact { h.discardLeftovers with }
  all_goals exact { h with }

theorem Accounted.stepStopper (h : s.Accounted) : s.stepStopper k = some t → t.Accounted := by
  fun_cases s.stepStopper k <;> intro ht <;> cases ht
  case case3 hk => exact { h.discardLeftovers with }
  all_goals exact { h with }

theorem Accounted.callSend {message : MessageEnvelope} (h : s.Accounted) :
    s.callSend message now tooLarge = some t → t.Accounted := by
  fun_cases s.callSend message now tooLarge <;> intro ht <;> cases ht
  rename_i owned _ _
  have hc {message : OutboundMessage} (hm : s.Carried message)
      (hn : isSubscriptionCommand message.envelope = false) :
      message.correlationId ∈ s.applicationIds ++ [owned.correlationId.getD []] ∨
        message.correlationId ∈ s.heartbeatIds := (hm hn).imp_left (mem_append_left _)
  refine ⟨?_, fun message hm => hc (h.carried message hm), h.replay_plain, h.heartbeat_plain⟩
  intro frame hm
  obtain ⟨hok, hca⟩ := h.frames_ok frame hm
  exact ⟨hok, fun message hmem => hc (hca message hmem)⟩

theorem Accounted.step (h : s.Accounted) (hd : s.Delivering) (hreg : s.Registered)
    (ht : Client.step s label = some t) : t.Accounted := by
  cases label with
  | send message now tooLarge => exact h.callSend ht
  | changeStep k input now fresh tooLarge => exact h.stepChange hreg ht
  | receive input => exact h.stepReceive ht
  | received received => exact h.stepReceived ht
  | replay input now fresh => exact h.stepReplay hreg ht
  | sendLoop input now => exact h.stepSend ht
  | heartbeat input now fresh => exact h.stepHeartbeat ht
  | sender k input => exact h.stepSender hd ht
  | run input first => exact h.stepRun ht
  | stopper k => exact h.stepStopper ht
  | serve accepted now => exact h.serve ht
  | push envelope => exact h.push ht
  | _ =>
    obtain ⟨u, rfl⟩ := step_footprint _ ht
    exact { h with }

end RealtimeClient

end Realtime.Client
