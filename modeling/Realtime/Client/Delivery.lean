import Realtime.Client.Tasks

/-! Application messages leave the client in the order in which they were
accepted. The places a message can wait in are the variable of the send loop, the
replay list, the backlog and the outbound channel; read in this order, and without
the commands and heartbeats that share them, they are one first-in first-out
queue. Messages are compared without their timestamps, which are refreshed. -/

namespace Realtime.Client

open List

def SendPhase.inFlight : SendPhase → List OutboundMessage
  | sending message | failing message _ => [message]
  | _ => []

def ReplayPhase.pending : ReplayPhase → List OutboundMessage
  | drainingBacklog pending | drainingOutbound pending | clearing pending | reading pending
  | commanding pending _ | registering pending _ _ _ | sending pending _ _ _
  | forgetting pending _ _ | returningSlot pending _ | messages pending | releasing pending
  | retaining pending _ => pending
  | _ => []

def Sender.message : Sender → Option OutboundMessage
  | acquiring message | enqueuing message => some message
  | _ => none

def inFlight (send : Option SendPhase) : List OutboundMessage := send.elim [] SendPhase.inFlight

def replayList (replay : Option ReplayPhase) : List OutboundMessage :=
  replay.elim [] ReplayPhase.pending

/-- The backlog has been taken over by the replay and nothing has been put back. -/
def drained : Option ReplayPhase → Option SendPhase → Bool
  | some .waiting, _ | some (.drainingBacklog _), _ => false
  | some (.leaving (.threw _)), _ | some (.done (.threw _)), _ => false
  | some (.done (.returned _)), some (.done _) => false
  | some _, _ => true
  | none, _ => false

namespace OutboundMessage

def untimed (message : OutboundMessage) : MessageEnvelope :=
  { message.envelope with timestamp := 0 }

@[simp] theorem untimed_refreshTimestamp (now : UtcNow) (message : OutboundMessage) :
    (message.refreshTimestamp now).untimed = message.untimed := rfl

def isApplication (message : OutboundMessage) : Bool := message.origin = .application

@[simp] theorem isApplication_refreshTimestamp (now : UtcNow) (message : OutboundMessage) :
    (message.refreshTimestamp now).isApplication = message.isApplication := rfl

end OutboundMessage

def applicationView (messages : List OutboundMessage) : List MessageEnvelope :=
  (messages.filter OutboundMessage.isApplication).map OutboundMessage.untimed

@[simp] theorem applicationView_nil : applicationView [] = [] := rfl

@[simp] theorem applicationView_append (l r : List OutboundMessage) :
    applicationView (l ++ r) = applicationView l ++ applicationView r := by
  simp [applicationView]

variable {message : OutboundMessage}

theorem applicationView_singleton_of_application (h : message.isApplication = true) :
    applicationView [message] = [message.untimed] := by
  simp [applicationView, h]

theorem applicationView_singleton_of_not (h : message.isApplication = false) :
    applicationView [message] = [] := by
  simp [applicationView, h]

@[simp] theorem applicationView_refreshTimestamp (now : UtcNow) (message : OutboundMessage)
    (l : List OutboundMessage) :
    applicationView (message.refreshTimestamp now :: l) = applicationView (message :: l) := by
  unfold applicationView
  cases h : message.isApplication <;> simp [h]

namespace RealtimeClient

/-- The messages that wait, in the order in which they are to be sent. -/
def waiting (s : RealtimeClient) : List OutboundMessage :=
  inFlight s.send ++ replayList s.replay ++ s.replayBacklog ++ s.outbound

def fifo (s : RealtimeClient) : Fifo MessageEnvelope where
  accepted := s.accepted.map OutboundMessage.untimed
  sent := s.sent.map OutboundMessage.untimed
  waiting := applicationView s.waiting
  closed := s.completed

/-- A message of the application is no subscription command, and its identifier
is not one that the heartbeat loop has drawn. -/
def Known (s : RealtimeClient) (message : OutboundMessage) : Prop :=
  message.isApplication = true →
    isSubscriptionCommand message.envelope = false ∧ message.correlationId ∈ s.applicationIds

structure Delivering (s : RealtimeClient) : Prop where
  tasks : s.tasks.Ok
  waiting_known : ∀ message ∈ s.waiting, s.Known message
  senders_known : ∀ sender ∈ s.senders, ∀ message, sender.message = some message →
    message.isApplication = true ∧ s.Known message
  heartbeat_origin : ∀ message, s.heartbeat = some (.acquiring message) ∨
    s.heartbeat = some (.enqueuing message) → message.isApplication = false
  command_origin : ∀ change ∈ s.changes, ∀ message, change.phase = .enqueuing message →
    message.isApplication = false
  table_drawn : ∀ entry ∈ s.heartbeatCorrelations, entry.1 ∈ s.heartbeatIds
  drawn_fresh : ∀ id ∈ s.heartbeatIds, id ∉ s.applicationIds
  backlog_empty : drained s.replay s.send = true → s.replayBacklog = []

variable {s t : RealtimeClient}

theorem inFlight_eq_nil {send : Option SendPhase} (h : send.all SendPhase.isDone = true) :
    inFlight send = [] := by
  rcases send with _ | phase
  · rfl
  · cases phase <;> first | rfl | cases h

theorem replayList_eq_nil {replay : Option ReplayPhase}
    (h : replay.all ReplayPhase.isDone = true) : replayList replay = [] := by
  rcases replay with _ | phase
  · rfl
  · cases phase <;> first | rfl | cases h

variable {now : UtcNow} {tooLarge : Bool} {table : List (Text × Int)} {id route : Text}
  {entry : Text × Int} {options : RealtimeClientOptions} {change : SubscriptionChange}

theorem isSubscriptionCommand_of_prepared {message owned : MessageEnvelope}
    (h : prepareOwnedMessage message now tooLarge = some owned) :
    isSubscriptionCommand owned = isSubscriptionCommand message := by
  simp only [prepareOwnedMessage, Option.ite_none_right_eq_some, Option.some.injEq] at h
  obtain ⟨-, rfl⟩ := h
  rfl

theorem Delivering.isKept (h : s.Delivering) {message : OutboundMessage}
    (hk : s.Known message) (ha : message.isApplication = true) : s.isKept message = true := by
  obtain ⟨hc, hid⟩ := hk ha
  have hb : s.isAutomaticHeartbeat message.correlationId = false := by
    simp only [isAutomaticHeartbeat, any_eq_false, beq_iff_eq]
    intro entry hm he
    exact h.drawn_fresh _ (h.table_drawn entry hm) (he ▸ hid)
  simp [RealtimeClient.isKept, hc, hb]

theorem Delivering.applicationView_keepPending (h : s.Delivering) (now : UtcNow)
    (pending : List OutboundMessage) {message : OutboundMessage} (hk : s.Known message) :
    applicationView (s.keepPending now pending message) =
      applicationView pending ++ applicationView [message] := by
  unfold keepPending
  split_ifs with hke
  · simp
  · have ha : message.isApplication = false := by
      by_contra ha
      exact hke (h.isKept hk (by simpa using ha))
    simp [applicationView_singleton_of_not ha]

theorem mem_keepPending {pending : List OutboundMessage} {message other : OutboundMessage}
    (h : other ∈ s.keepPending now pending message) :
    other ∈ pending ∨ other = message.refreshTimestamp now := by
  unfold keepPending at h
  split_ifs at h
  · simpa using h
  · exact .inl h

theorem mem_withoutHeartbeat (h : entry ∈ withoutHeartbeat table id) : entry ∈ table :=
  (mem_filter.mp h).1

theorem mem_heartbeatsAfterKeeping {message : OutboundMessage}
    (h : entry ∈ s.heartbeatsAfterKeeping message) : entry ∈ s.heartbeatCorrelations := by
  unfold heartbeatsAfterKeeping at h
  split_ifs at h
  · exact h
  · exact mem_withoutHeartbeat h

variable {input : Await} {now : UtcNow} {fresh : Guid} {k : Nat}

/-- The parts of the client that only calls and heartbeats change. -/
def SameCalls (s t : RealtimeClient) : Prop :=
  t.senders = s.senders ∧ t.heartbeat = s.heartbeat ∧ t.changes = s.changes ∧
    t.applicationIds = s.applicationIds ∧ t.heartbeatIds = s.heartbeatIds

def SameHistory (s t : RealtimeClient) : Prop :=
  t.accepted = s.accepted ∧ t.sent = s.sent ∧ t.completed = s.completed

theorem Delivering.of_sameCalls (h : s.Delivering) (hta : t.tasks.Ok) (hsa : SameCalls s t)
    (htab : ∀ entry ∈ t.heartbeatCorrelations, entry ∈ s.heartbeatCorrelations)
    (hkn : ∀ message ∈ t.waiting, s.Known message)
    (hem : drained t.replay t.send = true → t.replayBacklog = []) : t.Delivering := by
  obtain ⟨hs, hh, hc, ha, hi⟩ := hsa
  have hk (message : OutboundMessage) (hm : s.Known message) : t.Known message := by
    unfold Known
    rw [ha]
    exact hm
  refine ⟨hta, fun message hm => hk message (hkn message hm), ?_, ?_, ?_, ?_, ?_, hem⟩
  · intro sender hm message he
    obtain ⟨ho, hn⟩ := h.senders_known sender (hs ▸ hm) message he
    exact ⟨ho, hk message hn⟩
  · rw [hh]
    exact h.heartbeat_origin
  · rw [hc]
    exact h.command_origin
  · intro entry hm
    rw [hi]
    exact h.table_drawn entry (htab entry hm)
  · rw [hi, ha]
    exact h.drawn_fresh

theorem fifo_eq (hh : SameHistory s t) (hv : applicationView t.waiting = applicationView s.waiting) :
    t.fifo = s.fifo := by
  obtain ⟨ha, hs, hc⟩ := hh
  simp only [fifo, ha, hs, hc, hv]

theorem step_fifo_of_eq (hh : SameHistory s t)
    (hv : applicationView t.waiting = applicationView s.waiting) : Fifo.Step s.fifo t.fifo :=
  fifo_eq hh hv ▸ .stutter _

theorem Delivering.of_waiting_eq (h : s.Delivering) (hta : t.tasks.Ok) (hsa : SameCalls s t)
    (hh : SameHistory s t) (ht : t.heartbeatCorrelations = s.heartbeatCorrelations)
    (hw : t.waiting = s.waiting) (hem : drained t.replay t.send = true → t.replayBacklog = []) :
    t.Delivering ∧ Fifo.Step s.fifo t.fifo :=
  ⟨h.of_sameCalls hta hsa (fun _ => ht ▸ id) (hw ▸ h.waiting_known) hem,
    step_fifo_of_eq hh (by rw [hw])⟩

theorem step_fifo_send (message : OutboundMessage) (rest : List OutboundMessage)
    (ha : t.accepted = s.accepted) (hc : t.completed = s.completed)
    (hs : t.sent = s.recordSent message) (hw : applicationView s.waiting =
      applicationView [message] ++ applicationView rest)
    (hv : applicationView t.waiting = applicationView rest) : Fifo.Step s.fifo t.fifo := by
  cases hm : message.isApplication with
  | true =>
    have hs : t.sent = s.sent ++ [message] := by
      rw [hs, recordSent, if_pos (by simpa [OutboundMessage.isApplication] using hm)]
    rw [applicationView_singleton_of_application hm] at hw
    have he := Fifo.Step.send s.fifo message.untimed (applicationView rest) hw
    have ht : t.fifo = { s.fifo with
        sent := s.fifo.sent ++ [message.untimed], waiting := applicationView rest } := by
      simp only [fifo, ha, hc, hs, hv, map_append, map_cons, map_nil]
    exact ht ▸ he
  | false =>
    have hs : t.sent = s.sent := by
      rw [hs, recordSent, if_neg (by simpa [OutboundMessage.isApplication] using hm)]
    rw [applicationView_singleton_of_not hm, nil_append] at hw
    exact step_fifo_of_eq ⟨ha, hs, hc⟩ (hv.trans hw.symm)

/-- The first message is written anew, with another timestamp. -/
theorem Delivering.refresh (h : s.Delivering) (now : UtcNow) (hta : t.tasks.Ok)
    (hsa : SameCalls s t) (hh : SameHistory s t)
    (ht : t.heartbeatCorrelations = s.heartbeatCorrelations)
    {message : OutboundMessage} {rest : List OutboundMessage} (hw : s.waiting = message :: rest)
    (hw' : t.waiting = message.refreshTimestamp now :: rest)
    (hem : drained t.replay t.send = true → t.replayBacklog = []) :
    t.Delivering ∧ Fifo.Step s.fifo t.fifo := by
  have hkn := h.waiting_known
  rw [hw, forall_mem_cons] at hkn
  refine ⟨h.of_sameCalls hta hsa (fun _ => ht ▸ id) ?_ hem, step_fifo_of_eq hh ?_⟩
  · rw [hw', forall_mem_cons]
    exact hkn
  · rw [hw, hw', applicationView_refreshTimestamp]

/-- The first message is sent. -/
theorem Delivering.transmit (h : s.Delivering) (hta : t.tasks.Ok) (hsa : SameCalls s t)
    (ht : t.heartbeatCorrelations = s.heartbeatCorrelations) (ha : t.accepted = s.accepted)
    (hc : t.completed = s.completed) {message sent : OutboundMessage}
    (hs : t.sent = s.recordSent sent) (hv : applicationView [message] = applicationView [sent])
    (hw : s.waiting = message :: t.waiting)
    (hem : drained t.replay t.send = true → t.replayBacklog = []) :
    t.Delivering ∧ Fifo.Step s.fifo t.fifo := by
  have hkn := h.waiting_known
  rw [hw, forall_mem_cons] at hkn
  refine ⟨h.of_sameCalls hta hsa (fun _ => ht ▸ id) hkn.2 hem,
    step_fifo_send sent t.waiting ha hc hs ?_ rfl⟩
  rw [hw, ← hv, ← applicationView_append]
  rfl

/-- The replay takes a message over to the end of its list, or drops it. -/
theorem Delivering.keep (h : s.Delivering) (hta : t.tasks.Ok) (hsa : SameCalls s t)
    (hh : SameHistory s t) {message : OutboundMessage}
    (ht : t.heartbeatCorrelations = s.heartbeatsAfterKeeping message)
    {pending rest : List OutboundMessage} (hw : s.waiting = pending ++ [message] ++ rest)
    (hw' : t.waiting = s.keepPending now pending message ++ rest)
    (hem : drained t.replay t.send = true → t.replayBacklog = []) :
    t.Delivering ∧ Fifo.Step s.fifo t.fifo := by
  have hkn := h.waiting_known
  have hm : s.Known message := hkn message (by simp [hw])
  refine ⟨h.of_sameCalls hta hsa (fun _ he => mem_heartbeatsAfterKeeping (ht ▸ he)) ?_ hem,
    step_fifo_of_eq hh ?_⟩
  · intro other ho
    rw [hw', mem_append] at ho
    rcases ho with ho | ho
    · rcases mem_keepPending ho with ho | rfl
      · exact hkn other (by simp [hw, ho])
      · exact hm
    · exact hkn other (by simp [hw, ho])
  · rw [hw, hw', applicationView_append, applicationView_append, applicationView_append,
      h.applicationView_keepPending now pending hm]

theorem Delivering.stepReplay (h : s.Delivering) (hta : t.tasks.Ok)
    (ht : s.stepReplay input now fresh = some t) : t.Delivering ∧ Fifo.Step s.fifo t.fifo := by
  obtain ⟨phase, next, hp, hd, -⟩ := stepReplay_tasks ht
  have hse : s.send = none := by
    by_contra hs
    obtain ⟨close, hc⟩ := h.tasks.replayed (.inl hs)
    have hc : s.replay = some (.done (.returned close)) := hc
    rw [hp] at hc
    cases hc
    cases hd
  have hem := h.backlog_empty
  clear hp hd phase next
  revert ht
  fun_cases s.stepReplay input now fresh <;> intro ht <;> cases ht
  case case4 pending hp message backlog hb =>
    exact h.keep hta ⟨rfl, rfl, rfl, rfl, rfl⟩ ⟨rfl, rfl, rfl⟩ rfl
      (by simp [waiting, inFlight, hse, replayList, hp, hb, ReplayPhase.pending]; rfl)
      (by simp [waiting, inFlight, hse, replayList, ReplayPhase.pending]; rfl) (by simp [drained])
  case case6 pending hp message outbound ho =>
    have hb : s.replayBacklog = [] := hem (by simp [drained, hp])
    exact h.keep hta ⟨rfl, rfl, rfl, rfl, rfl⟩ ⟨rfl, rfl, rfl⟩ rfl
      (by simp [waiting, inFlight, hse, replayList, hp, hb, ho, ReplayPhase.pending]; rfl)
      (by simp [waiting, inFlight, hse, replayList, hb, ReplayPhase.pending]; rfl) (fun _ => hb)
  case case21 message pending hp =>
    have hb : s.replayBacklog = [] := hem (by simp [drained, hp])
    exact h.transmit hta ⟨rfl, rfl, rfl, rfl, rfl⟩ rfl rfl rfl rfl
      (applicationView_refreshTimestamp now message []).symm
      (by simp [waiting, inFlight, hse, replayList, hp, hb, ReplayPhase.pending]) (fun _ => hb)
  case case22 message pending failure hp =>
    have hb : s.replayBacklog = [] := hem (by simp [drained, hp])
    have hw : s.waiting = message :: (pending ++ s.outbound) := by
      simp [waiting, inFlight, hse, replayList, hp, hb, ReplayPhase.pending]
    exact h.refresh now hta ⟨rfl, rfl, rfl, rfl, rfl⟩ ⟨rfl, rfl, rfl⟩ rfl hw
      (by simp [waiting, inFlight, hse, replayList, hb, ReplayPhase.pending]) (fun _ => hb)
  case case24 pending failure hp =>
    have hb : s.replayBacklog = [] := hem (by simp [drained, hp])
    exact h.of_waiting_eq hta ⟨rfl, rfl, rfl, rfl, rfl⟩ ⟨rfl, rfl, rfl⟩ rfl
      (by simp [waiting, hse, hb, hp, replayList, ReplayPhase.pending]) (by simp [drained])
  case case8 pending hp =>
    refine ⟨h.of_sameCalls hta ⟨rfl, rfl, rfl, rfl, rfl⟩ (by simp) ?_ ?_,
      step_fifo_of_eq ⟨rfl, rfl, rfl⟩ ?_⟩
    · simpa [waiting, hp, replayList, ReplayPhase.pending] using h.waiting_known
    · exact fun _ => hem (by simp [drained, hp])
    · simp [waiting, hp, replayList, ReplayPhase.pending]
  case case25 result hp =>
    refine h.of_waiting_eq hta ⟨rfl, rfl, rfl, rfl, rfl⟩ ⟨rfl, rfl, rfl⟩ rfl
      (by simp [waiting, hp, replayList, ReplayPhase.pending]) ?_
    cases result with
    | returned close => exact fun _ => hem (by simp [drained, hp])
    | threw failure => simp [drained]
  case case18 pending command failure hp =>
    have hb : s.replayBacklog = [] := hem (by simp [drained, hp])
    refine h.of_waiting_eq hta ⟨rfl, rfl, rfl, rfl, rfl⟩ ⟨rfl, rfl, rfl⟩ rfl ?_ (fun _ => hb)
    simp only [waiting, hp, replayList, Option.elim_some, removeSubscriptionMutation]
    split_ifs <;> rfl
  -- In the other cases the replay only moves on, with the same list.
  all_goals
    refine h.of_waiting_eq hta ⟨rfl, rfl, rfl, rfl, rfl⟩ ⟨rfl, rfl, rfl⟩ rfl
      (by simp [waiting, replayList, ReplayPhase.pending, registerSubscriptionMutation, *]) ?_
    first
    | exact fun _ => ‹s.replayBacklog = []›
    | (simp [drained]; done)
    | exact fun _ => hem (by simp [drained, *])

theorem Delivering.stepSend (h : s.Delivering) (hta : t.tasks.Ok)
    (ht : s.stepSend input now = some t) : t.Delivering ∧ Fifo.Step s.fifo t.fifo := by
  obtain ⟨phase, next, hp, hd, -⟩ := stepSend_tasks ht
  obtain ⟨close, hre⟩ : ∃ close, s.replay = some (.done (.returned close)) :=
    h.tasks.replayed (.inl (by simp [hp]))
  have hb : s.replayBacklog = [] := by
    refine h.backlog_empty ?_
    rw [hre, hp]
    cases phase <;> first | rfl | cases hd
  clear hp hd phase next
  revert ht
  fun_cases s.stepSend input now <;> intro ht <;> cases ht
  case case1 hp message outbound ho =>
    have hw : s.waiting = message :: outbound := by
      simp [waiting, inFlight, replayList, hre, hp, hb, ho, ReplayPhase.pending, SendPhase.inFlight]
    exact h.refresh now hta ⟨rfl, rfl, rfl, rfl, rfl⟩ ⟨rfl, rfl, rfl⟩ rfl hw
      (by simp [waiting, inFlight, replayList, hre, hb, ReplayPhase.pending, SendPhase.inFlight])
      (fun _ => hb)
  case case7 message hp =>
    exact h.transmit hta ⟨rfl, rfl, rfl, rfl, rfl⟩ rfl rfl rfl rfl rfl
      (by simp [waiting, inFlight, replayList, hre, hp, hb, ReplayPhase.pending,
        SendPhase.inFlight]) (fun _ => hb)
  case case10 message failure hp =>
    exact h.of_waiting_eq hta ⟨rfl, rfl, rfl, rfl, rfl⟩ ⟨rfl, rfl, rfl⟩ rfl
      (by simp [waiting, inFlight, replayList, hre, hp, hb, ReplayPhase.pending,
        SendPhase.inFlight])
      (by simp [drained, hre])
  all_goals
    exact h.of_waiting_eq hta ⟨rfl, rfl, rfl, rfl, rfl⟩ ⟨rfl, rfl, rfl⟩ rfl
      (by simp [waiting, inFlight, SendPhase.inFlight, *]) (fun _ => hb)

theorem Delivering.senders_set (h : s.Delivering) {sender next : Sender}
    (hk : s.senders[k]? = some sender)
    (hn : ∀ message, next.message = some message → sender.message = some message) :
    ∀ other ∈ s.senders.set k next, ∀ message, other.message = some message →
      message.isApplication = true ∧ s.Known message := by
  intro other hm message he
  rcases mem_or_eq_of_mem_set hm with hm | rfl
  · exact h.senders_known other hm message he
  · exact h.senders_known sender (mem_of_getElem? hk) message (hn message he)

theorem waiting_enqueue (s : RealtimeClient) (message : OutboundMessage) :
    inFlight s.send ++ replayList s.replay ++ s.replayBacklog ++ (s.outbound ++ [message]) =
      s.waiting ++ [message] := by
  simp only [waiting, append_assoc]

theorem Delivering.enqueue_known (h : s.Delivering) {message : OutboundMessage}
    (hm : s.Known message) : ∀ other ∈ inFlight s.send ++ replayList s.replay ++ s.replayBacklog ++
      (s.outbound ++ [message]), s.Known other := by
  rw [waiting_enqueue]
  exact forall_mem_concat h.waiting_known hm

theorem Delivering.stepSender (h : s.Delivering) (hta : t.tasks.Ok) :
    s.stepSender k input = some t → t.Delivering ∧ Fifo.Step s.fifo t.fifo := by
  fun_cases s.stepSender k input <;> intro ht <;> cases ht
  case case4 message hk hacc =>
    obtain ⟨ha, hm⟩ := h.senders_known _ (mem_of_getElem? hk) message rfl
    have hc : s.completed = false := by
      simp only [accepts, Bool.and_eq_true, Bool.not_eq_true'] at hacc
      exact hacc.2
    constructor
    · refine { h with
        tasks := hta
        waiting_known := ?_
        senders_known := h.senders_set hk (by rintro _ ⟨⟩) }
      exact h.enqueue_known hm
    · have he := Fifo.Step.accept s.fifo message.untimed hc
      refine Eq.subst (motive := Fifo.Step s.fifo) ?_ he
      simp [fifo, waiting, applicationView_singleton_of_application ha]
  all_goals
    exact ⟨{ h with
      tasks := hta
      senders_known := h.senders_set ‹_› (by simp [Sender.message]) },
      .stutter _⟩

theorem applicationView_enqueue (s : RealtimeClient) {message : OutboundMessage}
    (ho : message.isApplication = false) : applicationView (inFlight s.send ++ replayList s.replay ++
      s.replayBacklog ++ (s.outbound ++ [message])) = applicationView s.waiting := by
  rw [waiting_enqueue, applicationView_append, applicationView_singleton_of_not ho, append_nil]

theorem known_of_not_application {message : OutboundMessage}
    (ho : message.isApplication = false) : s.Known message := fun ha => by simp [ho] at ha

theorem mem_recordHeartbeat (h : entry ∈ recordHeartbeat options table id now) :
    entry ∈ table ∨ entry.1 = id := by
  simp only [recordHeartbeat, mem_append, mem_singleton] at h
  rcases h with h | rfl
  · have hm := mem_of_mem_drop (mem_withoutHeartbeat h)
    exact .inl (mem_filter.mp ((mem_insertionSort _).mp hm)).1
  · exact .inr rfl

theorem Delivering.stepHeartbeat (h : s.Delivering) (hta : t.tasks.Ok) :
    s.stepHeartbeat input now fresh = some t → t.Delivering ∧ Fifo.Step s.fifo t.fifo := by
  have hor := h.heartbeat_origin
  fun_cases s.stepHeartbeat input now fresh <;> intro ht <;> cases ht
  case case1 hp hfr =>
    refine ⟨⟨hta, h.waiting_known, h.senders_known, ?_, h.command_origin, ?_, ?_,
      h.backlog_empty⟩, .stutter _⟩
    · rintro message (he | he)
      · cases he
        rfl
      · cases he
    · intro entry hm
      rcases mem_recordHeartbeat hm with hm | he
      · exact mem_append_left _ (h.table_drawn entry hm)
      · simp [he]
    · exact forall_mem_concat h.drawn_fresh (fun ha => hfr (by simp [usedIds, ha]))
  case case6 message hp _ =>
    refine ⟨{ h with tasks := hta, heartbeat_origin := ?_ }, .stutter _⟩
    rintro other (he | he)
    · cases he
    · cases he
      exact hor message (.inl hp)
  case case9 message hp hacc =>
    have ho := hor message (.inr hp)
    refine ⟨{ h with
      tasks := hta
      waiting_known := h.enqueue_known (known_of_not_application ho)
      heartbeat_origin := ?_ },
      step_fifo_of_eq ⟨rfl, rfl, rfl⟩ (applicationView_enqueue s ho)⟩
    rintro other (he | he) <;> cases he
  case case12 message failure hp =>
    refine ⟨{ h with
      tasks := hta
      heartbeat_origin := ?_
      table_drawn := fun entry hm => h.table_drawn entry (mem_withoutHeartbeat hm) }, .stutter _⟩
    rintro other (he | he) <;> cases he
  all_goals
    refine ⟨{ h with tasks := hta, heartbeat_origin := ?_ }, .stutter _⟩
    rintro other (he | he) <;> cases he

theorem Delivering.changes_set (h : s.Delivering) {next : SubscriptionChange}
    (hn : ∀ message, next.phase = .enqueuing message → message.isApplication = false) :
    ∀ change ∈ s.changes.set k next, ∀ message, change.phase = .enqueuing message →
      message.isApplication = false := by
  intro change hm message he
  rcases mem_or_eq_of_mem_set hm with hm | rfl
  · exact h.command_origin change hm message he
  · exact hn message he

theorem Delivering.stepChange (h : s.Delivering) (hta : t.tasks.Ok) :
    s.stepChange k input now fresh tooLarge = some t →
      t.Delivering ∧ Fifo.Step s.fifo t.fifo := by
  intro ht
  obtain ⟨change, hk, ⟨hp, -, ht⟩ | ht | ht | ht⟩ := stepChange_cases ht
  all_goals revert ht
  all_goals first
    | fun_cases stepRegister
    | fun_cases stepChangeEntry
    | fun_cases stepChangeApply
    | fun_cases stepChangeExit
  all_goals
    intro ht
    cases ht
  case inr.inr.inr.case1.refl command hc _ =>
    have ho := h.command_origin change (mem_of_getElem? hk) command hc
    exact ⟨{ h with
      tasks := hta
      waiting_known := h.enqueue_known (known_of_not_application ho)
      command_origin := h.changes_set (by rintro _ ⟨⟩) },
      step_fifo_of_eq ⟨rfl, rfl, rfl⟩ (applicationView_enqueue s ho)⟩
  all_goals
    refine ⟨{ h with tasks := hta, command_origin := h.changes_set ?_ }, .stutter _⟩
    intro message he
    try simp only [SubscriptionChange.goto] at he
    try split_ifs at he
    all_goals cases he
    all_goals rfl

theorem mem_observeResponse (h : change ∈ s.observeResponse route) :
    ∃ before ∈ s.changes, change.phase = before.phase := by
  unfold observeResponse at h
  split at h
  · exact ⟨change, h, rfl⟩
  · obtain ⟨i, hi⟩ := mem_iff_getElem?.mp h
    rw [getElem?_modify] at hi
    split_ifs at hi
    · obtain ⟨before, hb, rfl⟩ := Option.map_eq_some_iff.mp hi
      exact ⟨before, mem_of_getElem? hb, rfl⟩
    · obtain ⟨before, hb, rfl⟩ := Option.map_eq_some_iff.mp hi
      exact ⟨_, mem_of_getElem? hb, rfl⟩

theorem Delivering.stepReceive (h : s.Delivering) (hta : t.tasks.Ok) :
    s.stepReceive input = some t → t.Delivering ∧ Fifo.Step s.fifo t.fifo := by
  fun_cases s.stepReceive input <;> intro ht <;> cases ht
  case case9 frame hp _ _ =>
    exact ⟨{ h with
      tasks := hta
      table_drawn := fun entry hm => h.table_drawn entry (mem_withoutHeartbeat hm) }, .stutter _⟩
  case case11 frame hp mutation hm =>
    refine ⟨{ h with tasks := hta, command_origin := ?_ }, .stutter _⟩
    intro change hm message he
    obtain ⟨before, hb, hph⟩ := mem_observeResponse hm
    exact h.command_origin before hb message (hph ▸ he)
  all_goals
    exact ⟨{ h with tasks := hta }, .stutter _⟩

/-- Outside a connection only the backlog and the channel hold messages, and the
clean-up after the last one empties them. -/
theorem Delivering.discard (h : s.Delivering) (hi : s.run.inConnection = false)
    (hc : s.completed = true) (hta : t.tasks.Ok) (ht : ∃ run stoppers,
      t = { s.discardLeftovers with run := run, stoppers := stoppers }) :
    t.Delivering ∧ Fifo.Step s.fifo t.fifo := by
  obtain ⟨run, stoppers, rfl⟩ := ht
  obtain ⟨-, hr, hs, -⟩ := h.tasks.none_of_idle hi
  have hr : s.replay = none := hr
  have hs : s.send = none := hs
  refine ⟨⟨hta, ?_, h.senders_known, h.heartbeat_origin, h.command_origin, by
    simp [discardLeftovers], h.drawn_fresh, by simp [discardLeftovers]⟩, ?_⟩
  · simp [waiting, discardLeftovers, inFlight, replayList, hr, hs]
  · have he := Fifo.Step.discard s.fifo hc
    refine Eq.subst (motive := Fifo.Step s.fifo) ?_ he
    simp [fifo, waiting, discardLeftovers, inFlight, replayList, hr, hs]

theorem Delivering.complete (h : s.Delivering) (hta : t.tasks.Ok) (ht : ∃ run stoppers,
    t = { s.completeWriters with run := run, stoppers := stoppers }) :
    t.Delivering ∧ Fifo.Step s.fifo t.fifo := by
  obtain ⟨run, stoppers, rfl⟩ := ht
  exact ⟨{ h with tasks := hta }, .close _⟩

theorem Delivering.stepRun {first : FirstLoop} (h : s.Delivering) (hta : t.tasks.Ok) :
    s.stepRun input first = some t → t.Delivering ∧ Fifo.Step s.fifo t.fifo := by
  fun_cases s.stepRun input first <;> intro ht <;> cases ht
  case case5 hr =>
    -- No task is left from an earlier connection.
    obtain ⟨-, hp, hs, -⟩ := h.tasks.none_of_idle (by simp [hr, RunPhase.inConnection])
    have hp : s.replay = none := hp
    have hs : s.send = none := hs
    have hw : s.openConnection.waiting = s.waiting := by
      simp [waiting, openConnection, inFlight, replayList, hp, hs, ReplayPhase.pending]
    exact ⟨⟨hta, hw ▸ h.waiting_known, h.senders_known, by simp [openConnection],
      h.command_origin, h.table_drawn, h.drawn_fresh, by simp [openConnection, drained]⟩,
      step_fifo_of_eq ⟨rfl, rfl, rfl⟩ (by rw [hw])⟩
  case case11 hr =>
    obtain ⟨close, hp⟩ : ∃ close, s.replay = some (.done (.returned close)) :=
      h.tasks.replayed (.inr (.inr hr))
    have hs : s.send = none := (h.tasks.loops_none (.inr hr)).1
    have hw : s.reportConnected.waiting = s.waiting := by
      simp [waiting, reportConnected, inFlight, hs, SendPhase.inFlight]
    exact ⟨⟨hta, hw ▸ h.waiting_known, h.senders_known, by simp [reportConnected],
      h.command_origin, h.table_drawn, h.drawn_fresh,
      fun _ => h.backlog_empty (by simp [hp, hs, drained])⟩,
      step_fifo_of_eq ⟨rfl, rfl, rfl⟩ (by rw [hw])⟩
  case case20 result hr =>
    -- The loops are over, so that they hold no message any more.
    have hdo := h.tasks.done_of_clearing result hr
    simp only [Tasks.allDone, tasks_receive, tasks_replay, tasks_send, tasks_heartbeat,
      Bool.and_eq_true] at hdo
    have hw : (s.forgetConnection result).waiting = s.waiting := by
      simp only [waiting, forgetConnection, inFlight_eq_nil hdo.1.2,
        replayList_eq_nil hdo.1.1.2]
      rfl
    exact ⟨⟨hta, hw ▸ h.waiting_known, h.senders_known, by simp [forgetConnection],
      h.command_origin, h.table_drawn, h.drawn_fresh, by simp [forgetConnection, drained]⟩,
      step_fifo_of_eq ⟨rfl, rfl, rfl⟩ (by rw [hw])⟩
  case case31 hr => exact h.complete hta ⟨_, _, rfl⟩
  case case32 hr =>
    have hc : s.completed = true := h.tasks.completed_of_final
      (by simp [hr, RunPhase.isFinal]) (by simp [hr])
    exact h.discard (by simp [hr, RunPhase.inConnection]) hc hta ⟨_, _, rfl⟩
  all_goals
    exact ⟨{ h with tasks := hta }, .stutter _⟩

theorem Delivering.stepStopper (h : s.Delivering) (hta : t.tasks.Ok) :
    s.stepStopper k = some t → t.Delivering ∧ Fifo.Step s.fifo t.fifo := by
  fun_cases s.stepStopper k <;> intro ht <;> cases ht
  case case2 hk => exact h.complete hta ⟨_, _, rfl⟩
  case case3 hk =>
    have hm := mem_of_getElem? hk
    have hr : s.run = .skipped := h.tasks.skipped_of_stopper _ hm rfl
    exact h.discard (by simp [hr, RunPhase.inConnection]) (h.tasks.completed_of_stopper hm) hta
      ⟨_, _, rfl⟩
  all_goals
    exact ⟨{ h with tasks := hta }, .stutter _⟩

theorem Delivering.callSend {message : MessageEnvelope} (h : s.Delivering) (hta : t.tasks.Ok) :
    s.callSend message now tooLarge = some t → t.Delivering ∧ Fifo.Step s.fifo t.fifo := by
  fun_cases s.callSend message now tooLarge <;> intro ht <;> cases ht
  rename_i hco owned how hfr
  have hco : isSubscriptionCommand message = false := by
    simp only [Bool.or_eq_true, not_or, Bool.not_eq_true] at hco
    exact hco.2
  have hk {u : RealtimeClient} (hu : u.applicationIds = s.applicationIds ++
      [owned.correlationId.getD []]) (other : OutboundMessage) (ho : s.Known other) :
      u.Known other := fun ha => ⟨(ho ha).1, hu ▸ mem_append_left _ (ho ha).2⟩
  refine ⟨⟨hta, fun other ho => hk rfl other (h.waiting_known other ho), ?_, h.heartbeat_origin,
    h.command_origin, h.table_drawn, ?_, h.backlog_empty⟩, .stutter _⟩
  · intro sender hm other he
    rcases mem_append.mp hm with hm | hm
    · obtain ⟨ha, ho⟩ := h.senders_known sender hm other he
      exact ⟨ha, hk rfl other ho⟩
    · rw [mem_singleton.mp hm] at he
      cases he
      refine ⟨rfl, fun _ => ⟨?_, by simp [OutboundMessage.correlationId]⟩⟩
      exact isSubscriptionCommand_of_prepared how ▸ hco
  · intro id hm ha
    rcases mem_append.mp ha with ha | ha
    · exact h.drawn_fresh id hm ha
    · exact hfr (mem_singleton.mp ha ▸ hm)

theorem Delivering.callChange {subscribe : Bool} {correlationId : Option Text} (h : s.Delivering)
    (hta : t.tasks.Ok) : s.callChange route subscribe correlationId = some t →
      t.Delivering ∧ Fifo.Step s.fifo t.fifo := by
  fun_cases s.callChange route subscribe correlationId <;> intro ht <;> cases ht
  refine ⟨{ h with tasks := hta, command_origin := ?_ }, .stutter _⟩
  intro change hm message he
  rcases mem_append.mp hm with hm | hm
  · exact h.command_origin change hm message he
  · rw [mem_singleton.mp hm] at he
    cases he

theorem Delivering.step {label : Label} (h : s.Delivering) (ht : step s label = some t) :
    t.Delivering ∧ Fifo.Step s.fifo t.fifo := by
  have hta := step_tasks h.tasks ht
  cases label with
  | send message now tooLarge => exact h.callSend hta ht
  | change route subscribe correlationId => exact h.callChange hta ht
  | sender k input => exact h.stepSender hta ht
  | changeStep k input now fresh tooLarge => exact h.stepChange hta ht
  | stopper k => exact h.stepStopper hta ht
  | run input first => exact h.stepRun hta ht
  | receive input => exact h.stepReceive hta ht
  | replay input now fresh => exact h.stepReplay hta ht
  | sendLoop input now => exact h.stepSend hta ht
  | heartbeat input now fresh => exact h.stepHeartbeat hta ht
  | _ =>
    obtain ⟨u, rfl⟩ := step_footprint _ ht
    exact ⟨{ h with tasks := hta }, .stutter _⟩

theorem delivering_initial (options : RealtimeClientOptions) :
    Delivering { options } where
  tasks := tasks_initial options
  waiting_known _ hm := by cases hm
  senders_known _ hm := by cases hm
  heartbeat_origin _ := by simp
  command_origin _ hm := by cases hm
  table_drawn _ hm := by cases hm
  drawn_fresh _ hm := by cases hm
  backlog_empty _ := rfl

theorem Delivering.run {labels : List Label} (hr : Client.step.run { options } labels = some s) :
    s.Delivering ∧ s.fifo.InOrder := by
  refine StepFn.run_induct (P := fun s => s.Delivering ∧ s.fifo.InOrder) ?_
    ⟨delivering_initial options, (prefix_rfl : ([] : List MessageEnvelope) <+: []),
      fun _ => rfl⟩ hr
  intro s label t h ht
  obtain ⟨hd, hf⟩ := h.1.step ht
  exact ⟨hd, h.2.step hf⟩

end RealtimeClient

/-- The first connection takes a message and fails to send it; the second one
has replayed it and holds the message that was accepted in between. -/
def exampleReplay : List Label :=
  connectSteps ++
    [.send (exampleMessage [1]) exampleClock false, .sender 0 .ok, .sender 0 .ok,
      .sendLoop .ok exampleClock, .sendLoop (.failed .other) exampleClock,
      .sendLoop .ok exampleClock,
      .send (exampleMessage [2]) exampleClock false, .sender 1 .ok, .sender 1 .ok] ++
    runSteps 3 ++
    [.receive (.failed .cancelled), .receive .ok,
      .heartbeat (.failed .cancelled) exampleClock exampleFresh] ++ runSteps 12 ++ replaySteps 9

end Realtime.Client
