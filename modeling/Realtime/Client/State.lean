import Realtime.Machine
import Realtime.Validation

/-! The shared state of `RealtimeClient`, the tasks and callers that work on it,
and the peer that the current transport leads to. A task is described by the
access to shared state that it makes next. `Guid.NewGuid` is idealised: what it
returns differs from every correlation identifier in use, and no caller passes
the identifier of an automatic heartbeat, which the client never shows. -/

namespace Realtime.Client

inductive RealtimeClientState where
  | disconnected | connecting | connected | reconnecting | stopping | faulted
  deriving DecidableEq

structure RealtimeClientOptions where
  sendQueueCapacity : Nat := 128
  receiveQueueCapacity : Nat := 128
  maximumSubscriptions : Nat := 64
  heartbeatSeconds : Nat := 15
  maximumReconnectAttempts : Nat := 8

/-- The kinds of exception that the catch clauses of `RunAsync` tell apart. -/
inductive Failure where
  | cancelled | protocol | insecure | other
  deriving DecidableEq

namespace RealtimeCloseCodes

def normal : Int := 1000
def serviceRestart : Int := 1012

end RealtimeCloseCodes

structure RealtimeTransportClose where
  code : Option Int
  reconnect : Option ReconnectAdvice := none
  deriving DecidableEq

def RealtimeTransportClose.isNormal (close : RealtimeTransportClose) : Bool :=
  close.code == some RealtimeCloseCodes.normal

/-- How a task ends; only the receive loop returns a close. -/
inductive Completion where
  | returned (close : Option RealtimeTransportClose)
  | threw (failure : Failure)
  deriving DecidableEq

/-- Who put a message on the shared queue. The client does not record this. -/
inductive Origin where
  | application | heartbeat | subscription
  deriving DecidableEq

structure OutboundMessage where
  envelope : MessageEnvelope
  origin : Origin

namespace OutboundMessage

def correlationId (message : OutboundMessage) : Text := message.envelope.correlationId.getD []

def refreshTimestamp (now : UtcNow) (message : OutboundMessage) : OutboundMessage :=
  { message with envelope := { message.envelope with timestamp := now.ticks } }

end OutboundMessage

def isSubscriptionCommand (message : MessageEnvelope) : Bool :=
  message.type == some ProtocolMessageTypes.subscribe ||
    message.type == some ProtocolMessageTypes.unsubscribe

structure SubscriptionMutation where
  correlationId : Text
  route : Text
  subscribe : Bool
  sequence : Nat
  deriving DecidableEq

/-- An envelope on its way from the server, with the message that it answers. -/
structure ServerFrame where
  envelope : ServerMessageEnvelope
  answers : Option OutboundMessage := none

inductive ReceivePhase where
  | receiving
  | failing
  | closing (close : RealtimeTransportClose)
  | filtering (frame : ServerFrame)
  | responding (frame : ServerFrame)
  | releasing (frame : ServerFrame)
  | writing (frame : ServerFrame)
  | ending (result : Completion)
  | done (result : Completion)

/-- `pending` is the local list of application messages to be replayed. -/
inductive ReplayPhase where
  | waiting
  | drainingBacklog (pending : List OutboundMessage)
  | drainingOutbound (pending : List OutboundMessage)
  | clearing (pending : List OutboundMessage)
  | reading (pending : List OutboundMessage)
  | commanding (pending : List OutboundMessage) (routes : List Text)
  | registering (pending : List OutboundMessage) (command : OutboundMessage) (route : Text)
      (routes : List Text)
  | sending (pending : List OutboundMessage) (command : OutboundMessage) (route : Text)
      (routes : List Text)
  | forgetting (pending : List OutboundMessage) (command : OutboundMessage) (failure : Failure)
  | returningSlot (pending : List OutboundMessage) (failure : Failure)
  | messages (pending : List OutboundMessage)
  | releasing (pending : List OutboundMessage)
  | retaining (pending : List OutboundMessage) (failure : Failure)
  | leaving (result : Completion)
  | done (result : Completion)

inductive SendPhase where
  | waiting
  | sending (message : OutboundMessage)
  | releasing
  | failing (message : OutboundMessage) (failure : Failure)
  | done (result : Completion)

inductive HeartbeatPhase where
  | delaying
  | acquiring (heartbeat : OutboundMessage)
  | enqueuing (heartbeat : OutboundMessage)
  | rejecting (heartbeat : OutboundMessage)
  | forgetting (heartbeat : OutboundMessage) (failure : Failure)
  | done (result : Completion)

inductive RunPhase where
  | idle
  | head
  | announcing
  | authenticating
  | connecting
  | awaitingReplay
  | reporting
  | awaitingLoops
  | leaving (result : Completion)
  | cancelling (result : Completion)
  | observing (result : Completion)
  | clearing (result : Completion)
  | catching (failure : Failure)
  | retrying
  | stoppingSends
  | faulting
  | closing (close : Option RealtimeTransportClose) (last : Bool)
  | checking (close : Option RealtimeTransportClose)
  | rescheduling
  | delaying
  | completing
  | discarding
  | forgetting
  | ending
  | disconnecting
  | ended
  | skipped
  deriving DecidableEq

def ReceivePhase.isDone : ReceivePhase → Bool
  | done _ => true
  | _ => false

def ReplayPhase.isDone : ReplayPhase → Bool
  | done _ => true
  | _ => false

def SendPhase.isDone : SendPhase → Bool
  | done _ => true
  | _ => false

def HeartbeatPhase.isDone : HeartbeatPhase → Bool
  | done _ => true
  | _ => false

/-- `RunAsync` has returned, or was never started and is replaced by a completed task. -/
def RunPhase.isCompleted : RunPhase → Bool
  | ended | skipped => true
  | _ => false

/-- A call of `SendAsync`. -/
inductive Sender where
  | acquiring (message : OutboundMessage)
  | enqueuing (message : OutboundMessage)
  | rejecting
  | finished (accepted : Bool)

inductive ChangePhase where
  | ordering
  | entering
  | gating
  | disposal
  | inspecting
  | comparing
  | slotting
  | regating
  | redisposal
  | reinspecting
  | applying
  | awaitingResponse
  | lastDisposal
  | confirming
  | reapplying
  | registering
  | enqueuing (command : OutboundMessage)
  | rejecting
  | settling
  | forgetting
  | rollingBack
  | releasing (proceed : Bool)
  | returningSendSlot
  | returningResponseSlot
  | unordering
  | finished

/-- A call of `SubscribeAsync` or `UnsubscribeAsync`. The two slots are those
that were acquired and not transferred. -/
structure SubscriptionChange where
  route : Text
  subscribe : Bool
  correlationId : Option Text
  phase : ChangePhase := .ordering
  sendSlot : Bool := false
  responseSlot : Bool := false
  previousState : Bool := false
  responseObserved : Bool := false
  registered : Option Text := none
  failed : Bool := false

namespace SubscriptionChange

def goto (change : SubscriptionChange) (phase : ChangePhase) : SubscriptionChange :=
  { change with phase }

def fail (change : SubscriptionChange) (phase : ChangePhase) : SubscriptionChange :=
  { change with phase, failed := true }

end SubscriptionChange

/-- A call of `DisconnectAsync` or `Dispose` after its locked part. -/
inductive Stopper where
  | cancelling (completeWithoutRun : Bool)
  | completing
  | discarding
  | forgetting
  | finished
  deriving DecidableEq

inductive GateHolder where
  | replay
  | change (k : Nat)
  deriving DecidableEq

structure RealtimeClient where
  options : RealtimeClientOptions
  state : RealtimeClientState := .disconnected
  acceptingSends : Bool := true
  disposed : Bool := false
  /-- The lifetime token and the linked token of the current connection. -/
  cancelled : Bool := false
  connectionCancelled : Bool := false
  connectPending : Bool := false
  completed : Bool := false
  outbound : List OutboundMessage := []
  inbound : List ServerMessageEnvelope := []
  sendSlots : Nat := options.sendQueueCapacity
  responseSlots : Nat := options.sendQueueCapacity
  orderGate : Bool := false
  gate : Option GateHolder := none
  subscriptions : List Text := []
  confirmedSubscriptions : List Text := []
  pendingSubscriptionMutations : List SubscriptionMutation := []
  nextSubscriptionMutationSequence : Nat := 0
  activeSubscriptionRollback : Option Nat := none
  heartbeatCorrelations : List (Text × Int) := []
  replayBacklog : List OutboundMessage := []
  run : RunPhase := .idle
  reconnectAttempt : Nat := 0
  transportOpen : Bool := false
  receive : Option ReceivePhase := none
  replay : Option ReplayPhase := none
  send : Option SendPhase := none
  heartbeat : Option HeartbeatPhase := none
  senders : List Sender := []
  changes : List SubscriptionChange := []
  stoppers : List Stopper := []
  /-- The peer of the current connection: what was sent to it and not served
  yet, its subscriptions and what it has sent and the client has not received. -/
  wire : List OutboundMessage := []
  serverSubscriptions : List Text := []
  frames : List ServerFrame := []
  /-- The history of the client: application messages in the order in which they
  were accepted and sent, transports opened, identifiers in use. -/
  accepted : List OutboundMessage := []
  sent : List OutboundMessage := []
  opened : Nat := 0
  applicationIds : List Text := []
  commandIds : List Text := []
  heartbeatIds : List Text := []

/-- A `HashSet` after `Add` or `Remove`. -/
def setMember (set : List Text) (element : Text) (present : Bool) : List Text :=
  if present then if element ∈ set then set else set ++ [element]
  else set.filter (fun other => other ≠ element)

theorem mem_setMember {set : List Text} {element other : Text} {present : Bool} :
    other ∈ setMember set element present ↔
      if other = element then present = true else other ∈ set := by
  unfold setMember
  cases present with
  | true =>
    by_cases hm : element ∈ set
    · simp only [if_true, if_pos hm]
      split_ifs with he
      · subst he; simpa using hm
      · rfl
    · simp only [if_true, if_neg hm, List.mem_append, List.mem_singleton]
      split_ifs with he
      · simp [he]
      · simp [he]
  | false =>
    simp only [Bool.false_eq_true, if_false, List.mem_filter, decide_eq_true_eq]
    split_ifs with he
    · simp [he]
    · simp [he]

/-- `ReconcileDesiredSubscriptionLocked`: what the latest unanswered command for
the route asks for, and without one what the server has confirmed. -/
def desiredSubscription (pending : List SubscriptionMutation) (confirmed : List Text)
    (route : Text) : Bool :=
  match (pending.filter (fun candidate => candidate.route = route)).argmax
    SubscriptionMutation.sequence with
  | some latest => latest.subscribe
  | none => decide (route ∈ confirmed)

namespace RealtimeClient

def setChange (s : RealtimeClient) (k : Nat) (change : SubscriptionChange) : RealtimeClient :=
  { s with changes := s.changes.set k change }

def tokenCancelled (s : RealtimeClient) : Bool := s.cancelled || s.connectionCancelled

/-- `ReleaseSendSlot` writes to a bounded channel, which may be completed. -/
def releasedSendSlots (s : RealtimeClient) : Nat :=
  if s.completed || decide (s.options.sendQueueCapacity ≤ s.sendSlots) then s.sendSlots
  else s.sendSlots + 1

def beginStopping (s : RealtimeClient) : RealtimeClient :=
  { s with acceptingSends := false, state := .stopping }

def beginProtocolFailure (s : RealtimeClient) : RealtimeClient :=
  { s with acceptingSends := false, state := .faulted }

def containsMutation (s : RealtimeClient) (correlationId : Text) : Bool :=
  s.pendingSubscriptionMutations.any (fun mutation => mutation.correlationId == correlationId)

/-- The effect of `RegisterSubscriptionMutation`, which throws when the
identifier is already pending. -/
def registerSubscriptionMutation (s : RealtimeClient) (correlationId route : Text)
    (subscribe : Bool) : RealtimeClient :=
  { s with
    pendingSubscriptionMutations := s.pendingSubscriptionMutations ++
      [⟨correlationId, route, subscribe, s.nextSubscriptionMutationSequence + 1⟩]
    nextSubscriptionMutationSequence := s.nextSubscriptionMutationSequence + 1 }

def withoutMutation (pending : List SubscriptionMutation) (correlationId : Text) :
    List SubscriptionMutation :=
  pending.filter (fun mutation => mutation.correlationId ≠ correlationId)

/-- The effect of `RemoveSubscriptionMutation`. -/
def removeSubscriptionMutation (s : RealtimeClient) (correlationId : Text) : RealtimeClient :=
  { s with
    pendingSubscriptionMutations := withoutMutation s.pendingSubscriptionMutations correlationId }

/-- `ResponseObserved` of the active rollback when it is about the same route. -/
def observeResponse (s : RealtimeClient) (route : Text) : List SubscriptionChange :=
  match s.activeSubscriptionRollback with
  | none => s.changes
  | some k =>
    s.changes.modify k (fun change =>
      { change with responseObserved := change.responseObserved || decide (change.route = route) })

/-- The locked part of `HandleSubscriptionResponse` for a mutation that was found. -/
def applyResponse (s : RealtimeClient) (mutation : SubscriptionMutation) (acknowledged : Bool) :
    RealtimeClient :=
  let pending := withoutMutation s.pendingSubscriptionMutations mutation.correlationId
  let confirmed :=
    if acknowledged then setMember s.confirmedSubscriptions mutation.route mutation.subscribe
    else s.confirmedSubscriptions
  { s with
    pendingSubscriptionMutations := pending
    confirmedSubscriptions := confirmed
    subscriptions := setMember s.subscriptions mutation.route
      (desiredSubscription pending confirmed mutation.route)
    changes := s.observeResponse mutation.route }

/-- `RollbackSubscriptionChange` of the change at position `k`. -/
def rollbackSubscriptionChange (s : RealtimeClient) (k : Nat) (change : SubscriptionChange) :
    RealtimeClient :=
  { s with
    subscriptions := setMember s.subscriptions change.route
      (if change.responseObserved then
        desiredSubscription s.pendingSubscriptionMutations s.confirmedSubscriptions change.route
      else change.previousState)
    activeSubscriptionRollback :=
      if s.activeSubscriptionRollback = some k then none else s.activeSubscriptionRollback }

def clearPendingSubscriptionMutations (s : RealtimeClient) : RealtimeClient :=
  { s with
    pendingSubscriptionMutations := []
    confirmedSubscriptions := []
    responseSlots := s.responseSlots + s.pendingSubscriptionMutations.length }

/-- `CompleteChannels` completes the writers under the state lock, then discards
what is left in the channels and tables, then clears the pending mutations. -/
def completeWriters (s : RealtimeClient) : RealtimeClient :=
  { s with acceptingSends := false, completed := true }

def discardLeftovers (s : RealtimeClient) : RealtimeClient :=
  { s with
    outbound := []
    inbound := []
    replayBacklog := []
    heartbeatCorrelations := [] }

def isAutomaticHeartbeat (s : RealtimeClient) (correlationId : Text) : Bool :=
  s.heartbeatCorrelations.any (fun entry => entry.1 == correlationId)

def withoutHeartbeat (table : List (Text × Int)) (correlationId : Text) : List (Text × Int) :=
  table.filter (fun entry => entry.1 ≠ correlationId)

/-- `AddPendingApplicationMessage` keeps a message taken from the backlog or the
channel, or drops it and releases its slot. The look-up of a heartbeat removes it. -/
def isKept (s : RealtimeClient) (message : OutboundMessage) : Bool :=
  !isSubscriptionCommand message.envelope && !s.isAutomaticHeartbeat message.correlationId

def keepPending (s : RealtimeClient) (now : UtcNow) (pending : List OutboundMessage)
    (message : OutboundMessage) : List OutboundMessage :=
  if s.isKept message then pending ++ [message.refreshTimestamp now] else pending

def slotsAfterKeeping (s : RealtimeClient) (message : OutboundMessage) : Nat :=
  if s.isKept message then s.sendSlots else s.releasedSendSlots

def heartbeatsAfterKeeping (s : RealtimeClient) (message : OutboundMessage) : List (Text × Int) :=
  if isSubscriptionCommand message.envelope then s.heartbeatCorrelations
  else withoutHeartbeat s.heartbeatCorrelations message.correlationId

end RealtimeClient

end Realtime.Client
