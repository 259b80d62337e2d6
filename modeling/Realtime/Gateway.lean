import Realtime.Machine
import Realtime.Replies

/-! The gateways as one concurrent system. Commands, heartbeats and bus
deliveries are tasks, and a task takes one step for each of its accesses to
shared state, so that any other task may run between a check and the action
that relies on it. Commands of one connection are not serialised here. -/

namespace Realtime

def RealtimeIdentity.owner (identity : RealtimeIdentity) : Text × Text :=
  (identity.tenantId, identity.userId)

inductive CommandPhase where
  | revalidating
  | comparing
  | updating (refreshed : RealtimeIdentity)
  | tracking
  | authorizing
  | applying (identity : RealtimeIdentity) (route : AuthorizedRoute)
  | publishing (message : RealtimeBusMessage) (reply : Option ServerMessageEnvelope)
  | replying (reply : ServerMessageEnvelope)
  | finished

/-- A command envelope on its way through one connection; a heartbeat has none. -/
structure Command where
  connection : Nat
  envelope : Option MessageEnvelope
  phase : CommandPhase := .revalidating

def replyPhase : Option ServerMessageEnvelope → CommandPhase
  | some reply => .replying reply
  | none => .finished

def heartbeatPing (fresh : Guid) (now : UtcNow) : ServerMessageEnvelope where
  version := some ProtocolVersions.current
  type := some ProtocolMessageTypes.ping
  correlationId := some fresh.toText
  timestamp := now.ticks
  route := some (utf16 "system/heartbeat")

section

variable [CharTable]

/-- `RevalidateIdentityAsync` (`RevalidateAsync` for `http`), `TryTrackCorrelation`
and `DispatchAsync`, one access to the connection at a time. A revalidation that
fails requests the close of the connection. -/
def Command.advance (options : RealtimeOptions) (http : Bool) (command : Command)
    (connection : RealtimeConnection) (answers : Answers) : CommandPhase × RealtimeConnection :=
  let expired := decide (connection.identity.expiresAt ≤ answers.revalidatedAt.ticks)
  match command.phase, command.envelope with
  | .revalidating, _ =>
    match connection.sessionId with
    | none => if expired then (.finished, connection.requestClose) else (.tracking, connection)
    | some _ =>
      if http && expired then (.finished, connection.requestClose) else (.comparing, connection)
  | .comparing, _ =>
    match answers.session with
    | .identity refreshed =>
      if refreshed.owner = connection.identity.owner then (.updating refreshed, connection)
      else (.finished, connection.requestClose)
    | _ => (.finished, connection.requestClose)
  | .updating refreshed, _ => (.tracking, connection.updateIdentity refreshed)
  | .tracking, some envelope =>
    let tracked := connection.tryTrackCorrelation options (envelope.correlationId.getD [])
    if tracked.1 then (.authorizing, tracked.2)
    else
      (.replying (errorReply (some envelope) ProtocolErrorCodes.duplicateCorrelation
        (utf16 "CorrelationId has already been processed on this connection.")
        answers.fresh answers.repliedAt), tracked.2)
  | .tracking, none =>
    if expired then (.finished, connection.requestClose)
    else (.replying (heartbeatPing answers.fresh answers.repliedAt), connection)
  | .authorizing, some envelope =>
    match authorizeCommand connection.identity envelope answers with
    | .error reply => (replyPhase reply, connection)
    | .ok route => (.applying connection.identity route, connection)
  | .applying _ route, some envelope =>
    let outcome := dispatchAuthorized options connection envelope route answers
    match outcome.published with
    | some message => (.publishing message outcome.reply, outcome.connection)
    | none => (replyPhase outcome.reply, outcome.connection)
  | .publishing _ reply, _ => (replyPhase reply, connection)
  | .replying reply, _ => (.finished, (connection.tryEnqueue options reply).2)
  | _, _ => (.finished, connection)

def Command.next (options : RealtimeOptions) (http : Bool) (answers : Answers)
    (s : Command × RealtimeConnection) : Command × RealtimeConnection :=
  let moved := s.1.advance options http s.2 answers
  ({ s.1 with phase := moved.1 }, moved.2)

def DispatchOutcome.enqueueReply (options : RealtimeOptions) (outcome : DispatchOutcome) :
    RealtimeConnection :=
  match outcome.reply with
  | some reply => (outcome.connection.tryEnqueue options reply).2
  | none => outcome.connection

section Alone

variable (options : RealtimeOptions) (http : Bool) (answers : Answers) (c : Nat)
  (envelope : MessageEnvelope) (connection : RealtimeConnection)

/-- Alone on the connection, a command in this phase ends with the given outcome. -/
def Command.EndsWith (phase : CommandPhase) (outcome : DispatchOutcome) : Prop :=
  ∃ n, (next options http answers)^[n] (⟨c, some envelope, phase⟩, connection) =
    (⟨c, some envelope, .finished⟩, outcome.enqueueReply options)

variable {options http answers c envelope connection}

theorem Command.EndsWith.of_advance {phase phase' : CommandPhase} {outcome : DispatchOutcome}
    {connection' : RealtimeConnection}
    (h : EndsWith options http answers c envelope connection' phase' outcome)
    (ha : advance options http ⟨c, some envelope, phase⟩ connection answers =
      (phase', connection')) :
    EndsWith options http answers c envelope connection phase outcome := by
  obtain ⟨n, hn⟩ := h
  refine ⟨n + 1, ?_⟩
  rw [Function.iterate_succ_apply, ← hn]
  simp only [next, ha]

theorem Command.endsWith_reply (outcome : DispatchOutcome) :
    EndsWith options http answers c envelope outcome.connection (replyPhase outcome.reply)
      outcome := by
  cases hr : outcome.reply with
  | none => exact ⟨0, by simp only [Function.iterate_zero, id, replyPhase,
      DispatchOutcome.enqueueReply, hr]⟩
  | some reply => exact ⟨1, by simp only [Function.iterate_one, next, replyPhase, advance,
      DispatchOutcome.enqueueReply, hr]⟩

theorem Command.endsWith_dispatch :
    EndsWith options http answers c envelope connection .authorizing
      (dispatch options connection envelope answers) := by
  cases ha : authorizeCommand connection.identity envelope answers with
  | error reply =>
    have hd : dispatch options connection envelope answers =
        { connection := connection, reply := reply } := by simp only [dispatch, ha]
    rw [hd]
    exact (endsWith_reply { connection := connection, reply := reply }).of_advance
      (by simp only [advance, ha])
  | ok route =>
    have hd : dispatch options connection envelope answers =
        dispatchAuthorized options connection envelope route answers := by simp only [dispatch, ha]
    rw [hd]
    have hr := @endsWith_reply _ options http answers c envelope
      (dispatchAuthorized options connection envelope route answers)
    have hap : EndsWith options http answers c envelope connection
        (.applying connection.identity route)
        (dispatchAuthorized options connection envelope route answers) := by
      cases hp : (dispatchAuthorized options connection envelope route answers).published with
      | none => exact hr.of_advance (by simp only [advance, hp])
      | some message =>
        have hm : EndsWith options http answers c envelope
            (dispatchAuthorized options connection envelope route answers).connection
            (.publishing message (dispatchAuthorized options connection envelope route answers).reply)
            (dispatchAuthorized options connection envelope route answers) := hr.of_advance rfl
        exact hm.of_advance (by simp only [advance, hp])
    exact hap.of_advance (by simp only [advance, ha])

theorem Command.endsWith_trackAndDispatch :
    EndsWith options http answers c envelope connection .tracking
      (trackAndDispatch options connection envelope answers) := by
  cases ht : (connection.tryTrackCorrelation options (envelope.correlationId.getD [])).1 with
  | true =>
    simp only [trackAndDispatch, ht, if_true]
    exact endsWith_dispatch.of_advance (by simp only [advance, ht, if_true])
  | false =>
    simp only [trackAndDispatch, ht, Bool.false_eq_true, if_false]
    exact (endsWith_reply (DispatchOutcome.mk _ (some _) none none)).of_advance
      (by simp only [advance, ht, Bool.false_eq_true, if_false, replyPhase])

theorem Command.endsWith_refreshed {refreshed : RealtimeIdentity}
    (ha : answers.session = .identity refreshed)
    (ho : refreshed.tenantId = connection.identity.tenantId ∧
      refreshed.userId = connection.identity.userId) :
    EndsWith options http answers c envelope connection .comparing
      (trackAndDispatch options (connection.updateIdentity refreshed) envelope answers) := by
  have hu : EndsWith options http answers c envelope connection (.updating refreshed)
      (trackAndDispatch options (connection.updateIdentity refreshed) envelope answers) :=
    endsWith_trackAndDispatch.of_advance rfl
  have how : refreshed.owner = connection.identity.owner := Prod.ext ho.1 ho.2
  exact hu.of_advance (by simp only [advance, ha, how, if_true])

/-- Without interference a command on a WebSocket does what the receiver is
modelled to do in one go. -/
theorem Command.endsWith_webSocket
    (hv : (revalidateIdentity connection answers).1 = .valid) :
    EndsWith options false answers c envelope connection .revalidating
      (trackAndDispatch options (revalidateIdentity connection answers).2 envelope answers) := by
  simp only [revalidateIdentity] at hv ⊢
  split at hv
  · next hs =>
    split at hv
    · next hn =>
      refine endsWith_trackAndDispatch.of_advance ?_
      simp only [advance, hs, decide_eq_true_eq, Int.not_le.mpr hn, if_false]
    · cases hv
  · next sessionId hs =>
    split at hv
    · cases hv
    · cases hv
    · next refreshed ha =>
      split at hv
      · next ho =>
        simp only [ho, and_self, if_true]
        refine (endsWith_refreshed ha ho).of_advance ?_
        simp only [advance, hs, Bool.false_and, Bool.false_eq_true, if_false]
      · cases hv

theorem Command.endsWith_http (hv : (revalidateHttp connection answers).1 = true) :
    EndsWith options true answers c envelope connection .revalidating
      (trackAndDispatch options (revalidateHttp connection answers).2 envelope answers) := by
  simp only [revalidateHttp] at hv ⊢
  split at hv
  · cases hv
  next hn =>
    simp only [hn, if_false]
    split at hv
    · next hs =>
      refine endsWith_trackAndDispatch.of_advance ?_
      simp only [advance, hs, decide_eq_true_eq, hn, if_false]
    · next sessionId hs =>
      split at hv
      · next refreshed ha =>
        split at hv
        · next ho =>
          simp only [ho, and_self, if_true]
          refine (endsWith_refreshed ha ho).of_advance ?_
          simp only [advance, hs, Bool.true_and, decide_eq_true_eq, hn, if_false]
        · cases hv
      · cases hv

end Alone

end

def sessionConnection : RealtimeConnection :=
  { exampleConnection with sessionId := some (utf16 "session-1") }

/-- The session answers with an identity that expires later. -/
def refreshingAnswers : Answers :=
  { exampleAnswers with session := .identity { exampleIdentity with
      expiresAt := exampleIdentity.expiresAt + 1 } }

def subscribeCommand : MessageEnvelope where
  version := some ProtocolVersions.current
  type := some ProtocolMessageTypes.subscribe
  correlationId := some (utf16 "c-1")
  timestamp := exampleNow.ticks
  route := some (utf16 "topics/orders")
  payload := .undefined

theorem Command.endsWith_webSocket_subscribe : let _ := asciiTable
    ∃ refreshed : RealtimeConnection,
      refreshed.identity.expiresAt = exampleIdentity.expiresAt + 1 ∧
      EndsWith {} false refreshingAnswers 0 subscribeCommand sessionConnection .revalidating
        (trackAndDispatch {} refreshed subscribeCommand refreshingAnswers) := by
  intro table
  exact ⟨_, rfl, endsWith_webSocket rfl⟩

theorem Command.endsWith_http_subscribe : let _ := asciiTable
    ∃ refreshed : RealtimeConnection,
      refreshed.identity.expiresAt = exampleIdentity.expiresAt + 1 ∧
      EndsWith {} true refreshingAnswers 0 subscribeCommand sessionConnection .revalidating
        (trackAndDispatch {} refreshed subscribeCommand refreshingAnswers) := by
  intro table
  exact ⟨_, rfl, endsWith_http rfl⟩

def isPotentialRecipient (connection : RealtimeConnection) (identity : RealtimeIdentity)
    (message : RealtimeBusMessage) : Bool :=
  identity.tenantId == message.tenantId &&
    message.userId.all (fun userId => identity.userId == userId) &&
    identity.allows message.topic && connection.isSubscribed message.topic message.userId

/-- The place of `DeliverAsync` in its loop body, with the local `identity`. -/
inductive DeliveryPhase where
  | reading
  | screening (identity : RealtimeIdentity)
  | revalidating (identity : RealtimeIdentity)
  | updating (refreshed : RealtimeIdentity)
  | confirming (identity : RealtimeIdentity)
  | enqueuing (identity : RealtimeIdentity)

/-- `none` ends the loop body for the connection at hand. -/
def DeliveryPhase.advance (options : RealtimeOptions) (message : RealtimeBusMessage)
    (phase : DeliveryPhase) (connection : RealtimeConnection) (answers : Answers) :
    Option DeliveryPhase × RealtimeConnection :=
  match phase with
  | .reading => (some (.screening connection.identity), connection)
  | .screening identity =>
    if isPotentialRecipient connection identity message then
      match connection.sessionId with
      | some _ => (some (.revalidating identity), connection)
      | none => (some (.confirming identity), connection)
    else (none, connection)
  | .revalidating identity =>
    match answers.session with
    | .identity refreshed =>
      if refreshed.owner = identity.owner then (some (.updating refreshed), connection)
      else (none, connection.requestClose)
    | _ => (none, connection.requestClose)
  | .updating refreshed => (some (.confirming refreshed), connection.updateIdentity refreshed)
  | .confirming identity =>
    if identity.expiresAt ≤ answers.arrivedAt.ticks then (none, connection.requestClose)
    else if isPotentialRecipient connection identity message then
      (some (.enqueuing identity), connection)
    else (none, connection)
  | .enqueuing _ =>
    let enqueued := connection.tryEnqueue options message.toEvent
    if !enqueued.1 && enqueued.2.hasExceededSlowConsumerLimit options then
      let marked := enqueued.2.tryMarkSlowConsumerDisconnect
      (none, if marked.1 then marked.2.requestClose else marked.2)
    else (none, enqueued.2)

structure Delivery where
  message : RealtimeBusMessage
  remaining : List Nat
  phase : DeliveryPhase := .reading

structure Member where
  connection : RealtimeConnection
  gateway : Nat
  http : Bool
  registered : Bool := false

/-- What happened, for stating properties only: no step reads it. -/
inductive Event where
  | subscribed (c : Nat) (identity : RealtimeIdentity) (text : Text) (route : AuthorizedRoute)
  | unsubscribed (c : Nat) (route : AuthorizedRoute)
  | published (c : Nat) (message : RealtimeBusMessage)
  | confirmed (d c : Nat) (identity : RealtimeIdentity)
  | enqueued (d c : Nat) (identity : RealtimeIdentity) (message : RealtimeBusMessage)

/-- Connections and tasks are named by their position; the log is newest first. -/
structure World where
  members : List Member := []
  commands : List Command := []
  bus : List RealtimeBusMessage := []
  deliveries : List Delivery := []
  log : List Event := []

namespace World

def owner (w : World) (c : Nat) : Option (Text × Text) :=
  w.members[c]?.map (fun member => member.connection.identity.owner)

/-- The snapshot that `_connections.Values` takes on one gateway. -/
def registeredAt (w : World) (gateway : Nat) : List Nat :=
  (List.range w.members.length).filter (fun c =>
    w.members[c]?.any (fun member => member.registered && member.gateway == gateway))

def setConnection (w : World) (c : Nat) (member : Member) (connection : RealtimeConnection) :
    World :=
  { w with members := w.members.set c { member with connection := connection } }

inductive Label where
  | connect (gateway : Nat) (http : Bool) (identity : RealtimeIdentity) (sessionId : Option Text)
  | register (c : Nat) (registered : Bool)
  | change (c : Nat) (what : RealtimeConnection.Change)
  | receive (c : Nat) (envelope : MessageEnvelope) (answers : Answers)
  | heartbeat (c : Nat)
  | command (i : Nat) (answers : Answers) (reached : Bool)
  | deliver (gateway k : Nat)
  | delivery (d : Nat) (answers : Answers)

end World

section

variable [CharTable]

def Answers.handsOutValid (answers : Answers) : Bool :=
  match answers.session with
  | .identity refreshed => decide refreshed.Valid
  | _ => true

def Command.sends (command : Command) (reached : Bool) : List RealtimeBusMessage :=
  match command.phase with
  | .publishing message _ => if reached then [message] else []
  | _ => []

def Command.events (options : RealtimeOptions) (command : Command)
    (connection : RealtimeConnection) (reached : Bool) : List Event :=
  match command.phase, command.envelope with
  | .applying identity route, some envelope =>
    if envelope.type = some ProtocolMessageTypes.subscribe then
      if (connection.trySubscribe options route).1 then
        [.subscribed command.connection identity (envelope.route.getD []) route]
      else []
    else if envelope.type = some ProtocolMessageTypes.unsubscribe then
      [.unsubscribed command.connection route]
    else []
  | _, _ => (command.sends reached).map (.published command.connection)

def Delivery.events (options : RealtimeOptions) (d c : Nat) (delivery : Delivery)
    (connection : RealtimeConnection) (answers : Answers) : List Event :=
  match delivery.phase with
  | .confirming identity =>
    match (delivery.phase.advance options delivery.message connection answers).1 with
    | some _ => [.confirmed d c identity]
    | none => []
  | .enqueuing identity =>
    if (connection.tryEnqueue options delivery.message.toEvent).1 then
      [.enqueued d c identity delivery.message]
    else []
  | _ => []

namespace World

def stepCommand (options : RealtimeOptions) (w : World) (i : Nat) (answers : Answers)
    (reached : Bool) : Option World := do
  let command ← w.commands[i]?
  let member ← w.members[command.connection]?
  let next := command.advance options member.http member.connection answers
  some { w.setConnection command.connection member next.2 with
    commands := w.commands.set i { command with phase := next.1 }
    bus := w.bus ++ command.sends reached
    log := command.events options member.connection reached ++ w.log }

def stepDelivery (options : RealtimeOptions) (w : World) (d : Nat) (answers : Answers) :
    Option World := do
  let delivery ← w.deliveries[d]?
  let c ← delivery.remaining.head?
  let member ← w.members[c]?
  let next := delivery.phase.advance options delivery.message member.connection answers
  let moved : Delivery :=
    match next.1 with
    | some phase => { delivery with phase := phase }
    | none => { delivery with remaining := delivery.remaining.tail, phase := .reading }
  some { w.setConnection c member next.2 with
    deliveries := w.deliveries.set d moved
    log := delivery.events options d c member.connection answers ++ w.log }

/-- Identities come from the authenticator or the session store, which hand out
valid ones only, and the bus carries what `PublishAsync` was given. -/
def step (options : RealtimeOptions) : StepFn World Label
  | w, .connect gateway http identity sessionId =>
    if identity.Valid then
      some { w with members := w.members ++
        [⟨{ identity := identity, sessionId := sessionId }, gateway, http, false⟩] }
    else none
  | w, .register c registered =>
    w.members[c]?.map (fun member =>
      { w with members := w.members.set c { member with registered := registered } })
  | w, .change c what =>
    w.members[c]?.map (fun member => w.setConnection c member (member.connection.change what))
  | w, .receive c envelope answers => do
    let member ← w.members[c]?
    let admitted :=
      if member.http then member.connection.isOpen
      else decide (answers.arrivedAt.ticks < member.connection.identity.expiresAt)
    if admitted = true ∧
        ProtocolValidator.validateClient (some envelope) answers.validatedAt.ticks = .valid then
      some { w with commands := w.commands ++ [{ connection := c, envelope := some envelope }] }
    else none
  | w, .heartbeat c => do
    let _ ← w.members[c]?
    some { w with commands := w.commands ++ [{ connection := c, envelope := none }] }
  | w, .command i answers reached =>
    if answers.handsOutValid then w.stepCommand options i answers reached else none
  | w, .deliver gateway k => do
    let message ← w.bus[k]?
    if isValidBusMessage message then
      some { w with deliveries := w.deliveries ++ [⟨message, w.registeredAt gateway, .reading⟩] }
    else none
  | w, .delivery d answers =>
    if answers.handsOutValid then w.stepDelivery options d answers else none

end World

end

end Realtime
