import Realtime.Connection
import Realtime.Pipeline

/-! Dispatch of an accepted command, and the two receiving paths in front of
it: the text frames of a WebSocket and the message posts of the HTTP fallback.
Every answer of the environment (clock, random ids, session store, Redis) is
part of the input. -/

namespace Realtime

def acknowledge (envelope : MessageEnvelope) (now : UtcNow) : ServerMessageEnvelope where
  version := some ProtocolVersions.current
  type := some ProtocolMessageTypes.acknowledge
  correlationId := envelope.correlationId
  timestamp := now.ticks
  route := envelope.route

/-- `RealtimeDispatcher.Error`. -/
def errorReply (envelope : Option MessageEnvelope) (code message : Text) (fresh : Guid)
    (now : UtcNow) : ServerMessageEnvelope where
  version := some ProtocolVersions.current
  type := some ProtocolMessageTypes.error
  correlationId := some ((envelope.bind MessageEnvelope.correlationId).getD fresh.toText)
  timestamp := now.ticks
  route := some ((envelope.bind MessageEnvelope.route).getD (utf16 "system/error"))
  error := some ⟨some code, some message⟩

inductive RedisOutcome where
  | completed | failed | cancelled
  deriving DecidableEq

inductive SessionAnswer where
  | missing
  | identity (refreshed : RealtimeIdentity)
  | unavailable

structure Answers where
  arrivedAt : UtcNow
  validatedAt : UtcNow
  revalidatedAt : UtcNow
  repliedAt : UtcNow
  fresh : Guid
  session : SessionAnswer
  append : RedisOutcome
  publish : RedisOutcome
  serviceName : Text
  machineName : Text

/-- `published` is the message handed to `PublishAsync`: also a call that fails
may have reached Redis. -/
structure DispatchOutcome where
  connection : RealtimeConnection
  reply : Option ServerMessageEnvelope := none
  appended : Option DurableStreamMessage := none
  published : Option RealtimeBusMessage := none

def getApprovedDurableEventClass (options : RealtimeOptions) (payload : JsonElement) :
    Option Text :=
  match payload.tryGetProperty (utf16 "eventClass") with
  | some (.string eventClass) =>
    if eventClass ∈ options.durableEventClasses then some eventClass else none
  | _ => none

section

variable [CharTable]

/-- The `publish` branch. A class the stream refuses and a blank service name
end the command with an exception, so nothing is published or answered. -/
def dispatchPublish (options : RealtimeOptions) (connection : RealtimeConnection)
    (envelope : MessageEnvelope) (route : AuthorizedRoute) (answers : Answers) : DispatchOutcome :=
  match buildSourceInstance answers.serviceName answers.machineName with
  | none => { connection := connection }
  | some sourceInstance =>
    let message := buildBusMessage answers.fresh connection.identity route envelope
      answers.repliedAt sourceInstance
    let unavailable := errorReply (some envelope) ProtocolErrorCodes.internalError
      (utf16 "The messaging service is temporarily unavailable.") answers.fresh answers.repliedAt
    let bus (appended : Option DurableStreamMessage) : DispatchOutcome :=
      { connection := connection, appended := appended, published := some message,
        reply :=
          match answers.publish with
          | .completed => some (acknowledge envelope answers.repliedAt)
          | .failed => some unavailable
          | .cancelled => none }
    match getApprovedDurableEventClass options envelope.payload with
    | none => bus none
    | some eventClass =>
      if isValidEventClass eventClass then
        match answers.append with
        | .completed => bus (some (message.toDurable eventClass))
        | .failed => { connection := connection, reply := some unavailable }
        | .cancelled => { connection := connection }
      else { connection := connection }

/-- The first half of `DispatchAsync`: a ping and a refused route end the command
with a reply, everything else goes on with the authorized route. -/
def authorizeCommand (identity : RealtimeIdentity) (envelope : MessageEnvelope)
    (answers : Answers) : Except (Option ServerMessageEnvelope) AuthorizedRoute :=
  if envelope.type = some ProtocolMessageTypes.ping then
    .error (some (acknowledge envelope answers.repliedAt))
  else
    match envelope.route with
    -- Splitting a null route throws; the validator has excluded it before.
    | none => .error none
    | some text =>
      match tryAuthorize identity text with
      | none =>
        .error (some (errorReply (some envelope) ProtocolErrorCodes.unauthorized
          (utf16 "The server-derived identity is not authorized for this route.")
          answers.fresh answers.repliedAt))
      | some route => .ok route

/-- The second half, on the connection as it is after the authorization. -/
def dispatchAuthorized (options : RealtimeOptions) (connection : RealtimeConnection)
    (envelope : MessageEnvelope) (route : AuthorizedRoute) (answers : Answers) : DispatchOutcome :=
  let ack := acknowledge envelope answers.repliedAt
  let error (code message : Text) :=
    errorReply (some envelope) code message answers.fresh answers.repliedAt
  if envelope.type = some ProtocolMessageTypes.subscribe then
    let subscribed := connection.trySubscribe options route
    if subscribed.1 then { connection := subscribed.2, reply := some ack }
    else
      { connection := subscribed.2,
        reply := some (error ProtocolErrorCodes.invalidEnvelope
          (utf16 "Subscription limit reached or route already subscribed.")) }
  else if envelope.type = some ProtocolMessageTypes.unsubscribe then
    { connection := (connection.unsubscribe route).2, reply := some ack }
  else if envelope.type ≠ some ProtocolMessageTypes.publish then
    { connection := connection,
      reply := some (error ProtocolErrorCodes.unsupportedType
        (utf16 "Unsupported command type.")) }
  else dispatchPublish options connection envelope route answers

def dispatch (options : RealtimeOptions) (connection : RealtimeConnection)
    (envelope : MessageEnvelope) (answers : Answers) : DispatchOutcome :=
  match authorizeCommand connection.identity envelope answers with
  | .error reply => { connection := connection, reply := reply }
  | .ok route => dispatchAuthorized options connection envelope route answers

variable {envelope : MessageEnvelope} {answers : Answers} {route : AuthorizedRoute}
  {options : RealtimeOptions} {connection : RealtimeConnection} {message : RealtimeBusMessage}

theorem authorizeCommand_eq_ok {identity : RealtimeIdentity}
    (h : authorizeCommand identity envelope answers = .ok route) :
    ∃ text, envelope.route = some text ∧ tryAuthorize identity text = some route := by
  simp only [authorizeCommand] at h
  split at h
  · cases h
  split at h
  · cases h
  next text ht =>
    split at h
    · cases h
    · next hr =>
      cases h
      exact ⟨text, ht, hr⟩

theorem dispatchPublish_connection (options : RealtimeOptions) (connection : RealtimeConnection)
    (envelope : MessageEnvelope) (route : AuthorizedRoute) (answers : Answers) :
    (dispatchPublish options connection envelope route answers).connection = connection := by
  simp only [dispatchPublish]
  repeat' split
  all_goals rfl

theorem dispatchPublish_tenantId
    (h : (dispatchPublish options connection envelope route answers).published = some message) :
    message.tenantId = connection.identity.tenantId := by
  simp only [dispatchPublish] at h
  repeat' split at h
  all_goals
    first
    | exact congrArg RealtimeBusMessage.tenantId (Option.some.inj h).symm
    | cases h

theorem dispatchAuthorized_identity (options : RealtimeOptions) (connection : RealtimeConnection)
    (envelope : MessageEnvelope) (route : AuthorizedRoute) (answers : Answers) :
    (dispatchAuthorized options connection envelope route answers).connection.identity =
      connection.identity := by
  simp only [dispatchAuthorized]
  split
  · split <;> exact connection.trySubscribe_identity options route
  split
  · exact connection.unsubscribe_identity route
  split
  · rfl
  · rw [dispatchPublish_connection]

theorem dispatchAuthorized_tenantId
    (h : (dispatchAuthorized options connection envelope route answers).published = some message) :
    message.tenantId = connection.identity.tenantId := by
  simp only [dispatchAuthorized] at h
  split at h
  · split at h <;> cases h
  split at h
  · cases h
  split at h
  · cases h
  · exact dispatchPublish_tenantId h

/-- Only a subscribe command adds a key, its own, and an unsubscribe command
leaves its own key out. -/
theorem mem_dispatchAuthorized {key : Text}
    (h : key ∈ (dispatchAuthorized options connection envelope route
      answers).connection.subscriptions) :
    (envelope.type = some ProtocolMessageTypes.subscribe ∧
      (connection.trySubscribe options route).1 = true ∧ key = route.subscriptionKey) ∨
    (key ∈ connection.subscriptions ∧
      (envelope.type = some ProtocolMessageTypes.unsubscribe → key ≠ route.subscriptionKey)) := by
  simp only [dispatchAuthorized] at h
  split at h
  · next hs =>
    have hk : key ∈ (connection.trySubscribe options route).2.subscriptions := by
      split at h <;> exact h
    rcases RealtimeConnection.mem_trySubscribe hk with hk | ⟨hk, ht⟩
    · refine .inr ⟨hk, fun hu => ?_⟩
      rw [hs] at hu
      exact absurd hu (by decide)
    · exact .inl ⟨hs, ht, hk⟩
  split at h
  · obtain ⟨hk, hne⟩ := RealtimeConnection.mem_unsubscribe h
    exact .inr ⟨hk, fun _ => hne⟩
  next hu =>
    refine .inr ⟨?_, fun hu' => absurd hu' hu⟩
    split at h
    · exact h
    · rwa [dispatchPublish_connection] at h

end

end Realtime
