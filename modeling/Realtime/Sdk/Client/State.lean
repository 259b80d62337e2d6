import Realtime.Contracts
import Realtime.Sdk.JsMap

/-! The state of the TypeScript client and what its private methods do to it. A command, a
connection attempt with its socket, a listener set and a running call are entries of lists, and
their index is their identity. The listeners of the application take note of what they are given,
in `emitted`, and may call the client back before its method goes on. -/

namespace Realtime.Sdk

abbrev Route := Text

abbrev CommandId := Nat

/-- An attempt has one socket, so this is also the identity of a socket. -/
abbrev AttemptId := Nat

abbrev SetId := Nat

abbrev CallId := Nat

abbrev EstablishId := Nat

inductive ClientState where
  | idle | connecting | opened | reconnecting | closing | closed
  deriving DecidableEq

inductive ReadyState where
  | connecting | opened | closing | closed
  deriving DecidableEq

/-- The code of an error. An `AbortError`, `cancelled` here, has none. -/
inductive ErrorCode where
  | cancelled | connectionFailed | connectionClosed | connectionSuperseded | clientDisconnect
  | commandTimeout | queueSaturated | messageTooLarge | subscriptionRestoreFailed
  | reconnectExhausted | invalidMessageType | invalidEnvelope
  | ticketUnavailable | ticketRejected | ticketInvalid
  /-- The `TypeError` of `JSON.stringify`, which has no code either. -/
  | notSerializable
  /-- The code of an error reply. -/
  | reply
  deriving DecidableEq

/-- `normalizeError`. -/
def ErrorCode.normalize : ErrorCode → ErrorCode
  | .cancelled | .notSerializable => .connectionFailed
  | code => code

inductive Outcome where
  | resolved
  | rejected (code : ErrorCode)
  deriving DecidableEq

inductive CommandType where
  | ping | subscribe | unsubscribe | publish
  deriving DecidableEq

structure Command where
  type : CommandType
  route : Route
  hasSignal : Bool := false
  aborted : Bool := false
  /-- `removeAbortListener`, which only a command that was queued at once has. -/
  queueListener : Bool := false
  /-- Sent by the heartbeat interval. -/
  heartbeat : Bool := false
  /-- The calls of `resolve` and `reject`. -/
  settlements : List Outcome := []
  deriving DecidableEq

/-- One call of `openSocket`, and its socket once it has one. -/
structure Attempt where
  generation : Nat
  reconnecting : Bool
  /-- `close()` calls `onclose` before it returns, as the HTTP transport does. -/
  synchronous : Bool
  /-- The reason of its abort signal. -/
  aborted : Option ErrorCode := none
  hasSocket : Bool := false
  opened : Bool := false
  readyState : ReadyState := .connecting
  closeCalled : Bool := false
  closeDelivered : Bool := false
  abortListener : Bool := false
  settled : Bool := false
  connectionEstablished : Bool := false
  /-- The commands that were handed to the socket. -/
  sent : List CommandId := []
  outcome : Option Outcome := none
  /-- The `catch` and the `finally` behind the call have run. -/
  caught : Bool := false
  finished : Bool := false
  /-- The commands that started the attempt and report its failure. -/
  reports : Nat := 0
  deriving DecidableEq

inductive RestoreStage where
  | subscribing (route : Route) (command : CommandId)
  | unsubscribing (route : Route) (command : CommandId)
  /-- The promise of the restore is settled, with an error if there is one. -/
  | finished (failure : Option ErrorCode)
  /-- The handlers behind the promise have run. -/
  | ended
  deriving DecidableEq

/-- A running `restoreSubscriptionsAndFlush`. -/
structure Restore where
  attempt : AttemptId
  queuedSubscriptions : JsMap Route CommandId
  /-- The routes that the loop has not reached. -/
  routes : List Route
  failures : Nat := 0
  stage : RestoreStage
  deriving DecidableEq

inductive EstablishStage where
  | awaitingCommand
  | awaitingUnsubscribe (command : CommandId)
  | done (outcome : Outcome)
  deriving DecidableEq

/-- A running `establishSubscription`. -/
structure Establish where
  route : Route
  command : CommandId
  stage : EstablishStage := .awaitingCommand
  deriving DecidableEq

/-- What a `subscribe` call waits for: the command of an establishment, or all of it. -/
inductive Awaited where
  | command (establish : EstablishId)
  | whole (establish : EstablishId)
  deriving DecidableEq

inductive CallStatus where
  | waiting | resolved | failed
  deriving DecidableEq

/-- A `subscribe` call, its registration and its unsubscribe function. -/
structure SubscribeCall where
  route : Route
  set : SetId
  hasSignal : Bool
  awaited : Option Awaited
  status : CallStatus := .waiting
  active : Bool := true
  /-- The command of a running unsubscribe and the set it was taken out of. -/
  unsubscribing : Option (CommandId × SetId) := none
  deriving DecidableEq

inductive Emitted where
  | state (state : ClientState)
  | close (code : Nat) (expected : Bool)
  | event (route : Route)
  | listener (call : CallId)
  | error (code : ErrorCode)
  deriving DecidableEq

structure ClientOptions where
  maximumQueuedCommands : Nat := 128
  maximumPendingCommands : Nat := 128
  reconnectEnabled : Bool := true
  maximumAttempts : Nat := 12

structure Client where
  options : ClientOptions
  pending : List CommandId := []
  queued : List CommandId := []
  subscriptions : JsMap Route SetId := []
  subscriptionCommands : JsMap Route EstablishId := []
  socket : Option AttemptId := none
  stateValue : ClientState := .idle
  connectPromise : Option AttemptId := none
  connectAbortController : Option AttemptId := none
  reconnectTimer : Bool := false
  heartbeatTimer : Bool := false
  reconnectAttempt : Nat := 0
  generation : Nat := 0
  intentionalClose : Bool := false
  serverReconnectAdvice : Option ReconnectAdvice := none
  commands : List Command := []
  attempts : List Attempt := []
  restores : List Restore := []
  establishes : List Establish := []
  sets : List (List CallId) := []
  calls : List SubscribeCall := []
  emitted : List Emitted := []

/-- How the environment treats the commands of a step: whether the payload, which the application
can change after it was queued, still can be serialized, whether the text exceeds the message limit,
and whether `send` throws; and the kind of transport of a socket that it opens. -/
structure Wire where
  notSerializable : CommandId → Bool := fun _ => false
  tooLarge : CommandId → Bool := fun _ => false
  throws : CommandId → Bool := fun _ => false
  synchronous : Bool := false

/-- What the listeners do to the client while it calls them. -/
class Listeners where
  react : Emitted → Client → Client

/-- Listeners that do not call the client back; what they call later is a step of its own. -/
instance quietListeners : Listeners where
  react _ s := s

def Listeners.Quiet (listeners : Listeners) : Prop := ∀ event s, listeners.react event s = s

theorem Listeners.Quiet.eq {listeners : Listeners} (h : listeners.Quiet) :
    listeners = quietListeners := by
  obtain ⟨react⟩ := listeners
  congr
  funext event s
  exact h event s

namespace Client

variable [Listeners]

def updateAttempt (s : Client) (a : AttemptId) (f : Attempt → Attempt) : Client :=
  { s with attempts := s.attempts.modify a f }

def updateCommand (s : Client) (c : CommandId) (f : Command → Command) : Client :=
  { s with commands := s.commands.modify c f }

def emit (s : Client) (event : Emitted) : Client :=
  Listeners.react event { s with emitted := s.emitted ++ [event] }

def setState (s : Client) (state : ClientState) : Client :=
  if s.stateValue = state then s else ({ s with stateValue := state }).emit (.state state)

/-- `command.resolve` or `command.reject`. -/
def settle (s : Client) (c : CommandId) (outcome : Outcome) : Client :=
  s.updateCommand c (fun command => { command with
    settlements := command.settlements ++ [outcome] })

def settleAll (s : Client) (commands : List CommandId) (outcome : Outcome) : Client :=
  commands.foldl (fun s c => s.settle c outcome) s

def rejectPending (s : Client) (code : ErrorCode) : Client :=
  { s.settleAll s.pending (.rejected code) with pending := [] }

def rejectQueued (s : Client) (code : ErrorCode) : Client :=
  { s.settleAll s.queued (.rejected code) with queued := [] }

/-- `this.socket?.readyState === OPEN`. -/
def socketIsOpen (s : Client) : Bool :=
  match s.socket with
  | none => false
  | some a => (s.attempts[a]?).any (fun attempt => attempt.readyState = .opened)

def scheduleReconnect (s : Client) : Client :=
  if s.reconnectTimer || s.intentionalClose || s.socketIsOpen then s
  else if s.options.maximumAttempts ≤ s.reconnectAttempt then
    ((s.setState .closed).rejectQueued .reconnectExhausted).emit (.error .reconnectExhausted)
  else
    let reported := s.setState .reconnecting
    { reported with reconnectAttempt := reported.reconnectAttempt + 1, reconnectTimer := true }

def normalClosure : Nat := 1000

/-- `handleClose`, before it decides about a reconnect. -/
def noteClose (s : Client) (code : Nat) (expected : Bool) : Client :=
  (((({ s with heartbeatTimer := false, socket := none } : Client).rejectPending
    .connectionClosed).setState .closed).emit (.close code expected))

def handleClose (s : Client) (code generation : Nat) (allowReconnect : Bool) : Client :=
  if generation ≠ s.generation then s
  else
    let expected := s.intentionalClose || code == normalClosure
    let noted := s.noteClose code expected
    if expected || !allowReconnect || !noted.options.reconnectEnabled ||
      generation != noted.generation then noted
    else noted.scheduleReconnect

/-- `reject` of the promise that `openSocket` waits for. -/
def rejectAttempt (s : Client) (a : AttemptId) (code : ErrorCode) : Client :=
  s.updateAttempt a (fun attempt =>
    { attempt with settled := true, outcome := some (.rejected code) })

/-- `socket.onclose`. -/
def onclose (s : Client) (a : AttemptId) (code : Nat) : Client :=
  match s.attempts[a]? with
  | none => s
  | some attempt =>
    let noted := s.updateAttempt a (fun attempt =>
      { attempt with readyState := .closed, closeDelivered := true, abortListener := false })
    let settled := if attempt.settled then noted else noted.rejectAttempt a .connectionFailed
    settled.handleClose code attempt.generation
      (attempt.connectionEstablished || attempt.reconnecting)

/-- `socket.close(code)`, which does nothing to a socket that is closing. -/
def closeSocket (s : Client) (a : AttemptId) (code : Nat) : Client :=
  match s.attempts[a]? with
  | none => s
  | some attempt =>
    if attempt.readyState = .closing ∨ attempt.readyState = .closed then s
    else
      let called := s.updateAttempt a (fun attempt =>
        { attempt with closeCalled := true, readyState := .closing })
      if attempt.synchronous then called.onclose a code else called

/-- `this.socket?.close(code)`. -/
def closeCurrent (s : Client) (code : Nat) : Client :=
  match s.socket with
  | none => s
  | some a => s.closeSocket a code

/-- `command.removeAbortListener?.()`. -/
def dropListener (s : Client) (c : CommandId) : Client :=
  s.updateCommand c (fun command => { command with queueListener := false })

def markSent (s : Client) (a : AttemptId) (c : CommandId) : Client :=
  { s.updateAttempt a (fun attempt => { attempt with sent := attempt.sent ++ [c] }) with
    pending := s.pending ++ [c] }

def isAborted (s : Client) (c : CommandId) : Bool :=
  (s.commands[c]?).any (fun command => command.aborted)

/-- `JSON.stringify` throws for the envelope. Only a publication has a payload. -/
def serializationFails (s : Client) (wire : Wire) (c : CommandId) : Bool :=
  wire.notSerializable c && (s.commands[c]?).any (fun command => command.type = .publish)

/-- `transmit`, with the state that it leaves when it throws. -/
def transmit (s : Client) (wire : Wire) (c : CommandId) (queueWhenUnavailable : Bool) :
    Except Client Client :=
  let s := s.dropListener c
  if s.isAborted c then .ok (s.settle c (.rejected .cancelled))
  else if s.options.maximumPendingCommands ≤ s.pending.length then
    .ok (s.settle c (.rejected .queueSaturated))
  else if s.socketIsOpen = false then
    if queueWhenUnavailable = false then .ok (s.settle c (.rejected .connectionClosed))
    else if s.options.maximumQueuedCommands ≤ s.queued.length then
      .ok (s.settle c (.rejected .queueSaturated))
    else .ok { s with queued := s.queued ++ [c] }
  else if s.serializationFails wire c then .error s
  else if wire.tooLarge c then .ok (s.settle c (.rejected .messageTooLarge))
  else if wire.throws c then .ok ((s.settle c (.rejected .connectionFailed)).closeCurrent 4009)
  else
    match s.socket with
    | none => .ok s
    | some a => .ok (s.markSent a c)

/-- `transmit` in the executor of the command's promise, which an exception rejects. -/
def transmitEnvelope (s : Client) (wire : Wire) (c : CommandId) (queueWhenUnavailable : Bool) :
    Client :=
  match s.transmit wire c queueWhenUnavailable with
  | .ok t => t
  | .error t => t.settle c (.rejected .notSerializable)

/-- `this.queued.shift()`, which leaves the rest. -/
def shift (s : Client) (rest : List CommandId) : Client := { s with queued := rest }

/-- The loop at the end of `restoreSubscriptionsAndFlush`, for a number of iterations: the state at
its end and what it threw, and `none` when the queue is not empty after them. -/
def flush (wire : Wire) : Nat → Client → Option (Client × Option ErrorCode)
  | 0, s => if s.queued = [] then some (s, none) else none
  | iterations + 1, s =>
    match s.queued with
    | [] => some (s, none)
    | c :: rest =>
      match (s.shift rest).transmit wire c true with
      | .ok t => flush wire iterations t
      | .error t => some (t, some .notSerializable)

end Client

end Realtime.Sdk
