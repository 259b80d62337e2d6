import Realtime.Machine
import Realtime.Sdk.Client.State

/-! The TypeScript client as a machine. A step is a call of the application, an event of a
socket, a timer, or the continuation of one promise; continuations are taken in any order. -/

namespace Realtime.Sdk

namespace Client

variable [Listeners]

/-! Connections. -/

/-- The abort signal of an attempt. Its listener on the socket is there until the socket opens. -/
def abortAttempt (s : Client) (a : AttemptId) (reason : ErrorCode) : Client :=
  match s.attempts[a]? with
  | none => s
  | some attempt =>
    if attempt.aborted.isSome then s
    else
      let noted := s.updateAttempt a (fun attempt => { attempt with aborted := some reason })
      if attempt.abortListener && !attempt.settled then
        (noted.rejectAttempt a .cancelled).closeSocket a normalClosure
      else noted

/-- `this.connectAbortController?.abort(...)`. -/
def abortCurrent (s : Client) : Client :=
  match s.connectAbortController with
  | none => s
  | some a => s.abortAttempt a .connectionSuperseded

/-- `openSocket`, up to the URL it waits for. -/
def openSocket (s : Client) (reconnecting synchronous : Bool) : Client :=
  ({ s with
    generation := s.generation + 1
    attempts := s.attempts ++
      [{ generation := s.generation + 1, reconnecting := reconnecting, synchronous := synchronous }]
    } : Client).setState (if reconnecting then .reconnecting else .connecting)

/-- A call of `openSocket` whose signal is aborted. -/
def openCancelled (s : Client) : Client :=
  { s with attempts := s.attempts ++ [{
      generation := s.generation
      reconnecting := false
      synchronous := false
      aborted := some .cancelled
      outcome := some (.rejected .cancelled) }] }

/-- `connect`; a command that calls it reports its failure. -/
def connect (s : Client) (aborted synchronous report : Bool) : Client :=
  if s.stateValue = .opened ∧ s.socketIsOpen = true then s
  else
    match s.connectPromise with
    | some a =>
      if report then s.updateAttempt a (fun attempt => { attempt with
        reports := attempt.reports + 1 })
      else s
    | none =>
      let superseding :=
        ({ s with intentionalClose := false, reconnectTimer := false } : Client).abortCurrent
      let a := superseding.attempts.length
      let held : Client := { superseding with connectAbortController := some a }
      let started := if aborted then held.openCancelled else held.openSocket false synchronous
      let reporting := if report then
          started.updateAttempt a (fun attempt => { attempt with reports := attempt.reports + 1 })
        else started
      { reporting with connectPromise := some a }

def disconnect (s : Client) (code : Nat) : Client :=
  let aborted :=
    ({ s with intentionalClose := true, generation := s.generation + 1 } : Client).abortCurrent
  let cleared := ({ aborted with
    connectAbortController := none
    connectPromise := none
    reconnectTimer := false
    heartbeatTimer := false } : Client).setState .closing
  let rejected := (cleared.rejectPending .clientDisconnect).rejectQueued .clientDisconnect
  let closed := match rejected.socket with
    | none => rejected
    | some a => ({ rejected with socket := none } : Client).closeSocket a code
  closed.setState .closed

def reconnect (s : Client) (synchronous : Bool) : Client :=
  let superseding := ({ s with reconnectTimer := false } : Client).abortCurrent
  let a := superseding.attempts.length
  ({ superseding with connectAbortController := some a } : Client).openSocket true synchronous

/-- `openSocket`, from its URL to its socket. -/
def createSocket (s : Client) (a : AttemptId) (attempt : Attempt) : Client :=
  match attempt.aborted with
  | some reason => s.updateAttempt a (fun attempt => { attempt with
    outcome := some (.rejected reason) })
  | none =>
    if attempt.generation ≠ s.generation ∨ s.intentionalClose = true then
      s.updateAttempt a (fun attempt =>
        { attempt with outcome := some (.rejected .connectionSuperseded) })
    else { s.updateAttempt a (fun attempt =>
        { attempt with hasSocket := true, abortListener := true }) with socket := some a }

/-- `createConnectionUrl` throws; an abort of its signal ends it at once. -/
def failUrl (s : Client) (a : AttemptId) (attempt : Attempt) (code : ErrorCode) : Client :=
  s.updateAttempt a (fun attempt' =>
    { attempt' with outcome := some (.rejected (attempt.aborted.getD code)) })

/-- The `catch` behind a call of `openSocket`. -/
def catchAttempt (s : Client) (a : AttemptId) (attempt : Attempt) (outcome : Outcome) : Client :=
  let noted := s.updateAttempt a (fun attempt => { attempt with caught := true })
  match outcome with
  | .resolved => noted
  | .rejected code =>
    if attempt.reconnecting then
      if code.normalize = .connectionSuperseded then noted
      else (noted.emit (.error code.normalize)).scheduleReconnect
    else if s.connectPromise = some a then (noted.setState .closed).rejectQueued code
    else noted

/-- The `finally` behind a call of `openSocket`. -/
def finishAttempt (s : Client) (a : AttemptId) (attempt : Attempt) (outcome : Outcome) : Client :=
  let noted := { s.updateAttempt a (fun attempt => { attempt with finished := true }) with
    connectPromise := if s.connectPromise = some a then none else s.connectPromise
    connectAbortController :=
      if s.connectAbortController = some a then none else s.connectAbortController }
  match outcome with
  | .resolved => noted
  | .rejected code =>
    { noted with
      emitted := noted.emitted ++ List.replicate attempt.reports (.error code.normalize) }

/-! Commands. -/

def newCommand (s : Client) (command : Command) : Client :=
  { s with commands := s.commands ++ [command] }

def sendCommand (s : Client) (wire : Wire) (command : Command) : Client :=
  let c := s.commands.length
  let issued := s.newCommand command
  if command.aborted then issued.settle c (.rejected .cancelled)
  else if s.socketIsOpen = true ∧ s.stateValue = .opened then issued.transmitEnvelope wire c true
  else if s.options.maximumQueuedCommands ≤ s.queued.length then
    issued.settle c (.rejected .queueSaturated)
  else
    let queued := { issued.updateCommand c (fun command =>
        { command with queueListener := command.hasSignal }) with queued := s.queued ++ [c] }
    if s.stateValue = .idle ∨ s.stateValue = .closed then
      queued.connect false wire.synchronous true
    else queued

/-- The abort signal of a command. -/
def abortCommand (s : Client) (c : CommandId) (command : Command) : Client :=
  let noted := s.updateCommand c (fun command => { command with aborted := true })
  if command.queueListener then
    if c ∈ s.queued then
      ({ noted with queued := s.queued.erase c } : Client).settle c (.rejected .cancelled)
    else noted
  else if c ∈ s.pending then
    ({ noted with pending := s.pending.erase c } : Client).settle c (.rejected .cancelled)
  else noted

def expireCommand (s : Client) (c : CommandId) : Client :=
  ({ s with pending := s.pending.erase c } : Client).settle c (.rejected .commandTimeout)

/-! Messages. -/

inductive Message where
  | notText
  | malformed
  | invalid
  | serviceRestart (reconnect : Option ReconnectAdvice)
  | event (route : Route)
  /-- An acknowledgement or a ping. -/
  | reply (command : CommandId)
  | error (command : CommandId)
  deriving DecidableEq

def invokeListeners (s : Client) (route : Route) : Client :=
  match s.subscriptions.get route with
  | none => s
  | some set => { s with emitted := s.emitted ++ ((s.sets[set]?).getD []).map .listener }

def handleMessage (s : Client) (message : Message) : Client :=
  match message with
  | .notText => s.emit (.error .invalidMessageType)
  | .malformed => s.emit (.error .invalidEnvelope)
  | .invalid => s.emit (.error .invalidEnvelope)
  | .serviceRestart reconnect =>
    match reconnect with
    | none => s
    | some advice => { s with serverReconnectAdvice := some advice }
  | .event route => (s.emit (.event route)).invokeListeners route
  | .reply c =>
    if c ∈ s.pending then ({ s with pending := s.pending.erase c } : Client).settle c .resolved
    else s
  | .error c =>
    if c ∈ s.pending then
      (({ s with pending := s.pending.erase c } : Client).settle c (.rejected .reply)).emit
        (.error .reply)
    else s

/-! `restoreSubscriptionsAndFlush`. -/

def updateRestore (s : Client) (i : Nat) (f : Restore → Restore) : Client :=
  { s with restores := s.restores.modify i f }

/-- `assertOpenGeneration` does not throw. -/
def openGeneration (s : Client) (generation : Nat) : Bool :=
  generation == s.generation && s.socketIsOpen

/-- The loop over the routes, up to the next command that it waits for or to its end. -/
def restoreLoop (wire : Wire) (i : Nat) (generation : Nat)
    (queuedSubscriptions : JsMap Route CommandId) : List Route → Nat → Client → Option Client
  | [], failures, s =>
    if 0 < failures then
      some (s.updateRestore i (fun restore => { restore with
        routes := [], failures := failures, stage := .finished (some .subscriptionRestoreFailed) }))
    else if s.openGeneration generation = false then
      some (s.updateRestore i (fun restore => { restore with
        routes := [], stage := .finished (some .connectionClosed) }))
    else
      (flush wire s.queued.length s).map (fun flushed =>
        flushed.1.updateRestore i (fun restore =>
          { restore with routes := [], stage := .finished flushed.2 }))
  | route :: routes, failures, s =>
    if s.openGeneration generation then
      let c := (queuedSubscriptions.get route).getD s.commands.length
      let issued := if queuedSubscriptions.has route then s
        else s.newCommand { type := .subscribe, route := route }
      some ((issued.updateRestore i (fun restore => { restore with
        routes := routes, failures := failures, stage := .subscribing route c })).transmitEnvelope
          wire c false)
    else
      restoreLoop wire i generation queuedSubscriptions routes (failures + 1)
        (s.emit (.error .connectionClosed))

def isSubscribe (s : Client) (c : CommandId) : Bool :=
  (s.commands[c]?).any (fun command => command.type = .subscribe)

def routeOf (s : Client) (c : CommandId) : Route :=
  ((s.commands[c]?).map Command.route).getD []

def queuedSubscriptions (s : Client) : JsMap Route CommandId :=
  ((s.queued.filter s.isSubscribe).reverse).foldl (fun map c => map.set (s.routeOf c) c) []

def startRestore (s : Client) (wire : Wire) (a : AttemptId) (generation : Nat) : Option Client :=
  let held := s.queuedSubscriptions
  let routes := s.subscriptions.keys ++ held.keys.filter (fun route => route ∉ s.subscriptions.keys)
  let restore : Restore :=
    { attempt := a, queuedSubscriptions := held, routes := routes, stage := .finished none }
  restoreLoop wire s.restores.length generation held routes 0 { s with
    queued := s.queued.filter (fun c => !s.isSubscribe c)
    restores := s.restores ++ [restore] }

def outcomeOf (s : Client) (c : CommandId) : Option Outcome :=
  (s.commands[c]?).bind (fun command => command.settlements.head?)

def continueRestore (s : Client) (wire : Wire) (i : Nat) (restore : Restore) (generation : Nat) :
    Option Client :=
  let next (failures : Nat) (s : Client) :=
    restoreLoop wire i generation restore.queuedSubscriptions restore.routes failures s
  match restore.stage with
  | .subscribing route c =>
    match s.outcomeOf c with
    | none => none
    | some (.rejected code) => next (restore.failures + 1) (s.emit (.error code.normalize))
    | some .resolved =>
      if s.subscriptions.has route then next restore.failures s
      else if s.openGeneration generation = false then
        next (restore.failures + 1) (s.emit (.error .connectionClosed))
      else
        let u := s.commands.length
        some (((s.newCommand { type := .unsubscribe, route := route }).updateRestore i
          (fun restore => { restore with stage := .unsubscribing route u })).transmitEnvelope
            wire u false)
  | .unsubscribing _ c =>
    match s.outcomeOf c with
    | none => none
    | some (.rejected code) => next (restore.failures + 1) (s.emit (.error code.normalize))
    | some .resolved => next restore.failures s
  | _ => none

/-- The `then` behind the restore, up to the report of the new state. -/
def reportOpen (s : Client) (a : AttemptId) : Client :=
  (({ s with reconnectAttempt := 0, serverReconnectAdvice := none } : Client).updateAttempt a
    (fun attempt => { attempt with connectionEstablished := true })).setState .opened

/-- The `then` behind the restore. -/
def restored (s : Client) (i : Nat) (a : AttemptId) (attempt : Attempt) : Client :=
  let superseded (s : Client) := s.updateRestore i (fun restore =>
    { restore with stage := .finished (some .connectionSuperseded) })
  if attempt.generation ≠ s.generation ∨ s.intentionalClose = true then superseded s
  else
    let reported := s.reportOpen a
    -- A listener of the new state may have ended the connection.
    if attempt.generation ≠ reported.generation ∨ reported.intentionalClose = true ∨
      (reported.attempts[a]?).all (fun attempt => attempt.readyState ≠ .opened) = true then
      superseded reported
    else
      (({ reported with heartbeatTimer := true } : Client).updateAttempt a (fun attempt =>
        if attempt.settled then attempt
        else { attempt with settled := true, outcome := some .resolved })).updateRestore i
          (fun restore => { restore with stage := .ended })

/-- The `catch` behind the restore. -/
def restoreFailed (s : Client) (i : Nat) (a : AttemptId) (attempt : Attempt) (code : ErrorCode) :
    Client :=
  let noted := s.updateRestore i (fun restore => { restore with stage := .ended })
  if attempt.settled then noted
  else
    let rejected := (noted.rejectQueued code.normalize).rejectAttempt a code.normalize
    if attempt.readyState = .opened then rejected.closeSocket a 4000 else rejected

/-! Subscriptions. -/

def updateCall (s : Client) (k : CallId) (f : SubscribeCall → SubscribeCall) : Client :=
  { s with calls := s.calls.modify k f }

def addRegistration (s : Client) (route : Route) : Client × SetId :=
  let k := s.calls.length
  match s.subscriptions.get route with
  | some set => ({ s with sets := s.sets.modify set (fun members => members ++ [k]) }, set)
  | none =>
    ({ s with sets := s.sets ++ [[k]], subscriptions := s.subscriptions.set route s.sets.length },
      s.sets.length)

def newCall (s : Client) (route : Route) (set : SetId) (hasSignal : Bool)
    (awaited : Option Awaited) : Client :=
  { s with calls := s.calls ++
    [{ route := route, set := set, hasSignal := hasSignal, awaited := awaited }] }

/-- `subscribe`, up to the promise it waits for. -/
def subscribe (s : Client) (wire : Wire) (route : Route) (hasSignal : Bool) : Client :=
  let registered := s.addRegistration route
  let existing := s.subscriptionCommands.get route
  if s.subscriptions.has route then
    registered.1.newCall route registered.2 hasSignal (existing.map .command)
  else
    match existing with
    | some e => registered.1.newCall route registered.2 hasSignal (some (.command e))
    | none =>
      let e := s.establishes.length
      let sent := registered.1.sendCommand wire { type := .subscribe, route := route }
      ({ sent with
        establishes := sent.establishes ++ [{ route := route, command := s.commands.length }]
        subscriptionCommands := sent.subscriptionCommands.set route e
        } : Client).newCall route registered.2 hasSignal (some (.whole e))

def finishEstablish (s : Client) (e : EstablishId) (route : Route) (outcome : Outcome) : Client :=
  { s with
    establishes := s.establishes.modify e (fun establish => { establish with
      stage := .done outcome })
    subscriptionCommands := if s.subscriptionCommands.get route = some e then
      s.subscriptionCommands.delete route else s.subscriptionCommands }

/-- `establishSubscription` goes on after the command it waited for. -/
def continueEstablish (s : Client) (wire : Wire) (e : EstablishId) (establish : Establish) :
    Option Client :=
  match establish.stage with
  | .awaitingCommand =>
    match s.outcomeOf establish.command with
    | none => none
    | some (.rejected code) => some (s.finishEstablish e establish.route (.rejected code))
    | some .resolved =>
      if s.subscriptions.has establish.route = false ∧ s.stateValue = .opened then
        let u := s.commands.length
        let sent := s.sendCommand wire { type := .unsubscribe, route := establish.route }
        some { sent with establishes := sent.establishes.modify e (fun establish =>
          { establish with stage := .awaitingUnsubscribe u }) }
      else some (s.finishEstablish e establish.route .resolved)
  | .awaitingUnsubscribe u =>
    match s.outcomeOf u with
    | none => none
    | some outcome => some (s.finishEstablish e establish.route outcome)
  | .done _ => none

def awaitedOutcome (s : Client) : Awaited → Option Outcome
  | .command e => (s.establishes[e]?).bind (fun establish => s.outcomeOf establish.command)
  | .whole e => (s.establishes[e]?).bind (fun establish =>
    match establish.stage with
    | .done outcome => some outcome
    | _ => none)

/-- The `catch` of `subscribe`. -/
def failCall (s : Client) (k : CallId) (call : SubscribeCall) : Client :=
  let members := ((s.sets[call.set]?).getD []).erase k
  { s.updateCall k (fun call => { call with status := .failed }) with
    sets := s.sets.modify call.set (fun _ => members)
    subscriptions := if members = [] then s.subscriptions.delete call.route else s.subscriptions }

def settleCall (s : Client) (k : CallId) (call : SubscribeCall) : Option Client :=
  match call.awaited with
  | none => some (s.updateCall k (fun call => { call with status := .resolved }))
  | some awaited =>
    match s.awaitedOutcome awaited with
    | none => none
    | some .resolved => some (s.updateCall k (fun call => { call with status := .resolved }))
    | some (.rejected _) => some (s.failCall k call)

/-- The unsubscribe function that `subscribe` returned. -/
def unsubscribe (s : Client) (wire : Wire) (k : CallId) (call : SubscribeCall) : Client :=
  let finish (s : Client) := s.updateCall k (fun call => { call with active := false })
  match s.subscriptions.get call.route with
  | none => finish s
  | some set =>
    let members := ((s.sets[set]?).getD []).erase k
    let removed : Client := { s with sets := s.sets.modify set (fun _ => members) }
    if members ≠ [] then finish removed
    else
      let deleted : Client := { removed with subscriptions := s.subscriptions.delete call.route }
      if s.stateValue ≠ .opened then finish deleted
      else
        (deleted.sendCommand wire { type := .unsubscribe, route := call.route }).updateCall k
          (fun call => { call with unsubscribing := some (s.commands.length, set) })

def continueUnsubscribe (s : Client) (k : CallId) (call : SubscribeCall) (u : CommandId)
    (set : SetId) : Option Client :=
  match s.outcomeOf u with
  | none => none
  | some .resolved =>
    some (s.updateCall k (fun call => { call with active := false, unsubscribing := none }))
  | some (.rejected _) =>
    some (({ s.updateCall k (fun call => { call with unsubscribing := none }) with
      sets := s.sets.modify set (fun members => members ++ [k])
      subscriptions := s.subscriptions.set call.route set } : Client).closeCurrent 4000)

end Client

/-! Steps. -/

inductive ClientEvent where
  | connect (aborted : Bool)
  | abortConnect (a : AttemptId)
  | disconnect (code : Nat)
  | publish (route : Route) (hasSignal aborted : Bool)
  | ping (hasSignal aborted : Bool)
  | subscribe (route : Route) (hasSignal : Bool)
  | unsubscribe (k : CallId)
  | abortCommand (c : CommandId)
  | abortSubscribe (k : CallId)
  | reconnectTimer
  | heartbeat
  | timeout (c : CommandId)
  | urlResolved (a : AttemptId)
  | urlRejected (a : AttemptId) (code : ErrorCode)
  | opened (a : AttemptId)
  | message (a : AttemptId) (message : Client.Message)
  | errored (a : AttemptId)
  | closed (a : AttemptId) (code : Nat)
  | attemptCaught (a : AttemptId)
  | attemptFinished (a : AttemptId)
  | restoreContinued (i : Nat)
  | restoreSettled (i : Nat)
  | establishContinued (e : EstablishId)
  | subscribeSettled (k : CallId)
  | unsubscribeSettled (k : CallId)
  | heartbeatFailed (c : CommandId)
  deriving DecidableEq

namespace Client

variable [Listeners]

def heartbeatRoute : Route := utf16 "system/heartbeat"

/-- Events of a socket. -/
def socketStep (s : Client) (wire : Wire) (a : AttemptId) (attempt : Attempt) :
    ClientEvent → Option Client
  | .opened _ =>
    if attempt.hasSocket = false ∨ attempt.opened = true ∨ attempt.closeDelivered = true then none
    else
      let noted := s.updateAttempt a (fun attempt =>
        { attempt with opened := true, readyState := .opened })
      if attempt.settled = true ∨ attempt.generation ≠ s.generation then
        some (noted.closeSocket a normalClosure)
      else
        (noted.updateAttempt a (fun attempt => { attempt with
          abortListener := false })).startRestore
          wire a attempt.generation
  | .message _ message =>
    if attempt.opened = false then none else some (s.handleMessage message)
  | .errored _ =>
    if attempt.hasSocket = false ∨ attempt.closeDelivered = true then none
    else
      let noted := s.updateAttempt a (fun attempt => { attempt with readyState := .closed })
      if attempt.settled then some noted
      else
        some ((noted.updateAttempt a (fun attempt => { attempt with abortListener := false })
          ).rejectAttempt a .connectionFailed)
  | .closed _ code =>
    if attempt.hasSocket = false ∨ attempt.closeDelivered = true then none
    else some (s.onclose a code)
  | _ => none

/-- Continuations of `openSocket`. -/
def attemptStep (s : Client) (a : AttemptId) (attempt : Attempt) : ClientEvent → Option Client
  | .abortConnect _ =>
    if attempt.reconnecting then none else some (s.abortAttempt a .cancelled)
  | .urlResolved _ =>
    if attempt.hasSocket = true ∨ attempt.outcome.isSome = true then none
    else some (s.createSocket a attempt)
  | .urlRejected _ code =>
    if attempt.hasSocket = true ∨ attempt.outcome.isSome = true then none
    else some (s.failUrl a attempt code)
  | .attemptCaught _ =>
    if attempt.caught then none
    else attempt.outcome.map (fun outcome => s.catchAttempt a attempt outcome)
  | .attemptFinished _ =>
    if attempt.caught = false ∨ attempt.finished = true then none
    else attempt.outcome.map (fun outcome => s.finishAttempt a attempt outcome)
  | _ => none

def restoreStep (s : Client) (wire : Wire) (i : Nat) (restore : Restore) (attempt : Attempt) :
    ClientEvent → Option Client
  | .restoreContinued _ => s.continueRestore wire i restore attempt.generation
  | .restoreSettled _ =>
    match restore.stage with
    | .finished none => some (s.restored i restore.attempt attempt)
    | .finished (some code) => some (s.restoreFailed i restore.attempt attempt code)
    | _ => none
  | _ => none

def callStep (s : Client) (wire : Wire) (k : CallId) (call : SubscribeCall) :
    ClientEvent → Option Client
  | .unsubscribe _ =>
    if call.status = .resolved ∧ call.active = true ∧ call.unsubscribing = none then
      some (s.unsubscribe wire k call)
    else none
  | .abortSubscribe _ =>
    if call.status = .waiting ∧ call.hasSignal = true ∧ call.awaited.isSome = true then
      some (s.failCall k call)
    else none
  | .subscribeSettled _ => if call.status = .waiting then s.settleCall k call else none
  | .unsubscribeSettled _ =>
    match call.unsubscribing with
    | none => none
    | some (u, set) => s.continueUnsubscribe k call u set
  | _ => none

def commandStep (s : Client) (c : CommandId) (command : Command) : ClientEvent → Option Client
  | .abortCommand _ =>
    if command.hasSignal = true ∧ command.aborted = false then some (s.abortCommand c command)
    else none
  | .timeout _ => if c ∈ s.pending then some (s.expireCommand c) else none
  | .heartbeatFailed _ =>
    if command.heartbeat = false then none
    else
      match s.outcomeOf c with
      | some (.rejected code) =>
        some (((s.updateCommand c (fun command => { command with heartbeat := false })).emit
          (.error code.normalize)).closeCurrent 4009)
      | _ => none
  | _ => none

def step : StepFn Client (Wire × ClientEvent) := fun s label =>
  let wire := label.1
  let event := label.2
  match event with
  | .connect aborted => some (s.connect aborted wire.synchronous false)
  | .disconnect code => some (s.disconnect code)
  | .publish route hasSignal aborted => some (s.sendCommand wire
      { type := .publish, route := route, hasSignal := hasSignal, aborted := aborted })
  | .ping hasSignal aborted => some (s.sendCommand wire
      { type := .ping, route := heartbeatRoute, hasSignal := hasSignal, aborted := aborted })
  | .subscribe route hasSignal => some (s.subscribe wire route hasSignal)
  | .reconnectTimer => if s.reconnectTimer then some (s.reconnect wire.synchronous) else none
  | .heartbeat =>
    if s.heartbeatTimer then some (s.sendCommand wire
      { type := .ping, route := heartbeatRoute, heartbeat := true })
    else none
  | .opened a | .message a _ | .errored a | .closed a _ =>
    (s.attempts[a]?).bind (fun attempt => s.socketStep wire a attempt event)
  | .abortConnect a | .urlResolved a | .urlRejected a _ | .attemptCaught a | .attemptFinished a =>
    (s.attempts[a]?).bind (fun attempt => s.attemptStep a attempt event)
  | .restoreContinued i | .restoreSettled i =>
    (s.restores[i]?).bind (fun restore => (s.attempts[restore.attempt]?).bind (fun attempt =>
      s.restoreStep wire i restore attempt event))
  | .unsubscribe k | .abortSubscribe k | .subscribeSettled k | .unsubscribeSettled k =>
    (s.calls[k]?).bind (fun call => s.callStep wire k call event)
  | .abortCommand c | .timeout c | .heartbeatFailed c =>
    (s.commands[c]?).bind (fun command => s.commandStep c command event)
  | .establishContinued e =>
    (s.establishes[e]?).bind (fun establish => s.continueEstablish wire e establish)

end Client

end Realtime.Sdk
