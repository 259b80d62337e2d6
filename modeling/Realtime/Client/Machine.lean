import Realtime.Client.State

/-! The tasks of `RealtimeClient` and its callers, one access to shared state at
a time: `RunAsync` with the receive, replay, send and heartbeat loops that it
starts for each connection, the calls of the public methods and the server of
the current connection. -/

namespace Realtime.Client

/-- How an awaited operation ends; `exit` leaves a loop without an exception. -/
inductive Await where
  | ok
  | exit
  | failed (failure : Failure)
  deriving DecidableEq

inductive Received where
  | message
  | close (close : RealtimeTransportClose)
  /-- `ReceiveAsync` throws a protocol exception or returns no valid envelope. -/
  | malformed

/-- The first two of three tasks complete in either order. -/
inductive FirstLoop where
  | send | heartbeat
  deriving DecidableEq

def createMessage (type route : Text) (correlationId : Option Text) (fresh : Guid)
    (now : UtcNow) : MessageEnvelope where
  version := some ProtocolVersions.current
  type := some type
  correlationId := some (if isNullOrWhiteSpace correlationId then fresh.toText
    else correlationId.getD [])
  timestamp := now.ticks
  route := some route
  payload := .null

/-- `PrepareOwnedMessage`; whether the encoded message exceeds the frame limit
is left to the environment. -/
def prepareOwnedMessage (message : MessageEnvelope) (now : UtcNow) (tooLarge : Bool) :
    Option MessageEnvelope :=
  if ProtocolValidator.validateClient (some message) now.ticks = .valid ∧ tooLarge = false then
    some { message with
      payload := if message.payload.valueKind = .undefined then .null else message.payload }
  else none

def subscriptionCommand (subscribe : Bool) (route : Text) (correlationId : Option Text)
    (fresh : Guid) (now : UtcNow) : MessageEnvelope :=
  createMessage (if subscribe then ProtocolMessageTypes.subscribe
    else ProtocolMessageTypes.unsubscribe) route correlationId fresh now

def heartbeatMessage (fresh : Guid) (now : UtcNow) : OutboundMessage :=
  ⟨createMessage ProtocolMessageTypes.ping (utf16 "system/heartbeat") none fresh now, .heartbeat⟩

def isResponse (envelope : ServerMessageEnvelope) : Bool :=
  envelope.type == some ProtocolMessageTypes.acknowledge ||
    envelope.type == some ProtocolMessageTypes.error

/-- The heartbeat table after an automatic heartbeat was created: expired
entries go, then the oldest until one place of two is free. -/
def recordHeartbeat (options : RealtimeClientOptions) (table : List (Text × Int))
    (correlationId : Text) (now : UtcNow) : List (Text × Int) :=
  let expiredBefore := now.ticks - 2 * options.heartbeatSeconds * ticksPerSecond
  let alive := table.filter (fun entry => expiredBefore < entry.2)
  let newest := (alive.insertionSort (fun a b => a.2 < b.2 ∨ a.2 = b.2 ∧ a.1 ≤ b.1)).drop
    (alive.length - 1)
  RealtimeClient.withoutHeartbeat newest correlationId ++ [(correlationId, now.ticks)]

namespace RealtimeClient

def usedIds (s : RealtimeClient) : List Text := s.applicationIds ++ s.commandIds ++ s.heartbeatIds

/-- `EnqueueOwnedAsync` under the state lock. -/
def accepts (s : RealtimeClient) : Bool := s.acceptingSends && !s.completed

def recordSent (s : RealtimeClient) (message : OutboundMessage) : List OutboundMessage :=
  if message.origin = .application then s.sent ++ [message] else s.sent

def loopsDone (s : RealtimeClient) : Bool :=
  s.receive.all ReceivePhase.isDone && s.replay.all ReplayPhase.isDone &&
    s.send.all SendPhase.isDone && s.heartbeat.all HeartbeatPhase.isDone

def openConnection (s : RealtimeClient) : RealtimeClient :=
  { s with
    run := .awaitingReplay
    transportOpen := true
    opened := s.opened + 1
    connectionCancelled := false
    receive := some .receiving
    replay := some .waiting
    send := none
    heartbeat := none
    wire := []
    serverSubscriptions := []
    frames := [] }

def reportConnected (s : RealtimeClient) : RealtimeClient :=
  { s with
    run := .awaitingLoops
    state := .connected
    reconnectAttempt := 0
    send := some .waiting
    heartbeat := some .delaying }

/-- What `RunAsync` does with the outcome of a connection once its clean-up is over. -/
def afterConnection : Completion → RunPhase
  | .returned close => .closing close false
  | .threw failure => .catching failure

def forgetConnection (s : RealtimeClient) (result : Completion) : RealtimeClient :=
  { s with
    pendingSubscriptionMutations := []
    confirmedSubscriptions := []
    responseSlots := s.responseSlots + s.pendingSubscriptionMutations.length
    receive := none
    replay := none
    send := none
    heartbeat := none
    run := afterConnection result }

/-- The catch clauses of `RunAsync`. -/
def catchPhase (s : RealtimeClient) (failure : Failure) : RunPhase :=
  if failure = .cancelled && s.cancelled then .closing none true
  else if failure = .protocol || failure = .insecure ||
    decide (s.options.maximumReconnectAttempts ≤ s.reconnectAttempt) then .stoppingSends
  else .retrying

def stepRun (s : RealtimeClient) (input : Await) (first : FirstLoop) : Option RealtimeClient :=
  match s.run, input with
  | .head, .ok => some { s with run := if s.cancelled then .completing else .announcing }
  | .announcing, .ok =>
    some { s with
      state := if s.reconnectAttempt = 0 then .connecting else .reconnecting
      run := .authenticating }
  | .authenticating, .ok => some { s with run := .connecting }
  | .authenticating, .failed failure => some { s with run := .catching failure }
  | .connecting, .ok => some s.openConnection
  | .connecting, .failed failure => some { s with run := .catching failure }
  | .awaitingReplay, .ok =>
    match s.receive, s.replay with
    | some (.done result), _ => some { s with run := .leaving result }
    | _, some (.done (.returned _)) => some { s with run := .reporting }
    | _, some (.done (.threw failure)) => some { s with run := .leaving (.threw failure) }
    | _, _ => none
  | .reporting, .ok => some s.reportConnected
  | .awaitingLoops, .ok =>
    match s.receive, first, s.send, s.heartbeat with
    | some (.done result), _, _, _ => some { s with run := .leaving result }
    | _, .send, some (.done result), _ => some { s with run := .leaving result }
    | _, .heartbeat, _, some (.done result) => some { s with run := .leaving result }
    | _, _, _, _ => none
  | .leaving result, .ok =>
    some { s with
      state := if s.state = .connected then .reconnecting else s.state
      run := .cancelling result }
  | .cancelling result, .ok =>
    some { s with connectionCancelled := true, run := .observing result }
  | .observing result, .ok => if s.loopsDone then some { s with run := .clearing result } else none
  | .clearing result, .ok => some (s.forgetConnection result)
  | .catching failure, .ok => some { s with run := s.catchPhase failure }
  | .retrying, .ok => some { s with state := .reconnecting, run := .closing none false }
  | .stoppingSends, .ok => some { s with acceptingSends := false, run := .faulting }
  | .faulting, .ok => some { s with state := .faulted, run := .closing none true }
  | .closing close last, .ok =>
    some { s with transportOpen := false, run := if last then .completing else .checking close }
  | .checking close, .ok =>
    if s.cancelled || close.any RealtimeTransportClose.isNormal then
      some { s with run := .completing }
    else
      some { s with
        reconnectAttempt := s.reconnectAttempt + 1
        run := if s.options.maximumReconnectAttempts < s.reconnectAttempt + 1 then .stoppingSends
          else .rescheduling }
  | .rescheduling, .ok => some { s with state := .reconnecting, run := .delaying }
  | .delaying, .ok => some { s with run := .head }
  | .delaying, .failed failure =>
    some { s with
      run := if failure = .cancelled && s.cancelled then .completing else .stoppingSends }
  | .completing, .ok => some { s.completeWriters with run := .discarding }
  | .discarding, .ok => some { s.discardLeftovers with run := .forgetting }
  | .forgetting, .ok => some { s.clearPendingSubscriptionMutations with run := .ending }
  | .ending, .ok => some { s with run := if s.state = .faulted then .ended else .disconnecting }
  | .disconnecting, .ok => some { s with state := .disconnected, run := .ended }
  | _, _ => none

def closeOfRestart (envelope : ServerMessageEnvelope) : RealtimeTransportClose :=
  ⟨some RealtimeCloseCodes.serviceRestart, envelope.reconnect⟩

def receivedPhase (frame : ServerFrame) : ReceivePhase :=
  if ProtocolValidator.validateServer (some frame.envelope) = .valid then
    if frame.envelope.type = some ProtocolMessageTypes.serviceRestart then
      .closing (closeOfRestart frame.envelope)
    else .filtering frame
  else .failing

def stepReceived (s : RealtimeClient) (received : Received) : Option RealtimeClient :=
  match s.receive, received with
  | some .receiving, .message =>
    match s.frames with
    | frame :: frames => some { s with frames, receive := some (receivedPhase frame) }
    | [] => none
  | some .receiving, .close close => some { s with receive := some (.closing close) }
  | some .receiving, .malformed => some { s with receive := some .failing }
  | _, _ => none

def isHeartbeatAcknowledgement (s : RealtimeClient) (envelope : ServerMessageEnvelope) : Bool :=
  envelope.type == some ProtocolMessageTypes.acknowledge &&
    s.isAutomaticHeartbeat (envelope.correlationId.getD [])

def answeredMutation (s : RealtimeClient) (envelope : ServerMessageEnvelope) :
    Option SubscriptionMutation :=
  if isResponse envelope then
    s.pendingSubscriptionMutations.find? (fun mutation =>
      mutation.correlationId == envelope.correlationId.getD [])
  else none

def stepReceive (s : RealtimeClient) (input : Await) : Option RealtimeClient :=
  match s.receive, input with
  | some .receiving, .exit =>
    if s.tokenCancelled then some { s with receive := some (.ending (.returned none)) } else none
  | some .receiving, .failed failure =>
    if failure = .protocol then none
    else some { s with receive := some (.ending (.threw failure)) }
  | some .failing, .ok =>
    some { s.beginProtocolFailure with receive := some (.ending (.threw .protocol)) }
  | some (.closing close), .ok =>
    if close.isNormal then
      some { s.beginStopping with receive := some (.ending (.returned (some close))) }
    else
      some { s with
        state := .reconnecting
        receive := some (.ending (.returned (some close))) }
  | some (.filtering frame), .ok =>
    if frame.envelope.type = some ProtocolMessageTypes.ping then
      some { s with receive := some .receiving }
    else if s.isHeartbeatAcknowledgement frame.envelope then
      some { s with
        heartbeatCorrelations :=
          withoutHeartbeat s.heartbeatCorrelations (frame.envelope.correlationId.getD [])
        receive := some .receiving }
    else some { s with receive := some (.responding frame) }
  | some (.responding frame), .ok =>
    match s.answeredMutation frame.envelope with
    | some mutation =>
      some { s.applyResponse mutation
          (frame.envelope.type == some ProtocolMessageTypes.acknowledge) with
        receive := some (.releasing frame) }
    | none => some { s with receive := some (.writing frame) }
  | some (.releasing frame), .ok =>
    some { s with responseSlots := s.responseSlots + 1, receive := some (.writing frame) }
  | some (.writing frame), .ok =>
    if s.completed then some { s with receive := some (.ending (.threw .other)) }
    else if s.inbound.length < s.options.receiveQueueCapacity then
      some { s with inbound := s.inbound ++ [frame.envelope], receive := some .receiving }
    else none
  | some (.writing _), .failed .cancelled =>
    if s.tokenCancelled then some { s with receive := some (.ending (.threw .cancelled)) }
    else none
  | some (.ending result), .ok => some { s with receive := some (.done result) }
  | _, _ => none

def stepReplay (s : RealtimeClient) (input : Await) (now : UtcNow) (fresh : Guid) :
    Option RealtimeClient :=
  match s.replay, input with
  | some .waiting, .ok =>
    if s.gate = none then
      some { s with gate := some .replay, replay := some (.drainingBacklog []) }
    else none
  | some .waiting, .failed failure => some { s with replay := some (.done (.threw failure)) }
  | some (.drainingBacklog pending), .ok =>
    match s.replayBacklog with
    | message :: backlog =>
      some { s with
        replayBacklog := backlog
        sendSlots := s.slotsAfterKeeping message
        heartbeatCorrelations := s.heartbeatsAfterKeeping message
        replay := some (.drainingBacklog (s.keepPending now pending message)) }
    | [] => some { s with replay := some (.drainingOutbound pending) }
  | some (.drainingOutbound pending), .ok =>
    match s.outbound with
    | message :: outbound =>
      some { s with
        outbound
        sendSlots := s.slotsAfterKeeping message
        heartbeatCorrelations := s.heartbeatsAfterKeeping message
        replay := some (.drainingOutbound (s.keepPending now pending message)) }
    | [] => some { s with replay := some (.clearing pending) }
  | some (.clearing pending), .ok =>
    some { s with heartbeatCorrelations := [], replay := some (.reading pending) }
  | some (.reading pending), .ok =>
    some { s with
      replay := some (.commanding pending (s.subscriptions.insertionSort (fun a b => a ≤ b))) }
  | some (.commanding pending []), .ok => some { s with replay := some (.messages pending) }
  | some (.commanding pending (route :: routes)), .ok =>
    if 0 < s.responseSlots ∧ fresh.toText ∉ s.usedIds then
      some { s with
        responseSlots := s.responseSlots - 1
        commandIds := s.commandIds ++ [fresh.toText]
        replay := some (.registering pending
          ⟨subscriptionCommand true route none fresh now, .subscription⟩ route routes) }
    else none
  | some (.commanding pending (_ :: _)), .failed failure =>
    some { s with replay := some (.retaining pending failure) }
  | some (.registering pending command route routes), .ok =>
    if s.containsMutation command.correlationId then
      some { s with replay := some (.returningSlot pending .other) }
    else
      some { s.registerSubscriptionMutation command.correlationId route true with
        replay := some (.sending pending command route routes) }
  | some (.sending pending command _ routes), .ok =>
    some { s with wire := s.wire ++ [command], replay := some (.commanding pending routes) }
  | some (.sending pending command _ _), .failed failure =>
    some { s with replay := some (.forgetting pending command failure) }
  | some (.forgetting pending command failure), .ok =>
    some { s.removeSubscriptionMutation command.correlationId with
      replay := some (if s.containsMutation command.correlationId then
        .returningSlot pending failure else .retaining pending failure) }
  | some (.returningSlot pending failure), .ok =>
    some { s with
      responseSlots := s.responseSlots + 1
      replay := some (.retaining pending failure) }
  | some (.messages []), .ok => some { s with replay := some (.leaving (.returned none)) }
  | some (.messages (message :: pending)), .ok =>
    some { s with
      wire := s.wire ++ [message.refreshTimestamp now]
      sent := s.recordSent (message.refreshTimestamp now)
      replay := some (.releasing pending) }
  | some (.messages (message :: pending)), .failed failure =>
    some { s with replay := some (.retaining (message.refreshTimestamp now :: pending) failure) }
  | some (.releasing pending), .ok =>
    some { s with sendSlots := s.releasedSendSlots, replay := some (.messages pending) }
  | some (.retaining pending failure), .ok =>
    some { s with
      replayBacklog := s.replayBacklog ++ pending
      replay := some (.leaving (.threw failure)) }
  | some (.leaving result), .ok => some { s with gate := none, replay := some (.done result) }
  | _, _ => none

def stepSend (s : RealtimeClient) (input : Await) (now : UtcNow) : Option RealtimeClient :=
  match s.send, input with
  | some .waiting, .ok =>
    match s.outbound with
    | message :: outbound =>
      some { s with outbound, send := some (.sending (message.refreshTimestamp now)) }
    | [] => none
  | some .waiting, .exit =>
    if s.completed && s.outbound.isEmpty then
      some { s with send := some (.done (.returned none)) }
    else none
  | some .waiting, .failed .cancelled =>
    if s.tokenCancelled then some { s with send := some (.done (.threw .cancelled)) } else none
  | some (.sending message), .ok =>
    some { s with
      wire := s.wire ++ [message]
      sent := s.recordSent message
      send := some .releasing }
  | some (.sending message), .failed failure =>
    some { s with send := some (.failing message failure) }
  | some .releasing, .ok =>
    some { s with sendSlots := s.releasedSendSlots, send := some .waiting }
  | some (.failing message failure), .ok =>
    some { s with
      replayBacklog := s.replayBacklog ++ [message]
      send := some (.done (.threw failure)) }
  | _, _ => none

def stepHeartbeat (s : RealtimeClient) (input : Await) (now : UtcNow) (fresh : Guid) :
    Option RealtimeClient :=
  match s.heartbeat, input with
  | some .delaying, .ok =>
    if fresh.toText ∉ s.usedIds then
      some { s with
        heartbeatCorrelations := recordHeartbeat s.options s.heartbeatCorrelations fresh.toText now
        heartbeatIds := s.heartbeatIds ++ [fresh.toText]
        heartbeat := some (.acquiring (heartbeatMessage fresh now)) }
    else none
  | some .delaying, .exit =>
    if s.tokenCancelled then some { s with heartbeat := some (.done (.returned none)) } else none
  | some .delaying, .failed failure => some { s with heartbeat := some (.done (.threw failure)) }
  | some (.acquiring heartbeat), .ok =>
    if 0 < s.sendSlots then
      some { s with sendSlots := s.sendSlots - 1, heartbeat := some (.enqueuing heartbeat) }
    else none
  | some (.acquiring heartbeat), .failed failure =>
    some { s with heartbeat := some (.forgetting heartbeat failure) }
  | some (.enqueuing heartbeat), .ok =>
    if s.accepts then
      some { s with outbound := s.outbound ++ [heartbeat], heartbeat := some .delaying }
    else some { s with heartbeat := some (.rejecting heartbeat) }
  | some (.rejecting heartbeat), .ok =>
    some { s with
      sendSlots := s.releasedSendSlots
      heartbeat := some (.forgetting heartbeat .other) }
  | some (.forgetting heartbeat failure), .ok =>
    some { s with
      heartbeatCorrelations := withoutHeartbeat s.heartbeatCorrelations heartbeat.correlationId
      heartbeat := some (.done (.threw failure)) }
  | _, _ => none

def stepSender (s : RealtimeClient) (k : Nat) (input : Await) : Option RealtimeClient :=
  match s.senders[k]?, input with
  | some (.acquiring message), .ok =>
    if 0 < s.sendSlots then
      some { s with
        sendSlots := s.sendSlots - 1
        senders := s.senders.set k (.enqueuing message) }
    else none
  | some (.acquiring _), .failed _ =>
    some { s with senders := s.senders.set k (.finished false) }
  | some (.enqueuing message), .ok =>
    if s.accepts then
      some { s with
        outbound := s.outbound ++ [message]
        accepted := s.accepted ++ [message]
        senders := s.senders.set k (.finished true) }
    else some { s with senders := s.senders.set k .rejecting }
  | some .rejecting, .ok =>
    some { s with
      sendSlots := s.releasedSendSlots
      senders := s.senders.set k (.finished false) }
  | _, _ => none

/-- The step of a subscription change that prepares its command and registers it. -/
def stepRegister (s : RealtimeClient) (k : Nat) (change : SubscriptionChange) (now : UtcNow)
    (fresh : Guid) (tooLarge : Bool) : Option RealtimeClient :=
  if isNullOrWhiteSpace change.correlationId ∧ fresh.toText ∈ s.usedIds then none
  else
    match prepareOwnedMessage (subscriptionCommand change.subscribe change.route
      change.correlationId fresh now) now tooLarge with
    | none => some (s.setChange k (change.fail .forgetting))
    | some owned =>
      if s.containsMutation (owned.correlationId.getD []) then
        some (s.setChange k (change.fail .forgetting))
      else
        some { s.registerSubscriptionMutation (owned.correlationId.getD []) change.route
            change.subscribe with
          commandIds := s.commandIds ++ [owned.correlationId.getD []]
          changes := s.changes.set k { change with
            phase := .enqueuing ⟨owned, .subscription⟩
            registered := some (owned.correlationId.getD [])
            sendSlot := false } }

/-- A change before it holds the gate for the second time. -/
def stepChangeEntry (s : RealtimeClient) (k : Nat) (change : SubscriptionChange) (input : Await) :
    Option RealtimeClient :=
  match change.phase, input with
  | .ordering, .ok =>
    if s.orderGate then none
    else some { s with orderGate := true, changes := s.changes.set k (change.goto .entering) }
  | .ordering, .failed _ => some (s.setChange k (change.fail .finished))
  | .entering, .ok =>
    some (s.setChange k
      (if s.state = .connected then change.goto .gating else change.fail .unordering))
  | .gating, .ok =>
    if s.gate = none then
      some { s with
        gate := some (.change k)
        changes := s.changes.set k (change.goto .disposal) }
    else none
  | .gating, .failed _ => some (s.setChange k (change.fail .unordering))
  | .disposal, .ok =>
    some (s.setChange k
      (if s.disposed then change.fail (.releasing false) else change.goto .inspecting))
  | .inspecting, .ok =>
    some (s.setChange k
      (if s.state = .connected then change.goto .comparing else change.fail (.releasing false)))
  | .comparing, .ok =>
    some (s.setChange k (change.goto
      (.releasing (decide (change.route ∈ s.subscriptions) != change.subscribe))))
  | .slotting, .ok =>
    if 0 < s.sendSlots then
      some { s with
        sendSlots := s.sendSlots - 1
        changes := s.changes.set k { change with phase := .regating, sendSlot := true } }
    else none
  | .slotting, .failed _ => some (s.setChange k (change.fail .returningSendSlot))
  | .regating, .ok =>
    if s.gate = none then
      some { s with
        gate := some (.change k)
        changes := s.changes.set k (change.goto .redisposal) }
    else none
  | .regating, .failed _ => some (s.setChange k (change.fail .returningSendSlot))
  | _, _ => none

/-- A change that holds the gate for the second time, up to its registration. -/
def stepChangeApply (s : RealtimeClient) (k : Nat) (change : SubscriptionChange) (input : Await) :
    Option RealtimeClient :=
  match change.phase, input with
  | .redisposal, .ok =>
    some (s.setChange k
      (if s.disposed then change.fail (.releasing false) else change.goto .reinspecting))
  | .reinspecting, .ok =>
    some (s.setChange k
      (if s.state = .connected then change.goto .applying else change.fail (.releasing false)))
  | .applying, .ok =>
    if decide (change.route ∈ s.subscriptions) = change.subscribe then
      some (s.setChange k (change.goto (.releasing false)))
    else if change.subscribe && decide (s.options.maximumSubscriptions ≤ s.subscriptions.length)
    then some (s.setChange k (change.fail (.releasing false)))
    else
      some { s with
        subscriptions := setMember s.subscriptions change.route change.subscribe
        activeSubscriptionRollback := some k
        changes := s.changes.set k { change with
          phase := .awaitingResponse
          previousState := decide (change.route ∈ s.subscriptions)
          responseObserved := false } }
  | .awaitingResponse, .ok =>
    if 0 < s.responseSlots then
      some { s with
        responseSlots := s.responseSlots - 1
        changes := s.changes.set k { change with phase := .lastDisposal, responseSlot := true } }
    else none
  | .awaitingResponse, .failed _ => some (s.setChange k (change.fail .forgetting))
  | .lastDisposal, .ok =>
    some (s.setChange k
      (if s.disposed then change.fail .forgetting else change.goto .confirming))
  | .confirming, .ok =>
    some (s.setChange k
      (if s.state = .connected then change.goto .reapplying else change.fail .forgetting))
  | .reapplying, .ok =>
    some { s with
      subscriptions := setMember s.subscriptions change.route change.subscribe
      changes := s.changes.set k (change.goto .registering) }
  | _, _ => none

/-- A change after its registration or its failure. -/
def stepChangeExit (s : RealtimeClient) (k : Nat) (change : SubscriptionChange) (input : Await) :
    Option RealtimeClient :=
  match change.phase, input with
  | .enqueuing command, .ok =>
    if s.accepts then
      some { s with
        outbound := s.outbound ++ [command]
        changes := s.changes.set k { change with phase := .settling, responseSlot := false } }
    else some (s.setChange k (change.goto .rejecting))
  | .rejecting, .ok =>
    some { s with
      sendSlots := s.releasedSendSlots
      changes := s.changes.set k (change.fail .forgetting) }
  | .settling, .ok =>
    some { s with
      activeSubscriptionRollback :=
        if s.activeSubscriptionRollback = some k then none else s.activeSubscriptionRollback
      changes := s.changes.set k (change.goto (.releasing false)) }
  | .forgetting, .ok =>
    match change.registered with
    | none => some (s.setChange k (change.goto .rollingBack))
    | some id =>
      some { s.removeSubscriptionMutation id with
        changes := s.changes.set k { change with
          phase := .rollingBack
          responseSlot := change.responseSlot && s.containsMutation id } }
  | .rollingBack, .ok =>
    some { s.rollbackSubscriptionChange k change with
      changes := s.changes.set k (change.goto (.releasing false)) }
  | .releasing proceed, .ok =>
    some { s with
      gate := none
      changes := s.changes.set k
        (change.goto (if proceed then .slotting else .returningSendSlot)) }
  | .returningSendSlot, .ok =>
    some { s with
      sendSlots := if change.sendSlot then s.releasedSendSlots else s.sendSlots
      changes := s.changes.set k { change with
        phase := .returningResponseSlot
        sendSlot := false } }
  | .returningResponseSlot, .ok =>
    some { s with
      responseSlots := if change.responseSlot then s.responseSlots + 1 else s.responseSlots
      changes := s.changes.set k { change with phase := .unordering, responseSlot := false } }
  | .unordering, .ok =>
    some { s with orderGate := false, changes := s.changes.set k (change.goto .finished) }
  | _, _ => none

def stepChange (s : RealtimeClient) (k : Nat) (input : Await) (now : UtcNow) (fresh : Guid)
    (tooLarge : Bool) : Option RealtimeClient :=
  match s.changes[k]? with
  | none => none
  | some change =>
    match change.phase with
    | .registering =>
      if input = .ok then s.stepRegister k change now fresh tooLarge else none
    | .ordering | .entering | .gating | .disposal | .inspecting | .comparing | .slotting
    | .regating => s.stepChangeEntry k change input
    | .redisposal | .reinspecting | .applying | .awaitingResponse | .lastDisposal | .confirming
    | .reapplying => s.stepChangeApply k change input
    | _ => s.stepChangeExit k change input

/-- `SendAsync` up to its first wait; a call that throws before it has no effect. -/
def callSend (s : RealtimeClient) (message : MessageEnvelope) (now : UtcNow) (tooLarge : Bool) :
    Option RealtimeClient :=
  if s.disposed || isSubscriptionCommand message then none
  else
    match prepareOwnedMessage message now tooLarge with
    | none => none
    | some owned =>
      if owned.correlationId.getD [] ∈ s.heartbeatIds then none
      else
        some { s with
          applicationIds := s.applicationIds ++ [owned.correlationId.getD []]
          senders := s.senders ++ [.acquiring ⟨owned, .application⟩] }

/-- `SubscribeAsync` or `UnsubscribeAsync`. -/
def callChange (s : RealtimeClient) (route : Text) (subscribe : Bool)
    (correlationId : Option Text) : Option RealtimeClient :=
  if s.disposed || decide (correlationId.getD [] ∈ s.heartbeatIds) then none
  else
    some { s with
      commandIds := if isNullOrWhiteSpace correlationId then s.commandIds
        else s.commandIds ++ [correlationId.getD []]
      changes := s.changes ++
        [{ route := route, subscribe := subscribe, correlationId := correlationId }] }

/-- `ConnectAsync` runs `RunAsync` under the state lock up to its first wait. -/
def callConnect (s : RealtimeClient) : Option RealtimeClient :=
  if s.disposed then none
  else if s.run ≠ .idle then none
  else if s.cancelled then some { s with connectPending := true, run := .completing }
  else some { s with connectPending := true, state := .connecting, run := .authenticating }

/-- `DisconnectAsync` up to the end of its locked part. -/
def callDisconnect (s : RealtimeClient) : Option RealtimeClient :=
  if s.disposed then none
  else if s.run = .idle then
    some { s with
      acceptingSends := false
      run := .skipped
      stoppers := s.stoppers ++ [.cancelling true] }
  else if s.run.isCompleted then some { s with acceptingSends := false }
  else
    some { s with
      acceptingSends := false
      state := if s.state = .disconnected ∨ s.state = .faulted then s.state else .stopping
      stoppers := s.stoppers ++ [.cancelling false] }

def callDispose (s : RealtimeClient) : Option RealtimeClient :=
  if s.disposed then none
  else if s.run = .idle then
    some { s with
      disposed := true
      acceptingSends := false
      run := .skipped
      stoppers := s.stoppers ++ [.cancelling true] }
  else
    some { s with
      disposed := true
      acceptingSends := false
      stoppers := s.stoppers ++ [.cancelling false] }

def stepStopper (s : RealtimeClient) (k : Nat) : Option RealtimeClient :=
  match s.stoppers[k]? with
  | some (.cancelling completeWithoutRun) =>
    some { s with
      cancelled := true
      stoppers := s.stoppers.set k (if completeWithoutRun then .completing else .finished) }
  | some .completing =>
    some { s.completeWriters with stoppers := s.stoppers.set k .discarding }
  | some .discarding =>
    some { s.discardLeftovers with stoppers := s.stoppers.set k .forgetting }
  | some .forgetting =>
    some { s.clearPendingSubscriptionMutations with stoppers := s.stoppers.set k .finished }
  | _ => none

def servedSubscriptions (s : RealtimeClient) (message : MessageEnvelope) (accepted : Bool) :
    List Text :=
  if accepted && isSubscriptionCommand message then
    setMember s.serverSubscriptions (message.route.getD [])
      (message.type == some ProtocolMessageTypes.subscribe)
  else s.serverSubscriptions

def answer (message : MessageEnvelope) (accepted : Bool) (now : UtcNow) :
    ServerMessageEnvelope where
  version := some ProtocolVersions.current
  type := some (if accepted then ProtocolMessageTypes.acknowledge else ProtocolMessageTypes.error)
  correlationId := message.correlationId
  timestamp := now.ticks
  route := message.route
  error := if accepted then none else some
    ⟨some ProtocolErrorCodes.unauthorized, some (utf16 "The command was not accepted.")⟩

/-- The server answers the messages of the connection in the order it receives
them, with envelopes that the client can read. -/
def serve (s : RealtimeClient) (accepted : Bool) (now : UtcNow) : Option RealtimeClient :=
  match s.wire with
  | message :: wire =>
    if ProtocolValidator.validateServer (some (answer message.envelope accepted now)) = .valid then
      some { s with
        wire
        serverSubscriptions := s.servedSubscriptions message.envelope accepted
        frames := s.frames ++ [⟨answer message.envelope accepted now, some message⟩] }
    else none
  | [] => none

/-- The server sends an envelope of its own; responses are only sent as answers. -/
def push (s : RealtimeClient) (envelope : ServerMessageEnvelope) : Option RealtimeClient :=
  if isResponse envelope then none else some { s with frames := s.frames ++ [⟨envelope, none⟩] }

end RealtimeClient

inductive Label where
  | connect
  | cancelConnect
  | connectReturned
  | send (message : MessageEnvelope) (now : UtcNow) (tooLarge : Bool)
  | change (route : Text) (subscribe : Bool) (correlationId : Option Text)
  | disconnect
  | dispose
  | consume
  | sender (k : Nat) (input : Await)
  | changeStep (k : Nat) (input : Await) (now : UtcNow) (fresh : Guid) (tooLarge : Bool)
  | stopper (k : Nat)
  | run (input : Await) (first : FirstLoop)
  | received (received : Received)
  | receive (input : Await)
  | replay (input : Await) (now : UtcNow) (fresh : Guid)
  | sendLoop (input : Await) (now : UtcNow)
  | heartbeat (input : Await) (now : UtcNow) (fresh : Guid)
  | serve (accepted : Bool) (now : UtcNow)
  | push (envelope : ServerMessageEnvelope)

open RealtimeClient in
def step : StepFn RealtimeClient Label := fun s label =>
  match label with
  | .connect => s.callConnect
  -- The token of `ConnectAsync` cancels the lifetime while the call waits.
  | .cancelConnect => if s.connectPending then some { s with cancelled := true } else none
  | .connectReturned => some { s with connectPending := false }
  | .send message now tooLarge => s.callSend message now tooLarge
  | .change route subscribe correlationId => s.callChange route subscribe correlationId
  | .disconnect => s.callDisconnect
  | .dispose => s.callDispose
  | .consume =>
    match s.inbound with
    | _ :: inbound => some { s with inbound }
    | [] => none
  | .sender k input => s.stepSender k input
  | .changeStep k input now fresh tooLarge => s.stepChange k input now fresh tooLarge
  | .stopper k => s.stepStopper k
  | .run input first => s.stepRun input first
  | .received received => s.stepReceived received
  | .receive input => s.stepReceive input
  | .replay input now fresh => s.stepReplay input now fresh
  | .sendLoop input now => s.stepSend input now
  | .heartbeat input now fresh => s.stepHeartbeat input now fresh
  | .serve accepted now => s.serve accepted now
  | .push envelope => s.push envelope

/-! Pieces of runs on fixed inputs. -/

def exampleClock : UtcNow := ⟨1, by decide⟩

def exampleFresh : Guid := ⟨List.replicate 32 0, by decide⟩

def exampleMessage (id : Text) : MessageEnvelope where
  version := some ProtocolVersions.current
  type := some ProtocolMessageTypes.publish
  correlationId := some id
  timestamp := 1
  route := some (utf16 "orders")
  payload := .bool true

def runSteps (n : Nat) : List Label := List.replicate n (.run .ok .send)

def replaySteps (n : Nat) : List Label := List.replicate n (.replay .ok exampleClock exampleFresh)

def connectSteps : List Label := [.connect] ++ runSteps 2 ++ replaySteps 8 ++ runSteps 2

end Realtime.Client
