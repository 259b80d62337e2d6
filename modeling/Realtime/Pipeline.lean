import Realtime.Routing

/-! The publish pipeline: what the dispatcher builds from an accepted command,
what the bus and the durable stream check on the receiving side, and the event
that a gateway enqueues for its subscribers. -/

namespace Realtime

/-- `RealtimeDispatcher.BuildSourceInstance`; `none` is an `ArgumentException`. -/
def buildSourceInstance (serviceName machineName : Text) : Option Text :=
  if isBlank serviceName || isBlank machineName then none
  else if 128 < serviceName.length then none
  else
    let machineLength := min machineName.length (256 - serviceName.length - 1)
    some (serviceName ++ utf16 ":" ++ machineName.take machineLength)

/-- The message of a `publish` command. The identity is read again for the
tenant, after the route was authorized. -/
def buildBusMessage (messageId : Guid) (identity : RealtimeIdentity) (route : AuthorizedRoute)
    (envelope : MessageEnvelope) (now : UtcNow) (sourceInstance : Text) : RealtimeBusMessage where
  messageId := messageId.toText
  tenantId := identity.tenantId
  userId := route.userId
  topic := route.topic
  correlationId := envelope.correlationId.getD []
  timestamp := now.ticks
  payload := envelope.payload
  sourceInstance := sourceInstance

def RealtimeBusMessage.toDurable (message : RealtimeBusMessage) (eventClass : Text) :
    DurableStreamMessage where
  eventClass := eventClass
  messageId := message.messageId
  tenantId := message.tenantId
  userId := message.userId
  topic := message.topic
  correlationId := message.correlationId
  timestamp := message.timestamp
  payload := message.payload
  sourceInstance := message.sourceInstance

/-- The topic and user that a bus message addresses. -/
def RealtimeBusMessage.route (message : RealtimeBusMessage) : AuthorizedRoute :=
  ⟨message.topic, message.userId⟩

/-- The envelope that `DeliverAsync` enqueues. -/
def RealtimeBusMessage.toEvent (message : RealtimeBusMessage) : ServerMessageEnvelope where
  version := some ProtocolVersions.current
  type := some ProtocolMessageTypes.event
  correlationId := some message.correlationId
  timestamp := message.timestamp
  route := some message.route.subscriptionKey
  payload := some message.payload

section

variable [CharTable]

/-- The tail that the bus and the durable stream check alike. -/
def hasValidBody (correlationId : Text) (timestamp : Int) (payload : JsonElement)
    (sourceInstance : Text) : Bool :=
  ProtocolValidator.isValidCorrelationId (some correlationId) && timestamp != 0 &&
    !payload.isMissing && !isBlank sourceInstance && sourceInstance.length ≤ 256

def isValidBusMessage (message : RealtimeBusMessage) : Bool :=
  isSafeBusIdentifier message.messageId && isSafeBusIdentifier message.tenantId &&
    message.userId.all isSafeBusIdentifier && isSafeBusIdentifier message.topic &&
    hasValidBody message.correlationId message.timestamp message.payload message.sourceInstance

def isValidDurableMessage (expectedEventClass : Text) (message : DurableStreamMessage) : Bool :=
  message.eventClass == expectedEventClass && isSafeIdentifier message.messageId &&
    isSafeIdentifier message.tenantId && message.userId.all isSafeIdentifier &&
    isSafeIdentifier message.topic &&
    hasValidBody message.correlationId message.timestamp message.payload message.sourceInstance

/-- `StreamKey`; `none` is the `ArgumentException` for an unsupported class. -/
def streamKey (instancePrefix streamKeyPrefix eventClass : Text) : Option Text :=
  if isValidEventClass eventClass then
    some (instancePrefix ++ utf16 ":" ++ streamKeyPrefix ++ utf16 ":" ++ eventClass)
  else none

theorem isValidDurableMessage_toDurable (message : RealtimeBusMessage) (eventClass : Text) :
    isValidDurableMessage eventClass (message.toDurable eventClass) = isValidBusMessage message := by
  have hu : message.userId.all isSafeIdentifier = message.userId.all isSafeBusIdentifier := by
    cases message.userId with
    | none => rfl
    | some userId => simp [isSafeBusIdentifier_eq, isSafeIdentifier, isSafeSegment]
  simp only [isValidDurableMessage, isValidBusMessage, RealtimeBusMessage.toDurable, hu,
    isSafeBusIdentifier_eq, isSafeIdentifier, isSafeSegment, beq_self_eq_true, Bool.true_and]

variable {serviceName machineName sourceInstance : Text}

omit [CharTable] in
theorem buildSourceInstance_eq_some
    (h : buildSourceInstance serviceName machineName = some sourceInstance) :
    isBlank sourceInstance = false ∧ sourceInstance.length ≤ 256 := by
  simp only [buildSourceInstance] at h
  split at h
  · cases h
  split at h
  · cases h
  next hb hl =>
    obtain rfl := Option.some.inj h
    have hco : (utf16 ":").all isWhiteSpace = false := by decide
    have hlen : (utf16 ":").length = 1 := by decide
    refine ⟨by simp [isBlank, hco], ?_⟩
    simp only [List.length_append, List.length_take, hlen]
    omega

omit [CharTable] in
/-- For a service name of at most 128 characters and a machine name that is not
blank, the source instance is built unless the service name is blank. -/
theorem buildSourceInstance_isSome (hs : serviceName.length ≤ 128)
    (hm : isBlank machineName = false) :
    (buildSourceInstance serviceName machineName).isSome = !isBlank serviceName := by
  simp only [buildSourceInstance, hm, Bool.or_false, Nat.not_lt.mpr hs, if_false]
  cases isBlank serviceName <;> simp

theorem buildBusMessage_valid (messageId : Guid) (now : UtcNow) {identity : RealtimeIdentity}
    {route : AuthorizedRoute} {envelope : MessageEnvelope} {received : Int} (hi : identity.Valid)
    (hr : route.Safe) (hv : ProtocolValidator.validateClient (some envelope) received = .valid)
    (hp : envelope.type = some ProtocolMessageTypes.publish)
    (hs : isBlank sourceInstance = false ∧ sourceInstance.length ≤ 256) :
    isValidBusMessage (buildBusMessage messageId identity route envelope now sourceInstance) =
      true := by
  obtain ⟨_, hc, _, hpay⟩ := ProtocolValidator.validateClient_valid hv
  have hco : ProtocolValidator.isValidCorrelationId (some (envelope.correlationId.getD [])) =
      true := by
    cases he : envelope.correlationId with
    | none => rw [he] at hc; cases hc
    | some correlationId => rw [he] at hc; exact hc
  have hus : route.userId.all isSafeBusIdentifier = true := by
    cases he : route.userId with
    | none => rfl
    | some userId => simpa [isSafeBusIdentifier_eq] using hr.userId userId he
  have hti : (now.ticks != 0) = true := by simpa using now.ticks_ne_default
  simp only [isValidBusMessage, buildBusMessage, hasValidBody, isSafeBusIdentifier_eq,
    messageId.toText_isSafeSegment, hi.tenantId_safe, hus, hr.topic, hco, hti, hpay hp, hs.1,
    hs.2, Bool.not_false, Bool.and_self, decide_true]

omit [CharTable] in
theorem toEvent_valid {message : RealtimeBusMessage}
    (hc : ProtocolValidator.isValidCorrelationId (some message.correlationId) = true)
    (ht : message.timestamp ≠ 0) (hl : message.route.subscriptionKey.length ≤ 256) :
    ProtocolValidator.validateServer (some message.toEvent) = .valid := by
  refine ProtocolValidator.validateServer_valid_iff.mpr ⟨rfl, rfl, hc, ht, ?_, ?_, ?_⟩
  · exact ProtocolValidator.isValidRoute_some.mpr
      ⟨message.route.subscriptionKey_nonBlank, hl⟩
  · intro h
    have hne : ¬ some ProtocolMessageTypes.event = some ProtocolMessageTypes.error := by decide
    exact absurd h hne
  · intro advice h
    cases h

/-- The validators along the pipeline agree. A command that was accepted and
authorized yields a message that no receiving side drops or quarantines, and
its event is valid for every client, whatever connection it is enqueued to. -/
theorem published_message_accepted (identity current : RealtimeIdentity)
    (envelope : MessageEnvelope) (text : Text) (route : AuthorizedRoute) (received : Int)
    (serviceName machineName : Text) (messageId : Guid) (now : UtcNow)
    (hi : identity.Valid) (hcur : current.Valid)
    (hv : ProtocolValidator.validateClient (some envelope) received = .valid)
    (hp : envelope.type = some ProtocolMessageTypes.publish)
    (ht : envelope.route = some text) (ha : tryAuthorize identity text = some route)
    (hs : 1 ≤ serviceName.length ∧ serviceName.length ≤ 128)
    (hm : isBlank machineName = false) :
    (buildSourceInstance serviceName machineName).isSome = !isBlank serviceName ∧
    ∀ sourceInstance, buildSourceInstance serviceName machineName = some sourceInstance →
      let message := buildBusMessage messageId current route envelope now sourceInstance
      isValidBusMessage message = true ∧
      (∀ instancePrefix streamKeyPrefix eventClass key,
        streamKey instancePrefix streamKeyPrefix eventClass = some key →
        isValidDurableMessage eventClass (message.toDurable eventClass) = true) ∧
      ProtocolValidator.validateServer (some message.toEvent) = .valid := by
  refine ⟨buildSourceInstance_isSome hs.2 hm, fun sourceInstance hb => ?_⟩
  have hsa := tryAuthorize_safe hi ha
  have hbus := buildBusMessage_valid messageId now hcur hsa hv hp (buildSourceInstance_eq_some hb)
  obtain ⟨_, hc, hr, _⟩ := ProtocolValidator.validateClient_valid hv
  refine ⟨hbus, fun _ _ eventClass _ _ => ?_, ?_⟩
  · rw [isValidDurableMessage_toDurable]
    exact hbus
  · have hlen := tryAuthorize_key_length_le ha
    rw [ht] at hr
    have hro := (ProtocolValidator.isValidRoute_some.mp hr).2
    refine toEvent_valid ?_ now.ticks_ne_default (hlen.trans hro)
    cases he : envelope.correlationId with
    | none => rw [he] at hc; cases hc
    | some correlationId => rw [he] at hc; simpa [buildBusMessage, he] using hc

end

def exampleNow : UtcNow := ⟨639000000000000000, by decide⟩

def exampleGuid : Guid := ⟨List.replicate 32 7, by decide⟩

def exampleIdentity : RealtimeIdentity where
  tenantId := utf16 "acme"
  userId := utf16 "alice"
  allowedTopics := [utf16 "orders"]
  expiresAt := exampleNow.ticks + 36000000000

def examplePublish : MessageEnvelope where
  version := some ProtocolVersions.current
  type := some ProtocolMessageTypes.publish
  correlationId := some (utf16 "c-1")
  timestamp := exampleNow.ticks
  route := some (utf16 "users/alice/topics/orders")
  payload := .object [(utf16 "value", .number (utf16 "42"))]

theorem published_message_accepted_orders :
    let _ := asciiTable
    let message := buildBusMessage exampleGuid exampleIdentity
      ⟨utf16 "orders", some (utf16 "alice")⟩ examplePublish exampleNow (utf16 "gateway:node-1")
    isValidBusMessage message = true ∧
      isValidDurableMessage (utf16 "audit") (message.toDurable (utf16 "audit")) = true ∧
      ProtocolValidator.validateServer (some message.toEvent) = .valid := by
  intro table
  have h := (published_message_accepted exampleIdentity exampleIdentity examplePublish
    (utf16 "users/alice/topics/orders") ⟨utf16 "orders", some (utf16 "alice")⟩ exampleNow.ticks
    (utf16 "gateway") (utf16 "node-1") exampleGuid exampleNow (by decide) (by decide) (by decide)
    rfl rfl (by decide) (by decide) (by decide)).2 (utf16 "gateway:node-1") (by decide)
  exact ⟨h.1, h.2.1 [] [] (utf16 "audit") _ rfl, h.2.2⟩

end Realtime
