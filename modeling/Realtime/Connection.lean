import Realtime.Routing

/-! One gateway connection: its cached identity, its subscription keys, the
window of correlation ids and the bounded outbound queue. -/

namespace Realtime

structure RealtimeOptions where
  outboundQueueCapacity : Nat := 128
  maximumSubscriptions : Nat := 64
  maximumTrackedCorrelations : Nat := 512
  slowConsumerStrikeLimit : Nat := 3
  durableEventClasses : List Text := []

structure RealtimeConnection where
  identity : RealtimeIdentity
  sessionId : Option Text
  transportOpen : Bool := true
  closeRequested : Bool := false
  disposing : Bool := false
  outbound : List ServerMessageEnvelope := []
  writerCompleted : Bool := false
  queuedMessages : Nat := 0
  slowConsumerStrikes : Nat := 0
  slowConsumerDisconnectRecorded : Bool := false
  subscriptions : List Text := []
  correlations : List Text := []
  correlationOrder : List Text := []

namespace RealtimeConnection

def isOpen (connection : RealtimeConnection) : Bool :=
  connection.transportOpen && !connection.closeRequested && !connection.disposing

def updateIdentity (connection : RealtimeConnection) (identity : RealtimeIdentity) :
    RealtimeConnection :=
  { connection with identity := identity }

/-- The eviction loop of `TryTrackCorrelation`. -/
def evictCorrelations (maximum : Nat) : List Text → List Text → List Text × List Text
  | correlations, [] => (correlations, [])
  | correlations, oldest :: order =>
    if maximum < correlations.length then
      evictCorrelations maximum (correlations.erase oldest) order
    else (correlations, oldest :: order)

def tryTrackCorrelation (options : RealtimeOptions) (connection : RealtimeConnection)
    (correlationId : Text) : Bool × RealtimeConnection :=
  if correlationId ∈ connection.correlations then (false, connection)
  else
    let kept := evictCorrelations options.maximumTrackedCorrelations
      (connection.correlations ++ [correlationId]) (connection.correlationOrder ++ [correlationId])
    (true, { connection with correlations := kept.1, correlationOrder := kept.2 })

def trySubscribe (options : RealtimeOptions) (connection : RealtimeConnection)
    (route : AuthorizedRoute) : Bool × RealtimeConnection :=
  if options.maximumSubscriptions ≤ connection.subscriptions.length ∨
      route.subscriptionKey ∈ connection.subscriptions then (false, connection)
  else
    (true, { connection with
      subscriptions := connection.subscriptions ++ [route.subscriptionKey] })

def unsubscribe (connection : RealtimeConnection) (route : AuthorizedRoute) :
    Bool × RealtimeConnection :=
  if route.subscriptionKey ∈ connection.subscriptions then
    (true, { connection with
      subscriptions := connection.subscriptions.filter (fun key => key != route.subscriptionKey) })
  else (false, connection)

def isSubscribed (connection : RealtimeConnection) (topic : Text) (userId : Option Text) : Bool :=
  (AuthorizedRoute.mk topic userId).subscriptionKey ∈ connection.subscriptions

def tryEnqueue (options : RealtimeOptions) (connection : RealtimeConnection)
    (message : ServerMessageEnvelope) : Bool × RealtimeConnection :=
  if connection.isOpen = false then (false, connection)
  else if options.outboundQueueCapacity ≤ connection.queuedMessages then
    (false, { connection with slowConsumerStrikes := connection.slowConsumerStrikes + 1 })
  else if connection.writerCompleted ∨
      options.outboundQueueCapacity ≤ connection.outbound.length then
    (false, { connection with slowConsumerStrikes := connection.slowConsumerStrikes + 1 })
  else
    (true, { connection with
      outbound := connection.outbound ++ [message]
      queuedMessages := connection.queuedMessages + 1
      slowConsumerStrikes := 0 })

def hasExceededSlowConsumerLimit (options : RealtimeOptions) (connection : RealtimeConnection) :
    Bool :=
  options.slowConsumerStrikeLimit ≤ connection.slowConsumerStrikes

def tryMarkSlowConsumerDisconnect (connection : RealtimeConnection) : Bool × RealtimeConnection :=
  (!connection.slowConsumerDisconnectRecorded,
    { connection with slowConsumerDisconnectRecorded := true })

/-- The synchronous part of `RequestCloseAsync`, before it waits for the sender. -/
def requestClose (connection : RealtimeConnection) : RealtimeConnection :=
  if connection.closeRequested then connection
  else { connection with closeRequested := true, writerCompleted := true }

/-- What else happens to a connection: the sender takes a message and accounts
for it, a close is cancelled while it waits, the transport ends, `DisposeAsync`. -/
inductive Change where
  | take | sent | closeRequested | closeCancelled | transportEnded | disposed

def change (connection : RealtimeConnection) : Change → RealtimeConnection
  | .take => { connection with outbound := connection.outbound.tail }
  | .sent => { connection with queuedMessages := connection.queuedMessages - 1 }
  | .closeRequested => connection.requestClose
  | .closeCancelled => { connection with closeRequested := false }
  | .transportEnded => { connection with transportOpen := false }
  | .disposed =>
    { connection with
      disposing := true, writerCompleted := true, queuedMessages := 0, subscriptions := [] }

def accepts (options : RealtimeOptions) (connection : RealtimeConnection) : Bool :=
  connection.isOpen && decide (connection.queuedMessages < options.outboundQueueCapacity) &&
    !connection.writerCompleted && decide (connection.outbound.length < options.outboundQueueCapacity)

theorem tryEnqueue_fst (options : RealtimeOptions) (connection : RealtimeConnection)
    (message : ServerMessageEnvelope) :
    (connection.tryEnqueue options message).1 = connection.accepts options := by
  simp only [tryEnqueue, accepts]
  by_cases ho : connection.isOpen = false
  · simp [ho]
  · by_cases hq : options.outboundQueueCapacity ≤ connection.queuedMessages
    · simp [ho, hq, Nat.not_lt.mpr hq]
    · by_cases hw : connection.writerCompleted = true
      · simp [ho, hq, hw]
      · by_cases hl : options.outboundQueueCapacity ≤ connection.outbound.length
        · simp [ho, hq, hl]
        · simp [ho, hq, hw, hl, Nat.lt_of_not_le hq, Nat.lt_of_not_le hl]

@[simp] theorem requestClose_identity (connection : RealtimeConnection) :
    connection.requestClose.identity = connection.identity := by
  simp only [requestClose]
  split_ifs <;> rfl

@[simp] theorem requestClose_subscriptions (connection : RealtimeConnection) :
    connection.requestClose.subscriptions = connection.subscriptions := by
  simp only [requestClose]
  split_ifs <;> rfl

theorem change_identity (connection : RealtimeConnection) (c : Change) :
    (connection.change c).identity = connection.identity := by
  cases c <;> simp [change]

theorem change_subscriptions (connection : RealtimeConnection) (c : Change) :
    (connection.change c).subscriptions ⊆ connection.subscriptions := by
  cases c <;> simp [change]

theorem tryTrackCorrelation_identity (options : RealtimeOptions) (connection : RealtimeConnection)
    (correlationId : Text) :
    (connection.tryTrackCorrelation options correlationId).2.identity = connection.identity := by
  simp only [tryTrackCorrelation]
  split_ifs <;> rfl

theorem tryTrackCorrelation_subscriptions (options : RealtimeOptions)
    (connection : RealtimeConnection) (correlationId : Text) :
    (connection.tryTrackCorrelation options correlationId).2.subscriptions =
      connection.subscriptions := by
  simp only [tryTrackCorrelation]
  split_ifs <;> rfl

theorem tryEnqueue_identity (options : RealtimeOptions) (connection : RealtimeConnection)
    (message : ServerMessageEnvelope) :
    (connection.tryEnqueue options message).2.identity = connection.identity := by
  simp only [tryEnqueue]
  split_ifs <;> rfl

theorem tryEnqueue_subscriptions (options : RealtimeOptions) (connection : RealtimeConnection)
    (message : ServerMessageEnvelope) :
    (connection.tryEnqueue options message).2.subscriptions = connection.subscriptions := by
  simp only [tryEnqueue]
  split_ifs <;> rfl

theorem trySubscribe_identity (options : RealtimeOptions) (connection : RealtimeConnection)
    (route : AuthorizedRoute) :
    (connection.trySubscribe options route).2.identity = connection.identity := by
  simp only [trySubscribe]
  split_ifs <;> rfl

theorem unsubscribe_identity (connection : RealtimeConnection) (route : AuthorizedRoute) :
    (connection.unsubscribe route).2.identity = connection.identity := by
  simp only [unsubscribe]
  split_ifs <;> rfl

variable {connection : RealtimeConnection} {route : AuthorizedRoute} {key : Text}

/-- After a subscribe command the key is present unless it was refused for the
limit, and no other key has changed. -/
theorem mem_trySubscribe {options : RealtimeOptions}
    (h : key ∈ (connection.trySubscribe options route).2.subscriptions) :
    key ∈ connection.subscriptions ∨
      key = route.subscriptionKey ∧ (connection.trySubscribe options route).1 = true := by
  simp only [trySubscribe] at h ⊢
  split_ifs at h ⊢ with hc
  · exact .inl h
  · rcases List.mem_append.mp h with h | h
    · exact .inl h
    · exact .inr ⟨List.mem_singleton.mp h, rfl⟩

theorem mem_unsubscribe (h : key ∈ (connection.unsubscribe route).2.subscriptions) :
    key ∈ connection.subscriptions ∧ key ≠ route.subscriptionKey := by
  simp only [unsubscribe] at h
  split_ifs at h with hc
  · simpa using List.mem_filter.mp h
  · exact ⟨h, fun he => hc (he ▸ h)⟩

end RealtimeConnection

end Realtime
