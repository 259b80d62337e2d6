import Realtime.Gateway
import Realtime.Machine

/-! The life of one HTTP fallback connection in `HttpFallbackConnectionManager`:
message posts, `DELETE` requests, ends of streams and the background loop share the
inbound gate, and each of them can run the close core. -/

namespace Realtime.Fallback

open List Option

/-- `CloseCoreAsync`, which runs with the inbound gate held. -/
inductive CorePhase where
  | removing
  | unregistering
  | cancelling
  | requesting
  | waiting
  | aborting
  | disposing
  | ending
  deriving DecidableEq

/-- `HttpFallbackConnectionManager.CloseAsync`. -/
inductive CloseRequestPhase where
  | waiting
  | core (phase : CorePhase)
  | releasing
  | finished
  | cancelled
  deriving DecidableEq

inductive PostBody where
  | tooLarge
  | malformed
  | envelope (envelope : Option MessageEnvelope)

/-- `MessagesAsync` and `DispatchAsync` with the gate held, up to a failed
revalidation. -/
inductive GatedPhase where
  | checking
  | activating
  | validating
  | revalidating
  | tracking
  | dispatching
  deriving DecidableEq

/-- The status is absent where an exception ends the request. -/
inductive PostPhase where
  | arriving (body : PostBody)
  | entering (envelope : MessageEnvelope)
  | gated (envelope : MessageEnvelope) (phase : GatedPhase)
  | closing (phase : CorePhase)
  | releasing (status : Option Nat)
  | answered (status : Option Nat)

inductive DeletePhase where
  | arriving
  | closing (phase : CloseRequestPhase)
  | answered (status : Option Nat)

/-- `RunAsync`. -/
inductive BackgroundPhase where
  | waiting
  | looping
  | revalidating
  | closing (reason : Text) (phase : CloseRequestPhase)
  | ended

inductive Task where
  | post (answers : Answers) (phase : PostPhase)
  | delete (phase : DeletePhase)
  | stream (phase : CloseRequestPhase)
  | background (phase : BackgroundPhase)

inductive TaskInput where
  | ok | aborted | timeout | faulted
  | heartbeat (answers : Answers) (idle : Bool)

/-- `State` in the manager, its connection in the registry, and the share of the
connection in the gauge of active connections. -/
structure Entry where
  connection : RealtimeConnection
  present : Bool := true
  registered : Bool := true
  activeConnections : Int := 1
  lifetimeCancelled : Bool := false
  receiverAttached : Bool := false
  inboundGate : Nat := 1
  /-- History: reasons recorded by `RecordConnectionClosed`, calls of `DisposeAsync`,
  and the tasks that took and released the gate. -/
  closedReasons : List Text := []
  disposals : Nat := 0
  taken : List Nat := []
  released : List Nat := []

def statusAccepted : Nat := 202
def statusNoContent : Nat := 204
def statusBadRequest : Nat := 400
def statusUnauthorized : Nat := 401
def statusNotFound : Nat := 404
def statusConflict : Nat := 409
def statusPayloadTooLarge : Nat := 413

namespace Entry

/-- `IsActive`; `TryGet` asks the same of a request with the right token. -/
def isActive (s : Entry) : Bool := s.present && s.connection.isOpen

def take (s : Entry) (k : Nat) : Entry :=
  { s with inboundGate := s.inboundGate - 1, taken := s.taken ++ [k] }

def release (s : Entry) (k : Nat) : Entry :=
  { s with inboundGate := s.inboundGate + 1, released := s.released ++ [k] }

/-- `RealtimeConnectionRegistry.Remove`. -/
def unregister (s : Entry) (reason : Text) : Entry :=
  if s.registered then
    { s with
      registered := false
      activeConnections := s.activeConnections - 1
      closedReasons := s.closedReasons ++ [reason] }
  else s

/-- `RealtimeConnection.Abort`. -/
def abort (connection : RealtimeConnection) : RealtimeConnection :=
  if connection.closeRequested then connection
  else { connection.requestClose with transportOpen := false }

/-- One step of the close core; it returns after the last phase. -/
def stepCore (s : Entry) (reason : Text) (cancellable : Bool) (phase : CorePhase)
    (input : TaskInput) : Option (Entry × Option CorePhase) :=
  match phase, input with
  | .removing, .ok =>
    if s.present then some ({ s with present := false }, some .unregistering) else some (s, none)
  | .unregistering, .ok => some (s.unregister reason, some .cancelling)
  | .cancelling, .ok => some ({ s with lifetimeCancelled := true }, some .requesting)
  | .requesting, .ok =>
    if s.connection.closeRequested then some (s, some .disposing)
    else some ({ s with connection := s.connection.requestClose }, some .waiting)
  | .waiting, .ok =>
    some ({ s with connection := s.connection.change .transportEnded }, some .disposing)
  | .waiting, .aborted =>
    if cancellable then
      some ({ s with connection := s.connection.change .closeCancelled }, some .aborting)
    else none
  | .aborting, .ok => some ({ s with connection := abort s.connection }, some .disposing)
  | .disposing, .ok =>
    some ({ s with connection := s.connection.change .disposed, disposals := s.disposals + 1 },
      some .ending)
  -- The rest of `DisposeAsync` closes the transport if it is still open.
  | .ending, .ok =>
    some ({ s with
      connection :=
        if s.connection.transportOpen then s.connection.requestClose.change .transportEnded
        else s.connection }, none)
  | _, _ => none

def stepClose (s : Entry) (k : Nat) (reason : Text) (cancellable : Bool)
    (phase : CloseRequestPhase) (input : TaskInput) : Option (Entry × CloseRequestPhase) :=
  match phase, input with
  | .waiting, .ok => if s.inboundGate = 0 then none else some (s.take k, .core .removing)
  | .waiting, .aborted => if cancellable then some (s, .cancelled) else none
  | .core phase, input =>
    match s.stepCore reason cancellable phase input with
    | some (t, some next) => some (t, .core next)
    | some (t, none) => some (t, .releasing)
    | none => none
  | .releasing, .ok => some (s.release k, .finished)
  | _, _ => none

def enqueue (s : Entry) (options : RealtimeOptions) (message : ServerMessageEnvelope) :
    Entry :=
  { s with connection := (s.connection.tryEnqueue options message).2 }

def enqueueReply (options : RealtimeOptions) (outcome : DispatchOutcome) : RealtimeConnection :=
  match outcome.reply with
  | some reply => (outcome.connection.tryEnqueue options reply).2
  | none => outcome.connection

section

variable [CharTable]

/-- `MessagesAsync` and `DispatchAsync` with the gate held. A command is applied when its
dispatch ends; one that is aborted was waiting for Redis and has not touched the
connection. -/
def stepGated (s : Entry) (options : RealtimeOptions) (answers : Answers)
    (envelope : MessageEnvelope) (phase : GatedPhase) (input : TaskInput) :
    Option (Entry × PostPhase) :=
  match phase, input with
  | .checking, .ok =>
    some (s, if s.isActive then .gated envelope .activating
      else .releasing (some statusNotFound))
  | .activating, .ok =>
    some (s, if s.isActive then .gated envelope .validating
      else .releasing (some statusUnauthorized))
  | .validating, .ok =>
    match ProtocolValidator.validateClient (some envelope) answers.validatedAt.ticks with
    | .invalid errorCode errorMessage =>
      some (s.enqueue options (errorReply (some envelope) errorCode errorMessage answers.fresh
        answers.repliedAt), .releasing (some statusAccepted))
    | .valid => some (s, .gated envelope .revalidating)
  | .revalidating, .ok =>
    if (revalidateHttp s.connection answers).1 then
      some ({ s with connection := (revalidateHttp s.connection answers).2 },
        .gated envelope .tracking)
    else some (s, .closing .removing)
  | .tracking, .ok =>
    let tracked := s.connection.tryTrackCorrelation options (envelope.correlationId.getD [])
    if tracked.1 then some ({ s with connection := tracked.2 }, .gated envelope .dispatching)
    else
      some ({ s with connection := tracked.2 }.enqueue options
        (errorReply (some envelope) ProtocolErrorCodes.duplicateCorrelation
          (utf16 "CorrelationId has already been processed on this connection.")
          answers.fresh answers.repliedAt), .releasing (some statusAccepted))
  | .dispatching, .ok =>
    some ({ s with
      connection := enqueueReply options (dispatch options s.connection envelope answers) },
      .releasing (some statusAccepted))
  | .revalidating, .aborted | .revalidating, .faulted | .dispatching, .aborted
  | .dispatching, .faulted => some (s, .releasing none)
  | _, _ => none

def stepPost (s : Entry) (options : RealtimeOptions) (k : Nat) (answers : Answers)
    (phase : PostPhase) (input : TaskInput) : Option (Entry × PostPhase) :=
  match phase, input with
  | .arriving body, .ok =>
    some (s,
      if s.isActive then
        match body with
        | .tooLarge => .answered (some statusPayloadTooLarge)
        | .malformed | .envelope none => .answered (some statusBadRequest)
        | .envelope (some envelope) => .entering envelope
      else .answered (some statusNotFound))
  | .arriving _, .aborted | .entering _, .aborted => some (s, .answered none)
  -- `WaitAsync(0)` does not wait.
  | .entering envelope, .ok =>
    if s.inboundGate = 0 then some (s, .answered (some statusConflict))
    else some (s.take k, .gated envelope .checking)
  | .gated envelope phase, input => s.stepGated options answers envelope phase input
  | .closing phase, input =>
    match s.stepCore (utf16 "authentication_invalid") true phase input with
    | some (t, some next) => some (t, .closing next)
    | some (t, none) => some (t, .releasing (some statusUnauthorized))
    | none => none
  | .releasing status, .ok => some (s.release k, .answered status)
  | _, _ => none

end

def stepDelete (s : Entry) (k : Nat) (phase : DeletePhase) (input : TaskInput) :
    Option (Entry × DeletePhase) :=
  match phase, input with
  | .arriving, .ok =>
    some (s, if s.isActive then .closing .waiting else .answered (some statusNotFound))
  | .closing .finished, .ok => some (s, .answered (some statusNoContent))
  | .closing .cancelled, .ok => some (s, .answered none)
  | .closing phase, input =>
    (s.stepClose k (utf16 "client_disconnect") true phase input).map
      (fun next => (next.1, .closing next.2))
  | _, _ => none

def stepBackground (s : Entry) (options : RealtimeOptions) (k : Nat) (phase : BackgroundPhase)
    (input : TaskInput) : Option (Entry × BackgroundPhase) :=
  match phase, input with
  | .waiting, .ok => if s.receiverAttached then some (s, .looping) else none
  | .waiting, .timeout => some (s, .closing (utf16 "http_receiver_timeout") .waiting)
  | .looping, .ok => some (s, .revalidating)
  | .revalidating, .heartbeat answers idle =>
    let revalidated := revalidateHttp s.connection answers
    if !revalidated.1 || idle then
      some ({ s with connection := revalidated.2 },
        .closing (utf16 "http_connection_complete") .waiting)
    else
      some ({ s with
        connection := (revalidated.2.tryEnqueue options
          (heartbeatPing answers.fresh answers.repliedAt)).2 }, .looping)
  | .waiting, .aborted | .looping, .aborted | .revalidating, .aborted =>
    if s.lifetimeCancelled then some (s, .ended) else none
  | .revalidating, .faulted => some (s, .ended)
  -- It then waits for the sender.
  | .closing _ .finished, _ => some (s, .ended)
  | .closing reason phase, input =>
    (s.stepClose k reason false phase input).map (fun next => (next.1, .closing reason next.2))
  | _, _ => none

section

variable [CharTable]

def stepTask (options : RealtimeOptions) (s : Entry) (k : Nat) (task : Task)
    (input : TaskInput) : Option (Entry × Task) :=
  match task with
  | .post answers phase =>
    (s.stepPost options k answers phase input).map (fun next => (next.1, .post answers next.2))
  | .delete phase => (s.stepDelete k phase input).map (fun next => (next.1, .delete next.2))
  | .stream phase =>
    (s.stepClose k (utf16 "http_stream_closed") false phase input).map
      (fun next => (next.1, .stream next.2))
  | .background phase =>
    (s.stepBackground options k phase input).map (fun next => (next.1, .background next.2))

end

end Entry

structure Manager where
  entry : Entry
  tasks : List Task := [.background .waiting]

namespace Manager

/-- What reaches the connection from outside: requests, the first receiver, and the
rest of the gateway, which delivers to it, refreshes its identity and may close it. -/
inductive Label where
  | post (answers : Answers) (body : PostBody)
  | delete
  | streamEnd
  | task (k : Nat) (input : TaskInput)
  | attachReceiver
  | deliver (message : ServerMessageEnvelope)
  | refresh (identity : RealtimeIdentity)
  | change (change : RealtimeConnection.Change)

def spawn (s : Manager) (task : Task) : Manager := { s with tasks := s.tasks ++ [task] }

section

variable [CharTable]

/-- Only the close core disposes the connection. -/
def step (options : RealtimeOptions) : StepFn Manager Label := fun s label =>
  match label with
  | .post answers body => some (s.spawn (.post answers (.arriving body)))
  | .delete => some (s.spawn (.delete .arriving))
  | .streamEnd => some (s.spawn (.stream .waiting))
  | .task k input =>
    match s.tasks[k]? with
    | some task =>
      (s.entry.stepTask options k task input).map
        (fun next => { entry := next.1, tasks := s.tasks.set k next.2 })
    | none => none
  | .attachReceiver => some { s with entry := { s.entry with receiverAttached := true } }
  | .deliver message => some { s with entry := s.entry.enqueue options message }
  | .refresh identity =>
    some { s with
      entry := { s.entry with connection := s.entry.connection.updateIdentity identity } }
  | .change .disposed => none
  | .change change =>
    some { s with
      entry := { s.entry with connection := s.entry.connection.change change } }

end

end Manager

/-! What a task does to the gate and to the connection's place in the manager. -/

/-- How far a task is inside the gate: before the connection was found active (or
after all is done), dispatching for an active connection, or in the close core. -/
inductive Hold where
  | outside
  | inside
  | active
  | core (phase : CorePhase)
  deriving DecidableEq

def CorePhase.isShutting : CorePhase → Bool
  | .cancelling | .requesting | .waiting | .aborting | .disposing => true
  | _ => false

def CloseRequestPhase.hold : CloseRequestPhase → Hold
  | .waiting | .finished | .cancelled => .outside
  | .core phase => .core phase
  | .releasing => .inside

def GatedPhase.hold : GatedPhase → Hold
  | .checking | .activating => .inside
  | .validating | .revalidating | .tracking | .dispatching => .active

def PostPhase.hold : PostPhase → Hold
  | .arriving _ | .entering _ | .answered _ => .outside
  | .gated _ phase => phase.hold
  | .closing phase => .core phase
  | .releasing _ => .inside

def DeletePhase.hold : DeletePhase → Hold
  | .closing phase => phase.hold
  | _ => .outside

def BackgroundPhase.hold : BackgroundPhase → Hold
  | .closing _ phase => phase.hold
  | _ => .outside

def Task.hold : Task → Hold
  | .post _ phase => phase.hold
  | .delete phase => phase.hold
  | .stream phase => phase.hold
  | .background phase => phase.hold

/-- `DispatchAsync` has found the connection active and works on the command. -/
def Task.dispatches : Task → Bool
  | .post _ (.gated _ .validating) | .post _ (.gated _ .revalidating)
  | .post _ (.gated _ .tracking) | .post _ (.gated _ .dispatching) => true
  | _ => false

namespace Entry

/-- The gate with its history, what the close core has done, and the subscriptions. -/
structure View where
  inboundGate : Nat
  taken : List Nat
  released : List Nat
  present : Bool
  registered : Bool
  activeConnections : Int
  closedReasons : List Text
  disposals : Nat
  subscriptions : List Text

def view (s : Entry) : View where
  inboundGate := s.inboundGate
  taken := s.taken
  released := s.released
  present := s.present
  registered := s.registered
  activeConnections := s.activeConnections
  closedReasons := s.closedReasons
  disposals := s.disposals
  subscriptions := s.connection.subscriptions

/-- The moves of task `k` against the gate and in the close core. -/
inductive Move (k : Nat) : View → Hold → View → Hold → Prop where
  | quiet (v : View) (hold : Hold) : Move k v hold v hold
  | enter (v : View) (hold : Hold) (h : v.inboundGate ≠ 0)
    (hh : hold = .inside ∨ hold = .core .removing) :
    Move k v .outside { v with inboundGate := v.inboundGate - 1, taken := v.taken ++ [k] } hold
  | activate (v : View) (h : v.present = true) : Move k v .inside v .active
  | deactivate (v : View) (subscriptions : List Text) :
    Move k v .active { v with subscriptions } .inside
  | fail (v : View) : Move k v .active v (.core .removing)
  | remove (v : View) (h : v.present = true) :
    Move k v (.core .removing) { v with present := false } (.core .unregistering)
  | gone (v : View) (h : v.present = false) : Move k v (.core .removing) v .inside
  | unregister (v : View) (reason : Text) (h : v.registered = true) :
    Move k v (.core .unregistering)
      { v with
        registered := false
        activeConnections := v.activeConnections - 1
        closedReasons := v.closedReasons ++ [reason] } (.core .cancelling)
  | unregistered (v : View) (h : v.registered = false) :
    Move k v (.core .unregistering) v (.core .cancelling)
  | shut (v : View) {phase next : CorePhase} (h : phase.isShutting = true)
    (hn : next.isShutting = true) : Move k v (.core phase) v (.core next)
  | dispose (v : View) :
    Move k v (.core .disposing) { v with disposals := v.disposals + 1, subscriptions := [] }
      (.core .ending)
  | finish (v : View) : Move k v (.core .ending) v .inside
  | leave (v : View) :
    Move k v .inside
      { v with inboundGate := v.inboundGate + 1, released := v.released ++ [k] } .outside

theorem view_connection (s : Entry) {connection : RealtimeConnection}
    (h : connection.subscriptions = s.connection.subscriptions) :
    view { s with connection } = s.view := by
  simp [view, h]

theorem requestClose_subscriptions (connection : RealtimeConnection) :
    connection.requestClose.subscriptions = connection.subscriptions := by
  unfold RealtimeConnection.requestClose
  split <;> rfl

theorem abort_subscriptions (connection : RealtimeConnection) :
    (abort connection).subscriptions = connection.subscriptions := by
  unfold abort
  split
  · rfl
  · exact requestClose_subscriptions connection

theorem revalidateHttp_subscriptions (connection : RealtimeConnection) (answers : Answers) :
    (revalidateHttp connection answers).2.subscriptions = connection.subscriptions := by
  fun_cases revalidateHttp connection answers <;> rfl

def after : Option CorePhase → Hold
  | some phase => .core phase
  | none => .inside

variable {s t : Entry} {k : Nat} {reason : Text} {cancellable : Bool} {input : TaskInput}

theorem move_of_stepCore {phase : CorePhase} {next : Option CorePhase} :
    s.stepCore reason cancellable phase input = some (t, next) →
      Move k s.view (.core phase) t.view (after next) := by
  fun_cases stepCore s reason cancellable phase input <;> intro h <;> cases h
  case case1 hp => exact .remove s.view hp
  case case2 hp => exact .gone s.view (Bool.eq_false_iff.mpr hp)
  case case3 =>
    by_cases hr : s.registered = true
    · simp only [unregister, hr, if_true]
      exact .unregister s.view reason hr
    · simp only [unregister, hr]
      exact .unregistered s.view (Bool.eq_false_iff.mpr hr)
  case case4 => exact .shut s.view rfl rfl
  case case5 => exact .shut s.view rfl rfl
  case case6 =>
    rw [view_connection _ (requestClose_subscriptions s.connection)]
    exact .shut s.view rfl rfl
  case case7 =>
    rw [view_connection _ rfl]
    exact .shut s.view rfl rfl
  case case8 =>
    rw [view_connection _ rfl]
    exact .shut s.view rfl rfl
  case case10 =>
    rw [view_connection _ (abort_subscriptions s.connection)]
    exact .shut s.view rfl rfl
  case case11 => exact .dispose s.view
  case case12 =>
    have hc : (if s.connection.transportOpen = true then
        s.connection.requestClose.change .transportEnded else s.connection).subscriptions =
          s.connection.subscriptions := by
      split
      · exact requestClose_subscriptions s.connection
      · rfl
    rw [view_connection _ hc]
    exact .finish s.view

theorem move_of_stepClose {phase next : CloseRequestPhase} :
    s.stepClose k reason cancellable phase input = some (t, next) →
      Move k s.view phase.hold t.view next.hold := by
  fun_cases stepClose s k reason cancellable phase input <;> intro h <;> cases h
  case case2 hg => exact .enter s.view _ hg (.inr rfl)
  case case3 => exact .quiet s.view .outside
  case case5 hc => exact move_of_stepCore hc
  case case6 hc => exact move_of_stepCore hc
  case case8 => exact .leave s.view

theorem view_enqueue (options : RealtimeOptions) (s : Entry) (message : ServerMessageEnvelope) :
    (s.enqueue options message).view = s.view := by
  simp [view, enqueue, RealtimeConnection.tryEnqueue_subscriptions]

theorem move_of_stepDelete {phase next : DeletePhase} :
    s.stepDelete k phase input = some (t, next) → Move k s.view phase.hold t.view next.hold := by
  fun_cases stepDelete s k phase input <;> intro h
  case case4 =>
    obtain ⟨⟨_, _⟩, hs, he⟩ := map_eq_some_iff.mp h
    cases he
    exact move_of_stepClose hs
  all_goals cases h
  case case1 => split <;> exact .quiet s.view .outside
  all_goals exact .quiet s.view .outside

theorem move_of_stepBackground {options : RealtimeOptions} {phase next : BackgroundPhase} :
    s.stepBackground options k phase input = some (t, next) →
      Move k s.view phase.hold t.view next.hold := by
  fun_cases stepBackground s options k phase input <;> intro h
  case case15 =>
    obtain ⟨⟨_, _⟩, hs, he⟩ := map_eq_some_iff.mp h
    cases he
    exact move_of_stepClose hs
  all_goals cases h
  case case5 answers _ _ _ =>
    rw [view_connection _ (revalidateHttp_subscriptions s.connection answers)]
    exact .quiet s.view .outside
  case case6 answers _ revalidated _ =>
    have hs : (revalidated.2.tryEnqueue options
        (heartbeatPing answers.fresh answers.repliedAt)).2.subscriptions =
          s.connection.subscriptions := by
      rw [RealtimeConnection.tryEnqueue_subscriptions]
      exact revalidateHttp_subscriptions s.connection answers
    rw [view_connection s hs]
    exact .quiet s.view .outside
  all_goals exact .quiet s.view .outside

section

variable [CharTable] {options : RealtimeOptions} {answers : Answers}

variable {s t : Entry} {k : Nat} {input : TaskInput}

theorem move_of_stepGated {envelope : MessageEnvelope} {phase : GatedPhase} {next : PostPhase} :
    s.stepGated options answers envelope phase input = some (t, next) →
      Move k s.view phase.hold t.view next.hold := by
  fun_cases stepGated s options answers envelope phase input <;> intro h <;> cases h
  case case1 =>
    split
    · exact .quiet s.view .inside
    · exact .quiet s.view .inside
  case case2 =>
    split
    · next ha => exact .activate s.view (Bool.and_eq_true_iff.mp ha).1
    · exact .quiet s.view .inside
  case case3 =>
    rw [view_enqueue]
    exact .deactivate s.view _
  case case4 => exact .quiet s.view .active
  case case5 =>
    rw [view_connection _ (revalidateHttp_subscriptions s.connection answers)]
    exact .quiet s.view .active
  case case6 => exact .fail s.view
  case case7 =>
    rw [view_connection _ (RealtimeConnection.tryTrackCorrelation_subscriptions options _ _)]
    exact .quiet s.view .active
  case case8 =>
    rw [view_enqueue,
      view_connection _ (RealtimeConnection.tryTrackCorrelation_subscriptions options _ _)]
    exact .deactivate s.view _
  all_goals exact .deactivate s.view _

theorem move_of_stepPost {phase next : PostPhase} :
    s.stepPost options k answers phase input = some (t, next) →
      Move k s.view phase.hold t.view next.hold := by
  fun_cases stepPost s options k answers phase input <;> intro h
  case case6 => exact move_of_stepGated h
  all_goals cases h
  case case1 =>
    split
    · split <;> exact .quiet s.view .outside
    · exact .quiet s.view .outside
  case case2 | case3 | case4 => exact .quiet s.view .outside
  case case5 hg => exact .enter s.view _ hg (.inl rfl)
  case case7 hc => exact move_of_stepCore hc
  case case8 hc => exact move_of_stepCore hc
  case case10 => exact .leave s.view

theorem move_of_stepTask {task next : Task} (h : s.stepTask options k task input = some (t, next)) :
    Move k s.view task.hold t.view next.hold := by
  cases task with
  | post answers phase =>
    obtain ⟨⟨_, _⟩, hs, he⟩ := map_eq_some_iff.mp h
    cases he
    exact move_of_stepPost hs
  | delete phase =>
    obtain ⟨⟨_, _⟩, hs, he⟩ := map_eq_some_iff.mp h
    cases he
    exact move_of_stepDelete hs
  | stream phase =>
    obtain ⟨⟨_, _⟩, hs, he⟩ := map_eq_some_iff.mp h
    cases he
    exact move_of_stepClose hs
  | background phase =>
    obtain ⟨⟨_, _⟩, hs, he⟩ := map_eq_some_iff.mp h
    cases he
    exact move_of_stepBackground hs

end

/-! One task holds the gate, and the close core goes through its stages once. -/

inductive Stage where
  | live | removed | unregistered | disposed

def View.At (v : View) : Stage → Prop
  | .live => v.present = true ∧ v.registered = true ∧ v.activeConnections = 1 ∧
      v.closedReasons.length = 0 ∧ v.disposals = 0
  | .removed => v.present = false ∧ v.registered = true ∧ v.activeConnections = 1 ∧
      v.closedReasons.length = 0 ∧ v.disposals = 0
  | .unregistered => v.present = false ∧ v.registered = false ∧ v.activeConnections = 0 ∧
      v.closedReasons.length = 1 ∧ v.disposals = 0
  | .disposed => v.present = false ∧ v.registered = false ∧ v.activeConnections = 0 ∧
      v.closedReasons.length = 1 ∧ v.disposals = 1 ∧ v.subscriptions = []

def View.Settled (v : View) : Prop := v.At .live ∨ v.At .disposed

end Entry

namespace Hold

def Fits (v : Entry.View) : Hold → Prop
  | .outside => True
  | .inside | .core .removing => v.Settled
  | .active => v.At .live
  | .core .unregistering => v.At .removed
  | .core .ending => v.At .disposed
  | .core _ => v.At .unregistered

def count : Hold → Nat
  | .outside => 0
  | _ => 1

variable {hold : Hold}

theorem count_eq_zero : hold.count = 0 ↔ hold = .outside := by
  cases hold <;> simp [count]

theorem count_eq_one : hold.count = 1 ↔ hold ≠ .outside := by
  cases hold <;> simp [count]

end Hold

namespace Entry

variable {v v' : View} {hold hold' : Hold} {k : Nat}

theorem fits_shutting {phase : CorePhase} (h : phase.isShutting = true) :
    (Hold.core phase).Fits v ↔ v.At .unregistered := by
  cases phase <;> first | rfl | cases h

theorem Move.fits (h : Move k v hold v' hold') (hfr : v.inboundGate ≠ 0 → v.Settled)
    (hf : hold.Fits v) : hold'.Fits v' := by
  cases h with
  | quiet => exact hf
  | enter _ hg hh =>
    have hs := hfr hg
    rcases hh with rfl | rfl <;> exact hs
  | activate hp =>
    rcases hf with hf | hf
    · exact hf
    · exact absurd hp (by simp [hf.1])
  | deactivate => exact .inl hf
  | fail => exact .inl hf
  | remove hp =>
    rcases hf with hf | hf
    · exact ⟨rfl, hf.2⟩
    · exact absurd hp (by simp [hf.1])
  | gone => exact hf
  | unregister reason =>
    obtain ⟨hp, -, ha, hc, hd⟩ := hf
    exact ⟨hp, rfl, by simp [ha], by simp [hc], hd⟩
  | unregistered hr => exact absurd hf.2.1 (by simp [hr])
  | shut hp hn => exact (fits_shutting hn).mpr ((fits_shutting hp).mp hf)
  | dispose =>
    obtain ⟨hp, hr, ha, hc, hd⟩ := hf
    exact ⟨hp, hr, ha, hc, by simp [hd], rfl⟩
  | finish => exact .inr hf
  | leave => trivial

theorem Move.gate (h : Move k v hold v' hold') :
    v'.inboundGate + hold'.count = v.inboundGate + hold.count := by
  cases h with
  | enter _ hg hh =>
    rcases hh with rfl | rfl <;> simp only [Hold.count] <;> omega
  | _ => rfl

theorem Move.free (h : Move k v hold v' hold') (hg : v.inboundGate + hold.count ≤ 1)
    (hfr : v.inboundGate ≠ 0 → v.Settled) (hf : hold.Fits v) (hg' : v'.inboundGate ≠ 0) :
    v'.Settled := by
  cases h with
  | quiet => exact hfr hg'
  | leave => exact hf
  | enter => simp only [Hold.count] at hg hg'; omega
  | _ => simp only [Hold.count] at hg hg'; omega

theorem Move.view_of_outside (h : Move k v .outside v' hold') :
    v' = v ∨ v.inboundGate ≠ 0 := by
  cases h with
  | quiet => exact .inl rfl
  | enter _ hg => exact .inr hg

theorem Move.history (h : Move k v hold v' hold') {j : Nat} :
    v'.taken.count j + v.released.count j + (if j = k then hold.count else 0) =
      v.taken.count j + v'.released.count j + (if j = k then hold'.count else 0) := by
  cases h with
  | enter _ _ hh =>
    by_cases hj : j = k
    · subst hj
      rcases hh with rfl | rfl <;> simp [Hold.count] <;> omega
    · simp [hj, Ne.symm hj]
  | leave =>
    by_cases hj : j = k
    · subst hj
      simp [Hold.count]
      omega
    · simp [hj, Ne.symm hj]
  | _ => simp [Hold.count]

end Entry

namespace Manager

open Entry

def holdCount (s : Manager) (k : Nat) : Nat :=
  match s.tasks[k]? with
  | some task => task.hold.count
  | none => 0

structure Serial (s : Manager) : Prop where
  gate : s.entry.inboundGate + (s.tasks.map (·.hold.count)).sum = 1
  fits : ∀ task ∈ s.tasks, task.hold.Fits s.entry.view
  free : s.entry.inboundGate ≠ 0 → s.entry.view.Settled
  history : ∀ k, s.entry.taken.count k = s.entry.released.count k + s.holdCount k

variable {s t : Manager} {k : Nat} {hold : Hold}

variable {task next : Task} {j : Nat} {options : RealtimeOptions} {label : Label}

theorem holdCount_le (hj : s.tasks[j]? = some task) :
    task.hold.count ≤ (s.tasks.map (·.hold.count)).sum :=
  le_sum_map (fun task : Task => task.hold.count) hj

theorem holdCount_set (hk : k < s.tasks.length) (ht : t.tasks = s.tasks.set k next) :
    t.holdCount j = if j = k then next.hold.count else s.holdCount j := by
  unfold holdCount
  rw [ht]
  by_cases hj : j = k
  · subst hj
    simp [hk]
  · simp [hj, getElem?_set_ne (Ne.symm hj)]

theorem Serial.unique (h : s.Serial) {i j : Nat} {task other : Task}
    (hi : s.tasks[i]? = some task) (hj : s.tasks[j]? = some other)
    (hc : task.hold.count = 1) (ho : other.hold.count = 1) : i = j := by
  by_contra hne
  have hsum := sum_map_set (fun task : Task => task.hold.count) hi (.stream .finished)
  have hj' : (s.tasks.set i (.stream .finished))[j]? = some other := by
    rw [getElem?_set_ne hne]
    exact hj
  have hle := le_sum_map (fun task : Task => task.hold.count) hj'
  have hze : (Task.stream .finished).hold.count = 0 := rfl
  have hga := h.gate
  omega

theorem Serial.move (h : s.Serial) (hk : s.tasks[k]? = some task)
    (ht : t.tasks = s.tasks.set k next) (hm : Move k s.entry.view task.hold t.entry.view next.hold) :
    t.Serial := by
  have hsum := sum_map_set (fun task : Task => task.hold.count) hk next
  have hle := holdCount_le hk
  have hga := h.gate
  have hmg : t.entry.inboundGate + next.hold.count =
      s.entry.inboundGate + task.hold.count := hm.gate
  have hfit := h.fits task (mem_of_getElem? hk)
  refine ⟨?_, ?_, ?_, ?_⟩
  · rw [ht]
    omega
  · intro other ho
    rw [ht] at ho
    obtain ⟨j, hj⟩ := mem_iff_getElem?.mp ho
    rcases getElem?_set_cases hj with ⟨rfl, rfl⟩ | ⟨hne, hj⟩
    · exact hm.fits h.free hfit
    · by_cases hout : other.hold = .outside
      · rw [hout]
        trivial
      · -- Another task holds the gate, so this one does not hold it and cannot enter.
        have hot := Hold.count_eq_one.mpr hout
        have hfi := h.fits other (mem_of_getElem? hj)
        have hta : task.hold = .outside := by
          by_contra hin
          exact hne (h.unique hj hk hot (Hold.count_eq_one.mpr hin))
        rw [hta] at hm
        rcases hm.view_of_outside with hv | hg
        · rw [hv]
          exact hfi
        · have hle' := holdCount_le hj
          change s.entry.inboundGate ≠ 0 at hg
          omega
  · exact hm.free (Nat.le_trans (Nat.add_le_add_left hle _) (Nat.le_of_eq hga)) h.free hfit
  · intro j
    have hmh := hm.history (j := j)
    have hj := h.history j
    change t.entry.taken.count j + s.entry.released.count j + _ =
      s.entry.taken.count j + t.entry.released.count j + _
      at hmh
    rw [holdCount_set (List.getElem?_eq_some_iff.mp hk).1 ht]
    by_cases hjk : j = k
    · subst hjk
      simp only [holdCount, hk] at hj
      simp only [if_true] at hmh ⊢
      omega
    · simp only [hjk, if_false] at hmh ⊢
      omega

theorem Serial.of_view (h : s.Serial) (ht : t.tasks = s.tasks) (hv : t.entry.view = s.entry.view) :
    t.Serial := by
  obtain ⟨hg, hta, hre, -⟩ := View.mk.inj hv
  refine ⟨?_, ?_, ?_, ?_⟩
  · rw [ht, hg]
    exact h.gate
  · rw [ht, hv]
    exact h.fits
  · rw [hg, hv]
    exact h.free
  · intro k
    rw [hta, hre, holdCount, ht]
    exact h.history k

theorem Serial.spawn (h : s.Serial) (ho : task.hold = .outside) :
    (s.spawn task).Serial := by
  have hz := Hold.count_eq_zero.mpr ho
  refine ⟨?_, ?_, h.free, ?_⟩
  · simpa [Manager.spawn, hz] using h.gate
  · intro other hm
    rcases mem_append.mp hm with hm | hm
    · exact h.fits other hm
    · rw [mem_singleton.mp hm, ho]
      trivial
  · intro k
    have hk : (s.spawn task).holdCount k = s.holdCount k := by
      unfold holdCount Manager.spawn
      by_cases hlt : k < s.tasks.length
      · rw [getElem?_append_left hlt]
      · rw [getElem?_eq_none (Nat.le_of_not_lt hlt)]
        by_cases he : k = s.tasks.length
        · simp [he, hz]
        · rw [getElem?_eq_none (by simp; omega)]
    rw [hk]
    exact h.history k

theorem change_subscriptions_of_ne {change : RealtimeConnection.Change}
    (h : change ≠ .disposed) (connection : RealtimeConnection) :
    (connection.change change).subscriptions = connection.subscriptions := by
  cases change with
  | closeRequested => exact requestClose_subscriptions connection
  | disposed => exact absurd rfl h
  | _ => rfl

theorem Serial.step [CharTable] (h : s.Serial) : step options s label = some t → t.Serial := by
  fun_cases Manager.step options s label <;> intro ht
  case case4 hk =>
    obtain ⟨⟨entry, next⟩, hs, he⟩ := map_eq_some_iff.mp ht
    cases he
    exact h.move hk rfl (move_of_stepTask hs)
  all_goals cases ht
  case case1 | case2 | case3 => exact h.spawn rfl
  case case6 => exact h.of_view rfl rfl
  case case7 message => exact h.of_view rfl (view_enqueue options s.entry message)
  case case8 => exact h.of_view rfl rfl
  case case10 hc => exact h.of_view rfl (view_connection _ (change_subscriptions_of_ne hc _))

theorem Serial.run [CharTable] {labels : List Label} (h : s.Serial)
    (ht : (Manager.step options).run s labels = some t) : t.Serial :=
  StepFn.run_induct (P := Serial) (fun _ _ _ hs ht => hs.step ht) h ht

theorem serial_created (connection : RealtimeConnection) :
    Serial { entry := { connection } } := by
  refine ⟨rfl, ?_, ?_, ?_⟩
  · simp [Task.hold, BackgroundPhase.hold, Hold.Fits]
  · exact fun _ => .inl ⟨rfl, rfl, rfl, rfl, rfl⟩
  · intro k
    unfold holdCount
    cases k <;> rfl

theorem Serial.exists_holder (h : s.Serial) (hg : s.entry.inboundGate = 0) :
    ∃ task ∈ s.tasks, task.hold ≠ .outside := by
  by_contra hno
  push Not at hno
  have hze : (s.tasks.map (·.hold.count)).sum = 0 := by
    rw [sum_eq_zero_iff]
    intro n hn
    obtain ⟨task, hm, rfl⟩ := List.mem_map.mp hn
    exact Hold.count_eq_zero.mpr (hno task hm)
  have hga := h.gate
  omega

theorem Serial.settled (h : s.Serial)
    (hco : ∀ task ∈ s.tasks, ∀ phase, task.hold ≠ .core phase) : s.entry.view.Settled := by
  by_cases hg : s.entry.inboundGate = 0
  · obtain ⟨task, hm, hne⟩ := h.exists_holder hg
    have hf := h.fits task hm
    cases hh : task.hold with
    | outside => exact absurd hh hne
    | inside => rwa [hh] at hf
    | active =>
      rw [hh] at hf
      exact .inl hf
    | core phase => exact absurd hh (hco task hm phase)
  · exact h.free hg

theorem Serial.stage (h : s.Serial) : ∃ stage, s.entry.view.At stage := by
  have hse (hs : s.entry.view.Settled) : ∃ stage, s.entry.view.At stage :=
    hs.elim (fun hl => ⟨.live, hl⟩) (fun hd => ⟨.disposed, hd⟩)
  by_cases hco : ∀ task ∈ s.tasks, ∀ phase, task.hold ≠ .core phase
  · exact hse (h.settled hco)
  · push Not at hco
    obtain ⟨task, hm, phase, hh⟩ := hco
    have hf := h.fits task hm
    rw [hh] at hf
    cases phase with
    | removing => exact hse hf
    | unregistering => exact ⟨.removed, hf⟩
    | ending => exact ⟨.disposed, hf⟩
    | _ => exact ⟨.unregistered, hf⟩

theorem Serial.live_of_present (h : s.Serial) (hp : s.entry.present = true) :
    s.entry.registered = true ∧ s.entry.activeConnections = 1 ∧
      s.entry.closedReasons.length = 0 ∧ s.entry.disposals = 0 := by
  obtain ⟨stage, hst⟩ := h.stage
  cases stage with
  | live => exact hst.2
  | _ => exact absurd hp (by simp [show s.entry.present = false from hst.1])

theorem Serial.effects_le_one (h : s.Serial) :
    s.entry.closedReasons.length ≤ 1 ∧ s.entry.disposals ≤ 1 := by
  obtain ⟨stage, hst⟩ := h.stage
  cases stage with
  | live | removed | unregistered | disposed =>
    obtain ⟨-, -, -, hc, hd⟩ := hst
    simp only [view] at hc hd
    omega

theorem hold_of_dispatches : task.dispatches = true → task.hold = .active := by
  fun_cases Task.dispatches task <;> simp [Task.hold, PostPhase.hold, GatedPhase.hold]

theorem Serial.not_dispatches (h : s.Serial) (hp : s.entry.present = false) (task : Task)
    (hm : task ∈ s.tasks) : task.dispatches = false := by
  by_contra hd
  have hf := h.fits task hm
  rw [hold_of_dispatches (Bool.not_eq_false _ ▸ hd)] at hf
  have hli : s.entry.present = true := hf.1
  simp [hp] at hli

theorem present_of_move {k : Nat} {v v' : View} {hold hold' : Hold} (h : Move k v hold v' hold')
    (hp : v.present = false) : v'.present = false := by
  cases h with
  | remove => rfl
  | _ => exact hp

theorem present_of_step [CharTable] (hp : s.entry.present = false) : step options s label = some t →
    t.entry.present = false := by
  fun_cases Manager.step options s label <;> intro ht
  case case4 hk =>
    obtain ⟨⟨entry, next⟩, hs, he⟩ := map_eq_some_iff.mp ht
    cases he
    exact present_of_move (move_of_stepTask hs) hp
  all_goals cases ht
  all_goals exact hp

/-! A task that holds the gate can go on by itself until it releases it. -/

end Manager

def CorePhase.remaining : CorePhase → Nat
  | .removing => 8
  | .unregistering => 7
  | .cancelling => 6
  | .requesting => 5
  | .waiting => 4
  | .aborting => 3
  | .disposing => 2
  | .ending => 1

def CloseRequestPhase.remaining : CloseRequestPhase → Nat
  | .core phase => phase.remaining + 1
  | .releasing => 1
  | _ => 0

def GatedPhase.remaining : GatedPhase → Nat
  | .checking => 15
  | .activating => 14
  | .validating => 13
  | .revalidating => 12
  | .tracking => 11
  | .dispatching => 10

def PostPhase.remaining : PostPhase → Nat
  | .gated _ phase => phase.remaining
  | .closing phase => phase.remaining + 1
  | .releasing _ => 1
  | _ => 0

def Task.remaining : Task → Nat
  | .post _ phase => phase.remaining
  | .delete (.closing phase) | .stream phase | .background (.closing _ phase) => phase.remaining
  | _ => 0

namespace Entry

theorem stepCore_ok (s : Entry) (reason : Text) (cancellable : Bool) (phase : CorePhase) :
    ∃ t next, s.stepCore reason cancellable phase .ok = some (t, next) ∧
      next.elim 0 CorePhase.remaining < phase.remaining := by
  cases phase with
  | removing | requesting =>
    simp only [stepCore]
    split <;> exact ⟨_, _, rfl, by decide⟩
  | _ => exact ⟨_, _, rfl, by decide⟩

theorem stepClose_ok (s : Entry) (k : Nat) (reason : Text) (cancellable : Bool)
    {phase : CloseRequestPhase} (h : phase.hold ≠ .outside) :
    ∃ t next, s.stepClose k reason cancellable phase .ok = some (t, next) ∧
      next.remaining < phase.remaining := by
  cases phase with
  | core phase =>
    obtain ⟨t, next, hs, hr⟩ := s.stepCore_ok reason cancellable phase
    simp only [stepClose, hs]
    cases next with
    | none => exact ⟨_, _, rfl, Nat.succ_lt_succ hr⟩
    | some next => exact ⟨_, _, rfl, Nat.succ_lt_succ hr⟩
  | releasing => exact ⟨_, _, rfl, by decide⟩
  | _ => exact absurd rfl h

section

variable [CharTable] (options : RealtimeOptions) (answers : Answers)

theorem stepGated_ok (s : Entry) (envelope : MessageEnvelope) (phase : GatedPhase) :
    ∃ t next, s.stepGated options answers envelope phase .ok = some (t, next) ∧
      next.remaining < phase.remaining := by
  cases phase with
  | checking | activating =>
    refine ⟨_, _, rfl, ?_⟩
    split <;> simp [PostPhase.remaining, GatedPhase.remaining]
  | dispatching => exact ⟨_, _, rfl, by decide⟩
  | _ =>
    simp only [stepGated]
    split <;> exact ⟨_, _, rfl, by simp [PostPhase.remaining, GatedPhase.remaining,
      CorePhase.remaining]⟩

theorem stepPost_ok (s : Entry) (k : Nat) {phase : PostPhase} (h : phase.hold ≠ .outside) :
    ∃ t next, s.stepPost options k answers phase .ok = some (t, next) ∧
      next.remaining < phase.remaining := by
  cases phase with
  | gated envelope phase => exact s.stepGated_ok options answers envelope phase
  | closing phase =>
    obtain ⟨t, next, hs, hr⟩ := s.stepCore_ok (utf16 "authentication_invalid") true phase
    simp only [stepPost, hs]
    cases next with
    | none => exact ⟨_, _, rfl, Nat.succ_lt_succ hr⟩
    | some next => exact ⟨_, _, rfl, Nat.succ_lt_succ hr⟩
  | releasing status => exact ⟨_, _, rfl, Nat.zero_lt_one⟩
  | _ => exact absurd rfl h

theorem stepTask_ok (s : Entry) (k : Nat) {task : Task} (h : task.hold ≠ .outside) :
    ∃ t next, s.stepTask options k task .ok = some (t, next) ∧
      next.remaining < task.remaining := by
  cases task with
  | post answers phase =>
    obtain ⟨t, next, hs, hr⟩ := s.stepPost_ok options answers k h
    exact ⟨t, .post answers next, by simp [stepTask, hs], hr⟩
  | delete phase =>
    cases phase with
    | closing phase =>
      obtain ⟨t, next, hs, hr⟩ := s.stepClose_ok k (utf16 "client_disconnect") true h
      refine ⟨t, .delete (.closing next), ?_, hr⟩
      cases phase with
      | core | releasing => simp [stepTask, stepDelete, hs]
      | _ => exact absurd rfl h
    | _ => exact absurd rfl h
  | stream phase =>
    obtain ⟨t, next, hs, hr⟩ := s.stepClose_ok k (utf16 "http_stream_closed") false h
    exact ⟨t, .stream next, by simp [stepTask, hs], hr⟩
  | background phase =>
    cases phase with
    | closing reason phase =>
      obtain ⟨t, next, hs, hr⟩ := s.stepClose_ok k reason false h
      refine ⟨t, .background (.closing reason next), ?_, hr⟩
      cases phase with
      | core | releasing => simp [stepTask, stepBackground, hs]
      | _ => exact absurd rfl h
    | _ => exact absurd rfl h

end

end Entry

namespace Manager

theorem exists_release [CharTable] (options : RealtimeOptions) {k : Nat} {task : Task}
    {s : Manager} (hk : s.tasks[k]? = some task) :
    ∃ n t next, (step options).run s (List.replicate n (.task k .ok)) = some t ∧
      t.tasks[k]? = some next ∧ next.hold = .outside := by
  induction hn : task.remaining using Nat.strong_induction_on generalizing s task with
  | _ n ih =>
    by_cases ho : task.hold = .outside
    · exact ⟨0, s, task, rfl, hk, ho⟩
    · obtain ⟨entry, next, hs, hr⟩ := s.entry.stepTask_ok options k ho
      have hlt := (List.getElem?_eq_some_iff.mp hk).1
      have hst : step options s (.task k .ok) =
          some { entry, tasks := s.tasks.set k next } := by
        simp [step, hk, hs]
      obtain ⟨m, t, last, hrun, hl, hout⟩ :=
        ih next.remaining (hn ▸ hr) (s := { entry, tasks := s.tasks.set k next })
          (getElem?_set_self hlt) rfl
      refine ⟨m + 1, t, last, ?_, hl, hout⟩
      rw [replicate_succ, StepFn.run_cons, hst]
      exact hrun

theorem fallback_commands_serialized [CharTable] {options : RealtimeOptions}
    {connection : RealtimeConnection} {labels : List Label} {s : Manager}
    (h : (step options).run { entry := { connection } } labels = some s) :
    (∀ (i j : Nat) (task other : Task), s.tasks[i]? = some task → s.tasks[j]? = some other →
      task.dispatches = true → other.dispatches = true → i = j) ∧
    (s.entry.present = false → ∀ (later : List Label) (t : Manager),
      (step options).run s later = some t → ∀ task ∈ t.tasks, task.dispatches = false) ∧
    (s.entry.present = true → s.entry.registered = true ∧ s.entry.activeConnections = 1 ∧
      s.entry.closedReasons = [] ∧ s.entry.disposals = 0) ∧
    (s.entry.closedReasons.length ≤ 1 ∧ s.entry.disposals ≤ 1) ∧
    (s.entry.present = false → (∀ task ∈ s.tasks, ∀ phase, task.hold ≠ .core phase) →
      s.entry.registered = false ∧ s.entry.activeConnections = 0 ∧
        s.entry.closedReasons.length = 1 ∧ s.entry.disposals = 1 ∧
        s.entry.connection.subscriptions = []) ∧
    (∀ k, s.entry.taken.count k = s.entry.released.count k + s.holdCount k) ∧
    (∀ k, ∃ n t, (step options).run s (List.replicate n (.task k .ok)) = some t ∧
      t.entry.taken.count k = t.entry.released.count k) := by
  have hs := (serial_created connection).run h
  refine ⟨?_, ?_, ?_, ?_, ?_, hs.history, ?_⟩
  · intro i j task other hi hj hd hd'
    have hc : task.hold.count = 1 := by rw [hold_of_dispatches hd]; rfl
    have hc' : other.hold.count = 1 := by rw [hold_of_dispatches hd']; rfl
    exact hs.unique hi hj hc hc'
  · intro hp later t ht
    have hpt : t.entry.present = false :=
      StepFn.run_induct (P := fun s => s.entry.present = false)
        (fun _ _ _ hp ht => present_of_step hp ht) hp ht
    exact (hs.run ht).not_dispatches hpt
  · intro hp
    obtain ⟨hr, ha, hc, hd⟩ := hs.live_of_present hp
    exact ⟨hr, ha, eq_nil_of_length_eq_zero hc, hd⟩
  · exact hs.effects_le_one
  · intro hp hco
    rcases hs.settled hco with hl | hd
    · exact absurd hl.1 (by simp [Entry.view, hp])
    · exact hd.2
  · intro k
    cases hk : s.tasks[k]? with
    | none =>
      refine ⟨0, s, rfl, ?_⟩
      have hh := hs.history k
      simpa [holdCount, hk] using hh
    | some task =>
      obtain ⟨n, t, next, hrun, hn, ho⟩ := exists_release options hk
      have hh := (hs.run hrun).history k
      refine ⟨n, t, hrun, ?_⟩
      simpa [holdCount, hn, ho, Hold.count] using hh

/-- A second post and a `DELETE` arrive while a command is dispatched; the third post
comes after the close. -/
def exampleLabels : List Label :=
  [[.post exampleAnswers (.envelope (some examplePublish))], List.replicate 7 (.task 1 .ok),
    [.delete, .task 2 .ok, .post exampleAnswers (.envelope (some examplePublish))],
    List.replicate 2 (.task 3 .ok), List.replicate 2 (.task 1 .ok), List.replicate 10 (.task 2 .ok),
    [.post exampleAnswers (.envelope (some examplePublish)), .task 4 .ok]].flatten

theorem fallback_commands_serialized_delete :
    let _ := asciiTable
    ∃ s, (step {}).run { entry := { connection := exampleConnection } } exampleLabels = some s ∧
      s.entry.closedReasons = [utf16 "client_disconnect"] ∧ s.entry.taken = [1, 2] ∧
      s.entry.taken.count 2 = s.entry.released.count 2 + s.holdCount 2 := by
  intro table
  have hrun : ∃ s,
      (step {}).run { entry := { connection := exampleConnection } } exampleLabels = some s ∧
      s.entry.closedReasons = [utf16 "client_disconnect"] ∧ s.entry.taken = [1, 2] := by
    decide +kernel
  obtain ⟨s, hs, hre, hta⟩ := hrun
  exact ⟨s, hs, hre, hta, (fallback_commands_serialized hs).2.2.2.2.2.1 2⟩

end Manager

namespace Entry

section

variable [CharTable] (options : RealtimeOptions) (k : Nat) (answers : Answers)

def runPost : Nat → Entry → PostPhase → Option (Entry × PostPhase)
  | 0, s, phase => some (s, phase)
  | n + 1, s, phase =>
    (s.stepPost options k answers phase .ok).bind (fun next => runPost n next.1 next.2)

theorem runPost_tracking (s : Entry) (envelope : MessageEnvelope) :
    ∃ n t, runPost options k answers n s (.gated envelope .tracking) =
        some (t, .answered (some statusAccepted)) ∧
      t.connection = enqueueReply options
        (trackAndDispatch options s.connection envelope answers) := by
  by_cases ht : (s.connection.tryTrackCorrelation options (envelope.correlationId.getD [])).1 = true
  · refine ⟨3, _, by simp [runPost, stepPost, stepGated, ht]; rfl, ?_⟩
    simp [trackAndDispatch, ht, release]
  · refine ⟨2, _, by simp [runPost, stepPost, stepGated, ht]; rfl, ?_⟩
    simp [trackAndDispatch, ht, enqueueReply, enqueue, release]

theorem runPost_eq_receivePost {s : Entry} {envelope : MessageEnvelope}
    (hg : s.inboundGate ≠ 0) (ha : s.isActive = true)
    (hr : (revalidateHttp s.connection answers).1 = true) :
    ∃ n t, runPost options k answers n s (.entering envelope) =
        some (t, .answered (some statusAccepted)) ∧
      t.connection = enqueueReply options
        (receivePost options true s.connection (.text (some envelope)) answers) := by
  have hta : (s.take k).isActive = true := ha
  have hrt : (revalidateHttp (s.take k).connection answers).1 = true := hr
  cases hv : ProtocolValidator.validateClient (some envelope) answers.validatedAt.ticks with
  | invalid errorCode errorMessage =>
    refine ⟨5, _, by simp [runPost, stepPost, stepGated, hg, hta, hv]; rfl, ?_⟩
    simp [receivePost, hv, enqueueReply, enqueue, release, take]
  | valid =>
    obtain ⟨n, t, hrun, hc⟩ := runPost_tracking options k answers
      { s.take k with connection := (revalidateHttp s.connection answers).2 } envelope
    refine ⟨n + 5, t, ?_, ?_⟩
    · simp only [runPost, stepPost, stepGated, hg, hta, hv, hrt, if_true, if_false,
        bind_some]
      exact hrun
    · rw [hc]
      simp [receivePost, hv, hr]

end

end Entry

end Realtime.Fallback
