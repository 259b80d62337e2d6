import Realtime.Diagnostics.Controller
import Realtime.Machine

/-! The coordination of log level overrides between gateway instances over Redis:
`DiagnosticsControlService` and the loop of `DiagnosticsCoordinationService`. Each
await of the source is a point where other tasks run, and each Redis command or
script is one step. All clocks show the time of Redis. -/

namespace Realtime.Diagnostics

inductive MessageAction where
  | apply | revert
  deriving DecidableEq

structure DiagnosticsCoordinationMessage where
  action : MessageAction
  id : OverrideId
  request : Option LogLevelChangeRequest
  actor : Text
  timestamp : Nat
  targetInstanceId : Option Text := none
  deriving DecidableEq

/-- The keys of the coordination: reservations by category hash, active keys by id,
both with the time after which they are gone, and the sorted set of active ids. -/
structure RedisStore where
  now : Nat := 0
  reservations : Text → Option (OverrideId × Nat) := fun _ => none
  active : OverrideId → Option (DiagnosticsCoordinationMessage × Nat) := fun _ => none
  index : List (OverrideId × Nat) := []

namespace RedisStore

def getReservation (r : RedisStore) (key : Text) : Option OverrideId :=
  match r.reservations key with
  | some (id, expiresAt) => if r.now ≤ expiresAt then some id else none
  | none => none

def getActive (r : RedisStore) (id : OverrideId) : Option DiagnosticsCoordinationMessage :=
  match r.active id with
  | some (message, expiresAt) => if r.now ≤ expiresAt then some message else none
  | none => none

/-- `ZREMRANGEBYSCORE` of the index from minus infinity. -/
def removeRangeByScore (r : RedisStore) (bound : Nat) : RedisStore :=
  { r with index := r.index.filter (fun member => decide (bound < member.2)) }

/-- `ZREM` of the index. -/
def removeMember (r : RedisStore) (id : OverrideId) : RedisStore :=
  { r with index := r.index.filter (fun member => member.1 != id) }

/-- `SET` of an active key with `PX`. -/
def setActive (r : RedisStore) (id : OverrideId) (message : DiagnosticsCoordinationMessage)
    (lifetime : Nat) : RedisStore :=
  { r with active := Function.update r.active id (some (message, r.now + lifetime)) }

/-- `DEL` of an active key. -/
def deleteActive (r : RedisStore) (id : OverrideId) : RedisStore :=
  { r with active := Function.update r.active id none }

/-- The script of `ApplyAsync`. -/
def reserve (r : RedisStore) (key : Text) (id : OverrideId)
    (message : DiagnosticsCoordinationMessage) (lifetime startedAt maximum score : Nat) :
    Int × RedisStore :=
  if (r.getReservation key).isSome then (0, r)
  else
    let r := r.removeRangeByScore startedAt
    if maximum ≤ r.index.length then (-1, r)
    else
      let r := { r with
        reservations := Function.update r.reservations key (some (id, r.now + lifetime)) }
      let r := r.setActive id message lifetime
      (1, { r.removeMember id with index := (r.removeMember id).index ++ [(id, score)] })

/-- The script of `RemoveActiveAsync`. -/
def removeActive (r : RedisStore) (id : OverrideId) (key : Text) : RedisStore :=
  let r := if r.getReservation key = some id then
      { r with reservations := Function.update r.reservations key none }
    else r
  (r.deleteActive id).removeMember id

end RedisStore

/-- How an awaited operation ends. A command that fails with a `RedisException` or with
a timeout, which is no `RedisException`, may have been executed. -/
inductive Input where
  | ok
  | cancelled
  | disconnected
  | failed (executed : Bool)
  | timedOut (executed : Bool)
  deriving DecidableEq

inductive FlushResult where
  | completed | cancelled | threw
  deriving DecidableEq

/-- `FlushLocalAuditAsync`; the audit set in Redis is left out. -/
inductive FlushPhase where
  | starting
  | waiting
  | reading
  | trimming (bound : Nat)
  | persisting
  | writing (entry : LogLevelAuditEntry)
  | releasing (result : FlushResult)
  | finished (result : FlushResult)

/-- `ReconcileActiveAsync` and the loop around it. -/
inductive LoopPhase where
  | idle
  | trimming (bound : Nat)
  | listing (bound : Nat)
  | fetching (remaining : List OverrideId)
      (found : List (OverrideId × DiagnosticsCoordinationMessage))
  | dropping (id : OverrideId) (remaining : List OverrideId)
      (found : List (OverrideId × DiagnosticsCoordinationMessage))
  | reverting (ids : List OverrideId) (messages : List DiagnosticsCoordinationMessage)
  | reapplying (messages : List DiagnosticsCoordinationMessage)
  | restarting
  | stopped

inductive CoordinationWork where
  | message (message : DiagnosticsCoordinationMessage)
  | reconcile

/-- A gateway instance: its controller, the lock of the audit flush, what the
subscription has on the way to it, its work channel and its coordination loop. -/
structure Instance where
  controller : RuntimeLogLevelController
  auditFlush : Bool := false
  inFlight : List DiagnosticsCoordinationMessage := []
  work : List CoordinationWork := []
  loop : LoopPhase := .restarting

inductive ApplyResult where
  | succeeded
  | failed (error : Text)
  | threw
  deriving DecidableEq

/-- `ApplyAsync`, first for all replicas and then for one instance. -/
inductive ApplyPhase where
  | starting
  | connecting
  | reserving
  | applying
  | removing (error : Text)
  | publishing
  | flushing (phase : FlushPhase)
  | cleaning
  | reverting
  | rollingBack
  | removingCancelled
  | connectingInstance
  | storing
  | flushingInstance (stored : Bool) (phase : FlushPhase)
  | deletingFailed
  | deletingCancelled
  | returned (result : ApplyResult)

structure Apply where
  inst : Nat
  request : LogLevelChangeRequest
  actor : Text
  startedAt : Nat := 0
  phase : ApplyPhase := .starting

/-- What `RevertAsync` has found out about the override. -/
structure RevertTarget where
  scope : Text
  category : Text
  targetInstanceId : Option Text

inductive RevertPhase where
  | looking
  | connectingLookup
  | reading
  | connecting (target : RevertTarget)
  | removing (target : RevertTarget)
  | deleting (target : RevertTarget)
  | publishing (target : RevertTarget)
  | reverting (published : Bool)
  | flushing (phase : FlushPhase)
  | returned (found succeeded : Bool) (error : Text)
  | threw

structure Revert where
  inst : Nat
  id : OverrideId
  actor : Text
  phase : RevertPhase := .looking

/-- `RequiredForReadiness` of the Redis options with the options of the diagnostics. -/
structure Settings where
  options : DiagnosticsOptions := {}
  requiredForReadiness : Bool := true

structure Effect (α : Type) where
  redis : RedisStore
  inst : Instance
  published : Option DiagnosticsCoordinationMessage := none
  next : α

section

variable (s : Settings)

def stepFlush (r : RedisStore) (i : Instance) (phase : FlushPhase) (input : Input) :
    Option (Effect FlushPhase) :=
  match phase, input with
  | .starting, .ok =>
    some ⟨r, { i with controller := (i.controller.getActive s.options r.now).2 }, none, .waiting⟩
  | .waiting, .ok =>
    if i.auditFlush then none else some ⟨r, { i with auditFlush := true }, none, .reading⟩
  | .waiting, .cancelled => some ⟨r, i, none, .finished .cancelled⟩
  | .reading, .ok => some ⟨r, i, none, .trimming r.now⟩
  | .reading, .disconnected => some ⟨r, i, none, .releasing .completed⟩
  | .trimming bound, .ok => some ⟨r.removeRangeByScore bound, i, none, .persisting⟩
  | .trimming bound, .failed executed =>
    some ⟨if executed then r.removeRangeByScore bound else r, i, none, .releasing .completed⟩
  | .trimming bound, .timedOut executed =>
    some ⟨if executed then r.removeRangeByScore bound else r, i, none, .releasing .threw⟩
  | .persisting, .ok =>
    match i.controller.pendingAudit.head? with
    | some entry => some ⟨r, i, none, .writing entry⟩
    | none => some ⟨r, i, none, .releasing .completed⟩
  | .persisting, .cancelled => some ⟨r, i, none, .releasing .cancelled⟩
  | .writing entry, .ok =>
    some ⟨r, { i with controller := i.controller.markPendingAuditPersisted entry }, none,
      .persisting⟩
  | .writing _, .failed _ => some ⟨r, i, none, .releasing .completed⟩
  | .writing _, .timedOut _ => some ⟨r, i, none, .releasing .threw⟩
  | .releasing result, .ok => some ⟨r, { i with auditFlush := false }, none, .finished result⟩
  | _, _ => none

variable [DiagnosticsRuntime]

/-- `ReservationKey`, of which only the hash of the category varies. -/
def reservationKey (category : Text) : Text := sha256 category

def replicaUnavailable : Text :=
  utf16 "Replica-wide changes require an available Redis coordination service."

def instanceUnavailable : Text :=
  utf16 "Instance-scoped changes require an available Redis coordination service."

namespace Apply

def message (a : Apply) (id : OverrideId) : DiagnosticsCoordinationMessage where
  action := .apply
  id := id
  request := some a.request
  actor := a.actor
  timestamp := a.startedAt

/-- The message that is stored for an override of instance `i`. -/
def instanceMessage (a : Apply) (id : OverrideId) (i : Instance) :
    DiagnosticsCoordinationMessage :=
  { a.message id with targetInstanceId := some i.controller.instanceId }

def expiresAt (a : Apply) : Nat := a.startedAt + a.request.lifetime

def goto (a : Apply) (phase : ApplyPhase) : Apply := { a with phase }

/-- The redacted and trimmed copy of the request that `ApplyAsync` goes on with. -/
def normalize (a : Apply) : Apply :=
  { a with
    actor := redactBounded a.actor 128
    request :=
      { a.request with
        category := trim a.request.category
        level := trim a.request.level
        reason := redactBounded a.request.reason 256
        scope := trim a.request.scope } }

def reserve (a : Apply) (r : RedisStore) (id : OverrideId) : Int × RedisStore :=
  r.reserve (reservationKey a.request.category) id (a.message id) a.request.lifetime a.startedAt
    s.options.maximumDetailItems a.expiresAt

def removeActive (a : Apply) (r : RedisStore) (id : OverrideId) (executed : Bool) : RedisStore :=
  if executed then r.removeActive id (reservationKey a.request.category) else r

def revertLocal (r : RedisStore) (i : Instance) (id : OverrideId) (reason : Text) : Instance :=
  { i with
    controller := (i.controller.revert s.options id (utf16 "system") reason r.now).2 }

end Apply

open Apply in
def startApply (r : RedisStore) (i : Instance) (id : OverrideId) (a : Apply) : Effect Apply :=
  if 128 < a.request.category.length then
    ⟨r, i, none, a.goto (.returned (.failed
      (utf16 "The requested category cannot exceed 128 characters.")))⟩
  else
    let a := a.normalize
    if a.request.scope ≠ utf16 "all" then
      let a := { a with startedAt := r.now }
      let (result, controller) := i.controller.tryApply s.options a.request a.actor id r.now r.now
      match result with
      | .error error => ⟨r, { i with controller }, none, a.goto (.returned (.failed error))⟩
      | .ok _ => ⟨r, { i with controller }, none, a.goto .connectingInstance⟩
    else
      let (result, controller) := i.controller.tryValidate s.options a.request r.now
      match result with
      | .error error => ⟨r, { i with controller }, none, a.goto (.returned (.failed error))⟩
      | .ok () => ⟨r, { i with controller }, none, a.goto .connecting⟩

/-- The branch of `ApplyAsync` for all replicas. -/
def stepApplyAll (r : RedisStore) (i : Instance) (id : OverrideId) (a : Apply) (input : Input) :
    Option (Effect Apply) :=
  match a.phase, input with
  | .connecting, .ok => some ⟨r, i, none, { a with startedAt := r.now, phase := .reserving }⟩
  | .connecting, .disconnected =>
    some ⟨r, i, none, a.goto (.returned (.failed replicaUnavailable))⟩
  | .connecting, .failed _ => some ⟨r, i, none, a.goto .reverting⟩
  | .connecting, .cancelled =>
    some ⟨r, Apply.revertLocal s r i id (utf16 "cancelled coordination rollback"), none,
      a.goto (.returned .threw)⟩
  | .reserving, .ok =>
    let (result, r) := a.reserve s r id
    some ⟨r, i, none, a.goto (
      if result = 0 then .returned (.failed
        (utf16 "An active replica-wide override already exists for the requested category."))
      else if result < 0 then .returned (.failed
        (utf16 "The active replica-wide diagnostics override limit has been reached."))
      else .applying)⟩
  | .reserving, .failed executed =>
    some ⟨if executed then (a.reserve s r id).2 else r, i, none, a.goto .cleaning⟩
  | .reserving, .timedOut executed =>
    some ⟨if executed then (a.reserve s r id).2 else r, i, none, a.goto (.returned .threw)⟩
  | .applying, .ok =>
    let (result, controller) :=
      i.controller.tryApply s.options a.request a.actor id a.startedAt r.now
    some ⟨r, { i with controller }, none, a.goto (
      match result with
      | .error error => .removing error
      | .ok _ => .publishing)⟩
  | .removing error, .ok =>
    some ⟨a.removeActive r id true, i, none, a.goto (.returned (.failed error))⟩
  | .removing _, .failed executed =>
    some ⟨a.removeActive r id executed, i, none, a.goto .cleaning⟩
  | .removing _, .timedOut executed =>
    some ⟨a.removeActive r id executed, i, none, a.goto (.returned .threw)⟩
  | .publishing, .ok => some ⟨r, i, some (a.message id), a.goto (.flushing .starting)⟩
  | .publishing, .failed executed =>
    some ⟨r, i, if executed then some (a.message id) else none, a.goto .cleaning⟩
  | .publishing, .timedOut executed =>
    some ⟨r, i, if executed then some (a.message id) else none, a.goto (.returned .threw)⟩
  | .flushing (.finished result), .ok =>
    some ⟨r, i, none, a.goto (
      match result with
      | .completed => .returned .succeeded
      | .cancelled => .rollingBack
      | .threw => .returned .threw)⟩
  | .flushing phase, input =>
    (stepFlush s r i phase input).map
      (fun e => ⟨e.redis, e.inst, none, a.goto (.flushing e.next)⟩)
  | .cleaning, .ok => some ⟨a.removeActive r id true, i, none, a.goto .reverting⟩
  | .cleaning, .failed executed =>
    some ⟨a.removeActive r id executed, i, none, a.goto .reverting⟩
  | .cleaning, .timedOut executed =>
    some ⟨a.removeActive r id executed, i, none, a.goto (.returned .threw)⟩
  | .reverting, .ok =>
    some ⟨r, Apply.revertLocal s r i id (utf16 "coordination failure rollback"), none,
      a.goto (.returned (.failed replicaUnavailable))⟩
  | .rollingBack, .ok =>
    some ⟨r, Apply.revertLocal s r i id (utf16 "cancelled coordination rollback"), none,
      a.goto .removingCancelled⟩
  | .removingCancelled, .ok =>
    some ⟨a.removeActive r id true, i, none, a.goto (.returned .threw)⟩
  | .removingCancelled, .failed executed =>
    some ⟨a.removeActive r id executed, i, none, a.goto (.returned .threw)⟩
  | .removingCancelled, .timedOut executed =>
    some ⟨a.removeActive r id executed, i, none, a.goto (.returned .threw)⟩
  | _, _ => none

/-- The branch of `ApplyAsync` for one instance. -/
def stepApplyInstance (r : RedisStore) (i : Instance) (id : OverrideId) (a : Apply)
    (input : Input) : Option (Effect Apply) :=
  match a.phase, input with
  | .connectingInstance, .ok => some ⟨r, i, none, a.goto .storing⟩
  | .connectingInstance, .disconnected =>
    if s.requiredForReadiness then
      some ⟨r, Apply.revertLocal s r i id (utf16 "instance coordination unavailable rollback"),
        none, a.goto (.returned (.failed instanceUnavailable))⟩
    else some ⟨r, i, none, a.goto (.flushingInstance false .starting)⟩
  | .connectingInstance, .failed _ =>
    if s.requiredForReadiness then
      some ⟨r, Apply.revertLocal s r i id (utf16 "instance coordination failure rollback"), none,
        a.goto (.returned (.failed instanceUnavailable))⟩
    else some ⟨r, i, none, a.goto (.returned .succeeded)⟩
  | .connectingInstance, .cancelled =>
    some ⟨r, Apply.revertLocal s r i id (utf16 "cancelled coordination rollback"), none,
      a.goto (.returned .threw)⟩
  | .storing, .ok =>
    some ⟨r.setActive id (a.instanceMessage id i) a.request.lifetime, i, none,
      a.goto (.flushingInstance true .starting)⟩
  | .storing, .failed executed =>
    let r' := if executed then r.setActive id (a.instanceMessage id i) a.request.lifetime else r
    if s.requiredForReadiness then
      some ⟨r', Apply.revertLocal s r i id (utf16 "instance coordination failure rollback"), none,
        a.goto .deletingFailed⟩
    else some ⟨r', i, none, a.goto (.returned .succeeded)⟩
  | .storing, .timedOut executed =>
    some ⟨if executed then r.setActive id (a.instanceMessage id i) a.request.lifetime else r, i,
      none, a.goto (.returned .threw)⟩
  | .flushingInstance stored (.finished result), .ok =>
    match result with
    | .completed => some ⟨r, i, none, a.goto (.returned .succeeded)⟩
    | .cancelled =>
      some ⟨r, Apply.revertLocal s r i id (utf16 "cancelled coordination rollback"), none,
        a.goto (if stored then .deletingCancelled else .returned .threw)⟩
    | .threw => some ⟨r, i, none, a.goto (.returned .threw)⟩
  | .flushingInstance stored phase, input =>
    (stepFlush s r i phase input).map
      (fun e => ⟨e.redis, e.inst, none, a.goto (.flushingInstance stored e.next)⟩)
  | .deletingFailed, .ok =>
    some ⟨r.deleteActive id, i, none, a.goto (.returned (.failed instanceUnavailable))⟩
  | .deletingFailed, .failed executed =>
    some ⟨if executed then r.deleteActive id else r, i, none,
      a.goto (.returned (.failed instanceUnavailable))⟩
  | .deletingFailed, .timedOut executed =>
    some ⟨if executed then r.deleteActive id else r, i, none, a.goto (.returned .threw)⟩
  | .deletingCancelled, .ok => some ⟨r.deleteActive id, i, none, a.goto (.returned .threw)⟩
  | .deletingCancelled, .failed executed =>
    some ⟨if executed then r.deleteActive id else r, i, none, a.goto (.returned .threw)⟩
  | .deletingCancelled, .timedOut executed =>
    some ⟨if executed then r.deleteActive id else r, i, none, a.goto (.returned .threw)⟩
  | _, _ => none

def stepApply (r : RedisStore) (i : Instance) (id : OverrideId) (a : Apply) (input : Input) :
    Option (Effect Apply) :=
  match a.phase, input with
  | .starting, .ok => some (startApply s r i id a)
  | _, input =>
    if a.request.scope = utf16 "all" then stepApplyAll s r i id a input
    else stepApplyInstance s r i id a input

/-- `IsValidStoredApply`. -/
def isValidStoredApply (message : DiagnosticsCoordinationMessage) (id : OverrideId) (now : Nat) :
    Bool :=
  match message.request with
  | some request =>
    message.action == .apply && message.id == id &&
      (request.scope == utf16 "all" || request.scope == utf16 "instance") &&
      !isBlank request.category && decide (request.category.length ≤ 128) &&
      s.options.logCategoryAllowlist.any (fun allowed => covers allowed request.category) &&
      (match tryParseLevel request.level with
        | none | some .none => false
        | some _ => true) &&
      decide (s.options.minimumLogOverrideSeconds ≤ request.durationSeconds) &&
      decide (request.durationSeconds ≤ s.options.maximumLogOverrideSeconds) &&
      !isBlank request.reason && decide (3 ≤ request.reason.length) &&
      decide (request.reason.length ≤ 256) &&
      !isBlank message.actor && decide (message.actor.length ≤ 128) &&
      decide (message.timestamp ≤ now + 300000) &&
      (match message.targetInstanceId with
        | none => request.scope == utf16 "all"
        | some target => request.scope == utf16 "instance" && !isBlank target &&
          decide (target.length ≤ 128))
  | none => false

def lookupUnavailable : Text :=
  utf16 "Coordinated rollback lookup requires an available Redis coordination service."

def rollbackUnavailable : Text :=
  utf16 "Coordinated rollback requires an available Redis coordination service."

namespace Revert

def goto (v : Revert) (phase : RevertPhase) : Revert := { v with phase }

/-- An override of this instance on a host that can do without Redis. -/
def locallyOwnedOptionalInstance (i : Instance) (target : RevertTarget) : Bool :=
  target.scope == utf16 "instance" && target.targetInstanceId == some i.controller.instanceId &&
    !s.requiredForReadiness

/-- A Redis failure ends the call, unless the host can do without Redis. -/
def unavailable (v : Revert) (i : Instance) (target : RevertTarget) : Revert :=
  v.goto (if locallyOwnedOptionalInstance s i target then .reverting false
    else .returned true false rollbackUnavailable)

def message (v : Revert) (target : RevertTarget) (now : Nat) : DiagnosticsCoordinationMessage where
  action := .revert
  id := v.id
  request := none
  actor := v.actor
  timestamp := now
  targetInstanceId := target.targetInstanceId

def removeActive (v : Revert) (r : RedisStore) (target : RevertTarget) (executed : Bool) :
    RedisStore :=
  if executed then r.removeActive v.id (reservationKey target.category) else r

end Revert

open Revert in
def stepRevert (r : RedisStore) (i : Instance) (v : Revert) (input : Input) :
    Option (Effect Revert) :=
  match v.phase, input with
  | .looking, .ok =>
    let (active, controller) := i.controller.getActive s.options r.now
    some ⟨r, { i with controller }, none, { v with
      actor := redactBounded v.actor 128
      phase := match active.find? (fun item => item.id == v.id) with
        | some item => .connecting ⟨item.scope, item.category,
            if item.scope = utf16 "instance" then some i.controller.instanceId else none⟩
        | none => .connectingLookup }⟩
  | .connectingLookup, .ok => some ⟨r, i, none, v.goto .reading⟩
  | .connectingLookup, .disconnected | .connectingLookup, .failed _ =>
    some ⟨r, i, none, v.goto (.returned false false lookupUnavailable)⟩
  | .connectingLookup, .cancelled => some ⟨r, i, none, v.goto .threw⟩
  | .reading, .ok =>
    some ⟨r, i, none, v.goto (
      match r.getActive v.id with
      | some message =>
        match message.request with
        | some request =>
          if isValidStoredApply s message v.id r.now then
            .connecting ⟨request.scope, request.category, message.targetInstanceId⟩
          else .returned false false []
        | none => .returned false false []
      | none => .returned false false [])⟩
  | .reading, .failed _ => some ⟨r, i, none, v.goto (.returned false false lookupUnavailable)⟩
  | .reading, .timedOut _ => some ⟨r, i, none, v.goto .threw⟩
  | .connecting target, .ok =>
    some ⟨r, i, none, v.goto (
      if target.scope = utf16 "all" then .removing target else .deleting target)⟩
  | .connecting target, .disconnected | .connecting target, .failed _ =>
    some ⟨r, i, none, v.unavailable s i target⟩
  | .connecting _, .cancelled => some ⟨r, i, none, v.goto .threw⟩
  | .removing target, .ok =>
    some ⟨v.removeActive r target true, i, none, v.goto (.publishing target)⟩
  | .removing target, .failed executed =>
    some ⟨v.removeActive r target executed, i, none, v.unavailable s i target⟩
  | .removing target, .timedOut executed =>
    some ⟨v.removeActive r target executed, i, none, v.goto .threw⟩
  | .deleting target, .ok => some ⟨r.deleteActive v.id, i, none, v.goto (.publishing target)⟩
  | .deleting target, .failed executed =>
    some ⟨if executed then r.deleteActive v.id else r, i, none, v.unavailable s i target⟩
  | .deleting _, .timedOut executed =>
    some ⟨if executed then r.deleteActive v.id else r, i, none, v.goto .threw⟩
  | .publishing target, .ok =>
    some ⟨r, i, some (v.message target r.now), v.goto (.reverting true)⟩
  | .publishing target, .failed executed =>
    some ⟨r, i, if executed then some (v.message target r.now) else none, v.unavailable s i target⟩
  | .publishing target, .timedOut executed =>
    some ⟨r, i, if executed then some (v.message target r.now) else none, v.goto .threw⟩
  | .reverting published, .ok =>
    let (reverted, controller) :=
      i.controller.revert s.options v.id v.actor (utf16 "manual rollback") r.now
    some ⟨r, { i with controller }, none, v.goto (
      if reverted || published then .flushing .starting
      else .returned true false (utf16 "The override could not be reverted."))⟩
  | .flushing (.finished result), .ok =>
    some ⟨r, i, none, v.goto (if result = .completed then .returned true true [] else .threw)⟩
  | .flushing phase, input =>
    (stepFlush s r i phase input).map (fun e => ⟨e.redis, e.inst, none, v.goto (.flushing e.next)⟩)
  | _, _ => none

/-- `IsValidMessage`. -/
def isValidMessage (message : DiagnosticsCoordinationMessage) (now : Nat) : Bool :=
  !isBlank message.actor && decide (message.actor.length ≤ 128) &&
    decide (message.timestamp ≤ now + 300000) &&
    (match message.targetInstanceId with
      | none => true
      | some target => !isBlank target && decide (target.length ≤ 128)) &&
    (message.action == .revert ||
      ((match message.request with
        | some request => request.scope == utf16 "all"
        | none => false) && message.targetInstanceId.isNone))

/-- `ApplyMessage`. The checks before `TryApply` are made again under its lock. -/
def applyMessage (c : RuntimeLogLevelController) (message : DiagnosticsCoordinationMessage)
    (now : Nat) : RuntimeLogLevelController :=
  if isValidMessage message now then
    match message.action, message.request with
    | .revert, _ =>
      if message.targetInstanceId = none ∨ message.targetInstanceId = some c.instanceId then
        (c.revert s.options message.id message.actor (utf16 "coordinated rollback") now).2
      else c
    | .apply, some request =>
      let (contained, c) := c.contains s.options message.id now
      if contained then c
      else
        let (valid, c) := c.tryValidate s.options request now
        match valid with
        | .error _ => c
        | .ok () =>
          if now < message.timestamp + request.lifetime then
            (c.tryApply s.options request message.actor message.id message.timestamp now).2
          else c
    | .apply, none => c
  else c

/-- `TryWrite` on the work channel, which drops its oldest item; a loop between two
cycles has no subscription. -/
def Instance.enqueue (i : Instance) (item : CoordinationWork) :
    Instance :=
  match i.loop with
  | .restarting | .stopped => i
  | _ => { i with work := keepLast 256 (i.work ++ [item]) }

/-- A `RedisException` ends the cycle: the work that waits is lost, and the next cycle
subscribes again and queues a reconciliation. Any other failure ends the loop. -/
def Instance.endCycle (i : Instance) : Input → Option Instance
  | .failed _ => some { i with work := [], loop := .restarting }
  | .timedOut _ | .cancelled => some { i with loop := .stopped }
  | _ => none

def stepLoop (r : RedisStore) (i : Instance) (input : Input) : Option (RedisStore × Instance) :=
  match i.loop, input with
  | .restarting, .ok => some (r, { i with work := [.reconcile], loop := .idle })
  | .idle, .ok =>
    match i.work with
    | .message message :: work =>
      some (r, { i with controller := applyMessage s i.controller message r.now, work })
    | .reconcile :: work => some (r, { i with work, loop := .trimming r.now })
    | [] => none
  | .trimming bound, .ok => some (r.removeRangeByScore bound, { i with loop := .listing bound })
  | .listing bound, .ok =>
    some (r, { i with
      loop := .fetching ((r.index.filter (fun member => decide (bound ≤ member.2))).map Prod.fst)
        [] })
  | .fetching (id :: remaining) found, .ok =>
    some (r, { i with
      loop := match r.getActive id with
        | some message => .fetching remaining (found ++ [(id, message)])
        | none => .dropping id remaining found })
  | .dropping id remaining found, .ok =>
    some (r.removeMember id, { i with loop := .fetching remaining found })
  | .fetching [] found, .ok =>
    let (active, controller) := i.controller.getActive s.options r.now
    some (r, { i with
      controller
      loop := .reverting ((active.filter (fun item => item.scope == utf16 "all" &&
        !found.any (fun member => member.1 == item.id))).map (·.id)) (found.map Prod.snd) })
  | .reverting (id :: ids) messages, .ok =>
    some (r, { i with
      controller := (i.controller.revert s.options id (utf16 "system")
        (utf16 "coordination reconciliation") r.now).2
      loop := .reverting ids messages })
  | .reverting [] messages, .ok => some (r, { i with loop := .reapplying messages })
  | .reapplying (message :: messages), .ok =>
    some (r, { i with
      controller := applyMessage s i.controller message r.now
      loop := .reapplying messages })
  | .reapplying [], .ok => some (r, { i with loop := .idle })
  | .trimming bound, input =>
    (i.endCycle input).map (fun next =>
      (if input = .failed true ∨ input = .timedOut true then r.removeRangeByScore bound else r,
        next))
  | .dropping id _ _, input =>
    (i.endCycle input).map (fun next =>
      (if input = .failed true ∨ input = .timedOut true then r.removeMember id else r, next))
  | .listing _, input | .fetching _ _, input => (i.endCycle input).map (fun next => (r, next))
  | _, _ => none

end

/-- The instances on one Redis, the calls of `ApplyAsync` (named by their override id)
and `RevertAsync`, and the flushes of the audit persistence service. -/
structure World where
  redis : RedisStore := {}
  instances : List Instance := []
  applies : List Apply := []
  reverts : List Revert := []
  flushes : List (Nat × FlushPhase) := []

inductive Label where
  | tick (milliseconds : Nat)
  | apply (inst : Nat) (request : LogLevelChangeRequest) (actor : Text)
  | applyStep (id : OverrideId) (input : Input)
  | revert (inst : Nat) (id : OverrideId) (actor : Text)
  | revertStep (k : Nat) (input : Input)
  | flush (inst : Nat)
  | flushStep (k : Nat) (input : Input)
  | deliver (inst : Nat)
  | lose (inst : Nat)
  | queueReconcile (inst : Nat)
  | loopStep (inst : Nat) (input : Input)

namespace World

def publish (instances : List Instance) : Option DiagnosticsCoordinationMessage → List Instance
  | some message => instances.map (fun i => { i with inFlight := i.inFlight ++ [message] })
  | none => instances

def commit {α : Type} (w : World) (n : Nat) (e : Effect α) : World :=
  { w with redis := e.redis, instances := publish (w.instances.set n e.inst) e.published }

def setInstance (w : World) (n : Nat) (i : Instance) : World :=
  { w with instances := w.instances.set n i }

def step [DiagnosticsRuntime] (s : Settings) : StepFn World Label := fun w label =>
  match label with
  | .tick milliseconds =>
    some { w with redis := { w.redis with now := w.redis.now + milliseconds } }
  | .apply inst request actor =>
    if inst < w.instances.length then
      some { w with applies := w.applies ++ [{ inst, request, actor }] }
    else none
  | .applyStep id input =>
    match w.applies[id]? with
    | some a =>
      match w.instances[a.inst]? with
      | some i =>
        (stepApply s w.redis i id a input).map (fun e =>
          { w.commit a.inst e with applies := w.applies.set id e.next })
      | none => none
    | none => none
  | .revert inst id actor =>
    if inst < w.instances.length then
      some { w with reverts := w.reverts ++ [{ inst, id, actor }] }
    else none
  | .revertStep k input =>
    match w.reverts[k]? with
    | some v =>
      match w.instances[v.inst]? with
      | some i =>
        (stepRevert s w.redis i v input).map (fun e =>
          { w.commit v.inst e with reverts := w.reverts.set k e.next })
      | none => none
    | none => none
  | .flush inst =>
    if inst < w.instances.length then
      some { w with flushes := w.flushes ++ [(inst, .starting)] }
    else none
  | .flushStep k input =>
    match w.flushes[k]? with
    | some (inst, phase) =>
      match w.instances[inst]? with
      | some i =>
        (stepFlush s w.redis i phase input).map (fun e =>
          { w.commit inst e with flushes := w.flushes.set k (inst, e.next) })
      | none => none
    | none => none
  | .deliver inst =>
    match w.instances[inst]? with
    | some i =>
      match i.inFlight with
      | message :: inFlight =>
        some (w.setInstance inst ({ i with inFlight }.enqueue (.message message)))
      | [] => none
    | none => none
  | .lose inst =>
    match w.instances[inst]? with
    | some i => some (w.setInstance inst { i with inFlight := i.inFlight.tail })
    | none => none
  | .queueReconcile inst =>
    match w.instances[inst]? with
    | some i => some (w.setInstance inst (i.enqueue .reconcile))
    | none => none
  | .loopStep inst input =>
    match w.instances[inst]? with
    | some i =>
      (stepLoop s w.redis i input).map (fun next =>
        { w.setInstance inst next.2 with redis := next.1 })
    | none => none

end World

end Realtime.Diagnostics
