import Realtime.Diagnostics.Controller
import Realtime.Machine

/-! The controller of one instance under calls from any number of threads. Each access
of the dictionary, of the lock, of the clock and of the audit is one step: `TryApply` and
`TryValidate` hold the lock from their first step to their last, while `Revert` and the
sweeps run beside them. -/

namespace Realtime.Diagnostics

/-- An object in the dictionary. Objects are told apart by the order in which they were
stored, since an id may be used again. -/
structure Application where
  serial : Nat
  override : ActiveLogLevelOverride
  deriving DecidableEq

def Application.rivals (o : Application) (request : LogLevelChangeRequest) : Bool :=
  o.override.category == trim request.category && o.override.scope == request.scope

/-- An entry that `AddAudit` was called with, the object whose data it has and the call
that generated it. -/
structure Generated where
  entry : LogLevelAuditEntry
  about : Application
  call : Nat

/-- `RemoveExpired`: the dictionary has been read, and `items` are the values that the
query has not reached. -/
inductive SweepPhase where
  | starting
  | next (items : List Application)
  | removed (item : Application) (items : List Application)
  | auditing (item : Application) (newLevel : LogLevel) (items : List Application)

structure Sweep where
  now : Nat
  phase : SweepPhase := .starting

inductive Outcome where
  | refused (error : Text)
  | valid
  | response (active : ActiveLogLevelOverride)
  | reverted (found : Bool)
  | swept

inductive ThreadPhase where
  | locking
  | validating
  | counting
  | searching
  | checking (items : List Application)
  | naming
  | lookingUp (startedAt : Nat)
  | levelling (startedAt now : Nat)
  | storing (startedAt : Nat) (previous : LogLevel)
  | auditing (active : Application) (previous : LogLevel)
  | unlocking (outcome : Outcome)
  | removing
  | timing (item : Application)
  | calling (item : Application) (timestamp : Nat)
  | relevelling (item : Application) (timestamp now : Nat)
  | recording (item : Application) (timestamp : Nat) (newLevel : LogLevel)
  | sweeping
  | returned (outcome : Outcome)

/-- The calls of the controller. The id of an apply is the one it is given or a new
`Guid`; `EffectiveLevel`, `HasOverride`, `GetActive` and `Contains` change what is shared
only by their sweep. -/
inductive Goal where
  | apply (request : LogLevelChangeRequest) (actor : Text) (id : OverrideId)
      (startedAt : Option Nat)
  | validate (request : LogLevelChangeRequest)
  | revert (id : OverrideId) (actor reason : Text)
  | sweep

structure Call where
  goal : Goal
  sweep : Option Sweep := none
  phase : ThreadPhase

def Goal.start (goal : Goal) : Call where
  goal := goal
  phase := match goal with
    | .apply .. | .validate _ => .locking
    | .revert .. => .removing
    | .sweep => .sweeping

def Call.goto (call : Call) (phase : ThreadPhase) : Call := { call with phase }

/-- The call goes on with `phase` after a sweep. -/
def Call.sweepThen (call : Call) (now : Nat) (phase : ThreadPhase) : Call :=
  { call with sweep := some { now }, phase }

/-- The dictionary, the lock, the clock and the calls. The objects that were stored or
removed, each with its call, and the generated entries are kept for what is proved. -/
structure SharedController where
  options : DiagnosticsOptions := {}
  instanceId : Text
  baselineLevels : List (Text × LogLevel) := [(utf16 "Default", .information)]
  now : Nat := 0
  overrides : List Application := []
  lock : Option Nat := none
  calls : List Call := []
  stores : List (Application × Nat) := []
  removals : List (Application × Nat) := []
  generated : List Generated := []

inductive ThreadLabel where
  | tick (milliseconds : Nat)
  | call (goal : Goal)
  | step (k : Nat)

namespace SharedController

def setCall (s : SharedController) (k : Nat) (call : Call) : SharedController :=
  { s with calls := s.calls.set k call }

def view (s : SharedController) : RuntimeLogLevelController where
  instanceId := s.instanceId
  baselineLevels := s.baselineLevels
  overrides := s.overrides.map (·.override)

/-- `_overrides.TryGetValue`. -/
def find (s : SharedController) (id : OverrideId) : Option Application :=
  s.overrides.find? (fun o => o.override.id == id)

/-- `_overrides.TryRemove` for an object that it finds. -/
def removed (s : SharedController) (k : Nat) (o : Application) : SharedController :=
  { s with
    overrides := s.overrides.filter (fun other => other.override.id != o.override.id)
    removals := s.removals ++ [(o, k)] }

def instanceCount (s : SharedController) : Nat :=
  s.overrides.countP (fun o => o.override.scope == utf16 "instance")

def generate (s : SharedController) (k : Nat) (about : Application) (entry : LogLevelAuditEntry) :
    SharedController :=
  { s with generated := s.generated ++ [⟨entry, about, k⟩] }

def expiredEntry (s : SharedController) (item : Application) (now : Nat) (newLevel : LogLevel) :
    LogLevelAuditEntry where
  id := item.override.id
  timestamp := now
  actor := utf16 "system"
  reason := utf16 "automatic expiry"
  category := item.override.category
  previousLevel := item.override.level
  newLevel := newLevel
  scope := item.override.scope
  expiresAt := item.override.expiresAt
  outcome := .expired
  instanceId := s.instanceId

/-- One step of the sweep of call `k`. The second condition of its query removes what is
stored under the id of the item. -/
def stepSweep (s : SharedController) (k : Nat) (call : Call) (sweep : Sweep) :
    SharedController :=
  let goto := fun phase => { call with sweep := some { sweep with phase } }
  match sweep.phase with
  | .starting => s.setCall k (goto (.next s.overrides))
  | .next [] => s.setCall k { call with sweep := none }
  | .next (item :: items) =>
    if item.override.expiresAt ≤ sweep.now then
      match s.find item.override.id with
      | some o => (s.removed k o).setCall k (goto (.removed item items))
      | none => s.setCall k (goto (.next items))
    else s.setCall k (goto (.next items))
  | .removed item items =>
    s.setCall k (goto
      (.auditing item (s.view.effectiveLevelCore item.override.category sweep.now) items))
  | .auditing item newLevel items =>
    (s.generate k item (s.expiredEntry item sweep.now newLevel)).setCall k (goto (.next items))

section

variable [DiagnosticsRuntime]

/-- `TryValidateLocked` between the lock and what follows it. -/
def stepValidate (s : SharedController) (k : Nat) (call : Call) (request : LogLevelChangeRequest)
    (next : ThreadPhase) : Option SharedController :=
  match call.phase with
  | .locking =>
    if s.lock = none then some ({ s with lock := some k }.setCall k (call.goto .validating))
    else none
  | .validating =>
    match RuntimeLogLevelController.checkRequest s.options request with
    | .error error => some (s.setCall k (call.goto (.unlocking (.refused error))))
    | .ok () => some (s.setCall k (call.sweepThen s.now .counting))
  | .counting =>
    if request.scope = utf16 "instance" ∧ s.options.maximumDetailItems ≤ s.instanceCount then
      some (s.setCall k (call.goto (.unlocking (.refused
        (utf16 "The active diagnostics override limit has been reached.")))))
    else some (s.setCall k (call.goto .searching))
  | .searching => some (s.setCall k (call.goto (.checking s.overrides)))
  | .checking (item :: items) =>
    if item.rivals request && decide (s.now < item.override.expiresAt) then
      some (s.setCall k (call.goto (.unlocking (.refused
        (utf16 "An active override already exists for the requested category and scope.")))))
    else some (s.setCall k (call.goto (.checking items)))
  | .checking [] => some (s.setCall k (call.goto next))
  | .unlocking outcome =>
    some ({ s with lock := none }.setCall k (call.goto (.returned outcome)))
  | _ => none

def newApplication (s : SharedController) (request : LogLevelChangeRequest) (id : OverrideId)
    (startedAt : Nat) : Application where
  serial := s.stores.length
  override := RuntimeLogLevelController.newOverride request id startedAt

def appliedEntry (s : SharedController) (request : LogLevelChangeRequest) (actor : Text)
    (active : Application) (previous : LogLevel) : LogLevelAuditEntry where
  id := active.override.id
  timestamp := active.override.startedAt
  actor := redactBounded actor 128
  reason := redactBounded request.reason 256
  category := active.override.category
  previousLevel := previous
  newLevel := active.override.level
  scope := active.override.scope
  expiresAt := active.override.expiresAt
  outcome := .applied
  instanceId := s.instanceId

/-- `TryApplyLocked` after its validation. -/
def stepApply (s : SharedController) (k : Nat) (call : Call) (request : LogLevelChangeRequest)
    (actor : Text) (id : OverrideId) (startedAt : Option Nat) : Option SharedController :=
  match call.phase with
  | .naming => some (s.setCall k (call.goto (.lookingUp (startedAt.getD s.now))))
  | .lookingUp startedAt =>
    match s.find id with
    | some existing =>
      some (s.setCall k (call.goto (.unlocking (.response existing.override))))
    | none => some (s.setCall k (call.sweepThen s.now (.levelling startedAt s.now)))
  | .levelling startedAt now =>
    some (s.setCall k (call.goto
      (.storing startedAt (s.view.effectiveLevelCore (trim request.category) now))))
  | .storing startedAt previous =>
    let active := s.newApplication request id startedAt
    some ({ s with
      overrides := s.overrides.filter (fun (o : Application) => o.override.id != id) ++ [active]
      stores := s.stores ++ [(active, k)] }.setCall k (call.goto (.auditing active previous)))
  | .auditing active previous =>
    some ((s.generate k active (s.appliedEntry request actor active previous)).setCall k
      (call.goto (.unlocking (.response active.override))))
  | _ => s.stepValidate k call request .naming

def revertedEntry (s : SharedController) (actor reason : Text) (item : Application)
    (timestamp : Nat) (newLevel : LogLevel) : LogLevelAuditEntry where
  id := item.override.id
  timestamp := timestamp
  actor := redactBounded actor 128
  reason := redactBounded reason 256
  category := item.override.category
  previousLevel := item.override.level
  newLevel := newLevel
  scope := item.override.scope
  expiresAt := item.override.expiresAt
  outcome := .reverted
  instanceId := s.instanceId

def stepRevert (s : SharedController) (k : Nat) (call : Call) (id : OverrideId)
    (actor reason : Text) : Option SharedController :=
  match call.phase with
  | .removing =>
    match s.find id with
    | some o => some ((s.removed k o).setCall k (call.goto (.timing o)))
    | none => some (s.setCall k (call.goto (.returned (.reverted false))))
  | .timing item => some (s.setCall k (call.goto (.calling item s.now)))
  | .calling item timestamp =>
    some (s.setCall k (call.sweepThen s.now (.relevelling item timestamp s.now)))
  | .relevelling item timestamp now =>
    some (s.setCall k (call.goto (.recording item timestamp
      (s.view.effectiveLevelCore item.override.category now))))
  | .recording item timestamp newLevel =>
    some ((s.generate k item (s.revertedEntry actor reason item timestamp newLevel)).setCall k
      (call.goto (.returned (.reverted true))))
  | _ => none

def stepCall (s : SharedController) (k : Nat) (call : Call) : Option SharedController :=
  match call.goal with
  | .apply request actor id startedAt => s.stepApply k call request actor id startedAt
  | .validate request => s.stepValidate k call request (.unlocking .valid)
  | .revert id actor reason => s.stepRevert k call id actor reason
  | .sweep =>
    match call.phase with
    | .sweeping => some (s.setCall k (call.sweepThen s.now (.returned .swept)))
    | _ => none

def step : StepFn SharedController ThreadLabel := fun s label =>
  match label with
  | .tick milliseconds => some { s with now := s.now + milliseconds }
  | .call goal => some { s with calls := s.calls ++ [goal.start] }
  | .step k =>
    match s.calls[k]? with
    | none => none
    | some call =>
      match call.sweep with
      | some sweep => some (s.stepSweep k call sweep)
      | none => s.stepCall k call

end

end SharedController

end Realtime.Diagnostics
