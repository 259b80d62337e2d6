import Realtime.Text

/-! The log level overrides of one instance: `RuntimeLogLevelController` with its
checks, its expiry sweep and its bounded audit. Times are milliseconds; a text that
is absent from a request reads as the empty one, as every check of it does. -/

namespace Realtime.Diagnostics

inductive LogLevel where
  | trace | debug | information | warning | error | critical | none
  deriving DecidableEq

/-- What the runtime provides: `Enum.TryParse` for a defined `LogLevel`, the patterns
of `DiagnosticRedactor.Redact` and SHA-256 in hexadecimal. -/
class DiagnosticsRuntime where
  tryParseLevel : Text → Option LogLevel
  redact : Text → Text
  sha256 : Text → Text

export DiagnosticsRuntime (tryParseLevel redact sha256)

/-- The options that the overrides use, with the bounds that are checked on start. -/
structure DiagnosticsOptions where
  logCategoryAllowlist : List Text := [utf16 "Realtime"]
  maximumDetailItems : Nat := 100
  minimumLogOverrideSeconds : Int := 30
  maximumLogOverrideSeconds : Int := 3600
  auditCapacity : Nat := 500
  maximumDetailItems_valid : 1 ≤ maximumDetailItems ∧ maximumDetailItems ≤ 1000 := by decide
  minimumLogOverrideSeconds_valid :
    10 ≤ minimumLogOverrideSeconds ∧ minimumLogOverrideSeconds ≤ 300 := by decide
  maximumLogOverrideSeconds_valid : minimumLogOverrideSeconds ≤ maximumLogOverrideSeconds ∧
    maximumLogOverrideSeconds ≤ 86400 := by decide
  auditCapacity_valid : 10 ≤ auditCapacity ∧ auditCapacity ≤ 10000 := by decide

instance : Inhabited DiagnosticsOptions := ⟨{}⟩

structure LogLevelChangeRequest where
  category : Text
  level : Text
  durationSeconds : Int
  reason : Text
  scope : Text := utf16 "all"
  deriving DecidableEq

def LogLevelChangeRequest.lifetime (request : LogLevelChangeRequest) : Nat :=
  request.durationSeconds.toNat * 1000

/-- An override is named by the place of its apply among all applies: its id is a
fresh `Guid`. -/
abbrev OverrideId := Nat

structure ActiveLogLevelOverride where
  id : OverrideId
  category : Text
  level : LogLevel
  scope : Text
  startedAt : Nat
  expiresAt : Nat
  deriving DecidableEq

inductive AuditOutcome where
  | applied | reverted | expired
  deriving DecidableEq

structure LogLevelAuditEntry where
  id : OverrideId
  timestamp : Nat
  actor : Text
  reason : Text
  category : Text
  previousLevel : LogLevel
  newLevel : LogLevel
  scope : Text
  expiresAt : Nat
  outcome : AuditOutcome
  instanceId : Text
  deriving DecidableEq

def redactBounded [DiagnosticsRuntime] (value : Text) (maximumLength : Nat) : Text :=
  (trim ((redact value).map (fun c => if c = codeUnit '\r' ∨ c = codeUnit '\n' then codeUnit ' '
    else c))).take maximumLength

/-- `configured` or a category below it. -/
def covers (configured category : Text) : Bool :=
  configured == utf16 "*" || category == configured ||
    (configured ++ utf16 ".").isPrefixOf category

structure RuntimeLogLevelController where
  instanceId : Text
  baselineLevels : List (Text × LogLevel) := [(utf16 "Default", .information)]
  overrides : List ActiveLogLevelOverride := []
  audit : List LogLevelAuditEntry := []
  pendingAudit : List LogLevelAuditEntry := []

/-- The first of the items with the greatest rank: `OrderByDescending` is stable. -/
def firstByRank {α : Type} (rank : α → Nat × Nat) : List α → Option α
  | [] => none
  | item :: rest =>
    match firstByRank rank rest with
    | some other =>
      if (rank item).1 < (rank other).1 ∨
          ((rank item).1 = (rank other).1 ∧ (rank item).2 < (rank other).2) then some other
      else some item
    | none => some item

def keepLast {α : Type} (capacity : Nat) (entries : List α) : List α :=
  entries.drop (entries.length - capacity)

namespace RuntimeLogLevelController

def baselineLevel (c : RuntimeLogLevelController) (category : Text) : LogLevel :=
  let matching := c.baselineLevels.filter (fun item =>
    item.1 == utf16 "Default" || category == item.1 || (item.1 ++ utf16 ".").isPrefixOf category)
  match firstByRank (fun item => (if item.1 = utf16 "Default" then 0 else item.1.length, 0))
      matching with
  | some item => item.2
  | none => .information

def effectiveLevelCore (c : RuntimeLogLevelController) (category : Text) (now : Nat) : LogLevel :=
  let matching := c.overrides.filter (fun item =>
    decide (now < item.expiresAt) && covers item.category category)
  match firstByRank (fun item =>
      (item.category.length, if item.scope = utf16 "instance" then 1 else 0)) matching with
  | some item => item.level
  | none => c.baselineLevel category

def addAudit (options : DiagnosticsOptions) (c : RuntimeLogLevelController)
    (entry : LogLevelAuditEntry) : RuntimeLogLevelController :=
  { c with
    audit := keepLast options.auditCapacity (c.audit ++ [entry])
    pendingAudit := keepLast options.auditCapacity (c.pendingAudit ++ [entry]) }

/-- `_overrides.TryRemove`. -/
def remove (c : RuntimeLogLevelController) (id : OverrideId) : RuntimeLogLevelController :=
  { c with overrides := c.overrides.filter (fun active => active.id != id) }

def expire (options : DiagnosticsOptions) (now : Nat) (c : RuntimeLogLevelController)
    (active : ActiveLogLevelOverride) : RuntimeLogLevelController :=
  let c := c.remove active.id
  c.addAudit options
    { id := active.id, timestamp := now, actor := utf16 "system",
      reason := utf16 "automatic expiry", category := active.category,
      previousLevel := active.level, newLevel := c.effectiveLevelCore active.category now,
      scope := active.scope, expiresAt := active.expiresAt, outcome := .expired,
      instanceId := c.instanceId }

def removeExpired (options : DiagnosticsOptions) (c : RuntimeLogLevelController) (now : Nat) :
    RuntimeLogLevelController :=
  (c.overrides.filter (fun active => decide (active.expiresAt ≤ now))).foldl (expire options now) c

/-- `EffectiveLevel`, which sweeps first. -/
def effectiveLevel (options : DiagnosticsOptions) (c : RuntimeLogLevelController) (category : Text)
    (now : Nat) : LogLevel × RuntimeLogLevelController :=
  let c := c.removeExpired options now
  (c.effectiveLevelCore category now, c)

/-- `GetActive`, which sweeps first; the order of the answer does not matter here. -/
def getActive (options : DiagnosticsOptions) (c : RuntimeLogLevelController) (now : Nat) :
    List ActiveLogLevelOverride × RuntimeLogLevelController :=
  let c := c.removeExpired options now
  (c.overrides, c)

def contains (options : DiagnosticsOptions) (c : RuntimeLogLevelController) (id : OverrideId)
    (now : Nat) : Bool × RuntimeLogLevelController :=
  let c := c.removeExpired options now
  (c.overrides.any (·.id == id), c)

section

variable [DiagnosticsRuntime]

/-- The checks of `TryValidateLocked` on the request alone. -/
def checkRequest (options : DiagnosticsOptions) (request : LogLevelChangeRequest) :
    Except Text Unit :=
  let category := trim request.category
  if isBlank request.category || isBlank request.level || isBlank request.reason ||
      isBlank request.scope then
    .error (utf16 "Category, level, reason, and scope are required.")
  else if category.length = 0 ∨ 128 < category.length ∨
      options.logCategoryAllowlist.any (fun allowed => covers allowed category) = false then
    .error (utf16 "The requested category is not in the diagnostics allowlist.")
  else if (match tryParseLevel request.level with
      | none | some .none => true
      | some _ => false) then
    .error (utf16 "The requested log level is invalid.")
  else if request.durationSeconds < options.minimumLogOverrideSeconds ∨
      options.maximumLogOverrideSeconds < request.durationSeconds then
    .error (utf16 ("Duration must be between " ++ toString options.minimumLogOverrideSeconds ++
      " and " ++ toString options.maximumLogOverrideSeconds ++ " seconds."))
  else if (trim request.reason).length < 3 ∨ 256 < (trim request.reason).length then
    .error (utf16 "A reason between 3 and 256 characters is required.")
  else if request.scope ≠ utf16 "all" ∧ request.scope ≠ utf16 "instance" then
    .error (utf16 "Scope must be 'all' or 'instance'.")
  else .ok ()

def checkActive (options : DiagnosticsOptions) (c : RuntimeLogLevelController)
    (request : LogLevelChangeRequest) (now : Nat) : Except Text Unit :=
  if request.scope = utf16 "instance" ∧ options.maximumDetailItems ≤
      c.overrides.countP (fun active => active.scope == utf16 "instance") then
    .error (utf16 "The active diagnostics override limit has been reached.")
  else if c.overrides.any (fun active => active.category == trim request.category &&
      active.scope == request.scope && decide (now < active.expiresAt)) then
    .error (utf16 "An active override already exists for the requested category and scope.")
  else .ok ()

/-- `TryValidateLocked` with its two clock readings, one for the sweep and one for the search for
an active override. -/
def tryValidateAt (options : DiagnosticsOptions) (c : RuntimeLogLevelController)
    (request : LogLevelChangeRequest) (sweptAt checkedAt : Nat) :
    Except Text Unit × RuntimeLogLevelController :=
  match checkRequest options request with
  | .error error => (.error error, c)
  | .ok () =>
    let c := c.removeExpired options sweptAt
    (c.checkActive options request checkedAt, c)

def tryValidate (options : DiagnosticsOptions) (c : RuntimeLogLevelController)
    (request : LogLevelChangeRequest) (now : Nat) :
    Except Text Unit × RuntimeLogLevelController :=
  c.tryValidateAt options request now now

/-- The entry that `TryApplyLocked` adds. -/
def newOverride (request : LogLevelChangeRequest) (id : OverrideId) (startedAt : Nat) :
    ActiveLogLevelOverride where
  id := id
  category := trim request.category
  level := (tryParseLevel request.level).getD .trace
  scope := request.scope
  startedAt := startedAt
  expiresAt := startedAt + request.lifetime

/-- `TryApplyLocked` with the readings of its validation and of `EffectiveLevel`. -/
def tryApplyAt (options : DiagnosticsOptions) (c : RuntimeLogLevelController)
    (request : LogLevelChangeRequest) (actor : Text) (id : OverrideId)
    (startedAt sweptAt checkedAt levelAt : Nat) :
    Except Text ActiveLogLevelOverride × RuntimeLogLevelController :=
  match c.tryValidateAt options request sweptAt checkedAt with
  | (.error error, c) => (.error error, c)
  | (.ok (), c) =>
    match c.overrides.find? (fun active => active.id == id) with
    | some existing => (.ok existing, c)
    | none =>
      let active := newOverride request id startedAt
      let (previous, c) := c.effectiveLevel options active.category levelAt
      (.ok active, { c with overrides := c.overrides ++ [active] }.addAudit options
        { id := id, timestamp := startedAt, actor := redactBounded actor 128,
          reason := redactBounded request.reason 256, category := active.category,
          previousLevel := previous, newLevel := active.level, scope := active.scope,
          expiresAt := active.expiresAt, outcome := .applied, instanceId := c.instanceId })

def tryApply (options : DiagnosticsOptions) (c : RuntimeLogLevelController)
    (request : LogLevelChangeRequest) (actor : Text) (id : OverrideId) (startedAt now : Nat) :
    Except Text ActiveLogLevelOverride × RuntimeLogLevelController :=
  c.tryApplyAt options request actor id startedAt now now now

def revert (options : DiagnosticsOptions) (c : RuntimeLogLevelController) (id : OverrideId)
    (actor reason : Text) (now : Nat) : Bool × RuntimeLogLevelController :=
  match c.overrides.find? (fun active => active.id == id) with
  | none => (false, c)
  | some active =>
    let (level, c) := (c.remove id).effectiveLevel options active.category now
    (true, c.addAudit options
      { id := active.id, timestamp := now, actor := redactBounded actor 128,
        reason := redactBounded reason 256, category := active.category,
        previousLevel := active.level, newLevel := level, scope := active.scope,
        expiresAt := active.expiresAt, outcome := .reverted, instanceId := c.instanceId })

end

/-- `MarkPendingAuditPersisted`. -/
def markPendingAuditPersisted (c : RuntimeLogLevelController) (persisted : LogLevelAuditEntry) :
    RuntimeLogLevelController :=
  if c.pendingAudit.head? = some persisted then { c with pendingAudit := c.pendingAudit.tail }
  else c

end RuntimeLogLevelController

end Realtime.Diagnostics
