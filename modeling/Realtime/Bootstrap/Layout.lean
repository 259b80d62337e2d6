import Realtime.Machine
import Realtime.Text

/-! The bootstrap layout: `organizeBootstrapEnvironment` moves the legacy artifacts of
`.bootstrap` below `env`, with a manifest as its journal, and
`restoreBootstrapEnvironment` moves them back. Runs do not overlap. Each call that
changes the file system is one step, and a run can crash before and after every step. -/

namespace Realtime.Bootstrap

abbrev Path := List Text

def slash : CodeUnit := codeUnit '/'

def Path.text (path : Path) : Text := [slash].intercalate path

def isEnvironmentLetter (c : CodeUnit) : Bool := (0x61 ≤ c && c ≤ 0x7A) || (0x30 ≤ c && c ≤ 0x39)

/-- The names of Windows devices, of which only lower case ones get this far. -/
def windowsDeviceNames : List Text :=
  [utf16 "con", utf16 "prn", utf16 "aux", utf16 "nul"] ++
    [utf16 "com", utf16 "lpt"].flatMap (fun port =>
      (utf16 "123456789").map (fun digit => port ++ [digit]))

def isValidEnvironmentName (value : Text) : Bool :=
  decide (1 ≤ value.length) && decide (value.length ≤ 10) && value.all isEnvironmentLetter &&
    !windowsDeviceNames.contains value

/-- The group of `^(?:…)([a-z0-9]{1,10})(?:\.|$)` behind one alternative of the first
group. The letters are followed by a dot or by the end, so the group is all of them. -/
def environmentGroup (start name : Text) : Option Text :=
  if start.isPrefixOf name then
    let rest := name.drop start.length
    let group := rest.takeWhile isEnvironmentLetter
    let after := rest.drop group.length
    if 1 ≤ group.length ∧ group.length ≤ 10 ∧
        (after = [] ∨ after.head? = some (codeUnit '.')) then some group
    else none
  else none

def dotStarts : List Text :=
  [utf16 "bootstrap.", utf16 "config.", utf16 "install.", utf16 "plan.", utf16 "update.",
    utf16 "validate."]

def hyphenStarts : List Text := [utf16 "gateway-", utf16 "redis-"]

def dotEnvironmentArtifact (name : Text) : Option Text :=
  dotStarts.findSome? (fun start => environmentGroup start name)

def hyphenEnvironmentArtifact (name : Text) : Option Text :=
  hyphenStarts.findSome? (fun start => environmentGroup start name)

def classifyLegacyBootstrapArtifact (name : Text) : Option Text :=
  ((dotEnvironmentArtifact name).or (hyphenEnvironmentArtifact name)).filter isValidEnvironmentName

structure Move where
  environment : Text
  source : Path
  destination : Path
  deriving DecidableEq

structure Retained where
  name : Text
  reason : Text
  deriving DecidableEq

structure Collision where
  source : Path
  destination : Path
  identical : Bool
  deriving DecidableEq

structure Inventory where
  moves : List Move := []
  retained : List Retained := []
  collisions : List Collision := []

inductive ManifestStatus where
  | preview | applying | applied | incomplete | restored
  deriving DecidableEq

structure Manifest where
  timestamp : Nat
  dryRun : Bool
  status : ManifestStatus
  completedMoves : List Move := []
  environments : List Text
  moves : List Move
  retained : List Retained
  collisions : List Collision
  currentMove : Option Move := none
  error : Option Text := none
  restoredAt : Option Nat := none
  deriving DecidableEq

structure Entry where
  name : Text
  isFile : Bool
  deriving DecidableEq

/-- The size and the digest of the contents of a file, and the name of the manifest file
of a time. -/
class LayoutRuntime (α : Type) where
  size : α → Nat
  sha256 : α → Text
  manifestName : Nat → Text

abbrev Files (α : Type) := Path → Option α

/-- `relative`. -/
def relativePath : Path → Path → Path
  | a :: parent, b :: child =>
    if a = b then relativePath parent child
    else List.replicate (parent.length + 1) (utf16 "..") ++ b :: child
  | parent, [] => List.replicate parent.length (utf16 "..")
  | [], child => child

/-- The test of `assertPathInside`, which looks at the first characters only. -/
def isPathInside (parent child : Path) : Bool :=
  let delta := (relativePath parent child).text
  delta.isEmpty || (!(utf16 "..").isPrefixOf delta && delta.head? != some slash)

def environmentRoot : Path := [utf16 "env"]

def organizationRoot : Path := [utf16 "organization"]

def legacyMove (environment name : Text) : Move where
  environment := environment
  source := [name]
  destination := environmentRoot ++ [environment, name]

structure LayoutFailure where
  message : Text
  exitCode : Option Nat := none
  deriving DecidableEq

def decimal (n : Nat) : Text := utf16 (toString n)

section

variable (root : Text)

def absolutePath (path : Path) : Text :=
  if path = [] then root else root ++ [slash] ++ path.text

def outsideFailure (description : Text) (parent : Path) : LayoutFailure where
  message := utf16 "Refusing " ++ description ++ utf16 " outside " ++ absolutePath root parent ++
    utf16 "."

variable {α : Type} [LayoutRuntime α] (files : Files α)

/-- One entry of the loop of `inventory`. -/
def inventoryEntry (result : Inventory) (entry : Entry) : Except LayoutFailure Inventory :=
  if entry.isFile = false then
    .ok { result with retained := result.retained ++ [⟨entry.name, utf16 "shared-or-directory"⟩] }
  else
    match classifyLegacyBootstrapArtifact entry.name with
    | none => .ok { result with
      retained := result.retained ++ [⟨entry.name, utf16 "unrecognized"⟩] }
    | some environment =>
      let move := legacyMove environment entry.name
      if isPathInside [] move.source = false then
        .error (outsideFailure root (utf16 "legacy bootstrap artifact") [])
      else if isPathInside environmentRoot move.destination = false then
        .error (outsideFailure root (utf16 "environment bootstrap artifact") environmentRoot)
      else
        match files move.destination, files move.source with
        | some destination, source => .ok { result with
            collisions := result.collisions ++ [⟨move.source, move.destination,
              source.any (fun source => LayoutRuntime.size source == LayoutRuntime.size destination
                && LayoutRuntime.sha256 source == LayoutRuntime.sha256 destination)⟩] }
        | none, _ => .ok { result with moves := result.moves ++ [move] }

def inventory (entries : List Entry) : Except LayoutFailure Inventory :=
  entries.foldlM (inventoryEntry root files) {}

end

def canonicalEnvironments : List Text := [utf16 "dev", utf16 "test", utf16 "prod"]

def newManifest (timestamp : Nat) (dryRun : Bool) (result : Inventory) : Manifest where
  timestamp := timestamp
  dryRun := dryRun
  status := if dryRun then .preview else .applying
  environments := canonicalEnvironments ++
    (((result.moves.map (·.environment)).eraseDups.filter
      (fun environment => !canonicalEnvironments.contains environment)).mergeSort
        (fun a b => decide (a ≤ b)))
  moves := result.moves
  retained := result.retained
  collisions := result.collisions

inductive OrganizePhase where
  | preparing
  | creating
  | checking (move : Move) (remaining : List Move)
  | journaling (move : Move) (remaining : List Move)
  | renaming (move : Move) (remaining : List Move)
  | recording (remaining : List Move)
  | finishing
  | abandoning

inductive RestorePhase where
  | validating (pending planned : List Move)
  | moving (remaining : List Move) (planned : Nat)
  | marking (planned : Nat)

inductive LayoutRun where
  | listing (dryRun : Bool)
  | organizing (manifest : Manifest) (phase : OrganizePhase)
  | reading (timestamp : Nat) (dryRun : Bool)
  | restoring (manifest : Manifest) (dryRun : Bool) (phase : RestorePhase)

/-- How the last run ended. A restore is refused by its validation. -/
inductive LayoutOutcome where
  | organized (manifest : Manifest)
  | restored (restored planned : Nat) (dryRun : Bool)
  | refused (failure : LayoutFailure)
  | failed (failure : LayoutFailure)
  | crashed

structure LayoutWorld (α : Type) where
  files : Files α
  manifests : Nat → Option Manifest := fun _ => none
  run : Option LayoutRun := none
  outcome : Option LayoutOutcome := none

structure CallInput where
  failure : Option Text := none
  entries : List Entry := []
  clock : Nat := 0

/-- `rename` of a file that exists. -/
def Files.rename {α : Type} (files : Files α) (source destination : Path) : Files α :=
  Function.update (Function.update files source none) destination (files source)

def Manifest.next (manifest : Manifest) : List Move → LayoutRun
  | [] => .organizing { manifest with status := .applied } .finishing
  | move :: remaining => .organizing manifest (.checking move remaining)

/-- The `catch` around the loop. -/
def Manifest.abandon (manifest : Manifest) (error : Text) : LayoutRun :=
  .organizing { manifest with status := .incomplete, error := some error } .abandoning

def Manifest.undo (manifest : Manifest) : List Move :=
  (match manifest.currentMove with
    | some current =>
      if manifest.completedMoves.any (fun move =>
          move.source == current.source && move.destination == current.destination) then
        manifest.completedMoves
      else manifest.completedMoves ++ [current]
    | none => manifest.completedMoves).reverse

namespace LayoutWorld

variable {α : Type}

def write (w : LayoutWorld α) (manifest : Manifest) : LayoutWorld α :=
  { w with manifests := Function.update w.manifests manifest.timestamp (some manifest) }

def goto (w : LayoutWorld α) (run : LayoutRun) : LayoutWorld α := { w with run := some run }

def finish (w : LayoutWorld α) (outcome : LayoutOutcome) : LayoutWorld α :=
  { w with run := none, outcome := some outcome }

@[simp] theorem goto_files (w : LayoutWorld α) (run : LayoutRun) :
    (w.goto run).files = w.files := rfl

def fail (w : LayoutWorld α) (message : Text) : LayoutWorld α := w.finish (.failed { message })

def stoppedMessage (α : Type) [LayoutRuntime α] (root : Text) (manifest : Manifest) : Text :=
  utf16 "Bootstrap environment organization stopped after " ++
    decimal manifest.completedMoves.length ++ utf16 " move(s); restore with manifest '" ++
    absolutePath root (organizationRoot ++ [LayoutRuntime.manifestName α manifest.timestamp]) ++
    utf16 "' before retrying: " ++ manifest.error.getD []

def collisionFailure (count : Nat) : LayoutFailure where
  message := utf16 "Bootstrap environment organization found " ++ decimal count ++
    utf16 " destination collision(s); review a dry run and resolve them before applying."
  exitCode := some 3

variable [LayoutRuntime α] (root : Text)

/-- `organizeBootstrapEnvironmentLocked` up to its manifest. -/
def stepListing (w : LayoutWorld α) (dryRun : Bool) (input : CallInput) :
    Option (LayoutWorld α) :=
  match input.failure with
  | some error => some (w.fail error)
  | none =>
    -- a listing has every name once, and its files exist
    if (input.entries.map (·.name)).Nodup ∧
        input.entries.all (fun entry => !entry.isFile || (w.files [entry.name]).isSome) then
      match inventory root w.files input.entries with
      | .error failure => some (w.finish (.failed failure))
      | .ok result =>
        if 0 < result.collisions.length ∧ dryRun = false then
          some (w.finish (.failed (collisionFailure result.collisions.length)))
        else if dryRun then
          some (w.finish (.organized (newManifest input.clock dryRun result)))
        else some (w.goto (.organizing (newManifest input.clock dryRun result) .preparing))
    else none

/-- `organizeBootstrapEnvironmentLocked` from its manifest on. -/
def stepOrganizing (w : LayoutWorld α) (manifest : Manifest) (phase : OrganizePhase)
    (input : CallInput) : Option (LayoutWorld α) :=
  match phase, input.failure with
  | .preparing, none => some (w.goto (.organizing manifest .creating))
  | .creating, none => some ((w.write manifest).goto (manifest.next manifest.moves))
  | .preparing, some error | .creating, some error => some (w.fail error)
  | .checking move remaining, none =>
    some (w.goto (.organizing { manifest with currentMove := some move }
      (.journaling move remaining)))
  | .journaling move remaining, none =>
    some ((w.write manifest).goto (.organizing manifest (.renaming move remaining)))
  | .renaming move remaining, none =>
    if (w.files move.source).isSome then
      some ({ w with files := w.files.rename move.source move.destination }.goto
        (.organizing { manifest with
          completedMoves := manifest.completedMoves ++ [move]
          currentMove := none } (.recording remaining)))
    else none
  | .recording remaining, none => some ((w.write manifest).goto (manifest.next remaining))
  | .finishing, none => some ((w.write manifest).finish (.organized manifest))
  | .abandoning, none => some ((w.write manifest).fail (stoppedMessage α root manifest))
  | .abandoning, some error => some (w.fail error)
  | _, some error => some (w.goto (manifest.abandon error))

/-- `restoreBootstrapEnvironmentLocked` up to its validation. -/
def stepReading (w : LayoutWorld α) (timestamp : Nat) (dryRun : Bool) (input : CallInput) :
    Option (LayoutWorld α) :=
  match input.failure, w.manifests timestamp with
  | some error, _ => some (w.finish (.refused
      { message := utf16 "Bootstrap organization manifest is invalid: " ++ error
        exitCode := some 2 }))
  | none, some manifest =>
    if manifest.status = .restored then
      some (w.finish (.refused
        { message := utf16 "Bootstrap organization manifest has already been restored."
          exitCode := some 3 }))
    else some (w.goto (.restoring manifest dryRun (.validating manifest.undo [])))
  | none, none => none

def checkUndo (files : Files α) (move : Move) : Except LayoutFailure Bool :=
  if isPathInside [] move.destination = false then
    .error (outsideFailure root (utf16 "organized bootstrap artifact") [])
  else if isPathInside [] move.source = false then
    .error (outsideFailure root (utf16 "restored bootstrap artifact") [])
  else
    match (files move.destination).isSome, (files move.source).isSome with
    | true, true => .error
      { message := utf16 "Cannot restore '" ++ move.source.text ++
          utf16 "' because the destination already exists."
        exitCode := some 3 }
    | false, false => .error
      { message := utf16 "Cannot restore missing organized artifact '" ++ move.destination.text ++
          utf16 "'."
        exitCode := some 3 }
    | sourceExists, _ => .ok sourceExists

/-- `restoreBootstrapEnvironmentLocked` from its validation on. -/
def stepRestoring (w : LayoutWorld α) (manifest : Manifest) (dryRun : Bool) (phase : RestorePhase)
    (input : CallInput) : Option (LayoutWorld α) :=
  match phase, input.failure with
  | .validating _ _, some error => some (w.finish (.refused { message := error }))
  | .validating (move :: pending) planned, none =>
    match checkUndo root w.files move with
    | .error failure => some (w.finish (.refused failure))
    | .ok sourceExists => some (w.goto (.restoring manifest dryRun (.validating pending
        (if sourceExists then planned ++ [move] else planned))))
  | .validating [] planned, none =>
    if dryRun then some (w.finish (.restored 0 planned.length true))
    else some (w.goto (.restoring manifest dryRun (.moving planned planned.length)))
  | .moving (move :: remaining) planned, none =>
    if (w.files move.destination).isSome then
      some ({ w with files := w.files.rename move.destination move.source }.goto
        (.restoring manifest dryRun (.moving remaining planned)))
    else none
  | .moving [] planned, none => some (w.goto (.restoring manifest dryRun (.marking planned)))
  | .marking planned, none =>
    some ((w.write { manifest with
      currentMove := none
      status := .restored
      restoredAt := some input.clock }).finish (.restored planned planned false))
  | .moving _ _, some error | .marking _, some error => some (w.fail error)

end LayoutWorld

inductive LayoutLabel where
  | organize (dryRun : Bool)
  | restore (timestamp : Nat) (dryRun : Bool)
  | call (input : CallInput)
  | crash

def LayoutWorld.step {α : Type} [LayoutRuntime α] (root : Text) :
    StepFn (LayoutWorld α) LayoutLabel := fun w label =>
  match label, w.run with
  | .organize dryRun, none => some { w with run := some (.listing dryRun), outcome := none }
  | .restore timestamp dryRun, none =>
    some { w with run := some (.reading timestamp dryRun), outcome := none }
  | .call input, some (.listing dryRun) => w.stepListing root dryRun input
  | .call input, some (.organizing manifest phase) => w.stepOrganizing root manifest phase input
  | .call input, some (.reading timestamp dryRun) => w.stepReading timestamp dryRun input
  | .call input, some (.restoring manifest dryRun phase) =>
    w.stepRestoring root manifest dryRun phase input
  | .crash, some _ => some (w.finish .crashed)
  | _, _ => none

end Realtime.Bootstrap
