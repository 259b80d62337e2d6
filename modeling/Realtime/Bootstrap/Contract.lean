import Realtime.Bootstrap.Layout
import Realtime.Sdk.Json

/-! The configuration contract of the bootstrap script, as far as the names of its Helm releases
and its output directories depend on it. The releases of two deployments are disjoint unless the
suffix of one ends in that of the other and `redis`, and an accepted directory is below its root. -/

namespace Realtime.Bootstrap

open Sdk List

structure Problem where
  path : Text
  message : Text

def requireString (value : JsValue) (path : Text) (pattern : Text → Bool) (allowEmpty : Bool) :
    List Problem :=
  match value with
  | .string text =>
    if text = [] ∧ allowEmpty = false then [⟨path, utf16 "must be a non-empty string"⟩]
    else if text ≠ [] ∧ pattern text = false then [⟨path, utf16 "has an invalid format"⟩]
    else []
  | _ => [⟨path, utf16 (if allowEmpty then "must be a string" else "must be a non-empty string")⟩]

/-- `^[a-z0-9]{1,10}$`. -/
def isEnvironmentText (text : Text) : Bool :=
  decide (1 ≤ text.length) && decide (text.length ≤ 10) && text.all isEnvironmentLetter

def validateEnvironment (environment : JsValue) : List Problem :=
  let name := environment.get (utf16 "name")
  let path := utf16 "$.environment.name"
  requireString name path isEnvironmentText false ++
    match name with
    | .string text =>
      if isEnvironmentText text && !isValidEnvironmentName text then
        [⟨path, utf16 "must not use a Windows reserved device name"⟩]
      else []
    | _ => []

/-- `^(?=.{1,27}$)[a-z0-9]+(?:-[a-z0-9]+)*$`, which the option `--name-suffix` has to match. -/
def isNameSuffix (text : Text) : Bool :=
  decide (1 ≤ text.length) && decide (text.length ≤ 27) &&
    (text.splitOn (codeUnit '-')).all (fun part => part ≠ [] && part.all isEnvironmentLetter)

def validateNaming (naming : JsValue) : List Problem :=
  requireString (naming.get (utf16 "suffix")) (utf16 "$.naming.suffix") isNameSuffix true

/-! Directories. -/

def environmentToken : Text := utf16 "\x7benvironment\x7d"

def isSegmentLetter (c : CodeUnit) : Bool :=
  isAsciiLetterOrDigit c || c == codeUnit '.' || c == codeUnit '_' || c == codeUnit '-'

/-- `environmentPathSegment` behind its look-ahead, up to the next slash or the end. -/
def isPathSegment (text : Text) : Bool :=
  text == environmentToken || (text ≠ [] && text.all isSegmentLetter &&
    text ≠ utf16 "." && text ≠ utf16 "..")

/-- `^(?:root)(?:\/(?!\.{1,2}(?:\/|$))segment)*$` for some of the roots. -/
def isPathBelow (roots : List Text) (path : Text) : Bool :=
  match path.splitOn slash with
  | [] => false
  | root :: segments => roots.contains root && segments.all isPathSegment

def bootstrapPath : Text → Bool := isPathBelow [utf16 ".bootstrap"]

def backupPath : Text → Bool := isPathBelow [utf16 ".backups"]

def logPath : Text → Bool := isPathBelow [utf16 ".logs", utf16 ".bootstrap"]

/-- `replaceAll` of a text by another one; the first argument counts the code units that still
belong to the occurrence replaced last. -/
def replaceFrom (pattern replacement : Text) : Nat → Text → Text
  | _, [] => []
  | skip + 1, _ :: text => replaceFrom pattern replacement skip text
  | 0, c :: text =>
    if pattern.isPrefixOf (c :: text) then
      replacement ++ replaceFrom pattern replacement (pattern.length - 1) text
    else c :: replaceFrom pattern replacement 0 text

/-- The `replaceAll` of the environment token in `validateConfiguration` and in
`expandEnvironmentPath`. -/
def replaceEnvironment (pathTemplate environment : Text) : Text :=
  replaceFrom environmentToken environment 0 pathTemplate

def pathIsWithin (parent child : Text) : Bool :=
  child == parent || (parent ++ [slash]).isPrefixOf child

/-- The problem of a directory that has to be within the environment directory. -/
def requireWithin (environment parent : Text) (child : JsValue) (pattern : Text → Bool)
    (path : Text) : List Problem :=
  match child with
  | .string text =>
    if pattern text && !pathIsWithin (replaceEnvironment parent environment)
        (replaceEnvironment text environment) then
      [⟨path, utf16 "must be within paths.environmentDirectory"⟩]
    else []
  | _ => []

def defaultEnvironmentDirectory : Text := utf16 ".bootstrap/env/" ++ environmentToken

/-- `paths.environmentDirectory ?? ".bootstrap/env/{environment}"`. -/
def environmentDirectory (paths : JsValue) : JsValue :=
  match paths.get (utf16 "environmentDirectory") with
  | .undefined | .null => .string defaultEnvironmentDirectory
  | value => value

def validatePaths (environment paths : JsValue) : List Problem :=
  let generatedDirectory := paths.get (utf16 "generatedDirectory")
  let logDirectory := paths.get (utf16 "logDirectory")
  requireString (environmentDirectory paths) (utf16 "$.paths.environmentDirectory") bootstrapPath
      false ++
    requireString generatedDirectory (utf16 "$.paths.generatedDirectory") bootstrapPath false ++
    requireString (paths.get (utf16 "backupDirectory")) (utf16 "$.paths.backupDirectory") backupPath
      false ++
    requireString logDirectory (utf16 "$.paths.logDirectory") logPath false ++
    match environment.get (utf16 "name"), paths.get (utf16 "environmentDirectory") with
    | .string name, .string parent =>
      if isValidEnvironmentName name && bootstrapPath parent then
        requireWithin name parent generatedDirectory bootstrapPath
            (utf16 "$.paths.generatedDirectory") ++
          requireWithin name parent logDirectory logPath (utf16 "$.paths.logDirectory")
      else []
    | _, _ => []

/-- The problems of a configuration; the sections that neither names nor directories depend on
are those of `others`. -/
def validateConfiguration (others : JsValue → List Problem) (config : JsValue) : List Problem :=
  let environment := config.get (utf16 "environment")
  validateEnvironment environment ++ validateNaming (config.get (utf16 "naming")) ++
    validatePaths environment (config.get (utf16 "paths")) ++ others config

/-! Release names. -/

structure ReleaseNames where
  application : Text
  release : Text
  redisRelease : Text

def applicationName (suffix : Text) : Text :=
  if suffix = [] then utf16 "realtime" else utf16 "realtime-" ++ suffix

def releaseNames (environment suffix : Text) : Except Text ReleaseNames :=
  let application := applicationName suffix
  let release := environment ++ utf16 "-" ++ application
  let redisRelease := release ++ utf16 "-redis"
  if 53 < release.length ∨ 53 < redisRelease.length then
    .error (utf16 ("Derived Helm release name exceeds 53 characters; shorten the environment " ++
      "or naming suffix."))
  else .ok ⟨application, release, redisRelease⟩

def textOf : JsValue → Text
  | .string text => text
  | _ => []

/-- The environment and the suffix that a run deploys with. -/
def deploymentNames (config : JsValue) (nameSuffix : Option Text) : Text × Text :=
  (textOf ((config.get (utf16 "environment")).get (utf16 "name")),
    nameSuffix.getD (textOf ((config.get (utf16 "naming")).get (utf16 "suffix"))))

section

variable {environment name suffix text path parent child pattern replacement : Text}
  {value : JsValue} {allowEmpty : Bool} {matching : Text → Bool}
  {others : JsValue → List Problem} {config : JsValue}

theorem requireString_eq_nil (h : requireString value path matching allowEmpty = []) :
    ∃ text, value = .string text ∧ (text = [] ∧ allowEmpty = true ∨ matching text = true) := by
  cases value with
  | string text =>
    refine ⟨text, rfl, ?_⟩
    by_cases hem : text = []
    · simp_all [requireString]
    · simp_all [requireString]
  | _ => simp [requireString] at h

theorem validateEnvironment_eq_nil {environment : JsValue}
    (h : validateEnvironment environment = []) :
    ∃ name, environment.get (utf16 "name") = .string name ∧ isValidEnvironmentName name = true := by
  obtain ⟨hna, hde⟩ := append_eq_nil_iff.mp h
  obtain ⟨name, hget, ⟨-, hfa⟩ | hma⟩ := requireString_eq_nil hna
  · cases hfa
  · refine ⟨name, hget, ?_⟩
    by_contra hva
    simp [hget, hma, hva] at hde

theorem isValidEnvironmentName_spec (h : isValidEnvironmentName name = true) :
    1 ≤ name.length ∧ name.length ≤ 10 ∧ ∀ c ∈ name, isEnvironmentLetter c = true := by
  simp only [isValidEnvironmentName, Bool.and_eq_true, decide_eq_true_eq, all_eq_true] at h
  exact ⟨h.1.1.1, h.1.1.2, h.1.2⟩

theorem deploymentNames_spec {nameSuffix : Option Text}
    (h : validateConfiguration others config = [])
    (hsu : ∀ text ∈ nameSuffix, isNameSuffix text = true) :
    isValidEnvironmentName (deploymentNames config nameSuffix).1 = true ∧
      ((deploymentNames config nameSuffix).2 = [] ∨
        isNameSuffix (deploymentNames config nameSuffix).2 = true) := by
  simp only [validateConfiguration, append_eq_nil_iff] at h
  obtain ⟨name, hna, hva⟩ := validateEnvironment_eq_nil h.1.1.1
  obtain ⟨suffix, hget, hma⟩ := requireString_eq_nil h.1.1.2
  constructor
  · simpa [deploymentNames, hna, textOf] using hva
  · cases nameSuffix with
    | some text => exact .inr (hsu text rfl)
    | none =>
      simp only [deploymentNames, hget, textOf, Option.getD_none]
      exact hma.imp_left And.left

theorem isNameSuffix_length (h : suffix = [] ∨ isNameSuffix suffix = true) :
    suffix.length ≤ 27 := by
  rcases h with rfl | h
  · exact Nat.zero_le _
  · simp only [isNameSuffix, Bool.and_eq_true, decide_eq_true_eq] at h
    exact h.1.2

theorem releaseNames_eq (hna : name.length ≤ 10) (hsu : suffix.length ≤ 27) :
    ∃ release : Text, release = name ++ utf16 "-" ++ applicationName suffix ∧
      (release ++ utf16 "-redis").length ≤ 53 ∧ releaseNames name suffix =
        .ok ⟨applicationName suffix, release, release ++ utf16 "-redis"⟩ := by
  have hle : (name ++ utf16 "-" ++ applicationName suffix ++ utf16 "-redis").length ≤ 53 := by
    have hap : (applicationName suffix).length ≤ 36 := by
      unfold applicationName
      split
      · decide
      · rw [length_append, show (utf16 "realtime-").length = 9 from rfl]
        omega
    simp only [length_append, show (utf16 "-").length = 1 from rfl,
      show (utf16 "-redis").length = 6 from rfl]
    omega
  refine ⟨_, rfl, hle, if_neg ?_⟩
  rintro (hlo | hlo)
  · rw [length_append] at hle
    omega
  · omega

/-- The environment is what precedes the first hyphen. -/
theorem release_inj {name' rest rest' : Text} (hna : isValidEnvironmentName name = true)
    (hna' : isValidEnvironmentName name' = true)
    (h : name ++ utf16 "-" ++ rest = name' ++ utf16 "-" ++ rest') : name = name' ∧ rest = rest' := by
  have hle : ∀ {text : Text}, isValidEnvironmentName text = true → codeUnit '-' ∉ text :=
    fun hte hm => nomatch (isValidEnvironmentName_spec hte).2.2 _ hm
  simp only [append_assoc] at h
  obtain ⟨hsa, hre⟩ := append_inj_of_notMem (hle hna) (hle hna') (by rintro c ⟨⟩; rfl)
    (by rintro c ⟨⟩; rfl) h
  exact ⟨hsa, append_cancel_left hre⟩

theorem applicationName_inj {suffix' : Text} (h : applicationName suffix = applicationName suffix') :
    suffix = suffix' := by
  unfold applicationName at h
  split at h <;> split at h
  · simp_all
  · simp_all [utf16, encodeChar]
  · simp_all [utf16, encodeChar]
  · exact append_cancel_left h

end

/-- The suffix that makes the gateway release of one deployment the Redis release of another. -/
def redisSuffix (suffix : Text) : Text :=
  if suffix = [] then utf16 "redis" else suffix ++ utf16 "-redis"

theorem applicationName_redisSuffix (suffix : Text) :
    applicationName (redisSuffix suffix) = applicationName suffix ++ utf16 "-redis" := by
  unfold applicationName redisSuffix
  by_cases hem : suffix = []
  · simp only [hem, if_true]
    rfl
  · simp [hem]

theorem release_eq_redis_iff {name name' suffix suffix' : Text}
    (hna : isValidEnvironmentName name = true) (hna' : isValidEnvironmentName name' = true) :
    name ++ utf16 "-" ++ applicationName suffix =
        name' ++ utf16 "-" ++ applicationName suffix' ++ utf16 "-redis" ↔
      name = name' ∧ suffix = redisSuffix suffix' := by
  rw [append_assoc (name' ++ _), ← applicationName_redisSuffix]
  constructor
  · intro h
    obtain ⟨hsa, hap⟩ := release_inj hna hna' h
    exact ⟨hsa, applicationName_inj hap⟩
  · rintro ⟨rfl, rfl⟩
    rfl

/-- The names of two different deployments clash exactly if they are of one environment and one
has the Redis suffix of the other. -/
theorem release_names_disjoint (others : JsValue → List Problem) {first second : JsValue}
    {option option' : Option Text} (hfirst : validateConfiguration others first = [])
    (hsecond : validateConfiguration others second = [])
    (hoption : ∀ text ∈ option, isNameSuffix text = true)
    (hoption' : ∀ text ∈ option', isNameSuffix text = true)
    (hne : deploymentNames first option ≠ deploymentNames second option') :
    ∃ names names', releaseNames (deploymentNames first option).1
        (deploymentNames first option).2 = .ok names ∧
      releaseNames (deploymentNames second option').1
        (deploymentNames second option').2 = .ok names' ∧
      (∀ name ∈ [names.release, names.redisRelease, names'.release, names'.redisRelease],
        name.length ≤ 53) ∧
      (List.Disjoint [names.release, names.redisRelease] [names'.release, names'.redisRelease] ↔
        ((deploymentNames first option).1 = (deploymentNames second option').1 →
          (deploymentNames first option).2 ≠ redisSuffix (deploymentNames second option').2 ∧
          (deploymentNames second option').2 ≠ redisSuffix (deploymentNames first option).2)) := by
  obtain ⟨hna, hsu⟩ := deploymentNames_spec hfirst hoption
  obtain ⟨hna', hsu'⟩ := deploymentNames_spec hsecond hoption'
  generalize deploymentNames first option = pair at *
  generalize deploymentNames second option' = pair' at *
  obtain ⟨release, hre, hle, hok⟩ :=
    releaseNames_eq (isValidEnvironmentName_spec hna).2.1 (isNameSuffix_length hsu)
  obtain ⟨release', hre', hle', hok'⟩ :=
    releaseNames_eq (isValidEnvironmentName_spec hna').2.1 (isNameSuffix_length hsu')
  refine ⟨_, _, hok, hok', ?_, ?_⟩
  · simp only [forall_mem_cons, length_append] at hle hle' ⊢
    exact ⟨by omega, hle, by omega, hle', by simp⟩
  have hga : release ≠ release' := by
    rw [hre, hre']
    intro h
    obtain ⟨hsa, hap⟩ := release_inj hna hna' h
    exact hne (Prod.ext hsa (applicationName_inj hap))
  have hred : release = release' ++ utf16 "-redis" ↔
      pair.1 = pair'.1 ∧ pair.2 = redisSuffix pair'.2 := by
    rw [hre, hre', release_eq_redis_iff hna hna']
  have hred' : release ++ utf16 "-redis" = release' ↔
      pair.1 = pair'.1 ∧ pair'.2 = redisSuffix pair.2 := by
    rw [eq_comm, hre, hre', release_eq_redis_iff hna' hna, eq_comm (a := pair.1)]
  have hdi : List.Disjoint [release, release ++ utf16 "-redis"]
      [release', release' ++ utf16 "-redis"] ↔
        release ≠ release' ++ utf16 "-redis" ∧ release ++ utf16 "-redis" ≠ release' := by
    generalize utf16 "-redis" = redis
    simp [disjoint_left, hga]
  rw [hdi, Ne, hred, Ne, hred']
  constructor
  · rintro ⟨hno, hno'⟩ hsa
    exact ⟨fun h => hno ⟨hsa, h⟩, fun h => hno' ⟨hsa, h⟩⟩
  · intro h
    exact ⟨fun hc => (h hc.1).1 hc.2, fun hc => (h hc.1).2 hc.2⟩

def exampleConfiguration (suffix : Text) : JsValue :=
  .object [(utf16 "environment", .object [(utf16 "name", .string (utf16 "dev"))]),
    (utf16 "naming", .object [(utf16 "suffix", .string suffix)]),
    (utf16 "paths", .object [(utf16 "generatedDirectory", .string (utf16 ".bootstrap/generated")),
      (utf16 "backupDirectory", .string (utf16 ".backups")),
      (utf16 "logDirectory", .string (utf16 ".logs"))])]

theorem release_names_disjoint_example : ∃ names names',
    releaseNames (utf16 "dev") (utf16 "blue") = .ok names ∧
    releaseNames (utf16 "dev") (utf16 "green") = .ok names' ∧
    List.Disjoint [names.release, names.redisRelease] [names'.release, names'.redisRelease] := by
  have hbl : validateConfiguration (fun _ => []) (exampleConfiguration (utf16 "blue")) = [] := rfl
  have hem : validateConfiguration (fun _ => []) (exampleConfiguration []) = [] := rfl
  have hop : ∀ text ∈ some (utf16 "green"), isNameSuffix text = true := by decide
  obtain ⟨names, names', hok, hok', -, hdi⟩ := release_names_disjoint (fun _ => []) hbl
    hem (show ∀ text ∈ none, isNameSuffix text = true from nofun) hop (by decide)
  exact ⟨names, names', hok, hok', hdi.mpr (by decide)⟩

/-- The gateway of the suffix `redis` has the release of the Redis of the empty suffix. -/
theorem redis_suffix_clashes : ∃ config names names',
    validateConfiguration (fun _ => []) config = [] ∧ isNameSuffix (utf16 "redis") = true ∧
    releaseNames (deploymentNames config none).1 (deploymentNames config none).2 = .ok names ∧
    releaseNames (deploymentNames config (some (utf16 "redis"))).1
      (deploymentNames config (some (utf16 "redis"))).2 = .ok names' ∧
    names.redisRelease = names'.release :=
  ⟨exampleConfiguration [], _, _, rfl, by decide, rfl, rfl, rfl⟩

/-! Resolved directories. -/

/-- `resolve` of a path from a directory, as the names of the directories on the way. -/
def resolvePath (base : List Text) (path : Text) : List Text :=
  (path.splitOn slash).foldl (fun directories name =>
    if name = [] ∨ name = utf16 "." then directories
    else if name = utf16 ".." then directories.dropLast
    else directories ++ [name]) (if path.head? = some slash then [] else base)

def IsPlain (name : Text) : Prop := name ≠ [] ∧ name ≠ utf16 "." ∧ name ≠ utf16 ".." ∧ slash ∉ name

/-- A part of an accepted path, before the environment is filled in. -/
def IsTemplate (name : Text) : Prop :=
  name = environmentToken ∨ IsPlain name ∧ codeUnit '\x7b' ∉ name

def expandName (environment name : Text) : Text :=
  if name = environmentToken then environment else name

section

variable {environment path parent child pattern replacement : Text} {roots names base : List Text}

theorem resolvePath_of_plain (h : ∀ name ∈ path.splitOn slash, IsPlain name) :
    resolvePath base path = base ++ path.splitOn slash := by
  have hhe : path.head? ≠ some slash := by
    intro hsl
    obtain ⟨rest, rfl⟩ := head?_eq_some_iff.mp hsl
    exact (h [] (by simp [splitOn_cons_eq_if_modifyHead])).1 rfl
  rw [resolvePath, if_neg hhe]
  generalize path.splitOn slash = names at h
  induction names generalizing base with
  | nil => simp
  | cons name names ih =>
    obtain ⟨⟨hem, hdot, hup, -⟩, hre⟩ := forall_mem_cons.mp h
    simp [hem, hdot, hup, ih hre]

theorem intercalate_append {names' : List Text} (hna : names ≠ []) (hna' : names' ≠ []) :
    [slash].intercalate (names ++ names') =
      [slash].intercalate names ++ slash :: [slash].intercalate names' := by
  induction names with
  | nil => cases hna rfl
  | cons name names ih =>
    cases names with
    | nil => simp [intercalate_cons_of_ne_nil hna']
    | cons next names => simpa [intercalate_cons_cons] using ih (by simp)

/-- The textual test is containment of the directories on the way. -/
theorem pathIsWithin_iff : pathIsWithin parent child = true ↔
    parent.splitOn slash <+: child.splitOn slash := by
  simp only [pathIsWithin, Bool.or_eq_true, beq_iff_eq, isPrefixOf_iff_prefix]
  constructor
  · rintro (rfl | ⟨rest, rfl⟩)
    · exact prefix_rfl
    · rw [append_assoc, singleton_append, splitOn_append_cons_self]
      exact prefix_append _ _
  · rintro ⟨rest, hre⟩
    have hch : [slash].intercalate (child.splitOn slash) = child :=
      intercalate_splitOn slash
    rw [← hch, ← hre]
    by_cases hem : rest = []
    · left
      rw [hem, append_nil, intercalate_splitOn]
    · right
      rw [intercalate_append (splitOn_ne_nil _ _) hem, intercalate_splitOn]
      exact ⟨[slash].intercalate rest, by simp⟩

theorem replaceFrom_plain (hpa : pattern ≠ []) (h : ∀ c ∈ path, pattern.head? ≠ some c)
    (rest : Text) : replaceFrom pattern replacement 0 (path ++ rest) =
      path ++ replaceFrom pattern replacement 0 rest := by
  induction path with
  | nil => rfl
  | cons c path ih =>
    obtain ⟨hc, hpat⟩ := forall_mem_cons.mp h
    obtain ⟨first, pattern, rfl⟩ := exists_cons_of_ne_nil hpa
    have hne : ¬ (first == c) = true := by simpa using hc
    rw [cons_append, replaceFrom, isPrefixOf_cons_cons, if_neg (by simp [hne]), ih hpat]
    rfl

theorem replaceEnvironment_intercalate (h : ∀ name ∈ names, IsTemplate name) :
    replaceEnvironment ([slash].intercalate names) environment =
      [slash].intercalate (names.map (expandName environment)) := by
  have hpa : ∀ name rest, IsTemplate name →
      replaceFrom environmentToken environment 0 (name ++ rest) =
        expandName environment name ++ replaceFrom environmentToken environment 0 rest := by
    intro name rest hna
    unfold expandName
    by_cases hto : name = environmentToken
    · rw [hto, if_pos rfl]
      exact if_pos ( isPrefixOf_iff_prefix.mpr (prefix_append environmentToken rest))
    · rw [if_neg hto]
      refine replaceFrom_plain (by decide) ?_ rest
      rintro c hc ⟨⟩
      exact (hna.resolve_left hto).2 hc
  induction names with
  | nil => rfl
  | cons name names ih =>
    obtain ⟨hna, hnam⟩ := forall_mem_cons.mp h
    cases names with
    | nil => simpa [replaceEnvironment, replaceFrom] using hpa name [] hna
    | cons next names =>
      have hsl : replaceFrom environmentToken environment 0
          ([slash] ++ [slash].intercalate (next :: names)) =
            [slash] ++ replaceEnvironment ([slash].intercalate (next :: names)) environment :=
        replaceFrom_plain (by decide) (forall_mem_singleton.mpr (by decide)) _
      rw [replaceEnvironment, intercalate_cons_cons, append_assoc, hpa _ _ hna,
        hsl, ih hnam, map_cons, map_cons, map_cons, intercalate_cons_cons,
        append_assoc]

theorem isTemplate_of_segment (h : isPathSegment path = true) : IsTemplate path := by
  have hlet : ∀ c ∈ path, isSegmentLetter c = true → c ≠ slash ∧ c ≠ codeUnit '\x7b' := by
    rintro c - hc
    constructor <;> rintro rfl <;> cases hc
  simp only [isPathSegment, Bool.or_eq_true, beq_iff_eq, Bool.and_eq_true, decide_eq_true_eq,
    all_eq_true] at h
  obtain hto | ⟨⟨⟨hem, hle⟩, hdot⟩, hup⟩ := h
  · exact .inl hto
  · exact .inr ⟨⟨hem, hdot, hup, fun hm => (hlet _ hm (hle _ hm)).1 rfl⟩,
      fun hm => (hlet _ hm (hle _ hm)).2 rfl⟩

theorem isPlain_of_environment (h : isValidEnvironmentName environment = true) :
    IsPlain environment := by
  obtain ⟨hlen, -, hle⟩ := isValidEnvironmentName_spec h
  refine ⟨?_, ?_, ?_, fun hm => nomatch hle _ hm⟩
  · rintro rfl
    cases hlen
  · rintro rfl
    exact nomatch hle (codeUnit '.') (by decide)
  · rintro rfl
    exact nomatch hle (codeUnit '.') (by decide)

/-- An accepted path has no `.` or `..` to resolve: its directories are those of its text, and
they start with the root. -/
theorem resolvePath_accepted (hen : isValidEnvironmentName environment = true)
    (hro : ∀ root ∈ roots, root ≠ environmentToken ∧ IsTemplate root)
    (h : isPathBelow roots path = true) :
    resolvePath base (replaceEnvironment path environment) =
        base ++ (replaceEnvironment path environment).splitOn slash ∧
      ∃ root ∈ roots, base ++ [root] <+:
        resolvePath base (replaceEnvironment path environment) := by
  unfold isPathBelow at h
  split at h
  · cases h
  next root segments hsp =>
  simp only [Bool.and_eq_true, contains_iff_mem, all_eq_true] at h
  have hte : ∀ name ∈ root :: segments, IsTemplate name := by
    rintro name (_ | ⟨_, hm⟩)
    · exact (hro root h.1).2
    · exact isTemplate_of_segment (h.2 name hm)
  have hpl : ∀ name ∈ (root :: segments).map (expandName environment), IsPlain name := by
    intro name hm
    obtain ⟨template, hmem, rfl⟩ := mem_map.mp hm
    unfold expandName
    split
    · exact isPlain_of_environment hen
    · next hto => exact ((hte template hmem).resolve_left hto).1
  have hpa : [slash].intercalate (path.splitOn slash) = path := intercalate_splitOn slash
  have hex : replaceEnvironment path environment =
      [slash].intercalate ((root :: segments).map (expandName environment)) := by
    rw [← hpa, hsp]
    exact replaceEnvironment_intercalate hte
  have hna := splitOn_intercalate slash (fun name hm => (hpl name hm).2.2.2) (by simp)
  rw [← hex] at hna
  have hre : resolvePath base (replaceEnvironment path environment) = _ :=
    resolvePath_of_plain (hna ▸ hpl)
  refine ⟨hre, root, h.1, ?_⟩
  rw [hre, hna, map_cons, expandName, if_neg (hro root h.1).1]
  exact (prefix_append_right_inj base).mpr (prefix_append [root] _)

end

/-- The roots of the accepted paths. -/
def pathRoots : List Text := [utf16 ".bootstrap", utf16 ".backups", utf16 ".logs"]

theorem isTemplate_pathRoots : ∀ root ∈ pathRoots, root ≠ environmentToken ∧ IsTemplate root := by
  unfold IsTemplate IsPlain
  decide

theorem within_iff_resolved {environment parent child : Text} (base : List Text)
    (hen : isValidEnvironmentName environment = true)
    (hpa : isPathBelow pathRoots parent = true) (hch : isPathBelow pathRoots child = true) :
    pathIsWithin (replaceEnvironment parent environment) (replaceEnvironment child environment) =
        true ↔
      resolvePath base (replaceEnvironment parent environment) <+:
        resolvePath base (replaceEnvironment child environment) := by
  rw [(resolvePath_accepted hen isTemplate_pathRoots hpa).1,
    (resolvePath_accepted hen isTemplate_pathRoots hch).1,
    prefix_append_right_inj, pathIsWithin_iff]

theorem isPathBelow_mono {roots roots' : List Text} {path : Text} (hro : roots ⊆ roots')
    (h : isPathBelow roots path = true) : isPathBelow roots' path = true := by
  unfold isPathBelow at h ⊢
  split at h
  · cases h
  · simp only [Bool.and_eq_true, contains_iff_mem] at h ⊢
    exact ⟨hro h.1, h.2⟩

theorem requireWithin_eq_nil {environment parent child path : Text} {matching : Text → Bool}
    (hma : matching child = true)
    (h : requireWithin environment parent (.string child) matching path = []) :
    pathIsWithin (replaceEnvironment parent environment) (replaceEnvironment child environment) =
      true := by
  by_contra hnot
  simp [requireWithin, hma, hnot] at h

/-- The texts of an accepted configuration that name its directories. -/
structure Directories where
  name : Text
  environment : Text
  generated : Text
  backup : Text
  log : Text

/-- The directories are those of the configuration and passed their checks. -/
structure Directories.Accepted (d : Directories) (config : JsValue) : Prop where
  name : (config.get (utf16 "environment")).get (utf16 "name") = .string d.name
  valid : isValidEnvironmentName d.name = true
  environment : environmentDirectory (config.get (utf16 "paths")) = .string d.environment
  environmentPath : bootstrapPath d.environment = true
  generated : (config.get (utf16 "paths")).get (utf16 "generatedDirectory") = .string d.generated
  generatedPath : bootstrapPath d.generated = true
  backup : (config.get (utf16 "paths")).get (utf16 "backupDirectory") = .string d.backup
  backupPath : backupPath d.backup = true
  log : (config.get (utf16 "paths")).get (utf16 "logDirectory") = .string d.log
  logPath : logPath d.log = true
  within : (config.get (utf16 "paths")).get (utf16 "environmentDirectory") =
      .string d.environment →
    ∀ child ∈ [d.generated, d.log], pathIsWithin (replaceEnvironment d.environment d.name)
      (replaceEnvironment child d.name) = true

theorem exists_accepted {others : JsValue → List Problem} {config : JsValue}
    (h : validateConfiguration others config = []) : ∃ d : Directories, d.Accepted config := by
  simp only [validateConfiguration, validatePaths, append_eq_nil_iff] at h
  obtain ⟨⟨⟨hen, -⟩, ⟨⟨⟨hdi, hge⟩, hba⟩, hlog⟩, hwi⟩, -⟩ := h
  obtain ⟨name, hna, hva⟩ := validateEnvironment_eq_nil hen
  have hpat : ∀ {value path matching}, requireString value path matching false = [] →
      ∃ text, value = .string text ∧ matching text = true := by
    intro value path matching hnil
    obtain ⟨text, hval, ⟨-, hfa⟩ | hma⟩ := requireString_eq_nil hnil
    · cases hfa
    · exact ⟨text, hval, hma⟩
  obtain ⟨directory, hdi, hdi'⟩ := hpat hdi
  obtain ⟨generated, hge, hge'⟩ := hpat hge
  obtain ⟨backup, hba, hba'⟩ := hpat hba
  obtain ⟨log, hlog, hlog'⟩ := hpat hlog
  refine ⟨⟨name, directory, generated, backup, log⟩, hna, hva, hdi, hdi', hge, hge', hba, hba',
    hlog, hlog', ?_⟩
  intro hco
  simp only [hna, hco, hva, hdi', Bool.and_self, if_true, hge, hlog,
    append_eq_nil_iff] at hwi
  simp only [forall_mem_cons]
  exact ⟨requireWithin_eq_nil hge' hwi.1, requireWithin_eq_nil hlog' hwi.2, nofun⟩

theorem bootstrap_subset_pathRoots : [utf16 ".bootstrap"] ⊆ pathRoots := by decide

theorem logs_subset_pathRoots : [utf16 ".logs", utf16 ".bootstrap"] ⊆ pathRoots := by decide

theorem Directories.Accepted.below {d : Directories} {config : JsValue} (h : d.Accepted config)
    {roots : List Text} {path : Text} (base : List Text) (hro : roots ⊆ pathRoots)
    (hpa : isPathBelow roots path = true) :
    ∃ root ∈ roots, base ++ [root] <+: resolvePath base (replaceEnvironment path d.name) :=
  (resolvePath_accepted h.valid (fun root hm => isTemplate_pathRoots root (hro hm)) hpa).2

theorem Directories.Accepted.belowRoots {d : Directories} {config : JsValue}
    (h : d.Accepted config) :
    ∀ path ∈ [d.environment, d.generated, d.log], isPathBelow pathRoots path = true := by
  simp only [forall_mem_cons]
  exact ⟨isPathBelow_mono bootstrap_subset_pathRoots h.environmentPath,
    isPathBelow_mono bootstrap_subset_pathRoots h.generatedPath,
    isPathBelow_mono logs_subset_pathRoots h.logPath, nofun⟩

theorem Directories.Accepted.resolved {d : Directories} {config : JsValue} (h : d.Accepted config)
    (base : List Text)
    (hco : (config.get (utf16 "paths")).get (utf16 "environmentDirectory") =
      .string d.environment) :
    ∀ child ∈ [d.generated, d.log], resolvePath base (replaceEnvironment d.environment d.name) <+:
      resolvePath base (replaceEnvironment child d.name) := by
  intro child hm
  exact (within_iff_resolved base h.valid (h.belowRoots _ (by simp))
    (h.belowRoots child (mem_cons_of_mem _ hm))).mp (h.within hco child hm)

/-- `base` is the way to the repository. -/
theorem accepted_paths_contained (others : JsValue → List Problem) {config : JsValue}
    (h : validateConfiguration others config = []) (base : List Text) :
    let paths := config.get (utf16 "paths")
    ∃ name directory generated backup log,
      (config.get (utf16 "environment")).get (utf16 "name") = .string name ∧
      environmentDirectory paths = .string directory ∧
      paths.get (utf16 "generatedDirectory") = .string generated ∧
      paths.get (utf16 "backupDirectory") = .string backup ∧
      paths.get (utf16 "logDirectory") = .string log ∧
      let resolved := fun path => resolvePath base (replaceEnvironment path name)
      let below := fun root path => base ++ [utf16 root] <+: resolved path
      below ".bootstrap" directory ∧ below ".bootstrap" generated ∧ below ".backups" backup ∧
      (below ".logs" log ∨ below ".bootstrap" log) ∧
      (paths.get (utf16 "environmentDirectory") = .string directory →
        resolved directory <+: resolved generated ∧ resolved directory <+: resolved log) ∧
      ∀ parent child, isPathBelow pathRoots parent = true → isPathBelow pathRoots child = true →
        (pathIsWithin (replaceEnvironment parent name) (replaceEnvironment child name) = true ↔
          resolved parent <+: resolved child) := by
  intro paths
  obtain ⟨d, hd⟩ := exists_accepted h
  refine ⟨d.name, d.environment, d.generated, d.backup, d.log, hd.name, hd.environment,
    hd.generated, hd.backup, hd.log, ?_, ?_, ?_, ?_, ?_, ?_⟩
  · simpa using hd.below base bootstrap_subset_pathRoots hd.environmentPath
  · simpa using hd.below base bootstrap_subset_pathRoots hd.generatedPath
  · simpa using hd.below base (by decide) hd.backupPath
  · simpa using hd.below base logs_subset_pathRoots hd.logPath
  · intro hco
    exact ⟨hd.resolved base hco _ (by simp), hd.resolved base hco _ (by simp)⟩
  · exact fun parent child hpa hch => within_iff_resolved base hd.valid hpa hch

/-- A configuration whose environment directory is given. -/
def exampleDirectories (environmentDirectory : JsValue) (generated : Text) : JsValue :=
  .object [(utf16 "environment", .object [(utf16 "name", .string (utf16 "dev"))]),
    (utf16 "naming", .object [(utf16 "suffix", .string [])]),
    (utf16 "paths", .object [(utf16 "environmentDirectory", environmentDirectory),
      (utf16 "generatedDirectory", .string generated),
      (utf16 "backupDirectory", .string (utf16 ".backups")),
      (utf16 "logDirectory", .string (generated ++ utf16 "/logs"))])]

theorem accepted_paths_contained_example :
    [utf16 "repository", utf16 ".bootstrap", utf16 "dev"] <+: resolvePath [utf16 "repository"]
      (replaceEnvironment (utf16 ".bootstrap/\x7benvironment\x7d/plan") (utf16 "dev")) := by
  obtain ⟨name, directory, generated, _, _, hna, hen, hge, -, -, -, -, -, -, hin, -⟩ :=
    accepted_paths_contained (fun _ => []) (show validateConfiguration _
      (exampleDirectories (.string (utf16 ".bootstrap/\x7benvironment\x7d"))
        (utf16 ".bootstrap/\x7benvironment\x7d/plan")) = [] from rfl) [utf16 "repository"]
  obtain rfl := JsValue.string.inj hna
  obtain rfl := JsValue.string.inj hen
  obtain rfl := JsValue.string.inj hge
  exact (hin rfl).1

end Realtime.Bootstrap
