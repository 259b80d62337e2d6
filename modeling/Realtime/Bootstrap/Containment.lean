import Realtime.Bootstrap.Contract

/-! `assertPathInside` and the assertions of `main` on its directories. The test looks at the
first characters of a relative path, so that it takes a name that begins with two dots for a way
up. -/

namespace Realtime.Bootstrap

open Sdk List

/-- The paths are resolved; a resolved path is the names of the directories on the way. -/
def assertPathInside (parent child : Path) (description : Text) : Except Text Unit :=
  if isPathInside parent child then .ok ()
  else .error (utf16 "Refusing " ++ description ++ utf16 " outside " ++ slash :: parent.text ++
    utf16 ".")

/-- The assertions for a configured environment directory. -/
def assertInEnvironment (configured : JsValue) (environmentRoot generatedRoot logRoot : List Text) :
    Except Text Unit :=
  match configured with
  | .undefined => .ok ()
  | _ => do
    assertPathInside environmentRoot generatedRoot (utf16 "environment generated output")
    assertPathInside environmentRoot logRoot (utf16 "environment log output")

def resolvedDirectory (repositoryRoot : Path) (environment : Text) (value : JsValue) : Path :=
  resolvePath repositoryRoot (replaceEnvironment (textOf value) environment)

/-- The assertions that `main` makes on the directories of a configuration. -/
def assertDirectories (repositoryRoot : List Text) (config : JsValue) (nameSuffix : Option Text) :
    Except Text Unit := do
  let (environment, suffix) := deploymentNames config nameSuffix
  let paths := config.get (utf16 "paths")
  let resolved := resolvedDirectory repositoryRoot environment
  let environmentRoot := resolved (environmentDirectory paths)
  let generatedRoot := resolved (paths.get (utf16 "generatedDirectory"))
  let logRoot := resolved (paths.get (utf16 "logDirectory"))
  assertPathInside repositoryRoot environmentRoot (utf16 "environment output")
  assertPathInside repositoryRoot generatedRoot (utf16 "generated output")
  assertPathInside repositoryRoot (resolved (paths.get (utf16 "backupDirectory")))
    (utf16 "backup output")
  assertPathInside repositoryRoot logRoot (utf16 "log output")
  assertInEnvironment (paths.get (utf16 "environmentDirectory")) environmentRoot generatedRoot
    logRoot
  let target := environment ++ utf16 "-" ++ applicationName suffix
  assertPathInside generatedRoot (resolvePath generatedRoot target) (utf16 "generated output")
  let locksRoot := resolvePath repositoryRoot (utf16 ".bootstrap/locks")
  assertPathInside locksRoot (resolvePath locksRoot target) (utf16 "target lock")

section

variable {parent child base names : List Text} {name path description environment suffix : Text}

theorem mem_splitOn_of_mem (separator : CodeUnit) {text : Text} {c : CodeUnit} (h : c ∈ text) :
    c = separator ∨ ∃ part ∈ text.splitOn separator, c ∈ part := by
  induction text with
  | nil => cases h
  | cons d text ih =>
    rw [splitOn_cons_eq_if_modifyHead]
    obtain ⟨part, parts, hs⟩ := exists_cons_of_ne_nil (splitOn_ne_nil separator text)
    rw [hs, modifyHead_cons]
    rw [hs] at ih
    rcases mem_cons.mp h with rfl | hm
    · by_cases hc : c = separator
      · exact .inl hc
      · rw [if_neg (by simpa using hc)]
        exact .inr ⟨c :: part, by simp, by simp⟩
    · refine (ih hm).imp_right ?_
      rintro ⟨other, ho, hco⟩
      split_ifs
      · exact ⟨other, mem_cons_of_mem _ ho, hco⟩
      · rcases mem_cons.mp ho with rfl | ho
        · exact ⟨d :: other, by simp, mem_cons_of_mem _ hco⟩
        · exact ⟨other, mem_cons_of_mem _ ho, hco⟩

theorem resolvePath_plain (h : ∀ name ∈ base, IsPlain name) :
    ∀ name ∈ resolvePath base path, IsPlain name := by
  unfold resolvePath
  have hst : ∀ name ∈ if path.head? = some slash then [] else base, IsPlain name := by
    split
    · nofun
    · exact h
  have hsl := notMem_of_mem_splitOn slash path
  generalize (if path.head? = some slash then [] else base) = directories at hst
  generalize path.splitOn slash = names at hsl
  induction names generalizing directories with
  | nil => exact hst
  | cons name names ih =>
    obtain ⟨hna, hre⟩ := forall_mem_cons.mp hsl
    refine ih _ ?_ hre
    dsimp only
    split_ifs with hem hup
    · exact hst
    · exact fun other hm => hst other (mem_of_mem_dropLast hm)
    · rw [not_or] at hem
      simp only [forall_mem_append, forall_mem_singleton]
      exact ⟨hst, hem.1, hem.2, hup, hna⟩

theorem relativePath_append (rest : List Text) : relativePath parent (parent ++ rest) = rest := by
  induction parent with
  | nil => cases rest <;> simp [relativePath]
  | cons name parent ih => simpa [relativePath] using ih

theorem relativePath_of_not_prefix (h : ¬ parent <+: child) :
    ∃ rest, relativePath parent child = utf16 ".." :: rest := by
  induction parent generalizing child with
  | nil => exact absurd nil_prefix h
  | cons name parent ih =>
    cases child with
    | nil => exact ⟨_, rfl⟩
    | cons name' child =>
      rw [relativePath]
      split_ifs with he
      · subst he
        exact ih (fun hp => h (cons_prefix_cons.mpr ⟨rfl, hp⟩))
      · exact ⟨_, rfl⟩

/-- A relative path goes up exactly if its first name does. -/
theorem upward_iff (hem : name ≠ []) :
    utf16 ".." <+: Path.text (name :: names) ↔ utf16 ".." <+: name := by
  unfold Path.text
  cases names with
  | nil => simp
  | cons next names =>
    rw [intercalate_cons_cons]
    match name with
    | [] => cases hem rfl
    | [c] => simp [utf16, encodeChar, slash, codeUnit]
    | c :: d :: name => simp [utf16, encodeChar]

/-- The first name below the parent begins with two dots. -/
def DotsBelow (parent child : Path) : Prop :=
  ∃ name rest, child = parent ++ name :: rest ∧ utf16 ".." <+: name

theorem DotsBelow.isPrefix (h : DotsBelow parent child) : parent <+: child := by
  obtain ⟨name, rest, rfl, -⟩ := h
  exact prefix_append _ _

/-- The test accepts what is below the parent, unless the first name below it begins with two
dots. -/
theorem assertPathInside_iff (hc : ∀ name ∈ child, IsPlain name) :
    assertPathInside parent child description = .ok () ↔
      parent <+: child ∧ ¬ DotsBelow parent child := by
  have hok : assertPathInside parent child description = .ok () ↔
      isPathInside parent child = true := by
    unfold assertPathInside
    split_ifs with h <;> simp [h]
  rw [hok]
  unfold isPathInside
  by_cases hp : parent <+: child
  · obtain ⟨rest, rfl⟩ := hp
    rw [relativePath_append]
    simp only [prefix_append, true_and, DotsBelow, append_cancel_left_eq]
    cases rest with
    | nil => simp [Path.text]
    | cons name rest =>
      obtain ⟨hem, -, -, hsl⟩ := hc name (by simp)
      have hup : _ <+: Path.text (name :: rest) ↔ _ := upward_iff hem
      obtain ⟨c, name, rfl⟩ := exists_cons_of_ne_nil hem
      have hne : c ≠ slash := fun he => hsl (by simp [he])
      obtain ⟨tail, ht⟩ : ∃ tail, Path.text ((c :: name) :: rest) = c :: tail := by
        cases rest <;> simp [Path.text, intercalate_cons_cons]
      rw [ht] at hup ⊢
      rw [← not_iff_not] at hup
      simp [hne, ← isPrefixOf_iff_prefix] at hup ⊢
      exact hup
  · obtain ⟨rest, hr⟩ := relativePath_of_not_prefix hp
    have hu : (utf16 "..").isPrefixOf (Path.text (utf16 ".." :: rest)) = true :=
      isPrefixOf_iff_prefix.mpr ((upward_iff (by decide)).mpr prefix_rfl)
    have hne : Path.text (utf16 ".." :: rest) ≠ [] := by
      intro he
      rw [he] at hu
      exact absurd hu (by decide)
    simp [hr, hp, hu, hne]

theorem assertPathInside_agrees_iff (hc : ∀ name ∈ child, IsPlain name) :
    (assertPathInside parent child description = .ok () ↔ parent <+: child) ↔
      ¬ DotsBelow parent child := by
  rw [assertPathInside_iff hc]
  exact ⟨fun h hd => (h.mpr hd.isPrefix).2 hd, fun hd => ⟨And.left, fun hp => ⟨hp, hd⟩⟩⟩

theorem isPlain_target (hen : isValidEnvironmentName environment = true)
    (hsu : suffix = [] ∨ isNameSuffix suffix = true) :
    IsPlain (environment ++ utf16 "-" ++ applicationName suffix) ∧
      ¬ utf16 ".." <+: environment ++ utf16 "-" ++ applicationName suffix := by
  have hsl : slash ∉ suffix := by
    rcases hsu with rfl | hsu
    · exact not_mem_nil
    · intro hm
      simp only [isNameSuffix, Bool.and_eq_true, all_eq_true] at hsu
      obtain he | ⟨part, hp, hm⟩ := mem_splitOn_of_mem (codeUnit '-') hm
      · cases he
      · exact absurd ((hsu.2 part hp).2 slash hm) (by decide)
  obtain ⟨hem, -, -, hen'⟩ := isPlain_of_environment hen
  obtain ⟨c, rest, rfl⟩ := exists_cons_of_ne_nil hem
  have hc : c ≠ codeUnit '.' := by
    rintro rfl
    exact absurd ((isValidEnvironmentName_spec hen).2.2 (codeUnit '.') (by simp)) (by decide)
  have hap : slash ∉ applicationName suffix := by
    unfold applicationName
    split
    · decide
    · rw [mem_append, not_or]
      exact ⟨by decide, hsl⟩
  refine ⟨⟨by simp, ?_, ?_, ?_⟩, ?_⟩
  · exact fun he => hc (cons.inj he).1
  · exact fun he => hc (cons.inj he).1
  · simp only [mem_append, not_or]
    exact ⟨⟨hen', by decide⟩, hap⟩
  · rintro ⟨rest, he⟩
    exact hc (cons.inj he).1.symm

theorem assertPathInside_target (hb : ∀ name ∈ base, IsPlain name) (hna : IsPlain name)
    (hup : ¬ utf16 ".." <+: name) :
    assertPathInside base (resolvePath base name) description = .ok () := by
  have hs : ([slash].intercalate [name]).splitOn slash = [name] :=
    splitOn_intercalate slash (by simpa using hna.2.2.2) (by simp)
  rw [intercalate_singleton] at hs
  have hr : resolvePath base name = base ++ [name] := by
    rw [resolvePath_of_plain (by simpa [hs] using hna), hs]
  rw [hr, assertPathInside_iff (by simpa [or_imp, forall_and] using ⟨hb, hna⟩)]
  refine ⟨prefix_append _ _, ?_⟩
  rintro ⟨other, rest, he, hdots⟩
  obtain rfl := (cons.inj (append_cancel_left he)).1
  exact hup hdots

theorem Directories.Accepted.inside {d : Directories} {config : JsValue} (h : d.Accepted config)
    (hb : ∀ name ∈ base, IsPlain name) {roots : List Text} (hro : roots ⊆ pathRoots)
    (hpa : isPathBelow roots path = true) :
    assertPathInside base (resolvePath base (replaceEnvironment path d.name)) description =
      .ok () := by
  obtain ⟨root, hr, hp⟩ := h.below base hro hpa
  rw [assertPathInside_iff (resolvePath_plain hb)]
  refine ⟨(prefix_append _ _).trans hp, ?_⟩
  rintro ⟨name, rest, he, hup⟩
  rw [he, prefix_append_right_inj] at hp
  obtain ⟨_, he⟩ := hp
  obtain rfl := (cons.inj he).1
  have hdots : ∀ root ∈ pathRoots, ¬ utf16 ".." <+: root := by decide
  exact hdots root (hro hr) hup

theorem assertInEnvironment_iff {configured : JsValue} {environmentRoot generatedRoot logRoot : Path}
    (hge : ∀ name ∈ generatedRoot, IsPlain name) (hlo : ∀ name ∈ logRoot, IsPlain name) :
    assertInEnvironment configured environmentRoot generatedRoot logRoot = .ok () ↔
      ∀ root ∈ [generatedRoot, logRoot], configured ≠ .undefined →
        environmentRoot <+: root ∧ ¬ DotsBelow environmentRoot root := by
  unfold assertInEnvironment
  split
  · simp
  · next hun =>
    have hge' : assertPathInside environmentRoot generatedRoot
        (utf16 "environment generated output") = .ok () ↔ _ := assertPathInside_iff hge
    have hlo' : assertPathInside environmentRoot logRoot (utf16 "environment log output") =
        .ok () ↔ _ := assertPathInside_iff hlo
    simp only [forall_mem_cons, ne_eq, show configured ≠ .undefined from hun, not_false_eq_true,
      forall_const, ← hge', ← hlo']
    cases assertPathInside environmentRoot generatedRoot (utf16 "environment generated output") <;>
      simp [bind, Except.bind]

end

/-- `assertPathInside` is containment exactly if the first name below the parent does not begin
with two dots. An accepted configuration passes the assertions of `main` exactly if, where an
environment directory is given, the generated and the log directory have no such name first below
it, and are below it where the one given is `null`. -/
theorem containment_agrees (others : JsValue → List Problem) :
    (∀ parent child description : Text,
      (assertPathInside (resolvePath [] parent) (resolvePath [] child) description = .ok () ↔
        resolvePath [] parent <+: resolvePath [] child) ↔
      ¬ DotsBelow (resolvePath [] parent) (resolvePath [] child)) ∧
    ∀ (config : JsValue) (nameSuffix : Option Text) (repositoryRoot : Path),
      validateConfiguration others config = [] →
      (∀ text ∈ nameSuffix, isNameSuffix text = true) →
      (∀ name ∈ repositoryRoot, IsPlain name) →
      let paths := config.get (utf16 "paths")
      let resolved := resolvedDirectory repositoryRoot (deploymentNames config nameSuffix).1
      let environmentRoot := resolved (environmentDirectory paths)
      (assertDirectories repositoryRoot config nameSuffix = .ok () ↔
        ∀ root ∈ [resolved (paths.get (utf16 "generatedDirectory")),
            resolved (paths.get (utf16 "logDirectory"))],
          paths.get (utf16 "environmentDirectory") ≠ .undefined →
          (paths.get (utf16 "environmentDirectory") = .null → environmentRoot <+: root) ∧
            ¬ DotsBelow environmentRoot root) := by
  refine ⟨fun _ _ _ => assertPathInside_agrees_iff (resolvePath_plain (by simp)), ?_⟩
  intro config nameSuffix repositoryRoot h hsu hb paths resolved environmentRoot
  obtain ⟨d, hd⟩ := exists_accepted h
  obtain ⟨hen, hsuffix⟩ := deploymentNames_spec h hsu
  have hname : (deploymentNames config nameSuffix).1 = d.name := by
    simp [deploymentNames, hd.name, textOf]
  obtain ⟨hta, hta'⟩ := isPlain_target hen hsuffix
  rw [hname] at hta hta'
  -- of the assertions only those for a configured environment directory can fail
  have hdi : assertDirectories repositoryRoot config nameSuffix = .ok () ↔
      assertInEnvironment (paths.get (utf16 "environmentDirectory")) environmentRoot
        (resolved (paths.get (utf16 "generatedDirectory")))
        (resolved (paths.get (utf16 "logDirectory"))) = .ok () := by
    simp only [environmentRoot, resolved, paths, assertDirectories, resolvedDirectory, hname,
      hd.environment, hd.generated, hd.backup, hd.log, textOf,
      hd.inside hb bootstrap_subset_pathRoots hd.environmentPath,
      hd.inside hb bootstrap_subset_pathRoots hd.generatedPath,
      hd.inside hb (show [utf16 ".backups"] ⊆ pathRoots by decide) hd.backupPath,
      hd.inside hb logs_subset_pathRoots hd.logPath,
      assertPathInside_target (resolvePath_plain hb) hta hta', bind, Except.bind]
    split <;> simp [*]
  rw [hdi]
  refine (assertInEnvironment_iff (resolvePath_plain hb) (resolvePath_plain hb)).trans ?_
  refine forall₂_congr fun root hroot => forall_congr' fun hun => and_congr_left fun _ => ?_
  refine ⟨fun hp _ => hp, fun hp => ?_⟩
  by_cases hnull : paths.get (utf16 "environmentDirectory") = .null
  · exact hp hnull
  · have hco : paths.get (utf16 "environmentDirectory") = .string d.environment := by
      have hco := hd.environment
      unfold environmentDirectory at hco
      split at hco <;> [contradiction; contradiction; exact hco]
    have hin := hd.resolved repositoryRoot hco
    simp only [environmentRoot, resolved, paths, resolvedDirectory, hname, hd.environment,
      hd.generated, hd.log, textOf, mem_cons, not_mem_nil, or_false] at hroot ⊢
    rcases hroot with rfl | rfl
    · exact hin d.generated (by simp)
    · exact hin d.log (by simp)

theorem containment_agrees_example :
    assertDirectories [utf16 "repository"] (exampleDirectories (.string (utf16 ".bootstrap"))
      (utf16 ".bootstrap/plan/..cache")) none = .ok () := by
  refine ((containment_agrees (fun _ => [])).2 _ none [utf16 "repository"] rfl (by simp) ?_).mpr ?_
  · unfold IsPlain
    decide
  · have hbe : ∀ root : Path, [utf16 "repository", utf16 ".bootstrap", utf16 "plan"] <+: root →
        ¬ DotsBelow [utf16 "repository", utf16 ".bootstrap"] root := by
      rintro _ ⟨rest, rfl⟩ ⟨name, rest', he, hup⟩
      obtain rfl := (cons.inj (cons.inj (cons.inj he).2).2).1
      exact absurd hup (by decide)
    intro root hroot _
    refine ⟨nofun, hbe root ?_⟩
    revert root
    decide

/-- A directory `..cache` is below the repository and refused, and two accepted configurations
are refused by `main`: one for a part `..cache`, one for its environment directory `null`. -/
theorem containment_disagrees :
    (resolvePath [] (utf16 "/repository") <+: resolvePath [] (utf16 "/repository/..cache") ∧
      assertPathInside (resolvePath [] (utf16 "/repository"))
        (resolvePath [] (utf16 "/repository/..cache")) (utf16 "output") =
          .error (utf16 "Refusing output outside /repository.")) ∧
    ∀ config ∈ [exampleDirectories (.string (utf16 ".bootstrap")) (utf16 ".bootstrap/..cache"),
        exampleDirectories .null (utf16 ".bootstrap/generated")],
      validateConfiguration (fun _ => []) config = [] ∧
      ∃ root : String, assertDirectories [utf16 "repository"] config none =
        .error (utf16 ("Refusing environment generated output outside " ++ root ++ ".")) := by
  refine ⟨⟨by decide, rfl⟩, ?_⟩
  simp only [forall_mem_cons]
  exact ⟨⟨rfl, "/repository/.bootstrap", rfl⟩, ⟨rfl, "/repository/.bootstrap/env/dev", rfl⟩, nofun⟩

end Realtime.Bootstrap
