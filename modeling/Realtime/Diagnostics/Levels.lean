import Realtime.Diagnostics.Overrides

/-! The level of a category is that of the most specific override that matches it. The
selection compares lengths, so this needs that no two matching overrides tie: a named
category of one character ties with `*`. -/

namespace Realtime.Diagnostics

open List

section

variable {α : Type} {rank : α → Nat × Nat} {items items' : List α} {item : α}

theorem firstByRank_eq_none_iff : firstByRank rank items = none ↔ items = [] := by
  cases items with
  | nil => simp [firstByRank]
  | cons first rest =>
    simp only [firstByRank]
    split
    · split <;> simp
    · simp

theorem firstByRank_greatest (h : firstByRank rank items = some item) :
    item ∈ items ∧ ∀ other ∈ items, toLex (rank other) ≤ toLex (rank item) := by
  induction items generalizing item with
  | nil => cases h
  | cons first rest ih =>
    simp only [firstByRank] at h
    split at h
    · next best hbe =>
      obtain ⟨hmem, hgr⟩ := ih hbe
      split at h
      · next hlt =>
        cases h
        have hle : toLex (rank first) ≤ toLex (rank item) := by
          rw [Prod.Lex.toLex_le_toLex]
          omega
        refine ⟨mem_cons_of_mem _ hmem, ?_⟩
        intro other hot
        rcases mem_cons.mp hot with rfl | hot
        · exact hle
        · exact hgr other hot
      · next hlt =>
        obtain rfl := Option.some.inj h
        have hle : toLex (rank best) ≤ toLex (rank first) := by
          rw [Prod.Lex.toLex_le_toLex]
          omega
        refine ⟨mem_cons_self, ?_⟩
        intro other hot
        rcases mem_cons.mp hot with rfl | hot
        · exact le_refl _
        · exact (hgr other hot).trans hle
    · next hno =>
      cases h
      rw [firstByRank_eq_none_iff] at hno
      subst hno
      refine ⟨mem_cons_self, ?_⟩
      intro other hot
      rw [mem_singleton.mp hot]

theorem firstByRank_perm (hpe : items.Perm items')
    (hinj : ∀ a ∈ items, ∀ b ∈ items, rank a = rank b → a = b) :
    firstByRank rank items = firstByRank rank items' := by
  cases hfi : firstByRank rank items with
  | none =>
    rw [firstByRank_eq_none_iff] at hfi
    subst hfi
    rw [← hpe.nil_eq]
    rfl
  | some item =>
    cases hfi' : firstByRank rank items' with
    | none =>
      rw [firstByRank_eq_none_iff] at hfi'
      subst hfi'
      rw [hpe.eq_nil] at hfi
      cases hfi
    | some item' =>
      obtain ⟨hmem, hgr⟩ := firstByRank_greatest hfi
      obtain ⟨hme', hgr'⟩ := firstByRank_greatest hfi'
      have hle := hgr item' (hpe.mem_iff.mpr hme')
      have hle' := hgr' item (hpe.mem_iff.mp hmem)
      have heq : rank item = rank item' := toLex.injective (le_antisymm hle' hle)
      rw [hinj item hmem item' (hpe.mem_iff.mpr hme') heq]

end

/-- The rank by which `EffectiveLevelCore` orders the matching overrides. -/
def ActiveLogLevelOverride.rank (o : ActiveLogLevelOverride) : Nat × Nat :=
  (o.category.length, if o.scope = utf16 "instance" then 1 else 0)

def ActiveLogLevelOverride.Matches (o : ActiveLogLevelOverride) (category : Text) (now : Nat) :
    Prop :=
  now < o.expiresAt ∧ covers o.category category = true

/-- A named category is more specific than `*`, a longer one than a shorter one, and for
one category the instance is more specific than all replicas. -/
inductive ActiveLogLevelOverride.MoreSpecific (o other : ActiveLogLevelOverride) : Prop where
  | named (ho : o.category ≠ utf16 "*") (hother : other.category = utf16 "*")
  | longer (ho : o.category ≠ utf16 "*") (hother : other.category ≠ utf16 "*")
    (hlength : other.category.length < o.category.length)
  | scope (hcategory : o.category = other.category) (ho : o.scope = utf16 "instance")
    (hother : other.scope = utf16 "all")

theorem covers_cases {configured category : Text} (h : covers configured category = true) :
    configured = utf16 "*" ∨ configured <+: category := by
  unfold covers at h
  simp only [Bool.or_eq_true, beq_iff_eq, isPrefixOf_iff_prefix] at h
  rcases h with (h | h) | h
  · exact .inl h
  · exact .inr ⟨[], by rw [append_nil, h]⟩
  · exact .inr ((prefix_append _ _).trans h)

/-- What the overrides of one dictionary have: their own ids, their own pairs of category
and scope, one of the two scopes, and no named category as short as `*`. -/
structure Distinguished (overrides : List ActiveLogLevelOverride) : Prop where
  ids : overrides.Pairwise (fun o other => o.id ≠ other.id)
  pairs : overrides.Pairwise (fun o other => ¬ (o.category = other.category ∧
    o.scope = other.scope))
  scopes : ∀ o ∈ overrides, o.scope = utf16 "all" ∨ o.scope = utf16 "instance"
  categories : ∀ o ∈ overrides, o.category ≠ utf16 "*" → 1 < o.category.length

namespace Distinguished

variable {overrides : List ActiveLogLevelOverride} {o other : ActiveLogLevelOverride}
  {category : Text} {now : Nat}

theorem nil : Distinguished [] :=
  ⟨.nil, .nil, (fun _ h => nomatch h), (fun _ h => nomatch h)⟩

theorem sublist {shorter : List ActiveLogLevelOverride} (h : Distinguished overrides)
    (hs : shorter.Sublist overrides) : Distinguished shorter :=
  ⟨h.ids.sublist hs, h.pairs.sublist hs, fun o ho => h.scopes o (hs.subset ho),
    fun o ho => h.categories o (hs.subset ho)⟩

theorem perm {shuffled : List ActiveLogLevelOverride} (h : Distinguished overrides)
    (hp : shuffled.Perm overrides) : Distinguished shuffled := by
  refine ⟨?_, ?_, fun o ho => h.scopes o (hp.mem_iff.mp ho),
    fun o ho => h.categories o (hp.mem_iff.mp ho)⟩
  · refine h.ids.perm hp.symm ?_
    intro a b hab
    exact hab.symm
  · refine h.pairs.perm hp.symm ?_
    intro a b hab hba
    exact hab ⟨hba.1.symm, hba.2.symm⟩

theorem append_singleton (h : Distinguished overrides)
    (hid : ∀ other ∈ overrides, other.id ≠ o.id)
    (hpa : ∀ other ∈ overrides, ¬ (other.category = o.category ∧ other.scope = o.scope))
    (hsc : o.scope = utf16 "all" ∨ o.scope = utf16 "instance")
    (hca : o.category ≠ utf16 "*" → 1 < o.category.length) :
    Distinguished (overrides ++ [o]) := by
  have hmem {p : ActiveLogLevelOverride → Prop} (hold : ∀ o ∈ overrides, p o) (hnew : p o) :
      ∀ o' ∈ overrides ++ [o], p o' := by
    exact forall_mem_concat hold hnew
  refine ⟨?_, ?_, hmem h.scopes hsc, hmem h.categories hca⟩
  · exact pairwise_append.mpr ⟨h.ids, pairwise_singleton _ _, fun other hot o' ho' =>
      mem_singleton.mp ho' ▸ hid other hot⟩
  · exact pairwise_append.mpr ⟨h.pairs, pairwise_singleton _ _,
      fun other hot o' ho' => mem_singleton.mp ho' ▸ hpa other hot⟩

theorem pair_ne (h : Distinguished overrides) (ho : o ∈ overrides) (hot : other ∈ overrides)
    (hne : o ≠ other) : ¬ (o.category = other.category ∧ o.scope = other.scope) := by
  have hsy : Std.Symm (fun o other : ActiveLogLevelOverride =>
      ¬ (o.category = other.category ∧ o.scope = other.scope)) :=
    ⟨fun _ _ hab hba => hab ⟨hba.1.symm, hba.2.symm⟩⟩
  exact h.pairs.forall ho hot hne

/-- Two matching overrides of one length have one category, as both are the start of the
same text. -/
theorem category_eq (h : Distinguished overrides) (ho : o ∈ overrides) (hm : o.Matches category now)
    (hot : other ∈ overrides) (hm' : other.Matches category now)
    (hle : o.category.length = other.category.length) : o.category = other.category := by
  have hst : (utf16 "*").length = 1 := by decide
  rcases covers_cases hm.2 with hc | hc <;> rcases covers_cases hm'.2 with hc' | hc'
  · rw [hc, hc']
  · by_contra hne
    have hlo := h.categories other hot (fun hs => hne (hc.trans hs.symm))
    rw [hc, hst] at hle
    omega
  · by_contra hne
    have hlo := h.categories o ho (fun hs => hne (hs.trans hc'.symm))
    rw [hc', hst] at hle
    omega
  · exact (prefix_of_prefix_length_le hc hc' hle.le).eq_of_length hle

theorem moreSpecific (h : Distinguished overrides) (ho : o ∈ overrides)
    (hm : o.Matches category now) (hot : other ∈ overrides) (hm' : other.Matches category now)
    (hra : toLex other.rank ≤ toLex o.rank) (hne : other ≠ o) : o.MoreSpecific other := by
  have hst : (utf16 "*").length = 1 := by decide
  simp only [Prod.Lex.toLex_le_toLex, ActiveLogLevelOverride.rank] at hra
  rcases hra with hlt | ⟨hle, hsc⟩
  · have hna : o.category ≠ utf16 "*" := by
      intro hs
      rw [hs, hst] at hlt
      have hlo := h.categories other hot
      by_cases hs' : other.category = utf16 "*"
      · rw [hs', hst] at hlt
        omega
      · have := hlo hs'
        omega
    by_cases hs : other.category = utf16 "*"
    · exact .named hna hs
    · exact .longer hna hs hlt
  · have hca := h.category_eq ho hm hot hm' hle.symm
    have hdi : o.scope ≠ other.scope := fun hs =>
      h.pair_ne ho hot (Ne.symm hne) ⟨hca, hs⟩
    rcases h.scopes o ho with hs | hs <;> rcases h.scopes other hot with hs' | hs'
    · exact absurd (hs.trans hs'.symm) hdi
    · rw [if_pos hs', if_neg (by rw [hs]; decide)] at hsc
      omega
    · exact .scope hca hs hs'
    · exact absurd (hs.trans hs'.symm) hdi

theorem rank_injective (h : Distinguished overrides) (ho : o ∈ overrides)
    (hm : o.Matches category now) (hot : other ∈ overrides) (hm' : other.Matches category now)
    (hra : o.rank = other.rank) : o = other := by
  by_contra hne
  have hle : o.category.length = other.category.length := congrArg Prod.fst hra
  have hsc : o.scope = utf16 "instance" ↔ other.scope = utf16 "instance" := by
    have hse := congrArg Prod.snd hra
    simp only [ActiveLogLevelOverride.rank] at hse
    split_ifs at hse <;> tauto
  cases h.moreSpecific ho hm hot hm' (hra ▸ le_refl _) (Ne.symm hne) with
  | named hna hs =>
    exact hna ((h.category_eq ho hm hot hm' hle).trans hs)
  | longer _ _ hlt => omega
  | scope _ hs hs' =>
    have hin := hsc.mp hs
    rw [hs'] at hin
    revert hin
    decide

end Distinguished

namespace RuntimeLogLevelController

variable {options : DiagnosticsOptions} {c : RuntimeLogLevelController} {now : Nat}

theorem overrides_foldl_expire (expired : List ActiveLogLevelOverride) :
    (expired.foldl (expire options now) c).overrides =
      c.overrides.filter (fun o => expired.all (fun active => o.id != active.id)) := by
  induction expired generalizing c with
  | nil => simp
  | cons active expired ih =>
    rw [foldl_cons, ih]
    simp only [expire, addAudit, remove, filter_filter, all_cons]
    congr 1
    funext o
    rw [Bool.and_comm]

theorem overrides_removeExpired :
    (c.removeExpired options now).overrides = c.overrides.filter (fun o =>
      (c.overrides.filter (fun active => decide (active.expiresAt ≤ now))).all
        (fun active => o.id != active.id)) :=
  overrides_foldl_expire _

theorem removeExpired_sublist : (c.removeExpired options now).overrides.Sublist c.overrides := by
  rw [overrides_removeExpired]
  exact filter_sublist

theorem baselineLevels_foldl_expire (expired : List ActiveLogLevelOverride) :
    (expired.foldl (expire options now) c).baselineLevels = c.baselineLevels := by
  induction expired generalizing c with
  | nil => rfl
  | cons active expired ih => exact ih

variable {o : ActiveLogLevelOverride}

theorem expiresAt_removeExpired (h : o ∈ (c.removeExpired options now).overrides) :
    now < o.expiresAt := by
  obtain ⟨ho, hall⟩ := mem_foldl_expire.mp h
  by_contra hla
  exact hall o (mem_filter.mpr ⟨ho, decide_eq_true (by omega)⟩) rfl

theorem removeExpired_eq_filter (h : c.overrides.Pairwise (fun o other => o.id ≠ other.id)) :
    (c.removeExpired options now).overrides =
      c.overrides.filter (fun o => decide (now < o.expiresAt)) := by
  rw [overrides_removeExpired]
  refine filter_congr ?_
  intro o ho
  rw [Bool.eq_iff_iff, all_eq_true, decide_eq_true_eq]
  constructor
  · intro hall
    by_contra hla
    have hse := hall o (mem_filter.mpr ⟨ho, decide_eq_true (by omega)⟩)
    simp at hse
  · intro hli active hac
    obtain ⟨hac, hex⟩ := mem_filter.mp hac
    have hne : o ≠ active := by
      rintro rfl
      have := of_decide_eq_true hex
      omega
    have hsy : Std.Symm (fun o other : ActiveLogLevelOverride => o.id ≠ other.id) :=
      ⟨fun _ _ hab => Ne.symm hab⟩
    have hid := h.forall ho hac hne
    simpa using hid

/-- The overrides that `EffectiveLevel` chooses from. -/
def matching (c : RuntimeLogLevelController) (category : Text) (now : Nat) :
    List ActiveLogLevelOverride :=
  c.overrides.filter (fun o => decide (now < o.expiresAt) && covers o.category category)

theorem mem_matching {category : Text} :
    o ∈ c.matching category now ↔ o ∈ c.overrides ∧ o.Matches category now := by
  simp [matching, ActiveLogLevelOverride.Matches]

theorem effectiveLevel_eq (category : Text)
    (h : c.overrides.Pairwise (fun o other => o.id ≠ other.id)) :
    (c.effectiveLevel options category now).1 =
      match firstByRank ActiveLogLevelOverride.rank (c.matching category now) with
      | some o => o.level
      | none => c.baselineLevel category := by
  have hba : (c.removeExpired options now).baselineLevel category =
      c.baselineLevel category := by
    unfold baselineLevel
    rw [show (c.removeExpired options now).baselineLevels = c.baselineLevels from
      baselineLevels_foldl_expire _]
  have hma : (c.removeExpired options now).overrides.filter (fun o =>
      decide (now < o.expiresAt) && covers o.category category) = c.matching category now := by
    rw [removeExpired_eq_filter h, filter_filter]
    refine filter_congr ?_
    intro o _
    cases decide (now < o.expiresAt) <;> simp
  show (c.removeExpired options now).effectiveLevelCore category now = _
  unfold effectiveLevelCore
  rw [hma, hba]
  rfl

section

variable [DiagnosticsRuntime]

variable {request : LogLevelChangeRequest}

theorem checkRequest_scope : checkRequest options request = .ok () →
    request.scope = utf16 "all" ∨ request.scope = utf16 "instance" := by
  fun_cases checkRequest options request <;> intro h
  case case7 hsc => exact Decidable.or_iff_not_not_and_not.mpr hsc
  all_goals cases h

theorem checkRequest_category : checkRequest options request = .ok () →
    (trim request.category).length ≠ 0 := by
  fun_cases checkRequest options request <;> intro h
  case case7 hca _ _ _ _ =>
    intro hle
    exact hca (.inl hle)
  all_goals cases h

omit [DiagnosticsRuntime] in
theorem checkActive_pair (h : c.checkActive options request now = .ok ())
    {o : ActiveLogLevelOverride} (ho : o ∈ c.overrides) (hli : now < o.expiresAt) :
    ¬ (o.category = trim request.category ∧ o.scope = request.scope) := by
  revert h
  fun_cases checkActive options c request now <;> intro h
  case case3 hno =>
    rintro ⟨hca, hsc⟩
    refine hno (any_eq_true.mpr ⟨o, ho, ?_⟩)
    simp [hca, hsc, hli]
  all_goals cases h

theorem tryValidate_sublist (request : LogLevelChangeRequest) :
    (c.tryValidate options request now).2.overrides.Sublist c.overrides := by
  unfold tryValidate tryValidateAt
  split
  · exact Sublist.refl _
  · exact removeExpired_sublist

theorem tryValidate_ok {swept : RuntimeLogLevelController}
    (h : c.tryValidate options request now = (.ok (), swept)) :
    checkRequest options request = .ok () ∧ swept = c.removeExpired options now ∧
      swept.checkActive options request now = .ok () := by
  unfold tryValidate tryValidateAt at h
  split at h
  · cases h
  · next hre =>
    obtain ⟨hac, hsw⟩ := Prod.mk.inj h
    exact ⟨hre, hsw.symm, hsw ▸ hac⟩

theorem tryApply_distinguished (actor : Text) (id : OverrideId) (startedAt : Nat)
    (hre : trim request.category = utf16 "*" ∨ (trim request.category).length ≠ 1)
    (h : Distinguished c.overrides) :
    Distinguished (c.tryApply options request actor id startedAt now).2.overrides := by
  have hva : (c.tryValidate options request now).2.overrides.Sublist c.overrides :=
    tryValidate_sublist request
  unfold tryValidate at hva
  unfold tryApply tryApplyAt
  split
  · next hv =>
    rw [hv] at hva
    exact h.sublist hva
  · next swept hv =>
    rw [hv] at hva
    have hsw : Distinguished swept.overrides := h.sublist hva
    split
    · exact hsw
    · next hfr =>
      obtain ⟨hch, rfl, hpa⟩ := tryValidate_ok hv
      refine (hsw.sublist removeExpired_sublist).append_singleton ?_ ?_
        (checkRequest_scope hch) ?_
      · intro other hot
        have hne := find?_eq_none.mp hfr other (removeExpired_sublist.subset hot)
        have hid : ¬ other.id = id := by simpa using hne
        exact hid
      · intro other hot
        exact checkActive_pair hpa (removeExpired_sublist.subset hot)
          (expiresAt_removeExpired hot)
      · intro hna
        have hle := checkRequest_category hch
        have hnot : (trim request.category).length ≠ 1 := hre.resolve_left hna
        show 1 < (trim request.category).length
        omega

theorem revert_sublist (id : OverrideId) (actor reason : Text) :
    (c.revert options id actor reason now).2.overrides.Sublist c.overrides := by
  unfold revert
  split
  · exact Sublist.refl _
  · have hre : (c.remove id).overrides.Sublist c.overrides := filter_sublist
    exact removeExpired_sublist.trans hre

end

end RuntimeLogLevelController

section

open RuntimeLogLevelController

variable [DiagnosticsRuntime] {s : Settings} {c : RuntimeLogLevelController} {now : Nat}

/-- The operation does not apply an override to a named category of one character. -/
def Operation.namesPlainly : Operation → Bool
  | .apply request _ _ _ =>
    trim request.category == utf16 "*" || decide ((trim request.category).length ≠ 1)
  | _ => true

theorem exec_distinguished {operation : Operation} (hpl : operation.namesPlainly = true)
    (h : Distinguished c.overrides) : Distinguished (operation.exec s now c).overrides := by
  cases operation with
  | none => exact h
  | sweep => exact h.sublist removeExpired_sublist
  | persisted entry =>
    have hsa : (c.markPendingAuditPersisted entry).overrides = c.overrides := by
      unfold markPendingAuditPersisted
      split <;> rfl
    show Distinguished (c.markPendingAuditPersisted entry).overrides
    rw [hsa]
    exact h
  | validate request => exact h.sublist (tryValidate_sublist request)
  | apply request actor id startedAt =>
    refine tryApply_distinguished actor id startedAt ?_ h
    simpa [Operation.namesPlainly] using hpl
  | revert id actor reason => exact h.sublist (revert_sublist id actor reason)

def RuntimeLogLevelController.after (s : Settings) (c : RuntimeLogLevelController) :
    List (Nat × Operation) → RuntimeLogLevelController
  | [] => c
  | (now, operation) :: steps => (operation.exec s now c).after s steps

theorem after_distinguished {steps : List (Nat × Operation)}
    (hpl : ∀ step ∈ steps, step.2.namesPlainly = true) (h : Distinguished c.overrides) :
    Distinguished (c.after s steps).overrides := by
  induction steps generalizing c with
  | nil => exact h
  | cons step steps ih =>
    have hfi := hpl step mem_cons_self
    exact ih (fun other hot => hpl other (mem_cons_of_mem _ hot))
      (exec_distinguished hfi h)

/-- Whatever the order in which the dictionary is read, the level of a category is that of
the matching override that is more specific than every other one. -/
theorem effectiveLevel_most_specific (s : Settings) (c : RuntimeLogLevelController)
    (steps : List (Nat × Operation)) (category : Text) (now : Nat)
    (enumerated : List ActiveLogLevelOverride) (hinit : c.overrides = [])
    (hplain : ∀ step ∈ steps, step.2.namesPlainly = true)
    (henum : enumerated.Perm (c.after s steps).overrides) :
    let level := ({ c.after s steps with overrides := enumerated }.effectiveLevel s.options
      category now).1
    level = ((c.after s steps).effectiveLevel s.options category now).1 ∧
      ((∀ o ∈ (c.after s steps).overrides, ¬ o.Matches category now) →
        level = (c.after s steps).baselineLevel category) ∧
      ((∃ o ∈ (c.after s steps).overrides, o.Matches category now) →
        ∃ o ∈ (c.after s steps).overrides, o.Matches category now ∧ level = o.level ∧
          ∀ other ∈ (c.after s steps).overrides, other.Matches category now → other ≠ o →
            o.MoreSpecific other) := by
  intro level
  have hd : Distinguished (c.after s steps).overrides :=
    after_distinguished hplain (hinit ▸ .nil)
  have hle : ((c.after s steps).effectiveLevel s.options category now).1 = _ :=
    effectiveLevel_eq category hd.ids
  have hsh : level = _ := effectiveLevel_eq
    (c := { c.after s steps with overrides := enumerated }) category (hd.perm henum).ids
  have hsa : firstByRank ActiveLogLevelOverride.rank
        (matching { c.after s steps with overrides := enumerated } category now) =
      firstByRank ActiveLogLevelOverride.rank ((c.after s steps).matching category now) := by
    refine (firstByRank_perm (henum.symm.filter _) ?_).symm
    intro o ho other hot hra
    obtain ⟨ho, hm⟩ := mem_matching.mp ho
    obtain ⟨hot, hm'⟩ := mem_matching.mp hot
    exact hd.rank_injective ho hm hot hm' hra
  have heq : level = ((c.after s steps).effectiveLevel s.options category now).1 := by
    rw [hsh, hle, hsa]
    rfl
  refine ⟨heq, ?_, ?_⟩
  · intro hno
    have hem : (c.after s steps).matching category now = [] := by
      rw [eq_nil_iff_forall_not_mem]
      intro o ho
      obtain ⟨ho, hm⟩ := mem_matching.mp ho
      exact hno o ho hm
    rw [heq, hle, hem]
    rfl
  · rintro ⟨o, ho, hm⟩
    cases hfi : firstByRank ActiveLogLevelOverride.rank
        ((c.after s steps).matching category now) with
    | none =>
      rw [firstByRank_eq_none_iff] at hfi
      have hmem := mem_matching.mpr ⟨ho, hm⟩
      rw [hfi] at hmem
      cases hmem
    | some best =>
      obtain ⟨hbe, hgr⟩ := firstByRank_greatest hfi
      obtain ⟨hbe, hm⟩ := mem_matching.mp hbe
      refine ⟨best, hbe, hm, by rw [heq, hle, hfi], ?_⟩
      intro other hot hm' hne
      exact hd.moreSpecific hbe hm hot hm' (hgr other (mem_matching.mpr ⟨hot, hm'⟩))
        hne

end

@[reducible] def twoLevels : DiagnosticsRuntime where
  tryParseLevel level :=
    if level = utf16 "Debug" then some .debug
    else if level = utf16 "Warning" then some .warning
    else none
  redact value := value
  sha256 value := value

def anyCategory : Settings where
  options := { (default : DiagnosticsOptions) with logCategoryAllowlist := [utf16 "*"] }

def overrideAll (category level : String) (id : OverrideId) : Nat × Operation :=
  let request : LogLevelChangeRequest :=
    { category := utf16 category, level := utf16 level, durationSeconds := 60,
      reason := utf16 "incident" }
  (0, .apply request (utf16 "operator") id 0)

theorem effectiveLevel_most_specific_named :
    let _ := twoLevels
    let c : RuntimeLogLevelController := { instanceId := utf16 "first" }
    let steps := [overrideAll "*" "Debug" 0, overrideAll "App" "Warning" 1]
    (({ c.after anyCategory steps with
        overrides := (c.after anyCategory steps).overrides.reverse }.effectiveLevel
      anyCategory.options (utf16 "App.Db") 1).1 =
        ((c.after anyCategory steps).effectiveLevel anyCategory.options (utf16 "App.Db") 1).1) ∧
      ((c.after anyCategory steps).effectiveLevel anyCategory.options (utf16 "App.Db") 1).1 =
        .warning := by
  intro runtime c steps
  refine ⟨?_, by decide +kernel⟩
  exact (effectiveLevel_most_specific anyCategory c steps (utf16 "App.Db") 1 _ rfl
    (by decide +kernel) (reverse_perm _)).1

/-- With the categories `*` and `A` overridden, the level of `A` is that of whichever the
dictionary gives first. -/
theorem one_character_category_ties :
    let _ := twoLevels
    let c : RuntimeLogLevelController := { instanceId := utf16 "first" }
    let c := c.after anyCategory [overrideAll "*" "Debug" 0, overrideAll "A" "Warning" 1]
    (∃ o ∈ c.overrides, o.Matches (utf16 "A") 1 ∧ o.category = utf16 "A" ∧ o.level = .warning) ∧
      (c.effectiveLevel anyCategory.options (utf16 "A") 1).1 = .debug ∧
      ({ c with overrides := c.overrides.reverse }.effectiveLevel anyCategory.options
        (utf16 "A") 1).1 = .warning := by
  intro runtime c c
  refine ⟨?_, by decide +kernel, by decide +kernel⟩
  refine ⟨⟨1, utf16 "A", .warning, utf16 "all", 0, 60000⟩, ?_, ⟨?_, ?_⟩, rfl, rfl⟩
  · decide +kernel
  · decide
  · decide

end Realtime.Diagnostics
