import Realtime.Diagnostics.Levels
import Realtime.Diagnostics.Reconciliation

/-! Applying an override again under its id. `TryValidateLocked` searches for an active
override of the category and scope before `TryApplyLocked` looks the id up, so that the
override which is applied again refuses its own repeat. The id is recognised only when
the override expires between the two clock readings of the validation. -/

namespace Realtime.Diagnostics

section

variable [DiagnosticsRuntime]

namespace RuntimeLogLevelController

variable {options : DiagnosticsOptions} {c : RuntimeLogLevelController}
  {request : LogLevelChangeRequest} {active : ActiveLogLevelOverride} {id : OverrideId}

/-- The dictionary holds the override that a valid request was applied as, under its id. -/
structure Holds (options : DiagnosticsOptions) (c : RuntimeLogLevelController)
    (request : LogLevelChangeRequest) (id : OverrideId) (active : ActiveLogLevelOverride) :
    Prop where
  keys : (c.overrides.map (·.id)).Nodup
  stored : active ∈ c.overrides
  applied : ∃ startedAt, active = newOverride request id startedAt
  valid : checkRequest options request = .ok ()

theorem Holds.id_eq (h : c.Holds options request id active) : active.id = id := by
  obtain ⟨startedAt, rfl⟩ := h.applied
  rfl

theorem Holds.category_eq (h : c.Holds options request id active) :
    active.category = trim request.category := by
  obtain ⟨startedAt, rfl⟩ := h.applied
  rfl

theorem Holds.scope_eq (h : c.Holds options request id active) :
    active.scope = request.scope := by
  obtain ⟨startedAt, rfl⟩ := h.applied
  rfl

theorem Holds.find (h : c.Holds options request id active) :
    c.overrides.find? (fun other => other.id == id) = some active := by
  cases hfi : c.overrides.find? (fun other => other.id == id) with
  | none =>
    have hne := List.find?_eq_none.mp hfi active h.stored
    simp [h.id_eq] at hne
  | some other =>
    have hid : other.id = active.id := by
      have hot := List.find?_some hfi
      rw [h.id_eq]
      exact eq_of_beq hot
    rw [List.inj_on_of_nodup_map h.keys (List.mem_of_find?_eq_some hfi) h.stored hid]

omit [DiagnosticsRuntime] in
theorem removeExpired_of_live {now : Nat} (h : ∀ o ∈ c.overrides, now < o.expiresAt) :
    c.removeExpired options now = c := by
  have hno : c.overrides.filter (fun active => decide (active.expiresAt ≤ now)) = [] := by
    rw [List.filter_eq_nil_iff]
    intro o ho
    have hlt := h o ho
    simp only [decide_eq_true_eq]
    omega
  unfold removeExpired
  rw [hno]
  rfl

variable {now sweptAt checkedAt : Nat}

omit [DiagnosticsRuntime] in
theorem removeExpired_eq_self_iff :
    c.removeExpired options now = c ↔ ∀ o ∈ c.overrides, now < o.expiresAt := by
  refine ⟨fun h o ho => ?_, removeExpired_of_live⟩
  rw [← h] at ho
  exact expiresAt_removeExpired ho

theorem Holds.removeExpired (h : c.Holds options request id active)
    (hactive : now < active.expiresAt) :
    (c.removeExpired options now).Holds options request id active where
  keys := (removeExpired_sublist.map _).nodup h.keys
  stored := by
    rw [removeExpired_eq_filter (List.pairwise_map.mp h.keys)]
    exact List.mem_filter.mpr ⟨h.stored, decide_eq_true hactive⟩
  applied := h.applied
  valid := h.valid

omit [DiagnosticsRuntime] in
theorem checkActive_eq_ok :
    c.checkActive options request now = .ok () ↔
      (request.scope = utf16 "instance" →
        c.overrides.countP (fun o => o.scope == utf16 "instance") < options.maximumDetailItems) ∧
      ∀ o ∈ c.overrides, o.category = trim request.category → o.scope = request.scope →
        o.expiresAt ≤ now := by
  unfold checkActive
  split_ifs with hli hany
  · simp only [false_iff, not_and]
    intro h
    have := h hli.1
    omega
  · obtain ⟨o, ho, hma⟩ := List.any_eq_true.mp hany
    simp only [Bool.and_eq_true, beq_iff_eq, decide_eq_true_eq] at hma
    simp only [false_iff, not_and]
    intro _ h
    have := h o ho hma.1.1 hma.1.2
    omega
  · simp only [true_iff]
    refine ⟨fun hsc => by_contra fun hlt => hli ⟨hsc, by omega⟩, fun o ho hca hsc => ?_⟩
    by_contra hlt
    exact hany (List.any_eq_true.mpr ⟨o, ho, by simp [hca, hsc]; omega⟩)

/-- What becomes of a repeat is decided by the check of the active overrides alone. -/
theorem Holds.tryApplyAt (h : c.Holds options request id active)
    (hactive : sweptAt < active.expiresAt) (actor : Text) (startedAt levelAt : Nat) :
    c.tryApplyAt options request actor id startedAt sweptAt checkedAt levelAt =
      (((c.removeExpired options sweptAt).checkActive options request checkedAt).map
        (fun _ => active), c.removeExpired options sweptAt) := by
  unfold RuntimeLogLevelController.tryApplyAt tryValidateAt
  rw [h.valid]
  dsimp only
  cases (c.removeExpired options sweptAt).checkActive options request checkedAt with
  | error error => rfl
  | ok _ =>
    dsimp only
    rw [(h.removeExpired hactive).find]
    rfl

theorem tryApply_ok_iff (hv : checkRequest options request = .ok ()) {actor : Text}
    {startedAt : Nat} :
    (c.tryApply options request actor id startedAt now).1.toBool = true ↔
      (c.removeExpired options now).checkActive options request now = .ok () := by
  unfold tryApply RuntimeLogLevelController.tryApplyAt tryValidateAt
  rw [hv]
  dsimp only
  cases (c.removeExpired options now).checkActive options request now with
  | error error => simp [Except.toBool]
  | ok _ =>
    dsimp only
    split <;> simp [Except.toBool]

end RuntimeLogLevelController

open RuntimeLogLevelController in
/-- The repeat of an active override returns the override and changes nothing exactly if nothing
has expired for the sweep, every override of its category and scope has for the search, and an
instance-scoped request is below the limit. With the one reading of the clock in the step of
`ApplyAsync` the call goes on exactly if none of them is active any more. -/
theorem repeated_apply_recognised (options : DiagnosticsOptions) (c : RuntimeLogLevelController)
    (request : LogLevelChangeRequest) (actor : Text) (id : OverrideId)
    (active : ActiveLogLevelOverride) (startedAt sweptAt checkedAt levelAt : Nat)
    (h : c.Holds options request id active) (hactive : sweptAt < active.expiresAt) :
    (c.tryApplyAt options request actor id startedAt sweptAt checkedAt levelAt =
        (.ok active, c) ↔
      (∀ o ∈ c.overrides, sweptAt < o.expiresAt) ∧
      (request.scope = utf16 "instance" →
        c.overrides.countP (fun o => o.scope == utf16 "instance") < options.maximumDetailItems) ∧
      ∀ o ∈ c.overrides, o.category = active.category → o.scope = active.scope →
        o.expiresAt ≤ checkedAt) ∧
    ∀ (s : Settings) (r : RedisStore) (i : Instance) (a : Apply), s.options = options →
      i.controller = c → a.request = request → request.scope = utf16 "all" →
      a.phase = .applying → ∃ e, stepApplyAll s r i id a .ok = some e ∧
        (e.next.phase = .publishing ↔ ∀ o ∈ c.overrides, o.category = active.category →
          o.scope = active.scope → o.expiresAt ≤ r.now) := by
  constructor
  · rw [h.tryApplyAt hactive, Prod.mk.injEq, removeExpired_eq_self_iff, and_comm, h.category_eq,
      h.scope_eq, ← checkActive_eq_ok]
    refine and_congr_right fun hlive => ?_
    rw [removeExpired_of_live hlive]
    cases c.checkActive options request checkedAt <;> simp [Except.map]
  · rintro s r i a rfl rfl rfl hall hap
    refine ⟨_, by simp only [stepApplyAll, hap]; rfl, ?_⟩
    have hok : (i.controller.tryApply s.options a.request a.actor id a.startedAt r.now).1.toBool =
        true ↔ _ := tryApply_ok_iff h.valid
    refine Iff.trans ?_ (hok.trans ?_)
    · dsimp only
      cases (i.controller.tryApply s.options a.request a.actor id a.startedAt r.now).1 <;>
        simp [Apply.goto, Except.toBool]
    · rw [checkActive_eq_ok, removeExpired_eq_filter (List.pairwise_map.mp h.keys), hall,
        h.category_eq, h.scope_eq, hall]
      refine ⟨fun hex o ho hca hsc => ?_, fun hex => ⟨?_, ?_⟩⟩
      · by_contra hlt
        exact hlt (hex.2 o (List.mem_filter.mpr ⟨ho, decide_eq_true (by omega)⟩) hca hsc)
      · exact fun he => absurd he (by decide)
      · exact fun o ho => hex o (List.mem_of_mem_filter ho)

end

def exampleRepeated : ActiveLogLevelOverride where
  id := 7
  category := utf16 "Realtime"
  level := .debug
  scope := utf16 "all"
  startedAt := 5
  expiresAt := 60005

/-- The override expires after the sweep has read the clock. -/
theorem repeated_apply_recognised_at_expiry :
    let _ := exampleRuntime
    { exampleController with overrides := [exampleRepeated] }.tryApplyAt {} exampleRequest
        (utf16 "operator") 7 5 60004 60005 60005 =
      (.ok exampleRepeated, { exampleController with overrides := [exampleRepeated] }) := by
  intro runtime
  refine (repeated_apply_recognised {} _ exampleRequest (utf16 "operator") 7 exampleRepeated 5
    60004 60005 60005 ⟨?_, ?_, ⟨5, ?_⟩, ?_⟩ ?_).1.mpr ⟨?_, ?_, ?_⟩
  · decide
  · exact List.mem_cons_self
  · decide +kernel
  · decide +kernel
  · decide
  · decide
  · decide +kernel
  · decide

/-- The call has reserved its override and the loop applies the message that it finds. -/
def exampleOvertaken : List Label :=
  [[.apply 0 exampleRequest (utf16 "operator")], List.replicate 3 (.applyStep 0 .ok),
    exampleReconcile 8].flatten

def alreadyExists : Text :=
  utf16 "An active override already exists for the requested category and scope."

open RuntimeLogLevelController in
/-- The coordination loop applies a replica-wide override before the `ApplyAsync` that has
reserved it does: its `TryApply` is refused and the call fails. -/
theorem repeated_apply_refused :
    let _ := exampleRuntime
    ∃ w w' a a' i, (World.step {}).run (World.init [exampleController]) exampleOvertaken = some w ∧
      w.applies[0]? = some a ∧ a.phase = .applying ∧ w.instances[0]? = some i ∧
      i.controller.overrides = [newOverride a.request 0 a.startedAt] ∧
      w.redis.now < (newOverride a.request 0 a.startedAt).expiresAt ∧
      (∀ o, (i.controller.tryApply {} a.request a.actor 0 a.startedAt w.redis.now).1 ≠ .ok o) ∧
      (World.step {}).run w (List.replicate 2 (.applyStep 0 .ok)) = some w' ∧
      w'.applies[0]? = some a' ∧ a'.phase = .returned (.failed alreadyExists) := by
  intro runtime
  have hrun : ∃ w, (World.step {}).run (World.init [exampleController]) exampleOvertaken = some w ∧
      ∃ a, w.applies[0]? = some a ∧ a.phase = .applying ∧ ∃ i, w.instances[0]? = some i ∧
        i.controller.overrides = [newOverride a.request 0 a.startedAt] ∧
        w.redis.now < (newOverride a.request 0 a.startedAt).expiresAt ∧
        (i.controller.tryApply {} a.request a.actor 0 a.startedAt w.redis.now).1.toBool = false ∧
        ∃ w', (World.step {}).run w (List.replicate 2 (.applyStep 0 .ok)) = some w' ∧
          ∃ a', w'.applies[0]? = some a' ∧ a'.phase = .returned (.failed alreadyExists) := by
    decide +kernel
  obtain ⟨w, hw, a, ha, hph, i, hi, hov, hli, her, w', hw', a', ha', hfa⟩ := hrun
  refine ⟨w, w', a, a', i, hw, ha, hph, hi, hov, hli, ?_, hw', ha', hfa⟩
  intro o ho
  rw [ho] at her
  cases her

end Realtime.Diagnostics
