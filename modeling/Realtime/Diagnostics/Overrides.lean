import Realtime.Diagnostics.Moves

/-! How the operations of a controller change its overrides and its audit: an override
goes when it expires or is reverted, and only a revert of it leaves a reverted entry. -/

namespace Realtime.Diagnostics

open List

/-- From `c` to `c'` at time `now`, only overrides that meet `adds` are new, and only ids
that meet `reverts` are reverted. -/
structure RuntimeLogLevelController.Evolves (now : Nat) (adds : ActiveLogLevelOverride → Prop)
    (reverts : OverrideId → Prop) (c c' : RuntimeLogLevelController) : Prop where
  added : ∀ o ∈ c'.overrides, o ∈ c.overrides ∨ adds o
  kept : ∀ o ∈ c.overrides, (∀ o' ∈ c.overrides, o'.id = o.id → now < o'.expiresAt) →
    ¬ reverts o.id → o ∈ c'.overrides
  audited : ∀ entry ∈ c'.audit ++ c'.pendingAudit, entry.outcome = .reverted →
    entry ∈ c.audit ++ c.pendingAudit ∨ (reverts entry.id ∧ ∃ o ∈ c.overrides, o.id = entry.id)

namespace RuntimeLogLevelController

variable {options : DiagnosticsOptions} {now : Nat} {adds : ActiveLogLevelOverride → Prop}
  {reverts : OverrideId → Prop} {c c' c'' : RuntimeLogLevelController}

theorem Evolves.refl : c.Evolves now adds reverts c :=
  ⟨fun _ ho => .inl ho, fun _ ho _ _ => ho, fun _ he _ => .inl he⟩

theorem Evolves.trans (h : c.Evolves now (fun _ => False) reverts c')
    (h' : c'.Evolves now adds reverts c'') : c.Evolves now adds reverts c'' := by
  have hba {o : ActiveLogLevelOverride} (ho : o ∈ c'.overrides) : o ∈ c.overrides := by
    rcases h.added o ho with ho | ho
    · exact ho
    · exact ho.elim
  refine ⟨?_, ?_, ?_⟩
  · intro o ho
    rcases h'.added o ho with ho | ho
    · exact .inl (hba ho)
    · exact .inr ho
  · intro o ho hli hr
    refine h'.kept o (h.kept o ho hli hr) ?_ hr
    intro o' ho'
    exact hli o' (hba ho')
  · intro entry he hout
    rcases h'.audited entry he hout with he | ⟨hr, o, ho, hid⟩
    · exact h.audited entry he hout
    · exact .inr ⟨hr, o, hba ho, hid⟩

theorem Evolves.weaken {adds' : ActiveLogLevelOverride → Prop} {reverts' : OverrideId → Prop}
    (h : c.Evolves now adds reverts c') (ha : ∀ o, adds o → adds' o)
    (hr : ∀ id, reverts id → reverts' id) : c.Evolves now adds' reverts' c' := by
  refine ⟨?_, fun o ho hli hnot => h.kept o ho hli (fun hro => hnot (hr o.id hro)), ?_⟩
  · intro o ho
    exact (h.added o ho).imp_right (ha o)
  · intro entry he hout
    exact (h.audited entry he hout).imp_right (fun hx => ⟨hr entry.id hx.1, hx.2⟩)

theorem mem_keepLast {α : Type} {capacity : Nat} {entries : List α} {entry : α}
    (h : entry ∈ keepLast capacity entries) : entry ∈ entries := mem_of_mem_drop h

theorem mem_addAudit {entry added : LogLevelAuditEntry}
    (h : entry ∈ (c.addAudit options added).audit ++ (c.addAudit options added).pendingAudit) :
    entry ∈ c.audit ++ c.pendingAudit ∨ entry = added := by
  rw [mem_append] at h ⊢
  rcases h with h | h
  all_goals
    have h := mem_keepLast h
    rw [mem_append, mem_singleton] at h
    tauto

variable {expired : List ActiveLogLevelOverride} {entry : LogLevelAuditEntry}

theorem mem_foldl_expire {o : ActiveLogLevelOverride} :
    o ∈ (expired.foldl (expire options now) c).overrides ↔
      o ∈ c.overrides ∧ ∀ active ∈ expired, o.id ≠ active.id := by
  induction expired generalizing c with
  | nil => simp
  | cons active expired ih =>
    rw [foldl_cons, ih]
    simp only [expire, addAudit, remove, mem_filter, bne_iff_ne, forall_mem_cons]
    tauto

theorem audit_foldl_expire
    (h : entry ∈ (expired.foldl (expire options now) c).audit ++ (expired.foldl (expire options
      now) c).pendingAudit) (hout : entry.outcome = .reverted) :
    entry ∈ c.audit ++ c.pendingAudit := by
  induction expired generalizing c with
  | nil => exact h
  | cons active expired ih =>
    rcases mem_addAudit (ih h) with he | rfl
    · exact he
    · cases hout

theorem evolves_removeExpired : c.Evolves now adds reverts (c.removeExpired options now) := by
  refine ⟨fun o ho => .inl (mem_foldl_expire.mp ho).1, ?_,
    fun entry he hout => .inl (audit_foldl_expire he hout)⟩
  intro o ho hli _
  refine mem_foldl_expire.mpr ⟨ho, ?_⟩
  intro active hac hid
  rw [mem_filter, decide_eq_true_eq] at hac
  have hlt := hli active hac.1 hid.symm
  omega

theorem evolves_getActive : c.Evolves now adds reverts (c.getActive options now).2 :=
  evolves_removeExpired

theorem evolves_contains (id : OverrideId) :
    c.Evolves now adds reverts (c.contains options id now).2 :=
  evolves_removeExpired

theorem evolves_markPendingAuditPersisted (entry : LogLevelAuditEntry) :
    c.Evolves now adds reverts (c.markPendingAuditPersisted entry) := by
  unfold markPendingAuditPersisted
  split
  · refine ⟨fun _ ho => .inl ho, fun _ ho _ _ => ho, ?_⟩
    intro e he _
    rw [mem_append] at he ⊢
    exact .inl (he.imp_right mem_of_mem_tail)
  · exact .refl

section

variable [DiagnosticsRuntime]

theorem evolves_tryValidate (request : LogLevelChangeRequest) :
    c.Evolves now adds reverts (c.tryValidate options request now).2 := by
  unfold tryValidate tryValidateAt
  split
  · exact .refl
  · exact evolves_removeExpired

theorem evolves_tryApply (request : LogLevelChangeRequest) (actor : Text) (id : OverrideId)
    (startedAt : Nat) :
    c.Evolves now (fun o => o = newOverride request id startedAt) reverts
      (c.tryApply options request actor id startedAt now).2 := by
  have hva : c.Evolves now (fun _ => False) reverts (c.tryValidate options request now).2 :=
    evolves_tryValidate request
  unfold tryValidate at hva
  unfold tryApply tryApplyAt
  split
  · next hv =>
    rw [hv] at hva
    exact hva.weaken (fun _ => False.elim) (fun _ h => h)
  · next swept hv =>
    rw [hv] at hva
    have hsw : swept.Evolves now (fun _ => False) reverts (swept.removeExpired options now) :=
      evolves_removeExpired
    split
    · exact hva.weaken (fun _ => False.elim) (fun _ h => h)
    · refine hva.trans (hsw.trans ?_)
      refine ⟨?_, ?_, ?_⟩
      · intro o ho
        rcases mem_append.mp ho with ho | ho
        · exact .inl ho
        · exact .inr (mem_singleton.mp ho)
      · intro o ho _ _
        exact mem_append_left _ ho
      · intro entry he hout
        rcases mem_addAudit he with he | rfl
        · exact .inl he
        · cases hout

theorem tryApply_ok {request : LogLevelChangeRequest} {actor : Text} {id : OverrideId}
    {startedAt : Nat} {o : ActiveLogLevelOverride} :
    (c.tryApply options request actor id startedAt now).1 = .ok o →
      ∃ o' ∈ (c.tryApply options request actor id startedAt now).2.overrides, o'.id = id := by
  unfold tryApply tryApplyAt
  split
  · intro h
    cases h
  · split
    · next existing hfi =>
      intro _
      have hid : existing.id = id := by simpa using find?_some hfi
      exact ⟨existing, mem_of_find?_eq_some hfi, hid⟩
    · intro _
      exact ⟨newOverride request id startedAt, mem_append_right _ mem_cons_self, rfl⟩

theorem evolves_revert (id : OverrideId) (actor reason : Text) :
    c.Evolves now adds (· = id) (c.revert options id actor reason now).2 := by
  unfold revert
  split
  · exact .refl
  · next active hfi =>
    have hid : active.id = id := by simpa using find?_some hfi
    have hre : c.Evolves now (fun _ => False) (· = id) (c.remove id) := by
      refine ⟨fun o ho => .inl (mem_of_mem_filter ho), ?_, fun _ he _ => .inl he⟩
      intro o ho _ hne
      exact mem_filter.mpr ⟨ho, by simpa using hne⟩
    have hsw : c.Evolves now adds (· = id) ((c.remove id).removeExpired options now) :=
      hre.trans evolves_removeExpired
    refine ⟨hsw.added, hsw.kept, ?_⟩
    intro entry he hout
    rcases mem_addAudit he with he | rfl
    · exact hsw.audited entry he hout
    · exact .inr ⟨hid, active, mem_of_find?_eq_some hfi, rfl⟩

end

end RuntimeLogLevelController

section

open RuntimeLogLevelController

variable [DiagnosticsRuntime] {s : Settings} {c : RuntimeLogLevelController} {now : Nat}

def Operation.adds : Operation → ActiveLogLevelOverride → Prop
  | .apply request _ id startedAt, o => o = newOverride request id startedAt
  | _, _ => False

def Operation.reverts : Operation → OverrideId → Prop
  | .revert id _ _, other => other = id
  | _, _ => False

variable {operation : Operation}

theorem not_adds_of_isQuiet (h : operation.isQuiet = true) {o : ActiveLogLevelOverride} :
    ¬ operation.adds o := by
  cases operation with
  | apply => cases h
  | _ => exact fun ho => ho

omit [DiagnosticsRuntime] in
theorem not_reverts_of_isQuiet (h : operation.isQuiet = true) {id : OverrideId} :
    ¬ operation.reverts id := by
  cases operation with
  | revert => cases h
  | _ => exact fun ho => ho

theorem exec_evolves (operation : Operation) :
    c.Evolves now operation.adds operation.reverts (operation.exec s now c) := by
  cases operation with
  | none => exact .refl
  | sweep => exact evolves_getActive
  | persisted entry => exact evolves_markPendingAuditPersisted entry
  | validate request => exact evolves_tryValidate request
  | apply request actor id startedAt => exact evolves_tryApply request actor id startedAt
  | revert id actor reason => exact evolves_revert id actor reason

theorem applyMessage_evolves (message : DiagnosticsCoordinationMessage) :
    c.Evolves now
      (fun o => message.action = .apply ∧ ∃ request, message.request = some request ∧
        o = newOverride request message.id message.timestamp)
      (fun id => message.action = .revert ∧ id = message.id) (applyMessage s c message now) := by
  have hco {contained : Bool} {swept : RuntimeLogLevelController}
      {adds : ActiveLogLevelOverride → Prop} {reverts : OverrideId → Prop}
      (h : c.contains s.options message.id now = (contained, swept)) :
      c.Evolves now adds reverts swept := by
    have hsw : c.Evolves now adds reverts (c.contains s.options message.id now).2 :=
      evolves_contains message.id
    rwa [h] at hsw
  have hva {c : RuntimeLogLevelController} {request : LogLevelChangeRequest}
      {valid : Except Text Unit} {swept : RuntimeLogLevelController}
      {adds : ActiveLogLevelOverride → Prop} {reverts : OverrideId → Prop}
      (h : c.tryValidate s.options request now = (valid, swept)) :
      c.Evolves now adds reverts swept := by
    have hsw : c.Evolves now adds reverts (c.tryValidate s.options request now).2 :=
      evolves_tryValidate request
    rwa [h] at hsw
  fun_cases applyMessage s c message now
  case case1 hact _ =>
    refine (evolves_revert message.id message.actor _).weaken (fun _ h => h) ?_
    rintro id rfl
    exact ⟨hact, rfl⟩
  case case3 hc => exact hco hc
  case case4 hc _ _ _ hv => exact (hco hc).trans (hva hv)
  case case5 hreq hact _ _ hc _ _ _ hv =>
    refine (hco hc).trans ((hva hv).trans ?_)
    refine (evolves_tryApply _ message.actor message.id message.timestamp).weaken ?_
      (fun _ h => h)
    rintro o rfl
    exact ⟨hact, _, hreq, rfl⟩
  case case6 hc _ _ _ hv => exact (hco hc).trans (hva hv)
  all_goals exact .refl

end

end Realtime.Diagnostics
