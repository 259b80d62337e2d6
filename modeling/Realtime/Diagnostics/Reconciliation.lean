import Realtime.Diagnostics.Provenance

/-! An override for all replicas that was applied stays in force on its instance, unless
its script ran while the reconciliation of that instance was between its read of the
index and its look at the local overrides. -/

namespace Realtime.Diagnostics

open List Option

/-- The loop has read the index and has not yet compared the local overrides with it. -/
def LoopPhase.compares : LoopPhase → Bool
  | .fetching _ _ | .dropping _ _ _ => true
  | _ => false

def LoopPhase.Sees (id : OverrideId) : LoopPhase → Prop
  | .fetching remaining found | .dropping _ remaining found =>
    id ∈ remaining ∨ id ∈ found.map Prod.fst
  | .reverting ids _ => id ∉ ids
  | _ => True

namespace RuntimeLogLevelController

def Lacks (c : RuntimeLogLevelController) (id : OverrideId) : Prop := ∀ o ∈ c.overrides, o.id ≠ id

def Spares (c : RuntimeLogLevelController) (id : OverrideId) : Prop :=
  ∀ entry ∈ c.audit ++ c.pendingAudit, entry.id = id → entry.outcome ≠ .reverted

variable {now : Nat} {adds : ActiveLogLevelOverride → Prop} {reverts : OverrideId → Prop}
  {c c' : RuntimeLogLevelController} {id : OverrideId}

theorem Evolves.lacks (h : c.Evolves now adds reverts c') (hc : c.Lacks id)
    (had : ∀ o, adds o → o.id ≠ id) : c'.Lacks id := by
  intro o ho
  rcases h.added o ho with ho | ho
  · exact hc o ho
  · exact had o ho

theorem Evolves.spares (h : c.Evolves now adds reverts c') (hc : c.Spares id)
    (hre : ¬ reverts id) : c'.Spares id := by
  intro entry he hid hout
  rcases h.audited entry he hout with he | ⟨hr, -⟩
  · exact hc entry he hid hout
  · exact hre (hid ▸ hr)

theorem Evolves.has (h : c.Evolves now adds reverts c') (hc : ∃ o ∈ c.overrides, o.id = id)
    (hli : ∀ o ∈ c.overrides, o.id = id → now < o.expiresAt) (hre : ¬ reverts id) :
    ∃ o ∈ c'.overrides, o.id = id := by
  obtain ⟨o, ho, hid⟩ := hc
  refine ⟨o, h.kept o ho ?_ (hid ▸ hre), hid⟩
  intro o' ho' hid'
  exact hli o' ho' (hid'.trans hid)

end RuntimeLogLevelController

namespace World

/-- The script of the apply has run, its override is live, and nobody wants it reverted. -/
structure InForce (w : World) (id : OverrideId) (a : Apply) : Prop where
  apply : w.applies[id]? = some a
  stage : a.stage = .reserved ∨ a.stage = .applied
  requested : ¬ w.Requested id
  live : w.redis.now < a.expiresAt

/-- What keeps the override in force. -/
structure Upheld (w : World) (id : OverrideId) (a : Apply) : Prop where
  active : ∃ message expiresAt, w.redis.active id = some (message, expiresAt) ∧
    a.expiresAt ≤ expiresAt
  index : (id, a.expiresAt) ∈ w.redis.index
  seen : ∀ (n : Nat) (i : Instance), w.instances[n]? = some i → i.loop.Sees id ∨
    (i.loop.compares = true ∧ n ≠ a.inst ∧ i.controller.Lacks id)
  audit : ∀ (n : Nat) (i : Instance), w.instances[n]? = some i → i.controller.Spares id
  applied : a.stage = .applied → ∀ i : Instance, w.instances[a.inst]? = some i →
    ∃ o ∈ i.controller.overrides, o.id = id

def Upholds (w : World) : Prop := ∀ id a, w.InForce id a → w.Upheld id a

end World

def Command.bound : Command → Nat
  | .trim bound => bound
  | .reserve _ a => a.startedAt
  | _ => 0

section

variable [DiagnosticsRuntime] {s : Settings} {r : RedisStore} {i : Instance} {input : Input}
  {c : RuntimeLogLevelController} {id : OverrideId} {a b : Apply} {command : Command}
  {operation : Operation} {published : Option DiagnosticsCoordinationMessage}

theorem exec_active_keep (hs : command.subject ≠ some id) :
    (command.exec s r).active id = r.active id := by
  cases command with
  | none | trim => rfl
  | removeActive other key =>
    have ho : id ≠ other := fun he => hs (he ▸ rfl)
    rw [Command.exec, RedisStore.removeActive_active]
    exact Function.update_of_ne ho _ _
  | deleteActive other =>
    have ho : id ≠ other := fun he => hs (he ▸ rfl)
    exact Function.update_of_ne ho _ _
  | setActive other message lifetime =>
    have ho : id ≠ other := fun he => hs (he ▸ rfl)
    exact Function.update_of_ne ho _ _
  | reserve other a =>
    have ho : id ≠ other := fun he => hs (he ▸ rfl)
    rcases exec_reserve (s := s) (r := r) other a with ⟨-, h⟩ | ⟨-, h⟩ | ⟨-, h⟩
    · rw [h]
    · rw [h]
      rfl
    · rw [h]
      exact Function.update_of_ne ho _ _

theorem exec_index_keep {score : Nat} (hs : command.subject ≠ some id)
    (hb : command.bound < score) (hm : (id, score) ∈ r.index) :
    (id, score) ∈ (command.exec s r).index := by
  have htr {bound : Nat} (hb : bound < score) :
      (id, score) ∈ (r.removeRangeByScore bound).index :=
    mem_filter.mpr ⟨hm, by simpa using hb⟩
  cases command with
  | none | setActive | deleteActive => exact hm
  | trim bound => exact htr hb
  | removeActive other key =>
    have ho : id ≠ other := fun he => hs (he ▸ rfl)
    rw [Command.exec, RedisStore.removeActive_index]
    exact mem_filter.mpr ⟨hm, by simpa using ho⟩
  | reserve other a =>
    have ho : id ≠ other := fun he => hs (he ▸ rfl)
    rcases exec_reserve (s := s) (r := r) other a with ⟨-, h⟩ | ⟨-, h⟩ | ⟨-, h⟩
    · rw [h]
      exact hm
    · rw [h]
      exact htr hb
    · rw [h]
      exact mem_append_left _ (mem_filter.mpr ⟨htr hb, by simpa using ho⟩)

theorem reserve_eq_one (h : (a.reserve s r id).1 = 1) :
    ((Command.reserve id a).exec s r).active id =
        some (a.message id, r.now + a.request.lifetime) ∧
      (id, a.expiresAt) ∈ ((Command.reserve id a).exec s r).index := by
  rcases exec_reserve (s := s) (r := r) id a with ⟨hne, -⟩ | ⟨hne, -⟩ | ⟨-, he⟩
  · exact absurd h hne
  · exact absurd h hne
  · rw [he]
    exact ⟨Function.update_self _ _ _, mem_append_right _ mem_cons_self⟩

theorem ApplyMove.bound (h : ApplyMove s r c id a command operation published b)
    (hst : a.startedAt ≤ r.now) (hbo : a.phase.bound ≤ r.now) : command.bound ≤ r.now := by
  cases h with
  | start | connect | publish | apply => exact Nat.zero_le _
  | quiet _ _ _ hc =>
    rcases hc with rfl | rfl
    · exact Nat.zero_le _
    · exact hbo
  | reserve => exact hst
  | refuse _ _ _ _ hc =>
    rcases hc with rfl | rfl
    · exact Nat.zero_le _
    · exact hst
  | abandon _ _ _ hc =>
    rcases hc with rfl | ⟨-, ⟨key, rfl⟩ | rfl | ⟨target, lifetime, rfl, -⟩⟩
    all_goals exact Nat.zero_le _

theorem ApplyMove.reverts (h : ApplyMove s r c id a command operation published b)
    {other : OverrideId} (ho : operation.reverts other) : other = id ∧ b.stage = .over := by
  cases h with
  | start _ _ _ _ _ _ hop => rcases hop with rfl | rfl | ⟨rfl, -⟩ <;> exact ho.elim
  | connect | publish | reserve | refuse | apply => exact ho.elim
  | quiet _ _ _ _ hq => exact (not_reverts_of_isQuiet hq ho).elim
  | abandon _ hb _ _ hq =>
    rcases hq with rfl | ⟨actor, reason, rfl⟩
    · exact ho.elim
    · exact ⟨ho, hb⟩

theorem ApplyMove.inForce (h : ApplyMove s r c id a command operation published b)
    (hb : b.stage = .reserved ∨ b.stage = .applied) :
    a.Continues b ∧
    (((a.stage = .reserved ∨ a.stage = .applied) ∧ command.subject = none ∧
      (b.stage = .applied → a.stage = .applied ∨
        ∃ o ∈ (operation.exec s r.now c).overrides, o.id = id)) ∨
    (a.phase = .reserving ∧ a.stage = .before ∧ b.phase = .applying ∧ b.stage = .reserved ∧
      command = .reserve id a ∧ operation = .none ∧ published = none ∧
      (a.reserve s r id).1 = 1)) := by
  cases h with
  | start _ _ hst => rcases hst with hst | hst <;> simp [hst] at hb
  | connect hp hs =>
    have hbe : Apply.stage { a with startedAt := r.now, phase := .reserving } = .before :=
      stage_before hs (.inr (.inr rfl))
    simp [hbe] at hb
  | quiet hab hst _ hc =>
    rw [hst] at hb
    refine ⟨hab, .inl ⟨hb, ?_, fun hap => .inl (hst ▸ hap)⟩⟩
    rcases hc with rfl | rfl <;> rfl
  | publish hab ha => exact ⟨hab, .inl ⟨.inr ha, rfl, fun _ => .inl ha⟩⟩
  | reserve hab hp hs hph hone =>
    have hs' : b.request.scope = utf16 "all" := hab.request ▸ hs
    have hst : b.stage = .reserved := by simp [stage_eq hs', hph, ApplyPhase.stage]
    exact ⟨hab, .inr ⟨hp, stage_before hs (.inr (.inr hp)), hph, hst, rfl, rfl, rfl, hone⟩⟩
  | refuse _ _ _ hov => simp [hov] at hb
  | apply hab ha _ _ hok =>
    refine ⟨hab, .inl ⟨.inl ha, rfl, ?_⟩⟩
    intro hap
    obtain ⟨o, ho⟩ := hok hap
    exact .inr (RuntimeLogLevelController.tryApply_ok ho)
  | abandon _ hov => simp [hov] at hb

namespace World

variable {w t : World} {n : Nat}

variable {j : Instance} {k score : Nat} {next : RedisStore × Instance}

omit [DiagnosticsRuntime] in
theorem getElem?_publish {instances : List Instance}
    {message : Option DiagnosticsCoordinationMessage} (h : (publish instances message)[n]? = some j) :
    ∃ i, instances[n]? = some i ∧ j.controller = i.controller ∧ j.loop = i.loop := by
  cases message with
  | none => exact ⟨j, h, rfl, rfl⟩
  | some message =>
    simp only [publish, getElem?_map, map_eq_some_iff] at h
    obtain ⟨i, hi, rfl⟩ := h
    exact ⟨i, hi, rfl, rfl⟩

omit [DiagnosticsRuntime] in
theorem InForce.overrides_live (h : w.InForce id a) (hw : w.Traced) (hi : i ∈ w.instances)
    {o : ActiveLogLevelOverride} (ho : o ∈ i.controller.overrides) (hid : o.id = id) :
    w.redis.now < o.expiresAt := by
  have ha : w.applies[o.id]? = some a := hid ▸ h.apply
  rw [((hw.instances i hi).controller.overrides o ho).expiresAt ha]
  exact h.live

omit [DiagnosticsRuntime] in
theorem expiresAt_eq (h : a.Continues b) : b.expiresAt = a.expiresAt := by
  rw [Apply.expiresAt, Apply.expiresAt, h.request, h.startedAt]

theorem Upheld.commit {α : Type} {e : Effect α} (h : w.Upheld id a) (hin : w.InForce id a)
    (hw : w.Traced) (hi : w.instances[n]? = some i)
    (hru : e.Runs s w.redis i command operation) (hr : t.redis = e.redis)
    (hins : t.instances = publish (w.instances.set n e.inst) e.published)
    (hab : a.Continues b) (hsu : command.subject ≠ some id)
    (hbo : command.bound ≤ w.redis.now) (hre : ¬ operation.reverts id)
    (had : ∀ o, operation.adds o → o.id = id → n = a.inst)
    (hap : b.stage = .applied → a.stage = .applied ∨
      (n = a.inst ∧ ∃ o ∈ e.inst.controller.overrides, o.id = id)) : t.Upheld id b := by
  have hli := hin.live
  have hev : i.controller.Evolves w.redis.now operation.adds operation.reverts
      e.inst.controller := by
    rw [hru.controller]
    exact exec_evolves operation
  -- an instance of `t` is the acting one or has the controller and the loop it had
  have hba {m : Nat} {j : Instance} (hj : t.instances[m]? = some j) :
      (m = n ∧ j.controller = e.inst.controller ∧ j.loop = i.loop) ∨
      (m ≠ n ∧ ∃ k, w.instances[m]? = some k ∧ j.controller = k.controller ∧
        j.loop = k.loop) := by
    rw [hins] at hj
    obtain ⟨k, hk, hc, hl⟩ := getElem?_publish hj
    rcases getElem?_set_cases hk with ⟨rfl, rfl⟩ | ⟨hne, hk⟩
    · exact .inl ⟨rfl, hc, hl.trans hru.loop⟩
    · exact .inr ⟨hne, k, hk, hc, hl⟩
  refine ⟨?_, ?_, ?_, ?_, ?_⟩
  · obtain ⟨message, expiresAt, ha, hle⟩ := h.active
    refine ⟨message, expiresAt, ?_, expiresAt_eq hab ▸ hle⟩
    rw [hr, hru.redis, exec_active_keep hsu]
    exact ha
  · rw [hr, hru.redis, expiresAt_eq hab]
    exact exec_index_keep hsu (by omega) h.index
  · intro m j hj
    rcases hba hj with ⟨rfl, hc, hl⟩ | ⟨-, k, hk, hc, hl⟩
    · rw [hl, hc, hab.inst]
      rcases h.seen m i hi with hs | ⟨hco, hne, hla⟩
      · exact .inl hs
      · refine .inr ⟨hco, hne, hev.lacks hla ?_⟩
        intro o ho hid
        exact hne (had o ho hid)
    · rw [hl, hc, hab.inst]
      exact h.seen m k hk
  · intro m j hj
    rcases hba hj with ⟨rfl, hc, -⟩ | ⟨-, k, hk, hc, -⟩
    · rw [hc]
      exact hev.spares (h.audit m i hi) hre
    · rw [hc]
      exact h.audit m k hk
  · intro hb j hj
    rw [hab.inst] at hj
    rcases hap hb with ha | ⟨rfl, hhas⟩
    · rcases hba hj with ⟨rfl, hc, -⟩ | ⟨-, k, hk, hc, -⟩
      · rw [hc]
        exact hev.has (h.applied ha i hi)
          (fun o ho => hin.overrides_live hw (mem_of_getElem? hi) ho) hre
      · rw [hc]
        exact h.applied ha k hk
    · rcases hba hj with ⟨-, hc, -⟩ | ⟨hne, -⟩
      · rw [hc]
        exact hhas
      · exact absurd rfl hne

/-- The script of an apply answers one: the keys are there, and nothing in the system
knows the id yet. -/
theorem upheld_reserve {e : Effect Apply} (hw : w.Traced) (ha : w.applies[id]? = some a)
    (hi : w.instances[a.inst]? = some i) (hru : e.Runs s w.redis i (.reserve id a) .none)
    (hp : e.published = none) (hab : a.Continues e.next) (hbe : a.stage = .before)
    (hb : e.next.stage = .reserved) (hone : (a.reserve s w.redis id).1 = 1)
    (hsta : a.startedAt ≤ w.redis.now) (hapa : i.loop.compares = false) :
    Upheld { w.commit a.inst e with applies := w.applies.set id e.next } id e.next := by
  have hun : ¬ w.Knows id := by
    rintro ⟨request, startedAt, a', ha', hst, -⟩
    rw [ha] at ha'
    cases ha'
    exact hst hbe
  have hba {m : Nat} {j : Instance} (hj : (w.commit a.inst e).instances[m]? = some j) :
      ∃ k, w.instances[m]? = some k ∧ j.controller = k.controller ∧ j.loop = k.loop := by
    simp only [commit, hp, publish] at hj
    rcases getElem?_set_cases hj with ⟨rfl, rfl⟩ | ⟨-, hk⟩
    · exact ⟨i, hi, hru.controller, hru.loop⟩
    · exact ⟨j, hk, rfl, rfl⟩
  have hla {m : Nat} {k : Instance} (hk : w.instances[m]? = some k) :
      k.controller.Lacks id := by
    intro o ho hid
    have ho := (hw.instances k (mem_of_getElem? hk)).controller.overrides o ho
    exact hun (hid ▸ ho.knows)
  obtain ⟨hac, hin⟩ := reserve_eq_one hone
  rw [← hru.redis] at hac hin
  refine ⟨?_, ?_, ?_, ?_, ?_⟩
  · refine ⟨a.message id, w.redis.now + a.request.lifetime, hac, ?_⟩
    rw [expiresAt_eq hab, Apply.expiresAt]
    omega
  · rw [expiresAt_eq hab]
    exact hin
  · intro m j hj
    obtain ⟨k, hk, hc, hl⟩ := hba hj
    rw [hl, hc, hab.inst]
    by_cases hco : k.loop.compares = true
    · refine .inr ⟨hco, ?_, hla hk⟩
      rintro rfl
      rw [hi] at hk
      cases hk
      rw [hapa] at hco
      cases hco
    · have hre := (hw.instances k (mem_of_getElem? hk)).reverted
      left
      cases hlo : k.loop with
      | fetching => simp [hlo, LoopPhase.compares] at hco
      | dropping => simp [hlo, LoopPhase.compares] at hco
      | reverting ids messages =>
        rw [hlo] at hre
        exact fun hid => hun (hre id hid)
      | _ => trivial
  · intro m j hj
    obtain ⟨k, hk, hc, -⟩ := hba hj
    rw [hc]
    intro entry he hid hout
    have hk := (hw.instances k (mem_of_getElem? hk)).controller
    exact hun (hid ▸ hk.audit entry he hout)
  · intro hap
    rw [hb] at hap
    cases hap

/-- The script does not run while the loop of the instance compares. -/
def apart (w : World) : Label → Bool
  | .applyStep id .ok =>
    match w.applies[id]? with
    | some a =>
      match a.phase, w.instances[a.inst]? with
      | .reserving, some i => !i.loop.compares
      | _, _ => true
    | none => true
  | _ => true

theorem input_of_reserving {e : Effect Apply} (hp : a.phase = .reserving)
    (hne : e.next.phase = .applying) (he : stepApply s r i id a input = some e) :
    input = .ok := by
  cases input with
  | ok => rfl
  | cancelled | disconnected => simp [stepApply, stepApplyAll, stepApplyInstance, hp] at he
  | failed executed | timedOut executed =>
    simp only [stepApply, stepApplyAll, stepApplyInstance, hp, ite_none_right_eq_some,
      some.injEq] at he
    rw [← he.2] at hne
    cases hne

theorem Upholds.own {e : Effect Apply} (h : w.Upholds) (hw : w.Traced) (hs : w.Reserved s)
    (ha : w.applies[id]? = some a) (hi : w.instances[a.inst]? = some i)
    (he : stepApply s w.redis i id a input = some e)
    (hapa : a.phase = .reserving → e.next.phase = .applying → i.loop.compares = false)
    (hin : InForce { w.commit a.inst e with applies := w.applies.set id e.next } id e.next) :
    Upheld { w.commit a.inst e with applies := w.applies.set id e.next } id e.next := by
  obtain ⟨command, operation, hru, hmo⟩ := stepApply_isMove he
  obtain ⟨hsta, hbo⟩ := hs.applies a (mem_of_getElem? ha)
  have hnow : e.redis.now = w.redis.now := by rw [hru.redis, exec_now]
  have hli : w.redis.now < e.next.expiresAt := hnow ▸ hin.live
  have hov : e.next.stage ≠ .over := by
    rcases hin.stage with hst | hst <;> simp [hst]
  obtain ⟨hab, ⟨hst, hsu, hap⟩ | ⟨hp, hbe, hne, hb, rfl, rfl, hpub, hone⟩⟩ :=
    hmo.inForce hin.stage
  · have hbe : w.InForce id a := ⟨ha, hst, hin.requested, expiresAt_eq hab ▸ hli⟩
    rw [← hru.controller] at hap
    refine (h id a hbe).commit hbe hw hi hru rfl rfl hab ?_
      (hmo.bound hsta hbo) (fun hr => hov (hmo.reverts hr).2) (fun _ _ _ => rfl) ?_
    · rw [hsu]
      exact nofun
    · intro hb
      exact (hap hb).imp_right (fun hhas => ⟨rfl, hhas⟩)
  · exact upheld_reserve hw ha hi hru hpub hab hbe hb hone hsta (hapa hp hne)

theorem Upholds.applyStep {e : Effect Apply} (h : w.Upholds) (hw : w.Traced) (hs : w.Reserved s)
    (hapa : w.apart (.applyStep id input) = true) (ha : w.applies[id]? = some a)
    (hi : w.instances[a.inst]? = some i) (he : stepApply s w.redis i id a input = some e) :
    Upholds { w.commit a.inst e with applies := w.applies.set id e.next } := by
  intro other b hin
  rcases getElem?_set_cases hin.apply with ⟨rfl, rfl⟩ | ⟨hne, hb⟩
  · refine h.own hw hs ha hi he ?_ hin
    intro hp hnex
    have hok := input_of_reserving hp hnex he
    subst hok
    simpa [apart, ha, hp, hi] using hapa
  · obtain ⟨command, operation, hru, hmo⟩ := stepApply_isMove he
    obtain ⟨hst, hbo⟩ := hs.applies a (mem_of_getElem? ha)
    have hnow : e.redis.now = w.redis.now := by rw [hru.redis, exec_now]
    have hbe : w.InForce other b := ⟨hb, hin.stage, hin.requested, hnow ▸ hin.live⟩
    refine (h other b hbe).commit hbe hw hi hru rfl rfl ⟨rfl, rfl, rfl⟩ ?_
      (hmo.bound hst hbo) ?_ ?_ (fun hap => .inl hap)
    · exact fun hsu => hne (hmo.subject hsu)
    · exact fun hre => hne (hmo.reverts hre).1
    · intro o ho hid
      obtain ⟨-, rfl⟩ := hmo.adds ho
      exact absurd hid.symm hne

theorem Upholds.revertStep {v : Revert} {e : Effect Revert} (h : w.Upholds) (hw : w.Traced)
    (hs : w.Reserved s) (hv : w.reverts[k]? = some v) (hi : w.instances[v.inst]? = some i)
    (he : stepRevert s w.redis i v input = some e) :
    Upholds { w.commit v.inst e with reverts := w.reverts.set k e.next } := by
  intro id a hin
  obtain ⟨command, operation, hru, hmo⟩ := stepRevert_isMove he
  have hnow : e.redis.now = w.redis.now := by rw [hru.redis, exec_now]
  have hre : ¬ w.Requested id := fun hr => hin.requested (requested_set hv rfl hmo.id hr)
  have hne : id ≠ v.id := by
    rintro rfl
    exact hre ⟨v, mem_of_getElem? hv, rfl⟩
  have hbe : w.InForce id a := ⟨hin.apply, hin.stage, hre, hnow ▸ hin.live⟩
  refine (h id a hbe).commit hbe hw hi hru rfl rfl ⟨rfl, rfl, rfl⟩ ?_ ?_ ?_ ?_
    (fun hap => .inl hap)
  · exact fun hsu => hne (hmo.subject hsu)
  · rcases hmo.command with rfl | rfl | rfl | ⟨key, rfl⟩
    · exact Nat.zero_le _
    · exact hs.reverts v (mem_of_getElem? hv)
    · exact Nat.zero_le _
    · exact Nat.zero_le _
  · intro hrev
    rcases hmo.operation with hq | ⟨actor, reason, rfl⟩
    · exact not_reverts_of_isQuiet hq hrev
    · exact hne hrev
  · intro o ho
    rcases hmo.operation with hq | ⟨actor, reason, rfl⟩
    · exact (not_adds_of_isQuiet hq ho).elim
    · exact ho.elim

theorem Upholds.flushStep {phase : FlushPhase} {e : Effect FlushPhase} (h : w.Upholds)
    (hw : w.Traced) (hs : w.Reserved s) (hf : w.flushes[k]? = some (n, phase))
    (hi : w.instances[n]? = some i) (he : stepFlush s w.redis i phase input = some e) :
    Upholds { w.commit n e with flushes := w.flushes.set k (n, e.next) } := by
  intro id a hin
  obtain ⟨command, operation, hru, hc, hq, -⟩ := stepFlush_runs he
  have hnow : e.redis.now = w.redis.now := by rw [hru.redis, exec_now]
  have hbe : w.InForce id a := { hin with live := hnow ▸ hin.live }
  refine (h id a hbe).commit hbe hw hi hru rfl rfl ⟨rfl, rfl, rfl⟩ ?_ ?_ ?_ ?_
    (fun hap => .inl hap)
  · rcases hc with rfl | rfl <;> nofun
  · rcases hc with rfl | rfl
    · exact Nat.zero_le _
    · exact hs.flushes _ (mem_of_getElem? hf)
  · exact not_reverts_of_isQuiet hq
  · exact fun o ho => (not_adds_of_isQuiet hq ho).elim

theorem stepLoop_index {settled : OverrideId → Prop} (h : stepLoop s r i input = some next)
    (hi : i.loop.Reserved r settled) (hm : (id, score) ∈ r.index) (hli : r.now < score)
    (hac : r.getActive id ≠ none) :
    (id, score) ∈ next.1.index := by
  have htr {bound : Nat} (hb : bound ≤ r.now) :
      (id, score) ∈ (r.removeRangeByScore bound).index :=
    mem_filter.mpr ⟨hm, by simp only [decide_eq_true_eq]; omega⟩
  have hdr {other : OverrideId} (ho : r.getActive other = none) :
      (id, score) ∈ (r.removeMember other).index := by
    have hne : id ≠ other := by
      rintro rfl
      exact hac ho
    exact mem_filter.mpr ⟨hm, by simpa using hne⟩
  revert h
  fun_cases stepLoop s r i input <;> intro h
  case case14 bound hlo _ =>
    obtain ⟨i', hi', rfl⟩ := map_eq_some_iff.mp h
    rw [hlo] at hi
    simp only
    split
    · exact htr hi.bound
    · exact hm
  case case15 other remaining found hlo _ =>
    obtain ⟨i', hi', rfl⟩ := map_eq_some_iff.mp h
    rw [hlo] at hi
    simp only
    split
    · exact hdr (hi.dropped other rfl)
    · exact hm
  case case16 | case17 =>
    obtain ⟨i', hi', rfl⟩ := map_eq_some_iff.mp h
    exact hm
  all_goals cases h
  case case5 bound hlo =>
    rw [hlo] at hi
    exact htr hi.bound
  case case8 other remaining found hlo =>
    rw [hlo] at hi
    exact hdr (hi.dropped other rfl)
  all_goals exact hm

theorem stepLoop_evolves (h : stepLoop s r i input = some next) (hi : i.Traced w) :
    i.controller.Evolves r.now (fun _ => i.loop.compares = false)
      (fun other => w.Requested other ∨ other ∈ i.loop.reverted) next.2.controller := by
  have hap {m : DiagnosticsCoordinationMessage} (hm : w.TracesMessage m)
      (hc : i.loop.compares = false) : i.controller.Evolves r.now (fun _ => i.loop.compares = false)
      (fun other => w.Requested other ∨ other ∈ i.loop.reverted)
      (applyMessage s i.controller m r.now) := by
    refine (applyMessage_evolves m).weaken (fun _ _ => hc) ?_
    rintro other ⟨hac, rfl⟩
    unfold TracesMessage at hm
    rw [hac] at hm
    exact .inl hm
  revert h
  fun_cases stepLoop s r i input <;> intro h
  case case14 | case15 | case16 | case17 =>
    obtain ⟨i', hi', rfl⟩ := map_eq_some_iff.mp h
    revert hi'
    fun_cases Instance.endCycle i input <;> intro hi' <;> cases hi'
    all_goals exact .refl
  all_goals cases h
  case case2 hlo m work hwo =>
    exact hap (hi.work m (hwo ▸ mem_cons_self)) (by rw [hlo]; rfl)
  case case9 found hlo active controller hget =>
    have hc : controller = (i.controller.getActive s.options r.now).2 := by rw [hget]
    rw [hc]
    exact RuntimeLogLevelController.evolves_getActive
  case case10 other ids messages hlo =>
    refine (RuntimeLogLevelController.evolves_revert other _ _).weaken (fun _ h => h) ?_
    rintro id rfl
    refine .inr ?_
    rw [hlo]
    exact mem_cons_self
  case case12 m messages hlo =>
    exact hap (hi.messages m (by rw [hlo]; exact mem_cons_self)) (by rw [hlo]; rfl)
  all_goals exact .refl

theorem stepLoop_sees {p : Prop} (h : stepLoop s r i input = some next)
    (hbo : i.loop.bound ≤ r.now) (hm : (id, score) ∈ r.index) (hli : r.now < score)
    (hac : r.getActive id ≠ none)
    (hse : i.loop.Sees id ∨ (i.loop.compares = true ∧ p ∧ i.controller.Lacks id)) :
    next.2.loop.Sees id ∨ (next.2.loop.compares = true ∧ p ∧ next.2.controller.Lacks id) := by
  revert h
  fun_cases stepLoop s r i input <;> intro h
  case case14 | case15 | case16 | case17 =>
    obtain ⟨i', hi', rfl⟩ := map_eq_some_iff.mp h
    revert hi'
    fun_cases Instance.endCycle i input <;> intro hi' <;> cases hi'
    all_goals exact .inl trivial
  all_goals cases h
  case case2 hlo m work hwo =>
    left
    simp only [hlo]
    trivial
  case case6 bound hlo =>
    rw [hlo] at hbo
    have hle : bound ≤ score := Nat.le_trans hbo (Nat.le_of_lt hli)
    exact .inl (.inl (List.mem_map.mpr ⟨(id, score), mem_filter.mpr ⟨hm, by simpa using hle⟩,
      rfl⟩))
  case case7 other remaining found hlo =>
    rw [hlo] at hse
    simp only
    rcases hse with hse | ⟨-, hp, hla⟩
    · left
      cases hget : r.getActive other with
      | some message =>
        rcases hse with hse | hse
        · rcases mem_cons.mp hse with rfl | hse
          · right
            simp
          · exact .inl hse
        · right
          simp only [map_append, mem_append]
          exact .inl hse
      | none =>
        have hne : id ≠ other := by
          rintro rfl
          exact hac hget
        rcases hse with hse | hse
        · exact .inl ((mem_cons.mp hse).resolve_left hne)
        · exact .inr hse
    · right
      cases r.getActive other <;> exact ⟨rfl, hp, hla⟩
  case case8 other remaining found hlo =>
    rw [hlo] at hse
    exact hse.imp_right (fun hx => ⟨rfl, hx.2⟩)
  case case9 found hlo active controller hget =>
    rw [hlo] at hse
    cases hget
    left
    intro hid
    obtain ⟨o, ho, hoid⟩ := List.mem_map.mp hid
    simp only [mem_filter, Bool.and_eq_true, Bool.not_eq_true', List.any_eq_false,
      beq_iff_eq] at ho
    rcases hse with hse | ⟨-, -, hla⟩
    · rcases hse with hse | hse
      · cases hse
      · obtain ⟨member, hme, hfst⟩ := List.mem_map.mp hse
        exact ho.2.2 member hme (hfst.trans hoid.symm)
    · have hsw : i.controller.Evolves r.now (fun _ => False) (fun _ => False)
          (i.controller.removeExpired s.options r.now) :=
        RuntimeLogLevelController.evolves_removeExpired
      exact hsw.lacks hla (fun _ => False.elim) o ho.1 hoid
  case case10 other ids messages hlo =>
    rw [hlo] at hse
    rcases hse with hse | ⟨hco, -⟩
    · exact .inl (fun hid => hse (mem_cons_of_mem other hid))
    · cases hco
  all_goals exact .inl trivial

omit [DiagnosticsRuntime] in
theorem Upheld.getActive (h : w.Upheld id a) (hin : w.InForce id a) :
    w.redis.getActive id ≠ none := by
  obtain ⟨message, expiresAt, hac, hle⟩ := h.active
  have hli := hin.live
  rw [RedisStore.getActive_eq_some.mpr ⟨expiresAt, hac, by omega⟩]
  exact nofun

omit [DiagnosticsRuntime] in
theorem Upheld.not_reverted (h : w.Upheld id a) (hi : w.instances[n]? = some i) :
    id ∉ i.loop.reverted := by
  rcases h.seen n i hi with hs | ⟨hco, -⟩
  · cases hlo : i.loop with
    | reverting ids messages =>
      rw [hlo] at hs
      exact hs
    | _ => exact not_mem_nil
  · cases hlo : i.loop with
    | reverting ids messages =>
      rw [hlo] at hco
      cases hco
    | _ => exact not_mem_nil

theorem Upholds.loopStep (h : w.Upholds) (hw : w.Traced) (hs : w.Reserved s)
    (hi : w.instances[n]? = some i) (he : stepLoop s w.redis i input = some next) :
    Upholds { w.setInstance n next.2 with redis := next.1 } := by
  have hmem := mem_of_getElem? hi
  obtain ⟨hpr, -⟩ := stepLoop_reserved he hs.redis (hs.loops i hmem) hs.index
  intro id a hin
  have hbe : w.InForce id a :=
    { hin with live := hpr.now ▸ hin.live }
  have hup := h id a hbe
  have hac := hup.getActive hbe
  have hev := stepLoop_evolves he (hw.instances i hmem)
  have hre : ¬ (w.Requested id ∨ id ∈ i.loop.reverted) := by
    rintro (hr | hr)
    · exact hin.requested hr
    · exact hup.not_reverted hi hr
  refine ⟨?_, ?_, ?_, ?_, ?_⟩
  · obtain ⟨message, expiresAt, ha, hle⟩ := hup.active
    exact ⟨message, expiresAt, (congrFun hpr.active id).trans ha, hle⟩
  · exact stepLoop_index he (hs.loops i hmem) hup.index hbe.live hac
  · intro m j hj
    rcases getElem?_set_cases hj with ⟨rfl, rfl⟩ | ⟨-, hj⟩
    · exact stepLoop_sees he (hs.loops i hmem).bound hup.index hbe.live hac
        (hup.seen m i hi)
    · exact hup.seen m j hj
  · intro m j hj
    rcases getElem?_set_cases hj with ⟨rfl, rfl⟩ | ⟨-, hj⟩
    · exact hev.spares (hup.audit m i hi) hre
    · exact hup.audit m j hj
  · intro hap j hj
    rcases getElem?_set_cases hj with ⟨rfl, rfl⟩ | ⟨-, hj⟩
    · exact hev.has (hup.applied hap i hi)
        (fun o ho => hbe.overrides_live hw hmem ho) hre
    · exact hup.applied hap j hj

omit [DiagnosticsRuntime] in
theorem Upheld.same (h : w.Upheld id a) (hac : t.redis.active = w.redis.active)
    (hind : t.redis.index = w.redis.index)
    (hin : ∀ (m : Nat) (j : Instance), t.instances[m]? = some j →
      ∃ k, w.instances[m]? = some k ∧ j.controller = k.controller ∧ j.loop = k.loop) :
    t.Upheld id a := by
  refine ⟨hac ▸ h.active, hind ▸ h.index, ?_, ?_, ?_⟩
  · intro m j hj
    obtain ⟨k, hk, hc, hl⟩ := hin m j hj
    rw [hl, hc]
    exact h.seen m k hk
  · intro m j hj
    obtain ⟨k, hk, hc, -⟩ := hin m j hj
    rw [hc]
    exact h.audit m k hk
  · intro hap j hj
    obtain ⟨k, hk, hc, -⟩ := hin a.inst j hj
    rw [hc]
    exact h.applied hap k hk

omit [DiagnosticsRuntime] in
theorem Upholds.setInstance (h : w.Upholds) (hi : w.instances[n]? = some i)
    (hc : j.controller = i.controller) (hl : j.loop = i.loop) : (w.setInstance n j).Upholds := by
  intro id a hin
  have hbe : w.InForce id a := { hin with }
  refine (h id a hbe).same rfl rfl ?_
  intro m k hk
  rcases getElem?_set_cases hk with ⟨rfl, rfl⟩ | ⟨-, hk⟩
  · exact ⟨i, hi, hc, hl⟩
  · exact ⟨k, hk, rfl, rfl⟩

theorem Upholds.step {label : Label} (h : w.Upholds) (hw : w.Traced) (hs : w.Reserved s)
    (hap : w.apart label = true) (ht : World.step s w label = some t) : t.Upholds := by
  have hsa (m : Nat) (j : Instance) (hj : w.instances[m]? = some j) :
      ∃ k, w.instances[m]? = some k ∧ j.controller = k.controller ∧ j.loop = k.loop :=
    ⟨j, hj, rfl, rfl⟩
  revert ht
  fun_cases World.step s w label <;> intro ht
  case case4 ha i hi =>
    obtain ⟨e, he, rfl⟩ := map_eq_some_iff.mp ht
    exact h.applyStep hw hs hap ha hi he
  case case9 hv i hi =>
    obtain ⟨e, he, rfl⟩ := map_eq_some_iff.mp ht
    exact h.revertStep hw hs hv hi he
  case case14 hf i hi =>
    obtain ⟨e, he, rfl⟩ := map_eq_some_iff.mp ht
    exact h.flushStep hw hs hf hi he
  case case24 hi =>
    obtain ⟨e, he, rfl⟩ := map_eq_some_iff.mp ht
    exact h.loopStep hw hs hi he
  all_goals cases ht
  case case1 milliseconds =>
    intro id a hin
    have hli : w.redis.now + milliseconds < a.expiresAt := hin.live
    exact (h id a { hin with live := by omega }).same rfl rfl hsa
  case case2 =>
    intro id a hin
    rcases getElem?_append_singleton_cases hin.apply with ha | ⟨-, rfl⟩
    · exact (h id a { hin with apply := ha }).same rfl rfl hsa
    · rcases hin.stage with hst | hst <;> cases hst
  case case7 =>
    intro id a hin
    refine (h id a ⟨hin.apply, hin.stage, ?_, hin.live⟩).same rfl rfl hsa
    rintro ⟨v, hv, hid⟩
    exact hin.requested ⟨v, mem_append_left _ hv, hid⟩
  case case12 =>
    intro id a hin
    exact (h id a { hin with }).same rfl rfl hsa
  case case17 hi _ _ _ => exact h.setInstance hi (by rw [enqueue_eq]) (enqueue_loop _ _)
  case case20 hi => exact h.setInstance hi rfl rfl
  case case22 hi => exact h.setInstance hi (by rw [enqueue_eq]) (enqueue_loop _ _)

end World

end

def exampleReconcile (steps : Nat) : List Label := List.replicate steps (.loopStep 0 .ok)

def exampleApply : List Label :=
  .apply 0 exampleRequest (utf16 "operator") :: List.replicate 14 (.applyStep 0 .ok)

deriving instance DecidableEq for FlushPhase, ApplyPhase

end Realtime.Diagnostics
