import Realtime.Diagnostics.Moves

/-! Reservations of categories in a running system: every step of a call, of a flush and
of a reconciliation keeps the coordination keys consistent. -/

namespace Realtime.Diagnostics

open List Option

section

variable [DiagnosticsRuntime]

def LoopPhase.bound : LoopPhase → Nat
  | .trimming bound | .listing bound => bound
  | _ => 0

/-- The ids that a reconciliation has read from the index and not looked up yet, with
the one that it is about to drop. -/
def LoopPhase.pending : LoopPhase → List OverrideId
  | .fetching remaining _ => remaining
  | .dropping id remaining _ => id :: remaining
  | _ => []

def LoopPhase.dropped : LoopPhase → Option OverrideId
  | .dropping id _ _ => some id
  | _ => none

def Command.writes : Command → Option OverrideId
  | .reserve id _ | .setActive id _ _ => some id
  | _ => Option.none

def Apply.IsSettled (a : Apply) : Prop := a.request.scope = utf16 "all" ∧ a.stage ≠ .before

variable {s : Settings} {r : RedisStore} {i : Instance} {input : Input}
  {c : RuntimeLogLevelController} {id : OverrideId} {a b : Apply} {command : Command}
  {operation : Operation} {published : Option DiagnosticsCoordinationMessage}

theorem exec_reserve (id : OverrideId) (a : Apply) :
    ((a.reserve s r id).1 ≠ 1 ∧ (Command.reserve id a).exec s r = r) ∨
    ((a.reserve s r id).1 ≠ 1 ∧
      (Command.reserve id a).exec s r = r.removeRangeByScore a.startedAt) ∨
    (r.getReservation (reservationKey a.request.category) = none ∧
      (Command.reserve id a).exec s r =
        { r with
          reservations := Function.update r.reservations (reservationKey a.request.category)
            (some (id, r.now + a.request.lifetime))
          active := Function.update r.active id (some (a.message id, r.now + a.request.lifetime))
          index := ((r.removeRangeByScore a.startedAt).removeMember id).index ++
            [(id, a.expiresAt)] }) := by
  rcases RedisStore.reserve_cases (r := r) (reservationKey a.request.category) id (a.message id)
    a.request.lifetime a.startedAt s.options.maximumDetailItems a.expiresAt with
    ⟨hre, h⟩ | ⟨hre, h⟩ | ⟨-, hfr, -, h⟩
  · exact .inl ⟨by rw [Apply.reserve, hre]; decide, h⟩
  · exact .inr (.inl ⟨by rw [Apply.reserve, hre]; decide, h⟩)
  · exact .inr (.inr ⟨hfr, h⟩)

theorem exec_now (command : Command) : (command.exec s r).now = r.now := by
  cases command with
  | reserve id a =>
    rcases exec_reserve (s := s) (r := r) id a with ⟨-, h⟩ | ⟨-, h⟩ | ⟨-, h⟩
    · rw [h]
    · rw [h]
      rfl
    · rw [h]
  | removeActive id key => exact RedisStore.removeActive_now id key
  | _ => rfl

omit [DiagnosticsRuntime] in
theorem stage_before (hs : a.request.scope = utf16 "all")
    (ha : a.phase = .starting ∨ a.phase = .connecting ∨ a.phase = .reserving) :
    a.stage = .before := by
  unfold Apply.stage
  rcases ha with ha | ha | ha <;> simp [ha, hs, ApplyPhase.stage]

omit [DiagnosticsRuntime] in
theorem stage_of_starting (ha : a.phase = .starting) : a.stage = .before := by
  simp [Apply.stage, ha]

theorem ApplyMove.isSettled (h : ApplyMove s r c id a command operation published b)
    (ha : a.IsSettled) : b.IsSettled := by
  obtain ⟨hs, hst⟩ := ha
  cases h with
  | start hp => exact absurd (stage_of_starting hp) hst
  | connect hp => exact absurd (stage_before hs (.inr (.inl hp))) hst
  | quiet hab hb => exact ⟨hab.request ▸ hs, hb ▸ hst⟩
  | publish hab _ hb =>
    refine ⟨hab.request ▸ hs, ?_⟩
    rcases hb with hb | hb <;> simp [hb]
  | reserve hab hp => exact absurd (stage_before hs (.inr (.inr hp))) hst
  | refuse hab hp => exact absurd (stage_before hs (.inr (.inr hp))) hst
  | apply hab _ hb =>
    refine ⟨hab.request ▸ hs, ?_⟩
    rcases hb with hb | hb <;> simp [hb]
  | abandon hab hb => exact ⟨hab.request ▸ hs, by simp [hb]⟩

variable {other : OverrideId} {member : OverrideId × Nat} {v next : Revert} {key : Text}

theorem ApplyMove.writes (h : ApplyMove s r c id a command operation published b)
    (hw : command.writes = some other) :
    other = id ∧ ¬ a.IsSettled := by
  cases h with
  | start | connect | publish | apply => cases hw
  | quiet _ _ _ hc => rcases hc with rfl | rfl <;> cases hw
  | reserve hab hp hs =>
    cases hw
    exact ⟨rfl, fun ha => ha.2 (stage_before hs (.inr (.inr hp)))⟩
  | refuse hab hp hs _ hc =>
    rcases hc with rfl | rfl <;> cases hw
    exact ⟨rfl, fun ha => ha.2 (stage_before hs (.inr (.inr hp)))⟩
  | abandon _ _ _ hc =>
    rcases hc with rfl | ⟨-, ⟨key, rfl⟩ | rfl | ⟨target, lifetime, rfl, hs⟩⟩ <;> cases hw
    exact ⟨rfl, fun ha => hs ha.1⟩

theorem ApplyMove.consistent (h : ApplyMove s r c id a command operation published b)
    (hr : r.Consistent s.options.maximumDetailItems) (hst : a.startedAt ≤ r.now)
    (hbo : a.phase.bound ≤ r.now) :
    (command.exec s r).Consistent s.options.maximumDetailItems := by
  cases h with
  | start | connect | publish | apply => exact hr
  | quiet _ _ _ hc =>
    rcases hc with rfl | rfl
    · exact hr
    · exact hr.removeRangeByScore hbo
  | reserve => exact hr.reserve hst
  | refuse _ _ _ _ hc =>
    rcases hc with rfl | rfl
    · exact hr
    · exact hr.reserve hst
  | abandon _ _ _ hc =>
    rcases hc with rfl | ⟨-, ⟨key, rfl⟩ | rfl | ⟨target, lifetime, rfl, hs⟩⟩
    · exact hr
    · exact hr.removeActive id key
    · exact hr.deleteActive id
    · refine hr.setActive ?_
      rintro request ⟨⟩
      exact hs

theorem exec_index (hm : member ∈ (command.exec s r).index) :
    member ∈ r.index ∨ ∃ a, command = .reserve member.1 a := by
  cases command with
  | none | setActive | deleteActive => exact .inl hm
  | trim bound => exact .inl (mem_of_mem_filter hm)
  | removeActive id key =>
    rw [Command.exec, RedisStore.removeActive_index] at hm
    exact .inl (mem_of_mem_filter hm)
  | reserve id a =>
    rcases exec_reserve (s := s) (r := r) id a with ⟨-, h⟩ | ⟨-, h⟩ | ⟨-, h⟩
    · rw [h] at hm
      exact .inl hm
    · rw [h] at hm
      exact .inl (mem_of_mem_filter hm)
    · simp only [h, mem_append, mem_singleton] at hm
      rcases hm with hm | rfl
      · exact .inl (mem_of_mem_filter (mem_of_mem_filter hm))
      · exact .inr ⟨a, rfl⟩

theorem exec_active (hw : command.writes ≠ some id) :
    (command.exec s r).active id = r.active id ∨ (command.exec s r).active id = none := by
  cases command with
  | none | trim => exact .inl rfl
  | removeActive other key =>
    rw [Command.exec, RedisStore.removeActive_active]
    by_cases ho : id = other
    · exact .inr (ho ▸ Function.update_self _ _ _)
    · exact .inl (Function.update_of_ne ho _ _)
  | deleteActive other =>
    by_cases ho : id = other
    · exact .inr (ho ▸ Function.update_self _ _ _)
    · exact .inl (Function.update_of_ne ho _ _)
  | setActive other message lifetime =>
    have ho : id ≠ other := fun he => hw (he ▸ rfl)
    exact .inl (Function.update_of_ne ho _ _)
  | reserve other a =>
    have ho : id ≠ other := fun he => hw (he ▸ rfl)
    rcases exec_reserve (s := s) (r := r) other a with ⟨-, h⟩ | ⟨-, h⟩ | ⟨-, h⟩
    · exact .inl (by rw [h])
    · exact .inl (by rw [h]; rfl)
    · exact .inl (by rw [h]; exact Function.update_of_ne ho _ _)

theorem exec_getActive_none (hw : command.writes ≠ some id) (hn : r.getActive id = none) :
    (command.exec s r).getActive id = none := by
  unfold RedisStore.getActive at hn ⊢
  rw [exec_now]
  rcases exec_active (s := s) (r := r) hw with h | h
  · rw [h]
    exact hn
  · rw [h]

theorem ApplyMove.index (h : ApplyMove s r c id a command operation published b)
    (hm : member ∈ (command.exec s r).index) :
    member ∈ r.index ∨ (member.1 = id ∧ b.IsSettled) := by
  rcases exec_index hm with hm | ⟨a', hc⟩
  · exact .inl hm
  · have hwr : command.writes = some member.1 := by
      rw [hc]
      rfl
    have hid : member.1 = id := (h.writes hwr).1
    refine .inr ⟨hid, ?_⟩
    cases h with
    | start | connect | publish | apply => cases hc
    | quiet _ _ _ hc' => rcases hc' with rfl | rfl <;> cases hc
    | reserve hab hp hs hb =>
      have hs : b.request.scope = utf16 "all" := hab.request ▸ hs
      exact ⟨hs, by simp [stage_eq hs, hb, ApplyPhase.stage]⟩
    | refuse hab hp hs hb => exact ⟨hab.request ▸ hs, by simp [hb]⟩
    | abandon _ _ _ hc' =>
      rcases hc' with rfl | ⟨-, ⟨key, rfl⟩ | rfl | ⟨target, lifetime, rfl, hs⟩⟩ <;> cases hc

theorem ApplyMove.bounds (h : ApplyMove s r c id a command operation published b)
    (hst : a.startedAt ≤ r.now) (hbo : a.phase.bound ≤ r.now) :
    b.startedAt ≤ r.now ∧ b.phase.bound ≤ r.now := by
  cases h with
  | start _ _ _ _ hb hs => rcases hs with hs | hs <;> exact ⟨by omega, by omega⟩
  | connect => exact ⟨Nat.le_refl _, Nat.zero_le _⟩
  | quiet hab _ _ _ _ hb => exact ⟨hab.startedAt ▸ hst, by omega⟩
  | publish hab _ _ _ hb => exact ⟨hab.startedAt ▸ hst, by omega⟩
  | reserve hab _ _ hb => exact ⟨hab.startedAt ▸ hst, hb ▸ Nat.zero_le _⟩
  | refuse hab _ _ _ _ hb => exact ⟨hab.startedAt ▸ hst, by omega⟩
  | apply hab _ _ hb => exact ⟨hab.startedAt ▸ hst, by omega⟩
  | abandon hab _ hb => exact ⟨hab.startedAt ▸ hst, by omega⟩

def Command.subject : Command → Option OverrideId
  | .reserve id _ | .setActive id _ _ | .removeActive id _ | .deleteActive id => some id
  | _ => Option.none

theorem ApplyMove.subject (h : ApplyMove s r c id a command operation published b) (hs : command.subject = some other) : other = id := by
  cases h with
  | start | connect | publish | apply => cases hs
  | quiet _ _ _ hc => rcases hc with rfl | rfl <;> cases hs
  | reserve =>
    cases hs
    rfl
  | refuse _ _ _ _ hc =>
    rcases hc with rfl | rfl <;> cases hs
    rfl
  | abandon _ _ _ hc =>
    rcases hc with rfl | ⟨-, ⟨key, rfl⟩ | rfl | ⟨target, lifetime, rfl, -⟩⟩ <;> cases hs
    all_goals rfl

omit [DiagnosticsRuntime] in
theorem RevertMove.subject (h : RevertMove r v command operation published next) (hs : command.subject = some other) : other = v.id := by
  rcases h.command with rfl | rfl | rfl | ⟨key, rfl⟩ <;> cases hs
  all_goals rfl

theorem exec_getReservation (hs : command.subject ≠ some id) (hr : r.getReservation key = some id) :
    (command.exec s r).getReservation key = some id := by
  obtain ⟨expiresAt, hhe, hle⟩ := RedisStore.getReservation_eq_some.mp hr
  cases command with
  | none | trim | deleteActive | setActive => exact hr
  | removeActive other other_key =>
    have hne : id ≠ other := fun he => hs (he ▸ rfl)
    have hnow : (r.removeActive other other_key).now = r.now := RedisStore.removeActive_now _ _
    exact RedisStore.getReservation_eq_some.mpr ⟨expiresAt,
      RedisStore.removeActive_reservations hhe hle hne, Nat.le_trans (Nat.le_of_eq hnow) hle⟩
  | reserve other a =>
    rcases exec_reserve (s := s) (r := r) other a with ⟨-, h⟩ | ⟨-, h⟩ | ⟨hfr, h⟩
    · rw [h]
      exact hr
    · rw [h]
      exact hr
    · have hk : key ≠ reservationKey a.request.category := by
        rintro rfl
        rw [hfr] at hr
        cases hr
      rw [h]
      exact RedisStore.getReservation_eq_some.mpr
        ⟨expiresAt, (Function.update_of_ne hk _ _).trans hhe, hle⟩

theorem Effect.Runs.getReservation {α : Type} {e : Effect α} (h : e.Runs s r i command operation)
    (hs : command.subject ≠ some id) (hr : r.getReservation key = some id) :
    e.redis.getReservation key = some id := by
  rw [h.redis]
  exact exec_getReservation hs hr

/-- What a reconciliation relies on between its steps. -/
structure LoopPhase.Reserved (phase : LoopPhase) (r : RedisStore) (settled : OverrideId → Prop) :
    Prop where
  bound : phase.bound ≤ r.now
  pending : ∀ id ∈ phase.pending, settled id
  dropped : ∀ id, phase.dropped = some id → r.getActive id = none

section

variable {phase : LoopPhase} {r' : RedisStore} {settled settled' : OverrideId → Prop}

omit [DiagnosticsRuntime] in
theorem LoopPhase.Reserved.mono (h : phase.Reserved r settled) (hnow : r.now ≤ r'.now)
    (hse : ∀ id, settled id → settled' id)
    (hac : ∀ id, settled id → r.getActive id = none → r'.getActive id = none) :
    phase.Reserved r' settled' := by
  refine ⟨Nat.le_trans h.bound hnow, fun id hid => hse id (h.pending id hid), ?_⟩
  intro id hid
  have hmem : id ∈ phase.pending := by
    cases phase with
    | dropping => exact some.inj hid ▸ mem_cons_self
    | _ => cases hid
  exact hac id (h.pending id hmem) (h.dropped id hid)

omit [DiagnosticsRuntime] in
theorem endCycle_loop {next : Instance} : i.endCycle input = some next →
    next.loop.Reserved r settled := by
  fun_cases Instance.endCycle i input <;> intro h <;> cases h
  all_goals exact ⟨Nat.zero_le _, nofun, nofun⟩

/-- A step of the loop drops members whose active key is gone, or trims. -/
structure RedisStore.Pruned (maximum : Nat) (r r' : RedisStore) : Prop where
  consistent : r'.Consistent maximum
  now : r'.now = r.now
  active : r'.active = r.active
  reservations : r'.reservations = r.reservations
  index : r'.index ⊆ r.index

variable {maximum : Nat}

theorem RedisStore.Pruned.refl (h : r.Consistent maximum) :
    r.Pruned maximum r :=
  ⟨h, rfl, rfl, rfl, List.Subset.refl _⟩

theorem RedisStore.Pruned.trim {maximum bound : Nat} (h : r.Consistent maximum)
    (hb : bound ≤ r.now) : r.Pruned maximum (r.removeRangeByScore bound) :=
  ⟨h.removeRangeByScore hb, rfl, rfl, rfl, filter_subset_self _⟩

theorem RedisStore.Pruned.drop (h : r.Consistent maximum) (hn : r.getActive id = none) :
    r.Pruned maximum (r.removeMember id) :=
  ⟨h.removeMember hn, rfl, rfl, rfl, filter_subset_self _⟩

theorem stepLoop_reserved {next : RedisStore × Instance} (h : stepLoop s r i input = some next)
    (hr : r.Consistent s.options.maximumDetailItems) (hi : i.loop.Reserved r settled)
    (hin : ∀ member ∈ r.index, settled member.1) :
    r.Pruned s.options.maximumDetailItems next.1 ∧ next.2.loop.Reserved next.1 settled := by
  revert h
  fun_cases stepLoop s r i input <;> intro h
  case case14 bound hlo _ =>
    obtain ⟨i', hi', rfl⟩ := map_eq_some_iff.mp h
    rw [hlo] at hi
    refine ⟨?_, endCycle_loop hi'⟩
    split
    · exact .trim hr hi.bound
    · exact .refl hr
  case case15 id remaining found hlo _ =>
    obtain ⟨i', hi', rfl⟩ := map_eq_some_iff.mp h
    rw [hlo] at hi
    refine ⟨?_, endCycle_loop hi'⟩
    split
    · exact .drop hr (hi.dropped id rfl)
    · exact .refl hr
  case case16 | case17 =>
    obtain ⟨i', hi', rfl⟩ := map_eq_some_iff.mp h
    exact ⟨.refl hr, endCycle_loop hi'⟩
  all_goals cases h
  case case2 => exact ⟨.refl hr, hi⟩
  case case3 => exact ⟨.refl hr, Nat.le_refl _, nofun, nofun⟩
  case case5 bound hlo =>
    rw [hlo] at hi
    exact ⟨.trim hr hi.bound, hi.bound, nofun, nofun⟩
  case case6 bound hlo =>
    refine ⟨.refl hr, Nat.zero_le _, ?_, nofun⟩
    intro id hid
    obtain ⟨member, hm, rfl⟩ := List.mem_map.mp hid
    exact hin member (mem_of_mem_filter hm)
  case case7 id remaining found hlo =>
    rw [hlo] at hi
    refine ⟨.refl hr, ?_⟩
    simp only
    cases hget : r.getActive id with
    | some message =>
      exact ⟨Nat.zero_le _, fun other ho => hi.pending other (mem_cons_of_mem id ho), nofun⟩
    | none =>
      refine ⟨Nat.zero_le _, hi.pending, ?_⟩
      rintro other ⟨⟩
      exact hget
  case case8 id remaining found hlo =>
    rw [hlo] at hi
    exact ⟨.drop hr (hi.dropped id rfl), Nat.zero_le _,
      fun other ho => hi.pending other (mem_cons_of_mem id ho), nofun⟩
  all_goals exact ⟨.refl hr, Nat.zero_le _, nofun, nofun⟩

end

theorem RevertMove.consistent (h : RevertMove r v command operation published next)
    (hr : r.Consistent s.options.maximumDetailItems) (hbo : v.phase.bound ≤ r.now) :
    (command.exec s r).Consistent s.options.maximumDetailItems := by
  rcases h.command with rfl | rfl | rfl | ⟨key, rfl⟩
  · exact hr
  · exact hr.removeRangeByScore hbo
  · exact hr.deleteActive v.id
  · exact hr.removeActive v.id key

omit [DiagnosticsRuntime] in
theorem RevertMove.writes (h : RevertMove r v command operation published next) :
    command.writes = none := by
  rcases h.command with rfl | rfl | rfl | ⟨key, rfl⟩ <;> rfl

theorem exec_index_of_writes (hw : command.writes = none) (hm : member ∈ (command.exec s r).index) :
    member ∈ r.index := by
  rcases exec_index hm with hm | ⟨a, rfl⟩
  · exact hm
  · cases hw

omit [DiagnosticsRuntime] in
theorem getActive_none_mono {r' : RedisStore} (ha : r'.active id = r.active id)
    (hnow : r.now ≤ r'.now) (hn : r.getActive id = none) : r'.getActive id = none := by
  unfold RedisStore.getActive at hn ⊢
  rw [ha]
  cases hac : r.active id with
  | none => rfl
  | some entry =>
    simp only [hac, ite_eq_right_iff, reduceCtorEq, imp_false] at hn
    simp only [ite_eq_right_iff, reduceCtorEq, imp_false]
    omega

namespace World

/-- The id belongs to an apply for all replicas whose script will not run any more. -/
def Settled (w : World) (id : OverrideId) : Prop := ∃ a, w.applies[id]? = some a ∧ a.IsSettled

structure Reserved (s : Settings) (w : World) : Prop where
  redis : w.redis.Consistent s.options.maximumDetailItems
  applies : ∀ a ∈ w.applies, a.startedAt ≤ w.redis.now ∧ a.phase.bound ≤ w.redis.now
  reverts : ∀ v ∈ w.reverts, v.phase.bound ≤ w.redis.now
  flushes : ∀ f ∈ w.flushes, f.2.bound ≤ w.redis.now
  loops : ∀ i ∈ w.instances, i.loop.Reserved w.redis w.Settled
  index : ∀ member ∈ w.redis.index, w.Settled member.1

variable {w t : World} {n : Nat}

variable {j : Instance} {k : Nat} {label : Label}

omit [DiagnosticsRuntime] in
theorem mem_publish {instances : List Instance} {message : Option DiagnosticsCoordinationMessage}
    (h : j ∈ publish instances message) :
    ∃ i ∈ instances, j.controller = i.controller ∧ j.work = i.work ∧ j.loop = i.loop := by
  cases message with
  | none => exact ⟨j, h, rfl, rfl, rfl⟩
  | some message =>
    obtain ⟨i, hi, rfl⟩ := List.mem_map.mp h
    exact ⟨i, hi, rfl, rfl, rfl⟩

omit [DiagnosticsRuntime] in
theorem settled_set (ha : w.applies[id]? = some a) (hb : a.IsSettled → b.IsSettled)
    (ht : t.applies = w.applies.set id b) {other : OverrideId} (h : w.Settled other) :
    t.Settled other := by
  obtain ⟨a', ha', hs⟩ := h
  unfold Settled
  rw [ht]
  by_cases ho : other = id
  · subst ho
    rw [ha] at ha'
    cases ha'
    have hlt := (List.getElem?_eq_some_iff.mp ha).1
    exact ⟨b, by simp [hlt], hb hs⟩
  · exact ⟨a', by rw [getElem?_set_ne (Ne.symm ho)]; exact ha', hs⟩

theorem Reserved.commit {α : Type} {e : Effect α} (h : w.Reserved s)
    (hi : w.instances[n]? = some i) (hru : e.Runs s w.redis i command operation)
    (hr : t.redis = e.redis)
    (hin : t.instances = publish (w.instances.set n e.inst) e.published)
    (hc : (command.exec s w.redis).Consistent s.options.maximumDetailItems)
    (hwr : ∀ id, command.writes = some id → ¬ w.Settled id)
    (hse : ∀ id, w.Settled id → t.Settled id)
    (hind : ∀ member ∈ (command.exec s w.redis).index, t.Settled member.1)
    (hap : ∀ a ∈ t.applies, a.startedAt ≤ w.redis.now ∧ a.phase.bound ≤ w.redis.now)
    (hrev : ∀ v ∈ t.reverts, v.phase.bound ≤ w.redis.now)
    (hfl : ∀ f ∈ t.flushes, f.2.bound ≤ w.redis.now) : t.Reserved s := by
  have hre : t.redis = command.exec s w.redis := hr.trans hru.redis
  have hnow : t.redis.now = w.redis.now := by rw [hre, exec_now]
  refine ⟨by rwa [hre], by rwa [hnow], by rwa [hnow], by rwa [hnow], ?_, by rwa [hre]⟩
  intro j hj
  rw [hin] at hj
  obtain ⟨k, hk, -, -, hlo⟩ := mem_publish hj
  have hba : ∃ k' ∈ w.instances, k.loop = k'.loop := by
    rcases mem_or_eq_of_mem_set hk with hk | rfl
    · exact ⟨k, hk, rfl⟩
    · exact ⟨i, mem_of_getElem? hi, hru.loop⟩
  obtain ⟨k', hk', hlo'⟩ := hba
  rw [hlo, hlo']
  refine (h.loops k' hk').mono (Nat.le_of_eq hnow.symm) hse ?_
  intro id hid hno
  rw [hre]
  exact exec_getActive_none (fun hw => hwr id hw hid) hno

theorem Reserved.applyStep {e : Effect Apply} (h : w.Reserved s) (ha : w.applies[id]? = some a)
    (hi : w.instances[a.inst]? = some i) (he : stepApply s w.redis i id a input = some e) :
    Reserved s { w.commit a.inst e with applies := w.applies.set id e.next } := by
  obtain ⟨command, operation, hru, hmo⟩ := stepApply_isMove he
  obtain ⟨hst, hbo⟩ := h.applies a (mem_of_getElem? ha)
  have hse (other : OverrideId) (ho : w.Settled other) :
      Settled { w.commit a.inst e with applies := w.applies.set id e.next } other :=
    settled_set ha hmo.isSettled rfl ho
  refine h.commit hi hru rfl rfl (hmo.consistent h.redis hst hbo) ?_ hse ?_ ?_
    h.reverts h.flushes
  · intro other hw hot
    obtain ⟨rfl, hnot⟩ := hmo.writes hw
    obtain ⟨a', ha', hs⟩ := hot
    rw [ha] at ha'
    cases ha'
    exact hnot hs
  · intro member hm
    rcases hmo.index hm with hm | ⟨hid, hb⟩
    · exact hse _ (h.index member hm)
    · have hlt := (List.getElem?_eq_some_iff.mp ha).1
      exact ⟨e.next, by simp [hid, hlt], hb⟩
  · exact forall_mem_set h.applies (hmo.bounds hst hbo)

theorem Reserved.revertStep {v : Revert} {e : Effect Revert} (h : w.Reserved s)
    (hv : w.reverts[k]? = some v) (hi : w.instances[v.inst]? = some i)
    (he : stepRevert s w.redis i v input = some e) :
    Reserved s { w.commit v.inst e with reverts := w.reverts.set k e.next } := by
  obtain ⟨command, operation, hru, hmo⟩ := stepRevert_isMove he
  have hbo := h.reverts v (mem_of_getElem? hv)
  refine h.commit hi hru rfl rfl (hmo.consistent h.redis hbo) ?_ (fun _ ho => ho) ?_ h.applies
    ?_ h.flushes
  · intro other hw
    rw [hmo.writes] at hw
    cases hw
  · intro member hm
    exact h.index member (exec_index_of_writes hmo.writes hm)
  · exact forall_mem_set h.reverts (Nat.le_trans hmo.bound (Nat.max_le.mpr ⟨hbo, Nat.le_refl _⟩))

theorem Reserved.flushStep {phase : FlushPhase} {e : Effect FlushPhase} (h : w.Reserved s)
    (hf : w.flushes[k]? = some (n, phase)) (hi : w.instances[n]? = some i)
    (he : stepFlush s w.redis i phase input = some e) :
    Reserved s { w.commit n e with flushes := w.flushes.set k (n, e.next) } := by
  obtain ⟨command, operation, hru, hc, -, -, hb⟩ := stepFlush_runs he
  have hbo : phase.bound ≤ w.redis.now := h.flushes _ (mem_of_getElem? hf)
  have hwr : command.writes = none := by
    rcases hc with rfl | rfl <;> rfl
  refine h.commit hi hru rfl rfl ?_ ?_ (fun _ ho => ho) ?_ h.applies h.reverts ?_
  · rcases hc with rfl | rfl
    · exact h.redis
    · exact h.redis.removeRangeByScore hbo
  · intro other hw
    rw [hwr] at hw
    cases hw
  · intro member hm
    exact h.index member (exec_index_of_writes hwr hm)
  · exact forall_mem_set h.flushes (Nat.le_trans hb (Nat.max_le.mpr ⟨hbo, Nat.le_refl _⟩))

theorem Reserved.loopStep {next : RedisStore × Instance} (h : w.Reserved s)
    (hi : w.instances[n]? = some i) (he : stepLoop s w.redis i input = some next) :
    Reserved s { w.setInstance n next.2 with redis := next.1 } := by
  obtain ⟨hpr, hlo⟩ :=
    stepLoop_reserved he h.redis (h.loops i (mem_of_getElem? hi)) h.index
  have hnow := hpr.now
  refine ⟨hpr.consistent, ?_, ?_, ?_, ?_, ?_⟩
  · rw [hnow]
    exact h.applies
  · rw [hnow]
    exact h.reverts
  · rw [hnow]
    exact h.flushes
  · intro j hj
    rcases mem_or_eq_of_mem_set hj with hj | rfl
    · refine (h.loops j hj).mono (Nat.le_of_eq hnow.symm) (fun _ ho => ho) ?_
      intro id _
      exact getActive_none_mono (congrFun hpr.active id) (Nat.le_of_eq hnow.symm)
    · exact hlo
  · intro member hm
    exact h.index member (hpr.index hm)

theorem Reserved.setInstance (h : w.Reserved s) (hi : w.instances[n]? = some i)
    (hj : j.loop = i.loop) : Reserved s (w.setInstance n j) := by
  refine { h with loops := ?_ }
  refine forall_mem_set h.loops ?_
  rw [hj]
  exact h.loops i (mem_of_getElem? hi)

omit [DiagnosticsRuntime] in
theorem enqueue_loop (i : Instance) (item : CoordinationWork) : (i.enqueue item).loop = i.loop := by
  unfold Instance.enqueue
  split <;> rfl

theorem Reserved.tick (h : w.Reserved s) (milliseconds : Nat) :
    Reserved s { w with redis := { w.redis with now := w.redis.now + milliseconds } } := by
  have hle : w.redis.now ≤ w.redis.now + milliseconds := Nat.le_add_right _ _
  refine ⟨h.redis.tick milliseconds, ?_, ?_, ?_, ?_, h.index⟩
  · intro a ha
    exact ⟨Nat.le_trans (h.applies a ha).1 hle, Nat.le_trans (h.applies a ha).2 hle⟩
  · intro v hv
    exact Nat.le_trans (h.reverts v hv) hle
  · intro f hf
    exact Nat.le_trans (h.flushes f hf) hle
  · intro j hj
    exact (h.loops j hj).mono hle (fun _ ho => ho) (fun _ _ => getActive_none_mono rfl hle)

theorem Reserved.apply (h : w.Reserved s) (request : LogLevelChangeRequest) (actor : Text) :
    Reserved s { w with applies := w.applies ++ [{ inst := n, request, actor }] } := by
  have hse (id : OverrideId) (hid : w.Settled id) :
      Settled { w with applies := w.applies ++ [{ inst := n, request, actor }] } id := by
    obtain ⟨a, ha, hs⟩ := hid
    exact ⟨a, getElem?_append_left (List.getElem?_eq_some_iff.mp ha).1 ▸ ha, hs⟩
  refine ⟨h.redis, ?_, h.reverts, h.flushes, ?_, fun member hm => hse _ (h.index member hm)⟩
  · exact forall_mem_concat h.applies ⟨Nat.zero_le _, Nat.zero_le _⟩
  · intro j hj
    exact (h.loops j hj).mono (Nat.le_refl _) hse (fun _ _ hno => hno)

theorem Reserved.step (h : w.Reserved s) : World.step s w label = some t → t.Reserved s := by
  fun_cases World.step s w label <;> intro ht
  case case4 ha i hi =>
    obtain ⟨e, he, rfl⟩ := map_eq_some_iff.mp ht
    exact h.applyStep ha hi he
  case case9 hv i hi =>
    obtain ⟨e, he, rfl⟩ := map_eq_some_iff.mp ht
    exact h.revertStep hv hi he
  case case14 hf i hi =>
    obtain ⟨e, he, rfl⟩ := map_eq_some_iff.mp ht
    exact h.flushStep hf hi he
  case case24 hi =>
    obtain ⟨e, he, rfl⟩ := map_eq_some_iff.mp ht
    exact h.loopStep hi he
  all_goals cases ht
  case case1 milliseconds => exact h.tick milliseconds
  case case2 request actor _ => exact h.apply request actor
  case case7 =>
    refine { h with reverts := ?_ }
    exact forall_mem_concat h.reverts (Nat.zero_le _)
  case case12 =>
    refine { h with flushes := ?_ }
    exact forall_mem_concat h.flushes (Nat.zero_le _)
  case case17 hi message inFlight hm => exact h.setInstance hi (enqueue_loop _ _)
  case case20 hi => exact h.setInstance hi rfl
  case case22 hi => exact h.setInstance hi (enqueue_loop _ _)

def init (controllers : List RuntimeLogLevelController) : World :=
  { instances := controllers.map (fun controller => { controller }) }

theorem reserved_init (controllers : List RuntimeLogLevelController) :
    (init controllers).Reserved s := by
  have hre : (init controllers).redis.Consistent s.options.maximumDetailItems := by
    refine ⟨?_, ?_, Nat.zero_le _⟩
    all_goals
      intro id message expiresAt request ha
      cases ha
  refine ⟨hre, ?_, ?_, ?_, ?_, ?_⟩
  · exact forall_mem_nil _
  · exact forall_mem_nil _
  · exact forall_mem_nil _
  · intro i hi
    obtain ⟨controller, -, rfl⟩ := List.mem_map.mp hi
    exact ⟨Nat.zero_le _, forall_mem_nil _, nofun⟩
  · exact forall_mem_nil _

theorem Reserved.run {controllers : List RuntimeLogLevelController} {labels : List Label}
    (hw : (World.step s).run (init controllers) labels = some w) : w.Reserved s :=
  StepFn.run_induct (fun _ _ _ h ht => h.step ht) (reserved_init controllers) hw

def subject (w : World) : Label → Option OverrideId
  | .applyStep id _ => some id
  | .revertStep k _ => w.reverts[k]?.map (·.id)
  | _ => none

theorem step_getReservation (h : w.Reserved s) (ht : World.step s w label = some t)
    (hnow : t.redis.now = w.redis.now) (hla : w.subject label ≠ some id) {key : Text}
    (hr : w.redis.getReservation key = some id) :
    t.redis.getReservation key = some id := by
  revert ht
  fun_cases World.step s w label <;> intro ht
  case case4 ha i hi =>
    obtain ⟨e, he, rfl⟩ := map_eq_some_iff.mp ht
    obtain ⟨command, operation, hru, hmo⟩ := stepApply_isMove he
    refine hru.getReservation (fun hs => hla ?_) hr
    rw [hmo.subject hs]
    rfl
  case case9 hv i hi =>
    obtain ⟨e, he, rfl⟩ := map_eq_some_iff.mp ht
    obtain ⟨command, operation, hru, hmo⟩ := stepRevert_isMove he
    refine hru.getReservation (fun hs => hla ?_) hr
    rw [hmo.subject hs]
    simp [subject, hv]
  case case14 hf i hi =>
    obtain ⟨e, he, rfl⟩ := map_eq_some_iff.mp ht
    obtain ⟨command, operation, hru, hc, -⟩ := stepFlush_runs he
    refine hru.getReservation (fun hs => ?_) hr
    rcases hc with rfl | rfl <;> cases hs
  case case24 i hi =>
    obtain ⟨e, he, rfl⟩ := map_eq_some_iff.mp ht
    obtain ⟨hpr, -⟩ :=
      stepLoop_reserved he h.redis (h.loops i (mem_of_getElem? hi)) h.index
    unfold RedisStore.getReservation at hr ⊢
    simp only [hpr.reservations, hpr.now]
    exact hr
  case case1 milliseconds =>
    cases ht
    have hze : milliseconds = 0 := by
      simp only at hnow
      omega
    rw [hze]
    exact hr
  all_goals
    cases ht
    try exact hr

end World

end

@[reducible] def exampleRuntime : DiagnosticsRuntime where
  tryParseLevel level := if level = utf16 "Debug" then some .debug else none
  redact value := value
  sha256 value := value

def exampleRequest : LogLevelChangeRequest where
  category := utf16 "Realtime"
  level := utf16 "Debug"
  durationSeconds := 60
  reason := utf16 "incident"

def exampleController : RuntimeLogLevelController := { instanceId := utf16 "first" }

end Realtime.Diagnostics
