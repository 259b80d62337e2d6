import Realtime.Diagnostics.Overrides
import Realtime.Diagnostics.Reservations

/-! Where overrides, audit entries and messages come from. An override anywhere in the
system carries the request and the start of the apply that its id names, and a message
that reverts names a requested revert. -/

namespace Realtime.Diagnostics

open List Option

def LoopPhase.messages : LoopPhase → List DiagnosticsCoordinationMessage
  | .fetching _ found | .dropping _ _ found => found.map Prod.snd
  | .reverting _ messages | .reapplying messages => messages
  | _ => []

def LoopPhase.reverted : LoopPhase → List OverrideId
  | .reverting ids _ => ids
  | _ => []

namespace World

/-- The apply with this id is past its script, with this request and this start. -/
def Traces (w : World) (id : OverrideId) (request : LogLevelChangeRequest) (startedAt : Nat) :
    Prop :=
  ∃ a, w.applies[id]? = some a ∧ a.stage ≠ .before ∧ a.request = request ∧
    a.startedAt = startedAt

def Knows (w : World) (id : OverrideId) : Prop := ∃ request startedAt, w.Traces id request startedAt

def Requested (w : World) (id : OverrideId) : Prop := ∃ v ∈ w.reverts, v.id = id

def TracesOverride (w : World) (o : ActiveLogLevelOverride) : Prop :=
  ∃ request, w.Traces o.id request o.startedAt ∧ o.expiresAt = o.startedAt + request.lifetime

def TracesMessage (w : World) (message : DiagnosticsCoordinationMessage) : Prop :=
  match message.action with
  | .apply => ∃ request, message.request = some request ∧
      w.Traces message.id request message.timestamp
  | .revert => w.Requested message.id

/-- What is traced in `w` is traced in `t`. -/
structure Extends (w t : World) : Prop where
  traces : ∀ {id : OverrideId} {request : LogLevelChangeRequest} {startedAt : Nat},
    w.Traces id request startedAt → t.Traces id request startedAt
  requested : ∀ {id : OverrideId}, w.Requested id → t.Requested id

end World

structure RuntimeLogLevelController.Traced (w : World) (c : RuntimeLogLevelController) : Prop where
  overrides : ∀ o ∈ c.overrides, w.TracesOverride o
  audit : ∀ entry ∈ c.audit ++ c.pendingAudit, entry.outcome = .reverted → w.Knows entry.id

structure Instance.Traced (w : World) (i : Instance) : Prop where
  controller : i.controller.Traced w
  inFlight : ∀ message ∈ i.inFlight, w.TracesMessage message
  work : ∀ message, CoordinationWork.message message ∈ i.work → w.TracesMessage message
  messages : ∀ message ∈ i.loop.messages, w.TracesMessage message
  reverted : ∀ id ∈ i.loop.reverted, w.Knows id

structure World.Traced (w : World) : Prop where
  instances : ∀ i ∈ w.instances, i.Traced w
  active : ∀ id message expiresAt, w.redis.active id = some (message, expiresAt) →
    w.TracesMessage message

section

variable {w t : World} {i : Instance} {c c' : RuntimeLogLevelController}

namespace World

theorem Extends.refl : w.Extends w := ⟨fun h => h, fun h => h⟩

theorem Extends.knows (h : w.Extends t) {id : OverrideId} (hid : w.Knows id) : t.Knows id := by
  obtain ⟨request, startedAt, hid⟩ := hid
  exact ⟨request, startedAt, h.traces hid⟩

variable {o : ActiveLogLevelOverride}

theorem Extends.override (h : w.Extends t) (ho : w.TracesOverride o) : t.TracesOverride o := by
  obtain ⟨request, ho, he⟩ := ho
  exact ⟨request, h.traces ho, he⟩

theorem Extends.message (h : w.Extends t) {message : DiagnosticsCoordinationMessage}
    (hm : w.TracesMessage message) : t.TracesMessage message := by
  unfold TracesMessage at hm ⊢
  split
  · next ha =>
    rw [ha] at hm
    obtain ⟨request, hr, hm⟩ := hm
    exact ⟨request, hr, h.traces hm⟩
  · next ha =>
    rw [ha] at hm
    exact h.requested hm

theorem TracesOverride.knows (h : w.TracesOverride o) :
    w.Knows o.id := by
  obtain ⟨request, h, -⟩ := h
  exact ⟨request, o.startedAt, h⟩

theorem TracesOverride.expiresAt (h : w.TracesOverride o) {a : Apply}
    (ha : w.applies[o.id]? = some a) : o.expiresAt = a.expiresAt := by
  obtain ⟨request, ⟨a', ha', -, hr, hs⟩, he⟩ := h
  rw [ha] at ha'
  cases ha'
  rw [he, Apply.expiresAt, hr, hs]

end World

theorem RuntimeLogLevelController.Traced.evolves {now : Nat}
    {adds : ActiveLogLevelOverride → Prop} {reverts : OverrideId → Prop} (h : c.Traced w)
    (hext : w.Extends t) (hc : c.Evolves now adds reverts c')
    (had : ∀ o, adds o → t.TracesOverride o) : c'.Traced t := by
  refine ⟨?_, ?_⟩
  · intro o ho
    rcases hc.added o ho with ho | ho
    · exact hext.override (h.overrides o ho)
    · exact had o ho
  · intro entry he hout
    rcases hc.audited entry he hout with he | ⟨-, o, ho, hid⟩
    · exact hext.knows (h.audit entry he hout)
    · exact hid ▸ hext.knows (h.overrides o ho).knows

theorem RuntimeLogLevelController.Traced.mono (h : c.Traced w) (hext : w.Extends t) :
    c.Traced t :=
  ⟨fun o ho => hext.override (h.overrides o ho),
    fun entry he hout => hext.knows (h.audit entry he hout)⟩

theorem Instance.Traced.mono (h : i.Traced w) (hext : w.Extends t) : i.Traced t :=
  ⟨h.controller.mono hext, fun m hm => hext.message (h.inFlight m hm),
    fun m hm => hext.message (h.work m hm), fun m hm => hext.message (h.messages m hm),
    fun id hid => hext.knows (h.reverted id hid)⟩

end

section

variable [DiagnosticsRuntime] {s : Settings} {r : RedisStore} {i : Instance} {input : Input}
  {c : RuntimeLogLevelController} {id : OverrideId} {a b : Apply} {command : Command}
  {operation : Operation} {published : Option DiagnosticsCoordinationMessage}
  {message : DiagnosticsCoordinationMessage}

theorem ApplyMove.continues (h : ApplyMove s r c id a command operation published b)
    (ha : a.stage ≠ .before) : a.Continues b ∧ b.stage ≠ .before := by
  cases h with
  | start hp => exact absurd (stage_of_starting hp) ha
  | connect hp hs => exact absurd (stage_before hs (.inr (.inl hp))) ha
  | quiet hab hb => exact ⟨hab, hb ▸ ha⟩
  | publish hab _ hb => exact ⟨hab, by rcases hb with hb | hb <;> simp [hb]⟩
  | reserve hab hp hs => exact absurd (stage_before hs (.inr (.inr hp))) ha
  | refuse hab hp hs => exact absurd (stage_before hs (.inr (.inr hp))) ha
  | apply hab _ hb => exact ⟨hab, by rcases hb with hb | hb <;> simp [hb]⟩
  | abandon hab hb => exact ⟨hab, by simp [hb]⟩

theorem ApplyMove.adds (h : ApplyMove s r c id a command operation published b)
    {o : ActiveLogLevelOverride} (ho : operation.adds o) :
    b.stage ≠ .before ∧ o = RuntimeLogLevelController.newOverride b.request id b.startedAt := by
  cases h with
  | start _ _ _ _ _ _ hop =>
    rcases hop with rfl | rfl | ⟨rfl, hb⟩
    · exact ho.elim
    · exact ho.elim
    · exact ⟨by simp [hb], ho⟩
  | connect | publish | reserve | refuse => exact ho.elim
  | quiet _ _ _ _ hq => exact (not_adds_of_isQuiet hq ho).elim
  | apply hab _ hb =>
    refine ⟨by rcases hb with hb | hb <;> simp [hb], ?_⟩
    rw [hab.request, hab.startedAt]
    exact ho
  | abandon _ _ _ _ hq => rcases hq with rfl | ⟨actor, reason, rfl⟩ <;> exact ho.elim

theorem ApplyMove.publishes (h : ApplyMove s r c id a command operation (some message) b) :
    message = a.message id ∧ a.Continues b ∧ b.stage ≠ .before := by
  cases h with
  | publish hab _ hb hp =>
    rcases hp with hp | hp
    · cases hp
    · exact ⟨some.inj hp, hab, by rcases hb with hb | hb <;> simp [hb]⟩

variable {expiresAt : Nat}

theorem exec_active_eq_some (h : (command.exec s r).active id = some (message, expiresAt)) :
    r.active id = some (message, expiresAt) ∨ (∃ lifetime, command = .setActive id message lifetime) ∨
      ∃ a, command = .reserve id a ∧ message = a.message id ∧
        expiresAt = r.now + a.request.lifetime := by
  by_cases hw : command.writes = some id
  · cases command with
    | setActive other m lifetime =>
      cases hw
      simp only [Command.exec, RedisStore.setActive, Function.update_self, some.injEq,
        Prod.mk.injEq] at h
      exact .inr (.inl ⟨lifetime, by rw [h.1]⟩)
    | reserve other a =>
      cases hw
      rcases exec_reserve (s := s) (r := r) id a with ⟨-, he⟩ | ⟨-, he⟩ | ⟨-, he⟩
      · rw [he] at h
        exact .inl h
      · rw [he] at h
        exact .inl h
      · simp only [he, Function.update_self, some.injEq, Prod.mk.injEq] at h
        exact .inr (.inr ⟨a, rfl, h.1.symm, h.2.symm⟩)
    | _ => cases hw
  · rcases exec_active (s := s) (r := r) hw with he | he
    · exact .inl (he ▸ h)
    · rw [he] at h
      cases h

theorem ApplyMove.stored (h : ApplyMove s r c id a command operation published b)
    {other : OverrideId} (hm : (command.exec s r).active other = some (message, expiresAt)) :
    r.active other = some (message, expiresAt) ∨
      (a.Continues b ∧ b.stage ≠ .before ∧
        ∃ target, message = { a.message id with targetInstanceId := target }) := by
  rcases exec_active_eq_some hm with hm | ⟨lifetime, rfl⟩ | ⟨a', rfl, rfl, -⟩
  · exact .inl hm
  · cases h with
    | quiet _ _ _ hc => rcases hc with hc | hc <;> cases hc
    | refuse _ _ _ _ hc => rcases hc with hc | hc <;> cases hc
    | abandon hab hb _ hc =>
      rcases hc with hc | ⟨-, ⟨key, hc⟩ | hc | ⟨target, lifetime', hc, -⟩⟩ <;> cases hc
      exact .inr ⟨hab, by simp [hb], target, rfl⟩
  · cases h with
    | quiet _ _ _ hc => rcases hc with hc | hc <;> cases hc
    | reserve hab hp hs hb =>
      have hs : b.request.scope = utf16 "all" := hab.request ▸ hs
      exact .inr ⟨hab, by simp [stage_eq hs, hb, ApplyPhase.stage], none, rfl⟩
    | refuse hab _ _ hb hc =>
      rcases hc with hc | hc <;> cases hc
      exact .inr ⟨hab, by simp [hb], none, rfl⟩
    | abandon _ _ _ hc =>
      rcases hc with hc | ⟨-, ⟨key, hc⟩ | hc | ⟨target, lifetime', hc, -⟩⟩ <;> cases hc

namespace World

variable {w t : World} {n : Nat}

variable {request : LogLevelChangeRequest} {startedAt k : Nat} {v : Revert}
  {item : CoordinationWork}

omit [DiagnosticsRuntime] in
theorem traces_set (ha : w.applies[id]? = some a) (ht : t.applies = w.applies.set id b)
    (hab : a.stage ≠ .before → a.Continues b ∧ b.stage ≠ .before) {other : OverrideId}
    (h : w.Traces other request startedAt) :
    t.Traces other request startedAt := by
  obtain ⟨a', ha', hst, hr, hs⟩ := h
  unfold Traces
  rw [ht]
  by_cases ho : other = id
  · subst ho
    rw [ha] at ha'
    cases ha'
    obtain ⟨hab, hb⟩ := hab hst
    have hlt := (List.getElem?_eq_some_iff.mp ha).1
    exact ⟨b, by simp [hlt], hb, hab.request.trans hr, hab.startedAt.trans hs⟩
  · exact ⟨a', by rw [getElem?_set_ne (Ne.symm ho)]; exact ha', hst, hr, hs⟩

omit [DiagnosticsRuntime] in
theorem tracesMessage_apply (hb : t.applies[id]? = some b) (hab : a.Continues b)
    (hst : b.stage ≠ .before) (target : Option Text) :
    t.TracesMessage { a.message id with targetInstanceId := target } :=
  ⟨a.request, rfl, b, hb, hst, hab.request, hab.startedAt⟩

theorem tracesOverride_new (h : t.Traces id request startedAt) :
    t.TracesOverride (RuntimeLogLevelController.newOverride request id startedAt) :=
  ⟨request, h, rfl⟩

theorem Traced.commit {α : Type} {e : Effect α} (h : w.Traced) (hext : w.Extends t)
    (hi : w.instances[n]? = some i) (hru : e.Runs s w.redis i command operation)
    (hr : t.redis = e.redis)
    (hin : t.instances = publish (w.instances.set n e.inst) e.published)
    (had : ∀ o, operation.adds o → t.TracesOverride o)
    (hpu : ∀ message, e.published = some message → t.TracesMessage message)
    (hac : ∀ id message expiresAt,
      (command.exec s w.redis).active id = some (message, expiresAt) →
        w.redis.active id = some (message, expiresAt) ∨ t.TracesMessage message) : t.Traced := by
  have hins : ∀ j ∈ w.instances.set n e.inst, j.Traced t := by
    intro j hj
    rcases mem_or_eq_of_mem_set hj with hj | rfl
    · exact (h.instances j hj).mono hext
    · have hbe := h.instances i (mem_of_getElem? hi)
      have haf := hbe.mono hext
      refine ⟨?_, ?_, ?_, ?_, ?_⟩
      · rw [hru.controller]
        exact hbe.controller.evolves hext (exec_evolves operation) had
      · rw [hru.inFlight]
        exact haf.inFlight
      · rw [hru.work]
        exact haf.work
      · rw [hru.loop]
        exact haf.messages
      · rw [hru.loop]
        exact haf.reverted
  refine ⟨?_, ?_⟩
  · intro j hj
    rw [hin] at hj
    cases hp : e.published with
    | none =>
      rw [hp] at hj
      exact hins j hj
    | some message =>
      rw [hp] at hj
      obtain ⟨k, hk, rfl⟩ := List.mem_map.mp hj
      have hk := hins k hk
      refine { hk with inFlight := ?_ }
      exact forall_mem_concat hk.inFlight (hpu message hp)
  · intro id message expiresAt hm
    rw [hr, hru.redis] at hm
    rcases hac id message expiresAt hm with hm | hm
    · exact hext.message (h.active id message expiresAt hm)
    · exact hm

theorem Traced.applyStep {e : Effect Apply} (h : w.Traced) (ha : w.applies[id]? = some a)
    (hi : w.instances[a.inst]? = some i) (he : stepApply s w.redis i id a input = some e) :
    Traced { w.commit a.inst e with applies := w.applies.set id e.next } := by
  obtain ⟨command, operation, hru, hmo⟩ := stepApply_isMove he
  have hlt := (List.getElem?_eq_some_iff.mp ha).1
  have hne : (w.applies.set id e.next)[id]? = some e.next := by simp [hlt]
  refine h.commit ⟨traces_set ha rfl hmo.continues, fun hv => hv⟩ hi hru rfl rfl ?_ ?_ ?_
  · intro o ho
    obtain ⟨hst, rfl⟩ := hmo.adds ho
    exact tracesOverride_new ⟨e.next, hne, hst, rfl, rfl⟩
  · intro message hm
    rw [hm] at hmo
    obtain ⟨rfl, hab, hst⟩ := hmo.publishes
    exact tracesMessage_apply hne hab hst none
  · intro other message expiresAt hm
    rcases hmo.stored hm with hm | ⟨hab, hst, target, rfl⟩
    · exact .inl hm
    · exact .inr (tracesMessage_apply hne hab hst target)

theorem exec_active_of_writes (hw : command.writes = none) {expiresAt : Nat}
    (h : (command.exec s r).active id = some (message, expiresAt)) :
    r.active id = some (message, expiresAt) := by
  rcases exec_active_eq_some h with h | ⟨lifetime, rfl⟩ | ⟨a, rfl, -⟩
  · exact h
  · cases hw
  · cases hw

omit [DiagnosticsRuntime] in
theorem requested_set {v v' : Revert} (hv : w.reverts[k]? = some v)
    (ht : t.reverts = w.reverts.set k v') (hid : v'.id = v.id) (h : w.Requested id) :
    t.Requested id := by
  obtain ⟨u, hu, rfl⟩ := h
  obtain ⟨m, hm⟩ := getElem?_of_mem hu
  unfold Requested
  rw [ht]
  by_cases hk : m = k
  · subst hk
    rw [hv] at hm
    cases hm
    exact ⟨v', mem_set (List.getElem?_eq_some_iff.mp hv).1 v', hid⟩
  · have hm' : (w.reverts.set k v')[m]? = some u := by
      rw [getElem?_set_ne (Ne.symm hk)]
      exact hm
    exact ⟨u, mem_of_getElem? hm', rfl⟩

theorem Traced.revertStep {e : Effect Revert} (h : w.Traced) (hv : w.reverts[k]? = some v)
    (hi : w.instances[v.inst]? = some i) (he : stepRevert s w.redis i v input = some e) :
    Traced { w.commit v.inst e with reverts := w.reverts.set k e.next } := by
  obtain ⟨command, operation, hru, hmo⟩ := stepRevert_isMove he
  have hext : w.Extends { w.commit v.inst e with reverts := w.reverts.set k e.next } :=
    ⟨fun ht => ht, requested_set hv rfl hmo.id⟩
  refine h.commit hext hi hru rfl rfl ?_ ?_ ?_
  · intro o ho
    rcases hmo.operation with hq | ⟨actor, reason, rfl⟩
    · exact (not_adds_of_isQuiet hq ho).elim
    · exact ho.elim
  · intro message hm
    obtain ⟨hac, hid⟩ := hmo.published message hm
    unfold TracesMessage
    rw [hac, hid]
    exact hext.requested ⟨v, mem_of_getElem? hv, rfl⟩
  · intro other message expiresAt hm
    exact .inl (exec_active_of_writes hmo.writes hm)

theorem Traced.flushStep {phase : FlushPhase} {e : Effect FlushPhase} (h : w.Traced)
    (hi : w.instances[n]? = some i) (he : stepFlush s w.redis i phase input = some e) :
    Traced { w.commit n e with flushes := w.flushes.set k (n, e.next) } := by
  obtain ⟨command, operation, hru, hc, hq, hp, -⟩ := stepFlush_runs he
  refine h.commit ⟨fun ht => ht, fun hv => hv⟩ hi hru rfl rfl ?_ ?_ ?_
  · intro o ho
    exact (not_adds_of_isQuiet hq ho).elim
  · intro message hm
    rw [hp] at hm
    cases hm
  · intro other message expiresAt hm
    refine .inl (exec_active_of_writes ?_ hm)
    rcases hc with rfl | rfl <;> rfl

theorem traced_applyMessage (h : c.Traced w) (hm : w.TracesMessage message) {now : Nat} :
    (applyMessage s c message now).Traced w := by
  refine h.evolves .refl (applyMessage_evolves message) ?_
  rintro o ⟨hac, request, hr, rfl⟩
  unfold TracesMessage at hm
  rw [hac] at hm
  obtain ⟨request', hr', hm⟩ := hm
  rw [hr] at hr'
  cases hr'
  exact tracesOverride_new hm

omit [DiagnosticsRuntime] in
theorem traced_endCycle {next : Instance} (hi : i.Traced w) : i.endCycle input = some next →
    next.Traced w := by
  fun_cases Instance.endCycle i input <;> intro h <;> cases h
  case case1 => exact ⟨hi.controller, hi.inFlight, by rintro _ ⟨⟩, by rintro _ ⟨⟩, by rintro _ ⟨⟩⟩
  all_goals exact ⟨hi.controller, hi.inFlight, hi.work, by rintro _ ⟨⟩, by rintro _ ⟨⟩⟩

theorem traced_stepLoop {next : RedisStore × Instance} (h : stepLoop s r i input = some next)
    (hi : i.Traced w) (hac : ∀ id message expiresAt,
      r.active id = some (message, expiresAt) → w.TracesMessage message) : next.2.Traced w := by
  revert h
  fun_cases stepLoop s r i input <;> intro h
  case case14 | case15 | case16 | case17 =>
    obtain ⟨i', hi', rfl⟩ := map_eq_some_iff.mp h
    exact traced_endCycle hi hi'
  all_goals cases h
  case case1 => exact ⟨hi.controller, hi.inFlight, by simp, by rintro _ ⟨⟩, by rintro _ ⟨⟩⟩
  case case2 hlo m work hw =>
    have hm : ∀ m', CoordinationWork.message m' ∈ .message m :: work → w.TracesMessage m' :=
      hw ▸ hi.work
    exact { hi with
      controller := traced_applyMessage hi.controller (hm m mem_cons_self)
      work := fun m' hm' => hm m' (mem_cons_of_mem _ hm') }
  case case3 hlo work hw =>
    have hm : ∀ m', CoordinationWork.message m' ∈ .reconcile :: work → w.TracesMessage m' :=
      hw ▸ hi.work
    exact ⟨hi.controller, hi.inFlight, fun m' hm' => hm m' (mem_cons_of_mem _ hm'), by rintro _ ⟨⟩,
      by rintro _ ⟨⟩⟩
  case case7 id remaining found hlo =>
    have hme := hi.messages
    rw [hlo] at hme
    refine ⟨hi.controller, hi.inFlight, hi.work, ?_, ?_⟩
    · simp only
      cases hget : r.getActive id with
      | none => exact hme
      | some m =>
        obtain ⟨expiresAt, hm, -⟩ := RedisStore.getActive_eq_some.mp hget
        intro m' hm'
        simp only [LoopPhase.messages, map_append, mem_append] at hm'
        rcases hm' with hm' | hm'
        · exact hme m' hm'
        · rw [mem_singleton.mp hm']
          exact hac id m expiresAt hm
    · simp only
      cases r.getActive id <;> rintro _ ⟨⟩
  case case8 hlo =>
    have hme := hi.messages
    rw [hlo] at hme
    exact ⟨hi.controller, hi.inFlight, hi.work, hme, by rintro _ ⟨⟩⟩
  case case9 found hlo active controller hget =>
    have hme := hi.messages
    rw [hlo] at hme
    have hc : controller = (i.controller.getActive s.options r.now).2 := by rw [hget]
    have ha : active = controller.overrides := by
      cases hget
      rfl
    have htr : controller.Traced w := by
      have hsw : i.controller.Evolves r.now (fun _ => False) (fun _ => False) controller :=
        hc ▸ RuntimeLogLevelController.evolves_getActive
      exact hi.controller.evolves .refl hsw (fun _ => False.elim)
    refine ⟨htr, hi.inFlight, hi.work, hme, ?_⟩
    intro id hid
    obtain ⟨o, ho, rfl⟩ := List.mem_map.mp hid
    have ho := mem_of_mem_filter ho
    rw [ha] at ho
    exact (htr.overrides o ho).knows
  case case10 id ids messages hlo =>
    have hme := hi.messages
    have hre := hi.reverted
    rw [hlo] at hme hre
    exact ⟨hi.controller.evolves .refl (RuntimeLogLevelController.evolves_revert id _ _)
      (fun _ => False.elim), hi.inFlight, hi.work, hme,
      fun other ho => hre other (mem_cons_of_mem id ho)⟩
  case case11 hlo =>
    have hme := hi.messages
    rw [hlo] at hme
    exact ⟨hi.controller, hi.inFlight, hi.work, hme, by rintro _ ⟨⟩⟩
  case case12 m messages hlo =>
    have hme := hi.messages
    rw [hlo] at hme
    exact ⟨traced_applyMessage hi.controller (hme m mem_cons_self), hi.inFlight, hi.work,
      fun m' hm' => hme m' (mem_cons_of_mem m hm'), by rintro _ ⟨⟩⟩
  all_goals exact ⟨hi.controller, hi.inFlight, hi.work, by rintro _ ⟨⟩, by rintro _ ⟨⟩⟩

theorem Traced.loopStep {next : RedisStore × Instance} (h : w.Traced) (hw : w.Reserved s)
    (hi : w.instances[n]? = some i) (he : stepLoop s w.redis i input = some next) :
    Traced { w.setInstance n next.2 with redis := next.1 } := by
  have hmem := mem_of_getElem? hi
  obtain ⟨hpr, -⟩ := stepLoop_reserved he hw.redis (hw.loops i hmem) hw.index
  have hne := traced_stepLoop he (h.instances i hmem) h.active
  have hext : w.Extends { w.setInstance n next.2 with redis := next.1 } :=
    ⟨fun ht => ht, fun hv => hv⟩
  refine ⟨?_, ?_⟩
  · intro j hj
    rcases mem_or_eq_of_mem_set hj with hj | rfl
    · exact (h.instances j hj).mono hext
    · exact hne.mono hext
  · intro id message expiresAt hm
    simp only [hpr.active] at hm
    exact hext.message (h.active id message expiresAt hm)

omit [DiagnosticsRuntime] in
theorem Traced.setInstance {j : Instance} (h : w.Traced) (hj : j.Traced w) :
    (w.setInstance n j).Traced := by
  have hext : w.Extends (w.setInstance n j) := ⟨fun ht => ht, fun hv => hv⟩
  refine ⟨?_, fun id message expiresAt hm => hext.message (h.active id message expiresAt hm)⟩
  intro k hk
  rcases mem_or_eq_of_mem_set hk with hk | rfl
  · exact (h.instances k hk).mono hext
  · exact hj.mono hext

omit [DiagnosticsRuntime] in
theorem mem_enqueue_work {item other : CoordinationWork} (h : other ∈ (i.enqueue item).work) :
    other ∈ i.work ∨ other = item := by
  unfold Instance.enqueue at h
  generalize 256 = capacity at h
  split at h
  · exact .inl h
  · exact .inl h
  · have h := RuntimeLogLevelController.mem_keepLast h
    rwa [mem_append, mem_singleton] at h

omit [DiagnosticsRuntime] in
theorem enqueue_eq (i : Instance) (item : CoordinationWork) :
    i.enqueue item = { i with work := (i.enqueue item).work } := by
  unfold Instance.enqueue
  generalize 256 = capacity
  split <;> rfl

omit [DiagnosticsRuntime] in
theorem traced_enqueue (hi : i.Traced w)
    (hite : ∀ message, item = .message message → w.TracesMessage message) :
    (i.enqueue item).Traced w := by
  rw [enqueue_eq]
  refine { hi with work := ?_ }
  intro message hm
  rcases mem_enqueue_work hm with hm | hm
  · exact hi.work message hm
  · exact hite message hm.symm

omit [DiagnosticsRuntime] in
theorem Traced.extend (h : w.Traced) (hext : w.Extends t) (hi : t.instances = w.instances)
    (hr : t.redis.active = w.redis.active) : t.Traced := by
  refine ⟨?_, ?_⟩
  · intro j hj
    rw [hi] at hj
    exact (h.instances j hj).mono hext
  · intro id message expiresAt hm
    rw [hr] at hm
    exact hext.message (h.active id message expiresAt hm)

theorem Traced.step {label : Label} (h : w.Traced) (hw : w.Reserved s) :
    World.step s w label = some t → t.Traced := by
  fun_cases World.step s w label <;> intro ht
  case case4 ha i hi =>
    obtain ⟨e, he, rfl⟩ := map_eq_some_iff.mp ht
    exact h.applyStep ha hi he
  case case9 hv i hi =>
    obtain ⟨e, he, rfl⟩ := map_eq_some_iff.mp ht
    exact h.revertStep hv hi he
  case case14 hf i hi =>
    obtain ⟨e, he, rfl⟩ := map_eq_some_iff.mp ht
    exact h.flushStep hi he
  case case24 hi =>
    obtain ⟨e, he, rfl⟩ := map_eq_some_iff.mp ht
    exact h.loopStep hw hi he
  all_goals cases ht
  case case1 | case12 => exact h.extend ⟨fun ht => ht, fun hv => hv⟩ rfl rfl
  case case2 =>
    refine h.extend ⟨?_, fun hv => hv⟩ rfl rfl
    rintro id request startedAt ⟨a, ha, ht⟩
    exact ⟨a, getElem?_append_left (List.getElem?_eq_some_iff.mp ha).1 ▸ ha, ht⟩
  case case7 =>
    refine h.extend ⟨fun ht => ht, ?_⟩ rfl rfl
    rintro id ⟨v, hv, hid⟩
    exact ⟨v, mem_append_left _ hv, hid⟩
  case case17 i hi message inFlight hm =>
    have hi := h.instances i (mem_of_getElem? hi)
    have hin := hi.inFlight
    rw [hm] at hin
    have hre : Instance.Traced w { i with inFlight } :=
      { hi with inFlight := fun m hm' => hin m (mem_cons_of_mem _ hm') }
    refine h.setInstance (traced_enqueue hre ?_)
    rintro m ⟨⟩
    exact hin message mem_cons_self
  case case20 i hi =>
    have hi := h.instances i (mem_of_getElem? hi)
    exact h.setInstance { hi with inFlight := fun m hm => hi.inFlight m (mem_of_mem_tail hm) }
  case case22 hi =>
    exact h.setInstance (traced_enqueue (h.instances _ (mem_of_getElem? hi)) (by rintro _ ⟨⟩))

def Fresh (controllers : List RuntimeLogLevelController) : Prop :=
  ∀ c ∈ controllers, c.overrides = [] ∧ c.audit = [] ∧ c.pendingAudit = []

omit [DiagnosticsRuntime] in
theorem traced_init {controllers : List RuntimeLogLevelController} (h : Fresh controllers) :
    (init controllers).Traced := by
  refine ⟨?_, ?_⟩
  · intro i hi
    obtain ⟨controller, hc, rfl⟩ := List.mem_map.mp hi
    obtain ⟨ho, ha, hp⟩ := h controller hc
    refine ⟨⟨?_, ?_⟩, forall_mem_nil _, ?_, forall_mem_nil _, forall_mem_nil _⟩
    · simp [ho]
    · simp [ha, hp]
    · simp
  · intro id message expiresAt hm
    cases hm

end World

end

end Realtime.Diagnostics
