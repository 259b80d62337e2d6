import Realtime.Diagnostics.Store

/-! What one step of a task does: at most one command on the coordination keys and at
most one operation on the controller of its instance. The invariants of the system
are proved from these moves. -/

namespace Realtime.Diagnostics

inductive Command where
  | none
  | trim (bound : Nat)
  | reserve (id : OverrideId) (a : Apply)
  | removeActive (id : OverrideId) (key : Text)
  | setActive (id : OverrideId) (message : DiagnosticsCoordinationMessage) (lifetime : Nat)
  | deleteActive (id : OverrideId)

inductive Operation where
  | none
  | sweep
  | persisted (entry : LogLevelAuditEntry)
  | validate (request : LogLevelChangeRequest)
  | apply (request : LogLevelChangeRequest) (actor : Text) (id : OverrideId) (startedAt : Nat)
  | revert (id : OverrideId) (actor reason : Text)

def FlushPhase.bound : FlushPhase → Nat
  | .trimming bound => bound
  | _ => 0

def ApplyPhase.bound : ApplyPhase → Nat
  | .flushing phase | .flushingInstance _ phase => phase.bound
  | _ => 0

def RevertPhase.bound : RevertPhase → Nat
  | .flushing phase => phase.bound
  | _ => 0

/-- How far an apply for all replicas is: its script has not run, has run, was followed
by the local apply, or the call has failed or undoes what it did. -/
inductive ApplyStage where
  | before | reserved | applied | over
  deriving DecidableEq

def ApplyPhase.stage : ApplyPhase → ApplyStage
  | .starting | .connecting | .reserving => .before
  | .applying => .reserved
  | .publishing | .flushing _ | .returned .succeeded => .applied
  | _ => .over

def Apply.stage (a : Apply) : ApplyStage :=
  match a.phase with
  | .starting => .before
  | phase => if a.request.scope = utf16 "all" then phase.stage else .over

structure Apply.Continues (a b : Apply) : Prop where
  inst : b.inst = a.inst
  request : b.request = a.request
  startedAt : b.startedAt = a.startedAt

section

variable [DiagnosticsRuntime] (s : Settings)

def Command.exec (r : RedisStore) : Command → RedisStore
  | .none => r
  | .trim bound => r.removeRangeByScore bound
  | .reserve id a => (a.reserve s r id).2
  | .removeActive id key => r.removeActive id key
  | .setActive id message lifetime => r.setActive id message lifetime
  | .deleteActive id => r.deleteActive id

def Operation.exec (now : Nat) (c : RuntimeLogLevelController) :
    Operation → RuntimeLogLevelController
  | .none => c
  | .sweep => (c.getActive s.options now).2
  | .persisted entry => c.markPendingAuditPersisted entry
  | .validate request => (c.tryValidate s.options request now).2
  | .apply request actor id startedAt => (c.tryApply s.options request actor id startedAt now).2
  | .revert id actor reason => (c.revert s.options id actor reason now).2

/-- The step runs the command and the operation, and leaves the loop of the instance
and its messages alone. -/
structure Effect.Runs {α : Type} (e : Effect α) (r : RedisStore) (i : Instance)
    (command : Command) (operation : Operation) : Prop where
  redis : e.redis = command.exec s r
  controller : e.inst.controller = operation.exec s r.now i.controller
  inFlight : e.inst.inFlight = i.inFlight
  work : e.inst.work = i.work
  loop : e.inst.loop = i.loop

end

def Operation.isQuiet : Operation → Bool
  | .none | .sweep | .persisted _ => true
  | _ => false

section

variable [DiagnosticsRuntime] {s : Settings} {r : RedisStore} {i : Instance} {input : Input}

variable {published : Option DiagnosticsCoordinationMessage} {a : Apply}

theorem runs_none {α : Type} {next : α} : (Effect.mk r i published next).Runs s r i .none .none :=
  ⟨rfl, rfl, rfl, rfl, rfl⟩

theorem stepFlush_runs {phase : FlushPhase} {e : Effect FlushPhase} :
    stepFlush s r i phase input = some e → ∃ command operation, e.Runs s r i command operation ∧
      (command = .none ∨ command = .trim phase.bound) ∧ operation.isQuiet = true ∧
      e.published = none ∧ e.next.bound ≤ max phase.bound r.now := by
  fun_cases stepFlush s r i phase input <;> intro h <;> cases h
  case case1 => exact ⟨.none, .sweep, ⟨rfl, rfl, rfl, rfl, rfl⟩, .inl rfl, rfl, rfl, Nat.zero_le _⟩
  case case3 | case16 =>
    exact ⟨.none, .none, ⟨rfl, rfl, rfl, rfl, rfl⟩, .inl rfl, rfl, rfl, Nat.zero_le _⟩
  case case5 => exact ⟨.none, .none, runs_none, .inl rfl, rfl, rfl, Nat.le_max_right _ _⟩
  case case7 =>
    exact ⟨.trim _, .none, ⟨rfl, rfl, rfl, rfl, rfl⟩, .inr rfl, rfl, rfl, Nat.zero_le _⟩
  case case8 bound executed | case9 bound executed =>
    cases executed with
    | true => exact ⟨.trim _, .none, ⟨rfl, rfl, rfl, rfl, rfl⟩, .inr rfl, rfl, rfl, Nat.zero_le _⟩
    | false => exact ⟨.none, .none, ⟨rfl, rfl, rfl, rfl, rfl⟩, .inl rfl, rfl, rfl, Nat.zero_le _⟩
  case case13 =>
    exact ⟨.none, .persisted _, ⟨rfl, rfl, rfl, rfl, rfl⟩, .inl rfl, rfl, rfl, Nat.zero_le _⟩
  all_goals exact ⟨.none, .none, runs_none, .inl rfl, rfl, rfl, Nat.zero_le _⟩

/-- The moves of the apply with id `id`, from the store `r` and the controller `c` of
its instance. -/
inductive ApplyMove (s : Settings) (r : RedisStore) (c : RuntimeLogLevelController)
    (id : OverrideId) :
    Apply → Command → Operation → Option DiagnosticsCoordinationMessage → Apply → Prop where
  | start {a b : Apply} {operation : Operation} (ha : a.phase = .starting)
    (hinst : b.inst = a.inst) (hstage : b.stage = .before ∨ b.stage = .over)
    (hphase : b.phase ≠ .reserving)
    (hbound : b.phase.bound = 0) (hstarted : b.startedAt = a.startedAt ∨ b.startedAt = r.now)
    (hop : operation = .none ∨ operation = .validate b.request ∨
      (operation = .apply b.request b.actor id b.startedAt ∧ b.stage = .over)) :
    ApplyMove s r c id a .none operation none b
  | connect {a : Apply} (ha : a.phase = .connecting) (hs : a.request.scope = utf16 "all") :
    ApplyMove s r c id a .none .none none { a with startedAt := r.now, phase := .reserving }
  | quiet {a b : Apply} {command : Command} {operation : Operation} (hab : a.Continues b)
    (hstage : b.stage = a.stage) (ha : a.stage ≠ .before)
    (hc : command = .none ∨ command = .trim a.phase.bound) (ho : operation.isQuiet = true)
    (hbound : b.phase.bound ≤ max a.phase.bound r.now) :
    ApplyMove s r c id a command operation none b
  | publish {a b : Apply} {published : Option DiagnosticsCoordinationMessage}
    (hab : a.Continues b) (ha : a.stage = .applied) (hb : b.stage = .applied ∨ b.stage = .over)
    (hp : published = none ∨ published = some (a.message id)) (hbound : b.phase.bound = 0) :
    ApplyMove s r c id a .none .none published b
  | reserve {a b : Apply} (hab : a.Continues b) (ha : a.phase = .reserving)
    (hs : a.request.scope = utf16 "all") (hb : b.phase = .applying)
    (hr : (a.reserve s r id).1 = 1) : ApplyMove s r c id a (.reserve id a) .none none b
  | refuse {a b : Apply} {command : Command} (hab : a.Continues b) (ha : a.phase = .reserving)
    (hs : a.request.scope = utf16 "all") (hb : b.stage = .over)
    (hc : command = .none ∨ command = .reserve id a) (hbound : b.phase.bound = 0) :
    ApplyMove s r c id a command .none none b
  | apply {a b : Apply} (hab : a.Continues b) (ha : a.stage = .reserved)
    (hb : b.stage = .applied ∨ b.stage = .over) (hbound : b.phase.bound = 0)
    (hok : b.stage = .applied → ∃ o,
      (c.tryApply s.options a.request a.actor id a.startedAt r.now).1 = .ok o) :
    ApplyMove s r c id a .none (.apply a.request a.actor id a.startedAt) none b
  | abandon {a b : Apply} {command : Command} {operation : Operation} (hab : a.Continues b)
    (hb : b.stage = .over) (hbound : b.phase.bound = 0)
    (hc : command = .none ∨ (a.stage = .over ∧
      ((∃ key, command = .removeActive id key) ∨ command = .deleteActive id ∨
        ∃ target lifetime, command =
            .setActive id { a.message id with targetInstanceId := target } lifetime ∧
          a.request.scope ≠ utf16 "all")))
    (ho : operation = .none ∨ ∃ actor reason, operation = .revert id actor reason) :
    ApplyMove s r c id a command operation none b

def Effect.IsMove (s : Settings) (r : RedisStore) (i : Instance) (id : OverrideId) (a : Apply)
    (e : Effect Apply) : Prop :=
  ∃ command operation, e.Runs s r i command operation ∧
    ApplyMove s r i.controller id a command operation e.published e.next

omit [DiagnosticsRuntime] in
theorem goto_continues (a : Apply) (phase : ApplyPhase) : a.Continues (a.goto phase) :=
  ⟨rfl, rfl, rfl⟩

omit [DiagnosticsRuntime] in
theorem stage_eq (hs : a.request.scope = utf16 "all") (hp : a.phase ≠ .starting) :
    a.stage = a.phase.stage := by
  unfold Apply.stage
  split
  · contradiction
  · rw [if_pos hs]

omit [DiagnosticsRuntime] in
theorem stage_eq_over (hs : a.request.scope ≠ utf16 "all") (hp : a.phase ≠ .starting) :
    a.stage = .over := by
  unfold Apply.stage
  split
  · contradiction
  · rw [if_neg hs]

variable {id : OverrideId} {a : Apply} {phase : ApplyPhase}

theorem isMove_abandon (hb : (a.goto phase).stage = .over) (hbo : phase.bound = 0) :
    (Effect.mk r i none (a.goto phase)).IsMove s r i id a :=
  ⟨.none, .none, runs_none, .abandon (goto_continues a phase) hb hbo (.inl rfl) (.inl rfl)⟩

theorem isMove_revertLocal {reason : Text} (hb : (a.goto phase).stage = .over)
    (hbo : phase.bound = 0) :
    (Effect.mk r (Apply.revertLocal s r i id reason) none (a.goto phase)).IsMove s r i id a :=
  ⟨.none, .revert id (utf16 "system") reason, ⟨rfl, rfl, rfl, rfl, rfl⟩,
    .abandon (goto_continues a phase) hb hbo (.inl rfl) (.inr ⟨_, _, rfl⟩)⟩

theorem isMove_removeActive {executed : Bool} (ha : a.stage = .over)
    (hb : (a.goto phase).stage = .over) (hbo : phase.bound = 0) :
    (Effect.mk (a.removeActive r id executed) i none (a.goto phase)).IsMove s r i id a := by
  cases executed with
  | false => exact isMove_abandon hb hbo
  | true =>
    exact ⟨.removeActive id (reservationKey a.request.category), .none, ⟨rfl, rfl, rfl, rfl, rfl⟩,
      .abandon (goto_continues a phase) hb hbo (.inr ⟨ha, .inl ⟨_, rfl⟩⟩) (.inl rfl)⟩

theorem isMove_refuse (executed : Bool) (ha : a.phase = .reserving)
    (hs : a.request.scope = utf16 "all") (hb : (a.goto phase).stage = .over)
    (hbo : phase.bound = 0) :
    (Effect.mk (if executed = true then (a.reserve s r id).2 else r) i none
      (a.goto phase)).IsMove s r i id a := by
  cases executed with
  | false => exact isMove_abandon hb hbo
  | true =>
    exact ⟨.reserve id a, .none, ⟨rfl, rfl, rfl, rfl, rfl⟩,
      .refuse (goto_continues a phase) ha hs hb (.inr rfl) hbo⟩

theorem isMove_publish (ha : a.stage = .applied)
    (hb : (a.goto phase).stage = .applied ∨ (a.goto phase).stage = .over)
    (hp : published = none ∨ published = some (a.message id)) (hbo : phase.bound = 0) :
    (Effect.mk r i published (a.goto phase)).IsMove s r i id a :=
  ⟨.none, .none, runs_none, .publish (goto_continues a phase) ha hb hp hbo⟩

theorem isMove_deleteActive (executed : Bool) (ha : a.stage = .over)
    (hb : (a.goto phase).stage = .over) (hbo : phase.bound = 0) :
    (Effect.mk (if executed = true then r.deleteActive id else r) i none
      (a.goto phase)).IsMove s r i id a := by
  cases executed with
  | false => exact isMove_abandon hb hbo
  | true =>
    exact ⟨.deleteActive id, .none, ⟨rfl, rfl, rfl, rfl, rfl⟩,
      .abandon (goto_continues a phase) hb hbo (.inr ⟨ha, .inr (.inl rfl)⟩) (.inl rfl)⟩

theorem isMove_setActive (executed : Bool) {j : Instance}
    (hj : j = i ∨ ∃ reason, j = Apply.revertLocal s r i id reason)
    (hs : a.request.scope ≠ utf16 "all") (ha : a.stage = .over)
    (hb : (a.goto phase).stage = .over) (hbo : phase.bound = 0) :
    (Effect.mk (if executed = true then r.setActive id (a.instanceMessage id i) a.request.lifetime
      else r) j none (a.goto phase)).IsMove s r i id a := by
  have hop : ∃ operation, (operation = .none ∨ ∃ actor reason,
      operation = Operation.revert id actor reason) ∧
      j.controller = operation.exec s r.now i.controller ∧ j.inFlight = i.inFlight ∧
      j.work = i.work ∧ j.loop = i.loop := by
    rcases hj with rfl | ⟨reason, rfl⟩
    · exact ⟨.none, .inl rfl, rfl, rfl, rfl, rfl⟩
    · exact ⟨.revert id (utf16 "system") reason, .inr ⟨_, _, rfl⟩, rfl, rfl, rfl, rfl⟩
  obtain ⟨operation, ho, hc, hf, hw, hl⟩ := hop
  cases executed with
  | false =>
    exact ⟨.none, operation, ⟨rfl, hc, hf, hw, hl⟩,
      .abandon (goto_continues a phase) hb hbo (.inl rfl) ho⟩
  | true =>
    exact ⟨.setActive id (a.instanceMessage id i) a.request.lifetime, operation,
      ⟨rfl, hc, hf, hw, hl⟩, .abandon (goto_continues a phase) hb hbo
        (.inr ⟨ha, .inr (.inr ⟨_, _, rfl, hs⟩)⟩) ho⟩

theorem isMove_flush {flush : FlushPhase} {e : Effect FlushPhase}
    {wrap : FlushPhase → ApplyPhase} (h : stepFlush s r i flush input = some e)
    (ha : a.phase = wrap flush) (hbo : ∀ phase, (wrap phase).bound = phase.bound)
    (hst : (a.goto (wrap e.next)).stage = a.stage) (hne : a.stage ≠ .before) :
    (Effect.mk e.redis e.inst none (a.goto (wrap e.next))).IsMove s r i id a := by
  obtain ⟨command, operation, hru, hc, ho, -, hb⟩ := stepFlush_runs h
  have hab : a.phase.bound = flush.bound := by rw [ha, hbo]
  refine ⟨command, operation, ⟨hru.redis, hru.controller, hru.inFlight, hru.work,
    hru.loop⟩, .quiet (goto_continues a _) hst hne (by rw [hab]; exact hc) ho ?_⟩
  rw [hab]
  exact Nat.le_trans (Nat.le_of_eq (hbo e.next)) hb

theorem stepApplyAll_isMove {e : Effect Apply} (hs : a.request.scope = utf16 "all")
    (h : stepApplyAll s r i id a input = some e) : e.IsMove s r i id a := by
  have hgo {phase : ApplyPhase} (hp : phase.stage ≠ .before) :
      (a.goto phase).stage = phase.stage :=
    stage_eq hs (by rintro rfl; exact hp rfl)
  have hfr {phase : ApplyPhase} (ha : a.phase = phase) (hp : phase.stage ≠ .before) :
      a.stage = phase.stage :=
    ha ▸ stage_eq hs (by rw [ha]; rintro rfl; exact hp rfl)
  revert h
  fun_cases stepApplyAll s r i id a input <;> intro h
  case case16 flush ha _ =>
    obtain ⟨e', hf, rfl⟩ := Option.map_eq_some_iff.mp h
    have hst : a.stage = .applied := hfr ha nofun
    have hne : (a.goto (.flushing e'.next)).stage = a.stage := by
      rw [hst]
      exact hgo nofun
    exact isMove_flush hf ha (fun _ => rfl) hne (by simp [hst])
  all_goals cases h
  case case1 ha => exact ⟨.none, .none, runs_none, .connect ha hs⟩
  case case4 | case20 | case21 => exact isMove_revertLocal (hgo nofun) rfl
  case case5 ha result store he =>
    have hsto : store = (a.reserve s r id).2 := by rw [he]
    have hre : result = (a.reserve s r id).1 := by rw [he]
    subst hsto hre
    by_cases hze : (a.reserve s r id).1 = 0
    · simp only [hze, if_true]
      exact isMove_refuse true ha hs (hgo nofun) rfl
    · by_cases hneg : (a.reserve s r id).1 < 0
      · simp only [hze, hneg, if_true, if_false]
        exact isMove_refuse true ha hs (hgo nofun) rfl
      · simp only [hze, hneg, if_false]
        have hone : (a.reserve s r id).1 = 1 := by
          rcases RedisStore.reserve_cases (r := r) (reservationKey a.request.category) id
            (a.message id) a.request.lifetime a.startedAt s.options.maximumDetailItems
            a.expiresAt with ⟨h, -⟩ | ⟨h, -⟩ | ⟨h, -⟩
          · exact absurd h hze
          · rw [Apply.reserve, h] at hneg
            exact absurd (by decide) hneg
          · exact h
        exact ⟨.reserve id a, .none, ⟨rfl, rfl, rfl, rfl, rfl⟩,
          .reserve (goto_continues a _) ha hs rfl hone⟩
  case case6 executed ha | case7 executed ha => exact isMove_refuse executed ha hs (hgo nofun) rfl
  case case8 ha result controller he =>
    have hco : controller = (i.controller.tryApply s.options a.request a.actor id
        a.startedAt r.now).2 := by rw [he]
    subst hco
    refine ⟨.none, .apply a.request a.actor id a.startedAt, ⟨rfl, rfl, rfl, rfl, rfl⟩,
      .apply (goto_continues a _) (hfr ha nofun) ?_ ?_ ?_⟩
    · cases result with
      | error => exact .inr (hgo nofun)
      | ok => exact .inl (hgo nofun)
    · cases result <;> rfl
    · intro hap
      cases result with
      | error error =>
        have hov : (a.goto (.removing error)).stage = .over := hgo nofun
        exact absurd (hov.symm.trans hap) nofun
      | ok o => exact ⟨o, by rw [he]⟩
  case case9 ha | case10 ha | case11 ha =>
    exact isMove_removeActive (hfr ha nofun) (hgo nofun) rfl
  case case12 ha =>
    exact isMove_publish (hfr ha nofun) (.inl (hgo nofun)) (.inr rfl) rfl
  case case13 executed ha | case14 executed ha =>
    exact isMove_publish (hfr ha nofun) (.inr (hgo nofun))
      (by cases executed <;> simp) rfl
  case case15 result ha =>
    have hst : a.stage = .applied := hfr ha nofun
    cases result with
    | completed => exact isMove_publish hst (.inl (hgo nofun)) (.inl rfl) rfl
    | cancelled => exact isMove_abandon (hgo nofun) rfl
    | threw => exact isMove_abandon (hgo nofun) rfl
  case case17 ha | case18 ha | case19 ha | case22 ha | case23 ha | case24 ha =>
    exact isMove_removeActive (hfr ha nofun) (hgo nofun) rfl
  all_goals exact isMove_abandon (hgo nofun) rfl

theorem stepApplyInstance_isMove {e : Effect Apply} (hs : a.request.scope ≠ utf16 "all")
    (h : stepApplyInstance s r i id a input = some e) : e.IsMove s r i id a := by
  have hgo {phase : ApplyPhase} (hp : phase ≠ .starting) : (a.goto phase).stage = .over :=
    stage_eq_over hs hp
  have hfr {phase : ApplyPhase} (ha : a.phase = phase) (hp : phase ≠ .starting) :
      a.stage = .over := stage_eq_over hs (ha ▸ hp)
  revert h
  fun_cases stepApplyInstance s r i id a input <;> intro h
  case case14 stored flush ha _ =>
    obtain ⟨e', hf, rfl⟩ := Option.map_eq_some_iff.mp h
    have hst : a.stage = .over := hfr ha nofun
    have hne : (a.goto (.flushingInstance stored e'.next)).stage = a.stage := by
      rw [hst]
      exact hgo nofun
    exact isMove_flush hf ha (fun _ => rfl) hne (by simp [hst])
  all_goals cases h
  case case2 | case4 | case6 => exact isMove_revertLocal (hgo nofun) rfl
  case case12 stored _ =>
    cases stored <;> exact isMove_revertLocal (hgo nofun) rfl
  case case7 ha => exact isMove_setActive true (.inl rfl) hs (hfr ha nofun) (hgo nofun) rfl
  case case8 executed ha _ _ =>
    exact isMove_setActive executed (.inr ⟨_, rfl⟩) hs (hfr ha nofun) (hgo nofun) rfl
  case case9 executed ha _ _ =>
    exact isMove_setActive executed (.inl rfl) hs (hfr ha nofun) (hgo nofun) rfl
  case case10 executed ha =>
    exact isMove_setActive executed (.inl rfl) hs (hfr ha nofun) (hgo nofun) rfl
  case case15 ha | case18 ha => exact isMove_deleteActive true (hfr ha nofun) (hgo nofun) rfl
  case case16 executed ha | case17 executed ha | case19 executed ha | case20 executed ha =>
    exact isMove_deleteActive executed (hfr ha nofun) (hgo nofun) rfl
  all_goals exact isMove_abandon (hgo nofun) rfl

theorem startApply_isMove (ha : a.phase = .starting) :
    (startApply s r i id a).IsMove s r i id a := by
  have hov {b : Apply} {result : ApplyResult} (hb : b.phase = .returned result)
      (hr : result ≠ .succeeded) : b.stage = .over := by
    by_cases hs : b.request.scope = utf16 "all"
    · rw [stage_eq hs (by simp [hb]), hb]
      cases result <;> first | rfl | exact absurd rfl hr
    · exact stage_eq_over hs (by simp [hb])
  unfold startApply
  split
  · exact ⟨.none, .none, runs_none,
      .start ha rfl (.inr (hov rfl nofun)) nofun rfl (.inl rfl) (.inl rfl)⟩
  · simp only
    split
    · next hs =>
      have hin : { a.normalize with startedAt := r.now, phase := .connectingInstance }.stage =
          .over := stage_eq_over hs nofun
      cases hap : i.controller.tryApply s.options a.normalize.request a.normalize.actor id r.now
          r.now with
      | mk result controller =>
        have hc : controller = (i.controller.tryApply s.options a.normalize.request
            a.normalize.actor id r.now r.now).2 := by rw [hap]
        subst hc
        cases result with
        | error error =>
          exact ⟨.none, .apply a.normalize.request a.normalize.actor id r.now,
            ⟨rfl, rfl, rfl, rfl, rfl⟩, .start ha rfl (.inr (hov rfl nofun)) nofun rfl (.inr rfl)
              (.inr (.inr ⟨rfl, hov rfl nofun⟩))⟩
        | ok o =>
          exact ⟨.none, .apply a.normalize.request a.normalize.actor id r.now,
            ⟨rfl, rfl, rfl, rfl, rfl⟩, .start ha rfl (.inr hin) nofun rfl (.inr rfl)
              (.inr (.inr ⟨rfl, hin⟩))⟩
    · next hs =>
      have hs : a.normalize.request.scope = utf16 "all" := not_not.mp hs
      cases hva : i.controller.tryValidate s.options a.normalize.request r.now with
      | mk result controller =>
        have hc : controller = (i.controller.tryValidate s.options a.normalize.request r.now).2 :=
          by rw [hva]
        subst hc
        cases result with
        | error error =>
          exact ⟨.none, .validate a.normalize.request, ⟨rfl, rfl, rfl, rfl, rfl⟩,
            .start ha rfl (.inr (hov rfl nofun)) nofun rfl (.inl rfl) (.inr (.inl rfl))⟩
        | ok o =>
          have hbe : (a.normalize.goto .connecting).stage = .before :=
            stage_eq (a := a.normalize.goto .connecting) hs nofun
          exact ⟨.none, .validate a.normalize.request, ⟨rfl, rfl, rfl, rfl, rfl⟩,
            .start ha rfl (.inl hbe) nofun rfl (.inl rfl) (.inr (.inl rfl))⟩

theorem stepApply_isMove {e : Effect Apply} (h : stepApply s r i id a input = some e) :
    e.IsMove s r i id a := by
  unfold stepApply at h
  split at h
  · next ha =>
    cases h
    exact startApply_isMove ha
  · split at h
    · next hs => exact stepApplyAll_isMove hs h
    · next hs => exact stepApplyInstance_isMove hs h

/-- The moves of a call of `RevertAsync`. -/
structure RevertMove (r : RedisStore) (v : Revert) (command : Command) (operation : Operation)
    (published : Option DiagnosticsCoordinationMessage) (next : Revert) : Prop where
  command : command = .none ∨ command = .trim v.phase.bound ∨ command = .deleteActive v.id ∨
    ∃ key, command = .removeActive v.id key
  operation : operation.isQuiet = true ∨ ∃ actor reason, operation = .revert v.id actor reason
  published : ∀ message, published = some message → message.action = .revert ∧ message.id = v.id
  id : next.id = v.id
  inst : next.inst = v.inst
  bound : next.phase.bound ≤ max v.phase.bound r.now

def Effect.IsRevertMove (s : Settings) (r : RedisStore) (i : Instance) (v : Revert)
    (e : Effect Revert) : Prop :=
  ∃ command operation, e.Runs s r i command operation ∧
    RevertMove r v command operation e.published e.next

variable {v : Revert} {next : RevertPhase}

theorem isRevertMove_publish
    (hp : ∀ message, published = some message → message.action = .revert ∧ message.id = v.id)
    (hbo : next.bound = 0) : (Effect.mk r i published (v.goto next)).IsRevertMove s r i v :=
  ⟨.none, .none, runs_none, .inl rfl, .inl rfl, hp, rfl, rfl,
    Nat.le_trans (Nat.le_of_eq hbo) (Nat.zero_le _)⟩

theorem isRevertMove_goto (hbo : next.bound = 0) :
    (Effect.mk r i none (v.goto next)).IsRevertMove s r i v :=
  isRevertMove_publish nofun hbo

theorem isRevertMove_command {command : Command}
    (hc : command = .deleteActive v.id ∨ ∃ key, command = .removeActive v.id key)
    (executed : Bool) (hbo : next.bound = 0) :
    (Effect.mk (if executed = true then command.exec s r else r) i none
      (v.goto next)).IsRevertMove s r i v := by
  cases executed with
  | false => exact isRevertMove_goto hbo
  | true =>
    exact ⟨command, .none, ⟨rfl, rfl, rfl, rfl, rfl⟩, .inr (.inr hc), .inl rfl, nofun, rfl, rfl,
      Nat.le_trans (Nat.le_of_eq hbo) (Nat.zero_le _)⟩

omit [DiagnosticsRuntime] in
theorem bound_unavailable (target : RevertTarget) :
    (v.unavailable s i target).phase.bound = 0 := by
  unfold Revert.unavailable Revert.goto
  split <;> rfl

theorem stepRevert_isMove {e : Effect Revert} : stepRevert s r i v input = some e →
    e.IsRevertMove s r i v := by
  fun_cases stepRevert s r i v input <;> intro h
  case case24 flush hv _ =>
    obtain ⟨e', hf, rfl⟩ := Option.map_eq_some_iff.mp h
    obtain ⟨command, operation, hru, hc, ho, -, hb⟩ := stepFlush_runs hf
    have hvb : v.phase.bound = flush.bound := by rw [hv]; rfl
    refine ⟨command, operation, ⟨hru.redis, hru.controller, hru.inFlight, hru.work,
      hru.loop⟩, ?_, .inl ho, nofun, rfl, rfl, ?_⟩
    · rw [hvb]
      rcases hc with hc | hc
      · exact .inl hc
      · exact .inr (.inl hc)
    · rw [hvb]
      exact hb
  all_goals cases h
  case case1 active controller he =>
    have hc : controller = (i.controller.getActive s.options r.now).2 := by rw [he]
    refine ⟨.none, .sweep, ⟨rfl, hc, rfl, rfl, rfl⟩, .inl rfl, .inl rfl, nofun, rfl, rfl, ?_⟩
    split <;> exact Nat.zero_le _
  case case6 =>
    apply isRevertMove_goto
    split
    · split
      · split <;> rfl
      · rfl
    · rfl
  case case9 =>
    apply isRevertMove_goto
    split <;> rfl
  case case10 | case11 => exact isRevertMove_goto (bound_unavailable (s := s) (v := v) _)
  case case13 target _ =>
    exact isRevertMove_command (.inr ⟨reservationKey target.category, rfl⟩) true rfl
  case case14 target executed _ =>
    exact isRevertMove_command (.inr ⟨reservationKey target.category, rfl⟩) executed
      (bound_unavailable (s := s) (v := v) target)
  case case15 target executed _ =>
    exact isRevertMove_command (.inr ⟨reservationKey target.category, rfl⟩) executed rfl
  case case16 => exact isRevertMove_command (.inl rfl) true rfl
  case case17 target executed _ =>
    exact isRevertMove_command (.inl rfl) executed (bound_unavailable (s := s) (v := v) target)
  case case18 executed _ => exact isRevertMove_command (.inl rfl) executed rfl
  case case19 =>
    apply isRevertMove_publish ?_ rfl
    rintro message ⟨⟩
    exact ⟨rfl, rfl⟩
  case case20 target executed _ =>
    refine isRevertMove_publish ?_ (bound_unavailable (s := s) (v := v) target)
    intro message hm
    cases executed <;> cases hm
    exact ⟨rfl, rfl⟩
  case case21 target executed _ =>
    apply isRevertMove_publish ?_ rfl
    intro message hm
    cases executed <;> cases hm
    exact ⟨rfl, rfl⟩
  case case22 reverted controller he =>
    have hc : controller = (i.controller.revert s.options v.id v.actor (utf16 "manual rollback")
        r.now).2 := by rw [he]
    refine ⟨.none, .revert v.id v.actor (utf16 "manual rollback"), ⟨rfl, hc, rfl, rfl, rfl⟩,
      .inl rfl, .inr ⟨_, _, rfl⟩, nofun, rfl, rfl, ?_⟩
    split <;> exact Nat.zero_le _
  case case23 =>
    apply isRevertMove_goto
    split <;> rfl
  all_goals exact isRevertMove_goto rfl

end

end Realtime.Diagnostics
