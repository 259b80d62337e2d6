import Realtime.Client.Slots

/-! The three tables of the subscriptions and what each step does to them. The effect of a step
is read off before it is taken, and can then be performed on other tables than the client's. -/

namespace Realtime.Client

open RealtimeClient List Option

structure Tables where
  subscriptions : List Text := []
  confirmed : List Text := []
  pending : List SubscriptionMutation := []

/-- One locked section of the source that writes to the tables. -/
inductive TableEffect where
  /-- `HandleSubscriptionResponse` -/
  | answer (correlationId : Text) (acknowledged : Bool)
  /-- `ClearPendingSubscriptionMutations` -/
  | clear
  /-- `ChangeSubscriptionAsync` compares the route with the table and checks the limit. -/
  | apply (route : Text) (subscribe : Bool) (maximum : Nat)
  | assign (route : Text) (present : Bool)
  | register (mutation : SubscriptionMutation)
  | remove (correlationId : Text)
  /-- `ReconcileDesiredSubscriptionLocked` -/
  | reconcile (route : Text)

namespace Tables

def contains (tables : Tables) (correlationId : Text) : Bool :=
  tables.pending.any (fun mutation => mutation.correlationId == correlationId)

/-- The call of `ChangeSubscriptionAsync` alters the subscriptions. -/
def admits (tables : Tables) (route : Text) (subscribe : Bool) (maximum : Nat) : Bool :=
  decide (route ∈ tables.subscriptions) != subscribe &&
    !(subscribe && decide (maximum ≤ tables.subscriptions.length))

def answered (tables : Tables) (mutation : SubscriptionMutation) (acknowledged : Bool) : Tables :=
  let pending := RealtimeClient.withoutMutation tables.pending mutation.correlationId
  let confirmed :=
    if acknowledged then setMember tables.confirmed mutation.route mutation.subscribe
    else tables.confirmed
  { pending
    confirmed
    subscriptions := setMember tables.subscriptions mutation.route
      (desiredSubscription pending confirmed mutation.route) }

def perform (tables : Tables) : TableEffect → Tables
  | .answer correlationId acknowledged =>
    match tables.pending.find? (fun mutation => mutation.correlationId == correlationId) with
    | some mutation => tables.answered mutation acknowledged
    | none => tables
  | .clear => { tables with pending := [], confirmed := [] }
  | .apply route subscribe maximum =>
    if tables.admits route subscribe maximum then
      { tables with subscriptions := setMember tables.subscriptions route subscribe }
    else tables
  | .assign route present =>
    { tables with subscriptions := setMember tables.subscriptions route present }
  | .register mutation =>
    if tables.contains mutation.correlationId then tables
    else { tables with pending := tables.pending ++ [mutation] }
  | .remove correlationId =>
    { tables with pending := RealtimeClient.withoutMutation tables.pending correlationId }
  | .reconcile route =>
    { tables with
      subscriptions := setMember tables.subscriptions route
        (desiredSubscription tables.pending tables.confirmed route) }

end Tables

namespace RealtimeClient

def tables (s : RealtimeClient) : Tables :=
  ⟨s.subscriptions, s.confirmedSubscriptions, s.pendingSubscriptionMutations⟩

def changeEffect (s : RealtimeClient) (change : SubscriptionChange) (now : UtcNow) (fresh : Guid)
    (tooLarge : Bool) : Option TableEffect :=
  match change.phase with
  | .applying =>
    some (.apply change.route change.subscribe s.options.maximumSubscriptions)
  | .reapplying => some (.assign change.route change.subscribe)
  | .registering =>
    (prepareOwnedMessage (subscriptionCommand change.subscribe change.route
      change.correlationId fresh now) now tooLarge).map (fun owned =>
        .register ⟨owned.correlationId.getD [], change.route, change.subscribe,
          s.nextSubscriptionMutationSequence + 1⟩)
  | .forgetting => change.registered.map .remove
  | .rollingBack =>
    some (if change.responseObserved then .reconcile change.route
      else .assign change.route change.previousState)
  | _ => none

/-- What a step that is taken from `s` does to the tables. -/
def effect (s : RealtimeClient) : Label → Option TableEffect
  | .changeStep k .ok now fresh tooLarge =>
    s.changes[k]?.bind (fun change => s.changeEffect change now fresh tooLarge)
  | .receive .ok =>
    match s.receive with
    | some (.responding frame) =>
      if isResponse frame.envelope then
        some (.answer (frame.envelope.correlationId.getD [])
          (frame.envelope.type == some ProtocolMessageTypes.acknowledge))
      else none
    | _ => none
  | .replay .ok _ _ =>
    match s.replay with
    | some (.registering _ command route _) =>
      some (.register ⟨command.correlationId, route, true, s.nextSubscriptionMutationSequence + 1⟩)
    | some (.forgetting _ command _) => some (.remove command.correlationId)
    | _ => none
  | .run .ok _ =>
    match s.run with
    | .clearing _ | .forgetting => some .clear
    | _ => none
  | .stopper k => if s.stoppers[k]? = some .forgetting then some .clear else none
  | _ => none

end RealtimeClient

variable {s t : RealtimeClient} {input : Await} {now : UtcNow} {fresh : Guid} {k : Nat}
  {change : SubscriptionChange} {label : Label}

@[simp] theorem contains_tables (id : Text) : s.tables.contains id = s.containsMutation id := rfl

@[simp] theorem admits_tables (route : Text) (subscribe : Bool) (maximum : Nat) :
    s.tables.admits route subscribe maximum =
      (decide (route ∈ s.subscriptions) != subscribe &&
        !(subscribe && decide (maximum ≤ s.subscriptions.length))) := rfl

variable {tooLarge acknowledged : Bool} {first : FirstLoop} {id : Text}

theorem stepChange_tables (ht : s.stepChange k input now fresh tooLarge = some t) :
    t.tables = (s.effect (.changeStep k input now fresh tooLarge)).elim s.tables
      s.tables.perform := by
  replace ht := stepChange_cases ht
  obtain ⟨change, hk, ⟨hp, rfl, ht⟩ | ht | ht | ht⟩ := ht
  all_goals revert ht
  all_goals first
    | fun_cases stepRegister
    | fun_cases stepChangeEntry
    | fun_cases stepChangeApply
    | fun_cases stepChangeExit
  all_goals
    intro ht
    cases ht
  case inr.inr.inr.case7.refl hp =>
    simp only [effect, hk, bind_some, changeEffect, hp, elim_some]
    by_cases ho : change.responseObserved = true
    · simp only [tables, rollbackSubscriptionChange, ho, if_true]
      rfl
    · simp only [tables, rollbackSubscriptionChange, ho, Bool.false_eq_true, if_false]
      rfl
  all_goals first
    | rfl
    | (simp only [effect, bind_some, changeEffect, *]; rfl)
    | (simp [effect, changeEffect, Tables.perform, *]; rfl)

theorem stepReceive_tables : s.stepReceive input = some t →
    t.tables = (s.effect (.receive input)).elim s.tables s.tables.perform := by
  fun_cases s.stepReceive input <;> intro ht <;> cases ht
  case case11.refl frame hp mutation hm =>
    unfold answeredMutation at hm
    split at hm
    · next hre =>
      simp only [effect, hp, hre, if_true, elim_some, Tables.perform,
        RealtimeClient.tables, hm]
      rfl
    · cases hm
  case case12.refl frame hp hm =>
    unfold answeredMutation at hm
    split at hm
    · next hre =>
      simp only [effect, hp, hre, if_true, elim_some, Tables.perform,
        RealtimeClient.tables, hm]
    · next hre =>
      simp only [effect, hp, hre]
      rfl
  all_goals
    simp only [effect, *]
    rfl

theorem stepReplay_tables : s.stepReplay input now fresh = some t →
    t.tables = (s.effect (.replay input now fresh)).elim s.tables s.tables.perform := by
  fun_cases s.stepReplay input now fresh <;> intro ht <;> cases ht
  case case14.refl hp hco =>
    simp only [effect, hp, elim_some, Tables.perform, contains_tables,
      hco, if_true]
    rfl
  case case15.refl hp hco =>
    simp only [effect, hp, elim_some, Tables.perform, contains_tables,
      hco, Bool.false_eq_true, if_false]
    rfl
  all_goals
    simp only [effect, *]
    rfl

theorem stepRun_tables : s.stepRun input first = some t →
    t.tables = (s.effect (.run input first)).elim s.tables s.tables.perform := by
  fun_cases s.stepRun input first <;> intro ht <;> cases ht
  all_goals
    simp only [effect, *]
    rfl

theorem stepStopper_tables : s.stepStopper k = some t →
    t.tables = (s.effect (.stopper k)).elim s.tables s.tables.perform := by
  fun_cases s.stepStopper k <;> intro ht <;> cases ht
  all_goals
    simp only [effect, *]
    rfl

/-- How far a call of `ChangeSubscriptionAsync` is with the tables. -/
inductive Era where
  | early | tentative | failing | settled | late
  deriving DecidableEq

def ChangePhase.era : ChangePhase → Era
  | ordering | entering | gating | disposal | inspecting | comparing | releasing true | slotting
  | regating | redisposal | reinspecting | applying => .early
  | awaitingResponse | lastDisposal | confirming | reapplying | registering | enqueuing _
  | rejecting => .tentative
  | forgetting | rollingBack => .failing
  | settling => .settled
  | releasing false | returningSendSlot | returningResponseSlot | unordering | finished => .late

theorem isTentative_iff_era (phase : ChangePhase) :
    phase.isTentative = true ↔ phase.era = .tentative ∨ phase.era = .failing := by
  cases phase <;> simp [ChangePhase.isTentative, ChangePhase.era]
  next proceed => cases proceed <;> simp

inductive Progress (maximum : Nat) (change next : SubscriptionChange) (tables after : Tables) :
    Prop where
  | waits (era : change.phase.era = .early) (next_era : next.phase.era = .early)
      (failed : next.failed = change.failed) (tables : after = tables)
  | leaves (era : change.phase.era = .early) (next_era : next.phase.era = .late)
      (tables : after = tables)
  | applies (phase : change.phase = .applying) (next_era : next.phase.era = .tentative)
      (admits : tables.admits change.route change.subscribe maximum = true)
      (registered : next.registered = change.registered)
      (failed : next.failed = change.failed)
      (observed : next.responseObserved = false)
      (previous : next.previousState = decide (change.route ∈ tables.subscriptions))
      (tables : after = { tables with
        subscriptions := setMember tables.subscriptions change.route change.subscribe })
  | holds (era : change.phase.era = .tentative)
      (next_era : next.phase.era = .tentative ∧ next.failed = change.failed ∨
        next.phase = .forgetting)
      (observed : next.responseObserved = change.responseObserved)
      (previous : next.previousState = change.previousState)
      (registered : next.registered = change.registered)
      (tables : after = tables ∨ after = { tables with
        subscriptions := setMember tables.subscriptions change.route change.subscribe })
  | registers (mutation : SubscriptionMutation) (phase : change.phase = .registering)
      (next_era : next.phase.era = .tentative) (failed : next.failed = change.failed)
      (observed : next.responseObserved = change.responseObserved)
      (previous : next.previousState = change.previousState)
      (registered : next.registered = some mutation.correlationId)
      (route : mutation.route = change.route)
      (fresh : tables.contains mutation.correlationId = false)
      (tables : after = { tables with pending := tables.pending ++ [mutation] })
  | forgets (phase : change.phase = .forgetting) (next_phase : next.phase = .rollingBack)
      (registered : next.registered = change.registered)
      (observed : next.responseObserved = change.responseObserved)
      (previous : next.previousState = change.previousState)
      (tables : after = change.registered.elim tables (fun id => tables.perform (.remove id)))
  | rollsBack (phase : change.phase = .rollingBack) (next_era : next.phase.era = .late)
      (tables : after = { tables with
        subscriptions := setMember tables.subscriptions change.route
          (if change.responseObserved then
            desiredSubscription tables.pending tables.confirmed change.route
          else change.previousState) })
  | settles (era : change.phase.era = .tentative) (next_era : next.phase.era = .settled)
      (failed : next.failed = change.failed) (tables : after = tables)
  | ends (era : change.phase.era = .settled ∨ change.phase.era = .late)
      (next_era : next.phase.era = .late) (failed : next.failed = change.failed)
      (tables : after = tables)

theorem stepChange_progress : s.stepChange k input now fresh tooLarge = some t →
    ∃ change next, s.changes[k]? = some change ∧ t.changes = s.changes.set k next ∧
      next.route = change.route ∧
      Progress s.options.maximumSubscriptions change next s.tables t.tables := by
  intro ht
  obtain ⟨change, hk, ⟨hp, -, ht⟩ | ht | ht | ht⟩ := stepChange_cases ht
  all_goals revert ht
  all_goals first
    | fun_cases stepRegister
    | fun_cases stepChangeEntry
    | fun_cases stepChangeApply
    | fun_cases stepChangeExit
  all_goals
    intro ht
    cases ht
  all_goals refine ⟨change, _, hk, rfl, ?_⟩
  case inr.inl.case10.refl hp =>
    cases decide (change.route ∈ s.subscriptions) != change.subscribe with
    | true => exact ⟨rfl, .waits (by rw [hp]; rfl) rfl rfl rfl⟩
    | false => exact ⟨rfl, .leaves (by rw [hp]; rfl) rfl rfl⟩
  case inr.inr.inr.case8.refl proceed hp =>
    cases proceed with
    | true => exact ⟨rfl, .waits (by rw [hp]; rfl) rfl rfl rfl⟩
    | false => exact ⟨rfl, .ends (by rw [hp]; exact .inr rfl) rfl rfl rfl⟩
  case inr.inr.inr.case5.refl hp hr => exact ⟨rfl, .forgets hp rfl rfl rfl rfl (by rw [hr]; rfl)⟩
  case inr.inr.inr.case6.refl hp id hr => exact ⟨rfl, .forgets hp rfl rfl rfl rfl (by rw [hr]; rfl)⟩
  case inr.inr.inr.case7.refl hp => exact ⟨rfl, .rollsBack hp rfl rfl⟩
  all_goals
    have hph : change.phase = _ := ‹_›
    have he := congrArg ChangePhase.era hph
    try split_ifs
  all_goals first
    | exact ⟨rfl, .waits he rfl rfl rfl⟩
    | exact ⟨rfl, .leaves he rfl rfl⟩
    | exact ⟨rfl, .holds he (.inl ⟨rfl, rfl⟩) rfl rfl rfl (.inl rfl)⟩
    | exact ⟨rfl, .holds he (.inl ⟨rfl, rfl⟩) rfl rfl rfl (.inr rfl)⟩
    | exact ⟨rfl, .holds he (.inr rfl) rfl rfl rfl (.inl rfl)⟩
    | exact ⟨rfl, .settles he rfl rfl rfl⟩
    | exact ⟨rfl, .ends (.inl he) rfl rfl rfl⟩
    | exact ⟨rfl, .ends (.inr he) rfl rfl rfl⟩
    | (refine ⟨rfl, .applies hph rfl ?_ rfl rfl rfl rfl rfl⟩
       rw [admits_tables]
       simp [*])
    | exact ⟨rfl, .registers _ hph rfl rfl rfl rfl rfl rfl (Bool.eq_false_iff.mpr ‹_›) rfl⟩

inductive ChangesMove (s t : RealtimeClient) (label : Label) : Prop where
  | same (changes : t.changes = s.changes)
      (unanswered : ∀ id acknowledged, s.effect label = some (.answer id acknowledged) →
        s.tables.pending.find? (fun mutation => mutation.correlationId == id) = none)
      (other : ∀ k input now fresh tooLarge, label ≠ .changeStep k input now fresh tooLarge)
  | called (route : Text) (subscribe : Bool) (correlationId : Option Text)
      (changes : t.changes = s.changes ++
        [{ route := route, subscribe := subscribe, correlationId := correlationId }])
      (calls : label = .change route subscribe correlationId)
  | stepped (k : Nat) (input : Await) (now : UtcNow) (fresh : Guid) (tooLarge : Bool)
      (steps : label = .changeStep k input now fresh tooLarge) (change next : SubscriptionChange)
      (change_at : s.changes[k]? = some change) (changes : t.changes = s.changes.set k next)
      (route : next.route = change.route)
      (progress : Progress s.options.maximumSubscriptions change next s.tables t.tables)
  | observed (mutation : SubscriptionMutation) (acknowledged : Bool)
      (receives : label = .receive .ok)
      (effect : s.effect label = some (.answer mutation.correlationId acknowledged))
      (pending : s.tables.pending.find?
        (fun other => other.correlationId == mutation.correlationId) = some mutation)
      (changes : t.changes = s.observeResponse mutation.route)

theorem stepReceive_changes : s.stepReceive input = some t → ChangesMove s t (.receive input) := by
  fun_cases s.stepReceive input <;> intro ht <;> cases ht
  case case11.refl frame hp mutation hm =>
    unfold answeredMutation at hm
    split at hm
    · next hre =>
      have hid : mutation.correlationId = frame.envelope.correlationId.getD [] := by
        simpa using find?_some hm
      refine .observed mutation
        (frame.envelope.type == some ProtocolMessageTypes.acknowledge) rfl ?_
        (by rw [hid]; exact hm) rfl
      simp only [effect, hp, hre, if_true, hid]
    · cases hm
  case case12.refl frame hp hm =>
    refine .same rfl ?_ (by simp)
    intro id acknowledged he
    unfold answeredMutation at hm
    split at hm
    · next hre =>
      simp only [effect, hp, hre, if_true, some.injEq,
        TableEffect.answer.injEq] at he
      rw [← he.1]
      exact hm
    · next hre => simp [effect, hp, hre] at he
  all_goals
    refine .same rfl ?_ (by simp)
    intro id acknowledged he
    simp [effect, *] at he

theorem changeEffect_ne_answer :
    s.changeEffect change now fresh tooLarge ≠ some (.answer id acknowledged) := by
  intro h
  unfold changeEffect at h
  split at h
  · cases h
  · cases h
  · obtain ⟨_, _, h⟩ := map_eq_some_iff.mp h
    cases h
  · obtain ⟨_, _, h⟩ := map_eq_some_iff.mp h
    cases h
  · split_ifs at h <;> cases h
  · cases h

theorem receives_of_answer : s.effect label = some (.answer id acknowledged) →
    label = .receive .ok := by
  fun_cases s.effect label <;> intro h
  case case1 =>
    obtain ⟨change, -, h⟩ := bind_eq_some_iff.mp h
    exact absurd h changeEffect_ne_answer
  all_goals first
    | rfl
    | cases h

theorem ChangesMove.of_changes (hc : t.changes = s.changes) (hr : label ≠ .receive .ok)
    (hl : ∀ k input now fresh tooLarge, label ≠ .changeStep k input now fresh tooLarge) :
    ChangesMove s t label :=
  .same hc (fun _ _ he => absurd (receives_of_answer he) hr) hl

namespace RealtimeClient

def replayRoutes (s : RealtimeClient) : List Text := s.replay.elim [] ReplayPhase.exempt

end RealtimeClient

def RoutesMove (s t : RealtimeClient) : Prop :=
  t.replayRoutes <:+ s.replayRoutes ∨
    t.replayRoutes = s.subscriptions.insertionSort (fun a b => a ≤ b)

theorem RoutesMove.of_replay (h : t.replay = s.replay) : RoutesMove s t := by
  unfold RoutesMove RealtimeClient.replayRoutes
  rw [h]
  exact .inl (suffix_refl _)

theorem RoutesMove.of_nil (h : t.replayRoutes = []) : RoutesMove s t := by
  unfold RoutesMove
  rw [h]
  exact .inl (nil_suffix)

theorem stepReplay_routes : s.stepReplay input now fresh = some t → RoutesMove s t := by
  fun_cases s.stepReplay input now fresh <;> intro ht <;> cases ht
  case case9.refl hp => exact .inr rfl
  case case11.refl hp _ =>
    unfold RoutesMove RealtimeClient.replayRoutes
    rw [hp]
    exact .inl (suffix_refl _)
  case case15.refl hp _ =>
    unfold RoutesMove RealtimeClient.replayRoutes
    rw [hp]
    exact .inl (suffix_cons _ _)
  case case16.refl hp =>
    unfold RoutesMove RealtimeClient.replayRoutes
    rw [hp]
    exact .inl (suffix_refl _)
  all_goals first
    | exact .of_nil rfl
    | (refine .of_nil ?_; simp only [replayRoutes]; split_ifs <;> rfl)

theorem stepRun_routes : s.stepRun input first = some t → RoutesMove s t := by
  fun_cases s.stepRun input first <;> intro ht <;> cases ht
  all_goals first
    | exact .of_replay rfl
    | exact .of_nil rfl

/-- A step does its effect to the tables, and moves at most one call or tells it of a response. -/
theorem step_moves (ht : step s label = some t) :
    t.tables = (s.effect label).elim s.tables s.tables.perform ∧ ChangesMove s t label ∧
      RoutesMove s t := by
  cases label with
  | change route subscribe correlationId =>
    replace ht : s.callChange route subscribe correlationId = some t := ht
    revert ht
    fun_cases s.callChange route subscribe correlationId <;> intro ht <;> cases ht
    exact ⟨rfl, .called route subscribe correlationId rfl rfl, .of_replay rfl⟩
  | changeStep k input now fresh tooLarge =>
    obtain ⟨change, next, hk, hset, hro, hpr⟩ := stepChange_progress ht
    refine ⟨stepChange_tables ht,
      .stepped k input now fresh tooLarge rfl change next hk hset hro hpr, ?_⟩
    obtain ⟨u, rfl⟩ := step_footprint _ ht
    exact .of_replay rfl
  | stopper k =>
    refine ⟨stepStopper_tables ht, ?_⟩
    obtain ⟨u, rfl⟩ := step_footprint _ ht
    exact ⟨.of_changes rfl (by rintro ⟨⟩) (by simp), .of_replay rfl⟩
  | run input first =>
    refine ⟨stepRun_tables ht, .of_changes ?_ (by rintro ⟨⟩) (by simp), stepRun_routes ht⟩
    obtain ⟨u, rfl⟩ := step_footprint _ ht
    rfl
  | receive input =>
    refine ⟨stepReceive_tables ht, stepReceive_changes ht, .of_replay ?_⟩
    obtain ⟨u, rfl⟩ := step_footprint _ ht
    rfl
  | replay input now fresh =>
    refine ⟨stepReplay_tables ht, .of_changes ?_ (by rintro ⟨⟩) (by simp), stepReplay_routes ht⟩
    obtain ⟨u, rfl⟩ := step_footprint _ ht
    rfl
  | _ =>
    obtain ⟨u, rfl⟩ := step_footprint _ ht
    exact ⟨rfl, .of_changes rfl (by rintro ⟨⟩) (by simp), .of_replay rfl⟩

inductive Foreign (s : RealtimeClient) : Option TableEffect → Prop where
  | none : Foreign s none
  | answer (id : Text) (acknowledged : Bool) : Foreign s (some (.answer id acknowledged))
  | clear : Foreign s (some .clear)
  | register (mutation : SubscriptionMutation) (route : mutation.route ∈ s.replayRoutes)
      (holds : s.replay.any ReplayPhase.holdsGate = true) : Foreign s (some (.register mutation))
  | remove (id : Text) (holds : s.replay.any ReplayPhase.holdsGate = true) :
      Foreign s (some (.remove id))

theorem effect_foreign
    (hl : ∀ k input now fresh tooLarge, label ≠ .changeStep k input now fresh tooLarge) :
    Foreign s (s.effect label) := by
  fun_cases s.effect label
  case case1 => exact absurd rfl (hl _ _ _ _ _)
  case case5 hp =>
    refine .register _ ?_ (by rw [hp]; rfl)
    rw [replayRoutes, hp]
    exact mem_cons_self
  case case6 hp => exact .remove _ (by rw [hp]; rfl)
  all_goals constructor

theorem nodup_setMember {set : List Text} (h : set.Nodup) (element : Text) (present : Bool) :
    (setMember set element present).Nodup := by
  unfold setMember
  split_ifs with hp hm
  · exact h
  · exact nodup_append.mpr ⟨h, nodup_singleton _, by
      intro a ha b hb hab
      rw [mem_singleton.mp hb] at hab
      exact hm (hab ▸ ha)⟩
  · exact h.filter _

theorem Tables.perform_nodup (tables : Tables) (h : tables.subscriptions.Nodup)
    (effect : TableEffect) : (tables.perform effect).subscriptions.Nodup := by
  cases effect with
  | answer id acknowledged =>
    simp only [Tables.perform]
    split
    · exact nodup_setMember h _ _
    · exact h
  | apply route subscribe maximum =>
    simp only [Tables.perform]
    split
    · exact nodup_setMember h _ _
    · exact h
  | register mutation =>
    simp only [Tables.perform]
    split <;> exact h
  | clear => exact h
  | remove id => exact h
  | assign route present => exact nodup_setMember h _ _
  | reconcile route => exact nodup_setMember h _ _

theorem step_nodup (h : s.subscriptions.Nodup) (ht : step s label = some t) :
    t.subscriptions.Nodup := by
  have hta := (step_moves ht).1
  have hno : t.tables.subscriptions.Nodup := by
    rw [hta]
    cases s.effect label with
    | none => exact h
    | some effect => exact s.tables.perform_nodup h effect
  exact hno

end Realtime.Client
