import Realtime.Client.Subscriptions
import Realtime.Client.Tables

/-! The limit of the subscriptions. A response or a rollback may bring back a route for as long
as it is confirmed, an unanswered command names it, or a change of it is under way. The check of
`ChangeSubscriptionAsync` counts only the routes that are subscribed at that moment; with the
other ones counted as well, the limit holds. -/

namespace Realtime.Client

open RealtimeClient List

def Tables.routes (tables : Tables) : List Text :=
  tables.subscriptions ++ tables.confirmed ++ tables.pending.map SubscriptionMutation.route

namespace RealtimeClient

def namedRoutes (s : RealtimeClient) : List Text :=
  s.tables.routes ++ s.changes.flatMap SubscriptionChange.exempt ++ s.replayRoutes

/-- The route that a call of `SubscribeAsync` is about to add. -/
def admitted (s : RealtimeClient) (label : Label) : Option Text :=
  match s.effect label with
  | some (.apply route true maximum) =>
    if s.tables.admits route true maximum then some route else none
  | _ => none

/-- The route that is about to be added and all routes that are named fit the limit. -/
def hasRoom (s : RealtimeClient) (label : Label) : Bool :=
  (s.admitted label).all (fun route =>
    decide ((route :: s.namedRoutes).toFinset.card ≤ s.options.maximumSubscriptions))

end RealtimeClient

variable {s t : RealtimeClient} {label : Label} {tables : Tables} {route : Text}

theorem mem_routes : route ∈ tables.routes ↔ route ∈ tables.subscriptions ∨
    route ∈ tables.confirmed ∨ ∃ mutation ∈ tables.pending, mutation.route = route := by
  simp only [Tables.routes, mem_append, mem_map, or_assoc]

theorem mem_namedRoutes : route ∈ s.namedRoutes ↔ route ∈ s.tables.routes ∨
    (∃ change ∈ s.changes, route ∈ change.exempt) ∨ route ∈ s.replayRoutes := by
  simp only [namedRoutes, mem_append, mem_flatMap, or_assoc]

theorem eq_or_mem_of_setMember {set : List Text} {element : Text} {present : Bool}
    (h : route ∈ setMember set element present) : route = element ∧ present = true ∨
      route ∈ set := by
  rw [mem_setMember] at h
  split_ifs at h with he
  · exact .inl ⟨he, h⟩
  · exact .inr h

variable {mutation : SubscriptionMutation} {change : SubscriptionChange}
  {options : RealtimeClientOptions}

theorem routes_answered {acknowledged : Bool} (hm : mutation ∈ tables.pending)
    (h : route ∈ (tables.answered mutation acknowledged).routes) :
    route ∈ tables.routes := by
  have hro : mutation.route ∈ tables.routes := mem_routes.mpr (.inr (.inr ⟨mutation, hm, rfl⟩))
  rcases mem_routes.mp h with h | h | ⟨other, ho, rfl⟩
  · rcases eq_or_mem_of_setMember h with ⟨rfl, -⟩ | h
    · exact hro
    · exact mem_routes.mpr (.inl h)
  · simp only [Tables.answered] at h
    split_ifs at h
    · rcases eq_or_mem_of_setMember h with ⟨rfl, -⟩ | h
      · exact hro
      · exact mem_routes.mpr (.inr (.inl h))
    · exact mem_routes.mpr (.inr (.inl h))
  · exact mem_routes.mpr (.inr (.inr ⟨other, mem_withoutMutation ho, rfl⟩))

theorem routes_foreign {effect : Option TableEffect} (hf : Foreign s effect)
    (h : route ∈ (effect.elim s.tables s.tables.perform).routes) :
    route ∈ s.tables.routes ∨ route ∈ s.replayRoutes := by
  cases hf with
  | none => exact .inl h
  | answer id acknowledged =>
    simp only [Option.elim_some, Tables.perform] at h
    split at h
    · next hfi => exact .inl (routes_answered (mem_of_find?_eq_some hfi) h)
    · exact .inl h
  | clear =>
    rcases mem_routes.mp h with h | h | ⟨_, h, -⟩
    · exact .inl (mem_routes.mpr (.inl h))
    · cases h
    · cases h
  | register mutation hro _ =>
    simp only [Option.elim_some, Tables.perform] at h
    split at h
    · exact .inl h
    · rcases mem_routes.mp h with h | h | ⟨other, ho, rfl⟩
      · exact .inl (mem_routes.mpr (.inl h))
      · exact .inl (mem_routes.mpr (.inr (.inl h)))
      · rcases mem_append.mp ho with ho | ho
        · exact .inl (mem_routes.mpr (.inr (.inr ⟨other, ho, rfl⟩)))
        · rw [mem_singleton.mp ho]
          exact .inr hro
  | remove id _ =>
    rcases mem_routes.mp h with h | h | ⟨other, ho, rfl⟩
    · exact .inl (mem_routes.mpr (.inl h))
    · exact .inl (mem_routes.mpr (.inr (.inl h)))
    · exact .inl (mem_routes.mpr (.inr (.inr ⟨other, mem_withoutMutation ho, rfl⟩)))

theorem mem_exempt : route ∈ change.exempt ↔
    (change.phase.era = .tentative ∨ change.phase.era = .failing) ∧ route = change.route := by
  unfold SubscriptionChange.exempt
  rw [← isTentative_iff_era]
  split_ifs with h <;> simp [h]

theorem routes_setMember {element : Text} {present : Bool}
    (h : route ∈ Tables.routes { tables with
      subscriptions := setMember tables.subscriptions element present }) :
    route = element ∧ present = true ∨ route ∈ tables.routes := by
  rcases mem_routes.mp h with h | h | h
  · rcases eq_or_mem_of_setMember h with h | h
    · exact .inl h
    · exact .inr (mem_routes.mpr (.inl h))
  · exact .inr (mem_routes.mpr (.inr (.inl h)))
  · exact .inr (mem_routes.mpr (.inr (.inr h)))

/-- A call names no route but its own, and that one only if it was named before or is admitted. -/
theorem Progress.routes {maximum : Nat} {change next : SubscriptionChange} {after : Tables}
    (h : Progress maximum change next tables after) (hro : next.route = change.route)
    (hr : route ∈ after.routes ∨ route ∈ next.exempt) :
    route ∈ tables.routes ∨ route ∈ change.exempt ∨ (route = change.route ∧
      change.phase = .applying ∧ change.subscribe = true ∧
        tables.admits change.route true maximum = true) := by
  have hle {era : Era} (he : next.phase.era = era) (h1 : era ≠ .tentative) (h2 : era ≠ .failing)
      (ha : after = tables) : route ∈ tables.routes := by
    rcases hr with hr | hr
    · rwa [ha] at hr
    · rw [mem_exempt, he] at hr
      exact (hr.1.elim h1 h2).elim
  have hown (hmem : route ∈ next.exempt) : route = change.route :=
    (mem_exempt.mp hmem).2.trans hro
  cases h with
  | waits _ hn _ ha => exact .inl (hle hn nofun nofun ha)
  | leaves _ hn ha => exact .inl (hle hn nofun nofun ha)
  | settles _ hn _ ha => exact .inl (hle hn nofun nofun ha)
  | ends _ hn _ ha => exact .inl (hle hn nofun nofun ha)
  | applies hp _ had _ _ _ _ ha =>
    have hca : route = change.route ∨ route ∈ tables.routes := by
      rcases hr with hr | hr
      · rw [ha] at hr
        exact (routes_setMember hr).imp_left And.left
      · exact .inl (hown hr)
    rcases hca with rfl | hr
    · by_cases hs : change.subscribe = true
      · rw [hs] at had
        exact .inr (.inr ⟨rfl, hp, hs, had⟩)
      · -- An unsubscribe is only applied to a route that is there.
        refine .inl (mem_routes.mpr (.inl ?_))
        simp only [Tables.admits, hs] at had
        simpa using had
    · exact .inl hr
  | holds he _ _ _ _ ha =>
    by_cases hc : route = change.route
    · exact .inr (.inl (mem_exempt.mpr ⟨.inl he, hc⟩))
    · rcases hr with hr | hr
      · rcases ha with ha | ha
        · exact .inl (by rwa [ha] at hr)
        · rw [ha] at hr
          exact .inl ((routes_setMember hr).resolve_left (fun h0 => hc h0.1))
      · exact absurd (hown hr) hc
  | registers mutation hp _ _ _ _ _ hm _ ha =>
    by_cases hc : route = change.route
    · exact .inr (.inl (mem_exempt.mpr ⟨.inl (by rw [hp]; rfl), hc⟩))
    · rcases hr with hr | hr
      · rw [ha] at hr
        rcases mem_routes.mp hr with hr | hr | ⟨other, ho, he⟩
        · exact .inl (mem_routes.mpr (.inl hr))
        · exact .inl (mem_routes.mpr (.inr (.inl hr)))
        · rcases mem_append.mp ho with ho | ho
          · exact .inl (mem_routes.mpr (.inr (.inr ⟨other, ho, he⟩)))
          · rw [mem_singleton.mp ho, hm] at he
            exact absurd he.symm hc
      · exact absurd (hown hr) hc
  | forgets hp _ _ _ _ ha =>
    rcases hr with hr | hr
    · refine .inl ?_
      rw [ha] at hr
      cases hid : change.registered with
      | none =>
        rw [hid] at hr
        exact hr
      | some id =>
        rw [hid] at hr
        rcases mem_routes.mp hr with hr | hr | ⟨other, ho, he⟩
        · exact mem_routes.mpr (.inl hr)
        · exact mem_routes.mpr (.inr (.inl hr))
        · exact mem_routes.mpr (.inr (.inr ⟨other, mem_withoutMutation ho, he⟩))
    · exact .inr (.inl (mem_exempt.mpr ⟨.inr (by rw [hp]; rfl), hown hr⟩))
  | rollsBack hp hn ha =>
    rcases hr with hr | hr
    · rw [ha] at hr
      rcases routes_setMember hr with ⟨hc, -⟩ | hr
      · exact .inr (.inl (mem_exempt.mpr ⟨.inr (by rw [hp]; rfl), hc⟩))
      · exact .inl hr
    · rw [mem_exempt, hn] at hr
      rcases hr.1 with h0 | h0 <;> cases h0

theorem exempt_observeResponse {observed : Text} (h : change ∈ s.observeResponse observed)
    (hr : route ∈ change.exempt) :
    ∃ before ∈ s.changes, route ∈ before.exempt := by
  obtain ⟨j, hj⟩ := mem_iff_getElem?.mp h
  obtain ⟨before, hb, rfl⟩ := RealtimeClient.observeResponse_getElem? hj
  exact ⟨before, mem_of_getElem? hb, hr⟩

theorem admitted_of_applying {k : Nat} {input : Await} {now : UtcNow} {fresh : Guid}
    {tooLarge : Bool} (ht : s.stepChange k input now fresh tooLarge = some t)
    (hk : s.changes[k]? = some change) (hp : change.phase = .applying)
    (hs : change.subscribe = true)
    (ha : s.tables.admits change.route true s.options.maximumSubscriptions = true) :
    s.admitted (.changeStep k input now fresh tooLarge) = some change.route := by
  have hok : input = .ok := by
    simp only [stepChange, hk, hp, stepChangeApply] at ht
    cases input with
    | ok => rfl
    | exit => cases ht
    | failed failure => cases ht
  subst hok
  simp only [admitted, effect, hk, Option.bind_some,
    RealtimeClient.changeEffect, hp, hs, ha, if_true]

theorem step_named (ht : step s label = some t) (hr : route ∈ t.namedRoutes) :
    route ∈ s.namedRoutes ∨ s.admitted label = some route := by
  obtain ⟨hta, hch, hro⟩ := step_moves ht
  have hfo (hl : ∀ k input now fresh tooLarge, label ≠ .changeStep k input now fresh tooLarge)
      (h : route ∈ t.tables.routes) : route ∈ s.namedRoutes := by
    rw [hta] at h
    rw [mem_namedRoutes]
    rcases routes_foreign (effect_foreign hl) h with h | h
    · exact .inl h
    · exact .inr (.inr h)
  have hre (h : route ∈ t.replayRoutes) : route ∈ s.namedRoutes := by
    rw [mem_namedRoutes]
    rcases hro with hsu | hso
    · exact .inr (.inr (hsu.subset h))
    · rw [hso, mem_insertionSort] at h
      exact .inl (mem_routes.mpr (.inl h))
  rw [mem_namedRoutes] at hr
  cases hch with
  | same hc _ hl =>
    rcases hr with hr | hr | hr
    · exact .inl (hfo hl hr)
    · rw [hc] at hr
      exact .inl (mem_namedRoutes.mpr (.inr (.inl hr)))
    · exact .inl (hre hr)
  | called _ _ _ hc hl =>
    rcases hr with hr | ⟨change, hmem, hr⟩ | hr
    · exact .inl (hfo (by rw [hl]; nofun) hr)
    · rw [hc, mem_append, mem_singleton] at hmem
      rcases hmem with hmem | rfl
      · exact .inl (mem_namedRoutes.mpr (.inr (.inl ⟨change, hmem, hr⟩)))
      · cases hr
    · exact .inl (hre hr)
  | observed _ _ hl _ _ hc =>
    rcases hr with hr | ⟨change, hmem, hr⟩ | hr
    · exact .inl (hfo (by rw [hl]; nofun) hr)
    · rw [hc] at hmem
      exact .inl (mem_namedRoutes.mpr (.inr (.inl (exempt_observeResponse hmem hr))))
    · exact .inl (hre hr)
  | stepped k input now fresh tooLarge hl change next hk hc hrou hpr =>
    have hown (hmem : route ∈ t.tables.routes ∨ route ∈ next.exempt) :
        route ∈ s.namedRoutes ∨ s.admitted label = some route := by
      rcases hpr.routes hrou hmem with h | h | ⟨rfl, hp, hs, ha⟩
      · exact .inl (mem_namedRoutes.mpr (.inl h))
      · exact .inl (mem_namedRoutes.mpr (.inr (.inl ⟨change, mem_of_getElem? hk, h⟩)))
      · subst hl
        exact .inr (admitted_of_applying ht hk hp hs ha)
    rcases hr with hr | ⟨other, hmem, hr⟩ | hr
    · exact hown (.inl hr)
    · rw [hc] at hmem
      rcases mem_or_eq_of_mem_set hmem with hmem | rfl
      · exact .inl (mem_namedRoutes.mpr (.inr (.inl ⟨other, hmem, hr⟩)))
      · exact hown (.inr hr)
    · exact .inl (hre hr)

/-- The named routes fit the limit, and so do those that the replay sends commands for. -/
structure Bounded (options : RealtimeClientOptions) (s : RealtimeClient) : Prop where
  slots : s.SlotsKept options
  nodup : s.subscriptions.Nodup
  named : s.namedRoutes.toFinset.card ≤ options.maximumSubscriptions
  replayed : s.replayRoutes.length ≤ options.maximumSubscriptions

theorem Bounded.subscriptions (h : Bounded options s) :
    s.subscriptions.length ≤ options.maximumSubscriptions := by
  have hsu : s.subscriptions.toFinset ⊆ s.namedRoutes.toFinset := by
    intro route hr
    rw [mem_toFinset] at hr ⊢
    exact mem_namedRoutes.mpr (.inl (mem_routes.mpr (.inl hr)))
  calc
    s.subscriptions.length = s.subscriptions.toFinset.card :=
      (toFinset_card_of_nodup h.nodup).symm
    _ ≤ s.namedRoutes.toFinset.card := Finset.card_le_card hsu
    _ ≤ options.maximumSubscriptions := h.named

theorem Bounded.step (h : Bounded options s) (hro : s.hasRoom label = true)
    (ht : step s label = some t) : Bounded options t := by
  refine ⟨h.slots.step ht, step_nodup h.nodup ht, ?_, ?_⟩
  · cases ha : s.admitted label with
    | none =>
      have hsu : t.namedRoutes.toFinset ⊆ s.namedRoutes.toFinset := by
        intro route hr
        rw [mem_toFinset] at hr ⊢
        rcases step_named ht hr with hr | hr
        · exact hr
        · rw [ha] at hr
          cases hr
      exact (Finset.card_le_card hsu).trans h.named
    | some added =>
      have hsu : t.namedRoutes.toFinset ⊆ (added :: s.namedRoutes).toFinset := by
        intro route hr
        rw [mem_toFinset] at hr ⊢
        rcases step_named ht hr with hr | hr
        · exact mem_cons_of_mem _ hr
        · rw [ha, Option.some.injEq] at hr
          exact hr ▸ mem_cons_self
      simp only [hasRoom, ha, Option.all_some, decide_eq_true_eq, h.slots.options]
        at hro
      exact (Finset.card_le_card hsu).trans hro
  · rcases (step_moves ht).2.2 with hsuf | hso
    · exact hsuf.length_le.trans h.replayed
    · rw [hso, length_insertionSort]
      exact h.subscriptions

theorem bounded_initial (options : RealtimeClientOptions) : Bounded options { options } :=
  ⟨RealtimeClient.slotsKept_initial options, nodup_nil, Nat.zero_le _, Nat.zero_le _⟩

/-- In every run in which each added route finds room among the named ones, the client holds and
replays at most as many routes as configured. -/
theorem subscriptions_limited {options : RealtimeClientOptions} {labels : List Label}
    (hroom : step.Along (fun s label => s.hasRoom label = true) { options } labels)
    (h : step.run { options } labels = some s) :
    s.subscriptions.length ≤ options.maximumSubscriptions ∧
      s.replayRoutes.length ≤ options.maximumSubscriptions := by
  have hbo : Bounded options s :=
    StepFn.run_induct_along (fun _ _ _ hs hok ht => hs.step hok ht) (bounded_initial options)
      hroom h
  exact ⟨hbo.subscriptions, hbo.replayed⟩

theorem subscriptions_limited_subscribe : ∃ s : RealtimeClient,
    step.run { options := { maximumSubscriptions := 1 } } exampleSubscribe = some s ∧
      step.Along (fun s label => s.hasRoom label = true)
        { options := { maximumSubscriptions := 1 } } exampleSubscribe ∧
      s.subscriptions = [utf16 "orders"] ∧ s.subscriptions.length ≤ 1 ∧
      s.replayRoutes.length ≤ 1 := by
  have hr : ∃ s : RealtimeClient,
      step.run { options := { maximumSubscriptions := 1 } } exampleSubscribe = some s ∧
        s.subscriptions = [utf16 "orders"] := by decide +kernel
  have hro : step.Along (fun s label => s.hasRoom label = true)
      { options := { maximumSubscriptions := 1 } } exampleSubscribe := by decide +kernel
  obtain ⟨s, hs, hor⟩ := hr
  exact ⟨s, hs, hro, hor, subscriptions_limited hro hs⟩

/-- The only subscription is given up and another route takes its place. Then the server
refuses to end the first one, which comes back. -/
def exampleRefused : List Label :=
  exampleSubscribe ++ [.change (utf16 "orders") false (some [2])] ++ changeSteps 1 23 ++
    sendSteps ++ [.change (utf16 "news") true (some [3])] ++ changeSteps 2 23 ++
    [.serve false exampleClock, .received .message] ++ List.replicate 4 (.receive .ok)

theorem subscriptions_exceed_limit : ∃ s : RealtimeClient,
    step.run { options := { maximumSubscriptions := 1 } } exampleRefused = some s ∧
      s.subscriptions = [utf16 "news", utf16 "orders"] ∧
      s.options.maximumSubscriptions < s.subscriptions.length := by
  decide +kernel

end Realtime.Client
