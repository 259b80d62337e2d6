import Realtime.Client.Subscriptions
import Realtime.Client.Tables

/-! A call that fails takes back what it did. Beside the client run the tables as they would be
without the call: the steps of all others take their effect on both, the steps of the call on
the client only. When the call has failed the two agree, unless a disconnect cleared the
confirmed subscriptions after the call had seen a response, or the call's command was answered
by the response to something else. -/

namespace Realtime.Client

open RealtimeClient List Option

def Label.isStepOf (k : Nat) : Label → Bool
  | changeStep j _ _ _ _ => j == k
  | _ => false

/-- The client with the tables as they would be without the call at position `k`. -/
def stepBeside (k : Nat) : StepFn (RealtimeClient × Tables) Label := fun s label =>
  (step s.1 label).map (fun t => (t,
    if label.isStepOf k then s.2 else (s.1.effect label).elim s.2 s.2.perform))

/-- No call under way has seen a response when the tables are cleared, and no response answers
a command that has not been sent. -/
def RealtimeClient.undisturbed (s : RealtimeClient) (label : Label) : Bool :=
  match s.effect label with
  | some .clear =>
    s.changes.all (fun change => !(change.phase.isTentative && change.responseObserved))
  | some (.answer id _) =>
    s.changes.all (fun change => !(change.phase.isTentative && change.registered == some id))
  | _ => true

variable {s t : RealtimeClient} {k : Nat} {label : Label} {change next : SubscriptionChange}
  {real after shadow : Tables} {maximum : Nat}

theorem stepBeside_eq_some {s t : RealtimeClient × Tables} :
    stepBeside k s label = some t ↔ step s.1 label = some t.1 ∧
      t.2 = if label.isStepOf k then s.2 else (s.1.effect label).elim s.2 s.2.perform := by
  simp only [stepBeside, map_eq_some_iff]
  constructor
  · rintro ⟨u, hu, rfl⟩
    exact ⟨hu, rfl⟩
  · rintro ⟨hu, ht⟩
    exact ⟨t.1, hu, Prod.ext rfl ht.symm⟩

structure Agree (real shadow : Tables) : Prop where
  confirmed : shadow.confirmed = real.confirmed
  pending : shadow.pending = real.pending
  subscriptions : ∀ route, route ∈ shadow.subscriptions ↔ route ∈ real.subscriptions
  nodup : shadow.subscriptions.Nodup

theorem setMember_congr {set other : List Text} (h : ∀ route, route ∈ set ↔ route ∈ other)
    (element : Text) (present : Bool) (route : Text) :
    route ∈ setMember set element present ↔ route ∈ setMember other element present := by
  rw [mem_setMember, mem_setMember, h route]

theorem Agree.admits (h : Agree real shadow) (hn : real.subscriptions.Nodup) (route : Text)
    (subscribe : Bool) : shadow.admits route subscribe maximum =
      real.admits route subscribe maximum := by
  have hle : shadow.subscriptions.length = real.subscriptions.length :=
    ((perm_ext_iff_of_nodup h.nodup hn).mpr h.subscriptions).length_eq
  have hmem : decide (route ∈ shadow.subscriptions) = decide (route ∈ real.subscriptions) :=
    decide_eq_decide.mpr (h.subscriptions route)
  simp only [Tables.admits, hle, hmem]

theorem Agree.perform (h : Agree real shadow) (hn : real.subscriptions.Nodup)
    (effect : TableEffect) : Agree (real.perform effect) (shadow.perform effect) := by
  have hno := shadow.perform_nodup h.nodup effect
  cases effect with
  | answer id acknowledged =>
    simp only [Tables.perform, h.pending] at hno ⊢
    split
    · next mutation hfi =>
      rw [hfi] at hno
      refine ⟨?_, ?_, ?_, hno⟩
      · simp only [Tables.answered, h.confirmed]
      · simp only [Tables.answered, h.pending]
      · simp only [Tables.answered, h.pending, h.confirmed]
        exact setMember_congr h.subscriptions _ _
    · exact h
  | clear => exact ⟨rfl, rfl, h.subscriptions, h.nodup⟩
  | apply route subscribe maximum =>
    simp only [Tables.perform, h.admits hn] at hno ⊢
    split
    · next had =>
      simp only [had, if_true] at hno
      exact ⟨h.confirmed, h.pending, setMember_congr h.subscriptions _ _, hno⟩
    · exact h
  | assign route present =>
    exact ⟨h.confirmed, h.pending, setMember_congr h.subscriptions _ _, hno⟩
  | register mutation =>
    have hco : shadow.contains mutation.correlationId =
        real.contains mutation.correlationId := by
      simp only [Tables.contains, h.pending]
    simp only [Tables.perform, hco]
    split
    · exact h
    · refine { h with pending := ?_ }
      dsimp only
      rw [h.pending]
  | remove id =>
    refine { h with pending := ?_ }
    dsimp only [Tables.perform]
    rw [h.pending]
  | reconcile route =>
    refine ⟨h.confirmed, h.pending, ?_, hno⟩
    simp only [Tables.perform, h.pending, h.confirmed]
    exact setMember_congr h.subscriptions _ _

/-- What a call that has altered the tables has to put back: its route, and its command if it
has registered one. -/
structure Undoable (change : SubscriptionChange) (real shadow : Tables) : Prop where
  confirmed : shadow.confirmed = real.confirmed
  others : ∀ route, route ≠ change.route →
    (route ∈ shadow.subscriptions ↔ route ∈ real.subscriptions)
  nodup : shadow.subscriptions.Nodup
  pending : ∃ own, real.pending = shadow.pending ++ own ∧
    (∀ mutation ∈ own, mutation.route = change.route ∧
      change.registered = some mutation.correlationId) ∧
    (change.phase = .rollingBack → own = [])
  fresh : ∀ id, change.registered = some id → shadow.contains id = false
  value : change.route ∈ shadow.subscriptions ↔
    (if change.responseObserved then
      desiredSubscription shadow.pending shadow.confirmed change.route
    else change.previousState) = true

theorem Agree.applies (h : Agree real shadow) (hro : next.route = change.route)
    (hob : next.responseObserved = false)
    (hpr : next.previousState = decide (change.route ∈ real.subscriptions))
    (hre : next.registered = none)
    (haf : after = { real with
      subscriptions := setMember real.subscriptions change.route change.subscribe }) :
    Undoable next after shadow where
  confirmed := by rw [haf, h.confirmed]
  others := by
    intro route hne
    rw [hro] at hne
    rw [haf, mem_setMember, if_neg hne]
    exact h.subscriptions route
  nodup := h.nodup
  pending := by
    refine ⟨[], ?_, nofun, fun _ => rfl⟩
    rw [haf, append_nil, h.pending]
  fresh := by
    rw [hre]
    nofun
  value := by
    rw [hob, hpr, hro]
    simpa using h.subscriptions change.route

theorem Undoable.holds (h : Undoable change real shadow) (hro : next.route = change.route)
    (hph : next.phase ≠ .rollingBack)
    (hob : next.responseObserved = change.responseObserved)
    (hpr : next.previousState = change.previousState)
    (hre : next.registered = change.registered)
    (haf : after = real ∨ after = { real with
      subscriptions := setMember real.subscriptions change.route change.subscribe }) :
    Undoable next after shadow where
  confirmed := by rcases haf with rfl | rfl <;> exact h.confirmed
  others := by
    intro route hne
    rw [hro] at hne
    rcases haf with rfl | rfl
    · exact h.others route hne
    · rw [mem_setMember, if_neg hne]
      exact h.others route hne
  nodup := h.nodup
  pending := by
    obtain ⟨own, hrea, hown, -⟩ := h.pending
    refine ⟨own, ?_, ?_, fun h0 => absurd h0 hph⟩
    · rcases haf with rfl | rfl <;> exact hrea
    · rwa [hro, hre]
  fresh := by
    rw [hre]
    exact h.fresh
  value := by
    rw [hro, hob, hpr]
    exact h.value

theorem Undoable.pending_of_none (h : Undoable change real shadow)
    (hr : change.registered = none) : real.pending = shadow.pending := by
  obtain ⟨own, hre, hown, -⟩ := h.pending
  cases own with
  | nil => rw [hre, append_nil]
  | cons mutation own =>
    have hso := (hown mutation mem_cons_self).2
    rw [hr] at hso
    cases hso

variable {mutation : SubscriptionMutation} {id : Text} {now : UtcNow} {fresh : Guid}
  {tooLarge acknowledged : Bool} {input : Await}

theorem Undoable.registers (h : Undoable change real shadow) (hr : change.registered = none)
    (hro : next.route = change.route) (hph : next.phase ≠ .rollingBack)
    (hob : next.responseObserved = change.responseObserved)
    (hpr : next.previousState = change.previousState)
    (hre : next.registered = some mutation.correlationId)
    (hmu : mutation.route = change.route)
    (hfr : real.contains mutation.correlationId = false)
    (haf : after = { real with pending := real.pending ++ [mutation] }) :
    Undoable next after shadow where
  confirmed := by rw [haf, h.confirmed]
  others := by
    intro route hne
    rw [hro] at hne
    rw [haf]
    exact h.others route hne
  nodup := h.nodup
  pending := by
    refine ⟨[mutation], ?_, ?_, fun h0 => absurd h0 hph⟩
    · rw [haf, h.pending_of_none hr]
    · intro other ho
      rw [mem_singleton.mp ho, hro]
      exact ⟨hmu, hre⟩
  fresh := by
    intro id hid
    rw [hre, some.injEq] at hid
    rw [← hid, Tables.contains, ← h.pending_of_none hr]
    exact hfr
  value := by
    rw [hro, hob, hpr]
    exact h.value

theorem withoutMutation_of_not_contains (h : shadow.contains id = false) :
    RealtimeClient.withoutMutation shadow.pending id = shadow.pending := by
  refine filter_eq_self.mpr ?_
  intro mutation hm
  simp only [Tables.contains, List.any_eq_false, beq_iff_eq] at h
  exact decide_eq_true (h mutation hm)

theorem Undoable.forgets (h : Undoable change real shadow) (hro : next.route = change.route)
    (hre : next.registered = change.registered)
    (hob : next.responseObserved = change.responseObserved)
    (hpr : next.previousState = change.previousState)
    (haf : after = change.registered.elim real (fun id => real.perform (.remove id))) :
    Undoable next after shadow := by
  have haf : after = { real with pending := shadow.pending } := by
    rw [haf]
    cases hr : change.registered with
    | none =>
      rw [← h.pending_of_none hr]
      rfl
    | some id =>
      obtain ⟨own, hrea, hown, -⟩ := h.pending
      have hgo : RealtimeClient.withoutMutation own id = [] := by
        refine filter_eq_nil_iff.mpr ?_
        intro mutation hm
        have hid := (hown mutation hm).2
        rw [hr, some.injEq] at hid
        simp [hid]
      have hke : RealtimeClient.withoutMutation (shadow.pending ++ own) id = shadow.pending := by
        rw [withoutMutation, filter_append]
        rw [← withoutMutation, ← withoutMutation, hgo,
          withoutMutation_of_not_contains (h.fresh id hr), append_nil]
      simp only [elim_some, Tables.perform, hrea, hke]
  subst haf
  refine ⟨h.confirmed, ?_, h.nodup, ⟨[], by simp, by rintro _ ⟨⟩, fun _ => rfl⟩, ?_, ?_⟩
  · rw [hro]
    exact h.others
  · rw [hre]
    exact h.fresh
  · rw [hro, hob, hpr]
    exact h.value

theorem Undoable.rollsBack (h : Undoable change real shadow) (hph : change.phase = .rollingBack)
    (haf : after = { real with
      subscriptions := setMember real.subscriptions change.route
        (if change.responseObserved then
          desiredSubscription real.pending real.confirmed change.route
        else change.previousState) }) : Agree after shadow := by
  obtain ⟨own, hre, -, hnil⟩ := h.pending
  rw [hnil hph, append_nil] at hre
  subst haf
  refine ⟨h.confirmed, hre.symm, ?_, h.nodup⟩
  intro route
  rw [mem_setMember, hre, ← h.confirmed]
  split_ifs with hr ho
  · rw [hr, h.value, if_pos ho]
  · rw [hr, h.value, if_neg ho]
  · exact h.others route hr

theorem Undoable.clears (h : Undoable change real shadow)
    (ho : change.responseObserved = false) :
    Undoable change (real.perform .clear) (shadow.perform .clear) where
  confirmed := rfl
  others := h.others
  nodup := h.nodup
  pending := ⟨[], rfl, nofun, fun _ => rfl⟩
  fresh _ _ := rfl
  value := by
    have hva := h.value
    rw [ho] at hva ⊢
    exact hva

section Responses

variable {pending own : List SubscriptionMutation} {mutation : SubscriptionMutation} {route : Text}

theorem desiredSubscription_congr {other : List SubscriptionMutation} {confirmed known : List Text}
    (hf : pending.filter (fun candidate => candidate.route = route) =
      other.filter (fun candidate => candidate.route = route))
    (hc : route ∈ confirmed ↔ route ∈ known) :
    desiredSubscription pending confirmed route = desiredSubscription other known route := by
  unfold desiredSubscription
  rw [hf]
  split
  · rfl
  · exact decide_eq_decide.mpr hc

theorem filter_route_append (hown : ∀ candidate ∈ own, candidate.route ≠ route) :
    (pending ++ own).filter (fun candidate => candidate.route = route) =
      pending.filter (fun candidate => candidate.route = route) := by
  have hnil : own.filter (fun candidate => candidate.route = route) = [] := by
    refine filter_eq_nil_iff.mpr ?_
    intro candidate hm
    simpa using hown candidate hm
  rw [filter_append, hnil, append_nil]

theorem filter_route_withoutMutation
    (hn : (pending.map SubscriptionMutation.correlationId).Nodup) (hm : mutation ∈ pending)
    (hr : mutation.route ≠ route) :
    (RealtimeClient.withoutMutation pending mutation.correlationId).filter
        (fun candidate => candidate.route = route) =
      pending.filter (fun candidate => candidate.route = route) := by
  rw [withoutMutation, List.filter_filter]
  refine filter_congr ?_
  intro candidate hc
  by_cases hro : candidate.route = route
  · have hne : candidate.correlationId ≠ mutation.correlationId := by
      intro he
      rw [inj_on_of_nodup_map hn hc hm he] at hro
      exact hr hro
    simp [hne]
  · simp [hro]

theorem find?_of_append (hown : ∀ candidate ∈ own, candidate.correlationId ≠ mutation.correlationId)
    (h : (pending ++ own).find?
      (fun other => other.correlationId == mutation.correlationId) = some mutation) :
    pending.find? (fun other => other.correlationId == mutation.correlationId) = some mutation := by
  rw [find?_append, or_eq_some_iff] at h
  rcases h with h | ⟨-, h⟩
  · exact h
  · exact absurd rfl (hown mutation (mem_of_find?_eq_some h))

/-- A response to another command takes its effect on both tables, and the call notes it if it
is about its route. -/
theorem Undoable.answers (h : Undoable change real shadow)
    (hn : (real.pending.map SubscriptionMutation.correlationId).Nodup)
    (hm : mutation ∈ shadow.pending) (acknowledged : Bool) :
    Undoable { change with
      responseObserved := change.responseObserved || decide (change.route = mutation.route) }
      (real.answered mutation acknowledged) (shadow.answered mutation acknowledged) := by
  obtain ⟨own, hre, hown, hro⟩ := h.pending
  have hsh : (shadow.pending.map SubscriptionMutation.correlationId).Nodup := by
    rw [hre, map_append] at hn
    exact hn.of_append_left
  have hpe : (real.answered mutation acknowledged).pending =
      (shadow.answered mutation acknowledged).pending ++
        RealtimeClient.withoutMutation own mutation.correlationId := by
    simp only [Tables.answered, hre, withoutMutation, filter_append]
  have hco : (shadow.answered mutation acknowledged).confirmed =
      (real.answered mutation acknowledged).confirmed := by
    simp only [Tables.answered, h.confirmed]
  refine ⟨hco, ?_, nodup_setMember h.nodup _ _, ⟨_, hpe, ?_, ?_⟩, ?_, ?_⟩
  · -- For another route the command of the call plays no part.
    intro route hne
    have hde : desiredSubscription (shadow.answered mutation acknowledged).pending
        (shadow.answered mutation acknowledged).confirmed route =
        desiredSubscription (real.answered mutation acknowledged).pending
        (real.answered mutation acknowledged).confirmed route := by
      refine (desiredSubscription_congr ?_ (by rw [hco])).symm
      rw [hpe]
      refine filter_route_append ?_
      intro candidate hc
      rw [(hown candidate (mem_filter.mp hc).1).1]
      exact Ne.symm hne
    by_cases hr : route = mutation.route
    · subst hr
      simpa only [Tables.answered, mem_setMember, if_true] using Bool.eq_iff_iff.mp hde
    · simp only [Tables.answered, mem_setMember, if_neg hr]
      exact h.others route hne
  · intro candidate hc
    exact hown candidate (mem_filter.mp hc).1
  · intro hp
    rw [hro hp]
    rfl
  · intro id hid
    have hfr := h.fresh id hid
    simp only [Tables.contains, List.any_eq_false] at hfr ⊢
    intro candidate hc
    exact hfr candidate (mem_filter.mp hc).1
  · by_cases hr : change.route = mutation.route
    · simp only [hr, decide_true, Bool.or_true, if_true, Tables.answered, mem_setMember]
    · have hde : desiredSubscription (shadow.answered mutation acknowledged).pending
          (shadow.answered mutation acknowledged).confirmed change.route =
          desiredSubscription shadow.pending shadow.confirmed change.route := by
        refine desiredSubscription_congr
          (filter_route_withoutMutation hsh hm (Ne.symm hr)) ?_
        simp only [Tables.answered]
        split_ifs
        · rw [mem_setMember, if_neg hr]
        · rfl
      have hva := h.value
      simp only [hr, decide_false, Bool.or_false]
      rw [hde, ← hva]
      simp only [Tables.answered]
      rw [mem_setMember, if_neg hr]

end Responses

/-- How the tables of the client and those without the call are related, by how far the call
is. Of a call that has succeeded nothing is said. -/
def Follows : Option SubscriptionChange → Tables → Tables → Prop
  | none, real, shadow => Agree real shadow
  | some change, real, shadow =>
    match change.phase.era with
    | .early => change.failed = false ∧ Agree real shadow
    | .tentative => change.failed = false ∧ Undoable change real shadow
    | .failing => Undoable change real shadow
    | .settled => change.failed = false
    | .late => change.failed = true → Agree real shadow

theorem isEarly_of_era {phase : ChangePhase} (h : phase.era = .early) : phase.isEarly = true := by
  cases phase with
  | releasing proceed =>
    cases proceed with
    | true => rfl
    | false => cases h
  | _ => first | rfl | cases h

theorem Follows.progress (h : Follows (some change) real shadow) (hs : change.Slotted)
    (hro : next.route = change.route) (hp : Progress maximum change next real after) :
    Follows (some next) after shadow := by
  cases hp with
  | waits he hn hf ha =>
    simp only [Follows, he] at h
    simp only [Follows, hn, hf, ha]
    exact h
  | leaves he hn ha =>
    simp only [Follows, he] at h
    simp only [Follows, hn, ha]
    exact fun _ => h.2
  | applies hph hn _ hr hf ho hpr ha =>
    have he : change.phase.era = .early := by rw [hph]; rfl
    simp only [Follows, he] at h
    simp only [Follows, hn, hf]
    exact ⟨h.1, h.2.applies hro ho hpr (hr.trans (hs.early (isEarly_of_era he))) ha⟩
  | holds he hn ho hpr hr ha =>
    simp only [Follows, he] at h
    rcases hn with ⟨hn, hf⟩ | hn
    · have hph : next.phase ≠ .rollingBack := by
        intro h0
        rw [h0] at hn
        cases hn
      simp only [Follows, hn, hf]
      exact ⟨h.1, h.2.holds hro hph ho hpr hr ha⟩
    · have hera : next.phase.era = .failing := by rw [hn]; rfl
      simp only [Follows, hera]
      exact h.2.holds hro (by rw [hn]; nofun) ho hpr hr ha
  | registers mutation hph hn hf ho hpr hr hm hfr ha =>
    have he : change.phase.era = .tentative := by rw [hph]; rfl
    have hne : next.phase ≠ .rollingBack := by
      intro h0
      rw [h0] at hn
      cases hn
    simp only [Follows, he] at h
    simp only [Follows, hn, hf]
    exact ⟨h.1, h.2.registers (hs.early (by rw [hph]; rfl)) hro hne ho hpr hr hm
      hfr ha⟩
  | forgets hph hn hr ho hpr ha =>
    have he : change.phase.era = .failing := by rw [hph]; rfl
    have hera : next.phase.era = .failing := by rw [hn]; rfl
    simp only [Follows, he] at h
    simp only [Follows, hera]
    exact h.forgets hro hr ho hpr ha
  | rollsBack hph hn ha =>
    have he : change.phase.era = .failing := by rw [hph]; rfl
    simp only [Follows, he] at h
    simp only [Follows, hn]
    exact fun _ => h.rollsBack hph ha
  | settles he hn hf ha =>
    simp only [Follows, he] at h
    simp only [Follows, hn, hf]
    exact h.1
  | ends he hn hf ha =>
    simp only [Follows, hn, hf, ha]
    rcases he with he | he
    · simp only [Follows, he] at h
      rw [h]
      nofun
    · simp only [Follows, he] at h
      exact h

theorem Follows.perform {change? next? : Option SubscriptionChange}
    (h : Follows change? real shadow) (hn : real.subscriptions.Nodup) (effect : TableEffect)
    (hno : change? = none → next? = none)
    (hso : ∀ change, change? = some change → ∃ next, next? = some next ∧
      next.phase = change.phase ∧ next.failed = change.failed ∧
      (change.phase.isTentative = true → Undoable change real shadow →
        Undoable next (real.perform effect) (shadow.perform effect))) :
    Follows next? (real.perform effect) (shadow.perform effect) := by
  cases change? with
  | none =>
    rw [hno rfl]
    exact Agree.perform h hn effect
  | some change =>
    obtain ⟨next, hne, hph, hfa, hun⟩ := hso change rfl
    rw [hne]
    rw [isTentative_iff_era] at hun
    cases he : change.phase.era with
    | early =>
      simp only [Follows, he] at h
      simp only [Follows, hph, he, hfa]
      exact ⟨h.1, h.2.perform hn effect⟩
    | tentative =>
      simp only [Follows, he] at h
      simp only [Follows, hph, he, hfa]
      exact ⟨h.1, hun (.inl he) h.2⟩
    | failing =>
      simp only [Follows, he] at h
      simp only [Follows, hph, he]
      exact hun (.inr he) h
    | settled =>
      simp only [Follows, he] at h
      simp only [Follows, hph, he, hfa]
      exact h
    | late =>
      simp only [Follows, he] at h
      simp only [Follows, hph, he, hfa]
      exact fun hf => (h hf).perform hn effect

structure Beside (k : Nat) (s : RealtimeClient) (shadow : Tables) : Prop where
  slots : s.SlotsKept s.options
  exclusive : s.Exclusive
  nodup : s.subscriptions.Nodup
  follows : Follows s.changes[k]? s.tables shadow

theorem Beside.gate (h : Beside k s shadow) (hk : s.changes[k]? = some change)
    (ht : change.phase.isTentative = true) : s.gate = some (.change k) :=
  h.exclusive.change_gate k change hk (RealtimeClient.holdsGate_of_isTentative ht)

theorem Beside.replay_waits (h : Beside k s shadow) (hk : s.changes[k]? = some change)
    (ht : change.phase.isTentative = true) : s.replay.any ReplayPhase.holdsGate = false := by
  refine Bool.eq_false_iff.mpr ?_
  intro hany
  obtain ⟨phase, hp, hho⟩ := (Option.any_eq_true _ _).mp hany
  have hga := h.exclusive.replay_gate phase hp hho
  rw [h.gate hk ht] at hga
  cases hga

theorem holdsGate_of_changeEffect {effect : TableEffect}
    (h : s.changeEffect change now fresh tooLarge = some effect) :
    change.phase.holdsGate = true := by
  unfold changeEffect at h
  split at h
  case h_6 => cases h
  all_goals next hp =>
    rw [hp]
    rfl

theorem Beside.changes_wait (h : Beside k s shadow) (hk : s.changes[k]? = some change)
    (ht : change.phase.isTentative = true) {j : Nat} (hj : j ≠ k) :
    s.effect (.changeStep j input now fresh tooLarge) = none := by
  refine eq_none_iff_forall_ne_some.mpr ?_
  intro effect he
  cases input with
  | ok =>
    obtain ⟨other, ho, he⟩ := bind_eq_some_iff.mp he
    have hga := h.exclusive.change_gate j other ho (holdsGate_of_changeEffect he)
    rw [h.gate hk ht] at hga
    cases hga
    exact hj rfl
  | exit => cases he
  | failed failure => cases he

theorem Undoable.unanswered (h : Undoable change real shadow)
    (hfi : real.pending.find? (fun mutation => mutation.correlationId == id) = none) :
    Undoable change (real.perform (.answer id acknowledged))
      (shadow.perform (.answer id acknowledged)) := by
  have hsh : shadow.pending.find? (fun mutation => mutation.correlationId == id) = none := by
    obtain ⟨own, hre, -⟩ := h.pending
    rw [hre, find?_append, or_eq_none_iff] at hfi
    exact hfi.1
  simp only [Tables.perform, hfi, hsh]
  exact h

theorem Beside.aside (h : Beside k s shadow) (hu : s.undisturbed label = true)
    (hl : ∀ k input now fresh tooLarge, label ≠ .changeStep k input now fresh tooLarge)
    (huna : ∀ id acknowledged, s.effect label = some (.answer id acknowledged) →
      s.tables.pending.find? (fun mutation => mutation.correlationId == id) = none) :
    Follows s.changes[k]? ((s.effect label).elim s.tables s.tables.perform)
      ((s.effect label).elim shadow shadow.perform) := by
  have hfo : Foreign s (s.effect label) := effect_foreign hl
  have hpe (effect : TableEffect)
      (hun : ∀ change, s.changes[k]? = some change → change.phase.isTentative = true →
        Undoable change s.tables shadow →
        Undoable change (s.tables.perform effect) (shadow.perform effect)) :
      Follows s.changes[k]? (s.tables.perform effect) (shadow.perform effect) := by
    refine h.follows.perform h.nodup effect id ?_
    intro change hk
    exact ⟨change, hk, rfl, rfl, hun change hk⟩
  unfold undisturbed at hu
  cases he : s.effect label with
  | none => exact h.follows
  | some effect =>
    rw [he] at hfo hu
    refine hpe effect ?_
    intro change hk ht hun
    cases hfo with
    | answer id acknowledged => exact hun.unanswered (huna id acknowledged he)
    | clear =>
      have hob := List.all_eq_true.mp hu change (mem_of_getElem? hk)
      simp only [ht, Bool.true_and, Bool.not_eq_true'] at hob
      exact hun.clears hob
    | register mutation _ hho =>
      rw [h.replay_waits hk ht] at hho
      cases hho
    | remove id hho =>
      rw [h.replay_waits hk ht] at hho
      cases hho

theorem Beside.observed (h : Beside k s shadow) (hu : s.undisturbed label = true)
    (he : s.effect label = some (.answer mutation.correlationId acknowledged))
    (hfi : s.tables.pending.find? (fun other => other.correlationId == mutation.correlationId) =
      some mutation) :
    Follows (s.observeResponse mutation.route)[k]?
      (s.tables.perform (.answer mutation.correlationId acknowledged))
      (shadow.perform (.answer mutation.correlationId acknowledged)) := by
  have hle : (s.observeResponse mutation.route).length = s.changes.length := by
    unfold observeResponse
    split
    · rfl
    · exact length_modify ..
  refine h.follows.perform h.nodup _ ?_ ?_
  · intro hnon
    rw [List.getElem?_eq_none_iff] at hnon ⊢
    rwa [hle]
  · intro change hk
    have hlt : k < (s.observeResponse mutation.route).length := by
      rw [hle]
      exact (List.getElem?_eq_some_iff.mp hk).1
    obtain ⟨before, hb, hne⟩ :=
      RealtimeClient.observeResponse_getElem? (getElem?_eq_getElem hlt)
    rw [hk, some.injEq] at hb
    subst hb
    refine ⟨_, getElem?_eq_getElem hlt, by rw [hne], by rw [hne], ?_⟩
    intro ht hun
    have hno := h.slots.response.nodup
    unfold undisturbed at hu
    rw [he] at hu
    have hot := List.all_eq_true.mp hu change (mem_of_getElem? hk)
    simp only [ht, Bool.true_and, Bool.not_eq_true', beq_eq_false_iff_ne] at hot
    have hsh : shadow.pending.find?
        (fun other => other.correlationId == mutation.correlationId) = some mutation := by
      obtain ⟨own, hre, hown, -⟩ := hun.pending
      rw [hre] at hfi
      refine find?_of_append ?_ hfi
      intro candidate hc hsa
      exact hot (hsa ▸ (hown candidate hc).2)
    have hac := h.exclusive.rollback k change hk ht
    rw [hne, hac]
    simp only [decide_true, Bool.true_and, Tables.perform, hfi, hsh]
    exact hun.answers hno (mem_of_find?_eq_some hsh) acknowledged

theorem Beside.step (h : Beside k s shadow) (hu : s.undisturbed label = true)
    (ht : step s label = some t) :
    Beside k t (if label.isStepOf k then shadow else (s.effect label).elim shadow shadow.perform)
    := by
  obtain ⟨hta, hch, -⟩ := step_moves ht
  have hop : t.options = s.options := (RealtimeClient.options_and_changes ht h.slots.slotted).1
  refine ⟨hop ▸ h.slots.step ht, h.exclusive.step h.slots.tasks ht, step_nodup h.nodup ht, ?_⟩
  cases hch with
  | same hc hun hl =>
    have hown : label.isStepOf k = false := by
      cases label with
      | changeStep j input now fresh tooLarge => exact absurd rfl (hl j input now fresh tooLarge)
      | _ => rfl
    rw [hown, hc, hta]
    exact h.aside hu hl hun
  | called route subscribe correlationId hc hl =>
    subst hl
    have hsa : t.tables = s.tables := hta
    rw [hc, hsa]
    show Follows _ _ shadow
    have hfo := h.follows
    rcases Nat.lt_trichotomy k s.changes.length with hk | rfl | hk
    · rwa [getElem?_append_left hk]
    · rw [getElem?_eq_none (Nat.le_refl _)] at hfo
      rw [getElem?_concat_length]
      exact ⟨rfl, hfo⟩
    · rw [getElem?_eq_none (Nat.le_of_lt hk)] at hfo
      rw [getElem?_eq_none (by rw [length_append]; exact hk)]
      exact hfo
  | observed mutation acknowledged hl he hfi hc =>
    have hown : label.isStepOf k = false := by rw [hl]; rfl
    rw [hown, hc, hta, he]
    exact h.observed hu he hfi
  | stepped j input now fresh tooLarge hl change next hj hc hro hpr =>
    rw [hc]
    by_cases hjk : j = k
    · have hown : label.isStepOf k = true := by
        rw [hl, hjk]
        exact beq_self_eq_true k
      subst hjk
      have hfo := h.follows
      rw [hj] at hfo
      rw [hown, getElem?_set_self (List.getElem?_eq_some_iff.mp hj).1]
      exact hfo.progress (h.slots.slotted change (mem_of_getElem? hj)) hro hpr
    · have hown : label.isStepOf k = false := by
        rw [hl]
        exact beq_eq_false_iff_ne.mpr hjk
      rw [hown, getElem?_set_ne hjk, hta]
      cases he : s.effect label with
      | none => exact h.follows
      | some effect =>
        refine h.follows.perform h.nodup effect id ?_
        intro other hk
        refine ⟨other, hk, rfl, rfl, ?_⟩
        intro hte _
        rw [hl, h.changes_wait hk hte hjk] at he
        cases he

structure SubscriptionChange.Released (change : SubscriptionChange) : Prop where
  send : change.phase = .returningResponseSlot ∨ change.phase = .unordering ∨
    change.phase = .finished → change.sendSlot = false
  response : change.phase = .unordering ∨ change.phase = .finished → change.responseSlot = false

theorem released_stepChange (hs : ∀ change ∈ s.changes, change.Slotted)
    (h : ∀ change ∈ s.changes, change.Released)
    (ht : s.stepChange k input now fresh tooLarge = some t) :
    ∃ next, t.changes = s.changes.set k next ∧ next.Released := by
  replace ht := stepChange_cases ht
  obtain ⟨change, hk, ht⟩ := ht
  have hsl := hs change (mem_of_getElem? hk)
  have hre := h change (mem_of_getElem? hk)
  rcases ht with ⟨hp, -, ht⟩ | ht | ht | ht <;> revert ht
  all_goals first
    | fun_cases stepRegister
    | fun_cases stepChangeEntry
    | fun_cases stepChangeApply
    | fun_cases stepChangeExit
  all_goals
    intro ht
    cases ht
  all_goals refine ⟨_, rfl, ?_⟩
  case inr.inr.inr.case8.refl proceed hp =>
    cases proceed <;> constructor <;> simp [SubscriptionChange.goto]
  case inr.inr.inr.case9.refl hp => exact ⟨fun _ => rfl, by simp⟩
  case inr.inr.inr.case10.refl hp => exact ⟨fun _ => hre.send (.inl hp), fun _ => rfl⟩
  case inr.inr.inr.case11.refl hp =>
    exact ⟨fun _ => hre.send (.inr (.inl hp)), fun _ => hre.response (.inl hp)⟩
  all_goals
    try split_ifs
    all_goals first
      | (constructor <;> simp [SubscriptionChange.goto, SubscriptionChange.fail]; done)
      | exact ⟨fun _ => hsl.send _ (by rw [‹change.phase = _›]; rfl),
          fun _ => hsl.response _ (by rw [‹change.phase = _›]; rfl)⟩

theorem released_step (hs : ∀ change ∈ s.changes, change.Slotted)
    (h : ∀ change ∈ s.changes, change.Released) (ht : step s label = some t) :
    ∀ change ∈ t.changes, change.Released := by
  obtain ⟨-, hch, -⟩ := step_moves ht
  cases hch with
  | same hc => rwa [hc]
  | called route subscribe correlationId hc =>
    rw [hc]
    refine forall_mem_concat h ?_
    constructor <;> simp
  | observed mutation _ _ _ _ hc =>
    rw [hc]
    intro change hm
    obtain ⟨j, hj⟩ := mem_iff_getElem?.mp hm
    obtain ⟨before, hb, rfl⟩ := RealtimeClient.observeResponse_getElem? hj
    have hbe := h before (mem_of_getElem? hb)
    exact ⟨hbe.send, hbe.response⟩
  | stepped j input now fresh tooLarge hl =>
    subst hl
    obtain ⟨next, hc, hne⟩ := released_stepChange hs h ht
    rw [hc]
    exact forall_mem_set h hne

structure Accompanied (k : Nat) (s : RealtimeClient) (shadow : Tables) : Prop where
  beside : Beside k s shadow
  released : ∀ change ∈ s.changes, change.Released

theorem Accompanied.step (h : Accompanied k s shadow) (hu : s.undisturbed label = true)
    (ht : step s label = some t) :
    Accompanied k t
      (if label.isStepOf k then shadow else (s.effect label).elim shadow shadow.perform) :=
  ⟨h.beside.step hu ht, released_step h.beside.slots.slotted h.released ht⟩

theorem accompanied_initial (options : RealtimeClientOptions) : Accompanied k { options } {} := by
  refine ⟨⟨RealtimeClient.slotsKept_initial options, exclusive_initial options,
    nodup_nil, ?_⟩, fun _ hm => nomatch hm⟩
  rw [getElem?_nil]
  exact ⟨rfl, rfl, fun _ => Iff.rfl, nodup_nil⟩

/-- When a call has failed, its route is subscribed just if it would be without the call, only
the commands of others are pending, and the call holds no slot. -/
theorem failed_change_undone {options : RealtimeClientOptions} {labels : List Label}
    (hok : (stepBeside k).Along (fun s label => s.1.undisturbed label = true) ({ options }, {})
      labels)
    (h : (stepBeside k).run ({ options }, {}) labels = some (s, shadow))
    (hk : s.changes[k]? = some change) (hp : change.phase = .finished)
    (hf : change.failed = true) :
    (change.route ∈ s.subscriptions ↔ change.route ∈ shadow.subscriptions) ∧
      s.pendingSubscriptionMutations = shadow.pending ∧
      change.sendSlots = 0 ∧ change.responseSlots = 0 := by
  have hac : Accompanied k s shadow := by
    refine StepFn.run_induct_along (P := fun s => Accompanied k s.1 s.2) ?_
      (accompanied_initial options) hok h
    intro s label t hs hu ht
    obtain ⟨hst, hsh⟩ := stepBeside_eq_some.mp ht
    rw [hsh]
    exact hs.step hu hst
  have hag : Agree s.tables shadow := by
    have hfo := hac.beside.follows
    rw [hk] at hfo
    have he : change.phase.era = .late := by rw [hp]; rfl
    simp only [Follows, he] at hfo
    exact hfo hf
  have hre := hac.released change (mem_of_getElem? hk)
  refine ⟨(hag.subscriptions change.route).symm, hag.pending.symm, ?_, ?_⟩
  · simp [SubscriptionChange.sendSlots, hp, hre.send (.inr (.inr hp))]
  · simp [SubscriptionChange.responseSlots, hp, hre.response (.inr hp)]

/-- A call of `UnsubscribeAsync` is cancelled while it waits for a response slot. -/
def exampleCancelled : List Label :=
  exampleSubscribe ++ [.change (utf16 "orders") false (some [2])] ++ changeSteps 1 12 ++
    [.changeStep 1 (.failed .cancelled) exampleClock exampleFresh false] ++ changeSteps 1 6

theorem failed_change_undone_cancelled : ∃ (s : RealtimeClient) (shadow : Tables)
    (change : SubscriptionChange),
    (stepBeside 1).run ({ options := {} }, {}) exampleCancelled = some (s, shadow) ∧
      s.changes[1]? = some change ∧ change.route = utf16 "orders" ∧
      shadow.subscriptions = [utf16 "orders"] ∧
      (change.route ∈ s.subscriptions ↔ change.route ∈ shadow.subscriptions) ∧
      s.pendingSubscriptionMutations = shadow.pending ∧
      change.sendSlots = 0 ∧ change.responseSlots = 0 := by
  have hr : ∃ p, (stepBeside 1).run ({ options := {} }, {}) exampleCancelled = some p ∧
      p.2.subscriptions = [utf16 "orders"] ∧ ∃ change, p.1.changes[1]? = some change ∧
        change.phase.isFinished = true ∧ change.failed = true ∧ change.route = utf16 "orders" := by
    decide +kernel
  have hok : (stepBeside 1).Along (fun s label => s.1.undisturbed label = true)
      ({ options := {} }, {}) exampleCancelled := by decide +kernel
  obtain ⟨⟨s, shadow⟩, hs, hro, change, hk, hph, hfa, hrou⟩ := hr
  have hfi : change.phase = .finished := by
    unfold ChangePhase.isFinished at hph
    split at hph
    · assumption
    · cases hph
  exact ⟨s, shadow, change, hs, hk, hrou, hro,
    failed_change_undone hok hs hk hfi hfa⟩

/-- A call of `UnsubscribeAsync` waits for a response slot. The response to the subscribe
command before it arrives, the connection breaks, and the call fails. -/
def exampleForgotten : List Label :=
  connectSteps ++ [.change (utf16 "orders") true (some [1])] ++ changeSteps 0 23 ++ sendSteps ++
    [.change (utf16 "orders") false (some [2])] ++ changeSteps 1 12 ++ answerSteps ++ breakSteps ++
    changeSteps 1 9

theorem failed_change_forgets_route : ∃ (s : RealtimeClient) (shadow : Tables),
    (stepBeside 1).run ({ options := {} }, {}) exampleForgotten = some (s, shadow) ∧
      (∃ change, s.changes[1]? = some change ∧ change.route = utf16 "orders" ∧
        change.phase.isFinished = true ∧ change.failed = true) ∧
      s.subscriptions = [] ∧ shadow.subscriptions = [utf16 "orders"] := by
  have hr : ∃ p, (stepBeside 1).run ({ options := {} }, {}) exampleForgotten = some p ∧
      (∃ change, p.1.changes[1]? = some change ∧ change.route = utf16 "orders" ∧
        change.phase.isFinished = true ∧ change.failed = true) ∧
      p.1.subscriptions = [] ∧ p.2.subscriptions = [utf16 "orders"] := by decide +kernel
  exact Prod.exists.mp hr

end Realtime.Client
