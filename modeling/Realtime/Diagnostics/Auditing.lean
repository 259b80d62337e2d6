import Realtime.Diagnostics.Threads
import Realtime.Diagnostics.Repeats

/-! The overrides of a controller under concurrent calls: no two live ones of one category
and scope, no more than the limit for one instance, and for every object that was stored
one applied entry and, once it is removed, one reverted or expired entry of the call that
removed it. The last part needs that no id is stored again while a sweep that began before
still has to reach an older object of that id. -/

namespace Realtime.Diagnostics

open List

def Goal.request : Goal → Option LogLevelChangeRequest
  | .apply request .. | .validate request => some request
  | _ => none

def Goal.id : Goal → Option OverrideId
  | .apply _ _ id _ => some id
  | _ => none

namespace ThreadPhase

def locked : ThreadPhase → Bool
  | .validating | .counting | .searching | .checking _ | .naming | .lookingUp _ | .levelling ..
  | .storing .. | .auditing .. | .unlocking _ => true
  | _ => false

def counted : ThreadPhase → Bool
  | .searching | .checking _ | .naming | .lookingUp _ | .levelling .. | .storing .. => true
  | _ => false

def unchecked : ThreadPhase → Option (List Application)
  | .checking items => some items
  | .naming | .lookingUp _ | .levelling .. | .storing .. => some []
  | _ => none

def absent : ThreadPhase → Bool
  | .levelling .. | .storing .. => true
  | _ => false

def reverting : ThreadPhase → List Application
  | .timing item | .calling item _ | .relevelling item _ _ | .recording item _ _ => [item]
  | _ => []

def applying : ThreadPhase → List Application
  | .auditing active _ => [active]
  | _ => []

variable {phase : ThreadPhase}

theorem locked_of_counted (h : phase.counted = true) :
    phase.locked = true := by
  cases phase <;> first | rfl | cases h

theorem locked_of_unchecked {items : List Application} (h : phase.unchecked = some items) :
    phase.locked = true := by
  cases phase <;> first | rfl | cases h

theorem locked_of_absent (h : phase.absent = true) :
    phase.locked = true := by
  cases phase <;> first | rfl | cases h

end ThreadPhase

namespace SweepPhase

def items : SweepPhase → List Application
  | .starting => []
  | .next items | .removed _ items | .auditing _ _ items => items

def expiring : SweepPhase → List Application
  | .removed item _ | .auditing item _ _ => [item]
  | _ => []

end SweepPhase

namespace Call

def items (call : Call) : List Application :=
  match call.sweep with
  | some sweep => sweep.phase.items
  | none => []

def ending (call : Call) : List Application :=
  (match call.sweep with
    | some sweep => sweep.phase.expiring
    | none => []) ++ call.phase.reverting

def running (call : Call) : Bool :=
  call.sweep.isSome ||
    match call.phase with
    | .returned _ => false
    | _ => true

variable {o : Application}

theorem running_of_applying (call : Call) (h : o ∈ call.phase.applying) :
    call.running = true := by
  unfold ThreadPhase.applying at h
  split at h
  · next hph => simp [running, hph]
  · cases h

theorem running_of_ending (call : Call) (h : o ∈ call.ending) :
    call.running = true := by
  unfold ending at h
  split at h
  · next hsw => simp [running, hsw]
  · rw [nil_append] at h
    unfold ThreadPhase.reverting at h
    split at h
    case h_5 => cases h
    all_goals
      next hph => simp [running, hph]

/-- What a call that holds the lock has found out about the dictionary. -/
structure Knows (s : SharedController) (call : Call) : Prop where
  counted : ∀ request, call.goal.request = some request → call.phase.counted = true →
    request.scope = utf16 "instance" → s.instanceCount < s.options.maximumDetailItems
  searched : ∀ request items, call.goal.request = some request →
    call.phase.unchecked = some items → ∀ o ∈ s.overrides, o.rivals request = true →
      s.now < o.override.expiresAt → o ∈ items
  absent : ∀ id, call.goal.id = some id → call.phase.absent = true →
    ∀ o ∈ s.overrides, o.override.id ≠ id

theorem knows_of_blank {s : SharedController} {call : Call} (hc : call.phase.counted = false)
    (hu : call.phase.unchecked = none) (ha : call.phase.absent = false) : call.Knows s := by
  refine ⟨fun _ _ h => ?_, fun _ _ _ h => ?_, fun _ _ h => ?_⟩
  · exact nomatch hc.symm.trans h
  · exact nomatch hu.symm.trans h
  · exact nomatch ha.symm.trans h

theorem knows_of_not_locked {s : SharedController} {call : Call} (h : call.phase.locked = false) :
    call.Knows s := by
  refine ⟨fun _ _ hc => ?_, fun _ _ _ hu => ?_, fun _ _ ha => ?_⟩
  · exact nomatch h.symm.trans (ThreadPhase.locked_of_counted hc)
  · exact nomatch h.symm.trans (ThreadPhase.locked_of_unchecked hu)
  · exact nomatch h.symm.trans (ThreadPhase.locked_of_absent ha)

theorem Knows.shrink {s t : SharedController} {call : Call} (h : call.Knows s)
    (hsub : t.overrides.Sublist s.overrides) (hnow : s.now ≤ t.now)
    (hop : t.options = s.options) : call.Knows t := by
  refine ⟨?_, ?_, ?_⟩
  · intro request hr hc hsc
    have hlt := h.counted request hr hc hsc
    have hle : t.instanceCount ≤ s.instanceCount := hsub.countP_le
    rw [hop]
    omega
  · intro request items hr hu o ho hri hli
    exact h.searched request items hr hu o (hsub.subset ho) hri (by omega)
  · intro id hid ha o ho
    exact h.absent id hid ha o (hsub.subset ho)

end Call

namespace SharedController

structure Next (s : SharedController) (k : Nat) (call call' : Call) (lock : Option Nat) :
    Prop where
  knows : call.Knows s → call'.Knows s
  others : lock = s.lock ∨ (s.lock = none ∧ lock = some k) ∨
    (call.phase.locked = true ∧ lock = none)
  locked : call'.phase.locked = true →
    lock = some k ∨ (lock = s.lock ∧ call.phase.locked = true)
  items : ∀ item ∈ call'.items, item ∈ call.items ∨ item ∈ s.overrides

/-- What a step of call `k` does to what is shared. -/
inductive Advance (s : SharedController) (k : Nat) (call : Call) : SharedController → Prop where
  | quiet {call' : Call} (lock : Option Nat) (next : s.Next k call call' lock)
      (ending : call'.ending = call.ending)
      (applying : call'.phase.applying = call.phase.applying) :
      Advance s k call ({ s with lock }.setCall k call')
  | remove {call' : Call} {o : Application} (about : Application)
      (next : s.Next k call call' s.lock)
      (found : s.find about.override.id = some o) (which : about = o ∨ about ∈ call.items)
      (ending : call'.ending = about :: call.ending)
      (applying : call'.phase.applying = call.phase.applying) :
      Advance s k call ((s.removed k o).setCall k call')
  | finish {call' : Call} {a : Application} {entry : LogLevelAuditEntry}
      (next : s.Next k call call' s.lock) (outcome : entry.outcome ≠ .applied)
      (ending : call.ending = a :: call'.ending)
      (applying : call'.phase.applying = call.phase.applying) :
      Advance s k call ((s.generate k a entry).setCall k call')
  | store {call' : Call} {request : LogLevelChangeRequest} {actor : Text} {id : OverrideId}
      {started : Option Nat} {active : Application} {previous : LogLevel} {startedAt : Nat}
      (sweep : call.sweep = none) (goal : call.goal = .apply request actor id started)
      (phase : call.phase = .storing startedAt previous)
      (serial : active.serial = s.stores.length) (hid : active.override.id = id)
      (category : active.override.category = trim request.category)
      (scope : active.override.scope = request.scope)
      (next : call' = call.goto (.auditing active previous)) :
      Advance s k call ({ s with
        overrides := s.overrides.filter (fun (o : Application) => o.override.id != id) ++ [active]
        stores := s.stores ++ [(active, k)] }.setCall k call')
  | apply {call' : Call} {about : Application} {entry : LogLevelAuditEntry}
      (next : s.Next k call call' s.lock) (outcome : entry.outcome = .applied)
      (ending : call'.ending = call.ending) (applied : call.phase.applying = [about])
      (applying : call'.phase.applying = []) :
      Advance s k call ((s.generate k about entry).setCall k call')

variable {s t : SharedController} {k : Nat} {call call' : Call} {sweep : Sweep}

variable {id : OverrideId} {o : Application} {phase : ThreadPhase} {request : LogLevelChangeRequest}
  {applied : Bool}

theorem find_id (h : s.find id = some o) :
    o.override.id = id := by
  have hbeq := find?_some h
  exact eq_of_beq hbeq

theorem mem_of_find (h : s.find id = some o) :
    o ∈ s.overrides := mem_of_find?_eq_some h

theorem Next.of_phase (hgo : call'.goal = call.goal) (hph : call'.phase = call.phase)
    (hite : ∀ item ∈ call'.items, item ∈ call.items ∨ item ∈ s.overrides) :
    s.Next k call call' s.lock := by
  refine ⟨?_, .inl rfl, ?_, hite⟩
  · rintro ⟨hc, hs, ha⟩
    constructor
    · rwa [hgo, hph]
    · rwa [hgo, hph]
    · rwa [hgo, hph]
  · intro hl
    rw [hph] at hl
    exact .inr ⟨rfl, hl⟩

theorem advance_sweep (h : call.sweep = some sweep) :
    s.Advance k call (s.stepSweep k call sweep) := by
  have hite {phase : SweepPhase} (hsub : ∀ item ∈ phase.items,
      item ∈ sweep.phase.items ∨ item ∈ s.overrides) :
      s.Next k call { call with sweep := some { sweep with phase } } s.lock := by
    refine .of_phase rfl rfl ?_
    intro item hitem
    have hrea : call.items = sweep.phase.items := by simp only [Call.items, h]
    rw [hrea]
    exact hsub item hitem
  unfold stepSweep
  split
  · next hp =>
    refine .quiet s.lock (hite (fun item hi => .inr hi)) ?_ rfl
    simp [Call.ending, h, hp, SweepPhase.expiring]
  · next hp =>
    refine .quiet s.lock (.of_phase rfl rfl (fun item hi => nomatch hi)) ?_ rfl
    simp [Call.ending, h, hp, SweepPhase.expiring]
  · next item items hp =>
    have hre : ∀ i ∈ items, i ∈ sweep.phase.items ∨ i ∈ s.overrides := by
      intro i hi
      rw [hp]
      exact .inl (mem_cons_of_mem item hi)
    have hqu : s.Advance k call
        (s.setCall k { call with sweep := some { sweep with phase := .next items } }) := by
      refine .quiet s.lock (hite hre) ?_ rfl
      simp [Call.ending, h, hp, SweepPhase.expiring]
    split
    · split
      · next o ho =>
        refine .remove item (hite hre) ho (.inr ?_) ?_ rfl
        · simp [Call.items, h, hp, SweepPhase.items]
        · simp [Call.ending, h, hp, SweepPhase.expiring]
      · exact hqu
    · exact hqu
  · next item items hp =>
    refine .quiet s.lock (hite ?_) ?_ rfl
    · intro i hi
      rw [hp]
      exact .inl hi
    · simp [Call.ending, h, hp, SweepPhase.expiring]
  · next item level items hp =>
    refine .finish (hite ?_) (fun hout => nomatch hout) ?_ rfl
    · intro i hi
      rw [hp]
      exact .inl hi
    · simp [Call.ending, h, hp, SweepPhase.expiring]

theorem Next.of_locked (hitems : call'.items = []) (hkn : call.Knows s → call'.Knows s)
    (hlo : call'.phase.locked = true → call.phase.locked = true) :
    s.Next k call call' s.lock := by
  refine ⟨hkn, .inl rfl, fun h => .inr ⟨rfl, hlo h⟩, ?_⟩
  intro item hite
  rw [hitems] at hite
  cases hite

theorem Advance.goto (hite : call'.items = [])
    (hlo : call'.phase.locked = true → call.phase.locked = true)
    (hen : call'.ending = call.ending) (hap : call'.phase.applying = call.phase.applying)
    (hkn : call.Knows s → call'.Knows s) : s.Advance k call (s.setCall k call') :=
  .quiet s.lock (.of_locked hite hkn hlo) hen hap

section

variable [DiagnosticsRuntime] {goal : Goal}

theorem advance_validate {next : ThreadPhase} (hre : goal.request = some request)
    (hun : next.unchecked = some [] ∨ (next.unchecked = none ∧ next.counted = false))
    (hab : next.absent = false) (hrev : next.reverting = []) (hap : next.applying = [])
    (h : s.stepValidate k ⟨goal, none, phase⟩ request next = some t) :
    s.Advance k ⟨goal, none, phase⟩ t := by
  unfold stepValidate at h
  dsimp only at h
  split at h
  · split at h
    · next hfr =>
      cases h
      exact .quiet (some k) ⟨fun _ => Call.knows_of_blank rfl rfl rfl, .inr (.inl ⟨hfr, rfl⟩),
        fun _ => .inl rfl, fun _ hi => nomatch hi⟩ rfl rfl
    · cases h
  · split at h
    · cases h
      exact .goto rfl (fun _ => rfl) rfl rfl (fun _ => Call.knows_of_blank rfl rfl rfl)
    · cases h
      exact .goto rfl (fun _ => rfl) rfl rfl (fun _ => Call.knows_of_blank rfl rfl rfl)
  · split at h
    · cases h
      exact .goto rfl (fun _ => rfl) rfl rfl (fun _ => Call.knows_of_blank rfl rfl rfl)
    · next hlim =>
      cases h
      refine .goto rfl (fun _ => rfl) rfl rfl (fun _ => ?_)
      refine ⟨?_, (fun _ _ _ hu => nomatch hu), (fun _ _ ha => nomatch ha)⟩
      intro other hot _ hsc
      cases hre.symm.trans hot
      exact Nat.lt_of_not_le (fun hle => hlim ⟨hsc, hle⟩)
  · cases h
    refine .goto rfl (fun _ => rfl) rfl rfl (fun hkn => ?_)
    refine ⟨fun other hot _ => hkn.counted other hot rfl, ?_, fun _ _ ha => nomatch ha⟩
    intro _ items _ hite o ho _ _
    cases hite
    exact ho
  · next item items =>
    split at h
    · cases h
      exact .goto rfl (fun _ => rfl) rfl rfl (fun _ => Call.knows_of_blank rfl rfl rfl)
    · next hri =>
      cases h
      refine .goto rfl (fun _ => rfl) rfl rfl (fun hkn => ?_)
      refine ⟨fun other hot _ => hkn.counted other hot rfl, ?_, fun _ _ ha => nomatch ha⟩
      intro other rest hot hres o ho hma hli
      cases hre.symm.trans hot
      cases hres
      rcases mem_cons.mp (hkn.searched request (item :: items) hre rfl o ho hma hli) with
        rfl | hmem
      · simp [hma, hli] at hri
      · exact hmem
  · cases h
    refine .goto rfl (fun _ => rfl) hrev hap (fun hkn => ?_)
    rcases hun with hun | ⟨hun, hco⟩
    · refine ⟨fun other hot _ => hkn.counted other hot rfl, ?_, ?_⟩
      · intro other items hot hite o ho hma hli
        cases hun.symm.trans hite
        exact hkn.searched other [] hot rfl o ho hma hli
      · intro _ _ ha
        exact absurd (hab.symm.trans ha) Bool.false_ne_true
    · exact Call.knows_of_blank hco hun hab
  · cases h
    exact .quiet none ⟨fun _ => Call.knows_of_blank rfl rfl rfl, .inr (.inr ⟨rfl, rfl⟩),
      (fun hl => nomatch hl), fun _ hi => nomatch hi⟩ rfl rfl
  · cases h

theorem advance_apply {actor : Text} {startedAt : Option Nat}
    (h : s.stepApply k ⟨.apply request actor id startedAt, none, phase⟩ request actor id startedAt =
      some t) : s.Advance k ⟨.apply request actor id startedAt, none, phase⟩ t := by
  unfold stepApply at h
  dsimp only at h
  split at h
  · cases h
    refine .goto rfl (fun _ => rfl) rfl rfl (fun hkn => ?_)
    exact ⟨fun other hot _ => hkn.counted other hot rfl,
      fun other items hot hite => hkn.searched other items hot hite, fun _ _ ha => nomatch ha⟩
  · split at h
    · cases h
      exact .goto rfl (fun _ => rfl) rfl rfl (fun _ => Call.knows_of_blank rfl rfl rfl)
    · next hno =>
      cases h
      refine .goto rfl (fun _ => rfl) rfl rfl (fun hkn => ?_)
      refine ⟨fun other hot _ => hkn.counted other hot rfl,
        fun other items hot hite => hkn.searched other items hot hite, ?_⟩
      intro other hot _ o ho
      cases hot
      simpa using find?_eq_none.mp hno o ho
  · cases h
    refine .goto rfl (fun _ => rfl) rfl rfl (fun hkn => ?_)
    exact ⟨fun other hot _ => hkn.counted other hot rfl,
      fun other items hot hite => hkn.searched other items hot hite,
      fun other hot _ => hkn.absent other hot rfl⟩
  · cases h
    exact .store rfl rfl rfl rfl rfl rfl rfl rfl
  · cases h
    exact .apply (.of_locked rfl (fun _ => Call.knows_of_blank rfl rfl rfl) (fun _ => rfl))
      rfl rfl rfl rfl
  · exact advance_validate rfl (.inl rfl) rfl rfl rfl h

theorem advance_revert {actor reason : Text}
    (h : s.stepRevert k ⟨goal, none, phase⟩ id actor reason = some t) :
    s.Advance k ⟨goal, none, phase⟩ t := by
  have hfr {call' : Call} (hite : call'.items = []) (hl : call'.phase.locked = false) :
      s.Next k ⟨goal, none, phase⟩ call' s.lock :=
    .of_locked hite (fun _ => Call.knows_of_not_locked hl)
      (fun hp => absurd (hl.symm.trans hp) Bool.false_ne_true)
  unfold stepRevert at h
  dsimp only at h
  split at h
  · split at h
    · next o ho =>
      cases h
      refine .remove o (hfr rfl rfl) ?_ (.inl rfl) rfl rfl
      rw [find_id ho]
      exact ho
    · cases h
      exact .quiet s.lock (hfr rfl rfl) rfl rfl
  · cases h
    exact .quiet s.lock (hfr rfl rfl) rfl rfl
  · cases h
    exact .quiet s.lock (hfr rfl rfl) rfl rfl
  · cases h
    exact .quiet s.lock (hfr rfl rfl) rfl rfl
  · cases h
    exact .finish (hfr rfl rfl) (fun hout => nomatch hout) rfl rfl
  · cases h

theorem advance_call (hsw : call.sweep = none) (h : s.stepCall k call = some t) :
    s.Advance k call t := by
  obtain ⟨goal, sweep, phase⟩ := call
  cases hsw
  unfold stepCall at h
  dsimp only at h
  split at h
  · exact advance_apply h
  · exact advance_validate rfl (.inr ⟨rfl, rfl⟩) rfl rfl rfl h
  · exact advance_revert h
  · split at h
    · cases h
      exact .goto rfl (fun hl => nomatch hl) rfl rfl (fun _ => Call.knows_of_not_locked rfl)
    · cases h

/-- The steps of the calls are the only ones that change more than the clock and the list
of the calls. -/
theorem step_cases {label : ThreadLabel} (h : step s label = some t) :
    (∃ milliseconds, label = .tick milliseconds ∧ t = { s with now := s.now + milliseconds }) ∨
      (∃ goal, label = .call goal ∧ t = { s with calls := s.calls ++ [goal.start] }) ∨
      ∃ k call, label = .step k ∧ s.calls[k]? = some call ∧ s.Advance k call t := by
  unfold step at h
  split at h
  · next milliseconds =>
    cases h
    exact .inl ⟨milliseconds, rfl, rfl⟩
  · next goal =>
    cases h
    exact .inr (.inl ⟨goal, rfl, rfl⟩)
  · next k =>
    split at h
    · cases h
    · next call hca =>
      refine .inr (.inr ⟨k, call, rfl, hca, ?_⟩)
      split at h
      · next sweep hsw =>
        cases h
        exact advance_sweep hsw
      · next hsw => exact advance_call hsw h

end

/-- What the lock guards. -/
structure Ordered (s : SharedController) : Prop where
  keys : (s.overrides.map (·.override.id)).Nodup
  unique : ∀ o ∈ s.overrides, ∀ p ∈ s.overrides, o.override.category = p.override.category →
    o.override.scope = p.override.scope → s.now < o.override.expiresAt →
    s.now < p.override.expiresAt → o = p
  limit : s.instanceCount ≤ s.options.maximumDetailItems
  locked : ∀ k call, s.calls[k]? = some call → call.phase.locked = true → s.lock = some k
  knows : ∀ (k : Nat) (call : Call), s.calls[k]? = some call → call.Knows s

theorem Ordered.inj (h : s.Ordered) {o p : Application} (ho : o ∈ s.overrides)
    (hp : p ∈ s.overrides) (hid : o.override.id = p.override.id) : o = p :=
  inj_on_of_nodup_map h.keys ho hp hid

theorem Ordered.shrink (h : s.Ordered) (hca : s.calls[k]? = some call) {lock : Option Nat}
    (hne : s.Next k call call' lock) (hcal : t.calls = s.calls.set k call')
    (hlo : t.lock = lock) (hnow : t.now = s.now) (hop : t.options = s.options)
    (hsub : t.overrides.Sublist s.overrides) : t.Ordered := by
  refine ⟨h.keys.sublist (hsub.map _), ?_, ?_, ?_, ?_⟩
  · intro o ho p hp
    rw [hnow]
    exact h.unique o (hsub.subset ho) p (hsub.subset hp)
  · rw [hop]
    exact le_trans hsub.countP_le h.limit
  · intro j other hot hl
    rw [hcal] at hot
    rw [hlo]
    rcases getElem?_set_cases hot with ⟨rfl, rfl⟩ | ⟨hj, hot⟩
    · rcases hne.locked hl with hk | ⟨hs, hl⟩
      · exact hk
      · rw [hs]
        exact h.locked j call hca hl
    · have hhe := h.locked j other hot hl
      rcases hne.others with hs | ⟨hs, -⟩ | ⟨hl, -⟩
      · rw [hs]
        exact hhe
      · rw [hs] at hhe
        cases hhe
      · rw [h.locked k call hca hl] at hhe
        exact absurd (Option.some.inj hhe).symm hj
  · intro j other hot
    rw [hcal] at hot
    rcases getElem?_set_cases hot with ⟨rfl, rfl⟩ | ⟨-, hot⟩
    · exact (hne.knows (h.knows j call hca)).shrink hsub hnow.ge hop
    · exact (h.knows j other hot).shrink hsub hnow.ge hop

theorem filter_absent {id : OverrideId} (h : ∀ o ∈ s.overrides, o.override.id ≠ id) :
    s.overrides.filter (fun o => o.override.id != id) = s.overrides := by
  rw [filter_eq_self]
  intro o ho
  exact bne_iff_ne.mpr (h o ho)

theorem Ordered.store (h : s.Ordered) {actor : Text} {started : Option Nat} {active : Application}
    {previous : LogLevel} {startedAt : Nat}
    (hcall : s.calls[k]? = some ⟨.apply request actor id started, none, .storing startedAt previous⟩)
    (hid : active.override.id = id) (hca : active.override.category = trim request.category)
    (hsc : active.override.scope = request.scope)
    (hcal : t.calls = s.calls.set k
      ⟨.apply request actor id started, none, .auditing active previous⟩)
    (hloc : t.lock = s.lock) (hnow : t.now = s.now) (hop : t.options = s.options)
    (hov : t.overrides = s.overrides ++ [active]) : t.Ordered := by
  have hkn := h.knows k _ hcall
  have hhe : s.lock = some k := h.locked k _ hcall rfl
  have hab : ∀ o ∈ s.overrides, o.override.id ≠ id := hkn.absent id rfl rfl
  have hri : ∀ o ∈ s.overrides, o.override.category = active.override.category →
      o.override.scope = active.override.scope → ¬ s.now < o.override.expiresAt := by
    intro o ho hc hs hli
    have hmem := hkn.searched request [] rfl rfl o ho
      (by simp [Application.rivals, hc, hs, hca, hsc]) hli
    cases hmem
  refine ⟨?_, ?_, ?_, ?_, ?_⟩
  · rw [hov, map_append, nodup_append]
    refine ⟨h.keys, nodup_singleton _, ?_⟩
    intro a ha b hb
    obtain ⟨o, ho, rfl⟩ := mem_map.mp ha
    rw [map_singleton, mem_singleton] at hb
    rw [hb, hid]
    exact hab o ho
  · intro o ho p hp hc hs hlo hlp
    rw [hnow] at hlo hlp
    rw [hov, mem_append, mem_singleton] at ho hp
    rcases ho with ho | rfl
    · rcases hp with hp | rfl
      · exact h.unique o ho p hp hc hs hlo hlp
      · exact absurd hlo (hri o ho hc hs)
    · rcases hp with hp | rfl
      · exact absurd hlp (hri p hp hc.symm hs.symm)
      · rfl
  · have hco : t.instanceCount = s.instanceCount +
        (if active.override.scope == utf16 "instance" then 1 else 0) := by
      unfold instanceCount
      rw [hov, countP_append, countP_singleton]
    rw [hop, hco]
    split
    · next hi =>
      exact hkn.counted request rfl rfl (hsc.symm.trans (eq_of_beq hi))
    · exact h.limit
  · intro j other hot hl
    rw [hcal] at hot
    rw [hloc]
    rcases getElem?_set_cases hot with ⟨rfl, -⟩ | ⟨-, hot⟩
    · exact hhe
    · exact h.locked j other hot hl
  · intro j other hot
    rw [hcal] at hot
    rcases getElem?_set_cases hot with ⟨rfl, rfl⟩ | ⟨hj, hot⟩
    · exact Call.knows_of_blank rfl rfl rfl
    · apply Call.knows_of_not_locked
      rw [Bool.eq_false_iff]
      intro hl
      exact hj (Option.some.inj ((h.locked j other hot hl).symm.trans hhe))

theorem start_not_locked (goal : Goal) : goal.start.phase.locked = false := by
  cases goal <;> rfl

theorem Ordered.step [DiagnosticsRuntime] {label : ThreadLabel} (h : s.Ordered)
    (hs : SharedController.step s label = some t) : t.Ordered := by
  rcases step_cases hs with ⟨milliseconds, -, rfl⟩ | ⟨goal, -, rfl⟩ | ⟨k, call, -, hca, ha⟩
  · refine ⟨h.keys, ?_, h.limit, h.locked, ?_⟩
    · intro o ho p hp hc hsc hlo hlp
      dsimp only at hlo hlp
      exact h.unique o ho p hp hc hsc (by omega) (by omega)
    · intro j call hca
      exact (h.knows j call hca).shrink (Sublist.refl _) (Nat.le_add_right _ _) rfl
  · refine ⟨h.keys, h.unique, h.limit, ?_, ?_⟩
    · intro j call hca hl
      rcases getElem?_append_singleton_cases hca with hca | ⟨-, rfl⟩
      · exact h.locked j call hca hl
      · rw [start_not_locked] at hl
        cases hl
    · intro j call hca
      rcases getElem?_append_singleton_cases hca with hca | ⟨-, rfl⟩
      · exact (h.knows j call hca).shrink (Sublist.refl _) le_rfl rfl
      · exact Call.knows_of_not_locked (start_not_locked goal)
  · cases ha with
    | quiet lock hne => exact h.shrink hca hne rfl rfl rfl rfl (Sublist.refl _)
    | remove about hne => exact h.shrink hca hne rfl rfl rfl rfl filter_sublist
    | finish hne => exact h.shrink hca hne rfl rfl rfl rfl (Sublist.refl _)
    | apply hne => exact h.shrink hca hne rfl rfl rfl rfl (Sublist.refl _)
    | store hsw hgo hph hse hid hcat hsc hne =>
      obtain ⟨goal, sweep, phase⟩ := call
      cases hsw
      cases hgo
      cases hph
      subst hne
      refine h.store hca hid hcat hsc rfl rfl rfl rfl ?_
      exact congrArg (· ++ _) (filter_absent ((h.knows k _ hca).absent _ rfl rfl))

/-- What call `k` still has to audit, as removed or as applied. -/
def ending (s : SharedController) (k : Nat) : List Application :=
  match s.calls[k]? with
  | some call => call.ending
  | none => []

def applying (s : SharedController) (k : Nat) : List Application :=
  match s.calls[k]? with
  | some call => call.phase.applying
  | none => []

def entries (s : SharedController) (applied : Bool) : List (Application × Nat) :=
  (s.generated.filter (fun g => decide (g.entry.outcome = .applied) == applied)).map
    (fun g => (g.about, g.call))

theorem ending_eq (k : Nat) : s.ending k = s.calls[k]?.elim [] Call.ending := by
  unfold ending
  cases s.calls[k]? <;> rfl

theorem applying_eq (k : Nat) : s.applying k = s.calls[k]?.elim [] (·.phase.applying) := by
  unfold applying
  cases s.calls[k]? <;> rfl

theorem elim_set {calls : List Call} {f : Call → List Application} (h : calls[k]? = some call)
    (j : Nat) : (calls.set k call')[j]?.elim [] f = if j = k then f call' else calls[j]?.elim [] f := by
  by_cases hj : j = k
  · subst hj
    have hlt : j < calls.length := (List.getElem?_eq_some_iff.mp h).1
    simp [hlt]
  · simp [getElem?_set_ne (Ne.symm hj), hj]

theorem elim_append {calls : List Call} {f : Call → List Application} (h : f call = []) (j : Nat) :
    (calls ++ [call])[j]?.elim [] f = calls[j]?.elim [] f := by
  cases hj : (calls ++ [call])[j]? with
  | none =>
    rw [List.getElem?_eq_none_iff, length_append] at hj
    rw [getElem?_eq_none (by omega)]
  | some other =>
    rcases getElem?_append_singleton_cases hj with hj | ⟨rfl, rfl⟩
    · rw [hj]
    · rw [getElem?_eq_none le_rfl]
      exact h

/-- Every object is stored once and removed at most once, and each of these is followed by
one entry of the call that did it. -/
structure Audited (s : SharedController) : Prop where
  serials : ∀ (i : Nat) (p : Application × Nat), s.stores[i]? = some p → p.1.serial = i
  kept : ∀ o, (s.stores.map Prod.fst).count o =
    s.overrides.count o + (s.removals.map Prod.fst).count o
  applied : ∀ o k, s.stores.count (o, k) =
    (s.entries true).count (o, k) + (s.applying k).count o
  ended : ∀ o k, s.removals.count (o, k) =
    (s.entries false).count (o, k) + (s.ending k).count o
  snapshots : ∀ (k : Nat) (call : Call), s.calls[k]? = some call → ∀ item ∈ call.items,
    ∀ o ∈ s.overrides, o.override.id = item.override.id → o = item

def storesId (s : SharedController) : ThreadLabel → Option OverrideId
  | .step k =>
    match s.calls[k]? with
    | some ⟨.apply _ _ id _, none, .storing _ _⟩ => some id
    | _ => none
  | _ => none

/-- No sweep still has to reach an object with the id that the step stores. -/
def apart (s : SharedController) (label : ThreadLabel) : Bool :=
  match s.storesId label with
  | some id => s.calls.all (fun call => call.items.all (fun item => item.override.id != id))
  | none => true

theorem count_removed (h : s.Ordered) (ho : o ∈ s.overrides) (x : Application) :
    s.overrides.count x = (s.removed k o).overrides.count x + [o].count x := by
  have hno : s.overrides.Nodup := h.keys.of_map _
  show _ = (s.overrides.filter (fun other => other.override.id != o.override.id)).count x + _
  rw [count_singleton]
  by_cases hid : x.override.id = o.override.id
  · have hgo : x ∉ s.overrides.filter (fun other => other.override.id != o.override.id) := by
      simp [hid]
    rw [count_eq_zero_of_not_mem hgo]
    by_cases hx : x = o
    · subst hx
      rw [count_eq_one_of_mem hno ho]
      simp
    · have hnot : x ∉ s.overrides := fun hmem => hx (h.inj hmem ho hid)
      rw [count_eq_zero_of_not_mem hnot]
      simp [Ne.symm hx]
  · have hx : o ≠ x := by
      rintro rfl
      exact hid rfl
    rw [count_filter (by simpa using hid)]
    simp [hx]

theorem count_paired (a : List Application) (o : Application) (j k : Nat) :
    (a.map (·, k)).count (o, j) = if j = k then a.count o else 0 := by
  split
  · next hj =>
    subst hj
    exact count_map_of_injective a (·, j) (fun x y hxy => (Prod.mk.inj hxy).1) o
  · next hj =>
    apply count_eq_zero_of_not_mem
    intro hmem
    obtain ⟨x, -, hx⟩ := mem_map.mp hmem
    exact hj (Prod.mk.inj hx).2.symm

/-- What call `k` still has to audit stays the difference of what it did and its entries. -/
theorem count_advance {done entries : List (Application × Nat)} {a e : List Application} {j : Nat}
    {f : Call → List Application} (hca : s.calls[k]? = some call)
    (hf : a.count o + (f call).count o = e.count o + (f call').count o)
    (h : done.count (o, j) = entries.count (o, j) + (s.calls[j]?.elim [] f).count o) :
    (done ++ a.map (·, k)).count (o, j) = (entries ++ e.map (·, k)).count (o, j) +
      ((s.calls.set k call')[j]?.elim [] f).count o := by
  rw [count_append, count_append, count_paired, count_paired, elim_set hca]
  by_cases hj : j = k
  · subst hj
    rw [hca, Option.elim_some] at h
    simp only [if_true]
    omega
  · simp only [hj, if_false]
    omega

/-- Call `k` stores `a`, removes `r` and generates the applied entries of `e` and the other
entries of `f`. -/
theorem Audited.advance (h : s.Audited) (hca : s.calls[k]? = some call)
    (hcal : t.calls = s.calls.set k call') {a r e f : List Application}
    (hst : t.stores = s.stores ++ a.map (·, k))
    (hre : t.removals = s.removals ++ r.map (·, k))
    (happ : t.entries true = s.entries true ++ e.map (·, k))
    (hend : t.entries false = s.entries false ++ f.map (·, k))
    (hse : a = [] ∨ ∃ active, a = [active] ∧ active.serial = s.stores.length)
    (hke : ∀ o, s.overrides.count o + a.count o = t.overrides.count o + r.count o)
    (hap : ∀ o, a.count o + call.phase.applying.count o =
      e.count o + call'.phase.applying.count o)
    (hen : ∀ o, r.count o + call.ending.count o = f.count o + call'.ending.count o)
    (hsn : ∀ (j : Nat) (other : Call), t.calls[j]? = some other → ∀ item ∈ other.items,
      ∀ o ∈ t.overrides, o.override.id = item.override.id → o = item) : t.Audited := by
  refine ⟨?_, ?_, ?_, ?_, hsn⟩
  · intro i p hp
    rw [hst] at hp
    rcases hse with rfl | ⟨active, rfl, hser⟩
    · rw [map_nil, append_nil] at hp
      exact h.serials i p hp
    · rw [map_singleton] at hp
      rcases getElem?_append_singleton_cases hp with hp | ⟨rfl, rfl⟩
      · exact h.serials i p hp
      · exact hser
  · intro o
    have hold := h.kept o
    have hnew := hke o
    rw [hst, hre, map_append, map_append, map_map, map_map,
      count_append, count_append]
    simp only [Function.comp_def, map_id']
    omega
  · intro o j
    rw [hst, happ, applying_eq, hcal]
    exact count_advance hca (hap o) ((h.applied o j).trans (by rw [applying_eq]))
  · intro o j
    rw [hre, hend, ending_eq, hcal]
    exact count_advance hca (hen o) ((h.ended o j).trans (by rw [ending_eq]))

theorem Audited.snapshots_shrink (h : s.Audited) (hs : s.Ordered) (hcal : s.calls[k]? = some call)
    {lock : Option Nat} (hne : s.Next k call call' lock)
    (hca : t.calls = s.calls.set k call') (hsub : t.overrides ⊆ s.overrides) (j : Nat)
    (other : Call) (hot : t.calls[j]? = some other) :
    ∀ item ∈ other.items, ∀ o ∈ t.overrides, o.override.id = item.override.id → o = item := by
  intro item hite o ho hid
  rw [hca] at hot
  rcases getElem?_set_cases hot with ⟨rfl, rfl⟩ | ⟨-, hot⟩
  · rcases hne.items item hite with hite | hite
    · exact h.snapshots j call hcal item hite o (hsub ho) hid
    · exact hs.inj (hsub ho) hite hid
  · exact h.snapshots j other hot item hite o (hsub ho) hid

theorem entries_generate_same {about : Application} {entry : LogLevelAuditEntry}
    (h : decide (entry.outcome = .applied) = applied) :
    ((s.generate k about entry).setCall k call').entries applied =
      s.entries applied ++ [about].map (·, k) := by
  simp [entries, generate, setCall, filter_append, h]

theorem entries_generate_other {about : Application} {entry : LogLevelAuditEntry}
    (h : decide (entry.outcome = .applied) = !applied) :
    ((s.generate k about entry).setCall k call').entries applied =
      s.entries applied ++ ([] : List Application).map (·, k) := by
  simp [entries, generate, setCall, filter_append, h]

theorem apart_store {actor : Text} {started : Option Nat} {startedAt : Nat} {previous : LogLevel}
    (hca : s.calls[k]? = some ⟨.apply request actor id started, none, .storing startedAt previous⟩)
    (h : s.apart (.step k) = true) :
    ∀ other ∈ s.calls, ∀ item ∈ other.items, item.override.id ≠ id := by
  intro other hot item hite
  simp only [apart, storesId, hca, all_eq_true] at h
  exact bne_iff_ne.mp (h other hot item hite)

theorem Audited.begin (h : s.Audited) (goal : Goal) :
    ({ s with calls := s.calls ++ [goal.start] } : SharedController).Audited := by
  have hst : goal.start.items = [] ∧ goal.start.ending = [] ∧
      goal.start.phase.applying = [] := by
    cases goal <;> exact ⟨rfl, rfl, rfl⟩
  refine ⟨h.serials, h.kept, ?_, ?_, ?_⟩
  · intro o j
    rw [applying_eq, elim_append hst.2.2, ← applying_eq]
    exact h.applied o j
  · intro o j
    rw [ending_eq, elim_append hst.2.1, ← ending_eq]
    exact h.ended o j
  · intro j other hot item hite
    rcases getElem?_append_singleton_cases hot with hj | ⟨-, rfl⟩
    · exact h.snapshots j other hj item hite
    · rw [hst.1] at hite
      cases hite

theorem Audited.step [DiagnosticsRuntime] {label : ThreadLabel} (h : s.Audited) (hs : s.Ordered)
    (hapa : s.apart label = true) (hst : SharedController.step s label = some t) :
    t.Audited := by
  rcases step_cases hst with ⟨_, -, rfl⟩ | ⟨goal, -, rfl⟩ | ⟨k, call, rfl, hca, ha⟩
  · exact { h with }
  · exact h.begin goal
  · cases ha with
    | quiet lock hne hen hap =>
      refine h.advance (a := []) (r := []) (e := []) (f := []) hca rfl
        (append_nil _).symm (append_nil _).symm (append_nil _).symm
        (append_nil _).symm (.inl rfl) (fun _ => rfl) ?_ ?_
        (h.snapshots_shrink hs hca hne rfl (fun _ ho => ho))
      · intro o
        rw [hap]
      · intro o
        rw [hen]
    | remove about hne hfi hwh hen hap =>
      next call' o =>
      have ho := mem_of_find hfi
      -- The sweep removes the object that it has read.
      have hab : about = o := by
        rcases hwh with rfl | hite
        · rfl
        · exact (h.snapshots k call hca about hite o ho (find_id hfi)).symm
      subst hab
      refine h.advance (a := []) (r := [about]) (e := []) (f := []) hca rfl
        (append_nil _).symm rfl (append_nil _).symm (append_nil _).symm (.inl rfl)
        ?_ ?_ ?_ (h.snapshots_shrink hs hca hne rfl filter_sublist.subset)
      · intro x
        exact count_removed (k := k) hs ho x
      · intro x
        rw [hap]
      · intro x
        rw [hen]
        simp only [count_cons, count_nil]
        omega
    | finish hne hout hen hap =>
      next call' about entry =>
      refine h.advance (a := []) (r := []) (e := []) (f := [about]) hca rfl
        (append_nil _).symm (append_nil _).symm ?_ ?_ (.inl rfl) (fun _ => rfl) ?_ ?_
        (h.snapshots_shrink hs hca hne rfl (fun _ ho => ho))
      · exact entries_generate_other (decide_eq_false hout)
      · exact entries_generate_same (decide_eq_false hout)
      · intro o
        rw [hap]
      · intro o
        rw [hen]
        simp only [count_cons, count_nil]
        omega
    | apply hne hout hen happ hap =>
      next call' about entry =>
      refine h.advance (a := []) (r := []) (e := [about]) (f := []) hca rfl
        (append_nil _).symm (append_nil _).symm ?_ ?_ (.inl rfl) (fun _ => rfl) ?_ ?_
        (h.snapshots_shrink hs hca hne rfl (fun _ ho => ho))
      · exact entries_generate_same (decide_eq_true hout)
      · exact entries_generate_other (decide_eq_true hout)
      · intro o
        rw [happ, hap]
        simp
      · intro o
        rw [hen]
    | store hsw hgo hph hse hid hcat hsc hne =>
      next call' request actor id started active previous startedAt =>
      obtain ⟨goal, sweep, phase⟩ := call
      cases hsw
      cases hgo
      cases hph
      subst hne
      have hfr := apart_store hca hapa
      have hsa := filter_absent ((hs.knows k _ hca).absent id rfl rfl)
      refine h.advance (a := [active]) (r := []) (e := []) (f := []) hca rfl rfl
        (append_nil _).symm (append_nil _).symm (append_nil _).symm
        (.inr ⟨active, rfl, hse⟩) ?_ ?_ ?_ ?_
      · intro o
        show _ = (s.overrides.filter (fun (o : Application) => o.override.id != id) ++
          [active]).count o + _
        rw [hsa, count_append]
        rfl
      · intro o
        exact Nat.add_comm _ _
      · intro o
        rfl
      · intro j other hot item hite o ho hitemi
        have hmem : o ∈ s.overrides ∨ o = active := by
          have ho : o ∈ s.overrides.filter (fun (o : Application) => o.override.id != id) ++
            [active] := ho
          rwa [hsa, mem_append, mem_singleton] at ho
        rcases getElem?_set_cases hot with ⟨rfl, rfl⟩ | ⟨-, hot⟩
        · cases hite
        · rcases hmem with ho | rfl
          · exact h.snapshots j other hot item hite o ho hitemi
          · exact absurd (hitemi.symm.trans hid)
              (hfr other (mem_of_getElem? hot) item hite)

structure Initial (s : SharedController) : Prop where
  overrides : s.overrides = []
  calls : s.calls = []
  stores : s.stores = []
  removals : s.removals = []
  generated : s.generated = []

theorem Initial.ordered (h : s.Initial) : s.Ordered := by
  refine ⟨?_, ?_, ?_, ?_, ?_⟩
  · rw [h.overrides]
    exact nodup_nil
  · intro o ho
    rw [h.overrides] at ho
    cases ho
  · rw [instanceCount, h.overrides]
    exact Nat.zero_le _
  all_goals
    intro k call hca
    rw [h.calls] at hca
    cases hca

theorem Initial.audited (h : s.Initial) : s.Audited := by
  have hap (k : Nat) : s.applying k = [] := by
    rw [applying, h.calls]
    rfl
  have hend (k : Nat) : s.ending k = [] := by
    rw [ending, h.calls]
    rfl
  have hen (applied : Bool) : s.entries applied = [] := by
    rw [entries, h.generated]
    rfl
  refine ⟨?_, ?_, ?_, ?_, ?_⟩
  · intro i p hp
    rw [h.stores] at hp
    cases hp
  · intro o
    rw [h.stores, h.overrides, h.removals]
    rfl
  · intro o k
    rw [h.stores, hap, hen]
    rfl
  · intro o k
    rw [h.removals, hend, hen]
    rfl
  · intro k call hca
    rw [h.calls] at hca
    cases hca

theorem Audited.stores_nodup (h : s.Audited) : (s.stores.map Prod.fst).Nodup := by
  have hse : s.stores.map (fun p => p.1.serial) = range s.stores.length := by
    apply ext_getElem?
    intro i
    rw [getElem?_map]
    by_cases hi : i < s.stores.length
    · obtain ⟨p, hp⟩ : ∃ p, s.stores[i]? = some p := ⟨_, getElem?_eq_getElem hi⟩
      rw [hp, getElem?_range hi, Option.map_some, h.serials i p hp]
    · rw [getElem?_eq_none (by omega), getElem?_eq_none (by simpa using hi)]
      rfl
  apply Nodup.of_map (fun o => o.serial)
  rw [map_map]
  exact hse ▸ nodup_range

/-- The entries about `o` that are applied entries, or others. -/
def about (s : SharedController) (o : Application) (applied : Bool) : Nat :=
  s.generated.countP (fun g => decide (g.about = o) &&
    (decide (g.entry.outcome = .applied) == applied))

theorem about_eq (o : Application) (applied : Bool) :
    s.about o applied = ((s.entries applied).map Prod.fst).count o := by
  rw [about, entries, map_map, count_eq_countP, countP_map, countP_filter]
  apply countP_congr
  intro g _
  simp only [Function.comp_apply, Bool.and_eq_true, decide_eq_true_eq, beq_iff_eq]

theorem fst_count_le {l m : List (Application × Nat)} (h : ∀ p, l.count p ≤ m.count p)
    (o : Application) : (l.map Prod.fst).count o ≤ (m.map Prod.fst).count o := by
  have hsub : l.Subperm m := subperm_ext_iff.mpr (fun p _ => h p)
  obtain ⟨l', hpe, hsub⟩ := hsub
  rw [← (hpe.map Prod.fst).count_eq]
  exact (hsub.map Prod.fst).count_le o

theorem mem_entries (h : 0 < (s.entries applied).count (o, k)) :
    ∃ g ∈ s.generated, g.about = o ∧ g.call = k ∧
      decide (g.entry.outcome = .applied) = applied := by
  obtain ⟨g, hg, hpa⟩ := mem_map.mp (count_pos_iff.mp h)
  rw [mem_filter, beq_iff_eq] at hg
  exact ⟨g, hg.1, (Prod.mk.inj hpa).1, (Prod.mk.inj hpa).2, hg.2⟩

theorem Audited.about_applied (h : s.Audited) (ho : (o, k) ∈ s.stores) :
    s.about o true ≤ 1 ∧
      ((∃ g ∈ s.generated, g.about = o ∧ g.call = k ∧ g.entry.outcome = .applied) ∨
        ∃ call, s.calls[k]? = some call ∧ call.running = true ∧ o ∈ call.phase.applying) := by
  constructor
  · rw [about_eq]
    refine le_trans (fst_count_le (m := s.stores) ?_ o)
      (nodup_iff_count_le_one.mp h.stores_nodup o)
    rintro ⟨x, j⟩
    have hsum := h.applied x j
    omega
  · have hpos := count_pos_iff.mpr ho
    have hsum := h.applied o k
    by_cases he : 0 < (s.entries true).count (o, k)
    · obtain ⟨g, hg, hab, hca, hout⟩ := mem_entries he
      exact .inl ⟨g, hg, hab, hca, of_decide_eq_true hout⟩
    · have hmem : o ∈ s.applying k := count_pos_iff.mp (by omega)
      unfold applying at hmem
      split at hmem
      · next call hca => exact .inr ⟨call, hca, call.running_of_applying hmem, hmem⟩
      · cases hmem

theorem Audited.about_ended (h : s.Audited) (ho : (o, k) ∈ s.stores) :
    s.about o false ≤ 1 ∧ (o ∈ s.overrides → s.about o false = 0) ∧
      (o ∉ s.overrides → ∃ j, (o, j) ∈ s.removals ∧
        ((∃ g ∈ s.generated, g.about = o ∧ g.call = j ∧ g.entry.outcome ≠ .applied) ∨
          ∃ call, s.calls[j]? = some call ∧ call.running = true ∧ o ∈ call.ending)) := by
  have hone : (s.stores.map Prod.fst).count o = 1 :=
    count_eq_one_of_mem h.stores_nodup (mem_map.mpr ⟨(o, k), ho, rfl⟩)
  have hke := h.kept o
  have hle : s.about o false ≤ (s.removals.map Prod.fst).count o := by
    rw [about_eq]
    refine fst_count_le ?_ o
    rintro ⟨x, j⟩
    have hsum := h.ended x j
    omega
  refine ⟨by omega, ?_, ?_⟩
  · intro hst
    have hpos := count_pos_iff.mpr hst
    omega
  · intro hgo
    have hze := count_eq_zero_of_not_mem hgo
    obtain ⟨⟨o', j⟩, hmem, rfl⟩ := mem_map.mp
      (count_pos_iff.mp (by omega : 0 < (s.removals.map Prod.fst).count o))
    refine ⟨j, hmem, ?_⟩
    have hpos := count_pos_iff.mpr hmem
    have hsum := h.ended o' j
    by_cases he : 0 < (s.entries false).count (o', j)
    · obtain ⟨g, hg, hab, hca, hout⟩ := mem_entries he
      exact .inl ⟨g, hg, hab, hca, of_decide_eq_false hout⟩
    · have hen : o' ∈ s.ending j := count_pos_iff.mp (by omega)
      unfold ending at hen
      split at hen
      · next call hca => exact .inr ⟨call, hca, call.running_of_ending hen, hen⟩
      · cases hen

/-- In every run without a stored id that a sweep still has to reach, and for every object
that was stored by some call. -/
theorem overrides_unique_and_audited [DiagnosticsRuntime] (init : SharedController)
    (hinit : init.Initial) (labels : List ThreadLabel) (s : SharedController)
    (hok : StepFn.Along step (fun s label => s.apart label = true) init labels)
    (hrun : StepFn.run step init labels = some s) :
    (∀ o ∈ s.overrides, ∀ p ∈ s.overrides, o.override.category = p.override.category →
        o.override.scope = p.override.scope → s.now < o.override.expiresAt →
        s.now < p.override.expiresAt → o = p) ∧
      s.instanceCount ≤ s.options.maximumDetailItems ∧
      ∀ o k, (o, k) ∈ s.stores →
        (s.about o true ≤ 1 ∧
          ((∃ g ∈ s.generated, g.about = o ∧ g.call = k ∧ g.entry.outcome = .applied) ∨
            ∃ call, s.calls[k]? = some call ∧ call.running = true ∧ o ∈ call.phase.applying)) ∧
        s.about o false ≤ 1 ∧ (o ∈ s.overrides → s.about o false = 0) ∧
        (o ∉ s.overrides → ∃ j, (o, j) ∈ s.removals ∧
          ((∃ g ∈ s.generated, g.about = o ∧ g.call = j ∧ g.entry.outcome ≠ .applied) ∨
            ∃ call, s.calls[j]? = some call ∧ call.running = true ∧ o ∈ call.ending)) := by
  have hinv : s.Ordered ∧ s.Audited := by
    refine StepFn.run_induct_along (P := fun s => s.Ordered ∧ s.Audited) ?_
      ⟨hinit.ordered, hinit.audited⟩ hok hrun
    intro s label t ⟨hor, hau⟩ hap hst
    exact ⟨hor.step hst, hau.step hor hap hst⟩
  refine ⟨hinv.1.unique, hinv.1.limit, ?_⟩
  intro o k ho
  exact ⟨hinv.2.about_applied ho, hinv.2.about_ended ho⟩

end SharedController

def exampleShared : SharedController := { options := default, instanceId := utf16 "first" }

theorem exampleShared_initial : exampleShared.Initial := ⟨rfl, rfl, rfl, rfl, rfl⟩

def exampleApplied (serial startedAt : Nat) : Application :=
  ⟨serial, { exampleRepeated with startedAt, expiresAt := startedAt + 60000 }⟩

/-- Call `k` applies the request under the id 7 and runs to its end. -/
def exampleCall (k : Nat) : List ThreadLabel :=
  .call (.apply exampleRequest (utf16 "operator") 7 none) :: List.replicate 15 (.step k)

/-- The override is reverted and its id is applied again, with no sweep on the way. -/
theorem overrides_unique_and_audited_reapplied :
    let _ := exampleRuntime
    ∃ s, StepFn.run SharedController.step exampleShared
        [exampleCall 0, [.call (.revert 7 (utf16 "operator") (utf16 "rollback"))],
          replicate 7 (.step 1), [.tick 1], exampleCall 2].flatten = some s ∧
      (exampleApplied 0 0, 0) ∈ s.stores ∧ s.about (exampleApplied 0 0) false ≤ 1 := by
  intro runtime
  have hrun : ∃ s, StepFn.run SharedController.step exampleShared
      [exampleCall 0, [.call (.revert 7 (utf16 "operator") (utf16 "rollback"))],
        replicate 7 (.step 1), [.tick 1], exampleCall 2].flatten = some s ∧
      (exampleApplied 0 0, 0) ∈ s.stores := by
    decide +kernel
  have hok : StepFn.Along SharedController.step (fun s label => s.apart label = true) exampleShared
      [exampleCall 0, [.call (.revert 7 (utf16 "operator") (utf16 "rollback"))],
        replicate 7 (.step 1), [.tick 1], exampleCall 2].flatten := by
    decide +kernel
  obtain ⟨s, hs, hmem⟩ := hrun
  have h := SharedController.overrides_unique_and_audited exampleShared exampleShared_initial _ s
    hok hs
  exact ⟨s, hs, hmem, (h.2.2 _ _ hmem).2.1⟩

/-- A sweep has read the expired override; it is reverted and the id is applied again. The
sweep then removes the new override, long before it expires, and audits the old one. -/
theorem sweep_removes_reapplied :
    let _ := exampleRuntime
    ∃ s, StepFn.run SharedController.step exampleShared
        [exampleCall 0, [.tick 60000, .call .sweep, .step 1, .step 1,
          .call (.revert 7 (utf16 "operator") (utf16 "rollback"))], replicate 7 (.step 2),
          exampleCall 3, replicate 4 (.step 1)].flatten = some s ∧
      (∀ call ∈ s.calls, call.running = false) ∧
      (exampleApplied 0 0, 0) ∈ s.stores ∧
      (∃ g ∈ s.generated, g.about = exampleApplied 0 0 ∧ g.entry.outcome = .reverted) ∧
      (∃ g ∈ s.generated, g.about = exampleApplied 0 0 ∧ g.entry.outcome = .expired) ∧
      (exampleApplied 1 60000, 3) ∈ s.stores ∧ s.overrides = [] ∧
      s.now < (exampleApplied 1 60000).override.expiresAt ∧
      s.about (exampleApplied 1 60000) false = 0 := by
  decide +kernel

end Realtime.Diagnostics
