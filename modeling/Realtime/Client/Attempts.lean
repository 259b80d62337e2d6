import Realtime.Client.Tasks

/-! How often `RunAsync` tries to connect. The attempts since the last arrival at Connected
are counted beside the client, together with the numbers that the retry policy is called
with. -/

namespace Realtime.Client

open RealtimeClient

inductive Stage where
  | before | attempting | between | last
  deriving DecidableEq

namespace RunPhase

/-- An attempt reaches from its start to the decision whether another one is due. -/
def stage : RunPhase → Stage
  | idle | skipped => .before
  | authenticating | connecting | awaitingReplay | reporting | awaitingLoops | leaving _
  | cancelling _ | observing _ | clearing _ | catching _ | retrying | checking _ => .attempting
  | closing _ last => if last then .last else .attempting
  | rescheduling | delaying | head | announcing => .between
  | _ => .last

/-- The steps of `RunAsync` to the end of its attempt, or to its own end. -/
def rank : RunPhase → Nat
  | ended | skipped => 0
  | disconnecting => 1
  | ending => 2
  | forgetting => 3
  | discarding => 4
  | completing => 5
  | closing _ last => if last then 6 else 10
  | faulting => 7
  | stoppingSends => 8
  | checking _ => 9
  | retrying => 11
  | catching _ => 12
  | clearing _ => 13
  | observing _ => 14
  | cancelling _ => 15
  | leaving _ => 16
  | reporting => 16
  | awaitingReplay | awaitingLoops => 17
  | connecting => 18
  | authenticating => 19
  | announcing => 20
  | head => 21
  | delaying => 22
  | rescheduling => 23
  | idle => 23

end RunPhase

structure Tally where
  /-- The attempts since the last arrival at Connected. -/
  attempts : Nat := 0
  /-- For every arrival the attempts since the one before it. -/
  arrivals : List Nat := []
  delays : List Nat := []

/-- What the step from `s` to `t` adds. -/
def Tally.observe (tally : Tally) (s t : RealtimeClient) : Tally where
  attempts :=
    if s.run = .reporting ∧ t.run = .awaitingLoops then 0
    else if t.run = .authenticating ∧ s.run ≠ .authenticating then tally.attempts + 1
    else tally.attempts
  arrivals :=
    if s.run = .reporting ∧ t.run = .awaitingLoops then tally.arrivals ++ [tally.attempts]
    else tally.arrivals
  delays :=
    if s.run = .rescheduling ∧ t.run = .delaying then tally.delays ++ [t.reconnectAttempt]
    else tally.delays

def countedStep : StepFn (RealtimeClient × Tally) Label := fun s label =>
  (step s.1 label).map (fun t => (t, s.2.observe s.1 t))

theorem countedStep_eq_some {s t : RealtimeClient × Tally} {label : Label} :
    countedStep s label = some t ↔ step s.1 label = some t.1 ∧ t.2 = s.2.observe s.1 t.1 := by
  simp only [countedStep, Option.map_eq_some_iff]
  constructor
  · rintro ⟨u, hu, rfl⟩
    exact ⟨hu, rfl⟩
  · rintro ⟨hu, ht⟩
    exact ⟨t.1, hu, Prod.ext rfl ht.symm⟩

namespace RealtimeClient

/-- `RunAsync` is not cancelled, the attempt has not succeeded, it fails neither with a
protocol error nor for an insecure transport nor by a normal close, and the delay ends. -/
def fails (s : RealtimeClient) (label : Label) : Bool :=
  !s.cancelled && s.run != .reporting &&
    match s.run, label with
    | .catching failure, _ => failure != .protocol && failure != .insecure
    | .checking close, _ => !close.any RealtimeTransportClose.isNormal
    | .delaying, .run (.failed _) _ => false
    | _, _ => true

end RealtimeClient

variable {s t : RealtimeClient} {label : Label}

inductive Paces (s t : RealtimeClient) (label : Label) : Prop where
  | same (run : t.run = s.run) (attempt : t.reconnectAttempt = s.reconnectAttempt)
  | start (run : s.run = .idle) (next : t.run = .authenticating)
      (attempt : t.reconnectAttempt = s.reconnectAttempt)
  | attempt (run : s.run.stage = .attempting) (next : t.run.stage = .attempting)
      (attempt : t.reconnectAttempt = s.reconnectAttempt)
      (going : t.run ≠ .authenticating ∧ t.run ≠ .awaitingLoops)
      (unreported : s.run ≠ .reporting)
  | arrive (run : s.run = .reporting) (next : t.run = .awaitingLoops)
      (attempt : t.reconnectAttempt = 0)
  | retry {close : Option RealtimeTransportClose} (run : s.run = .checking close)
      (next : t.run = .rescheduling) (attempt : t.reconnectAttempt = s.reconnectAttempt + 1)
      (limit : s.reconnectAttempt + 1 ≤ s.options.maximumReconnectAttempts)
  | wait (run : s.run.stage = .between) (next : t.run.stage = .between)
      (attempt : t.reconnectAttempt = s.reconnectAttempt)
  | again (run : s.run = .announcing) (next : t.run = .authenticating)
      (attempt : t.reconnectAttempt = s.reconnectAttempt)
  | finish (run : s.run ≠ .reporting) (next : t.run.stage = .last ∨ t.run = .skipped)
      (why : s.fails label = true → t.run = .skipped ∨ s.run.stage = .last ∨
        (s.run.stage = .attempting ∧
          s.options.maximumReconnectAttempts ≤ s.reconnectAttempt))

variable {input : Await}

theorem stepRun_options {first : FirstLoop} : s.stepRun input first = some t →
    t.options = s.options := by
  fun_cases s.stepRun input first <;> intro h <;> cases h <;> rfl

theorem stage_afterConnection (result : Completion) :
    (RealtimeClient.afterConnection result).stage = .attempting := by
  cases result <;> rfl

theorem stepRun_paces {first : FirstLoop} : s.stepRun input first = some t →
    Paces s t (.run input first) := by
  fun_cases s.stepRun input first <;> intro h <;> cases h
  case case1.refl hr =>
    by_cases hc : s.cancelled = true
    · refine .finish (by simp [hr]) (by simp [hc, RunPhase.stage]) ?_
      intro hf
      simp [fails, hc] at hf
    · exact .wait (by simp [hr, RunPhase.stage]) (by simp [hc, RunPhase.stage]) rfl
  case case2.refl hr => exact .again hr rfl rfl
  case case11.refl hr => exact .arrive hr rfl rfl
  case case20.refl result hr =>
    refine .attempt (by simp [hr, RunPhase.stage]) (stage_afterConnection result) rfl ?_
      (by simp [hr])
    cases result <;> exact ⟨by rintro ⟨⟩, by rintro ⟨⟩⟩
  case case21.refl failure hr =>
    unfold catchPhase
    by_cases hc : (failure = .cancelled && s.cancelled) = true
    · rw [if_pos hc]
      refine .finish (by simp [hr]) (.inl rfl) ?_
      intro hf
      simp only [Bool.and_eq_true] at hc
      simp [fails, hc.2] at hf
    · rw [if_neg hc]
      split
      · next hla =>
        refine .finish (by simp [hr]) (.inl rfl) ?_
        intro hf
        simp only [fails, hr, Bool.and_eq_true, bne_iff_ne, ne_eq] at hf
        simp only [hf.2, decide_false, Bool.false_or, decide_eq_true_eq] at hla
        exact .inr (.inr ⟨by simp [hr, RunPhase.stage], hla⟩)
      · exact .attempt (by simp [hr, RunPhase.stage]) rfl rfl ⟨by rintro ⟨⟩, by rintro ⟨⟩⟩ (by simp [hr])
  case case25.refl close last hr =>
    cases last with
    | true =>
      exact .finish (by simp [hr]) (.inl rfl) (fun _ => .inr (.inl (by simp [hr, RunPhase.stage])))
    | false => exact .attempt (by simp [hr, RunPhase.stage]) rfl rfl ⟨by rintro ⟨⟩, by rintro ⟨⟩⟩ (by simp [hr])
  case case26.refl close hr hc =>
    refine .finish (by simp [hr]) (.inl rfl) ?_
    intro hf
    simp only [fails, hr, Bool.and_eq_true, Bool.not_eq_true'] at hf
    simp [hf.1.1, hf.2] at hc
  case case27.refl close hr hc =>
    by_cases hli : s.options.maximumReconnectAttempts < s.reconnectAttempt + 1
    · refine .finish (by simp [hr]) (by simp [hli, RunPhase.stage]) ?_
      intro _
      exact .inr (.inr ⟨by simp [hr, RunPhase.stage], by omega⟩)
    · exact .retry hr (by simp [hli]) rfl (by omega)
  case case28.refl hr => exact .wait (by simp [hr, RunPhase.stage]) rfl rfl
  case case29.refl hr => exact .wait (by simp [hr, RunPhase.stage]) rfl rfl
  case case30.refl failure hr =>
    refine .finish (by simp [hr]) ?_ ?_
    · dsimp only
      split <;> exact .inl rfl
    · intro hf
      simp [fails, hr] at hf
  case case34.refl hr =>
    refine .finish (by simp [hr]) ?_ (fun _ => .inr (.inl (by simp [hr, RunPhase.stage])))
    dsimp only
    split <;> exact .inl rfl
  all_goals first
    | exact .attempt (by simp [*, RunPhase.stage]) rfl rfl ⟨by rintro ⟨⟩, by rintro ⟨⟩⟩ (by simp [*])
    | exact .finish (by simp [*]) (.inl rfl) (fun _ => .inr (.inl (by simp [*, RunPhase.stage])))

/-- The steps that are not of `RunAsync`: the calls start it or skip it, and without a
receive loop the state stays Faulted. -/
structure Elsewhere (s t : RealtimeClient) : Prop where
  options : t.options = s.options
  attempt : t.reconnectAttempt = s.reconnectAttempt
  token : t.connectionCancelled = s.connectionCancelled
  run : t.run = s.run ∨ (s.run = .idle ∧ (t.run = .authenticating ∨ t.run = .skipped ∨
    (t.run = .completing ∧ s.cancelled = true)))
  state : s.state = .faulted → s.run ≠ .idle → s.receive = none → t.state = .faulted

theorem Elsewhere.of_same (ho : t.options = s.options)
    (ha : t.reconnectAttempt = s.reconnectAttempt)
    (hc : t.connectionCancelled = s.connectionCancelled) (hr : t.run = s.run)
    (hs : t.state = s.state) : Elsewhere s t :=
  ⟨ho, ha, hc, .inl hr, fun h _ _ => hs.trans h⟩

theorem step_elsewhere (h : step s label = some t)
    (hla : ∀ input first, label ≠ .run input first) : Elsewhere s t := by
  cases label with
  | run input first => exact absurd rfl (hla input first)
  | connect =>
    replace h : s.callConnect = some t := h
    revert h
    fun_cases callConnect s <;> intro h <;> cases h
    · next hr hc =>
      have hr := not_not.mp hr
      exact ⟨rfl, rfl, rfl, .inr ⟨hr, .inr (.inr ⟨rfl, hc⟩)⟩, fun _ hi => absurd hr hi⟩
    · next hr _ =>
      have hr := not_not.mp hr
      exact ⟨rfl, rfl, rfl, .inr ⟨hr, .inl rfl⟩, fun _ hi => absurd hr hi⟩
  | disconnect =>
    replace h : s.callDisconnect = some t := h
    revert h
    fun_cases callDisconnect s <;> intro h <;> cases h
    · next hr => exact ⟨rfl, rfl, rfl, .inr ⟨hr, .inr (.inl rfl)⟩, fun _ hi => absurd hr hi⟩
    · exact .of_same rfl rfl rfl rfl rfl
    · exact ⟨rfl, rfl, rfl, .inl rfl, fun hs _ _ => by simp [hs]⟩
  | dispose =>
    replace h : s.callDispose = some t := h
    revert h
    fun_cases callDispose s <;> intro h <;> cases h
    · next hr => exact ⟨rfl, rfl, rfl, .inr ⟨hr, .inr (.inl rfl)⟩, fun _ hi => absurd hr hi⟩
    · exact .of_same rfl rfl rfl rfl rfl
  | receive input =>
    obtain ⟨phase, _, hp, -, -⟩ := stepReceive_tasks h
    obtain ⟨u, rfl⟩ := step_footprint _ h
    exact ⟨rfl, rfl, rfl, .inl rfl, fun _ _ hno => by simp [hno] at hp⟩
  | _ =>
    obtain ⟨u, rfl⟩ := step_footprint _ h
    exact .of_same rfl rfl rfl rfl rfl

theorem Elsewhere.paces (h : Elsewhere s t) : Paces s t label := by
  rcases h.run with hr | ⟨hr, hn | hn | ⟨hn, hc⟩⟩
  · exact .same hr h.attempt
  · exact .start hr hn h.attempt
  · exact .finish (by simp [hr]) (.inr hn) (fun _ => .inl hn)
  · refine .finish (by simp [hr]) (.inl (by rw [hn]; rfl)) ?_
    intro hf
    simp [fails, hc] at hf

theorem step_paces (h : step s label = some t) : t.options = s.options ∧ Paces s t label := by
  by_cases hrun : ∃ input first, label = .run input first
  · obtain ⟨input, first, rfl⟩ := hrun
    exact ⟨stepRun_options h, stepRun_paces h⟩
  · have hel := step_elsewhere h (fun input first hl => hrun ⟨input, first, hl⟩)
    exact ⟨hel.options, hel.paces⟩

/-- One attempt more than the count of the reconnects before the first arrival. -/
def Tally.first (tally : Tally) : Nat := if tally.arrivals = [] then 1 else 0

/-- The counter of `RunAsync` and the tally agree. -/
structure Paced (s : RealtimeClient) (tally : Tally) : Prop where
  fresh : s.run = .idle → tally = {} ∧ s.reconnectAttempt = 0
  attempting : s.run.stage = .attempting →
    tally.attempts = s.reconnectAttempt + tally.first ∧
      s.reconnectAttempt ≤ s.options.maximumReconnectAttempts
  between : s.run.stage = .between →
    tally.attempts + 1 = s.reconnectAttempt + tally.first ∧ 1 ≤ s.reconnectAttempt ∧
      s.reconnectAttempt ≤ s.options.maximumReconnectAttempts
  arrivals : ∀ n ∈ tally.arrivals.tail, n ≤ s.options.maximumReconnectAttempts
  delays : ∀ n ∈ tally.delays, 1 ≤ n ∧ n ≤ s.options.maximumReconnectAttempts

variable {tally : Tally}

theorem observe_same (har : s.run ≠ .reporting ∨ t.run ≠ .awaitingLoops)
    (hbe : t.run ≠ .authenticating ∨ s.run = .authenticating)
    (hde : s.run ≠ .rescheduling ∨ t.run ≠ .delaying) : tally.observe s t = tally := by
  have h1 : ¬ (s.run = .reporting ∧ t.run = .awaitingLoops) := by tauto
  have h2 : ¬ (t.run = .authenticating ∧ s.run ≠ .authenticating) := by tauto
  have h3 : ¬ (s.run = .rescheduling ∧ t.run = .delaying) := by tauto
  simp only [Tally.observe, if_neg h1, if_neg h2, if_neg h3]

theorem Paced.step (h : Paced s tally) (hs : step s label = some t) :
    Paced t (tally.observe s t) := by
  obtain ⟨hop, hpa⟩ := step_paces hs
  have har : ∀ n ∈ tally.arrivals.tail, n ≤ t.options.maximumReconnectAttempts := by
    rw [hop]
    exact h.arrivals
  have hde : ∀ n ∈ tally.delays, 1 ≤ n ∧ n ≤ t.options.maximumReconnectAttempts := by
    rw [hop]
    exact h.delays
  cases hpa with
  | same hr ha =>
    have hsa : tally.observe s t = tally := by
      refine observe_same ?_ ?_ ?_
      all_goals
        rw [hr]
        cases s.run <;> simp
    rw [hsa]
    refine ⟨?_, ?_, ?_, har, hde⟩
    · rw [hr, ha]
      exact h.fresh
    · rw [hr, ha, hop]
      exact h.attempting
    · rw [hr, ha, hop]
      exact h.between
  | start hr hn ha =>
    obtain ⟨rfl, h0⟩ := h.fresh hr
    have hob : Tally.observe {} s t = { attempts := 1 } := by
      simp [Tally.observe, hr, hn]
    rw [hob]
    refine ⟨?_, ?_, ?_, nofun, nofun⟩
    · simp [hn]
    · intro _
      rw [ha, h0]
      exact ⟨rfl, Nat.zero_le _⟩
    · simp [hn, RunPhase.stage]
  | attempt hr hn ha hg hu =>
    have hsa : tally.observe s t = tally := by
      refine observe_same (.inl hu) (.inl hg.1) (.inl ?_)
      intro h0
      rw [h0] at hr
      cases hr
    rw [hsa]
    refine ⟨?_, ?_, ?_, har, hde⟩
    · intro h0
      rw [h0] at hn
      cases hn
    · rw [ha, hop]
      exact fun _ => h.attempting hr
    · intro h0
      rw [h0] at hn
      cases hn
  | arrive hr hn ha =>
    obtain ⟨hco, hle⟩ := h.attempting (by rw [hr]; rfl)
    have hob : tally.observe s t =
        { tally with attempts := 0, arrivals := tally.arrivals ++ [tally.attempts] } := by
      simp [Tally.observe, hr, hn]
    rw [hob]
    refine ⟨?_, ?_, ?_, ?_, hde⟩
    · simp [hn]
    · intro _
      rw [ha]
      exact ⟨by simp [Tally.first], Nat.zero_le _⟩
    · simp [hn, RunPhase.stage]
    · intro n hmem
      dsimp only at hmem
      by_cases hno : tally.arrivals = []
      · rw [hno] at hmem
        cases hmem
      · rw [List.tail_append_of_ne_nil hno, List.mem_append, List.mem_singleton] at hmem
        rcases hmem with hmem | rfl
        · exact har n hmem
        · rw [Tally.first, if_neg hno] at hco
          rw [hop]
          omega
  | retry hr hn ha hli =>
    obtain ⟨hco, -⟩ := h.attempting (by rw [hr]; rfl)
    have hsa : tally.observe s t = tally := observe_same (by simp [hr]) (by simp [hn])
      (by simp [hr])
    rw [hsa]
    refine ⟨?_, ?_, ?_, har, hde⟩
    · simp [hn]
    · simp [hn, RunPhase.stage]
    · intro _
      rw [ha, hop]
      omega
  | wait hr hn ha =>
    obtain ⟨hco, hone, hle⟩ := h.between hr
    have hid : t.run ≠ .idle := by
      intro h0
      rw [h0] at hn
      cases hn
    have hat : (tally.observe s t).attempts = tally.attempts ∧
        (tally.observe s t).arrivals = tally.arrivals := by
      have h1 : ¬ (s.run = .reporting ∧ t.run = .awaitingLoops) := by
        rintro ⟨h0, -⟩
        rw [h0] at hr
        cases hr
      have h2 : ¬ (t.run = .authenticating ∧ s.run ≠ .authenticating) := by
        rintro ⟨h0, -⟩
        rw [h0] at hn
        cases hn
      simp only [Tally.observe, if_neg h1, if_neg h2, and_self]
    refine ⟨fun h0 => absurd h0 hid, ?_, ?_, ?_, ?_⟩
    · intro h0
      rw [h0] at hn
      cases hn
    · intro _
      rw [Tally.first, hat.1, hat.2, ha, hop]
      exact ⟨hco, hone, hle⟩
    · rw [hat.2]
      exact har
    · intro n hmem
      unfold Tally.observe at hmem
      dsimp only at hmem
      split at hmem
      · rw [List.mem_append, List.mem_singleton] at hmem
        rcases hmem with hmem | rfl
        · exact hde n hmem
        · rw [ha, hop]
          exact ⟨hone, hle⟩
      · exact hde n hmem
  | again hr hn ha =>
    obtain ⟨hco, -, hle⟩ := h.between (by rw [hr]; rfl)
    have hob : tally.observe s t = { tally with attempts := tally.attempts + 1 } := by
      simp [Tally.observe, hr, hn]
    rw [hob]
    refine ⟨?_, ?_, ?_, har, hde⟩
    · simp [hn]
    · intro _
      rw [ha, hop]
      exact ⟨hco, hle⟩
    · simp [hn, RunPhase.stage]
  | finish hr hn _ =>
    have hst : t.run.stage ≠ .attempting ∧ t.run.stage ≠ .between ∧ t.run ≠ .idle ∧
        t.run ≠ .authenticating ∧ t.run ≠ .delaying := by
      rcases hn with hn | hn
      · refine ⟨by simp [hn], by simp [hn], ?_, ?_, ?_⟩
        all_goals
          intro h0
          rw [h0] at hn
          cases hn
      · simp [hn, RunPhase.stage]
    have hsa : tally.observe s t = tally :=
      observe_same (.inl hr) (.inl hst.2.2.2.1) (.inr hst.2.2.2.2)
    rw [hsa]
    exact ⟨fun h0 => absurd h0 hst.2.2.1, fun h0 => absurd h0 hst.1,
      fun h0 => absurd h0 hst.2.1, har, hde⟩

theorem paced_initial (options : RealtimeClientOptions) : Paced { options } {} :=
  ⟨fun _ => ⟨rfl, rfl⟩, nofun, nofun, nofun, nofun⟩

/-- `RunAsync` has reported the fault and ends. -/
def RunPhase.isFaulted : RunPhase → Bool
  | closing _ last => last
  | completing | discarding | forgetting | ending | ended => true
  | _ => false

theorem stage_of_isFaulted {phase : RunPhase} (h : phase.isFaulted = true) :
    phase.stage = .last := by
  unfold RunPhase.isFaulted at h
  split at h
  · simp only [RunPhase.stage, h, if_true]
  · rfl
  · rfl
  · rfl
  · rfl
  · rfl
  · cases h

theorem inConnection_of_last {phase : RunPhase} (h : phase.stage = .last) :
    phase.inConnection = false := by
  cases phase <;> first | rfl | cases h

theorem stepRun_state {first : FirstLoop} (hst : s.state = .faulted)
    (hla : s.run.stage = .last) (hd : s.run ≠ .disconnecting) : s.stepRun input first = some t →
    t.state = .faulted := by
  fun_cases s.stepRun input first <;> intro h <;> cases h
  all_goals first
    | exact hst
    | rfl
    | (exfalso; simp [*, RunPhase.stage] at hla hd)

theorem stepRun_faults {first : FirstLoop} (hf : s.fails (.run input first) = true)
    (hd : s.run ≠ .disconnecting) (h : s.stepRun input first = some t) :
    (t.run.isFaulted = true → s.run.isFaulted = true ∨ (s.run = .faulting ∧ t.state = .faulted)) ∧
      (t.run = .disconnecting → s.run = .ending ∧ s.state ≠ .faulted) := by
  have hc : s.cancelled = false := by
    simp only [fails, Bool.and_eq_true, Bool.not_eq_true'] at hf
    exact hf.1.1
  revert h
  fun_cases s.stepRun input first <;> intro h <;> cases h
  case case1.refl hr => simp [hc, RunPhase.isFaulted]
  case case20.refl result hr =>
    cases result <;> simp [forgetConnection, afterConnection,
      RunPhase.isFaulted]
  case case21.refl failure hr =>
    have hph : (s.catchPhase failure).isFaulted = false ∧
        s.catchPhase failure ≠ .disconnecting := by
      unfold catchPhase
      rw [hc, Bool.and_false]
      simp only [Bool.false_eq_true, if_false]
      split <;> simp [RunPhase.isFaulted]
    simp [hph]
  case case24.refl hr => simp [hr]
  case case25.refl close last hr => cases last <;> simp [hr, RunPhase.isFaulted]
  case case26.refl close hr hcl =>
    simp only [fails, hr, Bool.and_eq_true, Bool.not_eq_true'] at hf
    simp [hc, hf.2] at hcl
  case case27.refl close hr hcl => split_ifs <;> simp [RunPhase.isFaulted]
  case case30.refl failure hr => simp [fails, hr] at hf
  case case34.refl hr => split_ifs <;> simp [*, RunPhase.isFaulted]
  case case35.refl hr => exact absurd hr hd
  all_goals simp [*, RunPhase.isFaulted, openConnection, reportConnected]

structure Exhausting (s : RealtimeClient) (tally : Tally) : Prop where
  tasks : s.tasks.Ok
  paced : Paced s tally
  unarrived : tally.arrivals = []
  unconnected : s.run ≠ .awaitingLoops
  undisconnected : s.run ≠ .disconnecting
  exhausted : s.run.stage = .last →
    tally.attempts = s.options.maximumReconnectAttempts + 1
  faulted : s.run.isFaulted = true → s.state = .faulted
  observed : ∀ result, s.run = .observing result → s.connectionCancelled = true

theorem Exhausting.attempts (h : Exhausting s tally) (hs : s.run.stage = .attempting)
    (hli : s.options.maximumReconnectAttempts ≤ s.reconnectAttempt) :
    tally.attempts = s.options.maximumReconnectAttempts + 1 := by
  obtain ⟨hco, hle⟩ := h.paced.attempting hs
  rw [Tally.first, if_pos h.unarrived] at hco
  omega

theorem Exhausting.faults (h : Exhausting s tally) (hf : s.fails label = true)
    (hs : step s label = some t) :
    t.run ≠ .disconnecting ∧ (t.run.isFaulted = true → t.state = .faulted) := by
  by_cases hrun : ∃ input first, label = .run input first
  · obtain ⟨input, first, rfl⟩ := hrun
    obtain ⟨hfa, hle⟩ := stepRun_faults hf h.undisconnected hs
    constructor
    · intro h0
      obtain ⟨hen, hst⟩ := hle h0
      exact hst (h.faulted (by rw [hen]; rfl))
    · intro ht
      rcases hfa ht with hs' | ⟨-, hst⟩
      · exact stepRun_state (h.faulted hs') (stage_of_isFaulted hs') h.undisconnected hs
      · exact hst
  · have hel := step_elsewhere hs (fun input first hl => hrun ⟨input, first, hl⟩)
    have hc : s.cancelled = false := by
      simp only [fails, Bool.and_eq_true, Bool.not_eq_true'] at hf
      exact hf.1.1
    rcases hel.run with hr | ⟨hr, hn | hn | ⟨hn, hca⟩⟩
    · refine ⟨by rw [hr]; exact h.undisconnected, ?_⟩
      intro ht
      rw [hr] at ht
      have hla := stage_of_isFaulted ht
      refine hel.state (h.faulted ht) ?_ (h.tasks.none_of_idle (inConnection_of_last hla)).1
      intro h0
      rw [h0] at hla
      cases hla
    · simp [hn, RunPhase.isFaulted]
    · simp [hn, RunPhase.isFaulted]
    · rw [hc] at hca
      cases hca

theorem Paces.unconnected (h : Paces s t label) (hu : s.run ≠ .awaitingLoops)
    (hr : s.run ≠ .reporting) : t.run ≠ .awaitingLoops := by
  have hst {stage : Stage} (hn : t.run.stage = stage) (hne : stage ≠ .attempting) :
      t.run ≠ .awaitingLoops := by
    intro h0
    rw [h0] at hn
    exact hne hn.symm
  cases h with
  | same hsa => rwa [hsa]
  | start _ hn => simp [hn]
  | attempt _ _ _ hg => exact hg.2
  | arrive hrep => exact absurd hrep hr
  | retry _ hn => simp [hn]
  | wait _ hn => exact hst hn nofun
  | again _ hn => simp [hn]
  | finish _ hn =>
    rcases hn with hn | hn
    · exact hst hn nofun
    · simp [hn]

theorem Exhausting.exhausts (h : Exhausting s tally) (hf : s.fails label = true)
    (hpa : Paces s t label) (hla : t.run.stage = .last) :
    (tally.observe s t).attempts = s.options.maximumReconnectAttempts + 1 := by
  have hnot {phase : RunPhase} (hn : t.run = phase) (hne : phase.stage ≠ .last) : False := by
    rw [hn] at hla
    exact hne hla
  have hco : tally.attempts = s.options.maximumReconnectAttempts + 1 := by
    cases hpa with
    | same hr _ => exact h.exhausted (by rw [← hr]; exact hla)
    | start _ hn => exact (hnot hn nofun).elim
    | attempt _ hn =>
      rw [hn] at hla
      exact nomatch hla
    | arrive _ hn => exact (hnot hn nofun).elim
    | retry _ hn => exact (hnot hn nofun).elim
    | wait _ hn =>
      rw [hn] at hla
      exact nomatch hla
    | again _ hn => exact (hnot hn nofun).elim
    | finish _ _ hwhy =>
      rcases hwhy hf with hn | hs | ⟨hs, hli⟩
      · exact (hnot hn nofun).elim
      · exact h.exhausted hs
      · exact h.attempts hs hli
  have h1 : ¬ (s.run = .reporting ∧ t.run = .awaitingLoops) := by
    rintro ⟨-, h0⟩
    exact hnot h0 nofun
  have h2 : ¬ (t.run = .authenticating ∧ s.run ≠ .authenticating) := by
    rintro ⟨h0, -⟩
    exact hnot h0 nofun
  simp only [Tally.observe, if_neg h1, if_neg h2]
  exact hco

theorem stepRun_observing {first : FirstLoop} {result : Completion}
    (h : s.stepRun input first = some t) (ht : t.run = .observing result) :
    t.connectionCancelled = true := by
  revert h ht
  fun_cases s.stepRun input first <;> intro h <;> cases h <;> intro ht
  case case17.refl => rfl
  case case20.refl result hp =>
    cases result <;> cases ht
  case case21.refl failure hp =>
    dsimp only [catchPhase] at ht
    split_ifs at ht
  all_goals first
    | cases ht
    | (dsimp only at ht; split_ifs at ht)

theorem Exhausting.observes (h : Exhausting s tally) (hs : step s label = some t)
    {result : Completion} (ht : t.run = .observing result) : t.connectionCancelled = true := by
  by_cases hrun : ∃ input first, label = .run input first
  · obtain ⟨input, first, rfl⟩ := hrun
    exact stepRun_observing hs ht
  · have hel := step_elsewhere hs (fun input first hl => hrun ⟨input, first, hl⟩)
    rcases hel.run with hr | ⟨-, hn | hn | ⟨hn, -⟩⟩
    · rw [hel.token]
      exact h.observed result (hr.symm.trans ht)
    all_goals simp [hn] at ht

theorem Exhausting.step (h : Exhausting s tally) (hf : s.fails label = true)
    (hs : step s label = some t) : Exhausting t (tally.observe s t) := by
  obtain ⟨hop, hpa⟩ := step_paces hs
  have hre : s.run ≠ .reporting := by
    simp only [fails, Bool.and_eq_true, bne_iff_ne] at hf
    exact hf.1.2
  obtain ⟨hdi, hfa⟩ := h.faults hf hs
  refine ⟨step_tasks h.tasks hs, h.paced.step hs, ?_, hpa.unconnected h.unconnected hre,
    hdi, ?_, hfa, fun _ => h.observes hs⟩
  · simp only [Tally.observe, hre, false_and, if_false]
    exact h.unarrived
  · intro hla
    rw [hop]
    exact h.exhausts hf hpa hla

theorem exhausting_initial (options : RealtimeClientOptions) : Exhausting { options } {} :=
  ⟨tasks_initial options, paced_initial options, rfl, nofun, nofun, nofun, nofun,
    nofun⟩

/-- At most this many steps of `RunAsync` are left while every attempt fails. -/
def RealtimeClient.remaining (s : RealtimeClient) : Nat :=
  24 * (s.options.maximumReconnectAttempts + 1 - s.reconnectAttempt) + s.run.rank

theorem stepRun_remaining {first : FirstLoop} (hr : s.run ≠ .reporting)
    (h : s.stepRun input first = some t) : t.remaining < s.remaining := by
  have hsa {u : RealtimeClient} (ho : u.options = s.options)
      (ha : u.reconnectAttempt = s.reconnectAttempt) (hra : u.run.rank < s.run.rank) :
      u.remaining < s.remaining := by
    simp only [remaining, ho, ha]
    omega
  revert h
  fun_cases s.stepRun input first <;> intro h <;> cases h
  case case1.refl hp =>
    refine hsa rfl rfl ?_
    dsimp only
    split <;> simp [hp, RunPhase.rank]
  case case11.refl hp => exact absurd hp hr
  case case20.refl result hp =>
    refine hsa rfl rfl ?_
    cases result <;> simp [hp, RunPhase.rank, forgetConnection,
      RealtimeClient.afterConnection]
  case case21.refl failure hp =>
    refine hsa rfl rfl ?_
    dsimp only [catchPhase]
    split_ifs <;> simp [hp, RunPhase.rank]
  case case25.refl close last hp =>
    refine hsa rfl rfl ?_
    cases last <;> simp [hp, RunPhase.rank]
  case case27.refl close hp _ =>
    simp only [remaining, hp]
    split_ifs <;> simp only [RunPhase.rank] <;> omega
  case case30.refl failure hp =>
    refine hsa rfl rfl ?_
    dsimp only
    split_ifs <;> simp [hp, RunPhase.rank]
  case case34.refl hp =>
    refine hsa rfl rfl ?_
    dsimp only
    split_ifs <;> simp [hp, RunPhase.rank]
  all_goals
    refine hsa rfl rfl ?_
    simp [*, RunPhase.rank, openConnection]

theorem Elsewhere.remaining (h : Elsewhere s t) : t.remaining ≤ s.remaining := by
  simp only [RealtimeClient.remaining, h.options, h.attempt]
  rcases h.run with hr | ⟨hr, hn | hn | ⟨hn, -⟩⟩
  · rw [hr]
  all_goals
    rw [hr, hn]
    simp [RunPhase.rank]

def Label.isRun : Label → Bool
  | run _ _ => true
  | _ => false

theorem step_remaining (hr : s.run ≠ .reporting) (h : step s label = some t) :
    t.remaining + (if label.isRun = true then 1 else 0) ≤ s.remaining := by
  by_cases hrun : ∃ input first, label = .run input first
  · obtain ⟨input, first, rfl⟩ := hrun
    have hlt := stepRun_remaining hr h
    simp only [Label.isRun, if_true]
    omega
  · have hel := step_elsewhere h (fun input first hl => hrun ⟨input, first, hl⟩)
    have hla : label.isRun = false := by
      cases label with
      | run input first => exact absurd ⟨input, first, rfl⟩ hrun
      | _ => rfl
    simpa [hla] using hel.remaining

theorem run_steps_le {s t : RealtimeClient × Tally} {labels : List Label}
    (hf : countedStep.Along (fun s label => s.1.fails label = true) s labels)
    (h : countedStep.run s labels = some t) :
    t.1.remaining + labels.countP Label.isRun ≤ s.1.remaining := by
  induction labels generalizing s with
  | nil =>
    cases h
    exact Nat.le_refl _
  | cons label labels ih =>
    obtain ⟨u, hu, hrun⟩ := StepFn.run_cons_eq_some.mp h
    have hfa := hf.1
    have hres := ih (hf.2 u hu) hrun
    have hre : s.1.run ≠ .reporting := by
      simp only [fails, Bool.and_eq_true, bne_iff_ne] at hfa
      exact hfa.1.2
    have hone := step_remaining hre (countedStep_eq_some.mp hu).1
    rw [List.countP_cons]
    omega

def Label.isLoop : Label → Bool
  | receive _ | replay _ _ _ | sendLoop _ _ | heartbeat _ _ _ => true
  | _ => false

section Enabled

variable (now : UtcNow) (fresh : Guid)

theorem replay_enabled {phase : ReplayPhase} (hp : s.replay = some phase)
    (hd : phase.isDone = false) : ∃ input, (s.stepReplay input now fresh).isSome = true := by
  cases phase with
  | done => cases hd
  | waiting => exact ⟨.failed .other, by simp only [stepReplay, hp, Option.isSome]⟩
  | commanding pending routes =>
    cases routes with
    | nil => exact ⟨.ok, by simp only [stepReplay, hp, Option.isSome]⟩
    | cons =>
      exact ⟨.failed .other, by simp only [stepReplay, hp, Option.isSome]⟩
  | messages pending =>
    cases pending <;>
      exact ⟨.ok, by simp only [stepReplay, hp, Option.isSome]⟩
  | _ =>
    refine ⟨.ok, ?_⟩
    simp only [stepReplay, hp]
    first | rfl | (split <;> rfl)

theorem receive_enabled (hc : s.tokenCancelled = true) {phase : ReceivePhase}
    (hp : s.receive = some phase) (hd : phase.isDone = false) :
    ∃ input, (s.stepReceive input).isSome = true := by
  cases phase with
  | done => cases hd
  | receiving => exact ⟨.exit, by simp [stepReceive, hp, hc]⟩
  | writing => exact ⟨.failed .cancelled, by simp [stepReceive, hp, hc]⟩
  | filtering =>
    refine ⟨.ok, ?_⟩
    simp only [stepReceive, hp]
    split_ifs <;> rfl
  | _ =>
    refine ⟨.ok, ?_⟩
    simp only [stepReceive, hp]
    first | rfl | (split <;> rfl)

theorem send_enabled (hc : s.tokenCancelled = true) {phase : SendPhase}
    (hp : s.send = some phase) (hd : phase.isDone = false) :
    ∃ input, (s.stepSend input now).isSome = true := by
  cases phase with
  | done => cases hd
  | waiting => exact ⟨.failed .cancelled, by simp [stepSend, hp, hc]⟩
  | _ => exact ⟨.ok, by simp [stepSend, hp]⟩

theorem heartbeat_enabled {phase : HeartbeatPhase} (hp : s.heartbeat = some phase)
    (hd : phase.isDone = false) : ∃ input, (s.stepHeartbeat input now fresh).isSome = true := by
  cases phase with
  | done => cases hd
  | delaying => exact ⟨.failed .other, by simp [stepHeartbeat, hp]⟩
  | acquiring => exact ⟨.failed .other, by simp [stepHeartbeat, hp]⟩
  | _ =>
    refine ⟨.ok, ?_⟩
    simp only [stepHeartbeat, hp]
    first | rfl | (split <;> rfl)

end Enabled

theorem loops_enabled (now : UtcNow) (fresh : Guid) (hc : s.tokenCancelled = true)
    (hd : s.loopsDone = false) :
    ∃ label, label.isLoop = true ∧ (step s label).isSome = true := by
  have hnot {α : Type} {o : Option α} {p : α → Bool} (h : o.all p = false) :
      ∃ a, o = some a ∧ p a = false := by
    cases o with
    | none => cases h
    | some a => exact ⟨a, rfl, h⟩
  simp only [loopsDone, Bool.and_eq_false_iff] at hd
  rcases hd with ((hd | hd) | hd) | hd
  · obtain ⟨phase, hp, hph⟩ := hnot hd
    obtain ⟨input, hen⟩ := receive_enabled hc hp hph
    exact ⟨.receive input, rfl, hen⟩
  · obtain ⟨phase, hp, hph⟩ := hnot hd
    obtain ⟨input, hen⟩ := replay_enabled now fresh hp hph
    exact ⟨.replay input now fresh, rfl, hen⟩
  · obtain ⟨phase, hp, hph⟩ := hnot hd
    obtain ⟨input, hen⟩ := send_enabled now hc hp hph
    exact ⟨.sendLoop input now, rfl, hen⟩
  · obtain ⟨phase, hp, hph⟩ := hnot hd
    obtain ⟨input, hen⟩ := heartbeat_enabled now fresh hp hph
    exact ⟨.heartbeat input now fresh, rfl, hen⟩

theorem Exhausting.enabled (now : UtcNow) (fresh : Guid) (h : Exhausting s tally)
    (hi : s.run ≠ .idle) (hk : s.run ≠ .skipped) (he : s.run ≠ .ended) :
    ∃ label, (label.isRun || label.isLoop) = true ∧ (Client.step s label).isSome = true := by
  have hrun (hok : (s.stepRun .ok .send).isSome = true) :
      ∃ label, (label.isRun || label.isLoop) = true ∧ (Client.step s label).isSome = true :=
    ⟨.run .ok .send, rfl, hok⟩
  cases hr : s.run with
  | idle => exact absurd hr hi
  | skipped => exact absurd hr hk
  | ended => exact absurd hr he
  | awaitingLoops => exact absurd hr h.unconnected
  | awaitingReplay =>
    obtain ⟨-, hso⟩ := h.tasks.some_of_connection (by rw [tasks_run, hr]; rfl)
    obtain ⟨phase, hp⟩ := Option.isSome_iff_exists.mp hso
    rw [tasks_replay] at hp
    by_cases hd : phase.isDone = false
    · obtain ⟨input, hen⟩ := replay_enabled now fresh hp hd
      exact ⟨.replay input now fresh, rfl, hen⟩
    · refine hrun ?_
      cases phase with
      | done result =>
        simp only [stepRun, hr, hp]
        cases result <;> (split <;> first | rfl | simp_all)
      | _ => exact absurd rfl hd
  | observing result =>
    by_cases hd : s.loopsDone = true
    · exact hrun (by simp [stepRun, hr, hd])
    · have hc : s.tokenCancelled = true := by
        rw [tokenCancelled, h.observed result hr, Bool.or_true]
      obtain ⟨label, hl, hen⟩ := loops_enabled now fresh hc (Bool.not_eq_true _ ▸ hd)
      exact ⟨label, by simp [hl], hen⟩
  | _ =>
    refine hrun ?_
    simp only [stepRun, hr]
    first | rfl | (split <;> rfl)

/-- `RunAsync` calls the retry policy with the numbers from one to the limit, and makes at most
as many attempts between two arrivals. While every attempt fails, it can always go on, takes a
bounded number of steps, and ends after one attempt and the reconnects that are allowed. -/
theorem reconnects_bounded {options : RealtimeClientOptions} {labels : List Label}
    {s : RealtimeClient} {tally : Tally}
    (h : countedStep.run ({ options }, {}) labels = some (s, tally)) :
    (∀ attempt ∈ tally.delays, 1 ≤ attempt ∧ attempt ≤ options.maximumReconnectAttempts) ∧
      (∀ attempts ∈ tally.arrivals.tail, attempts ≤ options.maximumReconnectAttempts) ∧
      (countedStep.Along (fun s label => s.1.fails label = true) ({ options }, {}) labels →
        labels.countP Label.isRun ≤ 24 * (options.maximumReconnectAttempts + 2) ∧
        (s.run ≠ .idle → s.run ≠ .skipped → s.run ≠ .ended →
          ∃ label, (label.isRun || label.isLoop) = true ∧ (step s label).isSome = true) ∧
        (s.run = .ended → tally.attempts = options.maximumReconnectAttempts + 1 ∧
          s.state = .faulted ∧ s.completed = true)) := by
  have hpa : Paced s tally ∧ s.options = options := by
    refine StepFn.run_induct (P := fun s => Paced s.1 s.2 ∧ s.1.options = options) ?_
      ⟨paced_initial options, rfl⟩ h
    intro s label t hs ht
    obtain ⟨hst, hob⟩ := countedStep_eq_some.mp ht
    rw [hob]
    exact ⟨hs.1.step hst, (step_paces hst).1.trans hs.2⟩
  obtain ⟨hpa, hop⟩ := hpa
  rw [← hop]
  refine ⟨hpa.delays, hpa.arrivals, ?_⟩
  rw [hop]
  intro hfa
  have hex : Exhausting s tally := by
    refine StepFn.run_induct_along (P := fun s => Exhausting s.1 s.2) ?_
      (exhausting_initial options) hfa h
    intro s label t hs hf ht
    obtain ⟨hst, hob⟩ := countedStep_eq_some.mp ht
    rw [hob]
    exact hs.step hf hst
  refine ⟨?_, hex.enabled exampleClock exampleFresh, ?_⟩
  · have hle := run_steps_le hfa h
    simp only [remaining, RunPhase.rank] at hle
    omega
  · intro hen
    have hat := hex.exhausted (by rw [hen]; rfl)
    rw [hop] at hat
    refine ⟨hat, hex.faulted (by rw [hen]; rfl), ?_⟩
    exact hex.tasks.completed_of_final (by rw [tasks_run, hen]; rfl)
      (by rw [tasks_run, hen]; nofun)

def exampleFailures : List Label :=
  [.connect, .run (.failed .other) .send] ++ runSteps 9 ++ [.run (.failed .other) .send] ++
    runSteps 8

theorem reconnects_bounded_twice : ∃ (s : RealtimeClient) (tally : Tally),
    countedStep.run ({ options := { maximumReconnectAttempts := 1 } }, {}) exampleFailures =
        some (s, tally) ∧
      countedStep.Along (fun s label => s.1.fails label = true)
        ({ options := { maximumReconnectAttempts := 1 } }, {}) exampleFailures ∧
      s.run = .ended ∧ tally.delays = [1] ∧ tally.attempts = 2 ∧ s.state = .faulted ∧
      s.completed = true := by
  have hr : ∃ world, countedStep.run ({ options := { maximumReconnectAttempts := 1 } }, {})
      exampleFailures = some world ∧ world.1.run = .ended ∧ world.2.delays = [1] := by
    decide +kernel
  obtain ⟨⟨s, tally⟩, hrun, hen, hde⟩ := hr
  have hfa : countedStep.Along (fun s label => s.1.fails label = true)
      ({ options := { maximumReconnectAttempts := 1 } }, {}) exampleFailures := by
    decide +kernel
  obtain ⟨-, -, hfai⟩ := reconnects_bounded hrun
  obtain ⟨-, -, hend⟩ := hfai hfa
  exact ⟨s, tally, hrun, hfa, hen, hde, hend hen⟩

end Realtime.Client
