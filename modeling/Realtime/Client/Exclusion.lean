import Realtime.Client.Tasks

/-! The gate of the subscriptions is held by one subscription change or by the
replay, the tentative effect of a change belongs to the holder of the gate, and
the client is only Connected in a connection whose replay has returned. -/

namespace Realtime.Client

def ReplayPhase.holdsGate : ReplayPhase → Bool
  | waiting | done _ => false
  | _ => true

def ChangePhase.holdsGate : ChangePhase → Bool
  | ordering | entering | gating | slotting | regating | returningSendSlot | returningResponseSlot
  | unordering | finished => false
  | _ => true

/-- The change has altered the subscriptions and has neither sent its command
nor undone what it altered. -/
def ChangePhase.isTentative : ChangePhase → Bool
  | awaitingResponse | lastDisposal | confirming | reapplying | registering | enqueuing _
  | rejecting | forgetting | rollingBack => true
  | _ => false

namespace RealtimeClient

structure Exclusive (s : RealtimeClient) : Prop where
  connected_run : s.state = .connected →
    (s.run = .awaitingLoops ∨ ∃ result, s.run = .leaving result) ∧
      ∃ close, s.replay = some (.done (.returned close))
  replay_gate : ∀ phase, s.replay = some phase → phase.holdsGate = true → s.gate = some .replay
  change_gate : ∀ k change, s.changes[k]? = some change → change.phase.holdsGate = true →
    s.gate = some (.change k)
  rollback : ∀ k change, s.changes[k]? = some change → change.phase.isTentative = true →
    s.activeSubscriptionRollback = some k

variable {s t : RealtimeClient} {input : Await} {now : UtcNow} {fresh : Guid} {k : Nat}
  {change next : SubscriptionChange}

theorem holdsGate_of_isTentative {phase : ChangePhase} (h : phase.isTentative = true) :
    phase.holdsGate = true := by
  cases phase <;> first | rfl | cases h

/-- A change takes a step: it takes the gate when it is free, and all else that
is shared here only changes while it holds the gate. -/
theorem Exclusive.of_change (h : s.Exclusive) (hk : s.changes[k]? = some change)
    (hc : t.changes = s.changes.set k next) (hs : t.state = s.state) (hr : t.run = s.run)
    (hp : t.replay = s.replay)
    (hga : t.gate = s.gate ∨ s.gate = none ∨ s.gate = some (.change k))
    (hro : t.activeSubscriptionRollback = s.activeSubscriptionRollback ∨
      s.gate = some (.change k))
    (hne : next.phase.holdsGate = true → t.gate = some (.change k))
    (hte : next.phase.isTentative = true → t.activeSubscriptionRollback = some k) :
    t.Exclusive := by
  have hot {j : Nat} {other : SubscriptionChange} (hj : j ≠ k) :
      t.changes[j]? = some other → s.changes[j]? = some other := by
    rw [hc, List.getElem?_set_ne (Ne.symm hj)]
    exact id
  have hse {other : SubscriptionChange} (ho : t.changes[k]? = some other) : other = next := by
    rw [hc, List.getElem?_set_self (List.getElem?_eq_some_iff.mp hk).1] at ho
    exact (Option.some.inj ho).symm
  constructor
  · rw [hs, hr, hp]
    exact h.connected_run
  · intro phase hph hho
    have hg := h.replay_gate phase (hp ▸ hph) hho
    rcases hga with he | he | he
    · rw [he, hg]
    · rw [hg] at he; cases he
    · rw [hg] at he; cases he
  · intro j other ho hho
    by_cases hj : j = k
    · subst hj
      exact hne (hse ho ▸ hho)
    · have hg := h.change_gate j other (hot hj ho) hho
      rcases hga with he | he | he
      · rw [he, hg]
      · rw [hg] at he; cases he
      · rw [hg] at he
        cases he
        exact absurd rfl hj
  · intro j other ho ht
    by_cases hj : j = k
    · subst hj
      exact hte (hse ho ▸ ht)
    · rcases hro with he | he
      · rw [he]
        exact h.rollback j other (hot hj ho) ht
      · have hg := h.change_gate j other (hot hj ho) (holdsGate_of_isTentative ht)
        rw [hg] at he
        cases he
        exact absurd rfl hj

variable {tooLarge : Bool} {route : Text} {j : Nat}

theorem Exclusive.stepChange (h : s.Exclusive)
    (ht : s.stepChange k input now fresh tooLarge = some t) : t.Exclusive := by
  obtain ⟨change, hk, ht⟩ := stepChange_cases ht
  have hown := h.change_gate k change hk
  have hte := h.rollback k change hk
  rcases ht with ⟨hp, -, ht⟩ | ht | ht | ht <;> revert ht
  all_goals first
    | fun_cases stepRegister
    | fun_cases stepChangeEntry
    | fun_cases stepChangeApply
    | fun_cases stepChangeExit
  all_goals
    intro ht
    cases ht
  -- A change keeps the gate, takes a free one or gives back its own.
  all_goals
    simp only [*, ChangePhase.holdsGate, ChangePhase.isTentative, true_implies] at hown hte
    first
    | exact h.of_change hk rfl rfl rfl rfl (.inl rfl) (.inr hown) (fun _ => hown) (fun _ => hte)
    | exact h.of_change hk rfl rfl rfl rfl (.inl rfl) (.inr hown) (fun _ => hown) (fun _ => rfl)
    | (refine h.of_change hk rfl rfl rfl rfl (.inl rfl) (.inr hown) (fun _ => hown) ?_
       try split_ifs
       all_goals rintro ⟨⟩)
    | (refine h.of_change hk rfl rfl rfl rfl (.inr (.inl ‹s.gate = none›)) (.inl rfl)
        (fun _ => rfl) ?_
       rintro ⟨⟩)
    | (refine h.of_change hk rfl rfl rfl rfl (.inr (.inr hown)) (.inl rfl) ?_ ?_
       all_goals (simp only [SubscriptionChange.goto]; split_ifs)
       all_goals rintro ⟨⟩)
    | (refine h.of_change hk rfl rfl rfl rfl (.inl rfl) (.inl rfl) ?_ ?_
       all_goals try split_ifs
       all_goals rintro ⟨⟩)

theorem Exclusive.of_replay (h : s.Exclusive) {phase next : ReplayPhase}
    (hph : s.replay = some phase) (hd : phase.isDone = false) (hp : t.replay = some next)
    (hc : t.changes = s.changes) (hs : t.state = s.state)
    (hro : t.activeSubscriptionRollback = s.activeSubscriptionRollback)
    (hga : t.gate = s.gate ∨ s.gate = none ∨ s.gate = some .replay)
    (hne : next.holdsGate = true → t.gate = some .replay) : t.Exclusive := by
  constructor
  · intro he
    obtain ⟨-, close, hre⟩ := h.connected_run (hs ▸ he)
    rw [hph] at hre
    cases hre
    cases hd
  · intro other ho hho
    rw [hp] at ho
    cases ho
    exact hne hho
  · intro j other ho hho
    have hg := h.change_gate j other (hc ▸ ho) hho
    rcases hga with he | he | he
    · rw [he, hg]
    · rw [hg] at he; cases he
    · rw [hg] at he; cases he
  · intro j other ho hte
    rw [hro]
    exact h.rollback j other (hc ▸ ho) hte

theorem Exclusive.stepReplay (h : s.Exclusive) (ht : s.stepReplay input now fresh = some t) :
    t.Exclusive := by
  have hga := h.replay_gate
  revert ht
  fun_cases s.stepReplay input now fresh <;> intro ht <;> cases ht
  case case1 hp hg => exact h.of_replay hp rfl rfl rfl rfl rfl (.inr (.inl hg)) (fun _ => rfl)
  case case3 failure hp => exact h.of_replay hp rfl rfl rfl rfl rfl (.inl rfl) (by rintro ⟨⟩)
  case case25 result hp =>
    exact h.of_replay hp rfl rfl rfl rfl rfl (.inr (.inr (hga _ hp rfl))) (by rintro ⟨⟩)
  all_goals
    exact h.of_replay ‹_› rfl rfl rfl rfl rfl (.inl rfl) (fun _ => hga _ ‹_› rfl)

theorem Exclusive.stepRun {first : FirstLoop} (h : s.Exclusive) (hta : s.tasks.Ok)
    (ht : s.stepRun input first = some t) : t.Exclusive := by
  have hco := h.connected_run
  revert ht
  fun_cases s.stepRun input first <;> intro ht <;> cases ht
  case case5 hr =>
    refine { h with connected_run := fun he => ?_, replay_gate := ?_ }
    · have := (hco he).1
      simp [hr] at this
    · intro phase hph hho
      cases hph
      cases hho
  case case11 hr =>
    exact { h with connected_run := fun _ => ⟨.inl rfl, hta.replayed (.inr (.inr hr))⟩ }
  case case20 result hr =>
    refine { h with connected_run := fun he => ?_, replay_gate := (by rintro _ ⟨⟩) }
    have := (hco he).1
    simp [hr] at this
  all_goals
    refine { h with connected_run := ?_ }
    simp only [completeWriters, discardLeftovers, clearPendingSubscriptionMutations]
    intro he
    try split_ifs at he
    all_goals first
    | cases he
    | (obtain ⟨hrun, hre⟩ := hco he
       simp_all)

theorem observeResponse_getElem? {other : SubscriptionChange}
    (ho : (s.observeResponse route)[j]? = some other) :
    ∃ before, s.changes[j]? = some before ∧ other = { before with
      responseObserved := before.responseObserved ||
        (decide (s.activeSubscriptionRollback = some j) && decide (before.route = route)) } := by
  unfold observeResponse at ho
  split at ho
  · exact ⟨other, ho, by simp [*]⟩
  · next k hk =>
    rw [List.getElem?_modify] at ho
    obtain ⟨before, hb, rfl⟩ := Option.map_eq_some_iff.mp ho
    refine ⟨before, hb, ?_⟩
    by_cases hj : k = j <;> simp [hk, hj]

theorem Exclusive.stepReceive (h : s.Exclusive) : s.stepReceive input = some t → t.Exclusive := by
  fun_cases s.stepReceive input <;> intro ht <;> cases ht
  case case11 frame hp mutation hm =>
    refine ⟨h.connected_run, h.replay_gate, ?_, ?_⟩
    · intro j other ho hho
      obtain ⟨before, hb, rfl⟩ := observeResponse_getElem? ho
      exact h.change_gate j before hb hho
    · intro j other ho hte
      obtain ⟨before, hb, rfl⟩ := observeResponse_getElem? ho
      exact h.rollback j before hb hte
  all_goals
    first
    | exact { h with }
    | exact { h with connected_run := (by rintro ⟨⟩) }

theorem changes_concat {changes : List SubscriptionChange} (hn : change.phase ≠ next.phase)
    (ho : (changes ++ [next])[j]? = some change) :
    changes[j]? = some change := by
  rcases Nat.lt_or_ge j changes.length with hj | hj
  · rwa [List.getElem?_append_left hj] at ho
  · rw [List.getElem?_append_right hj] at ho
    exact absurd (congrArg _ (List.mem_singleton.mp (List.mem_of_getElem? ho))) hn

theorem Exclusive.callChange {subscribe : Bool} {correlationId : Option Text} (h : s.Exclusive) :
    s.callChange route subscribe correlationId = some t → t.Exclusive := by
  fun_cases s.callChange route subscribe correlationId <;> intro ht <;> cases ht
  refine ⟨h.connected_run, h.replay_gate, ?_, ?_⟩
  · intro j other ho hho
    refine h.change_gate j other (changes_concat (fun he => ?_) ho) hho
    rw [he] at hho
    cases hho
  · intro j other ho hte
    refine h.rollback j other (changes_concat (fun he => ?_) ho) hte
    rw [he] at hte
    cases hte

theorem Exclusive.step {label : Label} (h : s.Exclusive) (hta : s.tasks.Ok)
    (ht : step s label = some t) : t.Exclusive := by
  have hco := h.connected_run
  cases label with
  | change route subscribe correlationId => exact h.callChange ht
  | changeStep k input now fresh tooLarge => exact h.stepChange ht
  | run input first => exact h.stepRun hta ht
  | receive input => exact h.stepReceive ht
  | replay input now fresh => exact h.stepReplay ht
  | connect | disconnect | dispose =>
    simp only [Client.step, callConnect, callDisconnect, callDispose] at ht
    split_ifs at ht
    all_goals cases ht
    all_goals
      refine { h with connected_run := fun he => ?_ }
      try split_ifs at he
      all_goals first
      | cases he
      | (obtain ⟨hrun, hre⟩ := hco he
         simp_all)
  | _ =>
    obtain ⟨u, rfl⟩ := step_footprint _ ht
    exact { h with }

theorem exclusive_initial (options : RealtimeClientOptions) : Exclusive { options } where
  connected_run := nofun
  replay_gate := nofun
  change_gate := by simp
  rollback := by simp

end RealtimeClient

end Realtime.Client
