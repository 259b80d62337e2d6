import Realtime.Client.Tasks

/-! The life cycle of the client. The run loop, the receive loop and the callers
of `DisconnectAsync` all write the state, and the run loop decides whether it
reconnects by the task whose completion it observes first. Where the run loop
stands when the client is ended, and what it then observes, decide whether it
comes round once more. -/

namespace Realtime.Client

open RealtimeClient

def Completion.isHarmless (cancelled : Bool) : Completion → Bool
  | .threw .protocol | .threw .insecure => true
  | .threw .cancelled => cancelled
  | .threw .other => false
  | .returned close => cancelled || close.any RealtimeTransportClose.isNormal

namespace RunPhase

/-- From here `RunAsync` goes to its end, whatever it still awaits ends with. -/
def isDoomed (cancelled : Bool) : RunPhase → Bool
  | idle | announcing | authenticating | connecting | awaitingReplay | reporting
  | awaitingLoops | retrying | rescheduling | delaying => false
  | leaving result | cancelling result | observing result | clearing result =>
    result.isHarmless cancelled
  | catching failure => (Completion.threw failure).isHarmless cancelled
  | closing close last => last || cancelled || close.any RealtimeTransportClose.isNormal
  | checking close => cancelled || close.any RealtimeTransportClose.isNormal
  | head => cancelled
  | _ => true

/-- `RunAsync` waits for the loops of a connection or for the next attempt. -/
def isWaiting : RunPhase → Bool
  | awaitingReplay | awaitingLoops | delaying => true
  | _ => false

def standsFirm (cancelled : Bool) (phase : RunPhase) : Bool :=
  phase.isWaiting || phase.isDoomed cancelled

def isConnected : RunPhase → Bool
  | awaitingLoops | leaving _ => true
  | _ => false

end RunPhase

/-- The receive loop holds a close after which it reports Reconnecting. -/
def ReceivePhase.announcesReconnect : ReceivePhase → Bool
  | closing close => !close.isNormal
  | _ => false

namespace RealtimeClient

/-- The step makes the client Stopping or Faulted from outside of `RunAsync`. -/
def endsClient (s : RealtimeClient) : Label → Bool
  | .disconnect => s.run != .idle
  | .receive .ok =>
    match s.receive with
    | some .failing => true
    | some (.closing close) => close.isNormal
    | _ => false
  | _ => false

/-- A client that accepts messages is ended only where `RunAsync` waits for the
loops of a connection or for the next attempt, or does not come round any more. If
it waits, what then ends the wait is nothing after which it comes round. -/
def orderly (s : RealtimeClient) : Label → Bool
  | .run input first =>
    s.acceptingSends || !s.run.isWaiting ||
      (s.stepRun input first).all (fun t => t.run.isDoomed s.cancelled)
  | label => !s.acceptingSends || !s.endsClient label || s.run.standsFirm s.cancelled

/-- The receive loop does not hold a close after which it reports Reconnecting. -/
def announcesNothing (s : RealtimeClient) : Bool :=
  s.receive.all (fun phase => !phase.announcesReconnect)

end RealtimeClient

def Label.isDispose : Label → Bool
  | .dispose => true
  | _ => false

structure Life where
  run : RunPhase
  state : RealtimeClientState
  acceptingSends : Bool
  cancelled : Bool
  opened : Nat
  announcesNothing : Bool

def RealtimeClient.life (s : RealtimeClient) : Life :=
  ⟨s.run, s.state, s.acceptingSends, s.cancelled, s.opened, s.announcesNothing⟩

namespace Life

def isEnding (l : Life) : Bool := l.state == .stopping || l.state == .faulted

structure Ok (l : Life) : Prop where
  firm : l.acceptingSends = false → l.run.standsFirm l.cancelled = true
  refuses : l.isEnding = true ∨ l.run = .faulting → l.acceptingSends = false
  connected : l.state = .connected → l.acceptingSends = true ∧ l.run.isConnected = true

def Over (l : Life) : Prop :=
  l.acceptingSends = false ∧ l.state ≠ .connecting ∧ l.state ≠ .connected

/-- What every step of an orderly run keeps: an ended client opens nothing, and
only an announced reconnect is reported. -/
def Step (l m : Life) : Prop :=
  m.Ok ∧ (l.Over → m.Over ∧ m.opened = l.opened ∧
    (m.state = .reconnecting → l.state = .reconnecting ∨ l.announcesNothing = false))

variable {l : Life} {cancelled announcesNothing : Bool} {result : Completion}
  {state : RealtimeClientState} {phase next : RunPhase}

theorem isHarmless_mono (h : result.isHarmless cancelled = true) :
    result.isHarmless true = true := by
  rcases result with close | failure
  · rfl
  · cases failure <;> first | rfl | cases h

theorem isDoomed_mono (h : phase.isDoomed cancelled = true) : phase.isDoomed true = true := by
  cases phase <;> first | rfl | cases h | exact isHarmless_mono h | simp [RunPhase.isDoomed]

theorem standsFirm_iff : phase.standsFirm cancelled = true ↔
    phase.isWaiting = true ∨ phase.isDoomed cancelled = true := by
  simp [RunPhase.standsFirm]

theorem standsFirm_of_isDoomed (h : phase.isDoomed cancelled = true) :
    phase.standsFirm cancelled = true := standsFirm_iff.mpr (.inr h)

theorem standsFirm_mono (h : phase.standsFirm cancelled = true) :
    phase.standsFirm true = true := by
  rw [standsFirm_iff] at h ⊢
  exact h.imp_right isDoomed_mono

theorem Ok.heard (h : l.Ok) : Step l { l with announcesNothing := announcesNothing } :=
  ⟨⟨h.firm, h.refuses, h.connected⟩, fun ho => ⟨ho, rfl, .inl⟩⟩

theorem Ok.cancel (h : l.Ok) : Step l { l with cancelled := true } :=
  ⟨⟨fun ha => standsFirm_mono (h.firm ha), h.refuses, h.connected⟩, fun ho => ⟨ho, rfl, .inl⟩⟩

theorem ended (hf : l.run.standsFirm l.cancelled = true)
    (hs : state = .stopping ∨ state = .faulted ∨ state = .disconnected) :
    Step l { l with
      state := state, acceptingSends := false, announcesNothing := announcesNothing } := by
  refine ⟨⟨fun _ => hf, fun _ => rfl, ?_⟩, fun _ => ⟨⟨rfl, ?_, ?_⟩, rfl, ?_⟩⟩
  all_goals rcases hs with rfl | rfl | rfl <;> simp

theorem Ok.announced (h : l.Ok) (ha : l.announcesNothing = false) :
    Step l { l with state := .reconnecting, announcesNothing := announcesNothing } := by
  refine ⟨⟨h.firm, ?_, by simp⟩, fun ho => ⟨⟨ho.1, by simp, by simp⟩, rfl, fun _ => .inr ha⟩⟩
  rintro (he | hf)
  · cases he
  · exact h.refuses (.inr hf)

/-- The moves of `RunAsync` that write neither the state nor the send flag. -/
theorem Ok.of_run (h : l.Ok) (hp : l.run = phase) (hf : next ≠ .faulting)
    (hc : phase.isConnected = true → next.isConnected = true)
    (hd : l.acceptingSends = false → phase.standsFirm l.cancelled = true →
      next.isDoomed l.cancelled = true) :
    Step l { l with run := next, announcesNothing := announcesNothing } := by
  subst hp
  refine ⟨⟨fun ha => standsFirm_of_isDoomed (hd ha (h.firm ha)), ?_, fun he => ?_⟩,
    fun ho => ⟨ho, rfl, .inl⟩⟩
  · rintro (he | he)
    · exact h.refuses (.inl he)
    · exact absurd he hf
  · exact ⟨(h.connected he).1, hc (h.connected he).2⟩

/-- Where `RunAsync` does not stand firm, the client accepts messages. -/
theorem Ok.goesOn (h : l.Ok) (hr : l.run.standsFirm l.cancelled = false) {m : Life}
    (ha : m.acceptingSends = l.acceptingSends) (hf : m.run ≠ .faulting)
    (he : m.isEnding = true → l.isEnding = true)
    (hc : m.state = .connected → m.run.isConnected = true) : Step l m := by
  have hla : l.acceptingSends = true := by
    by_contra hla
    simp [h.firm (by simpa using hla)] at hr
  have hma := ha.trans hla
  refine ⟨⟨fun hb => ?_, ?_, fun hs => ⟨hma, hc hs⟩⟩, fun ho => ?_⟩
  · simp [hma] at hb
  · rintro (hend | hrun)
    · exact ha.trans (h.refuses (.inl (he hend)))
    · exact absurd hrun hf
  · simp [ho.1] at hla

theorem Ok.stopsSends (h : l.Ok) (hp : l.run.isConnected = false)
    (hn : next.isDoomed l.cancelled = true) :
    Step l { l with
      run := next, acceptingSends := false, announcesNothing := announcesNothing } := by
  refine ⟨⟨fun _ => standsFirm_of_isDoomed hn, fun _ => rfl, fun he => ?_⟩,
    fun ho => ⟨⟨rfl, ho.2⟩, rfl, .inl⟩⟩
  simp [(h.connected he).2] at hp

theorem Ok.left (h : l.Ok) (hr : l.run = .leaving result) :
    Step l { l with
      run := .cancelling result
      state := if l.state = .connected then .reconnecting else l.state } := by
  by_cases hc : l.state = .connected
  · have ha := (h.connected hc).1
    refine ⟨⟨fun hb => by simp [ha] at hb, by simp [isEnding, hc], by simp [hc]⟩, fun ho => ?_⟩
    simp [ho.1] at ha
  · simp only [if_neg hc]
    refine ⟨⟨fun ha => ?_, ?_, fun he => absurd he hc⟩, fun ho => ⟨ho, rfl, .inl⟩⟩
    · have hd := h.firm ha
      rw [hr] at hd
      exact hd
    · rintro (he | he)
      · exact h.refuses (.inl he)
      · cases he

theorem closes (hn : ∀ cancelled, next.isDoomed cancelled = true)
    (hf : next ≠ .faulting) (hs : state = .faulted ∧ l.acceptingSends = false ∨
      state = .disconnected) :
    Step l { l with run := next, state := state } := by
  refine ⟨⟨fun _ => standsFirm_of_isDoomed (hn _), ?_, ?_⟩, fun ho => ⟨⟨ho.1, ?_, ?_⟩, rfl, ?_⟩⟩
  · rintro (he | he)
    · rcases hs with ⟨-, ha⟩ | rfl
      · exact ha
      · cases he
    · exact absurd he hf
  all_goals rcases hs with ⟨rfl, -⟩ | rfl <;> simp

end Life

variable {s t : RealtimeClient} {input : Await} {k : Nat} {label : Label}

theorem isDoomed_catchPhase {failure : Failure}
    (h : (Completion.threw failure).isHarmless s.cancelled = true) :
    (s.catchPhase failure).isDoomed s.cancelled = true := by
  unfold catchPhase
  cases failure with
  | cancelled =>
    have hc : s.cancelled = true := h
    simp [hc, RunPhase.isDoomed]
  | protocol => rfl
  | insecure => rfl
  | other => cases h

theorem isDoomed_of_orderly {first : FirstLoop} (ho : s.orderly (.run input first) = true)
    (ha : s.acceptingSends = false) (hw : s.run.isWaiting = true)
    (ht : s.stepRun input first = some t) : t.run.isDoomed s.cancelled = true := by
  simpa [orderly, ha, hw, ht] using ho

theorem stepRun_life {first : FirstLoop} (h : s.life.Ok)
    (ho : s.orderly (.run input first) = true) (ht : s.stepRun input first = some t) :
    Life.Step s.life t.life := by
  have hdoom (ha : s.acceptingSends = false) {phase : RunPhase} (hr : s.run = phase)
      (hw : phase.isWaiting = true) : t.run.isDoomed s.cancelled = true :=
    isDoomed_of_orderly ho ha (hr ▸ hw) ht
  have hfirm {phase : RunPhase} (hr : s.run = phase) (hp : phase.standsFirm s.cancelled = false) :
      s.life.run.standsFirm s.life.cancelled = false := by
    rw [← hr] at hp
    exact hp
  revert ht
  fun_cases s.stepRun input first <;> intro ht <;> cases ht
  -- The moves that can make a client come round: it accepts messages then.
  case case2 hr =>
    refine h.goesOn (hfirm hr rfl) rfl (by simp [life]) ?_ ?_
    · by_cases h0 : s.reconnectAttempt = 0 <;> simp [life, Life.isEnding, h0]
    · by_cases h0 : s.reconnectAttempt = 0 <;> simp [life, h0]
  case case5 hr =>
    refine h.goesOn (hfirm hr rfl) rfl (by simp [life, openConnection]) id (fun he => ?_)
    have hc := (h.connected he).2
    simp [life, hr, RunPhase.isConnected] at hc
  case case11 hr =>
    exact h.goesOn (hfirm hr rfl) rfl (by simp [life, reportConnected]) (fun he => by cases he)
      (fun _ => rfl)
  case case22 hr | case28 hr =>
    exact h.goesOn (hfirm hr rfl) rfl (by simp [life]) (fun he => by cases he)
      (fun he => by cases he)
  -- The moves of a client that ends.
  case case16 result hr => exact h.left hr
  case case23 hr | case31 hr => exact h.stopsSends (by simp [life, hr, RunPhase.isConnected]) rfl
  case case24 hr =>
    exact Life.closes (fun _ => rfl) (by simp) (.inl ⟨rfl, h.refuses (.inr hr)⟩)
  case case35 hr => exact Life.closes (fun _ => rfl) (by simp) (.inr rfl)
  -- The end of a wait.
  case case7 hr _ _ | case8 hr _ _ _ | case9 hr _ _ _ | case12 hr _ _ | case13 hr _ _ _
      | case14 hr _ _ _ | case29 hr =>
    exact h.of_run hr (by simp) (by simp [RunPhase.isConnected]) (fun ha _ => hdoom ha hr rfl)
  case case1 hr =>
    refine h.of_run hr (by split_ifs <;> simp) (by simp [RunPhase.isConnected]) (fun _ hd => ?_)
    have hc : s.cancelled = true := hd
    simp [hc, RunPhase.isDoomed]
  case case20 result hr =>
    have hn : (s.forgetConnection result).run = RealtimeClient.afterConnection result := rfl
    refine h.of_run hr ?_ (by simp [RunPhase.isConnected]) (fun _ hd => ?_)
    · rw [hn]
      cases result <;> simp [RealtimeClient.afterConnection]
    · cases result <;> exact hd
  case case21 failure hr =>
    refine h.of_run hr ?_ (by simp [RunPhase.isConnected]) (fun _ hd => isDoomed_catchPhase hd)
    unfold catchPhase
    split_ifs <;> simp
  case case25 close last hr =>
    refine h.of_run hr (by cases last <;> simp) (by simp [RunPhase.isConnected]) (fun _ hd => ?_)
    cases last with
    | true => rfl
    | false => exact hd
  case case27 close hr hn =>
    refine h.of_run hr (by split_ifs <;> simp) (by simp [RunPhase.isConnected]) (fun _ hd => ?_)
    exact absurd hd hn
  case case30 hr | case34 hr =>
    exact h.of_run hr (by split_ifs <;> simp) (by simp [RunPhase.isConnected])
      (fun _ _ => by split_ifs <;> rfl)
  -- In the other cases the result of the connection is handed on.
  all_goals
    refine h.of_run (by assumption) (by simp) (by simp [RunPhase.isConnected]) (fun _ hd => ?_)
    first
    | rfl
    | exact hd
    | cases hd

theorem firm_of_orderly (h : s.life.Ok) (ho : s.orderly label = true)
    (he : s.endsClient label = true) : s.run.standsFirm s.cancelled = true := by
  cases ha : s.acceptingSends with
  | true => cases label <;> first | cases he | simpa [orderly, ha, he] using ho
  | false => exact h.firm ha

theorem stepReceive_life (h : s.life.Ok) (ho : s.orderly (.receive input) = true) :
    s.stepReceive input = some t → Life.Step s.life t.life := by
  fun_cases s.stepReceive input <;> intro ht <;> cases ht
  case case5 hp =>
    exact Life.ended (firm_of_orderly h ho (by simp [endsClient, hp])) (.inr (.inl rfl))
  case case6 close hp hn =>
    exact Life.ended (firm_of_orderly h ho (by simp [endsClient, hp, hn])) (.inl rfl)
  case case7 close hp hn =>
    exact h.announced (by simpa [life, RealtimeClient.announcesNothing, hp,
      ReceivePhase.announcesReconnect] using hn)
  all_goals exact h.heard

theorem stepReceived_life {received : Received} (h : s.life.Ok) :
    s.stepReceived received = some t → Life.Step s.life t.life := by
  fun_cases s.stepReceived received <;> intro ht <;> cases ht
  all_goals exact h.heard

theorem stepStopper_life (hk : s.tasks.Ok) (h : s.life.Ok) :
    s.stepStopper k = some t → Life.Step s.life t.life := by
  fun_cases s.stepStopper k <;> intro ht <;> cases ht
  case case1 => exact h.cancel
  all_goals
    have hr : s.run = .skipped :=
      hk.skipped_of_stopper _ (List.mem_of_getElem? ‹s.stoppers[k]? = _›) rfl
  case case2 =>
    have hd : s.run.isDoomed s.cancelled = true := by simp [hr, RunPhase.isDoomed]
    exact h.stopsSends (by simp [life, hr, RunPhase.isConnected]) hd
  all_goals exact h.heard

theorem callConnect_life (h : s.life.Ok) : s.callConnect = some t → Life.Step s.life t.life := by
  fun_cases callConnect s <;> intro ht <;> cases ht
  all_goals have hr : s.run = .idle := not_not.mp ‹¬ s.run ≠ .idle›
  · exact h.of_run hr (by simp) (by simp [RunPhase.isConnected]) (fun _ _ => rfl)
  · refine h.goesOn ?_ rfl (by simp [life]) (fun he => by cases he) (fun he => by cases he)
    simp [life, hr, RunPhase.standsFirm, RunPhase.isWaiting, RunPhase.isDoomed]

theorem callDisconnect_life (h : s.life.Ok) (ho : s.orderly .disconnect = true) :
    s.callDisconnect = some t → Life.Step s.life t.life := by
  fun_cases callDisconnect s <;> intro ht <;> cases ht
  case case2 hr => exact h.stopsSends (by simp [life, hr, RunPhase.isConnected]) rfl
  case case3 hr hc =>
    refine h.stopsSends ?_ ?_
    · revert hc
      simp only [life]
      cases s.run <;> simp [RunPhase.isCompleted, RunPhase.isConnected]
    · revert hc
      simp only [life]
      cases s.run <;> simp [RunPhase.isCompleted, RunPhase.isDoomed]
  case case4 hr _ =>
    refine Life.ended (firm_of_orderly h ho (by simp [endsClient, hr])) ?_
    by_cases hd : s.state = .disconnected ∨ s.state = .faulted
    · rcases hd with hd | hd <;> simp [hd]
    · simp [hd]

theorem step_life (hk : s.tasks.Ok) (h : s.life.Ok) (hd : label.isDispose = false)
    (ho : s.orderly label = true) (ht : step s label = some t) : Life.Step s.life t.life := by
  cases label with
  | connect => exact callConnect_life h ht
  | cancelConnect =>
    simp only [step, Option.ite_none_right_eq_some, Option.some.injEq] at ht
    obtain ⟨-, rfl⟩ := ht
    exact h.cancel
  | disconnect => exact callDisconnect_life h ho ht
  | dispose => cases hd
  | stopper k => exact stepStopper_life hk h ht
  | run input first => exact stepRun_life h ho ht
  | received received => exact stepReceived_life h ht
  | receive input => exact stepReceive_life h ho ht
  | _ =>
    obtain ⟨u, rfl⟩ := step_footprint _ ht
    exact h.heard

theorem life_initial (options : RealtimeClientOptions) :
    (RealtimeClient.life { options }).Ok where
  firm ha := by cases ha
  refuses := by simp [life, Life.isEnding]
  connected hc := by cases hc

/-- The steps that the life cycle is claimed for, under the condition that it needs. -/
def Orderly (s : RealtimeClient) (label : Label) : Prop :=
  label.isDispose = false ∧ s.orderly label = true

instance (s : RealtimeClient) (label : Label) : Decidable (Orderly s label) :=
  inferInstanceAs (Decidable (_ ∧ _))

theorem run_life {labels : List Label} (hk : s.tasks.Ok) (h : s.life.Ok)
    (ho : step.Along Orderly s labels) (ht : step.run s labels = some t) :
    t.tasks.Ok ∧ t.life.Ok :=
  StepFn.run_induct_along (P := fun s => s.tasks.Ok ∧ s.life.Ok)
    (fun _ _ _ h ho ht => ⟨step_tasks h.1 ht, (step_life h.1 h.2 ho.1 ho.2 ht).1⟩) ⟨hk, h⟩ ho ht

/-- An ended client stays ended, and it reports Reconnecting only when its
receive loop has been handed a reconnect. -/
theorem run_over {labels : List Label} (hk : s.tasks.Ok) (h : s.life.Ok) (hv : s.life.Over)
    (ho : step.Along Orderly s labels) (ht : step.run s labels = some t) :
    t.life.Over ∧ t.opened = s.opened ∧
      (s.state ≠ .reconnecting → step.Along (fun u _ => u.announcesNothing = true) s labels →
        t.state ≠ .reconnecting) := by
  induction labels generalizing s with
  | nil =>
    cases ht
    exact ⟨hv, rfl, fun hs _ => hs⟩
  | cons label labels ih =>
    obtain ⟨u, hu, hr⟩ := StepFn.run_cons_eq_some.mp ht
    obtain ⟨ok, hstep⟩ := step_life hk h ho.1.1 ho.1.2 hu
    obtain ⟨hov, hop, hre⟩ := hstep hv
    obtain ⟨hov', hop', hre'⟩ := ih (step_tasks hk hu) ok hov (ho.2 u hu) hr
    refine ⟨hov', hop'.trans hop, fun hs ha => hre' (fun hur => ?_) (ha.2 u hu)⟩
    have hn := (hre hur).resolve_left hs
    simp [life, ha.1] at hn

/-- `DisconnectAsync` while the loops wait. -/
def disconnectBefore : List Label := connectSteps ++ [.disconnect]

def disconnectAfter : List Label :=
  [.stopper 0, .receive .exit, .receive .ok] ++ runSteps 3 ++
    [.sendLoop (.failed .cancelled) exampleClock,
      .heartbeat (.failed .cancelled) exampleClock exampleFresh] ++ runSteps 9

def faultBefore : List Label :=
  connectSteps ++
    [.send (exampleMessage [1]) exampleClock false, .sender 0 .ok, .sender 0 .ok,
      .sendLoop .ok exampleClock, .received .malformed, .receive .ok]

/-- The send fails before the receive loop has ended, and the run loop observes it. -/
def faultAfter : List Label :=
  [.sendLoop (.failed .other) exampleClock, .sendLoop .ok exampleClock] ++ runSteps 3 ++
    [.receive .ok, .heartbeat (.failed .cancelled) exampleClock exampleFresh] ++ runSteps 12 ++
    replaySteps 11 ++ runSteps 2

end Realtime.Client
