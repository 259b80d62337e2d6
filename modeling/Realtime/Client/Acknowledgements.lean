import Realtime.Client.Heartbeats

/-! What the application sees of acknowledgements: those of its own pings, all of them and in
order, and none of an automatic heartbeat. The frames that the receive loop takes are followed
through the loop and the inbound channel to `ReceiveAsync`. -/

namespace Realtime.Client

open RealtimeClient List

def ServerFrame.acknowledgesPing (frame : ServerFrame) : Bool :=
  frame.envelope.type == some ProtocolMessageTypes.acknowledge &&
    frame.answers.any (fun message => message.isApplication &&
      message.envelope.type == some ProtocolMessageTypes.ping)

def ReceivePhase.held : ReceivePhase → List ServerFrame
  | filtering frame | responding frame | releasing frame | writing frame => [frame]
  | _ => []

/-- What the application and the server see of the client: the frames that the receive loop took
from the connection, those in the inbound channel and those that `ReceiveAsync` returned, and the
messages that the replay sent again. -/
structure Observed where
  taken : List ServerFrame := []
  buffered : List ServerFrame := []
  returned : List ServerFrame := []
  replayed : List OutboundMessage := []

/-- What is seen when the client takes a step from `s`. -/
def Observed.after (o : Observed) (s : RealtimeClient) : Label → Observed
  | .received .message => { o with taken := o.taken ++ s.frames.head?.toList }
  | .receive .ok =>
    match s.receive with
    | some (.writing frame) =>
      if s.completed then o else { o with buffered := o.buffered ++ [frame] }
    | _ => o
  | .consume =>
    { o with
      buffered := o.buffered.tail
      returned := o.returned ++ o.buffered.head?.toList }
  | .run .ok _ => if s.run = .discarding then { o with buffered := [] } else o
  | .stopper k => if s.stoppers[k]? = some .discarding then { o with buffered := [] } else o
  | .replay .ok _ _ =>
    match s.replay with
    | some (.messages (message :: _)) => { o with replayed := o.replayed ++ [message] }
    | _ => o
  | _ => o

def observedStep : StepFn (RealtimeClient × Observed) Label := fun world label =>
  (step world.1 label).map (fun t => (t, world.2.after world.1 label))

/-- A new heartbeat evicts none that is still on its way, and no acknowledgement of a ping is
given up on its way to `ReceiveAsync`: neither by a cancelled write nor with the channel. -/
def unhurried (world : RealtimeClient × Observed) : Label → Bool
  | .heartbeat .ok now fresh =>
    match world.1.heartbeat with
    | some .delaying => world.1.evictsNone now fresh
    | _ => true
  | .receive (.failed _) =>
    match world.1.receive with
    | some (.writing frame) => !frame.acknowledgesPing
    | _ => true
  | .run .ok _ =>
    world.1.run ≠ .discarding || world.2.buffered.all (fun frame => !frame.acknowledgesPing)
  | .stopper k =>
    world.1.stoppers[k]? ≠ some .discarding ||
      world.2.buffered.all (fun frame => !frame.acknowledgesPing)
  | _ => true

def RealtimeClient.held (s : RealtimeClient) : List ServerFrame :=
  s.receive.elim [] ReceivePhase.held

structure Shown (options : RealtimeClientOptions) (world : RealtimeClient × Observed) : Prop where
  hidden : world.1.Hidden
  slots : world.1.SlotsKept options
  inbound : world.1.inbound = world.2.buffered.map ServerFrame.envelope
  clean : ∀ frame ∈ world.2.returned ++ world.2.buffered, frame.acknowledgesHeartbeat = false
  replayed : ∀ message ∈ world.2.replayed, message.origin ≠ .heartbeat
  pings : world.2.taken.filter ServerFrame.acknowledgesPing =
    world.2.returned.filter ServerFrame.acknowledgesPing ++
      world.2.buffered.filter ServerFrame.acknowledgesPing ++
        world.1.held.filter ServerFrame.acknowledgesPing

section

variable {options : RealtimeClientOptions} {s t : RealtimeClient} {o : Observed} {input : Await}
  {now : UtcNow} {fresh : Guid} {k : Nat} {label : Label}

theorem Shown.unseen (h : Shown options (s, o)) (hidden : t.Hidden) (slots : t.SlotsKept options)
    (hin : t.inbound = s.inbound)
    (hhe : t.held.filter ServerFrame.acknowledgesPing =
      s.held.filter ServerFrame.acknowledgesPing) : Shown options (t, o) where
  hidden := hidden
  slots := slots
  inbound := hin.trans h.inbound
  clean := h.clean
  replayed := h.replayed
  pings := by
    rw [hhe]
    exact h.pings

theorem Shown.discarded (h : Shown options (s, o)) (hidden : t.Hidden)
    (slots : t.SlotsKept options) (hin : t.inbound = []) (hhe : t.held = s.held)
    (hno : o.buffered.all (fun frame => !frame.acknowledgesPing) = true) :
    Shown options (t, { o with buffered := [] }) where
  hidden := hidden
  slots := slots
  inbound := hin
  clean frame hm := h.clean frame (by
    rw [append_nil] at hm
    exact mem_append_left _ hm)
  replayed := h.replayed
  pings := by
    have hpi := h.pings
    have hem : o.buffered.filter ServerFrame.acknowledgesPing = [] := by
      rw [filter_eq_nil_iff]
      intro frame hm
      simpa using all_eq_true.mp hno frame hm
    simp only [hem, append_nil, hhe, filter_nil] at hpi ⊢
    exact hpi

theorem Shown.stopper (h : Shown options (s, o)) (hidden : t.Hidden)
    (slots : t.SlotsKept options) (hok : unhurried (s, o) (.stopper k) = true) :
    s.stepStopper k = some t → Shown options (t, o.after s (.stopper k)) := by
  fun_cases s.stepStopper k <;> intro ht <;> cases ht
  case case3.refl hk =>
    simp only [unhurried, hk, ne_eq, not_true_eq_false, decide_false, Bool.false_or] at hok
    simp only [Observed.after, hk, if_true]
    exact h.discarded hidden slots rfl rfl hok
  all_goals
    simp only [Observed.after, ‹s.stoppers[k]? = _›, Option.some.injEq, reduceCtorEq, if_false]
    exact h.unseen hidden slots rfl rfl

theorem Shown.run {first : FirstLoop} (h : Shown options (s, o)) (hidden : t.Hidden)
    (slots : t.SlotsKept options) (hok : unhurried (s, o) (.run input first) = true)
    (ht : s.stepRun input first = some t) : Shown options (t, o.after s (.run input first)) := by
  have hta := h.hidden.delivering.tasks
  revert ht
  fun_cases s.stepRun input first <;> intro ht <;> cases ht
  case case32.refl hr =>
    simp only [unhurried, hr, ne_eq, not_true_eq_false, decide_false, Bool.false_or] at hok
    simp only [Observed.after, hr, if_true]
    exact h.discarded hidden slots rfl rfl hok
  all_goals simp only [Observed.after, ‹s.run = _›, reduceCtorEq, if_false]
  case case5.refl hr =>
    refine h.unseen hidden slots rfl ?_
    have hno : s.receive = none := (hta.none_of_idle (by rw [tasks_run, hr]; rfl)).1
    rw [held, held, hno]
    rfl
  case case20.refl result hr =>
    refine h.unseen hidden slots rfl ?_
    have hdo : s.receive.all ReceivePhase.isDone = true := by
      have hall := hta.done_of_clearing result hr
      simp only [Tasks.allDone, tasks_receive, Bool.and_eq_true] at hall
      exact hall.1.1.1
    have hnil : s.held = [] := by
      rw [held]
      cases hre : s.receive with
      | none => rfl
      | some phase =>
        rw [hre] at hdo
        cases phase <;> first | rfl | cases hdo
    rw [hnil]
    rfl
  all_goals exact h.unseen hidden slots rfl rfl

variable {frame : ServerFrame}

theorem acknowledgesPing_answers (h : frame.acknowledgesPing = true) :
    frame.answers ≠ none := by
  intro hn
  simp [ServerFrame.acknowledgesPing, hn] at h

theorem Shown.received {received : Received} (h : Shown options (s, o)) (hidden : t.Hidden)
    (slots : t.SlotsKept options) : s.stepReceived received = some t →
    Shown options (t, o.after s (.received received)) := by
  fun_cases s.stepReceived received <;> intro ht <;> cases ht
  case case1.refl hp frame frames hf =>
    refine ⟨hidden, slots, h.inbound, h.clean, h.replayed, ?_⟩
    have hpi := h.pings
    have hnil : s.held = [] := by rw [held, hp]; rfl
    simp only [hnil, filter_nil, append_nil] at hpi
    show (o.taken ++ s.frames.head?.toList).filter _ = o.returned.filter _ ++ o.buffered.filter _ ++
      (RealtimeClient.receivedPhase frame).held.filter _
    rw [hf, head?_cons, Option.toList_some, filter_append, hpi]
    by_cases hpin : frame.acknowledgesPing = true
    · have hok := h.hidden.frames frame (by simp [unprocessed, hf])
      rw [hok.receivedPhase_eq (acknowledgesPing_answers hpin)]
      rfl
    · have hhe : (RealtimeClient.receivedPhase frame).held = [] ∨
          (RealtimeClient.receivedPhase frame).held = [frame] := by
        unfold receivedPhase
        split_ifs
        · exact .inl rfl
        · exact .inr rfl
        · exact .inl rfl
      rcases hhe with he | he <;> simp [he, hpin]
  all_goals
    refine h.unseen hidden slots rfl ?_
    rw [held, held, ‹s.receive = _›]
    rfl

theorem Shown.not_ping_of_filter (h : Shown options (s, o))
    (hp : s.receive = some (.filtering frame))
    (hdr : frame.envelope.type = some ProtocolMessageTypes.ping ∨ s.isHeartbeatAcknowledgement
      frame.envelope = true) : frame.acknowledgesPing = false := by
  rcases hdr with hty | hfi
  · have hne : ProtocolMessageTypes.ping ≠ ProtocolMessageTypes.acknowledge := by decide
    simp [ServerFrame.acknowledgesPing, hty, hne]
  · obtain ⟨message, ha, ho, -⟩ := h.hidden.answers_of_filter hp hfi
    simp [ServerFrame.acknowledgesPing, ha, OutboundMessage.isApplication, ho]

theorem Shown.not_completed (h : Shown options (s, o)) {phase : ReceivePhase}
    (hp : s.receive = some phase) : s.completed = false := by
  by_contra hc
  have hta := h.hidden.delivering.tasks
  have hfi := hta.final_of_completed (by simpa using hc)
  have hid : s.run.inConnection = false := by
    rw [tasks_run] at hfi
    cases hr : s.run <;> rw [hr] at hfi <;> first | rfl | cases hfi
  have hno : s.receive = none := (hta.none_of_idle hid).1
  rw [hno] at hp
  cases hp

theorem Shown.dropped (h : Shown options (s, o)) (hidden : t.Hidden) (slots : t.SlotsKept options)
    (hin : t.inbound = s.inbound) (hs : s.held = [frame]) (ht : t.held = [])
    (hpi : frame.acknowledgesPing = false) : Shown options (t, o) := by
  refine h.unseen hidden slots hin ?_
  rw [hs, ht]
  simp [hpi]

theorem Shown.receive (h : Shown options (s, o)) (hidden : t.Hidden) (slots : t.SlotsKept options)
    (hok : unhurried (s, o) (.receive input) = true) : s.stepReceive input = some t →
    Shown options (t, o.after s (.receive input)) := by
  fun_cases s.stepReceive input <;> intro ht <;> cases ht
  case case14.refl frame hp hco =>
    rw [h.not_completed hp] at hco
    cases hco
  case case15.refl frame hp hco _ =>
    have hhe : s.held = [frame] := by rw [held, hp]; rfl
    have hpi := h.pings
    have haf : o.after s (.receive .ok) = { o with buffered := o.buffered ++ [frame] } := by
      simp only [Observed.after, hp, hco, Bool.false_eq_true, if_false]
    rw [haf]
    refine ⟨hidden, slots, ?_, ?_, h.replayed, ?_⟩
    · show s.inbound ++ [frame.envelope] = _
      rw [h.inbound]
      simp
    · intro other hm
      rw [← append_assoc, mem_append, mem_singleton] at hm
      rcases hm with hm | rfl
      · exact h.clean other hm
      · exact h.hidden.passed _ hp other (mem_singleton_self _)
    · rw [hhe] at hpi
      simpa [held, ReceivePhase.held] using hpi
  all_goals simp only [Observed.after, ‹s.receive = _›]
  case case8.refl frame hp hty =>
    refine h.dropped hidden slots rfl ?_ rfl (h.not_ping_of_filter hp (.inl hty))
    rw [held, hp]
    rfl
  case case9.refl frame hp _ hfi =>
    refine h.dropped hidden slots rfl ?_ rfl (h.not_ping_of_filter hp (.inr hfi))
    rw [held, hp]
    rfl
  case case17.refl frame hp _ =>
    simp only [unhurried, hp, Bool.not_eq_true'] at hok
    refine h.dropped hidden slots rfl ?_ rfl hok
    rw [held, hp]
    rfl
  all_goals
    refine h.unseen hidden slots rfl ?_
    rw [held, held, ‹s.receive = _›]
    rfl

theorem Shown.replay (h : Shown options (s, o)) (hidden : t.Hidden) (slots : t.SlotsKept options)
    (ht : s.stepReplay input now fresh = some t) :
    Shown options (t, o.after s (.replay input now fresh)) := by
  obtain ⟨-, hre, -, -, -⟩ := RealtimeClient.stepReplay_rest ht
  have hhe : t.held = s.held := by rw [held, held, hre]
  have hin : t.inbound = s.inbound := by
    clear hidden slots hre hhe
    revert ht
    fun_cases s.stepReplay input now fresh <;> intro ht <;> cases ht <;> rfl
  have hsa := h.unseen hidden slots hin (by rw [hhe])
  cases input with
  | exit => exact hsa
  | failed failure => exact hsa
  | ok =>
    simp only [Observed.after]
    split
    · next message rest hp =>
      refine { hsa with replayed := ?_ }
      intro other hm
      rw [mem_append, mem_singleton] at hm
      rcases hm with hm | rfl
      · exact h.replayed other hm
      · exact (h.hidden.replaying _ hp).pending other mem_cons_self
    · exact hsa

theorem Shown.consume (h : Shown options (s, o)) (hidden : t.Hidden) (slots : t.SlotsKept options)
    (ht : step s .consume = some t) : Shown options (t, o.after s .consume) := by
  have hin := h.inbound
  have hpi := h.pings
  have hcl := h.clean
  cases hi : s.inbound with
  | nil => simp [step, hi] at ht
  | cons envelope inbound =>
    simp only [step, hi, Option.some.injEq] at ht
    cases hb : o.buffered with
    | nil => simp [hi, hb] at hin
    | cons frame buffered =>
      simp only [hi, hb, map_cons, cons.injEq] at hin
      simp only [hb] at hpi hcl
      have hhe : t.held = s.held := by rw [← ht]; rfl
      refine ⟨hidden, slots, ?_, ?_, h.replayed, ?_⟩
      · simp only [Observed.after, hb, tail_cons, ← hin.2, ← ht]
      · simpa [Observed.after, hb] using hcl
      · rw [← singleton_append, filter_append] at hpi
        simp only [Observed.after, hb, tail_cons, head?_cons, Option.toList_some, hhe,
          hpi, filter_append, append_assoc]

theorem Shown.step (h : Shown options (s, o)) (hok : unhurried (s, o) label = true)
    (ht : step s label = some t) : Shown options (t, o.after s label) := by
  have hidden : t.Hidden := by
    refine h.hidden.step ?_ ht
    rintro now fresh rfl hp
    simp only [unhurried] at hok
    rw [hp] at hok
    exact hok
  have slots := h.slots.step ht
  cases label with
  | consume => exact h.consume hidden slots ht
  | stopper k => exact h.stopper hidden slots hok ht
  | run input first => exact h.run hidden slots hok ht
  | received received => exact h.received hidden slots ht
  | receive input => exact h.receive hidden slots hok ht
  | replay input now fresh => exact h.replay hidden slots ht
  | _ =>
    obtain ⟨u, rfl⟩ := step_footprint _ ht
    exact h.unseen hidden slots rfl rfl

theorem observedStep_eq_some {world next : RealtimeClient × Observed} :
    observedStep world label = some next ↔
      step world.1 label = some next.1 ∧ world.2.after world.1 label = next.2 := by
  obtain ⟨t, p⟩ := next
  simp only [observedStep, Option.map_eq_some_iff, Prod.mk.injEq]
  constructor
  · rintro ⟨u, hu, rfl, rfl⟩
    exact ⟨hu, rfl⟩
  · rintro ⟨ht, rfl⟩
    exact ⟨t, ht, rfl, rfl⟩

theorem Shown.observed {world next : RealtimeClient × Observed} (h : Shown options world)
    (hok : unhurried world label = true) (ht : observedStep world label = some next) :
    Shown options next := by
  obtain ⟨hst, haf⟩ := observedStep_eq_some.mp ht
  have hne : next = (next.1, world.2.after world.1 label) := by rw [haf]
  rw [hne]
  exact Shown.step h hok hst

theorem shown_initial (options : RealtimeClientOptions) : Shown options ({ options }, {}) where
  hidden := RealtimeClient.hidden_initial options
  slots := RealtimeClient.slotsKept_initial options
  inbound := rfl
  clean _ hm := absurd hm not_mem_nil
  replayed _ hm := absurd hm not_mem_nil
  pings := rfl

def Label.delivers : Label → Bool
  | .consume | .receive .ok => true
  | _ => false

theorem unhurried_of_delivers (world : RealtimeClient × Observed) : label.delivers = true →
    unhurried world label = true := by
  fun_cases Label.delivers label
  · exact fun _ => rfl
  · exact fun _ => rfl
  · nofun

theorem taken_after_delivers (s : RealtimeClient) (o : Observed) : label.delivers = true →
    (o.after s label).taken = o.taken := by
  fun_cases Label.delivers label
  · exact fun _ => rfl
  · intro _
    simp only [Observed.after]
    split
    · split_ifs <;> rfl
    · rfl
  · nofun

def ReceivePhase.distance : ReceivePhase → Nat
  | filtering _ => 4
  | responding _ => 3
  | releasing _ => 2
  | writing _ => 1
  | _ => 0

def RealtimeClient.undelivered (s : RealtimeClient) : Nat :=
  2 * s.receive.elim 0 ReceivePhase.distance + s.inbound.length

theorem consume_enabled (h : s.inbound ≠ []) :
    ∃ t, step s .consume = some t ∧ t.undelivered < s.undelivered := by
  cases hi : s.inbound with
  | nil => exact absurd hi h
  | cons envelope inbound =>
    refine ⟨{ s with inbound }, by simp [step, hi], ?_⟩
    simp [undelivered, hi]

theorem Shown.receive_enabled (h : Shown options (s, o)) (hi : s.inbound = [])
    (hca : 0 < options.receiveQueueCapacity)
    (hu : 0 < s.receive.elim 0 ReceivePhase.distance) :
    ∃ t, Client.step s (.receive .ok) = some t ∧ t.undelivered < s.undelivered := by
  cases hp : s.receive with
  | none => simp [hp] at hu
  | some phase =>
    have hco := h.not_completed hp
    rw [hp] at hu
    cases phase with
    | receiving | failing | closing | ending | done => cases hu
    | filtering frame =>
      by_cases hty : frame.envelope.type = some ProtocolMessageTypes.ping
      · refine ⟨_, by simp only [Client.step, stepReceive, hp, if_pos hty]; rfl, ?_⟩
        simp [undelivered, hp, ReceivePhase.distance]
      · by_cases hfi : s.isHeartbeatAcknowledgement frame.envelope = true
        · refine ⟨_, by simp only [Client.step, stepReceive, hp, if_neg hty,
            if_pos hfi]; rfl, ?_⟩
          simp [undelivered, hp, ReceivePhase.distance]
        · refine ⟨_, by simp only [Client.step, stepReceive, hp, if_neg hty,
            if_neg hfi]; rfl, ?_⟩
          simp [undelivered, hp, ReceivePhase.distance]
    | responding frame =>
      cases hm : s.answeredMutation frame.envelope with
      | none =>
        refine ⟨_, by simp only [Client.step, stepReceive, hp, hm]; rfl, ?_⟩
        simp [undelivered, hp, ReceivePhase.distance]
      | some mutation =>
        refine ⟨_, by simp only [Client.step, stepReceive, hp, hm]; rfl, ?_⟩
        simp [undelivered, applyResponse, hp, ReceivePhase.distance]
    | releasing frame =>
      refine ⟨_, by simp only [Client.step, stepReceive, hp]; rfl, ?_⟩
      simp [undelivered, hp, ReceivePhase.distance]
    | writing frame =>
      have hro : s.inbound.length < s.options.receiveQueueCapacity := by
        rw [hi, h.slots.options]
        exact hca
      refine ⟨_, by simp only [Client.step, stepReceive, hp, hco, hro,
        Bool.false_eq_true, if_false, if_true]; rfl, ?_⟩
      simp [undelivered, hp, hi, ReceivePhase.distance]

theorem held_eq_nil (h : s.receive.elim 0 ReceivePhase.distance = 0) : s.held = [] := by
  rw [held]
  cases hp : s.receive with
  | none => rfl
  | some phase =>
    rw [hp] at h
    cases phase <;> first | rfl | cases h

theorem Shown.delivered (hca : 0 < options.receiveQueueCapacity) (n : Nat)
    (h : Shown options (s, o)) (hn : s.undelivered ≤ n) :
    ∃ labels t p, (∀ label ∈ labels, Label.delivers label = true) ∧
      observedStep.run (s, o) labels = some (t, p) ∧ p.taken = o.taken ∧
      p.returned.filter ServerFrame.acknowledgesPing =
        o.taken.filter ServerFrame.acknowledgesPing := by
  induction n generalizing s o with
  | zero =>
    have hdi : s.receive.elim 0 ReceivePhase.distance = 0 := by
      simp only [undelivered] at hn
      omega
    have hbu : o.buffered = [] := by
      have hle : s.inbound.length = o.buffered.length := by
        rw [h.inbound, length_map]
      simp only [undelivered] at hn
      rw [← length_eq_zero_iff]
      omega
    refine ⟨[], s, o, by simp, rfl, rfl, ?_⟩
    have hpi := h.pings
    simp only [hbu, held_eq_nil hdi, filter_nil, append_nil] at hpi
    exact hpi.symm
  | succ n ih =>
    by_cases hze : s.undelivered = 0
    · exact ih h (by omega)
    · obtain ⟨label, t, hla, ht, hlt⟩ : ∃ label t, Label.delivers label = true ∧
          Client.step s label = some t ∧ t.undelivered < s.undelivered := by
        by_cases hi : s.inbound = []
        · have hu : 0 < s.receive.elim 0 ReceivePhase.distance := by
            simp only [undelivered, hi, length_nil] at hze
            omega
          obtain ⟨t, ht, hlt⟩ := h.receive_enabled hi hca hu
          exact ⟨_, t, rfl, ht, hlt⟩
        · obtain ⟨t, ht, hlt⟩ := consume_enabled hi
          exact ⟨_, t, rfl, ht, hlt⟩
      have hne := h.step (unhurried_of_delivers (s, o) hla) ht
      obtain ⟨labels, u, p, hall, hrun, hta, hre⟩ := ih hne (by omega)
      have hsa := taken_after_delivers s o hla
      refine ⟨label :: labels, u, p, ?_, ?_, hta.trans hsa, by rw [hre, hsa]⟩
      · intro other hm
        rcases mem_cons.mp hm with rfl | hm
        · exact hla
        · exact hall other hm
      · rw [StepFn.run_cons_eq_some]
        exact ⟨_, observedStep_eq_some.mpr ⟨ht, rfl⟩, hrun⟩

end

def exampleLater (n : Nat) : UtcNow := ⟨1 + 150000000 * n, by omega⟩

def exampleGuid (n : Fin 16) : Guid := ⟨n :: List.replicate 31 0, by rfl⟩

def beatSteps (n : Fin 16) : List Label :=
  List.replicate 3 (.heartbeat .ok (exampleLater n) (exampleGuid n))

def examplePing : MessageEnvelope :=
  { exampleMessage [1] with type := some ProtocolMessageTypes.ping }

def exampleSend : List Label := List.replicate 3 (.sendLoop .ok exampleClock)

def exampleAnswered : List Label :=
  [.serve true exampleClock, .received .message] ++ List.replicate 3 (.receive .ok)

def exampleBeats : List Label :=
  connectSteps ++ beatSteps 1 ++
    [.send examplePing exampleClock false, .sender 0 .ok, .sender 0 .ok] ++ exampleSend ++
    exampleSend ++ [.serve true exampleClock, .received .message, .receive .ok] ++
    exampleAnswered ++ [.consume]

def exampleLate : List Label :=
  connectSteps ++ beatSteps 1 ++ exampleSend ++ beatSteps 2 ++ beatSteps 3 ++ exampleAnswered ++
    [.consume]

end Realtime.Client
