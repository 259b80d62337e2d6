import Realtime.Client.Accounting

/-! The client and the server agree on the subscriptions whenever nothing is under
way, in every run in which a change that registers its command finds the client
still Connected. A change that lost the connection after its last check registers
a command that no connection answers, and a later response is then decided by it. -/

namespace Realtime.Client

open List

def ReplayPhase.isFresh : ReplayPhase → Bool
  | waiting | drainingBacklog _ | drainingOutbound _ | clearing _ | reading _ => true
  | _ => false

def ReplayPhase.isDrained : ReplayPhase → Bool
  | clearing _ | reading _ | commanding _ _ | registering _ _ _ _ | sending _ _ _ _ | messages _
  | releasing _ => true
  | _ => false

def ReplayPhase.isLive : ReplayPhase → Bool
  | commanding _ _ | registering _ _ _ _ | sending _ _ _ _ | messages _ | releasing _
  | leaving (.returned _) | done (.returned _) => true
  | _ => false

def ChangePhase.isFinished : ChangePhase → Bool
  | finished => true
  | _ => false

namespace RealtimeClient

def holder (s : RealtimeClient) : Holder :=
  match s.gate with
  | none => .nobody
  | some .replay => s.replay.elim .nobody .replay
  | some (.change k) => s.changes[k]?.elim .nobody .change

def queue (s : RealtimeClient) : List SubscriptionCommand :=
  commands (s.wire ++ s.replayBacklog ++ inFlight s.send ++ s.outbound)

def ledger (s : RealtimeClient) : Ledger where
  subscriptions := s.subscriptions
  confirmed := s.confirmedSubscriptions
  pending := s.pendingSubscriptionMutations
  server := s.serverSubscriptions
  frames := s.unprocessed
  queue := s.queue
  holder := s.holder

/-- The books of the client are closed, or they balance. -/
structure Books (s : RealtimeClient) : Prop where
  blank : s.replay.all ReplayPhase.isFresh = true →
    s.pendingSubscriptionMutations = [] ∧ s.confirmedSubscriptions = []
  fresh : s.replay.any ReplayPhase.isFresh = true →
    s.serverSubscriptions = [] ∧ s.wire = [] ∧ ∀ frame ∈ s.unprocessed, frame.answers = none
  drained : s.replay.any ReplayPhase.isDrained = true → commands s.outbound = []
  live : s.replay.any ReplayPhase.isLive = true → s.ledger.Balanced

structure Supported (s : RealtimeClient) : Prop where
  delivering : s.Delivering
  exclusive : s.Exclusive
  registered : s.Registered
  accounted : s.Accounted

variable {s t : RealtimeClient} {input : Await} {now : UtcNow} {fresh : Guid} {k : Nat}
  {change next : SubscriptionChange}

theorem holder_replay {phase : ReplayPhase} (hg : s.gate = some .replay)
    (hr : s.replay = some phase) : s.holder = .replay phase := by
  simp [holder, hg, hr]

theorem holder_change (hg : s.gate = some (.change k)) (hk : s.changes[k]? = some change) :
    s.holder = .change change := by
  simp [holder, hg, hk]

@[simp] theorem commands_nil : commands [] = [] := rfl

@[simp] theorem commands_append (l r : List OutboundMessage) :
    commands (l ++ r) = commands l ++ commands r := by
  simp [commands]

theorem command_refreshTimestamp (now : UtcNow) (message : OutboundMessage) :
    (message.refreshTimestamp now).command = message.command := rfl

variable {message : OutboundMessage} {frames : List ServerFrame} {frame : ServerFrame}

theorem commands_singleton_of_not (h : isSubscriptionCommand message.envelope = false) :
    commands [message] = [] := by
  simp [commands, OutboundMessage.command, h]

theorem Books.of_ledger (h : s.Books) (hr : t.replay = s.replay) (hl : t.ledger = s.ledger)
    (hw : s.replay.any ReplayPhase.isFresh = true → t.wire = s.wire)
    (ho : s.replay.any ReplayPhase.isDrained = true → commands t.outbound = commands s.outbound) :
    t.Books where
  blank := by
    rw [hr]
    intro hf
    have hb := h.blank hf
    exact ⟨(congrArg Ledger.pending hl).trans hb.1, (congrArg Ledger.confirmed hl).trans hb.2⟩
  fresh := by
    rw [hr]
    intro hf
    obtain ⟨hs, hwi, hu⟩ := h.fresh hf
    have hfr : t.unprocessed = s.unprocessed := congrArg Ledger.frames hl
    exact ⟨(congrArg Ledger.server hl).trans hs, (hw hf).trans hwi, hfr ▸ hu⟩
  drained := by
    rw [hr]
    exact fun hd => (ho hd).trans (h.drained hd)
  live := by
    rw [hr, hl]
    exact h.live

theorem balanced_of_holder {holder : Holder} (h : t.holder = holder)
    (hb : Ledger.Balanced { t.ledger with holder }) : t.ledger.Balanced := by
  subst h
  exact hb

theorem holder_set (hk : s.changes[k]? = some change) (hc : t.changes = s.changes.set k next)
    (hg : t.gate = s.gate) (hr : t.replay = s.replay) :
    t.holder = s.holder ∨ s.holder = .change change ∧ t.holder = .change next := by
  simp only [holder, hg, hr, hc]
  rcases s.gate with _ | _ | j
  · exact .inl rfl
  · exact .inl rfl
  · by_cases hj : j = k
    · subst hj
      have hse : (s.changes.set j next)[j]? = some next :=
        getElem?_set_self (List.getElem?_eq_some_iff.mp hk).1
      exact .inr (by simp [hk, hse])
    · have hot : (s.changes.set k next)[j]? = s.changes[j]? :=
        getElem?_set_ne (Ne.symm hj)
      exact .inl (by simp [hot])

theorem holder_set_self (hk : s.changes[k]? = some change) (hc : t.changes = s.changes.set k next)
    (hg : t.gate = some (.change k)) : t.holder = .change next := by
  refine holder_change hg ?_
  rw [hc, getElem?_set_self (List.getElem?_eq_some_iff.mp hk).1]

theorem balanced_quiet (hb : s.ledger.Balanced) (hk : s.changes[k]? = some change)
    (hl : t.ledger = { s.ledger with holder := t.holder })
    (hc : t.changes = s.changes.set k next) (hg : t.gate = s.gate) (hr : t.replay = s.replay)
    (hhe : next.held = change.held) (hex : next.exempt = change.exempt)
    (hre : next.phase.isTentative = true → change.phase.isTentative = true ∧
      (s.ledger.Restorable change → s.ledger.Restorable next)) : t.ledger.Balanced := by
  rw [hl]
  rcases holder_set hk hc hg hr with he | ⟨hs, ht⟩
  · rw [he]
    exact hb
  · rw [ht]
    have hs : s.ledger.holder = .change change := hs
    refine hb.move (by rw [hs]; exact hhe) (by rw [hs]; exact hex) ?_
    intro other ho hte
    cases ho
    obtain ⟨hph, hres⟩ := hre hte
    exact hres (hb.restore change hs hph)

theorem balanced_acquire (hb : s.ledger.Balanced) (hk : s.changes[k]? = some change)
    (hl : t.ledger = { s.ledger with holder := t.holder })
    (hc : t.changes = s.changes.set k next) (hs : s.gate = none)
    (hg : t.gate = some (.change k)) (hhe : next.held = [])
    (hte : next.phase.isTentative = false) : t.ledger.Balanced := by
  have hno : s.ledger.holder = .nobody := by simp [ledger, holder, hs]
  rw [hl, holder_set_self hk hc hg]
  refine hb.move (by rw [hno]; exact hhe)
    (by rw [hno]; exact Ledger.exempt_of_not_tentative hte) ?_
  intro other ho ht
  cases ho
  rw [hte] at ht
  cases ht

theorem not_isDrained_of_change (hx : s.Exclusive) (hg : s.gate = some (.change k)) :
    s.replay.any ReplayPhase.isDrained = false := by
  rcases hr : s.replay with _ | phase
  · rfl
  · by_contra hd
    have hho : phase.holdsGate = true := by
      cases phase <;> first | rfl | exact absurd rfl hd
    rw [hx.replay_gate phase hr hho] at hg
    cases hg

theorem queue_enqueue (s : RealtimeClient) (message : OutboundMessage) :
    commands (s.wire ++ s.replayBacklog ++ inFlight s.send ++ (s.outbound ++ [message])) =
      s.ledger.queue ++ commands [message] := by
  simp [ledger, queue]

theorem live_of_connected (hx : s.Exclusive) (hc : s.state = .connected) :
    s.replay.any ReplayPhase.isLive = true ∧ s.replay.all ReplayPhase.isFresh = false := by
  obtain ⟨-, close, hr⟩ := hx.connected_run hc
  rw [hr]
  exact ⟨rfl, rfl⟩

theorem Books.stepChange {tooLarge : Bool} (h : s.Books) (hx : s.Exclusive) (hreg : s.Registered)
    (hok : s.attentive (.changeStep k input now fresh tooLarge) = true)
    (ht : s.stepChange k input now fresh tooLarge = some t) : t.Books := by
  replace ht := stepChange_cases ht
  obtain ⟨change, hk, ht⟩ := ht
  have hga := hx.change_gate k change hk
  have hno := (hreg.change_prepared change (mem_of_getElem? hk)).early
  have hco := (hreg.change_prepared change (mem_of_getElem? hk)).command
  rcases ht with ⟨hp, -, ht⟩ | ht | ht | ht <;> revert ht
  all_goals first
    | fun_cases stepRegister
    | fun_cases stepChangeEntry
    | fun_cases stepChangeApply
    | fun_cases stepChangeExit
  all_goals
    intro ht
    cases ht
  case inl.case4.refl _ owned how hc =>
    have hcon : s.state = .connected := by simpa [attentive, hk, hp] using hok
    rw [hp] at hga
    refine { h with blank := ?_, live := fun hl => ?_ }
    · intro hf
      cases hf.symm.trans (live_of_connected hx hcon).2
    · have hb := h.live hl
      refine balanced_of_holder (holder_set_self hk rfl (hga rfl)) ?_
      refine hb.register (holder_change (hga rfl) hk) (by rw [hp]; rfl)
        (by simp [SubscriptionChange.held, hp]) (by rfl) (by rfl) (by rfl) (by rfl) (by rfl)
        (by rfl) ?_ _
      intro mutation hm he
      simp only [containsMutation, any_eq_true, not_exists, not_and, beq_iff_eq] at hc
      exact hc mutation hm he
  case inr.inr.inr.case1.refl command hp _ =>
    rw [hp] at hga
    obtain ⟨id, hid, hc⟩ := hco command hp
    have hl : s.ledger.holder = .change change := holder_change (hga rfl) hk
    have hhe : s.ledger.holder.held = [⟨id, change.route, change.subscribe⟩] := by
      simp [hl, Holder.held, SubscriptionChange.held, hp, hid]
    refine { h with drained := ?_, live := fun hli => ?_ }
    · intro hd
      have hn := not_isDrained_of_change hx (hga rfl)
      cases hn.symm.trans hd
    · refine balanced_of_holder (holder_set_self hk rfl (hga rfl)) ?_
      have hq := queue_enqueue s command
      rw [show commands [command] = s.ledger.holder.held by simp [hhe, commands, hc]] at hq
      have hs := (h.live hli).submit (.change { change with phase := .settling, responseSlot := false })
        rfl ?_ ?_
      · rw [← hq] at hs
        exact hs
      · intro route hr
        rw [hl, Holder.exempt, Ledger.exempt_of_tentative (by rw [hp]; rfl),
          mem_singleton] at hr
        exact .inr ⟨⟨id, change.route, change.subscribe⟩, by simp [hhe], hr.symm⟩
      · intro other ho
        cases ho
        rfl
  case inr.inr.inr.case6.refl hp id hid =>
    rw [hp] at hga
    refine { h with blank := fun hf => ?_, live := fun hl => ?_ }
    · simpa [removeSubscriptionMutation, (h.blank hf).1, withoutMutation] using (h.blank hf).2
    · refine balanced_of_holder (holder_set_self hk rfl (hga rfl)) ?_
      exact (h.live hl).forget (holder_change (hga rfl) hk) (by rw [hp]; rfl)
        (by simp [SubscriptionChange.held, hp, hid]) hid (by rfl) (by rfl) (by rfl) (by exact hid)
        (by rfl) (by rfl)
  -- The other steps touch nothing that the books are about but the ledger's holder.
  all_goals
    refine { h with live := fun hl => ?_ }
    have hb := h.live hl
    have hph : change.phase = _ := ‹_›
    rw [hph] at hga hno
  case inr.inr.inl.case5.refl =>
    refine balanced_of_holder (holder_set_self hk rfl (hga rfl)) ?_
    exact hb.apply (holder_change (hga rfl) hk) (by rw [hph]; rfl)
      (by simp [SubscriptionChange.held, hph]) (by rfl) (by rfl) (by rfl) (by exact hno rfl)
      (by rfl) _
  case inr.inr.inl.case11.refl =>
    refine balanced_of_holder (holder_set_self hk rfl (hga rfl)) ?_
    exact hb.reapply (holder_change (hga rfl) hk) (by rw [hph]; rfl)
      (by simp [SubscriptionChange.held, hph, SubscriptionChange.goto]) (by rfl) (by rfl)
      (by exact id) _
  case inr.inr.inr.case7.refl =>
    refine balanced_of_holder (holder_set_self hk rfl (hga rfl)) ?_
    exact hb.rollback (holder_change (hga rfl) hk) (by rw [hph]; rfl)
      (by simp [SubscriptionChange.held, hph]) (by rfl) (by rfl)
  case inr.inr.inr.case8.refl =>
    have hl : s.ledger.holder = .change change := holder_change (hga rfl) hk
    refine balanced_of_holder (by rfl : _ = Holder.nobody) ?_
    refine hb.move ?_ ?_ ?_
    · simp [hl, Holder.held, SubscriptionChange.held, hph]
    · simp [hl, Holder.exempt, SubscriptionChange.exempt, hph, ChangePhase.isTentative]
    · intro other ho
      cases ho
  all_goals first
    | exact balanced_acquire hb hk rfl rfl ‹s.gate = none› rfl rfl rfl
    | refine balanced_quiet hb hk rfl rfl rfl rfl ?_ ?_ ?_
  all_goals try split_ifs
  all_goals first
    | (simp; done)
    | (simp [SubscriptionChange.exempt, hph, SubscriptionChange.goto, SubscriptionChange.fail,
        ChangePhase.isTentative]; done)
    | (cases hr : change.registered <;>
        simp_all [SubscriptionChange.held, SubscriptionChange.goto, SubscriptionChange.fail,
          ChangePhase.isEarly]; done)
    | exact fun _ => ⟨by rw [hph]; rfl, id⟩

theorem Books.of_opened {phase : ReplayPhase} (hr : t.replay = some phase)
    (hf : phase.isFresh = false)
    (hd : phase.isDrained = true → commands t.outbound = [])
    (hl : phase.isLive = true → t.ledger.Balanced) : t.Books where
  blank := by simp [hr, hf]
  fresh := by simp [hr, hf]
  drained := by simpa [hr] using hd
  live := by simpa [hr] using hl

/-- The replay goes on under its gate, with nothing new in the outbound queue. -/
theorem Books.of_replaying (h : s.Books) {phase next : ReplayPhase} (hs : s.replay = some phase)
    (hg : t.gate = some .replay) (hr : t.replay = some next) (hf : next.isFresh = false)
    (hd : next.isDrained = true → phase.isDrained = true ∧ t.outbound = s.outbound)
    (hl : next.isLive = true → Ledger.Balanced { t.ledger with holder := .replay next }) :
    t.Books := by
  refine .of_opened hr hf (fun hn => ?_) (fun hn => balanced_of_holder (holder_replay hg hr) (hl hn))
  rw [(hd hn).2]
  exact h.drained (by rw [hs]; exact (hd hn).1)

theorem filterMap_command_eq_nil (h : ∀ frame ∈ frames, frame.answers = none) :
    frames.filterMap ServerFrame.command = [] := by
  rw [filterMap_eq_nil_iff]
  intro frame hf
  simp [ServerFrame.command, h frame hf]

theorem balanced_reading (h : s.Books) (hd : s.Delivering)
    (hsen : s.send = none) {pending : List OutboundMessage}
    (hp : s.replay = some (.reading pending)) :
    Ledger.Balanced { s.ledger with
      holder := .replay (.commanding pending (s.subscriptions.insertionSort (fun a b => a ≤ b))) } := by
  obtain ⟨hpe, hco⟩ := h.blank (by simp [hp, ReplayPhase.isFresh])
  obtain ⟨hse, hwi, hfr⟩ := h.fresh (by simp [hp, ReplayPhase.isFresh])
  have hout := h.drained (by simp [hp, ReplayPhase.isDrained])
  have hba : s.replayBacklog = [] := hd.backlog_empty (by simp [hp, drained])
  have hnil := filterMap_command_eq_nil hfr
  constructor
  · simp [ledger, queue, hpe, hnil, hwi, hba, hsen, inFlight, hout, Holder.held,
      ReplayPhase.held]
  · simp [ledger, hpe]
  · simp only [ledger, hse, hco]
    rw [Ledger.foldl_confirm_of_none hnil]
  · intro route hr _
    simp only [Holder.exempt, ReplayPhase.exempt, mem_insertionSort] at hr
    simp [ledger, hr, hco]
  · intro other ho
    cases ho

theorem balanced_sending (h : s.Books) (hs : s.Supported) (hse : s.send = none)
    {pending : List OutboundMessage} {command : OutboundMessage} {route : Text}
    {routes : List Text} (hp : s.replay = some (.sending pending command route routes)) :
    Ledger.Balanced { s.ledger with
      queue := commands (s.wire ++ [command] ++ s.replayBacklog ++ inFlight s.send ++ s.outbound)
      holder := .replay (.commanding pending routes) } := by
  have hb := h.live (by rw [hp]; rfl)
  have hl : s.ledger.holder = .replay (.sending pending command route routes) :=
    holder_replay (hs.exclusive.replay_gate _ hp rfl) hp
  have hout := h.drained (by rw [hp]; rfl)
  have hba : s.replayBacklog = [] := hs.delivering.backlog_empty (by rw [hp, hse]; rfl)
  have hq : commands (s.wire ++ [command] ++ s.replayBacklog ++ inFlight s.send ++ s.outbound) =
      s.ledger.queue ++ s.ledger.holder.held := by
    rw [hl, commands_append, commands_append, commands_append, commands_append, hout, hba, hse]
    simp [ledger, queue, hba, hse, inFlight, hout, Holder.held, ReplayPhase.held]
  rw [hq]
  refine hb.submit (.replay (.commanding pending routes)) rfl ?_ ?_
  · intro route hr
    rw [hl] at hr
    exact .inl hr
  · intro change hc
    cases hc

theorem balanced_message (h : s.Books) (hs : s.Supported) {pending : List OutboundMessage}
    (hp : s.replay = some (.messages (message :: pending))) :
    Ledger.Balanced { s.ledger with
      queue := commands (s.wire ++ [message.refreshTimestamp now] ++ s.replayBacklog ++
        inFlight s.send ++ s.outbound)
      holder := .replay (.releasing pending) } := by
  have hpl : isSubscriptionCommand message.envelope = false :=
    hs.accounted.replay_plain message (by simp [hp, replayList, ReplayPhase.pending])
  have hm : commands [message.refreshTimestamp now] = [] := commands_singleton_of_not hpl
  have hq : commands (s.wire ++ [message.refreshTimestamp now] ++ s.replayBacklog ++
      inFlight s.send ++ s.outbound) = s.ledger.queue := by
    rw [commands_append, commands_append, commands_append, commands_append, hm]
    simp [ledger, queue]
  rw [hq]
  exact (h.live (by rw [hp]; rfl)).replay_moves
    (holder_replay (hs.exclusive.replay_gate _ hp rfl) hp) _ rfl rfl

theorem Books.stepReplay (h : s.Books) (hs : s.Supported)
    (ht : s.stepReplay input now fresh = some t) : t.Books := by
  have hse : s.send = none := by
    obtain ⟨phase, next, hp, hd, -⟩ := stepReplay_tasks ht
    by_contra hn
    obtain ⟨close, hc⟩ := hs.delivering.tasks.replayed (.inl hn)
    have hc : s.replay = some (.done (.returned close)) := hc
    rw [hp] at hc
    cases hc
    cases hd
  have hga := hs.exclusive.replay_gate
  have hfr {phase : ReplayPhase} (hp : s.replay = some phase) (hf : phase.isFresh = true) :=
    And.intro (h.blank (by simp [hp, hf])) (h.fresh (by simp [hp, hf]))
  have hli {phase : ReplayPhase} (hp : s.replay = some phase) (hl : phase.isLive = true) :
      s.ledger.Balanced := h.live (by simp [hp, hl])
  revert ht
  fun_cases s.stepReplay input now fresh <;> intro ht <;> cases ht
  case case7 pending hp ho =>
    exact ⟨fun _ => (hfr hp rfl).1, fun _ => (hfr hp rfl).2, fun _ => by simp [ho], by rintro ⟨⟩⟩
  case case8 pending hp =>
    exact ⟨fun _ => (hfr hp rfl).1, fun _ => (hfr hp rfl).2, fun _ => h.drained (by rw [hp]; rfl),
      by rintro ⟨⟩⟩
  case case9 pending hp =>
    exact h.of_replaying hp (hga _ hp rfl) rfl rfl (fun _ => ⟨rfl, rfl⟩)
      (fun _ => balanced_reading h hs.delivering hse hp)
  case case15 pending command route routes hp hc =>
    refine h.of_replaying hp (hga _ hp rfl) rfl rfl (fun _ => ⟨rfl, rfl⟩) (fun _ => ?_)
    refine (hli hp rfl).replayRegister (holder_replay (hga _ hp rfl) hp)
      (hs.registered.replay_prepared _ hp).1 ?_ _
    intro mutation hm he
    simp only [containsMutation, any_eq_true, not_exists, not_and, beq_iff_eq] at hc
    exact hc mutation hm he
  case case16 pending command route routes hp =>
    exact h.of_replaying hp (hga _ hp rfl) rfl rfl (fun _ => ⟨rfl, rfl⟩)
      (fun _ => balanced_sending h hs hse hp)
  case case21 message pending hp =>
    exact h.of_replaying hp (hga _ hp rfl) rfl rfl (fun _ => ⟨rfl, rfl⟩)
      (fun _ => balanced_message h hs hp)
  case case25 result hp =>
    refine .of_opened rfl rfl (by rintro ⟨⟩) (fun hl => ?_)
    cases result with
    | threw failure => cases hl
    | returned close =>
      refine balanced_of_holder (by rfl : _ = Holder.nobody) ?_
      exact (hli hp rfl).replay_leaves (holder_replay (hga _ hp rfl) hp) rfl rfl
  case case18 pending command failure hp =>
    by_cases hc : s.containsMutation command.correlationId = true
    · rw [if_pos hc]
      exact .of_opened rfl rfl (by rintro ⟨⟩) (by rintro ⟨⟩)
    · rw [if_neg hc]
      exact .of_opened rfl rfl (by rintro ⟨⟩) (by rintro ⟨⟩)
  case case10 | case11 | case20 | case23 =>
    have hp : s.replay = some _ := ‹_›
    refine h.of_replaying hp (hga _ hp rfl) rfl rfl (fun _ => ⟨rfl, rfl⟩) (fun _ => ?_)
    exact (hli hp rfl).replay_moves (holder_replay (hga _ hp rfl) hp) _ rfl rfl
  all_goals first
    | exact .of_opened rfl rfl (by rintro ⟨⟩) (by rintro ⟨⟩)
    | exact ⟨fun _ => (hfr ‹_› rfl).1, fun _ => (hfr ‹_› rfl).2, by rintro ⟨⟩, by rintro ⟨⟩⟩

theorem ledger_eq_of_queue (hsub : t.subscriptions = s.subscriptions)
    (hco : t.confirmedSubscriptions = s.confirmedSubscriptions)
    (hpe : t.pendingSubscriptionMutations = s.pendingSubscriptionMutations)
    (hs : t.serverSubscriptions = s.serverSubscriptions) (hu : t.unprocessed = s.unprocessed)
    (hh : t.holder = s.holder) (hq : t.queue = s.queue) : t.ledger = s.ledger := by
  simp only [ledger, hsub, hco, hpe, hs, hu, hh, hq]

theorem Books.stepSend (h : s.Books) (hs : s.Supported) (ht : s.stepSend input now = some t) :
    t.Books := by
  obtain ⟨phase, next, hp, hd, -⟩ := stepSend_tasks ht
  obtain ⟨close, hre⟩ : ∃ close, s.replay = some (.done (.returned close)) :=
    hs.delivering.tasks.replayed (.inl (by simp [hp]))
  have hb : s.replayBacklog = [] := by
    refine hs.delivering.backlog_empty ?_
    rw [hre, hp]
    cases phase <;> first | rfl | cases hd
  have hfr : s.replay.any ReplayPhase.isFresh = false := by rw [hre]; rfl
  have hdr : s.replay.any ReplayPhase.isDrained = false := by rw [hre]; rfl
  clear hp hd phase next
  revert ht
  fun_cases s.stepSend input now <;> intro ht <;> cases ht
  all_goals
    refine h.of_ledger rfl (ledger_eq_of_queue rfl rfl rfl rfl rfl rfl ?_)
      (by rw [hfr]; rintro ⟨⟩) (by rw [hdr]; rintro ⟨⟩)
    simp [queue, inFlight, SendPhase.inFlight, commands, command_refreshTimestamp,
      filterMap_cons, *]

theorem Books.enqueue (h : s.Books) (hm : isSubscriptionCommand message.envelope = false)
    (hr : t.replay = s.replay) (hw : t.wire = s.wire) (hb : t.replayBacklog = s.replayBacklog)
    (hse : t.send = s.send) (ho : t.outbound = s.outbound ++ [message])
    (hsub : t.subscriptions = s.subscriptions)
    (hco : t.confirmedSubscriptions = s.confirmedSubscriptions)
    (hpe : t.pendingSubscriptionMutations = s.pendingSubscriptionMutations)
    (hs : t.serverSubscriptions = s.serverSubscriptions) (hu : t.unprocessed = s.unprocessed)
    (hh : t.holder = s.holder) : t.Books := by
  have hc : commands t.outbound = commands s.outbound := by
    rw [ho, commands_append, commands_singleton_of_not hm, append_nil]
  refine h.of_ledger hr (ledger_eq_of_queue hsub hco hpe hs hu hh ?_) (fun _ => hw)
    (fun _ => hc)
  simp only [queue, commands_append, hw, hb, hse, hc]

theorem Books.stepSender (h : s.Books) (hs : s.Supported) : s.stepSender k input = some t →
    t.Books := by
  fun_cases s.stepSender k input <;> intro ht <;> cases ht
  case case4 message hk _ =>
    obtain ⟨ha, hm⟩ := hs.delivering.senders_known _ (mem_of_getElem? hk) message rfl
    exact h.enqueue (hm ha).1 rfl rfl rfl rfl rfl rfl rfl rfl rfl rfl rfl
  all_goals exact { h with }

theorem Books.stepHeartbeat (h : s.Books) (hs : s.Supported)
    (ht : s.stepHeartbeat input now fresh = some t) : t.Books := by
  have hpl := hs.accounted.heartbeat_plain
  revert ht
  fun_cases s.stepHeartbeat input now fresh <;> intro ht <;> cases ht
  case case9 message hp _ =>
    exact h.enqueue (hpl message (.inr hp)).1 rfl rfl rfl rfl rfl rfl rfl rfl rfl rfl rfl
  all_goals exact { h with }

theorem unprocessed_append (s : RealtimeClient) (frame : ServerFrame) :
    s.receive.elim [] ReceivePhase.unprocessed ++ (s.frames ++ [frame]) =
      s.ledger.frames ++ [frame] := by
  simp [ledger, unprocessed]

theorem acknowledges_answer (message : MessageEnvelope) (accepted : Bool) (now : UtcNow)
    (answers : Option OutboundMessage) :
    (ServerFrame.mk (answer message accepted now) answers).acknowledges = accepted := by
  have hne : ProtocolMessageTypes.error ≠ ProtocolMessageTypes.acknowledge := by decide
  cases accepted <;> simp [ServerFrame.acknowledges, answer, hne]

theorem confirm_answer (s : RealtimeClient) (message : OutboundMessage) (accepted : Bool)
    (now : UtcNow) :
    confirm s.serverSubscriptions ⟨answer message.envelope accepted now, some message⟩ =
      s.servedSubscriptions message.envelope accepted := by
  simp only [confirm, ServerFrame.command, Option.bind_some, OutboundMessage.command,
    acknowledges_answer, servedSubscriptions]
  cases accepted <;> cases isSubscriptionCommand message.envelope <;> simp

theorem Books.serve {accepted : Bool} (h : s.Books) : s.serve accepted now = some t → t.Books := by
  fun_cases s.serve accepted now <;> intro ht <;> cases ht
  rename_i message wire hw hva
  refine { h with fresh := fun hf => ?_, live := fun hl => ?_ }
  · rw [(h.fresh hf).2.1] at hw
    cases hw
  · have hq : s.ledger.queue = message.command.toList ++
        commands (wire ++ s.replayBacklog ++ inFlight s.send ++ s.outbound) := by
      cases hc : message.command <;> simp [ledger, queue, hw, commands, hc]
    have hs := (h.live hl).serve ⟨answer message.envelope accepted now, some message⟩ hq
    rw [← unprocessed_append, show s.ledger.server = s.serverSubscriptions from rfl,
      confirm_answer] at hs
    exact hs

theorem Books.push {envelope : ServerMessageEnvelope} (h : s.Books) : s.push envelope = some t →
    t.Books := by
  fun_cases s.push envelope <;> intro ht <;> cases ht
  refine { h with fresh := fun hf => ?_, live := fun hl => ?_ }
  · obtain ⟨hse, hwi, hfr⟩ := h.fresh hf
    refine ⟨hse, hwi, ?_⟩
    simp only [unprocessed]
    rw [← append_assoc]
    exact forall_mem_concat hfr rfl
  · have hs := (h.live hl).serve ⟨envelope, none⟩
      (show s.ledger.queue = (ServerFrame.command ⟨envelope, none⟩).toList ++ s.ledger.queue from rfl)
    rw [← unprocessed_append] at hs
    exact hs

theorem receivedPhase_answered (hok : frame.Ok) (hc : frame.command ≠ none) :
    receivedPhase frame = .filtering frame := by
  refine hok.receivedPhase_eq ?_
  intro ha
  exact hc (by simp [ServerFrame.command, ha])

theorem Books.skip_frame (h : s.Books) (hu : s.unprocessed = frame :: frames)
    (hc : s.replay.any ReplayPhase.isLive = true → frame.command = none) (hr : t.replay = s.replay)
    (hpe : t.pendingSubscriptionMutations = s.pendingSubscriptionMutations)
    (hco : t.confirmedSubscriptions = s.confirmedSubscriptions) (ho : t.outbound = s.outbound)
    (hs : t.serverSubscriptions = s.serverSubscriptions) (hw : t.wire = s.wire)
    (hl : t.ledger = { s.ledger with frames := frames }) : t.Books where
  blank := by
    rw [hr, hpe, hco]
    exact h.blank
  fresh := by
    rw [hr, hs, hw]
    intro hf
    obtain ⟨hse, hwi, hfr⟩ := h.fresh hf
    have hfra : t.unprocessed = frames := congrArg Ledger.frames hl
    refine ⟨hse, hwi, fun other hm => hfr other ?_⟩
    rw [hu]
    exact mem_cons_of_mem _ (hfra ▸ hm)
  drained := by
    rw [hr, ho]
    exact h.drained
  live := by
    rw [hr, hl]
    exact fun hli => (h.live hli).skip hu (hc hli)

theorem Books.stepReceived {received : Received} (h : s.Books) (ha : s.Accounted) :
    s.stepReceived received = some t → t.Books := by
  fun_cases s.stepReceived received <;> intro ht <;> cases ht
  case case1 hp frame frames hf =>
    have hu : s.unprocessed = frame :: frames := by
      simp [unprocessed, hp, hf, ReceivePhase.unprocessed]
    by_cases hph : receivedPhase frame = .filtering frame
    · refine h.of_ledger rfl (ledger_eq_of_queue rfl rfl rfl rfl ?_ rfl rfl) (fun _ => rfl)
        (fun _ => rfl)
      rw [hu]
      simp [unprocessed, hph, ReceivePhase.unprocessed]
    · have hc : frame.command = none := by
        by_contra hc
        exact hph (receivedPhase_answered (ha.frames_ok frame (by simp [hu])).1 hc)
      have hnil : (receivedPhase frame).unprocessed = [] := by
        unfold receivedPhase at hph ⊢
        split_ifs at hph ⊢
        · rfl
        · exact absurd rfl hph
        · rfl
      refine h.skip_frame hu (fun _ => hc) rfl rfl rfl rfl rfl rfl ?_
      have he : (receivedPhase frame).unprocessed ++ frames = frames := by rw [hnil]; rfl
      exact congrArg (fun frames => { s.ledger with frames }) he
  all_goals
    refine h.of_ledger rfl (ledger_eq_of_queue rfl rfl rfl rfl ?_ rfl rfl) (fun _ => rfl)
      (fun _ => rfl)
    simp [unprocessed, ReceivePhase.unprocessed, *]

theorem isResponse_answer (message : MessageEnvelope) (accepted : Bool) (now : UtcNow) :
    isResponse (answer message accepted now) = true := by
  cases accepted <;> simp [isResponse, answer]

theorem answeredMutation_cases (hs : s.Supported) (hb : s.ledger.Balanced)
    (hu : s.unprocessed = frame :: frames) :
    frame.command = none ∧ s.answeredMutation frame.envelope = none ∨
      ∃ mutation rest, s.pendingSubscriptionMutations = mutation :: rest ∧
        frame.command = some mutation.command ∧
        s.answeredMutation frame.envelope = some mutation := by
  obtain ⟨hok, hca⟩ := hs.accounted.frames_ok frame (by simp [hu])
  cases hok with
  | pushed envelope h => exact .inl ⟨rfl, by simp [answeredMutation, h]⟩
  | answered message accepted now hva =>
    have hfi : s.answeredMutation (answer message.envelope accepted now) =
        s.pendingSubscriptionMutations.find? (fun mutation =>
          mutation.correlationId == message.correlationId) := by
      simp only [answeredMutation, isResponse_answer, if_true]
      rfl
    rw [hfi]
    cases hc : message.command with
    | none =>
      have hpl : isSubscriptionCommand message.envelope = false := by
        by_contra hn
        simp [OutboundMessage.command, hn] at hc
      refine .inl ⟨by simp [ServerFrame.command, hc], ?_⟩
      rw [find?_eq_none]
      intro mutation hm he
      have hid := hs.registered.command_ids _ (hs.registered.pending_ids mutation hm)
      rw [beq_iff_eq.mp he] at hid
      rcases hca message rfl hpl with hmem | hmem
      · exact hid.1 hmem
      · exact hid.2 hmem
    | some command =>
      have hp := hb.pending
      simp only [ledger, hu, filterMap_cons, ServerFrame.command, Option.bind_some, hc,
        cons_append] at hp
      obtain ⟨mutation, rest, hpe, hm, -⟩ := map_eq_cons_iff.mp hp
      refine .inr ⟨mutation, rest, hpe, by simp [ServerFrame.command, hc, hm], ?_⟩
      have hid : mutation.correlationId = message.correlationId := by
        have he : command.correlationId = message.correlationId := by
          unfold OutboundMessage.command at hc
          split_ifs at hc
          cases hc
          rfl
        rw [← he, ← hm]
        rfl
      rw [hpe]
      exact find?_cons_of_pos (by simp [hid])

theorem holder_observeResponse (hx : s.Exclusive) (route : Text) (hg : t.gate = s.gate)
    (hr : t.replay = s.replay) (hc : t.changes = s.observeResponse route) :
    t.holder.held = s.holder.held ∧ t.holder.exempt = s.holder.exempt ∧
      ∀ next, t.holder = .change next → next.phase.isTentative = true →
        ∃ change, s.holder = .change change ∧ change.phase.isTentative = true ∧
          next = { change with responseObserved :=
            change.responseObserved || decide (change.route = route) } := by
  simp only [holder, hg, hr, hc]
  rcases s.gate with _ | _ | k
  · exact ⟨rfl, rfl, fun next he => by cases he⟩
  · refine ⟨rfl, rfl, fun next he => ?_⟩
    simp only at he
    rcases hrep : s.replay with _ | phase
    · simp [hrep] at he
    · simp [hrep] at he
  · simp only
    rcases ho : (s.observeResponse route)[k]? with _ | next
    · have hno : s.changes[k]? = none := by
        unfold observeResponse at ho
        split at ho
        · exact ho
        · simpa [getElem?_modify] using ho
      rw [hno]
      exact ⟨rfl, rfl, fun next he => by cases he⟩
    · obtain ⟨before, hb, rfl⟩ := observeResponse_getElem? ho
      rw [hb]
      refine ⟨rfl, rfl, ?_⟩
      intro next he hte
      cases he
      refine ⟨before, rfl, hte, ?_⟩
      rw [hx.rollback k before hb hte]
      simp

theorem Books.applyResponse (h : s.Books) (hs : s.Supported) {mutation : SubscriptionMutation}
    (hp : s.receive = some (.responding frame))
    (hm : s.answeredMutation frame.envelope = some mutation) :
    Books { s.applyResponse mutation frame.acknowledges with
      receive := some (.releasing frame) } := by
  have hne : s.pendingSubscriptionMutations ≠ [] := by
    intro hnil
    unfold answeredMutation at hm
    split_ifs at hm
    rw [hnil] at hm
    cases hm
  have hall {P : Prop} (hf : s.replay.all ReplayPhase.isFresh = true) : P :=
    absurd (h.blank hf).1 hne
  refine ⟨fun hf => hall hf, ?_, h.drained, ?_⟩
  · intro hf
    refine hall ?_
    have hf : s.replay.any ReplayPhase.isFresh = true := hf
    rcases hr : s.replay with _ | phase
    · rfl
    · simpa [hr] using hf
  · intro hli
    have hb := h.live hli
    have hu : s.unprocessed = frame :: s.frames := by
      simp [unprocessed, hp, ReceivePhase.unprocessed]
    rcases answeredMutation_cases hs hb hu with ⟨-, hno⟩ | ⟨found, rest, hpe, hc, hfo⟩
    · rw [hno] at hm
      cases hm
    · rw [hfo] at hm
      cases hm
      obtain ⟨hhe, hex, hob⟩ := holder_observeResponse
        (t := { s.applyResponse mutation frame.acknowledges with
          receive := some (.releasing frame) }) hs.exclusive mutation.route rfl rfl rfl
      have hbal := hb.answer hu hpe hc hhe hex hob
      have hnd := hb.nodup
      have hre : withoutMutation s.pendingSubscriptionMutations mutation.correlationId = rest := by
        simp only [ledger, hpe] at hnd
        rw [hpe]
        exact @Ledger.withoutMutation_eq mutation [] rest hnd
      have hco : confirm s.confirmedSubscriptions frame =
          if frame.acknowledges then
            setMember s.confirmedSubscriptions mutation.route mutation.subscribe
          else s.confirmedSubscriptions := by
        simp only [confirm, hc]
        rfl
      rw [show s.ledger.confirmed = s.confirmedSubscriptions from rfl, hco, ← hre] at hbal
      exact hbal

theorem command_of_ping (hok : frame.Ok) (ht : frame.envelope.type = some ProtocolMessageTypes.ping) :
    frame.command = none := by
  cases hok with
  | pushed envelope h => rfl
  | answered message accepted now hva =>
    have hack : ProtocolMessageTypes.acknowledge ≠ ProtocolMessageTypes.ping := by decide
    have herr : ProtocolMessageTypes.error ≠ ProtocolMessageTypes.ping := by decide
    cases accepted <;> simp [answer, hack, herr] at ht

theorem command_of_heartbeat (hs : s.Supported) (hb : s.ledger.Balanced)
    (hu : s.unprocessed = frame :: frames)
    (hack : s.isHeartbeatAcknowledgement frame.envelope = true) : frame.command = none := by
  rcases answeredMutation_cases hs hb hu with ⟨hc, -⟩ | ⟨mutation, rest, hpe, hc, hfo⟩
  · exact hc
  · have hmem : mutation ∈ s.pendingSubscriptionMutations := by simp [hpe]
    have hid := (hs.registered.command_ids _ (hs.registered.pending_ids mutation hmem)).2
    simp only [isHeartbeatAcknowledgement, isAutomaticHeartbeat, Bool.and_eq_true, beq_iff_eq,
      any_eq_true] at hack
    obtain ⟨-, entry, hen, he⟩ := hack
    have heq : mutation.correlationId = frame.envelope.correlationId.getD [] := by
      unfold answeredMutation at hfo
      split_ifs at hfo
      simpa using find?_some hfo
    rw [heq, ← he] at hid
    exact absurd (hs.delivering.table_drawn entry hen) hid

theorem Books.stepReceive (h : s.Books) (hs : s.Supported) (ht : s.stepReceive input = some t) :
    t.Books := by
  have hunp {frame : ServerFrame} {phase : ReceivePhase} (hp : s.receive = some phase)
      (hf : phase.unprocessed = [frame]) : s.unprocessed = frame :: s.frames := by
    simp [unprocessed, hp, hf]
  revert ht
  fun_cases s.stepReceive input <;> intro ht <;> cases ht
  case case8 frame hp hpi =>
    have hu := hunp hp rfl
    exact h.skip_frame hu
      (fun _ => command_of_ping (hs.accounted.frames_ok frame (by simp [hu])).1 hpi)
      rfl rfl rfl rfl rfl rfl rfl
  case case9 frame hp _ hack =>
    have hu := hunp hp rfl
    exact h.skip_frame hu (fun hli => command_of_heartbeat hs (h.live hli) hu hack)
      rfl rfl rfl rfl rfl rfl rfl
  case case11 frame hp mutation hm => exact h.applyResponse hs hp hm
  case case12 frame hp hno =>
    have hu := hunp hp rfl
    refine h.skip_frame hu (fun hli => ?_) rfl rfl rfl rfl rfl rfl rfl
    rcases answeredMutation_cases hs (h.live hli) hu with ⟨hc, -⟩ | ⟨mutation, rest, -, -, hfo⟩
    · exact hc
    · rw [hno] at hfo
      cases hfo
  all_goals
    refine h.of_ledger rfl (ledger_eq_of_queue rfl rfl rfl rfl ?_ rfl rfl) (fun _ => rfl)
      (fun _ => rfl)
    simp [unprocessed, ReceivePhase.unprocessed, beginProtocolFailure, beginStopping, *]

theorem Books.stepRun {first : FirstLoop} (h : s.Books) (hs : s.Supported)
    (ht : s.stepRun input first = some t) : t.Books := by
  have hid := hs.delivering.tasks.none_of_idle
  revert ht
  fun_cases s.stepRun input first <;> intro ht <;> cases ht
  case case5 hr =>
    have hno : s.replay = none := (hid (by simp [hr, RunPhase.inConnection])).2.1
    obtain ⟨hpe, hco⟩ := h.blank (by simp [hno])
    refine ⟨fun _ => ⟨hpe, hco⟩, fun _ => ⟨rfl, rfl, ?_⟩, by rintro ⟨⟩, by rintro ⟨⟩⟩
    simp [unprocessed, openConnection, ReceivePhase.unprocessed]
  case case11 hr =>
    have hse : s.send = none := (hs.delivering.tasks.loops_none (.inr hr)).1
    refine h.of_ledger rfl (ledger_eq_of_queue rfl rfl rfl rfl rfl rfl ?_) (fun _ => rfl)
      (fun _ => rfl)
    simp [queue, reportConnected, inFlight, SendPhase.inFlight, hse]
  case case20 result hr =>
    exact ⟨fun _ => ⟨rfl, rfl⟩, by rintro ⟨⟩, by rintro ⟨⟩, by rintro ⟨⟩⟩
  case case32 hr =>
    have hno : s.replay = none := (hid (by simp [hr, RunPhase.inConnection])).2.1
    refine ⟨h.blank, ?_, ?_, ?_⟩ <;> simp [discardLeftovers, hno]
  case case33 hr =>
    have hno : s.replay = none := (hid (by simp [hr, RunPhase.inConnection])).2.1
    refine ⟨fun _ => ⟨rfl, rfl⟩, ?_, ?_, ?_⟩ <;>
      simp [clearPendingSubscriptionMutations, hno]
  all_goals exact { h with }

theorem Books.stepStopper (h : s.Books) (hs : s.Supported) (ht : s.stepStopper k = some t) :
    t.Books := by
  have hno {stopper : Stopper} (hk : s.stoppers[k]? = some stopper)
      (hc : stopper.completes = true) : s.replay = none := by
    have hr := hs.delivering.tasks.skipped_of_stopper stopper (mem_of_getElem? hk) hc
    exact (hs.delivering.tasks.none_of_idle (by rw [hr]; rfl)).2.1
  revert ht
  fun_cases s.stepStopper k <;> intro ht <;> cases ht
  case case3 hk =>
    refine ⟨h.blank, ?_, ?_, ?_⟩ <;> simp [discardLeftovers, hno hk rfl]
  case case4 hk =>
    refine ⟨fun _ => ⟨rfl, rfl⟩, ?_, ?_, ?_⟩ <;>
      simp [clearPendingSubscriptionMutations, hno hk rfl]
  all_goals exact { h with }

theorem balanced_concat {first : SubscriptionChange} (hb : s.ledger.Balanced)
    (hl : t.ledger = { s.ledger with holder := t.holder })
    (hc : t.changes = s.changes ++ [first]) (hfi : first.phase = .ordering)
    (hg : t.gate = s.gate) (hr : t.replay = s.replay) : t.ledger.Balanced := by
  have hca : t.holder = s.holder ∨ s.holder = .nobody ∧ t.holder = .change first := by
    simp only [holder, hg, hr, hc]
    rcases s.gate with _ | _ | k
    · exact .inl rfl
    · exact .inl rfl
    · rcases Nat.lt_trichotomy k s.changes.length with hk | hk | hk
      · exact .inl (by simp [getElem?_append_left hk])
      · exact .inr (by simp [hk])
      · have hno : (s.changes ++ [first])[k]? = none := by simp; omega
        have hold : s.changes[k]? = none := by simp; omega
        exact .inl (by simp [hno, hold])
  rw [hl]
  rcases hca with he | ⟨hs, ht⟩
  · rw [he]
    exact hb
  · have hs : s.ledger.holder = .nobody := hs
    rw [ht]
    refine hb.move ?_ ?_ ?_
    · simp [hs, Holder.held, SubscriptionChange.held, hfi]
    · simp [hs, Holder.exempt, SubscriptionChange.exempt, hfi, ChangePhase.isTentative]
    · intro change he hte
      cases he
      simp [hfi, ChangePhase.isTentative] at hte

theorem Books.callChange {route : Text} {subscribe : Bool} {correlationId : Option Text}
    (h : s.Books) : s.callChange route subscribe correlationId = some t → t.Books := by
  fun_cases s.callChange route subscribe correlationId <;> intro ht <;> cases ht
  exact { h with live := fun hl => balanced_concat (h.live hl) rfl rfl rfl rfl rfl }

theorem Books.step {label : Label} (h : s.Books) (hs : s.Supported)
    (hok : s.attentive label = true) (ht : Client.step s label = some t) : t.Books := by
  cases label with
  | change route subscribe correlationId => exact h.callChange ht
  | changeStep k input now fresh tooLarge =>
    exact h.stepChange hs.exclusive hs.registered hok ht
  | receive input => exact h.stepReceive hs ht
  | received received => exact h.stepReceived hs.accounted ht
  | replay input now fresh => exact h.stepReplay hs ht
  | sendLoop input now => exact h.stepSend hs ht
  | heartbeat input now fresh => exact h.stepHeartbeat hs ht
  | sender k input => exact h.stepSender hs ht
  | run input first => exact h.stepRun hs ht
  | stopper k => exact h.stepStopper hs ht
  | serve accepted now => exact h.serve ht
  | push envelope => exact h.push ht
  | _ =>
    obtain ⟨u, rfl⟩ := step_footprint _ ht
    exact { h with }

theorem Supported.step {label : Label} (h : s.Supported) (hok : s.attentive label = true)
    (ht : Client.step s label = some t) : t.Supported where
  delivering := (h.delivering.step ht).1
  exclusive := h.exclusive.step h.delivering.tasks ht
  registered := h.registered.step hok ht
  accounted := h.accounted.step h.delivering h.registered ht

theorem supported_initial (options : RealtimeClientOptions) : Supported { options } where
  delivering := delivering_initial options
  exclusive := exclusive_initial options
  registered := ⟨by simp, by simp, by simp, by simp, by simp⟩
  accounted := ⟨by simp [unprocessed], by simp [outgoing, waiting, inFlight, replayList],
    by simp [replayList], by simp⟩

theorem books_initial (options : RealtimeClientOptions) : Books { options } :=
  ⟨fun _ => ⟨rfl, rfl⟩, nofun, nofun, nofun⟩

/-- Nothing is under way: the client is Connected, all subscription calls and the
replay are over, no command is queued or unserved and no answer to one is unprocessed. -/
structure AtRest (s : RealtimeClient) : Prop where
  connected : s.state = .connected
  calls : ∀ change ∈ s.changes, change.phase.isFinished = true
  replay : s.replay.all ReplayPhase.isDone = true
  served : ∀ message ∈ s.outgoing, isSubscriptionCommand message.envelope = false
  answered : ∀ frame ∈ s.unprocessed, frame.command = none

theorem commands_eq_nil {messages : List OutboundMessage}
    (h : ∀ message ∈ messages, isSubscriptionCommand message.envelope = false) :
    commands messages = [] := by
  rw [commands, filterMap_eq_nil_iff]
  intro message hm
  simp [OutboundMessage.command, h message hm]

theorem AtRest.queue_eq_nil (h : s.AtRest) : s.queue = [] := by
  refine commands_eq_nil (fun message hm => h.served message (mem_outgoing.mpr ?_))
  simp only [mem_append] at hm
  grind

theorem AtRest.holder_idle (h : s.AtRest) : s.holder.held = [] ∧ s.holder.exempt = [] := by
  unfold holder
  rcases s.gate with _ | _ | k
  · exact ⟨rfl, rfl⟩
  · rcases hr : s.replay with _ | phase
    · exact ⟨rfl, rfl⟩
    · have hd := h.replay
      rw [hr] at hd
      cases phase <;> first | exact ⟨rfl, rfl⟩ | cases hd
  · rcases hk : s.changes[k]? with _ | change
    · exact ⟨by simp [hk, Holder.held], by simp [hk, Holder.exempt]⟩
    · have hf := h.calls change (mem_of_getElem? hk)
      have hp : change.phase = .finished := by
        revert hf
        cases change.phase <;> simp [ChangePhase.isFinished]
      simp [hk, Holder.held, Holder.exempt, SubscriptionChange.held, SubscriptionChange.exempt, hp,
        ChangePhase.isTentative]

theorem Books.run {options : RealtimeClientOptions} {labels : List Label}
    (ho : Client.step.Along (fun s label => s.attentive label = true) { options } labels)
    (hr : Client.step.run { options } labels = some s) : s.Supported ∧ s.Books :=
  StepFn.run_induct_along (P := fun s => s.Supported ∧ s.Books)
    (fun _ _ _ h hok ht => ⟨h.1.step hok ht, h.2.step h.1 hok ht⟩)
    ⟨supported_initial options, books_initial options⟩ ho hr

end RealtimeClient

def changeSteps (k n : Nat) : List Label :=
  List.replicate n (.changeStep k .ok exampleClock exampleFresh false)

def answerSteps : List Label :=
  [.serve true exampleClock, .received .message] ++ List.replicate 4 (.receive .ok)

def sendSteps : List Label := List.replicate 3 (.sendLoop .ok exampleClock)

/-- A call of `SubscribeAsync` whose command is sent and acknowledged. -/
def exampleSubscribe : List Label :=
  connectSteps ++ [.change (utf16 "orders") true (some [1])] ++ changeSteps 0 23 ++ sendSteps ++
    answerSteps

instance (s : RealtimeClient) : Decidable s.AtRest := decidable_of_iff
  (s.state = .connected ∧ (∀ change ∈ s.changes, change.phase.isFinished = true) ∧
    s.replay.all ReplayPhase.isDone = true ∧
    (∀ message ∈ s.outgoing, isSubscriptionCommand message.envelope = false) ∧
    ∀ frame ∈ s.unprocessed, frame.command = none)
  ⟨fun ⟨h, hc, hr, hs, ha⟩ => ⟨h, hc, hr, hs, ha⟩, fun ⟨h, hc, hr, hs, ha⟩ => ⟨h, hc, hr, hs, ha⟩⟩

/-- The connection breaks, and `RunAsync` gets through its clean-up. -/
def breakSteps : List Label :=
  [.received (.close ⟨some 1006, none⟩), .receive .ok, .receive .ok] ++ runSteps 3 ++
    [.sendLoop (.failed .cancelled) exampleClock,
      .heartbeat (.failed .cancelled) exampleClock exampleFresh] ++ runSteps 2

/-- A change finds the client Connected for the last time, the connection breaks,
and only then the change registers its command. The next connection replays the
route, and its subscription is ended again. -/
def exampleRace : List Label :=
  connectSteps ++ [.change (utf16 "orders") true (some [1])] ++ changeSteps 0 15 ++ breakSteps ++
    changeSteps 0 8 ++ runSteps 8 ++ replaySteps 12 ++ runSteps 2 ++ answerSteps ++
    [.change (utf16 "orders") false (some [2])] ++ changeSteps 1 23 ++ sendSteps ++ answerSteps

end Realtime.Client
