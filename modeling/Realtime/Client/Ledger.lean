import Realtime.Client.Delivery
import Realtime.Client.Exclusion

/-! The books that the client keeps about its subscriptions during a connection:
what it wants, what the server has confirmed and which commands are unanswered.
They balance when the unanswered commands are, in order, those whose answers are
on their way, those on their way to the server and the one that the holder of the
gate has registered and not yet handed over. -/

namespace Realtime.Client

open List

structure SubscriptionCommand where
  correlationId : Text
  route : Text
  subscribe : Bool
  deriving DecidableEq

def OutboundMessage.command (message : OutboundMessage) : Option SubscriptionCommand :=
  if isSubscriptionCommand message.envelope then
    some ⟨message.correlationId, message.envelope.route.getD [],
      message.envelope.type == some ProtocolMessageTypes.subscribe⟩
  else none

def SubscriptionMutation.command (mutation : SubscriptionMutation) : SubscriptionCommand :=
  ⟨mutation.correlationId, mutation.route, mutation.subscribe⟩

def ServerFrame.command (frame : ServerFrame) : Option SubscriptionCommand :=
  frame.answers.bind OutboundMessage.command

def ServerFrame.acknowledges (frame : ServerFrame) : Bool :=
  frame.envelope.type == some ProtocolMessageTypes.acknowledge

def commands (messages : List OutboundMessage) : List SubscriptionCommand :=
  messages.filterMap OutboundMessage.command

def confirm (set : List Text) (frame : ServerFrame) : List Text :=
  match frame.command with
  | some command =>
    if frame.acknowledges then setMember set command.route command.subscribe else set
  | none => set

def SubscriptionChange.held (change : SubscriptionChange) : List SubscriptionCommand :=
  match change.phase, change.registered with
  | .enqueuing _, some id | .rejecting, some id | .forgetting, some id =>
    [⟨id, change.route, change.subscribe⟩]
  | _, _ => []

def SubscriptionChange.exempt (change : SubscriptionChange) : List Text :=
  if change.phase.isTentative then [change.route] else []

def ReplayPhase.held : ReplayPhase → List SubscriptionCommand
  | sending _ command _ _ => commands [command]
  | _ => []

def ReplayPhase.exempt : ReplayPhase → List Text
  | commanding _ routes | sending _ _ _ routes => routes
  | registering _ _ route routes => route :: routes
  | _ => []

inductive Holder where
  | nobody
  | replay (phase : ReplayPhase)
  | change (change : SubscriptionChange)

def Holder.held : Holder → List SubscriptionCommand
  | .nobody => []
  | .replay phase => phase.held
  | .change c => c.held

/-- The routes for which the holder of the gate may be ahead of the books. -/
def Holder.exempt : Holder → List Text
  | .nobody => []
  | .replay phase => phase.exempt
  | .change c => c.exempt

structure Ledger where
  subscriptions : List Text
  confirmed : List Text
  pending : List SubscriptionMutation
  server : List Text
  frames : List ServerFrame
  queue : List SubscriptionCommand
  holder : Holder

namespace Ledger

/-- Without a response in between, taking back the change is right: once nothing
else is unanswered for its route, the former value is the confirmed one. -/
def Restorable (l : Ledger) (change : SubscriptionChange) : Prop :=
  change.responseObserved = false →
    (∀ mutation ∈ l.pending, mutation.route = change.route →
      change.registered = some mutation.correlationId) →
    (change.previousState = true ↔ change.route ∈ l.confirmed)

structure Balanced (l : Ledger) : Prop where
  pending : l.pending.map SubscriptionMutation.command =
    l.frames.filterMap ServerFrame.command ++ l.queue ++ l.holder.held
  nodup : (l.pending.map SubscriptionMutation.correlationId).Nodup
  server : l.server = l.frames.foldl confirm l.confirmed
  settled : ∀ route, route ∉ l.holder.exempt → (∀ mutation ∈ l.pending, mutation.route ≠ route) →
    (route ∈ l.subscriptions ↔ route ∈ l.confirmed)
  restore : ∀ change, l.holder = .change change → change.phase.isTentative = true →
    l.Restorable change

variable {l : Ledger}

theorem confirm_of_none {set : List Text} {frame : ServerFrame} (h : frame.command = none) :
    confirm set frame = set := by
  simp [confirm, h]

theorem foldl_confirm_of_none {frames : List ServerFrame}
    (h : frames.filterMap ServerFrame.command = []) (set : List Text) :
    frames.foldl confirm set = set := by
  induction frames with
  | nil => rfl
  | cons frame frames ih =>
    have hno := filterMap_eq_nil_iff.mp h
    rw [foldl_cons, confirm_of_none (hno frame (by simp))]
    exact ih (filterMap_eq_nil_iff.mpr (fun other ho => hno other (by simp [ho])))

theorem Balanced.at_rest (h : l.Balanced) (hf : l.frames.filterMap ServerFrame.command = [])
    (hq : l.queue = []) (hhe : l.holder.held = []) (hex : l.holder.exempt = []) :
    (∀ route, route ∈ l.subscriptions ↔ route ∈ l.confirmed) ∧ l.server = l.confirmed ∧
      l.pending = [] := by
  have hp : l.pending = [] := by simpa [hf, hq, hhe] using h.pending
  refine ⟨fun route => h.settled route (by simp [hex]) (by simp [hp]), ?_, hp⟩
  rw [h.server, foldl_confirm_of_none hf]

theorem Balanced.move (h : l.Balanced) {holder : Holder} (hhe : holder.held = l.holder.held)
    (hex : holder.exempt = l.holder.exempt)
    (hre : ∀ change, holder = .change change → change.phase.isTentative = true →
      l.Restorable change) : Balanced { l with holder } where
  pending := by rw [hhe]; exact h.pending
  nodup := h.nodup
  server := h.server
  settled := by rw [hex]; exact h.settled
  restore := hre

theorem Balanced.replay_moves (h : l.Balanced) {phase : ReplayPhase} (hl : l.holder = .replay phase)
    (next : ReplayPhase) (hhe : next.held = phase.held) (hex : next.exempt = phase.exempt) :
    Balanced { l with holder := .replay next } := by
  refine h.move (by rw [hl]; exact hhe) (by rw [hl]; exact hex) ?_
  intro change hc
  cases hc

theorem Balanced.replay_leaves (h : l.Balanced) {phase : ReplayPhase}
    (hl : l.holder = .replay phase) (hhe : phase.held = []) (hex : phase.exempt = []) :
    Balanced { l with holder := .nobody } := by
  refine h.move (by rw [hl]; exact hhe.symm) (by rw [hl]; exact hex.symm) ?_
  intro change hc
  cases hc

section

variable {change next : SubscriptionChange}

theorem exempt_of_not_tentative (h : change.phase.isTentative = false) : change.exempt = [] := by
  simp [SubscriptionChange.exempt, h]

theorem exempt_of_tentative (h : change.phase.isTentative = true) :
    change.exempt = [change.route] := by
  simp [SubscriptionChange.exempt, h]

theorem Balanced.apply (h : l.Balanced) (hl : l.holder = .change change)
    (hph : change.phase.isTentative = false) (hhe : change.held = [])
    (hne : next.phase.isTentative = true) (hnh : next.held = [])
    (hro : next.route = change.route) (hre : next.registered = none)
    (hpr : next.previousState = decide (change.route ∈ l.subscriptions)) (present : Bool) :
    Balanced { l with
      subscriptions := setMember l.subscriptions change.route present
      holder := .change next } where
  pending := by
    have hp := h.pending
    rw [hl] at hp
    simpa [Holder.held, hhe, hnh] using hp
  nodup := h.nodup
  server := h.server
  settled route hr hp := by
    simp only [Holder.exempt, exempt_of_tentative hne, hro, mem_singleton] at hr
    rw [mem_setMember, if_neg hr]
    exact h.settled route (by simp [hl, Holder.exempt, exempt_of_not_tentative hph]) hp
  restore other ho _ _ hp := by
    cases ho
    rw [hpr, hro, decide_eq_true_eq]
    refine h.settled _ (by simp [hl, Holder.exempt, exempt_of_not_tentative hph]) ?_
    intro mutation hm he
    have hr := hp mutation hm (by rw [hro, he])
    rw [hre] at hr
    cases hr

theorem Balanced.reapply (h : l.Balanced) (hl : l.holder = .change change)
    (hph : change.phase.isTentative = true) (hhe : next.held = change.held)
    (hne : next.phase.isTentative = true) (hro : next.route = change.route)
    (hre : l.Restorable change → l.Restorable next) (present : Bool) :
    Balanced { l with
      subscriptions := setMember l.subscriptions change.route present
      holder := .change next } where
  pending := by
    have hp := h.pending
    rw [hl] at hp
    simpa [Holder.held, hhe] using hp
  nodup := h.nodup
  server := h.server
  settled route hr hp := by
    simp only [Holder.exempt, exempt_of_tentative hne, hro, mem_singleton] at hr
    rw [mem_setMember, if_neg hr]
    exact h.settled route
      (by simpa [hl, Holder.exempt, exempt_of_tentative hph] using hr) hp
  restore other ho _ := by
    cases ho
    exact hre (h.restore change hl hph)

variable {route : Text} {mutation : SubscriptionMutation}

theorem nodup_concat {id : Text} (h : (l.pending.map SubscriptionMutation.correlationId).Nodup)
    (hfr : ∀ mutation ∈ l.pending, mutation.correlationId ≠ id) {subscribe : Bool}
    {sequence : Nat} :
    ((l.pending ++ [SubscriptionMutation.mk id route subscribe sequence]).map
      SubscriptionMutation.correlationId).Nodup := by
  rw [map_append, nodup_append]
  refine ⟨h, by simp, ?_⟩
  intro other ho _ hm
  obtain ⟨mutation, hmem, rfl⟩ := mem_map.mp ho
  simp only [map_cons, map_nil, mem_singleton] at hm
  exact hm ▸ hfr mutation hmem

theorem Balanced.register (h : l.Balanced) (hl : l.holder = .change change)
    (hph : change.phase.isTentative = true) {id : Text} (hhe : change.held = [])
    (hne : next.phase.isTentative = true)
    (hnh : next.held = [⟨id, change.route, change.subscribe⟩])
    (hro : next.route = change.route) (hre : next.registered = some id)
    (hpr : next.previousState = change.previousState)
    (hobs : next.responseObserved = change.responseObserved)
    (hfr : ∀ mutation ∈ l.pending, mutation.correlationId ≠ id) (sequence : Nat) :
    Balanced { l with
      pending := l.pending ++ [⟨id, change.route, change.subscribe, sequence⟩]
      holder := .change next } where
  pending := by
    have hp := h.pending
    rw [hl] at hp
    simp only [Holder.held, hhe, append_nil] at hp
    simp [Holder.held, hnh, hp, SubscriptionMutation.command]
  nodup := nodup_concat h.nodup hfr
  server := h.server
  settled route hr hp := by
    simp only [Holder.exempt, exempt_of_tentative hne, hro, mem_singleton] at hr
    exact h.settled route (by simpa [hl, Holder.exempt, exempt_of_tentative hph] using hr)
      (fun mutation hm => hp mutation (mem_append_left _ hm))
  restore other ho _ hob hp := by
    cases ho
    rw [hpr, hro]
    refine h.restore change hl hph (hobs ▸ hob) ?_
    intro mutation hm he
    have hr := hp mutation (mem_append_left _ hm) (by rw [hro, he])
    rw [hre] at hr
    exact absurd (Option.some.inj hr).symm (hfr mutation hm)

theorem Balanced.replayRegister (h : l.Balanced) {pending : List OutboundMessage}
    {command : OutboundMessage} {routes : List Text}
    (hl : l.holder = .replay (.registering pending command route routes))
    (hco : command.command = some ⟨command.correlationId, route, true⟩)
    (hfr : ∀ mutation ∈ l.pending, mutation.correlationId ≠ command.correlationId)
    (sequence : Nat) :
    Balanced { l with
      pending := l.pending ++ [⟨command.correlationId, route, true, sequence⟩]
      holder := .replay (.sending pending command route routes) } where
  pending := by
    have hp := h.pending
    rw [hl] at hp
    simp only [Holder.held, ReplayPhase.held, append_nil] at hp
    simp [Holder.held, ReplayPhase.held, commands, hco, hp, SubscriptionMutation.command]
  nodup := nodup_concat h.nodup hfr
  server := h.server
  settled other hr hp := by
    have hne : route ≠ other := hp ⟨command.correlationId, route, true, sequence⟩ (by simp)
    refine h.settled other ?_ (fun mutation hm => hp mutation (mem_append_left _ hm))
    rw [hl]
    simp only [Holder.exempt, ReplayPhase.exempt, mem_cons, not_or] at hr ⊢
    exact ⟨hne.symm, hr⟩
  restore _ ho := nomatch ho

theorem Balanced.submit (h : l.Balanced) (holder : Holder) (hhe : holder.held = [])
    (hex : ∀ route ∈ l.holder.exempt,
      route ∈ holder.exempt ∨ ∃ command ∈ l.holder.held, command.route = route)
    (hre : ∀ change, holder = .change change → change.phase.isTentative = false) :
    Balanced { l with queue := l.queue ++ l.holder.held, holder } where
  pending := by simpa [hhe] using h.pending
  nodup := h.nodup
  server := h.server
  settled route hr hp := by
    refine h.settled route (fun hm => ?_) hp
    rcases hex route hm with hm | ⟨command, hc, rfl⟩
    · exact hr hm
    · have hc : command ∈ l.pending.map SubscriptionMutation.command := by
        rw [h.pending]
        exact mem_append_right _ hc
      obtain ⟨mutation, hmut, rfl⟩ := mem_map.mp hc
      exact hp mutation hmut rfl
  restore other ho ht := by
    rw [hre other ho] at ht
    cases ht

theorem withoutMutation_eq {before after : List SubscriptionMutation}
    (h : ((before ++ mutation :: after).map SubscriptionMutation.correlationId).Nodup) :
    RealtimeClient.withoutMutation (before ++ mutation :: after) mutation.correlationId =
      before ++ after := by
  have hb : ∀ other ∈ before, other.correlationId ≠ mutation.correlationId := by
    intro other ho he
    rw [map_append, nodup_append] at h
    exact h.2.2 _ (mem_map_of_mem ho) _ (by simp) he
  have ha : ∀ other ∈ after, other.correlationId ≠ mutation.correlationId := by
    intro other ho he
    rw [map_append, map_cons] at h
    have hn := (nodup_cons.mp (nodup_append.mp h).2.1).1
    exact hn (he ▸ mem_map_of_mem ho)
  rw [RealtimeClient.withoutMutation, filter_append, filter_cons,
    filter_eq_self.mpr (by simpa using hb), filter_eq_self.mpr (by simpa using ha)]
  simp

theorem desiredSubscription_of_none {pending : List SubscriptionMutation} {confirmed : List Text}
    (h : ∀ mutation ∈ pending, mutation.route ≠ route) :
    desiredSubscription pending confirmed route = decide (route ∈ confirmed) := by
  have hf : pending.filter (fun candidate => candidate.route = route) = [] := by
    simpa [filter_eq_nil_iff] using h
  simp [desiredSubscription, hf]

theorem Balanced.forget (h : l.Balanced) (hl : l.holder = .change change)
    (hph : change.phase.isTentative = true) {id : Text}
    (hhe : change.held = [⟨id, change.route, change.subscribe⟩])
    (hre : change.registered = some id) (hne : next.phase.isTentative = true)
    (hnh : next.held = []) (hro : next.route = change.route)
    (hnr : next.registered = some id)
    (hpr : next.previousState = change.previousState)
    (hobs : next.responseObserved = change.responseObserved) :
    Balanced { l with
      pending := RealtimeClient.withoutMutation l.pending id
      holder := .change next } := by
  have hp := h.pending
  rw [hl] at hp
  simp only [Holder.held, hhe] at hp
  obtain ⟨before, after, hb, hbe, haf⟩ := map_eq_append_iff.mp hp
  obtain ⟨mutation, rest, rfl, hm, hres⟩ := map_eq_cons_iff.mp haf
  obtain rfl : rest = [] := by simpa using hres
  obtain rfl : mutation.correlationId = id := congrArg SubscriptionCommand.correlationId hm
  have hmr : mutation.route = change.route := congrArg SubscriptionCommand.route hm
  have hnd := h.nodup
  rw [hb] at hnd
  have hw := withoutMutation_eq hnd
  rw [← hb, append_nil] at hw
  rw [hw]
  have hmem {other : SubscriptionMutation} (ho : other ∈ l.pending) :
      other ∈ before ∨ other = mutation := by
    rw [hb] at ho
    simpa using ho
  constructor
  · simpa [Holder.held, hnh] using hbe
  · rw [map_append] at hnd
    exact (nodup_append.mp hnd).1
  · exact h.server
  · intro route hr hpe
    simp only [Holder.exempt, exempt_of_tentative hne, hro, mem_singleton] at hr
    refine h.settled route (by simpa [hl, Holder.exempt, exempt_of_tentative hph] using hr) ?_
    intro other ho
    rcases hmem ho with ho | rfl
    · exact hpe other ho
    · exact fun he => hr (he ▸ hmr)
  · intro other ho _ hob hpe
    cases ho
    rw [hpr, hro]
    refine h.restore change hl hph (hobs ▸ hob) ?_
    intro other ho he
    rcases hmem ho with ho | rfl
    · rw [hre, ← hnr]
      exact hpe other ho (by rw [hro, he])
    · exact hre

theorem Balanced.rollback (h : l.Balanced) (hl : l.holder = .change change)
    (hph : change.phase.isTentative = true) (hhe : change.held = [])
    (hne : next.phase.isTentative = false) (hnh : next.held = []) :
    Balanced { l with
      subscriptions := setMember l.subscriptions change.route
        (if change.responseObserved then desiredSubscription l.pending l.confirmed change.route
        else change.previousState)
      holder := .change next } where
  pending := by
    have hp := h.pending
    rw [hl] at hp
    simpa [Holder.held, hhe, hnh] using hp
  nodup := h.nodup
  server := h.server
  settled route _ hp := by
    rw [mem_setMember]
    by_cases hr : route = change.route
    · subst hr
      rw [if_pos rfl]
      by_cases ho : change.responseObserved = true
      · rw [if_pos ho, desiredSubscription_of_none hp, decide_eq_true_eq]
      · rw [if_neg ho]
        exact h.restore change hl hph (by simpa using ho)
          (fun mutation hm he => absurd he (hp mutation hm))
    · rw [if_neg hr]
      exact h.settled route (by simpa [hl, Holder.exempt, exempt_of_tentative hph] using hr) hp
  restore other ho ht := by
    cases ho
    rw [hne] at ht
    cases ht

theorem Balanced.answer (h : l.Balanced) {frame : ServerFrame} {frames : List ServerFrame}
    (hfr : l.frames = frame :: frames)
    {rest : List SubscriptionMutation} (hpe : l.pending = mutation :: rest)
    (hco : frame.command = some mutation.command) {holder : Holder}
    (hhe : holder.held = l.holder.held) (hex : holder.exempt = l.holder.exempt)
    (hho : ∀ next, holder = .change next → next.phase.isTentative = true →
      ∃ change, l.holder = .change change ∧ change.phase.isTentative = true ∧
        next = { change with responseObserved :=
          change.responseObserved || decide (change.route = mutation.route) }) :
    Balanced { l with
      pending := rest
      confirmed := confirm l.confirmed frame
      subscriptions := setMember l.subscriptions mutation.route
        (desiredSubscription rest (confirm l.confirmed frame) mutation.route)
      frames, holder } := by
  have hp := h.pending
  rw [hfr, hpe, filterMap_cons_some hco] at hp
  simp only [map_cons, cons_append, cons.injEq, true_and] at hp
  have hnd := h.nodup
  rw [hpe, map_cons] at hnd
  have hcon {route : Text} (hr : route ≠ mutation.route) :
      route ∈ confirm l.confirmed frame ↔ route ∈ l.confirmed := by
    simp only [confirm, hco, SubscriptionMutation.command]
    split_ifs
    · rw [mem_setMember, if_neg hr]
    · rfl
  constructor
  · simpa [hhe] using hp
  · exact (nodup_cons.mp hnd).2
  · rw [h.server, hfr, foldl_cons]
  · intro route hr hre
    rw [mem_setMember]
    by_cases he : route = mutation.route
    · subst he
      rw [if_pos rfl, desiredSubscription_of_none hre, decide_eq_true_eq]
    · rw [if_neg he, hcon he]
      refine h.settled route (hex ▸ hr) ?_
      rw [hpe]
      intro other ho
      rcases mem_cons.mp ho with rfl | ho
      · exact fun hm => he hm.symm
      · exact hre other ho
  · intro next hn hte hob hre
    obtain ⟨change, hl, hph, rfl⟩ := hho next hn hte
    simp only [Bool.or_eq_false_iff, decide_eq_false_iff_not] at hob
    simp only [hcon hob.2]
    refine h.restore change hl hph hob.1 ?_
    rw [hpe]
    intro other ho he
    rcases mem_cons.mp ho with rfl | ho
    · exact absurd he.symm hob.2
    · exact hre other ho he

theorem Balanced.serve (h : l.Balanced) (frame : ServerFrame) {queue : List SubscriptionCommand}
    (hq : l.queue = frame.command.toList ++ queue) :
    Balanced { l with
      queue, frames := l.frames ++ [frame], server := confirm l.server frame } := { h with
  pending := by
    have hf : [frame].filterMap ServerFrame.command = frame.command.toList := by
      cases hc : frame.command <;> simp [hc]
    rw [filterMap_append, hf, h.pending, hq]
    simp
  server := by rw [foldl_append, ← h.server]; rfl }

theorem Balanced.skip (h : l.Balanced) {frame : ServerFrame} {frames : List ServerFrame}
    (hfr : l.frames = frame :: frames) (hc : frame.command = none) :
    Balanced { l with frames } := { h with
  pending := by
    have hp := h.pending
    rwa [hfr, filterMap_cons_none hc] at hp
  server := by rw [h.server, hfr, foldl_cons, confirm_of_none hc] }

end

end Ledger

end Realtime.Client
