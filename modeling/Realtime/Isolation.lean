import Realtime.Gateway

/-! Tenant, user and topic isolation of event delivery. The recipient check and
the enqueue that follows it are two steps, so what holds at the enqueue is that
the subscription was in force at the last check of the same delivery. -/

namespace Realtime

open List Option

section

variable [CharTable]

/-- The connection subscribed to the route through an authorization and has not
unsubscribed since. -/
def Subscribed (log : List Event) (c : Nat) (route : AuthorizedRoute) : Prop :=
  ∃ since before identity text,
    log = since ++ .subscribed c identity text route :: before ∧
    tryAuthorize identity text = some route ∧ Event.unsubscribed c route ∉ since

theorem Subscribed.append {log events : List Event} {c : Nat} {route : AuthorizedRoute}
    (h : Subscribed log c route) (hu : Event.unsubscribed c route ∉ events) :
    Subscribed (events ++ log) c route := by
  obtain ⟨since, before, identity, text, rfl, ha, hs⟩ := h
  refine ⟨events ++ since, before, identity, text, (append_assoc _ _ _).symm, ha, ?_⟩
  simp [hu, hs]

theorem Subscribed.not_unsubscribed {log : List Event} {c : Nat} {route : AuthorizedRoute} :
    ¬ Subscribed (.unsubscribed c route :: log) c route := by
  rintro ⟨since, before, identity, text, he, _, hs⟩
  cases since with
  | nil => cases he
  | cons head since =>
    obtain ⟨rfl, _⟩ := cons.inj he
    exact hs mem_cons_self

def SubscriptionsOk (log : List Event) (c : Nat) (connection : RealtimeConnection) : Prop :=
  ∀ key ∈ connection.subscriptions,
    ∃ route : AuthorizedRoute, route.Safe ∧ route.subscriptionKey = key ∧ Subscribed log c route

theorem SubscriptionsOk.mono {log events : List Event} {c : Nat}
    {connection connection' : RealtimeConnection} (h : SubscriptionsOk log c connection)
    (hs : connection'.subscriptions ⊆ connection.subscriptions)
    (hu : ∀ route, Event.unsubscribed c route ∉ events) :
    SubscriptionsOk (events ++ log) c connection' := by
  intro key hk
  obtain ⟨route, hsa, hkey, hsub⟩ := h key (hs hk)
  exact ⟨route, hsa, hkey, hsub.append (hu route)⟩

structure World.Extends (w w' : World) : Prop where
  owner : ∀ c owner, w.owner c = some owner → w'.owner c = some owner
  log : ∃ events, w'.log = events ++ w.log

omit [CharTable] in
theorem World.Extends.refl (w : World) : w.Extends w := ⟨fun _ _ h => h, [], rfl⟩

omit [CharTable] in
theorem World.Extends.trans {u v w : World} (h : u.Extends v) (h' : v.Extends w) :
    u.Extends w := by
  obtain ⟨events, he⟩ := h.log
  obtain ⟨events', he'⟩ := h'.log
  refine ⟨fun c owner hc => h'.owner c owner (h.owner c owner hc), events' ++ events, ?_⟩
  rw [he', he, append_assoc]

def Command.Ok (w : World) (command : Command) : Prop :=
  match command.phase with
  | .updating refreshed => refreshed.Valid ∧ w.owner command.connection = some refreshed.owner
  | .applying identity route =>
    identity.Valid ∧ ∃ envelope text, command.envelope = some envelope ∧
      envelope.route = some text ∧ tryAuthorize identity text = some route
  | .publishing message _ =>
    ∃ owner, w.owner command.connection = some owner ∧ owner.1 = message.tenantId
  | _ => True

theorem Command.Ok.mono {w w' : World} {command : Command} (h : command.Ok w)
    (he : w.Extends w') : command.Ok w' := by
  simp only [Ok] at h ⊢
  split at h
  · exact ⟨h.1, he.owner _ _ h.2⟩
  · exact h
  · obtain ⟨owner, ho, ht⟩ := h
    exact ⟨owner, he.owner _ _ ho, ht⟩
  · trivial

def Published (w : World) (log : List Event) (message : RealtimeBusMessage) : Prop :=
  ∃ p owner, Event.published p message ∈ log ∧ w.owner p = some owner ∧
    owner.1 = message.tenantId

variable {message : RealtimeBusMessage} {connection : RealtimeConnection}

omit [CharTable] in
theorem Published.mono {w w' : World} (h : Published w w.log message) (he : w.Extends w') :
    Published w' w'.log message := by
  obtain ⟨p, owner, hp, ho, ht⟩ := h
  obtain ⟨events, hl⟩ := he.log
  exact ⟨p, owner, hl ▸ mem_append_right events hp, he.owner p owner ho, ht⟩

def Confirmed (log : List Event) (d c : Nat) (identity : RealtimeIdentity)
    (route : AuthorizedRoute) : Prop :=
  ∃ since before, log = since ++ .confirmed d c identity :: before ∧ Subscribed before c route

def Admits (identity : RealtimeIdentity) (message : RealtimeBusMessage) : Prop :=
  identity.tenantId = message.tenantId ∧
    (∀ userId, message.userId = some userId → identity.userId = userId) ∧
    identity.allows message.topic = true

omit [CharTable] in
theorem isPotentialRecipient_iff {identity : RealtimeIdentity} :
    isPotentialRecipient connection identity message = true ↔
      Admits identity message ∧ message.route.subscriptionKey ∈ connection.subscriptions := by
  simp only [isPotentialRecipient, Admits, RealtimeConnection.isSubscribed,
    RealtimeBusMessage.route, Bool.and_eq_true, beq_iff_eq, decide_eq_true_eq, Option.all_eq_true,
    and_assoc]

def DeliveryPhase.Ok (w : World) (d c : Nat) (message : RealtimeBusMessage) :
    DeliveryPhase → Prop
  | .reading => True
  | .screening identity | .revalidating identity | .updating identity | .confirming identity =>
    identity.Valid ∧ w.owner c = some identity.owner
  | .enqueuing identity =>
    w.owner c = some identity.owner ∧ Admits identity message ∧
      Confirmed w.log d c identity message.route

theorem DeliveryPhase.Ok.mono {w w' : World} {d c : Nat} {phase : DeliveryPhase}
    (h : phase.Ok w d c message) (he : w.Extends w') :
    phase.Ok w' d c message := by
  cases phase with
  | reading => trivial
  | enqueuing identity =>
    obtain ⟨ho, ha, since, before, hl, hs⟩ := h
    obtain ⟨events, hl'⟩ := he.log
    refine ⟨he.owner _ _ ho, ha, events ++ since, before, ?_, hs⟩
    rw [hl', hl, append_assoc]
  | screening identity => exact ⟨h.1, he.owner _ _ h.2⟩
  | revalidating identity => exact ⟨h.1, he.owner _ _ h.2⟩
  | updating identity => exact ⟨h.1, he.owner _ _ h.2⟩
  | confirming identity => exact ⟨h.1, he.owner _ _ h.2⟩

structure Delivery.Ok (w : World) (d : Nat) (delivery : Delivery) : Prop where
  valid : isValidBusMessage delivery.message = true
  published : Published w w.log delivery.message
  phase : ∀ c, delivery.remaining.head? = some c → delivery.phase.Ok w d c delivery.message

theorem Delivery.Ok.mono {w w' : World} {d : Nat} {delivery : Delivery} (h : delivery.Ok w d)
    (he : w.Extends w') : delivery.Ok w' d :=
  ⟨h.valid, h.published.mono he, fun c hc => (h.phase c hc).mono he⟩

/-- What an enqueued event says about the past before it. -/
def Event.Ok (w : World) (earlier : List Event) : Event → Prop
  | .enqueued d c identity message =>
    w.owner c = some identity.owner ∧ Published w earlier message ∧ Admits identity message ∧
      Confirmed earlier d c identity message.route
  | _ => True

def LogOk (w : World) : List Event → Prop
  | [] => True
  | event :: earlier => event.Ok w earlier ∧ LogOk w earlier

theorem LogOk.mono {w w' : World} {log : List Event} (h : LogOk w log) (he : w.Extends w') :
    LogOk w' log := by
  induction log with
  | nil => trivial
  | cons event earlier ih =>
    refine ⟨?_, ih h.2⟩
    have hev := h.1
    cases event with
    | enqueued d c identity message =>
      obtain ⟨ho, ⟨p, owner, hp, hpo, ht⟩, ha, hc⟩ := hev
      exact ⟨he.owner _ _ ho, ⟨p, owner, hp, he.owner _ _ hpo, ht⟩, ha, hc⟩
    | _ => trivial

theorem LogOk.event_ok {w : World} {later earlier : List Event} {event : Event}
    (h : LogOk w (later ++ event :: earlier)) : event.Ok w earlier := by
  induction later with
  | nil => exact h.1
  | cons _ later ih => exact ih h.2

structure World.Inv (w : World) : Prop where
  members : ∀ c member, w.members[c]? = some member →
    member.connection.identity.Valid ∧ SubscriptionsOk w.log c member.connection
  commands : ∀ command ∈ w.commands, command.Ok w
  bus : ∀ message ∈ w.bus, Published w w.log message
  deliveries : ∀ d (delivery : Delivery), w.deliveries[d]? = some delivery → delivery.Ok w d
  log : LogOk w w.log

/-- Everything but the members and the log keeps its part of the invariant when
the world grows around it. -/
theorem World.Inv.of_extends {w w' : World} (hi : w.Inv) (he : w.Extends w')
    (hm : ∀ c member, w'.members[c]? = some member →
      member.connection.identity.Valid ∧ SubscriptionsOk w'.log c member.connection)
    (hc : ∀ command ∈ w'.commands, command ∈ w.commands ∨ command.Ok w')
    (hb : ∀ message ∈ w'.bus, message ∈ w.bus ∨ Published w' w'.log message)
    (hd : ∀ d (delivery : Delivery), w'.deliveries[d]? = some delivery →
      w.deliveries[d]? = some delivery ∨ delivery.Ok w' d)
    (hl : LogOk w' w'.log) : w'.Inv where
  members := hm
  commands command h := (hc command h).elim (fun h => (hi.commands command h).mono he) id
  bus message h := (hb message h).elim (fun h => (hi.bus message h).mono he) id
  deliveries d delivery h :=
    (hd d delivery h).elim (fun h => (hi.deliveries d delivery h).mono he) id
  log := hl

section Members

variable {w : World} {c : Nat} {member : Member}

omit [CharTable] in
theorem World.owner_of_member (h : w.members[c]? = some member) :
    w.owner c = some member.connection.identity.owner := by
  simp only [World.owner, h, map_some]

omit [CharTable] in
theorem World.owner_set {w' : World} {member' : Member} (h : w.members[c]? = some member)
    (hs : w'.members = w.members.set c member')
    (ho : member'.connection.identity.owner = member.connection.identity.owner) :
    w'.owner = w.owner := by
  funext k
  have hlt : c < w.members.length := (List.getElem?_eq_some_iff.mp h).1
  by_cases hk : c = k
  · subst hk
    simp only [World.owner, hs, getElem?_set_self hlt, h, map_some, ho]
  · simp only [World.owner, hs, getElem?_set_ne hk]

theorem World.Inv.members_set {events : List Event} {member' : Member} (hi : w.Inv)
    (hv : member'.connection.identity.Valid)
    (hs : SubscriptionsOk (events ++ w.log) c member'.connection)
    (hu : ∀ k route, k ≠ c → Event.unsubscribed k route ∉ events) (k : Nat) (m : Member)
    (hk : (w.members.set c member')[k]? = some m) :
    m.connection.identity.Valid ∧ SubscriptionsOk (events ++ w.log) k m.connection := by
  rcases getElem?_set_cases hk with ⟨rfl, rfl⟩ | ⟨hne, hm⟩
  · exact ⟨hv, hs⟩
  · obtain ⟨hv', hs'⟩ := hi.members k m hm
    exact ⟨hv', hs'.mono (List.Subset.refl _) (fun route => hu k route hne)⟩

end Members

section Commands

variable {options : RealtimeOptions} {w : World} {member : Member} {command : Command}
  {answers : Answers} {reached : Bool}

theorem Command.advance_identity (http : Bool) (connection : RealtimeConnection) :
    (command.advance options http connection answers).2.identity = connection.identity ∨
      command.phase = .updating (command.advance options http connection answers).2.identity := by
  simp only [advance]
  split
  · split <;> split <;> simp
  · split
    · split <;> simp
    · simp
  · next refreshed hp => exact .inr hp
  · split <;> exact .inl (connection.tryTrackCorrelation_identity options _)
  · split <;> simp
  · split <;> exact .inl rfl
  · split <;> exact .inl (dispatchAuthorized_identity options connection _ _ answers)
  · exact .inl rfl
  · exact .inl (connection.tryEnqueue_identity options _)
  · exact .inl rfl

theorem Command.advance_subscriptions (http : Bool) (connection : RealtimeConnection)
    (h : ∀ identity route envelope, command.phase = .applying identity route →
      command.envelope ≠ some envelope) :
    (command.advance options http connection answers).2.subscriptions = connection.subscriptions := by
  simp only [advance]
  split
  · split <;> split <;> simp
  · split
    · split <;> simp
    · simp
  · rfl
  · split <;> exact connection.tryTrackCorrelation_subscriptions options _
  · split <;> simp
  · split <;> rfl
  · next identity route envelope hp he => exact absurd he (h identity route envelope hp)
  · rfl
  · exact connection.tryEnqueue_subscriptions options _
  · rfl

variable {connection : RealtimeConnection}

omit [CharTable] in
theorem Command.unsubscribed_mem_events {c : Nat} {route : AuthorizedRoute}
    (h : Event.unsubscribed c route ∈ command.events options connection reached) :
    c = command.connection ∧ ∃ identity envelope, command.phase = .applying identity route ∧
      command.envelope = some envelope ∧
      envelope.type = some ProtocolMessageTypes.unsubscribe := by
  simp only [events] at h
  split at h
  · next identity route' envelope hp he =>
    split at h
    · split at h <;> simp at h
    split at h
    · next hu =>
      simp only [mem_singleton, Event.unsubscribed.injEq] at h
      obtain ⟨rfl, rfl⟩ := h
      exact ⟨rfl, identity, envelope, hp, he, hu⟩
    · simp at h
  · simp at h

/-- The keys of the connection stay backed by the log, which now also records
what the command did. -/
theorem Command.subscriptionsOk_advance (http : Bool) (hok : command.Ok w)
    (hs : SubscriptionsOk w.log command.connection member.connection) :
    SubscriptionsOk (command.events options member.connection reached ++ w.log)
      command.connection (command.advance options http member.connection answers).2 := by
  by_cases ha : ∃ identity route envelope, command.phase = .applying identity route ∧
      command.envelope = some envelope
  · obtain ⟨identity, route, envelope, hp, he⟩ := ha
    have hadv : (command.advance options http member.connection answers).2 =
        (dispatchAuthorized options member.connection envelope route answers).connection := by
      simp only [advance, hp, he]
      split <;> rfl
    simp only [Ok, hp] at hok
    obtain ⟨hv, envelope', text, he', ht, hr⟩ := hok
    obtain rfl := some.inj (he.symm.trans he')
    intro key hk
    rw [hadv] at hk
    rcases mem_dispatchAuthorized hk with ⟨hty, hta, rfl⟩ | ⟨hk, hu⟩
    · refine ⟨route, tryAuthorize_safe hv hr, rfl, [], w.log, identity, text, ?_, hr, by simp⟩
      simp only [events, hp, he, hty, hta, if_true, ht, getD_some, nil_append,
        singleton_append]
    · obtain ⟨route', hsa, hkey, hsub⟩ := hs key hk
      refine ⟨route', hsa, hkey, hsub.append (fun hm => ?_)⟩
      obtain ⟨_, identity', envelope', hp', he', hty⟩ := unsubscribed_mem_events hm
      rw [hp] at hp'
      obtain ⟨_, rfl⟩ := CommandPhase.applying.inj hp'
      obtain rfl := some.inj (he.symm.trans he')
      exact hu hty hkey.symm
  · have hadv : (command.advance options http member.connection answers).2.subscriptions =
        member.connection.subscriptions :=
      advance_subscriptions http member.connection
        (fun identity route envelope hp he => ha ⟨identity, route, envelope, hp, he⟩)
    refine hs.mono (by rw [hadv]; exact List.Subset.refl _) (fun route hm => ?_)
    obtain ⟨_, identity, envelope, hp, he, _⟩ := unsubscribed_mem_events hm
    exact ha ⟨identity, route, envelope, hp, he⟩

theorem Answers.session_valid (h : answers.handsOutValid = true) {refreshed : RealtimeIdentity}
    (hs : answers.session = .identity refreshed) : refreshed.Valid := by
  simpa only [handsOutValid, hs, decide_eq_true_eq] using h

theorem Command.ok_replyPhase (reply : Option ServerMessageEnvelope) :
    Command.Ok w { command with phase := replyPhase reply } := by
  cases reply <;> trivial

theorem Command.ok_advance (http : Bool) (ha : answers.handsOutValid = true)
    (hm : w.members[command.connection]? = some member)
    (hv : member.connection.identity.Valid) :
    Command.Ok w { command with
      phase := (command.advance options http member.connection answers).1 } := by
  have ho := World.owner_of_member hm
  simp only [advance]
  split
  · split <;> split <;> trivial
  · split
    · next refreshed hs =>
      split
      · next how => exact ⟨Answers.session_valid ha hs, how ▸ ho⟩
      · trivial
    · trivial
  · trivial
  · split <;> trivial
  · split <;> trivial
  · next envelope _ he =>
    split
    · exact ok_replyPhase _
    · next route hr =>
      obtain ⟨text, ht, hr⟩ := authorizeCommand_eq_ok hr
      exact ⟨hv, envelope, text, he, ht, hr⟩
  · split
    · next message hp => exact ⟨_, ho, (dispatchAuthorized_tenantId hp).symm⟩
    · exact ok_replyPhase _
  · exact ok_replyPhase _
  · trivial
  · trivial

omit [CharTable] in
theorem Command.published_mem_events {message : RealtimeBusMessage}
    (h : message ∈ command.sends reached) :
    (∃ reply, command.phase = .publishing message reply) ∧
      Event.published command.connection message ∈ command.events options connection reached := by
  have hs := h
  simp only [sends] at h
  split at h
  · next message' reply hp =>
    have he : command.events options connection reached =
        (command.sends reached).map (.published command.connection) := by
      simp only [events, hp]
    have hm : message = message' := by
      split at h
      · exact mem_singleton.mp h
      · cases h
    exact ⟨⟨reply, hm ▸ hp⟩, he ▸ List.mem_map_of_mem hs⟩
  · cases h

theorem Command.events_ok {w : World} {log : List Event} (h : LogOk w log) :
    LogOk w (command.events options connection reached ++ log) := by
  simp only [events]
  split
  · split
    · split
      · exact ⟨trivial, h⟩
      · exact h
    split
    · exact ⟨trivial, h⟩
    · exact h
  · simp only [sends]
    split
    · split
      · exact ⟨trivial, h⟩
      · exact h
    · exact h

theorem World.Inv.stepCommand {w' : World} {i : Nat} (hi : w.Inv)
    (ha : answers.handsOutValid = true) (h : w.stepCommand options i answers reached = some w') :
    w'.Inv ∧ w.Extends w' := by
  simp only [World.stepCommand, bind_eq_bind, bind_eq_some_iff,
    some.injEq] at h
  obtain ⟨command, hc, member, hm, rfl⟩ := h
  have hok := hi.commands command (mem_of_getElem? hc)
  obtain ⟨hva, hsu⟩ := hi.members _ _ hm
  have hid : (command.advance options member.http member.connection answers).2.identity.Valid ∧
      (command.advance options member.http member.connection answers).2.identity.owner =
        member.connection.identity.owner := by
    rcases command.advance_identity member.http member.connection with he | hp
    · rw [he]
      exact ⟨hva, rfl⟩
    · simp only [Command.Ok, hp] at hok
      exact ⟨hok.1, some.inj (hok.2.symm.trans (World.owner_of_member hm))⟩
  set w' : World := { w.setConnection command.connection member
      (command.advance options member.http member.connection answers).2 with
    commands := w.commands.set i { command with
      phase := (command.advance options member.http member.connection answers).1 }
    bus := w.bus ++ command.sends reached
    log := command.events options member.connection reached ++ w.log }
  have how : w'.owner = w.owner := World.owner_set hm rfl hid.2
  have he : w.Extends w' := ⟨fun c owner ho => how ▸ ho, _, rfl⟩
  refine ⟨hi.of_extends he ?_ ?_ ?_ (fun d delivery hd => .inl hd) ?_, he⟩
  · refine hi.members_set hid.1 (Command.subscriptionsOk_advance member.http hok hsu) ?_
    intro k route hk hmem
    exact hk (Command.unsubscribed_mem_events hmem).1
  · intro command' hmem
    rcases mem_or_eq_of_mem_set hmem with hmem | rfl
    · exact .inl hmem
    · exact .inr ((Command.ok_advance member.http ha hm hva).mono he)
  · intro message hmem
    rcases mem_append.mp hmem with hmem | hmem
    · exact .inl hmem
    · obtain ⟨⟨reply, hp⟩, hev⟩ := Command.published_mem_events hmem
      simp only [Command.Ok, hp] at hok
      obtain ⟨owner, ho, ht⟩ := hok
      exact .inr ⟨command.connection, owner, mem_append_left _ hev, he.owner _ _ ho, ht⟩
  · exact Command.events_ok (hi.log.mono he)

end Commands

section Deliveries

variable {options : RealtimeOptions} {w : World} {member : Member} {message : RealtimeBusMessage}
  {phase : DeliveryPhase} {answers : Answers}

omit [CharTable] in
theorem DeliveryPhase.advance_identity (connection : RealtimeConnection) :
    (phase.advance options message connection answers).2.identity = connection.identity ∨
      phase = .updating (phase.advance options message connection answers).2.identity := by
  cases phase with
  | updating refreshed => exact .inr rfl
  | reading => exact .inl rfl
  | screening identity =>
    simp only [advance]
    split
    · split <;> exact .inl rfl
    · exact .inl rfl
  | revalidating identity =>
    simp only [advance]
    split
    · split <;> simp
    · simp
  | confirming identity =>
    simp only [advance]
    split
    · simp
    · split <;> exact .inl rfl
  | enqueuing identity =>
    have he := connection.tryEnqueue_identity options message.toEvent
    simp only [advance]
    split
    · split
      · exact .inl ((RealtimeConnection.requestClose_identity _).trans he)
      · exact .inl he
    · exact .inl he

omit [CharTable] in
theorem DeliveryPhase.advance_subscriptions (connection : RealtimeConnection) :
    (phase.advance options message connection answers).2.subscriptions =
      connection.subscriptions := by
  cases phase with
  | updating refreshed => rfl
  | reading => rfl
  | screening identity =>
    simp only [advance]
    split
    · split <;> rfl
    · rfl
  | revalidating identity =>
    simp only [advance]
    split
    · split <;> simp
    · simp
  | confirming identity =>
    simp only [advance]
    split
    · simp
    · split <;> rfl
  | enqueuing identity =>
    have he := connection.tryEnqueue_subscriptions options message.toEvent
    simp only [advance]
    split
    · split
      · exact (RealtimeConnection.requestClose_subscriptions _).trans he
      · exact he
    · exact he

theorem RealtimeBusMessage.route_safe (h : isValidBusMessage message = true) :
    message.route.Safe := by
  simp only [isValidBusMessage, Bool.and_eq_true, isSafeBusIdentifier_eq] at h
  refine ⟨h.1.2, fun userId hu => ?_⟩
  have hu' : message.userId = some userId := hu
  simpa only [hu', all_some, isSafeBusIdentifier_eq] using h.1.1.2

theorem DeliveryPhase.ok_advance {w' : World} {d c : Nat} {next : DeliveryPhase}
    (he : w.Extends w') (ha : answers.handsOutValid = true)
    (hm : w.members[c]? = some member) (hv : member.connection.identity.Valid)
    (hs : SubscriptionsOk w.log c member.connection) (hmsg : isValidBusMessage message = true)
    (hok : phase.Ok w d c message)
    (hl : ∀ identity, phase = .confirming identity → w'.log = .confirmed d c identity :: w.log)
    (hn : (phase.advance options message member.connection answers).1 = some next) :
    next.Ok w' d c message := by
  cases phase with
  | reading =>
    cases hn
    exact ⟨hv, he.owner _ _ (World.owner_of_member hm)⟩
  | screening identity =>
    simp only [advance] at hn
    split at hn
    · split at hn <;> cases hn <;> exact ⟨hok.1, he.owner _ _ hok.2⟩
    · cases hn
  | revalidating identity =>
    simp only [advance] at hn
    split at hn
    · next refreshed hr =>
      split at hn
      · next how =>
        cases hn
        exact ⟨Answers.session_valid ha hr, he.owner _ _ (how ▸ hok.2)⟩
      · cases hn
    · cases hn
  | updating refreshed =>
    cases hn
    exact ⟨hok.1, he.owner _ _ hok.2⟩
  | confirming identity =>
    simp only [advance] at hn
    split at hn
    · cases hn
    split at hn
    · next hp =>
      cases hn
      obtain ⟨hadm, hkey⟩ := isPotentialRecipient_iff.mp hp
      obtain ⟨route, hsa, hro, hsub⟩ := hs _ hkey
      obtain rfl := AuthorizedRoute.Safe.subscriptionKey_injective hsa
        (RealtimeBusMessage.route_safe hmsg) hro
      exact ⟨he.owner _ _ hok.2, hadm, [], w.log, hl identity rfl, hsub⟩
    · cases hn
  | enqueuing identity =>
    simp only [advance] at hn
    split at hn <;> cases hn

variable {connection : RealtimeConnection}

omit [CharTable] in
theorem Delivery.unsubscribed_notMem_events {delivery : Delivery} {d c k : Nat}
    {route : AuthorizedRoute} :
    Event.unsubscribed k route ∉ delivery.events options d c connection answers := by
  simp only [events]
  repeat' split
  all_goals simp

theorem Delivery.events_ok {delivery : Delivery} {d c : Nat} {w' : World} (he : w.Extends w')
    (hok : delivery.Ok w d) (hc : delivery.remaining.head? = some c) (hl : LogOk w' w.log) :
    LogOk w' (delivery.events options d c connection answers ++ w.log) := by
  have hp := hok.phase c hc
  simp only [events]
  split
  · split
    · exact ⟨trivial, hl⟩
    · exact hl
  · next identity hph =>
    split
    · rw [hph] at hp
      obtain ⟨ho, hadm, hco⟩ := hp
      obtain ⟨p, owner, hpub, hpo, ht⟩ := hok.published
      exact ⟨⟨he.owner _ _ ho, ⟨p, owner, hpub, he.owner _ _ hpo, ht⟩, hadm, hco⟩, hl⟩
    · exact hl
  · exact hl

theorem World.Inv.stepDelivery {w' : World} {d : Nat} (hi : w.Inv)
    (ha : answers.handsOutValid = true) (h : w.stepDelivery options d answers = some w') :
    w'.Inv ∧ w.Extends w' := by
  simp only [World.stepDelivery, bind_eq_bind, bind_eq_some_iff,
    some.injEq] at h
  obtain ⟨delivery, hd, c, hc, member, hm, rfl⟩ := h
  have hok := hi.deliveries d delivery hd
  obtain ⟨hva, hsu⟩ := hi.members _ _ hm
  have hph := hok.phase c hc
  set next := delivery.phase.advance options delivery.message member.connection answers with hne
  have hid : next.2.identity.Valid ∧ next.2.identity.owner = member.connection.identity.owner := by
    rcases delivery.phase.advance_identity member.connection with he | hp
    · rw [hne, he]
      exact ⟨hva, rfl⟩
    · rw [hp] at hph
      exact ⟨hph.1, some.inj (hph.2.symm.trans (World.owner_of_member hm))⟩
  have hfin (moved : Delivery)
      (hnew : ∀ w' : World, w.Extends w' →
        w'.log = delivery.events options d c member.connection answers ++ w.log → moved.Ok w' d)
      (w' : World) (hw : w' = { w.setConnection c member next.2 with
        deliveries := w.deliveries.set d moved
        log := delivery.events options d c member.connection answers ++ w.log }) :
      w'.Inv ∧ w.Extends w' := by
    have how : w'.owner = w.owner := hw ▸ World.owner_set hm rfl hid.2
    have he : w.Extends w' := ⟨fun c owner ho => how ▸ ho, _, congrArg World.log hw⟩
    subst hw
    refine ⟨hi.of_extends he ?_ (fun _ h => .inl h) (fun _ h => .inl h) ?_ ?_, he⟩
    · refine hi.members_set hid.1 ?_ (fun _ _ _ => Delivery.unsubscribed_notMem_events)
      refine hsu.mono ?_ (fun _ => Delivery.unsubscribed_notMem_events)
      rw [hne, DeliveryPhase.advance_subscriptions]
      exact List.Subset.refl _
    · intro k delivery' hk
      rcases getElem?_set_cases hk with ⟨rfl, rfl⟩ | ⟨_, hk⟩
      · exact .inr (hnew _ he rfl)
      · exact .inl hk
    · exact Delivery.events_ok he hok hc (hi.log.mono he)
  cases hn : next.1 with
  | none =>
    refine hfin _ ?_ _ rfl
    intro w' he _
    exact ⟨hok.valid, hok.published.mono he, fun _ _ => trivial⟩
  | some phase =>
    refine hfin _ ?_ _ rfl
    intro w' he hlog
    refine ⟨hok.valid, hok.published.mono he, fun k hk => ?_⟩
    obtain rfl := some.inj (hc.symm.trans hk)
    refine DeliveryPhase.ok_advance he ha hm hva hsu hok.valid hph ?_ hn
    intro identity hp
    have hev : delivery.events options d c member.connection answers = [.confirmed d c identity] := by
      rw [hne] at hn
      simp only [Delivery.events, hp] at hn ⊢
      rw [hn]
    rw [hlog, hev]
    rfl

end Deliveries

section Steps

variable {options : RealtimeOptions} {w w' : World}

theorem World.Inv.connect (hi : w.Inv) {gateway : Nat} {http : Bool} {identity : RealtimeIdentity}
    {sessionId : Option Text} (hv : identity.Valid)
    (hw : w' = { w with members := w.members ++
      [⟨{ identity := identity, sessionId := sessionId }, gateway, http, false⟩] }) :
    w'.Inv ∧ w.Extends w' := by
  subst hw
  have he : w.Extends { w with members := w.members ++
      [⟨{ identity := identity, sessionId := sessionId }, gateway, http, false⟩] } := by
    refine ⟨fun c owner ho => ?_, [], rfl⟩
    obtain ⟨member, hm, ho⟩ := map_eq_some_iff.mp ho
    have hlt : c < w.members.length := (List.getElem?_eq_some_iff.mp hm).1
    simp only [World.owner, getElem?_append_left hlt, hm, map_some, ho]
  refine ⟨hi.of_extends he ?_ (fun _ h => .inl h) (fun _ h => .inl h) (fun _ _ h => .inl h)
    (hi.log.mono he), he⟩
  intro c member hm
  rcases getElem?_append_singleton_cases hm with hm | ⟨_, rfl⟩
  · exact hi.members c member hm
  · exact ⟨hv, fun key hk => absurd hk not_mem_nil⟩

theorem World.Inv.setMember (hi : w.Inv) {c : Nat} {member member' : Member}
    (hm : w.members[c]? = some member)
    (hid : member'.connection.identity = member.connection.identity)
    (hs : member'.connection.subscriptions ⊆ member.connection.subscriptions) :
    World.Inv { w with members := w.members.set c member' } ∧
      w.Extends { w with members := w.members.set c member' } := by
  obtain ⟨hva, hsu⟩ := hi.members c member hm
  have how : World.owner { w with members := w.members.set c member' } = w.owner :=
    World.owner_set hm rfl (congrArg RealtimeIdentity.owner hid)
  have he : w.Extends { w with members := w.members.set c member' } :=
    ⟨fun k owner ho => how ▸ ho, [], rfl⟩
  refine ⟨hi.of_extends he ?_ (fun _ h => .inl h) (fun _ h => .inl h) (fun _ _ h => .inl h)
    (hi.log.mono he), he⟩
  exact @World.Inv.members_set _ w c [] member' hi (hid ▸ hva)
    (hsu.mono hs (fun _ => not_mem_nil)) (fun _ _ _ => not_mem_nil)

theorem World.Inv.addCommand (hi : w.Inv) (c : Nat) (envelope : Option MessageEnvelope) :
    World.Inv { w with commands := w.commands ++ [{ connection := c, envelope := envelope }] } ∧
      w.Extends { w with
        commands := w.commands ++ [{ connection := c, envelope := envelope }] } := by
  have he : w.Extends
      { w with commands := w.commands ++ [{ connection := c, envelope := envelope }] } :=
    ⟨fun _ _ ho => ho, [], rfl⟩
  refine ⟨hi.of_extends he hi.members ?_ (fun _ h => .inl h) (fun _ _ h => .inl h)
    (hi.log.mono he), he⟩
  intro command hc
  rcases mem_append.mp hc with hc | hc
  · exact .inl hc
  · obtain rfl := mem_singleton.mp hc
    exact .inr trivial

theorem World.Inv.addDelivery (hi : w.Inv) {message : RealtimeBusMessage} {k : Nat}
    (remaining : List Nat) (hk : w.bus[k]? = some message)
    (hv : isValidBusMessage message = true) :
    World.Inv { w with deliveries := w.deliveries ++ [⟨message, remaining, .reading⟩] } ∧
      w.Extends { w with deliveries := w.deliveries ++ [⟨message, remaining, .reading⟩] } := by
  have he : w.Extends { w with deliveries := w.deliveries ++ [⟨message, remaining, .reading⟩] } :=
    ⟨fun _ _ ho => ho, [], rfl⟩
  refine ⟨hi.of_extends he hi.members (fun _ h => .inl h) (fun _ h => .inl h) ?_
    (hi.log.mono he), he⟩
  intro d delivery hd
  rcases getElem?_append_singleton_cases hd with hd | ⟨_, rfl⟩
  · exact .inl hd
  · exact .inr ⟨hv, hi.bus message (mem_of_getElem? hk), fun _ _ => trivial⟩

theorem World.Inv.step {label : World.Label} (hi : w.Inv)
    (h : World.step options w label = some w') : w'.Inv ∧ w.Extends w' := by
  cases label with
  | connect gateway http identity sessionId =>
    simp only [World.step] at h
    split at h
    · next hv => exact hi.connect hv (some.inj h).symm
    · cases h
  | register c registered =>
    obtain ⟨member, hm, rfl⟩ := map_eq_some_iff.mp h
    exact hi.setMember hm rfl (List.Subset.refl _)
  | change c what =>
    obtain ⟨member, hm, rfl⟩ := map_eq_some_iff.mp h
    exact hi.setMember hm (member.connection.change_identity what)
      (member.connection.change_subscriptions what)
  | receive c envelope answers =>
    simp only [World.step, bind_eq_bind, bind_eq_some_iff,
      ite_none_right_eq_some, some.injEq] at h
    obtain ⟨_, _, _, rfl⟩ := h
    exact hi.addCommand c (some envelope)
  | heartbeat c =>
    simp only [World.step, bind_eq_bind, bind_eq_some_iff] at h
    obtain ⟨member, _, h⟩ := h
    cases h
    exact hi.addCommand c none
  | command i answers reached =>
    simp only [World.step] at h
    split at h
    · next ha => exact hi.stepCommand ha h
    · cases h
  | deliver gateway k =>
    simp only [World.step, bind_eq_bind, bind_eq_some_iff] at h
    obtain ⟨message, hk, h⟩ := h
    split at h
    · next hv =>
      cases h
      exact hi.addDelivery _ hk hv
    · cases h
  | delivery d answers =>
    simp only [World.step] at h
    split at h
    · next ha => exact hi.stepDelivery ha h
    · cases h

theorem World.Inv.run {labels : List World.Label} (hi : w.Inv)
    (h : (World.step options).run w labels = some w') : w'.Inv ∧ w.Extends w' := by
  refine StepFn.run_induct (P := fun v => v.Inv ∧ w.Extends v) ?_ ⟨hi, .refl w⟩ h
  rintro u label v ⟨hu, he⟩ hst
  obtain ⟨hv, he'⟩ := hu.step hst
  exact ⟨hv, he.trans he'⟩

theorem World.inv_initial : World.Inv {} where
  members c member h := by simp at h
  commands command h := by simp at h
  bus message h := by simp at h
  deliveries d delivery h := by simp at h
  log := trivial

end Steps

/-- In every run, an event is enqueued to a connection only if a connection of
the same tenant published it, the identity that the delivery read for the
recipient allows its topic, a user-scoped event is for the recipient's user, and
the recipient was subscribed to exactly that topic and user when the delivery
checked it last. Connections never change tenant or user. -/
theorem event_delivery_isolated (options : RealtimeOptions) (labels : List World.Label)
    (w : World) (h : (World.step options).run {} labels = some w) :
    (∀ later earlier d c identity message,
      w.log = later ++ .enqueued d c identity message :: earlier →
      ∃ member, w.members[c]? = some member ∧
        identity.owner = member.connection.identity.owner ∧
        (∃ p publisher, w.members[p]? = some publisher ∧ Event.published p message ∈ earlier ∧
          publisher.connection.identity.tenantId = member.connection.identity.tenantId) ∧
        identity.allows message.topic = true ∧
        (∀ userId, message.userId = some userId → member.connection.identity.userId = userId) ∧
        ∃ since before, earlier = since ++ .confirmed d c identity :: before ∧
          Subscribed before c message.route) ∧
    ∀ more w', (World.step options).run w more = some w' →
      ∀ (c : Nat) (member : Member), w.members[c]? = some member →
        ∃ member' : Member, w'.members[c]? = some member' ∧
          member'.connection.identity.tenantId = member.connection.identity.tenantId ∧
          member'.connection.identity.userId = member.connection.identity.userId := by
  have hi := (World.inv_initial.run h).1
  constructor
  · intro later earlier d c identity message hl
    have hev := hi.log
    rw [hl] at hev
    obtain ⟨ho, ⟨p, owner, hp, hpo, ht⟩, ⟨hte, hus, hal⟩, hco⟩ := hev.event_ok
    obtain ⟨member, hm, how⟩ := map_eq_some_iff.mp ho
    obtain ⟨publisher, hpm, hpow⟩ := map_eq_some_iff.mp hpo
    have hmt : member.connection.identity.tenantId = identity.tenantId := congrArg Prod.fst how
    have hmu : member.connection.identity.userId = identity.userId := congrArg Prod.snd how
    have hpt : publisher.connection.identity.tenantId = owner.1 := congrArg Prod.fst hpow
    refine ⟨member, hm, how.symm, ⟨p, publisher, hpm, hp, ?_⟩, hal, ?_, hco⟩
    · rw [hpt, ht, hmt, hte]
    · intro userId hu
      rw [hmu, hus userId hu]
  · intro more w' hr c member hm
    have he := (hi.run hr).2.owner c _ (World.owner_of_member hm)
    obtain ⟨member', hm', how⟩ := map_eq_some_iff.mp he
    exact ⟨member', hm', congrArg Prod.fst how, congrArg Prod.snd how⟩

end

def exampleCommand (type correlationId : Text) : MessageEnvelope :=
  { examplePublish with type := some type, correlationId := some correlationId }

/-- A connection subscribes and publishes, and the delivery of its event has
checked it for the last time. -/
def confirmedDelivery : List World.Label :=
  let command i := World.Label.command i exampleAnswers true
  let delivery := World.Label.delivery 0 exampleAnswers
  [.connect 0 false exampleIdentity none, .register 0 true,
    .receive 0 (exampleCommand ProtocolMessageTypes.subscribe (utf16 "s-1")) exampleAnswers,
    command 0, command 0, command 0, command 0, command 0,
    .receive 0 examplePublish exampleAnswers,
    command 1, command 1, command 1, command 1, command 1, command 1,
    .deliver 0 0, delivery, delivery, delivery]

def unsubscribing : List World.Label :=
  let command i := World.Label.command i exampleAnswers true
  [.receive 0 (exampleCommand ProtocolMessageTypes.unsubscribe (utf16 "u-1")) exampleAnswers,
    command 2, command 2, command 2, command 2, command 2]

def World.lastEnqueued (w : World) : Bool :=
  match w.log with
  | .enqueued 0 0 _ _ :: _ => true
  | _ => false

def World.lastEnqueuedUnsubscribed (w : World) : Bool :=
  match w.log with
  | .enqueued _ c _ message :: .unsubscribed c' route :: _ =>
    c == c' && decide (route = message.route)
  | _ => false

theorem event_delivery_isolated_orders :
    let _ := asciiTable
    ∃ w earlier identity message,
      (World.step {}).run {} (confirmedDelivery ++ [.delivery 0 exampleAnswers]) = some w ∧
      w.log = .enqueued 0 0 identity message :: earlier ∧
      identity.allows message.topic = true ∧
      ∃ since before, earlier = since ++ .confirmed 0 0 identity :: before ∧
        Subscribed before 0 message.route := by
  intro table
  have hrun : ((World.step {}).run {} (confirmedDelivery ++ [.delivery 0 exampleAnswers])).any
      World.lastEnqueued = true := by decide
  obtain ⟨w, hw, hla⟩ := (Option.any_eq_true _ _).mp hrun
  simp only [World.lastEnqueued] at hla
  split at hla
  · next identity message earlier hl =>
    obtain ⟨_, _, _, _, hal, _, hsub⟩ :=
      (event_delivery_isolated {} _ w hw).1 [] earlier 0 0 identity message hl
    exact ⟨w, earlier, identity, message, hw, hl, hal, hsub⟩
  · cases hla

/-- The connection unsubscribes between the last check of a delivery and its
enqueue, and the event still reaches its queue. -/
theorem event_enqueued_after_unsubscribe :
    let _ := asciiTable
    ∃ labels w d c identity message earlier, (World.step {}).run {} labels = some w ∧
      w.log = .enqueued d c identity message :: earlier ∧
      ¬ Subscribed earlier c message.route := by
  intro table
  have hrun : ((World.step {}).run {} (confirmedDelivery ++ unsubscribing ++
      [.delivery 0 exampleAnswers])).any World.lastEnqueuedUnsubscribed = true := by decide
  obtain ⟨w, hw, hla⟩ := (Option.any_eq_true _ _).mp hrun
  simp only [World.lastEnqueuedUnsubscribed] at hla
  split at hla
  · next d c identity message c' route earlier hl =>
    simp only [Bool.and_eq_true, beq_iff_eq, decide_eq_true_eq] at hla
    obtain ⟨rfl, rfl⟩ := hla
    exact ⟨_, w, d, c, identity, message, _, hw, hl, Subscribed.not_unsubscribed⟩
  · cases hla

end Realtime
