import Realtime.Client.Traffic

/-! Automatic heartbeats are told apart by a table of at most two identifiers. As long as no
entry is evicted whose heartbeat is still on its way, the table knows every heartbeat that is
queued or unanswered: none is taken over by the replay, and the filter of the receive loop drops
the acknowledgements of heartbeats and nothing else. -/

namespace Realtime.Client

open List Option

def beat (id : Text) : Tag → Bool := (· == (Origin.heartbeat, id))

theorem beat_self (id : Text) : beat id (.heartbeat, id) = true := by simp [beat]

theorem beat_of_origin {tag : Tag} (h : tag.1 ≠ .heartbeat) (id : Text) : beat id tag = false := by
  simp only [beat, beq_eq_false_iff_ne, ne_eq]
  rintro rfl
  exact h rfl

variable {messages : List OutboundMessage}

theorem weigh_beat (h : ∀ message ∈ messages, message.origin ≠ .heartbeat) (id : Text) :
    weigh (beat id) messages = 0 :=
  weigh_eq_zero.mpr (fun message hm => beat_of_origin (h message hm) id)

theorem weigh_beat_pos {message : OutboundMessage} (hm : message ∈ messages)
    (ho : message.origin = .heartbeat) :
    0 < weigh (beat message.correlationId) messages := by
  rw [Nat.pos_iff_ne_zero]
  intro h
  have hb := weigh_eq_zero.mp h message hm
  have htag : message.tag = (.heartbeat, message.correlationId) := by rw [← ho]; rfl
  rw [htag, beat_self] at hb
  cases hb

structure ReplayPhase.Plain (phase : ReplayPhase) : Prop where
  pending : ∀ message ∈ phase.pending, message.origin ≠ .heartbeat
  commands : ∀ message ∈ phase.commands, message.origin ≠ .heartbeat

theorem ReplayPhase.Plain.of_pending {phase : ReplayPhase}
    (hp : ∀ message ∈ phase.pending, message.origin ≠ .heartbeat) (hc : phase.commands = []) :
    phase.Plain where
  pending := hp
  commands := by simp [hc]

def ServerFrame.acknowledgesHeartbeat (frame : ServerFrame) : Bool :=
  frame.envelope.type == some ProtocolMessageTypes.acknowledge &&
    frame.answers.any (fun message => message.origin = .heartbeat)

/-- The frame that has passed the filter and not been written to the inbound channel yet. -/
def ReceivePhase.passed : ReceivePhase → List ServerFrame
  | responding frame | releasing frame | writing frame => [frame]
  | _ => []

namespace RealtimeClient

structure Hidden (s : RealtimeClient) : Prop where
  delivering : s.Delivering
  identified : s.Identified
  frames : ∀ frame ∈ s.unprocessed, frame.Ok
  once : ∀ id, s.volume (beat id) ≤ 1
  recorded : ∀ id, 0 < s.volume (beat id) → s.isAutomaticHeartbeat id = true
  replaying : ∀ phase, s.replay = some phase → phase.Plain
  quiet : s.send = none → ∀ id, s.connected (beat id) = 0
  emptied : ∀ pending, s.replay = some (.clearing pending) → ∀ id, weigh (beat id) s.outbound = 0
  passed : ∀ phase, s.receive = some phase → ∀ frame ∈ phase.passed,
    frame.acknowledgesHeartbeat = false

/-- What a step does to the table, the recording of a heartbeat apart. -/
inductive TableMove (s t : RealtimeClient) : Prop where
  | same (table : t.heartbeatCorrelations = s.heartbeatCorrelations)
  | removed (tag : Tag)
      (table : t.heartbeatCorrelations = withoutHeartbeat s.heartbeatCorrelations tag.2)
      (gone : s.isAutomaticHeartbeat tag.2 = true →
        ∀ mark, t.volume mark + (if mark tag then 1 else 0) ≤ s.volume mark)
  | cleared (gone : ∀ id, t.volume (beat id) = 0)

variable {s t : RealtimeClient} {input : Await} {now : UtcNow} {fresh : Guid} {k : Nat}
  {label : Label}

variable {id : Text} {frame : ServerFrame} {message : OutboundMessage}
  {pending : List OutboundMessage}

theorem isAutomaticHeartbeat_iff :
    s.isAutomaticHeartbeat id = true ↔ ∃ entry ∈ s.heartbeatCorrelations, entry.1 = id := by
  simp [isAutomaticHeartbeat]

theorem withoutHeartbeat_eq_self (h : s.isAutomaticHeartbeat id = false) :
    withoutHeartbeat s.heartbeatCorrelations id = s.heartbeatCorrelations := by
  simp only [isAutomaticHeartbeat, List.any_eq_false, beq_iff_eq] at h
  simp only [withoutHeartbeat, filter_eq_self, ne_eq, decide_eq_true_eq]
  exact h

theorem called_beat (hd : s.Delivering) (hi : s.Identified)
    (hp : ∀ phase, s.replay = some phase → phase.Plain) (id : Text) : s.called (beat id) = 0 := by
  have hse : (s.senders.map (fun sender => weigh (beat id) sender.messages)).sum = 0 := by
    rw [sum_eq_zero_iff]
    intro weight hm
    obtain ⟨sender, hsen, rfl⟩ := List.mem_map.mp hm
    refine weigh_beat ?_ id
    intro message hme
    have happ := (hd.senders_known sender hsen message (mem_toList.mp hme)).1
    simp only [OutboundMessage.isApplication, decide_eq_true_eq] at happ
    rw [happ]
    rintro ⟨⟩
  have hch : (s.changes.map (fun change => weigh (beat id) change.messages)).sum = 0 := by
    rw [sum_eq_zero_iff]
    intro weight hm
    obtain ⟨change, hcha, rfl⟩ := List.mem_map.mp hm
    refine weigh_beat ?_ id
    intro message hme
    rw [hi.origins change hcha message hme]
    rintro ⟨⟩
  have hco : weigh (beat id) (s.replay.elim [] ReplayPhase.commands) = 0 := by
    cases hr : s.replay with
    | none => rfl
    | some phase => exact weigh_beat (hp phase hr).commands id
  rw [called, hse, hch, hco]

theorem volume_eq_zero {mark : Tag → Bool} (hca : s.called mark = 0)
    (hqu : s.queued mark = 0) (hco : s.connected mark = 0) : s.volume mark = 0 := by
  rw [volume, hca, hqu, hco]

theorem Hidden.called_beat (h : s.Hidden) (id : Text) : s.called (beat id) = 0 :=
  RealtimeClient.called_beat h.delivering h.identified h.replaying id

theorem Hidden.once_step (h : s.Hidden) (ht : step s label = some t) (id : Text) :
    t.volume (beat id) ≤ 1 := by
  have hon := h.once id
  cases step_flow ht with
  | steady hle => exact (hle (beat id)).trans hon
  | made tag hle ho _ =>
    have hle := hle (beat id)
    rw [beat_of_origin ho] at hle
    simp only [Bool.false_eq_true, if_false] at hle
    omega
  | beat other hle hun _ =>
    have hle := hle (beat id)
    by_cases he : other = id
    · subst he
      have hze : s.volume (beat other) = 0 := by
        by_contra hne
        have hm : other ∈ s.heartbeatIds :=
          h.identified.drawn (.heartbeat, other) (Nat.pos_of_ne_zero hne)
        exact hun (by simp [usedIds, hm])
      rw [beat_self, if_pos rfl] at hle
      omega
    · rw [if_neg (by simpa [beat] using he)] at hle
      omega

theorem volume_beat_le (hids : t.heartbeatIds = s.heartbeatIds) (ht : step s label = some t)
    (id : Text) : t.volume (beat id) ≤ s.volume (beat id) := by
  cases step_flow ht with
  | steady hle => exact hle (beat id)
  | made tag hle ho _ =>
    have hle := hle (beat id)
    rw [beat_of_origin ho] at hle
    simpa only [Bool.false_eq_true, if_false, Nat.add_zero] using hle
  | beat other _ hun hdr =>
    rw [hids] at hdr
    exact absurd hdr (not_mem_heartbeatIds hun)

theorem Hidden.recorded_step (h : s.Hidden) (hids : t.heartbeatIds = s.heartbeatIds)
    (ht : step s label = some t) (table : TableMove s t) (id : Text)
    (hv : 0 < t.volume (beat id)) : t.isAutomaticHeartbeat id = true := by
  have hle := volume_beat_le hids ht id
  have hs := h.recorded id (by omega)
  cases table with
  | same he =>
    rw [isAutomaticHeartbeat, he]
    exact hs
  | cleared hgo =>
    have hgo := hgo id
    omega
  | removed tag he hgo =>
    by_cases hau : s.isAutomaticHeartbeat tag.2 = true
    · -- The message that leaves is the heartbeat of the removed entry.
      obtain ⟨entry, hm, hen⟩ := isAutomaticHeartbeat_iff.mp hau
      have hdr : tag.2 ∈ s.heartbeatIds := hen ▸ h.delivering.table_drawn entry hm
      have hco := hgo hau (· == tag)
      simp only [beq_self_eq_true, if_true] at hco
      have hvo : 0 < s.volume (· == tag) := by omega
      have hor := h.identified.origin_eq h.delivering hvo hdr
      have hne : id ≠ tag.2 := by
        rintro rfl
        have hgo := hgo hau (beat tag.2)
        have hbe : beat tag.2 tag = true := by simp [beat, ← hor]
        rw [hbe, if_pos rfl] at hgo
        have hon := h.once tag.2
        omega
      obtain ⟨other, hot, hid⟩ := isAutomaticHeartbeat_iff.mp hs
      refine isAutomaticHeartbeat_iff.mpr ⟨other, ?_, hid⟩
      rw [he]
      simp only [withoutHeartbeat, mem_filter, decide_eq_true_eq]
      exact ⟨hot, by rw [hid]; exact hne⟩
    · rw [isAutomaticHeartbeat, he, withoutHeartbeat_eq_self (by simpa using hau)]
      exact hs

theorem Hidden.of_step (h : s.Hidden) (ht : step s label = some t)
    (hids : t.heartbeatIds = s.heartbeatIds) (table : TableMove s t)
    (frames : ∀ frame ∈ t.unprocessed, frame.Ok)
    (replaying : ∀ phase, t.replay = some phase → phase.Plain)
    (quiet : t.send = none → ∀ id, t.connected (beat id) = 0)
    (emptied : ∀ pending, t.replay = some (.clearing pending) →
      ∀ id, weigh (beat id) t.outbound = 0)
    (passed : ∀ phase, t.receive = some phase → ∀ frame ∈ phase.passed,
      frame.acknowledgesHeartbeat = false) : t.Hidden := {
  delivering := (h.delivering.step ht).1
  identified := h.identified.step ht
  once := h.once_step ht
  recorded := h.recorded_step hids ht table
  frames, replaying, quiet, emptied, passed }

theorem Hidden.sender (h : s.Hidden) (ht : step s (.sender k input) = some t) : t.Hidden := by
  have hst : s.stepSender k input = some t := ht
  revert hst
  fun_cases s.stepSender k input <;> intro hst <;> cases hst
  case case4.refl message hk _ =>
    refine h.of_step ht rfl (.same rfl) h.frames h.replaying h.quiet (fun pending hp id => ?_)
      h.passed
    have happ := (h.delivering.senders_known _ (mem_of_getElem? hk) message rfl).1
    simp only [OutboundMessage.isApplication, decide_eq_true_eq] at happ
    have hze : weigh (beat id) [message] = 0 := by
      refine weigh_beat ?_ id
      simp [happ]
    rw [weigh_append, hze, h.emptied pending hp id]
  all_goals exact h.of_step ht rfl (.same rfl) h.frames h.replaying h.quiet h.emptied h.passed

theorem Hidden.changeStep {tooLarge : Bool} (h : s.Hidden)
    (ht : step s (.changeStep k input now fresh tooLarge) = some t) : t.Hidden := by
  obtain ⟨change, next, hk, hset, -, hm⟩ := stepChange_messages ht
  obtain ⟨u, hu⟩ := step_footprint _ ht
  subst hu
  refine h.of_step ht rfl (.same rfl) h.frames h.replaying h.quiet (fun pending hp id => ?_) h.passed
  have hem := h.emptied pending hp id
  cases hm with
  | moved _ hle =>
    have hze : weigh (beat id) change.messages = 0 := by
      refine weigh_beat ?_ id
      intro message hme
      rw [h.identified.origins change (mem_of_getElem? hk) message hme]
      nofun
    have hle := hle (beat id)
    omega
  | made message _ _ ho _ =>
    rw [ho]
    exact hem

theorem Hidden.volume_discardLeftovers (h : s.Hidden) (hr : s.run.inConnection = false)
    (id : Text) : s.discardLeftovers.volume (beat id) = 0 := by
  obtain ⟨hre, hrep, hse, hhe⟩ := h.delivering.tasks.none_of_idle hr
  simp only [tasks_receive, tasks_replay, tasks_send, tasks_heartbeat] at *
  have hca : s.discardLeftovers.called (beat id) = 0 := h.called_beat id
  have hqu : s.discardLeftovers.queued (beat id) = 0 := by
    simp only [queued, waiting, discardLeftovers, hhe, hse, hrep, inFlight, replayList,
      elim_none, append_nil, weigh_nil]
  have hco : s.discardLeftovers.connected (beat id) = 0 := by
    simp only [connected, discardLeftovers, hre, isSome_none, Bool.false_eq_true,
      if_false]
  exact volume_eq_zero hca hqu hco

theorem Hidden.stopper (h : s.Hidden) (ht : step s (.stopper k) = some t) : t.Hidden := by
  have hst : s.stepStopper k = some t := ht
  revert hst
  fun_cases s.stepStopper k <;> intro hst <;> cases hst
  case case3.refl hk =>
    have hsk : s.run = .skipped :=
      h.delivering.tasks.skipped_of_stopper .discarding (mem_of_getElem? hk) rfl
    have hgo := h.volume_discardLeftovers (by rw [hsk]; rfl)
    exact h.of_step ht rfl (.cleared hgo) h.frames h.replaying h.quiet (fun _ _ _ => rfl) h.passed
  all_goals exact h.of_step ht rfl (.same rfl) h.frames h.replaying h.quiet h.emptied h.passed

theorem Hidden.run {first : FirstLoop} (h : s.Hidden) (ht : step s (.run input first) = some t) :
    t.Hidden := by
  have hst : s.stepRun input first = some t := ht
  revert hst
  fun_cases s.stepRun input first <;> intro hst <;> cases hst
  case case5.refl =>
    refine h.of_step ht rfl (.same rfl) (fun _ hm => absurd hm not_mem_nil) ?_ (fun _ _ => rfl)
      (by rintro _ ⟨⟩) ?_
    · rintro phase ⟨⟩
      exact .of_pending (fun _ hm => absurd hm not_mem_nil) rfl
    · rintro phase ⟨⟩ frame hm
      exact absurd hm not_mem_nil
  case case11.refl =>
    exact h.of_step ht rfl (.same rfl) h.frames h.replaying (by rintro ⟨⟩) h.emptied h.passed
  case case20.refl =>
    exact h.of_step ht rfl (.same rfl)
      (fun frame hm => h.frames frame (mem_append_right _ hm)) (by rintro _ ⟨⟩) (fun _ _ => rfl) (by rintro _ ⟨⟩)
      (by rintro phase ⟨⟩)
  case case32.refl hr =>
    have hgo := h.volume_discardLeftovers (by rw [hr]; rfl)
    exact h.of_step ht rfl (.cleared hgo) h.frames h.replaying h.quiet (fun _ _ _ => rfl) h.passed
  all_goals exact h.of_step ht rfl (.same rfl) h.frames h.replaying h.quiet h.emptied h.passed

theorem Hidden.of_connection (h : s.Hidden) (ht : step s label = some t)
    (hids : t.heartbeatIds = s.heartbeatIds) (table : TableMove s t)
    (hre : t.replay = s.replay) (hse : t.send = s.send) (hout : t.outbound = s.outbound)
    (hqu : ∀ mark, t.queued mark = s.queued mark)
    (hfr : ∀ frame ∈ t.unprocessed, frame.Ok)
    (hpa : ∀ phase, t.receive = some phase → ∀ frame ∈ phase.passed,
      frame.acknowledgesHeartbeat = false) : t.Hidden := by
  refine h.of_step ht hids table hfr (hre ▸ h.replaying) (fun hno id => ?_) ?_ hpa
  · have hle := volume_beat_le hids ht id
    have hco := h.quiet (hse ▸ hno) id
    have hca := h.called_beat id
    have hqu := hqu (beat id)
    simp only [volume] at hle
    omega
  · rw [hre, hout]
    exact h.emptied

theorem Hidden.serve {accepted : Bool} (h : s.Hidden)
    (ht : step s (.serve accepted now) = some t) : t.Hidden := by
  have hst : s.serve accepted now = some t := ht
  revert hst
  fun_cases s.serve accepted now <;> intro hst <;> cases hst
  case case1.refl message wire hw hva =>
    refine h.of_connection ht rfl (.same rfl) rfl rfl rfl (fun _ => rfl) ?_ h.passed
    simp only [unprocessed]
    rw [← append_assoc]
    exact forall_mem_concat h.frames (.answered message accepted now hva)

theorem Hidden.push {envelope : ServerMessageEnvelope} (h : s.Hidden)
    (ht : step s (.push envelope) = some t) : t.Hidden := by
  have hst : s.push envelope = some t := ht
  revert hst
  fun_cases s.push envelope <;> intro hst <;> cases hst
  next hre =>
    refine h.of_connection ht rfl (.same rfl) rfl rfl rfl (fun _ => rfl) ?_ h.passed
    simp only [unprocessed]
    rw [← append_assoc]
    exact forall_mem_concat h.frames (.pushed envelope (by simpa using hre))

theorem receivedPhase_passed (frame : ServerFrame) : (receivedPhase frame).passed = [] := by
  unfold receivedPhase
  split_ifs <;> rfl

theorem Hidden.received {received : Received} (h : s.Hidden)
    (ht : step s (.received received) = some t) : t.Hidden := by
  have hst : s.stepReceived received = some t := ht
  revert hst
  fun_cases s.stepReceived received <;> intro hst <;> cases hst
  case case1.refl hp frame frames hf =>
    refine h.of_connection ht rfl (.same rfl) rfl rfl rfl (fun _ => rfl) ?_ ?_
    · intro other hm
      have hfr := h.frames
      simp only [unprocessed, hp, hf, elim_some] at hm hfr
      rcases receivedPhase_unprocessed frame with he | he
      · rw [he] at hm
        exact hfr other (mem_cons_of_mem _ hm)
      · rw [he] at hm
        exact hfr other hm
    · rintro phase ⟨⟩ other hm
      rw [receivedPhase_passed] at hm
      exact absurd hm not_mem_nil
  all_goals
    refine h.of_connection ht rfl (.same rfl) rfl rfl rfl (fun _ => rfl) ?_ ?_
    · exact fun other hm => h.frames other (mem_append_right _ hm)
    · rintro phase ⟨⟩ other hm
      exact absurd hm not_mem_nil

theorem volume_filtering (hp : s.receive = some (.filtering frame))
    (ha : frame.answers = some message) (mark : Tag → Bool) :
    s.volume mark = s.called mark + s.queued mark + (weigh mark s.wire +
      ((if mark message.tag then 1 else 0) +
        weigh mark (s.frames.filterMap ServerFrame.answers))) := by
  simp only [volume, connected, unprocessed, hp, isSome_some, if_true, elim_some,
    ReceivePhase.unprocessed, singleton_append, filterMap_cons, ha]
  rw [weigh_cons, weigh_singleton]

theorem Hidden.volume_answered (h : s.Hidden) (hp : s.receive = some (.filtering frame))
    (ha : frame.answers = some message) :
    0 < s.volume (· == message.tag) ∧
      frame.envelope.correlationId.getD [] = message.correlationId := by
  constructor
  · rw [volume_filtering hp ha, if_pos (beq_self_eq_true _)]
    omega
  · cases h.frames frame (by simp [unprocessed, hp, ReceivePhase.unprocessed]) with
    | pushed envelope _ => cases ha
    | answered other accepted now _ =>
      cases ha
      rfl

theorem Hidden.filtered (h : s.Hidden) (hp : s.receive = some (.filtering frame))
    (hfi : s.isHeartbeatAcknowledgement frame.envelope = false) :
    frame.acknowledgesHeartbeat = false := by
  by_contra hn
  simp only [Bool.not_eq_false, ServerFrame.acknowledgesHeartbeat, Bool.and_eq_true, beq_iff_eq,
    Option.any_eq_true, decide_eq_true_eq] at hn
  obtain ⟨hty, message, ha, ho⟩ := hn
  obtain ⟨hvo, hid⟩ := h.volume_answered hp ha
  have htag : message.tag = (.heartbeat, message.correlationId) := by rw [← ho]; rfl
  rw [htag] at hvo
  have hau := h.recorded _ hvo
  simp [isHeartbeatAcknowledgement, hty, hid, hau] at hfi

theorem Hidden.answers_of_filter (h : s.Hidden) (hp : s.receive = some (.filtering frame))
    (hfi : s.isHeartbeatAcknowledgement frame.envelope = true) :
    ∃ message, frame.answers = some message ∧ message.origin = .heartbeat ∧
      frame.envelope.correlationId.getD [] = message.correlationId := by
  simp only [isHeartbeatAcknowledgement, Bool.and_eq_true, beq_iff_eq] at hfi
  obtain ⟨hty, hau⟩ := hfi
  cases ha : frame.answers with
  | none =>
    cases h.frames frame (by simp [unprocessed, hp, ReceivePhase.unprocessed]) with
    | pushed envelope hre =>
      simp only at hty
      simp [isResponse, hty] at hre
    | answered => cases ha
  | some message =>
    obtain ⟨hvo, hid⟩ := h.volume_answered hp ha
    obtain ⟨entry, hm, hen⟩ := isAutomaticHeartbeat_iff.mp hau
    have hdr : message.correlationId ∈ s.heartbeatIds := by
      rw [← hid, ← hen]
      exact h.delivering.table_drawn entry hm
    exact ⟨message, rfl, h.identified.origin_eq h.delivering hvo hdr, hid⟩

theorem TableMove.of_filter (hp : s.receive = some (.filtering frame))
    (ha : frame.answers = some message) (hr : t.receive = some .receiving) (hw : t.wire = s.wire)
    (hf : t.frames = s.frames) (hca : ∀ mark, t.called mark = s.called mark)
    (hqu : ∀ mark, t.queued mark = s.queued mark)
    (hta : t.heartbeatCorrelations = withoutHeartbeat s.heartbeatCorrelations
      message.correlationId) : TableMove s t := by
  refine .removed message.tag hta ?_
  intro _ mark
  rw [volume_filtering hp ha]
  simp only [volume, hca, hqu, connected, unprocessed, hr, hw, hf, isSome_some,
    if_true, elim_some, ReceivePhase.unprocessed, nil_append]
  omega

theorem Hidden.receive (h : s.Hidden) (ht : step s (.receive input) = some t) : t.Hidden := by
  have hst : s.stepReceive input = some t := ht
  revert hst
  fun_cases s.stepReceive input <;> intro hst <;> cases hst
  case case9.refl frame hp _ hfi =>
    obtain ⟨message, ha, -, hid⟩ := h.answers_of_filter hp hfi
    refine h.of_connection ht rfl (.of_filter hp ha rfl rfl rfl (fun _ => rfl) (fun _ => rfl)
      (by rw [← hid])) rfl rfl rfl (fun _ => rfl) ?_ ?_
    · exact fun other hm => h.frames other (mem_append_right _ hm)
    · rintro phase ⟨⟩ other hm
      exact absurd hm not_mem_nil
  case case10.refl frame hp _ hfi =>
    refine h.of_connection ht rfl (.same rfl) rfl rfl rfl (fun _ => rfl) ?_ ?_
    · intro other hm
      exact h.frames other (by simpa [unprocessed, hp, ReceivePhase.unprocessed] using hm)
    · rintro phase ⟨⟩ other hm
      rw [mem_singleton.mp hm]
      exact h.filtered hp (by simpa using hfi)
  case case11.refl frame hp _ _ | case12.refl frame hp _ | case13.refl frame hp =>
    refine h.of_connection ht rfl (.same rfl) rfl rfl rfl (fun _ => rfl) ?_ ?_
    · exact fun other hm => h.frames other (mem_append_right _ hm)
    · rintro phase ⟨⟩ other hm
      exact h.passed _ hp other hm
  all_goals
    refine h.of_connection ht rfl (.same rfl) rfl rfl rfl (fun _ => rfl) ?_ ?_
    · exact fun other hm => h.frames other (mem_append_right _ hm)
    · rintro phase ⟨⟩ other hm
      exact absurd hm not_mem_nil

theorem Hidden.not_clearing (h : s.Hidden) (hl : s.send ≠ none ∨ s.heartbeat ≠ none)
    (pending : List OutboundMessage) : s.replay ≠ some (.clearing pending) := by
  obtain ⟨close, hre⟩ := h.delivering.tasks.replayed (by tauto)
  rw [tasks_replay] at hre
  rw [hre]
  nofun

theorem Hidden.sendLoop (h : s.Hidden) (ht : step s (.sendLoop input now) = some t) :
    t.Hidden := by
  have hst : s.stepSend input now = some t := ht
  obtain ⟨phase, -, hp, -, -⟩ := stepSend_tasks hst
  have hcl := h.not_clearing (.inl (by rw [hp]; rintro ⟨⟩))
  revert hst
  fun_cases s.stepSend input now <;> intro hst <;> cases hst
  all_goals
    exact h.of_step ht rfl (.same rfl) h.frames h.replaying (by rintro ⟨⟩)
      (fun pending hp => absurd hp (hcl pending)) h.passed

/-- The recording of a heartbeat pushes none out of the table that is still on its way. -/
def evictsNone (s : RealtimeClient) (now : UtcNow) (fresh : Guid) : Bool :=
  s.heartbeatCorrelations.all (fun entry => s.volume (beat entry.1) == 0 ||
    (recordHeartbeat s.options s.heartbeatCorrelations fresh.toText now).any (fun kept =>
      kept.1 == entry.1))

theorem Hidden.recorded_heartbeat (h : s.Hidden) (hok : s.evictsNone now fresh = true)
    (ht : step s label = some t) (hids : t.heartbeatIds = s.heartbeatIds ++ [fresh.toText])
    (hta : t.heartbeatCorrelations =
      recordHeartbeat s.options s.heartbeatCorrelations fresh.toText now) (id : Text)
    (hv : 0 < t.volume (beat id)) : t.isAutomaticHeartbeat id = true := by
  rw [isAutomaticHeartbeat, hta]
  by_cases hid : id = fresh.toText
  · simp [recordHeartbeat, hid]
  · have hle : t.volume (beat id) ≤ s.volume (beat id) := by
      cases step_flow ht with
      | steady hle => exact hle (beat id)
      | made tag hle ho _ =>
        have hle := hle (beat id)
        rw [beat_of_origin ho] at hle
        simpa only [Bool.false_eq_true, if_false, Nat.add_zero] using hle
      | beat other hle hun hdr =>
        rw [hids, mem_append, mem_singleton] at hdr
        have hot : other = fresh.toText :=
          hdr.resolve_left (not_mem_heartbeatIds hun)
        have hle := hle (beat id)
        rw [if_neg (by simpa [beat, hot] using fun he => hid he.symm)] at hle
        exact hle
    obtain ⟨entry, hm, rfl⟩ := isAutomaticHeartbeat_iff.mp (h.recorded id (by omega))
    have hen := List.all_eq_true.mp hok entry hm
    simp only [Bool.or_eq_true, beq_iff_eq] at hen
    exact hen.resolve_left (by omega)

theorem Hidden.heartbeat (h : s.Hidden)
    (hok : s.heartbeat = some .delaying → input = .ok → s.evictsNone now fresh = true)
    (ht : step s (.heartbeat input now fresh) = some t) : t.Hidden := by
  have hst : s.stepHeartbeat input now fresh = some t := ht
  obtain ⟨phase, -, hp, -, -⟩ := stepHeartbeat_tasks hst
  have hcl := h.not_clearing (.inr (by rw [hp]; nofun))
  clear hp
  revert hst
  fun_cases s.stepHeartbeat input now fresh <;> intro hst <;> cases hst
  case case1.refl hp _ =>
    exact { h with
      delivering := (h.delivering.step ht).1
      identified := h.identified.step ht
      once := h.once_step ht
      recorded := h.recorded_heartbeat (hok hp rfl) ht rfl rfl }
  case case12.refl heartbeat failure hp =>
    refine h.of_step ht rfl ?_ h.frames h.replaying h.quiet h.emptied h.passed
    refine .removed heartbeat.tag rfl ?_
    intro _ mark
    simp only [volume, called, queued, connected, waiting, unprocessed, hp, elim_some,
      HeartbeatPhase.messages, weigh_nil, weigh_singleton]
    split_ifs <;> omega
  all_goals
    exact h.of_step ht rfl (.same rfl) h.frames h.replaying h.quiet
      (fun pending hp => absurd hp (hcl pending)) h.passed

/-- The table knows a heartbeat that waits in the backlog or in the channel, so it is dropped. -/
theorem Hidden.kept_origin (h : s.Hidden) (hm : message ∈ s.waiting)
    (hke : s.isKept message = true) : message.origin ≠ .heartbeat := by
  intro ho
  have hvo : 0 < s.volume (beat message.correlationId) := by
    have hpos := weigh_beat_pos hm ho
    simp only [volume, queued]
    omega
  have hau := h.recorded _ hvo
  simp [isKept, hau] at hke

theorem Hidden.plain_keepPending (h : s.Hidden)
    (hpe : ∀ other ∈ pending, other.origin ≠ .heartbeat) (hm : message ∈ s.waiting) :
    ∀ other ∈ s.keepPending now pending message, other.origin ≠ .heartbeat := by
  intro other hot
  unfold keepPending at hot
  split_ifs at hot with hke
  · rw [mem_append, mem_singleton] at hot
    rcases hot with hot | rfl
    · exact hpe other hot
    · have ho := h.kept_origin hm hke
      exact ho
  · exact hpe other hot

theorem Hidden.replay_plain (h : s.Hidden) : s.stepReplay input now fresh = some t →
    ∀ phase, t.replay = some phase → phase.Plain := by
  fun_cases s.stepReplay input now fresh <;> intro ht <;> cases ht <;>
    rintro phase ⟨⟩
  case case4.refl pending hp message rest hb | case6.refl pending hp message rest hb =>
    have hm : message ∈ s.waiting := by simp [waiting, hb]
    exact .of_pending (h.plain_keepPending (h.replaying _ hp).pending hm) rfl
  case case11.refl pending route routes hp _ =>
    refine ⟨(h.replaying _ hp).pending, ?_⟩
    intro message hm
    rw [mem_singleton.mp hm]
    rintro ⟨⟩
  case case15.refl hp _ => exact ⟨(h.replaying _ hp).pending, (h.replaying _ hp).commands⟩
  case case18.refl hp =>
    split_ifs <;> exact .of_pending (h.replaying _ hp).pending rfl
  case case21.refl message pending hp =>
    have hpe := (h.replaying _ hp).pending
    exact .of_pending (fun other hm => hpe other (mem_cons_of_mem _ hm)) rfl
  case case22.refl message pending failure hp =>
    have hpe := (h.replaying _ hp).pending
    refine .of_pending ?_ rfl
    intro other hm
    rcases mem_cons.mp hm with rfl | hm
    · have ho := hpe message mem_cons_self
      exact ho
    · exact hpe other (mem_cons_of_mem _ hm)
  all_goals
    have hpl := h.replaying _ ‹s.replay = some _›
    first
    | exact .of_pending hpl.pending rfl
    | exact .of_pending (fun _ hm => absurd hm not_mem_nil) rfl

theorem connected_wire_append (message : OutboundMessage) (hw : t.wire = s.wire ++ [message])
    (hr : t.receive = s.receive) (hf : t.frames = s.frames) (ho : message.origin ≠ .heartbeat)
    (id : Text) : t.connected (beat id) = s.connected (beat id) := by
  have hze : weigh (beat id) [message] = 0 := by
    refine weigh_beat ?_ id
    simpa using ho
  simp only [connected, unprocessed, hw, hr, hf, weigh_append, hze, Nat.add_zero]

theorem Hidden.replay_connected (h : s.Hidden) (ht : s.stepReplay input now fresh = some t)
    (id : Text) : t.connected (beat id) = s.connected (beat id) := by
  revert ht
  fun_cases s.stepReplay input now fresh <;> intro ht <;> cases ht
  case case16.refl pending command route routes hp =>
    have ho := (h.replaying _ hp).commands command (mem_singleton_self _)
    refine connected_wire_append command ?_ ?_ ?_ ho id <;> rfl
  case case21.refl message pending hp =>
    have ho := (h.replaying _ hp).pending message mem_cons_self
    refine connected_wire_append (message.refreshTimestamp now) ?_ ?_ ?_ ho id <;> rfl
  all_goals rfl

theorem TableMove.of_drained (now : UtcNow)
    (hta : t.heartbeatCorrelations = s.heartbeatsAfterKeeping message)
    (hpe : replayList s.replay = pending)
    (hke : replayList t.replay = s.keepPending now pending message)
    (hcom : t.replay.elim [] ReplayPhase.commands = []) (hse : t.senders = s.senders)
    (hch : t.changes = s.changes) (hhe : t.heartbeat = s.heartbeat)
    (hsen : t.send = s.send) (hco : ∀ mark, t.connected mark = s.connected mark)
    (hqu : ∀ mark, weigh mark t.replayBacklog + weigh mark t.outbound + weigh mark [message] =
      weigh mark s.replayBacklog + weigh mark s.outbound) : TableMove s t := by
  by_cases hc : isSubscriptionCommand message.envelope = true
  · refine .same ?_
    rw [hta, heartbeatsAfterKeeping, if_pos hc]
  · refine .removed message.tag ?_ ?_
    · rw [hta, heartbeatsAfterKeeping, if_neg hc]
      rfl
    · intro hau mark
      have hnot : s.isKept message = false := by
        have hau : s.isAutomaticHeartbeat message.correlationId = true := hau
        simp [isKept, hau]
      have hsa : s.keepPending now pending message = pending := by
        rw [keepPending, if_neg (by simp [hnot])]
      have hqu := hqu mark
      rw [weigh_singleton] at hqu
      simp only [volume, called, queued, waiting, weigh_append, hke, hsa, hpe, hcom,
        hse, hch, hhe, hsen, hco, weigh_nil]
      omega

theorem Hidden.replay_table (h : s.Hidden) (ht : s.stepReplay input now fresh = some t)
    (hs : step s label = some t) : TableMove s t := by
  have hpl := h.replay_plain ht
  revert ht
  fun_cases s.stepReplay input now fresh <;> intro ht <;> cases ht
  case case4.refl pending hr message rest hb | case6.refl pending hr message rest hb =>
    refine .of_drained now rfl ?_ rfl rfl rfl rfl rfl rfl (fun _ => rfl) ?_
    · rw [hr]
      rfl
    · intro mark
      dsimp only
      rw [hb, weigh_cons message rest]
      omega
  case case8.refl pending hr =>
    -- Nothing of the last connection is left once the channel has been emptied.
    refine .cleared ?_
    intro id
    have hlo : s.send = none ∧ s.heartbeat = none := by
      by_contra hne
      exact h.not_clearing (by tauto) pending hr
    have hca := RealtimeClient.called_beat (h.delivering.step hs).1 (h.identified.step hs)
      hpl id
    have hco := h.quiet hlo.1 id
    have hba := h.delivering.backlog_empty (by rw [hr]; rfl)
    have hpe := weigh_beat (h.replaying _ hr).pending id
    have hem := h.emptied pending hr id
    refine volume_eq_zero hca ?_ hco
    simp only [queued, waiting, hlo.1, hlo.2, inFlight, replayList, elim_none,
      elim_some, hba, weigh_append, weigh_nil, hem,
      ReplayPhase.pending] at hpe ⊢
    omega
  all_goals exact .same rfl

theorem stepReplay_rest : s.stepReplay input now fresh = some t →
    t.heartbeatIds = s.heartbeatIds ∧ t.receive = s.receive ∧ t.frames = s.frames ∧
      t.send = s.send ∧ ∀ pending, t.replay = some (.clearing pending) → t.outbound = [] := by
  fun_cases s.stepReplay input now fresh <;> intro ht <;> cases ht
  case case7.refl pending _ ho => exact ⟨rfl, rfl, rfl, rfl, fun _ _ => ho⟩
  case case18.refl =>
    refine ⟨rfl, rfl, rfl, rfl, ?_⟩
    intro pending hp
    dsimp only at hp
    split_ifs at hp <;> cases hp
  all_goals exact ⟨rfl, rfl, rfl, rfl, by rintro pending ⟨⟩⟩

theorem Hidden.replay (h : s.Hidden) (ht : step s (.replay input now fresh) = some t) :
    t.Hidden := by
  obtain ⟨hids, hre, hfr, hse, hcl⟩ := stepReplay_rest ht
  refine h.of_step ht hids (h.replay_table ht ht) ?_ (h.replay_plain ht) ?_ ?_ (hre ▸ h.passed)
  · rw [unprocessed, hre, hfr]
    exact h.frames
  · intro hno id
    rw [h.replay_connected ht id]
    exact h.quiet (hse ▸ hno) id
  · intro pending hp id
    rw [hcl pending hp, weigh_nil]

theorem Hidden.step (h : s.Hidden)
    (hok : ∀ now fresh, label = .heartbeat .ok now fresh → s.heartbeat = some .delaying →
      s.evictsNone now fresh = true)
    (ht : step s label = some t) : t.Hidden := by
  cases label with
  | sender k input => exact h.sender ht
  | changeStep k input now fresh tooLarge => exact h.changeStep ht
  | stopper k => exact h.stopper ht
  | run input first => exact h.run ht
  | received received => exact h.received ht
  | receive input => exact h.receive ht
  | replay input now fresh => exact h.replay ht
  | sendLoop input now => exact h.sendLoop ht
  | heartbeat input now fresh =>
    refine h.heartbeat ?_ ht
    rintro hp rfl
    exact hok now fresh rfl hp
  | serve accepted now => exact h.serve ht
  | push envelope => exact h.push ht
  | _ =>
    obtain ⟨u, hu⟩ := step_footprint _ ht
    subst hu
    exact h.of_step ht rfl (.same rfl) h.frames h.replaying h.quiet h.emptied h.passed

theorem hidden_initial (options : RealtimeClientOptions) : Hidden { options } where
  delivering := delivering_initial options
  identified := identified_initial options
  frames frame hm := absurd hm not_mem_nil
  once id := by
    rw [volume_initial]
    omega
  recorded id hv := by
    rw [volume_initial] at hv
    omega
  replaying phase hp := by cases hp
  quiet _ id := rfl
  emptied pending hp := by cases hp
  passed phase hp := by cases hp

end RealtimeClient

end Realtime.Client
