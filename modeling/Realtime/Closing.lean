import Realtime.QueueAccounting

/-! Closing a connection while others enqueue. The flags that close a connection are set
before its channel is completed, so a connection that is open has a channel that takes
messages. The exception is `RequestCloseAsync` when it is cancelled: it takes its flag
back and leaves the channel completed. -/

namespace Realtime.QueueAccounting

open List

/-- The next access of the caller completes the channel. -/
def CloserPhase.completes : CloserPhase → Bool
  | .completing _ | .completingAborted => true
  | _ => false

def Connection.reopens (c : Connection) : Label → Bool
  | .closer _ _ .cancelled => c.transportOpen && !c.disposing
  | _ => false

def World.reopens (w : World) (label : Label) : Bool :=
  w.connections[label.connection]?.any (fun c => c.reopens label)

namespace Connection

variable {options : RealtimeOptions} {metrics metrics' : GatewayMetrics} {c next : Connection}
  {label : Label}

structure Sealed (c : Connection) : Prop where
  writer : c.writerCompleted = true → c.isOpen = false
  closers : ∀ phase ∈ c.closers, phase.completes = true → c.isOpen = false

theorem isOpen_eq_false : c.isOpen = false ↔
    c.transportOpen = false ∨ c.closeRequested = true ∨ c.disposing = true := by
  unfold isOpen
  cases c.transportOpen <;> cases c.closeRequested <;> cases c.disposing <;> simp

theorem sealed_of_closed (h : c.isOpen = false) : c.Sealed := ⟨fun _ => h, fun _ _ _ => h⟩

theorem Sealed.of_closers (h : c.Sealed) (hop : c.isOpen = false → next.isOpen = false)
    (hwr : next.writerCompleted = true → c.writerCompleted = true ∨ next.isOpen = false)
    (hcl : ∀ phase ∈ next.closers, phase.completes = true → phase ∈ c.closers) :
    next.Sealed := by
  constructor
  · intro hw
    rcases hwr hw with hw | hclo
    · exact hop (h.writer hw)
    · exact hclo
  · intro phase hm hp
    exact hop (h.closers phase (hcl phase hm hp) hp)

theorem stepLock_flags (ht : c.stepLock options metrics = some (next, metrics')) :
    next.transportOpen = c.transportOpen ∧ next.closeRequested = c.closeRequested ∧
      (c.disposing = true → next.disposing = true) ∧
      (next.writerCompleted = c.writerCompleted ∨ c.accountingLock = .completing) ∧
      (next.closers = c.closers ∨ next.closers = c.closers ++ [.inspecting]) := by
  have haf (remover : Remover) : (c.afterRemoval remover).transportOpen = c.transportOpen ∧
      (c.afterRemoval remover).closeRequested = c.closeRequested ∧
      (c.afterRemoval remover).disposing = c.disposing ∧
      (c.afterRemoval remover).writerCompleted = c.writerCompleted ∧
      (c.afterRemoval remover).closers = c.closers := by
    cases remover <;> exact ⟨rfl, rfl, rfl, rfl, rfl⟩
  revert ht
  fun_cases Connection.stepLock options metrics c <;> intro ht <;> cases ht
  case case10 remover _ _ | case15 remover _ =>
    obtain ⟨h1, h2, h3, h4, h5⟩ := haf remover
    exact ⟨h1, h2, fun hd => h3.trans hd, .inl h4, .inl h5⟩
  case case14 remover _ =>
    split_ifs
    · exact ⟨rfl, rfl, id, .inl rfl, .inl rfl⟩
    · obtain ⟨h1, h2, h3, h4, h5⟩ := haf remover
      exact ⟨h1, h2, fun hd => h3.trans hd, .inl h4, .inl h5⟩
  case case17 => exact ⟨rfl, rfl, fun _ => rfl, .inl rfl, .inl rfl⟩
  case case18 hl => exact ⟨rfl, rfl, id, .inr hl, .inl rfl⟩
  all_goals first
  | exact ⟨rfl, rfl, id, .inl rfl, .inl rfl⟩
  | exact ⟨rfl, rfl, id, .inl rfl, .inr rfl⟩

theorem Sealed.stepLock (h : c.Sealed) (hok : c.Ok options)
    (ht : c.stepLock options metrics = some (next, metrics')) : next.Sealed := by
  obtain ⟨htr, hre, hdi, hwr, hclo⟩ := stepLock_flags ht
  have hcl : c.isOpen = false → next.isOpen = false := by
    rw [isOpen_eq_false, isOpen_eq_false, htr, hre]
    exact Or.imp_right (Or.imp_right hdi)
  refine h.of_closers hcl ?_ ?_
  · intro hw
    rcases hwr with hsa | hl
    · exact .inl (hsa ▸ hw)
    · -- only a dispose completes the channel inside the lock, and it has set its flag
      have hqu := hok.queue
      simp only [QueueOk, hl] at hqu
      exact .inr (hcl (isOpen_eq_false.mpr (.inr (.inr hqu))))
  · intro phase hm hp
    rcases hclo with hsa | had
    · exact hsa ▸ hm
    · rw [had, mem_append, mem_singleton] at hm
      rcases hm with hm | rfl
      · exact hm
      · cases hp

theorem Sealed.of_flags (h : c.Sealed) (htr : next.transportOpen = c.transportOpen)
    (hre : next.closeRequested = c.closeRequested) (hdi : next.disposing = c.disposing)
    (hwr : next.writerCompleted = c.writerCompleted) (hcl : next.closers = c.closers) :
    next.Sealed := by
  have hop : next.isOpen = c.isOpen := by
    unfold isOpen
    rw [htr, hre, hdi]
  refine h.of_closers ?_ ?_ ?_
  · rw [hop]
    exact id
  · rw [hwr]
    exact .inl
  · rw [hcl]
    exact fun _ hm _ => hm

variable {input : WaitOutcome} {k : Nat}

theorem Sealed.stepSender (h : c.Sealed) : c.stepSender input = some next → next.Sealed := by
  fun_cases Connection.stepSender c input <;> intro ht <;> cases ht
  all_goals exact h.of_flags rfl rfl rfl rfl rfl

theorem Sealed.stepCommand (h : c.Sealed) : c.stepCommand options metrics = some (next, metrics') →
    next.Sealed := by
  fun_cases Connection.stepCommand options metrics c <;> intro ht <;> cases ht
  all_goals exact h.of_flags rfl rfl rfl rfl rfl

theorem Sealed.of_closer (h : c.Sealed) {phase : CloserPhase} (hop : next.isOpen = c.isOpen)
    (hwr : next.writerCompleted = c.writerCompleted)
    (hcl : next.closers = c.closers.set k phase) (hph : phase.completes = false) :
    next.Sealed := by
  refine h.of_closers ?_ ?_ ?_
  · rw [hop]
    exact id
  · rw [hwr]
    exact .inl
  · intro phase' hm hp
    rw [hcl] at hm
    rcases mem_or_eq_of_mem_set hm with hm | rfl
    · exact hm
    · rw [hph] at hp
      cases hp

theorem completes_after (disposes : Bool) : (CloserPhase.after disposes).completes = false := by
  cases disposes <;> rfl

theorem Sealed.stepCloser (h : c.Sealed)
    (hke : input = .cancelled → c.transportOpen = false ∨ c.disposing = true) :
    c.stepCloser k input = some next → next.Sealed := by
  fun_cases Connection.stepCloser c k input <;> intro ht <;> cases ht
  case case1 | case11 => exact sealed_of_closed (isOpen_eq_false.mpr (.inr (.inl rfl)))
  case case7 | case13 | case15 => exact sealed_of_closed (isOpen_eq_false.mpr (.inl rfl))
  case case2 hk | case12 hk =>
    have hcl : c.isOpen = false := h.closers _ (mem_of_getElem? hk) rfl
    exact sealed_of_closed hcl
  case case6 | case9 =>
    exact sealed_of_closed (isOpen_eq_false.mpr ((hke rfl).imp_right .inr))
  case case14 =>
    refine h.of_closer rfl rfl rfl ?_
    split_ifs <;> rfl
  case case5 | case10 => exact h.of_closer rfl rfl rfl (completes_after _)
  case case4 | case8 => exact h.of_closer rfl rfl rfl rfl

theorem Sealed.step (h : c.Sealed) (hok : c.Ok options) (hke : c.reopens label = false)
    (ht : c.step options metrics label = some (next, metrics')) : next.Sealed := by
  cases label with
  | «open» => cases ht
  | lock => exact h.stepLock hok ht
  | command => exact h.stepCommand ht
  | sender _ input =>
    obtain ⟨moved, hm, he⟩ := Option.map_eq_some_iff.mp ht
    cases he
    exact h.stepSender hm
  | closer _ k input =>
    obtain ⟨moved, hm, he⟩ := Option.map_eq_some_iff.mp ht
    cases he
    refine h.stepCloser ?_ hm
    rintro rfl
    cases htr : c.transportOpen with
    | false => exact .inl rfl
    | true => exact .inr (by simpa [reopens, htr] using hke)
  | requestClose | abort =>
    cases ht
    refine h.of_closers id .inl ?_
    intro phase hm hp
    rcases mem_append.mp hm with hm | hm
    · exact hm
    · rw [mem_singleton.mp hm] at hp
      cases hp
  | transportEnded =>
    cases ht
    exact sealed_of_closed (isOpen_eq_false.mpr (.inl rfl))
  | trySubscribe _ route | unsubscribe _ route =>
    simp only [Connection.step] at ht
    split_ifs at ht
    cases ht
    exact h.of_flags rfl rfl rfl rfl rfl
  | tryEnqueue _ message =>
    simp only [Connection.step] at ht
    split at ht <;> cases ht
    exact h.of_flags rfl rfl rfl rfl rfl
  | dispose =>
    simp only [Connection.step] at ht
    split at ht <;> cases ht
    exact h.of_flags rfl rfl rfl rfl rfl

theorem Sealed.writer_eq_false (h : c.Sealed) (hop : c.isOpen = true) :
    c.writerCompleted = false := by
  by_contra hw
  have hcl := h.writer (by simpa using hw)
  rw [hop] at hcl
  cases hcl

theorem disposing_eq_false (hop : c.isOpen = true) : c.disposing = false := by
  by_contra hd
  have hcl := isOpen_eq_false.mpr (.inr (.inr (by simpa using hd)))
  rw [hop] at hcl
  cases hcl

theorem Sealed.stepLock_writing (h : c.Sealed) (hok : c.Ok options) (hop : c.isOpen = true)
    {message : ServerMessageEnvelope} (hl : c.accountingLock = .writing message) :
    c.stepLock options metrics = some ({ c with
      outbound := c.outbound ++ [message], accountingLock := .resettingStrikes }, metrics) := by
  have hqu := hok.queue
  have hle := hok.le_capacity
  simp only [QueueOk, Counts, hl, disposing_eq_false hop, Bool.false_eq_true, if_false,
    true_and] at hqu
  have hro : ¬ options.outboundQueueCapacity ≤ c.outbound.length := by omega
  simp [Connection.stepLock, hl, h.writer_eq_false hop, hro]

theorem Sealed.tryEnqueue_succeeds (h : c.Sealed) (hok : c.Ok options) (hop : c.isOpen = true)
    (hl : c.accountingLock = .free) (hro : c.queuedMessages < options.outboundQueueCapacity)
    (n : Nat) (message : ServerMessageEnvelope) :
    ∃ next metrics', StepFn.run (fun (s : Connection × GatewayMetrics) (label : Label) =>
        s.1.step options s.2 label) (c, metrics)
        (.tryEnqueue n message :: List.replicate 6 (.lock n)) = some (next, metrics') ∧
      next.outbound = c.outbound ++ [message] ∧ next.accountingLock = .free := by
  have hwri := h.writer_eq_false hop
  have hle := hok.sending_le (disposing_eq_false hop)
  have hcou : ¬ (options.outboundQueueCapacity : Int) ≤ c.queuedMessages := by omega
  have hlen : ¬ options.outboundQueueCapacity ≤ c.outbound.length := by omega
  have hta : ¬ (c.writerCompleted ||
      decide (options.outboundQueueCapacity ≤ c.outbound.length)) = true := by
    simp [hwri, hlen]
  let opening : Connection := c.goto (.opening message)
  let counting : Connection := c.goto (.counting message)
  let counted : Connection := { c with
    queuedMessages := c.queuedMessages + 1, accountingLock := .writing message }
  let written : Connection := { c with
    queuedMessages := c.queuedMessages + 1
    outbound := c.outbound ++ [message]
    accountingLock := .resettingStrikes }
  let recorded : GatewayMetrics := { metrics with queueDepth := metrics.queueDepth + 1 }
  have hca : c.step options metrics (.tryEnqueue n message) = some (opening, metrics) := by
    simp only [Connection.step, hl]
    rfl
  have hope : opening.stepLock options metrics = some (counting, metrics) := by
    change some (opening.goto (if opening.isOpen then _ else _), metrics) = _
    rw [if_pos (show opening.isOpen = true from hop)]
    rfl
  have hco : counting.stepLock options metrics =
      some (c.goto (.incrementing message), metrics) := if_neg hcou
  let taken : Connection := { c with
    queuedMessages := c.queuedMessages + 1, accountingLock := .recordingEnqueued message }
  let free : Connection := { written with slowConsumerStrikes := 0, accountingLock := .free }
  have hin : (c.goto (.incrementing message)).stepLock options metrics =
      some (taken, metrics) := rfl
  have htak : taken.stepLock options metrics = some (counted, recorded) := rfl
  have hwr : counted.stepLock options recorded = some (written, recorded) := if_neg hta
  have hre : written.stepLock options recorded = some (free, recorded) := rfl
  have hlo (s : Connection) (m : GatewayMetrics) :
      s.step options m (.lock n) = s.stepLock options m := rfl
  refine ⟨free, recorded, ?_, rfl, rfl⟩
  simp only [replicate_succ, replicate_zero, StepFn.run_cons, StepFn.run_nil, hca,
    hlo, hope, hco, hin, htak, hwr, hre, Option.bind_some]

end Connection

variable {options : RealtimeOptions} {w t : World} {label : Label} {n : Nat} {c : Connection}

structure World.Sealed (options : RealtimeOptions) (w : World) : Prop where
  exact : w.Exact options
  connections : ∀ c ∈ w.connections, c.Sealed

theorem World.Sealed.step (h : w.Sealed options) (hke : w.reopens label = false)
    (ht : QueueAccounting.step options w label = some t) : t.Sealed options := by
  refine ⟨h.exact.step ht, ?_⟩
  revert ht
  fun_cases QueueAccounting.step options w label <;> intro ht <;> cases ht
  case case1 =>
    exact forall_mem_concat h.connections ⟨by rintro ⟨⟩, forall_mem_nil _⟩
  case case4 c next metrics _ hc hst =>
    have hmem := mem_of_getElem? hc
    have hke : c.reopens label = false := by
      simpa [World.reopens, hc] using hke
    exact forall_mem_set h.connections ((h.connections c hmem).step (h.exact.ok c hmem) hke hst)

theorem run_of_connection {labels : List Label} {next : Connection} {metrics : GatewayMetrics}
    (hc : w.connections[n]? = some c) (hla : ∀ label ∈ labels, label.connection = n)
    (hr : StepFn.run (fun (s : Connection × GatewayMetrics) (label : Label) =>
      s.1.step options s.2 label) (c, w.metrics) labels = some (next, metrics)) :
    ∃ t, (step options).run w labels = some t ∧ t.connections[n]? = some next := by
  induction labels generalizing w c with
  | nil =>
    cases hr
    exact ⟨w, rfl, hc⟩
  | cons label labels ih =>
    obtain ⟨⟨moved, metrics'⟩, hst, hr⟩ := StepFn.run_cons_eq_some.mp hr
    have hn := hla label mem_cons_self
    have hlt := (List.getElem?_eq_some_iff.mp hc).1
    have hop : label ≠ .open := by
      rintro rfl
      cases hst
    let after : World := { connections := w.connections.set n moved, metrics := metrics' }
    have hwo : step options w label = some after := by
      cases label with
      | «open» => exact absurd rfl hop
      | _ =>
        simp only [step, hn, hc]
        rw [hst]
    obtain ⟨t, ht, hne⟩ := ih (w := after) (getElem?_set_self hlt)
      (fun label hm => hla label (mem_cons_of_mem _ hm)) hr
    refine ⟨t, ?_, hne⟩
    rw [StepFn.run_cons, hwo]
    exact ht

/-- An open connection takes a message for which its count has room, and whatever happens
during a call, the message is written if the connection is then still open. -/
theorem open_connection_takes_messages (options : RealtimeOptions) (labels : List Label) (w : World)
    (hok : (step options).Along (fun w label => w.reopens label = false) {} labels)
    (hw : (step options).run {} labels = some w) :
    ∀ (n : Nat) (c : Connection), w.connections[n]? = some c → c.isOpen = true →
      (c.accountingLock = .free → c.queuedMessages < options.outboundQueueCapacity →
        ∀ message, ∃ t next,
          (step options).run w (.tryEnqueue n message :: List.replicate 6 (.lock n)) = some t ∧
          t.connections[n]? = some next ∧ next.outbound = c.outbound ++ [message] ∧
          next.accountingLock = .free) ∧
      (∀ message, c.accountingLock = .writing message → ∃ t next,
        step options w (.lock n) = some t ∧ t.connections[n]? = some next ∧
        next.outbound = c.outbound ++ [message]) := by
  have hin : ({} : World).Sealed options :=
    ⟨⟨by simp, by simp, by simp⟩, forall_mem_nil _⟩
  have hse : w.Sealed options :=
    StepFn.run_induct_along (fun _ _ _ h hke ht => h.step hke ht) hin hok hw
  intro n c hc hop
  have hmem := mem_of_getElem? hc
  have hcok := hse.exact.ok c hmem
  have hcs := hse.connections c hmem
  constructor
  · intro hl hro message
    obtain ⟨next, metrics', hr, hou, hfr⟩ :=
      hcs.tryEnqueue_succeeds hcok hop hl hro n message
    obtain ⟨t, ht, hne⟩ := run_of_connection hc (by simp [Label.connection]) hr
    exact ⟨t, next, ht, hne, hou, hfr⟩
  · intro message hl
    have hlt := (List.getElem?_eq_some_iff.mp hc).1
    let next : Connection :=
      { c with outbound := c.outbound ++ [message], accountingLock := .resettingStrikes }
    refine ⟨{ w with connections := w.connections.set n next }, next, ?_,
      getElem?_set_self hlt, rfl⟩
    simp only [step, Label.connection, hc, Connection.step]
    rw [hcs.stepLock_writing hcok hop hl]

def exampleCancelledClose : List Label :=
  [.open, .requestClose 0, .closer 0 0 .ok, .closer 0 0 .ok, .closer 0 0 .cancelled]

/-- The connection is open again and its queue is empty, yet it refuses a message. -/
theorem cancelled_close_refuses_messages :
    ∃ w c t next, (step {}).run {} exampleCancelledClose = some w ∧
      w.connections[0]? = some c ∧ c.isOpen = true ∧ c.accountingLock = .free ∧
      c.queuedMessages = 0 ∧
      (step {}).run w (.tryEnqueue 0 exampleEvent :: List.replicate 9 (.lock 0)) = some t ∧
      t.connections[0]? = some next ∧ next.accountingLock = .free ∧ next.outbound = [] ∧
      next.slowConsumerStrikes = 1 :=
  ⟨_, _, _, _, rfl, rfl, rfl, rfl, rfl, rfl, rfl, rfl, rfl, rfl⟩

/-- A message is on its way out, and another connection closes meanwhile. -/
def exampleSending : List Label :=
  [.open, .open, .tryEnqueue 0 exampleEvent] ++ List.replicate 6 (.lock 0) ++
    [.sender 0 .ok, .requestClose 1, .sender 0 .ok, .closer 1 0 .ok]

def LockPhase.isFree : LockPhase → Bool
  | .free => true
  | _ => false

theorem open_connection_takes_messages_sending :
    ∃ w c, (step {}).run {} exampleSending = some w ∧ w.connections[0]? = some c ∧
      c.queuedMessages = 1 ∧ c.outbound.length = 0 ∧
      ∃ t next, (step {}).run w (.tryEnqueue 0 exampleEvent :: List.replicate 6 (.lock 0)) =
        some t ∧ t.connections[0]? = some next ∧ next.outbound.length = 1 := by
  have hr : ∃ w, (step {}).run {} exampleSending = some w ∧ ∃ c, w.connections[0]? = some c ∧
      c.isOpen = true ∧ c.accountingLock.isFree = true ∧ c.queuedMessages = 1 ∧
      c.outbound.length = 0 := by
    decide +kernel
  have hok : (step {}).Along (fun w label => w.reopens label = false) {} exampleSending := by
    decide +kernel
  obtain ⟨w, hw, c, hc, hop, hl, hq, hou⟩ := hr
  have hl : c.accountingLock = .free := by
    cases hp : c.accountingLock <;> simp [hp, LockPhase.isFree] at hl ⊢
  obtain ⟨t, next, ht, hne, hout, -⟩ := (open_connection_takes_messages {}
    exampleSending w hok hw 0 c hc hop).1 hl (by rw [hq]; decide) exampleEvent
  refine ⟨w, c, hw, hc, hq, hou, t, next, ht, hne, ?_⟩
  rw [hout, List.length_append, hou]
  rfl

end Realtime.QueueAccounting
