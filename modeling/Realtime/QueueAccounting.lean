import Realtime.Connection
import Realtime.Machine

/-! The queue and subscription counts of the connections of a gateway and the two
gauges that follow them. Every access to a count, a gauge, the channel or a lock
is a step of its own. The counts of queued messages only change in
`_queueAccountingLock`, so the program counter of the thread inside is kept with
the lock; the calls that wait for it have no state. -/

namespace Realtime.QueueAccounting

structure GatewayMetrics where
  queueDepth : Int := 0
  activeSubscriptions : Int := 0

/-- Who runs `RemoveQueuedMessage`. -/
inductive Remover where
  | enqueue | sender
  deriving DecidableEq

/-- The access that the thread in `_queueAccountingLock` makes next: `TryEnqueue`,
`RemoveQueuedMessage` or the locked part of `DisposeAsync`. -/
inductive LockPhase where
  | free
  | opening (message : ServerMessageEnvelope)
  | counting (message : ServerMessageEnvelope)
  | incrementing (message : ServerMessageEnvelope)
  | recordingEnqueued (message : ServerMessageEnvelope)
  | writing (message : ServerMessageEnvelope)
  | resettingStrikes
  | removing (remover : Remover)
  | swapping (remover : Remover) (queued : Int)
  | recordingDequeued (remover : Remover)
  | clampingDequeued (remover : Remover)
  | striking
  | disposing
  | completing
  | exchanging
  | recordingRemoved (count : Int)
  | clampingRemoved
  | tallying
  | recordingUnsubscribed (count : Nat)
  | clampingUnsubscribed (count : Nat)
  | clearing (count : Nat)

/-- `RunSenderAsync`; `last` says that the loop is left after the message. -/
inductive SenderPhase where
  | reading
  | locking (message : ServerMessageEnvelope)
  | checking (message : ServerMessageEnvelope)
  | sending (message : ServerMessageEnvelope)
  | unlocking (last : Bool)
  | removing (last : Bool)
  | accounting (last : Bool)
  | ended

/-- `TrySubscribe` or `Unsubscribe` of the command at hand. -/
inductive CommandPhase where
  | idle
  | counting (route : AuthorizedRoute)
  | adding (route : AuthorizedRoute)
  | recordingAdded
  | removing (route : AuthorizedRoute)
  | recordingRemoved
  | clampingRemoved

/-- A call of `RequestCloseAsync` or `Abort`, or `DisposeAsync` after its locked
part, which requests a close that cannot be cancelled. -/
inductive CloserPhase where
  | requesting (disposes : Bool)
  | completing (disposes : Bool)
  | locking (disposes : Bool)
  | closing (disposes : Bool)
  | unlocking (disposes : Bool)
  | aborting
  | completingAborted
  | endingTransport
  | inspecting
  | disposingTransport
  | finished

inductive WaitOutcome where
  | ok | failed | cancelled
  deriving DecidableEq

structure Connection where
  transportOpen : Bool := true
  closeRequested : Bool := false
  disposing : Bool := false
  outbound : List ServerMessageEnvelope := []
  writerCompleted : Bool := false
  queuedMessages : Int := 0
  slowConsumerStrikes : Nat := 0
  subscriptions : List Text := []
  accountingLock : LockPhase := .free
  sendLock : Bool := false
  sender : SenderPhase := .reading
  command : CommandPhase := .idle
  closers : List CloserPhase := []

namespace Connection

def isOpen (c : Connection) : Bool := c.transportOpen && !c.closeRequested && !c.disposing

def goto (c : Connection) (phase : LockPhase) : Connection := { c with accountingLock := phase }

/-- `RemoveQueuedMessage` returns. -/
def afterRemoval (c : Connection) : Remover → Connection
  | .enqueue => c.goto .striking
  | .sender =>
    { c with
      accountingLock := .free
      sender := match c.sender with
        | .accounting true => .ended
        | .accounting false => .reading
        | other => other }

def stepLock (options : RealtimeOptions) (metrics : GatewayMetrics) (c : Connection) :
    Option (Connection × GatewayMetrics) :=
  match c.accountingLock with
  | .free => none
  | .opening message => some (c.goto (if c.isOpen then .counting message else .free), metrics)
  | .counting message =>
    if (options.outboundQueueCapacity : Int) ≤ c.queuedMessages then
      some ({ c with
        slowConsumerStrikes := c.slowConsumerStrikes + 1, accountingLock := .free }, metrics)
    else some (c.goto (.incrementing message), metrics)
  | .incrementing message =>
    some ({ c with
      queuedMessages := c.queuedMessages + 1
      accountingLock := .recordingEnqueued message }, metrics)
  | .recordingEnqueued message =>
    some (c.goto (.writing message), { metrics with queueDepth := metrics.queueDepth + 1 })
  | .writing message =>
    if c.writerCompleted || decide (options.outboundQueueCapacity ≤ c.outbound.length) then
      some (c.goto (.removing .enqueue), metrics)
    else
      some ({ c with
        outbound := c.outbound ++ [message], accountingLock := .resettingStrikes }, metrics)
  | .resettingStrikes =>
    some ({ c with slowConsumerStrikes := 0, accountingLock := .free }, metrics)
  | .removing remover =>
    if c.queuedMessages ≤ 0 then some (c.afterRemoval remover, metrics)
    else some (c.goto (.swapping remover c.queuedMessages), metrics)
  | .swapping remover queued =>
    if c.queuedMessages = queued then
      some ({ c with
        queuedMessages := queued - 1, accountingLock := .recordingDequeued remover }, metrics)
    else some (c.goto (.removing remover), metrics)
  | .recordingDequeued remover =>
    some (if metrics.queueDepth - 1 < 0 then c.goto (.clampingDequeued remover)
      else c.afterRemoval remover, { metrics with queueDepth := metrics.queueDepth - 1 })
  | .clampingDequeued remover => some (c.afterRemoval remover, { metrics with queueDepth := 0 })
  | .striking =>
    some ({ c with
      slowConsumerStrikes := if c.isOpen then c.slowConsumerStrikes + 1 else c.slowConsumerStrikes
      accountingLock := .free }, metrics)
  | .disposing => some ({ c with disposing := true, accountingLock := .completing }, metrics)
  | .completing => some ({ c with writerCompleted := true, accountingLock := .exchanging }, metrics)
  | .exchanging =>
    some ({ c with
      queuedMessages := 0, accountingLock := .recordingRemoved c.queuedMessages }, metrics)
  | .recordingRemoved count =>
    if count ≤ 0 then some (c.goto .tallying, metrics)
    else
      some (c.goto (if metrics.queueDepth - count < 0 then .clampingRemoved else .tallying),
        { metrics with queueDepth := metrics.queueDepth - count })
  | .clampingRemoved => some (c.goto .tallying, { metrics with queueDepth := 0 })
  | .tallying => some (c.goto (.recordingUnsubscribed c.subscriptions.length), metrics)
  | .recordingUnsubscribed count =>
    if count = 0 then some (c.goto (.clearing count), metrics)
    else
      some (c.goto (if metrics.activeSubscriptions - count < 0 then .clampingUnsubscribed count
        else .clearing count),
        { metrics with activeSubscriptions := metrics.activeSubscriptions - count })
  | .clampingUnsubscribed count =>
    some (c.goto (.clearing count), { metrics with activeSubscriptions := 0 })
  | .clearing _ =>
    some ({ c with
      subscriptions := []
      accountingLock := .free
      closers := c.closers ++ [.inspecting] }, metrics)

def stepSender (c : Connection) (input : WaitOutcome) : Option Connection :=
  match c.sender, input with
  | .reading, .ok =>
    match c.outbound with
    | message :: outbound => some { c with outbound, sender := .locking message }
    | [] => if c.writerCompleted then some { c with sender := .ended } else none
  | .reading, .cancelled => some { c with sender := .ended }
  | .locking message, .ok =>
    if c.sendLock then none else some { c with sendLock := true, sender := .checking message }
  -- The serializer or the wait throws.
  | .locking _, _ => some { c with sender := .removing true }
  | .checking message, .ok =>
    some { c with sender := if c.transportOpen then .sending message else .unlocking true }
  | .sending _, input => some { c with sender := .unlocking (decide (input ≠ .ok)) }
  | .unlocking last, .ok => some { c with sendLock := false, sender := .removing last }
  | .removing last, .ok =>
    match c.accountingLock with
    | .free => some { c with accountingLock := .removing .sender, sender := .accounting last }
    | _ => none
  | _, _ => none

def stepCommand (options : RealtimeOptions) (metrics : GatewayMetrics) (c : Connection) :
    Option (Connection × GatewayMetrics) :=
  match c.command with
  | .idle => none
  | .counting route =>
    some ({ c with
      command := if options.maximumSubscriptions ≤ c.subscriptions.length then .idle
        else .adding route }, metrics)
  | .adding route =>
    if route.subscriptionKey ∈ c.subscriptions then some ({ c with command := .idle }, metrics)
    else
      some ({ c with
        subscriptions := c.subscriptions ++ [route.subscriptionKey]
        command := .recordingAdded }, metrics)
  | .recordingAdded =>
    some ({ c with command := .idle },
      { metrics with activeSubscriptions := metrics.activeSubscriptions + 1 })
  | .removing route =>
    if route.subscriptionKey ∈ c.subscriptions then
      some ({ c with
        subscriptions := c.subscriptions.erase route.subscriptionKey
        command := .recordingRemoved }, metrics)
    else some ({ c with command := .idle }, metrics)
  | .recordingRemoved =>
    some ({ c with
      command := if metrics.activeSubscriptions - 1 < 0 then .clampingRemoved else .idle },
      { metrics with activeSubscriptions := metrics.activeSubscriptions - 1 })
  | .clampingRemoved =>
    some ({ c with command := .idle }, { metrics with activeSubscriptions := 0 })

end Connection

def CloserPhase.after (disposes : Bool) : CloserPhase :=
  if disposes then .disposingTransport else .finished

namespace Connection

def stepCloser (c : Connection) (k : Nat) (input : WaitOutcome) : Option Connection :=
  let goto (phase : CloserPhase) : List CloserPhase := c.closers.set k phase
  match c.closers[k]?, input with
  | some (.requesting disposes), .ok =>
    some { c with
      closeRequested := true
      closers := goto (if c.closeRequested then .after disposes else .completing disposes) }
  | some (.completing disposes), .ok =>
    some { c with writerCompleted := true, closers := goto (.locking disposes) }
  | some (.locking disposes), .ok =>
    if c.sendLock then none
    else some { c with sendLock := true, closers := goto (.closing disposes) }
  | some (.locking disposes), .failed => some { c with closers := goto (.after disposes) }
  | some (.locking false), .cancelled =>
    some { c with closeRequested := false, closers := goto .finished }
  | some (.closing disposes), .ok =>
    some { c with transportOpen := false, closers := goto (.unlocking disposes) }
  | some (.closing disposes), .failed => some { c with closers := goto (.unlocking disposes) }
  | some (.closing false), .cancelled =>
    some { c with closeRequested := false, closers := goto (.unlocking false) }
  | some (.unlocking disposes), .ok =>
    some { c with sendLock := false, closers := goto (.after disposes) }
  | some .aborting, .ok =>
    some { c with
      closeRequested := true
      closers := goto (if c.closeRequested then .finished else .completingAborted) }
  | some .completingAborted, .ok =>
    some { c with writerCompleted := true, closers := goto .endingTransport }
  | some .endingTransport, .ok => some { c with transportOpen := false, closers := goto .finished }
  | some .inspecting, .ok =>
    some { c with
      closers := goto (if c.transportOpen then .requesting true else .disposingTransport) }
  | some .disposingTransport, .ok =>
    some { c with transportOpen := false, closers := goto .finished }
  | _, _ => none

end Connection

def LockPhase.isDisposal : LockPhase → Bool
  | disposing | completing | exchanging | recordingRemoved _ | clampingRemoved | tallying
  | recordingUnsubscribed _ | clampingUnsubscribed _ | clearing _ => true
  | _ => false

def Connection.takesCommand (c : Connection) : Bool :=
  match c.command with
  | .idle => !c.disposing && !c.accountingLock.isDisposal
  | _ => false

structure World where
  connections : List Connection := []
  metrics : GatewayMetrics := {}

inductive Label where
  | open
  | tryEnqueue (c : Nat) (message : ServerMessageEnvelope)
  | dispose (c : Nat)
  | lock (c : Nat)
  | sender (c : Nat) (input : WaitOutcome)
  | trySubscribe (c : Nat) (route : AuthorizedRoute)
  | unsubscribe (c : Nat) (route : AuthorizedRoute)
  | command (c : Nat)
  | requestClose (c : Nat)
  | abort (c : Nat)
  | closer (c k : Nat) (input : WaitOutcome)
  | transportEnded (c : Nat)

namespace Connection

/-- A step at one connection; the commands of a connection are serialized, and
its dispose waits for the one at hand. -/
def step (options : RealtimeOptions) (metrics : GatewayMetrics) (c : Connection) :
    Label → Option (Connection × GatewayMetrics)
  | .open => none
  | .tryEnqueue _ message =>
    match c.accountingLock with
    | .free => some (c.goto (.opening message), metrics)
    | _ => none
  | .dispose _ =>
    match c.accountingLock, c.command with
    | .free, .idle => some (c.goto .disposing, metrics)
    | _, _ => none
  | .lock _ => c.stepLock options metrics
  | .sender _ input => (c.stepSender input).map (·, metrics)
  | .trySubscribe _ route =>
    if c.takesCommand then some ({ c with command := .counting route }, metrics) else none
  | .unsubscribe _ route =>
    if c.takesCommand then some ({ c with command := .removing route }, metrics) else none
  | .command _ => c.stepCommand options metrics
  | .requestClose _ => some ({ c with closers := c.closers ++ [.requesting false] }, metrics)
  | .abort _ => some ({ c with closers := c.closers ++ [.aborting] }, metrics)
  | .closer _ k input => (c.stepCloser k input).map (·, metrics)
  | .transportEnded _ => some ({ c with transportOpen := false }, metrics)

end Connection

def Label.connection : Label → Nat
  | .open => 0
  | .tryEnqueue c _ | .dispose c | .lock c | .sender c _ | .trySubscribe c _ | .unsubscribe c _
  | .command c | .requestClose c | .abort c | .closer c _ _ | .transportEnded c => c

def step (options : RealtimeOptions) : StepFn World Label := fun w label =>
  match label with
  | .open => some { w with connections := w.connections ++ [{}] }
  | label =>
    match w.connections[label.connection]? with
    | none => none
    | some c =>
      match c.step options w.metrics label with
      | none => none
      | some (next, metrics) =>
        some { connections := w.connections.set label.connection next, metrics }

/-! What a connection contributes to the gauges, and why no clamp is reached. -/

def SenderPhase.holding : SenderPhase → Nat
  | locking _ | checking _ | sending _ | unlocking _ | removing _ => 1
  | _ => 0

def LockPhase.queueLag : LockPhase → Int
  | recordingEnqueued _ => -1
  | recordingDequeued _ => 1
  | recordingRemoved count => count
  | _ => 0

def LockPhase.subscriptionLag : LockPhase → Int
  | clearing count => -count
  | _ => 0

def CommandPhase.subscriptionLag : CommandPhase → Int
  | recordingAdded => -1
  | recordingRemoved => 1
  | _ => 0

namespace Connection

def queueShare (c : Connection) : Int := c.queuedMessages + c.accountingLock.queueLag

def subscriptionShare (c : Connection) : Int :=
  c.subscriptions.length + c.command.subscriptionLag + c.accountingLock.subscriptionLag

/-- The count of a connection that is not disposed: what is in the channel, what
the sender has taken and what the thread in the lock has counted besides. -/
def Counts (c : Connection) (extra : Nat) : Prop :=
  if c.disposing then c.queuedMessages = 0
  else c.queuedMessages = c.outbound.length + c.sender.holding + extra

/-- A message that `TryEnqueue` has counted and not written, or that
`RemoveQueuedMessage` is about to take off the count, is the extra one. -/
def QueueOk (options : RealtimeOptions) (c : Connection) : Prop :=
  match c.accountingLock with
  | .free | .opening _ | .resettingStrikes | .striking | .recordingDequeued _ | .disposing =>
    c.Counts 0
  | .counting _ => c.disposing = false ∧ c.Counts 0
  | .incrementing _ =>
    c.disposing = false ∧ c.Counts 0 ∧ c.queuedMessages < options.outboundQueueCapacity
  | .recordingEnqueued _ | .writing _ | .removing .enqueue => c.disposing = false ∧ c.Counts 1
  | .removing .sender => c.Counts 1
  | .swapping _ queued => c.disposing = false ∧ c.Counts 1 ∧ 0 < queued
  | .completing | .exchanging => c.disposing = true
  | .recordingRemoved count => c.disposing = true ∧ c.queuedMessages = 0 ∧ 0 ≤ count
  | .tallying | .recordingUnsubscribed _ | .clearing _ =>
    c.disposing = true ∧ c.queuedMessages = 0
  | .clampingDequeued _ | .clampingRemoved | .clampingUnsubscribed _ => False

def isLive (c : Connection) : Bool := !c.disposing && !c.accountingLock.isDisposal

def SubscriptionsOk (options : RealtimeOptions) (c : Connection) : Prop :=
  match c.command with
  | .idle =>
    match c.accountingLock with
    | .recordingUnsubscribed count | .clearing count => c.subscriptions.length = count
    | _ => True
  | .adding _ => c.isLive = true ∧ c.subscriptions.length < options.maximumSubscriptions
  | .recordingAdded => c.isLive = true ∧ 0 < c.subscriptions.length
  | .counting _ | .removing _ | .recordingRemoved => c.isLive = true
  | .clampingRemoved => False

structure Ok (options : RealtimeOptions) (c : Connection) : Prop where
  nonneg : 0 ≤ c.queuedMessages
  le_capacity : c.queuedMessages ≤ options.outboundQueueCapacity
  queue : c.QueueOk options
  subscriptions_le : c.subscriptions.length ≤ options.maximumSubscriptions
  subscriptions : c.SubscriptionsOk options

variable {options : RealtimeOptions} {metrics metrics' : GatewayMetrics} {c next : Connection}

theorem Ok.queueShare_nonneg (h : c.Ok options) : 0 ≤ c.queueShare := by
  have hn := h.nonneg
  have hq := h.queue
  unfold QueueOk Counts at hq
  unfold queueShare
  cases hl : c.accountingLock with
  | recordingEnqueued message =>
    simp only [hl] at hq
    simp only [hq.1, Bool.false_eq_true, if_false] at hq
    simp only [LockPhase.queueLag]
    omega
  | recordingRemoved count =>
    simp only [hl] at hq
    simp only [LockPhase.queueLag]
    omega
  | _ =>
    simp only [LockPhase.queueLag]
    omega

theorem subscriptionLag_of_isLive (h : c.isLive = true) :
    c.accountingLock.subscriptionLag = 0 := by
  unfold isLive at h
  cases hl : c.accountingLock <;> simp_all [LockPhase.isDisposal, LockPhase.subscriptionLag]

theorem Ok.subscriptionShare_nonneg (h : c.Ok options) : 0 ≤ c.subscriptionShare := by
  have hs := h.subscriptions
  unfold SubscriptionsOk at hs
  unfold subscriptionShare
  cases hc : c.command with
  | idle =>
    simp only [hc] at hs
    cases hl : c.accountingLock with
    | clearing count =>
      simp only [hl] at hs
      simp only [CommandPhase.subscriptionLag, LockPhase.subscriptionLag]
      omega
    | _ =>
      simp only [CommandPhase.subscriptionLag, LockPhase.subscriptionLag]
      omega
  | clampingRemoved => simp only [hc] at hs
  | recordingAdded | adding =>
    simp only [hc] at hs
    simp only [subscriptionLag_of_isLive hs.1, CommandPhase.subscriptionLag]
    omega
  | counting | removing | recordingRemoved =>
    simp only [hc] at hs
    simp only [subscriptionLag_of_isLive hs, CommandPhase.subscriptionLag]
    omega

/-- What a step at one connection does to it and to the gauges. -/
structure Kept (options : RealtimeOptions) (metrics metrics' : GatewayMetrics)
    (c next : Connection) : Prop where
  ok : next.Ok options
  queue : metrics'.queueDepth + c.queueShare = metrics.queueDepth + next.queueShare
  subscriptions : metrics'.activeSubscriptions + c.subscriptionShare =
    metrics.activeSubscriptions + next.subscriptionShare

@[simp] theorem afterRemoval_queuedMessages (c : Connection) (remover : Remover) :
    (c.afterRemoval remover).queuedMessages = c.queuedMessages := by
  cases remover <;> rfl

@[simp] theorem afterRemoval_disposing (c : Connection) (remover : Remover) :
    (c.afterRemoval remover).disposing = c.disposing := by
  cases remover <;> rfl

@[simp] theorem afterRemoval_subscriptions (c : Connection) (remover : Remover) :
    (c.afterRemoval remover).subscriptions = c.subscriptions := by
  cases remover <;> rfl

@[simp] theorem afterRemoval_command (c : Connection) (remover : Remover) :
    (c.afterRemoval remover).command = c.command := by
  cases remover <;> rfl

@[simp] theorem afterRemoval_isDisposal (c : Connection) (remover : Remover) :
    (c.afterRemoval remover).accountingLock.isDisposal = false := by
  cases remover <;> rfl

theorem queueShare_afterRemoval (c : Connection) (remover : Remover) :
    (c.afterRemoval remover).queueShare = c.queuedMessages := by
  cases remover <;> simp [queueShare, afterRemoval, goto, LockPhase.queueLag]

theorem queueOk_afterRemoval {remover : Remover} :
    (c.afterRemoval remover).QueueOk options ↔ c.Counts 0 := by
  cases remover with
  | enqueue => rfl
  | sender =>
    have hh : (c.afterRemoval .sender).sender.holding = c.sender.holding := by
      simp only [afterRemoval]
      cases hs : c.sender with
      | accounting last => cases last <;> rfl
      | _ => rfl
    unfold Counts
    rw [← hh]
    rfl

theorem Ok.command_eq_idle (h : c.Ok options) (hd : c.accountingLock.isDisposal = true) :
    c.command = .idle := by
  have hs := h.subscriptions
  unfold SubscriptionsOk isLive at hs
  cases hc : c.command <;> simp_all

theorem Ok.length_of_recordingUnsubscribed (h : c.Ok options) {count : Nat}
    (hl : c.accountingLock = .recordingUnsubscribed count) :
    c.subscriptions.length = count ∧ c.subscriptionShare = count := by
  have hc := h.command_eq_idle (by rw [hl]; rfl)
  have hs := h.subscriptions
  simp only [SubscriptionsOk, hc, hl] at hs
  simp [subscriptionShare, hc, hl, hs, CommandPhase.subscriptionLag, LockPhase.subscriptionLag]

structure QueueKept (options : RealtimeOptions) (metrics metrics' : GatewayMetrics)
    (c next : Connection) : Prop where
  nonneg : 0 ≤ next.queuedMessages
  le_capacity : next.queuedMessages ≤ options.outboundQueueCapacity
  ok : next.QueueOk options
  gauge : metrics'.queueDepth + c.queueShare = metrics.queueDepth + next.queueShare

theorem Ok.queueKept_stepLock (h : c.Ok options) (hd : c.queueShare ≤ metrics.queueDepth)
    (hs : c.subscriptionShare ≤ metrics.activeSubscriptions)
    (ht : c.stepLock options metrics = some (next, metrics')) :
    QueueKept options metrics metrics' c next := by
  have hn := h.nonneg
  have hle := h.le_capacity
  have hq := h.queue
  unfold QueueOk at hq
  unfold queueShare at hd
  revert ht
  fun_cases Connection.stepLock options metrics c <;> intro ht <;> cases ht
  all_goals
    have hl : c.accountingLock = _ := ‹_›
    simp only [hl, LockPhase.queueLag] at hq hd
  case case2 message _ =>
    refine ⟨hn, hle, ?_, ?_⟩
    rotate_left
    · unfold queueShare
      split_ifs <;> simp [goto, hl, LockPhase.queueLag]
    by_cases ho : c.isOpen = true
    · have hf : c.disposing = false := by simp_all [isOpen]
      simpa [ho, QueueOk, Counts, goto, hf] using hq
    · simpa [ho, QueueOk, Counts, goto] using hq
  -- The count of a connection that is not disposed is positive in `RemoveQueuedMessage`.
  case case10 remover _ hz =>
    refine ⟨by simpa using hn, by simpa using hle, queueOk_afterRemoval.mpr ?_, ?_⟩
    · unfold Counts at hq ⊢
      cases remover <;> simp only at hq <;> split_ifs at hq ⊢ <;> omega
    · rw [queueShare_afterRemoval]
      simp [queueShare, hl, LockPhase.queueLag]
  case case11 remover _ hz =>
    have hc : c.disposing = false ∧ c.Counts 1 := by
      have hf : c.Counts 1 → c.disposing = false := by
        unfold Counts
        intro hc
        split_ifs at hc with hf
        · omega
        · exact Bool.eq_false_iff.mpr hf
      cases remover with
      | enqueue => exact hq
      | sender => exact ⟨hf hq, hq⟩
    refine ⟨hn, hle, ⟨hc.1, hc.2, by omega⟩, ?_⟩
    simp [queueShare, goto, hl, LockPhase.queueLag]
  case case13 remover queued _ hz =>
    refine ⟨hn, hle, ?_, by simp [queueShare, goto, hl, LockPhase.queueLag]⟩
    cases remover with
    | enqueue => exact ⟨hq.1, hq.2.1⟩
    | sender => exact hq.2.1
  case case14 remover _ =>
    rw [if_neg (by omega)]
    refine ⟨by simpa using hn, by simpa using hle, queueOk_afterRemoval.mpr hq, ?_⟩
    rw [queueShare_afterRemoval]
    simp only [queueShare, hl, LockPhase.queueLag]
    omega
  case case21 count _ _ =>
    rw [if_neg (by omega)]
    refine ⟨hn, hle, ⟨hq.1, hq.2.1⟩, ?_⟩
    simp only [queueShare, goto, hl, LockPhase.queueLag]
    omega
  case case25 count _ hz =>
    have hlen := (h.length_of_recordingUnsubscribed hl).2
    rw [if_neg (by omega)]
    refine ⟨hn, hle, hq, ?_⟩
    simp only [queueShare, goto, hl, LockPhase.queueLag]
  all_goals
    cases hb : c.disposing
    all_goals
      refine ⟨?_, ?_, ?_, ?_⟩
      all_goals try simp_all [QueueOk, Counts, queueShare, goto, LockPhase.queueLag]
      all_goals try omega

theorem stepLock_live (hd : c.accountingLock.isDisposal = false) :
    c.stepLock options metrics = some (next, metrics') →
      next.accountingLock.isDisposal = false ∧ next.disposing = c.disposing ∧
      next.subscriptions = c.subscriptions ∧ next.command = c.command ∧
      metrics'.activeSubscriptions = metrics.activeSubscriptions := by
  fun_cases Connection.stepLock options metrics c <;> intro ht <;> cases ht
  all_goals
    have hl : c.accountingLock = _ := ‹_›
    simp only [hl, LockPhase.isDisposal] at hd
  all_goals try cases hd
  all_goals try split_ifs
  all_goals first
  | exact ⟨rfl, rfl, rfl, rfl, rfl⟩
  | exact ⟨by simp, by simp, by simp, by simp, rfl⟩

structure SubscriptionsKept (options : RealtimeOptions) (metrics metrics' : GatewayMetrics)
    (c next : Connection) : Prop where
  le_maximum : next.subscriptions.length ≤ options.maximumSubscriptions
  ok : next.SubscriptionsOk options
  gauge : metrics'.activeSubscriptions + c.subscriptionShare =
    metrics.activeSubscriptions + next.subscriptionShare

theorem subscriptionLag_of_isDisposal (h : c.accountingLock.isDisposal = false) :
    c.accountingLock.subscriptionLag = 0 := by
  cases hl : c.accountingLock <;> simp_all [LockPhase.isDisposal, LockPhase.subscriptionLag]

theorem Ok.subscriptionsKept_of_same (h : c.Ok options)
    (hd : c.accountingLock.isDisposal = false) (hn : next.accountingLock.isDisposal = false)
    (hg : next.disposing = c.disposing) (hs : next.subscriptions = c.subscriptions)
    (hc : next.command = c.command)
    (hm : metrics'.activeSubscriptions = metrics.activeSubscriptions) :
    SubscriptionsKept options metrics metrics' c next where
  le_maximum := hs ▸ h.subscriptions_le
  ok := by
    have hok := h.subscriptions
    have hli : next.isLive = c.isLive := by simp only [isLive, hg, hd, hn]
    unfold SubscriptionsOk at hok ⊢
    rw [hc, hs, hli]
    cases hcmd : c.command with
    | idle => cases hl : next.accountingLock <;> simp_all [LockPhase.isDisposal]
    | clampingRemoved => simp only [hcmd] at hok
    | _ => simpa only [hcmd] using hok
  gauge := by
    simp only [subscriptionShare, hs, hc, hm, subscriptionLag_of_isDisposal hd,
      subscriptionLag_of_isDisposal hn]

theorem Ok.subscriptionsKept_dispose (h : c.Ok options)
    (hdis : c.accountingLock.isDisposal = true)
    (hs : c.subscriptionShare ≤ metrics.activeSubscriptions)
    (hd : c.queueShare ≤ metrics.queueDepth)
    (ht : c.stepLock options metrics = some (next, metrics')) :
    SubscriptionsKept options metrics metrics' c next := by
  have hc := h.command_eq_idle hdis
  have hle := h.subscriptions_le
  have hok := h.subscriptions
  have hqu := h.queue
  unfold SubscriptionsOk at hok
  unfold QueueOk at hqu
  unfold queueShare at hd
  revert ht
  fun_cases Connection.stepLock options metrics c <;> intro ht <;> cases ht
  case case21 count hl _ =>
    simp only [hl, LockPhase.queueLag] at hqu hd
    rw [if_neg (by omega)]
    refine ⟨hle, ?_, ?_⟩ <;>
      simp [SubscriptionsOk, subscriptionShare, goto, hc, hl, LockPhase.subscriptionLag]
  case case25 count hl hz =>
    obtain ⟨hco, hsh⟩ := h.length_of_recordingUnsubscribed hl
    rw [if_neg (by omega)]
    refine ⟨hle, ?_, ?_⟩ <;>
      simp [SubscriptionsOk, subscriptionShare, goto, hc, hl, LockPhase.subscriptionLag, hco]
    omega
  all_goals
    have hl : c.accountingLock = _ := ‹_›
    simp only [hl, hc, LockPhase.isDisposal] at hdis hok hqu
  all_goals try cases hdis
  all_goals
    refine ⟨?_, ?_, ?_⟩ <;>
      simp_all [SubscriptionsOk, subscriptionShare, goto, LockPhase.subscriptionLag]

theorem Ok.subscriptionsKept_stepLock (h : c.Ok options)
    (hs : c.subscriptionShare ≤ metrics.activeSubscriptions)
    (hd : c.queueShare ≤ metrics.queueDepth)
    (ht : c.stepLock options metrics = some (next, metrics')) :
    SubscriptionsKept options metrics metrics' c next := by
  by_cases hdis : c.accountingLock.isDisposal = true
  · exact h.subscriptionsKept_dispose hdis hs hd ht
  · have hdis := Bool.eq_false_iff.mpr hdis
    obtain ⟨hn, hg, hsub, hcmd, hm⟩ := stepLock_live hdis ht
    exact h.subscriptionsKept_of_same hdis hn hg hsub hcmd hm

theorem Ok.stepLock (h : c.Ok options) (hq : c.queueShare ≤ metrics.queueDepth)
    (hs : c.subscriptionShare ≤ metrics.activeSubscriptions)
    (ht : c.stepLock options metrics = some (next, metrics')) :
    Kept options metrics metrics' c next := by
  have hqu := h.queueKept_stepLock hq hs ht
  have hsu := h.subscriptionsKept_stepLock hs hq ht
  exact ⟨⟨hqu.nonneg, hqu.le_capacity, hqu.ok, hsu.le_maximum, hsu.ok⟩,
    hqu.gauge, hsu.gauge⟩

theorem Ok.kept_of_same (h : c.Ok options) (hq : next.queuedMessages = c.queuedMessages)
    (hl : next.accountingLock = c.accountingLock) (hd : next.disposing = c.disposing)
    (ho : next.outbound.length + next.sender.holding = c.outbound.length + c.sender.holding)
    (hs : next.subscriptions = c.subscriptions) (hc : next.command = c.command) :
    Kept options metrics metrics c next where
  ok := by
    have hco (extra : Nat) : next.Counts extra ↔ c.Counts extra := by
      unfold Counts
      rw [hq, hd]
      split_ifs
      · rfl
      · omega
    obtain ⟨h1, h2, h3, h4, h5⟩ := h
    refine ⟨by rwa [hq], by rwa [hq], ?_, by rwa [hs], ?_⟩
    · unfold QueueOk at h3 ⊢
      simpa only [hl, hq, hd, hco] using h3
    · unfold SubscriptionsOk isLive at h5 ⊢
      simpa only [hl, hs, hc, hd] using h5
  queue := by simp only [queueShare, hq, hl]
  subscriptions := by simp only [subscriptionShare, hl, hs, hc]

theorem Ok.stepSender {input : WaitOutcome} (h : c.Ok options) : c.stepSender input = some next →
    Kept options metrics metrics c next := by
  fun_cases Connection.stepSender c input <;> intro ht <;> cases ht
  case case11 last hs hl =>
    have hsu : SubscriptionsKept options metrics metrics c
        { c with accountingLock := .removing .sender, sender := .accounting last } :=
      h.subscriptionsKept_of_same (by rw [hl]; rfl) rfl rfl rfl rfl rfl
    have hq := h.queue
    simp only [QueueOk, Counts, hl, hs, SenderPhase.holding] at hq
    refine ⟨⟨h.nonneg, h.le_capacity, ?_, hsu.le_maximum, hsu.ok⟩, ?_, hsu.gauge⟩
    · simp only [QueueOk, Counts, SenderPhase.holding]
      split_ifs at hq ⊢
      · exact hq
      · omega
    · simp [queueShare, hl, LockPhase.queueLag]
  all_goals
    refine h.kept_of_same rfl rfl rfl ?_ rfl rfl
    try split_ifs
    all_goals simp_all [SenderPhase.holding]

theorem Ok.stepCloser {k : Nat} {input : WaitOutcome} (h : c.Ok options) :
    c.stepCloser k input = some next → Kept options metrics metrics c next := by
  fun_cases Connection.stepCloser c k input <;> intro ht <;> cases ht
  all_goals exact h.kept_of_same rfl rfl rfl rfl rfl rfl

theorem Ok.kept_of_command (h : c.Ok options) {command : CommandPhase}
    {subscriptions : List Text} {activeSubscriptions : Int}
    (hle : subscriptions.length ≤ options.maximumSubscriptions)
    (hok : SubscriptionsOk options { c with command := command, subscriptions := subscriptions })
    (hg : activeSubscriptions + (c.subscriptions.length + c.command.subscriptionLag) =
      metrics.activeSubscriptions + (subscriptions.length + command.subscriptionLag)) :
    Kept options metrics { metrics with activeSubscriptions := activeSubscriptions } c
      { c with command := command, subscriptions := subscriptions } where
  ok := ⟨h.nonneg, h.le_capacity, h.queue, hle, hok⟩
  queue := rfl
  subscriptions := by
    simp only [subscriptionShare]
    omega

theorem subscriptionsOk_idle (h : c.isLive = true) (subscriptions : List Text) :
    SubscriptionsOk options { c with command := .idle, subscriptions := subscriptions } := by
  unfold isLive at h
  unfold SubscriptionsOk
  cases hl : c.accountingLock <;> simp_all [LockPhase.isDisposal]

theorem Ok.stepCommand (h : c.Ok options)
    (hs : c.subscriptionShare ≤ metrics.activeSubscriptions)
    (ht : c.stepCommand options metrics = some (next, metrics')) :
    Kept options metrics metrics' c next := by
  have hle := h.subscriptions_le
  have hok := h.subscriptions
  unfold SubscriptionsOk at hok
  revert ht
  fun_cases Connection.stepCommand options metrics c <;> intro ht <;> cases ht
  all_goals
    have hc : c.command = _ := ‹_›
    simp only [hc] at hok
  case case2 route _ =>
    refine h.kept_of_command hle ?_ ?_
    · split_ifs with hm
      · exact subscriptionsOk_idle hok _
      · exact ⟨hok, Nat.lt_of_not_le hm⟩
    · split_ifs <;> simp [hc, CommandPhase.subscriptionLag]
  case case3 => exact h.kept_of_command hle (subscriptionsOk_idle hok.1 _) (by rw [hc]; rfl)
  case case4 =>
    refine h.kept_of_command ?_ ⟨hok.1, by simp⟩ ?_
    · simpa using Nat.succ_le_of_lt hok.2
    · simp [hc, CommandPhase.subscriptionLag]
  case case5 =>
    refine h.kept_of_command hle (subscriptionsOk_idle hok.1 _) ?_
    simp only [hc, CommandPhase.subscriptionLag]
    omega
  case case6 route _ hm =>
    have hlen := List.length_erase_of_mem hm
    have hpos := List.length_pos_of_mem hm
    refine h.kept_of_command (by omega) hok ?_
    simp only [hc, CommandPhase.subscriptionLag]
    omega
  case case7 => exact h.kept_of_command hle (subscriptionsOk_idle hok _) (by rw [hc]; rfl)
  case case8 =>
    simp only [subscriptionShare, hc, CommandPhase.subscriptionLag,
      subscriptionLag_of_isLive hok] at hs
    rw [if_neg (by omega)]
    refine h.kept_of_command hle (subscriptionsOk_idle hok _) ?_
    simp only [hc, CommandPhase.subscriptionLag]
    omega

theorem Ok.step {label : Label} (h : c.Ok options) (hq : c.queueShare ≤ metrics.queueDepth)
    (hs : c.subscriptionShare ≤ metrics.activeSubscriptions)
    (ht : c.step options metrics label = some (next, metrics')) :
    Kept options metrics metrics' c next := by
  cases label with
  | «open» => cases ht
  | lock => exact h.stepLock hq hs ht
  | command => exact h.stepCommand hs ht
  | sender _ input =>
    obtain ⟨moved, hm, he⟩ := Option.map_eq_some_iff.mp ht
    cases he
    exact h.stepSender hm
  | closer _ k input =>
    obtain ⟨moved, hm, he⟩ := Option.map_eq_some_iff.mp ht
    cases he
    exact h.stepCloser hm
  | requestClose | abort | transportEnded =>
    cases ht
    exact h.kept_of_same rfl rfl rfl rfl rfl rfl
  | trySubscribe _ route | unsubscribe _ route =>
    simp only [Connection.step] at ht
    split_ifs at ht with hta
    cases ht
    have hid : c.command = .idle ∧ c.isLive = true := by
      unfold takesCommand at hta
      split at hta
      · next hc => exact ⟨hc, hta⟩
      · cases hta
    refine h.kept_of_command h.subscriptions_le hid.2 ?_
    simp [hid.1, CommandPhase.subscriptionLag]
  | tryEnqueue _ message =>
    simp only [Connection.step] at ht
    split at ht <;> cases ht
    next hl =>
    have hsu : SubscriptionsKept options metrics metrics c (c.goto (.opening message)) :=
      h.subscriptionsKept_of_same (by rw [hl]; rfl) rfl rfl rfl rfl rfl
    have hqu := h.queue
    simp only [QueueOk, hl] at hqu
    exact ⟨⟨h.nonneg, h.le_capacity, hqu, hsu.le_maximum, hsu.ok⟩,
      by simp [queueShare, goto, hl, LockPhase.queueLag], hsu.gauge⟩
  | dispose =>
    simp only [Connection.step] at ht
    split at ht <;> cases ht
    next hl hc =>
    have hqu := h.queue
    simp only [QueueOk, hl] at hqu
    refine ⟨⟨h.nonneg, h.le_capacity, hqu, h.subscriptions_le, ?_⟩, ?_, ?_⟩
    · simp [SubscriptionsOk, goto, hc]
    · simp [queueShare, goto, hl, LockPhase.queueLag]
    · simp [subscriptionShare, goto, hl, LockPhase.subscriptionLag]

end Connection

structure World.Exact (options : RealtimeOptions) (w : World) : Prop where
  ok : ∀ c ∈ w.connections, c.Ok options
  queue : w.metrics.queueDepth = (w.connections.map Connection.queueShare).sum
  subscriptions :
    w.metrics.activeSubscriptions = (w.connections.map Connection.subscriptionShare).sum

variable {options : RealtimeOptions} {w t : World} {label : Label}

theorem World.Exact.step (h : w.Exact options) (ht : step options w label = some t) :
    t.Exact options := by
  obtain ⟨hok, hq, hs⟩ := h
  revert ht
  fun_cases QueueAccounting.step options w label <;> intro ht <;> cases ht
  case case1 =>
    refine ⟨?_, ?_, ?_⟩
    · refine forall_mem_concat hok ?_
      constructor <;> simp [Connection.QueueOk, Connection.SubscriptionsOk, Connection.Counts,
      SenderPhase.holding]
    · simp [hq, Connection.queueShare, LockPhase.queueLag]
    · simp [hs, Connection.subscriptionShare, CommandPhase.subscriptionLag,
        LockPhase.subscriptionLag]
  case case4 c next metrics _ hc hst =>
    have hmem := List.mem_of_getElem? hc
    have hsh := List.single_le_sum
      (by simpa using fun c hm => (hok c hm).queueShare_nonneg) _
      (List.mem_map_of_mem (f := Connection.queueShare) hmem)
    have hsu := List.single_le_sum
      (by simpa using fun c hm => (hok c hm).subscriptionShare_nonneg) _
      (List.mem_map_of_mem (f := Connection.subscriptionShare) hmem)
    have hke := (hok _ hmem).step (hq ▸ hsh) (hs ▸ hsu) hst
    refine ⟨?_, ?_, ?_⟩
    · exact forall_mem_set hok hke.ok
    · have hset := sum_map_set Connection.queueShare hc next
      have hg := hke.queue
      simp only
      omega
    · have hset := sum_map_set Connection.subscriptionShare hc next
      have hg := hke.subscriptions
      simp only
      omega

def Connection.sending (c : Connection) : Nat :=
  c.sender.holding + match c.accountingLock with
    | .removing .sender | .swapping .sender _ => 1
    | _ => 0

/-- A thread is between changing a count and updating its gauge, or the other way round. -/
def Connection.isBetween (c : Connection) : Bool :=
  (match c.accountingLock with
    | .recordingEnqueued _ | .recordingDequeued _ | .recordingRemoved _ | .clearing _ => true
    | _ => false) ||
  match c.command with
  | .recordingAdded | .recordingRemoved => true
  | _ => false

def Connection.clamps (c : Connection) : Bool :=
  (match c.accountingLock with
    | .clampingDequeued _ | .clampingRemoved | .clampingUnsubscribed _ => true
    | _ => false) ||
  match c.command with
  | .clampingRemoved => true
  | _ => false

namespace Connection

variable {c : Connection}

theorem shares_of_settled (h : c.isBetween = false) :
    c.queueShare = c.queuedMessages ∧ c.subscriptionShare = c.subscriptions.length := by
  simp only [isBetween, Bool.or_eq_false_iff] at h
  obtain ⟨hl, hc⟩ := h
  have hlo : c.accountingLock.queueLag = 0 ∧ c.accountingLock.subscriptionLag = 0 := by
    revert hl
    cases c.accountingLock <;> simp [LockPhase.queueLag, LockPhase.subscriptionLag]
  have hco : c.command.subscriptionLag = 0 := by
    revert hc
    cases c.command <;> simp [CommandPhase.subscriptionLag]
  simp [queueShare, subscriptionShare, hlo, hco]

theorem Ok.clamps_eq_false (h : c.Ok options) : c.clamps = false := by
  have hq := h.queue
  have hs := h.subscriptions
  unfold QueueOk at hq
  unfold SubscriptionsOk at hs
  simp only [clamps, Bool.or_eq_false_iff]
  constructor
  · split
    all_goals first
    | rfl
    | (next hl => simp only [hl] at hq)
  · split
    all_goals first
    | rfl
    | (next hc => simp only [hc] at hs)

theorem Ok.sending_le (h : c.Ok options) (hd : c.disposing = false) :
    (c.outbound.length + c.sending : Nat) ≤ c.queuedMessages := by
  have hq := h.queue
  unfold QueueOk Counts at hq
  unfold sending
  cases hl : c.accountingLock with
  | removing remover | swapping remover =>
    cases remover <;> simp only [hl, hd, Bool.false_eq_true, if_false] at hq ⊢ <;> omega
  | _ =>
    simp only [hl, hd, Bool.false_eq_true, if_false, false_and] at hq ⊢
    try omega

end Connection

theorem exact_of_run {labels : List Label} (h : (step options).run {} labels = some w) :
    w.Exact options :=
  StepFn.run_induct (fun _ _ _ hs ht => hs.step ht) ⟨by simp, by simp, by simp⟩ h

theorem queue_and_subscription_accounting {labels : List Label}
    (h : (step options).run {} labels = some w) :
    (∀ c ∈ w.connections,
      0 ≤ c.queuedMessages ∧ c.queuedMessages ≤ options.outboundQueueCapacity ∧
      (c.disposing = false → (c.outbound.length + c.sending : Nat) ≤ c.queuedMessages) ∧
      c.subscriptions.length ≤ options.maximumSubscriptions ∧ c.clamps = false) ∧
    ((∀ c ∈ w.connections, c.isBetween = false) →
      w.metrics.queueDepth = (w.connections.map Connection.queuedMessages).sum ∧
      w.metrics.activeSubscriptions =
        (w.connections.map (fun c => (c.subscriptions.length : Int))).sum) := by
  obtain ⟨hok, hq, hs⟩ := exact_of_run h
  constructor
  · intro c hc
    have hc := hok c hc
    exact ⟨hc.nonneg, hc.le_capacity, hc.sending_le, hc.subscriptions_le, hc.clamps_eq_false⟩
  · intro hse
    constructor
    · rw [hq]
      rw [List.map_congr_left fun c hc => (Connection.shares_of_settled (hse c hc)).1]
    · rw [hs]
      rw [List.map_congr_left fun c hc => (Connection.shares_of_settled (hse c hc)).2]

def exampleEvent : ServerMessageEnvelope where
  version := some ProtocolVersions.current
  type := some ProtocolMessageTypes.event
  correlationId := some (utf16 "event-1")
  timestamp := 1
  route := some (utf16 "topics/orders")

def exampleLabels : List Label :=
  [[.open, .open, .trySubscribe 0 ⟨utf16 "orders", none⟩], List.replicate 3 (.command 0),
    [.tryEnqueue 0 exampleEvent], List.replicate 6 (.lock 0),
    [.tryEnqueue 0 exampleEvent], List.replicate 6 (.lock 0),
    List.replicate 6 (.sender 0 .ok), List.replicate 3 (.lock 0)].flatten

theorem queue_and_subscription_accounting_sent :
    ∃ w, (step {}).run {} exampleLabels = some w ∧
      w.metrics.queueDepth = 1 ∧ w.metrics.activeSubscriptions = 1 ∧
      w.metrics.queueDepth = (w.connections.map Connection.queuedMessages).sum := by
  have hrun : ∃ w, (step {}).run {} exampleLabels = some w ∧ w.metrics.queueDepth = 1 ∧
      w.metrics.activeSubscriptions = 1 ∧ ∀ c ∈ w.connections, c.isBetween = false := by
    decide +kernel
  obtain ⟨w, hw, hq, hs, hse⟩ := hrun
  exact ⟨w, hw, hq, hs, ((queue_and_subscription_accounting hw).2 hse).1⟩

/-! The call in one go. -/

structure Connection.Represents (c : Connection) (connection : RealtimeConnection) : Prop where
  transportOpen : c.transportOpen = connection.transportOpen
  closeRequested : c.closeRequested = connection.closeRequested
  disposing : c.disposing = connection.disposing
  outbound : c.outbound = connection.outbound
  writerCompleted : c.writerCompleted = connection.writerCompleted
  queuedMessages : c.queuedMessages = connection.queuedMessages
  slowConsumerStrikes : c.slowConsumerStrikes = connection.slowConsumerStrikes
  subscriptions : c.subscriptions = connection.subscriptions

/-- The thread in the accounting lock leaves it, while nobody else takes a step,
with the connection as given. -/
def Connection.LeavesLock (options : RealtimeOptions) (c : Connection) (metrics : GatewayMetrics)
    (connection : RealtimeConnection) : Prop :=
  ∃ n next metrics',
    StepFn.run (fun (s : Connection × GatewayMetrics) (_ : Unit) => s.1.stepLock options s.2)
      (c, metrics) (List.replicate n ()) = some (next, metrics') ∧
    next.accountingLock = .free ∧ next.Represents connection

namespace Connection

variable {c next : Connection} {metrics metrics' : GatewayMetrics}
  {connection : RealtimeConnection} {message : ServerMessageEnvelope}

theorem LeavesLock.of_step (h : next.LeavesLock options metrics' connection)
    (ht : c.stepLock options metrics = some (next, metrics')) :
    c.LeavesLock options metrics connection := by
  obtain ⟨n, last, metrics'', hr, hl⟩ := h
  refine ⟨n + 1, last, metrics'', ?_, hl⟩
  simpa [List.replicate_succ, ht] using hr

theorem LeavesLock.of_free (hl : c.accountingLock = .free) (h : c.Represents connection) :
    c.LeavesLock options metrics connection :=
  ⟨0, c, metrics, rfl, hl, h⟩

/-- Without interference in its critical section, a call of `TryEnqueue` does
what it is modelled to do in one go. -/
theorem Represents.leavesLock (h : c.Represents connection)
    (hl : c.accountingLock = .opening message) (hd : 0 ≤ metrics.queueDepth) :
    c.LeavesLock options metrics (connection.tryEnqueue options message).2 := by
  obtain ⟨h1, h2, h3, h4, h5, h6, h7, h8⟩ := h
  have hop : c.isOpen = connection.isOpen := by
    simp only [isOpen, RealtimeConnection.isOpen, h1, h2, h3]
  unfold RealtimeConnection.tryEnqueue
  by_cases ho : connection.isOpen = true
  · have hc : c.isOpen = true := hop.trans ho
    simp only [ho, Bool.true_eq_false, if_false]
    refine LeavesLock.of_step ?_ (by simp only [stepLock, hl, hc, if_true]; rfl)
    by_cases hq : options.outboundQueueCapacity ≤ connection.queuedMessages
    · rw [if_pos hq]
      have hqc : (options.outboundQueueCapacity : Int) ≤ c.queuedMessages := by omega
      refine LeavesLock.of_step ?_ (by simp only [stepLock, goto, hqc, if_true]; rfl)
      exact LeavesLock.of_free rfl ⟨h1, h2, h3, h4, h5, h6, by rw [h7], h8⟩
    · rw [if_neg hq]
      have hqc : ¬ (options.outboundQueueCapacity : Int) ≤ c.queuedMessages := by omega
      refine LeavesLock.of_step ?_ (by simp only [stepLock, goto, hqc, if_false]; rfl)
      refine LeavesLock.of_step ?_ rfl
      refine LeavesLock.of_step ?_ rfl
      by_cases hw : connection.writerCompleted = true ∨
          options.outboundQueueCapacity ≤ connection.outbound.length
      · rw [if_pos hw]
        -- The count is taken back; the gauge was just incremented.
        have hwc : (c.writerCompleted ||
            decide (options.outboundQueueCapacity ≤ c.outbound.length)) = true := by
          rw [h4, h5]
          simpa using hw
        have hpos : ¬ c.queuedMessages + 1 ≤ 0 := by omega
        have hde : ¬ metrics.queueDepth + 1 - 1 < 0 := by omega
        refine LeavesLock.of_step ?_ (by simp only [stepLock, goto]; exact if_pos hwc)
        refine LeavesLock.of_step ?_ (by simp only [stepLock, goto, hpos, if_false]; rfl)
        refine LeavesLock.of_step ?_ (by simp only [stepLock, goto, if_true]; rfl)
        refine LeavesLock.of_step ?_ (by simp only [stepLock, hde, if_false]; rfl)
        refine LeavesLock.of_step ?_ rfl
        refine LeavesLock.of_free rfl ⟨h1, h2, h3, h4, h5, ?_, ?_, h8⟩
        · simpa using h6
        · exact (if_pos hc).trans (congrArg (· + 1) h7)
      · rw [if_neg hw]
        have hwc : ¬ (c.writerCompleted ||
            decide (options.outboundQueueCapacity ≤ c.outbound.length)) = true := by
          rw [h4, h5]
          simpa using hw
        refine LeavesLock.of_step ?_ (by simp only [stepLock, goto]; exact if_neg hwc)
        refine LeavesLock.of_step ?_ rfl
        refine LeavesLock.of_free rfl ⟨h1, h2, h3, ?_, h5, ?_, rfl, h8⟩
        · simp [h4]
        · simp [h6]
  · have hc : c.isOpen = false := hop.trans (Bool.eq_false_iff.mpr ho)
    simp only [Bool.eq_false_iff.mpr ho, if_true]
    refine LeavesLock.of_step ?_ (by simp [stepLock, hl, hc]; exact ⟨rfl, rfl⟩)
    exact LeavesLock.of_free rfl ⟨h1, h2, h3, h4, h5, h6, h7, h8⟩

end Connection

end Realtime.QueueAccounting
