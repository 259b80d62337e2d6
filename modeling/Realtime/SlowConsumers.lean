import Realtime.QueueAccounting

/-! Slow consumers. One connection, the calls of `TryEnqueue` on it from `DeliverAsync`, the
heartbeat and the replies to commands, and what the first two do after a refusal: read the
strikes, mark the disconnect and count it, each with an access of its own. -/

namespace Realtime.SlowConsumers

open QueueAccounting List Option

inductive PathKind where
  | delivery | heartbeat | reply
  deriving DecidableEq

inductive PathPhase where
  | waiting (message : ServerMessageEnvelope)
  | enqueuing
  | judging
  | marking
  | recording
  | closing
  | finished

structure Path where
  kind : PathKind
  phase : PathPhase

/-- How a call of `TryEnqueue` ended. -/
inductive Attempt where
  | notOpen | full | unwritten | enqueued
  deriving DecidableEq

structure World where
  connection : Connection := {}
  metrics : GatewayMetrics := {}
  slowConsumerDisconnectRecorded : Bool := false
  slowConsumerDisconnects : Nat := 0
  paths : List Path := []
  /-- The path whose call is in the accounting lock. -/
  caller : Option Nat := none
  /-- The calls that have returned, newest first. -/
  attempts : List Attempt := []
  closeAsked : Bool := false

/-- The value of an `int` that was incremented from zero. -/
def int32 (n : Nat) : Int := ((n : Int) + 2 ^ 31) % 2 ^ 32 - 2 ^ 31

def hasExceededSlowConsumerLimit (options : RealtimeOptions) (c : Connection) : Bool :=
  decide ((options.slowConsumerStrikeLimit : Int) ≤ int32 c.slowConsumerStrikes)

/-- What `TryEnqueue` ends with when the next access in the lock is its last one. -/
def attemptOf (options : RealtimeOptions) (c : Connection) : Option Attempt :=
  match c.accountingLock with
  | .opening _ => if c.isOpen then none else some .notOpen
  | .counting _ =>
    if (options.outboundQueueCapacity : Int) ≤ c.queuedMessages then some .full else none
  | .resettingStrikes => some .enqueued
  | .striking => some .unwritten
  | _ => none

def Path.afterAttempt (path : Path) (attempt : Attempt) : Path :=
  { path with phase := if attempt = .enqueued ∨ path.kind = .reply then .finished else .judging }

namespace World

def returned (w : World) : Option Attempt → World
  | none => w
  | some attempt =>
    { w with
      attempts := attempt :: w.attempts
      caller := none
      paths := match w.caller with
        | none => w.paths
        | some k => w.paths.modify k (fun path => path.afterAttempt attempt) }

def goto (w : World) (k : Nat) (path : Path) (phase : PathPhase) : World :=
  { w with paths := w.paths.set k { path with phase := phase } }

end World

inductive Label where
  | tryEnqueue (kind : PathKind) (message : ServerMessageEnvelope)
  | path (k : Nat)
  | lock
  | sender (input : WaitOutcome)
  | requestClose
  | abort
  | dispose
  | closer (k : Nat) (input : WaitOutcome)
  | transportEnded

def Label.connection : Label → Option QueueAccounting.Label
  | .sender input => some (.sender 0 input)
  | .requestClose => some (.requestClose 0)
  | .abort => some (.abort 0)
  | .dispose => some (.dispose 0)
  | .closer k input => some (.closer 0 k input)
  | .transportEnded => some (.transportEnded 0)
  | _ => none

def Label.asksToClose : Label → Bool
  | .requestClose | .abort | .dispose => true
  | _ => false

namespace World

def stepPath (options : RealtimeOptions) (w : World) (k : Nat) : Option World :=
  match w.paths[k]? with
  | none => none
  | some path =>
    match path.phase with
    | .waiting message =>
      (w.connection.step options w.metrics (.tryEnqueue 0 message)).map (fun next =>
        { w.goto k path .enqueuing with
          connection := next.1, metrics := next.2, caller := some k })
    | .judging =>
      some (w.goto k path
        (if hasExceededSlowConsumerLimit options w.connection then .marking else .finished))
    | .marking =>
      some { w.goto k path (if w.slowConsumerDisconnectRecorded then .finished else .recording) with
        slowConsumerDisconnectRecorded := true }
    | .recording =>
      some { w.goto k path .closing with slowConsumerDisconnects := w.slowConsumerDisconnects + 1 }
    | .closing =>
      (w.connection.step options w.metrics (.requestClose 0)).map (fun next =>
        { w.goto k path .finished with
          connection := next.1, metrics := next.2, closeAsked := true })
    | .enqueuing | .finished => none

def stepConnection (options : RealtimeOptions) (w : World) (label : Label) : Option World :=
  label.connection.bind (fun inner =>
    (w.connection.step options w.metrics inner).map (fun next =>
      { w with
        connection := next.1
        metrics := next.2
        closeAsked := w.closeAsked || label.asksToClose }))

def step (options : RealtimeOptions) : StepFn World Label := fun w label =>
  match label with
  | .tryEnqueue kind message =>
    some { w with paths := w.paths ++ [{ kind := kind, phase := .waiting message }] }
  | .path k => w.stepPath options k
  | .lock =>
    (w.connection.stepLock options w.metrics).map (fun next =>
      { w.returned (attemptOf options w.connection) with
        connection := next.1, metrics := next.2 })
  | label => w.stepConnection options label

end World

/-- The refusals for a full queue since the last success. -/
def refusedSinceSuccess (attempts : List Attempt) : Nat :=
  (attempts.takeWhile (fun attempt => attempt != .enqueued)).count .full

@[simp] theorem refusedSinceSuccess_cons (attempt : Attempt) (attempts : List Attempt) :
    refusedSinceSuccess (attempt :: attempts) = match attempt with
      | .enqueued => 0
      | .full => refusedSinceSuccess attempts + 1
      | .notOpen | .unwritten => refusedSinceSuccess attempts := by
  unfold refusedSinceSuccess
  cases attempt <;> simp

def strikesAfter (strikes : Nat) : Option Attempt → Nat
  | some .full => strikes + 1
  | some .enqueued => 0
  | _ => strikes

/-- `TryEnqueue` takes its count back. -/
def retracts : LockPhase → Bool
  | .removing .enqueue | .swapping .enqueue _ | .recordingDequeued .enqueue
  | .clampingDequeued .enqueue | .striking => true
  | _ => false

/-- A connection that nobody has asked to close: its channel takes every message that the
count has room for. -/
structure Unasked (c : Connection) : Prop where
  closers : c.closers = []
  disposing : c.disposing = false
  lock : c.accountingLock.isDisposal = false
  writer : c.writerCompleted = false
  retracts : retracts c.accountingLock = false

section

variable {options : RealtimeOptions} {metrics metrics' : GatewayMetrics} {c next : Connection}

theorem Unasked.goto (h : Unasked c) {phase : LockPhase} (hd : phase.isDisposal = false)
    (hr : SlowConsumers.retracts phase = false) : Unasked (c.goto phase) :=
  ⟨h.closers, h.disposing, hd, h.writer, hr⟩

theorem Unasked.stepLock (h : Unasked c) (hok : c.Ok options)
    (ht : c.stepLock options metrics = some (next, metrics')) :
    Unasked next ∧
      next.slowConsumerStrikes = strikesAfter c.slowConsumerStrikes (attemptOf options c) := by
  have hqu := hok.queue
  have hle := hok.le_capacity
  have hlo := h.lock
  have hre := h.retracts
  unfold attemptOf
  revert ht
  fun_cases Connection.stepLock options metrics c <;> intro ht <;> cases ht
  case case2 message hl =>
    rw [hl]
    cases hop : c.isOpen with
    | false => exact ⟨h.goto rfl rfl, rfl⟩
    | true => exact ⟨h.goto rfl rfl, rfl⟩
  case case3 message hl hfu =>
    simp only [hl, hfu, if_true]
    exact ⟨⟨h.closers, h.disposing, rfl, h.writer, rfl⟩, rfl⟩
  case case4 message hl hfu =>
    simp only [hl, hfu, if_false]
    exact ⟨h.goto rfl rfl, rfl⟩
  case case7 message hl href =>
    -- the count has room for the message, and nobody has completed the channel
    simp only [Connection.QueueOk, Connection.Counts, hl, h.disposing, Bool.false_eq_true, if_false,
      true_and] at hqu
    simp only [h.writer, Bool.false_or, decide_eq_true_eq] at href
    omega
  case case10 remover hl _ | case11 remover hl _ | case12 remover hl |
      case13 remover queued hl _ | case14 remover hl | case15 remover hl =>
    cases remover with
    | enqueue =>
      rw [hl] at hre
      cases hre
    | sender =>
      rw [hl]
      try split_ifs
      all_goals exact ⟨⟨h.closers, h.disposing, rfl, h.writer, rfl⟩, rfl⟩
  case case5 | case6 | case8 | case9 =>
    have hl : c.accountingLock = _ := ‹_›
    rw [hl]
    exact ⟨⟨h.closers, h.disposing, rfl, h.writer, rfl⟩, rfl⟩
  case case16 hl =>
    rw [hl] at hre
    cases hre
  -- the rest are the steps of a dispose
  all_goals
    have hl : c.accountingLock = _ := ‹_›
    rw [hl] at hlo
    cases hlo

theorem Unasked.stepSender {input : WaitOutcome} (h : Unasked c) : c.stepSender input = some next →
    Unasked next ∧ next.slowConsumerStrikes = c.slowConsumerStrikes := by
  fun_cases Connection.stepSender c input <;> intro ht <;> cases ht
  case case11 => exact ⟨⟨h.closers, h.disposing, rfl, h.writer, rfl⟩, rfl⟩
  all_goals exact ⟨{ h with }, rfl⟩

variable {inner : QueueAccounting.Label}

theorem Unasked.step {label : Label} (h : Unasked c) (hin : label.connection = some inner)
    (hask : label.asksToClose = false) (ht : c.step options metrics inner = some (next, metrics')) :
    Unasked next ∧ next.slowConsumerStrikes = c.slowConsumerStrikes := by
  cases label with
  | tryEnqueue | path | lock => cases hin
  | requestClose | abort | dispose => cases hask
  | sender input =>
    cases hin
    obtain ⟨moved, hm, he⟩ := map_eq_some_iff.mp ht
    cases he
    exact h.stepSender hm
  | closer k input =>
    cases hin
    obtain ⟨moved, hm, he⟩ := map_eq_some_iff.mp ht
    simp [Connection.stepCloser, h.closers] at hm
  | transportEnded =>
    cases hin
    cases ht
    exact ⟨{ h with }, rfl⟩

theorem Unasked.tryEnqueue {message : ServerMessageEnvelope} (h : Unasked c)
    (ht : c.step options metrics (.tryEnqueue 0 message) = some (next, metrics')) :
    Unasked next ∧ next.slowConsumerStrikes = c.slowConsumerStrikes := by
  simp only [Connection.step] at ht
  split at ht <;> cases ht
  exact ⟨h.goto rfl rfl, rfl⟩

structure Metered (options : RealtimeOptions) (c : Connection) (metrics : GatewayMetrics) : Prop where
  ok : c.Ok options
  queue : metrics.queueDepth = c.queueShare
  subscriptions : metrics.activeSubscriptions = c.subscriptionShare

theorem Metered.step (h : Metered options c metrics)
    (ht : c.step options metrics inner = some (next, metrics')) :
    Metered options next metrics' := by
  have hq := h.queue
  have hs := h.subscriptions
  have hke := h.ok.step (by omega) (by omega) ht
  have hq' := hke.queue
  have hs' := hke.subscriptions
  exact ⟨hke.ok, by omega, by omega⟩

end

namespace World

variable {options : RealtimeOptions} {w t : World} {label : Label} {k : Nat}

structure Judged (options : RealtimeOptions) (w : World) : Prop where
  metered : Metered options w.connection w.metrics
  unasked : w.closeAsked = false → Unasked w.connection ∧
    w.connection.slowConsumerStrikes = refusedSinceSuccess w.attempts

theorem Judged.initial : ({} : World).Judged options := by
  refine ⟨⟨?_, rfl, rfl⟩, ?_⟩
  · constructor <;> simp [Connection.QueueOk, Connection.SubscriptionsOk, Connection.Counts,
      SenderPhase.holding]
  · intro _
    exact ⟨⟨rfl, rfl, rfl, rfl, rfl⟩, rfl⟩

@[simp] theorem returned_attempts (w : World) (attempt : Option Attempt) :
    (w.returned attempt).attempts = attempt.toList ++ w.attempts := by
  cases attempt <;> rfl

@[simp] theorem returned_closeAsked (w : World) (attempt : Option Attempt) :
    (w.returned attempt).closeAsked = w.closeAsked := by
  cases attempt <;> rfl

theorem strikesAfter_eq (attempts : List Attempt) (attempt : Option Attempt) :
    strikesAfter (refusedSinceSuccess attempts) attempt =
      refusedSinceSuccess (attempt.toList ++ attempts) := by
  cases attempt with
  | none => rfl
  | some attempt => cases attempt <;> simp [strikesAfter]

theorem Judged.stepPath (h : w.Judged options) (ht : w.stepPath options k = some t) :
    t.Judged options := by
  unfold World.stepPath at ht
  split at ht
  · cases ht
  next path hk =>
  split at ht
  · next message hph =>
    obtain ⟨⟨next, metrics⟩, hst, rfl⟩ := map_eq_some_iff.mp ht
    refine ⟨h.metered.step hst, ?_⟩
    intro hask
    obtain ⟨hun, hstr⟩ := h.unasked hask
    obtain ⟨hne, hsa⟩ := hun.tryEnqueue hst
    exact ⟨hne, hsa.trans hstr⟩
  · cases ht
    exact ⟨h.metered, h.unasked⟩
  · cases ht
    exact ⟨h.metered, h.unasked⟩
  · cases ht
    exact ⟨h.metered, h.unasked⟩
  · obtain ⟨⟨next, metrics⟩, hst, rfl⟩ := map_eq_some_iff.mp ht
    exact ⟨h.metered.step hst, nofun⟩
  · cases ht
  · cases ht

theorem Judged.lock (h : w.Judged options) (ht : step options w .lock = some t) :
    t.Judged options := by
  obtain ⟨⟨next, metrics⟩, hste, rfl⟩ := map_eq_some_iff.mp ht
  have hlo : w.connection.step options w.metrics (.lock 0) = some (next, metrics) := hste
  refine ⟨h.metered.step hlo, ?_⟩
  intro hask
  rw [returned_closeAsked] at hask
  obtain ⟨hun, hst⟩ := h.unasked hask
  obtain ⟨hne, haf⟩ := hun.stepLock h.metered.ok hste
  refine ⟨hne, ?_⟩
  rw [returned_attempts, ← strikesAfter_eq, ← hst]
  exact haf

theorem Judged.stepConnection (h : w.Judged options)
    (ht : w.stepConnection options label = some t) : t.Judged options := by
  obtain ⟨inner, hin, ht⟩ := bind_eq_some_iff.mp ht
  obtain ⟨⟨next, metrics⟩, hste, rfl⟩ := map_eq_some_iff.mp ht
  refine ⟨h.metered.step hste, ?_⟩
  intro hask
  obtain ⟨hw, hla⟩ := Bool.or_eq_false_iff.mp hask
  obtain ⟨hun, hst⟩ := h.unasked hw
  obtain ⟨hne, hsa⟩ := hun.step hin hla hste
  exact ⟨hne, hsa.trans hst⟩

theorem Judged.step (h : w.Judged options) (ht : World.step options w label = some t) :
    t.Judged options := by
  cases label with
  | tryEnqueue kind message =>
    cases ht
    exact ⟨h.metered, h.unasked⟩
  | path k => exact h.stepPath ht
  | lock => exact h.lock ht
  | _ => exact h.stepConnection ht

end World

/-! The disconnect is counted by the path that has set the mark. -/

def Path.isRecording (path : Path) : Bool :=
  match path.phase with
  | .recording => true
  | _ => false

theorem countP_modify_le {α : Type} (p : α → Bool) (f : α → α) (hf : ∀ a, p (f a) = false)
    (l : List α) (k : Nat) : (l.modify k f).countP p ≤ l.countP p := by
  induction l generalizing k with
  | nil => simp
  | cons a l ih =>
    cases k with
    | zero => simp [countP_cons, hf a]
    | succ k =>
      have hl := ih k
      simp only [modify_succ_cons, countP_cons]
      omega

namespace World

variable {options : RealtimeOptions} {w t : World} {label : Label} {k : Nat}

def Counted (w : World) : Prop :=
  w.slowConsumerDisconnects + w.paths.countP Path.isRecording ≤
    w.slowConsumerDisconnectRecorded.toNat

theorem isRecording_afterAttempt (path : Path) (attempt : Attempt) :
    (path.afterAttempt attempt).isRecording = false := by
  unfold Path.afterAttempt Path.isRecording
  split_ifs <;> rfl

theorem Counted.returned (h : w.Counted) (attempt : Option Attempt) :
    (w.returned attempt).Counted := by
  cases attempt with
  | none => exact h
  | some attempt =>
    unfold Counted at h ⊢
    cases hc : w.caller with
    | none => simpa [World.returned, hc] using h
    | some k =>
      have hle := countP_modify_le Path.isRecording (fun path => path.afterAttempt attempt)
        (fun path => isRecording_afterAttempt path attempt) w.paths k
      simp only [World.returned, hc]
      omega

theorem Counted.goto (h : w.Counted) {path : Path} {phase : PathPhase}
    (hk : w.paths[k]? = some path)
    (hph : ({ path with phase := phase } : Path).isRecording = false) :
    (w.goto k path phase).Counted := by
  have hset := countP_set_of_getElem? Path.isRecording { path with phase := phase } hk
  unfold Counted at h ⊢
  simp only [hph, Bool.false_eq_true, if_false] at hset
  simp only [World.goto]
  split_ifs at hset <;> omega

theorem Counted.stepPath (h : w.Counted) (ht : w.stepPath options k = some t) : t.Counted := by
  unfold World.stepPath at ht
  split at ht
  · cases ht
  next path hk =>
  split at ht
  · obtain ⟨⟨next, metrics⟩, -, rfl⟩ := map_eq_some_iff.mp ht
    exact h.goto hk rfl
  · cases ht
    refine h.goto hk ?_
    split_ifs <;> rfl
  · next hph =>
    cases ht
    cases hr : w.slowConsumerDisconnectRecorded with
    | true =>
      have hmo : (w.goto k path .finished).Counted := h.goto hk rfl
      unfold Counted at hmo ⊢
      simpa only [World.goto, hr, if_true] using hmo
    | false =>
      have hset := countP_set_of_getElem? Path.isRecording { path with phase := .recording } hk
      have hma : path.isRecording = false := by simp [Path.isRecording, hph]
      unfold Counted at h ⊢
      rw [hr] at h
      rw [hma] at hset
      simp only [Path.isRecording, Bool.false_eq_true, if_false, if_true, Bool.toNat_false] at hset h
      simp only [World.goto, if_false, Bool.false_eq_true, Bool.toNat_true]
      omega
  · next hph =>
    cases ht
    have hset := countP_set_of_getElem? Path.isRecording { path with phase := .closing } hk
    have hma : path.isRecording = true := by simp [Path.isRecording, hph]
    unfold Counted at h ⊢
    rw [hma] at hset
    simp only [Path.isRecording, if_true, Bool.false_eq_true, if_false] at hset
    simp only [World.goto]
    omega
  · obtain ⟨⟨next, metrics⟩, -, rfl⟩ := map_eq_some_iff.mp ht
    exact h.goto hk rfl
  · cases ht
  · cases ht

theorem Counted.step (h : w.Counted) (ht : World.step options w label = some t) : t.Counted := by
  have hin {label : Label} (ht : w.stepConnection options label = some t) : t.Counted := by
    obtain ⟨inner, -, ht⟩ := bind_eq_some_iff.mp ht
    obtain ⟨⟨next, metrics⟩, -, rfl⟩ := map_eq_some_iff.mp ht
    exact h
  cases label with
  | tryEnqueue kind message =>
    cases ht
    unfold Counted at h ⊢
    simpa [countP_append, countP_cons, Path.isRecording] using h
  | path k => exact h.stepPath ht
  | lock =>
    obtain ⟨⟨next, metrics⟩, -, rfl⟩ := map_eq_some_iff.mp ht
    exact h.returned _
  | _ => exact hin ht

theorem int32_of_lt {n : Nat} (h : n < 2 ^ 31) : int32 n = n := by
  unfold int32
  omega

/-- The strikes are the refusals for a full queue since the last success, as long as the
`int` has not overflowed, and the disconnect is counted once at most. -/
theorem slow_consumers_judged (options : RealtimeOptions) (labels : List Label) (w : World)
    (hw : (World.step options).run {} labels = some w) :
    (w.closeAsked = false → refusedSinceSuccess w.attempts < 2 ^ 31 →
      (hasExceededSlowConsumerLimit options w.connection = true ↔
        options.slowConsumerStrikeLimit ≤ refusedSinceSuccess w.attempts)) ∧
    w.slowConsumerDisconnects ≤ 1 := by
  have hju : w.Judged options :=
    StepFn.run_induct (fun _ _ _ h ht => h.step ht) Judged.initial hw
  have hin : ({} : World).Counted := Nat.le_refl 0
  have hco : w.Counted := StepFn.run_induct (fun _ _ _ h ht => h.step ht) hin hw
  constructor
  · intro hask hlt
    obtain ⟨-, hst⟩ := hju.unasked hask
    unfold hasExceededSlowConsumerLimit
    rw [hst, int32_of_lt hlt, decide_eq_true_eq]
    omega
  · have hle := Bool.toNat_le w.slowConsumerDisconnectRecorded
    unfold Counted at hco
    omega

end World

/-! The strikes are an `int`: a client that keeps sending commands and reads no reply gets
them past its largest value, when no delivery and no heartbeat comes in between. -/

def exampleReply : ServerMessageEnvelope := exampleEvent

def exampleLimits : RealtimeOptions := { outboundQueueCapacity := 1 }

/-- The steps of one reply, whose path is `k`. -/
def replyLabels (k lockSteps : Nat) : List Label :=
  [.tryEnqueue .reply exampleReply, .path k] ++ List.replicate lockSteps .lock

structure World.Stuck (w : World) : Prop where
  isOpen : w.connection.isOpen = true
  lock : w.connection.accountingLock = .free
  full : (exampleLimits.outboundQueueCapacity : Int) ≤ w.connection.queuedMessages
  asked : w.closeAsked = false

theorem World.Stuck.refuse {w : World} (h : w.Stuck) :
    ∃ t, (World.step exampleLimits).run w (replyLabels w.paths.length 2) = some t ∧ t.Stuck ∧
      refusedSinceSuccess t.attempts = refusedSinceSuccess w.attempts + 1 := by
  let waiting : Path := { kind := .reply, phase := .waiting exampleReply }
  let called : World := { w with paths := w.paths ++ [waiting] }
  let opening : World := { called.goto w.paths.length waiting .enqueuing with
    connection := w.connection.goto (.opening exampleReply), caller := some w.paths.length }
  let counting : World :=
    { opening with connection := w.connection.goto (.counting exampleReply) }
  let refused : World := { counting.returned (some .full) with
    connection := { w.connection with
      slowConsumerStrikes := w.connection.slowConsumerStrikes + 1, accountingLock := .free } }
  have hca : World.step exampleLimits w (.tryEnqueue .reply exampleReply) = some called := rfl
  have hen : World.step exampleLimits called (.path w.paths.length) = some opening := by
    have hpa : called.paths[w.paths.length]? = some waiting := by simp [called]
    simp only [World.step, World.stepPath, hpa]
    simp [waiting, called, opening, Connection.step, h.lock, World.goto]
  have hop : (w.connection.goto (.opening exampleReply)).isOpen = true := h.isOpen
  have hlo : World.step exampleLimits opening .lock = some counting := by
    have hat : attemptOf exampleLimits opening.connection = none := if_pos hop
    have hst : opening.connection.stepLock exampleLimits opening.metrics =
        some (counting.connection, w.metrics) := by
      change some ((w.connection.goto (.opening exampleReply)).goto
        (if (w.connection.goto (.opening exampleReply)).isOpen then _ else _), w.metrics) = _
      rw [if_pos hop]
      rfl
    simp only [World.step, hat, hst]
    rfl
  have hlo' : World.step exampleLimits counting .lock = some refused := by
    have hat : attemptOf exampleLimits counting.connection = some .full := if_pos h.full
    have hst : counting.connection.stepLock exampleLimits counting.metrics =
        some (refused.connection, w.metrics) := if_pos h.full
    simp only [World.step, hat, hst]
    rfl
  refine ⟨refused, ?_, ⟨h.isOpen, rfl, h.full, h.asked⟩, ?_⟩
  · simp only [replyLabels, cons_append, nil_append, replicate_succ,
      replicate_zero, StepFn.run_cons, hca, hen, hlo, hlo', bind_some,
      StepFn.run_nil]
  · exact refusedSinceSuccess_cons .full w.attempts

theorem stuck_after_refusals (n : Nat) :
    ∃ labels w, (World.step exampleLimits).run {} labels = some w ∧ w.Stuck ∧
      refusedSinceSuccess w.attempts = n := by
  induction n with
  | zero => exact ⟨replyLabels 0 6, _, rfl, ⟨rfl, rfl, by decide, rfl⟩, rfl⟩
  | succ n ih =>
    obtain ⟨labels, w, hw, hst, hn⟩ := ih
    obtain ⟨t, ht, hst', hsu⟩ := hst.refuse
    refine ⟨labels ++ replyLabels w.paths.length 2, t, ?_, hst', ?_⟩
    · rw [StepFn.run_append, hw]
      exact ht
    · rw [hsu, hn]

theorem slow_consumer_overflow :
    ∃ labels w, (World.step exampleLimits).run {} labels = some w ∧ w.closeAsked = false ∧
      exampleLimits.slowConsumerStrikeLimit ≤ refusedSinceSuccess w.attempts ∧
      hasExceededSlowConsumerLimit exampleLimits w.connection = false := by
  obtain ⟨labels, w, hw, hst, hn⟩ := stuck_after_refusals (2 ^ 31)
  have hju : w.Judged exampleLimits :=
    StepFn.run_induct (fun _ _ _ h ht => h.step ht) World.Judged.initial hw
  obtain ⟨-, hstr⟩ := hju.unasked hst.asked
  refine ⟨labels, w, hw, hst.asked, ?_, ?_⟩
  · rw [hn]
    decide
  · unfold hasExceededSlowConsumerLimit
    rw [hstr, hn]
    decide

def exampleSlowDelivery : List Label :=
  [replyLabels 0 6, replyLabels 1 2, replyLabels 2 2,
    [.tryEnqueue .delivery exampleReply, .path 3, .lock, .lock]].flatten

theorem slow_consumers_judged_delivery :
    ∃ w, (World.step exampleLimits).run {} exampleSlowDelivery = some w ∧
      hasExceededSlowConsumerLimit exampleLimits w.connection = true ∧
      w.slowConsumerDisconnects ≤ 1 := by
  refine ⟨_, rfl, ?_, (World.slow_consumers_judged exampleLimits exampleSlowDelivery _ rfl).2⟩
  exact ((World.slow_consumers_judged exampleLimits exampleSlowDelivery _ rfl).1 rfl
    (by decide)).mpr (by decide)

end Realtime.SlowConsumers
