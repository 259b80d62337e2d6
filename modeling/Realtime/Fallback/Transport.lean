import Realtime.Machine

/-! Delivery of the HTTP fallback: the one-slot channel of `HttpFallbackTransport`
with the handshake between `SendAsync` and the request that has the payload, the
receiver mode that lets one poll or one stream read, and closes at any time. A
payload is named by its place in the order of the calls of `SendAsync`. -/

namespace Realtime.Fallback

open List

/-- The task that `SendAsync` waits for. -/
inductive Consumed where
  | pending | completed | cancelled
  deriving DecidableEq

structure HttpFallbackPayload where
  payload : List UInt8
  consumed : Consumed := .pending

/-- `_receiverMode`. -/
inductive ReceiverMode where
  | none | poll | stream
  deriving DecidableEq

/-- A call of `SendAsync` by `RunSenderAsync`, which ends with the first call
that throws. -/
inductive SendPhase where
  | idle
  | opening (payload : List UInt8)
  | checking (payload : List UInt8)
  | publishing (payload : List UInt8)
  | rechecking (n : Nat)
  | cancelling (n : Nat)
  | writing (n : Nat)
  | waiting (n : Nat)
  | clearing (n : Nat) (threw : Bool)
  | ended

inductive PollPhase where
  | attaching
  | refused
  | reading
  | responding (n : Nat)
  | completing (n : Nat)
  | ending
  | finished
  deriving DecidableEq

/-- `failed` is a stream whose response could not be started: it stays attached. -/
inductive StreamPhase where
  | attaching
  | refused
  | starting
  | failed
  | reading
  | responding (n : Nat)
  | completing (n : Nat) (last : Bool)
  | closing
  | finished
  deriving DecidableEq

inductive Request where
  | poll (phase : PollPhase)
  | stream (phase : StreamPhase)
  deriving DecidableEq

/-- `Close`, or `CancelPendingSend` alone. -/
inductive CloserPhase where
  | closing
  | completing
  | flagging
  | exchanging
  | cancelling (n : Nat)
  | finished

/-- How an awaited operation of a request or of the sender ends; a poll does not
tell a timeout from an abort of the client here. -/
inductive WaitOutcome where
  | ok | cancelled | closed | failed
  deriving DecidableEq

structure Transport where
  isOpen : Bool := true
  channel : Option Nat := none
  writerCompleted : Bool := false
  pending : Option Nat := none
  pendingSendCancelled : Bool := false
  payloads : List HttpFallbackPayload := []
  sender : SendPhase := .idle
  mode : ReceiverMode := .none
  requests : List Request := []
  closers : List CloserPhase := []
  /-- History: the payloads written to the channel, and the payloads handed to
  the response of a request. -/
  put : List Nat := []
  handed : List (Nat × Nat) := []

/-- `TrySetResult` or `TrySetCanceled` on a task that may have been set before. -/
def HttpFallbackPayload.trySet (payload : HttpFallbackPayload) (consumed : Consumed) :
    HttpFallbackPayload :=
  if payload.consumed = .pending then { payload with consumed } else payload

namespace Transport

def settle (s : Transport) (n : Nat) (consumed : Consumed) : List HttpFallbackPayload :=
  s.payloads.modify n (·.trySet consumed)

def consumedOf (s : Transport) (n : Nat) : Consumed :=
  match s.payloads[n]? with
  | some payload => payload.consumed
  | none => .pending

def stepSender (s : Transport) (input : WaitOutcome) : Option Transport :=
  match s.sender, input with
  | .opening payload, .ok =>
    some { s with sender := if s.isOpen then .checking payload else .ended }
  | .checking payload, .ok =>
    some { s with sender := if s.pendingSendCancelled then .ended else .publishing payload }
  | .publishing payload, .ok =>
    some { s with
      payloads := s.payloads ++ [⟨payload, .pending⟩]
      pending := some s.payloads.length
      sender := .rechecking s.payloads.length }
  | .rechecking n, .ok =>
    some { s with sender := if s.pendingSendCancelled then .cancelling n else .writing n }
  | .cancelling n, .ok => some { s with payloads := s.settle n .cancelled, sender := .writing n }
  | .writing n, .ok =>
    if s.writerCompleted then some { s with sender := .clearing n true }
    else if s.channel = none then
      some { s with channel := some n, put := s.put ++ [n], sender := .waiting n }
    else none
  | .writing n, .cancelled => some { s with sender := .clearing n true }
  | .waiting n, .ok =>
    match s.consumedOf n with
    | .pending => none
    | .completed => some { s with sender := .clearing n false }
    | .cancelled => some { s with sender := .clearing n true }
  | .waiting n, .cancelled => some { s with sender := .clearing n true }
  | .clearing n threw, .ok =>
    some { s with
      pending := if s.pending = some n then none else s.pending
      sender := if threw then .ended else .idle }
  | _, _ => none

def setPoll (s : Transport) (k : Nat) (phase : PollPhase) : Transport :=
  { s with requests := s.requests.set k (.poll phase) }

def stepPoll (s : Transport) (k : Nat) (phase : PollPhase) (input : WaitOutcome) :
    Option Transport :=
  match phase, input with
  | .attaching, .ok =>
    if s.mode = .none then some { s.setPoll k .reading with mode := .poll }
    else some (s.setPoll k .refused)
  | .reading, .ok =>
    match s.channel with
    | some n => some { s.setPoll k (.responding n) with channel := none }
    | none => none
  | .reading, .cancelled => some (s.setPoll k .ending)
  | .reading, .closed =>
    if s.writerCompleted && s.channel.isNone then some (s.setPoll k .ending) else none
  -- A write that fails may have reached the client in part.
  | .responding n, .ok | .responding n, .failed =>
    some { s.setPoll k (.completing n) with handed := s.handed ++ [(n, k)] }
  | .completing n, .ok => some { s.setPoll k .ending with payloads := s.settle n .completed }
  | .ending, .ok =>
    some { s.setPoll k .finished with mode := if s.mode = .poll then .none else s.mode }
  | _, _ => none

def setStream (s : Transport) (k : Nat) (phase : StreamPhase) : Transport :=
  { s with requests := s.requests.set k (.stream phase) }

def stepStream (s : Transport) (k : Nat) (phase : StreamPhase) (input : WaitOutcome) :
    Option Transport :=
  match phase, input with
  | .attaching, .ok =>
    if s.mode = .none then some { s.setStream k .starting with mode := .stream }
    else some (s.setStream k .refused)
  | .starting, .ok => some (s.setStream k .reading)
  | .starting, .failed => some (s.setStream k .failed)
  | .reading, .ok =>
    match s.channel with
    | some n => some { s.setStream k (.responding n) with channel := none }
    | none => none
  | .reading, .cancelled => some (s.setStream k .closing)
  | .reading, .closed =>
    if s.writerCompleted && s.channel.isNone then some (s.setStream k .closing) else none
  | .responding n, .ok =>
    some { s.setStream k (.completing n false) with handed := s.handed ++ [(n, k)] }
  | .responding n, .failed =>
    some { s.setStream k (.completing n true) with handed := s.handed ++ [(n, k)] }
  | .completing n last, .ok =>
    some { s.setStream k (if last then .closing else .reading) with
      payloads := s.settle n .completed }
  | .closing, .ok => some (s.setStream k .finished)
  | _, _ => none

def stepCloser (s : Transport) (k : Nat) : Option Transport :=
  match s.closers[k]? with
  | some .closing =>
    some { s with
      isOpen := false
      closers := s.closers.set k (if s.isOpen then .completing else .finished) }
  | some .completing =>
    some { s with writerCompleted := true, closers := s.closers.set k .flagging }
  | some .flagging =>
    some { s with pendingSendCancelled := true, closers := s.closers.set k .exchanging }
  | some .exchanging =>
    some { s with
      pending := none
      closers := s.closers.set k (s.pending.elim .finished .cancelling) }
  | some (.cancelling n) =>
    some { s with payloads := s.settle n .cancelled, closers := s.closers.set k .finished }
  | _ => none

end Transport

inductive Label where
  | send (payload : List UInt8)
  | sender (input : WaitOutcome)
  | poll
  | stream
  | request (k : Nat) (input : WaitOutcome)
  | close
  | cancelPendingSend
  | closer (k : Nat)

open Transport in
def step : StepFn Transport Label := fun s label =>
  match label with
  | .send payload =>
    match s.sender with
    | .idle => some { s with sender := .opening payload }
    | _ => none
  | .sender input => s.stepSender input
  | .poll => some { s with requests := s.requests ++ [.poll .attaching] }
  | .stream => some { s with requests := s.requests ++ [.stream .attaching] }
  | .request k input =>
    match s.requests[k]? with
    | some (.poll phase) => s.stepPoll k phase input
    | some (.stream phase) => s.stepStream k phase input
    | none => none
  | .close => some { s with closers := s.closers ++ [.closing] }
  | .cancelPendingSend => some { s with closers := s.closers ++ [.flagging] }
  | .closer k => s.stepCloser k

/-- A transport after a step: the parts that a step with this label may change are those of
another transport. -/
def Label.footprint (s u : Transport) : Label → Transport
  | .send _ => { s with sender := u.sender }
  | .sender _ => { s with
      sender := u.sender, payloads := u.payloads, pending := u.pending, channel := u.channel,
      put := u.put }
  | .poll | .stream => { s with requests := u.requests }
  | .request .. => { s with
      requests := u.requests, mode := u.mode, channel := u.channel, payloads := u.payloads,
      handed := u.handed }
  | .close | .cancelPendingSend => { s with closers := u.closers }
  | .closer _ => { s with
      isOpen := u.isOpen, writerCompleted := u.writerCompleted, pending := u.pending,
      pendingSendCancelled := u.pendingSendCancelled, payloads := u.payloads,
      closers := u.closers }

theorem step_footprint {s t : Transport} (label : Label) (ht : step s label = some t) :
    ∃ u, t = label.footprint s u := by
  refine ⟨t, ?_⟩
  revert ht
  cases label <;> simp only [step]
  case send payload => intro ht; split at ht <;> cases ht; rfl
  case sender input => fun_cases s.stepSender input <;> intro ht <;> cases ht <;> rfl
  case request k input =>
    split
    · next phase _ => fun_cases s.stepPoll k phase input <;> intro ht <;> cases ht <;> rfl
    · next phase _ => fun_cases s.stepStream k phase input <;> intro ht <;> cases ht <;> rfl
    · nofun
  case closer k => fun_cases s.stepCloser k <;> intro ht <;> cases ht <;> rfl
  all_goals rintro ⟨⟩; rfl

/-! One receiver at a time. -/

def Request.mode : Request → ReceiverMode
  | poll .attaching | poll .refused | poll .finished => .none
  | poll _ => .poll
  | stream .attaching | stream .refused => .none
  | stream _ => .stream

def Request.reads : Request → Bool
  | poll .reading | poll (.responding _) | poll (.completing _) => true
  | stream .reading | stream (.responding _) | stream (.completing _ _) => true
  | _ => false

def Request.taken : Request → Option Nat
  | poll (.responding n) | stream (.responding n) => some n
  | _ => none

/-- The payload that `SendAsync` has created and not yet written to the channel. -/
def SendPhase.held : SendPhase → Option Nat
  | rechecking n | cancelling n | writing n => some n
  | _ => none

/-- `SendAsync` is not waiting for a payload and has not given one up. -/
def SendPhase.isFresh : SendPhase → Bool
  | waiting _ | clearing _ true | ended => false
  | _ => true

def Request.isAdmitted : Request → Bool
  | poll .attaching | poll .refused | stream .attaching | stream .refused => false
  | _ => true

variable {request : Request}

theorem Request.mode_ne_none_of_reads : request.reads = true → request.mode ≠ .none := by
  fun_cases Request.reads request <;> simp [Request.mode]

theorem Request.mode_ne_none_of_taken {n : Nat} : request.taken = some n →
    request.mode ≠ .none := by
  fun_cases Request.taken request <;> simp [Request.mode]

namespace Transport

structure Exclusive (s : Transport) : Prop where
  mode : ∀ (k : Nat) (request : Request), s.requests[k]? = some request →
    request.mode ≠ .none → request.mode = s.mode
  unique : ∀ (i j : Nat) (request other : Request), s.requests[i]? = some request →
    s.requests[j]? = some other → request.mode ≠ .none → other.mode ≠ .none → i = j

variable {s t : Transport} {k : Nat} {input : WaitOutcome}

variable {request next : Request} {label : Label} {n j : Nat} {payload : HttpFallbackPayload}
  {consumed : Consumed}

theorem Exclusive.of_set (h : s.Exclusive) (hk : s.requests[k]? = some request)
    (ht : t.requests = s.requests.set k next) (hm : t.mode = s.mode)
    (hn : next.mode = request.mode ∨ next.mode = .none) :
    t.Exclusive := by
  have hba (j : Nat) (other : Request) (ho : t.requests[j]? = some other)
      (hno : other.mode ≠ .none) :
      ∃ before, s.requests[j]? = some before ∧ before.mode = other.mode := by
    rw [ht] at ho
    rcases getElem?_set_cases ho with ⟨rfl, rfl⟩ | ⟨-, ho⟩
    · exact ⟨request, hk, (hn.resolve_right hno).symm⟩
    · exact ⟨other, ho, rfl⟩
  constructor
  · intro j other ho hno
    obtain ⟨before, hb, he⟩ := hba j other ho hno
    rw [hm, ← he]
    exact h.mode j before hb (he ▸ hno)
  · intro i j first second hi hj hf hs
    obtain ⟨before, hb, he⟩ := hba i first hi hf
    obtain ⟨after, ha, he'⟩ := hba j second hj hs
    exact h.unique i j before after hb ha (he ▸ hf) (he' ▸ hs)

theorem Exclusive.attach (h : s.Exclusive) (hm : s.mode = .none)
    (ht : t.requests = s.requests.set k next) (hn : next.mode = t.mode) : t.Exclusive := by
  have hon (j : Nat) (other : Request) (ho : t.requests[j]? = some other)
      (hno : other.mode ≠ .none) : j = k ∧ other = next := by
    rw [ht] at ho
    rcases getElem?_set_cases ho with ⟨rfl, rfl⟩ | ⟨-, ho⟩
    · exact ⟨rfl, rfl⟩
    · exact absurd ((h.mode j other ho hno).trans hm) hno
  constructor
  · intro j other ho hno
    rw [(hon j other ho hno).2, hn]
  · intro i j first second hi hj hf hs
    rw [(hon i first hi hf).1, (hon j second hj hs).1]

theorem Exclusive.leave (h : s.Exclusive) (hk : s.requests[k]? = some request)
    (ht : t.requests = s.requests.set k next) (hr : request.mode ≠ .none) (hn : next.mode = .none) :
    t.Exclusive := by
  have hnon (j : Nat) (other : Request) (ho : t.requests[j]? = some other) :
      other.mode = .none := by
    by_contra hno
    rw [ht] at ho
    rcases getElem?_set_cases ho with ⟨rfl, rfl⟩ | ⟨hne, ho⟩
    · exact hno hn
    · exact hne (h.unique j k other request ho hk hno hr)
  constructor
  · intro j other ho hno
    exact absurd (hnon j other ho) hno
  · intro i j first second hi _ hf _
    exact absurd (hnon i first hi) hf

theorem Exclusive.of_requests (h : s.Exclusive) (hm : t.mode = s.mode)
    (ht : t.requests = s.requests) : t.Exclusive :=
  ⟨by rw [ht, hm]; exact h.mode, by rw [ht]; exact h.unique⟩

theorem Exclusive.arrive (h : s.Exclusive) (ht : t.requests = s.requests ++ [next])
    (hm : t.mode = s.mode) (hn : next.mode = .none) :
    t.Exclusive := by
  have hba (j : Nat) (other : Request) (ho : t.requests[j]? = some other)
      (hno : other.mode ≠ .none) : s.requests[j]? = some other := by
    rw [ht] at ho
    rcases getElem?_append_singleton_cases ho with ho | ⟨-, rfl⟩
    · exact ho
    · exact absurd hn hno
  constructor
  · intro j other ho hno
    rw [hm]
    exact h.mode j other (hba j other ho hno) hno
  · intro i j first second hi hj hf hs
    exact h.unique i j first second (hba i first hi hf) (hba j second hj hs) hf hs

theorem Exclusive.stepPoll {phase : PollPhase} (h : s.Exclusive)
    (hk : s.requests[k]? = some (.poll phase)) : s.stepPoll k phase input = some t →
    t.Exclusive := by
  fun_cases s.stepPoll k phase input <;> intro ht <;> cases ht
  case case1 hm => exact h.attach hm rfl rfl
  case case2 => exact h.of_set hk rfl rfl (.inr rfl)
  case case11 => exact h.leave hk rfl (by simp [Request.mode]) rfl
  all_goals exact h.of_set hk rfl rfl (.inl rfl)

theorem Exclusive.stepStream {phase : StreamPhase} (h : s.Exclusive)
    (hk : s.requests[k]? = some (.stream phase)) : s.stepStream k phase input = some t →
    t.Exclusive := by
  fun_cases s.stepStream k phase input <;> intro ht <;> cases ht
  case case1 hm => exact h.attach hm rfl rfl
  case case2 => exact h.of_set hk rfl rfl (.inr rfl)
  all_goals
    refine h.of_set hk rfl rfl (.inl ?_)
    try split_ifs
    all_goals rfl

theorem Exclusive.step (h : s.Exclusive) (ht : step s label = some t) :
    t.Exclusive := by
  cases label with
  | poll | stream =>
    cases ht
    exact h.arrive rfl rfl rfl
  | request k input =>
    simp only [Fallback.step] at ht
    split at ht
    · next phase hk => exact h.stepPoll hk ht
    · next phase hk => exact h.stepStream hk ht
    · cases ht
  | _ =>
    obtain ⟨u, rfl⟩ := step_footprint _ ht
    exact h.of_requests rfl rfl

/-! Payloads are handed out in the order of their numbers. -/

def later (s : Transport) : List Nat :=
  s.channel.toList ++ s.sender.held.toList ++ [s.payloads.length]

structure Ordered (s : Transport) : Prop where
  later : s.later.Pairwise (· < ·)
  taken : ∀ request ∈ s.requests, ∀ n, request.taken = some n → ∀ m ∈ s.later, n < m
  handed : (s.handed.map Prod.fst).Pairwise (· < ·)
  handed_later : ∀ n ∈ s.handed.map Prod.fst, ∀ m ∈ s.later, n < m
  handed_taken : ∀ n ∈ s.handed.map Prod.fst, ∀ request ∈ s.requests, ∀ m,
    request.taken = some m → n < m

theorem Ordered.of_later (h : s.Ordered) (hr : t.requests = s.requests)
    (hh : t.handed = s.handed) (hl : t.later.Pairwise (· < ·))
    (hle : ∀ m ∈ t.later, ∃ n ∈ s.later, n ≤ m) : t.Ordered := by
  have hba {n : Nat} (hn : ∀ m ∈ s.later, n < m) : ∀ m ∈ t.later, n < m := by
    intro m hm
    obtain ⟨l, hl, hlm⟩ := hle m hm
    exact Nat.lt_of_lt_of_le (hn l hl) hlm
  refine ⟨hl, ?_, ?_, ?_, ?_⟩
  · rw [hr]
    exact fun request hm n hn => hba (h.taken request hm n hn)
  · rw [hh]
    exact h.handed
  · rw [hh]
    exact fun n hn => hba (h.handed_later n hn)
  · rw [hh, hr]
    exact h.handed_taken

theorem Ordered.of_set (h : s.Ordered) (ht : t.requests = s.requests.set k next)
    (hh : t.handed = s.handed) (hl : t.later = s.later) (hn : next.taken = none) :
    t.Ordered := by
  have hmem (request : Request) (hm : request ∈ t.requests) (n : Nat)
      (hr : request.taken = some n) : request ∈ s.requests := by
    rw [ht] at hm
    rcases mem_or_eq_of_mem_set hm with hm | rfl
    · exact hm
    · simp [hn] at hr
  refine ⟨hl ▸ h.later, ?_, hh ▸ h.handed, ?_, ?_⟩
  · rw [hl]
    exact fun request hm n hr => h.taken request (hmem request hm n hr) n hr
  · rw [hh, hl]
    exact h.handed_later
  · rw [hh]
    exact fun n hn request hm m hr => h.handed_taken n hn request (hmem request hm m hr) m hr

theorem Ordered.take (h : s.Ordered) (ht : t.requests = s.requests.set k next)
    (hh : t.handed = s.handed) (hl : s.later = n :: t.later) (hn : next.taken = some n) :
    t.Ordered := by
  have hso := h.later
  rw [hl, pairwise_cons] at hso
  have hla (m : Nat) (hm : m ∈ t.later) : m ∈ s.later := by
    rw [hl]
    exact mem_cons_of_mem n hm
  have hmem (request : Request) (hm : request ∈ t.requests) (m : Nat)
      (hr : request.taken = some m) : request ∈ s.requests ∨ m = n := by
    rw [ht] at hm
    rcases mem_or_eq_of_mem_set hm with hm | rfl
    · exact .inl hm
    · exact .inr (Option.some.inj (hr.symm.trans hn))
  refine ⟨hso.2, ?_, hh ▸ h.handed, ?_, ?_⟩
  · intro request hm m hr l hlm
    rcases hmem request hm m hr with hm | rfl
    · exact h.taken request hm m hr l (hla l hlm)
    · exact hso.1 l hlm
  · rw [hh]
    exact fun m hm l hlm => h.handed_later m hm l (hla l hlm)
  · rw [hh]
    intro l hlm request hm m hr
    rcases hmem request hm m hr with hm | rfl
    · exact h.handed_taken l hlm request hm m hr
    · exact h.handed_later l hlm m (by rw [hl]; exact mem_cons_self)

theorem Ordered.hand (h : s.Ordered) (hx : s.Exclusive) (hk : s.requests[k]? = some request)
    (hr : request.taken = some n) (ht : t.requests = s.requests.set k next)
    (hh : t.handed = s.handed ++ [(n, k)]) (hl : t.later = s.later) (hn : next.taken = none) :
    t.Ordered := by
  have hmem := mem_of_getElem? hk
  have hno (other : Request) (hm : other ∈ t.requests) : other.taken = none := by
    rw [ht] at hm
    obtain ⟨j, hj⟩ := mem_iff_getElem?.mp hm
    rcases getElem?_set_cases hj with ⟨rfl, rfl⟩ | ⟨hne, hj⟩
    · exact hn
    · by_contra ho
      obtain ⟨m, ho⟩ := Option.ne_none_iff_exists'.mp ho
      exact hne (hx.unique j k other request hj hk (Request.mode_ne_none_of_taken ho)
        (Request.mode_ne_none_of_taken hr))
  have hids : t.handed.map Prod.fst = s.handed.map Prod.fst ++ [n] := by simp [hh]
  refine ⟨hl ▸ h.later, ?_, ?_, ?_, ?_⟩
  · intro other hm m ho
    simp [hno other hm] at ho
  · rw [hids, pairwise_append]
    refine ⟨h.handed, by simp, ?_⟩
    intro m hm l hlm
    rw [mem_singleton.mp hlm]
    exact h.handed_taken m hm request hmem n hr
  · rw [hids, hl]
    exact forall_mem_concat h.handed_later (h.taken request hmem n hr)
  · intro _ _ other hm m ho
    simp [hno other hm] at ho

theorem settle_length (s : Transport) (n : Nat) (consumed : Consumed) :
    (s.settle n consumed).length = s.payloads.length := by
  simp [settle]

theorem Ordered.stepPoll {phase : PollPhase} (h : s.Ordered) (hx : s.Exclusive)
    (hk : s.requests[k]? = some (.poll phase)) : s.stepPoll k phase input = some t → t.Ordered := by
  fun_cases s.stepPoll k phase input <;> intro ht <;> cases ht
  case case3 n hc => exact h.take rfl rfl (by simp [Transport.later, hc, setPoll]) rfl
  case case8 | case9 => exact h.hand hx hk rfl rfl rfl rfl rfl
  case case10 => exact h.of_set rfl rfl (by simp [Transport.later, settle_length, setPoll]) rfl
  all_goals exact h.of_set rfl rfl rfl rfl

theorem Ordered.stepStream {phase : StreamPhase} (h : s.Ordered) (hx : s.Exclusive)
    (hk : s.requests[k]? = some (.stream phase)) : s.stepStream k phase input = some t →
    t.Ordered := by
  fun_cases s.stepStream k phase input <;> intro ht <;> cases ht
  case case5 n hc => exact h.take rfl rfl (by simp [Transport.later, hc, setStream]) rfl
  case case10 | case11 => exact h.hand hx hk rfl rfl rfl rfl rfl
  case case12 last =>
    refine h.of_set rfl rfl (by simp [Transport.later, settle_length, setStream]) ?_
    cases last <;> rfl
  all_goals exact h.of_set rfl rfl rfl rfl

theorem Ordered.of_sublist (h : s.Ordered) (hr : t.requests = s.requests)
    (hh : t.handed = s.handed) (hl : t.later.Sublist s.later) : t.Ordered :=
  h.of_later hr hh (h.later.sublist hl) (fun m hm => ⟨m, hl.subset hm, Nat.le_refl m⟩)

theorem Ordered.stepSender (h : s.Ordered) : s.stepSender input = some t → t.Ordered := by
  fun_cases s.stepSender input <;> intro ht <;> cases ht
  case case3 payload hp =>
    have hs : s.later = s.channel.toList ++ [s.payloads.length] := by
      simp [Transport.later, hp, SendPhase.held]
    refine h.of_later rfl rfl ?_ ?_
    · have hso := h.later
      rw [hs, pairwise_append] at hso
      simp only [Transport.later, SendPhase.held, Option.toList_some, length_append,
        length_singleton, append_assoc, pairwise_append]
      refine ⟨hso.1, by simp, ?_⟩
      intro n hn m hm
      have hlt := hso.2.2 n hn s.payloads.length (by simp)
      simp only [singleton_append, mem_cons, not_mem_nil, or_false] at hm
      omega
    · rw [hs]
      intro m hm
      simp only [Transport.later, SendPhase.held, Option.toList_some, length_append,
        length_singleton, mem_append, mem_singleton] at hm
      rcases hm with (hm | hm) | hm
      · exact ⟨m, mem_append_left _ hm, Nat.le_refl m⟩
      · exact ⟨s.payloads.length, by simp, by omega⟩
      · exact ⟨s.payloads.length, by simp, by omega⟩
  all_goals
    refine h.of_sublist rfl rfl ?_
    try split_ifs
    all_goals simp [Transport.later, settle_length, SendPhase.held, *]

theorem Ordered.stepCloser (h : s.Ordered) : s.stepCloser k = some t → t.Ordered := by
  fun_cases s.stepCloser k <;> intro ht <;> cases ht
  case case5 n _ => exact h.of_sublist rfl rfl (by simp [Transport.later, settle_length])
  all_goals exact h.of_sublist rfl rfl (Sublist.refl _)

theorem Ordered.arrive (h : s.Ordered) (hn : next.taken = none) :
    Ordered { s with requests := s.requests ++ [next] } := by
  have hmem (request : Request) (hm : request ∈ s.requests ++ [next]) (n : Nat)
      (hr : request.taken = some n) : request ∈ s.requests := by
    rcases mem_append.mp hm with hm | hm
    · exact hm
    · rw [mem_singleton.mp hm, hn] at hr
      cases hr
  exact ⟨h.later, fun request hm n hr => h.taken request (hmem request hm n hr) n hr, h.handed,
    h.handed_later,
    fun n hn request hm m hr => h.handed_taken n hn request (hmem request hm m hr) m hr⟩

theorem Ordered.step (h : s.Ordered) (hx : s.Exclusive) (ht : step s label = some t) :
    t.Ordered := by
  cases label with
  | poll | stream =>
    cases ht
    exact h.arrive rfl
  | request k input =>
    simp only [Fallback.step] at ht
    split at ht
    · next phase hk => exact h.stepPoll hx hk ht
    · next phase hk => exact h.stepStream hx hk ht
    · cases ht
  | send payload =>
    simp only [Fallback.step] at ht
    split at ht <;> cases ht
    next hp => exact h.of_sublist rfl rfl (by simp [Transport.later, SendPhase.held, hp])
  | sender input => exact h.stepSender ht
  | closer k => exact h.stepCloser ht
  | close | cancelPendingSend =>
    cases ht
    exact h.of_sublist rfl rfl (Sublist.refl _)

/-! A payload is put into the channel when the ones before it are settled. -/

structure Settled (s : Transport) : Prop where
  before : ∀ n ∈ s.put.dropLast, s.consumedOf n ≠ .pending
  fresh : s.sender.isFresh = true → ∀ n ∈ s.put, s.consumedOf n ≠ .pending
  waiting : ∀ n, s.sender = .waiting n → s.put.getLast? = some n

def Extends (s t : Transport) : Prop := ∀ n, s.consumedOf n ≠ .pending → t.consumedOf n ≠ .pending

theorem Extends.of_payloads (h : t.payloads = s.payloads) : s.Extends t := by
  intro n hn
  simpa only [consumedOf, h] using hn

theorem trySet_ne_pending (h : payload.consumed ≠ .pending) :
    (payload.trySet consumed).consumed ≠ .pending := by
  rw [HttpFallbackPayload.trySet, if_neg h]
  exact h

theorem Extends.of_settle {m : Nat} (h : t.payloads = s.settle m consumed) :
    s.Extends t := by
  intro n hn
  simp only [consumedOf, h, settle, getElem?_modify] at hn ⊢
  rcases hp : s.payloads[n]? with _ | payload
  · simp [hp] at hn
  · simp only [hp] at hn
    simp only [Option.map_eq_map, Option.map_some]
    split_ifs
    · exact trySet_ne_pending hn
    · exact hn

theorem Extends.of_append (h : t.payloads = s.payloads ++ [payload]) : s.Extends t := by
  intro n hn
  simp only [consumedOf, h] at hn ⊢
  rcases hp : s.payloads[n]? with _ | found
  · simp [hp] at hn
  · rw [getElem?_append_left (List.getElem?_eq_some_iff.mp hp).1, hp]
    simpa only [hp] using hn

theorem Settled.of_extends (h : s.Settled) (he : s.Extends t) (hp : t.put = s.put)
    (hf : t.sender.isFresh = true → s.sender.isFresh = true)
    (hw : ∀ n, t.sender = .waiting n → s.sender = .waiting n) : t.Settled := by
  refine ⟨?_, ?_, ?_⟩
  · rw [hp]
    exact fun n hn => he n (h.before n hn)
  · rw [hp]
    exact fun hfr n hn => he n (h.fresh (hf hfr) n hn)
  · rw [hp]
    exact fun n hn => h.waiting n (hw n hn)

theorem Settled.stepSender (h : s.Settled) : s.stepSender input = some t → t.Settled := by
  fun_cases s.stepSender input <;> intro ht <;> cases ht
  case case3 hp =>
    exact h.of_extends (.of_append rfl) rfl (fun _ => by rw [hp]; rfl) nofun
  case case5 hp =>
    exact h.of_extends (.of_settle rfl) rfl (fun _ => by rw [hp]; rfl) nofun
  case case7 n hp _ _ =>
    have hfr := h.fresh (by rw [hp]; rfl)
    refine ⟨?_, nofun, ?_⟩
    · rw [dropLast_concat]
      exact hfr
    · intro m hm
      cases hm
      simp
  -- The payload that was waited for is completed, and it is the last one.
  case case11 n hp hc =>
    refine ⟨h.before, fun _ => ?_, nofun⟩
    have hla := h.waiting n hp
    intro m hm
    rw [← dropLast_append_getLast? n hla] at hm
    rcases mem_append.mp hm with hm | hm
    · exact h.before m hm
    · rw [mem_singleton.mp hm]
      change s.consumedOf n ≠ .pending
      simp [hc]
  all_goals
    refine h.of_extends (.of_payloads rfl) rfl ?_ ?_
    all_goals try split_ifs
    all_goals simp_all [SendPhase.isFresh]

theorem Settled.of_same (h : s.Settled) (he : s.Extends t) (hp : t.put = s.put)
    (hs : t.sender = s.sender) : t.Settled :=
  h.of_extends he hp (fun hf => hs ▸ hf) (fun _ hn => hs ▸ hn)

/-- What the steps that are not of the sender leave alone. -/
theorem step_elsewhere (ht : step s label = some t) (hsen : ∀ payload, label ≠ .send payload)
    (hse : ∀ input, label ≠ .sender input) :
    t.sender = s.sender ∧ t.put = s.put ∧ s.Extends t := by
  cases label with
  | send payload => exact absurd rfl (hsen payload)
  | sender input => exact absurd rfl (hse input)
  | request k input =>
    simp only [Fallback.step] at ht
    split at ht
    · next phase hk =>
      revert ht
      fun_cases s.stepPoll k phase input <;> intro ht <;> cases ht
      case case10 => exact ⟨rfl, rfl, .of_settle rfl⟩
      all_goals exact ⟨rfl, rfl, .of_payloads rfl⟩
    · next phase hk =>
      revert ht
      fun_cases s.stepStream k phase input <;> intro ht <;> cases ht
      case case12 => exact ⟨rfl, rfl, .of_settle rfl⟩
      all_goals exact ⟨rfl, rfl, .of_payloads rfl⟩
    · cases ht
  | closer k =>
    simp only [Fallback.step] at ht
    revert ht
    fun_cases s.stepCloser k <;> intro ht <;> cases ht
    case closer.case5.refl => exact ⟨rfl, rfl, .of_settle rfl⟩
    all_goals exact ⟨rfl, rfl, .of_payloads rfl⟩
  | _ =>
    obtain ⟨u, rfl⟩ := step_footprint _ ht
    exact ⟨rfl, rfl, .of_payloads rfl⟩

theorem Settled.step (h : s.Settled) (ht : step s label = some t) :
    t.Settled := by
  cases label with
  | sender input => exact h.stepSender ht
  | send payload =>
    simp only [Fallback.step] at ht
    split at ht <;> cases ht
    next hp => exact h.of_extends (.of_payloads rfl) rfl (fun _ => by rw [hp]; rfl) nofun
  | _ =>
    obtain ⟨hs, hp, he⟩ := step_elsewhere ht nofun nofun
    exact h.of_same he hp hs

/-! Who is let in. -/

def Admitted (s : Transport) (k : Nat) : Prop :=
  ∃ request, s.requests[k]? = some request ∧ request.isAdmitted = true

theorem stepPoll_of_stream {phase : PollPhase} (hm : s.mode = .stream) :
    s.stepPoll k phase input = some t →
      t.mode = .stream ∧ ∃ next, t.requests = s.requests.set k next ∧
      (next.isAdmitted = true → (Request.poll phase).isAdmitted = true) := by
  fun_cases s.stepPoll k phase input <;> intro ht <;> cases ht
  case case1 hn => simp [hm] at hn
  case case11 => exact ⟨by simp [hm], _, rfl, fun _ => rfl⟩
  all_goals exact ⟨hm, _, rfl, by simp [Request.isAdmitted]⟩

theorem stepStream_of_stream {phase : StreamPhase} (hm : s.mode = .stream) :
    s.stepStream k phase input = some t →
      t.mode = .stream ∧ ∃ next, t.requests = s.requests.set k next ∧
      (next.isAdmitted = true → (Request.stream phase).isAdmitted = true) := by
  fun_cases s.stepStream k phase input <;> intro ht <;> cases ht
  case case1 hn => simp [hm] at hn
  all_goals exact ⟨hm, _, rfl, by simp [Request.isAdmitted]⟩

theorem admitted_of_set (hk : s.requests[k]? = some request)
    (hr : t.requests = s.requests.set k next)
    (hn : next.isAdmitted = true → request.isAdmitted = true) (h : t.Admitted j) :
    s.Admitted j := by
  obtain ⟨other, ho, hadm⟩ := h
  rw [hr] at ho
  rcases getElem?_set_cases ho with ⟨rfl, rfl⟩ | ⟨-, ho⟩
  · exact ⟨request, hk, hn hadm⟩
  · exact ⟨other, ho, hadm⟩

theorem admitted_of_step (hm : s.mode = .stream) (ht : step s label = some t) :
    t.mode = .stream ∧ ∀ j, t.Admitted j → s.Admitted j := by
  have hsa (hr : t.requests = s.requests) (j : Nat) : t.Admitted j → s.Admitted j := by
    unfold Admitted
    rw [hr]
    exact id
  cases label with
  | poll | stream =>
    cases ht
    refine ⟨hm, ?_⟩
    rintro j ⟨other, ho, hadm⟩
    rcases getElem?_append_singleton_cases ho with ho | ⟨-, rfl⟩
    · exact ⟨other, ho, hadm⟩
    · cases hadm
  | request k input =>
    simp only [Fallback.step] at ht
    split at ht
    · next phase hk =>
      obtain ⟨hmo, next, hr, hn⟩ := stepPoll_of_stream hm ht
      exact ⟨hmo, fun j => admitted_of_set hk hr hn⟩
    · next phase hk =>
      obtain ⟨hmo, next, hr, hn⟩ := stepStream_of_stream hm ht
      exact ⟨hmo, fun j => admitted_of_set hk hr hn⟩
    · cases ht
  | _ =>
    obtain ⟨u, rfl⟩ := step_footprint _ ht
    exact ⟨hm, hsa rfl⟩

theorem admitted_of_run {later : List Label} (hm : s.mode = .stream)
    (ht : Fallback.step.run s later = some t) (hj : t.Admitted j) : s.Admitted j := by
  have hrun : t.mode = .stream ∧ ∀ j, t.Admitted j → s.Admitted j :=
    StepFn.run_induct (P := fun t => t.mode = .stream ∧ ∀ j, t.Admitted j → s.Admitted j)
      (fun _ _ _ hs hst =>
        have hne := admitted_of_step hs.1 hst
        ⟨hne.1, fun j hadm => hs.2 j (hne.2 j hadm)⟩)
      ⟨hm, fun _ => id⟩ ht
  exact hrun.2 j hj

end Transport

structure Transport.Delivers (s : Transport) : Prop where
  exclusive : s.Exclusive
  ordered : s.Ordered
  settled : s.Settled

theorem Transport.Delivers.step {s t : Transport} {label : Label} (h : s.Delivers)
    (ht : step s label = some t) : t.Delivers :=
  ⟨h.exclusive.step ht, h.ordered.step h.exclusive ht, h.settled.step ht⟩

theorem Transport.Delivers.called {s : Transport} {closers : List CloserPhase} (h : s.Delivers) :
    Delivers { s with closers := closers } :=
  ⟨h.exclusive.of_requests rfl rfl, h.ordered.of_sublist rfl rfl (Sublist.refl _),
    h.settled.of_same (.of_payloads rfl) rfl rfl⟩

theorem delivers_initial : Transport.Delivers {} := by
  refine ⟨⟨by simp, by simp⟩, ⟨?_, by simp, by simp, by simp, by simp⟩, ⟨by simp, by simp, nofun⟩⟩
  simp [Transport.later, SendPhase.held]

theorem delivers_of_run {labels : List Label} {s : Transport} (h : step.run {} labels = some s) :
    s.Delivers :=
  StepFn.run_induct (fun _ _ _ hs ht => hs.step ht) delivers_initial h

theorem fallback_delivery {labels : List Label} {s : Transport}
    (h : step.run {} labels = some s) :
    (∀ (i j : Nat) (request other : Request), s.requests[i]? = some request →
      s.requests[j]? = some other → request.reads = true → other.reads = true → i = j) ∧
    (s.mode = .stream → ∀ (later : List Label) (t : Transport), step.run s later = some t →
      ∀ k, t.Admitted k → s.Admitted k) ∧
    (s.handed.map Prod.fst).Nodup ∧
    (s.handed.map Prod.fst).Pairwise (· < ·) ∧
    (∀ n ∈ s.put.dropLast, s.consumedOf n ≠ .pending) := by
  obtain ⟨hx, ho, hs⟩ := delivers_of_run h
  refine ⟨?_, ?_, ?_, ho.handed, hs.before⟩
  · intro i j request other hi hj hr hr'
    exact hx.unique i j request other hi hj (Request.mode_ne_none_of_reads hr)
      (Request.mode_ne_none_of_reads hr')
  · intro hm later t ht k
    exact Transport.admitted_of_run hm ht
  · exact ho.handed.imp Nat.ne_of_lt

def exampleLabels : List Label :=
  [[.poll, .request 0 .ok, .send [1]], List.replicate 5 (.sender .ok),
    List.replicate 4 (.request 0 .ok), List.replicate 2 (.sender .ok),
    [.stream], List.replicate 2 (.request 1 .ok), [.send [2]], List.replicate 5 (.sender .ok),
    List.replicate 2 (.request 1 .ok), [.poll, .request 2 .ok]].flatten

theorem fallback_delivery_example : ∃ s, step.run {} exampleLabels = some s ∧
    s.handed = [(0, 0), (1, 1)] ∧ s.requests[2]? = some (.poll .refused) ∧
    (s.handed.map Prod.fst).Pairwise (· < ·) := by
  have hrun : ∃ s, step.run {} exampleLabels = some s ∧ s.handed = [(0, 0), (1, 1)] ∧
      s.requests[2]? = some (.poll .refused) := by
    decide +kernel
  obtain ⟨s, hs, hha, hre⟩ := hrun
  exact ⟨s, hs, hha, hre, (fallback_delivery hs).2.2.2.1⟩

end Realtime.Fallback
