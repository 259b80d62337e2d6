import Realtime.Fallback.Transport

/-! Closing a connection of the HTTP fallback: `RequestCloseAsync` cancels the pending send and then
waits for the send lock. Once `CancelPendingSend` has returned, no call of `SendAsync` waits for a
reader: a call whose second look at the flag came too early has published its payload before, so
that one of the calls of `CancelPendingSend` has taken the payload and cancels it. -/

namespace Realtime.Fallback

open List

deriving instance DecidableEq for CloserPhase

/-- The sender holds the send lock from before a call of `SendAsync` until the call has ended. -/
def SendPhase.holdsLock : SendPhase → Bool
  | idle | ended => false
  | _ => true

def SendPhase.published : SendPhase → Option Nat
  | rechecking n | cancelling n | writing n | waiting n => some n
  | _ => none

/-- The sender waits for the payload in the channel, or has left it there. -/
def SendPhase.leaves (n : Nat) : SendPhase → Bool
  | waiting m | clearing m true => m == n
  | ended => true
  | _ => false

/-- A bound for the steps of the sender when the pending send is cancelled; an idle sender can
start one more call, which is refused. -/
def SendPhase.rank : SendPhase → Nat
  | ended => 0
  | checking _ => 1
  | idle | opening _ => 2
  | clearing _ _ => 3
  | waiting _ => 4
  | writing _ => 5
  | cancelling _ => 6
  | rechecking _ => 7
  | publishing _ => 8

def Request.completes : Request → Option Nat
  | poll (.completing n) | stream (.completing n _) => some n
  | _ => none

def CloserPhase.isCancelling : CloserPhase → Bool
  | cancelling _ => true
  | _ => false

def Label.isSender : Label → Bool
  | sender _ => true
  | _ => false

/-- A step of the sender or of a call of `Close` or `CancelPendingSend`. -/
def Label.drains : Label → Bool
  | sender .ok | closer _ => true
  | _ => false

/-- `RequestCloseAsync`: its call of `CancelPendingSend`, the wait for the send lock, and its call
of `Close` under the lock. -/
inductive RequestPhase where
  | idle
  | cancelling (k : Nat)
  | waiting
  | closing (k : Nat)
  | finished

/-- A transport with the request to close that has passed the exchange of `_closeRequested`. -/
structure Closing where
  transport : Transport := {}
  request : RequestPhase := .idle

inductive ClosingLabel where
  | transport (label : Label)
  | request
  | cancelRequest

def RequestPhase.holdsLock : RequestPhase → Bool
  | closing _ => true
  | _ => false

def Transport.call (s : Transport) (phase : CloserPhase) : Transport :=
  { s with closers := s.closers ++ [phase] }

def closeStep : StepFn Closing ClosingLabel := fun s label =>
  match label, s.request with
  | .transport (.send payload), request =>
    if request.holdsLock then none
    else (step s.transport (.send payload)).map ({ s with transport := · })
  | .transport label, _ => (step s.transport label).map ({ s with transport := · })
  | .request, .idle =>
    some ⟨s.transport.call .flagging, .cancelling s.transport.closers.length⟩
  | .request, .cancelling k =>
    if s.transport.closers[k]? = some .finished then some { s with request := .waiting } else none
  | .request, .waiting =>
    if s.transport.sender.holdsLock then none
    else some ⟨s.transport.call .closing, .closing s.transport.closers.length⟩
  | .request, .closing k =>
    if s.transport.closers[k]? = some .finished then some { s with request := .finished } else none
  -- The token of the request: `_closeRequested` is reset.
  | .cancelRequest, .waiting => some { s with request := .idle }
  | _, _ => none

namespace Transport

variable {s t : Transport} {k n m : Nat} {input : WaitOutcome} {label : Label}
  {consumed : Consumed}

/-! Payloads and the sender. -/

structure Linked (s : Transport) : Prop where
  completing : ∀ request ∈ s.requests, ∀ n, request.completes = some n →
    n ∈ s.handed.map Prod.fst
  completed : ∀ n, s.consumedOf n = .completed → n ∈ s.handed.map Prod.fst
  published : ∀ n, s.sender.published = some n → n < s.payloads.length ∧
    (s.consumedOf n = .pending → s.pending = some n ∨ .cancelling n ∈ s.closers)
  channel : ∀ n, s.channel = some n → s.sender.leaves n = true

theorem consumedOf_settle (h : t.payloads = s.settle m consumed) :
    t.consumedOf n = s.consumedOf n ∨ n = m ∧ t.consumedOf n = consumed := by
  simp only [consumedOf, h, settle, getElem?_modify]
  cases hp : s.payloads[n]? with
  | none => exact .inl rfl
  | some payload =>
    by_cases hm : m = n
    · simp only [hm, if_true, Option.map_eq_map, Option.map_some, HttpFallbackPayload.trySet]
      split
      · exact .inr ⟨trivial, rfl⟩
      · exact .inl rfl
    · simp [hm]

theorem consumedOf_settle_self (h : t.payloads = s.settle n consumed)
    (hn : n < s.payloads.length) (hc : consumed ≠ .pending) : t.consumedOf n ≠ .pending := by
  simp only [consumedOf, h, settle, getElem?_modify, if_true, getElem?_eq_getElem hn,
    Option.map_eq_map, Option.map_some, HttpFallbackPayload.trySet]
  split
  · exact hc
  · assumption

theorem Linked.of_sender (h : s.Linked) (hr : t.requests = s.requests) (hh : t.handed = s.handed)
    (hc : ∀ n, t.consumedOf n = .completed → s.consumedOf n = .completed)
    (hp : ∀ n, t.sender.published = some n → n < t.payloads.length ∧
      (t.consumedOf n = .pending → t.pending = some n ∨ .cancelling n ∈ t.closers))
    (hch : ∀ n, t.channel = some n → t.sender.leaves n = true) : t.Linked where
  completing := by
    rw [hr, hh]
    exact h.completing
  completed n hn := by
    rw [hh]
    exact h.completed n (hc n hn)
  published := hp
  channel := hch

theorem Linked.of_moved (h : s.Linked) (hr : t.requests = s.requests) (hh : t.handed = s.handed)
    (hp : t.payloads = s.payloads) (hpe : t.pending = s.pending)
    (hcl : ∀ n, .cancelling n ∈ s.closers → .cancelling n ∈ t.closers)
    (hpu : ∀ n, t.sender.published = some n → s.sender.published = some n)
    (hch : ∀ n, t.channel = some n → t.sender.leaves n = true) : t.Linked := by
  have hc : ∀ n, t.consumedOf n = s.consumedOf n := fun n => by rw [consumedOf, hp, consumedOf]
  refine h.of_sender hr hh (fun n hn => (hc n).symm.trans hn) ?_ hch
  intro n hn
  obtain ⟨hlt, hpen⟩ := h.published n (hpu n hn)
  rw [hp, hc, hpe]
  exact ⟨hlt, fun hco => (hpen hco).imp_right (hcl n)⟩

theorem Linked.channel_free (h : s.Linked) {phase : SendPhase} (hs : s.sender = phase)
    (hp : ∀ n, phase.leaves n = false) {P : Prop} (hn : s.channel = some n) : P := by
  have hle := h.channel n hn
  rw [hs, hp] at hle
  cases hle

theorem Linked.stepSender (h : s.Linked) (ho : s.Ordered) : s.stepSender input = some t →
    t.Linked := by
  fun_cases s.stepSender input <;> intro ht <;> cases ht
  case case3 payload hs =>
    refine h.of_sender rfl rfl ?_ ?_ (fun _ => h.channel_free hs (fun _ => rfl))
    · intro n hn
      simp only [consumedOf, getElem?_append] at hn ⊢
      split_ifs at hn
      · exact hn
      · cases hone : [HttpFallbackPayload.mk payload .pending][n - s.payloads.length]? with
        | none => simp [hone] at hn
        | some other =>
          rw [hone, mem_singleton.mp (mem_of_getElem? hone)] at hn
          cases hn
    · intro n hn
      cases hn
      exact ⟨by simp, fun _ => .inl rfl⟩
  case case5 n hs =>
    refine h.of_sender rfl rfl ?_ ?_ (fun _ => h.channel_free hs (fun _ => rfl))
    · intro m hm
      rcases consumedOf_settle (t := { s with payloads := s.settle n .cancelled }) rfl with he | he
      · exact he.symm.trans hm
      · cases he.2.symm.trans hm
    · intro m hm
      cases hm
      have hlt := (h.published n (by rw [hs]; rfl)).1
      refine ⟨by rwa [settle_length], fun hpe => ?_⟩
      exact absurd hpe (consumedOf_settle_self rfl hlt (by rintro ⟨⟩))
  case case7 n hs _ _ =>
    refine h.of_sender rfl rfl (fun _ => id) ?_ ?_
    · intro m hm
      cases hm
      exact h.published n (by rw [hs]; rfl)
    · rintro m ⟨⟩
      exact beq_self_eq_true n
  case case11 n hs hc =>
    -- A completed payload was handed to a request, so that it has left the channel.
    refine h.of_moved rfl rfl rfl rfl (fun _ => id) (by rintro _ ⟨⟩) ?_
    intro m hm
    have hle := h.channel m hm
    rw [hs] at hle
    obtain rfl := beq_iff_eq.mp hle
    have hmem : n ∈ s.later := by simp [Transport.later, show s.channel = some n from hm]
    exact absurd (ho.handed_later n (h.completed n hc) n hmem) (Nat.lt_irrefl n)
  case case12 n hs _ | case13 n hs =>
    refine h.of_moved rfl rfl rfl rfl (fun _ => id) (by rintro _ ⟨⟩) ?_
    intro m hm
    have hle := h.channel m hm
    rwa [hs] at hle
  case case14 n threw hs =>
    refine h.of_sender rfl rfl (fun _ => id) (by cases threw <;> rintro _ ⟨⟩) ?_
    intro m hm
    have hle := h.channel m hm
    rw [hs] at hle
    cases threw
    · cases hle
    · rfl
  all_goals
    refine h.of_moved rfl rfl rfl rfl (fun _ => id) ?_
      (fun _ => h.channel_free ‹_› (fun _ => rfl))
    intro m hm
    try split_ifs at hm
    all_goals simp_all [SendPhase.published]

theorem Linked.of_reader (h : s.Linked) {next : Request} (hr : t.requests = s.requests.set k next)
    (hs : t.sender = s.sender) (hpe : t.pending = s.pending) (hcl : t.closers = s.closers)
    (hc : t.channel = s.channel ∨ t.channel = none)
    (hh : s.handed <+: t.handed)
    (hn : ∀ n, next.completes = some n → n ∈ t.handed.map Prod.fst)
    (hp : t.payloads = s.payloads ∨
      ∃ m ∈ s.handed.map Prod.fst, t.payloads = s.settle m .completed) : t.Linked where
  completing request hm n hcom := by
    rw [hr] at hm
    rcases mem_or_eq_of_mem_set hm with hm | rfl
    · exact (hh.map _).subset (h.completing request hm n hcom)
    · exact hn n hcom
  completed n hco := by
    rcases hp with hp | ⟨m, hm, hp⟩
    · rw [consumedOf, hp] at hco
      exact (hh.map _).subset (h.completed n hco)
    · rcases consumedOf_settle (n := n) hp with he | ⟨rfl, -⟩
      · exact (hh.map _).subset (h.completed n (he.symm.trans hco))
      · exact (hh.map _).subset hm
  published n hpu := by
    obtain ⟨hlt, hpen⟩ := h.published n (hs ▸ hpu)
    rw [hpe, hcl]
    rcases hp with hp | ⟨m, -, hp⟩
    · rw [consumedOf, hp]
      exact ⟨hlt, hpen⟩
    · rw [hp, settle_length]
      refine ⟨hlt, fun hn => hpen ?_⟩
      by_contra hne
      exact Extends.of_settle hp n hne hn
  channel n hch := by
    rcases hc with hc | hc <;> rw [hc] at hch
    · rw [hs]
      exact h.channel n hch
    · cases hch

theorem Linked.stepPoll {phase : PollPhase} (h : s.Linked)
    (hk : s.requests[k]? = some (.poll phase)) : s.stepPoll k phase input = some t → t.Linked := by
  have hmem := mem_of_getElem? hk
  fun_cases s.stepPoll k phase input <;> intro ht <;> cases ht
  case case3 => exact h.of_reader rfl rfl rfl rfl (.inr rfl) prefix_rfl (by rintro _ ⟨⟩) (.inl rfl)
  case case8 n | case9 n =>
    refine h.of_reader rfl rfl rfl rfl (.inl rfl) (prefix_append _ _) ?_ (.inl rfl)
    rintro m ⟨⟩
    simp
  case case10 n =>
    exact h.of_reader rfl rfl rfl rfl (.inl rfl) prefix_rfl (by rintro _ ⟨⟩)
      (.inr ⟨n, h.completing _ hmem n rfl, rfl⟩)
  all_goals exact h.of_reader rfl rfl rfl rfl (.inl rfl) prefix_rfl (by rintro _ ⟨⟩) (.inl rfl)

theorem Linked.stepStream {phase : StreamPhase} (h : s.Linked)
    (hk : s.requests[k]? = some (.stream phase)) : s.stepStream k phase input = some t →
    t.Linked := by
  have hmem := mem_of_getElem? hk
  fun_cases s.stepStream k phase input <;> intro ht <;> cases ht
  case case5 => exact h.of_reader rfl rfl rfl rfl (.inr rfl) prefix_rfl (by rintro _ ⟨⟩) (.inl rfl)
  case case10 n | case11 n =>
    refine h.of_reader rfl rfl rfl rfl (.inl rfl) (prefix_append _ _) ?_ (.inl rfl)
    rintro m ⟨⟩
    simp
  case case12 n last =>
    refine h.of_reader rfl rfl rfl rfl (.inl rfl) prefix_rfl ?_
      (.inr ⟨n, h.completing _ hmem n rfl, rfl⟩)
    cases last <;> rintro _ ⟨⟩
  all_goals exact h.of_reader rfl rfl rfl rfl (.inl rfl) prefix_rfl (by rintro _ ⟨⟩) (.inl rfl)

theorem mem_set_of_ne {phases : List CloserPhase} {phase other next : CloserPhase}
    (hk : phases[k]? = some other) (hne : phase ≠ other) (hm : phase ∈ phases) :
    phase ∈ phases.set k next := by
  obtain ⟨j, hj⟩ := mem_iff_getElem?.mp hm
  have hkj : k ≠ j := by
    rintro rfl
    exact hne (Option.some.inj (hj.symm.trans hk))
  exact mem_of_getElem? ((getElem?_set_ne hkj).trans hj)

theorem Linked.stepCloser (h : s.Linked) : s.stepCloser k = some t → t.Linked := by
  fun_cases s.stepCloser k <;> intro ht <;> cases ht
  case case4 hk =>
    -- The exchange: the published payload is in the hands of this call now.
    refine h.of_sender rfl rfl (fun _ => id) ?_ h.channel
    intro n hn
    obtain ⟨hlt, hpe⟩ := h.published n hn
    refine ⟨hlt, fun hc => .inr ?_⟩
    rcases hpe hc with hp | hm
    · have hin : k < s.closers.length := (List.getElem?_eq_some_iff.mp hk).1
      simp [hp, mem_set hin]
    · exact mem_set_of_ne hk (by rintro ⟨⟩) hm
  case case5 m hk =>
    refine h.of_sender rfl rfl ?_ ?_ h.channel
    · intro n hn
      rcases consumedOf_settle (t := { s with payloads := s.settle m .cancelled }) rfl
        with he | he
      · exact he.symm.trans hn
      · cases he.2.symm.trans hn
    · intro n hn
      obtain ⟨hlt, hpe⟩ := h.published n hn
      refine ⟨by simpa [settle_length] using hlt, fun hc => ?_⟩
      have hnm : n ≠ m := by
        rintro rfl
        exact consumedOf_settle_self rfl hlt (by rintro ⟨⟩) hc
      have hba : s.consumedOf n = .pending := by
        by_contra hne
        exact Extends.of_settle (t := { s with payloads := s.settle m .cancelled }) rfl n hne hc
      refine (hpe hba).imp_right (mem_set_of_ne hk ?_)
      simpa using hnm
  all_goals
    exact h.of_moved rfl rfl rfl rfl (fun _ => mem_set_of_ne ‹_› (by rintro ⟨⟩)) (fun _ => id)
      h.channel

theorem Linked.step (h : s.Linked) (ho : s.Ordered) (ht : step s label = some t) : t.Linked := by
  cases label with
  | sender input => exact h.stepSender ho ht
  | request k input =>
    simp only [Fallback.step] at ht
    split at ht
    · next phase hk => exact h.stepPoll hk ht
    · next phase hk => exact h.stepStream hk ht
    · cases ht
  | closer k => exact h.stepCloser ht
  | send payload =>
    simp only [Fallback.step] at ht
    split at ht <;> cases ht
    next hs =>
      exact h.of_moved rfl rfl rfl rfl (fun _ => id) (by rintro _ ⟨⟩)
        (fun _ => h.channel_free hs (fun _ => rfl))
  | poll | stream =>
    cases ht
    refine { h with completing := ?_ }
    refine forall_mem_concat h.completing ?_
    rintro _ ⟨⟩
  | close | cancelPendingSend =>
    cases ht
    exact h.of_moved rfl rfl rfl rfl (fun _ => mem_append_left _) (fun _ => id) h.channel

/-! Once the pending send is cancelled. -/

structure Freed (s : Transport) : Prop where
  flag : s.pendingSendCancelled = true
  taken : ∀ n, s.sender = .writing n ∨ s.sender = .waiting n → s.consumedOf n = .pending →
    s.pending ≠ some n

theorem Freed.stepSender (h : s.Freed) (hl : s.Linked) : s.stepSender input = some t →
    t.Freed ∧ t.sender.rank < s.sender.rank := by
  have hfl := h.flag
  fun_cases s.stepSender input <;> intro ht <;> cases ht
  case case5 n hs =>
    refine ⟨⟨hfl, ?_⟩, by simp [SendPhase.rank, hs]⟩
    rintro m (⟨⟨⟩⟩ | ⟨⟨⟩⟩) hpe
    exact absurd hpe
      (consumedOf_settle_self rfl (hl.published n (by rw [hs]; rfl)).1 (by rintro ⟨⟩))
  case case7 n hs _ _ =>
    refine ⟨⟨hfl, ?_⟩, by simp [SendPhase.rank, hs]⟩
    rintro m (⟨⟨⟩⟩ | ⟨⟨⟩⟩)
    exact h.taken n (.inl hs)
  all_goals
    refine ⟨⟨hfl, ?_⟩, ?_⟩
    · rintro m (hm | hm) <;> try split_ifs at hm
      all_goals cases hm
    · simp only [SendPhase.rank, *]
      try split_ifs
      all_goals simp_all

theorem step_flag (ht : step s label = some t) (hf : s.pendingSendCancelled = true) :
    t.pendingSendCancelled = true := by
  cases label with
  | closer k =>
    simp only [Fallback.step] at ht
    revert ht
    fun_cases s.stepCloser k <;> intro ht <;> cases ht
    case closer.case3.refl => rfl
    all_goals exact hf
  | _ =>
    obtain ⟨u, rfl⟩ := step_footprint _ ht
    exact hf

theorem step_pending (ht : step s label = some t) (hse : label.isSender = false) :
    t.pending = s.pending ∨ t.pending = none := by
  cases label with
  | sender => cases hse
  | closer k =>
    simp only [Fallback.step] at ht
    revert ht
    fun_cases s.stepCloser k <;> intro ht <;> cases ht
    case closer.case4.refl => exact .inr rfl
    all_goals exact .inl rfl
  | _ =>
    obtain ⟨u, rfl⟩ := step_footprint _ ht
    exact .inl rfl

theorem Freed.step (h : s.Freed) (hl : s.Linked) (ht : step s label = some t) :
    t.Freed ∧ t.sender.rank + (if label.isSender then 1 else 0) ≤ s.sender.rank := by
  cases label with
  | sender input => exact h.stepSender hl ht
  | send payload =>
    simp only [Fallback.step] at ht
    split at ht <;> cases ht
    next hs =>
      refine ⟨⟨h.flag, ?_⟩, by simp [SendPhase.rank, hs, Label.isSender]⟩
      rintro m (⟨⟨⟩⟩ | ⟨⟨⟩⟩)
  | _ =>
    obtain ⟨hs, -, he⟩ := step_elsewhere ht (by rintro _ ⟨⟩) (by rintro _ ⟨⟩)
    refine ⟨⟨step_flag ht h.flag, fun n hn hco => ?_⟩, by simp [hs, Label.isSender]⟩
    rcases step_pending ht rfl with hp | hp <;> rw [hp]
    · exact h.taken n (hs ▸ hn) (by_contra fun hne => he n hne hco)
    · rintro ⟨⟩

/-- A sender that cannot go on waits for a payload that a call of `CancelPendingSend` has taken. -/
theorem Freed.enabled (h : s.Freed) (hl : s.Linked) (hlo : s.sender.holdsLock = true) :
    (∃ t, s.stepSender .ok = some t) ∨ ∃ (k n : Nat), s.closers[k]? = some (.cancelling n) := by
  unfold Transport.stepSender
  cases hs : s.sender with
  | idle | ended => simp [hs, SendPhase.holdsLock] at hlo
  | writing n =>
    have hc : s.channel = none := by
      by_contra hne
      obtain ⟨m, hm⟩ := Option.ne_none_iff_exists'.mp hne
      exact hl.channel_free hs (fun _ => rfl) hm
    cases hw : s.writerCompleted <;> simp [hc]
  | waiting n =>
    cases hc : s.consumedOf n with
    | pending =>
      rcases (hl.published n (by rw [hs]; rfl)).2 hc with hp | hm
      · exact absurd hp (h.taken n (.inr hs) hc)
      · obtain ⟨k, hk⟩ := mem_iff_getElem?.mp hm
        exact .inr ⟨k, n, hk⟩
    | completed | cancelled => exact .inl (by simp [hc])
  | _ => exact .inl ⟨_, rfl⟩

theorem step_closers (ht : step s label = some t) (hne : label ≠ .closer k) {phase : CloserPhase}
    (hk : s.closers[k]? = some phase) : t.closers[k]? = some phase := by
  cases label with
  | close | cancelPendingSend =>
    cases ht
    exact (getElem?_append_left (List.getElem?_eq_some_iff.mp hk).1).trans hk
  | closer j =>
    have hj : j ≠ k := fun hj => hne (hj ▸ rfl)
    simp only [Fallback.step] at ht
    revert ht
    fun_cases s.stepCloser j <;> intro ht <;> cases ht
    all_goals exact (getElem?_set_ne hj).trans hk
  | _ =>
    obtain ⟨u, rfl⟩ := step_footprint _ ht
    exact hk

/-- A call of `CancelPendingSend` that has begun, and what holds once it has returned. -/
def Interrupted (s : Transport) (k : Nat) : Prop :=
  s.closers[k]? = some .flagging ∨
    s.closers[k]? = some .exchanging ∧ s.pendingSendCancelled = true ∨
    ((∃ n, s.closers[k]? = some (.cancelling n)) ∨ s.closers[k]? = some .finished) ∧ s.Freed

theorem Interrupted.freed (h : s.Interrupted k) (hk : s.closers[k]? = some .finished) :
    s.Freed := by
  rcases h with hp | ⟨hp, -⟩ | ⟨-, hfr⟩
  · cases hp.symm.trans hk
  · cases hp.symm.trans hk
  · exact hfr

theorem Interrupted.step (h : s.Interrupted k) (hl : s.Linked) (ht : step s label = some t) :
    t.Interrupted k := by
  by_cases hne : label = .closer k
  · subst hne
    have hlt : k < s.closers.length := by
      rcases h with h | ⟨h, -⟩ | ⟨⟨_, h⟩ | h, -⟩ <;> exact (List.getElem?_eq_some_iff.mp h).1
    rcases h with hk | ⟨hk, hf⟩ | ⟨hk, hfr⟩
    · simp only [Fallback.step, Transport.stepCloser, hk] at ht
      cases ht
      exact .inr (.inl ⟨getElem?_set_self hlt, rfl⟩)
    · simp only [Fallback.step, Transport.stepCloser, hk] at ht
      cases ht
      refine .inr (.inr ⟨?_, hf, fun _ _ _ => by rintro ⟨⟩⟩)
      cases hp : s.pending with
      | none => exact .inr (getElem?_set_self hlt)
      | some n => exact .inl ⟨n, getElem?_set_self hlt⟩
    · refine .inr (.inr ⟨.inr ?_, (hfr.step hl ht).1⟩)
      rcases hk with ⟨n, hk⟩ | hk <;> simp only [Fallback.step, Transport.stepCloser, hk] at ht <;>
        cases ht
      exact getElem?_set_self hlt
  · rcases h with hk | ⟨hk, hf⟩ | ⟨⟨n, hk⟩ | hk, hfr⟩
    · exact .inl (step_closers ht hne hk)
    · exact .inr (.inl ⟨step_closers ht hne hk, step_flag ht hf⟩)
    · exact .inr (.inr ⟨.inl ⟨n, step_closers ht hne hk⟩, (hfr.step hl ht).1⟩)
    · exact .inr (.inr ⟨.inr (step_closers ht hne hk), (hfr.step hl ht).1⟩)

/-- The invariants of every run. -/
structure Handshake (s : Transport) : Prop where
  delivers : s.Delivers
  linked : s.Linked

theorem Handshake.step (h : s.Handshake) (ht : step s label = some t) : t.Handshake :=
  ⟨h.delivers.step ht, h.linked.step h.delivers.ordered ht⟩

theorem handshake_initial : Handshake {} :=
  ⟨delivers_initial, by simp, by simp [consumedOf], nofun, nofun⟩

/-- What the sender and the calls that have taken a payload still have to do. -/
def remaining (s : Transport) : Nat :=
  s.sender.rank + s.closers.countP CloserPhase.isCancelling

theorem Freed.progress (h : s.Freed) (hl : s.Linked) (hlo : s.sender.holdsLock = true) :
    ∃ label t, label.drains = true ∧ Fallback.step s label = some t ∧
      t.remaining < s.remaining := by
  rcases h.enabled hl hlo with ⟨t, ht⟩ | ⟨k, n, hk⟩
  · have hst : Fallback.step s (.sender .ok) = some t := ht
    refine ⟨.sender .ok, t, rfl, hst, ?_⟩
    have hlt := (h.stepSender hl ht).2
    obtain ⟨u, rfl⟩ := step_footprint _ hst
    exact Nat.add_lt_add_right hlt _
  · obtain ⟨hin, hget⟩ := List.getElem?_eq_some_iff.mp hk
    refine ⟨.closer k, _, rfl, by simp only [Fallback.step, Transport.stepCloser, hk]; rfl, ?_⟩
    have hpos : 0 < s.closers.countP CloserPhase.isCancelling :=
      countP_pos_iff.mpr ⟨_, mem_of_getElem? hk, rfl⟩
    simp only [remaining, countP_set hin, hget, CloserPhase.isCancelling, if_true]
    exact Nat.add_lt_add_left (by simpa using hpos) _

/-- The sender and those calls alone come to the end of the sender's call. -/
theorem Freed.drains (h : s.Freed) (hs : s.Handshake) : ∃ labels t,
    (∀ label ∈ labels, label.drains = true) ∧ Fallback.step.run s labels = some t ∧
      t.sender.holdsLock = false := by
  generalize hra : s.remaining = rank
  induction rank using Nat.strong_induction_on generalizing s with
  | _ rank ih =>
    cases hlo : s.sender.holdsLock with
    | false => exact ⟨[], s, by simp, rfl, hlo⟩
    | true =>
      obtain ⟨label, t, hla, hst, hlt⟩ := h.progress hs.linked hlo
      obtain ⟨labels, u, hall, hu, hfre⟩ :=
        ih _ (hra ▸ hlt) (h.step hs.linked hst).1 (hs.step hst) rfl
      exact ⟨label :: labels, u, forall_mem_cons.mpr ⟨hla, hall⟩,
        StepFn.run_cons_eq_some.mpr ⟨t, hst, hu⟩, hfre⟩

theorem Freed.run {labels : List Label} (h : s.Freed) (hs : s.Handshake)
    (hr : Fallback.step.run s labels = some t) :
    t.Freed ∧ t.Handshake ∧ labels.countP Label.isSender + t.sender.rank ≤ s.sender.rank := by
  induction labels generalizing s with
  | nil =>
    cases hr
    exact ⟨h, hs, by simp⟩
  | cons label labels ih =>
    obtain ⟨u, hu, hr⟩ := StepFn.run_cons_eq_some.mp hr
    obtain ⟨hfr, hra⟩ := h.step hs.linked hu
    obtain ⟨ht, hha, hco⟩ := ih hfr (hs.step hu) hr
    refine ⟨ht, hha, ?_⟩
    rw [countP_cons]
    omega

theorem rank_le (phase : SendPhase) : phase.rank ≤ 8 := by
  cases phase <;> simp [SendPhase.rank]

end Transport

/-! The request to close. -/

structure Closing.Ok (s : Closing) : Prop where
  handshake : s.transport.Handshake
  cancelling : ∀ k, s.request = .cancelling k → s.transport.Interrupted k
  waiting : s.request = .waiting → s.transport.Freed

variable {s t : Closing} {label : ClosingLabel}

theorem Closing.Ok.transport (h : s.Ok) {label : Label} {next : Transport}
    (ht : step s.transport label = some next) : Ok { s with transport := next } where
  handshake := h.handshake.step ht
  cancelling k hk := (h.cancelling k hk).step h.handshake.linked ht
  waiting hw := ((h.waiting hw).step h.handshake.linked ht).1

theorem Closing.Ok.step (h : s.Ok) : closeStep s label = some t → t.Ok := by
  have hca (phase : CloserPhase) : (s.transport.call phase).Handshake :=
    ⟨h.handshake.delivers.called, h.handshake.linked.of_moved rfl rfl rfl rfl
      (fun _ => mem_append_left _) (fun _ => id) h.handshake.linked.channel⟩
  fun_cases closeStep s label <;> intro ht
  case case2 | case3 =>
    obtain ⟨next, hne, rfl⟩ := Option.map_eq_some_iff.mp ht
    exact h.transport hne
  all_goals cases ht
  case case4 =>
    refine ⟨hca _, ?_, nofun⟩
    rintro k ⟨⟩
    exact .inl (by simp [Transport.call])
  case case5 k hk hfi =>
    exact ⟨h.handshake, nofun, fun _ => (h.cancelling k hk).freed hfi⟩
  case case8 => exact ⟨hca _, nofun, nofun⟩
  all_goals exact ⟨h.handshake, nofun, nofun⟩

theorem closeStep_drains {labels : List Label} {next : Transport}
    (hd : ∀ label ∈ labels, label.drains = true)
    (hr : step.run s.transport labels = some next) :
    closeStep.run s (labels.map .transport) = some { s with transport := next } := by
  induction labels generalizing s with
  | nil =>
    cases hr
    rfl
  | cons label labels ih =>
    obtain ⟨hla, hd⟩ := forall_mem_cons.mp hd
    obtain ⟨u, hu, hr⟩ := StepFn.run_cons_eq_some.mp hr
    refine StepFn.run_cons_eq_some.mpr ⟨{ s with transport := u }, ?_, ih hd hr⟩
    cases label with
    | sender | closer => simp [closeStep, hu]
    | _ => cases hla

theorem pending_sends_end :
    (∀ (before between later : List Label) (r s t : Transport) (k : Nat),
      step.run {} before = some r → r.closers[k]? = some .flagging →
      step.run r between = some s → s.closers[k]? = some .finished →
      step.run s later = some t →
        later.countP Label.isSender ≤ 8 ∧ ∃ labels u, (∀ label ∈ labels, label.drains = true) ∧
          step.run t labels = some u ∧ u.sender.holdsLock = false) ∧
    ∀ (before : List ClosingLabel) (s : Closing), closeStep.run {} before = some s →
      s.request = .waiting → ∃ (labels : List Label) (t : Closing),
        (∀ label ∈ labels, label.drains = true) ∧
        closeStep.run s (labels.map .transport ++ [.request]) = some t ∧
          t.request.holdsLock = true := by
  constructor
  · intro before between later r s t k hbef hca hbe hre hla
    have hr := StepFn.run_induct (fun _ _ _ hs ht => hs.step ht)
      Transport.handshake_initial hbef
    obtain ⟨hs, hk⟩ : s.Handshake ∧ s.Interrupted k := by
      refine StepFn.run_induct (P := fun s => s.Handshake ∧ s.Interrupted k) ?_
        ⟨hr, .inl hca⟩ hbe
      rintro s label t ⟨hs, hk⟩ ht
      exact ⟨hs.step ht, hk.step hs.linked ht⟩
    obtain ⟨ht, hha, hco⟩ := (hk.freed hre).run hs hla
    have hle := Transport.rank_le s.sender
    exact ⟨by omega, ht.drains hha⟩
  · intro before s hr hw
    have hok := StepFn.run_induct (fun _ _ _ hs ht => hs.step ht)
      (⟨Transport.handshake_initial, nofun, nofun⟩ : Closing.Ok {}) hr
    obtain ⟨labels, u, hd, hu, hfre⟩ := (hok.waiting hw).drains hok.handshake
    refine ⟨labels, ⟨u.call .closing, .closing u.closers.length⟩, hd, ?_, rfl⟩
    rw [StepFn.run_append, closeStep_drains hd hu]
    simp [closeStep, hw, hfre]

/-- A request for closing finds a send whose payload no reader takes. -/
def exampleClosing : List ClosingLabel :=
  [.transport (.send [1])] ++ List.replicate 5 (.transport (.sender .ok)) ++
    [.request] ++ List.replicate 3 (.transport (.closer 0)) ++ [.request]

theorem pending_sends_end_example : ∃ s, closeStep.run {} exampleClosing = some s ∧
    s.transport.sender = .waiting 0 ∧ s.request = .waiting ∧
    ∃ (labels : List Label) (t : Closing), (∀ label ∈ labels, label.drains = true) ∧
      closeStep.run s (labels.map .transport ++ [.request]) = some t ∧
        t.request.holdsLock = true := by
  obtain ⟨s, hs, hw, hr⟩ : ∃ s, closeStep.run {} exampleClosing = some s ∧
      s.transport.sender = .waiting 0 ∧ s.request = .waiting := ⟨_, rfl, rfl, rfl⟩
  exact ⟨s, hs, hw, hr, pending_sends_end.2 _ s hs hr⟩

end Realtime.Fallback
