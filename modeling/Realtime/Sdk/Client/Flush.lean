import Realtime.Sdk.Client.State

/-! Flushing the queue: what `transmit` does with a command, and how the loop at the end of a
restore ends. -/

namespace Realtime.Sdk.Client

open List

variable {s t : Client} {wire : Wire} {c : CommandId}

/-- What `transmit` does in the executor of a promise. -/
inductive Transmits (s : Client) (wire : Wire) (c : CommandId) (queueWhenUnavailable : Bool) :
    Client → Prop
  | rejected (code : ErrorCode) :
    Transmits s wire c queueWhenUnavailable ((s.dropListener c).settle c (.rejected code))
  | requeued (hclosed : s.socketIsOpen = false) (hqueue : queueWhenUnavailable = true)
    (hroom : s.queued.length < s.options.maximumQueuedCommands) :
    Transmits s wire c queueWhenUnavailable { s.dropListener c with queued := s.queued ++ [c] }
  | thrown (hopen : s.socketIsOpen = true) (hthrows : wire.throws c = true) :
    Transmits s wire c queueWhenUnavailable
      (((s.dropListener c).settle c (.rejected .connectionFailed)).closeCurrent 4009)
  | sent (a : AttemptId) (hsocket : s.socket = some a) (hopen : s.socketIsOpen = true)
    (hroom : s.pending.length < s.options.maximumPendingCommands)
    (hthrows : wire.throws c = false) :
    Transmits s wire c queueWhenUnavailable ((s.dropListener c).markSent a c)

theorem transmitEnvelope_of_ok {queueWhenUnavailable : Bool}
    (h : s.transmit wire c queueWhenUnavailable = .ok t) :
    s.transmitEnvelope wire c queueWhenUnavailable = t := by
  rw [transmitEnvelope, h]

theorem eq_dropListener_of_error {queueWhenUnavailable : Bool} :
    s.transmit wire c queueWhenUnavailable = .error t → t = s.dropListener c := by
  fun_cases s.transmit wire c queueWhenUnavailable <;> intro h
  all_goals first
    | exact (Except.error.inj h).symm
    | cases h

theorem transmits (s : Client) (wire : Wire) (c : CommandId) (queueWhenUnavailable : Bool) :
    Transmits s wire c queueWhenUnavailable (s.transmitEnvelope wire c queueWhenUnavailable) := by
  unfold transmitEnvelope transmit
  extract_lets s'
  have hop : s'.socketIsOpen = s.socketIsOpen := rfl
  split_ifs with hab hpe hcl hqu hro hse hla hth
  · exact .rejected _
  · exact .rejected _
  · exact .rejected _
  · exact .rejected _
  · exact .requeued (hop ▸ hcl) (by simpa using hqu) (Nat.lt_of_not_le hro)
  · exact .rejected _
  · exact .rejected _
  · exact .thrown (hop ▸ Bool.not_eq_false _ ▸ hcl) hth
  · rw [Bool.not_eq_false] at hcl
    cases ha : s'.socket with
    | none => simp [socketIsOpen, ha] at hcl
    | some a => exact .sent a ha (hop ▸ hcl) (Nat.lt_of_not_le hpe) (by simpa using hth)

theorem flush_cons_ok {rest : List CommandId} (h : s.queued = c :: rest)
    (ht : (s.shift rest).transmit wire c true = .ok t) (iterations : Nat) :
    flush wire (iterations + 1) s = flush wire iterations t := by
  simp only [flush, h, ht]

theorem flush_cons_error {rest : List CommandId} (h : s.queued = c :: rest)
    (ht : (s.shift rest).transmit wire c true = .error t)
    (iterations : Nat) :
    flush wire (iterations + 1) s = some (t, some .notSerializable) := by
  simp only [flush, h, ht]

theorem flush_of_nil (h : s.queued = []) (iterations : Nat) :
    flush wire iterations s = some (s, none) := by
  cases iterations <;> simp [flush, h]

theorem flush_induct {P : Client → Prop} (hsh : ∀ s rest, P s → P (s.shift rest))
    (hdr : ∀ s c, P s → P (s.dropListener c))
    (htr : ∀ s c, P s → P (s.transmitEnvelope wire c true)) {iterations : Nat}
    {failure : Option ErrorCode} (h : P s)
    (hfl : flush wire iterations s = some (t, failure)) : P t := by
  induction iterations generalizing s with
  | zero =>
    rw [flush, Option.ite_none_right_eq_some] at hfl
    cases hfl.2
    exact h
  | succ iterations ih =>
    cases hqu : s.queued with
    | nil =>
      rw [flush_of_nil hqu] at hfl
      cases hfl
      exact h
    | cons c rest =>
      cases ht : (s.shift rest).transmit wire c true with
      | ok u =>
        rw [flush_cons_ok hqu ht, ← transmitEnvelope_of_ok ht] at hfl
        exact ih (htr _ c (hsh s rest h)) hfl
      | error u =>
        rw [flush_cons_error hqu ht] at hfl
        cases hfl
        rw [eq_dropListener_of_error ht]
        exact hdr _ c (hsh s rest h)

theorem flush_failure {iterations : Nat} {failure : Option ErrorCode}
    (hfl : flush wire iterations s = some (t, failure)) :
    failure = none ∨ failure = some .notSerializable := by
  induction iterations generalizing s with
  | zero =>
    rw [flush, Option.ite_none_right_eq_some] at hfl
    cases hfl.2
    exact .inl rfl
  | succ iterations ih =>
    rw [flush] at hfl
    split at hfl
    · cases hfl
      exact .inl rfl
    split at hfl
    · exact ih hfl
    · cases hfl
      exact .inr rfl

/-! What closing a socket keeps, in the parts that `closeSocket` is made of. -/

section

variable {P : Client → Prop} {a : AttemptId} {code : Nat}

theorem handleClose_induct (hno : ∀ s code expected, P s → P (s.noteClose code expected))
    (hsc : ∀ s, P s → P s.scheduleReconnect) {generation : Nat} {allowReconnect : Bool}
    (h : P s) : P (s.handleClose code generation allowReconnect) := by
  unfold handleClose
  split
  · exact h
  extract_lets expected
  split
  · exact hno s code expected h
  · exact hsc _ (hno s code expected h)

theorem onclose_induct (hup : ∀ s a f, P s → P (s.updateAttempt a f))
    (hno : ∀ s code expected, P s → P (s.noteClose code expected))
    (hsc : ∀ s, P s → P s.scheduleReconnect) (h : P s) : P (s.onclose a code) := by
  unfold onclose
  split
  · exact h
  extract_lets noted settled
  apply handleClose_induct hno hsc
  simp only [settled]
  split
  · exact hup _ _ _ h
  · exact hup _ _ _ (hup _ _ _ h)

theorem closeSocket_induct (hup : ∀ s a f, P s → P (s.updateAttempt a f))
    (hno : ∀ s code expected, P s → P (s.noteClose code expected))
    (hsc : ∀ s, P s → P s.scheduleReconnect) (h : P s) : P (s.closeSocket a code) := by
  unfold closeSocket
  split
  · exact h
  split
  · exact h
  extract_lets called
  have hca : P called := hup _ _ _ h
  split
  · exact onclose_induct hup hno hsc hca
  · exact hca

theorem closeCurrent_induct (hup : ∀ s a f, P s → P (s.updateAttempt a f))
    (hno : ∀ s code expected, P s → P (s.noteClose code expected))
    (hsc : ∀ s, P s → P s.scheduleReconnect) (h : P s) : P (s.closeCurrent code) := by
  unfold closeCurrent
  split
  · exact h
  · exact closeSocket_induct hup hno hsc h

end

/-! Settlements are only added. -/

def settlementsOf (s : Client) (c : CommandId) : Option (List Outcome) :=
  (s.commands[c]?).map Command.settlements

def Rejected (s : Client) (c : CommandId) : Prop :=
  ∃ outcomes code, s.settlementsOf c = some outcomes ∧ .rejected code ∈ outcomes

def Grows (s t : Client) : Prop :=
  ∀ c outcomes, s.settlementsOf c = some outcomes →
    ∃ more, t.settlementsOf c = some (outcomes ++ more)

theorem Grows.of_eq (h : t.commands = s.commands) : Grows s t := by
  intro c outcomes hc
  refine ⟨[], ?_⟩
  rw [settlementsOf, h, append_nil]
  exact hc

theorem Grows.trans {u : Client} (hst : Grows s t) (htu : Grows t u) : Grows s u := by
  intro c outcomes hc
  obtain ⟨more, hmo⟩ := hst c outcomes hc
  obtain ⟨rest, hre⟩ := htu c _ hmo
  exact ⟨more ++ rest, by rw [hre, append_assoc]⟩

theorem settlementsOf_updateCommand {f : Command → Command}
    (hf : ∀ command, (f command).settlements = command.settlements) (d : CommandId) :
    (s.updateCommand c f).settlementsOf d = s.settlementsOf d := by
  simp only [settlementsOf, updateCommand, getElem?_modify]
  cases s.commands[d]? with
  | none => rfl
  | some command =>
    by_cases hcd : c = d <;> simp [hcd, hf]

theorem settlementsOf_dropListener (d : CommandId) :
    (s.dropListener c).settlementsOf d = s.settlementsOf d := by
  apply settlementsOf_updateCommand
  intro command
  rfl

theorem settlementsOf_settle (outcome : Outcome) (d : CommandId) :
    (s.settle c outcome).settlementsOf d =
      (s.settlementsOf d).map (fun outcomes => if c = d then outcomes ++ [outcome] else outcomes) := by
  simp only [settlementsOf, settle, updateCommand, getElem?_modify]
  cases s.commands[d]? with
  | none => rfl
  | some command => by_cases hcd : c = d <;> simp [hcd]

theorem grows_settle (outcome : Outcome) : Grows s (s.settle c outcome) := by
  intro d outcomes hd
  rw [settlementsOf_settle, hd]
  by_cases hcd : c = d
  · exact ⟨[outcome], by simp [hcd]⟩
  · exact ⟨[], by simp [hcd]⟩

theorem grows_settleAll (commands : List CommandId) (outcome : Outcome) :
    Grows s (s.settleAll commands outcome) := by
  induction commands generalizing s with
  | nil => exact Grows.of_eq rfl
  | cons c commands ih => exact (grows_settle outcome).trans ih

theorem grows_dropListener : Grows s (s.dropListener c) := by
  intro d outcomes hd
  exact ⟨[], by rw [settlementsOf_dropListener, hd, append_nil]⟩

/-! A command that was pending is pending or rejected. -/

def Issued (s : Client) (c : CommandId) : Prop := c < s.commands.length

instance (s : Client) (c : CommandId) : Decidable (s.Issued c) :=
  inferInstanceAs (Decidable (c < s.commands.length))

def Accounted (s : Client) (c : CommandId) : Prop := c ∈ s.pending ∨ s.Rejected c

theorem Grows.rejected (h : Grows s t) (hc : s.Rejected c) : t.Rejected c := by
  obtain ⟨outcomes, code, hou, hmem⟩ := hc
  obtain ⟨more, hmo⟩ := h c outcomes hou
  exact ⟨_, code, hmo, mem_append_left _ hmem⟩

theorem Issued.settlementsOf (h : s.Issued c) : ∃ outcomes, s.settlementsOf c = some outcomes := by
  rw [Client.settlementsOf, getElem?_eq_getElem h]
  exact ⟨_, rfl⟩

theorem issued_iff : s.Issued c ↔ ∃ outcomes, s.settlementsOf c = some outcomes := by
  constructor
  · exact Issued.settlementsOf
  · rintro ⟨outcomes, h⟩
    rw [Client.settlementsOf, Option.map_eq_some_iff] at h
    obtain ⟨command, hco, -⟩ := h
    exact (List.getElem?_eq_some_iff.mp hco).1

theorem Grows.issued (h : Grows s t) (hc : s.Issued c) : t.Issued c := by
  obtain ⟨outcomes, hou⟩ := hc.settlementsOf
  obtain ⟨more, hmo⟩ := h c outcomes hou
  exact issued_iff.mpr ⟨_, hmo⟩

theorem rejected_settle (hc : s.Issued c) (code : ErrorCode) :
    (s.settle c (.rejected code)).Rejected c := by
  obtain ⟨outcomes, hou⟩ := hc.settlementsOf
  refine ⟨outcomes ++ [.rejected code], code, ?_, by simp⟩
  rw [settlementsOf_settle, hou]
  simp

theorem rejected_settleAll {commands : List CommandId} (hmem : c ∈ commands) (hc : s.Issued c)
    (code : ErrorCode) : (s.settleAll commands (.rejected code)).Rejected c := by
  induction commands generalizing s with
  | nil => cases hmem
  | cons d commands ih =>
    have hgr : Grows s (s.settle d (.rejected code)) := grows_settle _
    by_cases hcd : c = d
    · rw [← hcd]
      exact (grows_settleAll commands _).rejected (rejected_settle hc code)
    · have hin : c ∈ commands := by
        rcases mem_cons.mp hmem with heq | hin
        · exact absurd heq hcd
        · exact hin
      exact ih hin (hgr.issued hc)

variable {d : CommandId}

theorem isAborted_updateCommand {f : Command → Command}
    (hf : ∀ command, (f command).aborted = command.aborted) :
    (s.updateCommand c f).isAborted d = s.isAborted d := by
  simp only [isAborted, updateCommand, getElem?_modify]
  cases s.commands[d]? with
  | none => rfl
  | some command => by_cases hcd : c = d <;> simp [hcd, hf]

@[simp] theorem isAborted_dropListener : (s.dropListener c).isAborted d = s.isAborted d :=
  isAborted_updateCommand (fun _ => rfl)

theorem isAborted_settle (outcome : Outcome) :
    (s.settle c outcome).isAborted d = s.isAborted d :=
  isAborted_updateCommand (fun _ => rfl)

/-! What a close does to the commands. -/

/-- The queue stays, or all of it is rejected. -/
structure Closes (s t : Client) : Prop where
  grows : Grows s t
  options : t.options = s.options
  pending : t.pending.length ≤ s.pending.length
  aborted : ∀ c, t.isAborted c = s.isAborted c
  accounted : ∀ c, s.Issued c → s.Accounted c → t.Accounted c
  queued : t.queued = s.queued ∨ t.queued = [] ∧ ∀ c ∈ s.queued, s.Issued c → t.Rejected c

theorem Closes.of_eq (hc : t.commands = s.commands) (ho : t.options = s.options)
    (hp : t.pending = s.pending) (hq : t.queued = s.queued) : Closes s t where
  grows := Grows.of_eq hc
  options := ho
  pending := by rw [hp]
  aborted c := by rw [isAborted, hc, isAborted]
  accounted c _ h := by
    rw [Accounted, hp]
    exact h.imp_right (Grows.of_eq hc).rejected
  queued := .inl hq

theorem Closes.trans {u : Client} (h : Closes s t) (h' : Closes t u) : Closes s u where
  grows := h.grows.trans h'.grows
  options := h'.options.trans h.options
  pending := h'.pending.trans h.pending
  aborted c := (h'.aborted c).trans (h.aborted c)
  accounted c hi ha := h'.accounted c (h.grows.issued hi) (h.accounted c hi ha)
  queued := by
    rcases h.queued with hq | ⟨hq, hr⟩
    · rw [← hq]
      exact h'.queued.imp_right (fun hn => ⟨hn.1, fun c hc hi => hn.2 c hc (h.grows.issued hi)⟩)
    · refine .inr ⟨?_, fun c hc hi => h'.grows.rejected (hr c hc hi)⟩
      rcases h'.queued with hq' | hq'
      · exact hq'.trans hq
      · exact hq'.1

theorem settleAll_frame (commands : List CommandId) (outcome : Outcome) :
    let t := s.settleAll commands outcome
    t.options = s.options ∧ t.pending = s.pending ∧ t.queued = s.queued ∧ t.socket = s.socket ∧
      t.attempts = s.attempts ∧ ∀ c, t.isAborted c = s.isAborted c := by
  induction commands generalizing s with
  | nil => exact ⟨rfl, rfl, rfl, rfl, rfl, fun _ => rfl⟩
  | cons d commands ih =>
    obtain ⟨ho, hp, hq, hs, ha, hb⟩ := ih (s := s.settle d outcome)
    exact ⟨ho, hp, hq, hs, ha, fun c => (hb c).trans (isAborted_settle outcome)⟩

theorem closes_rejectPending (code : ErrorCode) : Closes s (s.rejectPending code) := by
  obtain ⟨ho, -, hq, -, -, hb⟩ := settleAll_frame (s := s) s.pending (.rejected code)
  have hg : Grows s (s.rejectPending code) :=
    (grows_settleAll s.pending (.rejected code)).trans (Grows.of_eq rfl)
  refine ⟨hg, ho, Nat.zero_le _, hb, fun c hi ha => .inr ?_, .inl hq⟩
  rcases ha with hp | hr
  · exact rejected_settleAll hp hi code
  · exact hg.rejected hr

theorem closes_rejectQueued (code : ErrorCode) : Closes s (s.rejectQueued code) := by
  obtain ⟨ho, hp, -, -, -, hb⟩ := settleAll_frame (s := s) s.queued (.rejected code)
  have hg : Grows s (s.rejectQueued code) :=
    (grows_settleAll s.queued (.rejected code)).trans (Grows.of_eq rfl)
  refine ⟨hg, ho, hp ▸ le_rfl, hb, fun c _ ha => ?_, .inr ⟨rfl, fun c hc hi => ?_⟩⟩
  · exact ha.imp (fun hc => hp ▸ hc) hg.rejected
  · exact rejected_settleAll hc hi code

theorem closes_setState (state : ClientState) : Closes s (s.setState state) := by
  unfold setState
  split_ifs <;> exact Closes.of_eq rfl rfl rfl rfl

theorem closes_noteClose (code : Nat) (expected : Bool) :
    Closes s (s.noteClose code expected) := by
  have hs : Closes s { s with heartbeatTimer := false, socket := none } :=
    Closes.of_eq rfl rfl rfl rfl
  exact ((hs.trans (closes_rejectPending _)).trans (closes_setState _)).trans
    (Closes.of_eq rfl rfl rfl rfl)

theorem closes_scheduleReconnect : Closes s s.scheduleReconnect := by
  unfold scheduleReconnect
  split_ifs
  · exact Closes.of_eq rfl rfl rfl rfl
  · exact ((closes_setState _).trans (closes_rejectQueued _)).trans (Closes.of_eq rfl rfl rfl rfl)
  · exact (closes_setState _).trans (Closes.of_eq rfl rfl rfl rfl)

theorem closes_closeCurrent (code : Nat) : Closes s (s.closeCurrent code) :=
  closeCurrent_induct (P := Closes s) (fun _ _ _ h => h.trans (Closes.of_eq rfl rfl rfl rfl))
    (fun _ _ _ h => h.trans (closes_noteClose _ _)) (fun _ h => h.trans closes_scheduleReconnect)
    (Closes.of_eq rfl rfl rfl rfl)

theorem grows_transmitEnvelope (wire : Wire) (c : CommandId) (queueWhenUnavailable : Bool) :
    Grows s (s.transmitEnvelope wire c queueWhenUnavailable) := by
  have hca := transmits s wire c queueWhenUnavailable
  generalize s.transmitEnvelope wire c queueWhenUnavailable = t at hca
  cases hca with
  | rejected code => exact grows_dropListener.trans (grows_settle _)
  | requeued => exact grows_dropListener.trans (Grows.of_eq rfl)
  | thrown => exact (grows_dropListener.trans (grows_settle _)).trans (closes_closeCurrent _).grows
  | sent => exact grows_dropListener.trans (Grows.of_eq rfl)

theorem socketIsOpen_updateAttempt {a : AttemptId} {f : Attempt → Attempt}
    (hf : ∀ attempt, (f attempt).readyState = attempt.readyState) :
    (s.updateAttempt a f).socketIsOpen = s.socketIsOpen := by
  unfold socketIsOpen updateAttempt
  cases s.socket with
  | none => rfl
  | some b =>
    simp only [getElem?_modify]
    cases s.attempts[b]? with
    | none => rfl
    | some attempt => by_cases hab : a = b <;> simp [hab, hf]

theorem socketIsOpen_markSent (a : AttemptId) : (s.markSent a c).socketIsOpen = s.socketIsOpen := by
  have h : (s.updateAttempt a (fun attempt =>
      { attempt with sent := attempt.sent ++ [c] })).socketIsOpen = s.socketIsOpen := by
    apply socketIsOpen_updateAttempt
    intro attempt
    rfl
  exact h

theorem socketIsOpen_of_eq (hs : t.socket = s.socket) (ha : t.attempts = s.attempts) :
    t.socketIsOpen = s.socketIsOpen := by
  simp only [socketIsOpen, hs, ha]

theorem socketIsOpen_setState (state : ClientState) :
    (s.setState state).socketIsOpen = s.socketIsOpen := by
  unfold setState
  split_ifs <;> rfl

theorem socketIsOpen_noteClose (code : Nat) (expected : Bool) :
    (s.noteClose code expected).socketIsOpen = false := by
  have hs : (s.noteClose code expected).socketIsOpen =
      (({ s with heartbeatTimer := false, socket := none } : Client).rejectPending
        .connectionClosed).socketIsOpen := socketIsOpen_setState .closed
  obtain ⟨-, -, -, hn, -⟩ := settleAll_frame
    (s := { s with heartbeatTimer := false, socket := none }) s.pending
      (.rejected .connectionClosed)
  rw [hs]
  simp only [socketIsOpen, rejectPending, hn]

theorem socketIsOpen_scheduleReconnect (h : s.socketIsOpen = false) :
    s.scheduleReconnect.socketIsOpen = false := by
  unfold scheduleReconnect
  split_ifs
  · exact h
  · obtain ⟨-, -, -, hs, ha, -⟩ := settleAll_frame (s := s.setState .closed)
      (s.setState .closed).queued (.rejected .reconnectExhausted)
    exact (socketIsOpen_of_eq hs ha).trans ((socketIsOpen_setState .closed).trans h)
  · exact (socketIsOpen_setState .reconnecting).trans h

theorem socketIsOpen_closeCurrent (code : Nat) : (s.closeCurrent code).socketIsOpen = false := by
  unfold closeCurrent
  cases hso : s.socket with
  | none => simp [socketIsOpen, hso]
  | some a =>
    simp only
    unfold closeSocket
    cases hat : s.attempts[a]? with
    | none => simp [socketIsOpen, hso, hat]
    | some attempt =>
      simp only
      split_ifs with hcl hsy
      · rcases hcl with hcl | hcl <;> simp [socketIsOpen, hso, hat, hcl]
      · unfold onclose
        simp only [updateAttempt, getElem?_modify, hat]
        apply handleClose_induct (P := fun t => t.socketIsOpen = false)
        · exact fun t code expected _ => socketIsOpen_noteClose code expected
        · exact fun t h => socketIsOpen_scheduleReconnect h
        · split_ifs <;>
            simp [socketIsOpen, rejectAttempt, updateAttempt, hso, hat]
      · simp [socketIsOpen, updateAttempt, hso, hat]

/-! The loop. -/

/-- The flush comes to the wire with the command, and `JSON.stringify` or `send` throws. -/
def failsOnWire (s : Client) (wire : Wire) (c : CommandId) : Bool :=
  !s.isAborted c && decide (s.pending.length < s.options.maximumPendingCommands) &&
    (s.serializationFails wire c || (!wire.tooLarge c && wire.throws c))

/-- The first command on which the loop fails, and the state in which it transmits it. -/
def firstFailure [Listeners] (wire : Wire) : List CommandId → Client → Option (CommandId × Client)
  | [], _ => none
  | c :: rest, s =>
    if (s.shift rest).failsOnWire wire c then some (c, s.shift rest)
    else firstFailure wire rest ((s.shift rest).transmitEnvelope wire c true)

/-- What the queue holds: commands that were issued, neither settled nor pending, and no more
than it has room for. -/
structure Queues (s : Client) : Prop where
  nodup : s.queued.Nodup
  room : s.queued.length ≤ s.options.maximumQueuedCommands
  unsettled : ∀ c ∈ s.queued, s.settlementsOf c = some []
  idle : ∀ c ∈ s.queued, c ∉ s.pending

@[simp] theorem serializationFails_dropListener :
    (s.dropListener c).serializationFails wire d = s.serializationFails wire d := by
  simp only [serializationFails, dropListener, updateCommand, getElem?_modify]
  cases s.commands[d]? with
  | none => rfl
  | some command => by_cases hcd : c = d <;> simp [hcd]

theorem transmit_of_failsOnWire (hop : s.socketIsOpen = true)
    (hfa : s.failsOnWire wire c = true) : s.transmit wire c true =
      if s.serializationFails wire c then .error (s.dropListener c)
      else .ok (((s.dropListener c).settle c (.rejected .connectionFailed)).closeCurrent 4009) := by
  have hop' : (s.dropListener c).socketIsOpen = true := hop
  have hpe : (s.dropListener c).pending = s.pending := rfl
  have hopt : (s.dropListener c).options = s.options := rfl
  simp only [failsOnWire, Bool.and_eq_true, Bool.not_eq_true', Bool.or_eq_true,
    decide_eq_true_eq] at hfa
  obtain ⟨⟨hab, hro⟩, hth⟩ := hfa
  unfold transmit
  extract_lets s'
  rw [if_neg (by simp [s', hab]), if_neg (by simp [s', hpe, hopt, hro]), if_neg (by simp [s', hop'])]
  simp only [s', serializationFails_dropListener]
  by_cases hse : s.serializationFails wire c = true
  · simp [hse]
  · have hth := hth.resolve_left hse
    simp [hse, hth]

theorem transmit_of_not_failsOnWire (hop : s.socketIsOpen = true)
    (hfa : s.failsOnWire wire c = false) :
    s.transmit wire c true = .ok (s.transmitEnvelope wire c true) ∧
      ((∃ code, s.transmitEnvelope wire c true =
          (s.dropListener c).settle c (.rejected code)) ∨
        ∃ a, s.transmitEnvelope wire c true = (s.dropListener c).markSent a c) := by
  have hse : (s.dropListener c).serializationFails wire c = s.serializationFails wire c :=
    serializationFails_dropListener
  have hab : (s.dropListener c).isAborted c = s.isAborted c := isAborted_dropListener
  have hop' : (s.dropListener c).socketIsOpen = true := hop
  unfold transmitEnvelope transmit
  extract_lets s'
  split_ifs with ha hpe hcl hqu hro hsf hla hth
  · exact ⟨rfl, .inl ⟨_, rfl⟩⟩
  · exact ⟨rfl, .inl ⟨_, rfl⟩⟩
  · simp [s', hop'] at hcl
  · simp [s', hop'] at hcl
  · simp [s', hop'] at hcl
  all_goals have hroom : s.pending.length < s.options.maximumPendingCommands := Nat.lt_of_not_le hpe
  · simp [failsOnWire, ← hab, ← hse, s', hsf, hroom, ha] at hfa
  · exact ⟨rfl, .inl ⟨_, rfl⟩⟩
  · simp [failsOnWire, ← hab, s', hla, hth, hroom, ha] at hfa
  · cases hso : s'.socket with
    | none => simp [s', socketIsOpen, hso] at hop'
    | some a => exact ⟨rfl, .inr ⟨a, rfl⟩⟩

/-- What an iteration that does not fail leaves to the next. -/
theorem Queues.next {rest : List CommandId} (h : s.Queues) (hq : s.queued = c :: rest)
    (hopen : s.socketIsOpen = true)
    (hfa : (s.shift rest).failsOnWire wire c = false) :
    ((s.shift rest).transmitEnvelope wire c true).Queues ∧
      ((s.shift rest).transmitEnvelope wire c true).Accounted c ∧
      ((s.shift rest).transmitEnvelope wire c true).socketIsOpen = true ∧
      ((s.shift rest).transmitEnvelope wire c true).queued = rest := by
  have hc : ((s.shift rest).dropListener c).Issued c := by
    refine grows_dropListener.issued (issued_iff.mpr ⟨[], ?_⟩)
    exact h.unsettled c (hq ▸ mem_cons_self)
  have hno : c ∉ rest ∧ rest.Nodup := nodup_cons.mp (hq ▸ h.nodup)
  have hro : rest.length ≤ s.options.maximumQueuedCommands := by
    have hr := h.room
    rw [hq] at hr
    exact Nat.le_of_succ_le hr
  have hid (d : CommandId) (hd : d ∈ rest) : d ∉ s.pending :=
    h.idle d (hq ▸ mem_cons_of_mem c hd)
  have hun (d : CommandId) (hd : d ∈ rest) : ((s.shift rest).dropListener
      c).settlementsOf d = some [] := by
    rw [settlementsOf_dropListener]
    exact h.unsettled d (hq ▸ mem_cons_of_mem c hd)
  obtain ⟨-, ⟨code, ht⟩ | ⟨a, ht⟩⟩ := transmit_of_not_failsOnWire (s := s.shift rest) hopen hfa
  · rw [ht]
    refine ⟨⟨hno.2, hro, fun d hd => ?_, hid⟩, .inr (rejected_settle hc code), hopen, rfl⟩
    have hcd : c ≠ d := fun he => hno.1 (he ▸ hd)
    rw [settlementsOf_settle, hun d hd]
    simp [hcd]
  · rw [ht]
    refine ⟨⟨hno.2, hro, hun, fun d hd => ?_⟩, .inl ?_, (socketIsOpen_markSent a).trans hopen, rfl⟩
    · rw [markSent, mem_append, mem_singleton]
      rintro (hp | rfl)
      · exact hid d hd hp
      · exact hno.1 hd
    · exact mem_append_right _ (mem_singleton_self c)

theorem Accounted.transmitEnvelope {d : CommandId} (hd : s.Issued d) (h : s.Accounted d)
    (queueWhenUnavailable : Bool) :
    (s.transmitEnvelope wire c queueWhenUnavailable).Accounted d := by
  have hgr := grows_transmitEnvelope (s := s) wire c queueWhenUnavailable
  rcases h with hpe | hre
  · have hca := transmits s wire c queueWhenUnavailable
    generalize s.transmitEnvelope wire c queueWhenUnavailable = t at hca hgr
    cases hca with
    | rejected code => exact .inl hpe
    | requeued => exact .inl hpe
    | thrown =>
      have his : ((s.dropListener c).settle c (.rejected .connectionFailed)).Issued d :=
        (grows_settle _).issued (grows_dropListener.issued hd)
      exact (closes_closeCurrent 4009).accounted d his (.inl hpe)
    | sent a _ _ _ _ => exact .inl (mem_append_left _ hpe)
  · exact .inr (hgr.rejected hre)

theorem Accounted.flush {iterations : Nat} {failure : Option ErrorCode}
    (hd : s.Issued d) (h : s.Accounted d)
    (hfl : flush wire iterations s = some (t, failure)) : t.Accounted d := by
  refine (flush_induct (P := fun s => s.Issued d ∧ s.Accounted d) (fun _ _ h => h) ?_ ?_
    ⟨hd, h⟩ hfl).2
  · rintro s c ⟨hi, ha⟩
    exact ⟨grows_dropListener.issued hi, ha.imp_right grows_dropListener.rejected⟩
  · rintro s c ⟨hi, ha⟩
    exact ⟨(grows_transmitEnvelope wire c true).issued hi, ha.transmitEnvelope hi true⟩

/-! The loop after a send has thrown. -/

/-- The command goes back into the queue in every iteration. -/
structure Stuck (s : Client) : Prop where
  closed : s.socketIsOpen = false
  idle : s.pending.length < s.options.maximumPendingCommands
  room : s.queued.length ≤ s.options.maximumQueuedCommands
  waits : ∃ c ∈ s.queued, s.isAborted c = false

theorem transmit_aborted (h : s.isAborted c = true) : s.transmit wire c true =
    .ok ((s.dropListener c).settle c (.rejected .cancelled)) := by
  unfold transmit
  simp [h]

theorem transmit_requeues (h : s.isAborted c = false) (hop : s.socketIsOpen = false)
    (hid : s.pending.length < s.options.maximumPendingCommands)
    (hro : s.queued.length < s.options.maximumQueuedCommands) : s.transmit wire c true =
    .ok { s.dropListener c with queued := s.queued ++ [c] } := by
  have hop' : (s.dropListener c).socketIsOpen = false := hop
  have hid' : ¬(s.dropListener c).options.maximumPendingCommands ≤
      (s.dropListener c).pending.length := Nat.not_le_of_lt hid
  have hro' : ¬(s.dropListener c).options.maximumQueuedCommands ≤
      (s.dropListener c).queued.length := Nat.not_le_of_lt hro
  simp only [transmit, isAborted_dropListener, h, hid', hop', hro', if_true, if_false,
    Bool.false_eq_true, Bool.true_eq_false]
  rfl

theorem flush_of_stuck (h : s.Stuck) (iterations : Nat) : flush wire iterations s = none := by
  induction iterations generalizing s with
  | zero =>
    obtain ⟨c, hc, -⟩ := h.waits
    rw [flush, if_neg (ne_nil_of_mem hc)]
  | succ iterations ih =>
    obtain ⟨d, hd, hda⟩ := h.waits
    obtain ⟨c, rest, hqu⟩ := exists_cons_of_ne_nil (ne_nil_of_mem hd)
    have hro := h.room
    rw [hqu] at hd hro
    cases hab : s.isAborted c with
    | true =>
      have hne : d ≠ c := by
        rintro rfl
        simp [hab] at hda
      rw [flush_cons_ok hqu (transmit_aborted (s := s.shift rest) hab)]
      refine ih ⟨h.closed, h.idle, by simp at hro; exact Nat.le_of_lt hro, d, ?_, ?_⟩
      · exact (mem_cons.mp hd).resolve_left hne
      · rw [isAborted_settle, isAborted_dropListener]
        exact hda
    | false =>
      rw [flush_cons_ok hqu
        (transmit_requeues (s := s.shift rest) hab h.closed h.idle hro)]
      refine ih ⟨h.closed, h.idle, length_append.trans_le hro, c, by simp, ?_⟩
      exact (isAborted_dropListener (s := s)).trans hab

theorem flush_of_aborted {iterations : Nat} (hle : s.queued.length ≤ iterations)
    (his : ∀ c ∈ s.queued, s.Issued c) (hab : ∀ c ∈ s.queued, s.isAborted c = true) :
    ∃ t, flush wire iterations s = some (t, none) ∧ ∀ c ∈ s.queued, t.Accounted c := by
  induction iterations generalizing s with
  | zero =>
    have hqu : s.queued = [] := by simpa using hle
    exact ⟨s, flush_of_nil hqu 0, by simp [hqu]⟩
  | succ iterations ih =>
    cases hqu : s.queued with
    | nil => exact ⟨s, flush_of_nil hqu _, by simp⟩
    | cons c rest =>
      rw [hqu] at hle his hab
      have hgr : Grows s (((s.shift rest).dropListener c).settle c
          (.rejected .cancelled)) := grows_dropListener.trans (grows_settle _)
      have hca : (s.dropListener c).Issued c := grows_dropListener.issued (his c mem_cons_self)
      rw [flush_cons_ok hqu (transmit_aborted (s := s.shift rest)
        (hab c mem_cons_self))]
      obtain ⟨t, ht, hac⟩ := ih (s := ((s.shift rest).dropListener c).settle c
          (.rejected .cancelled)) (Nat.le_of_succ_le_succ hle)
        (fun d hd => hgr.issued (his d (mem_cons_of_mem c hd)))
        (fun d hd => by
          rw [isAborted_settle, isAborted_dropListener]
          exact hab d (mem_cons_of_mem c hd))
      refine ⟨t, ht, fun d hd => ?_⟩
      rcases mem_cons.mp hd with rfl | hd
      · exact Accounted.flush (hgr.issued (his d mem_cons_self))
          (.inr (rejected_settle hca .cancelled)) ht
      · exact hac d hd

theorem not_accounted_of_error {rest : List CommandId} (h : s.Queues) (hq : s.queued = c :: rest) :
    ¬(((s.shift rest).dropListener c).Accounted c ∨ c ∈ ((s.shift rest).dropListener c).queued) := by
  have hc : c ∈ s.queued := hq ▸ mem_cons_self
  rintro ((hp | ⟨outcomes, code, ho, hm⟩) | hr)
  · exact h.idle c hc hp
  · rw [settlementsOf_dropListener] at ho
    cases (h.unsettled c hc).symm.trans ho
    cases hm
  · exact (nodup_cons.mp (hq ▸ h.nodup)).1 hr

/-- After a throw of `send` the loop ends exactly if every command that is left is aborted. -/
theorem flush_of_closed {rest : List CommandId} (hc : s.Accounted c) (hic : s.Issued c)
    (hir : ∀ d ∈ rest, s.Issued d) (hclosed : s.socketIsOpen = false)
    (hid : s.pending.length < s.options.maximumPendingCommands)
    (hro : rest.length ≤ s.options.maximumQueuedCommands)
    (hq : s.queued = rest ∨ s.queued = [] ∧ ∀ d ∈ rest, s.Rejected d) :
    (∃ t failure, flush wire rest.length s = some (t, failure) ∧
        ∀ d ∈ c :: rest, t.Accounted d ∨ d ∈ t.queued) ↔
      ∀ d ∈ s.queued, s.isAborted d = true := by
  have hle : s.queued.length ≤ rest.length := by
    rcases hq with hq | ⟨hq, -⟩ <;> simp [hq]
  constructor
  · rintro ⟨t, failure, ht, -⟩ d hd
    by_contra hab
    have hst : s.Stuck := ⟨hclosed, hid, hle.trans hro, d, hd, by simpa using hab⟩
    rw [flush_of_stuck hst] at ht
    cases ht
  · intro hab
    have his : ∀ d ∈ s.queued, s.Issued d := by
      rcases hq with hq | ⟨hq, -⟩
      · exact hq ▸ hir
      · simp [hq]
    obtain ⟨t, ht, hac⟩ := flush_of_aborted hle his hab
    refine ⟨t, none, ht, fun d hd => .inl ?_⟩
    rcases mem_cons.mp hd with rfl | hd
    · exact hc.flush hic ht
    · rcases hq with hq | ⟨-, hre⟩
      · exact hac d (hq ▸ hd)
      · exact Accounted.flush (hir d hd) (.inr (hre d hd)) ht

theorem flush_of_failsOnWire {rest : List CommandId} (h : s.Queues) (hq : s.queued = c :: rest)
    (hopen : s.socketIsOpen = true) (hfa : (s.shift rest).failsOnWire wire c = true) :
    (∃ t failure, flush wire (rest.length + 1) s = some (t, failure) ∧
        ∀ d ∈ c :: rest, t.Accounted d ∨ d ∈ t.queued) ↔
      (s.shift rest).serializationFails wire c = false ∧
        ∀ d ∈ ((s.shift rest).transmitEnvelope wire c true).queued,
          (s.shift rest).isAborted d = true := by
  have htr := transmit_of_failsOnWire (s := s.shift rest) hopen hfa
  cases hse : (s.shift rest).serializationFails wire c with
  | true =>
    rw [if_pos hse] at htr
    rw [flush_cons_error hq htr]
    refine iff_of_false ?_ (by simp)
    rintro ⟨t, failure, ht, hall⟩
    cases ht
    exact not_accounted_of_error h hq (hall c mem_cons_self)
  | false =>
    rw [if_neg (by simp [hse])] at htr
    rw [flush_cons_ok hq htr, transmitEnvelope_of_ok htr]
    let thrown := ((s.shift rest).dropListener c).settle c (.rejected .connectionFailed)
    have hcl : Closes thrown (thrown.closeCurrent 4009) := closes_closeCurrent 4009
    have hgr : Grows s thrown := grows_dropListener.trans (grows_settle _)
    have hissued (d : CommandId) (hd : d ∈ c :: rest) : thrown.Issued d :=
      hgr.issued (issued_iff.mpr ⟨_, h.unsettled d (hq ▸ hd)⟩)
    have hrej : thrown.Rejected c :=
      rejected_settle (grows_dropListener.issued (issued_iff.mpr
        ⟨_, h.unsettled c (hq ▸ mem_cons_self)⟩)) .connectionFailed
    have hro : rest.length ≤ thrown.options.maximumQueuedCommands := by
      have hr := h.room
      rw [hq] at hr
      exact Nat.le_of_succ_le hr
    have hid : thrown.pending.length < thrown.options.maximumPendingCommands := by
      simp only [failsOnWire, Bool.and_eq_true, decide_eq_true_eq] at hfa
      exact hfa.1.2
    rw [flush_of_closed (s := thrown.closeCurrent 4009)]
    · simp only [true_and]
      refine forall₂_congr (fun d _ => ?_)
      rw [hcl.aborted, isAborted_settle, isAborted_dropListener]
    · exact .inr (hcl.grows.rejected hrej)
    · exact hcl.grows.issued (hissued c mem_cons_self)
    · exact fun d hd => hcl.grows.issued (hissued d (mem_cons_of_mem c hd))
    · exact socketIsOpen_closeCurrent 4009
    · rw [hcl.options]
      exact hcl.pending.trans_lt hid
    · rw [hcl.options]
      exact hro
    · exact hcl.queued.imp_right (fun hn => ⟨hn.1, fun d hd => hn.2 d hd
        (hissued d (mem_cons_of_mem c hd))⟩)

/-- A flush takes one iteration for each queued command and leaves each of them pending, rejected
or queued, unless it comes to a command whose payload cannot be serialized, or whose send throws
while a command that is not aborted is still queued. -/
theorem flush_terminates [listeners : Listeners] (hquiet : listeners.Quiet) (h : s.Queues)
    (hopen : s.socketIsOpen = true) :
    (∃ t failure, flush wire s.queued.length s = some (t, failure) ∧
        ∀ c ∈ s.queued, t.Accounted c ∨ c ∈ t.queued) ↔
      ∀ c t, firstFailure wire s.queued s = some (c, t) → t.serializationFails wire c = false ∧
        ∀ d ∈ (t.transmitEnvelope wire c true).queued, t.isAborted d = true := by
  obtain rfl := hquiet.eq
  generalize hque : s.queued = queue
  induction queue generalizing s with
  | nil => simp [flush_of_nil hque, firstFailure]
  | cons c rest ih =>
    rw [firstFailure, length_cons]
    split_ifs with hfa
    · rw [flush_of_failsOnWire h hque hopen hfa]
      simp only [Option.some.injEq, Prod.mk.injEq, and_imp]
      exact ⟨fun hs _ _ he ht => he ▸ ht ▸ hs, fun hs => hs c _ rfl rfl⟩
    · have hfa : (s.shift rest).failsOnWire wire c = false := by simpa using hfa
      obtain ⟨hqs, hac, hop, hqu⟩ := h.next hque hopen hfa
      have htr := (transmit_of_not_failsOnWire (s := s.shift rest) hopen hfa).1
      have hic : ((s.shift rest).transmitEnvelope wire c true).Issued c :=
        (grows_transmitEnvelope wire c true).issued
          (issued_iff.mpr ⟨_, h.unsettled c (hque ▸ mem_cons_self)⟩)
      rw [← ih hqs hop hqu, flush_cons_ok hque htr]
      -- The command stays accounted for, so the claim is about the rest.
      refine exists₂_congr (fun t failure => and_congr_right (fun ht => ?_))
      simp [hac.flush hic ht]

def openAttempt : Attempt :=
  { generation := 1, reconnecting := false, synchronous := false, hasSocket := true,
    opened := true, readyState := .opened }

/-- Two publications are queued when the socket opens; the second may be aborted. -/
def flushing (aborted : Bool) : Client where
  options := {}
  queued := [0, 1]
  socket := some 0
  generation := 1
  commands := [{ type := .publish, route := utf16 "topics/a" },
    { type := .publish, route := utf16 "topics/b", hasSignal := true, aborted }]
  attempts := [openAttempt]

def throwing : Wire where
  throws c := c == 0

theorem queues_flushing (aborted : Bool) : (flushing aborted).Queues := by
  cases aborted <;> exact ⟨by decide, by decide, by decide, by decide⟩

/-- The send of the first command throws, and the second is aborted. -/
theorem flush_terminates_aborted : ∃ t failure,
    flush throwing 2 (flushing true) = some (t, failure) ∧
      ∀ c ∈ [0, 1], t.Accounted c ∨ c ∈ t.queued := by
  refine (flush_terminates (s := flushing true) (fun _ _ => rfl) (queues_flushing true)
    (by decide)).mpr ?_
  rintro c t ⟨⟩
  decide

theorem stuck_of_throwing : ∃ t : Client, t.Stuck ∧
    ∀ iterations, flush throwing (iterations + 1) (flushing false) = flush throwing iterations t :=
  ⟨_, ⟨by decide, by decide, by decide, 1, by decide, by decide⟩, fun _ => rfl⟩

/-- After a send has thrown, the next command goes back into the queue for ever; and a command
whose payload cannot be serialized is lost. -/
theorem flush_diverges :
    (¬∃ iterations, (flush throwing iterations (flushing false)).isSome = true) ∧
      ∃ t, flush { notSerializable := fun c => c == 0 } 2 (flushing false) =
          some (t, some .notSerializable) ∧
        0 ∉ t.pending ∧ 0 ∉ t.queued ∧ t.settlementsOf 0 = some [] := by
  refine ⟨?_, _, rfl, by decide, by decide, rfl⟩
  rintro ⟨iterations, h⟩
  obtain ⟨t, hst, hfl⟩ := stuck_of_throwing
  cases iterations with
  | zero => cases h
  | succ iterations =>
    rw [hfl, flush_of_stuck hst] at h
    cases h

end Realtime.Sdk.Client
