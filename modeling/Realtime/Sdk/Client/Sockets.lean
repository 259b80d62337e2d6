import Realtime.Sdk.Client.Flush
import Realtime.Sdk.Client.Machine

/-! The sockets of a client without its commands and subscriptions: what a step does to the
attempts, to the current socket and to the generation. -/

namespace Realtime.Sdk

open List Option

namespace Attempt

def reject (code : ErrorCode) (attempt : Attempt) : Attempt :=
  { attempt with settled := true, outcome := some (.rejected code) }

def live (attempt : Attempt) : Bool :=
  attempt.readyState = .connecting || attempt.readyState = .opened

/-- The attempt after `onclose`. -/
def closed (attempt : Attempt) : Attempt :=
  let noted : Attempt :=
    { attempt with readyState := .closed, closeDelivered := true, abortListener := false }
  if attempt.settled then noted else noted.reject .connectionFailed

def close (attempt : Attempt) : Attempt :=
  let called : Attempt := { attempt with closeCalled := true, readyState := .closing }
  if attempt.live = false then attempt
  else if attempt.synchronous then called.closed else called

def abort (reason : ErrorCode) (attempt : Attempt) : Attempt :=
  let noted : Attempt := { attempt with aborted := some reason }
  if attempt.aborted.isSome then attempt
  else if attempt.abortListener && !attempt.settled then (noted.reject .cancelled).close
  else noted

def errored (attempt : Attempt) : Attempt :=
  let noted : Attempt := { attempt with readyState := .closed }
  if attempt.settled then noted
  else ({ noted with abortListener := false } : Attempt).reject .connectionFailed

structure SameSocket (attempt attempt' : Attempt) : Prop where
  generation : attempt'.generation = attempt.generation
  reconnecting : attempt'.reconnecting = attempt.reconnecting
  synchronous : attempt'.synchronous = attempt.synchronous
  aborted : attempt'.aborted = attempt.aborted
  hasSocket : attempt'.hasSocket = attempt.hasSocket
  opened : attempt'.opened = attempt.opened
  readyState : attempt'.readyState = attempt.readyState
  closeCalled : attempt'.closeCalled = attempt.closeCalled
  closeDelivered : attempt'.closeDelivered = attempt.closeDelivered
  abortListener : attempt'.abortListener = attempt.abortListener
  settled : attempt'.settled = attempt.settled
  outcome : attempt'.outcome = attempt.outcome

end Attempt

structure Sockets where
  attempts : List Attempt
  socket : Option AttemptId
  generation : Nat
  controller : Option AttemptId
  /-- The attempts of the restores that have been started. -/
  restores : List AttemptId

namespace Sockets

def update (k : Sockets) (a : AttemptId) (f : Attempt → Attempt) : Sockets :=
  { k with attempts := k.attempts.modify a f }

def isCurrent (k : Sockets) (attempt : Attempt) : Bool := attempt.generation == k.generation

def onclose (k : Sockets) (a : AttemptId) : Sockets :=
  { k.update a Attempt.closed with
    socket := if (k.attempts[a]?).any k.isCurrent then none else k.socket }

def close (k : Sockets) (a : AttemptId) : Sockets :=
  { k.update a Attempt.close with
    socket := if (k.attempts[a]?).any (fun attempt =>
      attempt.live && attempt.synchronous && k.isCurrent attempt) then none else k.socket }

def closeCurrent (k : Sockets) : Sockets :=
  match k.socket with
  | none => k
  | some a => k.close a

def abort (k : Sockets) (a : AttemptId) (reason : ErrorCode) : Sockets :=
  { k.update a (Attempt.abort reason) with
    socket := if (k.attempts[a]?).any (fun attempt =>
      attempt.aborted.isNone && attempt.abortListener && !attempt.settled &&
        attempt.live && attempt.synchronous && k.isCurrent attempt) then none else k.socket }

def abortCurrent (k : Sockets) : Sockets :=
  match k.controller with
  | none => k
  | some a => k.abort a .connectionSuperseded

def start (k : Sockets) (reconnecting synchronous : Bool) (reports : Nat) : Sockets :=
  { k with
    attempts := k.attempts ++ [{
      generation := k.generation + 1
      reconnecting := reconnecting
      synchronous := synchronous
      reports := reports }]
    generation := k.generation + 1
    controller := some k.attempts.length }

def cancel (k : Sockets) (reports : Nat) : Sockets :=
  { k with
    attempts := k.attempts ++ [{
      generation := k.generation
      reconnecting := false
      synchronous := false
      aborted := some .cancelled
      outcome := some (.rejected .cancelled)
      reports := reports }]
    controller := some k.attempts.length }

def disconnect (k : Sockets) : Sockets :=
  let aborted := ({ k with generation := k.generation + 1 } : Sockets).abortCurrent
  { aborted with
    attempts := match aborted.socket with
      | none => aborted.attempts
      | some a => aborted.attempts.modify a Attempt.close
    socket := none
    controller := none }

inductive Move (k : Sockets) : Sockets → Prop
  | note (a : AttemptId) (f : Attempt → Attempt) (hf : ∀ x : Attempt, x.SameSocket (f x)) :
    Move k (k.update a f)
  | close (a : AttemptId) (h : k.socket = some a ∨ a ∈ k.restores) : Move k (k.close a)
  | abort (a : AttemptId) (reason : ErrorCode) : Move k (k.abort a reason)
  | failed (a : AttemptId) (x : Attempt) (code : ErrorCode) (hx : k.attempts[a]? = some x)
    (hbare : x.hasSocket = false) (hopen : x.outcome = none) :
    Move k (k.update a (fun x => { x with outcome := some (.rejected code) }))
  | created (a : AttemptId) (x : Attempt) (hx : k.attempts[a]? = some x)
    (hbare : x.hasSocket = false) (hopen : x.outcome = none) (haborted : x.aborted = none)
    (hcurrent : x.generation = k.generation) :
    Move k { k.update a (fun x => { x with hasSocket := true, abortListener := true }) with
      socket := some a }
  | opened (a : AttemptId) (x : Attempt) (hx : k.attempts[a]? = some x)
    (hsocket : x.hasSocket = true) (hopened : x.opened = false)
    (hdelivered : x.closeDelivered = false) (hsettled : x.settled = false)
    (hcurrent : x.generation = k.generation) :
    Move k { k.update a (fun x =>
        { x with opened := true, readyState := .opened, abortListener := false }) with
      restores := k.restores ++ [a] }
  | openedLate (a : AttemptId) (x : Attempt) (hx : k.attempts[a]? = some x)
    (hsocket : x.hasSocket = true) (hopened : x.opened = false)
    (hdelivered : x.closeDelivered = false)
    (hlate : x.settled = true ∨ x.generation ≠ k.generation) :
    Move k ((k.update a (fun x => { x with opened := true, readyState := .opened })).close a)
  | errored (a : AttemptId) (x : Attempt) (hx : k.attempts[a]? = some x)
    (hsocket : x.hasSocket = true) (hdelivered : x.closeDelivered = false) :
    Move k (k.update a Attempt.errored)
  | closed (a : AttemptId) (x : Attempt) (hx : k.attempts[a]? = some x)
    (hsocket : x.hasSocket = true) : Move k (k.onclose a)
  | settled (a : AttemptId) (outcome : Outcome) (h : a ∈ k.restores) :
    Move k (k.update a (fun x => { x with settled := true, outcome := some outcome }))
  | released (a : AttemptId) (x : Attempt) (hx : k.attempts[a]? = some x)
    (houtcome : x.outcome.isSome = true) (hcontroller : k.controller = some a) :
    Move k { k with controller := none }

abbrev Moves : Sockets → Sockets → Prop := Relation.ReflTransGen Move

inductive Supersedes (k : Sockets) : Sockets → Prop
  | started (reconnecting synchronous : Bool) (reports : Nat) :
    Supersedes k (k.abortCurrent.start reconnecting synchronous reports)
  | cancelled (reports : Nat) : Supersedes k (k.abortCurrent.cancel reports)
  | disconnected : Supersedes k k.disconnect

end Sockets

namespace Client

open Sockets (Move Moves)

variable {s t : Client} {wire : Wire} {a : AttemptId} {c : CommandId}

def sockets (s : Client) : Sockets where
  attempts := s.attempts
  socket := s.socket
  generation := s.generation
  controller := s.connectAbortController
  restores := s.restores.map Restore.attempt

/-! What the methods do to the sockets. -/

@[simp] theorem sockets_setState (state : ClientState) : (s.setState state).sockets = s.sockets := by
  unfold setState
  split <;> rfl

@[simp] theorem sockets_settleAll (commands : List CommandId) (outcome : Outcome) :
    (s.settleAll commands outcome).sockets = s.sockets := by
  induction commands generalizing s with
  | nil => rfl
  | cons c commands ih => exact ih

@[simp] theorem sockets_rejectPending (code : ErrorCode) :
    (s.rejectPending code).sockets = s.sockets :=
  sockets_settleAll s.pending (.rejected code)

@[simp] theorem sockets_rejectQueued (code : ErrorCode) :
    (s.rejectQueued code).sockets = s.sockets :=
  sockets_settleAll s.queued (.rejected code)

@[simp] theorem sockets_emit (event : Emitted) : (s.emit event).sockets = s.sockets := rfl

@[simp] theorem sockets_updateAttempt (f : Attempt → Attempt) :
    (s.updateAttempt a f).sockets = s.sockets.update a f := rfl

@[simp] theorem sockets_scheduleReconnect : s.scheduleReconnect.sockets = s.sockets := by
  unfold scheduleReconnect
  split
  · rfl
  split
  · simp
  · exact sockets_setState .reconnecting

theorem sockets_noteClose (code : Nat) (expected : Bool) :
    (s.noteClose code expected).sockets = { s.sockets with socket := none } := by
  unfold noteClose
  rw [sockets_emit, sockets_setState, sockets_rejectPending]
  rfl

theorem sockets_handleClose (code generation : Nat) (allowReconnect : Bool) :
    (s.handleClose code generation allowReconnect).sockets =
      { s.sockets with socket := if generation = s.generation then none else s.socket } := by
  unfold handleClose
  by_cases hgen : generation = s.generation
  · rw [if_neg (not_not_intro hgen), if_pos hgen]
    extract_lets expected
    split
    · exact sockets_noteClose code expected
    · rw [sockets_scheduleReconnect]
      exact sockets_noteClose code expected
  · rw [if_pos hgen, if_neg hgen]
    rfl

theorem sockets_onclose (a : AttemptId) (code : Nat) :
    (s.onclose a code).sockets = s.sockets.onclose a := by
  unfold onclose
  split
  · next hx =>
    have hsa : s.attempts.modify a Attempt.closed = s.attempts :=
      modify_eq_self (List.getElem?_eq_none_iff.mp hx)
    simp [sockets, Sockets.onclose, Sockets.update, hx, hsa]
  · next x hx =>
    extract_lets noted settled
    have hse : settled.sockets = s.sockets.update a Attempt.closed := by
      simp only [settled, noted]
      cases hca : x.settled with
      | true =>
        rw [if_pos rfl, sockets_updateAttempt]
        simp only [Sockets.update, sockets]
        rw [modify_congr hx]
        simp [Attempt.closed, hca]
      | false =>
        rw [if_neg Bool.false_ne_true, rejectAttempt, sockets_updateAttempt, sockets_updateAttempt]
        simp only [Sockets.update, sockets, modify_modify_eq]
        rw [modify_congr hx]
        simp [Attempt.closed, Attempt.reject, hca]
    have hge : settled.generation = s.generation := congrArg Sockets.generation hse
    have hso : settled.socket = s.socket := congrArg Sockets.socket hse
    rw [sockets_handleClose, hse, hge, hso]
    simp [sockets, Sockets.onclose, Sockets.update, Sockets.isCurrent, hx]

theorem sockets_closeSocket (a : AttemptId) (code : Nat) :
    (s.closeSocket a code).sockets = s.sockets.close a := by
  unfold closeSocket
  cases hx : s.attempts[a]? with
  | none =>
    have hsa : s.attempts.modify a Attempt.close = s.attempts :=
      modify_eq_self (List.getElem?_eq_none_iff.mp hx)
    simp [sockets, Sockets.close, Sockets.update, hx, hsa]
  | some x =>
    dsimp only
    by_cases hdo : x.readyState = .closing ∨ x.readyState = .closed
    · have hli : x.live = false := by
        rcases hdo with h | h <;> simp [Attempt.live, h]
      have hsa : s.attempts.modify a Attempt.close = s.attempts := by
        rw [modify_congr (g := id) hx (by simp [Attempt.close, hli]), modify_id]
      rw [if_pos hdo]
      simp [sockets, Sockets.close, Sockets.update, hx, hsa, hli]
    · have hli : x.live = true := by
        cases h : x.readyState <;> simp_all [Attempt.live]
      rw [if_neg hdo]
      by_cases hsy : x.synchronous = true
      · rw [if_pos hsy, sockets_onclose, sockets_updateAttempt]
        have hca : (s.sockets.attempts.modify a (fun attempt : Attempt =>
            { attempt with closeCalled := true, readyState := .closing }))[a]? =
            some { x with closeCalled := true, readyState := .closing } := by
          simp [sockets, hx]
        simp only [Sockets.onclose, Sockets.close, Sockets.update, modify_modify_eq, hca]
        simp only [sockets] at hca ⊢
        rw [modify_congr (g := Attempt.close) hx (by simp [Attempt.close, hli, hsy])]
        simp [hx, hli, hsy, Sockets.isCurrent]
      · rw [if_neg hsy, sockets_updateAttempt]
        simp only [Sockets.close, Sockets.update, sockets]
        rw [modify_congr (g := Attempt.close) hx (by simp [Attempt.close, hli, hsy])]
        simp [hx, hsy]

theorem sockets_closeCurrent (code : Nat) :
    (s.closeCurrent code).sockets = s.sockets.closeCurrent := by
  unfold closeCurrent Sockets.closeCurrent
  cases hso : s.socket with
  | none => simp [sockets, hso]
  | some a => simpa [sockets, hso] using sockets_closeSocket (s := s) a code

theorem sockets_abortAttempt (a : AttemptId) (reason : ErrorCode) :
    (s.abortAttempt a reason).sockets = s.sockets.abort a reason := by
  unfold abortAttempt
  cases hx : s.attempts[a]? with
  | none =>
    have hsa : s.attempts.modify a (Attempt.abort reason) = s.attempts :=
      modify_eq_self (List.getElem?_eq_none_iff.mp hx)
    simp [sockets, Sockets.abort, Sockets.update, hx, hsa]
  | some x =>
    dsimp only
    by_cases hab : x.aborted.isSome = true
    · have hsa : s.attempts.modify a (Attempt.abort reason) = s.attempts := by
        rw [modify_congr (g := id) hx (by simp [Attempt.abort, hab]), modify_id]
      have hno : x.aborted.isNone = false := by simpa [isNone_eq_false_iff] using hab
      rw [if_pos hab]
      simp only [sockets, Sockets.abort, Sockets.update, hx, hsa, any_some, hno,
        Bool.false_and, Bool.false_eq_true, if_false]
    rw [if_neg hab]
    by_cases hli : (x.abortListener && !x.settled) = true
    · rw [if_pos hli, sockets_closeSocket, rejectAttempt, sockets_updateAttempt,
        sockets_updateAttempt]
      have hre : ((s.sockets.attempts.modify a (fun attempt : Attempt =>
          { attempt with aborted := some reason })).modify a (fun attempt : Attempt =>
          { attempt with settled := true, outcome := some (.rejected .cancelled) }))[a]? =
          some (({ x with aborted := some reason } : Attempt).reject .cancelled) := by
        simp [sockets, hx, Attempt.reject]
      simp only [Sockets.close, Sockets.abort, Sockets.update, hre]
      simp only [modify_modify_eq, sockets]
      rw [modify_congr (g := Attempt.abort reason) hx
        (by simp [Attempt.abort, hab, hli, Attempt.reject])]
      simp_all [Sockets.isCurrent, Attempt.reject, Attempt.live]
    · rw [if_neg hli, sockets_updateAttempt]
      simp only [Sockets.abort, Sockets.update, sockets]
      rw [modify_congr (g := Attempt.abort reason) hx
        (by simp [Attempt.abort, hab, hli])]
      simp_all

theorem sockets_abortCurrent : s.abortCurrent.sockets = s.sockets.abortCurrent := by
  unfold abortCurrent Sockets.abortCurrent
  cases hco : s.connectAbortController with
  | none => simp [sockets, hco]
  | some a => simpa [sockets, hco] using sockets_abortAttempt (s := s) a .connectionSuperseded

variable {i generation : Nat} {restore : Restore} {x : Attempt} {event : ClientEvent}

@[simp] theorem sockets_updateRestore {f : Restore → Restore}
    (hf : ∀ restore, (f restore).attempt = restore.attempt) :
    (s.updateRestore i f).sockets = s.sockets := by
  have hmap : (s.restores.modify i f).map Restore.attempt = s.restores.map Restore.attempt := by
    apply ext_getElem?
    intro n
    simp only [getElem?_map, getElem?_modify]
    cases s.restores[n]? with
    | none => rfl
    | some restore => by_cases hin : i = n <;> simp [hin, hf]
  simp [sockets, updateRestore, hmap]

theorem sockets_disconnect (code : Nat) : (s.disconnect code).sockets = s.sockets.disconnect := by
  unfold disconnect
  extract_lets aborted cleared rejected closed
  rw [sockets_setState]
  have hab : aborted.sockets =
      ({ s.sockets with generation := s.generation + 1 } : Sockets).abortCurrent :=
    sockets_abortCurrent
  have hcl : cleared.sockets = { aborted.sockets with controller := none } := by
    simp only [cleared, sockets_setState]
    rfl
  have hre : rejected.sockets = cleared.sockets := by
    simp only [rejected, sockets_rejectQueued, sockets_rejectPending]
  have hso : rejected.socket = aborted.sockets.socket := by
    rw [hcl] at hre
    exact congrArg Sockets.socket hre
  have hclo : closed.sockets = { aborted.sockets with
      attempts := match aborted.sockets.socket with
        | none => aborted.sockets.attempts
        | some a => aborted.sockets.attempts.modify a Attempt.close
      socket := none
      controller := none } := by
    simp only [closed]
    split
    · next h =>
      rw [hso] at h
      simp [hre, hcl, h]
    · next a h =>
      rw [hso] at h
      rw [sockets_closeSocket]
      have hop : ({ rejected with socket := none } : Client).sockets =
          { aborted.sockets with socket := none, controller := none } := by
        rw [← hre] at hcl
        exact congrArg (fun k : Sockets => { k with socket := none }) hcl
      simp [hop, Sockets.close, Sockets.update, h]
  rw [hclo, hab]
  rfl

/-! Moves. -/

theorem moves_closeCurrent (code : Nat) : Moves s.sockets (s.closeCurrent code).sockets := by
  rw [sockets_closeCurrent]
  unfold Sockets.closeCurrent
  split
  · exact .refl
  · next a hso => exact .single (.close a (.inl hso))

theorem moves_transmitEnvelope (wire : Wire) (c : CommandId) (queueWhenUnavailable : Bool) :
    Moves s.sockets (s.transmitEnvelope wire c queueWhenUnavailable).sockets := by
  have hca := transmits s wire c queueWhenUnavailable
  generalize s.transmitEnvelope wire c queueWhenUnavailable = t at hca
  cases hca with
  | rejected => exact .refl
  | requeued => exact .refl
  | thrown => exact moves_closeCurrent (s := (s.dropListener c).settle c _) 4009
  | sent a =>
    refine .single (.note a _ fun x => ?_)
    constructor <;> rfl

theorem moves_flush {iterations : Nat} {failure : Option ErrorCode}
    (h : flush wire iterations s = some (t, failure)) : Moves s.sockets t.sockets :=
  flush_induct (P := fun u => Moves s.sockets u.sockets) (fun _ _ h => h) (fun _ _ h => h)
    (fun _ c h => h.trans (moves_transmitEnvelope wire c true)) .refl h

theorem moves_restoreLoop {held : JsMap Route CommandId} {routes : List Route} {failures : Nat}
    (h : restoreLoop wire i generation held routes failures s = some t) :
    Moves s.sockets t.sockets := by
  induction routes generalizing failures s with
  | nil =>
    rw [restoreLoop] at h
    split at h
    · cases h
      simp only [sockets_updateRestore, implies_true]
      exact .refl
    split at h
    · cases h
      simp only [sockets_updateRestore, implies_true]
      exact .refl
    · obtain ⟨flushed, hfl, rfl⟩ := map_eq_some_iff.mp h
      simp only [sockets_updateRestore, implies_true]
      exact moves_flush hfl
  | cons route routes ih =>
    rw [restoreLoop] at h
    split at h
    · extract_lets c issued at h
      cases h
      have his : issued.sockets = s.sockets := by
        simp only [issued]
        split <;> rfl
      have htr := moves_transmitEnvelope (s := issued.updateRestore i (fun restore => { restore with
        routes := routes, failures := failures, stage := .subscribing route c })) wire c false
      simp only [sockets_updateRestore, implies_true, his] at htr
      exact htr
    · exact ih (s := s.emit (.error .connectionClosed)) h

theorem moves_continueRestore (h : s.continueRestore wire i restore generation = some t) :
    Moves s.sockets t.sockets := by
  unfold continueRestore at h
  extract_lets next u at h
  have hne : ∀ failures s', next failures s' = some t → s'.sockets = s.sockets →
      Moves s.sockets t.sockets := by
    intro failures s' hlo hsa
    have hmo := moves_restoreLoop hlo
    rwa [hsa] at hmo
  split at h
  · next route c _ =>
    split at h
    · cases h
    · exact hne _ _ h rfl
    split at h
    · exact hne _ _ h rfl
    split at h
    · exact hne _ _ h rfl
    · cases h
      have htr := moves_transmitEnvelope
        (s := (s.newCommand { type := .unsubscribe, route := route }).updateRestore i
          (fun restore => { restore with stage := .unsubscribing route u })) wire u false
      simp only [sockets_updateRestore, implies_true] at htr
      exact htr
  · split at h
    · cases h
    · exact hne _ _ h rfl
    · exact hne _ _ h rfl
  · cases h

theorem moves_startRestore (hst : s.startRestore wire a generation = some t) :
    Moves { s.sockets with restores := s.sockets.restores ++ [a] } t.sockets := by
  unfold startRestore at hst
  extract_lets held routes restore at hst
  have hmo := moves_restoreLoop hst
  simpa [sockets, restore] using hmo

theorem moves_restored (ha : a ∈ s.sockets.restores) (hx : s.attempts[a]? = some x) :
    Moves s.sockets (s.restored i a x).sockets := by
  unfold restored
  extract_lets superseded reported
  have hsu : ∀ s', (superseded s').sockets = s'.sockets := by
    intro s'
    simp only [superseded, sockets_updateRestore, implies_true]
  have hre : reported.sockets = s.sockets.update a (fun attempt =>
      { attempt with connectionEstablished := true }) := by
    simp only [reported, reportOpen, sockets_setState]
    rfl
  have hmo : Moves s.sockets reported.sockets := by
    rw [hre]
    refine .single (.note a _ fun x => ?_)
    constructor <;> rfl
  split
  · rw [hsu]
  split
  · rw [hsu]
    exact hmo
  · have hrx : reported.sockets.attempts[a]? = some { x with connectionEstablished := true } := by
      rw [hre]
      simp [Sockets.update, sockets, hx]
    have hra : a ∈ reported.sockets.restores := by
      rw [hre]
      exact ha
    simp only [sockets_updateRestore, implies_true, sockets_updateAttempt]
    change Moves s.sockets (reported.sockets.update a _)
    cases hse : x.settled with
    | true =>
      have hsa : reported.sockets.update a (fun attempt => if attempt.settled then attempt
          else { attempt with settled := true, outcome := some .resolved }) = reported.sockets := by
        rw [Sockets.update, modify_congr (g := id) hrx (by simp [hse]), modify_id]
      rw [hsa]
      exact hmo
    | false =>
      have hch : reported.sockets.update a (fun attempt => if attempt.settled then attempt
          else { attempt with settled := true, outcome := some .resolved }) =
          reported.sockets.update a (fun attempt =>
            { attempt with settled := true, outcome := some .resolved }) := by
        rw [Sockets.update, Sockets.update]
        congr 1
        apply modify_congr hrx
        simp [hse]
      rw [hch]
      exact hmo.tail (.settled a .resolved hra)

theorem moves_restoreFailed (ha : a ∈ s.sockets.restores) (code : ErrorCode) :
    Moves s.sockets (s.restoreFailed i a x code).sockets := by
  unfold restoreFailed
  extract_lets noted rejected
  have hno : noted.sockets = s.sockets := by
    simp only [noted, sockets_updateRestore, implies_true]
  split
  · rw [hno]
  have hre : rejected.sockets = s.sockets.update a (Attempt.reject code.normalize) := by
    simp only [rejected, rejectAttempt, sockets_updateAttempt, sockets_rejectQueued, hno]
    rfl
  have hmo : Moves s.sockets rejected.sockets := by
    rw [hre]
    exact .single (.settled a (.rejected code.normalize) ha)
  split
  · rw [sockets_closeSocket]
    refine hmo.tail (.close a (.inr ?_))
    rw [hre]
    exact ha
  · exact hmo

theorem moves_createSocket (hx : s.attempts[a]? = some x) (hba : x.hasSocket = false)
    (hop : x.outcome = none) :
    Moves s.sockets (s.createSocket a x).sockets := by
  unfold createSocket
  split
  · exact .single (.failed a x _ hx hba hop)
  next hab =>
  split
  · exact .single (.failed a x .connectionSuperseded hx hba hop)
  · next hcu =>
    have hge : x.generation = s.generation := by
      by_contra h
      exact hcu (.inl h)
    exact .single (.created a x hx hba hop hab hge)

theorem moves_catchAttempt (x : Attempt) (outcome : Outcome) :
    Moves s.sockets (s.catchAttempt a x outcome).sockets := by
  unfold catchAttempt
  extract_lets noted
  have hno : Moves s.sockets noted.sockets := by
    refine .single (.note a _ fun x => ?_)
    constructor <;> rfl
  split
  · exact hno
  split
  · split
    · exact hno
    · rw [sockets_scheduleReconnect, sockets_emit]
      exact hno
  split
  · rw [sockets_rejectQueued, sockets_setState]
    exact hno
  · exact hno

theorem moves_finishAttempt (hx : s.attempts[a]? = some x) {outcome : Outcome}
    (hou : x.outcome = some outcome) :
    Moves s.sockets (s.finishAttempt a x outcome).sockets := by
  unfold finishAttempt
  extract_lets updated noted
  have hfi : Moves s.sockets (s.sockets.update a (fun x => { x with finished := true })) := by
    refine .single (.note a _ fun x => ?_)
    constructor <;> rfl
  have hno : Moves s.sockets noted.sockets := by
    by_cases hco : s.connectAbortController = some a
    · have hso : noted.sockets =
          { s.sockets.update a (fun x => { x with
            finished := true }) with controller := none } := by
        simp only [noted, updated, sockets, Sockets.update, updateAttempt, if_pos hco]
      rw [hso]
      refine hfi.tail (.released a { x with finished := true } ?_ ?_ hco)
      · simp [Sockets.update, sockets, hx]
      · simp [hou]
    · have hso : noted.sockets =
          s.sockets.update a (fun x => { x with finished := true }) := by
        simp only [noted, updated, sockets, Sockets.update, updateAttempt, if_neg hco]
      rw [hso]
      exact hfi
  split
  · exact hno
  · exact hno

/-! Superseding. -/

/-- `connect` would start an attempt. -/
def starts (s : Client) : Bool :=
  !(s.stateValue = .opened && s.socketIsOpen) && s.connectPromise.isNone

def supersedes (s : Client) : ClientEvent → Bool
  | .connect _ => s.starts
  | .disconnect _ | .reconnectTimer => true
  | .publish .. | .ping .. | .subscribe .. | .unsubscribe _ | .heartbeat | .establishContinued _ =>
    (s.stateValue = .idle || s.stateValue = .closed) && s.starts
  | _ => false

/-- The sockets move, or if `starting` says that they may, are superseded. -/
def Changes (starting : Bool) (s t : Client) : Prop :=
  Moves s.sockets t.sockets ∨ starting = true ∧ s.sockets.Supersedes t.sockets

theorem sockets_openSocket (reconnecting synchronous : Bool) :
    (s.openSocket reconnecting synchronous).sockets = { s.sockets with
      attempts := s.sockets.attempts ++ [{
        generation := s.sockets.generation + 1
        reconnecting := reconnecting
        synchronous := synchronous }]
      generation := s.sockets.generation + 1 } := by
  unfold openSocket
  rw [sockets_setState]
  rfl

theorem sockets_openCancelled : s.openCancelled.sockets = { s.sockets with
    attempts := s.sockets.attempts ++ [{
      generation := s.sockets.generation
      reconnecting := false
      synchronous := false
      aborted := some .cancelled
      outcome := some (.rejected .cancelled) }] } := rfl

theorem changes_connect (aborted synchronous report : Bool) :
    Changes s.starts s (s.connect aborted synchronous report) := by
  unfold connect
  split
  · exact .inl .refl
  next hcl =>
  split
  · split
    · refine .inl (.single (.note _ _ fun x => ?_))
      constructor <;> rfl
    · exact .inl .refl
  next hpr =>
  have hsta : s.starts = true := by
    rw [starts, hpr]
    simpa [imp_iff_not_or] using hcl
  refine .inr ⟨hsta, ?_⟩
  extract_lets superseding n held started reporting
  have hsu : superseding.sockets = s.sockets.abortCurrent :=
    sockets_abortCurrent (s := { s with intentionalClose := false, reconnectTimer := false })
  have hhe : held.sockets = { superseding.sockets with
      controller := some superseding.sockets.attempts.length } := rfl
  have hre : ∀ x : Attempt, started.sockets.attempts = superseding.sockets.attempts ++ [x] →
      ({ reporting with connectPromise := some n } : Client).sockets =
      { started.sockets with
        attempts := superseding.sockets.attempts ++
          [{ x with reports := x.reports + (if report then 1 else 0) }] } := by
    intro x hst
    have hn : n = superseding.sockets.attempts.length := rfl
    simp only [reporting]
    cases report with
    | true =>
      have hmo : (started.updateAttempt n (fun attempt =>
          { attempt with reports := attempt.reports + 1 })).attempts =
          superseding.sockets.attempts ++ [{ x with reports := x.reports + 1 }] := by
        change started.sockets.attempts.modify n _ = _
        rw [hst, hn, modify_append_singleton]
      rw [if_pos rfl, if_pos rfl, ← hmo]
      rfl
    | false =>
      rw [if_neg Bool.false_ne_true, if_neg Bool.false_ne_true, Nat.add_zero, ← hst]
      rfl
  cases aborted with
  | true =>
    have hop : started.sockets = _ := sockets_openCancelled (s := held)
    have hst := congrArg Sockets.attempts hop
    rw [hre _ hst, hop]
    have hca := Sockets.Supersedes.cancelled (k := s.sockets) (if report then 1 else 0)
    rw [← hsu] at hca
    simpa [Sockets.cancel, hhe] using hca
  | false =>
    have hop : started.sockets = _ := sockets_openSocket (s := held) false synchronous
    have hst := congrArg Sockets.attempts hop
    rw [hre _ hst, hop]
    have hnew := Sockets.Supersedes.started (k := s.sockets) false synchronous
      (if report then 1 else 0)
    rw [← hsu] at hnew
    simpa [Sockets.start, hhe] using hnew

theorem supersedes_reconnect (synchronous : Bool) :
    s.sockets.Supersedes (s.reconnect synchronous).sockets := by
  unfold reconnect
  extract_lets superseding n
  have hsu : superseding.sockets = s.sockets.abortCurrent :=
    sockets_abortCurrent (s := { s with reconnectTimer := false })
  rw [sockets_openSocket]
  have hnew := Sockets.Supersedes.started (k := s.sockets) true synchronous 0
  rw [← hsu] at hnew
  exact hnew

theorem changes_sendCommand (wire : Wire) (command : Command) :
    Changes ((s.stateValue = .idle || s.stateValue = .closed) && s.starts) s
      (s.sendCommand wire command) := by
  unfold sendCommand
  extract_lets c issued updated queued
  split
  · exact .inl .refl
  split
  · exact .inl (moves_transmitEnvelope (s := issued) wire c true)
  split
  · exact .inl .refl
  split
  · next hid =>
    have hch := changes_connect (s := queued) false wire.synchronous true
    rcases hch with hmo | ⟨hst, hsu⟩
    · exact .inl hmo
    · refine .inr ⟨?_, hsu⟩
      have hsta : (s.stateValue = .idle || s.stateValue = .closed : Bool) = true := by
        simpa using hid
      rw [hsta]
      exact hst
  · exact .inl .refl

theorem changes_subscribe (wire : Wire) (route : Route) (hasSignal : Bool) :
    Changes ((s.stateValue = .idle || s.stateValue = .closed) && s.starts) s
      (s.subscribe wire route hasSignal) := by
  unfold subscribe
  extract_lets registered existing e sent
  have hre : registered.1.sockets = s.sockets ∧ registered.1.stateValue = s.stateValue ∧
      registered.1.starts = s.starts := by
    simp only [registered, addRegistration]
    split <;> exact ⟨rfl, rfl, rfl⟩
  obtain ⟨hso, hsta, hst⟩ := hre
  split
  · left
    rw [← hso]
    exact .refl
  clear_value existing
  cases existing with
  | some e =>
    left
    rw [← hso]
    exact .refl
  | none =>
    have hch := changes_sendCommand (s := registered.1) wire { type := .subscribe, route := route }
    rw [Changes, hso, hsta, hst] at hch
    exact hch

theorem changes_unsubscribe (wire : Wire) (k : CallId) (call : SubscribeCall) :
    Changes ((s.stateValue = .idle || s.stateValue = .closed) && s.starts) s
      (s.unsubscribe wire k call) := by
  unfold unsubscribe
  extract_lets finish
  split
  · exact .inl .refl
  extract_lets members removed deleted
  split
  · exact .inl .refl
  split
  · exact .inl .refl
  · exact changes_sendCommand (s := deleted) wire { type := .unsubscribe, route := call.route }

theorem changes_continueEstablish {e : EstablishId} {establish : Establish}
    (h : s.continueEstablish wire e establish = some t) :
    Changes ((s.stateValue = .idle || s.stateValue = .closed) && s.starts) s t := by
  unfold continueEstablish at h
  split at h
  · split at h
    · cases h
    · cases h
      exact .inl .refl
    split at h
    · extract_lets u sent at h
      cases h
      exact changes_sendCommand wire { type := .unsubscribe, route := establish.route }
    · cases h
      exact .inl .refl
  · split at h
    · cases h
    · cases h
      exact .inl .refl
  · cases h

theorem moves_handleMessage (message : Message) : (s.handleMessage message).sockets = s.sockets := by
  unfold handleMessage
  split
  · rfl
  · rfl
  · rfl
  · split <;> rfl
  · unfold invokeListeners
    split <;> rfl
  · split <;> rfl
  · split <;> rfl

theorem moves_socketStep (hx : s.attempts[a]? = some x) (h : s.socketStep wire a x event = some t) :
    Moves s.sockets t.sockets := by
  unfold socketStep at h
  split at h
  · split at h
    · cases h
    next hre =>
    simp only [not_or, Bool.not_eq_false, Bool.not_eq_true] at hre
    obtain ⟨hso, hop, hde⟩ := hre
    extract_lets noted at h
    split at h
    · next hla =>
      cases h
      rw [sockets_closeSocket]
      exact .single (.openedLate a x hx hso hop hde hla)
    · next hla =>
      simp only [not_or, Bool.not_eq_true, not_not] at hla
      have hmo := moves_startRestore h
      refine .head (.opened a x hx hso hop hde hla.1 hla.2) ?_
      simpa [noted, sockets, Sockets.update, updateAttempt, modify_modify_eq,
        Function.comp_def] using hmo
  · split at h
    · cases h
    · cases h
      rw [moves_handleMessage]
  · split at h
    · cases h
    next hre =>
    simp only [not_or, Bool.not_eq_false, Bool.not_eq_true] at hre
    extract_lets noted at h
    refine .single ?_
    have hsoc : t.sockets = s.sockets.update a Attempt.errored := by
      split at h
      · next hse =>
        rw [← some.inj h]
        simp only [noted, sockets_updateAttempt, Sockets.update]
        congr 1
        apply modify_congr hx
        simp [Attempt.errored, hse]
      · next hse =>
        rw [← some.inj h]
        simp only [noted, rejectAttempt, sockets_updateAttempt, Sockets.update,
          modify_modify_eq]
        congr 1
        apply modify_congr hx
        simp [Attempt.errored, Attempt.reject, hse]
    rw [hsoc]
    exact .errored a x hx hre.1 hre.2
  · split at h
    · cases h
    next hre =>
    simp only [not_or, Bool.not_eq_false, Bool.not_eq_true] at hre
    cases h
    rw [sockets_onclose]
    exact .single (.closed a x hx hre.1)
  · cases h

theorem moves_attemptStep (hx : s.attempts[a]? = some x) (h : s.attemptStep a x event = some t) :
    Moves s.sockets t.sockets := by
  unfold attemptStep at h
  split at h
  · split at h
    · cases h
    · cases h
      rw [sockets_abortAttempt]
      exact .single (.abort a .cancelled)
  · split at h
    · cases h
    next hre =>
    simp only [not_or, Bool.not_eq_true, isSome_eq_false_iff, isNone_iff_eq_none]
      at hre
    cases h
    exact moves_createSocket hx hre.1 hre.2
  · split at h
    · cases h
    next hre =>
    simp only [not_or, Bool.not_eq_true, isSome_eq_false_iff, isNone_iff_eq_none]
      at hre
    cases h
    exact .single (.failed a x _ hx hre.1 hre.2)
  · split at h
    · cases h
    · obtain ⟨outcome, -, rfl⟩ := map_eq_some_iff.mp h
      exact moves_catchAttempt x outcome
  · split at h
    · cases h
    · obtain ⟨outcome, hou, rfl⟩ := map_eq_some_iff.mp h
      exact moves_finishAttempt hx hou
  · cases h

theorem moves_restoreStep (hi : s.restores[i]? = some restore)
    (hx : s.attempts[restore.attempt]? = some x) (h : s.restoreStep wire i restore x event = some t) :
    Moves s.sockets t.sockets := by
  have hmem : restore.attempt ∈ s.sockets.restores :=
    List.mem_map_of_mem (mem_of_getElem? hi)
  unfold restoreStep at h
  split at h
  · exact moves_continueRestore h
  · split at h
    · cases h
      exact moves_restored hmem hx
    · cases h
      exact moves_restoreFailed hmem _
    · cases h
  · cases h

theorem moves_commandStep {command : Command} (h : s.commandStep c command event = some t) :
    Moves s.sockets t.sockets := by
  unfold commandStep at h
  split at h
  · split at h
    · cases h
      unfold abortCommand
      extract_lets noted
      split
      · split <;> exact .refl
      · split <;> exact .refl
    · cases h
  · split at h
    · cases h
      exact .refl
    · cases h
  · split at h
    · cases h
    split at h
    · cases h
      exact moves_closeCurrent (s := (s.updateCommand c _).emit _) 4009
    · cases h
  · cases h

theorem changes_callStep {k : CallId} {call : SubscribeCall}
    (h : s.callStep wire k call event = some t) :
    Changes (s.supersedes event) s t := by
  unfold callStep at h
  split at h
  · split at h
    · cases h
      exact changes_unsubscribe wire k call
    · cases h
  · split at h
    · cases h
      exact .inl .refl
    · cases h
  · split at h
    · unfold settleCall at h
      split at h
      · cases h
        exact .inl .refl
      split at h
      · cases h
      · cases h
        exact .inl .refl
      · cases h
        exact .inl .refl
    · cases h
  · split at h
    · cases h
    unfold continueUnsubscribe at h
    split at h
    · cases h
    · cases h
      exact .inl .refl
    · cases h
      left
      exact moves_closeCurrent (s := { s.updateCall k _ with sets := _, subscriptions := _ }) 4000
  · cases h

theorem changes_step (h : step s (wire, event) = some t) :
    Changes (s.supersedes event) s t := by
  unfold step at h
  extract_lets wire' event' at h
  cases event with
  | connect aborted =>
    cases h
    exact changes_connect aborted wire.synchronous false
  | disconnect code =>
    cases h
    refine .inr ⟨rfl, ?_⟩
    rw [sockets_disconnect]
    exact .disconnected
  | publish route hasSignal aborted =>
    cases h
    exact changes_sendCommand wire _
  | ping hasSignal aborted =>
    cases h
    exact changes_sendCommand wire _
  | subscribe route hasSignal =>
    cases h
    exact changes_subscribe wire route hasSignal
  | reconnectTimer =>
    obtain ⟨-, h⟩ := ite_none_right_eq_some.mp h
    cases h
    exact .inr ⟨rfl, supersedes_reconnect wire.synchronous⟩
  | heartbeat =>
    obtain ⟨-, h⟩ := ite_none_right_eq_some.mp h
    cases h
    exact changes_sendCommand wire _
  | opened a | message a _ | errored a | closed a _ =>
    obtain ⟨x, hx, h⟩ := bind_eq_some_iff.mp h
    exact .inl (moves_socketStep hx h)
  | abortConnect a | urlResolved a | urlRejected a _ | attemptCaught a | attemptFinished a =>
    obtain ⟨x, hx, h⟩ := bind_eq_some_iff.mp h
    exact .inl (moves_attemptStep hx h)
  | restoreContinued i | restoreSettled i =>
    obtain ⟨restore, hi, h⟩ := bind_eq_some_iff.mp h
    obtain ⟨x, hx, h⟩ := bind_eq_some_iff.mp h
    exact .inl (moves_restoreStep hi hx h)
  | unsubscribe k | abortSubscribe k | subscribeSettled k | unsubscribeSettled k =>
    obtain ⟨call, -, h⟩ := bind_eq_some_iff.mp h
    exact changes_callStep h
  | abortCommand c | timeout c | heartbeatFailed c =>
    obtain ⟨command, -, h⟩ := bind_eq_some_iff.mp h
    exact .inl (moves_commandStep h)
  | establishContinued e =>
    obtain ⟨establish, -, h⟩ := bind_eq_some_iff.mp h
    exact changes_continueEstablish h

end Client

end Realtime.Sdk
