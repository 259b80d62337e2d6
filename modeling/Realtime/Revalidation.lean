import Realtime.Gateway

/-! The identity of a connection is revalidated on five occasions: by the
heartbeat and the receiver of a WebSocket, by the delivery of an event, and by
the message posts and the background loop of the HTTP fallback. Each has its own
order of the look-up and the expiry checks. -/

namespace Realtime

inductive RevalidationPath where
  | heartbeat | receive | delivery | post | background
  deriving DecidableEq

structure CloseRequest where
  status : Nat
  description : Text

namespace RealtimeCloseStatus

def normalClosure : Nat := 1000
def internalServerError : Nat := 1011
def authenticationExpired : Nat := 4003

end RealtimeCloseStatus

section

variable (connection : RealtimeConnection) (answers : Answers)

/-- The close that `RunReceiverAsync` and `RunHeartbeatAsync` request for the
result of `RevalidateIdentityAsync`. -/
def closeUnlessValid : Except CloseRequest RealtimeConnection :=
  match revalidateIdentity connection answers with
  | (.invalid, _) =>
    .error ⟨RealtimeCloseStatus.authenticationExpired, utf16 "authentication_invalid"⟩
  | (.unavailable, _) =>
    .error ⟨RealtimeCloseStatus.internalServerError, utf16 "authentication_unavailable"⟩
  | (.valid, refreshed) => .ok refreshed

def closeExpired : Except CloseRequest RealtimeConnection :=
  .error ⟨RealtimeCloseStatus.authenticationExpired, utf16 "authentication_expired"⟩

/-- An iteration of `RunHeartbeatAsync` up to the idle check. -/
def revalidateHeartbeat : Except CloseRequest RealtimeConnection :=
  match closeUnlessValid connection answers with
  | .error close => .error close
  | .ok refreshed =>
    if refreshed.identity.expiresAt ≤ answers.revalidatedAt.ticks then closeExpired
    else .ok refreshed

/-- `RunReceiverAsync` for a text frame with a valid envelope. -/
def revalidateReceive : Except CloseRequest RealtimeConnection :=
  if connection.identity.expiresAt ≤ answers.arrivedAt.ticks then closeExpired
  else closeUnlessValid connection answers

/-- The part of `DeliverAsync` between its two checks of the recipient. -/
def revalidateDelivery : Except CloseRequest RealtimeConnection :=
  let unlessExpired (refreshed : RealtimeConnection) : Except CloseRequest RealtimeConnection :=
    if refreshed.identity.expiresAt ≤ answers.arrivedAt.ticks then closeExpired
    else .ok refreshed
  match connection.sessionId with
  | none => unlessExpired connection
  | some _ =>
    match answers.session with
    | .identity refreshed =>
      if refreshed.owner = connection.identity.owner then
        unlessExpired (connection.updateIdentity refreshed)
      else closeExpired
    | .missing => closeExpired
    | .unavailable =>
      .error ⟨RealtimeCloseStatus.internalServerError, utf16 "authentication_unavailable"⟩

/-- `RevalidateAsync` and what its callers do when it returns false. -/
def revalidateFallback (reason : Text) : Except CloseRequest RealtimeConnection :=
  let revalidated := revalidateHttp connection answers
  if revalidated.1 then .ok revalidated.2
  else .error ⟨RealtimeCloseStatus.normalClosure, reason⟩

def revalidate : RevalidationPath → Except CloseRequest RealtimeConnection
  | .heartbeat => revalidateHeartbeat connection answers
  | .receive => revalidateReceive connection answers
  | .delivery => revalidateDelivery connection answers
  | .post => revalidateFallback connection answers (utf16 "authentication_invalid")
  | .background => revalidateFallback connection answers (utf16 "http_connection_complete")

end

/-- All readings of the clock that a revalidation makes return the same time. -/
def Answers.at (answers : Answers) (now : UtcNow) : Answers :=
  { answers with arrivedAt := now, revalidatedAt := now }

/-- The expiry that decides: the receiver and the fallback look at the cached
identity before it is refreshed, the other two at the refreshed one. -/
def RevalidationPath.decidingExpiry (path : RevalidationPath)
    (cached refreshed : RealtimeIdentity) : Int :=
  match path with
  | heartbeat | delivery => refreshed.expiresAt
  | receive | post | background => cached.expiresAt

section

variable {connection : RealtimeConnection} {answers : Answers} {now : UtcNow}

theorem owner_eq_iff {a b : RealtimeIdentity} :
    a.owner = b.owner ↔ a.tenantId = b.tenantId ∧ a.userId = b.userId :=
  Prod.ext_iff

/-- A session-backed connection is kept when the store knows its owner and the
expiry that the path looks at has not been reached. -/
theorem revalidate_toOption (hs : connection.sessionId.isSome = true) (path : RevalidationPath) :
    (revalidate connection (answers.at now) path).toOption =
      match answers.session with
      | .identity refreshed =>
        if refreshed.owner = connection.identity.owner ∧
            now.ticks < path.decidingExpiry connection.identity refreshed then
          some (connection.updateIdentity refreshed)
        else none
      | _ => none := by
  obtain ⟨sessionId, hs⟩ := Option.isSome_iff_exists.mp hs
  have hse : (answers.at now).session = answers.session := rfl
  cases ha : answers.session with
  | missing | unavailable =>
    cases path <;>
      simp only [revalidate, revalidateHeartbeat, revalidateReceive, revalidateDelivery,
        revalidateFallback, closeUnlessValid, revalidateIdentity, revalidateHttp, closeExpired,
        hs, hse, ha, ite_self, Except.toOption, Bool.false_eq_true, if_false]
    all_goals split_ifs <;> rfl
  | identity refreshed =>
    have hu : (connection.updateIdentity refreshed).identity = refreshed := rfl
    by_cases ho : refreshed.owner = connection.identity.owner
    · have ho' := owner_eq_iff.mp ho
      cases path <;>
        simp only [revalidate, revalidateHeartbeat, revalidateReceive, revalidateDelivery,
          revalidateFallback, closeUnlessValid, revalidateIdentity, revalidateHttp, closeExpired,
          hs, ha, ho, ho', hu, RevalidationPath.decidingExpiry, Answers.at,
          and_self, true_and, if_true, ← Int.not_le]
      all_goals split_ifs <;> simp_all [Except.toOption]
    · have ho' : ¬ (refreshed.tenantId = connection.identity.tenantId ∧
          refreshed.userId = connection.identity.userId) := fun h => ho (owner_eq_iff.mpr h)
      cases path <;>
        simp only [revalidate, revalidateHeartbeat, revalidateReceive, revalidateDelivery,
          revalidateFallback, closeUnlessValid, revalidateIdentity, revalidateHttp, closeExpired,
          hs, hse, ha, ho, ho', false_and, if_false]
      all_goals try split_ifs
      all_goals simp_all [Except.toOption]

end

def exampleSessionConnection (expiresAt : Int) : RealtimeConnection where
  identity := { exampleIdentity with expiresAt := expiresAt }
  sessionId := some (utf16 "session-1")

def exampleSessionAnswers (expiresAt : Int) : Answers :=
  { exampleAnswers with session := .identity { exampleIdentity with expiresAt := expiresAt } }

section

variable [CharTable] {options : RealtimeOptions} {connection : RealtimeConnection}
  {envelope : MessageEnvelope} {answers : Answers}

omit [CharTable] in
theorem revalidateIdentity_of_not_valid : (revalidateIdentity connection answers).1 ≠ .valid →
    (revalidateIdentity connection answers).2 = connection := by
  simp only [revalidateIdentity]
  repeat' split
  all_goals simp

omit [CharTable] in
theorem revalidateHttp_of_not_valid : ¬ (revalidateHttp connection answers).1 = true →
    (revalidateHttp connection answers).2 = connection := by
  simp only [revalidateHttp]
  repeat' split
  all_goals simp

theorem receiveFrame_eq_revalidate
    (hv : ProtocolValidator.validateClient (some envelope) answers.validatedAt.ticks = .valid) :
    receiveFrame options connection (.text (some envelope)) answers =
      match revalidate connection answers .receive with
      | .ok refreshed => trackAndDispatch options refreshed envelope answers
      | .error _ => { connection := connection } := by
  simp only [receiveFrame, revalidate, revalidateReceive, closeUnlessValid, hv]
  by_cases he : connection.identity.expiresAt ≤ answers.arrivedAt.ticks
  · simp only [he, if_true, closeExpired]
  · simp only [he, if_false]
    have hc := @revalidateIdentity_of_not_valid connection answers
    rcases hr : revalidateIdentity connection answers with ⟨verdict, refreshed⟩
    rw [hr] at hc
    cases verdict with
    | valid => rfl
    | invalid | unavailable =>
      rw [show refreshed = connection from hc (by rintro ⟨⟩)]
      rfl

theorem receivePost_eq_revalidate
    (hv : ProtocolValidator.validateClient (some envelope) answers.validatedAt.ticks = .valid) :
    receivePost options true connection (.text (some envelope)) answers =
      match revalidate connection answers .post with
      | .ok refreshed => trackAndDispatch options refreshed envelope answers
      | .error _ => { connection := connection } := by
  simp only [receivePost, revalidate, revalidateFallback, hv, if_true]
  by_cases hr : (revalidateHttp connection answers).1 = true
  · simp only [hr, if_true]
  · simp only [hr, Bool.false_eq_true, if_false, revalidateHttp_of_not_valid hr]

/-- A heartbeat that has the connection to itself gets to its ping, or requests
the close of the connection. -/
theorem Command.heartbeat_eq_revalidate (options : RealtimeOptions) (c : Nat) :
    ∃ n, match revalidate connection answers .heartbeat with
      | .ok refreshed =>
        (next options false answers)^[n] (⟨c, none, .revalidating⟩, connection) =
          (⟨c, none, .replying (heartbeatPing answers.fresh answers.repliedAt)⟩, refreshed)
      | .error _ => ∃ refreshed : RealtimeConnection,
        (next options false answers)^[n] (⟨c, none, .revalidating⟩, connection) =
          (⟨c, none, .finished⟩, refreshed.requestClose) := by
  simp only [revalidate, revalidateHeartbeat, closeUnlessValid, revalidateIdentity]
  cases hs : connection.sessionId with
  | none =>
    by_cases he : answers.revalidatedAt.ticks < connection.identity.expiresAt
    · have he' := Int.not_le.mpr he
      refine ⟨2, ?_⟩
      simp [he, he', Function.iterate_succ_apply, next, advance, hs]
    · have he' := Int.not_lt.mp he
      refine ⟨1, ?_⟩
      simp only [he, if_false]
      exact ⟨connection, by simp [he', next, advance, hs]⟩
  | some sessionId =>
    cases ha : answers.session with
    | missing | unavailable =>
      exact ⟨2, connection, by simp [Function.iterate_succ_apply, next, advance, hs, ha]⟩
    | identity refreshed =>
      by_cases ho : refreshed.owner = connection.identity.owner
      · have ho' := owner_eq_iff.mp ho
        by_cases he : refreshed.expiresAt ≤ answers.revalidatedAt.ticks
        · refine ⟨4, ?_⟩
          simp [ho', he, closeExpired, RealtimeConnection.updateIdentity,
            Function.iterate_succ_apply, next, advance, hs, ha, ho]
        · refine ⟨4, ?_⟩
          simp [ho', he, RealtimeConnection.updateIdentity,
            Function.iterate_succ_apply, next, advance, hs, ha, ho]
      · have ho' : ¬ (refreshed.tenantId = connection.identity.tenantId ∧
            refreshed.userId = connection.identity.userId) := fun h => ho (owner_eq_iff.mpr h)
        refine ⟨2, ?_⟩
        simp only [ho', if_false]
        exact ⟨connection, by simp [Function.iterate_succ_apply, next, advance, hs, ha, ho]⟩

end

/-- The loop body of `DeliverAsync` when it has the connection to itself. -/
def DeliveryPhase.next (options : RealtimeOptions) (message : RealtimeBusMessage)
    (answers : Answers) : Option DeliveryPhase × RealtimeConnection →
      Option DeliveryPhase × RealtimeConnection
  | (some phase, connection) => phase.advance options message connection answers
  | (none, connection) => (none, connection)

theorem DeliveryPhase.eq_revalidate {connection : RealtimeConnection}
    {message : RealtimeBusMessage} (options : RealtimeOptions) (answers : Answers)
    (hm : isPotentialRecipient connection connection.identity message = true) :
    ∃ n, match revalidate connection answers .delivery with
      | .ok refreshed =>
        (next options message answers)^[n] (some .reading, connection) =
          (if isPotentialRecipient refreshed refreshed.identity message then
            some (.enqueuing refreshed.identity) else none, refreshed)
      | .error _ => ∃ refreshed : RealtimeConnection,
        (next options message answers)^[n] (some .reading, connection) =
          (none, refreshed.requestClose) := by
  simp only [revalidate, revalidateDelivery]
  cases hs : connection.sessionId with
  | none =>
    refine ⟨3, ?_⟩
    by_cases he : connection.identity.expiresAt ≤ answers.arrivedAt.ticks
    · simp only [he, if_true, closeExpired]
      exact ⟨connection, by simp [Function.iterate_succ_apply, next, advance, hs, hm, he]⟩
    · simp [Function.iterate_succ_apply, next, advance, hs, hm, he]
  | some sessionId =>
    cases ha : answers.session with
    | missing | unavailable =>
      exact ⟨3, connection, by simp [Function.iterate_succ_apply, next, advance, hs, hm, ha]⟩
    | identity refreshed =>
      by_cases ho : refreshed.owner = connection.identity.owner
      · refine ⟨5, ?_⟩
        by_cases he : refreshed.expiresAt ≤ answers.arrivedAt.ticks
        · simp only [ho, if_true, RealtimeConnection.updateIdentity, he, closeExpired]
          exact ⟨connection.updateIdentity refreshed, by
            simp [Function.iterate_succ_apply, next, advance, hs, hm, ha, ho, he]⟩
        · simp only [ho, if_true, RealtimeConnection.updateIdentity, he, if_false]
          simp only [Function.iterate_succ_apply, Function.iterate_zero, id, next, advance, hs, hm,
            ha, ho, he, if_true, if_false, RealtimeConnection.updateIdentity]
          split_ifs <;> rfl
      · refine ⟨3, ?_⟩
        simp only [ho, if_false, closeExpired]
        exact ⟨connection, by simp [Function.iterate_succ_apply, next, advance, hs, hm, ha, ho]⟩

end Realtime
