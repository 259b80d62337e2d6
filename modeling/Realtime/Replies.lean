import Realtime.Dispatcher

/-! The replies of the gateway. An error reply echoes the correlation id and the
route of the envelope it rejects, so whether the reply is itself a valid server
message depends on fields that were just found to be invalid. -/

namespace Realtime

inductive IdentityRevalidation where
  | valid | invalid | unavailable
  deriving DecidableEq

/-- `RealtimeWebSocketHandler.RevalidateIdentityAsync`. -/
def revalidateIdentity (connection : RealtimeConnection) (answers : Answers) :
    IdentityRevalidation × RealtimeConnection :=
  match connection.sessionId with
  | none =>
    (if answers.revalidatedAt.ticks < connection.identity.expiresAt then .valid else .invalid,
      connection)
  | some _ =>
    match answers.session with
    | .missing => (.invalid, connection)
    | .unavailable => (.unavailable, connection)
    | .identity refreshed =>
      if refreshed.tenantId = connection.identity.tenantId ∧
          refreshed.userId = connection.identity.userId then
        (.valid, connection.updateIdentity refreshed)
      else (.invalid, connection)

/-- `HttpFallbackConnectionManager.RevalidateAsync`. -/
def revalidateHttp (connection : RealtimeConnection) (answers : Answers) :
    Bool × RealtimeConnection :=
  if connection.identity.expiresAt ≤ answers.revalidatedAt.ticks then (false, connection)
  else
    match connection.sessionId with
    | none => (true, connection)
    | some _ =>
      match answers.session with
      | .identity refreshed =>
        if refreshed.tenantId = connection.identity.tenantId ∧
            refreshed.userId = connection.identity.userId then
          (true, connection.updateIdentity refreshed)
        else (false, connection)
      | _ => (false, connection)

inductive InboundFrame where
  | close
  | binary
  | tooLarge
  | fragmented
  | malformed
  | text (envelope : Option MessageEnvelope)

section

variable [CharTable]

/-- The tail that both transports share once the identity is confirmed. -/
def trackAndDispatch (options : RealtimeOptions) (connection : RealtimeConnection)
    (envelope : MessageEnvelope) (answers : Answers) : DispatchOutcome :=
  let tracked := connection.tryTrackCorrelation options (envelope.correlationId.getD [])
  if tracked.1 then dispatch options tracked.2 envelope answers
  else
    { connection := tracked.2,
      reply := some (errorReply (some envelope) ProtocolErrorCodes.duplicateCorrelation
        (utf16 "CorrelationId has already been processed on this connection.")
        answers.fresh answers.repliedAt) }

/-- One iteration of `RunReceiverAsync`. The branches that request a close send
no reply, apart from the one for a fragmented message. -/
def receiveFrame (options : RealtimeOptions) (connection : RealtimeConnection)
    (frame : InboundFrame) (answers : Answers) : DispatchOutcome :=
  match frame with
  | .close | .binary | .tooLarge => { connection := connection }
  | .fragmented =>
    { connection := connection,
      reply := some (errorReply none ProtocolErrorCodes.fragmentedMessageRejected
        (utf16 "Fragmented messages are not accepted.") answers.fresh answers.repliedAt) }
  | .malformed =>
    if connection.identity.expiresAt ≤ answers.arrivedAt.ticks then { connection := connection }
    else
      { connection := connection,
        reply := some (errorReply none ProtocolErrorCodes.invalidEnvelope
          (utf16 "Message JSON is malformed.") answers.fresh answers.repliedAt) }
  | .text envelope =>
    if connection.identity.expiresAt ≤ answers.arrivedAt.ticks then { connection := connection }
    else
      match ProtocolValidator.validateClient envelope answers.validatedAt.ticks, envelope with
      | .invalid errorCode errorMessage, envelope =>
        { connection := connection,
          reply := some (errorReply envelope errorCode errorMessage answers.fresh
            answers.repliedAt) }
      | .valid, none => { connection := connection }
      | .valid, some envelope =>
        let revalidated := revalidateIdentity connection answers
        if revalidated.1 = .valid then trackAndDispatch options revalidated.2 envelope answers
        else { connection := revalidated.2 }

/-- A message post: `MessagesAsync` and `HttpFallbackConnectionManager.DispatchAsync`.
A body that is not an envelope is answered with a status code only. -/
def receivePost (options : RealtimeOptions) (active : Bool) (connection : RealtimeConnection)
    (body : InboundFrame) (answers : Answers) : DispatchOutcome :=
  match body with
  | .text (some envelope) =>
    if active then
      match ProtocolValidator.validateClient (some envelope) answers.validatedAt.ticks with
      | .invalid errorCode errorMessage =>
        { connection := connection,
          reply := some (errorReply (some envelope) errorCode errorMessage answers.fresh
            answers.repliedAt) }
      | .valid =>
        let revalidated := revalidateHttp connection answers
        if revalidated.1 then trackAndDispatch options revalidated.2 envelope answers
        else { connection := revalidated.2 }
    else { connection := connection }
  | _ => { connection := connection }

inductive ServerTransport where
  | webSocket
  | httpFallback (active : Bool)

def receive (options : RealtimeOptions) (transport : ServerTransport)
    (connection : RealtimeConnection) (frame : InboundFrame) (answers : Answers) :
    DispatchOutcome :=
  match transport with
  | .webSocket => receiveFrame options connection frame answers
  | .httpFallback active => receivePost options active connection frame answers

/-- What the sender will transmit: the reply, if the connection takes it. Other
tasks run between the checks and the reply, so the connection is then in a state
of its own. -/
def enqueuedReply (options : RealtimeOptions) (transport : ServerTransport)
    (connection atReply : RealtimeConnection) (frame : InboundFrame) (answers : Answers) :
    Option ServerMessageEnvelope :=
  (receive options transport connection frame answers).reply.filter
    (fun message => (atReply.tryEnqueue options message).1)

end

/-- The correlation id and the route that an error reply repeats are absent or
in the form that the server validator wants. -/
def MessageEnvelope.Echoable (envelope : MessageEnvelope) : Prop :=
  (envelope.correlationId = none ∨
    ProtocolValidator.isValidCorrelationId envelope.correlationId = true) ∧
  (envelope.route = none ∨ ProtocolValidator.isValidRoute envelope.route = true)

def Answered (options : RealtimeOptions) (transport : ServerTransport)
    (connection atReply : RealtimeConnection) (answers : Answers) : Prop :=
  atReply.accepts options = true ∧
    match transport with
    | .webSocket => answers.arrivedAt.ticks < connection.identity.expiresAt
    | .httpFallback active => active = true

theorem acknowledge_valid {envelope : MessageEnvelope} {now : UtcNow}
    (hc : ProtocolValidator.isValidCorrelationId envelope.correlationId = true)
    (hr : ProtocolValidator.isValidRoute envelope.route = true) :
    ProtocolValidator.validateServer (some (acknowledge envelope now)) = .valid := by
  refine ProtocolValidator.validateServer_valid_iff.mpr
    ⟨rfl, rfl, hc, now.ticks_ne_default, hr, ?_, ?_⟩
  · intro h
    have hne : ¬ some ProtocolMessageTypes.acknowledge = some ProtocolMessageTypes.error := by decide
    exact absurd h hne
  · intro advice h
    cases h

theorem Guid.toText_isValidCorrelationId (g : Guid) :
    ProtocolValidator.isValidCorrelationId (some g.toText) = true := by
  let _ := asciiTable
  have hs := g.toText_isSafeSegment
  exact ProtocolValidator.isValidCorrelationId_some.mpr
    ⟨isSafeSegment_nonBlank hs, (hasForm_iff.mp hs).2.1⟩

/-- An error reply with texts of its own is valid exactly when what it repeats
of the rejected envelope is. -/
theorem errorReply_valid_iff {envelope : Option MessageEnvelope} {code message : Text}
    {fresh : Guid} {now : UtcNow} (hco : isBlank code = false)
    (hme : isBlank message = false) :
    ProtocolValidator.validateServer (some (errorReply envelope code message fresh now)) = .valid ↔
      ∀ e, envelope = some e → e.Echoable := by
  have hro : ProtocolValidator.isValidRoute (some (utf16 "system/error")) = true := by decide
  have her : ProtocolValidator.isStructuredError (some ⟨some code, some message⟩) = true := by
    simp [ProtocolValidator.isStructuredError, isNullOrWhiteSpace, hco, hme]
  rw [ProtocolValidator.validateServer_valid_iff]
  constructor
  · rintro ⟨_, _, hc, _, hr, _, _⟩ e rfl
    simp only [errorReply, Option.bind_some] at hc hr
    refine ⟨?_, ?_⟩
    · cases he : e.correlationId with
      | none => exact .inl rfl
      | some correlationId => rw [he] at hc; exact .inr hc
    · cases he : e.route with
      | none => exact .inl rfl
      | some route => rw [he] at hr; exact .inr hr
  · intro h
    refine ⟨rfl, rfl, ?_, now.ticks_ne_default, ?_, fun _ => her, ?_⟩
    · cases envelope with
      | none => exact fresh.toText_isValidCorrelationId
      | some e =>
        cases he : e.correlationId with
        | none => simpa [errorReply, he] using fresh.toText_isValidCorrelationId
        | some correlationId =>
          have hc := (h e rfl).1
          rw [he] at hc
          simpa [errorReply, he] using hc
    · cases envelope with
      | none => exact hro
      | some e =>
        cases he : e.route with
        | none => simpa [errorReply, he] using hro
        | some route =>
          have hr := (h e rfl).2
          rw [he] at hr
          simpa [errorReply, he] using hr
    · intro advice ha
      cases ha

theorem validateClient_invalid_nonBlank {envelope : Option MessageEnvelope} {now : Int}
    {code message : Text} (h : ProtocolValidator.validateClient envelope now = .invalid code message) :
    isBlank code = false ∧ isBlank message = false := by
  cases envelope with
  | none =>
    simp only [ProtocolValidator.validateClient] at h
    cases h
    exact ⟨utf16_nonBlank _ _ (by decide), utf16_nonBlank _ _ (by decide)⟩
  | some envelope =>
    have hv : isBlank (utf16 "Protocol version '" ++ envelope.version.getD [] ++
        utf16 "' is not supported.") = false := by
      have hp : (utf16 "Protocol version '").all isWhiteSpace = false :=
        utf16_nonBlank _ _ (by decide)
      simp only [isBlank, List.all_append, hp, Bool.false_and]
    have ht : isBlank (utf16 "Message type '" ++ envelope.type.getD [] ++
        utf16 "' is not supported.") = false := by
      have hp : (utf16 "Message type '").all isWhiteSpace = false :=
        utf16_nonBlank _ _ (by decide)
      simp only [isBlank, List.all_append, hp, Bool.false_and]
    simp only [ProtocolValidator.validateClient] at h
    split_ifs at h <;> cases h
    · exact ⟨utf16_nonBlank _ _ (by decide), hv⟩
    · exact ⟨utf16_nonBlank _ _ (by decide), ht⟩
    all_goals exact ⟨utf16_nonBlank _ _ (by decide), utf16_nonBlank _ _ (by decide)⟩

/-- The shapes a reply to an envelope can have. -/
inductive IsReplyTo (envelope : Option MessageEnvelope) (message : ServerMessageEnvelope) : Prop
  | acknowledge (e : MessageEnvelope) (now : UtcNow) (he : envelope = some e)
      (hc : ProtocolValidator.isValidCorrelationId e.correlationId = true)
      (hr : ProtocolValidator.isValidRoute e.route = true)
      (hm : message = Realtime.acknowledge e now)
  | error (code text : Text) (fresh : Guid) (now : UtcNow) (hcode : isBlank code = false)
      (htext : isBlank text = false) (hm : message = errorReply envelope code text fresh now)

theorem IsReplyTo.valid_iff {envelope : Option MessageEnvelope} {message : ServerMessageEnvelope}
    (h : IsReplyTo envelope message) :
    ProtocolValidator.validateServer (some message) = .valid ↔
      ∀ e, envelope = some e → e.Echoable := by
  cases h with
  | acknowledge e now he hc hr hm =>
    subst hm
    refine iff_of_true (acknowledge_valid hc hr) (fun e' he' => ?_)
    rw [he] at he'
    obtain rfl := Option.some.inj he'
    exact ⟨.inr hc, .inr hr⟩
  | error code text fresh now hco hte hm =>
    subst hm
    exact errorReply_valid_iff hco hte

theorem IsReplyTo.correlationId_eq {e : MessageEnvelope} {message : ServerMessageEnvelope}
    (h : IsReplyTo (some e) message)
    (hv : ProtocolValidator.isValidCorrelationId e.correlationId = true) :
    message.correlationId = e.correlationId := by
  cases h with
  | acknowledge e' now he hc hr hm => rw [hm, Option.some.inj he]; rfl
  | error code text fresh now hco hte hm =>
    cases he : e.correlationId with
    | none => rw [he] at hv; cases hv
    | some correlationId => simp [hm, errorReply, he]

def InboundFrame.envelope : InboundFrame → Option MessageEnvelope
  | .text envelope => envelope
  | _ => none

section

variable [CharTable]

variable {envelope : MessageEnvelope} {answers : Answers} {message : ServerMessageEnvelope}
  {options : RealtimeOptions} {connection atReply : RealtimeConnection} {frame : InboundFrame}
  {transport : ServerTransport}

theorem authorizeCommand_isReplyTo {identity : RealtimeIdentity}
    (hc : ProtocolValidator.isValidCorrelationId envelope.correlationId = true)
    (hr : ProtocolValidator.isValidRoute envelope.route = true)
    (h : authorizeCommand identity envelope answers = .error (some message)) :
    IsReplyTo (some envelope) message := by
  simp only [authorizeCommand] at h
  split at h
  · cases h
    exact .acknowledge envelope _ rfl hc hr rfl
  split at h
  · cases h
  split at h
  · cases h
    exact .error _ _ _ _ (utf16_nonBlank _ _ (by decide)) (utf16_nonBlank _ _ (by decide)) rfl
  · cases h

theorem dispatchAuthorized_isReplyTo {route : AuthorizedRoute}
    (hc : ProtocolValidator.isValidCorrelationId envelope.correlationId = true)
    (hr : ProtocolValidator.isValidRoute envelope.route = true)
    (h : (dispatchAuthorized options connection envelope route answers).reply = some message) :
    IsReplyTo (some envelope) message := by
  simp only [dispatchAuthorized, dispatchPublish] at h
  repeat' split at h
  all_goals
    first
    | cases h
      exact .acknowledge envelope _ rfl hc hr rfl
    | cases h
      exact .error _ _ _ _ (utf16_nonBlank _ _ (by decide)) (utf16_nonBlank _ _ (by decide)) rfl
    | cases h

theorem dispatch_isReplyTo
    (hc : ProtocolValidator.isValidCorrelationId envelope.correlationId = true)
    (hr : ProtocolValidator.isValidRoute envelope.route = true)
    (h : (dispatch options connection envelope answers).reply = some message) :
    IsReplyTo (some envelope) message := by
  simp only [dispatch] at h
  split at h
  · next reply ha =>
    simp only at h
    subst h
    exact authorizeCommand_isReplyTo hc hr ha
  · exact dispatchAuthorized_isReplyTo hc hr h

theorem trackAndDispatch_isReplyTo {now : Int}
    (hv : ProtocolValidator.validateClient (some envelope) now = .valid)
    (h : (trackAndDispatch options connection envelope answers).reply = some message) :
    IsReplyTo (some envelope) message := by
  obtain ⟨_, hc, hr, _⟩ := ProtocolValidator.validateClient_valid hv
  simp only [trackAndDispatch] at h
  split at h
  · exact dispatch_isReplyTo hc hr h
  · cases h
    exact .error _ _ _ _ (utf16_nonBlank _ _ (by decide)) (utf16_nonBlank _ _ (by decide)) rfl

theorem receiveFrame_isReplyTo
    (h : (receiveFrame options connection frame answers).reply = some message) :
    IsReplyTo frame.envelope message ∧
      (frame.envelope.isSome = true → answers.arrivedAt.ticks < connection.identity.expiresAt) := by
  cases frame with
  | close => cases h
  | binary => cases h
  | tooLarge => cases h
  | fragmented =>
    cases h
    exact ⟨.error _ _ _ _ (utf16_nonBlank _ _ (by decide)) (utf16_nonBlank _ _ (by decide)) rfl,
      fun hs => absurd hs (by decide)⟩
  | malformed =>
    simp only [receiveFrame] at h
    split at h
    · cases h
    · cases h
      exact ⟨.error _ _ _ _ (utf16_nonBlank _ _ (by decide)) (utf16_nonBlank _ _ (by decide)) rfl,
      fun hs => absurd hs (by decide)⟩
  | text envelope =>
    simp only [receiveFrame] at h
    split at h
    · cases h
    next hexp =>
      refine ⟨?_, fun _ => by omega⟩
      split at h
      · next errorCode errorMessage hv =>
        cases h
        obtain ⟨hco, hte⟩ := validateClient_invalid_nonBlank hv
        exact .error _ _ _ _ hco hte rfl
      · cases h
      · next hv =>
        split at h
        · exact trackAndDispatch_isReplyTo hv h
        · cases h

theorem receivePost_isReplyTo {active : Bool} {body : InboundFrame}
    (h : (receivePost options active connection body answers).reply = some message) :
    IsReplyTo body.envelope message ∧ active = true := by
  simp only [receivePost] at h
  split at h
  · next envelope =>
    split at h
    · next ha =>
      refine ⟨?_, ha⟩
      split at h
      · next errorCode errorMessage hv =>
        cases h
        obtain ⟨hco, hte⟩ := validateClient_invalid_nonBlank hv
        exact .error _ _ _ _ hco hte rfl
      · next hv =>
        split at h
        · exact trackAndDispatch_isReplyTo hv h
        · cases h
    · cases h
  · cases h

theorem receive_isReplyTo
    (h : enqueuedReply options transport connection atReply frame answers = some message) :
    IsReplyTo frame.envelope message ∧
      (frame.envelope.isSome = true → Answered options transport connection atReply answers) := by
  obtain ⟨hre, hta⟩ := Option.filter_eq_some_iff.mp h
  rw [RealtimeConnection.tryEnqueue_fst] at hta
  cases transport with
  | webSocket =>
    obtain ⟨hr, hexp⟩ := receiveFrame_isReplyTo hre
    exact ⟨hr, fun hs => ⟨hta, hexp hs⟩⟩
  | httpFallback active =>
    obtain ⟨hr, ha⟩ := receivePost_isReplyTo hre
    exact ⟨hr, fun _ => ⟨hta, ha⟩⟩

theorem enqueuedReply_of_invalid {code text : Text}
    (ha : Answered options transport connection atReply answers)
    (hv : ProtocolValidator.validateClient (some envelope) answers.validatedAt.ticks = .invalid
      code text) :
    enqueuedReply options transport connection atReply (.text (some envelope)) answers =
      some (errorReply (some envelope) code text answers.fresh answers.repliedAt) := by
  obtain ⟨hta, ht⟩ := ha
  have hre : (receive options transport connection (.text (some envelope)) answers).reply =
      some (errorReply (some envelope) code text answers.fresh answers.repliedAt) := by
    cases transport with
    | webSocket =>
      have hexp : answers.arrivedAt.ticks < connection.identity.expiresAt := ht
      simp only [receive, receiveFrame, if_neg (Int.not_le.mpr hexp), hv]
    | httpFallback active =>
      simp only at ht
      simp only [receive, receivePost, ht, if_true, hv]
  simp only [enqueuedReply, hre, Option.filter_some, RealtimeConnection.tryEnqueue_fst, hta,
    if_true]

/-- Every reply that the gateway enqueues for a frame is a valid server message
carrying a valid inbound correlation id, exactly when the frame cannot be
answered or what an error reply repeats of it is absent or well formed. -/
theorem reply_valid_iff (options : RealtimeOptions) (transport : ServerTransport)
    (connection atReply : RealtimeConnection) (frame : InboundFrame) (answers : Answers) :
    (∀ message, enqueuedReply options transport connection atReply frame answers = some message →
      ProtocolValidator.validateServer (some message) = .valid ∧
      ∀ e, frame = .text (some e) →
        ProtocolValidator.isValidCorrelationId e.correlationId = true →
        message.correlationId = e.correlationId) ↔
    (Answered options transport connection atReply answers →
      ∀ e, frame = .text (some e) → e.Echoable) := by
  constructor
  · rintro h ha e rfl
    cases hv : ProtocolValidator.validateClient (some e) answers.validatedAt.ticks with
    | valid =>
      obtain ⟨_, hc, hr, _⟩ := ProtocolValidator.validateClient_valid hv
      exact ⟨.inr hc, .inr hr⟩
    | invalid code text =>
      have hm := h _ (enqueuedReply_of_invalid ha hv)
      obtain ⟨hco, hte⟩ := validateClient_invalid_nonBlank hv
      exact (errorReply_valid_iff hco hte).mp hm.1 e rfl
  · intro h message hm
    obtain ⟨hr, hans⟩ := receive_isReplyTo hm
    have hec : ∀ e, frame.envelope = some e → e.Echoable := by
      intro e he
      cases frame with
      | text envelope =>
        simp only [InboundFrame.envelope] at he
        subst he
        exact h (hans rfl) e rfl
      | _ => cases he
    refine ⟨hr.valid_iff.mpr hec, ?_⟩
    rintro e rfl hc
    exact hr.correlationId_eq hc

end

def exampleConnection : RealtimeConnection where
  identity := exampleIdentity
  sessionId := none

def exampleAnswers : Answers where
  arrivedAt := exampleNow
  validatedAt := exampleNow
  revalidatedAt := exampleNow
  repliedAt := exampleNow
  fresh := exampleGuid
  session := .missing
  append := .completed
  publish := .completed
  serviceName := utf16 "realtime-gateway"
  machineName := utf16 "node-1"

def exampleBlankPing : MessageEnvelope where
  version := some ProtocolVersions.current
  type := some ProtocolMessageTypes.ping
  correlationId := some []
  timestamp := exampleNow.ticks
  route := some (utf16 "system/heartbeat")
  payload := .undefined

/-- The empty correlation id comes back in the error that rejects it, on a fresh
connection of either transport. -/
theorem blank_correlation_reply_invalid :
    let _ := asciiTable
    ∀ transport ∈ [ServerTransport.webSocket, .httpFallback true], ∃ message,
      enqueuedReply {} transport exampleConnection exampleConnection
        (.text (some exampleBlankPing)) exampleAnswers = some message ∧
      ProtocolValidator.validateServer (some message) ≠ .valid := by
  intro _ transport ht
  refine ⟨errorReply (some exampleBlankPing) ProtocolErrorCodes.invalidEnvelope
    (utf16 "CorrelationId is required and must not exceed 128 characters.") exampleGuid exampleNow,
    ?_, by decide⟩
  apply enqueuedReply_of_invalid
  · simp only [List.mem_cons, List.not_mem_nil, or_false] at ht
    rcases ht with rfl | rfl
    · exact ⟨by decide, by decide⟩
    · exact ⟨by decide, rfl⟩
  · rfl

end Realtime
