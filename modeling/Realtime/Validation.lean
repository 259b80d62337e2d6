import Realtime.Contracts

/-! The validators of the contracts, the Redis stores and the message bus. Each
is written separately in the source; here they share one bounded character
check, and the lemmas say when a text that passes one of them passes another. -/

namespace Realtime

/-- `Length is >= low and <= high && All(...)`. -/
def hasForm (low high : Nat) (allowed : CodeUnit → Bool) (value : Text) : Bool :=
  low ≤ value.length && value.length ≤ high && value.all allowed

/-- `!IsNullOrWhiteSpace && Length <= high && All(...)`. -/
def hasNonBlankForm (high : Nat) (allowed : CodeUnit → Bool) (value : Text) : Bool :=
  !isBlank value && value.length ≤ high && value.all allowed

variable {allowed : CodeUnit → Bool} {high : Nat}

theorem hasForm_iff {low high : Nat} {value : Text} :
    hasForm low high allowed value = true ↔
      low ≤ value.length ∧ value.length ≤ high ∧ ∀ c ∈ value, allowed c = true := by
  simp [hasForm, and_assoc]

theorem hasNonBlankForm_eq_hasForm (hws : ∀ c, allowed c = true → isWhiteSpace c = false)
    (value : Text) :
    hasNonBlankForm high allowed value = hasForm 1 high allowed value := by
  cases value with
  | nil => simp [hasNonBlankForm, hasForm, isBlank]
  | cons c cs =>
    by_cases ha : (c :: cs).all allowed = true
    · have hc : isWhiteSpace c = false := hws c (List.all_eq_true.mp ha c (by simp))
      simp [hasNonBlankForm, hasForm, isBlank, hc]
    · simp only [Bool.not_eq_true] at ha
      simp only [hasNonBlankForm, hasForm, ha, Bool.and_false]

theorem hexDigit_lt (d : Fin 16) : hexDigit d < 0x80 := by
  revert d
  decide

theorem hexDigit_isAsciiLetterOrDigit (d : Fin 16) : isAsciiLetterOrDigit (hexDigit d) = true := by
  revert d
  decide

section CharacterSets

variable [CharTable]

/-- Letters, digits, `-` and `_`. -/
def isTokenChar (c : CodeUnit) : Bool :=
  isLetterOrDigit c || c == codeUnit '-' || c == codeUnit '_'

/-- Letters, digits, `-`, `_` and `.`. -/
def isSafeChar (c : CodeUnit) : Bool :=
  isLetterOrDigit c || c == codeUnit '-' || c == codeUnit '_' || c == codeUnit '.'

variable {c : CodeUnit} {value : Text} {identity : RealtimeIdentity}

theorem isSafeChar_notWhiteSpace (h : isSafeChar c = true) :
    isWhiteSpace c = false := by
  simp only [isSafeChar, Bool.or_eq_true, beq_iff_eq] at h
  rcases h with ((h | rfl) | rfl) | rfl
  · exact CharTable.notWhiteSpace c h
  all_goals decide

theorem isTokenChar_isSafeChar (h : isTokenChar c = true) : isSafeChar c = true := by
  simp only [isTokenChar, Bool.or_eq_true] at h
  simp only [isSafeChar, Bool.or_eq_true]
  tauto

theorem isSafeChar_slash : isSafeChar (codeUnit '/') = false := by
  have h := CharTable.ascii (codeUnit '/') (by decide)
  simp only [isSafeChar, h]
  decide

theorem isTokenChar_of_ascii (hc : c < 0x80) (h : isAsciiLetterOrDigit c = true) :
    isTokenChar c = true := by
  have ha := CharTable.ascii c hc
  simp [isTokenChar, ha, h]

/-- A topic of a command route. -/
def isSafeSegment (value : Text) : Bool := hasForm 1 128 isSafeChar value

/-- A tenant, user or topic of a stored identity. -/
def isSafeScope (value : Text) : Bool := hasNonBlankForm 128 isSafeChar value

/-- A part of a message that arrives over the bus. -/
def isSafeBusIdentifier (value : Text) : Bool := hasNonBlankForm 128 isSafeChar value

/-- A part of a message that arrives over a durable stream. -/
def isSafeIdentifier (value : Text) : Bool := hasForm 1 128 isSafeChar value

def isValidSessionId (value : Text) : Bool := hasForm 16 256 isTokenChar value

/-- The guard of `StreamKey`. -/
def isValidEventClass (value : Text) : Bool := hasNonBlankForm 64 isTokenChar value

theorem isSafeScope_eq (value : Text) : isSafeScope value = isSafeSegment value :=
  hasNonBlankForm_eq_hasForm (fun _ => isSafeChar_notWhiteSpace) value

theorem isSafeBusIdentifier_eq (value : Text) : isSafeBusIdentifier value = isSafeSegment value :=
  hasNonBlankForm_eq_hasForm (fun _ => isSafeChar_notWhiteSpace) value

theorem isSafeSegment_nonBlank (h : isSafeSegment value = true) :
    isBlank value = false := by
  have hs := isSafeScope_eq value
  rw [h] at hs
  simp only [isSafeScope, hasNonBlankForm, Bool.and_eq_true, Bool.not_eq_true'] at hs
  exact hs.1.1

theorem isSafeSegment_slash_notMem (h : isSafeSegment value = true) :
    codeUnit '/' ∉ value := by
  intro hm
  have hs := (hasForm_iff.mp h).2.2 _ hm
  rw [isSafeChar_slash] at hs
  exact Bool.false_ne_true hs

theorem Guid.toText_isSafeSegment (g : Guid) : isSafeSegment g.toText = true := by
  refine hasForm_iff.mpr ⟨?_, ?_, ?_⟩
  · simp [Guid.toText, g.length_eq]
  · simp [Guid.toText, g.length_eq]
  · intro c hc
    obtain ⟨d, _, rfl⟩ := List.mem_map.mp hc
    exact isTokenChar_isSafeChar
      (isTokenChar_of_ascii (hexDigit_lt d) (hexDigit_isAsciiLetterOrDigit d))

/-- `SecurityRecordValidator.IsValidIdentity`. -/
def isValidIdentity (tenantId userId : Text) (allowedTopics : List Text) : Bool :=
  isSafeScope tenantId && isSafeScope userId &&
    (1 ≤ allowedTopics.length && allowedTopics.length ≤ 256) &&
    allowedTopics.all (fun topic => topic == utf16 "*" || isSafeScope topic)

def RealtimeIdentity.Valid (identity : RealtimeIdentity) : Prop :=
  isValidIdentity identity.tenantId identity.userId identity.allowedTopics = true

instance (identity : RealtimeIdentity) : Decidable identity.Valid :=
  inferInstanceAs (Decidable (_ = true))

theorem RealtimeIdentity.Valid.tenantId_safe (h : identity.Valid) :
    isSafeSegment identity.tenantId = true := by
  simp only [RealtimeIdentity.Valid, isValidIdentity, Bool.and_eq_true] at h
  exact isSafeScope_eq _ ▸ h.1.1.1

theorem RealtimeIdentity.Valid.userId_safe (h : identity.Valid) :
    isSafeSegment identity.userId = true := by
  simp only [RealtimeIdentity.Valid, isValidIdentity, Bool.and_eq_true] at h
  exact isSafeScope_eq _ ▸ h.1.1.2

end CharacterSets

/-- `ProtocolValidationResult`. -/
inductive ProtocolValidationResult where
  | valid
  | invalid (errorCode errorMessage : Text)
  deriving DecidableEq

namespace ProtocolValidator

def maximumCorrelationIdLength : Nat := 128
def maximumRouteLength : Nat := 256
def maximumReconnectDelayMilliseconds : Int := 300000

def isValidCorrelationId (correlationId : Option Text) : Bool :=
  !isNullOrWhiteSpace correlationId &&
    (correlationId.getD []).length ≤ maximumCorrelationIdLength

def isValidRoute (route : Option Text) : Bool :=
  !isNullOrWhiteSpace route && (route.getD []).length ≤ maximumRouteLength

def isSupportedClientType (type : Option Text) : Bool :=
  type == some ProtocolMessageTypes.ping || type == some ProtocolMessageTypes.subscribe ||
    type == some ProtocolMessageTypes.unsubscribe || type == some ProtocolMessageTypes.publish

def isSupportedServerType (type : Option Text) : Bool :=
  type == some ProtocolMessageTypes.acknowledge || type == some ProtocolMessageTypes.event ||
    type == some ProtocolMessageTypes.error || type == some ProtocolMessageTypes.ping ||
    type == some ProtocolMessageTypes.serviceRestart

theorem isValidCorrelationId_some {correlationId : Text} :
    isValidCorrelationId (some correlationId) = true ↔
      isBlank correlationId = false ∧ correlationId.length ≤ 128 := by
  simp only [isValidCorrelationId, isNullOrWhiteSpace, Option.getD_some, Bool.and_eq_true,
    Bool.not_eq_true', decide_eq_true_eq]
  rfl

theorem isValidRoute_some {route : Text} :
    isValidRoute (some route) = true ↔ isBlank route = false ∧ route.length ≤ 256 := by
  simp only [isValidRoute, isNullOrWhiteSpace, Option.getD_some, Bool.and_eq_true,
    Bool.not_eq_true', decide_eq_true_eq]
  rfl

/-- `Validate(MessageEnvelope?, DateTimeOffset)`. -/
def validateClient (envelope : Option MessageEnvelope) (now : Int) : ProtocolValidationResult :=
  match envelope with
  | none => .invalid ProtocolErrorCodes.invalidEnvelope (utf16 "The message envelope is required.")
  | some envelope =>
    if envelope.version ≠ some ProtocolVersions.current then
      .invalid ProtocolErrorCodes.unsupportedVersion
        (utf16 "Protocol version '" ++ envelope.version.getD [] ++ utf16 "' is not supported.")
    else if isSupportedClientType envelope.type = false then
      .invalid ProtocolErrorCodes.unsupportedType
        (utf16 "Message type '" ++ envelope.type.getD [] ++ utf16 "' is not supported.")
    else if isValidCorrelationId envelope.correlationId = false then
      .invalid ProtocolErrorCodes.invalidEnvelope
        (utf16 "CorrelationId is required and must not exceed 128 characters.")
    else if envelope.timestamp < now - 5 * ticksPerMinute ∨
        now + ticksPerMinute < envelope.timestamp then
      .invalid ProtocolErrorCodes.invalidEnvelope
        (utf16 "Timestamp is outside the accepted clock-skew window.")
    else if isValidRoute envelope.route = false then
      .invalid ProtocolErrorCodes.invalidEnvelope
        (utf16 "Route is required and must not exceed 256 characters.")
    else if envelope.type = some ProtocolMessageTypes.publish ∧
        envelope.payload.isMissing = true then
      .invalid ProtocolErrorCodes.invalidEnvelope
        (utf16 "Publish payload is required and must not be null.")
    else .valid

def isJitterRatio : Double → Bool
  | .finite value => 0 ≤ value && value ≤ 1
  | _ => false

def isValidReconnectAdvice (advice : ReconnectAdvice) : Bool :=
  0 ≤ advice.initialDelayMilliseconds &&
    advice.initialDelayMilliseconds ≤ advice.maximumDelayMilliseconds &&
    advice.maximumDelayMilliseconds ≤ maximumReconnectDelayMilliseconds &&
    isJitterRatio advice.jitterRatio

def isStructuredError : Option ProtocolError → Bool
  | none => false
  | some error => !isNullOrWhiteSpace error.code && !isNullOrWhiteSpace error.message

/-- `Validate(ServerMessageEnvelope?)`. -/
def validateServer (envelope : Option ServerMessageEnvelope) : ProtocolValidationResult :=
  match envelope with
  | none =>
    .invalid ProtocolErrorCodes.invalidEnvelope (utf16 "The server message envelope is required.")
  | some envelope =>
    if envelope.version ≠ some ProtocolVersions.current then
      .invalid ProtocolErrorCodes.unsupportedVersion
        (utf16 "The server message protocol version is not supported.")
    else if isSupportedServerType envelope.type = false then
      .invalid ProtocolErrorCodes.unsupportedType
        (utf16 "The server message type is not supported.")
    else if isValidCorrelationId envelope.correlationId = false ∨ envelope.timestamp = 0 ∨
        isValidRoute envelope.route = false then
      .invalid ProtocolErrorCodes.invalidEnvelope
        (utf16 "The server message correlation and route fields are invalid.")
    else if envelope.type = some ProtocolMessageTypes.error ∧
        isStructuredError envelope.error = false then
      .invalid ProtocolErrorCodes.invalidEnvelope
        (utf16 "Error messages require a structured protocol error.")
    else if envelope.reconnect.any (fun advice => !isValidReconnectAdvice advice) then
      .invalid ProtocolErrorCodes.invalidEnvelope
        (utf16 "Reconnect advice is outside the supported bounds.")
    else .valid

theorem validateClient_valid {envelope : MessageEnvelope} {now : Int}
    (h : validateClient (some envelope) now = .valid) :
    isSupportedClientType envelope.type = true ∧
      isValidCorrelationId envelope.correlationId = true ∧
      isValidRoute envelope.route = true ∧
      (envelope.type = some ProtocolMessageTypes.publish → envelope.payload.isMissing = false) := by
  simp only [validateClient] at h
  split at h
  · cases h
  split at h
  · cases h
  split at h
  · cases h
  split at h
  · cases h
  split at h
  · cases h
  split at h
  · cases h
  next ht hc _ hr hp =>
    refine ⟨by simpa using ht, by simpa using hc, by simpa using hr, fun hpub => ?_⟩
    simpa [hpub] using hp

theorem validateServer_valid_iff {envelope : ServerMessageEnvelope} :
    validateServer (some envelope) = .valid ↔
      envelope.version = some ProtocolVersions.current ∧
      isSupportedServerType envelope.type = true ∧
      isValidCorrelationId envelope.correlationId = true ∧ envelope.timestamp ≠ 0 ∧
      isValidRoute envelope.route = true ∧
      (envelope.type = some ProtocolMessageTypes.error → isStructuredError envelope.error = true) ∧
      (∀ advice, envelope.reconnect = some advice → isValidReconnectAdvice advice = true) := by
  constructor
  · intro h
    simp only [validateServer] at h
    split at h
    · cases h
    split at h
    · cases h
    split at h
    · cases h
    split at h
    · cases h
    split at h
    · cases h
    next hv ht hf he hr =>
      simp only [not_or, Bool.not_eq_false] at hf
      refine ⟨by simpa using hv, by simpa using ht, hf.1, hf.2.1, hf.2.2, ?_, ?_⟩
      · intro herr
        simpa [herr] using he
      · intro advice ha
        simpa [ha] using hr
  · rintro ⟨hv, ht, hc, hts, hr, he, hrec⟩
    simp only [validateServer, hv, ht, hc, hts, hr, ne_eq, not_true_eq_false, if_false,
      Bool.true_eq_false, or_self]
    have hre' : envelope.reconnect.any (fun advice => !isValidReconnectAdvice advice) = false := by
      cases ha : envelope.reconnect with
      | none => rfl
      | some advice => simp [hrec advice ha]
    by_cases herr : envelope.type = some ProtocolMessageTypes.error
    · simp [herr, he herr, hre']
    · simp [herr, hre']

end ProtocolValidator

end Realtime
