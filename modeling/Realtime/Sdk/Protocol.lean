import Realtime.Sdk.Json
import Realtime.Utf8
import Realtime.Validation

/-! The server messages of the TypeScript client: the value that `JSON.parse` makes of a
serialized envelope, and `validateServerEnvelope`. -/

namespace Realtime.Sdk

/-- How the serializer writes a timestamp, and the time value of `Date.parse`, which is `none`
where that is NaN. -/
class TimestampText where
  write : Int → Text
  dateParse : Text → Option Int
  dateParse_write : ∀ ticks, (dateParse (write ticks)).isSome = true

def stringValue : Option Text → JsValue
  | none => .null
  | some value => .string (writtenText value)

def errorValue : Option ProtocolError → JsValue
  | none => .null
  | some error => .object [(utf16 "code", stringValue error.code),
      (utf16 "message", stringValue error.message)]

/-- A double that is not finite is not written. -/
def reconnectValue : Option ReconnectAdvice → Option JsValue
  | none => some .null
  | some advice =>
    if isFinite advice.jitterRatio = false then none
    else some (.object [
      (utf16 "initialDelayMilliseconds", .number (.finite advice.initialDelayMilliseconds)),
      (utf16 "maximumDelayMilliseconds", .number (.finite advice.maximumDelayMilliseconds)),
      (utf16 "jitterRatio", .number advice.jitterRatio),
      (utf16 "reauthenticate", .bool advice.reauthenticate)])

def payloadValue : Option JsonElement → Option JsValue
  | none => some .null
  | some payload => jsonParse payload

section

variable [TimestampText]

/-- The value that a browser parses from the serialized envelope. -/
def wireValue (envelope : ServerMessageEnvelope) : Option JsValue :=
  match payloadValue envelope.payload, reconnectValue envelope.reconnect with
  | some payload, some reconnect => some (.object [
      (utf16 "version", stringValue envelope.version),
      (utf16 "type", stringValue envelope.type),
      (utf16 "correlationId", stringValue envelope.correlationId),
      (utf16 "timestamp", .string (TimestampText.write envelope.timestamp)),
      (utf16 "route", stringValue envelope.route),
      (utf16 "payload", payload),
      (utf16 "error", errorValue envelope.error),
      (utf16 "reconnect", reconnect)])
  | _, _ => none

/-- `typeof value === "string" && value.trim().length > 0 && value.length <= maximum`. -/
def isBoundedString (maximum : Nat) : JsValue → Bool
  | .string value => 0 < (jsTrim value).length && value.length ≤ maximum
  | _ => false

def isTimestamp : JsValue → Bool
  | .string value => (TimestampText.dateParse value).isSome
  | _ => false

def hasEnvelopeStrings (value : JsValue) : Bool :=
  isBoundedString 128 (value.get (utf16 "correlationId")) &&
    isTimestamp (value.get (utf16 "timestamp")) &&
    isBoundedString 256 (value.get (utf16 "route"))

def isText (expected : Text) : JsValue → Bool
  | .string value => value == expected
  | _ => false

def isString : JsValue → Bool
  | .string _ => true
  | _ => false

def serverTypes : List Text :=
  [ProtocolMessageTypes.acknowledge, ProtocolMessageTypes.event, ProtocolMessageTypes.error,
    ProtocolMessageTypes.ping, ProtocolMessageTypes.serviceRestart]

def isServerType : JsValue → Bool
  | .string value => serverTypes.contains value
  | _ => false

def isErrorPayload (value : JsValue) : Bool :=
  value.isRecord && isString (value.get (utf16 "code")) && isString (value.get (utf16 "message"))

def maximumTimerDelayMilliseconds : ℚ := 2147483647

def safeInteger : JsValue → Option ℚ
  | .number (.finite value) =>
    if value.den = 1 ∧ value.num.natAbs ≤ 2 ^ 53 - 1 then some value else none
  | _ => none

def isRatio : JsValue → Bool
  | .number (.finite value) => 0 ≤ value && value ≤ 1
  | _ => false

def isBoolean : JsValue → Bool
  | .bool _ => true
  | _ => false

def isReconnectAdvice (value : JsValue) : Bool :=
  value.isRecord &&
    (match safeInteger (value.get (utf16 "initialDelayMilliseconds")),
        safeInteger (value.get (utf16 "maximumDelayMilliseconds")) with
      | some initialDelay, some maximumDelay =>
        0 ≤ initialDelay && initialDelay ≤ maximumTimerDelayMilliseconds &&
          initialDelay ≤ maximumDelay && maximumDelay ≤ maximumTimerDelayMilliseconds
      | _, _ => false) &&
    isRatio (value.get (utf16 "jitterRatio")) && isBoolean (value.get (utf16 "reauthenticate"))

def isNullOrUndefined : JsValue → Bool
  | .null => true
  | .undefined => true
  | _ => false

def isUndefined : JsValue → Bool
  | .undefined => true
  | _ => false

inductive ValidationResult where
  | valid (value : JsValue)
  | invalid (errorCode message : Text)

def validateServerEnvelope (value : JsValue) : ValidationResult :=
  let type := value.get (utf16 "type")
  let payload := value.get (utf16 "payload")
  let reconnect := value.get (utf16 "reconnect")
  if value.isRecord = false ∨ hasEnvelopeStrings value = false then
    .invalid ProtocolErrorCodes.invalidEnvelope (utf16 "The server message envelope is invalid.")
  else if isText ProtocolVersions.current (value.get (utf16 "version")) = false then
    .invalid ProtocolErrorCodes.unsupportedVersion (utf16 "The protocol version is not supported.")
  else if isServerType type = false then
    .invalid ProtocolErrorCodes.unsupportedType
      (utf16 "The server message type is not supported.")
  else if value.hasProperty (utf16 "payload") = true ∧ isUndefined payload = false ∧
      isJsonValue payload = false then
    .invalid ProtocolErrorCodes.invalidEnvelope
      (utf16 "Payload must contain only finite JSON values.")
  else if isText ProtocolMessageTypes.error type = true ∧
      isErrorPayload (value.get (utf16 "error")) = false then
    .invalid ProtocolErrorCodes.invalidEnvelope (utf16 "The error payload is invalid.")
  else if isText ProtocolMessageTypes.serviceRestart type = true ∧
      isNullOrUndefined reconnect = false ∧ isReconnectAdvice reconnect = false then
    .invalid ProtocolErrorCodes.invalidEnvelope (utf16 "The reconnect advice is invalid.")
  else .valid value

end

/-! Strings. -/

theorem surrogate_not_jsWhiteSpace {c : CodeUnit}
    (h : (isHighSurrogate c || isLowSurrogate c) = true) : isJsWhiteSpace c = false := by
  simp only [isHighSurrogate, isLowSurrogate, isJsWhiteSpace, Bool.or_eq_true, Bool.and_eq_true,
    decide_eq_true_eq, UInt16.le_iff_toNat_le, Bool.or_eq_false_iff, Bool.and_eq_false_iff,
    decide_eq_false_iff_not, beq_eq_false_iff_ne, ne_eq, ← UInt16.toNat_inj] at h ⊢
  simp only [UInt16.reduceToNat] at h ⊢
  omega

theorem isJsWhiteSpace_written (c : CodeUnit) :
    isJsWhiteSpace (if isHighSurrogate c || isLowSurrogate c then 0xFFFD else c) =
      isJsWhiteSpace c := by
  by_cases h : (isHighSurrogate c || isLowSurrogate c) = true
  · rw [if_pos h, surrogate_not_jsWhiteSpace h]
    decide
  · rw [if_neg h]

theorem writtenText_all (s : Text) :
    (writtenText s).all isJsWhiteSpace = s.all isJsWhiteSpace := by
  fun_induction writtenText s with
  | case1 => rfl
  | case2 c => simp only [List.all_cons, isJsWhiteSpace_written]
  | case3 c d rest h ih => simp only [List.all_cons, ih]
  | case4 c d rest h ih => simp only [List.all_cons, isJsWhiteSpace_written, ih]

theorem isBoundedString_stringValue {s : Text} {maximum : Nat} (h : s.length ≤ maximum) :
    isBoundedString maximum (stringValue (some s)) = !s.all isJsWhiteSpace := by
  have hle : (writtenText s).length ≤ maximum := by rwa [writtenText_length]
  have htr : jsTrim (writtenText s) = [] ↔ s.all isJsWhiteSpace = true := by
    rw [jsTrim_eq_nil, writtenText_all]
  rw [stringValue, isBoundedString, decide_eq_true hle, Bool.and_true]
  by_cases hbl : s.all isJsWhiteSpace = true
  · rw [hbl, htr.mpr hbl]
    rfl
  · have hne : 0 < (jsTrim (writtenText s)).length :=
      List.length_pos_iff.mpr (fun hnil => hbl (htr.mp hnil))
    rw [decide_eq_true hne, Bool.eq_false_iff.mpr hbl]
    rfl

/-! Payload, error and advice. -/

section

variable {value : JsValue}

variable {payload : Option JsonElement}

theorem isUndefined_of_payloadValue (h : payloadValue payload = some value) :
    isUndefined value = false := by
  cases payload with
  | none =>
    cases h
    rfl
  | some element =>
    rw [payloadValue] at h
    cases element with
    | undefined => cases h
    | null | bool _ | string _ =>
      cases h
      rfl
    | number _ | array _ | object _ =>
      rw [jsonParse, Option.map_eq_some_iff] at h
      obtain ⟨_, -, rfl⟩ := h
      rfl

theorem isJsonValue_payloadValue (h : payloadValue payload = some value) :
    isJsonValue value = true ↔ ∀ p, payload = some p → finiteNumbers p = true := by
  cases payload with
  | none =>
    cases h
    simp [isJsonValue]
  | some element =>
    rw [isJsonValue_jsonParse element h]
    simp

theorem isErrorPayload_errorValue {error : Option ProtocolError}
    (h : ProtocolValidator.isStructuredError error = true) :
    isErrorPayload (errorValue error) = true := by
  cases error with
  | none => cases h
  | some error =>
    obtain ⟨code, message⟩ := error
    cases code with
    | none => cases h
    | some code =>
      cases message with
      | none => simp [ProtocolValidator.isStructuredError, isNullOrWhiteSpace] at h
      | some message => rfl

theorem safeInteger_intCast {n : Int} (h : n.natAbs ≤ 2 ^ 53 - 1) :
    safeInteger (.number (.finite n)) = some (n : ℚ) := by
  rw [safeInteger, if_pos ⟨Rat.den_intCast n, by rwa [Rat.num_intCast]⟩]

theorem isReconnectAdvice_reconnectValue {advice : ReconnectAdvice}
    (h : ProtocolValidator.isValidReconnectAdvice advice = true)
    (hva : reconnectValue (some advice) = some value) : isReconnectAdvice value = true := by
  obtain ⟨initialDelay, maximumDelay, jitterRatio, reauthenticate⟩ := advice
  simp only [ProtocolValidator.isValidReconnectAdvice, Bool.and_eq_true, decide_eq_true_eq,
    ProtocolValidator.maximumReconnectDelayMilliseconds] at h
  obtain ⟨⟨⟨hze, hle⟩, hbou⟩, hji⟩ := h
  have hma : maximumDelay ≤ 300000 := of_decide_eq_true hbou
  cases jitterRatio with
  | nan | infinite _ => cases hji
  | finite ratio =>
    cases hva
    have hi : safeInteger (.number (.finite initialDelay)) = some (initialDelay : ℚ) :=
      safeInteger_intCast (by omega)
    have hm : safeInteger (.number (.finite maximumDelay)) = some (maximumDelay : ℚ) :=
      safeInteger_intCast (by omega)
    have hbo : (maximumDelay : ℚ) ≤ maximumTimerDelayMilliseconds := by
      have hint : maximumDelay ≤ 2147483647 := by omega
      rw [maximumTimerDelayMilliseconds]
      exact_mod_cast hint
    have hle' : (initialDelay : ℚ) ≤ maximumDelay := by exact_mod_cast hle
    have hze' : (0 : ℚ) ≤ initialDelay := by exact_mod_cast hze
    have hfi : isReconnectAdvice (.object [
        (utf16 "initialDelayMilliseconds", .number (.finite initialDelay)),
        (utf16 "maximumDelayMilliseconds", .number (.finite maximumDelay)),
        (utf16 "jitterRatio", .number (.finite ratio)),
        (utf16 "reauthenticate", .bool reauthenticate)]) =
        ((match safeInteger (.number (.finite initialDelay)),
            safeInteger (.number (.finite maximumDelay)) with
          | some initialDelay, some maximumDelay =>
            0 ≤ initialDelay && initialDelay ≤ maximumTimerDelayMilliseconds &&
              initialDelay ≤ maximumDelay && maximumDelay ≤ maximumTimerDelayMilliseconds
          | _, _ => false) && ProtocolValidator.isJitterRatio (.finite ratio) && true) := rfl
    rw [hfi, hi, hm, hji]
    simp [hze', hle', hbo, hle'.trans hbo]

theorem isServerType_stringValue {type : Option Text}
    (h : ProtocolValidator.isSupportedServerType type = true) :
    ∃ name ∈ serverTypes, type = some name ∧ stringValue type = .string name := by
  simp only [ProtocolValidator.isSupportedServerType, Bool.or_eq_true, beq_iff_eq] at h
  rcases h with (((rfl | rfl) | rfl) | rfl) | rfl <;>
    exact ⟨_, by decide, rfl, congrArg JsValue.string (by decide +kernel)⟩

end

/-! The fields of a serialized envelope. -/

section

variable [TimestampText] {envelope : ServerMessageEnvelope} {value : JsValue}

structure Serializes (envelope : ServerMessageEnvelope) (value : JsValue) : Prop where
  isRecord : value.isRecord = true
  version : value.get (utf16 "version") = stringValue envelope.version
  type : value.get (utf16 "type") = stringValue envelope.type
  correlationId : value.get (utf16 "correlationId") = stringValue envelope.correlationId
  timestamp : value.get (utf16 "timestamp") = .string (TimestampText.write envelope.timestamp)
  route : value.get (utf16 "route") = stringValue envelope.route
  hasPayload : value.hasProperty (utf16 "payload") = true
  payload : payloadValue envelope.payload = some (value.get (utf16 "payload"))
  error : value.get (utf16 "error") = errorValue envelope.error
  reconnect : reconnectValue envelope.reconnect = some (value.get (utf16 "reconnect"))

theorem serializes_of_wireValue (h : wireValue envelope = some value) :
    Serializes envelope value := by
  unfold wireValue at h
  split at h
  · next payload reconnect hpa hre =>
    cases h
    exact ⟨rfl, rfl, rfl, rfl, rfl, rfl, rfl, hpa, rfl, hre⟩
  · cases h

/-- What an envelope needs to pass in a browser as well: a character in its correlation id and
in its route that is not white space there, and only finite numbers in its payload. -/
structure Portable (envelope : ServerMessageEnvelope) : Prop where
  correlationId : ∀ s, envelope.correlationId = some s → s.all isJsWhiteSpace = false
  route : ∀ s, envelope.route = some s → s.all isJsWhiteSpace = false
  payload : ∀ p, envelope.payload = some p → finiteNumbers p = true

variable {correlationId route : Text}

theorem hasEnvelopeStrings_wireValue (hs : Serializes envelope value)
    (hco : envelope.correlationId = some correlationId)
    (hro : envelope.route = some route) (hc : correlationId.length ≤ 128)
    (hr : route.length ≤ 256) :
    hasEnvelopeStrings value =
      (!correlationId.all isJsWhiteSpace && !route.all isJsWhiteSpace) := by
  have hti : isTimestamp (value.get (utf16 "timestamp")) = true := by
    rw [hs.timestamp]
    exact TimestampText.dateParse_write envelope.timestamp
  rw [hasEnvelopeStrings, hs.correlationId, hs.route, hti, hco, hro,
    isBoundedString_stringValue hc, isBoundedString_stringValue hr, Bool.and_true]

theorem portable_iff (hs : Serializes envelope value)
    (hco : envelope.correlationId = some correlationId)
    (hro : envelope.route = some route) (hc : correlationId.length ≤ 128)
    (hr : route.length ≤ 256) :
    Portable envelope ↔ hasEnvelopeStrings value = true ∧
      isJsonValue (value.get (utf16 "payload")) = true := by
  rw [hasEnvelopeStrings_wireValue hs hco hro hc hr,
    isJsonValue_payloadValue hs.payload, Bool.and_eq_true, Bool.not_eq_true', Bool.not_eq_true']
  constructor
  · intro hp
    exact ⟨⟨hp.correlationId _ hco, hp.route _ hro⟩, hp.payload⟩
  · rintro ⟨⟨hcid, hrt⟩, hp⟩
    refine ⟨fun s hca => ?_, fun s hca => ?_, hp⟩
    · rw [hco] at hca
      rwa [← Option.some.inj hca]
    · rw [hro] at hca
      rwa [← Option.some.inj hca]

theorem isErrorPayload_wireValue (hs : Serializes envelope value) {name : Text}
    (hna : envelope.type = some name)
    (h : envelope.type = some ProtocolMessageTypes.error →
      ProtocolValidator.isStructuredError envelope.error = true) :
    ¬(isText ProtocolMessageTypes.error (.string name) = true ∧
      isErrorPayload (value.get (utf16 "error")) = false) := by
  rintro ⟨hte, hpa⟩
  rw [isText, beq_iff_eq] at hte
  rw [hte] at hna
  rw [hs.error, isErrorPayload_errorValue (h hna)] at hpa
  cases hpa

theorem isReconnectAdvice_wireValue (hs : Serializes envelope value)
    (h : ∀ advice, envelope.reconnect = some advice →
      ProtocolValidator.isValidReconnectAdvice advice = true) :
    ¬(isNullOrUndefined (value.get (utf16 "reconnect")) = false ∧
      isReconnectAdvice (value.get (utf16 "reconnect")) = false) := by
  rintro ⟨hnu, had⟩
  have hre := hs.reconnect
  cases hca : envelope.reconnect with
  | none =>
    rw [hca] at hre
    rw [← Option.some.inj hre] at hnu
    cases hnu
  | some advice =>
    rw [hca] at hre
    rw [isReconnectAdvice_reconnectValue (h advice hca) hre] at had
    cases had

/-- A browser takes the messages of the server that are portable, and drops the others. -/
theorem validateServerEnvelope_wireValue
    (h : ProtocolValidator.validateServer (some envelope) = .valid)
    (hwire : wireValue envelope = some value) :
    validateServerEnvelope value = .valid value ↔ Portable envelope := by
  obtain ⟨hve, htyp, hcid, -, hro, herr, hre⟩ :=
    ProtocolValidator.validateServer_valid_iff.mp h
  have hs := serializes_of_wireValue hwire
  obtain ⟨correlationId, hco⟩ : ∃ s, envelope.correlationId = some s := by
    cases hca : envelope.correlationId with
    | none =>
      rw [hca] at hcid
      cases hcid
    | some s => exact ⟨s, rfl⟩
  obtain ⟨route, hrou⟩ : ∃ s, envelope.route = some s := by
    cases hca : envelope.route with
    | none =>
      rw [hca] at hro
      cases hro
    | some s => exact ⟨s, rfl⟩
  obtain ⟨name, hmem, hna, hty⟩ := isServerType_stringValue htyp
  rw [hco, ProtocolValidator.isValidCorrelationId_some] at hcid
  rw [hrou, ProtocolValidator.isValidRoute_some] at hro
  have hcu : isText ProtocolVersions.current (value.get (utf16 "version")) = true := by
    rw [hs.version, hve]
    decide +kernel
  have hse : isServerType (.string name) = true := List.contains_iff_mem.mpr hmem
  have her := isErrorPayload_wireValue hs hna herr
  have had := isReconnectAdvice_wireValue hs hre
  rw [portable_iff hs hco hrou hcid.2 hro.2]
  simp only [validateServerEnvelope, hs.isRecord, hs.type, hty, hcu, hse,
    hs.hasPayload, isUndefined_of_payloadValue hs.payload, if_neg her, Bool.true_eq_false,
    false_or, if_false, true_and]
  cases hasEnvelopeStrings value with
  | false => simp
  | true =>
    cases isJsonValue (value.get (utf16 "payload")) with
    | false => simp
    | true => simp [if_neg (fun hc => had (And.right hc))]

end

@[reducible] def fixedTimestamp : TimestampText where
  write _ := utf16 "2026-01-01T00:00:00+00:00"
  dateParse text := if text = utf16 "2026-01-01T00:00:00+00:00" then some 1767225600000 else none
  dateParse_write _ := by decide +kernel

def eventEnvelope (correlationId : Text) (payload : JsonElement) : ServerMessageEnvelope where
  version := some ProtocolVersions.current
  type := some ProtocolMessageTypes.event
  correlationId := some correlationId
  timestamp := 639028224000000000
  route := some (utf16 "topics/orders")
  payload := some payload

theorem validateServerEnvelope_wireValue_orders :
    let _ := fixedTimestamp
    ∃ value, wireValue (eventEnvelope (utf16 "c-1") (.number (utf16 "12.5"))) = some value ∧
      validateServerEnvelope value = .valid value := by
  intro clock
  have hva : ProtocolValidator.validateServer
      (some (eventEnvelope (utf16 "c-1") (.number (utf16 "12.5")))) = .valid := by decide +kernel
  refine ⟨_, rfl, ?_⟩
  apply (validateServerEnvelope_wireValue hva rfl).mpr
  constructor
  · rintro s ⟨⟩
    decide +kernel
  · rintro s ⟨⟩
    decide +kernel
  · rintro p ⟨⟩
    decide +kernel

/-- `1e999` is a JSON number that no double holds, and U+FEFF is white space only in a browser. -/
theorem server_messages_dropped :
    let _ := fixedTimestamp
    (∃ envelope value, ProtocolValidator.validateServer (some envelope) = .valid ∧
      wireValue envelope = some value ∧
      validateServerEnvelope value = .invalid ProtocolErrorCodes.invalidEnvelope
        (utf16 "Payload must contain only finite JSON values.")) ∧
    (∃ envelope value, ProtocolValidator.validateServer (some envelope) = .valid ∧
      wireValue envelope = some value ∧
      validateServerEnvelope value = .invalid ProtocolErrorCodes.invalidEnvelope
        (utf16 "The server message envelope is invalid.")) := by
  intro clock
  constructor
  · have hnu : parseNumber (utf16 "1e999") = some (.infinite false) := by decide +kernel
    refine ⟨eventEnvelope (utf16 "c-1") (.number (utf16 "1e999")), ?_⟩
    simp only [wireValue, eventEnvelope, payloadValue, jsonParse, hnu]
    exact ⟨_, by decide +kernel, rfl, rfl⟩
  · exact ⟨eventEnvelope [0xFEFF] .null, _, by decide +kernel, rfl, rfl⟩

end Realtime.Sdk
