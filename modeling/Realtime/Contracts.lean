import Realtime.Text

/-! The wire contracts: envelopes, identities and the records that travel over
the message bus and the durable streams. A string property that the JSON
deserializer leaves unset is null, so the envelope strings are optional. A
`DateTimeOffset` is its number of 100 ns ticks since 0001-01-01T00:00:00Z, so
that zero is `default`. -/

namespace Realtime

def ticksPerSecond : Int := 10000000

def ticksPerMinute : Int := 60 * ticksPerSecond

/-- A reading of `DateTimeOffset.UtcNow`. -/
structure UtcNow where
  ticks : Int
  pos : 0 < ticks

namespace UtcNow

theorem ticks_ne_default (now : UtcNow) : now.ticks ≠ 0 := by
  have := now.pos
  omega

end UtcNow

inductive JsonElement where
  | undefined
  | null
  | bool (value : Bool)
  | number (raw : Text)
  | string (value : Text)
  | array (items : List JsonElement)
  | object (members : List (Text × JsonElement))

inductive JsonValueKind where
  | undefined | object | array | string | number | true | false | null
  deriving DecidableEq, Repr

namespace JsonElement

def valueKind : JsonElement → JsonValueKind
  | undefined => .undefined
  | null => .null
  | bool true => .true
  | bool false => .false
  | number _ => .number
  | string _ => .string
  | array _ => .array
  | object _ => .object

/-- The last definition of a repeated property is the one that is matched. -/
def tryGetProperty (name : Text) : JsonElement → Option JsonElement
  | object members => (members.reverse.find? (fun member => member.1 == name)).map Prod.snd
  | _ => none

/-- `ValueKind is Undefined or Null`. -/
def isMissing (payload : JsonElement) : Bool :=
  payload.valueKind == .undefined || payload.valueKind == .null

end JsonElement

/-- A `double`, with its finite values taken exactly. -/
inductive Double where
  | nan
  | infinite (negative : Bool)
  | finite (value : ℚ)
  deriving DecidableEq

/-- A 128-bit value; `toText` is the `"N"` format. -/
structure Guid where
  digits : List (Fin 16)
  length_eq : digits.length = 32

instance neZero_sixteen : NeZero 16 := ⟨by decide⟩

def hexDigit (d : Fin 16) : CodeUnit :=
  if d.val < 10 then UInt16.ofNat (0x30 + d.val) else UInt16.ofNat (0x57 + d.val)

def Guid.toText (g : Guid) : Text := g.digits.map hexDigit

namespace ProtocolVersions

def current : Text := utf16 "1.0"

end ProtocolVersions

namespace ProtocolMessageTypes

def ping : Text := utf16 "ping"
def subscribe : Text := utf16 "subscribe"
def unsubscribe : Text := utf16 "unsubscribe"
def publish : Text := utf16 "publish"
def acknowledge : Text := utf16 "ack"
def event : Text := utf16 "event"
def error : Text := utf16 "error"
def serviceRestart : Text := utf16 "service.restart"

end ProtocolMessageTypes

namespace ProtocolErrorCodes

def invalidEnvelope : Text := utf16 "invalid_envelope"
def unsupportedVersion : Text := utf16 "unsupported_version"
def unsupportedType : Text := utf16 "unsupported_type"
def duplicateCorrelation : Text := utf16 "duplicate_correlation"
def fragmentedMessageRejected : Text := utf16 "fragmented_message_rejected"
def unauthorized : Text := utf16 "unauthorized"
def internalError : Text := utf16 "internal_error"

end ProtocolErrorCodes

structure MessageEnvelope where
  version : Option Text
  type : Option Text
  correlationId : Option Text
  timestamp : Int
  route : Option Text
  payload : JsonElement

structure ProtocolError where
  code : Option Text
  message : Option Text
  deriving DecidableEq

structure ReconnectAdvice where
  initialDelayMilliseconds : Int
  maximumDelayMilliseconds : Int
  jitterRatio : Double
  reauthenticate : Bool
  deriving DecidableEq

structure ServerMessageEnvelope where
  version : Option Text
  type : Option Text
  correlationId : Option Text
  timestamp : Int
  route : Option Text
  payload : Option JsonElement := none
  error : Option ProtocolError := none
  reconnect : Option ReconnectAdvice := none

structure RealtimeIdentity where
  tenantId : Text
  userId : Text
  allowedTopics : List Text
  expiresAt : Int
  sessionId : Option Text := none
  deriving DecidableEq

structure RealtimeBusMessage where
  messageId : Text
  tenantId : Text
  userId : Option Text
  topic : Text
  correlationId : Text
  timestamp : Int
  payload : JsonElement
  sourceInstance : Text

structure DurableStreamMessage where
  eventClass : Text
  messageId : Text
  tenantId : Text
  userId : Option Text
  topic : Text
  correlationId : Text
  timestamp : Int
  payload : JsonElement
  sourceInstance : Text

end Realtime
