import Realtime.Pipeline
import Realtime.Tickets

/-! The keys of sessions, tickets, durable streams, their idempotency marks and their poison
streams in Redis. A key is a concatenation; its family and the identifier behind it have no
colon, so that they can be read back. -/

namespace Realtime

/-- The options that keys are built from, with their defaults. -/
structure RedisKeyOptions where
  instancePrefix : Text := utf16 "realtime"
  sessionKeyPrefix : Text := utf16 "sessions"
  ticketKeyPrefix : Text := utf16 "tickets"
  streamKeyPrefix : Text := utf16 "streams"

section

variable [CharTable] (options : RedisKeyOptions)

def sessionKey (sessionId : Text) : Text :=
  options.instancePrefix ++ utf16 ":" ++ options.sessionKeyPrefix ++ utf16 ":" ++ sessionId

def ticketKey (ticket : Text) : Text :=
  options.instancePrefix ++ utf16 ":" ++ options.ticketKeyPrefix ++ utf16 ":" ++ ticket

def idempotencyKey (streamKey messageId : Text) : Text :=
  streamKey ++ utf16 ":processed:" ++ messageId

def poisonKey (streamKey : Text) : Text := streamKey ++ utf16 ":poison"

/-- What a gateway keeps in Redis under a key of its own. -/
inductive RedisItem where
  | session (sessionId : Text)
  | ticket (text : Text)
  | stream (eventClass : Text)
  | processed (eventClass messageId : Text)
  | poison (eventClass : Text)
  deriving DecidableEq

/-- The key of an item; `StreamKey` throws for an event class that it does not accept. -/
def RedisItem.key (item : RedisItem) : Option Text :=
  let ofClass := streamKey options.instancePrefix options.streamKeyPrefix
  match item with
  | .session sessionId => some (sessionKey options sessionId)
  | .ticket text => some (ticketKey options text)
  | .stream eventClass => ofClass eventClass
  | .processed eventClass messageId => (ofClass eventClass).map (idempotencyKey · messageId)
  | .poison eventClass => (ofClass eventClass).map poisonKey

def RedisItem.isAccepted : RedisItem → Bool
  | .session sessionId => isValidSessionId sessionId
  | .ticket text => hasTicketForm text
  | .stream eventClass | .poison eventClass => isValidEventClass eventClass
  | .processed eventClass messageId => isValidEventClass eventClass && isSafeIdentifier messageId

end

/-- The parts of a key behind the prefix of the instance: the family, the identifier and what
follows it. -/
structure KeyParts where
  family : Text
  identifier : Text
  rest : Text := []

def RedisItem.parts : RedisItem → KeyParts
  | .session sessionId => { family := utf16 "sessions", identifier := sessionId }
  | .ticket text => { family := utf16 "tickets", identifier := text }
  | .stream eventClass => { family := utf16 "streams", identifier := eventClass }
  | .processed eventClass messageId =>
    ⟨utf16 "streams", eventClass, utf16 ":processed:" ++ messageId⟩
  | .poison eventClass => ⟨utf16 "streams", eventClass, utf16 ":poison"⟩

def KeyParts.text (parts : KeyParts) : Text :=
  parts.family ++ codeUnit ':' :: (parts.identifier ++ parts.rest)

structure KeyParts.Readable (parts : KeyParts) : Prop where
  family : codeUnit ':' ∉ parts.family
  identifier : codeUnit ':' ∉ parts.identifier
  rest : ∀ c ∈ parts.rest.head?, c = codeUnit ':'

theorem KeyParts.text_inj {parts parts' : KeyParts} (h : parts.Readable) (h' : parts'.Readable)
    (ht : parts.text = parts'.text) : parts = parts' := by
  obtain ⟨family, identifier, rest⟩ := parts
  obtain ⟨family', identifier', rest'⟩ := parts'
  obtain ⟨rfl, hr⟩ := append_inj_of_notMem h.family h'.family (by simp) (by simp) ht
  obtain ⟨rfl, rfl⟩ := append_inj_of_notMem h.identifier h'.identifier h.rest h'.rest
    (List.cons.inj hr).2
  rfl

theorem RedisItem.parts_inj {first second : RedisItem} (h : first.parts = second.parts) :
    first = second := by
  cases first <;> cases second <;> simp_all [parts, utf16, encodeChar]

theorem RedisItem.parts_family (item : RedisItem) : codeUnit ':' ∉ item.parts.family := by
  cases item <;> (simp only [parts]; decide)

section

variable [CharTable] {item : RedisItem} {value : Text}

theorem isTokenChar_colon : isTokenChar (codeUnit ':') = false := by
  have h := CharTable.ascii (codeUnit ':') (by decide)
  simp only [isTokenChar, h]
  decide

theorem colon_notMem {low high : Nat} (h : hasForm low high isTokenChar value = true) :
    codeUnit ':' ∉ value := by
  intro hm
  have hc := (hasForm_iff.mp h).2.2 _ hm
  rw [isTokenChar_colon] at hc
  cases hc

theorem colon_notMem_eventClass (h : isValidEventClass value = true) : codeUnit ':' ∉ value := by
  have hws : ∀ c, isTokenChar c = true → isWhiteSpace c = false :=
    fun c hc => isSafeChar_notWhiteSpace (isTokenChar_isSafeChar hc)
  rw [isValidEventClass, hasNonBlankForm_eq_hasForm hws] at h
  exact colon_notMem h

theorem RedisItem.key_eq (instancePrefix : Text) (h : item.isAccepted = true) :
    item.key { instancePrefix } = some (instancePrefix ++ utf16 ":" ++ item.parts.text) := by
  have hc : ∀ rest : Text, utf16 ":" ++ rest = codeUnit ':' :: rest := fun _ => rfl
  cases item <;> simp_all [isAccepted, key, sessionKey, ticketKey, streamKey, idempotencyKey,
    poisonKey, parts, KeyParts.text]

theorem RedisItem.parts_readable (h : item.isAccepted = true) : item.parts.Readable := by
  refine ⟨item.parts_family, ?_, ?_⟩
  · cases item with
    | session | ticket => exact colon_notMem h
    | stream | poison => exact colon_notMem_eventClass h
    | processed eventClass messageId =>
      simp only [isAccepted, Bool.and_eq_true] at h
      exact colon_notMem_eventClass h.1
  · cases item <;> rintro c ⟨⟩ <;> rfl

/-- Different items have different keys, whatever the prefix of the instance. -/
theorem redis_keys_distinct (instancePrefix : Text) {first second : RedisItem}
    (hfirst : first.isAccepted = true) (hsecond : second.isAccepted = true) :
    ∃ key key', first.key { instancePrefix } = some key ∧
      second.key { instancePrefix } = some key' ∧ (key = key' → first = second) := by
  refine ⟨_, _, first.key_eq instancePrefix hfirst, second.key_eq instancePrefix hsecond, ?_⟩
  intro h
  exact RedisItem.parts_inj (KeyParts.text_inj (RedisItem.parts_readable hfirst)
    (RedisItem.parts_readable hsecond) (List.append_cancel_left h))

end

theorem redis_keys_distinct_example :
    let key := @RedisItem.key asciiTable {}
    (key (.stream (utf16 "audit"))).isSome ∧
      key (.stream (utf16 "audit")) ≠ key (.poison (utf16 "audit")) := by
  obtain ⟨key, key', hk, hk', h⟩ := @redis_keys_distinct asciiTable (utf16 "realtime")
    (.stream (utf16 "audit")) (.poison (utf16 "audit")) (by decide) (by decide)
  refine ⟨by decide, ?_⟩
  rw [hk, hk', ne_eq, Option.some.injEq]
  intro he
  cases h he

end Realtime
