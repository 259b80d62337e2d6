import Realtime.Pipeline

/-! `RealtimeRoute`, the route grammar that the SDKs build and parse, and how the
authorizer of the gateway compares with it. -/

namespace Realtime

open List

structure ArgumentException where
  message : Text
  parameterName : Option Text
  deriving DecidableEq

structure RealtimeRoute where
  value : Text
  topic : Text
  userId : Option Text
  deriving DecidableEq

namespace RealtimeRoute

def parts (route : RealtimeRoute) : AuthorizedRoute := ⟨route.topic, route.userId⟩

section

variable [CharTable]

def isValidSegment (value : Text) : Bool := hasNonBlankForm 128 isSafeChar value

def validateSegment (value parameterName : Text) : Except ArgumentException Unit :=
  if isValidSegment value then .ok ()
  else .error
    { message := utf16 ("Route segments must contain 1-128 letters, digits, hyphens, " ++
        "underscores, or periods.")
      parameterName := some parameterName }

def forTopic (topic : Text) : Except ArgumentException RealtimeRoute := do
  validateSegment topic (utf16 "topic")
  return ⟨utf16 "topics/" ++ topic, topic, none⟩

def forUserTopic (userId topic : Text) : Except ArgumentException RealtimeRoute := do
  validateSegment userId (utf16 "userId")
  validateSegment topic (utf16 "topic")
  let value := utf16 "users/" ++ userId ++ utf16 "/topics/" ++ topic
  if ProtocolValidator.maximumRouteLength < value.length then
    throw ⟨utf16 "The user topic route must not exceed 256 characters.", none⟩
  return ⟨value, topic, some userId⟩

def tryParse (value : Option Text) : Option RealtimeRoute :=
  match value with
  | none => none
  | some value =>
    if isBlank value ∨ ProtocolValidator.maximumRouteLength < value.length then none
    else
      match value.splitOn (codeUnit '/') with
      | [kind, topic] =>
        if kind = utf16 "topics" ∧ isValidSegment topic then some ⟨value, topic, none⟩ else none
      | [kind, userId, inner, topic] =>
        if kind = utf16 "users" ∧ inner = utf16 "topics" ∧ isValidSegment userId ∧
            isValidSegment topic then some ⟨value, topic, some userId⟩
        else none
      | _ => none

theorem isValidSegment_eq (value : Text) : isValidSegment value = isSafeSegment value :=
  hasNonBlankForm_eq_hasForm (fun _ => isSafeChar_notWhiteSpace) value

/-- A route of the grammar: its value spells its parts and is not too long. -/
structure WellFormed (route : RealtimeRoute) : Prop where
  safe : route.parts.Safe
  value_eq : route.value = route.parts.subscriptionKey
  length_le : route.value.length ≤ ProtocolValidator.maximumRouteLength

variable {topic value : Text} {route : RealtimeRoute}

theorem forTopic_eq_ok :
    forTopic topic = .ok route ↔ route.WellFormed ∧ route.topic = topic ∧ route.userId = none := by
  have hva := isValidSegment_eq topic
  unfold forTopic validateSegment
  constructor
  · intro h
    by_cases hs : isValidSegment topic = true
    · simp only [hs, if_true] at h
      cases h
      rw [hs] at hva
      refine ⟨⟨⟨hva.symm, ?_⟩, rfl, ?_⟩, rfl, rfl⟩
      · intro userId hu
        cases hu
      · have hlen := (hasForm_iff.mp hva.symm).2.1
        have hhe : (utf16 "topics/").length = 7 := by decide
        have hmax : ProtocolValidator.maximumRouteLength = 256 := rfl
        rw [length_append]
        omega
    · simp only [hs] at h
      cases h
  · rintro ⟨hro, rfl, hu⟩
    have hs : isValidSegment route.topic = true := by
      rw [hva]
      exact hro.safe.topic
    obtain ⟨value, topic, userId⟩ := route
    obtain rfl : userId = none := hu
    have hval : value = utf16 "topics/" ++ topic := hro.value_eq
    simp only [hs, if_true, hval]
    rfl

theorem forUserTopic_eq_ok {userId topic : Text} :
    forUserTopic userId topic = .ok route ↔
      route.WellFormed ∧ route.topic = topic ∧ route.userId = some userId := by
  have hva := isValidSegment_eq topic
  have hva' := isValidSegment_eq userId
  unfold forUserTopic validateSegment
  constructor
  · intro h
    by_cases hu : isValidSegment userId = true
    · by_cases hs : isValidSegment topic = true
      · by_cases hl : ProtocolValidator.maximumRouteLength <
            (utf16 "users/" ++ userId ++ utf16 "/topics/" ++ topic).length
        · simp only [hu, hs, hl, if_true] at h
          cases h
        · simp only [hu, hs, hl, if_true, if_false] at h
          cases h
          rw [hs] at hva
          rw [hu] at hva'
          refine ⟨⟨⟨hva.symm, ?_⟩, rfl, Nat.le_of_not_lt hl⟩, rfl, rfl⟩
          intro user he
          cases he
          exact hva'.symm
      · simp only [hu, hs] at h
        cases h
    · simp only [hu] at h
      cases h
  · rintro ⟨hro, rfl, hu⟩
    have hs : isValidSegment route.topic = true := by
      rw [hva]
      exact hro.safe.topic
    have hus : isValidSegment userId = true := by
      rw [hva']
      exact hro.safe.userId userId hu
    obtain ⟨value, topic, user⟩ := route
    obtain rfl : user = some userId := hu
    have hval : value = utf16 "users/" ++ userId ++ utf16 "/topics/" ++ topic := hro.value_eq
    have hl := hro.length_le
    rw [hval] at hl
    simp only [hs, hus, if_true, Nat.not_lt.mpr hl, if_false, hval]
    rfl

omit [CharTable] in
theorem splitOn_eq {parts : AuthorizedRoute} (h : value.splitOn (codeUnit '/') = parts.segments) :
    value = parts.subscriptionKey := by
  rw [AuthorizedRoute.subscriptionKey_eq_intercalate, ← h, intercalate_splitOn]

theorem tryParse_eq_some :
    tryParse (some value) = some route ↔ route.WellFormed ∧ route.value = value := by
  unfold tryParse
  constructor
  · intro h
    dsimp only at h
    split at h
    · cases h
    next hli =>
    have hl : value.length ≤ ProtocolValidator.maximumRouteLength := by
      have := not_or.mp hli
      omega
    split at h
    · next kind topic hsp =>
      split at h
      · next hfo =>
        cases h
        obtain ⟨rfl, ht⟩ := hfo
        rw [isValidSegment_eq] at ht
        refine ⟨⟨⟨ht, ?_⟩, splitOn_eq hsp, hl⟩, rfl⟩
        intro user he
        cases he
      · cases h
    · next kind userId inner topic hsp =>
      split at h
      · next hfo =>
        cases h
        obtain ⟨rfl, rfl, hu, ht⟩ := hfo
        rw [isValidSegment_eq] at ht hu
        refine ⟨⟨⟨ht, ?_⟩, splitOn_eq hsp, hl⟩, rfl⟩
        intro user he
        cases he
        exact hu
      · cases h
    · cases h
  · rintro ⟨hro, rfl⟩
    have hsp := hro.safe.splitOn_subscriptionKey
    rw [← hro.value_eq] at hsp
    have hbl : isBlank route.value = false := by
      rw [hro.value_eq]
      exact route.parts.subscriptionKey_nonBlank
    have ht : isValidSegment route.topic = true := by
      rw [isValidSegment_eq]
      exact hro.safe.topic
    have hl := Nat.not_lt.mpr hro.length_le
    obtain ⟨value, topic, userId⟩ := route
    dsimp only at hbl hl ht ⊢
    cases userId with
    | none =>
      have hsp : value.splitOn (codeUnit '/') = [utf16 "topics", topic] := hsp
      simp [hbl, hl, hsp, ht]
    | some userId =>
      have hu : isValidSegment userId = true := by
        rw [isValidSegment_eq]
        exact hro.safe.userId userId rfl
      have hsp : value.splitOn (codeUnit '/') =
          [utf16 "users", userId, utf16 "topics", topic] := hsp
      simp [hbl, hl, hsp, ht, hu]

def Built (route : RealtimeRoute) : Prop :=
  (∃ topic, forTopic topic = .ok route) ∨ ∃ userId topic, forUserTopic userId topic = .ok route

theorem built_iff : route.Built ↔ route.WellFormed := by
  unfold Built
  constructor
  · rintro (⟨topic, h⟩ | ⟨userId, topic, h⟩)
    · exact (forTopic_eq_ok.mp h).1
    · exact (forUserTopic_eq_ok.mp h).1
  · intro h
    cases hu : route.userId with
    | none => exact .inl ⟨route.topic, forTopic_eq_ok.mpr ⟨h, rfl, hu⟩⟩
    | some userId => exact .inr ⟨userId, route.topic, forUserTopic_eq_ok.mpr ⟨h, rfl, hu⟩⟩

/-- Parsing inverts building, for every text and for every topic and user. -/
theorem tryParse_inverts_building :
    (∀ value route, tryParse (some value) = some route ↔ route.Built ∧ route.value = value) ∧
    (∀ topic route, forTopic topic = .ok route → tryParse (some route.value) = some route ∧
      route.topic = topic ∧ route.userId = none) ∧
    (∀ userId topic route, forUserTopic userId topic = .ok route →
      tryParse (some route.value) = some route ∧ route.topic = topic ∧
      route.userId = some userId) := by
  refine ⟨?_, ?_, ?_⟩
  · intro value route
    rw [built_iff, tryParse_eq_some]
  · intro topic route h
    obtain ⟨hro, ht, hu⟩ := forTopic_eq_ok.mp h
    exact ⟨tryParse_eq_some.mpr ⟨hro, rfl⟩, ht, hu⟩
  · intro userId topic route h
    obtain ⟨hro, ht, hu⟩ := forUserTopic_eq_ok.mp h
    exact ⟨tryParse_eq_some.mpr ⟨hro, rfl⟩, ht, hu⟩

end

theorem tryParse_inverts_building_orders :
    let _ := asciiTable
    ∃ route, forUserTopic (utf16 "u1") (utf16 "orders") = .ok route ∧
      tryParse (some route.value) = some route := by
  intro table
  obtain ⟨-, -, hus⟩ := tryParse_inverts_building
  exact ⟨_, rfl, (hus (utf16 "u1") (utf16 "orders") _ rfl).1⟩

end RealtimeRoute

/-! The authorizer trims the segments and skips the empty ones, so it accepts more texts
than the grammar has. -/

section

variable [CharTable]

omit [CharTable] in
theorem trim_eq_self {value : Text} (h : ∀ c ∈ value, isWhiteSpace c = false) :
    trim value = value := by
  have hdr : value.dropWhile isWhiteSpace = value := by
    cases value with
    | nil => rfl
    | cons c cs => simp [h c mem_cons_self]
  unfold trim
  rw [hdr, rdropWhile_eq_self_iff]
  intro hne
  simp [h _ (getLast_mem hne)]

def hasTidySegments (text : Text) : Bool :=
  (text.splitOn (codeUnit '/')).all (fun segment => !segment.isEmpty && trim segment == segment)

variable {text : Text} {route : RealtimeRoute} {identity : RealtimeIdentity}

omit [CharTable] in
theorem splitTrimmed_eq_splitOn (h : hasTidySegments text = true) :
    splitTrimmed (codeUnit '/') text = text.splitOn (codeUnit '/') := by
  have hti : ∀ segment ∈ text.splitOn (codeUnit '/'),
      segment.isEmpty = false ∧ trim segment = segment := by
    intro segment hm
    simpa using all_eq_true.mp h segment hm
  have htr : (text.splitOn (codeUnit '/')).map trim = text.splitOn (codeUnit '/') := by
    conv_rhs => rw [← map_id (text.splitOn (codeUnit '/'))]
    exact map_congr_left (fun segment hm => (hti segment hm).2)
  unfold splitTrimmed
  rw [htr, filter_eq_self]
  intro segment hm
  rw [(hti segment hm).1]
  rfl

theorem isSafeSegment_tidy {value : Text} (h : isSafeSegment value = true) :
    (!value.isEmpty && trim value == value) = true := by
  obtain ⟨hlow, -, hall⟩ := hasForm_iff.mp h
  have htr := trim_eq_self (fun c hc => isSafeChar_notWhiteSpace (hall c hc))
  cases value with
  | nil => cases hlow
  | cons c cs => simp [htr]

theorem RealtimeRoute.WellFormed.tidy (h : route.WellFormed) :
    hasTidySegments route.value = true := by
  have hto : (!(utf16 "topics").isEmpty && trim (utf16 "topics") == utf16 "topics") = true := by
    decide
  have hus : (!(utf16 "users").isEmpty && trim (utf16 "users") == utf16 "users") = true := by
    decide
  have htop := isSafeSegment_tidy h.safe.topic
  unfold hasTidySegments
  rw [h.value_eq, h.safe.splitOn_subscriptionKey]
  obtain ⟨value, topic, userId⟩ := route
  cases userId with
  | none =>
    change ([utf16 "topics", topic].all _) = true
    rw [all_cons, all_cons, hto, all_nil, Bool.true_and, Bool.and_true]
    exact htop
  | some userId =>
    have huse := isSafeSegment_tidy (h.safe.userId userId rfl)
    change ([utf16 "users", userId, utf16 "topics", topic].all _) = true
    rw [all_cons, all_cons, all_cons, all_cons, hus, huse, hto,
      all_nil, Bool.true_and, Bool.true_and, Bool.true_and, Bool.and_true]
    exact htop

def RealtimeRoute.AllowedFor (route : RealtimeRoute) (identity : RealtimeIdentity) : Prop :=
  identity.allows route.topic = true ∧ ∀ userId, route.userId = some userId →
    userId = identity.userId

theorem tryAuthorize_of_segments (h : route.WellFormed) (hal : route.AllowedFor identity)
    (hsp : splitTrimmed (codeUnit '/') text = route.parts.segments) :
    tryAuthorize identity text = some route.parts := by
  have hau : authorizeTopic identity route.topic route.userId = some route.parts :=
    authorizeTopic_eq_some.mpr ⟨h.safe.topic, hal.1, rfl⟩
  unfold tryAuthorize
  rw [hsp]
  obtain ⟨value, topic, userId⟩ := route
  cases userId with
  | none => exact hau
  | some userId =>
    obtain rfl := hal.2 userId rfl
    change (if utf16 "users" = utf16 "users" ∧ utf16 "topics" = utf16 "topics" then
      if identity.userId = identity.userId then _ else none else none) = _
    rw [if_pos ⟨rfl, rfl⟩, if_pos rfl]
    exact hau

/-- The text as the authorizer reads it. -/
def tidied (text : Text) : Text := [codeUnit '/'].intercalate (splitTrimmed (codeUnit '/') text)

theorem wellFormed_tidied {authorized : AuthorizedRoute} (hi : identity.Valid)
    (hlen : text.length ≤ 256) (h : tryAuthorize identity text = some authorized) :
    RealtimeRoute.WellFormed ⟨tidied text, authorized.topic, authorized.userId⟩ := by
  obtain ⟨-, -, -, hsp⟩ := tryAuthorize_eq_some h
  refine ⟨tryAuthorize_safe hi h, ?_, (intercalate_splitTrimmed_length_le _ text).trans hlen⟩
  change tidied text = authorized.subscriptionKey
  rw [AuthorizedRoute.subscriptionKey_eq_intercalate, ← hsp]
  rfl

theorem allowedFor_of_tryAuthorize {authorized : AuthorizedRoute} {value : Text}
    (h : tryAuthorize identity text = some authorized) :
    RealtimeRoute.AllowedFor ⟨value, authorized.topic, authorized.userId⟩ identity := by
  obtain ⟨-, hall, hus, -⟩ := tryAuthorize_eq_some h
  refine ⟨hall, fun userId hu => ?_⟩
  have hu : authorized.userId = some userId := hu
  rcases hus with hno | hso
  · rw [hno] at hu
    cases hu
  · rw [hso] at hu
    exact (Option.some.inj hu).symm

omit [CharTable] in
theorem tidied_eq_self (h : hasTidySegments text = true) : tidied text = text := by
  rw [tidied, splitTrimmed_eq_splitOn h, intercalate_splitOn]

/-- The text that the authorizer reads is split again into the segments it found. -/
theorem splitTrimmed_of_wellFormed_tidied (h : route.WellFormed) (hva : route.value = tidied text) :
    splitTrimmed (codeUnit '/') text = route.parts.segments := by
  have hsp := h.safe.splitOn_subscriptionKey
  rw [← h.value_eq, hva] at hsp
  rw [← hsp, tidied]
  by_cases hnil : splitTrimmed (codeUnit '/') text = []
  · rw [tidied, hnil] at hsp
    obtain ⟨value, topic, userId⟩ := route
    cases userId <;> simp [RealtimeRoute.parts, AuthorizedRoute.segments] at hsp
  · refine (splitOn_intercalate (codeUnit '/') (fun segment hm => ?_) hnil).symm
    obtain ⟨part, hp, rfl⟩ := mem_map.mp (mem_of_mem_filter hm)
    have hsl := notMem_of_mem_splitOn (codeUnit '/') text part hp
    exact fun hc => hsl ((dropWhile_suffix _).subset (( rdropWhile_prefix _ _).subset hc))

/-- The authorizer accepts a text exactly when it is a route of the grammar that the identity may
use, with the text itself as the key and the route on the events, except for the untidy texts
that it reads as such a route. -/
theorem tryAuthorize_iff_tryParse (identity : RealtimeIdentity) (text : Text)
    (hi : identity.Valid) (hlen : text.length ≤ 256) :
    ((∀ authorized, tryAuthorize identity text = some authorized ↔
      ∃ route, RealtimeRoute.tryParse (some text) = some route ∧ route.AllowedFor identity ∧
        authorized = ⟨route.topic, route.userId⟩) ∧
    (∀ authorized, tryAuthorize identity text = some authorized →
      authorized.subscriptionKey = text ∧
      ∀ message : RealtimeBusMessage, message.topic = authorized.topic →
        message.userId = authorized.userId → message.toEvent.route = some text)) ↔
    hasTidySegments text = true ∨ ¬ ∃ route,
      RealtimeRoute.tryParse (some (tidied text)) = some route ∧ route.AllowedFor identity := by
  have htidy : ∀ route, RealtimeRoute.tryParse (some text) = some route →
      hasTidySegments text = true := by
    intro route hpa
    obtain ⟨hro, rfl⟩ := RealtimeRoute.tryParse_eq_some.mp hpa
    exact hro.tidy
  constructor
  · rintro ⟨hpa, -⟩
    by_contra hno
    rw [not_or, not_not] at hno
    obtain ⟨hun, route, hti, hal⟩ := hno
    obtain ⟨hro, hva⟩ := RealtimeRoute.tryParse_eq_some.mp hti
    obtain ⟨other, hot, -⟩ := (hpa _).mp (tryAuthorize_of_segments hro hal
      (splitTrimmed_of_wellFormed_tidied hro hva))
    exact hun (htidy other hot)
  · rintro (hti | hno)
    · constructor
      · intro authorized
        constructor
        · intro h
          have hro := wellFormed_tidied hi hlen h
          rw [tidied_eq_self hti] at hro
          exact ⟨_, RealtimeRoute.tryParse_eq_some.mpr ⟨hro, rfl⟩, allowedFor_of_tryAuthorize h, rfl⟩
        · rintro ⟨route, hpa, hal, rfl⟩
          obtain ⟨hro, hva⟩ := RealtimeRoute.tryParse_eq_some.mp hpa
          exact tryAuthorize_of_segments hro hal
            (splitTrimmed_of_wellFormed_tidied hro (hva.trans (tidied_eq_self hti).symm))
      · intro authorized h
        have hro := wellFormed_tidied hi hlen h
        rw [tidied_eq_self hti] at hro
        have hkey : authorized.subscriptionKey = text := hro.value_eq.symm
        refine ⟨hkey, ?_⟩
        intro message ht hu
        have hme : message.route = authorized := by
          unfold RealtimeBusMessage.route
          rw [ht, hu]
        change some message.route.subscriptionKey = some text
        rw [hme, hkey]
    · have hnone : ∀ authorized, tryAuthorize identity text ≠ some authorized := fun _ h =>
        hno ⟨_, RealtimeRoute.tryParse_eq_some.mpr ⟨wellFormed_tidied hi hlen h, rfl⟩,
          allowedFor_of_tryAuthorize h⟩
      refine ⟨fun authorized => ⟨fun h => absurd h (hnone authorized), ?_⟩,
        fun authorized h => absurd h (hnone authorized)⟩
      rintro ⟨route, hpa, hal, -⟩
      rw [tidied_eq_self (htidy route hpa)] at hno
      exact absurd ⟨route, hpa, hal⟩ hno

end

def exampleSubscriber : RealtimeIdentity where
  tenantId := utf16 "t1"
  userId := utf16 "u1"
  allowedTopics := [utf16 "orders"]
  expiresAt := 1

/-- The slash in front is skipped: the events come with another route than the one that
was subscribed to. -/
theorem tryAuthorize_accepts_untidy :
    let _ := asciiTable
    exampleSubscriber.Valid ∧
    tryAuthorize exampleSubscriber (utf16 "/topics/orders") = some ⟨utf16 "orders", none⟩ ∧
    RealtimeRoute.tryParse (some (utf16 "/topics/orders")) = none ∧
    (AuthorizedRoute.mk (utf16 "orders") none).subscriptionKey ≠ utf16 "/topics/orders" := by
  decide +kernel

theorem tryAuthorize_iff_tryParse_orders :
    let _ := asciiTable
    tryAuthorize exampleSubscriber (utf16 "topics/orders") = some ⟨utf16 "orders", none⟩ ∧
      (AuthorizedRoute.mk (utf16 "orders") none).subscriptionKey = utf16 "topics/orders" := by
  intro table
  have hau : tryAuthorize exampleSubscriber (utf16 "topics/orders") =
      some ⟨utf16 "orders", none⟩ := by
    decide +kernel
  obtain ⟨-, hkey⟩ := (tryAuthorize_iff_tryParse exampleSubscriber (utf16 "topics/orders")
    (by decide +kernel) (by decide)).mpr (.inl (by decide +kernel))
  exact ⟨hau, (hkey _ hau).1⟩

end Realtime
