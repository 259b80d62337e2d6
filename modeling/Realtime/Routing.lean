import Realtime.Validation

/-! Authorization of command routes and the subscription key derived from an
authorized route. The key is one string although topic and user come from the
client, so what matters is that authorized routes have different keys. -/

namespace Realtime

structure AuthorizedRoute where
  topic : Text
  userId : Option Text
  deriving DecidableEq

namespace AuthorizedRoute

def subscriptionKey (route : AuthorizedRoute) : Text :=
  match route.userId with
  | none => utf16 "topics/" ++ route.topic
  | some userId => utf16 "users/" ++ userId ++ utf16 "/topics/" ++ route.topic

def segments (route : AuthorizedRoute) : List Text :=
  match route.userId with
  | none => [utf16 "topics", route.topic]
  | some userId => [utf16 "users", userId, utf16 "topics", route.topic]

theorem subscriptionKey_eq_intercalate (route : AuthorizedRoute) :
    route.subscriptionKey = [codeUnit '/'].intercalate route.segments := by
  obtain ⟨topic, userId⟩ := route
  cases userId with
  | none =>
    simp only [subscriptionKey, segments, List.intercalate_cons_cons, List.intercalate_singleton]
    rfl
  | some userId =>
    simp only [subscriptionKey, segments, List.intercalate_cons_cons, List.intercalate_singleton,
      List.append_assoc]
    rfl

theorem subscriptionKey_nonBlank (route : AuthorizedRoute) :
    isBlank route.subscriptionKey = false := by
  have ht : (utf16 "topics/").all isWhiteSpace = false := by decide
  have hu : (utf16 "users/").all isWhiteSpace = false := by decide
  obtain ⟨topic, userId⟩ := route
  cases userId <;> simp only [subscriptionKey, isBlank, List.all_append, ht, hu, Bool.false_and]

theorem segments_injective {a b : AuthorizedRoute} (h : a.segments = b.segments) : a = b := by
  obtain ⟨topic, userId⟩ := a
  obtain ⟨topic', userId'⟩ := b
  cases userId <;> cases userId' <;> simp_all [segments]

section

variable [CharTable]

structure Safe (route : AuthorizedRoute) : Prop where
  topic : isSafeSegment route.topic = true
  userId : ∀ userId, route.userId = some userId → isSafeSegment userId = true

variable {route : AuthorizedRoute}

theorem Safe.slash_notMem (h : route.Safe) :
    ∀ segment ∈ route.segments, codeUnit '/' ∉ segment := by
  intro segment hm
  obtain ⟨topic, userId⟩ := route
  have ht := isSafeSegment_slash_notMem h.topic
  cases userId with
  | none =>
    simp only [segments, List.mem_cons, List.not_mem_nil, or_false] at hm
    rcases hm with rfl | rfl
    · decide
    · exact ht
  | some userId =>
    have hu := isSafeSegment_slash_notMem (h.userId userId rfl)
    simp only [segments, List.mem_cons, List.not_mem_nil, or_false] at hm
    rcases hm with rfl | rfl | rfl | rfl
    · decide
    · exact hu
    · decide
    · exact ht

theorem Safe.splitOn_subscriptionKey (h : route.Safe) :
    route.subscriptionKey.splitOn (codeUnit '/') = route.segments := by
  rw [subscriptionKey_eq_intercalate]
  refine List.splitOn_intercalate _ h.slash_notMem ?_
  obtain ⟨topic, userId⟩ := route
  cases userId <;> simp [segments]

theorem Safe.subscriptionKey_injective {a b : AuthorizedRoute} (ha : a.Safe) (hb : b.Safe)
    (h : a.subscriptionKey = b.subscriptionKey) : a = b := by
  apply segments_injective
  rw [← ha.splitOn_subscriptionKey, ← hb.splitOn_subscriptionKey, h]

end

end AuthorizedRoute

/-- `allowed == "*" || allowed == topic`, for some allowed topic. -/
def RealtimeIdentity.allows (identity : RealtimeIdentity) (topic : Text) : Bool :=
  identity.allowedTopics.any (fun allowed => allowed == utf16 "*" || allowed == topic)

section

variable [CharTable]

def authorizeTopic (identity : RealtimeIdentity) (topic : Text) (userId : Option Text) :
    Option AuthorizedRoute :=
  if isSafeSegment topic && identity.allows topic then some ⟨topic, userId⟩ else none

/-- `RealtimeRouteAuthorizer.TryAuthorize`. -/
def tryAuthorize (identity : RealtimeIdentity) (route : Text) : Option AuthorizedRoute :=
  match splitTrimmed (codeUnit '/') route with
  | [kind, topic] => if kind = utf16 "topics" then authorizeTopic identity topic none else none
  | [kind, requestedUser, inner, topic] =>
    if kind = utf16 "users" ∧ inner = utf16 "topics" then
      if requestedUser = identity.userId then authorizeTopic identity topic (some requestedUser)
      else none
    else none
  | _ => none

variable {identity : RealtimeIdentity} {route : AuthorizedRoute} {text : Text}

theorem authorizeTopic_eq_some {topic : Text} {userId : Option Text} :
    authorizeTopic identity topic userId = some route ↔
      isSafeSegment topic = true ∧ identity.allows topic = true ∧ route = ⟨topic, userId⟩ := by
  simp only [authorizeTopic, Bool.and_eq_true]
  constructor
  · intro h
    split at h
    · next hc => exact ⟨hc.1, hc.2, (Option.some.inj h).symm⟩
    · cases h
  · rintro ⟨ht, ha, rfl⟩
    rw [if_pos ⟨ht, ha⟩]

theorem tryAuthorize_eq_some (h : tryAuthorize identity text = some route) :
    isSafeSegment route.topic = true ∧ identity.allows route.topic = true ∧
      (route.userId = none ∨ route.userId = some identity.userId) ∧
      splitTrimmed (codeUnit '/') text = route.segments := by
  unfold tryAuthorize at h
  split at h
  · next kind topic hs =>
    split at h
    · next hk =>
      obtain ⟨ht, ha, rfl⟩ := authorizeTopic_eq_some.mp h
      exact ⟨ht, ha, .inl rfl, by rw [hs, hk]; rfl⟩
    · cases h
  · next kind requestedUser inner topic hs =>
    split at h
    · next hk =>
      split at h
      · next hu =>
        obtain ⟨ht, ha, rfl⟩ := authorizeTopic_eq_some.mp h
        exact ⟨ht, ha, .inr (by rw [hu]), by rw [hs, hk.1, hk.2]; rfl⟩
      · cases h
    · cases h
  · cases h

theorem tryAuthorize_safe (hi : identity.Valid) (h : tryAuthorize identity text = some route) :
    route.Safe := by
  obtain ⟨ht, _, hu, _⟩ := tryAuthorize_eq_some h
  refine ⟨ht, fun userId he => ?_⟩
  rcases hu with hu | hu
  · rw [hu] at he
    cases he
  · rw [hu] at he
    exact Option.some.inj he ▸ hi.userId_safe

theorem tryAuthorize_key_length_le (h : tryAuthorize identity text = some route) :
    route.subscriptionKey.length ≤ text.length := by
  obtain ⟨_, _, _, hs⟩ := tryAuthorize_eq_some h
  rw [AuthorizedRoute.subscriptionKey_eq_intercalate, ← hs]
  exact intercalate_splitTrimmed_length_le _ _

end

end Realtime
