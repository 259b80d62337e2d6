import Realtime.Diagnostics.Coordination

/-! The reservation, the active key and the index entry of an override for all replicas
are written and removed together, and what else removes one of them leaves the others
consistent. -/

namespace Realtime.Diagnostics

open List Option

variable [DiagnosticsRuntime]

namespace RedisStore

structure Consistent (maximum : Nat) (r : RedisStore) : Prop where
  reserved : ∀ (id : OverrideId) (message : DiagnosticsCoordinationMessage) (expiresAt : Nat)
    (request : LogLevelChangeRequest), r.active id = some (message, expiresAt) →
    message.request = some request → request.scope = utf16 "all" → r.now ≤ expiresAt →
    r.reservations (reservationKey request.category) = some (id, expiresAt)
  indexed : ∀ (id : OverrideId) (message : DiagnosticsCoordinationMessage) (expiresAt : Nat)
    (request : LogLevelChangeRequest), r.active id = some (message, expiresAt) →
    message.request = some request → request.scope = utf16 "all" → r.now ≤ expiresAt →
    r.now < message.timestamp + request.lifetime →
    (id, message.timestamp + request.lifetime) ∈ r.index
  bounded : r.index.length ≤ maximum

variable {r : RedisStore} {maximum : Nat}

theorem Consistent.tick (h : r.Consistent maximum) (milliseconds : Nat) :
    Consistent maximum { r with now := r.now + milliseconds } := by
  refine ⟨?_, ?_, h.bounded⟩
  · intro id message expiresAt request ha hr hs hnow
    exact h.reserved id message expiresAt request ha hr hs (Nat.le_of_add_right_le hnow)
  · intro id message expiresAt request ha hr hs hnow hli
    exact h.indexed id message expiresAt request ha hr hs (Nat.le_of_add_right_le hnow)
      (by simp only at hli; omega)

theorem Consistent.removeRangeByScore (h : r.Consistent maximum) {bound : Nat}
    (hb : bound ≤ r.now) : (r.removeRangeByScore bound).Consistent maximum := by
  refine ⟨h.reserved, ?_, Nat.le_trans (length_filter_le _ _) h.bounded⟩
  intro id message expiresAt request ha hr hs hnow hli
  have hmem := h.indexed id message expiresAt request ha hr hs hnow hli
  change r.now < _ at hli
  refine mem_filter.mpr ⟨hmem, ?_⟩
  simp only [decide_eq_true_eq]
  omega

variable {id : OverrideId} {message : DiagnosticsCoordinationMessage} {key : Text}

theorem Consistent.removeMember (h : r.Consistent maximum) (ha : r.getActive id = none) :
    (r.removeMember id).Consistent maximum := by
  refine ⟨h.reserved, ?_, Nat.le_trans (length_filter_le _ _) h.bounded⟩
  intro other message expiresAt request hac hr hs hnow hli
  have hmem := h.indexed other message expiresAt request hac hr hs hnow hli
  have hne : other ≠ id := by
    rintro rfl
    change r.active other = _ at hac
    change r.now ≤ _ at hnow
    simp [getActive, hac, hnow] at ha
  exact mem_filter.mpr ⟨hmem, by simpa using hne⟩

theorem Consistent.deleteActive (h : r.Consistent maximum) (id : OverrideId) :
    (r.deleteActive id).Consistent maximum := by
  have hba {other : OverrideId} {entry : DiagnosticsCoordinationMessage × Nat}
      (ha : (r.deleteActive id).active other = some entry) : r.active other = some entry := by
    by_cases ho : other = id
    · simp [RedisStore.deleteActive, ho] at ha
    · simpa [RedisStore.deleteActive, ho] using ha
  refine ⟨?_, ?_, h.bounded⟩
  · intro other message expiresAt request ha
    exact h.reserved other message expiresAt request (hba ha)
  · intro other message expiresAt request ha
    exact h.indexed other message expiresAt request (hba ha)

theorem Consistent.setActive (h : r.Consistent maximum) {lifetime : Nat}
    (hm : ∀ request, message.request = some request → request.scope ≠ utf16 "all") :
    (r.setActive id message lifetime).Consistent maximum := by
  have hba {other : OverrideId} {found : DiagnosticsCoordinationMessage} {expiresAt : Nat}
      {request : LogLevelChangeRequest}
      (ha : (r.setActive id message lifetime).active other = some (found, expiresAt))
      (hr : found.request = some request) (hs : request.scope = utf16 "all") :
      r.active other = some (found, expiresAt) := by
    by_cases ho : other = id
    · simp only [RedisStore.setActive, ho, Function.update_self, some.injEq,
        Prod.mk.injEq] at ha
      exact absurd hs (hm request (ha.1 ▸ hr))
    · simpa [RedisStore.setActive, ho] using ha
  refine ⟨?_, ?_, h.bounded⟩
  · intro other found expiresAt request ha hr hs
    exact h.reserved other found expiresAt request (hba ha hr hs) hr hs
  · intro other found expiresAt request ha hr hs
    exact h.indexed other found expiresAt request (hba ha hr hs) hr hs

omit [DiagnosticsRuntime] in
theorem getReservation_eq_some :
    r.getReservation key = some id ↔
      ∃ expiresAt, r.reservations key = some (id, expiresAt) ∧ r.now ≤ expiresAt := by
  unfold getReservation
  cases r.reservations key with
  | none => simp
  | some entry =>
    constructor
    · intro h
      simp only [ite_none_right_eq_some, some.injEq] at h
      exact ⟨entry.2, by rw [← h.2], h.1⟩
    · rintro ⟨expiresAt, h, hle⟩
      cases h
      exact if_pos hle

omit [DiagnosticsRuntime] in
theorem getActive_eq_some :
    r.getActive id = some message ↔
      ∃ expiresAt, r.active id = some (message, expiresAt) ∧ r.now ≤ expiresAt := by
  unfold getActive
  cases r.active id with
  | none => simp
  | some entry =>
    constructor
    · intro h
      simp only [ite_none_right_eq_some, some.injEq] at h
      exact ⟨entry.2, by rw [← h.2], h.1⟩
    · rintro ⟨expiresAt, h, hle⟩
      cases h
      exact if_pos hle

omit [DiagnosticsRuntime] in
theorem removeActive_reservations {id other : OverrideId} {key held : Text} {expiresAt : Nat}
    (h : r.reservations held = some (other, expiresAt)) (hnow : r.now ≤ expiresAt)
    (hne : other ≠ id) : (r.removeActive id key).reservations held = some (other, expiresAt) := by
  by_cases hk : held = key
  · subst hk
    have hget := getReservation_eq_some.mpr ⟨expiresAt, h, hnow⟩
    simp [RedisStore.removeActive, RedisStore.deleteActive, RedisStore.removeMember, hget, hne, h]
  · by_cases hg : r.getReservation key = some id
    · simp [RedisStore.removeActive, RedisStore.deleteActive, RedisStore.removeMember, hg, hk, h]
    · simp [RedisStore.removeActive, RedisStore.deleteActive, RedisStore.removeMember, hg, h]

omit [DiagnosticsRuntime] in
theorem removeActive_active (id : OverrideId) (key : Text) :
    (r.removeActive id key).active = Function.update r.active id none := by
  unfold RedisStore.removeActive
  split <;> rfl

omit [DiagnosticsRuntime] in
theorem removeActive_index (id : OverrideId) (key : Text) :
    (r.removeActive id key).index = (r.removeMember id).index := by
  unfold RedisStore.removeActive
  split <;> rfl

omit [DiagnosticsRuntime] in
theorem removeActive_now (id : OverrideId) (key : Text) :
    (r.removeActive id key).now = r.now := by
  unfold RedisStore.removeActive
  split <;> rfl

theorem Consistent.removeActive (h : r.Consistent maximum) (id : OverrideId) (key : Text) :
    (r.removeActive id key).Consistent maximum := by
  have hba {other : OverrideId} {entry : DiagnosticsCoordinationMessage × Nat}
      (ha : (r.removeActive id key).active other = some entry) :
      other ≠ id ∧ r.active other = some entry := by
    rw [removeActive_active] at ha
    by_cases ho : other = id
    · simp [ho] at ha
    · exact ⟨ho, by simpa [ho] using ha⟩
  refine ⟨?_, ?_, ?_⟩
  · intro other message expiresAt request ha hr hs hnow
    rw [removeActive_now] at hnow
    obtain ⟨hne, ha⟩ := hba ha
    exact removeActive_reservations (h.reserved other message expiresAt request ha hr hs hnow)
      hnow hne
  · intro other message expiresAt request ha hr hs hnow hli
    rw [removeActive_now] at hnow hli
    obtain ⟨hne, ha⟩ := hba ha
    rw [removeActive_index]
    have hmem := h.indexed other message expiresAt request ha hr hs hnow hli
    exact mem_filter.mpr ⟨hmem, by simpa using hne⟩
  · rw [removeActive_index]
    exact Nat.le_trans (length_filter_le _ _) h.bounded

omit [DiagnosticsRuntime] in
theorem reserve_cases (key : Text) (id : OverrideId) (message : DiagnosticsCoordinationMessage)
    (lifetime startedAt maximum score : Nat) :
    ((r.reserve key id message lifetime startedAt maximum score).1 = 0 ∧
      (r.reserve key id message lifetime startedAt maximum score).2 = r) ∨
    ((r.reserve key id message lifetime startedAt maximum score).1 = -1 ∧
      (r.reserve key id message lifetime startedAt maximum score).2 =
        r.removeRangeByScore startedAt) ∨
    ((r.reserve key id message lifetime startedAt maximum score).1 = 1 ∧
      r.getReservation key = none ∧ (r.removeRangeByScore startedAt).index.length < maximum ∧
      (r.reserve key id message lifetime startedAt maximum score).2 =
        { r with
          reservations := Function.update r.reservations key (some (id, r.now + lifetime))
          active := Function.update r.active id (some (message, r.now + lifetime))
          index := ((r.removeRangeByScore startedAt).removeMember id).index ++ [(id, score)] }) := by
  unfold reserve
  split
  · exact .inl ⟨rfl, rfl⟩
  · next hres =>
    simp only
    split
    · exact .inr (.inl ⟨rfl, rfl⟩)
    · next hlen =>
      exact .inr (.inr ⟨rfl, by simpa using hres, Nat.lt_of_not_le hlen, rfl⟩)

theorem Consistent.reserve (h : r.Consistent maximum) {a : Apply} (ha : a.startedAt ≤ r.now) :
    (r.reserve (reservationKey a.request.category) id (a.message id) a.request.lifetime
      a.startedAt maximum a.expiresAt).2.Consistent maximum := by
  rcases reserve_cases (r := r) (reservationKey a.request.category) id (a.message id)
    a.request.lifetime a.startedAt maximum a.expiresAt with
    ⟨-, he⟩ | ⟨-, he⟩ | ⟨-, hfr, hlen, he⟩
  · rw [he]
    exact h
  · rw [he]
    exact h.removeRangeByScore ha
  · rw [he]
    have htr := h.removeRangeByScore ha
    refine ⟨?_, ?_, ?_⟩
    · intro other message expiresAt request hac hr hs hnow
      by_cases ho : other = id
      · subst ho
        simp only [Function.update_self, some.injEq, Prod.mk.injEq] at hac
        obtain ⟨rfl, rfl⟩ := hac
        cases hr
        simp
      · simp only [Function.update_of_ne ho] at hac
        have hres := h.reserved other message expiresAt request hac hr hs hnow
        have hkey : reservationKey request.category ≠ reservationKey a.request.category := by
          intro hk
          have hget := getReservation_eq_some.mpr ⟨expiresAt, hres, hnow⟩
          rw [hk, hfr] at hget
          cases hget
        simp only [Function.update_of_ne hkey]
        exact hres
    · intro other message expiresAt request hac hr hs hnow hli
      by_cases ho : other = id
      · subst ho
        simp only [Function.update_self, some.injEq, Prod.mk.injEq] at hac
        obtain ⟨rfl, rfl⟩ := hac
        cases hr
        exact mem_append_right _ (mem_singleton.mpr rfl)
      · simp only [Function.update_of_ne ho] at hac
        have hmem := htr.indexed other message expiresAt request hac hr hs hnow hli
        exact mem_append_left _ (mem_filter.mpr ⟨hmem, by simpa using ho⟩)
    · have hle : ((r.removeRangeByScore a.startedAt).removeMember id).index.length ≤
          (r.removeRangeByScore a.startedAt).index.length := length_filter_le _ _
      simp only [length_append, length_singleton]
      omega

end RedisStore

end Realtime.Diagnostics
