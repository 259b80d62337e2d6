import Realtime.Connection

/-! Duplicate detection on a connection. The lookup set and the order queue of
`TryTrackCorrelation` are both the window of the last ids that it accepted. -/

namespace Realtime

open List

theorem rtake_rtake_append {α : Type} (l : List α) (a : α) (n : Nat) :
    (l.rtake n ++ [a]).rtake n = (l ++ [a]).rtake n := by
  unfold rtake
  rw [length_append, length_append, length_drop, length_singleton]
  by_cases hn : n ≤ l.length
  · have hdr : l.length + 1 - n = (l.length - n) + 1 := by omega
    have hone : l.length - (l.length - n) + 1 - n = 1 := by omega
    have hap : (l ++ [a]).drop (l.length - n) = l.drop (l.length - n) ++ [a] :=
      drop_append_of_le_length (by omega)
    rw [hdr, hone, ← drop_drop, hap]
  · have hze : l.length - n = 0 := by omega
    rw [hze, drop_zero, Nat.sub_zero]

theorem length_rtake_le {α : Type} (l : List α) (n : Nat) : (l.rtake n).length ≤ n := by
  rw [rtake, length_drop]
  omega

namespace RealtimeConnection

variable {ids : List Text} {s : RealtimeConnection × List Text}

theorem evictCorrelations_eq (maximum : Nat) (h : ids.Nodup) :
    evictCorrelations maximum ids ids = (ids.rtake maximum, ids.rtake maximum) := by
  induction ids with
  | nil => rw [rtake_nil, evictCorrelations]
  | cons oldest order ih =>
    obtain ⟨-, hor⟩ := nodup_cons.mp h
    by_cases hfu : maximum < (oldest :: order).length
    · have hst : (oldest :: order).rtake maximum = order.rtake maximum := by
        rw [rtake, rtake]
        have hdr : (oldest :: order).length - maximum = (order.length - maximum) + 1 := by
          rw [length_cons] at hfu ⊢
          omega
        rw [hdr, drop_succ_cons]
      rw [evictCorrelations, if_pos hfu, erase_cons_head, ih hor, hst]
    · have hall : (oldest :: order).length - maximum = 0 := by omega
      rw [evictCorrelations, if_neg hfu, rtake, hall, drop_zero]

structure Tracks (options : RealtimeOptions) (accepted : List Text)
    (connection : RealtimeConnection) : Prop where
  order : connection.correlationOrder = accepted.rtake options.maximumTrackedCorrelations
  correlations : connection.correlations = connection.correlationOrder
  nodup : connection.correlationOrder.Nodup

variable {options : RealtimeOptions} {accepted : List Text} {connection : RealtimeConnection}
  {correlationId : Text}

theorem Tracks.refuses_iff (h : connection.Tracks options accepted) :
    (connection.tryTrackCorrelation options correlationId).1 = false ↔
      correlationId ∈ accepted.rtake options.maximumTrackedCorrelations := by
  rw [← h.order, ← h.correlations]
  unfold tryTrackCorrelation
  by_cases hm : correlationId ∈ connection.correlations
  · simp [hm]
  · simp [hm]

def track (options : RealtimeOptions) (s : RealtimeConnection × List Text) (correlationId : Text) :
    RealtimeConnection × List Text :=
  let result := s.1.tryTrackCorrelation options correlationId
  (result.2, if result.1 then s.2 ++ [correlationId] else s.2)

theorem Tracks.track (h : s.1.Tracks options s.2) :
    (track options s correlationId).1.Tracks options (track options s correlationId).2 := by
  obtain ⟨connection, accepted⟩ := s
  unfold RealtimeConnection.track tryTrackCorrelation
  by_cases hm : correlationId ∈ connection.correlations
  · simpa only [hm, if_true, Bool.false_eq_true, if_false] using h
  · have hnot : correlationId ∉ connection.correlationOrder := by
      rw [← h.correlations]
      exact hm
    have hno : (connection.correlationOrder ++ [correlationId]).Nodup := by
      rw [nodup_append]
      refine ⟨h.nodup, pairwise_singleton _ _, ?_⟩
      rintro id hid _ hsa rfl
      rw [mem_singleton.mp hsa] at hid
      exact hnot hid
    have hev := evictCorrelations_eq options.maximumTrackedCorrelations hno
    have hwi : (connection.correlationOrder ++ [correlationId]).rtake
        options.maximumTrackedCorrelations =
        (accepted ++ [correlationId]).rtake options.maximumTrackedCorrelations := by
      rw [h.order]
      exact rtake_rtake_append accepted correlationId options.maximumTrackedCorrelations
    have hsa : connection.correlations = connection.correlationOrder := h.correlations
    simp only [hm, if_false, if_true]
    rw [hsa, hev]
    refine ⟨hwi, rfl, ?_⟩
    exact hno.sublist (drop_sublist _ _)

theorem Tracks.foldl (h : s.1.Tracks options s.2) :
    (ids.foldl (RealtimeConnection.track options) s).1.Tracks options
      (ids.foldl (RealtimeConnection.track options) s).2 := by
  induction ids generalizing s with
  | nil => exact h
  | cons id ids ih => exact ih h.track

/-- After any calls on a new connection, `TryTrackCorrelation` refuses exactly the last
ids that it accepted. -/
theorem tryTrackCorrelation_window (options : RealtimeOptions) (connection : RealtimeConnection)
    (ids : List Text) :
    let s := ids.foldl (track options)
      ({ connection with correlations := [], correlationOrder := [] }, [])
    (∀ id, (s.1.tryTrackCorrelation options id).1 = false ↔
      id ∈ s.2.rtake options.maximumTrackedCorrelations) ∧
    (∀ id, id ∈ s.1.correlations ↔ id ∈ s.1.correlationOrder) ∧
    s.1.correlations.Nodup ∧ s.1.correlationOrder.Nodup ∧
    s.1.correlations.length ≤ options.maximumTrackedCorrelations ∧
    s.1.correlationOrder.length ≤ options.maximumTrackedCorrelations := by
  intro s
  have h : s.1.Tracks options s.2 := by
    refine Tracks.foldl ⟨?_, rfl, nodup_nil⟩
    rw [rtake_nil]
  have hle : s.1.correlationOrder.length ≤ options.maximumTrackedCorrelations := by
    rw [h.order]
    exact length_rtake_le _ _
  refine ⟨fun id => h.refuses_iff, ?_, ?_, h.nodup, ?_, hle⟩
  · intro id
    rw [h.correlations]
  · rw [h.correlations]
    exact h.nodup
  · rw [h.correlations]
    exact hle

/-- An id that has left the window comes back. -/
example : ([utf16 "a", utf16 "b", utf16 "a", utf16 "c", utf16 "a"].foldl
    (track { maximumTrackedCorrelations := 2 })
      ({ identity := ⟨[], [], [], 0, none⟩, sessionId := none }, [])).2 =
    [utf16 "a", utf16 "b", utf16 "c", utf16 "a"] := by
  decide +kernel

end RealtimeConnection

end Realtime
