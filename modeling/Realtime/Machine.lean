import Mathlib

/-! Finite runs of partial labelled step functions. A label resolves every
choice of the environment and of the scheduler, so a run is a list of labels
and an interleaving is an order of that list. -/

namespace Realtime

open List Option

/-- `none` says that the labelled step is not enabled in the state. -/
abbrev StepFn (σ α : Type*) := σ → α → Option σ

namespace StepFn

variable {σ α : Type*}

def run (step : StepFn σ α) : σ → List α → Option σ
  | s, [] => some s
  | s, a :: as => (step s a).bind (fun t => run step t as)

/-- Every step of the run is taken in a state where `ok` admits it. -/
def Along (step : StepFn σ α) (ok : σ → α → Prop) : σ → List α → Prop
  | _, [] => True
  | s, a :: as => ok s a ∧ ∀ t, step s a = some t → Along step ok t as

@[simp] theorem run_nil (step : StepFn σ α) (s : σ) : step.run s [] = some s := rfl

@[simp] theorem run_cons (step : StepFn σ α) (s : σ) (a : α) (as : List α) :
    step.run s (a :: as) = (step s a).bind (fun t => step.run t as) := rfl

theorem run_cons_eq_some {step : StepFn σ α} {s t : σ} {a : α} {as : List α} :
    step.run s (a :: as) = some t ↔ ∃ u, step s a = some u ∧ step.run u as = some t := by
  simp [bind_eq_some_iff]

theorem run_append (step : StepFn σ α) (s : σ) (as bs : List α) :
    step.run s (as ++ bs) = (step.run s as).bind (fun t => step.run t bs) := by
  induction as generalizing s with
  | nil => rfl
  | cons a as ih =>
    simp only [cons_append, run_cons]
    cases step s a with
    | none => rfl
    | some t => exact ih t

theorem along_append {step : StepFn σ α} {ok : σ → α → Prop} {s : σ} {as bs : List α} :
    step.Along ok s (as ++ bs) ↔
      step.Along ok s as ∧ ∀ t, step.run s as = some t → step.Along ok t bs := by
  induction as generalizing s with
  | nil => simp [Along]
  | cons a as ih =>
    simp only [cons_append, Along, ih, run_cons_eq_some]
    constructor
    · rintro ⟨ha, h⟩
      exact ⟨⟨ha, fun t ht => (h t ht).1⟩, fun t ⟨u, hu, hr⟩ => (h u hu).2 t hr⟩
    · rintro ⟨⟨ha, h⟩, h'⟩
      exact ⟨ha, fun t ht => ⟨h t ht, fun u hu => h' u ⟨t, ht, hu⟩⟩⟩

instance decidableAlong (step : StepFn σ α) (ok : σ → α → Prop) [∀ s a, Decidable (ok s a)] :
    ∀ (s : σ) (as : List α), Decidable (step.Along ok s as)
  | _, [] => isTrue trivial
  | s, a :: as =>
    match h : step s a with
    | none => decidable_of_iff (ok s a) (by simp [Along, h])
    | some t =>
      let _ := decidableAlong step ok t as
      decidable_of_iff (ok s a ∧ step.Along ok t as) (by simp [Along, h])

/-- Where a run on given labels ends can be evaluated. -/
instance decidableReaches (r : Option σ) (P : σ → Prop) [DecidablePred P] :
    Decidable (∃ s, r = some s ∧ P s) :=
  match r with
  | none => isFalse (by simp)
  | some s => decidable_of_iff (P s) (by simp)

/-- A predicate that every enabled step preserves holds at the end of every
run that starts in it. -/
theorem run_induct {step : StepFn σ α} {P : σ → Prop}
    (hst : ∀ s a t, P s → step s a = some t → P t) {s t : σ} {as : List α}
    (hs : P s) (hr : step.run s as = some t) : P t := by
  induction as generalizing s with
  | nil => exact some.inj hr ▸ hs
  | cons a as ih =>
    obtain ⟨u, hu, hr⟩ := run_cons_eq_some.mp hr
    exact ih (hst s a u hs hu) hr

/-- The same rule for runs whose steps all meet a condition. -/
theorem run_induct_along {step : StepFn σ α} {ok : σ → α → Prop} {P : σ → Prop}
    (hst : ∀ s a t, P s → ok s a → step s a = some t → P t) {s t : σ} {as : List α}
    (hs : P s) (hok : step.Along ok s as) (hr : step.run s as = some t) : P t := by
  induction as generalizing s with
  | nil => exact some.inj hr ▸ hs
  | cons a as ih =>
    obtain ⟨u, hu, hr⟩ := run_cons_eq_some.mp hr
    exact ih (hst s a u hs hok.1 hu) (hok.2 u hu) hr

end StepFn

/-! Tasks and other objects that are named by their position in a list. -/

variable {i k : Nat}

theorem getElem?_set_cases {α : Type*} {l : List α} {a x : α} (h : (l.set i a)[k]? = some x) :
    (k = i ∧ x = a) ∨ (k ≠ i ∧ l[k]? = some x) := by
  by_cases hk : i = k
  · subst hk
    rw [getElem?_set] at h
    simp only [if_true] at h
    split at h
    · exact .inl ⟨rfl, (some.inj h).symm⟩
    · cases h
  · rw [getElem?_set_ne hk] at h
    exact .inr ⟨Ne.symm hk, h⟩

theorem getElem?_append_singleton_cases {α : Type*} {l : List α} {a x : α}
    (h : (l ++ [a])[k]? = some x) : l[k]? = some x ∨ (k = l.length ∧ x = a) := by
  by_cases hk : k < l.length
  · rw [getElem?_append_left hk] at h
    exact .inl h
  · rw [getElem?_append_right (Nat.le_of_not_lt hk), getElem?_singleton] at h
    split at h
    · next h0 => exact .inr ⟨by omega, (some.inj h).symm⟩
    · cases h

theorem forall_mem_set {α : Type*} {P : α → Prop} {l : List α} {a : α} (h : ∀ x ∈ l, P x)
    (ha : P a) : ∀ x ∈ l.set i a, P x := by
  intro x hx
  rcases mem_or_eq_of_mem_set hx with hx | rfl
  · exact h x hx
  · exact ha

theorem forall_mem_concat {α : Type*} {P : α → Prop} {l : List α} {a : α} (h : ∀ x ∈ l, P x)
    (ha : P a) : ∀ x ∈ l ++ [a], P x :=
  forall_mem_append.mpr ⟨h, forall_mem_singleton.mpr ha⟩

theorem getElem?_modify_cases {α : Type*} {l : List α} {f : α → α} {x : α}
    (h : (l.modify i f)[k]? = some x) :
    (k = i ∧ ∃ y, l[k]? = some y ∧ x = f y) ∨ (k ≠ i ∧ l[k]? = some x) := by
  rw [getElem?_modify, Option.map_eq_map, map_eq_some_iff] at h
  obtain ⟨y, hy, hx⟩ := h
  by_cases hk : i = k
  · rw [if_pos hk] at hx
    exact .inl ⟨hk.symm, y, hy, hx.symm⟩
  · rw [if_neg hk] at hx
    exact .inr ⟨Ne.symm hk, hx ▸ hy⟩

theorem modify_congr {α : Type*} {l : List α} {f g : α → α} {x : α} (h : l[k]? = some x)
    (hfg : f x = g x) : l.modify k f = l.modify k g := by
  rw [modify_eq_set_getElem?, modify_eq_set_getElem?, h]
  exact congrArg (fun y => l.set k y) hfg

theorem modify_append_singleton {α : Type*} (l : List α) (x : α) (f : α → α) :
    (l ++ [x]).modify l.length f = l ++ [f x] := by
  induction l with
  | nil => rfl
  | cons y l ih => exact congrArg (y :: ·) ih

theorem sum_map_set {α M : Type*} [AddCommMonoid M] (f : α → M) {l : List α} {a : α}
    (h : l[k]? = some a) (b : α) :
    ((l.set k b).map f).sum + f a = (l.map f).sum + f b := by
  induction l generalizing k with
  | nil => simp at h
  | cons x l ih =>
    cases k with
    | zero =>
      simp only [getElem?_cons_zero, some.injEq] at h
      subst h
      simp only [set_cons_zero, map_cons, sum_cons]
      ac_rfl
    | succ k =>
      have hl := ih (by simpa using h)
      simp only [set_cons_succ, map_cons, sum_cons, add_assoc, hl]

theorem le_sum_map {α : Type*} (f : α → Nat) {l : List α} {a : α} (h : l[k]? = some a) :
    f a ≤ (l.map f).sum :=
  le_sum_of_mem (List.mem_map_of_mem (mem_of_getElem? h))

theorem countP_set_of_getElem? {α : Type*} (p : α → Bool) {l : List α} {a : α} (b : α)
    (h : l[k]? = some a) :
    ((l.set k b).countP p : Int) =
      l.countP p - (if p a then 1 else 0) + (if p b then 1 else 0) := by
  obtain ⟨hlt, hget⟩ := List.getElem?_eq_some_iff.mp h
  rw [countP_set hlt, hget]
  have hpos : p a = true → 0 < l.countP p := fun ha =>
    countP_pos_iff.mpr ⟨a, mem_of_getElem? h, ha⟩
  split_ifs with ha hb hb
  · have := hpos ha
    omega
  · have := hpos ha
    omega
  · omega
  · omega

/-- A first-in first-out queue with its history. It discards what waits when it
is closed, and takes nothing more. -/
structure Fifo (α : Type*) where
  accepted : List α
  sent : List α
  waiting : List α
  closed : Bool

namespace Fifo

variable {α : Type*}

inductive Step : Fifo α → Fifo α → Prop where
  | stutter (q : Fifo α) : Step q q
  | accept (q : Fifo α) (a : α) (h : q.closed = false) :
    Step q { q with accepted := q.accepted ++ [a], waiting := q.waiting ++ [a] }
  | send (q : Fifo α) (a : α) (rest : List α) (h : q.waiting = a :: rest) :
    Step q { q with sent := q.sent ++ [a], waiting := rest }
  | close (q : Fifo α) : Step q { q with closed := true }
  | discard (q : Fifo α) (h : q.closed = true) : Step q { q with waiting := [] }

structure InOrder (q : Fifo α) : Prop where
  sent_append_waiting : q.sent ++ q.waiting <+: q.accepted
  complete : q.closed = false → q.accepted = q.sent ++ q.waiting

theorem InOrder.step {q r : Fifo α} (hq : q.InOrder) (h : Step q r) : r.InOrder := by
  cases h with
  | stutter => exact hq
  | accept a h =>
    have he := hq.complete h
    exact ⟨by simp [he], fun _ => by simp [he]⟩
  | send a rest h =>
    have hl : q.sent ++ [a] ++ rest = q.sent ++ q.waiting := by simp [h]
    exact ⟨hl ▸ hq.sent_append_waiting, fun hc => hl ▸ hq.complete hc⟩
  | close => exact ⟨hq.sent_append_waiting, nofun⟩
  | discard h =>
    refine ⟨?_, fun hc => by simp [h] at hc⟩
    rw [append_nil]
    exact (prefix_append _ _).trans hq.sent_append_waiting

theorem InOrder.sent_prefix {q : Fifo α} (hq : q.InOrder) : q.sent <+: q.accepted :=
  (prefix_append _ _).trans hq.sent_append_waiting

end Fifo

end Realtime
