import Realtime.Sdk.Client.Sockets

/-! The seat of the current socket: a socket of the current generation that has not told that it
closed is the current one. -/

namespace Realtime.Sdk

namespace Attempt

structure Ages (x x' : Attempt) : Prop where
  generation : x'.generation = x.generation
  hasSocket : x'.hasSocket = x.hasSocket
  opened : x.opened = true → x'.opened = true
  closeDelivered : x.closeDelivered = true → x'.closeDelivered = true
  outcome : x'.outcome = none → x.outcome = none

structure Bare (x : Attempt) : Prop where
  opened : x.opened = false
  settled : x.settled = false
  closeDelivered : x.closeDelivered = false
  abortListener : x.abortListener = false

theorem SameSocket.ages {x x' : Attempt} (h : x.SameSocket x') : x.Ages x' where
  generation := h.generation
  hasSocket := h.hasSocket
  opened := by rw [h.opened]; exact id
  closeDelivered := by rw [h.closeDelivered]; exact id
  outcome := by rw [h.outcome]; exact id

theorem Ages.refl (x : Attempt) : x.Ages x := ⟨rfl, rfl, id, id, id⟩

theorem Ages.trans {x y z : Attempt} (hxy : x.Ages y) (hyz : y.Ages z) : x.Ages z where
  generation := hyz.generation.trans hxy.generation
  hasSocket := hyz.hasSocket.trans hxy.hasSocket
  opened := hyz.opened ∘ hxy.opened
  closeDelivered := hyz.closeDelivered ∘ hxy.closeDelivered
  outcome := hxy.outcome ∘ hyz.outcome

theorem ages_closed (x : Attempt) : x.Ages x.closed := by
  unfold closed
  extract_lets noted
  split
  · exact ⟨rfl, rfl, id, fun _ => rfl, id⟩
  · exact ⟨rfl, rfl, id, fun _ => rfl, (fun h => nomatch h)⟩

theorem ages_close (x : Attempt) : x.Ages x.close := by
  unfold close
  extract_lets called
  have hca : x.Ages called := ⟨rfl, rfl, id, id, id⟩
  split
  · exact .refl x
  split
  · exact hca.trans (ages_closed called)
  · exact hca

theorem ages_abort (reason : ErrorCode) (x : Attempt) : x.Ages (x.abort reason) := by
  unfold abort
  extract_lets noted
  split
  · exact .refl x
  split
  · have hre : x.Ages (noted.reject .cancelled) := ⟨rfl, rfl, id, id, (fun h => nomatch h)⟩
    exact hre.trans (ages_close _)
  · exact ⟨rfl, rfl, id, id, id⟩

theorem ages_errored (x : Attempt) : x.Ages x.errored := by
  unfold errored
  extract_lets noted
  split
  · exact ⟨rfl, rfl, id, id, id⟩
  · exact ⟨rfl, rfl, id, id, (fun h => nomatch h)⟩

variable {x : Attempt}

theorem Bare.abort (h : x.Bare) (reason : ErrorCode) : (x.abort reason).Bare := by
  unfold Attempt.abort
  extract_lets noted
  split
  · exact h
  split
  · next hli =>
    rw [h.abortListener] at hli
    cases hli
  · exact { h with }

theorem closed_eq (x : Attempt) : x.closed = { x with
    readyState := .closed
    closeDelivered := true
    abortListener := false
    settled := true
    outcome := if x.settled then x.outcome else some (.rejected .connectionFailed) } := by
  unfold closed
  cases hse : x.settled with
  | true => simp
  | false => simp [reject]

theorem close_cases (x : Attempt) : (x.live = false ∧ x.close = x) ∨
    (x.live = true ∧ x.synchronous = false ∧
      x.close = { x with closeCalled := true, readyState := .closing }) ∨
    (x.live = true ∧ x.synchronous = true ∧
      x.close = ({ x with closeCalled := true, readyState := .closing } : Attempt).closed) := by
  unfold close
  cases hli : x.live with
  | false => simp
  | true =>
    cases hsy : x.synchronous with
    | false => simp
    | true => simp

theorem close_closed (hli : x.live = true) (hsy : x.synchronous = true) :
    x.close.closeDelivered = true ∧ x.close.readyState = .closed := by
  have hcl := x.close_cases
  simp only [hli, hsy, Bool.true_eq_false, false_and, false_or, true_and] at hcl
  rw [hcl, closed_eq]
  exact ⟨rfl, rfl⟩

theorem abort_cases (reason : ErrorCode) (x : Attempt) :
    (x.aborted.isSome = true ∧ x.abort reason = x) ∨
    (x.aborted = none ∧ (x.abortListener = false ∨ x.settled = true) ∧
      x.abort reason = { x with aborted := some reason }) ∨
    (x.aborted = none ∧ x.abortListener = true ∧ x.settled = false ∧
      x.abort reason = (({ x with
        aborted := some reason } : Attempt).reject .cancelled).close) := by
  unfold abort
  cases hab : x.aborted with
  | some code => simp
  | none =>
    cases hli : x.abortListener with
    | false => simp
    | true =>
      cases hse : x.settled with
      | false => simp
      | true => simp

structure Fades (x x' : Attempt) : Prop where
  opened : x'.opened = x.opened
  settled : x.settled = true → x'.settled = true
  readyState : x'.readyState = .opened → x.readyState = .opened

theorem fades_close (x : Attempt) : x.Fades x.close := by
  rcases x.close_cases with ⟨-, heq⟩ | ⟨-, -, heq⟩ | ⟨-, -, heq⟩
  · rw [heq]
    exact ⟨rfl, id, id⟩
  · rw [heq]
    exact ⟨rfl, id, (fun h => nomatch h)⟩
  · rw [heq, closed_eq]
    exact ⟨rfl, fun _ => rfl, (fun h => nomatch h)⟩

theorem fades_abort (reason : ErrorCode) (x : Attempt) : x.Fades (x.abort reason) := by
  rcases x.abort_cases reason with ⟨-, heq⟩ | ⟨-, -, heq⟩ | ⟨-, -, -, heq⟩
  · rw [heq]
    exact ⟨rfl, id, id⟩
  · rw [heq]
    exact ⟨rfl, id, id⟩
  · rw [heq]
    obtain ⟨hop, hse, hre⟩ :=
      fades_close (({ x with aborted := some reason } : Attempt).reject .cancelled)
    exact ⟨hop, fun _ => hse rfl, hre⟩

theorem close_aborted (x : Attempt) : x.close.aborted = x.aborted := by
  rcases x.close_cases with ⟨-, heq⟩ | ⟨-, -, heq⟩ | ⟨-, -, heq⟩
  · rw [heq]
  · rw [heq]
  · rw [heq, closed_eq]

theorem abort_aborted (reason : ErrorCode) (x : Attempt) :
    (x.abort reason).aborted.isSome = true := by
  rcases x.abort_cases reason with ⟨hab, heq⟩ | ⟨-, -, heq⟩ | ⟨-, -, -, heq⟩
  · rw [heq]
    exact hab
  · rw [heq]
    rfl
  · rw [heq, close_aborted]
    rfl

theorem close_not_live (x : Attempt) : x.close.live = false := by
  rcases x.close_cases with ⟨hli, heq⟩ | ⟨-, -, heq⟩ | ⟨-, -, heq⟩
  · rw [heq]
    exact hli
  · rw [heq]
    rfl
  · rw [heq, closed_eq]
    rfl

end Attempt

namespace Sockets

variable {k k' : Sockets} {a : AttemptId} {x : Attempt} {f : Attempt → Attempt}

structure Seated (k : Sockets) : Prop where
  le : ∀ (a : AttemptId) (x : Attempt), k.attempts[a]? = some x → x.generation ≤ k.generation
  ascending : ∀ (a b : AttemptId) (x y : Attempt), a < b → k.attempts[a]? = some x → k.attempts[b]? = some y →
    y.hasSocket = true ∨ y.outcome = none → x.generation < y.generation
  seated : ∀ (a : AttemptId) (x : Attempt), k.attempts[a]? = some x → x.hasSocket = true → x.generation = k.generation →
    x.closeDelivered = false → k.socket = some a
  bare : ∀ (a : AttemptId) (x : Attempt), k.attempts[a]? = some x → x.hasSocket = false → x.Bare
  socket : ∀ a : AttemptId, k.socket = some a → ∃ x : Attempt, k.attempts[a]? = some x ∧ x.hasSocket = true
  restores : ∀ a ∈ k.restores, ∃ x : Attempt, k.attempts[a]? = some x ∧ x.hasSocket = true ∧ x.opened = true

variable {y : Attempt}

theorem Seated.unique (hk : k.Seated) {b : AttemptId} (hx : k.attempts[a]? = some x)
    (hy : k.attempts[b]? = some y) (hxs : x.hasSocket = true ∨ x.outcome = none)
    (hys : y.hasSocket = true ∨ y.outcome = none) (hge : x.generation = y.generation) :
    a = b := by
  rcases Nat.lt_trichotomy a b with hab | hab | hab
  · have hlt := hk.ascending a b x y hab hx hy hys
    omega
  · exact hab
  · have hlt := hk.ascending b a y x hab hy hx hxs
    omega

theorem Seated.update (hk : k.Seated) (hf : ∀ x : Attempt, k.attempts[a]? = some x →
    x.Ages (f x) ∧ (x.hasSocket = false → (f x).Bare)) : (k.update a f).Seated := by
  have hag : ∀ (b : AttemptId) (y : Attempt), (k.update a f).attempts[b]? = some y →
      ∃ x : Attempt, k.attempts[b]? = some x ∧ x.Ages y ∧ (x.hasSocket = false → y.Bare) := by
    intro b y hy
    rcases getElem?_modify_cases hy with ⟨rfl, x, hx, rfl⟩ | ⟨-, hx⟩
    · exact ⟨x, hx, hf x hx⟩
    · exact ⟨y, hx, .refl y, hk.bare b y hx⟩
  have hke : ∀ (b : AttemptId) (x : Attempt), k.attempts[b]? = some x →
      ∃ y : Attempt, (k.update a f).attempts[b]? = some y ∧ x.Ages y := by
    intro b x hx
    by_cases hab : a = b
    · subst hab
      exact ⟨f x, by simp [Sockets.update, hx], (hf x hx).1⟩
    · exact ⟨x, by simp [Sockets.update, hab, hx], .refl x⟩
  constructor
  · intro b y hy
    obtain ⟨x, hx, hage, -⟩ := hag b y hy
    rw [hage.generation]
    exact hk.le b x hx
  · intro b c y z hbc hy hz hfr
    obtain ⟨x, hx, hage, -⟩ := hag b y hy
    obtain ⟨w, hw, hag', -⟩ := hag c z hz
    rw [hage.generation, hag'.generation]
    apply hk.ascending b c x w hbc hx hw
    rcases hfr with h | h
    · exact .inl (hag'.hasSocket ▸ h)
    · exact .inr (hag'.outcome h)
  · intro b y hy hso hcu hde
    obtain ⟨x, hx, hage, -⟩ := hag b y hy
    apply hk.seated b x hx (hage.hasSocket ▸ hso) (hage.generation ▸ hcu)
    by_contra h
    rw [hage.closeDelivered (by simpa using h)] at hde
    cases hde
  · intro b y hy hba
    obtain ⟨x, hx, hage, hkee⟩ := hag b y hy
    exact hkee (hage.hasSocket ▸ hba)
  · intro b hb
    obtain ⟨x, hx, hso⟩ := hk.socket b hb
    obtain ⟨y, hy, hage⟩ := hke b x hx
    exact ⟨y, hy, hage.hasSocket ▸ hso⟩
  · intro b hb
    obtain ⟨x, hx, hso, hop⟩ := hk.restores b hb
    obtain ⟨y, hy, hage⟩ := hke b x hx
    exact ⟨y, hy, hage.hasSocket ▸ hso, hage.opened hop⟩

theorem Seated.drop (hk : k.Seated) (hx : k.attempts[a]? = some x) (hso : x.hasSocket = true)
    (hcu : x.generation = k.generation) (hde : x.closeDelivered = true) :
    ({ k with socket := none } : Sockets).Seated := by
  refine { hk with seated := ?_, socket := (fun b hb => nomatch hb) }
  intro b y hy hys hyc hyd
  have hab : a = b := hk.unique hx hy (.inl hso) (.inl hys)
    (hcu.trans hyc.symm)
  subst hab
  rw [hx] at hy
  cases hy
  rw [hde] at hyd
  cases hyd

theorem Seated.updateDrop (hk : k.Seated) (hf : ∀ x : Attempt, k.attempts[a]? = some x →
      x.Ages (f x) ∧ (x.hasSocket = false → (f x).Bare)) {dropped : Bool}
    (hdr : dropped = true → ∃ x, k.attempts[a]? = some x ∧ x.hasSocket = true ∧
      x.generation = k.generation ∧ (f x).closeDelivered = true) :
    ({ k.update a f with socket := if dropped then none else k.socket } : Sockets).Seated := by
  have hup := hk.update hf
  cases dropped with
  | false => exact hup
  | true =>
    obtain ⟨x, hx, hso, hcu, hde⟩ := hdr rfl
    have hag := (hf x hx).1
    have hfx : (k.update a f).attempts[a]? = some (f x) := by simp [Sockets.update, hx]
    exact hup.drop hfx (hag.hasSocket.trans hso) (hag.generation.trans hcu)
      hde

theorem close_dropped (hx : k.attempts[a]? = some x)
    (h : (k.attempts[a]?).any (fun x => x.live && x.synchronous && k.isCurrent x) = true) :
    x.generation = k.generation ∧ x.close.closeDelivered = true ∧ x.close.readyState = .closed := by
  rw [hx, Option.any_some, Bool.and_eq_true, Bool.and_eq_true, isCurrent, beq_iff_eq] at h
  obtain ⟨⟨hli, hsy⟩, hcu⟩ := h
  exact ⟨hcu, Attempt.close_closed hli hsy⟩

theorem Seated.close (hk : k.Seated) (hx : k.attempts[a]? = some x)
    (hso : x.hasSocket = true) : (k.close a).Seated := by
  apply hk.updateDrop
  · intro y hy
    rw [hx] at hy
    cases hy
    exact ⟨x.ages_close, by simp [hso]⟩
  · intro hdr
    obtain ⟨hcu, hde, -⟩ := close_dropped hx hdr
    exact ⟨x, hx, hso, hcu, hde⟩

theorem Seated.abort_dropped (hk : k.Seated) {reason : ErrorCode}
    (h : (k.attempts[a]?).any (fun x => x.aborted.isNone && x.abortListener && !x.settled &&
      x.live && x.synchronous && k.isCurrent x) = true) :
    ∃ x, k.attempts[a]? = some x ∧ x.hasSocket = true ∧ x.generation = k.generation ∧
      (x.abort reason).closeDelivered = true ∧ (x.abort reason).readyState = .closed := by
  obtain ⟨x, hx, hco⟩ := (Option.any_eq_true _ _).mp h
  simp only [Bool.and_eq_true, isCurrent, beq_iff_eq, Option.isNone_iff_eq_none,
    Bool.not_eq_true'] at hco
  obtain ⟨⟨⟨⟨⟨habo, hli⟩, hse⟩, hliv⟩, hsy⟩, hcu⟩ := hco
  have hso : x.hasSocket = true := by
    by_contra hno
    have hab := (hk.bare a x hx (by simpa using hno)).abortListener
    rw [hli] at hab
    cases hab
  have habor : x.abort reason =
      (({ x with aborted := some reason } : Attempt).reject .cancelled).close := by
    simp [Attempt.abort, habo, hli, hse]
  refine ⟨x, hx, hso, hcu, ?_⟩
  rw [habor]
  exact Attempt.close_closed (x := ({ x with aborted := some reason } : Attempt).reject .cancelled)
    hliv hsy

theorem Seated.abort (hk : k.Seated) (a : AttemptId) (reason : ErrorCode) :
    (k.abort a reason).Seated := by
  apply hk.updateDrop
  · intro x hx
    exact ⟨x.ages_abort reason, fun h => (hk.bare a x hx h).abort reason⟩
  · intro hdr
    obtain ⟨x, hx, hso, hcu, hde, -⟩ := hk.abort_dropped hdr
    exact ⟨x, hx, hso, hcu, hde⟩

theorem Seated.created (hk : k.Seated) (hx : k.attempts[a]? = some x)
    (hba : x.hasSocket = false) (hop : x.outcome = none)
    (hcu : x.generation = k.generation) :
    ({ k.update a (fun x => { x with hasSocket := true, abortListener := true }) with
      socket := some a } : Sockets).Seated := by
  have hca : ∀ (b : AttemptId) (y : Attempt),
      (k.attempts.modify a (fun x => { x with hasSocket := true, abortListener := true }))[b]? =
        some y →
      (b = a ∧ y = { x with hasSocket := true, abortListener := true }) ∨
        (b ≠ a ∧ k.attempts[b]? = some y) := by
    intro b y hy
    rcases getElem?_modify_cases hy with ⟨rfl, z, hz, rfl⟩ | hy
    · rw [hx] at hz
      cases hz
      exact .inl ⟨rfl, rfl⟩
    · exact .inr hy
  constructor
  · intro b y hy
    rcases hca b y hy with ⟨rfl, rfl⟩ | ⟨-, hy⟩
    · exact hk.le b x hx
    · exact hk.le b y hy
  · intro b c y z hbc hy hz hfr
    have hold : ∃ y', k.attempts[b]? = some y' ∧ y'.generation = y.generation := by
      rcases hca b y hy with ⟨rfl, rfl⟩ | ⟨-, hy⟩
      · exact ⟨x, hx, rfl⟩
      · exact ⟨y, hy, rfl⟩
    obtain ⟨y', hy', hge⟩ := hold
    rw [← hge]
    rcases hca c z hz with ⟨rfl, rfl⟩ | ⟨-, hz⟩
    · exact hk.ascending b c y' x hbc hy' hx (.inr hop)
    · exact hk.ascending b c y' z hbc hy' hz hfr
  · intro b y hy hso hge _
    rcases hca b y hy with ⟨rfl, rfl⟩ | ⟨hne, hy⟩
    · rfl
    · exact absurd (hk.unique hy hx (.inl hso) (.inr hop) (hge.trans hcu.symm)) hne
  · intro b y hy hno
    rcases hca b y hy with ⟨rfl, rfl⟩ | ⟨-, hy⟩
    · cases hno
    · exact hk.bare b y hy hno
  · intro b hb
    cases hb
    exact ⟨{ x with hasSocket := true, abortListener := true }, by simp [Sockets.update, hx], rfl⟩
  · intro b hb
    obtain ⟨y, hy, hso, hope⟩ := hk.restores b hb
    have hab : a ≠ b := by
      rintro rfl
      rw [hx] at hy
      cases hy
      rw [hba] at hso
      cases hso
    exact ⟨y, by simp [Sockets.update, hab, hy], hso, hope⟩

theorem Seated.restoring (hk : k.Seated) (hx : k.attempts[a]? = some x)
    (hso : x.hasSocket = true) (hop : x.opened = true) :
    ({ k with restores := k.restores ++ [a] } : Sockets).Seated := by
  refine { hk with restores := ?_ }
  exact forall_mem_concat hk.restores ⟨x, hx, hso, hop⟩

def openLate (x : Attempt) : Attempt := { x with opened := true, readyState := .opened }

theorem openedLate_eq (hx : k.attempts[a]? = some x) :
    (k.update a openLate).close a = { k.update a (fun x => (openLate x).close) with
      socket := if (openLate x).synchronous && k.isCurrent (openLate x) then none
        else k.socket } := by
  simp [Sockets.close, Sockets.update, hx, List.modify_modify_eq, Function.comp_def, isCurrent,
    openLate, Attempt.live]

theorem Seated.move (hk : k.Seated) (h : k.Move k') : k'.Seated := by
  cases h with
  | note a f hf =>
    apply hk.update
    intro x hx
    refine ⟨(hf x).ages, ?_⟩
    intro hba
    have hfl := hk.bare a x hx hba
    have hsa := hf x
    exact ⟨hsa.opened.trans hfl.opened, hsa.settled.trans hfl.settled,
      hsa.closeDelivered.trans hfl.closeDelivered,
      hsa.abortListener.trans hfl.abortListener⟩
  | close a h =>
    rcases h with h | h
    · obtain ⟨x, hx, hso⟩ := hk.socket a h
      exact hk.close hx hso
    · obtain ⟨x, hx, hso, -⟩ := hk.restores a h
      exact hk.close hx hso
  | abort a reason => exact hk.abort a reason
  | failed a x code hx hba _ =>
    apply hk.update
    intro y hy
    rw [hx] at hy
    cases hy
    have hfl := hk.bare a x hx hba
    exact ⟨⟨rfl, rfl, id, id, by rintro ⟨⟩⟩, fun _ => { hfl with }⟩
  | created a x hx hba hop _ hcu => exact hk.created hx hba hop hcu
  | opened a x hx hso _ _ _ _ =>
    have hup := hk.update (a := a) (f := fun x =>
        { x with opened := true, readyState := .opened, abortListener := false }) (by
      intro y hy
      rw [hx] at hy
      cases hy
      exact ⟨⟨rfl, rfl, fun _ => rfl, id, id⟩, by simp [hso]⟩)
    exact hup.restoring
      (x := { x with opened := true, readyState := .opened, abortListener := false })
      (by simp [Sockets.update, hx]) hso rfl
  | openedLate a x hx hso _ _ _ =>
    have hse : ((k.update a openLate).close a).Seated := by
      rw [openedLate_eq hx]
      apply hk.updateDrop
      · intro y hy
        rw [hx] at hy
        cases hy
        have hag : x.Ages (openLate x) := ⟨rfl, rfl, fun _ => rfl, id, id⟩
        exact ⟨hag.trans (openLate x).ages_close, by simp [hso]⟩
      · intro hdr
        rw [Bool.and_eq_true, isCurrent, beq_iff_eq] at hdr
        exact ⟨x, hx, hso, hdr.2, (Attempt.close_closed rfl hdr.1).1⟩
    exact hse
  | errored a x hx hso _ =>
    apply hk.update
    intro y hy
    rw [hx] at hy
    cases hy
    exact ⟨x.ages_errored, by simp [hso]⟩
  | closed a x hx hso =>
    apply hk.updateDrop
    · intro y hy
      rw [hx] at hy
      cases hy
      exact ⟨x.ages_closed, by simp [hso]⟩
    · intro hdr
      rw [hx, Option.any_some, isCurrent, beq_iff_eq] at hdr
      exact ⟨x, hx, hso, hdr, by rw [Attempt.closed_eq]⟩
  | settled a outcome h =>
    obtain ⟨x, hx, hso, -⟩ := hk.restores a h
    apply hk.update
    intro y hy
    rw [hx] at hy
    cases hy
    exact ⟨⟨rfl, rfl, id, id, by rintro ⟨⟩⟩, by simp [hso]⟩
  | released a x _ _ _ => exact { hk with }

theorem Seated.moves (hk : k.Seated) (h : k.Moves k') : k'.Seated := by
  induction h with
  | refl => exact hk
  | tail _ hmo ih => exact ih.move hmo

/-! Superseding. -/

theorem abortCurrent_getElem? (hx : k.abortCurrent.attempts[a]? = some x) :
    ∃ y, k.attempts[a]? = some y ∧ y.Fades x ∧ (k.controller = some a → x.aborted.isSome = true) := by
  unfold abortCurrent at hx
  split at hx
  · next hno => exact ⟨x, hx, ⟨rfl, id, id⟩, by simp [hno]⟩
  · next c hco =>
    rcases getElem?_modify_cases hx with ⟨rfl, y, hy, rfl⟩ | ⟨hne, hy⟩
    · exact ⟨y, hy, y.fades_abort _, fun _ => y.abort_aborted _⟩
    · refine ⟨x, hy, ⟨rfl, id, id⟩, ?_⟩
      rw [hco]
      intro hsa
      exact absurd (Option.some.inj hsa).symm hne

theorem abortCurrent_socket (h : k.abortCurrent.socket = some a) : k.socket = some a := by
  unfold abortCurrent at h
  split at h
  · exact h
  · unfold abort at h
    dsimp only at h
    split at h
    · cases h
    · exact h

theorem abortCurrent_controller : k.abortCurrent.controller = k.controller := by
  unfold abortCurrent
  split <;> rfl

theorem abortCurrent_generation : k.abortCurrent.generation = k.generation := by
  unfold abortCurrent
  split <;> rfl

theorem Seated.abortCurrent (hk : k.Seated) : k.abortCurrent.Seated := by
  unfold Sockets.abortCurrent
  split
  · exact hk
  · exact hk.abort _ .connectionSuperseded

theorem Seated.append (hk : k.Seated) {generation : Nat} {controller : Option AttemptId}
    (hle : k.generation ≤ generation) (hba : y.hasSocket = false) (hfl : y.Bare)
    (hge : y.generation = generation)
    (hfr : y.outcome = none → k.generation < generation) :
    ({ k with
      attempts := k.attempts ++ [y]
      generation := generation
      controller := controller } : Sockets).Seated := by
  have hke : ∀ (b : AttemptId) (x : Attempt), k.attempts[b]? = some x →
      (k.attempts ++ [y])[b]? = some x := by
    intro b x hx
    rw [List.getElem?_append_left (List.getElem?_eq_some_iff.mp hx).1]
    exact hx
  constructor
  · intro b x hx
    rcases getElem?_append_singleton_cases hx with hx | ⟨-, rfl⟩
    · have hold := hk.le b x hx
      dsimp only
      omega
    · exact hge.le
  · intro b c x z hbc hx hz hz'
    rcases getElem?_append_singleton_cases hz with hz | ⟨rfl, rfl⟩
    · have hb : k.attempts[b]? = some x := by
        rcases getElem?_append_singleton_cases hx with hx | ⟨rfl, -⟩
        · exact hx
        · exact absurd hbc (Nat.lt_asymm (List.getElem?_eq_some_iff.mp hz).1)
      exact hk.ascending b c x z hbc hb hz hz'
    · rcases getElem?_append_singleton_cases hx with hx | ⟨rfl, -⟩
      · have hold := hk.le b x hx
        rcases hz' with hso | hope
        · rw [hba] at hso
          cases hso
        · have hlt := hfr hope
          omega
      · exact absurd hbc (Nat.lt_irrefl _)
  · intro b x hx hso hcu hde
    rcases getElem?_append_singleton_cases hx with hx | ⟨-, rfl⟩
    · have hold := hk.le b x hx
      have hsa : x.generation = k.generation := by
        dsimp only at hcu
        omega
      exact hk.seated b x hx hso hsa hde
    · rw [hba] at hso
      cases hso
  · intro b x hx hno
    rcases getElem?_append_singleton_cases hx with hx | ⟨-, rfl⟩
    · exact hk.bare b x hx hno
    · exact hfl
  · intro b hb
    obtain ⟨x, hx, hso⟩ := hk.socket b hb
    exact ⟨x, hke b x hx, hso⟩
  · intro b hb
    obtain ⟨x, hx, hso, hop⟩ := hk.restores b hb
    exact ⟨x, hke b x hx, hso, hop⟩

def shut (k : Sockets) : Sockets :=
  match k.socket with
  | none => k.abortCurrent
  | some a => k.abortCurrent.close a

/-- The generation has passed when the attempt is aborted, but no attempt is of the next one. -/
theorem disconnect_eq (hk : k.Seated) : k.disconnect =
    { k.shut with socket := none, generation := k.generation + 1, controller := none } := by
  have hla : ∀ a : AttemptId, ((k.attempts[a]?).any (fun x => x.aborted.isNone &&
      x.abortListener && !x.settled && x.live && x.synchronous &&
      ({ k with generation := k.generation + 1 } : Sockets).isCurrent x)) = false := by
    intro a
    cases hx : k.attempts[a]? with
    | none => rfl
    | some x =>
      have hle := hk.le a x hx
      have hne : (x.generation == k.generation + 1) = false := by
        rw [beq_eq_false_iff_ne]
        omega
      simp [isCurrent, hne]
  have hab : ({ k with generation := k.generation + 1 } : Sockets).abortCurrent =
      { k.abortCurrent with generation := k.generation + 1, socket := k.socket } := by
    unfold Sockets.abortCurrent
    dsimp only
    split
    · rfl
    · next c _ =>
      unfold Sockets.abort
      rw [hla c]
      rfl
  unfold Sockets.disconnect shut
  rw [hab]
  cases k.socket with
  | none => rfl
  | some a => rfl

theorem shut_getElem? (hx : k.shut.attempts[a]? = some x) :
    ∃ y, k.abortCurrent.attempts[a]? = some y ∧ y.Ages x ∧ y.Fades x ∧
      (k.socket = some a → x.live = false) := by
  unfold shut at hx
  split at hx
  · next hno => exact ⟨x, hx, .refl x, ⟨rfl, id, id⟩, by simp [hno]⟩
  · next c hso =>
    rcases getElem?_modify_cases hx with ⟨rfl, y, hy, rfl⟩ | ⟨hne, hy⟩
    · exact ⟨y, hy, y.ages_close, y.fades_close, fun _ => y.close_not_live⟩
    · refine ⟨x, hy, .refl x, ⟨rfl, id, id⟩, ?_⟩
      rw [hso]
      intro hsa
      exact absurd (Option.some.inj hsa).symm hne

theorem shut_generation : k.shut.generation = k.generation := by
  unfold shut
  split <;> exact abortCurrent_generation

theorem Seated.socket_abortCurrent (hk : k.Seated) (h : k.socket = some a) :
    ∃ x, k.abortCurrent.attempts[a]? = some x ∧ x.hasSocket = true := by
  obtain ⟨x, hx, hso⟩ := hk.socket a h
  unfold Sockets.abortCurrent
  split
  · exact ⟨x, hx, hso⟩
  · next c _ =>
    by_cases hca : c = a
    · refine ⟨x.abort .connectionSuperseded, ?_, (x.ages_abort _).hasSocket.trans hso⟩
      simp [Sockets.abort, Sockets.update, hca, hx]
    · exact ⟨x, by simp [Sockets.abort, Sockets.update, hca, hx], hso⟩

theorem Seated.shut (hk : k.Seated) : k.shut.Seated := by
  unfold Sockets.shut
  split
  · exact hk.abortCurrent
  · next a h =>
    obtain ⟨x, hx, hso⟩ := hk.socket_abortCurrent h
    exact hk.abortCurrent.close hx hso

theorem Seated.disconnect (hk : k.Seated) : k.disconnect.Seated := by
  have hsh := hk.shut
  rw [disconnect_eq hk, ← shut_generation]
  refine ⟨?_, hsh.ascending, ?_, hsh.bare, (fun b hb => nomatch hb), hsh.restores⟩
  · intro b x hx
    exact Nat.le_succ_of_le (hsh.le b x hx)
  · intro b x hx _ hcu
    have hle := hsh.le b x hx
    dsimp only at hcu
    omega

theorem Seated.supersedes (hk : k.Seated) (h : k.Supersedes k') : k'.Seated := by
  cases h with
  | started reconnecting synchronous reports =>
    exact hk.abortCurrent.append (Nat.le_succ _) rfl ⟨rfl, rfl, rfl, rfl⟩ rfl
      (fun _ => Nat.lt_succ_self _)
  | cancelled reports =>
    exact hk.abortCurrent.append (Nat.le_refl _) rfl ⟨rfl, rfl, rfl, rfl⟩ rfl (fun h => nomatch h)
  | disconnected => exact hk.disconnect

end Sockets

namespace Client

variable {s t : Client} {wire : Wire} {event : ClientEvent}

theorem seated_initial (options : ClientOptions) :
    ({ options := options } : Client).sockets.Seated :=
  ⟨(fun _ _ h => nomatch h), (fun _ _ _ _ _ h => nomatch h), (fun _ _ h => nomatch h),
    (fun _ _ h => nomatch h), (fun _ h => nomatch h), (fun _ h => nomatch h)⟩

theorem seated_step (hs : s.sockets.Seated) (h : step s (wire, event) = some t) :
    t.sockets.Seated := by
  rcases changes_step h with hmo | ⟨-, hsu⟩
  · exact hs.moves hmo
  · exact hs.supersedes hsu

end Client

end Realtime.Sdk
