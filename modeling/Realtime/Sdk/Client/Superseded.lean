import Realtime.Sdk.Client.Seats

/-! Superseded sockets. As long as a new attempt starts only when the current socket is not open
and no restore is running, a socket of an earlier generation is closed and has no effect. -/

namespace Realtime.Sdk

namespace Attempt

/-- What holds of the attempt `a` while no attempt is superseded in the middle of a restore. -/
structure Tracked (k : Sockets) (a : AttemptId) (x : Attempt) : Prop where
  unsettled : x.hasSocket = true → x.settled = false → x.generation = k.generation ∧
    (x.opened = false → x.abortListener = true ∧ x.aborted = none ∧ k.controller = some a)
  replaced : x.hasSocket = true → (k.socket = some a ∧ x.generation = k.generation) ∨
    x.closeCalled = true ∨ x.readyState = .closed
  connecting : x.hasSocket = true → x.readyState = .connecting →
    x.settled = false ∧ x.opened = false
  closing : x.readyState = .closing → x.closeCalled = true
  outcome : x.hasSocket = true → x.outcome.isSome = true → x.settled = true
  waiting : x.hasSocket = false → x.outcome = none → x.aborted = none →
    x.generation = k.generation → k.controller = some a

variable {k : Sockets} {a : AttemptId} {x : Attempt}

theorem Tracked.same {x' : Attempt} (h : x.Tracked k a) (hsa : x.SameSocket x') :
    x'.Tracked k a := by
  obtain ⟨hge, -, -, hab, hso, hop, hre, hca, -, hli, hse,
    hou⟩ := hsa
  constructor
  · rw [hso, hse, hge, hop, hli, hab]
    exact h.unsettled
  · rw [hso, hge, hca, hre]
    exact h.replaced
  · rw [hso, hre, hse, hop]
    exact h.connecting
  · rw [hre, hca]
    exact h.closing
  · rw [hso, hou, hse]
    exact h.outcome
  · rw [hso, hou, hab, hge]
    exact h.waiting

theorem tracked_closed (hso : x.hasSocket = true) : x.closed.Tracked k a := by
  rw [closed_eq]
  constructor
  · intro _ hse
    cases hse
  · exact fun _ => .inr (.inr rfl)
  · intro _ hre
    cases hre
  · intro hre
    cases hre
  · exact fun _ _ => rfl
  · intro hba
    rw [hso] at hba
    cases hba

theorem Tracked.close (h : x.Tracked k a) (hso : x.hasSocket = true) :
    x.close.Tracked k a := by
  have hca : Tracked k a { x with closeCalled := true, readyState := .closing } := by
    constructor
    · exact h.unsettled
    · exact fun _ => .inr (.inl rfl)
    · intro _ hre
      cases hre
    · exact fun _ => rfl
    · exact h.outcome
    · exact h.waiting
  rcases close_cases x with ⟨-, heq⟩ | ⟨-, -, heq⟩ | ⟨-, -, heq⟩
  · rw [heq]
    exact h
  · rw [heq]
    exact hca
  · rw [heq]
    exact tracked_closed hso

theorem Tracked.abort (h : x.Tracked k a) (hba : x.hasSocket = false → x.Bare)
    (reason : ErrorCode) : (x.abort reason).Tracked k a := by
  rcases abort_cases reason x with ⟨-, heq⟩ | ⟨-, hqu, heq⟩ | ⟨-, hli, -, heq⟩
  · rw [heq]
    exact h
  · rw [heq]
    refine { h with unsettled := ?_, waiting := by rintro _ _ ⟨⟩ }
    -- an attempt that is not settled and has not opened has the listener
    intro hso hse
    obtain ⟨hcu, hun⟩ := h.unsettled hso hse
    refine ⟨hcu, fun hop => ?_⟩
    obtain ⟨hli, -, -⟩ := hun hop
    rcases hqu with hqu | hqu
    · rw [hli] at hqu
      cases hqu
    · rw [hqu] at hse
      cases hse
  · have hso : x.hasSocket = true := by
      by_contra hno
      have hab := (hba (by simpa using hno)).abortListener
      rw [hli] at hab
      cases hab
    rw [heq]
    -- the rejected attempt is settled, and closing it ends that it connects
    rcases close_cases (({ x with aborted := some reason } : Attempt).reject .cancelled) with
      ⟨hliv, hcl⟩ | ⟨-, -, hcl⟩ | ⟨-, -, hcl⟩
    · rw [hcl]
      refine ⟨by rintro _ ⟨⟩, h.replaced, ?_, h.closing, fun _ _ => rfl,
        by rintro _ ⟨⟩⟩
      intro _ hre
      have hco : x.readyState = .connecting := hre
      simp [live, reject, hco] at hliv
    · rw [hcl]
      exact ⟨by rintro _ ⟨⟩, fun _ => .inr (.inl rfl),
        by rintro _ ⟨⟩, fun _ => rfl, fun _ _ => rfl, by rintro _ ⟨⟩⟩
    · rw [hcl]
      exact tracked_closed hso

theorem tracked_errored (hso : x.hasSocket = true) (h : x.Tracked k a) :
    x.errored.Tracked k a := by
  unfold errored
  extract_lets noted
  split
  · next hse =>
    refine ⟨?_, fun _ => .inr (.inr rfl), (fun _ hre => nomatch hre), (fun hre => nomatch hre),
      fun _ _ => hse, h.waiting⟩
    intro _ hun
    rw [hse] at hun
    cases hun
  · refine ⟨(fun _ hse => nomatch hse), fun _ => .inr (.inr rfl),
      (fun _ hre => nomatch hre), (fun hre => nomatch hre), fun _ _ => rfl, ?_⟩
    intro hba
    rw [hso] at hba
    cases hba

theorem Tracked.retire {k' : Sockets} (h : x.Tracked k a) (hlt : x.generation < k'.generation)
    (hse : x.hasSocket = true → x.settled = true)
    (hcl : x.hasSocket = true → x.closeCalled = true ∨ x.readyState = .closed) :
    x.Tracked k' a := by
  refine ⟨?_, fun hso => .inr (hcl hso), h.connecting, h.closing, h.outcome, ?_⟩
  · intro hso hun
    rw [hse hso] at hun
    cases hun
  · intro _ _ _ hcu
    omega

theorem Tracked.closed_of_not_live (h : x.Tracked k a) (hli : x.live = false) :
    x.closeCalled = true ∨ x.readyState = .closed := by
  cases hre : x.readyState with
  | connecting => simp [live, hre] at hli
  | opened => simp [live, hre] at hli
  | closing => exact .inl (h.closing hre)
  | closed => exact .inr rfl

end Attempt

namespace Sockets

variable {k k' : Sockets} {a : AttemptId} {x : Attempt} {f : Attempt → Attempt}

structure Tracked (k : Sockets) : Prop extends k.Seated where
  tracked : ∀ (a : AttemptId) (x : Attempt), k.attempts[a]? = some x → x.Tracked k a

theorem Tracked.update (hk : k.Tracked) (hf : ∀ x : Attempt, k.attempts[a]? = some x →
    x.Ages (f x) ∧ (x.hasSocket = false → (f x).Bare) ∧ (f x).Tracked k a) :
    (k.update a f).Tracked := by
  refine ⟨hk.toSeated.update (fun x hx => ⟨(hf x hx).1, (hf x hx).2.1⟩), ?_⟩
  intro b y hy
  have htr : y.Tracked k b := by
    rcases getElem?_modify_cases hy with ⟨rfl, x, hx, rfl⟩ | ⟨-, hx⟩
    · exact (hf x hx).2.2
    · exact hk.tracked b y hx
  exact { htr with }

theorem Tracked.drop (hk : k.Tracked) (hx : k.attempts[a]? = some x) (hso : x.hasSocket = true)
    (hcu : x.generation = k.generation) (hde : x.closeDelivered = true)
    (hcl : x.readyState = .closed) : ({ k with socket := none } : Sockets).Tracked := by
  refine ⟨hk.toSeated.drop hx hso hcu hde, ?_⟩
  intro b y hy
  have htr := hk.tracked b y hy
  refine { htr with replaced := ?_ }
  intro hys
  rcases htr.replaced hys with ⟨-, hyc⟩ | hdo
  · have hab : a = b := hk.unique hx hy (.inl hso) (.inl hys)
      (hcu.trans hyc.symm)
    subst hab
    rw [hx] at hy
    cases hy
    exact .inr (.inr hcl)
  · exact .inr hdo

theorem Tracked.updateDrop (hk : k.Tracked) (hf : ∀ x : Attempt, k.attempts[a]? = some x →
      x.Ages (f x) ∧ (x.hasSocket = false → (f x).Bare) ∧ (f x).Tracked k a) {dropped : Bool}
    (hdr : dropped = true → ∃ x, k.attempts[a]? = some x ∧ x.hasSocket = true ∧
      x.generation = k.generation ∧ (f x).closeDelivered = true ∧ (f x).readyState = .closed) :
    ({ k.update a f with socket := if dropped then none else k.socket } : Sockets).Tracked := by
  have hup := hk.update hf
  cases dropped with
  | false => exact hup
  | true =>
    obtain ⟨x, hx, hso, hcu, hde, hcl⟩ := hdr rfl
    have hag := (hf x hx).1
    have hfx : (k.update a f).attempts[a]? = some (f x) := by simp [Sockets.update, hx]
    exact hup.drop hfx (hag.hasSocket.trans hso) (hag.generation.trans hcu)
      hde hcl

theorem Tracked.close (hk : k.Tracked) (hx : k.attempts[a]? = some x)
    (hso : x.hasSocket = true) : (k.close a).Tracked := by
  apply hk.updateDrop
  · intro y hy
    rw [hx] at hy
    cases hy
    exact ⟨x.ages_close, by simp [hso], (hk.tracked a x hx).close hso⟩
  · intro hdr
    exact ⟨x, hx, hso, close_dropped hx hdr⟩

theorem Tracked.abort (hk : k.Tracked) (a : AttemptId) (reason : ErrorCode) :
    (k.abort a reason).Tracked := by
  apply hk.updateDrop
  · intro x hx
    have hba := hk.bare a x hx
    exact ⟨x.ages_abort reason, fun h => (hba h).abort reason,
      (hk.tracked a x hx).abort hba reason⟩
  · intro hdr
    exact hk.abort_dropped hdr

theorem Tracked.created (hk : k.Tracked) (hx : k.attempts[a]? = some x)
    (hba : x.hasSocket = false) (hop : x.outcome = none) (hab : x.aborted = none)
    (hcu : x.generation = k.generation) :
    ({ k.update a (fun x => { x with hasSocket := true, abortListener := true }) with
      socket := some a } : Sockets).Tracked := by
  refine ⟨hk.toSeated.created hx hba hop hcu, ?_⟩
  intro b y hy
  rcases getElem?_modify_cases hy with ⟨rfl, z, hz, rfl⟩ | ⟨hne, hy⟩
  · rw [hx] at hz
    cases hz
    have hfl := hk.bare b x hx hba
    have htr := hk.tracked b x hx
    have hco := htr.waiting hba hop hab hcu
    exact ⟨fun _ _ => ⟨hcu, fun _ => ⟨rfl, hab, hco⟩⟩,
      fun _ => .inl ⟨rfl, hcu⟩, fun _ _ => ⟨hfl.settled, hfl.opened⟩,
      htr.closing, by simp [hop], (fun h => nomatch h)⟩
  · have htr := hk.tracked b y hy
    refine { htr with replaced := ?_ }
    intro hso
    rcases htr.replaced hso with ⟨-, hge⟩ | hdo
    · have hsa := hk.unique hy hx (.inl hso) (.inr hop) (hge.trans hcu.symm)
      exact absurd hsa hne
    · exact .inr hdo

theorem Tracked.opened (hk : k.Tracked) (hx : k.attempts[a]? = some x)
    (hso : x.hasSocket = true) (hde : x.closeDelivered = false)
    (hcu : x.generation = k.generation) :
    ({ k.update a (fun x =>
        { x with opened := true, readyState := .opened, abortListener := false }) with
      restores := k.restores ++ [a] } : Sockets).Tracked := by
  have htr := hk.tracked a x hx
  have hse := hk.seated a x hx hso hcu hde
  have hup : (k.update a (fun x =>
      { x with opened := true, readyState := .opened, abortListener := false })).Tracked := by
    apply hk.update
    intro y hy
    rw [hx] at hy
    cases hy
    refine ⟨⟨rfl, rfl, fun _ => rfl, id, id⟩, by simp [hso], ?_⟩
    exact ⟨fun _ _ => ⟨hcu, fun h => nomatch h⟩, fun _ => .inl ⟨hse, hcu⟩,
      (fun _ h => nomatch h), (fun h => nomatch h), htr.outcome, htr.waiting⟩
  have hre := hup.toSeated.restoring (a := a)
    (x := { x with opened := true, readyState := .opened, abortListener := false })
    (by simp [Sockets.update, hx]) hso rfl
  refine ⟨hre, fun b y hy => ?_⟩
  have hy' := hup.tracked b y hy
  exact ⟨hy'.unsettled, hy'.replaced, hy'.connecting, hy'.closing, hy'.outcome, hy'.waiting⟩

theorem Tracked.openedLate (hk : k.Tracked) (hx : k.attempts[a]? = some x)
    (hso : x.hasSocket = true) (hla : x.settled = true ∨ x.generation ≠ k.generation) :
    ((k.update a openLate).close a).Tracked := by
  have hse : x.settled = true := by
    by_contra hun
    have hcu := ((hk.tracked a x hx).unsettled hso (by simpa using hun)).1
    rcases hla with h | h
    · exact hun h
    · exact h hcu
  rw [openedLate_eq hx]
  apply hk.updateDrop
  · intro y hy
    rw [hx] at hy
    cases hy
    have hag : x.Ages (openLate x) := ⟨rfl, rfl, fun _ => rfl, id, id⟩
    refine ⟨hag.trans (openLate x).ages_close, by simp [hso], ?_⟩
    rcases (openLate x).close_cases with ⟨hli, -⟩ | ⟨-, -, hcl⟩ | ⟨-, -, hcl⟩
    · cases hli
    · rw [hcl]
      refine ⟨?_, fun _ => .inr (.inl rfl), (fun _ h => nomatch h), fun _ => rfl,
        fun _ _ => hse, by simp [openLate, hso]⟩
      intro _ hun
      have hun : x.settled = false := hun
      rw [hse] at hun
      cases hun
    · rw [hcl]
      exact Attempt.tracked_closed hso
  · intro hdr
    rw [Bool.and_eq_true, isCurrent, beq_iff_eq] at hdr
    exact ⟨x, hx, hso, hdr.2, Attempt.close_closed rfl hdr.1⟩

theorem Tracked.settled (hk : k.Tracked) (ha : a ∈ k.restores) (outcome : Outcome) :
    (k.update a (fun x => { x with settled := true, outcome := some outcome })).Tracked := by
  obtain ⟨x, hx, hso, hop⟩ := hk.restores a ha
  have htr := hk.tracked a x hx
  apply hk.update
  intro y hy
  rw [hx] at hy
  cases hy
  refine ⟨⟨rfl, rfl, id, id, (fun h => nomatch h)⟩, by simp [hso], ?_⟩
  refine ⟨(fun _ h => nomatch h), htr.replaced, ?_, htr.closing, fun _ _ => rfl,
    (fun _ h => nomatch h)⟩
  intro _ hre
  have hun := (htr.connecting hso hre).2
  rw [hop] at hun
  cases hun

theorem Tracked.released (hk : k.Tracked) (hx : k.attempts[a]? = some x)
    (hou : x.outcome.isSome = true) (hco : k.controller = some a) :
    ({ k with controller := none } : Sockets).Tracked := by
  refine ⟨{ hk with }, ?_⟩
  intro b y hy
  have htr := hk.tracked b y hy
  have hsa : k.controller = some b → y = x := by
    intro hb
    rw [hco] at hb
    cases hb
    rw [hx] at hy
    exact (Option.some.inj hy).symm
  refine { htr with unsettled := ?_, waiting := ?_ }
  · intro hso hse
    obtain ⟨hcu, hun⟩ := htr.unsettled hso hse
    refine ⟨hcu, fun hope => ?_⟩
    obtain ⟨-, -, hb⟩ := hun hope
    have hdo := htr.outcome hso (hsa hb ▸ hou)
    rw [hdo] at hse
    cases hse
  · intro hba hop hab hcu
    have hb := htr.waiting hba hop hab hcu
    rw [← hsa hb, hop] at hou
    cases hou

theorem Tracked.move (hk : k.Tracked) (h : k.Move k') : k'.Tracked := by
  cases h with
  | note a f hf =>
    refine ⟨hk.toSeated.move (.note a f hf), fun b y hy => ?_⟩
    have htr : y.Tracked k b := by
      rcases getElem?_modify_cases hy with ⟨rfl, x, hx, rfl⟩ | ⟨-, hy⟩
      · exact (hk.tracked b x hx).same (hf x)
      · exact hk.tracked b y hy
    exact { htr with }
  | close a h =>
    rcases h with h | h
    · obtain ⟨x, hx, hso⟩ := hk.socket a h
      exact hk.close hx hso
    · obtain ⟨x, hx, hso, -⟩ := hk.restores a h
      exact hk.close hx hso
  | abort a reason => exact hk.abort a reason
  | failed a x code hx hba _ =>
    apply hk.update
    intro y hy
    rw [hx] at hy
    cases hy
    have htr := hk.tracked a x hx
    have hfl := hk.bare a x hx hba
    exact ⟨⟨rfl, rfl, id, id, (fun h => nomatch h)⟩,
      fun _ => { hfl with },
      htr.unsettled, htr.replaced, htr.connecting, htr.closing,
      by simp [hba], (fun _ hno => nomatch hno)⟩
  | created a x hx hba hop hab hcu =>
    exact hk.created hx hba hop hab hcu
  | opened a x hx hso _ hde _ hcu => exact hk.opened hx hso hde hcu
  | openedLate a x hx hso _ _ hla => exact hk.openedLate hx hso hla
  | errored a x hx hso _ =>
    apply hk.update
    intro y hy
    rw [hx] at hy
    cases hy
    exact ⟨x.ages_errored, by simp [hso], Attempt.tracked_errored hso (hk.tracked a x hx)⟩
  | closed a x hx hso =>
    apply hk.updateDrop
    · intro y hy
      rw [hx] at hy
      cases hy
      exact ⟨x.ages_closed, by simp [hso], Attempt.tracked_closed hso⟩
    · intro hdr
      rw [hx, Option.any_some, isCurrent, beq_iff_eq] at hdr
      refine ⟨x, hx, hso, hdr, ?_⟩
      rw [Attempt.closed_eq]
      exact ⟨rfl, rfl⟩
  | settled a outcome h => exact hk.settled h outcome
  | released a x hx hou hco => exact hk.released hx hou hco

theorem Tracked.moves (hk : k.Tracked) (h : k.Moves k') : k'.Tracked := by
  induction h with
  | refl => exact hk
  | tail _ hmo ih => exact ih.move hmo

/-! Superseding. -/

def AtRest (k : Sockets) : Prop :=
  ∀ (a : AttemptId) (x : Attempt), k.attempts[a]? = some x → x.opened = true → x.settled = true

def NotOpen (k : Sockets) : Prop :=
  ∀ (a : AttemptId) (x : Attempt), k.socket = some a → k.attempts[a]? = some x →
    x.readyState ≠ .opened

theorem Tracked.abortCurrent (hk : k.Tracked) : k.abortCurrent.Tracked := by
  unfold Sockets.abortCurrent
  split
  · exact hk
  · exact hk.abort _ .connectionSuperseded

theorem Tracked.settled_of_atRest (hk : k.Tracked) (hre : k.AtRest)
    (hx : k.abortCurrent.attempts[a]? = some x) (hsoc : x.hasSocket = true) :
    x.settled = true := by
  by_contra hun
  rw [Bool.not_eq_true] at hun
  obtain ⟨y, hy, hfa, hab⟩ := abortCurrent_getElem? hx
  obtain ⟨-, huno⟩ := (hk.abortCurrent.tracked a x hx).unsettled hsoc hun
  cases hop : x.opened with
  | true =>
    have hse := hfa.settled (hre a y hy (hfa.opened ▸ hop))
    rw [hse] at hun
    cases hun
  | false =>
    obtain ⟨-, hno, hco⟩ := huno hop
    rw [abortCurrent_controller] at hco
    have hso := hab hco
    rw [hno] at hso
    cases hso

theorem Tracked.closed_of_notOpen (hk : k.Tracked) (hres : k.AtRest) (hop : k.NotOpen)
    (hx : k.abortCurrent.attempts[a]? = some x) (hso : x.hasSocket = true) :
    x.closeCalled = true ∨ x.readyState = .closed := by
  have htr := hk.abortCurrent.tracked a x hx
  have hse := hk.settled_of_atRest hres hx hso
  rcases htr.replaced hso with ⟨hcu, -⟩ | hdo
  · apply htr.closed_of_not_live
    obtain ⟨y, hy, hfa, -⟩ := abortCurrent_getElem? hx
    cases hre : x.readyState with
    | connecting =>
      have hun := (htr.connecting hso hre).1
      rw [hse] at hun
      cases hun
    | opened => exact absurd (hfa.readyState hre) (hop a y (abortCurrent_socket hcu) hy)
    | closing => simp [Attempt.live, hre]
    | closed => simp [Attempt.live, hre]
  · exact hdo

theorem Tracked.start (hk : k.Tracked) (hse : ∀ (a : AttemptId) (x : Attempt),
      k.attempts[a]? = some x → x.hasSocket = true → x.settled = true)
    (hcl : ∀ (a : AttemptId) (x : Attempt), k.attempts[a]? = some x → x.hasSocket = true →
      x.closeCalled = true ∨ x.readyState = .closed)
    (reconnecting synchronous : Bool) (reports : Nat) :
    (k.start reconnecting synchronous reports).Tracked := by
  refine ⟨hk.toSeated.append (Nat.le_succ _) rfl ⟨rfl, rfl, rfl, rfl⟩ rfl
    (fun _ => Nat.lt_succ_self _), ?_⟩
  intro b x hx
  rcases getElem?_append_singleton_cases hx with hx | ⟨rfl, rfl⟩
  · have hlt : x.generation < k.generation + 1 := Nat.lt_succ_of_le (hk.le b x hx)
    exact (hk.tracked b x hx).retire hlt (hse b x hx) (hcl b x hx)
  · exact ⟨(fun h => nomatch h), (fun h => nomatch h), (fun h => nomatch h), (fun h => nomatch h),
      (fun h => nomatch h), fun _ _ _ _ => rfl⟩

theorem Tracked.cancel (hk : k.Tracked) (hse : ∀ (a : AttemptId) (x : Attempt),
      k.attempts[a]? = some x → x.hasSocket = true → x.settled = true)
    (hab : ∀ (a : AttemptId) (x : Attempt), k.attempts[a]? = some x → k.controller = some a →
      x.aborted.isSome = true) (reports : Nat) : (k.cancel reports).Tracked := by
  refine ⟨hk.toSeated.append (Nat.le_refl _) rfl ⟨rfl, rfl, rfl, rfl⟩ rfl
    (fun h => nomatch h), ?_⟩
  intro b x hx
  rcases getElem?_append_singleton_cases hx with hx | ⟨rfl, rfl⟩
  · have htr := hk.tracked b x hx
    refine { htr with unsettled := ?_, waiting := ?_ }
    · intro hsoc hun
      rw [hse b x hx hsoc] at hun
      cases hun
    · intro hba hop hno hcu
      have hso := hab b x hx (htr.waiting hba hop hno hcu)
      rw [hno] at hso
      cases hso
  · exact ⟨(fun h => nomatch h), (fun h => nomatch h), (fun h => nomatch h), (fun h => nomatch h),
      (fun h => nomatch h), (fun _ h => nomatch h)⟩

theorem Tracked.shut (hk : k.Tracked) : k.shut.Tracked := by
  unfold Sockets.shut
  split
  · exact hk.abortCurrent
  · next a h =>
    obtain ⟨x, hx, hso⟩ := hk.socket_abortCurrent h
    exact hk.abortCurrent.close hx hso

theorem shut_socket (h : k.shut.socket = some a) : k.socket = some a := by
  unfold shut at h
  split at h
  · exact abortCurrent_socket h
  · unfold Sockets.close at h
    dsimp only at h
    split at h
    · cases h
    · exact abortCurrent_socket h

theorem Tracked.disconnect (hk : k.Tracked) (hre : k.AtRest) : k.disconnect.Tracked := by
  refine ⟨hk.toSeated.disconnect, ?_⟩
  rw [disconnect_eq hk.toSeated, ← shut_generation]
  intro b x hx
  have htr := hk.shut.tracked b x hx
  obtain ⟨y, hy, hag, hfa, hli⟩ := shut_getElem? hx
  apply htr.retire (Nat.lt_succ_of_le (hk.shut.le b x hx))
  · intro hso
    exact hfa.settled (hk.settled_of_atRest hre hy (hag.hasSocket ▸ hso))
  · intro hso
    rcases htr.replaced hso with ⟨hcu, -⟩ | hdo
    · exact htr.closed_of_not_live (hli (shut_socket hcu))
    · exact hdo

end Sockets

def ClientEvent.socket : ClientEvent → Option AttemptId
  | .opened a | .message a _ | .errored a | .closed a _ => some a
  | _ => none

namespace Client

variable {s t u : Client} {wire : Wire} {event : ClientEvent} {a : AttemptId} {x : Attempt}

def restoring (s : Client) : Bool := s.attempts.any (fun x => x.opened && !x.settled)

/-- What the client was doing is superseded only when no restore is running and, for a new attempt,
the current socket is not open. -/
def orderly (s : Client) (label : Wire × ClientEvent) : Bool :=
  match label.2 with
  | .disconnect _ => !s.restoring
  | event => !s.supersedes event || (!s.restoring && !s.socketIsOpen)

theorem atRest_of_restoring (h : s.restoring = false) : s.sockets.AtRest := by
  intro a x hx hop
  have hmem : x ∈ s.attempts := List.mem_of_getElem? hx
  rw [restoring, List.any_eq_false] at h
  have hnot := h x hmem
  simpa [hop] using hnot

theorem notOpen_of_socketIsOpen (h : s.socketIsOpen = false) : s.sockets.NotOpen := by
  intro a x hso hx hre
  have hso : s.socket = some a := hso
  have hx : s.attempts[a]? = some x := hx
  rw [socketIsOpen, hso] at h
  simp [hx, hre] at h

theorem tracked_initial (options : ClientOptions) :
    ({ options := options } : Client).sockets.Tracked :=
  ⟨seated_initial options, fun _ _ h => nomatch h⟩

theorem tracked_step (hs : s.sockets.Tracked) (hok : s.orderly (wire, event) = true)
    (h : step s (wire, event) = some t) : t.sockets.Tracked := by
  by_cases hdi : ∃ code, event = .disconnect code
  · obtain ⟨code, rfl⟩ := hdi
    have hre : s.restoring = false := by simpa [orderly] using hok
    cases h
    rw [sockets_disconnect]
    exact hs.disconnect (atRest_of_restoring hre)
  rcases changes_step h with hmo | ⟨hst, hsu⟩
  · exact hs.moves hmo
  have hco : s.restoring = false ∧ s.socketIsOpen = false := by
    cases event with
    | disconnect code => exact absurd ⟨code, rfl⟩ hdi
    | _ => simpa [orderly, hst] using hok
  have hre := atRest_of_restoring hco.1
  have hop := notOpen_of_socketIsOpen hco.2
  generalize t.sockets = k at hsu
  cases hsu with
  | started reconnecting synchronous reports =>
    exact hs.abortCurrent.start (fun a x hx => hs.settled_of_atRest hre hx)
      (fun a x hx => hs.closed_of_notOpen hre hop hx) reconnecting synchronous reports
  | cancelled reports =>
    apply hs.abortCurrent.cancel (fun a x hx => hs.settled_of_atRest hre hx)
    intro a x hx hcon
    obtain ⟨y, -, -, hab⟩ := Sockets.abortCurrent_getElem? hx
    rw [Sockets.abortCurrent_controller] at hcon
    exact hab hcon
  | disconnected => exact hs.disconnect hre

/-! What an event of a superseded socket does. -/

/-- Nothing has changed but the flags of one socket. -/
def Touches (s t : Client) (a : AttemptId) (x : Attempt) : Prop :=
  ∃ opened readyState closeCalled closeDelivered abortListener,
    t = { s with attempts := s.attempts.set a { x with
      opened := opened
      readyState := readyState
      closeCalled := closeCalled
      closeDelivered := closeDelivered
      abortListener := abortListener } }

theorem updateAttempt_eq (hx : s.attempts[a]? = some x) (f : Attempt → Attempt) :
    s.updateAttempt a f = { s with attempts := s.attempts.set a (f x) } := by
  rw [updateAttempt, List.modify_eq_set_getElem?, hx]
  rfl

theorem onclose_superseded (hx : s.attempts[a]? = some x) (hse : x.settled = true)
    (hst : x.generation ≠ s.generation) (code : Nat) :
    s.onclose a code = { s with attempts := s.attempts.set a { x with
      readyState := .closed, closeDelivered := true, abortListener := false } } := by
  unfold onclose
  rw [hx]
  dsimp only
  rw [if_pos hse, updateAttempt_eq hx, handleClose]
  exact if_pos hst

/-- A message that leaves the client as it is: a reply to a command that is not pending, or an
advice that it has. -/
def Message.isInert (s : Client) : Message → Bool
  | .serviceRestart reconnect => reconnect.all (fun advice => s.serverReconnectAdvice == some advice)
  | .reply c | .error c => c ∉ s.pending
  | .notText | .malformed | .invalid | .event _ => false

def isInert (s : Client) : ClientEvent → Bool
  | .message _ message => message.isInert s
  | _ => true

theorem touches_self (hx : s.attempts[a]? = some x) : Touches s s a x := by
  refine ⟨x.opened, x.readyState, x.closeCalled, x.closeDelivered, x.abortListener, ?_⟩
  have hset := updateAttempt_eq hx id
  rw [updateAttempt, List.modify_id] at hset
  exact hset

theorem closeSocket_superseded (hx : s.attempts[a]? = some x) (hse : x.settled = true)
    (hst : x.generation ≠ s.generation) (code : Nat) : Touches s (s.closeSocket a code) a x := by
  unfold closeSocket
  rw [hx]
  dsimp only
  split
  · exact touches_self hx
  rw [updateAttempt_eq hx]
  split
  · have hca : (s.attempts.set a { x with closeCalled := true, readyState := .closing })[a]? =
        some { x with closeCalled := true, readyState := .closing } :=
      List.getElem?_set_self (List.getElem?_eq_some_iff.mp hx).1
    have hcl := onclose_superseded (s := { s with
      attempts := s.attempts.set a { x with closeCalled := true, readyState := .closing } })
      hca hse hst code
    refine ⟨x.opened, .closed, true, true, false, ?_⟩
    rw [hcl, List.set_set]
  · exact ⟨x.opened, .closing, true, x.closeDelivered, x.abortListener, rfl⟩

/-- An event of a socket that is settled and of an earlier generation changes the flags of that
socket and nothing else. -/
theorem touches_socketStep (hx : s.attempts[a]? = some x) (hse : x.settled = true)
    (hst : x.generation ≠ s.generation)
    (hme : ∀ message, event ≠ .message a message) (hev : event.socket = some a)
    (h : s.socketStep wire a x event = some t) : Touches s t a x := by
  unfold socketStep at h
  split at h
  · split at h
    · cases h
    rw [if_pos (.inr hst)] at h
    cases h
    have hop : (s.attempts.set a { x with opened := true, readyState := .opened })[a]? =
        some { x with opened := true, readyState := .opened } :=
      List.getElem?_set_self (List.getElem?_eq_some_iff.mp hx).1
    rw [updateAttempt_eq hx]
    obtain ⟨opened, readyState, closeCalled, closeDelivered, abortListener, hcl⟩ :=
      closeSocket_superseded (s := { s with
        attempts := s.attempts.set a { x with opened := true, readyState := .opened } })
        hop hse hst normalClosure
    refine ⟨opened, readyState, closeCalled, closeDelivered, abortListener, ?_⟩
    rw [hcl, List.set_set]
  · next b message =>
    cases hev
    exact absurd rfl (hme message)
  · split at h
    · cases h
    cases h
    rw [updateAttempt_eq hx]
    exact ⟨x.opened, .closed, x.closeCalled, x.closeDelivered, x.abortListener, rfl⟩
  · split at h
    · cases h
    cases h
    rw [onclose_superseded hx hse hst]
    exact ⟨x.opened, .closed, x.closeCalled, true, false, rfl⟩
  · cases h

theorem socketStep_of_step (hev : event.socket = some a) (hx : s.attempts[a]? = some x)
    (h : step s (wire, event) = some t) : s.socketStep wire a x event = some t := by
  cases event with
  | opened b | message b _ | errored b | closed b _ =>
    cases hev
    obtain ⟨y, hy, h⟩ := Option.bind_eq_some_iff.mp h
    rw [hx] at hy
    cases hy
    exact h
  | _ => cases hev

theorem hasSocket_of_socketStep (hme : ∀ message, event ≠ .message a message)
    (hev : event.socket = some a) (h : s.socketStep wire a x event = some t) :
    x.hasSocket = true := by
  by_contra hba
  rw [Bool.not_eq_true] at hba
  cases event with
  | opened b | errored b | closed b _ => simp [socketStep, hba] at h
  | message b message =>
    cases hev
    exact hme message rfl
  | _ => cases hev

theorem invokeListeners_emitted (route : Route) :
    ∃ heard, (s.invokeListeners route).emitted = s.emitted ++ heard := by
  unfold invokeListeners
  split
  · exact ⟨[], (List.append_nil _).symm⟩
  · exact ⟨_, rfl⟩

theorem Touches.frame (h : Touches s t a x) : t.emitted = s.emitted ∧ t.pending = s.pending ∧
    t.serverReconnectAdvice = s.serverReconnectAdvice := by
  obtain ⟨_, _, _, _, _, rfl⟩ := h
  exact ⟨rfl, rfl, rfl⟩

theorem emit_emitted (event : Emitted) : (s.emit event).emitted = s.emitted ++ [event] := rfl

theorem touches_handleMessage (hx : s.attempts[a]? = some x) (message : Message) :
    Touches s (s.handleMessage message) a x ↔ message.isInert s = true := by
  have her {c : CommandId} (hc : c ∈ s.pending) : s.pending.erase c ≠ s.pending := by
    intro he
    have hl := List.length_erase_of_mem hc
    have := List.length_pos_of_mem hc
    rw [he] at hl
    omega
  cases message with
  | notText | malformed | invalid =>
    refine iff_of_false (fun h => ?_) (by simp [Message.isInert])
    exact absurd h.frame.1 (by simp [handleMessage, emit_emitted])
  | event route =>
    refine iff_of_false (fun h => ?_) (by simp [Message.isInert])
    obtain ⟨heard, hhe⟩ := invokeListeners_emitted (s := s.emit (.event route)) route
    have hne := hhe.symm.trans h.frame.1
    simp [emit_emitted] at hne
  | serviceRestart reconnect =>
    cases reconnect with
    | none => exact iff_of_true (touches_self hx) rfl
    | some advice =>
      simp only [Message.isInert, Option.all_some, beq_iff_eq]
      constructor
      · exact fun h => h.frame.2.2.symm
      · intro h
        have hsa : s.handleMessage (.serviceRestart (some advice)) = s := by
          simp only [handleMessage, ← h]
        rw [hsa]
        exact touches_self hx
  | reply c | error c =>
    simp only [Message.isInert, handleMessage, decide_eq_true_eq]
    split_ifs with hc
    · exact iff_of_false (fun h => her hc h.frame.2.1) (by simp [hc])
    · exact iff_of_true (touches_self hx) hc

/-- In every run that is orderly, an event of a socket of an earlier generation changes nothing
but the flags of that socket, unless it is a message that is not inert; and every socket that is
not the current one has been closed by the client or has closed. -/
theorem superseded_sockets_inert [listeners : Listeners] (hquiet : listeners.Quiet)
    {options : ClientOptions} {labels : List (Wire × ClientEvent)}
    (hok : step.Along (fun s label => s.orderly label = true) { options := options } labels)
    (hrun : step.run { options := options } labels = some t) :
    (∀ wire event a x u, event.socket = some a → t.attempts[a]? = some x →
      x.generation ≠ t.generation → step t (wire, event) = some u →
      (Touches t u a x ↔ t.isInert event = true)) ∧
    ∀ a x, t.attempts[a]? = some x → x.hasSocket = true → t.socket ≠ some a →
      x.closeCalled = true ∨ x.readyState = .closed := by
  obtain rfl := hquiet.eq
  have htr : t.sockets.Tracked := StepFn.run_induct_along
    (fun _ _ _ hs hok h => tracked_step hs hok h) (tracked_initial options) hok hrun
  constructor
  · intro wire event a x u hev hx hst h
    have hste := socketStep_of_step hev hx h
    by_cases hme : ∃ message, event = .message a message
    · obtain ⟨message, rfl⟩ := hme
      simp only [socketStep, Option.ite_none_left_eq_some] at hste
      cases hste.2
      exact touches_handleMessage hx message
    have hme : ∀ message, event ≠ .message a message := fun message he => hme ⟨message, he⟩
    have hin : t.isInert event = true := by
      cases event with
      | message b message =>
        cases hev
        exact absurd rfl (hme message)
      | _ => rfl
    have hso := hasSocket_of_socketStep hme hev hste
    have hse : x.settled = true := by
      by_contra hun
      exact hst ((htr.tracked a x hx).unsettled hso (by simpa using hun)).1
    exact iff_of_true (touches_socketStep hx hse hst hme hev hste) hin
  · intro a x hx hso hnot
    rcases (htr.tracked a x hx).replaced hso with ⟨hcu, -⟩ | hdo
    · exact absurd hcu hnot
    · exact hdo

/-- The client disconnects, and the answer to its last command is late. -/
def abandoned : List (Wire × ClientEvent) :=
  [.connect false, .urlResolved 0, .opened 0, .restoreSettled 0, .attemptCaught 0,
    .attemptFinished 0, .publish (utf16 "topics/a") false false, .disconnect 1000,
    .message 0 (.reply 0)].map (Prod.mk {})

theorem superseded_sockets_inert_abandoned :
    ∃ t x u v, step.run { options := {} } abandoned = some t ∧ t.attempts[0]? = some x ∧
      x.generation ≠ t.generation ∧ step t ({}, .closed 0 1006) = some u ∧ Touches t u 0 x ∧
      step t ({}, .message 0 (.error 0)) = some v ∧ Touches t v 0 x := by
  have hok : step.Along (fun s label => s.orderly label = true) { options := {} } abandoned := by
    decide +kernel
  have hre : ∃ t, step.run { options := {} } abandoned = some t ∧ ∃ x, t.attempts[0]? = some x ∧
      x.generation ≠ t.generation ∧ ∃ u, step t ({}, .closed 0 1006) = some u ∧
        ∃ v, step t ({}, .message 0 (.error 0)) = some v ∧
          t.isInert (.message 0 (.error 0)) = true := by
    decide +kernel
  obtain ⟨t, hrun, x, hx, hst, u, hu, v, hv, hine⟩ := hre
  have hin := (superseded_sockets_inert (fun _ _ => rfl) hok hrun).1
  exact ⟨t, x, u, v, hrun, hx, hst, hu,
    (hin {} (.closed 0 1006) 0 x u rfl hx hst hu).mpr rfl, hv,
    (hin {} (.message 0 (.error 0)) 0 x v rfl hx hst hv).mpr hine⟩

/-- `connect` is called while a reconnect restores its subscription, and the socket of the
reconnect goes on. -/
def overtaken : List (Wire × ClientEvent) :=
  [.connect false, .urlResolved 0, .opened 0, .restoreSettled 0, .attemptCaught 0,
    .attemptFinished 0, .subscribe (utf16 "topics/a") false, .message 0 (.reply 0),
    .establishContinued 0, .subscribeSettled 0, .closed 0 1006, .reconnectTimer, .urlResolved 1,
    .opened 1, .connect false, .urlResolved 2].map (Prod.mk {})

theorem superseded_socket_heard :
    ∃ t x u, step.run { options := {} } overtaken = some t ∧ t.attempts[1]? = some x ∧
      x.hasSocket = true ∧ t.socket ≠ some 1 ∧ x.generation ≠ t.generation ∧
      x.closeCalled = false ∧ x.readyState = .opened ∧
      step t ({}, .message 1 (.event (utf16 "topics/a"))) = some u ∧
      u.emitted = t.emitted ++ [.event (utf16 "topics/a"), .listener 0] := by
  have hre : ∃ t, step.run { options := {} } overtaken = some t ∧ ∃ x, t.attempts[1]? = some x ∧
      x.hasSocket = true ∧ t.socket ≠ some 1 ∧ x.generation ≠ t.generation ∧
      x.closeCalled = false ∧ x.readyState = .opened ∧
      ∃ u, step t ({}, .message 1 (.event (utf16 "topics/a"))) = some u ∧
        u.emitted = t.emitted ++ [.event (utf16 "topics/a"), .listener 0] := by
    decide +kernel
  obtain ⟨t, hrun, x, hx, hso, hnot, hst, hca, hrea, u, hu, hem⟩ := hre
  exact ⟨t, x, u, hrun, hx, hso, hnot, hst, hca, hrea, hu, hem⟩

end Client

end Realtime.Sdk
