import Realtime.Diagnostics.Levels
import Realtime.Diagnostics.Repeats

/-! One run of `ReconcileActiveAsync` with nothing between its steps makes the overrides of
an instance agree with Redis, and a second run changes nothing. The outcome of a run is a
function of Redis and of the controller; the loop computes it, and the results are about it. -/

namespace Realtime.Diagnostics

open RuntimeLogLevelController List Option

namespace RedisStore

variable {r : RedisStore} {id : OverrideId} {message : DiagnosticsCoordinationMessage}

/-- An override that is in the index, has not expired there and has an active key. -/
def Stores (r : RedisStore) (id : OverrideId) (message : DiagnosticsCoordinationMessage) : Prop :=
  ∃ score, (id, score) ∈ r.index ∧ r.now < score ∧ r.getActive id = some message

def listed (r : RedisStore) : List OverrideId :=
  (r.index.filter (fun member => decide (r.now ≤ member.2))).map Prod.fst

def fetch (r : RedisStore) (ids : List OverrideId) :
    List (OverrideId × DiagnosticsCoordinationMessage) :=
  ids.filterMap (fun id => (r.getActive id).map (fun message => (id, message)))

def prune (r : RedisStore) : List OverrideId → RedisStore
  | [] => r
  | id :: ids =>
    match r.getActive id with
    | some _ => r.prune ids
    | none => (r.removeMember id).prune ids

def found (r : RedisStore) : List (OverrideId × DiagnosticsCoordinationMessage) :=
  (r.removeRangeByScore r.now).fetch (r.removeRangeByScore r.now).listed

def reconciled (r : RedisStore) : RedisStore :=
  (r.removeRangeByScore r.now).prune (r.removeRangeByScore r.now).listed

theorem Stores.unique {message' : DiagnosticsCoordinationMessage} (h : r.Stores id message)
    (h' : r.Stores id message') : message = message' := by
  obtain ⟨_, _, _, hm⟩ := h
  obtain ⟨_, _, _, hm'⟩ := h'
  exact some.inj (hm.symm.trans hm')

theorem mem_found : (id, message) ∈ r.found ↔ r.Stores id message := by
  have hsa (id : OverrideId) : (r.removeRangeByScore r.now).getActive id = r.getActive id := rfl
  simp only [found, fetch, listed, mem_filterMap, List.mem_map, hsa]
  constructor
  · rintro ⟨_, ⟨member, hme, rfl⟩, hm⟩
    obtain ⟨hme, hsc⟩ := mem_filter.mp (mem_of_mem_filter hme)
    obtain ⟨_, hm, heq⟩ := map_eq_some_iff.mp hm
    cases heq
    exact ⟨member.2, hme, of_decide_eq_true hsc, hm⟩
  · rintro ⟨score, hme, hsc, hm⟩
    refine ⟨id, ⟨(id, score), ?_, rfl⟩, by rw [hm]; rfl⟩
    refine mem_filter.mpr ⟨mem_filter.mpr ⟨hme, decide_eq_true hsc⟩, ?_⟩
    exact decide_eq_true hsc.le

theorem prune_eq (ids : List OverrideId) : r.prune ids = { r with
    index := r.index.filter (fun member =>
      decide (member.1 ∈ ids → (r.getActive member.1).isSome)) } := by
  induction ids generalizing r with
  | nil => simp [prune]
  | cons id ids ih =>
    have hsa (other : OverrideId) : (r.removeMember id).getActive other = r.getActive other := rfl
    unfold prune
    split
    · next message hm =>
      rw [ih]
      congr 2
      funext member
      by_cases hid : member.1 = id <;> simp [hid, hm]
    · next hm =>
      simp only [ih, hsa]
      simp only [removeMember, List.filter_filter]
      congr 2
      funext member
      by_cases hid : member.1 = id <;> simp [hid, hm]

theorem prune_of_active {ids : List OverrideId} (h : ∀ id ∈ ids, (r.getActive id).isSome) :
    r.prune ids = r := by
  induction ids with
  | nil => rfl
  | cons id ids ih =>
    unfold prune
    split
    · exact ih (fun other hot => h other (mem_cons_of_mem _ hot))
    · next hno =>
      have hso := h id mem_cons_self
      rw [hno] at hso
      cases hso

theorem mem_reconciled :
    member ∈ r.reconciled.index ↔
      member ∈ r.index ∧ r.now < member.2 ∧ (r.getActive member.1).isSome := by
  have hsa : (r.removeRangeByScore r.now).getActive member.1 = r.getActive member.1 := rfl
  have htr : member ∈ (r.removeRangeByScore r.now).index ↔
      member ∈ r.index ∧ r.now < member.2 := by
    simp [removeRangeByScore]
  rw [reconciled, prune_eq, mem_filter, decide_eq_true_eq, hsa, htr]
  constructor
  · rintro ⟨⟨hme, hsc⟩, hkey⟩
    refine ⟨hme, hsc, hkey (List.mem_map.mpr ⟨member, ?_, rfl⟩)⟩
    exact mem_filter.mpr ⟨htr.mpr ⟨hme, hsc⟩, decide_eq_true hsc.le⟩
  · rintro ⟨hme, hsc, hkey⟩
    exact ⟨⟨hme, hsc⟩, fun _ => hkey⟩

theorem reconciled_now : r.reconciled.now = r.now := by rw [reconciled, prune_eq]; rfl

theorem reconciled_getActive (id : OverrideId) : r.reconciled.getActive id = r.getActive id := by
  rw [reconciled, prune_eq]
  rfl

theorem reconciled_stores : r.reconciled.Stores id message ↔ r.Stores id message := by
  simp only [Stores, mem_reconciled, reconciled_now, reconciled_getActive]
  constructor
  · rintro ⟨score, ⟨hme, -, -⟩, hsc, hm⟩
    exact ⟨score, hme, hsc, hm⟩
  · rintro ⟨score, hme, hsc, hm⟩
    exact ⟨score, ⟨hme, hsc, by rw [hm]; rfl⟩, hsc, hm⟩

theorem reconciled_reconciled : r.reconciled.reconciled = r.reconciled := by
  have htr : r.reconciled.removeRangeByScore r.reconciled.now = r.reconciled := by
    have hin : r.reconciled.index.filter
        (fun member => decide (r.reconciled.now < member.2)) = r.reconciled.index := by
      rw [filter_eq_self]
      intro member hme
      rw [reconciled_now]
      exact decide_eq_true (mem_reconciled.mp hme).2.1
    unfold removeRangeByScore
    rw [hin]
  rw [reconciled, htr]
  refine prune_of_active ?_
  intro id hid
  obtain ⟨member, hme, rfl⟩ := List.mem_map.mp hid
  rw [reconciled_getActive]
  exact (mem_reconciled.mp (mem_of_mem_filter hme)).2.2

end RedisStore

section

variable [DiagnosticsRuntime] (s : Settings)

namespace RuntimeLogLevelController

def stale (c : RuntimeLogLevelController)
    (found : List (OverrideId × DiagnosticsCoordinationMessage)) : List OverrideId :=
  (c.overrides.filter (fun item => item.scope == utf16 "all" &&
    !found.any (fun member => member.1 == item.id))).map (·.id)

def revertAll (now : Nat) (c : RuntimeLogLevelController) (ids : List OverrideId) :
    RuntimeLogLevelController :=
  ids.foldl (fun c id => (c.revert s.options id (utf16 "system")
    (utf16 "coordination reconciliation") now).2) c

def applyAll (now : Nat) (c : RuntimeLogLevelController)
    (messages : List DiagnosticsCoordinationMessage) : RuntimeLogLevelController :=
  messages.foldl (fun c message => applyMessage s c message now) c

def reconciled (now : Nat) (found : List (OverrideId × DiagnosticsCoordinationMessage))
    (c : RuntimeLogLevelController) : RuntimeLogLevelController :=
  let c := c.removeExpired s.options now
  applyAll s now (revertAll s now c (c.stale found)) (found.map Prod.snd)

end RuntimeLogLevelController

def LoopStep (x y : RedisStore × Instance) : Prop := stepLoop s x.1 x.2 .ok = some y

abbrev Reconciles := Relation.ReflTransGen (LoopStep s)

variable {s}

theorem reconciles_fetching (r : RedisStore) (i : Instance) (ids : List OverrideId)
    (found : List (OverrideId × DiagnosticsCoordinationMessage)) :
    Reconciles s (r, { i with loop := .fetching ids found })
      (r.prune ids, { i with loop := .fetching [] (found ++ r.fetch ids) }) := by
  induction ids generalizing r found with
  | nil =>
    rw [show found ++ r.fetch [] = found from append_nil found]
    exact .refl
  | cons id ids ih =>
    cases hm : r.getActive id with
    | some message =>
      have hst : LoopStep s (r, { i with loop := .fetching (id :: ids) found })
          (r, { i with loop := .fetching ids (found ++ [(id, message)]) }) := by
        simp [LoopStep, stepLoop, hm]
      have hpr : r.prune (id :: ids) = r.prune ids := by simp [RedisStore.prune, hm]
      have hfe : found ++ r.fetch (id :: ids) = found ++ [(id, message)] ++ r.fetch ids := by
        simp [RedisStore.fetch, hm]
      rw [hpr, hfe]
      exact .head hst (ih r (found ++ [(id, message)]))
    | none =>
      have hst : LoopStep s (r, { i with loop := .fetching (id :: ids) found })
          (r, { i with loop := .dropping id ids found }) := by
        simp [LoopStep, stepLoop, hm]
      have hdr : LoopStep s (r, { i with loop := .dropping id ids found })
          (r.removeMember id, { i with loop := .fetching ids found }) := rfl
      have hpr : r.prune (id :: ids) = (r.removeMember id).prune ids := by
        simp [RedisStore.prune, hm]
      have hfe : r.fetch (id :: ids) = (r.removeMember id).fetch ids := by
        have hsa (other : OverrideId) :
            (r.removeMember id).getActive other = r.getActive other := rfl
        simp [RedisStore.fetch, hm, hsa]
      rw [hpr, hfe]
      exact .head hst (.head hdr (ih (r.removeMember id) found))

theorem reconciles_reverting (r : RedisStore) (i : Instance) (ids : List OverrideId)
    (messages : List DiagnosticsCoordinationMessage) :
    Reconciles s (r, { i with loop := .reverting ids messages })
      (r, { i with
        controller := i.controller.revertAll s r.now ids
        loop := .reapplying messages }) := by
  induction ids generalizing i with
  | nil => exact .single rfl
  | cons id ids ih =>
    have hst : LoopStep s (r, { i with loop := .reverting (id :: ids) messages })
        (r, { i with
          controller := (i.controller.revert s.options id (utf16 "system")
            (utf16 "coordination reconciliation") r.now).2
          loop := .reverting ids messages }) := rfl
    exact .head hst (ih { i with
      controller := (i.controller.revert s.options id (utf16 "system")
        (utf16 "coordination reconciliation") r.now).2 })

theorem reconciles_reapplying (r : RedisStore) (i : Instance)
    (messages : List DiagnosticsCoordinationMessage) :
    Reconciles s (r, { i with loop := .reapplying messages })
      (r, { i with controller := i.controller.applyAll s r.now messages, loop := .idle }) := by
  induction messages generalizing i with
  | nil => exact .single rfl
  | cons message messages ih =>
    have hst : LoopStep s (r, { i with loop := .reapplying (message :: messages) })
        (r, { i with
          controller := applyMessage s i.controller message r.now
          loop := .reapplying messages }) := rfl
    exact .head hst (ih { i with controller := applyMessage s i.controller message r.now })

theorem reconciles (r : RedisStore) (i : Instance) (work : List CoordinationWork) :
    Reconciles s (r, { i with work := .reconcile :: work, loop := .idle })
      (r.reconciled, { i with
        controller := i.controller.reconciled s r.now r.found, work, loop := .idle }) := by
  let t := r.removeRangeByScore r.now
  have hnow : r.reconciled.now = r.now := RedisStore.reconciled_now
  have hst : LoopStep s (r, { i with work := .reconcile :: work, loop := .idle })
      (r, { i with work, loop := .trimming r.now }) := rfl
  have htr : LoopStep s (r, { i with work, loop := .trimming r.now })
      (t, { i with work, loop := .listing r.now }) := rfl
  have hli : LoopStep s (t, { i with work, loop := .listing r.now })
      (t, { i with work, loop := .fetching t.listed [] }) := rfl
  have hfe : Reconciles s (t, { i with work, loop := .fetching t.listed [] })
      (r.reconciled, { i with work, loop := .fetching [] r.found }) :=
    reconciles_fetching t { i with work } t.listed []
  have hco : LoopStep s (r.reconciled, { i with work, loop := .fetching [] r.found })
      (r.reconciled, { i with
        work
        controller := i.controller.removeExpired s.options r.now
        loop := .reverting ((i.controller.removeExpired s.options r.now).stale r.found)
          (r.found.map Prod.snd) }) := by
    rw [← hnow]
    rfl
  have hre := reconciles_reverting (s := s) r.reconciled
    { i with work, controller := i.controller.removeExpired s.options r.now }
    ((i.controller.removeExpired s.options r.now).stale r.found) (r.found.map Prod.snd)
  have hap := reconciles_reapplying (s := s) r.reconciled
    { i with
      work
      controller := (i.controller.removeExpired s.options r.now).revertAll s r.now
        ((i.controller.removeExpired s.options r.now).stale r.found) } (r.found.map Prod.snd)
  rw [hnow] at hre hap
  exact .head hst (.head htr (.head hli (hfe.trans (.head hco
    (hre.trans hap)))))

def DiagnosticsCoordinationMessage.override (message : DiagnosticsCoordinationMessage) :
    Option ActiveLogLevelOverride :=
  message.request.map (fun request => newOverride request message.id message.timestamp)

def ActiveLogLevelOverride.summary (o : ActiveLogLevelOverride) :
    OverrideId × Text × LogLevel × Nat :=
  (o.id, o.category, o.level, o.expiresAt)

structure ValidApply (s : Settings) (now : Nat) (id : OverrideId)
    (message : DiagnosticsCoordinationMessage) : Prop where
  action : message.action = .apply
  id : message.id = id
  valid : isValidMessage message now = true
  request : ∃ request, message.request = some request ∧ checkRequest s.options request = .ok ()

variable {c : RuntimeLogLevelController} {r : RedisStore} {now : Nat} {id : OverrideId}
  {message : DiagnosticsCoordinationMessage} {o : ActiveLogLevelOverride}

theorem ValidApply.override (h : ValidApply s now id message) :
    ∃ request, message.request = some request ∧ checkRequest s.options request = .ok () ∧
      request.scope = utf16 "all" ∧
      message.override = some (newOverride request id message.timestamp) := by
  obtain ⟨request, hre, hch⟩ := h.request
  have hvalid := h.valid
  simp only [isValidMessage, h.action, hre, Bool.and_eq_true, Bool.or_eq_true,
    beq_iff_eq, reduceCtorEq, false_or] at hvalid
  refine ⟨request, hre, hch, hvalid.2.1, ?_⟩
  rw [DiagnosticsCoordinationMessage.override, hre, h.id]
  rfl

theorem applyMessage_eq (h : ValidApply s now id message) (ho : message.override = some o)
    (hliv : ∀ o' ∈ c.overrides, now < o'.expiresAt) :
    (applyMessage s c message now = c ∧
      ((∃ o' ∈ c.overrides, o'.id = id) ∨ o.expiresAt ≤ now ∨
        ∃ o' ∈ c.overrides, o'.category = o.category ∧ o'.scope = o.scope)) ∨
    (applyMessage s c message now).overrides = c.overrides ++ [o] ∧
      (∀ o' ∈ c.overrides, o'.id ≠ id) ∧ now < o.expiresAt := by
  obtain ⟨request, hre, hch, hsc, hov⟩ := h.override
  obtain rfl := some.inj (hov.symm.trans ho)
  have hsw : c.removeExpired s.options now = c := removeExpired_of_live hliv
  have hva : c.tryValidateAt s.options request now now =
      (c.checkActive s.options request now, c) := by
    simp only [tryValidateAt, hch, hsw]
  simp only [applyMessage, h.valid, h.action, hre, RuntimeLogLevelController.contains, hsw,
    tryValidate, hva, if_true, h.id]
  split
  · next hany =>
    obtain ⟨o', ho', hid⟩ := List.any_eq_true.mp hany
    exact .inl ⟨rfl, .inl ⟨o', ho', eq_of_beq hid⟩⟩
  next hno =>
  have hot : ∀ o' ∈ c.overrides, o'.id ≠ id := by simpa using hno
  have hli : ¬ (request.scope = utf16 "instance" ∧ s.options.maximumDetailItems ≤
      c.overrides.countP (fun active => active.scope == utf16 "instance")) := by
    rintro ⟨hi, -⟩
    rw [hsc] at hi
    exact absurd hi (by decide)
  by_cases hri : c.overrides.any (fun active => active.category == trim request.category &&
      active.scope == request.scope && decide (now < active.expiresAt)) = true
  · obtain ⟨o', ho', hsa⟩ := List.any_eq_true.mp hri
    simp only [Bool.and_eq_true, beq_iff_eq] at hsa
    simp only [checkActive, if_neg hli, if_pos hri]
    exact .inl ⟨trivial, .inr (.inr ⟨o', ho', hsa.1⟩)⟩
  have hac : c.checkActive s.options request now = .ok () := by
    simp only [checkActive, if_neg hli, if_neg hri]
  rw [hac]
  dsimp only
  split
  · next hun =>
    have hfi : c.overrides.find? (fun active => active.id == id) = none := by simpa using hot
    refine .inr ⟨?_, hot, hun⟩
    simp only [tryApply, tryApplyAt, hva, hac, hfi, effectiveLevel, hsw]
    rfl
  · next hex => exact .inl ⟨rfl, .inr (.inl (Nat.le_of_not_lt hex))⟩

theorem mem_revertAll {ids : List OverrideId} (hli : ∀ o ∈ c.overrides, now < o.expiresAt) :
    o ∈ (c.revertAll s now ids).overrides ↔ o ∈ c.overrides ∧ o.id ∉ ids := by
  induction ids generalizing c with
  | nil => simp [revertAll]
  | cons id ids ih =>
    have hone (o : ActiveLogLevelOverride) : o ∈ (c.revert s.options id (utf16 "system")
        (utf16 "coordination reconciliation") now).2.overrides ↔ o ∈ c.overrides ∧ o.id ≠ id := by
      unfold revert
      split
      · next hno =>
        have hne := find?_eq_none.mp hno
        exact ⟨fun ho => ⟨ho, by simpa using hne o ho⟩, fun ho => ho.1⟩
      · have hke : (c.remove id).removeExpired s.options now = c.remove id :=
          removeExpired_of_live (fun o ho => hli o (mem_of_mem_filter ho))
        simp only [effectiveLevel, hke]
        simp [addAudit, remove]
    rw [show c.revertAll s now (id :: ids) = (c.revert s.options id (utf16 "system")
      (utf16 "coordination reconciliation") now).2.revertAll s now ids from rfl,
      ih (fun o ho => hli o ((hone o).mp ho).1), hone, mem_cons, not_or, and_assoc]

/-- The instance while it applies what it has found; `others` are its overrides that are not
for all replicas. -/
structure Settled (s : Settings) (r : RedisStore) (others : ActiveLogLevelOverride → Prop)
    (c : RuntimeLogLevelController) : Prop where
  live : ∀ o ∈ c.overrides, r.now < o.expiresAt
  stored : ∀ o ∈ c.overrides, o.scope = utf16 "all" → ∃ message, r.Stores o.id message
  agrees : ∀ o ∈ c.overrides, ∀ message o', r.Stores o.id message → message.override = some o' →
    o.summary = o'.summary ∧ o.scope = o'.scope
  others : ∀ o, o.scope ≠ utf16 "all" → (o ∈ c.overrides ↔ others o)

def Present (r : RedisStore) (c : RuntimeLogLevelController)
    (message : DiagnosticsCoordinationMessage) : Prop :=
  ∀ o, message.override = some o → r.now < o.expiresAt → ∃ o' ∈ c.overrides, o'.id = o.id

section

variable {others : ActiveLogLevelOverride → Prop}
  (hvalid : ∀ id message, r.Stores id message → ValidApply s r.now id message)
  (hdistinct : ∀ id message o id' message' o', r.Stores id message → r.Stores id' message' →
    message.override = some o → message'.override = some o' → o.category = o'.category → id = id')

include hvalid hdistinct

theorem Settled.apply (h : Settled s r others c) (hm : r.Stores id message) :
    Settled s r others (applyMessage s c message r.now) ∧
      Present r (applyMessage s c message r.now) message ∧
      ∀ o ∈ c.overrides, o ∈ (applyMessage s c message r.now).overrides := by
  obtain ⟨request, -, -, hsc, hov⟩ := (hvalid id message hm).override
  have hca := applyMessage_eq (c := c) (hvalid id message hm) hov h.live
  generalize hnew : newOverride request id message.timestamp = o at hov hca
  have hid : o.id = id := hnew ▸ rfl
  have hsc : o.scope = utf16 "all" := hnew ▸ hsc
  rcases hca with ⟨heq, hwhy⟩ | ⟨hove, hot, hli⟩
  · rw [heq]
    refine ⟨h, ?_, fun _ ho' => ho'⟩
    intro o₁ ho₁ hli
    obtain rfl := some.inj (hov.symm.trans ho₁)
    rcases hwhy with ⟨o', ho', hid'⟩ | hex | ⟨o', ho', hcat, hsc'⟩
    · exact ⟨o', ho', hid'.trans hid.symm⟩
    · omega
    · -- a rival is stored in Redis as well, so it is this override
      obtain ⟨message', hm'⟩ := h.stored o' ho' (hsc'.trans hsc)
      obtain ⟨_, -, -, -, hov'⟩ := (hvalid _ message' hm').override
      have hsa := congrArg (fun summary => summary.2.1) (h.agrees o' ho' _ _ hm' hov').1
      exact ⟨o', ho', (hdistinct _ _ _ _ _ _ hm' hm hov' hov
        (hsa.symm.trans hcat)).trans hid.symm⟩
  · refine ⟨⟨?_, ?_, ?_, ?_⟩, ?_, ?_⟩ <;> simp only [hove, mem_append,
      mem_singleton, Present]
    · rintro o' (ho' | rfl)
      · exact h.live o' ho'
      · exact hli
    · rintro o' (ho' | rfl) hall
      · exact h.stored o' ho' hall
      · exact ⟨message, hid ▸ hm⟩
    · rintro o' (ho' | rfl) message' o'' hm' hov'
      · exact h.agrees o' ho' message' o'' hm' hov'
      · obtain rfl := hm.unique (hid ▸ hm')
        obtain rfl := some.inj (hov.symm.trans hov')
        exact ⟨rfl, rfl⟩
    · intro o' hne
      rw [← h.others o' hne]
      exact ⟨fun ho' => ho'.resolve_right (fun he => hne (he ▸ hsc)), .inl⟩
    · intro o' ho' _
      obtain rfl := some.inj (hov.symm.trans ho')
      exact ⟨_, .inr rfl, rfl⟩
    · exact fun o' ho' => .inl ho'

variable {messages : List DiagnosticsCoordinationMessage}

theorem Settled.applyAll (h : Settled s r others c)
    (hm : ∀ message ∈ messages, ∃ id, r.Stores id message) :
    Settled s r others (c.applyAll s r.now messages) ∧
      (∀ message ∈ messages, Present r (c.applyAll s r.now messages) message) ∧
      ∀ o ∈ c.overrides, o ∈ (c.applyAll s r.now messages).overrides := by
  induction messages generalizing c with
  | nil => exact ⟨h, (fun _ hm => nomatch hm), fun _ ho => ho⟩
  | cons message messages ih =>
    obtain ⟨id, hid⟩ := hm message mem_cons_self
    obtain ⟨hse, hpr, hke⟩ := h.apply hvalid hdistinct hid
    obtain ⟨hlas, hre, hla⟩ :=
      ih hse (fun message hm' => hm message (mem_cons_of_mem _ hm'))
    refine ⟨hlas, ?_, fun o ho => hla o (hke o ho)⟩
    intro message' hm'
    rcases mem_cons.mp hm' with rfl | hm'
    · intro o ho hli
      obtain ⟨o', ho', hid'⟩ := hpr o ho hli
      exact ⟨o', hla o' ho', hid'⟩
    · exact hre message' hm'

omit hdistinct in
theorem Settled.applyAll_eq (h : Settled s r others c)
    (hm : ∀ message ∈ messages, ∃ id, r.Stores id message)
    (hpr : ∀ message ∈ messages, Present r c message) :
    c.applyAll s r.now messages = c := by
  induction messages with
  | nil => rfl
  | cons message messages ih =>
    obtain ⟨id, hid⟩ := hm message mem_cons_self
    have hv := hvalid id message hid
    obtain ⟨_, -, -, -, hov⟩ := hv.override
    have hsa : applyMessage s c message r.now = c := by
      rcases applyMessage_eq hv hov h.live with ⟨heq, -⟩ | ⟨-, hot, hli⟩
      · exact heq
      · obtain ⟨o', ho', hid'⟩ := hpr message mem_cons_self _ hov hli
        exact absurd hid' (hot o' ho')
    rw [RuntimeLogLevelController.applyAll, foldl_cons, hsa]
    exact ih (fun message hm' => hm message (mem_cons_of_mem _ hm'))
      (fun message hm' => hpr message (mem_cons_of_mem _ hm'))

end

omit [DiagnosticsRuntime] in
theorem mem_stale {found : List (OverrideId × DiagnosticsCoordinationMessage)} :
    id ∈ c.stale found ↔ ∃ o ∈ c.overrides, o.id = id ∧ o.scope = utf16 "all" ∧
      ∀ message, (id, message) ∉ found := by
  simp only [stale, List.mem_map, mem_filter, Bool.and_eq_true, beq_iff_eq, Bool.not_eq_true',
    List.any_eq_false, Prod.forall]
  constructor
  · rintro ⟨o, ⟨ho, hsc, hno⟩, rfl⟩
    exact ⟨o, ho, rfl, hsc, fun message hm => hno _ message hm rfl⟩
  · rintro ⟨o, ho, rfl, hsc, hno⟩
    exact ⟨o, ⟨ho, hsc, fun id message hm hid => hno message (hid ▸ hm)⟩, rfl⟩

theorem settled_revertAll (hke : (c.overrides.map (·.id)).Nodup)
    (hag : ∀ o ∈ c.overrides, ∀ message o', r.Stores o.id message →
      message.override = some o' → o.summary = o'.summary ∧ o.scope = o'.scope) :
    Settled s r (fun o => o ∈ c.overrides ∧ r.now < o.expiresAt)
      ((c.removeExpired s.options r.now).revertAll s r.now
        ((c.removeExpired s.options r.now).stale r.found)) := by
  have hids := pairwise_map.mp hke
  have hmem : ∀ {o}, o ∈ (c.removeExpired s.options r.now).overrides ↔
      o ∈ c.overrides ∧ r.now < o.expiresAt := by
    intro o
    rw [removeExpired_eq_filter hids, mem_filter, decide_eq_true_eq]
  have hli : ∀ o ∈ (c.removeExpired s.options r.now).overrides, r.now < o.expiresAt :=
    fun o ho => (hmem.mp ho).2
  refine ⟨?_, ?_, ?_, ?_⟩ <;> simp only [mem_revertAll hli, hmem, mem_stale, RedisStore.mem_found]
  · exact fun o ho => ho.1.2
  · intro o ⟨ho, hkep⟩ hsc
    by_contra hno
    exact hkep ⟨o, ho, rfl, hsc, not_exists.mp hno⟩
  · exact fun o ho => hag o ho.1.1
  · intro o hsc
    refine and_iff_left_of_imp ?_
    rintro ho ⟨other, hot, hid, hall, -⟩
    obtain rfl := inj_on_of_nodup_map hke hot.1 ho.1 hid
    exact hsc hall

end

/-- Redis has the override of `exampleRequest` for ten more seconds. -/
def exampleStored : RedisStore where
  now := 50000
  active id := if id = 0 then
    some (⟨.apply, 0, some exampleRequest, utf16 "operator", 0, none⟩, 60000) else none
  index := [(0, 60000), (1, 70000)]

theorem exampleStored_stores {id : OverrideId} {message : DiagnosticsCoordinationMessage}
    (h : exampleStored.Stores id message) :
    id = 0 ∧ message = ⟨.apply, 0, some exampleRequest, utf16 "operator", 0, none⟩ := by
  obtain ⟨score, hme, -, hm⟩ := h
  simp only [exampleStored, mem_cons, Prod.mk.injEq, not_mem_nil, or_false] at hme
  rcases hme with ⟨rfl, -⟩ | ⟨rfl, -⟩
  · exact ⟨rfl, (some.inj hm).symm⟩
  · cases hm

end Realtime.Diagnostics
