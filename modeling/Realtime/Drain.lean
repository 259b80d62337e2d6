import Realtime.Machine

/-! Registration of connections against the shutdown drain. A connection is
named by the position of its `Add` call: every call is made for a connection
that was just built, and only the owner of a connection knows its id and calls
`Remove`, after `Add` has returned. -/

namespace Realtime

open List Option

/-- `returned accepted draining`: the result, and whether it is due to the drain. -/
inductive AddPhase where
  | checking
  | inserting
  | rechecking
  | withdrawing
  | opening
  | returned (accepted draining : Bool)
  deriving DecidableEq

structure AddCall where
  /-- The drain had begun when the call started. -/
  late : Bool
  phase : AddPhase := .checking
  deriving DecidableEq

def AddCall.hasReturned (call : AddCall) : Bool :=
  match call.phase with
  | .returned _ _ => true
  | _ => false

inductive RemovePhase where
  | removing
  | decrementing
  | clamping
  | returned (removed : Bool)
  deriving DecidableEq

structure RemoveCall where
  connection : Nat
  phase : RemovePhase := .removing
  deriving DecidableEq

def RemoveCall.hasReturned (call : RemoveCall) : Bool :=
  match call.phase with
  | .returned _ => true
  | _ => false

/-- What an enumeration of the registry sees; `removed` are the connections that
`Remove` has taken out before. -/
structure Snapshot where
  values : List Nat
  removed : List Nat
  deriving DecidableEq

structure Registry where
  connections : List Nat := []
  draining : Bool := false
  activeConnections : Int := 0
  adds : List AddCall := []
  removes : List RemoveCall := []
  removed : List Nat := []
  notified : Option Snapshot := none
  closed : List Snapshot := []
  deriving DecidableEq

namespace Registry

inductive Label where
  | callAdd
  | add (c : Nat)
  | callRemove (c : Nat)
  | remove (k : Nat)
  | beginDrain
  | notifyServiceRestart
  | closeAll
  deriving DecidableEq

def snapshot (r : Registry) : Snapshot := ⟨r.connections, r.removed⟩

def setAdd (r : Registry) (c : Nat) (call : AddCall) (phase : AddPhase) : Registry :=
  { r with adds := r.adds.set c { call with phase := phase } }

def setRemove (r : Registry) (k : Nat) (call : RemoveCall) (phase : RemovePhase) : Registry :=
  { r with removes := r.removes.set k { call with phase := phase } }

def stepAdd (r : Registry) (c : Nat) (call : AddCall) : Option Registry :=
  match call.phase with
  | .checking =>
    if r.draining then some (r.setAdd c call (.returned false true))
    else some (r.setAdd c call .inserting)
  | .inserting =>
    if c ∈ r.connections then some (r.setAdd c call (.returned false false))
    else some { r.setAdd c call .rechecking with connections := r.connections ++ [c] }
  | .rechecking =>
    if r.draining then some (r.setAdd c call .withdrawing)
    else some (r.setAdd c call .opening)
  | .withdrawing =>
    some { r.setAdd c call (.returned false true) with connections := r.connections.erase c }
  | .opening =>
    some { r.setAdd c call (.returned true false) with
      activeConnections := r.activeConnections + 1 }
  | .returned _ _ => none

def stepRemove (r : Registry) (k : Nat) (call : RemoveCall) : Option Registry :=
  match call.phase with
  | .removing =>
    if call.connection ∈ r.connections then
      some { r.setRemove k call .decrementing with
        connections := r.connections.erase call.connection
        removed := call.connection :: r.removed }
    else some (r.setRemove k call (.returned false))
  | .decrementing =>
    let active := r.activeConnections - 1
    if active < 0 then some { r.setRemove k call .clamping with activeConnections := active }
    else some { r.setRemove k call (.returned true) with activeConnections := active }
  | .clamping => some { r.setRemove k call (.returned true) with activeConnections := 0 }
  | .returned _ => none

def accepted (r : Registry) (c : Nat) : Bool :=
  r.adds[c]?.any (fun call => decide (call.phase = .returned true false))

/-- `StoppingAsync` closes a second time when the first round is cancelled. -/
def step : StepFn Registry Label
  | r, .callAdd => some { r with adds := r.adds ++ [⟨r.draining, .checking⟩] }
  | r, .add c => r.adds[c]?.bind (fun call => r.stepAdd c call)
  | r, .callRemove c =>
    if r.adds[c]?.any AddCall.hasReturned then
      some { r with removes := r.removes ++ [⟨c, .removing⟩] }
    else none
  | r, .remove k => r.removes[k]?.bind (fun call => r.stepRemove k call)
  | r, .beginDrain => some { r with draining := true }
  | r, .notifyServiceRestart =>
    if r.draining ∧ r.notified.isNone then some { r with notified := some r.snapshot } else none
  | r, .closeAll =>
    if r.notified.isSome ∧ r.closed.length < 2 then
      some { r with closed := r.closed ++ [r.snapshot] }
    else none

/-- Where a connection is in each phase of its `Add`. -/
def Placed (registered removed : Prop) : AddPhase → Prop
  | .checking | .inserting | .returned false _ => ¬ registered
  | .rechecking | .withdrawing | .opening => registered
  | .returned true draining => draining = false ∧ (registered ∨ removed)

structure PhaseOk (r : Registry) (c : Nat) (call : AddCall) : Prop where
  mem : Placed (c ∈ r.connections) (c ∈ r.removed) call.phase
  late : call.late = true → r.draining = true ∧
    (call.phase = .checking ∨ ∃ draining, call.phase = .returned false draining)

def decrementing (call : RemoveCall) : Bool := decide (call.phase = .decrementing)

/-- A snapshot of the drain misses no connection that is or will be accepted,
unless it was removed before. -/
def SnapshotOk (r : Registry) (s : Snapshot) : Prop :=
  ∀ (c : Nat) (call : AddCall), r.adds[c]? = some call →
    call.phase = .opening ∨ call.phase = .returned true false → c ∈ s.values ∨ c ∈ s.removed

structure Inv (r : Registry) : Prop where
  nodup : r.connections.Nodup
  known : ∀ c ∈ r.connections, c < r.adds.length
  phases : ∀ (c : Nat) (call : AddCall), r.adds[c]? = some call → PhaseOk r c call
  removes : ∀ (k : Nat) (call : RemoveCall), r.removes[k]? = some call →
    r.adds[call.connection]?.any AddCall.hasReturned = true ∧ call.phase ≠ .clamping
  snapshots : ∀ s, s ∈ r.notified.toList ++ r.closed → r.draining = true ∧ SnapshotOk r s
  gauge : r.activeConnections =
    r.connections.countP r.accepted + r.removes.countP decrementing

theorem inv_initial : Inv {} where
  nodup := nodup_nil
  known c h := by simp at h
  phases c call h := by simp at h
  removes k call h := by simp at h
  snapshots s h := by simp at h
  gauge := rfl

theorem Inv.snapshotOk {r : Registry} (hi : r.Inv) : SnapshotOk r r.snapshot := by
  intro c call hc hph
  have hm := (hi.phases c call hc).mem
  rcases hph with hp | hp
  · rw [hp] at hm
    exact .inl hm
  · rw [hp] at hm
    exact hm.2

section Steps

variable {r r' : Registry} {c : Nat} {call : AddCall} {phase : AddPhase}

variable {k : Nat} {active : Int}

theorem accepted_setAdd_ne (hk : k ≠ c) :
    (r.setAdd c call phase).accepted k = r.accepted k := by
  simp only [accepted, setAdd, getElem?_set_ne (Ne.symm hk)]

theorem accepted_setAdd_self (hc : r.adds[c]? = some call) :
    (r.setAdd c call phase).accepted c = decide (phase = .returned true false) := by
  have hlt : c < r.adds.length := (List.getElem?_eq_some_iff.mp hc).1
  simp only [accepted, setAdd, getElem?_set_self hlt, any_some]

/-- One step of an `Add` call. What the other calls rely on is untouched: the
other members, and that no call is opened once the drain has begun. -/
theorem Inv.setAdd {connections : List Nat} (hi : r.Inv)
    (hc : r.adds[c]? = some call) (hret : call.hasReturned = false)
    (hmem : ∀ k, k ≠ c → (k ∈ connections ↔ k ∈ r.connections)) (hno : connections.Nodup)
    (hok : PhaseOk { r.setAdd c call phase with
      connections := connections, activeConnections := active } c { call with phase := phase })
    (hop : phase = .opening ∨ phase = .returned true false →
      call.phase = .opening ∨ r.draining = false)
    (hga : active = connections.countP (r.setAdd c call phase).accepted +
      r.removes.countP decrementing) :
    Inv { r.setAdd c call phase with
      connections := connections, activeConnections := active } := by
  have hlt : c < r.adds.length := (List.getElem?_eq_some_iff.mp hc).1
  refine ⟨hno, ?_, ?_, ?_, ?_, hga⟩
  · intro k hk
    simp only [Registry.setAdd, length_set]
    by_cases hkc : k = c
    · rw [hkc]
      exact hlt
    · exact hi.known k ((hmem k hkc).mp hk)
  · intro k other hk
    rcases getElem?_set_cases hk with ⟨rfl, rfl⟩ | ⟨hne, hk⟩
    · exact hok
    · obtain ⟨hm, hla⟩ := hi.phases k other hk
      rw [← hmem k hne] at hm
      exact ⟨hm, hla⟩
  · intro k other hk
    obtain ⟨hr, hp⟩ := hi.removes k other hk
    refine ⟨?_, hp⟩
    by_cases hkc : other.connection = c
    · rw [hkc, hc, any_some, hret] at hr
      cases hr
    · simpa only [Registry.setAdd, getElem?_set_ne (Ne.symm hkc)] using hr
  · intro s hs
    obtain ⟨hd, hsn⟩ := hi.snapshots s hs
    refine ⟨hd, fun k other hk hph => ?_⟩
    rcases getElem?_set_cases hk with ⟨rfl, rfl⟩ | ⟨_, hk⟩
    · rcases hop hph with ho | ho
      · exact hsn k call hc (.inl ho)
      · rw [hd] at ho
        cases ho
    · exact hsn k other hk hph

theorem accepted_of_phase (hc : r.adds[c]? = some call) :
    r.accepted c = decide (call.phase = .returned true false) := by
  simp only [accepted, hc, any_some]

theorem accepted_setAdd (phase : AddPhase) (hc : r.adds[c]? = some call)
    (hca : call.phase ≠ .returned true false) (hph : phase ≠ .returned true false) :
    (r.setAdd c call phase).accepted = r.accepted := by
  funext k
  by_cases hk : k = c
  · rw [hk, accepted_setAdd_self hc, accepted_of_phase hc, decide_eq_false hca,
      decide_eq_false hph]
  · exact accepted_setAdd_ne hk

theorem countP_accepted_setAdd_opened (hi : r.Inv) (hc : r.adds[c]? = some call)
    (hmem : c ∈ r.connections) (hca : call.phase ≠ .returned true false) :
    r.connections.countP (r.setAdd c call (.returned true false)).accepted =
      r.connections.countP r.accepted + 1 := by
  have hold : r.accepted c = false := by rw [accepted_of_phase hc, decide_eq_false hca]
  have hnew : (r.setAdd c call (.returned true false)).accepted c = true := by
    rw [accepted_setAdd_self hc, decide_eq_true rfl]
  have hre : (r.connections.erase c).countP (r.setAdd c call (.returned true false)).accepted =
      (r.connections.erase c).countP r.accepted := by
    apply countP_congr
    intro k hk
    have hkc : k ≠ c := fun h => hi.nodup.not_mem_erase (h ▸ hk)
    rw [accepted_setAdd_ne hkc]
  have hpos : 0 < r.connections.countP (r.setAdd c call (.returned true false)).accepted :=
    countP_pos_iff.mpr ⟨c, hmem, hnew⟩
  rw [countP_erase, countP_erase] at hre
  simp only [hmem, hold, hnew, and_true, if_true, Bool.false_eq_true, and_false, if_false] at hre
  omega

theorem Inv.stepAdd (hi : r.Inv) (hc : r.adds[c]? = some call)
    (h : r.stepAdd c call = some r') : r'.Inv := by
  have hok := hi.phases c call hc
  have hse : ∀ k, k ≠ c → (k ∈ r.connections ↔ k ∈ r.connections) := fun _ _ => Iff.rfl
  -- A step that neither opens the connection nor touches the dictionary.
  have hpl : ∀ phase, call.hasReturned = false → phase ≠ .returned true false →
      (phase = .opening → r.draining = false) → PhaseOk (r.setAdd c call phase) c
        { call with phase := phase } → (r.setAdd c call phase).Inv := by
    intro phase hret hph hop hnew
    have hca : call.phase ≠ .returned true false := by
      intro he
      rw [AddCall.hasReturned, he] at hret
      cases hret
    refine hi.setAdd hc hret hse hi.nodup hnew ?_ ?_
    · rintro (hp | hp)
      · exact .inr (hop hp)
      · exact absurd hp hph
    · rw [accepted_setAdd phase hc hca hph]
      exact hi.gauge
  obtain ⟨late, phase⟩ := call
  cases phase with
  | checking =>
    simp only [Registry.stepAdd] at h
    split at h
    · next hd =>
      obtain rfl := some.inj h
      exact hpl _ rfl (by decide) (fun hp => by cases hp)
        ⟨hok.mem, fun _ => ⟨hd, .inr ⟨true, rfl⟩⟩⟩
    · next hd =>
      obtain rfl := some.inj h
      exact hpl _ rfl (by decide) (fun hp => by cases hp)
        ⟨hok.mem, fun hl => absurd (hok.late hl).1 hd⟩
  | inserting =>
    have hla : late = false := by
      cases late with
      | false => rfl
      | true => rcases (hok.late rfl).2 with hp | ⟨_, hp⟩ <;> cases hp
    have hnot : c ∉ r.connections := hok.mem
    simp only [Registry.stepAdd, hnot, if_false] at h
    obtain rfl := some.inj h
    refine hi.setAdd hc rfl ?_ ?_ ⟨?_, fun hl => ?_⟩ (fun hp => by rcases hp with hp | hp <;> cases hp) ?_
    · intro k hk
      simp [hk]
    · exact nodup_append.mpr ⟨hi.nodup, by simp, by
        intro a ha b hb
        rw [mem_singleton.mp hb]
        exact fun he => hnot (he ▸ ha)⟩
    · exact mem_append_right _ (mem_singleton_self c)
    · rw [hla] at hl
      cases hl
    · have hacc : r.accepted c = false := by rw [accepted_of_phase hc]; rfl
      refine hi.gauge.trans ?_
      rw [accepted_setAdd .rechecking hc nofun nofun, countP_append, countP_singleton, hacc]
      simp
  | rechecking =>
    simp only [Registry.stepAdd] at h
    split at h
    · obtain rfl := some.inj h
      refine hpl _ rfl (by decide) (fun hp => by cases hp) ⟨hok.mem, fun hl => ?_⟩
      rcases (hok.late hl).2 with hp | ⟨_, hp⟩ <;> cases hp
    · next hd =>
      obtain rfl := some.inj h
      refine hpl _ rfl (by decide) (fun _ => by simpa using hd) ⟨hok.mem, fun hl => ?_⟩
      exact absurd (hok.late hl).1 hd
  | withdrawing =>
    simp only [Registry.stepAdd] at h
    obtain rfl := some.inj h
    refine hi.setAdd hc rfl ?_ (hi.nodup.erase c) ⟨hi.nodup.not_mem_erase, fun hl => ?_⟩
      (fun hp => by rcases hp with hp | hp <;> cases hp) ?_
    · intro k hk
      rw [mem_erase_of_ne hk]
    · rcases (hok.late hl).2 with hp | ⟨_, hp⟩ <;> cases hp
    · have hacc : r.accepted c = false := by rw [accepted_of_phase hc]; rfl
      refine hi.gauge.trans ?_
      rw [accepted_setAdd (.returned false true) hc nofun nofun, countP_erase, hacc]
      simp
  | opening =>
    simp only [Registry.stepAdd] at h
    obtain rfl := some.inj h
    have hmem : c ∈ r.connections := hok.mem
    refine hi.setAdd hc rfl hse hi.nodup ⟨⟨rfl, .inl hmem⟩, fun hl => ?_⟩ (fun _ => .inl rfl) ?_
    · rcases (hok.late hl).2 with hp | ⟨_, hp⟩ <;> cases hp
    · have hco := countP_accepted_setAdd_opened hi hc hmem nofun
      have hg := hi.gauge
      change r.activeConnections + 1 = ((r.connections.countP _ : Nat) : Int) + _
      omega
  | returned accepted draining => cases h

theorem Inv.setRemove {call : RemoveCall} {phase : RemovePhase} (hi : r.Inv)
    (hk : r.removes[k]? = some call) (hph : phase ≠ .clamping)
    (hga : active = r.connections.countP r.accepted + (r.removes.set k { call with phase :=
      phase }).countP decrementing) :
    Inv { r.setRemove k call phase with activeConnections := active } := by
  refine ⟨hi.nodup, hi.known, fun c call hc => ⟨(hi.phases c call hc).mem, (hi.phases c call hc).late⟩,
    ?_, hi.snapshots, hga⟩
  intro k' other hk'
  rcases getElem?_set_cases hk' with ⟨rfl, rfl⟩ | ⟨_, hk'⟩
  · exact ⟨(hi.removes k' call hk).1, hph⟩
  · exact hi.removes k' other hk'

theorem Inv.stepRemove {call : RemoveCall} (hi : r.Inv) (hk : r.removes[k]? = some call)
    (h : r.stepRemove k call = some r') : r'.Inv := by
  obtain ⟨hre, hcl⟩ := hi.removes k call hk
  have hga := hi.gauge
  have hset := fun phase => countP_set_of_getElem? decrementing ({ call with phase := phase }) hk
  obtain ⟨c, phase⟩ := call
  cases phase with
  | removing =>
    simp only [Registry.stepRemove] at h
    split at h
    · next hmem =>
      obtain rfl := some.inj h
      obtain ⟨add, hadd, hret⟩ := (Option.any_eq_true _ _).mp hre
      have hok := (hi.phases c add hadd).mem
      -- A registered connection whose `Add` has returned was accepted.
      have hph : add.phase = .returned true false := by
        cases hp : add.phase with
        | returned accepted draining =>
          rw [hp] at hok
          cases accepted with
          | false => exact absurd hmem hok
          | true => rw [hok.1]
        | _ => rw [AddCall.hasReturned, hp] at hret; cases hret
      have hacc : r.accepted c = true := by rw [accepted_of_phase hadd, decide_eq_true hph]
      refine ⟨hi.nodup.erase c, fun k hk => hi.known k (mem_of_mem_erase hk), ?_, ?_,
        hi.snapshots, ?_⟩
      · intro k other hot
        obtain ⟨hm, hla⟩ := hi.phases k other hot
        refine ⟨?_, hla⟩
        by_cases hkc : k = c
        · subst hkc
          obtain rfl := some.inj (hadd.symm.trans hot)
          rw [hph]
          exact ⟨rfl, .inr mem_cons_self⟩
        · have hrem : k ∈ c :: r.removed ↔ k ∈ r.removed := by simp [hkc]
          rw [← hrem, ← mem_erase_of_ne hkc] at hm
          exact hm
      · intro k' other hk'
        rcases getElem?_set_cases hk' with ⟨rfl, rfl⟩ | ⟨_, hk'⟩
        · exact ⟨hre, nofun⟩
        · exact hi.removes k' other hk'
      · have hpos : 0 < r.connections.countP r.accepted := countP_pos_iff.mpr ⟨c, hmem, hacc⟩
        have her := countP_erase r.accepted r.connections c
        simp only [hmem, hacc, and_self, if_true] at her
        have hs := hset .decrementing
        simp only [decrementing, reduceCtorEq, decide_false, Bool.false_eq_true, if_false,
          decide_true, if_true] at hs
        change r.activeConnections = ((r.connections.erase c).countP r.accepted : Int) +
          (r.removes.set k ⟨c, .decrementing⟩).countP decrementing
        omega
    · obtain rfl := some.inj h
      refine hi.setRemove hk nofun ?_
      have hs := hset (.returned false)
      simp only [decrementing, reduceCtorEq, decide_false, Bool.false_eq_true, if_false] at hs
      change r.activeConnections = _ + ((r.removes.set k ⟨c, .returned false⟩).countP _ : Int)
      omega
  | decrementing =>
    have hs := hset (.returned true)
    simp only [decrementing, reduceCtorEq, decide_false, Bool.false_eq_true, if_false,
      decide_true, if_true] at hs
    have hno : ¬ r.activeConnections - 1 < 0 := by omega
    simp only [Registry.stepRemove, hno, if_false] at h
    obtain rfl := some.inj h
    refine hi.setRemove hk nofun ?_
    change r.activeConnections - 1 = _ + ((r.removes.set k ⟨c, .returned true⟩).countP _ : Int)
    omega
  | clamping => exact absurd rfl hcl
  | returned removed => cases h

theorem Inv.step {label : Label} (hi : r.Inv) (h : Registry.step r label = some r') : r'.Inv := by
  cases label with
  | callAdd =>
    obtain rfl := some.inj h
    have hold : ∀ (c : Nat) (call : AddCall), (r.adds ++ [⟨r.draining, .checking⟩])[c]? = some call →
        r.adds[c]? = some call ∨ (c = r.adds.length ∧ call = ⟨r.draining, .checking⟩) :=
      fun c call hc => getElem?_append_singleton_cases hc
    have hke : ∀ c < r.adds.length,
        (r.adds ++ [⟨r.draining, .checking⟩])[c]? = r.adds[c]? := fun c hc =>
      getElem?_append_left hc
    refine ⟨hi.nodup, ?_, ?_, ?_, ?_, ?_⟩
    · intro c hc
      have := hi.known c hc
      simp only [length_append]
      omega
    · intro c call hc
      rcases hold c call hc with hc | ⟨rfl, rfl⟩
      · exact ⟨(hi.phases c call hc).mem, (hi.phases c call hc).late⟩
      · exact ⟨fun hm => Nat.lt_irrefl _ (hi.known _ hm), fun hl => ⟨hl, .inl rfl⟩⟩
    · intro k call hk
      obtain ⟨hr, hp⟩ := hi.removes k call hk
      obtain ⟨add, hadd, _⟩ := (Option.any_eq_true _ _).mp hr
      refine ⟨?_, hp⟩
      rw [hke _ (List.getElem?_eq_some_iff.mp hadd).1]
      exact hr
    · intro s hs
      obtain ⟨hd, hsn⟩ := hi.snapshots s hs
      refine ⟨hd, fun c call hc hph => ?_⟩
      rcases hold c call hc with hc | ⟨rfl, rfl⟩
      · exact hsn c call hc hph
      · rcases hph with hp | hp <;> cases hp
    · refine hi.gauge.trans ?_
      have hco : r.connections.countP r.accepted = r.connections.countP
          (Registry.accepted { r with adds := r.adds ++ [⟨r.draining, .checking⟩] }) := by
        apply countP_congr
        intro c hc
        simp only [accepted, hke c (hi.known c hc)]
      rw [hco]
  | add c =>
    obtain ⟨call, hc, h⟩ := bind_eq_some_iff.mp h
    exact hi.stepAdd hc h
  | callRemove c =>
    simp only [Registry.step] at h
    split at h
    · next hret =>
      obtain rfl := some.inj h
      refine ⟨hi.nodup, hi.known, fun c call hc => ⟨(hi.phases c call hc).mem, (hi.phases c call hc).late⟩,
        ?_, hi.snapshots, ?_⟩
      · intro k call hk
        rcases getElem?_append_singleton_cases hk with hk | ⟨_, rfl⟩
        · exact hi.removes k call hk
        · exact ⟨hret, nofun⟩
      · refine hi.gauge.trans ?_
        rw [countP_append, countP_singleton]
        rfl
    · cases h
  | remove k =>
    obtain ⟨call, hk, h⟩ := bind_eq_some_iff.mp h
    exact hi.stepRemove hk h
  | beginDrain =>
    obtain rfl := some.inj h
    exact { hi with
      phases := fun c call hc => ⟨(hi.phases c call hc).mem, fun hl => ⟨rfl, ((hi.phases c call hc).late hl).2⟩⟩
      snapshots := fun s hs => ⟨rfl, (hi.snapshots s hs).2⟩ }
  | notifyServiceRestart =>
    simp only [Registry.step] at h
    split at h
    · next hd =>
      obtain rfl := some.inj h
      refine { hi with
        phases := fun c call hc => ⟨(hi.phases c call hc).mem, (hi.phases c call hc).late⟩
        snapshots := ?_ }
      intro s hs
      rcases mem_append.mp hs with hs | hs
      · rw [mem_toList] at hs
        obtain rfl := some.inj hs
        exact ⟨hd.1, hi.snapshotOk⟩
      · exact hi.snapshots s (mem_append_right _ hs)
    · cases h
  | closeAll =>
    simp only [Registry.step] at h
    split at h
    · next hn =>
      obtain rfl := some.inj h
      refine { hi with
        phases := fun c call hc => ⟨(hi.phases c call hc).mem, (hi.phases c call hc).late⟩
        snapshots := ?_ }
      obtain ⟨first, hfi⟩ := isSome_iff_exists.mp hn.1
      have hd := (hi.snapshots first (by simp [hfi])).1
      intro s hs
      rw [← append_assoc] at hs
      rcases mem_append.mp hs with hs | hs
      · exact hi.snapshots s hs
      · obtain rfl := mem_singleton.mp hs
        exact ⟨hd, hi.snapshotOk⟩
    · cases h

theorem Inv.run {labels : List Label} (hi : r.Inv) (h : Registry.step.run r labels = some r') :
    r'.Inv :=
  StepFn.run_induct (fun _ _ _ hu hs => Inv.step hu hs) hi h

end Steps

end Registry

/-- In every run, the notification and every round of closing see each connection
that is accepted at any time, unless it was removed before; no `Add` that starts
after the drain has begun is accepted; a call refused because of the drain
leaves nothing behind; and at rest the gauge is the number of connections. -/
theorem drain_misses_no_connection (labels : List Registry.Label) (r : Registry)
    (h : Registry.step.run {} labels = some r) :
    (∀ s, s ∈ r.notified.toList ++ r.closed → ∀ c, r.accepted c = true →
      c ∈ s.values ∨ c ∈ s.removed) ∧
    (∀ (c : Nat) (call : AddCall), r.adds[c]? = some call → call.late = true →
      r.accepted c = false) ∧
    (∀ (c : Nat) (call : AddCall), r.adds[c]? = some call → call.phase = .returned false true →
      c ∉ r.connections) ∧
    ((∀ call ∈ r.adds, call.hasReturned = true) → (∀ call ∈ r.removes, call.hasReturned = true) →
      r.activeConnections = r.connections.length) := by
  have hi := Registry.inv_initial.run h
  refine ⟨?_, ?_, ?_, ?_⟩
  · intro s hs c hacc
    obtain ⟨call, hc, hp⟩ := (Option.any_eq_true _ _).mp hacc
    exact (hi.snapshots s hs).2 c call hc (.inr (of_decide_eq_true hp))
  · intro c call hc hla
    rw [Registry.accepted_of_phase hc]
    rcases ((hi.phases c call hc).late hla).2 with hp | ⟨_, hp⟩ <;> rw [hp] <;> rfl
  · intro c call hc hp
    have hm := (hi.phases c call hc).mem
    rw [hp] at hm
    exact hm
  · intro had hre
    have hno : r.removes.countP Registry.decrementing = 0 := by
      rw [countP_eq_zero]
      intro call hmem hdec
      have hret := hre call hmem
      rw [RemoveCall.hasReturned, of_decide_eq_true hdec] at hret
      cases hret
    have hall : r.connections.countP r.accepted = r.connections.length := by
      rw [countP_eq_length]
      intro c hc
      obtain ⟨call, hca⟩ : ∃ call, r.adds[c]? = some call :=
        ⟨_, getElem?_eq_getElem (hi.known c hc)⟩
      have hret := had call (mem_of_getElem? hca)
      have hm := (hi.phases c call hca).mem
      rw [Registry.accepted_of_phase hca]
      cases hp : call.phase with
      | returned accepted draining =>
        rw [hp] at hm
        cases accepted with
        | false => exact absurd hc hm
        | true => rw [hm.1]; rfl
      | _ => rw [AddCall.hasReturned, hp] at hret; cases hret
    rw [hi.gauge, hno, hall]
    simp

/-- The first connection is let in before the drain and removed after it, the
second is caught between its two checks, and the third comes too late. -/
def exampleDrain : List Registry.Label :=
  [.callAdd, .add 0, .add 0, .add 0, .callAdd, .add 1, .add 1, .beginDrain, .callAdd, .add 1,
    .add 0, .notifyServiceRestart, .add 1, .add 2, .callRemove 0, .closeAll, .remove 0, .remove 0,
    .closeAll]

def exampleDrained : Registry where
  draining := true
  adds := [⟨false, .returned true false⟩, ⟨false, .returned false true⟩,
    ⟨true, .returned false true⟩]
  removes := [⟨0, .returned true⟩]
  removed := [0]
  notified := some ⟨[0, 1], []⟩
  closed := [⟨[0], []⟩, ⟨[], [0]⟩]

theorem drain_misses_no_connection_race :
    Registry.step.run {} exampleDrain = some exampleDrained ∧
      (∀ s, s ∈ exampleDrained.notified.toList ++ exampleDrained.closed →
        0 ∈ s.values ∨ 0 ∈ s.removed) ∧
      exampleDrained.accepted 2 = false ∧ 1 ∉ exampleDrained.connections ∧
      exampleDrained.activeConnections = exampleDrained.connections.length := by
  have hrun : Registry.step.run {} exampleDrain = some exampleDrained := by decide
  obtain ⟨hsn, hla, hgo, hga⟩ := drain_misses_no_connection _ _ hrun
  exact ⟨hrun, fun s hs => hsn s hs 0 (by decide), hla 2 ⟨true, .returned false true⟩ rfl rfl,
    hgo 1 ⟨false, .returned false true⟩ rfl rfl, hga (by decide) (by decide)⟩

end Realtime
