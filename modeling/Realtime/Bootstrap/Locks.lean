import Realtime.Machine
import Realtime.Text

/-! The directory locks of the bootstrap scripts: `acquireLock` and `releaseLock` of the
lifecycle operations, `acquireOrganizationLock` and `releaseOrganizationLock` of the
environment layout. Each call of the file system is one step. -/

namespace Realtime.Bootstrap

inductive LockKind where
  | target
  | organization
  deriving DecidableEq

/-- `owner.json`; the token names the task that wrote it. -/
structure Owner where
  createdAt : Nat
  hostname : Text
  pid : Nat
  token : Nat
  deriving DecidableEq

inductive OwnerFile where
  | missing
  | malformed
  | present (owner : Owner)
  deriving DecidableEq

/-- The directory at the lock path with the temporary files of `atomicWrite`. It was made
by a task, or by a process of an earlier time. -/
structure LockDirectory where
  creator : Option Nat
  owner : OwnerFile := .missing
  temporaries : List Nat := []
  mtime : Nat
  deriving DecidableEq

inductive LockError where
  | held (message : Text) (exitCode : Option Nat)
  | noEntry
  | notEmpty
  | malformed
  deriving DecidableEq

structure DirectoryLock where
  kind : LockKind
  lockPath : Text

def DirectoryLock.held (lock : DirectoryLock) : LockError :=
  match lock.kind with
  | .target => .held (utf16 "Another lifecycle operation holds the target lock '" ++
      lock.lockPath ++ utf16 "'.") none
  | .organization => .held
      (utf16 "Another bootstrap environment operation holds the organization lock '" ++
        lock.lockPath ++ utf16 "'.") (some 3)

/-- The calls of one acquisition and its release, in the order of the source. The first
three calls after a `mkdir` are `atomicWrite`, the last two before `released` are `rm`. -/
inductive LockPhase where
  | making
  | examining
  | reading
  | aging
  | renaming
  | remaking
  | ensuring (takeover : Bool)
  | writing (takeover : Bool)
  | naming (takeover : Bool)
  | cleaning (error : Option LockError)
  | holding
  | releasing
  | unlinking
  | removing
  | released
  | failed (error : LockError)
  deriving DecidableEq

structure LockTask where
  hostname : Text
  pid : Nat
  createdAt : Nat
  alive : Bool := true
  phase : LockPhase := .making
  deriving DecidableEq

/-- The clock that a call reads, and whether the pid of a process that is gone is in use
again. -/
structure LockInput where
  clock : Nat := 0
  reused : Bool := false
  deriving DecidableEq

def twoHours : Nat := 2 * 60 * 60 * 1000

/-- What `mkdir` leaves at the path. -/
def made (k : Nat) (input : LockInput) : LockDirectory := { creator := some k, mtime := input.clock }

/-- An error inside the second `try` passes through its `finally`. -/
def LockPhase.fails (takeover : Bool) (error : LockError) : LockPhase :=
  if takeover then .cleaning (some error) else .failed error

section

variable (lock : DirectoryLock) (k : Nat) (task : LockTask)

def isStale (owner : Owner) (processExists : Bool) (clock : Nat) : Bool :=
  if owner.hostname = task.hostname then !processExists
  else decide (owner.createdAt + twoHours < clock)

def stepLock (processExists : Text → Nat → Bool) (directory : Option LockDirectory)
    (input : LockInput) : Option (Option LockDirectory × LockPhase) :=
  match task.phase, directory with
  | .making, none => some (some (made k input), .ensuring false)
  | .making, some d => some (some d, match lock.kind with
      | .target => .examining
      | .organization => .reading)
  | .examining, some d => some (some d, if d.owner = .missing then .aging else .reading)
  | .examining, none => some (none, .aging)
  | .reading, some d =>
    match d.owner with
    | .present owner =>
      some (some d, if isStale task owner (processExists owner.hostname owner.pid) input.clock
        then .renaming else .failed lock.held)
    | _ => some (some d, .aging)
  | .reading, none => some (none, .aging)
  | .aging, some d =>
    some (some d, if d.mtime + twoHours < input.clock then .renaming else .failed lock.held)
  | .aging, none => some (none, .failed .noEntry)
  | .renaming, _ => some (none, .remaking)
  | .remaking, none => some (some (made k input), .ensuring true)
  | .remaking, some d => some (some d, .cleaning (some lock.held))
  | .ensuring takeover, none => some (some (made k input), .writing takeover)
  | .ensuring takeover, some d => some (some d, .writing takeover)
  | .writing takeover, some d =>
    some (some { d with temporaries := k :: d.temporaries, mtime := input.clock },
      .naming takeover)
  | .writing takeover, none => some (none, .fails takeover .noEntry)
  | .naming takeover, some d =>
    if k ∈ d.temporaries then
      some (some { d with
        owner := .present ⟨task.createdAt, task.hostname, task.pid, k⟩
        temporaries := d.temporaries.erase k
        mtime := input.clock }, if takeover then .cleaning none else .holding)
    else some (some d, .fails takeover .noEntry)
  | .naming takeover, none => some (none, .fails takeover .noEntry)
  | .cleaning none, directory => some (directory, .holding)
  | .cleaning (some error), directory => some (directory, .failed error)
  | .holding, directory => some (directory, .releasing)
  | .releasing, some d =>
    match d.owner with
    | .present owner => some (some d, if owner.token = k then .unlinking else .released)
    | .missing => some (some d, .released)
    | .malformed => some (some d, match lock.kind with
      | .target => .released
      | .organization => .failed .malformed)
  | .releasing, none => some (none, .released)
  | .unlinking, some d =>
    some (some { d with owner := .missing, temporaries := [], mtime := input.clock }, .removing)
  | .unlinking, none => some (none, .released)
  | .removing, some d =>
    if d.owner = .missing ∧ d.temporaries = [] then some (none, .released)
    else some (some d, .failed .notEmpty)
  | .removing, none => some (none, .released)
  | .released, _ => none
  | .failed _, _ => none

end

structure LockWorld where
  directory : Option LockDirectory := none
  tasks : List LockTask := []
  deriving DecidableEq

inductive LockLabel where
  | start (hostname : Text) (pid createdAt : Nat)
  | step (k : Nat) (input : LockInput)
  | die (hostname : Text) (pid : Nat)

namespace LockWorld

/-- A live process on the same host is always seen. -/
def processExists (w : LockWorld) (reused : Bool) (hostname : Text) (pid : Nat) : Bool :=
  reused || w.tasks.any (fun task => task.alive && task.hostname == hostname && task.pid == pid)

def step (lock : DirectoryLock) : StepFn LockWorld LockLabel := fun w label =>
  match label with
  | .start hostname pid createdAt =>
    some { w with tasks := w.tasks ++ [{ hostname, pid, createdAt }] }
  | .step k input =>
    match w.tasks[k]? with
    | some task =>
      if task.alive then
        (stepLock lock k task (w.processExists input.reused) w.directory input).map (fun next =>
          { directory := next.1, tasks := w.tasks.set k { task with phase := next.2 } })
      else none
    | none => none
  | .die hostname pid =>
    some { w with tasks := w.tasks.map (fun task =>
      if task.hostname = hostname ∧ task.pid = pid then { task with alive := false } else task) }

end LockWorld

/-- From the return of the acquisition to the end of the release. -/
def LockPhase.believes : LockPhase → Bool
  | .cleaning none | .holding | .releasing | .unlinking | .removing => true
  | _ => false

/-- The task has made the directory and not removed it. -/
def LockPhase.has : LockPhase → Bool
  | .ensuring _ | .writing _ | .naming _ => true
  | phase => phase.believes

/-- The calls of `rm` on the lock path. -/
def LockPhase.removes : LockPhase → Bool
  | .unlinking | .removing => true
  | _ => false

/-- The calls that make the directory where there is none. -/
def LockPhase.makes : LockPhase → Bool
  | .making | .remaking | .ensuring _ => true
  | _ => false

/-- What the task has written into its directory so far. -/
def LockTask.Fits (k : Nat) (task : LockTask) (d : LockDirectory) : LockPhase → Prop
  | .naming _ => d.owner = .missing ∧ k ∈ d.temporaries
  | .cleaning none | .holding | .releasing | .unlinking =>
    d.owner = .present ⟨task.createdAt, task.hostname, task.pid, k⟩
  | .removing => d.owner = .missing ∧ d.temporaries = []
  | _ => d.owner = .missing

structure LockTask.Owns (k : Nat) (task : LockTask) (directory : Option LockDirectory)
    (d : LockDirectory) (phase : LockPhase) : Prop where
  directory : directory = some d
  creator : d.creator = some k
  fits : task.Fits k d phase

/-- A live task that has the directory finds its own one at the path, and no task has it while a
live one is about to move it aside. -/
structure LockWorld.Safe (w : LockWorld) : Prop where
  owned : ∀ (k : Nat) (task : LockTask), w.tasks[k]? = some task → task.alive = true →
    task.phase.has = true → ∃ d, task.Owns k w.directory d task.phase
  abandoned : ∀ (k : Nat) (task : LockTask), w.tasks[k]? = some task → task.alive = true →
    task.phase = .renaming → ∀ (j : Nat) (other : LockTask), w.tasks[j]? = some other →
    other.alive = true → other.phase.has = false

def LockWorld.live (w : LockWorld) (d : LockDirectory) : Bool :=
  (d.creator.bind (fun c => w.tasks[c]?)).any (·.alive)

/-- Nobody makes the directory while a live task has found it stale and not moved it aside yet, and
a directory that is judged by an owner on another host or by its age is of no live task. -/
def LockWorld.clears (w : LockWorld) : LockLabel → Bool
  | .step k input =>
    match w.tasks[k]?, w.directory with
    | some task, none => !task.phase.makes ||
        w.tasks.all (fun other => !other.alive || other.phase != .renaming)
    | some task, some d =>
      match task.phase, d.owner with
      | .reading, .present owner => owner.hostname == task.hostname ||
          !decide (owner.createdAt + twoHours < input.clock) || !w.live d
      | .aging, _ => !decide (d.mtime + twoHours < input.clock) || !w.live d
      | _, _ => true
    | none, _ => true
  | _ => true

namespace LockWorld

variable {lock : DirectoryLock} {w t : LockWorld} {k : Nat} {task : LockTask} {input : LockInput}
  {directory : Option LockDirectory} {next : Option LockDirectory × LockPhase}
  {processExists : Text → Nat → Bool}

theorem Safe.unique (h : w.Safe) {j : Nat} {other : LockTask} (hj : w.tasks[j]? = some other)
    (hja : other.alive = true) (hjh : other.phase.has = true) (hk : w.tasks[k]? = some task)
    (hka : task.alive = true) (hkh : task.phase.has = true) : j = k := by
  obtain ⟨d, hd⟩ := h.owned j other hj hja hjh
  obtain ⟨d', hd'⟩ := h.owned k task hk hka hkh
  have hdd := hd'.directory
  rw [hd.directory, Option.some.injEq] at hdd
  have hc := hd'.creator
  rw [← hdd, hd.creator] at hc
  exact Option.some.inj hc

/-- One call: the directory stays, or the task makes it where there was none, changes its
own one, or moves away what it has found stale. -/
theorem stepLock_frame : stepLock lock k task processExists directory input = some next →
    next.1 = directory ∨ directory = none ∨ task.phase.has = true ∨ task.phase = .renaming := by
  fun_cases stepLock lock k task processExists directory input <;> intro h <;> cases h
  all_goals simp [*, LockPhase.has, LockPhase.believes]

theorem has_fails (takeover : Bool) (error : LockError) :
    (LockPhase.fails takeover error).has = false := by
  cases takeover <;> rfl

/-- A task has the directory because it had it before, or because it makes it. -/
theorem stepLock_has (h : stepLock lock k task processExists directory input = some next)
    (hhas : next.2.has = true) :
    task.phase.has = true ∨ directory = none ∧ task.phase.makes = true := by
  by_contra hno
  rw [not_or] at hno
  obtain ⟨hno, hma⟩ := hno
  revert h
  fun_cases stepLock lock k task processExists directory input <;> intro h <;> cases h
  case case1 hph | case11 hph => exact hma ⟨rfl, by rw [hph]; rfl⟩
  case case2 | case25 | case3 | case5 | case8 =>
    revert hhas
    simp only
    split <;> nofun
  case case4 | case6 | case7 | case9 | case10 | case12 => cases hhas
  all_goals simp_all [LockPhase.has, LockPhase.believes]

/-- A task is about to move the directory aside only if it has found it stale. -/
theorem stepLock_renaming (h : stepLock lock k task processExists directory input = some next)
    (hre : next.2 = .renaming) : ∃ d, directory = some d ∧
      (task.phase = .aging ∧ d.mtime + twoHours < input.clock ∨
        task.phase = .reading ∧ ∃ owner, d.owner = .present owner ∧
          isStale task owner (processExists owner.hostname owner.pid) input.clock = true) := by
  revert h
  fun_cases stepLock lock k task processExists directory input <;> intro h <;> cases h
  case case5 d hph owner ho =>
    refine ⟨d, rfl, .inr ⟨hph, owner, ho, ?_⟩⟩
    by_contra hst
    simp [hst] at hre
  case case8 d hph =>
    refine ⟨d, rfl, .inl ⟨hph, ?_⟩⟩
    by_contra hst
    simp [hst] at hre
  case case2 | case25 | case3 | case23 =>
    revert hre
    simp only
    split <;> nofun
  case case16 takeover _ | case18 takeover _ _ _ | case19 takeover _ =>
    cases takeover <;> cases hre
  case case17 takeover _ _ _ => cases takeover <;> cases hre
  all_goals cases hre

theorem stepLock_owns (h : stepLock lock k task processExists directory input = some next)
    (hown : task.phase.has = true → ∃ d, task.Owns k directory d task.phase)
    (hhas : next.2.has = true) : ∃ d, task.Owns k next.1 d next.2 := by
  revert h
  fun_cases stepLock lock k task processExists directory input <;> intro h <;> cases h
  case case1 | case11 => exact ⟨made k input, rfl, rfl, rfl⟩
  case case2 | case25 | case3 | case5 | case8 =>
    revert hhas
    simp only
    split <;> nofun
  case case13 hph =>
    rw [hph] at hown
    obtain ⟨d, ⟨⟩, -⟩ := hown rfl
  case case15 hph =>
    rw [hph] at hown
    obtain ⟨d, ⟨⟩, hc, hf⟩ := hown rfl
    exact ⟨_, rfl, hc, hf, List.mem_cons_self⟩
  case case16 | case18 | case19 => simp [has_fails] at hhas
  case case17 takeover d hph hmem =>
    rw [hph] at hown
    obtain ⟨d', ⟨⟩, hc, -⟩ := hown rfl
    cases takeover <;> exact ⟨_, rfl, hc, rfl⟩
  case case14 hph | case20 hph | case22 hph =>
    rw [hph] at hown
    obtain ⟨d', hd, hc, hf⟩ := hown rfl
    exact ⟨d', hd, hc, hf⟩
  case case23 d hph owner ho =>
    rw [hph] at hown
    obtain ⟨d', hd, hc, hf⟩ := hown rfl
    revert hhas
    simp only
    split
    · exact fun _ => ⟨d', hd, hc, hf⟩
    · nofun
  case case27 d hph =>
    rw [hph] at hown
    obtain ⟨d', ⟨⟩, hc, -⟩ := hown rfl
    exact ⟨_, rfl, hc, rfl, rfl⟩
  all_goals cases hhas

theorem owner_eq {d : LockDirectory} {phase : LockPhase} {owner : Owner}
    (hf : task.Fits k d phase) (ho : d.owner = .present owner) :
    owner = ⟨task.createdAt, task.hostname, task.pid, k⟩ := by
  unfold LockTask.Fits at hf
  split at hf <;> simp_all

/-- A live task is seen by the other processes of its host, so that they do not find its directory
stale. -/
theorem Safe.decides (h : w.Safe) (hk : w.tasks[k]? = some task)
    (hcl : w.clears (.step k input) = true)
    (hn : stepLock lock k task (w.processExists input.reused) w.directory input = some next)
    (hre : next.2 = .renaming) {j : Nat} {other : LockTask} (hj : w.tasks[j]? = some other)
    (hja : other.alive = true) : other.phase.has = false := by
  by_contra hjh
  rw [Bool.not_eq_false] at hjh
  obtain ⟨d, hd⟩ := h.owned j other hj hja hjh
  have hli : w.live d = true := by simp [live, hd.creator, hj, hja]
  obtain ⟨d', hd', hde⟩ := stepLock_renaming hn hre
  obtain rfl := Option.some.inj (hd.directory.symm.trans hd')
  rcases hde with ⟨hph, hst⟩ | ⟨hph, owner, ho, hst⟩
  · simp [clears, hk, hd', hph, hst, hli] at hcl
  · -- only its own process writes the owner of a directory
    obtain rfl := owner_eq hd.fits ho
    have hex : w.processExists input.reused other.hostname other.pid = true := by
      simp only [LockWorld.processExists, Bool.or_eq_true, List.any_eq_true]
      exact .inr ⟨other, List.mem_of_getElem? hj, by simp [hja]⟩
    unfold isStale at hst
    split_ifs at hst with hho
    · simp [hex] at hst
    · simp only [decide_eq_true_eq] at hst hho
      simp [clears, hk, hd', hph, ho, hho, hst, hli] at hcl

theorem Safe.stepTask (h : w.Safe) (hk : w.tasks[k]? = some task) (ha : task.alive = true)
    (hcl : w.clears (.step k input) = true)
    (hn : stepLock lock k task (w.processExists input.reused) w.directory input = some next) :
    Safe { directory := next.1, tasks := w.tasks.set k { task with phase := next.2 } } := by
  constructor
  · intro j other hj hja hjh
    rcases getElem?_set_cases hj with ⟨rfl, rfl⟩ | ⟨hne, hj⟩
    · obtain ⟨d, hd⟩ := stepLock_owns hn (h.owned j task hk ha) hjh
      exact ⟨d, hd.directory, hd.creator, hd.fits⟩
    · obtain ⟨d, hd⟩ := h.owned j other hj hja hjh
      rcases stepLock_frame hn with hsa | hno | hhas | hre
      · exact ⟨d, hsa.trans hd.directory, hd.creator, hd.fits⟩
      · cases hno.symm.trans hd.directory
      · exact absurd (h.unique hj hja hjh hk ha hhas) hne
      · exact absurd hjh (by simp [h.abandoned k task hk ha hre j other hj hja])
  · intro i moving hi hia him j other hj hja
    rcases getElem?_set_cases hi with ⟨rfl, rfl⟩ | ⟨-, hi'⟩
    · rcases getElem?_set_cases hj with ⟨rfl, rfl⟩ | ⟨-, hj⟩
      · exact (congrArg LockPhase.has him).trans rfl
      · exact h.decides hk hcl hn him hj hja
    · rcases getElem?_set_cases hj with ⟨rfl, rfl⟩ | ⟨-, hj⟩
      · -- nobody makes the directory while another is about to move it aside
        by_contra hhas
        rcases stepLock_has hn (Bool.not_eq_false _ ▸ hhas) with hhas | ⟨hno, hma⟩
        · rw [h.abandoned i moving hi' hia him j task hk ha] at hhas
          cases hhas
        · simp only [clears, hk, hno, hma, Bool.not_true, Bool.false_or, List.all_eq_true] at hcl
          have := hcl moving (List.mem_of_getElem? hi')
          simp [hia, him] at this
      · exact h.abandoned i moving hi' hia him j other hj hja

theorem Safe.step {label : LockLabel} (h : w.Safe) (hcl : w.clears label = true)
    (ht : LockWorld.step lock w label = some t) : t.Safe := by
  cases label with
  | start hostname pid createdAt =>
    cases ht
    constructor
    · intro k task hk ha hh
      rcases getElem?_append_singleton_cases hk with hk | ⟨-, rfl⟩
      · exact h.owned k task hk ha hh
      · cases hh
    · intro i moving hi hia him j other hj hja
      rcases getElem?_append_singleton_cases hi with hi | ⟨-, rfl⟩
      · rcases getElem?_append_singleton_cases hj with hj | ⟨-, rfl⟩
        · exact h.abandoned i moving hi hia him j other hj hja
        · rfl
      · cases him
  | step k input =>
    simp only [LockWorld.step] at ht
    split at ht
    · next task hk =>
      split at ht
      · next ha =>
        obtain ⟨next, hn, rfl⟩ := Option.map_eq_some_iff.mp ht
        exact h.stepTask hk ha hcl hn
      · cases ht
    · cases ht
  | die hostname pid =>
    cases ht
    -- a task that lives on is as it was
    have hsame : ∀ {k : Nat} {task : LockTask}, (w.tasks.map (fun task =>
        if task.hostname = hostname ∧ task.pid = pid then { task with alive := false }
        else task))[k]? = some task → task.alive = true → w.tasks[k]? = some task := by
      intro k task hk ha
      simp only [List.getElem?_map, Option.map_eq_some_iff] at hk
      obtain ⟨before, hk, rfl⟩ := hk
      split at ha
      · cases ha
      · next hot => rwa [if_neg hot]
    exact ⟨fun k task hk ha => h.owned k task (hsame hk ha) ha,
      fun i moving hi hia him j other hj hja =>
        h.abandoned i moving (hsame hi hia) hia him j other (hsame hj hja) hja⟩

/-- If nobody makes the directory between the decision of another task that it is stale and the
rename, and no live task is judged by an owner on another host or by the age of its directory, at
most one live task believes that it holds the lock, and a release removes only its own directory.
The lock may start free or be left by a process that is gone. -/
theorem directory_lock_exclusive (lock : DirectoryLock) (left : Option LockDirectory)
    (labels : List LockLabel) (w : LockWorld)
    (hok : (LockWorld.step lock).Along (fun w label => w.clears label = true)
      { directory := left } labels)
    (hw : (LockWorld.step lock).run { directory := left } labels = some w) :
    (∀ (j k : Nat) (first second : LockTask), w.tasks[j]? = some first → w.tasks[k]? = some second →
      first.alive = true → second.alive = true → first.phase.believes = true →
      second.phase.believes = true → j = k) ∧
    (∀ (k : Nat) (task : LockTask) (d : LockDirectory), w.tasks[k]? = some task →
      task.alive = true → task.phase.removes = true →
      w.directory = some d → d.creator = some k) := by
  have hin : Safe { directory := left } := by
    constructor <;> intro k task hk <;> cases hk
  have hsafe : w.Safe :=
    StepFn.run_induct_along (fun w label t h hcl ht => h.step hcl ht) hin hok hw
  have hhas {phase : LockPhase} (h : phase.believes = true) : phase.has = true := by
    cases phase <;> first | rfl | exact h
  refine ⟨?_, ?_⟩
  · intro j k first second hj hk hja hka hjb hkb
    exact hsafe.unique hj hja (hhas hjb) hk hka (hhas hkb)
  · intro k task d hk ha hre hd
    have hbe : task.phase.has = true := by
      cases hph : task.phase <;> simp [hph, LockPhase.removes] at hre <;> rfl
    obtain ⟨d', hd'⟩ := hsafe.owned k task hk ha hbe
    obtain rfl := Option.some.inj (hd.symm.trans hd'.directory)
    exact hd'.creator

end LockWorld

def exampleLeft : LockDirectory where
  creator := none
  owner := .present ⟨0, utf16 "host", 1, 0⟩
  mtime := 0

def exampleLock (kind : LockKind) : DirectoryLock := ⟨kind, utf16 ".bootstrap/locks/target"⟩

def exampleCalls (k calls : Nat) : List LockLabel := List.replicate calls (.step k {})

def LockKind.decisionCalls : LockKind → Nat
  | .target => 3
  | .organization => 2

/-- Both tasks find the lock stale; then one takes it over, and the other moves aside the
directory of the first. -/
def exampleTakeovers (kind : LockKind) : List LockLabel :=
  [[.start (utf16 "host") 2 0, .start (utf16 "host") 3 0], exampleCalls 0 kind.decisionCalls,
    exampleCalls 1 kind.decisionCalls, exampleCalls 0 6, exampleCalls 1 6].flatten

def LockKind.TakenTwice (kind : LockKind) : Prop :=
  ∃ w first second, (LockWorld.step (exampleLock kind)).run { directory := some exampleLeft }
      (exampleTakeovers kind) = some w ∧
    w.tasks[0]? = some first ∧ w.tasks[1]? = some second ∧ first.alive = true ∧
    second.alive = true ∧ first.phase = .holding ∧ second.phase = .holding

theorem directory_lock_taken_twice :
    LockKind.TakenTwice .target ∧ LockKind.TakenTwice .organization :=
  ⟨⟨_, _, _, rfl, rfl, rfl, rfl, rfl, rfl, rfl⟩, ⟨_, _, _, rfl, rfl, rfl, rfl, rfl, rfl, rfl⟩⟩

def exampleTakeover : List LockLabel :=
  [[.start (utf16 "host") 2 0, .start (utf16 "host") 3 0], exampleCalls 0 9,
    exampleCalls 1 3].flatten

theorem directory_lock_exclusive_takeover :
    ∃ w, (LockWorld.step (exampleLock .target)).run { directory := some exampleLeft }
        exampleTakeover = some w ∧
      ∀ k task, w.tasks[k]? = some task → task.alive = true → task.phase.believes = true →
        k = 0 := by
  have hok : (LockWorld.step (exampleLock .target)).Along (fun w label => w.clears label = true)
      { directory := some exampleLeft } exampleTakeover := by
    decide +kernel
  refine ⟨_, rfl, ?_⟩
  intro k task hk ha hb
  exact (LockWorld.directory_lock_exclusive (exampleLock .target) (some exampleLeft)
    exampleTakeover _ hok rfl).1 k 0 task _ hk rfl ha rfl hb rfl

end Realtime.Bootstrap
