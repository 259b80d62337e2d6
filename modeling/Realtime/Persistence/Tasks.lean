import Realtime.Persistence.Inbox

/-! Task snapshots and the persistence API as a whole: what every sequence of requests of workers
and browsers keeps in the table, and what their reads return. -/

namespace Realtime.Persistence

open List

inductive DurableTaskState where
  | queued | running | succeeded | failed | cancelled
  /-- A number that the enumeration does not define. -/
  | undefined (value : Int)
  deriving DecidableEq

namespace DurableTaskState

def number : DurableTaskState → Int
  | queued => 0
  | running => 1
  | succeeded => 2
  | failed => 3
  | cancelled => 4
  | undefined value => value

def isDefined : DurableTaskState → Bool
  | undefined _ => false
  | _ => true

def isTerminal (state : DurableTaskState) : Bool :=
  state = succeeded || state = failed || state = cancelled

end DurableTaskState

structure DurableTaskStatus where
  taskId : Option Text
  state : DurableTaskState
  progress : Option Text := none
  error : Option Text := none
  finishedAt : Option DateTimeOffset := none

namespace DurableTaskStatus

def member (name : String) (value : Text) : Text :=
  utf16 "\"" ++ utf16 name ++ utf16 "\":" ++ value

/-- The JSON of a snapshot; the two serializer contexts differ in the names. -/
def encodeAs (taskId state progress error finishedAt : String) (status : DurableTaskStatus) :
    Text :=
  utf16 "\x7b" ++ [codeUnit ','].intercalate [
    member taskId (DurableRecord.payloadText status.taskId),
    member state (utf16 (toString status.state.number)),
    member progress (DurableRecord.payloadText status.progress),
    member error (DurableRecord.payloadText status.error),
    member finishedAt (DurableRecord.expiryText status.finishedAt)] ++ utf16 "\x7d"

/-- With `PersistenceJsonContext`. -/
def encode : DurableTaskStatus → Text :=
  encodeAs "TaskId" "State" "Progress" "Error" "FinishedAt"

/-- With `PersistenceApiJsonContext`. -/
def apiEncode : DurableTaskStatus → Text :=
  encodeAs "taskId" "state" "progress" "error" "finishedAt"

end DurableTaskStatus

/-- `DurableTasks.SaveAsync`. -/
def saveAsync (table : Table) (now : DateTimeOffset) (tenantId ownerId : Option Text)
    (sequence : Int) (status : Option DurableTaskStatus) : Except Failure Table :=
  match status with
  | none => .error .argument
  | some status =>
    if status.state.isDefined = false then .error .argument
    else if status.state.isTerminal ≠ status.finishedAt.isSome then .error .argument
    else if status.state = .failed ∧ isNullOrWhiteSpace status.error = true then .error .argument
    else
      appendAsync table ⟨tenantId, ownerId, status.taskId, .taskStatus⟩
        ⟨sequence, some status.encode, now, none⟩

/-- The rows of `ReadCoreAsync` in descending order, before the `LIMIT`. -/
def selectLatest (table : Table) (stream : DurableStreamKey) (now : DateTimeOffset) : List Row :=
  (selectRows table stream 0 now).mergeSort (fun a b => b.sequence ≤ a.sequence)

/-- `ReadLatestAsync`. -/
def readLatestAsync (table : Table) (stream : DurableStreamKey) (now : DateTimeOffset) :
    Except Failure (Option DurableRecord) :=
  if stream.isValid = false then .error .argument
  else
    match ((selectLatest table stream now).take 1).mapM Row.toRecord with
    | none => .error .argument
    | some records => .ok records.head?

/-- `AcknowledgeAsync`. -/
def acknowledgeAsync (table : Table) (stream : DurableStreamKey) (throughSequence : Int) :
    Except Failure Table :=
  if stream.isValid = false ∨ throughSequence < 0 then .error .argument
  else .ok (table.filter (fun row => ¬(row.key = stream ∧ row.sequence ≤ throughSequence)))

/-! The endpoints. -/

structure TaskSaveRequest where
  tenantId : Option Text
  ownerId : Option Text
  sequence : Int
  status : Option DurableTaskStatus

/-- `worker/tasks`. -/
def workerTasks (table : Table) (authorized : Bool) (now : DateTimeOffset)
    (request : TaskSaveRequest) : Except Failure Table :=
  if authorized = false then .error .unauthorized
  else if maximumSafeInteger < request.sequence then .error .argument
  else if 65536 <
      ((request.status.map DurableTaskStatus.apiEncode).getD (utf16 "null")).length then
    .error .tooLarge
  else saveAsync table now request.tenantId request.ownerId request.sequence request.status

structure PersistenceAcknowledgeRequest where
  streamId : Option Text
  kind : DurableRecordKind
  throughSequence : Int

/-- The stream of one's own that a browser names. -/
def ownStream (identity : RealtimeIdentity) (streamId : Option Text) (kind : DurableRecordKind) :
    DurableStreamKey :=
  ⟨some identity.tenantId, some identity.userId, streamId, kind⟩

/-- `records/ack`. -/
def recordsAck (table : Table) (identity : Option RealtimeIdentity)
    (request : PersistenceAcknowledgeRequest) : Except Failure Table :=
  match identity with
  | none => .error .unauthorized
  | some identity =>
    if request.kind = .taskStatus then .error .argument
    else
      acknowledgeAsync table (ownStream identity request.streamId request.kind)
        request.throughSequence

/-- `tasks/read` with `DurableTasks.GetAsync`; without a snapshot the answer is 404. -/
def tasksRead (deserialize : Text → Except Failure (Option DurableTaskStatus)) (table : Table)
    (now : DateTimeOffset) (identity : Option RealtimeIdentity) (taskId : Option Text) :
    Except Failure (Option DurableTaskStatus) :=
  match identity with
  | none => .error .unauthorized
  | some identity =>
    match readLatestAsync table (ownStream identity taskId .taskStatus) now with
    | .error failure => .error failure
    | .ok none => .ok none
    | .ok (some record) => deserialize (record.payload.getD [])

/-! The table under the requests of all callers. -/

inductive PersistenceRequest where
  | append (authorized : Bool) (request : PersistenceAppendRequest)
  | saveTask (authorized : Bool) (now : DateTimeOffset) (request : TaskSaveRequest)
  | acknowledge (identity : Option RealtimeIdentity) (request : PersistenceAcknowledgeRequest)
  | pruneExpired (now : DateTimeOffset)

/-- The tenant and owner whose rows a request is about. -/
def PersistenceRequest.owner : PersistenceRequest → Option (Option Text × Option Text)
  | append _ request => some (request.tenantId, request.ownerId)
  | saveTask _ _ request => some (request.tenantId, request.ownerId)
  | acknowledge identity _ =>
    identity.map (fun identity => (some identity.tenantId, some identity.userId))
  | pruneExpired _ => none

def PersistenceRequest.apply (table : Table) : PersistenceRequest → Except Failure Table
  | append authorized request => workerAppend table authorized request
  | saveTask authorized now request => workerTasks table authorized now request
  | acknowledge identity request => recordsAck table identity request
  | pruneExpired now => .ok (table.filter (fun row => row.isLive now))

/-- A request that fails leaves the table as it was. -/
def handle (table : Table) (request : PersistenceRequest) : Table :=
  match request.apply table with
  | .ok next => next
  | .error _ => table

def serve (table : Table) (requests : List PersistenceRequest) : Table :=
  requests.foldl handle table

def snapshotRow (request : TaskSaveRequest) (status : DurableTaskStatus) (now : DateTimeOffset) :
    Row :=
  rowOf ⟨request.tenantId, request.ownerId, status.taskId, .taskStatus⟩
    ⟨request.sequence, some status.encode, now, none⟩ status.encode

/-- What one request can do to the table. -/
inductive Table.Change (table : Table) : PersistenceRequest → Table → Prop
  | refused (request : PersistenceRequest) : Change table request table
  | added (request : PersistenceRequest) (row : Row)
      (how : request.owner = some (row.key.tenantId, row.key.ownerId)) :
      Change table request (table ++ [row])
  | acknowledged (identity : RealtimeIdentity) (request : PersistenceAcknowledgeRequest)
      (hki : request.kind ≠ .taskStatus) : Change table (.acknowledge (some identity) request)
      (table.filter (fun row => ¬(row.key = ownStream identity request.streamId request.kind ∧
        row.sequence ≤ request.throughSequence)))
  | pruned (now : DateTimeOffset) :
      Change table (.pruneExpired now) (table.filter (fun row => row.isLive now))

section

variable {table next : Table} {now : DateTimeOffset}

theorem appendAsync_isValid {stream : DurableStreamKey} {record : DurableRecord}
    (h : appendAsync table stream record = .ok next) : stream.isValid = true := by
  by_contra hno
  rw [appendAsync, if_pos (Bool.eq_false_iff.mpr hno)] at h
  cases h

theorem workerTasks_eq_ok {authorized : Bool} {request : TaskSaveRequest}
    (h : workerTasks table authorized now request = .ok next) :
    ∃ status, request.status = some status ∧
      appendAsync table ⟨request.tenantId, request.ownerId, status.taskId, .taskStatus⟩
        ⟨request.sequence, some status.encode, now, none⟩ = .ok next := by
  unfold workerTasks saveAsync at h
  split at h
  · cases h
  split at h
  · cases h
  split at h
  · cases h
  split at h
  · cases h
  next status hst =>
    split at h
    · cases h
    split at h
    · cases h
    split at h
    · cases h
    exact ⟨status, hst, h⟩

theorem recordsAck_eq_ok {caller : Option RealtimeIdentity}
    {request : PersistenceAcknowledgeRequest} (h : recordsAck table caller request = .ok next) :
    ∃ identity, caller = some identity ∧ request.kind ≠ .taskStatus ∧
      next = table.filter (fun row =>
        ¬(row.key = ownStream identity request.streamId request.kind ∧
          row.sequence ≤ request.throughSequence)) := by
  unfold recordsAck acknowledgeAsync at h
  split at h
  · cases h
  next identity =>
    split at h
    · cases h
    next hki =>
      split at h
      · cases h
      cases h
      exact ⟨identity, rfl, hki, rfl⟩

/-- Each request is a step of the store. -/
theorem handle_spec (table : Table) (request : PersistenceRequest) :
    table.Change request (handle table request) ∧
      ∃ label, Table.step table label = some (handle table request) := by
  unfold handle
  split
  · next next hok =>
    cases request with
    | append authorized request =>
      obtain ⟨record, -, -, -, hap⟩ := Table.workerAppend_eq_ok hok
      obtain ⟨payload, -, -, -, rfl⟩ := Table.appendAsync_eq_ok hap
      exact ⟨.added _ _ rfl, .append authorized request,
        by rw [Table.step, show workerAppend _ _ _ = _ from hok]⟩
    | saveTask authorized now request =>
      obtain ⟨status, -, hap⟩ := workerTasks_eq_ok hok
      obtain ⟨payload, -, -, -, rfl⟩ := Table.appendAsync_eq_ok hap
      exact ⟨.added _ _ rfl, .saveTask _ _ _ _, by rw [Table.step, hap]⟩
    | acknowledge identity request =>
      obtain ⟨identity, rfl, hki, rfl⟩ := recordsAck_eq_ok hok
      exact ⟨.acknowledged identity request hki, .acknowledge _ _, rfl⟩
    | pruneExpired now =>
      cases hok
      exact ⟨.pruned now, .pruneExpired now, rfl⟩
  · exact ⟨.refused request, .append false ⟨none, none, none, .message, none⟩, rfl⟩

end

/-- The owner acknowledges the row, or it has expired. -/
def PersistenceRequest.MayRemove (row : Row) : PersistenceRequest → Prop
  | acknowledge (some identity) ack => ack.kind ≠ .taskStatus ∧
    row.key = ownStream identity ack.streamId ack.kind ∧ row.sequence ≤ ack.throughSequence
  | pruneExpired now => row.isLive now = false
  | _ => False

theorem mayRemove_of_handle {table : Table} {row : Row} {request : PersistenceRequest}
    (hrow : row ∈ table) (hgone : row ∉ handle table request) : request.MayRemove row := by
  have hch := (handle_spec table request).1
  generalize handle table request = next at hch hgone
  cases hch with
  | refused => exact absurd hrow hgone
  | added => exact absurd (mem_append_left _ hrow) hgone
  | acknowledged identity ack hki => exact ⟨hki, by simpa [mem_filter, hrow] using hgone⟩
  | pruned now => simpa [mem_filter, hrow, PersistenceRequest.MayRemove] using hgone

theorem serve_removes {table : Table} {row : Row} (hrow : row ∈ table)
    (requests : List PersistenceRequest) (hgone : row ∉ serve table requests) :
    ∃ request ∈ requests, request.MayRemove row := by
  induction requests generalizing table with
  | nil => exact absurd hrow hgone
  | cons request requests ih =>
    by_cases hst : row ∈ handle table request
    · obtain ⟨later, hla, hre⟩ := ih hst hgone
      exact ⟨later, mem_cons_of_mem _ hla, hre⟩
    · exact ⟨request, mem_cons_self, mayRemove_of_handle hrow hst⟩

theorem serve_removes_order : ∃ request ∈ [PersistenceRequest.pruneExpired newYear],
    request.MayRemove ⟨ownStream orderReader none .message, 1, [], 0, some 0⟩ :=
  serve_removes (mem_singleton_self _) _ (not_mem_nil : _ ∉ ([] : Table))

/-! What the reads return. -/

theorem snapshotRow_mem_serve {table : Table} {save : TaskSaveRequest} {status : DurableTaskStatus}
    {saved : DateTimeOffset} (hrow : snapshotRow save status saved ∈ table)
    (requests : List PersistenceRequest) : snapshotRow save status saved ∈ serve table requests := by
  induction requests generalizing table with
  | nil => exact hrow
  | cons request requests ih =>
    apply ih
    by_contra hgone
    have hre := mayRemove_of_handle hrow hgone
    unfold PersistenceRequest.MayRemove at hre
    split at hre
    · exact hre.1 (congrArg DurableStreamKey.kind hre.2.1).symm
    · cases hre
    · exact hre

theorem serve_valid (requests : List PersistenceRequest) : (serve [] requests).Valid := by
  have hru : ∀ table, ∃ labels, Table.step.run table labels = some (serve table requests) := by
    intro table
    induction requests generalizing table with
    | nil => exact ⟨[], rfl⟩
    | cons request requests ih =>
      obtain ⟨-, label, hla⟩ := handle_spec table request
      obtain ⟨labels, hlas⟩ := ih (handle table request)
      exact ⟨label :: labels, StepFn.run_cons_eq_some.mpr ⟨_, hla, hlas⟩⟩
  obtain ⟨labels, hlas⟩ := hru []
  exact Table.valid_of_run hlas

section

variable {table : Table} {stream : DurableStreamKey} {row : Row} {now : DateTimeOffset}

theorem Table.Valid.eq_of_sequence (h : table.Valid) {other : Row} (hrow : row ∈ table)
    (hot : other ∈ table) (hkey : row.key = other.key) (hse : row.sequence = other.sequence) :
    row = other := by
  by_contra hne
  have hsy : Std.Symm (fun a b : Row => a.key = b.key → a.sequence ≠ b.sequence) :=
    ⟨fun a b hab hk => (hab hk.symm).symm⟩
  exact h.primaryKey.forall hrow hot hne hkey hse

theorem selectLatest_head (h : table.Valid) (hrow : row ∈ table) (hkey : row.key = stream)
    (hpos : 1 ≤ row.sequence) (hli : row.isLive now = true)
    (hmax : ∀ other ∈ table, other.key = stream → other.sequence ≤ row.sequence) :
    (selectLatest table stream now).head? = some row := by
  have hmem : ∀ other, other ∈ selectLatest table stream now ↔ other ∈ table ∧
      other.key = stream ∧ 0 < other.sequence ∧ other.isLive now = true := by
    simp [selectLatest, mem_mergeSort, mem_selectRows]
  have hso : (selectLatest table stream now).Pairwise (fun a b => b.sequence ≤ a.sequence) := by
    apply (pairwise_mergeSort _ _ _).imp of_decide_eq_true
    · intro a b c hab hbc
      simp only [decide_eq_true_eq] at hab hbc ⊢
      omega
    · intro a b
      simp only [Bool.or_eq_true, decide_eq_true_eq]
      omega
  have hin := (hmem row).mpr ⟨hrow, hkey, by omega, hli⟩
  cases hla : selectLatest table stream now with
  | nil => rw [hla] at hin; cases hin
  | cons first rest =>
    rw [hla] at hin hso
    obtain ⟨hfi, hfk, -, -⟩ := (hmem first).mp (hla ▸ mem_cons_self)
    rcases mem_cons.mp hin with rfl | hre
    · rfl
    · have hle := rel_of_pairwise_cons hso hre
      have hge := hmax first hfi hfk
      rw [head?_cons, h.eq_of_sequence hfi hrow (hfk.trans hkey.symm) (by omega)]

theorem readLatestAsync_eq (now : DateTimeOffset) (h : table.Valid) (hva : stream.isValid = true)
    {request : TaskSaveRequest} {status : DurableTaskStatus} {saved : DateTimeOffset}
    (hrow : snapshotRow request status saved ∈ table) (hpos : 1 ≤ request.sequence)
    (hkey : (snapshotRow request status saved).key = stream)
    (hmax : ∀ other ∈ table, other.key = stream → other.sequence ≤ request.sequence) :
    ∃ createdAt, readLatestAsync table stream now =
      .ok (some ⟨request.sequence, some status.encode, createdAt, none⟩) := by
  obtain ⟨cut, hcut, -⟩ := saved.fromUnixTimeMilliseconds_toUnixTimeMilliseconds
  obtain ⟨rest, hla⟩ := head?_eq_some_iff.mp (selectLatest_head h hrow hkey hpos rfl hmax)
  have hto : (snapshotRow request status saved).toRecord =
      some ⟨request.sequence, some status.encode, cut, none⟩ := by
    simp [Row.toRecord, snapshotRow, rowOf, hcut]
  refine ⟨cut, ?_⟩
  rw [readLatestAsync, if_neg (by simp [hva]), hla]
  simp [hto]

end

/-- The owner reads an accepted snapshot until one with a higher number is there. -/
theorem tasks_read_latest (deserialize : Text → Except Failure (Option DurableTaskStatus))
    (earlier later : List PersistenceRequest) {save : TaskSaveRequest}
    {status : DurableTaskStatus} {identity : RealtimeIdentity} {saved now : DateTimeOffset}
    {table : Table} (hsave : save =
      ⟨some identity.tenantId, some identity.userId, save.sequence, some status⟩)
    (hok : workerTasks (serve [] earlier) true saved save = .ok table)
    (hlatest : ∀ row ∈ serve table later,
      row.key = ownStream identity status.taskId .taskStatus → row.sequence ≤ save.sequence) :
    tasksRead deserialize (serve table later) now (some identity) status.taskId =
      deserialize status.encode := by
  obtain ⟨snapshot, hst, hap⟩ := workerTasks_eq_ok hok
  obtain rfl : status = snapshot := by
    rw [hsave] at hst
    exact Option.some.inj hst
  have hva : (ownStream identity status.taskId .taskStatus).isValid = true := by
    have hva := appendAsync_isValid hap
    rwa [hsave] at hva
  obtain ⟨payload, hpa, hpos, -, hne⟩ := Table.appendAsync_eq_ok hap
  obtain rfl := Option.some.inj hpa
  have hrow : snapshotRow save status saved ∈ serve table later :=
    snapshotRow_mem_serve (hne ▸ mem_append_right _ (mem_singleton_self _)) later
  have hval : (serve table later).Valid := by
    have hru := serve_valid (earlier ++ .saveTask true saved save :: later)
    simp only [serve, foldl_append, foldl_cons, handle, PersistenceRequest.apply] at hru hok ⊢
    rwa [hok] at hru
  obtain ⟨createdAt, hre⟩ :=
    readLatestAsync_eq now hval hva hrow hpos (by rw [hsave]; rfl) hlatest
  simp only [tasksRead, hre, Option.getD_some]

def rendering : DurableTaskStatus := ⟨some (utf16 "render"), .running, none, none, none⟩

def renderTask (sequence : Int) : TaskSaveRequest :=
  ⟨some (utf16 "acme"), some (utf16 "ann"), sequence, some rendering⟩

theorem tasks_read_latest_render :
    tasksRead (fun text => if text = rendering.encode then .ok (some rendering) else .ok none)
      (serve [snapshotRow (renderTask 2) rendering newYear] [.saveTask true newYear (renderTask 1)])
      newYear (some orderReader) rendering.taskId = .ok (some rendering) := by
  have hok : workerTasks (serve [] []) true newYear (renderTask 2) =
      .ok [snapshotRow (renderTask 2) rendering newYear] := rfl
  have hsa : renderTask 2 =
      ⟨some orderReader.tenantId, some orderReader.userId, 2, some rendering⟩ := rfl
  rw [tasks_read_latest _ [] _ hsa hok (by decide +kernel), if_pos rfl]

/-! Owners do not see each other. -/

/-- A request for or by others; what it prunes has expired by now. -/
structure PersistenceRequest.Foreign (identity : RealtimeIdentity) (now : DateTimeOffset)
    (request : PersistenceRequest) : Prop where
  owner : request.owner ≠ some (some identity.tenantId, some identity.userId)
  expired : ∀ time, request = .pruneExpired time →
    time.toUnixTimeMilliseconds ≤ now.toUnixTimeMilliseconds

section

variable {table next : Table} {identity : RealtimeIdentity} {now : DateTimeOffset}

theorem Row.isLive_mono {row : Row} {earlier : DateTimeOffset}
    (h : earlier.toUnixTimeMilliseconds ≤ now.toUnixTimeMilliseconds)
    (hli : row.isLive now = true) : row.isLive earlier = true := by
  unfold Row.isLive at hli ⊢
  split
  · rfl
  · next expiresAt hex =>
    simp only [hex, decide_eq_true_eq] at hli ⊢
    omega

theorem selectRows_filter_of {stream : DurableStreamKey} {after : Int} {p : Row → Bool}
    (h : ∀ row ∈ table, row.key = stream → row.isLive now = true → p row = true) :
    selectRows (table.filter p) stream after now = selectRows table stream after now := by
  rw [selectRows, selectRows, filter_filter]
  congr 1
  apply filter_congr
  intro row hrow
  rw [Bool.eq_iff_iff, Bool.and_eq_true, decide_eq_true_eq]
  exact and_iff_left_of_imp (fun hse => h row hrow hse.1 hse.2.2)

theorem Table.Change.selectRows_eq {request : PersistenceRequest} (h : Change table request next)
    (hfo : request.Foreign identity now) (streamId : Option Text) (kind : DurableRecordKind)
    (after : Int) : selectRows next (ownStream identity streamId kind) after now =
      selectRows table (ownStream identity streamId kind) after now := by
  cases h with
  | refused => rfl
  | added request row how =>
    have hkey : row.key ≠ ownStream identity streamId kind := by
      intro hkey
      rw [hkey] at how
      exact hfo.owner how
    rw [selectRows, selectRows, filter_append, filter_singleton]
    simp [hkey]
  | acknowledged other request hki =>
    apply selectRows_filter_of
    intro row hrow hkey hli
    refine decide_eq_true ?_
    rintro ⟨hot, -⟩
    have hsame := hot.symm.trans hkey
    simp only [ownStream, DurableStreamKey.mk.injEq] at hsame
    exact hfo.owner (congrArg some (Prod.ext hsame.1 hsame.2.1))
  | pruned time =>
    exact selectRows_filter_of (fun row hrow hkey hli => Row.isLive_mono (hfo.expired time rfl) hli)

end

/-- What others request never changes what an owner reads. -/
theorem reads_ignore_others (deserialize : Text → Except Failure (Option DurableTaskStatus))
    (table : Table) (identity : RealtimeIdentity) (now : DateTimeOffset)
    (requests : List PersistenceRequest)
    (hforeign : ∀ request ∈ requests, request.Foreign identity now) :
    (∀ read, readRecords (serve table requests) now (some identity) read =
      readRecords table now (some identity) read) ∧
    ∀ taskId, tasksRead deserialize (serve table requests) now (some identity) taskId =
      tasksRead deserialize table now (some identity) taskId := by
  have hse : ∀ streamId kind after,
      selectRows (serve table requests) (ownStream identity streamId kind) after now =
        selectRows table (ownStream identity streamId kind) after now := by
    induction requests generalizing table with
    | nil => intros; rfl
    | cons request requests ih =>
      obtain ⟨hfo, hre⟩ := forall_mem_cons.mp hforeign
      intro streamId kind after
      rw [← (handle_spec table request).1.selectRows_eq hfo streamId kind after]
      exact ih (handle table request) hre streamId kind after
  constructor
  · intro read
    simp only [ownStream] at hse
    simp only [readRecords, readAsync, hse]
  · intro taskId
    simp only [tasksRead, readLatestAsync, selectLatest, hse]

/-- Another tenant saves a snapshot of a task of the same name. -/
theorem reads_ignore_others_task :
    (serve [snapshotRow (renderTask 1) rendering newYear]
      [.saveTask true newYear { renderTask 2 with tenantId := some (utf16 "globex") }]).length = 2 ∧
    tasksRead (fun _ => .ok (some rendering)) (serve [snapshotRow (renderTask 1) rendering newYear]
        [.saveTask true newYear { renderTask 2 with tenantId := some (utf16 "globex") }])
      newYear (some orderReader) rendering.taskId = .ok (some rendering) := by
  refine ⟨by decide +kernel, ?_⟩
  rw [(reads_ignore_others _ _ _ _ _
    (forall_mem_singleton.mpr ⟨by decide, by rintro time ⟨⟩⟩)).2]
  have hval : Table.Valid [snapshotRow (renderTask 1) rendering newYear] :=
    serve_valid [.saveTask true newYear (renderTask 1)]
  have hrow : snapshotRow (renderTask 1) rendering newYear ∈
      [snapshotRow (renderTask 1) rendering newYear] := mem_singleton_self _
  have hkey : (snapshotRow (renderTask 1) rendering newYear).key =
      ownStream orderReader rendering.taskId .taskStatus := rfl
  obtain ⟨createdAt, hre⟩ := readLatestAsync_eq newYear hval (by decide +kernel) hrow (by decide)
    hkey (by decide +kernel)
  simp only [tasksRead, hre]

end Realtime.Persistence
