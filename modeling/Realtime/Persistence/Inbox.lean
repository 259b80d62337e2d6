import Realtime.Machine
import Realtime.Paging
import Realtime.Persistence.Records

/-! The durable inbox: the relational store, the worker's append endpoint and the browser's
paged reads. -/

namespace Realtime.Persistence

open List

inductive DurableRecordKind where
  | message | notification | taskStatus
  /-- A number that the enumeration does not define. -/
  | undefined (value : Int)
  deriving DecidableEq

def DurableRecordKind.isDefined : DurableRecordKind → Bool
  | .undefined _ => false
  | _ => true

structure DurableStreamKey where
  tenantId : Option Text
  ownerId : Option Text
  streamId : Option Text
  kind : DurableRecordKind
  deriving DecidableEq

/-- What an operation throws, by the status that `ExecuteAsync` answers with. -/
inductive Failure where
  | unauthorized | argument | tooLarge | database
  deriving DecidableEq

def Failure.statusCode : Failure → Nat
  | .unauthorized => 401
  | .argument => 400
  | .tooLarge => 413
  | .database => 503

/-! The store. -/

/-- A row of the table; times are in milliseconds since 1970. -/
structure Row where
  key : DurableStreamKey
  sequence : Int
  payload : Text
  createdAt : Int
  expiresAt : Option Int

abbrev Table := List Row

def isIdentifier (value : Option Text) : Bool :=
  !isNullOrWhiteSpace value && (value.getD []).length ≤ 128

/-- `Validate`. -/
def DurableStreamKey.isValid (stream : DurableStreamKey) : Bool :=
  isIdentifier stream.tenantId && isIdentifier stream.ownerId && isIdentifier stream.streamId &&
    stream.kind.isDefined

def rowOf (stream : DurableStreamKey) (record : DurableRecord) (payload : Text) : Row where
  key := stream
  sequence := record.sequence
  payload := payload
  createdAt := record.createdAt.toUnixTimeMilliseconds
  expiresAt := record.expiresAt.map DateTimeOffset.toUnixTimeMilliseconds

/-- `AppendAsync`; the primary key rejects a sequence number that the stream has. -/
def appendAsync (table : Table) (stream : DurableStreamKey) (record : DurableRecord) :
    Except Failure Table :=
  if stream.isValid = false then .error .argument
  else
    match record.payload with
    | none => .error .argument
    | some payload =>
      if record.sequence < 1 then .error .argument
      else if table.any (fun row => row.key = stream ∧ row.sequence = record.sequence) then
        .error .database
      else .ok (table ++ [rowOf stream record payload])

/-- `expires_at IS NULL OR expires_at > now`. -/
def Row.isLive (now : DateTimeOffset) (row : Row) : Bool :=
  match row.expiresAt with
  | none => true
  | some expiresAt => now.toUnixTimeMilliseconds < expiresAt

def Row.toRecord (row : Row) : Option DurableRecord :=
  match DateTimeOffset.fromUnixTimeMilliseconds row.createdAt,
      row.expiresAt.map DateTimeOffset.fromUnixTimeMilliseconds with
  | some createdAt, none => some ⟨row.sequence, some row.payload, createdAt, none⟩
  | some createdAt, some (some expiresAt) =>
    some ⟨row.sequence, some row.payload, createdAt, some expiresAt⟩
  | _, _ => none

/-- The rows of the query, before its `LIMIT`. -/
def selectRows (table : Table) (stream : DurableStreamKey) (afterSequence : Int)
    (now : DateTimeOffset) : List Row :=
  (table.filter (fun row => row.key = stream ∧ afterSequence < row.sequence ∧
    row.isLive now = true)).mergeSort (fun a b => a.sequence ≤ b.sequence)

/-- `ReadAsync`. -/
def readAsync (table : Table) (stream : DurableStreamKey) (afterSequence limit : Int)
    (now : DateTimeOffset) : Except Failure (List DurableRecord) :=
  if stream.isValid = false ∨ afterSequence < 0 ∨ limit < 1 ∨ 1000 < limit then .error .argument
  else
    match ((selectRows table stream afterSequence now).take limit.toNat).mapM Row.toRecord with
    | none => .error .argument
    | some records => .ok records

/-! The endpoints. -/

def maximumSafeInteger : Int := 9007199254740991

def maximumResponseBytes : Nat := 65536

/-- `records/read` writes the encodings of its page between brackets, with commas. -/
def pageBody (page : List DurableRecord) : Text :=
  [codeUnit '['] ++ [codeUnit ','].intercalate (page.map DurableRecord.encode) ++ [codeUnit ']']

/-- The loop of `records/read`. -/
def fillPage (page : List DurableRecord) (bytes : Nat) :
    List DurableRecord → Except Failure (List DurableRecord)
  | [] => .ok page
  | record :: records =>
    let separator := if page.length = 0 then 0 else 1
    if maximumSafeInteger < record.sequence then .error .argument
    else if maximumResponseBytes < bytes + record.encode.length + separator then
      if page.length = 0 then .error .tooLarge else .ok page
    else fillPage (page ++ [record]) (bytes + record.encode.length + separator) records

structure PersistenceReadRequest where
  streamId : Option Text
  kind : DurableRecordKind
  afterSequence : Int := 0
  limit : Int := 100

/-- `records/read`: the records of the page it answers with. -/
def readRecords (table : Table) (now : DateTimeOffset) (identity : Option RealtimeIdentity)
    (request : PersistenceReadRequest) : Except Failure (List DurableRecord) :=
  match identity with
  | none => .error .unauthorized
  | some identity =>
    if maximumSafeInteger < request.afterSequence then .error .argument
    else if request.limit < 1 ∨ 1000 < request.limit ∨ request.kind = .taskStatus then
      .error .argument
    else
      match readAsync table
          ⟨some identity.tenantId, some identity.userId, request.streamId, request.kind⟩
          request.afterSequence (min request.limit 100) now with
      | .error failure => .error failure
      | .ok records => fillPage [] 2 records

structure PersistenceAppendRequest where
  tenantId : Option Text
  ownerId : Option Text
  streamId : Option Text
  kind : DurableRecordKind
  record : Option DurableRecord

/-- `worker/append`. -/
def workerAppend (table : Table) (authorized : Bool) (request : PersistenceAppendRequest) :
    Except Failure Table :=
  if authorized = false then .error .unauthorized
  else if request.kind = .taskStatus then .error .argument
  else
    match request.record with
    | none => .error .argument
    | some record =>
      if maximumSafeInteger < record.sequence then .error .argument
      else if 65534 < record.encode.length then .error .tooLarge
      else
        appendAsync table ⟨request.tenantId, request.ownerId, request.streamId, request.kind⟩ record

/-! The table over time. -/

/-- What changes the table; a task snapshot is a record of its own kind. -/
inductive StoreStep where
  | append (authorized : Bool) (request : PersistenceAppendRequest)
  | saveTask (tenantId ownerId taskId : Option Text) (snapshot : DurableRecord)
  | acknowledge (stream : DurableStreamKey) (throughSequence : Int)
  | pruneExpired (now : DateTimeOffset)

/-- A request that fails leaves the table as it was. -/
def Table.step : StepFn Table StoreStep := fun table step =>
  match step with
  | .append authorized request =>
    match workerAppend table authorized request with
    | .ok table => some table
    | .error _ => some table
  | .saveTask tenantId ownerId taskId snapshot =>
    match appendAsync table ⟨tenantId, ownerId, taskId, .taskStatus⟩ snapshot with
    | .ok table => some table
    | .error _ => some table
  | .acknowledge stream throughSequence =>
    some (table.filter (fun row => ¬(row.key = stream ∧ row.sequence ≤ throughSequence)))
  | .pruneExpired now => some (table.filter (fun row => row.isLive now))

structure Row.Accepted (row : Row) : Prop where
  pos : 1 ≤ row.sequence
  safe : row.sequence ≤ maximumSafeInteger
  record : ∃ record payload, record.payload = some payload ∧ row = rowOf row.key record payload ∧
    record.encode.length ≤ 65534

structure Table.Valid (table : Table) : Prop where
  primaryKey : table.Pairwise (fun a b => a.key = b.key → a.sequence ≠ b.sequence)
  accepted : ∀ row ∈ table, row.key.kind ≠ .taskStatus → row.Accepted

namespace Table

variable {table next : Table} {stream : DurableStreamKey} {record : DurableRecord}

theorem Valid.filter (h : Valid table) (p : Row → Bool) :
    Valid (table.filter p) := by
  constructor
  · exact h.primaryKey.filter p
  · intro row hrow
    exact h.accepted row (mem_of_mem_filter hrow)

theorem appendAsync_eq_ok (h : appendAsync table stream record = .ok next) :
    ∃ payload, record.payload = some payload ∧ 1 ≤ record.sequence ∧
      (∀ row ∈ table, row.key = stream → row.sequence ≠ record.sequence) ∧
      next = table ++ [rowOf stream record payload] := by
  unfold appendAsync at h
  split at h
  · cases h
  · split at h
    · cases h
    · next payload hpa =>
      split at h
      · cases h
      · next hpos =>
        split at h
        · cases h
        · next hfr =>
          cases h
          refine ⟨payload, hpa, by omega, ?_, rfl⟩
          intro row hrow hkey hse
          apply hfr
          rw [any_eq_true]
          exact ⟨row, hrow, decide_eq_true ⟨hkey, hse⟩⟩

theorem Valid.appendAsync (h : Valid table) (ha : appendAsync table stream record = .ok next)
    (hre : stream.kind ≠ .taskStatus → record.sequence ≤ maximumSafeInteger ∧
      record.encode.length ≤ 65534) : Valid next := by
  obtain ⟨payload, hpa, hpos, hfr, rfl⟩ := appendAsync_eq_ok ha
  constructor
  · rw [pairwise_append]
    refine ⟨h.primaryKey, pairwise_singleton _ _, ?_⟩
    intro row hrow other hot hkey
    rw [mem_singleton.mp hot] at hkey ⊢
    exact hfr row hrow hkey
  · intro row hrow hki
    rcases mem_append.mp hrow with hold | hnew
    · exact h.accepted row hold hki
    · rw [mem_singleton.mp hnew] at hki ⊢
      obtain ⟨hsa, hsi⟩ := hre hki
      exact ⟨hpos, hsa, record, payload, hpa, rfl, hsi⟩

theorem workerAppend_eq_ok {authorized : Bool} {request : PersistenceAppendRequest}
    (h : workerAppend table authorized request = .ok next) :
    ∃ record, request.record = some record ∧ record.sequence ≤ maximumSafeInteger ∧
      record.encode.length ≤ 65534 ∧ Persistence.appendAsync table
        ⟨request.tenantId, request.ownerId, request.streamId, request.kind⟩ record = .ok next := by
  unfold workerAppend at h
  split at h
  · cases h
  · split at h
    · cases h
    · split at h
      · cases h
      · next record hre =>
        split at h
        · cases h
        · next hsa =>
          split at h
          · cases h
          · next hsi => exact ⟨record, hre, by omega, by omega, h⟩

theorem Valid.step {label : StoreStep} (h : Valid table) (hst : step table label = some next) :
    Valid next := by
  cases label with
  | append authorized request =>
    simp only [Table.step] at hst
    split at hst
    · next ha =>
      cases hst
      obtain ⟨record, -, hsa, hsi, ha⟩ := workerAppend_eq_ok ha
      exact h.appendAsync ha (fun _ => ⟨hsa, hsi⟩)
    · cases hst
      exact h
  | saveTask tenantId ownerId taskId snapshot =>
    simp only [Table.step] at hst
    split at hst
    · next ha =>
      cases hst
      exact h.appendAsync ha (fun hki => absurd rfl hki)
    · cases hst
      exact h
  | acknowledge stream throughSequence =>
    cases hst
    exact h.filter _
  | pruneExpired now =>
    cases hst
    exact h.filter _

theorem valid_of_run {labels : List StoreStep} (h : Table.step.run [] labels = some table) :
    Valid table := by
  apply StepFn.run_induct (fun _ _ _ hs ht => Valid.step hs ht) _ h
  exact ⟨List.Pairwise.nil, by simp⟩

/-- The step neither acknowledges the row nor prunes it. -/
def keeps (row : Row) : StoreStep → Bool
  | .acknowledge stream throughSequence => ¬(row.key = stream ∧ row.sequence ≤ throughSequence)
  | .pruneExpired now => row.isLive now
  | _ => true

theorem mem_of_run {row : Row} {labels : List StoreStep} (hrow : row ∈ table)
    (hk : ∀ label ∈ labels, keeps row label = true)
    (hrun : Table.step.run table labels = some next) : row ∈ next := by
  induction labels generalizing table with
  | nil => exact Option.some.inj hrun ▸ hrow
  | cons label labels ih =>
    obtain ⟨hl, hk⟩ := forall_mem_cons.mp hk
    obtain ⟨u, hu, hrun⟩ := StepFn.run_cons_eq_some.mp hrun
    refine ih ?_ hk hrun
    cases label with
    | append authorized request =>
      simp only [Table.step] at hu
      split at hu <;> cases hu
      · next ha =>
        obtain ⟨record, -, -, -, ha⟩ := workerAppend_eq_ok ha
        obtain ⟨payload, -, -, -, rfl⟩ := appendAsync_eq_ok ha
        exact mem_append_left _ hrow
      · exact hrow
    | saveTask tenantId ownerId taskId snapshot =>
      simp only [Table.step] at hu
      split at hu <;> cases hu
      · next ha =>
        obtain ⟨payload, -, -, -, rfl⟩ := appendAsync_eq_ok ha
        exact mem_append_left _ hrow
      · exact hrow
    | acknowledge stream throughSequence =>
      cases hu
      exact mem_filter.mpr ⟨hrow, hl⟩
    | pruneExpired now =>
      cases hu
      exact mem_filter.mpr ⟨hrow, hl⟩

end Table

/-! What the store returns fits a page. -/

theorem DurableRecord.encode_length_le {a b : DurableRecord} (hse : a.sequence = b.sequence)
    (hpa : a.payload = b.payload)
    (hcr : a.createdAt.toText.length ≤ b.createdAt.toText.length)
    (hex : (expiryText a.expiresAt).length ≤ (expiryText b.expiresAt).length) :
    a.encode.length ≤ b.encode.length := by
  simp only [encode, timeText, length_append, hse, hpa]
  omega

theorem Row.Accepted.toRecord {row : Row} (h : row.Accepted) :
    ∃ record, row.toRecord = some record ∧ record.sequence = row.sequence ∧
      record.encode.length ≤ 65534 := by
  obtain ⟨record, payload, hpa, hrow, hsi⟩ := h.record
  obtain ⟨createdAt, hcre, hcut⟩ :=
    record.createdAt.fromUnixTimeMilliseconds_toUnixTimeMilliseconds
  have hcr := DateTimeOffset.toText_cut_length_le hcut
  cases hex : record.expiresAt with
  | none =>
    let back : DurableRecord := ⟨record.sequence, some payload, createdAt, none⟩
    have hba : row.toRecord = some back := by
      rw [hrow]
      simp [Row.toRecord, rowOf, hcre, hex, back]
    have hle : back.encode.length ≤ record.encode.length :=
      DurableRecord.encode_length_le rfl hpa.symm hcr (by rw [hex])
    exact ⟨back, hba, by rw [hrow]; rfl, le_trans hle hsi⟩
  | some expiry =>
    obtain ⟨expiresAt, hexpir, hexpi⟩ :=
      expiry.fromUnixTimeMilliseconds_toUnixTimeMilliseconds
    have hexpiryl := DateTimeOffset.toText_cut_length_le hexpi
    let back : DurableRecord := ⟨record.sequence, some payload, createdAt, some expiresAt⟩
    have hba : row.toRecord = some back := by
      rw [hrow]
      simp [Row.toRecord, rowOf, hcre, hex, hexpir, back]
    have hexp : (DurableRecord.expiryText (some expiresAt)).length ≤
        (DurableRecord.expiryText record.expiresAt).length := by
      rw [hex]
      simp only [DurableRecord.expiryText, DurableRecord.timeText, length_append]
      omega
    have hle : back.encode.length ≤ record.encode.length :=
      DurableRecord.encode_length_le rfl hpa.symm hcr hexp
    exact ⟨back, hba, by rw [hrow]; rfl, le_trans hle hsi⟩

theorem pageBody_append_length (page : List DurableRecord) (record : DurableRecord) :
    (pageBody (page ++ [record])).length =
      (pageBody page).length + record.encode.length + if page.length = 0 then 0 else 1 := by
  simp only [pageBody, length_append, intercalate_length, map_append, map_cons,
    map_nil, sum_append, sum_cons, sum_nil, length_map, length_cons,
    length_nil]
  split <;> omega

theorem fillPage_spec {records page : List DurableRecord} {bytes : Nat}
    (hby : bytes = (pageBody page).length) (hbo : bytes ≤ maximumResponseBytes)
    (hsa : ∀ record ∈ records, record.sequence ≤ maximumSafeInteger)
    (hfi : ∀ record ∈ records, record.encode.length ≤ 65534) :
    ∃ result, fillPage page bytes records = .ok result ∧ page <+: result ∧
      result <+: page ++ records ∧ (pageBody result).length ≤ maximumResponseBytes ∧
      (result = [] → records = []) := by
  induction records generalizing page bytes with
  | nil => exact ⟨page, rfl, prefix_refl _, by simp, by rwa [← hby], fun _ => rfl⟩
  | cons record records ih =>
    have hse := hsa record mem_cons_self
    have hsi := hfi record mem_cons_self
    have hap := pageBody_append_length page record
    rw [fillPage, if_neg (by omega)]
    by_cases hov : maximumResponseBytes <
        bytes + record.encode.length + (if page.length = 0 then 0 else 1)
    · -- An empty page takes 2 bytes, so a first record is never over the budget.
      have hne : page.length ≠ 0 := by
        intro hze
        rw [length_eq_zero_iff.mp hze] at hby
        rw [if_pos hze, maximumResponseBytes] at hov
        have htwo : (pageBody []).length = 2 := rfl
        omega
      rw [if_pos hov, if_neg hne]
      refine ⟨page, rfl, prefix_refl _, prefix_append _ _, by rwa [← hby], ?_⟩
      rintro rfl
      exact absurd rfl hne
    · rw [if_neg hov]
      obtain ⟨result, hre, hpa, hsub, hle, -⟩ :=
        @ih (page ++ [record]) (bytes + record.encode.length + (if page.length = 0 then 0 else 1))
          (by rw [hap, hby]) (by omega)
          (fun other hmem => hsa other (mem_cons_of_mem _ hmem))
          (fun other hmem => hfi other (mem_cons_of_mem _ hmem))
      refine ⟨result, hre, (prefix_append _ _).trans hpa, by simpa using hsub, hle,
        ?_⟩
      rintro rfl
      simp at hpa

/-! The query. -/

section

variable {table : Table} {stream : DurableStreamKey} {after limit : Int} {now : DateTimeOffset}

variable {row : Row}

theorem mem_selectRows : row ∈ selectRows table stream after now ↔
    row ∈ table ∧ row.key = stream ∧ after < row.sequence ∧ row.isLive now = true := by
  simp [selectRows, mem_mergeSort]

theorem selectRows_sorted (h : table.Valid) :
    (selectRows table stream after now).Pairwise (fun a b => a.sequence < b.sequence) := by
  have hle : (selectRows table stream after now).Pairwise
      (fun a b => decide (a.sequence ≤ b.sequence) = true) := by
    apply pairwise_mergeSort
    · intro a b c hab hbc
      simp only [decide_eq_true_eq] at hab hbc ⊢
      omega
    · intro a b
      simp only [Bool.or_eq_true, decide_eq_true_eq]
      omega
  have hfi : (table.filter (fun row => row.key = stream ∧ after < row.sequence ∧
      row.isLive now = true)).Pairwise (fun a b => a.sequence ≠ b.sequence) := by
    apply (h.primaryKey.filter _).imp_of_mem
    intro a b ha hb hab
    have hak := (of_decide_eq_true (mem_filter.mp ha).2).1
    have hbk := (of_decide_eq_true (mem_filter.mp hb).2).1
    exact hab (hak.trans hbk.symm)
  have hne : (selectRows table stream after now).Pairwise
      (fun a b => a.sequence ≠ b.sequence) :=
    (mergeSort_perm _ _).symm.pairwise hfi (fun hab => Ne.symm hab)
  apply (hle.and hne).imp
  intro a b hab
  have := hab.2
  have := of_decide_eq_true hab.1
  omega

theorem selectRows_filter (h : table.Valid) (haf : 0 ≤ after) :
    (selectRows table stream 0 now).filter (fun row => after < row.sequence) =
      selectRows table stream after now := by
  have hpe : ((selectRows table stream 0 now).filter (fun row => after < row.sequence)).Perm
      (selectRows table stream after now) := by
    apply ((mergeSort_perm _ _).filter _).trans
    rw [filter_filter]
    apply Perm.trans _ (mergeSort_perm _ _).symm
    apply Perm.of_eq
    apply filter_congr
    intro row hrow
    rw [← Bool.decide_and, decide_eq_decide]
    constructor
    · rintro ⟨hlt, hkey, -, hli⟩
      exact ⟨hkey, hlt, hli⟩
    · rintro ⟨hkey, hlt, hli⟩
      exact ⟨hlt, hkey, by omega, hli⟩
  apply hpe.eq_of_pairwise _ ((selectRows_sorted h).filter _) (selectRows_sorted h)
  intro a b _ _ hab hba
  omega

theorem mapM_eq_filterMap {α β : Type} {f : α → Option β} {l : List α}
    (h : ∀ a ∈ l, (f a).isSome = true) : l.mapM f = some (l.filterMap f) := by
  induction l with
  | nil => rfl
  | cons a l ih =>
    obtain ⟨b, hb⟩ := Option.isSome_iff_exists.mp (h a mem_cons_self)
    have hre := ih (fun other hmem => h other (mem_cons_of_mem _ hmem))
    simp [mapM_cons, hb, hre]

def liveRecords (table : Table) (stream : DurableStreamKey) (now : DateTimeOffset) :
    List DurableRecord :=
  (selectRows table stream 0 now).filterMap Row.toRecord

theorem accepted_of_mem_selectRows (h : table.Valid) (hki : stream.kind ≠ .taskStatus)
    (hrow : row ∈ selectRows table stream after now) : row.Accepted := by
  obtain ⟨hmem, hkey, -, -⟩ := mem_selectRows.mp hrow
  exact h.accepted row hmem (by rwa [hkey])

theorem mem_liveRecords (h : table.Valid) (hki : stream.kind ≠ .taskStatus)
    {record : DurableRecord} (hre : record ∈ liveRecords table stream now) :
    ∃ row ∈ table, row.key = stream ∧ row.toRecord = some record ∧
      record.sequence = row.sequence ∧ row.Accepted := by
  obtain ⟨row, hrow, hto⟩ := mem_filterMap.mp hre
  have hac := accepted_of_mem_selectRows h hki hrow
  obtain ⟨hmem, hkey, -, -⟩ := mem_selectRows.mp hrow
  obtain ⟨back, hba, hse, -⟩ := hac.toRecord
  rw [hba] at hto
  cases hto
  exact ⟨row, hmem, hkey, hba, hse, hac⟩

theorem filterMap_toRecord_sorted {rows : List Row} (hac : ∀ row ∈ rows, row.Accepted)
    (hso : rows.Pairwise (fun a b => a.sequence < b.sequence)) :
    (rows.filterMap Row.toRecord).Pairwise (fun a b => a.sequence < b.sequence) := by
  rw [pairwise_filterMap]
  apply hso.imp_of_mem
  intro a b ha hb hab c hc d hd
  obtain ⟨c', hc', hcs, -⟩ := (hac a ha).toRecord
  obtain ⟨d', hd', hds, -⟩ := (hac b hb).toRecord
  rw [hc'] at hc
  rw [hd'] at hd
  cases hc
  cases hd
  rwa [hcs, hds]

theorem liveRecords_sorted (h : table.Valid) (hki : stream.kind ≠ .taskStatus) :
    (liveRecords table stream now).Pairwise (fun a b => a.sequence < b.sequence) :=
  filterMap_toRecord_sorted (fun _ hrow => accepted_of_mem_selectRows h hki hrow)
    (selectRows_sorted h)

theorem liveRecords_filter (h : table.Valid) (hki : stream.kind ≠ .taskStatus)
    (haf : 0 ≤ after) :
    (liveRecords table stream now).filter (fun record => after < record.sequence) =
      (selectRows table stream after now).filterMap Row.toRecord := by
  rw [← selectRows_filter h haf, liveRecords, filter_filterMap, filterMap_filter]
  apply filterMap_congr
  intro row hrow
  obtain ⟨record, hre, hse, -⟩ := (accepted_of_mem_selectRows h hki hrow).toRecord
  by_cases hlt : after < row.sequence <;> simp [hre, hse, hlt, Option.filter]

theorem readAsync_eq (h : table.Valid) (hva : stream.isValid = true)
    (hki : stream.kind ≠ .taskStatus) (haf : 0 ≤ after) (hli : 1 ≤ limit ∧ limit ≤ 1000) :
    readAsync table stream after limit now =
      .ok (((selectRows table stream after now).take limit.toNat).filterMap Row.toRecord) := by
  have hso : ∀ row ∈ (selectRows table stream after now).take limit.toNat,
      row.toRecord.isSome = true := by
    intro row hrow
    obtain ⟨record, hre, -⟩ :=
      (accepted_of_mem_selectRows h hki (mem_of_mem_take hrow)).toRecord
    rw [hre]
    rfl
  rw [readAsync, if_neg (by rw [hva]; simp; omega), mapM_eq_filterMap hso]

theorem readRecords_spec (h : table.Valid) {identity : RealtimeIdentity} {streamId : Option Text}
    {kind : DurableRecordKind}
    (hstr : stream = ⟨some identity.tenantId, some identity.userId, streamId, kind⟩)
    (hva : stream.isValid = true) (hki : kind ≠ .taskStatus)
    (hli : 1 ≤ limit ∧ limit ≤ 1000) (haf : 0 ≤ after ∧ after ≤ maximumSafeInteger) :
    ∃ page, readRecords table now (some identity) ⟨streamId, kind, after, limit⟩ = .ok page ∧
      (pageBody page).length ≤ maximumResponseBytes ∧
      IsPage DurableRecord.sequence (liveRecords table stream now) after page := by
  have hst : stream.kind ≠ .taskStatus := by rwa [hstr]
  let rows := (selectRows table stream after now).take (min limit 100).toNat
  have hrea : readAsync table stream after (min limit 100) now =
      .ok (rows.filterMap Row.toRecord) :=
    readAsync_eq h hva hst haf.1 (by omega)
  have hac : ∀ row ∈ rows, row.Accepted := fun row hrow =>
    accepted_of_mem_selectRows h hst (mem_of_mem_take hrow)
  have hbo : ∀ record ∈ rows.filterMap Row.toRecord,
      record.sequence ≤ maximumSafeInteger ∧ record.encode.length ≤ 65534 := by
    intro record hre
    obtain ⟨row, hrow, hto⟩ := mem_filterMap.mp hre
    obtain ⟨back, hba, hse, hsi⟩ := (hac row hrow).toRecord
    rw [hba] at hto
    cases hto
    exact ⟨by rw [hse]; exact (hac row hrow).safe, hsi⟩
  have hfi : 2 = (pageBody []).length := rfl
  obtain ⟨page, hpa, -, hsub, hbod, hem⟩ := fillPage_spec hfi (by decide)
    (fun record hmem => (hbo record hmem).1) (fun record hmem => (hbo record hmem).2)
  refine ⟨page, ?_, hbod, ?_, ?_⟩
  · rw [readRecords]
    simp only
    rw [if_neg (by omega), if_neg (by simp [hki]; omega), ← hstr, hrea]
    exact hpa
  · rw [liveRecords_filter h hst haf.1]
    exact hsub.trans (( take_prefix _ _).filterMap _)
  · intro hnil
    rw [liveRecords_filter h hst haf.1]
    have hro : rows = [] := by
      apply eq_nil_iff_forall_not_mem.mpr
      intro row hrow
      obtain ⟨record, hre, -⟩ := (hac row hrow).toRecord
      have hmem : record ∈ rows.filterMap Row.toRecord :=
        mem_filterMap.mpr ⟨row, hrow, hre⟩
      rw [hem hnil] at hmem
      cases hmem
    have hsel : selectRows table stream after now = [] := by
      rcases take_eq_nil_iff.mp hro with hze | hno
      · omega
      · exact hno
    rw [hsel]
    rfl

end

/-- A reader of an inbox stream, with the clock of the store at each of its calls. -/
def readInbox (table : Table) (clock : Nat → DateTimeOffset) (identity : RealtimeIdentity)
    (streamId : Option Text) (kind : DurableRecordKind) (limit : Int) (calls : Nat) :
    Option (List DurableRecord) :=
  readPages DurableRecord.sequence (fun call after =>
    (readRecords table (clock call) (some identity) ⟨streamId, kind, after, limit⟩).toOption)
    calls 0 0

section

variable {table : Table} {stream : DurableStreamKey} {identity : RealtimeIdentity}
  {streamId : Option Text} {kind : DurableRecordKind} {limit : Int}

theorem le_of_page_nil (h : table.Valid) (hki : stream.kind ≠ .taskStatus) {after : Int}
    {now : DateTimeOffset} (haf : 0 ≤ after)
    (hpa : IsPage DurableRecord.sequence (liveRecords table stream now) after []) {row : Row}
    (hrow : row ∈ table) (hkey : row.key = stream) (hli : row.isLive now = true) :
    row.sequence ≤ after := by
  by_contra hlt
  have hse : row ∈ selectRows table stream after now :=
    mem_selectRows.mpr ⟨hrow, hkey, by omega, hli⟩
  obtain ⟨record, hre, -⟩ := (accepted_of_mem_selectRows h hki hse).toRecord
  have hmem : record ∈ (selectRows table stream after now).filterMap Row.toRecord :=
    mem_filterMap.mpr ⟨row, hse, hre⟩
  rw [← liveRecords_filter h hki haf, hpa.nonempty rfl] at hmem
  cases hmem

theorem readInbox_spec (h : table.Valid)
    (hstr : stream = ⟨some identity.tenantId, some identity.userId, streamId, kind⟩)
    (hva : stream.isValid = true) (hki : kind ≠ .taskStatus)
    (hlim : 1 ≤ limit ∧ limit ≤ 1000) (clock : Nat → DateTimeOffset) :
    ∃ received,
      readInbox table clock identity streamId kind limit (table.length + 1) = some received ∧
      received.Pairwise (fun a b => a.sequence < b.sequence) ∧
      (∀ record ∈ received, ∃ row ∈ table, row.key = stream ∧ row.toRecord = some record) ∧
      ∀ row ∈ table, row.key = stream → (∀ call ≤ table.length, row.isLive (clock call) = true) →
        ∃ record ∈ received, row.toRecord = some record := by
  have hst : stream.kind ≠ .taskStatus := by rwa [hstr]
  let rows := (table.filter (fun row => row.key = stream)).filterMap Row.toRecord
  have hro : ∀ call, ∀ record ∈ liveRecords table stream (clock call), record ∈ rows := by
    intro call record hre
    obtain ⟨row, hrow, hkey, hto, -⟩ := mem_liveRecords h hst hre
    exact mem_filterMap.mpr ⟨row, mem_filter.mpr ⟨hrow, decide_eq_true hkey⟩, hto⟩
  have hgo : ∀ record ∈ rows,
      0 ≤ record.sequence ∧ record.sequence ≤ maximumSafeInteger := by
    intro record hre
    obtain ⟨row, hrow, hto⟩ := mem_filterMap.mp hre
    obtain ⟨hmem, hkey⟩ := mem_filter.mp hrow
    have hac := h.accepted row hmem (by rwa [of_decide_eq_true hkey])
    obtain ⟨back, hba, hse, -⟩ := hac.toRecord
    rw [hba] at hto
    cases hto
    have hpos := hac.pos
    have hsa := hac.safe
    omega
  have hle : (rows.filter (fun record => (0 : Int) < record.sequence)).length <
      table.length + 1 := by
    have hfi := length_filter_le (fun record : DurableRecord => (0 : Int) < record.sequence)
      rows
    have hmap := length_filterMap_le Row.toRecord (table.filter (fun row => row.key = stream))
    have hta := length_filter_le (fun row : Row => row.key = stream) table
    change rows.length ≤ _ at hmap
    omega
  have hfe : ∀ call after, 0 ≤ after ∧ after ≤ maximumSafeInteger → ∃ page,
      (readRecords table (clock call) (some identity) ⟨streamId, kind, after, limit⟩).toOption =
        some page ∧
      IsPage DurableRecord.sequence (liveRecords table stream (clock call)) after page := by
    intro call after haf
    obtain ⟨page, hpa, -, his⟩ := readRecords_spec h hstr hva hki hlim haf
    exact ⟨page, by rw [hpa]; rfl, his⟩
  obtain ⟨received, hrec, hso, hmem, hco⟩ :=
    readPages_spec (fun call => liveRecords_sorted h hst) hro hgo hfe
      (by decide) hle
  refine ⟨received, hrec, hso, ?_, ?_⟩
  · intro record hre
    obtain ⟨-, call, hli⟩ := hmem record hre
    obtain ⟨row, hrow, hkey, hto, -⟩ := mem_liveRecords h hst hli
    exact ⟨row, hrow, hkey, hto⟩
  · intro row hrow hkey hli
    have hac := h.accepted row hrow (by rwa [hkey])
    obtain ⟨record, hre, hse, -⟩ := hac.toRecord
    have hpos := hac.pos
    refine ⟨record, hco record ?_ (by omega), hre⟩
    intro call hca
    have hsel : row ∈ selectRows table stream 0 (clock call) :=
      mem_selectRows.mpr ⟨hrow, hkey, by omega, hli call (by omega)⟩
    exact mem_filterMap.mpr ⟨row, hsel, hre⟩

end

/-- Every page of every stream answers within its budget, is empty only at the end, and paging
returns each record that stays live once, in order, within one call more than there are rows. -/
theorem inbox_paging {labels : List StoreStep} {table : Table}
    (hrun : Table.step.run [] labels = some table) {identity : RealtimeIdentity}
    {streamId : Option Text} {kind : DurableRecordKind} {stream : DurableStreamKey}
    (hstream : stream = ⟨some identity.tenantId, some identity.userId, streamId, kind⟩)
    (hvalid : stream.isValid = true) (hkind : kind ≠ .taskStatus) {limit : Int}
    (hlimit : 1 ≤ limit ∧ limit ≤ 1000) :
    (∀ now after, 0 ≤ after → after ≤ maximumSafeInteger →
      ∃ page, readRecords table now (some identity) ⟨streamId, kind, after, limit⟩ = .ok page ∧
        (pageBody page).length ≤ 65536 ∧
        (page = [] → ∀ row ∈ table, row.key = stream → row.isLive now = true →
          row.sequence ≤ after)) ∧
    ∀ clock, ∃ received,
      readInbox table clock identity streamId kind limit (table.length + 1) = some received ∧
      received.Pairwise (fun a b => a.sequence < b.sequence) ∧
      (∀ record ∈ received, ∃ row ∈ table, row.key = stream ∧ row.toRecord = some record) ∧
      ∀ row ∈ table, row.key = stream → (∀ call ≤ table.length, row.isLive (clock call) = true) →
        ∃ record ∈ received, row.toRecord = some record := by
  have h := Table.valid_of_run hrun
  refine ⟨?_, readInbox_spec h hstream hvalid hkind hlimit⟩
  intro now after hze hsa
  obtain ⟨page, hpa, hbo, his⟩ := readRecords_spec h hstream hvalid hkind hlimit ⟨hze, hsa⟩
  refine ⟨page, hpa, hbo, ?_⟩
  rintro rfl row hrow hkey hli
  exact le_of_page_nil h (by rwa [hstream]) hze his hrow hkey hli

/-- A record that was accepted, and that is neither acknowledged nor expired since, is read back. -/
theorem appended_read_back {before after : List StoreStep} {table stored final : Table}
    {request : PersistenceAppendRequest} {record : DurableRecord} {payload : Text}
    {identity : RealtimeIdentity} {stream : DurableStreamKey}
    (hbefore : Table.step.run [] before = some table)
    (happend : workerAppend table true request = .ok stored)
    (hrecord : request.record = some record) (hpayload : record.payload = some payload)
    (hafter : Table.step.run stored after = some final)
    (hstream : stream = ⟨some identity.tenantId, some identity.userId, request.streamId,
      request.kind⟩)
    (howner : request.tenantId = stream.tenantId ∧ request.ownerId = stream.ownerId)
    (hvalid : stream.isValid = true) (hkind : request.kind ≠ .taskStatus) {limit : Int}
    (hlimit : 1 ≤ limit ∧ limit ≤ 1000)
    (hkeeps : ∀ label ∈ after, Table.keeps (rowOf stream record payload) label = true)
    {clock : Nat → DateTimeOffset}
    (hlive : ∀ call, (rowOf stream record payload).isLive (clock call) = true) :
    ∃ received, readInbox final clock identity request.streamId request.kind limit
        (final.length + 1) = some received ∧
      ∃ read ∈ received, (rowOf stream record payload).toRecord = some read := by
  have hval : stored.Valid := by
    have hst : Table.step table (.append true request) = some stored := by
      simp only [Table.step, happend]
    exact (Table.valid_of_run hbefore).step hst
  have hrow : rowOf stream record payload ∈ stored := by
    obtain ⟨other, ho, -, -, ha⟩ := Table.workerAppend_eq_ok happend
    cases hrecord.symm.trans ho
    obtain ⟨text, ht, -, -, rfl⟩ := Table.appendAsync_eq_ok ha
    cases hpayload.symm.trans ht
    have hkey : (⟨request.tenantId, request.ownerId, request.streamId, request.kind⟩ :
        DurableStreamKey) = stream := by rw [howner.1, howner.2, hstream]
    rw [hkey]
    exact mem_append_right _ (mem_singleton_self _)
  have hfin : final.Valid :=
    StepFn.run_induct (fun _ _ _ hs ht => Table.Valid.step hs ht) hval hafter
  obtain ⟨received, hre, -, -, hall⟩ := readInbox_spec hfin hstream hvalid hkind hlimit clock
  exact ⟨received, hre,
    hall _ (Table.mem_of_run hrow hkeeps hafter) rfl (fun call _ => hlive call)⟩

def newYear : DateTimeOffset where
  utcTicks := 639028224000001234
  offsetMinutes := 60
  utcTicks_lt := by decide
  offset_le := by decide
  local_nonneg := by decide
  local_lt := by decide

def orderAppend (sequence : Int) : StoreStep :=
  .append true ⟨some (utf16 "acme"), some (utf16 "ann"), some (utf16 "orders"), .message,
    some ⟨sequence, some (utf16 "paid"), newYear, none⟩⟩

def orderReader : RealtimeIdentity := ⟨utf16 "acme", utf16 "ann", [], 0, none⟩

theorem eq_three_seven {l : List Int} (hs : l.Pairwise (· < ·)) (hm : ∀ x ∈ l, x = 3 ∨ x = 7)
    (h3 : 3 ∈ l) (h7 : 7 ∈ l) : l = [3, 7] := by
  rcases l with _ | ⟨a, _ | ⟨b, _ | ⟨c, l⟩⟩⟩
  · cases h3
  all_goals simp only [pairwise_cons, mem_cons, forall_eq_or_imp, forall_eq, not_mem_nil,
    or_false] at hs hm h3 h7
  · omega
  · have hab := hs.1
    simp only [cons.injEq, and_true]
    omega
  · omega

theorem inbox_paging_orders : ∃ table received,
    Table.step.run [] [orderAppend 7, orderAppend 3] = some table ∧
    readInbox table (fun _ => newYear) orderReader (some (utf16 "orders")) .message 1 3 =
      some received ∧ received.map DurableRecord.sequence = [3, 7] := by
  obtain ⟨table, hrun, hle, hlive, hrows⟩ : ∃ table,
      Table.step.run [] [orderAppend 7, orderAppend 3] = some table ∧ table.length = 2 ∧
      (∀ row ∈ table, row.isLive newYear = true ∧ row.key = ⟨some (utf16 "acme"),
        some (utf16 "ann"), some (utf16 "orders"), .message⟩) ∧
      table.map Row.sequence = [7, 3] :=
    ⟨_, rfl, rfl, by decide +kernel, rfl⟩
  have hst : (⟨some (utf16 "acme"), some (utf16 "ann"), some (utf16 "orders"), .message⟩ :
      DurableStreamKey) = ⟨some orderReader.tenantId, some orderReader.userId,
        some (utf16 "orders"), .message⟩ := rfl
  have hli : (1 : Int) ≤ 1 ∧ (1 : Int) ≤ 1000 := by decide
  obtain ⟨-, hrea⟩ := inbox_paging hrun hst (by decide +kernel) (by decide) hli
  obtain ⟨received, hre, hso, hfrom, hall⟩ := hrea (fun _ => newYear)
  rw [hle] at hre
  have hseq {row : Row} {record : DurableRecord} (ht : row.toRecord = some record) :
      record.sequence = row.sequence := by
    unfold Row.toRecord at ht
    split at ht <;> cases ht <;> rfl
  have hin (row : Row) (hr : row ∈ table) :
      row.sequence ∈ received.map DurableRecord.sequence := by
    obtain ⟨record, hmem, hto⟩ := hall row hr (hlive row hr).2 (fun _ _ => (hlive row hr).1)
    exact mem_map.mpr ⟨record, hmem, hseq hto⟩
  refine ⟨table, received, hrun, hre, eq_three_seven (pairwise_map.mpr hso) ?_ ?_ ?_⟩
  · rintro x hx
    obtain ⟨record, hmem, rfl⟩ := mem_map.mp hx
    obtain ⟨row, hr, -, hto⟩ := hfrom record hmem
    have hx : row.sequence ∈ [7, 3] := hrows ▸ mem_map_of_mem hr
    rw [hseq hto]
    simpa [or_comm] using hx
  · obtain ⟨row, hr, he⟩ := mem_map.mp (show (3 : Int) ∈ table.map Row.sequence by simp [hrows])
    exact he ▸ hin row hr
  · obtain ⟨row, hr, he⟩ := mem_map.mp (show (7 : Int) ∈ table.map Row.sequence by simp [hrows])
    exact he ▸ hin row hr

end Realtime.Persistence
