import Lune.Lib.Queries
import Lune.Store.PoolTokens
import Lune.Store.RequestLogs

/-!
# Data retention

`GetDataRetentionPreview` and `PruneDataRetention` of
`internal/store/settings_features.go`, on the five tables that they are about and
the settings in which a prune is recorded.  The driver may refuse any statement; a
prune is one transaction, and one that fails leaves the tables as they were.

Both compute their cut-offs with `AddDate`, here for the whole days that fit the 64
bits of a time.
-/

namespace Lune.Store.Retention

open GoText Keyed Queries Calendar TimeText

/-! ## Rows -/

/-- A row of `notification_deliveries`, as far as retention reads it. -/
structure DeliveryRow where
  id : Int
  createdAt : Str

/-- A row of `notification_outbox`, as far as retention reads it. -/
structure OutboxRow where
  id : Int
  status : Str
  createdAt : Str

/-- A row of `operations`. -/
structure OperationRow where
  id : Int
  operationID : Str
  operationType : Str := []
  source : Str := []
  targetType : Str := []
  targetID : Str := []
  targetSummary : Str := []
  status : Str := []
  errorCode : Str := []
  safeErrorMessage : Str := []
  correlationID : Str := []
  startedAt : Str := []
  finishedAt : Str := []
  createdAt : Str := []
deriving DecidableEq

/-- A row of `operation_items`, as far as a prune writes it. -/
structure OperationItemRow where
  id : Int
  operationID : Str
  itemIndex : Int := 0
  action : Str := []
  status : Str := []
  safeErrorMessage : Str := []
  stage : Str := []
  createdAt : Str := []

/-- The tables; the number of an operation is `UNIQUE`. -/
structure Tables where
  requestLogs : Table RequestLogRow.id := Table.empty
  deliveries : Table DeliveryRow.id := Table.empty
  outbox : Table OutboxRow.id := Table.empty
  operations : Table OperationRow.id := Table.empty
  operationItems : Table OperationItemRow.id := Table.empty
  systemConfig : GoMap Str Str := Table.empty
  unique : (operations.rows.map OperationRow.operationID).Nodup := by exact List.nodup_nil

/-! ## The newest operations -/

/-- `datetime(r.created_at) > datetime(s.created_at)`, where `NULL` comes below the
dates. -/
def laterDatetime : Option Str → Option Str → Prop
  | some s, some t => t < s
  | some _, none => True
  | none, _ => False

instance : ∀ s t, Decidable (laterDatetime s t)
  | some s, some t => inferInstanceAs (Decidable (t < s))
  | some _, none => .isTrue trivial
  | none, none => .isFalse id
  | none, some _ => .isFalse id

/-- `ORDER BY datetime(created_at) DESC, id DESC`. -/
def newestFirst (now : Clock) (o o' : OperationRow) : Prop :=
  laterDatetime (Sqlite.datetime now.seconds o.createdAt) (Sqlite.datetime now.seconds o'.createdAt) ∨
    Sqlite.datetime now.seconds o.createdAt = Sqlite.datetime now.seconds o'.createdAt ∧ o'.id ≤ o.id

instance (now : Clock) (o o' : OperationRow) : Decidable (newestFirst now o o') :=
  inferInstanceAs (Decidable (_ ∨ _ ∧ _))

/-- The table `keep` of the statements. -/
def keep (now : Clock) (operations : List OperationRow) : List OperationRow :=
  (operations.insertionSort (newestFirst now)).take 200

/-! ## The preview -/

/-- `safetyDays`. -/
def safetyDays (retentionDays : Int) : Int := if retentionDays < 7 then 7 else retentionDays

/-- `time.Now().UTC().AddDate(0, 0, -days).Format("2006-01-02 15:04:05")`. -/
def cutoff (now : Clock) (days : Int) : Str := now.agoText (days.toNat * day)

namespace Tables

/-- `operations o LEFT JOIN keep k ON k.operation_id = o.operation_id`. -/
def operationsWithKeep (t : Tables) (now : Clock) : List (OperationRow × Option OperationRow) :=
  leftJoin (fun o k => k.operationID == o.operationID) t.operations.rows
    (keep now t.operations.rows)

/-- `operation_items oi JOIN operations o ON o.operation_id = oi.operation_id`. -/
def itemsWithOperations (t : Tables) : List (OperationItemRow × OperationRow) :=
  innerJoin (fun oi o => o.operationID == oi.operationID) t.operationItems.rows t.operations.rows

/-- The count of the operation items to delete. -/
def countExpiredItems (t : Tables) (now : Clock) (cutoff : Str) : Nat :=
  (leftJoin (fun (oi, _) k => k.operationID == oi.operationID) t.itemsWithOperations
    (keep now t.operations.rows)).countP fun r => r.2.isNone && decide (r.1.2.createdAt < cutoff)

/-- The operations of a query whose `keep` is `NULL` and that are older. -/
def expiredOperations (t : Tables) (now : Clock) (cutoff : Str) :
    List (OperationRow × Option OperationRow) :=
  (t.operationsWithKeep now).filter fun r => r.2.isNone && decide (r.1.createdAt < cutoff)

end Tables

/-! ## The prune -/

/-- `DataRetentionPruneResult`. -/
structure DataRetentionPruneResult where
  retentionDays : Int
  deletedLogs : Nat := 0
  deletedDeliveries : Nat := 0
  deletedOutbox : Nat := 0
  deletedOperations : Nat := 0
  deletedOperationItems : Nat := 0
deriving DecidableEq

namespace Tables

/-- `DELETE FROM request_logs`, with `RowsAffected`. -/
def deleteRequestLogs (t : Tables) (cutoff : Str) : Tables × Nat :=
  let old := fun r : RequestLogRow => decide (r.createdAt < cutoff)
  ({ t with requestLogs := t.requestLogs.filter fun r => !old r }, t.requestLogs.rows.countP old)

/-- `DELETE FROM notification_deliveries`. -/
def deleteDeliveries (t : Tables) (cutoff : Str) : Tables × Nat :=
  let old := fun r : DeliveryRow => decide (r.createdAt < cutoff)
  ({ t with deliveries := t.deliveries.filter fun r => !old r }, t.deliveries.rows.countP old)

/-- `DELETE FROM notification_outbox`. -/
def deleteOutbox (t : Tables) (cutoff : Str) : Tables × Nat :=
  let old := fun r : OutboxRow => r.status == lit "dropped" && decide (r.createdAt < cutoff)
  ({ t with outbox := t.outbox.filter fun r => !old r }, t.outbox.rows.countP old)

/-- `DELETE FROM operations`, which the items of the operations follow. -/
def deleteOperations (t : Tables) (now : Clock) (cutoff : Str) : Tables × Nat :=
  let expired := (t.expiredOperations now cutoff).map fun r => r.1.operationID
  let old := fun o : OperationRow => expired.contains o.operationID
  ({ t with
      operations := t.operations.filter fun o => !old o
      operationItems := t.operationItems.filter fun oi =>
        !t.operations.rows.any fun o => o.operationID == oi.operationID && old o
      unique := t.unique.sublist (List.filter_sublist.map _) },
    t.operations.rows.countP old)

/-- `INSERT INTO operations`. -/
def insertOperation (t : Tables) (now : Clock) (op : OperationRow) : Option Tables :=
  let row := { op with id := nextRowid t.operations, createdAt := now.datetime }
  if h : op.operationID ∈ t.operations.rows.map OperationRow.operationID then none
  else some { t with
    operations := t.operations.set row
    unique := by
      rw [Table.rows_set_of_fresh (find?_nextRowid t.operations : t.operations.find? row.id = none),
        List.map_append]
      exact List.nodup_append_comm.mp (List.nodup_cons.mpr ⟨h, t.unique⟩) }

/-- `INSERT INTO operation_items`. -/
def insertOperationItem (t : Tables) (now : Clock) (item : OperationItemRow) : Tables :=
  let row := { item with id := nextRowid t.operationItems, createdAt := now.datetime }
  { t with operationItems := t.operationItems.set row }

end Tables

/-- What a prune asks the driver to do. -/
inductive PruneStatement where
  | begins
  | requestLogs
  | deliveries
  | outbox
  | countItems
  | operations
  | prepareRun
  | recordRun (key : Str)
  | recordOperation
  | recordItem (index : Int)
  | commits
deriving DecidableEq

/-- Which statements the driver carries out, `sanitizeOperationMessage` and the `source` of a
prune. -/
structure PruneEnv where
  driver : PruneStatement → Bool
  sanitize : Str → Str
  source : Str

/-- A statement, with what it does when it is carried out. -/
def PruneEnv.exec {α : Type} (env : PruneEnv) (s : PruneStatement) (x : α) : Option α :=
  if env.driver s then some x else none

/-- The deletions of `PruneDataRetention`. -/
def PruneEnv.deleteExpired (env : PruneEnv) (t : Tables) (now : Clock) (retentionDays : Int) :
    Option (Tables × DataRetentionPruneResult) := do
  let old := cutoff now retentionDays
  let (t, deletedLogs) ← env.exec .requestLogs (t.deleteRequestLogs old)
  let (t, deletedDeliveries) ← env.exec .deliveries (t.deleteDeliveries old)
  let (t, deletedOutbox) ← env.exec .outbox (t.deleteOutbox (cutoff now (safetyDays retentionDays)))
  let deletedOperationItems ← env.exec .countItems (t.countExpiredItems now old)
  let (t, deletedOperations) ← env.exec .operations (t.deleteOperations now old)
  return (t, { retentionDays := retentionDays
               deletedLogs := deletedLogs
               deletedDeliveries := deletedDeliveries
               deletedOutbox := deletedOutbox
               deletedOperations := deletedOperations
               deletedOperationItems := deletedOperationItems })

/-- `pruneRunSettings`. -/
def pruneRunSettings (now : Clock) (result : DataRetentionPruneResult) : List (Str × Str) :=
  [(lit "last_prune_at", now.rfc3339),
    (lit "last_prune_deleted_logs", digits result.deletedLogs),
    (lit "last_prune_deleted_deliveries", digits result.deletedDeliveries),
    (lit "last_prune_deleted_outbox", digits result.deletedOutbox),
    (lit "last_prune_deleted_operations", digits result.deletedOperations),
    (lit "last_prune_deleted_operation_items", digits result.deletedOperationItems)]

/-- `recordPruneRunTx`. -/
def PruneEnv.recordPruneRun (env : PruneEnv) (t : Tables) (now : Clock)
    (result : DataRetentionPruneResult) : Option Tables := do
  let t ← env.exec .prepareRun t
  Runs.exec (fun t setting => env.exec (.recordRun setting.1)
    { t with systemConfig := t.systemConfig.put setting.1 setting.2 }) t (pruneRunSettings now result)

/-- `shouldRecordPruneOperation`. -/
def shouldRecordPruneOperation (result : DataRetentionPruneResult) (source : Str) : Bool :=
  trimSpace source != lit "health_checker" || decide (0 < result.deletedLogs) ||
    decide (0 < result.deletedDeliveries) || decide (0 < result.deletedOutbox) ||
    decide (0 < result.deletedOperations) || decide (0 < result.deletedOperationItems)

/-- `Format("20060102T150405.000000000Z")`. -/
def compactText (now : Clock) : Str :=
  let t := fieldsOf now.seconds
  pad 4 t.year ++ pad 2 t.month ++ pad 2 t.day ++ lit "T" ++ pad 2 t.hour ++ pad 2 t.minute ++
    pad 2 t.second ++ lit "." ++ pad 9 (now.nanos % second) ++ lit "Z"

/-- The operation that `recordDataRetentionPruneOperationTx` writes. -/
def PruneEnv.pruneOperation (env : PruneEnv) (now : Clock) (result : DataRetentionPruneResult) :
    OperationRow :=
  { id := 0
    operationID := lit "op_retention_prune_" ++ compactText now
    operationType := lit "data_retention_prune"
    source := if trimSpace env.source = [] then lit "system" else trimSpace env.source
    targetType := lit "data_retention"
    targetID := itoa result.retentionDays
    targetSummary :=
      lit "retention_days=" ++ itoa result.retentionDays ++
      lit " deleted_logs=" ++ digits result.deletedLogs ++
      lit " deleted_operations=" ++ digits result.deletedOperations ++
      lit " deleted_operation_items=" ++ digits result.deletedOperationItems ++
      lit " deleted_deliveries=" ++ digits result.deletedDeliveries ++
      lit " deleted_outbox=" ++ digits result.deletedOutbox
    status := lit "succeeded"
    safeErrorMessage := env.sanitize []
    startedAt := now.datetime
    finishedAt := now.datetime }

/-- Its items. -/
def PruneEnv.pruneItems (env : PruneEnv) (now : Clock) (result : DataRetentionPruneResult) :
    List OperationItemRow :=
  [(1, lit "request_logs", result.deletedLogs), (2, lit "operations", result.deletedOperations),
    (3, lit "operation_items", result.deletedOperationItems),
    (4, lit "notification_deliveries", result.deletedDeliveries),
    (5, lit "notification_outbox", result.deletedOutbox)].map fun (index, stage, count) =>
      { id := 0
        operationID := (env.pruneOperation now result).operationID
        itemIndex := index
        action := lit "prune"
        status := lit "succeeded"
        safeErrorMessage := env.sanitize (digits count)
        stage := stage }

/-- `recordDataRetentionPruneOperationTx`. -/
def PruneEnv.recordPruneOperation (env : PruneEnv) (t : Tables) (now : Clock)
    (result : DataRetentionPruneResult) : Option Tables := do
  let t ← env.exec .recordOperation t
  let t ← t.insertOperation now (env.pruneOperation now result)
  Runs.exec (fun t item => env.exec (.recordItem item.itemIndex) (t.insertOperationItem now item)) t
    (env.pruneItems now result)

/-- The branch of `PruneDataRetention` on `shouldRecordPruneOperation`. -/
def PruneEnv.recordIfDue (env : PruneEnv) (t : Tables) (now : Clock)
    (result : DataRetentionPruneResult) : Option Tables :=
  if shouldRecordPruneOperation result env.source then env.recordPruneOperation t now result
  else some t

/-- The transaction of `PruneDataRetention`. -/
def PruneEnv.pruneTransaction (env : PruneEnv) (t : Tables) (now : Clock) (retentionDays : Int) :
    Option (Tables × DataRetentionPruneResult) := do
  let t ← env.exec .begins t
  let (t, result) ← env.deleteExpired t now retentionDays
  let t ← env.recordPruneRun t now result
  let t ← env.recordIfDue t now result
  env.exec .commits (t, result)

/-- `PruneDataRetention`. -/
def PruneEnv.pruneDataRetention (env : PruneEnv) (t : Tables) (now : Clock) (retentionDays : Int) :
    Tables × Option DataRetentionPruneResult :=
  if retentionDays ≤ 0 then (t, some { retentionDays := retentionDays })
  else match env.pruneTransaction t now retentionDays with
    | some (t', result) => (t', some result)
    | none => (t, none)

/-! ## What a prune deletes -/

namespace Tables

/-- The other table has no fewer rows, and the same logs, deliveries and outbox. -/
structure Extends (t t' : Tables) : Prop where
  requestLogs : t'.requestLogs = t.requestLogs
  deliveries : t'.deliveries = t.deliveries
  outbox : t'.outbox = t.outbox
  operations : t.operations.rows ⊆ t'.operations.rows
  operationItems : t.operationItems.rows ⊆ t'.operationItems.rows

theorem Extends.refl (t : Tables) : Extends t t :=
  ⟨rfl, rfl, rfl, List.Subset.refl _, List.Subset.refl _⟩

theorem Extends.trans {t t' t'' : Tables} (h : Extends t t') (h' : Extends t' t'') :
    Extends t t'' where
  requestLogs := h'.requestLogs.trans h.requestLogs
  deliveries := h'.deliveries.trans h.deliveries
  outbox := h'.outbox.trans h.outbox
  operations := fun _ ho => h'.operations (h.operations ho)
  operationItems := fun _ hi => h'.operationItems (h.operationItems hi)

end Tables

namespace Tables

variable (t : Tables) (now : Clock) (cutoff : Str)

end Tables

/-! ## The statements of a prune -/

section Transactions

variable {env : PruneEnv} {t t' : Tables} {now : Clock} {retentionDays : Int}
  {result : DataRetentionPruneResult}

end Transactions

end Lune.Store.Retention
