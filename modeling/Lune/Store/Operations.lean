import Lune.Store.Retention

/-!
# The record of operations

`internal/store/operations.go`: what the administration has done, with an item for each thing
that it was done to.  A caller that records an operation a second time replaces what it recorded
before, and a prune deletes the operations that are old.

The two tables come with their constraints: the number of an operation is `UNIQUE`, and an
item belongs to an operation that is there.
-/

namespace Lune.Store

open GoText Keyed
open Retention (OperationRow)

/-! ## What is recorded -/

/-- `OperationItem`, as the caller states it. -/
structure OperationItem where
  itemIndex : Int := 0
  clientFileName : Str := []
  accountKeyHash : Str := []
  action : Str := []
  status : Str := []
  runtimeSync : Str := []
  errorCode : Str := []
  safeErrorMessage : Str := []
  accountID : Int := 0
  poolMemberID : Int := 0
  stage : Str := []
deriving DecidableEq

/-- `Operation`, as the caller states it. -/
structure Operation where
  operationID : Str
  operationType : Str
  source : Str := []
  targetType : Str := []
  targetID : Str := []
  targetSummary : Str := []
  status : Str := []
  errorCode : Str := []
  safeErrorMessage : Str := []
  correlationID : Str := []
  startedAt : Str := []
  finishedAt : Str := []
  items : List OperationItem := []
deriving DecidableEq

/-- A row of `operation_items`. -/
structure OperationItemRow where
  id : Int
  operationID : Str
  itemIndex : Int
  clientFileName : Str
  accountKeyHash : Str
  action : Str
  status : Str
  runtimeSync : Str
  errorCode : Str
  safeErrorMessage : Str
  accountID : Option Int
  poolMemberID : Option Int
  stage : Str
  createdAt : Str

/-- `maxOperationItemsPerRecord`. -/
def maxOperationItemsPerRecord : Nat := 1000

/-- `sanitizeOperationMessage`. -/
def sanitizeOperationMessage (message : Str) : Str :=
  truncateUTF8Bytes (sanitizeRequestLogError message) 2048

/-- `COALESCE(NULLIF(s, ''), datetime('now'))`. -/
def orNow (s : Str) (now : Clock) : Str := if s = [] then now.datetime else s

/-- The columns that both halves of the statement on `operations` write. -/
def Operation.write (op : Operation) (now : Clock) (r : OperationRow) : OperationRow :=
  { r with
    operationType := op.operationType
    source := op.source
    targetType := op.targetType
    targetID := op.targetID
    targetSummary := op.targetSummary
    status := if trimSpace op.status = [] then lit "succeeded" else trimSpace op.status
    errorCode := op.errorCode
    safeErrorMessage := sanitizeOperationMessage op.safeErrorMessage
    correlationID := op.correlationID
    startedAt := orNow op.startedAt now
    finishedAt := orNow op.finishedAt now }

/-- The row of an item. -/
def OperationItem.row (item : OperationItem) (now : Clock) (id : Int) (operationID : Str) :
    OperationItemRow where
  id := id
  operationID := operationID
  itemIndex := item.itemIndex
  clientFileName := item.clientFileName
  accountKeyHash := item.accountKeyHash
  action := item.action
  status := item.status
  runtimeSync := item.runtimeSync
  errorCode := item.errorCode
  safeErrorMessage := sanitizeOperationMessage item.safeErrorMessage
  accountID := if 0 < item.accountID then some item.accountID else none
  poolMemberID := if 0 < item.poolMemberID then some item.poolMemberID else none
  stage := item.stage
  createdAt := now.datetime

/-- The items that are inserted: one without a place gets that of its turn. -/
def Operation.numberedItems (op : Operation) : List OperationItem :=
  (op.items.take maxOperationItemsPerRecord).mapIdx fun i item =>
    if item.itemIndex = 0 then { item with itemIndex := i + 1 } else item

/-! ## The tables -/

/-- `operations` and `operation_items`. -/
structure OperationLog where
  operations : Table OperationRow.id := Table.empty
  items : Table OperationItemRow.id := Table.empty
  unique : (operations.rows.map OperationRow.operationID).Nodup := by exact List.nodup_nil
  owned : ∀ r ∈ items.rows, r.operationID ∈ operations.rows.map OperationRow.operationID := by
    exact fun _ h => absurd h List.not_mem_nil

namespace OperationLog

/-- The numbers of the operations. -/
def numbers (log : OperationLog) : List Str := log.operations.rows.map OperationRow.operationID

/-- The rows of an operation that is recorded again. -/
def rewrite (now : Clock) (op : Operation) (r : OperationRow) : OperationRow :=
  if r.operationID = op.operationID then op.write now r else r

theorem numbers_rewrite (log : OperationLog) (now : Clock) (op : Operation) :
    (log.operations.map (rewrite now op)).rows.map OperationRow.operationID = log.numbers := by
  rw [Table.rows_map log.operations (f := rewrite now op) fun r => by unfold rewrite; split <;> rfl,
    List.map_map]
  refine List.map_congr_left fun r _ => ?_
  show (rewrite now op r).operationID = r.operationID
  unfold rewrite
  split <;> rfl

/-- The row of an operation that is new. -/
def newRow (log : OperationLog) (now : Clock) (op : Operation) : OperationRow :=
  op.write now
    { id := nextRowid log.operations, operationID := op.operationID, createdAt := now.datetime }

theorem rows_newRow (log : OperationLog) (now : Clock) (op : Operation) :
    (log.operations.set (log.newRow now op)).rows = log.operations.rows ++ [log.newRow now op] :=
  Table.rows_set_of_fresh (find?_nextRowid log.operations)

/-- `INSERT INTO operations ... ON CONFLICT(operation_id) DO UPDATE`. -/
def upsert (log : OperationLog) (now : Clock) (op : Operation) : OperationLog :=
  if h : op.operationID ∈ log.numbers then
    { log with
      operations := log.operations.map (rewrite now op)
      unique := by
        rw [numbers_rewrite]
        exact log.unique
      owned := by
        rw [numbers_rewrite]
        exact log.owned }
  else
    { log with
      operations := log.operations.set (log.newRow now op)
      unique := by
        rw [rows_newRow, List.map_append]
        exact List.nodup_append_comm.mp (List.nodup_cons.mpr ⟨h, log.unique⟩)
      owned := fun r hr => by
        rw [rows_newRow, List.map_append]
        exact List.mem_append_left _ (log.owned r hr) }

/-- `DELETE FROM operation_items WHERE operation_id = ?`. -/
def deleteItems (log : OperationLog) (operationID : Str) : OperationLog :=
  { log with
    items := log.items.filter fun r => r.operationID != operationID
    owned := fun r hr => log.owned r (List.mem_of_mem_filter hr) }

theorem rows_insertItem (log : OperationLog) (now : Clock) (operationID : Str)
    (item : OperationItem) :
    (log.items.set (item.row now (nextRowid log.items) operationID)).rows =
      log.items.rows ++ [item.row now (nextRowid log.items) operationID] :=
  Table.rows_set_of_fresh (find?_nextRowid log.items)

/-- `INSERT INTO operation_items`, which the foreign key refuses without the operation. -/
def insertItem (now : Clock) (operationID : Str) (log : OperationLog) (item : OperationItem) :
    Option OperationLog :=
  if h : operationID ∈ log.numbers then
    some { log with
      items := log.items.set (item.row now (nextRowid log.items) operationID)
      owned := fun r hr => by
        rw [rows_insertItem] at hr
        obtain hold | hnew := List.mem_append.mp hr
        · exact log.owned r hold
        · rw [List.mem_singleton.mp hnew]
          exact h }
  else none

/-- `RecordOperation`, in one transaction. -/
def recordOperation (log : OperationLog) (now : Clock) (op : Operation) : Option OperationLog :=
  if isBlank op.operationID || isBlank op.operationType then none
  else op.numberedItems.foldlM (insertItem now op.operationID)
    ((log.upsert now op).deleteItems op.operationID)

/-! ## Reading -/

/-- What `scanOperationItemRows` makes of a row, but for its number and its time. -/
def scanOperationItem (r : OperationItemRow) : OperationItem where
  itemIndex := r.itemIndex
  clientFileName := r.clientFileName
  accountKeyHash := r.accountKeyHash
  action := r.action
  status := r.status
  runtimeSync := r.runtimeSync
  errorCode := r.errorCode
  safeErrorMessage := r.safeErrorMessage
  accountID := r.accountID.getD 0
  poolMemberID := r.poolMemberID.getD 0
  stage := r.stage

/-- `ORDER BY item_index, id`. -/
def itemLe (r r' : OperationItemRow) : Prop :=
  r.itemIndex < r'.itemIndex ∨ r.itemIndex = r'.itemIndex ∧ r.id ≤ r'.id

instance (r r' : OperationItemRow) : Decidable (itemLe r r') :=
  inferInstanceAs (Decidable (_ ∨ _ ∧ _))

/-- `ListOperationItems`. -/
def listOperationItems (log : OperationLog) (operationID : Str) : List OperationItemRow :=
  (log.items.rows.filter fun r => r.operationID == operationID).insertionSort itemLe

/-- `GetOperation`: the row and those of the items. -/
def getOperation (log : OperationLog) (operationID : Str) :
    Option (OperationRow × List OperationItemRow) :=
  (log.operations.rows.find? fun r => r.operationID == operationID).map fun r =>
    (r, log.listOperationItems operationID)

/-! ## The prune -/

/-- The operations that `PruneDataRetention` deletes. -/
def expired (log : OperationLog) (now : Clock) (cutoff : Str) : List Str :=
  (({ operations := log.operations, unique := log.unique } : Retention.Tables).expiredOperations
    now cutoff).map fun r => r.1.operationID

/-- `DELETE FROM operations`, which the items of the operations follow. -/
def deleteExpired (log : OperationLog) (now : Clock) (cutoff : Str) : OperationLog :=
  { operations := log.operations.filter fun o => !(log.expired now cutoff).contains o.operationID
    items := log.items.filter fun r => !(log.expired now cutoff).contains r.operationID
    unique := log.unique.sublist (List.filter_sublist.map _)
    owned := fun r hr => by
      obtain ⟨hmem, hkept⟩ := List.mem_filter.mp hr
      obtain ⟨o, ho, heq⟩ := List.mem_map.mp (log.owned r hmem)
      refine List.mem_map.mpr ⟨o, List.mem_filter.mpr ⟨ho, ?_⟩, heq⟩
      rw [heq]
      exact hkept }

/-- The part of `PruneDataRetention` that is about operations.  The operation that it records
of itself has to be new, else the whole transaction is rolled back. -/
def prune (log : OperationLog) (now : Clock) (cutoff : Str) : Option Operation → OperationLog
  | none => log.deleteExpired now cutoff
  | some own =>
    if own.operationID ∈ (log.deleteExpired now cutoff).numbers then log
    else ((log.deleteExpired now cutoff).recordOperation now own).getD log

/-! ## Items come back in their order -/

/-- Rows whose numbers grow are sorted as their places are, equal places as they stand. -/
theorem insertionSort_itemLe {rows : List OperationItemRow}
    (h : rows.Pairwise fun r r' => r.id < r'.id) :
    rows.insertionSort itemLe = rows.insertionSort fun r r' => r.itemIndex ≤ r'.itemIndex := by
  induction rows with
  | nil => rfl
  | cons r rows ih =>
    obtain ⟨hfirst, hrest⟩ := List.pairwise_cons.mp h
    rw [List.insertionSort_cons, List.insertionSort_cons, ih hrest]
    have hmem : ∀ r' ∈ rows.insertionSort (fun r r' => r.itemIndex ≤ r'.itemIndex), r.id < r'.id :=
      fun r' hr' => hfirst r' ((List.mem_insertionSort _).mp hr')
    generalize rows.insertionSort (fun r r' => r.itemIndex ≤ r'.itemIndex) = sorted at hmem
    induction sorted with
    | nil => rfl
    | cons r' sorted ih' =>
      have hid := hmem r' List.mem_cons_self
      have hsame : itemLe r r' ↔ r.itemIndex ≤ r'.itemIndex := by
        unfold itemLe
        omega
      rw [List.orderedInsert_cons, List.orderedInsert_cons,
        ih' fun r'' hr'' => hmem r'' (List.mem_cons_of_mem _ hr'')]
      simp only [hsame]

end OperationLog

/-- An item as it comes back. -/
def OperationItem.stored (item : OperationItem) : OperationItem :=
  { item with
    safeErrorMessage := sanitizeOperationMessage item.safeErrorMessage
    accountID := if 0 < item.accountID then item.accountID else 0
    poolMemberID := if 0 < item.poolMemberID then item.poolMemberID else 0 }

/-- The operation has a number and a type. -/
def Operation.Named (op : Operation) : Prop :=
  (isBlank op.operationID || isBlank op.operationType) = false

instance (op : Operation) : Decidable op.Named := inferInstanceAs (Decidable (_ = _))

/-- The items as they come back. -/
def Operation.storedItems (op : Operation) : List OperationItem :=
  (op.numberedItems.map OperationItem.stored).insertionSort fun a b => a.itemIndex ≤ b.itemIndex

namespace OperationLog

variable {log log' : OperationLog} {now : Clock} {op : Operation} {id : Str}

theorem scanOperationItem_row (item : OperationItem) (now : Clock) (n : Int) (id : Str) :
    scanOperationItem (item.row now n id) = item.stored := by
  unfold scanOperationItem OperationItem.row OperationItem.stored
  simp only [OperationItem.mk.injEq, true_and, and_true]
  refine ⟨?_, ?_⟩ <;> split <;> rfl

/-- The rows that the loop over the items adds. -/
theorem rows_of_inserts {items : List OperationItem}
    (h : items.foldlM (insertItem now id) log = some log') :
    log'.operations = log.operations ∧ ∃ rows, log'.items.rows = log.items.rows ++ rows ∧
      rows.map scanOperationItem = items.map OperationItem.stored ∧
      rows.Pairwise (fun r r' => r.id < r'.id) ∧
      ∀ r ∈ rows, r.operationID = id ∧ nextRowid log.items ≤ r.id := by
  induction items generalizing log with
  | nil =>
    obtain rfl := Option.some.inj h
    exact ⟨rfl, [], (List.append_nil _).symm, rfl, List.Pairwise.nil,
      fun _ hr => absurd hr List.not_mem_nil⟩
  | cons item items ih =>
    rw [List.foldlM_cons] at h
    obtain ⟨mid, hmid, hrest⟩ := Option.bind_eq_some_iff.mp h
    unfold insertItem at hmid
    split at hmid
    · obtain rfl := Option.some.inj hmid
      obtain ⟨hops, rows, hrows, hscan, hids, hall⟩ := ih hrest
      have hnext : nextRowid log.items <
          nextRowid (log.items.set (item.row now (nextRowid log.items) id)) := by
        refine lt_nextRowid (r := item.row now (nextRowid log.items) id) ?_
        rw [rows_insertItem]
        exact List.mem_append_right _ (List.mem_singleton_self _)
      refine ⟨hops, item.row now (nextRowid log.items) id :: rows, ?_, ?_, ?_, ?_⟩
      · rw [hrows]
        show (log.items.set _).rows ++ rows = _
        rw [rows_insertItem, List.append_assoc]
        rfl
      · rw [List.map_cons, List.map_cons, hscan, scanOperationItem_row]
      · refine List.pairwise_cons.mpr ⟨fun r hr => ?_, hids⟩
        exact Int.lt_of_lt_of_le hnext (hall r hr).2
      · intro r hr
        obtain rfl | hr := List.mem_cons.mp hr
        · exact ⟨rfl, Int.le_refl _⟩
        · exact ⟨(hall r hr).1, Int.le_trans (Int.le_of_lt hnext) (hall r hr).2⟩
    · contradiction

/-- An operation that is there takes its items. -/
theorem inserts_isSome (h : id ∈ log.numbers) (items : List OperationItem) :
    (items.foldlM (insertItem now id) log).isSome = true := by
  induction items generalizing log with
  | nil => rfl
  | cons item items ih =>
    rw [List.foldlM_cons, insertItem, dif_pos h]
    exact ih h

theorem mem_numbers_upsert (log : OperationLog) (now : Clock) (op : Operation) :
    op.operationID ∈ (log.upsert now op).numbers := by
  unfold upsert
  split
  next h =>
    show op.operationID ∈ (log.operations.map (rewrite now op)).rows.map OperationRow.operationID
    rw [numbers_rewrite]
    exact h
  · show op.operationID ∈ (log.operations.set _).rows.map OperationRow.operationID
    rw [rows_newRow, List.map_append]
    exact List.mem_append_right _ (List.mem_singleton_self _)

/-- The row of an operation. -/
def row? (log : OperationLog) (id : Str) : Option OperationRow :=
  log.operations.rows.find? fun r => r.operationID == id

theorem row?_eq_none : log.row? id = none ↔ id ∉ log.numbers := by
  unfold row? numbers
  rw [List.find?_eq_none, List.mem_map]
  simp only [beq_iff_eq, not_exists, not_and]

/-- The row after the statement on `operations`. -/
theorem row?_upsert (log : OperationLog) (now : Clock) (op : Operation) (id : Str) :
    (log.upsert now op).row? id =
      if id = op.operationID then some (op.write now ((log.row? id).getD (log.newRow now op)))
      else log.row? id := by
  unfold upsert
  split
  next h =>
    show ((log.operations.map (rewrite now op)).rows.find? fun r => r.operationID == id) = _
    rw [Table.rows_map log.operations (f := rewrite now op) fun r => by unfold rewrite; split <;> rfl,
      List.find?_map]
    have hkey : ((fun r : OperationRow => r.operationID == id) ∘ rewrite now op) =
        fun r => r.operationID == id := by
      funext r
      show ((rewrite now op r).operationID == id) = _
      unfold rewrite
      split <;> rfl
    rw [hkey]
    show (log.row? id).map (rewrite now op) = _
    cases hrow : log.row? id with
    | none =>
      have hne : id ≠ op.operationID := by
        rintro rfl
        exact row?_eq_none.mp hrow h
      rw [if_neg hne]
      rfl
    | some r =>
      have hid : r.operationID = id := by simpa using List.find?_some hrow
      rw [Option.map_some, rewrite, hid]
      split <;> rfl
  next h =>
    show ((log.operations.set (log.newRow now op)).rows.find? fun r => r.operationID == id) = _
    rw [rows_newRow, List.find?_append]
    show (log.row? id).or _ = _
    by_cases hid : id = op.operationID
    · subst hid
      rw [row?_eq_none.mpr h, if_pos rfl, Option.none_or]
      exact List.find?_cons_of_pos (beq_self_eq_true op.operationID)
    · rw [if_neg hid, List.find?_cons_of_neg (by simpa using fun heq => hid heq.symm)]
      exact Option.or_none

/-! ## Recording an operation -/

theorem items_of_other {items : List OperationItem} (h : id ≠ op.operationID)
    (hrun : items.foldlM (insertItem now op.operationID) log = some log') :
    log'.items.rows.filter (fun r => r.operationID == id) =
      log.items.rows.filter fun r => r.operationID == id := by
  obtain ⟨-, rows, hrows, -, -, hall⟩ := rows_of_inserts hrun
  have hnone : rows.filter (fun r => r.operationID == id) = [] := by
    refine List.filter_eq_nil_iff.mpr fun r hr => ?_
    rw [(hall r hr).1, beq_iff_eq]
    exact fun heq => h heq.symm
  rw [hrows, List.filter_append, hnone, List.append_nil]

theorem items_upsert (log : OperationLog) (now : Clock) (op : Operation) :
    (log.upsert now op).items = log.items := by
  unfold upsert
  split <;> rfl

/-- An operation that is recorded comes back as it was recorded, with the number and the time of
the row that was there. -/
theorem getOperation_recordOperation (log : OperationLog) (now : Clock) (hop : op.Named) :
    ∃ log', log.recordOperation now op = some log' ∧
      ∃ rows, log'.getOperation op.operationID =
          some (op.write now ((log.row? op.operationID).getD (log.newRow now op)), rows) ∧
        rows.map scanOperationItem = op.storedItems := by
  have hthere : op.operationID ∈ ((log.upsert now op).deleteItems op.operationID).numbers :=
    mem_numbers_upsert log now op
  obtain ⟨log', hlog'⟩ := Option.isSome_iff_exists.mp
    (@inserts_isSome _ now _ hthere op.numberedItems)
  obtain ⟨hops, rows, hrows, hscan, hids, hall⟩ := rows_of_inserts hlog'
  have hrow : log'.row? op.operationID =
      some (op.write now ((log.row? op.operationID).getD (log.newRow now op))) := by
    unfold row?
    rw [hops]
    exact (row?_upsert log now op op.operationID).trans (if_pos rfl)
  have hitems : (log'.items.rows.filter fun r => r.operationID == op.operationID) = rows := by
    have hold : ((log.upsert now op).deleteItems op.operationID).items.rows.filter
        (fun r => r.operationID == op.operationID) = [] := by
      refine List.filter_eq_nil_iff.mpr fun r hr => ?_
      have hne := (List.mem_filter.mp hr).2
      rw [bne_iff_ne] at hne
      rw [beq_iff_eq]
      exact hne
    have hnew : rows.filter (fun r => r.operationID == op.operationID) = rows :=
      List.filter_eq_self.mpr fun r hr => by rw [(hall r hr).1, beq_self_eq_true]
    rw [hrows, List.filter_append, hold, hnew, List.nil_append]
  refine ⟨log', ?_, rows.insertionSort itemLe, ?_, ?_⟩
  · rw [recordOperation, if_neg (by rw [hop]; exact Bool.false_ne_true)]
    exact hlog'
  · unfold getOperation listOperationItems
    rw [hitems]
    exact congrArg (Option.map _) hrow
  · rw [insertionSort_itemLe hids, Operation.storedItems, ← hscan]
    exact List.map_insertionSort _ _ _ _ fun _ _ _ _ => Iff.rfl

/-- The other operations come back as before. -/
theorem getOperation_recordOperation_of_ne (h : id ≠ op.operationID)
    (hrecord : log.recordOperation now op = some log') :
    log'.getOperation id = log.getOperation id := by
  unfold recordOperation at hrecord
  split at hrecord
  · contradiction
  · have hops := (rows_of_inserts hrecord).1
    have hrow : log'.row? id = log.row? id := by
      unfold row?
      rw [hops]
      exact (row?_upsert log now op id).trans (if_neg h)
    have hitems := items_of_other h hrecord
    have hkept : ((log.upsert now op).deleteItems op.operationID).items.rows.filter
        (fun r => r.operationID == id) = log.items.rows.filter fun r => r.operationID == id := by
      show ((log.upsert now op).items.rows.filter fun r => r.operationID != op.operationID).filter
        (fun r => r.operationID == id) = _
      rw [items_upsert, List.filter_filter]
      refine List.filter_congr fun r _ => ?_
      by_cases hid : r.operationID = id
      · simp [hid, h]
      · simp [hid]
    unfold getOperation listOperationItems
    rw [hitems, hkept]
    exact congrArg (Option.map _) hrow

/-! ## Pruning -/

theorem createdAt_of_expired {cutoff : Str} {r : OperationRow} (hr : log.row? id = some r)
    (h : id ∈ log.expired now cutoff) : r.createdAt < cutoff := by
  obtain ⟨⟨o, k⟩, hmem, heq⟩ := List.mem_map.mp h
  obtain ⟨hjoin, hold⟩ := List.mem_filter.mp hmem
  have ho : o ∈ log.operations.rows := by
    obtain ⟨o', ho', hin⟩ := List.mem_flatMap.mp hjoin
    split at hin
    · obtain ⟨rfl, -⟩ := Prod.mk.inj (List.mem_singleton.mp hin)
      exact ho'
    · obtain ⟨_, -, hpair⟩ := List.mem_map.mp hin
      obtain ⟨rfl, -⟩ := Prod.mk.inj hpair
      exact ho'
  have hid : r.operationID = id := by simpa using List.find?_some hr
  obtain rfl := List.inj_on_of_nodup_map log.unique (List.mem_of_find?_eq_some hr) ho
    (hid.trans heq.symm)
  exact of_decide_eq_true (Bool.and_eq_true_iff.mp hold).2

theorem row?_deleteExpired {cutoff : Str} (h : id ∉ log.expired now cutoff) :
    (log.deleteExpired now cutoff).row? id = log.row? id := by
  show (log.operations.rows.filter _).find? _ = log.operations.rows.find? _
  rw [List.find?_filter]
  congr 1
  funext r
  by_cases hid : r.operationID = id
  · simp [hid, h]
  · simp [hid]

theorem getOperation_deleteExpired {cutoff : Str} (h : id ∉ log.expired now cutoff) :
    (log.deleteExpired now cutoff).getOperation id = log.getOperation id := by
  have hitems : (log.deleteExpired now cutoff).items.rows.filter (fun r => r.operationID == id) =
      log.items.rows.filter fun r => r.operationID == id := by
    show (log.items.rows.filter _).filter _ = _
    rw [List.filter_filter]
    refine List.filter_congr fun r _ => ?_
    by_cases hid : r.operationID = id
    · simp [hid, h]
    · simp [hid]
  unfold getOperation listOperationItems
  rw [hitems]
  exact congrArg (Option.map _) (row?_deleteExpired h)

/-- An operation that is there and not older than the cut-off outlives a prune. -/
theorem getOperation_prune {cutoff : Str} {r : OperationRow} (hr : log.row? id = some r)
    (hyoung : ¬ r.createdAt < cutoff) (own : Option Operation) :
    (log.prune now cutoff own).getOperation id = log.getOperation id := by
  have hnot : id ∉ log.expired now cutoff := fun h => hyoung (createdAt_of_expired hr h)
  cases own with
  | none => exact getOperation_deleteExpired hnot
  | some own =>
    rw [prune]
    split
    · rfl
    next hnew =>
      cases hrecord : (log.deleteExpired now cutoff).recordOperation now own with
      | none => rfl
      | some after =>
        have hne : id ≠ own.operationID := by
          rintro rfl
          have hrow := row?_deleteExpired hnot
          rw [row?_eq_none.mpr hnew, hr] at hrow
          contradiction
        exact (getOperation_recordOperation_of_ne hne hrecord).trans
          (getOperation_deleteExpired hnot)

/-! ## Whole runs -/

inductive Event where
  /-- `RecordOperation`; the driver may refuse any of its statements. -/
  | record (now : Clock) (op : Operation) (refused : Bool)
  | prune (now : Clock) (cutoff : Str) (own : Option Operation)

def step (log : OperationLog) : Event → OperationLog
  | .record now op refused => if refused then log else (log.recordOperation now op).getD log
  | .prune now cutoff own => log.prune now cutoff own

/-- The event leaves an operation that was first recorded then. -/
def Event.Spares (id createdAt : Str) : Event → Prop
  | .record _ op refused => refused = true ∨ op.operationID ≠ id
  | .prune _ cutoff _ => ¬ createdAt < cutoff

instance (id createdAt : Str) : ∀ e : Event, Decidable (e.Spares id createdAt)
  | .record _ op refused => inferInstanceAs (Decidable (refused = true ∨ op.operationID ≠ id))
  | .prune _ cutoff _ => inferInstanceAs (Decidable (¬ createdAt < cutoff))

theorem getOperation_step {r : OperationRow} {e : Event} (hr : log.row? id = some r)
    (he : e.Spares id r.createdAt) : (log.step e).getOperation id = log.getOperation id := by
  cases e with
  | record now op refused =>
    rw [step]
    split
    · rfl
    next hcarried =>
      cases hrecord : log.recordOperation now op with
      | none => rfl
      | some after =>
        exact getOperation_recordOperation_of_ne (he.resolve_left hcarried).symm hrecord
  | prune now cutoff own => exact getOperation_prune hr he own

theorem row?_of_getOperation {r : OperationRow} {rows : List OperationItemRow}
    (h : log.getOperation id = some (r, rows)) : log.row? id = some r := by
  obtain ⟨r', hr', heq⟩ := Option.map_eq_some_iff.mp h
  obtain ⟨rfl, -⟩ := Prod.mk.inj heq
  exact hr'

theorem getOperation_run {r : OperationRow} {rows : List OperationItemRow} {es : List Event}
    (h : log.getOperation id = some (r, rows)) (hes : ∀ e ∈ es, e.Spares id r.createdAt) :
    (es.foldl step log).getOperation id = some (r, rows) := by
  induction es generalizing log with
  | nil => exact h
  | cons e es ih =>
    refine ih ?_ fun e' he' => hes e' (List.mem_cons_of_mem e he')
    rw [getOperation_step (row?_of_getOperation h) (hes e List.mem_cons_self)]
    exact h

/-- When an operation was recorded for the first time. -/
def firstRecorded (log : OperationLog) (now : Clock) (id : Str) : Str :=
  ((log.row? id).map OperationRow.createdAt).getD now.datetime

/-- What is recorded last of an operation is what is read of it, whatever is recorded of others,
until a prune comes for which it is old. -/
theorem operation_reads_back (log : OperationLog) {now : Clock} (hop : op.Named)
    {es : List Event}
    (hes : ∀ e ∈ es, e.Spares op.operationID (log.firstRecorded now op.operationID)) :
    ∃ id rows, ((Event.record now op false :: es).foldl step log).getOperation op.operationID =
        some (op.write now
          { id := id, operationID := op.operationID,
            createdAt := log.firstRecorded now op.operationID }, rows) ∧
      rows.map scanOperationItem = op.storedItems := by
  obtain ⟨log', hrecord, rows, hget, hitems⟩ := getOperation_recordOperation log now hop
  have hbase : op.write now ((log.row? op.operationID).getD (log.newRow now op)) =
      op.write now
        { id := ((log.row? op.operationID).getD (log.newRow now op)).id
          operationID := op.operationID
          createdAt := log.firstRecorded now op.operationID } := by
    unfold firstRecorded
    cases hr : log.row? op.operationID with
    | none => rfl
    | some r =>
      have hid : r.operationID = op.operationID := by simpa using List.find?_some hr
      show op.write now r = op.write now { id := r.id, operationID := _, createdAt := r.createdAt }
      rw [← hid]
      rfl
  rw [hbase] at hget
  refine ⟨((log.row? op.operationID).getD (log.newRow now op)).id, rows, ?_, hitems⟩
  rw [List.foldl_cons, step, hrecord]
  exact getOperation_run hget hes

/-- The reload of a runtime, with two items that have no place of their own. -/
def reload : Operation where
  operationID := lit "runtime-reload-1"
  operationType := lit "runtime_reload"
  safeErrorMessage := lit "api_key: sk-0123456789"
  items := [{ action := lit "reload", accountID := 7 }, { action := lit "sync", accountID := -1 }]

/-- An operation of another number, a record that the driver refuses, and a prune of what is older
than July. -/
def afterReload : List Event :=
  [.record .july { operationID := lit "delete-pool-1", operationType := lit "delete_pool" } false,
    .record .july { reload with status := lit "failed" } true,
    .prune .july (lit "2026-06-30 00:00:00") none]

theorem reload_reads_back :
    ∃ id rows, ((Event.record .july reload false :: afterReload).foldl step {}).getOperation
        (lit "runtime-reload-1") =
          some (reload.write .july
            { id := id, operationID := lit "runtime-reload-1",
              createdAt := firstRecorded {} .july (lit "runtime-reload-1") }, rows) ∧
      rows.map scanOperationItem = reload.storedItems :=
  operation_reads_back {} (by decide) (by decide +kernel)

end OperationLog

end Lune.Store
