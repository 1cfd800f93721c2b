import Lune.Store.LogFolding
import Lune.Store.UsageStats

/-!
# Two listings of the request logs

`GetUsage` of `internal/store/stats.go` and `ListLogs` of `internal/store/logs.go`
read the same rows.  `ListLogs` scans `pool_id` and `account_id` as values that may be
`NULL`, `GetUsage` as numbers, and a `NULL` that it meets fails the whole page.

`InsertLog` writes a number to both columns, so `NULL`s are there only when they were
in the file that was opened: in its rows, or because the migration added the column
`pool_id` to them.
-/

namespace Lune.Store

open GoText Keyed Programs

/-! ## The pages -/

/-- `ListLogs`: the page and the total. -/
def Archive.listLogs (s : Archive) (limit offset : Int) : List StoredLog × Nat :=
  ((pageOf s.requestLogs.rows limit offset).map scanLogRow, s.requestLogs.rows.length)

/-- The fields that both listings fill: `ListLogs` reads no label. -/
def StoredLog.common (l : StoredLog) : StoredLog := { l with accountLabel := [] }

/-- `GetUsage` without filters and with diagnostics. -/
def Archive.wholeUsage (s : Archive) (limit offset : Int) : Option (List StoredLog × Nat) :=
  s.getUsage { includeDiagnostic := true, limit := limit, offset := offset }

/-- `GetUsage` succeeds with the total and the rows of `ListLogs`, in its order. -/
def Archive.UsageAgrees (s : Archive) (limit offset : Int) : Prop :=
  ∃ logs, s.wholeUsage limit offset = some (logs, (s.listLogs limit offset).2) ∧
    logs.map StoredLog.common = (s.listLogs limit offset).1

/-- The row has a `NULL` in one of the columns that `GetUsage` reads as numbers. -/
def RequestLogRow.HasNull (r : RequestLogRow) : Prop := r.poolID = none ∨ r.accountID = none

instance (r : RequestLogRow) : Decidable r.HasNull := inferInstanceAs (Decidable (_ ∨ _))

theorem mem_pageOf {rows : List RequestLogRow} {limit offset : Int} {r : RequestLogRow}
    (h : r ∈ pageOf rows limit offset) : r ∈ rows := by
  have hrest : r ∈ (rows.insertionSort fun a b => b.id ≤ a.id).drop offset.toNat := by
    unfold pageOf at h
    split at h
    · exact h
    · exact List.mem_of_mem_take h
  exact (List.mem_insertionSort _).mp (List.mem_of_mem_drop hrest)

/-- A page as long as the table has every row. -/
theorem mem_whole_page {rows : List RequestLogRow} {r : RequestLogRow} (h : r ∈ rows) :
    r ∈ pageOf rows rows.length 0 := by
  have hsorted := (List.mem_insertionSort fun a b : RequestLogRow => b.id ≤ a.id).mpr h
  have hlen : (rows.insertionSort fun a b => b.id ≤ a.id).length = rows.length :=
    List.length_insertionSort _ _
  rw [pageOf, if_neg (by omega), Int.toNat_zero, List.drop_zero, Int.toNat_natCast, ← hlen,
    List.take_length]
  exact hsorted

/-! ## Scanning a row -/

theorem scanUsageRow_isSome (s : Archive) {r : RequestLogRow} (h : ¬ r.HasNull) :
    ∃ l, s.scanUsageRow r = some l ∧ l.common = scanLogRow r := by
  obtain ⟨hpool, haccount⟩ := not_or.mp h
  obtain ⟨poolID, hpoolID⟩ := Option.ne_none_iff_exists'.mp hpool
  obtain ⟨accountID, haccountID⟩ := Option.ne_none_iff_exists'.mp haccount
  refine ⟨r.scan poolID accountID (s.usageLabel r), ?_, ?_⟩
  · rw [Archive.scanUsageRow, hpoolID, haccountID]
    rfl
  · rw [scanLogRow, hpoolID, haccountID]
    rfl

theorem scanUsageRow_null (s : Archive) {r : RequestLogRow} (h : r.HasNull) :
    s.scanUsageRow r = none := by
  rcases h with hpool | haccount
  · rw [Archive.scanUsageRow, hpool]
    rfl
  · rw [Archive.scanUsageRow, haccount]
    cases r.poolID <;> rfl

/-- A page without `NULL`s is scanned row by row as `ListLogs` scans it. -/
theorem scan_page (s : Archive) {rows : List RequestLogRow} (h : ∀ r ∈ rows, ¬ r.HasNull) :
    ∃ logs, rows.mapM s.scanUsageRow = some logs ∧
      logs.map StoredLog.common = rows.map scanLogRow := by
  induction rows with
  | nil => exact ⟨[], rfl, rfl⟩
  | cons r rows ih =>
    obtain ⟨l, hl, hcommon⟩ := scanUsageRow_isSome s (h r List.mem_cons_self)
    obtain ⟨logs, hlogs, hrest⟩ := ih fun r' hr' => h r' (List.mem_cons_of_mem r hr')
    refine ⟨l :: logs, ?_, ?_⟩
    · rw [List.mapM_cons, hl, hlogs]
      rfl
    · rw [List.map_cons, List.map_cons, hcommon, hrest]

/-- One `NULL` fails the page. -/
theorem scan_page_null (s : Archive) {rows : List RequestLogRow} {r : RequestLogRow}
    (hr : r ∈ rows) (hnull : r.HasNull) : rows.mapM s.scanUsageRow = none := by
  induction rows with
  | nil => contradiction
  | cons r' rows ih =>
    rw [List.mapM_cons]
    rcases List.mem_cons.mp hr with rfl | hrest
    · rw [scanUsageRow_null s hnull]
      rfl
    · rw [ih hrest]
      cases s.scanUsageRow r' <;> rfl

theorem wholeUsage_eq (s : Archive) {limit : Int} (hlimit : 0 < limit) (offset : Int) :
    s.wholeUsage limit offset =
      ((pageOf s.requestLogs.rows limit offset).mapM s.scanUsageRow).map fun logs =>
        (logs, s.requestLogs.rows.length) := by
  have hrows : (s.requestLogs.rows.filter
      ({ includeDiagnostic := true, limit := limit, offset := offset } :
        UsageFilter).buildUsageWhere) = s.requestLogs.rows :=
    List.filter_eq_self.mpr fun r _ => rfl
  have hpage : ¬ limit ≤ 0 := by omega
  simp only [Archive.wholeUsage, Archive.getUsage, hrows, hpage, if_false]
  cases (pageOf s.requestLogs.rows limit offset).mapM s.scanUsageRow <;> rfl

/-- The listings agree on a page exactly when it has no `NULL`. -/
theorem usageAgrees_iff (s : Archive) {limit : Int} (hlimit : 0 < limit) (offset : Int) :
    s.UsageAgrees limit offset ↔
      ∀ r ∈ pageOf s.requestLogs.rows limit offset, ¬ r.HasNull := by
  constructor
  · rintro ⟨logs, hlogs, -⟩ r hr hnull
    rw [wholeUsage_eq s hlimit, scan_page_null s hr hnull] at hlogs
    contradiction
  · intro h
    obtain ⟨logs, hlogs, hcommon⟩ := scan_page s h
    refine ⟨logs, ?_, hcommon⟩
    rw [wholeUsage_eq s hlimit, hlogs]
    rfl

/-- They agree on every page exactly when the table has no `NULL`. -/
theorem usageAgrees_everywhere_iff (s : Archive) :
    (∀ limit offset, 0 < limit → s.UsageAgrees limit offset) ↔
      ¬ ∃ r ∈ s.requestLogs.rows, r.HasNull := by
  constructor
  · rintro h ⟨r, hr, hnull⟩
    have hlimit : (0 : Int) < s.requestLogs.rows.length := by
      exact_mod_cast List.length_pos_of_mem hr
    exact (usageAgrees_iff s hlimit 0).mp (h _ 0 hlimit) r (mem_whole_page hr) hnull
  · intro h limit offset hlimit
    exact (usageAgrees_iff s hlimit offset).mpr fun r hr hnull => h ⟨r, mem_pageOf hr, hnull⟩

/-! ## The file that is opened -/

/-- The columns of `request_logs` that an older file may lack. -/
inductive LogColumn where
  | attemptCount
  | poolID
  | runtimeAuthIndex
  | runtimeAuthID
  | runtimeAccountKey
  | runtimeBindingStatus
  | runtimeBindingReason
  | routeTrace
  | errorFingerprint
  | errorRepeatCount
  | errorLastSeenAt
  | diagnostic
  | forceAccount
  | statefulProbe
  | trafficKind
  | accountLabelSnapshot
deriving DecidableEq

def LogColumn.all : List LogColumn :=
  [attemptCount, poolID, runtimeAuthIndex, runtimeAuthID, runtimeAccountKey, runtimeBindingStatus,
    runtimeBindingReason, routeTrace, errorFingerprint, errorRepeatCount, errorLastSeenAt,
    diagnostic, forceAccount, statefulProbe, trafficKind, accountLabelSnapshot]

/-- The row with the default that `ALTER TABLE ADD COLUMN` gives the column. -/
def RequestLogRow.withDefault (r : RequestLogRow) : LogColumn → RequestLogRow
  | .attemptCount => { r with attemptCount := 1 }
  | .poolID => { r with poolID := none }
  | .runtimeAuthIndex => { r with runtimeAuthIndex := [] }
  | .runtimeAuthID => { r with runtimeAuthID := [] }
  | .runtimeAccountKey => { r with runtimeAccountKey := [] }
  | .runtimeBindingStatus => { r with runtimeBindingStatus := [] }
  | .runtimeBindingReason => { r with runtimeBindingReason := [] }
  | .routeTrace => { r with routeTrace := [] }
  | .errorFingerprint => { r with errorFingerprint := [] }
  | .errorRepeatCount => { r with errorRepeatCount := 1 }
  | .errorLastSeenAt => { r with errorLastSeenAt := [] }
  | .diagnostic => { r with diagnostic := false }
  | .forceAccount => { r with forceAccount := false }
  | .statefulProbe => { r with statefulProbe := false }
  | .trafficKind => { r with trafficKind := lit "ordinary" }
  | .accountLabelSnapshot => { r with accountLabelSnapshot := [] }

/-- `request_logs` in a file: which columns it has, and the rows.  What a row says
about a column that is not there means nothing. -/
structure LogTable where
  has : LogColumn → Bool
  rows : Table RequestLogRow.id

/-- The rows after the `UPDATE` that fills in the kind of traffic. -/
def RequestLogRow.withTrafficKind (r : RequestLogRow) : RequestLogRow :=
  { r with
    trafficKind :=
      if r.diagnostic then lit "diagnostic"
      else if r.statefulProbe then lit "stateful_probe"
      else if r.trafficKind = [] then lit "ordinary"
      else r.trafficKind }

namespace LogTable

/-- The table of a new file. -/
def fresh : LogTable := ⟨fun _ => true, Table.empty⟩

/-- `hasColumn` and `ALTER TABLE request_logs ADD COLUMN`. -/
def addColumn (t : LogTable) (c : LogColumn) : LogTable :=
  if t.has c then t
  else ⟨fun c' => decide (c' = c) || t.has c', t.rows.map fun r => r.withDefault c⟩

/-- `migrateAttemptCountColumn`. -/
def migrateAttemptCountColumn (t : LogTable) : LogTable := t.addColumn .attemptCount

/-- `migrateRequestLogPoolColumn`. -/
def migrateRequestLogPoolColumn (t : LogTable) : LogTable := t.addColumn .poolID

/-- `migrateRuntimeBindingLogColumns`. -/
def migrateRuntimeBindingLogColumns (t : LogTable) : LogTable :=
  [.runtimeAuthIndex, .runtimeAuthID, .runtimeAccountKey, .runtimeBindingStatus,
    .runtimeBindingReason, .routeTrace].foldl addColumn t

/-- `migrateRequestLogOperationalColumns`. -/
def migrateRequestLogOperationalColumns (t : LogTable) : LogTable :=
  let t := [.errorFingerprint, .errorRepeatCount, .errorLastSeenAt, .diagnostic, .forceAccount,
    .statefulProbe, .trafficKind, .accountLabelSnapshot].foldl addColumn t
  { t with rows := t.rows.map RequestLogRow.withTrafficKind }

/-- The steps of `migrateV3` from version 3 on that touch the request logs.  At the
latest version they repair what is missing. -/
def migrateFrom (t : LogTable) (version : Int) : LogTable :=
  if 24 ≤ version then
    t.migrateRequestLogPoolColumn.migrateRuntimeBindingLogColumns
      |>.migrateRequestLogOperationalColumns
  else
    let t := if version < 12 then t.migrateAttemptCountColumn else t
    let t := t.migrateRequestLogPoolColumn
    let t := if version < 17 then t.migrateRuntimeBindingLogColumns else t
    if version < 19 then t.migrateRequestLogOperationalColumns else t

end LogTable

/-- A database file, as far as the request logs go.  A file without a version counts
as version 0. -/
structure LogFile where
  version : Int
  requestLogs : Option LogTable

/-- `migrateV3`: a version before 3 is rebuilt with an empty table, and version 0 is
taken for a new file, where `CREATE TABLE IF NOT EXISTS` keeps a table that is there. -/
def LogFile.migrateV3 (f : LogFile) : Option LogTable :=
  if 3 ≤ f.version then f.requestLogs.map fun t => t.migrateFrom f.version
  else if f.version = 0 then some (f.requestLogs.getD LogTable.fresh)
  else some LogTable.fresh

/-- The rows of the opened store, when the file has the columns that the migration
takes for granted. -/
def LogFile.opened (f : LogFile) : Option (Table RequestLogRow.id) :=
  (f.migrateV3.filter fun t => LogColumn.all.all t.has).map LogTable.rows

/-- A row of the table has no account, or no pool, which without the column `pool_id`
holds of every row. -/
def LogTable.HoldsNull (t : LogTable) : Prop :=
  ∃ r ∈ t.rows.rows, r.accountID = none ∨ t.has .poolID = false ∨ r.poolID = none

/-- The file brings a `NULL` into the opened store. -/
def LogFile.HoldsNull (f : LogFile) : Prop :=
  (3 ≤ f.version ∨ f.version = 0) ∧ ∃ t, f.requestLogs = some t ∧ t.HoldsNull

/-! ## What the migration does to `NULL`s -/

theorem accountID_withDefault (r : RequestLogRow) (c : LogColumn) :
    (r.withDefault c).accountID = r.accountID := by
  cases c <;> rfl

theorem poolID_withDefault (r : RequestLogRow) {c : LogColumn} (h : c ≠ .poolID) :
    (r.withDefault c).poolID = r.poolID := by
  cases c with
  | poolID => exact absurd rfl h
  | _ => rfl

theorem holdsNull_map {t : LogTable} {f : RequestLogRow → RequestLogRow} (hid : ∀ r, (f r).id = r.id)
    {has : LogColumn → Bool}
    (hnull : ∀ r, ((f r).accountID = none ∨ has .poolID = false ∨ (f r).poolID = none) ↔
      (r.accountID = none ∨ t.has .poolID = false ∨ r.poolID = none)) :
    LogTable.HoldsNull ⟨has, t.rows.map f⟩ ↔ t.HoldsNull := by
  unfold LogTable.HoldsNull
  rw [Table.rows_map _ hid]
  constructor
  · rintro ⟨r', hr', h⟩
    obtain ⟨r, hr, rfl⟩ := List.mem_map.mp hr'
    exact ⟨r, hr, (hnull r).mp h⟩
  · rintro ⟨r, hr, h⟩
    exact ⟨f r, List.mem_map_of_mem hr, (hnull r).mpr h⟩

/-- Adding a column keeps what the table has of `NULL`s: a row without the column
`pool_id` counts as one that has none. -/
theorem holdsNull_addColumn (t : LogTable) (c : LogColumn) :
    (t.addColumn c).HoldsNull ↔ t.HoldsNull := by
  unfold LogTable.addColumn
  split
  · rfl
  · rename_i habsent
    apply holdsNull_map (fun r => by cases c <;> rfl)
    intro r
    rw [accountID_withDefault]
    by_cases hc : c = .poolID
    · subst hc
      simp [RequestLogRow.withDefault, habsent]
    · simp [poolID_withDefault r hc, Ne.symm hc]

theorem holdsNull_addColumns (t : LogTable) (cs : List LogColumn) :
    (cs.foldl LogTable.addColumn t).HoldsNull ↔ t.HoldsNull := by
  induction cs generalizing t with
  | nil => rfl
  | cons c cs ih => exact (ih (t.addColumn c)).trans (holdsNull_addColumn t c)

theorem holdsNull_operational (t : LogTable) :
    t.migrateRequestLogOperationalColumns.HoldsNull ↔ t.HoldsNull :=
  (holdsNull_map (f := RequestLogRow.withTrafficKind) (fun _ => rfl) fun _ => Iff.rfl).trans
    (holdsNull_addColumns t _)

theorem holdsNull_migrateFrom (t : LogTable) (version : Int) :
    (t.migrateFrom version).HoldsNull ↔ t.HoldsNull := by
  have hpool (t : LogTable) : t.migrateRequestLogPoolColumn.HoldsNull ↔ t.HoldsNull :=
    holdsNull_addColumn t _
  have hruntime (t : LogTable) : t.migrateRuntimeBindingLogColumns.HoldsNull ↔ t.HoldsNull :=
    holdsNull_addColumns t _
  have hattempts (t : LogTable) : t.migrateAttemptCountColumn.HoldsNull ↔ t.HoldsNull :=
    holdsNull_addColumn t _
  unfold LogTable.migrateFrom
  split
  · rw [holdsNull_operational, hruntime, hpool]
  · dsimp only
    split <;> split <;> split <;>
      simp only [holdsNull_operational, hruntime, hpool, hattempts]

/-- The opened store has a `NULL` exactly when the file holds one. -/
theorem opened_null_iff {f : LogFile} {rows : Table RequestLogRow.id} (h : f.opened = some rows) :
    (∃ r ∈ rows.rows, r.HasNull) ↔ f.HoldsNull := by
  obtain ⟨t, ht, rfl⟩ := Option.map_eq_some_iff.mp h
  obtain ⟨hmigrated, hcolumns⟩ := Option.filter_eq_some_iff.mp ht
  have hpool : t.has .poolID = true := List.all_eq_true.mp hcolumns _ (by decide)
  have hnull : (∃ r ∈ t.rows.rows, r.HasNull) ↔ t.HoldsNull := by
    refine exists_congr fun r => and_congr_right fun _ => ?_
    rw [RequestLogRow.HasNull, or_comm]
    simp [hpool]
  have hempty : ¬ LogTable.fresh.HoldsNull := by
    rintro ⟨r, hr, -⟩
    exact absurd hr List.not_mem_nil
  rw [hnull]
  unfold LogFile.migrateV3 at hmigrated
  unfold LogFile.HoldsNull
  split at hmigrated
  · rename_i hversion
    obtain ⟨t', ht', rfl⟩ := Option.map_eq_some_iff.mp hmigrated
    rw [holdsNull_migrateFrom]
    simp [hversion, ht']
  · rename_i hversion
    split at hmigrated
    · rename_i hzero
      obtain rfl := Option.some.inj hmigrated
      cases hlogs : f.requestLogs with
      | none => simp [hempty]
      | some t' => simp [hzero]
    · rename_i hzero
      obtain rfl := Option.some.inj hmigrated
      simp [hversion, hzero, hempty]

/-! ## Calls that insert -/

/-- The write puts numbers in both columns, or touches neither. -/
def LogCall.WritesNumbers : LogCall → Prop
  | foldRequestLog _ _ => True
  | insertRequestLog row => ¬ row.HasNull
  | pruneRequestLogs _ => False

theorem not_hasNull_row (l : RequestLog) (sourceKind label : Str) :
    ¬ (l.row sourceKind label).HasNull := by
  rintro (h | h) <;> contradiction

section Safe

variable {Q : Clock → Archive → Prop}

theorem safe_insertLogRow (l : RequestLog) (sourceKind : Str) :
    (insertLogRow l sourceKind).Safe Q LogCall.WritesNumbers fun _ => True :=
  fun _ _ _ => ⟨not_hasNull_row l sourceKind _, trivial⟩

theorem safe_insertFailedLog (l : RequestLog) (sourceKind : Str) :
    (insertFailedLog l sourceKind).Safe Q LogCall.WritesNumbers fun _ => True := by
  unfold insertFailedLog
  split
  · have hselected (recent : Option Int) : (do
        let updated ← foldSelected l recent
        if updated then return () else insertLogRow l sourceKind : LogProg Unit).Safe Q
          LogCall.WritesNumbers fun _ => True := by
      cases recent with
      | none => exact safe_insertLogRow l sourceKind
      | some id => exact ⟨trivial, trivial⟩
    exact fun _ _ _ _ _ _ => hselected _
  · exact safe_insertLogRow l sourceKind

/-- `InsertLog` writes numbers only. -/
theorem safe_insertLog (t : TextFuncs) (l : RequestLog) :
    (insertLog t l).Safe Q LogCall.WritesNumbers fun _ => True := by
  unfold insertLog insertCompleteLog
  split
  · exact fun _ _ _ => safe_insertFailedLog _ _
  · exact safe_insertLogRow _ _

end Safe

/-- Such a write neither adds a `NULL` nor takes one away. -/
theorem null_run_iff (now : Clock) (s : Archive) {w : LogCall} (h : w.WritesNumbers) :
    (∃ r ∈ (w.run now s).requestLogs.rows, r.HasNull) ↔
      ∃ r ∈ s.requestLogs.rows, r.HasNull := by
  cases w with
  | foldRequestLog id latencyMs =>
    constructor
    · rintro ⟨r', hr', hnull⟩
      obtain ⟨r, hr, rfl⟩ := List.mem_map.mp hr'
      refine ⟨r, hr, ?_⟩
      split at hnull
      · exact hnull
      · exact hnull
    · rintro ⟨r, hr, hnull⟩
      refine ⟨_, List.mem_map_of_mem hr, ?_⟩
      split
      · exact hnull
      · exact hnull
  | insertRequestLog row =>
    have hnew : ¬ (s.newRequestLog now row).HasNull := h
    show (∃ r ∈ (s.insertRequestLog now row).requestLogs.rows, r.HasNull) ↔ _
    rw [Archive.rows_insertRequestLog]
    simp [or_and_right, exists_or, hnew]
  | pruneRequestLogs cutoff => exact h.elim

section Run

variable {ι : Type} [DecidableEq ι] (t : TextFuncs) {req : ι → RequestLog} {s : Archive}
  {tr : List (ι × Clock)} {c : Calls ι Clock Archive LogCall Unit}

/-- Inserts that run together leave the `NULL`s as they were. -/
theorem null_after_inserts
    (hrun : Runs.exec (Calls.step LogCall.run) (Calls.start s fun i => insertLog t (req i)) tr =
      some c) :
    (∃ r ∈ c.shared.requestLogs.rows, r.HasNull) ↔ ∃ r ∈ s.requestLogs.rows, r.HasNull := by
  refine Calls.exec_safe (I := fun u : Archive =>
    (∃ r ∈ u.requestLogs.rows, r.HasNull) ↔ ∃ r ∈ s.requestLogs.rows, r.HasNull)
    hrun (fun i => safe_insertLog t (req i)) ?_ Iff.rfl
  intro now u w hu hw
  exact (null_run_iff now u hw).trans hu

/-- After a migration and any inserts, the listings agree on every page exactly when the
file held no `NULL`. -/
theorem usage_listing_iff (file : LogFile) (hopened : file.opened = some s.requestLogs)
    (hrun : Runs.exec (Calls.step LogCall.run) (Calls.start s fun i => insertLog t (req i)) tr =
      some c) :
    (∀ limit offset, 0 < limit → c.shared.UsageAgrees limit offset) ↔ ¬ file.HoldsNull := by
  rw [usageAgrees_everywhere_iff, null_after_inserts t hrun, opened_null_iff hopened]

end Run

/-- A new file and one request. -/
theorem new_file_listed :
    ∃ c, Runs.exec (Calls.step LogCall.run)
        (Calls.start default fun _ : Unit => insertLog ⟨id, id⟩ { success := true })
        [((), default), ((), default)] = some c ∧
      ∀ limit offset, 0 < limit → c.shared.UsageAgrees limit offset := by
  have hnone : ¬ LogFile.HoldsNull ⟨0, none⟩ := by
    rintro ⟨-, t, ht, -⟩
    contradiction
  refine ⟨_, rfl, ?_⟩
  exact (@usage_listing_iff Unit _ ⟨id, id⟩ (fun _ => { success := true }) default
    [((), default), ((), default)] _ ⟨0, none⟩ rfl rfl).mpr hnone

/-- The file of version 12 that the migration test opens: one row, without an account
and from before there were pools. -/
def legacyFile : LogFile :=
  { version := 12
    requestLogs := some
      { has := fun c => decide (c = .attemptCount)
        rows := Table.ofList
          [{ id := 1
             requestID := lit "req_1"
             accessTokenName := lit "primary"
             modelRequested := lit "gpt-5" }] } }

/-- Its usage cannot be listed. -/
theorem legacy_file_unlisted :
    ¬ ∀ (file : LogFile) (s : Archive), file.opened = some s.requestLogs →
      ∀ limit offset, 0 < limit → s.UsageAgrees limit offset := by
  intro h
  obtain ⟨rows, hrows⟩ : ∃ rows, legacyFile.opened = some rows :=
    Option.isSome_iff_exists.mp (by decide)
  have hnull : legacyFile.HoldsNull :=
    ⟨Or.inl (by decide), _, rfl, _, List.mem_singleton.mpr rfl, Or.inl rfl⟩
  exact (usageAgrees_everywhere_iff { requestLogs := rows }).mp (h legacyFile _ hrows)
    ((opened_null_iff hrows).mpr hnull)

end Lune.Store
