import Lune.Store.RequestLogs
import Mathlib.Data.Rat.Defs
import Mathlib.Data.List.Dedup

/-!
# Usage numbers

The queries of `internal/store/stats.go` and `logs.go` that read the request
logs.  They count rows; a rate is kept as the fraction that the code divides.
-/

namespace Lune.Store

open GoText Keyed Calendar TimeText

/-! ## Filters -/

/-- `UsageFilter`; `fromTime` and `toTime` are its `From` and `To`. -/
structure UsageFilter where
  fromTime : Str := []
  toTime : Str := []
  tokenName : Str := []
  accountID : Int := 0
  model : Str := []
  sourceKind : Str := []
  includeDiagnostic : Bool := false
  limit : Int := 0
  offset : Int := 0

/-- `buildUsageWhere`. -/
def UsageFilter.buildUsageWhere (f : UsageFilter) (r : RequestLogRow) : Bool :=
  (f.fromTime == [] || decide (f.fromTime ≤ r.createdAt)) &&
  (f.toTime == [] || decide (r.createdAt ≤ f.toTime)) &&
  (f.tokenName == [] || r.accessTokenName == f.tokenName) &&
  (decide (f.accountID ≤ 0) || r.accountID == some f.accountID) &&
  (f.model == [] || r.modelRequested == f.model || r.modelActual == f.model) &&
  (f.sourceKind == [] || r.sourceKind == f.sourceKind) &&
  (f.includeDiagnostic || !r.diagnostic && !r.statefulProbe)

/-- `preciseAccountUsageWhere`. -/
def preciseAccountUsageWhere (r : RequestLogRow) : Bool :=
  r.sourceKind != lit "cpa" || r.runtimeBindingStatus == lit "confirmed"

/-- `now.Format("2006-01-02") + " 00:00:00"`. -/
def Clock.todayStart (now : Clock) : Str :=
  dateText (fieldsOf now.seconds) ++ 32 :: lit "00:00:00"

/-- The start of a window of `GetPoolStats`. -/
def windowStart (now : Clock) (window : Str) : Str :=
  if window = lit "today" then now.todayStart
  else if window = lit "24h" then now.agoText day
  else if window = lit "7d" then now.agoText (7 * day)
  else if window = lit "30d" then now.agoText (30 * day)
  else now.agoText day

/-- The rows that `GetOverview` counts. -/
def overviewWhere (now : Clock) (r : RequestLogRow) : Bool :=
  decide (now.todayStart ≤ r.createdAt) && !r.diagnostic && !r.statefulProbe

/-- The rows that `GetUsageSummary` counts. -/
def usageWhere (f : UsageFilter) (r : RequestLogRow) : Bool :=
  f.buildUsageWhere r && preciseAccountUsageWhere r

/-- The rows that `GetPoolStats` counts. -/
def poolStatsWhere (now : Clock) (poolID : Int) (window : Str) (r : RequestLogRow) : Bool :=
  ({ fromTime := windowStart now window } : UsageFilter).buildUsageWhere r &&
    r.poolID == some poolID && preciseAccountUsageWhere r

/-! ## Rows and their labels -/

/-- `store.RequestLog` as it is read back. -/
structure StoredLog extends RequestLog where
  id : Int
  createdAt : Str

/-- A scanned row, with the values of the columns that may be `NULL`. -/
def RequestLogRow.scan (r : RequestLogRow) (poolID accountID : Int) (accountLabel : Str) :
    StoredLog where
  id := r.id
  requestID := r.requestID
  accessTokenName := r.accessTokenName
  modelRequested := r.modelRequested
  modelActual := r.modelActual
  poolID := poolID
  accountID := accountID
  accountLabel := accountLabel
  statusCode := r.statusCode
  latencyMs := r.latencyMs
  inputTokens := r.inputTokens
  outputTokens := r.outputTokens
  stream := r.stream
  requestIP := r.requestIP
  success := r.success
  errorMessage := r.errorMessage
  errorFingerprint := r.errorFingerprint
  errorRepeatCount := r.errorRepeatCount
  errorLastSeenAt := r.errorLastSeenAt
  sourceKind := r.sourceKind
  attemptCount := r.attemptCount
  diagnostic := r.diagnostic
  forceAccount := r.forceAccount
  statefulProbe := r.statefulProbe
  trafficKind := normalizeRequestTrafficKind r.trafficKind r.diagnostic r.statefulProbe
  runtimeAuthIndex := r.runtimeAuthIndex
  runtimeAuthID := r.runtimeAuthID
  runtimeAccountKey := r.runtimeAccountKey
  runtimeBindingStatus := r.runtimeBindingStatus
  runtimeBindingReason := r.runtimeBindingReason
  routeTrace := r.routeTrace
  createdAt := r.createdAt

/-- `scanLogRow`. -/
def scanLogRow (r : RequestLogRow) : StoredLog :=
  r.scan (r.poolID.getD 0) (r.accountID.getD 0) []

/-- `LEFT JOIN accounts a ON a.id = rl.account_id`: the label of that account. -/
def Archive.joinedLabel (s : Archive) (r : RequestLogRow) : Option Str :=
  r.accountID.bind fun id => (s.accounts.find? id).map AccountRow.label

/-- `COALESCE(a.label, rl.account_label_snapshot, '')`, and the label of
`GetUsageSummary`, which is the same text. -/
def Archive.usageLabel (s : Archive) (r : RequestLogRow) : Str :=
  (s.joinedLabel r).getD r.accountLabelSnapshot

/-- `ORDER BY id DESC LIMIT ? OFFSET ?`; a negative limit is none. -/
def pageOf (rows : List RequestLogRow) (limit offset : Int) : List RequestLogRow :=
  let rest := (rows.insertionSort fun a b => b.id ≤ a.id).drop offset.toNat
  if limit < 0 then rest else rest.take limit.toNat

/-- A row of `GetUsage`; a `NULL` in an id does not scan. -/
def Archive.scanUsageRow (s : Archive) (r : RequestLogRow) : Option StoredLog := do
  let poolID ← r.poolID
  let accountID ← r.accountID
  return r.scan poolID accountID (s.usageLabel r)

/-- `GetUsage`: the page and the total. -/
def Archive.getUsage (s : Archive) (f : UsageFilter) : Option (List StoredLog × Nat) := do
  let rows := s.requestLogs.rows.filter f.buildUsageWhere
  let limit := if f.limit ≤ 0 then 50 else f.limit
  let logs ← (pageOf rows limit f.offset).mapM s.scanUsageRow
  return (logs, rows.length)

/-! ## Numbers -/

/-- `float64(successCount) / float64(total)`, zero for no request. -/
def successRate (rows : List RequestLogRow) : ℚ :=
  if 0 < rows.length then (rows.countP RequestLogRow.success : ℚ) / rows.length else 0

/-- The total and the success rate that a report shows for the rows it counts. -/
def requestNumbers (rows : List RequestLogRow) : Nat × ℚ := (rows.length, successRate rows)

/-- `RequestsToday` and `SuccessRateToday` of `GetOverview`. -/
def Archive.overviewToday (s : Archive) (now : Clock) : Nat × ℚ :=
  requestNumbers (s.requestLogs.rows.filter (overviewWhere now))

/-- `UsageByAccount`. -/
structure UsageByAccount where
  accountID : Int
  accountLabel : Str
  requests : Nat
  successfulRequests : Nat
  successRate : ℚ
  inputTokens : Int
  outputTokens : Int

/-- `UsageByToken`. -/
structure UsageByToken where
  tokenName : Str
  requests : Nat
  inputTokens : Int
  outputTokens : Int

/-- `UsageStats`. -/
structure UsageStats where
  totalRequests : Nat
  successRate : ℚ
  totalInputTokens : Int
  totalOutputTokens : Int
  byAccount : List UsageByAccount
  byToken : List UsageByToken

/-- The groups of a `GROUP BY`, with their keys. -/
def groupBy {κ : Type} [DecidableEq κ] (key : RequestLogRow → κ) (rows : List RequestLogRow) :
    List (κ × List RequestLogRow) :=
  (rows.map key).dedup.map fun k => (k, rows.filter fun r => key r = k)

def sumOf (column : RequestLogRow → Int) (rows : List RequestLogRow) : Int := (rows.map column).sum

/-- `ORDER BY COUNT(*) DESC, key LIMIT 20`. -/
def topGroups {κ : Type} (keyLe : κ → κ → Bool) (groups : List (κ × List RequestLogRow)) :
    List (κ × List RequestLogRow) :=
  (groups.insertionSort fun g h =>
    h.2.length < g.2.length ∨ h.2.length = g.2.length ∧ keyLe g.1 h.1 = true).take 20

/-- The order of a column of numbers; `NULL` comes first. -/
def nullsFirst : Option Int → Option Int → Bool
  | none, _ => true
  | some _, none => false
  | some a, some b => decide (a ≤ b)

/-- A row of the query by account; a `NULL` in the id does not scan. -/
def scanByAccount (g : (Option Int × Str) × List RequestLogRow) : Option UsageByAccount := do
  let accountID ← g.1.1
  return {
    accountID := accountID
    accountLabel := g.1.2
    requests := g.2.length
    successfulRequests := g.2.countP RequestLogRow.success
    successRate := successRate g.2
    inputTokens := sumOf RequestLogRow.inputTokens g.2
    outputTokens := sumOf RequestLogRow.outputTokens g.2 }

def scanByToken (g : Str × List RequestLogRow) : UsageByToken where
  tokenName := g.1
  requests := g.2.length
  inputTokens := sumOf RequestLogRow.inputTokens g.2
  outputTokens := sumOf RequestLogRow.outputTokens g.2

/-- The rows by account, each with the label it is shown with. -/
def Archive.usageByAccount (s : Archive) (rows : List RequestLogRow) :
    Option (List UsageByAccount) :=
  (topGroups (fun a b => nullsFirst a.1 b.1)
    (groupBy (fun r => (r.accountID, s.usageLabel r)) rows)).mapM scanByAccount

/-- The numbers of a summary over the rows it counts. -/
def Archive.usageStats (s : Archive) (rows : List RequestLogRow) : Option UsageStats := do
  let byAccount ← s.usageByAccount rows
  return {
    totalRequests := rows.length
    successRate := successRate rows
    totalInputTokens := sumOf RequestLogRow.inputTokens rows
    totalOutputTokens := sumOf RequestLogRow.outputTokens rows
    byAccount := byAccount
    byToken := (topGroups (fun a b => decide (a ≤ b))
      (groupBy RequestLogRow.accessTokenName rows)).map scanByToken }

/-- `GetUsageSummary`. -/
def Archive.getUsageSummary (s : Archive) (f : UsageFilter) : Option UsageStats :=
  s.usageStats (s.requestLogs.rows.filter (usageWhere f))

/-- `GetPoolStats`. -/
def Archive.getPoolStats (s : Archive) (now : Clock) (poolID : Int) (window : Str) :
    Option UsageStats :=
  s.usageStats (s.requestLogs.rows.filter (poolStatsWhere now poolID window))

end Lune.Store
