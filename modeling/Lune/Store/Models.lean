import Lune.Lib.GoText
import Lune.Lib.Keyed

/-!
# Rows and values of the store

The records of `internal/store/models.go` and the rows of the tables they are
read from.  Text columns are byte strings, `INTEGER` flags hold 0 or 1 and are
`Bool`, and a column that may be `NULL` is an `Option`.  A row has the schema's
defaults, so a row literal names what differs from a fresh one.

Left out are the columns nothing here reads or writes: notes, probe settings,
display texts and creation times.
-/

namespace Lune.Store

open GoText

/-- A row of `accounts`. -/
structure AccountRow where
  id : Int
  label : Str := []
  sourceKind : Str := lit "openai_compat"
  baseURL : Str := []
  apiKey : Str := []
  provider : Str := []
  cpaServiceID : Option Int := none
  cpaProvider : Str := []
  cpaAccountKey : Str := []
  cpaEmail : Str := []
  cpaPlanType : Str := []
  cpaOpenaiID : Str := []
  cpaExpiredAt : Str := []
  cpaLastRefreshAt : Str := []
  cpaDisabled : Bool := false
  cpaCredentialStatus : Str := lit "unknown"
  cpaCredentialReason : Str := []
  cpaCredentialLastError : Str := []
  cpaCredentialCheckedAt : Str := []
  cpaSubscriptionExpiresAt : Str := []
  cpaSubscriptionFetchedAt : Str := []
  cpaSubscriptionLastError : Str := []
  cpaSubscriptionStatus : Str := lit "unknown"
  cpaAccessStatus : Str := lit "unknown"
  cpaAccessReason : Str := []
  cpaAccessLastError : Str := []
  cpaAccessCheckedAt : Str := []
  codexQuotaJSON : Str := []
  codexQuotaFetchedAt : Str := []
  cpaQuotaStatus : Str := lit "unknown"
  cpaQuotaLastError : Str := []
  cpaQuotaCheckedAt : Str := []
  cpaQuotaBackoffUntil : Str := []
  cpaQuotaBackoffCount : Int := 0
  servingStatus : Str := lit "healthy"
  failureCount : Int := 0
  lastFailureAt : Str := []
  lastSuccessAt : Str := []
  cooldownUntil : Str := []
  enabled : Bool := true
  status : Str := lit "unknown"
  notes : Str := []
  lastCheckedAt : Option Str := none
  lastError : Str := []
  updatedAt : Str := []
deriving Inhabited

/-- A row of `account_diagnostics`, and the `AccountDiagnostic` read from it. -/
structure AccountDiagnostic where
  id : Int
  accountID : Int
  accountKeyHash : Str := []
  provider : Str := []
  operationID : Str := []
  startedAt : Str := []
  finishedAt : Str := []
  stableDiagnosticStatus : Str := lit "unknown"
  previousStableDiagnosticStatus : Str := []
  lastProbeStatus : Str := lit "not_run"
  schedulerStatus : Str := lit "eligible_with_warning"
  schedulerOverride : Str := []
  safeSummary : Str := []
  createdAt : Str := []
  updatedAt : Str := []
deriving Inhabited

/-- `store.Account`: the row as it was scanned, and the fields the cache
attaches. -/
structure Account extends AccountRow where
  models : List Str := []
  diagnostic : Option AccountDiagnostic := none
  diagnosticLoadFailed : Bool := false
  diagnosticStatus : Str := []
  schedulerStatus : Str := []
  lastDiagnosedAt : Str := []
  diagnosticSummary : Str := []
deriving Inhabited

/-- A row of `pools`. -/
structure PoolRow where
  id : Int
  label : Str := []
  priority : Int := 0
  enabled : Bool := true
  routingPolicy : Str := lit "health_first"
  createdAt : Option Str := none
  updatedAt : Option Str := none
deriving Inhabited

/-- `store.Pool`: the row and the counts of its members. -/
structure Pool where
  id : Int
  label : Str := []
  priority : Int := 0
  enabled : Bool := true
  routingPolicy : Str := lit "health_first"
  createdAt : Str := []
  updatedAt : Str := []
  accountCount : Nat := 0
  healthyAccountCount : Nat := 0
  routableAccountCount : Nat := 0
  models : List Str := []
deriving Inhabited

/-- A row of `pool_members`. -/
structure PoolMemberRow where
  id : Int
  poolID : Int
  accountID : Int
  position : Int := 0
  enabled : Bool := true
deriving Inhabited

/-- `store.PoolMember`: the row and the account it names. -/
structure PoolMember extends PoolMemberRow where
  account : Option Account := none
deriving Inhabited

/-- A row of `account_models`. -/
structure AccountModelRow where
  id : Int
  accountID : Int
  modelID : Str

/-- A row of `access_tokens`, and the `store.AccessToken` read from it. -/
structure AccessToken where
  id : Int
  name : Str := []
  token : Str := []
  poolID : Option Int := none
  enabled : Bool := true
  updatedAt : Str := []
  lastUsedAt : Option Str := none
deriving Inhabited

/-- A row of `cpa_services`, and the `store.CpaService` read from it. -/
structure CpaService where
  id : Int
  label : Str := []
  baseURL : Str := []
  apiKey : Str := []
  managementKey : Str := []
  enabled : Bool := true
  status : Str := lit "unknown"
  lastError : Str := []
deriving Inhabited

/-! ## Reading a row -/

/-- `defaultCpaCredentialStatus`, `defaultCpaQuotaStatus`,
`defaultCpaSubscriptionStatus` and `defaultCpaAccessStatus`. -/
def defaultCpaStatus (status : Str) : Str := if status = [] then lit "unknown" else status

/-- `defaultServingStatus`. -/
def defaultServingStatus (status : Str) : Str := if status = [] then lit "healthy" else status

/-- `scanAccountRow`. -/
def scanAccountRow (row : AccountRow) : Account :=
  { row with
    sourceKind := if row.sourceKind = [] then lit "openai_compat" else row.sourceKind
    cpaCredentialStatus := defaultCpaStatus row.cpaCredentialStatus
    cpaSubscriptionStatus := defaultCpaStatus row.cpaSubscriptionStatus
    cpaAccessStatus := defaultCpaStatus row.cpaAccessStatus
    cpaQuotaStatus := defaultCpaStatus row.cpaQuotaStatus
    servingStatus := defaultServingStatus row.servingStatus }

@[simp] theorem scanAccountRow_id (row : AccountRow) : (scanAccountRow row).id = row.id := rfl

/-- `attachAccountDiagnostic`. -/
def attachAccountDiagnostic (account : Account) (diag : AccountDiagnostic) : Account :=
  { account with
    diagnostic := some diag
    diagnosticStatus := diag.stableDiagnosticStatus
    schedulerStatus := diag.schedulerStatus
    lastDiagnosedAt := diag.finishedAt
    diagnosticSummary := diag.safeSummary }

@[simp] theorem attachAccountDiagnostic_row (account : Account) (diag : AccountDiagnostic) :
    (attachAccountDiagnostic account diag).toAccountRow = account.toAccountRow := rfl

end Lune.Store
