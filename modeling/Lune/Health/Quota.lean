import Lune.Health.Binding
import Lune.Lib.GoJson
import Lune.Store.Columns

/-!
# Quota probes

`fetchOneCodexQuota` of `internal/health/checker.go`: the call of `wham/usage`
through the CPA runtime and what its answer writes.  A probe that is refused as
unauthenticated also records a diagnostic.

Each program reads the clock where the source does.
-/

namespace Lune.Health

open GoText GoJson Lune.Store Programs

/-! ## Usage snapshots -/

/-- A field of a Go map together with the verdict on the map that is its
value. -/
structure SnapshotField where
  key : Str
  value : Json
  blocked : Bool

/-- The field a key has in the map. -/
def snapshotField? (fields : List SnapshotField) (key : Str) : Option SnapshotField :=
  fields.reverse.find? fun f => f.key = key

/-- `raw[key].(bool)` is there and is `b`. -/
def flagIs (fields : List SnapshotField) (b : Bool) (key : Str) : Bool :=
  match snapshotField? fields key with
  | some ⟨_, .bool found, _⟩ => found == b
  | _ => false

/-- `raw[key].(map[string]any)` is there and is blocked. -/
def nestedBlocked (fields : List SnapshotField) (key : Str) : Bool :=
  match snapshotField? fields key with
  | some ⟨_, .obj _, blocked⟩ => blocked
  | _ => false

/-- `quotaSnapshotBlocked`, where the verdicts on the values are known. -/
def blockedByFields (fields : List SnapshotField) : Bool :=
  [lit "allowed", lit "is_allowed"].any (flagIs fields false) ||
    [lit "limit_reached", lit "limited", lit "blocked"].any (flagIs fields true) ||
    [lit "rate_limit", lit "limits"].any (nestedBlocked fields)

mutual

/-- `quotaSnapshotBlocked`, on the value that holds the map. -/
def quotaSnapshotBlocked : Json → Bool
  | .obj fields => blockedByFields (snapshotFields fields)
  | .null | .bool _ | .num _ | .str _ | .arr _ => false

/-- The fields of a map with the verdicts on their values. -/
def snapshotFields : List (Str × Json) → List SnapshotField
  | [] => []
  | (key, x) :: fields => ⟨key, x, quotaSnapshotBlocked x⟩ :: snapshotFields fields

end

/-- `json.Unmarshal` into a `map[string]any`: an object, or `null`. -/
def unmarshalMap (text : Str) : Option Json :=
  match unmarshal true text with
  | some (.obj fields) => some (.obj fields)
  | some .null => some .null
  | _ => none

/-- `previousQuotaSnapshotBlocked`. -/
def previousQuotaSnapshotBlocked (raw : Str) : Bool :=
  match unmarshalMap (trimSpace raw) with
  | some snapshot => quotaSnapshotBlocked snapshot
  | none => false

/-! ## Backoff -/

/-- `codexQuotaBackoffBase`, in seconds. -/
def codexQuotaBackoffBase : Nat := 300

/-- `codexQuotaBackoffMax`, in seconds. -/
def codexQuotaBackoffMax : Nat := 3600

/-- The delay after so many failures. -/
def codexQuotaBackoffDelay : Nat → Nat
  | 0 => codexQuotaBackoffBase
  | failures + 1 => min (codexQuotaBackoffDelay failures * 2) codexQuotaBackoffMax

/-- `nextCodexQuotaBackoffUntil`. -/
def nextCodexQuotaBackoffUntil (failures : Int) (now : Clock) : Str :=
  TimeText.datetimeText
    (Calendar.fieldsOf (now.seconds + codexQuotaBackoffDelay failures.toNat))

/-! ## The diagnostic of a refused probe -/

/-- `isQuotaProbeAuthFailureStatus`. -/
def isQuotaProbeAuthFailureStatus (statusCode : Int) : Bool :=
  statusCode == 401 || statusCode == 403

/-- `hasFreshUsableDiagnostic`. -/
def hasFreshUsableDiagnostic (diag : AccountDiagnostic) : Bool :=
  (equalFold diag.stableDiagnosticStatus (lit "usable") ||
      equalFold diag.stableDiagnosticStatus (lit "quota_probe_auth_failed_but_usable")) &&
    equalFold diag.lastProbeStatus (lit "succeeded")

/-- The row lets a refused probe change the stable status. -/
def quotaProbeDowngrades (current : Option AccountDiagnostic) : Bool :=
  match current with
  | none => false
  | some diag =>
    [lit "usable", lit "quota_probe_auth_failed_but_usable"].contains diag.stableDiagnosticStatus &&
      hasFreshUsableDiagnostic diag

/-- The update that a refused probe makes after it read the row. -/
def quotaProbeUpdate (env : StoreEnv) (accountID : Int) (current : Option AccountDiagnostic) :
    AccountDiagnosticUpdate :=
  let read := (current.map AccountDiagnostic.stableDiagnosticStatus).getD (lit "unknown")
  let downgrades := quotaProbeDowngrades current
  { operationID := accountKeyHash env
      (lit "account-diagnostic:" ++ itoa accountID ++ lit ":" ++ env.now.rfc3339Nano)
    stableDiagnosticStatus :=
      if downgrades then lit "quota_probe_auth_failed_but_usable"
      else if read = [] then lit "unknown" else read
    previousStableDiagnosticStatus := if isBlank read then lit "unknown" else read
    lastProbeStatus := lit "quota_probe_auth_failed"
    safeSummary :=
      if downgrades then lit "quota probe authentication failed but account remains usable"
      else lit "quota probe authentication failed"
    preserveStableStatus := !downgrades }

/-- The evidence that a refused probe leaves. -/
def quotaProbeEvidence (env : StoreEnv) (httpStatus : Int) : AccountDiagnosticEvidenceInput :=
  { probeType := lit "quota_probe"
    stage := lit "wham_usage"
    httpStatus := some httpStatus
    upstreamErrorCode := lit "quota_probe_auth_failed"
    normalizedErrorCode := lit "quota_probe_auth_failed"
    safeMessage := lit "quota probe authentication failed"
    observedAt := env.now.rfc3339 }

/-- `recordCodexQuotaProbeDiagnostic`. -/
def recordCodexQuotaProbeDiagnostic (accountID : Int) (httpStatus : Int) : StoreProg Unit := do
  let current ← getAccountDiagnostic accountID
  let env ← Prog.look fun env _ => env
  Prog.writes
    [.updateAccountDiagnosticWithEvidence accountID (quotaProbeUpdate env accountID current)
      (quotaProbeEvidence env httpStatus)]

/-! ## The probe -/

/-- `cpa.APICallResponse`. -/
structure APICallResponse where
  statusCode : Int
  body : Str

/-- The answer of `APICall`, and the text of the error when its body is not
JSON. -/
structure UsageCall where
  answer : Except Str APICallResponse
  jsonError : Str := []

/-- `time.Now`. -/
def clock : StoreProg Clock := Prog.look fun env _ => env.now

/-- The two statements after a probe that brought no snapshot. -/
def recordQuotaFailure (acc : Account) (status msg : Str) (checkedAt : Clock) : StoreProg Unit := do
  Prog.writes [.updateAccountCodexQuotaStatus acc.id status msg checkedAt.datetime]
  let now ← clock
  Prog.writes
    [.updateAccountCodexQuotaBackoff acc.id
      (nextCodexQuotaBackoffUntil acc.cpaQuotaBackoffCount now) (acc.cpaQuotaBackoffCount + 1)]

/-- The statements after a probe that brought a snapshot. -/
def recordQuotaSnapshot (acc : Account) (body : Str) (blocked : Bool) (checkedAt : Clock) :
    StoreProg Unit := do
  Prog.writes [.updateAccountCodexQuota acc.id body checkedAt.datetime]
  if blocked then
    Prog.writes
      [.updateAccountCodexQuotaStatus acc.id (lit "blocked") (lit "quota blocked by upstream")
        checkedAt.datetime]
  else
    let now ← clock
    Prog.writes
      [.updateAccountCpaAccessStatus acc.id (lit "eligible") (lit "wham_usage_allowed") []
        now.rfc3339]

/-- What an answer of `wham/usage` is. -/
inductive UsageAnswer where
  | unanswered (err : Str)
  | refused (statusCode : Int)
  | empty
  | notJSON
  | snapshot (body : Str) (blocked : Bool)

/-- The cases of `fetchOneCodexQuota`. -/
def UsageCall.kind (call : UsageCall) : UsageAnswer :=
  match call.answer with
  | .error err => .unanswered err
  | .ok resp =>
    let body := trimSpace resp.body
    if resp.statusCode ≠ 200 then .refused resp.statusCode
    else if body = [] then .empty
    else match unmarshalMap body with
      | none => .notJSON
      | some sanity => .snapshot body (quotaSnapshotBlocked sanity)

/-- `fetchOneCodexQuota`, with its error. -/
def fetchOneCodexQuota (call : UsageCall) (acc : Account) : StoreProg (Option Str) :=
  match call.kind with
  | .unanswered err => pure (some err)
  | .refused statusCode => do
    let checkedAt ← clock
    let msg := lit "HTTP " ++ itoa statusCode
    recordQuotaFailure acc
      (if previousQuotaSnapshotBlocked acc.codexQuotaJSON then lit "blocked" else lit "error") msg
      checkedAt
    if isQuotaProbeAuthFailureStatus statusCode then
      recordCodexQuotaProbeDiagnostic acc.id statusCode
    pure (some msg)
  | .empty => do
    let checkedAt ← clock
    recordQuotaFailure acc (lit "error") (lit "empty quota response") checkedAt
    pure (some (lit "empty quota response"))
  | .notJSON => do
    let checkedAt ← clock
    recordQuotaFailure acc (lit "error") (lit "invalid quota JSON") checkedAt
    pure (some (lit "invalid quota JSON: " ++ call.jsonError))
  | .snapshot body blocked => do
    let checkedAt ← clock
    recordQuotaSnapshot acc body blocked checkedAt
    pure none

end Lune.Health
