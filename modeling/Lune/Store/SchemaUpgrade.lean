import Lune.Health.Quota
import Lune.Store.PoolTokens
import Lune.Store.Schema
import Lune.Store.SubscriptionBackfill

/-!
# Upgrades of the schema

`migrateV3` of `internal/store/store.go`: how a start of the program brings the file to
the schema of today.  A file of version 3 or later goes up the ladder of the migrations
that are newer than it; a file of the current version has a part of them repeated; an older
one is built anew around the CPA services.

The steps of a migration are the statements that the source runs, in its order.  What it
asks of the catalogue, `tableExists` and `hasColumn`, is a step of its own.
-/

namespace Lune.Store.Schema

open GoText SqlFile Restarts

/-! ## Questions -/

def tableExists (t : String) : Start Bool := ask fun f => f.hasTable t

def hasColumn (t c : String) : Start Bool := ask fun f => f.hasColumn t c

/-- The work, unless the table has the column. -/
def unlessColumn (t c : String) (p : Start Unit) : Start Unit := do
  let has ← hasColumn t c
  when (!has) p

def addColumn (t : String) (c : Column) : Start Unit := stmt fun _ f => f.addColumn t c

/-- The loop over columns to add. -/
def addColumns (t : String) (cs : List Column) : Start Unit :=
  cs.forM fun c => unlessColumn t c.name (errorf ("add column " ++ c.name) (addColumn t c))

def update (u : Update StartEnv) : Start Unit := stmt fun e f => f.update u e

/-! ## Versions -/

/-- `v3SchemaVersion`. -/
def v3SchemaVersion : Int := 24

/-- The number that `strconv.Atoi` returns, whatever its error. -/
def atoiNumber (s : Str) : Int :=
  let value : Option Int :=
    match s with
    | 43 :: rest => (parseDigits rest).map Int.ofNat
    | 45 :: rest => (parseDigits rest).map fun n => -(n : Int)
    | _ => (parseDigits s).map Int.ofNat
  max (-(2 ^ 63)) (min (2 ^ 63 - 1) (value.getD 0))

def isVersionRow (r : SqlRow) : Bool := r.cell "key" == .text (lit "schema_version")

/-- `schemaVersion`. -/
def schemaVersion (f : File) : Int :=
  match f.named "system_config" ["value", "key"] with
  | .error _ => 0
  | .ok t =>
    match t.rows.rows.find? isVersionRow with
    | some r =>
      match r.cell "value" with
      | .text v => atoiNumber v
      | _ => 0
    | none => 0

/-- The table after `INSERT ... ON CONFLICT(key) DO UPDATE` of the version. -/
def setVersionRow (now : Str) (t : SqlTable) : SqlTable :=
  if t.rows.rows.any isVersionRow then
    { t with rows := t.rows.map fun r =>
        if isVersionRow r then
          { r with cell := Function.update r.cell "value" (.text (itoa v3SchemaVersion)) }
        else r }
  else
    t.insertAll now [(none, [("key", .text (lit "schema_version")),
      ("value", .text (itoa v3SchemaVersion))])]

/-- `SetSetting` of `schema_version`. -/
def setSchemaVersion : Start Unit :=
  stmt fun e f => do
    let _ ← f.named "system_config" ["key", "value"]
    .ok (f.modify "system_config" (setVersionRow e.now.datetime))

/-! ## Notifications -/

/-- `migrateNotificationSingleton`. -/
def migrateNotificationSingleton : Start Unit := do
  errorf "drop legacy notification index" do
    stmt fun _ f => .ok (f.dropIndex "idx_notification_channels_name_unique" "notification_channels")
    stmt fun _ f => .ok (f.dropIndex "idx_notification_outbox_active_unique" "notification_outbox")
    stmt fun _ f => .ok (f.dropIndex "idx_notification_deliveries_recent" "notification_deliveries")
  errorf "clear legacy notification outbox"
    (stmt fun _ f => f.deleteRows "notification_outbox" [] fun _ => true)
  errorf "drop legacy notification_channels"
    (stmt fun _ f => .ok (f.dropTable "notification_channels"))
  errorf "drop legacy notification_outbox" (stmt fun _ f => .ok (f.dropTable "notification_outbox"))
  errorf "drop legacy notification_deliveries"
    (stmt fun _ f => .ok (f.dropTable "notification_deliveries"))
  errorf "apply notification singleton schema" v3Schema
  errorf "clear legacy webhook settings"
    (stmt fun _ f => f.deleteRows "system_config" ["key"] fun r =>
      ["webhook_url", "webhook_enabled", "notification_legacy_migrated"].any fun key =>
        r.cell "key" == .text (lit key))

/-- The body that old files pass through. -/
def messageBody : Value := .text (lit "\x7b\x7b .Message \x7d\x7d")

/-- `UPDATE notification_subscriptions`, of an event whose body is the old one. -/
def upgradeBody (event body : String) : Update StartEnv where
  table := "notification_subscriptions"
  columns := ["event", "body_template", "updated_at"]
  writes := ["body_template", "updated_at"]
  set e cells :=
    if cells "event" = .text (lit event) ∧ cells "body_template" = messageBody then
      Function.update (Function.update cells "body_template" (.text (lit body))) "updated_at"
        (.text e.now.datetime)
    else cells
  keeps := by
    intro e cells c hc
    simp only [List.mem_cons, List.not_mem_nil, or_false, not_or] at hc
    split
    · rw [Function.update_of_ne hc.2, Function.update_of_ne hc.1]
    · rfl

/-- The bodies that `migrateNotificationTextOnly` upgrades, with their events. -/
def bodyUpgrades : List (String × Update StartEnv) :=
  [("account_expiring", upgradeBody "account_expiring" accountExpiringBody),
    ("cpa_credential_error", upgradeBody "cpa_credential_error" cpaCredentialErrorBody),
    ("account_error", upgradeBody "account_error" accountErrorBody),
    ("cpa_service_error", upgradeBody "cpa_service_error" cpaServiceErrorBody)]

/-- `migrateNotificationTextOnly`. -/
def migrateNotificationTextOnly : Start Unit := do
  let hasFormat ← hasColumn "notification_settings" "format"
  when hasFormat (errorf "drop notification_settings.format"
    (stmt fun _ f => f.dropColumn "notification_settings" "format"))
  let hasTitle ← hasColumn "notification_subscriptions" "title_template"
  when hasTitle (errorf "drop notification_subscriptions.title_template"
    (stmt fun _ f => f.dropColumn "notification_subscriptions" "title_template"))
  bodyUpgrades.forM fun u => errorf ("upgrade " ++ u.1 ++ " body_template") (update u.2)

/-! ## Columns of accounts -/

/-- `migrateCodexQuotaColumns`. -/
def migrateCodexQuotaColumns : Start Unit := do
  let there ← tableExists "accounts"
  when there do
    unlessColumn "accounts" "codex_quota_json"
      (addColumn "accounts" (textDefault "codex_quota_json" ""))
    unlessColumn "accounts" "codex_quota_fetched_at"
      (addColumn "accounts" (textDefault "codex_quota_fetched_at" ""))

def probeColumns : List Column :=
  [textDefault "probe_models" "[]", textDefault "last_probe_status" "", optional "last_probe_at",
    textDefault "last_probe_error" ""]

/-- `migrateProbeColumns`. -/
def migrateProbeColumns : Start Unit := do
  let there ← tableExists "accounts"
  when there (addColumns "accounts" probeColumns)

def cpaSubscriptionColumns : List Column :=
  [textDefault "cpa_subscription_expires_at" "", textDefault "cpa_subscription_fetched_at" "",
    textDefault "cpa_subscription_last_error" ""]

/-- `migrateCpaSubscriptionColumns`. -/
def migrateCpaSubscriptionColumns : Start Unit := do
  let there ← tableExists "accounts"
  when there (addColumns "accounts" cpaSubscriptionColumns)

/-- `datetime(x) > datetime('now')`, which is `NULL` when either side is. -/
def valueAfterNow (datetime : Str → Option Str) : Value → Option Bool
  | .text s => afterNow datetime s
  | _ => none

/-- `lower(x) = 'word'`. -/
def lowerIs (x : Value) (word : String) : Bool :=
  match x with
  | .text s => Sqlite.lower s == lit word
  | _ => false

/-- The `CASE` of the subscription status, on what the columns hold. -/
def subscriptionStatus (datetime : Str → Option Str) (expiresAt lastError : Value) : Str :=
  if isNonempty lastError then
    if lowerIs lastError "subscription metadata pending" then
      if isNonempty expiresAt && valueAfterNow datetime expiresAt == some true then lit "active"
      else if isNonempty expiresAt && valueAfterNow datetime expiresAt == some false then
        lit "expired"
      else lit "pending"
    else lit "error"
  else if expiresAt = .text [] then lit "unknown"
  else if valueAfterNow datetime expiresAt = some true then lit "active"
  else lit "expired"

/-- The column after the `UPDATE` of the subscription status. -/
def subscriptionValue (e : StartEnv) (cells : String → Value) : Value :=
  if cells "source_kind" = .text (lit "cpa") ∧ (cells "cpa_subscription_status" = .text [] ∨
      cells "cpa_subscription_status" = .text (lit "unknown")) then
    .text (subscriptionStatus e.datetime (cells "cpa_subscription_expires_at")
      (cells "cpa_subscription_last_error"))
  else cells "cpa_subscription_status"

/-- `UPDATE accounts SET cpa_subscription_status`. -/
def backfillSubscriptionStatus : Update StartEnv :=
  .assign "accounts"
    ["cpa_subscription_status", "cpa_subscription_last_error", "cpa_subscription_expires_at",
      "source_kind"] "cpa_subscription_status" subscriptionValue

/-- `migrateCpaSubscriptionStatusColumn`. -/
def migrateCpaSubscriptionStatusColumn : Start Unit := do
  let there ← tableExists "accounts"
  when there do
    migrateCpaSubscriptionColumns
    unlessColumn "accounts" "cpa_subscription_status"
      (errorf "add column cpa_subscription_status"
        (addColumn "accounts" (textDefault "cpa_subscription_status" "unknown")))
    errorf "backfill cpa_subscription_status" (update backfillSubscriptionStatus)

def cpaCredentialColumns : List Column :=
  [textDefault "cpa_credential_status" "unknown", textDefault "cpa_credential_reason" "",
    textDefault "cpa_credential_last_error" "", textDefault "cpa_credential_checked_at" ""]

/-- `migrateCpaCredentialColumns`. -/
def migrateCpaCredentialColumns : Start Unit := do
  let there ← tableExists "accounts"
  when there do
    addColumns "accounts" cpaCredentialColumns
    errorf "seed CPA credential notification subscription"
      (seed "notification_subscriptions" ["event", "subscribed", "body_template"]
        [subscription "cpa_credential_error" cpaCredentialErrorBody])
    errorf "seed CPA import batch notification subscription"
      (seed "notification_subscriptions" ["event", "subscribed", "body_template"]
        [subscription "cpa_import_batch" cpaImportBatchBody])

/-! ## The key of a CPA account -/

/-- The keys that `idx_accounts_cpa_service_key_unique` covers. -/
def cpaKeys (t : SqlTable) : List (List Value) :=
  (t.rows.rows.filter fun r => hasCpaKey r.cell).map fun r =>
    ["cpa_service_id", "cpa_account_key"].map r.cell

/-- `duplicateCpaAccountKeys`: the keys that come more than once, with their numbers. -/
def duplicateCpaAccountKeys (f : File) : Except StartError (List (List Value × Nat)) :=
  match f.named "accounts" ["cpa_service_id", "cpa_account_key", "source_kind"] with
  | .error x => .error (.sql x)
  | .ok t => .ok (((cpaKeys t).dedup.filter fun key => 1 < (cpaKeys t).count key).map fun key =>
      (key, (cpaKeys t).count key))

/-- `ensureCpaAccountUniqueIndex`. -/
def ensureCpaAccountUniqueIndex : Start Unit := do
  let there ← tableExists "accounts"
  when there do
    let has ← ask fun f =>
      ["source_kind", "cpa_service_id", "cpa_account_key"].all (f.hasColumn "accounts")
    when has do
      let dups ← query duplicateCpaAccountKeys
      if dups = [] then createCpaKeyIndex
      else throw (.duplicateCpaAccountKeys dups)

/-! ## Quota and access -/

def cpaRoutingColumns : List Column :=
  [textDefault "cpa_quota_status" "unknown", textDefault "cpa_quota_last_error" "",
    textDefault "cpa_quota_checked_at" "", textDefault "serving_status" "healthy",
    intDefault "failure_count" 0, textDefault "last_failure_at" "",
    textDefault "last_success_at" "", textDefault "cooldown_until" ""]

/-- `quotaJSONBlocked`; `quotaMapBlocked` looks for what `quotaSnapshotBlocked` looks
for. -/
def quotaJSONBlocked (raw : Str) : Bool :=
  match Health.unmarshalMap raw with
  | some data => Health.quotaSnapshotBlocked data
  | none => false

/-- The account has a snapshot that says it is blocked, and no quota status yet. -/
def isBlockedBySnapshot (cells : String → Value) : Bool :=
  cells "source_kind" == .text (lit "cpa") && cells "cpa_provider" == .text (lit "codex") &&
    (cells "cpa_quota_status" == .text [] || cells "cpa_quota_status" == .text (lit "unknown")) &&
    match cells "codex_quota_json" with
    | .text raw => raw != [] && quotaJSONBlocked raw
    | _ => false

/-- The accounts that `backfillCpaQuotaStatusFromSnapshot` is about to change. -/
def blockedIDs (f : File) : Except StartError (List Int) :=
  match f.named "accounts"
      ["id", "codex_quota_json", "source_kind", "cpa_provider", "cpa_quota_status"] with
  | .error x => .error (.sql x)
  | .ok t => .ok ((t.rows.rows.filter fun r => isBlockedBySnapshot r.cell).map SqlRow.rowid)

/-- The row of a blocked account. -/
def blockedCells (now : Str) (cells : String → Value) : String → Value :=
  Function.update (Function.update (Function.update cells "cpa_quota_status" (.text (lit "blocked")))
    "cpa_quota_last_error" (.text (lit "quota blocked by existing snapshot")))
    "cpa_quota_checked_at" (.text now)

def blockAccount (id : Int) : Start Unit :=
  stmt fun e f => f.updateRow "accounts"
    ["cpa_quota_status", "cpa_quota_last_error", "cpa_quota_checked_at", "id"] id
    (blockedCells e.now.datetime)

/-- `backfillCpaQuotaStatusFromSnapshot`. -/
def backfillCpaQuotaStatusFromSnapshot : Start Unit := do
  let has ← ask fun f =>
    ["source_kind", "cpa_provider", "codex_quota_json", "cpa_quota_status"].all
      (f.hasColumn "accounts")
  when has do
    let ids ← query blockedIDs
    ids.forM blockAccount

/-- `migrateCpaRoutingColumns`. -/
def migrateCpaRoutingColumns : Start Unit := do
  let there ← tableExists "accounts"
  when there do
    addColumns "accounts" cpaRoutingColumns
    ensureCpaAccountUniqueIndex
    backfillCpaQuotaStatusFromSnapshot

def cpaAccessColumns : List Column :=
  [textDefault "cpa_access_status" "unknown", textDefault "cpa_access_reason" "",
    textDefault "cpa_access_last_error" "", textDefault "cpa_access_checked_at" ""]

/-- A Codex account whose subscription has one of the statuses. -/
def codexWith (provider subscription : Value) (words : List String) : Bool :=
  lowerIs provider "codex" && words.any (lowerIs subscription)

/-- The two `CASE`s of the access status and its reason. -/
def accessOf (source provider subscription status reason : Value) : Value × Value :=
  if source = .text (lit "cpa") ∧ (status = .text [] ∨ status = .text (lit "unknown")) then
    (if codexWith provider subscription ["active"] then .text (lit "eligible")
      else if codexWith provider subscription ["expired"] then .text (lit "ineligible")
      else if codexWith provider subscription ["pending", "unknown", "free", "error", ""] then
        .text (lit "unknown")
      else status,
     if codexWith provider subscription ["active"] && reason == .text [] then
        .text (lit "subscription_active")
      else if codexWith provider subscription ["expired"] && reason == .text [] then
        .text (lit "subscription_expired")
      else reason)
  else (status, reason)

/-- The two columns after the `UPDATE`. -/
def accessCells (cells : String → Value) : Value × Value :=
  accessOf (cells "source_kind") (cells "cpa_provider") (cells "cpa_subscription_status")
    (cells "cpa_access_status") (cells "cpa_access_reason")

/-- `UPDATE accounts SET cpa_access_status, cpa_access_reason`. -/
def backfillAccessStatus : Update StartEnv where
  table := "accounts"
  columns := ["cpa_access_status", "cpa_access_reason", "cpa_provider", "cpa_subscription_status",
    "source_kind"]
  writes := ["cpa_access_status", "cpa_access_reason"]
  set _ cells :=
    Function.update (Function.update cells "cpa_access_status" (accessCells cells).1)
      "cpa_access_reason" (accessCells cells).2
  keeps := by
    intro e cells c hc
    simp only [List.mem_cons, List.not_mem_nil, or_false, not_or] at hc
    rw [Function.update_of_ne hc.2, Function.update_of_ne hc.1]

/-- `migrateCpaAccessColumns`. -/
def migrateCpaAccessColumns : Start Unit := do
  let there ← tableExists "accounts"
  when there do
    addColumns "accounts" cpaAccessColumns
    let has ← ask fun f =>
      f.hasColumn "accounts" "cpa_provider" && f.hasColumn "accounts" "cpa_subscription_status"
    when has (errorf "backfill cpa_access_status" (update backfillAccessStatus))

/-- `migrateCpaQuotaBackoffColumns`. -/
def migrateCpaQuotaBackoffColumns : Start Unit := do
  let there ← tableExists "accounts"
  when there (addColumns "accounts"
    [textDefault "cpa_quota_backoff_until" "", intDefault "cpa_quota_backoff_count" 0])

/-! ## Request logs -/

/-- `migrateAttemptCountColumn`. -/
def migrateAttemptCountColumn : Start Unit := do
  let there ← tableExists "request_logs"
  when there (unlessColumn "request_logs" "attempt_count"
    (errorf "add column attempt_count" (addColumn "request_logs" (intDefault "attempt_count" 1))))

/-- `migrateRequestLogPoolColumn`. -/
def migrateRequestLogPoolColumn : Start Unit := do
  let there ← tableExists "request_logs"
  when there do
    unlessColumn "request_logs" "pool_id" (addColumn "request_logs" (optional "pool_id"))
    createIndex "idx_request_logs_pool_id" "request_logs" ["pool_id"]

def runtimeBindingColumns : List Column :=
  [textDefault "runtime_auth_index" "", textDefault "runtime_auth_id" "",
    textDefault "runtime_account_key" "", textDefault "runtime_binding_status" "",
    textDefault "runtime_binding_reason" "", textDefault "route_trace" ""]

/-- `migrateRuntimeBindingLogColumns`. -/
def migrateRuntimeBindingLogColumns : Start Unit := do
  let there ← tableExists "request_logs"
  when there (addColumns "request_logs" runtimeBindingColumns)

def operationalColumns : List Column :=
  [textDefault "error_fingerprint" "", intDefault "error_repeat_count" 1,
    textDefault "error_last_seen_at" "", intDefault "diagnostic" 0, intDefault "force_account" 0,
    intDefault "stateful_probe" 0, textDefault "traffic_kind" "ordinary",
    textDefault "account_label_snapshot" ""]

/-- The `CASE` of the traffic kind. -/
def trafficKind (cells : String → Value) : Value :=
  if cells "diagnostic" = .int 1 then .text (lit "diagnostic")
  else if cells "stateful_probe" = .int 1 then .text (lit "stateful_probe")
  else if cells "traffic_kind" = .text [] then .text (lit "ordinary")
  else cells "traffic_kind"

/-- `UPDATE request_logs SET traffic_kind`. -/
def backfillTrafficKind : Update StartEnv :=
  .assign "request_logs" ["traffic_kind", "diagnostic", "stateful_probe"] "traffic_kind"
    (fun _ => trafficKind)

/-- `migrateRequestLogOperationalColumns`. -/
def migrateRequestLogOperationalColumns : Start Unit := do
  let there ← tableExists "request_logs"
  when there do
    addColumns "request_logs" operationalColumns
    errorf "backfill request log traffic kind" (update backfillTrafficKind)
    usageIndexes.forM fun x => createIndex x.1 "request_logs" x.2

/-! ## Pools and their tokens -/

/-- `UPDATE pools SET routing_policy`. -/
def backfillRoutingPolicy : Update StartEnv :=
  .assign "pools" ["routing_policy"] "routing_policy"
    (fun _ cells =>
      if cells "routing_policy" = .text [] ∨ cells "routing_policy" = .null then
        .text (lit "health_first")
      else cells "routing_policy")

/-- `migratePoolRoutingPolicyColumn`. -/
def migratePoolRoutingPolicyColumn : Start Unit := do
  let there ← tableExists "pools"
  when there do
    unlessColumn "pools" "routing_policy" (errorf "add column routing_policy"
      (addColumn "pools" (textDefault "routing_policy" "health_first")))
    errorf "backfill routing_policy" (update backfillRoutingPolicy)

/-- `access_tokens_v13`. -/
def accessTokensV13 : SqlTable := { accessTokensTable with name := "access_tokens_v13" }

/-- `SELECT id, label FROM pools ORDER BY id`. -/
def poolsByID (pools : SqlTable) : List (Int × Value) :=
  (pools.rows.rows.map fun r => (r.rowid, r.cell "label")).insertionSort fun p q => p.1 ≤ q.1

/-- `SELECT ... FROM access_tokens WHERE pool_id = ? ORDER BY id LIMIT 1`. -/
def firstToken (tokens : SqlTable) (poolID : Int) : Option SqlRow :=
  ((tokens.rows.rows.filter fun r => r.cell "pool_id" == .int poolID).insertionSort
    fun r u => r.rowid ≤ u.rowid).head?

def textOf : Value → Str
  | .text s => s
  | _ => []

/-- The row of a pool that has a token. -/
def keptToken (poolID : Int) (r : SqlRow) : SqlRow :=
  accessTokensV13.newRow [] r.rowid
    [("name", r.cell "name"), ("token", r.cell "token"), ("pool_id", .int poolID), ("enabled", .int 1),
      ("created_at", r.cell "created_at"), ("updated_at", r.cell "updated_at"),
      ("last_used_at", r.cell "last_used_at")]

/-- The loop of `migratePoolScopedAccessTokens`: the new table, from the values that are
left to generate. -/
def copyTokens (now : Str) (tokens : SqlTable) :
    List (Int × Value) → List Str → SqlTable → Except StartError SqlTable
  | [], _, table => .ok table
  | (poolID, label) :: pools, generated, table =>
    match firstToken tokens poolID with
    | some r =>
      match ["name", "token", "created_at", "updated_at"].find? fun c => r.cell c == .null with
      | some c => .error (.nullText c)
      | none =>
        match table.insert (keptToken poolID r) with
        | some table => copyTokens now tokens pools generated table
        | none => .error (.sql (.constraint "access_tokens_v13"))
    | none =>
      match generated with
      | value :: generated =>
        match table.insert (table.newRow now table.nextRowid
            [("name", .text (defaultPoolTokenName (textOf label))), ("token", .text value),
              ("pool_id", .int poolID), ("enabled", .int 1)]) with
        | some table => copyTokens now tokens pools generated table
        | none => .error (.sql (.constraint "access_tokens_v13"))
      | [] => .error .noRandom

/-- What the `SELECT` of a token names; without a pool it is not run. -/
def tokenColumns (pools : SqlTable) : List String :=
  if pools.rows.rows = [] then []
  else ["id", "name", "token", "pool_id", "created_at", "updated_at", "last_used_at"]

/-- `DROP TABLE`, `RENAME` and the index: the new table in the place of the old one. -/
def swapTokens (f : File) (table : SqlTable) : File :=
  f.modify "access_tokens" fun old =>
    { table with name := old.name, indexes := ["idx_access_tokens_pool_unique"] }

/-- The transaction of `migratePoolScopedAccessTokens`. -/
def replaceTokens (e : StartEnv) (f : File) : Except StartError File :=
  if f.hasTable "access_tokens_v13" then .error (.sql (.tableExists "access_tokens_v13"))
  else
    match f.named "pools" ["id", "label"] with
    | .error x => .error (.sql x)
    | .ok pools =>
      if pools.rows.rows.any fun r => r.cell "label" == .null then .error (.nullText "label")
      else
        match f.named "access_tokens" (tokenColumns pools) with
        | .error x => .error (.sql x)
        | .ok tokens =>
          match copyTokens e.now.datetime tokens (poolsByID pools) e.generated accessTokensV13 with
          | .error x => .error x
          | .ok table => .ok (swapTokens f table)

/-- `migratePoolScopedAccessTokens`.  Without one of the tables, `ReconcilePoolTokens` has
nothing to do. -/
def migratePoolScopedAccessTokens : Start Unit := do
  let tokensExists ← tableExists "access_tokens"
  let poolsExists ← tableExists "pools"
  when (tokensExists && poolsExists) (exec replaceTokens)

/-! ## Operations and diagnostics -/

/-- `migrateOperationTables`. -/
def migrateOperationTables : Start Unit := do
  create operationsTable
  create operationItemsTable
  createIndex "idx_operations_created_at" "operations" ["created_at"]
  createIndex "idx_operations_type_created" "operations" ["operation_type", "created_at"]
  createIndex "idx_operation_items_operation" "operation_items" ["operation_id", "item_index"]

/-- Which of the columns `provider`, `cpa_provider`, `enabled` and `status` the accounts
have. -/
structure AccountColumns where
  hasProvider : Bool
  hasCpaProvider : Bool
  hasEnabled : Bool
  hasStatus : Bool

/-- The columns that the `SELECT` of the backfill names. -/
def AccountColumns.names (has : AccountColumns) : List String :=
  ["id"] ++ (if has.hasProvider then ["provider"] else []) ++
    (if has.hasCpaProvider then ["cpa_provider"] else []) ++
    (if has.hasEnabled then ["enabled"] else []) ++ (if has.hasStatus then ["status"] else [])

/-- `providerExpr`. -/
def providerExpr (has : AccountColumns) (cells : String → Value) : Value :=
  match has.hasProvider, has.hasCpaProvider with
  | true, true =>
    if cells "cpa_provider" = .text [] ∨ cells "cpa_provider" = .null then cells "provider"
    else cells "cpa_provider"
  | false, true => cells "cpa_provider"
  | true, false => cells "provider"
  | false, false => .text []

/-- `schedulerExpr`. -/
def schedulerExpr (has : AccountColumns) (cells : String → Value) : Value :=
  if (has.hasEnabled && cells "enabled" == .int 0) ||
      (has.hasStatus && cells "status" == .text (lit "disabled")) then
    .text (lit "ineligible")
  else .text (lit "eligible_with_warning")

/-- The row that the backfill inserts for an account. -/
def firstDiagnostic (has : AccountColumns) (r : SqlRow) : Option Int × List (String × Value) :=
  (none, [("account_id", .int r.rowid), ("account_key_hash", .text []),
    ("provider", providerExpr has r.cell), ("stable_diagnostic_status", .text (lit "unknown")),
    ("last_probe_status", .text (lit "not_run")), ("scheduler_status", schedulerExpr has r.cell),
    ("safe_summary", .text (lit "no diagnostic has run yet"))])

/-- `INSERT OR IGNORE INTO account_diagnostics ... SELECT ... FROM accounts`. -/
def insertDiagnostics (has : AccountColumns) (e : StartEnv) (f : File) : Except SqlError File :=
  match f.named "accounts" has.names with
  | .error x => .error x
  | .ok accounts =>
    f.insertOrIgnore e.now.datetime "account_diagnostics"
      ["account_id", "account_key_hash", "provider", "stable_diagnostic_status",
        "last_probe_status", "scheduler_status", "safe_summary"]
      (accounts.rows.rows.map (firstDiagnostic has))

/-- `backfillAccountDiagnostics`. -/
def backfillAccountDiagnostics : Start Unit := do
  let there ← tableExists "accounts"
  when there do
    let has ← ask fun f => AccountColumns.mk (f.hasColumn "accounts" "provider")
      (f.hasColumn "accounts" "cpa_provider") (f.hasColumn "accounts" "enabled")
      (f.hasColumn "accounts" "status")
    stmt (insertDiagnostics has)

/-- `migrateAccountDiagnosticTables`. -/
def migrateAccountDiagnosticTables : Start Unit := do
  create accountDiagnosticsTable
  create accountDiagnosticEvidenceTable
  createIndex "idx_account_diagnostics_account" "account_diagnostics" ["account_id"]
  createIndex "idx_account_diagnostics_operation" "account_diagnostics" ["operation_id"]
  createIndex "idx_account_diagnostic_evidence_diag" "account_diagnostic_evidence"
    ["diagnostic_id", "observed_at"]
  backfillAccountDiagnostics

/-! ## Files from before version 3 -/

/-- The columns of a saved service. -/
def serviceColumns : List String :=
  ["label", "base_url", "api_key", "management_key", "enabled", "status", "last_checked_at",
    "last_error", "created_at", "updated_at"]

/-- The values of a service, when all but the time of its last check are there. -/
def savedService (hasManagementKey : Bool) (r : SqlRow) : Option (List (String × Value)) :=
  let values := serviceColumns.map fun c =>
    (c, if c = "management_key" ∧ ¬hasManagementKey then .text [] else r.cell c)
  if values.any fun v => v.1 != "last_checked_at" && v.2 == .null then none else some values

/-- `backupCpaServices`.  An error only means that nothing is saved. -/
def backupCpaServices (f : File) : List (List (String × Value)) :=
  let hasManagementKey := f.hasColumn "cpa_services" "management_key"
  match f.named "cpa_services"
      (if hasManagementKey then serviceColumns else serviceColumns.erase "management_key") with
  | .ok t => t.rows.rows.filterMap (savedService hasManagementKey)
  | .error _ => []

/-- `dropAllTables`. -/
def dropAllTables : Start Unit := do
  let names ← ask fun f => (f.tables.rows.map SqlTable.name).filter (· != "sqlite_sequence")
  names.forM fun t => errorf ("drop " ++ t) (stmt fun _ f => .ok (f.dropTable t))

/-- `INSERT INTO cpa_services` of a saved service. -/
def insertService (now : Str) (values : List (String × Value)) (f : File) : Except SqlError File :=
  match f.named "cpa_services" serviceColumns with
  | .error x => .error x
  | .ok t =>
    match t.insert (t.newRow now t.nextRowid values) with
    | none => .error (.constraint "cpa_services")
    | some u => .ok (f.modify "cpa_services" fun old => { u with name := old.name })

/-- `restoreCpaServices`. -/
def restoreCpaServices (data : List (List (String × Value))) : Start Unit :=
  data.forM fun values => stmt fun e f => insertService e.now.datetime values f

/-- `createV3Schema`. -/
def createV3Schema : Start Unit := do
  v3Schema
  setSchemaVersion

/-! ## A start -/

/-- What a start repeats on a file of the current version. -/
def repairCurrent : Start Unit := do
  errorf "repair request log pool column" migrateRequestLogPoolColumn
  errorf "repair runtime binding log columns" migrateRuntimeBindingLogColumns
  errorf "repair request log operational columns" migrateRequestLogOperationalColumns
  errorf "repair CPA subscription status column" migrateCpaSubscriptionStatusColumn
  errorf "repair CPA account unique index" ensureCpaAccountUniqueIndex
  errorf "repair pool routing policy column" migratePoolRoutingPolicyColumn
  errorf "repair CPA access columns" migrateCpaAccessColumns
  errorf "repair CPA quota backoff columns" migrateCpaQuotaBackoffColumns
  errorf "repair operation tables" migrateOperationTables
  errorf "repair account diagnostic tables" migrateAccountDiagnosticTables

/-- The migrations that a file of version 9 or later may still lack. -/
def migrateFrom (ver : Int) : Start Unit := do
  when (ver < 10) (errorf "migrate notification text-only" migrateNotificationTextOnly)
  when (ver < 11) (errorf "migrate probe columns" migrateProbeColumns)
  when (ver < 12) (errorf "migrate attempt_count column" migrateAttemptCountColumn)
  errorf "migrate request log pool column" migrateRequestLogPoolColumn
  when (ver < 13) (errorf "migrate pool-scoped access tokens" migratePoolScopedAccessTokens)
  when (ver < 14) (errorf "migrate CPA subscription columns" migrateCpaSubscriptionColumns)
  when (ver < 15) (errorf "migrate CPA credential columns" migrateCpaCredentialColumns)
  when (ver < 16) (errorf "migrate CPA routing columns" migrateCpaRoutingColumns)
  when (ver < 17) do
    errorf "migrate runtime binding log columns" migrateRuntimeBindingLogColumns
    errorf "migrate CPA subscription status column" migrateCpaSubscriptionStatusColumn
  when (ver < 19) (errorf "migrate request log operational columns"
    migrateRequestLogOperationalColumns)
  when (ver < 20) (errorf "migrate pool routing policy column" migratePoolRoutingPolicyColumn)
  when (ver < 21) (errorf "migrate CPA access columns" migrateCpaAccessColumns)
  when (ver < 22) (errorf "migrate CPA quota backoff columns" migrateCpaQuotaBackoffColumns)
  when (ver < 23) (errorf "migrate operation tables" migrateOperationTables)
  when (ver < 24) (errorf "migrate account diagnostic tables" migrateAccountDiagnosticTables)

/-- The migrations of a file of version 3 or later. -/
def upgrade (ver : Int) : Start Unit := do
  when (ver < 8) (errorf "migrate codex quota columns" migrateCodexQuotaColumns)
  when (ver < 9) (errorf "migrate notification singleton" migrateNotificationSingleton)
  migrateFrom ver
  setSchemaVersion

/-- How a file from before version 3 is built anew. -/
def rebuild : Start Unit := do
  let cpaData ← ask backupCpaServices
  errorf "drop tables" dropAllTables
  errorf "create v3 schema" createV3Schema
  when (!cpaData.isEmpty) (attempt (restoreCpaServices cpaData))

/-- `migrateV3`. -/
def migrateV3 : Start Unit := do
  create systemConfigTable
  let ver ← ask schemaVersion
  if ver ≥ v3SchemaVersion then repairCurrent
  else if ver ≥ 3 then upgrade ver
  else if ver = 0 then createV3Schema
  else rebuild

end Lune.Store.Schema
