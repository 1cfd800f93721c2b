import Lune.Lib.Restarts
import Lune.Lib.SqlFile
import Lune.Store.Clock

/-!
# The schema

`v3Schema` of `internal/store/store.go`: the tables with their columns, the indexes and
the rows that a new file gets.  A start of the program runs its statements one at a time,
each of them done or not done when the process ends, and gives up at the first error.

Of a column the model has what a statement can meet: whether it may be empty, and what
it holds when no value is given.
-/

namespace Lune.Store.Schema

open GoText SqlFile Restarts

/-! ## Columns -/

/-- `INTEGER PRIMARY KEY`: the number of the row. -/
def idColumn : Column := { name := "id" }

/-- `NOT NULL` without a default. -/
def required (c : String) : Column := { name := c }

/-- A column that may be empty. -/
def optional (c : String) : Column := { name := c, notNull := false }

def textDefault (c d : String) : Column := { name := c, default := .value (.text (lit d)) }

def intDefault (c : String) (n : Int) : Column := { name := c, default := .value (.int n) }

/-- `DEFAULT (datetime('now'))`. -/
def stamped (c : String) : Column := { name := c, default := .now }

/-! ## Tables -/

def systemConfigTable : SqlTable where
  name := "system_config"
  columns := [optional "key", textDefault "value" ""]
  unique := [["key"]]

def cpaServicesTable : SqlTable where
  name := "cpa_services"
  columns :=
    [idColumn, required "label", required "base_url", textDefault "api_key" "",
      textDefault "management_key" "", intDefault "enabled" 1, textDefault "status" "unknown",
      optional "last_checked_at", textDefault "last_error" "", stamped "created_at",
      stamped "updated_at"]

def poolsTable : SqlTable where
  name := "pools"
  columns :=
    [idColumn, required "label", intDefault "priority" 0, intDefault "enabled" 1,
      textDefault "routing_policy" "health_first", stamped "created_at", stamped "updated_at"]
  unique := [["label"]]

def accountsTable : SqlTable where
  name := "accounts"
  columns :=
    [idColumn, required "label", textDefault "source_kind" "openai_compat",
      textDefault "base_url" "", textDefault "api_key" "", textDefault "provider" "",
      optional "cpa_service_id", textDefault "cpa_provider" "", textDefault "cpa_account_key" "",
      textDefault "cpa_email" "", textDefault "cpa_plan_type" "", textDefault "cpa_openai_id" "",
      textDefault "cpa_expired_at" "", textDefault "cpa_last_refresh_at" "",
      intDefault "cpa_disabled" 0, textDefault "cpa_credential_status" "unknown",
      textDefault "cpa_credential_reason" "", textDefault "cpa_credential_last_error" "",
      textDefault "cpa_credential_checked_at" "", textDefault "cpa_subscription_expires_at" "",
      textDefault "cpa_subscription_fetched_at" "", textDefault "cpa_subscription_last_error" "",
      textDefault "cpa_subscription_status" "unknown", textDefault "cpa_access_status" "unknown",
      textDefault "cpa_access_reason" "", textDefault "cpa_access_last_error" "",
      textDefault "cpa_access_checked_at" "", textDefault "codex_quota_json" "",
      textDefault "codex_quota_fetched_at" "", textDefault "cpa_quota_status" "unknown",
      textDefault "cpa_quota_last_error" "", textDefault "cpa_quota_checked_at" "",
      textDefault "cpa_quota_backoff_until" "", intDefault "cpa_quota_backoff_count" 0,
      textDefault "serving_status" "healthy", intDefault "failure_count" 0,
      textDefault "last_failure_at" "", textDefault "last_success_at" "",
      textDefault "cooldown_until" "", textDefault "probe_models" "[]",
      textDefault "last_probe_status" "", optional "last_probe_at",
      textDefault "last_probe_error" "", intDefault "enabled" 1, textDefault "status" "unknown",
      textDefault "notes" "", textDefault "quota_display" "", optional "last_checked_at",
      textDefault "last_error" "", stamped "created_at", stamped "updated_at"]

def poolMembersTable : SqlTable where
  name := "pool_members"
  columns :=
    [idColumn, required "pool_id", required "account_id", intDefault "position" 0,
      intDefault "enabled" 1, stamped "created_at"]
  unique := [["pool_id", "account_id"]]

def accountModelsTable : SqlTable where
  name := "account_models"
  columns := [idColumn, required "account_id", required "model_id", stamped "created_at"]
  unique := [["account_id", "model_id"]]

def accessTokensTable : SqlTable where
  name := "access_tokens"
  columns :=
    [idColumn, required "name", required "token", required "pool_id", intDefault "enabled" 1,
      stamped "created_at", stamped "updated_at", optional "last_used_at"]
  unique := [["token"], ["pool_id"]]

def requestLogsTable : SqlTable where
  name := "request_logs"
  columns :=
    [idColumn, required "request_id", textDefault "access_token_name" "",
      textDefault "model_requested" "", textDefault "model_actual" "", optional "pool_id",
      optional "account_id", textDefault "account_label_snapshot" "", intDefault "status_code" 0,
      intDefault "latency_ms" 0, intDefault "input_tokens" 0, intDefault "output_tokens" 0,
      intDefault "stream" 0, textDefault "request_ip" "", intDefault "success" 1,
      textDefault "error_message" "", textDefault "error_fingerprint" "",
      intDefault "error_repeat_count" 1, textDefault "error_last_seen_at" "",
      textDefault "source_kind" "", intDefault "attempt_count" 1, intDefault "diagnostic" 0,
      intDefault "force_account" 0, intDefault "stateful_probe" 0,
      textDefault "traffic_kind" "ordinary", textDefault "runtime_auth_index" "",
      textDefault "runtime_auth_id" "", textDefault "runtime_account_key" "",
      textDefault "runtime_binding_status" "", textDefault "runtime_binding_reason" "",
      textDefault "route_trace" "", stamped "created_at"]

def notificationSettingsTable : SqlTable where
  name := "notification_settings"
  columns :=
    [idColumn, intDefault "enabled" 0, textDefault "webhook_url" "",
      textDefault "mention_mobile_list" "[]", stamped "created_at", stamped "updated_at"]

def notificationSubscriptionsTable : SqlTable where
  name := "notification_subscriptions"
  columns :=
    [optional "event", intDefault "subscribed" 1, required "body_template", stamped "updated_at"]
  unique := [["event"]]

def notificationOutboxTable : SqlTable where
  name := "notification_outbox"
  columns :=
    [idColumn, intDefault "channel_id" 1, required "event", required "severity",
      required "payload", textDefault "dedup_key" "", textDefault "status" "pending",
      intDefault "attempt" 0, stamped "next_attempt_at", textDefault "last_error" "",
      stamped "created_at", stamped "updated_at"]

def notificationDeliveriesTable : SqlTable where
  name := "notification_deliveries"
  columns :=
    [idColumn, intDefault "channel_id" 1, textDefault "channel_name" "wechat_work_bot",
      textDefault "channel_type" "wechat_work_bot", required "event", required "severity",
      textDefault "title" "", textDefault "payload_summary" "", required "status",
      textDefault "upstream_code" "", textDefault "upstream_message" "",
      intDefault "latency_ms" 0, intDefault "attempt" 1, textDefault "dedup_key" "",
      textDefault "triggered_by" "system", stamped "created_at"]

def operationsTable : SqlTable where
  name := "operations"
  columns :=
    [idColumn, required "operation_id", required "operation_type", textDefault "source" "",
      textDefault "target_type" "", textDefault "target_id" "", textDefault "target_summary" "",
      required "status", textDefault "error_code" "", textDefault "safe_error_message" "",
      textDefault "correlation_id" "", stamped "started_at", stamped "finished_at",
      stamped "created_at"]
  unique := [["operation_id"]]

def operationItemsTable : SqlTable where
  name := "operation_items"
  columns :=
    [idColumn, required "operation_id", intDefault "item_index" 0,
      textDefault "client_file_name" "", textDefault "account_key_hash" "",
      textDefault "action" "", textDefault "status" "", textDefault "runtime_sync" "",
      textDefault "error_code" "", textDefault "safe_error_message" "", optional "account_id",
      optional "pool_member_id", textDefault "stage" "", stamped "created_at"]

def accountDiagnosticsTable : SqlTable where
  name := "account_diagnostics"
  columns :=
    [idColumn, required "account_id", textDefault "account_key_hash" "",
      textDefault "provider" "", textDefault "operation_id" "", stamped "started_at",
      stamped "finished_at", textDefault "stable_diagnostic_status" "unknown",
      textDefault "previous_stable_diagnostic_status" "",
      textDefault "last_probe_status" "not_run",
      textDefault "scheduler_status" "eligible_with_warning", textDefault "scheduler_override" "",
      textDefault "safe_summary" "", stamped "created_at", stamped "updated_at"]
  unique := [["account_id"]]

def accountDiagnosticEvidenceTable : SqlTable where
  name := "account_diagnostic_evidence"
  columns :=
    [idColumn, required "diagnostic_id", textDefault "probe_type" "", textDefault "stage" "",
      optional "http_status", textDefault "upstream_error_code" "",
      textDefault "normalized_error_code" "", textDefault "safe_message" "",
      stamped "observed_at", optional "request_log_id"]

/-- The tables of `v3Schema`. -/
def tables : List SqlTable :=
  [systemConfigTable, cpaServicesTable, poolsTable, accountsTable, poolMembersTable,
    accountModelsTable, accessTokensTable, requestLogsTable, notificationSettingsTable,
    notificationSubscriptionsTable, notificationOutboxTable, notificationDeliveriesTable,
    operationsTable, operationItemsTable, accountDiagnosticsTable,
    accountDiagnosticEvidenceTable]

/-! ## Starts -/

/-- What a statement reads besides the file: the clock, `datetime` of SQLite at that
time, and the values that `generateToken` has yet to return. -/
structure StartEnv where
  now : Clock
  datetime : Str → Option Str
  generated : List Str

/-- Why a start fails; `within` is an error passed on with the text before it. -/
inductive StartError where
  | sql (x : SqlError)
  | nullText (column : String)
  | noRandom
  | duplicateCpaAccountKeys (groups : List (List Value × Nat))
  | within (text : String) (x : StartError)

/-- Work of a start of the program on the file. -/
abbrev Start (α : Type) := Work StartEnv File StartError α

/-- `db.Exec`. -/
def stmt (f : StartEnv → File → Except SqlError File) : Start Unit :=
  exec fun e file => (f e file).mapError .sql

/-- `fmt.Errorf` with the error at the end. -/
def errorf (text : String) (p : Start Unit) : Start Unit := wrap (.within text) p

def create (table : SqlTable) : Start Unit := stmt fun _ f => .ok (f.createTable table)

def createIndex (x t : String) (cs : List String) : Start Unit := stmt fun _ f => f.createIndex x t cs

def seed (t : String) (cs : List String) (rows : List (Option Int × List (String × Value))) :
    Start Unit :=
  stmt fun e f => f.insertOrIgnore e.now.datetime t cs rows

/-! ## The statements of `v3Schema` -/

/-- `cpa_account_key <> ''`, where `NULL` is not true. -/
def isNonempty : Value → Bool
  | .null => false
  | .int _ => true
  | .text s => s != []

/-- The rows of `accounts` in which the key of the CPA account is unique. -/
def hasCpaKey (cells : String → Value) : Bool :=
  cells "source_kind" == .text (lit "cpa") && cells "cpa_service_id" != .null &&
    isNonempty (cells "cpa_account_key")

/-- `idx_accounts_cpa_service_key_unique`. -/
def createCpaKeyIndex : Start Unit :=
  stmt fun _ f => f.createUniqueIndex "idx_accounts_cpa_service_key_unique" "accounts"
    ["cpa_service_id", "cpa_account_key"] ["source_kind"] hasCpaKey

/-- The rows of `notification_outbox` that are still to be sent. -/
def isActive (cells : String → Value) : Bool :=
  cells "status" == .text (lit "pending") || cells "status" == .text (lit "retrying")

/-- The indexes of the usage page. -/
def usageIndexes : List (String × List String) :=
  [("idx_request_logs_usage_filters",
      ["created_at", "access_token_name", "account_id", "model_requested", "model_actual",
        "source_kind"]),
    ("idx_request_logs_usage_account_created", ["account_id", "diagnostic", "created_at", "id"]),
    ("idx_request_logs_usage_traffic_created", ["traffic_kind", "created_at", "id"]),
    ("idx_request_logs_usage_source_created", ["source_kind", "diagnostic", "created_at", "id"]),
    ("idx_request_logs_usage_token_created",
      ["access_token_name", "diagnostic", "created_at", "id"]),
    ("idx_request_logs_usage_model_requested_created",
      ["model_requested", "diagnostic", "created_at", "id"]),
    ("idx_request_logs_usage_model_actual_created",
      ["model_actual", "diagnostic", "created_at", "id"]),
    ("idx_request_logs_error_fingerprint", ["error_fingerprint", "created_at"])]

/-- The row of a subscription, as it is inserted. -/
def subscription (event body : String) : Option Int × List (String × Value) :=
  (none, [("event", .text (lit event)), ("subscribed", .int 1), ("body_template", .text (lit body))])

def accountExpiringBody : String :=
  "账号 \x7b\x7b .Vars.account_label \x7d\x7d 将在 \x7b\x7b .Vars.expires_at \x7d\x7d 过期。"

def cpaCredentialErrorBody : String :=
  "账号 \x7b\x7b .Vars.account_label \x7d\x7d 的 CPA 登录态失效：" ++
    "\x7b\x7b .Vars.last_error \x7d\x7d。请重新登录。"

def cpaQuotaBlockedBody : String :=
  "账号 \x7b\x7b .Vars.account_label \x7d\x7d 的 CPA 额度受限：\x7b\x7b .Vars.last_error \x7d\x7d"

def accountErrorBody : String :=
  "账号 \x7b\x7b .Vars.account_label \x7d\x7d 最近错误：\x7b\x7b .Vars.last_error \x7d\x7d"

def cpaServiceErrorBody : String :=
  "CPA runtime \x7b\x7b .Vars.service_label \x7d\x7d 最近错误：\x7b\x7b .Vars.last_error \x7d\x7d"

def cpaImportBatchBody : String :=
  "CPA auth JSON 批量导入 \x7b\x7b .Vars.batch_id \x7d\x7d：created=\x7b\x7b .Vars.created \x7d\x7d " ++
    "updated=\x7b\x7b .Vars.updated \x7d\x7d skipped=\x7b\x7b .Vars.skipped \x7d\x7d " ++
    "failed=\x7b\x7b .Vars.failed \x7d\x7d runtime_pending=\x7b\x7b .Vars.runtime_pending \x7d\x7d " ++
    "runtime_failed=\x7b\x7b .Vars.runtime_failed \x7d\x7d"

/-- The subscriptions of a new file. -/
def subscriptions : List (Option Int × List (String × Value)) :=
  [subscription "account_expiring" accountExpiringBody,
    subscription "cpa_credential_error" cpaCredentialErrorBody,
    subscription "cpa_quota_blocked" cpaQuotaBlockedBody,
    subscription "account_error" accountErrorBody,
    subscription "cpa_service_error" cpaServiceErrorBody,
    subscription "cpa_import_batch" cpaImportBatchBody,
    subscription "test" "这是一条用于验证渠道可达性的真实消息，可忽略。"]

/-- `v3Schema`. -/
def v3Schema : Start Unit := do
  create systemConfigTable
  create cpaServicesTable
  create poolsTable
  create accountsTable
  create poolMembersTable
  create accountModelsTable
  create accessTokensTable
  create requestLogsTable
  createIndex "idx_request_logs_created_at" "request_logs" ["created_at"]
  createIndex "idx_request_logs_pool_id" "request_logs" ["pool_id"]
  usageIndexes.forM fun x => createIndex x.1 "request_logs" x.2
  createCpaKeyIndex
  create notificationSettingsTable
  create notificationSubscriptionsTable
  create notificationOutboxTable
  create notificationDeliveriesTable
  createIndex "idx_notification_outbox_pending" "notification_outbox" ["status", "next_attempt_at"]
  stmt fun _ f => f.createUniqueIndex "idx_notification_outbox_active_unique" "notification_outbox"
    ["dedup_key"] ["status"] isActive
  createIndex "idx_notification_deliveries_created" "notification_deliveries" ["created_at"]
  create operationsTable
  create operationItemsTable
  createIndex "idx_operations_created_at" "operations" ["created_at"]
  createIndex "idx_operations_type_created" "operations" ["operation_type", "created_at"]
  createIndex "idx_operation_items_operation" "operation_items" ["operation_id", "item_index"]
  create accountDiagnosticsTable
  create accountDiagnosticEvidenceTable
  createIndex "idx_account_diagnostics_account" "account_diagnostics" ["account_id"]
  createIndex "idx_account_diagnostics_operation" "account_diagnostics" ["operation_id"]
  createIndex "idx_account_diagnostic_evidence_diag" "account_diagnostic_evidence"
    ["diagnostic_id", "observed_at"]
  seed "notification_settings" ["id"] [(some 1, [])]
  seed "notification_subscriptions" ["event", "subscribed", "body_template"] subscriptions

end Lune.Store.Schema
