import Lune.Store.Cache
import Lune.Store.Clock

/-!
# The database

The tables the routing code reads, and the queries it sends them.  A table is
keyed by the column the queries look rows up with: its primary key, or
`account_id` for `account_diagnostics`, which is `UNIQUE`.

The queries that count the members of a pool share one predicate on accounts,
`accountRoutableBaseWhereSQL`; it is written here clause by clause as the
statement has it.
-/

namespace Lune.Store

open GoText Keyed

/-- The tables. -/
structure Database where
  systemConfig : GoMap Str Str := Table.empty
  cpaServices : Table CpaService.id := Table.empty
  pools : Table PoolRow.id := Table.empty
  accounts : Table AccountRow.id := Table.empty
  poolMembers : Table PoolMemberRow.id := Table.empty
  accountModels : Table AccountModelRow.id := Table.empty
  accessTokens : Table AccessToken.id := Table.empty
  accountDiagnostics : Table AccountDiagnostic.accountID := Table.empty
deriving Inhabited

namespace Database

/-! ## The predicate -/

/-- The diagnostic row of an account that keeps it out of routing. -/
def diagnosticBlocksSQL (ad : AccountDiagnostic) : Bool :=
  !([lit "eligible", lit "eligible_with_warning"].contains
      (Sqlite.lower (Sqlite.trim ad.schedulerStatus))) ||
    (Sqlite.trim ad.schedulerOverride == [] &&
      [lit "banned", lit "quota_exhausted", lit "auth_invalid"].contains
        (Sqlite.lower (Sqlite.trim ad.stableDiagnosticStatus)))

/-- The clause for accounts with `source_kind = 'cpa'`. -/
def cpaRoutableSQL (db : Database) (a : AccountRow) : Bool :=
  (db.systemConfig.get? (lit "cpa_provider_pinning_supported")).getD (lit "0") == lit "1" &&
  !([lit "needs_login", lit "refresh_failed", lit "runtime_pending", lit "runtime_error",
    lit "unknown", []].contains (Sqlite.lower a.cpaCredentialStatus)) &&
  Sqlite.lower a.cpaQuotaStatus != lit "blocked" &&
  !(Sqlite.lower a.cpaProvider == lit "codex" && Sqlite.lower a.cpaQuotaStatus == lit "error" &&
    Sqlite.likePrefix a.cpaQuotaLastError (lit "HTTP 429 from model request")) &&
  (Sqlite.lower a.cpaProvider != lit "codex" || Sqlite.lower a.cpaAccessStatus == lit "eligible")

/-- `accountRoutableBaseWhereSQL` and `accountRoutableWhereSQL`. -/
def accountRoutableWhereSQL (db : Database) (now : Clock) (a : AccountRow) : Bool :=
  a.enabled &&
  [lit "healthy", lit "degraded"].contains a.status &&
  a.servingStatus != lit "error" &&
  (a.servingStatus != lit "cooldown" ||
    (a.cooldownUntil != [] && Sqlite.notAfterNow now.seconds a.cooldownUntil)) &&
  !(db.accountDiagnostics.rows.any fun ad => ad.accountID = a.id && diagnosticBlocksSQL ad) &&
  (a.sourceKind != lit "cpa" || db.cpaRoutableSQL a)

/-! ## Queries -/

/-- `pool_members pm JOIN accounts a ON a.id = pm.account_id WHERE pm.pool_id = ?`. -/
def poolAccounts (db : Database) (poolID : Int) : List (PoolMemberRow × AccountRow) :=
  (db.poolMembers.rows.filter fun pm => pm.poolID = poolID).flatMap fun pm =>
    (db.accounts.rows.filter fun a => a.id = pm.accountID).map fun a => (pm, a)

/-- The subquery `account_count`. -/
def accountCount (db : Database) (poolID : Int) : Nat :=
  (db.poolAccounts poolID).countP fun (pm, a) => pm.enabled && a.enabled

/-- The subquery `healthy_account_count`. -/
def healthyAccountCount (db : Database) (poolID : Int) : Nat :=
  (db.poolAccounts poolID).countP fun (pm, a) =>
    pm.enabled && a.enabled && a.status == lit "healthy"

/-- The subquery `routable_account_count`, on `routableAccountWhereSQL`. -/
def routableAccountCount (db : Database) (now : Clock) (poolID : Int) : Nat :=
  (db.poolAccounts poolID).countP fun (pm, a) => pm.enabled && db.accountRoutableWhereSQL now a

/-- `NormalizeRoutingPolicy`. -/
def normalizeRoutingPolicy (value : Str) : Str :=
  let value := trimSpace (toLower value)
  if value = [] then lit "health_first" else value

/-- `GetPoolModels`: the models of the enabled members, each once, sorted. -/
def getPoolModels (db : Database) (poolID : Int) : List Str :=
  let accounts := (db.poolAccounts poolID).filter fun (pm, a) => pm.enabled && a.enabled
  let models := db.accountModels.rows.filter fun am =>
    accounts.any fun (_, a) => a.id == am.accountID
  ((models.map AccountModelRow.modelID).dedup).insertionSort (· ≤ ·)

/-- `scanPoolRowWithCounts` and the models of the pool. -/
def scanPool (db : Database) (now : Clock) (p : PoolRow) : Pool :=
  { id := p.id
    label := p.label
    priority := p.priority
    enabled := p.enabled
    routingPolicy := normalizeRoutingPolicy p.routingPolicy
    createdAt := p.createdAt.getD []
    updatedAt := p.updatedAt.getD []
    accountCount := db.accountCount p.id
    healthyAccountCount := db.healthyAccountCount p.id
    routableAccountCount := db.routableAccountCount now p.id
    models := db.getPoolModels p.id }

/-- `ORDER BY p.priority ASC, p.id ASC`. -/
def poolLe (p q : PoolRow) : Prop :=
  p.priority < q.priority ∨ p.priority = q.priority ∧ p.id ≤ q.id

instance (p q : PoolRow) : Decidable (poolLe p q) := inferInstanceAs (Decidable (_ ∨ _ ∧ _))

/-- `ListPools`. -/
def listPools (db : Database) (now : Clock) : List Pool :=
  (db.pools.rows.insertionSort poolLe).map (db.scanPool now)

/-- `GetPool`. -/
def getPool (db : Database) (now : Clock) (id : Int) : Option Pool :=
  (db.pools.find? id).map (db.scanPool now)

/-- The rows of the first query of `GetOverview`: the pool and its two counts. -/
def overviewPools (db : Database) (now : Clock) : List (PoolRow × Nat × Nat) :=
  db.pools.rows.map fun p => (p, db.accountCount p.id, db.routableAccountCount now p.id)

/-- `PoolsTotal` and `PoolsHealthy` of `GetOverview`. -/
def overviewPoolCounts (db : Database) (now : Clock) : Nat × Nat :=
  let enabled := (db.overviewPools now).filter fun (p, _, _) => p.enabled
  (enabled.length, enabled.countP fun (_, accounts, routable) => 0 < accounts && 0 < routable)

/-- `ORDER BY pm.pool_id, pm.position, pm.id`. -/
def memberRowLe (m n : PoolMemberRow) : Prop :=
  m.poolID < n.poolID ∨ m.poolID = n.poolID ∧
    (m.position < n.position ∨ m.position = n.position ∧ m.id ≤ n.id)

instance (m n : PoolMemberRow) : Decidable (memberRowLe m n) :=
  inferInstanceAs (Decidable (_ ∨ _ ∧ (_ ∨ _ ∧ _)))

/-- `ListAccounts`. -/
def listAccounts (db : Database) : List Account :=
  (db.accounts.rows.insertionSort fun a b => a.id ≤ b.id).map scanAccountRow

/-- `GetAccount`. -/
def getAccount (db : Database) (id : Int) : Option Account :=
  (db.accounts.find? id).map scanAccountRow

/-- `ListAccountDiagnostics`. -/
def listAccountDiagnostics (db : Database) : GoMap Int AccountDiagnostic :=
  (db.accountDiagnostics.rows.insertionSort fun d e => d.accountID ≤ e.accountID).foldl
    (fun (m : GoMap Int AccountDiagnostic) d => m.put d.accountID d) Table.empty

/-- The reads of a load that all succeed and all see the same tables. -/
def tableReads (db : Database) (now : Clock) : TableReads where
  accounts := some db.listAccounts
  diagnostics := some db.listAccountDiagnostics
  pools := some (db.listPools now)
  members := some (db.poolMembers.rows.insertionSort memberRowLe)
  models := some db.accountModels.rows
  tokens := some (db.accessTokens.rows.insertionSort fun t u => t.id ≤ u.id)
  settings := some db.systemConfig
  services := some (db.cpaServices.rows.insertionSort fun s t => s.id ≤ t.id)

/-! ## What the queries find -/

theorem get?_listAccountDiagnostics (db : Database) (id : Int) :
    db.listAccountDiagnostics.get? id = db.accountDiagnostics.find? id := by
  rw [listAccountDiagnostics,
    GoMap.get?_foldl_put_table (List.perm_insertionSort _ db.accountDiagnostics.rows) fun d => d]
  exact Option.map_id'

/-- A loaded account is its row as scanned, with its diagnostic row. -/
theorem get?_accounts_loadFromDB (db : Database) (now : Clock) (id : Int) :
    (loadFromDB (db.tableReads now)).accounts.get? id =
      match db.accountDiagnostics.find? id with
      | some diag => (db.getAccount id).map (attachAccountDiagnostic · diag)
      | none => db.getAccount id := by
  have hload : GoMap.get? (db.listAccounts.foldl
      (fun (m : GoMap Int Account) acc => m.put acc.id acc) Table.empty) id = db.getAccount id := by
    rw [listAccounts, List.foldl_map]
    exact GoMap.get?_foldl_put_table (List.perm_insertionSort _ db.accounts.rows) scanAccountRow id
  have hattach := get?_loadAccountDiagnostics (db.listAccounts.foldl
    (fun (m : GoMap Int Account) acc => m.put acc.id acc) Table.empty) db.listAccountDiagnostics id
  rw [get?_listAccountDiagnostics, hload] at hattach
  exact hattach

end Database

end Lune.Store
