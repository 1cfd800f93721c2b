import Lune.Store.Writes

/-!
# Creating, importing and enabling accounts

The writes of the administration and of the start of the program to `accounts`,
from `internal/store/accounts.go` and `internal/store/store.go`, and
`AccountWrite`, one of these or a `StoreCall`.

A statement that breaks a constraint changes nothing: an account may not repeat
the service and the key of another CPA account, and the service and the pool it
names must be there.
-/

namespace Lune.Store

open GoText Keyed

/-! ## The access of an imported account -/

/-- `initialCpaAccessStatus`. -/
def initialCpaAccessStatus (a : Account) : Str :=
  let subscription := toLower a.cpaSubscriptionStatus
  if !isBlank a.cpaAccessStatus then a.cpaAccessStatus
  else if equalFold a.cpaProvider (lit "codex") && subscription == lit "active" then lit "eligible"
  else if equalFold a.cpaProvider (lit "codex") && subscription == lit "expired" then
    lit "ineligible"
  else lit "unknown"

/-- `initialCpaAccessReason`. -/
def initialCpaAccessReason (a : Account) : Str :=
  let subscription := toLower a.cpaSubscriptionStatus
  if !isBlank a.cpaAccessReason || !isBlank a.cpaAccessStatus then firstNonEmpty [a.cpaAccessReason]
  else if equalFold a.cpaProvider (lit "codex") && subscription == lit "active" then
    lit "subscription_active"
  else if equalFold a.cpaProvider (lit "codex") && subscription == lit "expired" then
    lit "subscription_expired"
  else []

/-- `initialCpaAccessCheckedAt`. -/
def initialCpaAccessCheckedAt (env : StoreEnv) (a : Account) : Str :=
  if !isBlank a.cpaAccessCheckedAt || !isBlank a.cpaAccessStatus then
    firstNonEmpty [a.cpaAccessCheckedAt]
  else if equalFold a.cpaProvider (lit "codex") &&
      (equalFold a.cpaSubscriptionStatus (lit "active") ||
        equalFold a.cpaSubscriptionStatus (lit "expired")) then
    env.now.rfc3339
  else []

namespace Database

/-! ## New rows -/

/-- The row that `INSERT INTO accounts` adds.  Its id follows the highest one. -/
def newAccount (db : Database) (env : StoreEnv) (sourceKind : Str) (a : Account) : AccountRow :=
  { id := (db.accounts.rows.map AccountRow.id).foldl max 0 + 1
    label := a.label
    sourceKind := sourceKind
    baseURL := a.baseURL
    apiKey := a.apiKey
    provider := a.provider
    cpaServiceID := a.cpaServiceID
    cpaProvider := a.cpaProvider
    cpaAccountKey := a.cpaAccountKey
    cpaEmail := a.cpaEmail
    cpaPlanType := a.cpaPlanType
    cpaOpenaiID := a.cpaOpenaiID
    cpaExpiredAt := a.cpaExpiredAt
    cpaLastRefreshAt := a.cpaLastRefreshAt
    cpaDisabled := a.cpaDisabled
    cpaCredentialStatus := defaultCpaStatus a.cpaCredentialStatus
    cpaCredentialReason := a.cpaCredentialReason
    cpaCredentialLastError := a.cpaCredentialLastError
    cpaCredentialCheckedAt := a.cpaCredentialCheckedAt
    cpaSubscriptionExpiresAt := a.cpaSubscriptionExpiresAt
    cpaSubscriptionFetchedAt := a.cpaSubscriptionFetchedAt
    cpaSubscriptionLastError := a.cpaSubscriptionLastError
    cpaSubscriptionStatus := defaultCpaStatus a.cpaSubscriptionStatus
    cpaAccessStatus := initialCpaAccessStatus a
    cpaAccessReason := initialCpaAccessReason a
    cpaAccessLastError := a.cpaAccessLastError
    cpaAccessCheckedAt := initialCpaAccessCheckedAt env a
    cpaQuotaStatus := defaultCpaStatus a.cpaQuotaStatus
    cpaQuotaLastError := a.cpaQuotaLastError
    cpaQuotaCheckedAt := a.cpaQuotaCheckedAt
    servingStatus := defaultServingStatus a.servingStatus
    failureCount := a.failureCount
    lastFailureAt := a.lastFailureAt
    lastSuccessAt := a.lastSuccessAt
    cooldownUntil := a.cooldownUntil
    enabled := a.enabled
    status := lit "healthy"
    notes := a.notes
    updatedAt := env.now.datetime }

/-- The insertion breaks `idx_accounts_cpa_service_key_unique` or the reference
to the service. -/
def insertAccountFails (db : Database) (row : AccountRow) : Bool :=
  match row.cpaServiceID with
  | none => false
  | some serviceID =>
    (db.cpaServices.find? serviceID).isNone ||
      (row.sourceKind == lit "cpa" && row.cpaAccountKey != [] &&
        db.accounts.rows.any fun other =>
          other.sourceKind == lit "cpa" && other.cpaServiceID == some serviceID &&
            other.cpaAccountKey == row.cpaAccountKey)

/-- `ensureAccountDiagnosticTx`, on the account as it was passed. -/
def ensureAccountDiagnosticTx (db : Database) (env : StoreEnv) (acc : Account) : Database :=
  { db with accountDiagnostics := db.accountDiagnostics.insertOrIgnore (db.newDiagnostic env acc) }

/-- `CreateAccount`. -/
def createAccount (db : Database) (env : StoreEnv) (a : Account) : Database :=
  let sourceKind := if a.sourceKind = [] then lit "openai_compat" else a.sourceKind
  let row := db.newAccount env sourceKind a
  if db.insertAccountFails row then db
  else
    { db with accounts := db.accounts.set row }.ensureAccountDiagnosticTx env
      { a with id := row.id, sourceKind := sourceKind }

/-! ## Changes to a row -/

/-- `UpdateAccount`. -/
def updateAccountSettings (db : Database) (env : StoreEnv) (id : Int) (a : Account) : Database :=
  db.updateAccount env id fun row =>
    { row with
      label := a.label
      baseURL := a.baseURL
      apiKey := a.apiKey
      provider := a.provider
      enabled := a.enabled
      notes := a.notes }

/-- `EnableAccount`. -/
def enableAccount (db : Database) (env : StoreEnv) (id : Int) : Database :=
  db.updateAccount env id fun row => { row with enabled := true }

/-- `DisableAccount`. -/
def disableAccount (db : Database) (env : StoreEnv) (id : Int) : Database :=
  db.updateAccount env id fun row => { row with enabled := false, status := lit "disabled" }

/-! ## Imports -/

/-- What an import makes of the row of an account that is there. -/
def importedAccount (env : StoreEnv) (a : Account) (row : AccountRow) : AccountRow :=
  { row with
    label := a.label
    cpaProvider := a.cpaProvider
    cpaEmail := a.cpaEmail
    cpaPlanType := a.cpaPlanType
    cpaOpenaiID := a.cpaOpenaiID
    cpaExpiredAt := a.cpaExpiredAt
    cpaLastRefreshAt := a.cpaLastRefreshAt
    cpaDisabled := a.cpaDisabled
    cpaCredentialStatus := defaultCpaStatus a.cpaCredentialStatus
    cpaCredentialReason := a.cpaCredentialReason
    cpaCredentialLastError := a.cpaCredentialLastError
    cpaCredentialCheckedAt := a.cpaCredentialCheckedAt
    cpaSubscriptionExpiresAt := a.cpaSubscriptionExpiresAt
    cpaSubscriptionFetchedAt := a.cpaSubscriptionFetchedAt
    cpaSubscriptionLastError := a.cpaSubscriptionLastError
    cpaSubscriptionStatus := defaultCpaStatus a.cpaSubscriptionStatus
    cpaAccessStatus := initialCpaAccessStatus a
    cpaAccessReason := initialCpaAccessReason a
    cpaAccessLastError := a.cpaAccessLastError
    cpaAccessCheckedAt := initialCpaAccessCheckedAt env a
    enabled := a.enabled
    status := lit "healthy"
    lastError := []
    lastCheckedAt := some env.now.datetime
    notes := a.notes }

/-- `UpdateCpaAccountFromImport`. -/
def updateCpaAccountFromImport (db : Database) (env : StoreEnv) (id : Int) (a : Account) :
    Database :=
  db.updateAccount env id (importedAccount env a)

/-- `FindAccountByCpaKey`. -/
def findAccountByCpaKey (db : Database) (serviceID : Int) (accountKey : Str) : Option Account :=
  (db.accounts.rows.find? fun a =>
    a.cpaServiceID == some serviceID && a.cpaAccountKey == accountKey).map scanAccountRow

/-- `INSERT OR IGNORE INTO pool_members`, at the end of the pool. -/
def addPoolMemberIdempotent (db : Database) (poolID accountID : Int) : Database :=
  let members := db.poolMembers.rows.filter fun pm => pm.poolID = poolID
  if members.any fun pm => pm.accountID = accountID then db
  else
    let position := match (members.map PoolMemberRow.position).max? with
      | some last => last + 1
      | none => 0
    { db with
      poolMembers := db.poolMembers.set
        { id := (db.poolMembers.rows.map PoolMemberRow.id).foldl max 0 + 1
          poolID := poolID
          accountID := accountID
          position := position } }

/-- `AddPoolMemberIdempotent` breaks the reference to the pool or the account. -/
def addPoolMemberFails (db : Database) (poolID accountID : Int) : Bool :=
  (db.pools.find? poolID).isNone || (db.accounts.find? accountID).isNone

/-- `UpsertCpaAccountAndPoolMemberFromImport`, a transaction that is rolled back
when a statement fails. -/
def upsertCpaAccountAndPoolMemberFromImport (db : Database) (env : StoreEnv) (poolID : Int)
    (a : Account) : Database :=
  match a.cpaServiceID with
  | none => db
  | some serviceID =>
    if (db.pools.find? poolID).isNone then db
    else match db.findAccountByCpaKey serviceID a.cpaAccountKey with
      | some existing =>
        ((db.updateCpaAccountFromImport env existing.id a).addPoolMemberIdempotent poolID
          existing.id).ensureAccountDiagnosticTx env { a with id := existing.id }
      | none =>
        let row := db.newAccount env (firstNonEmpty [a.sourceKind, lit "cpa"]) a
        if db.insertAccountFails row then db
        else
          ({ db with accounts := db.accounts.set row }.addPoolMemberIdempotent poolID
            row.id).ensureAccountDiagnosticTx env { a with id := row.id }

/-- `UpdateAccountCpaSubscriptionStatus`, which nothing calls. -/
def updateAccountCpaSubscriptionStatus (db : Database) (env : StoreEnv) (id : Int)
    (status lastError checkedAt : Str) : Database :=
  let status := defaultCpaStatus status
  db.updateAccount env id fun a =>
    let active := status == lit "active"
    let expires := status == lit "expired" &&
      (a.cpaAccessStatus != lit "eligible" || a.cpaAccessReason == lit "subscription_active")
    { a with
      cpaSubscriptionStatus := status
      cpaSubscriptionLastError := lastError
      cpaSubscriptionFetchedAt := checkedAt
      cpaAccessStatus :=
        if active then lit "eligible" else if expires then lit "ineligible" else a.cpaAccessStatus
      cpaAccessReason :=
        if active then lit "subscription_active"
        else if expires then lit "subscription_expired" else a.cpaAccessReason
      cpaAccessLastError := if active then [] else a.cpaAccessLastError
      cpaAccessCheckedAt :=
        if active || status == lit "expired" then checkedAt else a.cpaAccessCheckedAt }

/-! ## The start of the program -/

/-- The row that `backfillAccountDiagnostics` inserts for an account. -/
def backfilledDiagnostic (db : Database) (env : StoreEnv) (a : AccountRow) : AccountDiagnostic :=
  { id := (db.accountDiagnostics.rows.map AccountDiagnostic.id).foldl max 0 + 1
    accountID := a.id
    provider := if a.cpaProvider = [] then a.provider else a.cpaProvider
    startedAt := env.now.datetime
    finishedAt := env.now.datetime
    schedulerStatus :=
      if !a.enabled || a.status == lit "disabled" then lit "ineligible"
      else lit "eligible_with_warning"
    safeSummary := lit "no diagnostic has run yet"
    createdAt := env.now.datetime
    updatedAt := env.now.datetime }

/-- `backfillAccountDiagnostics`. -/
def backfillAccountDiagnostics (db : Database) (env : StoreEnv) : Database :=
  db.accounts.rows.foldl (fun db a =>
    { db with
      accountDiagnostics := db.accountDiagnostics.insertOrIgnore (db.backfilledDiagnostic env a) })
    db

/-- What the statement of `migrateCpaAccessColumns` makes of a row. -/
def backfilledAccess (a : AccountRow) : AccountRow :=
  let subscription := Sqlite.lower a.cpaSubscriptionStatus
  if a.sourceKind == lit "cpa" && [[], lit "unknown"].contains a.cpaAccessStatus &&
      Sqlite.lower a.cpaProvider == lit "codex" then
    { a with
      cpaAccessStatus :=
        if subscription = lit "active" then lit "eligible"
        else if subscription = lit "expired" then lit "ineligible"
        else if [lit "pending", lit "unknown", lit "free", lit "error", []].contains subscription
          then lit "unknown"
        else a.cpaAccessStatus
      cpaAccessReason :=
        if a.cpaAccessReason ≠ [] then a.cpaAccessReason
        else if subscription = lit "active" then lit "subscription_active"
        else if subscription = lit "expired" then lit "subscription_expired"
        else [] }
  else a

/-- The statement of `migrateCpaAccessColumns`. -/
def migrateCpaAccessColumns (db : Database) : Database :=
  { db with
    accounts := db.accounts.rows.foldl (fun t a => t.modify a.id backfilledAccess) db.accounts }

end Database

/-! ## Writes about accounts -/

/-- A statement of the serving paths, of the administration, or of the start. -/
inductive AccountWrite where
  | call (call : StoreCall)
  | createAccount (a : Account)
  | updateAccount (id : Int) (a : Account)
  | enableAccount (id : Int)
  | disableAccount (id : Int)
  | updateCpaAccountFromImport (id : Int) (a : Account)
  | upsertCpaAccountAndPoolMemberFromImport (poolID : Int) (a : Account)
  | addPoolMemberIdempotent (poolID accountID : Int)
  | updateAccountCpaSubscriptionStatus (id : Int) (status lastError checkedAt : Str)
  | backfillAccountDiagnostics
  | migrateCpaAccessColumns

/-- The tables after a write. -/
def AccountWrite.run (env : StoreEnv) (db : Database) : AccountWrite → Database
  | call c => c.run env db
  | createAccount a => db.createAccount env a
  | updateAccount id a => db.updateAccountSettings env id a
  | enableAccount id => db.enableAccount env id
  | disableAccount id => db.disableAccount env id
  | updateCpaAccountFromImport id a => db.updateCpaAccountFromImport env id a
  | upsertCpaAccountAndPoolMemberFromImport poolID a =>
    db.upsertCpaAccountAndPoolMemberFromImport env poolID a
  | addPoolMemberIdempotent poolID accountID =>
    if db.addPoolMemberFails poolID accountID then db
    else db.addPoolMemberIdempotent poolID accountID
  | updateAccountCpaSubscriptionStatus id status lastError checkedAt =>
    db.updateAccountCpaSubscriptionStatus env id status lastError checkedAt
  | backfillAccountDiagnostics => db.backfillAccountDiagnostics env
  | migrateCpaAccessColumns => db.migrateCpaAccessColumns

/-! ## Runs -/

/-- The statements of a run, each with what it reads. -/
abbrev History := List (StoreEnv × AccountWrite)

/-- The database after the first `n` statements. -/
def reached (db : Database) (history : History) (n : Nat) : Database :=
  (history.take n).foldl (fun db (step : StoreEnv × AccountWrite) => step.2.run step.1 db) db

theorem reached_succ {db : Database} {history : History} {n : Nat} {env : StoreEnv}
    {w : AccountWrite} (h : history[n]? = some (env, w)) :
    reached db history (n + 1) = w.run env (reached db history n) := by
  rw [reached, List.take_add_one, h, List.foldl_append]
  rfl

theorem reached_end {db : Database} {history : History} {n : Nat} (h : history[n]? = none) :
    reached db history (n + 1) = reached db history n := by
  rw [reached, List.take_add_one, h, List.foldl_append]
  rfl

/-- What every statement of a run keeps holds in every state of it. -/
theorem reached_induction {P : Database → Prop} {db : Database} {history : History} (hdb : P db)
    (hstep : ∀ env w, (env, w) ∈ history → ∀ db, P db → P (w.run env db)) (n : Nat) :
    P (reached db history n) := by
  induction n with
  | zero => exact hdb
  | succ n ih =>
    cases hn : history[n]? with
    | none =>
      rw [reached_end hn]
      exact ih
    | some step =>
      rw [reached_succ hn]
      exact hstep step.1 step.2 (List.mem_of_getElem? hn) _ ih

/-! ## The members of a pool -/

namespace Database

variable {db : Database} {poolID id : Int}

/-- Every member is an account that is there, which is the reference of the schema. -/
def MembersNamed (db : Database) : Prop :=
  ∀ pm ∈ db.poolMembers.rows, (db.accounts.find? pm.accountID).isSome = true

/-- The account is in the pool. -/
def IsMember (db : Database) (poolID accountID : Int) : Prop :=
  ∃ pm ∈ db.poolMembers.rows, pm.poolID = poolID ∧ pm.accountID = accountID

/-- A new member has a new id and the last position of the pool. -/
theorem rows_addPoolMemberIdempotent (h : ¬db.IsMember poolID id) :
    ∃ pm : PoolMemberRow, pm.poolID = poolID ∧ pm.accountID = id ∧
      (∀ m ∈ db.poolMembers.rows, m.id ≠ pm.id) ∧
      (∀ m ∈ db.poolMembers.rows, m.poolID = poolID → m.position < pm.position) ∧
      (db.addPoolMemberIdempotent poolID id).poolMembers.rows = db.poolMembers.rows ++ [pm] := by
  have hany : ¬((db.poolMembers.rows.filter fun pm => pm.poolID = poolID).any fun pm =>
      pm.accountID = id) = true := by
    intro hany
    obtain ⟨pm, hpm, hid⟩ := List.any_eq_true.mp hany
    obtain ⟨hmem, hpool⟩ := List.mem_filter.mp hpm
    exact h ⟨pm, hmem, of_decide_eq_true hpool, of_decide_eq_true hid⟩
  have hfresh := Table.find?_next db.poolMembers
  unfold addPoolMemberIdempotent
  dsimp only
  rw [if_neg hany]
  refine ⟨_, rfl, rfl, fun m hm heq => ?_, fun m hm hpool => ?_, Table.rows_set_of_fresh hfresh⟩
  · exact List.find?_eq_none.mp hfresh m hm (decide_eq_true heq)
  · have hposition : m.position ∈ (db.poolMembers.rows.filter fun pm => pm.poolID = poolID).map
        PoolMemberRow.position :=
      List.mem_map_of_mem (List.mem_filter.mpr ⟨hm, decide_eq_true hpool⟩)
    dsimp only
    split
    next last hmax =>
      have hle := (List.max?_eq_some_iff.mp hmax).2 _ hposition
      exact Int.lt_add_one_of_le hle
    next hmax =>
      rw [List.max?_eq_none_iff.mp hmax] at hposition
      contradiction

theorem addPoolMemberIdempotent_of_member (h : db.IsMember poolID id) :
    db.addPoolMemberIdempotent poolID id = db := by
  obtain ⟨pm, hmem, hpool, hid⟩ := h
  have hany : ((db.poolMembers.rows.filter fun pm => pm.poolID = poolID).any fun pm =>
      pm.accountID = id) = true :=
    List.any_eq_true.mpr ⟨pm, List.mem_filter.mpr ⟨hmem, decide_eq_true hpool⟩, decide_eq_true hid⟩
  unfold addPoolMemberIdempotent
  dsimp only
  rw [if_pos hany]

end Database

end Lune.Store
