import Lune.Store.Database
import Lune.Store.Routability

/-!
# Writes to the store

The statements that request handling and the credential resolver send to the
database, each as a function on the tables, and `StoreCall`, a statement with
its arguments.  A statement that runs succeeds; the columns left out of the rows
are left out here too, and so is the evidence row of a diagnostic, which goes to
a table nothing here reads.
-/

namespace Lune.Store

open GoText Keyed TimeText Calendar

/-- What a write reads besides its arguments: the clock, and the start of the
hexadecimal SHA-256 digest of a text. -/
structure StoreEnv where
  now : Clock
  digest : Str → Str

/-- `AccountKeyHash`. -/
def accountKeyHash (env : StoreEnv) (accountKey : Str) : Str :=
  if isBlank accountKey then [] else lit "sha256:" ++ env.digest accountKey

/-- `AccountDiagnosticUpdate`. -/
structure AccountDiagnosticUpdate where
  operationID : Str := []
  stableDiagnosticStatus : Str
  previousStableDiagnosticStatus : Str := []
  lastProbeStatus : Str := []
  schedulerStatus : Str := []
  schedulerOverride : Str := []
  safeSummary : Str := []
  preserveStableStatus : Bool := false

/-- `AccountDiagnosticEvidenceInput`. -/
structure AccountDiagnosticEvidenceInput where
  probeType : Str
  stage : Str
  httpStatus : Option Int
  upstreamErrorCode : Str
  normalizedErrorCode : Str
  safeMessage : Str
  observedAt : Str

/-- The stable statuses that `ValidateDiagnosticStatus` lets through. -/
def diagnosticStatuses : List Str :=
  [lit "usable", lit "banned", lit "quota_exhausted",
    lit "quota_probe_auth_failed_but_usable", lit "auth_invalid", lit "unknown"]

/-- `SchedulerStatusForStableDiagnostic`. -/
def schedulerStatusForStableDiagnostic (status : Str) : Str :=
  let status := toLower (trimSpace status)
  if status = lit "usable" then lit "eligible"
  else if status = lit "quota_probe_auth_failed_but_usable" then lit "eligible_with_warning"
  else if [lit "banned", lit "quota_exhausted", lit "auth_invalid"].contains status then
    lit "ineligible"
  else lit "eligible_with_warning"

/-- The statuses that `ValidateSchedulerStatus` lets through. -/
def schedulerStatuses : List Str :=
  [lit "eligible", lit "eligible_with_warning", lit "ineligible"]

/-- `initialSchedulerStatusForAccount`. -/
def initialSchedulerStatusForAccount (acc : Account) : Str :=
  if !acc.enabled || equalFold acc.status (lit "disabled") then lit "ineligible"
  else lit "eligible_with_warning"

/-- The checks and defaults at the head of `UpdateAccountDiagnosticWithEvidence`;
`none` is a validation error. -/
def AccountDiagnosticUpdate.normalize (update : AccountDiagnosticUpdate) :
    Option AccountDiagnosticUpdate :=
  let stable := toLower (trimSpace update.stableDiagnosticStatus)
  let probe := trimSpace update.lastProbeStatus
  let scheduler := toLower (trimSpace update.schedulerStatus)
  let override := trimSpace update.schedulerOverride
  let summary := trimSpace update.safeSummary
  if !diagnosticStatuses.contains stable then none
  else if override ≠ [] ∧ !schedulerStatuses.contains (toLower (trimSpace scheduler)) then none
  else some
    { update with
      stableDiagnosticStatus := stable
      lastProbeStatus := if probe = [] then lit "not_run" else probe
      schedulerStatus :=
        if override = [] then schedulerStatusForStableDiagnostic stable else scheduler
      schedulerOverride := override
      safeSummary := if summary = [] then lit "diagnostic status updated" else summary }

/-- `parseCpaSubscriptionTime`. -/
def parseCpaSubscriptionTime (value : Str) : Option Int :=
  let dateOnly : Option Int := do
    let ((year, month, day), rest) ← readDate value
    let t : Fields := ⟨year, month, day, 0, 0, 0⟩
    if rest = [] ∧ 1 ≤ day ∧ day ≤ daysIn year month then some ((t.seconds : Int) * second)
    else none
  ((parse rfc3339 value).or (parse spaced value)).or dateOnly

/-- `deriveCpaSubscriptionStatus`. -/
def deriveCpaSubscriptionStatus (now : Clock) (expiresAt lastError : Str) : Str :=
  let lastError := trimSpace lastError
  let expiresAt := trimSpace expiresAt
  let dated (undated : Str) : Str :=
    match parseCpaSubscriptionTime expiresAt with
    | some t => if (now.nanos : Int) < t then lit "active" else lit "expired"
    | none => undated
  if equalFold lastError (lit "subscription metadata pending") then dated (lit "pending")
  else if lastError ≠ [] then lit "error"
  else if expiresAt = [] then lit "unknown"
  else dated (lit "error")

/-- The row still has the health that was read before. -/
def AccountRow.healthUnchanged (a previous : AccountRow) : Bool :=
  a.status == previous.status && a.lastError == previous.lastError &&
    a.lastCheckedAt.getD [] == previous.lastCheckedAt.getD []

namespace Database

/-! ## Accounts -/

/-- An update of one row of `accounts`; every one sets `updated_at`. -/
def updateAccount (db : Database) (env : StoreEnv) (id : Int) (f : AccountRow → AccountRow) :
    Database :=
  { db with accounts := db.accounts.modify id fun a => { f a with updatedAt := env.now.datetime } }

/-- `UpdateAccountHealth`. -/
def updateAccountHealth (db : Database) (env : StoreEnv) (id : Int) (status lastError : Str) :
    Database :=
  db.updateAccount env id fun a =>
    { a with status := status, lastError := lastError, lastCheckedAt := some env.now.datetime }

/-- `UpdateAccountHealthIfUnchanged`. -/
def updateAccountHealthIfUnchanged (db : Database) (env : StoreEnv) (id : Int)
    (status lastError : Str) (previous : Account) : Database :=
  { db with
    accounts := db.accounts.modify id fun a =>
      if a.healthUnchanged previous.toAccountRow then
        { a with
          status := status
          lastError := lastError
          lastCheckedAt := some env.now.datetime
          updatedAt := env.now.datetime }
      else a }

/-- `MarkAccountServingSuccess`. -/
def markAccountServingSuccess (db : Database) (env : StoreEnv) (id : Int) : Database :=
  db.updateAccount env id fun a =>
    { a with
      servingStatus := lit "healthy"
      failureCount := 0
      lastSuccessAt := env.now.rfc3339
      cooldownUntil := []
      status := lit "healthy"
      lastError := []
      lastCheckedAt := some env.now.datetime }

/-- `MarkAccountServingFailure`.  The end of the cooldown is given in seconds. -/
def markAccountServingFailure (db : Database) (env : StoreEnv) (id : Int) (lastError : Str)
    (cooldownUntil : Nat) : Database :=
  db.updateAccount env id fun a =>
    { a with
      servingStatus := lit "cooldown"
      failureCount := a.failureCount + 1
      lastFailureAt := env.now.rfc3339
      cooldownUntil := rfc3339Text (fieldsOf cooldownUntil)
      lastError := lastError
      lastCheckedAt := some env.now.datetime }

/-- `UpdateAccountCpaMetadata`. -/
def updateAccountCpaMetadata (db : Database) (env : StoreEnv) (id : Int)
    (expiredAt lastRefreshAt : Str) (disabled : Bool) : Database :=
  db.updateAccount env id fun a =>
    { a with
      cpaExpiredAt := expiredAt, cpaLastRefreshAt := lastRefreshAt, cpaDisabled := disabled }

/-- `UpdateAccountCpaCredentialStatus`. -/
def updateAccountCpaCredentialStatus (db : Database) (env : StoreEnv) (id : Int)
    (status reason lastError checkedAt : Str) : Database :=
  db.updateAccount env id fun a =>
    { a with
      cpaCredentialStatus := defaultCpaStatus status
      cpaCredentialReason := reason
      cpaCredentialLastError := lastError
      cpaCredentialCheckedAt := checkedAt }

/-- `UpdateAccountCpaAccessStatus`. -/
def updateAccountCpaAccessStatus (db : Database) (env : StoreEnv) (id : Int)
    (status reason lastError checkedAt : Str) : Database :=
  db.updateAccount env id fun a =>
    { a with
      cpaAccessStatus := defaultCpaStatus status
      cpaAccessReason := reason
      cpaAccessLastError := lastError
      cpaAccessCheckedAt := checkedAt }

/-- `UpdateAccountCodexQuotaStatus`. -/
def updateAccountCodexQuotaStatus (db : Database) (env : StoreEnv) (id : Int)
    (status lastError checkedAt : Str) : Database :=
  db.updateAccount env id fun a =>
    { a with
      cpaQuotaStatus := defaultCpaStatus status
      cpaQuotaLastError := lastError
      cpaQuotaCheckedAt := checkedAt }

/-- `UpdateAccountCodexQuota`. -/
def updateAccountCodexQuota (db : Database) (env : StoreEnv) (id : Int)
    (quotaJSON fetchedAt : Str) : Database :=
  db.updateAccount env id fun a =>
    let evidence := Sqlite.likePrefix a.cpaQuotaLastError modelRequest429
    { a with
      codexQuotaJSON := quotaJSON
      codexQuotaFetchedAt := fetchedAt
      cpaQuotaStatus := if evidence then a.cpaQuotaStatus else lit "ok"
      cpaQuotaLastError := if evidence then a.cpaQuotaLastError else []
      cpaQuotaCheckedAt := fetchedAt
      cpaQuotaBackoffUntil := []
      cpaQuotaBackoffCount := 0 }

/-- `UpdateAccountCodexQuotaBackoff`. -/
def updateAccountCodexQuotaBackoff (db : Database) (env : StoreEnv) (id : Int) (backoffUntil : Str)
    (count : Int) : Database :=
  db.updateAccount env id fun a =>
    { a with cpaQuotaBackoffUntil := backoffUntil, cpaQuotaBackoffCount := count }

/-- `ClearAccountCodexModelRequestQuotaEvidence`. -/
def clearAccountCodexModelRequestQuotaEvidence (db : Database) (env : StoreEnv) (id : Int) :
    Database :=
  db.updateAccount env id fun a =>
    let evidence := Sqlite.likePrefix a.cpaQuotaLastError modelRequest429
    { a with
      cpaQuotaStatus :=
        if [lit "error", lit "blocked"].contains a.cpaQuotaStatus && evidence then lit "ok"
        else a.cpaQuotaStatus
      cpaQuotaLastError := if evidence then [] else a.cpaQuotaLastError }

/-- `UpdateAccountCpaSubscription`. -/
def updateAccountCpaSubscription (db : Database) (env : StoreEnv) (id : Int)
    (expiresAt fetchedAt lastError : Str) : Database :=
  let status := deriveCpaSubscriptionStatus env.now expiresAt lastError
  db.updateAccount env id fun a =>
    let active := status == lit "active"
    let expires := status == lit "expired" &&
      (a.cpaAccessStatus != lit "eligible" || a.cpaAccessReason == lit "subscription_active")
    { a with
      cpaSubscriptionExpiresAt := expiresAt
      cpaSubscriptionFetchedAt := fetchedAt
      cpaSubscriptionLastError := lastError
      cpaSubscriptionStatus := status
      cpaAccessStatus :=
        if active then lit "eligible" else if expires then lit "ineligible" else a.cpaAccessStatus
      cpaAccessReason :=
        if active then lit "subscription_active"
        else if expires then lit "subscription_expired" else a.cpaAccessReason
      cpaAccessLastError := if active then [] else a.cpaAccessLastError
      cpaAccessCheckedAt :=
        if active || status == lit "expired" then fetchedAt else a.cpaAccessCheckedAt }

/-! ## Models -/

/-- `INSERT INTO account_models`.  The id follows the highest one. -/
def insertAccountModel (db : Database) (accountID : Int) (modelID : Str) : Database :=
  { db with
    accountModels := db.accountModels.insertOrIgnore
      { id := (db.accountModels.rows.map AccountModelRow.id).foldl max 0 + 1
        accountID := accountID
        modelID := modelID } }

/-- `RefreshAccountModels` breaks a constraint: a model is named twice, or the
account is not there. -/
def refreshAccountModelsFails (db : Database) (accountID : Int) (models : List Str) : Bool :=
  !decide models.Nodup || (!models.isEmpty && (db.accounts.find? accountID).isNone)

/-- `RefreshAccountModels`, a transaction that is rolled back when it fails. -/
def refreshAccountModels (db : Database) (accountID : Int) (models : List Str) : Database :=
  if db.refreshAccountModelsFails accountID models then db
  else
    let kept : Table AccountModelRow.id := db.accountModels.filter fun m => m.accountID ≠ accountID
    models.foldl (fun db model => db.insertAccountModel accountID model)
      { db with accountModels := kept }

/-! ## Tokens -/

/-- `UpdateTokenLastUsed`. -/
def updateTokenLastUsed (db : Database) (env : StoreEnv) (id : Int) : Database :=
  { db with
    accessTokens := db.accessTokens.modify id fun t =>
      { t with lastUsedAt := some env.now.datetime, updatedAt := env.now.datetime } }

/-! ## Diagnostics -/

/-- The row that `EnsureAccountDiagnostic` inserts.  Its id follows the highest
one, as SQLite assigns it. -/
def newDiagnostic (db : Database) (env : StoreEnv) (acc : Account) : AccountDiagnostic :=
  { id := (db.accountDiagnostics.rows.map AccountDiagnostic.id).foldl max 0 + 1
    accountID := acc.id
    accountKeyHash := accountKeyHash env acc.cpaAccountKey
    provider := firstNonEmpty [acc.cpaProvider, acc.provider]
    startedAt := env.now.datetime
    finishedAt := env.now.datetime
    schedulerStatus := initialSchedulerStatusForAccount acc
    safeSummary := lit "no diagnostic has run yet"
    createdAt := env.now.datetime
    updatedAt := env.now.datetime }

/-- `EnsureAccountDiagnostic`. -/
def ensureAccountDiagnostic (db : Database) (env : StoreEnv) (accountID : Int) : Database :=
  match db.getAccount accountID with
  | none => db
  | some acc =>
    { db with accountDiagnostics := db.accountDiagnostics.insertOrIgnore (db.newDiagnostic env acc) }

/-- The transaction of `UpdateAccountDiagnosticWithEvidence`, on the row it
finds. -/
def applyDiagnosticUpdate (env : StoreEnv) (update : AccountDiagnosticUpdate)
    (diag : AccountDiagnostic) : AccountDiagnostic :=
  let previous := diag.stableDiagnosticStatus
  { diag with
    operationID := update.operationID
    startedAt := if diag.startedAt = [] then env.now.datetime else diag.startedAt
    finishedAt := env.now.datetime
    stableDiagnosticStatus :=
      if update.preserveStableStatus then previous else update.stableDiagnosticStatus
    previousStableDiagnosticStatus :=
      if isBlank update.previousStableDiagnosticStatus then previous
      else update.previousStableDiagnosticStatus
    lastProbeStatus := update.lastProbeStatus
    schedulerStatus :=
      if !update.preserveStableStatus then update.schedulerStatus
      else if isBlank diag.schedulerStatus then schedulerStatusForStableDiagnostic previous
      else diag.schedulerStatus
    schedulerOverride :=
      if update.preserveStableStatus then diag.schedulerOverride else update.schedulerOverride
    safeSummary := update.safeSummary
    updatedAt := env.now.datetime }

/-- `UpdateAccountDiagnosticWithEvidence`. -/
def updateAccountDiagnosticWithEvidence (db : Database) (env : StoreEnv) (accountID : Int)
    (update : AccountDiagnosticUpdate) (_evidence : AccountDiagnosticEvidenceInput) : Database :=
  match update.normalize with
  | none => db
  | some update =>
    let db := db.ensureAccountDiagnostic env accountID
    { db with
      accountDiagnostics := db.accountDiagnostics.modify accountID
        (applyDiagnosticUpdate env update) }

end Database

/-! ## Calls -/

/-- A write and its arguments. -/
inductive StoreCall where
  | updateTokenLastUsed (id : Int)
  | markAccountServingSuccess (id : Int)
  | markAccountServingFailure (id : Int) (lastError : Str) (cooldownUntil : Nat)
  | updateAccountHealth (id : Int) (status lastError : Str)
  | updateAccountHealthIfUnchanged (id : Int) (status lastError : Str) (previous : Account)
  | updateAccountCpaMetadata (id : Int) (expiredAt lastRefreshAt : Str) (disabled : Bool)
  | updateAccountCpaCredentialStatus (id : Int) (status reason lastError checkedAt : Str)
  | updateAccountCpaAccessStatus (id : Int) (status reason lastError checkedAt : Str)
  | updateAccountCodexQuotaStatus (id : Int) (status lastError checkedAt : Str)
  | updateAccountCodexQuota (id : Int) (quotaJSON fetchedAt : Str)
  | updateAccountCodexQuotaBackoff (id : Int) (backoffUntil : Str) (count : Int)
  | clearAccountCodexModelRequestQuotaEvidence (id : Int)
  | updateAccountCpaSubscription (id : Int) (expiresAt fetchedAt lastError : Str)
  | refreshAccountModels (accountID : Int) (models : List Str)
  | ensureAccountDiagnostic (accountID : Int)
  | updateAccountDiagnosticWithEvidence (accountID : Int) (update : AccountDiagnosticUpdate)
      (evidence : AccountDiagnosticEvidenceInput)

/-- The tables after a call. -/
def StoreCall.run (env : StoreEnv) (db : Database) : StoreCall → Database
  | updateTokenLastUsed id => db.updateTokenLastUsed env id
  | markAccountServingSuccess id => db.markAccountServingSuccess env id
  | markAccountServingFailure id lastError cooldownUntil =>
    db.markAccountServingFailure env id lastError cooldownUntil
  | updateAccountHealth id status lastError => db.updateAccountHealth env id status lastError
  | updateAccountHealthIfUnchanged id status lastError previous =>
    db.updateAccountHealthIfUnchanged env id status lastError previous
  | updateAccountCpaMetadata id expiredAt lastRefreshAt disabled =>
    db.updateAccountCpaMetadata env id expiredAt lastRefreshAt disabled
  | updateAccountCpaCredentialStatus id status reason lastError checkedAt =>
    db.updateAccountCpaCredentialStatus env id status reason lastError checkedAt
  | updateAccountCpaAccessStatus id status reason lastError checkedAt =>
    db.updateAccountCpaAccessStatus env id status reason lastError checkedAt
  | updateAccountCodexQuotaStatus id status lastError checkedAt =>
    db.updateAccountCodexQuotaStatus env id status lastError checkedAt
  | updateAccountCodexQuota id quotaJSON fetchedAt =>
    db.updateAccountCodexQuota env id quotaJSON fetchedAt
  | updateAccountCodexQuotaBackoff id backoffUntil count =>
    db.updateAccountCodexQuotaBackoff env id backoffUntil count
  | clearAccountCodexModelRequestQuotaEvidence id =>
    db.clearAccountCodexModelRequestQuotaEvidence env id
  | updateAccountCpaSubscription id expiresAt fetchedAt lastError =>
    db.updateAccountCpaSubscription env id expiresAt fetchedAt lastError
  | refreshAccountModels accountID models => db.refreshAccountModels accountID models
  | ensureAccountDiagnostic accountID => db.ensureAccountDiagnostic env accountID
  | updateAccountDiagnosticWithEvidence accountID update evidence =>
    db.updateAccountDiagnosticWithEvidence env accountID update evidence

/-- The tables after several calls. -/
def runCalls (env : StoreEnv) (db : Database) (calls : List StoreCall) : Database :=
  calls.foldl (StoreCall.run env) db

/-! ## What a call leaves alone -/

/-- The columns of an account that say how it serves. -/
structure ServingState where
  servingStatus : Str
  failureCount : Int
  cooldownUntil : Str
  lastSuccessAt : Str
  lastFailureAt : Str
  status : Str
deriving DecidableEq

/-- The serving columns of a row. -/
def AccountRow.serving (a : AccountRow) : ServingState :=
  ⟨a.servingStatus, a.failureCount, a.cooldownUntil, a.lastSuccessAt, a.lastFailureAt, a.status⟩

/-- The serving columns of an account, when it is there. -/
def Database.serving? (db : Database) (id : Int) : Option ServingState :=
  (db.accounts.find? id).map AccountRow.serving

/-- The writes that may touch a serving column. -/
def StoreCall.writesServing : StoreCall → Bool
  | markAccountServingSuccess _ | markAccountServingFailure _ _ _ | updateAccountHealth _ _ _
  | updateAccountHealthIfUnchanged _ _ _ _ => true
  | _ => false

/-- The write that touches a token. -/
def StoreCall.writesToken : StoreCall → Bool
  | updateTokenLastUsed _ => true
  | _ => false

namespace Database

theorem find?_updateAccount (db : Database) (env : StoreEnv) (id : Int)
    {f : AccountRow → AccountRow} (hf : ∀ a, (f a).id = a.id) (j : Int) :
    (db.updateAccount env id f).accounts.find? j =
      if j = id then
        (db.accounts.find? j).map fun a => { f a with updatedAt := env.now.datetime }
      else db.accounts.find? j :=
  Table.find?_modify db.accounts (f := fun a => { f a with updatedAt := env.now.datetime }) hf id j

/-- The row that an update names. -/
theorem find?_updateAccount_self {db : Database} {id : Int} {row : AccountRow} (env : StoreEnv)
    (f : AccountRow → AccountRow) (hf : ∀ a, (f a).id = a.id)
    (hrow : db.accounts.find? id = some row) :
    (db.updateAccount env id f).accounts.find? id =
      some { f row with updatedAt := env.now.datetime } := by
  rw [find?_updateAccount db env id hf, if_pos rfl, hrow]
  rfl

/-- An update that keeps the serving columns of a row keeps those of every
account. -/
theorem serving?_updateAccount (db : Database) (env : StoreEnv) (id : Int)
    {f : AccountRow → AccountRow} (hid : ∀ a, (f a).id = a.id)
    (hserving : ∀ a, (f a).serving = a.serving) (j : Int) :
    (db.updateAccount env id f).serving? j = db.serving? j := by
  rw [serving?, find?_updateAccount db env id hid]
  split
  · rw [Option.map_map]
    exact congrArg₂ Option.map (funext hserving) rfl
  · rfl

/-- An update of an account acts on its serving columns as `g` does. -/
theorem serving?_updateAccount_self (db : Database) (env : StoreEnv) (id : Int)
    {f : AccountRow → AccountRow} {g : ServingState → ServingState} (hid : ∀ a, (f a).id = a.id)
    (hserving : ∀ a, (f a).serving = g a.serving) :
    (db.updateAccount env id f).serving? id = (db.serving? id).map g := by
  rw [serving?, find?_updateAccount db env id hid, if_pos rfl, serving?, Option.map_map,
    Option.map_map]
  exact congrArg₂ Option.map (funext hserving) rfl

@[simp] theorem accounts_ensureAccountDiagnostic (db : Database) (env : StoreEnv) (id : Int) :
    (db.ensureAccountDiagnostic env id).accounts = db.accounts := by
  unfold ensureAccountDiagnostic
  split <;> rfl

@[simp] theorem accessTokens_ensureAccountDiagnostic (db : Database) (env : StoreEnv) (id : Int) :
    (db.ensureAccountDiagnostic env id).accessTokens = db.accessTokens := by
  unfold ensureAccountDiagnostic
  split <;> rfl

@[simp] theorem accounts_updateAccountDiagnosticWithEvidence (db : Database) (env : StoreEnv)
    (id : Int) (update : AccountDiagnosticUpdate) (evidence : AccountDiagnosticEvidenceInput) :
    (db.updateAccountDiagnosticWithEvidence env id update evidence).accounts = db.accounts := by
  unfold updateAccountDiagnosticWithEvidence
  split
  · rfl
  · exact accounts_ensureAccountDiagnostic db env id

@[simp] theorem accessTokens_updateAccountDiagnosticWithEvidence (db : Database) (env : StoreEnv)
    (id : Int) (update : AccountDiagnosticUpdate) (evidence : AccountDiagnosticEvidenceInput) :
    (db.updateAccountDiagnosticWithEvidence env id update evidence).accessTokens =
      db.accessTokens := by
  unfold updateAccountDiagnosticWithEvidence
  split
  · rfl
  · exact accessTokens_ensureAccountDiagnostic db env id

@[simp] theorem tables_refreshAccountModels (db : Database) (accountID : Int)
    (models : List Str) :
    (db.refreshAccountModels accountID models).accounts = db.accounts ∧
      (db.refreshAccountModels accountID models).accessTokens = db.accessTokens ∧
      (db.refreshAccountModels accountID models).accountDiagnostics = db.accountDiagnostics := by
  have hinsert : ∀ start : Database,
      (models.foldl (fun db model => insertAccountModel db accountID model) start).accounts =
          start.accounts ∧
        (models.foldl (fun db model => insertAccountModel db accountID model) start).accessTokens =
          start.accessTokens ∧
        (models.foldl (fun db model => insertAccountModel db accountID model)
          start).accountDiagnostics = start.accountDiagnostics := by
    induction models with
    | nil => exact fun start => ⟨rfl, rfl, rfl⟩
    | cons model models ih => exact fun start => ih (start.insertAccountModel accountID model)
  unfold refreshAccountModels
  split
  · exact ⟨rfl, rfl, rfl⟩
  · exact hinsert _

end Database

/-- A call that is not about serving keeps the serving columns of every
account. -/
theorem StoreCall.serving?_run (env : StoreEnv) (db : Database) {call : StoreCall}
    (h : call.writesServing = false) (id : Int) :
    (call.run env db).serving? id = db.serving? id := by
  cases call with
  | markAccountServingSuccess | markAccountServingFailure | updateAccountHealth
  | updateAccountHealthIfUnchanged => contradiction
  | updateTokenLastUsed => rfl
  | ensureAccountDiagnostic accountID =>
    simp [StoreCall.run, Database.serving?]
  | updateAccountDiagnosticWithEvidence accountID update evidence =>
    simp [StoreCall.run, Database.serving?]
  | refreshAccountModels accountID models =>
    simp [StoreCall.run, Database.serving?]
  | updateAccountCpaMetadata | updateAccountCpaCredentialStatus | updateAccountCpaAccessStatus
  | updateAccountCodexQuotaStatus | updateAccountCodexQuota | updateAccountCodexQuotaBackoff
  | clearAccountCodexModelRequestQuotaEvidence
  | updateAccountCpaSubscription =>
    apply Database.serving?_updateAccount db env
    · intro a; rfl
    · intro a; rfl

/-- A call that is not about tokens keeps them all. -/
theorem StoreCall.accessTokens_run (env : StoreEnv) (db : Database) {call : StoreCall}
    (h : call.writesToken = false) : (call.run env db).accessTokens = db.accessTokens := by
  cases call with
  | updateTokenLastUsed => contradiction
  | refreshAccountModels accountID models => simp [StoreCall.run]
  | ensureAccountDiagnostic accountID => simp [StoreCall.run]
  | updateAccountDiagnosticWithEvidence accountID update evidence => simp [StoreCall.run]
  | _ => rfl

/-! ## What calls do to the serving columns -/

@[simp] theorem runCalls_append (env : StoreEnv) (db : Database) (before after : List StoreCall) :
    runCalls env db (before ++ after) = runCalls env (runCalls env db before) after :=
  List.foldl_append

/-- Calls that are not about serving keep the serving columns of every account. -/
theorem serving?_runCalls (env : StoreEnv) (db : Database) {calls : List StoreCall}
    (h : ∀ call ∈ calls, call.writesServing = false) (id : Int) :
    (runCalls env db calls).serving? id = db.serving? id := by
  induction calls generalizing db with
  | nil => rfl
  | cons call calls ih =>
    have hrest := ih (call.run env db) (fun other hother => h other (List.mem_cons_of_mem call hother))
    exact hrest.trans (StoreCall.serving?_run env db (h call List.mem_cons_self) id)

/-- The serving columns of the account that failed. -/
theorem Database.serving?_markAccountServingFailure (db : Database) (env : StoreEnv) (id : Int)
    (lastError : Str) (cooldownUntil : Nat) :
    (db.markAccountServingFailure env id lastError cooldownUntil).serving? id =
      (db.serving? id).map fun s =>
        { s with
          servingStatus := lit "cooldown"
          failureCount := s.failureCount + 1
          lastFailureAt := env.now.rfc3339
          cooldownUntil := rfc3339Text (fieldsOf cooldownUntil) } := by
  apply serving?_updateAccount_self db env id
  · intro a; rfl
  · intro a; rfl

/-- The write that counts a failure. -/
def StoreCall.countsFailure : StoreCall → Bool
  | markAccountServingFailure _ _ _ => true
  | _ => false

/-- The account is there and has no failures. -/
def Database.FailureFree (db : Database) (id : Int) : Prop :=
  ∃ s, db.serving? id = some s ∧ s.failureCount = 0

theorem Database.find?_updateAccountHealthIfUnchanged (db : Database) (env : StoreEnv) (id : Int)
    (status lastError : Str) (previous : Account) (j : Int) :
    (db.updateAccountHealthIfUnchanged env id status lastError previous).accounts.find? j =
      if j = id then
        (db.accounts.find? j).map fun a =>
          if a.healthUnchanged previous.toAccountRow then
            { a with
              status := status
              lastError := lastError
              lastCheckedAt := some env.now.datetime
              updatedAt := env.now.datetime }
          else a
      else db.accounts.find? j := by
  apply Table.find?_modify
  intro a
  split <;> rfl

theorem failureFree_updateAccountHealthIfUnchanged (env : StoreEnv) {db : Database} {id : Int}
    (hfree : db.FailureFree id) (other : Int) (status lastError : Str) (previous : Account) :
    (db.updateAccountHealthIfUnchanged env other status lastError previous).FailureFree id := by
  obtain ⟨s, hs, hzero⟩ := hfree
  obtain ⟨a, ha, rfl⟩ := Option.map_eq_some_iff.mp hs
  unfold Database.FailureFree Database.serving?
  rw [Database.find?_updateAccountHealthIfUnchanged, ha]
  split
  · refine ⟨_, rfl, ?_⟩
    dsimp only
    split
    · exact hzero
    · exact hzero
  · exact ⟨_, rfl, hzero⟩

/-- No other write gives an account a failure. -/
theorem StoreCall.failureFree_run (env : StoreEnv) {db : Database} {call : StoreCall}
    (h : call.countsFailure = false) {id : Int} (hfree : db.FailureFree id) :
    (call.run env db).FailureFree id := by
  have hupdate : ∀ (other : Int) (f : AccountRow → AccountRow), (∀ a, (f a).id = a.id) →
      (∀ a, (f a).failureCount = 0 ∨ (f a).failureCount = a.failureCount) →
      (db.updateAccount env other f).FailureFree id := by
    intro other f hid hcount
    obtain ⟨s, hs, hzero⟩ := hfree
    obtain ⟨a, ha, rfl⟩ := Option.map_eq_some_iff.mp hs
    unfold Database.FailureFree Database.serving?
    rw [Database.find?_updateAccount db env other hid, ha]
    split
    · refine ⟨_, rfl, ?_⟩
      show (f a).failureCount = 0
      rcases hcount a with h | h
      · exact h
      · exact h.trans hzero
    · exact ⟨_, rfl, hzero⟩
  by_cases hserving : call.writesServing = false
  · obtain ⟨s, hs, hzero⟩ := hfree
    exact ⟨s, (StoreCall.serving?_run env db hserving id).trans hs, hzero⟩
  · cases call with
    | markAccountServingFailure => contradiction
    | markAccountServingSuccess other =>
      exact hupdate other _ (fun _ => rfl) (fun _ => Or.inl rfl)
    | updateAccountHealth other status lastError =>
      exact hupdate other _ (fun _ => rfl) (fun _ => Or.inr rfl)
    | updateAccountHealthIfUnchanged other status lastError previous =>
      exact failureFree_updateAccountHealthIfUnchanged env hfree other status lastError previous
    | _ => exact absurd rfl hserving

theorem failureFree_runCalls (env : StoreEnv) {db : Database} {calls : List StoreCall}
    (h : ∀ call ∈ calls, call.countsFailure = false) {id : Int} (hfree : db.FailureFree id) :
    (runCalls env db calls).FailureFree id := by
  induction calls generalizing db with
  | nil => exact hfree
  | cons call calls ih =>
    exact ih (fun other hother => h other (List.mem_cons_of_mem call hother))
      (StoreCall.failureFree_run env (h call List.mem_cons_self) hfree)

end Lune.Store
