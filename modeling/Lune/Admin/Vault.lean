import Lune.Admin.Import
import Lune.Cpa.AuthFile
import Lune.Lib.Scripts
import Lune.Store.PoolTokens

/-!
# Accounts and their credential files

The handlers of `internal/admin/handler.go` that change a row of `accounts` together with
the members of a pool or with the file of its credential.  Each statement and each file
operation is a step of its own, and each can fail.

The reload of the runtime, the record of the operation and the refresh that follows a
success are left out: they change neither the files nor the rows of an account's pool.
-/

namespace Lune.Store.Database

open GoText Keyed

/-- What `RestoreCpaAccountImportSnapshot` makes of a row. -/
def restoredAccount (a : Account) (row : AccountRow) : AccountRow :=
  { row with
    label := a.label
    cpaProvider := a.cpaProvider
    cpaEmail := a.cpaEmail
    cpaPlanType := a.cpaPlanType
    cpaOpenaiID := a.cpaOpenaiID
    cpaExpiredAt := a.cpaExpiredAt
    cpaLastRefreshAt := a.cpaLastRefreshAt
    cpaDisabled := a.cpaDisabled
    cpaCredentialStatus := defaultCpaStatus a.cpaCredentialStatus
    cpaCredentialReason := a.cpaCredentialReason
    cpaCredentialLastError := a.cpaCredentialLastError
    cpaCredentialCheckedAt := a.cpaCredentialCheckedAt
    cpaSubscriptionExpiresAt := a.cpaSubscriptionExpiresAt
    cpaSubscriptionFetchedAt := a.cpaSubscriptionFetchedAt
    cpaSubscriptionLastError := a.cpaSubscriptionLastError
    cpaSubscriptionStatus := defaultCpaStatus a.cpaSubscriptionStatus
    cpaAccessStatus := defaultCpaStatus a.cpaAccessStatus
    cpaAccessReason := a.cpaAccessReason
    cpaAccessLastError := a.cpaAccessLastError
    cpaAccessCheckedAt := a.cpaAccessCheckedAt
    enabled := a.enabled
    status := a.status
    lastError := a.lastError
    lastCheckedAt := a.lastCheckedAt
    notes := a.notes }

/-- `RestoreCpaAccountImportSnapshot`. -/
def restoreCpaAccountImportSnapshot (db : Database) (env : StoreEnv) (a : Account) : Database :=
  db.updateAccount env a.id (restoredAccount a)

/-- `UpsertCpaAccountAndPoolMemberFromImport` is rolled back. -/
def upsertFails (db : Database) (env : StoreEnv) (poolID : Int) (a : Account) : Bool :=
  match a.cpaServiceID with
  | none => true
  | some serviceID =>
    (db.pools.find? poolID).isNone ||
      (db.findAccountByCpaKey serviceID a.cpaAccountKey).isNone &&
        db.insertAccountFails (db.newAccount env (firstNonEmpty [a.sourceKind, lit "cpa"]) a)

end Lune.Store.Database

namespace Lune.Admin

open GoText Keyed Scripts Lune.Store Lune.Health Lune.Cpa

/-! ## Steps -/

/-- The auth directory, by file name, and the database. -/
structure Vault where
  dir : GoMap Str Str
  db : Database

/-- The credential of a key. -/
def Vault.authFile (v : Vault) (accountKey : Str) : Option CpaAuthFile :=
  if validateAccountKey accountKey then (v.dir.get? (fileName accountKey)).bind unmarshalAuthFile
  else none

abbrev VaultScript (α : Type) := Script StoreEnv Vault α

/-- What a request reports. -/
inductive Outcome where
  | done (id : Int)
  | refused
  | failed
deriving DecidableEq

/-- The steps that can fail. -/
inductive Stage where
  | service | account | readExisting | readFile | lookup | writeTemp | rename
  | find | update | create | member | upsert | deleteFile | deleteRow
  | restoreFile | removeFile | restoreRow | deleteOrphan
deriving DecidableEq

/-- How a step fails: before it has an effect, or after.  A file that could not be written
to its end has the bytes `left`. -/
inductive Fault where
  | none
  | early
  | late (left : Str)
deriving DecidableEq

section Steps

variable (fault : Stage → Fault)

/-- A step that has no effect when it fails. -/
def statement {α : Type} (stage : Stage) (f : StoreEnv → Vault → Option (Vault × α)) :
    VaultScript (Option α) :=
  Script.act fun env v =>
    match fault stage with
    | .none =>
      match f env v with
      | some (v, a) => (v, some a)
      | none => (v, none)
    | .early | .late _ => (v, none)

/-- A step that reads back what it did, so that it can fail after its effect. -/
def readBack {α : Type} (stage : Stage) (f : StoreEnv → Vault → Option (Vault × α)) :
    VaultScript (Option α) :=
  Script.act fun env v =>
    match fault stage, f env v with
    | .none, some (v, a) => (v, some a)
    | .late _, some (v, _) => (v, none)
    | .none, none | .late _, none | .early, _ => (v, none)

/-- `FindAccountByCpaKey`. -/
def findAccountByCpaKey (stage : Stage) (serviceID : Int) (accountKey : Str) :
    VaultScript (Option (Option Account)) :=
  statement fault stage fun _ v => some (v, v.db.findAccountByCpaKey serviceID accountKey)

/-- `UpdateCpaAccountFromImport`. -/
def updateCpaAccountFromImport (id : Int) (account : Account) : VaultScript (Option Unit) :=
  statement fault .update fun env v =>
    some ({ v with db := v.db.updateCpaAccountFromImport env id account }, ())

/-- `Store.CreateAccount`: the id, unless a constraint is broken. -/
def insertAccount (account : Account) : VaultScript (Option (Option Int)) :=
  statement fault .create fun env v =>
    let row := v.db.newAccount env
      (if account.sourceKind = [] then lit "openai_compat" else account.sourceKind) account
    if v.db.insertAccountFails row then some (v, none)
    else some ({ v with db := v.db.createAccount env account }, some row.id)

/-- `Store.AddPoolMember`, which does not expect a member. -/
def addPoolMember (poolID accountID : Int) : VaultScript (Option Unit) :=
  statement fault .member fun _ v =>
    if v.db.addPoolMemberFails poolID accountID ||
        v.db.poolMembers.rows.any fun pm => pm.poolID == poolID && pm.accountID == accountID then
      none
    else some ({ v with db := v.db.addPoolMemberIdempotent poolID accountID }, ())

/-- `AddPoolMemberIdempotent`. -/
def addPoolMemberIdempotent (poolID accountID : Int) : VaultScript (Option Unit) :=
  readBack fault .member fun _ v =>
    if v.db.addPoolMemberFails poolID accountID then none
    else some ({ v with db := v.db.addPoolMemberIdempotent poolID accountID }, ())

/-- `Store.DeleteAccount`. -/
def eraseAccount (stage : Stage) (id : Int) : VaultScript (Option Unit) :=
  statement fault stage fun _ v => some ({ v with db := v.db.deleteAccount id }, ())

/-- `RestoreCpaAccountImportSnapshot`. -/
def restoreSnapshot (account : Account) : VaultScript (Option Unit) :=
  statement fault .restoreRow fun env v =>
    some ({ v with db := v.db.restoreCpaAccountImportSnapshot env account }, ())

/-- `UpsertCpaAccountAndPoolMemberFromImport`: the id of the account. -/
def upsertCpaAccountAndPoolMemberFromImport (poolID : Int) (account : Account) :
    VaultScript (Option Int) :=
  readBack fault .upsert fun env v =>
    if v.db.upsertFails env poolID account then none
    else
      let db := v.db.upsertCpaAccountAndPoolMemberFromImport env poolID account
      match db.findAccountByCpaKey (account.cpaServiceID.getD 0) account.cpaAccountKey with
      | some imported => some ({ v with db := db }, imported.id)
      | none => none

/-- `os.ReadFile` of the file of a key. -/
def readAuthFileBytes (stage : Stage) (accountKey : Str) : VaultScript (Option (Option Str)) :=
  statement fault stage fun _ v => some (v, v.dir.get? (fileName accountKey))

/-- `ReadAuthFile`. -/
def readAuthFile (accountKey : Str) : VaultScript (Option CpaAuthFile) :=
  statement fault .readFile fun _ v => (v.authFile accountKey).map fun f => (v, f)

/-- The bytes go to a file beside the one that they are for. -/
def writeTemp (accountKey data : Str) : VaultScript (Option Unit) :=
  Script.act fun _ v =>
    match fault .writeTemp with
    | .none => ({ v with dir := v.dir.put (tempName accountKey) data }, some ())
    | .early => (v, none)
    | .late left => ({ v with dir := v.dir.put (tempName accountKey) left }, none)

/-- `os.Rename` of the file that was written. -/
def renameTemp (accountKey : Str) : VaultScript (Option Unit) :=
  statement fault .rename fun _ v =>
    (v.dir.get? (tempName accountKey)).map fun data =>
      ({ v with dir := Table.erase (v.dir.put (fileName accountKey) data) (tempName accountKey) }, ())

/-- `WriteAuthFile`. -/
def writeAuthFile (accountKey : Str) (f : CpaAuthFile) : VaultScript (Option Unit) :=
  if !validateAccountKey accountKey then pure none
  else do
    match ← writeTemp fault accountKey (marshalAuthFile f) with
    | some () => renameTemp fault accountKey
    | none => pure none

/-- `DeleteAuthFile`. -/
def deleteAuthFile (stage : Stage) (accountKey : Str) : VaultScript (Option Unit) :=
  statement fault stage fun _ v =>
    if !validateAccountKey accountKey then none
    else some ({ v with dir := Table.erase v.dir (fileName accountKey) }, ())

/-- `rollbackAuthFile`. -/
def rollbackAuthFile (accountKey : Str) (existingFile : Option Str) : VaultScript (Option Unit) :=
  match existingFile with
  | some data =>
    statement fault .restoreFile fun _ v =>
      some ({ v with dir := v.dir.put (fileName accountKey) data }, ())
  | none => deleteAuthFile fault .removeFile accountKey

end Steps

/-! ## Handlers -/

section Handlers

variable (fault : Stage → Fault) (t : Tokens)

/-- The request of `createAccount`. -/
def createAccountRefused (req : Account) (poolID : Int) : Bool :=
  req.label == [] || poolID == 0 ||
    if req.sourceKind == [] || req.sourceKind == lit "openai_compat" then
      req.baseURL == [] || req.apiKey == []
    else if req.sourceKind == lit "cpa" then req.cpaServiceID.isNone || req.cpaProvider == []
    else true

/-- The account that a request of `createAccount` is for. -/
def requestedAccount (req : Account) : Account :=
  if req.sourceKind = lit "cpa" then { req with baseURL := [], apiKey := [] } else req

/-- `createAccount`. -/
def createAccount (req : Account) (poolID : Int) : VaultScript Outcome :=
  if createAccountRefused req poolID then pure .refused
  else do
    match ← insertAccount fault (requestedAccount req) with
    | none => pure .failed
    | some none => pure .failed
    | some (some id) =>
      match ← addPoolMember fault poolID id with
      | some () => pure (.done id)
      | none => pure .failed

/-- The account has a file that is deleted with it. -/
def removesFile (acc : Account) : Bool :=
  acc.sourceKind == lit "cpa" && t.cpaAuthDir != [] && !isBlank acc.cpaAccountKey

/-- `deleteAccount`. -/
def deleteAccount (id : Int) : VaultScript Outcome := do
  match ← statement fault .account fun _ v => some (v, v.db.getAccount id) with
  | none => pure .failed
  | some none => pure .refused
  | some (some acc) =>
    let cleared ←
      if removesFile t acc then deleteAuthFile fault .deleteFile acc.cpaAccountKey
      else pure (some ())
    match cleared with
    | none => pure .failed
    | some () =>
      match ← eraseAccount fault .deleteRow id with
      | some () => pure (.done id)
      | none => pure .failed

/-- The update of an account that is there, of `upsertImportedCpaAccount`. -/
def updateImported (account existing : Account) (label notes : Str) : VaultScript (Option Int) := do
  let account :=
    { account with
      id := existing.id
      label := if isBlank label then existing.label else account.label
      notes := if isBlank notes then existing.notes else account.notes }
  match ← updateCpaAccountFromImport fault existing.id account with
  | some () => pure (some existing.id)
  | none => pure none

/-- `upsertImportedCpaAccount`, with its errors. -/
def upsertImported (svc : CpaService) (accountKey : Str) (f : CpaAuthFile) (label : Str)
    (enabled : Bool) (notes : Str) : VaultScript (Option Int) := do
  let now ← Script.look fun env _ => env.now
  let account := importedCpaAccountTemplate t now svc accountKey f label enabled notes
  match ← findAccountByCpaKey fault .find svc.id accountKey with
  | none => pure none
  | some (some existing) => updateImported fault account existing label notes
  | some none =>
    match ← insertAccount fault account with
    | none => pure none
    | some (some id) => pure (some id)
    | some none =>
      -- another request may have added the account in between
      match ← findAccountByCpaKey fault .find svc.id accountKey with
      | some (some existing) => updateImported fault account existing label notes
      | some none | none => pure none

/-- What a login brings: the session and the answer with the tokens.  The times are written
in the zone of the host. -/
structure Login where
  provider : Str := []
  poolID : Int := 0
  accessToken : Str := []
  refreshToken : Str := []
  idToken : Str := []
  expiredAt : Clock → Str := fun _ => []
  lastRefresh : Clock → Str := fun _ => []

/-- The provider of the session. -/
def Login.providerName (login : Login) : Str :=
  if login.provider = [] then lit "codex" else login.provider

/-- The key that `finalizeLogin` computes. -/
def Login.accountKey (login : Login) (info : AccountInfo) : Str :=
  login.providerName ++ lit "-" ++ info.email ++ lit "-" ++
    (if info.planType = [] then lit "unknown" else info.planType)

/-- The file that `finalizeLogin` writes. -/
def Login.authFile (login : Login) (info : AccountInfo) (now : Clock) : CpaAuthFile :=
  { accessToken := login.accessToken
    refreshToken := login.refreshToken
    idToken := login.idToken
    accountID := info.accountID
    email := info.email
    disabled := false
    expired := login.expiredAt now
    lastRefresh := login.lastRefresh now
    type := login.providerName }

/-- Drop an account that was not there before; `finalizeLogin`, `importCpaAccount` and
`batchImportCpaAccounts` do so when the pool could not be joined. -/
def dropOrphan (existingBefore : Option Account) (id : Int) : VaultScript Unit :=
  match existingBefore with
  | none => do
    let _ ← eraseAccount fault .deleteOrphan id
    pure ()
  | some _ => pure ()

/-- `finalizeLogin`. -/
def finalizeLogin (svc : CpaService) (login : Login) : VaultScript Outcome :=
  match parseAccountInfoFromTokens login.idToken login.accessToken with
  | none => pure .refused
  | some info => do
    let accountKey := login.accountKey info
    let f ← Script.look fun env _ => login.authFile info env.now
    match ← writeAuthFile fault accountKey f with
    | none => pure .failed
    | some () =>
      let existingBefore ← findAccountByCpaKey fault .lookup svc.id accountKey
      match ← upsertImported fault t svc accountKey f [] true [] with
      | none => pure .failed
      | some id =>
        if 0 < login.poolID then
          match ← addPoolMemberIdempotent fault login.poolID id with
          | some () => pure (.done id)
          | none => do
            dropOrphan fault existingBefore.join id
            pure .failed
        else pure (.done id)

/-- What `importCpaAccount` does for a key, and `batchImportCpaAccounts` for each of its
keys, once the file is read. -/
def importScanned (svc : CpaService) (accountKey : Str) (f : CpaAuthFile) (label : Str)
    (enabled : Bool) (notes : Str) (poolID : Int) (existingBefore : Option Account) :
    VaultScript Outcome := do
  match ← upsertImported fault t svc accountKey f label enabled notes with
  | none => pure .failed
  | some id =>
    match ← addPoolMemberIdempotent fault poolID id with
    | some () => pure (.done id)
    | none => do
      dropOrphan fault existingBefore id
      pure .failed

/-- `importCpaAccount`. -/
def importCpaAccount (serviceID : Int) (accountKey label : Str) (enabled : Bool) (notes : Str)
    (poolID : Int) : VaultScript Outcome :=
  if t.cpaAuthDir = [] ∨ accountKey = [] ∨ poolID = 0 then pure .refused
  else do
    match ← statement fault .service fun _ v => some (v, v.db.cpaServices.find? serviceID) with
    | none | some none => pure .refused
    | some (some svc) =>
      match ← readAuthFile fault accountKey with
      | none => pure .refused
      | some f =>
        match ← findAccountByCpaKey fault .lookup svc.id accountKey with
        | none => pure .failed
        | some existingBefore =>
          importScanned fault t svc accountKey f label enabled notes poolID existingBefore

/-- `batchImportCpaAccounts`, for one of its keys. -/
def batchImportCpaAccount (svc : CpaService) (poolID : Int) (accountKey : Str) :
    VaultScript Outcome := do
  match ← readAuthFile fault accountKey with
  | none => pure .refused
  | some f =>
    let existingBefore ← findAccountByCpaKey fault .lookup svc.id accountKey
    importScanned fault t svc accountKey f [] true [] poolID existingBefore.join

/-- `authIdentityMismatch`. -/
def authIdentityMismatch (existing incoming : CpaAuthFile) : Bool :=
  !isBlank existing.email && !isBlank incoming.email &&
      !equalFold (trimSpace existing.email) (trimSpace incoming.email) ||
    !isBlank existing.accountID && !isBlank incoming.accountID &&
      trimSpace existing.accountID != trimSpace incoming.accountID

/-- The file that is there names another account. -/
def identityMismatch (accountKey : Str) (f : CpaAuthFile) (existingFile : Option Str) :
    VaultScript Bool :=
  match existingFile with
  | none => pure false
  | some _ => do
    match ← readAuthFile fault accountKey with
    | some existingAuth => pure (authIdentityMismatch existingAuth f)
    | none => pure false

/-- What both uploads start with: the file that is there is read and compared, the account is
looked up, and the file is written.  `next` is given what was there. -/
def replaceAuthFile (svc : CpaService) (f : CpaAuthFile) (accountKey : Str)
    (next : Option Str → Option Account → VaultScript Outcome) : VaultScript Outcome := do
  match ← readAuthFileBytes fault .readExisting accountKey with
  | none => pure .failed
  | some existingFile =>
    if ← identityMismatch fault accountKey f existingFile then pure .refused
    else
      match ← findAccountByCpaKey fault .lookup svc.id accountKey with
      | none => pure .failed
      | some existingBefore =>
        match ← writeAuthFile fault accountKey f with
        | none => pure .failed
        | some () => next existingFile existingBefore

/-- What `importCpaAuthJSON` does once the file is written. -/
def importUploaded (svc : CpaService) (f : CpaAuthFile) (accountKey label : Str) (enabled : Bool)
    (notes : Str) (poolID : Int) (existingFile : Option Str) (existingBefore : Option Account) :
    VaultScript Outcome := do
  match ← upsertImported fault t svc accountKey f label enabled notes with
  | none => do
    let _ ← rollbackAuthFile fault accountKey existingFile
    pure .failed
  | some id =>
    match ← addPoolMemberIdempotent fault poolID id with
    | some () => pure (.done id)
    | none => do
      let _ ← match existingBefore with
        | none => eraseAccount fault .deleteOrphan id
        | some existing => restoreSnapshot fault existing
      let _ ← rollbackAuthFile fault accountKey existingFile
      pure .failed

/-- `importCpaAuthJSON`, from where the request is read. -/
def importCpaAuthJSON (f : CpaAuthFile) (accountKey label : Str) (enabled : Bool) (notes : Str)
    (poolID : Int) : VaultScript Outcome :=
  if t.cpaAuthDir = [] ∨ poolID = 0 then pure .refused
  else do
    match ← statement fault .service fun _ v => some (v, v.db.cpaServices.rows.head?) with
    | none => pure .failed
    | some none => pure .refused
    | some (some svc) =>
      replaceAuthFile fault svc f accountKey
        (importUploaded fault t svc f accountKey label enabled notes poolID)

/-- What `importSingleCpaAuthJSONBatchItem` does once the file is written. -/
def importBatched (svc : CpaService) (f : CpaAuthFile) (accountKey : Str) (enabled : Bool)
    (poolID : Int) (existingFile : Option Str) : VaultScript Outcome := do
  let now ← Script.look fun env _ => env.now
  let account := importedCpaAccountTemplate t now svc accountKey f [] enabled []
  match ← upsertCpaAccountAndPoolMemberFromImport fault poolID account with
  | some id => pure (.done id)
  | none => do
    let _ ← rollbackAuthFile fault accountKey existingFile
    pure .failed

/-- `importSingleCpaAuthJSONBatchItem`. -/
def importSingleCpaAuthJSONBatchItem (svc : CpaService) (f : CpaAuthFile) (accountKey : Str)
    (enabled : Bool) (poolID : Int) : VaultScript Outcome :=
  replaceAuthFile fault svc f accountKey fun existingFile _ =>
    importBatched fault t svc f accountKey enabled poolID existingFile

end Handlers

end Lune.Admin
