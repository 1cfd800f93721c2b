import Lune.Health.Refresh
import Lune.Store.Accounts

/-!
# Bringing credentials in

The imports and the end of a device login of `internal/admin/handler.go`, as
programs on the database: `upsertImportedCpaAccount` and what the handlers do
around it.  The file has been written and the runtime reloaded before; what the
handlers do when the pool is not there is left out.
-/

namespace Lune.Admin

open GoText TimeText Lune.Store Lune.Health Programs

/-- A program of the administration. -/
abbrev AdminProg (α : Type) := Prog StoreEnv Database AccountWrite α

/-- What the handler reads off a pair of tokens besides the checker. -/
structure Tokens extends Checker where
  accountInfoAccountID : Str → Str → Str

/-- `cpaCredentialStateFromAuthFile`: the status, the reason and the error. -/
def cpaCredentialStateFromAuthFile (f : CpaAuthFile) : Str × Str × Str :=
  if f.disabled then (lit "needs_login", lit "disabled", lit "CPA credential disabled")
  else (lit "ok", [], [])

/-- `cpaSubscriptionStateFromAuthFile`: the end of the subscription, when it was
read, and the status. -/
def cpaSubscriptionStateFromAuthFile (t : Tokens) (now : Clock) (f : CpaAuthFile) :
    Str × Str × Str :=
  let expiresAt := t.subscriptionActiveUntil f.idToken f.accessToken
  if toLower f.type ≠ lit "codex" ∨ expiresAt = [] then ([], [], [])
  else
    let status := match parse rfc3339 expiresAt with
      | some ends => if (now.nanos : Int) < ends then lit "active" else lit "expired"
      | none => lit "expired"
    (expiresAt, now.datetime, status)

/-- `importedCpaAccountTemplate`. -/
def importedCpaAccountTemplate (t : Tokens) (now : Clock) (svc : CpaService) (accountKey : Str)
    (f : CpaAuthFile) (label : Str) (enabled : Bool) (notes : Str) : Account :=
  let planType := (t.accountInfoPlanType f.idToken f.accessToken).getD []
  let openaiID :=
    if (t.accountInfoPlanType f.idToken f.accessToken).isSome &&
        t.accountInfoAccountID f.idToken f.accessToken != [] then
      t.accountInfoAccountID f.idToken f.accessToken
    else f.accountID
  let (credentialStatus, credentialReason, credentialLastError) := cpaCredentialStateFromAuthFile f
  let (subscriptionExpiresAt, subscriptionFetchedAt, subscriptionStatus) :=
    cpaSubscriptionStateFromAuthFile t now f
  { id := 0
    label :=
      if label = [] then f.type ++ lit " - " ++ f.email ++ lit " (" ++ planType ++ lit ")"
      else label
    sourceKind := lit "cpa"
    cpaServiceID := some svc.id
    cpaProvider := f.type
    cpaAccountKey := accountKey
    cpaEmail := f.email
    cpaPlanType := planType
    cpaOpenaiID := openaiID
    cpaExpiredAt := f.expired
    cpaLastRefreshAt := f.lastRefresh
    cpaDisabled := f.disabled
    cpaCredentialStatus := credentialStatus
    cpaCredentialReason := credentialReason
    cpaCredentialLastError := credentialLastError
    cpaCredentialCheckedAt := now.rfc3339
    cpaSubscriptionExpiresAt := subscriptionExpiresAt
    cpaSubscriptionFetchedAt := subscriptionFetchedAt
    cpaSubscriptionStatus := subscriptionStatus
    cpaAccessStatus := []
    cpaQuotaStatus := []
    servingStatus := []
    enabled := enabled
    status := []
    notes := notes }

/-- The update of an account that is there; it keeps its label and its notes unless
others are given. -/
def reimport (account existing : Account) (label notes : Str) : AdminProg Int := do
  let account :=
    { account with
      id := existing.id
      label := if isBlank label then existing.label else account.label
      notes := if isBlank notes then existing.notes else account.notes }
  Prog.writes [.updateCpaAccountFromImport existing.id account]
  pure existing.id

/-- `upsertImportedCpaAccount`; `none` is an error of the database. -/
def upsertImportedCpaAccount (t : Tokens) (svc : CpaService) (accountKey : Str) (f : CpaAuthFile)
    (label : Str) (enabled : Bool) (notes : Str) : AdminProg (Option Int) := do
  let now ← Prog.look fun env _ => env.now
  let account := importedCpaAccountTemplate t now svc accountKey f label enabled notes
  match ← Prog.look fun _ db => db.findAccountByCpaKey svc.id accountKey with
  | some existing => some <$> reimport account existing label notes
  | none =>
    let row ← Prog.look fun env db =>
      let row := db.newAccount env account.sourceKind account
      if db.insertAccountFails row then none else some row
    Prog.writes [.createAccount account]
    match row with
    | some row => pure (some row.id)
    | none =>
      -- another request may have added the account in between
      match ← Prog.look fun _ db => db.findAccountByCpaKey svc.id accountKey with
      | some existing => some <$> reimport account existing label notes
      | none => pure none

/-- How a credential comes in. -/
inductive Intake where
  | deviceLogin (poolID : Int)
  | authJSON (label : Str) (enabled : Bool) (notes : Str) (poolID : Int)
  | authJSONBatch (enabled : Bool) (poolID : Int)
  | authDir (label : Str) (enabled : Bool) (notes : Str) (poolID : Int)

/-- The part of `finalizeLogin`, `importCpaAuthJSON`,
`importSingleCpaAuthJSONBatchItem`, `importCpaAccount` and
`batchImportCpaAccounts` that writes to the database; the account it returns is
refreshed next, unless it came with a batch. -/
def Intake.program (t : Tokens) (svc : CpaService) (accountKey : Str) (f : CpaAuthFile) :
    Intake → AdminProg (Option Int)
  | deviceLogin poolID => do
    let id ← upsertImportedCpaAccount t svc accountKey f [] true []
    match id with
    | some id =>
      if 0 < poolID then Prog.writes [.addPoolMemberIdempotent poolID id]
      pure (some id)
    | none => pure none
  | authJSON label enabled notes poolID | authDir label enabled notes poolID => do
    let id ← upsertImportedCpaAccount t svc accountKey f label enabled notes
    match id with
    | some id =>
      Prog.writes [.addPoolMemberIdempotent poolID id]
      pure (some id)
    | none => pure none
  | authJSONBatch enabled poolID => do
    let now ← Prog.look fun env _ => env.now
    let account := importedCpaAccountTemplate t now svc accountKey f [] enabled []
    Prog.writes [.upsertCpaAccountAndPoolMemberFromImport poolID account]
    let imported ← Prog.look fun _ db => db.findAccountByCpaKey svc.id accountKey
    pure (imported.map fun account => account.id)

/-! ## What an intake writes -/

/-- The writes of an intake: an account that brings no access of its own, or its
membership in the pool. -/
inductive IntakeWrite : AccountWrite → Prop where
  | create (a : Account) (hstatus : a.cpaAccessStatus = []) (hreason : a.cpaAccessReason = []) :
    IntakeWrite (.createAccount a)
  | update (id : Int) (a : Account) (hstatus : a.cpaAccessStatus = [])
    (hreason : a.cpaAccessReason = []) : IntakeWrite (.updateCpaAccountFromImport id a)
  | upsert (poolID : Int) (a : Account) (hstatus : a.cpaAccessStatus = [])
    (hreason : a.cpaAccessReason = []) :
    IntakeWrite (.upsertCpaAccountAndPoolMemberFromImport poolID a)
  | member (poolID id : Int) : IntakeWrite (.addPoolMemberIdempotent poolID id)

theorem safe_upsertImportedCpaAccount {Q : StoreEnv → Database → Prop} (t : Tokens)
    (svc : CpaService) (accountKey : Str) (f : CpaAuthFile) (label : Str) (enabled : Bool)
    (notes : Str) : (upsertImportedCpaAccount t svc accountKey f label enabled notes).Safe Q IntakeWrite
      fun _ => True := by
  unfold upsertImportedCpaAccount
  rw [Prog.safe_bind, Prog.safe_look]
  intro env db _
  have hreimport : ∀ existing, (some <$> reimport (importedCpaAccountTemplate t env.now svc
      accountKey f label enabled notes) existing label notes : AdminProg (Option Int)).Safe Q IntakeWrite
        fun _ => True := by
    intro existing
    exact ⟨.update _ _ rfl rfl, trivial⟩
  dsimp only
  rw [Prog.safe_bind, Prog.safe_look]
  intro _ db _
  split
  · exact hreimport _
  · rw [Prog.safe_bind, Prog.safe_look]
    intro _ db _
    rw [Prog.safe_bind, Prog.safe_writes]
    refine ⟨?_, ?_⟩
    · intro w hw
      obtain rfl := List.mem_singleton.mp hw
      exact .create _ rfl rfl
    · split
      · trivial
      · rw [Prog.safe_bind, Prog.safe_look]
        intro _ db _
        split
        · exact hreimport _
        · trivial

theorem safe_intake {Q : StoreEnv → Database → Prop} (t : Tokens) (svc : CpaService)
    (accountKey : Str) (f : CpaAuthFile) (intake : Intake) :
    (intake.program t svc accountKey f).Safe Q IntakeWrite fun _ => True := by
  have hupsert : ∀ label enabled notes (k : Option Int → AdminProg (Option Int)),
      (∀ id, (k id).Safe Q IntakeWrite fun _ => True) →
      (upsertImportedCpaAccount t svc accountKey f label enabled notes >>= k).Safe Q IntakeWrite
        fun _ => True := by
    intro label enabled notes k hk
    rw [Prog.safe_bind]
    exact (safe_upsertImportedCpaAccount t svc accountKey f label enabled notes).result fun id _ => hk id
  cases intake with
  | deviceLogin poolID =>
    apply hupsert
    intro id
    cases id with
    | none => trivial
    | some id =>
      dsimp only
      split
      · exact ⟨.member poolID id, trivial⟩
      · trivial
  | authJSON label enabled notes poolID | authDir label enabled notes poolID =>
    apply hupsert
    intro id
    cases id with
    | none => trivial
    | some id => exact ⟨.member poolID id, trivial⟩
  | authJSONBatch enabled poolID =>
    show Prog.Safe Q IntakeWrite _ (Prog.look (fun env _ => env.now) >>= _)
    rw [Prog.safe_bind, Prog.safe_look]
    intro env db _
    exact ⟨.upsert poolID _ rfl rfl, fun _ _ _ => trivial⟩

end Lune.Admin
