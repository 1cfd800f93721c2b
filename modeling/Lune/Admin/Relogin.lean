import Lune.Admin.Import
import Lune.Gateway.Verdicts
import Lune.Health.RefreshCalls
import Lune.Store.Access

/-!
# Logging in again

A model request that is refused because the credential is invalid leaves two
marks: `needs_login` on the account and `auth_invalid` on its diagnostic row.  A
login brings the account in again and clears the first.  The row is there
already, so nothing is inserted for it, and no later step of the way back
writes to it.
-/

namespace Lune.Admin

open GoText Keyed TimeText Calendar Programs Lune.Store Lune.Health Lune.Gateway

/-! ## The two marks -/

/-- Model requests reported that the credential of the codex account is invalid. -/
structure Rejected (db : Database) (id : Int) : Prop where
  account : ∃ row, db.accounts.find? id = some row ∧ row.sourceKind = lit "cpa" ∧
    equalFold row.cpaProvider (lit "codex") = true ∧ row.cpaCredentialStatus = lit "needs_login"
  diagnostic : Verdict.ofAccount? db id = some ⟨lit "auth_invalid", lit "ineligible", []⟩

/-- The update about an invalid credential passes the checks of the store. -/
theorem normalize_authInvalid {update : AccountDiagnosticUpdate}
    (hstable : update.stableDiagnosticStatus = lit "auth_invalid")
    (hoverride : update.schedulerOverride = []) (hpreserve : update.preserveStableStatus = false) :
    ∃ u, update.normalize = some u ∧
      ∀ v : Verdict, v.after u = ⟨lit "auth_invalid", lit "ineligible", []⟩ := by
  have hnormal : toLower (trimSpace (lit "auth_invalid")) = lit "auth_invalid" := by decide
  have hcontains : diagnosticStatuses.contains (lit "auth_invalid") = true := by decide
  have hstatus : schedulerStatusForStableDiagnostic (lit "auth_invalid") = lit "ineligible" := by
    decide
  have hblank : trimSpace [] = [] := rfl
  cases hu : update.normalize with
  | none =>
    simp [AccountDiagnosticUpdate.normalize, hstable, hoverride, hnormal, hblank,
      List.contains_iff_mem.mp hcontains] at hu
  | some u =>
    refine ⟨u, rfl, fun v => ?_⟩
    unfold AccountDiagnosticUpdate.normalize at hu
    simp only [hstable, hoverride, hnormal, hblank, hcontains, hstatus] at hu
    obtain rfl := Option.some.inj hu
    simp [Verdict.after, hpreserve]

/-- The update that the observation of an invalid credential makes. -/
theorem observationUpdate_authInvalid (env : ActionEnv) (account : Account) (statusCode : Int)
    (errMsg previous : Str) :
    (observationUpdate env account ⟨lit "auth_invalid", lit "auth_invalid_signal",
      lit "account authentication failed", statusCode, lit "auth_invalid", errMsg⟩
      previous).stableDiagnosticStatus = lit "auth_invalid" := by
  have htransient : equalFold (lit "auth_invalid_signal") (lit "transient_error") = false := by
    decide
  have hnormal : toLower (trimSpace (lit "auth_invalid")) = lit "auth_invalid" := by decide
  have hcontains : diagnosticStatuses.contains (lit "auth_invalid") = true := by decide
  have hne : lit "auth_invalid" ≠ [] := by decide
  simp [observationUpdate, nextStable, htransient, hnormal, hne,
    List.contains_iff_mem.mp hcontains]

/-- A record of an observation, when the row of the account was read. -/
theorem recordAccountDiagnosticObservation_of_read {env : ActionEnv} {account : Account}
    {current : Option AccountDiagnostic} (hpos : 0 < account.id)
    (hread : env.diagnostic = { result := some current }) (obs : Observation) :
    recordAccountDiagnosticObservation env account obs =
      [.store (.updateAccountDiagnosticWithEvidence account.id
          (observationUpdate env account obs (previousStable current))
          (observationEvidence env obs)),
        .invalidate] := by
  unfold recordAccountDiagnosticObservation
  rw [if_neg (not_le.mpr hpos), hread]
  rfl

/-- A write of the credential, and then one of the verdict, leave both marks. -/
theorem rejected_of_marks {db : Database} {id : Int} {row : AccountRow} {v : Verdict}
    {update : AccountDiagnosticUpdate} (hrow : db.accounts.find? id = some row)
    (hcpa : row.sourceKind = lit "cpa") (hcodex : equalFold row.cpaProvider (lit "codex") = true)
    (hthere : Verdict.ofAccount? db id = some v)
    (hstable : update.stableDiagnosticStatus = lit "auth_invalid")
    (hoverride : update.schedulerOverride = []) (hpreserve : update.preserveStableStatus = false)
    (env : StoreEnv) (reason lastError checkedAt : Str)
    (evidence : AccountDiagnosticEvidenceInput) :
    Rejected (runCalls env db
      [.updateAccountCpaCredentialStatus id (lit "needs_login") reason lastError checkedAt,
        .updateAccountDiagnosticWithEvidence id update evidence]) id := by
  obtain ⟨u, hu, hafter⟩ := normalize_authInvalid hstable hoverride hpreserve
  let marked := (StoreCall.updateAccountCpaCredentialStatus id (lit "needs_login") reason lastError
    checkedAt).run env db
  show Rejected (marked.updateAccountDiagnosticWithEvidence env id update evidence) id
  refine ⟨?_, ?_⟩
  · rw [Database.accounts_updateAccountDiagnosticWithEvidence]
    have hmarked : marked.accounts.find? id = some
        { row with
          cpaCredentialStatus := lit "needs_login"
          cpaCredentialReason := reason
          cpaCredentialLastError := lastError
          cpaCredentialCheckedAt := checkedAt
          updatedAt := env.now.datetime } :=
      Database.find?_updateAccount_self env (fun a =>
        { a with
          cpaCredentialStatus := lit "needs_login"
          cpaCredentialReason := reason
          cpaCredentialLastError := lastError
          cpaCredentialCheckedAt := checkedAt }) (fun _ => rfl) hrow
    exact ⟨_, hmarked, hcpa, hcodex, rfl⟩
  · have hverdict : Verdict.ofAccount? marked id = some v := hthere
    rw [ofAccount?_update env hverdict, hu]
    simp only [if_true]
    rw [hafter]

/-- What the gateway records over a rejected credential leaves both marks. -/
theorem rejected_of_rejectCredential {env : Env} {a : Attempt} {statusCode : Int}
    {body errMsg : Str} {storeEnv : StoreEnv} {db : Database} {row : AccountRow}
    {current : Option AccountDiagnostic} {v : Verdict}
    (hrow : db.accounts.find? a.route.accountID = some row) (hcpa : row.sourceKind = lit "cpa")
    (hcodex : equalFold row.cpaProvider (lit "codex") = true)
    (hid : a.route.account.id = a.route.accountID) (hpos : 0 < a.route.accountID)
    (hread : (env.attempts a.number).actions.diagnostic = { result := some current })
    (hthere : Verdict.ofAccount? db a.route.accountID = some v) :
    Rejected (runCalls storeEnv db
      (statements env (Call.rejectCredential a statusCode body errMsg))) a.route.accountID := by
  have hstatements : ∀ obs, statements env
      [.act a.number (.updateCpaCredential a.route.accountID (lit "needs_login")
          (gatewayCredentialReason body) (lit "HTTP " ++ itoa statusCode)),
        .act a.number (.recordAccountDiagnosticObservation a.route.account obs)] =
      [.updateAccountCpaCredentialStatus a.route.accountID (lit "needs_login")
          (gatewayCredentialReason body) (lit "HTTP " ++ itoa statusCode)
          (env.attempts a.number).actions.store.now.rfc3339,
        .updateAccountDiagnosticWithEvidence a.route.accountID
          (observationUpdate (env.attempts a.number).actions a.route.account obs
            (previousStable current))
          (observationEvidence (env.attempts a.number).actions obs)] := by
    intro obs
    simp only [statements, effects, List.flatMap_cons, List.flatMap_nil, Event.effects,
      Action.effects, recordAccountDiagnosticObservation_of_read (hid ▸ hpos) hread, hid]
    rfl
  rw [Call.rejectCredential, hstatements]
  exact rejected_of_marks hrow hcpa hcodex hthere (observationUpdate_authInvalid _ _ _ _ _) rfl
    (show equalFold (lit "auth_invalid_signal") (lit "transient_error") = false by decide) _ _ _ _ _

/-! ## The way back -/

/-- The write keeps the diagnostic rows that are there. -/
def KeepsDiagnostics : AccountWrite → Prop
  | .call call => ∀ id update evidence,
      call ≠ .updateAccountDiagnosticWithEvidence id update evidence
  | .backfillAccountDiagnostics => False
  | _ => True

theorem diagnostic_addPoolMemberIdempotent (db : Database) (poolID accountID : Int) :
    (db.addPoolMemberIdempotent poolID accountID).accountDiagnostics = db.accountDiagnostics := by
  unfold Database.addPoolMemberIdempotent
  dsimp only
  split <;> rfl

theorem diagnostic_ensureAccountDiagnosticTx {db : Database} {id : Int} {diag : AccountDiagnostic}
    (h : db.accountDiagnostics.find? id = some diag) (env : StoreEnv) (a : Account) :
    (db.ensureAccountDiagnosticTx env a).accountDiagnostics.find? id = some diag := by
  rw [Database.ensureAccountDiagnosticTx, Table.find?_insertOrIgnore, h]
  simp

theorem diagnostic_run {w : AccountWrite} (hw : KeepsDiagnostics w) {db : Database} {id : Int}
    {diag : AccountDiagnostic} (h : db.accountDiagnostics.find? id = some diag) (env : StoreEnv) :
    (w.run env db).accountDiagnostics.find? id = some diag := by
  cases w with
  | call call =>
    cases hcall : call.diagnosticID? with
    | none =>
      rw [AccountWrite.run, StoreCall.accountDiagnostics_run env db hcall]
      exact h
    | some other =>
      cases call with
      | ensureAccountDiagnostic other =>
        exact Database.diagnostic_ensureAccountDiagnostic db env other h
      | updateAccountDiagnosticWithEvidence other update evidence =>
        exact absurd rfl (hw other update evidence)
      | _ => contradiction
  | createAccount a =>
    show (db.createAccount env a).accountDiagnostics.find? id = _
    unfold Database.createAccount
    generalize (if a.sourceKind = [] then lit "openai_compat" else a.sourceKind) = sourceKind
    dsimp only
    split
    · exact h
    · exact diagnostic_ensureAccountDiagnosticTx h env _
  | upsertCpaAccountAndPoolMemberFromImport poolID a =>
    show (db.upsertCpaAccountAndPoolMemberFromImport env poolID a).accountDiagnostics.find? id = _
    unfold Database.upsertCpaAccountAndPoolMemberFromImport
    split
    · exact h
    split
    · exact h
    split
    · apply diagnostic_ensureAccountDiagnosticTx
      rw [diagnostic_addPoolMemberIdempotent]
      exact h
    · dsimp only
      split
      · exact h
      · apply diagnostic_ensureAccountDiagnosticTx
        rw [diagnostic_addPoolMemberIdempotent]
        exact h
  | addPoolMemberIdempotent poolID accountID =>
    rw [AccountWrite.run]
    split
    · exact h
    · rw [diagnostic_addPoolMemberIdempotent]
      exact h
  | backfillAccountDiagnostics => exact hw.elim
  | _ => exact h

/-- Bringing a credential in keeps the rows that are there. -/
theorem keepsDiagnostics_of_intake {w : AccountWrite} (h : IntakeWrite w) : KeepsDiagnostics w := by
  cases h <;> trivial

/-- So does a refresh whose probe is answered with a snapshot. -/
theorem keepsDiagnostics_refreshAccount {Q : StoreEnv → Database → Prop} (c : Checker)
    (io : RefreshIO) (acc : Account) (opts : RefreshOptions) {body : Str} {blocked : Bool}
    (hquota : io.usage.kind = .snapshot body blocked) :
    (refreshAccount c io acc opts).Safe Q (fun call => KeepsDiagnostics (.call call))
      fun _ => True := by
  apply safe_refreshAccount
  · intro models id update evidence heq
    contradiction
  · intro call hcall id update evidence heq
    subst heq
    exact hcall
  · unfold fetchOneCodexQuota
    rw [hquota]
    cases blocked <;> simp [clock, recordQuotaSnapshot, KeepsDiagnostics]

section Recovery

variable {t : Tokens} {svc : CpaService} {accountKey : Str} {f : CpaAuthFile} {intake : Intake}
  {c : Checker} {io : RefreshIO} {acc : Account} {opts : RefreshOptions} {db login back : Database}
  {id : Int} {imported : Option Int} {out : Health.Outcome} {body : Str} {blocked : Bool}

/-- After a login or an import, and a refresh whose probe is answered with a
snapshot, the account that was rejected still takes no ordinary traffic. -/
theorem relogin_stays_blocked (hrejected : Rejected db id)
    (hlogin : (intake.program t svc accountKey f).Ends AccountWrite.run db imported login)
    (hquota : io.usage.kind = .snapshot body blocked)
    (hrefresh : (refreshAccount c io acc opts).Ends StoreCall.run login out back) (now : Clock)
    {routability : RoutabilityOptions} (hordinary : routability.diagnostic = false) :
    (back.accountRoutability now routability id).routable = false := by
  obtain ⟨diag, hdiag, hverdict⟩ := Option.map_eq_some_iff.mp hrejected.diagnostic
  have hafterLogin : login.accountDiagnostics.find? id = some diag := by
    refine (hlogin.keeps (I := fun s => s.accountDiagnostics.find? id = some diag)
      (safe_intake t svc accountKey f intake) ?_ hdiag).1
    exact fun env s w hs hw => diagnostic_run (keepsDiagnostics_of_intake hw) hs env
  have hafterRefresh : back.accountDiagnostics.find? id = some diag := by
    refine (hrefresh.keeps (I := fun s => s.accountDiagnostics.find? id = some diag)
      (keepsDiagnostics_refreshAccount c io acc opts hquota) ?_ hafterLogin).1
    exact fun env s call hs hcall => diagnostic_run (w := .call call) hcall hs env
  have hstable : diag.stableDiagnosticStatus = lit "auth_invalid" :=
    congrArg Verdict.stableStatus hverdict
  have hoverride : diag.schedulerOverride = [] := congrArg Verdict.schedulerOverride hverdict
  apply Database.not_routable_of_diagnostic hafterRefresh _ _ now hordinary
  · rw [hstable]
    decide
  · rw [hoverride]
    decide

end Recovery

/-! ## A login that does not help -/

/-- A pool with the account, which is usable. -/
def servingDatabase : Database :=
  { usableDatabase with
    cpaServices := Table.empty.set { id := 1, managementKey := lit "m" }
    pools := Table.empty.set { id := 1 }
    poolMembers := Table.empty.set { id := 1, poolID := 1, accountID := 7 } }

/-- The time of the login. -/
def loginTime : StoreEnv := ⟨Clock.july, fun _ => []⟩

/-- The routing of ordinary traffic. -/
def ordinaryTraffic : RoutabilityOptions := { cpaRuntimeBindingSupported := true }

/-- A model request that the upstream refuses over the refresh token, with the row
of the account as the gateway reads it. -/
def rejectedEnv : Env :=
  let env := codexEnv (.response { statusCode := 401, body := lit "refresh token invalid" })
  { env with
    attempts := fun k =>
      { env.attempts k with
        view :=
          { options := { cpaRuntimeBindingSupported := true }
            snap := loadFromDB (servingDatabase.tableReads loginTime.now), clock := loginTime.now }
        actions :=
          { store := loginTime
            diagnostic := { result := some (servingDatabase.accountDiagnostics.find? 7) } } } }

/-- The database after that request. -/
def rejectedDatabase : Database :=
  runCalls loginTime servingDatabase
    (statements rejectedEnv (serveHTTP rejectedEnv (chatRequest false)))

/-- Tokens of a subscription that is active. -/
def activeTokens : Tokens where
  accountInfoPlanType := fun _ _ => none
  subscriptionActiveUntil := fun _ _ => lit "2027-01-01T00:00:00Z"
  accountInfoAccountID := fun _ _ => []
  cpaAuthDir := lit "auth"

/-- The fresh credential file. -/
def freshFile : CpaAuthFile := { type := lit "codex", email := lit "a", accountID := lit "o" }

/-- The end of a device login for the same account key. -/
def freshLogin : AdminProg (Option Int) :=
  (Intake.deviceLogin 1).program activeTokens { id := 1, managementKey := lit "m" } (lit "k")
    freshFile

/-- The database after the login. -/
def loginDatabase : Database := (freshLogin.run AccountWrite.run loginTime rejectedDatabase).2

/-- A runtime that lists the account. -/
def freshRuntime : RuntimeEnv where
  snap := { cpaServices := Table.ofList [(1, { id := 1, managementKey := lit "m" })] }
  now := default
  authFile := fun _ => .ok freshFile
  listing := ⟨fun _ => .ok [{ id := lit "k", authIndex := lit "0" }], fun _ => none⟩
  reload := .ok ()
  listingAfterReload := ⟨fun _ => .ok [], fun _ => none⟩

/-- Calls that all succeed, and a quota that is not blocked. -/
def freshIO : RefreshIO where
  discovery := { answer := .ok [lit "m"] }
  runtime := freshRuntime
  authRuntime := freshRuntime
  usage := { answer := .ok ⟨200, lit "\x7b\x7d"⟩ }

/-- The refresh of everything after the login. -/
def freshRefresh : StoreProg Health.Outcome :=
  refreshAccount activeTokens.toChecker freshIO ((loginDatabase.getAccount 7).getD { id := 7 })
    { models := true, quota := true, subscription := true }

/-- The outcome of the refresh, and the database after it. -/
def refreshed : Health.Outcome × Database := freshRefresh.run StoreCall.run loginTime loginDatabase

theorem rejected_rejectedDatabase : Rejected rejectedDatabase 7 := by
  have hmarks : rejectedDatabase.column?
      (fun a => (a.sourceKind, equalFold a.cpaProvider (lit "codex"), a.cpaCredentialStatus)) 7 =
        some (lit "cpa", true, lit "needs_login") ∧
      Verdict.ofAccount? rejectedDatabase 7 =
        some ⟨lit "auth_invalid", lit "ineligible", []⟩ := by
    decide +kernel
  obtain ⟨hcolumns, hdiagnostic⟩ := hmarks
  refine ⟨?_, hdiagnostic⟩
  obtain ⟨row, hrow, hvalues⟩ := Option.map_eq_some_iff.mp hcolumns
  obtain ⟨hkind, hrest⟩ := Prod.mk.inj hvalues
  obtain ⟨hcodex, hstatus⟩ := Prod.mk.inj hrest
  exact ⟨row, hrow, hkind, hcodex, hstatus⟩

/-- The account after that login and that refresh. -/
theorem freshLogin_stays_blocked :
    (refreshed.2.accountRoutability loginTime.now ordinaryTraffic 7).routable = false :=
  relogin_stays_blocked rejected_rejectedDatabase
    (freshLogin.ends_run AccountWrite.run loginTime rejectedDatabase)
    (show freshIO.usage.kind = .snapshot (lit "\x7b\x7d") false by rfl)
    (freshRefresh.ends_run StoreCall.run loginTime loginDatabase) loginTime.now rfl

/-- The account took traffic, a request was rejected, the login and every call of
the refresh succeed, the row in `accounts` is routable again, and yet the account
is not. -/
theorem relogin_does_not_restore :
    (servingDatabase.accountRoutability loginTime.now ordinaryTraffic 7).routable = true ∧
      (rejectedDatabase.accountRoutability loginTime.now ordinaryTraffic 7).routable = false ∧
      (freshLogin.run AccountWrite.run loginTime rejectedDatabase).1 = some 7 ∧
      freshFile.disabled = false ∧
      refreshed.1.firstErr = none ∧ refreshed.1.result.modelsRefreshed = true ∧
      refreshed.1.result.quotaRefreshed = true ∧
      refreshed.1.result.subscriptionRefreshed = true ∧
      (evaluateAccountRoutability loginTime.now (refreshed.2.getAccount 7)
        ordinaryTraffic).routable = true ∧
      refreshed.2.accountRoutability loginTime.now ordinaryTraffic 7 =
        blocked (lit "diagnostic_auth_invalid") := by
  decide +kernel

end Lune.Admin
