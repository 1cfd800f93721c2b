import Lune.Gateway.ErrorGrace
import Lune.Health.RefreshCalls
import Lune.Lib.ReusedKeys
import Lune.Store.Attribution

/-!
# Work that outlives its account

`checkOne`, `RefreshAccount` and the records of the gateway run in the background for an
account, which may be deleted meanwhile.  What they write is keyed by the number of the
account.  SQLite gives a new account the number after the highest one, so the number of
the newest account comes back once that is deleted.
-/

namespace Lune.Gateway

open GoText Keyed Programs ReusedKeys Lune.Store Lune.Health

/-! ## What is stored of an account -/

/-- The row of an account, its models and its diagnostic row. -/
structure StoredAccount where
  row : Option AccountRow
  models : List Str
  diagnostic : Option AccountDiagnostic

/-- What the tables have of an account. -/
def storedAccount (db : Database) (id : Int) : StoredAccount :=
  ⟨db.accounts.find? id, db.modelsOf id, db.accountDiagnostics.find? id⟩

/-- The account that a call is about. -/
def callAbout? : StoreCall → Option Int
  | .refreshAccountModels id _ => some id
  | call => call.accountID?.or call.diagnosticID?

theorem modelsOf_refreshAccountModels_of_ne {db : Database} {accountID id : Int}
    {models : List Str} (h : accountID ≠ id) :
    (db.refreshAccountModels accountID models).modelsOf id = db.modelsOf id := by
  cases hfails : db.refreshAccountModelsFails accountID models with
  | true => rw [Database.refreshAccountModels, hfails, if_pos rfl]
  | false => rw [Database.modelsOf_refreshAccountModels hfails, if_neg (Ne.symm h)]

theorem diagnostic_ensureAccountDiagnostic_of_ne {db : Database} {env : StoreEnv}
    {accountID id : Int} (h : accountID ≠ id) :
    (db.ensureAccountDiagnostic env accountID).accountDiagnostics.find? id =
      db.accountDiagnostics.find? id := by
  unfold Database.ensureAccountDiagnostic
  cases hget : db.getAccount accountID with
  | none => rfl
  | some acc =>
    obtain ⟨row, hrow, rfl⟩ := Option.map_eq_some_iff.mp hget
    have hid : row.id = accountID := (Table.mem_of_find? hrow).2
    have hkey : (db.newDiagnostic env (scanAccountRow row)).accountID ≠ id := by
      show row.id ≠ id
      rw [hid]
      exact h
    show (db.accountDiagnostics.insertOrIgnore _).find? id = _
    rw [Table.find?_insertOrIgnore, if_neg fun hnew => hkey hnew.1]

theorem diagnostic_updateAccountDiagnosticWithEvidence_of_ne {db : Database} {env : StoreEnv}
    {accountID id : Int} (update : AccountDiagnosticUpdate)
    (evidence : AccountDiagnosticEvidenceInput) (h : accountID ≠ id) :
    (db.updateAccountDiagnosticWithEvidence env accountID update evidence).accountDiagnostics.find?
      id = db.accountDiagnostics.find? id := by
  unfold Database.updateAccountDiagnosticWithEvidence
  cases update.normalize with
  | none => rfl
  | some update =>
    have hkey : ∀ d, (Database.applyDiagnosticUpdate env update d).accountID = d.accountID := fun _ => rfl
    show ((db.ensureAccountDiagnostic env accountID).accountDiagnostics.modify accountID _).find? id
      = _
    rw [Table.find?_modify _ hkey, if_neg (Ne.symm h), diagnostic_ensureAccountDiagnostic_of_ne h]

theorem modelsOf_congr {db db' : Database} (h : db.accountModels = db'.accountModels) (id : Int) :
    db.modelsOf id = db'.modelsOf id := by
  unfold Database.modelsOf
  rw [h]

/-- Only a refresh of models writes models. -/
theorem accountModels_diagnostics (db : Database) (env : StoreEnv) (id : Int) :
    (db.ensureAccountDiagnostic env id).accountModels = db.accountModels ∧
      ∀ update evidence,
        (db.updateAccountDiagnosticWithEvidence env id update evidence).accountModels =
          db.accountModels := by
  have hensure : (db.ensureAccountDiagnostic env id).accountModels = db.accountModels := by
    unfold Database.ensureAccountDiagnostic
    split <;> rfl
  refine ⟨hensure, fun update evidence => ?_⟩
  unfold Database.updateAccountDiagnosticWithEvidence
  split
  · rfl
  · exact hensure

/-- A call leaves what is stored of other accounts alone. -/
theorem storedAccount_run_of_ne (env : StoreEnv) (db : Database) {call : StoreCall} {id : Int}
    (h : callAbout? call ≠ some id) :
    storedAccount (call.run env db) id = storedAccount db id := by
  have hrow : call.accountID? ≠ some id := by
    intro hid
    cases call with
    | refreshAccountModels | ensureAccountDiagnostic | updateAccountDiagnosticWithEvidence =>
      contradiction
    | _ => exact h hid
  have hmodels : (call.run env db).modelsOf id = db.modelsOf id := by
    cases call with
    | refreshAccountModels other models =>
      exact modelsOf_refreshAccountModels_of_ne fun heq => h (congrArg some heq)
    | ensureAccountDiagnostic other =>
      exact modelsOf_congr (accountModels_diagnostics db env other).1 id
    | updateAccountDiagnosticWithEvidence other update evidence =>
      exact modelsOf_congr ((accountModels_diagnostics db env other).2 update evidence) id
    | _ => rfl
  have hdiagnostic : (call.run env db).accountDiagnostics.find? id =
      db.accountDiagnostics.find? id := by
    cases call with
    | ensureAccountDiagnostic other =>
      exact diagnostic_ensureAccountDiagnostic_of_ne fun heq => h (congrArg some heq)
    | updateAccountDiagnosticWithEvidence other update evidence =>
      exact diagnostic_updateAccountDiagnosticWithEvidence_of_ne update evidence fun heq =>
        h (congrArg some heq)
    | _ => rw [StoreCall.accountDiagnostics_run env db rfl]
  unfold storedAccount
  rw [StoreCall.find?_run_of_ne env db hrow, hmodels, hdiagnostic]

/-! ## The work -/

/-- What runs in the background for an account. -/
inductive BackgroundWork where
  | checkOne (io : CheckIO) (acc : Account)
  | refreshAccount (c : Checker) (io : RefreshIO) (acc : Account) (opts : RefreshOptions)
  | record (action : Action) (diagnostic : DiagnosticRead)

/-- The account that an action is about; the record of a token's use and the request for a
reload of the cache are about none. -/
def actionAbout : Action → Int
  | .recordServingSuccess accountID | .recordServingFailure accountID _
  | .updateHealth accountID _ _ | .updateCpaCredential accountID _ _ _
  | .clearAccountCodexModelRequestQuotaEvidence accountID
  | .updateAccountCpaCredentialStatus accountID _ _ _
  | .updateAccountCpaAccessStatus accountID _ _ _ => accountID
  | .recordCodexQuotaRateLimitEvidence account _ _
  | .recordAccountDiagnosticObservation account _ => account.id
  | .updateTokenLastUsed _ | .invalidate => 0

namespace BackgroundWork

/-- The number of the account that the work is for. -/
def accountID : BackgroundWork → Int
  | checkOne _ acc | refreshAccount _ _ acc _ => acc.id
  | record action _ => actionAbout action

/-- What the work does. -/
def program : BackgroundWork → StoreProg Unit
  | checkOne io acc => Health.checkOne io acc
  | refreshAccount c io acc opts => do
    let _ ← Health.refreshAccount c io acc opts
    pure ()
  | record action diagnostic => do
    let env ← Prog.look fun env _ => env
    Prog.writes (action.calls { store := env, diagnostic := diagnostic })

end BackgroundWork

/-- The statements of an action are about its account, or about a token. -/
theorem callAbout_of_mem_calls {env : ActionEnv} {action : Action} {call : StoreCall}
    (h : call ∈ action.calls env) :
    callAbout? call = some (actionAbout action) ∨ callAbout? call = none := by
  cases action with
  | recordAccountDiagnosticObservation account obs =>
    rcases mem_calls_recordAccountDiagnosticObservation h with rfl | ⟨previous, rfl⟩ <;>
      exact Or.inl rfl
  | recordCodexQuotaRateLimitEvidence account body errMsg =>
    simp only [Action.calls, Action.effects, Gateway.recordCodexQuotaRateLimitEvidence] at h
    split at h
    · simp at h
    · simp only [List.filterMap_cons, List.filterMap_nil, effectCall?, List.mem_singleton] at h
      obtain rfl := h
      exact Or.inl rfl
  | invalidate => simp [Action.calls, Action.effects, effectCall?] at h
  | updateTokenLastUsed tokenID =>
    simp only [Action.calls, Action.effects, List.filterMap_cons, List.filterMap_nil, effectCall?,
      List.mem_singleton] at h
    obtain rfl := h
    exact Or.inr rfl
  | _ =>
    simp only [Action.calls, Action.effects, Gateway.recordServingFailure, List.filterMap_cons,
      List.filterMap_nil, effectCall?, List.mem_singleton] at h
    obtain rfl := h
    exact Or.inl rfl

theorem callAbout_of_credentialCall {id : Int} {call : StoreCall} (h : CredentialCall id call) :
    callAbout? call = some id := by
  cases call with
  | updateAccountCpaMetadata | updateAccountCpaCredentialStatus | updateAccountCpaSubscription =>
    exact congrArg some h
  | updateAccountHealth => exact congrArg some h.1
  | _ => exact h.elim

theorem callAbout_of_quotaCall {id : Int} {call : StoreCall} (h : QuotaCall id call) :
    callAbout? call = some id := by
  cases call with
  | updateAccountCodexQuota | updateAccountCodexQuotaStatus | updateAccountCodexQuotaBackoff
  | ensureAccountDiagnostic =>
    exact congrArg some h
  | updateAccountCpaAccessStatus | updateAccountDiagnosticWithEvidence => exact congrArg some h.1
  | _ => exact h.elim

/-- A check writes about its account. -/
theorem safe_checkOne (io : CheckIO) (acc : Account) :
    (checkOne io acc).Safe (fun _ _ => True) (fun call => callAbout? call = some acc.id)
      fun _ => True := by
  unfold checkOne
  split
  · rw [Prog.safe_writes]
    refine ⟨?_, trivial⟩
    intro call hcall
    obtain rfl := List.mem_singleton.mp hcall
    rfl
  · rw [Prog.safe_bind]
    refine (safe_discoverModels _ _ (fun _ => rfl) fun _ => trivial).result fun result _ => ?_
    cases result with
    | error err => simp [callAbout?, StoreCall.accountID?]
    | ok models =>
      dsimp only
      rw [Prog.safe_bind, Prog.safe_look]
      intro env db _
      unfold clock
      rw [Prog.safe_bind, Prog.safe_look]
      intro env db _
      split
      · trivial
      · rw [Prog.safe_writes]
        refine ⟨?_, trivial⟩
        intro call hcall
        obtain rfl := List.mem_singleton.mp hcall
        rfl

/-- What background work writes is about its account, or about a token. -/
theorem BackgroundWork.safe_program (work : BackgroundWork) :
    work.program.Safe (fun _ _ => True)
      (fun call => callAbout? call = some work.accountID ∨ callAbout? call = none)
      fun _ => True := by
  cases work with
  | checkOne io acc =>
    exact (safe_checkOne io acc).mono (fun _ _ h => h) (fun _ => Or.inl) fun _ h => h
  | refreshAccount c io acc opts =>
    show (Health.refreshAccount c io acc opts >>= fun _ => pure ()).Safe _ _ _
    rw [Prog.safe_bind]
    refine (safe_refreshAccount (fun _ => Or.inl rfl)
      (fun _ hcall => Or.inl (callAbout_of_credentialCall hcall)) ?_).result fun _ _ => trivial
    exact (safe_fetchOneCodexQuota io.usage acc).mono (fun _ _ h => h)
      (fun _ hcall => Or.inl (callAbout_of_quotaCall hcall)) fun _ h => h
  | record action diagnostic =>
    show (Prog.look (fun env _ => env) >>= fun env =>
      Prog.writes (action.calls { store := env, diagnostic := diagnostic })).Safe _ _ _
    rw [Prog.safe_bind, Prog.safe_look]
    intro env db _
    rw [Prog.safe_writes]
    exact ⟨fun call hcall => callAbout_of_mem_calls hcall, trivial⟩

/-! ## Deletions and creations -/

/-- What else happens to accounts: the writes of the administration and of other work, and
deletions. -/
inductive AccountChange where
  | write (w : AccountWrite)
  | deleteAccount (id : Int)
  | deletePoolWithAccounts (id : Int)
  | deletePoolWithOrphans (id : Int)

/-- The tables after a change. -/
def AccountChange.run (env : StoreEnv) (db : Database) : AccountChange → Database
  | write w => w.run env db
  | deleteAccount id => db.deleteAccount id
  | deletePoolWithAccounts id => db.deletePoolWithAccounts id
  | deletePoolWithOrphans id => db.deletePoolWithOrphans id

/-- The change adds an account, which has the next number then. -/
def AccountChange.addsAccount (env : StoreEnv) (db : Database) : AccountChange → Bool
  | write (.createAccount a) => (HistoryEvent.createAccount a).addsAccount env db
  | write (.upsertCpaAccountAndPoolMemberFromImport poolID a) =>
    (HistoryEvent.upsertCpaAccountAndPoolMemberFromImport poolID a).addsAccount env db
  | _ => false

/-- An account that a change adds has the next number. -/
theorem AccountChange.account_of_run {env : StoreEnv} {db : Database} {change : AccountChange}
    {id : Int} (hnone : db.accounts.find? id = none)
    (hsome : ((change.run env db).accounts.find? id).isSome = true) :
    id = nextID db.accounts ∧ change.addsAccount env db = true := by
  have hfewer : ∀ {db' : Database}, Database.FewerAccounts db db' →
      (db'.accounts.find? id).isSome = true → False := by
    intro db' hfewer h
    have hthere := hfewer id h
    rw [hnone] at hthere
    contradiction
  cases change with
  | write w =>
    obtain ⟨row, hrow⟩ := Option.isSome_iff_exists.mp hsome
    obtain ⟨sourceKind, added, hadded, -⟩ := w.run_added env hnone hrow
    cases w with
    | createAccount a => exact Database.account_of_createAccount hnone hsome
    | upsertCpaAccountAndPoolMemberFromImport poolID a =>
      exact Database.account_of_upsert hnone hsome
    | _ => contradiction
  | deleteAccount other =>
    exact (hfewer (Database.fewerAccounts_deleteAccount db other) hsome).elim
  | deletePoolWithAccounts other =>
    exact (hfewer (Database.fewerAccounts_foldl Database.fewerAccounts_deleteAccount
      (db.memberAccounts other) (db.deletePool other)) hsome).elim
  | deletePoolWithOrphans other =>
    exact (hfewer (Database.fewerAccounts_foldl Database.fewerAccounts_deleteOrphan
      (db.memberAccounts other) (db.deletePool other)) hsome).elim

/-! ## Runs -/

/-- Background work among deletions, creations and other writes. -/
def backgroundSetting : Setting Int StoreEnv Database StoreCall BackgroundWork AccountChange where
  apply := StoreCall.run
  alter := AccountChange.run
  present db id := (db.accounts.find? id).isSome
  key := BackgroundWork.accountID
  program := BackgroundWork.program

/-- A creation does not take the number of an account that work in flight was started
for. -/
def TakesFreeNumber (s : System Int StoreEnv Database StoreCall) :
    ReusedKeys.Event StoreEnv BackgroundWork AccountChange → Prop
  | .start _ | .act _ _ => True
  | .other env change => change.addsAccount env s.state = true →
      ∀ w ∈ s.works, w.inFlight = true → w.key ≠ nextID s.state.accounts

instance (s : System Int StoreEnv Database StoreCall) :
    (ev : ReusedKeys.Event StoreEnv BackgroundWork AccountChange) → Decidable (TakesFreeNumber s ev)
  | .start _ | .act _ _ => .isTrue trivial
  | .other _ _ => inferInstanceAs (Decidable (_ → ∀ w ∈ s.works, _))

theorem noReuse_of_takesFreeNumber {s : System Int StoreEnv Database StoreCall}
    {ev : ReusedKeys.Event StoreEnv BackgroundWork AccountChange} (h : TakesFreeNumber s ev) :
    backgroundSetting.NoReuse s ev := by
  cases ev with
  | start | act => trivial
  | other env change =>
    intro w hw hflight
    refine Bool.eq_false_iff.mpr fun hbrings => ?_
    obtain ⟨habsent, hpresent⟩ := (Bool.and_eq_true _ _).mp hbrings
    have hnone : s.state.accounts.find? w.key = none := by
      simpa [backgroundSetting] using habsent
    obtain ⟨hnext, hadds⟩ := AccountChange.account_of_run hnone hpresent
    exact h hadds w hw hflight hnext

/-- In a run in which no creation takes the number of an account with work in flight, no
step of that work changes what is stored of an account it was not started for. -/
theorem background_work_spares_others {db : Database}
    {evs : List (ReusedKeys.Event StoreEnv BackgroundWork AccountChange)}
    (h : Runs.Along backgroundSetting.step TakesFreeNumber (.idle db) evs) :
    Runs.Along backgroundSetting.step (backgroundSetting.Spares storedAccount) (.idle db) evs := by
  refine Setting.along_spares (fun work => work.safe_program)
    (fun env db call id habout => storedAccount_run_of_ne env db habout) (Setting.sound_idle db) ?_
  exact Runs.along_mono (fun _ _ => noReuse_of_takesFreeNumber) h

/-- A check of the direct account, which its discovery answers with one model, has looked at
the tables. -/
def checkUnderWay : List (ReusedKeys.Event StoreEnv BackgroundWork AccountChange) :=
  [.start (.checkOne { snap := {}, discovery := { answer := .ok [lit "gpt"] } }
      (scanAccountRow directAccount)),
    .act 0 (secondsIn 0)]

/-- An account is created. -/
def creation (n : Fin 60) : ReusedKeys.Event StoreEnv BackgroundWork AccountChange :=
  .other (secondsIn n) (.write (.createAccount { id := 0, label := lit "b" }))

/-- The account of the check is deleted. -/
def deletion : ReusedKeys.Event StoreEnv BackgroundWork AccountChange :=
  .other (secondsIn 2) (.deleteAccount 1)

/-- Another account has the highest number when the one of the check is deleted. -/
theorem check_of_older_account_spares :
    Runs.Along backgroundSetting.step (backgroundSetting.Spares storedAccount)
      (.idle directDatabase)
      (checkUnderWay ++ [creation 1, deletion, creation 3, .act 0 (secondsIn 4)]) :=
  background_work_spares_others (by decide +kernel)

theorem isSome_numberReused : (Runs.exec backgroundSetting.step (.idle directDatabase)
    (checkUnderWay ++ [deletion, creation 3])).isSome = true := by
  decide +kernel

/-- The account of the check was the newest one when it was deleted, and the next account has
its number. -/
def numberReused : System Int StoreEnv Database StoreCall := Option.get _ isSome_numberReused

/-- The models that the check has discovered become those of the next account. -/
theorem check_of_newest_account_hits :
    ¬ ∀ (db : Database) (evs : List (ReusedKeys.Event StoreEnv BackgroundWork AccountChange)),
      Runs.Along backgroundSetting.step (backgroundSetting.Spares storedAccount) (.idle db) evs := by
  intro h
  have hspares := Runs.along_last (h directDatabase
    (checkUnderWay ++ [deletion, creation 3] ++ [.act 0 (secondsIn 4)]))
    (Option.some_get isSome_numberReused).symm
  have hworks : numberReused.works[0]?.map Work.generation = some 0 := by decide +kernel
  obtain ⟨w, hw, hborn⟩ := Option.map_eq_some_iff.mp hworks
  have hwrites : (backgroundSetting.step numberReused (.act 0 (secondsIn 4))).map
      (fun t => t.state.modelsOf 1) = some [lit "gpt"] := by decide +kernel
  obtain ⟨t, ht, hmodels⟩ := Option.map_eq_some_iff.mp hwrites
  have hsame := hspares 0 (secondsIn 4) w t rfl hw ht 1 fun _ => by
    rw [hborn]
    exact (by decide +kernel : numberReused.generation 1 ≠ 0)
  have hnone : numberReused.state.modelsOf 1 = [] := by decide +kernel
  have hkept : t.state.modelsOf 1 = numberReused.state.modelsOf 1 :=
    congrArg StoredAccount.models hsame
  rw [hmodels, hnone] at hkept
  contradiction

end Lune.Gateway
