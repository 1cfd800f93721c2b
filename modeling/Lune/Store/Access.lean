import Lune.Store.Accounts
import Lune.Store.Columns

/-!
# The access of an account

What each write makes of `cpa_access_status` and `cpa_access_reason`.  The two
statements about the subscription share one rule, and so do the three that bring
an account in; the backfill at the start has a rule of its own.
-/

namespace Lune.Store

open GoText Keyed
open Database (backfilledAccess)

/-- `cpa_access_status` and `cpa_access_reason`. -/
structure Access where
  status : Str
  reason : Str
deriving DecidableEq

/-- The access columns of a row. -/
def AccountRow.access (a : AccountRow) : Access := ⟨a.cpaAccessStatus, a.cpaAccessReason⟩

/-- The access of an account that is brought in. -/
def Account.initialAccess (a : Account) : Access :=
  ⟨initialCpaAccessStatus a, initialCpaAccessReason a⟩

/-- A subscription that has expired takes the access away: what there is of it
comes from a subscription, or there is none. -/
def Access.expires (access : Access) : Bool :=
  access.status != lit "eligible" || access.reason == lit "subscription_active"

/-- The access after a write about the subscription. -/
def Access.afterSubscription (subscription : Str) (old : Access) : Access :=
  if subscription == lit "active" then ⟨lit "eligible", lit "subscription_active"⟩
  else if subscription == lit "expired" && old.expires then
    ⟨lit "ineligible", lit "subscription_expired"⟩
  else old

/-- What a call makes of the access of an account. -/
def StoreCall.onAccess (env : StoreEnv) (id : Int) : StoreCall → Access → Access
  | updateAccountCpaAccessStatus other status reason _ _ => fun old =>
    if other = id then ⟨defaultCpaStatus status, reason⟩ else old
  | updateAccountCpaSubscription other expiresAt _ lastError => fun old =>
    if other = id then
      old.afterSubscription (deriveCpaSubscriptionStatus env.now expiresAt lastError)
    else old
  | _ => fun old => old

/-- The two statements about the subscription follow the rule. -/
theorem access_ofSubscription (a : AccountRow) (subscription : Str) :
    Access.mk
        (if subscription == lit "active" then lit "eligible"
          else if subscription == lit "expired" &&
            (a.cpaAccessStatus != lit "eligible" || a.cpaAccessReason == lit "subscription_active")
          then lit "ineligible" else a.cpaAccessStatus)
        (if subscription == lit "active" then lit "subscription_active"
          else if subscription == lit "expired" &&
            (a.cpaAccessStatus != lit "eligible" || a.cpaAccessReason == lit "subscription_active")
          then lit "subscription_expired" else a.cpaAccessReason) =
      a.access.afterSubscription subscription := by
  show _ = if subscription == lit "active" then _
    else if subscription == lit "expired" && (a.cpaAccessStatus != lit "eligible" ||
      a.cpaAccessReason == lit "subscription_active") then _ else a.access
  split
  · rfl
  · split <;> rfl

theorem StoreCall.access_run (env : StoreEnv) (db : Database) (call : StoreCall) (id : Int) :
    (call.run env db).column? AccountRow.access id =
      (db.column? AccountRow.access id).map (call.onAccess env id) := by
  cases call with
  | updateAccountCpaAccessStatus other status reason lastError checkedAt =>
    exact Database.column?_updateAccount db env other id
      (fun _ => Access.mk (defaultCpaStatus status) reason) (fun _ => rfl) (fun _ => rfl)
  | updateAccountCpaSubscription other expiresAt fetchedAt lastError =>
    exact Database.column?_updateAccount db env other id
      (Access.afterSubscription (deriveCpaSubscriptionStatus env.now expiresAt lastError))
      (fun _ => rfl) fun a => access_ofSubscription a _
  | updateTokenLastUsed | refreshAccountModels | ensureAccountDiagnostic
  | updateAccountDiagnosticWithEvidence =>
    rw [StoreCall.column?_run_of_ne db env (by simp [StoreCall.accountID?])]
    exact Option.map_id'.symm
  | updateAccountHealthIfUnchanged other status lastError previous =>
    rw [StoreCall.run, Database.column?_updateAccountHealthIfUnchanged db env other status lastError
      previous id AccountRow.access (fun _ _ => rfl) (fun _ _ => rfl)]
    simp only [ite_self]
    exact Option.map_id'.symm
  | _ => exact Database.column?_updateAccount_of_keeps db env _ id (fun _ => rfl) fun _ => rfl

/-! ## Accounts that are added or imported -/

namespace Database

/-- The account that an upsert updates. -/
def importTarget? (db : Database) (poolID : Int) (a : Account) : Option Int :=
  a.cpaServiceID.bind fun serviceID =>
    (db.pools.find? poolID).bind fun _ =>
      (db.findAccountByCpaKey serviceID a.cpaAccountKey).map fun existing => existing.id

theorem accounts_ensureAccountDiagnosticTx (db : Database) (env : StoreEnv) (a : Account) :
    (db.ensureAccountDiagnosticTx env a).accounts = db.accounts := rfl

theorem accounts_addPoolMemberIdempotent (db : Database) (poolID accountID : Int) :
    (db.addPoolMemberIdempotent poolID accountID).accounts = db.accounts := by
  unfold addPoolMemberIdempotent
  dsimp only
  split <;> rfl

theorem accounts_backfillAccountDiagnostics (db : Database) (env : StoreEnv) :
    (db.backfillAccountDiagnostics env).accounts = db.accounts := by
  have hrows : ∀ (rows : List AccountRow) (start : Database),
      (rows.foldl (fun db a =>
        { db with
          accountDiagnostics :=
            db.accountDiagnostics.insertOrIgnore (db.backfilledDiagnostic env a) })
        start).accounts = start.accounts := by
    intro rows
    induction rows with
    | nil => exact fun start => rfl
    | cons a rows ih => exact fun start => ih _
  exact hrows db.accounts.rows db

/-- The backfill of the access goes over every account. -/
theorem find?_migrateCpaAccessColumns (db : Database) (id : Int) :
    db.migrateCpaAccessColumns.accounts.find? id = (db.accounts.find? id).map backfilledAccess := by
  have hid : ∀ a, (backfilledAccess a).id = a.id := by
    intro a
    unfold backfilledAccess
    dsimp only
    split <;> rfl
  exact Table.find?_foldl_modify_rows hid db.accounts id

/-- `CreateAccount` keeps the accounts, or adds one. -/
theorem accounts_createAccount (db : Database) (env : StoreEnv) (a : Account) :
    (db.createAccount env a).accounts = db.accounts ∨
      ∃ sourceKind, (db.createAccount env a).accounts =
        db.accounts.set (db.newAccount env sourceKind a) := by
  unfold createAccount
  generalize (if a.sourceKind = [] then lit "openai_compat" else a.sourceKind) = sourceKind
  dsimp only
  split
  · exact Or.inl rfl
  · exact Or.inr ⟨_, rfl⟩

/-- An upsert updates the account it finds, or else adds one unless it fails. -/
theorem accounts_upsertCpaAccountAndPoolMemberFromImport (db : Database) (env : StoreEnv)
    (poolID : Int) (a : Account) :
    (∃ id, db.importTarget? poolID a = some id ∧
      (db.upsertCpaAccountAndPoolMemberFromImport env poolID a).accounts =
        (db.updateCpaAccountFromImport env id a).accounts) ∨
      db.importTarget? poolID a = none ∧
        ((db.upsertCpaAccountAndPoolMemberFromImport env poolID a).accounts = db.accounts ∨
          ∃ sourceKind, (db.upsertCpaAccountAndPoolMemberFromImport env poolID a).accounts =
            db.accounts.set (db.newAccount env sourceKind a)) := by
  unfold upsertCpaAccountAndPoolMemberFromImport importTarget?
  cases a.cpaServiceID with
  | none => exact Or.inr ⟨rfl, Or.inl rfl⟩
  | some serviceID =>
    dsimp only
    cases db.pools.find? poolID with
    | none => exact Or.inr ⟨rfl, Or.inl rfl⟩
    | some pool =>
      rw [if_neg (by simp)]
      cases hfind : db.findAccountByCpaKey serviceID a.cpaAccountKey with
      | some existing =>
        refine Or.inl ⟨existing.id, by simp [hfind], ?_⟩
        exact accounts_addPoolMemberIdempotent _ poolID existing.id
      | none =>
        refine Or.inr ⟨by simp [hfind], ?_⟩
        dsimp only
        split
        · exact Or.inl rfl
        · exact Or.inr ⟨_, accounts_addPoolMemberIdempotent _ poolID _⟩

/-- A new account leaves the columns of the others alone. -/
theorem column?_set_newAccount {τ : Type} {π : AccountRow → τ} (db : Database) (env : StoreEnv)
    (sourceKind : Str) (a : Account) {accounts : Table AccountRow.id}
    (haccounts : accounts = db.accounts.set (db.newAccount env sourceKind a)) {id : Int} {x : τ}
    (h : db.column? π id = some x) : (accounts.find? id).map π = some x := by
  have hne : (db.newAccount env sourceKind a).id ≠ id := by
    intro hid
    have hnone : db.accounts.find? (db.newAccount env sourceKind a).id = none :=
      Table.find?_next db.accounts
    rw [hid] at hnone
    rw [column?, hnone] at h
    contradiction
  rw [haccounts, Table.find?_set, if_neg hne]
  exact h

end Database

/-- The account that is imported into the row `id`. -/
def AccountWrite.importOf? (db : Database) (id : Int) : AccountWrite → Option Account
  | updateCpaAccountFromImport other a => if other = id then some a else none
  | upsertCpaAccountAndPoolMemberFromImport poolID a =>
    if db.importTarget? poolID a = some id then some a else none
  | _ => none

/-- The account that a write adds, if it adds one. -/
def AccountWrite.added? : AccountWrite → Option Account
  | createAccount a | upsertCpaAccountAndPoolMemberFromImport _ a => some a
  | _ => none

/-- What a write that imports nothing into the account `id` makes of its access;
its row is `a`. -/
def AccountWrite.editAccess (env : StoreEnv) (id : Int) (a : AccountRow) : AccountWrite → Access
  | call c => c.onAccess env id a.access
  | updateAccountCpaSubscriptionStatus other status _ _ =>
    if other = id then a.access.afterSubscription (defaultCpaStatus status) else a.access
  | migrateCpaAccessColumns => (backfilledAccess a).access
  | _ => a.access

/-- What a write makes of the access of the account `id`, whose row is `a`. -/
def AccountWrite.onAccess (env : StoreEnv) (db : Database) (id : Int) (a : AccountRow)
    (w : AccountWrite) : Access :=
  match w.importOf? db id with
  | some imported => imported.initialAccess
  | none => w.editAccess env id a

/-- An import gives the account it names its access. -/
theorem Database.access_updateCpaAccountFromImport (db : Database) (env : StoreEnv)
    (other : Int) (imported : Account) {id : Int} {a : AccountRow}
    (h : db.accounts.find? id = some a) :
    (db.updateCpaAccountFromImport env other imported).column? AccountRow.access id =
      some (if other = id then imported.initialAccess else a.access) := by
  have himported : (db.updateCpaAccountFromImport env other imported).column? AccountRow.access id =
      (db.column? AccountRow.access id).map fun old =>
        if other = id then imported.initialAccess else old :=
    column?_updateAccount db env other id (fun _ => imported.initialAccess) (fun _ => rfl)
      fun _ => rfl
  rw [himported, column?, h]
  rfl

theorem AccountWrite.access_run (env : StoreEnv) {db : Database} (w : AccountWrite) {id : Int}
    {a : AccountRow} (h : db.accounts.find? id = some a) :
    (w.run env db).column? AccountRow.access id = some (w.onAccess env db id a) := by
  have hcolumn : db.column? AccountRow.access id = some a.access := by
    rw [Database.column?, h]
    rfl
  have hsame : ∀ {db' : Database}, db'.accounts = db.accounts →
      db'.column? AccountRow.access id = some a.access := by
    intro db' haccounts
    rw [Database.column?, haccounts]
    exact hcolumn
  have hkeeps : ∀ {db' : Database}, db'.column? AccountRow.access id =
      ((db.column? AccountRow.access id).map fun old => old) →
      db'.column? AccountRow.access id = some a.access := by
    intro db' hcolumn'
    rw [hcolumn', hcolumn]
    rfl
  cases w with
  | call c =>
    rw [AccountWrite.run, StoreCall.access_run, hcolumn]
    rfl
  | createAccount acc =>
    rcases Database.accounts_createAccount db env acc with hkeep | ⟨sourceKind, hset⟩
    · exact hsame hkeep
    · exact Database.column?_set_newAccount db env sourceKind acc hset hcolumn
  | updateAccount other acc =>
    apply hkeeps
    exact Database.column?_updateAccount_of_keeps db env other id (fun _ => rfl) fun _ => rfl
  | enableAccount other =>
    apply hkeeps
    exact Database.column?_updateAccount_of_keeps db env other id (fun _ => rfl) fun _ => rfl
  | disableAccount other =>
    apply hkeeps
    exact Database.column?_updateAccount_of_keeps db env other id (fun _ => rfl) fun _ => rfl
  | updateCpaAccountFromImport other imported =>
    refine (Database.access_updateCpaAccountFromImport db env other imported h).trans ?_
    by_cases hid : other = id
    · simp [AccountWrite.onAccess, AccountWrite.importOf?, hid]
    · simp [AccountWrite.onAccess, AccountWrite.importOf?, AccountWrite.editAccess, hid]
  | upsertCpaAccountAndPoolMemberFromImport poolID imported =>
    rcases Database.accounts_upsertCpaAccountAndPoolMemberFromImport db env poolID imported with
      ⟨target, htarget, haccounts⟩ | ⟨htarget, haccounts⟩
    · have himport := Database.access_updateCpaAccountFromImport db env target imported h
      rw [Database.column?, ← haccounts] at himport
      refine himport.trans ?_
      by_cases hid : target = id
      · simp [AccountWrite.onAccess, AccountWrite.importOf?, htarget, hid]
      · simp [AccountWrite.onAccess, AccountWrite.importOf?, AccountWrite.editAccess, htarget, hid]
    · simp only [AccountWrite.onAccess, AccountWrite.importOf?, htarget, AccountWrite.editAccess]
      rcases haccounts with hkeep | ⟨sourceKind, hset⟩
      · exact hsame hkeep
      · exact Database.column?_set_newAccount db env sourceKind imported hset hcolumn
  | addPoolMemberIdempotent poolID accountID =>
    apply hsame
    rw [AccountWrite.run]
    split
    · rfl
    · exact Database.accounts_addPoolMemberIdempotent db poolID accountID
  | updateAccountCpaSubscriptionStatus other status lastError checkedAt =>
    have hset : (db.updateAccountCpaSubscriptionStatus env other status lastError
        checkedAt).column? AccountRow.access id = (db.column? AccountRow.access id).map fun old =>
          if other = id then old.afterSubscription (defaultCpaStatus status) else old :=
      Database.column?_updateAccount db env other id
        (Access.afterSubscription (defaultCpaStatus status)) (fun _ => rfl) fun a =>
          access_ofSubscription a _
    exact hset.trans (by rw [hcolumn]; rfl)
  | backfillAccountDiagnostics =>
    exact hsame (Database.accounts_backfillAccountDiagnostics db env)
  | migrateCpaAccessColumns =>
    rw [AccountWrite.run, Database.column?, Database.find?_migrateCpaAccessColumns, h]
    rfl

/-- No write removes an account. -/
theorem AccountWrite.isSome_find?_run (env : StoreEnv) {db : Database} (w : AccountWrite) {id : Int}
    (h : (db.accounts.find? id).isSome) : ((w.run env db).accounts.find? id).isSome := by
  obtain ⟨a, ha⟩ := Option.isSome_iff_exists.mp h
  obtain ⟨a', ha', -⟩ := Option.map_eq_some_iff.mp (w.access_run env ha)
  exact Option.isSome_iff_exists.mpr ⟨a', ha'⟩

/-- An account that a write adds is the row of a new account. -/
theorem AccountWrite.run_added (env : StoreEnv) {db : Database} (w : AccountWrite) {id : Int}
    {a : AccountRow} (hnew : db.accounts.find? id = none)
    (h : (w.run env db).accounts.find? id = some a) :
    ∃ sourceKind added, w.added? = some added ∧ a = db.newAccount env sourceKind added := by
  have hkeeps : ∀ {db' : Database}, db'.accounts = db.accounts →
      db'.accounts.find? id = some a → False := by
    intro db' haccounts hfind
    rw [haccounts, hnew] at hfind
    contradiction
  have hupdate : ∀ (other : Int) (f : AccountRow → AccountRow), (∀ r, (f r).id = r.id) →
      (db.updateAccount env other f).accounts.find? id = some a → False := by
    intro other f hf hfind
    rw [Database.find?_updateAccount db env other hf, hnew] at hfind
    split at hfind <;> contradiction
  have hset : ∀ {accounts : Table AccountRow.id} {sourceKind : Str} {added : Account},
      accounts = db.accounts.set (db.newAccount env sourceKind added) →
      accounts.find? id = some a → a = db.newAccount env sourceKind added := by
    intro accounts sourceKind added haccounts hfind
    rw [haccounts, Table.find?_set, hnew] at hfind
    split at hfind
    · exact (Option.some.inj hfind).symm
    · contradiction
  cases w with
  | call c =>
    have hsome := c.isSome_find?_run env db id
    rw [hnew, show (c.run env db).accounts.find? id = some a from h] at hsome
    contradiction
  | createAccount added =>
    rcases Database.accounts_createAccount db env added with hkeep | ⟨sourceKind, hadd⟩
    · exact (hkeeps hkeep h).elim
    · exact ⟨sourceKind, added, rfl, hset hadd h⟩
  | updateAccount other acc | enableAccount other | disableAccount other
  | updateCpaAccountFromImport other acc
  | updateAccountCpaSubscriptionStatus other status lastError checkedAt =>
    refine (hupdate other _ ?_ h).elim
    intro r
    rfl
  | upsertCpaAccountAndPoolMemberFromImport poolID added =>
    rcases Database.accounts_upsertCpaAccountAndPoolMemberFromImport db env poolID added with
      ⟨target, -, haccounts⟩ | ⟨-, hkeep | ⟨sourceKind, hadd⟩⟩
    · rw [AccountWrite.run, haccounts] at h
      exact (hupdate target (Database.importedAccount env added) (fun _ => rfl) h).elim
    · exact (hkeeps hkeep h).elim
    · exact ⟨sourceKind, added, rfl, hset hadd h⟩
  | addPoolMemberIdempotent poolID accountID =>
    refine (hkeeps ?_ h).elim
    rw [AccountWrite.run]
    split
    · rfl
    · exact Database.accounts_addPoolMemberIdempotent db poolID accountID
  | backfillAccountDiagnostics =>
    exact (hkeeps (Database.accounts_backfillAccountDiagnostics db env) h).elim
  | migrateCpaAccessColumns =>
    rw [AccountWrite.run, Database.find?_migrateCpaAccessColumns, hnew] at h
    contradiction

/-- An account that a write adds has the access it was brought in with. -/
theorem AccountWrite.access_run_added (env : StoreEnv) {db : Database} (w : AccountWrite) {id : Int}
    {a : AccountRow} (hnew : db.accounts.find? id = none)
    (h : (w.run env db).accounts.find? id = some a) :
    ∃ added, w.added? = some added ∧ a.access = added.initialAccess := by
  obtain ⟨sourceKind, added, hadded, rfl⟩ := w.run_added env hnew h
  exact ⟨added, hadded, rfl⟩

/-! ## An access and its reason -/

/-- The reason that a subscription gives goes with the status it gives. -/
structure Access.Consistent (access : Access) : Prop where
  active : access.reason = lit "subscription_active" → access.status = lit "eligible"
  expired : access.reason = lit "subscription_expired" → access.status = lit "ineligible"

/-- So it does for every account. -/
def Database.AccessConsistent (db : Database) : Prop :=
  ∀ id a, db.accounts.find? id = some a → a.access.Consistent

/-- A reason that is not about the subscription goes with every status. -/
theorem Access.consistent_of_reason {access : Access}
    (hactive : access.reason ≠ lit "subscription_active")
    (hexpired : access.reason ≠ lit "subscription_expired") : access.Consistent :=
  ⟨fun h => absurd h hactive, fun h => absurd h hexpired⟩

theorem Access.consistent_of_blank {access : Access} (h : access.reason = []) :
    access.Consistent := by
  apply consistent_of_reason
  · rw [h]
    decide
  · rw [h]
    decide

theorem Access.consistent_active : Access.Consistent ⟨lit "eligible", lit "subscription_active"⟩ :=
  ⟨fun _ => rfl, fun h => absurd h (by decide)⟩

theorem Access.consistent_expired :
    Access.Consistent ⟨lit "ineligible", lit "subscription_expired"⟩ :=
  ⟨fun h => absurd h (by decide), fun _ => rfl⟩

theorem Access.Consistent.afterSubscription {access : Access} (h : access.Consistent)
    (subscription : Str) : (access.afterSubscription subscription).Consistent := by
  unfold Access.afterSubscription
  split
  · exact Access.consistent_active
  · split
    · exact Access.consistent_expired
    · exact h

/-- An account that comes in without an access of its own. -/
theorem Account.consistent_initialAccess {a : Account} (hstatus : a.cpaAccessStatus = [])
    (hreason : a.cpaAccessReason = []) : a.initialAccess.Consistent := by
  have hblank : isBlank ([] : Str) = true := by decide
  unfold Account.initialAccess initialCpaAccessStatus initialCpaAccessReason
  simp only [hstatus, hreason, hblank, Bool.not_true, Bool.false_eq_true, if_false, Bool.or_self]
  split
  · exact Access.consistent_active
  · split
    · exact Access.consistent_expired
    · exact Access.consistent_of_blank rfl

theorem consistent_backfilledAccess {a : AccountRow} (h : a.access.Consistent) :
    (backfilledAccess a).access.Consistent := by
  unfold backfilledAccess
  dsimp only
  split
  next hguard =>
    rw [Bool.and_eq_true, Bool.and_eq_true] at hguard
    have hunknown : a.cpaAccessStatus = [] ∨ a.cpaAccessStatus = lit "unknown" := by
      simpa using hguard.1.2
    by_cases hreason : a.cpaAccessReason = []
    · simp only [AccountRow.access, hreason, ne_eq, not_true_eq_false, if_false]
      split
      · exact Access.consistent_active
      · split
        · exact Access.consistent_expired
        · exact Access.consistent_of_blank rfl
    · -- the reason stays, and with a status that is unknown it is not about the subscription
      apply Access.consistent_of_reason
      · show (if a.cpaAccessReason ≠ [] then a.cpaAccessReason else _) ≠ _
        rw [if_pos hreason]
        intro hactive
        have hstatus : a.cpaAccessStatus = lit "eligible" := h.active hactive
        rcases hunknown with hunknown | hunknown <;>
          exact absurd (hunknown.symm.trans hstatus) (by decide)
      · show (if a.cpaAccessReason ≠ [] then a.cpaAccessReason else _) ≠ _
        rw [if_pos hreason]
        intro hexpired
        have hstatus : a.cpaAccessStatus = lit "ineligible" := h.expired hexpired
        rcases hunknown with hunknown | hunknown <;>
          exact absurd (hunknown.symm.trans hstatus) (by decide)
  · exact h

end Lune.Store
