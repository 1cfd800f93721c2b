import Lune.Store.Access
import Lune.Store.PoolTokens
import Lune.Store.UsageCounts

/-!
# Whose history it is

The request logs keep the numbers of accounts and pools, and SQLite gives the
number of the newest row again once that row is deleted.  Runs are followed with
the step at which each row came into being, so that the lifetime of an account or
a pool is the time since then.  In runs in which no creation takes a number that a
log row carries, the reports keep to their own lifetimes.
-/

namespace Lune.Store

open GoText Keyed Programs

/-- What happens to accounts, pools and request logs. -/
inductive HistoryEvent where
  | createAccount (a : Account)
  | upsertCpaAccountAndPoolMemberFromImport (poolID : Int) (a : Account)
  | createPool (label : Str) (priority : Int) (enabled : Bool)
  | createPoolWithDefaultToken (label : Str) (priority : Int) (enabled : Bool) (value : Str)
  | deleteAccount (id : Int)
  | deletePoolWithAccounts (id : Int)
  | deletePoolWithOrphans (id : Int)
  | insertLog (l : RequestLog)
  | pruneDataRetention (retentionDays : Int)

/-- The tables with other accounts, pools and so on. -/
def Archive.withDatabase (s : Archive) (db : Database) : Archive :=
  { db with requestLogs := s.requestLogs }

/-- The tables after a transaction, unless it fails. -/
def Archive.commit (s : Archive) : Option Database → Archive
  | some db => s.withDatabase db
  | none => s

/-- The tables after an event; what fails changes nothing. -/
def HistoryEvent.run (t : TextFuncs) (env : StoreEnv) (s : Archive) : HistoryEvent → Archive
  | createAccount a => s.withDatabase (s.toDatabase.createAccount env a)
  | upsertCpaAccountAndPoolMemberFromImport poolID a =>
    s.withDatabase (s.toDatabase.upsertCpaAccountAndPoolMemberFromImport env poolID a)
  | createPool label priority enabled =>
    s.commit ((s.toDatabase.createPool env.now label priority enabled).map Prod.fst)
  | createPoolWithDefaultToken label priority enabled value =>
    s.commit (((TokenTx.mk s.toDatabase [value] {}).createPoolWithDefaultToken env.now label
      priority enabled).map TokenTx.db)
  | deleteAccount id => s.withDatabase (s.toDatabase.deleteAccount id)
  | deletePoolWithAccounts id => s.withDatabase (s.toDatabase.deletePoolWithAccounts id)
  | deletePoolWithOrphans id => s.withDatabase (s.toDatabase.deletePoolWithOrphans id)
  | insertLog l => ((Store.insertLog t l).run LogCall.run env.now s).2
  | pruneDataRetention days => ((Store.pruneDataRetention days).run LogCall.run env.now s).2

/-! ## Runs with the time at which rows came into being -/

/-- The tables, how many events there were, and after which of them each row came
into being; what was there at the start did so at 0. -/
structure Timeline where
  archive : Archive
  step : Nat := 0
  accountBorn : Int → Nat := fun _ => 0
  poolBorn : Int → Nat := fun _ => 0
  logMade : Int → Nat := fun _ => 0

/-- The time at which a row came into being, after a step. -/
def bornAfter {ρ : Type} {key : ρ → Int} (before after : Table key) (step : Nat) (born : Int → Nat)
    (id : Int) : Nat :=
  if (before.find? id).isNone && (after.find? id).isSome then step + 1 else born id

namespace Timeline

def next (t : TextFuncs) (tl : Timeline) (ev : StoreEnv × HistoryEvent) : Timeline :=
  let after := ev.2.run t ev.1 tl.archive
  { archive := after
    step := tl.step + 1
    accountBorn := bornAfter tl.archive.accounts after.accounts tl.step tl.accountBorn
    poolBorn := bornAfter tl.archive.pools after.pools tl.step tl.poolBorn
    logMade := bornAfter tl.archive.requestLogs after.requestLogs tl.step tl.logMade }

/-- The row was logged in the lifetime of the account it names. -/
def accountKept (tl : Timeline) (r : RequestLogRow) : Prop :=
  ∃ id, r.accountID = some id ∧ (tl.archive.accounts.find? id).isSome = true ∧
    tl.accountBorn id ≤ tl.logMade r.id

end Timeline

/-- The event adds an account.  Its number is then that of `newAccount`. -/
def HistoryEvent.addsAccount (env : StoreEnv) (db : Database) : HistoryEvent → Bool
  | createAccount a =>
    !db.insertAccountFails
      (db.newAccount env (if a.sourceKind = [] then lit "openai_compat" else a.sourceKind) a)
  | upsertCpaAccountAndPoolMemberFromImport poolID a =>
    a.cpaServiceID.isSome && (db.pools.find? poolID).isSome && (db.importTarget? poolID a).isNone &&
      !db.insertAccountFails (db.newAccount env (firstNonEmpty [a.sourceKind, lit "cpa"]) a)
  | _ => false

/-- The event adds a pool, with the next number. -/
def HistoryEvent.addsPool (db : Database) : HistoryEvent → Bool
  | createPool label _ _ => !db.pools.rows.any fun p => p.label == label
  | createPoolWithDefaultToken label _ _ value =>
    !(db.pools.rows.any fun p => p.label == label) &&
      !db.accessTokens.rows.any fun u => u.token == value || u.poolID == some (nextRowid db.pools)
  | _ => false

/-- The event takes no number that a log row carries. -/
def SparesHistory (s : Archive) (ev : StoreEnv × HistoryEvent) : Prop :=
  (ev.2.addsAccount ev.1 s.toDatabase = true →
    ∀ r ∈ s.requestLogs.rows, r.accountID ≠ some (nextID s.accounts)) ∧
  (ev.2.addsPool s.toDatabase = true →
    ∀ r ∈ s.requestLogs.rows, r.poolID ≠ some (nextRowid s.pools))

instance (s : Archive) (ev : StoreEnv × HistoryEvent) : Decidable (SparesHistory s ev) :=
  inferInstanceAs (Decidable ((_ → ∀ r ∈ _, _) ∧ (_ → ∀ r ∈ _, _)))

/-! ## Accounts and pools after an event -/

namespace Database

/-- The second tables have no account that the first ones do not have. -/
def FewerAccounts (db db' : Database) : Prop :=
  ∀ id, (db'.accounts.find? id).isSome = true → (db.accounts.find? id).isSome = true

/-- The second tables have no pool that the first ones do not have. -/
def FewerPools (db db' : Database) : Prop :=
  ∀ id, (db'.pools.find? id).isSome = true → (db.pools.find? id).isSome = true

theorem isSome_of_erase {ρ : Type} {key : ρ → Int} {t : Table key} {k id : Int}
    (h : ((t.erase k).find? id).isSome = true) : (t.find? id).isSome = true := by
  rw [Table.find?_erase] at h
  split at h
  · contradiction
  · exact h

theorem fewerAccounts_foldl {f : Database → Int → Database}
    (hf : ∀ db id, FewerAccounts db (f db id)) (ids : List Int) (db : Database) :
    FewerAccounts db (ids.foldl f db) := by
  induction ids generalizing db with
  | nil => exact fun _ h => h
  | cons id ids ih => exact fun other h => hf db id other (ih (f db id) other h)

theorem pools_foldl {f : Database → Int → Database} (hf : ∀ db id, (f db id).pools = db.pools)
    (ids : List Int) (db : Database) : (ids.foldl f db).pools = db.pools := by
  induction ids generalizing db with
  | nil => rfl
  | cons id ids ih => exact (ih (f db id)).trans (hf db id)

theorem fewerAccounts_deleteAccount (db : Database) (id : Int) :
    FewerAccounts db (db.deleteAccount id) := fun _ h => isSome_of_erase h

theorem fewerAccounts_deleteOrphan (db : Database) (id : Int) :
    FewerAccounts db (db.deleteOrphan id) := by
  unfold deleteOrphan
  split
  · exact fun _ h => h
  · exact fewerAccounts_deleteAccount db id

theorem pools_deleteOrphan (db : Database) (id : Int) : (db.deleteOrphan id).pools = db.pools := by
  unfold deleteOrphan
  split <;> rfl

theorem pools_addPoolMemberIdempotent (db : Database) (poolID accountID : Int) :
    (db.addPoolMemberIdempotent poolID accountID).pools = db.pools := by
  unfold addPoolMemberIdempotent
  dsimp only
  split <;> rfl

theorem pools_createAccount (db : Database) (env : StoreEnv) (a : Account) :
    (db.createAccount env a).pools = db.pools := by
  unfold createAccount
  generalize (if a.sourceKind = [] then lit "openai_compat" else a.sourceKind) = sourceKind
  dsimp only
  split <;> rfl

theorem pools_upsertCpaAccountAndPoolMemberFromImport (db : Database) (env : StoreEnv)
    (poolID : Int) (a : Account) :
    (db.upsertCpaAccountAndPoolMemberFromImport env poolID a).pools = db.pools := by
  unfold upsertCpaAccountAndPoolMemberFromImport
  split
  · rfl
  · split
    · rfl
    · split
      · exact pools_addPoolMemberIdempotent _ poolID _
      · dsimp only
        split
        · rfl
        · exact pools_addPoolMemberIdempotent _ poolID _

/-- A new account is there under the next number only. -/
theorem eq_nextID_of_set {db : Database} {env : StoreEnv} {sourceKind : Str} {a : Account}
    {id : Int} (hnone : db.accounts.find? id = none)
    (hsome : ((db.accounts.set (db.newAccount env sourceKind a)).find? id).isSome = true) :
    id = nextID db.accounts := by
  rw [Table.find?_set] at hsome
  split at hsome
  next hid => exact hid.symm
  · rw [hnone] at hsome
    contradiction

/-- An account that `CreateAccount` adds. -/
theorem account_of_createAccount {db : Database} {env : StoreEnv} {a : Account} {id : Int}
    (hnone : db.accounts.find? id = none)
    (hsome : ((db.createAccount env a).accounts.find? id).isSome = true) :
    id = nextID db.accounts ∧ (HistoryEvent.createAccount a).addsAccount env db = true := by
  have hadds : (HistoryEvent.createAccount a).addsAccount env db = !db.insertAccountFails
      (db.newAccount env (if a.sourceKind = [] then lit "openai_compat" else a.sourceKind) a) := rfl
  rw [hadds]
  unfold createAccount at hsome
  revert hsome
  generalize (if a.sourceKind = [] then lit "openai_compat" else a.sourceKind) = sourceKind
  intro hsome
  dsimp only at hsome
  split at hsome
  · rw [hnone] at hsome
    contradiction
  next hfails => exact ⟨eq_nextID_of_set hnone hsome, by simpa using hfails⟩

/-- An account that an import adds. -/
theorem account_of_upsert {db : Database} {env : StoreEnv} {poolID : Int} {a : Account} {id : Int}
    (hnone : db.accounts.find? id = none)
    (hsome : ((db.upsertCpaAccountAndPoolMemberFromImport env poolID a).accounts.find? id).isSome
      = true) :
    id = nextID db.accounts ∧
      (HistoryEvent.upsertCpaAccountAndPoolMemberFromImport poolID a).addsAccount env db = true := by
  unfold upsertCpaAccountAndPoolMemberFromImport at hsome
  split at hsome
  · rw [hnone] at hsome
    contradiction
  next serviceID hservice =>
    split at hsome
    · rw [hnone] at hsome
      contradiction
    next hpool =>
      split at hsome
      · rw [accounts_ensureAccountDiagnosticTx, accounts_addPoolMemberIdempotent,
          updateCpaAccountFromImport, find?_updateAccount db env _ (f := importedAccount env a)
            (fun _ => rfl), hnone] at hsome
        split at hsome
        · contradiction
        · contradiction
      next hfind =>
        dsimp only at hsome
        split at hsome
        · rw [hnone] at hsome
          contradiction
        next hfails =>
          rw [accounts_ensureAccountDiagnosticTx, accounts_addPoolMemberIdempotent] at hsome
          refine ⟨eq_nextID_of_set hnone hsome, ?_⟩
          have hthere : (db.pools.find? poolID).isSome = true := by
            rwa [← Option.not_isNone, Bool.not_eq_true', ← Bool.not_eq_true]
          simp [HistoryEvent.addsAccount, importTarget?, hservice, hthere, hfind, hfails]

end Database

/-- `CreatePoolWithDefaultToken` adds the pool that `CreatePool` adds. -/
theorem TokenTx.createPoolWithDefaultToken_eq_some {db : Database} {value label : Str}
    {priority : Int} {enabled : Bool} {now : Clock} {tx : TokenTx}
    (h : (TokenTx.mk db [value] {}).createPoolWithDefaultToken now label priority enabled = some tx) :
    tx.db.accounts = db.accounts ∧
      tx.db.pools = db.pools.set (db.newPool now label priority enabled) ∧
      (HistoryEvent.createPoolWithDefaultToken label priority enabled value).addsPool db = true := by
  unfold TokenTx.createPoolWithDefaultToken at h
  cases hcreate : db.createPool now label priority enabled with
  | none =>
    rw [hcreate] at h
    contradiction
  | some created =>
    rw [hcreate] at h
    obtain ⟨db', poolID⟩ := created
    have htoken : (TokenTx.mk db' [value] {}).createToken now (defaultPoolTokenName label) poolID
        true = some tx := h
    obtain ⟨hlabel, rfl, hid⟩ := Database.createPool_eq_some hcreate
    obtain ⟨value', rest, tokens, hvalue, hinsert, rfl⟩ := TokenTx.createToken_eq_some htoken
    obtain ⟨rfl, -⟩ := List.cons.inj hvalue
    obtain ⟨⟨-, -, hunique⟩, -⟩ := insertToken_eq_some hinsert
    have hfree : (db.accessTokens.rows.any fun u =>
        u.token == value || u.poolID == some (nextRowid db.pools)) = false := by
      rw [List.any_eq_false]
      intro u hu
      have hne := hunique u hu
      simpa [freshToken, hid] using hne
    refine ⟨rfl, rfl, ?_⟩
    simp [HistoryEvent.addsPool, hlabel, hfree]

/-! ## What an event does to the tables -/

section Tables

variable {t : TextFuncs} {env : StoreEnv} {s : Archive}

theorem run_pruneDataRetention (days : Int) (now : Clock) (s : Archive) :
    ((Store.pruneDataRetention days).run LogCall.run now s).2 = s ∨
      ∃ cutoff, ((Store.pruneDataRetention days).run LogCall.run now s).2 =
        s.pruneRequestLogs cutoff := by
  unfold Store.pruneDataRetention
  split
  · exact Or.inl rfl
  · exact Or.inr ⟨_, rfl⟩

theorem requestLogs_commit (s : Archive) (db : Option Database) :
    (s.commit db).requestLogs = s.requestLogs := by
  cases db <;> rfl

variable (env) in
/-- Only the events about logs change the logs, and only they leave the rest alone. -/
theorem logs_of_run (ev : HistoryEvent) (s : Archive) :
    (ev.run t env s).requestLogs = s.requestLogs ∨
      (ev.run t env s).toDatabase = s.toDatabase ∧
        ∀ r' ∈ (ev.run t env s).requestLogs.rows, s.requestLogs.find? r'.id = none ∨
          ∃ r, s.requestLogs.find? r'.id = some r ∧ r.accountID = r'.accountID ∧
            r.poolID = r'.poolID := by
  cases ev with
  | insertLog l =>
    refine Or.inr ?_
    have hrun : (HistoryEvent.insertLog l).run t env s = LoggedRequest.insert t ⟨l, env.now⟩ s := rfl
    rw [hrun]
    rcases insert_cases t ⟨l, env.now⟩ s with ⟨id, hfold⟩ | ⟨row, hinsert⟩
    · rw [hfold]
      refine ⟨rfl, fun r' hr' => Or.inr ?_⟩
      obtain ⟨r, hr, rfl⟩ := List.mem_map.mp hr'
      have hid : (if r.id = id ∧ r.id = id then r.folded env.now l.latencyMs else r).id = r.id := by
        split <;> rfl
      refine ⟨r, ?_, ?_⟩
      · exact (congrArg s.requestLogs.find? hid).trans (Table.find?_of_mem hr)
      · split
        · exact ⟨rfl, rfl⟩
        · exact ⟨rfl, rfl⟩
    · rw [hinsert]
      refine ⟨rfl, fun r' hr' => ?_⟩
      rw [Archive.rows_insertRequestLog] at hr'
      rcases List.mem_append.mp hr' with hr' | hr'
      · exact Or.inr ⟨r', Table.find?_of_mem hr', rfl, rfl⟩
      · obtain rfl := List.mem_singleton.mp hr'
        exact Or.inl (Table.find?_next s.requestLogs)
  | pruneDataRetention days =>
    have hrun : (HistoryEvent.pruneDataRetention days).run t env s =
        ((Store.pruneDataRetention days).run LogCall.run env.now s).2 := rfl
    rw [hrun]
    rcases run_pruneDataRetention days env.now s with hkeep | ⟨cutoff, hprune⟩
    · exact Or.inl (congrArg Archive.requestLogs hkeep)
    · rw [hprune]
      exact Or.inr ⟨rfl, fun r' hr' =>
        Or.inr ⟨r', Table.find?_of_mem (List.mem_of_mem_filter hr'), rfl, rfl⟩⟩
  | createPool label priority enabled => exact Or.inl (requestLogs_commit s _)
  | createPoolWithDefaultToken label priority enabled value =>
    exact Or.inl (requestLogs_commit s _)
  | _ => exact Or.inl rfl

variable (env) in
/-- The event keeps the pools, or adds one under the next number. -/
theorem pools_of_run (ev : HistoryEvent) :
    Database.FewerPools s.toDatabase (ev.run t env s).toDatabase ∨
      ev.addsPool s.toDatabase = true ∧ ∃ label priority enabled, (ev.run t env s).pools =
        s.pools.set (s.toDatabase.newPool env.now label priority enabled) := by
  have hsame : (ev.run t env s).pools = s.pools →
      Database.FewerPools s.toDatabase (ev.run t env s).toDatabase := by
    intro heq id h
    rwa [heq] at h
  cases ev with
  | createAccount a => exact Or.inl (hsame (Database.pools_createAccount _ env a))
  | upsertCpaAccountAndPoolMemberFromImport poolID a =>
    exact Or.inl (hsame (Database.pools_upsertCpaAccountAndPoolMemberFromImport _ env poolID a))
  | createPool label priority enabled =>
    cases hcreate : s.toDatabase.createPool env.now label priority enabled with
    | none =>
      refine Or.inl (hsame ?_)
      rw [HistoryEvent.run, hcreate]
      rfl
    | some created =>
      obtain ⟨db, id⟩ := created
      obtain ⟨hlabel, rfl, -⟩ := Database.createPool_eq_some hcreate
      refine Or.inr ⟨by simp [HistoryEvent.addsPool, hlabel], label, priority, enabled, ?_⟩
      rw [HistoryEvent.run, hcreate]
      rfl
  | createPoolWithDefaultToken label priority enabled value =>
    cases hcreate : (TokenTx.mk s.toDatabase [value] {}).createPoolWithDefaultToken env.now label
        priority enabled with
    | none =>
      refine Or.inl (hsame ?_)
      rw [HistoryEvent.run, hcreate]
      rfl
    | some tx =>
      obtain ⟨-, hpools, hadds⟩ := TokenTx.createPoolWithDefaultToken_eq_some hcreate
      refine Or.inr ⟨hadds, label, priority, enabled, ?_⟩
      rw [HistoryEvent.run, hcreate]
      exact hpools
  | deleteAccount id => exact Or.inl (hsame rfl)
  | deletePoolWithAccounts id =>
    refine Or.inl fun other h => ?_
    have hpools := Database.pools_foldl (f := Database.deleteAccount) (fun _ _ => rfl)
      (s.toDatabase.memberAccounts id) (s.toDatabase.deletePool id)
    exact Database.isSome_of_erase (hpools ▸ h)
  | deletePoolWithOrphans id =>
    refine Or.inl fun other h => ?_
    have hpools := Database.pools_foldl Database.pools_deleteOrphan
      (s.toDatabase.memberAccounts id) (s.toDatabase.deletePool id)
    exact Database.isSome_of_erase (hpools ▸ h)
  | insertLog l =>
    rcases insert_cases t ⟨l, env.now⟩ s with ⟨id, hfold⟩ | ⟨row, hinsert⟩
    · exact Or.inl (hsame (congrArg (fun s => s.pools) hfold))
    · exact Or.inl (hsame (congrArg (fun s => s.pools) hinsert))
  | pruneDataRetention days =>
    rcases run_pruneDataRetention days env.now s with hkeep | ⟨cutoff, hprune⟩
    · exact Or.inl (hsame (congrArg (fun s => s.pools) hkeep))
    · exact Or.inl (hsame (congrArg (fun s => s.pools) hprune))

/-- An account that was not there before has the next number. -/
theorem account_of_run {ev : HistoryEvent} {id : Int} (hnone : s.accounts.find? id = none)
    (hsome : ((ev.run t env s).accounts.find? id).isSome = true) :
    id = nextID s.accounts ∧ ev.addsAccount env s.toDatabase = true := by
  have hkept : Database.FewerAccounts s.toDatabase (ev.run t env s).toDatabase → False := by
    intro hfewer
    have hthere := hfewer id hsome
    rw [hnone] at hthere
    contradiction
  have hsame : (ev.run t env s).accounts = s.accounts → False := by
    intro heq
    refine hkept fun other h => ?_
    rwa [heq] at h
  cases ev with
  | createAccount a => exact Database.account_of_createAccount hnone hsome
  | upsertCpaAccountAndPoolMemberFromImport poolID a =>
    exact Database.account_of_upsert hnone hsome
  | createPool label priority enabled =>
    refine (hsame ?_).elim
    cases hcreate : s.toDatabase.createPool env.now label priority enabled with
    | none =>
      rw [HistoryEvent.run, hcreate]
      rfl
    | some created =>
      obtain ⟨db, id⟩ := created
      obtain ⟨-, rfl, -⟩ := Database.createPool_eq_some hcreate
      rw [HistoryEvent.run, hcreate]
      rfl
  | createPoolWithDefaultToken label priority enabled value =>
    refine (hsame ?_).elim
    cases hcreate : (TokenTx.mk s.toDatabase [value] {}).createPoolWithDefaultToken env.now label
        priority enabled with
    | none =>
      rw [HistoryEvent.run, hcreate]
      rfl
    | some tx =>
      obtain ⟨haccounts, -, -⟩ := TokenTx.createPoolWithDefaultToken_eq_some hcreate
      rw [HistoryEvent.run, hcreate]
      exact haccounts
  | deleteAccount other =>
    exact (hkept (Database.fewerAccounts_deleteAccount s.toDatabase other)).elim
  | deletePoolWithAccounts other =>
    exact (hkept (Database.fewerAccounts_foldl Database.fewerAccounts_deleteAccount
      (s.toDatabase.memberAccounts other) (s.toDatabase.deletePool other))).elim
  | deletePoolWithOrphans other =>
    exact (hkept (Database.fewerAccounts_foldl Database.fewerAccounts_deleteOrphan
      (s.toDatabase.memberAccounts other) (s.toDatabase.deletePool other))).elim
  | insertLog l =>
    rcases insert_cases t ⟨l, env.now⟩ s with ⟨id, hfold⟩ | ⟨row, hinsert⟩
    · exact (hsame (congrArg (fun s => s.accounts) hfold)).elim
    · exact (hsame (congrArg (fun s => s.accounts) hinsert)).elim
  | pruneDataRetention days =>
    rcases run_pruneDataRetention days env.now s with hkeep | ⟨cutoff, hprune⟩
    · exact (hsame (congrArg (fun s => s.accounts) hkeep)).elim
    · exact (hsame (congrArg (fun s => s.accounts) hprune)).elim

end Tables

/-! ## Lifetimes -/

section Lifetimes

variable {ρ : Type} {key : ρ → Int}

/-- No row was logged before the owner it names came into being. -/
def Owned (owners : Table key) (logs : Table RequestLogRow.id)
    (ownerOf : RequestLogRow → Option Int) (born made : Int → Nat) : Prop :=
  ∀ r ∈ logs.rows, ∀ id, ownerOf r = some id → (owners.find? id).isSome = true →
    born id ≤ made r.id

theorem Owned.next {owners owners' : Table key} {logs logs' : Table RequestLogRow.id}
    {ownerOf : RequestLogRow → Option Int} {born made : Int → Nat} {step : Nat}
    (h : Owned owners logs ownerOf born made) (hborn : ∀ id, born id ≤ step)
    (hlogs : ∀ r' ∈ logs'.rows, logs.find? r'.id = none ∨
      ∃ r, logs.find? r'.id = some r ∧ ownerOf r = ownerOf r')
    (hnew : ∀ id, owners.find? id = none → (owners'.find? id).isSome = true →
      ∀ r ∈ logs'.rows, ownerOf r ≠ some id) :
    Owned owners' logs' ownerOf (bornAfter owners owners' step born)
      (bornAfter logs logs' step made) := by
  intro r' hr' id hid hsome
  have hold : (owners.find? id).isNone = false := by
    by_contra hnone
    rw [Bool.not_eq_false, Option.isNone_iff_eq_none] at hnone
    exact hnew id hnone hsome r' hr' hid
  have hthere : (logs'.find? r'.id).isSome = true := by
    rw [Table.find?_of_mem hr']
    rfl
  simp only [bornAfter, hold, hthere, Bool.false_and, Bool.and_true]
  rcases hlogs r' hr' with hfresh | ⟨r, hr, howner⟩
  · have hle := hborn id
    simp only [hfresh, Option.isNone_none, if_true]
    exact le_trans (if_neg Bool.false_ne_true ▸ hle) (Nat.le_succ step)
  · obtain ⟨hmem, heq⟩ := Table.mem_of_find? hr
    have hle := h r hmem id (howner.trans hid)
      (by rwa [← Option.not_isNone, Bool.not_eq_true'])
    rw [heq] at hle
    simpa [hr] using hle

theorem bornAfter_le {before after : Table key} {step : Nat} {born : Int → Nat}
    (h : ∀ id, born id ≤ step) (id : Int) : bornAfter before after step born id ≤ step + 1 := by
  have := h id
  unfold bornAfter
  split
  · exact le_rfl
  · omega

end Lifetimes

/-! ## Reports of a lifetime -/

namespace Timeline

/-- Each log was made in the lifetime of the account and the pool it names, when
they are there. -/
structure Kept (tl : Timeline) : Prop where
  accounts : Owned tl.archive.accounts tl.archive.requestLogs RequestLogRow.accountID
    tl.accountBorn tl.logMade
  pools : Owned tl.archive.pools tl.archive.requestLogs RequestLogRow.poolID tl.poolBorn tl.logMade
  accountBorn : ∀ id, tl.accountBorn id ≤ tl.step
  poolBorn : ∀ id, tl.poolBorn id ≤ tl.step

section Kept

variable {tl : Timeline}

/-- The label of a row whose account is gone is the one that was noted down. -/
theorem Kept.usageLabel (h : tl.Kept) {r : RequestLogRow} (hr : r ∈ tl.archive.requestLogs.rows)
    (hgone : ¬ tl.accountKept r) : tl.archive.usageLabel r = r.accountLabelSnapshot := by
  unfold Archive.usageLabel Archive.joinedLabel
  cases hid : r.accountID with
  | none => rfl
  | some id =>
    cases hfind : tl.archive.accounts.find? id with
    | none => simp [hfind]
    | some a =>
      have hsome : (tl.archive.accounts.find? id).isSome = true := by rw [hfind]; rfl
      exact absurd ⟨id, hid, hsome, h.accounts r hr id hid hsome⟩ hgone

end Kept

/-! ## Runs -/

theorem Kept.next {t : TextFuncs} {tl : Timeline} (h : tl.Kept) (ev : StoreEnv × HistoryEvent)
    (hspares : SparesHistory tl.archive ev) : (tl.next t ev).Kept := by
  obtain ⟨env, ev⟩ := ev
  have hlogs : ∀ r' ∈ (ev.run t env tl.archive).requestLogs.rows,
      tl.archive.requestLogs.find? r'.id = none ∨ ∃ r, tl.archive.requestLogs.find? r'.id = some r ∧
        r.accountID = r'.accountID ∧ r.poolID = r'.poolID := by
    rcases logs_of_run (t := t) env ev tl.archive with hsame | ⟨-, hlogs⟩
    · rw [hsame]
      exact fun r' hr' => Or.inr ⟨r', Table.find?_of_mem hr', rfl, rfl⟩
    · exact hlogs
  refine ⟨?_, ?_, bornAfter_le h.accountBorn, bornAfter_le h.poolBorn⟩
  · refine h.accounts.next h.accountBorn ?_ ?_
    · exact fun r' hr' => (hlogs r' hr').imp_right fun ⟨r, hr, hid, _⟩ => ⟨r, hr, hid⟩
    · intro id hnone hsome r hr hid
      change ((ev.run t env tl.archive).accounts.find? id).isSome = true at hsome
      obtain ⟨rfl, hadds⟩ := account_of_run hnone hsome
      rcases logs_of_run (t := t) env ev tl.archive with hsame | ⟨hdb, -⟩
      · exact hspares.1 hadds r (hsame ▸ hr) hid
      · rw [congrArg Database.accounts hdb, hnone] at hsome
        contradiction
  · refine h.pools.next h.poolBorn ?_ ?_
    · exact fun r' hr' => (hlogs r' hr').imp_right fun ⟨r, hr, _, hid⟩ => ⟨r, hr, hid⟩
    · intro id hnone hsome r hr hid
      change ((ev.run t env tl.archive).pools.find? id).isSome = true at hsome
      rcases pools_of_run (t := t) (s := tl.archive) env ev with
        hfewer | ⟨hadds, label, priority, enabled, hpools⟩
      · have hthere := hfewer id hsome
        rw [hnone] at hthere
        contradiction
      · have hnext : nextRowid tl.archive.pools = id := by
          rw [hpools, Table.find?_set] at hsome
          split at hsome
          next heq => exact heq
          · rw [hnone] at hsome
            contradiction
        rcases logs_of_run (t := t) env ev tl.archive with hsame | ⟨hdb, -⟩
        · exact hspares.2 hadds r (hsame ▸ hr) (hnext ▸ hid)
        · rw [congrArg Database.pools hdb, hnone] at hsome
          contradiction

/-- The start of a run: any tables without logs. -/
def start (db : Database) : Timeline where
  archive := { db with requestLogs := Table.empty }

end Timeline

end Lune.Store
