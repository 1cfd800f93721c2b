import Lune.Lib.Programs
import Lune.Store.Writes

/-!
# Columns and the calls that write them

Programs whose steps are reads of the database and the calls of `StoreCall`, and
what such a call does to a row: it touches the account it names, and of that
account the columns it is about.
-/

namespace Lune.Store

open GoText Keyed Programs

/-- A program on the database. -/
abbrev StoreProg (α : Type) := Prog StoreEnv Database StoreCall α

/-- `GetAccountDiagnostic`. -/
def getAccountDiagnostic (accountID : Int) : StoreProg (Option AccountDiagnostic) := do
  match ← Prog.look fun _ db => db.accountDiagnostics.find? accountID with
  | some diag => pure (some diag)
  | none =>
    Prog.writes [.ensureAccountDiagnostic accountID]
    Prog.look fun _ db => db.accountDiagnostics.find? accountID

/-! ## The row a call is about -/

/-- The account whose row a call may change. -/
def StoreCall.accountID? : StoreCall → Option Int
  | markAccountServingSuccess id | markAccountServingFailure id _ _ | updateAccountHealth id _ _
  | updateAccountHealthIfUnchanged id _ _ _ | updateAccountCpaMetadata id _ _ _
  | updateAccountCpaCredentialStatus id _ _ _ _ | updateAccountCpaAccessStatus id _ _ _ _
  | updateAccountCodexQuotaStatus id _ _ _ | updateAccountCodexQuota id _ _
  | updateAccountCodexQuotaBackoff id _ _ | clearAccountCodexModelRequestQuotaEvidence id
  | updateAccountCpaSubscription id _ _ _ => some id
  | updateTokenLastUsed _ | refreshAccountModels _ _ | ensureAccountDiagnostic _
  | updateAccountDiagnosticWithEvidence _ _ _ => none

/-- The account whose diagnostic row a call may change. -/
def StoreCall.diagnosticID? : StoreCall → Option Int
  | ensureAccountDiagnostic id | updateAccountDiagnosticWithEvidence id _ _ => some id
  | _ => none

/-- A call keeps the accounts, or changes the row of the account it names. -/
theorem StoreCall.accounts_run (env : StoreEnv) (db : Database) (call : StoreCall) :
    (call.accountID? = none ∧ (call.run env db).accounts = db.accounts) ∨
      ∃ id f, call.accountID? = some id ∧ (∀ a : AccountRow, (f a).id = a.id) ∧
        (call.run env db).accounts = db.accounts.modify id f := by
  cases call with
  | updateTokenLastUsed id => exact Or.inl ⟨rfl, rfl⟩
  | refreshAccountModels id models =>
    exact Or.inl ⟨rfl, (Database.tables_refreshAccountModels db id models).1⟩
  | ensureAccountDiagnostic id =>
    exact Or.inl ⟨rfl, Database.accounts_ensureAccountDiagnostic db env id⟩
  | updateAccountDiagnosticWithEvidence id update evidence =>
    exact Or.inl ⟨rfl,
      Database.accounts_updateAccountDiagnosticWithEvidence db env id update evidence⟩
  | updateAccountHealthIfUnchanged id status lastError previous =>
    refine Or.inr ⟨id, _, rfl, ?_, rfl⟩
    intro a
    split <;> rfl
  | _ =>
    refine Or.inr ⟨_, _, rfl, ?_, rfl⟩
    intro a
    rfl

/-- A call leaves the accounts it does not name alone. -/
theorem StoreCall.find?_run_of_ne (env : StoreEnv) (db : Database) {call : StoreCall} {id : Int}
    (h : call.accountID? ≠ some id) :
    (call.run env db).accounts.find? id = db.accounts.find? id := by
  rcases call.accounts_run env db with ⟨-, haccounts⟩ | ⟨other, f, hother, hf, haccounts⟩
  · rw [haccounts]
  · have hne : id ≠ other := by
      intro heq
      exact h (heq ▸ hother)
    rw [haccounts, Table.find?_modify db.accounts hf, if_neg hne]

/-- No call adds or removes an account. -/
theorem StoreCall.isSome_find?_run (env : StoreEnv) (db : Database) (call : StoreCall) (id : Int) :
    ((call.run env db).accounts.find? id).isSome = (db.accounts.find? id).isSome := by
  rcases call.accounts_run env db with ⟨-, haccounts⟩ | ⟨other, f, -, hf, haccounts⟩
  · rw [haccounts]
  · rw [haccounts, Table.find?_modify db.accounts hf]
    split <;> simp

/-! ## Some columns of a row -/

/-- Columns of an account, when it is there. -/
def Database.column? {τ : Type} (π : AccountRow → τ) (db : Database) (id : Int) : Option τ :=
  (db.accounts.find? id).map π

section Column

variable {τ : Type} {π : AccountRow → τ} (db : Database) (env : StoreEnv)

/-- An update of one account acts on its columns as `g` does, and on no other
account. -/
theorem Database.column?_updateAccount (other id : Int) {f : AccountRow → AccountRow}
    (g : τ → τ) (hid : ∀ a, (f a).id = a.id)
    (hg : ∀ a, π { f a with updatedAt := env.now.datetime } = g (π a)) :
    (db.updateAccount env other f).column? π id =
      (db.column? π id).map fun old => if other = id then g old else old := by
  rw [column?, find?_updateAccount db env other hid, column?]
  by_cases heq : id = other
  · rw [if_pos heq, Option.map_map, Option.map_map]
    refine congrArg₂ Option.map (funext fun a => ?_) rfl
    show _ = if other = id then g (π a) else π a
    rw [if_pos heq.symm]
    exact hg a
  · simp only [if_neg heq, if_neg (Ne.symm heq), Option.map_map]
    rfl

/-- An update that keeps the columns of every row. -/
theorem Database.column?_updateAccount_of_keeps (other id : Int) {f : AccountRow → AccountRow}
    (hid : ∀ a, (f a).id = a.id)
    (hkeeps : ∀ a, π { f a with updatedAt := env.now.datetime } = π a) :
    (db.updateAccount env other f).column? π id = (db.column? π id).map fun old => old := by
  rw [column?_updateAccount db env other id (fun old => old) hid hkeeps]
  simp only [ite_self]

/-- An update that gives the columns a value. -/
theorem Database.column?_updateAccount_self (id : Int) {f : AccountRow → AccountRow} {x : τ}
    (hid : ∀ a, (f a).id = a.id) (hset : ∀ a, π { f a with updatedAt := env.now.datetime } = x) :
    (db.updateAccount env id f).column? π id = (db.column? π id).map fun _ => x := by
  rw [column?_updateAccount db env id id (fun _ => x) hid hset]
  simp only [if_true]

theorem Database.column?_updateAccountHealthIfUnchanged (other : Int) (status lastError : Str)
    (previous : Account) (id : Int) (g : AccountRow → τ)
    (hkeep : ∀ a, a.healthUnchanged previous.toAccountRow = false → π a = g a)
    (hset : ∀ a, a.healthUnchanged previous.toAccountRow = true →
      π { a with
        status := status
        lastError := lastError
        lastCheckedAt := some env.now.datetime
        updatedAt := env.now.datetime } = g a) :
    (db.updateAccountHealthIfUnchanged env other status lastError previous).column? π id =
      (db.accounts.find? id).map fun a => if other = id then g a else π a := by
  rw [column?, find?_updateAccountHealthIfUnchanged]
  by_cases heq : id = other
  · rw [if_pos heq, Option.map_map]
    refine congrArg₂ Option.map (funext fun a => ?_) rfl
    show π (if _ then _ else _) = if other = id then g a else π a
    rw [if_pos heq.symm]
    split
    next h => exact hset a h
    next h => exact hkeep a (Bool.eq_false_iff.mpr h)
  · simp only [if_neg heq, if_neg (Ne.symm heq)]

theorem StoreCall.column?_run_of_ne {call : StoreCall} {id : Int}
    (h : call.accountID? ≠ some id) :
    (call.run env db).column? π id = db.column? π id := by
  rw [Database.column?, StoreCall.find?_run_of_ne env db h]
  rfl

end Column

/-! ## What a call makes of some columns -/

section Calls

variable {τ : Type}

/-- The call leaves these columns of the account alone. -/
def StoreCall.Keeps (π : AccountRow → τ) (id : Int) (call : StoreCall) : Prop :=
  ∀ env db, (call.run env db).column? π id = db.column? π id

/-- The call gives these columns of the account a value. -/
def StoreCall.Sets (π : AccountRow → τ) (id : Int) (env : StoreEnv) (x : τ) (call : StoreCall) :
    Prop :=
  ∀ db, (call.run env db).column? π id = (db.column? π id).map fun _ => x

variable {π : AccountRow → τ} {id : Int}

/-- Calls that keep the columns, or give them the value they have. -/
theorem column?_runCalls {env : StoreEnv} {x : τ} {calls : List StoreCall} {db : Database}
    (hall : ∀ call ∈ calls, call.Keeps π id ∨ call.Sets π id env x)
    (hdb : db.column? π id = some x) : (runCalls env db calls).column? π id = some x := by
  induction calls generalizing db with
  | nil => exact hdb
  | cons call calls ih =>
    apply ih fun other hother => hall other (List.mem_cons_of_mem call hother)
    rcases hall call List.mem_cons_self with hkeep | hset
    · exact (hkeep env db).trans hdb
    · rw [hset db, hdb]
      rfl

theorem isSome_column?_runCalls (env : StoreEnv) (calls : List StoreCall) (db : Database) :
    ((runCalls env db calls).column? π id).isSome = (db.column? π id).isSome := by
  induction calls generalizing db with
  | nil => rfl
  | cons call calls ih =>
    show ((runCalls env (call.run env db) calls).column? π id).isSome = _
    rw [ih, Database.column?, Database.column?, Option.isSome_map, Option.isSome_map,
      StoreCall.isSome_find?_run]

/-- After calls of which one gives the columns a value and no other gives them
another, they have that value. -/
theorem column?_runCalls_of_sets {env : StoreEnv} {x y : τ} {calls : List StoreCall}
    {db : Database} (hall : ∀ call ∈ calls, call.Keeps π id ∨ call.Sets π id env x)
    (hset : ∃ call ∈ calls, call.Sets π id env x) (hdb : db.column? π id = some y) :
    (runCalls env db calls).column? π id = some x := by
  obtain ⟨call, hcall, hset⟩ := hset
  obtain ⟨before, after, rfl⟩ := List.append_of_mem hcall
  have hthere := @isSome_column?_runCalls _ π id env before db
  rw [hdb] at hthere
  obtain ⟨z, hz⟩ := Option.isSome_iff_exists.mp hthere
  rw [runCalls_append]
  show (runCalls env (call.run env (runCalls env db before)) after).column? π id = some x
  apply column?_runCalls fun other hother =>
    hall other (List.mem_append_right before (List.mem_cons_of_mem call hother))
  rw [hset, hz]
  rfl

end Calls

/-! ## The credential -/

/-- `cpa_credential_status`, `cpa_credential_reason` and
`cpa_credential_last_error`. -/
structure Credential where
  status : Str
  reason : Str
  lastError : Str
deriving DecidableEq

/-- The credential columns of a row. -/
def AccountRow.credential (a : AccountRow) : Credential :=
  ⟨a.cpaCredentialStatus, a.cpaCredentialReason, a.cpaCredentialLastError⟩

/-- What a call makes of the credential of an account. -/
def StoreCall.onCredential (id : Int) : StoreCall → Credential → Credential
  | updateAccountCpaCredentialStatus other status reason lastError _ => fun old =>
    if other = id then ⟨defaultCpaStatus status, reason, lastError⟩ else old
  | _ => fun old => old

theorem StoreCall.credential_run (env : StoreEnv) (db : Database) (call : StoreCall) (id : Int) :
    (call.run env db).column? AccountRow.credential id =
      (db.column? AccountRow.credential id).map (call.onCredential id) := by
  cases call with
  | updateAccountCpaCredentialStatus other status reason lastError checkedAt =>
    exact Database.column?_updateAccount db env other id
      (fun _ => Credential.mk (defaultCpaStatus status) reason lastError) (fun _ => rfl)
      (fun _ => rfl)
  | updateTokenLastUsed | refreshAccountModels | ensureAccountDiagnostic
  | updateAccountDiagnosticWithEvidence =>
    rw [StoreCall.column?_run_of_ne db env (by simp [StoreCall.accountID?])]
    exact Option.map_id'.symm
  | updateAccountHealthIfUnchanged other status lastError previous =>
    rw [StoreCall.run, Database.column?_updateAccountHealthIfUnchanged db env other status lastError
      previous id AccountRow.credential (fun _ _ => rfl) (fun _ _ => rfl)]
    simp only [ite_self]
    exact Option.map_id'.symm
  | _ => exact Database.column?_updateAccount_of_keeps db env _ id (fun _ => rfl) fun _ => rfl

/-! ## The verdict on the quota -/

/-- `cpa_quota_status` and `cpa_quota_last_error`. -/
structure QuotaState where
  status : Str
  lastError : Str
deriving DecidableEq

/-- The quota columns of a row. -/
def AccountRow.quota (a : AccountRow) : QuotaState := ⟨a.cpaQuotaStatus, a.cpaQuotaLastError⟩

/-- The quota columns hold what a model request with status 429 left there, as
SQLite compares it. -/
def QuotaState.evidence (q : QuotaState) : Bool := Sqlite.likePrefix q.lastError modelRequest429

/-- The quota columns hold the evidence of `old` and its verdict. -/
def QuotaState.Keeps (new old : QuotaState) : Prop :=
  new.lastError = old.lastError ∧ (new.status = lit "error" ∨ new.status = lit "blocked")

/-- The quota columns after a snapshot was stored. -/
def QuotaState.afterSnapshot (q : QuotaState) : QuotaState :=
  ⟨if q.evidence then q.status else lit "ok", if q.evidence then q.lastError else []⟩

/-- The quota columns after the evidence was cleared. -/
def QuotaState.afterSuccess (q : QuotaState) : QuotaState :=
  ⟨if [lit "error", lit "blocked"].contains q.status && q.evidence then lit "ok" else q.status,
    if q.evidence then [] else q.lastError⟩

/-- What a call makes of the quota columns of an account. -/
def StoreCall.onQuota (id : Int) : StoreCall → QuotaState → QuotaState
  | updateAccountCodexQuotaStatus other status lastError _ => fun old =>
    if other = id then ⟨defaultCpaStatus status, lastError⟩ else old
  | updateAccountCodexQuota other _ _ => fun old => if other = id then old.afterSnapshot else old
  | clearAccountCodexModelRequestQuotaEvidence other => fun old =>
    if other = id then old.afterSuccess else old
  | _ => fun old => old

theorem StoreCall.quota_run (env : StoreEnv) (db : Database) (call : StoreCall) (id : Int) :
    (call.run env db).column? AccountRow.quota id =
      (db.column? AccountRow.quota id).map (call.onQuota id) := by
  cases call with
  | updateAccountCodexQuotaStatus other status lastError checkedAt =>
    exact Database.column?_updateAccount db env other id
      (fun _ => QuotaState.mk (defaultCpaStatus status) lastError) (fun _ => rfl) (fun _ => rfl)
  | updateAccountCodexQuota other quotaJSON fetchedAt =>
    exact Database.column?_updateAccount db env other id QuotaState.afterSnapshot (fun _ => rfl)
      (fun _ => rfl)
  | clearAccountCodexModelRequestQuotaEvidence other =>
    exact Database.column?_updateAccount db env other id QuotaState.afterSuccess (fun _ => rfl)
      (fun _ => rfl)
  | updateTokenLastUsed | refreshAccountModels | ensureAccountDiagnostic
  | updateAccountDiagnosticWithEvidence =>
    rw [StoreCall.column?_run_of_ne db env (by simp [StoreCall.accountID?])]
    exact Option.map_id'.symm
  | updateAccountHealthIfUnchanged other status lastError previous =>
    rw [StoreCall.run, Database.column?_updateAccountHealthIfUnchanged db env other status lastError
      previous id AccountRow.quota (fun _ _ => rfl) (fun _ _ => rfl)]
    simp only [ite_self]
    exact Option.map_id'.symm
  | _ => exact Database.column?_updateAccount_of_keeps db env _ id (fun _ => rfl) fun _ => rfl

/-! ## The diagnostic row -/

/-- Ensuring a row keeps the rows that are there. -/
theorem Database.diagnostic_ensureAccountDiagnostic (db : Database) (env : StoreEnv)
    (other : Int) {id : Int} {diag : AccountDiagnostic}
    (h : db.accountDiagnostics.find? id = some diag) :
    (db.ensureAccountDiagnostic env other).accountDiagnostics.find? id = some diag := by
  unfold ensureAccountDiagnostic
  split
  · exact h
  · show (db.accountDiagnostics.insertOrIgnore _).find? id = some diag
    rw [Table.find?_insertOrIgnore, h]
    simp

/-- The transaction on a row that is there. -/
theorem Database.diagnostic_update (db : Database) (env : StoreEnv) (other : Int)
    (update : AccountDiagnosticUpdate) (evidence : AccountDiagnosticEvidenceInput) {id : Int}
    {diag : AccountDiagnostic} (h : db.accountDiagnostics.find? id = some diag) :
    (db.updateAccountDiagnosticWithEvidence env other update evidence).accountDiagnostics.find? id =
      some (match update.normalize with
        | some update => if id = other then applyDiagnosticUpdate env update diag else diag
        | none => diag) := by
  unfold updateAccountDiagnosticWithEvidence
  cases update.normalize with
  | none => exact h
  | some update =>
    have hensured := diagnostic_ensureAccountDiagnostic db env other h
    have hkey : ∀ d, (applyDiagnosticUpdate env update d).accountID = d.accountID := fun _ => rfl
    show ((db.ensureAccountDiagnostic env other).accountDiagnostics.modify other _).find? id = _
    rw [Table.find?_modify _ hkey, hensured]
    dsimp only
    split <;> rfl

/-- A call that names no diagnostic keeps them all. -/
theorem StoreCall.accountDiagnostics_run (env : StoreEnv) (db : Database) {call : StoreCall}
    (h : call.diagnosticID? = none) :
    (call.run env db).accountDiagnostics = db.accountDiagnostics := by
  cases call with
  | ensureAccountDiagnostic | updateAccountDiagnosticWithEvidence => contradiction
  | refreshAccountModels id models => exact (Database.tables_refreshAccountModels db id models).2.2
  | _ => rfl

/-! ## Routability of a stored account -/

/-- `EvaluateAccountRoutability` on an account as the cache loads it. -/
def Database.accountRoutability (db : Database) (now : Clock) (opts : RoutabilityOptions)
    (id : Int) : RoutabilityDecision :=
  evaluateAccountRoutability now ((loadFromDB (db.tableReads now)).accounts.get? id) opts

/-- An account that a load has is the row, perhaps with its diagnostic. -/
theorem Database.toAccountRow_of_load {db : Database} {now : Clock} {id : Int} {acc : Account}
    (h : (loadFromDB (db.tableReads now)).accounts.get? id = some acc) :
    ∃ row, db.accounts.find? id = some row ∧
      acc.toAccountRow = (scanAccountRow row).toAccountRow := by
  rw [get?_accounts_loadFromDB] at h
  split at h
  · obtain ⟨scanned, hscanned, rfl⟩ := Option.map_eq_some_iff.mp h
    obtain ⟨row, hrow, rfl⟩ := Option.map_eq_some_iff.mp hscanned
    exact ⟨row, hrow, rfl⟩
  · obtain ⟨row, hrow, rfl⟩ := Option.map_eq_some_iff.mp h
    exact ⟨row, hrow, rfl⟩

/-- A verdict in the diagnostic row keeps ordinary traffic away, unless it is
overridden. -/
theorem Database.not_routable_of_diagnostic {db : Database} {id : Int} {diag : AccountDiagnostic}
    (h : db.accountDiagnostics.find? id = some diag)
    (hstable : [lit "banned", lit "quota_exhausted", lit "auth_invalid"].contains
      (toLower (trimSpace diag.stableDiagnosticStatus)) = true)
    (hoverride : isBlank diag.schedulerOverride = true) (now : Clock) {opts : RoutabilityOptions}
    (hopts : opts.diagnostic = false) : (db.accountRoutability now opts id).routable = false := by
  rw [accountRoutability, get?_accounts_loadFromDB, h]
  dsimp only
  cases db.getAccount id with
  | none => rfl
  | some acc =>
    rw [Option.map_some, ← Bool.not_eq_true, evaluateAccountRoutability_routable _ _ hopts,
      evaluateDiagnosticRoutability_routable]
    rintro ⟨-, -, ⟨-, hdiag⟩, -⟩
    obtain ⟨-, hineligible⟩ := hdiag diag rfl
    rw [diagnosticStableStatusRequiresIneligible, hoverride, Bool.true_and] at hineligible
    exact absurd (hstable.symm.trans hineligible) (by decide)

end Lune.Store
