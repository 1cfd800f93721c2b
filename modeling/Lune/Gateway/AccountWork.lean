import Lune.Gateway.StaleWork
import Lune.Lib.Noninterference

/-!
# The work of one account among that of others

The checks, refreshes and records of `Lune.Gateway.StaleWork` run side by side, the checker
starts as many as it has places for and the gateway one for each request.  What is stored of an
account depends on the work for that account only: its row, its models and its diagnostic
end as when the work for other accounts is not there.

The row number of a diagnostic is left out of what is compared: SQLite gives it out over
all accounts.
-/

namespace Lune.Gateway

open GoText Keyed Programs Lune.Store Lune.Health

/-- A diagnostic without its row number. -/
def unnumbered (d : AccountDiagnostic) : AccountDiagnostic := { d with id := 0 }

/-- What is stored of an account, but for the row number of its diagnostic. -/
def accountPart (id : Int) (db : Database) : StoredAccount :=
  ⟨db.accounts.find? id, db.modelsOf id, (db.accountDiagnostics.find? id).map unnumbered⟩

section Part

variable {id : Int} {db db' : Database}

theorem row_of_part (h : accountPart id db = accountPart id db') :
    db.accounts.find? id = db'.accounts.find? id :=
  congrArg StoredAccount.row h

theorem models_of_part (h : accountPart id db = accountPart id db') :
    db.modelsOf id = db'.modelsOf id :=
  congrArg StoredAccount.models h

theorem diagnostic_of_part (h : accountPart id db = accountPart id db') :
    (db.accountDiagnostics.find? id).map unnumbered =
      (db'.accountDiagnostics.find? id).map unnumbered :=
  congrArg StoredAccount.diagnostic h

theorem part_eq (hrow : db.accounts.find? id = db'.accounts.find? id)
    (hmodels : db.modelsOf id = db'.modelsOf id)
    (hdiagnostic : (db.accountDiagnostics.find? id).map unnumbered =
      (db'.accountDiagnostics.find? id).map unnumbered) :
    accountPart id db = accountPart id db' := by
  unfold accountPart
  rw [hrow, hmodels, hdiagnostic]

theorem getAccount_of_part (h : accountPart id db = accountPart id db') :
    db.getAccount id = db'.getAccount id := by
  unfold Database.getAccount
  rw [row_of_part h]

/-- A call about another account leaves the part alone. -/
theorem part_run_of_ne (env : StoreEnv) (db : Database) {call : StoreCall}
    (h : callAbout? call ≠ some id) : accountPart id (call.run env db) = accountPart id db := by
  have hstored := storedAccount_run_of_ne env db h
  exact part_eq (congrArg StoredAccount.row hstored) (congrArg StoredAccount.models hstored)
    (congrArg (fun stored => stored.diagnostic.map unnumbered) hstored)

/-! ## Calls see the part only -/

theorem refreshAccountModelsFails_of_part (h : accountPart id db = accountPart id db')
    (models : List Str) :
    db.refreshAccountModelsFails id models = db'.refreshAccountModelsFails id models := by
  unfold Database.refreshAccountModelsFails
  rw [row_of_part h]

theorem part_refreshAccountModels (h : accountPart id db = accountPart id db')
    (models : List Str) :
    accountPart id (db.refreshAccountModels id models) =
      accountPart id (db'.refreshAccountModels id models) := by
  have hsame := refreshAccountModelsFails_of_part h models
  cases hfails : db.refreshAccountModelsFails id models with
  | true =>
    rw [Database.refreshAccountModels, hfails, if_pos rfl, Database.refreshAccountModels, ← hsame,
      hfails, if_pos rfl]
    exact h
  | false =>
    have htables := Database.tables_refreshAccountModels db id models
    have htables' := Database.tables_refreshAccountModels db' id models
    refine part_eq ?_ ?_ ?_
    · rw [htables.1, htables'.1]
      exact row_of_part h
    · rw [Database.modelsOf_refreshAccountModels hfails,
        Database.modelsOf_refreshAccountModels (hsame ▸ hfails), if_pos rfl, if_pos rfl]
    · rw [htables.2.2, htables'.2.2]
      exact diagnostic_of_part h

theorem find?_ensureAccountDiagnostic (db : Database) (env : StoreEnv) (id : Int) :
    (db.ensureAccountDiagnostic env id).accountDiagnostics.find? id =
      match db.accountDiagnostics.find? id with
      | some d => some d
      | none => (db.getAccount id).map (db.newDiagnostic env) := by
  unfold Database.ensureAccountDiagnostic
  cases hget : db.getAccount id with
  | none => cases db.accountDiagnostics.find? id <;> rfl
  | some acc =>
    obtain ⟨row, hrow, rfl⟩ := Option.map_eq_some_iff.mp hget
    have hkey : (db.newDiagnostic env (scanAccountRow row)).accountID = id :=
      (Table.mem_of_find? hrow).2
    show (db.accountDiagnostics.insertOrIgnore _).find? id = _
    rw [Table.find?_insertOrIgnore]
    cases hfind : db.accountDiagnostics.find? id with
    | none => rw [if_pos ⟨hkey, rfl⟩]; rfl
    | some d => rw [if_neg (by simp)]

theorem diagnostic_ensure_of_part (h : accountPart id db = accountPart id db') (env : StoreEnv) :
    ((db.ensureAccountDiagnostic env id).accountDiagnostics.find? id).map unnumbered =
      ((db'.ensureAccountDiagnostic env id).accountDiagnostics.find? id).map unnumbered := by
  have hdiagnostic := diagnostic_of_part h
  rw [find?_ensureAccountDiagnostic, find?_ensureAccountDiagnostic, ← getAccount_of_part h]
  cases hfind : db.accountDiagnostics.find? id with
  | some d =>
    rw [hfind] at hdiagnostic
    obtain ⟨d', hfind', hd'⟩ := Option.map_eq_some_iff.mp hdiagnostic.symm
    rw [hfind']
    exact congrArg some hd'.symm
  | none =>
    rw [hfind] at hdiagnostic
    rw [Option.map_eq_none_iff.mp hdiagnostic.symm]
    cases db.getAccount id <;> rfl

theorem part_ensureAccountDiagnostic (h : accountPart id db = accountPart id db')
    (env : StoreEnv) :
    accountPart id (db.ensureAccountDiagnostic env id) =
      accountPart id (db'.ensureAccountDiagnostic env id) := by
  refine part_eq ?_ ?_ (diagnostic_ensure_of_part h env)
  · rw [Database.accounts_ensureAccountDiagnostic, Database.accounts_ensureAccountDiagnostic]
    exact row_of_part h
  · rw [modelsOf_congr (accountModels_diagnostics db env id).1,
      modelsOf_congr (accountModels_diagnostics db' env id).1]
    exact models_of_part h

theorem unnumbered_applyDiagnosticUpdate (env : StoreEnv) (update : AccountDiagnosticUpdate)
    (d : AccountDiagnostic) :
    unnumbered (Database.applyDiagnosticUpdate env update d) =
      Database.applyDiagnosticUpdate env update (unnumbered d) := rfl

theorem part_updateAccountDiagnosticWithEvidence (h : accountPart id db = accountPart id db')
    (env : StoreEnv) (update : AccountDiagnosticUpdate)
    (evidence : AccountDiagnosticEvidenceInput) :
    accountPart id (db.updateAccountDiagnosticWithEvidence env id update evidence) =
      accountPart id (db'.updateAccountDiagnosticWithEvidence env id update evidence) := by
  refine part_eq ?_ ?_ ?_
  · rw [Database.accounts_updateAccountDiagnosticWithEvidence,
      Database.accounts_updateAccountDiagnosticWithEvidence]
    exact row_of_part h
  · rw [modelsOf_congr ((accountModels_diagnostics db env id).2 update evidence),
      modelsOf_congr ((accountModels_diagnostics db' env id).2 update evidence)]
    exact models_of_part h
  · unfold Database.updateAccountDiagnosticWithEvidence
    cases update.normalize with
    | none => exact diagnostic_of_part h
    | some update =>
      have hkey : ∀ d, (Database.applyDiagnosticUpdate env update d).accountID = d.accountID :=
        fun _ => rfl
      show (((db.ensureAccountDiagnostic env id).accountDiagnostics.modify id _).find? id).map _ =
        (((db'.ensureAccountDiagnostic env id).accountDiagnostics.modify id _).find? id).map _
      have hcommutes : unnumbered ∘ Database.applyDiagnosticUpdate env update =
          Database.applyDiagnosticUpdate env update ∘ unnumbered := rfl
      rw [Table.find?_modify _ hkey, Table.find?_modify _ hkey, if_pos rfl, if_pos rfl,
        Option.map_map, Option.map_map, hcommutes, ← Option.map_map, ← Option.map_map,
        diagnostic_ensure_of_part h env]

/-- The row of the account is changed, and its models and diagnostic are as before. -/
theorem part_modify (h : accountPart id db = accountPart id db') {f : AccountRow → AccountRow}
    (hf : ∀ a, (f a).id = a.id) :
    accountPart id { db with accounts := db.accounts.modify id f } =
      accountPart id { db' with accounts := db'.accounts.modify id f } := by
  refine part_eq ?_ (show db.modelsOf id = db'.modelsOf id from models_of_part h)
    (show (db.accountDiagnostics.find? id).map unnumbered =
      (db'.accountDiagnostics.find? id).map unnumbered from diagnostic_of_part h)
  rw [Table.find?_modify _ hf, Table.find?_modify _ hf, row_of_part h]

/-- A call on states with the same part gives states with the same part. -/
theorem part_run (h : accountPart id db = accountPart id db') (env : StoreEnv)
    (call : StoreCall) : accountPart id (call.run env db) = accountPart id (call.run env db') := by
  by_cases habout : callAbout? call = some id
  · cases call with
    | updateTokenLastUsed => contradiction
    | refreshAccountModels other models =>
      obtain rfl := Option.some.inj habout
      exact part_refreshAccountModels h models
    | ensureAccountDiagnostic other =>
      obtain rfl := Option.some.inj habout
      exact part_ensureAccountDiagnostic h env
    | updateAccountDiagnosticWithEvidence other update evidence =>
      obtain rfl := Option.some.inj habout
      exact part_updateAccountDiagnosticWithEvidence h env update evidence
    | updateAccountHealthIfUnchanged other status lastError previous =>
      obtain rfl := Option.some.inj habout
      refine part_modify h fun a => ?_
      split <;> rfl
    | _ =>
      obtain rfl := Option.some.inj habout
      exact part_modify h fun _ => rfl
  · rw [part_run_of_ne env db habout, part_run_of_ne env db' habout, h]

end Part

/-! ## Programs see the part only -/

section Local

variable {id : Int}

theorem local_clock : clock.Local (accountPart id) := Prog.local_look fun _ _ _ _ => rfl

/-- Whether a refresh of the models commits is seen in the part. -/
theorem isSome_refreshModelsTx_of_part {db db' : Database}
    (h : accountPart id db = accountPart id db') (failing : RefreshStatement → Bool)
    (models : List Str) :
    (db.refreshModelsTx failing id models).isSome =
      (db'.refreshModelsTx failing id models).isSome := by
  have hrow := row_of_part h
  cases hfind : db.accounts.find? id with
  | some row =>
    have hpresent : (db.accounts.find? id).isSome = true := by rw [hfind]; rfl
    have hpresent' : (db'.accounts.find? id).isSome = true := by rw [← hrow, hfind]; rfl
    by_cases hcommits : models.Nodup ∧ ¬Database.RefreshFault failing models
    · rw [(Database.refreshModelsTx_eq hpresent).1 hcommits,
        (Database.refreshModelsTx_eq hpresent').1 hcommits]
      rfl
    · have hfails : ¬models.Nodup ∨ Database.RefreshFault failing models := by
        by_contra hnot
        exact hcommits (by simpa using hnot)
      rw [(Database.refreshModelsTx_eq hpresent).2 hfails,
        (Database.refreshModelsTx_eq hpresent').2 hfails]
  | none =>
    -- the first insert breaks the reference to the account
    have hinsert : ∀ (db : Database) (n : Nat), db.accounts.find? id = none →
        (Database.insertAccountModels failing id n models (db.deleteAccountModels id)).isSome =
          models.isEmpty := by
      intro db n hnone
      cases models with
      | nil => rfl
      | cons model models =>
        have hfails : (db.deleteAccountModels id).insertAccountModelFails id model = true := by
          unfold Database.insertAccountModelFails
          rw [show (db.deleteAccountModels id).accounts.find? id = none from hnone]
          rfl
        rw [Database.insertAccountModels, hfails, Bool.or_true, if_pos rfl]
        rfl
    have hsome := hinsert db 0 hfind
    have hsome' := hinsert db' 0 (hrow ▸ hfind)
    unfold Database.refreshModelsTx
    split
    · rfl
    · split
      · rfl
      · cases hinserted : Database.insertAccountModels failing id 0 models
            (db.deleteAccountModels id) <;>
          cases hinserted' : Database.insertAccountModels failing id 0 models
            (db'.deleteAccountModels id) <;>
          rw [hinserted] at hsome <;> rw [hinserted'] at hsome' <;>
          simp_all
        split <;> rfl

theorem local_discoverModels (discovery : Discovery) :
    (discoverModels discovery id).Local (accountPart id) := by
  unfold discoverModels
  split
  · exact Prog.local_pure _
  · exact Prog.local_pure _
  next models _ _ =>
    refine Prog.local_look_bind (fun _ db db' h => ?_) fun stored => ?_
    · rw [isSome_refreshModelsTx_of_part h]
    · split
      · exact Prog.local_bind (Prog.local_writes _) fun _ => Prog.local_pure _
      · exact Prog.local_pure _

theorem local_checkOne (io : CheckIO) (acc : Account) :
    (checkOne io acc).Local (accountPart acc.id) := by
  unfold checkOne
  split
  · exact Prog.local_writes _
  · refine Prog.local_bind (local_discoverModels io.discovery) fun result => ?_
    cases result with
    | error err => exact Prog.local_writes _
    | ok models =>
      refine Prog.local_bind (Prog.local_look fun _ _ _ h => getAccount_of_part h) fun latest => ?_
      refine Prog.local_bind local_clock fun now => ?_
      split
      · exact Prog.local_pure _
      · exact Prog.local_writes _

theorem local_resolve (c : Checker) (env : RuntimeEnv) (acc : Account) (opts : ResolveOptions) :
    (resolve c env acc opts).Local (accountPart id) := by
  unfold resolve
  refine Prog.local_bind local_clock fun now => ?_
  exact Prog.local_bind (Prog.local_writes _) fun _ => Prog.local_pure _

theorem local_refreshCodexSubscriptionResolved (c : Checker) (rt : CpaRuntime) :
    (refreshCodexSubscriptionResolved c rt).Local (accountPart id) := by
  unfold refreshCodexSubscriptionResolved
  refine Prog.local_bind local_clock fun now => ?_
  dsimp only
  split
  · exact Prog.local_bind (Prog.local_writes _) fun _ => Prog.local_pure _
  · split
    · exact Prog.local_bind (Prog.local_writes _) fun _ => Prog.local_pure _
    · exact Prog.local_bind (Prog.local_writes _) fun _ => Prog.local_pure _

theorem local_restoreCpaCredentialStateIfNeeded (previous : Account) :
    (restoreCpaCredentialStateIfNeeded previous).Local (accountPart id) := by
  unfold restoreCpaCredentialStateIfNeeded
  dsimp only
  split
  · exact Prog.local_pure _
  · exact Prog.local_bind local_clock fun now => Prog.local_writes _

/-- What a refused probe makes of the row does not depend on its number. -/
theorem quotaProbeUpdate_congr {current current' : Option AccountDiagnostic}
    (h : current.map unnumbered = current'.map unnumbered) (env : StoreEnv) (id : Int) :
    quotaProbeUpdate env id current = quotaProbeUpdate env id current' := by
  cases current with
  | none =>
    obtain rfl := Option.map_eq_none_iff.mp h.symm
    rfl
  | some d =>
    obtain ⟨d', rfl, hd'⟩ := Option.map_eq_some_iff.mp h.symm
    have hsame : ∀ d, quotaProbeUpdate env id (some d) =
        quotaProbeUpdate env id (some (unnumbered d)) := fun _ => rfl
    rw [hsame d, ← hd', ← hsame d']

/-- A program that reads the diagnostic and makes the same of it whatever its number is. -/
theorem local_getAccountDiagnostic_bind {α : Type} {k : Option AccountDiagnostic → StoreProg α}
    (hk : ∀ d d' : Option AccountDiagnostic, d.map unnumbered = d'.map unnumbered → k d = k d')
    (hlocal : ∀ d, (k d).Local (accountPart id)) :
    (getAccountDiagnostic id >>= k).Local (accountPart id) := by
  have hagain : ((Prog.look fun _ db => db.accountDiagnostics.find? id) >>= k).Local
      (accountPart id) :=
    Prog.local_look_bind (fun _ db db' h => hk _ _ (diagnostic_of_part h)) hlocal
  intro env db db' h
  have hdiagnostic := diagnostic_of_part h
  cases hfind : db.accountDiagnostics.find? id with
  | some d =>
    rw [hfind] at hdiagnostic
    obtain ⟨d', hfind', -⟩ := Option.map_eq_some_iff.mp hdiagnostic.symm
    rw [hfind'] at hdiagnostic
    dsimp only
    rw [hfind, hfind']
    exact ⟨hk _ _ hdiagnostic, hlocal (some d)⟩
  | none =>
    rw [hfind] at hdiagnostic
    dsimp only
    rw [hfind, Option.map_eq_none_iff.mp hdiagnostic.symm]
    exact ⟨rfl, hagain⟩

theorem local_recordCodexQuotaProbeDiagnostic (httpStatus : Int) :
    (recordCodexQuotaProbeDiagnostic id httpStatus).Local (accountPart id) := by
  refine local_getAccountDiagnostic_bind (fun d d' h => ?_) fun d => ?_
  · simp only [quotaProbeUpdate_congr h]
  · exact Prog.local_bind (Prog.local_look fun _ _ _ _ => rfl) fun env => Prog.local_writes _

theorem local_recordQuotaFailure (acc : Account) (status msg : Str) (checkedAt : Clock) :
    (recordQuotaFailure acc status msg checkedAt).Local (accountPart id) := by
  unfold recordQuotaFailure
  refine Prog.local_bind (Prog.local_writes _) fun _ => ?_
  exact Prog.local_bind local_clock fun now => Prog.local_writes _

theorem local_recordQuotaSnapshot (acc : Account) (body : Str) (blocked : Bool)
    (checkedAt : Clock) :
    (recordQuotaSnapshot acc body blocked checkedAt).Local (accountPart id) := by
  unfold recordQuotaSnapshot
  refine Prog.local_bind (Prog.local_writes _) fun _ => ?_
  split
  · exact Prog.local_writes _
  · exact Prog.local_bind local_clock fun now => Prog.local_writes _

theorem local_fetchOneCodexQuota (usage : UsageCall) (acc : Account) :
    (fetchOneCodexQuota usage acc).Local (accountPart acc.id) := by
  unfold fetchOneCodexQuota
  split
  · exact Prog.local_pure _
  · refine Prog.local_bind local_clock fun checkedAt => ?_
    refine Prog.local_bind (local_recordQuotaFailure _ _ _ _) fun _ => ?_
    split
    · exact Prog.local_bind (local_recordCodexQuotaProbeDiagnostic _) fun _ => Prog.local_pure _
    · exact Prog.local_bind (Prog.local_pure _) fun _ => Prog.local_pure _
  · refine Prog.local_bind local_clock fun checkedAt => ?_
    exact Prog.local_bind (local_recordQuotaFailure _ _ _ _) fun _ => Prog.local_pure _
  · refine Prog.local_bind local_clock fun checkedAt => ?_
    exact Prog.local_bind (local_recordQuotaFailure _ _ _ _) fun _ => Prog.local_pure _
  · refine Prog.local_bind local_clock fun checkedAt => ?_
    exact Prog.local_bind (local_recordQuotaSnapshot _ _ _ _) fun _ => Prog.local_pure _

theorem local_refreshCodexQuotaResolved (usage : UsageCall) (rt : CpaRuntime) :
    (refreshCodexQuotaResolved usage rt).Local (accountPart rt.account.id) := by
  unfold refreshCodexQuotaResolved
  split
  · exact Prog.local_pure _
  · split
    · exact Prog.local_pure _
    · refine Prog.local_bind (local_fetchOneCodexQuota usage rt.account) fun err => ?_
      split <;> exact Prog.local_pure _

theorem local_refreshModels (io : RefreshIO) (acc : Account) (opts : RefreshOptions)
    (out : Health.Outcome) : (refreshModels io acc opts out).Local (accountPart acc.id) := by
  unfold refreshModels
  split
  · refine Prog.local_bind (local_discoverModels io.discovery) fun result => ?_
    split <;> exact Prog.local_pure _
  · exact Prog.local_pure _

theorem local_refreshSubscription (c : Checker) (acc : Account) (opts : RefreshOptions)
    (rt : CpaRuntime) (out : Health.Outcome) :
    (refreshSubscription c acc opts rt out).Local (accountPart id) := by
  unfold refreshSubscription
  split
  · exact Prog.local_bind (local_refreshCodexSubscriptionResolved c rt) fun _ => Prog.local_pure _
  · exact Prog.local_pure _

theorem local_refreshQuota (c : Checker) (io : RefreshIO) (acc : Account) (opts : RefreshOptions)
    (out : Health.Outcome) : (refreshQuota c io acc opts out).Local (accountPart acc.id) := by
  unfold refreshQuota
  refine Prog.local_bind (Prog.local_look fun _ _ _ h => getAccount_of_part h) fun latest => ?_
  dsimp only
  refine Prog.local_bind_of_safe (R := fun result => ∀ rt, result = .ok rt → rt.account = acc)
    (local_resolve c io.authRuntime acc _)
    (safe_resolve (fun _ _ _ => trivial) fun _ _ hrt => account_resolveCpaRuntime hrt)
    fun result hresult => ?_
  cases result with
  | error err => exact Prog.local_pure _
  | ok rt =>
    obtain rfl := hresult rt rfl
    refine Prog.local_bind (local_restoreCpaCredentialStateIfNeeded _) fun _ => ?_
    refine Prog.local_bind (local_refreshCodexQuotaResolved io.usage rt) fun refreshed => ?_
    exact Prog.local_ite
      (Prog.local_bind (local_refreshCodexSubscriptionResolved c rt) fun _ => Prog.local_pure _)
      (Prog.local_pure _)

theorem local_refreshPendingSubscription (c : Checker) (io : RefreshIO) (acc : Account)
    (opts : RefreshOptions) (out : Health.Outcome) :
    (refreshPendingSubscription c io acc opts out).Local (accountPart acc.id) := by
  unfold refreshPendingSubscription
  refine Prog.local_bind (local_resolve c io.authRuntime acc _) fun result => ?_
  cases result with
  | error err => exact Prog.local_pure _
  | ok rt =>
    exact Prog.local_bind (local_refreshCodexSubscriptionResolved c rt) fun _ => Prog.local_pure _

theorem local_refreshAccount (c : Checker) (io : RefreshIO) (acc : Account)
    (opts : RefreshOptions) : (refreshAccount c io acc opts).Local (accountPart acc.id) := by
  unfold refreshAccount
  dsimp only
  split
  · refine Prog.local_bind (local_discoverModels io.discovery) fun result => ?_
    split <;> exact Prog.local_pure _
  · refine Prog.local_bind (local_resolve c io.runtime acc _) fun result => ?_
    cases result with
    | error err => exact Prog.local_pure _
    | ok rt =>
      refine Prog.local_bind (local_refreshModels io acc _ _) fun out => ?_
      refine Prog.local_bind (local_refreshSubscription c acc _ rt out) fun out => ?_
      split
      · exact local_refreshQuota c io acc _ out
      · split
        · exact local_refreshPendingSubscription c io acc _ out
        · exact Prog.local_pure _

/-- Background work sees no more of the database than the part of its account. -/
theorem BackgroundWork.local_program (work : BackgroundWork) :
    work.program.Local (accountPart work.accountID) := by
  cases work with
  | checkOne io acc => exact local_checkOne io acc
  | refreshAccount c io acc opts =>
    exact Prog.local_bind (local_refreshAccount c io acc opts) fun _ => Prog.local_pure _
  | record action diagnostic =>
    exact Prog.local_bind (Prog.local_look fun _ _ _ _ => rfl) fun env => Prog.local_writes _

end Local

/-! ## Runs -/

/-- The work of a run: the thread `i` works for the account `key i`. -/
def WorksFor (key : Nat → Int) (evs : List (Programs.Event Nat StoreEnv Database StoreCall)) :
    Prop :=
  ∀ i p, .start i p ∈ evs →
    ∃ work : BackgroundWork, work.accountID = key i ∧ p = work.program

theorem parted_program {key : Nat → Int} {i : Nat} {work : BackgroundWork}
    (h : work.accountID = key i) (id : Int) :
    Threads.Parted (accountPart id) (fun j => decide (key j = id))
      (fun call => callAbout? call = some id) i work.program := by
  constructor
  · intro hmine
    rw [← of_decide_eq_true hmine, ← h]
    exact work.local_program
  · intro hother
    refine work.safe_program.mono (fun _ _ h => h) (fun call hcall => ?_) fun _ h => h
    have hne := of_decide_eq_false hother
    rw [h] at hcall
    obtain hcall | hcall := hcall <;> rw [hcall]
    · exact fun heq => hne (Option.some.inj heq)
    · exact Option.some_ne_none id |>.symm

/-- Whatever checks, refreshes and records run side by side, an account ends with the row, the
models and the diagnostic that the work for it leaves when no other work is there. -/
theorem account_work_isolated {key : Nat → Int}
    {evs : List (Programs.Event Nat StoreEnv Database StoreCall)} {db : Database}
    {s : Threads Nat StoreEnv Database StoreCall} (hwork : WorksFor key evs)
    (h : Runs.exec (Threads.step StoreCall.run) (Threads.idle db) evs = some s) (id : Int) :
    ∃ s', Runs.exec (Threads.step StoreCall.run) (Threads.idle db)
        (evs.filter fun ev => key ev.thread = id) = some s' ∧
      accountPart id s.shared = accountPart id s'.shared ∧
      ∀ i, key i = id → s.thread i = s'.thread i := by
  obtain ⟨s', hs', hagrees⟩ := Threads.exec_own
    (W := fun call => callAbout? call = some id)
    (fun env db call hcall => part_run_of_ne env db hcall)
    (fun env db db' call hpart => part_run hpart env call) h
    (fun i => ⟨fun _ => trivial, fun _ => trivial⟩)
    (fun i p hp => by
      obtain ⟨work, hkey, rfl⟩ := hwork i p hp
      exact parted_program hkey id)
    ⟨rfl, fun _ _ => rfl⟩
  exact ⟨s', hs', hagrees.part, fun i hi => hagrees.thread i (decide_eq_true hi)⟩

/-- Two direct accounts. -/
def directDatabases : Database :=
  { accounts := Table.ofList [directAccount, { directAccount with id := 2 }] }

/-- The check of the direct account, and that of the other, which fails. -/
def directWork (i : Nat) : BackgroundWork :=
  if i = 0 then
    .checkOne { snap := {}, discovery := { answer := .ok [lit "gpt"] } }
      (scanAccountRow directAccount)
  else
    .checkOne { snap := {}, discovery := { answer := .error (lit "connection refused") } }
      (scanAccountRow { directAccount with id := 2 })

/-- Each of them begins while the other is under way. -/
def directChecks : List (Programs.Event Nat StoreEnv Database StoreCall) :=
  [.start 0 (directWork 0).program, .act 0 (secondsIn 1), .start 1 (directWork 1).program,
    .act 1 (secondsIn 1), .act 0 (secondsIn 2), .act 0 (secondsIn 3)]

theorem isSome_directChecks :
    (Runs.exec (Threads.step StoreCall.run) (Threads.idle directDatabases) directChecks).isSome =
      true := by
  decide +kernel

theorem directChecks_isolated :
    ∃ s', Runs.exec (Threads.step StoreCall.run) (Threads.idle directDatabases)
        (directChecks.filter fun ev => (directWork ev.thread).accountID = 1) = some s' ∧
      accountPart 1 (Option.get _ isSome_directChecks).shared = accountPart 1 s'.shared ∧
      ∀ i, (directWork i).accountID = 1 →
        (Option.get _ isSome_directChecks).thread i = s'.thread i :=
  @account_work_isolated (fun i => (directWork i).accountID) _ _ _
    (fun i p hp => by
      simp only [directChecks, List.mem_cons, List.not_mem_nil, Event.start.injEq, reduceCtorEq,
        or_false, false_or] at hp
      obtain ⟨rfl, rfl⟩ | ⟨rfl, rfl⟩ := hp
      · exact ⟨directWork 0, rfl, rfl⟩
      · exact ⟨directWork 1, rfl, rfl⟩)
    (Option.some_get isSome_directChecks).symm 1

end Lune.Gateway
