import Lune.Admin.VaultSteps

/-!
# What is left of an operation that failed

Each handler takes back by hand what it did before the step that failed.  The rows of the
accounts and of the members, and the files, after the steps that a failure leaves behind
and after the ones that take them back.
-/

namespace Lune.Store.Database

open GoText Keyed

section Rows

variable {db : Database} {env : StoreEnv} {poolID id : Int}

variable (db env id) in
theorem rows_updateAccount {f : AccountRow → AccountRow} (hf : ∀ row, (f row).id = row.id) :
    (db.updateAccount env id f).accounts.rows = db.accounts.rows.map fun row =>
      if row.id = id then { f row with updatedAt := env.now.datetime } else row := by
  refine List.map_congr_left fun row _ => ?_
  by_cases hid : row.id = id
  · rw [if_pos hid, if_pos ⟨hid, (hf row).trans hid⟩]
  · rw [if_neg hid, if_neg fun h => hid h.1]

/-- A member is added exactly when it was none. -/
theorem rows_addPoolMemberIdempotent_iff :
    (db.addPoolMemberIdempotent poolID id).poolMembers.rows = db.poolMembers.rows ↔
      db.IsMember poolID id := by
  constructor
  · intro h
    by_contra hmember
    obtain ⟨pm, -, -, -, -, hrows⟩ := rows_addPoolMemberIdempotent hmember
    have hlength := congrArg List.length (hrows.symm.trans h)
    rw [List.length_append, List.length_singleton] at hlength
    omega
  · intro h
    rw [addPoolMemberIdempotent_of_member h]

/-- The members without those of an account. -/
theorem filter_addPoolMemberIdempotent :
    (db.addPoolMemberIdempotent poolID id).poolMembers.rows.filter (fun pm => pm.accountID != id) =
      db.poolMembers.rows.filter fun pm => pm.accountID != id := by
  by_cases hmember : db.IsMember poolID id
  · rw [addPoolMemberIdempotent_of_member hmember]
  · obtain ⟨pm, -, hid, -, -, hrows⟩ := rows_addPoolMemberIdempotent hmember
    rw [hrows, List.filter_append, List.filter_singleton, hid]
    simp

/-! ## An account that is added and taken back -/

variable {account : Account}

/-- The row that `CreateAccount` adds. -/
def addedRow (db : Database) (env : StoreEnv) (account : Account) : AccountRow :=
  db.newAccount env (if account.sourceKind = [] then lit "openai_compat" else account.sourceKind)
    account

variable (env account) in
/-- An account that was added is gone, with what was added about it. -/
theorem deleteAccount_added (h : db.insertAccountFails (db.addedRow env account) = false)
    (hmembers : db.MembersNamed) {db' : Database}
    (haccounts : db'.accounts = (db.createAccount env account).accounts)
    (hpool : db'.poolMembers.rows.filter (fun pm => pm.accountID != (db.addedRow env account).id) =
      db.poolMembers.rows.filter fun pm => pm.accountID != (db.addedRow env account).id) :
    (db'.deleteAccount (db.addedRow env account).id).accounts.rows = db.accounts.rows ∧
      (db'.deleteAccount (db.addedRow env account).id).poolMembers.rows = db.poolMembers.rows := by
  have hfresh : db.accounts.find? (db.addedRow env account).id = none := find?_newAccount _ account
  have hold : db.poolMembers.rows.filter (fun pm => pm.accountID != (db.addedRow env account).id) =
      db.poolMembers.rows := by
    rw [List.filter_eq_self]
    intro pm hpm
    have hnamed := hmembers pm hpm
    rw [bne_iff_ne]
    intro hid
    rw [hid, hfresh] at hnamed
    contradiction
  constructor
  · show db'.accounts.rows.filter (fun row => row.id ≠ (db.addedRow env account).id) = _
    rw [haccounts, rows_createAccount env account h, List.filter_append]
    have hrows : db.accounts.rows.filter (fun row => row.id ≠ (db.addedRow env account).id) =
        db.accounts.rows := by
      rw [List.filter_eq_self]
      intro row hrow
      exact decide_eq_true (of_decide_eq_false (eq_false_of_ne_true
        (List.find?_eq_none.mp hfresh row hrow)))
    rw [hrows]
    simp [addedRow]
  · exact hpool.trans hold

/-! ## A row that is imported and restored -/

variable {row : AccountRow}

/-- A change of one row leaves all rows as they were exactly when it leaves that one. -/
theorem map_rows_eq_iff {β : Type} (hrow : row ∈ db.accounts.rows) (f : AccountRow → AccountRow)
    (g : AccountRow → β) :
    (db.accounts.rows.map fun r => if r.id = row.id then f r else r).map g =
        db.accounts.rows.map g ↔ g (f row) = g row := by
  rw [List.map_map, List.map_inj_left]
  constructor
  · intro h
    have hthis := h row hrow
    rwa [Function.comp, if_pos rfl] at hthis
  · intro h r hr
    rw [Function.comp]
    by_cases hid : r.id = row.id
    · rw [if_pos hid, List.inj_on_of_nodup_map db.accounts.nodup hr hrow hid, h]
    · rw [if_neg hid]

/-- A row apart from `updated_at`. -/
def content (row : AccountRow) : AccountRow := { row with updatedAt := [] }

/-- The columns of a row that a snapshot does not keep blank. -/
def StatusesSet (row : AccountRow) : Prop :=
  row.cpaCredentialStatus ≠ [] ∧ row.cpaSubscriptionStatus ≠ [] ∧ row.cpaAccessStatus ≠ []

theorem defaultCpaStatus_eq_iff {status : Str} : defaultCpaStatus status = status ↔ status ≠ [] := by
  unfold defaultCpaStatus
  by_cases hnil : status = []
  · rw [if_pos hnil, hnil]
    exact iff_of_false (by decide) (not_not.mpr rfl)
  · rw [if_neg hnil]
    exact iff_of_true rfl hnil

theorem defaultCpaStatus_idem (status : Str) :
    defaultCpaStatus (defaultCpaStatus status) = defaultCpaStatus status := by
  rw [defaultCpaStatus_eq_iff, defaultCpaStatus]
  split
  · decide
  next hnil => exact hnil

/-- A row that was imported and restored is what it was. -/
theorem content_restored_iff (account : Account) :
    content { restoredAccount (scanAccountRow row) { importedAccount env account row with
        updatedAt := env.now.datetime } with updatedAt := env.now.datetime } = content row ↔
      StatusesSet row := by
  rw [StatusesSet, ← defaultCpaStatus_eq_iff, ← defaultCpaStatus_eq_iff, ← defaultCpaStatus_eq_iff]
  constructor
  · intro h
    refine ⟨?_, ?_, ?_⟩
    · rw [← defaultCpaStatus_idem]
      exact congrArg AccountRow.cpaCredentialStatus h
    · rw [← defaultCpaStatus_idem]
      exact congrArg AccountRow.cpaSubscriptionStatus h
    · rw [← defaultCpaStatus_idem]
      exact congrArg AccountRow.cpaAccessStatus h
  · rintro ⟨hcredential, hsubscription, haccess⟩
    obtain ⟨id, label, sourceKind⟩ := row
    simp only [content, restoredAccount, scanAccountRow, importedAccount,
      hcredential, hsubscription, haccess]

theorem accounts_restore_congr {db' : Database} (h : db'.accounts = db.accounts) (account : Account) :
    (db'.restoreCpaAccountImportSnapshot env account).accounts =
      (db.restoreCpaAccountImportSnapshot env account).accounts := by
  show Table.modify db'.accounts _ _ = Table.modify db.accounts _ _
  rw [h]

/-- `RestoreCpaAccountImportSnapshot` after `UpdateCpaAccountFromImport`. -/
theorem restored_rows_iff (hrow : row ∈ db.accounts.rows) (account : Account) :
    ((db.updateCpaAccountFromImport env row.id account).restoreCpaAccountImportSnapshot env
        (scanAccountRow row)).accounts.rows.map content = db.accounts.rows.map content ↔
      StatusesSet row := by
  have himport := rows_updateAccount db env row.id (f := importedAccount env account) fun _ => rfl
  have hrestore := rows_updateAccount (db.updateCpaAccountFromImport env row.id account) env row.id
    (f := restoredAccount (scanAccountRow row)) fun _ => rfl
  have hrows := hrestore.trans (congrArg (List.map _) himport)
  rw [List.map_map] at hrows
  have htwice : ((db.updateCpaAccountFromImport env row.id account).restoreCpaAccountImportSnapshot
      env (scanAccountRow row)).accounts.rows = db.accounts.rows.map fun r =>
        if r.id = row.id then
          { restoredAccount (scanAccountRow row) { importedAccount env account r with
              updatedAt := env.now.datetime } with updatedAt := env.now.datetime }
        else r := by
    refine hrows.trans (List.map_congr_left fun r _ => ?_)
    rw [Function.comp]
    by_cases hid : r.id = row.id
    · rw [if_pos hid, if_pos hid]
      exact if_pos hid
    · rw [if_neg hid, if_neg hid, if_neg hid]
  rw [htwice]
  exact (map_rows_eq_iff hrow _ content).trans (content_restored_iff account)

/-! ## The transaction of a batch -/

variable {serviceID : Int}

/-- What a transaction that is committed has found. -/
theorem of_upsertFails (hservice : account.cpaServiceID = some serviceID)
    (hkind : account.sourceKind = lit "cpa") (h : db.upsertFails env poolID account = false) :
    (db.pools.find? poolID).isSome = true ∧
      (db.findAccountByCpaKey serviceID account.cpaAccountKey = none →
        db.insertAccountFails (db.newAccount env (lit "cpa") account) = false) := by
  have hcpa : firstNonEmpty [lit "cpa", lit "cpa"] = lit "cpa" := by decide
  unfold upsertFails at h
  rw [hservice, hkind, hcpa] at h
  dsimp only at h
  rw [Bool.or_eq_false_iff, Option.isNone_eq_false_iff] at h
  refine ⟨h.1, fun hnone => ?_⟩
  rw [hnone] at h
  exact h.2

theorem rows_upsert_new (hservice : account.cpaServiceID = some serviceID)
    (hkind : account.sourceKind = lit "cpa") (hpool : (db.pools.find? poolID).isSome = true)
    (hfound : db.findAccountByCpaKey serviceID account.cpaAccountKey = none)
    (hinsert : db.insertAccountFails (db.newAccount env (lit "cpa") account) = false) :
    (db.upsertCpaAccountAndPoolMemberFromImport env poolID account).accounts.rows =
      db.accounts.rows ++ [db.newAccount env (lit "cpa") account] := by
  have hcpa : firstNonEmpty [lit "cpa", lit "cpa"] = lit "cpa" := by decide
  have hthere : ¬(db.pools.find? poolID).isNone = true := by
    rw [← Option.not_isSome, hpool]
    decide
  unfold upsertCpaAccountAndPoolMemberFromImport
  simp only [hservice, hkind, hcpa, if_neg hthere, hfound, hinsert, Bool.false_eq_true, if_false,
    accounts_ensureAccountDiagnosticTx, accounts_addPoolMemberIdempotent]
  exact Table.rows_set_of_fresh (find?_newAccount _ account)

end Rows

end Lune.Store.Database

namespace Lune.Admin

open GoText Keyed Scripts Lune.Store Lune.Health Lune.Cpa

/-! ## A membership that fails -/

section Member

variable {fault : Stage → Fault} {env : StoreEnv} {v : Vault} {db : Database} {poolID id : Int}

/-- The database after an `AddPoolMemberIdempotent` that reports an error. -/
def memberLeft (fault : Stage → Fault) (db : Database) (poolID id : Int) : Database :=
  match fault .member with
  | .late _ =>
    if db.addPoolMemberFails poolID id then db else db.addPoolMemberIdempotent poolID id
  | .none | .early => db

theorem run_addPoolMember_fails
    (h : fault .member ≠ .none ∨ v.db.addPoolMemberFails poolID id = true) :
    (addPoolMemberIdempotent fault poolID id).run env v =
      (none, { v with db := memberLeft fault v.db poolID id }) := by
  unfold memberLeft
  cases hfault : fault .member with
  | none =>
    exact run_readBack_of_none (Or.inr (if_pos (h.resolve_left (not_not.mpr hfault))))
  | early => exact run_readBack_of_none (Or.inl hfault)
  | late left =>
    by_cases hfails : v.db.addPoolMemberFails poolID id = true
    · dsimp only
      rw [if_pos hfails]
      exact run_readBack_of_none (Or.inr (if_pos hfails))
    · dsimp only
      rw [if_neg hfails]
      exact run_readBack_late hfault (if_neg hfails)

/-- The membership fails, or the pool is not there. -/
def PoolFails (fault : Stage → Fault) (db : Database) (poolID : Int) : Prop :=
  fault .member ≠ .none ∨ (db.pools.find? poolID).isNone = true

theorem accounts_memberLeft : (memberLeft fault db poolID id).accounts = db.accounts := by
  unfold memberLeft
  cases fault .member with
  | none | early => rfl
  | late left =>
    dsimp only
    split
    · rfl
    · exact Database.accounts_addPoolMemberIdempotent db poolID id

theorem filter_memberLeft :
    (memberLeft fault db poolID id).poolMembers.rows.filter (fun pm => pm.accountID != id) =
      db.poolMembers.rows.filter fun pm => pm.accountID != id := by
  unfold memberLeft
  cases fault .member with
  | none | early => rfl
  | late left =>
    dsimp only
    split
    · rfl
    · exact Database.filter_addPoolMemberIdempotent

/-- A member that was added before the failure was one already. -/
def MemberKept (fault : Stage → Fault) (db : Database) (poolID id : Int) : Prop :=
  (∃ left, fault .member = .late left) → db.addPoolMemberFails poolID id = false →
    db.IsMember poolID id

theorem rows_memberLeft_iff :
    (memberLeft fault db poolID id).poolMembers.rows = db.poolMembers.rows ↔
      MemberKept fault db poolID id := by
  unfold memberLeft MemberKept
  cases fault .member with
  | none | early => exact iff_of_true rfl fun h => nomatch h
  | late left =>
    dsimp only
    by_cases hfails : db.addPoolMemberFails poolID id = true
    · rw [if_pos hfails]
      exact iff_of_true rfl fun _ hnot => absurd hfails (by rw [hnot]; decide)
    · rw [if_neg hfails, Database.rows_addPoolMemberIdempotent_iff]
      exact ⟨fun h _ _ => h, fun h => h ⟨left, rfl⟩ (Bool.eq_false_of_not_eq_true hfails)⟩

end Member

/-! ## An account that could not join -/

section Joined

variable {fault : Stage → Fault} {t : Tokens} {svc : CpaService} {accountKey : Str}
  {f : CpaAuthFile} {label : Str} {enabled : Bool} {notes : Str} {env : StoreEnv} {db : Database}
  {poolID : Int}

variable (fault poolID) in
/-- A new account is dropped again, with whatever was added about it. -/
theorem dropped_rows (hfound : db.findAccountByCpaKey svc.id accountKey = none)
    (hinsert : db.insertAccountFails (db.newAccount env (lit "cpa")
      (importedCpaAccountTemplate t env.now svc accountKey f label enabled notes)) = false)
    (hmembers : db.MembersNamed) :
    let up := upserted t svc accountKey f label enabled notes env db
    ((memberLeft fault up.1 poolID up.2).deleteAccount up.2).accounts.rows = db.accounts.rows ∧
      ((memberLeft fault up.1 poolID up.2).deleteAccount up.2).poolMembers.rows =
        db.poolMembers.rows := by
  unfold upserted
  rw [hfound]
  dsimp only
  refine Database.deleteAccount_added env (importedCpaAccountTemplate t env.now svc accountKey f label
    enabled notes) hinsert hmembers accounts_memberLeft ?_
  exact filter_memberLeft.trans (congrArg (fun members => List.filter _ (Table.rows members))
    (Database.createAccount_frame _).2.2)

variable (env) in
/-- The membership that fails, after an import. -/
theorem run_member_after_import (hfails : PoolFails fault db poolID) (dir : GoMap Str Str)
    {up : Database × Int} (hpools : up.1.pools = db.pools) :
    (addPoolMemberIdempotent fault poolID up.2).run env ⟨dir, up.1⟩ =
      (none, ⟨dir, memberLeft fault up.1 poolID up.2⟩) := by
  refine run_addPoolMember_fails (hfails.imp_right fun hmissing => ?_)
  rw [Database.addPoolMemberFails, hpools, hmissing]
  rfl

end Joined

end Lune.Admin
