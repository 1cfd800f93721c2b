import Lune.Admin.Reimport
import Lune.Admin.Rollback

/-!
# Operations of two steps

`createAccount`, `importCpaAccount`, each key of `batchImportCpaAccounts`, `finalizeLogin`
and `deleteAccount`, when the second of their steps fails: the membership in the pool, or
the deletion of the row.
-/

namespace Lune.Admin

open GoText Keyed Scripts Lune.Store Lune.Health Lune.Cpa

/-- The accounts, the members and the files are what they were. -/
structure Unchanged (v w : Vault) : Prop where
  accounts : w.db.accounts.rows = v.db.accounts.rows
  members : w.db.poolMembers.rows = v.db.poolMembers.rows
  files : ∀ name, w.dir.get? name = v.dir.get? name

/-! ## An import whose account cannot join -/

section Import

variable (t : Tokens) (svc : CpaService) (accountKey : Str) (f : CpaAuthFile) (label : Str)
  (enabled : Bool) (notes : Str) (env : StoreEnv)

/-- The account that an import makes of a row that has the key. -/
def importedOver (row : AccountRow) : Account :=
  let account := importedCpaAccountTemplate t env.now svc accountKey f label enabled notes
  { account with
    id := row.id
    label := if isBlank label then row.label else account.label
    notes := if isBlank notes then row.notes else account.notes }

/-- What an import makes of a row. -/
def reimported (row : AccountRow) : AccountRow :=
  { Database.importedAccount env (importedOver t svc accountKey f label enabled notes env row) row with
    updatedAt := env.now.datetime }

/-- An account that has the key was imported the same way in the same second, and it was in
the pool if it is now. -/
def NothingNew (fault : Stage → Fault) (poolID : Int) (db : Database) : Prop :=
  ∀ row ∈ db.accounts.rows, db.findAccountByCpaKey svc.id accountKey = some (scanAccountRow row) →
    reimported t svc accountKey f label enabled notes env row = row ∧
      MemberKept fault db poolID row.id

/-- The database after an import whose account cannot join the pool. -/
def leftBehind (fault : Stage → Fault) (poolID : Int) (db : Database) : Database :=
  let up := upserted t svc accountKey f label enabled notes env db
  match db.findAccountByCpaKey svc.id accountKey with
  | none => (memberLeft fault up.1 poolID up.2).deleteAccount up.2
  | some _ => memberLeft fault up.1 poolID up.2

variable {t svc accountKey f label enabled notes env} {fault : Stage → Fault} {poolID : Int}
  {db : Database}

theorem upserted_existing {row : AccountRow}
    (hfound : db.findAccountByCpaKey svc.id accountKey = some (scanAccountRow row)) :
    upserted t svc accountKey f label enabled notes env db =
      (db.updateCpaAccountFromImport env row.id
        (importedOver t svc accountKey f label enabled notes env row), row.id) := by
  unfold upserted
  rw [hfound]
  rfl

/-- An import of a row leaves the rows exactly when it changes nothing in it. -/
theorem rows_upserted_iff {row : AccountRow} (hrow : row ∈ db.accounts.rows)
    (hfound : db.findAccountByCpaKey svc.id accountKey = some (scanAccountRow row)) :
    (upserted t svc accountKey f label enabled notes env db).1.accounts.rows = db.accounts.rows ↔
      reimported t svc accountKey f label enabled notes env row = row := by
  let account := importedOver t svc accountKey f label enabled notes env row
  have hrows := Database.rows_updateAccount db env row.id (f := Database.importedAccount env account)
    fun _ => rfl
  have hiff := Database.map_rows_eq_iff hrow (fun row =>
    { Database.importedAccount env account row with updatedAt := env.now.datetime }) id
  rw [List.map_id, List.map_id] at hiff
  rw [upserted_existing hfound]
  exact (iff_of_eq (congrArg (· = db.accounts.rows) hrows)).trans hiff

/-- What counts for the membership is the same after the import of a row. -/
theorem memberKept_upserted {row : AccountRow} (hrow : row ∈ db.accounts.rows)
    (hfound : db.findAccountByCpaKey svc.id accountKey = some (scanAccountRow row))
    (hservice : (db.cpaServices.find? svc.id).isSome = true) :
    MemberKept fault (upserted t svc accountKey f label enabled notes env db).1 poolID
        (upserted t svc accountKey f label enabled notes env db).2 ↔
      MemberKept fault db poolID row.id := by
  have hspec := upserted_spec t accountKey f label enabled notes env hservice
  have hthere : (db.accounts.find? row.id).isSome = true := by
    rw [Table.find?_of_mem hrow]
    rfl
  have hmembers : (upserted t svc accountKey f label enabled notes env db).1.poolMembers =
      db.poolMembers := by
    rw [upserted_existing hfound]
    rfl
  have hid : (upserted t svc accountKey f label enabled notes env db).2 = row.id := by
    rw [upserted_existing hfound]
  have haccount := hspec.account
  rw [hid] at haccount ⊢
  unfold MemberKept Database.addPoolMemberFails Database.IsMember
  rw [hmembers, hspec.pools, ← Option.not_isSome (db.accounts.find? row.id), hthere,
    ← Option.not_isSome (Table.find? _ row.id), haccount]

/-- The rows are left as they were exactly when there was nothing new. -/
theorem leftBehind_iff (hservice : (db.cpaServices.find? svc.id).isSome = true)
    (hmembers : db.MembersNamed) :
    ((leftBehind t svc accountKey f label enabled notes env fault poolID db).accounts.rows =
          db.accounts.rows ∧
        (leftBehind t svc accountKey f label enabled notes env fault poolID db).poolMembers.rows =
          db.poolMembers.rows) ↔
      NothingNew t svc accountKey f label enabled notes env fault poolID db := by
  unfold leftBehind NothingNew
  cases hfound : db.findAccountByCpaKey svc.id accountKey with
  | none =>
    have hinsert : db.insertAccountFails (db.newAccount env (lit "cpa") (importedCpaAccountTemplate t
        env.now svc accountKey f label enabled notes)) = false :=
      Database.insertAccountFails_eq_false rfl hservice
        (Database.findAccountByCpaKey_eq_none.mp hfound)
    exact iff_of_true (dropped_rows fault poolID hfound hinsert hmembers) fun _ _ h => nomatch h
  | some existing =>
    obtain ⟨row, hrow, -, rfl⟩ := Database.of_findAccountByCpaKey hfound
    dsimp only
    rw [accounts_memberLeft, rows_upserted_iff hrow hfound]
    have hmembersSame : (upserted t svc accountKey f label enabled notes env db).1.poolMembers =
        db.poolMembers := by
      rw [upserted_existing hfound]
      rfl
    rw [← hmembersSame, rows_memberLeft_iff, memberKept_upserted hrow hfound hservice]
    constructor
    · intro h other hother hsame
      have hid : other.id = row.id := congrArg (fun a : Account => a.id) (Option.some.inj hsame).symm
      rw [List.inj_on_of_nodup_map db.accounts.nodup hother hrow hid]
      exact h
    · intro h
      exact h row hrow rfl

end Import

/-! ## The operations -/

/-- The operations that have two steps. -/
inductive TwoStep where
  | createAccount (req : Account) (poolID : Int)
  | importCpaAccount (serviceID : Int) (accountKey label : Str) (enabled : Bool) (notes : Str)
    (poolID : Int)
  | batchImportCpaAccount (svc : CpaService) (poolID : Int) (accountKey : Str)
  | finalizeLogin (svc : CpaService) (login : Login)
  | deleteAccount (id : Int)

namespace TwoStep

/-- The handler. -/
def program (fault : Stage → Fault) (t : Tokens) : TwoStep → VaultScript Outcome
  | createAccount req poolID => Admin.createAccount fault req poolID
  | importCpaAccount serviceID accountKey label enabled notes poolID =>
    Admin.importCpaAccount fault t serviceID accountKey label enabled notes poolID
  | batchImportCpaAccount svc poolID accountKey =>
    Admin.batchImportCpaAccount fault t svc poolID accountKey
  | finalizeLogin svc login => Admin.finalizeLogin fault t svc login
  | deleteAccount id => Admin.deleteAccount fault t id

/-- The step that is to come second. -/
def second : TwoStep → Stage
  | createAccount _ _ | importCpaAccount _ _ _ _ _ _ | batchImportCpaAccount _ _ _
  | finalizeLogin _ _ => .member
  | deleteAccount _ => .deleteRow

/-- The first step succeeds and the second one fails. -/
def SecondFails (fault : Stage → Fault) (t : Tokens) (env : StoreEnv) (v : Vault) : TwoStep → Prop
  | createAccount req poolID =>
    createAccountRefused req poolID = false ∧
      v.db.insertAccountFails (v.db.addedRow env (requestedAccount req)) = false ∧
      PoolFails fault v.db poolID
  | importCpaAccount serviceID accountKey _ _ _ poolID =>
    t.cpaAuthDir ≠ [] ∧ accountKey ≠ [] ∧ poolID ≠ 0 ∧
      (v.db.cpaServices.find? serviceID).isSome = true ∧ (v.authFile accountKey).isSome = true ∧
      PoolFails fault v.db poolID
  | batchImportCpaAccount svc poolID accountKey =>
    (v.db.cpaServices.find? svc.id).isSome = true ∧ (v.authFile accountKey).isSome = true ∧
      PoolFails fault v.db poolID
  | finalizeLogin svc login =>
    ∃ info, parseAccountInfoFromTokens login.idToken login.accessToken = some info ∧
      validateAccountKey (login.accountKey info) = true ∧
      (v.db.cpaServices.find? svc.id).isSome = true ∧ 0 < login.poolID ∧
      PoolFails fault v.db login.poolID
  | deleteAccount id =>
    ∃ acc, v.db.getAccount id = some acc ∧
      (removesFile t acc = true → validateAccountKey acc.cpaAccountKey = true) ∧
      fault .deleteRow ≠ .none

/-- Nothing is to be taken back. -/
def NothingDone (fault : Stage → Fault) (t : Tokens) (env : StoreEnv) (v : Vault) : TwoStep → Prop
  | createAccount _ _ => False
  | importCpaAccount serviceID accountKey label enabled notes poolID =>
    ∀ svc f, v.db.cpaServices.find? serviceID = some svc → v.authFile accountKey = some f →
      NothingNew t svc accountKey f label enabled notes env fault poolID v.db
  | batchImportCpaAccount svc poolID accountKey =>
    ∀ f, v.authFile accountKey = some f →
      NothingNew t svc accountKey f [] true [] env fault poolID v.db
  | finalizeLogin svc login =>
    ∀ info, parseAccountInfoFromTokens login.idToken login.accessToken = some info →
      NothingNew t svc (login.accountKey info) (login.authFile info env.now) [] true [] env fault
          login.poolID v.db ∧
        v.dir.get? (tempName (login.accountKey info)) = none ∧
        v.dir.get? (fileName (login.accountKey info)) =
          some (marshalAuthFile (login.authFile info env.now))
  | deleteAccount id =>
    ∀ acc, v.db.getAccount id = some acc → removesFile t acc = true →
      v.dir.get? (fileName acc.cpaAccountKey) = none

end TwoStep

/-! ## One operation after the other -/

section Handlers

variable {fault : Stage → Fault} {t : Tokens} {env : StoreEnv} {v : Vault}

theorem createAccount_second (hfault : ∀ s, s ≠ .member → fault s = .none) {req : Account}
    {poolID : Int} (h : (TwoStep.createAccount req poolID).SecondFails fault t env v) :
    ((createAccount fault req poolID).run env v).1 = .failed ∧
      ¬Unchanged v ((createAccount fault req poolID).run env v).2 := by
  obtain ⟨hrefused, hinsert, hpool⟩ := h
  have hadd : (insertAccount fault (requestedAccount req)).run env v =
      (some (some (v.db.addedRow env (requestedAccount req)).id),
        { v with db := v.db.createAccount env (requestedAccount req) }) :=
    run_statement (hfault .create (by decide)) (if_neg (Bool.eq_false_iff.mp hinsert))
  have hmember : ∀ id, (addPoolMember fault poolID id).run env
      { v with db := v.db.createAccount env (requestedAccount req) } =
        (none, { v with db := v.db.createAccount env (requestedAccount req) }) := by
    intro id
    refine run_statement_of_none fun hnone => if_pos ?_
    have hmissing := hpool.resolve_left (not_not.mpr hnone)
    rw [Database.addPoolMemberFails, (Database.createAccount_frame _).2.1, hmissing]
    rfl
  unfold createAccount
  rw [if_neg (by rw [hrefused]; decide)]
  simp only [Script.run_bind, hadd, hmember, Script.run_pure]
  refine ⟨trivial, fun hsame => ?_⟩
  have hrows := hsame.accounts
  dsimp only at hrows
  rw [Database.rows_createAccount env (requestedAccount req) hinsert] at hrows
  have hlength := congrArg List.length hrows
  rw [List.length_append, List.length_singleton] at hlength
  omega

theorem deleteAccount_second (hfault : ∀ s, s ≠ .deleteRow → fault s = .none) {id : Int}
    (h : (TwoStep.deleteAccount id).SecondFails fault t env v) :
    ((deleteAccount fault t id).run env v).1 = .failed ∧
      (Unchanged v ((deleteAccount fault t id).run env v).2 ↔
        (TwoStep.deleteAccount id).NothingDone fault t env v) := by
  obtain ⟨acc, hacc, hvalid, hrow⟩ := h
  have hlook : (statement fault .account fun _ v => some (v, v.db.getAccount id)).run env v =
      (some (some acc), v) := run_statement (hfault .account (by decide)) (by rw [hacc])
  have herase : ∀ w, (eraseAccount fault .deleteRow id).run env w = (none, w) :=
    fun w => run_statement_of_none fun hnone => absurd hnone hrow
  unfold deleteAccount TwoStep.NothingDone
  simp only [Script.run_bind, hlook, Script.run_ite, Script.run_pure]
  by_cases hfile : removesFile t acc = true
  · have hdelete : (deleteAuthFile fault .deleteFile acc.cpaAccountKey).run env v =
        (some (), { v with dir := Table.erase v.dir (fileName acc.cpaAccountKey) }) :=
      run_statement (hfault .deleteFile (by decide)) (if_neg (by rw [hvalid hfile]; decide))
    simp only [if_pos hfile, hdelete, herase, Script.run_bind, Script.run_pure]
    refine ⟨trivial, ?_, ?_⟩
    · intro hsame other hother _
      obtain rfl := Option.some.inj (hacc.symm.trans hother)
      have hget := hsame.files (fileName acc.cpaAccountKey)
      rw [GoMap.get?_erase, if_pos rfl] at hget
      exact hget.symm
    · intro hnone
      refine ⟨rfl, rfl, fun name => ?_⟩
      rw [GoMap.get?_erase]
      by_cases hname : name = fileName acc.cpaAccountKey
      · rw [if_pos hname, hname, hnone acc hacc hfile]
      · rw [if_neg hname]
  · simp only [if_neg hfile, herase, Script.run_pure]
    refine ⟨trivial, iff_of_true ⟨rfl, rfl, fun _ => rfl⟩ ?_⟩
    intro other hother hremoves
    obtain rfl := Option.some.inj (hacc.symm.trans hother)
    exact absurd hremoves hfile

section Joining

variable {svc : CpaService} {accountKey : Str} {f : CpaAuthFile} {label : Str} {enabled : Bool}
  {notes : Str} {poolID : Int}

/-- The import and the membership that fails after it. -/
theorem run_importScanned_fails (hfault : ∀ s, s ≠ .member → fault s = .none)
    (hservice : (v.db.cpaServices.find? svc.id).isSome = true)
    (hpool : PoolFails fault v.db poolID) :
    (importScanned fault t svc accountKey f label enabled notes poolID
        (v.db.findAccountByCpaKey svc.id accountKey)).run env v =
      (.failed, { v with
        db := leftBehind t svc accountKey f label enabled notes env fault poolID v.db }) := by
  have hspec := upserted_spec t accountKey f label enabled notes env hservice
  have hupsert := run_upsertImported (not_upsertFails t accountKey f label enabled notes env
    (hfault .find (by decide)) (hfault .update (by decide)) (hfault .create (by decide)) hservice)
  have hmember := run_member_after_import env hpool v.dir hspec.pools
  unfold importScanned leftBehind
  simp only [Script.run_bind, hupsert, hmember]
  cases hfound : v.db.findAccountByCpaKey svc.id accountKey with
  | none =>
    have herase : ∀ id w, (eraseAccount fault .deleteOrphan id).run env w =
        (some (), { w with db := w.db.deleteAccount id }) :=
      fun _ _ => run_statement (hfault .deleteOrphan (by decide)) rfl
    simp only [dropOrphan, Script.run_bind, herase, Script.run_pure]
  | some existing => rfl

/-- The rows after it, when the files are as they were. -/
theorem unchanged_leftBehind_iff (hservice : (v.db.cpaServices.find? svc.id).isSome = true)
    (hmembers : v.db.MembersNamed) {dir : GoMap Str Str} :
    Unchanged v ⟨dir, leftBehind t svc accountKey f label enabled notes env fault poolID v.db⟩ ↔
      NothingNew t svc accountKey f label enabled notes env fault poolID v.db ∧
        ∀ name, dir.get? name = v.dir.get? name := by
  rw [← leftBehind_iff hservice hmembers]
  exact ⟨fun h => ⟨⟨h.accounts, h.members⟩, h.files⟩, fun h => ⟨h.1.1, h.1.2, h.2⟩⟩

end Joining

theorem importCpaAccount_second (hfault : ∀ s, s ≠ .member → fault s = .none)
    (hmembers : v.db.MembersNamed) {serviceID : Int} {accountKey label : Str} {enabled : Bool}
    {notes : Str} {poolID : Int}
    (h : (TwoStep.importCpaAccount serviceID accountKey label enabled notes poolID).SecondFails fault
      t env v) :
    let w := (importCpaAccount fault t serviceID accountKey label enabled notes poolID).run env v
    w.1 = .failed ∧ (Unchanged v w.2 ↔ (TwoStep.importCpaAccount serviceID accountKey label enabled
      notes poolID).NothingDone fault t env v) := by
  obtain ⟨hdir, hkey, hpoolID, hservice, hfile, hpool⟩ := h
  obtain ⟨svc, hsvc⟩ := Option.isSome_iff_exists.mp hservice
  obtain ⟨f, hf⟩ := Option.isSome_iff_exists.mp hfile
  have hid := (Table.mem_of_find? hsvc).2
  have hlook : (statement fault .service fun _ v => some (v, v.db.cpaServices.find? serviceID)).run
      env v = (some (some svc), v) := run_statement (hfault .service (by decide)) (by rw [hsvc])
  have hthere : (v.db.cpaServices.find? svc.id).isSome = true := by
    rw [hid, hsvc]
    rfl
  unfold importCpaAccount TwoStep.NothingDone
  rw [if_neg (not_or.mpr ⟨hdir, not_or.mpr ⟨hkey, hpoolID⟩⟩)]
  simp only [Script.run_bind, hlook, run_readAuthFile (hfault .readFile (by decide)), hf,
    run_findAccountByCpaKey (hfault .lookup (by decide)),
    run_importScanned_fails hfault hthere hpool]
  refine ⟨trivial, (unchanged_leftBehind_iff hthere hmembers).trans ?_⟩
  constructor
  · intro hnothing svc' f' hsvc' hf'
    obtain rfl := Option.some.inj (hsvc.symm.trans hsvc')
    obtain rfl := Option.some.inj hf'
    exact hnothing.1
  · intro hnothing
    exact ⟨hnothing svc f hsvc rfl, fun _ => rfl⟩

theorem batchImportCpaAccount_second (hfault : ∀ s, s ≠ .member → fault s = .none)
    (hmembers : v.db.MembersNamed) {svc : CpaService} {poolID : Int} {accountKey : Str}
    (h : (TwoStep.batchImportCpaAccount svc poolID accountKey).SecondFails fault t env v) :
    let w := (batchImportCpaAccount fault t svc poolID accountKey).run env v
    w.1 = .failed ∧ (Unchanged v w.2 ↔
      (TwoStep.batchImportCpaAccount svc poolID accountKey).NothingDone fault t env v) := by
  obtain ⟨hthere, hfile, hpool⟩ := h
  obtain ⟨f, hf⟩ := Option.isSome_iff_exists.mp hfile
  unfold batchImportCpaAccount TwoStep.NothingDone
  simp only [Script.run_bind, run_readAuthFile (hfault .readFile (by decide)), hf,
    run_findAccountByCpaKey (hfault .lookup (by decide)), Option.join_some,
    run_importScanned_fails hfault hthere hpool]
  refine ⟨trivial, (unchanged_leftBehind_iff hthere hmembers).trans ?_⟩
  constructor
  · intro hnothing f' hf'
    obtain rfl := Option.some.inj hf'
    exact hnothing.1
  · intro hnothing
    exact ⟨hnothing f rfl, fun _ => rfl⟩

/-- The files after `WriteAuthFile` are what they were when they had the credential, and none
half written. -/
theorem written_eq_iff {dir : GoMap Str Str} {accountKey data : Str} :
    (∀ name, (written dir accountKey data).get? name = dir.get? name) ↔
      dir.get? (tempName accountKey) = none ∧ dir.get? (fileName accountKey) = some data := by
  constructor
  · intro h
    have htemp := h (tempName accountKey)
    have hfile := h (fileName accountKey)
    rw [get?_written, if_pos rfl] at htemp
    rw [get?_written, if_neg (tempName_ne_fileName accountKey).symm, if_pos rfl] at hfile
    exact ⟨htemp.symm, hfile.symm⟩
  · rintro ⟨htemp, hfile⟩ name
    rw [get?_written]
    by_cases hname : name = tempName accountKey
    · rw [if_pos hname, hname, htemp]
    · rw [if_neg hname]
      by_cases hfileName : name = fileName accountKey
      · rw [if_pos hfileName, hfileName, hfile]
      · rw [if_neg hfileName]

theorem finalizeLogin_second (hfault : ∀ s, s ≠ .member → fault s = .none)
    (hmembers : v.db.MembersNamed) {svc : CpaService} {login : Login}
    (h : (TwoStep.finalizeLogin svc login).SecondFails fault t env v) :
    let w := (finalizeLogin fault t svc login).run env v
    w.1 = .failed ∧
      (Unchanged v w.2 ↔ (TwoStep.finalizeLogin svc login).NothingDone fault t env v) := by
  obtain ⟨info, hinfo, hvalid, hthere, hpositive, hpool⟩ := h
  let v' : Vault := ⟨written v.dir (login.accountKey info) (marshalAuthFile
    (login.authFile info env.now)), v.db⟩
  have hscanned : (importScanned fault t svc (login.accountKey info) (login.authFile info env.now) []
      true [] login.poolID (v'.db.findAccountByCpaKey svc.id (login.accountKey info))).run env v' =
      (.failed, ⟨v'.dir, leftBehind t svc (login.accountKey info) (login.authFile info env.now) []
        true [] env fault login.poolID v'.db⟩) :=
    run_importScanned_fails hfault hthere hpool
  unfold finalizeLogin TwoStep.NothingDone
  simp only [hinfo, Script.run_bind, Script.run_look,
    run_writeAuthFile hvalid (hfault .writeTemp (by decide)) (hfault .rename (by decide)),
    run_findAccountByCpaKey (hfault .lookup (by decide)), if_pos hpositive, Option.join_some]
  unfold importScanned at hscanned
  simp only [Script.run_bind] at hscanned
  refine ⟨congrArg Prod.fst hscanned, (iff_of_eq (congrArg (Unchanged v)
    (congrArg Prod.snd hscanned))).trans ((unchanged_leftBehind_iff hthere hmembers).trans ?_)⟩
  rw [written_eq_iff]
  constructor
  · intro hnothing info' hinfo'
    obtain rfl := Option.some.inj hinfo'
    exact hnothing
  · intro hnothing
    exact hnothing info rfl

end Handlers

/-- When the second step of an operation fails, the accounts, the members and the files are
what they were exactly when the first step had changed nothing that is to be taken back. -/
theorem second_step_iff {op : TwoStep} {fault : Stage → Fault} {t : Tokens} {env : StoreEnv}
    {v : Vault} (hfault : ∀ s, s ≠ op.second → fault s = .none)
    (h : op.SecondFails fault t env v) (hmembers : v.db.MembersNamed) :
    ((op.program fault t).run env v).1 = .failed ∧
      (Unchanged v ((op.program fault t).run env v).2 ↔ op.NothingDone fault t env v) := by
  cases op with
  | createAccount req poolID =>
    obtain ⟨hfailed, hchanged⟩ := createAccount_second hfault h
    exact ⟨hfailed, iff_of_false hchanged not_false⟩
  | importCpaAccount serviceID accountKey label enabled notes poolID =>
    exact importCpaAccount_second hfault hmembers h
  | batchImportCpaAccount svc poolID accountKey => exact batchImportCpaAccount_second hfault hmembers h
  | finalizeLogin svc login => exact finalizeLogin_second hfault hmembers h
  | deleteAccount id => exact deleteAccount_second hfault h

/-! ## A pool that is not there -/

/-- Tokens that state nothing, with an auth directory. -/
def authTokens : Tokens := { silentTokens with cpaAuthDir := lit "auth" }

/-- A moment. -/
def someMoment : StoreEnv := ⟨default, fun _ => []⟩

/-- A service, a credential file that is not imported, and no pool. -/
def unimported : Vault where
  dir := Table.empty.set (lit "k.json", lit "\x7b\x7d")
  db := { cpaServices := Table.empty.set { id := 1 } }

theorem unimported_secondFails :
    (TwoStep.importCpaAccount 1 (lit "k") [] true [] 9).SecondFails noFault authTokens someMoment
      unimported :=
  ⟨by decide, by decide, by decide, rfl, by decide +kernel, Or.inr rfl⟩

/-- The import of a new account into a pool that is not there takes the account back. -/
theorem unimported_unchanged :
    (((TwoStep.importCpaAccount 1 (lit "k") [] true [] 9).program noFault authTokens).run someMoment
        unimported).1 = .failed ∧
      Unchanged unimported (((TwoStep.importCpaAccount 1 (lit "k") [] true [] 9).program noFault
        authTokens).run someMoment unimported).2 := by
  obtain ⟨hfailed, hiff⟩ := second_step_iff (fun _ _ => rfl) unimported_secondFails
    fun _ h => absurd h List.not_mem_nil
  exact ⟨hfailed, hiff.mpr fun _ _ _ _ row hrow => absurd hrow List.not_mem_nil⟩

/-- An account of an OpenAI-compatible service. -/
def compatAccount : Account :=
  { id := 0, label := lit "mine", baseURL := lit "https://b", apiKey := lit "s" }

/-- A credential file with its account. -/
def importedVault : Vault where
  dir := Table.empty.set (lit "k.json", lit "\x7b\x7d")
  db := {
    cpaServices := Table.empty.set { id := 1 }
    accounts := Table.empty.set
      { id := 1, label := lit "mine", sourceKind := lit "cpa", cpaServiceID := some 1,
        cpaAccountKey := lit "k" } }

/-- `createAccount` with a pool that is not there leaves the account, `importCpaAccount` leaves
what it wrote to one that was there, and `deleteAccount` has deleted the file of an account
that stays. -/
theorem second_steps_leave_traces :
    ∃ fault : Stage → Fault, fault .deleteRow = .early ∧ (∀ s, s ≠ .deleteRow → fault s = .none) ∧
      (((createAccount noFault compatAccount 9).run someMoment unimported).1 = .failed ∧
        unimported.db.accounts.rows.length = 0 ∧
        ((createAccount noFault compatAccount 9).run someMoment unimported).2.db.accounts.rows.length
          = 1) ∧
      (((importCpaAccount noFault authTokens 1 (lit "k") (lit "new") true [] 9).run someMoment
          importedVault).1 = .failed ∧
        (((importCpaAccount noFault authTokens 1 (lit "k") (lit "new") true [] 9).run someMoment
          importedVault).2.db.accounts.rows.map AccountRow.label) = [lit "new"]) ∧
      ((deleteAccount fault authTokens 1).run someMoment importedVault).1 = .failed ∧
      ((deleteAccount fault authTokens 1).run someMoment importedVault).2.dir.get? (lit "k.json") =
        none ∧
      (((deleteAccount fault authTokens 1).run someMoment importedVault).2.db.accounts.find?
        1).isSome = true :=
  ⟨fun s => if s = .deleteRow then .early else .none, rfl, fun _ hs => if_neg hs,
    ⟨by decide +kernel, rfl, by decide +kernel⟩, ⟨by decide +kernel, by decide +kernel⟩,
    by decide +kernel, by decide +kernel, by decide +kernel⟩

end Lune.Admin
