import Lune.Admin.Vault
import Lune.Store.Access
import Mathlib.Data.List.Count

/-!
# What the steps of a handler do

The results of the steps of a handler that runs alone, and the rows of the accounts table
that have a given key.
-/

namespace Lune.Store.Database

open GoText Keyed

/-! ## The rows with a key -/

/-- The row is that of an account key of the service. -/
def hasKey (serviceID : Int) (accountKey : Str) (a : AccountRow) : Bool :=
  a.cpaServiceID == some serviceID && a.cpaAccountKey == accountKey

/-- How many rows have the key. -/
def keyCount (db : Database) (serviceID : Int) (accountKey : Str) : Nat :=
  db.accounts.rows.countP (hasKey serviceID accountKey)

section KeyCount

variable {db : Database} {env : StoreEnv} {serviceID : Int} {accountKey : Str}

theorem findAccountByCpaKey_eq_none :
    db.findAccountByCpaKey serviceID accountKey = none ↔ db.keyCount serviceID accountKey = 0 := by
  rw [findAccountByCpaKey, Option.map_eq_none_iff, List.find?_eq_none, keyCount, List.countP_eq_zero]
  rfl

/-- The account that is found is a row that has the key. -/
theorem of_findAccountByCpaKey {existing : Account}
    (h : db.findAccountByCpaKey serviceID accountKey = some existing) :
    ∃ row ∈ db.accounts.rows, hasKey serviceID accountKey row = true ∧
      existing = scanAccountRow row := by
  obtain ⟨row, hrow, rfl⟩ := Option.map_eq_some_iff.mp h
  exact ⟨row, List.mem_of_find?_eq_some hrow, List.find?_some hrow, rfl⟩

/-- An update that keeps the keys. -/
theorem keyCount_updateAccount {f : AccountRow → AccountRow} (id : Int)
    (hf : ∀ row, hasKey serviceID accountKey (f row) = hasKey serviceID accountKey row) :
    (db.updateAccount env id f).keyCount serviceID accountKey = db.keyCount serviceID accountKey := by
  show List.countP _ (List.map _ _) = _
  rw [List.countP_map]
  refine List.countP_congr fun row _ => ?_
  rw [Function.comp]
  split
  · exact iff_of_eq (congrArg (· = true) (hf row))
  · rfl

theorem keyCount_updateCpaAccountFromImport (id : Int) (account : Account) :
    (db.updateCpaAccountFromImport env id account).keyCount serviceID accountKey =
      db.keyCount serviceID accountKey :=
  keyCount_updateAccount id fun _ => rfl

/-- The id of a new row is new. -/
theorem find?_newAccount (sourceKind : Str) (account : Account) :
    db.accounts.find? (db.newAccount env sourceKind account).id = none :=
  Table.find?_next db.accounts

variable (env) in
theorem rows_createAccount (account : Account)
    (h : db.insertAccountFails (db.newAccount env
      (if account.sourceKind = [] then lit "openai_compat" else account.sourceKind) account) = false) :
    (db.createAccount env account).accounts.rows = db.accounts.rows ++ [db.newAccount env
      (if account.sourceKind = [] then lit "openai_compat" else account.sourceKind) account] := by
  unfold createAccount
  rw [if_neg (by rw [h]; decide)]
  exact Table.rows_set_of_fresh (find?_newAccount _ account)

/-- An account of a service that is there, with a key that no row has, can be added. -/
theorem insertAccountFails_eq_false {row : AccountRow} (hservice : row.cpaServiceID = some serviceID)
    (hthere : (db.cpaServices.find? serviceID).isSome = true)
    (hkey : db.keyCount serviceID row.cpaAccountKey = 0) : db.insertAccountFails row = false := by
  have hnone : ∀ other ∈ db.accounts.rows, ¬(other.sourceKind == lit "cpa" &&
      other.cpaServiceID == some serviceID && other.cpaAccountKey == row.cpaAccountKey) = true := by
    intro other hother hsame
    rw [Bool.and_assoc, Bool.and_eq_true] at hsame
    exact List.countP_eq_zero.mp hkey other hother hsame.2
  have hany := List.any_eq_false.mpr hnone
  have hsome : (db.cpaServices.find? serviceID).isNone = false := by
    rw [← Option.not_isSome, hthere]
    rfl
  simp only [insertAccountFails, hservice, hsome, hany, Bool.and_false, Bool.or_false]

variable (db) in
theorem addPoolMemberIdempotent_frame (poolID accountID : Int) :
    (db.addPoolMemberIdempotent poolID accountID).cpaServices = db.cpaServices ∧
      (db.addPoolMemberIdempotent poolID accountID).pools = db.pools := by
  unfold addPoolMemberIdempotent
  dsimp only
  split
  · exact ⟨rfl, rfl⟩
  · exact ⟨rfl, rfl⟩

theorem createAccount_frame (account : Account) :
    (db.createAccount env account).cpaServices = db.cpaServices ∧
      (db.createAccount env account).pools = db.pools ∧
      (db.createAccount env account).poolMembers = db.poolMembers := by
  let row := db.newAccount env
    (if account.sourceKind = [] then lit "openai_compat" else account.sourceKind) account
  by_cases hinsert : db.insertAccountFails row = true
  · rw [createAccount, if_pos hinsert]
    exact ⟨rfl, rfl, rfl⟩
  · rw [createAccount, if_neg hinsert]
    exact ⟨rfl, rfl, rfl⟩

end KeyCount

end Lune.Store.Database

namespace Lune.Admin

open GoText Keyed Scripts Lune.Store Lune.Health Lune.Cpa

/-! ## Steps -/

section Steps

variable {fault : Stage → Fault} {stage : Stage} {env : StoreEnv} {v w : Vault} {α : Type} {a : α}
  {f : StoreEnv → Vault → Option (Vault × α)}

theorem run_statement (hfault : fault stage = .none) (h : f env v = some (w, a)) :
    (statement fault stage f).run env v = (some a, w) := by
  rw [statement, Script.run_act]
  simp only [hfault, h]

theorem run_statement_of_none (h : fault stage = .none → f env v = none) :
    (statement fault stage f).run env v = (none, v) := by
  rw [statement, Script.run_act]
  cases hfault : fault stage with
  | none => simp only [h hfault]
  | early | late left => rfl

theorem run_readBack (hfault : fault stage = .none) (h : f env v = some (w, a)) :
    (readBack fault stage f).run env v = (some a, w) := by
  rw [readBack, Script.run_act]
  simp only [hfault, h]

theorem run_readBack_of_none (h : fault stage = .early ∨ f env v = none) :
    (readBack fault stage f).run env v = (none, v) := by
  rw [readBack, Script.run_act]
  rcases h with h | h
  · simp only [h]
  · cases hfault : fault stage <;> simp only [h]

/-- The step has its effect, but what it reads back is an error. -/
theorem run_readBack_late {left : Str} (hfault : fault stage = .late left)
    (h : f env v = some (w, a)) : (readBack fault stage f).run env v = (none, w) := by
  rw [readBack, Script.run_act]
  simp only [hfault, h]

end Steps

/-! ## The file -/

section File

variable {fault : Stage → Fault} {env : StoreEnv} {v : Vault} {accountKey : Str} {f : CpaAuthFile}

/-- A file is not the one that is written beside it. -/
theorem tempName_ne_fileName (accountKey : Str) : tempName accountKey ≠ fileName accountKey := by
  intro h
  have hlength := congrArg List.length h
  rw [tempName, List.length_append] at hlength
  have hfour : (lit ".tmp").length = 4 := by decide
  omega

theorem fileName_ne_tempName (k key : Str) : fileName k ≠ tempName key := by
  intro h
  have hlast := congrArg List.getLast? h
  have hjson : (lit ".json").getLast? = some 110 := by decide
  have htmp : (lit ".tmp").getLast? = some 112 := by decide
  rw [fileName, tempName, List.getLast?_append_of_ne_nil _ (by decide),
    List.getLast?_append_of_ne_nil _ (by decide), hjson, htmp] at hlast
  contradiction

/-- The auth directory after `WriteAuthFile`. -/
def written (dir : GoMap Str Str) (accountKey data : Str) : GoMap Str Str :=
  Table.erase ((dir.put (tempName accountKey) data).put (fileName accountKey) data)
    (tempName accountKey)

theorem get?_written (dir : GoMap Str Str) (accountKey data name : Str) :
    (written dir accountKey data).get? name =
      if name = tempName accountKey then none
      else if name = fileName accountKey then some data else dir.get? name := by
  rw [written, GoMap.get?_erase]
  by_cases htemp : name = tempName accountKey
  · rw [if_pos htemp, if_pos htemp]
  · rw [if_neg htemp, if_neg htemp, GoMap.get?_put]
    by_cases hfile : name = fileName accountKey
    · rw [if_pos hfile.symm, if_pos hfile]
    · rw [if_neg (Ne.symm hfile), if_neg hfile, GoMap.get?_put, if_neg (Ne.symm htemp)]

theorem run_writeAuthFile (hkey : validateAccountKey accountKey = true)
    (htemp : fault .writeTemp = .none) (hrename : fault .rename = .none) :
    (writeAuthFile fault accountKey f).run env v =
      (some (), { v with dir := written v.dir accountKey (marshalAuthFile f) }) := by
  have hwritten : (v.dir.put (tempName accountKey) (marshalAuthFile f)).get? (tempName accountKey) =
      some (marshalAuthFile f) := by
    rw [GoMap.get?_put, if_pos rfl]
  have hrun : (renameTemp fault accountKey).run env
      { v with dir := v.dir.put (tempName accountKey) (marshalAuthFile f) } =
        (some (), { v with dir := written v.dir accountKey (marshalAuthFile f) }) :=
    run_statement hrename (congrArg (Option.map _) hwritten)
  rw [writeAuthFile, if_neg (by rw [hkey]; decide), Script.run_bind]
  simp only [writeTemp, Script.run_act, htemp]
  exact hrun

end File

/-! ## The import of one account -/

section Upsert

variable (fault : Stage → Fault) (t : Tokens) (svc : CpaService) (accountKey : Str) (f : CpaAuthFile)
  (label : Str) (enabled : Bool) (notes : Str) (env : StoreEnv)

/-- `upsertImportedCpaAccount` reports an error. -/
def UpsertFails (db : Database) : Prop :=
  fault .find ≠ .none ∨
    match db.findAccountByCpaKey svc.id accountKey with
    | some _ => fault .update ≠ .none
    | none =>
      fault .create ≠ .none ∨
        db.insertAccountFails (db.newAccount env (lit "cpa")
          (importedCpaAccountTemplate t env.now svc accountKey f label enabled notes)) = true

/-- The database and the account after `upsertImportedCpaAccount`. -/
def upserted (db : Database) : Database × Int :=
  let account := importedCpaAccountTemplate t env.now svc accountKey f label enabled notes
  match db.findAccountByCpaKey svc.id accountKey with
  | some existing =>
    (db.updateCpaAccountFromImport env existing.id
      { account with
        id := existing.id
        label := if isBlank label then existing.label else account.label
        notes := if isBlank notes then existing.notes else account.notes }, existing.id)
  | none => (db.createAccount env account, (db.newAccount env (lit "cpa") account).id)

variable {fault t svc accountKey f label enabled notes env} {v : Vault}

theorem run_findAccountByCpaKey {stage : Stage} (h : fault stage = .none) (serviceID : Int) :
    (findAccountByCpaKey fault stage serviceID accountKey).run env v =
      (some (v.db.findAccountByCpaKey serviceID accountKey), v) :=
  run_statement h rfl

theorem run_updateCpaAccountFromImport (h : fault .update = .none) (id : Int) (account : Account) :
    (updateCpaAccountFromImport fault id account).run env v =
      (some (), { v with db := v.db.updateCpaAccountFromImport env id account }) :=
  run_statement h rfl

theorem run_insertAccount {account : Account} (h : fault .create = .none)
    (hkind : account.sourceKind = lit "cpa")
    (hinsert : v.db.insertAccountFails (v.db.newAccount env (lit "cpa") account) = false) :
    (insertAccount fault account).run env v =
      (some (some (v.db.newAccount env (lit "cpa") account).id),
        { v with db := v.db.createAccount env account }) := by
  have hcpa : lit "cpa" ≠ [] := by decide
  refine run_statement h ?_
  simp only [hkind, if_neg hcpa, hinsert, Bool.false_eq_true, if_false]

theorem run_insertAccount_constraint {account : Account} (h : fault .create = .none)
    (hkind : account.sourceKind = lit "cpa")
    (hinsert : v.db.insertAccountFails (v.db.newAccount env (lit "cpa") account) = true) :
    (insertAccount fault account).run env v = (some none, v) := by
  have hcpa : lit "cpa" ≠ [] := by decide
  refine run_statement h ?_
  simp only [hkind, if_neg hcpa, hinsert, if_true]

theorem run_upsertImported
    (h : ¬UpsertFails fault t svc accountKey f label enabled notes env v.db) :
    (upsertImported fault t svc accountKey f label enabled notes).run env v =
      (some (upserted t svc accountKey f label enabled notes env v.db).2,
        { v with db := (upserted t svc accountKey f label enabled notes env v.db).1 }) := by
  unfold UpsertFails at h
  unfold upsertImported upserted
  obtain ⟨hfind, hrest⟩ := not_or.mp h
  have hfind := not_not.mp hfind
  simp only [Script.run_bind, Script.run_look, run_findAccountByCpaKey hfind]
  cases hfound : v.db.findAccountByCpaKey svc.id accountKey with
  | some existing =>
    rw [hfound] at hrest
    simp only [updateImported, Script.run_bind,
      run_updateCpaAccountFromImport (not_not.mp hrest), Script.run_pure]
  | none =>
    rw [hfound] at hrest
    obtain ⟨hcreate, hinsert⟩ := not_or.mp hrest
    simp only [Script.run_bind,
      run_insertAccount (not_not.mp hcreate) rfl (Bool.eq_false_of_not_eq_true hinsert), Script.run_pure]

theorem run_upsertImported_of_fails
    (h : UpsertFails fault t svc accountKey f label enabled notes env v.db) :
    (upsertImported fault t svc accountKey f label enabled notes).run env v = (none, v) := by
  unfold UpsertFails at h
  unfold upsertImported
  by_cases hfind : fault .find = .none
  · have hrest := h.resolve_left (not_not.mpr hfind)
    simp only [Script.run_bind, Script.run_look, run_findAccountByCpaKey hfind]
    cases hfound : v.db.findAccountByCpaKey svc.id accountKey with
    | some existing =>
      rw [hfound] at hrest
      have hupdate : ∀ id account, (updateCpaAccountFromImport fault id account).run env v =
          (none, v) := fun _ _ => run_statement_of_none fun hnone => absurd hnone hrest
      simp only [updateImported, Script.run_bind, hupdate, Script.run_pure]
    | none =>
      rw [hfound] at hrest
      by_cases hcreate : fault .create = .none
      · have hinsert := hrest.resolve_left (not_not.mpr hcreate)
        simp only [Script.run_bind, run_insertAccount_constraint hcreate rfl hinsert,
          run_findAccountByCpaKey hfind, hfound, Script.run_pure]
      · have hinsert : ∀ account, (insertAccount fault account).run env v = (none, v) :=
          fun _ => run_statement_of_none fun hnone => absurd hnone hcreate
        simp only [Script.run_bind, hinsert, Script.run_pure]
  · have hfound : (findAccountByCpaKey fault .find svc.id accountKey).run env v = (none, v) :=
      run_statement_of_none fun hnone => absurd hnone hfind
    simp only [Script.run_bind, Script.run_look, hfound, Script.run_pure]

end Upsert

/-! ## Imports that succeed -/

/-- No step fails. -/
def noFault : Stage → Fault := fun _ => .none

theorem noFault_eq (stage : Stage) : noFault stage = .none := rfl

section Success

variable {t : Tokens} {svc : CpaService} {accountKey : Str} {f : CpaAuthFile} {label : Str}
  {enabled : Bool} {notes : Str} {env : StoreEnv} {db : Database} {v : Vault}

/-- The key is that of a row, and no other row is added. -/
structure Upserted (svc : CpaService) (accountKey : Str) (db db' : Database) (id : Int) : Prop where
  services : db'.cpaServices = db.cpaServices
  pools : db'.pools = db.pools
  count : db'.keyCount svc.id accountKey = max 1 (db.keyCount svc.id accountKey)
  account : (db'.accounts.find? id).isSome = true

variable (t accountKey f label enabled notes env) in
/-- The import of an account of a service that is there fails only when one of its statements
does. -/
theorem not_upsertFails {fault : Stage → Fault} (hfind : fault .find = .none)
    (hupdate : fault .update = .none) (hcreate : fault .create = .none)
    (hservice : (db.cpaServices.find? svc.id).isSome = true) :
    ¬UpsertFails fault t svc accountKey f label enabled notes env db := by
  intro h
  unfold UpsertFails at h
  have hrest := h.resolve_left (not_not.mpr hfind)
  cases hfound : db.findAccountByCpaKey svc.id accountKey with
  | some existing =>
    rw [hfound] at hrest
    exact hrest hupdate
  | none =>
    rw [hfound] at hrest
    have hinsert := hrest.resolve_left (not_not.mpr hcreate)
    rw [Database.insertAccountFails_eq_false rfl hservice
      (Database.findAccountByCpaKey_eq_none.mp hfound)] at hinsert
    contradiction

variable (t accountKey f label enabled notes env) in
theorem upserted_spec (hservice : (db.cpaServices.find? svc.id).isSome = true) :
    Upserted svc accountKey db (upserted t svc accountKey f label enabled notes env db).1
      (upserted t svc accountKey f label enabled notes env db).2 := by
  unfold upserted
  cases hfound : db.findAccountByCpaKey svc.id accountKey with
  | some existing =>
    obtain ⟨row, hrow, hkey, rfl⟩ := Database.of_findAccountByCpaKey hfound
    have hpos : 0 < db.keyCount svc.id accountKey := List.countP_pos_iff.mpr ⟨row, hrow, hkey⟩
    refine ⟨rfl, rfl, ?_, ?_⟩
    · rw [Database.keyCount_updateCpaAccountFromImport]
      omega
    · show (Table.find? (Database.updateCpaAccountFromImport db env row.id _).accounts
        row.id).isSome = true
      rw [Database.updateCpaAccountFromImport,
        Database.find?_updateAccount_self env (Database.importedAccount env _) (fun _ => rfl)
          (Table.find?_of_mem hrow)]
      rfl
  | none =>
    have hzero := Database.findAccountByCpaKey_eq_none.mp hfound
    have hrows := Database.rows_createAccount env (importedCpaAccountTemplate t env.now svc
      accountKey f label enabled notes)
      (Database.insertAccountFails_eq_false rfl hservice hzero)
    have hnew : Database.hasKey svc.id accountKey (db.newAccount env (lit "cpa")
        (importedCpaAccountTemplate t env.now svc accountKey f label enabled notes)) = true := by
      simp [Database.hasKey, Database.newAccount, importedCpaAccountTemplate]
    refine ⟨(Database.createAccount_frame _).1, (Database.createAccount_frame _).2.1, ?_, ?_⟩
    · have hone : List.countP (Database.hasKey svc.id accountKey) [db.newAccount env (lit "cpa")
          (importedCpaAccountTemplate t env.now svc accountKey f label enabled notes)] = 1 := by
        rw [List.countP_singleton, if_pos hnew]
      have hadded := congrArg (List.countP (Database.hasKey svc.id accountKey)) hrows
      rw [List.countP_append] at hadded
      have hcount := hadded.trans (congrArg₂ (· + ·) hzero hone)
      rw [hzero]
      exact hcount
    · refine Option.isSome_iff_exists.mpr ⟨_, Table.find?_eq_some_iff.mpr ⟨?_, rfl⟩⟩
      rw [hrows]
      exact List.mem_append_right _ List.mem_cons_self

variable (env) in
theorem run_addPoolMemberIdempotent {fault : Stage → Fault} (hfault : fault .member = .none)
    {poolID accountID : Int} (hpool : (v.db.pools.find? poolID).isSome = true)
    (haccount : (v.db.accounts.find? accountID).isSome = true) :
    (addPoolMemberIdempotent fault poolID accountID).run env v =
      (some (), { v with db := v.db.addPoolMemberIdempotent poolID accountID }) := by
  refine run_readBack hfault (if_neg ?_)
  rw [Database.addPoolMemberFails, ← Option.not_isSome, ← Option.not_isSome, hpool, haccount]
  decide

/-- What an import that succeeds makes of the files and the rows. -/
structure Imported (svc : CpaService) (accountKey data : Str) (v w : Vault) : Prop where
  dir : w.dir = written v.dir accountKey data
  services : w.db.cpaServices = v.db.cpaServices
  pools : w.db.pools = v.db.pools
  count : w.db.keyCount svc.id accountKey = max 1 (v.db.keyCount svc.id accountKey)

/-- The database after an import and its membership. -/
theorem imported_of_member (hservice : (v.db.cpaServices.find? svc.id).isSome = true) (data : Str)
    (poolID : Int) :
    Imported svc accountKey data v
      ⟨written v.dir accountKey data,
        (upserted t svc accountKey f label enabled notes env v.db).1.addPoolMemberIdempotent poolID
          (upserted t svc accountKey f label enabled notes env v.db).2⟩ := by
  have hspec := upserted_spec t accountKey f label enabled notes env hservice
  obtain ⟨hservices, hpools⟩ := Database.addPoolMemberIdempotent_frame
    (upserted t svc accountKey f label enabled notes env v.db).1 poolID
    (upserted t svc accountKey f label enabled notes env v.db).2
  refine ⟨rfl, hservices.trans hspec.services, hpools.trans hspec.pools, ?_⟩
  rw [← hspec.count]
  exact congrArg (fun accounts => List.countP _ (Table.rows accounts))
    (Database.accounts_addPoolMemberIdempotent _ _ _)

/-- A device login that succeeds. -/
theorem run_finalizeLogin {login : Login} {info : AccountInfo}
    (hlogin : parseAccountInfoFromTokens login.idToken login.accessToken = some info)
    (hkey : validateAccountKey (login.accountKey info) = true)
    (hservice : (v.db.cpaServices.find? svc.id).isSome = true)
    (hpool : 0 < login.poolID → (v.db.pools.find? login.poolID).isSome = true) :
    Imported svc (login.accountKey info) (marshalAuthFile (login.authFile info env.now)) v
      ((finalizeLogin noFault t svc login).run env v).2 := by
  have hspec := upserted_spec t (login.accountKey info) (login.authFile info env.now) [] true [] env
    hservice
  have hupsert := fun dir => run_upsertImported (v := ⟨dir, v.db⟩) (not_upsertFails t
    (login.accountKey info) (login.authFile info env.now) [] true [] env (noFault_eq .find)
    (noFault_eq .update) (noFault_eq .create) hservice)
  have hmember := fun dir (hpositive : 0 < login.poolID) =>
    run_addPoolMemberIdempotent env (noFault_eq .member) (v := ⟨dir, (upserted t svc
      (login.accountKey info) (login.authFile info env.now) [] true [] env v.db).1⟩)
      (hspec.pools ▸ hpool hpositive) hspec.account
  unfold finalizeLogin
  rw [hlogin]
  simp only [Script.run_bind, Script.run_look,
    run_writeAuthFile hkey (noFault_eq .writeTemp) (noFault_eq .rename),
    run_findAccountByCpaKey (noFault_eq .lookup), hupsert, Script.run_ite]
  split
  next hpositive =>
    simp only [hmember _ hpositive, Script.run_pure]
    exact imported_of_member hservice _ _
  · exact ⟨rfl, hspec.services, hspec.pools, hspec.count⟩

theorem run_readAuthFile {fault : Stage → Fault} (h : fault .readFile = .none) :
    (readAuthFile fault accountKey).run env v = (v.authFile accountKey, v) := by
  cases hfile : v.authFile accountKey with
  | none => exact run_statement_of_none fun _ => congrArg (Option.map _) hfile
  | some file => exact run_statement h (congrArg (Option.map _) hfile)

/-- Whether the file that is there names another account. -/
def mismatches (fault : Stage → Fault) (v : Vault) (accountKey : Str) (f : CpaAuthFile) : Bool :=
  (v.dir.get? (fileName accountKey)).isSome && fault .readFile == .none &&
    (v.authFile accountKey).any fun existingAuth => authIdentityMismatch existingAuth f

/-- To find that out only takes a look. -/
theorem run_identityMismatch (fault : Stage → Fault) :
    (identityMismatch fault accountKey f (v.dir.get? (fileName accountKey))).run env v =
      (mismatches fault v accountKey f, v) := by
  unfold mismatches
  cases v.dir.get? (fileName accountKey) with
  | none => rfl
  | some data =>
    rw [identityMismatch, Script.run_bind]
    by_cases hfault : fault .readFile = .none
    · rw [run_readAuthFile hfault, hfault]
      cases v.authFile accountKey with
      | none => rfl
      | some existingAuth => rfl
    · have hread : (readAuthFile fault accountKey).run env v = (none, v) :=
        run_statement_of_none fun hnone => absurd hnone hfault
      rw [hread, beq_false_of_ne hfault]
      rfl

/-- An upload that succeeds, or that is refused for the file that is there. -/
theorem run_importCpaAuthJSON {poolID : Int} (hkey : validateAccountKey accountKey = true)
    (hdir : t.cpaAuthDir ≠ []) (hservice : v.db.cpaServices.rows.head? = some svc)
    (hpoolID : poolID ≠ 0) (hpool : (v.db.pools.find? poolID).isSome = true) :
    ((importCpaAuthJSON noFault t f accountKey label enabled notes poolID).run env v).2 = v ∨
      Imported svc accountKey (marshalAuthFile f) v
        ((importCpaAuthJSON noFault t f accountKey label enabled notes poolID).run env v).2 := by
  have hthere : (v.db.cpaServices.find? svc.id).isSome = true := by
    rw [Table.find?_of_mem (List.mem_of_mem_head? hservice)]
    rfl
  have hspec := upserted_spec t accountKey f label enabled notes env hthere
  have hupsert := fun dir => run_upsertImported (v := ⟨dir, v.db⟩) (not_upsertFails t accountKey f
    label enabled notes env (noFault_eq .find) (noFault_eq .update) (noFault_eq .create) hthere)
  have hmember := fun dir => run_addPoolMemberIdempotent env (noFault_eq .member) (v := ⟨dir,
    (upserted t svc accountKey f label enabled notes env v.db).1⟩) (hspec.pools ▸ hpool) hspec.account
  have hlookup : (statement noFault .service fun _ v => some (v, v.db.cpaServices.rows.head?)).run
      env v = (some (some svc), v) := run_statement rfl (by rw [hservice])
  have hread : (readAuthFileBytes noFault .readExisting accountKey).run env v =
      (some (v.dir.get? (fileName accountKey)), v) := run_statement rfl rfl
  unfold importCpaAuthJSON replaceAuthFile importUploaded
  rw [if_neg (not_or.mpr ⟨hdir, hpoolID⟩)]
  simp only [Script.run_bind, hlookup, hread, run_identityMismatch]
  cases mismatches noFault v accountKey f with
  | true => exact Or.inl rfl
  | false =>
    refine Or.inr ?_
    simp only [Bool.false_eq_true, if_false, Script.run_bind,
      run_findAccountByCpaKey (noFault_eq .lookup),
      run_writeAuthFile hkey (noFault_eq .writeTemp) (noFault_eq .rename), hupsert, hmember,
      Script.run_pure]
    exact imported_of_member hthere _ _

end Success

end Lune.Admin
