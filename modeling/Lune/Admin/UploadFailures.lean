import Lune.Admin.SecondSteps

/-!
# Uploads that fail

`importCpaAuthJSON` takes back what it did by hand; `importSingleCpaAuthJSONBatchItem` does
so for the file and leaves the rows to a transaction, which is read back after its commit.
What either leaves when a step fails.
-/

namespace Lune.Admin

open GoText Keyed Scripts Lune.Store Lune.Health Lune.Cpa

/-- The accounts, apart from `updated_at`, the members and the files are what they were. -/
structure PutBack (v w : Vault) : Prop where
  accounts : w.db.accounts.rows.map Database.content = v.db.accounts.rows.map Database.content
  members : w.db.poolMembers.rows = v.db.poolMembers.rows
  files : ∀ name, w.dir.get? name = v.dir.get? name

theorem putBack_self (v : Vault) : PutBack v v := ⟨rfl, rfl, fun _ => rfl⟩

/-! ## The file -/

section File

variable {fault : Stage → Fault} {env : StoreEnv} {v : Vault} {accountKey data : Str}
  {dir : GoMap Str Str} {f : CpaAuthFile}

theorem put_eq_iff {name : Str} :
    (∀ other, (dir.put name data).get? other = dir.get? other) ↔ dir.get? name = some data := by
  constructor
  · intro h
    have hname := h name
    rw [GoMap.get?_put, if_pos rfl] at hname
    exact hname.symm
  · intro h other
    rw [GoMap.get?_put]
    by_cases hother : name = other
    · rw [if_pos hother, ← hother, h]
    · rw [if_neg hother]

/-- The auth directory after `WriteAuthFile` and `rollbackAuthFile`. -/
def restoredDir (dir : GoMap Str Str) (accountKey data : Str) : GoMap Str Str :=
  match dir.get? (fileName accountKey) with
  | some old => (written dir accountKey data).put (fileName accountKey) old
  | none => Table.erase (written dir accountKey data) (fileName accountKey)

theorem get?_restoredDir (name : Str) :
    (restoredDir dir accountKey data).get? name =
      if name = tempName accountKey then none else dir.get? name := by
  unfold restoredDir
  cases hold : dir.get? (fileName accountKey) with
  | some old =>
    dsimp only
    rw [GoMap.get?_put]
    by_cases hname : fileName accountKey = name
    · rw [if_pos hname, ← hname, if_neg (tempName_ne_fileName accountKey).symm, hold]
    · rw [if_neg hname, get?_written, if_neg (Ne.symm hname)]
  | none =>
    dsimp only
    rw [GoMap.get?_erase]
    by_cases hname : name = fileName accountKey
    · rw [if_pos hname, hname, if_neg (tempName_ne_fileName accountKey).symm, hold]
    · rw [if_neg hname, get?_written, if_neg hname]

/-- The files are what they were when none had been half written. -/
theorem restoredDir_eq_iff :
    (∀ name, (restoredDir dir accountKey data).get? name = dir.get? name) ↔
      dir.get? (tempName accountKey) = none := by
  constructor
  · intro h
    have htemp := h (tempName accountKey)
    rw [get?_restoredDir, if_pos rfl] at htemp
    exact htemp.symm
  · intro h name
    rw [get?_restoredDir]
    by_cases hname : name = tempName accountKey
    · rw [if_pos hname, hname, h]
    · rw [if_neg hname]

variable (env dir data) in
theorem run_rollbackAuthFile (hrestore : fault .restoreFile = .none)
    (hremove : fault .removeFile = .none) (hkey : validateAccountKey accountKey = true)
    (db : Database) :
    (rollbackAuthFile fault accountKey (dir.get? (fileName accountKey))).run env
        ⟨written dir accountKey data, db⟩ =
      (some (), ⟨restoredDir dir accountKey data, db⟩) := by
  unfold rollbackAuthFile restoredDir
  cases dir.get? (fileName accountKey) with
  | some old => exact run_statement hrestore rfl
  | none => exact run_statement hremove (if_neg (by rw [hkey]; decide))

/-- What a write that fails leaves is what was there. -/
def WriteKept (fault : Stage → Fault) (dir : GoMap Str Str) (accountKey data : Str) : Prop :=
  (∀ left, fault .writeTemp = .late left → dir.get? (tempName accountKey) = some left) ∧
    (fault .writeTemp = .none → fault .rename ≠ .none →
      dir.get? (tempName accountKey) = some data)

variable (env v f) in
/-- A `WriteAuthFile` that reports an error. -/
theorem run_writeAuthFile_fails (hkey : validateAccountKey accountKey = true)
    (h : ¬(fault .writeTemp = .none ∧ fault .rename = .none)) :
    ∃ dir, (writeAuthFile fault accountKey f).run env v = (none, { v with dir := dir }) ∧
      ((∀ name, dir.get? name = v.dir.get? name) ↔
        WriteKept fault v.dir accountKey (marshalAuthFile f)) := by
  rw [writeAuthFile, if_neg (by rw [hkey]; decide)]
  unfold WriteKept
  cases htemp : fault .writeTemp with
  | none =>
    have hrename : fault .rename ≠ .none := fun hnone => h ⟨htemp, hnone⟩
    refine ⟨v.dir.put (tempName accountKey) (marshalAuthFile f), ?_, ?_⟩
    · have hfails : ∀ w, (renameTemp fault accountKey).run env w = (none, w) :=
        fun _ => run_statement_of_none fun hnone => absurd hnone hrename
      simp only [Script.run_bind, writeTemp, Script.run_act, htemp, hfails]
    · rw [put_eq_iff]
      exact ⟨fun h => ⟨fun _ => Fault.noConfusion, fun _ _ => h⟩, fun h => h.2 rfl hrename⟩
  | early =>
    refine ⟨v.dir, ?_, iff_of_true (fun _ => rfl) ⟨fun _ => Fault.noConfusion, Fault.noConfusion⟩⟩
    simp only [Script.run_bind, writeTemp, Script.run_act, htemp, Script.run_pure]
  | late left =>
    refine ⟨v.dir.put (tempName accountKey) left, ?_, ?_⟩
    · simp only [Script.run_bind, writeTemp, Script.run_act, htemp, Script.run_pure]
    · rw [put_eq_iff]
      constructor
      · intro h
        refine ⟨fun other hother => ?_, Fault.noConfusion⟩
        rw [h, (Fault.late.inj hother)]
      · intro h
        exact h.1 left rfl

end File

/-! ## The rows of an account that was there -/

section Existing

variable {fault : Stage → Fault} {t : Tokens} {svc : CpaService} {accountKey : Str}
  {f : CpaAuthFile} {label : Str} {enabled : Bool} {notes : Str} {env : StoreEnv} {db : Database}
  {poolID : Int} {row : AccountRow}

variable (fault t f label enabled notes env poolID) in
/-- An account that was imported over, and restored when it could not join the pool. -/
theorem restored_after_member_iff (hrow : row ∈ db.accounts.rows)
    (hfound : db.findAccountByCpaKey svc.id accountKey = some (scanAccountRow row))
    (hservice : (db.cpaServices.find? svc.id).isSome = true) :
    let up := upserted t svc accountKey f label enabled notes env db
    let left := (memberLeft fault up.1 poolID up.2).restoreCpaAccountImportSnapshot env
      (scanAccountRow row)
    (left.accounts.rows.map Database.content = db.accounts.rows.map Database.content ∧
        left.poolMembers.rows = db.poolMembers.rows) ↔
      Database.StatusesSet row ∧ MemberKept fault db poolID row.id := by
  have hkept : MemberKept fault (upserted t svc accountKey f label enabled notes env db).1 poolID
        (upserted t svc accountKey f label enabled notes env db).2 ↔
      MemberKept fault db poolID row.id := memberKept_upserted hrow hfound hservice
  have hmembers : (upserted t svc accountKey f label enabled notes env db).1.poolMembers =
      db.poolMembers := by
    rw [upserted_existing hfound]
    rfl
  rw [← hkept, ← rows_memberLeft_iff, hmembers]
  dsimp only
  rw [Database.accounts_restore_congr accounts_memberLeft]
  refine and_congr_left fun _ => ?_
  rw [upserted_existing hfound]
  exact Database.restored_rows_iff hrow _

end Existing

/-! ## What both uploads start with -/

section Replace

variable (fault : Stage → Fault) (f : CpaAuthFile) (accountKey : Str) (v : Vault)

/-- The file is written. -/
def WriteReached : Prop :=
  fault .readExisting = .none ∧ mismatches fault v accountKey f = false ∧ fault .lookup = .none ∧
    validateAccountKey accountKey = true

variable {fault f accountKey v} {svc : CpaService} {env : StoreEnv}

/-- An upload leaves what was there when it fails exactly when the write does, and what comes
after it. -/
theorem replaceAuthFile_restored_iff {next : Option Str → Option Account → VaultScript Outcome}
    {P : Prop} (hnext : WriteReached fault f accountKey v →
      let w := (next (v.dir.get? (fileName accountKey)) (v.db.findAccountByCpaKey svc.id
        accountKey)).run env ⟨written v.dir accountKey (marshalAuthFile f), v.db⟩
      ((∀ id, w.1 ≠ .done id) → PutBack v w.2) ↔ P) :
    let w := (replaceAuthFile fault svc f accountKey next).run env v
    ((∀ id, w.1 ≠ .done id) → PutBack v w.2) ↔
      (WriteReached fault f accountKey v →
        WriteKept fault v.dir accountKey (marshalAuthFile f) ∧
          (fault .writeTemp = .none → fault .rename = .none → P)) := by
  unfold replaceAuthFile
  by_cases hread : fault .readExisting = .none
  swap
  · have hfails : (readAuthFileBytes fault .readExisting accountKey).run env v = (none, v) :=
      run_statement_of_none fun hnone => absurd hnone hread
    simp only [Script.run_bind, hfails, Script.run_pure]
    exact iff_of_true (fun _ => putBack_self v) fun h => absurd h.1 hread
  have hbytes : (readAuthFileBytes fault .readExisting accountKey).run env v =
      (some (v.dir.get? (fileName accountKey)), v) := run_statement hread rfl
  simp only [Script.run_bind, hbytes, run_identityMismatch]
  cases hmismatch : mismatches fault v accountKey f with
  | true =>
    simp only [if_true, Script.run_pure]
    exact iff_of_true (fun _ => putBack_self v) fun h =>
      absurd (h.2.1.symm.trans hmismatch) (by decide)
  | false =>
    simp only [Bool.false_eq_true, if_false]
    by_cases hlookup : fault .lookup = .none
    swap
    · have hfails : (findAccountByCpaKey fault .lookup svc.id accountKey).run env v = (none, v) :=
        run_statement_of_none fun hnone => absurd hnone hlookup
      simp only [Script.run_bind, hfails, Script.run_pure]
      exact iff_of_true (fun _ => putBack_self v) fun h => absurd h.2.2.1 hlookup
    simp only [Script.run_bind, run_findAccountByCpaKey hlookup]
    by_cases hvalid : validateAccountKey accountKey = true
    swap
    · have hfails : (writeAuthFile fault accountKey f).run env v = (none, v) := by
        rw [writeAuthFile, if_pos (by rw [Bool.eq_false_of_not_eq_true hvalid]; rfl)]
        rfl
      simp only [hfails, Script.run_pure]
      exact iff_of_true (fun _ => putBack_self v) fun h => absurd h.2.2.2 hvalid
    have hreach : WriteReached fault f accountKey v := ⟨hread, hmismatch, hlookup, hvalid⟩
    by_cases hwrite : fault .writeTemp = .none ∧ fault .rename = .none
    · obtain ⟨htemp, hrename⟩ := hwrite
      simp only [run_writeAuthFile hvalid htemp hrename]
      refine (hnext hreach).trans ⟨fun h _ => ⟨⟨?_, ?_⟩, fun _ _ => h⟩, fun h => (h hreach).2 htemp hrename⟩
      · exact fun _ hlate => absurd (htemp.symm.trans hlate) Fault.noConfusion
      · exact fun _ hfails => absurd hrename hfails
    · obtain ⟨dir, hrun, hiff⟩ := run_writeAuthFile_fails env v f hvalid hwrite
      simp only [hrun, Script.run_pure]
      constructor
      · intro h _
        exact ⟨hiff.mp (h fun _ => Outcome.noConfusion).files,
          fun htemp hrename => absurd ⟨htemp, hrename⟩ hwrite⟩
      · intro h _
        exact ⟨rfl, rfl, hiff.mpr (h hreach).1⟩

end Replace

/-! ## One file -/

section Upload

variable (fault : Stage → Fault) (t : Tokens) (svc : CpaService) (f : CpaAuthFile)
  (accountKey label : Str) (enabled : Bool) (notes : Str) (poolID : Int) (env : StoreEnv) (v : Vault)

/-- What a failed import of an upload takes back is all of it: no file was half written before,
and, when an account that was there cannot join the pool, its snapshot has all of it and it was
in the pool if it is now. -/
def UploadKept : Prop :=
  (UpsertFails fault t svc accountKey f label enabled notes env v.db →
      v.dir.get? (tempName accountKey) = none) ∧
    (¬UpsertFails fault t svc accountKey f label enabled notes env v.db →
      PoolFails fault v.db poolID →
      v.dir.get? (tempName accountKey) = none ∧
        ∀ row ∈ v.db.accounts.rows,
          v.db.findAccountByCpaKey svc.id accountKey = some (scanAccountRow row) →
          Database.StatusesSet row ∧ MemberKept fault v.db poolID row.id)

variable {fault t svc f accountKey label enabled notes poolID env v}

theorem importUploaded_restored_iff (hrestore : fault .restoreFile = .none)
    (hremove : fault .removeFile = .none) (hrow : fault .restoreRow = .none)
    (horphan : fault .deleteOrphan = .none) (hmembers : v.db.MembersNamed)
    (hthere : (v.db.cpaServices.find? svc.id).isSome = true)
    (hvalid : validateAccountKey accountKey = true) :
    let w := (importUploaded fault t svc f accountKey label enabled notes poolID
      (v.dir.get? (fileName accountKey)) (v.db.findAccountByCpaKey svc.id accountKey)).run env
        ⟨written v.dir accountKey (marshalAuthFile f), v.db⟩
    ((∀ id, w.1 ≠ .done id) → PutBack v w.2) ↔
      UploadKept fault t svc f accountKey label enabled notes poolID env v := by
  have hspec := upserted_spec t accountKey f label enabled notes env hthere
  have hrollback := run_rollbackAuthFile env (marshalAuthFile f) v.dir hrestore hremove hvalid
  let u : Vault := ⟨written v.dir accountKey (marshalAuthFile f), v.db⟩
  unfold importUploaded UploadKept
  by_cases hup : UpsertFails fault t svc accountKey f label enabled notes env v.db
  · have hrun : (upsertImported fault t svc accountKey f label enabled notes).run env u = (none, u) :=
      run_upsertImported_of_fails hup
    simp only [Script.run_bind, hrun, u, hrollback, Script.run_pure]
    constructor
    · intro h
      exact ⟨fun _ => restoredDir_eq_iff.mp (h fun _ => Outcome.noConfusion).files,
        fun hnot => absurd hup hnot⟩
    · intro h _
      exact ⟨rfl, rfl, restoredDir_eq_iff.mpr (h.1 hup)⟩
  have hrun : (upsertImported fault t svc accountKey f label enabled notes).run env u =
      (some (upserted t svc accountKey f label enabled notes env v.db).2,
        ⟨u.dir, (upserted t svc accountKey f label enabled notes env v.db).1⟩) :=
    run_upsertImported hup
  by_cases hpool : PoolFails fault v.db poolID
  · have hmember := run_member_after_import env hpool u.dir hspec.pools
    simp only [Script.run_bind, u, hrun, hmember]
    cases hfound : v.db.findAccountByCpaKey svc.id accountKey with
    | none =>
      have hinsert : v.db.insertAccountFails (v.db.newAccount env (lit "cpa")
          (importedCpaAccountTemplate t env.now svc accountKey f label enabled notes)) = false :=
        Database.insertAccountFails_eq_false rfl hthere
          (Database.findAccountByCpaKey_eq_none.mp hfound)
      have hdropped := dropped_rows fault poolID hfound hinsert hmembers
      have herase : ∀ id w, (eraseAccount fault .deleteOrphan id).run env w =
          (some (), { w with db := w.db.deleteAccount id }) := fun _ _ => run_statement horphan rfl
      simp only [Script.run_bind, herase, hrollback, Script.run_pure]
      constructor
      · intro h
        refine ⟨fun hfails => absurd hfails hup, fun _ _ => ⟨?_, fun _ _ hnone => ?_⟩⟩
        · exact restoredDir_eq_iff.mp (h fun _ => Outcome.noConfusion).files
        · contradiction
      · intro h _
        exact ⟨congrArg (List.map _) hdropped.1, hdropped.2,
          restoredDir_eq_iff.mpr (h.2 hup hpool).1⟩
    | some existing =>
      obtain ⟨row, hmem, -, rfl⟩ := Database.of_findAccountByCpaKey hfound
      have hrestored := restored_after_member_iff fault t f label enabled notes env poolID hmem
        hfound hthere
      have hsnapshot : ∀ w, (restoreSnapshot fault (scanAccountRow row)).run env w =
          (some (), { w with db := w.db.restoreCpaAccountImportSnapshot env (scanAccountRow row) }) :=
        fun _ => run_statement hrow rfl
      simp only [Script.run_bind, hsnapshot, hrollback, Script.run_pure]
      constructor
      · intro h
        refine ⟨fun hfails => absurd hfails hup, fun _ _ => ?_⟩
        have hall := h fun _ => Outcome.noConfusion
        refine ⟨restoredDir_eq_iff.mp hall.files, fun other hother hsame => ?_⟩
        have hid : other.id = row.id := congrArg (fun a : Account => a.id) (Option.some.inj hsame).symm
        rw [List.inj_on_of_nodup_map v.db.accounts.nodup hother hmem hid]
        exact hrestored.mp ⟨hall.accounts, hall.members⟩
      · intro h _
        obtain ⟨htemp, hrows⟩ := h.2 hup hpool
        obtain ⟨haccounts, hmembersSame⟩ := hrestored.mpr (hrows row hmem rfl)
        exact ⟨haccounts, hmembersSame, restoredDir_eq_iff.mpr htemp⟩
  · obtain ⟨hfault, hsome⟩ := not_or.mp hpool
    have hthereUp : ((upserted t svc accountKey f label enabled notes env v.db).1.pools.find?
        poolID).isSome = true := by
      rw [hspec.pools, ← Option.not_isNone, Bool.eq_false_of_not_eq_true hsome]
      rfl
    have hmember := run_addPoolMemberIdempotent env (v := ⟨u.dir, (upserted t svc accountKey f label
      enabled notes env v.db).1⟩) (not_not.mp hfault) hthereUp hspec.account
    simp only [Script.run_bind, u, hrun, hmember, Script.run_pure]
    constructor
    · intro _
      exact ⟨fun hfails => absurd hfails hup, fun _ hfails => absurd hfails hpool⟩
    · intro _ hdone
      exact absurd rfl (hdone _)

/-- When the upload of one file fails, its handler takes back all that it did. -/
theorem importCpaAuthJSON_restored_iff (hrestore : fault .restoreFile = .none)
    (hremove : fault .removeFile = .none) (hrow : fault .restoreRow = .none)
    (horphan : fault .deleteOrphan = .none) (hmembers : v.db.MembersNamed) :
    let w := (importCpaAuthJSON fault t f accountKey label enabled notes poolID).run env v
    ((∀ id, w.1 ≠ .done id) → PutBack v w.2) ↔
      ∀ svc, v.db.cpaServices.rows.head? = some svc → t.cpaAuthDir ≠ [] → poolID ≠ 0 →
        fault .service = .none → WriteReached fault f accountKey v →
        WriteKept fault v.dir accountKey (marshalAuthFile f) ∧
          (fault .writeTemp = .none → fault .rename = .none →
            UploadKept fault t svc f accountKey label enabled notes poolID env v) := by
  unfold importCpaAuthJSON
  by_cases hrefused : t.cpaAuthDir = [] ∨ poolID = 0
  · rw [if_pos hrefused]
    refine iff_of_true (fun _ => putBack_self v) fun svc _ hdir hpool _ _ => ?_
    exact absurd hrefused (not_or.mpr ⟨hdir, hpool⟩)
  obtain ⟨hdir, hpoolID⟩ := not_or.mp hrefused
  rw [if_neg hrefused]
  by_cases hservice : fault .service = .none
  swap
  · have hlook : (statement fault .service fun _ v => some (v, v.db.cpaServices.rows.head?)).run env
        v = (none, v) := run_statement_of_none fun hnone => absurd hnone hservice
    simp only [Script.run_bind, hlook, Script.run_pure]
    exact iff_of_true (fun _ => putBack_self v) fun _ _ _ _ hnone => absurd hnone hservice
  have hlook : (statement fault .service fun _ v => some (v, v.db.cpaServices.rows.head?)).run env v =
      (some v.db.cpaServices.rows.head?, v) := run_statement hservice rfl
  simp only [Script.run_bind, hlook]
  cases hsvc : v.db.cpaServices.rows.head? with
  | none => exact iff_of_true (fun _ => putBack_self v) fun svc hnone => nomatch hnone
  | some svc =>
    have hthere : (v.db.cpaServices.find? svc.id).isSome = true := by
      rw [Table.find?_of_mem (List.mem_of_mem_head? hsvc)]
      rfl
    refine (replaceAuthFile_restored_iff fun hreach => importUploaded_restored_iff hrestore hremove
      hrow horphan hmembers hthere hreach.2.2.2).trans ?_
    constructor
    · intro h svc' hsvc' _ _ _ hreach
      obtain rfl := Option.some.inj hsvc'
      exact h hreach
    · intro h hreach
      exact h svc rfl hdir hpoolID hservice hreach

end Upload

/-! ## A file of a batch -/

section Batch

variable (fault : Stage → Fault) (t : Tokens) (svc : CpaService) (f : CpaAuthFile)
  (accountKey : Str) (enabled : Bool) (poolID : Int) (env : StoreEnv) (v : Vault)

/-- The account of an upload in a batch. -/
def batchAccount : Account := importedCpaAccountTemplate t env.now svc accountKey f [] enabled []

/-- A failed transaction leaves the rows; after one that was committed but could not be read
back, they are what they were only when it had nothing to change. -/
def BatchKept : Prop :=
  (fault .upsert = .early ∨
      v.db.upsertFails env poolID (batchAccount t svc f accountKey enabled env) = true →
      v.dir.get? (tempName accountKey) = none) ∧
    ((∃ left, fault .upsert = .late left) →
      v.db.upsertFails env poolID (batchAccount t svc f accountKey enabled env) = false →
      v.dir.get? (tempName accountKey) = none ∧
        ∃ row ∈ v.db.accounts.rows,
          v.db.findAccountByCpaKey svc.id accountKey = some (scanAccountRow row) ∧
          Database.content (Database.importedAccount env
            (batchAccount t svc f accountKey enabled env) row) = Database.content row ∧
          v.db.IsMember poolID row.id)

variable {fault t svc f accountKey enabled poolID env v}

/-- The rows after the transaction of a batch. -/
theorem upsert_restored_iff (hfails : v.db.upsertFails env poolID
      (batchAccount t svc f accountKey enabled env) = false) :
    ((v.db.upsertCpaAccountAndPoolMemberFromImport env poolID (batchAccount t svc f accountKey enabled
          env)).findAccountByCpaKey svc.id accountKey).isSome = true ∧
      (((v.db.upsertCpaAccountAndPoolMemberFromImport env poolID (batchAccount t svc f accountKey
              enabled env)).accounts.rows.map Database.content =
            v.db.accounts.rows.map Database.content ∧
          (v.db.upsertCpaAccountAndPoolMemberFromImport env poolID (batchAccount t svc f accountKey
            enabled env)).poolMembers.rows = v.db.poolMembers.rows) ↔
        ∃ row ∈ v.db.accounts.rows,
          v.db.findAccountByCpaKey svc.id accountKey = some (scanAccountRow row) ∧
          Database.content (Database.importedAccount env
            (batchAccount t svc f accountKey enabled env) row) = Database.content row ∧
          v.db.IsMember poolID row.id) := by
  let account := batchAccount t svc f accountKey enabled env
  have hservice : account.cpaServiceID = some svc.id := rfl
  obtain ⟨hpool, hinsert⟩ := Database.of_upsertFails hservice rfl hfails
  cases hfound : v.db.findAccountByCpaKey svc.id accountKey with
  | none =>
    have hrows := Database.rows_upsert_new hservice rfl hpool hfound (hinsert hfound)
    have hnew : Database.hasKey svc.id accountKey (v.db.newAccount env (lit "cpa") account) = true := by
      simp [Database.hasKey, Database.newAccount, account, batchAccount, importedCpaAccountTemplate]
    constructor
    · rw [← Option.ne_none_iff_isSome, Ne, Database.findAccountByCpaKey_eq_none]
      refine Nat.ne_of_gt (List.countP_pos_iff.mpr ⟨_, ?_, hnew⟩)
      rw [hrows]
      exact List.mem_append_right _ List.mem_cons_self
    · refine iff_of_false ?_ ?_
      · rintro ⟨haccounts, -⟩
        have hlength := congrArg List.length haccounts
        rw [hrows, List.length_map, List.length_map, List.length_append, List.length_singleton] at hlength
        omega
      · rintro ⟨row, -, hnone, -⟩
        contradiction
  | some existing =>
    obtain ⟨row, hrow, hkey, rfl⟩ := Database.of_findAccountByCpaKey hfound
    have hupsert := upsertCpaAccountAndPoolMemberFromImport_existing env hservice hpool hfound
    have haccounts : (v.db.upsertCpaAccountAndPoolMemberFromImport env poolID account).accounts =
        (v.db.updateCpaAccountFromImport env row.id account).accounts := by
      rw [hupsert, Database.accounts_ensureAccountDiagnosticTx,
        Database.accounts_addPoolMemberIdempotent]
      rfl
    have hmembers : (v.db.upsertCpaAccountAndPoolMemberFromImport env poolID account).poolMembers =
        ((v.db.updateCpaAccountFromImport env row.id account).addPoolMemberIdempotent poolID
          row.id).poolMembers := by
      rw [hupsert]
      rfl
    have hcount : (v.db.upsertCpaAccountAndPoolMemberFromImport env poolID account).keyCount svc.id
        accountKey = v.db.keyCount svc.id accountKey := by
      rw [Database.keyCount, haccounts]
      exact Database.keyCount_updateCpaAccountFromImport row.id account
    have hpositive : v.db.keyCount svc.id accountKey ≠ 0 :=
      Nat.ne_of_gt (List.countP_pos_iff.mpr ⟨row, hrow, hkey⟩)
    have hrows := Database.rows_updateAccount v.db env row.id
      (f := Database.importedAccount env account) fun _ => rfl
    have hcontent : (v.db.updateCpaAccountFromImport env row.id account).accounts.rows.map
        Database.content = v.db.accounts.rows.map Database.content ↔
          Database.content (Database.importedAccount env account row) = Database.content row :=
      (iff_of_eq (congrArg (fun rows => List.map Database.content rows = _) hrows)).trans
        (Database.map_rows_eq_iff hrow _ Database.content)
    have hmember : ((v.db.updateCpaAccountFromImport env row.id account).addPoolMemberIdempotent
        poolID row.id).poolMembers.rows = v.db.poolMembers.rows ↔ v.db.IsMember poolID row.id :=
      Database.rows_addPoolMemberIdempotent_iff
    constructor
    · rw [← Option.ne_none_iff_isSome, Ne, Database.findAccountByCpaKey_eq_none, hcount]
      exact hpositive
    · rw [haccounts, hmembers, hcontent, hmember]
      constructor
      · rintro ⟨hsame, hin⟩
        exact ⟨row, hrow, rfl, hsame, hin⟩
      · rintro ⟨other, hother, hsame, hcontentSame, hin⟩
        have hid : other.id = row.id := congrArg (fun a : Account => a.id) (Option.some.inj hsame).symm
        obtain rfl := List.inj_on_of_nodup_map v.db.accounts.nodup hother hrow hid
        exact ⟨hcontentSame, hin⟩

section Step

variable {account : Account} {imported : Account} {w : Vault}

theorem run_upsert (hfault : fault .upsert = .none)
    (hfails : w.db.upsertFails env poolID account = false)
    (hfound : (w.db.upsertCpaAccountAndPoolMemberFromImport env poolID account).findAccountByCpaKey
      (account.cpaServiceID.getD 0) account.cpaAccountKey = some imported) :
    (upsertCpaAccountAndPoolMemberFromImport fault poolID account).run env w =
      (some imported.id, ⟨w.dir, w.db.upsertCpaAccountAndPoolMemberFromImport env poolID account⟩) := by
  refine run_readBack hfault ?_
  simp only [hfails, Bool.false_eq_true, if_false, hfound]

/-- The transaction is committed, but the account is not read back. -/
theorem run_upsert_late {left : Str} (hfault : fault .upsert = .late left)
    (hfails : w.db.upsertFails env poolID account = false)
    (hfound : (w.db.upsertCpaAccountAndPoolMemberFromImport env poolID account).findAccountByCpaKey
      (account.cpaServiceID.getD 0) account.cpaAccountKey = some imported) :
    (upsertCpaAccountAndPoolMemberFromImport fault poolID account).run env w =
      (none, ⟨w.dir, w.db.upsertCpaAccountAndPoolMemberFromImport env poolID account⟩) := by
  refine run_readBack_late (a := imported.id) hfault ?_
  simp only [hfails, Bool.false_eq_true, if_false, hfound]

end Step

theorem importBatched_restored_iff (hrestore : fault .restoreFile = .none)
    (hremove : fault .removeFile = .none) (hvalid : validateAccountKey accountKey = true) :
    let w := (importBatched fault t svc f accountKey enabled poolID
      (v.dir.get? (fileName accountKey))).run env
        ⟨written v.dir accountKey (marshalAuthFile f), v.db⟩
    ((∀ id, w.1 ≠ .done id) → PutBack v w.2) ↔
      BatchKept fault t svc f accountKey enabled poolID env v := by
  let account := batchAccount t svc f accountKey enabled env
  let u : Vault := ⟨written v.dir accountKey (marshalAuthFile f), v.db⟩
  have hrollback := run_rollbackAuthFile env (marshalAuthFile f) v.dir hrestore hremove hvalid
  unfold importBatched BatchKept
  by_cases hfails : fault .upsert = .early ∨ v.db.upsertFails env poolID account = true
  · have hrun : (upsertCpaAccountAndPoolMemberFromImport fault poolID account).run env u =
        (none, u) := by
      refine run_readBack_of_none (hfails.imp_right fun h => ?_)
      exact if_pos h
    have hrun' : (upsertCpaAccountAndPoolMemberFromImport fault poolID
        (importedCpaAccountTemplate t env.now svc accountKey f [] enabled [])).run env u = (none, u) := hrun
    simp only [Script.run_bind, Script.run_look, u, hrun', hrollback, Script.run_pure]
    constructor
    · intro h
      refine ⟨fun _ => restoredDir_eq_iff.mp (h fun _ => Outcome.noConfusion).files, ?_⟩
      rintro ⟨left, hlate⟩ hnot
      rcases hfails with hearly | hup
      · exact absurd (hearly.symm.trans hlate) Fault.noConfusion
      · exact absurd (hup.symm.trans hnot) (by decide)
    · intro h _
      exact ⟨rfl, rfl, restoredDir_eq_iff.mpr (h.1 hfails)⟩
  obtain ⟨hearly, hup⟩ := not_or.mp hfails
  have hup := Bool.eq_false_of_not_eq_true hup
  obtain ⟨hsome, hiff⟩ := upsert_restored_iff hup
  obtain ⟨imported, himported⟩ := Option.isSome_iff_exists.mp hsome
  cases hfault : fault .upsert with
  | none =>
    have hrun : (upsertCpaAccountAndPoolMemberFromImport fault poolID
        (importedCpaAccountTemplate t env.now svc accountKey f [] enabled [])).run env u =
        (some imported.id, ⟨u.dir, v.db.upsertCpaAccountAndPoolMemberFromImport env poolID account⟩) :=
      run_upsert hfault hup himported
    simp only [Script.run_bind, Script.run_look, u, hrun, Script.run_pure]
    refine iff_of_true (fun hdone => absurd rfl (hdone imported.id)) ⟨fun h => ?_, fun h => ?_⟩
    · exact absurd h (not_or.mpr ⟨Fault.noConfusion, by rw [hup]; decide⟩)
    · obtain ⟨left, h⟩ := h
      contradiction
  | early => exact absurd hfault hearly
  | late left =>
    have hrun : (upsertCpaAccountAndPoolMemberFromImport fault poolID
        (importedCpaAccountTemplate t env.now svc accountKey f [] enabled [])).run env u =
        (none, ⟨u.dir, v.db.upsertCpaAccountAndPoolMemberFromImport env poolID account⟩) :=
      run_upsert_late hfault hup himported
    simp only [Script.run_bind, Script.run_look, u, hrun, hrollback, Script.run_pure]
    constructor
    · intro h
      have hall := h fun _ => Outcome.noConfusion
      refine ⟨fun h => absurd h (not_or.mpr ⟨Fault.noConfusion, by rw [hup]; decide⟩), fun _ _ => ?_⟩
      exact ⟨restoredDir_eq_iff.mp hall.files, hiff.mp ⟨hall.accounts, hall.members⟩⟩
    · intro h _
      obtain ⟨htemp, hrow⟩ := h.2 ⟨left, rfl⟩ hup
      obtain ⟨haccounts, hmembers⟩ := hiff.mpr hrow
      exact ⟨haccounts, hmembers, restoredDir_eq_iff.mpr htemp⟩

theorem batchItem_restored_iff (hrestore : fault .restoreFile = .none)
    (hremove : fault .removeFile = .none) :
    let w := (importSingleCpaAuthJSONBatchItem fault t svc f accountKey enabled poolID).run env v
    ((∀ id, w.1 ≠ .done id) → PutBack v w.2) ↔
      (WriteReached fault f accountKey v →
        WriteKept fault v.dir accountKey (marshalAuthFile f) ∧
          (fault .writeTemp = .none → fault .rename = .none →
            BatchKept fault t svc f accountKey enabled poolID env v)) :=
  replaceAuthFile_restored_iff fun hreach =>
    importBatched_restored_iff hrestore hremove hreach.2.2.2

end Batch

/-! ## Both -/

/-- An upload of a credential file: one file, or one of a batch. -/
inductive Upload where
  | importCpaAuthJSON (label notes : Str)
  | importSingleCpaAuthJSONBatchItem (svc : CpaService)

/-- The steps that take something back succeed. -/
structure Compensates (fault : Stage → Fault) : Prop where
  restoreFile : fault .restoreFile = .none
  removeFile : fault .removeFile = .none
  restoreRow : fault .restoreRow = .none
  deleteOrphan : fault .deleteOrphan = .none

namespace Upload

variable (fault : Stage → Fault) (t : Tokens) (f : CpaAuthFile) (accountKey : Str) (enabled : Bool)
  (poolID : Int)

/-- The handler of the upload. -/
def program : Upload → VaultScript Outcome
  | importCpaAuthJSON label notes =>
    Admin.importCpaAuthJSON fault t f accountKey label enabled notes poolID
  | importSingleCpaAuthJSONBatchItem svc =>
    Admin.importSingleCpaAuthJSONBatchItem fault t svc f accountKey enabled poolID

/-- The upload gets to what writes the rows for the service. -/
def Reaches (v : Vault) (svc : CpaService) : Upload → Prop
  | importCpaAuthJSON _ _ =>
    v.db.cpaServices.rows.head? = some svc ∧ t.cpaAuthDir ≠ [] ∧ poolID ≠ 0 ∧
      fault .service = .none ∧ WriteReached fault f accountKey v
  | importSingleCpaAuthJSONBatchItem svc' => svc' = svc ∧ WriteReached fault f accountKey v

/-- What is taken back when the rows cannot be written is all that was done. -/
def RowsKept (env : StoreEnv) (v : Vault) (svc : CpaService) : Upload → Prop
  | importCpaAuthJSON label notes =>
    UploadKept fault t svc f accountKey label enabled notes poolID env v
  | importSingleCpaAuthJSONBatchItem _ =>
    BatchKept fault t svc f accountKey enabled poolID env v

/-- A failed write left what was there, and so did the failed step after it. -/
def Kept (env : StoreEnv) (v : Vault) (upload : Upload) : Prop :=
  ∀ svc, upload.Reaches fault t f accountKey poolID v svc →
    WriteKept fault v.dir accountKey (marshalAuthFile f) ∧
      (fault .writeTemp = .none → fault .rename = .none →
        upload.RowsKept fault t f accountKey enabled poolID env v svc)

end Upload

/-- An upload that does not report success leaves the accounts, the members and the files
exactly when every step that failed left what was there. -/
theorem failed_upload_restored_iff {fault : Stage → Fault} {t : Tokens} {f : CpaAuthFile}
    {accountKey : Str} {enabled : Bool} {poolID : Int} {env : StoreEnv} {v : Vault}
    (upload : Upload) (hcompensates : Compensates fault) (hmembers : v.db.MembersNamed) :
    ((∀ id, ((upload.program fault t f accountKey enabled poolID).run env v).1 ≠ .done id) →
        PutBack v ((upload.program fault t f accountKey enabled poolID).run env v).2) ↔
      upload.Kept fault t f accountKey enabled poolID env v := by
  obtain ⟨hrestore, hremove, hrow, horphan⟩ := hcompensates
  cases upload with
  | importCpaAuthJSON label notes =>
    refine (importCpaAuthJSON_restored_iff hrestore hremove hrow horphan hmembers).trans ?_
    constructor
    · rintro h svc ⟨hsvc, hdir, hpool, hservice, hreach⟩
      exact h svc hsvc hdir hpool hservice hreach
    · intro h svc hsvc hdir hpool hservice hreach
      exact h svc ⟨hsvc, hdir, hpool, hservice, hreach⟩
  | importSingleCpaAuthJSONBatchItem svc =>
    refine (batchItem_restored_iff hrestore hremove).trans ?_
    constructor
    · rintro h svc' ⟨rfl, hreach⟩
      exact h hreach
    · intro h hreach
      exact h svc ⟨rfl, hreach⟩

/-- The upload over a file that is there, into a pool that is not. -/
theorem missing_pool_restored :
    (((Upload.importCpaAuthJSON [] []).program noFault authTokens {} (lit "k") true 9).run someMoment
        unimported).1 = .failed ∧
      PutBack unimported (((Upload.importCpaAuthJSON [] []).program noFault authTokens {} (lit "k")
        true 9).run someMoment unimported).2 := by
  have hfailed : (((Upload.importCpaAuthJSON [] []).program noFault authTokens {} (lit "k") true
      9).run someMoment unimported).1 = .failed := by decide +kernel
  have htemp : unimported.dir.get? (tempName (lit "k")) = none := by decide
  refine ⟨hfailed, (failed_upload_restored_iff (.importCpaAuthJSON [] []) ⟨rfl, rfl, rfl, rfl⟩
    fun _ h => absurd h List.not_mem_nil).mpr ?_ fun id => by rw [hfailed]; exact Outcome.noConfusion⟩
  refine fun svc _ => ⟨⟨fun _ h => (nomatch h), fun _ h => absurd rfl h⟩, fun _ _ => ⟨fun _ => htemp, ?_⟩⟩
  exact fun _ _ => ⟨htemp, fun row hrow => absurd hrow List.not_mem_nil⟩

/-- A service and a pool. -/
def pooledVault : Vault where
  dir := Table.empty
  db := { cpaServices := Table.empty.set { id := 1 }, pools := Table.empty.set { id := 9 } }

/-- A new account of a batch that is committed but not read back stays without its file, and an
upload leaves the account that was there in a pool that it had not been in. -/
theorem failed_uploads_leave_traces :
    (∃ fault : Stage → Fault, fault .upsert = .late [] ∧ (∀ s, s ≠ .upsert → fault s = .none) ∧
      ((importSingleCpaAuthJSONBatchItem fault authTokens { id := 1 } {} (lit "k") true 9).run
        someMoment pooledVault).1 = .failed ∧
      ((importSingleCpaAuthJSONBatchItem fault authTokens { id := 1 } {} (lit "k") true 9).run
        someMoment pooledVault).2.dir.get? (lit "k.json") = none ∧
      pooledVault.db.accounts.rows.length = 0 ∧
      ((importSingleCpaAuthJSONBatchItem fault authTokens { id := 1 } {} (lit "k") true 9).run
        someMoment pooledVault).2.db.accounts.rows.length = 1) ∧
    ∃ fault : Stage → Fault, fault .member = .late [] ∧ (∀ s, s ≠ .member → fault s = .none) ∧
      ((importCpaAuthJSON fault authTokens {} (lit "k") [] true [] 9).run someMoment
        { importedVault with db := { importedVault.db with pools := Table.empty.set { id := 9 } } }).1 =
          .failed ∧
      importedVault.db.poolMembers.rows.length = 0 ∧
      ((importCpaAuthJSON fault authTokens {} (lit "k") [] true [] 9).run someMoment
        { importedVault with db := { importedVault.db with pools := Table.empty.set { id := 9 } } }
          ).2.db.poolMembers.rows.length = 1 :=
  ⟨⟨fun s => if s = .upsert then .late [] else .none, rfl, fun _ hs => if_neg hs,
      by decide +kernel, by decide +kernel, rfl, by decide +kernel⟩,
    ⟨fun s => if s = .member then .late [] else .none, rfl, fun _ hs => if_neg hs,
      by decide +kernel, rfl, by decide +kernel⟩⟩

end Lune.Admin
