import Lune.Admin.AccountKeys
import Lune.Admin.UploadFailures

/-!
# The preview of a batch import

`previewCpaAuthJSONBatch` and `importCpaAuthJSONBatch` of `internal/admin/handler.go`.
Both read the same files and pass over the same ones, and both look in the database for
the account of a key.  Only the import also looks into the auth directory: it refuses a
file when the credential that it would replace names another account.

No file operation and no statement fails here, and nothing else writes in between.
-/

namespace Lune.Store.Database

open GoText Keyed

/-! ## One upsert -/

section Upsert

variable {db : Database} {env : StoreEnv} {account : Account} {serviceID poolID : Int}

/-- The upsert of an account of a service that is there, into a pool that is there. -/
theorem upsertFails_eq_false (hservice : account.cpaServiceID = some serviceID)
    (hthere : (db.cpaServices.find? serviceID).isSome = true)
    (hpool : (db.pools.find? poolID).isSome = true) : db.upsertFails env poolID account = false := by
  unfold upsertFails
  rw [hservice]
  dsimp only
  rw [Bool.or_eq_false_iff, Option.isNone_eq_false_iff]
  refine ⟨hpool, ?_⟩
  cases hfound : db.findAccountByCpaKey serviceID account.cpaAccountKey with
  | some existing => rfl
  | none =>
    exact insertAccountFails_eq_false hservice hthere (findAccountByCpaKey_eq_none.mp hfound)

/-- What an upsert leaves as it was: the services, the pools and the other keys. -/
structure UpsertFrame (serviceID : Int) (accountKey : Str) (db db' : Database) : Prop where
  services : db'.cpaServices = db.cpaServices
  pools : db'.pools = db.pools
  count : ∀ k, k ≠ accountKey → db'.keyCount serviceID k = db.keyCount serviceID k

variable (env) in
theorem upsert_frame (hservice : account.cpaServiceID = some serviceID)
    (hkind : account.sourceKind = lit "cpa")
    (hthere : (db.cpaServices.find? serviceID).isSome = true)
    (hpool : (db.pools.find? poolID).isSome = true) :
    UpsertFrame serviceID account.cpaAccountKey db
      (db.upsertCpaAccountAndPoolMemberFromImport env poolID account) := by
  cases hfound : db.findAccountByCpaKey serviceID account.cpaAccountKey with
  | some existing =>
    rw [Admin.upsertCpaAccountAndPoolMemberFromImport_existing env hservice hpool hfound]
    obtain ⟨hservices, hpools⟩ := addPoolMemberIdempotent_frame
      (db.updateCpaAccountFromImport env existing.id account) poolID existing.id
    refine ⟨hservices, hpools, fun k _ => ?_⟩
    rw [keyCount, accounts_ensureAccountDiagnosticTx, accounts_addPoolMemberIdempotent]
    exact keyCount_updateCpaAccountFromImport existing.id account
  | none =>
    have hinsert : db.insertAccountFails (db.newAccount env (lit "cpa") account) = false :=
      insertAccountFails_eq_false hservice hthere (findAccountByCpaKey_eq_none.mp hfound)
    have hrows := rows_upsert_new hservice hkind hpool hfound hinsert
    have hcpa : firstNonEmpty [lit "cpa", lit "cpa"] = lit "cpa" := by decide
    have hpoolThere : ¬(db.pools.find? poolID).isNone = true := by
      rw [← Option.not_isSome, hpool]
      decide
    obtain ⟨hservices, hpools⟩ := addPoolMemberIdempotent_frame
      { db with accounts := db.accounts.set (db.newAccount env (lit "cpa") account) } poolID
      (db.newAccount env (lit "cpa") account).id
    refine ⟨?_, ?_, fun k hk => ?_⟩
    · unfold upsertCpaAccountAndPoolMemberFromImport
      simp only [hservice, hkind, hcpa, if_neg hpoolThere, hfound, hinsert, Bool.false_eq_true,
        if_false]
      exact hservices
    · unfold upsertCpaAccountAndPoolMemberFromImport
      simp only [hservice, hkind, hcpa, if_neg hpoolThere, hfound, hinsert, Bool.false_eq_true,
        if_false]
      exact hpools
    · have hother : hasKey serviceID k (db.newAccount env (lit "cpa") account) = false := by
        simp [hasKey, newAccount, Ne.symm hk]
      rw [keyCount, hrows, List.countP_append, List.countP_singleton, hother]
      rfl

end Upsert

end Lune.Store.Database

namespace Lune.Admin

open GoText GoJson Keyed Scripts Lune.Store Lune.Health Lune.Cpa

/-! ## Files and items -/

/-- `maxUploadedAuthJSONBytes`. -/
def maxUploadedAuthJSONBytes : Nat := 262144

/-- `maxCpaAuthJSONBatchFiles`. -/
def maxCpaAuthJSONBatchFiles : Nat := 20

/-- A file of the form, under the last element of its name. -/
structure UploadedFile where
  fileName : Str
  data : Str

/-- The states of an item. -/
inductive ItemStatus where
  | preview
  | created
  | updated
  | skipped
  | failed
deriving DecidableEq

/-- `cpaAuthJSONBatchItem`, as far as the two handlers read it. -/
structure BatchItem where
  clientFileName : Str
  status : ItemStatus := .preview
  action : Option ItemStatus := none
  errorCode : Str := []
  authFile : CpaAuthFile := {}
  accountKey : Str := []
  accountID : Int := 0

/-- What a response says of the item: the preview names what it would do. -/
def BatchItem.verdict (item : BatchItem) : ItemStatus := item.action.getD item.status

/-- `failCpaAuthJSONBatchItem`. -/
def failCpaAuthJSONBatchItem (item : BatchItem) (code : Str) : BatchItem :=
  { item with status := .failed, errorCode := code }

/-- An item whose key came before. -/
def duplicateItem (item : BatchItem) : BatchItem :=
  { item with status := .skipped, errorCode := lit "duplicate_in_batch" }

/-- `readUploadedAuthJSON`. -/
def readUploadedAuthJSON (data : Str) : Option Str :=
  if maxUploadedAuthJSONBytes < data.length then none
  else if isBlank data then none
  else some data

/-- `parseCpaAuthJSONBatchFile`. -/
def parseCpaAuthJSONBatchFile (m : CaseMap) (file : UploadedFile) : BatchItem :=
  let item : BatchItem := { clientFileName := file.fileName }
  if equalFold file.fileName (lit ".login-sessions.json") then
    failCpaAuthJSONBatchItem item (lit "invalid_auth_json")
  else
    match (readUploadedAuthJSON file.data).bind (parseUploadedAuthJSON m) with
    | none => failCpaAuthJSONBatchItem item (lit "invalid_auth_json")
    | some (authFile, accountKey) => { item with authFile := authFile, accountKey := accountKey }

/-- `prepareCpaAuthJSONBatch`. -/
def prepareCpaAuthJSONBatch (m : CaseMap) (t : Tokens) (db : Database) (poolID : Int)
    (files : List UploadedFile) : Option (CpaService × List BatchItem) :=
  if t.cpaAuthDir = [] then none
  else
    match db.cpaServices.rows.head? with
    | none => none
    | some svc =>
      if poolID = 0 ∨ (db.pools.find? poolID).isNone then none
      else if files = [] ∨ maxCpaAuthJSONBatchFiles < files.length then none
      else some (svc, files.map (parseCpaAuthJSONBatchFile m))

/-! ## Responses -/

/-- `cpaAuthJSONBatchSummary`, without the counts of the runtime. -/
structure BatchSummary where
  created : Nat := 0
  updated : Nat := 0
  skipped : Nat := 0
  failed : Nat := 0
deriving DecidableEq

/-- `resp.Summary.Created++` and the others. -/
def BatchSummary.count (s : BatchSummary) : ItemStatus → BatchSummary
  | .created => { s with created := s.created + 1 }
  | .updated => { s with updated := s.updated + 1 }
  | .skipped => { s with skipped := s.skipped + 1 }
  | .failed | .preview => { s with failed := s.failed + 1 }

/-- `cpaAuthJSONBatchResponse`, with the keys of the accounts that were changed. -/
structure BatchResponse where
  items : List BatchItem := []
  summary : BatchSummary := {}
  changedAccountKeys : List Str := []

/-- The item is appended and counted. -/
def BatchResponse.add (resp : BatchResponse) (item : BatchItem) : BatchResponse :=
  { resp with items := resp.items ++ [item], summary := resp.summary.count item.verdict }

/-- `changedAccountKeys = append(changedAccountKeys, item.accountKey)`. -/
def BatchResponse.noteChanged (resp : BatchResponse) (item : BatchItem) : BatchResponse :=
  if item.status = .created ∨ item.status = .updated then
    { resp with changedAccountKeys := resp.changedAccountKeys ++ [item.accountKey] }
  else resp

/-! ## The handlers -/

/-- An item of a new key in the preview. -/
def previewedItem (svc : CpaService) (db : Database) (item : BatchItem) : BatchItem :=
  { item with
    action := some (if (db.findAccountByCpaKey svc.id item.accountKey).isNone then .created
      else .updated) }

/-- The loop of `previewCpaAuthJSONBatch`. -/
def previewItems (svc : CpaService) (db : Database) (seen : List Str) (resp : BatchResponse) :
    List BatchItem → BatchResponse
  | [] => resp
  | item :: items =>
    if item.status = .failed then previewItems svc db seen (resp.add item) items
    else if item.accountKey ∈ seen then
      previewItems svc db seen (resp.add (duplicateItem item)) items
    else
      previewItems svc db (item.accountKey :: seen) (resp.add (previewedItem svc db item)) items

/-- `previewCpaAuthJSONBatch`; `none` is a request that is refused. -/
def previewCpaAuthJSONBatch (m : CaseMap) (t : Tokens) (db : Database) (poolID : Int)
    (files : List UploadedFile) : Option BatchResponse :=
  (prepareCpaAuthJSONBatch m t db poolID files).map fun (svc, items) =>
    previewItems svc db [] {} items

section Import

variable (t : Tokens) (svc : CpaService) (enabled : Bool) (poolID : Int)

/-- `importSingleCpaAuthJSONBatchItem`, with the item that it returns: `created` when the
lookup at its start found no account. -/
def importItem (env : StoreEnv) (v : Vault) (item : BatchItem) : BatchItem × Vault :=
  let existingBefore := v.db.findAccountByCpaKey svc.id item.accountKey
  match (importSingleCpaAuthJSONBatchItem noFault t svc item.authFile item.accountKey enabled
    poolID).run env v with
  | (.done id, v) =>
    ({ item with
        status := if existingBefore.isNone then .created else .updated
        accountID := id }, v)
  | (.refused, v) => (failCpaAuthJSONBatchItem item (lit "identity_mismatch"), v)
  | (.failed, v) => (failCpaAuthJSONBatchItem item (lit "pool_member_failed"), v)

/-- The loop of `importCpaAuthJSONBatch`; the item after `i` others sees the environment
`env i`. -/
def importItems (env : Nat → StoreEnv) (v : Vault) (seen : List Str) (resp : BatchResponse) :
    List BatchItem → BatchResponse × Vault
  | [] => (resp, v)
  | item :: items =>
    if item.status = .failed then importItems env v seen (resp.add item) items
    else if item.accountKey ∈ seen then importItems env v seen (resp.add (duplicateItem item)) items
    else
      let (item', v) := importItem t svc enabled poolID (env resp.items.length) v item
      importItems env v (item.accountKey :: seen) ((resp.noteChanged item').add item') items

end Import

/-- `importCpaAuthJSONBatch`. -/
def importCpaAuthJSONBatch (m : CaseMap) (t : Tokens) (env : Nat → StoreEnv) (v : Vault)
    (enabled : Bool) (poolID : Int) (files : List UploadedFile) : Option (BatchResponse × Vault) :=
  (prepareCpaAuthJSONBatch m t v.db poolID files).map fun (svc, items) =>
    importItems t svc enabled poolID env v [] {} items

/-! ## One item -/

section Item

variable {t : Tokens} {svc : CpaService} {enabled : Bool} {poolID : Int} {env : StoreEnv}
  {v w : Vault} {item : BatchItem} {seen : List Str}

/-- The credential that the item would replace is readable and names another account. -/
def BatchItem.Conflicts (v : Vault) (item : BatchItem) : Prop :=
  (v.dir.get? (fileName item.accountKey)).isSome = true ∧
    ∃ existingAuth, v.authFile item.accountKey = some existingAuth ∧
      authIdentityMismatch existingAuth item.authFile = true

theorem conflicts_iff :
    item.Conflicts v ↔ mismatches noFault v item.accountKey item.authFile = true := by
  unfold BatchItem.Conflicts mismatches
  cases v.authFile item.accountKey with
  | none => simp
  | some existingAuth => simp [noFault]

theorem importItem_conflict (h : item.Conflicts w) :
    importItem t svc enabled poolID env w item =
      (failCpaAuthJSONBatchItem item (lit "identity_mismatch"), w) := by
  have hread : (readAuthFileBytes noFault .readExisting item.accountKey).run env w =
      (some (w.dir.get? (fileName item.accountKey)), w) := run_statement rfl rfl
  have hrun : (importSingleCpaAuthJSONBatchItem noFault t svc item.authFile item.accountKey enabled
      poolID).run env w = (.refused, w) := by
    unfold importSingleCpaAuthJSONBatchItem replaceAuthFile
    simp only [Script.run_bind, hread, run_identityMismatch, conflicts_iff.mp h, if_true,
      Script.run_pure]
  rw [importItem, hrun]

/-- An item without a conflict is imported. -/
theorem importItem_imported (hvalid : validateAccountKey item.accountKey = true)
    (hthere : (w.db.cpaServices.find? svc.id).isSome = true)
    (hpool : (w.db.pools.find? poolID).isSome = true) (h : ¬ item.Conflicts w) :
    ∃ id, importItem t svc enabled poolID env w item =
      ({ item with
          status := if (w.db.findAccountByCpaKey svc.id item.accountKey).isNone then .created
            else .updated
          accountID := id },
        ⟨written w.dir item.accountKey (marshalAuthFile item.authFile),
          w.db.upsertCpaAccountAndPoolMemberFromImport env poolID
            (batchAccount t svc item.authFile item.accountKey enabled env)⟩) := by
  have hread : (readAuthFileBytes noFault .readExisting item.accountKey).run env w =
      (some (w.dir.get? (fileName item.accountKey)), w) := run_statement rfl rfl
  have hmatch : mismatches noFault w item.accountKey item.authFile = false :=
    Bool.eq_false_of_not_eq_true fun hmismatch => h (conflicts_iff.mpr hmismatch)
  have hfails : w.db.upsertFails env poolID
      (batchAccount t svc item.authFile item.accountKey enabled env) = false :=
    Database.upsertFails_eq_false rfl hthere hpool
  obtain ⟨imported, himported⟩ := Option.isSome_iff_exists.mp (upsert_restored_iff hfails).1
  have hupsert : (upsertCpaAccountAndPoolMemberFromImport noFault poolID
      (importedCpaAccountTemplate t env.now svc item.accountKey item.authFile [] enabled [])).run env
        ⟨written w.dir item.accountKey (marshalAuthFile item.authFile), w.db⟩ = _ :=
    run_upsert rfl hfails himported
  have hrun : (importSingleCpaAuthJSONBatchItem noFault t svc item.authFile item.accountKey enabled
      poolID).run env w = (.done imported.id,
        ⟨written w.dir item.accountKey (marshalAuthFile item.authFile),
          w.db.upsertCpaAccountAndPoolMemberFromImport env poolID
            (batchAccount t svc item.authFile item.accountKey enabled env)⟩) := by
    unfold importSingleCpaAuthJSONBatchItem replaceAuthFile importBatched
    simp only [Script.run_bind, hread, run_identityMismatch, hmatch, Bool.false_eq_true, if_false,
      run_findAccountByCpaKey (noFault_eq .lookup),
      run_writeAuthFile hvalid (noFault_eq .writeTemp) (noFault_eq .rename), Script.run_look, hupsert,
      Script.run_pure]
    rfl
  exact ⟨imported.id, by rw [importItem, hrun]⟩

/-- The vault has what the first one has, apart from the keys that were seen. -/
structure SameElsewhere (svc : CpaService) (seen : List Str) (v w : Vault) : Prop where
  services : w.db.cpaServices = v.db.cpaServices
  pools : w.db.pools = v.db.pools
  file : ∀ k ∉ seen, w.dir.get? (fileName k) = v.dir.get? (fileName k)
  account : ∀ k ∉ seen, w.db.keyCount svc.id k = v.db.keyCount svc.id k

theorem sameElsewhere_refl : SameElsewhere svc seen v v :=
  ⟨rfl, rfl, fun _ _ => rfl, fun _ _ => rfl⟩

theorem SameElsewhere.mono (h : SameElsewhere svc seen v w) (key : Str) :
    SameElsewhere svc (key :: seen) v w :=
  ⟨h.services, h.pools, fun k hk => h.file k fun hseen => hk (List.mem_cons_of_mem key hseen),
    fun k hk => h.account k fun hseen => hk (List.mem_cons_of_mem key hseen)⟩

theorem SameElsewhere.conflicts_iff (h : SameElsewhere svc seen v w)
    (hnew : item.accountKey ∉ seen) : item.Conflicts w ↔ item.Conflicts v := by
  unfold BatchItem.Conflicts Vault.authFile
  rw [h.file _ hnew]

theorem SameElsewhere.isNone_eq (h : SameElsewhere svc seen v w) {k : Str} (hnew : k ∉ seen) :
    (w.db.findAccountByCpaKey svc.id k).isNone = (v.db.findAccountByCpaKey svc.id k).isNone := by
  rw [Bool.eq_iff_iff, Option.isNone_iff_eq_none, Option.isNone_iff_eq_none,
    Database.findAccountByCpaKey_eq_none, Database.findAccountByCpaKey_eq_none, h.account k hnew]

/-- The import of an item touches its own key only. -/
theorem SameElsewhere.imported (h : SameElsewhere svc seen v w)
    (hthere : (v.db.cpaServices.find? svc.id).isSome = true)
    (hpool : (v.db.pools.find? poolID).isSome = true) (f : CpaAuthFile) (key : Str) :
    SameElsewhere svc (key :: seen) v
      ⟨written w.dir key (marshalAuthFile f),
        w.db.upsertCpaAccountAndPoolMemberFromImport env poolID
          (batchAccount t svc f key enabled env)⟩ := by
  have hservice : (batchAccount t svc f key enabled env).cpaServiceID = some svc.id := rfl
  have hframe := Database.upsert_frame env hservice rfl (h.services ▸ hthere) (h.pools ▸ hpool)
  refine ⟨hframe.services.trans h.services, hframe.pools.trans h.pools, fun k hk => ?_,
    fun k hk => ?_⟩
  · obtain ⟨hne, hseen⟩ := not_or.mp (mt List.mem_cons.mpr hk)
    have hfile : fileName k ≠ fileName key := fun heq => hne (List.append_cancel_right heq)
    rw [get?_written, if_neg (fileName_ne_tempName k key), if_neg hfile]
    exact h.file k hseen
  · obtain ⟨hne, hseen⟩ := not_or.mp (mt List.mem_cons.mpr hk)
    exact (hframe.count k hne).trans (h.account k hseen)

/-- An item of a new key: the import says what the preview says exactly when the item has no
conflict, and it touches that key only. -/
theorem importItem_spec (h : SameElsewhere svc seen v w) (hnew : item.accountKey ∉ seen)
    (hvalid : validateAccountKey item.accountKey = true) (haction : item.action = none)
    (hthere : (v.db.cpaServices.find? svc.id).isSome = true)
    (hpool : (v.db.pools.find? poolID).isSome = true) :
    ((previewedItem svc v.db item).verdict =
        (importItem t svc enabled poolID env w item).1.verdict ↔ ¬ item.Conflicts v) ∧
      SameElsewhere svc (item.accountKey :: seen) v
        (importItem t svc enabled poolID env w item).2 := by
  by_cases hconflict : item.Conflicts v
  · rw [importItem_conflict ((h.conflicts_iff hnew).mpr hconflict)]
    refine ⟨iff_of_false ?_ (not_not.mpr hconflict), h.mono item.accountKey⟩
    show (if _ then _ else _ : ItemStatus) ≠ item.action.getD .failed
    rw [haction]
    split <;> decide
  · obtain ⟨id, hrun⟩ := @importItem_imported t svc enabled poolID env w item hvalid
      (h.services ▸ hthere) (h.pools ▸ hpool) (mt (h.conflicts_iff hnew).mp hconflict)
    rw [hrun]
    refine ⟨iff_of_true ?_ hconflict, h.imported hthere hpool item.authFile item.accountKey⟩
    show (if _ then _ else _ : ItemStatus) = item.action.getD (if _ then _ else _)
    rw [haction, h.isNone_eq hnew]
    rfl

end Item

/-! ## Files that are read -/

/-- What is there when a batch is not refused. -/
theorem of_prepareCpaAuthJSONBatch {m : CaseMap} {t : Tokens} {db : Database} {poolID : Int}
    {files : List UploadedFile} {svc : CpaService} {items : List BatchItem}
    (h : prepareCpaAuthJSONBatch m t db poolID files = some (svc, items)) :
    (db.cpaServices.find? svc.id).isSome = true ∧ (db.pools.find? poolID).isSome = true ∧
      items = files.map (parseCpaAuthJSONBatchFile m) := by
  unfold prepareCpaAuthJSONBatch at h
  split at h
  · contradiction
  · split at h
    · contradiction
    next svc' hsvc =>
      split at h
      · contradiction
      next hpool =>
        split at h
        · contradiction
        · obtain ⟨rfl, rfl⟩ := Prod.mk.inj (Option.some.inj h)
          refine ⟨?_, ?_, rfl⟩
          · rw [Table.find?_of_mem (List.mem_of_mem_head? hsvc)]
            rfl
          · rw [← Option.not_isNone, eq_false_of_ne_true (not_or.mp hpool).2]
            rfl

/-- An item as it comes out of its file. -/
structure BatchItem.Parsed (item : BatchItem) : Prop where
  action : item.action = none
  key : item.status ≠ .failed → validateAccountKey item.accountKey = true

theorem parsed_parseCpaAuthJSONBatchFile (m : CaseMap) (file : UploadedFile) :
    (parseCpaAuthJSONBatchFile m file).Parsed := by
  unfold parseCpaAuthJSONBatchFile
  dsimp only
  split
  · exact ⟨rfl, fun h => absurd rfl h⟩
  · split
    · exact ⟨rfl, fun h => absurd rfl h⟩
    next authFile accountKey hparsed =>
      obtain ⟨data, -, hdata⟩ := Option.bind_eq_some_iff.mp hparsed
      obtain ⟨-, -, hgenerated⟩ := of_parseUploadedAuthJSON hdata
      exact ⟨rfl, fun _ => validateAccountKey_of_generated hgenerated⟩

/-- The items that are not failed, the first of each key that was not seen. -/
def firstUploads : List Str → List BatchItem → List BatchItem
  | _, [] => []
  | seen, item :: items =>
    if item.status = .failed ∨ item.accountKey ∈ seen then firstUploads seen items
    else item :: firstUploads (item.accountKey :: seen) items

/-! ## The two loops -/

/-- The verdicts of a response, in order. -/
def BatchResponse.verdicts (resp : BatchResponse) : List ItemStatus :=
  resp.items.map BatchItem.verdict

/-- The verdicts counted. -/
def tally (verdicts : List ItemStatus) : BatchSummary := verdicts.foldl BatchSummary.count {}

/-- How many items were counted. -/
def BatchSummary.total (s : BatchSummary) : Nat := s.created + s.updated + s.skipped + s.failed

@[simp] theorem verdicts_add (resp : BatchResponse) (item : BatchItem) :
    (resp.add item).verdicts = resp.verdicts ++ [item.verdict] := by
  simp [BatchResponse.verdicts, BatchResponse.add]

@[simp] theorem verdicts_noteChanged (resp : BatchResponse) (item : BatchItem) :
    (resp.noteChanged item).verdicts = resp.verdicts := by
  unfold BatchResponse.noteChanged
  split <;> rfl

theorem total_count (s : BatchSummary) (verdict : ItemStatus) :
    (s.count verdict).total = s.total + 1 := by
  cases verdict <;> simp only [BatchSummary.count, BatchSummary.total] <;> omega

theorem total_tally (verdicts : List ItemStatus) : (tally verdicts).total = verdicts.length := by
  have hfold : ∀ s : BatchSummary,
      (verdicts.foldl BatchSummary.count s).total = s.total + verdicts.length := by
    induction verdicts with
    | nil => exact fun _ => rfl
    | cons verdict verdicts ih =>
      intro s
      rw [List.foldl_cons, ih, total_count, List.length_cons]
      omega
  rw [tally, hfold]
  exact Nat.zero_add _

/-- The summary counts the items. -/
def BatchResponse.Tallied (resp : BatchResponse) : Prop := resp.summary = tally resp.verdicts

theorem BatchResponse.Tallied.add {resp : BatchResponse} (h : resp.Tallied) (item : BatchItem) :
    (resp.add item).Tallied := by
  unfold BatchResponse.Tallied tally
  rw [verdicts_add, List.foldl_append]
  exact congrArg (BatchSummary.count · item.verdict) h

theorem BatchResponse.Tallied.noteChanged {resp : BatchResponse} (h : resp.Tallied)
    (item : BatchItem) : (resp.noteChanged item).Tallied := by
  unfold BatchResponse.noteChanged
  split
  · exact h
  · exact h

section Loops

variable {t : Tokens} {svc : CpaService} {enabled : Bool} {poolID : Int} {env : Nat → StoreEnv}
  {v : Vault}

/-- The preview counts each item and reports it. -/
theorem previewItems_spec (db : Database) {resp : BatchResponse} (h : resp.Tallied)
    (seen : List Str) (items : List BatchItem) :
    (previewItems svc db seen resp items).Tallied ∧
      (previewItems svc db seen resp items).verdicts.length =
        resp.verdicts.length + items.length := by
  induction items generalizing seen resp with
  | nil => exact ⟨h, rfl⟩
  | cons item items ih =>
    have hnext (seen : List Str) (item' : BatchItem) :
        (previewItems svc db seen (resp.add item') items).Tallied ∧
          (previewItems svc db seen (resp.add item') items).verdicts.length =
            resp.verdicts.length + (items.length + 1) := by
      obtain ⟨htallied, hlength⟩ := ih (h.add item') seen
      rw [verdicts_add, List.length_append, List.length_singleton] at hlength
      exact ⟨htallied, by omega⟩
    unfold previewItems
    split
    · exact hnext seen item
    · split
      · exact hnext seen (duplicateItem item)
      · exact hnext (item.accountKey :: seen) (previewedItem svc db item)

/-- So does the import. -/
theorem importItems_spec {w : Vault} {resp : BatchResponse} (h : resp.Tallied) (seen : List Str)
    (items : List BatchItem) :
    (importItems t svc enabled poolID env w seen resp items).1.Tallied ∧
      (importItems t svc enabled poolID env w seen resp items).1.verdicts.length =
        resp.verdicts.length + items.length := by
  induction items generalizing seen resp w with
  | nil => exact ⟨h, rfl⟩
  | cons item items ih =>
    have hnext {w : Vault} {resp' : BatchResponse} (h' : resp'.Tallied)
        (hsame : resp'.verdicts = resp.verdicts) (seen : List Str) (item' : BatchItem) :
        (importItems t svc enabled poolID env w seen (resp'.add item') items).1.Tallied ∧
          (importItems t svc enabled poolID env w seen (resp'.add item') items).1.verdicts.length =
            resp.verdicts.length + (items.length + 1) := by
      obtain ⟨htallied, hlength⟩ := @ih w (resp'.add item') (h'.add item') seen
      rw [verdicts_add, List.length_append, List.length_singleton, hsame] at hlength
      exact ⟨htallied, by omega⟩
    unfold importItems
    split
    · exact hnext h rfl seen item
    · split
      · exact hnext h rfl seen (duplicateItem item)
      · exact hnext (h.noteChanged _) (verdicts_noteChanged _ _) (item.accountKey :: seen) _

theorem accountKey_importItem (e : StoreEnv) (w : Vault) (item : BatchItem) :
    (importItem t svc enabled poolID e w item).1.accountKey = item.accountKey := by
  unfold importItem
  dsimp only
  split <;> rfl

/-- The keys that were changed are among those seen, each once. -/
theorem importItems_once {w : Vault} {resp : BatchResponse} {seen : List Str}
    (hseen : ∀ key ∈ resp.changedAccountKeys, key ∈ seen) (honce : resp.changedAccountKeys.Nodup)
    (items : List BatchItem) :
    (importItems t svc enabled poolID env w seen resp items).1.changedAccountKeys.Nodup := by
  induction items generalizing seen resp w with
  | nil => exact honce
  | cons item items ih =>
    unfold importItems
    split
    · exact ih hseen honce
    · split
      · exact ih hseen honce
      next hnew =>
        have hkey := @accountKey_importItem t svc enabled poolID (env resp.items.length) w item
        dsimp only
        generalize importItem t svc enabled poolID (env resp.items.length) w item = imported at hkey
        have hkeys : (resp.noteChanged imported.1).changedAccountKeys = resp.changedAccountKeys ∨
            (resp.noteChanged imported.1).changedAccountKeys =
              resp.changedAccountKeys ++ [item.accountKey] := by
          unfold BatchResponse.noteChanged
          split
          · exact Or.inr (congrArg (resp.changedAccountKeys ++ [·]) hkey)
          · exact Or.inl rfl
        refine ih (fun key hmem => ?_) ?_
        · change key ∈ (resp.noteChanged imported.1).changedAccountKeys at hmem
          rcases hkeys with hsame | hadded
          · exact List.mem_cons_of_mem _ (hseen key (hsame ▸ hmem))
          · rw [hadded, List.mem_append, List.mem_singleton] at hmem
            rcases hmem with hmem | rfl
            · exact List.mem_cons_of_mem _ (hseen key hmem)
            · exact List.mem_cons_self
        · change (resp.noteChanged imported.1).changedAccountKeys.Nodup
          rcases hkeys with hsame | hadded
          · rw [hsame]
            exact honce
          · rw [hadded, List.nodup_append]
            refine ⟨honce, List.nodup_singleton _, fun a ha b hb => ?_⟩
            rw [List.mem_singleton.mp hb]
            exact fun heq => hnew (heq ▸ hseen a ha)

theorem append_singleton_inj {α : Type} {xs ys : List α} {a b : α} :
    xs ++ [a] = ys ++ [b] ↔ xs = ys ∧ a = b := by
  constructor
  · intro h
    obtain ⟨hinit, hlast⟩ := List.append_inj' h rfl
    exact ⟨hinit, (List.cons.inj hlast).1⟩
  · rintro ⟨rfl, rfl⟩
    rfl

/-- The loops give the same verdicts exactly when no first item of a key has a conflict. -/
theorem verdicts_eq_iff (hthere : (v.db.cpaServices.find? svc.id).isSome = true)
    (hpool : (v.db.pools.find? poolID).isSome = true) {items : List BatchItem}
    (hparsed : ∀ item ∈ items, item.Parsed) {w : Vault} {seen : List Str}
    (hsame : SameElsewhere svc seen v w) (resp resp' : BatchResponse) :
    (previewItems svc v.db seen resp items).verdicts =
        (importItems t svc enabled poolID env w seen resp' items).1.verdicts ↔
      resp.verdicts = resp'.verdicts ∧ ∀ item ∈ firstUploads seen items, ¬ item.Conflicts v := by
  induction items generalizing seen resp resp' w with
  | nil => exact ⟨fun h => ⟨h, fun _ hmem => absurd hmem List.not_mem_nil⟩, fun h => h.1⟩
  | cons item items ih =>
    have hrest := fun other hmem => hparsed other (List.mem_cons_of_mem item hmem)
    have hitem := hparsed item List.mem_cons_self
    unfold previewItems importItems firstUploads
    by_cases hfailed : item.status = .failed
    · rw [if_pos hfailed, if_pos hfailed, if_pos (Or.inl hfailed), ih hrest hsame, verdicts_add,
        verdicts_add, append_singleton_inj]
      simp only [and_true]
    · rw [if_neg hfailed, if_neg hfailed]
      by_cases hseen : item.accountKey ∈ seen
      · rw [if_pos hseen, if_pos hseen, if_pos (Or.inr hseen), ih hrest hsame, verdicts_add,
          verdicts_add, append_singleton_inj]
        simp only [and_true]
      · obtain ⟨hverdict, hnext⟩ := @importItem_spec t svc enabled poolID (env resp'.items.length)
          v w item seen hsame hseen (hitem.key hfailed) hitem.action hthere hpool
        rw [if_neg hseen, if_neg hseen, if_neg (not_or.mpr ⟨hfailed, hseen⟩)]
        dsimp only
        rw [ih hrest hnext, verdicts_add, verdicts_add, append_singleton_inj, verdicts_noteChanged,
          hverdict, List.forall_mem_cons, and_assoc]

end Loops

/-! ## Whole batches -/

/-- The preview says of each file what the import then does, both count every file once, and
the import changes each account key at most once. -/
structure BatchAccurate (files : List UploadedFile) (preview imported : BatchResponse) : Prop where
  verdicts : preview.verdicts = imported.verdicts
  summary : preview.summary = imported.summary
  previewTotal : preview.summary.total = files.length
  importTotal : imported.summary.total = files.length
  once : imported.changedAccountKeys.Nodup

/-- Either both requests are refused, or the preview is accurate. -/
def PreviewAccurate (files : List UploadedFile) (preview : Option BatchResponse)
    (imported : Option (BatchResponse × Vault)) : Prop :=
  (preview = none ∧ imported = none) ∨
    ∃ p i, preview = some p ∧ imported = some i ∧ BatchAccurate files p i.1

/-- The preview of a batch is accurate exactly when the request is refused, or when of the
files that are read, the first of each account key replaces no credential that names
another account. -/
theorem preview_accurate_iff (m : CaseMap) (t : Tokens) (env : Nat → StoreEnv) (v : Vault)
    (enabled : Bool) (poolID : Int) (files : List UploadedFile) :
    PreviewAccurate files (previewCpaAuthJSONBatch m t v.db poolID files)
        (importCpaAuthJSONBatch m t env v enabled poolID files) ↔
      prepareCpaAuthJSONBatch m t v.db poolID files = none ∨
        ∀ item ∈ firstUploads [] (files.map (parseCpaAuthJSONBatchFile m)), ¬ item.Conflicts v := by
  unfold previewCpaAuthJSONBatch importCpaAuthJSONBatch
  cases hprepare : prepareCpaAuthJSONBatch m t v.db poolID files with
  | none => exact iff_of_true (Or.inl ⟨rfl, rfl⟩) (Or.inl rfl)
  | some prepared =>
    obtain ⟨svc, items⟩ := prepared
    obtain ⟨hthere, hpool, rfl⟩ := of_prepareCpaAuthJSONBatch hprepare
    have hparsed : ∀ item ∈ files.map (parseCpaAuthJSONBatchFile m), item.Parsed := by
      intro item hitem
      obtain ⟨file, -, rfl⟩ := List.mem_map.mp hitem
      exact parsed_parseCpaAuthJSONBatchFile m file
    have hverdicts := @verdicts_eq_iff t svc enabled poolID env v hthere hpool _ hparsed v []
      sameElsewhere_refl {} {}
    obtain ⟨hpreview, hpreviewLength⟩ := @previewItems_spec svc v.db {} rfl []
      (files.map (parseCpaAuthJSONBatchFile m))
    obtain ⟨himport, himportLength⟩ := @importItems_spec t svc enabled poolID env v {} rfl []
      (files.map (parseCpaAuthJSONBatchFile m))
    have honce := @importItems_once t svc enabled poolID env v {} []
      (fun _ hmem => absurd hmem List.not_mem_nil) List.nodup_nil
      (files.map (parseCpaAuthJSONBatchFile m))
    rw [List.length_map] at hpreviewLength himportLength
    constructor
    · rintro (⟨hnone, -⟩ | ⟨p, i, hp, hi, haccurate⟩)
      · contradiction
      · obtain rfl := Option.some.inj hp
        obtain rfl := Option.some.inj hi
        exact Or.inr (hverdicts.mp haccurate.verdicts).2
    · intro h
      have hsame := hverdicts.mpr ⟨rfl, h.resolve_left (Option.some_ne_none _)⟩
      refine Or.inr ⟨_, _, rfl, rfl, hsame, ?_, ?_, ?_, honce⟩
      · rw [hpreview, himport, hsame]
      · rw [hpreview, total_tally, hpreviewLength]
        exact Nat.zero_add _
      · rw [himport, total_tally, himportLength]
        exact Nat.zero_add _

/-- A credential of one account under the key of a mailbox. -/
def occupiedVault : Vault where
  dir := Table.empty.set (lit "codex-a@b.c-unknown.json",
    lit "\x7b\"type\":\"codex\",\"email\":\"a@b.c\",\"account_id\":\"1\"\x7d")
  db := { cpaServices := Table.empty.set { id := 1 }, pools := Table.empty.set { id := 9 } }

/-- An upload of another account of that mailbox. -/
def otherAccountFile : UploadedFile where
  fileName := lit "other.json"
  data := lit "\x7b\"type\":\"codex\",\"email\":\"a@b.c\",\"account_id\":\"2\",\"refresh_token\":\"r\",\"access_token\":\"a\"\x7d"

theorem not_previewAccurate {files : List UploadedFile} {p : Option BatchResponse}
    {i : Option (BatchResponse × Vault)} {verdicts verdicts' : List ItemStatus}
    (hp : p.map BatchResponse.verdicts = some verdicts)
    (hi : i.map (fun r => r.1.verdicts) = some verdicts') (hne : verdicts ≠ verdicts') :
    ¬ PreviewAccurate files p i := by
  obtain ⟨preview, rfl, rfl⟩ := Option.map_eq_some_iff.mp hp
  obtain ⟨⟨imported, w⟩, rfl, rfl⟩ := Option.map_eq_some_iff.mp hi
  rintro (⟨hnone, -⟩ | ⟨p, i, hp, hi, haccurate⟩)
  · contradiction
  · rw [← Option.some.inj hp, ← Option.some.inj hi] at haccurate
    exact hne haccurate.verdicts

/-- The preview announces an account that the import refuses to create. -/
theorem refused_file_previewed :
    ¬ ∀ (m : CaseMap) (t : Tokens) (env : Nat → StoreEnv) (v : Vault) (enabled : Bool) (poolID : Int)
      (files : List UploadedFile),
      PreviewAccurate files (previewCpaAuthJSONBatch m t v.db poolID files)
        (importCpaAuthJSONBatch m t env v enabled poolID files) := by
  intro h
  have hpreview : (previewCpaAuthJSONBatch asciiCase authTokens occupiedVault.db 9
      [otherAccountFile]).map BatchResponse.verdicts = some [.created] := by decide +kernel
  have himport : (importCpaAuthJSONBatch asciiCase authTokens (fun _ => someMoment) occupiedVault true
      9 [otherAccountFile]).map (fun r => r.1.verdicts) = some [.failed] := by decide +kernel
  exact not_previewAccurate hpreview himport (by decide)
    (h asciiCase authTokens (fun _ => someMoment) occupiedVault true 9 [otherAccountFile])

end Lune.Admin
