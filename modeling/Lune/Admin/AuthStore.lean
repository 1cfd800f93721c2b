import Lune.Admin.VaultSteps
import Lune.Cpa.AuthFileText
import Mathlib.Data.List.Sort

/-!
# The auth directory as a store of credentials

`WriteAuthFile`, `DeleteAuthFile` and `ReadAuthFile` of `internal/cpa/authfile.go` on one directory,
where a write may break off at any of its steps and leave a half written file beside the one that it
is for.  By their account keys the credentials are what the operations that reported success have
made of them, and `ScanAuthDirKeyed` lists the same credentials.
-/

namespace Lune.Admin

open GoText Keyed Scripts Lune.Store Lune.Health Lune.Cpa

/-! ## The directory -/

/-- An operation on the directory, with the steps of it that fail. -/
inductive DirectoryEvent where
  | write (accountKey : Str) (f : CpaAuthFile) (fault : Stage → Fault)
  | delete (accountKey : Str) (fault : Stage → Fault)

/-- `ScannedAccount`. -/
structure ScannedAccount where
  key : Str
  file : CpaAuthFile

/-- `ScanAuthDirKeyed`: the files of the directory come by their names, and one that is no
credential is passed over. -/
def scanAuthDirKeyed (dir : GoMap Str Str) : List ScannedAccount :=
  (dir.rows.insertionSort fun a b => a.1 ≤ b.1).filterMap fun entry =>
    if hasSuffix entry.1 (lit ".json") then
      (unmarshalAuthFile entry.2).map fun f => ⟨trimSuffix entry.1 (lit ".json"), f⟩
    else none

namespace DirectoryEvent

/-- What the operation does. -/
def script : DirectoryEvent → VaultScript (Option Unit)
  | write accountKey f fault => writeAuthFile fault accountKey f
  | delete accountKey fault => deleteAuthFile fault .deleteFile accountKey

def accountKey : DirectoryEvent → Str
  | write accountKey _ _ | delete accountKey _ => accountKey

/-- The credential that is meant to be there afterwards. -/
def credential : DirectoryEvent → Option CpaAuthFile
  | write _ f _ => some (validAuthFile f)
  | delete _ _ => none

/-- The operation reports no error. -/
def succeeds (env : StoreEnv) (v : Vault) (e : DirectoryEvent) : Bool :=
  (e.script.run env v).1.isSome

/-- The directory after the operation. -/
def next (env : StoreEnv) (v : Vault) (e : DirectoryEvent) : Vault := (e.script.run env v).2

/-- What has been reported as done, with what it was meant to leave. -/
def reported (env : StoreEnv) (v : Vault) : List DirectoryEvent → List (Str × Option CpaAuthFile)
  | [] => []
  | e :: es =>
    if e.succeeds env v then (e.accountKey, e.credential) :: reported env (e.next env v) es
    else reported env (e.next env v) es

end DirectoryEvent

/-- What the last report on a key says that there is. -/
def lastReport (reports : List (Str × Option CpaAuthFile)) (key : Str) :
    Option (Option CpaAuthFile) :=
  ((reports.filter fun r => r.1 = key).getLast?).map Prod.snd

theorem lastReport_cons (r : Str × Option CpaAuthFile) (reports : List (Str × Option CpaAuthFile))
    (key : Str) :
    lastReport (r :: reports) key =
      (lastReport reports key).or (if r.1 = key then some r.2 else none) := by
  unfold lastReport
  by_cases hkey : r.1 = key
  · rw [List.filter_cons_of_pos (by simpa using hkey), List.getLast?_cons, if_pos hkey]
    cases (reports.filter fun r => r.1 = key).getLast? with
    | none => rfl
    | some last => rfl
  · rw [List.filter_cons_of_neg (by simpa using hkey), if_neg hkey, Option.or_none]

/-! ## One operation -/

section Steps

variable {env : StoreEnv} {v : Vault} {key : Str}

theorem fileName_injective {k k' : Str} (h : fileName k = fileName k') : k = k' :=
  List.append_cancel_right h

theorem authFile_eq_of_get? {v' : Vault}
    (h : v'.dir.get? (fileName key) = v.dir.get? (fileName key)) :
    v'.authFile key = v.authFile key := by
  unfold Vault.authFile
  rw [h]

/-- A file that is being written is no credential. -/
theorem authFile_put_temp (accountKey data : Str) :
    ({ v with dir := v.dir.put (tempName accountKey) data } : Vault).authFile key =
      v.authFile key := by
  refine authFile_eq_of_get? ?_
  rw [GoMap.get?_put, if_neg (fileName_ne_tempName key accountKey).symm]

/-- A file that was written to its end is read back. -/
theorem authFile_written {accountKey : Str} (hkey : validateAccountKey accountKey = true)
    (f : CpaAuthFile) :
    ({ v with dir := written v.dir accountKey (marshalAuthFile f) } : Vault).authFile key =
      if accountKey = key then some (validAuthFile f) else v.authFile key := by
  by_cases hsame : accountKey = key
  · subst hsame
    rw [if_pos rfl, Vault.authFile, if_pos hkey, get?_written,
      if_neg (fileName_ne_tempName accountKey accountKey), if_pos rfl]
    exact unmarshalAuthFile_marshalAuthFile f
  · have hfile : fileName key ≠ fileName accountKey := fun h => hsame (fileName_injective h).symm
    rw [if_neg hsame]
    refine authFile_eq_of_get? ?_
    rw [get?_written, if_neg (fileName_ne_tempName key accountKey), if_neg hfile]

theorem authFile_erased {accountKey : Str} :
    ({ v with dir := Table.erase v.dir (fileName accountKey) } : Vault).authFile key =
      if accountKey = key then none else v.authFile key := by
  by_cases hsame : accountKey = key
  · subst hsame
    rw [if_pos rfl, Vault.authFile, GoMap.get?_erase, if_pos rfl]
    exact ite_self none
  · have hfile : fileName key ≠ fileName accountKey := fun h => hsame (fileName_injective h).symm
    rw [if_neg hsame]
    refine authFile_eq_of_get? ?_
    rw [GoMap.get?_erase, if_neg hfile]

/-- `WriteAuthFile`: a write that breaks off leaves every credential as it was. -/
theorem authFile_write (accountKey : Str) (f : CpaAuthFile) (fault : Stage → Fault) :
    let ran := (writeAuthFile fault accountKey f).run env v
    ran.2.authFile key =
      if ran.1.isSome ∧ accountKey = key then some (validAuthFile f) else v.authFile key := by
  intro ran
  have hbroken (w : Vault) (hran : ran = (none, w)) (hw : w.authFile key = v.authFile key) :
      ran.2.authFile key =
        if ran.1.isSome ∧ accountKey = key then some (validAuthFile f) else v.authFile key := by
    rw [hran, if_neg fun h => Bool.noConfusion h.1]
    exact hw
  by_cases hkey : validateAccountKey accountKey = true
  · have hscript : writeAuthFile fault accountKey f = _ := if_neg (by rw [hkey]; decide)
    have hran := congrArg (fun script => script.run env v) hscript
    cases htemp : fault .writeTemp with
    | none =>
      by_cases hrename : fault .rename = .none
      · have hdone : ran = (some (), { v with dir := written v.dir accountKey (marshalAuthFile f) }) :=
          run_writeAuthFile hkey htemp hrename
        rw [hdone, authFile_written hkey]
        simp only [Option.isSome_some, true_and]
      · have hfails : ∀ w, (renameTemp fault accountKey).run env w = (none, w) :=
          fun _ => run_statement_of_none fun hnone => absurd hnone hrename
        refine hbroken { v with dir := v.dir.put (tempName accountKey) (marshalAuthFile f) }
          (hran.trans ?_) (authFile_put_temp accountKey _)
        simp only [Script.run_bind, writeTemp, Script.run_act, htemp, hfails]
    | early =>
      refine hbroken v (hran.trans ?_) rfl
      simp only [Script.run_bind, writeTemp, Script.run_act, htemp, Script.run_pure]
    | late left =>
      refine hbroken { v with dir := v.dir.put (tempName accountKey) left } (hran.trans ?_)
        (authFile_put_temp accountKey left)
      simp only [Script.run_bind, writeTemp, Script.run_act, htemp, Script.run_pure]
  · have hscript : writeAuthFile fault accountKey f = pure none := if_pos (by simpa using hkey)
    exact hbroken v (congrArg (fun script => script.run env v) hscript) rfl

/-- `DeleteAuthFile`. -/
theorem authFile_delete (accountKey : Str) (fault : Stage → Fault) (stage : Stage) :
    let ran := (deleteAuthFile fault stage accountKey).run env v
    ran.2.authFile key =
      if ran.1.isSome ∧ accountKey = key then none else v.authFile key := by
  intro ran
  by_cases hdone : fault stage = .none ∧ validateAccountKey accountKey = true
  · have hran : ran = (some (), { v with dir := Table.erase v.dir (fileName accountKey) }) :=
      run_statement hdone.1 (if_neg (by rw [hdone.2]; decide))
    rw [hran, authFile_erased]
    simp only [Option.isSome_some, true_and]
  · have hran : ran = (none, v) := by
      refine run_statement_of_none fun hnone => if_pos ?_
      simpa using not_and.mp hdone hnone
    rw [hran, if_neg fun h => Bool.noConfusion h.1]

/-- The credential of a key after an operation. -/
theorem authFile_next (e : DirectoryEvent) :
    (e.next env v).authFile key =
      if e.succeeds env v ∧ e.accountKey = key then e.credential else v.authFile key :=
  match e with
  | .write accountKey f fault => authFile_write accountKey f fault
  | .delete accountKey fault => authFile_delete accountKey fault .deleteFile

end Steps

/-! ## The directory as a whole -/

section Scan

/-- A name that ends in `.json` is the name of one key. -/
theorem fileName_trimSuffix {name : Str} (h : hasSuffix name (lit ".json") = true) :
    fileName (trimSuffix name (lit ".json")) = name := by
  obtain ⟨front, rfl⟩ := List.isSuffixOf_iff_suffix.mp h
  rw [trimSuffix, if_pos h, List.length_append, Nat.add_sub_cancel, List.take_left, fileName]

theorem hasSuffix_fileName (key : Str) : hasSuffix (fileName key) (lit ".json") = true :=
  List.isSuffixOf_iff_suffix.mpr (List.suffix_append key (lit ".json"))

theorem trimSuffix_fileName (key : Str) : trimSuffix (fileName key) (lit ".json") = key :=
  fileName_injective (fileName_trimSuffix (hasSuffix_fileName key))

theorem mem_scanAuthDirKeyed {dir : GoMap Str Str} {a : ScannedAccount} :
    a ∈ scanAuthDirKeyed dir ↔ (dir.get? (fileName a.key)).bind unmarshalAuthFile = some a.file := by
  have hget (name data : Str) : dir.get? name = some data ↔ (name, data) ∈ dir.rows := by
    rw [GoMap.get?, Option.map_eq_some_iff]
    constructor
    · rintro ⟨row, hrow, rfl⟩
      obtain ⟨hmem, rfl⟩ := Table.find?_eq_some_iff.mp hrow
      exact hmem
    · intro hmem
      exact ⟨(name, data), Table.find?_of_mem hmem, rfl⟩
  rw [scanAuthDirKeyed, List.mem_filterMap, Option.bind_eq_some_iff]
  constructor
  · rintro ⟨⟨name, data⟩, hmem, hentry⟩
    split at hentry
    · rename_i hsuffix
      obtain ⟨f, hf, rfl⟩ := Option.map_eq_some_iff.mp hentry
      refine ⟨data, ?_, hf⟩
      rw [fileName_trimSuffix hsuffix, hget]
      exact (List.mem_insertionSort _).mp hmem
    · contradiction
  · rintro ⟨data, hdata, hf⟩
    refine ⟨(fileName a.key, data), (List.mem_insertionSort _).mpr ((hget _ _).mp hdata), ?_⟩
    dsimp only
    rw [if_pos (hasSuffix_fileName a.key), hf, trimSuffix_fileName]
    rfl

theorem nodup_scanAuthDirKeyed (dir : GoMap Str Str) :
    ((scanAuthDirKeyed dir).map ScannedAccount.key).Nodup := by
  have hnames : (dir.rows.insertionSort fun a b => a.1 ≤ b.1).Pairwise fun a b => a.1 ≠ b.1 :=
    List.pairwise_map.mp
      (((List.perm_insertionSort _ dir.rows).map Prod.fst).nodup_iff.mpr dir.nodup)
  rw [scanAuthDirKeyed, List.Nodup, List.pairwise_map, List.pairwise_filterMap]
  refine hnames.imp fun hne a ha b hb heq => hne ?_
  split at ha
  · rename_i hsuffix
    split at hb
    · rename_i hsuffix'
      obtain ⟨f, -, rfl⟩ := Option.map_eq_some_iff.mp ha
      obtain ⟨g, -, rfl⟩ := Option.map_eq_some_iff.mp hb
      -- Both names are the name of the key.
      rw [← fileName_trimSuffix hsuffix, ← fileName_trimSuffix hsuffix']
      exact congrArg fileName heq
    · contradiction
  · contradiction

/-- A key is listed with its credential, and once. -/
theorem filter_scanAuthDirKeyed {v : Vault} {key : Str} (hkey : validateAccountKey key = true) :
    (scanAuthDirKeyed v.dir).filter (fun a => a.key = key) =
      (v.authFile key).toList.map (ScannedAccount.mk key) := by
  let listed : Table ScannedAccount.key := ⟨scanAuthDirKeyed v.dir, nodup_scanAuthDirKeyed v.dir⟩
  have hfind : listed.find? key = (v.authFile key).map (ScannedAccount.mk key) := by
    refine Option.ext fun a => ?_
    rw [Table.find?_eq_some_iff, mem_scanAuthDirKeyed, Vault.authFile, if_pos hkey,
      Option.map_eq_some_iff]
    constructor
    · rintro ⟨hmem, rfl⟩
      exact ⟨a.file, hmem, rfl⟩
    · rintro ⟨f, hf, rfl⟩
      exact ⟨hf, rfl⟩
  have hfilter := listed.filter_key key
  rw [hfind] at hfilter
  rw [hfilter]
  cases v.authFile key with
  | none => rfl
  | some f => rfl

end Scan

section Runs

variable {env : StoreEnv} {key : Str}

theorem authFile_foldl_next (es : List DirectoryEvent) (v : Vault) :
    (es.foldl (DirectoryEvent.next env) v).authFile key =
      (lastReport (DirectoryEvent.reported env v es) key).getD (v.authFile key) := by
  induction es generalizing v with
  | nil => rfl
  | cons e es ih =>
    rw [List.foldl_cons, ih, authFile_next, DirectoryEvent.reported]
    by_cases hdone : e.succeeds env v = true
    · rw [if_pos hdone, lastReport_cons]
      by_cases hkey : e.accountKey = key
      · rw [if_pos ⟨hdone, hkey⟩, if_pos hkey]
        cases lastReport (DirectoryEvent.reported env (e.next env v) es) key with
        | none => rfl
        | some last => rfl
      · rw [if_neg (not_and.mpr fun _ => hkey), if_neg hkey, Option.or_none]
    · rw [if_neg (not_and.mpr fun h => absurd h hdone), if_neg hdone]

end Runs

/-- In every run of operations, whatever steps of them fail, the credential of a key is the one
that the last operation on it which reported success has left, and the scan lists it once. -/
theorem credentials_as_reported (env : StoreEnv) (v : Vault) (es : List DirectoryEvent) (key : Str)
    (hkey : validateAccountKey key = true) :
    let w := es.foldl (DirectoryEvent.next env) v
    w.authFile key =
        (lastReport (DirectoryEvent.reported env v es) key).getD (v.authFile key) ∧
      (scanAuthDirKeyed w.dir).filter (fun a => a.key = key) =
        (w.authFile key).toList.map (ScannedAccount.mk key) :=
  ⟨authFile_foldl_next es v, filter_scanAuthDirKeyed hkey⟩

/-- A login is written, the next one breaks off between its two files, and so does the deletion
after it: the first login is what there is. -/
theorem broken_writes_reported :
    let f : CpaAuthFile := { email := lit "a@b.c", type := lit "codex" }
    let events : List DirectoryEvent :=
      [.write (lit "codex-a") f fun _ => .none,
        .write (lit "codex-a") { f with disabled := true }
          fun stage => if stage = .rename then .early else .none,
        .delete (lit "codex-a") fun _ => .early]
    let env : StoreEnv := ⟨default, fun _ => []⟩
    let w := events.foldl (DirectoryEvent.next env) ⟨Table.empty, default⟩
    w.authFile (lit "codex-a") = some (validAuthFile f) := by
  intro f events env w
  have hreported := (credentials_as_reported env ⟨Table.empty, default⟩ events (lit "codex-a")
    (by decide)).1
  exact hreported.trans rfl

end Lune.Admin
