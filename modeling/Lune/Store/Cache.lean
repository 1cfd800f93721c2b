import Lune.Store.Models
import Mathlib.Data.List.Sort

/-!
# The routing snapshot

`CacheSnapshot` and `loadFromDB` of `internal/store/cache.go`.  A load makes
several reads, each of which may fail on its own; `TableReads` holds what they
returned, and `none` is a read that failed.  A failed read leaves its part of
the snapshot empty, except that without the diagnostics every account is marked.
-/

namespace Lune.Store

open GoText Keyed

/-- `CacheSnapshot`. -/
structure CacheSnapshot where
  pools : GoMap Int Pool := Table.empty
  accounts : GoMap Int Account := Table.empty
  members : GoMap Int (List PoolMember) := Table.empty
  modelIndex : GoMap Str (List Int) := Table.empty
  tokens : List AccessToken := []
  settings : GoMap Str Str := Table.empty
  cpaServices : GoMap Int CpaService := Table.empty
deriving Inhabited

/-- What the reads of one load returned.  The rows of `members` and `models`
are those whose scan succeeded. -/
structure TableReads where
  accounts : Option (List Account)
  diagnostics : Option (GoMap Int AccountDiagnostic)
  pools : Option (List Pool)
  members : Option (List PoolMemberRow)
  models : Option (List AccountModelRow)
  tokens : Option (List AccessToken)
  settings : Option (GoMap Str Str)
  services : Option (List CpaService)

/-- The order of the members of a pool. -/
def memberLe (m n : PoolMember) : Prop :=
  m.position < n.position ∨ m.position = n.position ∧ m.id ≤ n.id

instance (m n : PoolMember) : Decidable (memberLe m n) :=
  inferInstanceAs (Decidable (_ ∨ _ ∧ _))

/-- `loadAccountDiagnostics`. -/
def loadAccountDiagnostics (accounts : GoMap Int Account)
    (diagnostics : Option (GoMap Int AccountDiagnostic)) : GoMap Int Account :=
  match diagnostics with
  | none => accounts.mapValues fun acc => { acc with diagnosticLoadFailed := true }
  | some diagnostics =>
    diagnostics.rows.foldl (fun m d => m.update d.1 (attachAccountDiagnostic · d.2)) accounts

/-- `loadMembers`. -/
def loadMembers (accounts : GoMap Int Account) (rows : List PoolMemberRow) :
    GoMap Int (List PoolMember) :=
  (rows.foldl (fun (m : GoMap Int (List PoolMember)) row =>
      m.push row.poolID { row with account := accounts.get? row.accountID })
    Table.empty).mapValues (List.insertionSort memberLe)

/-- `loadModelIndex`. -/
def loadModelIndex (rows : List AccountModelRow) : GoMap Str (List Int) :=
  rows.foldl (fun (m : GoMap Str (List Int)) row => m.push row.modelID row.accountID) Table.empty

/-- `loadFromDB`. -/
def loadFromDB (reads : TableReads) : CacheSnapshot :=
  let accounts := (reads.accounts.getD []).foldl
    (fun (m : GoMap Int Account) acc => m.put acc.id acc) Table.empty
  let accounts := loadAccountDiagnostics accounts reads.diagnostics
  { accounts := accounts
    pools := (reads.pools.getD []).foldl (fun (m : GoMap Int Pool) p => m.put p.id p) Table.empty
    members := loadMembers accounts (reads.members.getD [])
    modelIndex := loadModelIndex (reads.models.getD [])
    tokens := reads.tokens.getD []
    settings := reads.settings.getD Table.empty
    cpaServices := (reads.services.getD []).foldl
      (fun (m : GoMap Int CpaService) svc => m.put svc.id svc) Table.empty }

namespace CacheSnapshot

/-- `snap.Members[poolID]`, empty when the pool has none. -/
def membersOf (snap : CacheSnapshot) (poolID : Int) : List PoolMember :=
  (snap.members.get? poolID).getD []

/-- `FindAccessToken`. -/
def findAccessToken (snap : CacheSnapshot) (tokenValue : Str) : Option AccessToken :=
  snap.tokens.find? fun t => t.token = tokenValue

/-- `GetSetting`: the value, and the empty text without one. -/
def getSetting (snap : CacheSnapshot) (key : Str) : Str := (snap.settings.get? key).getD []

/-- `GetCpaService`. -/
def getCpaService (snap : CacheSnapshot) (id : Int) : Option CpaService := snap.cpaServices.get? id

/-- `GetAllModels`. -/
def getAllModels (snap : CacheSnapshot) : List Str :=
  (snap.modelIndex.rows.map Prod.fst).insertionSort (· ≤ ·)

end CacheSnapshot

/-! ## What a load finds -/

/-- Attaching diagnostics keeps an account and its row. -/
theorem get?_loadAccountDiagnostics (accounts : GoMap Int Account)
    (diagnostics : GoMap Int AccountDiagnostic) (id : Int) :
    (loadAccountDiagnostics accounts (some diagnostics)).get? id =
      match diagnostics.get? id with
      | some diag => (accounts.get? id).map (attachAccountDiagnostic · diag)
      | none => accounts.get? id := by
  rw [loadAccountDiagnostics, GoMap.get?_foldl_update attachAccountDiagnostic _ diagnostics.nodup]
  simp only [GoMap.get?, Table.find?]
  cases diagnostics.rows.find? fun u => u.1 = id <;> rfl

/-- The members of a pool are its rows, in some order. -/
theorem membersOf_loadFromDB_perm (reads : TableReads) (poolID : Int) :
    ((loadFromDB reads).membersOf poolID).Perm
      (((reads.members.getD []).filter fun row => row.poolID = poolID).map fun row =>
        { row with account := (loadFromDB reads).accounts.get? row.accountID }) := by
  have hgroup := GoMap.get?_foldl_push PoolMemberRow.poolID
    (fun row : PoolMemberRow => ({ row with account := (loadFromDB reads).accounts.get? row.accountID } : PoolMember))
    (reads.members.getD []) Table.empty poolID
  rw [GoMap.get?_empty, Option.getD_none, List.nil_append] at hgroup
  rw [← hgroup]
  simp only [CacheSnapshot.membersOf, loadFromDB, loadMembers, GoMap.get?_mapValues]
  generalize GoMap.get? _ poolID = found
  cases found with
  | none => exact List.Perm.refl _
  | some members => exact List.perm_insertionSort memberLe members

end Lune.Store
