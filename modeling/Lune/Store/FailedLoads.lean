import Lune.Store.Database

/-!
# Loads that fail

`RoutingCache` of `internal/store/cache.go` as one goroutine after the other
uses it, with loads of which some reads fail.  `loadFromDB` drops the part of
the snapshot that was not read and `Get` stamps what is left with the current
version, so the next calls return it until an `Invalidate`.

`Harmless` says which failures leave no trace.
-/

namespace Lune.Store

open GoText Keyed

/-! ## Reads that fail -/

/-- The reads of a load that fail.  The members and the models of accounts are
read row by row, and a row whose scan fails is passed over. -/
structure ReadFailures where
  accounts : Bool := false
  diagnostics : Bool := false
  pools : Bool := false
  members : Bool := false
  memberRow : Int → Bool := fun _ => false
  models : Bool := false
  modelRow : Int → Bool := fun _ => false
  tokens : Bool := false
  settings : Bool := false
  services : Bool := false

/-- What a read returns. -/
def readUnless {α : Type} (failed : Bool) (found : α) : Option α :=
  if failed then none else some found

/-- What the reads of one load return when these fail. -/
def Database.failedReads (db : Database) (now : Clock) (f : ReadFailures) : TableReads where
  accounts := readUnless f.accounts db.listAccounts
  diagnostics := readUnless f.diagnostics db.listAccountDiagnostics
  pools := readUnless f.pools (db.listPools now)
  members := readUnless f.members
    ((db.poolMembers.rows.insertionSort memberRowLe).filter fun row => !f.memberRow row.id)
  models := readUnless f.models (db.accountModels.rows.filter fun row => !f.modelRow row.id)
  tokens := readUnless f.tokens (db.accessTokens.rows.insertionSort fun t u => t.id ≤ u.id)
  settings := readUnless f.settings db.systemConfig
  services := readUnless f.services (db.cpaServices.rows.insertionSort fun s t => s.id ≤ t.id)

/-- No failed read would have returned anything. -/
structure ReadFailures.Harmless (f : ReadFailures) (db : Database) : Prop where
  accounts : f.accounts = true ∨ f.diagnostics = true → db.accounts.rows = []
  pools : f.pools = true → db.pools.rows = []
  members : ∀ row ∈ db.poolMembers.rows, f.members = false ∧ f.memberRow row.id = false
  models : ∀ row ∈ db.accountModels.rows, f.models = false ∧ f.modelRow row.id = false
  tokens : f.tokens = true → db.accessTokens.rows = []
  settings : f.settings = true → db.systemConfig.rows = []
  services : f.services = true → db.cpaServices.rows = []

/-! ## The cache -/

/-- `RoutingCache`. -/
structure RoutingCache where
  version : Nat := 0
  dbVer : Nat := 1
  snapshot : Option CacheSnapshot := none

namespace RoutingCache

/-- `Invalidate`. -/
def invalidate (c : RoutingCache) : RoutingCache := { c with dbVer := c.dbVer + 1 }

/-- `Get`, when `load` is what `loadFromDB` would return now. -/
def get (c : RoutingCache) (load : CacheSnapshot) : CacheSnapshot × RoutingCache :=
  match c.snapshot with
  | some snap =>
    if c.version = c.dbVer then (snap, c)
    else (load, { c with snapshot := some load, version := c.dbVer })
  | none => (load, { c with snapshot := some load, version := c.dbVer })

/-- The cache after several calls of `Get`. -/
def gets (c : RoutingCache) (loads : List CacheSnapshot) : RoutingCache :=
  loads.foldl (fun c load => (c.get load).2) c

/-- The cache holds this snapshot as the current one. -/
def Holds (c : RoutingCache) (snap : CacheSnapshot) : Prop :=
  c.snapshot = some snap ∧ c.version = c.dbVer

/-- The next `Get` loads. -/
def Loads (c : RoutingCache) : Prop := ∀ snap, ¬ c.Holds snap

theorem get_of_holds {c : RoutingCache} {snap : CacheSnapshot} (h : c.Holds snap)
    (load : CacheSnapshot) : c.get load = (snap, c) := by
  rw [get, h.1]
  exact if_pos h.2

/-- A load is stamped whatever it returned. -/
theorem get_of_loads {c : RoutingCache} (h : c.Loads) (load : CacheSnapshot) :
    (c.get load).1 = load ∧ (c.get load).2.Holds load := by
  unfold get
  split
  next snap hsnap =>
    have hne : ¬ c.version = c.dbVer := fun heq => h snap ⟨hsnap, heq⟩
    rw [if_neg hne]
    exact ⟨rfl, rfl, rfl⟩
  · exact ⟨rfl, rfl, rfl⟩

/-- `Get` keeps a snapshot that is current. -/
theorem gets_of_holds {c : RoutingCache} {snap : CacheSnapshot} (h : c.Holds snap)
    (loads : List CacheSnapshot) : c.gets loads = c := by
  induction loads with
  | nil => rfl
  | cons load loads ih =>
    show (c.get load).2.gets loads = c
    rw [get_of_holds h load]
    exact ih

/-- `NewRoutingCache` has nothing loaded. -/
theorem loads_new : ({} : RoutingCache).Loads := by
  intro snap h
  have hnone : (none : Option CacheSnapshot) = some snap := h.1
  contradiction

/-- Until the next `Invalidate`, every `Get` returns the snapshot of the last
load. -/
theorem get_after_load {c : RoutingCache} (h : c.Loads) (load : CacheSnapshot)
    (loads : List CacheSnapshot) (later : CacheSnapshot) :
    (((c.get load).2.gets loads).get later).1 = load := by
  have hholds := (get_of_loads h load).2
  rw [gets_of_holds hholds, get_of_holds hholds]

end RoutingCache

/-! ## The content of a snapshot -/

/-- Two snapshots that answer every lookup alike. -/
structure CacheSnapshot.SameContent (s t : CacheSnapshot) : Prop where
  pools : ∀ id, s.pools.get? id = t.pools.get? id
  accounts : ∀ id, s.accounts.get? id = t.accounts.get? id
  members : ∀ poolID, s.membersOf poolID = t.membersOf poolID
  models : ∀ modelID, (s.modelIndex.get? modelID).getD [] = (t.modelIndex.get? modelID).getD []
  tokens : s.tokens = t.tokens
  settings : ∀ key, s.settings.get? key = t.settings.get? key
  services : ∀ id, s.cpaServices.get? id = t.cpaServices.get? id

theorem CacheSnapshot.SameContent.refl (s : CacheSnapshot) : s.SameContent s :=
  ⟨fun _ => rfl, fun _ => rfl, fun _ => rfl, fun _ => rfl, rfl, fun _ => rfl, fun _ => rfl⟩

/-- Without accounts there is nothing to attach a diagnostic to. -/
theorem loadAccountDiagnostics_empty (diagnostics : Option (GoMap Int AccountDiagnostic)) :
    loadAccountDiagnostics Table.empty diagnostics = Table.empty := by
  cases diagnostics with
  | none => rfl
  | some diagnostics =>
    show diagnostics.rows.foldl _ Table.empty = Table.empty
    induction diagnostics.rows with
    | nil => rfl
    | cons d rows ih => exact ih

theorem getD_readUnless {α : Type} {failed : Bool} {found empty : α}
    (h : failed = true → found = empty) : (readUnless failed found).getD empty = found := by
  cases failed with
  | false => rfl
  | true => exact (h rfl).symm

/-- Rows of which none is lost. -/
theorem getD_readUnless_filter {α : Type} {failed : Bool} {lost : α → Bool} {rows : List α}
    (h : ∀ row ∈ rows, failed = false ∧ lost row = false) :
    (readUnless failed (rows.filter fun row => !lost row)).getD [] = rows := by
  have hkept : rows.filter (fun row => !lost row) = rows := by
    rw [List.filter_eq_self]
    intro row hrow
    rw [(h row hrow).2]
    rfl
  rw [hkept]
  apply getD_readUnless
  intro hfailed
  cases rows with
  | nil => rfl
  | cons row rows =>
    have hread := (h row List.mem_cons_self).1
    rw [hfailed] at hread
    contradiction

/-- Failures that lose no row lose nothing. -/
theorem loadFromDB_of_harmless {f : ReadFailures} {db : Database} (now : Clock)
    (h : f.Harmless db) :
    loadFromDB (db.failedReads now f) = loadFromDB (db.tableReads now) := by
  have haccounts : (db.failedReads now f).accounts.getD [] = db.listAccounts := by
    apply getD_readUnless
    intro hfailed
    rw [Database.listAccounts, h.accounts (Or.inl hfailed)]
    rfl
  have hdiagnostics : loadAccountDiagnostics (db.listAccounts.foldl
      (fun (m : GoMap Int Account) acc => m.put acc.id acc) Table.empty)
        (db.failedReads now f).diagnostics =
      loadAccountDiagnostics (db.listAccounts.foldl
        (fun (m : GoMap Int Account) acc => m.put acc.id acc) Table.empty)
        (some db.listAccountDiagnostics) := by
    show loadAccountDiagnostics _ (readUnless _ _) = _
    cases hfailed : f.diagnostics with
    | false => rfl
    | true =>
      rw [Database.listAccounts, h.accounts (Or.inr hfailed)]
      exact (loadAccountDiagnostics_empty _).trans (loadAccountDiagnostics_empty _).symm
  have hpools : (db.failedReads now f).pools.getD [] = db.listPools now := by
    apply getD_readUnless
    intro hfailed
    rw [Database.listPools, h.pools hfailed]
    rfl
  have hmembers : (db.failedReads now f).members.getD [] =
      db.poolMembers.rows.insertionSort Database.memberRowLe := by
    apply getD_readUnless_filter
    intro row hrow
    exact h.members row ((List.perm_insertionSort Database.memberRowLe _).mem_iff.mp hrow)
  have hmodels : (db.failedReads now f).models.getD [] = db.accountModels.rows :=
    getD_readUnless_filter h.models
  have htokens : (db.failedReads now f).tokens.getD [] =
      db.accessTokens.rows.insertionSort fun t u => t.id ≤ u.id := by
    apply getD_readUnless
    intro hfailed
    rw [h.tokens hfailed]
    rfl
  have hsettings : (db.failedReads now f).settings.getD Table.empty = db.systemConfig := by
    apply getD_readUnless
    intro hfailed
    have hrows := h.settings hfailed
    generalize db.systemConfig = settings at hrows ⊢
    obtain ⟨rows, nodup⟩ := settings
    obtain rfl : rows = [] := hrows
    rfl
  have hservices : (db.failedReads now f).services.getD [] =
      db.cpaServices.rows.insertionSort fun s t => s.id ≤ t.id := by
    apply getD_readUnless
    intro hfailed
    rw [h.services hfailed]
    rfl
  unfold loadFromDB
  dsimp only
  rw [haccounts, hdiagnostics, hpools, hmembers, hmodels, htokens, hsettings, hservices]
  rfl

/-! ## What a failure leaves out -/

section Lost

variable {f : ReadFailures} {db : Database} {now : Clock}

/-- A read that returned as many rows of a kind as there are lost none of them. -/
theorem kept_of_length {α : Type} {failed : Bool} (lost p : α → Bool) {rows : List α}
    (h : (((readUnless failed (rows.filter fun row => !lost row)).getD []).filter p).length =
      (rows.filter p).length) {row : α} (hrow : row ∈ rows) (hp : p row = true) :
    failed = false ∧ lost row = false := by
  have hmem : row ∈ rows.filter p := List.mem_filter.mpr ⟨hrow, hp⟩
  cases failed with
  | true =>
    have hnil := List.length_eq_zero_iff.mp h.symm
    rw [hnil] at hmem
    contradiction
  | false =>
    refine ⟨rfl, ?_⟩
    have hcomm : (rows.filter fun row => !lost row).filter p =
        (rows.filter p).filter fun row => !lost row := by
      rw [List.filter_filter, List.filter_filter]
      exact List.filter_congr fun row _ => Bool.and_comm _ _
    have hkept : ((rows.filter p).filter fun row => !lost row).length =
        (rows.filter p).length := hcomm ▸ h
    have hall := List.length_filter_eq_length_iff.mp hkept row hmem
    simpa using hall

theorem accounts_of_sameContent
    (h : (loadFromDB (db.failedReads now f)).SameContent (loadFromDB (db.tableReads now)))
    (hfailed : f.accounts = true ∨ f.diagnostics = true) : db.accounts.rows = [] := by
  rw [List.eq_nil_iff_forall_not_mem]
  intro a ha
  have hget : db.getAccount a.id = some (scanAccountRow a) := by
    rw [Database.getAccount, Table.find?_of_mem ha]
    rfl
  have hclean : ∃ acc, (loadFromDB (db.tableReads now)).accounts.get? a.id = some acc ∧
      acc.diagnosticLoadFailed = false := by
    rw [Database.get?_accounts_loadFromDB, hget]
    cases db.accountDiagnostics.find? a.id with
    | none => exact ⟨_, rfl, rfl⟩
    | some diag => exact ⟨_, rfl, rfl⟩
  obtain ⟨acc, hacc, hunmarked⟩ := hclean
  have hsame := (h.accounts a.id).trans hacc
  cases haccounts : f.accounts with
  | true =>
    have hnone : (loadFromDB (db.failedReads now f)).accounts = Table.empty := by
      show loadAccountDiagnostics (((readUnless f.accounts _).getD []).foldl _ Table.empty) _ = _
      rw [haccounts]
      exact loadAccountDiagnostics_empty _
    rw [hnone] at hsame
    contradiction
  | false =>
    have hdiagnostics : f.diagnostics = true := by
      rcases hfailed with hfailed | hfailed
      · rw [haccounts] at hfailed
        contradiction
      · exact hfailed
    have hmarked : (loadFromDB (db.failedReads now f)).accounts =
        GoMap.mapValues (((readUnless f.accounts db.listAccounts).getD []).foldl
          (fun (m : GoMap Int Account) acc => m.put acc.id acc) Table.empty)
          fun acc => { acc with diagnosticLoadFailed := true } := by
      show loadAccountDiagnostics _ (readUnless f.diagnostics _) = _
      rw [hdiagnostics]
      rfl
    rw [hmarked, GoMap.get?_mapValues] at hsame
    obtain ⟨other, -, rfl⟩ := Option.map_eq_some_iff.mp hsame
    contradiction

theorem members_of_sameContent
    (h : (loadFromDB (db.failedReads now f)).SameContent (loadFromDB (db.tableReads now)))
    {row : PoolMemberRow} (hrow : row ∈ db.poolMembers.rows) :
    f.members = false ∧ f.memberRow row.id = false := by
  have hlength := congrArg List.length (h.members row.poolID)
  rw [(membersOf_loadFromDB_perm _ _).length_eq, (membersOf_loadFromDB_perm _ _).length_eq,
    List.length_map, List.length_map] at hlength
  exact kept_of_length (fun r : PoolMemberRow => f.memberRow r.id)
    (fun r => r.poolID = row.poolID) hlength
    ((List.perm_insertionSort Database.memberRowLe _).mem_iff.mpr hrow) (by simp)

theorem models_of_sameContent
    (h : (loadFromDB (db.failedReads now f)).SameContent (loadFromDB (db.tableReads now)))
    {row : AccountModelRow} (hrow : row ∈ db.accountModels.rows) :
    f.models = false ∧ f.modelRow row.id = false := by
  have hindex : ∀ reads : TableReads,
      (((loadFromDB reads).modelIndex.get? row.modelID).getD []).length =
        ((reads.models.getD []).filter fun r => r.modelID = row.modelID).length := by
    intro reads
    have hgroup := GoMap.get?_foldl_push AccountModelRow.modelID AccountModelRow.accountID
      (reads.models.getD []) Table.empty row.modelID
    show ((GoMap.get? (loadModelIndex _) row.modelID).getD []).length = _
    rw [loadModelIndex, hgroup, GoMap.get?_empty, Option.getD_none, List.nil_append,
      List.length_map]
  have hlength := congrArg List.length (h.models row.modelID)
  rw [hindex, hindex] at hlength
  exact kept_of_length (fun r : AccountModelRow => f.modelRow r.id)
    (fun r => r.modelID = row.modelID) hlength hrow (by simp)

/-- A map that was filled from a failed read is missing what was to be read. -/
theorem nil_of_get? {α : Type} (k : α → Int) {failed : Bool} {found : List α}
    (h : ∀ id, GoMap.get? (((readUnless failed found).getD []).foldl
        (fun (m : GoMap Int α) x => m.put (k x) x) Table.empty) id =
      GoMap.get? (found.foldl (fun (m : GoMap Int α) x => m.put (k x) x) Table.empty) id)
    (hfailed : failed = true) : found = [] := by
  rcases List.eq_nil_or_concat found with hnil | ⟨before, last, rfl⟩
  · exact hnil
  · have hlast := h (k last)
    rw [hfailed, List.concat_eq_append, List.foldl_append, List.foldl_cons, List.foldl_nil,
      GoMap.get?_put, if_pos rfl] at hlast
    contradiction

theorem nil_of_insertionSort {α : Type} {r : α → α → Prop} [DecidableRel r] {rows : List α}
    (h : rows.insertionSort r = []) : rows = [] :=
  List.perm_nil.mp (h ▸ (List.perm_insertionSort r rows).symm)

/-- The snapshot of a load that failed has the content of one that did not only
when no failed read would have returned anything. -/
theorem harmless_of_sameContent
    (h : (loadFromDB (db.failedReads now f)).SameContent (loadFromDB (db.tableReads now))) :
    f.Harmless db where
  accounts := accounts_of_sameContent h
  pools hfailed := by
    have hpools : db.listPools now = [] := nil_of_get? Pool.id h.pools hfailed
    exact nil_of_insertionSort (List.map_eq_nil_iff.mp hpools)
  members _ hrow := members_of_sameContent h hrow
  models _ hrow := models_of_sameContent h hrow
  tokens hfailed := by
    have htokens : (readUnless f.tokens _).getD [] = _ := h.tokens
    rw [hfailed] at htokens
    exact nil_of_insertionSort htokens.symm
  settings hfailed := by
    rw [List.eq_nil_iff_forall_not_mem]
    intro row hrow
    have hsetting : GoMap.get? ((readUnless f.settings db.systemConfig).getD Table.empty) row.1 =
        GoMap.get? db.systemConfig row.1 := h.settings row.1
    have hfound : GoMap.get? db.systemConfig row.1 = some row.2 :=
      congrArg (Option.map Prod.snd) (Table.find?_of_mem hrow)
    rw [hfailed, hfound] at hsetting
    contradiction
  services hfailed := by
    have hservices := nil_of_get? CpaService.id h.services hfailed
    exact nil_of_insertionSort hservices

end Lost

/-! ## A later `Get` -/

/-- After a load in which these reads failed, and after any further calls, a
`Get` with the database back returns what the load would have returned without
the failures. -/
def RoutingCache.Recovers (c : RoutingCache) (db : Database) (now : Clock) (f : ReadFailures) :
    Prop :=
  ∀ (loads : List CacheSnapshot) (later : Clock),
    (((c.get (loadFromDB (db.failedReads now f))).2.gets loads).get
      (loadFromDB (db.tableReads later))).1.SameContent (loadFromDB (db.tableReads now))

/-- A cache recovers from a failed load without an `Invalidate` exactly when no
failed read would have returned anything. -/
theorem recovers_iff_harmless {c : RoutingCache} (h : c.Loads) (db : Database) (now : Clock)
    (f : ReadFailures) : c.Recovers db now f ↔ f.Harmless db := by
  constructor
  · intro hrecovers
    have hlater := hrecovers [] now
    rw [RoutingCache.get_after_load h] at hlater
    exact harmless_of_sameContent hlater
  · intro hharmless loads later
    rw [RoutingCache.get_after_load h, loadFromDB_of_harmless now hharmless]
    exact .refl _

/-- A database with one token. -/
def tokenDatabase : Database :=
  { accessTokens := Table.empty.set { id := 1, token := lit "k" } }

/-- There are no services to miss. -/
theorem recovers_without_services :
    ({} : RoutingCache).Recovers tokenDatabase default { services := true } := by
  apply (recovers_iff_harmless RoutingCache.loads_new _ _ _).mpr
  constructor <;> simp [tokenDatabase, Table.empty]

/-- The tokens were not read once, and the token is still unknown when they can
be read again. -/
theorem token_stays_rejected :
    ¬ ({} : RoutingCache).Recovers tokenDatabase default { tokens := true } ∧
      (((({} : RoutingCache).get
          (loadFromDB (tokenDatabase.failedReads default { tokens := true }))).2.get
          (loadFromDB (tokenDatabase.tableReads default))).1.findAccessToken (lit "k")).isNone =
        true ∧
      ((loadFromDB (tokenDatabase.tableReads default)).findAccessToken (lit "k")).isSome =
        true := by
  refine ⟨?_, by decide +kernel, by decide +kernel⟩
  intro hrecovers
  have htokens := congrArg List.length (hrecovers [] default).tokens
  have hnone : (((({} : RoutingCache).get
      (loadFromDB (tokenDatabase.failedReads default { tokens := true }))).2.gets []).get
      (loadFromDB (tokenDatabase.tableReads default))).1.tokens.length = 0 := by decide +kernel
  have hone : (loadFromDB (tokenDatabase.tableReads default)).tokens.length = 1 := by
    decide +kernel
  rw [hnone, hone] at htokens
  contradiction

end Lune.Store
