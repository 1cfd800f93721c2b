import Lune.Store.Access
import Mathlib.Data.Prod.Lex

/-!
# The order of the members of a pool

`ListPoolMembers`, `ReorderPoolMembers` and the calls that add members, from
`internal/store/pools.go` and `accounts.go`.  The statement of the list and the loader
of the snapshot sort by the position and then by the id; `memberOrder` is the list of the
ids in that order, and both loaders give it.
-/

namespace Lune.Store

open GoText Keyed

/-! ## The statements -/

/-- `ORDER BY pm.position, pm.id`. -/
def positionLe (m n : PoolMemberRow) : Prop :=
  m.position < n.position ∨ m.position = n.position ∧ m.id ≤ n.id

instance (m n : PoolMemberRow) : Decidable (positionLe m n) :=
  inferInstanceAs (Decidable (_ ∨ _ ∧ _))

namespace Database

/-- `ListPoolMembers`. -/
def listPoolMembers (db : Database) (poolID : Int) : List PoolMember :=
  ((db.poolAccounts poolID).insertionSort fun u v => positionLe u.1 v.1).map fun (pm, a) =>
    { pm with account := some (scanAccountRow a) }

/-- `AddPoolMember`, which does not expect a member, and the id of the new row. -/
def addPoolMember (db : Database) (poolID accountID : Int) : Option (Int × Database) :=
  if db.addPoolMemberFails poolID accountID ||
      db.poolMembers.rows.any fun pm => pm.poolID == poolID && pm.accountID == accountID then
    none
  else some ((db.poolMembers.rows.map PoolMemberRow.id).foldl max 0 + 1,
    db.addPoolMemberIdempotent poolID accountID)

/-- `UPDATE pool_members SET position = ? WHERE id = ? AND pool_id = ?`, and the number of
rows that it changed. -/
def setPosition (db : Database) (poolID memberID : Int) (position : Nat) : Database × Nat :=
  ({ db with
      poolMembers := db.poolMembers.modify memberID fun m =>
        if m.poolID = poolID then { m with position := position } else m },
    db.poolMembers.rows.countP fun m => m.id = memberID ∧ m.poolID = poolID)

/-- The loop of `ReorderPoolMembers`, from the index `i` on. -/
def setPositions (poolID : Int) : Nat → List Int → Database → Except Str Database
  | _, [], tx => .ok tx
  | i, memberID :: rest, tx =>
    let (tx, changed) := tx.setPosition poolID memberID i
    if changed = 0 then
      .error (lit "pool member " ++ itoa memberID ++ lit " not found in pool " ++ itoa poolID)
    else setPositions poolID (i + 1) rest tx

/-- `ReorderPoolMembers`: its error, and the tables after the commit or the rollback. -/
def reorderPoolMembers (db : Database) (poolID : Int) (memberIDs : List Int) :
    Option Str × Database :=
  match setPositions poolID 0 memberIDs db with
  | .ok tx => (none, tx)
  | .error err => (some err, db)

end Database

/-- A call that may add a member to a pool. -/
inductive MemberCall where
  | addPoolMember (poolID accountID : Int)
  | addPoolMemberIdempotent (poolID accountID : Int)
  | upsertCpaAccountAndPoolMemberFromImport (env : StoreEnv) (poolID : Int) (account : Account)

/-- The tables after the call. -/
def MemberCall.run (db : Database) : MemberCall → Database
  | addPoolMember poolID accountID =>
    match db.addPoolMember poolID accountID with
    | some (_, added) => added
    | none => db
  | addPoolMemberIdempotent poolID accountID =>
    if db.addPoolMemberFails poolID accountID then db
    else db.addPoolMemberIdempotent poolID accountID
  | upsertCpaAccountAndPoolMemberFromImport env poolID account =>
    db.upsertCpaAccountAndPoolMemberFromImport env poolID account

/-! ## The order -/

/-- What the members are sorted by. -/
def PoolMemberRow.place (m : PoolMemberRow) : ℤ ×ₗ ℤ := toLex (m.position, m.id)

theorem positionLe_iff {m n : PoolMemberRow} : positionLe m n ↔ m.place ≤ n.place := by
  rw [PoolMemberRow.place, PoolMemberRow.place, Prod.Lex.le_iff]
  rfl

/-- The ids of places. -/
def placeID (place : ℤ ×ₗ ℤ) : Int := (ofLex place).2

namespace Database

/-- The member is in the pool. -/
def HasMember (db : Database) (poolID memberID : Int) : Prop :=
  ∃ m ∈ db.poolMembers.rows, m.poolID = poolID ∧ m.id = memberID

/-- The places of the members of a pool, in the order of the table. -/
def places (db : Database) (poolID : Int) : List (ℤ ×ₗ ℤ) :=
  (db.poolMembers.rows.filter fun m => m.poolID = poolID).map PoolMemberRow.place

/-- The ids of the members of a pool, sorted by their places. -/
def memberOrder (db : Database) (poolID : Int) : List Int :=
  ((db.places poolID).insertionSort (· ≤ ·)).map placeID

/-- Both loaders list the members of the pool in this order. -/
def InOrder (db : Database) (poolID : Int) (memberIDs : List Int) : Prop :=
  (db.listPoolMembers poolID).map (fun m => m.id) = memberIDs ∧
    ∀ reads : TableReads, reads.members = some (db.poolMembers.rows.insertionSort memberRowLe) →
      ((loadFromDB reads).membersOf poolID).map (fun m => m.id) = memberIDs

section Order

variable {db : Database} {poolID : Int}

/-- Sorted places that are those of the pool are its order. -/
theorem memberOrder_eq {places : List (ℤ ×ₗ ℤ)} (hsorted : places.Pairwise (· ≤ ·))
    (hperm : places.Perm (db.places poolID)) : db.memberOrder poolID = places.map placeID := by
  have hsort := (List.perm_insertionSort (· ≤ ·) (db.places poolID)).trans hperm.symm
  rw [memberOrder, hsort.eq_of_pairwise' (List.pairwise_insertionSort (· ≤ ·) _) hsorted]

/-- Every member joins its account. -/
theorem map_fst_poolAccounts (hnamed : db.MembersNamed) :
    (db.poolAccounts poolID).map Prod.fst =
      db.poolMembers.rows.filter fun m => m.poolID = poolID := by
  have hjoin : ∀ rows : List PoolMemberRow,
      (∀ pm ∈ rows, (db.accounts.find? pm.accountID).isSome = true) →
      (rows.flatMap fun pm =>
        (db.accounts.rows.filter fun a => a.id = pm.accountID).map fun a => (pm, a)).map Prod.fst =
        rows := by
    intro rows hrows
    induction rows with
    | nil => rfl
    | cons pm rows ih =>
      obtain ⟨a, ha⟩ := Option.isSome_iff_exists.mp (hrows pm List.mem_cons_self)
      rw [List.flatMap_cons, Table.filter_key, ha, List.map_append,
        ih fun m hm => hrows m (List.mem_cons_of_mem pm hm)]
      rfl
  exact hjoin _ fun pm hpm => hnamed pm (List.mem_filter.mp hpm).1

theorem map_id_listPoolMembers (hnamed : db.MembersNamed) :
    (db.listPoolMembers poolID).map (fun m => m.id) = db.memberOrder poolID := by
  have hsort := List.map_insertionSort (fun u v : PoolMemberRow × AccountRow => positionLe u.1 v.1)
    (· ≤ ·) (fun u => u.1.place) (db.poolAccounts poolID) fun u _ v _ => positionLe_iff
  have hplaces : (db.poolAccounts poolID).map (fun u => u.1.place) = db.places poolID := by
    rw [places, ← map_fst_poolAccounts hnamed, List.map_map]
    rfl
  rw [memberOrder, ← hplaces, ← hsort, List.map_map, listPoolMembers, List.map_map]
  rfl

/-- The snapshot has the rows of a pool, sorted. -/
theorem membersOf_loadFromDB (reads : TableReads) :
    (loadFromDB reads).membersOf poolID =
      (((reads.members.getD []).filter fun row => row.poolID = poolID).map fun row =>
        { row with
          account := (loadFromDB reads).accounts.get? row.accountID }).insertionSort memberLe := by
  have hgroup := GoMap.get?_foldl_push PoolMemberRow.poolID
    (fun row : PoolMemberRow =>
      ({ row with account := (loadFromDB reads).accounts.get? row.accountID } : PoolMember))
    (reads.members.getD []) Table.empty poolID
  rw [GoMap.get?_empty, Option.getD_none, List.nil_append] at hgroup
  rw [← hgroup]
  simp only [CacheSnapshot.membersOf, loadFromDB, loadMembers, GoMap.get?_mapValues]
  generalize GoMap.get? _ poolID = found
  cases found <;> rfl

theorem map_place_insertionSort (members : List PoolMember) :
    (members.insertionSort memberLe).map (fun m => m.place) =
      (members.map fun m => m.place).insertionSort (· ≤ ·) :=
  List.map_insertionSort memberLe (· ≤ ·) (fun m => m.place) members
    fun m _ n _ => positionLe_iff (m := m.toPoolMemberRow) (n := n.toPoolMemberRow)

theorem map_id_membersOf {reads : TableReads}
    (hreads : reads.members = some (db.poolMembers.rows.insertionSort memberRowLe)) :
    ((loadFromDB reads).membersOf poolID).map (fun m => m.id) = db.memberOrder poolID := by
  have hrows := (List.perm_insertionSort memberRowLe db.poolMembers.rows).filter fun m =>
    m.poolID = poolID
  have hid : ∀ members : List PoolMember,
      members.map (fun m => m.id) = (members.map fun m => m.place).map placeID := by
    intro members
    rw [List.map_map]
    rfl
  rw [memberOrder_eq (List.pairwise_insertionSort (· ≤ ·) _)
      ((List.perm_insertionSort (· ≤ ·) _).trans (hrows.map PoolMemberRow.place)),
    membersOf_loadFromDB, hreads, Option.getD_some, hid, map_place_insertionSort, List.map_map]
  rfl

/-- The order of the pool is the one that both loaders give. -/
theorem inOrder_memberOrder (poolID : Int) (hnamed : db.MembersNamed) :
    db.InOrder poolID (db.memberOrder poolID) :=
  ⟨map_id_listPoolMembers hnamed, fun _ hreads => map_id_membersOf hreads⟩

end Order

/-! ## Reordering -/

section Reorder

variable {db : Database} {poolID memberID : Int} {i : Nat}

theorem setPosition_eq_zero : (db.setPosition poolID memberID i).2 = 0 ↔
    ¬db.HasMember poolID memberID := by
  rw [setPosition, List.countP_eq_zero]
  constructor
  · rintro h ⟨m, hm, hpool, hid⟩
    exact h m hm (decide_eq_true ⟨hid, hpool⟩)
  · intro h m hm hmember
    obtain ⟨hid, hpool⟩ := of_decide_eq_true hmember
    exact h ⟨m, hm, hpool, hid⟩

theorem rows_setPosition : (db.setPosition poolID memberID i).1.poolMembers.rows =
    db.poolMembers.rows.map fun m =>
      if m.poolID = poolID ∧ m.id = memberID then { m with position := i } else m := by
  refine List.map_congr_left fun m _ => ?_
  by_cases hpool : m.poolID = poolID
  · simp [hpool]
  · simp [hpool]

theorem hasMember_setPosition {other : Int} :
    (db.setPosition poolID memberID i).1.HasMember poolID other ↔ db.HasMember poolID other := by
  have hkept : ∀ m : PoolMemberRow,
      (if m.poolID = poolID ∧ m.id = memberID then { m with position := i } else m).poolID = m.poolID ∧
      (if m.poolID = poolID ∧ m.id = memberID then { m with position := i } else m).id = m.id := by
    intro m
    split <;> exact ⟨rfl, rfl⟩
  unfold HasMember
  rw [rows_setPosition]
  constructor
  · rintro ⟨m', hm', hpool, hid⟩
    obtain ⟨m, hm, rfl⟩ := List.mem_map.mp hm'
    exact ⟨m, hm, (hkept m).1.symm.trans hpool, (hkept m).2.symm.trans hid⟩
  · rintro ⟨m, hm, hpool, hid⟩
    exact ⟨_, List.mem_map_of_mem hm, (hkept m).1.trans hpool, (hkept m).2.trans hid⟩

/-- One id that is no member is enough for an error. -/
theorem setPositions_error {memberIDs : List Int} (hmem : memberID ∈ memberIDs)
    (hother : ¬db.HasMember poolID memberID) :
    ∃ err, setPositions poolID i memberIDs db = .error err := by
  induction memberIDs generalizing db i with
  | nil => contradiction
  | cons first rest ih =>
    rw [setPositions]
    dsimp only
    split
    · exact ⟨_, rfl⟩
    next hchanged =>
      rcases List.mem_cons.mp hmem with rfl | hmem
      · exact absurd (setPosition_eq_zero.mpr hother) hchanged
      · exact ih hmem (mt hasMember_setPosition.mp hother)

/-- A row after its pool is put in the order of the list, from the position `i` on. -/
def placed (poolID : Int) (i : Nat) (memberIDs : List Int) (m : PoolMemberRow) : PoolMemberRow :=
  if m.poolID = poolID ∧ m.id ∈ memberIDs then
    { m with position := (i + memberIDs.idxOf m.id : Nat) }
  else m

theorem setPositions_ok {memberIDs : List Int} (hnodup : memberIDs.Nodup)
    (hmembers : ∀ id ∈ memberIDs, db.HasMember poolID id) :
    ∃ tx : Database, setPositions poolID i memberIDs db = .ok tx ∧
      tx.poolMembers.rows = db.poolMembers.rows.map (placed poolID i memberIDs) ∧
      tx.accounts = db.accounts := by
  induction memberIDs generalizing db i with
  | nil =>
    have hsame : ∀ m, placed poolID i [] m = m := fun m => if_neg (by simp)
    exact ⟨db, rfl, (List.map_id'' hsame _).symm, rfl⟩
  | cons first rest ih =>
    obtain ⟨hnew, hnodup⟩ := List.nodup_cons.mp hnodup
    have hchanged : ¬(db.setPosition poolID first i).2 = 0 := fun h =>
      setPosition_eq_zero.mp h (hmembers first List.mem_cons_self)
    obtain ⟨tx, htx, hrows, haccounts⟩ := @ih (db.setPosition poolID first i).1 (i + 1)
      hnodup fun id hid => hasMember_setPosition.mpr (hmembers id (List.mem_cons_of_mem first hid))
    refine ⟨tx, ?_, ?_, haccounts⟩
    · rw [setPositions]
      dsimp only
      rw [if_neg hchanged, htx]
    · rw [hrows, rows_setPosition, List.map_map]
      refine List.map_congr_left fun m _ => ?_
      unfold placed
      dsimp only [Function.comp_apply]
      by_cases hpool : m.poolID = poolID
      · by_cases hfirst : m.id = first
        · simp [hpool, hfirst, hnew]
        · have hne : first ≠ m.id := Ne.symm hfirst
          by_cases hrest : m.id ∈ rest
          · simp [hpool, hfirst, hrest, List.idxOf_cons_ne rest hne, Nat.add_assoc, Nat.add_comm 1]
          · simp [hpool, hfirst, hrest]
      · simp [hpool]

/-- The order of a pool whose members were put in the order of the list. -/
theorem memberOrder_placed {tx : Database} {memberIDs : List Int} (hnodup : memberIDs.Nodup)
    (hmembers : ∀ id, id ∈ memberIDs ↔ db.HasMember poolID id)
    (hrows : tx.poolMembers.rows = db.poolMembers.rows.map (placed poolID 0 memberIDs)) :
    tx.memberOrder poolID = memberIDs := by
  let place : Int → ℤ ×ₗ ℤ := fun id => toLex ((memberIDs.idxOf id : Int), id)
  have hplaces : tx.places poolID =
      ((db.poolMembers.rows.filter fun m => m.poolID = poolID).map fun m => m.id).map place := by
    have hpools : ∀ m, (placed poolID 0 memberIDs m).poolID = m.poolID := by
      intro m
      unfold placed
      split <;> rfl
    rw [places, hrows, List.filter_map, List.map_map, List.map_map]
    simp only [Function.comp_def, hpools]
    refine List.map_congr_left fun m hm => ?_
    obtain ⟨hm, hpool⟩ := List.mem_filter.mp hm
    have hpool := of_decide_eq_true hpool
    have hid : m.id ∈ memberIDs := (hmembers m.id).mpr ⟨m, hm, hpool, rfl⟩
    rw [placed, if_pos ⟨hpool, hid⟩, Nat.zero_add]
    rfl
  have hids : memberIDs.Perm
      ((db.poolMembers.rows.filter fun m => m.poolID = poolID).map fun m => m.id) := by
    refine (List.perm_ext_iff_of_nodup hnodup ?_).mpr fun id => ?_
    · exact db.poolMembers.nodup.sublist (List.filter_sublist.map PoolMemberRow.id)
    · rw [hmembers id, HasMember]
      simp [and_assoc]
  have hsorted : (memberIDs.map place).Pairwise (· ≤ ·) := by
    rw [List.pairwise_map, List.pairwise_iff_getElem]
    intro j k hj hk hjk
    rw [Prod.Lex.le_iff]
    left
    show (memberIDs.idxOf memberIDs[j] : Int) < memberIDs.idxOf memberIDs[k]
    rw [hnodup.idxOf_getElem, hnodup.idxOf_getElem]
    exact Int.ofNat_lt.mpr hjk
  rw [memberOrder_eq hsorted (hplaces ▸ hids.map place), List.map_map]
  exact List.map_id memberIDs

end Reorder

/-! ## Adding members -/

section Add

variable {db db' : Database} {poolID other id : Int}

/-- What a call can do to the members: nothing, or it adds an account that is there to a
pool, after it wrote accounts but deleted none. -/
def Adds (db after : Database) : Prop :=
  after = db ∨ ∃ (written : Database) (poolID id : Int),
    written.poolMembers = db.poolMembers ∧
    (∀ k, (db.accounts.find? k).isSome = true → (written.accounts.find? k).isSome = true) ∧
    (written.accounts.find? id).isSome = true ∧
    after.poolMembers = (written.addPoolMemberIdempotent poolID id).poolMembers ∧
    after.accounts = written.accounts

/-- The insert does not break the reference to the account. -/
theorem adds_addPoolMemberIdempotent (h : db.addPoolMemberFails poolID id = false) :
    db.Adds (db.addPoolMemberIdempotent poolID id) := by
  have hnone : (db.accounts.find? id).isNone = false := (Bool.or_eq_false_iff.mp h).2
  exact Or.inr ⟨db, poolID, id, rfl, fun _ hk => hk, by simpa using hnone, rfl,
    accounts_addPoolMemberIdempotent db poolID id⟩

theorem adds_upsert (db : Database) (env : StoreEnv) (poolID : Int) (a : Account) :
    db.Adds (db.upsertCpaAccountAndPoolMemberFromImport env poolID a) := by
  unfold upsertCpaAccountAndPoolMemberFromImport
  cases a.cpaServiceID with
  | none => exact Or.inl rfl
  | some serviceID =>
    dsimp only
    split
    · exact Or.inl rfl
    cases hfind : db.findAccountByCpaKey serviceID a.cpaAccountKey with
    | some existing =>
      have hkept : ∀ k, (db.accounts.find? k).isSome = true →
          ((db.updateCpaAccountFromImport env existing.id a).accounts.find? k).isSome = true := by
        intro k hk
        rw [updateCpaAccountFromImport,
          find?_updateAccount db env existing.id (f := importedAccount env a) fun _ => rfl]
        split
        · rw [Option.isSome_map]
          exact hk
        · exact hk
      have hfound : (db.accounts.find? existing.id).isSome = true := by
        obtain ⟨row, hrow, rfl⟩ := Option.map_eq_some_iff.mp hfind
        rw [scanAccountRow_id, Table.find?_of_mem (List.mem_of_find?_eq_some hrow)]
        rfl
      exact Or.inr ⟨db.updateCpaAccountFromImport env existing.id a, poolID, existing.id, rfl, hkept,
        hkept _ hfound, rfl, accounts_addPoolMemberIdempotent _ poolID _⟩
    | none =>
      dsimp only
      split
      · exact Or.inl rfl
      · generalize db.newAccount env (firstNonEmpty [a.sourceKind, lit "cpa"]) a = row
        refine Or.inr ⟨{ db with accounts := db.accounts.set row }, poolID, row.id, rfl,
          fun k hk => ?_, ?_, rfl, accounts_addPoolMemberIdempotent _ poolID row.id⟩
        · rw [Table.find?_set]
          split
          · rfl
          · exact hk
        · rw [Table.find?_set, if_pos rfl]
          rfl

theorem adds_run (call : MemberCall) (db : Database) : db.Adds (call.run db) := by
  cases call with
  | addPoolMember poolID id =>
    rw [MemberCall.run, addPoolMember]
    cases hfails : db.addPoolMemberFails poolID id ||
        db.poolMembers.rows.any fun pm => pm.poolID == poolID && pm.accountID == id with
    | true => exact Or.inl rfl
    | false => exact adds_addPoolMemberIdempotent (Bool.or_eq_false_iff.mp hfails).1
  | addPoolMemberIdempotent poolID id =>
    rw [MemberCall.run]
    split
    · exact Or.inl rfl
    next hfails => exact adds_addPoolMemberIdempotent (Bool.eq_false_of_not_eq_true hfails)
  | upsertCpaAccountAndPoolMemberFromImport env poolID a => exact adds_upsert db env poolID a

/-- A call keeps the reference to the accounts. -/
theorem MembersNamed.run (hnamed : db.MembersNamed) (call : MemberCall) :
    (call.run db).MembersNamed := by
  rcases adds_run call db with heq | ⟨written, poolID, id, hmembers, hkept, hid, hrows, haccounts⟩
  · rw [heq]
    exact hnamed
  · intro pm hpm
    rw [haccounts]
    rw [hrows] at hpm
    by_cases hmember : written.IsMember poolID id
    · rw [addPoolMemberIdempotent_of_member hmember, hmembers] at hpm
      exact hkept _ (hnamed pm hpm)
    · obtain ⟨added, -, haccount, -, -, hadded⟩ := rows_addPoolMemberIdempotent hmember
      rw [hadded, hmembers] at hpm
      rcases List.mem_append.mp hpm with hpm | hpm
      · exact hkept _ (hnamed pm hpm)
      · obtain rfl := List.mem_singleton.mp hpm
        rw [haccount]
        exact hid

/-- What the order of a pool depends on. -/
theorem memberOrder_congr (h : db.poolMembers = db'.poolMembers) :
    db.memberOrder poolID = db'.memberOrder poolID := by
  rw [memberOrder, memberOrder, places, places, h]

/-- A member that is added comes last. -/
theorem memberOrder_addPoolMemberIdempotent (db : Database) (other id poolID : Int) :
    ∃ added, (db.addPoolMemberIdempotent other id).memberOrder poolID =
        db.memberOrder poolID ++ added ∧
      ∀ memberID ∈ added, ¬db.HasMember poolID memberID := by
  by_cases hmember : db.IsMember other id
  · rw [addPoolMemberIdempotent_of_member hmember]
    exact ⟨[], (List.append_nil _).symm, by simp⟩
  obtain ⟨pm, hpool, -, hfresh, hlast, hrows⟩ := rows_addPoolMemberIdempotent hmember
  have hplaces : (db.addPoolMemberIdempotent other id).places poolID =
      db.places poolID ++ ([pm].filter fun m => m.poolID = poolID).map PoolMemberRow.place := by
    rw [places, hrows, List.filter_append, List.map_append]
    rfl
  by_cases hother : pm.poolID = poolID
  · refine ⟨[pm.id], ?_, ?_⟩
    · have hsorted : ((db.places poolID).insertionSort (· ≤ ·) ++ [pm.place]).Pairwise (· ≤ ·) := by
        refine List.pairwise_append.mpr ⟨List.pairwise_insertionSort (· ≤ ·) _,
          List.pairwise_singleton _ _, fun place hplace last hlast' => ?_⟩
        obtain rfl := List.mem_singleton.mp hlast'
        obtain ⟨m, hm, rfl⟩ := List.mem_map.mp ((List.mem_insertionSort _).mp hplace)
        obtain ⟨hm, hpool'⟩ := List.mem_filter.mp hm
        have hlt := hlast m hm ((of_decide_eq_true hpool').trans (hother.symm.trans hpool))
        exact Prod.Lex.le_iff.mpr (Or.inl hlt)
      have hperm : ((db.places poolID).insertionSort (· ≤ ·) ++ [pm.place]).Perm
          ((db.addPoolMemberIdempotent other id).places poolID) := by
        rw [hplaces, List.filter_singleton, decide_eq_true hother]
        exact (List.perm_insertionSort (· ≤ ·) _).append_right [pm.place]
      rw [memberOrder_eq hsorted hperm, List.map_append]
      rfl
    · rintro memberID hid ⟨m, hm, -, heq⟩
      obtain rfl := List.mem_singleton.mp hid
      exact hfresh m hm heq
  · refine ⟨[], ?_, by simp⟩
    rw [List.filter_singleton, decide_eq_false hother] at hplaces
    have hplaces := hplaces.trans (List.append_nil _)
    rw [memberOrder, hplaces, List.append_nil]
    rfl

theorem memberOrder_run (call : MemberCall) (db : Database) (poolID : Int) :
    ∃ added, (call.run db).memberOrder poolID = db.memberOrder poolID ++ added ∧
      ∀ memberID ∈ added, ¬db.HasMember poolID memberID := by
  rcases adds_run call db with heq | ⟨written, other, id, hmembers, -, -, hrows, -⟩
  · rw [heq]
    exact ⟨[], (List.append_nil _).symm, by simp⟩
  · obtain ⟨added, horder, hnew⟩ := memberOrder_addPoolMemberIdempotent written other id poolID
    rw [memberOrder_congr hmembers] at horder
    refine ⟨added, (memberOrder_congr hrows).trans horder, fun memberID hadded hmember => ?_⟩
    refine hnew memberID hadded ?_
    unfold HasMember
    rw [hmembers]
    exact hmember

end Add

/-! ## The order is kept, as a whole -/

/-- The calls run one after the other. -/
def runCalls (db : Database) (calls : List MemberCall) : Database :=
  calls.foldl (fun db call => call.run db) db

theorem membersNamed_runCalls {db : Database} (hnamed : db.MembersNamed)
    (calls : List MemberCall) : (db.runCalls calls).MembersNamed := by
  induction calls generalizing db with
  | nil => exact hnamed
  | cons call calls ih => exact ih (hnamed.run call)

theorem memberOrder_runCalls (db : Database) (calls : List MemberCall) (poolID : Int) :
    ∃ added, (db.runCalls calls).memberOrder poolID = db.memberOrder poolID ++ added := by
  induction calls generalizing db with
  | nil => exact ⟨[], (List.append_nil _).symm⟩
  | cons call calls ih =>
    obtain ⟨first, hfirst, -⟩ := memberOrder_run call db poolID
    obtain ⟨rest, hrest⟩ := ih (call.run db)
    refine ⟨first ++ rest, hrest.trans ?_⟩
    rw [hfirst, List.append_assoc]

/-- A list of exactly the members becomes their order, in the list and in a load, and what
is added later is behind it, each member behind the ones before it; a list with an id that
is no member is an error and leaves the members as they were. -/
theorem reorderPoolMembers_exact {db : Database} (hnamed : db.MembersNamed) (poolID : Int)
    (memberIDs : List Int) :
    (memberIDs.Nodup → (∀ id, id ∈ memberIDs ↔ db.HasMember poolID id) →
      (db.reorderPoolMembers poolID memberIDs).1 = none ∧
        (db.reorderPoolMembers poolID memberIDs).2.InOrder poolID memberIDs ∧
        ∀ (calls : List MemberCall) (call : MemberCall), ∃ earlier added,
          ((db.reorderPoolMembers poolID memberIDs).2.runCalls calls).InOrder poolID
            (memberIDs ++ earlier) ∧
          (call.run ((db.reorderPoolMembers poolID memberIDs).2.runCalls calls)).InOrder poolID
            (memberIDs ++ earlier ++ added) ∧
          ∀ id ∈ added,
            ¬((db.reorderPoolMembers poolID memberIDs).2.runCalls calls).HasMember poolID id) ∧
      ((∃ id ∈ memberIDs, ¬db.HasMember poolID id) →
        (db.reorderPoolMembers poolID memberIDs).1 ≠ none ∧
          (db.reorderPoolMembers poolID memberIDs).2.poolMembers.rows = db.poolMembers.rows) := by
  constructor
  · intro hnodup hmembers
    obtain ⟨tx, htx, hrows, haccounts⟩ := setPositions_ok (i := 0) hnodup
      fun id hid => (hmembers id).mp hid
    have horder := memberOrder_placed hnodup hmembers hrows
    have hnamed' : tx.MembersNamed := by
      intro pm hpm
      rw [hrows] at hpm
      obtain ⟨m, hm, rfl⟩ := List.mem_map.mp hpm
      have haccount : (placed poolID 0 memberIDs m).accountID = m.accountID := by
        unfold placed
        split <;> rfl
      rw [haccounts, haccount]
      exact hnamed m hm
    rw [reorderPoolMembers, htx]
    dsimp only
    refine ⟨rfl, horder ▸ inOrder_memberOrder poolID hnamed', fun calls call => ?_⟩
    obtain ⟨earlier, hearlier⟩ := memberOrder_runCalls tx calls poolID
    obtain ⟨added, hadded, hnew⟩ := memberOrder_run call (tx.runCalls calls) poolID
    have hnamed'' := membersNamed_runCalls hnamed' calls
    have hbefore := inOrder_memberOrder poolID hnamed''
    have hafter := inOrder_memberOrder poolID (hnamed''.run call)
    rw [hearlier, horder] at hbefore
    rw [hadded, hearlier, horder] at hafter
    exact ⟨earlier, added, hbefore, hafter, hnew⟩
  · rintro ⟨id, hid, hother⟩
    obtain ⟨err, herr⟩ := setPositions_error (i := 0) hid hother
    rw [reorderPoolMembers, herr]
    exact ⟨nofun, rfl⟩

/-- Two pools that share an account. -/
def sharedAccount : Database where
  pools := ⟨[{ id := 1 }, { id := 2 }], by decide⟩
  accounts := ⟨[{ id := 10 }, { id := 11 }], by decide⟩
  poolMembers := ⟨[{ id := 1, poolID := 1, accountID := 10, position := 0 },
    { id := 2, poolID := 1, accountID := 11, position := 1 },
    { id := 3, poolID := 2, accountID := 10, position := 0 }], by decide⟩

theorem hasMember_sharedAccount (id : Int) :
    id ∈ [2, 1] ↔ sharedAccount.HasMember 1 id := by
  simp [HasMember, sharedAccount, eq_comm, or_comm]

theorem membersNamed_sharedAccount : sharedAccount.MembersNamed := by
  unfold MembersNamed
  decide

theorem reorderPoolMembers_exact_shared :
    (sharedAccount.reorderPoolMembers 1 [2, 1]).2.InOrder 1 [2, 1] ∧
      (sharedAccount.reorderPoolMembers 1 [2, 3, 1]).1 ≠ none :=
  have h := reorderPoolMembers_exact membersNamed_sharedAccount 1
  ⟨((h [2, 1]).1 (by decide) hasMember_sharedAccount).2.1,
    ((h [2, 3, 1]).2 ⟨3, by decide, by simp [HasMember, sharedAccount]⟩).1⟩

end Database

end Lune.Store
