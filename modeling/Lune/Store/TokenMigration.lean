import Lune.Store.PoolTokens

/-!
# One token for every pool

`migratePoolScopedAccessTokens` builds a new table pool by pool.  A token that a
pool keeps brings its number along, a generated one gets the next number, and the
two may meet.
-/

namespace Lune.Store

open GoText Keyed

/-! ## Numbers -/

/-- The highest number after pools that keep the given ones; a pool without a token
gets the next. -/
def highestID (lowest : List (Option Int)) : Option Int :=
  lowest.foldl (fun highest id =>
    match id, highest with
    | some id, some highest => some (max highest id)
    | some id, none => some id
    | none, some highest => some (highest + 1)
    | none, none => some 1) none

/-- The number that the next pool without a token gets. -/
def firstFree (lowest : List (Option Int)) : Int :=
  match highestID lowest with
  | some highest => highest + 1
  | none => 1

/-- One of the pools has no token and gets the number. -/
def GivenTo (lowest : List (Option Int)) (id : Int) : Prop :=
  ∃ before after, lowest = before ++ none :: after ∧ id = firstFree before

/-- The lowest token of a pool has the number that an earlier pool without a token
gets. -/
def Clash (lowest : List (Option Int)) : Prop :=
  ∃ before id after, lowest = before ++ some id :: after ∧ GivenTo before id

theorem highestID_concat_none (lowest : List (Option Int)) :
    highestID (lowest ++ [none]) = some (firstFree lowest) := by
  unfold firstFree
  rw [highestID, List.foldl_append, ← highestID]
  cases highestID lowest <;> rfl

theorem highestID_concat_some (lowest : List (Option Int)) (id : Int) :
    highestID (lowest ++ [some id]) =
      some (match highestID lowest with
        | some highest => max highest id
        | none => id) := by
  rw [highestID, List.foldl_append, ← highestID]
  cases highestID lowest <;> rfl

theorem givenTo_concat {lowest : List (Option Int)} {x : Option Int} {id : Int} :
    GivenTo (lowest ++ [x]) id ↔ GivenTo lowest id ∨ x = none ∧ id = firstFree lowest := by
  constructor
  · rintro ⟨before, after, heq, hid⟩
    rcases List.eq_nil_or_concat after with rfl | ⟨after, y, rfl⟩
    · obtain ⟨rfl, hx⟩ := List.append_inj' heq rfl
      exact Or.inr ⟨(List.singleton_inj.mp hx), hid⟩
    · rw [List.concat_eq_append, ← List.cons_append, ← List.append_assoc] at heq
      obtain ⟨rfl, -⟩ := List.append_inj' heq rfl
      exact Or.inl ⟨before, after, rfl, hid⟩
  · rintro (⟨before, after, rfl, hid⟩ | ⟨rfl, hid⟩)
    · exact ⟨before, after ++ [x], by simp, hid⟩
    · exact ⟨lowest, [], rfl, hid⟩

theorem clash_concat {lowest : List (Option Int)} {x : Option Int} :
    Clash (lowest ++ [x]) ↔ Clash lowest ∨ ∃ id, x = some id ∧ GivenTo lowest id := by
  constructor
  · rintro ⟨before, id, after, heq, hgiven⟩
    rcases List.eq_nil_or_concat after with rfl | ⟨after, y, rfl⟩
    · obtain ⟨rfl, hx⟩ := List.append_inj' heq rfl
      exact Or.inr ⟨id, List.singleton_inj.mp hx, hgiven⟩
    · rw [List.concat_eq_append, ← List.cons_append, ← List.append_assoc] at heq
      obtain ⟨rfl, -⟩ := List.append_inj' heq rfl
      exact Or.inl ⟨before, id, after, rfl, hgiven⟩
  · rintro (⟨before, id, after, rfl, hgiven⟩ | ⟨id, rfl, hgiven⟩)
    · exact ⟨before, id, after ++ [x], by simp, hgiven⟩
    · exact ⟨lowest, id, [], rfl, hgiven⟩

/-! ## The loop -/

/-- The number of the token that the pool keeps. -/
def Database.lowestTokenID (db : Database) (pool : PoolRow) : Option Int :=
  (poolTokens db.accessTokens pool.id).head?.map AccessToken.id

section Loop

variable {db : Database} {now : Clock} {generated : List Str}

/-- The row of a pool: the token it keeps, or one with a generated value. -/
def MigratedRow (db : Database) (used : List Str) (pool : PoolRow) (row : AccessToken) : Prop :=
  row.poolID = some pool.id ∧
    match (poolTokens db.accessTokens pool.id).head? with
    | some t => row.token = t.token
    | none => row.token ∈ used

/-- The new table after some pools, with the values left to generate. -/
structure MigratedPools (db : Database) (generated : List Str) (pools : List PoolRow)
    (s : Table AccessToken.id × List Str) : Prop where
  rows : ∃ used, generated = used ++ s.2 ∧ used.length ≤ pools.length ∧
    s.1.rows.map AccessToken.poolID = pools.map (fun p => some p.id) ∧
    ∀ row ∈ s.1.rows, ∃ p ∈ pools, MigratedRow db used p row
  highest : (s.1.rows.map AccessToken.id).max? = highestID (pools.map db.lowestTokenID)
  ids : ∀ id, id ∈ s.1.rows.map AccessToken.id ↔
    some id ∈ pools.map db.lowestTokenID ∨ GivenTo (pools.map db.lowestTokenID) id

/-- What the schema and the random values promise: the values of the tokens are
unique, and the generated ones are new. -/
structure FreshValues (db : Database) (generated : List Str) : Prop where
  unique : (db.accessTokens.rows.map AccessToken.token).Nodup
  nodup : generated.Nodup
  new : ∀ value ∈ generated, ∀ t ∈ db.accessTokens.rows, t.token ≠ value
  enough : db.pools.rows.length ≤ generated.length

theorem MigratedRow.mono {used used' : List Str} {pool : PoolRow} {row : AccessToken}
    (h : MigratedRow db used pool row) (hused : used ⊆ used') : MigratedRow db used' pool row := by
  refine ⟨h.1, ?_⟩
  have hrow := h.2
  cases hhead : (poolTokens db.accessTokens pool.id).head? with
  | some t => simpa [hhead] using hrow
  | none => exact hused (by simpa [hhead] using hrow)

/-- The next number in the new table. -/
theorem MigratedPools.nextRowid {pools : List PoolRow} {s : Table AccessToken.id × List Str}
    (h : MigratedPools db generated pools s) :
    nextRowid s.1 = firstFree (pools.map db.lowestTokenID) := by
  rw [Store.nextRowid, h.highest, firstFree]
  cases highestID (pools.map db.lowestTokenID) <;> rfl

theorem head?_mem_poolTokens {tokens : Table AccessToken.id} {poolID : Int} {t : AccessToken}
    (h : (poolTokens tokens poolID).head? = some t) : t ∈ tokens.rows ∧ t.poolID = some poolID :=
  mem_poolTokens.mp (List.mem_of_head? h)

section Step

variable {pools : List PoolRow} {s : Table AccessToken.id × List Str} {pool : PoolRow}
  {used : List Str}

/-- A value differs from those in the new table when it differs from the tokens of
other pools and from the values used. -/
theorem unique_of_migrated (hrows : ∀ row ∈ s.1.rows, ∃ p ∈ pools, MigratedRow db used p row)
    (hpool : pool.id ∉ pools.map PoolRow.id) {value : Str}
    (hvalue : ∀ t ∈ db.accessTokens.rows, t.poolID ≠ some pool.id → t.token ≠ value)
    (hused : value ∉ used) :
    ∀ u ∈ s.1.rows, u.token ≠ value ∧ u.poolID ≠ some pool.id := by
  intro u hu
  obtain ⟨q, hq, hid, hrow⟩ := hrows u hu
  have hne : q.id ≠ pool.id := fun heq => hpool (heq ▸ List.mem_map_of_mem hq)
  refine ⟨?_, fun heq => hne (Option.some.inj (hid.symm.trans heq))⟩
  cases hhead : (poolTokens db.accessTokens q.id).head? with
  | some t =>
    obtain ⟨hmem, htpool⟩ := head?_mem_poolTokens hhead
    rw [hhead] at hrow
    have hother := hvalue t hmem fun heq => hne (Option.some.inj (htpool.symm.trans heq))
    exact fun heq => hother (hrow.symm.trans heq)
  | none =>
    rw [hhead] at hrow
    exact fun heq => hused (heq ▸ hrow)

/-- The table with the row of one more pool. -/
theorem MigratedPools.add (h : MigratedPools db generated pools s) (row : AccessToken)
    (rest : List Str) (hused : generated = used ++ rest) (hlength : used.length ≤ pools.length + 1)
    (hold : ∀ row ∈ s.1.rows, ∃ p ∈ pools, MigratedRow db used p row)
    (hfree : s.1.find? row.id = none) (hrow : MigratedRow db used pool row)
    (hid : db.lowestTokenID pool = some row.id ∨
      db.lowestTokenID pool = none ∧ row.id = firstFree (pools.map db.lowestTokenID)) :
    MigratedPools db generated (pools ++ [pool]) (s.1.set row, rest) := by
  have hset : (s.1.set row).rows = s.1.rows ++ [row] := Table.rows_set_of_fresh hfree
  obtain ⟨-, -, -, hpools, -⟩ := h.rows
  refine ⟨⟨used, hused, by simpa using hlength, ?_, ?_⟩, ?_, ?_⟩
  · simp only [hset, List.map_append, hpools, List.map_singleton, hrow.1]
  · intro r hr
    rw [hset] at hr
    rcases List.mem_append.mp hr with hr | hr
    · obtain ⟨p, hp, hmigrated⟩ := hold r hr
      exact ⟨p, List.mem_append_left _ hp, hmigrated⟩
    · obtain rfl := List.mem_singleton.mp hr
      exact ⟨pool, by simp, hrow⟩
  · have hmax : ((s.1.set row).rows.map AccessToken.id).max? =
        some (match (s.1.rows.map AccessToken.id).max? with
          | some highest => max highest row.id
          | none => row.id) := by
      rw [hset, List.map_append, List.map_singleton]
      cases hids : s.1.rows.map AccessToken.id with
      | nil => rfl
      | cons a rest =>
        simp only [List.max?_cons', List.cons_append, List.foldl_append, List.foldl_cons,
          List.foldl_nil]
    rw [hmax, h.highest, List.map_append, List.map_singleton]
    rcases hid with hid | ⟨hid, hnext⟩
    · rw [hid, highestID_concat_some]
    · rw [hid, highestID_concat_none, hnext, firstFree]
      cases highestID (pools.map db.lowestTokenID) with
      | none => rfl
      | some highest =>
        have hle : highest ≤ highest + 1 := by omega
        exact congrArg some (max_eq_right hle)
  · intro id
    simp only [hset, List.map_append, List.map_singleton, givenTo_concat, List.mem_append, h.ids id]
    rcases hid with hid | ⟨hid, hnext⟩
    · simp only [List.mem_singleton, hid, reduceCtorEq, false_and, or_false, Option.some.injEq]
      tauto
    · simp only [List.mem_singleton, hid, reduceCtorEq, true_and, hnext]
      tauto

variable (now) in
/-- A pool without a token gets a generated one. -/
theorem migratePool_generates (h : MigratedPools db generated pools s)
    (hfresh : FreshValues db generated) (hmem : pool ∈ db.pools.rows)
    (hpool : pool.id ∉ pools.map PoolRow.id) (hlength : pools.length < generated.length)
    (hnone : (poolTokens db.accessTokens pool.id).head? = none) :
    ∃ s', migratePool now db s pool = some s' ∧
      MigratedPools db generated (pools ++ [pool]) s' := by
  obtain ⟨used, hused, hle, -, hold⟩ := h.rows
  obtain ⟨value, rest, hrest⟩ : ∃ value rest, s.2 = value :: rest := by
    cases hs : s.2 with
    | nil =>
      rw [hused, hs, List.append_nil] at hlength
      omega
    | cons value rest => exact ⟨value, rest, rfl⟩
  have hvalue : value ∈ generated := by simp [hused, hrest]
  have hnotUsed : value ∉ used := by
    have hnodup := hfresh.nodup
    rw [hused, hrest, List.nodup_append] at hnodup
    exact fun hin => hnodup.2.2 value hin value List.mem_cons_self rfl
  have hempty : poolTokens db.accessTokens pool.id = [] := List.head?_eq_none_iff.mp hnone
  have hfree := find?_nextRowid s.1
  have hinsert := insertToken_of_free db.pools
    (t := freshToken s.1 now (defaultPoolTokenName pool.label) value pool.id true) hfree
    (by simp [freshToken, Table.find?_of_mem hmem])
    (unique_of_migrated hold hpool (fun t ht _ => hfresh.new value hvalue t ht) hnotUsed)
  have husedNow : generated = used ++ [value] ++ rest := by simp [hused, hrest]
  refine ⟨_, ?_, h.add (freshToken s.1 now (defaultPoolTokenName pool.label) value pool.id true)
    rest husedNow ?_ ?_ hfree ?_ ?_⟩
  · rw [migratePool, hempty, hrest]
    simp only [hinsert]
    rfl
  · simp
    exact hle
  · exact fun row hrow => (hold row hrow).imp fun p hp =>
      ⟨hp.1, hp.2.mono (List.subset_append_left used [value])⟩
  · refine ⟨rfl, ?_⟩
    rw [hnone]
    simp [freshToken]
  · exact Or.inr ⟨by rw [Database.lowestTokenID, hnone]; rfl, h.nextRowid⟩

variable (now) in
/-- A pool keeps its lowest token, unless the number is taken. -/
theorem migratePool_keeps (h : MigratedPools db generated pools s)
    (hfresh : FreshValues db generated) (hmem : pool ∈ db.pools.rows)
    (hpool : pool.id ∉ pools.map PoolRow.id) {t : AccessToken}
    (ht : (poolTokens db.accessTokens pool.id).head? = some t) :
    if (s.1.find? t.id).isSome then migratePool now db s pool = none
    else ∃ s', migratePool now db s pool = some s' ∧
      MigratedPools db generated (pools ++ [pool]) s' := by
  obtain ⟨used, hused, hle, -, hold⟩ := h.rows
  obtain ⟨htmem, htpool⟩ := head?_mem_poolTokens ht
  obtain ⟨extra, hcons⟩ : ∃ extra, poolTokens db.accessTokens pool.id = t :: extra := by
    cases htokens : poolTokens db.accessTokens pool.id with
    | nil =>
      rw [htokens] at ht
      contradiction
    | cons t' extra =>
      rw [htokens] at ht
      obtain rfl := Option.some.inj ht
      exact ⟨extra, rfl⟩
  have hstep : migratePool now db s pool =
      (insertToken db.pools s.1 { t with enabled := true }).map fun tokens => (tokens, s.2) := by
    rw [migratePool, hcons]
    dsimp only
    cases insertToken db.pools s.1 { t with enabled := true } <;> rfl
  split
  next htaken =>
    rw [hstep, insertToken, if_pos (by simp [htaken])]
    rfl
  next hfree =>
    have hnone : s.1.find? t.id = none := Option.not_isSome_iff_eq_none.mp hfree
    have hother : ∀ t' ∈ db.accessTokens.rows, t'.poolID ≠ some pool.id → t'.token ≠ t.token := by
      intro t' ht' hne heq
      have hsame := List.inj_on_of_nodup_map hfresh.unique ht' htmem heq
      exact hne (hsame ▸ htpool)
    have hnew : t.token ∉ used := fun hin =>
      hfresh.new t.token (hused ▸ List.mem_append_left _ hin) t htmem rfl
    have hunique := unique_of_migrated hold hpool hother hnew
    have hinsert := insertToken_of_free db.pools (t := { t with enabled := true }) hnone
      (by simp [htpool, Table.find?_of_mem hmem]) fun u hu => htpool ▸ hunique u hu
    refine ⟨_, by rw [hstep, hinsert]; rfl, h.add { t with enabled := true } s.2
      hused (by omega) hold hnone ?_ ?_⟩
    · exact ⟨htpool, by rw [ht]⟩
    · exact Or.inl (by rw [Database.lowestTokenID, ht]; rfl)

end Step

/-- The number of a token is taken when a pool without a token got it: tokens of
other pools have other numbers. -/
theorem taken_iff_givenTo {pools : List PoolRow} {s : Table AccessToken.id × List Str}
    {pool : PoolRow} (h : MigratedPools db generated pools s)
    (hpool : pool.id ∉ pools.map PoolRow.id) {t : AccessToken}
    (ht : (poolTokens db.accessTokens pool.id).head? = some t) :
    (s.1.find? t.id).isSome = true ↔ GivenTo (pools.map db.lowestTokenID) t.id := by
  obtain ⟨htmem, htpool⟩ := head?_mem_poolTokens ht
  have hids : (s.1.find? t.id).isSome = true ↔ t.id ∈ s.1.rows.map AccessToken.id := by
    rw [Table.find?, List.find?_isSome, List.mem_map]
    simp
  rw [hids, h.ids]
  refine or_iff_right ?_
  intro hkept
  obtain ⟨q, hq, hid⟩ := List.mem_map.mp hkept
  obtain ⟨t', ht', hsame⟩ := Option.map_eq_some_iff.mp hid
  obtain ⟨htmem', htpool'⟩ := head?_mem_poolTokens ht'
  have heq := List.inj_on_of_nodup_map db.accessTokens.nodup htmem' htmem hsame
  rw [heq, htpool] at htpool'
  exact hpool (Option.some.inj htpool' ▸ List.mem_map_of_mem hq)

variable (now) in
/-- The loop goes through, or the numbers clash. -/
theorem exec_migratePool (hfresh : FreshValues db generated) (pools : List PoolRow)
    (hpools : pools.Sublist (TokenTx.poolsByID db)) :
    (∃ s, Runs.exec (migratePool now db) (Table.empty, generated) pools = some s ∧
        MigratedPools db generated pools s ∧ ¬ Clash (pools.map db.lowestTokenID)) ∨
      Runs.exec (migratePool now db) (Table.empty, generated) pools = none ∧
        Clash (pools.map db.lowestTokenID) := by
  have hperm : (TokenTx.poolsByID db).Perm db.pools.rows := List.perm_insertionSort _ _
  induction pools using List.reverseRecOn with
  | nil =>
    refine Or.inl ⟨_, rfl, ⟨⟨[], rfl, Nat.zero_le _, rfl, fun _ h => absurd h List.not_mem_nil⟩,
      rfl, fun id => ?_⟩, ?_⟩
    · constructor
      · exact fun h => absurd h List.not_mem_nil
      · rintro (h | ⟨before, after, h, -⟩)
        · contradiction
        · simp at h
    · rintro ⟨before, id, after, h, -⟩
      simp at h
  | append_singleton pools pool ih =>
    have hnodup : ((pools ++ [pool]).map PoolRow.id).Nodup :=
      ((hperm.map PoolRow.id).nodup_iff.mpr db.pools.nodup).sublist (hpools.map PoolRow.id)
    have hpool : pool.id ∉ pools.map PoolRow.id := by
      rw [List.map_append, List.nodup_append] at hnodup
      exact fun hin => hnodup.2.2 pool.id hin pool.id (by simp) rfl
    have hmem : pool ∈ db.pools.rows := hperm.mem_iff.mp (hpools.subset (by simp))
    have hlength : pools.length < generated.length := by
      have hle := (hpools.length_le.trans hperm.length_eq.le).trans hfresh.enough
      rw [List.length_append, List.length_singleton] at hle
      omega
    rw [Runs.exec_append, List.map_append, List.map_singleton, clash_concat]
    rcases ih ((List.sublist_append_left pools [pool]).trans hpools) with
      ⟨s, hs, hmigrated, hclash⟩ | ⟨hnone, hclash⟩
    · rw [hs]
      cases hhead : (poolTokens db.accessTokens pool.id).head? with
      | none =>
        have hlowest : db.lowestTokenID pool = none := by rw [Database.lowestTokenID, hhead]; rfl
        obtain ⟨s', hs', hnext⟩ := migratePool_generates now hmigrated hfresh hmem hpool
          hlength hhead
        refine Or.inl ⟨s', by simp [Runs.exec, hs'], hnext, ?_⟩
        simp [hlowest, hclash]
      | some t =>
        have hlowest : db.lowestTokenID pool = some t.id := by
          rw [Database.lowestTokenID, hhead]
          rfl
        have htaken := taken_iff_givenTo hmigrated hpool hhead
        have hstep := migratePool_keeps now hmigrated hfresh hmem hpool hhead
        by_cases hgiven : GivenTo (pools.map db.lowestTokenID) t.id
        · rw [if_pos (htaken.mpr hgiven)] at hstep
          exact Or.inr ⟨by simp [Runs.exec, hstep], Or.inr ⟨t.id, hlowest, hgiven⟩⟩
        · rw [if_neg (mt htaken.mp hgiven)] at hstep
          obtain ⟨s', hs', hnext⟩ := hstep
          refine Or.inl ⟨s', by simp [Runs.exec, hs'], hnext, ?_⟩
          rintro (hold | ⟨id, hid, hgiven'⟩)
          · exact hclash hold
          · obtain rfl := Option.some.inj (hlowest.symm.trans hid)
            exact hgiven hgiven'
    · rw [hnone]
      exact Or.inr ⟨rfl, Or.inl hclash⟩

/-! ## The migration -/

/-- Every pool has one token, and one of its own values if it had any. -/
def OneTokenEach (before after : Database) : Prop :=
  ∀ p ∈ before.pools.rows, ∃ t, poolTokens after.accessTokens p.id = [t] ∧
    (poolTokens before.accessTokens p.id ≠ [] →
      t.token ∈ (poolTokens before.accessTokens p.id).map AccessToken.token)

theorem oneTokenEach_of_migrated {s : Table AccessToken.id × List Str}
    (h : MigratedPools db generated (TokenTx.poolsByID db) s) :
    OneTokenEach db { db with accessTokens := s.1 } := by
  have hperm : (TokenTx.poolsByID db).Perm db.pools.rows := List.perm_insertionSort _ _
  obtain ⟨used, -, -, hpools, hrows⟩ := h.rows
  have hnodup : (s.1.rows.map AccessToken.poolID).Nodup := by
    have hids := (hperm.map PoolRow.id).nodup_iff.mpr db.pools.nodup
    have hsome := hids.map (Option.some_injective Int)
    rw [hpools]
    rwa [List.map_map] at hsome
  intro p hp
  have hin : some p.id ∈ s.1.rows.map AccessToken.poolID := by
    rw [hpools]
    exact List.mem_map_of_mem (f := fun p : PoolRow => some p.id) (hperm.mem_iff.mpr hp)
  obtain ⟨row, hrow, hid⟩ := List.mem_map.mp hin
  have hfilter : s.1.rows.filter (fun t => t.poolID == some p.id) = [row] := by
    have hkey := Table.filter_key (⟨s.1.rows, hnodup⟩ : Table AccessToken.poolID) (some p.id)
    have hfind := Table.find?_of_mem (t := (⟨s.1.rows, hnodup⟩ : Table AccessToken.poolID)) hrow
    rw [hid] at hfind
    rw [hfind] at hkey
    refine (List.filter_congr fun t _ => ?_).trans hkey
    rw [Bool.eq_iff_iff, beq_iff_eq, decide_eq_true_eq]
  refine ⟨row, by rw [poolTokens, hfilter]; rfl, fun hsome => ?_⟩
  obtain ⟨q, hq, hqid, hvalue⟩ := hrows row hrow
  have hsame : q.id = p.id := Option.some.inj (hqid.symm.trans hid)
  rw [hsame] at hvalue
  cases htokens : poolTokens db.accessTokens p.id with
  | nil => exact absurd htokens hsome
  | cons t extra =>
    rw [htokens] at hvalue
    exact List.mem_cons.mpr (Or.inl hvalue)

end Loop

/-- The migration succeeds, with one token for every pool and an own value for
every pool that had one, exactly when no pool keeps the number that a pool without
a token before it gets. -/
theorem migration_succeeds_iff {db : Database} {generated : List Str} (now : Clock)
    (hfresh : FreshValues db generated) :
    (∃ tx, (TokenTx.mk db generated {}).migratePoolScopedAccessTokens now = some tx ∧
      OneTokenEach db tx.db) ↔
        ¬ Clash ((TokenTx.poolsByID db).map db.lowestTokenID) := by
  unfold TokenTx.migratePoolScopedAccessTokens
  rcases exec_migratePool now hfresh (TokenTx.poolsByID db) (List.Sublist.refl _) with
    ⟨s, hs, hmigrated, hclash⟩ | ⟨hnone, hclash⟩
  · refine iff_of_true ⟨⟨{ db with accessTokens := s.1 }, s.2, {}⟩, ?_,
      oneTokenEach_of_migrated hmigrated⟩ hclash
    rw [hs]
    rfl
  · refine iff_of_false ?_ (not_not.mpr hclash)
    rintro ⟨tx, htx, -⟩
    rw [hnone] at htx
    contradiction

/-! ## Two databases -/

/-- Two pools and a token of the second one, of a database that is migrated. -/
def tokenOfSecondPool (id : Int) : Database where
  pools := (Table.empty.set { id := 1, label := lit "P" }).set { id := 2, label := lit "Q" }
  accessTokens := Table.empty.set { id := id, name := lit "q", token := lit "k", poolID := some 2 }

/-- The first pool gets the number 1, and the token of the second one keeps 2. -/
theorem second_number_migrates :
    ∃ tx, (TokenTx.mk (tokenOfSecondPool 2) [lit "v", lit "w"] {}).migratePoolScopedAccessTokens
      default = some tx ∧ OneTokenEach (tokenOfSecondPool 2) tx.db := by
  refine (migration_succeeds_iff default ⟨by decide, by decide, by decide, by decide⟩).mpr ?_
  have hlowest : (TokenTx.poolsByID (tokenOfSecondPool 2)).map
      (tokenOfSecondPool 2).lowestTokenID = [none] ++ [some 2] := by decide
  rw [hlowest, clash_concat]
  rintro (⟨before, id, after, heq, -⟩ | ⟨id, hid, before, after, heq, hfree⟩)
  · rcases List.append_eq_singleton_iff.mp heq.symm with ⟨rfl, h⟩ | ⟨rfl, h⟩
    · simp at h
    · simp at h
  · obtain rfl := Option.some.inj hid
    rcases List.append_eq_singleton_iff.mp heq.symm with ⟨rfl, h⟩ | ⟨rfl, h⟩
    · exact absurd hfree (by decide)
    · simp at h

/-- The first pool gets the number 1, which the token of the second one has. -/
theorem first_number_fails :
    FreshValues (tokenOfSecondPool 1) [lit "v", lit "w"] ∧
      (TokenTx.mk (tokenOfSecondPool 1) [lit "v", lit "w"] {}).migratePoolScopedAccessTokens
        default = none :=
  ⟨⟨by decide, by decide, by decide, by decide⟩, by decide +kernel⟩

end Lune.Store
