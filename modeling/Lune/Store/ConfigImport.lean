import Lune.Store.TokenRevocation

/-!
# Importing a configuration

`ImportConfig` and `PreviewImport` of `internal/store/import.go` run the same
statements in a transaction; the first commits it and the second always rolls it
back.  The transaction fails when a statement of it does or when the driver refuses
to begin it or to carry out or commit one of its statements.

An import leaves every pool its lowest token, enabled.  After it, the same payload
finds all its pools and tokens there.  The values that two runs generate differ, so
a preview agrees with an import up to the values of the tokens and the dates.
-/

namespace Lune.Store

open GoText Keyed

/-! ## The two calls -/

/-- What the driver does with a transaction. -/
structure TxDriver where
  begins : Bool := true
  executes : Bool := true
  commits : Bool := true

def TxDriver.works (driver : TxDriver) : Bool := driver.begins && driver.executes && driver.commits

/-- `ImportConfig`. -/
def importConfig (driver : TxDriver) (now : Clock) (generated : List Str) (db : Database)
    (payload : ConfigImportPayload) : Database × Option ConfigImportResult :=
  if driver.begins && driver.executes then
    match runImport { db := db, generated := generated } now payload with
    | some tx => if driver.commits then (tx.db, some tx.result) else (db, none)
    | none => (db, none)
  else (db, none)

/-- `PreviewImport`, its counts. -/
def previewImport (driver : TxDriver) (now : Clock) (generated : List Str) (db : Database)
    (payload : ConfigImportPayload) : Database × Option ConfigImportResult :=
  if driver.begins && driver.executes then
    match runImport { db := db, generated := generated } now payload with
    | some tx => (db, some tx.result)
    | none => (db, none)
  else (db, none)

section Calls

variable {driver : TxDriver} {now : Clock} {generated : List Str} {db db' : Database}
  {payload : ConfigImportPayload}

theorem importConfig_eq_some {result : ConfigImportResult}
    (h : importConfig driver now generated db payload = (db', some result)) :
    ∃ tx, runImport { db := db, generated := generated } now payload = some tx ∧
      db' = tx.db ∧ result = tx.result := by
  unfold importConfig at h
  split at h
  · split at h
    next tx htx =>
      split at h
      · obtain ⟨rfl, hresult⟩ := Prod.mk.inj h
        exact ⟨tx, htx, rfl, (Option.some.inj hresult).symm⟩
      · simp at h
    · simp at h
  · simp at h

theorem importConfig_eq_none (h : importConfig driver now generated db payload = (db', none)) :
    db' = db := by
  unfold importConfig at h
  split at h
  · split at h
    · split at h
      · simp at h
      · exact (Prod.mk.inj h).1.symm
    · exact (Prod.mk.inj h).1.symm
  · exact (Prod.mk.inj h).1.symm

/-- A driver that does its part leaves the outcome to the statements. -/
theorem importConfig_of_works (hworks : driver.works = true) {tx : TokenTx}
    (h : runImport { db := db, generated := generated } now payload = some tx) :
    importConfig driver now generated db payload = (tx.db, some tx.result) := by
  simp only [TxDriver.works, Bool.and_eq_true] at hworks
  simp only [importConfig, hworks, h, Bool.and_self, if_true]

end Calls

/-! ## One token each -/

/-- Every pool has one token, which is enabled. -/
def Database.OneTokenPerPool (db : Database) : Prop :=
  ∀ pool ∈ db.pools.rows, ∃ t, poolTokens db.accessTokens pool.id = [t] ∧ t.enabled = true

section Reconciled

variable {tx tx' : TokenTx} {now : Clock}

/-- Dropping the tokens without a pool leaves the tokens of every pool. -/
theorem poolTokens_dropGlobal (tokens : Table AccessToken.id) (id : Int) :
    poolTokens (tokens.filter fun t => !t.poolID.isNone) id = poolTokens tokens id := by
  rw [poolTokens_filter, List.filter_eq_self]
  intro t ht
  rw [(mem_poolTokens.mp ht).2]
  rfl

theorem mem_poolsByID {db : Database} {pool : PoolRow} :
    pool ∈ TokenTx.poolsByID db ↔ pool ∈ db.pools.rows :=
  (List.perm_insertionSort _ _).mem_iff

/-- The pools gone over have one token each. -/
structure Reconciled (start : TokenTx) (past : List PoolRow) (u : TokenTx) : Prop where
  pools : u.db.pools = start.db.pools
  done : ∀ pool ∈ past, ∃ t, poolTokens u.db.accessTokens pool.id = [t] ∧ t.enabled = true

theorem Reconciled.step {start u v : TokenTx} {past : List PoolRow} {pool : PoolRow}
    (h : Reconciled start past u) (hstep : TokenTx.reconcilePool now u pool = some v) :
    Reconciled start (past ++ [pool]) v := by
  have hone := TokenTx.reconciles hstep
  obtain ⟨t, henabled, -, htokens⟩ := hone.one
  refine ⟨hone.pools.trans h.pools, fun other hother => ?_⟩
  rw [htokens]
  split
  · exact ⟨t, rfl, henabled⟩
  next hne =>
    refine h.done other ((List.mem_append.mp hother).resolve_right fun hlast => ?_)
    rw [List.mem_singleton.mp hlast] at hne
    contradiction

/-- The reconciliation leaves the pools and gives each one token. -/
theorem TokenTx.oneTokenPerPool_reconcilePoolTokens
    (hreconcile : tx.reconcilePoolTokens now = some tx') :
    tx'.db.pools = tx.db.pools ∧ tx'.db.OneTokenPerPool := by
  have hrun : Reconciled tx (poolsByID tx.db) tx' :=
    Runs.exec_invariant (s := tx.deleteTokens fun t => t.poolID.isNone)
      ⟨rfl, fun _ hpool => absurd hpool List.not_mem_nil⟩
      (fun _ _ _ _ h hstep => h.step hstep) hreconcile
  refine ⟨hrun.pools, fun pool hpool => hrun.done pool (mem_poolsByID.mpr ?_)⟩
  rwa [hrun.pools] at hpool

theorem importSettings_pools (settings : List (Str × Str)) (tx : TokenTx) :
    (settings.foldl importSetting tx).db.pools = tx.db.pools ∧
      (settings.foldl importSetting tx).db.accessTokens = tx.db.accessTokens ∧
      (settings.foldl importSetting tx).result.createdPools = tx.result.createdPools ∧
      (settings.foldl importSetting tx).result.createdTokens = tx.result.createdTokens := by
  induction settings generalizing tx with
  | nil => exact ⟨rfl, rfl, rfl, rfl⟩
  | cons setting settings ih =>
    have hone : (importSetting tx setting).db.pools = tx.db.pools ∧
        (importSetting tx setting).db.accessTokens = tx.db.accessTokens ∧
        (importSetting tx setting).result.createdPools = tx.result.createdPools ∧
        (importSetting tx setting).result.createdTokens = tx.result.createdTokens := by
      unfold importSetting
      split
      · exact ⟨rfl, rfl, rfl, rfl⟩
      · exact ⟨rfl, rfl, rfl, rfl⟩
    obtain ⟨hpools, htokens, hcreatedPools, hcreatedTokens⟩ := ih (importSetting tx setting)
    exact ⟨hpools.trans hone.1, htokens.trans hone.2.1, hcreatedPools.trans hone.2.2.1,
      hcreatedTokens.trans hone.2.2.2⟩

/-- After an import every pool has one token. -/
theorem oneTokenPerPool_runImport {payload : ConfigImportPayload}
    (himport : runImport tx now payload = some tx') : tx'.db.OneTokenPerPool := by
  obtain ⟨s, s', last, -, -, hreconcile, rfl⟩ := runImport_eq_some himport
  obtain ⟨hpools, htokens, -⟩ := importSettings_pools payload.settings.rows last
  unfold Database.OneTokenPerPool
  rw [hpools, htokens]
  exact (TokenTx.oneTokenPerPool_reconcilePoolTokens hreconcile).2

/-- A pool whose tokens were a first one and others has the value of the first one in
its only token. -/
theorem PoolFrom.token_eq {generated : List Str} {t t' : AccessToken} {rest : List AccessToken}
    (h : PoolFrom generated True (t :: rest) [t']) : t'.token = t.token := by
  cases h with
  | same => rfl
  | enabled _ hbefore henabled =>
    rw [henabled.token, (List.cons.inj hbefore).1]
  | settled _ hbefore henabled =>
    rw [henabled.token, (List.cons.inj hbefore).1]
  | fresh hbefore => simp at hbefore

end Reconciled

/-! ## Once more -/

theorem Database.poolByLabel_eq_some {db : Database} {label : Str} {id : Int}
    (h : db.poolByLabel label = some id) :
    ∃ pool ∈ db.pools.rows, pool.label = label ∧ pool.id = id := by
  obtain ⟨pool, hfind, rfl⟩ := Option.map_eq_some_iff.mp h
  exact ⟨pool, List.mem_of_find?_eq_some hfind, by simpa using List.find?_some hfind, rfl⟩

/-- A change of a pool that keeps its number and its label. -/
theorem Database.poolByLabel_modify (db : Database) (id : Int) {f : PoolRow → PoolRow}
    (hid : ∀ p, (f p).id = p.id) (hlabel : ∀ p, (f p).label = p.label) (label : Str) :
    { db with pools := db.pools.modify id f }.poolByLabel label = db.poolByLabel label := by
  show ((db.pools.rows.map _).find? _).map PoolRow.id = (db.pools.rows.find? _).map PoolRow.id
  rw [List.find?_map, Option.map_map]
  have hkeep : ∀ p : PoolRow, (if p.id = id ∧ (f p).id = id then f p else p).label = p.label ∧
      (if p.id = id ∧ (f p).id = id then f p else p).id = p.id := by
    intro p
    split
    · exact ⟨hlabel p, hid p⟩
    · exact ⟨rfl, rfl⟩
  have hfind : ((fun p : PoolRow => decide (p.label = label)) ∘
      fun p => if p.id = id ∧ (f p).id = id then f p else p) = fun p => decide (p.label = label) := by
    funext p
    rw [Function.comp, (hkeep p).1]
  rw [hfind]
  congr 1
  funext p
  exact (hkeep p).2

/-- A new pool comes after those that are there. -/
theorem Database.poolByLabel_createPool {db db' : Database} {now : Clock} {label : Str}
    {priority id : Int} {enabled : Bool}
    (h : db.createPool now label priority enabled = some (db', id)) (other : Str) :
    db'.poolByLabel other = (db.poolByLabel other).or (if other = label then some id else none) := by
  obtain ⟨-, rfl, rfl⟩ := Database.createPool_eq_some h
  have hrows : (db.pools.set (db.newPool now label priority enabled)).rows =
      db.pools.rows ++ [db.newPool now label priority enabled] :=
    Table.rows_set_of_fresh (find?_nextRowid db.pools)
  show ((db.pools.set _).rows.find? _).map PoolRow.id = _
  rw [hrows, List.find?_append, Option.map_or]
  congr 1
  by_cases hother : other = label
  · subst hother
    rw [if_pos rfl, List.find?_cons_of_pos]
    · rfl
    · exact decide_eq_true rfl
  · rw [if_neg hother, List.find?_cons_of_neg]
    · rfl
    · rw [decide_eq_true_eq]
      exact fun h => hother h.symm

/-- The labels that are there stay there. -/
def LabelsStay (db db' : Database) : Prop :=
  ∀ label id, db.poolByLabel label = some id → db'.poolByLabel label = some id

/-- The numbers that an import has noted are those of the labels. -/
def Noted (ids : GoMap Str Int) (db : Database) : Prop :=
  ∀ label id, ids.get? label = some id → db.poolByLabel label = some id

theorem Noted.mono {ids : GoMap Str Int} {db db' : Database} (h : Noted ids db)
    (hstay : LabelsStay db db') : Noted ids db' :=
  fun label id hnoted => hstay label id (h label id hnoted)

theorem Noted.put {ids : GoMap Str Int} {db : Database} (h : Noted ids db) {label : Str} {id : Int}
    (hid : db.poolByLabel label = some id) : Noted (ids.put label id) db := by
  intro other found hnoted
  rw [GoMap.get?_put] at hnoted
  split at hnoted
  next heq => rwa [← heq, ← Option.some.inj hnoted]
  · exact h other found hnoted

/-- What an import knows after the pools in `past`: they are there. -/
structure Labelled (past : List ImportedPool) (s : TokenTx × GoMap Str Int) : Prop where
  pools : ∀ p ∈ past, p.label ≠ [] → (s.1.db.poolByLabel p.label).isSome = true
  noted : Noted s.2 s.1.db

/-- One pool of an import. -/
theorem importPool_cases {now : Clock} {tx : TokenTx} {ids : GoMap Str Int} {p : ImportedPool}
    {s' : TokenTx × GoMap Str Int} (hstep : importPool now (tx, ids) p = some s') :
    p.label = [] ∧ s' = (tx, ids) ∨
      p.label ≠ [] ∧ LabelsStay tx.db s'.1.db ∧
        ∃ id, s'.1.db.poolByLabel p.label = some id ∧ s'.2 = ids.put p.label id := by
  unfold importPool at hstep
  dsimp only at hstep
  split at hstep
  next hempty => exact Or.inl ⟨hempty, (Option.some.inj hstep).symm⟩
  next hlabel =>
    apply Or.inr
    refine ⟨hlabel, ?_⟩
    split at hstep
    next id hid =>
      obtain rfl := Option.some.inj hstep
      have hsame := Database.poolByLabel_modify tx.db id
        (f := fun row => { row with priority := p.priority, enabled := p.enabled,
                                    updatedAt := some now.datetime })
        (fun _ => rfl) fun _ => rfl
      exact ⟨fun label found h => (hsame label).trans h, id, (hsame p.label).trans hid, rfl⟩
    next hnone =>
      obtain ⟨⟨db, id⟩, hcreate, hnext⟩ := Option.bind_eq_some_iff.mp hstep
      obtain rfl := Option.some.inj hnext
      have hafter := Database.poolByLabel_createPool hcreate
      refine ⟨fun label found h => ?_, id, ?_, rfl⟩
      · rw [hafter, h]
        rfl
      · show db.poolByLabel p.label = some id
        rw [hafter, hnone, if_pos rfl]
        rfl

theorem Labelled.importPool {now : Clock} {past : List ImportedPool}
    {s s' : TokenTx × GoMap Str Int} {p : ImportedPool} (h : Labelled past s)
    (hstep : Store.importPool now s p = some s') : Labelled (past ++ [p]) s' := by
  cases importPool_cases hstep with
  | inl hempty =>
    obtain ⟨hlabel, rfl⟩ := hempty
    refine ⟨fun other hother hne => ?_, h.noted⟩
    refine h.pools other ((List.mem_append.mp hother).resolve_right fun hlast => ?_) hne
    exact hne (List.mem_singleton.mp hlast ▸ hlabel)
  | inr hput =>
    obtain ⟨-, hstay, id, hid, hids⟩ := hput
    refine ⟨fun other hother hne => ?_, hids ▸ (h.noted.mono hstay).put hid⟩
    cases List.mem_append.mp hother with
    | inl hpast =>
      obtain ⟨found, hfound⟩ := Option.isSome_iff_exists.mp (h.pools other hpast hne)
      rw [hstay other.label found hfound]
      rfl
    | inr hlast =>
      rw [List.mem_singleton.mp hlast, hid]
      rfl

/-- The token of an import names a pool that is there, if it is to be imported at
all. -/
def Database.KnowsPoolOf (db : Database) (t : ImportedToken) : Prop :=
  t.name ≠ [] → t.poolID ≠ none → t.poolLabel ≠ [] ∧ (db.poolByLabel t.poolLabel).isSome = true

theorem poolByLabel_of_pools {db db' : Database} (h : db'.pools = db.pools) (label : Str) :
    db'.poolByLabel label = db.poolByLabel label := by
  unfold Database.poolByLabel
  rw [h]

/-- One token of an import: the pools stay, and it names one of them. -/
theorem importToken_cases {now : Clock} {tx : TokenTx} {ids : GoMap Str Int} {t : ImportedToken}
    {s' : TokenTx × GoMap Str Int}
    (hnoted : Noted ids tx.db)
    (hstep : importToken now (tx, ids) t = some s') :
    s'.1.db.pools = tx.db.pools ∧ tx.db.KnowsPoolOf t ∧
      (s'.2 = ids ∨ ∃ id, tx.db.poolByLabel t.poolLabel = some id ∧
        s'.2 = ids.put t.poolLabel id) := by
  unfold importToken at hstep
  dsimp only at hstep
  split at hstep
  next hname =>
    obtain rfl := Option.some.inj hstep
    exact ⟨rfl, fun hne => absurd hname hne, Or.inl rfl⟩
  split at hstep
  next hpool =>
    obtain rfl := Option.some.inj hstep
    exact ⟨rfl, fun _ hne => absurd hpool hne, Or.inl rfl⟩
  split at hstep
  · contradiction
  next hlabel =>
    obtain ⟨id, hid, hrest⟩ := Option.bind_eq_some_iff.mp hstep
    -- a number that was noted before is that of the label
    have hthere : tx.db.poolByLabel t.poolLabel = some id := by
      cases hget : ids.get? t.poolLabel with
      | some noted =>
        rw [hget] at hid
        rw [← Option.some.inj hid]
        exact hnoted _ _ hget
      | none =>
        rw [hget] at hid
        exact hid
    have hknows : tx.db.KnowsPoolOf t := fun _ _ => ⟨hlabel, by rw [hthere]; rfl⟩
    split at hrest
    · obtain rfl := Option.some.inj hrest
      exact ⟨rfl, hknows, Or.inr ⟨id, hthere, rfl⟩⟩
    · obtain ⟨next, hcreate, hnext⟩ := Option.bind_eq_some_iff.mp hrest
      obtain rfl := Option.some.inj hnext
      obtain ⟨value, rest, tokens, -, -, rfl⟩ := TokenTx.createToken_eq_some hcreate
      exact ⟨rfl, hknows, Or.inr ⟨id, hthere, rfl⟩⟩

/-- The tokens in `past` have also been gone over. -/
structure TokensLabelled (pools : List ImportedPool) (past : List ImportedToken)
    (s : TokenTx × GoMap Str Int) : Prop extends Labelled pools s where
  tokens : ∀ t ∈ past, s.1.db.KnowsPoolOf t

theorem TokensLabelled.importToken {now : Clock} {pools : List ImportedPool}
    {past : List ImportedToken} {s s' : TokenTx × GoMap Str Int} {t : ImportedToken}
    (h : TokensLabelled pools past s) (hstep : Store.importToken now s t = some s') :
    TokensLabelled pools (past ++ [t]) s' := by
  obtain ⟨hpools, hknows, hids⟩ := importToken_cases h.noted hstep
  have hsame := poolByLabel_of_pools hpools
  have hstay : LabelsStay s.1.db s'.1.db := fun label id hid => (hsame label).trans hid
  refine ⟨⟨fun p hp hne => ?_, ?_⟩, fun other hother => ?_⟩
  · rw [hsame]
    exact h.pools p hp hne
  · cases hids with
    | inl hids => exact hids ▸ h.noted.mono hstay
    | inr hput =>
      obtain ⟨id, hid, hids⟩ := hput
      exact hids ▸ (h.noted.put hid).mono hstay
  · unfold Database.KnowsPoolOf
    rw [hsame]
    cases List.mem_append.mp hother with
    | inl hpast => exact h.tokens other hpast
    | inr hlast =>
      rw [List.mem_singleton.mp hlast]
      exact hknows

/-- What the tables have after an import of the payload. -/
structure Database.Imported (db : Database) (payload : ConfigImportPayload) : Prop where
  pools : ∀ p ∈ payload.pools, p.label ≠ [] → (db.poolByLabel p.label).isSome = true
  tokens : ∀ t ∈ payload.accessTokens, db.KnowsPoolOf t
  settled : db.OneTokenPerPool

theorem imported_of_runImport {now : Clock} {tx tx' : TokenTx} {payload : ConfigImportPayload}
    (himport : runImport tx now payload = some tx') : tx'.db.Imported payload := by
  have hsettled := oneTokenPerPool_runImport himport
  obtain ⟨s, s', last, hpools, htokens, hreconcile, rfl⟩ := runImport_eq_some himport
  have hlabelled : Labelled payload.pools s :=
    Runs.exec_invariant ⟨fun _ hp => absurd hp List.not_mem_nil, fun _ _ h => absurd h (by simp)⟩
      (fun _ _ _ _ h hstep => h.importPool hstep) hpools
  have hall : TokensLabelled payload.pools payload.accessTokens s' :=
    Runs.exec_invariant ⟨hlabelled, fun _ ht => absurd ht List.not_mem_nil⟩
      (fun _ _ _ _ h hstep => h.importToken hstep) htokens
  have hsame : ∀ label, (payload.settings.rows.foldl importSetting last).db.poolByLabel label =
      s'.1.db.poolByLabel label := by
    refine poolByLabel_of_pools ?_
    rw [(importSettings_pools _ last).1]
    exact (TokenTx.oneTokenPerPool_reconcilePoolTokens hreconcile).1
  refine ⟨fun p hp hne => ?_, fun t ht => ?_, hsettled⟩
  · rw [hsame]
    exact hall.pools p hp hne
  · unfold Database.KnowsPoolOf
    rw [hsame]
    exact hall.tokens t ht

/-- An import of what is there already, so far. -/
structure Repeats (payload : ConfigImportPayload) (s : TokenTx × GoMap Str Int) : Prop where
  imported : s.1.db.Imported payload
  noted : Noted s.2 s.1.db
  createdPools : s.1.result.createdPools = 0
  createdTokens : s.1.result.createdTokens = 0

section Repeated

variable {payload : ConfigImportPayload} {tx : TokenTx} {ids : GoMap Str Int} {now : Clock}

theorem Database.Imported.modify {db : Database} (h : db.Imported payload) (id : Int)
    {f : PoolRow → PoolRow} (hid : ∀ p, (f p).id = p.id) (hlabel : ∀ p, (f p).label = p.label) :
    { db with pools := db.pools.modify id f }.Imported payload := by
  have hsame := db.poolByLabel_modify id hid hlabel
  refine ⟨fun p hp hne => ?_, fun t ht => ?_, fun pool hpool => ?_⟩
  · rw [hsame]
    exact h.pools p hp hne
  · unfold Database.KnowsPoolOf
    rw [hsame]
    exact h.tokens t ht
  · obtain ⟨old, hold, rfl⟩ := List.mem_map.mp hpool
    split
    · rw [hid]
      exact h.settled old hold
    · exact h.settled old hold

variable (now) in
theorem Repeats.importPool (h : Repeats payload (tx, ids)) {p : ImportedPool}
    (hp : p ∈ payload.pools) : ∃ s', Store.importPool now (tx, ids) p = some s' ∧ Repeats payload s' := by
  unfold Store.importPool
  by_cases hlabel : p.label = []
  · exact ⟨_, if_pos hlabel, h⟩
  obtain ⟨id, hid⟩ := Option.isSome_iff_exists.mp (h.imported.pools p hp hlabel)
  have hid : tx.db.poolByLabel p.label = some id := hid
  simp only [if_neg hlabel, hid]
  have hsame := tx.db.poolByLabel_modify id
    (f := fun row => { row with priority := p.priority, enabled := p.enabled,
                                updatedAt := some now.datetime })
    (fun _ => rfl) fun _ => rfl
  have hstay : LabelsStay tx.db { tx.db with
      pools := tx.db.pools.modify id fun row =>
        { row with priority := p.priority, enabled := p.enabled,
                   updatedAt := some now.datetime } } :=
    fun label found hfound => (hsame label).trans hfound
  exact ⟨_, rfl, h.imported.modify id (fun _ => rfl) fun _ => rfl, (h.noted.put hid).mono hstay,
    h.createdPools, h.createdTokens⟩

/-- The token of a pool that is there. -/
theorem Database.Imported.any_token {db : Database} (h : db.Imported payload) {label : Str}
    {id : Int} (hid : db.poolByLabel label = some id) :
    (db.accessTokens.rows.any fun u => u.poolID == some id) = true := by
  obtain ⟨pool, hpool, -, rfl⟩ := Database.poolByLabel_eq_some hid
  obtain ⟨t, htokens, -⟩ := h.settled pool hpool
  obtain ⟨hmem, hpoolID⟩ := mem_poolTokens.mp (htokens ▸ List.mem_singleton_self t :
    t ∈ poolTokens db.accessTokens pool.id)
  rw [List.any_eq_true]
  exact ⟨t, hmem, beq_iff_eq.mpr hpoolID⟩

variable (now) in
theorem Repeats.importToken (h : Repeats payload (tx, ids)) {t : ImportedToken}
    (ht : t ∈ payload.accessTokens) :
    ∃ s', Store.importToken now (tx, ids) t = some s' ∧ Repeats payload s' := by
  have hskip : ∀ ids' : GoMap Str Int, Noted ids' tx.db → Repeats payload (tx.skipToken, ids') :=
    fun _ hnoted => ⟨h.imported, hnoted, h.createdPools, h.createdTokens⟩
  unfold Store.importToken
  by_cases hname : t.name = []
  · exact ⟨_, if_pos hname, h⟩
  by_cases hpool : t.poolID = none
  · simp only [if_neg hname, if_pos hpool]
    exact ⟨_, rfl, hskip ids h.noted⟩
  obtain ⟨hlabel, hthere⟩ := h.imported.tokens t ht hname hpool
  obtain ⟨id, hid⟩ := Option.isSome_iff_exists.mp hthere
  have hfound : (ids.get? t.poolLabel <|> tx.db.poolByLabel t.poolLabel) = some id := by
    cases hget : ids.get? t.poolLabel with
    | none => exact hid
    | some noted => exact (h.noted _ _ hget).symm.trans hid
  have hany : (tx.db.accessTokens.rows.any fun u => u.poolID == some id) = true :=
    h.imported.any_token hid
  simp only [if_neg hname, if_neg hpool, if_neg hlabel, hfound, Option.bind_eq_bind,
    Option.bind_some, hany, Bool.true_or, if_true]
  exact ⟨_, rfl, hskip _ (h.noted.put hid)⟩

variable (now) in
/-- The reconciliation of tables in which every pool has one token. -/
theorem reconcilePoolTokens_of_oneTokenPerPool (hone : tx.db.OneTokenPerPool) :
    ∃ tx', tx.reconcilePoolTokens now = some tx' ∧
      tx'.result.createdPools = tx.result.createdPools ∧
      tx'.result.createdTokens = tx.result.createdTokens := by
  have htotal : ∃ tx', tx.reconcilePoolTokens now = some tx' ∧
      (∀ pool ∈ tx.db.pools.rows, ∃ t, poolTokens tx'.db.accessTokens pool.id = [t]) ∧
      tx'.result.createdPools = tx.result.createdPools ∧
      tx'.result.createdTokens = tx.result.createdTokens := by
    refine Runs.exec_total (I := fun u : TokenTx =>
      (∀ pool ∈ tx.db.pools.rows, ∃ t, poolTokens u.db.accessTokens pool.id = [t]) ∧
      u.result.createdPools = tx.result.createdPools ∧
      u.result.createdTokens = tx.result.createdTokens) ⟨fun pool hpool => ?_, rfl, rfl⟩
      fun pool hpool u hu => ?_
    · obtain ⟨t, htokens, -⟩ := hone pool hpool
      exact ⟨t, (poolTokens_dropGlobal _ _).trans htokens⟩
    · obtain ⟨keep, htokens⟩ := hu.1 pool (mem_poolsByID.mp hpool)
      unfold TokenTx.reconcilePool
      rw [htokens]
      refine ⟨_, rfl, fun other hother => ?_, hu.2.1, hu.2.2⟩
      rw [poolTokens_settle htokens]
      split
      · exact ⟨_, rfl⟩
      · exact hu.1 other hother
  obtain ⟨tx', hexec, -, hpools, htokens⟩ := htotal
  exact ⟨tx', hexec, hpools, htokens⟩

variable (now) in
/-- Importing what has been imported creates nothing. -/
theorem runImport_of_imported {db : Database} (h : db.Imported payload) (generated : List Str) :
    ∃ tx', runImport { db := db, generated := generated } now payload = some tx' ∧
      tx'.result.createdPools = 0 ∧ tx'.result.createdTokens = 0 := by
  have hstart : Repeats payload ({ db := db, generated := generated }, Table.empty) :=
    ⟨h, fun _ _ hget => absurd hget (by simp), rfl, rfl⟩
  obtain ⟨s, hpools, hs⟩ := Runs.exec_total hstart fun p hp u hu => hu.importPool now hp
  obtain ⟨s', htokens, hs'⟩ := Runs.exec_total hs fun t ht u hu => hu.importToken now ht
  obtain ⟨last, hreconcile, hcreatedPools, hcreatedTokens⟩ :=
    reconcilePoolTokens_of_oneTokenPerPool now hs'.imported.settled
  obtain ⟨-, -, hpoolCount, htokenCount⟩ := importSettings_pools payload.settings.rows last
  refine ⟨payload.settings.rows.foldl importSetting last, ?_, ?_, ?_⟩
  · simp only [runImport, hpools, htokens, hreconcile, Option.bind_eq_bind, Option.bind_some]
    rfl
  · rw [hpoolCount, hcreatedPools, hs'.createdPools]
  · rw [htokenCount, hcreatedTokens, hs'.createdTokens]

end Repeated

/-! ## The preview -/

/-- A token without its value and its date. -/
def AccessToken.shape (t : AccessToken) : AccessToken := { t with token := [], updatedAt := [] }

/-- A pool without its dates. -/
def PoolRow.shape (p : PoolRow) : PoolRow := { p with createdAt := none, updatedAt := none }

/-- The values that are yet to be generated are new. -/
structure TokenTx.Fresh (tx : TokenTx) : Prop where
  nodup : tx.generated.Nodup
  new : ∀ value ∈ tx.generated, ∀ t ∈ tx.db.accessTokens.rows, t.token ≠ value

/-- Two transactions that differ in dates and in the values of tokens. -/
structure SameShape (tx ty : TokenTx) : Prop where
  pools : tx.db.pools.rows.map PoolRow.shape = ty.db.pools.rows.map PoolRow.shape
  tokens : tx.db.accessTokens.rows.map AccessToken.shape =
    ty.db.accessTokens.rows.map AccessToken.shape
  result : tx.result = ty.result
  length : tx.generated.length = ty.generated.length
  fresh : tx.Fresh
  fresh' : ty.Fresh

section Shapes

variable {tx ty : TokenTx} {now now' : Clock}

/-- A list of rows seen through their shapes. -/
theorem map_of_shapes {ρ β : Type} {shape : ρ → ρ} {rows rows' : List ρ}
    (h : rows.map shape = rows'.map shape) (f : ρ → β) (hf : ∀ r, f (shape r) = f r) :
    rows.map f = rows'.map f := by
  have hthrough : ∀ rs : List ρ, rs.map f = (rs.map shape).map f := by
    intro rs
    rw [List.map_map]
    exact List.map_congr_left fun r _ => (hf r).symm
  rw [hthrough, h, ← hthrough]

theorem any_of_shapes {ρ : Type} {shape : ρ → ρ} {rows rows' : List ρ}
    (h : rows.map shape = rows'.map shape) (p : ρ → Bool) (hp : ∀ r, p (shape r) = p r) :
    rows.any p = rows'.any p := by
  have hany : ∀ rs : List ρ, rs.any p = (rs.map p).any id := by
    intro rs
    rw [List.any_map]
    rfl
  rw [hany, map_of_shapes h p hp, ← hany]

theorem nextRowid_of_shapes {ρ : Type} {key : ρ → Int} {shape : ρ → ρ} {t t' : Table key}
    (h : t.rows.map shape = t'.rows.map shape) (hkey : ∀ r, key (shape r) = key r) :
    nextRowid t = nextRowid t' := by
  unfold nextRowid
  rw [map_of_shapes h key hkey]

theorem SameShape.poolByLabel (h : SameShape tx ty) (label : Str) :
    tx.db.poolByLabel label = ty.db.poolByLabel label := by
  have hids : ∀ rows : List PoolRow,
      (rows.find? fun p => p.label = label).map PoolRow.id =
        ((rows.map PoolRow.shape).find? fun p => p.label = label).map PoolRow.id := by
    intro rows
    rw [List.find?_map, Option.map_map]
    rfl
  unfold Database.poolByLabel
  rw [hids, h.pools, ← hids]

theorem SameShape.find?_pools (h : SameShape tx ty) (id : Int) :
    (tx.db.pools.find? id).isSome = (ty.db.pools.find? id).isSome := by
  unfold Table.find?
  rw [List.isSome_find?, List.isSome_find?]
  exact any_of_shapes h.pools _ fun _ => rfl

theorem SameShape.any_poolID (h : SameShape tx ty) (poolID : Int) :
    (tx.db.accessTokens.rows.any fun u => u.poolID == some poolID) =
      ty.db.accessTokens.rows.any fun u => u.poolID == some poolID :=
  any_of_shapes h.tokens _ fun _ => rfl

/-- A new value does not keep a token from being inserted. -/
theorem insertToken_freshToken (pools : Table PoolRow.id) {tokens : Table AccessToken.id}
    {value : Str} (hnew : ∀ t ∈ tokens.rows, t.token ≠ value) (name : Str) (poolID : Int)
    (enabled : Bool) :
    insertToken pools tokens (freshToken tokens now name value poolID enabled) =
      if (pools.find? poolID).isSome = true ∧
          (tokens.rows.any fun u => u.poolID == some poolID) = false then
        some (tokens.set (freshToken tokens now name value poolID enabled))
      else none := by
  split
  next hfree =>
    refine insertToken_of_free pools (find?_nextRowid tokens) hfree.1 fun u hu => ⟨hnew u hu, ?_⟩
    exact fun hpool => List.any_eq_false.mp hfree.2 u hu (beq_iff_eq.mpr hpool)
  next hrefused =>
    cases hinsert : insertToken pools tokens (freshToken tokens now name value poolID enabled) with
    | none => rfl
    | some tokens' =>
      obtain ⟨⟨-, hpool, hunique⟩, -⟩ := insertToken_eq_some hinsert
      refine absurd ⟨hpool, ?_⟩ hrefused
      rw [List.any_eq_false]
      exact fun u hu hused => (hunique u hu).2 (beq_iff_eq.mp hused)

variable (now) in
/-- A new token with the next value. -/
theorem TokenTx.createToken_of_fresh {value : Str} {rest : List Str} (h : tx.Fresh)
    (hvalue : tx.generated = value :: rest) (name : Str) (poolID : Int) (enabled : Bool) :
    tx.createToken now name poolID enabled =
      if (tx.db.pools.find? poolID).isSome = true ∧
          (tx.db.accessTokens.rows.any fun u => u.poolID == some poolID) = false then
        some { db := { tx.db with
                 accessTokens := tx.db.accessTokens.set
                   (freshToken tx.db.accessTokens now name value poolID enabled) }
               generated := rest
               result := { tx.result with createdTokens := tx.result.createdTokens + 1 } }
      else none := by
  have hnew := h.new value (hvalue ▸ List.mem_cons_self)
  unfold TokenTx.createToken
  rw [hvalue]
  simp only [insertToken_freshToken _ hnew]
  split
  · rfl
  · rfl

/-- The values that are left are new beside the token that has the first one. -/
theorem TokenTx.Fresh.set {row : AccessToken} {rest : List Str} {result : ConfigImportResult}
    (h : tx.Fresh) (hvalue : tx.generated = row.token :: rest)
    (hfree : tx.db.accessTokens.find? row.id = none) :
    TokenTx.Fresh { db := { tx.db with accessTokens := tx.db.accessTokens.set row }
                    generated := rest, result := result } := by
  have hnodup : (row.token :: rest).Nodup := hvalue ▸ h.nodup
  refine ⟨(List.nodup_cons.mp hnodup).2, fun value hmem t ht => ?_⟩
  rw [Table.rows_set_of_fresh hfree, List.mem_append] at ht
  cases ht with
  | inl hold => exact h.new value (hvalue ▸ List.mem_cons_of_mem _ hmem) t hold
  | inr hlast =>
    rw [List.mem_singleton.mp hlast]
    exact fun heq => (List.nodup_cons.mp hnodup).1 (heq ▸ hmem)

theorem SameShape.createToken (h : SameShape tx ty) (name : Str) (poolID : Int) (enabled : Bool) :
    Option.Rel SameShape (tx.createToken now name poolID enabled)
      (ty.createToken now' name poolID enabled) := by
  have hlength := h.length
  cases hx : tx.generated with
  | nil =>
    rw [hx, List.length_nil] at hlength
    have hy : ty.generated = [] := List.eq_nil_of_length_eq_zero hlength.symm
    simp only [TokenTx.createToken, hx, hy]
    exact .none
  | cons value rest =>
    cases hy : ty.generated with
    | nil => simp [hx, hy] at hlength
    | cons value' rest' =>
      rw [TokenTx.createToken_of_fresh now h.fresh hx, TokenTx.createToken_of_fresh now' h.fresh' hy,
        h.find?_pools, h.any_poolID]
      split
      · refine .some ⟨h.pools, ?_, ?_, ?_, h.fresh.set hx (find?_nextRowid _),
          h.fresh'.set hy (find?_nextRowid _)⟩
        · rw [Table.rows_set_of_fresh (find?_nextRowid _), Table.rows_set_of_fresh (find?_nextRowid _),
            List.map_append, List.map_append, h.tokens]
          simp only [List.map_cons, List.map_nil, AccessToken.shape, freshToken,
            nextRowid_of_shapes h.tokens fun _ => rfl]
        · rw [h.result]
        · rw [hx, hy, List.length_cons, List.length_cons] at hlength
          exact Nat.succ.inj hlength
      · exact .none

/-- A change of the token tables that leaves the values there are or takes some away. -/
theorem TokenTx.Fresh.of_tokens (h : tx.Fresh) {tokens : Table AccessToken.id}
    {result : ConfigImportResult}
    (hold : ∀ t ∈ tokens.rows, ∃ u ∈ tx.db.accessTokens.rows, u.token = t.token) :
    TokenTx.Fresh { db := { tx.db with accessTokens := tokens }, generated := tx.generated,
                    result := result } := by
  refine ⟨h.nodup, fun value hvalue t ht heq => ?_⟩
  obtain ⟨u, hu, htoken⟩ := hold t ht
  exact h.new value hvalue u hu (htoken.trans heq)

theorem SameShape.enableToken (h : SameShape tx ty) (id : Int) :
    SameShape (tx.enableToken now id) (ty.enableToken now' id) := by
  have hshape : ∀ (tokens : Table AccessToken.id) (now : Clock),
      (tokens.modify id fun t => { t with enabled := true, updatedAt := now.datetime }).rows.map
          AccessToken.shape =
        tokens.rows.map fun t => if t.id = id then { t.shape with enabled := true } else t.shape := by
    intro tokens now
    show (tokens.rows.map _).map _ = _
    rw [List.map_map]
    refine List.map_congr_left fun t _ => ?_
    by_cases ht : t.id = id
    · simp [ht, AccessToken.shape]
    · simp [ht]
  have hold : ∀ (tokens : Table AccessToken.id) (now : Clock),
      ∀ t ∈ (tokens.modify id fun t => { t with enabled := true, updatedAt := now.datetime }).rows,
        ∃ u ∈ tokens.rows, u.token = t.token := by
    intro tokens now t ht
    obtain ⟨u, hu, rfl⟩ := List.mem_map.mp ht
    refine ⟨u, hu, ?_⟩
    split
    · rfl
    · rfl
  refine ⟨h.pools, ?_, h.result, h.length, h.fresh.of_tokens (hold _ now),
    h.fresh'.of_tokens (hold _ now')⟩
  refine (hshape _ now).trans (Eq.trans ?_ (hshape _ now').symm)
  exact map_of_shapes h.tokens (fun t => if t.id = id then { t.shape with enabled := true } else t.shape)
    fun _ => rfl

theorem SameShape.deleteTokens (h : SameShape tx ty) (p : AccessToken → Bool)
    (hp : ∀ t, p t.shape = p t) : SameShape (tx.deleteTokens p) (ty.deleteTokens p) := by
  have hfilter : ∀ rows : List AccessToken, (rows.filter fun t => !p t).map AccessToken.shape =
      (rows.map AccessToken.shape).filter fun t => !p t := by
    intro rows
    rw [List.filter_map]
    simp only [Function.comp_def, hp]
  have hcount : tx.db.accessTokens.rows.countP p = ty.db.accessTokens.rows.countP p := by
    have hmap := map_of_shapes h.tokens p hp
    have hcountP : ∀ rows : List AccessToken, rows.countP p = (rows.map p).countP id := by
      intro rows
      rw [List.countP_map]
      rfl
    rw [hcountP, hmap, ← hcountP]
  have hold : ∀ tokens : Table AccessToken.id, ∀ t ∈ (tokens.filter fun t => !p t).rows,
      ∃ u ∈ tokens.rows, u.token = t.token :=
    fun _ t ht => ⟨t, List.mem_of_mem_filter ht, rfl⟩
  refine ⟨h.pools, ?_, ?_, h.length, h.fresh.of_tokens (hold _), h.fresh'.of_tokens (hold _)⟩
  · refine (hfilter _).trans (Eq.trans ?_ (hfilter _).symm)
    rw [h.tokens]
  · show ConfigImportResult.mk _ _ _ _ _ = ConfigImportResult.mk _ _ _ _ _
    rw [h.result, hcount]

theorem SameShape.poolTokens (h : SameShape tx ty) (poolID : Int) :
    (Store.poolTokens tx.db.accessTokens poolID).map AccessToken.id =
      (Store.poolTokens ty.db.accessTokens poolID).map AccessToken.id := by
  have hids : ∀ tokens : Table AccessToken.id,
      (Store.poolTokens tokens poolID).map AccessToken.id =
        (((tokens.rows.map AccessToken.shape).filter fun t => t.poolID == some poolID).map
          AccessToken.id).insertionSort (· ≤ ·) := by
    intro tokens
    unfold Store.poolTokens
    rw [List.map_insertionSort (s := (· ≤ ·)) _ _ _ fun _ _ _ _ => Iff.rfl, List.filter_map,
      List.map_map]
    rfl
  rw [hids, hids, h.tokens]

theorem SameShape.poolsByID (h : SameShape tx ty) :
    (TokenTx.poolsByID tx.db).map PoolRow.shape = (TokenTx.poolsByID ty.db).map PoolRow.shape := by
  have hsort : ∀ db : Database, (TokenTx.poolsByID db).map PoolRow.shape =
      (db.pools.rows.map PoolRow.shape).insertionSort fun p q => p.id ≤ q.id :=
    fun db => List.map_insertionSort _ _ _ _ fun _ _ _ _ => Iff.rfl
  rw [hsort, hsort, h.pools]

theorem SameShape.reconcilePool (h : SameShape tx ty) (pool : PoolRow) :
    Option.Rel SameShape (TokenTx.reconcilePool now tx pool) (TokenTx.reconcilePool now' ty pool) := by
  have hids := h.poolTokens pool.id
  unfold TokenTx.reconcilePool
  cases hx : Store.poolTokens tx.db.accessTokens pool.id with
  | nil =>
    rw [hx] at hids
    rw [List.map_eq_nil_iff.mp hids.symm]
    exact h.createToken (defaultPoolTokenName pool.label) pool.id true
  | cons keep extra =>
    cases hy : Store.poolTokens ty.db.accessTokens pool.id with
    | nil => simp [hx, hy] at hids
    | cons keep' extra' =>
      rw [hx, hy, List.map_cons, List.map_cons, List.cons.injEq] at hids
      obtain ⟨hkeep, hextra⟩ := hids
      have hdelete : (fun t : AccessToken => extra'.any fun u => u.id == t.id) =
          fun t => extra.any fun u => u.id == t.id := by
        funext t
        have hany : ∀ us : List AccessToken,
            (us.any fun u => u.id == t.id) = (us.map AccessToken.id).any (· == t.id) := by
          intro us
          rw [List.any_map]
          rfl
        rw [hany, hany, hextra]
      simp only [hdelete, ← hkeep]
      exact .some ((h.enableToken keep.id).deleteTokens _ fun _ => rfl)

theorem SameShape.reconcilePoolTokens (h : SameShape tx ty) :
    Option.Rel SameShape (tx.reconcilePoolTokens now) (ty.reconcilePoolTokens now') := by
  -- a pool is reconciled by its number and label, which its shape has
  have hpools : ∀ (now : Clock) (u : TokenTx) (pools : List PoolRow),
      Runs.exec (TokenTx.reconcilePool now) u (pools.map PoolRow.shape) =
        Runs.exec (TokenTx.reconcilePool now) u pools :=
    fun now u pools => Runs.exec_map PoolRow.shape pools u
  unfold TokenTx.reconcilePoolTokens
  rw [← hpools now, ← hpools now', h.poolsByID]
  exact Runs.exec_simulates (h.deleteTokens _ fun _ => rfl) (fun _ _ pool hu => hu.reconcilePool pool) _

/-- Two imports of the same payload, with the pools by label. -/
def SameImport (s s' : TokenTx × GoMap Str Int) : Prop := SameShape s.1 s'.1 ∧ s.2 = s'.2

theorem SameShape.importPool (h : SameShape tx ty) (ids : GoMap Str Int) (p : ImportedPool) :
    Option.Rel SameImport (Store.importPool now (tx, ids) p) (Store.importPool now' (ty, ids) p) := by
  unfold Store.importPool
  dsimp only
  split
  · exact .some ⟨h, rfl⟩
  rw [h.poolByLabel]
  cases hid : ty.db.poolByLabel p.label with
  | some id =>
    have hshape : ∀ (pools : Table PoolRow.id) (now : Clock),
        (pools.modify id fun row => { row with priority := p.priority, enabled := p.enabled,
                                               updatedAt := some now.datetime }).rows.map
            PoolRow.shape =
          pools.rows.map fun row => if row.id = id then
            { row.shape with priority := p.priority, enabled := p.enabled } else row.shape := by
      intro pools now
      show (pools.rows.map _).map _ = _
      rw [List.map_map]
      refine List.map_congr_left fun row _ => ?_
      by_cases hrow : row.id = id
      · simp [hrow, PoolRow.shape]
      · simp [hrow]
    refine .some ⟨⟨?_, h.tokens, ?_, h.length, ⟨h.fresh.nodup, h.fresh.new⟩,
      ⟨h.fresh'.nodup, h.fresh'.new⟩⟩, rfl⟩
    · refine (hshape _ now).trans (Eq.trans ?_ (hshape _ now').symm)
      exact map_of_shapes h.pools (fun row => if row.id = id then
        { row.shape with priority := p.priority, enabled := p.enabled } else row.shape) fun _ => rfl
    · rw [h.result]
  | none =>
    have hlabel : (tx.db.pools.rows.any fun q => q.label == p.label) =
        ty.db.pools.rows.any fun q => q.label == p.label := any_of_shapes h.pools _ fun _ => rfl
    have hnext : nextRowid tx.db.pools = nextRowid ty.db.pools :=
      nextRowid_of_shapes h.pools fun _ => rfl
    simp only [Database.createPool, hlabel]
    split
    · exact .none
    · simp only [Database.newPool, hnext]
      refine .some ⟨⟨?_, h.tokens, ?_, h.length, ⟨h.fresh.nodup, h.fresh.new⟩,
        ⟨h.fresh'.nodup, h.fresh'.new⟩⟩, rfl⟩
      · have hfree : ∀ (t : Table PoolRow.id) (row : PoolRow), row.id = nextRowid t →
            (t.set row).rows = t.rows ++ [row] :=
          fun t row hrow => Table.rows_set_of_fresh (hrow ▸ find?_nextRowid t)
        rw [hfree _ _ hnext.symm, hfree _ _ rfl, List.map_append, List.map_append, h.pools]
        rfl
      · rw [h.result]

theorem SameShape.skipToken (h : SameShape tx ty) : SameShape tx.skipToken ty.skipToken where
  pools := h.pools
  tokens := h.tokens
  result := by
    unfold TokenTx.skipToken
    rw [h.result]
  length := h.length
  fresh := ⟨h.fresh.nodup, h.fresh.new⟩
  fresh' := ⟨h.fresh'.nodup, h.fresh'.new⟩

theorem SameShape.importToken (h : SameShape tx ty) (ids : GoMap Str Int) (t : ImportedToken) :
    Option.Rel SameImport (Store.importToken now (tx, ids) t)
      (Store.importToken now' (ty, ids) t) := by
  unfold Store.importToken
  dsimp only
  split
  · exact .some ⟨h, rfl⟩
  split
  · exact .some ⟨h.skipToken, rfl⟩
  split
  · exact .none
  rw [h.poolByLabel]
  cases (ids.get? t.poolLabel <|> ty.db.poolByLabel t.poolLabel) with
  | none => exact .none
  | some id =>
    have hname : (tx.db.accessTokens.rows.any fun u => u.name == t.name && u.poolID == some id) =
        ty.db.accessTokens.rows.any fun u => u.name == t.name && u.poolID == some id :=
      any_of_shapes h.tokens _ fun _ => rfl
    simp only [Option.bind_eq_bind, Option.bind_some, h.any_poolID, hname]
    split
    · exact .some ⟨h.skipToken, rfl⟩
    · exact Runs.rel_bind (h.createToken t.name id t.enabled) fun _ _ hu => .some ⟨hu, rfl⟩

theorem SameShape.importSettings (h : SameShape tx ty) (settings : List (Str × Str)) :
    SameShape (settings.foldl importSetting tx) (settings.foldl importSetting ty) := by
  induction settings generalizing tx ty with
  | nil => exact h
  | cons setting settings ih =>
    refine ih ?_
    unfold importSetting
    split
    · exact h
    · refine ⟨h.pools, h.tokens, ?_, h.length, ⟨h.fresh.nodup, h.fresh.new⟩,
        ⟨h.fresh'.nodup, h.fresh'.new⟩⟩
      rw [h.result]

/-- Two imports into tables of the same shape fail together or have the same result. -/
theorem SameShape.runImport (h : SameShape tx ty) (payload : ConfigImportPayload) :
    Option.Rel SameShape (Store.runImport tx now payload) (Store.runImport ty now' payload) := by
  refine Runs.rel_bind (R := SameImport) (Runs.exec_simulates ⟨h, rfl⟩ ?_ _) fun s s' hs => ?_
  · rintro ⟨u, ids⟩ ⟨u', -⟩ p ⟨hu, rfl⟩
    exact hu.importPool ids p
  refine Runs.rel_bind (R := SameImport) (Runs.exec_simulates hs ?_ _) fun s s' hs => ?_
  · rintro ⟨u, ids⟩ ⟨u', -⟩ t ⟨hu, rfl⟩
    exact hu.importToken ids t
  refine Runs.rel_bind hs.1.reconcilePoolTokens fun last last' hlast => ?_
  exact .some (hlast.importSettings payload.settings.rows)

end Shapes

/-! ## The law of the three runs -/

/-- An import that fails changes nothing; one that succeeds leaves every pool one token, which
is enabled and has the value of the lowest token there was, and when it is repeated it
creates nothing.  A preview changes nothing and has the counts of the import. -/
theorem import_atomic_repeatable_previewed (driver : TxDriver) (now : Clock)
    (generated : List Str) (db : Database) (payload : ConfigImportPayload) :
    (∀ db', importConfig driver now generated db payload = (db', none) → db' = db) ∧
    (∀ db' result, importConfig driver now generated db payload = (db', some result) →
      db'.OneTokenPerPool ∧
      (∀ pool ∈ db.pools.rows, ∀ t, db.lowestToken pool.id = some t →
        ∃ t', poolTokens db'.accessTokens pool.id = [t'] ∧ t'.token = t.token) ∧
      ∀ driver' now' generated',
        (driver'.works = true →
          (importConfig driver' now' generated' db' payload).2.isSome = true) ∧
        ∀ again, (importConfig driver' now' generated' db' payload).2 = some again →
          again.createdPools = 0 ∧ again.createdTokens = 0) ∧
    ∀ now' generated', (previewImport driver now' generated' db payload).1 = db ∧
      (driver.commits = true → generated.length = generated'.length →
        (TokenTx.mk db generated {}).Fresh → (TokenTx.mk db generated' {}).Fresh →
          (previewImport driver now' generated' db payload).2 =
            (importConfig driver now generated db payload).2) := by
  refine ⟨fun db' hfail => importConfig_eq_none hfail, fun db' result hdone => ?_,
    fun now' generated' => ⟨?_, fun hcommits hlength hfresh hfresh' => ?_⟩⟩
  · obtain ⟨tx, htx, rfl, -⟩ := importConfig_eq_some hdone
    have hone := oneTokenPerPool_runImport htx
    refine ⟨hone, fun pool hpool t ht => ?_, fun driver' now' generated' => ?_⟩
    · -- the pool is still there and has one token, which is the lowest one of before
      have hfrom : TokensFrom db generated tx :=
        TokensFrom.runImport ⟨fun _ => .same, fun _ hid => hid, List.Subset.refl _⟩ htx
      have hthere : (db.pools.find? pool.id).isSome = true := by
        rw [Table.find?_of_mem hpool]
        rfl
      obtain ⟨pool', hpool'⟩ := Option.isSome_iff_exists.mp (hfrom.pools pool.id hthere)
      obtain ⟨hmem, hid⟩ := Table.mem_of_find? hpool'
      obtain ⟨t', htokens, -⟩ := hone pool' hmem
      rw [hid] at htokens
      obtain ⟨rest, hbefore⟩ := List.head?_eq_some_iff.mp ht
      have hpoolFrom := hfrom.tokens pool.id
      rw [hbefore, htokens, eq_true hthere] at hpoolFrom
      exact ⟨t', htokens, hpoolFrom.token_eq⟩
    · obtain ⟨tx', htx', hpools, htokens⟩ :=
        runImport_of_imported now' (imported_of_runImport htx) generated'
      refine ⟨fun hworks => ?_, fun again hagain => ?_⟩
      · rw [importConfig_of_works hworks htx']
        rfl
      · obtain ⟨other, hother, -, rfl⟩ := importConfig_eq_some (Prod.ext rfl hagain)
        obtain rfl := Option.some.inj (htx'.symm.trans hother)
        exact ⟨hpools, htokens⟩
  · unfold previewImport
    split
    · split
      · rfl
      · rfl
    · rfl
  · have hshape : SameShape ⟨db, generated, {}⟩ ⟨db, generated', {}⟩ :=
      ⟨rfl, rfl, rfl, hlength, hfresh, hfresh'⟩
    have hruns : Option.Rel SameShape (runImport ⟨db, generated, {}⟩ now payload)
        (runImport ⟨db, generated', {}⟩ now' payload) := hshape.runImport payload
    simp only [previewImport, importConfig, hcommits, if_true]
    split
    · cases himport : runImport ⟨db, generated, {}⟩ now payload with
      | none =>
        rw [himport] at hruns
        generalize runImport ⟨db, generated', {}⟩ now' payload = other at hruns
        cases hruns
        rfl
      | some tx =>
        rw [himport] at hruns
        generalize runImport ⟨db, generated', {}⟩ now' payload = other at hruns
        cases hruns with
        | some htx =>
          show some _ = some _
          rw [htx.result]
    · rfl

/-- A payload that creates a pool and a token, and a setting. -/
def smallImport : ConfigImportPayload where
  pools := [⟨lit "P", 2, true⟩]
  accessTokens := [⟨lit "p-token", some 7, lit "P", false⟩]
  settings := GoMap.put Table.empty (lit "request_timeout") (lit "30")

theorem small_import_previewed :
    (previewImport {} default [lit "b"] {} smallImport).2 =
      (importConfig {} default [lit "a"] {} smallImport).2 := by
  have hnew : ∀ value : Str, (TokenTx.mk {} [value] {}).Fresh := fun value =>
    ⟨List.nodup_singleton value, fun _ _ t ht => absurd ht List.not_mem_nil⟩
  exact ((import_atomic_repeatable_previewed {} default [lit "a"] {} smallImport).2.2 default
    [lit "b"]).2 rfl rfl (hnew _) (hnew _)

example : ((importConfig {} default [lit "a"] {} smallImport).2.map fun r =>
    (r.createdPools, r.createdTokens, r.updatedSettings)) = some (1, 1, 1) := by decide +kernel

end Lune.Store
