import Lune.Store.ConfigImport

/-!
# Importing into a fresh database

An import into a database without pools succeeds when the tokens of the payload name
its pools and there are enough new values.  It leaves the pools of the payload with
the default routing policy, and its settings.
-/

namespace Lune.Store

open GoText Keyed

/-! ## What an import into a fresh database leaves -/

/-- A database without pools, tokens and settings that are imported. -/
structure IsFresh (db : Database) : Prop where
  pools : db.pools.rows = []
  tokens : db.accessTokens.rows = []
  settings : ∀ key, isAllowedSettingKey key = true → db.systemConfig.get? key = none

/-- The pools after an import of `past` into a database without pools. -/
structure ImportedPools (start : TokenTx) (past : List ImportedPool) (s : TokenTx × GoMap Str Int) :
    Prop where
  rows : ∀ row ∈ s.1.db.pools.rows, row.label ≠ [] ∧ row.routingPolicy = lit "health_first" ∧
    ∃ p ∈ past, p.label = row.label
  each : (past.map ImportedPool.label).Nodup → (∀ p ∈ past, p.label ≠ []) → ∀ p ∈ past,
    ∃ row ∈ s.1.db.pools.rows, row.label = p.label ∧ row.priority = p.priority ∧
      row.enabled = p.enabled
  length : s.1.db.pools.rows.length ≤ past.length
  tokens : s.1.db.accessTokens = start.db.accessTokens
  settings : s.1.db.systemConfig = start.db.systemConfig
  generated : s.1.generated = start.generated

theorem importedPools_start {db : Database} (hdb : IsFresh db) (generated : List Str) :
    ImportedPools { db := db, generated := generated } []
      ({ db := db, generated := generated }, Table.empty) := by
  refine ⟨fun row hrow => ?_, fun _ _ _ hp => absurd hp List.not_mem_nil, ?_, rfl, rfl, rfl⟩
  · exact absurd (hdb.pools ▸ hrow) List.not_mem_nil
  · show db.pools.rows.length ≤ 0
    rw [hdb.pools]
    exact Nat.le_refl 0

section Pools

variable {now : Clock} {start : TokenTx} {past : List ImportedPool} {s s' : TokenTx × GoMap Str Int}
  {p : ImportedPool}

theorem importPool_total (now : Clock) (s : TokenTx × GoMap Str Int) (p : ImportedPool) :
    ∃ s', importPool now s p = some s' := by
  obtain ⟨tx, ids⟩ := s
  unfold importPool
  dsimp only
  split
  · exact ⟨_, rfl⟩
  split
  · exact ⟨_, rfl⟩
  next hnone =>
    have hfree : (tx.db.pools.rows.any fun q => q.label == p.label) = false := by
      rw [List.any_eq_false]
      have hfind := Option.map_eq_none_iff.mp hnone
      intro q hq heq
      exact List.find?_eq_none.mp hfind q hq (decide_eq_true (beq_iff_eq.mp heq))
    simp only [Database.createPool, hfree]
    exact ⟨_, rfl⟩

/-- A pool that is imported again is changed but keeps what the invariant is about. -/
theorem ImportedPools.modify (h : ImportedPools start past s) {id : Int}
    (hid : s.1.db.poolByLabel p.label = some id) {f : PoolRow → PoolRow}
    (hlabel : ∀ r, (f r).label = r.label) (hpolicy : ∀ r, (f r).routingPolicy = r.routingPolicy)
    {result : ConfigImportResult} {ids : GoMap Str Int} :
    ImportedPools start (past ++ [p])
      ({ s.1 with db := { s.1.db with pools := s.1.db.pools.modify id f }, result := result }, ids) where
  rows := fun row hrow => by
    obtain ⟨old, hold, rfl⟩ := List.mem_map.mp hrow
    obtain ⟨hne, hdefault, q, hq, hqlabel⟩ := h.rows old hold
    split
    · rw [hlabel, hpolicy]
      exact ⟨hne, hdefault, q, List.mem_append_left _ hq, hqlabel⟩
    · exact ⟨hne, hdefault, q, List.mem_append_left _ hq, hqlabel⟩
  each := fun hnodup _ => by
    -- the label has come before
    obtain ⟨row, hrow, hrowLabel, -⟩ := Database.poolByLabel_eq_some hid
    obtain ⟨-, -, q, hq, hqlabel⟩ := h.rows row hrow
    rw [List.map_append, List.nodup_append] at hnodup
    exact absurd (hqlabel.trans hrowLabel)
      (hnodup.2.2 _ (List.mem_map_of_mem hq) _ (List.mem_map_of_mem (List.mem_singleton_self p)))
  length := by
    show (s.1.db.pools.rows.map _).length ≤ _
    rw [List.length_map, List.length_append]
    exact Nat.le_add_right_of_le h.length
  tokens := h.tokens
  settings := h.settings
  generated := h.generated

theorem ImportedPools.importPool (h : ImportedPools start past s)
    (hstep : Store.importPool now s p = some s') : ImportedPools start (past ++ [p]) s' := by
  obtain ⟨tx, ids⟩ := s
  unfold Store.importPool at hstep
  dsimp only at hstep
  split at hstep
  next hempty =>
    obtain rfl := Option.some.inj hstep
    refine ⟨fun row hrow => ?_, fun _ hne => ?_, ?_, h.tokens, h.settings, h.generated⟩
    · obtain ⟨hne, hdefault, q, hq, hqlabel⟩ := h.rows row hrow
      exact ⟨hne, hdefault, q, List.mem_append_left _ hq, hqlabel⟩
    · exact absurd hempty (hne p (List.mem_append_right _ (List.mem_singleton_self p)))
    · rw [List.length_append]
      exact Nat.le_add_right_of_le h.length
  next hlabel =>
  split at hstep
  next id hid =>
    obtain rfl := Option.some.inj hstep
    exact h.modify hid
      (f := fun row => { row with priority := p.priority, enabled := p.enabled,
                                  updatedAt := some now.datetime }) (fun _ => rfl) fun _ => rfl
  next hnone =>
    obtain ⟨⟨db, id⟩, hcreate, hnext⟩ := Option.bind_eq_some_iff.mp hstep
    obtain rfl := Option.some.inj hnext
    obtain ⟨-, rfl, -⟩ := Database.createPool_eq_some hcreate
    have hrows : (tx.db.pools.set (tx.db.newPool now p.label p.priority p.enabled)).rows =
        tx.db.pools.rows ++ [tx.db.newPool now p.label p.priority p.enabled] :=
      Table.rows_set_of_fresh (find?_nextRowid tx.db.pools)
    refine ⟨fun row hrow => ?_, fun hnodup hne q hq => ?_, ?_, h.tokens, h.settings, h.generated⟩
    · rw [hrows, List.mem_append] at hrow
      cases hrow with
      | inl hold =>
        obtain ⟨hrowLabel, hdefault, q, hq, hqlabel⟩ := h.rows row hold
        exact ⟨hrowLabel, hdefault, q, List.mem_append_left _ hq, hqlabel⟩
      | inr hnew =>
        rw [List.mem_singleton.mp hnew]
        exact ⟨hlabel, rfl, p, List.mem_append_right _ (List.mem_singleton_self p), rfl⟩
    · rw [hrows]
      rw [List.map_append] at hnodup
      cases List.mem_append.mp hq with
      | inl hpast =>
        obtain ⟨row, hrow, hsame⟩ := h.each hnodup.of_append_left
          (fun q hq => hne q (List.mem_append_left _ hq)) q hpast
        exact ⟨row, List.mem_append_left _ hrow, hsame⟩
      | inr hlast =>
        rw [List.mem_singleton.mp hlast]
        exact ⟨_, List.mem_append_right _ (List.mem_singleton_self _), rfl, rfl, rfl⟩
    · rw [hrows, List.length_append, List.length_append]
      exact Nat.add_le_add_right h.length 1

end Pools

/-! ## Enough values -/

/-- A list of which one element less passes a test. -/
theorem countP_lt {α : Type} {p q : α → Bool} {l : List α} (hle : ∀ x ∈ l, p x = true → q x = true)
    {x : α} (hx : x ∈ l) (hp : p x = false) (hq : q x = true) : l.countP p < l.countP q := by
  induction l with
  | nil => exact absurd hx List.not_mem_nil
  | cons y l ih =>
    have hrest : l.countP p ≤ l.countP q :=
      List.countP_mono_left fun z hz => hle z (List.mem_cons_of_mem y hz)
    rw [List.countP_cons, List.countP_cons]
    cases List.mem_cons.mp hx with
    | inl heq =>
      subst heq
      simp only [hp, hq]
      simpa using Nat.lt_succ_of_le hrest
    | inr hmem =>
      have hlt := ih (fun z hz => hle z (List.mem_cons_of_mem y hz)) hmem
      have hfirst : (if p y = true then 1 else 0) ≤ if q y = true then 1 else 0 := by
        split
        next hpy => rw [if_pos (hle y List.mem_cons_self hpy)]
        · exact Nat.zero_le _
      omega

/-- The pools without a token. -/
def Database.tokenless (db : Database) : Nat :=
  db.pools.rows.countP fun pool => (poolTokens db.accessTokens pool.id).isEmpty

/-- There are new values for the pools without a token. -/
structure Supplied (tx : TokenTx) : Prop where
  fresh : tx.Fresh
  enough : Database.tokenless tx.db ≤ tx.generated.length

section Totality

variable {now : Clock} {tx : TokenTx}

variable (now) in
theorem Supplied.createToken (h : Supplied tx) (name : Str) {poolID : Int} (enabled : Bool)
    (hpool : (tx.db.pools.find? poolID).isSome = true)
    (hnone : poolTokens tx.db.accessTokens poolID = []) :
    ∃ tx', tx.createToken now name poolID enabled = some tx' ∧ Supplied tx' ∧
      tx'.db.pools = tx.db.pools := by
  obtain ⟨pool, hfind⟩ := Option.isSome_iff_exists.mp hpool
  obtain ⟨hmem, rfl⟩ := Table.mem_of_find? hfind
  have hempty : (poolTokens tx.db.accessTokens pool.id).isEmpty = true := by
    rw [hnone]
    rfl
  have hpos : 0 < Database.tokenless tx.db := List.countP_pos_iff.mpr ⟨pool, hmem, hempty⟩
  cases hvalue : tx.generated with
  | nil =>
    have henough := h.enough
    rw [hvalue, List.length_nil] at henough
    omega
  | cons value rest =>
    have hfree : (tx.db.accessTokens.rows.any fun u => u.poolID == some pool.id) = false := by
      rw [List.any_eq_false]
      intro u hu huser
      have humem := mem_poolTokens.mpr ⟨hu, beq_iff_eq.mp huser⟩
      rw [hnone] at humem
      exact absurd humem List.not_mem_nil
    have hcreate := TokenTx.createToken_of_fresh now h.fresh hvalue name pool.id enabled
    rw [if_pos ⟨hpool, hfree⟩] at hcreate
    obtain ⟨t, -, -, htokens, -, -⟩ := TokenTx.poolTokens_createToken hnone hcreate
    refine ⟨_, hcreate, ⟨h.fresh.set hvalue (find?_nextRowid _), ?_⟩, rfl⟩
    -- the pool has a token now, and no other one has lost any
    have hless := countP_lt (l := tx.db.pools.rows)
      (p := fun q => (poolTokens (tx.db.accessTokens.set
        (freshToken tx.db.accessTokens now name value pool.id enabled)) q.id).isEmpty)
      (q := fun q => (poolTokens tx.db.accessTokens q.id).isEmpty)
      (fun q _ hq => by
        rw [htokens] at hq
        split at hq
        · contradiction
        · exact hq)
      hmem (by rw [htokens, if_pos rfl]; rfl) hempty
    have henough := h.enough
    rw [hvalue, List.length_cons] at henough
    exact Nat.le_of_lt_succ (Nat.lt_of_lt_of_le hless henough)

variable (now) in
theorem Supplied.reconcilePool (h : Supplied tx) {pool : PoolRow} (hpool : pool ∈ tx.db.pools.rows) :
    ∃ tx', TokenTx.reconcilePool now tx pool = some tx' ∧ Supplied tx' ∧
      tx'.db.pools = tx.db.pools := by
  unfold TokenTx.reconcilePool
  cases htokens : poolTokens tx.db.accessTokens pool.id with
  | nil =>
    refine h.createToken now _ _ ?_ htokens
    rw [Table.find?_of_mem hpool]
    rfl
  | cons keep extra =>
    refine ⟨_, rfl, ⟨?_, ?_⟩, rfl⟩
    · refine h.fresh.of_tokens fun t ht => ?_
      obtain ⟨u, hu, rfl⟩ := List.mem_map.mp (List.mem_of_mem_filter ht)
      refine ⟨u, hu, ?_⟩
      split
      · rfl
      · rfl
    · refine Nat.le_trans (List.countP_mono_left fun q _ hq => ?_) h.enough
      have hq' := hq
      rw [poolTokens_settle htokens] at hq'
      split at hq'
      · contradiction
      · exact hq'

variable (now) in
theorem Supplied.importToken (h : Supplied tx) {ids : GoMap Str Int} (hnoted : Noted ids tx.db)
    {t : ImportedToken} (hknows : tx.db.KnowsPoolOf t) :
    ∃ s', Store.importToken now (tx, ids) t = some s' ∧ Supplied s'.1 ∧ Noted s'.2 s'.1.db ∧
      s'.1.db.pools = tx.db.pools := by
  have hskip : Supplied tx.skipToken := ⟨⟨h.fresh.nodup, h.fresh.new⟩, h.enough⟩
  unfold Store.importToken
  by_cases hname : t.name = []
  · exact ⟨_, if_pos hname, h, hnoted, rfl⟩
  by_cases hpool : t.poolID = none
  · simp only [if_neg hname, if_pos hpool]
    exact ⟨_, rfl, hskip, hnoted, rfl⟩
  obtain ⟨hlabel, hthere⟩ := hknows hname hpool
  obtain ⟨id, hid⟩ := Option.isSome_iff_exists.mp hthere
  have hfound : (ids.get? t.poolLabel <|> tx.db.poolByLabel t.poolLabel) = some id := by
    cases hget : ids.get? t.poolLabel with
    | none => exact hid
    | some noted => exact (hnoted _ _ hget).symm.trans hid
  simp only [if_neg hname, if_neg hpool, if_neg hlabel, hfound, Option.bind_eq_bind,
    Option.bind_some]
  split
  · exact ⟨_, rfl, hskip, hnoted.put hid, rfl⟩
  next hfree =>
    obtain ⟨pool, hmem, -, rfl⟩ := Database.poolByLabel_eq_some hid
    have hnone : poolTokens tx.db.accessTokens pool.id = [] := by
      refine poolTokens_eq_nil fun u hu huser => hfree ?_
      rw [Bool.or_eq_true]
      exact Or.inl (List.any_eq_true.mpr ⟨u, hu, beq_iff_eq.mpr huser⟩)
    have hsome : (tx.db.pools.find? pool.id).isSome = true := by
      rw [Table.find?_of_mem hmem]
      rfl
    obtain ⟨tx', hcreate, hsupplied, hpools⟩ := h.createToken now t.name t.enabled hsome hnone
    simp only [hcreate, Option.bind_some]
    exact ⟨_, rfl, hsupplied, (hnoted.put hid).mono fun label found hlabel =>
      (poolByLabel_of_pools hpools label).trans hlabel, hpools⟩

variable (now) in
theorem Supplied.reconcilePoolTokens (h : Supplied tx) :
    ∃ tx', tx.reconcilePoolTokens now = some tx' := by
  have hstart : Supplied (tx.deleteTokens fun t => t.poolID.isNone) := by
    refine ⟨h.fresh.of_tokens fun t ht => ⟨t, List.mem_of_mem_filter ht, rfl⟩, ?_⟩
    refine Nat.le_trans (List.countP_mono_left fun q _ hq => ?_) h.enough
    exact poolTokens_dropGlobal tx.db.accessTokens q.id ▸ hq
  have htotal : ∃ tx', tx.reconcilePoolTokens now = some tx' ∧ Supplied tx' ∧
      tx'.db.pools = tx.db.pools :=
    Runs.exec_total (I := fun u : TokenTx => Supplied u ∧ u.db.pools = tx.db.pools)
      ⟨hstart, rfl⟩ fun pool hpool u hu => by
        obtain ⟨v, hv, hsupplied, hpools⟩ :=
          hu.1.reconcilePool now (hu.2 ▸ mem_poolsByID.mp hpool)
        exact ⟨v, hv, hsupplied, hpools.trans hu.2⟩
  obtain ⟨tx', hexec, -⟩ := htotal
  exact ⟨tx', hexec⟩

/-- The tokens of the payload that are to be imported name pools of the payload. -/
def ConfigImportPayload.NamesPools (payload : ConfigImportPayload) : Prop :=
  ∀ t ∈ payload.accessTokens, t.name ≠ [] → t.poolID ≠ none →
    t.poolLabel ≠ [] ∧ ∃ p ∈ payload.pools, p.label = t.poolLabel

/-- An import into a database without pools and tokens succeeds. -/
theorem runImport_total {db : Database} (hdb : IsFresh db) {payload : ConfigImportPayload}
    (hnames : payload.NamesPools) {generated : List Str} (hnodup : generated.Nodup)
    (henough : payload.pools.length ≤ generated.length) :
    ∃ tx', runImport { db := db, generated := generated } now payload = some tx' := by
  have hlabelled : Labelled [] (({ db := db, generated := generated } : TokenTx), Table.empty) :=
    ⟨fun _ hp => absurd hp List.not_mem_nil, fun _ _ hget => absurd hget (by simp)⟩
  obtain ⟨s, hpools, -⟩ : ∃ s, Runs.exec (importPool now)
      (({ db := db, generated := generated } : TokenTx), Table.empty) payload.pools = some s ∧ True :=
    Runs.exec_total (I := fun _ => True) trivial fun p _ u _ => by
      obtain ⟨v, hv⟩ := importPool_total now u p
      exact ⟨v, hv, trivial⟩
  have hs : ImportedPools { db := db, generated := generated } payload.pools s :=
    Runs.exec_invariant (importedPools_start hdb generated) (fun _ _ _ _ h hstep => h.importPool hstep) hpools
  have hl : Labelled payload.pools s :=
    Runs.exec_invariant hlabelled (fun _ _ _ _ h hstep => h.importPool hstep) hpools
  have hsupplied : Supplied s.1 := by
    refine ⟨⟨hs.generated ▸ hnodup, fun value _ t ht => ?_⟩, ?_⟩
    · rw [hs.tokens, hdb.tokens] at ht
      exact absurd ht List.not_mem_nil
    · rw [hs.generated]
      exact List.countP_le_length.trans (hs.length.trans henough)
  obtain ⟨s', htokens, hsupplied', -⟩ : ∃ s', Runs.exec (importToken now) s
      payload.accessTokens = some s' ∧ Supplied s'.1 ∧ Noted s'.2 s'.1.db ∧
        s'.1.db.pools = s.1.db.pools :=
    Runs.exec_total (I := fun u : TokenTx × GoMap Str Int =>
      Supplied u.1 ∧ Noted u.2 u.1.db ∧ u.1.db.pools = s.1.db.pools) ⟨hsupplied, hl.noted, rfl⟩
    fun t ht u hu => by
      have hknows : u.1.db.KnowsPoolOf t := by
        intro hname hpool
        obtain ⟨hlabel, p, hp, heq⟩ := hnames t ht hname hpool
        rw [poolByLabel_of_pools hu.2.2, ← heq]
        exact ⟨heq ▸ hlabel, hl.pools p hp (heq ▸ hlabel)⟩
      obtain ⟨v, hv, hsup, hnoted, hpools⟩ := hu.1.importToken now hu.2.1 hknows
      exact ⟨v, hv, hsup, hnoted, hpools.trans hu.2.2⟩
  obtain ⟨last, hreconcile⟩ := hsupplied'.reconcilePoolTokens now
  refine ⟨payload.settings.rows.foldl importSetting last, ?_⟩
  simp only [runImport, hpools, htokens, hreconcile, Option.bind_eq_bind, Option.bind_some]
  rfl

end Totality

/-! ## The contents -/

section Contents

variable {now : Clock} {tx tx' : TokenTx}

theorem createToken_systemConfig {name : Str} {poolID : Int} {enabled : Bool}
    (h : tx.createToken now name poolID enabled = some tx') :
    tx'.db.systemConfig = tx.db.systemConfig := by
  obtain ⟨value, rest, tokens, -, -, rfl⟩ := TokenTx.createToken_eq_some h
  rfl

theorem importToken_systemConfig {s s' : TokenTx × GoMap Str Int} {t : ImportedToken}
    (h : importToken now s t = some s') : s'.1.db.systemConfig = s.1.db.systemConfig := by
  obtain ⟨tx, ids⟩ := s
  unfold importToken at h
  dsimp only at h
  split at h
  · rw [← Option.some.inj h]
  split at h
  · rw [← Option.some.inj h]
    rfl
  split at h
  · contradiction
  obtain ⟨id, -, h⟩ := Option.bind_eq_some_iff.mp h
  split at h
  · rw [← Option.some.inj h]
    rfl
  · obtain ⟨next, hcreate, h⟩ := Option.bind_eq_some_iff.mp h
    rw [← Option.some.inj h]
    exact createToken_systemConfig hcreate

theorem reconcilePoolTokens_systemConfig (h : tx.reconcilePoolTokens now = some tx') :
    tx'.db.systemConfig = tx.db.systemConfig := by
  refine Runs.exec_invariant (P := fun _ (u : TokenTx) => u.db.systemConfig = tx.db.systemConfig)
    (s := tx.deleteTokens fun t => t.poolID.isNone) rfl (fun _ u pool v hu hstep => ?_) h
  unfold TokenTx.reconcilePool at hstep
  split at hstep
  · exact (createToken_systemConfig hstep).trans hu
  · rw [← Option.some.inj hstep]
    exact hu

/-- The settings after the loop of `runImport` over them. -/
theorem get?_importSettings {settings : List (Str × Str)} (hnodup : (settings.map Prod.fst).Nodup)
    (tx : TokenTx) {key : Str} (hkey : isAllowedSettingKey key = true) :
    (settings.foldl importSetting tx).db.systemConfig.get? key =
      ((settings.find? fun r => r.1 = key).map Prod.snd).or (tx.db.systemConfig.get? key) := by
  induction settings generalizing tx with
  | nil => rfl
  | cons setting settings ih =>
    rw [List.map_cons, List.nodup_cons] at hnodup
    rw [List.foldl_cons, ih hnodup.2]
    have hadmin : key ≠ lit "admin_token" := by
      rintro rfl
      exact absurd hkey (by decide)
    by_cases hfirst : setting.1 = key
    · have hnone : settings.find? (fun r => r.1 = key) = none := by
        rw [List.find?_eq_none]
        intro r hr heq
        exact hnodup.1 (hfirst ▸ of_decide_eq_true heq ▸ List.mem_map_of_mem hr)
      have hput : (importSetting tx setting).db.systemConfig =
          tx.db.systemConfig.put setting.1 setting.2 := by
        unfold importSetting
        rw [if_neg]
        rw [hfirst, hkey]
        simpa using hadmin
      rw [hnone, hput, GoMap.get?_put, if_pos hfirst, List.find?_cons_of_pos (by simpa using hfirst)]
      rfl
    · have hkeep : (importSetting tx setting).db.systemConfig.get? key =
          tx.db.systemConfig.get? key := by
        unfold importSetting
        split
        · rfl
        · exact (GoMap.get?_put _ _ _ _).trans (if_neg hfirst)
      rw [hkeep, List.find?_cons_of_neg (by simpa using hfirst)]

/-- What an import into a fresh database leaves. -/
theorem runImport_contents {db : Database} (hdb : IsFresh db) {generated : List Str}
    {payload : ConfigImportPayload}
    (himport : runImport { db := db, generated := generated } now payload = some tx') :
    (∃ s, ImportedPools { db := db, generated := generated } payload.pools s ∧
        tx'.db.pools = s.1.db.pools) ∧
      ∀ key, isAllowedSettingKey key = true →
        tx'.db.systemConfig.get? key = payload.settings.get? key := by
  obtain ⟨s, s', last, hpools, htokens, hreconcile, rfl⟩ := runImport_eq_some himport
  have hs : ImportedPools { db := db, generated := generated } payload.pools s :=
    Runs.exec_invariant (importedPools_start hdb generated)
      (fun _ _ _ _ h hstep => h.importPool hstep) hpools
  have hl : Labelled payload.pools s :=
    Runs.exec_invariant ⟨fun _ hp => absurd hp List.not_mem_nil, fun _ _ h => absurd h (by simp)⟩
      (fun _ _ _ _ h hstep => h.importPool hstep) hpools
  have hs' : (TokensLabelled payload.pools payload.accessTokens s' ∧
      s'.1.db.pools = s.1.db.pools) ∧ s'.1.db.systemConfig = s.1.db.systemConfig :=
    Runs.exec_invariant
      (P := fun past u => (TokensLabelled payload.pools past u ∧ u.1.db.pools = s.1.db.pools) ∧
        u.1.db.systemConfig = s.1.db.systemConfig)
      ⟨⟨⟨hl, fun _ ht => absurd ht List.not_mem_nil⟩, rfl⟩, rfl⟩
      (fun _ u t v hu hstep => ⟨⟨hu.1.1.importToken hstep,
        (importToken_cases hu.1.1.noted hstep).1.trans hu.1.2⟩,
        (importToken_systemConfig hstep).trans hu.2⟩) htokens
  constructor
  · refine ⟨s, hs, ?_⟩
    rw [(importSettings_pools payload.settings.rows last).1,
      (TokenTx.oneTokenPerPool_reconcilePoolTokens hreconcile).1, hs'.1.2]
  · intro key hkey
    rw [get?_importSettings payload.settings.nodup last hkey,
      reconcilePoolTokens_systemConfig hreconcile, hs'.2, hs.settings, hdb.settings key hkey,
      Option.or_none]
    rfl

end Contents

end Lune.Store
