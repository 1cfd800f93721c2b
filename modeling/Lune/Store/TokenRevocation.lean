import Lune.Store.PoolTokens
import Mathlib.Data.List.Sort

/-!
# Which tokens authenticate

The operations that repair the tokens: the migration, the reconciliation at the
start, an import and `EnsurePoolToken`.  They treat the lowest token of a pool as
its token and enable it, as the product has tokens that cannot be disabled.  To the
tokens of one pool, sorted by number, each of them is one of a few edits.
-/

namespace Lune.Store

open GoText Keyed

/-! ## The tokens of a pool -/

/-- A list of the tokens of a pool, sorted by number, is the one that is queried. -/
theorem poolTokens_eq {tokens : Table AccessToken.id} {poolID : Int} {ts : List AccessToken}
    (hperm : ts.Perm (tokens.rows.filter fun t => t.poolID == some poolID))
    (hsorted : ts.Pairwise fun t u => t.id ≤ u.id) : poolTokens tokens poolID = ts := by
  have hmine : (poolTokens tokens poolID).Perm ts :=
    (List.perm_insertionSort _ _).trans hperm.symm
  refine hmine.eq_of_pairwise ?_ (List.pairwise_insertionSort _ _) hsorted
  intro t u ht hu hle hge
  have ht' := (mem_poolTokens.mp ht).1
  have hu' := List.mem_of_mem_filter (hperm.mem_iff.mp hu)
  exact List.inj_on_of_nodup_map tokens.nodup ht' hu' (le_antisymm hle hge)

theorem pairwise_poolTokens (tokens : Table AccessToken.id) (poolID : Int) :
    (poolTokens tokens poolID).Pairwise fun t u => t.id ≤ u.id :=
  List.pairwise_insertionSort _ _

theorem perm_poolTokens (tokens : Table AccessToken.id) (poolID : Int) :
    (poolTokens tokens poolID).Perm (tokens.rows.filter fun t => t.poolID == some poolID) :=
  List.perm_insertionSort _ _

theorem poolTokens_eq_nil {tokens : Table AccessToken.id} {poolID : Int}
    (h : ∀ t ∈ tokens.rows, t.poolID ≠ some poolID) : poolTokens tokens poolID = [] := by
  rw [List.eq_nil_iff_forall_not_mem]
  intro t ht
  obtain ⟨hmem, hpool⟩ := mem_poolTokens.mp ht
  exact h t hmem hpool

/-- Deleting tokens deletes them from each pool. -/
theorem poolTokens_filter (tokens : Table AccessToken.id) (p : AccessToken → Bool) (poolID : Int) :
    poolTokens (tokens.filter p) poolID = (poolTokens tokens poolID).filter p := by
  refine poolTokens_eq ?_ ((pairwise_poolTokens tokens poolID).filter p)
  refine ((perm_poolTokens tokens poolID).filter p).trans (List.Perm.of_eq ?_)
  show _ = (tokens.rows.filter p).filter _
  rw [List.filter_comm]

/-- A change of the token with a number, in the list of its pool. -/
theorem poolTokens_modify (tokens : Table AccessToken.id) {f : AccessToken → AccessToken}
    (hid : ∀ t, (f t).id = t.id) (hpool : ∀ t, (f t).poolID = t.poolID) (id poolID : Int) :
    poolTokens (tokens.modify id f) poolID =
      (poolTokens tokens poolID).map fun t => if t.id = id then f t else t := by
  have hrows : (tokens.modify id f).rows = tokens.rows.map fun t => if t.id = id then f t else t := by
    show tokens.rows.map _ = _
    simp only [hid, and_self]
  refine poolTokens_eq ?_ ?_
  · rw [hrows, List.filter_map]
    refine ((perm_poolTokens tokens poolID).map _).trans (List.Perm.of_eq (congrArg _ ?_))
    refine List.filter_congr fun t _ => ?_
    simp only [Function.comp]
    split
    · rw [hpool]
    · rfl
  · refine List.pairwise_map.mpr ((pairwise_poolTokens tokens poolID).imp ?_)
    intro t u hle
    have hkeep : ∀ t : AccessToken, (if t.id = id then f t else t).id = t.id := by
      intro t
      split
      · exact hid t
      · rfl
    rwa [hkeep, hkeep]

/-- A new token, in the list of a pool that has none. -/
theorem poolTokens_set {tokens : Table AccessToken.id} {row : AccessToken} {poolID : Int}
    (hid : tokens.find? row.id = none) (hrow : row.poolID = some poolID)
    (hnone : poolTokens tokens poolID = []) (other : Int) :
    poolTokens (tokens.set row) other = if other = poolID then [row] else poolTokens tokens other := by
  have hrows : (tokens.set row).rows = tokens.rows ++ [row] := Table.rows_set_of_fresh hid
  split
  next heq =>
    subst heq
    have hempty := (perm_poolTokens tokens other).symm
    rw [hnone] at hempty
    refine poolTokens_eq ?_ (List.pairwise_singleton _ _)
    rw [hrows, List.filter_append, hempty.eq_nil]
    simp [hrow]
  next hne =>
    have hother : ¬ poolID = other := fun h => hne h.symm
    refine poolTokens_eq ?_ (pairwise_poolTokens tokens other)
    rw [hrows, List.filter_append]
    simpa [hrow, hother] using perm_poolTokens tokens other

/-! ## Edits -/

/-- The token is the other one, enabled. -/
structure Enabled (t t' : AccessToken) : Prop where
  id : t'.id = t.id
  token : t'.token = t.token
  enabled : t'.enabled = true

/-- What an operation may do to the tokens of a pool; `generated` are the values
that were generated. -/
inductive PoolEdit (generated : List Str) : List AccessToken → List AccessToken → Prop where
  | same (ts : List AccessToken) : PoolEdit generated ts ts
  | enable {t t' : AccessToken} (rest : List AccessToken) (h : Enabled t t') :
    PoolEdit generated (t :: rest) (t' :: rest)
  | settle {t t' : AccessToken} (rest : List AccessToken) (h : Enabled t t') :
    PoolEdit generated (t :: rest) [t']
  | add {t : AccessToken} (h : t.token ∈ generated) : PoolEdit generated [] [t]

/-- What has become of the tokens of a pool; `existed` is whether the pool was there
at the start. -/
inductive PoolFrom (generated : List Str) (existed : Prop) (before : List AccessToken) :
    List AccessToken → Prop where
  | same : PoolFrom generated existed before before
  | enabled {t t' : AccessToken} (rest : List AccessToken) (hbefore : before = t :: rest)
    (h : Enabled t t') : PoolFrom generated existed before (t' :: rest)
  | settled {t t' : AccessToken} (rest : List AccessToken) (hbefore : before = t :: rest)
    (h : Enabled t t') : PoolFrom generated existed before [t']
  | none (hbefore : before = [] ∨ ¬ existed) : PoolFrom generated existed before []
  | fresh {t : AccessToken} (hbefore : before = [] ∨ ¬ existed) (h : t.token ∈ generated) :
    PoolFrom generated existed before [t]

theorem Enabled.trans {t t' t'' : AccessToken} (h : Enabled t t') (h' : Enabled t' t'') :
    Enabled t t'' := ⟨h'.id.trans h.id, h'.token.trans h.token, h'.enabled⟩

theorem PoolFrom.edit {generated : List Str} {existed : Prop} {before ts ts' : List AccessToken}
    (h : PoolFrom generated existed before ts) (hedit : PoolEdit generated ts ts') :
    PoolFrom generated existed before ts' := by
  cases hedit with
  | same => exact h
  | enable rest henabled =>
    cases h with
    | same => exact .enabled rest rfl henabled
    | enabled _ hbefore hfirst => exact .enabled rest hbefore (hfirst.trans henabled)
    | settled all hbefore hfirst => exact .settled all hbefore (hfirst.trans henabled)
    | fresh hbefore hvalue => exact .fresh hbefore (henabled.token ▸ hvalue)
  | settle rest henabled =>
    cases h with
    | same => exact .settled rest rfl henabled
    | enabled _ hbefore hfirst => exact .settled rest hbefore (hfirst.trans henabled)
    | settled all hbefore hfirst => exact .settled all hbefore (hfirst.trans henabled)
    | fresh hbefore hvalue => exact .fresh hbefore (henabled.token ▸ hvalue)
  | add hvalue =>
    cases h with
    | same => exact .fresh (Or.inl rfl) hvalue
    | none hbefore => exact .fresh hbefore hvalue

/-- A token of a pool is one of before, has a generated value or is the first one of
before, enabled. -/
theorem PoolFrom.mem {generated : List Str} {existed : Prop} {before ts : List AccessToken}
    (h : PoolFrom generated existed before ts) {t' : AccessToken} (ht' : t' ∈ ts) :
    t'.token ∈ generated ∨ t' ∈ before ∨ ∃ t, before.head? = some t ∧ t.token = t'.token := by
  cases h with
  | same => exact Or.inr (Or.inl ht')
  | enabled rest hbefore henabled =>
    apply Or.inr
    rw [hbefore]
    cases List.mem_cons.mp ht' with
    | inl hfirst => exact Or.inr ⟨_, rfl, hfirst ▸ henabled.token.symm⟩
    | inr hrest => exact Or.inl (List.mem_cons_of_mem _ hrest)
  | settled rest hbefore henabled =>
    refine Or.inr (Or.inr ⟨_, by rw [hbefore]; rfl, ?_⟩)
    rw [List.mem_singleton.mp ht']
    exact henabled.token.symm
  | none => exact absurd ht' List.not_mem_nil
  | fresh _ hvalue => exact Or.inl (List.mem_singleton.mp ht' ▸ hvalue)

/-- A pool with an enabled token keeps it, or its first token is enabled. -/
theorem PoolFrom.exists_enabled {generated : List Str} {existed : Prop}
    {before ts : List AccessToken} (h : PoolFrom generated existed before ts) (hexisted : existed)
    {t : AccessToken} (ht : t ∈ before) (henabled : t.enabled = true) :
    ∃ t' ∈ ts, t'.enabled = true ∧
      ∃ u ∈ before, u.token = t'.token ∧ (u.enabled = true ∨ before.head? = some u) := by
  have hempty : ¬ (before = [] ∨ ¬ existed) := by
    rintro (hnil | hgone)
    · exact List.not_mem_nil (hnil ▸ ht)
    · exact hgone hexisted
  cases h with
  | same => exact ⟨t, ht, henabled, t, ht, rfl, Or.inl henabled⟩
  | enabled rest hbefore hfirst =>
    refine ⟨_, List.mem_cons_self, hfirst.enabled, _, ?_, hfirst.token.symm, Or.inr ?_⟩
    · exact hbefore ▸ List.mem_cons_self
    · rw [hbefore]
      rfl
  | settled rest hbefore hfirst =>
    refine ⟨_, List.mem_cons_self, hfirst.enabled, _, ?_, hfirst.token.symm, Or.inr ?_⟩
    · exact hbefore ▸ List.mem_cons_self
    · rw [hbefore]
      rfl
  | none hbefore => exact absurd hbefore hempty
  | fresh hbefore => exact absurd hbefore hempty

/-! ## Transactions -/

/-- What has become of the tokens since the start. -/
structure TokensFrom (before : Database) (generated : List Str) (tx : TokenTx) : Prop where
  tokens : ∀ id, PoolFrom generated ((before.pools.find? id).isSome = true)
    (poolTokens before.accessTokens id) (poolTokens tx.db.accessTokens id)
  pools : ∀ id, (before.pools.find? id).isSome = true → (tx.db.pools.find? id).isSome = true
  generated : tx.generated ⊆ generated

section Transactions

variable {before : Database} {generated : List Str} {tx tx' : TokenTx} {now : Clock}

theorem TokensFrom.edit (h : TokensFrom before generated tx)
    (hedit : ∀ id, PoolEdit generated (poolTokens tx.db.accessTokens id)
      (poolTokens tx'.db.accessTokens id))
    (hpools : ∀ id, (tx.db.pools.find? id).isSome = true → (tx'.db.pools.find? id).isSome = true)
    (hgenerated : tx'.generated ⊆ tx.generated) : TokensFrom before generated tx' where
  tokens := fun id => (h.tokens id).edit (hedit id)
  pools := fun id hid => hpools id (h.pools id hid)
  generated := fun _ hv => h.generated (hgenerated hv)

/-- Enabling the first token of a pool. -/
theorem map_enable_head {tokens : Table AccessToken.id} {poolID : Int} {t : AccessToken}
    {rest : List AccessToken} (h : poolTokens tokens poolID = t :: rest) (f : AccessToken → AccessToken)
    (other : Int) :
    (poolTokens tokens other).map (fun u => if u.id = t.id then f u else u) =
      if other = poolID then f t :: rest else poolTokens tokens other := by
  have hmem : ∀ {id u}, u ∈ poolTokens tokens id → u ∈ tokens.rows ∧ u.poolID = some id :=
    fun hu => mem_poolTokens.mp hu
  have ht := hmem (h ▸ List.mem_cons_self : t ∈ poolTokens tokens poolID)
  split
  next heq =>
    subst heq
    have hnodup : ((t :: rest).map AccessToken.id).Nodup := by
      rw [← h]
      exact (((perm_poolTokens tokens other).map _).nodup_iff).mpr
        (tokens.nodup.sublist (List.filter_sublist.map _))
    rw [h, List.map_cons, if_pos rfl]
    congr 1
    refine (List.map_congr_left fun u hu => ?_).trans (List.map_id rest)
    have hne : u.id ≠ t.id := fun hid =>
      (List.nodup_cons.mp hnodup).1 (hid ▸ List.mem_map_of_mem (f := AccessToken.id) hu)
    rw [if_neg hne]
    rfl
  next hne =>
    refine (List.map_congr_left fun u hu => ?_).trans (List.map_id _)
    have hother : u.id ≠ t.id := by
      intro hid
      have hsame := List.inj_on_of_nodup_map tokens.nodup (hmem hu).1 ht.1 hid
      have hpool := (hmem hu).2
      rw [hsame, ht.2] at hpool
      exact hne (Option.some.inj hpool).symm
    rw [if_neg hother]
    rfl

/-- `UPDATE access_tokens SET enabled=1` for the first token of a pool. -/
theorem poolTokens_enableToken {poolID : Int} {t : AccessToken} {rest : List AccessToken}
    (h : poolTokens tx.db.accessTokens poolID = t :: rest) (other : Int) :
    poolTokens (tx.enableToken now t.id).db.accessTokens other =
      if other = poolID then { t with enabled := true, updatedAt := now.datetime } :: rest
      else poolTokens tx.db.accessTokens other := by
  refine (poolTokens_modify tx.db.accessTokens
    (f := fun u => { u with enabled := true, updatedAt := now.datetime }) (fun _ => rfl)
    (fun _ => rfl) t.id other).trans ?_
  exact map_enable_head h (fun u => { u with enabled := true, updatedAt := now.datetime }) other

theorem TokensFrom.enableToken (h : TokensFrom before generated tx) {poolID : Int}
    {t : AccessToken} {rest : List AccessToken}
    (hfirst : poolTokens tx.db.accessTokens poolID = t :: rest) :
    TokensFrom before generated (tx.enableToken now t.id) := by
  refine h.edit (fun id => ?_) (fun _ hid => hid) fun _ hv => hv
  rw [poolTokens_enableToken hfirst]
  split
  next heq =>
    rw [heq, hfirst]
    exact .enable rest ⟨rfl, rfl, rfl⟩
  · exact .same _

/-- A pool without a token gets one with a generated value. -/
theorem TokenTx.poolTokens_createToken {name : Str} {poolID : Int} {enabled : Bool}
    (hnone : poolTokens tx.db.accessTokens poolID = [])
    (hcreate : tx.createToken now name poolID enabled = some tx') :
    ∃ t, t.enabled = enabled ∧ t.token ∈ tx.generated ∧
      (∀ id, poolTokens tx'.db.accessTokens id =
        if id = poolID then [t] else poolTokens tx.db.accessTokens id) ∧
      tx'.db.pools = tx.db.pools ∧ tx'.generated ⊆ tx.generated := by
  obtain ⟨value, rest, tokens, hvalue, hinsert, rfl⟩ := TokenTx.createToken_eq_some hcreate
  obtain ⟨⟨hfree, -, -⟩, rfl⟩ := insertToken_eq_some hinsert
  refine ⟨_, rfl, ?_, poolTokens_set hfree rfl hnone, rfl, ?_⟩
  · rw [hvalue]
    exact List.mem_cons_self
  · rw [hvalue]
    exact List.subset_cons_self value rest

theorem TokensFrom.createToken (h : TokensFrom before generated tx) {name : Str} {poolID : Int}
    {enabled : Bool} (hnone : poolTokens tx.db.accessTokens poolID = [])
    (hcreate : tx.createToken now name poolID enabled = some tx') :
    TokensFrom before generated tx' := by
  obtain ⟨t, -, hvalue, htokens, hpools, hgenerated⟩ :=
    TokenTx.poolTokens_createToken hnone hcreate
  refine h.edit (fun id => ?_) (fun id hid => ?_) hgenerated
  · rw [htokens]
    split
    next heq =>
      rw [heq, hnone]
      exact .add (h.generated hvalue)
    · exact .same _
  · rwa [hpools]

theorem TokensFrom.ensurePoolToken (h : TokensFrom before generated tx) {poolID : Int}
    (hensure : tx.ensurePoolToken now poolID = some tx') : TokensFrom before generated tx' := by
  unfold TokenTx.ensurePoolToken at hensure
  split at hensure
  · exact Option.some.inj hensure ▸ h
  · split at hensure
    next t rest htokens =>
      obtain rfl := Option.some.inj hensure
      split
      · exact h
      · exact h.enableToken htokens
    next htokens => exact h.createToken htokens hensure

/-- Dropping the tokens without a pool leaves the tokens of every pool. -/
theorem TokensFrom.dropGlobal (h : TokensFrom before generated tx) :
    TokensFrom before generated (tx.deleteTokens fun t => t.poolID.isNone) := by
  refine h.edit (fun id => ?_) (fun _ hid => hid) fun _ hv => hv
  show PoolEdit generated _ (poolTokens (tx.db.accessTokens.filter _) id)
  rw [poolTokens_filter, List.filter_eq_self.mpr]
  · exact .same _
  · intro t ht
    show (!t.poolID.isNone) = true
    rw [(mem_poolTokens.mp ht).2]
    rfl

/-- What `reconcilePool` does to a pool: it gets one token, which is enabled, by one of
the edits, and no other pool changes. -/
structure Reconciles (tx : TokenTx) (pool : PoolRow) (tx' : TokenTx) : Prop where
  one : ∃ t, t.enabled = true ∧
    PoolEdit tx.generated (poolTokens tx.db.accessTokens pool.id) [t] ∧
      ∀ id, poolTokens tx'.db.accessTokens id =
        if id = pool.id then [t] else poolTokens tx.db.accessTokens id
  pools : tx'.db.pools = tx.db.pools
  generated : tx'.generated ⊆ tx.generated

/-- The tokens after the first one of a pool is enabled and the others are deleted. -/
theorem poolTokens_settle {pool : PoolRow} {keep : AccessToken} {extra : List AccessToken}
    (htokens : poolTokens tx.db.accessTokens pool.id = keep :: extra) (id : Int) :
    poolTokens ((tx.enableToken now keep.id).deleteTokens
        fun t => extra.any fun u => u.id == t.id).db.accessTokens id =
      if id = pool.id then [{ keep with enabled := true, updatedAt := now.datetime }]
      else poolTokens tx.db.accessTokens id := by
  show poolTokens ((tx.enableToken now keep.id).db.accessTokens.filter _) id = _
  rw [poolTokens_filter, poolTokens_enableToken htokens]
  have hids : ((keep :: extra).map AccessToken.id).Nodup := by
    rw [← htokens]
    exact (((perm_poolTokens tx.db.accessTokens pool.id).map _).nodup_iff).mpr
      (tx.db.accessTokens.nodup.sublist (List.filter_sublist.map _))
  split
  next heq =>
    have hkeep : (extra.any fun u => u.id == keep.id) = false := by
      rw [List.any_eq_false]
      intro u hu
      rw [beq_iff_eq]
      exact fun hid => (List.nodup_cons.mp hids).1 (hid ▸ List.mem_map_of_mem hu)
    have hextra : extra.filter (fun t => !extra.any fun u => u.id == t.id) = [] := by
      rw [List.filter_eq_nil_iff]
      intro t ht
      simpa using ⟨t, ht, rfl⟩
    rw [List.filter_cons_of_pos (by simpa using hkeep), hextra]
  next hne =>
    rw [List.filter_eq_self]
    intro t ht
    rw [Bool.not_eq_true', List.any_eq_false]
    intro u hu
    rw [beq_iff_eq]
    intro hid
    have hu' := mem_poolTokens.mp (htokens ▸ List.mem_cons_of_mem keep hu :
      u ∈ poolTokens tx.db.accessTokens pool.id)
    have ht' := mem_poolTokens.mp ht
    have hsame := List.inj_on_of_nodup_map tx.db.accessTokens.nodup hu'.1 ht'.1 hid
    rw [hsame, ht'.2] at hu'
    exact hne (Option.some.inj hu'.2)

theorem TokenTx.reconciles {pool : PoolRow}
    (hreconcile : TokenTx.reconcilePool now tx pool = some tx') : Reconciles tx pool tx' := by
  unfold TokenTx.reconcilePool at hreconcile
  split at hreconcile
  next htokens =>
    obtain ⟨t, henabled, hvalue, hafter, hpools, hgenerated⟩ :=
      poolTokens_createToken htokens hreconcile
    refine ⟨⟨t, henabled, ?_, hafter⟩, hpools, hgenerated⟩
    rw [htokens]
    exact .add hvalue
  next keep extra htokens =>
    obtain rfl := Option.some.inj hreconcile
    refine ⟨⟨_, rfl, ?_, poolTokens_settle htokens⟩, rfl, fun _ hv => hv⟩
    rw [htokens]
    exact .settle extra ⟨rfl, rfl, rfl⟩

theorem PoolEdit.mono {all : List Str} {ts ts' : List AccessToken} (h : PoolEdit generated ts ts')
    (hall : generated ⊆ all) : PoolEdit all ts ts' := by
  cases h with
  | same => exact .same _
  | enable rest henabled => exact .enable rest henabled
  | settle rest henabled => exact .settle rest henabled
  | add hvalue => exact .add (hall hvalue)

theorem TokensFrom.reconcilePool (h : TokensFrom before generated tx) {pool : PoolRow}
    (hreconcile : TokenTx.reconcilePool now tx pool = some tx') :
    TokensFrom before generated tx' := by
  have hone := TokenTx.reconciles hreconcile
  obtain ⟨t, -, hedit, htokens⟩ := hone.one
  refine h.edit (fun id => ?_) (fun id hid => ?_) hone.generated
  · rw [htokens]
    split
    next heq => exact heq ▸ hedit.mono h.generated
    · exact .same _
  · rwa [hone.pools]

theorem TokensFrom.exec {α : Type} {step : TokenTx → α → Option TokenTx} {xs : List α}
    (h : TokensFrom before generated tx) (hexec : Runs.exec step tx xs = some tx')
    (hstep : ∀ tx x tx', TokensFrom before generated tx → step tx x = some tx' →
      TokensFrom before generated tx') : TokensFrom before generated tx' :=
  Runs.exec_invariant (P := fun _ tx => TokensFrom before generated tx) h
    (fun _ tx x tx' h' hs => hstep tx x tx' h' hs) hexec

theorem TokensFrom.reconcilePoolTokens (h : TokensFrom before generated tx)
    (hreconcile : tx.reconcilePoolTokens now = some tx') : TokensFrom before generated tx' :=
  h.dropGlobal.exec hreconcile fun _ _ _ h' hstep => h'.reconcilePool hstep

/-! ## Import -/

theorem TokensFrom.importPool (h : TokensFrom before generated tx) {ids ids' : GoMap Str Int}
    {p : ImportedPool} (hstep : Store.importPool now (tx, ids) p = some (tx', ids')) :
    TokensFrom before generated tx' := by
  unfold Store.importPool at hstep
  dsimp only at hstep
  split at hstep
  · obtain ⟨rfl, -⟩ := Prod.mk.inj (Option.some.inj hstep)
    exact h
  · split at hstep
    next id hid =>
      obtain ⟨rfl, -⟩ := Prod.mk.inj (Option.some.inj hstep)
      refine h.edit (fun _ => .same _) (fun other hother => ?_) fun _ hv => hv
      show ((tx.db.pools.modify id _).find? other).isSome = true
      rw [Table.find?_modify tx.db.pools (f := fun row : PoolRow =>
        { row with priority := p.priority, enabled := p.enabled, updatedAt := some now.datetime })
        fun _ => rfl]
      split
      · rwa [Option.isSome_map]
      · exact hother
    · cases hcreate : tx.db.createPool now p.label p.priority p.enabled with
      | none =>
        rw [hcreate] at hstep
        contradiction
      | some created =>
        obtain ⟨db, id⟩ := created
        rw [hcreate] at hstep
        obtain ⟨rfl, -⟩ := Prod.mk.inj (Option.some.inj hstep)
        obtain ⟨-, rfl, -⟩ := Database.createPool_eq_some hcreate
        refine h.edit (fun _ => .same _) (fun other hother => ?_) fun _ hv => hv
        show ((tx.db.pools.set _).find? other).isSome = true
        rw [Table.find?_set]
        split
        · rfl
        · exact hother

theorem TokensFrom.importToken (h : TokensFrom before generated tx) {ids ids' : GoMap Str Int}
    {t : ImportedToken} (hstep : Store.importToken now (tx, ids) t = some (tx', ids')) :
    TokensFrom before generated tx' := by
  have hskip : TokensFrom before generated tx.skipToken :=
    h.edit (fun _ => .same _) (fun _ hid => hid) fun _ hv => hv
  unfold Store.importToken at hstep
  dsimp only at hstep
  split at hstep
  · obtain ⟨rfl, -⟩ := Prod.mk.inj (Option.some.inj hstep)
    exact h
  · split at hstep
    · obtain ⟨rfl, -⟩ := Prod.mk.inj (Option.some.inj hstep)
      exact hskip
    · split at hstep
      · contradiction
      · obtain ⟨poolID, -, hrest⟩ := Option.bind_eq_some_iff.mp hstep
        split at hrest
        · obtain ⟨rfl, -⟩ := Prod.mk.inj (Option.some.inj hrest)
          exact hskip
        next hnone =>
          obtain ⟨next, hcreate, hnext⟩ := Option.bind_eq_some_iff.mp hrest
          obtain ⟨rfl, -⟩ := Prod.mk.inj (Option.some.inj hnext)
          refine h.createToken (poolTokens_eq_nil fun t ht hpool => ?_) hcreate
          simp only [Bool.or_eq_true, List.any_eq_true, beq_iff_eq, not_or] at hnone
          exact hnone.1 ⟨t, ht, hpool⟩

theorem TokensFrom.importSetting (h : TokensFrom before generated tx) (setting : Str × Str) :
    TokensFrom before generated (Store.importSetting tx setting) := by
  unfold Store.importSetting
  split
  · exact h
  · exact h.edit (fun _ => .same _) (fun _ hid => hid) fun _ hv => hv

theorem TokensFrom.importSettings (h : TokensFrom before generated tx)
    (settings : List (Str × Str)) :
    TokensFrom before generated (settings.foldl Store.importSetting tx) := by
  induction settings generalizing tx with
  | nil => exact h
  | cons setting settings ih => exact ih (h.importSetting setting)

theorem TokensFrom.runImport (h : TokensFrom before generated tx) {payload : ConfigImportPayload}
    (himport : Store.runImport tx now payload = some tx') : TokensFrom before generated tx' := by
  obtain ⟨s, s', last, hpools, htokens, hreconcile, rfl⟩ := runImport_eq_some himport
  have hs : TokensFrom before generated s.1 :=
    Runs.exec_invariant (P := fun _ s => TokensFrom before generated s.1) h
      (fun _ _ _ _ h' hstep => h'.importPool hstep) hpools
  have hs' : TokensFrom before generated s'.1 :=
    Runs.exec_invariant (P := fun _ s => TokensFrom before generated s.1) hs
      (fun _ _ _ _ h' hstep => h'.importToken hstep) htokens
  have hlast := hs'.reconcilePoolTokens hreconcile
  exact hlast.importSettings payload.settings.rows

/-! ## The migration -/

/-- What the migration has made of the pools it has gone over. -/
structure MigratesFrom (generated : List Str) (tx : TokenTx) (past : List PoolRow)
    (s : Table AccessToken.id × List Str) : Prop where
  done : ∀ id ∈ past.map PoolRow.id,
    PoolEdit generated (poolTokens tx.db.accessTokens id) (poolTokens s.1 id)
  others : ∀ id, id ∉ past.map PoolRow.id → poolTokens s.1 id = []
  generated : s.2 ⊆ generated

theorem MigratesFrom.step {past : List PoolRow} {s s' : Table AccessToken.id × List Str}
    {pool : PoolRow} (h : MigratesFrom generated tx past s)
    (hstep : migratePool now tx.db s pool = some s') :
    MigratesFrom generated tx (past ++ [pool]) s' := by
  -- the row of the pool, and what it comes from
  obtain ⟨row, rest, hinsert, hrow, hedit, hrest⟩ : ∃ row rest,
      insertToken tx.db.pools s.1 row = some s'.1 ∧ row.poolID = some pool.id ∧
        PoolEdit generated (poolTokens tx.db.accessTokens pool.id) [row] ∧
          s'.2 = rest ∧ rest ⊆ s.2 := by
    unfold migratePool at hstep
    split at hstep
    next htokens =>
      split at hstep
      · contradiction
      next value rest hvalue =>
        obtain ⟨tokens, hinsert, hnext⟩ := Option.bind_eq_some_iff.mp hstep
        obtain rfl := Option.some.inj hnext
        refine ⟨_, rest, hinsert, rfl, ?_, rfl, ?_⟩
        · rw [htokens]
          exact .add (h.generated (hvalue ▸ List.mem_cons_self))
        · rw [hvalue]
          exact List.subset_cons_self value rest
    next t extra htokens =>
      obtain ⟨tokens, hinsert, hnext⟩ := Option.bind_eq_some_iff.mp hstep
      obtain rfl := Option.some.inj hnext
      have hpool := (mem_poolTokens.mp (htokens ▸ List.mem_cons_self :
        t ∈ poolTokens tx.db.accessTokens pool.id)).2
      refine ⟨_, s.2, hinsert, hpool, ?_, rfl, fun _ hv => hv⟩
      rw [htokens]
      exact .settle extra ⟨rfl, rfl, rfl⟩
  obtain ⟨⟨hfree, -, hunique⟩, htokens⟩ := insertToken_eq_some hinsert
  have hnone : poolTokens s.1 pool.id = [] :=
    poolTokens_eq_nil fun u hu => hrow ▸ (hunique u hu).2
  have hset := poolTokens_set hfree hrow hnone
  refine ⟨fun id hid => ?_, fun id hid => ?_, fun v hv => h.generated (hrest.2 (hrest.1 ▸ hv))⟩
  · rw [htokens, hset]
    split
    next heq => exact heq ▸ hedit
    next hne =>
      rw [List.map_append, List.mem_append] at hid
      exact h.done id (hid.resolve_right (by simpa using hne))
  · rw [List.map_append, List.mem_append, not_or] at hid
    rw [htokens, hset, if_neg (by simpa using hid.2)]
    exact h.others id hid.1

theorem TokensFrom.migratePoolScopedAccessTokens (h : TokensFrom before generated tx)
    (hmigrate : tx.migratePoolScopedAccessTokens now = some tx') :
    TokensFrom before generated tx' := by
  obtain ⟨s, hexec, hnext⟩ := Option.bind_eq_some_iff.mp hmigrate
  obtain rfl := Option.some.inj hnext
  have hmigrates : MigratesFrom generated tx (TokenTx.poolsByID tx.db) s :=
    Runs.exec_invariant (P := MigratesFrom generated tx)
      ⟨fun _ hid => absurd hid List.not_mem_nil, fun _ _ => rfl, h.generated⟩
      (fun _ _ _ _ h' hstep => h'.step hstep) hexec
  refine ⟨fun id => ?_, h.pools, hmigrates.generated⟩
  by_cases hid : id ∈ (TokenTx.poolsByID tx.db).map PoolRow.id
  · exact (h.tokens id).edit (hmigrates.done id hid)
  · show PoolFrom generated _ _ (poolTokens s.1 id)
    rw [hmigrates.others id hid]
    refine .none (Or.inr fun hthere => hid ?_)
    obtain ⟨pool, hpool⟩ := Option.isSome_iff_exists.mp (h.pools id hthere)
    obtain ⟨hmem, rfl⟩ := Table.mem_of_find? hpool
    exact List.mem_map_of_mem ((List.perm_insertionSort _ _).mem_iff.mpr hmem)

end Transactions

/-! ## Runs -/

/-- An operation on the tokens. -/
inductive TokenOp where
  | migratePoolScopedAccessTokens
  | reconcilePoolTokens
  | importConfig (payload : ConfigImportPayload)
  | ensurePoolToken (poolID : Int)

/-- The transaction of an operation. -/
def TokenOp.transaction (now : Clock) (tx : TokenTx) : TokenOp → Option TokenTx
  | migratePoolScopedAccessTokens => tx.migratePoolScopedAccessTokens now
  | reconcilePoolTokens => tx.reconcilePoolTokens now
  | importConfig payload => runImport tx now payload
  | ensurePoolToken poolID => tx.ensurePoolToken now poolID

/-- An operation, when it runs and the values it generates. -/
structure TokenCall where
  op : TokenOp
  now : Clock
  generated : List Str

/-- The tables after a call; one that fails changes nothing. -/
def TokenCall.run (db : Database) (call : TokenCall) : Database :=
  match call.op.transaction call.now ⟨db, call.generated, {}⟩ with
  | some tx => tx.db
  | none => db

/-- The tables after calls, one after the other. -/
def tokensAfter (db : Database) (calls : List TokenCall) : Database := calls.foldl TokenCall.run db

section Runs

variable {before db : Database} {generated : List Str}

/-- One call. -/
theorem TokensFrom.run {rest : List Str} (h : TokensFrom before generated ⟨db, rest, {}⟩)
    (call : TokenCall) (hgenerated : call.generated ⊆ generated) :
    ∃ rest, TokensFrom before generated ⟨call.run db, rest, {}⟩ := by
  have hstart : TokensFrom before generated ⟨db, call.generated, {}⟩ := ⟨h.tokens, h.pools, hgenerated⟩
  unfold TokenCall.run
  cases htx : call.op.transaction call.now ⟨db, call.generated, {}⟩ with
  | none => exact ⟨rest, h⟩
  | some tx =>
    have hend : TokensFrom before generated tx := by
      unfold TokenOp.transaction at htx
      split at htx
      · exact hstart.migratePoolScopedAccessTokens htx
      · exact hstart.reconcilePoolTokens htx
      · exact hstart.runImport htx
      · exact hstart.ensurePoolToken htx
    exact ⟨tx.generated, hend.tokens, hend.pools, hend.generated⟩

theorem tokensFrom_tokensAfter (db : Database) (calls : List TokenCall) :
    ∃ rest, TokensFrom db (calls.flatMap TokenCall.generated) ⟨tokensAfter db calls, rest, {}⟩ := by
  have hrun : ∀ (calls : List TokenCall) (all : List Str) (start : Database) (rest : List Str),
      TokensFrom db all ⟨start, rest, {}⟩ → calls.flatMap TokenCall.generated ⊆ all →
        ∃ rest, TokensFrom db all ⟨tokensAfter start calls, rest, {}⟩ := by
    intro calls all
    induction calls with
    | nil => exact fun start rest h _ => ⟨rest, h⟩
    | cons call calls ih =>
      intro start rest h hall
      rw [List.flatMap_cons] at hall
      obtain ⟨rest', hnext⟩ := h.run call fun v hv => hall (List.mem_append_left _ hv)
      exact ih _ rest' hnext fun v hv => hall (List.mem_append_right _ hv)
  exact hrun calls _ db [] ⟨fun _ => .same, fun _ hid => hid, List.nil_subset _⟩
    (List.Subset.refl _)

end Runs

/-! ## Authentication -/

/-- The values of the tokens are unique, as the schema has it. -/
def Database.UniqueTokens (db : Database) : Prop := (db.accessTokens.rows.map AccessToken.token).Nodup

/-- A value that authenticates is that of an enabled token of a pool. -/
theorem token_of_authenticates {db : Database} {now : Clock} {value : Str}
    (h : db.authenticates now value = true) :
    ∃ t id, t ∈ poolTokens db.accessTokens id ∧ t.token = value ∧ t.enabled = true := by
  unfold Database.authenticates CacheSnapshot.gatewayAuth at h
  rw [Bool.and_eq_true] at h
  split at h
  · simp at h
  next t hfind =>
    obtain ⟨-, h⟩ := h
    rw [Bool.and_eq_true] at h
    obtain ⟨henabled, hpool⟩ := h
    obtain ⟨id, hid⟩ := Option.isSome_iff_exists.mp hpool
    have hmem : t ∈ db.accessTokens.rows :=
      (List.perm_insertionSort _ _).mem_iff.mp (List.mem_of_find?_eq_some hfind)
    exact ⟨t, id, mem_poolTokens.mpr ⟨hmem, hid⟩, by simpa using List.find?_some hfind, henabled⟩

/-- The value of an enabled token of a pool authenticates. -/
theorem authenticates_of_token {db : Database} (hunique : db.UniqueTokens) {now : Clock}
    {t : AccessToken} {id : Int} (ht : t ∈ poolTokens db.accessTokens id)
    (henabled : t.enabled = true) (hvalue : t.token ≠ []) :
    db.authenticates now t.token = true := by
  obtain ⟨hmem, hpool⟩ := mem_poolTokens.mp ht
  have hsorted : (db.accessTokens.rows.insertionSort fun t u => t.id ≤ u.id).Perm
      db.accessTokens.rows := List.perm_insertionSort _ _
  have hnodup := ((hsorted.map AccessToken.token).nodup_iff).mpr hunique
  have hfind := Table.find?_of_mem (t := (⟨_, hnodup⟩ : Table AccessToken.token))
    (hsorted.mem_iff.mpr hmem)
  have hfound : (loadFromDB (db.tableReads now)).findAccessToken t.token = some t := hfind
  unfold Database.authenticates CacheSnapshot.gatewayAuth
  rw [hfound]
  simp [hvalue, henabled, hpool]

/-- The token of a pool that is treated as its only one. -/
def Database.lowestToken (db : Database) (poolID : Int) : Option AccessToken :=
  (poolTokens db.accessTokens poolID).head?

/-- The repairs let a value authenticate only if it was generated, authenticated before
or is the one of the lowest token of a pool, and leave a pool an enabled token. -/
theorem repairs_keep_lowest_tokens {db : Database} (hunique : db.UniqueTokens)
    (calls : List TokenCall) :
    (∀ now value, (tokensAfter db calls).authenticates now value = true →
      value ∈ calls.flatMap TokenCall.generated ∨ db.authenticates now value = true ∨
        ∃ pool t, db.lowestToken pool = some t ∧ t.token = value) ∧
      ∀ pool ∈ db.pools.rows, (∃ t ∈ poolTokens db.accessTokens pool.id, t.enabled = true) →
        ∃ t' ∈ poolTokens (tokensAfter db calls).accessTokens pool.id, t'.enabled = true ∧
          ∃ t ∈ poolTokens db.accessTokens pool.id, t.token = t'.token ∧
            (t.enabled = true ∨ db.lowestToken pool.id = some t) := by
  obtain ⟨rest, hfrom⟩ := tokensFrom_tokensAfter db calls
  constructor
  · intro now value hauth
    have hvalue : value ≠ [] := by
      rintro rfl
      contradiction
    obtain ⟨t', id, ht', rfl, henabled⟩ := token_of_authenticates hauth
    cases (hfrom.tokens id).mem ht' with
    | inl hgenerated => exact Or.inl hgenerated
    | inr hold =>
      cases hold with
      | inl hbefore =>
        exact Or.inr (Or.inl (authenticates_of_token hunique hbefore henabled hvalue))
      | inr hlowest => exact Or.inr (Or.inr ⟨id, hlowest⟩)
  · rintro pool hpool ⟨t, ht, henabled⟩
    have hthere : (db.pools.find? pool.id).isSome = true := by
      rw [Table.find?_of_mem hpool]
      rfl
    exact (hfrom.tokens pool.id).exists_enabled hthere ht henabled

/-- A pool with two tokens, of which the lower one is disabled. -/
def disabledAndEnabled : Database where
  pools := Table.empty.set { id := 1, label := lit "P" }
  accessTokens :=
    (Table.empty.set { id := 1, name := lit "a", token := lit "a", poolID := some 1, enabled := false }).set
      { id := 2, name := lit "b", token := lit "b", poolID := some 1 }

/-- One call of each repair. -/
def repairs : List TokenCall :=
  [⟨.migratePoolScopedAccessTokens, default, []⟩, ⟨.reconcilePoolTokens, default, []⟩,
    ⟨.importConfig ⟨[], [], Table.empty⟩, default, []⟩, ⟨.ensurePoolToken 1, default, []⟩]

theorem authenticates_as_lowest :
    ∃ pool t, disabledAndEnabled.lowestToken pool = some t ∧ t.token = lit "a" := by
  have hunique : disabledAndEnabled.UniqueTokens := by
    show List.Nodup _
    decide
  have hafter := (repairs_keep_lowest_tokens hunique repairs).1 default (lit "a")
    (by decide +kernel)
  exact (hafter.resolve_left (by decide)).resolve_left (by decide +kernel)

/-- The disabled value authenticates afterwards, and the enabled one no longer does. -/
theorem disabled_token_authenticates :
    disabledAndEnabled.authenticates default (lit "a") = false ∧
      disabledAndEnabled.authenticates default (lit "b") = true ∧
      repairs.flatMap TokenCall.generated = [] ∧
      (tokensAfter disabledAndEnabled repairs).authenticates default (lit "a") = true ∧
      (tokensAfter disabledAndEnabled repairs).authenticates default (lit "b") = false ∧
      ∀ call ∈ repairs,
        (tokensAfter disabledAndEnabled [call]).authenticates default (lit "a") = true := by
  decide +kernel

end Lune.Store
