import Lune.Store.UpgradeTokens
import Mathlib.Logic.Relation

/-!
# What a start keeps

A start on a file of version 9 or later goes up the ladder of migrations, and may be cut
off at any of their statements.  Whatever the history of such starts, the file keeps its
tables, its rows and what they hold, apart from the columns that the migrations fill in.
The table of the tokens is built anew before version 13; there each pool keeps its first
token.
-/

namespace Lune.Store.Schema

open GoText SqlFile Restarts

/-! ## Bounds -/

/-- What the migrations of a file of version `v` may touch, apart from the one that
builds the token table. -/
def migrationFootprint (v : Int) : Footprint where
  touched :=
    ["notification_settings", "notification_subscriptions", "accounts", "request_logs", "pools",
      "operations", "operation_items", "account_diagnostics", "account_diagnostic_evidence"]
  changed :=
    [("accounts", "cpa_subscription_status"), ("accounts", "cpa_quota_status"),
      ("accounts", "cpa_quota_last_error"), ("accounts", "cpa_quota_checked_at"),
      ("accounts", "cpa_access_status"), ("accounts", "cpa_access_reason"),
      ("request_logs", "traffic_kind"), ("pools", "routing_policy")] ++
    if v < 10 then
      [("notification_subscriptions", "body_template"), ("notification_subscriptions", "updated_at")]
    else []
  dropped :=
    if v < 10 then
      [("notification_settings", "format"), ("notification_subscriptions", "title_template")]
    else []
  grown :=
    ["operations", "operation_items", "account_diagnostics", "account_diagnostic_evidence"] ++
    if v < 15 then ["notification_subscriptions"] else []

/-- The token table, when it is built anew. -/
def rebuiltTables (v : Int) : List String := if v < 13 then ["access_tokens"] else []

/-- What a start may touch: also the token table and the number of the version. -/
def startFootprint (v : Int) : Footprint :=
  { migrationFootprint v with
    touched := "system_config" :: rebuiltTables v ++ (migrationFootprint v).touched
    changed := ("system_config", "value") :: (migrationFootprint v).changed
    rebuilt := rebuiltTables v }

theorem migrationFootprint_le (v : Int) : (migrationFootprint v).Le (startFootprint v) where
  touched := List.subset_append_right _ _
  changed := List.subset_cons_self _ _
  dropped := List.Subset.refl _
  grown := List.Subset.refl _
  rebuilt := List.nil_subset _

section Ladder

variable {F : Footprint} {v ver : Int}

theorem bounded_when_of {c : Bool} {p : Start Unit} (hp : c = true → Bounded F p) :
    Bounded F (when c p) := by
  cases c with
  | true => exact bounded_when (hp rfl)
  | false => trivial

/-- A step of the ladder, on a file that may be older than the step. -/
theorem bounded_rung {n : Int} {text : String} {p : Start Unit} (hver : v ≤ ver)
    (hp : v < n → Bounded F p) : Bounded F (when (ver < n) (errorf text p)) :=
  bounded_when_of fun hc =>
    bounded_errorf (hp (Int.lt_of_le_of_lt hver (of_decide_eq_true hc)))

theorem bounded_repairCurrent (v : Int) : Bounded (migrationFootprint v) repairCurrent := by
  have haccounts : "accounts" ∈ (migrationFootprint v).touched := by simp [migrationFootprint]
  have hlogs : "request_logs" ∈ (migrationFootprint v).touched := by simp [migrationFootprint]
  refine bounded_bind (bounded_errorf (bounded_migrateRequestLogPoolColumn hlogs)) fun _ => ?_
  refine bounded_bind (bounded_errorf (bounded_migrateRuntimeBindingLogColumns hlogs)) fun _ => ?_
  refine bounded_bind (bounded_errorf (bounded_migrateRequestLogOperationalColumns hlogs
    (by simp [migrationFootprint]))) fun _ => ?_
  refine bounded_bind (bounded_errorf (bounded_migrateCpaSubscriptionStatusColumn haccounts
    (by simp [migrationFootprint]))) fun _ => ?_
  refine bounded_bind (bounded_errorf (bounded_ensureCpaAccountUniqueIndex haccounts)) fun _ => ?_
  refine bounded_bind (bounded_errorf (bounded_migratePoolRoutingPolicyColumn
    (by simp [migrationFootprint]) (by simp [migrationFootprint]))) fun _ => ?_
  refine bounded_bind (bounded_errorf (bounded_migrateCpaAccessColumns haccounts
    (by simp [migrationFootprint]))) fun _ => ?_
  refine bounded_bind (bounded_errorf (bounded_migrateCpaQuotaBackoffColumns haccounts)) fun _ => ?_
  refine bounded_bind (bounded_errorf (bounded_migrateOperationTables
    (by simp [migrationFootprint]))) fun _ => ?_
  exact bounded_errorf (bounded_migrateAccountDiagnosticTables (by simp [migrationFootprint]))

end Ladder

/-! ## Settings -/

/-- What the file holds for a setting. -/
def setting (f : File) (key : Str) : Option Value :=
  match f.table? "system_config" with
  | none => none
  | some t => (t.rows.rows.find? fun r => r.cell "key" == .text key).map fun r => r.cell "value"

/-- The cells of a row, when the version is set. -/
def versionCells (cells : String → Value) : String → Value :=
  if cells "key" == .text (lit "schema_version") then
    Function.update cells "value" (.text (itoa v3SchemaVersion))
  else cells

@[simp] theorem versionCells_key (cells : String → Value) : versionCells cells "key" = cells "key" := by
  rw [versionCells]
  split
  · exact Function.update_of_ne (by decide) _ _
  · rfl

/-- A file with a version has a row for it. -/
theorem exists_versionRow {f : File} (h : 0 < schemaVersion f) :
    ∃ t, f.table? "system_config" = some t ∧ t.rows.rows.any isVersionRow = true := by
  unfold schemaVersion at h
  split at h
  · contradiction
  next t hnamed =>
    refine ⟨t, (File.named_eq_ok.mp hnamed).1, ?_⟩
    cases hfind : t.rows.rows.find? isVersionRow with
    | none => simp [hfind] at h
    | some r => exact List.any_eq_true.mpr ⟨r, List.mem_of_find?_eq_some hfind,
        List.find?_some (p := isVersionRow) hfind⟩

theorem name_setVersionRow (now : Str) (t : SqlTable) : (setVersionRow now t).name = t.name := by
  unfold setVersionRow
  split
  · rfl
  · exact SqlTable.name_insertAll t now _

theorem setVersionRow_eq {t : SqlTable} (h : t.rows.rows.any isVersionRow = true) (now : Str) :
    setVersionRow now t = t.mapCells versionCells := by
  have hrow : ∀ r : SqlRow, (if isVersionRow r then
      { r with cell := Function.update r.cell "value" (.text (itoa v3SchemaVersion)) } else r) =
      { r with cell := versionCells r.cell } := by
    intro r
    cases hr : r.cell "key" == .text (lit "schema_version") <;> simp [isVersionRow, versionCells, hr]
  rw [setVersionRow, if_pos h, SqlTable.mapCells]
  simp only [hrow]

/-- A search by the key meets the same row after the version is set. -/
theorem find?_versionCells (t : SqlTable) (value : Value) :
    ((t.mapCells versionCells).rows.rows.find? fun r => r.cell "key" == value) =
      (t.rows.rows.find? fun r => r.cell "key" == value).map fun r =>
        { r with cell := versionCells r.cell } := by
  rw [SqlTable.rows_mapCells, List.find?_map]
  simp only [Function.comp_def, versionCells_key]

/-- The version is the current one once it is set. -/
theorem schemaVersion_versionCells {f : File} {t : SqlTable}
    (htable : f.table? "system_config" = some (t.mapCells versionCells))
    (hcolumns : ∀ c ∈ ["key", "value"], t.has c = true)
    (hany : t.rows.rows.any isVersionRow = true) : schemaVersion f = v3SchemaVersion := by
  have hnamed : f.named "system_config" ["value", "key"] = .ok (t.mapCells versionCells) :=
    File.named_eq_ok.mpr ⟨htable, fun c hc => hcolumns c (by
      rcases List.mem_pair.mp hc with rfl | rfl <;> simp)⟩
  obtain ⟨r, hr⟩ : ∃ r, t.rows.rows.find? isVersionRow = some r :=
    Option.isSome_iff_exists.mp (by rw [List.find?_isSome]; simpa using hany)
  have hkey : (r.cell "key" == .text (lit "schema_version")) = true :=
    List.find?_some (p := isVersionRow) hr
  have hvalue : versionCells r.cell "value" = .text (itoa v3SchemaVersion) := by
    rw [versionCells, if_pos hkey, Function.update_self]
  have hfound := find?_versionCells t (.text (lit "schema_version"))
  change (t.mapCells versionCells).rows.rows.find? isVersionRow =
    (t.rows.rows.find? isVersionRow).map _ at hfound
  rw [hr] at hfound
  simp only [schemaVersion, hnamed, hfound, Option.map_some, hvalue]
  decide

/-- No other setting changes with the version. -/
theorem setting_versionCells {f g : File} {t : SqlTable} {key : Str}
    (hbefore : f.table? "system_config" = some t)
    (hafter : g.table? "system_config" = some (t.mapCells versionCells))
    (hkey : key ≠ lit "schema_version") : setting g key = setting f key := by
  simp only [setting, hafter, hbefore, find?_versionCells, Option.map_map]
  refine Option.map_congr fun r hr => ?_
  have hrow : r.cell "key" = .text key := by simpa using List.find?_some hr
  have hother : (r.cell "key" == .text (lit "schema_version")) = false := by
    simpa [hrow] using hkey
  simp only [Function.comp_apply, versionCells, hother]
  rfl

theorem within_versionCells {F : Footprint} {t : SqlTable} (hF : (t.name, "value") ∈ F.changed) :
    t.Within F (t.mapCells versionCells) := by
  refine SqlTable.within_mapCells fun cells c _ hspares => ?_
  rw [versionCells]
  split
  · refine Function.update_of_ne ?_ _ _
    rintro rfl
    exact hspares.2 hF
  · rfl

/-! ## One step -/

/-- The token that a pool has kept. -/
structure SameToken (r r' : SqlRow) : Prop where
  rowid : r'.rowid = r.rowid
  name : r'.cell "name" = r.cell "name"
  token : r'.cell "token" = r.cell "token"

/-- The first token of each pool is kept. -/
def TokensKept (f g : File) : Prop :=
  ∀ pools, f.table? "pools" = some pools → ∀ pool ∈ pools.rows.rows,
    ∀ t, f.table? "access_tokens" = some t → ∀ r, firstToken t pool.rowid = some r →
      ∃ u r', g.table? "access_tokens" = some u ∧ firstToken u pool.rowid = some r' ∧ SameToken r r'

/-- What a start keeps of a file of version `v`. -/
structure DataKept (v : Int) (f g : File) : Prop where
  version : v ≤ schemaVersion g
  within : f.Within tables (startFootprint v) g
  settings : ∀ key, key ≠ lit "schema_version" → setting g key = setting f key
  tokens : TokensKept f g

/-- The same of every file whose version is at least `v`. -/
def Kept (v : Int) (f g : File) : Prop := v ≤ schemaVersion f → DataKept v f g

section Kept

variable {v : Int} {f g h : File}

theorem tokensKept_of_same (h : g.table? "access_tokens" = f.table? "access_tokens") :
    TokensKept f g :=
  fun _ _ _ _ t ht r hr => ⟨t, r, h.trans ht, hr, rfl, rfl, rfl⟩

/-- The pools are there after a start, so what they keep they go on keeping. -/
theorem TokensKept.trans (hwithin : f.Within tables (startFootprint v) g) (hfg : TokensKept f g)
    (hgh : TokensKept g h) : TokensKept f h := by
  intro pools hpools pool hpool t ht r hr
  obtain ⟨u, r', hu, hr', hsame⟩ := hfg pools hpools pool hpool t ht r hr
  obtain ⟨pools', hpools', hkept⟩ := hwithin.kept (n := "pools")
    (by rw [startFootprint, rebuiltTables]; split <;> simp) hpools
  obtain ⟨pool', hpool', hid, -⟩ := hkept.rows pool hpool
  obtain ⟨w, r'', hw, hr'', hsame'⟩ := hgh pools' hpools' pool' hpool' u hu r' (hid ▸ hr')
  exact ⟨w, r'', hw, hid ▸ hr'', hsame'.rowid.trans hsame.rowid, hsame'.name.trans hsame.name,
    hsame'.token.trans hsame.token⟩

theorem Kept.refl (f : File) : Kept v f f :=
  fun hv => ⟨hv, .refl f, fun _ _ => rfl, tokensKept_of_same rfl⟩

theorem Kept.trans (hfg : Kept v f g) (hgh : Kept v g h) : Kept v f h := by
  intro hv
  have hfirst := hfg hv
  have hsecond := hgh hfirst.version
  exact ⟨hsecond.version, hfirst.within.trans hsecond.within,
    fun key hkey => (hsecond.settings key hkey).trans (hfirst.settings key hkey),
    hfirst.tokens.trans hfirst.within hsecond.tokens⟩

theorem setting_congr (h : g.table? "system_config" = f.table? "system_config") (key : Str) :
    setting g key = setting f key := by
  unfold setting
  rw [h]

theorem schemaVersion_congr (h : g.table? "system_config" = f.table? "system_config") :
    schemaVersion g = schemaVersion f := by
  unfold schemaVersion File.named
  rw [h]

/-- The migrations leave the settings and the tokens alone. -/
theorem kept_of_within (hwithin : f.Within tables (migrationFootprint v) g) : Kept v f g := by
  have hsettings : g.table? "system_config" = f.table? "system_config" :=
    hwithin.same (by simp [migrationFootprint])
  have htokens : g.table? "access_tokens" = f.table? "access_tokens" :=
    hwithin.same (by simp [migrationFootprint])
  exact fun hv => ⟨schemaVersion_congr hsettings ▸ hv, hwithin.mono (migrationFootprint_le v),
    fun key _ => setting_congr hsettings key, tokensKept_of_same htokens⟩

theorem always_kept {p : Start Unit} (h : Bounded (migrationFootprint v) p) : p.run.Always (Kept v) :=
  Scripts.Script.Always.mono h fun _ _ => kept_of_within

/-- Each pool that has a token has its first one in the new table. -/
theorem tokensKept_replaceTokens {e : StartEnv} (h : replaceTokens e f = .ok g) : TokensKept f g := by
  obtain ⟨-, pools', hpools', -, tokens, htokens, table, hcopy, rfl⟩ := replaceTokens_eq_ok.mp h
  intro pools hpools pool hpool t ht r hr
  obtain rfl : pools' = pools := Option.some.inj ((File.named_eq_ok.mp hpools').1.symm.trans hpools)
  obtain rfl : tokens = t := Option.some.inj ((File.named_eq_ok.mp htokens).1.symm.trans ht)
  have hempty : PoolsOnce accessTokensV13 := fun r hr => absurd hr List.not_mem_nil
  obtain ⟨honce, -, hcopied⟩ := copyTokens_spec hempty (by simp [accessTokensV13, accessTokensTable]) hcopy
  have hmem : (pool.rowid, pool.cell "label") ∈ poolsByID pools' :=
    (List.perm_insertionSort _ _).mem_iff.mpr (List.mem_map_of_mem hpool)
  have hinPlace : (swapTokens f table).table? "access_tokens" = some { table with
      name := tokens.name, indexes := ["idx_access_tokens_pool_unique"] } := by
    rw [table?_swapTokens, if_pos rfl, ht, Option.map_some]
  exact ⟨_, keptToken pool.rowid r, hinPlace,
    firstToken_eq_some (fun r hr u hu => honce r hr u hu) (hcopied _ hmem r hr) rfl, rfl, rfl, rfl⟩

theorem kept_replaceTokens {e : StartEnv} (hold : v < 13) (h : replaceTokens e f = .ok g) :
    Kept v f g := by
  have hsettings : g.table? "system_config" = f.table? "system_config" := by
    obtain ⟨-, -, -, -, -, -, table, -, rfl⟩ := replaceTokens_eq_ok.mp h
    rw [table?_swapTokens, if_neg (by decide)]
  intro hv
  refine ⟨schemaVersion_congr hsettings ▸ hv, within_replaceTokens ?_ ?_ h,
    fun key _ => setting_congr hsettings key, tokensKept_replaceTokens h⟩
  · simp [startFootprint, rebuiltTables, hold]
  · simp [startFootprint, rebuiltTables, hold]

theorem kept_createSystemConfig (hpos : 0 < v) (f : File) : Kept v f (f.createTable systemConfigTable) := by
  intro hv
  obtain ⟨t, htable, -⟩ := exists_versionRow (Int.lt_of_lt_of_le hpos hv)
  have hthere : f.hasTable systemConfigTable.name = true := by
    unfold File.hasTable
    rw [show systemConfigTable.name = "system_config" from rfl, htable, Option.isSome_some]
  have hsame : f.createTable systemConfigTable = f := if_pos hthere
  rw [hsame]
  exact Kept.refl f hv

/-- The version is set in its row, and no other row changes. -/
theorem kept_setVersion {e : StartEnv} (hpos : 0 < v) (hmax : v ≤ v3SchemaVersion)
    (hset : (do let _ ← f.named "system_config" ["key", "value"]
                .ok (f.modify "system_config" (setVersionRow e.now.datetime)) :
      Except SqlError File) = .ok g) : Kept v f g := by
  intro hv
  obtain ⟨⟨t, hnamed⟩, rfl⟩ := File.modify_of_named hset
  obtain ⟨htable, hcolumns⟩ := File.named_eq_ok.mp hnamed
  obtain ⟨t', htable', hany⟩ := exists_versionRow (Int.lt_of_lt_of_le hpos hv)
  obtain rfl : t = t' := Option.some.inj (htable.symm.trans htable')
  have hafter : (f.modify "system_config" (setVersionRow e.now.datetime)).table? "system_config" =
      some (t.mapCells versionCells) := by
    rw [File.table?_modify (name_setVersionRow _), if_pos rfl, htable, Option.map_some,
      setVersionRow_eq hany]
  refine ⟨?_, ?_, fun key hkey => setting_versionCells htable hafter hkey, ?_⟩
  · rw [schemaVersion_versionCells hafter hcolumns hany]
    exact hmax
  · refine File.within_modify (by simp [startFootprint]) (name_setVersionRow _) fun u hu => ?_
    obtain rfl : t = u := Option.some.inj (htable.symm.trans hu)
    rw [setVersionRow_eq hany]
    exact within_versionCells (by simp [startFootprint, name_of_table? hu])
  · refine tokensKept_of_same ?_
    rw [File.table?_modify (name_setVersionRow _), if_neg (by decide)]

theorem always_stmt {p : StartEnv → File → Except SqlError File}
    (h : ∀ e f g, p e f = .ok g → Kept v f g) : (stmt p).run.Always (Kept v) :=
  always_exec Kept.refl fun e f g hp => h e f g (mapError_eq_ok.mp hp)

theorem always_createSystemConfig (hpos : 0 < v) :
    (create systemConfigTable).run.Always (Kept v) :=
  always_stmt fun _ f _ h => Except.ok.inj h ▸ kept_createSystemConfig hpos f

theorem always_setSchemaVersion (hpos : 0 < v) (hmax : v ≤ v3SchemaVersion) :
    setSchemaVersion.run.Always (Kept v) :=
  always_stmt fun _ _ _ h => kept_setVersion hpos hmax h

theorem always_migratePoolScopedAccessTokens (hold : v < 13) :
    migratePoolScopedAccessTokens.run.Always (Kept v) :=
  always_bind (always_query Kept.refl _) fun _ => always_bind (always_query Kept.refl _) fun _ =>
    always_when (always_exec Kept.refl fun _ _ _ => kept_replaceTokens hold)

theorem always_migrateFrom {ver : Int} (hver : v ≤ ver) : (migrateFrom ver).run.Always (Kept v) := by
  have haccounts : "accounts" ∈ (migrationFootprint v).touched := by simp [migrationFootprint]
  have hlogs : "request_logs" ∈ (migrationFootprint v).touched := by simp [migrationFootprint]
  have hsubscriptions : "notification_subscriptions" ∈ (migrationFootprint v).touched := by
    simp [migrationFootprint]
  refine always_bind (always_kept (bounded_rung hver fun h => bounded_migrateNotificationTextOnly
    (by simp [migrationFootprint]) hsubscriptions (by simp [migrationFootprint, h])
    (by simp [migrationFootprint, h]) (by simp [migrationFootprint, h]))) fun _ => ?_
  refine always_bind (always_kept (bounded_rung hver fun _ => bounded_migrateProbeColumns haccounts)) fun _ => ?_
  refine always_bind (always_kept (bounded_rung hver fun _ => bounded_migrateAttemptCountColumn hlogs))
    fun _ => ?_
  refine always_bind (always_kept (bounded_errorf (bounded_migrateRequestLogPoolColumn hlogs))) fun _ => ?_
  refine always_bind ?_ fun _ => ?_
  · cases hold : decide (ver < 13) with
    | true => exact always_when (always_wrap
        (always_migratePoolScopedAccessTokens (Int.lt_of_le_of_lt hver (of_decide_eq_true hold))))
    | false => trivial
  refine always_bind (always_kept (bounded_rung hver fun _ => bounded_migrateCpaSubscriptionColumns haccounts))
    fun _ => ?_
  refine always_bind (always_kept (bounded_rung hver fun h => bounded_migrateCpaCredentialColumns haccounts
    hsubscriptions (by simp [migrationFootprint, h]))) fun _ => ?_
  refine always_bind (always_kept (bounded_rung hver fun _ => bounded_migrateCpaRoutingColumns haccounts
    (by simp [migrationFootprint]))) fun _ => ?_
  refine always_bind (always_kept (bounded_when (bounded_bind
    (bounded_errorf (bounded_migrateRuntimeBindingLogColumns hlogs)) fun _ =>
      bounded_errorf (bounded_migrateCpaSubscriptionStatusColumn haccounts
        (by simp [migrationFootprint]))))) fun _ => ?_
  refine always_bind (always_kept (bounded_rung hver fun _ => bounded_migrateRequestLogOperationalColumns hlogs
    (by simp [migrationFootprint]))) fun _ => ?_
  refine always_bind (always_kept (bounded_rung hver fun _ => bounded_migratePoolRoutingPolicyColumn
    (by simp [migrationFootprint]) (by simp [migrationFootprint]))) fun _ => ?_
  refine always_bind (always_kept (bounded_rung hver fun _ => bounded_migrateCpaAccessColumns haccounts
    (by simp [migrationFootprint]))) fun _ => ?_
  refine always_bind (always_kept (bounded_rung hver fun _ => bounded_migrateCpaQuotaBackoffColumns haccounts))
    fun _ => ?_
  refine always_bind (always_kept (bounded_rung hver fun _ => bounded_migrateOperationTables
    (by simp [migrationFootprint]))) fun _ => ?_
  exact always_kept (bounded_rung hver fun _ => bounded_migrateAccountDiagnosticTables
    (by simp [migrationFootprint]))

theorem always_upgrade {ver : Int} (hmin : 9 ≤ ver) (hver : v ≤ ver) (hpos : 0 < v)
    (hmax : ver < v3SchemaVersion) : (upgrade ver).run.Always (Kept v) := by
  refine always_bind (always_kept (bounded_when_of fun hc => ?_)) fun _ => ?_
  · exact absurd (of_decide_eq_true hc) (by omega)
  refine always_bind (always_kept (bounded_when_of fun hc => ?_)) fun _ => ?_
  · exact absurd (of_decide_eq_true hc) (by omega)
  exact always_bind (always_migrateFrom hver) fun _ =>
    always_setSchemaVersion hpos (by omega)

end Kept

/-! ## Starts -/

variable {Q : StartEnv → File → Prop} {f g : File}

/-- One start, wherever it is cut off. -/
theorem kept_of_start {v : Int} (hmin : 9 ≤ v) (h : migrateV3.run.Stops Q f g) : Kept v f g := by
  have hrel : ∀ {p : Start Unit} {s t}, p.run.Always (Kept v) → p.run.Stops Q s t → Kept v s t :=
    fun hp hs => hs.rel hp Kept.refl Kept.trans
  rcases stops_bind.mp h with hcut | ⟨_, u, hcreate, hrest⟩
  · exact hrel (always_createSystemConfig (by omega)) hcut
  have hfu := hrel (always_createSystemConfig (by omega)) hcreate.stops
  intro hv
  refine hfu.trans ?_ hv
  rcases stops_ask_bind.mp hrest with rfl | ⟨-, hladder⟩
  · exact Kept.refl _
  have hvu := (hfu hv).version
  split at hladder
  · exact hrel (always_kept (bounded_repairCurrent v)) hladder
  next hold =>
    rw [if_pos (by omega)] at hladder
    exact hrel (always_upgrade (by omega) hvu (by omega) (by omega)) hladder

/-- A history of starts, each cut off anywhere or given up at its first error. -/
def StartedTo (f g : File) : Prop :=
  Relation.ReflTransGen (fun s t => migrateV3.run.Stops (fun _ _ => True) s t) f g

theorem kept_of_startedTo {v : Int} (hmin : 9 ≤ v) (h : StartedTo f g) : Kept v f g := by
  induction h with
  | refl => exact Kept.refl f
  | tail _ hstart ih => exact ih.trans (kept_of_start hmin hstart)

/-- Starts never take the version back.  They touch what the migrations that the file
lacks may touch, and keep the other settings and the first token of each pool. -/
theorem starts_keep_data (hmin : 9 ≤ schemaVersion f) (h : StartedTo f g) :
    DataKept (schemaVersion f) f g :=
  kept_of_startedTo hmin h (Int.le_refl _)

/-- A file of version 12, in which a pool has two tokens. -/
def versionTwelve : File where
  tables :=
    ⟨[{ systemConfigTable with
          rows := ⟨[systemConfigTable.newRow [] 1
            [("key", .text (lit "schema_version")), ("value", .text (lit "12"))]], by decide⟩ },
      { poolsTable with rows := ⟨[poolsTable.newRow [] 1 [("label", .text (lit "main"))]], by decide⟩ },
      { accessTokensTable with
          unique := [["token"]]
          rows := ⟨[accessTokensTable.newRow [] 7 [("name", .text (lit "old")),
              ("token", .text (lit "sk-old")), ("pool_id", .int 1)],
            accessTokensTable.newRow [] 4 [("name", .text (lit "first")),
              ("token", .text (lit "sk-first")), ("pool_id", .int 1)]], by decide⟩ }], by decide⟩

theorem startedTo_replaceTokens {e : StartEnv} {g : File}
    (h : replaceTokens e versionTwelve = .ok g) : StartedTo versionTwelve g := by
  have hversion : schemaVersion versionTwelve = 12 := by decide
  refine .single (stops_bind.mpr (Or.inr ⟨(), versionTwelve, ⟨e, trivial, rfl, rfl⟩, ?_⟩))
  refine stops_ask_bind.mpr (Or.inr ⟨⟨e, trivial⟩, ?_⟩)
  rw [hversion, if_neg (by decide), if_pos (by decide)]
  -- the steps before version 10, then those that only look at the request logs
  refine stops_bind.mpr (Or.inr ⟨(), versionTwelve, ⟨rfl, rfl⟩, ?_⟩)
  refine stops_bind.mpr (Or.inr ⟨(), versionTwelve, ⟨rfl, rfl⟩, stops_bind.mpr (Or.inl ?_)⟩)
  refine stops_bind.mpr (Or.inr ⟨(), versionTwelve, ⟨rfl, rfl⟩, ?_⟩)
  refine stops_bind.mpr (Or.inr ⟨(), versionTwelve, ⟨rfl, rfl⟩, ?_⟩)
  refine stops_bind.mpr (Or.inr ⟨(), versionTwelve, ⟨rfl, rfl⟩, ?_⟩)
  refine stops_bind.mpr (Or.inr ⟨(), versionTwelve, ⟨e, trivial, rfl, rfl⟩, ?_⟩)
  refine stops_bind.mpr (Or.inl (stops_wrap.mpr ?_))
  refine stops_ask_bind.mpr (Or.inr ⟨⟨e, trivial⟩, stops_ask_bind.mpr (Or.inr ⟨⟨e, trivial⟩, ?_⟩)⟩)
  exact stops_exec.mpr (Or.inr (ends_exec.mpr ⟨e, trivial, Or.inl ⟨h, rfl⟩⟩))

theorem token_upgrade_kept : ∃ g, replaceTokens ⟨Clock.july, fun _ => none, []⟩ versionTwelve = .ok g ∧
    DataKept 12 versionTwelve g :=
  ⟨_, rfl, starts_keep_data (by decide)
    (startedTo_replaceTokens (e := ⟨Clock.july, fun _ => none, []⟩) rfl)⟩

end Lune.Store.Schema
