import Lune.Gateway.Handler
import Lune.Lib.JsonText
import Lune.Store.FreshImport

/-!
# Export and import

`getExport` and `importConfig` of `internal/admin/handler.go`.  The body of an export
is the data of the store, and what the import reads of it is each string as JSON
carries it.  The accounts and services of an export are not imported.
-/

namespace Lune.Admin

open GoText GoJson Keyed Store Gateway

/-! ## The export -/

/-- `maskKey`. -/
def maskKey (key : Str) : Str :=
  if key.length ≤ 4 then lit "****"
  else key.take 3 ++ lit "..." ++ key.drop (key.length - 4)

/-- `exportSchemaVersion`. -/
def exportSchemaVersion : Str := lit "3"

/-- A token of an export: its name, pool, label of the pool and whether it is
enabled. -/
structure ExportedToken where
  name : Str
  poolID : Option Int
  poolLabel : Str
  enabled : Bool

/-- The body of `getExport`, as far as it is imported. -/
structure ExportBody where
  schemaVersion : Str
  pools : List Pool
  accessTokens : List ExportedToken
  settings : GoMap Str Str

/-- The label that `getExport` gives a token for its pool. -/
def exportedPoolLabel (poolLabelByID : GoMap Int Str) : Option Int → Str
  | some id => (poolLabelByID.get? id).getD []
  | none => []

/-- `getExport`. -/
def getExport (db : Database) (now : Clock) : ExportBody :=
  let pools := db.listPools now
  let poolLabelByID := pools.foldl (fun (m : GoMap Int Str) p => m.put p.id p.label) Table.empty
  let tokens := db.accessTokens.rows.insertionSort fun t u => t.id ≤ u.id
  { schemaVersion := exportSchemaVersion
    pools := pools
    accessTokens := tokens.map fun t =>
      { name := t.name
        poolID := t.poolID
        poolLabel := exportedPoolLabel poolLabelByID t.poolID
        enabled := t.enabled }
    settings := db.systemConfig.update (lit "admin_token") maskKey }

/-- What `encoding/json` reads from the body it wrote.  It writes the keys of a map in
order, and of equal keys the last one counts. -/
def ExportBody.decoded (body : ExportBody) : Str × ConfigImportPayload :=
  (toValid 0 body.schemaVersion,
    { pools := body.pools.map fun p => ⟨toValid 0 p.label, p.priority, p.enabled⟩
      accessTokens := body.accessTokens.map fun t =>
        ⟨toValid 0 t.name, t.poolID, toValid 0 t.poolLabel, t.enabled⟩
      settings := Table.ofList ((body.settings.rows.insertionSort fun r s => r.1 ≤ s.1).map
        fun r => (toValid 0 r.1, toValid 0 r.2)) })

/-! ## The import -/

/-- Why `importConfig` answers with 400. -/
inductive ImportError where
  | schemaMismatch (version : Str)
  | badRequest (message : Str)
  | importFailed

/-- The keys whose values `normalizeImportedSettingValue` wants above 0. -/
def positiveImportKeys : List Str :=
  [lit "health_check_interval", lit "request_timeout", lit "max_retry_attempts",
    lit "notification_expiring_days"]

/-- `normalizeImportedSettingValue`. -/
def normalizeImportedSettingValue (key value : Str) : Except Str Str :=
  match atoi (trimSpace value) with
  | none => .error (lit "setting " ++ key ++ lit " must be an integer")
  | some n =>
    if positiveImportKeys.contains key && decide (n ≤ 0) then
      .error (lit "setting " ++ key ++ lit " must be greater than 0")
    else if key == lit "data_retention_days" && decide (n < 0) then
      .error (lit "setting " ++ key ++ lit " must be 0 or greater")
    else .ok (itoa n)

/-- The loop of `importConfig` for one setting. -/
def validateSetting (validated : GoMap Str Str) (setting : Str × Str) :
    Except Str (GoMap Str Str) :=
  if setting.1 = lit "admin_token" || !isAllowedSettingKey setting.1 then .ok validated
  else do
    let value ← normalizeImportedSettingValue setting.1 setting.2
    return validated.put setting.1 value

/-- `importConfig`, of a body that is JSON. -/
def importConfigHandler (driver : TxDriver) (now : Clock) (generated : List Str) (db : Database)
    (body : Str × ConfigImportPayload) : Database × Except ImportError ConfigImportResult :=
  let (version, payload) := body
  if version ≠ [] ∧ version ≠ exportSchemaVersion then
    (db, .error (.schemaMismatch version))
  else
    match payload.settings.rows.foldlM validateSetting Table.empty with
    | .error message => (db, .error (.badRequest message))
    | .ok validated =>
      match importConfig driver now generated db { payload with settings := validated } with
      | (db, some result) => (db, .ok result)
      | (db, none) => (db, .error .importFailed)

/-! ## Effective values -/

/-- `syscfg.ParseNonNegativeInt`. -/
def parseNonNegativeInt (raw : Str) (fallback : Nat) : Nat :=
  match atoi raw with
  | some n => if 0 ≤ n then n.toNat else fallback
  | none => fallback

/-- The default of a setting. -/
def settingDefault (key : Str) : Nat :=
  if key = lit "health_check_interval" then 60
  else if key = lit "request_timeout" then 120
  else if key = lit "max_retry_attempts" then 3
  else if key = lit "gateway_max_body_mb" then 100
  else if key = lit "gateway_memory_body_mb" then 8
  else if key = lit "notification_expiring_days" then 7
  else if key = lit "data_retention_days" then 30
  else 600

/-- What the program makes of the stored text of a setting. -/
def effectiveText (key raw : Str) : Nat :=
  if key = lit "data_retention_days" then parseNonNegativeInt raw (settingDefault key)
  else parsePositiveInt raw (settingDefault key)

/-- The value of a setting that the program works with. -/
def effectiveSetting (db : Database) (key : Str) : Nat :=
  effectiveText key ((db.systemConfig.get? key).getD [])

/-! ## One setting -/

/-- `normalizeImportedSettingValue` takes the number for the key. -/
def acceptsImported (key : Str) (n : Int) : Prop :=
  (positiveImportKeys.contains key = true → 0 < n) ∧ (key = lit "data_retention_days" → 0 ≤ n)

/-- The program works with the number when the setting has it. -/
def usesNumber (key : Str) (n : Int) : Prop :=
  if key = lit "data_retention_days" then 0 ≤ n else 0 < n

instance (key : Str) (n : Int) : Decidable (acceptsImported key n) :=
  inferInstanceAs (Decidable (_ ∧ _))

instance (key : Str) (n : Int) : Decidable (usesNumber key n) :=
  inferInstanceAs (Decidable (if key = lit "data_retention_days" then 0 ≤ n else 0 < n))

theorem normalizeImportedSettingValue_eq_ok {key value text : Str} :
    normalizeImportedSettingValue key value = .ok text ↔
      ∃ n, atoi (trimSpace value) = some n ∧ acceptsImported key n ∧ text = itoa n := by
  unfold normalizeImportedSettingValue acceptsImported
  cases atoi (trimSpace value) with
  | none => simp
  | some n =>
    dsimp only
    split
    next hpositive =>
      simp only [Bool.and_eq_true, decide_eq_true_eq] at hpositive
      refine iff_of_false (fun heq => nomatch heq) ?_
      rintro ⟨m, hm, haccepts, -⟩
      obtain rfl := Option.some.inj hm
      have := haccepts.1 hpositive.1
      omega
    next hpositive =>
      split
      next hretention =>
        simp only [Bool.and_eq_true, beq_iff_eq, decide_eq_true_eq] at hretention
        refine iff_of_false (fun heq => nomatch heq) ?_
        rintro ⟨m, hm, haccepts, -⟩
        obtain rfl := Option.some.inj hm
        have := haccepts.2 hretention.1
        omega
      next hretention =>
        simp only [Bool.and_eq_true, beq_iff_eq, decide_eq_true_eq, not_and, Int.not_le,
          Int.not_lt] at hpositive hretention
        constructor
        · intro heq
          exact ⟨n, rfl, ⟨hpositive, hretention⟩, (Except.ok.inj heq).symm⟩
        · rintro ⟨m, hm, -, rfl⟩
          rw [Option.some.inj hm]

theorem effectiveText_of_number {key raw : Str} {n : Int} (h : atoi raw = some n) :
    effectiveText key raw = if usesNumber key n then n.toNat else settingDefault key := by
  unfold effectiveText usesNumber parseNonNegativeInt parsePositiveInt
  rw [h]
  by_cases hkey : key = lit "data_retention_days"
  · simp only [if_pos hkey]
  · simp only [if_neg hkey]

theorem effectiveText_of_none {key raw : Str} (h : atoi raw = none) :
    effectiveText key raw = settingDefault key := by
  unfold effectiveText parseNonNegativeInt parsePositiveInt
  rw [h]
  split
  · rfl
  · rfl

/-- A stored text keeps its effect through export and import: it is a number that is
accepted for the key, and it has white space around it only where the number has the effect
of the default. -/
def SettingTransfers (key raw : Str) : Prop :=
  ∃ n, atoi (trimSpace (toValid 0 raw)) = some n ∧ acceptsImported key n ∧
    (atoi raw ≠ none ∨ ¬ usesNumber key n ∨ n.toNat = settingDefault key)

/-- A number is not changed by JSON. -/
theorem toValid_of_atoi {raw : Str} {n : Int} (h : atoi raw = some n) : toValid 0 raw = raw := by
  refine toValid_of_ascii fun b hb => ?_
  have hgraphic := (atoi_eq_some h).1 b hb
  simp only [isGraphic, Bool.and_eq_true, decide_eq_true_eq, UInt8.le_iff_toNat_le,
    UInt8.lt_iff_toNat_lt, UInt8.reduceToNat] at hgraphic ⊢
  omega

/-- The text that the import writes has the effect of the stored one exactly when it
transfers. -/
theorem settingTransfers_iff (key raw : Str) :
    SettingTransfers key raw ↔
      ∃ text, normalizeImportedSettingValue key (toValid 0 raw) = .ok text ∧
        effectiveText key text = effectiveText key raw := by
  have hwritten : ∀ n, atoi (trimSpace (toValid 0 raw)) = some n →
      effectiveText key (itoa n) = if usesNumber key n then n.toNat else settingDefault key := by
    intro n hn
    have hrange := (atoi_eq_some hn).2
    exact effectiveText_of_number (atoi_itoa hrange.1 hrange.2)
  have hsame : ∀ n, atoi (trimSpace (toValid 0 raw)) = some n →
      ((atoi raw ≠ none ∨ ¬ usesNumber key n ∨ n.toNat = settingDefault key) ↔
        effectiveText key (itoa n) = effectiveText key raw) := by
    intro n hn
    rw [hwritten n hn]
    cases hraw : atoi raw with
    | some m =>
      have hmn : m = n := by
        rw [toValid_of_atoi hraw, trimSpace_of_atoi hraw, hraw] at hn
        exact Option.some.inj hn
      rw [effectiveText_of_number hraw, hmn]
      exact iff_of_true (Or.inl (Option.some_ne_none n)) rfl
    | none =>
      rw [effectiveText_of_none hraw]
      by_cases huses : usesNumber key n
      · simp [huses]
      · simp [huses]
  simp only [SettingTransfers, normalizeImportedSettingValue_eq_ok]
  constructor
  · rintro ⟨n, hn, haccepts, hkeeps⟩
    exact ⟨itoa n, ⟨n, hn, haccepts, rfl⟩, (hsame n hn).mp hkeeps⟩
  · rintro ⟨text, ⟨n, hn, haccepts, rfl⟩, heffect⟩
    exact ⟨n, hn, haccepts, (hsame n hn).mpr heffect⟩

/-! ## The settings of a body -/

theorem validateSetting_of_allowed {m : GoMap Str Str} {r : Str × Str}
    (h : isAllowedSettingKey r.1 = true) :
    validateSetting m r = (normalizeImportedSettingValue r.1 r.2).map fun text => m.put r.1 text := by
  have hadmin : r.1 ≠ lit "admin_token" := by
    intro heq
    rw [heq] at h
    contradiction
  rw [validateSetting, if_neg (by simp [hadmin, h])]
  rfl

theorem validateSetting_of_not_allowed {m : GoMap Str Str} {r : Str × Str}
    (h : isAllowedSettingKey r.1 = false) : validateSetting m r = .ok m := by
  rw [validateSetting, if_pos (by simp [h])]

/-- A setting that is validated changes its own entry. -/
theorem get?_validateSetting {m m' : GoMap Str Str} {r : Str × Str}
    (h : validateSetting m r = .ok m') {key : Str} (hkey : isAllowedSettingKey key = true) :
    if r.1 = key then ∃ text, normalizeImportedSettingValue key r.2 = .ok text ∧
      m'.get? key = some text
    else m'.get? key = m.get? key := by
  split
  next heq =>
    subst heq
    rw [validateSetting_of_allowed hkey] at h
    cases htext : normalizeImportedSettingValue r.1 r.2 with
    | error message =>
      rw [htext] at h
      contradiction
    | ok text =>
      rw [htext] at h
      obtain rfl := Except.ok.inj h
      exact ⟨text, rfl, (GoMap.get?_put _ _ _ _).trans (if_pos rfl)⟩
  next hne =>
    cases hallowed : isAllowedSettingKey r.1 with
    | false =>
      rw [validateSetting_of_not_allowed hallowed] at h
      rw [Except.ok.inj h]
    | true =>
      rw [validateSetting_of_allowed hallowed] at h
      cases htext : normalizeImportedSettingValue r.1 r.2 with
      | error message =>
        rw [htext] at h
        contradiction
      | ok text =>
        rw [htext] at h
        obtain rfl := Except.ok.inj h
        exact (GoMap.get?_put _ _ _ _).trans (if_neg hne)

/-- The validated settings: those that are imported, normalized. -/
theorem get?_validated {rows : List (Str × Str)} (hnodup : (rows.map Prod.fst).Nodup)
    {m m' : GoMap Str Str} (h : rows.foldlM validateSetting m = .ok m') {key : Str}
    (hkey : isAllowedSettingKey key = true) :
    match rows.find? fun r => r.1 = key with
    | some r => ∃ text, normalizeImportedSettingValue key r.2 = .ok text ∧ m'.get? key = some text
    | none => m'.get? key = m.get? key := by
  induction rows generalizing m with
  | nil => exact congrArg (GoMap.get? · key) (Except.ok.inj h).symm
  | cons r rows ih =>
    rw [List.map_cons, List.nodup_cons] at hnodup
    rw [List.foldlM_cons] at h
    cases hfirst : validateSetting m r with
    | error message =>
      rw [hfirst] at h
      contradiction
    | ok m₁ =>
      rw [hfirst] at h
      have hrest := ih hnodup.2 (m := m₁) h
      have hone := get?_validateSetting hfirst hkey
      by_cases heq : r.1 = key
      · have hnone : rows.find? (fun r => r.1 = key) = none := by
          rw [List.find?_eq_none]
          intro r' hr' heq'
          exact hnodup.1 (heq ▸ of_decide_eq_true heq' ▸ List.mem_map_of_mem hr')
        rw [hnone] at hrest
        rw [if_pos heq] at hone
        rw [List.find?_cons_of_pos (by simpa using heq)]
        obtain ⟨text, htext, hget⟩ := hone
        exact ⟨text, htext, hrest.trans hget⟩
      · rw [if_neg heq] at hone
        rw [List.find?_cons_of_neg (by simpa using heq)]
        cases hfind : rows.find? fun r => r.1 = key with
        | some r' =>
          rw [hfind] at hrest
          exact hrest
        | none =>
          rw [hfind] at hrest
          exact hrest.trans hone

/-- Settings that are all accepted are validated. -/
theorem exists_validated {rows : List (Str × Str)}
    (h : ∀ r ∈ rows, isAllowedSettingKey r.1 = true →
      ∃ text, normalizeImportedSettingValue r.1 r.2 = .ok text) (m : GoMap Str Str) :
    ∃ m', rows.foldlM validateSetting m = .ok m' := by
  induction rows generalizing m with
  | nil => exact ⟨m, rfl⟩
  | cons r rows ih =>
    have hrest := ih fun r' hr' => h r' (List.mem_cons_of_mem r hr')
    rw [List.foldlM_cons]
    cases hallowed : isAllowedSettingKey r.1 with
    | false =>
      rw [validateSetting_of_not_allowed hallowed]
      exact hrest m
    | true =>
      obtain ⟨text, htext⟩ := h r List.mem_cons_self hallowed
      rw [validateSetting_of_allowed hallowed, htext]
      exact hrest (m.put r.1 text)

/-- The keys of the settings that are imported are ASCII text. -/
theorem ascii_of_allowed {key : Str} (h : isAllowedSettingKey key = true) : Ascii key := by
  unfold isAllowedSettingKey at h
  rw [List.contains_iff_mem] at h
  simp only [List.mem_cons, List.not_mem_nil, or_false] at h
  rcases h with rfl | rfl | rfl | rfl | rfl | rfl | rfl | rfl <;> (unfold Ascii; decide +kernel)

theorem find?_foldl_set {κ ρ : Type} [DecidableEq κ] {key : ρ → κ} (rows : List ρ) (t : Table key)
    (k : κ) : (rows.foldl Table.set t).find? k =
      (rows.reverse.find? fun r => key r = k).or (t.find? k) := by
  induction rows generalizing t with
  | nil => rfl
  | cons r rows ih =>
    rw [List.foldl_cons, ih, Table.find?_set, List.reverse_cons, List.find?_append, Option.or_assoc]
    congr 1
    by_cases hk : key r = k
    · simp [hk]
    · simp [hk]

/-- A setting that is imported, after JSON. -/
theorem get?_decoded (db : Database) (now : Clock) {key : Str} (hkey : isAllowedSettingKey key = true) :
    (getExport db now).decoded.2.settings.get? key =
      (db.systemConfig.get? key).map (toValid 0) := by
  have hascii := ascii_of_allowed hkey
  have hadmin : key ≠ lit "admin_token" := by
    rintro rfl
    contradiction
  have hsource : (getExport db now).settings.get? key = db.systemConfig.get? key :=
    (GoMap.get?_update _ _ _ _).trans (if_neg hadmin)
  rw [← hsource]
  rw [ExportBody.decoded, GoMap.get?, Table.ofList]
  generalize (getExport db now).settings = settings
  -- no other key is read as this one
  have hread : ((fun r : Str × Str => decide (r.1 = key)) ∘
      fun r : Str × Str => (toValid 0 r.1, toValid 0 r.2)) = fun r => decide (r.1 = key) := by
    funext r
    refine decide_eq_decide.mpr ⟨eq_of_toValid_ascii hascii, ?_⟩
    rintro rfl
    exact toValid_of_ascii hascii
  have hperm : (settings.rows.insertionSort fun r s => r.1 ≤ s.1).reverse.Perm settings.rows :=
    (List.reverse_perm _).trans (List.perm_insertionSort _ _)
  rw [find?_foldl_set, ← List.map_reverse, List.find?_map, hread, Table.find?_perm hperm]
  cases hfind : settings.find? key with
  | none =>
    rw [GoMap.get?, hfind]
    rfl
  | some r =>
    rw [GoMap.get?, hfind]
    rfl

/-- The settings of an export are accepted when each of those that are imported is. -/
theorem exists_validated_decoded {db : Database} (now : Clock)
    (h : ∀ key raw, isAllowedSettingKey key = true → db.systemConfig.get? key = some raw →
      ∃ text, normalizeImportedSettingValue key (toValid 0 raw) = .ok text) :
    ∃ validated, (getExport db now).decoded.2.settings.rows.foldlM validateSetting Table.empty =
      .ok validated := by
  refine exists_validated (fun r hr hallowed => ?_) Table.empty
  have hget : (getExport db now).decoded.2.settings.get? r.1 = some r.2 := by
    rw [GoMap.get?, Table.find?_of_mem hr]
    rfl
  rw [get?_decoded db now hallowed] at hget
  obtain ⟨raw, hraw, hvalue⟩ := Option.map_eq_some_iff.mp hget
  rw [← hvalue]
  exact h r.1 raw hallowed hraw

/-- The settings that the import of an export writes. -/
theorem get?_validated_decoded {db : Database} {now : Clock} {validated : GoMap Str Str}
    (h : (getExport db now).decoded.2.settings.rows.foldlM validateSetting Table.empty =
      .ok validated) {key : Str} (hkey : isAllowedSettingKey key = true) :
    match db.systemConfig.get? key with
    | some raw => ∃ text, normalizeImportedSettingValue key (toValid 0 raw) = .ok text ∧
        validated.get? key = some text
    | none => validated.get? key = none := by
  have hdecoded := get?_decoded db now hkey
  have hvalidated := get?_validated (getExport db now).decoded.2.settings.nodup h hkey
  rw [GoMap.get?, Table.find?] at hdecoded
  cases hraw : db.systemConfig.get? key with
  | none =>
    rw [hraw, Option.map_none, Option.map_eq_none_iff] at hdecoded
    rw [hdecoded] at hvalidated
    exact hvalidated
  | some raw =>
    rw [hraw, Option.map_some] at hdecoded
    obtain ⟨r, hr, hvalue⟩ := Option.map_eq_some_iff.mp hdecoded
    rw [hr] at hvalidated
    obtain ⟨text, htext, hget⟩ := hvalidated
    exact ⟨text, hvalue ▸ htext, hget⟩

/-! ## The pools of a body -/

/-- The constraints of the tables on pools and their tokens: `UNIQUE` and `REFERENCES`. -/
structure Referenced (db : Database) : Prop where
  labels : (db.pools.rows.map PoolRow.label).Nodup
  tokens : ∀ t ∈ db.accessTokens.rows, ∀ id, t.poolID = some id → ∃ pool ∈ db.pools.rows, pool.id = id

/-- A pool as an import reads it from an export. -/
def importedPool (row : PoolRow) : ImportedPool := ⟨toValid 0 row.label, row.priority, row.enabled⟩

theorem pools_decoded (db : Database) (now : Clock) :
    (getExport db now).decoded.2.pools.Perm (db.pools.rows.map importedPool) := by
  show ((db.listPools now).map _).Perm _
  rw [Database.listPools, List.map_map]
  exact (List.perm_insertionSort Database.poolLe db.pools.rows).map importedPool

/-- The label that an export gives for the pool of a token. -/
theorem poolLabel_export {db : Database} (now : Clock) {pool : PoolRow} (hpool : pool ∈ db.pools.rows) :
    ((db.listPools now).foldl (fun (m : GoMap Int Str) p => m.put p.id p.label) Table.empty).get?
      pool.id = some pool.label := by
  rw [Database.listPools, List.foldl_map]
  show GoMap.get? ((db.pools.rows.insertionSort Database.poolLe).foldl
    (fun (m : GoMap Int Str) row => m.put row.id row.label) Table.empty) pool.id = _
  rw [GoMap.get?_foldl_put_table (List.perm_insertionSort _ db.pools.rows) PoolRow.label pool.id,
    Table.find?_of_mem hpool]
  rfl

/-- Each token of an export names a pool of the export. -/
theorem namesPools_decoded {db : Database} (hdb : Referenced db)
    (hlabels : ∀ pool ∈ db.pools.rows, pool.label ≠ []) (now : Clock) :
    (getExport db now).decoded.2.NamesPools := by
  intro t ht _ hpool
  obtain ⟨exported, hexported, rfl⟩ := List.mem_map.mp ht
  obtain ⟨token, htoken, rfl⟩ := List.mem_map.mp hexported
  obtain ⟨id, hid⟩ := Option.ne_none_iff_exists'.mp hpool
  obtain ⟨pool, hmem, rfl⟩ :=
    hdb.tokens token ((List.mem_insertionSort _).mp htoken) id hid
  have hlabel : exportedPoolLabel ((db.listPools now).foldl
      (fun (m : GoMap Int Str) p => m.put p.id p.label) Table.empty) token.poolID = pool.label := by
    rw [show token.poolID = some pool.id from hid]
    exact congrArg (·.getD []) (poolLabel_export now hmem)
  refine ⟨?_, importedPool pool,
    (pools_decoded db now).mem_iff.mpr (List.mem_map_of_mem hmem), ?_⟩
  · show toValid 0 (exportedPoolLabel _ _) ≠ []
    rw [hlabel, ne_eq, toValid_eq_nil]
    exact hlabels pool hmem
  · show _ = toValid 0 (exportedPoolLabel _ _)
    rw [hlabel]
    rfl

/-! ## The round trip -/

/-- `after` has the configuration of `source`: each pool with its label, priority, flag and
routing policy, and each importable setting with its effect. -/
structure Restored (source after : Database) : Prop where
  pools : ∀ pool ∈ source.pools.rows, ∃ row ∈ after.pools.rows,
    row.label = pool.label ∧ row.priority = pool.priority ∧ row.enabled = pool.enabled ∧
      Database.normalizeRoutingPolicy row.routingPolicy =
        Database.normalizeRoutingPolicy pool.routingPolicy
  settings : ∀ key, isAllowedSettingKey key = true →
    effectiveSetting after key = effectiveSetting source key

/-- A pool comes back as it was: its label is UTF-8 text and not empty, and its policy is
the default one. -/
def PoolTransfers (pool : PoolRow) : Prop :=
  pool.label ≠ [] ∧ toValid 0 pool.label = pool.label ∧
    Database.normalizeRoutingPolicy pool.routingPolicy = lit "health_first"

/-- What an export carries to the import. -/
structure Transferable (source : Database) : Prop where
  pools : ∀ pool ∈ source.pools.rows, PoolTransfers pool
  settings : ∀ key raw, isAllowedSettingKey key = true →
    source.systemConfig.get? key = some raw → SettingTransfers key raw

section RoundTrip

variable {driver : TxDriver} {exported imported : Clock} {generated : List Str}
  {source fresh after : Database} {result : ConfigImportResult}

/-- An import that succeeds has validated the settings and run. -/
theorem importConfigHandler_eq_ok {payload : ConfigImportPayload} {version : Str}
    (h : importConfigHandler driver imported generated fresh (version, payload) =
      (after, .ok result)) :
    ∃ validated tx', payload.settings.rows.foldlM validateSetting Table.empty = .ok validated ∧
      runImport { db := fresh, generated := generated } imported
        { payload with settings := validated } = some tx' ∧ tx'.db = after := by
  unfold importConfigHandler at h
  dsimp only at h
  split at h
  · nomatch h
  · split at h
    · nomatch h
    next validated hvalidated =>
      split at h
      next db tx himport =>
        obtain ⟨rfl, -⟩ := Prod.mk.inj h
        obtain ⟨tx', htx', rfl, -⟩ := importConfig_eq_some himport
        exact ⟨validated, tx', hvalidated, htx', rfl⟩
      · nomatch h

theorem effectiveSetting_eq {db : Database} {key : Str} {value : Option Str}
    (h : db.systemConfig.get? key = value) :
    effectiveSetting db key = effectiveText key (value.getD []) := by
  rw [effectiveSetting, h]

/-- The settings after the import of an export have their effects exactly when the stored
texts transfer. -/
theorem effectiveSetting_restored_iff {validated : GoMap Str Str}
    (hvalidated : (getExport source exported).decoded.2.settings.rows.foldlM validateSetting
      Table.empty = .ok validated) {key : Str} (hkey : isAllowedSettingKey key = true)
    (hafter : after.systemConfig.get? key = validated.get? key) :
    effectiveSetting after key = effectiveSetting source key ↔
      ∀ raw, source.systemConfig.get? key = some raw → SettingTransfers key raw := by
  have hstored := get?_validated_decoded hvalidated hkey
  cases hraw : source.systemConfig.get? key with
  | none =>
    rw [hraw] at hstored
    rw [effectiveSetting_eq hraw, effectiveSetting_eq (hafter.trans hstored)]
    exact iff_of_true rfl fun raw heq => nomatch heq
  | some raw =>
    rw [hraw] at hstored
    obtain ⟨text, htext, hget⟩ := hstored
    rw [effectiveSetting_eq hraw, effectiveSetting_eq (hafter.trans hget)]
    show effectiveText key text = effectiveText key raw ↔ _
    constructor
    · intro heffect other hother
      rw [← Option.some.inj hother]
      exact (settingTransfers_iff key raw).mpr ⟨text, htext, heffect⟩
    · intro htransfers
      obtain ⟨text', htext', heffect⟩ := (settingTransfers_iff key raw).mp (htransfers raw rfl)
      rw [Except.ok.inj (htext.symm.trans htext')]
      exact heffect

/-- The pools after the import of an export. -/
theorem importedPools_decoded {start : TokenTx} {s : TokenTx × GoMap Str Int}
    (h : ImportedPools start (getExport source exported).decoded.2.pools s) :
    ∀ row ∈ s.1.db.pools.rows, row.label ≠ [] ∧ toValid 0 row.label = row.label ∧
      row.routingPolicy = lit "health_first" := by
  intro row hrow
  obtain ⟨hlabel, hpolicy, p, hp, heq⟩ := h.rows row hrow
  obtain ⟨pool, -, rfl⟩ := List.mem_map.mp ((pools_decoded source exported).mem_iff.mp hp)
  refine ⟨hlabel, ?_, hpolicy⟩
  rw [← heq]
  exact toValid_toValid pool.label

/-- The labels of pools that transfer are read as they are. -/
theorem labels_decoded (hsource : Referenced source)
    (hpools : ∀ pool ∈ source.pools.rows, PoolTransfers pool) :
    ((getExport source exported).decoded.2.pools.map ImportedPool.label).Nodup := by
  rw [((pools_decoded source exported).map _).nodup_iff, List.map_map]
  have hsame : source.pools.rows.map (ImportedPool.label ∘ importedPool) =
      source.pools.rows.map PoolRow.label :=
    List.map_congr_left fun pool hpool => (hpools pool hpool).2.1
  rw [hsame]
  exact hsource.labels

theorem restored_of_transferable (hsource : Referenced source) (hfresh : IsFresh fresh)
    (htransfers : Transferable source) {validated : GoMap Str Str} {tx' : TokenTx}
    (hvalidated : (getExport source exported).decoded.2.settings.rows.foldlM validateSetting
      Table.empty = .ok validated)
    (htx' : runImport { db := fresh, generated := generated } imported
      { (getExport source exported).decoded.2 with settings := validated } = some tx') :
    Restored source tx'.db := by
  obtain ⟨⟨s, hs, hpools⟩, hsettings⟩ := runImport_contents hfresh htx'
  refine ⟨fun pool hpool => ?_, fun key hkey => ?_⟩
  · obtain ⟨hlabel, hvalid, hpolicy⟩ := htransfers.pools pool hpool
    have hexported : importedPool pool ∈ (getExport source exported).decoded.2.pools :=
      (pools_decoded source exported).mem_iff.mpr (List.mem_map_of_mem hpool)
    have hnonempty : ∀ p ∈ (getExport source exported).decoded.2.pools, p.label ≠ [] := by
      intro p hp
      obtain ⟨q, hq, rfl⟩ := List.mem_map.mp ((pools_decoded source exported).mem_iff.mp hp)
      exact mt toValid_eq_nil.mp (htransfers.pools q hq).1
    obtain ⟨row, hrow, hsame⟩ :=
      hs.each (labels_decoded hsource htransfers.pools) hnonempty _ hexported
    refine ⟨row, hpools ▸ hrow, hsame.1.trans hvalid, hsame.2.1, hsame.2.2, ?_⟩
    rw [hpolicy, (importedPools_decoded hs row hrow).2.2]
    decide +kernel
  · exact (effectiveSetting_restored_iff hvalidated hkey (hsettings key hkey)).mpr
      fun raw hraw => htransfers.settings key raw hkey hraw

theorem transferable_of_restored (hfresh : IsFresh fresh) {validated : GoMap Str Str}
    {tx' : TokenTx}
    (hvalidated : (getExport source exported).decoded.2.settings.rows.foldlM validateSetting
      Table.empty = .ok validated)
    (htx' : runImport { db := fresh, generated := generated } imported
      { (getExport source exported).decoded.2 with settings := validated } = some tx')
    (hrestored : Restored source tx'.db) : Transferable source := by
  obtain ⟨⟨s, hs, hpools⟩, hsettings⟩ := runImport_contents hfresh htx'
  refine ⟨fun pool hpool => ?_, fun key raw hkey hraw => ?_⟩
  · obtain ⟨row, hrow, hlabel, -, -, hpolicy⟩ := hrestored.pools pool hpool
    obtain ⟨hnonempty, hvalid, hdefault⟩ := importedPools_decoded hs row (hpools ▸ hrow)
    rw [hlabel] at hnonempty hvalid
    refine ⟨hnonempty, hvalid, ?_⟩
    rw [← hpolicy, hdefault]
    decide +kernel
  · exact (effectiveSetting_restored_iff hvalidated hkey (hsettings key hkey)).mp
      (hrestored.settings key hkey) raw hraw

/-- Exporting and importing into a fresh database restores the configuration exactly when
the pools have UTF-8 labels and the default policy and the texts of the settings transfer. -/
theorem export_import_restores_iff (hworks : driver.works = true) (hsource : Referenced source)
    (hfresh : IsFresh fresh) (hnodup : generated.Nodup)
    (henough : source.pools.rows.length ≤ generated.length) :
    (∃ after result, importConfigHandler driver imported generated fresh
        (getExport source exported).decoded = (after, .ok result) ∧ Restored source after) ↔
      Transferable source := by
  constructor
  · rintro ⟨after, result, himport, hrestored⟩
    obtain ⟨validated, tx', hvalidated, htx', rfl⟩ := importConfigHandler_eq_ok himport
    exact transferable_of_restored hfresh hvalidated htx' hrestored
  · intro htransfers
    obtain ⟨validated, hvalidated⟩ := exists_validated_decoded exported fun key raw hkey hraw => by
      obtain ⟨text, htext, -⟩ :=
        (settingTransfers_iff key raw).mp (htransfers.settings key raw hkey hraw)
      exact ⟨text, htext⟩
    have hlength : (getExport source exported).decoded.2.pools.length ≤ generated.length := by
      rw [(pools_decoded source exported).length_eq, List.length_map]
      exact henough
    have hnames : ConfigImportPayload.NamesPools
        { (getExport source exported).decoded.2 with settings := validated } :=
      namesPools_decoded hsource (fun pool hpool => (htransfers.pools pool hpool).1) exported
    obtain ⟨tx', htx'⟩ : ∃ tx', runImport { db := fresh, generated := generated } imported
        { (getExport source exported).decoded.2 with settings := validated } = some tx' :=
      runImport_total hfresh hnames hnodup hlength
    refine ⟨tx'.db, tx'.result, ?_,
      restored_of_transferable hsource hfresh htransfers hvalidated htx'⟩
    have hversion : ¬ ((getExport source exported).decoded.1 ≠ [] ∧
        (getExport source exported).decoded.1 ≠ exportSchemaVersion) := by
      rintro ⟨-, hne⟩
      exact hne (show toValid 0 exportSchemaVersion = exportSchemaVersion by decide +kernel)
    unfold importConfigHandler
    dsimp only
    rw [if_neg hversion, hvalidated]
    dsimp only
    rw [importConfig_of_works hworks htx']

/-- A database with one pool and a setting. -/
def smallSource : Database :=
  { pools := ⟨[{ id := 1, label := lit "main", priority := 2 }], by decide⟩
    accessTokens := ⟨[{ id := 1, name := lit "main", token := lit "sk-1", poolID := some 1 }],
      by decide⟩
    systemConfig := ⟨[(lit "request_timeout", lit "90")], by decide⟩ }

theorem small_source_restored :
    ∃ after result, importConfigHandler {} ⟨5, by decide⟩ [lit "sk-new"] {} (getExport smallSource
      ⟨4, by decide⟩).decoded = (after, .ok result) ∧ Restored smallSource after := by
  have hsource : Referenced smallSource := by
    refine ⟨by decide, fun t ht id hid => ?_⟩
    rw [List.mem_singleton.mp ht] at hid
    exact ⟨_, List.mem_singleton_self _, Option.some.inj hid⟩
  refine (export_import_restores_iff rfl hsource ⟨rfl, rfl, fun _ _ => rfl⟩ (by decide)
    (by decide)).mpr ⟨fun pool hpool => ?_, fun key raw _ hraw => ?_⟩
  · rw [List.mem_singleton.mp hpool]
    unfold PoolTransfers
    decide +kernel
  · obtain ⟨r, hr, rfl⟩ := Option.map_eq_some_iff.mp hraw
    obtain ⟨hmem, rfl⟩ := Table.mem_of_find? hr
    rw [List.mem_singleton.mp hmem]
    refine ⟨90, by decide +kernel, by decide +kernel, Or.inl (by decide +kernel)⟩

/-- A pool whose members are tried in their order comes back with the default policy. -/
def orderedSource : Database :=
  { pools := ⟨[{ id := 1, label := lit "main", routingPolicy := lit "ordered" }], by decide⟩ }

theorem ordered_policy_lost :
    ¬ ∀ source fresh : Database, Referenced source → IsFresh fresh →
      ∃ after result, importConfigHandler {} ⟨5, by decide⟩ [lit "sk-new"] fresh (getExport source
        ⟨4, by decide⟩).decoded = (after, .ok result) ∧ Restored source after := by
  intro h
  obtain ⟨after, result, himport, hrestored⟩ := h orderedSource {}
    ⟨by decide, fun t ht => absurd ht List.not_mem_nil⟩ ⟨rfl, rfl, fun _ _ => rfl⟩
  obtain ⟨row, hrow, -, -, -, hpolicy⟩ := hrestored.pools _ (List.mem_singleton_self _)
  have hafter : ∀ row ∈ (importConfigHandler {} ⟨5, by decide⟩ [lit "sk-new"] {} (getExport orderedSource
      ⟨4, by decide⟩).decoded).1.pools.rows, Database.normalizeRoutingPolicy row.routingPolicy =
        lit "health_first" := by
    decide +kernel
  rw [himport] at hafter
  rw [hafter row hrow] at hpolicy
  exact absurd hpolicy (by decide +kernel)

end RoundTrip

end Lune.Admin
