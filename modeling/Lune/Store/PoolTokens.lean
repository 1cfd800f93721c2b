import Lune.Lib.Runs
import Lune.Store.Database
import Lune.Store.Cache

/-!
# Pools and their tokens

The statements of `internal/store/pools.go`, `tokens.go` and `import.go` about
pools and access tokens, and the migration that gives every pool one token.  A
transaction that fails is `none`; whoever runs it keeps the tables as they were.

`generateToken` reads random bytes.  The values it returns are a list that the
operation consumes from the front, and it fails when the list is empty.
-/

namespace Lune.Store

open GoText Keyed

/-- The number that SQLite gives to a new row. -/
def nextRowid {ρ : Type} {key : ρ → Int} (t : Table key) : Int :=
  match (t.rows.map key).max? with
  | none => 1
  | some highest => highest + 1

theorem lt_nextRowid {ρ : Type} {key : ρ → Int} {t : Table key} {r : ρ} (h : r ∈ t.rows) :
    key r < nextRowid t := by
  have hkey := List.mem_map_of_mem (f := key) h
  unfold nextRowid
  cases hmax : (t.rows.map key).max? with
  | none =>
    rw [List.max?_eq_none_iff.mp hmax] at hkey
    contradiction
  | some highest =>
    have hle := (List.max?_eq_some_iff.mp hmax).2 (key r) hkey
    show key r < highest + 1
    omega

theorem find?_nextRowid {ρ : Type} {key : ρ → Int} (t : Table key) :
    t.find? (nextRowid t) = none := by
  refine List.find?_eq_none.mpr fun r hr => ?_
  have hlt := lt_nextRowid hr
  simp only [decide_eq_true_eq]
  omega

/-! ## Pools -/

namespace Database

/-- The row that `INSERT INTO pools` adds. -/
def newPool (db : Database) (now : Clock) (label : Str) (priority : Int) (enabled : Bool) : PoolRow :=
  { id := nextRowid db.pools
    label := label
    priority := priority
    enabled := enabled
    createdAt := some now.datetime
    updatedAt := some now.datetime }

/-- `CreatePool`; the label is `UNIQUE`. -/
def createPool (db : Database) (now : Clock) (label : Str) (priority : Int) (enabled : Bool) :
    Option (Database × Int) :=
  if db.pools.rows.any fun p => p.label == label then none
  else
    let pool := db.newPool now label priority enabled
    some ({ db with pools := db.pools.set pool }, pool.id)

/-- `DeleteAccount`, with what the references to the account cascade to. -/
def deleteAccount (db : Database) (id : Int) : Database :=
  { db with
    accounts := db.accounts.erase id
    poolMembers := db.poolMembers.filter fun pm => pm.accountID != id
    accountModels := db.accountModels.filter fun am => am.accountID != id
    accountDiagnostics := db.accountDiagnostics.filter fun ad => ad.accountID != id }

/-- `DELETE FROM pools WHERE id = ?`, with what the references to the pool cascade
to. -/
def deletePool (db : Database) (id : Int) : Database :=
  { db with
    pools := db.pools.erase id
    poolMembers := db.poolMembers.filter fun pm => pm.poolID != id
    accessTokens := db.accessTokens.filter fun t => t.poolID != some id }

/-- `SELECT account_id FROM pool_members WHERE pool_id = ?`. -/
def memberAccounts (db : Database) (poolID : Int) : List Int :=
  (db.poolMembers.rows.filter fun pm => pm.poolID = poolID).map PoolMemberRow.accountID

/-- `DeletePoolWithAccounts`. -/
def deletePoolWithAccounts (db : Database) (id : Int) : Database :=
  (db.memberAccounts id).foldl deleteAccount (db.deletePool id)

/-- Delete an account that is in no pool. -/
def deleteOrphan (db : Database) (id : Int) : Database :=
  if db.poolMembers.rows.any fun pm => pm.accountID == id then db else db.deleteAccount id

/-- `DeletePoolWithOrphans`. -/
def deletePoolWithOrphans (db : Database) (id : Int) : Database :=
  (db.memberAccounts id).foldl deleteOrphan (db.deletePool id)

theorem createPool_eq_some {db db' : Database} {now : Clock} {label : Str} {priority id : Int}
    {enabled : Bool} (h : db.createPool now label priority enabled = some (db', id)) :
    (db.pools.rows.any fun p => p.label == label) = false ∧
      db' = { db with pools := db.pools.set (db.newPool now label priority enabled) } ∧
      id = nextRowid db.pools := by
  unfold createPool at h
  split at h
  · contradiction
  next hlabel =>
    obtain ⟨rfl, rfl⟩ := Prod.mk.inj (Option.some.inj h)
    exact ⟨by simpa using hlabel, rfl, rfl⟩

end Database

/-! ## Tokens -/

/-- `defaultPoolTokenName`. -/
def defaultPoolTokenName (poolLabel : Str) : Str :=
  let name := trimSpace poolLabel
  if name = [] then lit "pool-token" else name ++ lit "-token"

/-- `SELECT ... FROM access_tokens WHERE pool_id = ? ORDER BY id`. -/
def poolTokens (tokens : Table AccessToken.id) (poolID : Int) : List AccessToken :=
  (tokens.rows.filter fun t => t.poolID == some poolID).insertionSort fun t u => t.id ≤ u.id

/-- `INSERT INTO access_tokens`: the number, the value and the pool are unique, and
the pool exists. -/
def insertToken (pools : Table PoolRow.id) (tokens : Table AccessToken.id) (t : AccessToken) :
    Option (Table AccessToken.id) :=
  if (tokens.find? t.id).isSome || (t.poolID.bind pools.find?).isNone ||
      tokens.rows.any (fun u => u.token == t.token || u.poolID == t.poolID) then none
  else some (tokens.set t)

theorem insertToken_eq_some {pools : Table PoolRow.id} {tokens tokens' : Table AccessToken.id}
    {t : AccessToken} (h : insertToken pools tokens t = some tokens') :
    (tokens.find? t.id = none ∧ (t.poolID.bind pools.find?).isSome = true ∧
      ∀ u ∈ tokens.rows, u.token ≠ t.token ∧ u.poolID ≠ t.poolID) ∧ tokens' = tokens.set t := by
  unfold insertToken at h
  split at h
  · contradiction
  next hfree =>
    simp only [Bool.or_eq_true, not_or, Bool.not_eq_true, Option.isSome_eq_false_iff,
      Option.isNone_iff_eq_none, List.any_eq_false, beq_iff_eq] at hfree
    obtain ⟨⟨hid, hpool⟩, hunique⟩ := hfree
    exact ⟨⟨hid, Option.isSome_iff_ne_none.mpr hpool, hunique⟩, (Option.some.inj h).symm⟩

theorem insertToken_of_free (pools : Table PoolRow.id) {tokens : Table AccessToken.id}
    {t : AccessToken} (hid : tokens.find? t.id = none)
    (hpool : (t.poolID.bind pools.find?).isSome = true)
    (hunique : ∀ u ∈ tokens.rows, u.token ≠ t.token ∧ u.poolID ≠ t.poolID) :
    insertToken pools tokens t = some (tokens.set t) := by
  have hnone : (t.poolID.bind pools.find?).isNone = false := by
    rw [← Option.not_isSome, hpool]
    rfl
  have hany : (tokens.rows.any fun u => u.token == t.token || u.poolID == t.poolID) = false := by
    rw [List.any_eq_false]
    intro u hu
    have hne := hunique u hu
    simp [hne]
  rw [insertToken, if_neg]
  simp [hid, hnone, hany]

theorem mem_poolTokens {tokens : Table AccessToken.id} {poolID : Int} {t : AccessToken} :
    t ∈ poolTokens tokens poolID ↔ t ∈ tokens.rows ∧ t.poolID = some poolID := by
  rw [poolTokens, (List.perm_insertionSort _ _).mem_iff, List.mem_filter, beq_iff_eq]

/-- A token without its number and dates. -/
def freshToken (tokens : Table AccessToken.id) (now : Clock) (name token : Str) (poolID : Int)
    (enabled : Bool) : AccessToken :=
  { id := nextRowid tokens
    name := name
    token := token
    poolID := some poolID
    enabled := enabled
    updatedAt := now.datetime }

/-- `ConfigImportResult`; `reconcileTokenResult` is its part about tokens. -/
structure ConfigImportResult where
  createdPools : Nat := 0
  updatedPools : Nat := 0
  createdTokens : Nat := 0
  skippedTokens : Nat := 0
  updatedSettings : Nat := 0

/-- The tables in a transaction, the values that `generateToken` has yet to return
and the result so far. -/
structure TokenTx where
  db : Database
  generated : List Str
  result : ConfigImportResult := {}

namespace TokenTx

/-- `INSERT INTO access_tokens (name, token, pool_id, enabled)` with a generated
value. -/
def createToken (tx : TokenTx) (now : Clock) (name : Str) (poolID : Int) (enabled : Bool) :
    Option TokenTx :=
  match tx.generated with
  | [] => none
  | value :: rest => do
    let tokens ← insertToken tx.db.pools tx.db.accessTokens
      (freshToken tx.db.accessTokens now name value poolID enabled)
    return { db := { tx.db with accessTokens := tokens }
             generated := rest
             result := { tx.result with createdTokens := tx.result.createdTokens + 1 } }

theorem createToken_eq_some {tx tx' : TokenTx} {now : Clock} {name : Str} {poolID : Int}
    {enabled : Bool} (h : tx.createToken now name poolID enabled = some tx') :
    ∃ value rest tokens, tx.generated = value :: rest ∧
      insertToken tx.db.pools tx.db.accessTokens
        (freshToken tx.db.accessTokens now name value poolID enabled) = some tokens ∧
      tx' = { db := { tx.db with accessTokens := tokens }
              generated := rest
              result := { tx.result with createdTokens := tx.result.createdTokens + 1 } } := by
  unfold createToken at h
  split at h
  · contradiction
  next value rest hgenerated =>
    cases hinsert : insertToken tx.db.pools tx.db.accessTokens
        (freshToken tx.db.accessTokens now name value poolID enabled) with
    | none =>
      rw [hinsert] at h
      contradiction
    | some tokens =>
      rw [hinsert] at h
      exact ⟨value, rest, tokens, hgenerated, hinsert, (Option.some.inj h).symm⟩

/-- `UPDATE access_tokens SET enabled=1`. -/
def enableToken (tx : TokenTx) (now : Clock) (id : Int) : TokenTx :=
  { tx with
    db := { tx.db with
      accessTokens := tx.db.accessTokens.modify id fun t =>
        { t with enabled := true, updatedAt := now.datetime } } }

/-- Delete the tokens that pass the test, and count them. -/
def deleteTokens (tx : TokenTx) (p : AccessToken → Bool) : TokenTx :=
  { tx with
    db := { tx.db with accessTokens := tx.db.accessTokens.filter fun t => !p t }
    result := { tx.result with
      skippedTokens := tx.result.skippedTokens + tx.db.accessTokens.rows.countP p } }

/-- `CreatePoolWithDefaultToken`. -/
def createPoolWithDefaultToken (tx : TokenTx) (now : Clock) (label : Str) (priority : Int)
    (enabled : Bool) : Option TokenTx := do
  let (db, poolID) ← tx.db.createPool now label priority enabled
  { tx with db := db }.createToken now (defaultPoolTokenName label) poolID true

/-- `EnsurePoolToken`. -/
def ensurePoolToken (tx : TokenTx) (now : Clock) (poolID : Int) : Option TokenTx :=
  match tx.db.pools.find? poolID with
  | none => some tx
  | some pool =>
    match poolTokens tx.db.accessTokens poolID with
    | t :: _ => some (if t.enabled then tx else tx.enableToken now t.id)
    | [] => tx.createToken now (defaultPoolTokenName pool.label) poolID true

/-- The loop of `reconcilePoolTokensTx` for one pool. -/
def reconcilePool (now : Clock) (tx : TokenTx) (pool : PoolRow) : Option TokenTx :=
  match poolTokens tx.db.accessTokens pool.id with
  | [] => tx.createToken now (defaultPoolTokenName pool.label) pool.id true
  | keep :: extra =>
    some ((tx.enableToken now keep.id).deleteTokens fun t => extra.any fun u => u.id == t.id)

/-- `SELECT id, label FROM pools ORDER BY id`. -/
def poolsByID (db : Database) : List PoolRow := db.pools.rows.insertionSort fun p q => p.id ≤ q.id

/-- `reconcilePoolTokensTx`, when both tables are there. -/
def reconcilePoolTokens (tx : TokenTx) (now : Clock) : Option TokenTx :=
  Runs.exec (reconcilePool now) (tx.deleteTokens fun t => t.poolID.isNone) (poolsByID tx.db)

end TokenTx

/-! ## Import -/

/-- A pool of an import. -/
structure ImportedPool where
  label : Str
  priority : Int
  enabled : Bool

/-- A token of an import. -/
structure ImportedToken where
  name : Str
  poolID : Option Int
  poolLabel : Str
  enabled : Bool

/-- `ConfigImportPayload`, as far as it is imported. -/
structure ConfigImportPayload where
  pools : List ImportedPool
  accessTokens : List ImportedToken
  settings : GoMap Str Str

/-- `getPoolByLabelTx`, its number. -/
def Database.poolByLabel (db : Database) (label : Str) : Option Int :=
  (db.pools.rows.find? fun p => p.label = label).map PoolRow.id

/-- The loop of `runImport` for one pool, with the pools by label. -/
def importPool (now : Clock) (s : TokenTx × GoMap Str Int) (p : ImportedPool) :
    Option (TokenTx × GoMap Str Int) :=
  let (tx, poolIDByLabel) := s
  if p.label = [] then some s
  else match tx.db.poolByLabel p.label with
    | some id =>
      let pools := tx.db.pools.modify id fun row =>
        { row with priority := p.priority, enabled := p.enabled, updatedAt := some now.datetime }
      some ({ tx with
        db := { tx.db with pools := pools }
        result := { tx.result with updatedPools := tx.result.updatedPools + 1 } },
        poolIDByLabel.put p.label id)
    | none => do
      let (db, id) ← tx.db.createPool now p.label p.priority p.enabled
      return ({ tx with
        db := db
        result := { tx.result with createdPools := tx.result.createdPools + 1 } },
        poolIDByLabel.put p.label id)

def TokenTx.skipToken (tx : TokenTx) : TokenTx :=
  { tx with result := { tx.result with skippedTokens := tx.result.skippedTokens + 1 } }

/-- The loop of `runImport` for one token. -/
def importToken (now : Clock) (s : TokenTx × GoMap Str Int) (t : ImportedToken) :
    Option (TokenTx × GoMap Str Int) :=
  let (tx, poolIDByLabel) := s
  if t.name = [] then some s
  else if t.poolID = none then some (tx.skipToken, poolIDByLabel)
  else if t.poolLabel = [] then none
  else do
    let poolID ← poolIDByLabel.get? t.poolLabel <|> tx.db.poolByLabel t.poolLabel
    let poolIDByLabel := poolIDByLabel.put t.poolLabel poolID
    if (tx.db.accessTokens.rows.any fun u => u.poolID == some poolID) ||
        tx.db.accessTokens.rows.any (fun u => u.name == t.name && u.poolID == some poolID) then
      return (tx.skipToken, poolIDByLabel)
    else
      let tx ← tx.createToken now t.name poolID t.enabled
      return (tx, poolIDByLabel)

/-- `syscfg.IsAllowedSettingKey`. -/
def isAllowedSettingKey (key : Str) : Bool :=
  [lit "health_check_interval", lit "request_timeout", lit "max_retry_attempts",
    lit "gateway_max_body_mb", lit "gateway_memory_body_mb", lit "notification_expiring_days",
    lit "data_retention_days", lit "codex_quota_fetch_interval"].contains key

/-- The loop of `runImport` for one setting. -/
def importSetting (tx : TokenTx) (setting : Str × Str) : TokenTx :=
  if setting.1 = lit "admin_token" || !isAllowedSettingKey setting.1 then tx
  else
    { tx with
      db := { tx.db with systemConfig := tx.db.systemConfig.put setting.1 setting.2 }
      result := { tx.result with updatedSettings := tx.result.updatedSettings + 1 } }

/-- `runImport`. -/
def runImport (tx : TokenTx) (now : Clock) (payload : ConfigImportPayload) : Option TokenTx := do
  let s ← Runs.exec (importPool now) (tx, Table.empty) payload.pools
  let s ← Runs.exec (importToken now) s payload.accessTokens
  let tx ← s.1.reconcilePoolTokens now
  return payload.settings.rows.foldl importSetting tx

/-- The parts of an import that succeeds. -/
theorem runImport_eq_some {tx tx' : TokenTx} {now : Clock} {payload : ConfigImportPayload}
    (h : runImport tx now payload = some tx') :
    ∃ s s' last, Runs.exec (importPool now) (tx, Table.empty) payload.pools = some s ∧
      Runs.exec (importToken now) s payload.accessTokens = some s' ∧
      s'.1.reconcilePoolTokens now = some last ∧
      tx' = payload.settings.rows.foldl importSetting last := by
  obtain ⟨s, hpools, h⟩ := Option.bind_eq_some_iff.mp h
  obtain ⟨s', htokens, h⟩ := Option.bind_eq_some_iff.mp h
  obtain ⟨last, hreconcile, h⟩ := Option.bind_eq_some_iff.mp h
  exact ⟨s, s', last, hpools, htokens, hreconcile, (Option.some.inj h).symm⟩

/-! ## The migration -/

/-- The loop of `migratePoolScopedAccessTokens` for one pool: the new table, and the
values left to generate. -/
def migratePool (now : Clock) (db : Database) (s : Table AccessToken.id × List Str) (pool : PoolRow) :
    Option (Table AccessToken.id × List Str) :=
  match poolTokens db.accessTokens pool.id with
  | [] =>
    match s.2 with
    | [] => none
    | value :: rest => do
      let tokens ← insertToken db.pools s.1
        (freshToken s.1 now (defaultPoolTokenName pool.label) value pool.id true)
      return (tokens, rest)
  | t :: _ => do
    let tokens ← insertToken db.pools s.1 { t with enabled := true }
    return (tokens, s.2)

/-- `migratePoolScopedAccessTokens`, when both tables are there. -/
def TokenTx.migratePoolScopedAccessTokens (tx : TokenTx) (now : Clock) : Option TokenTx := do
  let (tokens, generated) ← Runs.exec (migratePool now tx.db) (Table.empty, tx.generated)
    (TokenTx.poolsByID tx.db)
  return { tx with db := { tx.db with accessTokens := tokens }, generated := generated }

/-! ## Authentication -/

/-- `GatewayAuth`: the value is that of an enabled token with a pool. -/
def CacheSnapshot.gatewayAuth (snap : CacheSnapshot) (tokenValue : Str) : Bool :=
  tokenValue != [] && match snap.findAccessToken tokenValue with
    | none => false
    | some t => t.enabled && t.poolID.isSome

/-- The value authenticates when the tokens are loaded from the tables. -/
def Database.authenticates (db : Database) (now : Clock) (tokenValue : Str) : Bool :=
  (loadFromDB (db.tableReads now)).gatewayAuth tokenValue

end Lune.Store
