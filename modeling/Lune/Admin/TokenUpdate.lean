import Lune.Admin.ConfigTransfer
import Lune.Store.FailedLoads
import Lune.Store.TokenRevocation

/-!
# Renaming a token and giving it another value

`updateToken` of `internal/admin/handler.go` on the tables and the routing cache.  The
name and the value are written by two statements, and the cache is invalidated behind
both.  Any statement may fail; one that fails changes nothing.
-/

namespace Lune.Store

open GoText Keyed

/-! ## The statements -/

/-- The statements of the update that fail with nothing in the tables against them. -/
structure UpdateFailures where
  lookup : Bool := false
  name : Bool := false
  value : Bool := false
  readBack : Bool := false
  pool : Bool := false

namespace Database

/-- `UpdateTokenName`. -/
def updateTokenName (db : Database) (now : Clock) (id : Int) (name : Str) : Database :=
  { db with
    accessTokens := db.accessTokens.modify id fun t =>
      { t with name := name, updatedAt := now.datetime } }

/-- The values are `UNIQUE`, and another token has this one. -/
def valueTaken (db : Database) (id : Int) (value : Str) : Bool :=
  (db.accessTokens.find? id).isSome &&
    db.accessTokens.rows.any fun t => t.id != id && t.token == value

/-- `UPDATE access_tokens SET token=?, updated_at=datetime('now') WHERE id=?`. -/
def setTokenValue (db : Database) (now : Clock) (id : Int) (value : Str) : Database :=
  { db with
    accessTokens := db.accessTokens.modify id fun t =>
      { t with token := value, updatedAt := now.datetime } }

/-- `UpdateTokenValue`: the tables afterwards, and the token or `none` for an error. -/
def updateTokenValue (db : Database) (failures : UpdateFailures) (now : Clock) (id : Int)
    (value : Str) : Database × Option (Option AccessToken) :=
  if isBlank value then (db, none)
  else if failures.value || db.valueTaken id value then (db, none)
  else
    let db := db.setTokenValue now id value
    match db.accessTokens.find? id with
    | none => (db, some none)
    | some t => (db, if failures.readBack then none else some (some t))

end Database

/-- The token and the pool that `GatewayAuth` lets a value in as. -/
def CacheSnapshot.authenticatedAs (snap : CacheSnapshot) (tokenValue : Str) : Option (Int × Int) :=
  if tokenValue = [] then none
  else match snap.findAccessToken tokenValue with
    | none => none
    | some t => if t.enabled then t.poolID.map fun poolID => (t.id, poolID) else none

/-! ## Decisions -/

/-- An enabled token of the pool has the value. -/
def Database.Authenticates (db : Database) (value : Str) (id poolID : Int) : Prop :=
  value ≠ [] ∧ ∃ t ∈ db.accessTokens.rows,
    t.token = value ∧ t.enabled = true ∧ t.id = id ∧ t.poolID = some poolID

/-- Whoever authenticates by the snapshot does so by the tables. -/
def CacheSnapshot.Matches (snap : CacheSnapshot) (db : Database) : Prop :=
  ∀ value id poolID, snap.authenticatedAs value = some (id, poolID) ↔ db.Authenticates value id poolID

/-- The values being unique, a load finds the token of a value. -/
theorem matches_load {db : Database} (hunique : db.UniqueTokens) (now : Clock) :
    (loadFromDB (db.tableReads now)).Matches db := by
  have hsorted : (db.accessTokens.rows.insertionSort fun t u => t.id ≤ u.id).Perm
      db.accessTokens.rows := List.perm_insertionSort _ _
  have hnodup := ((hsorted.map AccessToken.token).nodup_iff).mpr hunique
  have hfind : ∀ value t, (loadFromDB (db.tableReads now)).findAccessToken value = some t ↔
      t ∈ db.accessTokens.rows ∧ t.token = value := by
    intro value t
    show (⟨_, hnodup⟩ : Table AccessToken.token).find? value = some t ↔ _
    rw [Table.find?_eq_some_iff, hsorted.mem_iff]
  intro value id poolID
  unfold CacheSnapshot.authenticatedAs Database.Authenticates
  by_cases hvalue : value = []
  · simp [hvalue]
  rw [if_neg hvalue]
  constructor
  · intro h
    split at h
    · contradiction
    next t ht =>
      obtain ⟨hmem, htoken⟩ := (hfind value t).mp ht
      split at h
      next henabled =>
        obtain ⟨pool, hpool, heq⟩ := Option.map_eq_some_iff.mp h
        obtain ⟨rfl, rfl⟩ := Prod.mk.inj heq
        exact ⟨hvalue, t, hmem, htoken, henabled, rfl, hpool⟩
      · contradiction
  · rintro ⟨-, t, hmem, htoken, henabled, rfl, hpool⟩
    rw [(hfind value t).mpr ⟨hmem, htoken⟩]
    simp [henabled, hpool]

end Lune.Store

namespace Lune.Admin

open GoText Keyed Store

/-! ## The handler -/

/-- The arguments of `WriteAdminError`. -/
structure AdminError where
  status : Nat
  code : Str
  message : Str
deriving DecidableEq

/-- `internalError`. -/
def internalError : AdminError := ⟨500, lit "internal", lit "internal server error"⟩

def badRequest (message : Str) : AdminError := ⟨400, lit "bad_request", message⟩

/-- The body of the request. -/
structure TokenRequest where
  name : Str := []
  token : Option Str := none

/-- The token as `updateToken` answers it. -/
structure UpdatedToken extends AccessToken where
  tokenMasked : Str
  poolLabel : Str

/-- The tables and the routing cache, whose snapshot is no newer than the last write. -/
structure Site where
  db : Database
  cache : RoutingCache := {}
  stamped : cache.version ≤ cache.dbVer := by decide

/-- The site with the tables written. -/
def Site.write (site : Site) (db : Database) : Site := { site with db := db }

/-- `Invalidate`, on the cache of the site. -/
def Site.invalidate (site : Site) : Site where
  db := site.db
  cache := site.cache.invalidate
  stamped := Nat.le_succ_of_le site.stamped

/-- `updateToken` up to its first write: the token that is there, the new name, and the new
value or nothing. -/
def checkUpdate (failures : UpdateFailures) (db : Database) (id : Option Int)
    (body : Option TokenRequest) : Except AdminError (AccessToken × Str × Str) :=
  match id with
  | none => .error (badRequest (lit "invalid id"))
  | some id =>
    if failures.lookup then .error internalError
    else match db.accessTokens.find? id with
    | none => .error ⟨404, lit "not_found", lit "token not found"⟩
    | some existing =>
      match body with
      | none => .error (badRequest (lit "invalid JSON"))
      | some req =>
        let name := trimSpace req.name
        if name = [] then .error (badRequest (lit "name is required"))
        else match req.token with
        | none => .ok (existing, name, [])
        | some token =>
          let tokenValue := trimSpace token
          if tokenValue = [] then .error (badRequest (lit "token cannot be empty"))
          else .ok (existing, name, tokenValue)

/-- The end of `updateToken`. -/
def answerUpdate (failures : UpdateFailures) (now : Clock) (db : Database) (existing : AccessToken)
    (name : Str) : UpdatedToken :=
  let pool := if failures.pool then none else existing.poolID.bind (db.getPool now)
  { existing with
    name := name
    token := []
    tokenMasked := maskKey existing.token
    poolLabel := match pool with
      | some pool => pool.label
      | none => [] }

/-- `updateToken`. -/
def updateToken (failures : UpdateFailures) (now : Clock) (site : Site) (id : Option Int)
    (body : Option TokenRequest) : Site × Except AdminError UpdatedToken :=
  match checkUpdate failures site.db id body with
  | .error err => (site, .error err)
  | .ok (existing, name, tokenValue) =>
    if failures.name then (site, .error internalError)
    else
      let db := site.db.updateTokenName now existing.id name
      if tokenValue = [] then
        ((site.write db).invalidate, .ok (answerUpdate failures now db existing name))
      else
        match db.updateTokenValue failures now existing.id tokenValue with
        | (db, none) => (site.write db, .error internalError)
        | (db, some updated) =>
          ((site.write db).invalidate,
            .ok (answerUpdate failures now db (updated.getD existing) name))

/-! ## Decisions from the cache -/

/-- Every later decision is that of the tables, however often the cache was asked before. -/
def Site.Current (site : Site) : Prop :=
  ∀ (earlier : List Clock) (now : Clock),
    ((site.cache.gets (earlier.map fun now => loadFromDB (site.db.tableReads now))).get
      (loadFromDB (site.db.tableReads now))).1.Matches site.db

/-- Only a snapshot that the cache holds can be wrong. -/
theorem current_iff (site : Site) (hunique : site.db.UniqueTokens) :
    site.Current ↔ ∀ snap, site.cache.Holds snap → snap.Matches site.db := by
  constructor
  · intro h snap hholds
    have hnow := h [] default
    rwa [List.map_nil, RoutingCache.gets, List.foldl_nil, RoutingCache.get_of_holds hholds] at hnow
  · intro h earlier now
    by_cases hloads : site.cache.Loads
    · cases earlier with
      | nil =>
        rw [List.map_nil, RoutingCache.gets, List.foldl_nil, (RoutingCache.get_of_loads hloads _).1]
        exact matches_load hunique now
      | cons first earlier =>
        rw [List.map_cons]
        show ((RoutingCache.gets (site.cache.get _).2 _).get _).1.Matches site.db
        rw [RoutingCache.get_after_load hloads]
        exact matches_load hunique first
    · obtain ⟨snap, hholds⟩ := not_forall_not.mp hloads
      rw [RoutingCache.gets_of_holds hholds, RoutingCache.get_of_holds hholds]
      exact h snap hholds

/-- Behind an `Invalidate` there is none. -/
theorem current_invalidate {site : Site} (hunique : site.db.UniqueTokens) :
    site.invalidate.Current := by
  refine (current_iff site.invalidate hunique).mpr fun snap hholds => ?_
  have hversion : site.cache.version = site.cache.dbVer + 1 := hholds.2
  have hstamped := site.stamped
  omega

/-! ## All or nothing -/

/-- An error that leaves the name and the value of the token, or the new name and the new
value; the value stays when the request has none. -/
def AllOrNothing (db db' : Database) (id : Option Int) (body : Option TokenRequest)
    (answer : Except AdminError UpdatedToken) : Prop :=
  ((∃ err, answer = .error err) ∧
    ∀ row, id.bind db.accessTokens.find? = some row → ∃ row',
      db'.accessTokens.find? row.id = some row' ∧ row'.name = row.name ∧ row'.token = row.token) ∨
  ∃ req row row', body = some req ∧ id.bind db.accessTokens.find? = some row ∧
    db'.accessTokens.find? row.id = some row' ∧ row'.name = trimSpace req.name ∧
    row'.token = (req.token.map trimSpace).getD row.token

/-- A token that lets its value in. -/
def Usable (t : AccessToken) : Prop := t.enabled = true ∧ ∃ poolID, t.poolID = some poolID

/-- Once the name is written, the value can be, or it makes no difference that it cannot;
and a token that cannot be read back changes no decision, or the cache holds none. -/
def Settles (failures : UpdateFailures) (site : Site) (id : Option Int)
    (body : Option TokenRequest) : Prop :=
  ∀ existing name value, checkUpdate failures site.db id body = .ok (existing, name, value) →
    failures.name = false → value ≠ [] →
      ((failures.value = true ∨ site.db.valueTaken existing.id value = true) →
        name = existing.name ∨ value = existing.token) ∧
      (failures.value = false → site.db.valueTaken existing.id value = false →
        failures.readBack = true →
          value = existing.token ∨ ¬Usable existing ∨ site.cache.Loads)

section Update

variable {failures : UpdateFailures} {now : Clock} {db : Database} {id : Int} {name value : Str}
  {row : AccessToken}

/-- What a request that passes the checks is. -/
theorem checkUpdate_ok {pathID : Option Int} {body : Option TokenRequest}
    (h : checkUpdate failures db pathID body = .ok (row, name, value)) :
    pathID.bind db.accessTokens.find? = some row ∧ ∃ req, body = some req ∧
      name = trimSpace req.name ∧
      (value = [] ∧ req.token = none ∨ value ≠ [] ∧ req.token.map trimSpace = some value) := by
  unfold checkUpdate at h
  dsimp only at h
  split at h
  · contradiction
  split at h
  · contradiction
  split at h
  · contradiction
  next existing hfind =>
    split at h
    · contradiction
    next req =>
      split at h
      · contradiction
      split at h
      next htoken =>
        cases h
        exact ⟨hfind, req, rfl, rfl, Or.inl ⟨rfl, htoken⟩⟩
      next token htoken =>
        split at h
        · contradiction
        next hvalue =>
          cases h
          exact ⟨hfind, req, rfl, rfl, Or.inr ⟨hvalue, by rw [htoken]; rfl⟩⟩

theorem find?_updateTokenName (now : Clock) (name : Str)
    (hrow : db.accessTokens.find? id = some row) :
    (db.updateTokenName now id name).accessTokens.find? id =
      some { row with name := name, updatedAt := now.datetime } := by
  have hfind := Table.find?_modify db.accessTokens
    (f := fun t => { t with name := name, updatedAt := now.datetime }) (fun _ => rfl) id id
  rw [if_pos rfl, hrow] at hfind
  exact hfind

theorem find?_setTokenValue (now : Clock) (value : Str)
    (hrow : db.accessTokens.find? id = some row) :
    (db.setTokenValue now id value).accessTokens.find? id =
      some { row with token := value, updatedAt := now.datetime } := by
  have hfind := Table.find?_modify db.accessTokens
    (f := fun t => { t with token := value, updatedAt := now.datetime }) (fun _ => rfl) id id
  rw [if_pos rfl, hrow] at hfind
  exact hfind

/-! ### The tables after the statements -/

theorem rows_updateTokenName : (db.updateTokenName now id name).accessTokens.rows =
    db.accessTokens.rows.map fun t =>
      if t.id = id then { t with name := name, updatedAt := now.datetime } else t := by
  show db.accessTokens.rows.map _ = _
  simp only [and_self]

theorem rows_setTokenValue : (db.setTokenValue now id value).accessTokens.rows =
    db.accessTokens.rows.map fun t =>
      if t.id = id then { t with token := value, updatedAt := now.datetime } else t := by
  show db.accessTokens.rows.map _ = _
  simp only [and_self]

theorem authenticates_updateTokenName (now : Clock) (id : Int) (name tokenValue : Str)
    (tokenID poolID : Int) :
    (db.updateTokenName now id name).Authenticates tokenValue tokenID poolID ↔
      db.Authenticates tokenValue tokenID poolID := by
  have hsame : ∀ t : AccessToken,
      let t' := if t.id = id then { t with name := name, updatedAt := now.datetime } else t
      t'.token = t.token ∧ t'.enabled = t.enabled ∧ t'.id = t.id ∧ t'.poolID = t.poolID := by
    intro t
    dsimp only
    split <;> exact ⟨rfl, rfl, rfl, rfl⟩
  unfold Database.Authenticates
  simp only [rows_updateTokenName, List.mem_map, exists_exists_and_eq_and]
  refine and_congr_right fun _ => exists_congr fun t => and_congr_right fun _ => ?_
  obtain ⟨htoken, henabled, hid, hpool⟩ := hsame t
  rw [htoken, henabled, hid, hpool]

/-- The token with the number has the new value, and every other its own. -/
theorem authenticates_setTokenValue {tokenValue : Str} {tokenID poolID : Int} :
    (db.setTokenValue now id value).Authenticates tokenValue tokenID poolID ↔
      tokenValue ≠ [] ∧ ∃ t ∈ db.accessTokens.rows,
        (if t.id = id then value else t.token) = tokenValue ∧ t.enabled = true ∧
          t.id = tokenID ∧ t.poolID = some poolID := by
  have hsame : ∀ t : AccessToken,
      let t' := if t.id = id then { t with token := value, updatedAt := now.datetime } else t
      t'.token = (if t.id = id then value else t.token) ∧ t'.enabled = t.enabled ∧ t'.id = t.id ∧
        t'.poolID = t.poolID := by
    intro t
    dsimp only
    split <;> exact ⟨rfl, rfl, rfl, rfl⟩
  unfold Database.Authenticates
  simp only [rows_setTokenValue, List.mem_map, exists_exists_and_eq_and]
  refine and_congr_right fun _ => exists_congr fun t => and_congr_right fun _ => ?_
  obtain ⟨htoken, henabled, hid, hpool⟩ := hsame t
  rw [htoken, henabled, hid, hpool]

theorem unique_updateTokenName (now : Clock) (id : Int) (name : Str)
    (hunique : db.UniqueTokens) :
    (db.updateTokenName now id name).UniqueTokens := by
  unfold Database.UniqueTokens at hunique ⊢
  rw [rows_updateTokenName, List.map_map]
  convert hunique using 1
  refine List.map_congr_left fun t _ => ?_
  rw [Function.comp_apply]
  split <;> rfl

/-- A value that no other token has keeps the values unique. -/
theorem unique_setTokenValue (now : Clock) (hunique : db.UniqueTokens)
    (hrow : db.accessTokens.find? id = some row) (htaken : db.valueTaken id value = false) :
    (db.setTokenValue now id value).UniqueTokens := by
  have hother : ∀ t ∈ db.accessTokens.rows, t.id ≠ id → t.token ≠ value := by
    intro t ht hid heq
    rw [Database.valueTaken, hrow, Option.isSome_some, Bool.true_and, List.any_eq_false] at htaken
    exact htaken t ht (by simp [hid, heq])
  have hids := List.pairwise_map.mp db.accessTokens.nodup
  have hvalues := List.pairwise_map.mp hunique
  unfold Database.UniqueTokens
  rw [rows_setTokenValue]
  refine List.pairwise_map.mpr (List.pairwise_map.mpr ((hids.and hvalues).imp_of_mem ?_))
  rintro t u ht hu ⟨hid, hvalue⟩
  by_cases htid : t.id = id
  · have huid : u.id ≠ id := fun h => hid (htid.trans h.symm)
    rw [if_pos htid, if_neg huid]
    exact (hother u hu huid).symm
  · rw [if_neg htid]
    split
    · exact hother t ht htid
    · exact hvalue

/-- Reading the token with its new value changes a decision, unless the value is the old one
or the token lets nobody in. -/
theorem authenticates_setTokenValue_iff (now : Clock)
    (hrow : db.accessTokens.find? id = some row)
    (hvalue : value ≠ []) :
    (∀ tokenValue tokenID poolID,
      (db.setTokenValue now id value).Authenticates tokenValue tokenID poolID ↔
        db.Authenticates tokenValue tokenID poolID) ↔ value = row.token ∨ ¬Usable row := by
  obtain ⟨hmem, hid⟩ := Table.mem_of_find? hrow
  have hself : ∀ t ∈ db.accessTokens.rows, t.id = id → t = row := fun t ht htid =>
    Option.some.inj ((Table.find?_of_mem ht).symm.trans (htid ▸ hrow))
  constructor
  · intro h
    by_contra hnot
    obtain ⟨hne, henabled, poolID, hpool⟩ : value ≠ row.token ∧ Usable row := by
      simpa only [not_or, not_not] using hnot
    have hnew := (h value id poolID).mp (authenticates_setTokenValue.mpr
      ⟨hvalue, row, hmem, if_pos hid, henabled, hid, hpool⟩)
    obtain ⟨-, t, ht, htoken, -, htid, -⟩ := hnew
    rw [hself t ht htid] at htoken
    exact hne htoken.symm
  · intro h tokenValue tokenID poolID
    rw [authenticates_setTokenValue]
    refine and_congr_right fun _ => exists_congr fun t => and_congr_right fun ht => ?_
    by_cases htid : t.id = id
    · obtain rfl := hself t ht htid
      rcases h with heq | husable
      · rw [if_pos htid, heq]
      · exact ⟨fun hall => absurd ⟨hall.2.1, poolID, hall.2.2.2⟩ husable,
          fun hall => absurd ⟨hall.2.1, poolID, hall.2.2.2⟩ husable⟩
    · rw [if_neg htid]

/-! ### What the answers amount to -/

section Settled

variable {pathID : Option Int} {body : Option TokenRequest} {req : TokenRequest} {err : AdminError}
  {answer : Except AdminError UpdatedToken}

theorem allOrNothing_refused : AllOrNothing db db pathID body (.error err) := by
  refine Or.inl ⟨⟨err, rfl⟩, fun row hrow => ⟨row, ?_, rfl, rfl⟩⟩
  obtain ⟨id, -, hfind⟩ := Option.bind_eq_some_iff.mp hrow
  exact Table.find?_of_mem (Table.mem_of_find? hfind).1

/-- Both are written. -/
theorem allOrNothing_written (answer : Except AdminError UpdatedToken)
    (hrow : pathID.bind db.accessTokens.find? = some row)
    (hbody : body = some req) {db' : Database} {row' : AccessToken}
    (hrow' : db'.accessTokens.find? row.id = some row') (hname : row'.name = trimSpace req.name)
    (htoken : row'.token = (req.token.map trimSpace).getD row.token) :
    AllOrNothing db db' pathID body answer :=
  Or.inr ⟨req, row, row', hbody, hrow, hrow', hname, htoken⟩

/-- Only the name is written, and the answer is an error. -/
theorem allOrNothing_renamed_iff (err : AdminError)
    (hrow : pathID.bind db.accessTokens.find? = some row)
    (hbody : body = some req) (htoken : req.token.map trimSpace = some value) {db' : Database}
    {row' : AccessToken} (hrow' : db'.accessTokens.find? row.id = some row')
    (hname : row'.name = trimSpace req.name) (hkept : row'.token = row.token) :
    AllOrNothing db db' pathID body (.error err) ↔
      trimSpace req.name = row.name ∨ value = row.token := by
  constructor
  · rintro (⟨-, h⟩ | ⟨req', other, other', hreq, hother, hother', hname', htoken'⟩)
    · obtain ⟨after, hafter, hname', -⟩ := h row hrow
      obtain rfl := Option.some.inj (hafter.symm.trans hrow')
      exact Or.inl (hname.symm.trans hname')
    · obtain rfl := Option.some.inj (hbody.symm.trans hreq)
      obtain rfl := Option.some.inj (hrow.symm.trans hother)
      obtain rfl := Option.some.inj (hother'.symm.trans hrow')
      rw [htoken, Option.getD_some, hkept] at htoken'
      exact Or.inr htoken'.symm
  · rintro (hsame | hsame)
    · refine Or.inl ⟨⟨err, rfl⟩, fun other hother => ⟨row', ?_⟩⟩
      obtain rfl := Option.some.inj (hrow.symm.trans hother)
      exact ⟨hrow', hname.trans hsame, hkept⟩
    · refine Or.inr ⟨req, row, row', hbody, hrow, hrow', hname, ?_⟩
      rw [hkept, htoken, hsame]
      rfl

end Settled

end Update
section Main

variable {failures : UpdateFailures} {now : Clock} {site : Site} {pathID : Option Int}
  {body : Option TokenRequest} {name value : Str} {row : AccessToken} {db : Database}

theorem settles_error {err : AdminError}
    (hcheck : checkUpdate failures site.db pathID body = .error err) :
    Settles failures site pathID body := by
  intro existing name value hok
  rw [hcheck] at hok
  contradiction

theorem settles_ok (hcheck : checkUpdate failures site.db pathID body = .ok (row, name, value))
    (hname : failures.name = false) (hvalue : value ≠ []) : Settles failures site pathID body ↔
      ((failures.value = true ∨ site.db.valueTaken row.id value = true) →
        name = row.name ∨ value = row.token) ∧
      (failures.value = false → site.db.valueTaken row.id value = false → failures.readBack = true →
        value = row.token ∨ ¬Usable row ∨ site.cache.Loads) := by
  refine ⟨fun h => h row name value hcheck hname hvalue, fun h row' name' value' hok _ _ => ?_⟩
  rw [hcheck] at hok
  cases hok
  exact h

/-- Tables in which the same values authenticate. -/
theorem current_write (hunique : site.db.UniqueTokens) (hcurrent : site.Current)
    (hwritten : db.UniqueTokens)
    (hsame : ∀ value id poolID, db.Authenticates value id poolID ↔
      site.db.Authenticates value id poolID) : (site.write db).Current := by
  refine (current_iff (site.write db) hwritten).mpr fun snap hholds value id poolID => ?_
  exact ((current_iff site hunique).mp hcurrent snap hholds value id poolID).trans
    (hsame value id poolID).symm

/-- Without an `Invalidate` the decisions are right only if they did not change or there is
no snapshot. -/
theorem current_write_iff (hunique : site.db.UniqueTokens) (hcurrent : site.Current)
    (hwritten : db.UniqueTokens) : (site.write db).Current ↔
      (∀ value id poolID, db.Authenticates value id poolID ↔
        site.db.Authenticates value id poolID) ∨ site.cache.Loads := by
  constructor
  · intro h
    by_cases hloads : site.cache.Loads
    · exact Or.inr hloads
    · obtain ⟨snap, hholds⟩ := not_forall_not.mp hloads
      refine Or.inl fun value id poolID => ?_
      have hafter := (current_iff (site.write db) hwritten).mp h snap hholds value id poolID
      have hbefore := (current_iff site hunique).mp hcurrent snap hholds value id poolID
      exact hafter.symm.trans hbefore
  · rintro (hsame | hloads)
    · exact current_write hunique hcurrent hwritten hsame
    · exact (current_iff (site.write db) hwritten).mpr fun snap hholds =>
        absurd hholds (hloads snap)

theorem valueTaken_updateTokenName {id : Int} :
    (db.updateTokenName now id name).valueTaken id value = db.valueTaken id value := by
  have hfind : ((db.updateTokenName now id name).accessTokens.find? id).isSome =
      (db.accessTokens.find? id).isSome := by
    cases hrow : db.accessTokens.find? id with
    | some row => rw [find?_updateTokenName now name hrow]; rfl
    | none =>
      have hmodify := Table.find?_modify db.accessTokens
        (f := fun t => { t with name := name, updatedAt := now.datetime }) (fun _ => rfl) id id
      rw [if_pos rfl, hrow] at hmodify
      exact congrArg Option.isSome hmodify
  rw [Database.valueTaken, hfind, rows_updateTokenName, List.any_map, Database.valueTaken]
  congr 2
  funext t
  rw [Function.comp_apply]
  split <;> rfl

/-- The outcomes of `UpdateTokenValue` for a token that is there. -/
theorem updateTokenValue_eq {failures : UpdateFailures} {id : Int} (hblank : isBlank value = false)
    (hfind : db.accessTokens.find? id = some row) :
    db.updateTokenValue failures now id value =
      if failures.value = true ∨ db.valueTaken id value = true then (db, none)
      else (db.setTokenValue now id value,
        if failures.readBack then none
        else some (some { row with token := value, updatedAt := now.datetime })) := by
  unfold Database.updateTokenValue
  rw [hblank, if_neg Bool.false_ne_true]
  by_cases hrefused : failures.value = true ∨ db.valueTaken id value = true
  · rw [if_pos hrefused, if_pos (Bool.or_eq_true_iff.mpr hrefused)]
  · rw [if_neg hrefused, if_neg (mt Bool.or_eq_true_iff.mp hrefused)]
    dsimp only
    rw [find?_setTokenValue now value hfind]

/-- The update is all or nothing and seen by every later decision exactly when the value can
be written behind the name, and read back, or it makes no difference. -/
theorem updateToken_settles_iff (hunique : site.db.UniqueTokens) (hcurrent : site.Current) :
    AllOrNothing site.db (updateToken failures now site pathID body).1.db pathID body
          (updateToken failures now site pathID body).2 ∧
        (updateToken failures now site pathID body).1.Current ↔
      Settles failures site pathID body := by
  unfold updateToken
  cases hcheck : checkUpdate failures site.db pathID body with
  | error err =>
    exact iff_of_true ⟨allOrNothing_refused, hcurrent⟩ (settles_error hcheck)
  | ok found =>
    obtain ⟨row, name, value⟩ := found
    obtain ⟨hrow, req, hbody, rfl, htoken⟩ := checkUpdate_ok hcheck
    obtain ⟨id, -, hfind⟩ := Option.bind_eq_some_iff.mp hrow
    obtain ⟨-, rfl⟩ := Table.mem_of_find? hfind
    dsimp only
    cases hname : failures.name with
    | true =>
      refine iff_of_true ⟨allOrNothing_refused, hcurrent⟩ fun _ _ _ _ hnot => ?_
      rw [hname] at hnot
      contradiction
    | false =>
      have hrenamed := find?_updateTokenName now (trimSpace req.name) hfind
      have hunique' := unique_updateTokenName now row.id (trimSpace req.name) hunique
      rw [if_neg Bool.false_ne_true]
      rcases htoken with ⟨rfl, htoken⟩ | ⟨hvalue, htoken⟩
      · rw [if_pos rfl]
        refine iff_of_true ⟨?_, current_invalidate hunique'⟩ ?_
        · exact allOrNothing_written _ hrow hbody hrenamed rfl (by rw [htoken]; rfl)
        · intro row' name' value' hok _ hvalue
          rw [hcheck] at hok
          cases hok
          contradiction
      have hblank : isBlank value = false := by
        obtain ⟨token, -, rfl⟩ := Option.map_eq_some_iff.mp htoken
        exact isBlank_trimSpace hvalue
      have hauth : ∀ tokenValue tokenID poolID,
          (site.db.updateTokenName now row.id (trimSpace req.name)).Authenticates tokenValue tokenID
            poolID ↔ site.db.Authenticates tokenValue tokenID poolID :=
        authenticates_updateTokenName now row.id (trimSpace req.name)
      rw [if_neg hvalue, settles_ok hcheck hname hvalue, updateTokenValue_eq hblank hrenamed,
        valueTaken_updateTokenName]
      by_cases hrefused : failures.value = true ∨ site.db.valueTaken row.id value = true
      · -- the name is written and the value is not
        rw [if_pos hrefused]
        dsimp only
        have hrenamedOnly := allOrNothing_renamed_iff internalError hrow hbody htoken hrenamed
          rfl rfl
        have hkept := current_write hunique hcurrent hunique' hauth
        constructor
        · rintro ⟨hall, -⟩
          refine ⟨fun _ => hrenamedOnly.mp hall, fun hfails htaken _ => ?_⟩
          rw [hfails, htaken] at hrefused
          simp at hrefused
        · rintro ⟨hsettled, -⟩
          exact ⟨hrenamedOnly.mpr (hsettled hrefused), hkept⟩
      · rw [if_neg hrefused]
        obtain ⟨hfails, htaken⟩ : failures.value = false ∧
            site.db.valueTaken row.id value = false := by simpa using hrefused
        have hwritten := find?_setTokenValue now value hrenamed
        have hunique'' := unique_setTokenValue now hunique' hrenamed
          (valueTaken_updateTokenName.trans htaken)
        have hboth := fun answer => allOrNothing_written answer hrow hbody hwritten rfl
          (by rw [htoken]; rfl)
        cases hreadBack : failures.readBack with
        | false => exact iff_of_true ⟨hboth _, current_invalidate hunique''⟩ (by simp [hrefused])
        | true =>
          -- both are written, and the cache does not know
          have hdecisions := authenticates_setTokenValue_iff now hrenamed hvalue
          have hcurrent' := current_write_iff hunique hcurrent hunique''
          simp only [hauth] at hdecisions
          rw [hdecisions, or_assoc] at hcurrent'
          constructor
          · rintro ⟨-, hseen⟩
            exact ⟨fun hnot => absurd hnot hrefused, fun _ _ _ => hcurrent'.mp hseen⟩
          · rintro ⟨-, hsettled⟩
            exact ⟨hboth _, hcurrent'.mpr (hsettled hfails htaken rfl)⟩

end Main

/-! ## A value that another token has -/

/-- The tokens of two pools. -/
def twoTokens : Database where
  pools := (Table.empty.set { id := 1 }).set { id := 2 }
  accessTokens := ⟨[{ id := 1, name := lit "a", token := lit "k1", poolID := some 1 },
    { id := 2, name := lit "b", token := lit "k2", poolID := some 2 }], by decide⟩

theorem unique_twoTokens : twoTokens.UniqueTokens := by
  unfold Database.UniqueTokens
  decide

theorem current_twoTokens : (⟨twoTokens, {}, by decide⟩ : Site).Current :=
  (current_iff _ unique_twoTokens).mpr fun snap hholds => absurd hholds (RoutingCache.loads_new snap)

/-- A new name and a value that is free. -/
theorem updateToken_settles_free_value :
    let site : Site := ⟨twoTokens, {}, by decide⟩
    let result := updateToken {} default site (some 1) (some ⟨lit "c", some (lit "k3")⟩)
    AllOrNothing twoTokens result.1.db (some 1) (some ⟨lit "c", some (lit "k3")⟩) result.2 ∧
      result.1.Current := by
  refine (updateToken_settles_iff unique_twoTokens current_twoTokens).mpr ?_
  intro existing name value hok _ _
  have hcheck : checkUpdate {} twoTokens (some 1) (some ⟨lit "c", some (lit "k3")⟩) =
      .ok (⟨1, lit "a", lit "k1", some 1, true, [], none⟩, lit "c", lit "k3") := rfl
  cases hcheck.symm.trans hok
  exact ⟨fun h => absurd h (by decide), fun _ _ h => absurd h (by decide)⟩

/-- The value belongs to the other token: the answer is an error, and the name is new. -/
theorem renamed_by_refused_update :
    let site : Site := ⟨twoTokens, {}, by decide⟩
    let result := updateToken {} default site (some 1) (some ⟨lit "c", some (lit "k2")⟩)
    twoTokens.UniqueTokens ∧ site.Current ∧ result.2 = .error internalError ∧
      (result.1.db.accessTokens.find? 1).map (fun t => (t.name, t.token)) =
        some (lit "c", lit "k1") ∧
      ¬AllOrNothing twoTokens result.1.db (some 1) (some ⟨lit "c", some (lit "k2")⟩) result.2 := by
  refine ⟨unique_twoTokens, current_twoTokens, rfl, rfl, ?_⟩
  have hrow : (some 1).bind twoTokens.accessTokens.find? =
      some ⟨1, lit "a", lit "k1", some 1, true, [], none⟩ := rfl
  have hrow' : (updateToken {} default ⟨twoTokens, {}, by decide⟩ (some 1)
      (some ⟨lit "c", some (lit "k2")⟩)).1.db.accessTokens.find? 1 =
        some ⟨1, lit "c", lit "k1", some 1, true, (default : Clock).datetime, none⟩ := rfl
  exact mt (allOrNothing_renamed_iff _ hrow rfl rfl hrow' rfl rfl).mp (by decide)

end Lune.Admin
