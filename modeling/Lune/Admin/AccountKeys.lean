import Lune.Admin.Reimport
import Lune.Admin.VaultSteps
import Lune.Lib.LetterCase

/-!
# The keys of accounts

`parseUploadedAuthJSON` and `uploadedAuthAccountKey` of `internal/admin/handler.go`, and
when an upload and a device login give one account the same key.
-/

namespace Lune.Admin

open GoText GoJson Keyed Scripts Lune.Store Lune.Health Lune.Cpa

/-! ## Uploads -/

/-- `validateGeneratedAccountKey`. -/
def validateGeneratedAccountKey (key : Str) : Bool :=
  !(isBlank key || contains key (lit "/") || contains key (lit "\\") || contains key (lit ".."))

/-- The plan of a pair of tokens, as `uploadedAuthAccountKey` takes it. -/
def uploadedPlan (f : CpaAuthFile) : Str :=
  match parseAccountInfoFromTokens f.idToken f.accessToken with
  | some info => if isBlank info.planType then lit "unknown" else trimSpace info.planType
  | none => lit "unknown"

/-- What `uploadedAuthAccountKey` tells the accounts of a provider apart by. -/
def uploadedIdentity (m : CaseMap) (f : CpaAuthFile) : Str :=
  let identity := m.toLower (trimSpace f.email)
  if identity = [] then trimSpace f.accountID else identity

/-- `uploadedAuthAccountKey`. -/
def uploadedAuthAccountKey (m : CaseMap) (f : CpaAuthFile) : Str :=
  m.toLower (f.type ++ lit "-" ++ uploadedIdentity m f ++ lit "-" ++ uploadedPlan f)

/-- The provider that a file without a type may name. -/
def providerField (fields : List (Str × Json)) : Str := (claimString fields (lit "provider")).getD []

/-- The fields of an upload as they are used. -/
def normalizedUpload (m : CaseMap) (fields : List (Str × Json)) (f : CpaAuthFile) : CpaAuthFile :=
  { f with
    type := m.toLower (trimSpace (if f.type = [] then providerField fields else f.type))
    email := trimSpace f.email
    accountID := trimSpace f.accountID
    refreshToken := trimSpace f.refreshToken
    accessToken := trimSpace f.accessToken
    idToken := trimSpace f.idToken }

/-- What the tokens of an upload add to it. -/
def completedUpload (f : CpaAuthFile) : CpaAuthFile :=
  match parseAccountInfoFromTokens f.idToken f.accessToken with
  | some info =>
    { f with
      email := if f.email = [] then info.email else f.email
      accountID := if f.accountID = [] then info.accountID else f.accountID }
  | none => f

/-- The checks of the fields of an upload. -/
def checkedUpload (f : CpaAuthFile) : Option CpaAuthFile :=
  if f.type ≠ lit "codex" ∨ f.refreshToken = [] ∨ (f.accessToken = [] ∧ f.idToken = []) then none
  else if (completedUpload f).email = [] ∧ (completedUpload f).accountID = [] then none
  else some (completedUpload f)

/-- An upload and its key. -/
def keyedUpload (m : CaseMap) (f : CpaAuthFile) : Option (CpaAuthFile × Str) :=
  if validateGeneratedAccountKey (uploadedAuthAccountKey m f) then
    some (f, uploadedAuthAccountKey m f)
  else none

/-- `parseUploadedAuthJSON`, without the texts of its errors. -/
def parseUploadedAuthJSON (m : CaseMap) (data : Str) : Option (CpaAuthFile × Str) :=
  if hasPrefix (trimSpace data) (lit "[") then none
  else
    match unmarshal false data, unmarshalAuthFile data with
    | some (.obj fields), some f =>
      if fields.isEmpty || (field? fields (lit "sessions")).isSome then none
      else (checkedUpload (normalizedUpload m fields f)).bind (keyedUpload m)
    | _, _ => none

variable {m : CaseMap}

theorem type_of_checkedUpload {f g : CpaAuthFile} (h : checkedUpload f = some g) :
    g.type = lit "codex" := by
  have htype : (completedUpload f).type = f.type := by
    unfold completedUpload
    split
    · rfl
    · rfl
  unfold checkedUpload at h
  split at h
  · contradiction
  next hfields =>
    split at h
    · contradiction
    · rw [← Option.some.inj h, htype]
      exact not_not.mp (not_or.mp hfields).1

/-- What `parseUploadedAuthJSON` makes sure of. -/
theorem of_parseUploadedAuthJSON {data : Str} {f : CpaAuthFile} {accountKey : Str}
    (h : parseUploadedAuthJSON m data = some (f, accountKey)) :
    f.type = lit "codex" ∧ accountKey = uploadedAuthAccountKey m f ∧
      validateGeneratedAccountKey accountKey = true := by
  unfold parseUploadedAuthJSON at h
  split at h
  · contradiction
  split at h
  next fields file _ _ =>
    split at h
    · contradiction
    obtain ⟨g, hg, hkeyed⟩ := Option.bind_eq_some_iff.mp h
    unfold keyedUpload at hkeyed
    split at hkeyed
    next hvalid =>
      obtain ⟨hfile, hkey⟩ := Prod.mk.inj (Option.some.inj hkeyed)
      rw [hkey] at hvalid
      rw [hfile] at hg hkey
      exact ⟨type_of_checkedUpload hg, hkey.symm, hvalid⟩
    · contradiction
  · contradiction

theorem validateAccountKey_of_generated {key : Str} (h : validateGeneratedAccountKey key = true) :
    validateAccountKey key = true := by
  unfold validateGeneratedAccountKey at h
  unfold validateAccountKey
  cases key with
  | nil => exact absurd h (by decide)
  | cons b rest => grind

/-! ## The two keys -/

/-- A text without capitals and without white space around it. -/
def Canonical (m : CaseMap) (s : Str) : Prop := s = m.toLower (trimSpace s)

instance (m : CaseMap) (s : Str) : Decidable (Canonical m s) :=
  inferInstanceAs (Decidable (s = m.toLower (trimSpace s)))

theorem canonical_iff {s : Str} : Canonical m s ↔ m.toLower s = s ∧ trimSpace s = s := by
  constructor
  · intro h
    have hlower : m.toLower s = s := by
      rw [h]
      exact CaseMap.toLower_toLower (trimSpace s)
    refine ⟨hlower, ?_⟩
    rw [Canonical, CaseMap.fixed_trimSpace hlower] at h
    exact h.symm
  · rintro ⟨hlower, htrim⟩
    rw [Canonical, htrim, hlower]

/-- The plan claim of an upload. -/
def planClaim (f : CpaAuthFile) : Str :=
  ((parseAccountInfoFromTokens f.idToken f.accessToken).map AccountInfo.planType).getD []

theorem uploadedPlan_eq (f : CpaAuthFile) :
    uploadedPlan f = if isBlank (planClaim f) then lit "unknown" else trimSpace (planClaim f) := by
  unfold uploadedPlan planClaim
  cases parseAccountInfoFromTokens f.idToken f.accessToken with
  | none => rfl
  | some info => rfl

/-- The key of an upload, part by part. -/
theorem uploadedAuthAccountKey_eq {f : CpaAuthFile} (htype : f.type = lit "codex") :
    uploadedAuthAccountKey m f =
      lit "codex-" ++ (m.toLower (uploadedIdentity m f) ++ 45 :: m.toLower (uploadedPlan f)) := by
  have hdash : ∀ t, m.toLower (45 :: t) = 45 :: m.toLower t := CaseMap.toLower_cons (by decide)
  have hprefix : m.toLower (lit "codex") = lit "codex" :=
    CaseMap.toLower_ascii (by decide +kernel)
  have hsplit : f.type ++ lit "-" ++ uploadedIdentity m f ++ lit "-" ++ uploadedPlan f =
      lit "codex" ++ 45 :: (uploadedIdentity m f ++ 45 :: uploadedPlan f) := by
    rw [htype, List.append_assoc, List.append_assoc, List.append_assoc]
    rfl
  rw [uploadedAuthAccountKey, hsplit, CaseMap.toLower_append (by decide), hprefix, hdash,
    CaseMap.toLower_append (by decide), hdash]
  rfl

/-- The last byte of white space is not that of "unknown". -/
theorem blank_ne_unknown {s : Str} (hblank : isBlank s = true) (hne : s ≠ []) (left right : Str) :
    left ++ s ≠ right ++ lit "unknown" := by
  intro h
  obtain ⟨us, vs, hus, hvs, heq⟩ := exists_trimSpace s
  have htrim : trimSpace s = [] := eq_of_beq hblank
  rw [htrim, List.nil_append, ← List.flatten_append] at heq
  have hall : ∀ u ∈ us ++ vs, u ∈ spaces := by
    intro u hu
    rcases List.mem_append.mp hu with hu | hu
    · exact hus u hu
    · exact hvs u hu
  cases hlast : (us ++ vs).reverse with
  | nil =>
    rw [List.reverse_eq_nil_iff.mp hlast] at heq
    exact hne heq
  | cons u rest =>
    have hsplit := List.reverse_eq_cons_iff.mp hlast
    have hu : u ∈ spaces := hall u (by rw [hsplit]; exact List.mem_append_right _ List.mem_cons_self)
    have hbyte : ∀ u ∈ spaces, u ≠ [] ∧ u.getLast? ≠ some 110 := by decide
    rw [heq, hsplit, List.flatten_append, List.flatten_cons, List.flatten_nil, List.append_nil] at h
    have hends := congrArg List.getLast? h
    rw [List.getLast?_append_of_ne_nil _ (by simp [(hbyte u hu).1]),
      List.getLast?_append_of_ne_nil _ (hbyte u hu).1,
      List.getLast?_append_of_ne_nil _ (by decide)] at hends
    exact (hbyte u hu).2 hends

section Keys

variable {login : Login} {info : AccountInfo} {f : CpaAuthFile}

/-- The plan in the key of a login. -/
def loginPlan (info : AccountInfo) : Str :=
  if info.planType = [] then lit "unknown" else info.planType

theorem accountKey_eq (hprovider : login.providerName = lit "codex") :
    login.accountKey info = lit "codex-" ++ (info.email ++ 45 :: loginPlan info) := by
  rw [Login.accountKey, hprovider, List.append_assoc, List.append_assoc, List.append_assoc]
  rfl

/-- An email that is all white space is not in the key of an upload. -/
theorem blank_ne_upload (hblank : trimSpace info.email = []) (hinfo : info.email ≠ [])
    (hemail : m.toLower (trimSpace f.email) = m.toLower (trimSpace info.email)) (left right : Str) :
    info.email ++ left ≠ m.toLower (uploadedIdentity m f) ++ 45 :: right := by
  intro h
  have hidentity : uploadedIdentity m f = trimSpace f.accountID := by
    rw [uploadedIdentity, hemail, hblank]
    rfl
  obtain ⟨us, vs, hus, hvs, heq⟩ := exists_trimSpace info.email
  rw [hblank, List.nil_append, ← List.flatten_append] at heq
  have hfirst : ∃ u ∈ spaces, ∃ rest, info.email = u ++ rest := by
    cases hunits : us ++ vs with
    | nil =>
      rw [hunits] at heq
      exact absurd heq hinfo
    | cons u rest =>
      rw [hunits, List.flatten_cons] at heq
      refine ⟨u, ?_, _, heq⟩
      have hu : u ∈ us ++ vs := by
        rw [hunits]
        exact List.mem_cons_self
      rcases List.mem_append.mp hu with hu | hu
      · exact hus u hu
      · exact hvs u hu
  obtain ⟨u, hu, rest, hrest⟩ := hfirst
  obtain ⟨b, more, rfl, hrune, -⟩ := CaseMap.isRune_of_space hu
  have hb : ∀ u ∈ spaces, 45 ∉ u := by decide
  rw [hrest, hidentity, List.append_assoc] at h
  -- the identity starts with white space, or the white space has the dash in it
  rcases List.append_eq_append_iff.mp h with ⟨extra, hlower, -⟩ | ⟨extra, hspace, hextra⟩
  · obtain ⟨v, hv, hprefix⟩ := CaseMap.exists_space_of_toLower hu hlower
    exact not_prefix_trimSpace f.accountID hv hprefix
  · cases extra with
    | nil =>
      rw [List.append_nil] at hspace
      obtain ⟨v, hv, hprefix⟩ := CaseMap.exists_space_of_toLower (m := m) (r := []) hu
        (by rw [← hspace, List.append_nil])
      exact not_prefix_trimSpace f.accountID hv hprefix
    | cons c extra =>
      have hc : c = 45 := (List.cons.inj hextra).1.symm
      refine hb _ hu ?_
      rw [hspace, hc]
      exact List.mem_append_right _ List.mem_cons_self

/-- For one email, up to capitals and white space around it, and one plan, the two keys are
the same exactly when the claims of the login have neither. -/
theorem accountKey_eq_iff (hprovider : login.providerName = lit "codex") (hinfo : info.email ≠ [])
    (htype : f.type = lit "codex")
    (hemail : m.toLower (trimSpace f.email) = m.toLower (trimSpace info.email))
    (hplan : planClaim f = info.planType) :
    login.accountKey info = uploadedAuthAccountKey m f ↔
      Canonical m info.email ∧ Canonical m info.planType := by
  have hunknown : m.toLower (lit "unknown") = lit "unknown" :=
    CaseMap.toLower_ascii (by decide +kernel)
  have hdash : isTail 45 = false := by decide
  rw [accountKey_eq hprovider, uploadedAuthAccountKey_eq htype, List.append_right_inj, uploadedPlan_eq,
    hplan]
  by_cases hblank : trimSpace info.email = []
  · constructor
    · intro h
      exact absurd h (blank_ne_upload hblank hinfo hemail _ _)
    · rintro ⟨hcanonical, -⟩
      rw [Canonical, hblank] at hcanonical
      exact absurd hcanonical hinfo
  have hidentity : uploadedIdentity m f = m.toLower (trimSpace info.email) := by
    rw [uploadedIdentity, hemail, if_neg (mt CaseMap.toLower_eq_nil.mp hblank)]
  rw [hidentity, CaseMap.toLower_toLower]
  have hcons : ∀ t, m.toLower (45 :: t) = 45 :: m.toLower t := CaseMap.toLower_cons (by decide)
  constructor
  · intro h
    -- the key of the upload is in lower case, so the parts of the other one are
    have hfixed : m.toLower (info.email ++ 45 :: loginPlan info) =
        info.email ++ 45 :: loginPlan info := by
      rw [h, CaseMap.toLower_append hdash, hcons, CaseMap.toLower_toLower, CaseMap.toLower_toLower]
    obtain ⟨hlower, hrest⟩ := CaseMap.fixed_of_append hdash hfixed
    rw [hcons] at hrest
    have hloginPlan := (List.cons.inj hrest).2
    rw [CaseMap.fixed_trimSpace hlower] at h
    have hemailLength := length_trimSpace_le info.email
    rw [canonical_iff, canonical_iff]
    by_cases hnone : info.planType = []
    · have hblankPlan : isBlank info.planType = true := by
        rw [hnone]
        rfl
      rw [loginPlan, if_pos hnone, if_pos hblankPlan, hunknown] at h
      refine ⟨⟨hlower, (List.append_cancel_right h).symm⟩, ?_, ?_⟩
      · rw [hnone]
        rfl
      · rw [hnone]
        rfl
    rw [loginPlan, if_neg hnone] at h hloginPlan
    by_cases hblankPlan : isBlank info.planType = true
    · rw [if_pos hblankPlan, hunknown] at h
      refine absurd ?_ (blank_ne_unknown hblankPlan hnone (info.email ++ [45])
        (trimSpace info.email ++ [45]))
      rw [List.append_assoc, List.append_assoc]
      exact h
    · rw [if_neg hblankPlan, CaseMap.fixed_trimSpace hloginPlan] at h
      have hplanLength := length_trimSpace_le info.planType
      have hlength := congrArg List.length h
      simp only [List.length_append, List.length_cons] at hlength
      exact ⟨⟨hlower, trimSpace_eq_of_length (by omega)⟩, hloginPlan,
        trimSpace_eq_of_length (by omega)⟩
  · rintro ⟨hcanonical, hcanonicalPlan⟩
    rw [← hcanonical]
    by_cases hnone : info.planType = []
    · have hblankPlan : isBlank info.planType = true := by
        rw [hnone]
        rfl
      rw [loginPlan, if_pos hnone, if_pos hblankPlan, hunknown]
    · have hblankPlan : ¬isBlank info.planType = true := by
        intro hblankPlan
        rw [Canonical, eq_of_beq hblankPlan] at hcanonicalPlan
        exact hnone hcanonicalPlan
      rw [loginPlan, if_neg hnone, if_neg hblankPlan, ← hcanonicalPlan]

end Keys

/-! ## One account -/

/-- Of the keys, there is one row and one file. -/
structure OneIdentity (svc : CpaService) (keys : List Str) (v : Vault) : Prop where
  row : (v.db.accounts.rows.countP fun a => keys.any fun key => Database.hasKey svc.id key a) = 1
  file : (v.dir.rows.countP fun file => keys.any fun key => file.1 = fileName key) = 1

/-- A device login and an upload. -/
structure TwoWays where
  login : Login
  loginEnv : StoreEnv
  data : Str
  label : Str
  enabled : Bool
  notes : Str
  poolID : Int
  uploadEnv : StoreEnv

/-- The state after the login. -/
def TwoWays.afterLogin (w : TwoWays) (t : Tokens) (svc : CpaService) (v : Vault) : Vault :=
  ((finalizeLogin noFault t svc w.login).run w.loginEnv v).2

/-- The state after the upload. -/
def TwoWays.afterUpload (w : TwoWays) (t : Tokens) (f : CpaAuthFile) (accountKey : Str) (v : Vault) :
    Vault :=
  ((importCpaAuthJSON noFault t f accountKey w.label w.enabled w.notes w.poolID).run w.uploadEnv v).2

/-- The service and the pools that the requests name are there, and the service has the key
at most once. -/
structure TwoWays.Ready (w : TwoWays) (svc : CpaService) (accountKey : Str) (v : Vault) : Prop where
  service : v.db.cpaServices.rows.head? = some svc
  loginPool : 0 < w.login.poolID → (v.db.pools.find? w.login.poolID).isSome = true
  poolID : w.poolID ≠ 0
  pool : (v.db.pools.find? w.poolID).isSome = true
  once : v.db.keyCount svc.id accountKey ≤ 1

section OneAccount

variable {t : Tokens} {svc : CpaService} {w : TwoWays} {v u : Vault} {accountKey data : Str}
  {f : CpaAuthFile} {info : AccountInfo}

theorem TwoWays.Ready.imported (h : w.Ready svc accountKey v)
    (himport : Imported svc accountKey data v u) :
    w.Ready svc accountKey u ∧ OneIdentity svc [accountKey, accountKey] u := by
  have hcount : u.db.keyCount svc.id accountKey = 1 := by
    have hmax := himport.count
    have honce := h.once
    omega
  refine ⟨⟨?_, ?_, h.poolID, ?_, by omega⟩, ?_, ?_⟩
  · rw [himport.services]
    exact h.service
  · rw [himport.pools]
    exact h.loginPool
  · rw [himport.pools]
    exact h.pool
  · simp only [List.any_cons, List.any_nil, Bool.or_false, Bool.or_self]
    exact hcount
  · simp only [List.any_cons, List.any_nil, Bool.or_false, Bool.or_self]
    have hfile : u.dir.get? (fileName accountKey) = some data := by
      rw [himport.dir, get?_written, if_neg (tempName_ne_fileName accountKey).symm, if_pos rfl]
    obtain ⟨file, hfind, -⟩ := Option.map_eq_some_iff.mp hfile
    have hfilter := congrArg List.length (Table.filter_key u.dir (fileName accountKey))
    rw [hfind, ← List.countP_eq_length_filter] at hfilter
    exact hfilter

theorem TwoWays.Ready.afterLogin (h : w.Ready svc accountKey v)
    (hlogin : parseAccountInfoFromTokens w.login.idToken w.login.accessToken = some info)
    (hkey : w.login.accountKey info = accountKey) (hvalid : validateAccountKey accountKey = true) :
    w.Ready svc accountKey (w.afterLogin t svc v) ∧
      OneIdentity svc [accountKey, accountKey] (w.afterLogin t svc v) := by
  have hthere : (v.db.cpaServices.find? svc.id).isSome = true := by
    rw [Table.find?_of_mem (List.mem_of_mem_head? h.service)]
    rfl
  subst hkey
  exact h.imported (run_finalizeLogin hlogin hvalid hthere h.loginPool)

/-- An upload that is refused changes nothing. -/
theorem TwoWays.Ready.afterUpload (h : w.Ready svc accountKey v) (hdir : t.cpaAuthDir ≠ [])
    (hvalid : validateAccountKey accountKey = true) :
    w.Ready svc accountKey (w.afterUpload t f accountKey v) ∧
      (OneIdentity svc [accountKey, accountKey] v →
        OneIdentity svc [accountKey, accountKey] (w.afterUpload t f accountKey v)) := by
  have hrun : w.afterUpload t f accountKey v = v ∨
      Imported svc accountKey (marshalAuthFile f) v (w.afterUpload t f accountKey v) :=
    run_importCpaAuthJSON hvalid hdir h.service h.poolID h.pool
  rcases hrun with hsame | himport
  · rw [hsame]
    exact ⟨h, id⟩
  · obtain ⟨hready, hone⟩ := h.imported himport
    exact ⟨hready, fun _ => hone⟩

/-- A device login and an upload for one email, up to capitals and white space around it,
and one plan compute the same key, and leave one row and one file in either order, exactly
when the email and the plan of the login have neither capitals nor white space around them. -/
theorem one_identity_iff (hlogin : parseAccountInfoFromTokens w.login.idToken w.login.accessToken =
      some info) (hprovider : w.login.providerName = lit "codex")
    (hupload : parseUploadedAuthJSON m w.data = some (f, accountKey))
    (hemail : m.toLower (trimSpace f.email) = m.toLower (trimSpace info.email))
    (hplan : planClaim f = info.planType) (hdir : t.cpaAuthDir ≠ [])
    (hready : w.Ready svc accountKey v) :
    (w.login.accountKey info = accountKey ∧
        OneIdentity svc [w.login.accountKey info, accountKey]
          (w.afterUpload t f accountKey (w.afterLogin t svc v)) ∧
        OneIdentity svc [w.login.accountKey info, accountKey]
          (w.afterLogin t svc (w.afterUpload t f accountKey v))) ↔
      Canonical m info.email ∧ Canonical m info.planType := by
  obtain ⟨htype, hkey, hgenerated⟩ := of_parseUploadedAuthJSON hupload
  have hvalid := validateAccountKey_of_generated hgenerated
  have hiff := accountKey_eq_iff hprovider (email_of_parseAccountInfoFromTokens hlogin) htype hemail
    hplan
  rw [← hkey] at hiff
  rw [← hiff]
  refine ⟨fun h => h.1, fun hsame => ?_⟩
  refine ⟨hsame, ?_, ?_⟩
  · obtain ⟨hlogged, hone⟩ := hready.afterLogin (t := t) hlogin hsame hvalid
    rw [hsame]
    exact (hlogged.afterUpload hdir hvalid).2 hone
  · rw [hsame]
    exact ((hready.afterUpload hdir hvalid).1.afterLogin hlogin hsame hvalid).2

end OneAccount

/-! ## A login and an upload of the same tokens -/

theorem forall_byte {P : UInt8 → Prop} (h : ∀ n : Fin 256, P (UInt8.ofNat n)) (b : UInt8) : P b := by
  have hb := h ⟨b.toNat, b.toNat_lt⟩
  rwa [UInt8.ofNat_toNat] at hb

/-- The letters of ASCII in lower case. -/
def asciiLower : Str → Str
  | [b] => [lowerByte b]
  | s => s

theorem asciiLower_rune {b : UInt8} {more : Str} (h : IsRune b more) :
    ∃ c rest, asciiLower (b :: more) = c :: rest ∧ IsRune c rest := by
  cases more with
  | nil =>
    have hb : ∀ b : UInt8, b < 0x80 → lowerByte b < 0x80 := forall_byte (by decide +kernel)
    exact ⟨lowerByte b, [], rfl, isRune_of_lt (hb b (h.ascii.mpr rfl))⟩
  | cons c more => exact ⟨b, c :: more, rfl, h⟩

theorem asciiLower_asciiLower (s : Str) : asciiLower (asciiLower s) = asciiLower s := by
  rcases s with _ | ⟨b, _ | ⟨c, more⟩⟩
  · rfl
  · have hb : ∀ b : UInt8, lowerByte (lowerByte b) = lowerByte b := forall_byte (by decide +kernel)
    exact congrArg (fun b => [b]) (hb b)
  · rfl

theorem asciiLower_space : ∀ u ∈ spaces, asciiLower u = u := by decide

theorem space_of_asciiLower {s : Str} (h : asciiLower s ∈ spaces) : s ∈ spaces := by
  rcases s with _ | ⟨b, _ | ⟨c, more⟩⟩
  · exact h
  · have hb : ∀ b : UInt8, [lowerByte b] ∈ spaces → [b] ∈ spaces := forall_byte (by decide +kernel)
    exact hb b h
  · exact h

/-- The case map that knows the letters of ASCII. -/
def asciiCase : CaseMap where
  lower := asciiLower
  ascii := fun _ _ => rfl
  rune := fun _ _ => asciiLower_rune
  idempotent := fun _ _ _ => asciiLower_asciiLower _
  space := asciiLower_space
  spaceOnly := fun _ _ _ => space_of_asciiLower
  error := rfl

/-- The claims `\x7b"email":"a@b.c"\x7d`. -/
def plainToken : Str := lit "h.eyJlbWFpbCI6ImFAYi5jIn0.s"

/-- The claims `\x7b"email":"A@b.c"\x7d`. -/
def capitalToken : Str := lit "h.eyJlbWFpbCI6IkFAYi5jIn0.s"

/-- A login and an upload that bring one token. -/
def sameToken (token : Str) : TwoWays where
  login := { refreshToken := lit "r", idToken := token }
  loginEnv := ⟨default, fun _ => []⟩
  data := lit "\x7b\"type\":\"codex\",\"refresh_token\":\"r\",\"id_token\":\"" ++ token ++ lit "\"\x7d"
  label := []
  enabled := true
  notes := []
  poolID := 1
  uploadEnv := ⟨default, fun _ => []⟩

/-- A vault without accounts, with a service and a pool. -/
def emptyVault : Vault where
  dir := Table.empty
  db := { cpaServices := Table.empty.set { id := 1 }, pools := Table.empty.set { id := 1 } }

theorem sameToken_ready (token accountKey : Str) :
    (sameToken token).Ready { id := 1 } accountKey emptyVault where
  service := rfl
  loginPool := fun h => absurd h (Int.lt_irrefl 0)
  poolID := Int.one_ne_zero
  pool := rfl
  once := Nat.zero_le 1

/-- The upload that brings a token. -/
def uploadOf (token email : Str) : CpaAuthFile :=
  { refreshToken := lit "r", idToken := token, email := email, type := lit "codex" }

/-- One token, by both ways: one row and one file. -/
theorem same_token_one_identity :
    (sameToken plainToken).login.accountKey ⟨lit "a@b.c", [], [], []⟩ =
        lit "codex-a@b.c-unknown" ∧
      OneIdentity { id := 1 } [lit "codex-a@b.c-unknown", lit "codex-a@b.c-unknown"]
        ((sameToken plainToken).afterUpload { silentTokens with cpaAuthDir := lit "auth" }
          (uploadOf plainToken (lit "a@b.c")) (lit "codex-a@b.c-unknown")
          ((sameToken plainToken).afterLogin { silentTokens with cpaAuthDir := lit "auth" }
            { id := 1 } emptyVault)) ∧
      OneIdentity { id := 1 } [lit "codex-a@b.c-unknown", lit "codex-a@b.c-unknown"]
        ((sameToken plainToken).afterLogin { silentTokens with cpaAuthDir := lit "auth" } { id := 1 }
          ((sameToken plainToken).afterUpload { silentTokens with cpaAuthDir := lit "auth" }
            (uploadOf plainToken (lit "a@b.c")) (lit "codex-a@b.c-unknown") emptyVault)) :=
  (one_identity_iff (m := asciiCase) (by decide +kernel) rfl (by decide +kernel) rfl
    (by decide +kernel) (by decide) (sameToken_ready _ _)).mpr ⟨by decide +kernel, by decide +kernel⟩

/-- A token with capitals: two keys, two rows and two files. -/
theorem capitals_two_accounts :
    ∃ (m : CaseMap) (t : Tokens) (svc : CpaService) (w : TwoWays) (v : Vault) (info : AccountInfo)
      (f : CpaAuthFile) (accountKey : Str),
      parseAccountInfoFromTokens w.login.idToken w.login.accessToken = some info ∧
      w.login.providerName = lit "codex" ∧
      parseUploadedAuthJSON m w.data = some (f, accountKey) ∧
      m.toLower f.email = m.toLower info.email ∧ planClaim f = info.planType ∧
      t.cpaAuthDir ≠ [] ∧ w.Ready svc accountKey v ∧
      w.login.accountKey info = lit "codex-A@b.c-unknown" ∧ accountKey = lit "codex-a@b.c-unknown" ∧
      (w.afterUpload t f accountKey (w.afterLogin t svc v)).db.accounts.rows.length = 2 ∧
      (w.afterUpload t f accountKey (w.afterLogin t svc v)).dir.rows.length = 2 :=
  ⟨asciiCase, { silentTokens with cpaAuthDir := lit "auth" }, { id := 1 }, sameToken capitalToken,
    emptyVault, ⟨lit "A@b.c", [], [], []⟩, uploadOf capitalToken (lit "A@b.c"),
    lit "codex-a@b.c-unknown", by decide +kernel, rfl, by decide +kernel, by decide +kernel,
    by decide +kernel, by decide, sameToken_ready _ _, by decide +kernel, rfl, by decide +kernel,
    by decide +kernel⟩

end Lune.Admin
