import Lune.Health.Binding
import Lune.Lib.GoStruct
import Lune.Lib.JsonText

/-!
# Credential files and the claims of their tokens

`internal/cpa/authfile.go` and `internal/cpa/jwt.go`: the JSON of a credential file, and
what is read off the claims of a token.
-/

namespace Lune.Cpa

open GoText GoJson Lune.Health

/-! ## The file -/

/-- `validateAccountKey`. -/
def validateAccountKey (key : Str) : Bool :=
  key != [] && !(contains key (lit "/") || contains key (lit "\\") || contains key (lit ".."))

/-- The name of the file of an account key. -/
def fileName (accountKey : Str) : Str := accountKey ++ lit ".json"

/-- The name that the file has while it is written. -/
def tempName (accountKey : Str) : Str := fileName accountKey ++ lit ".tmp"

/-- A bool as `json.Marshal` writes it. -/
def jsonBool (b : Bool) : Str := if b then lit "true" else lit "false"

/-- `json.MarshalIndent` of an object whose values are written already. -/
def marshalIndent (fields : List (Str × Str)) : Str :=
  lit "\x7b\n" ++
    List.intercalate (lit ",\n") (fields.map fun f => lit "  " ++ quote f.1 ++ lit ": " ++ f.2) ++
    lit "\n\x7d"

/-- The bytes that `WriteAuthFile` writes. -/
def marshalAuthFile (f : CpaAuthFile) : Str :=
  marshalIndent [(lit "access_token", quote f.accessToken),
    (lit "refresh_token", quote f.refreshToken), (lit "id_token", quote f.idToken),
    (lit "account_id", quote f.accountID), (lit "email", quote f.email),
    (lit "disabled", jsonBool f.disabled), (lit "expired", quote f.expired),
    (lit "last_refresh", quote f.lastRefresh), (lit "type", quote f.type)]

/-- The fields of a `CpaAuthFile` from an object. -/
def readAuthFields (fields : List (Str × Json)) : Option CpaAuthFile := do
  let accessToken ← stringField fields (lit "access_token")
  let refreshToken ← stringField fields (lit "refresh_token")
  let idToken ← stringField fields (lit "id_token")
  let accountID ← stringField fields (lit "account_id")
  let email ← stringField fields (lit "email")
  let disabled ← boolField fields (lit "disabled")
  let expired ← stringField fields (lit "expired")
  let lastRefresh ← stringField fields (lit "last_refresh")
  let type ← stringField fields (lit "type")
  return { accessToken, refreshToken, idToken, accountID, email, disabled, expired, lastRefresh, type }

/-- `json.Unmarshal` into a `CpaAuthFile`. -/
def unmarshalAuthFile (data : Str) : Option CpaAuthFile :=
  match unmarshal false data with
  | some (.obj fields) => readAuthFields fields
  | some .null => some {}
  | some _ | none => none

/-! ## The claims -/

/-- `AccountInfo`. -/
structure AccountInfo where
  email : Str := []
  planType : Str := []
  accountID : Str := []
  chatGPTSubscriptionActiveUntil : Str := []
deriving DecidableEq

/-- The six bits of a character of the URL alphabet of base64. -/
def sextet (b : UInt8) : Option Nat :=
  if 65 ≤ b ∧ b ≤ 90 then some (b.toNat - 65)
  else if 97 ≤ b ∧ b ≤ 122 then some (b.toNat - 71)
  else if 48 ≤ b ∧ b ≤ 57 then some (b.toNat + 4)
  else if b = 45 then some 62
  else if b = 95 then some 63
  else none

/-- Bytes from groups of four sextets; bits that are left over are dropped. -/
def joinSextets : List Nat → Option Str
  | a :: b :: c :: d :: rest => do
    let tail ← joinSextets rest
    return UInt8.ofNat (a * 4 + b / 16) :: UInt8.ofNat (b % 16 * 16 + c / 4) ::
      UInt8.ofNat (c % 4 * 64 + d) :: tail
  | [a, b, c] => some [UInt8.ofNat (a * 4 + b / 16), UInt8.ofNat (b % 16 * 16 + c / 4)]
  | [a, b] => some [UInt8.ofNat (a * 4 + b / 16)]
  | [_] => none
  | [] => some []

/-- `base64.RawURLEncoding.DecodeString`, which passes over line ends. -/
def decodeRawURL (s : Str) : Option Str :=
  ((s.filter fun b => b != 10 && b != 13).mapM sextet).bind joinSextets

/-- `parseJWTClaims`. -/
def parseJWTClaims (token : Str) : Option (List (Str × Json)) := do
  let rest ← (cut token 46).2
  let payload ← decodeRawURL (cut rest 46).1
  match unmarshal true payload with
  | some (.obj claims) => some claims
  | some .null => some []
  | some _ | none => none

/-- `v, ok := m[key].(string)`. -/
def claimString (claims : List (Str × Json)) (key : Str) : Option Str :=
  match field? claims key with
  | some (.str s) => some s
  | some _ | none => none

/-- `v, ok := m[key].(map[string]any)`. -/
def claimObject (claims : List (Str × Json)) (key : Str) : Option (List (Str × Json)) :=
  match field? claims key with
  | some (.obj fields) => some fields
  | some _ | none => none

/-- The claims of a profile that `extractAccountInfo` takes over. -/
def AccountInfo.withProfile (info : AccountInfo) (profile : List (Str × Json)) : AccountInfo :=
  { info with email := (claimString profile (lit "email")).getD info.email }

/-- The claims of an authorization that `extractAccountInfo` takes over. -/
def AccountInfo.withAuth (info : AccountInfo) (auth : List (Str × Json)) : AccountInfo :=
  { info with
    planType := (claimString auth (lit "chatgpt_plan_type")).getD info.planType
    accountID := (claimString auth (lit "chatgpt_account_id")).getD info.accountID
    chatGPTSubscriptionActiveUntil :=
      (claimString auth (lit "chatgpt_subscription_active_until")).getD
        info.chatGPTSubscriptionActiveUntil }

/-- `extractAccountInfo`. -/
def extractAccountInfo (claims : List (Str × Json)) : AccountInfo :=
  let subject := (claimString claims (lit "sub")).getD []
  let info : AccountInfo :=
    { email := (claimString claims (lit "email")).getD []
      planType := (claimString claims (lit "chatgpt_plan_type")).getD []
      accountID := match claimString claims (lit "chatgpt_account_id") with
        | some accountID => if accountID = [] then subject else accountID
        | none => subject
      chatGPTSubscriptionActiveUntil :=
        (claimString claims (lit "chatgpt_subscription_active_until")).getD [] }
  let info := match claimObject claims (lit "https://api.openai.com/profile") with
    | some profile => info.withProfile profile
    | none => info
  match claimObject claims (lit "https://api.openai.com/auth") with
  | some auth => info.withAuth auth
  | none => info

/-- `ParseAccountInfo`. -/
def parseAccountInfo (token : Str) : Option AccountInfo := do
  let claims ← parseJWTClaims token
  let info := extractAccountInfo claims
  if info.email = [] then none else some info

/-- `ParseAccountInfoFromTokens`, without the texts of its errors. -/
def parseAccountInfoFromTokens (idToken accessToken : Str) : Option AccountInfo :=
  (if isBlank idToken then none else parseAccountInfo idToken) <|>
    (if isBlank accessToken then none else parseAccountInfo accessToken)

theorem email_of_parseAccountInfo {token : Str} {info : AccountInfo}
    (h : parseAccountInfo token = some info) : info.email ≠ [] := by
  unfold parseAccountInfo at h
  obtain ⟨claims, -, hinfo⟩ := Option.bind_eq_some_iff.mp h
  dsimp only at hinfo
  split at hinfo
  · contradiction
  next hemail => exact Option.some.inj hinfo ▸ hemail

/-- What is read off the tokens names an email. -/
theorem email_of_parseAccountInfoFromTokens {idToken accessToken : Str} {info : AccountInfo}
    (h : parseAccountInfoFromTokens idToken accessToken = some info) : info.email ≠ [] := by
  have hone : ∀ {token : Str}, (if isBlank token then none else parseAccountInfo token) =
      some info → info.email ≠ [] := by
    intro token htoken
    split at htoken
    · contradiction
    · exact email_of_parseAccountInfo htoken
  unfold parseAccountInfoFromTokens at h
  cases hid : (if isBlank idToken then none else parseAccountInfo idToken) with
  | none =>
    rw [hid] at h
    exact hone h
  | some first =>
    rw [hid] at h
    exact hone (hid.trans h)

end Lune.Cpa
