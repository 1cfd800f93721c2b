import Lune.Cpa.AuthFile
import Lune.Lib.JsonIndent

/-!
# A credential file is read back as it was written

`WriteAuthFile` marshals the nine fields of a credential over eleven lines, and `ReadAuthFile`
gets the same fields from them.  Bytes that are no UTF-8 come back as the replacement character.
-/

namespace Lune.Cpa

open GoText GoJson Lune.Health

/-- The object that is written. -/
def authFields (f : CpaAuthFile) : List (Str × Json) :=
  [(lit "access_token", .str f.accessToken), (lit "refresh_token", .str f.refreshToken),
    (lit "id_token", .str f.idToken), (lit "account_id", .str f.accountID),
    (lit "email", .str f.email), (lit "disabled", .bool f.disabled),
    (lit "expired", .str f.expired), (lit "last_refresh", .str f.lastRefresh),
    (lit "type", .str f.type)]

/-- The credential with its texts as UTF-8. -/
def validAuthFile (f : CpaAuthFile) : CpaAuthFile where
  accessToken := toValid 0 f.accessToken
  refreshToken := toValid 0 f.refreshToken
  idToken := toValid 0 f.idToken
  accountID := toValid 0 f.accountID
  email := toValid 0 f.email
  disabled := f.disabled
  expired := toValid 0 f.expired
  lastRefresh := toValid 0 f.lastRefresh
  type := toValid 0 f.type

theorem marshalIndent_encode (f : Str × Json) (fs : List (Str × Json)) :
    marshalIndent ((f :: fs).map fun f => (f.1, encode f.2)) = encodeIndent (f :: fs) := by
  have hopen : lit "\x7b\n" = [123, 10] := by decide
  have hclose : lit "\n\x7d" = [10, 125] := by decide
  have hnext : lit ",\n" = [44, 10] := by decide
  have hindent : lit "  " = [32, 32] := by decide
  have hcolon : lit ": " = [58, 32] := by decide
  have hlines : ∀ f : Str × Json, [44, 10].intercalate
      (((f :: fs).map fun f => (f.1, encode f.2)).map fun f =>
        [32, 32] ++ quote f.1 ++ [58, 32] ++ f.2) ++ [10, 125] = indentMembers (f :: fs) := by
    induction fs with
    | nil =>
      rintro ⟨key, x⟩
      simp [indentMembers]
    | cons g fs ih =>
      rintro ⟨key, x⟩
      rw [indentMembers, ← ih g]
      simp
  unfold marshalIndent encodeIndent
  rw [hopen, hclose, hnext, hindent, hcolon, List.append_assoc, hlines]
  rfl

theorem marshalAuthFile_eq (f : CpaAuthFile) : marshalAuthFile f = encodeIndent (authFields f) := by
  rw [authFields, ← marshalIndent_encode]
  cases f with
  | mk _ _ _ _ _ disabled _ _ _ => cases disabled <;> rfl

theorem validMembers_authFields (f : CpaAuthFile) :
    validMembers (authFields f) = authFields (validAuthFile f) := rfl

theorem readAuthFields_authFields (f : CpaAuthFile) : readAuthFields (authFields f) = some f := rfl

/-- `ReadAuthFile` of what `WriteAuthFile` writes. -/
theorem unmarshalAuthFile_marshalAuthFile (f : CpaAuthFile) :
    unmarshalAuthFile (marshalAuthFile f) = some (validAuthFile f) := by
  have hfits : fitsMembers (authFields f) (maxNestingDepth - 1) := by
    simp [authFields, fitsMembers, fits]
  have hread : unmarshal false (marshalAuthFile f) = some (.obj (authFields (validAuthFile f))) := by
    rw [marshalAuthFile_eq, ← validMembers_authFields]
    exact unmarshal_encodeIndent hfits
  rw [unmarshalAuthFile, hread]
  exact readAuthFields_authFields (validAuthFile f)

end Lune.Cpa
