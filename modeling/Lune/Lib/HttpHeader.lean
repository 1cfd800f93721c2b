import Lune.Lib.GoText
import Lune.Lib.Keyed

/-!
# HTTP headers

`http.Header` of Go: a map from canonical names to values.  The operations
canonicalize the name they are given.
-/

namespace HttpHeader

open GoText Keyed

/-- `http.Header`. -/
abbrev Header := GoMap Str (List Str)

/-- A byte that may stand in the name of a field. -/
def validHeaderFieldByte (b : UInt8) : Bool :=
  isDigit b || (97 ≤ b && b ≤ 122) || (65 ≤ b && b ≤ 90) || (lit "!#$%&'*+-.^_|~").contains b || b == 96

/-- Capitals at the start and after a hyphen, small letters elsewhere. -/
def capitalize (upper : Bool) : Str → Str
  | [] => []
  | b :: rest =>
    (if upper && 97 ≤ b && b ≤ 122 then b - 32
      else if !upper && 65 ≤ b && b ≤ 90 then b + 32 else b) :: capitalize (b == 45) rest

/-- `http.CanonicalHeaderKey`. -/
def canonicalHeaderKey (key : Str) : Str :=
  if key.all validHeaderFieldByte then capitalize true key else key

/-- `h.Add`. -/
def add (h : Header) (key value : Str) : Header := h.push (canonicalHeaderKey key) value

/-- `h.Set`. -/
def set (h : Header) (key value : Str) : Header := h.put (canonicalHeaderKey key) [value]

/-- `h.Del`. -/
def del (h : Header) (key : Str) : Header := h.erase (canonicalHeaderKey key)

/-- `h.Values`. -/
def values (h : Header) (key : Str) : List Str := (h.get? (canonicalHeaderKey key)).getD []

/-- `h.Get`. -/
def get (h : Header) (key : Str) : Str := (values h key).head?.getD []

/-- Add the values of every field of `src` whose name is not to be left out. -/
def copy (leaveOut : Str → Bool) (src dst : Header) : Header :=
  src.rows.foldl
    (fun h field => if leaveOut field.1 then h else field.2.foldl (fun h v => add h field.1 v) h)
    dst

@[simp] theorem values_empty (key : Str) : values Table.empty key = [] := rfl

theorem values_set (h : Header) (key key' value : Str) :
    values (set h key value) key' =
      if canonicalHeaderKey key = canonicalHeaderKey key' then [value] else values h key' := by
  simp only [values, set, GoMap.get?_put]
  split <;> rfl

end HttpHeader
