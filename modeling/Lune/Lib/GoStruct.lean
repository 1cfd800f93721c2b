import Lune.Lib.GoJson

/-!
# Objects read into structs

How `json.Unmarshal` sets the fields of a struct: a key belongs to the field whose name
it folds to, `null` changes nothing, and of several keys of a field the last one counts.
A value of another kind makes the whole of it fail.
-/

namespace GoJson

open GoText

/-- The values that an object has for a field, in order. -/
def fieldValues (fields : List (Str × Json)) (name : Str) : List Json :=
  (fields.filter fun f => equalFold f.1 name).map Prod.snd

/-- A field that is read by `read`; it starts with its zero value. -/
def readField {α : Type} (read : Json → Option α) (zero : α) (fields : List (Str × Json))
    (name : Str) : Option α :=
  (fieldValues fields name).foldlM (fun old v => match v with
    | .null => some old
    | v => read v) zero

/-- A field of type `string`. -/
def stringField (fields : List (Str × Json)) (name : Str) : Option Str :=
  readField (fun v => match v with
    | .str s => some s
    | _ => none) [] fields name

/-- A field of type `bool`. -/
def boolField (fields : List (Str × Json)) (name : Str) : Option Bool :=
  readField (fun v => match v with
    | .bool b => some b
    | _ => none) false fields name

/-- A field of type `int` or `int64`. -/
def intField (fields : List (Str × Json)) (name : Str) : Option Int :=
  readField (fun v => match v with
    | .num text => atoi text
    | _ => none) 0 fields name

end GoJson
