import Lune.Lib.GoJson

/-!
# Request bodies

`internal/gateway/body.go` and `internal/gateway/usage.go`: the request body
kept for replay, the two fields that are read from it, and the token counts in
a response.
-/

namespace Lune.Gateway

open GoText GoJson

/-! ## The replay body -/

/-- What reading the request body delivers: bytes, and then the end or an
error. -/
structure BodyStream where
  data : Str
  fails : Bool := false

/-- `ReplayBody`. -/
structure ReplayBody where
  data : Str
  onDisk : Bool := false
deriving Inhabited

/-- Why there is no replay body. -/
inductive BodyError where
  | tooLarge
  | other
deriving DecidableEq

/-- `NewReplayBody`.  `disk` says whether the temporary file can be written. -/
def newReplayBody (stream : BodyStream) (maxBytes memoryBytes : Nat) (disk : Bool) :
    Except BodyError ReplayBody :=
  let maxBytes := if maxBytes = 0 then 1 else maxBytes
  let memoryBytes := if memoryBytes = 0 then maxBytes else memoryBytes
  let size := stream.data.length
  let head := min (maxBytes + 1) (memoryBytes + 1)
  if stream.fails ∧ size < head then .error .other
  else if maxBytes < min size head then .error .tooLarge
  else if min size head ≤ memoryBytes then .ok { data := stream.data.take head }
  else if !disk then .error .other
  else if stream.fails ∧ size < maxBytes + 1 then .error .other
  else if maxBytes < size then .error .tooLarge
  else .ok { data := stream.data, onDisk := true }

/-- `Reader`: a body in memory can always be read; `opens` is for one on disk. -/
def ReplayBody.reader (body : ReplayBody) (opens : Bool) : Option Str :=
  if !body.onDisk || opens then some body.data else none

/-! ## The envelope -/

/-- `requestEnvelope`. -/
structure RequestEnvelope where
  model : Str := []
  stream : Bool := false
deriving Inhabited

/-- A field of the request; `none` when `model` or `stream` has another type.
`null` leaves a field as it is. -/
def RequestEnvelope.field (env : RequestEnvelope) (key : Str) (x : Json) :
    Option RequestEnvelope :=
  if key = lit "model" then
    match x with
    | .str s => some { env with model := s }
    | .null => some env
    | _ => none
  else if key = lit "stream" then
    match x with
    | .bool b => some { env with stream := b }
    | .null => some env
    | _ => none
  else some env

/-- The loop of `ParseRequestEnvelope` over the fields.  The decoder reads token
by token, so no depth is too deep; `left` bounds the number of fields. -/
def envelopeFields (env : RequestEnvelope) (s : Str) : Nat → Option RequestEnvelope
  | 0 => none
  | left + 1 =>
    match skipSpace s with
    | 34 :: rest =>
      match quoted rest with
      | none => none
      | some (key, rest) =>
        match skipSpace rest with
        | 58 :: rest =>
          match value true (enough rest) rest.length rest with
          | none => none
          | some (x, rest) =>
            match env.field (unquote 0 key) x with
            | none => none
            | some env =>
              match skipSpace rest with
              | 44 :: rest => envelopeFields env rest left
              | 125 :: _ => some env
              | _ => none
        | _ => none
    | _ => none

/-- `ParseRequestEnvelope`, on the bytes of the body.  What follows the object
is not looked at. -/
def parseRequestEnvelope (s : Str) : Option RequestEnvelope :=
  match skipSpace s with
  | 123 :: rest =>
    match skipSpace rest with
    | 125 :: _ => some {}
    | _ => envelopeFields {} rest rest.length
  | _ => none

/-! ## Usage -/

/-- `Usage`. -/
structure Usage where
  inputTokens : Int := 0
  outputTokens : Int := 0
deriving DecidableEq, Inhabited

/-- The fields of a `usage` object. -/
structure UsageFields where
  promptTokens : Int := 0
  completionTokens : Int := 0
  inputTokens : Int := 0
  outputTokens : Int := 0

/-- An `int64` field; `none` is a type error. -/
def intField (old : Int) : Json → Option Int
  | .num text => atoi text
  | .null => some old
  | _ => none

/-- A field of a `usage` object.  Go matches the names of fields without their
case. -/
def UsageFields.field (u : UsageFields) (f : Str × Json) : Option UsageFields :=
  let (key, x) := f
  if equalFold key (lit "prompt_tokens") then
    (intField u.promptTokens x).map fun n => { u with promptTokens := n }
  else if equalFold key (lit "completion_tokens") then
    (intField u.completionTokens x).map fun n => { u with completionTokens := n }
  else if equalFold key (lit "input_tokens") then
    (intField u.inputTokens x).map fun n => { u with inputTokens := n }
  else if equalFold key (lit "output_tokens") then
    (intField u.outputTokens x).map fun n => { u with outputTokens := n }
  else some u

/-- A pointer to `usage` fields: `null` clears it, and a second object goes into
the first. -/
def usagePointer (old : Option UsageFields) : Json → Option (Option UsageFields)
  | .null => some none
  | .obj fields => (fields.foldlM UsageFields.field (old.getD {})).map some
  | _ => none

/-- The pointer `Response`, of which only `usage` is read. -/
def responsePointer (old : Option (Option UsageFields)) :
    Json → Option (Option (Option UsageFields))
  | .null => some none
  | .obj fields =>
    (fields.foldlM (fun u f => if equalFold f.1 (lit "usage") then usagePointer u f.2 else some u)
      (old.getD none)).map some
  | _ => none

/-- A field of the body: `Usage` or `Response`. -/
def bodyUsageField (u : Option UsageFields × Option (Option UsageFields)) (f : Str × Json) :
    Option (Option UsageFields × Option (Option UsageFields)) :=
  if equalFold f.1 (lit "usage") then (usagePointer u.1 f.2).map fun p => (p, u.2)
  else if equalFold f.1 (lit "response") then (responsePointer u.2 f.2).map fun p => (u.1, p)
  else some u

/-- `ParseUsageFromBody` and `ParseUsageFromSSEChunk`. -/
def parseUsageFromBody (body : Str) : Usage :=
  let parsed : Option UsageFields :=
    match unmarshal false body with
    | some (.obj fields) =>
      match fields.foldlM bodyUsageField (none, none) with
      | some (usage, response) => usage.or (response.getD none)
      | none => none
    | _ => none
  match parsed with
  | none => {}
  | some u =>
    { inputTokens := if u.promptTokens = 0 then u.inputTokens else u.promptTokens
      outputTokens := if u.completionTokens = 0 then u.outputTokens else u.completionTokens }

end Lune.Gateway
