import Lune.Health.Refresh
import Lune.Lib.GoStruct

/-!
# The request for the models

`discoverModelsFromURL` of `internal/health/checker.go` up to the store: what an
exchange with the upstream comes to, the text of its error, and the list that is
read off the body.
-/

namespace Lune.Health

open GoText GoJson

/-! ## The exchange -/

/-- What a request for the models comes to.  The body of a response is what
arrives of it, and the error that breaks it off. -/
inductive Exchange where
  | requestError (err : Str)
  | transportError (err : Str)
  | response (statusCode : Int) (body : Str) (readError : Option Str)

/-- `io.ReadAll` of an `io.LimitReader`. -/
def readLimited (limit : Nat) (body : Str) (readError : Option Str) : Str × Option Str :=
  (body.take limit, if limit ≤ body.length then none else readError)

/-- `formatHTTPStatusError`. -/
def formatHTTPStatusError (statusCode : Int) (body : Str) : Str :=
  let msg := lit "HTTP " ++ itoa statusCode
  let bodyText := trimSpace body
  if bodyText = [] then msg else msg ++ lit ": " ++ bodyText.take 240

/-! ## The list -/

/-- The `id` of an element of the list, read over the one that stood there. -/
def readModelID (old : Str) : Json → Option Str
  | .null => some old
  | .obj fields => readField (fun v => match v with
      | .str id => some id
      | _ => none) old fields (lit "id")
  | _ => none

/-- The elements of an array, read over the elements of an earlier one. -/
def readModelIDs : List Json → List Str → Option (List Str)
  | [], old => some old
  | elem :: elems, old => do
    let id ← readModelID (old.headD []) elem
    let ids ← readModelIDs elems old.tail
    return id :: ids

/-- The field `data`, which an object may have several times.  A slice keeps its
memory when a shorter list is read into it, so it is the memory and a length. -/
def readModelData (slice : List Str × Nat) : Json → Option (List Str × Nat)
  | .null | .arr [] => some ([], 0)
  | .arr elems => (readModelIDs elems slice.1).map fun ids => (ids, elems.length)
  | _ => none

/-- `parseModelList`. -/
def parseModelList (body : Str) : List Str :=
  match unmarshal false body with
  | some (.obj fields) =>
    match (fieldValues fields (lit "data")).foldlM readModelData ([], 0) with
    | some (ids, len) => (ids.take len).filter (· ≠ [])
    | none => []
  | _ => []

/-- A body with a model that comes twice and one without an id. -/
example : parseModelList (lit ("\x7b\"data\":[\x7b\"id\":\"a\"\x7d,\x7b\"id\":\"\"\x7d," ++
    "\x7b\"id\":\"a\"\x7d]\x7d")) = [lit "a", lit "a"] := by
  decide +kernel

/-! ## The answer -/

namespace Exchange

/-- The list of models or the text of the error. -/
def answer : Exchange → Except Str (List Str)
  | requestError err | transportError err => .error err
  | response statusCode body readError =>
    if statusCode ≠ 200 then
      .error (formatHTTPStatusError statusCode (readLimited (16 * 1024) body readError).1)
    else
      match readLimited (1024 * 1024) body readError with
      | (_, some err) => .error err
      | (text, none) => .ok (parseModelList text)

/-- The error whose text is not of the checker's own making. -/
def clientError? : Exchange → Option Str
  | requestError err | transportError err => some err
  | response statusCode body readError =>
    if statusCode ≠ 200 then none else (readLimited (1024 * 1024) body readError).2

/-- An error is one of the client, or tells the status of the response. -/
theorem answer_error {x : Exchange} {err : Str} (h : x.answer = .error err) :
    x.clientError? = some err ∨
      x.clientError? = none ∧ ∃ statusCode body, err = formatHTTPStatusError statusCode body := by
  cases x with
  | requestError other | transportError other =>
    obtain rfl := Except.error.inj h
    exact Or.inl rfl
  | response statusCode body readError =>
    simp only [answer, clientError?] at h ⊢
    split at h
    next hstatus =>
      obtain rfl := Except.error.inj h
      rw [if_pos hstatus]
      exact Or.inr ⟨rfl, statusCode, _, rfl⟩
    next hstatus =>
      rw [if_neg hstatus]
      split at h
      next heq =>
        obtain rfl := Except.error.inj h
        exact Or.inl (congrArg Prod.snd heq)
      next => contradiction

/-- With a list there is no error of the client. -/
theorem clientError?_of_ok {x : Exchange} {models : List Str} (h : x.answer = .ok models) :
    x.clientError? = none := by
  cases x with
  | requestError | transportError => contradiction
  | response statusCode body readError =>
    simp only [answer, clientError?] at h ⊢
    split at h
    · contradiction
    next hstatus =>
      rw [if_neg hstatus]
      split at h
      · contradiction
      next heq => exact congrArg Prod.snd heq

end Exchange

end Lune.Health
