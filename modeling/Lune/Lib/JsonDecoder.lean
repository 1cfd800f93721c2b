import Lune.Lib.GoJson

/-!
# Reading JSON token by token

`json.Decoder`, as a caller uses it that reads tokens and decodes values in
between.  The text that is left stands for the buffer and the reader behind it, and
every error ends the reading.

The lemmas say for each state and each first byte which token comes: `token_value`
for a value, `token_key` for a key, `token_objectColon`, `token_arrayComma` and
`token_objectComma` for the separators.
-/

namespace GoJson

open GoText

/-- `tokenTopValue` and the states after it. -/
inductive TokenState where
  | topValue
  | arrayStart
  | arrayValue
  | arrayComma
  | objectStart
  | objectKey
  | objectColon
  | objectValue
  | objectComma
deriving DecidableEq

namespace TokenState

/-- `tokenValueAllowed`. -/
def valueAllowed : TokenState → Bool
  | topValue | arrayStart | arrayValue | objectValue => true
  | _ => false

/-- `tokenValueEnd`. -/
def valueEnd : TokenState → TokenState
  | arrayStart | arrayValue => arrayComma
  | objectValue => objectComma
  | state => state

end TokenState

/-- `Decoder`. -/
structure Decoder where
  text : Str
  tokenState : TokenState := .topValue
  tokenStack : List TokenState := []

/-- `Token`: a delimiter, or a key or another value that is no container. -/
inductive Token where
  | delim (b : UInt8)
  | value (x : Json)

namespace Decoder

/-- `tokenPrepareForDecode`. -/
def tokenPrepareForDecode (d : Decoder) : Option Decoder :=
  match d.tokenState with
  | .arrayComma =>
    match skipSpace d.text with
    | 44 :: rest => some { d with text := rest, tokenState := .arrayValue }
    | _ => none
  | .objectColon =>
    match skipSpace d.text with
    | 58 :: rest => some { d with text := rest, tokenState := .objectValue }
    | _ => none
  | _ => some d

/-- `Decode`, up to the conversion to the target.  `floats` says whether the target
takes numbers as `float64`. -/
def decode (floats : Bool) (d : Decoder) : Option (Json × Decoder) :=
  match d.tokenPrepareForDecode with
  | none => none
  | some d =>
    if d.tokenState.valueAllowed then
      (value floats (enough d.text) maxNestingDepth d.text).map fun (x, rest) =>
        (x, { d with text := rest, tokenState := d.tokenState.valueEnd })
    else none

/-- The container that a delimiter opens. -/
def opened (d : Decoder) (state : TokenState) (rest : Str) : Decoder :=
  { text := rest, tokenState := state, tokenStack := d.tokenState :: d.tokenStack }

/-- The container that a delimiter closes.  Within one the stack is not empty. -/
def closed (d : Decoder) (rest : Str) : Option Decoder :=
  match d.tokenStack with
  | [] => none
  | state :: stack => some { text := rest, tokenState := state.valueEnd, tokenStack := stack }

/-- The loop of `Token`.  It is run again after a colon and after a comma. -/
def tokenLoop : Nat → Decoder → Option (Token × Decoder)
  | 0, _ => none
  | fuel + 1, d =>
    match skipSpace d.text with
    | [] => none
    | 91 :: rest =>
      if d.tokenState.valueAllowed then some (.delim 91, d.opened .arrayStart rest) else none
    | 93 :: rest =>
      if d.tokenState = .arrayStart ∨ d.tokenState = .arrayComma then
        (d.closed rest).map fun d => (.delim 93, d)
      else none
    | 123 :: rest =>
      if d.tokenState.valueAllowed then some (.delim 123, d.opened .objectStart rest) else none
    | 125 :: rest =>
      if d.tokenState = .objectStart ∨ d.tokenState = .objectComma then
        (d.closed rest).map fun d => (.delim 125, d)
      else none
    | 58 :: rest =>
      if d.tokenState = .objectColon then
        tokenLoop fuel { d with text := rest, tokenState := .objectValue }
      else none
    | 44 :: rest =>
      if d.tokenState = .arrayComma then
        tokenLoop fuel { d with text := rest, tokenState := .arrayValue }
      else if d.tokenState = .objectComma then
        tokenLoop fuel { d with text := rest, tokenState := .objectKey }
      else none
    | b :: _ =>
      if b = 34 ∧ (d.tokenState = .objectStart ∨ d.tokenState = .objectKey) then
        -- the key is decoded as if it were a text of its own
        (decode false { d with tokenState := .topValue }).map fun (x, d) =>
          (.value x, { d with tokenState := .objectColon })
      else if d.tokenState.valueAllowed then
        (decode true d).map fun (x, d) => (.value x, d)
      else none

/-- `Token`. -/
def token (d : Decoder) : Option (Token × Decoder) := tokenLoop (d.text.length + 1) d

/-- `More`. -/
def more (d : Decoder) : Bool :=
  match skipSpace d.text with
  | [] => false
  | b :: _ => b != 93 && b != 125

end Decoder

/-! ## Which token comes -/

/-- A value that is no container is read the same at every depth. -/
theorem value_scalar {floats : Bool} {n m depth depth' : Nat} {s rest : Str} {b : UInt8}
    (hs : skipSpace s = b :: rest) (hb : b ≠ 123 ∧ b ≠ 91) :
    value floats (n + 1) depth s = value floats (m + 1) depth' s := by
  rw [value, value, hs]
  split
  next heq => exact absurd (List.cons.inj heq).1 hb.1
  next heq => exact absurd (List.cons.inj heq).1 hb.2
  all_goals simp_all

/-- No value starts with a sign that separates or closes. -/
theorem value_sign {floats : Bool} {fuel depth : Nat} {s rest : Str} {b : UInt8}
    (hs : skipSpace s = b :: rest) (hb : b = 93 ∨ b = 125 ∨ b = 58 ∨ b = 44) :
    value floats fuel depth s = none := by
  cases fuel with
  | zero => rfl
  | succ fuel =>
    rw [value, hs]
    rcases hb with rfl | rfl | rfl | rfl <;> rfl

theorem value_nil {floats : Bool} {fuel depth : Nat} {s : Str} (hs : skipSpace s = []) :
    value floats fuel depth s = none := by
  cases fuel with
  | zero => rfl
  | succ fuel =>
    rw [value, hs]
    rfl

namespace TokenState

/-- The bytes that a token may start with where no value is allowed. -/
def expected : TokenState → List UInt8
  | objectColon => [58]
  | arrayComma => [44, 93]
  | objectComma => [44, 125]
  | objectStart => [34, 125]
  | objectKey => [34]
  | _ => []

end TokenState

namespace Decoder

variable {s rest : Str} {state : TokenState} {stack : List TokenState} {b : UInt8}

/-- The loop of `Token` by the byte at the front. -/
theorem tokenLoop_cons {d : Decoder} (hs : skipSpace d.text = b :: rest) (fuel : Nat) :
    tokenLoop (fuel + 1) d =
      if b = 91 then
        if d.tokenState.valueAllowed then some (.delim 91, d.opened .arrayStart rest) else none
      else if b = 93 then
        if d.tokenState = .arrayStart ∨ d.tokenState = .arrayComma then
          (d.closed rest).map fun d => (.delim 93, d)
        else none
      else if b = 123 then
        if d.tokenState.valueAllowed then some (.delim 123, d.opened .objectStart rest) else none
      else if b = 125 then
        if d.tokenState = .objectStart ∨ d.tokenState = .objectComma then
          (d.closed rest).map fun d => (.delim 125, d)
        else none
      else if b = 58 then
        if d.tokenState = .objectColon then
          tokenLoop fuel { d with text := rest, tokenState := .objectValue }
        else none
      else if b = 44 then
        if d.tokenState = .arrayComma then
          tokenLoop fuel { d with text := rest, tokenState := .arrayValue }
        else if d.tokenState = .objectComma then
          tokenLoop fuel { d with text := rest, tokenState := .objectKey }
        else none
      else if b = 34 ∧ (d.tokenState = .objectStart ∨ d.tokenState = .objectKey) then
        (decode false { d with tokenState := .topValue }).map fun (x, d) =>
          (.value x, { d with tokenState := .objectColon })
      else if d.tokenState.valueAllowed then
        (decode true d).map fun (x, d) => (.value x, d)
      else none := by
  rw [tokenLoop, hs]
  split
  next heq => contradiction
  next heq =>
    obtain ⟨rfl, rfl⟩ := List.cons.inj heq
    rfl
  next heq =>
    obtain ⟨rfl, rfl⟩ := List.cons.inj heq
    rfl
  next heq =>
    obtain ⟨rfl, rfl⟩ := List.cons.inj heq
    rfl
  next heq =>
    obtain ⟨rfl, rfl⟩ := List.cons.inj heq
    rfl
  next heq =>
    obtain ⟨rfl, rfl⟩ := List.cons.inj heq
    rfl
  next heq =>
    obtain ⟨rfl, rfl⟩ := List.cons.inj heq
    rfl
  next hbracket hclose hbrace hend hcolon hcomma heq =>
    obtain ⟨rfl, rfl⟩ := List.cons.inj heq
    rw [if_neg hbracket, if_neg hclose, if_neg hbrace, if_neg hend, if_neg hcolon, if_neg hcomma]

theorem token_nil (hs : skipSpace s = []) : token ⟨s, state, stack⟩ = none := by
  rw [token, tokenLoop, hs]

/-- A separator that is not expected. -/
theorem token_refused (hs : skipSpace s = b :: rest) (hstate : state.valueAllowed = false)
    (hb : b ∉ state.expected) : token ⟨s, state, stack⟩ = none := by
  rw [token, tokenLoop_cons hs]
  dsimp only
  rw [hstate]
  cases state
  case topValue | arrayStart | arrayValue | objectValue => contradiction
  all_goals
    simp only [TokenState.expected, List.mem_cons, List.not_mem_nil, or_false, not_or] at hb
    simp [hb]

theorem token_brace (hs : skipSpace s = 123 :: rest) (hstate : state.valueAllowed = true) :
    token ⟨s, state, stack⟩ = some (.delim 123, ⟨rest, .objectStart, state :: stack⟩) := by
  rw [token, tokenLoop_cons hs]
  exact if_pos hstate

theorem token_bracket (hs : skipSpace s = 91 :: rest) (hstate : state.valueAllowed = true) :
    token ⟨s, state, stack⟩ = some (.delim 91, ⟨rest, .arrayStart, state :: stack⟩) := by
  rw [token, tokenLoop_cons hs]
  exact if_pos hstate

/-- Where a value is allowed, no sign comes but the end of an empty array. -/
theorem token_sign (hs : skipSpace s = b :: rest) (hb : b = 93 ∨ b = 125 ∨ b = 58 ∨ b = 44)
    (hstate : state.valueAllowed = true) (hend : b = 93 → state ≠ .arrayStart) :
    token ⟨s, state, stack⟩ = none := by
  rw [token, tokenLoop_cons hs]
  cases state
  case arrayComma | objectStart | objectKey | objectColon | objectComma => contradiction
  all_goals rcases hb with rfl | rfl | rfl | rfl
  case arrayStart.inl => exact absurd rfl (hend rfl)
  all_goals rfl

/-- Nothing is skipped before a value that is allowed. -/
theorem decode_of_allowed {floats : Bool} (hstate : state.valueAllowed = true) :
    decode floats ⟨s, state, stack⟩ =
      (value floats (enough s) maxNestingDepth s).map fun (x, rest) =>
        (x, ⟨rest, state.valueEnd, stack⟩) := by
  have hprepare : tokenPrepareForDecode ⟨s, state, stack⟩ = some ⟨s, state, stack⟩ := by
    cases state <;> first | rfl | contradiction
  rw [decode, hprepare]
  exact if_pos hstate

/-- A value that is no container. -/
theorem token_scalar (hs : skipSpace s = b :: rest) (hb : b ∉ [123, 91, 125, 93, 58, 44])
    (hstate : state.valueAllowed = true) (m depth : Nat) :
    token ⟨s, state, stack⟩ = (value true (m + 1) depth s).map fun (x, rest) =>
      (.value x, ⟨rest, state.valueEnd, stack⟩) := by
  simp only [List.mem_cons, List.not_mem_nil, or_false, not_or] at hb
  have hkey : ¬ (b = 34 ∧ (state = .objectStart ∨ state = .objectKey)) := by
    rintro ⟨-, rfl | rfl⟩ <;> contradiction
  have hvalue : value true (enough s) maxNestingDepth s = value true (m + 1) depth s :=
    value_scalar hs ⟨hb.1, hb.2.1⟩
  obtain ⟨hbrace, hbracket, hend, hclose, hcolon, hcomma⟩ := hb
  rw [token, tokenLoop_cons hs, if_neg hbracket, if_neg hclose, if_neg hbrace, if_neg hend,
    if_neg hcolon, if_neg hcomma, if_neg hkey, if_pos hstate, decode_of_allowed hstate, hvalue,
    Option.map_map]
  rfl

/-- A key. -/
theorem token_key (hs : skipSpace s = 34 :: rest)
    (hstate : state = .objectStart ∨ state = .objectKey) :
    token ⟨s, state, stack⟩ = (quoted rest).map fun (text, rest) =>
      (.value (.str (unquote 0 text)), ⟨rest, .objectColon, stack⟩) := by
  have hvalue : value false (enough s) maxNestingDepth s =
      (quoted rest).map fun (text, rest) => (.str (unquote 0 text), rest) := by
    rw [enough, value]
    simp only [hs]
  rw [token, tokenLoop_cons hs]
  refine (if_pos (⟨rfl, hstate⟩ : (34 : UInt8) = 34 ∧ _)).trans ?_
  rw [decode_of_allowed rfl, hvalue, Option.map_map, Option.map_map]
  rfl

theorem token_closeArray (hs : skipSpace s = 93 :: rest)
    (hstate : state = .arrayStart ∨ state = .arrayComma) (outer : TokenState) :
    token ⟨s, state, outer :: stack⟩ = some (.delim 93, ⟨rest, outer.valueEnd, stack⟩) := by
  rw [token, tokenLoop_cons hs]
  exact if_pos hstate

theorem token_closeObject (hs : skipSpace s = 125 :: rest)
    (hstate : state = .objectStart ∨ state = .objectComma) (outer : TokenState) :
    token ⟨s, state, outer :: stack⟩ = some (.delim 125, ⟨rest, outer.valueEnd, stack⟩) := by
  rw [token, tokenLoop_cons hs]
  exact if_pos hstate

/-- One run of the loop is enough where no separator is expected. -/
theorem tokenLoop_succ (hstate : state = .arrayValue ∨ state = .objectKey ∨ state = .objectValue)
    (fuel fuel' : Nat) :
    tokenLoop (fuel + 1) ⟨s, state, stack⟩ = tokenLoop (fuel' + 1) ⟨s, state, stack⟩ := by
  cases hs : skipSpace s with
  | nil => rw [tokenLoop, tokenLoop, hs]
  | cons b rest =>
    rw [tokenLoop_cons hs, tokenLoop_cons hs]
    rcases hstate with rfl | rfl | rfl <;> rfl

theorem token_of_tokenLoop (hs : skipSpace s = b :: rest) {state' : TokenState}
    (hstate : state' = .arrayValue ∨ state' = .objectKey ∨ state' = .objectValue)
    (h : ∀ fuel, tokenLoop (fuel + 1) ⟨s, state, stack⟩ = tokenLoop fuel ⟨rest, state', stack⟩) :
    token ⟨s, state, stack⟩ = token ⟨rest, state', stack⟩ := by
  obtain ⟨n, hn⟩ : ∃ n, s.length = n + 1 := by
    have hlt := length_skipSpace_cons hs
    exact ⟨s.length - 1, by omega⟩
  rw [token, token, h, hn]
  exact tokenLoop_succ hstate _ _

theorem token_objectColon (hs : skipSpace s = 58 :: rest) :
    token ⟨s, .objectColon, stack⟩ = token ⟨rest, .objectValue, stack⟩ :=
  token_of_tokenLoop hs (by simp) fun fuel => by
    rw [tokenLoop_cons hs]
    rfl

theorem token_arrayComma (hs : skipSpace s = 44 :: rest) :
    token ⟨s, .arrayComma, stack⟩ = token ⟨rest, .arrayValue, stack⟩ :=
  token_of_tokenLoop hs (by simp) fun fuel => by
    rw [tokenLoop_cons hs]
    rfl

theorem token_objectComma (hs : skipSpace s = 44 :: rest) :
    token ⟨s, .objectComma, stack⟩ = token ⟨rest, .objectKey, stack⟩ :=
  token_of_tokenLoop hs (by simp) fun fuel => by
    rw [tokenLoop_cons hs]
    rfl

/-- No colon after a key. -/
theorem token_noColon (hs : ∀ rest, skipSpace s ≠ 58 :: rest) :
    token ⟨s, .objectColon, stack⟩ = none := by
  cases hs' : skipSpace s with
  | nil => exact token_nil hs'
  | cons b rest =>
    refine token_refused hs' rfl fun hmem => ?_
    obtain rfl := List.mem_singleton.mp hmem
    exact hs rest hs'

/-- No quote where a key has to be, and no end of an empty object. -/
theorem token_noKey (hstate : state = .objectStart ∨ state = .objectKey)
    (hend : ∀ rest, skipSpace s = 125 :: rest → state ≠ .objectStart)
    (hs : ∀ rest, skipSpace s ≠ 34 :: rest) : token ⟨s, state, stack⟩ = none := by
  cases hs' : skipSpace s with
  | nil => exact token_nil hs'
  | cons b rest =>
    have hquote : b ≠ 34 := fun heq => hs rest (by rw [hs', heq])
    rcases hstate with rfl | rfl
    · refine token_refused hs' rfl ?_
      simp only [TokenState.expected, List.mem_cons, List.not_mem_nil, or_false, not_or]
      exact ⟨hquote, fun heq => hend rest (by rw [hs', heq]) rfl⟩
    · exact token_refused hs' rfl fun hmem => hquote (List.mem_singleton.mp hmem)

/-- The value after a key. -/
theorem decode_colon {floats : Bool} (hs : skipSpace s = 58 :: rest) :
    decode floats ⟨s, .objectColon, stack⟩ =
      (value floats (enough rest) maxNestingDepth rest).map fun (x, rest) =>
        (x, ⟨rest, .objectComma, stack⟩) := by
  rw [decode, tokenPrepareForDecode]
  simp only [hs]
  rfl

theorem decode_noColon {floats : Bool} (hs : ∀ rest, skipSpace s ≠ 58 :: rest) :
    decode floats ⟨s, .objectColon, stack⟩ = none := by
  have hprepare : tokenPrepareForDecode ⟨s, .objectColon, stack⟩ = none := by
    rw [tokenPrepareForDecode]
    dsimp only
    split
    next rest heq => exact absurd heq (hs rest)
    · rfl
  rw [decode, hprepare]

theorem more_cons (hs : skipSpace s = b :: rest) :
    more ⟨s, state, stack⟩ = (b != 93 && b != 125) := by
  rw [more]
  simp only [hs]

theorem more_nil (hs : skipSpace s = []) : more ⟨s, state, stack⟩ = false := by
  rw [more]
  simp only [hs]

end Decoder

end GoJson
