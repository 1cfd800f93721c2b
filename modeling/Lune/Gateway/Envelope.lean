import Lune.Gateway.Body
import Lune.Lib.JsonDecoder
import Lune.Lib.JsonEncode
import Lune.Lib.JsonReading

/-!
# Reading the request envelope

`ParseRequestEnvelope` and `skipJSONValue` of `internal/gateway/body.go` as they
read tokens from a `json.Decoder`.

`skips` says that skipping takes exactly one value, and
`parseRequestEnvelope_eq` that the tokens give what the fields of the text give.
The answer is the one that the object asks for, unless a skipped number is too
large for `float64` (`envelope_parsed_iff`).
-/

namespace Lune.Gateway

open GoText GoJson

namespace Envelope

mutual

/-- `skipJSONValue`. -/
def skipJSONValue : Nat → Decoder → Option Decoder
  | 0, _ => none
  | fuel + 1, d =>
    match d.token with
    | none => none
    | some (.value _, d) => some d
    | some (.delim b, d) =>
      if b = 123 then skipMembers fuel d
      else if b = 91 then skipElements fuel d
      else some d

/-- The loop of `skipJSONValue` over the members of an object, up to its end. -/
def skipMembers : Nat → Decoder → Option Decoder
  | 0, _ => none
  | fuel + 1, d =>
    if d.more then
      match d.token with
      | none => none
      | some (_, d) =>
        match skipJSONValue fuel d with
        | none => none
        | some d => skipMembers fuel d
    else d.token.map Prod.snd

/-- The loop of `skipJSONValue` over the elements of an array, up to its end. -/
def skipElements : Nat → Decoder → Option Decoder
  | 0, _ => none
  | fuel + 1, d =>
    if d.more then
      match skipJSONValue fuel d with
      | none => none
      | some d => skipElements fuel d
    else d.token.map Prod.snd

end

/-- The loop of `ParseRequestEnvelope`.  `Decode` gives `model` and `stream` their
type, and `null` leaves them as they are. -/
def envelopeLoop : Nat → RequestEnvelope → Decoder → Option (RequestEnvelope × Decoder)
  | 0, _, _ => none
  | fuel + 1, env, d =>
    if d.more then
      match d.token with
      | some (.value (.str key), d) =>
        if key = lit "model" ∨ key = lit "stream" then
          match d.decode false with
          | none => none
          | some (x, d) =>
            match env.field key x with
            | none => none
            | some env => envelopeLoop fuel env d
        else
          match skipJSONValue (enough d.text) d with
          | none => none
          | some d => envelopeLoop fuel env d
      | _ => none
    else some (env, d)

/-- `ParseRequestEnvelope`, on the bytes of the body. -/
def parseRequestEnvelope (s : Str) : Option RequestEnvelope :=
  match Decoder.token { text := s } with
  | some (.delim 123, d) =>
    match envelopeLoop (s.length + 1) {} d with
    | none => none
    | some (env, d) => d.token.map fun _ => env
  | _ => none

/-! ## Skipping takes one value -/

section Skipping

variable {s rest : Str} {b : UInt8} {state outer : TokenState} {stack : List TokenState}
  {d d' : Decoder} {fuel depth : Nat}

theorem skipJSONValue_congr (h : d.token = d'.token) (fuel : Nat) :
    skipJSONValue fuel d = skipJSONValue fuel d' := by
  cases fuel with
  | zero => rfl
  | succ fuel => rw [skipJSONValue, skipJSONValue, h]

theorem skipJSONValue_none (h : d.token = none) (fuel : Nat) : skipJSONValue fuel d = none := by
  cases fuel with
  | zero => rfl
  | succ fuel => rw [skipJSONValue, h]

theorem members_refused {floats : Bool} (hs : ∀ rest, skipSpace s ≠ 34 :: rest) :
    members floats fuel depth s = none := by
  cases fuel with
  | zero => rfl
  | succ fuel =>
    rw [members]
    split
    next rest heq => exact absurd heq (hs rest)
    · rfl

theorem elements_refused {floats : Bool} (h : ∀ fuel, value floats fuel depth s = none) :
    elements floats fuel depth s = none := by
  cases fuel with
  | zero => rfl
  | succ fuel => rw [elements, h]

/-- Skipping with a fuel takes a value, and the loops take what is left of a
container. -/
structure Skips (fuel : Nat) : Prop where
  value : ∀ {s : Str} {state : TokenState} {stack : List TokenState} {depth : Nat},
    state.valueAllowed = true → (∀ rest, skipSpace s = 93 :: rest → state ≠ .arrayStart) →
    2 * s.length + 1 ≤ fuel → s.length ≤ depth →
    skipJSONValue fuel ⟨s, state, stack⟩ =
      (value true (2 * s.length + 1) depth s).map fun (_, rest) => ⟨rest, state.valueEnd, stack⟩
  elements : ∀ {d : Decoder} {s : Str} {state outer : TokenState} {stack : List TokenState}
      {depth : Nat}, d.more = true → d.token = Decoder.token ⟨s, state, outer :: stack⟩ →
    state = .arrayStart ∨ state = .arrayValue →
    (∀ rest, skipSpace s = 93 :: rest → state ≠ .arrayStart) →
    2 * s.length + 2 ≤ fuel → s.length ≤ depth →
    skipElements fuel d =
      (elements true (2 * s.length + 2) depth s).map fun (_, rest) =>
        ⟨rest, outer.valueEnd, stack⟩
  members : ∀ {d : Decoder} {s : Str} {state outer : TokenState} {stack : List TokenState}
      {depth : Nat}, d.more = true → d.token = Decoder.token ⟨s, state, outer :: stack⟩ →
    state = .objectStart ∨ state = .objectKey →
    (∀ rest, skipSpace s = 125 :: rest → state ≠ .objectStart) →
    2 * s.length + 2 ≤ fuel → s.length ≤ depth →
    skipMembers fuel d =
      (members true (2 * s.length + 2) depth s).map fun (_, rest) =>
        ⟨rest, outer.valueEnd, stack⟩

theorem skips_zero : Skips 0 := ⟨by omega, by omega, by omega⟩

/-- What follows an element or a member: a comma, the closing sign, or neither. -/
theorem comma_or_close (close : UInt8) (s : Str) :
    (∃ rest, skipSpace s = 44 :: rest) ∨ (∃ rest, skipSpace s = close :: rest) ∨
      (∀ rest, skipSpace s ≠ 44 :: rest) ∧ ∀ rest, skipSpace s ≠ close :: rest := by
  by_cases hcomma : ∃ rest, skipSpace s = 44 :: rest
  · exact Or.inl hcomma
  by_cases hclose : ∃ rest, skipSpace s = close :: rest
  · exact Or.inr (Or.inl hclose)
  · exact Or.inr (Or.inr ⟨not_exists.mp hcomma, not_exists.mp hclose⟩)

/-- After an element or a member, the decoder takes nothing but a comma or the closing sign. -/
theorem token_stuck {close : UInt8} (hs : ∀ rest, skipSpace s ≠ 44 :: rest)
    (hclose : ∀ rest, skipSpace s ≠ close :: rest) (hstate : state.valueAllowed = false)
    (hexpected : state.expected = [44, close]) : Decoder.token ⟨s, state, stack⟩ = none := by
  cases h : skipSpace s with
  | nil => exact Decoder.token_nil h
  | cons b rest =>
    refine Decoder.token_refused h hstate ?_
    rw [hexpected, List.mem_cons, List.mem_singleton, not_or]
    exact ⟨fun heq => hs rest (by rw [h, heq]), fun heq => hclose rest (by rw [h, heq])⟩

/-- After an element and a comma, more elements. -/
theorem skipElements_more (h : Skips fuel) (hs : skipSpace s = 44 :: rest)
    (hfuel : 2 * s.length ≤ fuel) (hdepth : s.length ≤ depth) :
    skipElements fuel ⟨s, .arrayComma, outer :: stack⟩ =
      (elements true (2 * rest.length + 2) depth rest).map fun (_, rest) =>
        ⟨rest, outer.valueEnd, stack⟩ := by
  have hlt := length_skipSpace_cons hs
  exact h.elements (Decoder.more_cons hs) (Decoder.token_arrayComma hs) (Or.inr rfl)
    (fun _ _ => by decide) (by omega) (by omega)

theorem skipElements_close (hs : skipSpace s = 93 :: rest)
    (hstate : state = .arrayStart ∨ state = .arrayComma) :
    skipElements (fuel + 1) ⟨s, state, outer :: stack⟩ =
      some ⟨rest, outer.valueEnd, stack⟩ := by
  rw [skipElements, Decoder.more_cons hs, Decoder.token_closeArray hs hstate]
  rfl

theorem skipElements_stuck (h : d.token = none) : skipElements fuel d = none := by
  cases fuel with
  | zero => rfl
  | succ fuel =>
    rw [skipElements, h, skipJSONValue_none h]
    split <;> rfl

/-- After a member and a comma, more members. -/
theorem skipMembers_more (h : Skips fuel) (hs : skipSpace s = 44 :: rest)
    (hfuel : 2 * s.length ≤ fuel) (hdepth : s.length ≤ depth) :
    skipMembers fuel ⟨s, .objectComma, outer :: stack⟩ =
      (members true (2 * rest.length + 2) depth rest).map fun (_, rest) =>
        ⟨rest, outer.valueEnd, stack⟩ := by
  have hlt := length_skipSpace_cons hs
  exact h.members (Decoder.more_cons hs) (Decoder.token_objectComma hs) (Or.inr rfl)
    (fun _ _ => by decide) (by omega) (by omega)

theorem skipMembers_close (hs : skipSpace s = 125 :: rest)
    (hstate : state = .objectStart ∨ state = .objectComma) :
    skipMembers (fuel + 1) ⟨s, state, outer :: stack⟩ =
      some ⟨rest, outer.valueEnd, stack⟩ := by
  rw [skipMembers, Decoder.more_cons hs, Decoder.token_closeObject hs hstate]
  rfl

theorem skipMembers_stuck (h : d.token = none) : skipMembers fuel d = none := by
  cases fuel with
  | zero => rfl
  | succ fuel =>
    rw [skipMembers, h]
    split <;> rfl

theorem elements_fuel {floats : Bool} {n : Nat} (depth : Nat) (hn : 2 * s.length + 2 ≤ n) :
    elements floats n depth s = elements floats (2 * s.length + 2) depth s :=
  ((fuel_agree floats n (2 * s.length + 2) depth s).2 hn (le_refl _)).1

theorem members_fuel {floats : Bool} {n : Nat} (depth : Nat) (hn : 2 * s.length + 2 ≤ n) :
    members floats n depth s = members floats (2 * s.length + 2) depth s :=
  ((fuel_agree floats n (2 * s.length + 2) depth s).2 hn (le_refl _)).2

theorem skips_elements (h : Skips fuel) (hmore : d.more = true)
    (htoken : d.token = Decoder.token ⟨s, state, outer :: stack⟩)
    (hstate : state = .arrayStart ∨ state = .arrayValue)
    (hend : ∀ rest, skipSpace s = 93 :: rest → state ≠ .arrayStart)
    (hfuel : 2 * s.length + 2 ≤ fuel + 1) (hdepth : s.length ≤ depth) :
    skipElements (fuel + 1) d =
      (elements true (2 * s.length + 2) depth s).map fun (_, rest) =>
        ⟨rest, outer.valueEnd, stack⟩ := by
  obtain ⟨n, rfl⟩ : ∃ n, fuel = n + 1 := ⟨fuel - 1, by omega⟩
  obtain ⟨hallowed, hafter⟩ : state.valueAllowed = true ∧ state.valueEnd = .arrayComma := by
    rcases hstate with rfl | rfl <;> exact ⟨rfl, rfl⟩
  rw [skipElements, hmore, if_pos rfl, skipJSONValue_congr htoken,
    h.value hallowed hend (by omega) hdepth, elements, hafter]
  cases hx : value true (2 * s.length + 1) depth s with
  | none => rfl
  | some p =>
    obtain ⟨x, rest⟩ := p
    have hlt := (consumes true _).1 _ _ _ _ hx
    dsimp only [Option.map_some]
    rcases comma_or_close 93 rest with ⟨r, hcomma⟩ | ⟨r, hbracket⟩ | ⟨hcomma, hbracket⟩
    · have hlt' := length_skipSpace_cons hcomma
      rw [skipElements_more h hcomma (by omega) (by omega : rest.length ≤ depth)]
      simp only [hcomma, elements_fuel depth (show 2 * r.length + 2 ≤ 2 * s.length + 1 by omega),
        Option.map_map]
      rfl
    · rw [skipElements_close hbracket (Or.inr rfl)]
      simp only [hbracket]
      rfl
    · rw [skipElements_stuck (token_stuck hcomma hbracket rfl rfl)]
      split
      next r heq => exact absurd heq (hcomma r)
      next r heq => exact absurd heq (hbracket r)
      · rfl

/-- After a key: a colon and a value. -/
theorem skipJSONValue_colon (h : Skips fuel) (hs : skipSpace s = 58 :: rest)
    (hfuel : 2 * s.length ≤ fuel) (hdepth : s.length ≤ depth) :
    skipJSONValue fuel ⟨s, .objectColon, stack⟩ =
      (value true (2 * rest.length + 1) depth rest).map fun (_, rest) =>
        ⟨rest, .objectComma, stack⟩ := by
  have hlt := length_skipSpace_cons hs
  rw [skipJSONValue_congr (Decoder.token_objectColon hs)]
  exact h.value rfl (fun _ _ => by decide) (by omega) (by omega)

theorem skips_members (h : Skips fuel) (hmore : d.more = true)
    (htoken : d.token = Decoder.token ⟨s, state, outer :: stack⟩)
    (hstate : state = .objectStart ∨ state = .objectKey)
    (hend : ∀ rest, skipSpace s = 125 :: rest → state ≠ .objectStart)
    (hfuel : 2 * s.length + 2 ≤ fuel + 1) (hdepth : s.length ≤ depth) :
    skipMembers (fuel + 1) d =
      (members true (2 * s.length + 2) depth s).map fun (_, rest) =>
        ⟨rest, outer.valueEnd, stack⟩ := by
  obtain ⟨n, rfl⟩ : ∃ n, fuel = n + 1 := ⟨fuel - 1, by omega⟩
  rw [skipMembers, hmore, if_pos rfl, htoken]
  by_cases hquote : ∃ rest, skipSpace s = 34 :: rest
  · obtain ⟨rest, hs⟩ := hquote
    have hlt := length_skipSpace_cons hs
    rw [Decoder.token_key hs hstate, members]
    simp only [hs]
    cases hkey : quoted rest with
    | none => rfl
    | some p =>
      obtain ⟨key, rest₁⟩ := p
      have hlt₁ := length_quoted hkey
      dsimp only [Option.map_some]
      by_cases hcolon : ∃ rest₂, skipSpace rest₁ = 58 :: rest₂
      · obtain ⟨rest₂, hcolon⟩ := hcolon
        have hlt₂ := length_skipSpace_cons hcolon
        simp only [hcolon]
        rw [skipJSONValue_colon h hcolon (by omega) (by omega : rest₁.length ≤ depth),
          value_enough true depth (show enough rest₂ ≤ 2 * s.length + 1 by rw [enough]; omega),
          enough]
        cases hx : value true (2 * rest₂.length + 1) depth rest₂ with
        | none => rfl
        | some p =>
          obtain ⟨x, rest₃⟩ := p
          have hlt₃ := (consumes true _).1 _ _ _ _ hx
          dsimp only [Option.map_some]
          rcases comma_or_close 125 rest₃ with ⟨r, hcomma⟩ | ⟨r, hbrace⟩ | ⟨hcomma, hbrace⟩
          · have hlt₄ := length_skipSpace_cons hcomma
            rw [skipMembers_more h hcomma (by omega) (by omega : rest₃.length ≤ depth)]
            simp only [hcomma,
              members_fuel depth (show 2 * r.length + 2 ≤ 2 * s.length + 1 by omega),
              Option.map_map]
            rfl
          · rw [skipMembers_close hbrace (Or.inr rfl)]
            simp only [hbrace]
            rfl
          · rw [skipMembers_stuck (token_stuck hcomma hbrace rfl rfl)]
            split
            next r heq => exact absurd heq (hcomma r)
            next r heq => exact absurd heq (hbrace r)
            · rfl
      · have hnone : ∀ rest₂, skipSpace rest₁ ≠ 58 :: rest₂ := fun r heq => hcolon ⟨r, heq⟩
        rw [skipJSONValue_none (Decoder.token_noColon hnone)]
        dsimp only
        split
        next r heq => exact absurd heq (hnone r)
        · rfl
  · have hnone : ∀ rest, skipSpace s ≠ 34 :: rest := fun r heq => hquote ⟨r, heq⟩
    rw [Decoder.token_noKey hstate hend hnone, members_refused hnone]
    rfl

/-- An array that is not empty, from the byte after its bracket on. -/
theorem skipElements_first (h : Skips fuel) (hs : ∀ rest, skipSpace s ≠ 93 :: rest)
    (hfuel : 2 * s.length + 2 ≤ fuel) (hdepth : s.length ≤ depth) :
    skipElements fuel ⟨s, .arrayStart, outer :: stack⟩ =
      (elements true (2 * s.length + 2) depth s).map fun (_, rest) =>
        ⟨rest, outer.valueEnd, stack⟩ := by
  cases h' : skipSpace s with
  | nil =>
    rw [skipElements_stuck (Decoder.token_nil h'), elements_refused fun _ => value_nil h']
    rfl
  | cons b rest =>
    by_cases hbrace : b = 125
    · subst hbrace
      rw [skipElements_stuck (Decoder.token_sign h' (by decide) rfl fun heq => absurd heq (by decide)),
        elements_refused fun _ => value_sign h' (by decide)]
      rfl
    · refine h.elements ?_ rfl (Or.inl rfl) (fun rest' heq => absurd heq (hs rest')) hfuel hdepth
      have hb : b ≠ 93 := fun heq => hs rest (by rw [h', heq])
      rw [Decoder.more_cons h']
      simp [hb, hbrace]

/-- An object that is not empty, from the byte after its brace on. -/
theorem skipMembers_first (h : Skips fuel) (hs : ∀ rest, skipSpace s ≠ 125 :: rest)
    (hfuel : 2 * s.length + 2 ≤ fuel) (hdepth : s.length ≤ depth) :
    skipMembers fuel ⟨s, .objectStart, outer :: stack⟩ =
      (members true (2 * s.length + 2) depth s).map fun (_, rest) =>
        ⟨rest, outer.valueEnd, stack⟩ := by
  cases h' : skipSpace s with
  | nil =>
    rw [skipMembers_stuck (Decoder.token_nil h'), members_refused (by simp [h'])]
    rfl
  | cons b rest =>
    by_cases hbracket : b = 93
    · subst hbracket
      rw [skipMembers_stuck (Decoder.token_refused h' rfl (by decide)),
        members_refused (by simp [h'])]
      rfl
    · refine h.members ?_ rfl (Or.inl rfl) (fun rest' heq => absurd heq (hs rest')) hfuel hdepth
      have hb : b ≠ 125 := fun heq => hs rest (by rw [h', heq])
      rw [Decoder.more_cons h']
      simp [hb, hbracket]

theorem skips_value (h : Skips fuel) (hstate : state.valueAllowed = true)
    (hend : ∀ rest, skipSpace s = 93 :: rest → state ≠ .arrayStart)
    (hfuel : 2 * s.length + 1 ≤ fuel + 1) (hdepth : s.length ≤ depth) :
    skipJSONValue (fuel + 1) ⟨s, state, stack⟩ =
      (value true (2 * s.length + 1) depth s).map fun (_, rest) =>
        ⟨rest, state.valueEnd, stack⟩ := by
  cases hs : skipSpace s with
  | nil => rw [skipJSONValue_none (Decoder.token_nil hs), value_nil hs]; rfl
  | cons b rest =>
    have hlt := length_skipSpace_cons hs
    by_cases hbrace : b = 123
    · subst hbrace
      rw [skipJSONValue, Decoder.token_brace hs hstate, value]
      simp only [hs, if_true, if_neg (show ¬ depth = 0 by omega)]
      by_cases hempty : ∃ r, skipSpace rest = 125 :: r
      · obtain ⟨r, hempty⟩ := hempty
        obtain ⟨n, rfl⟩ : ∃ n, fuel = n + 1 := ⟨fuel - 1, by omega⟩
        rw [skipMembers_close hempty (Or.inl rfl)]
        simp only [hempty]
        rfl
      · rw [not_exists] at hempty
        rw [skipMembers_first h hempty (by omega) (by omega : rest.length ≤ depth - 1)]
        split
        next r heq => exact absurd heq (hempty r)
        · rw [members_fuel (n := 2 * s.length) (depth - 1) (by omega), Option.map_map]
          rfl
    by_cases hbracket : b = 91
    · subst hbracket
      rw [skipJSONValue, Decoder.token_bracket hs hstate, value]
      simp only [hs, if_true, if_neg (show ¬ (91 : UInt8) = 123 by decide),
        if_neg (show ¬ depth = 0 by omega)]
      by_cases hempty : ∃ r, skipSpace rest = 93 :: r
      · obtain ⟨r, hempty⟩ := hempty
        obtain ⟨n, rfl⟩ : ∃ n, fuel = n + 1 := ⟨fuel - 1, by omega⟩
        rw [skipElements_close hempty (Or.inl rfl)]
        simp only [hempty]
        rfl
      · rw [not_exists] at hempty
        rw [skipElements_first h hempty (by omega) (by omega : rest.length ≤ depth - 1)]
        split
        next r heq => exact absurd heq (hempty r)
        · rw [elements_fuel (n := 2 * s.length) (depth - 1) (by omega), Option.map_map]
          rfl
    by_cases hsign : b = 93 ∨ b = 125 ∨ b = 58 ∨ b = 44
    · rw [skipJSONValue_none (Decoder.token_sign hs hsign hstate fun heq => hend rest (by rw [hs, heq])),
        value_sign hs hsign]
      rfl
    · have hb : b ∉ [123, 91, 125, 93, 58, 44] := by
        simp only [List.mem_cons, List.not_mem_nil, or_false, not_or] at hsign ⊢
        exact ⟨hbrace, hbracket, hsign.2.1, hsign.1, hsign.2.2.1, hsign.2.2.2⟩
      rw [skipJSONValue, Decoder.token_scalar hs hb hstate (2 * s.length) depth]
      cases value true (2 * s.length + 1) depth s <;> rfl

/-- Skipping takes exactly one value. -/
theorem skips (fuel : Nat) : Skips fuel := by
  induction fuel with
  | zero => exact skips_zero
  | succ fuel ih =>
    exact
      { value := fun hstate hend hfuel hdepth => skips_value ih hstate hend hfuel hdepth
        elements := fun hmore htoken hstate hend hfuel hdepth =>
          skips_elements ih hmore htoken hstate hend hfuel hdepth
        members := fun hmore htoken hstate hend hfuel hdepth =>
          skips_members ih hmore htoken hstate hend hfuel hdepth }

end Skipping

/-! ## The tokens give the fields of the text -/

section Loop

variable {s rest : Str} {b : UInt8} {state : TokenState} {d : Decoder} {fuel left : Nat}
  {env : RequestEnvelope} {key : Str}

/-- Only a string, a boolean or `null` can be the value of `model` or `stream`. -/
theorem field_refused (hkey : key = lit "model" ∨ key = lit "stream") {x : Json}
    (hx : (∃ text, x = .num text) ∨ (∃ xs, x = .arr xs) ∨ ∃ fs, x = .obj fs) :
    env.field key x = none := by
  unfold RequestEnvelope.field
  rcases hkey with rfl | rfl
  · rw [if_pos rfl]
    rcases hx with ⟨_, rfl⟩ | ⟨_, rfl⟩ | ⟨_, rfl⟩ <;> rfl
  · rw [if_neg (by decide), if_pos rfl]
    rcases hx with ⟨_, rfl⟩ | ⟨_, rfl⟩ | ⟨_, rfl⟩ <;> rfl

theorem field_other (hkey : ¬ (key = lit "model" ∨ key = lit "stream")) (x : Json) :
    env.field key x = some env := by
  unfold RequestEnvelope.field
  rw [if_neg fun h => hkey (Or.inl h), if_neg fun h => hkey (Or.inr h)]

/-- What is not in range is no value of `model` or `stream`. -/
theorem exists_of_not_inRange {x : Json} (h : inRange x = false) :
    (∃ text, x = .num text) ∨ (∃ xs, x = .arr xs) ∨ ∃ fs, x = .obj fs := by
  cases x with
  | null | bool | str => contradiction
  | num text => exact Or.inl ⟨text, rfl⟩
  | arr xs => exact Or.inr (Or.inl ⟨xs, rfl⟩)
  | obj fs => exact Or.inr (Or.inr ⟨fs, rfl⟩)

/-- For `model` and `stream` neither the depth nor the numbers matter. -/
theorem field_value (hkey : key = lit "model" ∨ key = lit "stream") (env : RequestEnvelope)
    (s : Str) (depth : Nat) :
    (∃ x rest env', value false (enough s) maxNestingDepth s = some (x, rest) ∧
        value true (enough s) depth s = some (x, rest) ∧ env.field key x = some env') ∨
      (∀ x rest, value false (enough s) maxNestingDepth s = some (x, rest) →
        env.field key x = none) ∧
      ∀ x rest, value true (enough s) depth s = some (x, rest) → env.field key x = none := by
  cases hs : skipSpace s with
  | nil =>
    refine Or.inr ⟨fun x rest h => ?_, fun x rest h => ?_⟩ <;>
    · rw [value_nil hs] at h
      contradiction
  | cons b t =>
    by_cases hcontainer : b = 123 ∨ b = 91
    · refine Or.inr ⟨fun x rest h => ?_, fun x rest h => ?_⟩ <;>
      exact field_refused hkey (Or.inr (value_container hs hcontainer h))
    · rw [not_or] at hcontainer
      have hdepth : value false (enough s) maxNestingDepth s = value false (enough s) depth s :=
        value_scalar hs hcontainer
      rw [hdepth, value_floats]
      cases hx : value false (enough s) depth s with
      | none =>
        refine Or.inr ⟨fun x rest h => ?_, fun x rest h => ?_⟩ <;> contradiction
      | some p =>
        obtain ⟨x, rest⟩ := p
        rw [Option.filter_some]
        cases hfield : env.field key x with
        | none =>
          refine Or.inr ⟨fun x' rest' h => ?_, fun x' rest' h => ?_⟩
          · obtain ⟨rfl, -⟩ := Prod.mk.inj (Option.some.inj h)
            exact hfield
          · split at h
            · obtain ⟨rfl, -⟩ := Prod.mk.inj (Option.some.inj h)
              exact hfield
            · contradiction
        | some env' =>
          refine Or.inl ⟨x, rest, env', rfl, if_pos ?_, hfield⟩
          rw [← Bool.not_eq_false]
          intro hrange
          rw [field_refused hkey (exists_of_not_inRange hrange)] at hfield
          contradiction

/-- The rest of `ParseRequestEnvelope` after the loop. -/
def finish : Option (RequestEnvelope × Decoder) → Option RequestEnvelope
  | none => none
  | some (env, d) => d.token.map fun _ => env

/-- The loop with a fuel gives what the fields give. -/
def Reads (fuel : Nat) : Prop :=
  ∀ {d : Decoder} {s : Str} {state : TokenState} {left : Nat} (env : RequestEnvelope),
    d.more = true → d.token = Decoder.token ⟨s, state, [.topValue]⟩ →
    state = .objectStart ∨ state = .objectKey →
    (∀ rest, skipSpace s = 125 :: rest → state ≠ .objectStart) →
    s.length < fuel → s.length ≤ left →
    finish (envelopeLoop fuel env d) = envelopeFields env s left

theorem envelopeLoop_comma (h : Reads (fuel + 1)) (hfuel : s.length < fuel + 1)
    (hleft : s.length ≤ left) (env : RequestEnvelope) :
    finish (envelopeLoop (fuel + 1) env ⟨s, .objectComma, [.topValue]⟩) =
      match skipSpace s with
      | 44 :: rest => envelopeFields env rest left
      | 125 :: _ => some env
      | _ => none := by
  split
  next rest hcomma =>
    have hlt := length_skipSpace_cons hcomma
    exact h env (Decoder.more_cons hcomma) (Decoder.token_objectComma hcomma) (Or.inr rfl)
      (fun _ _ => by decide) (by omega) (by omega)
  next rest hbrace =>
    rw [envelopeLoop, Decoder.more_cons hbrace, if_neg (by decide), finish,
      Decoder.token_closeObject hbrace (Or.inr rfl)]
    rfl
  next hcomma hbrace =>
    have hnone : Decoder.token ⟨s, .objectComma, [.topValue]⟩ = none :=
      token_stuck hcomma hbrace rfl rfl
    rw [envelopeLoop, hnone]
    split
    · rfl
    · rw [finish, hnone]
      rfl

/-- A field of the request, up to what follows its value. -/
theorem envelopeLoop_field (h : Reads (fuel + 1)) (hs : skipSpace s = 58 :: rest)
    (hfuel : s.length < fuel + 1) (hleft : s.length ≤ left) (env : RequestEnvelope) (key : Str) :
    finish (if key = lit "model" ∨ key = lit "stream" then
        match Decoder.decode false ⟨s, .objectColon, [.topValue]⟩ with
        | none => none
        | some (x, d) =>
          match env.field key x with
          | none => none
          | some env => envelopeLoop (fuel + 1) env d
      else
        match skipJSONValue (enough s) ⟨s, .objectColon, [.topValue]⟩ with
        | none => none
        | some d => envelopeLoop (fuel + 1) env d) =
      match value true (enough rest) rest.length rest with
      | none => none
      | some (x, rest) =>
        match env.field key x with
        | none => none
        | some env =>
          match skipSpace rest with
          | 44 :: rest => envelopeFields env rest left
          | 125 :: _ => some env
          | _ => none := by
  have hlt := length_skipSpace_cons hs
  have hafter : ∀ (env : RequestEnvelope) {x : Json} {r : Str} {floats : Bool} {depth : Nat},
      value floats (enough rest) depth rest = some (x, r) →
      finish (envelopeLoop (fuel + 1) env ⟨r, .objectComma, [.topValue]⟩) =
        match skipSpace r with
        | 44 :: rest => envelopeFields env rest left
        | 125 :: _ => some env
        | _ => none := by
    intro env x r floats depth hx
    have hshort := (consumes floats _).1 _ _ _ _ hx
    exact envelopeLoop_comma h (by omega) (by omega) env
  split
  next hkey =>
    rw [Decoder.decode_colon hs]
    rcases field_value hkey env rest rest.length with
      ⟨x, r, env', hfalse, htrue, hfield⟩ | ⟨hfalse, htrue⟩
    · rw [hfalse, htrue]
      dsimp only [Option.map_some]
      rw [hfield]
      exact hafter env' htrue
    · trans none
      · cases hx : value false (enough rest) maxNestingDepth rest with
        | none => rfl
        | some p =>
          dsimp only [Option.map_some]
          rw [hfalse _ _ hx]
          rfl
      · cases hx : value true (enough rest) rest.length rest with
        | none => rfl
        | some p =>
          dsimp only
          rw [htrue _ _ hx]
  next hkey =>
    rw [skipJSONValue_colon (skips _) hs (by rw [enough]; omega) (le_refl s.length), ← enough,
      value_depth (le_of_lt hlt) (le_refl rest.length)]
    cases hx : value true (enough rest) rest.length rest with
    | none => rfl
    | some p =>
      dsimp only [Option.map_some]
      rw [field_other hkey]
      exact hafter env hx

theorem envelopeFields_refused (hs : ∀ rest, skipSpace s ≠ 34 :: rest) (left : Nat) :
    envelopeFields env s left = none := by
  cases left with
  | zero => rfl
  | succ left =>
    rw [envelopeFields]
    split
    next rest heq => exact absurd heq (hs rest)
    · rfl

theorem reads_succ (h : Reads fuel) : Reads (fuel + 1) := by
  intro d s state left env hmore htoken hstate hend hfuel hleft
  rw [envelopeLoop, hmore, if_pos rfl, htoken]
  by_cases hquote : ∃ rest, skipSpace s = 34 :: rest
  · obtain ⟨rest, hs⟩ := hquote
    have hlt := length_skipSpace_cons hs
    obtain ⟨left, rfl⟩ : ∃ n, left = n + 1 := ⟨left - 1, by omega⟩
    obtain ⟨fuel, rfl⟩ : ∃ n, fuel = n + 1 := ⟨fuel - 1, by omega⟩
    rw [Decoder.token_key hs hstate, envelopeFields]
    simp only [hs]
    cases hkey : quoted rest with
    | none => rfl
    | some p =>
      obtain ⟨key, rest₁⟩ := p
      have hlt₁ := length_quoted hkey
      dsimp only [Option.map_some]
      by_cases hcolon : ∃ rest₂, skipSpace rest₁ = 58 :: rest₂
      · obtain ⟨rest₂, hcolon⟩ := hcolon
        have hfield := envelopeLoop_field h hcolon (by omega) (by omega : rest₁.length ≤ left) env
          (unquote 0 key)
        simp only [hcolon]
        exact hfield
      · have hnone : ∀ rest₂, skipSpace rest₁ ≠ 58 :: rest₂ := fun r heq => hcolon ⟨r, heq⟩
        rw [Decoder.decode_noColon hnone, skipJSONValue_none (Decoder.token_noColon hnone)]
        trans none
        · split <;> rfl
        · split
          next r heq => exact absurd heq (hnone r)
          · rfl
  · have hnone : ∀ rest, skipSpace s ≠ 34 :: rest := fun r heq => hquote ⟨r, heq⟩
    rw [Decoder.token_noKey hstate hend hnone, envelopeFields_refused hnone]
    rfl

theorem reads (fuel : Nat) : Reads fuel := by
  induction fuel with
  | zero =>
    intro d s state left env _ _ _ _ hfuel
    omega
  | succ fuel ih => exact reads_succ ih

theorem token_ne_brace (hs : ∀ rest, skipSpace s ≠ 123 :: rest) :
    Decoder.token { text := s } ≠ some (.delim 123, d) := by
  intro htoken
  cases hs' : skipSpace s with
  | nil =>
    rw [Decoder.token_nil hs'] at htoken
    contradiction
  | cons b rest =>
    by_cases hbracket : b = 91
    · subst hbracket
      rw [Decoder.token_bracket hs' rfl] at htoken
      cases htoken
    by_cases hsign : b = 93 ∨ b = 125 ∨ b = 58 ∨ b = 44
    · rw [Decoder.token_sign hs' hsign rfl fun _ => by decide] at htoken
      contradiction
    · have hb : b ∉ [123, 91, 125, 93, 58, 44] := by
        simp only [List.mem_cons, List.not_mem_nil, or_false, not_or] at hsign ⊢
        refine ⟨?_, hbracket, hsign.2.1, hsign.1, hsign.2.2.1, hsign.2.2.2⟩
        rintro rfl
        exact hs rest hs'
      rw [Decoder.token_scalar hs' hb rfl 0 0] at htoken
      obtain ⟨p, -, heq⟩ := Option.map_eq_some_iff.mp htoken
      cases heq

/-- Token by token, the envelope is that of the fields in the text. -/
theorem parseRequestEnvelope_eq (s : Str) :
    parseRequestEnvelope s = Gateway.parseRequestEnvelope s := by
  rw [parseRequestEnvelope, Gateway.parseRequestEnvelope]
  by_cases hbrace : ∃ rest, skipSpace s = 123 :: rest
  · obtain ⟨rest, hs⟩ := hbrace
    have hlt := length_skipSpace_cons hs
    rw [Decoder.token_brace hs rfl]
    simp only [hs]
    cases hrest : skipSpace rest with
    | nil =>
      rw [envelopeLoop, Decoder.more_nil hrest, if_neg Bool.false_ne_true,
        envelopeFields_refused (by simp [hrest])]
      dsimp only
      rw [Decoder.token_nil hrest]
      rfl
    | cons b tail =>
      by_cases hclose : b = 125
      · subst hclose
        rw [envelopeLoop, Decoder.more_cons hrest, if_neg (by decide)]
        dsimp only
        rw [Decoder.token_closeObject hrest (Or.inl rfl)]
        rfl
      by_cases hbracket : b = 93
      · subst hbracket
        rw [envelopeLoop, Decoder.more_cons hrest, if_neg (by decide),
          envelopeFields_refused (by simp [hrest])]
        dsimp only
        rw [Decoder.token_refused hrest rfl (by decide)]
        rfl
      · have hmore : Decoder.more ⟨rest, .objectStart, [.topValue]⟩ = true := by
          rw [Decoder.more_cons hrest]
          simp [hclose, hbracket]
        have hend : ∀ r, skipSpace rest = 125 :: r → TokenState.objectStart ≠ .objectStart := by
          intro r heq
          exact absurd (List.cons.inj (hrest.symm.trans heq)).1 hclose
        refine (reads (s.length + 1) {} hmore rfl (Or.inl rfl) hend (by omega)
          (le_refl rest.length)).trans ?_
        split
        next r heq => exact absurd (List.cons.inj heq).1 hclose
        · rfl
  · have hnone : ∀ rest, skipSpace s ≠ 123 :: rest := fun r heq => hbrace ⟨r, heq⟩
    trans none
    · split
      next d htoken => exact absurd htoken (token_ne_brace hnone)
      · rfl
    · split
      next r heq => exact absurd heq (hnone r)
      · rfl

end Loop

/-! ## What the object asks for -/

/-- A field has the type of its name, or it is `null`. -/
def Typed (f : Str × Json) : Prop :=
  (f.1 = lit "model" → f.2 = .null ∨ ∃ model, f.2 = .str model) ∧
    (f.1 = lit "stream" → f.2 = .null ∨ ∃ stream, f.2 = .bool stream)

/-- `null` says nothing. -/
def isNull : Json → Bool
  | .null => true
  | _ => false

/-- The last value under a name that is not `null`. -/
def lastValue (name : Str) (fs : List (Str × Json)) : Option Json :=
  (fs.reverse.find? fun f => decide (f.1 = name) && !isNull f.2).map Prod.snd

/-- The envelope that fields ask for, which starts from `env`. -/
structure Declares (env : RequestEnvelope) (fs : List (Str × Json)) (env' : RequestEnvelope) :
    Prop where
  model : lastValue (lit "model") fs = some (.str env'.model) ∨
    lastValue (lit "model") fs = none ∧ env'.model = env.model
  stream : lastValue (lit "stream") fs = some (.bool env'.stream) ∨
    lastValue (lit "stream") fs = none ∧ env'.stream = env.stream

/-- The fields one after the other. -/
def foldFields (env : RequestEnvelope) : List (Str × Json) → Option RequestEnvelope
  | [] => some env
  | (key, x) :: fs => (env.field key x).bind fun env => foldFields env fs

section Fields

variable {env env' : RequestEnvelope} {fs : List (Str × Json)} {s rest : Str} {key : Str} {x : Json}

theorem lastValue_cons (name : Str) (f : Str × Json) (fs : List (Str × Json)) :
    lastValue name (f :: fs) = (lastValue name fs).or
      (if f.1 = name ∧ isNull f.2 = false then some f.2 else none) := by
  rw [lastValue, List.reverse_cons, List.find?_append, lastValue, List.find?_singleton]
  cases fs.reverse.find? fun f => decide (f.1 = name) && !isNull f.2 with
  | some g => rfl
  | none =>
    simp only [Option.none_or, Option.map_none]
    by_cases hname : f.1 = name <;> simp [hname]

/-- A field is refused when it has not its type. -/
theorem field_none_iff : env.field key x = none ↔ ¬ Typed (key, x) := by
  unfold RequestEnvelope.field Typed
  by_cases hmodel : key = lit "model"
  · have hstream : ¬ lit "model" = lit "stream" := by decide
    subst hmodel
    cases x <;> simp [hstream]
  · by_cases hstream : key = lit "stream"
    · subst hstream
      cases x <;> simp [hmodel]
    · simp [hmodel, hstream]

theorem model_of_field (h : env.field key x = some env') :
    (if key = lit "model" ∧ isNull x = false then x = .str env'.model
      else env'.model = env.model) := by
  unfold RequestEnvelope.field at h
  by_cases hmodel : key = lit "model"
  · subst hmodel
    cases x <;> simp_all [isNull]
    rw [← h]
  · by_cases hstream : key = lit "stream"
    · subst hstream
      cases x <;> simp_all [isNull]
      rw [← h]
    · simp_all

theorem stream_of_field (h : env.field key x = some env') :
    (if key = lit "stream" ∧ isNull x = false then x = .bool env'.stream
      else env'.stream = env.stream) := by
  unfold RequestEnvelope.field at h
  by_cases hmodel : key = lit "model"
  · have hstream : ¬ lit "model" = lit "stream" := by decide
    subst hmodel
    cases x <;> simp_all [isNull]
    rw [← h]
  · by_cases hstream : key = lit "stream"
    · subst hstream
      cases x <;> simp_all [isNull]
      rw [← h]
    · simp_all

theorem foldFields_declares (h : foldFields env fs = some env') : Declares env fs env' := by
  induction fs generalizing env with
  | nil =>
    obtain rfl := Option.some.inj h
    exact ⟨Or.inr ⟨rfl, rfl⟩, Or.inr ⟨rfl, rfl⟩⟩
  | cons f fs ih =>
    obtain ⟨key, x⟩ := f
    obtain ⟨mid, hfield, hrest⟩ := Option.bind_eq_some_iff.mp h
    obtain ⟨hmodel, hstream⟩ := ih hrest
    have hm := model_of_field hfield
    have hs := stream_of_field hfield
    constructor
    · rw [lastValue_cons]
      rcases hmodel with hlast | ⟨hlast, heq⟩
      · exact Or.inl (by rw [hlast]; rfl)
      · rw [hlast, heq, Option.none_or]
        split at hm
        next hcond => exact Or.inl (by rw [if_pos hcond, hm])
        next hcond => exact Or.inr ⟨by rw [if_neg hcond], hm⟩
    · rw [lastValue_cons]
      rcases hstream with hlast | ⟨hlast, heq⟩
      · exact Or.inl (by rw [hlast]; rfl)
      · rw [hlast, heq, Option.none_or]
        split at hs
        next hcond => exact Or.inl (by rw [if_pos hcond, hs])
        next hcond => exact Or.inr ⟨by rw [if_neg hcond], hs⟩

/-- The fields give an envelope when all of them have their type. -/
theorem foldFields_isSome_iff :
    (∃ env', foldFields env fs = some env') ↔ ∀ f ∈ fs, Typed f := by
  induction fs generalizing env with
  | nil => exact iff_of_true ⟨env, rfl⟩ (by simp)
  | cons f fs ih =>
    obtain ⟨key, x⟩ := f
    rw [List.forall_mem_cons]
    cases hfield : env.field key x with
    | none =>
      have hnone : foldFields env ((key, x) :: fs) = none := by rw [foldFields, hfield]; rfl
      refine iff_of_false ?_ fun h => field_none_iff.mp hfield h.1
      rintro ⟨env', h⟩
      rw [hnone] at h
      contradiction
    | some mid =>
      have hsome : foldFields env ((key, x) :: fs) = foldFields mid fs := by
        rw [foldFields, hfield]
        rfl
      have htyped : Typed (key, x) := by
        by_contra h
        rw [field_none_iff.mpr h] at hfield
        contradiction
      rw [hsome, and_iff_right htyped]
      exact ih

/-- A field and what follows it: a comma and more fields, or the end. -/
theorem fields_after_value {env : RequestEnvelope} {key r : Str} {x : Json}
    {left fuel depth : Nat} (hmore : ∀ mid tail, skipSpace r = 44 :: tail →
      envelopeFields mid tail left = (members true fuel depth tail).bind fun p => foldFields mid p.1) :
    (match env.field key x with
      | none => none
      | some env =>
        match skipSpace r with
        | 44 :: rest => envelopeFields env rest left
        | 125 :: _ => some env
        | _ => none) =
      Option.bind (match skipSpace r with
        | 44 :: rest => (members true fuel depth rest).map fun (fs, rest) => ((key, x) :: fs, rest)
        | 125 :: rest => some ([(key, x)], rest)
        | _ => none) fun p => foldFields env p.1 := by
  have hfold : ∀ fs, foldFields env ((key, x) :: fs) =
      (env.field key x).bind fun env => foldFields env fs := fun _ => rfl
  rcases comma_or_close 125 r with ⟨tail, hcomma⟩ | ⟨tail, hbrace⟩ | ⟨hcomma, hbrace⟩
  · simp only [hcomma, Option.bind_map, Function.comp_def, hfold]
    cases env.field key x with
    | none => simp
    | some mid => exact hmore mid tail hcomma
  · simp only [hbrace, Option.bind_some, hfold]
    cases env.field key x <;> rfl
  · trans none
    · cases env.field key x with
      | none => rfl
      | some mid =>
        dsimp only
        split
        next t heq => exact absurd heq (hcomma t)
        next t heq => exact absurd heq (hbrace t)
        · rfl
    · split
      next t heq => exact absurd heq (hcomma t)
      next t heq => exact absurd heq (hbrace t)
      · rfl

/-- The fields that are read one by one are those of the object. -/
theorem envelopeFields_eq (left : Nat) : ∀ {s : Str} {fuel depth : Nat} (env : RequestEnvelope),
    s.length ≤ left → 2 * s.length + 2 ≤ fuel → s.length ≤ depth →
    envelopeFields env s left =
      (members true fuel depth s).bind fun p => foldFields env p.1 := by
  induction left with
  | zero =>
    intro s fuel depth env hleft _ _
    obtain rfl := List.length_eq_zero_iff.mp (Nat.le_zero.mp hleft)
    rw [members_refused (by simp [skipSpace])]
    rfl
  | succ left ih =>
    intro s fuel depth env hleft hfuel hdepth
    obtain ⟨fuel, rfl⟩ : ∃ n, fuel = n + 1 := ⟨fuel - 1, by omega⟩
    by_cases hquote : ∃ rest, skipSpace s = 34 :: rest
    · obtain ⟨rest, hs⟩ := hquote
      have hlt := length_skipSpace_cons hs
      rw [envelopeFields, members]
      simp only [hs]
      cases hkey : quoted rest with
      | none => rfl
      | some p =>
        obtain ⟨key, rest₁⟩ := p
        have hlt₁ := length_quoted hkey
        dsimp only
        by_cases hcolon : ∃ rest₂, skipSpace rest₁ = 58 :: rest₂
        · obtain ⟨rest₂, hcolon⟩ := hcolon
          have hlt₂ := length_skipSpace_cons hcolon
          simp only [hcolon]
          rw [← value_enough true rest₂.length (show enough rest₂ ≤ fuel by rw [enough]; omega),
            value_depth (le_refl rest₂.length) (show rest₂.length ≤ depth by omega)]
          cases hx : value true fuel depth rest₂ with
          | none => rfl
          | some p =>
            obtain ⟨x, r⟩ := p
            have hlt₃ := (consumes true _).1 _ _ _ _ hx
            dsimp only
            refine fields_after_value fun mid tail hcomma => ?_
            have hlt₄ := length_skipSpace_cons hcomma
            exact ih mid (by omega) (by omega) (by omega)
        · have hnone : ∀ rest₂, skipSpace rest₁ ≠ 58 :: rest₂ := fun r heq => hcolon ⟨r, heq⟩
          trans none
          · split
            next r heq => exact absurd heq (hnone r)
            · rfl
          · split
            next r heq => exact absurd heq (hnone r)
            · rfl
    · have hnone : ∀ rest, skipSpace s ≠ 34 :: rest := fun r heq => hquote ⟨r, heq⟩
      rw [envelopeFields_refused hnone, members_refused hnone]
      rfl

/-- The envelope that a value gives. -/
def envelopeOf : Json → Option RequestEnvelope
  | .obj fs => foldFields {} fs
  | _ => none

theorem parseRequestEnvelope_bind (s : Str) :
    parseRequestEnvelope s =
      (value true (enough s) s.length s).bind fun p => envelopeOf p.1 := by
  rw [parseRequestEnvelope_eq, Gateway.parseRequestEnvelope]
  by_cases hbrace : ∃ rest, skipSpace s = 123 :: rest
  · obtain ⟨rest, hs⟩ := hbrace
    have hlt := length_skipSpace_cons hs
    rw [enough, value]
    simp only [hs, if_neg (show ¬ s.length = 0 by omega)]
    by_cases hempty : ∃ r, skipSpace rest = 125 :: r
    · obtain ⟨r, hempty⟩ := hempty
      simp only [hempty]
      rfl
    · trans (members true (2 * s.length) (s.length - 1) rest).bind fun p => foldFields {} p.1
      · rw [← envelopeFields_eq rest.length {} (le_refl _) (by omega) (by omega)]
        split
        next r heq => exact absurd ⟨r, heq⟩ hempty
        · rfl
      · split
        next r heq => exact absurd ⟨r, heq⟩ hempty
        · rw [Option.bind_map]
          rfl
  · trans none
    · split
      next rest heq => exact absurd ⟨rest, heq⟩ hbrace
      · rfl
    · cases hx : value true (enough s) s.length s with
      | none => rfl
      | some p =>
        obtain ⟨x, rest⟩ := p
        rw [Option.bind_some]
        cases x with
        | obj fs => exact absurd (value_obj hx) hbrace
        | null | bool | num | str | arr => rfl

/-- The envelope is that of the object at the front, when its numbers are in range. -/
theorem parseRequestEnvelope_spec (s : Str) :
    parseRequestEnvelope s =
      (front s).bind fun p => if inRange p.1 then envelopeOf p.1 else none := by
  rw [parseRequestEnvelope_bind, value_floats, front]
  cases value false (enough s) s.length s with
  | none => rfl
  | some p =>
    rw [Option.filter_some, Option.bind_some]
    cases inRange p.1 <;> rfl

end Fields

/-- What is asked of the envelope of a text. -/
structure Meets (s : Str) : Prop where
  object : ∀ fs rest, front s = some (.obj fs, rest) → (∀ f ∈ fs, Typed f) →
    ∃ env, parseRequestEnvelope s = some env ∧ Declares {} fs env
  mistyped : ∀ fs rest, front s = some (.obj fs, rest) → (∃ f ∈ fs, ¬ Typed f) →
    parseRequestEnvelope s = none
  other : ∀ x rest, front s = some (x, rest) → (∀ fs, x ≠ .obj fs) →
    parseRequestEnvelope s = none
  unread : front s = none → parseRequestEnvelope s = none
  truncated : ∀ q fs, q ≠ [] → front (s ++ q) = some (.obj fs, []) →
    parseRequestEnvelope s = none

section Claim

variable {s q rest : Str} {fs : List (Str × Json)}

theorem parse_object (h : front s = some (.obj fs, rest)) :
    parseRequestEnvelope s = if inRangeMembers fs then foldFields {} fs else none := by
  rw [parseRequestEnvelope_spec, h]
  rfl

theorem parse_mistyped (h : front s = some (.obj fs, rest)) (hf : ∃ f ∈ fs, ¬ Typed f) :
    parseRequestEnvelope s = none := by
  have hfold : foldFields {} fs = none := by
    cases hfold : foldFields {} fs with
    | none => rfl
    | some env =>
      obtain ⟨f, hmem, hmistyped⟩ := hf
      exact absurd (foldFields_isSome_iff.mp ⟨env, hfold⟩ f hmem) hmistyped
  rw [parse_object h, hfold, ite_self]

/-- The front of an object text is no object, and nothing else either. -/
theorem parse_truncated (hq : q ≠ []) (h : front (s ++ q) = some (.obj fs, [])) :
    parseRequestEnvelope s = none := by
  rw [parseRequestEnvelope_spec]
  cases hs : front s with
  | none => rfl
  | some p =>
    obtain ⟨x, rest⟩ := p
    rw [Option.bind_some]
    cases x with
    | obj fs' =>
      have hlength : s.length ≤ (s ++ q).length := by simp
      have hfuel : enough s ≤ enough (s ++ q) := by
        rw [enough, enough]
        omega
      rw [front_eq hfuel hlength] at hs
      have hwhole := value_append (q := q) hs (by rintro ⟨text, heq⟩; cases heq)
      rw [front, hwhole] at h
      have hnil := (Prod.mk.inj (Option.some.inj h)).2
      exact absurd (List.append_eq_nil_iff.mp hnil).2 hq
    | null | bool | num | str | arr => exact ite_self none

/-- For every text the envelope is as asked exactly when it is no object of typed
fields with a number too large for `float64` in it. -/
theorem envelope_parsed_iff (s : Str) :
    Meets s ↔ ∀ fs rest, front s = some (.obj fs, rest) → (∀ f ∈ fs, Typed f) →
      ∀ f ∈ fs, inRange f.2 = true := by
  constructor
  · intro h fs rest hfront htyped
    obtain ⟨env, hparse, -⟩ := h.object fs rest hfront htyped
    rw [parse_object hfront] at hparse
    split at hparse
    next hrange => exact inRangeMembers_iff.mp hrange
    · contradiction
  · intro h
    refine ⟨fun fs rest hfront htyped => ?_, fun fs rest hfront hf => parse_mistyped hfront hf,
      fun x rest hfront hx => ?_, fun hfront => ?_, fun q fs hq hwhole => parse_truncated hq hwhole⟩
    · obtain ⟨env, hfold⟩ := foldFields_isSome_iff.mpr htyped
      refine ⟨env, ?_, foldFields_declares hfold⟩
      rw [parse_object hfront, if_pos (inRangeMembers_iff.mpr (h fs rest hfront htyped)), hfold]
    · rw [parseRequestEnvelope_spec, hfront, Option.bind_some]
      cases x with
      | obj fs => exact absurd rfl (hx fs)
      | null | bool | num | str | arr => exact ite_self none
    · rw [parseRequestEnvelope_spec, hfront]
      rfl

/-- An object that declares the model `a`, behind a number of a thousand digits. -/
def largeNumber : List (Str × Json) :=
  [(lit "x", .num (lit "1e999")), (lit "model", .str (lit "a"))]

theorem front_largeNumber :
    front (lit "\x7b\"x\":1e999,\"model\":\"a\"\x7d") = some (.obj largeNumber, []) := by
  have htext : encode (.obj largeNumber) = lit "\x7b\"x\":1e999,\"model\":\"a\"\x7d" := by
    decide +kernel
  have hlength : (encode (.obj largeNumber)).length ≤ 30 := by decide +kernel
  have hfits : fits (.obj largeNumber) 30 :=
    ⟨by decide, show number (lit "1e999") = some (lit "1e999", []) by decide +kernel, trivial,
      trivial⟩
  have hvalid : valid (.obj largeNumber) = .obj largeNumber := by
    rw [valid, validMembers_eq_self]
    intro f hf
    simp only [largeNumber, List.mem_cons, List.not_mem_nil, or_false] at hf
    rcases hf with rfl | rfl
    · exact ⟨by decide +kernel, rfl⟩
    · exact ⟨by decide +kernel,
        by rw [valid, show toValid 0 (lit "a") = lit "a" by decide +kernel]⟩
  have hread := (readsBack (enough (encode (.obj largeNumber)))).value (.obj largeNumber) 30 hfits
    (le_refl _)
  rw [← front_eq (le_refl _) hlength, hvalid, htext] at hread
  exact hread

/-- The number is skipped, and it is too large for `float64` all the same. -/
theorem large_number_refused :
    ¬ Meets (lit "\x7b\"x\":1e999,\"model\":\"a\"\x7d") := by
  intro h
  have htyped : ∀ f ∈ largeNumber, Typed f := by
    intro f hf
    simp only [largeNumber, List.mem_cons, List.not_mem_nil, or_false] at hf
    rcases hf with rfl | rfl
    · exact ⟨fun h => absurd h (by decide), fun h => absurd h (by decide)⟩
    · exact ⟨fun _ => Or.inr ⟨_, rfl⟩, fun h => absurd h (by decide)⟩
  have hnone : (parseRequestEnvelope (lit "\x7b\"x\":1e999,\"model\":\"a\"\x7d")).isNone = true := by
    decide +kernel
  have hsome := h.object _ _ front_largeNumber htyped
  generalize parseRequestEnvelope (lit "\x7b\"x\":1e999,\"model\":\"a\"\x7d") = parsed at hnone hsome
  obtain ⟨env, rfl, -⟩ := hsome
  contradiction

end Claim

end Envelope

end Lune.Gateway
