import Lune.Lib.GoText

/-!
# JSON as Go reads it

The parser of Go's package `encoding/json`, on bytes.  A value is read at a
bounded nesting depth, and `Unmarshal` wants nothing but white space after it.
A string is unquoted as Go does it: what is not UTF-8 and what is not a pair of
surrogates becomes the replacement character.  A number keeps its text; reading
it as `float64` fails when it is too large, and `floats` says whether a number
is read so.

The recursion is on a fuel.  `value_enough` shows that twice the length of
the text is enough.
-/

namespace GoJson

open GoText

/-- A JSON value.  Fields keep the order of the text and may repeat a key. -/
inductive Json where
  | null
  | bool (b : Bool)
  | num (text : Str)
  | str (s : Str)
  | arr (elems : List Json)
  | obj (fields : List (Str × Json))

/-! ## White space, words and numbers -/

/-- JSON's own white space. -/
def isSpace (b : UInt8) : Bool := b == 32 || b == 9 || b == 10 || b == 13

def skipSpace (s : Str) : Str := s.dropWhile isSpace

/-- The digits at the front, when there is one. -/
def digitRun (s : Str) : Option (Str × Str) :=
  if s.takeWhile isDigit = [] then none else some (s.takeWhile isDigit, s.dropWhile isDigit)

/-- The part of a number before the point: no zero leads another digit. -/
def integerPart : Str → Option (Str × Str)
  | 48 :: rest => some ([48], rest)
  | s => digitRun s

/-- `.` and digits, or nothing. -/
def fractionPart : Str → Option (Str × Str)
  | 46 :: rest => (digitRun rest).map fun (ds, rest) => (46 :: ds, rest)
  | s => some ([], s)

/-- `e`, a sign and digits, or nothing. -/
def exponentPart : Str → Option (Str × Str)
  | b :: rest =>
    if b = 101 ∨ b = 69 then
      match rest with
      | 43 :: rest => (digitRun rest).map fun (ds, rest) => (b :: 43 :: ds, rest)
      | 45 :: rest => (digitRun rest).map fun (ds, rest) => (b :: 45 :: ds, rest)
      | _ => (digitRun rest).map fun (ds, rest) => (b :: ds, rest)
    else some ([], b :: rest)
  | [] => some ([], [])

/-- A number that starts with a digit: its text and what follows it. -/
def unsigned (s : Str) : Option (Str × Str) := do
  let (int, s) ← integerPart s
  let (frac, s) ← fractionPart s
  let (exp, s) ← exponentPart s
  return (int ++ frac ++ exp, s)

/-- A number. -/
def number : Str → Option (Str × Str)
  | 45 :: rest => (unsigned rest).map fun (text, rest) => (45 :: text, rest)
  | s => unsigned s

/-- The exponent as `strconv` reads it, which stops at five digits. -/
def exponentVal (s : Str) : Int :=
  let digits (ds : Str) : Nat :=
    ds.foldl (fun e b => if e < 10000 then 10 * e + (b.toNat - 48) else e) 0
  match s with
  | 45 :: ds => -(digits ds : Int)
  | 43 :: ds => digits ds
  | ds => digits ds

/-- `strconv.ParseFloat` reports a range error: the number rounds to `2^1024`
or more. -/
def floatOverflows (text : Str) : Bool :=
  let text := trimPrefix text [45]
  let mantissa := text.takeWhile fun b => b != 101 && b != 69
  let exponent := exponentVal ((text.dropWhile fun b => b != 101 && b != 69).drop 1)
  let (int, frac) := cut mantissa 46
  let digits := (int ++ frac.getD []).dropWhile (· == 48)
  let scale := exponent - (frac.getD []).length
  let bound := 2 ^ 1024 - 2 ^ 970
  if digits = [] then false
  else if 310 < digits.length + scale then true
  else if digits.length + scale < 309 then false
  else if 0 ≤ scale then bound ≤ digitsVal digits * 10 ^ scale.toNat
  else bound * 10 ^ (-scale).toNat ≤ digitsVal digits

/-! ## Strings -/

/-- A hexadecimal digit. -/
def isHex (b : UInt8) : Bool :=
  isDigit b || (97 ≤ b && b ≤ 102) || (65 ≤ b && b ≤ 70)

def hexVal (b : UInt8) : Nat :=
  if isDigit b then b.toNat - 48 else if b ≤ 70 then b.toNat - 55 else b.toNat - 87

/-- `getu4`, on digits the scanner has checked. -/
def hex4 (a b c d : UInt8) : Nat :=
  ((hexVal a * 16 + hexVal b) * 16 + hexVal c) * 16 + hexVal d

/-- The text up to the closing quote, with its escapes checked but not
replaced. -/
def quoted : Str → Option (Str × Str)
  | [] => none
  | 34 :: rest => some ([], rest)
  | 92 :: 117 :: a :: b :: c :: d :: rest =>
    if isHex a && isHex b && isHex c && isHex d then
      (quoted rest).map fun (text, rest) => (92 :: 117 :: a :: b :: c :: d :: text, rest)
    else none
  | 92 :: c :: rest =>
    if [98, 102, 110, 114, 116, 92, 47, 34].contains c then
      (quoted rest).map fun (text, rest) => (92 :: c :: text, rest)
    else none
  | b :: rest =>
    if b < 32 || b == 92 then none
    else (quoted rest).map fun (text, rest) => (b :: text, rest)

/-- The byte a one-letter escape stands for. -/
def escaped (c : UInt8) : UInt8 :=
  if c = 98 then 8 else if c = 102 then 12 else if c = 110 then 10
  else if c = 114 then 13 else if c = 116 then 9 else c

/-- `utf8.EncodeRune`. -/
def encodeRune (r : Nat) : Str := String.utf8EncodeChar (Char.ofNat r)

/-- U+FFFD. -/
def replacement : Str := [0xEF, 0xBF, 0xBD]

/-- A continuation byte of UTF-8. -/
def isTail (b : UInt8) : Bool := 0x80 ≤ b && b ≤ 0xBF

/-- How many bytes after the first belong to the character at the front, by
`utf8.DecodeRune`; `none` when there is no character. -/
def runeTail (b : UInt8) (rest : Str) : Option Nat :=
  let within (lo hi c : UInt8) : Bool := lo ≤ c && c ≤ hi
  if b < 0x80 then some 0
  else match rest with
    | c :: rest =>
      if within 0xC2 0xDF b then if isTail c then some 1 else none
      else match rest with
        | d :: rest =>
          let second := if b = 0xE0 then within 0xA0 0xBF c
            else if b = 0xED then within 0x80 0x9F c else isTail c
          if within 0xE0 0xEF b then if second && isTail d then some 2 else none
          else match rest with
            | e :: _ =>
              let second := if b = 0xF0 then within 0x90 0xBF c
                else if b = 0xF4 then within 0x80 0x8F c else isTail c
              if within 0xF0 0xF4 b && second && isTail d && isTail e then some 3 else none
            | [] => none
        | [] => none
    | [] => none

/-- The character two surrogates write together. -/
def surrogatePair (hi lo : Nat) : Option Nat :=
  if 0xD800 ≤ hi ∧ hi < 0xDC00 ∧ 0xDC00 ≤ lo ∧ lo < 0xE000 then
    some ((hi - 0xD800) * 0x400 + (lo - 0xDC00) + 0x10000)
  else none

/-- `unquote`; the first `copy` bytes are the rest of a character. -/
def unquote (copy : Nat) : Str → Str
  | [] => []
  | 92 :: 117 :: a :: b :: c :: d :: 92 :: 117 :: e :: f :: g :: h :: rest =>
    let hi := hex4 a b c d
    match surrogatePair hi (hex4 e f g h) with
    | some r => encodeRune r ++ unquote 0 rest
    | none =>
      (if 0xD800 ≤ hi ∧ hi < 0xE000 then replacement else encodeRune hi) ++
        unquote 0 (92 :: 117 :: e :: f :: g :: h :: rest)
  | 92 :: 117 :: a :: b :: c :: d :: rest =>
    let r := hex4 a b c d
    (if 0xD800 ≤ r ∧ r < 0xE000 then replacement else encodeRune r) ++ unquote 0 rest
  | 92 :: c :: rest => escaped c :: unquote 0 rest
  | b :: rest =>
    match copy with
    | copy + 1 => b :: unquote copy rest
    | 0 =>
      match runeTail b rest with
      | some tail => b :: unquote tail rest
      | none => replacement ++ unquote 0 rest

/-- The digits of a `\\u00` escape. -/
def hexByte (b : UInt8) : Str :=
  let hex (n : UInt8) : UInt8 := if n < 10 then 48 + n else 87 + n
  [hex (b / 16), hex (b % 16)]

/-- The text of a string as `json.Marshal` writes it, which also escapes what
HTML would read; the first `copy` bytes are the rest of a character. -/
def escape (copy : Nat) : Str → Str
  | [] => []
  | 0xE2 :: 0x80 :: 0xA8 :: rest => lit "\\u2028" ++ escape 0 rest
  | 0xE2 :: 0x80 :: 0xA9 :: rest => lit "\\u2029" ++ escape 0 rest
  | b :: rest =>
    match copy with
    | copy + 1 => b :: escape copy rest
    | 0 =>
      if b = 34 ∨ b = 92 then 92 :: b :: escape 0 rest
      else if b = 8 then 92 :: 98 :: escape 0 rest
      else if b = 12 then 92 :: 102 :: escape 0 rest
      else if b = 10 then 92 :: 110 :: escape 0 rest
      else if b = 13 then 92 :: 114 :: escape 0 rest
      else if b = 9 then 92 :: 116 :: escape 0 rest
      else if b < 32 ∨ b = 60 ∨ b = 62 ∨ b = 38 then
        lit "\\u00" ++ hexByte b ++ escape 0 rest
      else match runeTail b rest with
        | none => lit "\\ufffd" ++ escape 0 rest
        | some tail => b :: escape tail rest

/-- A string as `json.Marshal` writes it. -/
def quote (s : Str) : Str := 34 :: (escape 0 s ++ [34])

/-! ## Values -/

/-- The rest of the text after a word. -/
def word (w s : Str) : Option Str := if hasPrefix s w then some (s.drop w.length) else none

mutual

/-- A value and what follows it.  `depth` is how many containers may still be
opened. -/
def value (floats : Bool) : Nat → Nat → Str → Option (Json × Str)
  | 0, _, _ => none
  | fuel + 1, depth, s =>
    match skipSpace s with
    | 123 :: rest =>
      if depth = 0 then none
      else match skipSpace rest with
        | 125 :: rest => some (.obj [], rest)
        | _ => (members floats fuel (depth - 1) rest).map fun (fs, rest) => (.obj fs, rest)
    | 91 :: rest =>
      if depth = 0 then none
      else match skipSpace rest with
        | 93 :: rest => some (.arr [], rest)
        | _ => (elements floats fuel (depth - 1) rest).map fun (xs, rest) => (.arr xs, rest)
    | 34 :: rest => (quoted rest).map fun (text, rest) => (.str (unquote 0 text), rest)
    | 116 :: rest => (word (lit "rue") rest).map fun rest => (.bool true, rest)
    | 102 :: rest => (word (lit "alse") rest).map fun rest => (.bool false, rest)
    | 110 :: rest => (word (lit "ull") rest).map fun rest => (.null, rest)
    | s =>
      match number s with
      | some (text, rest) =>
        if floats && floatOverflows text then none else some (.num text, rest)
      | none => none

/-- The elements of an array, up to its bracket. -/
def elements (floats : Bool) : Nat → Nat → Str → Option (List Json × Str)
  | 0, _, _ => none
  | fuel + 1, depth, s =>
    match value floats fuel depth s with
    | none => none
    | some (x, rest) =>
      match skipSpace rest with
      | 44 :: rest => (elements floats fuel depth rest).map fun (xs, rest) => (x :: xs, rest)
      | 93 :: rest => some ([x], rest)
      | _ => none

/-- The fields of an object, up to its brace. -/
def members (floats : Bool) : Nat → Nat → Str → Option (List (Str × Json) × Str)
  | 0, _, _ => none
  | fuel + 1, depth, s =>
    match skipSpace s with
    | 34 :: rest =>
      match quoted rest with
      | none => none
      | some (key, rest) =>
        match skipSpace rest with
        | 58 :: rest =>
          match value floats fuel depth rest with
          | none => none
          | some (x, rest) =>
            match skipSpace rest with
            | 44 :: rest =>
              (members floats fuel depth rest).map fun (fs, rest) =>
                ((unquote 0 key, x) :: fs, rest)
            | 125 :: rest => some ([(unquote 0 key, x)], rest)
            | _ => none
        | _ => none
    | _ => none

end

/-- How deep `encoding/json` goes. -/
def maxNestingDepth : Nat := 10000

/-- Enough fuel for a text. -/
def enough (s : Str) : Nat := 2 * s.length + 1

/-- `json.Unmarshal`, up to the conversion of the value to its target. -/
def unmarshal (floats : Bool) (s : Str) : Option Json :=
  match value floats (enough s) maxNestingDepth s with
  | some (v, rest) => if skipSpace rest = [] then some v else none
  | none => none

/-- The field a key has in a Go map: the last one of that key. -/
def field? (fields : List (Str × Json)) (key : Str) : Option Json :=
  (fields.reverse.find? fun f => f.1 = key).map Prod.snd

/-! ## What is read is consumed -/

theorem length_skipSpace_le (s : Str) : (skipSpace s).length ≤ s.length :=
  (List.dropWhile_sublist isSpace).length_le

theorem length_skipSpace_cons {s : Str} {b : UInt8} {rest : Str} (h : skipSpace s = b :: rest) :
    rest.length < s.length := by
  have hle := length_skipSpace_le s
  rw [h, List.length_cons] at hle
  omega

theorem length_digitRun {s ds rest : Str} (h : digitRun s = some (ds, rest)) :
    rest.length < s.length := by
  unfold digitRun at h
  split at h
  · contradiction
  rename_i hne
  obtain ⟨-, rfl⟩ := Prod.mk.inj (Option.some.inj h)
  have hsplit := congrArg List.length (List.takeWhile_append_dropWhile (p := isDigit) (l := s))
  rw [List.length_append] at hsplit
  have hpos := List.length_pos_iff.mpr hne
  omega

theorem length_integerPart {s ds rest : Str} (h : integerPart s = some (ds, rest)) :
    rest.length < s.length := by
  unfold integerPart at h
  split at h
  · obtain ⟨-, rfl⟩ := Prod.mk.inj (Option.some.inj h)
    simp
  · exact length_digitRun h

theorem length_fractionPart {s ds rest : Str} (h : fractionPart s = some (ds, rest)) :
    rest.length ≤ s.length := by
  unfold fractionPart at h
  split at h
  · obtain ⟨⟨ds', rest'⟩, hrun, heq⟩ := Option.map_eq_some_iff.mp h
    obtain ⟨-, rfl⟩ := Prod.mk.inj heq
    have hlt := length_digitRun hrun
    rw [List.length_cons]
    omega
  · obtain ⟨-, rfl⟩ := Prod.mk.inj (Option.some.inj h)
    exact le_refl _

theorem length_exponentPart {s ds rest : Str} (h : exponentPart s = some (ds, rest)) :
    rest.length ≤ s.length := by
  unfold exponentPart at h
  split at h
  · split at h
    · split at h <;>
      · obtain ⟨⟨ds', rest'⟩, hrun, heq⟩ := Option.map_eq_some_iff.mp h
        obtain ⟨-, rfl⟩ := Prod.mk.inj heq
        have hlt := length_digitRun hrun
        simp only [List.length_cons]
        omega
    · obtain ⟨-, rfl⟩ := Prod.mk.inj (Option.some.inj h)
      exact le_refl _
  · obtain ⟨-, rfl⟩ := Prod.mk.inj (Option.some.inj h)
    exact le_refl _

theorem length_unsigned {s text rest : Str} (h : unsigned s = some (text, rest)) :
    rest.length < s.length := by
  unfold unsigned at h
  simp only [Option.bind_eq_bind, Option.bind_eq_some_iff, Prod.exists] at h
  obtain ⟨_, s₁, hint, _, s₂, hfrac, _, s₃, hexp, heq⟩ := h
  obtain ⟨-, rfl⟩ := Prod.mk.inj (Option.some.inj heq)
  have hint := length_integerPart hint
  have hfrac := length_fractionPart hfrac
  have hexp := length_exponentPart hexp
  omega

theorem length_number {s text rest : Str} (h : number s = some (text, rest)) :
    rest.length < s.length := by
  unfold number at h
  split at h
  · obtain ⟨⟨text', rest'⟩, hrun, heq⟩ := Option.map_eq_some_iff.mp h
    obtain ⟨-, rfl⟩ := Prod.mk.inj heq
    have hlt := length_unsigned hrun
    rw [List.length_cons]
    omega
  · exact length_unsigned h

theorem length_quoted {s text rest : Str} (h : quoted s = some (text, rest)) :
    rest.length < s.length := by
  fun_induction quoted s generalizing text with
  | case1 => contradiction
  | case2 s =>
    obtain ⟨-, rfl⟩ := Prod.mk.inj (Option.some.inj h)
    simp
  | case3 a b c d s _ ih | case5 c s _ _ ih | case8 b s _ _ _ _ ih =>
    obtain ⟨⟨text', rest'⟩, hrun, heq⟩ := Option.map_eq_some_iff.mp h
    obtain ⟨-, rfl⟩ := Prod.mk.inj heq
    have hlt := ih hrun
    simp only [List.length_cons]
    omega
  | case4 | case6 | case7 => contradiction

theorem length_word {w s rest : Str} (h : word w s = some rest) : rest.length ≤ s.length := by
  unfold word at h
  split at h
  · obtain rfl := Option.some.inj h
    exact (List.drop_sublist _ _).length_le
  · contradiction

theorem length_word_map {w s : Str} {v x : Json} {rest : Str}
    (h : (word w s).map (fun rest => (v, rest)) = some (x, rest)) : rest.length ≤ s.length := by
  obtain ⟨rest', hword, heq⟩ := Option.map_eq_some_iff.mp h
  obtain ⟨-, rfl⟩ := Prod.mk.inj heq
  exact length_word hword

/-- A parser leaves less than it was given. -/
def Consumes {α : Type} (parse : Str → Option (α × Str)) : Prop :=
  ∀ s x rest, parse s = some (x, rest) → rest.length < s.length

theorem Consumes.of_map {α β : Type} {parse : Str → Option (α × Str)} (hparse : Consumes parse)
    {f : α × Str → β × Str} (hf : ∀ x rest, (f (x, rest)).2 = rest) {s : Str} {y : β} {rest : Str}
    (h : (parse s).map f = some (y, rest)) : rest.length < s.length := by
  obtain ⟨⟨x, rest'⟩, hrun, heq⟩ := Option.map_eq_some_iff.mp h
  have hrest := hf x rest'
  rw [heq] at hrest
  have hlt := hparse s x rest' hrun
  rwa [← hrest] at hlt

theorem consumes_value {floats : Bool} {fuel : Nat}
    (helements : ∀ depth, Consumes (elements floats fuel depth))
    (hmembers : ∀ depth, Consumes (members floats fuel depth)) (depth : Nat) :
    Consumes (value floats (fuel + 1) depth) := by
  intro s x rest h
  rw [value] at h
  split at h
  next tail hs =>
    have hlt := length_skipSpace_cons hs
    split at h
    · contradiction
    split at h
    next tail' htail =>
      obtain ⟨-, rfl⟩ := Prod.mk.inj (Option.some.inj h)
      have hlt' := length_skipSpace_cons htail
      omega
    · have hmap := (hmembers _).of_map (fun x rest => rfl) h
      omega
  next tail hs =>
    have hlt := length_skipSpace_cons hs
    split at h
    · contradiction
    split at h
    next tail' htail =>
      obtain ⟨-, rfl⟩ := Prod.mk.inj (Option.some.inj h)
      have hlt' := length_skipSpace_cons htail
      omega
    · have hmap := (helements _).of_map (fun x rest => rfl) h
      omega
  next tail hs =>
    have hlt := length_skipSpace_cons hs
    have hmap := Consumes.of_map (fun s text rest h => length_quoted h) (fun x rest => rfl) h
    omega
  iterate 3
    next tail hs =>
      have hlt := length_skipSpace_cons hs
      have hle := length_word_map h
      omega
  · split at h
    next text rest' hnum =>
      split at h
      · contradiction
      obtain ⟨-, rfl⟩ := Prod.mk.inj (Option.some.inj h)
      have hlt := length_number hnum
      have hle := length_skipSpace_le s
      omega
    · contradiction

theorem consumes_elements {floats : Bool} {fuel : Nat}
    (hvalue : ∀ depth, Consumes (value floats fuel depth))
    (helements : ∀ depth, Consumes (elements floats fuel depth)) (depth : Nat) :
    Consumes (elements floats (fuel + 1) depth) := by
  intro s xs rest h
  rw [elements] at h
  split at h
  · contradiction
  next x tail hx =>
    have hlt := hvalue _ _ _ _ hx
    split at h
    next tail' htail =>
      have hlt' := length_skipSpace_cons htail
      have hmap := (helements _).of_map (fun x rest => rfl) h
      omega
    next tail' htail =>
      obtain ⟨-, rfl⟩ := Prod.mk.inj (Option.some.inj h)
      have hlt' := length_skipSpace_cons htail
      omega
    · contradiction

theorem consumes_members {floats : Bool} {fuel : Nat}
    (hvalue : ∀ depth, Consumes (value floats fuel depth))
    (hmembers : ∀ depth, Consumes (members floats fuel depth)) (depth : Nat) :
    Consumes (members floats (fuel + 1) depth) := by
  intro s fs rest h
  rw [members] at h
  split at h
  next tail hs =>
    have hlt := length_skipSpace_cons hs
    split at h
    · contradiction
    next key tail₁ hkey =>
      have hlt₁ := length_quoted hkey
      split at h
      next tail₂ hcolon =>
        have hlt₂ := length_skipSpace_cons hcolon
        split at h
        · contradiction
        next x tail₃ hx =>
          have hlt₃ := hvalue _ _ _ _ hx
          split at h
          next tail₄ hcomma =>
            have hlt₄ := length_skipSpace_cons hcomma
            have hmap := (hmembers _).of_map (fun x rest => rfl) h
            omega
          next tail₄ hbrace =>
            obtain ⟨-, rfl⟩ := Prod.mk.inj (Option.some.inj h)
            have hlt₄ := length_skipSpace_cons hbrace
            omega
          · contradiction
      · contradiction
  · contradiction

theorem consumes (floats : Bool) (fuel : Nat) :
    (∀ depth, Consumes (value floats fuel depth)) ∧
      (∀ depth, Consumes (elements floats fuel depth)) ∧
      (∀ depth, Consumes (members floats fuel depth)) := by
  induction fuel with
  | zero =>
    refine ⟨?_, ?_, ?_⟩ <;>
    · intro depth s x rest h
      contradiction
  | succ fuel ih =>
    obtain ⟨hvalue, helements, hmembers⟩ := ih
    exact ⟨consumes_value helements hmembers, consumes_elements hvalue helements,
      consumes_members hvalue hmembers⟩

/-! ## The fuel is enough -/

/-- Two parsers that read the same from every text shorter than a bound. -/
def AgreeBelow {α : Type} (bound : Nat) (parse parse' : Str → Option (α × Str)) : Prop :=
  ∀ s, s.length < bound → parse s = parse' s

section Congr

variable {floats : Bool} {n m depth depth' : Nat} {s : Str}

theorem value_congr (hdepth : 0 < s.length → (depth = 0 ↔ depth' = 0))
    (helements : AgreeBelow s.length (elements floats n (depth - 1)) (elements floats m (depth' - 1)))
    (hmembers : AgreeBelow s.length (members floats n (depth - 1)) (members floats m (depth' - 1))) :
    value floats (n + 1) depth s = value floats (m + 1) depth' s := by
  rw [value, value]
  split
  next rest hs =>
    have hlt := length_skipSpace_cons hs
    simp only [hmembers rest hlt, hdepth (by omega)]
  next rest hs =>
    have hlt := length_skipSpace_cons hs
    simp only [helements rest hlt, hdepth (by omega)]
  all_goals simp_all

theorem elements_congr (hvalue : value floats n depth s = value floats m depth' s)
    (helements : AgreeBelow s.length (elements floats n depth) (elements floats m depth')) :
    elements floats (n + 1) depth s = elements floats (m + 1) depth' s := by
  rw [elements, elements, hvalue]
  cases hx : value floats m depth' s with
  | none => rfl
  | some p =>
    obtain ⟨x, rest⟩ := p
    have hlt := (consumes floats m).1 _ _ _ _ hx
    dsimp only
    split
    next rest' hcomma =>
      have hlt' := length_skipSpace_cons hcomma
      simp only [helements rest' (by omega)]
    all_goals rfl

theorem members_congr (hvalue : AgreeBelow s.length (value floats n depth) (value floats m depth'))
    (hmembers : AgreeBelow s.length (members floats n depth) (members floats m depth')) :
    members floats (n + 1) depth s = members floats (m + 1) depth' s := by
  rw [members, members]
  split
  next tail hs =>
    have hlt := length_skipSpace_cons hs
    dsimp only
    cases hkey : quoted tail with
    | none => rfl
    | some p =>
      obtain ⟨key, tail₁⟩ := p
      have hlt₁ := length_quoted hkey
      dsimp only
      split
      next tail₂ hcolon =>
        have hlt₂ := length_skipSpace_cons hcolon
        simp only [hvalue tail₂ (by omega)]
        cases hx : value floats m depth' tail₂ with
        | none => rfl
        | some p =>
          obtain ⟨x, tail₃⟩ := p
          have hlt₃ := (consumes floats m).1 _ _ _ _ hx
          dsimp only
          split
          next tail₄ hcomma =>
            have hlt₄ := length_skipSpace_cons hcomma
            simp only [hmembers tail₄ (by omega)]
          all_goals rfl
      · simp_all
  · simp_all

end Congr

/-- Fuel beyond twice the length of the text changes nothing. -/
theorem fuel_agree (floats : Bool) (n : Nat) : ∀ m depth s,
    (2 * s.length + 1 ≤ n → 2 * s.length + 1 ≤ m →
      value floats n depth s = value floats m depth s) ∧
    (2 * s.length + 2 ≤ n → 2 * s.length + 2 ≤ m →
      elements floats n depth s = elements floats m depth s ∧
        members floats n depth s = members floats m depth s) := by
  induction n with
  | zero => intro m depth s; exact ⟨by omega, by omega⟩
  | succ n ih =>
    intro m depth s
    cases m with
    | zero => exact ⟨by omega, by omega⟩
    | succ m =>
      refine ⟨fun hn hm => ?_, fun hn hm => ⟨?_, ?_⟩⟩
      · exact value_congr (fun _ => Iff.rfl)
          (fun t ht => ((ih m (depth - 1) t).2 (by omega) (by omega)).1)
          (fun t ht => ((ih m (depth - 1) t).2 (by omega) (by omega)).2)
      · exact elements_congr ((ih m depth s).1 (by omega) (by omega))
          (fun t ht => ((ih m depth t).2 (by omega) (by omega)).1)
      · exact members_congr (fun t ht => (ih m depth t).1 (by omega) (by omega))
          (fun t ht => ((ih m depth t).2 (by omega) (by omega)).2)

/-- `enough` is enough. -/
theorem value_enough (floats : Bool) {fuel : Nat} (depth : Nat) {s : Str} (h : enough s ≤ fuel) :
    value floats fuel depth s = value floats (enough s) depth s :=
  (fuel_agree floats fuel (enough s) depth s).1 h (le_refl _)

end GoJson
