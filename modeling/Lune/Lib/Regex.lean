import Lune.Lib.GoText

/-!
# Regular expressions

What the patterns of the source need of the package `regexp`.  A match is the
leftmost one, and of those at one place the first that a search with backtracking
comes to.  `(?i)` lets a letter stand for its other case; for `k` and `s` that
includes `U+212A` and `U+017F`.

The search goes byte by byte.  Every class here is either a set of ASCII
characters with their other cases, or leaves out ASCII characters only, so no
match starts or ends inside a character.
-/

namespace Regex

open GoText

/-- A set of characters: ASCII or, when it is a complement, single bytes, and the
encodings outside ASCII that belong to it. -/
structure CharClass where
  bytes : UInt8 → Bool
  encodings : List Str := []

/-- How many bytes of the class the text starts with; none when it does not. -/
def CharClass.width (c : CharClass) (s : Str) : Nat :=
  match c.encodings.find? (fun u => u.isPrefixOf s) with
  | some u => u.length
  | none => match s with
    | b :: _ => if c.bytes b then 1 else 0
    | [] => 0

/-- A pattern.  `many` repeats a class, as often as it can or as rarely, and
`group` remembers what it matched. -/
inductive Pattern where
  | empty
  | char (c : CharClass)
  | seq (p q : Pattern)
  | alt (p q : Pattern)
  | many (greedy : Bool) (c : CharClass)
  | group (p : Pattern)
  | wordBoundary

/-- A place in the text, with the byte before it, and what the group matched. -/
structure Place where
  before : Option UInt8
  rest : Str
  group : Str := []

/-- The place `n` bytes on. -/
def Place.advance (here : Place) (n : Nat) : Place :=
  { here with before := (here.rest.take n).getLast?.or here.before, rest := here.rest.drop n }

/-- `[0-9A-Za-z_]`. -/
def isWordByte (b : UInt8) : Bool :=
  isDigit b || (65 ≤ b && b ≤ 90) || (97 ≤ b && b ≤ 122) || b == 95

/-- `\b`. -/
def Place.isBoundary (here : Place) : Bool :=
  (here.before.any isWordByte) != (here.rest.head?.any isWordByte)

/-- The repeats of a class, and then what follows. -/
def matchMany (greedy : Bool) (c : CharClass) (next : Place → Option Place) :
    Nat → Place → Option Place
  | 0, here => next here
  | fuel + 1, here =>
    match c.width here.rest with
    | 0 => next here
    | n + 1 =>
      let more := fun _ : Unit => matchMany greedy c next fuel (here.advance (n + 1))
      if greedy then (more ()).or (next here) else (next here).or (more ())

/-- The end of the first match of the pattern that what follows agrees with.
Every repeat takes a byte, so the length is enough fuel. -/
def Pattern.run : Pattern → Place → (Place → Option Place) → Option Place
  | empty, here, next => next here
  | char c, here, next =>
    match c.width here.rest with
    | 0 => none
    | n + 1 => next (here.advance (n + 1))
  | seq p q, here, next => p.run here fun mid => q.run mid next
  | alt p q, here, next => (p.run here next).or (q.run here next)
  | many greedy c, here, next => matchMany greedy c next here.rest.length here
  | group p, here, next => p.run here fun after =>
    next { after with group := here.rest.take (here.rest.length - after.rest.length) }
  | wordBoundary, here, next => if here.isBoundary then next here else none

/-- `ReplaceAllString`, for a pattern that does not match the empty text.  The
replacement sees the group. -/
def Pattern.replaceAll (p : Pattern) (replacement : Str → Str) : Nat → Option UInt8 → Str → Str
  | 0, _, s => s
  | _ + 1, _, [] => []
  | fuel + 1, before, b :: s =>
    match p.run ⟨before, b :: s, []⟩ some with
    | some after => replacement after.group ++ p.replaceAll replacement fuel after.before after.rest
    | none => b :: p.replaceAll replacement fuel (some b) s

/-! ## Patterns -/

/-- A letter in either case, and any other character as it is. -/
def foldedChar (b : UInt8) : CharClass where
  bytes c := lowerByte c == lowerByte b
  encodings :=
    if lowerByte b = 107 then [[0xE2, 0x84, 0xAA]]
    else if lowerByte b = 115 then [[0xC5, 0xBF]] else []

/-- A text under `(?i)`. -/
def word (text : String) : Pattern :=
  (lit text).foldr (fun b p => .seq (.char (foldedChar b)) p) .empty

/-- `[A-Za-z0-9` and more characters `]` under `(?i)`. -/
def alnumAnd (more : String) : CharClass where
  bytes b := isDigit b || (65 ≤ b && b ≤ 90) || (97 ≤ b && b ≤ 122) || (lit more).contains b
  encodings := [[0xE2, 0x84, 0xAA], [0xC5, 0xBF]]

/-- `[ \t\n\f\r]`, which is `\s`. -/
def space : CharClass where
  bytes b := b == 32 || b == 9 || b == 10 || b == 12 || b == 13

/-- One of the characters. -/
def oneOf (chars : List UInt8) : CharClass where
  bytes b := chars.contains b

/-- The characters that are none of these. -/
def noneOf (chars : List UInt8) : CharClass where
  bytes b := !chars.contains b

/-- `p+`. -/
def CharClass.plus (c : CharClass) : Pattern := .seq (.char c) (.many true c)

/-- `p{n,}`. -/
def CharClass.atLeast (c : CharClass) : Nat → Pattern
  | 0 => .many true c
  | n + 1 => .seq (.char c) (c.atLeast n)

/-- `p?`. -/
def CharClass.optional (c : CharClass) : Pattern := .alt (.char c) .empty

/-- One pattern after the other. -/
def sequence (ps : List Pattern) : Pattern := ps.foldr .seq .empty

/-- One of the patterns, the first ones first. -/
def choice : List Pattern → Pattern
  | [] => .empty
  | [p] => p
  | p :: ps => .alt p (choice ps)

/-- `ReplaceAllString` on a whole text. -/
def Pattern.replace (p : Pattern) (replacement : Str → Str) (s : Str) : Str :=
  p.replaceAll replacement s.length none s

/-- Leaves out every byte of a run of white space but one blank. -/
def squeezeSpace (s : Str) : Str := space.plus.replace (fun _ => [32]) s

example : (word "sk").replace (fun _ => lit "X") (lit "a Sk sK") = lit "a X X" := by decide

end Regex
