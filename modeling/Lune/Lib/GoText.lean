import Mathlib.Algebra.Ring.Int.Defs
import Mathlib.Algebra.Ring.Nat
import Mathlib.Data.List.Basic
import Mathlib.Data.List.Infix

/-!
# Go text as bytes

A Go `string` and a Go `[]byte` are both finite byte sequences, and neither
has to be valid UTF-8.  `Str` is that sequence.  This file gives the functions
of the Go packages `strings`, `bytes` and `strconv` that work on it.

Case functions follow Go where ASCII text is looked for, which is the only
use they have here: a letter is changed exactly when its other case is an
ASCII letter.  Outside ASCII that is the Kelvin sign `U+212A`, the dotted
capital `U+0130` and the long `U+017F`.
-/

namespace GoText

/-- A Go `string` or `[]byte`. -/
abbrev Str := List UInt8

instance : LawfulBEq Str := inferInstance

/-- The bytes of a string literal. -/
def lit (text : String) : Str :=
  text.toList.flatMap String.utf8EncodeChar

/-- The decimal digits of a number. -/
def digits (n : Nat) : Str := (Nat.toDigits 10 n).map fun c => UInt8.ofNat c.toNat

/-- `strconv.Itoa`, `strconv.FormatInt` in base ten and the verb `%d`. -/
def itoa (n : Int) : Str := if n < 0 then 45 :: digits n.natAbs else digits n.natAbs

/-! ## Case -/

/-- The lower case of an ASCII byte; every other byte is kept. -/
def lowerByte (b : UInt8) : UInt8 :=
  if 65 ≤ b ∧ b ≤ 90 then b + 32 else b

/-- `strings.ToLower`, as far as a search for ASCII text can tell. -/
def toLower : Str → Str
  | 0xE2 :: 0x84 :: 0xAA :: rest => 107 :: toLower rest
  | 0xC4 :: 0xB0 :: rest => 105 :: toLower rest
  | b :: rest => lowerByte b :: toLower rest
  | [] => []

/-- The representative that simple case folding gives a text whose letters
fold to ASCII. -/
def foldCase : Str → Str
  | 0xE2 :: 0x84 :: 0xAA :: rest => 107 :: foldCase rest
  | 0xC5 :: 0xBF :: rest => 115 :: foldCase rest
  | b :: rest => lowerByte b :: foldCase rest
  | [] => []

/-- `strings.EqualFold`. -/
def equalFold (s t : Str) : Bool := foldCase s == foldCase t

/-! ## White space -/

/-- The UTF-8 encodings of the characters with the Unicode property
`White_Space`. -/
def spaces : List Str :=
  [[9], [10], [11], [12], [13], [32], [0xC2, 0x85], [0xC2, 0xA0], [0xE1, 0x9A, 0x80],
    [0xE2, 0x80, 0x80], [0xE2, 0x80, 0x81], [0xE2, 0x80, 0x82], [0xE2, 0x80, 0x83],
    [0xE2, 0x80, 0x84], [0xE2, 0x80, 0x85], [0xE2, 0x80, 0x86], [0xE2, 0x80, 0x87],
    [0xE2, 0x80, 0x88], [0xE2, 0x80, 0x89], [0xE2, 0x80, 0x8A], [0xE2, 0x80, 0xA8],
    [0xE2, 0x80, 0xA9], [0xE2, 0x80, 0xAF], [0xE2, 0x81, 0x9F], [0xE3, 0x80, 0x80]]

/-- Drop encodings from `units` off the front, at most `fuel` of them. -/
def dropUnits (units : List Str) : Nat → Str → Str
  | 0, s => s
  | fuel + 1, s =>
    match units.find? (fun u => u.isPrefixOf s) with
    | some u => dropUnits units fuel (s.drop u.length)
    | none => s

/-- White space off the front.  Every step drops a byte, so the length is
enough fuel. -/
def trimLeftSpace (s : Str) : Str := dropUnits spaces s.length s

/-- White space off the end.  UTF-8 encodings end where they end whichever
side they are read from, so the reversed text is trimmed on the left. -/
def trimRightSpace (s : Str) : Str :=
  (dropUnits (spaces.map List.reverse) s.length s.reverse).reverse

/-- `strings.TrimSpace` and `bytes.TrimSpace`. -/
def trimSpace (s : Str) : Str := trimRightSpace (trimLeftSpace s)

/-- `strings.TrimSpace(s) == ""`. -/
def isBlank (s : Str) : Bool := trimSpace s == []

/-! ## Parts of a text -/

/-- `strings.HasPrefix`. -/
def hasPrefix (s p : Str) : Bool := p.isPrefixOf s

/-- `strings.HasSuffix`. -/
def hasSuffix (s p : Str) : Bool := p.isSuffixOf s

/-- `strings.Contains`. -/
def contains (s phrase : Str) : Bool :=
  match s with
  | [] => phrase == []
  | b :: rest => phrase.isPrefixOf (b :: rest) || contains rest phrase

/-- `strings.Contains` for one of several phrases. -/
def containsAny (s : Str) (phrases : List Str) : Bool :=
  phrases.any (contains s)

/-- `strings.TrimPrefix`. -/
def trimPrefix (s p : Str) : Str := if hasPrefix s p then s.drop p.length else s

/-- `strings.TrimSuffix`. -/
def trimSuffix (s p : Str) : Str :=
  if hasSuffix s p then s.take (s.length - p.length) else s

/-- `strings.TrimRight` with a single byte as the cut set. -/
def trimRightByte (s : Str) (b : UInt8) : Str := (s.reverse.dropWhile (· == b)).reverse

/-- `strings.Trim` with a single byte as the cut set. -/
def trimByte (s : Str) (b : UInt8) : Str := trimRightByte (s.dropWhile (· == b)) b

/-- `strings.Cut` at a single byte: the text before the first `b`, and the
text after it when there is one. -/
def cut (s : Str) (b : UInt8) : Str × Option Str :=
  match s with
  | [] => ([], none)
  | c :: rest =>
    if c == b then ([], some rest)
    else (c :: (cut rest b).1, (cut rest b).2)

/-! ## Numbers -/

/-- An ASCII digit. -/
def isDigit (b : UInt8) : Bool := 48 ≤ b && b ≤ 57

/-- The number a byte string of digits writes. -/
def digitsVal (s : Str) : Nat :=
  s.foldl (fun n b => 10 * n + (b.toNat - 48)) 0

/-- A nonempty run of digits as a number. -/
def parseDigits (s : Str) : Option Nat :=
  if s ≠ [] ∧ s.all isDigit then some (digitsVal s) else none

/-- `strconv.Atoi` and `strconv.ParseInt(s, 10, 64)`: an optional sign, digits,
and a value that fits 64 bits. -/
def atoi (s : Str) : Option Int :=
  let value : Option Int :=
    match s with
    | 43 :: rest => (parseDigits rest).map Int.ofNat
    | 45 :: rest => (parseDigits rest).map fun n => -(n : Int)
    | _ => (parseDigits s).map Int.ofNat
  value.filter fun n => -(2 ^ 63) ≤ n && n < 2 ^ 63

/-! ## The simp set -/

@[simp] theorem toLower_nil : toLower [] = [] := rfl

@[simp] theorem contains_nil (phrase : Str) : contains [] phrase = (phrase == []) := by
  rw [contains]

@[simp] theorem equalFold_refl (s : Str) : equalFold s s = true := by
  simp [equalFold]

theorem isDigit_of_mem_digits {n : Nat} {b : UInt8} (h : b ∈ digits n) : isDigit b = true := by
  obtain ⟨c, hc, rfl⟩ := List.mem_map.mp h
  have hdigit := Nat.isDigit_of_mem_toDigits (by decide) (by decide) hc
  have hlo : '0'.val.toNat = 48 := rfl
  have hhi : '9'.val.toNat = 57 := rfl
  simp only [Char.isDigit, Bool.and_eq_true, decide_eq_true_eq, ge_iff_le, UInt32.le_iff_toNat_le,
    hlo, hhi] at hdigit
  simp only [isDigit, Bool.and_eq_true, decide_eq_true_eq, UInt8.le_iff_toNat_le,
    UInt8.toNat_ofNat', UInt8.reduceToNat, Char.toNat]
  omega

/-- A number is written with digits and a sign. -/
theorem blank_not_mem_itoa (n : Int) : (32 : UInt8) ∉ itoa n := by
  intro h
  have hdigits : (32 : UInt8) ∉ digits n.natAbs := fun hd =>
    absurd (isDigit_of_mem_digits hd) (by decide)
  unfold itoa at h
  split at h
  · rcases List.mem_cons.mp h with heq | hd
    · exact absurd heq (by decide)
    · exact hdigits hd
  · exact hdigits h

/-- A printable ASCII byte other than the blank. -/
def isGraphic (b : UInt8) : Bool := 33 ≤ b && b ≤ 126

/-- Nothing is dropped from a text that starts with another kind of byte than
the units. -/
theorem dropUnits_eq_self {units : List Str} {p : UInt8 → Bool}
    (hunits : ∀ u ∈ units, u.head?.map p = some false) {s : Str}
    (hs : ∀ b, s.head? = some b → p b = true) (fuel : Nat) : dropUnits units fuel s = s := by
  cases fuel with
  | zero => rfl
  | succ fuel =>
    have hfind : units.find? (fun u => u.isPrefixOf s) = none := by
      rw [List.find?_eq_none]
      intro u hu hpre
      have hhead := hunits u hu
      obtain ⟨rest, rfl⟩ := List.isPrefixOf_iff_prefix.mp hpre
      rcases u with _ | ⟨b, u⟩
      · simp at hhead
      · have hb := hs b (by simp)
        simp [hb] at hhead
    rw [dropUnits, hfind]

/-- Text that starts and ends with graphic bytes has no white space around it. -/
theorem trimSpace_eq_self {s : Str} (hhead : ∀ b, s.head? = some b → isGraphic b = true)
    (hlast : ∀ b, s.getLast? = some b → isGraphic b = true) : trimSpace s = s := by
  rw [trimSpace, trimLeftSpace, dropUnits_eq_self (by decide) hhead, trimRightSpace,
    dropUnits_eq_self (p := isGraphic) (by decide) (by simpa using hlast), List.reverse_reverse]

/-- What `dropUnits` drops. -/
theorem exists_dropUnits (units : List Str) (fuel : Nat) (s : Str) :
    ∃ dropped : List Str, (∀ u ∈ dropped, u ∈ units) ∧
      s = dropped.flatten ++ dropUnits units fuel s := by
  induction fuel generalizing s with
  | zero => exact ⟨[], fun u hu => absurd hu List.not_mem_nil, rfl⟩
  | succ fuel ih =>
    rw [dropUnits]
    cases hfind : units.find? (fun u => u.isPrefixOf s) with
    | none => exact ⟨[], fun u hu => absurd hu List.not_mem_nil, rfl⟩
    | some u =>
      have hunit := List.mem_of_find?_eq_some hfind
      have hprefix := List.find?_some hfind
      obtain ⟨rest, rfl⟩ := List.isPrefixOf_iff_prefix.mp hprefix
      obtain ⟨dropped, hdropped, heq⟩ := ih rest
      refine ⟨u :: dropped, fun v hv => ?_, ?_⟩
      · cases List.mem_cons.mp hv with
        | inl hfirst => exact hfirst ▸ hunit
        | inr hmem => exact hdropped v hmem
      · dsimp only
        rw [List.drop_left, List.flatten_cons, List.append_assoc, ← heq]

/-- The white space at the end of a text. -/
theorem exists_trimRightSpace (s : Str) :
    ∃ right : List Str, (∀ u ∈ right, u ∈ spaces) ∧ s = trimRightSpace s ++ right.flatten := by
  obtain ⟨right, hright, hreverse⟩ := exists_dropUnits (spaces.map List.reverse) s.length s.reverse
  refine ⟨(right.map List.reverse).reverse, fun u hu => ?_, ?_⟩
  · rw [List.mem_reverse] at hu
    obtain ⟨v, hv, rfl⟩ := List.mem_map.mp hu
    obtain ⟨w, hw, rfl⟩ := List.mem_map.mp (hright v hv)
    rwa [List.reverse_reverse]
  · have heq := congrArg List.reverse hreverse
    rw [List.reverse_reverse, List.reverse_append, List.reverse_flatten] at heq
    exact heq

/-- The white space around a text. -/
theorem exists_trimSpace (s : Str) :
    ∃ left right : List Str, (∀ u ∈ left, u ∈ spaces) ∧ (∀ u ∈ right, u ∈ spaces) ∧
      s = left.flatten ++ (trimSpace s ++ right.flatten) := by
  obtain ⟨left, hleft, heq⟩ := exists_dropUnits spaces s.length s
  obtain ⟨right, hright, htrim⟩ := exists_trimRightSpace (trimLeftSpace s)
  refine ⟨left, right, hleft, hright, ?_⟩
  rw [trimSpace, ← htrim]
  exact heq

/-- Enough fuel drops every unit at the front. -/
theorem not_prefix_dropUnits {units : List Str} (hunits : ∀ u ∈ units, u ≠ []) {fuel : Nat}
    {s : Str} (h : s.length ≤ fuel) {u : Str} (hu : u ∈ units) :
    ¬u <+: dropUnits units fuel s := by
  induction fuel generalizing s with
  | zero =>
    rw [List.eq_nil_of_length_eq_zero (by omega : s.length = 0), dropUnits, List.prefix_nil]
    exact hunits u hu
  | succ fuel ih =>
    rw [dropUnits]
    cases hfind : units.find? (fun u => u.isPrefixOf s) with
    | none =>
      rw [← List.isPrefixOf_iff_prefix]
      exact List.find?_eq_none.mp hfind u hu
    | some v =>
      have hv := List.length_pos_of_ne_nil (hunits v (List.mem_of_find?_eq_some hfind))
      have hprefix := List.find?_some hfind
      have hlength := (List.isPrefixOf_iff_prefix.mp hprefix).length_le
      refine ih ?_
      rw [List.length_drop]
      omega

/-- No white space is left at the front. -/
theorem not_prefix_trimSpace (s : Str) {u : Str} (hu : u ∈ spaces) : ¬u <+: trimSpace s := by
  intro hfront
  obtain ⟨right, -, hright⟩ := exists_trimRightSpace (trimLeftSpace s)
  have hleft : trimSpace s <+: trimLeftSpace s := ⟨right.flatten, hright.symm⟩
  exact not_prefix_dropUnits (by decide) (Nat.le_refl s.length) hu (hfront.trans hleft)

/-- Trimmed text that is not empty is not blank. -/
theorem isBlank_trimSpace {s : Str} (h : trimSpace s ≠ []) : isBlank (trimSpace s) = false := by
  rw [isBlank, beq_eq_false_iff_ne]
  intro hnil
  obtain ⟨left, right, hleft, hright, heq⟩ := exists_trimSpace (trimSpace s)
  rw [hnil, List.nil_append, ← List.flatten_append] at heq
  cases hall : left ++ right with
  | nil => exact h (by rw [heq, hall]; rfl)
  | cons u units =>
    have hu : u ∈ left ++ right := hall ▸ List.mem_cons_self
    have hspace : u ∈ spaces := (List.mem_append.mp hu).elim (hleft u) (hright u)
    refine not_prefix_trimSpace s hspace ⟨units.flatten, ?_⟩
    rw [heq, hall, List.flatten_cons]

theorem length_trimSpace_le (s : Str) : (trimSpace s).length ≤ s.length := by
  obtain ⟨left, right, -, -, heq⟩ := exists_trimSpace s
  have hlength := congrArg List.length heq
  rw [List.length_append, List.length_append] at hlength
  omega

/-- A text of the length of its trimmed text has no white space around it. -/
theorem trimSpace_eq_of_length {s : Str} (h : s.length ≤ (trimSpace s).length) :
    trimSpace s = s := by
  obtain ⟨left, right, -, -, heq⟩ := exists_trimSpace s
  have hlength := congrArg List.length heq
  rw [List.length_append, List.length_append] at hlength
  have hleft : left.flatten = [] := List.eq_nil_of_length_eq_zero (by omega)
  have hright : right.flatten = [] := List.eq_nil_of_length_eq_zero (by omega)
  rw [hleft, hright, List.nil_append, List.append_nil] at heq
  exact heq.symm

/-- Something is left of a text that ends with another kind of byte than the
units. -/
theorem dropUnits_ne_nil {units : List Str} {p : UInt8 → Bool}
    (hunits : ∀ u ∈ units, u.getLast?.map p = some false) {s : Str}
    (hs : s.getLast?.map p = some true) (fuel : Nat) : dropUnits units fuel s ≠ [] := by
  have hne : ∀ {s : Str}, s.getLast?.map p = some true → s ≠ [] := by
    intro s hs hnil
    rw [hnil] at hs
    contradiction
  induction fuel generalizing s with
  | zero => exact hne hs
  | succ fuel ih =>
    rw [dropUnits]
    cases hfind : units.find? (fun u => u.isPrefixOf s) with
    | none => exact hne hs
    | some u =>
      have hu := hunits u (List.mem_of_find?_eq_some hfind)
      have hprefix := List.find?_some hfind
      obtain ⟨rest, rfl⟩ := List.isPrefixOf_iff_prefix.mp hprefix
      dsimp only
      rw [List.drop_left]
      apply ih
      rw [List.getLast?_append] at hs
      cases hrest : rest.getLast? with
      | none =>
        rw [hrest, Option.none_or, hu] at hs
        contradiction
      | some b => rwa [hrest, Option.some_or] at hs

/-- Something is left of a text that starts with a graphic byte. -/
theorem trimSpace_ne_nil {b : UInt8} (hb : isGraphic b = true) (rest : Str) :
    trimSpace (b :: rest) ≠ [] := by
  have hhead : ∀ b', (b :: rest).head? = some b' → isGraphic b' = true := by
    intro b' h
    obtain rfl := Option.some.inj h
    exact hb
  rw [trimSpace, trimLeftSpace, dropUnits_eq_self (by decide) hhead, trimRightSpace, Ne,
    List.reverse_eq_nil_iff]
  apply dropUnits_ne_nil (p := isGraphic) (by decide)
  simp [hb]

/-- A graphic byte at the front stays there. -/
theorem exists_trimSpace_cons {b : UInt8} (hb : isGraphic b = true) (rest : Str) :
    ∃ rest', trimSpace (b :: rest) = b :: rest' := by
  have hhead : ∀ b', (b :: rest).head? = some b' → isGraphic b' = true := by
    intro b' h
    obtain rfl := Option.some.inj h
    exact hb
  have hleft : trimLeftSpace (b :: rest) = b :: rest := dropUnits_eq_self (by decide) hhead _
  obtain ⟨right, -, hright⟩ := exists_trimRightSpace (b :: rest)
  have hne := trimSpace_ne_nil hb rest
  rw [trimSpace, hleft] at hne ⊢
  cases htrim : trimRightSpace (b :: rest) with
  | nil => exact absurd htrim hne
  | cons b' rest' =>
    rw [htrim, List.cons_append] at hright
    rw [(List.cons.inj hright).1]
    exact ⟨rest', rfl⟩

/-- Text of ASCII bytes without capitals is its own case fold. -/
theorem foldCase_eq_self {s : Str} (h : ∀ b ∈ s, b < 128 ∧ ¬ (65 ≤ b ∧ b ≤ 90)) :
    foldCase s = s := by
  fun_induction foldCase s with
  | case1 rest ih => exact absurd (h 0xE2 (by simp)).1 (by decide)
  | case2 rest ih => exact absurd (h 0xC5 (by simp)).1 (by decide)
  | case3 b rest _ _ ih =>
    have hb := (h b (by simp)).2
    rw [lowerByte, if_neg hb, ih (fun c hc => h c (by simp [hc]))]
  | case4 => rfl

/-- Text of ASCII bytes without capitals is in lower case already. -/
theorem toLower_eq_self {s : Str} (h : ∀ b ∈ s, b < 128 ∧ ¬ (65 ≤ b ∧ b ≤ 90)) :
    toLower s = s := by
  fun_induction toLower s with
  | case1 rest ih => exact absurd (h 0xE2 (by simp)).1 (by decide)
  | case2 rest ih => exact absurd (h 0xC4 (by simp)).1 (by decide)
  | case3 b rest _ _ ih =>
    have hb := (h b (by simp)).2
    rw [lowerByte, if_neg hb, ih (fun c hc => h c (by simp [hc]))]
  | case4 => rfl

theorem cut_of_not_mem {s : Str} {b : UInt8} (h : b ∉ s) : cut s b = (s, none) := by
  induction s with
  | nil => rfl
  | cons c s ih =>
    rw [List.mem_cons, not_or] at h
    have hne : (c == b) = false := beq_eq_false_iff_ne.mpr (Ne.symm h.1)
    rw [cut, hne, ih h.2]
    rfl

/-! ## Numbers written and read -/

theorem digitsVal_digits (n : Nat) : digitsVal (digits n) = n := by
  induction n using Nat.strong_induction_on with
  | _ n ih =>
    by_cases hn : n < 10
    · rw [digits, Nat.toDigits_of_lt_base hn]
      show 10 * 0 + ((UInt8.ofNat n.digitChar.toNat).toNat - 48) = n
      rw [Nat.toNat_digitChar_of_lt_ten hn, UInt8.toNat_ofNat']
      omega
    · have hrest := ih (n / 10) (by omega)
      have hlast : n % 10 < 10 := Nat.mod_lt n (by decide)
      rw [digits] at hrest
      rw [digits, Nat.toDigits_of_base_le (by decide) (by omega), List.map_append, digitsVal,
        List.foldl_append]
      show 10 * digitsVal _ + ((UInt8.ofNat (n % 10).digitChar.toNat).toNat - 48) = n
      rw [hrest, Nat.toNat_digitChar_of_lt_ten hlast, UInt8.toNat_ofNat']
      omega

theorem digits_ne_nil (n : Nat) : digits n ≠ [] := by
  rw [digits, Ne, List.map_eq_nil_iff]
  exact Nat.toDigits_ne_nil

/-- No zero leads the digits of another number. -/
theorem head?_digits {n : Nat} (h : n ≠ 0) : (digits n).head? ≠ some 48 := by
  induction n using Nat.strong_induction_on with
  | _ n ih =>
    by_cases hn : n < 10
    · rw [digits, Nat.toDigits_of_lt_base hn]
      have hcases : ∀ d < 10, d ≠ 0 → UInt8.ofNat (Nat.digitChar d).toNat ≠ 48 := by decide
      simpa using hcases n hn h
    · have hsplit : digits n = digits (n / 10) ++ [UInt8.ofNat (n % 10).digitChar.toNat] := by
        rw [digits, Nat.toDigits_of_base_le (by decide) (by omega), List.map_append]
        rfl
      rw [hsplit, List.head?_append_of_ne_nil _ (digits_ne_nil (n / 10))]
      exact ih (n / 10) (by omega) (by omega)

theorem parseDigits_digits (n : Nat) : parseDigits (digits n) = some n := by
  rw [parseDigits, digitsVal_digits, if_pos ⟨digits_ne_nil n,
    List.all_eq_true.mpr fun b hb => isDigit_of_mem_digits hb⟩]

/-- `strconv.Atoi` of `strconv.Itoa`, which refuses what does not fit 64 bits. -/
theorem atoi_itoa_eq (n : Int) :
    atoi (itoa n) = (some n).filter fun n => -(2 ^ 63) ≤ n && n < 2 ^ 63 := by
  unfold itoa
  split
  next hneg =>
    have habs : -(n.natAbs : Int) = n := by omega
    simp only [atoi, parseDigits_digits]
    show Option.filter _ (some (-(n.natAbs : Int))) = _
    rw [habs]
  next hpos =>
    have habs : Int.ofNat n.natAbs = n := by
      show (n.natAbs : Int) = n
      omega
    have hplain : ∀ b rest, digits n.natAbs = b :: rest → isDigit b = true := fun b rest h =>
      isDigit_of_mem_digits (h ▸ List.mem_cons_self)
    unfold atoi
    split
    next rest heq => exact absurd (hplain 43 rest heq) (by decide)
    next rest heq => exact absurd (hplain 45 rest heq) (by decide)
    next => rw [parseDigits_digits, Option.map_some, habs]

/-- `strconv.Atoi` of `strconv.Itoa`. -/
theorem atoi_itoa {n : Int} (hlo : -(2 ^ 63) ≤ n) (hhi : n < 2 ^ 63) : atoi (itoa n) = some n := by
  have hrange : (decide (-(2 ^ 63) ≤ n) && decide (n < 2 ^ 63)) = true := by
    rw [decide_eq_true hlo, decide_eq_true hhi]
    rfl
  rw [atoi_itoa_eq, Option.filter_some, if_pos hrange]

/-- A number is written with graphic ASCII bytes and fits 64 bits. -/
theorem atoi_eq_some {s : Str} {n : Int} (h : atoi s = some n) :
    (∀ b ∈ s, isGraphic b = true) ∧ -(2 ^ 63) ≤ n ∧ n < 2 ^ 63 := by
  have hdigits : ∀ {s : Str} {m : Nat}, parseDigits s = some m → ∀ b ∈ s, isGraphic b = true := by
    intro s m hparse b hb
    rw [parseDigits, Option.ite_none_right_eq_some] at hparse
    have hdigit := List.all_eq_true.mp hparse.1.2 b hb
    simp only [isDigit, isGraphic, Bool.and_eq_true, decide_eq_true_eq, UInt8.le_iff_toNat_le,
      UInt8.reduceToNat] at hdigit ⊢
    omega
  unfold atoi at h
  obtain ⟨hvalue, hrange⟩ := Option.filter_eq_some_iff.mp h
  refine ⟨?_, by simpa using hrange⟩
  have hsigned : ∀ (sign : UInt8) (rest : Str), isGraphic sign = true →
      parseDigits rest ≠ none → ∀ b ∈ sign :: rest, isGraphic b = true := by
    intro sign rest hsign hparse b hb
    obtain ⟨m, hm⟩ := Option.ne_none_iff_exists'.mp hparse
    rcases List.mem_cons.mp hb with rfl | hb
    · exact hsign
    · exact hdigits hm b hb
  split at hvalue
  next rest =>
    refine hsigned 43 rest (by decide) fun hnone => ?_
    rw [hnone] at hvalue
    contradiction
  next rest =>
    refine hsigned 45 rest (by decide) fun hnone => ?_
    rw [hnone] at hvalue
    contradiction
  next =>
    obtain ⟨m, hm, -⟩ := Option.map_eq_some_iff.mp hvalue
    exact hdigits hm

/-- A number has no white space around it. -/
theorem trimSpace_of_atoi {s : Str} {n : Int} (h : atoi s = some n) : trimSpace s = s := by
  have hall := (atoi_eq_some h).1
  refine trimSpace_eq_self (fun b hb => hall b ?_) fun b hb => hall b ?_
  · exact List.mem_of_mem_head? hb
  · exact List.mem_of_getLast? hb

end GoText
