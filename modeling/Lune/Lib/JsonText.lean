import Lune.Lib.GoJson

/-!
# Strings through JSON

What `json.Unmarshal` reads from a string that `json.Marshal` wrote: the string with
each byte that belongs to no character replaced by U+FFFD.  Text is taken apart
into characters and such bytes, and every fact about it goes by that induction.
-/

namespace GoJson

open GoText

/-! ## Characters -/

/-- The string with the bytes that belong to no character replaced; the first `copy`
bytes are the rest of a character. -/
def toValid (copy : Nat) : Str → Str
  | [] => []
  | b :: rest =>
    match copy with
    | copy + 1 => b :: toValid copy rest
    | 0 =>
      match runeTail b rest with
      | some tail => b :: toValid tail rest
      | none => replacement ++ toValid 0 rest

/-- A byte and the bytes after it that make a character, whatever follows. -/
structure IsRune (b : UInt8) (more : Str) : Prop where
  found : ∀ rest, runeTail b (more ++ rest) = some more.length
  tail : ∀ t ∈ more, isTail t = true
  ascii : b < 0x80 ↔ more = []

theorem isRune_of_lt {b : UInt8} (h : b < 0x80) : IsRune b [] where
  found := fun rest => by
    unfold runeTail
    rw [if_pos h]
    rfl
  tail := fun _ ht => absurd ht List.not_mem_nil
  ascii := ⟨fun _ => rfl, fun _ => h⟩

/-- What the second byte of a longer character may be. -/
theorem isTail_of_second {b c lo hi first second : UInt8} (hlo : 0x80 ≤ lo) (hhi : hi ≤ 0xBF)
    (h : (if b = first then lo ≤ c && c ≤ 0xBF else if b = second then 0x80 ≤ c && c ≤ hi
      else isTail c) = true) : isTail c = true := by
  simp only [UInt8.le_iff_toNat_le, UInt8.reduceToNat] at hlo hhi
  split at h
  · simp only [isTail, Bool.and_eq_true, decide_eq_true_eq, UInt8.le_iff_toNat_le,
      UInt8.reduceToNat] at h ⊢
    omega
  · split at h
    · simp only [isTail, Bool.and_eq_true, decide_eq_true_eq, UInt8.le_iff_toNat_le,
        UInt8.reduceToNat] at h ⊢
      omega
    · exact h

/-- The bytes that `runeTail` counts. -/
theorem exists_isRune {b : UInt8} {s : Str} {n : Nat} (h : runeTail b s = some n) :
    ∃ more rest, s = more ++ rest ∧ IsRune b more ∧ more.length = n := by
  by_cases hascii : b < 0x80
  · unfold runeTail at h
    rw [if_pos hascii] at h
    exact ⟨[], s, rfl, isRune_of_lt hascii, Option.some.inj h⟩
  have hnone : ∀ {c : UInt8} {more : Str}, b < 0x80 ↔ c :: more = [] :=
    ⟨fun hb => absurd hb hascii, fun hnil => absurd hnil (List.cons_ne_nil _ _)⟩
  unfold runeTail at h
  rw [if_neg hascii] at h
  cases s with
  | nil => contradiction
  | cons c s =>
  dsimp only at h
  by_cases htwo : (decide (0xC2 ≤ b) && decide (b ≤ 0xDF)) = true
  · rw [if_pos htwo, Option.ite_none_right_eq_some] at h
    obtain ⟨hc, hn⟩ := h
    refine ⟨[c], s, rfl, ⟨fun rest => ?_, by simpa using hc, hnone⟩, Option.some.inj hn⟩
    unfold runeTail
    simp only [if_neg hascii, List.cons_append, if_pos htwo, if_pos hc, List.length_singleton]
  rw [if_neg htwo] at h
  cases s with
  | nil => contradiction
  | cons d s =>
  dsimp only at h
  by_cases hthree : (decide (0xE0 ≤ b) && decide (b ≤ 0xEF)) = true
  · rw [if_pos hthree, Option.ite_none_right_eq_some] at h
    obtain ⟨hcd, hn⟩ := h
    obtain ⟨hc, hd⟩ := Bool.and_eq_true_iff.mp hcd
    have hc' : isTail c = true := isTail_of_second (by decide) (by decide) hc
    refine ⟨[c, d], s, rfl, ⟨fun rest => ?_, by simp [hc', hd], hnone⟩, Option.some.inj hn⟩
    unfold runeTail
    simp only [if_neg hascii, List.cons_append, if_neg htwo, if_pos hthree, if_pos hcd,
      List.length_cons, List.length_nil]
  rw [if_neg hthree] at h
  cases s with
  | nil => contradiction
  | cons e s =>
  dsimp only at h
  rw [Option.ite_none_right_eq_some] at h
  obtain ⟨hcde, hn⟩ := h
  have hcde' := hcde
  simp only [Bool.and_eq_true, and_assoc] at hcde'
  obtain ⟨-, -, hc, hd, he⟩ := hcde'
  have hc' : isTail c = true := isTail_of_second (by decide) (by decide) hc
  refine ⟨[c, d, e], s, rfl, ⟨fun rest => ?_, by simp [hc', hd, he], hnone⟩, Option.some.inj hn⟩
  unfold runeTail
  simp only [if_neg hascii, List.cons_append, if_neg htwo, if_neg hthree, if_pos hcde,
    List.length_cons, List.length_nil]

/-- Text is built from characters and from bytes that belong to none. -/
theorem runes_induction {P : Str → Prop} (nil : P [])
    (bad : ∀ b rest, runeTail b rest = none → P rest → P (b :: rest))
    (rune : ∀ b more rest, IsRune b more → P rest → P (b :: (more ++ rest))) (s : Str) : P s := by
  induction hn : s.length using Nat.strong_induction_on generalizing s with
  | _ n ih =>
    cases s with
    | nil => exact nil
    | cons b s =>
      cases htail : runeTail b s with
      | none => exact bad b s htail (ih _ (by rw [← hn]; exact Nat.lt_succ_self _) s rfl)
      | some k =>
        obtain ⟨more, rest, rfl, hrune, -⟩ := exists_isRune htail
        refine rune b more rest hrune (ih _ ?_ rest rfl)
        rw [← hn, List.length_cons, List.length_append]
        omega

/-! ## Well-formed text -/

theorem toValid_append (more rest : Str) :
    toValid more.length (more ++ rest) = more ++ toValid 0 rest := by
  induction more with
  | nil => rfl
  | cons b more ih =>
    rw [List.length_cons, List.cons_append, toValid, ih, List.cons_append]

theorem toValid_rune {b : UInt8} {more : Str} (h : IsRune b more) (rest : Str) :
    toValid 0 (b :: (more ++ rest)) = b :: (more ++ toValid 0 rest) := by
  rw [toValid]
  simp only [h.found]
  rw [toValid_append]

theorem toValid_bad {b : UInt8} {rest : Str} (h : runeTail b rest = none) :
    toValid 0 (b :: rest) = replacement ++ toValid 0 rest := by
  rw [toValid]
  simp only [h]

theorem toValid_replacement (rest : Str) :
    toValid 0 (replacement ++ rest) = replacement ++ toValid 0 rest := rfl

/-- Text that went through JSON stays as it is. -/
theorem toValid_toValid (s : Str) : toValid 0 (toValid 0 s) = toValid 0 s := by
  induction s using runes_induction with
  | nil => rfl
  | bad b rest hbad ih => rw [toValid_bad hbad, toValid_replacement, ih]
  | rune b more rest hrune ih => rw [toValid_rune hrune, toValid_rune hrune, ih]

theorem toValid_eq_nil {s : Str} : toValid 0 s = [] ↔ s = [] := by
  cases s with
  | nil => exact iff_of_true rfl rfl
  | cons b s =>
    refine iff_of_false ?_ (List.cons_ne_nil b s)
    rw [toValid]
    split
    · exact List.cons_ne_nil _ _
    · exact List.cons_ne_nil _ _

/-- ASCII text. -/
def Ascii (s : Str) : Prop := ∀ b ∈ s, b < 0x80

theorem toValid_of_ascii {s : Str} (h : Ascii s) : toValid 0 s = s := by
  induction s with
  | nil => rfl
  | cons b s ih =>
    have hrune := isRune_of_lt (h b List.mem_cons_self)
    have hrest := toValid_rune hrune s
    rw [List.nil_append, List.nil_append, ih fun c hc => h c (List.mem_cons_of_mem b hc)] at hrest
    exact hrest

/-- Only ASCII text becomes that ASCII text. -/
theorem eq_of_toValid_ascii {s t : Str} (ht : Ascii t) (h : toValid 0 s = t) : s = t := by
  induction s using runes_induction generalizing t with
  | nil => exact h
  | bad b rest hbad _ =>
    rw [toValid_bad hbad] at h
    exact absurd (ht 0xEF (h ▸ List.mem_cons_self)) (by decide)
  | rune b more rest hrune ih =>
    rw [toValid_rune hrune] at h
    have hb : b < 0x80 := ht b (h ▸ List.mem_cons_self)
    obtain rfl := hrune.ascii.mp hb
    rw [List.nil_append] at h ⊢
    rw [← h] at ht ⊢
    exact congrArg (b :: ·) (ih (fun c hc => ht c (List.mem_cons_of_mem b hc)) rfl)

/-! ## Escapes -/

/-- An escape `\\uXXXX` that is not half of a pair. -/
theorem unquote_unicode {a b c d : UInt8} (rest : Str)
    (h : ¬ (0xD800 ≤ hex4 a b c d ∧ hex4 a b c d < 0xE000)) :
    unquote 0 (92 :: 117 :: a :: b :: c :: d :: rest) =
      encodeRune (hex4 a b c d) ++ unquote 0 rest := by
  have hpair : ∀ lo, surrogatePair (hex4 a b c d) lo = none := by
    intro lo
    rw [surrogatePair, if_neg]
    omega
  rw [unquote.eq_def]
  split
  · contradiction
  next heq =>
    cases heq
    simp only [hpair, if_neg h]
  next heq =>
    cases heq
    simp only [if_neg h]
  next hlong heq =>
    cases heq
    exact (hlong a b c d rest rfl rfl).elim
  next hletter heq =>
    cases heq
    exact (hletter 117 _ rfl rfl).elim

/-- An escape of one letter. -/
theorem unquote_letter {c : UInt8} (hc : c ≠ 117) (rest : Str) :
    unquote 0 (92 :: c :: rest) = escaped c :: unquote 0 rest := by
  rw [unquote]
  · intro a b c' d e f g h rest' heq
    exact absurd heq hc
  · intro a b c' d rest' heq
    exact absurd heq hc

/-- Any other byte. -/
theorem unquote_cons {b : UInt8} (hb : b ≠ 92) (copy : Nat) (rest : Str) :
    unquote copy (b :: rest) =
      match copy with
      | copy + 1 => b :: unquote copy rest
      | 0 =>
        match runeTail b rest with
        | some tail => b :: unquote tail rest
        | none => replacement ++ unquote 0 rest := by
  have hletter : ∀ (c : UInt8) (rest' : Str), b = 92 → rest = c :: rest' → False :=
    fun _ _ heq => absurd heq hb
  cases copy with
  | zero =>
    exact unquote.eq_6 b rest (fun _ _ _ _ _ _ _ _ _ heq => absurd heq hb)
      (fun _ _ _ _ _ heq => absurd heq hb) hletter
  | succ copy =>
    exact unquote.eq_5 b rest copy (fun _ _ _ _ _ _ _ _ _ heq => absurd heq hb)
      (fun _ _ _ _ _ heq => absurd heq hb) hletter

theorem ne_of_isTail {t : UInt8} (h : isTail t = true) : t ≠ 92 ∧ t ≠ 0xE2 := by
  constructor
  · rintro rfl
    contradiction
  · rintro rfl
    contradiction

theorem unquote_append {more : Str} (h : ∀ t ∈ more, isTail t = true) (rest : Str) :
    unquote more.length (more ++ rest) = more ++ unquote 0 rest := by
  induction more with
  | nil => rfl
  | cons t more ih =>
    rw [List.cons_append, unquote_cons (ne_of_isTail (h t List.mem_cons_self)).1]
    exact congrArg (t :: ·) (ih fun u hu => h u (List.mem_cons_of_mem t hu))

theorem unquote_rune {b : UInt8} {more : Str} (hb : b ≠ 92) (h : IsRune b more) (rest : Str) :
    unquote 0 (b :: (more ++ rest)) = b :: (more ++ unquote 0 rest) := by
  rw [unquote_cons hb]
  simp only [h.found]
  rw [unquote_append h.tail]

/-- A byte that is not the first of a line separator. -/
theorem escape_cons {b : UInt8} (hb : b ≠ 0xE2) (copy : Nat) (rest : Str) :
    escape (copy + 1) (b :: rest) = b :: escape copy rest := by
  rw [escape]
  · intro rest' heq
    exact absurd heq hb
  · intro rest' heq
    exact absurd heq hb

theorem escape_append {more : Str} (h : ∀ t ∈ more, isTail t = true) (rest : Str) :
    escape more.length (more ++ rest) = more ++ escape 0 rest := by
  induction more with
  | nil => rfl
  | cons t more ih =>
    rw [List.length_cons, List.cons_append, escape_cons (ne_of_isTail (h t List.mem_cons_self)).2,
      ih fun u hu => h u (List.mem_cons_of_mem t hu), List.cons_append]

/-- The text starts with a line separator, which `json.Marshal` escapes. -/
def separatorFirst (s : Str) : Prop :=
  ∃ rest, s = 0xE2 :: 0x80 :: 0xA8 :: rest ∨ s = 0xE2 :: 0x80 :: 0xA9 :: rest

theorem escape_zero {b : UInt8} {rest : Str} (h : ¬ separatorFirst (b :: rest)) :
    escape 0 (b :: rest) =
      if b = 34 ∨ b = 92 then 92 :: b :: escape 0 rest
      else if b = 8 then 92 :: 98 :: escape 0 rest
      else if b = 12 then 92 :: 102 :: escape 0 rest
      else if b = 10 then 92 :: 110 :: escape 0 rest
      else if b = 13 then 92 :: 114 :: escape 0 rest
      else if b = 9 then 92 :: 116 :: escape 0 rest
      else if b < 32 ∨ b = 60 ∨ b = 62 ∨ b = 38 then
        lit "\\u00" ++ hexByte b ++ escape 0 rest
      else match runeTail b rest with
        | none => lit "\\ufffd" ++ escape 0 rest
        | some tail => b :: escape tail rest := by
  refine escape.eq_5 b rest ?_ ?_
  · rintro rest' rfl rfl
    exact h ⟨rest', Or.inl rfl⟩
  · rintro rest' rfl rfl
    exact h ⟨rest', Or.inr rfl⟩

/-- The digits of an ASCII byte. -/
theorem unquote_hexByte {b : UInt8} (hb : b < 0x80) (rest : Str) :
    unquote 0 (lit "\\u00" ++ hexByte b ++ rest) = b :: unquote 0 rest := by
  have hall : ∀ n < 128, hex4 48 48 ((hexByte (UInt8.ofNat n)).headD 0)
      ((hexByte (UInt8.ofNat n)).getLastD 0) = n ∧ encodeRune n = [UInt8.ofNat n] := by
    decide +kernel
  have hlt : b.toNat < 128 := UInt8.lt_iff_toNat_lt.mp hb
  obtain ⟨hhex, hrune⟩ := hall b.toNat hlt
  rw [UInt8.ofNat_toNat] at hhex hrune
  have hsmall : ¬ (0xD800 ≤ b.toNat ∧ b.toNat < 0xE000) := by omega
  refine (unquote_unicode rest (hhex.symm ▸ hsmall)).trans ?_
  refine (congrArg (fun n => encodeRune n ++ unquote 0 rest) hhex).trans ?_
  rw [hrune]
  rfl

theorem unquote_lit_fffd (rest : Str) :
    unquote 0 (lit "\\ufffd" ++ rest) = replacement ++ unquote 0 rest := by
  have hhex : ¬ (0xD800 ≤ hex4 102 102 102 100 ∧ hex4 102 102 102 100 < 0xE000) := by decide
  refine (unquote_unicode rest hhex).trans ?_
  have hrune : encodeRune (hex4 102 102 102 100) = replacement := by decide +kernel
  rw [hrune]

/-- The conditions on ASCII bytes do not concern the others. -/
theorem escape_zero_of_le {b : UInt8} {rest : Str} (hb : ¬ b < 0x80)
    (h : ¬ separatorFirst (b :: rest)) :
    escape 0 (b :: rest) =
      match runeTail b rest with
      | none => lit "\\ufffd" ++ escape 0 rest
      | some tail => b :: escape tail rest := by
  have hne : ∀ c : UInt8, c < 0x80 → b ≠ c := by
    rintro c hc rfl
    exact hb hc
  have hlow : ¬ b < 32 := by
    simp only [UInt8.lt_iff_toNat_lt, UInt8.reduceToNat] at hb ⊢
    omega
  rw [escape_zero h]
  simp only [hne 34 (by decide), hne 92 (by decide), hne 8 (by decide), hne 12 (by decide),
    hne 10 (by decide), hne 13 (by decide), hne 9 (by decide), hne 60 (by decide),
    hne 62 (by decide), hne 38 (by decide), hlow, or_self, if_false]

/-- Reading back a line separator. -/
theorem unquote_separator {b : UInt8} {more rest r : Str} {c : UInt8} (h : IsRune b more)
    (hc : runeTail 0xE2 (0x80 :: c :: r) = some 2) (heq : b :: (more ++ rest) = 0xE2 :: 0x80 :: c :: r)
    (hread : unquote 0 (escape 0 (0xE2 :: 0x80 :: c :: r)) =
      0xE2 :: 0x80 :: c :: unquote 0 (escape 0 r)) :
    unquote 0 (escape 0 (b :: (more ++ rest))) = b :: (more ++ unquote 0 (escape 0 rest)) := by
  obtain ⟨rfl, htail⟩ := List.cons.inj heq
  have hfound := h.found rest
  rw [htail, hc] at hfound
  have hsplit : more ++ rest = [0x80, c] ++ r := htail
  obtain ⟨rfl, rfl⟩ := List.append_inj hsplit (Option.some.inj hfound).symm
  exact hread

theorem unquote_escape_separator (r : Str) :
    unquote 0 (escape 0 (0xE2 :: 0x80 :: 0xA8 :: r)) =
        0xE2 :: 0x80 :: 0xA8 :: unquote 0 (escape 0 r) ∧
      unquote 0 (escape 0 (0xE2 :: 0x80 :: 0xA9 :: r)) =
        0xE2 :: 0x80 :: 0xA9 :: unquote 0 (escape 0 r) := by
  constructor
  · have hhex : ¬ (0xD800 ≤ hex4 50 48 50 56 ∧ hex4 50 48 50 56 < 0xE000) := by decide
    have hrune : encodeRune (hex4 50 48 50 56) = [0xE2, 0x80, 0xA8] := by decide +kernel
    rw [escape.eq_2]
    refine (unquote_unicode (escape 0 r) hhex).trans ?_
    rw [hrune]
    rfl
  · have hhex : ¬ (0xD800 ≤ hex4 50 48 50 57 ∧ hex4 50 48 50 57 < 0xE000) := by decide
    have hrune : encodeRune (hex4 50 48 50 57) = [0xE2, 0x80, 0xA9] := by decide +kernel
    rw [escape.eq_3]
    refine (unquote_unicode (escape 0 r) hhex).trans ?_
    rw [hrune]
    rfl

/-- Reading back a character that was written. -/
theorem unquote_escape_rune {b : UInt8} {more : Str} (h : IsRune b more) (rest : Str) :
    unquote 0 (escape 0 (b :: (more ++ rest))) = b :: (more ++ unquote 0 (escape 0 rest)) := by
  by_cases hsep : separatorFirst (b :: (more ++ rest))
  · obtain ⟨r, heq | heq⟩ := hsep
    · exact unquote_separator h rfl heq (unquote_escape_separator r).1
    · exact unquote_separator h rfl heq (unquote_escape_separator r).2
  by_cases hascii : b < 0x80
  · rw [escape_zero hsep]
    obtain rfl := h.ascii.mp hascii
    rw [List.nil_append, List.nil_append]
    split
    next hquote =>
      rcases hquote with rfl | rfl
      · exact unquote_letter (by decide) _
      · exact unquote_letter (by decide) _
    next hquote =>
    split
    next hb =>
      subst hb
      exact unquote_letter (by decide) _
    split
    next hb =>
      subst hb
      exact unquote_letter (by decide) _
    split
    next hb =>
      subst hb
      exact unquote_letter (by decide) _
    split
    next hb =>
      subst hb
      exact unquote_letter (by decide) _
    split
    next hb =>
      subst hb
      exact unquote_letter (by decide) _
    split
    · exact unquote_hexByte hascii _
    · have hfound := h.found rest
      rw [List.nil_append, List.length_nil] at hfound
      rw [hfound]
      exact unquote_rune (fun heq => hquote (Or.inr heq)) h _
  · rw [escape_zero_of_le hascii hsep]
    simp only [h.found]
    rw [escape_append h.tail]
    refine unquote_rune ?_ h _
    rintro rfl
    exact hascii (by decide)

/-- Reading back a byte that belongs to no character. -/
theorem unquote_escape_bad {b : UInt8} {rest : Str} (h : runeTail b rest = none) :
    unquote 0 (escape 0 (b :: rest)) = replacement ++ unquote 0 (escape 0 rest) := by
  have hascii : ¬ b < 0x80 := by
    intro hb
    have hfound := (isRune_of_lt hb).found rest
    rw [List.nil_append, h] at hfound
    contradiction
  have hsep : ¬ separatorFirst (b :: rest) := by
    rintro ⟨r, heq | heq⟩
    · obtain ⟨rfl, rfl⟩ := List.cons.inj heq
      contradiction
    · obtain ⟨rfl, rfl⟩ := List.cons.inj heq
      contradiction
  rw [escape_zero_of_le hascii hsep, h]
  exact unquote_lit_fffd _

/-- A string that is written and read back. -/
theorem unquote_escape (s : Str) : unquote 0 (escape 0 s) = toValid 0 s := by
  induction s using runes_induction with
  | nil => rfl
  | bad b rest hbad ih => rw [unquote_escape_bad hbad, toValid_bad hbad, ih]
  | rune b more rest hrune ih => rw [unquote_escape_rune hrune, toValid_rune hrune, ih]

end GoJson
