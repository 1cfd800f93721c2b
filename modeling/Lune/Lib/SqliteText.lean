import Lune.Lib.TimeText

/-!
# SQLite text functions

`lower`, `trim`, `LIKE` and `datetime` of SQLite.  They know ASCII letters and
the plain blank only, which is where they part from the Go functions of the
same purpose.  On a `Word`, the kind of text status columns hold, both leave
the text as it is.

Dates are read and printed on the years 0 to 9999, the range SQLite documents.
A bare number, which SQLite takes for a Julian day, is read as no date.
-/

namespace Sqlite

open GoText Calendar TimeText

/-! ## Text -/

/-- `lower(X)`. -/
def lower (s : Str) : Str := s.map lowerByte

/-- `trim(X)`: blanks off both ends. -/
def trim (s : Str) : Str := trimByte s 32

/-- `X LIKE 'p%'` for a pattern `p` without wildcards. -/
def likePrefix (s p : Str) : Bool := (lower p).isPrefixOf (lower s)

theorem likePrefix_of_hasPrefix {s p : Str} (h : hasPrefix s p = true) : likePrefix s p = true := by
  rw [hasPrefix, List.isPrefixOf_iff_prefix] at h
  rw [likePrefix, List.isPrefixOf_iff_prefix]
  exact h.map lowerByte

/-- A byte that is no letter is in the text when it is in the prefix. -/
theorem mem_of_likePrefix {s p : Str} (h : likePrefix s p = true) {b : UInt8} (hb : b ∈ p)
    (hletter : ∀ c, lowerByte c = lowerByte b → c = b) : b ∈ s := by
  rw [likePrefix, List.isPrefixOf_iff_prefix] at h
  have hmem : lowerByte b ∈ lower s := h.subset (List.mem_map_of_mem hb)
  obtain ⟨c, hc, heq⟩ := List.mem_map.mp hmem
  rwa [← hletter c heq]

/-! ## Dates -/

/-- `sqlite3Isspace`. -/
def isSpace (b : UInt8) : Bool := b == 32 || (9 ≤ b && b ≤ 13)

/-- `w` digits of a number between `lo` and `hi`. -/
def getDigits (w lo hi : Nat) (s : Str) : Option (Nat × Str) :=
  (takeDigits w s).filter fun r => lo ≤ r.1 && r.1 ≤ hi

/-- The byte `b`. -/
def expect (b : UInt8) : Str → Option Str
  | [] => none
  | c :: rest => if c = b then some rest else none

/-- `YYYY-MM-DD`, in days.  The day may run past its month. -/
def readDate (s : Str) : Option (Nat × Str) := do
  let (year, s) ← getDigits 4 0 9999 s
  let s ← expect 45 s
  let (month, s) ← getDigits 2 1 12 s
  let s ← expect 45 s
  let (day, s) ← getDigits 2 1 31 s
  some (dayNumber year month day, s)

/-- Decimal digits after the point, rounded to milliseconds. -/
def millis (digits : Str) : Nat :=
  (digitsVal digits * 1000 * 2 + 10 ^ digits.length) / (2 * 10 ^ digits.length)

/-- `:SS` and `:SS.SSS` after the minute, in milliseconds. -/
def readSeconds : Str → Option (Nat × Str)
  | 58 :: s => do
    let (sec, s) ← getDigits 2 0 59 s
    match s with
    | 46 :: c :: rest =>
      if isDigit c then
        some (sec * 1000 + millis ((c :: rest).takeWhile isDigit), (c :: rest).dropWhile isDigit)
      else some (sec * 1000, s)
    | _ => some (sec * 1000, s)
  | s => some (0, s)

/-- The zone at the end of a time, in minutes east. -/
def readZone (s : Str) : Option Int :=
  match s.dropWhile isSpace with
  | [] => some 0
  | c :: rest =>
    if c = 90 ∨ c = 122 then
      if rest.all isSpace then some 0 else none
    else if c = 43 ∨ c = 45 then do
      let (hours, s) ← getDigits 2 0 14 rest
      let s ← expect 58 s
      let (minutes, s) ← getDigits 2 0 59 s
      let offset : Int := hours * 60 + minutes
      if s.all isSpace then some (if c = 45 then -offset else offset) else none
    else none

/-- `HH:MM`, `HH:MM:SS` or `HH:MM:SS.SSS` and a zone, in milliseconds. -/
def readTime (s : Str) : Option Int := do
  let (hour, s) ← getDigits 2 0 24 s
  let s ← expect 58 s
  let (minute, s) ← getDigits 2 0 59 s
  let (ms, s) ← readSeconds s
  let offset ← readZone s
  some ((hour * 60 + minute) * 60000 + ms - offset * 60000)

/-- What may stand between a date and a time of day. -/
def isGap (b : UInt8) : Bool := isSpace b || b == 84

/-- A time value in milliseconds, as `datetime` reads it at the second `now`. -/
def readDatetime (now : Nat) (s : Str) : Option Int :=
  if lower s = lit "now" then some (now * 1000)
  else match readDate s with
    | some (day, rest) =>
      match rest.dropWhile isGap with
      | [] => some (day * 86400000)
      | time => (readTime time).map fun ms => day * 86400000 + ms
    | none => (readTime s).map fun ms => dayNumber 2000 1 1 * 86400000 + ms

/-- `datetime(X)` at the second `now`; `none` is `NULL`. -/
def datetime (now : Nat) (s : Str) : Option Str := do
  let ms ← readDatetime now s
  if 0 ≤ ms ∧ ms < maxSeconds * 1000 then some (datetimeText (fieldsOf (ms / 1000).toNat))
  else none

/-- `datetime(X) <= datetime('now')`, where `NULL` is not true. -/
def notAfterNow (now : Nat) (s : Str) : Bool :=
  match datetime now s, datetime now (lit "now") with
  | some t, some u => t ≤ u
  | _, _ => false

/-! ### Reading written times -/

theorem getDigits_pad {w n lo hi : Nat} (h : n < 10 ^ w) (hn : lo ≤ n ∧ n ≤ hi) (rest : Str) :
    getDigits w lo hi (pad w n ++ rest) = some (n, rest) := by
  simp [getDigits, takeDigits_pad h, Option.filter, hn]

theorem readDate_dateText {t : Fields} (ht : t.Valid) (rest : Str) :
    readDate (dateText t ++ rest) = some (dayNumber t.year t.month t.day, rest) := by
  have hday := ht.day_le
  obtain ⟨hyear, hmonth, hd, -⟩ := ht
  simp only [dateText, readDate, List.append_assoc, List.cons_append]
  rw [getDigits_pad (by omega) (by omega)]
  simp [expect, getDigits_pad (show t.month < 10 ^ 2 by omega) hmonth,
    getDigits_pad (show t.day < 10 ^ 2 by omega) (show 1 ≤ t.day ∧ t.day ≤ 31 by omega)]

/-- A written time of day is read back, with nothing or a `Z` behind it. -/
theorem readTime_clockText {t : Fields} (ht : t.Valid) {tail : Str}
    (htail : tail = [] ∨ tail = [90]) :
    readTime (clockText t ++ tail) =
      some (((t.hour * 60 + t.minute) * 60000 + t.second * 1000 : Nat) : Int) := by
  obtain ⟨-, -, -, hhour, hminute, hsecond⟩ := ht
  simp only [clockText, readTime, List.append_assoc, List.cons_append]
  rw [getDigits_pad (by omega) (by omega)]
  have hm := getDigits_pad (show t.minute < 10 ^ 2 by omega)
    (show 0 ≤ t.minute ∧ t.minute ≤ 59 by omega)
  have hs := getDigits_pad (show t.second < 10 ^ 2 by omega)
    (show 0 ≤ t.second ∧ t.second ≤ 59 by omega)
  have hlast := hs []
  rw [List.append_nil] at hlast
  rcases htail with rfl | rfl <;> simp [expect, hm, hs, hlast, readSeconds, readZone, isSpace]

private theorem dateText_ne_now (t : Fields) (rest : Str) :
    lower (dateText t ++ rest) ≠ lit "now" := by
  intro h
  have hhead := congrArg List.head? h
  have hdigit := isDigit_digit (t.year / 10 / 10 / 10)
  simp only [dateText, pad, lower, List.nil_append, List.cons_append, List.map_cons,
    List.head?_cons] at hhead
  have hlow : lowerByte (digit (t.year / 10 / 10 / 10)) = 110 := Option.some.inj hhead
  generalize digit (t.year / 10 / 10 / 10) = b at hdigit hlow
  simp only [isDigit, Bool.and_eq_true, decide_eq_true_eq, UInt8.le_iff_toNat_le,
    UInt8.reduceToNat] at hdigit
  unfold lowerByte at hlow
  split at hlow
  · rename_i hupper
    simp only [UInt8.le_iff_toNat_le, UInt8.reduceToNat] at hupper
    omega
  · have := congrArg UInt8.toNat hlow
    simp at this
    omega

@[simp] theorem isGap_digit (n : Nat) : isGap (digit n) = false := by
  have hdigit := digit_toNat n
  simp only [isGap, isSpace, Bool.or_eq_false_iff, Bool.and_eq_false_iff, decide_eq_false_iff_not,
    beq_eq_false_iff_ne, ne_eq, UInt8.le_iff_toNat_le, ← UInt8.toNat_inj, UInt8.reduceToNat]
  omega

/-- Both written forms are read as their second. -/
theorem readDatetime_written (now : Nat) {t : Fields} (ht : t.Valid) {sep : UInt8} {tail : Str}
    (hsep : sep = 32 ∨ sep = 84) (htail : tail = [] ∨ tail = [90]) :
    readDatetime now (dateText t ++ sep :: (clockText t ++ tail)) =
      some ((t.seconds * 1000 : Nat) : Int) := by
  obtain ⟨rest, hcons⟩ : ∃ rest, clockText t ++ tail = digit (t.hour / 10) :: rest :=
    ⟨_, by simp only [clockText, pad, List.nil_append, List.cons_append]; rfl⟩
  have hgap : isGap sep = true := by rcases hsep with rfl | rfl <;> rfl
  have hskip : (sep :: (clockText t ++ tail)).dropWhile isGap = clockText t ++ tail := by
    rw [hcons]
    simp [hgap]
  have htime := readTime_clockText ht htail
  rw [readDatetime, if_neg (dateText_ne_now t _), readDate_dateText ht]
  simp only [hskip]
  rw [hcons] at htime ⊢
  simp only [htime, Option.map_some, Option.some.injEq, Fields.seconds]
  omega

theorem datetime_eq {now n : Nat} {ms : Int} {s : Str} (hread : readDatetime now s = some ms)
    (hlo : 0 ≤ ms) (hhi : ms < maxSeconds * 1000) (hn : (ms / 1000).toNat = n) :
    datetime now s = some (datetimeText (fieldsOf n)) := by
  simp only [datetime, hread, Option.bind_eq_bind, Option.bind_some, hlo, hhi, and_self, if_true,
    hn]

/-- A written time is over when its second is. -/
theorem notAfterNow_written {now : Nat} (hnow : now < maxSeconds) {t : Fields} (ht : t.Valid)
    {sep : UInt8} {tail : Str} (hsep : sep = 32 ∨ sep = 84) (htail : tail = [] ∨ tail = [90]) :
    notAfterNow now (dateText t ++ sep :: (clockText t ++ tail)) = decide (t.seconds ≤ now) := by
  have hlt := ht.seconds_lt_max
  have hcell := datetime_eq (n := t.seconds) (readDatetime_written now ht hsep htail)
    (by omega) (by omega) (by omega)
  have hlow : lower (lit "now") = lit "now" := by decide
  have hread : readDatetime now (lit "now") = some ((now : Int) * 1000) := by
    rw [readDatetime, if_pos hlow]
  have hclock := datetime_eq (n := now) hread (by omega) (by omega) (by omega)
  rw [notAfterNow, hcell, hclock]
  simp only [datetimeText_le_iff hlt hnow]

/-! ## Words -/

/-- A lower-case ASCII letter, a digit or an underscore. -/
def isWordByte (b : UInt8) : Bool := (97 ≤ b && b ≤ 122) || isDigit b || b == 95

/-- Text of lower-case ASCII letters, digits and underscores. -/
def Word (s : Str) : Prop := s.all isWordByte = true

instance (s : Str) : Decidable (Word s) := inferInstanceAs (Decidable (_ = true))

theorem Word.ascii {s : Str} (h : Word s) : ∀ b ∈ s, b < 128 ∧ ¬ (65 ≤ b ∧ b ≤ 90) := by
  intro b hb
  have hword := List.all_eq_true.mp h b hb
  simp only [isWordByte, isDigit, Bool.or_eq_true, Bool.and_eq_true, decide_eq_true_eq,
    beq_iff_eq, UInt8.le_iff_toNat_le, ← UInt8.toNat_inj, UInt8.reduceToNat] at hword
  simp only [UInt8.le_iff_toNat_le, UInt8.lt_iff_toNat_lt, UInt8.reduceToNat]
  omega

theorem Word.reverse {s : Str} (h : Word s) : Word s.reverse := by
  simpa [Word] using h

theorem Word.toLower {s : Str} (h : Word s) : toLower s = s := toLower_eq_self h.ascii

theorem Word.lower {s : Str} (h : Word s) : lower s = s := by
  refine (List.map_congr_left (g := id) fun b hb => ?_).trans (List.map_id s)
  exact if_neg (h.ascii b hb).2

/-- On words, case folding compares the texts. -/
theorem Word.equalFold {s t : Str} (hs : Word s) (ht : Word t) : equalFold s t = (s == t) := by
  rw [GoText.equalFold, foldCase_eq_self hs.ascii, foldCase_eq_self ht.ascii]

theorem Word.dropWhile {s : Str} (h : Word s) : s.dropWhile (· == 32) = s := by
  rcases s with _ | ⟨b, s⟩
  · rfl
  · have hb : isWordByte b = true := List.all_eq_true.mp h b (by simp)
    have hne : ¬ b = 32 := by
      rintro rfl
      exact absurd hb (by decide)
    simp [hne]

theorem Word.trim {s : Str} (h : Word s) : trim s = s := by
  rw [Sqlite.trim, trimByte, h.dropWhile, trimRightByte, h.reverse.dropWhile, List.reverse_reverse]

theorem Word.trimSpace {s : Str} (h : Word s) : trimSpace s = s := by
  have hgraphic : ∀ b ∈ s, isGraphic b = true := by
    intro b hb
    have hword := List.all_eq_true.mp h b hb
    simp only [isWordByte, isDigit, Bool.or_eq_true, Bool.and_eq_true, decide_eq_true_eq,
      beq_iff_eq, UInt8.le_iff_toNat_le, ← UInt8.toNat_inj, UInt8.reduceToNat] at hword
    simp only [isGraphic, Bool.and_eq_true, decide_eq_true_eq, UInt8.le_iff_toNat_le,
      UInt8.reduceToNat]
    omega
  exact trimSpace_eq_self (fun b hb => hgraphic b (List.mem_of_head? hb))
    (fun b hb => hgraphic b (List.mem_of_getLast? hb))

end Sqlite
