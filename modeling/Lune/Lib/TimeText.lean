import Lune.Lib.GoText
import Lune.Lib.Calendar

/-!
# Times as text

What the Go package `time` and the SQLite date functions read and write.  An
instant is an `Int`, in nanoseconds from the start of the year 0 in UTC, for Go;
SQLite counts milliseconds and prints whole seconds.

The two meet in `datetimeText_lt`: SQLite compares the text of two dates byte
by byte, and that order is the order in time.
-/

namespace TimeText

open GoText Calendar

/-- Nanoseconds in a second. -/
def second : Nat := 1000000000

/-! ## Digits -/

/-- The last decimal digit of a number. -/
def digit (n : Nat) : UInt8 := UInt8.ofNat (48 + n % 10)

/-- The last `w` decimal digits of a number. -/
def pad : Nat → Nat → Str
  | 0, _ => []
  | w + 1, n => pad w (n / 10) ++ [digit n]

/-- Read exactly `w` digits. -/
def takeDigits (w : Nat) (s : Str) : Option (Nat × Str) :=
  if w ≤ s.length ∧ (s.take w).all isDigit then
    some (digitsVal (s.take w), s.drop w)
  else none

@[simp] theorem pad_length (w n : Nat) : (pad w n).length = w := by
  induction w generalizing n with
  | zero => rfl
  | succ w ih => simp [pad, ih]

theorem digit_toNat (n : Nat) : (digit n).toNat = 48 + n % 10 := by
  simp only [digit, UInt8.toNat_ofNat']
  omega

@[simp] theorem isDigit_digit (n : Nat) : isDigit (digit n) = true := by
  simp only [isDigit, Bool.and_eq_true, decide_eq_true_eq, UInt8.le_iff_toNat_le, digit_toNat,
    UInt8.reduceToNat]
  omega

theorem pad_all_isDigit (w n : Nat) : (pad w n).all isDigit = true := by
  induction w generalizing n with
  | zero => rfl
  | succ w ih => simp [pad, ih]

theorem digitsVal_pad {w n : Nat} (h : n < 10 ^ w) : digitsVal (pad w n) = n := by
  induction w generalizing n with
  | zero => simp at h; simp [pad, digitsVal, h]
  | succ w ih =>
    have hdiv : n / 10 < 10 ^ w := by
      rw [Nat.pow_succ] at h
      omega
    have hval := ih hdiv
    simp only [digitsVal] at hval
    simp only [pad, digitsVal, List.foldl_append, List.foldl_cons, List.foldl_nil, hval,
      digit_toNat]
    omega

theorem takeDigits_pad {w n : Nat} (h : n < 10 ^ w) (rest : Str) :
    takeDigits w (pad w n ++ rest) = some (n, rest) := by
  have hlen := pad_length w n
  have htake : (pad w n ++ rest).take w = pad w n := by
    rw [List.take_append_of_le_length (by omega), List.take_of_length_le (by omega)]
  have hdrop : (pad w n ++ rest).drop w = rest := by
    rw [List.drop_append_of_le_length (by omega), List.drop_of_length_le (by omega)]
    rfl
  rw [takeDigits, htake, hdrop, pad_all_isDigit, digitsVal_pad h]
  simp [hlen]

/-! ## Byte order -/

/-- Texts of one length that differ are ordered whatever follows them. -/
theorem append_lt_append {a b : Str} (hlen : a.length = b.length) (h : a < b) (c d : Str) :
    a ++ c < b ++ d := by
  induction a generalizing b with
  | nil =>
    have : b = [] := List.length_eq_zero_iff.mp hlen.symm
    simp [this] at h
  | cons x a ih =>
    rcases b with _ | ⟨y, b⟩
    · simp at hlen
    · simp only [List.cons_append, List.cons_lt_cons_iff] at h ⊢
      rcases h with hxy | ⟨hxy, hab⟩
      · exact Or.inl hxy
      · exact Or.inr ⟨hxy, ih (by simpa using hlen) hab⟩

/-- A common beginning does not matter. -/
theorem append_lt_append_left (a : Str) {c d : Str} (h : c < d) : a ++ c < a ++ d := by
  induction a with
  | nil => exact h
  | cons x a ih => exact List.cons_lt_cons_iff.mpr (Or.inr ⟨rfl, ih⟩)

theorem pad_lt {w n m : Nat} (hm : m < 10 ^ w) (h : n < m) : pad w n < pad w m := by
  induction w generalizing n m with
  | zero => simp at hm; omega
  | succ w ih =>
    have hdiv : m / 10 < 10 ^ w := by
      rw [Nat.pow_succ] at hm
      omega
    rcases Nat.lt_or_ge (n / 10) (m / 10) with hlt | hge
    · exact append_lt_append (by simp) (ih hdiv hlt) _ _
    · have heq : n / 10 = m / 10 := by omega
      have hdigit : digit n < digit m := by
        rw [UInt8.lt_iff_toNat_lt, digit_toNat, digit_toNat]
        omega
      rw [pad, pad, heq]
      exact append_lt_append_left _ (List.cons_lt_cons_iff.mpr (Or.inl hdigit))

/-- One field of a record after another: the first that differs decides. -/
theorem pad_append_lt {w n m : Nat} (hm : m < 10 ^ w) {c d : Str}
    (h : n < m ∨ n = m ∧ c < d) : pad w n ++ c < pad w m ++ d := by
  rcases h with hlt | ⟨rfl, hcd⟩
  · exact append_lt_append (by simp) (pad_lt hm hlt) c d
  · exact append_lt_append_left _ hcd

/-! ## Writing -/

/-- `2006-01-02`. -/
def dateText (t : Fields) : Str := pad 4 t.year ++ 45 :: (pad 2 t.month ++ 45 :: pad 2 t.day)

/-- `15:04:05`. -/
def clockText (t : Fields) : Str :=
  pad 2 t.hour ++ 58 :: (pad 2 t.minute ++ 58 :: pad 2 t.second)

/-- The form `2006-01-02 15:04:05`, which SQLite writes. -/
def datetimeText (t : Fields) : Str := dateText t ++ 32 :: clockText t

/-- `t.UTC().Format(time.RFC3339)`. -/
def rfc3339Text (t : Fields) : Str := dateText t ++ 84 :: (clockText t ++ [90])

theorem datetimeText_lt {t u : Fields} (hu : u.Valid) (h : t.Before u) :
    datetimeText t < datetimeText u := by
  have hmonth : u.month < 10 ^ 2 := by have := hu.2.1; omega
  have hday : u.day < 10 ^ 2 := by have := hu.day_le; omega
  obtain ⟨hyear, -, -, hhour, hminute, hsecond⟩ := hu
  have hcons (b : UInt8) {c d : Str} (hcd : c < d) : b :: c < b :: d :=
    List.cons_lt_cons_iff.mpr (Or.inr ⟨rfl, hcd⟩)
  simp only [datetimeText, dateText, clockText, List.append_assoc, List.cons_append]
  refine pad_append_lt (by omega) (h.imp_right fun hm => ⟨hm.1, hcons _ ?_⟩)
  refine pad_append_lt hmonth (hm.2.imp_right fun hd => ⟨hd.1, hcons _ ?_⟩)
  refine pad_append_lt hday (hd.2.imp_right fun hh => ⟨hh.1, hcons _ ?_⟩)
  refine pad_append_lt (by omega) (hh.2.imp_right fun hi => ⟨hi.1, hcons _ ?_⟩)
  refine pad_append_lt (by omega) (hi.2.imp_right fun hs => ⟨hs.1, hcons _ ?_⟩)
  exact pad_lt (by omega) hs.2

/-- The texts of two seconds compare as the seconds do. -/
theorem datetimeText_le_iff {s t : Nat} (hs : s < maxSeconds) (ht : t < maxSeconds) :
    datetimeText (fieldsOf s) ≤ datetimeText (fieldsOf t) ↔ s ≤ t := by
  constructor
  · intro hle
    by_contra hlt
    have hlt' := datetimeText_lt (fieldsOf_valid hs) (fieldsOf_before hs (by omega : t < s))
    exact absurd hle (List.not_le.mpr hlt')
  · intro hle
    rcases Nat.lt_or_eq_of_le hle with hlt | rfl
    · exact List.le_of_lt (datetimeText_lt (fieldsOf_valid ht) (fieldsOf_before ht hlt))
    · exact List.le_refl _

theorem isGraphic_digit (n : Nat) : isGraphic (digit n) = true := by
  have hdigit := digit_toNat n
  simp only [isGraphic, Bool.and_eq_true, decide_eq_true_eq, UInt8.le_iff_toNat_le,
    UInt8.reduceToNat]
  omega

theorem head?_dateText (t : Fields) (rest : Str) :
    (dateText t ++ rest).head? = some (digit (t.year / 10 / 10 / 10)) := by
  simp [dateText, pad]

theorem trimSpace_datetimeText (t : Fields) : trimSpace (datetimeText t) = datetimeText t := by
  refine trimSpace_eq_self (fun b hb => ?_) fun b hb => ?_
  · rw [datetimeText, head?_dateText, Option.some.injEq] at hb
    exact hb ▸ isGraphic_digit _
  · have hlast : (datetimeText t).getLast? = some (digit t.second) := by
      simp [datetimeText, clockText, pad, List.getLast?_append, List.getLast?_cons]
    rw [hlast, Option.some.injEq] at hb
    exact hb ▸ isGraphic_digit _

theorem trimSpace_rfc3339Text (t : Fields) : trimSpace (rfc3339Text t) = rfc3339Text t := by
  refine trimSpace_eq_self (fun b hb => ?_) fun b hb => ?_
  · rw [rfc3339Text, head?_dateText, Option.some.injEq] at hb
    exact hb ▸ isGraphic_digit _
  · have hlast : (rfc3339Text t).getLast? = some 90 := by
      simp [rfc3339Text, List.getLast?_append, List.getLast?_cons]
    rw [hlast, Option.some.injEq] at hb
    exact hb ▸ by decide

/-! ## Go: `time.Parse` -/

/-- `time.getnum`: one or two digits, two when `fixed`. -/
def getnum (fixed : Bool) : Str → Option (Nat × Str)
  | a :: b :: rest =>
    if isDigit a then
      if isDigit b then some (digitsVal [a, b], rest)
      else if fixed then none else some (digitsVal [a], b :: rest)
    else none
  | [a] => if isDigit a && !fixed then some (digitsVal [a], []) else none
  | [] => none

/-- A literal byte of the layout.  A blank stands for any number of blanks, and
for none at the end of the text. -/
def skipByte (b : UInt8) : Str → Option Str
  | [] => if b = 32 then some [] else none
  | c :: rest =>
    if b = c then some (if b = 32 then rest.dropWhile (· == 32) else rest) else none

/-- A fraction of a second, `,` or `.` and digits, in nanoseconds.  It may
follow the seconds whether the layout names one or not; digits after the ninth
are dropped. -/
def fraction : Str → Nat × Str
  | b :: c :: rest =>
    if (b = 46 ∨ b = 44) ∧ isDigit c then
      let digits := (c :: rest).takeWhile isDigit
      let kept := digits.take 9
      (digitsVal kept * 10 ^ (9 - kept.length), (c :: rest).dropWhile isDigit)
    else (0, b :: c :: rest)
  | s => (0, s)

/-- The layout element `Z07:00`, in seconds east of UTC. -/
def zone : Str → Option (Int × Str)
  | 90 :: rest => some (0, rest)
  | sign :: a :: b :: colon :: c :: d :: rest => do
    if colon ≠ 58 then none
    let (hours, _) ← getnum true [a, b]
    let (minutes, _) ← getnum true [c, d]
    if 24 < hours ∨ 60 < minutes then none
    let offset : Int := (hours * 60 + minutes) * 60
    if sign = 43 then some (offset, rest)
    else if sign = 45 then some (-offset, rest)
    else none
  | _ => none

/-- The layouts in use: a date and a time of day with `sep` between them, and
perhaps a zone. -/
structure Layout where
  sep : UInt8
  zoned : Bool

/-- `time.RFC3339` and `time.RFC3339Nano`, which accept the same texts. -/
def rfc3339 : Layout := ⟨84, true⟩

/-- `2006-01-02 15:04:05`. -/
def spaced : Layout := ⟨32, false⟩

/-- The date of a layout.  Whether the day exists is checked at the end. -/
def readDate (s : Str) : Option ((Nat × Nat × Nat) × Str) := do
  let (year, s) ← takeDigits 4 s
  let s ← skipByte 45 s
  let (month, s) ← getnum true s
  let s ← skipByte 45 s
  let (day, s) ← getnum true s
  if 1 ≤ month ∧ month ≤ 12 then some ((year, month, day), s) else none

/-- The time of day of a layout.  The hour may have one digit. -/
def readClock (s : Str) : Option ((Nat × Nat × Nat) × Str) := do
  let (hour, s) ← getnum false s
  let s ← skipByte 58 s
  let (minute, s) ← getnum true s
  let s ← skipByte 58 s
  let (sec, s) ← getnum true s
  if hour < 24 ∧ minute < 60 ∧ sec < 60 then some ((hour, minute, sec), s) else none

/-- `time.Parse`. -/
def parse (layout : Layout) (value : Str) : Option Int := do
  let ((year, month, day), value) ← readDate value
  let value ← skipByte layout.sep value
  let ((hour, minute, sec), value) ← readClock value
  let nanos := (fraction value).1
  let (offset, value) ←
    if layout.zoned then zone (fraction value).2 else some (0, (fraction value).2)
  let t : Fields := ⟨year, month, day, hour, minute, sec⟩
  if value = [] ∧ 1 ≤ day ∧ day ≤ daysIn year month then
    some (((t.seconds : Int) - offset) * second + nanos)
  else none

theorem getnum_pad {n : Nat} (h : n < 100) (fixed : Bool) (rest : Str) :
    getnum fixed (pad 2 n ++ rest) = some (n, rest) := by
  have hval : digitsVal (pad 2 n) = n := digitsVal_pad h
  simp only [pad, List.nil_append, List.cons_append] at hval ⊢
  simp [getnum, hval]

theorem readDate_dateText {t : Fields} (ht : t.Valid) (rest : Str) :
    readDate (dateText t ++ rest) = some ((t.year, t.month, t.day), rest) := by
  have hday := ht.day_le
  obtain ⟨hyear, hmonth, -⟩ := ht
  simp only [dateText, readDate, List.append_assoc, List.cons_append]
  rw [takeDigits_pad (by omega)]
  simp [skipByte, getnum_pad (show t.month < 100 by omega), getnum_pad (show t.day < 100 by omega), hmonth]

theorem readClock_clockText {t : Fields} (ht : t.Valid) (rest : Str) :
    readClock (clockText t ++ rest) = some ((t.hour, t.minute, t.second), rest) := by
  obtain ⟨-, -, -, hhour, hminute, hsecond⟩ := ht
  simp only [clockText, readClock, List.append_assoc, List.cons_append]
  rw [getnum_pad (by omega)]
  simp [skipByte, getnum_pad (show t.minute < 100 by omega),
    getnum_pad (show t.second < 100 by omega), hhour, hminute, hsecond]

/-- `time.RFC3339` reads back what it wrote. -/
theorem parse_rfc3339Text {t : Fields} (ht : t.Valid) :
    parse rfc3339 (rfc3339Text t) = some ((t.seconds : Int) * second) := by
  have hd := ht.2.2.1
  rw [parse, rfc3339Text, readDate_dateText ht]
  simp [rfc3339, skipByte, readClock_clockText ht, fraction, zone, hd]

/-- The layout of SQLite's own texts reads them. -/
theorem parse_datetimeText {t : Fields} (ht : t.Valid) :
    parse spaced (datetimeText t) = some ((t.seconds : Int) * second) := by
  have hd := ht.2.2.1
  have hblank : (clockText t).dropWhile (· == 32) = clockText t := by
    have hne : ¬ digit (t.hour / 10) = 32 := by
      intro heq
      have := congrArg UInt8.toNat heq
      rw [digit_toNat] at this
      simp at this
      omega
    simp [clockText, pad, hne]
  have hclock := readClock_clockText ht []
  rw [List.append_nil] at hclock
  rw [parse, datetimeText, readDate_dateText ht]
  simp [spaced, skipByte, hblank, hclock, fraction, hd]

/-- The `T` of RFC 3339 does not match a blank. -/
theorem parse_rfc3339_datetimeText {t : Fields} (ht : t.Valid) :
    parse rfc3339 (datetimeText t) = none := by
  rw [parse, datetimeText, readDate_dateText ht]
  simp [rfc3339, skipByte]

end TimeText
