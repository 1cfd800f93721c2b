import Mathlib.Data.Nat.Find
import Mathlib.Data.List.Basic
import Mathlib.Data.List.Lex

/-!
# Calendar

The proleptic Gregorian calendar on the years 0 to 9999, second by second.
`Fields` is a date and time of day as it is written, `Fields.Valid` says that
it exists, and a `DateTime` is one that does.  Seconds are counted from the
start of the year 0, so all arithmetic is on `Nat`.

The two facts everything else uses are that `ofSeconds` inverts
`Fields.seconds`, and that the order of the fields is the order in time.
-/

namespace Calendar

/-- A leap year of the Gregorian calendar. -/
def isLeap (y : Nat) : Bool := y % 4 == 0 && (y % 100 != 0 || y % 400 == 0)

/-- Days of the years before `y`. -/
def daysBeforeYear (y : Nat) : Nat :=
  365 * y + (y + 3) / 4 + (y + 399) / 400 - (y + 99) / 100

/-- Days of the month `m` of the year `y`; no month has the number `0`. -/
def daysIn (y : Nat) : Nat → Nat
  | 1 => 31
  | 2 => if isLeap y then 29 else 28
  | 3 => 31
  | 4 => 30
  | 5 => 31
  | 6 => 30
  | 7 => 31
  | 8 => 31
  | 9 => 30
  | 10 => 31
  | 11 => 30
  | 12 => 31
  | _ => 0

/-- Days of the year `y` before the month `m`. -/
def daysBeforeMonth (y : Nat) : Nat → Nat
  | 0 => 0
  | m + 1 => daysBeforeMonth y m + daysIn y m

/-- Days before a date.  A day past the end of its month runs on into the
next month. -/
def dayNumber (y m d : Nat) : Nat := daysBeforeYear y + daysBeforeMonth y m + (d - 1)

theorem daysBeforeYear_succ (y : Nat) :
    daysBeforeYear (y + 1) = daysBeforeYear y + (if isLeap y then 366 else 365) := by
  -- each quotient grows in the years that its divisor divides
  have hfour : (y + 1 + 3) / 4 = (y + 3) / 4 + if y % 4 = 0 then 1 else 0 := by split <;> omega
  have hcentury : (y + 1 + 99) / 100 = (y + 99) / 100 + if y % 100 = 0 then 1 else 0 := by
    split <;> omega
  have hfourth : (y + 1 + 399) / 400 = (y + 399) / 400 + if y % 400 = 0 then 1 else 0 := by
    split <;> omega
  have hless : (y + 99) / 100 ≤ 365 * y := by omega
  have hdvd : y % 100 = 0 → y % 4 = 0 := by omega
  have hdvd' : y % 400 = 0 → y % 100 = 0 := by omega
  unfold daysBeforeYear isLeap
  rw [hfour, hcentury, hfourth]
  generalize (y + 3) / 4 = fours, (y + 99) / 100 = centuries, (y + 399) / 400 = fourths at hless ⊢
  by_cases h4 : y % 4 = 0 <;> by_cases h100 : y % 100 = 0 <;> by_cases h400 : y % 400 = 0 <;>
    simp [h4, h100, h400] at hdvd hdvd' ⊢ <;> omega

theorem daysBeforeYear_mono {y z : Nat} (h : y ≤ z) :
    daysBeforeYear y ≤ daysBeforeYear z := by
  induction h with
  | refl => exact le_refl _
  | step _ ih => rw [daysBeforeYear_succ]; omega

theorem daysBeforeMonth_mono (y : Nat) {m k : Nat} (h : m ≤ k) :
    daysBeforeMonth y m ≤ daysBeforeMonth y k := by
  induction h with
  | refl => exact le_refl _
  | step _ ih => rw [daysBeforeMonth]; omega

/-- The twelve months fill the year. -/
theorem daysBeforeMonth_thirteen (y : Nat) :
    daysBeforeMonth y 13 = if isLeap y then 366 else 365 := by
  cases h : isLeap y <;> simp [daysBeforeMonth, daysIn, h]

/-! ## Dates and times -/

/-- A date and a time of day as six numbers. -/
structure Fields where
  year : Nat
  month : Nat
  day : Nat
  hour : Nat
  minute : Nat
  second : Nat
deriving DecidableEq, Repr

/-- The date exists, and the time of day too. -/
def Fields.Valid (t : Fields) : Prop :=
  t.year ≤ 9999 ∧ (1 ≤ t.month ∧ t.month ≤ 12) ∧ (1 ≤ t.day ∧ t.day ≤ daysIn t.year t.month) ∧
    t.hour < 24 ∧ t.minute < 60 ∧ t.second < 60

instance (t : Fields) : Decidable t.Valid :=
  inferInstanceAs (Decidable (_ ∧ (_ ∧ _) ∧ (_ ∧ _) ∧ _ ∧ _ ∧ _))

/-- Seconds since the start of the year 0. -/
def Fields.seconds (t : Fields) : Nat :=
  86400 * dayNumber t.year t.month t.day + 3600 * t.hour + 60 * t.minute + t.second

/-- A second of the calendar. -/
structure DateTime extends Fields where
  valid : toFields.Valid

/-- Seconds of the years 0 to 9999. -/
def maxSeconds : Nat := 86400 * daysBeforeYear 10000

/-! ## From seconds back to fields -/

/-- The year of a day.  The average year is 146097 / 400 days long, and the
estimate it gives is at most one year off. -/
def yearOf (n : Nat) : Nat :=
  let est := 400 * n / 146097
  if n < daysBeforeYear est then est - 1
  else if daysBeforeYear (est + 1) ≤ n then est + 1
  else est

/-- The month of the day number `doy` of the year `y`. -/
def monthOf (y doy : Nat) : Nat :=
  Nat.findGreatest (fun m => daysBeforeMonth y m ≤ doy) 12

/-- The date and time of a second. -/
def fieldsOf (s : Nat) : Fields :=
  let n := s / 86400
  let y := yearOf n
  let doy := n - daysBeforeYear y
  let m := monthOf y doy
  { year := y
    month := m
    day := doy - daysBeforeMonth y m + 1
    hour := s % 86400 / 3600
    minute := s % 3600 / 60
    second := s % 60 }

theorem yearOf_spec (n : Nat) :
    daysBeforeYear (yearOf n) ≤ n ∧ n < daysBeforeYear (yearOf n + 1) := by
  have hest : 146097 * (400 * n / 146097) ≤ 400 * n ∧
      400 * n < 146097 * (400 * n / 146097) + 146097 := by omega
  unfold yearOf
  generalize 400 * n / 146097 = est at hest
  by_cases hlt : n < daysBeforeYear est
  · simp only [hlt, if_true]
    have hpos : 0 < est := by
      rcases Nat.eq_zero_or_pos est with rfl | h
      · simp [daysBeforeYear] at hlt
      · exact h
    obtain ⟨k, rfl⟩ : ∃ k, est = k + 1 := ⟨est - 1, by omega⟩
    refine ⟨?_, by simpa using hlt⟩
    simp only [Nat.add_sub_cancel]
    unfold daysBeforeYear at hlt ⊢
    omega
  · by_cases hle : daysBeforeYear (est + 1) ≤ n
    · simp only [hlt, hle, if_true, if_false, true_and]
      unfold daysBeforeYear at hle hlt ⊢
      omega
    · simp only [hlt, hle, if_false]
      omega

theorem monthOf_spec {y doy : Nat} (h : doy < daysBeforeMonth y 13) :
    (1 ≤ monthOf y doy ∧ monthOf y doy ≤ 12) ∧
      daysBeforeMonth y (monthOf y doy) ≤ doy ∧
      doy < daysBeforeMonth y (monthOf y doy) + daysIn y (monthOf y doy) := by
  have hone : daysBeforeMonth y 1 ≤ doy := by simp [daysBeforeMonth, daysIn]
  have hpos : 1 ≤ monthOf y doy :=
    Nat.le_findGreatest (P := fun m => daysBeforeMonth y m ≤ doy) (by omega) hone
  have hle : monthOf y doy ≤ 12 := Nat.findGreatest_le 12
  refine ⟨⟨hpos, hle⟩,
    Nat.findGreatest_spec (P := fun m => daysBeforeMonth y m ≤ doy) (by omega) hone, ?_⟩
  change doy < daysBeforeMonth y (monthOf y doy + 1)
  rcases Nat.lt_or_ge (monthOf y doy) 12 with hlt | hge
  · have hnot := Nat.findGreatest_is_greatest (P := fun m => daysBeforeMonth y m ≤ doy)
      (n := 12) (k := monthOf y doy + 1) (Nat.lt_succ_self _) (by omega)
    omega
  · have heq : monthOf y doy = 12 := by omega
    rw [heq]
    exact h

/-- The day of a second lies in its year. -/
private theorem dayOfYear_lt (n : Nat) :
    n - daysBeforeYear (yearOf n) < daysBeforeMonth (yearOf n) 13 := by
  obtain ⟨hle, hlt⟩ := yearOf_spec n
  rw [daysBeforeYear_succ] at hlt
  rw [daysBeforeMonth_thirteen]
  omega

theorem seconds_fieldsOf (s : Nat) : (fieldsOf s).seconds = s := by
  obtain ⟨hle, -⟩ := yearOf_spec (s / 86400)
  obtain ⟨-, hm, -⟩ := monthOf_spec (dayOfYear_lt (s / 86400))
  simp only [Fields.seconds, fieldsOf, dayNumber]
  omega

theorem fieldsOf_valid {s : Nat} (h : s < maxSeconds) : (fieldsOf s).Valid := by
  obtain ⟨hle, -⟩ := yearOf_spec (s / 86400)
  obtain ⟨hmonth, hm, hlt⟩ := monthOf_spec (dayOfYear_lt (s / 86400))
  have hyear : yearOf (s / 86400) ≤ 9999 := by
    by_contra hcon
    have hmono := daysBeforeYear_mono (y := 10000) (z := yearOf (s / 86400)) (by omega)
    unfold maxSeconds at h
    omega
  refine ⟨hyear, hmonth, ⟨?_, ?_⟩, ?_, ?_, ?_⟩ <;> simp only [fieldsOf] <;> omega

/-- The calendar second with the number `s`. -/
def ofSeconds (s : Nat) (h : s < maxSeconds) : DateTime :=
  { toFields := fieldsOf s, valid := fieldsOf_valid h }

/-! ## Order -/

/-- The fields compared one after the other, the year first. -/
def Fields.Before (t u : Fields) : Prop :=
  t.year < u.year ∨ t.year = u.year ∧ (t.month < u.month ∨ t.month = u.month ∧
    (t.day < u.day ∨ t.day = u.day ∧ (t.hour < u.hour ∨ t.hour = u.hour ∧
      (t.minute < u.minute ∨ t.minute = u.minute ∧ t.second < u.second))))

theorem Fields.before_trichotomy (t u : Fields) : t.Before u ∨ t = u ∨ u.Before t := by
  rcases t with ⟨y, m, d, h, i, s⟩
  rcases u with ⟨y', m', d', h', i', s'⟩
  simp only [Fields.Before, Fields.mk.injEq]
  omega

theorem Fields.Valid.day_le {t : Fields} (ht : t.Valid) : t.day ≤ 31 := by
  have hd := ht.2.2.1.2
  unfold daysIn at hd
  split at hd <;> (try split at hd) <;> omega

/-- A valid date lies in its month. -/
theorem Fields.Valid.dayNumber_lt {t : Fields} (ht : t.Valid) :
    dayNumber t.year t.month t.day <
      daysBeforeYear t.year + daysBeforeMonth t.year (t.month + 1) := by
  obtain ⟨-, -, ⟨hd, hd'⟩, -⟩ := ht
  rw [daysBeforeMonth, dayNumber]
  omega

/-- A valid date lies in its year. -/
theorem Fields.Valid.dayNumber_lt_year {t : Fields} (ht : t.Valid) :
    dayNumber t.year t.month t.day < daysBeforeYear (t.year + 1) := by
  have hlt := ht.dayNumber_lt
  have hmono := daysBeforeMonth_mono t.year (m := t.month + 1) (k := 13) (by have := ht.2.1; omega)
  rw [daysBeforeMonth_thirteen] at hmono
  rw [daysBeforeYear_succ]
  omega

theorem Fields.Valid.dayNumber_mono {t u : Fields} (ht : t.Valid)
    (h : t.year < u.year ∨
      t.year = u.year ∧ (t.month < u.month ∨ t.month = u.month ∧ t.day < u.day)) :
    dayNumber t.year t.month t.day < dayNumber u.year u.month u.day := by
  rcases h with hy | ⟨hy, hm | ⟨hm, hd⟩⟩
  · have hlt := ht.dayNumber_lt_year
    have hmono := daysBeforeYear_mono (y := t.year + 1) (z := u.year) hy
    unfold dayNumber at hlt ⊢
    omega
  · have hlt := ht.dayNumber_lt
    have hmono := daysBeforeMonth_mono t.year (m := t.month + 1) (k := u.month) hm
    rw [hy] at hlt hmono ⊢
    unfold dayNumber at hlt ⊢
    omega
  · have hpos := ht.2.2.1.1
    rw [hy, hm]
    unfold dayNumber
    omega

/-- The order of the fields is the order in time. -/
theorem Fields.Valid.seconds_lt {t u : Fields} (ht : t.Valid) (hu : u.Valid) (h : t.Before u) :
    t.seconds < u.seconds := by
  have htime := ht.2.2.2
  have hutime := hu.2.2.2
  rcases h with hy | ⟨hy, hm | ⟨hm, hd | ⟨hd, hrest⟩⟩⟩
  · have := ht.dayNumber_mono (u := u) (Or.inl hy)
    unfold Fields.seconds
    omega
  · have := ht.dayNumber_mono (u := u) (Or.inr ⟨hy, Or.inl hm⟩)
    unfold Fields.seconds
    omega
  · have := ht.dayNumber_mono (u := u) (Or.inr ⟨hy, Or.inr ⟨hm, hd⟩⟩)
    unfold Fields.seconds
    omega
  · unfold Fields.seconds
    rw [hy, hm, hd]
    omega

/-- The fields of an earlier second come first. -/
theorem fieldsOf_before {s t : Nat} (ht : t < maxSeconds) (h : s < t) :
    (fieldsOf s).Before (fieldsOf t) := by
  have hs : (fieldsOf s).Valid := fieldsOf_valid (by omega)
  rcases Fields.before_trichotomy (fieldsOf s) (fieldsOf t) with hb | heq | hb
  · exact hb
  · have := congrArg Fields.seconds heq
    rw [seconds_fieldsOf, seconds_fieldsOf] at this
    omega
  · have := (fieldsOf_valid ht).seconds_lt hs hb
    rw [seconds_fieldsOf, seconds_fieldsOf] at this
    omega

theorem Fields.Valid.seconds_lt_max {t : Fields} (ht : t.Valid) : t.seconds < maxSeconds := by
  have hday := ht.dayNumber_lt_year
  have hmono := daysBeforeYear_mono (y := t.year + 1) (z := 10000) (by have := ht.1; omega)
  have htime := ht.2.2.2
  unfold Fields.seconds maxSeconds
  omega

/-- A second of the calendar is the one its number names. -/
theorem fieldsOf_seconds {t : Fields} (ht : t.Valid) : fieldsOf t.seconds = t := by
  have hlt := ht.seconds_lt_max
  have hv := fieldsOf_valid hlt
  have hs := seconds_fieldsOf t.seconds
  rcases Fields.before_trichotomy (fieldsOf t.seconds) t with hb | heq | hb
  · have := hv.seconds_lt ht hb
    omega
  · exact heq
  · have := ht.seconds_lt hv hb
    omega

end Calendar
