import Lune.Lib.GoJson
import Mathlib.Algebra.Order.Field.Rat
import Mathlib.Algebra.Order.Field.Power
import Mathlib.Data.List.TakeWhile
import Mathlib.Tactic.FieldSimp
import Mathlib.Tactic.NormNum
import Mathlib.Tactic.Push

/-!
# Numbers read as `float64`

`strconv.ParseFloat` on the numbers of JSON: the nearest number with a mantissa of 53
bits, and the even one of two.  The conversion of a `float64` to `int` drops the fraction;
for a number that does not fit the language leaves the result open, and `Platform` says what
the machines do.
-/

namespace GoFloat

open GoText GoJson

/-- A finite `float64`: a mantissa times a power of two, with a sign. -/
structure Float64 where
  negative : Bool
  mantissa : Nat
  exponent : Int

/-- The number a `float64` is.  Two are equal in Go when these are. -/
def Float64.value (x : Float64) : ℚ :=
  (if x.negative then -1 else 1) * x.mantissa * 2 ^ x.exponent

/-! ## Rounding -/

/-- The quotient rounded to the nearest number, and to the even one of two. -/
def divideToEven (a b : Nat) : Nat :=
  if b < 2 * (a % b) ∨ b = 2 * (a % b) ∧ a / b % 2 = 1 then a / b + 1 else a / b

/-- The exponent of the highest power of two that is at most the quotient. -/
def magnitude (num den : Nat) : Int :=
  let lg : Int := (Nat.log2 num : Int) - Nat.log2 den
  let tooHigh : Bool :=
    if 0 ≤ lg then num < den * 2 ^ lg.toNat else num * 2 ^ (-lg).toNat < den
  if tooHigh then lg - 1 else lg

/-- The `float64` nearest to a quotient. -/
def nearest (negative : Bool) (num den : Nat) : Float64 :=
  let exponent := max (magnitude num den - 52) (-1074)
  { negative := negative
    mantissa :=
      if 0 ≤ exponent then divideToEven num (den * 2 ^ exponent.toNat)
      else divideToEven (num * 2 ^ (-exponent).toNat) den
    exponent := exponent }

/-- `strconv.ParseFloat` of a number of JSON. -/
def parseFloat (text : Str) : Option Float64 :=
  if floatOverflows text then none
  else
    let negative := hasPrefix text [45]
    let unsigned := trimPrefix text [45]
    let mantissa := unsigned.takeWhile fun b => b != 101 && b != 69
    let exponent := exponentVal ((unsigned.dropWhile fun b => b != 101 && b != 69).drop 1)
    let (int, frac) := cut mantissa 46
    let digits := digitsVal (int ++ frac.getD [])
    let scale := exponent - (frac.getD []).length
    if 0 ≤ scale then some (nearest negative (digits * 10 ^ scale.toNat) 1)
    else some (nearest negative digits (10 ^ (-scale).toNat))

/-! ## Conversions -/

/-- `float64(n)`. -/
def ofInt (n : Int) : Float64 := nearest (decide (n < 0)) n.natAbs 1

/-- The machines a program is built for. -/
inductive Platform where
  | amd64
  | arm64

/-- `int(x)`. -/
def Float64.toInt (platform : Platform) (x : Float64) : Int :=
  let whole := x.value.num.tdiv x.value.den
  if -(2 ^ 63) ≤ whole ∧ whole < 2 ^ 63 then whole
  else match platform with
    | .amd64 => -(2 ^ 63)
    | .arm64 => if whole < 0 then -(2 ^ 63) else 2 ^ 63 - 1

/-! ## Whole numbers as they are rounded -/

/-- A whole number rounded to 53 bits. -/
def roundNat (n : Nat) : Nat :=
  if n < 2 ^ 53 then n else divideToEven n (2 ^ (Nat.log2 n - 52)) * 2 ^ (Nat.log2 n - 52)

/-- A whole number rounded to 53 bits, with its sign. -/
def roundInt (n : Int) : Int := if n < 0 then -(roundNat n.natAbs : Int) else roundNat n.natAbs

theorem divideToEven_bounds (a b : Nat) :
    a / b ≤ divideToEven a b ∧ divideToEven a b ≤ a / b + 1 := by
  unfold divideToEven
  split <;> omega

theorem divideToEven_of_dvd {a b : Nat} (h : b ∣ a) (hb : 0 < b) : divideToEven a b = a / b := by
  have hmod : a % b = 0 := Nat.mod_eq_zero_of_dvd h
  unfold divideToEven
  rw [if_neg (by omega)]

theorem magnitude_one {n : Nat} (h : n ≠ 0) : magnitude n 1 = Nat.log2 n := by
  have hle : 2 ^ Nat.log2 n ≤ n := Nat.log2_self_le h
  have hone : (Nat.log2 n : Int) - Nat.log2 1 = Nat.log2 n := by
    rw [show Nat.log2 1 = 0 by decide]
    simp
  have hnonneg : (0 : Int) ≤ Nat.log2 n := by omega
  simp only [magnitude, hone, if_pos hnonneg, Int.toNat_natCast, Nat.one_mul]
  rw [if_neg (by simpa using hle)]

theorem log2_bounds {n : Nat} (h : n ≠ 0) : 2 ^ Nat.log2 n ≤ n ∧ n < 2 ^ (Nat.log2 n + 1) :=
  ⟨Nat.log2_self_le h, Nat.lt_log2_self⟩

theorem log2_eq {n k : Nat} (hlo : 2 ^ k ≤ n) (hhi : n < 2 ^ (k + 1)) : Nat.log2 n = k := by
  have hpos : 0 < 2 ^ k := Nat.two_pow_pos k
  have hne : n ≠ 0 := by omega
  have hlt := (Nat.log2_lt hne).mpr hhi
  have hge := (Nat.le_log2 hne).mpr hlo
  omega

/-- A whole number becomes a whole number. -/
theorem value_nearest_one (negative : Bool) (n : Nat) :
    (nearest negative n 1).value = (if negative then -1 else 1) * (roundNat n : ℚ) := by
  rw [Float64.value, mul_assoc]
  refine congrArg _ ?_
  by_cases hzero : n = 0
  · subst hzero
    have hmantissa : (nearest negative 0 1).mantissa = 0 := by
      cases negative <;> decide +kernel
    rw [hmantissa, Nat.cast_zero, zero_mul, show roundNat 0 = 0 by decide, Nat.cast_zero]
  have hlog : Nat.log2 n < 53 ↔ n < 2 ^ 53 := Nat.log2_lt hzero
  have hexp : max ((Nat.log2 n : Int) - 52) (-1074) = (Nat.log2 n : Int) - 52 := by omega
  simp only [nearest, magnitude_one hzero, hexp]
  by_cases hsmall : n < 2 ^ 53
  · rw [roundNat, if_pos hsmall]
    -- the exponent is at most zero and the number keeps all its bits
    obtain ⟨k, hk⟩ : ∃ k : Nat, (Nat.log2 n : Int) - 52 = -(k : Int) :=
      ⟨52 - Nat.log2 n, by have := hlog.mpr hsmall; omega⟩
    have hmantissa : (if (0 : Int) ≤ -(k : Int) then
        divideToEven n (1 * 2 ^ (-(k : Int)).toNat)
        else divideToEven (n * 2 ^ (- -(k : Int)).toNat) 1) = n * 2 ^ k := by
      split
      next hle =>
        obtain rfl : k = 0 := by omega
        simpa using divideToEven_of_dvd (one_dvd n) one_pos
      next hlt =>
        rw [neg_neg, Int.toNat_natCast, divideToEven_of_dvd (one_dvd _) one_pos, Nat.div_one]
    rw [hk, hmantissa, zpow_neg, zpow_natCast]
    push_cast
    field_simp
  · rw [roundNat, if_neg hsmall]
    obtain ⟨k, hk⟩ : ∃ k : Nat, Nat.log2 n = k + 52 :=
      ⟨Nat.log2 n - 52, by have := mt hlog.mp hsmall; omega⟩
    have hcast : (Nat.log2 n : Int) - 52 = (k : Int) := by omega
    rw [hcast, hk, if_pos (by omega), Int.toNat_natCast, Nat.one_mul, zpow_natCast,
      Nat.add_sub_cancel]
    push_cast
    rfl

theorem value_ofInt (n : Int) : (ofInt n).value = (roundInt n : ℚ) := by
  rw [ofInt, value_nearest_one, roundInt]
  by_cases hneg : n < 0
  · simp [hneg]
  · simp [hneg]

/-! ## Bounds of the rounding -/

theorem roundNat_of_lt {n : Nat} (h : n < 2 ^ 53) : roundNat n = n := if_pos h

/-- Rounding stays between two powers of two. -/
theorem roundNat_between {n k : Nat} (hlo : 2 ^ k ≤ n) (hhi : n < 2 ^ (k + 1)) :
    2 ^ k ≤ roundNat n ∧ roundNat n ≤ 2 ^ (k + 1) := by
  unfold roundNat
  split
  · exact ⟨hlo, hhi.le⟩
  next hbig =>
    rw [log2_eq hlo hhi]
    have hk : 52 ≤ k := by
      by_contra hlt
      have : 2 ^ (k + 1) ≤ 2 ^ 53 := Nat.pow_le_pow_right (by decide) (by omega)
      omega
    have hsplit : 2 ^ 52 * 2 ^ (k - 52) = 2 ^ k := by rw [← pow_add]; congr 1; omega
    have hdouble : 2 ^ 53 * 2 ^ (k - 52) = 2 ^ (k + 1) := by rw [← pow_add]; congr 1; omega
    have hpos : 0 < 2 ^ (k - 52) := Nat.two_pow_pos _
    have hquot : 2 ^ 52 ≤ n / 2 ^ (k - 52) := (Nat.le_div_iff_mul_le hpos).mpr (hsplit ▸ hlo)
    have hquot' : n / 2 ^ (k - 52) < 2 ^ 53 := (Nat.div_lt_iff_lt_mul hpos).mpr (hdouble ▸ hhi)
    obtain ⟨hdown, hup⟩ := divideToEven_bounds n (2 ^ (k - 52))
    rw [← hsplit, ← hdouble]
    exact ⟨Nat.mul_le_mul_right _ (by omega), Nat.mul_le_mul_right _ (by omega)⟩

theorem roundNat_pos {n : Nat} (h : n ≠ 0) : 0 < roundNat n := by
  have hpos : 0 < 2 ^ Nat.log2 n := Nat.two_pow_pos _
  have := (roundNat_between (log2_bounds h).1 (log2_bounds h).2).1
  omega

/-- What has at most 53 bits before its zeros is not changed. -/
theorem roundNat_mul_two_pow {m k : Nat} (h : m ≤ 2 ^ 53) : roundNat (m * 2 ^ k) = m * 2 ^ k := by
  unfold roundNat
  split
  · rfl
  next hbig =>
    have hne : m * 2 ^ k ≠ 0 := by omega
    have hdvd : 2 ^ (Nat.log2 (m * 2 ^ k) - 52) ∣ m * 2 ^ k := by
      rcases Nat.lt_or_eq_of_le h with hlt | rfl
      · have hlog : Nat.log2 (m * 2 ^ k) < k + 53 := by
          refine (Nat.log2_lt hne).mpr ?_
          rw [Nat.add_comm, pow_add]
          exact Nat.mul_lt_mul_of_pos_right hlt (Nat.two_pow_pos k)
        exact (pow_dvd_pow 2 (by omega)).trans (Nat.dvd_mul_left _ m)
      · rw [← pow_add, Nat.log2_two_pow]
        exact pow_dvd_pow 2 (by omega)
    rw [divideToEven_of_dvd hdvd (Nat.two_pow_pos _), Nat.div_mul_cancel hdvd]

/-- Rounding twice is rounding once. -/
theorem roundNat_roundNat (n : Nat) : roundNat (roundNat n) = roundNat n := by
  by_cases hsmall : n < 2 ^ 53
  · rw [roundNat_of_lt hsmall, roundNat_of_lt hsmall]
  have hne : n ≠ 0 := by omega
  have hshape : roundNat n = divideToEven n (2 ^ (Nat.log2 n - 52)) * 2 ^ (Nat.log2 n - 52) :=
    if_neg hsmall
  rw [hshape]
  refine roundNat_mul_two_pow ?_
  have hlog : 53 ≤ Nat.log2 n := (Nat.le_log2 hne).mpr (by omega)
  have hdouble : 2 ^ 53 * 2 ^ (Nat.log2 n - 52) = 2 ^ (Nat.log2 n + 1) := by
    rw [← pow_add]
    congr 1
    omega
  have hle := (roundNat_between (log2_bounds hne).1 (log2_bounds hne).2).2
  rw [hshape, ← hdouble] at hle
  exact Nat.le_of_mul_le_mul_right hle (Nat.two_pow_pos _)

/-- The numbers that round to less than `2^63`. -/
theorem roundNat_lt_iff (n : Nat) : roundNat n < 2 ^ 63 ↔ n < 2 ^ 63 - 512 := by
  by_cases hsmall : n < 2 ^ 53
  · rw [roundNat_of_lt hsmall]
    omega
  have hne : n ≠ 0 := by omega
  obtain ⟨hlo, hhi⟩ := log2_bounds hne
  obtain ⟨hdown, hup⟩ := roundNat_between hlo hhi
  rcases Nat.lt_trichotomy (Nat.log2 n) 62 with hlt | heq | hgt
  · have : 2 ^ (Nat.log2 n + 1) ≤ 2 ^ 62 := Nat.pow_le_pow_right (by decide) (by omega)
    omega
  · rw [roundNat, if_neg hsmall, heq]
    rw [heq] at hlo hhi
    unfold divideToEven
    split <;> omega
  · have : 2 ^ 63 ≤ 2 ^ Nat.log2 n := Nat.pow_le_pow_right (by decide) hgt
    omega

/-- The numbers that round to at most `2^63`. -/
theorem roundNat_le_iff (n : Nat) : roundNat n ≤ 2 ^ 63 ↔ n ≤ 2 ^ 63 + 1024 := by
  by_cases hsmall : n < 2 ^ 53
  · rw [roundNat_of_lt hsmall]
    omega
  have hne : n ≠ 0 := by omega
  obtain ⟨hlo, hhi⟩ := log2_bounds hne
  obtain ⟨hdown, hup⟩ := roundNat_between hlo hhi
  rcases Nat.lt_trichotomy (Nat.log2 n) 63 with hlt | heq | hgt
  · have : 2 ^ (Nat.log2 n + 1) ≤ 2 ^ 63 := Nat.pow_le_pow_right (by decide) (by omega)
    omega
  · rw [roundNat, if_neg hsmall, heq]
    rw [heq] at hlo hhi
    unfold divideToEven
    split <;> omega
  · have : 2 ^ 64 ≤ 2 ^ Nat.log2 n := Nat.pow_le_pow_right (by decide) hgt
    omega

/-! ## Whole numbers as they are converted -/

theorem roundInt_roundInt (n : Int) : roundInt (roundInt n) = roundInt n := by
  unfold roundInt
  by_cases hneg : n < 0
  · have hpos := roundNat_pos (n := n.natAbs) (by omega)
    rw [if_pos hneg, if_pos (by omega), Int.natAbs_neg, Int.natAbs_natCast, roundNat_roundNat]
  · rw [if_neg hneg, if_neg (by omega), Int.natAbs_natCast, roundNat_roundNat]

theorem roundInt_lt_iff (n : Int) : roundInt n < 2 ^ 63 ↔ n < 2 ^ 63 - 512 := by
  have hround := roundNat_lt_iff n.natAbs
  unfold roundInt
  split <;> omega

theorem roundInt_le_iff (n : Int) : roundInt n ≤ 2 ^ 63 ↔ n ≤ 2 ^ 63 + 1024 := by
  have hround := roundNat_le_iff n.natAbs
  unfold roundInt
  split <;> omega

theorem neg_le_roundInt_iff (n : Int) : -(2 ^ 63) ≤ roundInt n ↔ -(2 ^ 63) - 1024 ≤ n := by
  have hround := roundNat_le_iff n.natAbs
  unfold roundInt
  split <;> omega

theorem roundInt_pos_iff (n : Int) : 0 < roundInt n ↔ 0 < n := by
  by_cases hzero : n = 0
  · rw [hzero]
    decide
  have hpos := roundNat_pos (n := n.natAbs) (by omega)
  unfold roundInt
  split <;> omega

theorem roundInt_nonneg_iff (n : Int) : 0 ≤ roundInt n ↔ 0 ≤ n := by
  by_cases hzero : n = 0
  · rw [hzero]
    decide
  have hpos := roundNat_pos (n := n.natAbs) (by omega)
  unfold roundInt
  split <;> omega

/-- Converting `float64(n)` gives the rounded number where it fits. -/
theorem toInt_ofInt (platform : Platform) (n : Int) : (ofInt n).toInt platform =
    if -(2 ^ 63) ≤ roundInt n ∧ roundInt n < 2 ^ 63 then roundInt n
    else match platform with
      | .amd64 => -(2 ^ 63)
      | .arm64 => if roundInt n < 0 then -(2 ^ 63) else 2 ^ 63 - 1 := by
  unfold Float64.toInt
  rw [value_ofInt, Rat.num_intCast, Rat.den_intCast, Nat.cast_one, Int.tdiv_one]

/-- The whole numbers whose `float64` is not changed by a conversion to `int` and back. -/
def Converts : Platform → Int → Prop
  | .amd64, n => -(2 ^ 63) - 1024 ≤ n ∧ n < 2 ^ 63 - 512
  | .arm64, n => -(2 ^ 63) - 1024 ≤ n ∧ n ≤ 2 ^ 63 + 1024

instance : (platform : Platform) → (n : Int) → Decidable (Converts platform n)
  | .amd64, _ => inferInstanceAs (Decidable (_ ∧ _))
  | .arm64, _ => inferInstanceAs (Decidable (_ ∧ _))

/-- `x == float64(int(x))` for the `float64` of a whole number. -/
theorem value_toInt_iff (platform : Platform) (n : Int) :
    (ofInt n).value = (ofInt ((ofInt n).toInt platform)).value ↔ Converts platform n := by
  rw [value_ofInt, value_ofInt, Int.cast_inj, toInt_ofInt]
  have hlow := neg_le_roundInt_iff n
  have hhigh := roundInt_lt_iff n
  have hmiddle := roundInt_le_iff n
  have hsmallest : roundInt (-(2 ^ 63)) = -(2 ^ 63) := by decide +kernel
  have hlargest : roundInt (2 ^ 63 - 1) = 2 ^ 63 := by decide +kernel
  split
  next hfits =>
    refine iff_of_true (roundInt_roundInt n).symm ?_
    cases platform
    · exact ⟨hlow.mp hfits.1, hhigh.mp hfits.2⟩
    · exact ⟨hlow.mp hfits.1, hmiddle.mp hfits.2.le⟩
  next hover =>
    cases platform
    · rw [hsmallest]
      show roundInt n = -(2 ^ 63) ↔ -(2 ^ 63) - 1024 ≤ n ∧ n < 2 ^ 63 - 512
      omega
    · show roundInt n = roundInt (if roundInt n < 0 then -(2 ^ 63) else 2 ^ 63 - 1) ↔
        -(2 ^ 63) - 1024 ≤ n ∧ n ≤ 2 ^ 63 + 1024
      split
      · rw [hsmallest]
        omega
      · rw [hlargest]
        omega

/-- The sign of a number that converts is kept. -/
theorem toInt_sign_iff {platform : Platform} {n : Int} (h : Converts platform n) :
    (0 < (ofInt n).toInt platform ↔ 0 < n) ∧ (0 ≤ (ofInt n).toInt platform ↔ 0 ≤ n) := by
  have hpos := roundInt_pos_iff n
  have hnonneg := roundInt_nonneg_iff n
  have hlow := neg_le_roundInt_iff n
  have hhigh := roundInt_lt_iff n
  rw [toInt_ofInt]
  split
  next => exact ⟨hpos, hnonneg⟩
  next hover =>
    cases platform
    · have := h.1
      have := h.2
      omega
    · have := h.1
      dsimp only
      split <;> omega

/-! ## Whole numbers as they are written -/

theorem mem_itoa {n : Int} {b : UInt8} (h : b ∈ itoa n) : b = 45 ∨ isDigit b = true := by
  unfold itoa at h
  split at h
  · exact (List.mem_cons.mp h).imp_right isDigit_of_mem_digits
  · exact .inr (isDigit_of_mem_digits h)

theorem itoa_ne_nil (n : Int) : itoa n ≠ [] := by
  unfold itoa
  split
  · exact List.cons_ne_nil _ _
  · exact digits_ne_nil _

/-- The text of a number has no white space around it. -/
theorem trimSpace_itoa (n : Int) : trimSpace (itoa n) = itoa n := by
  have hgraphic : ∀ b ∈ itoa n, isGraphic b = true := by
    intro b hb
    rcases mem_itoa hb with rfl | hdigit
    · rfl
    · simp only [isDigit, isGraphic, Bool.and_eq_true, decide_eq_true_eq, UInt8.le_iff_toNat_le,
        UInt8.reduceToNat] at hdigit ⊢
      omega
  exact trimSpace_eq_self (fun b hb => hgraphic b (List.mem_of_mem_head? hb))
    fun b hb => hgraphic b (List.mem_of_getLast? hb)

/-- The text of a number is its sign and its digits. -/
theorem trimPrefix_itoa (n : Int) :
    hasPrefix (itoa n) [45] = decide (n < 0) ∧ trimPrefix (itoa n) [45] = digits n.natAbs := by
  have hplain : hasPrefix (digits n.natAbs) [45] = false := by
    cases htext : digits n.natAbs with
    | nil => rfl
    | cons b rest =>
      have hdigit : isDigit b = true := isDigit_of_mem_digits (htext ▸ List.mem_cons_self)
      have hne : (45 : UInt8) ≠ b := by
        rintro rfl
        contradiction
      simp [hasPrefix, List.isPrefixOf, hne]
  unfold itoa
  split
  next hneg => exact ⟨by simp [hasPrefix, List.isPrefixOf, hneg], by
    simp [trimPrefix, hasPrefix, List.isPrefixOf]⟩
  next hpos => exact ⟨by rw [hplain, decide_eq_false hpos], by simp [trimPrefix, hplain]⟩

theorem takeWhile_digits (n : Nat) :
    (digits n).takeWhile (fun b => b != 101 && b != 69) = digits n ∧
      (digits n).dropWhile (fun b => b != 101 && b != 69) = [] := by
  have hall : ∀ b ∈ digits n, (b != 101 && b != 69) = true := by
    intro b hb
    have hdigit := isDigit_of_mem_digits hb
    rw [Bool.and_eq_true, bne_iff_ne, bne_iff_ne]
    constructor <;> rintro rfl <;> contradiction
  exact ⟨List.takeWhile_eq_self_iff.mpr hall, List.dropWhile_eq_nil_iff.mpr hall⟩

theorem cut_digits (n : Nat) : cut (digits n) 46 = (digits n, none) :=
  cut_of_not_mem fun hdot => absurd (isDigit_of_mem_digits hdot) (by decide)

/-- A decimal number becomes the `float64` nearest to it. -/
theorem parseFloat_itoa (n : Int) :
    parseFloat (itoa n) = if floatOverflows (itoa n) then none else some (ofInt n) := by
  unfold parseFloat
  split
  · rfl
  · obtain ⟨hsign, hdigits⟩ := trimPrefix_itoa n
    obtain ⟨htake, hdrop⟩ := takeWhile_digits n.natAbs
    simp only [hsign, hdigits, htake, hdrop, cut_digits, List.drop_nil, Option.getD_none,
      List.append_nil, digitsVal_digits, List.length_nil]
    rw [show exponentVal [] = 0 by rfl, ofInt]
    simp

/-- Numbers of up to 64 bits are no range error. -/
theorem floatOverflows_itoa {n : Int} (h : n.natAbs ≤ 2 ^ 64) : floatOverflows (itoa n) = false := by
  obtain ⟨-, hdigits⟩ := trimPrefix_itoa n
  obtain ⟨htake, hdrop⟩ := takeWhile_digits n.natAbs
  have hlength : (digits n.natAbs).length ≤ 20 := by
    rw [digits, List.length_map, Nat.length_toDigits_le_iff (by decide) (by decide)]
    omega
  have hdropped : ((digits n.natAbs).dropWhile (· == 48)).length ≤ 20 :=
    ((List.dropWhile_sublist _).length_le).trans hlength
  unfold floatOverflows
  simp only [hdigits, htake, hdrop, cut_digits, List.drop_nil, Option.getD_none,
    List.append_nil, List.length_nil]
  rw [show exponentVal [] = 0 by rfl]
  split
  · rfl
  · rw [if_neg (by omega), if_pos (by omega)]

/-- The scanner takes the digits of a number whole. -/
theorem unsigned_digits (n : Nat) : unsigned (digits n) = some (digits n, []) := by
  have hall : ∀ b ∈ digits n, isDigit b = true := fun b hb => isDigit_of_mem_digits hb
  have hint : integerPart (digits n) = some (digits n, []) := by
    by_cases hzero : n = 0
    · rw [hzero]
      rfl
    have hhead := head?_digits hzero
    have hrun : digitRun (digits n) = some (digits n, []) := by
      rw [digitRun, List.takeWhile_eq_self_iff.mpr hall, List.dropWhile_eq_nil_iff.mpr hall,
        if_neg (digits_ne_nil n)]
    unfold integerPart
    split
    next rest heq =>
      rw [heq] at hhead
      exact absurd rfl hhead
    next => exact hrun
  rw [unsigned, hint]
  simp [fractionPart, exponentPart]

theorem number_itoa (n : Int) : number (itoa n) = some (itoa n, []) := by
  unfold itoa
  split
  · simp [number, unsigned_digits]
  · unfold number
    split
    next rest heq =>
      have hdigit : isDigit 45 = true :=
        isDigit_of_mem_digits (n := n.natAbs) (heq ▸ List.mem_cons_self)
      contradiction
    next => exact unsigned_digits _

/-- `json.Unmarshal` of a decimal number. -/
theorem unmarshal_itoa (n : Int) : unmarshal true (itoa n) =
    if floatOverflows (itoa n) then none else some (.num (itoa n)) := by
  have hhead : ∀ b rest, itoa n = b :: rest → b = 45 ∨ isDigit b = true := fun b rest heq =>
    mem_itoa (heq ▸ List.mem_cons_self)
  have hspace : skipSpace (itoa n) = itoa n := by
    cases htext : itoa n with
    | nil => rfl
    | cons b rest =>
      have hb : isSpace b = false := by
        rcases hhead b rest htext with rfl | hdigit
        · rfl
        · simp only [isDigit, Bool.and_eq_true, decide_eq_true_eq] at hdigit
          simp only [isSpace, Bool.or_eq_false_iff, beq_eq_false_iff_ne]
          refine ⟨⟨⟨?_, ?_⟩, ?_⟩, ?_⟩ <;> rintro rfl <;> revert hdigit <;> decide
      simp [skipSpace, hb]
  have hvalue : value true (enough (itoa n)) maxNestingDepth (itoa n) =
      if floatOverflows (itoa n) then none else some (.num (itoa n), []) := by
    rw [enough, value, hspace]
    split
    iterate 6
      next heq => rcases hhead _ _ heq with hb | hb <;> contradiction
    rw [number_itoa]
    simp
  rw [unmarshal, hvalue]
  split <;> simp_all [skipSpace]

end GoFloat
