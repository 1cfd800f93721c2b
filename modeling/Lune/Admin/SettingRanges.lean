import Lune.Admin.ConfigTransfer
import Lune.Lib.GoFloat
import Mathlib.Data.Nat.GCD.Basic

/-!
# Settings and what is derived from them

`updateSettings` of `internal/admin/handler.go`, and the durations, byte counts and waits
that the checker and the gateway compute from the settings with 64 bits.  Neither
`updateSettings` nor `importConfig` has an upper bound for a value, and their lists of the
keys that have to be positive differ.
-/

namespace Lune.Admin

open GoText GoJson GoFloat Keyed Store Gateway

/-! ## The update -/

/-- `isDeprecatedNotificationSetting`. -/
def isDeprecatedNotificationSetting (key : Str) : Bool :=
  [lit "notification_error_enabled", lit "notification_expiring_enabled", lit "webhook_enabled",
    lit "webhook_url"].contains key

/-- The keys whose values `normalizeSettingValue` wants above 0. -/
def positiveSettingKeys : List Str :=
  [lit "health_check_interval", lit "request_timeout", lit "max_retry_attempts",
    lit "notification_expiring_days", lit "gateway_max_body_mb", lit "gateway_memory_body_mb"]

/-- `json.Unmarshal` into a `float64`. -/
def unmarshalFloat (raw : Str) : Option Float64 :=
  match unmarshal true raw with
  | some (.num text) => parseFloat text
  | some .null => some (ofInt 0)
  | _ => none

/-- `normalizeSettingValue`. -/
def normalizeSettingValue (platform : Platform) (key raw : Str) : Except Str Str :=
  match unmarshalFloat raw with
  | none => .error (lit "setting " ++ key ++ lit " must be a number")
  | some num =>
    let value := num.toInt platform
    if num.value ≠ (ofInt value).value then
      .error (lit "setting " ++ key ++ lit " must be an integer")
    else if positiveSettingKeys.contains key && decide (value ≤ 0) then
      .error (lit "setting " ++ key ++ lit " must be greater than 0")
    else if key == lit "data_retention_days" && decide (value < 0) then
      .error (lit "setting " ++ key ++ lit " must be 0 or greater")
    else .ok (itoa value)

/-- The loop of `updateSettings` for one setting. -/
def readSetting (platform : Platform) (pairs : GoMap Str Str) (setting : Str × Str) :
    Except Str (GoMap Str Str) :=
  let (key, raw) := setting
  if isDeprecatedNotificationSetting key then .ok pairs
  else if !isAllowedSettingKey key then .error (lit "unsupported setting key: " ++ key)
  else if trimSpace raw = lit "null" then
    .error (lit "setting " ++ key ++ lit " cannot be null")
  else if trimSpace raw = [] then .error (lit "setting " ++ key ++ lit " cannot be empty")
  else do
    let value ← normalizeSettingValue platform key raw
    return pairs.put key value

/-- `updateSettings`, of a body that is a JSON object with these raw values.  What it answers
is the message of a 400, or nothing. -/
def updateSettings (platform : Platform) (db : Database) (raw : GoMap Str Str) :
    Database × Except Str Unit :=
  match raw.rows.foldlM (readSetting platform) Table.empty with
  | .error message => (db, .error message)
  | .ok pairs =>
    ({ db with systemConfig := pairs.rows.foldl (fun m r => m.put r.1 r.2) db.systemConfig },
      .ok ())

/-! ## What is derived -/

/-- `time.Duration(n) * time.Second`. -/
def inSeconds (n : Nat) : Int := ((n * 1000000000 : Nat) : Int).bmod (2 ^ 64)

/-- `int64(mb) << 20`. -/
def inMegabytes (mb : Nat) : Int := ((mb * 2 ^ 20 : Nat) : Int).bmod (2 ^ 64)

/-- `Checker.getInterval`. -/
def getInterval (snap : CacheSnapshot) : Int :=
  inSeconds (parsePositiveInt (snap.getSetting (lit "health_check_interval")) 60)

/-- `getRequestTimeout`. -/
def getRequestTimeout (snap : CacheSnapshot) : Int :=
  inSeconds (parsePositiveInt (snap.getSetting (lit "request_timeout")) 120)

/-- The age from which `fetchCodexQuotas` fetches a quota again. -/
def codexQuotaInterval (snap : CacheSnapshot) : Int :=
  inSeconds (parsePositiveInt (snap.getSetting (lit "codex_quota_fetch_interval")) 600)

/-- What is derived from the settings is in range. -/
structure NumericallySafe (snap : CacheSnapshot) : Prop where
  interval : 0 < getInterval snap
  timeout : 0 < getRequestTimeout snap
  quotaInterval : 0 < codexQuotaInterval snap
  maximum : 0 < inMegabytes (getGatewayMaxBodyMB snap)
  memory : 0 < inMegabytes (getGatewayMemoryBodyMB snap)
  memory_le : inMegabytes (getGatewayMemoryBodyMB snap) ≤ inMegabytes (getGatewayMaxBodyMB snap)
  backoff : ∀ attempt, 0 < attempt → attempt < getMaxRetries snap →
    0 < backoff attempt ∧ backoffPanics attempt = false

/-! ## When it is in range -/

/-- A number of seconds whose nanoseconds are positive as 64 bits hold them. -/
def SecondsFit (n : Nat) : Prop := n * 1000000000 / 2 ^ 63 % 2 = 0 ∧ ¬ 2 ^ 55 ∣ n

/-- Bounds on the values of the settings. -/
structure SettingsFit (snap : CacheSnapshot) : Prop where
  interval : SecondsFit (parsePositiveInt (snap.getSetting (lit "health_check_interval")) 60)
  timeout : SecondsFit (parsePositiveInt (snap.getSetting (lit "request_timeout")) 120)
  quotaInterval :
    SecondsFit (parsePositiveInt (snap.getSetting (lit "codex_quota_fetch_interval")) 600)
  maximum : getGatewayMaxBodyMB snap % 2 ^ 44 < 2 ^ 43
  memory : 0 < getGatewayMemoryBodyMB snap % 2 ^ 44
  memory_le : getGatewayMemoryBodyMB snap % 2 ^ 44 ≤ getGatewayMaxBodyMB snap % 2 ^ 44
  retries : getMaxRetries snap ≤ 37

/-- What is positive as 64 bits hold it. -/
theorem bmod_pos_iff (n : Nat) : 0 < (n : Int).bmod (2 ^ 64) ↔ 0 < n % 2 ^ 64 ∧ n % 2 ^ 64 < 2 ^ 63 := by
  dsimp only [Int.bmod]
  split <;> omega

theorem mod_lt_iff (n : Nat) : n % 2 ^ 64 < 2 ^ 63 ↔ n / 2 ^ 63 % 2 = 0 := by
  have hhalves : n / 2 ^ 63 / 2 = n / 2 ^ 64 := by
    rw [Nat.div_div_eq_div_mul, ← Nat.pow_succ]
  omega

theorem inSeconds_pos_iff (n : Nat) : 0 < inSeconds n ↔ SecondsFit n := by
  have hcoprime : Nat.Coprime (2 ^ 55) 1953125 := by decide +kernel
  have hdvd : 2 ^ 64 ∣ n * 1000000000 ↔ 2 ^ 55 ∣ n := by
    rw [show n * 1000000000 = 2 ^ 9 * (n * 1953125) by omega,
      show 2 ^ 64 = 2 ^ 9 * 2 ^ 55 by decide +kernel, Nat.mul_dvd_mul_iff_left (by decide),
      Nat.Coprime.dvd_mul_right hcoprime]
  have hrest : 0 < n * 1000000000 % 2 ^ 64 ↔ ¬ 2 ^ 55 ∣ n := by
    rw [← hdvd, Nat.dvd_iff_mod_eq_zero, Nat.pos_iff_ne_zero]
  unfold inSeconds SecondsFit
  generalize n * 1000000000 = nanos at hrest ⊢
  rw [bmod_pos_iff, hrest, mod_lt_iff, and_comm]

/-- A byte count in range is the rest of the megabytes. -/
theorem inMegabytes_pos_iff (mb : Nat) :
    0 < inMegabytes mb ↔ 0 < mb % 2 ^ 44 ∧ mb % 2 ^ 44 < 2 ^ 43 := by
  refine (bmod_pos_iff _).trans ?_
  omega

theorem inMegabytes_of_lt {mb : Nat} (h : mb % 2 ^ 44 < 2 ^ 43) :
    inMegabytes mb = (mb % 2 ^ 44 * 2 ^ 20 : Nat) := by
  dsimp only [inMegabytes, Int.bmod]
  rw [if_pos (by omega)]
  omega

/-- The wait doubles up to the 36th retry and is negative before the 37th. -/
theorem backoff_pos_iff (n : Nat) :
    (∀ attempt, 0 < attempt → attempt < n → 0 < backoff attempt ∧ backoffPanics attempt = false) ↔
      n ≤ 37 := by
  constructor
  · intro h
    by_contra hlt
    exact absurd (h 37 (by decide) (by omega)).1 (by decide +kernel)
  · intro h attempt hpos hlt
    have hdraws : ∀ attempt < 37, 0 < attempt →
        0 < backoff attempt ∧ backoffPanics attempt = false := by decide +kernel
    exact hdraws attempt (by omega) hpos

theorem numericallySafe_iff (snap : CacheSnapshot) : NumericallySafe snap ↔ SettingsFit snap := by
  constructor
  · rintro ⟨hinterval, htimeout, hquota, hmaximum, hmemory, hle, hbackoff⟩
    have hmaximum := (inMegabytes_pos_iff _).mp hmaximum
    have hmemory := (inMegabytes_pos_iff _).mp hmemory
    rw [inMegabytes_of_lt hmaximum.2, inMegabytes_of_lt hmemory.2] at hle
    exact {
      interval := (inSeconds_pos_iff _).mp hinterval
      timeout := (inSeconds_pos_iff _).mp htimeout
      quotaInterval := (inSeconds_pos_iff _).mp hquota
      maximum := hmaximum.2
      memory := hmemory.1
      memory_le := by omega
      retries := (backoff_pos_iff _).mp hbackoff }
  · rintro ⟨hinterval, htimeout, hquota, hmaximum, hmemory, hle, hretries⟩
    refine ⟨(inSeconds_pos_iff _).mpr hinterval, (inSeconds_pos_iff _).mpr htimeout,
      (inSeconds_pos_iff _).mpr hquota, (inMegabytes_pos_iff _).mpr ⟨by omega, hmaximum⟩,
      (inMegabytes_pos_iff _).mpr ⟨hmemory, by omega⟩, ?_, (backoff_pos_iff _).mpr hretries⟩
    rw [inMegabytes_of_lt hmaximum, inMegabytes_of_lt (by omega)]
    omega

/-! ## What is accepted -/

/-- `updateSettings` takes a value for the key from this raw text. -/
def UpdateTakes (platform : Platform) (key raw : Str) : Prop :=
  ∃ pairs value, readSetting platform Table.empty (key, raw) = .ok pairs ∧
    GoMap.get? pairs key = some value

/-- `importConfig` takes a value for the key from this text. -/
def ImportTakes (key text : Str) : Prop :=
  ∃ validated value, validateSetting Table.empty (key, text) = .ok validated ∧
    GoMap.get? validated key = some value

/-- `normalizeSettingValue` takes the number for the key. -/
def acceptsUpdated (key : Str) (n : Int) : Prop :=
  (positiveSettingKeys.contains key = true → 0 < n) ∧ (key = lit "data_retention_days" → 0 ≤ n)

theorem unmarshalFloat_itoa (n : Int) :
    unmarshalFloat (itoa n) = if floatOverflows (itoa n) then none else some (ofInt n) := by
  cases hover : floatOverflows (itoa n) with
  | true => simp only [unmarshalFloat, unmarshal_itoa, hover, if_true]
  | false => simp [unmarshalFloat, unmarshal_itoa, parseFloat_itoa, hover]

/-- A whole number is taken when its `float64` converts and has the sign of the key. -/
theorem normalizeSettingValue_itoa (platform : Platform) (key : Str) (n : Int) :
    (∃ text, normalizeSettingValue platform key (itoa n) = .ok text) ↔
      Converts platform n ∧ acceptsUpdated key n := by
  unfold normalizeSettingValue
  rw [unmarshalFloat_itoa]
  by_cases hover : floatOverflows (itoa n) = true
  · rw [if_pos hover]
    refine iff_of_false (fun ⟨text, heq⟩ => nomatch heq) fun ⟨hconverts, _⟩ => ?_
    have hsmall : n.natAbs ≤ 2 ^ 64 := by
      cases platform with
      | amd64 | arm64 =>
        have hlow := hconverts.1
        have hhigh := hconverts.2
        omega
    rw [floatOverflows_itoa hsmall] at hover
    contradiction
  rw [if_neg hover]
  dsimp only
  by_cases hconverts : Converts platform n
  · obtain ⟨hpos, hnonneg⟩ := toInt_sign_iff hconverts
    rw [if_neg (not_not_intro ((value_toInt_iff platform n).mpr hconverts))]
    split
    next hrefused =>
      simp only [Bool.and_eq_true, decide_eq_true_eq] at hrefused
      refine iff_of_false (fun ⟨text, heq⟩ => nomatch heq) fun h => ?_
      have := h.2.1 hrefused.1
      omega
    next hpositive =>
      split
      next hrefused =>
        simp only [Bool.and_eq_true, beq_iff_eq, decide_eq_true_eq] at hrefused
        refine iff_of_false (fun ⟨text, heq⟩ => nomatch heq) fun h => ?_
        have := h.2.2 hrefused.1
        omega
      next hretention =>
        simp only [Bool.and_eq_true, beq_iff_eq, decide_eq_true_eq, not_and, Int.not_le,
          Int.not_lt] at hpositive hretention
        exact iff_of_true ⟨_, rfl⟩
          ⟨hconverts, fun hkey => hpos.mp (hpositive hkey), fun hkey => hnonneg.mp (hretention hkey)⟩
  · rw [if_pos (mt (value_toInt_iff platform n).mp hconverts)]
    exact iff_of_false (fun ⟨text, heq⟩ => nomatch heq) fun h => hconverts h.1

/-- What holds of the eight keys of a setting. -/
theorem forall_allowed {P : Str → Prop} {key : Str} (h : isAllowedSettingKey key = true)
    (hall : ∀ k ∈ [lit "health_check_interval", lit "request_timeout", lit "max_retry_attempts",
      lit "gateway_max_body_mb", lit "gateway_memory_body_mb", lit "notification_expiring_days",
      lit "data_retention_days", lit "codex_quota_fetch_interval"], P k) : P key :=
  hall key (List.contains_iff_mem.mp h)

theorem not_deprecated_of_allowed {key : Str} (h : isAllowedSettingKey key = true) :
    isDeprecatedNotificationSetting key = false :=
  forall_allowed (P := fun k => isDeprecatedNotificationSetting k = false) h (by decide +kernel)

/-- What `updateSettings` takes. -/
theorem updateTakes_iff (platform : Platform) (key : Str) (n : Int) :
    UpdateTakes platform key (itoa n) ↔
      isAllowedSettingKey key = true ∧ Converts platform n ∧ acceptsUpdated key n := by
  have hnull : itoa n ≠ lit "null" := by
    intro heq
    have hmem : (110 : UInt8) ∈ itoa n := heq ▸ by decide
    exact absurd (mem_itoa hmem) (by decide)
  rw [← normalizeSettingValue_itoa, UpdateTakes]
  cases hallowed : isAllowedSettingKey key with
  | true =>
    simp only [readSetting, trimSpace_itoa, if_neg hnull, if_neg (itoa_ne_nil n),
      not_deprecated_of_allowed hallowed, hallowed, true_and]
    cases htext : normalizeSettingValue platform key (itoa n) with
    | error message =>
      refine iff_of_false ?_ ?_
      · rintro ⟨_, _, heq, _⟩
        contradiction
      · rintro ⟨_, heq⟩
        contradiction
    | ok text =>
      exact iff_of_true ⟨_, text, rfl, (GoMap.get?_put _ _ _ _).trans (if_pos rfl)⟩ ⟨text, rfl⟩
  | false =>
    refine iff_of_false ?_ fun h => Bool.false_ne_true h.1
    rintro ⟨pairs, value, hread, hvalue⟩
    simp only [readSetting, hallowed] at hread
    split at hread
    · obtain rfl := Except.ok.inj hread
      contradiction
    · contradiction

/-- What `importConfig` takes. -/
theorem importTakes_iff (key : Str) (n : Int) :
    ImportTakes key (itoa n) ↔
      isAllowedSettingKey key = true ∧ (-(2 ^ 63) ≤ n ∧ n < 2 ^ 63) ∧ acceptsImported key n := by
  rw [ImportTakes]
  cases hallowed : isAllowedSettingKey key with
  | true =>
    simp only [validateSetting_of_allowed (r := (key, itoa n)) hallowed, true_and]
    have hnormal : (∃ text, normalizeImportedSettingValue key (itoa n) = .ok text) ↔
        (-(2 ^ 63) ≤ n ∧ n < 2 ^ 63) ∧ acceptsImported key n := by
      simp only [normalizeImportedSettingValue_eq_ok, trimSpace_itoa, atoi_itoa_eq,
        Option.filter_eq_some_iff, Option.some.injEq, Bool.and_eq_true, decide_eq_true_eq]
      constructor
      · rintro ⟨text, m, ⟨rfl, hrange⟩, haccepts, -⟩
        exact ⟨hrange, haccepts⟩
      · rintro ⟨hrange, haccepts⟩
        exact ⟨itoa n, n, ⟨rfl, hrange⟩, haccepts, rfl⟩
    rw [← hnormal]
    cases htext : normalizeImportedSettingValue key (itoa n) with
    | error message =>
      refine iff_of_false ?_ ?_
      · rintro ⟨_, _, heq, _⟩
        contradiction
      · rintro ⟨_, heq⟩
        contradiction
    | ok text =>
      exact iff_of_true ⟨_, text, rfl, (GoMap.get?_put _ _ _ _).trans (if_pos rfl)⟩ ⟨text, rfl⟩
  | false =>
    refine iff_of_false ?_ fun h => Bool.false_ne_true h.1
    rintro ⟨validated, value, hread, hvalue⟩
    rw [validateSetting_of_not_allowed (r := (key, itoa n)) hallowed] at hread
    obtain rfl := Except.ok.inj hread
    contradiction

/-! ## Where the two differ -/

/-- The highest numbers, which one of the two refuses.  A `float64` has no room for their
last bits. -/
def CeilingDiffers : Platform → Int → Prop
  | .amd64, n => 2 ^ 63 - 512 ≤ n ∧ n < 2 ^ 63
  | .arm64, n => 2 ^ 63 ≤ n ∧ n ≤ 2 ^ 63 + 1024

/-- The values of a key that one of `updateSettings` and `importConfig` takes and the other
does not. -/
def TakenByOne (platform : Platform) (key : Str) (n : Int) : Prop :=
  isAllowedSettingKey key = true ∧
    (CeilingDiffers platform n ∨
      (key = lit "gateway_max_body_mb" ∨ key = lit "gateway_memory_body_mb") ∧
        -(2 ^ 63) ≤ n ∧ n ≤ 0 ∨
      key = lit "codex_quota_fetch_interval" ∧ -(2 ^ 63) - 1024 ≤ n ∧ n < -(2 ^ 63))

/-- The two lists of keys that have to be positive, by the keys that are treated apart. -/
theorem kind_of_allowed {key : Str} (h : isAllowedSettingKey key = true) :
    let retention := key = lit "data_retention_days"
    let quota := key = lit "codex_quota_fetch_interval"
    let body := key = lit "gateway_max_body_mb" ∨ key = lit "gateway_memory_body_mb"
    (positiveSettingKeys.contains key = true ↔ ¬ retention ∧ ¬ quota) ∧
      (positiveImportKeys.contains key = true ↔ ¬ retention ∧ ¬ quota ∧ ¬ body) ∧
      ¬ (retention ∧ quota) ∧ ¬ (retention ∧ body) ∧ ¬ (quota ∧ body) :=
  forall_allowed (P := fun k =>
    (positiveSettingKeys.contains k = true ↔
      ¬ k = lit "data_retention_days" ∧ ¬ k = lit "codex_quota_fetch_interval") ∧
    (positiveImportKeys.contains k = true ↔
      ¬ k = lit "data_retention_days" ∧ ¬ k = lit "codex_quota_fetch_interval" ∧
        ¬ (k = lit "gateway_max_body_mb" ∨ k = lit "gateway_memory_body_mb")) ∧
    ¬ (k = lit "data_retention_days" ∧ k = lit "codex_quota_fetch_interval") ∧
    ¬ (k = lit "data_retention_days" ∧
      (k = lit "gateway_max_body_mb" ∨ k = lit "gateway_memory_body_mb")) ∧
    ¬ (k = lit "codex_quota_fetch_interval" ∧
      (k = lit "gateway_max_body_mb" ∨ k = lit "gateway_memory_body_mb"))) h (by decide +kernel)

/-- The numbers of a key that both take or neither. -/
theorem takenByOne_iff (platform : Platform) (key : Str) (n : Int) :
    (UpdateTakes platform key (itoa n) ↔ ImportTakes key (itoa n)) ↔
      ¬ TakenByOne platform key n := by
  rw [updateTakes_iff, importTakes_iff, TakenByOne]
  cases hallowed : isAllowedSettingKey key with
  | false => simp
  | true =>
    have hconverts : Converts platform n ↔ -(2 ^ 63) - 1024 ≤ n ∧
        (n < 2 ^ 63 ∧ ¬ CeilingDiffers platform n ∨ 2 ^ 63 ≤ n ∧ CeilingDiffers platform n) := by
      cases platform <;> (simp only [Converts, CeilingDiffers]; omega)
    have hceiling : CeilingDiffers platform n → 0 < n := by
      cases platform <;> (simp only [CeilingDiffers]; omega)
    obtain ⟨hupdate, himport, hkinds⟩ := kind_of_allowed hallowed
    unfold acceptsUpdated acceptsImported
    rw [hupdate, himport, hconverts]
    clear hupdate himport hconverts hallowed
    -- what is left is about the kind of the key and the size of the number
    generalize (key = lit "gateway_max_body_mb" ∨ key = lit "gateway_memory_body_mb") = body
      at hkinds ⊢
    generalize (key = lit "data_retention_days") = retention at hkinds ⊢
    generalize (key = lit "codex_quota_fetch_interval") = quota at hkinds ⊢
    generalize CeilingDiffers platform n = last at hceiling ⊢
    by_cases hlast : last <;> by_cases hretention : retention <;> by_cases hquota : quota <;>
      by_cases hbody : body <;>
      simp [hlast, hretention, hquota, hbody] at hkinds hceiling ⊢ <;> omega

/-- The settings and the two endpoints for them.  What is derived is in range exactly when the
values are within bounds that nothing checks, and a whole number, in decimal, is taken by
both endpoints or by neither where it is none of those that their lists of keys and their
ways to read a number treat apart. -/
theorem settings_safe_and_agree_iff (platform : Platform) :
    (∀ snap, NumericallySafe snap ↔ SettingsFit snap) ∧
      ∀ key n, (UpdateTakes platform key (itoa n) ↔ ImportTakes key (itoa n)) ↔
        ¬ TakenByOne platform key n :=
  ⟨numericallySafe_iff, takenByOne_iff platform⟩

/-- What `updateSettings` does with a body of one setting, on an empty database. -/
def updateOne (key raw : String) : Database × Except Str Unit :=
  updateSettings .amd64 {} (Table.ofList [(lit key, lit raw)])

/-- An interval that both endpoints take is negative as a duration, and a limit of zero is
taken by one of them. -/
theorem accepted_settings_out_of_range :
    (updateOne "health_check_interval" "9223372037").2.isOk = true ∧
    ImportTakes (lit "health_check_interval") (lit "9223372037") ∧
    ¬ NumericallySafe (loadFromDB
      ((updateOne "health_check_interval" "9223372037").1.tableReads default)) ∧
    ImportTakes (lit "gateway_max_body_mb") (lit "0") ∧
    ¬ UpdateTakes .amd64 (lit "gateway_max_body_mb") (lit "0") := by
  refine ⟨by decide +kernel, (importTakes_iff _ 9223372037).mpr (by decide +kernel),
    fun hsafe => absurd hsafe.interval (by decide +kernel),
    (importTakes_iff _ 0).mpr (by decide +kernel), fun htakes => ?_⟩
  have haccepts := ((updateTakes_iff .amd64 _ 0).mp htakes).2.2.1 (by decide +kernel)
  exact absurd haccepts (by decide)

end Lune.Admin
