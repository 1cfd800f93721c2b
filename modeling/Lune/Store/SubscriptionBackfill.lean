import Lune.Store.Writes

/-!
# The backfill of the subscription status

`migrateCpaSubscriptionStatusColumn` of `internal/store/store.go` fills the column in
SQL, from the same two texts that `deriveCpaSubscriptionStatus` reads in Go.  The two
go over the same cases but not with the same functions: SQLite compares the texts as
they are stored, `lower` knows ASCII letters only, and `datetime` has its own idea of a
date and drops the fraction of a second.

`datetime` is a parameter here, so that what is proved holds of any version of it.
-/

namespace Lune.Store

open GoText Keyed Calendar TimeText Sqlite

/-- `datetime(s) > datetime('now')`, which is `NULL` when either side is. -/
def afterNow (datetime : Str → Option Str) (s : Str) : Option Bool :=
  match datetime s, datetime (lit "now") with
  | some t, some u => some (decide (u < t))
  | _, _ => none

/-- The `CASE` of the backfill.  A comparison that is `NULL` picks no branch. -/
def backfilledStatus (datetime : Str → Option Str) (expiresAt lastError : Str) : Str :=
  if lastError ≠ [] then
    if lower lastError = lit "subscription metadata pending" then
      if expiresAt ≠ [] ∧ afterNow datetime expiresAt = some true then lit "active"
      else if expiresAt ≠ [] ∧ afterNow datetime expiresAt = some false then lit "expired"
      else lit "pending"
    else lit "error"
  else if expiresAt = [] then lit "unknown"
  else if afterNow datetime expiresAt = some true then lit "active"
  else lit "expired"

/-- The row after the `UPDATE` of the backfill. -/
def AccountRow.backfillSubscriptionStatus (datetime : Str → Option Str) (a : AccountRow) :
    AccountRow :=
  if a.sourceKind = lit "cpa" ∧
      (a.cpaSubscriptionStatus = [] ∨ a.cpaSubscriptionStatus = lit "unknown") then
    { a with
      cpaSubscriptionStatus :=
        backfilledStatus datetime a.cpaSubscriptionExpiresAt a.cpaSubscriptionLastError }
  else a

/-- The statement of `migrateCpaSubscriptionStatusColumn`. -/
def Database.migrateCpaSubscriptionStatusColumn (db : Database) (datetime : Str → Option Str) :
    Database :=
  { db with accounts := db.accounts.map (AccountRow.backfillSubscriptionStatus datetime) }

/-! ## The cases of the derivation -/

/-- What `parseCpaSubscriptionTime` makes of a stored text: whether the subscription
lasts, when there is a time. -/
def stillActive (now : Clock) (expiresAt : Str) : Option Bool :=
  (parseCpaSubscriptionTime (trimSpace expiresAt)).map fun t => decide ((now.nanos : Int) < t)

/-- The condition on the two texts under which SQL and Go come to one status:
- without an error, both see no date at all, or both see one on the same side of now;
- for the pending error as SQL reads it, both see no date or one on the same side of now;
- for an error of blanks, Go sees a text that is no date;
- any other error is not the pending one for Go either. -/
def BackfillAgrees (now : Clock) (datetime : Str → Option Str) (expiresAt lastError : Str) : Prop :=
  if lastError = [] then
    expiresAt = [] ∨
      stillActive now expiresAt = some (afterNow datetime expiresAt == some true)
  else if lower lastError = lit "subscription metadata pending" then
    stillActive now expiresAt = if expiresAt = [] then none else afterNow datetime expiresAt
  else if trimSpace lastError = [] then
    trimSpace expiresAt ≠ [] ∧ stillActive now expiresAt = none
  else equalFold (trimSpace lastError) (lit "subscription metadata pending") = false

@[simp] theorem stillActive_nil (now : Clock) : stillActive now [] = none := by
  have hparse : parseCpaSubscriptionTime (trimSpace []) = none := by decide
  rw [stillActive, hparse, Option.map_none]

theorem foldCase_lower_of_ascii {s : Str} (h : ∀ b ∈ lower s, b < 128) :
    foldCase s = lower s := by
  fun_induction foldCase s with
  | case1 rest ih => exact absurd (h 0xE2 (by simp [lower, lowerByte])) (by decide)
  | case2 rest ih => exact absurd (h 0xC5 (by simp [lower, lowerByte])) (by decide)
  | case3 b rest _ _ ih =>
    rw [ih fun c hc => h c (List.mem_cons_of_mem _ hc)]
    rfl
  | case4 => rfl

/-- A byte that is in lower case graphic is graphic. -/
theorem isGraphic_of_lowerByte {b : UInt8} (h : isGraphic (lowerByte b) = true) :
    isGraphic b = true := by
  unfold lowerByte at h
  split at h
  · rename_i hupper
    simp only [isGraphic, Bool.and_eq_true, decide_eq_true_eq, UInt8.le_iff_toNat_le,
      UInt8.reduceToNat] at hupper ⊢
    omega
  · exact h

/-- What SQL takes for the pending error is the pending error for Go, blanks and all. -/
theorem pending_of_lower {lastError : Str}
    (h : lower lastError = lit "subscription metadata pending") :
    equalFold (trimSpace lastError) (lit "subscription metadata pending") = true := by
  have htrim : trimSpace lastError = lastError := by
    refine trimSpace_eq_self (fun b hb => ?_) (fun b hb => ?_)
    · have hhead : (lower lastError).head? = some (lowerByte b) := by
        rw [lower, List.head?_map, hb, Option.map_some]
      rw [h] at hhead
      exact isGraphic_of_lowerByte (Option.some.inj hhead ▸ by decide)
    · have hlast : (lower lastError).getLast? = some (lowerByte b) := by
        rw [lower, List.getLast?_map, hb, Option.map_some]
      rw [h] at hlast
      exact isGraphic_of_lowerByte (Option.some.inj hlast ▸ by decide)
  have hall : (lower lastError).all (· < 128) = true := by
    rw [h]
    decide
  rw [htrim, equalFold,
    foldCase_lower_of_ascii fun b hb => of_decide_eq_true (List.all_eq_true.mp hall b hb), h]
  decide

/-- The statuses of a row that has a date, with `undated` for one that has none. -/
def datedStatus (reading : Option Bool) (undated : Str) : Str :=
  match reading with
  | some true => lit "active"
  | some false => lit "expired"
  | none => undated

/-- A word that no date leads to. -/
def Undated (word : Str) : Prop := word ≠ lit "active" ∧ word ≠ lit "expired"

instance (word : Str) : Decidable (Undated word) := inferInstanceAs (Decidable (_ ∧ _))

theorem datedStatus_inj {undated : Str} (h : Undated undated) (r r' : Option Bool) :
    datedStatus r undated = datedStatus r' undated ↔ r = r' := by
  have hdiffer : lit "active" ≠ lit "expired" := by decide
  rcases r with _ | _ | _ <;> rcases r' with _ | _ | _ <;>
    simp [datedStatus, h.1, h.2, hdiffer, h.1.symm, h.2.symm, hdiffer.symm]

theorem datedStatus_eq_word {word : Str} (h : Undated word) (r : Option Bool) (undated : Str) :
    datedStatus r undated = word ↔ r = none ∧ undated = word := by
  rcases r with _ | _ | _ <;> simp [datedStatus, h.1.symm, h.2.symm]

theorem deriveCpaSubscriptionStatus_eq (now : Clock) (expiresAt lastError : Str) :
    deriveCpaSubscriptionStatus now expiresAt lastError =
      if equalFold (trimSpace lastError) (lit "subscription metadata pending") then
        datedStatus (stillActive now expiresAt) (lit "pending")
      else if trimSpace lastError ≠ [] then lit "error"
      else if trimSpace expiresAt = [] then lit "unknown"
      else datedStatus (stillActive now expiresAt) (lit "error") := by
  unfold deriveCpaSubscriptionStatus stillActive
  dsimp only
  cases parseCpaSubscriptionTime (trimSpace expiresAt) with
  | none => rfl
  | some t =>
    by_cases ht : (now.nanos : Int) < t
    · simp [datedStatus, ht]
    · simp [datedStatus, ht]

/-! ## Where the two agree -/

/-- Without an error. -/
theorem backfilledStatus_no_error_iff (now : Clock) (datetime : Str → Option Str)
    (expiresAt : Str) :
    backfilledStatus datetime expiresAt [] = deriveCpaSubscriptionStatus now expiresAt [] ↔
      expiresAt = [] ∨
        stillActive now expiresAt = some (afterNow datetime expiresAt == some true) := by
  have hderived : deriveCpaSubscriptionStatus now expiresAt [] =
      if trimSpace expiresAt = [] then lit "unknown"
      else datedStatus (stillActive now expiresAt) (lit "error") := by
    rw [deriveCpaSubscriptionStatus_eq]
    rfl
  rw [hderived, backfilledStatus, if_neg (fun h => h rfl)]
  by_cases hexpires : expiresAt = []
  · subst hexpires
    exact iff_of_true rfl (Or.inl rfl)
  · have hsql : (if afterNow datetime expiresAt = some true then lit "active" else lit "expired") =
        datedStatus (some (afterNow datetime expiresAt == some true)) (lit "error") := by
      rcases hafter : afterNow datetime expiresAt with _ | _ | _ <;> rfl
    rw [if_neg hexpires, hsql]
    by_cases hblank : trimSpace expiresAt = []
    · have hnone : stillActive now expiresAt = none := by
        have hparse : parseCpaSubscriptionTime [] = none := by decide
        rw [stillActive, hblank, hparse, Option.map_none]
      rw [if_pos hblank, hnone, datedStatus_eq_word (by decide)]
      simp [hexpires]
    · rw [if_neg hblank, datedStatus_inj (by decide), eq_comm]
      simp [hexpires]

/-- With the pending error, as SQL reads it. -/
theorem backfilledStatus_pending_iff (now : Clock) (datetime : Str → Option Str)
    {expiresAt lastError : Str} (hlower : lower lastError = lit "subscription metadata pending") :
    backfilledStatus datetime expiresAt lastError =
        deriveCpaSubscriptionStatus now expiresAt lastError ↔
      stillActive now expiresAt = if expiresAt = [] then none else afterNow datetime expiresAt := by
  have herror : lastError ≠ [] := by
    rintro rfl
    exact absurd hlower (by decide)
  have hsql : backfilledStatus datetime expiresAt lastError =
      datedStatus (if expiresAt = [] then none else afterNow datetime expiresAt)
        (lit "pending") := by
    rw [backfilledStatus, if_pos herror, if_pos hlower]
    by_cases hexpires : expiresAt = []
    · simp [hexpires, datedStatus]
    · rcases afterNow datetime expiresAt with _ | _ | _ <;> simp [hexpires, datedStatus]
  rw [hsql, deriveCpaSubscriptionStatus_eq, if_pos (pending_of_lower hlower),
    datedStatus_inj (by decide), eq_comm]

/-- With an error that SQL does not read as the pending one. -/
theorem backfilledStatus_error_iff (now : Clock) (datetime : Str → Option Str)
    {expiresAt lastError : Str} (herror : lastError ≠ [])
    (hlower : lower lastError ≠ lit "subscription metadata pending") :
    backfilledStatus datetime expiresAt lastError =
        deriveCpaSubscriptionStatus now expiresAt lastError ↔
      if trimSpace lastError = [] then
        trimSpace expiresAt ≠ [] ∧ stillActive now expiresAt = none
      else equalFold (trimSpace lastError) (lit "subscription metadata pending") = false := by
  rw [backfilledStatus, if_pos herror, if_neg hlower, deriveCpaSubscriptionStatus_eq]
  by_cases hblank : trimSpace lastError = []
  · have hfold : ¬ equalFold [] (lit "subscription metadata pending") = true := by decide
    rw [hblank, if_neg hfold, if_neg (fun h => h rfl), if_pos rfl]
    by_cases hexpires : trimSpace expiresAt = []
    · rw [if_pos hexpires]
      exact iff_of_false (by decide) (fun h => h.1 hexpires)
    · rw [if_neg hexpires, eq_comm, datedStatus_eq_word (by decide)]
      simp [hexpires]
  · rw [if_neg hblank, if_pos hblank]
    cases hfold : equalFold (trimSpace lastError) (lit "subscription metadata pending") with
    | true =>
      rw [if_pos rfl, eq_comm, datedStatus_eq_word (by decide)]
      exact iff_of_false (fun h => absurd h.2 (by decide)) (by decide)
    | false => exact iff_of_true rfl rfl

/-- The two statuses are one exactly when the texts are read alike. -/
theorem backfilledStatus_eq_derive_iff (now : Clock) (datetime : Str → Option Str)
    (expiresAt lastError : Str) :
    backfilledStatus datetime expiresAt lastError =
        deriveCpaSubscriptionStatus now expiresAt lastError ↔
      BackfillAgrees now datetime expiresAt lastError := by
  rw [BackfillAgrees]
  by_cases herror : lastError = []
  · subst herror
    exact backfilledStatus_no_error_iff now datetime expiresAt
  · rw [if_neg herror]
    by_cases hlower : lower lastError = lit "subscription metadata pending"
    · rw [if_pos hlower]
      exact backfilledStatus_pending_iff now datetime hlower
    · rw [if_neg hlower]
      exact backfilledStatus_error_iff now datetime herror hlower

/-! ## The table -/

theorem id_backfilled (datetime : Str → Option Str) (a : AccountRow) :
    (a.backfillSubscriptionStatus datetime).id = a.id := by
  unfold AccountRow.backfillSubscriptionStatus
  split <;> rfl

theorem find?_migrated (db : Database) (datetime : Str → Option Str) (id : Int) :
    (db.migrateCpaSubscriptionStatusColumn datetime).accounts.find? id =
      (db.accounts.find? id).map (AccountRow.backfillSubscriptionStatus datetime) :=
  Table.find?_map _ (id_backfilled datetime) id

/-- The migration gives a CPA account whose status is not known the status that the
runtime derives for it exactly when SQL and Go read its texts alike. -/
theorem migrated_status_iff (now : Clock) (datetime : Str → Option Str) (db : Database) {id : Int}
    {a : AccountRow} (ha : db.accounts.find? id = some a) (hcpa : a.sourceKind = lit "cpa")
    (hstatus : a.cpaSubscriptionStatus = lit "unknown") :
    ((db.migrateCpaSubscriptionStatusColumn datetime).accounts.find? id).map
          AccountRow.cpaSubscriptionStatus =
        some (deriveCpaSubscriptionStatus now a.cpaSubscriptionExpiresAt
          a.cpaSubscriptionLastError) ↔
      BackfillAgrees now datetime a.cpaSubscriptionExpiresAt a.cpaSubscriptionLastError := by
  rw [find?_migrated, ha, Option.map_some, Option.map_some, Option.some.injEq,
    AccountRow.backfillSubscriptionStatus, if_pos ⟨hcpa, Or.inr hstatus⟩]
  exact backfilledStatus_eq_derive_iff now datetime _ _

/-- A CPA account without texts, and one whose end of subscription is no date. -/
def freshAccount : AccountRow := { id := 1, sourceKind := lit "cpa" }

def datelessAccount : AccountRow := { freshAccount with cpaSubscriptionExpiresAt := lit "bogus" }

theorem fresh_account_backfilled :
    ((Database.migrateCpaSubscriptionStatusColumn { accounts := Table.ofList [freshAccount] }
        (Sqlite.datetime 0)).accounts.find? 1).map AccountRow.cpaSubscriptionStatus =
      some (deriveCpaSubscriptionStatus default [] []) :=
  (migrated_status_iff default _ _ (a := freshAccount) rfl rfl rfl).mpr (Or.inl rfl)

/-- SQL lets a text that is no date expire where Go reports an error. -/
theorem dateless_account_expired :
    ¬ ∀ (now : Clock) (db : Database) (id : Int) (a : AccountRow),
      db.accounts.find? id = some a → a.sourceKind = lit "cpa" →
      a.cpaSubscriptionStatus = lit "unknown" →
      ((db.migrateCpaSubscriptionStatusColumn (Sqlite.datetime now.seconds)).accounts.find? id).map
          AccountRow.cpaSubscriptionStatus =
        some (deriveCpaSubscriptionStatus now a.cpaSubscriptionExpiresAt
          a.cpaSubscriptionLastError) := by
  intro h
  have hsame := h default { accounts := Table.ofList [datelessAccount] } 1 datelessAccount rfl rfl
    rfl
  revert hsame
  decide +kernel

/-- The backfill leaves a status unknown only when there is no text to read. -/
theorem backfilledStatus_unknown {datetime : Str → Option Str} {expiresAt lastError : Str}
    (h : backfilledStatus datetime expiresAt lastError = [] ∨
      backfilledStatus datetime expiresAt lastError = lit "unknown") :
    lastError = [] ∧ expiresAt = [] := by
  revert h
  unfold backfilledStatus
  split_ifs with herror hlower hactive hexpired hexpires hafter
  · exact fun h => absurd h (by decide)
  · exact fun h => absurd h (by decide)
  · exact fun h => absurd h (by decide)
  · exact fun h => absurd h (by decide)
  · exact fun _ => ⟨not_not.mp herror, hexpires⟩
  · exact fun h => absurd h (by decide)
  · exact fun h => absurd h (by decide)

/-- A second start changes nothing, whatever the time is then. -/
theorem migrate_twice (db : Database) (datetime datetime' : Str → Option Str) :
    (db.migrateCpaSubscriptionStatusColumn datetime).migrateCpaSubscriptionStatusColumn datetime' =
      db.migrateCpaSubscriptionStatusColumn datetime := by
  have hrow : ∀ a : AccountRow,
      (a.backfillSubscriptionStatus datetime).backfillSubscriptionStatus datetime' =
        a.backfillSubscriptionStatus datetime := by
    intro a
    by_cases hguard : a.sourceKind = lit "cpa" ∧
        (a.cpaSubscriptionStatus = [] ∨ a.cpaSubscriptionStatus = lit "unknown")
    · by_cases hstatus : backfilledStatus datetime a.cpaSubscriptionExpiresAt
            a.cpaSubscriptionLastError = [] ∨
          backfilledStatus datetime a.cpaSubscriptionExpiresAt a.cpaSubscriptionLastError =
            lit "unknown"
      · have htexts := backfilledStatus_unknown hstatus
        simp [AccountRow.backfillSubscriptionStatus, hguard, backfilledStatus, htexts]
      · simp [AccountRow.backfillSubscriptionStatus, hguard, hstatus]
    · simp [AccountRow.backfillSubscriptionStatus, hguard]
  have hrows : AccountRow.backfillSubscriptionStatus datetime' ∘
      AccountRow.backfillSubscriptionStatus datetime =
        AccountRow.backfillSubscriptionStatus datetime := funext hrow
  simp only [Database.migrateCpaSubscriptionStatusColumn,
    Table.map_map _ (id_backfilled datetime) (id_backfilled datetime'), hrows]

/-! ## Written times -/

/-- A time of a whole second in the form of RFC 3339 is read alike. -/
theorem backfillAgrees_written (now : Clock) {t : Fields} (ht : t.Valid) {lastError : Str}
    (herror : lastError = [] ∨ lower lastError = lit "subscription metadata pending") :
    BackfillAgrees now (Sqlite.datetime now.seconds) (rfc3339Text t) lastError := by
  have hne : rfc3339Text t ≠ [] := by simp [rfc3339Text]
  have hgo : stillActive now (rfc3339Text t) = some (decide (now.seconds < t.seconds)) := by
    have hparse : parseCpaSubscriptionTime (rfc3339Text t) = some ((t.seconds : Int) * second) := by
      rw [parseCpaSubscriptionTime, parse_rfc3339Text ht]
      rfl
    have hside : (now.nanos : Int) < (t.seconds : Int) * second ↔ now.seconds < t.seconds := by
      rw [← not_le, ← not_le, Clock.seconds_le_iff]
    simp only [stillActive, trimSpace_rfc3339Text, hparse, Option.map_some, hside]
  have hsql : afterNow (Sqlite.datetime now.seconds) (rfc3339Text t) =
      some (decide (now.seconds < t.seconds)) := by
    have hmax := ht.seconds_lt_max
    have hnow := now.seconds_lt
    have hcell : Sqlite.datetime now.seconds (rfc3339Text t) =
        some (datetimeText (fieldsOf t.seconds)) :=
      datetime_eq (readDatetime_written now.seconds ht (Or.inr rfl) (Or.inr rfl))
        (by omega) (by omega) (by omega)
    have hread : readDatetime now.seconds (lit "now") = some ((now.seconds : Int) * 1000) :=
      if_pos (by decide)
    have hclock : Sqlite.datetime now.seconds (lit "now") =
        some (datetimeText (fieldsOf now.seconds)) :=
      datetime_eq hread (by omega) (by omega) (by omega)
    have horder := datetimeText_le_iff hmax hnow
    rw [afterNow, hcell, hclock]
    simp only [Option.some.injEq, decide_eq_decide]
    rw [← List.not_le, horder, not_le]
  rw [BackfillAgrees]
  rcases herror with rfl | hlower
  · rw [if_pos rfl, hgo, hsql]
    exact Or.inr (by cases decide (now.seconds < t.seconds) <;> rfl)
  · have herror : lastError ≠ [] := by
      rintro rfl
      exact absurd hlower (by decide)
    rw [if_neg herror, if_pos hlower, if_neg hne, hgo, hsql]

end Lune.Store
