import Lune.Lib.SqliteText

/-!
# The clock

`time.Now` of the program, in nanoseconds from the start of the year 0, within
the years whose dates have four digits.  One instant serves the Go code and the
`datetime('now')` of the statements it runs.
-/

namespace Lune.Store

open GoText Calendar TimeText

/-- A reading of the clock. -/
structure Clock where
  nanos : Nat
  inRange : nanos < maxSeconds * second

instance : Inhabited Clock := ⟨0, by decide⟩

/-- Two readings that examples use. -/
def Clock.early : Clock := ⟨5, by decide⟩

@[inherit_doc Clock.early]
def Clock.july : Clock := ⟨Fields.seconds ⟨2026, 7, 1, 0, 0, 0⟩ * second, by decide⟩

/-- The whole seconds of the clock, which is all SQLite prints. -/
def Clock.seconds (clock : Clock) : Nat := clock.nanos / second

theorem Clock.seconds_lt (clock : Clock) : clock.seconds < maxSeconds := by
  have h := clock.inRange
  unfold Clock.seconds second at *
  omega

/-- `time.Now().UTC().Format(time.RFC3339)`. -/
def Clock.rfc3339 (clock : Clock) : Str := rfc3339Text (fieldsOf clock.seconds)

/-- `time.Now().UTC().Format(time.RFC3339Nano)`: a fraction without the zeros at
its end. -/
def Clock.rfc3339Nano (clock : Clock) : Str :=
  let t := fieldsOf clock.seconds
  let fraction := trimRightByte (pad 9 (clock.nanos % second)) 48
  dateText t ++ 84 :: (clockText t ++ (if fraction = [] then [] else 46 :: fraction) ++ [90])

/-- `datetime('now')`, and `time.Now().UTC().Format("2006-01-02 15:04:05")`. -/
def Clock.datetime (clock : Clock) : Str := datetimeText (fieldsOf clock.seconds)

/-- The whole seconds have passed exactly when the instant has. -/
theorem Clock.seconds_le_iff (clock : Clock) (s : Nat) :
    s ≤ clock.seconds ↔ (s : Int) * second ≤ clock.nanos := by
  unfold Clock.seconds second
  omega

end Lune.Store
