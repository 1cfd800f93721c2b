import Lune.Lib.GoText
import Lune.Lib.Keyed

/-!
# Readers and files of Go

An `io.Reader` is what it still has to give: bytes, and after them the end or an
error.  An `io.LimitReader` counts in `int64`, so the bound may be negative; such
a reader is at its end.  The files of a directory are a map from paths to contents.
-/

namespace GoReader

open GoText Keyed

/-! ## Integers -/

/-- The value of a sum of `int64`, which wraps around. -/
def int64 (n : Int) : Int := n.bmod (2 ^ 64)

theorem int64_eq {n : Int} (hlo : -(2 ^ 63) ≤ n) (hhi : n < 2 ^ 63) : int64 n = n := by
  unfold int64
  dsimp only [Int.bmod]
  split <;> omega

/-! ## Readers -/

/-- What a reader still has to give, and the error after it. -/
structure Reader where
  data : Str
  err : Option Str := none

namespace Reader

/-- `io.LimitReader`. -/
def limit (r : Reader) (n : Int) : Reader :=
  if n ≤ r.data.length then { data := r.data.take n.toNat } else r

/-- The reader after its first `n` bytes were read. -/
def drop (r : Reader) (n : Nat) : Reader := { r with data := r.data.drop n }

/-- `io.ReadAll`. -/
def readAll (r : Reader) : Except Str Str :=
  match r.err with
  | some err => .error err
  | none => .ok r.data

variable {r : Reader} {n m : Int}

theorem readAll_of_clean {data : Str} : ({ data := data } : Reader).readAll = .ok data := rfl

/-- A bound that is not positive is reached at once. -/
theorem limit_of_nonpos (h : n ≤ 0) : r.limit n = { data := [] } := by
  unfold limit
  rw [if_pos (by omega), Int.toNat_of_nonpos h, List.take_zero]

theorem limit_of_le (h : n ≤ r.data.length) : r.limit n = { data := r.data.take n.toNat } := if_pos h

theorem limit_of_lt (h : (r.data.length : Int) < n) : r.limit n = r := if_neg (by omega)

/-- A bounded reader of a clean source gives the front of it. -/
theorem limit_clean {data : Str} :
    ({ data := data } : Reader).limit n = { data := data.take n.toNat } := by
  unfold limit
  split
  · rfl
  next hlong =>
    rw [List.take_of_length_le]
    dsimp only at hlong
    omega

end Reader

/-! ## Files -/

/-- The files of a directory, by their paths. -/
abbrev Files := GoMap Str Str

/-- A file that was not there leaves nothing behind when it is removed. -/
theorem erase_put {files : Files} {path : Str} (h : files.get? path = none) (content : Str) :
    Table.erase (files.put path content) path = files := by
  have hfresh : files.find? path = none := Option.map_eq_none_iff.mp h
  have hrows : (Table.erase (files.put path content) path).rows = files.rows := by
    show (files.put path content).rows.filter _ = _
    rw [GoMap.put, Table.rows_set_of_fresh hfresh, List.filter_append, List.filter_eq_self.mpr]
    · simp
    · intro file hfile
      simpa using List.find?_eq_none.mp hfresh file hfile
  cases files
  exact (Table.mk.injEq ..).mpr hrows

/-- `os.CreateTemp` in a directory: a name that is not taken. -/
structure TempDir where
  createTemp : Files → Str
  named : ∀ files : Files, createTemp files ≠ []
  fresh : ∀ files : Files, files.get? (createTemp files) = none

/-- A name longer than all the names in a directory is not taken. -/
theorem longName_fresh (files : Files) :
    files.get? (120 :: (files.rows.map Prod.fst).flatten) = none := by
  rw [GoMap.get?, Option.map_eq_none_iff, Table.find?, List.find?_eq_none]
  intro file hfile hname
  have hlength := congrArg List.length (of_decide_eq_true hname)
  have hsub : file.1.Sublist (files.rows.map Prod.fst).flatten :=
    List.sublist_flatten_of_mem (List.mem_map_of_mem hfile)
  have hle := hsub.length_le
  rw [List.length_cons] at hlength
  omega

/-- A directory whose new names are longer than all the names in it. -/
def longNames : TempDir where
  createTemp files := 120 :: (files.rows.map Prod.fst).flatten
  named _ := List.cons_ne_nil _ _
  fresh := longName_fresh

end GoReader
