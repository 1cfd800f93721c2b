import Lune.Store.UpgradeBounds

/-!
# The token table, built anew

`migratePoolScopedAccessTokens` builds a table with one token for each pool.  A pool that
has a token keeps the first of them, with its number, its name and its value.
-/

namespace Lune.Store.Schema

open GoText SqlFile Restarts

/-- No pool has two rows. -/
def PoolsOnce (t : SqlTable) : Prop :=
  ∀ r ∈ t.rows.rows, ∀ u ∈ t.rows.rows, r.cell "pool_id" = u.cell "pool_id" → r = u

theorem poolsOnce_insert {t u : SqlTable} {r : SqlRow} {poolID : Int} (honce : PoolsOnce t)
    (hunique : ["pool_id"] ∈ t.unique) (hr : r.cell "pool_id" = .int poolID)
    (h : t.insert r = some u) : PoolsOnce u := by
  obtain ⟨hrefuses, -, hrows⟩ := SqlTable.insert_eq_some h
  have hfresh : ∀ x ∈ t.rows.rows, x.cell "pool_id" ≠ r.cell "pool_id" := by
    intro x hx hsame
    have hkey : (t.unique.any fun key => t.rows.rows.any fun y =>
        key.all fun c => r.cell c != .null && y.cell c == r.cell c) = true :=
      List.any_eq_true.mpr ⟨_, hunique, List.any_eq_true.mpr ⟨x, hx, by simp [hsame, hr]⟩⟩
    simp only [SqlTable.refuses, hkey, Bool.or_true] at hrefuses
    contradiction
  intro x hx y hy hsame
  rw [hrows, List.mem_append, List.mem_singleton] at hx hy
  rcases hx with hx | rfl <;> rcases hy with hy | rfl
  · exact honce x hx y hy hsame
  · exact absurd hsame (hfresh x hx)
  · exact absurd hsame.symm (hfresh y hy)
  · rfl

theorem firstToken_eq_some {t : SqlTable} {r : SqlRow} {poolID : Int} (honce : PoolsOnce t)
    (hr : r ∈ t.rows.rows) (hpool : r.cell "pool_id" = .int poolID) :
    firstToken t poolID = some r := by
  have hperm := List.perm_insertionSort (fun r u : SqlRow => r.rowid ≤ u.rowid)
    (t.rows.rows.filter fun r => r.cell "pool_id" == .int poolID)
  have hmem : r ∈ (t.rows.rows.filter fun r => r.cell "pool_id" == .int poolID).insertionSort
      fun r u : SqlRow => r.rowid ≤ u.rowid :=
    hperm.mem_iff.mpr (List.mem_filter.mpr ⟨hr, by simp [hpool]⟩)
  cases hfirst : firstToken t poolID with
  | none =>
    rw [firstToken, List.head?_eq_none_iff] at hfirst
    rw [hfirst] at hmem
    contradiction
  | some x =>
    obtain ⟨hx, hxpool⟩ := List.mem_filter.mp (hperm.mem_iff.mp (List.mem_of_head? hfirst))
    rw [honce x hx r hr (by rw [hpool]; simpa using hxpool)]

/-- What the loop adds to the new table: the first token of each pool that has one. -/
theorem copyTokens_spec {now : Str} {tokens : SqlTable} {pools : List (Int × Value)}
    {generated : List Str} {t u : SqlTable} (honce : PoolsOnce t) (hunique : ["pool_id"] ∈ t.unique)
    (h : copyTokens now tokens pools generated t = .ok u) :
    PoolsOnce u ∧ (∀ r ∈ t.rows.rows, r ∈ u.rows.rows) ∧ ∀ pool ∈ pools, ∀ r,
      firstToken tokens pool.1 = some r → keptToken pool.1 r ∈ u.rows.rows := by
  induction pools generalizing generated t with
  | nil =>
    obtain rfl := Except.ok.inj h
    exact ⟨honce, fun _ hr => hr, by simp⟩
  | cons pool pools ih =>
    obtain ⟨poolID, label⟩ := pool
    -- a row that is inserted stays, and the loop goes on from the table with it
    have hnext : ∀ {generated : List Str} {row : SqlRow} {next : SqlTable},
        row.cell "pool_id" = .int poolID →
        (∀ r, firstToken tokens poolID = some r → keptToken poolID r = row) →
        t.insert row = some next → copyTokens now tokens pools generated next = .ok u →
        PoolsOnce u ∧ (∀ r ∈ t.rows.rows, r ∈ u.rows.rows) ∧ ∀ pool ∈ (poolID, label) :: pools, ∀ r,
          firstToken tokens pool.1 = some r → keptToken pool.1 r ∈ u.rows.rows := by
      intro generated row next hrow hkept hinsert hrest
      obtain ⟨-, hwith, hrows⟩ := SqlTable.insert_eq_some hinsert
      obtain ⟨honceU, hstay, hpools⟩ := ih (poolsOnce_insert honce hunique hrow hinsert)
        (by rw [hwith]; exact hunique) hrest
      refine ⟨honceU, fun r hr => hstay r (hrows ▸ List.mem_append_left _ hr), fun pool hpool r hr => ?_⟩
      rcases List.mem_cons.mp hpool with rfl | hpool
      · rw [hkept r hr]
        exact hstay row (hrows ▸ List.mem_append_right _ (List.mem_singleton_self row))
      · exact hpools pool hpool r hr
    unfold copyTokens at h
    cases hfirst : firstToken tokens poolID with
    | some r =>
      simp only [hfirst] at h
      split at h
      · contradiction
      split at h
      next next hinsert =>
        exact hnext rfl (fun r' hr' => by rw [Option.some.inj (hr'.symm.trans hfirst)]) hinsert h
      · contradiction
    | none =>
      simp only [hfirst] at h
      split at h
      next value rest =>
        split at h
        next next hinsert =>
          exact hnext rfl (fun r' hr' => by rw [hfirst] at hr'; contradiction) hinsert h
        · contradiction
      · contradiction

end Lune.Store.Schema
