import Mathlib.Algebra.Ring.Int.Defs
import Mathlib.Data.List.Nodup

/-!
# Rows with a unique key

`Table key` is a list of rows in which no key comes twice: a database table
with a primary key, or a Go map when a row is a pair and the key its first
component.  The key constraint is a field, so a lookup, an update and a join
all know that at most one row has a given key.
-/

namespace Keyed

/-- Rows whose keys are distinct. -/
structure Table {κ ρ : Type} (key : ρ → κ) where
  rows : List ρ
  nodup : (rows.map key).Nodup

variable {κ ρ : Type} [DecidableEq κ] {key : ρ → κ}

namespace Table

/-- No rows. -/
def empty : Table key := ⟨[], List.nodup_nil⟩

instance : Inhabited (Table key) := ⟨empty⟩

/-- The row with the key `k`. -/
def find? (t : Table key) (k : κ) : Option ρ := t.rows.find? fun r => key r = k

theorem mem_of_find? {t : Table key} {k : κ} {r : ρ} (h : t.find? k = some r) :
    r ∈ t.rows ∧ key r = k :=
  ⟨List.mem_of_find?_eq_some h, by simpa using List.find?_some h⟩

theorem find?_of_mem {t : Table key} {r : ρ} (h : r ∈ t.rows) : t.find? (key r) = some r := by
  cases hfind : t.find? (key r) with
  | none => exact absurd (List.find?_eq_none.mp hfind r h) (by simp)
  | some r' =>
    obtain ⟨hmem, hkey⟩ := mem_of_find? hfind
    rw [List.inj_on_of_nodup_map t.nodup hmem h hkey]

theorem find?_eq_some_iff {t : Table key} {k : κ} {r : ρ} :
    t.find? k = some r ↔ r ∈ t.rows ∧ key r = k := by
  refine ⟨mem_of_find?, ?_⟩
  rintro ⟨hmem, rfl⟩
  exact find?_of_mem hmem

/-- A join on the key meets one row or none. -/
theorem filter_key (t : Table key) (k : κ) :
    t.rows.filter (fun r => key r = k) = (t.find? k).toList := by
  obtain ⟨rows, nodup⟩ := t
  induction rows with
  | nil => rfl
  | cons r rows ih =>
    have htail : (rows.map key).Nodup := (List.nodup_cons.mp nodup).2
    simp only [find?, List.filter_cons, List.find?_cons]
    by_cases hk : key r = k
    · have hnone : rows.filter (fun r => key r = k) = [] := by
        rw [List.filter_eq_nil_iff]
        intro r' hr'
        have hne := (List.nodup_cons.mp nodup).1
        simp only [decide_eq_true_eq]
        intro hk'
        exact hne (by rw [hk, ← hk']; exact List.mem_map_of_mem hr')
      simp [hk, hnone]
    · simpa [hk, find?] using ih htail

/-- The order of the rows does not matter to a lookup. -/
theorem find?_perm {t : Table key} {rows : List ρ} (h : rows.Perm t.rows) (k : κ) :
    rows.find? (fun r => key r = k) = t.find? k := by
  have hnodup : (rows.map key).Nodup := (h.map key).nodup_iff.mpr t.nodup
  refine Option.ext fun r => ?_
  change (Table.mk rows hnodup).find? k = some r ↔ t.find? k = some r
  rw [find?_eq_some_iff, find?_eq_some_iff]
  exact and_congr_left' h.mem_iff

/-! ## Updates -/

/-- Change the row with the key `k`; the key itself stays.  A change that would
touch the key is not carried out. -/
def modify (t : Table key) (k : κ) (f : ρ → ρ) : Table key where
  rows := t.rows.map fun r => if key r = k ∧ key (f r) = k then f r else r
  nodup := by
    have hkeys : (t.rows.map fun r => if key r = k ∧ key (f r) = k then f r else r).map key =
        t.rows.map key := by
      rw [List.map_map]
      refine List.map_congr_left fun r _ => ?_
      simp only [Function.comp]
      split
      · rename_i h
        rw [h.2, h.1]
      · rfl
    rw [hkeys]
    exact t.nodup

/-- Add a row, in place of the one with its key. -/
def set (t : Table key) (r : ρ) : Table key where
  rows := t.rows.filter (fun r' => key r' ≠ key r) ++ [r]
  nodup := by
    have hsub : ((t.rows.filter fun r' => key r' ≠ key r).map key).Nodup :=
      t.nodup.sublist (List.filter_sublist.map key)
    rw [List.map_append, List.nodup_append]
    refine ⟨hsub, by simp, ?_⟩
    intro a ha b hb
    obtain ⟨r', hr', rfl⟩ := List.mem_map.mp ha
    have hne := (List.mem_filter.mp hr').2
    simp only [List.map_cons, List.map_nil, List.mem_singleton] at hb
    subst hb
    simpa using hne

/-- Add a row when its key is new. -/
def insertOrIgnore (t : Table key) (r : ρ) : Table key :=
  if (t.find? (key r)).isSome then t else t.set r

/-- Drop the row with the key `k`. -/
def erase (t : Table key) (k : κ) : Table key where
  rows := t.rows.filter fun r => key r ≠ k
  nodup := t.nodup.sublist (List.filter_sublist.map key)

/-- Drop the rows that do not pass the test. -/
def filter (t : Table key) (p : ρ → Bool) : Table key where
  rows := t.rows.filter p
  nodup := t.nodup.sublist (List.filter_sublist.map key)

/-- Change every row; a change that touches a key is not carried out. -/
def map (t : Table key) (f : ρ → ρ) : Table key where
  rows := t.rows.map fun r => if key (f r) = key r then f r else r
  nodup := by
    have hkeys : (t.rows.map fun r => if key (f r) = key r then f r else r).map key =
        t.rows.map key := by
      rw [List.map_map]
      refine List.map_congr_left fun r _ => ?_
      simp only [Function.comp]
      split
      · assumption
      · rfl
    rw [hkeys]
    exact t.nodup

/-- Rows added one after the other. -/
def ofList (rows : List ρ) : Table key := rows.foldl set empty

@[simp] theorem find?_empty (k : κ) : (empty : Table key).find? k = none := rfl

theorem rows_map (t : Table key) {f : ρ → ρ} (hf : ∀ r, key (f r) = key r) :
    (t.map f).rows = t.rows.map f :=
  List.map_congr_left fun r _ => if_pos (hf r)

theorem map_map (t : Table key) {f g : ρ → ρ} (hf : ∀ r, key (f r) = key r)
    (hg : ∀ r, key (g r) = key r) : (t.map f).map g = t.map (g ∘ f) := by
  have hboth : ∀ r, key ((g ∘ f) r) = key r := fun r => (hg (f r)).trans (hf r)
  have hrows : ((t.map f).map g).rows = (t.map (g ∘ f)).rows := by
    rw [rows_map _ hg, rows_map _ hf, rows_map _ hboth, List.map_map]
  exact mk.congr_simp _ _ hrows _

theorem find?_map (t : Table key) {f : ρ → ρ} (hf : ∀ r, key (f r) = key r) (k : κ) :
    (t.map f).find? k = (t.find? k).map f := by
  rw [find?, rows_map t hf, List.find?_map]
  simp only [Function.comp_def, hf]
  rfl

theorem find?_modify (t : Table key) {f : ρ → ρ} (hf : ∀ r, key (f r) = key r) (k j : κ) :
    (t.modify k f).find? j = if j = k then (t.find? j).map f else t.find? j := by
  have hchange : ∀ r, (if key r = k ∧ key (f r) = k then f r else r) =
      if key r = k then f r else r := by
    intro r
    simp [hf]
  obtain ⟨rows, nodup⟩ := t
  simp only [find?, modify, hchange]
  clear nodup
  induction rows with
  | nil => simp
  | cons r rows ih =>
    simp only [List.map_cons, List.find?_cons]
    by_cases hk : key r = k
    · by_cases hj : j = k
      · simp [hk, hj, hf]
      · have hkj : ¬ key r = j := fun h => hj (by rw [← h, hk])
        simpa [hk, hj, hkj, hf, Ne.symm hj] using ih
    · by_cases hj : key r = j
      · have hjk : ¬ j = k := fun h => hk (by rw [hj, h])
        simp [hj, hjk]
      · simpa [hk, hj] using ih

/-- Rows changed one after the other. -/
theorem find?_foldl_modify {f : ρ → ρ} (hf : ∀ r, key (f r) = key r) {rows : List ρ}
    (hrows : (rows.map key).Nodup) (t : Table key) (k : κ) :
    (rows.foldl (fun t r => t.modify (key r) f) t).find? k =
      if k ∈ rows.map key then (t.find? k).map f else t.find? k := by
  induction rows generalizing t with
  | nil => rfl
  | cons r rows ih =>
    obtain ⟨hnew, hrows⟩ := List.nodup_cons.mp hrows
    show (rows.foldl (fun t r => t.modify (key r) f) (t.modify (key r) f)).find? k = _
    rw [ih hrows, find?_modify t hf, List.map_cons]
    by_cases hk : k = key r
    · subst hk
      rw [if_neg hnew, if_pos rfl, if_pos List.mem_cons_self]
    · rw [if_neg hk]
      simp only [List.mem_cons, hk, false_or]

/-- Every row changed. -/
theorem find?_foldl_modify_rows {f : ρ → ρ} (hf : ∀ r, key (f r) = key r) (t : Table key) (k : κ) :
    (t.rows.foldl (fun t r => t.modify (key r) f) t).find? k = (t.find? k).map f := by
  rw [find?_foldl_modify hf t.nodup]
  split
  · rfl
  next hk =>
    cases hfind : t.find? k with
    | none => rfl
    | some r =>
      obtain ⟨hmem, rfl⟩ := mem_of_find? hfind
      exact absurd (List.mem_map_of_mem hmem) hk

/-- The number after the highest key is free. -/
theorem find?_next {key : ρ → Int} (t : Table key) :
    t.find? ((t.rows.map key).foldl max 0 + 1) = none := by
  have hle : ∀ (ks : List Int) (m : Int), m ≤ ks.foldl max m ∧ ∀ k ∈ ks, k ≤ ks.foldl max m := by
    intro ks
    induction ks with
    | nil => exact fun m => ⟨Int.le_refl m, by simp⟩
    | cons k ks ih =>
      intro m
      obtain ⟨hstart, hrest⟩ := ih (max m k)
      refine ⟨Int.le_trans (Int.le_max_left m k) hstart, ?_⟩
      intro k' hk'
      rcases List.mem_cons.mp hk' with rfl | hk'
      · exact Int.le_trans (Int.le_max_right m k') hstart
      · exact hrest k' hk'
  refine List.find?_eq_none.mpr fun r hr => ?_
  have hbound := (hle (t.rows.map key) 0).2 (key r) (List.mem_map_of_mem hr)
  simp only [decide_eq_true_eq]
  omega

theorem find?_set (t : Table key) (r : ρ) (k : κ) :
    (t.set r).find? k = if key r = k then some r else t.find? k := by
  change ((t.rows.filter fun r' => key r' ≠ key r) ++ [r]).find? (fun a => key a = k) = _
  rw [List.find?_append, List.find?_filter]
  by_cases hk : key r = k
  · have hnone : t.rows.find? (fun a => decide (decide (key a ≠ key r) = true ∧
        decide (key a = k) = true)) = none := by
      rw [List.find?_eq_none]
      intro a _
      simp [hk]
    rw [hnone]
    simp [hk]
  · have hsame : (fun a => decide (decide (key a ≠ key r) = true ∧
        decide (key a = k) = true)) = fun a => decide (key a = k) := by
      funext a
      by_cases ha : key a = k
      · simp [ha, Ne.symm hk]
      · simp [ha]
    rw [hsame]
    simp [hk, find?]

/-- A row with a new key comes last. -/
theorem rows_set_of_fresh {t : Table key} {r : ρ} (h : t.find? (key r) = none) :
    (t.set r).rows = t.rows ++ [r] := by
  show (t.rows.filter fun r' => key r' ≠ key r) ++ [r] = _
  rw [List.filter_eq_self.mpr]
  intro r' hr'
  simpa using List.find?_eq_none.mp h r' hr'

/-- A change of one row in a sum over the rows. -/
theorem sum_modify {t : Table key} {f : ρ → ρ} (hf : ∀ r, key (f r) = key r) {k : κ} {r : ρ}
    (h : t.find? k = some r) (g : ρ → Int) :
    ((t.modify k f).rows.map g).sum = (t.rows.map g).sum + (g (f r) - g r) := by
  obtain ⟨rows, nodup⟩ := t
  simp only [modify, find?, hf, and_self] at h ⊢
  induction rows with
  | nil => contradiction
  | cons a rows ih =>
    rw [List.map_cons, List.nodup_cons] at nodup
    by_cases hk : key a = k
    · have hsame : rows.map (fun r => if key r = k then f r else r) = rows := by
        refine (List.map_congr_left fun b hb => if_neg ?_).trans (List.map_id rows)
        intro hb'
        exact nodup.1 (hk.trans hb'.symm ▸ List.mem_map_of_mem hb)
      rw [List.find?_cons_of_pos (by simpa using hk)] at h
      obtain rfl := Option.some.inj h
      simp only [List.map_cons, if_pos hk, hsame, List.sum_cons]
      omega
    · rw [List.find?_cons_of_neg (by simpa using hk)] at h
      have hrest := ih nodup.2 h
      simp only [List.map_cons, if_neg hk, List.sum_cons] at hrest ⊢
      omega

theorem find?_insertOrIgnore (t : Table key) (r : ρ) (k : κ) :
    (t.insertOrIgnore r).find? k =
      if key r = k ∧ t.find? k = none then some r else t.find? k := by
  unfold insertOrIgnore
  by_cases hk : key r = k
  · subst hk
    cases hfind : t.find? (key r) with
    | none => simp [find?_set]
    | some r' => simp [hfind]
  · split
    · simp [hk]
    · simp [find?_set, hk]

theorem find?_erase (t : Table key) (k j : κ) :
    (t.erase k).find? j = if j = k then none else t.find? j := by
  simp only [erase, find?, List.find?_filter]
  by_cases hj : j = k
  · rw [if_pos hj, List.find?_eq_none]
    intro r _
    simp [hj]
  · rw [if_neg hj]
    refine congrArg (fun p => t.rows.find? p) (funext fun r => ?_)
    by_cases hr : key r = j
    · simp [hr, hj]
    · simp [hr]

/-- Loading rows with distinct keys keeps them all. -/
theorem find?_ofList {rows : List ρ} (h : (rows.map key).Nodup) (k : κ) :
    (ofList rows : Table key).find? k = rows.find? fun r => key r = k := by
  have hfold : ∀ t : Table key, (∀ r ∈ rows, t.find? (key r) = none) →
      (rows.foldl set t).find? k = (t.find? k).or (rows.find? fun r => key r = k) := by
    induction rows with
    | nil => simp
    | cons r rows ih =>
      intro t ht
      rw [List.map_cons, List.nodup_cons] at h
      have hfresh : ∀ r' ∈ rows, (t.set r).find? (key r') = none := by
        intro r' hr'
        have hne : ¬ key r = key r' := fun heq => h.1 (heq ▸ List.mem_map_of_mem hr')
        rw [find?_set, if_neg hne]
        exact ht r' (List.mem_cons_of_mem _ hr')
      rw [List.foldl_cons, ih h.2 _ hfresh, find?_set, List.find?_cons]
      by_cases hk : key r = k
      · have hnone : t.find? k = none := hk ▸ ht r List.mem_cons_self
        simp [hk, hnone]
      · simp [hk]
  simpa [ofList] using hfold empty (by simp)

end Table

/-! ## Go maps -/

/-- A Go map. -/
abbrev GoMap (κ α : Type) := Table (Prod.fst : κ × α → κ)

namespace GoMap

variable {α : Type}

/-- `m[k]` with its `ok`. -/
def get? (m : GoMap κ α) (k : κ) : Option α := (m.find? k).map Prod.snd

/-- `m[k] = v`. -/
def put (m : GoMap κ α) (k : κ) (v : α) : GoMap κ α := m.set (k, v)

/-- The values, in no order of their own. -/
def values (m : GoMap κ α) : List α := m.rows.map Prod.snd

/-- Change the value of `k` when there is one. -/
def update (m : GoMap κ α) (k : κ) (f : α → α) : GoMap κ α :=
  m.modify k fun r => (r.1, f r.2)

/-- Change every value. -/
def mapValues (m : GoMap κ α) (f : α → α) : GoMap κ α where
  rows := m.rows.map fun r => (r.1, f r.2)
  nodup := by
    rw [List.map_map]
    exact m.nodup

/-- `m[k] = append(m[k], v)`. -/
def push (m : GoMap κ (List α)) (k : κ) (v : α) : GoMap κ (List α) :=
  m.put k ((m.get? k).getD [] ++ [v])

@[simp] theorem get?_empty (k : κ) : get? (Table.empty : GoMap κ α) k = none := rfl

@[simp] theorem get?_put (m : GoMap κ α) (k j : κ) (v : α) :
    (m.put k v).get? j = if k = j then some v else m.get? j := by
  simp only [get?, put, Table.find?_set]
  split <;> simp

@[simp] theorem get?_erase (m : GoMap κ α) (k j : κ) :
    get? (m.erase k : GoMap κ α) j = if j = k then none else m.get? j := by
  rw [get?, Table.find?_erase]
  split <;> rfl

@[simp] theorem get?_update (m : GoMap κ α) (k j : κ) (f : α → α) :
    (m.update k f).get? j = if j = k then (m.get? j).map f else m.get? j := by
  rw [get?, update, Table.find?_modify m (f := fun r => (r.1, f r.2)) (fun r => rfl)]
  split <;> simp [get?, Function.comp_def]

@[simp] theorem get?_mapValues (m : GoMap κ α) (f : α → α) (k : κ) :
    (m.mapValues f).get? k = (m.get? k).map f := by
  simp only [get?, Table.find?, mapValues, List.find?_map, Option.map_map]
  rfl

theorem mem_values_iff {m : GoMap κ α} {v : α} : v ∈ m.values ↔ ∃ k, m.get? k = some v := by
  simp only [values, List.mem_map, get?, Option.map_eq_some_iff, Table.find?_eq_some_iff]
  constructor
  · rintro ⟨r, hr, rfl⟩
    exact ⟨r.1, r, ⟨hr, rfl⟩, rfl⟩
  · rintro ⟨k, r, ⟨hr, -⟩, rfl⟩
    exact ⟨r, hr, rfl⟩

/-- Filling a map with distinct keys: every row is found under its key. -/
theorem get?_foldl_put {β : Type} (k : β → κ) (v : β → α) {rows : List β}
    (h : (rows.map k).Nodup) (j : κ) :
    get? (rows.foldl (fun (m : GoMap κ α) r => m.put (k r) (v r)) Table.empty) j =
      (rows.find? fun r => k r = j).map v := by
  have hpairs : ((rows.map fun r => (k r, v r)).map Prod.fst).Nodup := by
    rw [List.map_map]
    exact h
  have hload := Table.find?_ofList hpairs j
  rw [Table.ofList, List.foldl_map, List.find?_map] at hload
  simp only [get?, put]
  rw [hload, Option.map_map]
  rfl

/-- Filling a map with the rows of a table, whatever their order. -/
theorem get?_foldl_put_table {β : Type} {k : β → κ} {t : Table k} {rows : List β}
    (h : rows.Perm t.rows) (v : β → α) (j : κ) :
    get? (rows.foldl (fun (m : GoMap κ α) r => m.put (k r) (v r)) Table.empty) j =
      (t.find? j).map v := by
  have hnodup : (rows.map k).Nodup := (h.map k).nodup_iff.mpr t.nodup
  rw [get?_foldl_put k v hnodup, Table.find?_perm h]

/-- Filling a map of lists groups the rows by their key. -/
theorem get?_foldl_push {β : Type} (k : β → κ) (v : β → α) (rows : List β)
    (m : GoMap κ (List α)) (j : κ) :
    (get? (rows.foldl (fun (m : GoMap κ (List α)) r => m.push (k r) (v r)) m) j).getD [] =
      (m.get? j).getD [] ++ (rows.filter fun r => k r = j).map v := by
  induction rows generalizing m with
  | nil => simp
  | cons r rows ih =>
    rw [List.foldl_cons, ih, push, get?_put]
    by_cases hk : k r = j
    · simp [hk]
    · simp [hk]

/-- Updating under each key of another map touches the keys that map has. -/
theorem get?_foldl_update {β : Type} (f : α → β → α) (updates : List (κ × β))
    (h : (updates.map Prod.fst).Nodup) (m : GoMap κ α) (j : κ) :
    get? (updates.foldl (fun (m : GoMap κ α) u => m.update u.1 (f · u.2)) m) j =
      match updates.find? (fun u => u.1 = j) with
      | some u => (m.get? j).map (f · u.2)
      | none => m.get? j := by
  induction updates generalizing m with
  | nil => rfl
  | cons u updates ih =>
    rw [List.map_cons, List.nodup_cons] at h
    rw [List.foldl_cons, ih h.2, List.find?_cons, get?_update]
    by_cases hk : u.1 = j
    · have hnone : updates.find? (fun u => u.1 = j) = none := by
        rw [List.find?_eq_none]
        intro u' hu'
        have hne : ¬ u'.1 = j := fun heq => h.1 (by rw [hk, ← heq]; exact List.mem_map_of_mem hu')
        simpa using hne
      simp [hk, hnone]
    · simp [hk, Ne.symm hk]

end GoMap

end Keyed
