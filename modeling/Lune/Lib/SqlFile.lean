import Lune.Lib.GoText
import Lune.Lib.Keyed
import Mathlib.Logic.Function.Basic

/-!
# Tables as a database file keeps them

The tables of a file with their columns, rows and indexes, and the statements that
change them.  Nothing is known of a table beforehand: a statement fails when the
table or a column that it names is not there.

Names are compared as they are written.  The column `id` is the number of the row,
as `INTEGER PRIMARY KEY` makes it, and an index belongs to its table.

`Within` bounds what a statement may do to a file: which columns it may change or
drop, which tables it may make or add rows to, and which it may build anew.
Everything else is kept.
-/

namespace SqlFile

open GoText

/-! ## Files -/

/-- A value in a cell. -/
inductive Value where
  | null
  | int (n : Int)
  | text (s : Str)
deriving DecidableEq

/-- What a cell of a new row holds when no value is given. -/
inductive Default where
  | value (v : Value)
  | now

structure Column where
  name : String
  notNull : Bool := true
  default : Default := .value .null

/-- A row: its number, and its cells by the names of the columns. -/
structure SqlRow where
  rowid : Int
  cell : String → Value

/-- A table: `unique` lists the groups of columns that no two rows agree on, and
`indexes` the names of its indexes. -/
structure SqlTable where
  name : String
  columns : List Column
  unique : List (List String) := []
  indexes : List String := []
  rows : Keyed.Table SqlRow.rowid := Keyed.Table.empty

structure File where
  tables : Keyed.Table SqlTable.name

inductive SqlError where
  | noSuchTable (table : String)
  | noSuchColumn (table column : String)
  | duplicateColumn (table column : String)
  | tableExists (table : String)
  | constraint (table : String)
deriving DecidableEq

/-- What `ADD COLUMN` puts in the rows that are there. -/
def Column.fill (c : Column) : Value :=
  match c.default with
  | .value v => v
  | .now => .null

def Default.at (now : Str) : Default → Value
  | value v => v
  | Default.now => .text now

namespace SqlTable

def has (t : SqlTable) (c : String) : Bool := t.columns.any fun column => column.name == c

/-- Change the cells of every row. -/
def mapCells (t : SqlTable) (g : (String → Value) → String → Value) : SqlTable :=
  { t with rows := t.rows.map fun r => { r with cell := g r.cell } }

def addColumn (t : SqlTable) (c : Column) : SqlTable :=
  { t.mapCells (fun cells => Function.update cells c.name c.fill) with columns := t.columns ++ [c] }

def dropColumn (t : SqlTable) (c : String) : SqlTable :=
  { t.mapCells (fun cells => Function.update cells c .null) with
    columns := t.columns.filter fun column => column.name != c }

def addIndex (t : SqlTable) (x : String) : SqlTable := { t with indexes := t.indexes ++ [x] }

def dropIndex (t : SqlTable) (x : String) : SqlTable :=
  { t with indexes := t.indexes.filter (· != x) }

def deleteRows (t : SqlTable) (p : SqlRow → Bool) : SqlTable :=
  { t with rows := t.rows.filter fun r => !p r }

/-- The number that the next row gets. -/
def nextRowid (t : SqlTable) : Int :=
  match (t.rows.rows.map SqlRow.rowid).max? with
  | some highest => highest + 1
  | none => 1

/-- A new row with the given values, the others by default. -/
def newRow (t : SqlTable) (now : Str) (rowid : Int) (given : List (String × Value)) : SqlRow where
  rowid := rowid
  cell c :=
    match given.lookup c with
    | some v => v
    | none =>
      match t.columns.find? fun column => column.name == c with
      | some column => column.default.at now
      | none => .null

/-- The row breaks a constraint: its number is taken, a cell must not be empty, or a
row agrees with it on columns that are unique together. -/
def refuses (t : SqlTable) (r : SqlRow) : Bool :=
  (t.rows.find? r.rowid).isSome ||
    t.columns.any (fun column => column.name != "id" && column.notNull && r.cell column.name == .null) ||
    t.unique.any fun key =>
      t.rows.rows.any fun u => key.all fun c => r.cell c != .null && u.cell c == r.cell c

/-- `INSERT` of one row. -/
def insert (t : SqlTable) (r : SqlRow) : Option SqlTable :=
  if t.refuses r then none else some { t with rows := t.rows.set r }

/-- `INSERT OR IGNORE` of one row. -/
def insertOrIgnore (t : SqlTable) (r : SqlRow) : SqlTable :=
  if t.refuses r then t else { t with rows := t.rows.set r }

/-- `INSERT OR IGNORE`, one row after the other; a row may bring its number along. -/
def insertAll (t : SqlTable) (now : Str) : List (Option Int × List (String × Value)) → SqlTable
  | [] => t
  | row :: rows =>
    (t.insertOrIgnore (t.newRow now (row.1.getD t.nextRowid) row.2)).insertAll now rows

/-- Two rows that the index covers agree on its columns. -/
def hasDuplicates (t : SqlTable) (covers : (String → Value) → Bool) (cs : List String) : Bool :=
  !decide (((t.rows.rows.filter fun r => covers r.cell && cs.all fun c => r.cell c != .null).map
    fun r => cs.map r.cell).Nodup)

end SqlTable

/-! ## Statements -/

namespace File

def table? (f : File) (t : String) : Option SqlTable := f.tables.find? t

def hasTable (f : File) (t : String) : Bool := (f.table? t).isSome

/-- `PRAGMA table_info` lists the column; of a table that is not there it lists none. -/
def hasColumn (f : File) (t c : String) : Bool :=
  match f.table? t with
  | some table => table.has c
  | none => false

/-- The table with all columns that a statement names. -/
def named (f : File) (t : String) (cs : List String) : Except SqlError SqlTable :=
  match f.table? t with
  | none => .error (.noSuchTable t)
  | some table =>
    match cs.find? fun c => !table.has c with
    | some c => .error (.noSuchColumn t c)
    | none => .ok table

def modify (f : File) (t : String) (g : SqlTable → SqlTable) : File := ⟨f.tables.modify t g⟩

/-- `CREATE TABLE IF NOT EXISTS`. -/
def createTable (f : File) (table : SqlTable) : File :=
  if f.hasTable table.name then f else ⟨f.tables.set table⟩

/-- `DROP TABLE IF EXISTS`. -/
def dropTable (f : File) (t : String) : File := ⟨f.tables.erase t⟩

/-- `DROP INDEX IF EXISTS`. -/
def dropIndex (f : File) (x t : String) : File := f.modify t fun table => table.dropIndex x

/-- `ALTER TABLE ... ADD COLUMN`. -/
def addColumn (f : File) (t : String) (c : Column) : Except SqlError File := do
  let table ← f.named t []
  if table.has c.name then .error (.duplicateColumn t c.name)
  else .ok (f.modify t fun table => table.addColumn c)

/-- `ALTER TABLE ... DROP COLUMN`. -/
def dropColumn (f : File) (t c : String) : Except SqlError File := do
  let _ ← f.named t [c]
  .ok (f.modify t fun table => table.dropColumn c)

/-- `CREATE INDEX IF NOT EXISTS`. -/
def createIndex (f : File) (x t : String) (cs : List String) : Except SqlError File := do
  let table ← f.named t []
  if table.indexes.contains x then .ok f
  else
    let _ ← f.named t cs
    .ok (f.modify t fun table => table.addIndex x)

/-- `CREATE UNIQUE INDEX IF NOT EXISTS`, on the rows that pass a test of the columns in
`tested`. -/
def createUniqueIndex (f : File) (x t : String) (cs tested : List String)
    (covers : (String → Value) → Bool) : Except SqlError File := do
  let table ← f.named t []
  if table.indexes.contains x then .ok f
  else
    let table ← f.named t (cs ++ tested)
    if table.hasDuplicates covers cs then .error (.constraint t)
    else .ok (f.modify t fun table => table.addIndex x)

/-- `DELETE FROM`, of the rows that pass the test. -/
def deleteRows (f : File) (t : String) (cs : List String) (p : SqlRow → Bool) :
    Except SqlError File := do
  let _ ← f.named t cs
  .ok (f.modify t fun table => table.deleteRows p)

/-- An `UPDATE` of the row with the given number. -/
def updateRow (f : File) (t : String) (cs : List String) (id : Int)
    (g : (String → Value) → String → Value) : Except SqlError File := do
  let _ ← f.named t cs
  .ok (f.modify t fun table =>
    { table with rows := table.rows.modify id fun r => { r with cell := g r.cell } })

/-- `INSERT OR IGNORE INTO`. -/
def insertOrIgnore (f : File) (now : Str) (t : String) (cs : List String)
    (rows : List (Option Int × List (String × Value))) : Except SqlError File := do
  let _ ← f.named t cs
  .ok (f.modify t fun table => table.insertAll now rows)

end File

/-- An `UPDATE` of the rows of a table, with the columns that it names and those that it
writes. -/
structure Update (η : Type) where
  table : String
  columns : List String
  writes : List String
  set : η → (String → Value) → String → Value
  keeps : ∀ e cells c, c ∉ writes → set e cells c = cells c

variable {η : Type}

def File.update (f : File) (u : Update η) (e : η) : Except SqlError File := do
  let _ ← f.named u.table u.columns
  .ok (f.modify u.table fun table => table.mapCells (u.set e))

/-! ## What the statements do -/

theorem File.named_eq_ok {f : File} {t : String} {cs : List String} {table : SqlTable} :
    f.named t cs = .ok table ↔ f.table? t = some table ∧ ∀ c ∈ cs, table.has c = true := by
  unfold File.named
  cases f.table? t with
  | none => simp
  | some found =>
    cases hfind : cs.find? fun c => !found.has c with
    | some c =>
      have hmissing := List.find?_some hfind
      have hmem := List.mem_of_find?_eq_some hfind
      simp only [hfind, reduceCtorEq, Option.some.injEq, false_iff, not_and]
      rintro rfl hall
      simp [hall c hmem] at hmissing
    | none =>
      have hall : ∀ c ∈ cs, found.has c = true := fun c hc => by
        simpa using List.find?_eq_none.mp hfind c hc
      simp only [hfind, Except.ok.injEq, Option.some.injEq]
      exact ⟨fun h => ⟨h, h ▸ hall⟩, fun h => h.1⟩

/-- An `UPDATE` that sets one column, by the columns named. -/
def Update.assign (table : String) (columns : List String) (w : String)
    (value : η → (String → Value) → Value) : Update η where
  table := table
  columns := columns
  writes := [w]
  set e cells := Function.update cells w (value e cells)
  keeps := fun e cells c hc => Function.update_of_ne (by simpa using hc) _ _

/-- The number of a row that is not refused is free. -/
theorem SqlTable.find?_of_refuses {t : SqlTable} {r : SqlRow} (h : t.refuses r = false) :
    t.rows.find? r.rowid = none := by
  simp only [refuses, Bool.or_eq_false_iff, Option.isSome_eq_false_iff,
    Option.isNone_iff_eq_none] at h
  exact h.1.1

theorem SqlTable.insert_eq_some {t u : SqlTable} {r : SqlRow} (h : t.insert r = some u) :
    t.refuses r = false ∧ u = { t with rows := t.rows.set r } ∧
      u.rows.rows = t.rows.rows ++ [r] := by
  unfold insert at h
  split at h
  · contradiction
  next hrefuses =>
    rw [Bool.not_eq_true] at hrefuses
    obtain rfl := (Option.some.inj h).symm
    exact ⟨hrefuses, rfl, Keyed.Table.rows_set_of_fresh (find?_of_refuses hrefuses)⟩

theorem File.table?_modify {f : File} {t : String} {g : SqlTable → SqlTable}
    (hg : ∀ table, (g table).name = table.name) (n : String) :
    (f.modify t g).table? n = if n = t then (f.table? n).map g else f.table? n :=
  Keyed.Table.find?_modify f.tables hg t n

theorem SqlTable.has_addColumn (t : SqlTable) (c : Column) (x : String) :
    (t.addColumn c).has x = (t.has x || c.name == x) := by
  simp [addColumn, has, List.any_append]

theorem SqlTable.has_dropColumn (t : SqlTable) (c x : String) :
    (t.dropColumn c).has x = (t.has x && x != c) := by
  simp only [dropColumn, has, List.any_filter]
  rw [Bool.eq_iff_iff]
  simp only [List.any_eq_true, Bool.and_eq_true, bne_iff_ne, ne_eq, beq_iff_eq]
  constructor
  · rintro ⟨column, hmem, hne, rfl⟩
    exact ⟨⟨column, hmem, rfl⟩, hne⟩
  · rintro ⟨⟨column, hmem, rfl⟩, hne⟩
    exact ⟨column, hmem, hne, rfl⟩

theorem SqlTable.rows_mapCells (t : SqlTable) (g : (String → Value) → String → Value) :
    (t.mapCells g).rows.rows = t.rows.rows.map fun r => { r with cell := g r.cell } :=
  Keyed.Table.rows_map t.rows fun _ => rfl

/-! ## Bounds on a change -/

/-- What a change may do to a file.  It acts on the tables in `touched` only; it may
change or drop these columns, make these tables or add rows to them, and build these
anew. -/
structure Footprint where
  touched : List String := []
  changed : List (String × String) := []
  dropped : List (String × String) := []
  grown : List String := []
  rebuilt : List String := []

/-- All that `F` allows, `G` allows. -/
structure Footprint.Le (F G : Footprint) : Prop where
  touched : F.touched ⊆ G.touched
  changed : F.changed ⊆ G.changed
  dropped : F.dropped ⊆ G.dropped
  grown : F.grown ⊆ G.grown
  rebuilt : F.rebuilt ⊆ G.rebuilt

/-- A column of the table whose cells `F` keeps. -/
def Footprint.Spares (F : Footprint) (t c : String) : Prop :=
  (t, c) ∉ F.dropped ∧ (t, c) ∉ F.changed

/-- The second table is the first one after a change that `F` allows. -/
structure SqlTable.Within (F : Footprint) (t u : SqlTable) : Prop where
  name : u.name = t.name
  unique : u.unique = t.unique
  columns : ∀ c, t.has c = true → (t.name, c) ∉ F.dropped → u.has c = true
  indexes : t.indexes ⊆ u.indexes
  rows : ∀ r ∈ t.rows.rows, ∃ r' ∈ u.rows.rows, r'.rowid = r.rowid ∧
    ∀ c, t.has c = true → F.Spares t.name c → r'.cell c = r.cell c
  rowids : t.name ∉ F.grown → u.rows.rows.map SqlRow.rowid = t.rows.rows.map SqlRow.rowid

/-- The second file is the first one after changes that `F` allows, in which new tables
are made as in `D`. -/
structure File.Within (D : List SqlTable) (F : Footprint) (f g : File) : Prop where
  same : ∀ {n}, n ∉ F.touched → g.table? n = f.table? n
  kept : ∀ {n t}, n ∉ F.rebuilt → f.table? n = some t → ∃ u, g.table? n = some u ∧ t.Within F u
  absent : ∀ {n}, n ∉ F.rebuilt → n ∉ F.grown → f.table? n = none → g.table? n = none
  made : ∀ {n u}, n ∉ F.rebuilt → f.table? n = none → g.table? n = some u →
    ∃ d ∈ D, d.name = n ∧ d.Within F u

section Within

variable {D : List SqlTable} {F G : Footprint}

theorem SqlTable.Within.refl (t : SqlTable) : t.Within F t where
  name := rfl
  unique := rfl
  columns := fun _ h _ => h
  indexes := List.Subset.refl _
  rows := fun r hr => ⟨r, hr, rfl, fun _ _ _ => rfl⟩
  rowids := fun _ => rfl

theorem SqlTable.Within.trans {t u v : SqlTable} (htu : t.Within F u) (huv : u.Within F v) :
    t.Within F v where
  name := huv.name.trans htu.name
  unique := huv.unique.trans htu.unique
  columns := fun c hc hdropped =>
    huv.columns c (htu.columns c hc hdropped) (htu.name ▸ hdropped)
  indexes := List.Subset.trans htu.indexes huv.indexes
  rows := by
    intro r hr
    obtain ⟨r', hr', hid, hcells⟩ := htu.rows r hr
    obtain ⟨r'', hr'', hid', hcells'⟩ := huv.rows r' hr'
    refine ⟨r'', hr'', hid'.trans hid, fun c hc hspares => ?_⟩
    have hspares' : F.Spares u.name c := htu.name ▸ hspares
    rw [hcells' c (htu.columns c hc hspares.1) hspares', hcells c hc hspares]
  rowids := fun hgrown => (huv.rowids (htu.name ▸ hgrown)).trans (htu.rowids hgrown)

theorem SqlTable.Within.mono {t u : SqlTable} (h : t.Within F u) (hle : F.Le G) :
    t.Within G u where
  name := h.name
  unique := h.unique
  columns := fun c hc hdropped => h.columns c hc fun hmem => hdropped (hle.dropped hmem)
  indexes := h.indexes
  rows := by
    intro r hr
    obtain ⟨r', hr', hid, hcells⟩ := h.rows r hr
    exact ⟨r', hr', hid, fun c hc hspares => hcells c hc
      ⟨fun hmem => hspares.1 (hle.dropped hmem), fun hmem => hspares.2 (hle.changed hmem)⟩⟩
  rowids := fun hgrown => h.rowids fun hmem => hgrown (hle.grown hmem)

theorem File.Within.refl (f : File) : f.Within D F f where
  same := fun _ => rfl
  kept := fun _ h => ⟨_, h, .refl _⟩
  absent := fun _ _ h => h
  made := fun _ hnone hsome => absurd (hnone.symm.trans hsome) (by simp)

theorem File.Within.trans {f g h : File} (hfg : f.Within D F g) (hgh : g.Within D F h) :
    f.Within D F h where
  same := fun hn => (hgh.same hn).trans (hfg.same hn)
  kept := by
    intro n t hn ht
    obtain ⟨u, hu, htu⟩ := hfg.kept hn ht
    obtain ⟨v, hv, huv⟩ := hgh.kept hn hu
    exact ⟨v, hv, htu.trans huv⟩
  absent := fun hn hgrown h => hgh.absent hn hgrown (hfg.absent hn hgrown h)
  made := by
    intro n v hn hnone hsome
    cases hg : g.table? n with
    | none => exact hgh.made hn hg hsome
    | some u =>
      obtain ⟨d, hd, hname, hdu⟩ := hfg.made hn hnone hg
      obtain ⟨v', hv', huv⟩ := hgh.kept hn hg
      obtain rfl := Option.some.inj (hv'.symm.trans hsome)
      exact ⟨d, hd, hname, hdu.trans huv⟩

theorem File.Within.mono {f g : File} (h : f.Within D F g) (hle : F.Le G) : f.Within D G g where
  same := fun hn => h.same fun hmem => hn (hle.touched hmem)
  kept := by
    intro n t hn ht
    obtain ⟨u, hu, htu⟩ := h.kept (fun hmem => hn (hle.rebuilt hmem)) ht
    exact ⟨u, hu, htu.mono hle⟩
  absent := fun hn hgrown => h.absent (fun hmem => hn (hle.rebuilt hmem)) fun hmem =>
    hgrown (hle.grown hmem)
  made := by
    intro n u hn hnone hsome
    obtain ⟨d, hd, hname, hdu⟩ := h.made (fun hmem => hn (hle.rebuilt hmem)) hnone hsome
    exact ⟨d, hd, hname, hdu.mono hle⟩

/-- A change of one table. -/
theorem File.within_modify {f : File} {t : String} {g : SqlTable → SqlTable}
    (ht : t ∈ F.touched) (hname : ∀ table, (g table).name = table.name)
    (h : ∀ table, f.table? t = some table → table.Within F (g table)) :
    f.Within D F (f.modify t g) where
  same := by
    intro n hn
    rw [File.table?_modify hname, if_neg]
    rintro rfl
    exact hn ht
  kept := by
    intro n table _ htable
    rw [File.table?_modify hname]
    by_cases hn : n = t
    · subst hn
      exact ⟨g table, by rw [if_pos rfl, htable, Option.map_some], h table htable⟩
    · exact ⟨table, by rw [if_neg hn, htable], .refl table⟩
  absent := by
    intro n _ _ hnone
    rw [File.table?_modify hname]
    split
    · rw [hnone, Option.map_none]
    · exact hnone
  made := by
    intro n u _ hnone hsome
    rw [File.table?_modify hname, hnone] at hsome
    split at hsome <;> contradiction

theorem name_of_table? {f : File} {n : String} {t : SqlTable} (h : f.table? n = some t) : t.name = n :=
  (Keyed.Table.mem_of_find? h).2

/-! ### Of each statement -/

theorem SqlTable.within_mapCells {t : SqlTable} {g : (String → Value) → String → Value}
    (h : ∀ cells c, t.has c = true → F.Spares t.name c → g cells c = cells c) :
    t.Within F (t.mapCells g) where
  name := rfl
  unique := rfl
  columns := fun _ hc _ => hc
  indexes := List.Subset.refl _
  rows := by
    intro r hr
    refine ⟨{ r with cell := g r.cell }, ?_, rfl, h r.cell⟩
    rw [SqlTable.rows_mapCells]
    exact List.mem_map_of_mem hr
  rowids := by
    intro _
    rw [SqlTable.rows_mapCells, List.map_map]
    rfl

theorem SqlTable.within_addColumn {t : SqlTable} {c : Column} (h : t.has c.name = false) :
    t.Within F (t.addColumn c) := by
  have hcells : t.Within F (t.mapCells fun cells => Function.update cells c.name c.fill) := by
    refine within_mapCells fun cells x hx _ => Function.update_of_ne ?_ _ _
    rintro rfl
    rw [h] at hx
    contradiction
  exact ⟨rfl, rfl, fun x hx _ => by rw [has_addColumn, hx, Bool.true_or], hcells.indexes,
    hcells.rows, hcells.rowids⟩

theorem SqlTable.within_dropColumn {t : SqlTable} {c : String} (h : (t.name, c) ∈ F.dropped) :
    t.Within F (t.dropColumn c) := by
  have hcells : t.Within F (t.mapCells fun cells => Function.update cells c .null) := by
    refine within_mapCells fun cells x _ hspares => Function.update_of_ne ?_ _ _
    rintro rfl
    exact hspares.1 h
  refine ⟨rfl, rfl, fun x hx hdropped => ?_, hcells.indexes, hcells.rows, hcells.rowids⟩
  rw [has_dropColumn, hx, Bool.true_and, bne_iff_ne]
  rintro rfl
  exact hdropped h

theorem SqlTable.within_addIndex (t : SqlTable) (x : String) : t.Within F (t.addIndex x) where
  name := rfl
  unique := rfl
  columns := fun _ hc _ => hc
  indexes := List.subset_append_left _ _
  rows := fun r hr => ⟨r, hr, rfl, fun _ _ _ => rfl⟩
  rowids := fun _ => rfl

theorem SqlTable.name_insertOrIgnore (t : SqlTable) (r : SqlRow) :
    (t.insertOrIgnore r).name = t.name := by
  unfold insertOrIgnore
  split <;> rfl

theorem SqlTable.within_insertOrIgnore {t : SqlTable} (h : t.name ∈ F.grown) (r : SqlRow) :
    t.Within F (t.insertOrIgnore r) := by
  unfold insertOrIgnore
  split
  · exact .refl t
  next hrefuses =>
    rw [Bool.not_eq_true] at hrefuses
    refine ⟨rfl, rfl, fun _ hc _ => hc, List.Subset.refl _,
      fun u hu => ⟨u, ?_, rfl, fun _ _ _ => rfl⟩, fun hgrown => absurd h hgrown⟩
    show u ∈ (t.rows.set r).rows
    rw [Keyed.Table.rows_set_of_fresh (find?_of_refuses hrefuses)]
    exact List.mem_append_left _ hu

theorem SqlTable.name_insertAll (t : SqlTable) (now : Str)
    (rows : List (Option Int × List (String × Value))) : (t.insertAll now rows).name = t.name := by
  induction rows generalizing t with
  | nil => rfl
  | cons row rows ih => exact (ih _).trans (name_insertOrIgnore t _)

theorem SqlTable.within_insertAll {t : SqlTable} (h : t.name ∈ F.grown) (now : Str)
    (rows : List (Option Int × List (String × Value))) : t.Within F (t.insertAll now rows) := by
  induction rows generalizing t with
  | nil => exact .refl t
  | cons row rows ih =>
    exact (within_insertOrIgnore h _).trans (ih ((name_insertOrIgnore t _).symm ▸ h))

namespace File

variable {f g : File}

theorem within_createTable {table : SqlTable} (hD : table ∈ D) (htouched : table.name ∈ F.touched)
    (h : table.name ∈ F.grown) : f.Within D F (f.createTable table) := by
  unfold createTable
  split
  · exact .refl f
  next hnone =>
    have hfind : ∀ n, File.table? ⟨f.tables.set table⟩ n =
        if table.name = n then some table else f.table? n := Keyed.Table.find?_set f.tables table
    refine ⟨fun {n} hn => ?_, fun {n t} _ ht => ⟨t, ?_, .refl t⟩, fun {n} _ hgrown hn => ?_,
      fun {n u} _ hn hu => ?_⟩
    · rw [hfind, if_neg]
      rintro rfl
      exact hn htouched
    · rw [hfind, if_neg, ht]
      rintro rfl
      exact hnone (Option.isSome_iff_exists.mpr ⟨t, ht⟩)
    · rw [hfind, if_neg, hn]
      rintro rfl
      exact hgrown h
    · rw [hfind] at hu
      split at hu
      next hname =>
        obtain rfl := Option.some.inj hu
        exact ⟨table, hD, hname, .refl table⟩
      · exact absurd (hn.symm.trans hu) (by simp)

theorem addColumn_eq_ok {t : String} {c : Column} :
    f.addColumn t c = .ok g ↔ ∃ table, f.table? t = some table ∧ table.has c.name = false ∧
      g = f.modify t fun table => table.addColumn c := by
  unfold addColumn
  cases hnamed : f.named t [] with
  | error x =>
    simp only [Except.bind, bind, reduceCtorEq, false_iff, not_exists, not_and]
    intro table htable
    rw [named_eq_ok.mpr ⟨htable, by simp⟩] at hnamed
    contradiction
  | ok table =>
    obtain ⟨htable, -⟩ := named_eq_ok.mp hnamed
    simp only [Except.bind, bind, htable, Option.some.injEq]
    cases hhas : table.has c.name with
    | true => simp [hhas]
    | false => simp [hhas, eq_comm]

theorem within_addColumn {t : String} {c : Column} (htouched : t ∈ F.touched)
    (h : f.addColumn t c = .ok g) : f.Within D F g := by
  obtain ⟨table, htable, hhas, rfl⟩ := addColumn_eq_ok.mp h
  refine within_modify htouched (fun _ => rfl) fun u hu => SqlTable.within_addColumn ?_
  obtain rfl := Option.some.inj (htable.symm.trans hu)
  exact hhas

/-- A statement that changes a table once it has found all that it names. -/
theorem modify_of_named {t : String} {cs : List String} {change : SqlTable → SqlTable}
    (h : (do let _ ← f.named t cs; .ok (f.modify t change) : Except SqlError File) = .ok g) :
    (∃ table, f.named t cs = .ok table) ∧ g = f.modify t change := by
  cases hnamed : f.named t cs with
  | error x =>
    rw [hnamed] at h
    contradiction
  | ok table =>
    rw [hnamed] at h
    exact ⟨⟨table, rfl⟩, (Except.ok.inj h).symm⟩

theorem within_dropColumn {t c : String} (htouched : t ∈ F.touched) (hF : (t, c) ∈ F.dropped)
    (h : f.dropColumn t c = .ok g) : f.Within D F g := by
  obtain ⟨-, rfl⟩ := modify_of_named h
  refine within_modify htouched (fun _ => rfl) fun u hu => SqlTable.within_dropColumn ?_
  rw [name_of_table? hu]
  exact hF

theorem within_update {u : Update η} {e : η} (htouched : u.table ∈ F.touched)
    (hF : ∀ c ∈ u.writes, (u.table, c) ∈ F.changed) (h : f.update u e = .ok g) : f.Within D F g := by
  obtain ⟨-, rfl⟩ := modify_of_named h
  refine within_modify htouched (fun _ => rfl) fun t ht =>
    SqlTable.within_mapCells fun cells c _ hspares => u.keeps e cells c fun hc => hspares.2 ?_
  rw [name_of_table? ht]
  exact hF c hc

theorem within_updateRow {t : String} {cs : List String} {id : Int}
    {change : (String → Value) → String → Value} (htouched : t ∈ F.touched)
    (hF : ∀ cells c, F.Spares t c → change cells c = cells c)
    (h : f.updateRow t cs id change = .ok g) : f.Within D F g := by
  obtain ⟨-, rfl⟩ := modify_of_named h
  refine within_modify htouched (fun _ => rfl) fun u hu => ?_
  have hname := name_of_table? hu
  have hrows : (u.rows.modify id fun r => { r with cell := change r.cell }).rows =
      u.rows.rows.map fun r => if r.rowid = id then { r with cell := change r.cell } else r :=
    List.map_congr_left fun r _ => by simp
  refine ⟨rfl, rfl, fun _ hc _ => hc, List.Subset.refl _, fun r hr => ?_, fun _ => ?_⟩
  · refine ⟨if r.rowid = id then { r with cell := change r.cell } else r, ?_, ?_, fun c _ hspares => ?_⟩
    · rw [hrows]
      exact List.mem_map_of_mem hr
    · split <;> rfl
    · split
      · exact hF r.cell c (hname ▸ hspares)
      · rfl
  · rw [hrows, List.map_map]
    refine List.map_congr_left fun r _ => ?_
    simp only [Function.comp]
    split <;> rfl

theorem within_insertOrIgnore {now : Str} {t : String} {cs : List String}
    {rows : List (Option Int × List (String × Value))} (htouched : t ∈ F.touched)
    (hF : t ∈ F.grown) (h : f.insertOrIgnore now t cs rows = .ok g) : f.Within D F g := by
  obtain ⟨-, rfl⟩ := modify_of_named h
  exact within_modify htouched (fun table => table.name_insertAll now rows) fun u hu =>
    SqlTable.within_insertAll ((name_of_table? hu).symm ▸ hF) now rows

/-- An index is there, or it is made. -/
theorem createIndex_spec {x t : String} {cs : List String} (h : f.createIndex x t cs = .ok g) :
    g = f ∨ g = f.modify t fun table => table.addIndex x := by
  unfold createIndex at h
  cases hnamed : f.named t [] with
  | error e =>
    rw [hnamed] at h
    contradiction
  | ok table =>
    simp only [hnamed, Except.bind, bind] at h
    split at h
    · exact Or.inl (Except.ok.inj h).symm
    · split at h
      · contradiction
      · exact Or.inr (Except.ok.inj h).symm

/-- The same of a unique index. -/
theorem createUniqueIndex_spec {x t : String} {cs tested : List String}
    {covers : (String → Value) → Bool} (h : f.createUniqueIndex x t cs tested covers = .ok g) :
    g = f ∨ g = f.modify t fun table => table.addIndex x := by
  unfold createUniqueIndex at h
  cases hnamed : f.named t [] with
  | error e =>
    rw [hnamed] at h
    contradiction
  | ok table =>
    simp only [hnamed, Except.bind, bind] at h
    split at h
    · exact Or.inl (Except.ok.inj h).symm
    · split at h
      · contradiction
      · split at h
        · contradiction
        · exact Or.inr (Except.ok.inj h).symm

theorem within_addIndexTo {x t : String} (htouched : t ∈ F.touched)
    (h : g = f ∨ g = f.modify t fun table => table.addIndex x) : f.Within D F g := by
  rcases h with rfl | rfl
  · exact .refl g
  · exact within_modify htouched (fun _ => rfl) fun u _ => u.within_addIndex x

theorem within_createIndex {x t : String} {cs : List String} (htouched : t ∈ F.touched)
    (h : f.createIndex x t cs = .ok g) : f.Within D F g :=
  within_addIndexTo htouched (createIndex_spec h)

theorem within_createUniqueIndex {x t : String} {cs tested : List String}
    {covers : (String → Value) → Bool} (htouched : t ∈ F.touched)
    (h : f.createUniqueIndex x t cs tested covers = .ok g) : f.Within D F g :=
  within_addIndexTo htouched (createUniqueIndex_spec h)

end File

end Within

end SqlFile
