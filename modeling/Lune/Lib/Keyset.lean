import Mathlib.Data.List.Sort

/-!
# Reading a table page by page

A reader lists a table in pages of at most `limit` rows, each made of the rows that come after
the last row of the page before.  Between two pages rows may come and go.  No row is listed
twice, and once a page is short of the limit every row that was there all the time has been
listed.
-/

namespace Keyset

variable {α κ : Type}

/-- The order of a listing, and what a reader keeps of a row to go on after it. -/
structure Order (α κ : Type) where
  le : α → α → Prop
  decidableLE : DecidableRel le
  cursor : α → κ
  after : κ → α → Bool
  trans : ∀ {x y z}, le x y → le y z → le x z
  total : ∀ x y, le x y ∨ le y x
  after_iff : ∀ {x y}, after (cursor x) y = true ↔ ¬ le y x

namespace Order

variable {o : Order α κ} {x y z : α}

instance : DecidableRel o.le := o.decidableLE

instance : IsTrans α o.le := ⟨fun _ _ _ => o.trans⟩

instance : Std.Total o.le := ⟨o.total⟩

theorem le_of_after (h : o.after (o.cursor x) y = true) : o.le x y :=
  (o.total x y).resolve_right (o.after_iff.mp h)

theorem after_trans (hxy : o.le x y) (hyz : o.after (o.cursor y) z = true) :
    o.after (o.cursor x) z = true :=
  o.after_iff.mpr fun hzx => o.after_iff.mp hyz (o.trans hzx hxy)

/-- Rows of one table that are equal for the order are the same row. -/
def Distinct (o : Order α κ) (rows : List α) : Prop :=
  rows.Pairwise fun x y => o.le x y → ¬ o.le y x

/-- The next page. -/
def page (o : Order α κ) (limit : Nat) (cursor : Option κ) (rows : List α) : List α :=
  ((rows.filter fun x => cursor.all (o.after · x)).insertionSort o.le).take limit

variable {limit : Nat} {cursor : Option κ} {rows : List α}

theorem mem_page (h : x ∈ o.page limit cursor rows) :
    x ∈ rows ∧ ∀ c, cursor = some c → o.after c x = true := by
  obtain ⟨hmem, hafter⟩ :=
    List.mem_filter.mp ((List.mem_insertionSort o.le).mp (List.mem_of_mem_take h))
  refine ⟨hmem, fun c hc => ?_⟩
  rw [hc] at hafter
  exact hafter

/-- The rows that may be on the page, in their order. -/
theorem pairwise_sorted (h : o.Distinct rows) :
    ((rows.filter fun x => cursor.all (o.after · x)).insertionSort o.le).Pairwise fun x y =>
      o.after (o.cursor x) y = true := by
  have hsorted := List.pairwise_insertionSort o.le (rows.filter fun x => cursor.all (o.after · x))
  have hdistinct : o.Distinct
      ((rows.filter fun x => cursor.all (o.after · x)).insertionSort o.le) :=
    ((List.perm_insertionSort o.le _).pairwise_iff fun hxy hyx hxy' => hxy hxy' hyx).mpr
      (h.sublist List.filter_sublist)
  exact (hsorted.and hdistinct).imp fun h => o.after_iff.mpr (h.2 h.1)

theorem pairwise_page (h : o.Distinct rows) :
    (o.page limit cursor rows).Pairwise fun x y => o.after (o.cursor x) y = true :=
  (pairwise_sorted h).sublist (List.take_sublist _ _)

/-- A row that may be on the page is there, or the page is full and the row comes after it. -/
theorem mem_page_or (h : o.Distinct rows) (hx : x ∈ rows)
    (hcursor : ∀ c, cursor = some c → o.after c x = true) :
    x ∈ o.page limit cursor rows ∨ (o.page limit cursor rows).length = limit ∧
      ∀ y ∈ o.page limit cursor rows, o.after (o.cursor y) x = true := by
  have hall : cursor.all (o.after · x) = true := by
    cases cursor with
    | none => rfl
    | some c => exact hcursor c rfl
  have hmem : x ∈ (rows.filter fun x => cursor.all (o.after · x)).insertionSort o.le :=
    (List.mem_insertionSort o.le).mpr (List.mem_filter.mpr ⟨hx, hall⟩)
  have hsorted := @pairwise_sorted _ _ o cursor rows h
  rw [← List.take_append_drop limit (List.insertionSort o.le _)] at hmem hsorted
  obtain hin | hout := List.mem_append.mp hmem
  · exact .inl hin
  · refine .inr ⟨?_, fun y hy => (List.pairwise_append.mp hsorted).2.2 y hy x hout⟩
    have hpos := List.length_pos_of_mem hout
    rw [List.length_drop] at hpos
    exact List.length_take_of_le (by omega)

end Order

/-! ## The reader -/

/-- The rows listed so far, where to go on, and whether the last page was short. -/
structure Reader (α κ : Type) where
  listed : List α := []
  cursor : Option κ := none
  complete : Bool := false

namespace Reader

variable {o : Order α κ} {limit : Nat} {rows : List α} {rd : Reader α κ} {x : α}

/-- The reader with the next page. -/
def turn (o : Order α κ) (limit : Nat) (rd : Reader α κ) (page : List α) : Reader α κ where
  listed := rd.listed ++ page
  cursor := (page.getLast?.map o.cursor).or rd.cursor
  complete := page.length < limit

/-- Each row is listed before those that come after it, and the cursor is at none of them or
past it. -/
structure Sound (o : Order α κ) (rd : Reader α κ) : Prop where
  sorted : rd.listed.Pairwise fun x y => o.after (o.cursor x) y = true
  passed : ∀ x ∈ rd.listed, ∃ y, rd.cursor = some (o.cursor y) ∧ o.le x y

theorem sound_start (o : Order α κ) : Sound o {} :=
  ⟨List.Pairwise.nil, fun _ hx => absurd hx List.not_mem_nil⟩

/-- The last row of a page is at or after each of its rows. -/
theorem le_last {page : List α} (h : page.Pairwise fun x y => o.after (o.cursor x) y = true)
    {last : α} (hlast : page.getLast? = some last) (hx : x ∈ page) : o.le x last := by
  obtain ⟨front, rfl⟩ := List.getLast?_eq_some_iff.mp hlast
  obtain hin | hin := List.mem_append.mp hx
  · exact o.le_of_after ((List.pairwise_append.mp h).2.2 x hin last (List.mem_singleton_self _))
  · rw [List.mem_singleton.mp hin]
    exact (o.total last last).elim id id

theorem turn_sound (hrd : Sound o rd) (h : o.Distinct rows) :
    Sound o (rd.turn o limit (o.page limit rd.cursor rows)) := by
  have hpage := @Order.pairwise_page _ _ o limit rd.cursor rows h
  have hnext : ∀ x ∈ rd.listed, ∀ y ∈ o.page limit rd.cursor rows,
      o.after (o.cursor x) y = true := by
    intro x hx y hy
    obtain ⟨z, hcursor, hle⟩ := hrd.passed x hx
    exact Order.after_trans hle ((Order.mem_page hy).2 _ hcursor)
  refine ⟨List.pairwise_append.mpr ⟨hrd.sorted, hpage, hnext⟩, fun x hx => ?_⟩
  show ∃ y, ((o.page limit rd.cursor rows).getLast?.map o.cursor).or rd.cursor =
    some (o.cursor y) ∧ o.le x y
  cases hlast : (o.page limit rd.cursor rows).getLast? with
  | none =>
    rw [turn, List.getLast?_eq_none_iff.mp hlast, List.append_nil] at hx
    exact hrd.passed x hx
  | some last =>
    refine ⟨last, rfl, ?_⟩
    obtain hold | hnew := List.mem_append.mp hx
    · exact o.le_of_after (hnext x hold last (List.mem_of_getLast? hlast))
    · exact le_last hpage hlast hnew

/-- The row is listed, or there are pages to come and the row is after the cursor. -/
def Covers (o : Order α κ) (rd : Reader α κ) (x : α) : Prop :=
  x ∈ rd.listed ∨ rd.complete = false ∧ ∀ c, rd.cursor = some c → o.after c x = true

theorem covers_start (o : Order α κ) (x : α) : Covers o {} x :=
  .inr ⟨rfl, fun _ hc => by contradiction⟩

/-- A row that is in the table stays covered by the next page. -/
theorem turn_covers (hcovers : Covers o rd x) (h : o.Distinct rows) (hx : x ∈ rows) :
    Covers o (rd.turn o limit (o.page limit rd.cursor rows)) x := by
  obtain hlisted | ⟨-, hafter⟩ := hcovers
  · exact .inl (List.mem_append_left _ hlisted)
  · obtain hin | ⟨hfull, hnext⟩ := @Order.mem_page_or _ _ o _ limit _ _ h hx hafter
    · exact .inl (List.mem_append_right _ hin)
    · refine .inr ⟨decide_eq_false (by omega), fun c hc => ?_⟩
      rw [turn] at hc
      dsimp only at hc
      cases hlast : (o.page limit rd.cursor rows).getLast? with
      | none =>
        rw [hlast] at hc
        exact hafter c hc
      | some last =>
        rw [hlast] at hc
        obtain rfl := Option.some.inj hc
        exact hnext last (List.mem_of_getLast? hlast)

theorem listed_of_complete (hcovers : Covers o rd x) (h : rd.complete = true) : x ∈ rd.listed := by
  obtain hlisted | ⟨hopen, -⟩ := hcovers
  · exact hlisted
  · rw [h] at hopen
    contradiction

/-- No row is listed twice. -/
theorem Sound.nodup (h : Sound o rd) : rd.listed.Nodup :=
  h.sorted.imp fun {x y} hafter heq => by
    subst heq
    exact o.after_iff.mp hafter ((o.total x x).elim id id)

end Reader

end Keyset
