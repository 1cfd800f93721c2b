import Mathlib.Data.Set.Basic

/-!
# Deletions that cascade

Rows refer to rows, and a row goes with every row that it refers to.  `Cascade`
is what a deletion of some rows takes with it, and `Deletes` says that exactly
this is gone.  Deletions one after the other are one deletion: `Deletes.trans`
and `Deletes.foldl`.
-/

namespace Cascades

variable {ρ : Type} {refs : ρ → ρ → Prop}

/-- What a deletion takes: the rows that are meant, as far as they are there, and
every row that refers to one that goes. -/
inductive Cascade (refs : ρ → ρ → Prop) (rows meant : Set ρ) : ρ → Prop where
  | meant {r : ρ} (hr : r ∈ rows) (h : r ∈ meant) : Cascade refs rows meant r
  | child {c p : ρ} (hc : c ∈ rows) (href : refs c p) (hp : Cascade refs rows meant p) :
    Cascade refs rows meant c

variable {rows rows' rows'' meant meant' : Set ρ}

theorem Cascade.mem {r : ρ} (h : Cascade refs rows meant r) : r ∈ rows := by
  cases h with
  | meant hr => exact hr
  | child hc => exact hc

theorem Cascade.mono {r : ρ} (h : Cascade refs rows meant r) (hrows : rows ⊆ rows')
    (hmeant : meant ⊆ meant') : Cascade refs rows' meant' r := by
  induction h with
  | meant hr h => exact .meant (hrows hr) (hmeant h)
  | child hc href _ ih => exact .child (hrows hc) href ih

/-- A set of rows that the deletion takes is all of it when it has the rows that are
meant and is closed under references. -/
theorem cascade_iff_of_closed {G : ρ → Prop} (htaken : ∀ r, G r → Cascade refs rows meant r)
    (hmeant : ∀ r ∈ rows, r ∈ meant → G r) (hclosed : ∀ c ∈ rows, ∀ p, refs c p → G p → G c)
    (r : ρ) : Cascade refs rows meant r ↔ G r := by
  refine ⟨fun h => ?_, htaken r⟩
  induction h with
  | meant hr h => exact hmeant _ hr h
  | child hc href _ ih => exact hclosed _ hc _ href ih

/-- The rows that are left are those that the deletion does not take. -/
def Deletes (refs : ρ → ρ → Prop) (rows rows' meant : Set ρ) : Prop :=
  ∀ r, r ∈ rows' ↔ r ∈ rows ∧ ¬Cascade refs rows meant r

theorem deletes_empty (rows : Set ρ) : Deletes refs rows rows ∅ := by
  have hnone : ∀ r, ¬Cascade refs rows ∅ r := by
    intro r h
    induction h with
    | meant _ h => exact h
    | child _ _ _ ih => exact ih
  exact fun r => ⟨fun hr => ⟨hr, hnone r⟩, fun h => h.1⟩

/-- What the second deletion leaves of the rows that the first one left is what one
deletion of both leaves. -/
theorem Deletes.trans (h : Deletes refs rows rows' meant) (h' : Deletes refs rows' rows'' meant') :
    Deletes refs rows rows'' (meant ∪ meant') := by
  have hsub : rows' ⊆ rows := fun r hr => ((h r).mp hr).1
  -- A row goes in one of the two deletions if and only if it goes in the joint one.
  have hjoint : ∀ r, Cascade refs rows (meant ∪ meant') r ↔
      Cascade refs rows meant r ∨ Cascade refs rows' meant' r := by
    intro r
    constructor
    · intro hr
      induction hr with
      | @meant r hr hmeant =>
        by_cases hfirst : Cascade refs rows meant r
        · exact Or.inl hfirst
        · rcases hmeant with hmeant | hmeant
          · exact Or.inl (.meant hr hmeant)
          · exact Or.inr (.meant ((h r).mpr ⟨hr, hfirst⟩) hmeant)
      | @child c p hc href _ ih =>
        by_cases hfirst : Cascade refs rows meant c
        · exact Or.inl hfirst
        · rcases ih with hp | hp
          · exact Or.inl (.child hc href hp)
          · exact Or.inr (.child ((h c).mpr ⟨hc, hfirst⟩) href hp)
    · rintro (hr | hr)
      · exact hr.mono subset_rfl Set.subset_union_left
      · exact hr.mono hsub Set.subset_union_right
  intro r
  rw [h' r, h r, hjoint r, not_or, and_assoc]

/-- A deletion for each element of a list. -/
theorem Deletes.foldl {σ α : Type} {content : σ → Set ρ} {meant : α → Set ρ} {f : σ → α → σ}
    (hstep : ∀ s a, Deletes refs (content s) (content (f s a)) (meant a)) (s : σ) (xs : List α) :
    Deletes refs (content s) (content (xs.foldl f s)) {r | ∃ a ∈ xs, r ∈ meant a} := by
  induction xs generalizing s with
  | nil =>
    have hempty : {r : ρ | ∃ a ∈ ([] : List α), r ∈ meant a} = ∅ := by
      ext r
      simp
    rw [hempty]
    exact deletes_empty (content s)
  | cons x xs ih =>
    have hmeant : {r | ∃ a ∈ x :: xs, r ∈ meant a} = meant x ∪ {r | ∃ a ∈ xs, r ∈ meant a} := by
      ext r
      simp
    rw [hmeant]
    exact (hstep s x).trans (ih (f s x))

end Cascades
