import Mathlib.Data.List.Basic

/-!
# Choices made by repeated scans

A list is scanned once for each of several stages, and the first element that the first
successful stage accepts is taken.  When the list is in order, that is an element of the
least rank, and among those of its rank the least in the order of the list.
-/

namespace StagedScan

variable {α : Type} {le : α → α → Prop} {l : List α} {stages : List (α → Bool)} {a b : α}

/-- The first element that a stage accepts, the stages taken one after the other. -/
def pick (l : List α) : List (α → Bool) → Option α
  | [] => none
  | stage :: stages => (l.find? stage).or (pick l stages)

/-- The number of stages that do not accept the element before one does. -/
def rank (stages : List (α → Bool)) (a : α) : Nat := stages.findIdx fun stage => stage a

theorem rank_cons_of_pos {stage : α → Bool} (h : stage a = true) :
    rank (stage :: stages) a = 0 := by
  rw [rank, List.findIdx_cons, h]
  rfl

theorem rank_cons_of_neg {stage : α → Bool} (h : ¬stage a = true) :
    rank (stage :: stages) a = rank stages a + 1 := by
  rw [rank, List.findIdx_cons, Bool.eq_false_iff.mpr h]
  rfl

/-- What a scan of a list in order finds is the least of what it could have found. -/
theorem find?_least {p : α → Bool} (hl : l.Pairwise le) (h : l.find? p = some a) (hb : b ∈ l)
    (hp : p b = true) : a = b ∨ le a b := by
  obtain ⟨-, before, after, rfl, hbefore⟩ := List.find?_eq_some_iff_append.mp h
  rcases List.mem_append.mp hb with hb | hb
  · have hnot := hbefore b hb
    rw [hp] at hnot
    contradiction
  · rcases List.mem_cons.mp hb with rfl | hb
    · exact Or.inl rfl
    · have hafter := (List.pairwise_append.mp hl).2.1
      exact Or.inr (List.rel_of_pairwise_cons hafter hb)

/-- Nothing is taken when no stage accepts anything. -/
theorem pick_eq_none_iff : pick l stages = none ↔ ∀ b ∈ l, rank stages b = stages.length := by
  induction stages with
  | nil => exact iff_of_true rfl fun b _ => rfl
  | cons stage stages ih =>
    rw [pick, Option.or_eq_none_iff, ih, List.find?_eq_none]
    constructor
    · rintro ⟨hstage, hrest⟩ b hb
      rw [rank_cons_of_neg (hstage b hb), hrest b hb, List.length_cons]
    · intro h
      have hstage : ∀ b ∈ l, ¬stage b = true := by
        intro b hb hpos
        have hrank := h b hb
        rw [rank_cons_of_pos hpos] at hrank
        exact absurd hrank (by simp)
      refine ⟨hstage, fun b hb => ?_⟩
      have hrank := h b hb
      rw [rank_cons_of_neg (hstage b hb), List.length_cons] at hrank
      omega

/-- What is taken is the least by rank, and by the order of the list among its rank. -/
theorem pick_least (hl : l.Pairwise le) (h : pick l stages = some a) :
    a ∈ l ∧ rank stages a < stages.length ∧
      ∀ b ∈ l, rank stages a < rank stages b ∨ rank stages a = rank stages b ∧ (a = b ∨ le a b) := by
  induction stages with
  | nil => contradiction
  | cons stage stages ih =>
    rw [pick] at h
    cases hfind : l.find? stage with
    | some c =>
      rw [hfind, Option.some_or] at h
      obtain rfl := Option.some.inj h
      have hzero : rank (stage :: stages) c = 0 := rank_cons_of_pos (List.find?_some hfind)
      refine ⟨List.mem_of_find?_eq_some hfind, ?_, fun b hb => ?_⟩
      · rw [hzero, List.length_cons]
        omega
      · rw [hzero]
        by_cases hpos : stage b = true
        · exact Or.inr ⟨(rank_cons_of_pos hpos).symm, find?_least hl hfind hb hpos⟩
        · rw [rank_cons_of_neg hpos]
          exact Or.inl (Nat.succ_pos _)
    | none =>
      rw [hfind, Option.none_or] at h
      have hneg := List.find?_eq_none.mp hfind
      obtain ⟨ha, hlt, hleast⟩ := ih h
      refine ⟨ha, ?_, fun b hb => ?_⟩
      · rw [rank_cons_of_neg (hneg a ha), List.length_cons]
        omega
      · rw [rank_cons_of_neg (hneg a ha), rank_cons_of_neg (hneg b hb)]
        rcases hleast b hb with hless | ⟨heq, hle⟩
        · exact Or.inl (by omega)
        · exact Or.inr ⟨by omega, hle⟩

end StagedScan
