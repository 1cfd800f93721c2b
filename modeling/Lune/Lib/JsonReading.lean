import Lune.Lib.GoJson

/-!
# What a reading depends on

A text is read the same at every depth that it cannot use up (`value_depth`), and a
reading that takes numbers as `float64` is one that does not, of a value whose
numbers are in range (`value_floats`).
-/

namespace GoJson

open GoText

/-! ## The depth -/

/-- Two depths that a text cannot use up give the same. -/
theorem depth_agree (floats : Bool) (fuel : Nat) : ∀ depth depth' s,
    s.length ≤ depth → s.length ≤ depth' →
      value floats fuel depth s = value floats fuel depth' s ∧
      elements floats fuel depth s = elements floats fuel depth' s ∧
      members floats fuel depth s = members floats fuel depth' s := by
  induction fuel with
  | zero => exact fun _ _ _ _ _ => ⟨rfl, rfl, rfl⟩
  | succ fuel ih =>
    intro depth depth' s h h'
    have hbelow : ∀ t : Str, t.length < s.length →
        elements floats fuel (depth - 1) t = elements floats fuel (depth' - 1) t ∧
        members floats fuel (depth - 1) t = members floats fuel (depth' - 1) t :=
      fun t ht => (ih (depth - 1) (depth' - 1) t (by omega) (by omega)).2
    refine ⟨?_, ?_, ?_⟩
    · exact value_congr (fun _ => by omega) (fun t ht => (hbelow t ht).1) (fun t ht => (hbelow t ht).2)
    · exact elements_congr (ih depth depth' s h h').1
        (fun t ht => (ih depth depth' t (by omega) (by omega)).2.1)
    · exact members_congr (fun t ht => (ih depth depth' t (by omega) (by omega)).1)
        (fun t ht => (ih depth depth' t (by omega) (by omega)).2.2)

theorem value_depth {floats : Bool} {fuel depth depth' : Nat} {s : Str} (h : s.length ≤ depth)
    (h' : s.length ≤ depth') : value floats fuel depth s = value floats fuel depth' s :=
  (depth_agree floats fuel depth depth' s h h').1

/-- The value at the front of a text, of any depth. -/
def front (s : Str) : Option (Json × Str) := value false (enough s) s.length s

/-- More fuel and more depth change nothing. -/
theorem front_eq {fuel depth : Nat} {s : Str} (hfuel : enough s ≤ fuel) (hdepth : s.length ≤ depth) :
    front s = value false fuel depth s := by
  rw [front, ← value_enough false s.length hfuel, value_depth (le_refl s.length) hdepth]

/-! ## Numbers -/

mutual

/-- No number in the value is too large for `float64`. -/
def inRange : Json → Bool
  | .num text => !floatOverflows text
  | .arr xs => inRangeElements xs
  | .obj fs => inRangeMembers fs
  | _ => true

def inRangeElements : List Json → Bool
  | [] => true
  | x :: xs => inRange x && inRangeElements xs

def inRangeMembers : List (Str × Json) → Bool
  | [] => true
  | (_, x) :: fs => inRange x && inRangeMembers fs

end

theorem inRangeMembers_iff {fs : List (Str × Json)} :
    inRangeMembers fs = true ↔ ∀ f ∈ fs, inRange f.2 = true := by
  induction fs with
  | nil => simp [inRangeMembers]
  | cons f fs ih =>
    obtain ⟨key, x⟩ := f
    rw [inRangeMembers, Bool.and_eq_true, ih, List.forall_mem_cons]

/-- A filter passes through a map. -/
theorem filter_map_eq {α β : Type} {o : Option α} {f : α → β} {p : α → Bool} {q : β → Bool}
    (h : ∀ x, q (f x) = p x) : (o.filter p).map f = (o.map f).filter q := by
  cases o with
  | none => rfl
  | some x =>
    rw [Option.map_some, Option.filter_some, Option.filter_some, h]
    split <;> rfl

theorem filter_map_self {α β : Type} {o : Option α} {f : α → β} {q : β → Bool}
    (h : ∀ x, q (f x) = true) : (o.map f).filter q = o.map f := by
  cases o with
  | none => rfl
  | some x => rw [Option.map_some, Option.filter_some, h, if_pos rfl]

theorem filter_map_none {α β : Type} {o : Option α} {f : α → β} {q : β → Bool}
    (h : ∀ x, q (f x) = false) : (o.map f).filter q = none := by
  cases o with
  | none => rfl
  | some x => rw [Option.map_some, Option.filter_some, h, if_neg Bool.false_ne_true]

section Floats

variable {fuel depth : Nat} {s : Str}

theorem value_filtered
    (helements : ∀ depth s, elements true fuel depth s =
      (elements false fuel depth s).filter fun p => inRangeElements p.1)
    (hmembers : ∀ depth s, members true fuel depth s =
      (members false fuel depth s).filter fun p => inRangeMembers p.1) :
    value true (fuel + 1) depth s =
      (value false (fuel + 1) depth s).filter fun p => inRange p.1 := by
  rw [value, value]
  split
  next rest hs =>
    split
    · rfl
    split
    · rfl
    · rw [hmembers (depth - 1) rest]
      exact filter_map_eq fun _ => rfl
  next rest hs =>
    split
    · rfl
    split
    · rfl
    · rw [helements (depth - 1) rest]
      exact filter_map_eq fun _ => rfl
  iterate 4 next => exact (filter_map_self fun _ => rfl).symm
  · -- a number
    cases hnumber : number (skipSpace s) with
    | none => rfl
    | some p =>
      obtain ⟨text, rest⟩ := p
      dsimp only
      rw [Bool.true_and, Bool.false_and, if_neg Bool.false_ne_true, Option.filter_some, inRange]
      cases floatOverflows text <;> rfl

theorem elements_filtered
    (hvalue : value true fuel depth s = (value false fuel depth s).filter fun p => inRange p.1)
    (helements : ∀ s, elements true fuel depth s =
      (elements false fuel depth s).filter fun p => inRangeElements p.1) :
    elements true (fuel + 1) depth s =
      (elements false (fuel + 1) depth s).filter fun p => inRangeElements p.1 := by
  rw [elements, elements, hvalue]
  cases hx : value false fuel depth s with
  | none => rfl
  | some p =>
    obtain ⟨x, rest⟩ := p
    rw [Option.filter_some]
    dsimp only
    cases hrange : inRange x with
    | false =>
      rw [if_neg Bool.false_ne_true]
      dsimp only
      split
      · exact (filter_map_none fun p => by rw [inRangeElements, hrange, Bool.false_and]).symm
      · rw [Option.filter_some, inRangeElements, hrange]
        rfl
      · rfl
    | true =>
      rw [if_pos rfl]
      dsimp only
      split
      next rest' hcomma =>
        rw [helements rest']
        exact filter_map_eq fun p => by rw [inRangeElements, hrange, Bool.true_and]
      · rw [Option.filter_some, inRangeElements, hrange]
        rfl
      · rfl

theorem members_filtered
    (hvalue : ∀ s, value true fuel depth s =
      (value false fuel depth s).filter fun p => inRange p.1)
    (hmembers : ∀ s, members true fuel depth s =
      (members false fuel depth s).filter fun p => inRangeMembers p.1) :
    members true (fuel + 1) depth s =
      (members false (fuel + 1) depth s).filter fun p => inRangeMembers p.1 := by
  rw [members, members]
  split
  next tail hs =>
    cases hkey : quoted tail with
    | none => rfl
    | some p =>
      obtain ⟨key, tail₁⟩ := p
      dsimp only
      split
      next tail₂ hcolon =>
        rw [hvalue tail₂]
        cases hx : value false fuel depth tail₂ with
        | none => rfl
        | some p =>
          obtain ⟨x, rest⟩ := p
          rw [Option.filter_some]
          dsimp only
          cases hrange : inRange x with
          | false =>
            rw [if_neg Bool.false_ne_true]
            dsimp only
            split
            · exact (filter_map_none fun p => by rw [inRangeMembers, hrange, Bool.false_and]).symm
            · rw [Option.filter_some, inRangeMembers, hrange]
              rfl
            · rfl
          | true =>
            rw [if_pos rfl]
            dsimp only
            split
            next rest' hcomma =>
              rw [hmembers rest']
              exact filter_map_eq fun p => by rw [inRangeMembers, hrange, Bool.true_and]
            · rw [Option.filter_some, inRangeMembers, hrange]
              rfl
            · rfl
      · rfl
  · rfl

end Floats

/-- A reading with `float64` numbers. -/
theorem floats_agree (fuel : Nat) : ∀ depth s,
    value true fuel depth s = (value false fuel depth s).filter (fun p => inRange p.1) ∧
    elements true fuel depth s =
      (elements false fuel depth s).filter (fun p => inRangeElements p.1) ∧
    members true fuel depth s =
      (members false fuel depth s).filter (fun p => inRangeMembers p.1) := by
  induction fuel with
  | zero => exact fun _ _ => ⟨rfl, rfl, rfl⟩
  | succ fuel ih =>
    intro depth s
    exact ⟨value_filtered (fun depth s => (ih depth s).2.1) (fun depth s => (ih depth s).2.2),
      elements_filtered (ih depth s).1 (fun s => (ih depth s).2.1),
      members_filtered (fun s => (ih depth s).1) (fun s => (ih depth s).2.2)⟩

theorem value_floats (fuel depth : Nat) (s : Str) :
    value true fuel depth s = (value false fuel depth s).filter fun p => inRange p.1 :=
  (floats_agree fuel depth s).1

/-- What starts with a brace or a bracket is a container. -/
theorem value_container {floats : Bool} {fuel depth : Nat} {s t rest : Str} {b : UInt8} {x : Json}
    (hs : skipSpace s = b :: t) (hb : b = 123 ∨ b = 91)
    (h : value floats fuel depth s = some (x, rest)) :
    (∃ xs, x = .arr xs) ∨ ∃ fs, x = .obj fs := by
  cases fuel with
  | zero => contradiction
  | succ fuel =>
    rw [value] at h
    rcases hb with rfl | rfl <;> simp only [hs] at h
    · split at h
      · contradiction
      split at h
      · exact Or.inr ⟨[], (Prod.mk.inj (Option.some.inj h)).1.symm⟩
      · obtain ⟨⟨fs, r⟩, -, heq⟩ := Option.map_eq_some_iff.mp h
        exact Or.inr ⟨fs, (Prod.mk.inj heq).1.symm⟩
    · split at h
      · contradiction
      split at h
      · exact Or.inl ⟨[], (Prod.mk.inj (Option.some.inj h)).1.symm⟩
      · obtain ⟨⟨xs, r⟩, -, heq⟩ := Option.map_eq_some_iff.mp h
        exact Or.inl ⟨xs, (Prod.mk.inj heq).1.symm⟩

/-- An object starts with a brace. -/
theorem value_obj {floats : Bool} {fuel depth : Nat} {s rest : Str} {fs : List (Str × Json)}
    (h : value floats fuel depth s = some (.obj fs, rest)) : ∃ t, skipSpace s = 123 :: t := by
  cases fuel with
  | zero => contradiction
  | succ fuel =>
    rw [value] at h
    split at h
    next t hs => exact ⟨t, hs⟩
    next t hs =>
      split at h
      · contradiction
      split at h
      · cases h
      · obtain ⟨p, -, heq⟩ := Option.map_eq_some_iff.mp h
        cases heq
    iterate 4
      next =>
        obtain ⟨p, -, heq⟩ := Option.map_eq_some_iff.mp h
        cases heq
    next =>
      split at h
      · split at h
        · contradiction
        · cases h
      · contradiction

end GoJson
