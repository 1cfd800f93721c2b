import Lune.Lib.JsonEncode

/-!
# Objects over several lines

`json.MarshalIndent` with two blanks, of an object whose values are each on one line.
-/

namespace GoJson

open GoText

/-- The fields of an object, one a line, and its brace. -/
def indentMembers : List (Str × Json) → Str
  | [] => [10, 125]
  | [(key, x)] => 32 :: 32 :: (quote key ++ 58 :: 32 :: (encode x ++ [10, 125]))
  | (key, x) :: f :: fs =>
    32 :: 32 :: (quote key ++ 58 :: 32 :: (encode x ++ 44 :: 10 :: indentMembers (f :: fs)))

/-- An object that has fields. -/
def encodeIndent (fs : List (Str × Json)) : Str := 123 :: 10 :: indentMembers fs

theorem skipSpace_blank {b : UInt8} (h : isSpace b = true) (s : Str) :
    skipSpace (b :: s) = skipSpace s := by
  rw [skipSpace, List.dropWhile_cons_of_pos h]
  rfl

theorem value_blank {floats : Bool} {fuel depth : Nat} {b : UInt8} (h : isSpace b = true) (s : Str) :
    value floats fuel depth (b :: s) = value floats fuel depth s := by
  cases fuel with
  | zero => rfl
  | succ fuel => rw [value, value, skipSpace_blank h]

theorem members_blank {floats : Bool} {fuel depth : Nat} {b : UInt8} (h : isSpace b = true)
    (s : Str) : members floats fuel depth (b :: s) = members floats fuel depth s := by
  cases fuel with
  | zero => rfl
  | succ fuel => rw [members, members, skipSpace_blank h]

/-- The fields are read back, whatever blanks stand between them. -/
theorem members_indent (f : Str × Json) (fs : List (Str × Json)) {fuel depth : Nat}
    (hfits : fitsMembers (f :: fs) depth) (hfuel : enough (indentMembers (f :: fs)) < fuel) :
    members false fuel depth (indentMembers (f :: fs)) = some (validMembers (f :: fs), []) := by
  induction fs generalizing f fuel with
  | nil =>
    obtain ⟨key, x⟩ := f
    cases fuel with
    | zero => simp at hfuel
    | succ fuel =>
      have hx := (readsBack fuel).value_then hfits.1 (by
        simp only [indentMembers, enough, List.length_append, List.length_cons] at hfuel ⊢
        omega) (b := 10) (by decide) [125]
      have hkey := quoted_escape key (58 :: 32 :: (encode x ++ [10, 125]))
      rw [indentMembers, quote, List.cons_append, List.append_assoc, List.singleton_append, members,
        skipSpace_blank rfl, skipSpace_blank rfl, skipSpace_cons rfl]
      simp only [hkey, skipSpace_cons (b := 58) rfl, value_blank (b := 32) rfl, hx,
        skipSpace_blank (b := 10) rfl, skipSpace_cons (b := 125) rfl, unquote_escape]
      rfl
  | cons g fs ih =>
    obtain ⟨key, x⟩ := f
    cases fuel with
    | zero => simp at hfuel
    | succ fuel =>
      have hx := (readsBack fuel).value_then hfits.1 (by
        simp only [indentMembers, enough, List.length_append, List.length_cons] at hfuel ⊢
        omega) (b := 44) (by decide) (10 :: indentMembers (g :: fs))
      have hkey := quoted_escape key (58 :: 32 :: (encode x ++ 44 :: 10 :: indentMembers (g :: fs)))
      have hrest : members false fuel depth (indentMembers (g :: fs)) =
          some (validMembers (g :: fs), []) :=
        ih g hfits.2 (by
          simp only [indentMembers, enough, List.length_append, List.length_cons] at hfuel ⊢
          omega)
      rw [indentMembers, quote, List.cons_append, List.append_assoc, List.singleton_append, members,
        skipSpace_blank rfl, skipSpace_blank rfl, skipSpace_cons rfl]
      simp only [hkey, skipSpace_cons (b := 58) rfl, value_blank (b := 32) rfl, hx,
        skipSpace_cons (b := 44) rfl, members_blank (b := 10) rfl, hrest, unquote_escape]
      rfl

/-- An object that was written over several lines is read back. -/
theorem unmarshal_encodeIndent {f : Str × Json} {fs : List (Str × Json)}
    (h : fitsMembers (f :: fs) (maxNestingDepth - 1)) :
    unmarshal false (encodeIndent (f :: fs)) = some (.obj (validMembers (f :: fs))) := by
  have hmembers : members false (2 * (123 :: 10 :: indentMembers (f :: fs)).length)
      (maxNestingDepth - 1) (indentMembers (f :: fs)) = some (validMembers (f :: fs), []) :=
    members_indent f fs h (by
      simp only [enough, List.length_cons]
      omega)
  have hdepth : maxNestingDepth ≠ 0 := by decide
  have hstart : ∃ u, skipSpace (10 :: indentMembers (f :: fs)) = 34 :: u := by
    cases fs with
    | nil =>
      exact ⟨_, by rw [indentMembers, quote, List.cons_append, skipSpace_blank rfl,
        skipSpace_blank rfl, skipSpace_blank rfl, skipSpace_cons rfl]⟩
    | cons g fs =>
      exact ⟨_, by rw [indentMembers, quote, List.cons_append, skipSpace_blank rfl,
        skipSpace_blank rfl, skipSpace_blank rfl, skipSpace_cons rfl]⟩
  obtain ⟨u, hstart⟩ := hstart
  have hvalue : value false (enough (encodeIndent (f :: fs))) maxNestingDepth
      (encodeIndent (f :: fs)) = some (.obj (validMembers (f :: fs)), []) := by
    rw [enough, encodeIndent, value, skipSpace_cons rfl]
    simp only [if_neg hdepth, hstart, members_blank (b := 10) rfl, hmembers]
    rfl
  rw [unmarshal, hvalue]
  rfl

end GoJson
