import Lune.Lib.GoFloat
import Lune.Lib.JsonText

/-!
# JSON as Go writes it

`encode` is `json.Marshal`, on a value whose numbers have their text already.
What is encoded is read back: the same value, but for the bytes in its strings
that are no UTF-8, which `json.Marshal` replaces (`unmarshal_encode`).  A value
that is cut short is not read back: `value_append` says that a parser which is
done does not look at what follows, and so no array text starts with another one
(`unmarshal_cut`).
-/

namespace GoJson

open GoText

/-! ## What follows a value -/

/-- The text cannot go on a number: it is empty or starts with another byte. -/
def Stops (s : Str) : Prop :=
  ∀ b, s.head? = some b → isDigit b = false ∧ b ≠ 46 ∧ b ≠ 101 ∧ b ≠ 69

theorem stops_nil : Stops [] := by
  intro b hb
  cases hb

theorem stops_cons {b : UInt8} (h : isDigit b = false ∧ b ≠ 46 ∧ b ≠ 101 ∧ b ≠ 69) (s : Str) :
    Stops (b :: s) := by
  intro c hc
  obtain rfl := Option.some.inj hc
  exact h

/-- What follows `rest` when `q` is added to the text: a number ends where `rest`
starts. -/
def Ends (rest q : Str) : Prop := rest = [] → Stops q

theorem Ends.of_ne_nil {rest : Str} (h : rest ≠ []) (q : Str) : Ends rest q :=
  fun hnil => absurd hnil h

section Append

variable {s rest q text : Str}

theorem takeWhile_append_digits (hq : Ends (s.dropWhile isDigit) q) :
    (s ++ q).takeWhile isDigit = s.takeWhile isDigit ∧
      (s ++ q).dropWhile isDigit = s.dropWhile isDigit ++ q := by
  induction s with
  | nil =>
    have hstop := hq rfl
    cases q with
    | nil => exact ⟨rfl, rfl⟩
    | cons b q =>
      have hb := (hstop b rfl).1
      simp [hb]
  | cons b s ih =>
    by_cases hb : isDigit b = true
    · rw [List.dropWhile_cons_of_pos hb] at hq ⊢
      obtain ⟨htake, hdrop⟩ := ih hq
      rw [List.cons_append, List.takeWhile_cons_of_pos hb, List.takeWhile_cons_of_pos hb,
        List.dropWhile_cons_of_pos hb, htake, hdrop]
      exact ⟨rfl, rfl⟩
    · simp [hb]

theorem digitRun_append {ds : Str} (h : digitRun s = some (ds, rest)) (hq : Ends rest q) :
    digitRun (s ++ q) = some (ds, rest ++ q) := by
  unfold digitRun at h
  split at h
  · contradiction
  next hne =>
    obtain ⟨rfl, rfl⟩ := Prod.mk.inj (Option.some.inj h)
    obtain ⟨htake, hdrop⟩ := takeWhile_append_digits hq
    rw [digitRun, htake, hdrop, if_neg hne]

theorem integerPart_append {ds : Str} (h : integerPart s = some (ds, rest)) (hq : Ends rest q) :
    integerPart (s ++ q) = some (ds, rest ++ q) := by
  unfold integerPart at h
  split at h
  · obtain ⟨rfl, rfl⟩ := Prod.mk.inj (Option.some.inj h)
    rfl
  next hzero =>
    have hrun := digitRun_append h hq
    unfold integerPart
    split
    next rest' heq =>
      cases s with
      | nil => simp [digitRun] at h
      | cons b s =>
        obtain ⟨rfl, -⟩ := List.cons.inj heq
        exact (hzero s rfl).elim
    next => exact hrun

theorem fractionPart_append {ds : Str} (h : fractionPart s = some (ds, rest)) (hq : Ends rest q) :
    fractionPart (s ++ q) = some (ds, rest ++ q) := by
  unfold fractionPart at h
  split at h
  next rest' =>
    obtain ⟨⟨ds', rest''⟩, hrun, heq⟩ := Option.map_eq_some_iff.mp h
    obtain ⟨rfl, rfl⟩ := Prod.mk.inj heq
    rw [List.cons_append, fractionPart, digitRun_append hrun hq]
    rfl
  next hpoint =>
    obtain ⟨rfl, rfl⟩ := Prod.mk.inj (Option.some.inj h)
    unfold fractionPart
    split
    next rest' heq =>
      cases s with
      | nil => exact absurd rfl (hq rfl 46 (by rw [List.nil_append] at heq; rw [heq]; rfl)).2.1
      | cons b s =>
        obtain ⟨rfl, -⟩ := List.cons.inj heq
        exact (hpoint s rfl).elim
    next => rfl

theorem exponentPart_append {ds : Str} (h : exponentPart s = some (ds, rest)) (hq : Ends rest q) :
    exponentPart (s ++ q) = some (ds, rest ++ q) := by
  cases s with
  | nil =>
    obtain ⟨rfl, rfl⟩ := Prod.mk.inj (Option.some.inj h)
    cases q with
    | nil => rfl
    | cons b q =>
      obtain ⟨-, -, he, hE⟩ := hq rfl b rfl
      simp [exponentPart, he, hE]
  | cons b s =>
    by_cases hb : b = 101 ∨ b = 69
    · -- the digits come after a sign or at once
      have hsigned : ∀ (sign : Str) {t : Str},
          (digitRun t).map (fun run => (b :: (sign ++ run.1), run.2)) = some (ds, rest) →
          (digitRun (t ++ q)).map (fun run => (b :: (sign ++ run.1), run.2)) =
            some (ds, rest ++ q) := by
        intro sign t ht
        obtain ⟨⟨ds', rest'⟩, hrun, heq⟩ := Option.map_eq_some_iff.mp ht
        obtain ⟨rfl, rfl⟩ := Prod.mk.inj heq
        rw [digitRun_append hrun hq]
        rfl
      rw [List.cons_append]
      simp only [exponentPart, if_pos hb] at h ⊢
      split at h
      next t => exact hsigned [43] h
      next t => exact hsigned [45] h
      next hplus hminus =>
        cases s with
        | nil => simp [digitRun] at h
        | cons c s =>
          rw [List.cons_append]
          split
          next t heq =>
            obtain ⟨rfl, -⟩ := List.cons.inj heq
            exact (hplus s rfl).elim
          next t heq =>
            obtain ⟨rfl, -⟩ := List.cons.inj heq
            exact (hminus s rfl).elim
          next => exact hsigned [] h
    · rw [List.cons_append]
      simp only [exponentPart, if_neg hb] at h ⊢
      obtain ⟨rfl, rfl⟩ := Prod.mk.inj (Option.some.inj h)
      rfl

theorem unsigned_append (h : unsigned s = some (text, rest)) (hq : Ends rest q) :
    unsigned (s ++ q) = some (text, rest ++ q) := by
  unfold unsigned at h ⊢
  simp only [Option.bind_eq_bind, Option.bind_eq_some_iff, Prod.exists] at h
  obtain ⟨int, s₁, hint, frac, s₂, hfrac, exp, s₃, hexp, heq⟩ := h
  obtain ⟨rfl, rfl⟩ := Prod.mk.inj (Option.some.inj heq)
  -- a part that takes the rest of the text leaves nothing to the parts after it
  have hfracRest : Ends s₂ q := by
    rintro rfl
    have hnil : exp = [] ∧ s₃ = [] := by simpa [exponentPart] using hexp.symm
    exact hq hnil.2
  have hintRest : Ends s₁ q := by
    rintro rfl
    have hnil : frac = [] ∧ s₂ = [] := by simpa [fractionPart] using hfrac.symm
    exact hfracRest hnil.2
  rw [integerPart_append hint hintRest]
  simp [fractionPart_append hfrac hfracRest, exponentPart_append hexp hq]

/-- A number ends where it ended, when what follows cannot go on with it. -/
theorem number_append (h : number s = some (text, rest)) (hq : Ends rest q) :
    number (s ++ q) = some (text, rest ++ q) := by
  unfold number at h
  split at h
  next t =>
    obtain ⟨⟨text', rest'⟩, hrun, heq⟩ := Option.map_eq_some_iff.mp h
    obtain ⟨rfl, rfl⟩ := Prod.mk.inj heq
    rw [List.cons_append, number, unsigned_append hrun hq]
    rfl
  next hminus =>
    have hrun := unsigned_append h hq
    unfold number
    split
    next t heq =>
      cases s with
      | nil => simp [unsigned, integerPart, digitRun] at h
      | cons b s =>
        obtain ⟨rfl, -⟩ := List.cons.inj heq
        exact (hminus s rfl).elim
    next => exact hrun

theorem word_append {w : Str} (h : word w s = some rest) : word w (s ++ q) = some (rest ++ q) := by
  unfold word at h
  split at h
  next hword =>
    obtain rfl := Option.some.inj h
    rw [hasPrefix, List.isPrefixOf_iff_prefix] at hword
    obtain ⟨t, rfl⟩ := hword
    rw [word, List.append_assoc, hasPrefix, List.isPrefixOf_iff_prefix.mpr (List.prefix_append _ _)]
    simp
  next => contradiction

theorem quoted_append (h : quoted s = some (text, rest)) :
    quoted (s ++ q) = some (text, rest ++ q) := by
  fun_induction quoted s generalizing text with
  | case1 => contradiction
  | case2 s =>
    obtain ⟨rfl, rfl⟩ := Prod.mk.inj (Option.some.inj h)
    rfl
  | case3 a b c d s hhex ih =>
    obtain ⟨⟨text', rest'⟩, hrun, heq⟩ := Option.map_eq_some_iff.mp h
    obtain ⟨rfl, rfl⟩ := Prod.mk.inj heq
    simp only [List.cons_append, quoted, if_pos hhex, ih hrun, Option.map_some]
  | case5 c s hu hletter ih =>
    obtain ⟨⟨text', rest'⟩, hrun, heq⟩ := Option.map_eq_some_iff.mp h
    obtain ⟨rfl, rfl⟩ := Prod.mk.inj heq
    have hc : c ≠ 117 := by
      rintro rfl
      contradiction
    rw [List.cons_append, List.cons_append, quoted, if_pos hletter, ih hrun]
    · rfl
    · intro a b c' d rest' hu'
      exact absurd hu' hc
  | case8 b s hquote hu hbs hb ih =>
    obtain ⟨⟨text', rest'⟩, hrun, heq⟩ := Option.map_eq_some_iff.mp h
    obtain ⟨rfl, rfl⟩ := Prod.mk.inj heq
    have hne : b ≠ 92 := by
      rintro rfl
      exact hb rfl
    rw [List.cons_append, quoted, if_neg hb, ih hrun]
    · rfl
    · exact hquote
    · intro a b' c d rest' heq
      exact absurd heq hne
    · intro c rest' heq
      exact absurd heq hne
  | case4 | case6 | case7 => contradiction

theorem skipSpace_append {b : UInt8} (h : skipSpace s = b :: rest) (q : Str) :
    skipSpace (s ++ q) = b :: (rest ++ q) := by
  rw [skipSpace, List.dropWhile_append]
  have hne : (s.dropWhile isSpace).isEmpty = false := by
    show (skipSpace s).isEmpty = false
    rw [h]
    rfl
  rw [if_neg (by simp [hne])]
  show skipSpace s ++ q = _
  rw [h]
  rfl

end Append

/-! ## A parser that is done -/

/-- With more text behind it, a parser reads the same and leaves that text as well. -/
def Extends {α : Type} (q : Str) (parse : Str → Option (α × Str)) : Prop :=
  ∀ s x rest, parse s = some (x, rest) → parse (s ++ q) = some (x, rest ++ q)

/-- The same for values: a number must be at its end. -/
def ValueExtends (q : Str) (parse : Str → Option (Json × Str)) : Prop :=
  ∀ s v rest, parse s = some (v, rest) → ((∃ text, v = .num text) → Ends rest q) →
    parse (s ++ q) = some (v, rest ++ q)

theorem Extends.map {α β : Type} {q : Str} {parse : Str → Option (α × Str)} (h : Extends q parse)
    (f : α → β) : Extends q fun s => (parse s).map fun (x, rest) => (f x, rest) := by
  intro s y rest hs
  obtain ⟨⟨x, rest'⟩, hrun, heq⟩ := Option.map_eq_some_iff.mp hs
  obtain ⟨rfl, rfl⟩ := Prod.mk.inj heq
  simp only [h s x rest' hrun, Option.map_some]

theorem word_map_append {w s rest q : Str} {v x : Json}
    (h : (word w s).map (fun rest => (v, rest)) = some (x, rest)) :
    (word w (s ++ q)).map (fun rest => (v, rest)) = some (x, rest ++ q) := by
  obtain ⟨rest', hword, heq⟩ := Option.map_eq_some_iff.mp h
  obtain ⟨rfl, rfl⟩ := Prod.mk.inj heq
  rw [word_append hword]
  rfl

theorem extends_value {floats : Bool} {fuel : Nat} {q : Str}
    (helements : ∀ depth, Extends q (elements floats fuel depth))
    (hmembers : ∀ depth, Extends q (members floats fuel depth)) (depth : Nat) :
    ValueExtends q (value floats (fuel + 1) depth) := by
  intro s v rest h hq
  rw [value] at h
  split at h
  next t hs =>
    rw [value, skipSpace_append hs]
    split at h
    · contradiction
    next hdepth =>
      simp only [if_neg hdepth]
      split at h
      next t' ht =>
        obtain ⟨rfl, rfl⟩ := Prod.mk.inj (Option.some.inj h)
        rw [skipSpace_append ht]
        rfl
      next hbrace =>
        have hrun := (hmembers (depth - 1)).map Json.obj t v rest h
        split
        next t' ht =>
          -- the fields do not start with a brace
          cases hs' : skipSpace t with
          | nil =>
            cases fuel with
            | zero => simp [members] at h
            | succ fuel => simp [members, hs'] at h
          | cons b u =>
            rw [skipSpace_append hs'] at ht
            obtain ⟨rfl, -⟩ := List.cons.inj ht
            exact (hbrace u hs').elim
        next => exact hrun
  next t hs =>
    rw [value, skipSpace_append hs]
    split at h
    · contradiction
    next hdepth =>
      simp only [if_neg hdepth]
      split at h
      next t' ht =>
        obtain ⟨rfl, rfl⟩ := Prod.mk.inj (Option.some.inj h)
        rw [skipSpace_append ht]
        rfl
      next hbracket =>
        have hrun := (helements (depth - 1)).map Json.arr t v rest h
        split
        next t' ht =>
          cases hs' : skipSpace t with
          | nil =>
            cases fuel with
            | zero => simp [elements] at h
            | succ fuel =>
              cases fuel with
              | zero => simp [elements, value] at h
              | succ fuel => simp [elements, value, hs', number, unsigned, integerPart, digitRun] at h
          | cons b u =>
            rw [skipSpace_append hs'] at ht
            obtain ⟨rfl, -⟩ := List.cons.inj ht
            exact (hbracket u hs').elim
        next => exact hrun
  next t hs =>
    rw [value, skipSpace_append hs]
    exact Extends.map (fun s text rest h => quoted_append h) (fun text => .str (unquote 0 text))
      t v rest h
  iterate 3
    next t hs =>
      rw [value, skipSpace_append hs]
      exact word_map_append h
  next hobj harr hstr htrue hfalse hnull =>
    split at h
    next text rest' hnum =>
      split at h
      · contradiction
      next hfloat =>
        obtain ⟨rfl, rfl⟩ := Prod.mk.inj (Option.some.inj h)
        have hrun := number_append hnum (hq ⟨text, rfl⟩)
        cases hs : skipSpace s with
        | nil => simp [hs, number, unsigned, integerPart, digitRun] at hnum
        | cons b t =>
          rw [value, skipSpace_append hs]
          rw [hs] at hrun
          split
          next heq => exact (hobj t ((List.cons.inj heq).1 ▸ hs)).elim
          next heq => exact (harr t ((List.cons.inj heq).1 ▸ hs)).elim
          next heq => exact (hstr t ((List.cons.inj heq).1 ▸ hs)).elim
          next heq => exact (htrue t ((List.cons.inj heq).1 ▸ hs)).elim
          next heq => exact (hfalse t ((List.cons.inj heq).1 ▸ hs)).elim
          next heq => exact (hnull t ((List.cons.inj heq).1 ▸ hs)).elim
          next =>
            rw [← List.cons_append, hrun]
            simp only [if_neg hfloat]
    · contradiction

theorem extends_elements {floats : Bool} {fuel : Nat} {q : Str}
    (hvalue : ∀ depth, ValueExtends q (value floats fuel depth))
    (helements : ∀ depth, Extends q (elements floats fuel depth)) (depth : Nat) :
    Extends q (elements floats (fuel + 1) depth) := by
  intro s xs rest h
  rw [elements] at h ⊢
  split at h
  · contradiction
  next x t hx =>
    -- a comma or a bracket follows, so the value is at its end
    have hne : ∀ b u, skipSpace t = b :: u → Ends t q := by
      rintro b u hu
      refine Ends.of_ne_nil ?_ q
      rintro rfl
      contradiction
    split at h
    next t' hcomma =>
      rw [hvalue depth s x t hx fun _ => hne _ _ hcomma]
      simp only [skipSpace_append hcomma]
      exact (helements depth).map (x :: ·) t' xs rest h
    next t' hbracket =>
      obtain ⟨rfl, rfl⟩ := Prod.mk.inj (Option.some.inj h)
      rw [hvalue depth s x t hx fun _ => hne _ _ hbracket]
      simp only [skipSpace_append hbracket]
    · contradiction

theorem extends_members {floats : Bool} {fuel : Nat} {q : Str}
    (hvalue : ∀ depth, ValueExtends q (value floats fuel depth))
    (hmembers : ∀ depth, Extends q (members floats fuel depth)) (depth : Nat) :
    Extends q (members floats (fuel + 1) depth) := by
  intro s fs rest h
  rw [members] at h ⊢
  split at h
  next t hs =>
    rw [skipSpace_append hs]
    split at h
    · contradiction
    next key t₁ hkey =>
      simp only [quoted_append hkey]
      split at h
      next t₂ hcolon =>
        simp only [skipSpace_append hcolon]
        split at h
        · contradiction
        next x t₃ hx =>
          have hne : ∀ b u, skipSpace t₃ = b :: u → Ends t₃ q := by
            rintro b u hu
            refine Ends.of_ne_nil ?_ q
            rintro rfl
            contradiction
          split at h
          next t₄ hcomma =>
            rw [hvalue depth t₂ x t₃ hx fun _ => hne _ _ hcomma]
            simp only [skipSpace_append hcomma]
            exact (hmembers depth).map ((unquote 0 key, x) :: ·) t₄ fs rest h
          next t₄ hbrace =>
            obtain ⟨rfl, rfl⟩ := Prod.mk.inj (Option.some.inj h)
            rw [hvalue depth t₂ x t₃ hx fun _ => hne _ _ hbrace]
            simp only [skipSpace_append hbrace]
          · contradiction
      · contradiction
  · contradiction

theorem extends_all (floats : Bool) (q : Str) (fuel : Nat) :
    (∀ depth, ValueExtends q (value floats fuel depth)) ∧
      (∀ depth, Extends q (elements floats fuel depth)) ∧
      (∀ depth, Extends q (members floats fuel depth)) := by
  induction fuel with
  | zero =>
    refine ⟨?_, ?_, ?_⟩ <;>
    · intro depth s x rest h
      contradiction
  | succ fuel ih =>
    obtain ⟨hvalue, helements, hmembers⟩ := ih
    exact ⟨extends_value helements hmembers, extends_elements hvalue helements,
      extends_members hvalue hmembers⟩

/-- What follows a value that is at its end is not looked at. -/
theorem value_append {floats : Bool} {fuel depth : Nat} {s rest q : Str} {v : Json}
    (h : value floats fuel depth s = some (v, rest))
    (hq : (∃ text, v = .num text) → Ends rest q) :
    value floats fuel depth (s ++ q) = some (v, rest ++ q) :=
  (extends_all floats q fuel).1 depth s v rest h hq

theorem skipSpace_append_ne_nil {q : Str} (hq : skipSpace q ≠ []) (s : Str) :
    skipSpace (s ++ q) ≠ [] := by
  intro hnil
  refine hq (List.dropWhile_eq_nil_iff.mpr fun b hb => ?_)
  exact List.dropWhile_eq_nil_iff.mp hnil b (List.mem_append_right s hb)

/-- What starts with a bracket is an array. -/
theorem value_bracket {floats : Bool} {fuel depth : Nat} {s rest : Str} {v : Json}
    (h : value floats fuel depth (91 :: s) = some (v, rest)) : ∃ xs, v = .arr xs := by
  have hs : skipSpace (91 :: s) = 91 :: s := rfl
  cases fuel with
  | zero => contradiction
  | succ fuel =>
    rw [value, hs] at h
    split at h
    next heq => cases heq
    next t heq =>
      split at h
      · contradiction
      split at h
      · exact ⟨[], (Prod.mk.inj (Option.some.inj h)).1.symm⟩
      · obtain ⟨⟨xs, rest'⟩, -, heq⟩ := Option.map_eq_some_iff.mp h
        exact ⟨xs, (Prod.mk.inj heq).1.symm⟩
    iterate 4 next heq => cases heq
    next harr _ _ _ _ => exact (harr s rfl).elim

/-- An array text is not read when its end is missing. -/
theorem unmarshal_cut {floats : Bool} {s q : Str} {v : Json}
    (h : unmarshal floats (91 :: s ++ q) = some v) (hq : skipSpace q ≠ []) :
    unmarshal floats (91 :: s) = none := by
  unfold unmarshal at h ⊢
  cases hcut : value floats (enough (91 :: s)) maxNestingDepth (91 :: s) with
  | none => rfl
  | some p =>
    obtain ⟨v', rest⟩ := p
    have hfuel : enough (91 :: s) ≤ enough (91 :: s ++ q) := by
      rw [enough, enough, List.length_append]
      omega
    rw [← value_enough floats maxNestingDepth hfuel] at hcut
    obtain ⟨xs, rfl⟩ := value_bracket hcut
    have hwhole := value_append (q := q) hcut (by rintro ⟨text, heq⟩; cases heq)
    rw [hwhole] at h
    dsimp only at h
    rw [if_neg (skipSpace_append_ne_nil hq rest)] at h
    contradiction

/-! ## Writing a value -/

mutual

/-- `json.Marshal`. -/
def encode : Json → Str
  | .null => lit "null"
  | .bool true => lit "true"
  | .bool false => lit "false"
  | .num text => text
  | .str s => quote s
  | .arr xs => 91 :: encodeElements xs
  | .obj fs => 123 :: encodeMembers fs

/-- The elements of an array and its bracket. -/
def encodeElements : List Json → Str
  | [] => [93]
  | [x] => encode x ++ [93]
  | x :: y :: xs => encode x ++ 44 :: encodeElements (y :: xs)

/-- The fields of an object and its brace. -/
def encodeMembers : List (Str × Json) → Str
  | [] => [125]
  | [(key, x)] => quote key ++ 58 :: (encode x ++ [125])
  | (key, x) :: f :: fs => quote key ++ 58 :: (encode x ++ 44 :: encodeMembers (f :: fs))

end

/-- An array ends with its bracket. -/
theorem getLast?_encodeElements (xs : List Json) : (encodeElements xs).getLast? = some 93 := by
  induction xs with
  | nil => rfl
  | cons x xs ih =>
    cases xs with
    | nil => simp [encodeElements]
    | cons y xs =>
      rw [encodeElements, List.getLast?_append, List.getLast?_cons, ih]
      rfl

mutual

/-- The value with its strings as UTF-8. -/
def valid : Json → Json
  | .null => .null
  | .bool b => .bool b
  | .num text => .num text
  | .str s => .str (toValid 0 s)
  | .arr xs => .arr (validElements xs)
  | .obj fs => .obj (validMembers fs)

def validElements : List Json → List Json
  | [] => []
  | x :: xs => valid x :: validElements xs

def validMembers : List (Str × Json) → List (Str × Json)
  | [] => []
  | (key, x) :: fs => (toValid 0 key, valid x) :: validMembers fs

end

theorem validElements_eq_self {xs : List Json} (h : ∀ x ∈ xs, valid x = x) :
    validElements xs = xs := by
  induction xs with
  | nil => rfl
  | cons x xs ih =>
    rw [validElements, h x List.mem_cons_self, ih fun y hy => h y (List.mem_cons_of_mem x hy)]

theorem validMembers_eq_self {fs : List (Str × Json)}
    (h : ∀ f ∈ fs, toValid 0 f.1 = f.1 ∧ valid f.2 = f.2) : validMembers fs = fs := by
  induction fs with
  | nil => rfl
  | cons f fs ih =>
    obtain ⟨hkey, hx⟩ := h f List.mem_cons_self
    rw [validMembers, hkey, hx, ih fun g hg => h g (List.mem_cons_of_mem f hg)]

mutual

/-- Every number is one, and there are at most so many containers in each other. -/
def fits : Json → Nat → Prop
  | .num text, _ => number text = some (text, [])
  | .arr xs, depth => 0 < depth ∧ fitsElements xs (depth - 1)
  | .obj fs, depth => 0 < depth ∧ fitsMembers fs (depth - 1)
  | .null, _ | .bool _, _ | .str _, _ => True

def fitsElements : List Json → Nat → Prop
  | [], _ => True
  | x :: xs, depth => fits x depth ∧ fitsElements xs depth

def fitsMembers : List (Str × Json) → Nat → Prop
  | [], _ => True
  | (_, x) :: fs, depth => fits x depth ∧ fitsMembers fs depth

end

example : encode (.arr [.obj [(lit "a", .num (lit "1")), (lit "b", .null)], .bool true]) =
    lit "[\x7b\"a\":1,\"b\":null\x7d,true]" := by decide

/-! ## Reading back what was written -/

/-- Text that may stand in a string: the scanner of a string passes over it. -/
def Quotable (t : Str) : Prop :=
  ∀ r text rest, quoted r = some (text, rest) → quoted (t ++ r) = some (t ++ text, rest)

theorem quotable_nil : Quotable [] := fun _ _ _ h => h

theorem Quotable.append {t u : Str} (ht : Quotable t) (hu : Quotable u) : Quotable (t ++ u) := by
  intro r text rest h
  rw [List.append_assoc, List.append_assoc]
  exact ht _ _ _ (hu r text rest h)

theorem quotable_plain {b : UInt8} (h : 32 ≤ b ∧ b ≠ 34 ∧ b ≠ 92) : Quotable [b] := by
  intro r text rest hr
  have hb : ¬ (decide (b < 32) || b == 92) = true := by
    rw [Bool.or_eq_true, decide_eq_true_eq, beq_iff_eq]
    rintro (hlow | hbs)
    · simp only [UInt8.lt_iff_toNat_lt, UInt8.le_iff_toNat_le] at hlow h
      omega
    · exact h.2.2 hbs
  rw [List.singleton_append, quoted, if_neg hb, hr]
  · rfl
  · exact h.2.1
  · exact fun _ _ _ _ _ heq => absurd heq h.2.2
  · exact fun _ _ heq => absurd heq h.2.2

theorem quotable_letter {c : UInt8} (h : [98, 102, 110, 114, 116, 92, 47, 34].contains c = true) :
    Quotable [92, c] := by
  intro r text rest hr
  have hc : c ≠ 117 := by
    rintro rfl
    contradiction
  show quoted (92 :: c :: r) = _
  rw [quoted, if_pos h, hr]
  · rfl
  · exact fun _ _ _ _ _ heq => absurd heq hc

theorem quotable_unicode {a b c d : UInt8} (h : (isHex a && isHex b && isHex c && isHex d) = true) :
    Quotable [92, 117, a, b, c, d] := by
  intro r text rest hr
  show quoted (92 :: 117 :: a :: b :: c :: d :: r) = _
  simp only [quoted, if_pos h, hr, Option.map_some]
  rfl

theorem quotable_hexByte {b : UInt8} (hb : b < 0x80) : Quotable (lit "\\u00" ++ hexByte b) := by
  have hall : ∀ n < 128, ∃ c d, hexByte (UInt8.ofNat n) = [c, d] ∧
      (isHex c && isHex d) = true := by
    intro n hn
    refine ⟨_, _, rfl, ?_⟩
    revert n
    decide +kernel
  obtain ⟨c, d, heq, hcd⟩ := hall b.toNat (UInt8.lt_iff_toNat_lt.mp hb)
  rw [UInt8.ofNat_toNat] at heq
  rw [heq]
  exact quotable_unicode (a := 48) (b := 48) hcd

theorem quotable_tail {b : UInt8} (h : isTail b = true) : Quotable [b] := by
  refine quotable_plain ?_
  simp only [isTail, Bool.and_eq_true, decide_eq_true_eq, UInt8.le_iff_toNat_le,
    UInt8.reduceToNat] at h
  refine ⟨?_, ?_, ?_⟩
  · rw [UInt8.le_iff_toNat_le]
    exact le_trans (by decide) h.1
  · rintro rfl
    exact absurd h.1 (by decide)
  · rintro rfl
    exact absurd h.1 (by decide)

/-- What `json.Marshal` writes between the quotes. -/
theorem quotable_escape (copy : Nat) (s : Str) (h : ∀ t ∈ s.take copy, isTail t = true) :
    Quotable (escape copy s) := by
  fun_induction escape copy s with
  | case1 => exact quotable_nil
  | case2 copy rest ih | case3 copy rest ih =>
    exact (quotable_unicode (by decide)).append (ih fun t ht => by simp at ht)
  | case4 b rest hsep hsep' copy ih =>
    have hb : isTail b = true := h b (by simp)
    exact (quotable_tail hb).append (ih fun t ht => h t (by simp [ht]))
  | case5 b rest hsep hsep' hquote ih =>
    have hrest := ih fun t ht => by simp at ht
    rcases hquote with rfl | rfl
    · exact (quotable_letter (c := 34) (by decide)).append hrest
    · exact (quotable_letter (c := 92) (by decide)).append hrest
  | case6 rest _ _ _ ih | case7 rest _ _ _ _ ih | case8 rest _ _ _ _ _ ih =>
    exact (quotable_letter (by decide)).append (ih fun t ht => by simp at ht)
  | case9 rest _ _ _ _ _ _ ih | case10 rest _ _ _ _ _ _ _ ih =>
    exact (quotable_letter (by decide)).append (ih fun t ht => by simp at ht)
  | case11 b rest hsep hsep' hquote h8 h12 h10 h13 h9 hhex ih =>
    have hb : b < 0x80 := by
      rcases hhex with hlow | rfl | rfl | rfl
      · exact UInt8.lt_trans hlow (by decide)
      all_goals decide
    exact (quotable_hexByte hb).append (ih fun t ht => by simp at ht)
  | case12 b rest hsep hsep' hquote h8 h12 h10 h13 h9 hhex hbad ih =>
    exact (quotable_unicode (by decide)).append (ih fun t ht => by simp at ht)
  | case13 b rest hsep hsep' hquote h8 h12 h10 h13 h9 hhex tail hrune ih =>
    obtain ⟨more, rest', rfl, hmore, rfl⟩ := exists_isRune hrune
    have hrest := ih fun t ht => hmore.tail t (by simpa using ht)
    have hb : 32 ≤ b ∧ b ≠ 34 ∧ b ≠ 92 := by
      refine ⟨?_, fun heq => hquote (Or.inl heq), fun heq => hquote (Or.inr heq)⟩
      exact UInt8.not_lt.mp fun hlow => hhex (Or.inl hlow)
    exact (quotable_plain hb).append hrest

/-- A string is read up to its quote. -/
theorem quoted_escape (s rest : Str) :
    quoted (escape 0 s ++ 34 :: rest) = some (escape 0 s, rest) := by
  have h := quotable_escape 0 s (fun t ht => by simp at ht) (34 :: rest) [] rest rfl
  rwa [List.append_nil] at h

/-- A number starts with its sign or a digit. -/
theorem number_head {s text rest : Str} (h : number s = some (text, rest)) :
    ∃ b t, s = b :: t ∧ (b = 45 ∨ isDigit b = true) := by
  cases s with
  | nil => simp [number, unsigned, integerPart, digitRun] at h
  | cons b s =>
    refine ⟨b, s, rfl, ?_⟩
    by_cases hb : isDigit b = true
    · exact Or.inr hb
    · left
      by_contra hne
      have hzero : b ≠ 48 := by
        rintro rfl
        exact hb rfl
      simp [number, unsigned, integerPart, digitRun, hne, hzero, hb] at h

theorem ne_of_isDigit {b c : UInt8} (hb : isDigit b = true) (hc : isDigit c = false) : b ≠ c := by
  rintro rfl
  rw [hb] at hc
  contradiction

/-- How a value starts. -/
theorem encode_head {j : Json} {depth : Nat} (h : fits j depth) :
    ∃ b t, encode j = b :: t ∧ isSpace b = false ∧ b ≠ 93 ∧ b ≠ 125 := by
  cases j with
  | null => exact ⟨110, _, rfl, by decide⟩
  | bool b => cases b <;> exact ⟨_, _, rfl, by decide⟩
  | num text =>
    obtain ⟨b, t, heq, hb⟩ := number_head h
    refine ⟨b, t, heq, ?_⟩
    rcases hb with rfl | hdigit
    · decide
    · refine ⟨?_, ne_of_isDigit hdigit rfl, ne_of_isDigit hdigit rfl⟩
      simp [isSpace, ne_of_isDigit (c := 32) hdigit rfl, ne_of_isDigit (c := 9) hdigit rfl,
        ne_of_isDigit (c := 10) hdigit rfl, ne_of_isDigit (c := 13) hdigit rfl]
  | str s => exact ⟨34, _, rfl, by decide⟩
  | arr xs => exact ⟨91, _, by rw [encode], by decide⟩
  | obj fs => exact ⟨123, _, by rw [encode], by decide⟩

theorem skipSpace_cons {b : UInt8} (h : isSpace b = false) (s : Str) :
    skipSpace (b :: s) = b :: s := by
  simp [skipSpace, h]

theorem value_number {fuel depth : Nat} {text : Str} (h : number text = some (text, [])) :
    value false (fuel + 1) depth text = some (.num text, []) := by
  have hfits : fits (.num text) 0 := h
  obtain ⟨b, t, heq, hspace, -⟩ := encode_head hfits
  obtain ⟨b', t', heq', hb⟩ := number_head h
  rw [encode] at heq
  obtain rfl : b = b' := by
    rw [heq] at heq'
    exact (List.cons.inj heq').1
  have hne : ∀ c : UInt8, isDigit c = false → c ≠ 45 → ∀ u, b :: t ≠ c :: u := by
    rintro c hc hsign u hcu
    obtain ⟨rfl, -⟩ := List.cons.inj hcu
    rcases hb with rfl | hdigit
    · exact hsign rfl
    · exact ne_of_isDigit hdigit hc rfl
  rw [value, heq, skipSpace_cons hspace]
  split
  iterate 6 next heq => exact absurd heq (hne _ rfl (by decide) _)
  next => simp [← heq, h]

/-- The parsers of all values that fit read back what was written. -/
structure ReadsBack (fuel : Nat) : Prop where
  value : ∀ j depth, fits j depth → enough (encode j) ≤ fuel →
    value false fuel depth (encode j) = some (valid j, [])
  elements : ∀ x xs depth, fitsElements (x :: xs) depth →
    enough (encodeElements (x :: xs)) < fuel →
    elements false fuel depth (encodeElements (x :: xs)) = some (validElements (x :: xs), [])
  members : ∀ f fs depth, fitsMembers (f :: fs) depth →
    enough (encodeMembers (f :: fs)) < fuel →
    members false fuel depth (encodeMembers (f :: fs)) = some (validMembers (f :: fs), [])

/-- A value in a container, with a comma or a bracket behind it. -/
theorem ReadsBack.value_then {fuel : Nat} (h : ReadsBack fuel) {j : Json} {depth : Nat}
    (hfits : fits j depth) (hfuel : enough (encode j) ≤ fuel) {b : UInt8}
    (hb : isDigit b = false ∧ b ≠ 46 ∧ b ≠ 101 ∧ b ≠ 69) (q : Str) :
    GoJson.value false fuel depth (encode j ++ b :: q) = some (valid j, b :: q) :=
  value_append (h.value j depth hfits hfuel) fun _ _ => stops_cons hb q

theorem readsBack_value {fuel : Nat} (h : ReadsBack fuel) (j : Json) (depth : Nat)
    (hfits : fits j depth) (hfuel : enough (encode j) ≤ fuel + 1) :
    value false (fuel + 1) depth (encode j) = some (valid j, []) := by
  cases j with
  | null => rfl
  | bool b => cases b <;> rfl
  | num text => exact value_number hfits
  | str s =>
    have hquoted := quoted_escape s []
    rw [encode, quote, value, skipSpace_cons rfl]
    simp only [hquoted, Option.map_some, unquote_escape, valid]
  | arr xs =>
    obtain ⟨hdepth, hxs⟩ := hfits
    rw [encode, value, skipSpace_cons rfl]
    simp only [if_neg (Nat.pos_iff_ne_zero.mp hdepth)]
    cases xs with
    | nil => rfl
    | cons x xs =>
      have helements := h.elements x xs (depth - 1) hxs (by
        simp only [encode, enough, List.length_cons] at hfuel ⊢
        omega)
      obtain ⟨b, t, hhead, hspace, hbracket, -⟩ := encode_head hxs.1
      have hstart : ∃ u, skipSpace (encodeElements (x :: xs)) = b :: u := by
        cases xs with
        | nil => exact ⟨_, by rw [encodeElements, hhead, List.cons_append, skipSpace_cons hspace]⟩
        | cons y xs =>
          exact ⟨_, by rw [encodeElements, hhead, List.cons_append, skipSpace_cons hspace]⟩
      obtain ⟨u, hstart⟩ := hstart
      rw [hstart]
      split
      next heq => exact absurd (List.cons.inj heq).1 hbracket
      next =>
        rw [helements]
        rfl
  | obj fs =>
    obtain ⟨hdepth, hfs⟩ := hfits
    rw [encode, value, skipSpace_cons rfl]
    simp only [if_neg (Nat.pos_iff_ne_zero.mp hdepth)]
    cases fs with
    | nil => rfl
    | cons f fs =>
      have hmembers := h.members f fs (depth - 1) hfs (by
        simp only [encode, enough, List.length_cons] at hfuel ⊢
        omega)
      have hstart : ∃ u, skipSpace (encodeMembers (f :: fs)) = 34 :: u := by
        cases fs with
        | nil => exact ⟨_, by rw [encodeMembers, quote, List.cons_append, skipSpace_cons rfl]⟩
        | cons g fs => exact ⟨_, by rw [encodeMembers, quote, List.cons_append, skipSpace_cons rfl]⟩
      obtain ⟨u, hstart⟩ := hstart
      simp only [hstart, hmembers]
      rfl

theorem readsBack_elements {fuel : Nat} (h : ReadsBack fuel) (x : Json) (xs : List Json)
    (depth : Nat) (hfits : fitsElements (x :: xs) depth)
    (hfuel : enough (encodeElements (x :: xs)) < fuel + 1) :
    elements false (fuel + 1) depth (encodeElements (x :: xs)) =
      some (validElements (x :: xs), []) := by
  cases xs with
  | nil =>
    have hx := h.value_then hfits.1 (by
      simp only [encodeElements, enough, List.length_append] at hfuel ⊢
      omega) (b := 93) (by decide) []
    rw [encodeElements, elements, hx]
    rfl
  | cons y xs =>
    have hx := h.value_then hfits.1 (by
      simp only [encodeElements, enough, List.length_append] at hfuel ⊢
      omega) (b := 44) (by decide) (encodeElements (y :: xs))
    have hrest := h.elements y xs depth hfits.2 (by
      simp only [encodeElements, enough, List.length_append, List.length_cons] at hfuel ⊢
      omega)
    rw [encodeElements, elements, hx]
    simp only [skipSpace_cons (b := 44) rfl, hrest]
    rfl

theorem readsBack_members {fuel : Nat} (h : ReadsBack fuel) (f : Str × Json)
    (fs : List (Str × Json)) (depth : Nat) (hfits : fitsMembers (f :: fs) depth)
    (hfuel : enough (encodeMembers (f :: fs)) < fuel + 1) :
    members false (fuel + 1) depth (encodeMembers (f :: fs)) =
      some (validMembers (f :: fs), []) := by
  obtain ⟨key, x⟩ := f
  cases fs with
  | nil =>
    have hx := h.value_then hfits.1 (by
      simp only [encodeMembers, enough, List.length_append, List.length_cons] at hfuel ⊢
      omega) (b := 125) (by decide) []
    have hkey := quoted_escape key (58 :: (encode x ++ [125]))
    rw [encodeMembers, quote, List.cons_append, List.append_assoc, List.singleton_append, members,
      skipSpace_cons rfl]
    simp only [hkey, skipSpace_cons (b := 58) rfl, hx, unquote_escape]
    rfl
  | cons g fs =>
    have hx := h.value_then hfits.1 (by
      simp only [encodeMembers, enough, List.length_append, List.length_cons] at hfuel ⊢
      omega) (b := 44) (by decide) (encodeMembers (g :: fs))
    have hkey := quoted_escape key (58 :: (encode x ++ 44 :: encodeMembers (g :: fs)))
    have hrest := h.members g fs depth hfits.2 (by
      simp only [encodeMembers, enough, List.length_append, List.length_cons] at hfuel ⊢
      omega)
    rw [encodeMembers, quote, List.cons_append, List.append_assoc, List.singleton_append, members,
      skipSpace_cons rfl]
    simp only [hkey, skipSpace_cons (b := 58) rfl, hx, skipSpace_cons (b := 44) rfl, hrest,
      unquote_escape]
    rfl

theorem readsBack (fuel : Nat) : ReadsBack fuel := by
  induction fuel with
  | zero => exact ⟨fun j depth _ h => by simp [enough] at h, fun x xs depth _ h => by simp at h,
      fun f fs depth _ h => by simp at h⟩
  | succ fuel ih => exact ⟨readsBack_value ih, readsBack_elements ih, readsBack_members ih⟩

/-- What was written is read back. -/
theorem unmarshal_encode {j : Json} (h : fits j maxNestingDepth) :
    unmarshal false (encode j) = some (valid j) := by
  have hvalue := (readsBack (enough (encode j))).value j maxNestingDepth h (le_refl _)
  rw [unmarshal, hvalue]
  rfl

end GoJson
