import Lune.Lib.LetterCase

/-!
# Valid text and its parts

Text in UTF-8 is a sequence of characters.  It may be cut where a character starts, and
only there; white space is characters, so that trimmed text is valid again.
-/

namespace GoJson

open GoText

/-! ## Valid text -/

/-- `utf8.ValidString`; the first `skip` bytes are the rest of a character. -/
def validFrom (skip : Nat) : Str → Bool
  | [] => true
  | b :: rest =>
    match skip with
    | skip + 1 => validFrom skip rest
    | 0 =>
      match runeTail b rest with
      | some tail => validFrom tail rest
      | none => false

/-- `utf8.ValidString`. -/
def validString (s : Str) : Bool := validFrom 0 s

@[simp] theorem validString_nil : validString [] = true := rfl

theorem validFrom_append (more rest : Str) :
    validFrom more.length (more ++ rest) = validString rest := by
  induction more with
  | nil => rfl
  | cons b more ih => exact ih

theorem validString_rune {b : UInt8} {more : Str} (h : IsRune b more) (rest : Str) :
    validString (b :: (more ++ rest)) = validString rest := by
  rw [validString, validFrom]
  simp only [h.found]
  exact validFrom_append more rest

theorem validString_bad {b : UInt8} {rest : Str} (h : runeTail b rest = none) :
    validString (b :: rest) = false := by
  rw [validString, validFrom]
  simp only [h]

/-- Valid text is built from characters. -/
theorem valid_induction {P : (s : Str) → validString s = true → Prop} (nil : P [] rfl)
    (rune : ∀ b more rest (hrune : IsRune b more) (hrest : validString rest = true), P rest hrest →
      P (b :: (more ++ rest)) ((validString_rune hrune rest).trans hrest))
    (s : Str) (hs : validString s = true) : P s hs := by
  induction s using runes_induction with
  | nil => exact nil
  | bad b rest hbad _ =>
    rw [validString_bad hbad] at hs
    contradiction
  | rune b more rest hrune ih =>
    have hrest : validString rest = true := (validString_rune hrune rest).symm.trans hs
    exact rune b more rest hrune hrest (ih hrest)

/-- What follows valid text decides whether the whole is valid. -/
theorem validString_append {s : Str} (hs : validString s = true) (t : Str) :
    validString (s ++ t) = validString t := by
  induction s, hs using valid_induction with
  | nil => rfl
  | rune b more rest hrune _ ih =>
    rw [List.cons_append, List.append_assoc, validString_rune hrune]
    exact ih

theorem validString_of_ascii {s : Str} (h : Ascii s) : validString s = true := by
  induction s with
  | nil => rfl
  | cons b s ih =>
    have hrune := validString_rune (isRune_of_lt (h b List.mem_cons_self)) s
    rw [List.nil_append] at hrune
    exact hrune.trans (ih fun c hc => h c (List.mem_cons_of_mem b hc))

/-! ## Where characters start -/

/-- A character starts at the byte with the number, or the text is over there. -/
def startsAt (s : Str) (k : Nat) : Bool := !(s[k]?).any isTail

/-- A character does not start with a byte that continues one. -/
theorem runeTail_of_isTail {b : UInt8} (h : isTail b = true) (rest : Str) :
    runeTail b rest = none := by
  simp only [isTail, Bool.and_eq_true, decide_eq_true_eq, UInt8.le_iff_toNat_le,
    UInt8.reduceToNat] at h
  have hascii : ¬ b < 0x80 := by
    simp only [UInt8.lt_iff_toNat_lt, UInt8.reduceToNat]
    omega
  have hbelow : ∀ lo hi : UInt8, 0xBF < lo → (decide (lo ≤ b) && decide (b ≤ hi)) = false := by
    intro lo hi hlo
    simp only [UInt8.lt_iff_toNat_lt, UInt8.reduceToNat] at hlo
    rw [Bool.and_eq_false_iff, decide_eq_false_iff_not, UInt8.le_iff_toNat_le]
    left
    omega
  have htwo := hbelow 0xC2 0xDF (by decide)
  have hthree := hbelow 0xE0 0xEF (by decide)
  have hfour := hbelow 0xF0 0xF4 (by decide)
  unfold runeTail
  rw [if_neg hascii]
  rcases rest with _ | ⟨c, _ | ⟨d, _ | ⟨e, rest⟩⟩⟩ <;>
    simp only [htwo, hthree, hfour, Bool.false_and, Bool.false_eq_true, reduceIte]

/-- A character takes four bytes at most. -/
theorem runeTail_le {b : UInt8} {rest : Str} {n : Nat} (h : runeTail b rest = some n) : n ≤ 3 := by
  unfold runeTail at h
  rcases rest with _ | ⟨c, _ | ⟨d, _ | ⟨e, rest⟩⟩⟩ <;> dsimp only at h <;>
    split_ifs at h <;> first | contradiction | (obtain rfl := Option.some.inj h; decide)

theorem IsRune.length_le {b : UInt8} {more : Str} (h : IsRune b more) : more.length ≤ 3 :=
  runeTail_le (h.found [])

theorem IsRune.first {b : UInt8} {more : Str} (h : IsRune b more) : isTail b = false := by
  cases htail : isTail b with
  | false => rfl
  | true =>
    have hfound := h.found []
    rw [runeTail_of_isTail htail] at hfound
    contradiction

/-- Less than a character is none. -/
theorem IsRune.cut {b : UInt8} {more : Str} (h : IsRune b more) {k : Nat} (hk : k < more.length) :
    validString (b :: more.take k) = false := by
  apply validString_bad
  cases hfound : runeTail b (more.take k) with
  | none => rfl
  | some n =>
    obtain ⟨tail, rest, hsplit, hrune, -⟩ := exists_isRune hfound
    have heq : b :: (more ++ []) = b :: (tail ++ (rest ++ more.drop k)) := by
      rw [← List.append_assoc, ← hsplit, List.take_append_drop, List.append_nil]
    obtain ⟨-, hmore, -⟩ := CaseMap.IsRune.unique h hrune heq
    have hlength := congrArg List.length hsplit
    rw [List.length_append, List.length_take, ← hmore] at hlength
    omega

/-- Valid text may be cut where a character starts, and nowhere else. -/
theorem validString_take {s : Str} (hs : validString s = true) (k : Nat) :
    validString (s.take k) = startsAt s k := by
  induction s, hs using valid_induction generalizing k with
  | nil => simp [startsAt]
  | rune b more rest hrune _ ih =>
    cases k with
    | zero => simp [startsAt, hrune.first]
    | succ k =>
      rw [List.take_succ_cons, startsAt, List.getElem?_cons_succ]
      by_cases hk : k < more.length
      · have htail := hrune.tail more[k] (List.getElem_mem hk)
        rw [List.take_append_of_le_length (le_of_lt hk), hrune.cut hk,
          List.getElem?_append_left hk, List.getElem?_eq_getElem hk]
        simp [htail]
      · rw [List.take_append, List.take_of_length_le (by omega), validString_rune hrune, ih,
          List.getElem?_append_right (by omega), startsAt]

/-- Valid text in front of a character or of the end is valid. -/
theorem validString_of_append {s t : Str} (hst : validString (s ++ t) = true)
    (ht : t.head?.any isTail = false) : validString s = true := by
  have htake := validString_take hst s.length
  rw [List.take_left, startsAt, List.getElem?_append_right (le_refl _), Nat.sub_self,
    ← List.head?_eq_getElem?, ht] at htake
  exact htake

/-! ## White space -/

/-- Units of which none starts another are dropped one by one. -/
theorem dropUnits_flatten {units : List Str} (hne : [] ∉ units)
    (hfree : ∀ u ∈ units, ∀ v ∈ units, u <+: v → u = v) {us : List Str} (hus : ∀ u ∈ us, u ∈ units)
    {x : Str} (hx : ∀ u ∈ units, ¬ u <+: x) {fuel : Nat} (hfuel : us.flatten.length ≤ fuel) :
    dropUnits units fuel (us.flatten ++ x) = x := by
  induction us generalizing fuel with
  | nil =>
    cases fuel with
    | zero => rfl
    | succ fuel =>
      have hnone : units.find? (fun u => u.isPrefixOf x) = none := by
        rw [List.find?_eq_none]
        exact fun u hu hpre => hx u hu (List.isPrefixOf_iff_prefix.mp hpre)
      rw [List.flatten_nil, List.nil_append, dropUnits, hnone]
  | cons u us ih =>
    have hu := hus u List.mem_cons_self
    have hlength : 0 < u.length := List.length_pos_of_ne_nil fun hnil => hne (hnil ▸ hu)
    rw [List.flatten_cons, List.length_append] at hfuel
    rw [List.flatten_cons, List.append_assoc]
    have hfront : u <+: u ++ (us.flatten ++ x) := List.prefix_append _ _
    cases fuel with
    | zero => omega
    | succ fuel =>
      rw [dropUnits]
      cases hfind : units.find? (fun v => v.isPrefixOf (u ++ (us.flatten ++ x))) with
      | none =>
        exact absurd (List.isPrefixOf_iff_prefix.mpr hfront) (List.find?_eq_none.mp hfind u hu)
      | some v =>
        have hv := List.mem_of_find?_eq_some hfind
        have hpre := List.find?_some hfind
        rw [List.isPrefixOf_iff_prefix] at hpre
        have heq : v = u := by
          cases List.prefix_or_prefix_of_prefix hpre hfront with
          | inl h => exact hfree v hv u hu h
          | inr h => exact (hfree u hu v hv h).symm
        dsimp only
        rw [heq, List.drop_left]
        exact ih (fun w hw => hus w (List.mem_cons_of_mem _ hw)) (by omega)

/-- No white space is left at the end. -/
theorem not_suffix_trimSpace (s : Str) {u : Str} (hu : u ∈ spaces) : ¬ u <:+ trimSpace s := by
  intro h
  have hreverse := List.reverse_prefix.mpr h
  rw [trimSpace, trimRightSpace, List.reverse_reverse] at hreverse
  refine not_prefix_dropUnits ?_ (List.length_reverse.le) (List.mem_map_of_mem hu) hreverse
  decide

/-- White space is valid text. -/
theorem validString_spaces {us : List Str} (hus : ∀ u ∈ us, u ∈ spaces) :
    validString us.flatten = true := by
  induction us with
  | nil => rfl
  | cons u us ih =>
    obtain ⟨b, more, rfl, hrune, -⟩ := CaseMap.isRune_of_space (hus u List.mem_cons_self)
    rw [List.flatten_cons, List.cons_append, validString_rune hrune]
    exact ih fun v hv => hus v (List.mem_cons_of_mem _ hv)

theorem head?_spaces {us : List Str} (hus : ∀ u ∈ us, u ∈ spaces) :
    us.flatten.head?.any isTail = false := by
  cases us with
  | nil => rfl
  | cons u us =>
    obtain ⟨b, more, rfl, -, hb⟩ := CaseMap.isRune_of_space (hus u List.mem_cons_self)
    simpa using hb

/-- The trimmed text of valid text is valid. -/
theorem validString_trimSpace {s : Str} (hs : validString s = true) :
    validString (trimSpace s) = true := by
  obtain ⟨left, right, hleft, hright, heq⟩ := exists_trimSpace s
  rw [heq, validString_append (validString_spaces hleft)] at hs
  exact validString_of_append hs (head?_spaces hright)

/-- White space at the front of valid text is the first character of it. -/
theorem space_front {t r u : Str} (ht : validString t = true) (hne : t ≠ []) (hu : u ∈ spaces)
    (h : u <+: t ++ r) : u <+: t := by
  obtain ⟨c, tail, rfl, hc, -⟩ := CaseMap.isRune_of_space hu
  obtain ⟨s, hs⟩ := h
  cases t, ht using valid_induction with
  | nil => exact absurd rfl hne
  | rune b more rest hrune hrest _ =>
    rw [List.cons_append, List.cons_append, List.append_assoc] at hs
    obtain ⟨rfl, rfl, -⟩ := CaseMap.IsRune.unique hc hrune hs
    exact ⟨rest, rfl⟩

/-- What is left between white space when it neither starts nor ends with such. -/
theorem trimSpace_eq {left right : List Str} (hleft : ∀ u ∈ left, u ∈ spaces)
    (hright : ∀ u ∈ right, u ∈ spaces) {t : Str} (ht : validString t = true)
    (hstart : ∀ u ∈ spaces, ¬ u <+: t) (hend : ∀ u ∈ spaces, ¬ u <:+ t) :
    trimSpace (left.flatten ++ (t ++ right.flatten)) = t := by
  have hne : [] ∉ spaces := by decide
  have hfree : ∀ u ∈ spaces, ∀ v ∈ spaces, u <+: v → u = v := by decide +kernel
  have hfreeEnd : ∀ u ∈ spaces.map List.reverse, ∀ v ∈ spaces.map List.reverse, u <+: v → u = v := by
    decide +kernel
  by_cases hnil : t = []
  · subst hnil
    have hall : ∀ u ∈ left ++ right, u ∈ spaces := by
      intro u hu
      exact (List.mem_append.mp hu).elim (hleft u) (hright u)
    have hdrop : trimLeftSpace ((left ++ right).flatten ++ []) = [] :=
      dropUnits_flatten hne hfree hall hstart (by rw [List.append_nil])
    rw [List.append_nil, List.flatten_append] at hdrop
    rw [List.nil_append, trimSpace, hdrop]
    rfl
  · have hleftDrop : trimLeftSpace (left.flatten ++ (t ++ right.flatten)) = t ++ right.flatten := by
      refine dropUnits_flatten hne hfree hleft (fun u hu h => ?_) (by simp)
      exact hstart u hu (space_front ht hnil hu h)
    rw [trimSpace, hleftDrop, trimRightSpace]
    have hreverse : (t ++ right.flatten).reverse =
        (right.reverse.map List.reverse).flatten ++ t.reverse := by
      rw [List.reverse_append, List.reverse_flatten, List.map_reverse]
    rw [hreverse, dropUnits_flatten (by decide) hfreeEnd, List.reverse_reverse]
    · intro u hu
      obtain ⟨v, hv, rfl⟩ := List.mem_map.mp hu
      exact List.mem_map_of_mem (hright v (List.mem_reverse.mp hv))
    · intro u hu h
      obtain ⟨v, hv, rfl⟩ := List.mem_map.mp hu
      exact hend v hv (List.reverse_prefix.mp h)
    · have hlength := congrArg List.length hreverse
      simp only [List.length_reverse, List.length_append] at hlength ⊢
      omega

/-- Trimmed text stays as it is. -/
theorem trimSpace_trimSpace {s : Str} (hs : validString s = true) :
    trimSpace (trimSpace s) = trimSpace s := by
  have hnone : ∀ u ∈ ([] : List Str), u ∈ spaces := fun _ h => absurd h List.not_mem_nil
  have heq := trimSpace_eq hnone hnone (validString_trimSpace hs)
    (fun _ hu => not_prefix_trimSpace s hu) fun _ hu => not_suffix_trimSpace s hu
  rwa [List.flatten_nil, List.nil_append, List.append_nil] at heq

/-- Valid text at the front of white space is white space. -/
theorem exists_spaces_of_prefix {us : List Str} (hus : ∀ u ∈ us, u ∈ spaces) {p : Str}
    (hp : validString p = true) (hpre : p <+: us.flatten) :
    ∃ vs : List Str, (∀ v ∈ vs, v ∈ spaces) ∧ p = vs.flatten := by
  induction p, hp using valid_induction generalizing us with
  | nil => exact ⟨[], fun _ h => absurd h List.not_mem_nil, rfl⟩
  | rune b more rest hrune _ ih =>
    obtain ⟨r, hr⟩ := hpre
    cases us with
    | nil => simp at hr
    | cons u us =>
      have hu := hus u List.mem_cons_self
      obtain ⟨c, tail, rfl, hc, -⟩ := CaseMap.isRune_of_space hu
      rw [List.cons_append, List.append_assoc, List.flatten_cons, List.cons_append] at hr
      obtain ⟨rfl, rfl, hrest⟩ := CaseMap.IsRune.unique hrune hc hr
      obtain ⟨vs, hvs, rfl⟩ := ih (fun v hv => hus v (List.mem_cons_of_mem _ hv)) ⟨r, hrest⟩
      refine ⟨(b :: more) :: vs, fun v hv => ?_, rfl⟩
      exact (List.mem_cons.mp hv).elim (fun h => h ▸ hu) (hvs v)

/-- The front of a text, trimmed, is at the front of the trimmed text. -/
theorem trimSpace_take_prefix {s : Str} (hs : validString s = true) {k : Nat}
    (hk : validString (s.take k) = true) : trimSpace (s.take k) <+: trimSpace s := by
  obtain ⟨left, right, hleft, hright, heq⟩ := exists_trimSpace s
  have htrim := validString_trimSpace hs
  generalize ht : trimSpace s = t at heq htrim ⊢
  have hstart : ∀ u ∈ spaces, ¬ u <+: t := fun u hu => ht ▸ not_prefix_trimSpace s hu
  have hend : ∀ u ∈ spaces, ¬ u <:+ t := fun u hu => ht ▸ not_suffix_trimSpace s hu
  rw [heq, List.take_append] at hk ⊢
  by_cases hspaces : k ≤ left.flatten.length
  · -- the cut is in the white space in front
    rw [Nat.sub_eq_zero_of_le hspaces, List.take_zero, List.append_nil] at hk ⊢
    obtain ⟨vs, hvs, hcut⟩ := exists_spaces_of_prefix hleft hk (List.take_prefix _ _)
    have hnil : ∀ u ∈ ([] : List Str), u ∈ spaces := fun _ h => absurd h List.not_mem_nil
    have hnone := trimSpace_eq hvs hnil
      validString_nil (fun u hu h => hstart u hu (h.trans List.nil_prefix))
      (fun u hu h => hend u hu (h.trans List.nil_suffix))
    rw [List.flatten_nil, List.append_nil, List.append_nil, ← hcut] at hnone
    rw [hnone]
    exact List.nil_prefix
  rw [List.take_of_length_le (by omega), validString_append (validString_spaces hleft)] at hk
  rw [List.take_of_length_le (by omega)]
  generalize k - left.flatten.length = j at hk
  rw [List.take_append] at hk ⊢
  by_cases htext : j ≤ t.length
  · -- the cut is in the text
    rw [Nat.sub_eq_zero_of_le htext, List.take_zero, List.append_nil] at hk ⊢
    obtain ⟨left', right', hleft', hright', hinner⟩ := exists_trimSpace (t.take j)
    have hnone : left' = [] := by
      cases left' with
      | nil => rfl
      | cons u left' =>
        refine absurd ?_ (hstart u (hleft' u List.mem_cons_self))
        have hfront : u <+: t.take j := by
          rw [hinner, List.flatten_cons, List.append_assoc]
          exact List.prefix_append _ _
        exact hfront.trans (List.take_prefix _ _)
    rw [hnone, List.flatten_nil, List.nil_append] at hinner
    have hcut := trimSpace_eq hleft hright' (validString_trimSpace hk)
      (fun u hu => not_prefix_trimSpace _ hu) fun u hu => not_suffix_trimSpace _ hu
    rw [← hinner] at hcut
    rw [hcut]
    have hpre : trimSpace (t.take j) <+: t.take j := ⟨right'.flatten, hinner.symm⟩
    exact hpre.trans (List.take_prefix _ _)
  · -- the cut is in the white space behind
    rw [List.take_of_length_le (by omega)] at hk ⊢
    rw [validString_append htrim] at hk
    obtain ⟨vs, hvs, hcut⟩ := exists_spaces_of_prefix hright hk (List.take_prefix _ _)
    rw [hcut, trimSpace_eq hleft hvs htrim hstart hend]

end GoJson
