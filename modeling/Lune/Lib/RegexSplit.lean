import Lune.Lib.RegexEnds
import Mathlib.Data.List.Forall2

/-!
# Replacing in a text of two parts

A text is cut in two, and the second part starts with an ASCII character.  The
matches that stay in the first part are the same for every second part with that
character (`inner_congr`), so the replacement of the first part is, too, when no
match leaves it (`replaceAll_split`).
-/

namespace Regex

open GoText

/-! ## Classes of a pattern -/

/-- Every class of the pattern has the property. -/
def Pattern.All (P : CharClass → Prop) : Pattern → Prop
  | empty | wordBoundary => True
  | char c | many _ c => P c
  | seq p q | alt p q => p.All P ∧ q.All P
  | group p => p.All P

/-- What is not ASCII in the class has no ASCII byte. -/
def CharClass.Foreign (c : CharClass) : Prop := ∀ u ∈ c.encodings, u ≠ [] ∧ ∀ b ∈ u, 0x80 ≤ b

theorem foreign_foldedChar (b : UInt8) : (foldedChar b).Foreign := by
  intro u hu
  unfold foldedChar at hu
  dsimp only at hu
  split at hu
  · obtain rfl := List.mem_singleton.mp hu
    exact ⟨List.cons_ne_nil _ _, by simp⟩
  split at hu
  · obtain rfl := List.mem_singleton.mp hu
    exact ⟨List.cons_ne_nil _ _, by simp⟩
  · exact absurd hu List.not_mem_nil

theorem foreign_alnumAnd (more : String) : (alnumAnd more).Foreign := by
  intro u hu
  rcases List.mem_cons.mp hu with rfl | hu
  · exact ⟨List.cons_ne_nil _ _, by simp⟩
  · obtain rfl := List.mem_singleton.mp hu
    exact ⟨List.cons_ne_nil _ _, by simp⟩

theorem foreign_of_nil {c : CharClass} (h : c.encodings = []) : c.Foreign := by
  intro u hu
  rw [h] at hu
  exact absurd hu List.not_mem_nil

theorem CharClass.Foreign.outside {c : CharClass} (h : c.Foreign) : c.Outside := by
  intro u hu
  obtain ⟨hne, hbytes⟩ := h u hu
  obtain ⟨b, t, rfl⟩ := List.exists_cons_of_ne_nil hne
  exact ⟨b, t, rfl, hbytes b List.mem_cons_self⟩

section All

variable {P : CharClass → Prop}

theorem all_word {text : String} (h : ∀ b ∈ lit text, P (foldedChar b)) : (word text).All P := by
  unfold word
  generalize lit text = bs at h ⊢
  induction bs with
  | nil => trivial
  | cons b bs ih =>
    exact ⟨h b List.mem_cons_self, ih fun c hc => h c (List.mem_cons_of_mem b hc)⟩

theorem all_sequence {ps : List Pattern} (h : ∀ p ∈ ps, p.All P) : (sequence ps).All P := by
  induction ps with
  | nil => trivial
  | cons p ps ih =>
    exact ⟨h p List.mem_cons_self, ih fun q hq => h q (List.mem_cons_of_mem p hq)⟩

theorem all_choice {ps : List Pattern} (h : ∀ p ∈ ps, p.All P) : (choice ps).All P := by
  induction ps with
  | nil => trivial
  | cons p ps ih =>
    cases ps with
    | nil => exact h p List.mem_cons_self
    | cons q ps =>
      exact ⟨h p List.mem_cons_self, ih fun r hr => h r (List.mem_cons_of_mem p hr)⟩

theorem all_plus {c : CharClass} (h : P c) : c.plus.All P := ⟨h, h⟩

theorem all_atLeast {c : CharClass} (h : P c) (n : Nat) : (c.atLeast n).All P := by
  induction n with
  | zero => exact h
  | succ n ih => exact ⟨h, ih⟩

end All

/-! ## Characters at a cut -/

section Width

variable {c : CharClass} {x b : Str}

theorem width_le (c : CharClass) (x : Str) : c.width x ≤ x.length := by
  unfold CharClass.width
  split
  next u hu =>
    have hprefix := List.find?_some (p := fun u : Str => u.isPrefixOf x) hu
    exact (List.isPrefixOf_iff_prefix.mp hprefix).length_le
  · split
    · rw [List.length_cons]
      split <;> omega
    · exact Nat.zero_le _

/-- A character at the front does not depend on what starts with an ASCII one. -/
theorem width_append (hc : c.Foreign) (hb : AsciiHead b) (hx : x ≠ []) :
    c.width (x ++ b) = c.width x := by
  have hprefix : ∀ u ∈ c.encodings, u.isPrefixOf (x ++ b) = u.isPrefixOf x := by
    intro u hu
    rw [Bool.eq_iff_iff, List.isPrefixOf_iff_prefix, List.isPrefixOf_iff_prefix]
    refine ⟨fun h => ?_, fun h => h.trans (List.prefix_append x b)⟩
    rcases Nat.lt_or_ge x.length u.length with hlt | hle
    · -- the encoding would take the ASCII character
      obtain ⟨v, rfl⟩ := List.prefix_of_prefix_length_le (List.prefix_append x b) h hlt.le
      rw [List.prefix_append_right_inj] at h
      obtain ⟨d, v, rfl⟩ : ∃ d w, v = d :: w := List.exists_cons_of_ne_nil (by
        rintro rfl
        simp at hlt)
      obtain ⟨w, rfl⟩ := h
      have hascii := hb d rfl
      have hforeign := (hc _ hu).2 d (List.mem_append_right x List.mem_cons_self)
      exact absurd hascii (UInt8.not_lt.mpr hforeign)
    · exact List.prefix_of_prefix_length_le h (List.prefix_append x b) hle
  have hfind : c.encodings.find? (fun u => u.isPrefixOf (x ++ b)) =
      c.encodings.find? (fun u => u.isPrefixOf x) := by
    rw [← List.head?_filter, ← List.head?_filter, List.filter_congr hprefix]
  obtain ⟨d, x, rfl⟩ := List.exists_cons_of_ne_nil hx
  unfold CharClass.width
  rw [hfind]
  rfl

end Width

/-! ## The ends that stay before the cut -/

/-- The place with more text behind it. -/
def Place.snoc (here : Place) (b : Str) : Place := { here with rest := here.rest ++ b }

/-- The place without the text behind the cut, when it is before it. -/
def Place.strip (b : Str) (after : Place) : Option Place :=
  if b.length ≤ after.rest.length then
    some { after with rest := after.rest.take (after.rest.length - b.length) }
  else none

/-- The ends of the matches that stay before the cut. -/
def Pattern.inner (p : Pattern) (b : Str) (here : Place) : List Place :=
  (p.ends (here.snoc b)).filterMap (Place.strip b)

section Inner

variable {p q : Pattern} {c : CharClass} {b b' : Str} {here after : Place}

theorem strip_snoc (here : Place) (b : Str) : (here.snoc b).strip b = some here := by
  have hlength : (here.rest ++ b).length - b.length = here.rest.length := by
    rw [List.length_append]
    omega
  unfold Place.strip Place.snoc
  dsimp only
  rw [if_pos (by rw [List.length_append]; omega), hlength, List.take_left]

theorem strip_none (h : after.rest.length < b.length) : after.strip b = none :=
  if_neg (by omega)

/-- A place before the cut. -/
theorem exists_snoc (h : after.rest <:+ here.rest ++ b) (hle : b.length ≤ after.rest.length) :
    ∃ mid : Place, after = mid.snoc b ∧ mid.rest <:+ here.rest := by
  obtain ⟨t, ht⟩ := List.suffix_of_suffix_length_le (List.suffix_append here.rest b) h hle
  refine ⟨{ after with rest := t }, ?_, ?_⟩
  · rw [Place.snoc]
    dsimp only
    rw [ht]
  · rw [← ht] at h
    obtain ⟨y, hy⟩ := h
    rw [← List.append_assoc] at hy
    exact ⟨y, List.append_cancel_right hy⟩

theorem inner_seq : (p.seq q).inner b here = (p.inner b here).flatMap (q.inner b) := by
  unfold Pattern.inner
  rw [Pattern.ends]
  have hall : ∀ mid ∈ p.ends (here.snoc b), mid.rest <:+ here.rest ++ b := fun mid hmid =>
    rest_suffix hmid
  generalize p.ends (here.snoc b) = mids at hall
  induction mids with
  | nil => rfl
  | cons mid mids ih =>
    have hmids := ih fun m hm => hall m (List.mem_cons_of_mem mid hm)
    rw [List.flatMap_cons, List.filterMap_append, hmids, List.filterMap_cons]
    rcases Nat.lt_or_ge mid.rest.length b.length with hlt | hle
    · have hnone : (q.ends mid).filterMap (Place.strip b) = [] := by
        rw [List.filterMap_eq_nil_iff]
        intro after hafter
        exact strip_none (by have := (rest_suffix hafter).length_le; omega)
      rw [hnone, strip_none hlt]
      rfl
    · obtain ⟨mid', rfl, -⟩ := exists_snoc (hall mid List.mem_cons_self) hle
      rw [strip_snoc, List.flatMap_cons]

theorem inner_alt : (p.alt q).inner b here = p.inner b here ++ q.inner b here :=
  List.filterMap_append

theorem advance_snoc {n : Nat} (h : n ≤ here.rest.length) :
    (here.snoc b).advance n = (here.advance n).snoc b := by
  unfold Place.advance Place.snoc
  dsimp only
  rw [List.take_append_of_le_length h, List.drop_append_of_le_length h]

theorem inner_char (hc : c.Foreign) (hb : AsciiHead b) :
    (Pattern.char c).inner b here = (Pattern.char c).ends here := by
  unfold Pattern.inner
  rw [Pattern.ends, Pattern.ends]
  cases hrest : here.rest with
  | nil =>
    have hsnoc : (here.snoc b).rest = b := by rw [Place.snoc, hrest]; rfl
    rw [hsnoc, width_nil hc.outside]
    have hle := width_le c b
    split
    · rfl
    next n hn =>
      rw [List.filterMap_cons, strip_none]
      · rfl
      · unfold Place.advance
        rw [hsnoc, List.length_drop]
        omega
  | cons d x =>
    have hwidth : c.width (here.snoc b).rest = c.width (d :: x) := by
      rw [← hrest]
      exact width_append hc hb (by rw [hrest]; exact List.cons_ne_nil d x)
    have hle := width_le c (d :: x)
    rw [hwidth]
    split
    · rfl
    next n hn =>
      rw [hn, ← hrest] at hle
      rw [advance_snoc hle, List.filterMap_cons, strip_snoc]
      rfl

theorem manyEnds_suffix {greedy : Bool} {fuel : Nat} (h : after ∈ manyEnds greedy c fuel here) :
    after.rest <:+ here.rest :=
  manyEnds_induction (P := fun here after => after.rest <:+ here.rest)
    (fun _ => List.suffix_refl _) (fun _ _ _ _ h => h.trans (List.drop_suffix _ _)) h

theorem strip_manyEnds (greedy : Bool) (hc : c.Foreign) (hb : AsciiHead b) (fuel : Nat) :
    ∀ {fuel' : Nat} {here : Place}, here.rest.length ≤ fuel → here.rest.length ≤ fuel' →
      (manyEnds greedy c fuel (here.snoc b)).filterMap (Place.strip b) =
        manyEnds greedy c fuel' here := by
  induction fuel with
  | zero =>
    intro fuel' here hfuel _
    have hnil : here.rest = [] := List.length_eq_zero_iff.mp (Nat.le_zero.mp hfuel)
    rw [manyEnds, List.filterMap_cons, strip_snoc]
    cases fuel' with
    | zero => rfl
    | succ fuel' =>
      rw [manyEnds, hnil, width_nil hc.outside]
      rfl
  | succ fuel ih =>
    intro fuel' here hfuel hfuel'
    cases hrest : here.rest with
    | nil =>
      have hhere : manyEnds greedy c fuel' here = [here] := by
        cases fuel' with
        | zero => rfl
        | succ fuel' => rw [manyEnds, hrest, width_nil hc.outside]
      have hsnoc : (here.snoc b).rest = b := by rw [Place.snoc, hrest]; rfl
      have hle := width_le c b
      rw [hhere, manyEnds, hsnoc]
      split
      · rw [List.filterMap_cons, strip_snoc]
        rfl
      next n hn =>
        have hnone : (manyEnds greedy c fuel ((here.snoc b).advance (n + 1))).filterMap
            (Place.strip b) = [] := by
          rw [List.filterMap_eq_nil_iff]
          intro after hafter
          have hlength := (manyEnds_suffix hafter).length_le
          refine strip_none ?_
          unfold Place.advance at hlength
          rw [hsnoc, List.length_drop] at hlength
          omega
        cases greedy
        · simp [hnone, strip_snoc]
        · simp [hnone, strip_snoc]
    | cons d x =>
      obtain ⟨fuel', rfl⟩ : ∃ n, fuel' = n + 1 := by
        rw [hrest, List.length_cons] at hfuel'
        exact ⟨fuel' - 1, by omega⟩
      have hwidth : c.width (here.snoc b).rest = c.width here.rest :=
        width_append hc hb (by rw [hrest]; exact List.cons_ne_nil d x)
      have hle := width_le c here.rest
      rw [manyEnds, manyEnds, hwidth]
      split
      · rw [List.filterMap_cons, strip_snoc]
        rfl
      next n hn =>
        have hshort : (here.advance (n + 1)).rest.length = here.rest.length - (n + 1) :=
          List.length_drop
        rw [advance_snoc (by omega)]
        have hmore := @ih fuel' (here.advance (n + 1)) (by omega) (by omega)
        cases greedy
        · simp [hmore, strip_snoc]
        · simp [hmore, strip_snoc]

theorem inner_many {greedy : Bool} (hc : c.Foreign) (hb : AsciiHead b) :
    (Pattern.many greedy c).inner b here = (Pattern.many greedy c).ends here :=
  strip_manyEnds greedy hc hb _ (by simp [Place.snoc]) (le_refl _)

theorem inner_group : (Pattern.group p).inner b here =
    (p.inner b here).map fun after =>
      { after with group := here.rest.take (here.rest.length - after.rest.length) } := by
  unfold Pattern.inner
  rw [Pattern.ends, List.filterMap_map, List.map_filterMap]
  refine List.filterMap_congr fun after hafter => ?_
  rcases Nat.lt_or_ge after.rest.length b.length with hlt | hle
  · rw [strip_none hlt]
    exact strip_none hlt
  · obtain ⟨mid, rfl, hmid⟩ := exists_snoc (rest_suffix hafter) hle
    have hshort := hmid.length_le
    have hgroup : (here.snoc b).rest.take ((here.snoc b).rest.length - (mid.snoc b).rest.length) =
        here.rest.take (here.rest.length - mid.rest.length) := by
      unfold Place.snoc
      dsimp only
      rw [List.length_append, List.length_append, Nat.add_sub_add_right,
        List.take_append_of_le_length (by omega)]
    rw [strip_snoc, Function.comp_apply, hgroup]
    exact strip_snoc { mid with group := here.rest.take (here.rest.length - mid.rest.length) } b

/-- The matches before the cut are the same for every text with the same ASCII
character behind it. -/
theorem inner_congr (hp : p.All CharClass.Foreign) (hb : AsciiHead b) (hb' : AsciiHead b')
    (hhead : b.head?.any isWordByte = b'.head?.any isWordByte) (here : Place) : p.inner b here = p.inner b' here := by
  induction p generalizing here with
  | empty => rw [Pattern.inner, Pattern.inner]; simp [Pattern.ends, strip_snoc]
  | char c => rw [inner_char hp hb, inner_char hp hb']
  | seq p q ihp ihq => rw [inner_seq, inner_seq, ihp hp.1, funext (ihq hp.2)]
  | alt p q ihp ihq => rw [inner_alt, inner_alt, ihp hp.1, ihq hp.2]
  | many greedy c => rw [inner_many hp hb, inner_many hp hb']
  | group p ih => rw [inner_group, inner_group, ih hp]
  | wordBoundary =>
    have hsame : (here.snoc b).isBoundary = (here.snoc b').isBoundary := by
      unfold Place.isBoundary Place.snoc
      dsimp only
      cases here.rest with
      | nil => rw [List.nil_append, List.nil_append, hhead]
      | cons d x => rfl
    unfold Pattern.inner
    rw [Pattern.ends, Pattern.ends, hsame]
    split
    · simp [strip_snoc]
    · rfl

end Inner

/-! ## Replacing from a place on -/

/-- Every match of the pattern takes a character. -/
def Pattern.consumes : Pattern → Bool
  | char _ => true
  | seq p q => p.consumes || q.consumes
  | alt p q => p.consumes && q.consumes
  | group p => p.consumes
  | _ => false

section Replace

variable {p : Pattern} {replacement : Str → Str} {before : Option UInt8} {a b b' s : Str}
  {here after : Place}

theorem length_of_consumes (hp : p.consumes = true) (h : after ∈ p.ends here) :
    after.rest.length < here.rest.length := by
  induction p generalizing here after with
  | empty | many | wordBoundary => contradiction
  | char c =>
    obtain ⟨n, hn, rfl⟩ := mem_ends_char.mp h
    have hle := width_le c here.rest
    unfold Place.advance
    rw [List.length_drop]
    omega
  | seq p q ihp ihq =>
    obtain ⟨mid, hmid, hafter⟩ := mem_ends_seq.mp h
    have hlep := (rest_suffix hmid).length_le
    have hleq := (rest_suffix hafter).length_le
    rcases Bool.or_eq_true_iff.mp hp with hp | hq
    · have hlt := ihp hp hmid
      omega
    · have hlt := ihq hq hafter
      omega
  | alt p q ihp ihq =>
    obtain ⟨hp, hq⟩ := Bool.and_eq_true_iff.mp hp
    rcases mem_ends_alt.mp h with hafter | hafter
    · exact ihp hp hafter
    · exact ihq hq hafter
  | group p ih =>
    obtain ⟨mid, hmid, rfl⟩ := List.mem_map.mp h
    have hlt : mid.rest.length < here.rest.length := ih hp hmid
    exact hlt

/-- What a match takes, and the byte before its end. -/
theorem exists_taken (h : after ∈ p.ends here) :
    ∃ t, here.rest = t ++ after.rest ∧ after.before = t.getLast?.or here.before := by
  have htrans : ∀ {here mid after : Place},
      (∃ t, here.rest = t ++ mid.rest ∧ mid.before = t.getLast?.or here.before) →
      (∃ t, mid.rest = t ++ after.rest ∧ after.before = t.getLast?.or mid.before) →
      ∃ t, here.rest = t ++ after.rest ∧ after.before = t.getLast?.or here.before := by
    rintro here mid after ⟨t, ht, hbefore⟩ ⟨u, hu, hbefore'⟩
    refine ⟨t ++ u, by rw [ht, hu, List.append_assoc], ?_⟩
    rw [hbefore', hbefore, List.getLast?_append, Option.or_assoc]
  have hadvance : ∀ (here : Place) (n : Nat), ∃ t, here.rest = t ++ (here.advance n).rest ∧
      (here.advance n).before = t.getLast?.or here.before := fun here n =>
    ⟨here.rest.take n, (List.take_append_drop n here.rest).symm, rfl⟩
  induction p generalizing here after with
  | empty =>
    obtain rfl := List.mem_singleton.mp h
    exact ⟨[], rfl, rfl⟩
  | char c =>
    obtain ⟨n, -, rfl⟩ := mem_ends_char.mp h
    exact hadvance here (n + 1)
  | seq p q ihp ihq =>
    obtain ⟨mid, hmid, hafter⟩ := mem_ends_seq.mp h
    exact htrans (ihp hmid) (ihq hafter)
  | alt p q ihp ihq =>
    rcases mem_ends_alt.mp h with hafter | hafter
    · exact ihp hafter
    · exact ihq hafter
  | many greedy c =>
    refine mem_ends_many (P := fun here after => ∃ t, here.rest = t ++ after.rest ∧
      after.before = t.getLast?.or here.before) (fun here => ⟨[], rfl, rfl⟩) ?_ h
    exact fun here after n _ hmore => htrans (hadvance here (n + 1)) hmore
  | group p ih =>
    obtain ⟨mid, hmid, rfl⟩ := List.mem_map.mp h
    obtain ⟨t, ht, hbefore⟩ := ih hmid
    exact ⟨t, ht, hbefore⟩
  | wordBoundary =>
    obtain ⟨-, rfl⟩ := mem_ends_boundary.mp h
    exact ⟨[], rfl, rfl⟩

/-- `replaceAll` from a place on, with fuel for all of the text. -/
def Pattern.replaceFrom (p : Pattern) (replacement : Str → Str) (before : Option UInt8) (s : Str) :
    Str :=
  p.replaceAll replacement s.length before s

theorem replaceAll_fuel (hp : p.consumes = true) (n : Nat) : ∀ {m : Nat} {before : Option UInt8}
    {s : Str}, s.length ≤ n → s.length ≤ m →
      p.replaceAll replacement n before s = p.replaceAll replacement m before s := by
  induction n with
  | zero =>
    intro m before s hn _
    obtain rfl := List.length_eq_zero_iff.mp (Nat.le_zero.mp hn)
    cases m <;> rfl
  | succ n ih =>
    intro m before s hn hm
    cases s with
    | nil => cases m <;> rfl
    | cons b s =>
      rw [List.length_cons] at hn hm
      obtain ⟨m, rfl⟩ : ∃ k, m = k + 1 := ⟨m - 1, by omega⟩
      rw [Pattern.replaceAll, Pattern.replaceAll, run_some]
      cases hends : (p.ends ⟨before, b :: s, []⟩).head? with
      | none =>
        dsimp only
        rw [ih (m := m) (by omega) (by omega)]
      | some after =>
        have hlt := length_of_consumes hp (List.mem_of_mem_head? hends)
        rw [List.length_cons] at hlt
        dsimp only
        rw [ih (m := m) (by omega) (by omega)]

@[simp] theorem replaceFrom_nil : p.replaceFrom replacement before [] = [] := rfl

theorem replaceFrom_none {d : UInt8} (h : p.ends ⟨before, d :: s, []⟩ = []) :
    p.replaceFrom replacement before (d :: s) = d :: p.replaceFrom replacement (some d) s := by
  rw [Pattern.replaceFrom, List.length_cons, Pattern.replaceAll, run_some, h]
  rfl

theorem replaceFrom_some (hp : p.consumes = true) {d : UInt8}
    (h : (p.ends ⟨before, d :: s, []⟩).head? = some after) :
    p.replaceFrom replacement before (d :: s) =
      replacement after.group ++ p.replaceFrom replacement after.before after.rest := by
  have hlt := length_of_consumes hp (List.mem_of_mem_head? h)
  rw [List.length_cons] at hlt
  rw [Pattern.replaceFrom, List.length_cons, Pattern.replaceAll, run_some, h]
  dsimp only
  rw [replaceAll_fuel hp s.length (by omega) (le_refl after.rest.length)]
  rfl

theorem replaceFrom_match (hp : p.consumes = true)
    (h : (p.ends ⟨before, s, []⟩).head? = some after) :
    p.replaceFrom replacement before s =
      replacement after.group ++ p.replaceFrom replacement after.before after.rest := by
  cases s with
  | nil => exact absurd (length_of_consumes hp (List.mem_of_mem_head? h)) (Nat.not_lt_zero _)
  | cons d s => exact replaceFrom_some hp h

/-- What is new comes from the replacements. -/
theorem mem_replaceFrom {d : UInt8} (h : d ∈ p.replaceFrom replacement before s) :
    d ∈ s ∨ ∃ group, d ∈ replacement group := by
  unfold Pattern.replaceFrom at h
  generalize s.length = fuel at h
  induction fuel generalizing before s with
  | zero => exact Or.inl h
  | succ fuel ih =>
    cases s with
    | nil => exact Or.inl h
    | cons b s =>
      rw [Pattern.replaceAll, run_some] at h
      split at h
      next after hafter =>
        rcases List.mem_append.mp h with hnew | hrest
        · exact Or.inr ⟨after.group, hnew⟩
        · exact (ih hrest).imp_left fun hd =>
            (rest_suffix (List.mem_of_mem_head? hafter)).subset hd
      · rcases List.mem_cons.mp h with rfl | hrest
        · exact Or.inl List.mem_cons_self
        · exact (ih hrest).imp_left (List.mem_cons_of_mem b)

theorem replaceFrom_ne_nil (hs : s ≠ []) (hreplacement : ∀ group, replacement group ≠ []) :
    p.replaceFrom replacement before s ≠ [] := by
  obtain ⟨b, s, rfl⟩ := List.exists_cons_of_ne_nil hs
  rw [Pattern.replaceFrom, List.length_cons, Pattern.replaceAll]
  split
  · exact List.append_ne_nil_of_left_ne_nil (hreplacement _) _
  · exact List.cons_ne_nil _ _

/-- No match starts in the first part. -/
theorem replaceFrom_skip (h : ∀ y x, a = y ++ x → x ≠ [] →
      p.ends ⟨y.getLast?.or before, x ++ b, []⟩ = []) :
    p.replaceFrom replacement before (a ++ b) =
      a ++ p.replaceFrom replacement (a.getLast?.or before) b := by
  induction a generalizing before with
  | nil => rfl
  | cons d a ih =>
    have hhere := h [] (d :: a) rfl (List.cons_ne_nil d a)
    rw [List.getLast?_nil, Option.none_or, List.cons_append] at hhere
    rw [List.cons_append, replaceFrom_none hhere, ih]
    · rw [List.getLast?_cons, Option.some_or, List.cons_append]
      cases a with
      | nil => rfl
      | cons e a => rw [List.getLast?_cons, Option.some_or, Option.getD_some]
    · intro y x ha hx
      have hnext := h (d :: y) x (by rw [ha]; rfl) hx
      rw [List.getLast?_cons, Option.some_or] at hnext
      cases hlast : y.getLast? with
      | none =>
        rw [hlast] at hnext
        exact hnext
      | some e =>
        rw [hlast] at hnext
        exact hnext

end Replace

/-! ## Replacing up to a cut -/

/-- No match that starts in the first part is found to leave it. -/
def Pattern.StaysIn (p : Pattern) (before : Option UInt8) (a b : Str) : Prop :=
  ∀ y x, a = y ++ x → x ≠ [] → ∀ after,
    (p.ends ⟨y.getLast?.or before, x ++ b, []⟩).head? = some after →
      b.length ≤ after.rest.length

section Split

variable {p : Pattern} {replacement : Str → Str} {before : Option UInt8} {a b b' : Str}
  {here : Place}

theorem Pattern.StaysIn.rest {t : Str} (h : p.StaysIn before (t ++ a) b) :
    p.StaysIn (t.getLast?.or before) a b := by
  intro y x ha hx after hafter
  refine h (t ++ y) x (by rw [ha, List.append_assoc]) hx after ?_
  rwa [List.getLast?_append, Option.or_assoc]

/-- The head of the ends when it stays before the cut. -/
theorem inner_head {after : Place} (h : (p.ends (here.snoc b)).head? = some after)
    (hle : b.length ≤ after.rest.length) :
    ∃ mid : Place, after = mid.snoc b ∧ mid.rest <:+ here.rest ∧
      (p.inner b here).head? = some mid := by
  obtain ⟨mid, rfl, hmid⟩ := exists_snoc (rest_suffix (List.mem_of_mem_head? h)) hle
  refine ⟨mid, rfl, hmid, ?_⟩
  obtain ⟨tail, htail⟩ := List.head?_eq_some_iff.mp h
  rw [Pattern.inner, htail, List.filterMap_cons, strip_snoc]
  rfl

/-- Two texts behind the cut find the same match. -/
theorem head_congr (here : Place) (hp : p.All CharClass.Foreign) (hb : AsciiHead b)
    (hb' : AsciiHead b') (hhead : b.head?.any isWordByte = b'.head?.any isWordByte)
    (hstays : ∀ after, (p.ends (here.snoc b)).head? = some after → b.length ≤ after.rest.length)
    (hstays' : ∀ after, (p.ends (here.snoc b')).head? = some after →
      b'.length ≤ after.rest.length) :
    (p.ends (here.snoc b) = [] ∧ p.ends (here.snoc b') = []) ∨
      ∃ mid : Place, mid.rest <:+ here.rest ∧
        (p.ends (here.snoc b)).head? = some (mid.snoc b) ∧
        (p.ends (here.snoc b')).head? = some (mid.snoc b') := by
  have hinner := inner_congr hp hb hb' hhead here
  cases h : (p.ends (here.snoc b)).head? with
  | none =>
    have hnil := List.head?_eq_none_iff.mp h
    refine Or.inl ⟨hnil, ?_⟩
    cases h' : (p.ends (here.snoc b')).head? with
    | none => exact List.head?_eq_none_iff.mp h'
    | some after =>
      obtain ⟨mid, -, -, hmid⟩ := inner_head h' (hstays' after h')
      rw [← hinner, Pattern.inner, hnil] at hmid
      contradiction
  | some after =>
    obtain ⟨mid, rfl, hsuffix, hmid⟩ := inner_head h (hstays after h)
    refine Or.inr ⟨mid, hsuffix, rfl, ?_⟩
    cases h' : (p.ends (here.snoc b')).head? with
    | none =>
      rw [hinner, Pattern.inner, List.head?_eq_none_iff.mp h'] at hmid
      contradiction
    | some after' =>
      obtain ⟨mid', rfl, -, hmid'⟩ := inner_head h' (hstays' after' h')
      rw [hinner, hmid'] at hmid
      obtain rfl := Option.some.inj hmid
      rfl

/-- The first part becomes the same in front of both texts. -/
theorem replaceFrom_split (replacement : Str → Str) (hcons : p.consumes = true) (hp : p.All CharClass.Foreign)
    (hb : AsciiHead b) (hb' : AsciiHead b')
    (hhead : b.head?.any isWordByte = b'.head?.any isWordByte) (n : Nat) :
    ∀ {a : Str} {before : Option UInt8}, a.length ≤ n → p.StaysIn before a b →
      p.StaysIn before a b' → ∃ r,
        p.replaceFrom replacement before (a ++ b) =
          r ++ p.replaceFrom replacement (a.getLast?.or before) b ∧
        p.replaceFrom replacement before (a ++ b') =
          r ++ p.replaceFrom replacement (a.getLast?.or before) b' := by
  induction n with
  | zero =>
    intro a before hn _ _
    obtain rfl := List.length_eq_zero_iff.mp (Nat.le_zero.mp hn)
    exact ⟨[], rfl, rfl⟩
  | succ n ih =>
    intro a before hn hstays hstays'
    cases a with
    | nil => exact ⟨[], rfl, rfl⟩
    | cons d a =>
      have hne : d :: a ≠ [] := List.cons_ne_nil d a
      have hhere := hstays [] (d :: a) rfl hne
      have hhere' := hstays' [] (d :: a) rfl hne
      rw [List.getLast?_nil, Option.none_or] at hhere hhere'
      rcases head_congr ⟨before, d :: a, []⟩ hp hb hb' hhead hhere hhere' with
        ⟨hnil, hnil'⟩ | ⟨mid, hsuffix, hmid, hmid'⟩
      · obtain ⟨r, heq, heq'⟩ := @ih a (some d) (by rw [List.length_cons] at hn; omega)
          (hstays.rest (t := [d])) (hstays'.rest (t := [d]))
        have hlast : (d :: a).getLast?.or before = a.getLast?.or (some d) := by
          rw [List.getLast?_cons]
          cases a.getLast? <;> rfl
        have hnone : p.ends ⟨before, d :: (a ++ b), []⟩ = [] := hnil
        have hnone' : p.ends ⟨before, d :: (a ++ b'), []⟩ = [] := hnil'
        refine ⟨d :: r, ?_, ?_⟩
        · rw [List.cons_append, replaceFrom_none hnone, heq, hlast, List.cons_append]
        · rw [List.cons_append, replaceFrom_none hnone', heq', hlast, List.cons_append]
      · obtain ⟨t, ht, hbefore⟩ := exists_taken (List.mem_of_mem_head? hmid)
        have hlt := length_of_consumes hcons (List.mem_of_mem_head? hmid)
        unfold Place.snoc at ht hbefore hlt
        dsimp only at ht hbefore hlt
        rw [← List.append_assoc] at ht
        have htext : d :: a = t ++ mid.rest := List.append_cancel_right ht
        rw [List.length_append, List.length_append] at hlt
        obtain ⟨r, heq, heq'⟩ := @ih mid.rest mid.before (by omega)
          (by rw [hbefore]; exact (htext ▸ hstays).rest)
          (by rw [hbefore]; exact (htext ▸ hstays').rest)
        have hlast : mid.rest.getLast?.or mid.before = (d :: a).getLast?.or before := by
          rw [hbefore, htext, List.getLast?_append, Option.or_assoc]
        refine ⟨replacement mid.group ++ r, ?_, ?_⟩
        · have hsome : p.replaceFrom replacement before (d :: a ++ b) = _ :=
            replaceFrom_some hcons hmid
          rw [hsome]
          show replacement mid.group ++ p.replaceFrom replacement mid.before (mid.rest ++ b) = _
          rw [heq, hlast, List.append_assoc]
        · have hsome : p.replaceFrom replacement before (d :: a ++ b') = _ :=
            replaceFrom_some hcons hmid'
          rw [hsome]
          show replacement mid.group ++ p.replaceFrom replacement mid.before (mid.rest ++ b') = _
          rw [heq', hlast, List.append_assoc]

/-- What stands behind a fixed text does not matter in front of it. -/
theorem replaceFrom_fixed {fixed : Str} (replacement : Str → Str) (hcons : p.consumes = true)
    (hp : p.All CharClass.Foreign) (hne : fixed ≠ []) (hascii : AsciiHead fixed)
    (hstays : ∀ behind, p.StaysIn before a (fixed ++ behind)) :
    ∃ r, ∀ behind, p.replaceFrom replacement before (a ++ (fixed ++ behind)) =
      r ++ p.replaceFrom replacement (a.getLast?.or before) (fixed ++ behind) := by
  have hhead : ∀ behind, (fixed ++ behind).head? = fixed.head? := by
    intro behind
    obtain ⟨d, s, rfl⟩ := List.exists_cons_of_ne_nil hne
    rfl
  have hfront : ∀ behind, AsciiHead (fixed ++ behind) := by
    intro behind
    unfold AsciiHead
    rw [hhead]
    exact hascii
  have hpair := fun behind => replaceFrom_split replacement hcons hp (hfront [])
    (hfront behind) (by rw [hhead, hhead]) a.length (le_refl _) (hstays []) (hstays behind)
  obtain ⟨r, hr, -⟩ := hpair []
  refine ⟨r, fun behind => ?_⟩
  obtain ⟨r', hr', hbehind⟩ := hpair behind
  obtain rfl := List.append_cancel_right (hr.symm.trans hr')
  exact hbehind

end Split

/-! ## The byte before a place -/

/-- No word boundary is asked for. -/
def Pattern.noBoundary : Pattern → Bool
  | wordBoundary => false
  | seq p q | alt p q => p.noBoundary && q.noBoundary
  | group p => p.noBoundary
  | _ => true

/-- The same place, but for the byte before it. -/
def Place.Same (here here' : Place) : Prop := here.rest = here'.rest ∧ here.group = here'.group

section Before

variable {p : Pattern} {replacement : Str → Str} {here here' : Place} {a b s : Str}
  {before before' : Option UInt8}

theorem Place.Same.advance (h : here.Same here') (n : Nat) :
    (here.advance n).Same (here'.advance n) :=
  ⟨congrArg (List.drop n) h.1, h.2⟩

theorem manyEnds_same (greedy : Bool) (c : CharClass) (fuel : Nat) :
    ∀ {here here' : Place}, here.Same here' →
      List.Forall₂ Place.Same (manyEnds greedy c fuel here) (manyEnds greedy c fuel here') := by
  induction fuel with
  | zero => exact fun h => .cons h .nil
  | succ fuel ih =>
    intro here here' h
    rw [manyEnds, manyEnds, h.1]
    cases c.width here'.rest with
    | zero => exact .cons h .nil
    | succ n =>
      have hmore := ih (h.advance (n + 1))
      cases greedy
      · exact .cons h hmore
      · exact List.rel_append hmore (.cons h .nil)

/-- Without a word boundary the byte before the match does not matter. -/
theorem ends_same (hp : p.noBoundary = true) (h : here.Same here') :
    List.Forall₂ Place.Same (p.ends here) (p.ends here') := by
  induction p generalizing here here' with
  | empty => exact .cons h .nil
  | char c =>
    rw [Pattern.ends, Pattern.ends, h.1]
    cases c.width here'.rest with
    | zero => exact .nil
    | succ n => exact .cons (h.advance (n + 1)) .nil
  | seq p q ihp ihq =>
    obtain ⟨hp, hq⟩ := Bool.and_eq_true_iff.mp hp
    exact List.rel_flatMap (ihp hp h) fun _ _ hmid => ihq hq hmid
  | alt p q ihp ihq =>
    obtain ⟨hp, hq⟩ := Bool.and_eq_true_iff.mp hp
    exact List.rel_append (ihp hp h) (ihq hq h)
  | many greedy c =>
    rw [Pattern.ends, Pattern.ends, h.1]
    exact manyEnds_same greedy c _ h
  | group p ih =>
    rw [Pattern.ends, Pattern.ends, h.1]
    exact List.rel_map (fun _ _ hafter => ⟨hafter.1, by rw [hafter.1]⟩) (ih hp h)
  | wordBoundary => contradiction

theorem head_same (hp : p.noBoundary = true) (before before' : Option UInt8) (s : Str) :
    ((p.ends ⟨before, s, []⟩).head? = none ∧ (p.ends ⟨before', s, []⟩).head? = none) ∨
      ∃ after after', (p.ends ⟨before, s, []⟩).head? = some after ∧
        (p.ends ⟨before', s, []⟩).head? = some after' ∧ after.Same after' := by
  have hends : List.Forall₂ Place.Same (p.ends ⟨before, s, []⟩) (p.ends ⟨before', s, []⟩) :=
    ends_same hp ⟨rfl, rfl⟩
  generalize p.ends ⟨before, s, []⟩ = afters at hends ⊢
  generalize p.ends ⟨before', s, []⟩ = afters' at hends ⊢
  cases hends with
  | nil => exact Or.inl ⟨rfl, rfl⟩
  | cons hafter _ => exact Or.inr ⟨_, _, rfl, rfl, hafter⟩

theorem replaceFrom_before (hp : p.noBoundary = true) (replacement : Str → Str)
    (before before' : Option UInt8) (s : Str) :
    p.replaceFrom replacement before s = p.replaceFrom replacement before' s := by
  unfold Pattern.replaceFrom
  generalize s.length = fuel
  induction fuel generalizing before before' s with
  | zero => rfl
  | succ fuel ih =>
    cases s with
    | nil => rfl
    | cons b s =>
      rw [Pattern.replaceAll, Pattern.replaceAll, run_some, run_some]
      rcases head_same hp before before' (b :: s) with ⟨hnone, hnone'⟩ | ⟨_, _, hsome, hsome', hsame⟩
      · rw [hnone, hnone']
      · rw [hsome, hsome']
        dsimp only
        rw [hsame.1, hsame.2, ih]

theorem Pattern.StaysIn.of_before (hp : p.noBoundary = true) (h : p.StaysIn before a b)
    (before' : Option UInt8) : p.StaysIn before' a b := by
  intro y x ha hx after hafter
  rcases head_same hp (y.getLast?.or before) (y.getLast?.or before') (x ++ b) with
    ⟨-, hnone⟩ | ⟨mid, mid', hsome, hsome', hsame⟩
  · rw [hnone] at hafter
    contradiction
  · obtain rfl := Option.some.inj (hsome'.symm.trans hafter)
    rw [← hsame.1]
    exact h y x ha hx mid hsome

end Before

/-! ## The first byte of a match -/

/-- The ASCII bytes with which a match that takes text can start. -/
def Pattern.starts : Pattern → UInt8 → Bool
  | char c, b | many _ c, b => c.bytes b
  | seq p q, b => p.starts b || (!p.consumes && q.starts b)
  | alt p q, b => p.starts b || q.starts b
  | group p, b => p.starts b
  | empty, _ | wordBoundary, _ => false

section Starts

variable {p : Pattern} {here after : Place} {b : UInt8} {s : Str}

theorem starts_of_taken (hp : p.All CharClass.Foreign) (hb : b < 0x80) (hs : here.rest = b :: s)
    (h : after ∈ p.ends here) (htaken : after.rest ≠ here.rest) : p.starts b = true := by
  induction p generalizing here after with
  | empty =>
    obtain rfl := List.mem_singleton.mp h
    exact absurd rfl htaken
  | char c =>
    obtain ⟨n, hn, -⟩ := mem_ends_char.mp h
    rw [hs, width_of_ascii (CharClass.Foreign.outside hp) hb] at hn
    by_contra hnot
    have hbytes : ¬c.bytes b = true := hnot
    rw [if_neg hbytes] at hn
    contradiction
  | seq p q ihp ihq =>
    obtain ⟨mid, hmid, hafter⟩ := mem_ends_seq.mp h
    rw [Pattern.starts, Bool.or_eq_true]
    by_cases hsame : mid.rest = here.rest
    · -- nothing was taken by the first part
      have hcons : p.consumes = false := by
        rw [← Bool.not_eq_true]
        intro hcons
        have hlt := length_of_consumes hcons hmid
        rw [hsame] at hlt
        exact Nat.lt_irrefl _ hlt
      have hq := ihq hp.2 (hsame.trans hs) hafter (by rw [hsame]; exact htaken)
      exact Or.inr (by rw [hcons, hq]; rfl)
    · exact Or.inl (ihp hp.1 hs hmid hsame)
  | alt p q ihp ihq =>
    rw [Pattern.starts, Bool.or_eq_true]
    rcases mem_ends_alt.mp h with hafter | hafter
    · exact Or.inl (ihp hp.1 hs hafter htaken)
    · exact Or.inr (ihq hp.2 hs hafter htaken)
  | many greedy c =>
    by_contra hnot
    have hwidth : c.width here.rest = 0 := by
      rw [hs, width_of_ascii (CharClass.Foreign.outside hp) hb]
      exact if_neg hnot
    have hends : (Pattern.many greedy c).ends here = [here] := by
      rw [Pattern.ends, hs, List.length_cons, manyEnds, hwidth]
    rw [hends, List.mem_singleton] at h
    exact htaken (congrArg Place.rest h)
  | group p ih =>
    obtain ⟨mid, hmid, rfl⟩ := List.mem_map.mp h
    exact ih hp hs hmid htaken
  | wordBoundary =>
    obtain ⟨-, rfl⟩ := mem_ends_boundary.mp h
    exact absurd rfl htaken

/-- No match starts where the first byte is none of a match. -/
theorem ends_nil_of_starts (hcons : p.consumes = true) (hp : p.All CharClass.Foreign)
    (hb : b < 0x80) (hstart : p.starts b = false) (before : Option UInt8) (s group : Str) :
    p.ends ⟨before, b :: s, group⟩ = [] := by
  refine List.eq_nil_iff_forall_not_mem.mpr fun after hafter => ?_
  have hlt := length_of_consumes hcons hafter
  have hstarts := starts_of_taken hp hb rfl hafter fun heq => by
    rw [heq] at hlt
    exact Nat.lt_irrefl _ hlt
  rw [hstart] at hstarts
  contradiction

theorem starts_word {text : String} {first : UInt8}
    (htext : (lit text).head?.map lowerByte = some first) (b : UInt8) :
    (word text).consumes = true ∧ (word text).starts b = (lowerByte b == first) := by
  unfold word
  generalize lit text = bs at htext ⊢
  cases bs with
  | nil => contradiction
  | cons c bs =>
    obtain rfl := Option.some.inj htext
    simp [Pattern.starts, Pattern.consumes, foldedChar]

/-- No match starts in a text with none of these bytes. -/
theorem replaceFrom_quiet {a : Str} (hcons : p.consumes = true) (hp : p.All CharClass.Foreign)
    (ha : ∀ d ∈ a, d < 0x80 ∧ p.starts d = false) (replacement : Str → Str)
    (before : Option UInt8) (s : Str) : p.replaceFrom replacement before (a ++ s) =
      a ++ p.replaceFrom replacement (a.getLast?.or before) s := by
  refine replaceFrom_skip fun y x heq hx => ?_
  obtain ⟨d, x, rfl⟩ := List.exists_cons_of_ne_nil hx
  obtain ⟨hascii, hstart⟩ := ha d (by rw [heq]; simp)
  exact ends_nil_of_starts hcons hp hascii hstart _ _ _

end Starts

/-! ## Bytes that no match takes -/

/-- The byte is in no character of the class. -/
def CharClass.Avoids (d : UInt8) (c : CharClass) : Prop :=
  c.bytes d = false ∧ ∀ u ∈ c.encodings, d ∉ u

section Avoids

variable {p : Pattern} {c : CharClass} {here after : Place} {d : UInt8} {a b : Str}
  {before : Option UInt8}

theorem avoids_advance {n : Nat} (hc : c.Avoids d) (hn : c.width here.rest = n + 1) :
    d ∉ here.rest.take (n + 1) := by
  unfold CharClass.width at hn
  split at hn
  next u hu =>
    have hfront : u <+: here.rest :=
      List.isPrefixOf_iff_prefix.mp (List.find?_some (p := fun u : Str => u.isPrefixOf here.rest) hu)
    rw [← hn, ← List.prefix_iff_eq_take.mp hfront]
    exact hc.2 u (List.mem_of_find?_eq_some hu)
  · split at hn
    next e s hs =>
      split at hn
      next he =>
        obtain rfl : n = 0 := by omega
        rw [hs, List.take_succ_cons, List.take_zero, List.mem_singleton]
        rintro rfl
        rw [hc.1] at he
        contradiction
      · contradiction
    · contradiction

/-- No match takes a byte that its classes avoid. -/
theorem taken_avoids (hp : p.All (CharClass.Avoids d)) (h : after ∈ p.ends here) :
    ∃ t, here.rest = t ++ after.rest ∧ d ∉ t := by
  have htrans : ∀ {here mid after : Place}, (∃ t, here.rest = t ++ mid.rest ∧ d ∉ t) →
      (∃ t, mid.rest = t ++ after.rest ∧ d ∉ t) → ∃ t, here.rest = t ++ after.rest ∧ d ∉ t := by
    rintro here mid after ⟨t, ht, hd⟩ ⟨u, hu, hd'⟩
    refine ⟨t ++ u, by rw [ht, hu, List.append_assoc], ?_⟩
    rw [List.mem_append, not_or]
    exact ⟨hd, hd'⟩
  have hadvance : ∀ {c : CharClass} {here : Place} {n : Nat}, c.Avoids d →
      c.width here.rest = n + 1 → ∃ t, here.rest = t ++ (here.advance (n + 1)).rest ∧ d ∉ t :=
    fun hc hn => ⟨_, (List.take_append_drop _ _).symm, avoids_advance hc hn⟩
  induction p generalizing here after with
  | empty =>
    obtain rfl := List.mem_singleton.mp h
    exact ⟨[], rfl, List.not_mem_nil⟩
  | char c =>
    obtain ⟨n, hn, rfl⟩ := mem_ends_char.mp h
    exact hadvance hp hn
  | seq p q ihp ihq =>
    obtain ⟨mid, hmid, hafter⟩ := mem_ends_seq.mp h
    exact htrans (ihp hp.1 hmid) (ihq hp.2 hafter)
  | alt p q ihp ihq =>
    rcases mem_ends_alt.mp h with hafter | hafter
    · exact ihp hp.1 hafter
    · exact ihq hp.2 hafter
  | many greedy c =>
    exact mem_ends_many (P := fun here after => ∃ t, here.rest = t ++ after.rest ∧ d ∉ t)
      (fun _ => ⟨[], rfl, List.not_mem_nil⟩)
      (fun _ _ _ hn hmore => htrans (hadvance hp hn) hmore) h
  | group p ih =>
    obtain ⟨mid, hmid, rfl⟩ := List.mem_map.mp h
    obtain ⟨t, ht, hd⟩ := ih hp hmid
    exact ⟨t, ht, hd⟩
  | wordBoundary =>
    obtain ⟨-, rfl⟩ := mem_ends_boundary.mp h
    exact ⟨[], rfl, List.not_mem_nil⟩

theorem avoids_foldedChar {b : UInt8} (hd : d < 0x80) (h : lowerByte d ≠ lowerByte b) :
    (foldedChar b).Avoids d := by
  refine ⟨beq_eq_false_iff_ne.mpr h, fun u hu hmem => ?_⟩
  have hforeign := (foreign_foldedChar b u hu).2 d hmem
  exact absurd hd (UInt8.not_lt.mpr hforeign)

theorem staysIn_nil (p : Pattern) (before : Option UInt8) (a : Str) : p.StaysIn before a [] :=
  fun _ _ _ _ _ _ => Nat.zero_le _

/-- A match does not go over a byte that it avoids. -/
theorem staysIn_of_avoids (hp : p.All (CharClass.Avoids d)) : p.StaysIn before a (d :: b) := by
  intro y x _ _ after hafter
  obtain ⟨t, ht, hd⟩ := taken_avoids hp (List.mem_of_mem_head? hafter)
  by_contra hlt
  have hsuffix : after.rest <:+ x ++ d :: b := ⟨t, ht.symm⟩
  obtain ⟨z, hz⟩ := List.suffix_of_suffix_length_le hsuffix (List.suffix_append x _) (by omega)
  cases z with
  | nil =>
    rw [List.nil_append] at hz
    rw [hz] at hlt
    exact hlt (le_refl _)
  | cons e z =>
    obtain ⟨rfl, rfl⟩ := List.cons.inj hz
    have hboth : (x ++ e :: z) ++ after.rest = t ++ after.rest := by
      rw [List.append_assoc]
      exact ht
    rw [← List.append_cancel_right hboth] at hd
    exact hd (List.mem_append_right x List.mem_cons_self)

end Avoids

end Regex
