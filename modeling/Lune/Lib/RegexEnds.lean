import Lune.Lib.Regex

/-!
# Where a match can end

`Pattern.ends` lists every place at which a match that starts here can end, in
the order in which the search comes to them.  `run_eq` says that the search takes
the first of them that what follows agrees with, so a proof can speak about the
members of a list in place of the search.

A pattern that has no end anywhere leaves the text as it is
(`replace_eq_self`).
-/

namespace Regex

open GoText

/-! ## The ends of a match -/

/-- The ends of the repeats of a class. -/
def manyEnds (greedy : Bool) (c : CharClass) : Nat → Place → List Place
  | 0, here => [here]
  | fuel + 1, here =>
    match c.width here.rest with
    | 0 => [here]
    | n + 1 =>
      let more := manyEnds greedy c fuel (here.advance (n + 1))
      if greedy then more ++ [here] else here :: more

/-- The ends of the matches that start here, the ones the search prefers first. -/
def Pattern.ends : Pattern → Place → List Place
  | empty, here => [here]
  | char c, here =>
    match c.width here.rest with
    | 0 => []
    | n + 1 => [here.advance (n + 1)]
  | seq p q, here => (p.ends here).flatMap q.ends
  | alt p q, here => p.ends here ++ q.ends here
  | many greedy c, here => manyEnds greedy c here.rest.length here
  | group p, here => (p.ends here).map fun after =>
    { after with group := here.rest.take (here.rest.length - after.rest.length) }
  | wordBoundary, here => if here.isBoundary then [here] else []

theorem matchMany_eq (greedy : Bool) (c : CharClass) (next : Place → Option Place) (fuel : Nat)
    (here : Place) : matchMany greedy c next fuel here =
      (manyEnds greedy c fuel here).findSome? next := by
  induction fuel generalizing here with
  | zero => simp [matchMany, manyEnds]
  | succ fuel ih =>
    rw [matchMany, manyEnds]
    cases c.width here.rest with
    | zero => simp
    | succ n =>
      dsimp only
      rw [ih]
      cases greedy
      · rw [if_neg Bool.false_ne_true, if_neg Bool.false_ne_true, List.findSome?_cons]
        cases next here <;> rfl
      · simp

theorem findSome?_flatMap {α β γ : Type} (f : α → List β) (g : β → Option γ) (xs : List α) :
    (xs.flatMap f).findSome? g = xs.findSome? fun x => (f x).findSome? g := by
  induction xs with
  | nil => rfl
  | cons x xs ih =>
    rw [List.flatMap_cons, List.findSome?_append, ih, List.findSome?_cons]
    cases (f x).findSome? g <;> rfl

/-- The search takes the first end that what follows agrees with. -/
theorem run_eq (p : Pattern) (here : Place) (next : Place → Option Place) :
    p.run here next = (p.ends here).findSome? next := by
  induction p generalizing here next with
  | empty => simp [Pattern.run, Pattern.ends]
  | char c =>
    rw [Pattern.run, Pattern.ends]
    cases c.width here.rest <;> simp
  | seq p q ihp ihq =>
    rw [Pattern.run, Pattern.ends, ihp, findSome?_flatMap]
    simp only [ihq]
  | alt p q ihp ihq => rw [Pattern.run, Pattern.ends, ihp, ihq, List.findSome?_append]
  | many greedy c => exact matchMany_eq greedy c next _ here
  | group p ih =>
    rw [Pattern.run, Pattern.ends, ih, List.findSome?_map]
    rfl
  | wordBoundary =>
    rw [Pattern.run, Pattern.ends]
    split <;> simp

/-- A match alone ends at the first place. -/
theorem run_some (p : Pattern) (here : Place) : p.run here some = (p.ends here).head? := by
  rw [run_eq]
  cases p.ends here <;> rfl

/-! ## Text without a match -/

/-- No match starts anywhere in the text. -/
def Pattern.Misses (p : Pattern) (before : Option UInt8) (s : Str) : Prop :=
  ∀ y x, s = y ++ x → x ≠ [] → p.ends ⟨y.getLast?.or before, x, []⟩ = []

theorem replaceAll_eq_self {p : Pattern} {before : Option UInt8} {s : Str} (h : p.Misses before s)
    (replacement : Str → Str) (fuel : Nat) : p.replaceAll replacement fuel before s = s := by
  induction fuel generalizing before s with
  | zero => rfl
  | succ fuel ih =>
    cases s with
    | nil => rfl
    | cons b s =>
      have hhere := h [] (b :: s) rfl (List.cons_ne_nil b s)
      rw [List.getLast?_nil, Option.none_or] at hhere
      rw [Pattern.replaceAll, run_some, hhere]
      have hrest : p.Misses (some b) s := by
        intro y x hs hx
        have hends := h (b :: y) x (by rw [hs]; rfl) hx
        cases y with
        | nil => exact hends
        | cons c y =>
          rw [List.getLast?_cons_cons, List.getLast?_cons, Option.some_or] at hends
          rwa [List.getLast?_cons, Option.some_or]
      dsimp only [List.head?_nil]
      rw [ih hrest]

theorem replace_eq_self {p : Pattern} {s : Str} (h : p.Misses none s) (replacement : Str → Str) :
    p.replace replacement s = s :=
  replaceAll_eq_self h replacement s.length

/-! ## What a match takes -/

section Ends

variable {p q : Pattern} {c : CharClass} {here after : Place}

theorem mem_ends_seq : after ∈ (p.seq q).ends here ↔ ∃ mid ∈ p.ends here, after ∈ q.ends mid :=
  List.mem_flatMap

theorem mem_ends_alt : after ∈ (p.alt q).ends here ↔ after ∈ p.ends here ∨ after ∈ q.ends here :=
  List.mem_append

theorem mem_ends_char : after ∈ (Pattern.char c).ends here ↔
    ∃ n, c.width here.rest = n + 1 ∧ after = here.advance (n + 1) := by
  rw [Pattern.ends]
  split
  next h => simp [h]
  next n h => simp [h]

theorem mem_ends_boundary : after ∈ Pattern.wordBoundary.ends here ↔
    here.isBoundary = true ∧ after = here := by
  rw [Pattern.ends]
  split
  next h => simp [h]
  next h => simp [h]

/-- The repeats of a class go on from one character to the next. -/
theorem manyEnds_induction {greedy : Bool} {c : CharClass} {P : Place → Place → Prop}
    (done : ∀ here, P here here)
    (more : ∀ here after n, c.width here.rest = n + 1 → P (here.advance (n + 1)) after →
      P here after) {fuel : Nat} {here after : Place} (h : after ∈ manyEnds greedy c fuel here) :
    P here after := by
  induction fuel generalizing here with
  | zero =>
    obtain rfl := List.mem_singleton.mp h
    exact done _
  | succ fuel ih =>
    rw [manyEnds] at h
    split at h
    · obtain rfl := List.mem_singleton.mp h
      exact done _
    next n hn =>
      have hcases : after ∈ manyEnds greedy c fuel (here.advance (n + 1)) ∨ after = here := by
        cases greedy
        · simpa [or_comm] using h
        · simpa using h
      rcases hcases with hmore | rfl
      · exact more here after n hn (ih hmore)
      · exact done _

theorem mem_ends_many {greedy : Bool} {P : Place → Place → Prop} (done : ∀ here, P here here)
    (more : ∀ here after n, c.width here.rest = n + 1 → P (here.advance (n + 1)) after →
      P here after) (h : after ∈ (Pattern.many greedy c).ends here) : P here after :=
  manyEnds_induction done more h

/-- A match takes text from the front. -/
theorem rest_suffix (h : after ∈ p.ends here) : after.rest <:+ here.rest := by
  induction p generalizing here after with
  | empty =>
    obtain rfl := List.mem_singleton.mp h
    exact List.suffix_refl _
  | char c =>
    obtain ⟨n, -, rfl⟩ := mem_ends_char.mp h
    exact List.drop_suffix _ _
  | seq p q ihp ihq =>
    obtain ⟨mid, hmid, hafter⟩ := mem_ends_seq.mp h
    exact (ihq hafter).trans (ihp hmid)
  | alt p q ihp ihq =>
    rcases mem_ends_alt.mp h with hp | hq
    · exact ihp hp
    · exact ihq hq
  | many greedy c =>
    exact mem_ends_many (P := fun here after => after.rest <:+ here.rest)
      (fun _ => List.suffix_refl _)
      (fun _ _ _ _ h => h.trans (List.drop_suffix _ _)) h
  | group p ih =>
    obtain ⟨mid, hmid, rfl⟩ := List.mem_map.mp h
    have hsuffix : mid.rest <:+ here.rest := ih hmid
    exact hsuffix
  | wordBoundary =>
    obtain ⟨-, rfl⟩ := mem_ends_boundary.mp h
    exact List.suffix_refl _

end Ends

/-! ## Compound patterns -/

theorem mem_sequence_cons {p : Pattern} {ps : List Pattern} {here after : Place}
    (h : after ∈ (sequence (p :: ps)).ends here) :
    ∃ mid ∈ p.ends here, after ∈ (sequence ps).ends mid :=
  mem_ends_seq.mp h

theorem mem_sequence_nil {here after : Place} (h : after ∈ (sequence []).ends here) :
    after = here :=
  List.mem_singleton.mp h

theorem mem_choice {ps : List Pattern} (hps : ps ≠ []) {here after : Place}
    (h : after ∈ (choice ps).ends here) : ∃ p ∈ ps, after ∈ p.ends here := by
  induction ps with
  | nil => exact absurd rfl hps
  | cons p ps ih =>
    cases ps with
    | nil => exact ⟨p, List.mem_singleton_self p, h⟩
    | cons q ps =>
      rcases mem_ends_alt.mp h with hp | hq
      · exact ⟨p, List.mem_cons_self, hp⟩
      · obtain ⟨r, hr, hmem⟩ := ih (List.cons_ne_nil q ps) hq
        exact ⟨r, List.mem_cons_of_mem p hr, hmem⟩

/-- A repeated class that must match once. -/
theorem mem_plus {c : CharClass} {here after : Place} (h : after ∈ c.plus.ends here) :
    ∃ mid ∈ (Pattern.char c).ends here, after ∈ (Pattern.many true c).ends mid :=
  mem_ends_seq.mp h

/-! ## ASCII text -/

/-- The characters of a class outside ASCII start with a byte outside ASCII. -/
def CharClass.Outside (c : CharClass) : Prop :=
  ∀ u ∈ c.encodings, ∃ b t, u = b :: t ∧ 0x80 ≤ b

theorem outside_foldedChar (b : UInt8) : (foldedChar b).Outside := by
  intro u hu
  unfold foldedChar at hu
  dsimp only at hu
  split at hu
  · obtain rfl := List.mem_singleton.mp hu
    exact ⟨_, _, rfl, by decide⟩
  split at hu
  · obtain rfl := List.mem_singleton.mp hu
    exact ⟨_, _, rfl, by decide⟩
  · exact absurd hu List.not_mem_nil

theorem outside_alnumAnd (more : String) : (alnumAnd more).Outside := by
  intro u hu
  rcases List.mem_cons.mp hu with rfl | hu
  · exact ⟨_, _, rfl, by decide⟩
  · obtain rfl := List.mem_singleton.mp hu
    exact ⟨_, _, rfl, by decide⟩

theorem outside_of_nil {c : CharClass} (h : c.encodings = []) : c.Outside := by
  intro u hu
  rw [h] at hu
  exact absurd hu List.not_mem_nil

/-- At an ASCII character the class is a set of bytes. -/
theorem width_of_ascii {c : CharClass} (hc : c.Outside) {b : UInt8} (hb : b < 0x80) (s : Str) :
    c.width (b :: s) = if c.bytes b then 1 else 0 := by
  have hfind : c.encodings.find? (fun u => u.isPrefixOf (b :: s)) = none := by
    rw [List.find?_eq_none]
    intro u hu hprefix
    obtain ⟨b', t, rfl, hb'⟩ := hc u hu
    obtain ⟨rest, hrest⟩ := List.isPrefixOf_iff_prefix.mp hprefix
    obtain ⟨rfl, -⟩ := List.cons.inj hrest
    exact absurd hb (UInt8.not_lt.mpr hb')
  rw [CharClass.width, hfind]

theorem width_nil {c : CharClass} (hc : c.Outside) : c.width [] = 0 := by
  have hfind : c.encodings.find? (fun u => u.isPrefixOf []) = none := by
    rw [List.find?_eq_none]
    intro u hu hprefix
    obtain ⟨b', t, rfl, hb'⟩ := hc u hu
    contradiction
  rw [CharClass.width, hfind]

/-- The text from a place on starts with an ASCII character, or is at its end. -/
def AsciiHead (s : Str) : Prop := ∀ b, s.head? = some b → b < 0x80

/-- A character of a class at an ASCII one. -/
theorem char_of_ascii {c : CharClass} (hc : c.Outside) {here after : Place}
    (hhead : AsciiHead here.rest) (h : after ∈ (Pattern.char c).ends here) :
    ∃ b, here.rest = b :: after.rest ∧ c.bytes b = true := by
  obtain ⟨n, hn, rfl⟩ := mem_ends_char.mp h
  cases hrest : here.rest with
  | nil =>
    rw [hrest, width_nil hc] at hn
    contradiction
  | cons b s =>
    rw [hrest] at hn
    rw [width_of_ascii hc (hhead b (by rw [hrest]; rfl))] at hn
    split at hn
    next hb =>
      obtain rfl : n = 0 := by omega
      exact ⟨b, by simp [Place.advance, hrest], hb⟩
    · contradiction

/-- A word at ASCII text, in any case. -/
theorem word_of_ascii {text : String} {here after : Place}
    (hascii : ∀ b ∈ here.rest, b < 0x80) (h : after ∈ (word text).ends here) :
    ∃ t, here.rest = t ++ after.rest ∧ t.map lowerByte = (lit text).map lowerByte := by
  unfold word at h
  generalize lit text = bs at h ⊢
  induction bs generalizing here with
  | nil =>
    obtain rfl := List.mem_singleton.mp h
    exact ⟨[], rfl, rfl⟩
  | cons b bs ih =>
    rw [List.foldr_cons] at h
    obtain ⟨mid, hmid, hafter⟩ := mem_ends_seq.mp h
    obtain ⟨b', hb', hfolded⟩ := char_of_ascii (outside_foldedChar b)
      (fun c hc => hascii c (List.mem_of_mem_head? hc)) hmid
    obtain ⟨t, ht, hlower⟩ := ih (fun c hc => hascii c (hb' ▸ List.mem_cons_of_mem b' hc)) hafter
    refine ⟨b' :: t, by rw [hb', ht]; rfl, ?_⟩
    rw [List.map_cons, List.map_cons, hlower]
    have hsame : lowerByte b' = lowerByte b := by simpa [foldedChar] using hfolded
    rw [hsame]

/-- A word is not empty: its last letter stands before the rest of the text. -/
theorem last_of_word {text : String} {b : UInt8} (hlast : (lit text).getLast? = some b)
    {here after : Place} (hascii : ∀ b ∈ here.rest, b < 0x80)
    (h : after ∈ (word text).ends here) :
    ∃ u x, here.rest = u ++ x :: after.rest ∧ lowerByte x = lowerByte b := by
  obtain ⟨t, ht, hlower⟩ := word_of_ascii hascii h
  have hlast' : (t.map lowerByte).getLast? = some (lowerByte b) := by
    rw [hlower, List.getLast?_map, hlast]
    rfl
  rw [List.getLast?_map] at hlast'
  obtain ⟨x, hx, hsame⟩ := Option.map_eq_some_iff.mp hlast'
  obtain ⟨u, rfl⟩ := List.getLast?_eq_some_iff.mp hx
  exact ⟨u, x, by rw [ht, List.append_assoc]; rfl, hsame⟩

/-- A repeated class takes its own bytes from ASCII text. -/
theorem many_of_ascii {greedy : Bool} {c : CharClass} (hc : c.Outside) {here after : Place}
    (hascii : ∀ b ∈ here.rest, b < 0x80) (h : after ∈ (Pattern.many greedy c).ends here) :
    ∃ t, here.rest = t ++ after.rest ∧ ∀ b ∈ t, c.bytes b = true := by
  revert hascii
  refine mem_ends_many (P := fun here after => (∀ b ∈ here.rest, b < 0x80) →
    ∃ t, here.rest = t ++ after.rest ∧ ∀ b ∈ t, c.bytes b = true) ?_ ?_ h
  · exact fun here _ => ⟨[], rfl, by simp⟩
  · intro here after n hn ih hascii
    have hmid := mem_ends_char.mpr ⟨n, hn, rfl⟩
    obtain ⟨b, hb, hbytes⟩ := char_of_ascii hc
      (fun d hd => hascii d (List.mem_of_mem_head? hd)) hmid
    obtain ⟨t, ht, hall⟩ := ih fun d hd => hascii d (hb ▸ List.mem_cons_of_mem b hd)
    refine ⟨b :: t, by rw [hb, ht]; rfl, ?_⟩
    intro d hd
    rcases List.mem_cons.mp hd with rfl | hd
    · exact hbytes
    · exact hall d hd

end Regex
