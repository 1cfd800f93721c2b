import Lune.Lib.RegexSplit

/-!
# Searches with a certain end

A word that stands at the place is taken (`run_word`), and a class that is repeated as
often as it can be takes all of its own bytes when what follows agrees
(`run_many_taken`).  Where a word is not, it starts to differ within the ASCII text in
front (`word_front`).
-/

namespace Regex

open GoText

section Run

variable {c : CharClass} {next : Place → Option Place} {before : Option UInt8} {b : UInt8}
  {r s t group : Str} {found : Place}

theorem width_of_plain (hc : c.encodings = []) (b : UInt8) (s : Str) :
    c.width (b :: s) = if c.bytes b then 1 else 0 := by
  rw [CharClass.width, hc]
  rfl

theorem run_char (h : c.width (b :: s) = 1) :
    (Pattern.char c).run ⟨before, b :: s, group⟩ next = next ⟨some b, s, group⟩ := by
  rw [Pattern.run, h]
  rfl

theorem run_char_none (h : c.width s = 0) :
    (Pattern.char c).run ⟨before, s, group⟩ next = none := by
  rw [Pattern.run, h]

/-- A word is taken where it stands, in any case. -/
theorem run_word {text : String} (ht : ∀ b ∈ t, b < 0x80)
    (hlower : t.map lowerByte = (lit text).map lowerByte) :
    (word text).run ⟨before, t ++ r, group⟩ next = next ⟨t.getLast?.or before, r, group⟩ := by
  unfold word
  generalize lit text = bs at hlower ⊢
  induction bs generalizing t before with
  | nil =>
    obtain rfl := List.map_eq_nil_iff.mp hlower
    rfl
  | cons b bs ih =>
    obtain ⟨d, t, rfl, hd, hrest⟩ := List.map_eq_cons_iff.mp hlower
    have hwidth : (foldedChar b).width (d :: (t ++ r)) = 1 := by
      rw [width_of_ascii (outside_foldedChar b) (ht d List.mem_cons_self)]
      exact if_pos (beq_iff_eq.mpr hd)
    rw [List.foldr_cons, Pattern.run, List.cons_append, run_char hwidth,
      ih (fun e he => ht e (List.mem_cons_of_mem d he)) hrest, List.getLast?_cons]
    cases t.getLast? <;> rfl

/-- All bytes of the class are taken, when what follows agrees. -/
theorem matchMany_taken (hr : c.width r = 0) (fuel : Nat) :
    ∀ {t : Str} {before : Option UInt8}, t.length ≤ fuel →
      (∀ u b v, t = u ++ b :: v → c.width (b :: (v ++ r)) = 1) →
      next ⟨t.getLast?.or before, r, group⟩ = some found →
      matchMany true c next fuel ⟨before, t ++ r, group⟩ = some found := by
  induction fuel with
  | zero =>
    intro t before ht _ hnext
    obtain rfl := List.length_eq_zero_iff.mp (Nat.le_zero.mp ht)
    exact hnext
  | succ fuel ih =>
    intro t before ht hall hnext
    cases t with
    | nil =>
      rw [List.nil_append, matchMany, hr]
      exact hnext
    | cons b t =>
      have hmore : matchMany true c next fuel ⟨some b, t ++ r, group⟩ = some found := by
        refine ih (by rw [List.length_cons] at ht; omega) (fun u d v heq => ?_) ?_
        · exact hall (b :: u) d v (by rw [heq]; rfl)
        · rw [List.getLast?_cons, Option.some_or] at hnext
          rw [← hnext]
          cases t.getLast? <;> rfl
      have hadvance : (Place.mk before (b :: t ++ r) group).advance 1 = ⟨some b, t ++ r, group⟩ := rfl
      rw [matchMany]
      dsimp only
      rw [List.cons_append, hall [] b t rfl]
      dsimp only
      rw [if_pos rfl, ← List.cons_append, hadvance, hmore, Option.some_or]

theorem run_many_taken (hr : c.width r = 0)
    (hall : ∀ u b v, t = u ++ b :: v → c.width (b :: (v ++ r)) = 1)
    (hnext : next ⟨t.getLast?.or before, r, group⟩ = some found) :
    (Pattern.many true c).run ⟨before, t ++ r, group⟩ next = some found :=
  matchMany_taken hr _ (by rw [List.length_append]; omega) hall hnext

/-- The same for a class that must match once. -/
theorem run_plus_taken (ht : t ≠ []) (hr : c.width r = 0)
    (hall : ∀ u b v, t = u ++ b :: v → c.width (b :: (v ++ r)) = 1)
    (hnext : next ⟨t.getLast?.or before, r, group⟩ = some found) :
    c.plus.run ⟨before, t ++ r, group⟩ next = some found := by
  obtain ⟨b, t, rfl⟩ := List.exists_cons_of_ne_nil ht
  rw [CharClass.plus, Pattern.run, List.cons_append, run_char (hall [] b t rfl)]
  refine run_many_taken hr (fun u d v heq => hall (b :: u) d v (by rw [heq]; rfl)) ?_
  rw [List.getLast?_cons, Option.some_or] at hnext
  rw [← hnext]
  cases t.getLast? <;> rfl

/-- The same for a class that must match `n` times. -/
theorem run_atLeast_taken (n : Nat) : ∀ {t : Str} {before : Option UInt8}, n ≤ t.length →
    c.width r = 0 → (∀ u b v, t = u ++ b :: v → c.width (b :: (v ++ r)) = 1) →
    next ⟨t.getLast?.or before, r, group⟩ = some found →
    (c.atLeast n).run ⟨before, t ++ r, group⟩ next = some found := by
  induction n with
  | zero => exact fun _ hr hall hnext => run_many_taken hr hall hnext
  | succ n ih =>
    intro t before hn hr hall hnext
    cases t with
    | nil => exact absurd hn (Nat.not_succ_le_zero n)
    | cons b t =>
      rw [CharClass.atLeast, Pattern.run, List.cons_append, run_char (hall [] b t rfl)]
      refine ih (Nat.le_of_succ_le_succ hn) hr
        (fun u d v heq => hall (b :: u) d v (by rw [heq]; rfl)) ?_
      rw [List.getLast?_cons, Option.some_or] at hnext
      rw [← hnext]
      cases t.getLast? <;> rfl

theorem run_none {p : Pattern} (h : p.ends ⟨before, s, group⟩ = []) :
    p.run ⟨before, s, group⟩ next = none := by
  rw [run_eq, h]
  rfl

end Run

/-! ## Where a word is not -/

/-- A word agrees with the ASCII text in front. -/
theorem word_front {text : String} {here after : Place} {x y : Str} (hs : here.rest = x ++ y)
    (hx : ∀ b ∈ x, b < 0x80) (h : after ∈ (word text).ends here) :
    (x.map lowerByte).take (lit text).length = ((lit text).map lowerByte).take x.length := by
  unfold word at h
  generalize lit text = bs at h ⊢
  induction bs generalizing here x with
  | nil => rw [List.length_nil, List.take_zero, List.map_nil, List.take_nil]
  | cons b bs ih =>
    cases x with
    | nil => rw [List.length_nil, List.take_zero, List.map_nil, List.take_nil]
    | cons d x =>
      rw [List.foldr_cons] at h
      obtain ⟨mid, hmid, hafter⟩ := mem_ends_seq.mp h
      have hhead : AsciiHead here.rest := by
        intro e he
        rw [hs, List.cons_append, List.head?_cons, Option.some.injEq] at he
        exact he ▸ hx d List.mem_cons_self
      obtain ⟨e, he, hfolded⟩ := char_of_ascii (outside_foldedChar b) hhead hmid
      obtain ⟨rfl, hrest⟩ := List.cons.inj (he.symm.trans hs)
      have hmore := ih hrest (fun f hf => hx f (List.mem_cons_of_mem e hf)) hafter
      have hsame : lowerByte e = lowerByte b := beq_iff_eq.mp hfolded
      rw [List.map_cons, List.length_cons, List.take_succ_cons, List.map_cons, List.length_cons,
        List.take_succ_cons, hsame]
      exact congrArg _ hmore

/-! ## Texts that a class is not in front of -/

section Front

variable {p : Pattern} {c c' : CharClass} {replacement : Str → Str} {before : Option UInt8}
  {s u : Str}

theorem width_eq_zero (hc : c.Foreign) : c.width s = 0 ↔
    (∀ u ∈ c.encodings, ¬u <+: s) ∧ ∀ b, s.head? = some b → c.bytes b = false := by
  unfold CharClass.width
  cases hfind : c.encodings.find? (fun u => u.isPrefixOf s) with
  | some u =>
    have hmem := List.mem_of_find?_eq_some hfind
    have hfront := List.find?_some (p := fun u : Str => u.isPrefixOf s) hfind
    refine ⟨fun h => absurd (List.length_eq_zero_iff.mp h) (hc u hmem).1, fun h => ?_⟩
    exact absurd (List.isPrefixOf_iff_prefix.mp hfront) (h.1 u hmem)
  | none =>
    have hnone : ∀ u ∈ c.encodings, ¬u <+: s := by
      intro u hu hfront
      exact List.find?_eq_none.mp hfind u hu (List.isPrefixOf_iff_prefix.mpr hfront)
    cases s with
    | nil => simpa using hnone
    | cons b s => simpa using fun _ => hnone

/-- A class with fewer characters is not in front, either. -/
theorem width_mono (hc : c.Foreign) (hc' : c'.Foreign)
    (hbytes : ∀ b, c.bytes b = true → c'.bytes b = true)
    (hencodings : ∀ u ∈ c.encodings, u ∈ c'.encodings) (h : c'.width s = 0) : c.width s = 0 := by
  obtain ⟨hnone, hhead⟩ := (width_eq_zero hc').mp h
  refine (width_eq_zero hc).mpr ⟨fun u hu => hnone u (hencodings u hu), fun b hb => ?_⟩
  have hbyte := hhead b hb
  by_contra hnot
  rw [Bool.not_eq_false] at hnot
  rw [hbytes b hnot] at hbyte
  contradiction

/-- A word starts with its first letter. -/
theorem word_first {text : String} {b : UInt8} {here after : Place}
    (htext : (lit text).head? = some b) (h : after ∈ (word text).ends here) :
    (foldedChar b).width here.rest ≠ 0 := by
  unfold word at h
  generalize lit text = bs at htext h
  cases bs with
  | nil => contradiction
  | cons d bs =>
    obtain rfl := Option.some.inj htext
    obtain ⟨mid, hmid, -⟩ := mem_ends_seq.mp h
    obtain ⟨n, hn, -⟩ := mem_ends_char.mp hmid
    omega

/-- Bytes outside ASCII in front are those of the text, when the replacements are ASCII. -/
theorem front_of_replaceFrom (hne : ∀ group, ∃ b t, replacement group = b :: t ∧ b < 0x80)
    (hu : ∀ b ∈ u, 0x80 ≤ b) (h : u <+: p.replaceFrom replacement before s) : u <+: s := by
  unfold Pattern.replaceFrom at h
  generalize s.length = fuel at h
  induction fuel generalizing u before s with
  | zero => exact h
  | succ fuel ih =>
    cases s with
    | nil => exact h
    | cons d s =>
      cases u with
      | nil => exact List.nil_prefix
      | cons b u =>
        rw [Pattern.replaceAll] at h
        split at h
        next after hafter =>
          obtain ⟨e, t, hreplacement, he⟩ := hne after.group
          rw [hreplacement, List.cons_append, List.cons_prefix_cons] at h
          exact absurd (h.1 ▸ he) (UInt8.not_lt.mpr (hu b List.mem_cons_self))
        · rw [List.cons_prefix_cons] at h
          obtain ⟨rfl, hrest⟩ := h
          rw [List.cons_prefix_cons]
          exact ⟨rfl, ih (fun e he => hu e (List.mem_cons_of_mem b he)) hrest⟩

/-- A class that is not in front of a text is not in front of it after a replacement, when
no match starts there. -/
theorem width_replaceFrom (hc : c.Foreign)
    (hne : ∀ group, ∃ b t, replacement group = b :: t ∧ b < 0x80) (h : c.width s = 0)
    (hmiss : p.ends ⟨before, s, []⟩ = []) : c.width (p.replaceFrom replacement before s) = 0 := by
  obtain ⟨hnone, hhead⟩ := (width_eq_zero hc).mp h
  refine (width_eq_zero hc).mpr ⟨fun u hu hfront => ?_, fun b hb => ?_⟩
  · exact hnone u hu (front_of_replaceFrom hne (hc u hu).2 hfront)
  · cases s with
    | nil => contradiction
    | cons d s =>
      rw [replaceFrom_none hmiss] at hb
      exact hhead b hb

end Front

/-! ## Letters -/

section Letters

variable {more : String} {b : UInt8} {before : Option UInt8} {s group : Str}

theorem ascii_of_lowerByte (h : lowerByte b < 0x80) : b < 0x80 := by
  unfold lowerByte at h
  split at h
  · grind
  · exact h

theorem isWordByte_of_letter (h : 97 ≤ lowerByte b ∧ lowerByte b ≤ 122) : isWordByte b = true := by
  unfold lowerByte at h
  unfold isWordByte
  split at h
  next hupper => simp [hupper]
  · simp [h]

theorem alnum_of_lowerByte (h : (alnumAnd more).bytes (lowerByte b) = true) :
    (alnumAnd more).bytes b = true := by
  unfold lowerByte at h
  split at h
  next hupper => simp [alnumAnd, hupper]
  · exact h

/-- No word starts where no letter is in front. -/
theorem word_none {text : String} (htext : (lit text).head? = some b)
    (hb : 97 ≤ lowerByte b ∧ lowerByte b ≤ 122) (h : (alnumAnd more).width s = 0) :
    (word text).ends ⟨before, s, group⟩ = [] := by
  refine List.eq_nil_iff_forall_not_mem.mpr fun after hafter => ?_
  refine word_first htext hafter (width_mono (foreign_foldedChar b) (foreign_alnumAnd more) ?_ ?_ h)
  · intro c hc
    have hlower : lowerByte c = lowerByte b := beq_iff_eq.mp hc
    refine alnum_of_lowerByte ?_
    rw [hlower]
    simp [alnumAnd, hb]
  · intro u hu
    unfold foldedChar at hu
    dsimp only at hu
    split at hu
    · exact List.mem_cons.mpr (Or.inl (List.mem_singleton.mp hu))
    split at hu
    · exact List.mem_cons_of_mem _ hu
    · exact absurd hu List.not_mem_nil

end Letters

/-! ## Parts of a text that stay -/

section Parts

variable {p : Pattern} {replacement : Str → Str} {before : Option UInt8} {s : Str}

/-- A byte with which no match starts stays in front. -/
theorem replaceFrom_head (hcons : p.consumes = true) (hp : p.All CharClass.Foreign) {d : UInt8}
    (hd : d < 0x80) (hstart : p.starts d = false) :
    p.replaceFrom replacement before (d :: s) = d :: p.replaceFrom replacement (some d) s :=
  replaceFrom_none (ends_nil_of_starts hcons hp hd hstart before s [])

/-- What is before a text that no match starts in, and what is behind it, are rewritten
each on its own. -/
theorem replace_around {fixed a a' : Str} (hcons : p.consumes = true)
    (hp : p.All CharClass.Foreign) (hne : fixed ≠ []) (hascii : AsciiHead fixed)
    (hskips : ∀ before behind, p.replaceFrom replacement before (fixed ++ behind) =
      fixed ++ p.replaceFrom replacement (fixed.getLast?.or before) behind)
    (hstays : ∀ behind, p.StaysIn none a (fixed ++ behind))
    (hleft : p.replace replacement (a ++ fixed) = a' ++ fixed) (behind : Str) :
    p.replace replacement (a ++ (fixed ++ behind)) =
      a' ++ (fixed ++ p.replaceFrom replacement fixed.getLast? behind) := by
  have hlast : ∀ before : Option UInt8, fixed.getLast?.or before = fixed.getLast? := by
    intro before
    rw [List.getLast?_eq_some_getLast hne, Option.some_or]
  obtain ⟨r, hr⟩ := replaceFrom_fixed replacement hcons hp hne hascii hstays
  simp only [hskips, hlast] at hr
  have hnil := hr []
  rw [List.append_nil, replaceFrom_nil, List.append_nil] at hnil
  obtain rfl := List.append_cancel_right (hnil.symm.trans hleft)
  exact hr behind

end Parts

end Regex
