import Lune.Lib.JsonText

/-!
# Lower case beyond ASCII

`strings.ToLower` maps a text one character at a time.  What a character beyond ASCII
is mapped to is left open, as long as the mapping has the properties of the table of
Unicode that the facts below need.
-/

namespace GoJson

open GoText

/-! ## The map -/

/-- `unicode.ToLower`, on the UTF-8 bytes of a character. -/
structure CaseMap where
  lower : Str → Str
  ascii : ∀ b, b < 0x80 → lower [b] = [lowerByte b]
  rune : ∀ b more, IsRune b more → ∃ c tail, lower (b :: more) = c :: tail ∧ IsRune c tail
  idempotent : ∀ b more, IsRune b more → lower (lower (b :: more)) = lower (b :: more)
  space : ∀ u ∈ spaces, lower u = u
  spaceOnly : ∀ b more, IsRune b more → lower (b :: more) ∈ spaces → b :: more ∈ spaces
  error : lower replacement = replacement

namespace CaseMap

/-- `strings.ToLower`; the first `skip` bytes belong to a character that is done. -/
def toLowerFrom (m : CaseMap) (skip : Nat) : Str → Str
  | [] => []
  | b :: rest =>
    match skip with
    | skip + 1 => m.toLowerFrom skip rest
    | 0 =>
      match runeTail b rest with
      | some n => m.lower (b :: rest.take n) ++ m.toLowerFrom n rest
      | none => replacement ++ m.toLowerFrom 0 rest

/-- `strings.ToLower`. -/
def toLower (m : CaseMap) (s : Str) : Str := m.toLowerFrom 0 s

variable {m : CaseMap}

@[simp] theorem toLower_nil : m.toLower [] = [] := rfl

theorem toLowerFrom_append (more rest : Str) :
    m.toLowerFrom more.length (more ++ rest) = m.toLower rest := by
  induction more with
  | nil => rfl
  | cons b more ih => exact ih

theorem toLower_rune {b : UInt8} {more : Str} (h : IsRune b more) (rest : Str) :
    m.toLower (b :: (more ++ rest)) = m.lower (b :: more) ++ m.toLower rest := by
  rw [toLower, toLowerFrom]
  simp only [h.found]
  rw [List.take_left, toLowerFrom_append]

theorem toLower_bad {b : UInt8} {rest : Str} (h : runeTail b rest = none) :
    m.toLower (b :: rest) = replacement ++ m.toLower rest := by
  rw [toLower, toLowerFrom]
  simp only [h]
  rfl

theorem isRune_replacement : IsRune 0xEF [0xBF, 0xBD] where
  found := fun _ => rfl
  tail := by decide +kernel
  ascii := by decide

theorem toLower_replacement (rest : Str) :
    m.toLower (replacement ++ rest) = replacement ++ m.toLower rest := by
  have h := toLower_rune (m := m) isRune_replacement rest
  rw [show (0xEF :: [0xBF, 0xBD] : Str) = replacement from rfl, m.error] at h
  exact h

/-- Lower case is lower case already. -/
theorem toLower_toLower (s : Str) : m.toLower (m.toLower s) = m.toLower s := by
  induction s using runes_induction with
  | nil => rfl
  | bad b rest hbad ih => rw [toLower_bad hbad, toLower_replacement, ih]
  | rune b more rest hrune ih =>
    obtain ⟨c, tail, hlower, hc⟩ := m.rune b more hrune
    have hidem := m.idempotent b more hrune
    rw [toLower_rune hrune, hlower, List.cons_append, toLower_rune hc, ih]
    rw [hlower] at hidem
    rw [hidem, List.cons_append]

theorem toLower_cons {b : UInt8} (hb : b < 0x80) (rest : Str) :
    m.toLower (b :: rest) = lowerByte b :: m.toLower rest := by
  have hrune := toLower_rune (m := m) (isRune_of_lt hb) rest
  rw [List.nil_append, m.ascii b hb] at hrune
  exact hrune

/-- ASCII text without capitals is in lower case. -/
theorem toLower_ascii {s : Str} (h : ∀ b ∈ s, b < 0x80 ∧ lowerByte b = b) : m.toLower s = s := by
  induction s with
  | nil => rfl
  | cons b rest ih =>
    obtain ⟨hb, hlower⟩ := h b List.mem_cons_self
    rw [toLower_cons hb, hlower, ih fun c hc => h c (List.mem_cons_of_mem b hc)]

/-! ## Parts of a text -/

/-- A byte that can start a character does not continue one. -/
theorem runeTail_append {b c : UInt8} {rest : Str} (h : runeTail b rest = none)
    (hc : isTail c = false) (t : Str) : runeTail b (rest ++ c :: t) = none := by
  cases hfound : runeTail b (rest ++ c :: t) with
  | none => rfl
  | some n =>
    obtain ⟨more, r, hsplit, hrune, -⟩ := exists_isRune hfound
    have hprefix : ∃ r', rest = more ++ r' := by
      rcases List.append_eq_append_iff.mp hsplit with ⟨extra, hmore, hextra⟩ | ⟨extra, hrest, -⟩
      · cases extra with
        | nil => exact ⟨[], by rw [hmore, List.append_nil, List.append_nil]⟩
        | cons d extra =>
          rw [List.cons_append] at hextra
          have hd : isTail d = true := hrune.tail d (by rw [hmore]; simp)
          rw [← (List.cons.inj hextra).1, hc] at hd
          contradiction
      · exact ⟨extra, hrest⟩
    obtain ⟨r', rfl⟩ := hprefix
    rw [hrune.found r'] at h
    contradiction

/-- A text is lowered part by part where a character starts. -/
theorem toLower_append {c : UInt8} (hc : isTail c = false) (s t : Str) :
    m.toLower (s ++ c :: t) = m.toLower s ++ m.toLower (c :: t) := by
  induction s using runes_induction with
  | nil => rfl
  | bad b rest hbad ih =>
    rw [List.cons_append, toLower_bad (runeTail_append hbad hc t), toLower_bad hbad, ih,
      List.append_assoc]
  | rune b more rest hrune ih =>
    rw [List.cons_append, List.append_assoc, toLower_rune hrune, toLower_rune hrune, ih,
      List.append_assoc]

/-- Two characters at the front of the same text are the same. -/
theorem IsRune.unique {b c : UInt8} {more tail r s : Str} (hb : IsRune b more) (hc : IsRune c tail)
    (h : b :: (more ++ r) = c :: (tail ++ s)) : b = c ∧ more = tail ∧ r = s := by
  obtain ⟨rfl, hrest⟩ := List.cons.inj h
  have hlength : more.length = tail.length := by
    have hfound := hb.found r
    rw [hrest, hc.found s] at hfound
    exact (Option.some.inj hfound).symm
  obtain ⟨hmore, hr⟩ := List.append_inj hrest hlength
  exact ⟨rfl, hmore, hr⟩

/-- The parts of a text that is in lower case are in lower case. -/
theorem fixed_of_append {c : UInt8} (hc : isTail c = false) {s t : Str}
    (h : m.toLower (s ++ c :: t) = s ++ c :: t) :
    m.toLower s = s ∧ m.toLower (c :: t) = c :: t := by
  rw [toLower_append hc] at h
  generalize hrest : m.toLower (c :: t) = u at h
  clear hrest
  induction s using runes_induction with
  | nil => exact ⟨rfl, h⟩
  | bad b rest hbad ih =>
    -- U+FFFD would be a character at the front
    rw [toLower_bad hbad, List.append_assoc, List.cons_append] at h
    obtain ⟨hb, hrest⟩ := List.cons.inj h
    have hfound := runeTail_append hbad hc t
    rw [← hb, ← hrest] at hfound
    exact absurd ((isRune_replacement.found (m.toLower rest ++ u)).symm.trans hfound)
      (Option.some_ne_none _)
  | rune b more rest hrune ih =>
    obtain ⟨d, tail, hlower, hd⟩ := m.rune b more hrune
    rw [toLower_rune hrune, hlower, List.append_assoc, List.cons_append, List.cons_append,
      List.append_assoc] at h
    obtain ⟨rfl, rfl, hrest⟩ := IsRune.unique hd hrune h
    obtain ⟨hfixed, hu⟩ := ih hrest
    refine ⟨?_, hu⟩
    rw [toLower_rune hrune, hlower, hfixed, List.cons_append]

/-! ## White space -/

theorem isRune_of_space {u : Str} (hu : u ∈ spaces) :
    ∃ b more, u = b :: more ∧ IsRune b more ∧ isTail b = false := by
  have hall : ∀ u ∈ spaces, ∃ n, runeTail (u.headD 0) u.tail = some n ∧ n = u.tail.length ∧
      u ≠ [] ∧ isTail (u.headD 0) = false := by
    decide
  obtain ⟨n, hn, hlength, hne, htail⟩ := hall u hu
  cases u with
  | nil => exact absurd rfl hne
  | cons b rest =>
    obtain ⟨more, r, hsplit, hrune, hmore⟩ := exists_isRune hn
    have hr : r = [] := by
      have hsum := congrArg List.length hsplit
      rw [List.length_append] at hsum
      rw [List.tail_cons] at hsum hlength
      exact List.eq_nil_of_length_eq_zero (by omega)
    rw [hr, List.append_nil, List.tail_cons] at hsplit
    exact ⟨b, rest, rfl, hsplit ▸ hrune, htail⟩

/-- White space in front of a text in lower case. -/
theorem fixed_of_spaces {us : List Str} (hus : ∀ u ∈ us, u ∈ spaces) {s : Str}
    (h : m.toLower (us.flatten ++ s) = us.flatten ++ s) : m.toLower s = s := by
  induction us with
  | nil => exact h
  | cons u us ih =>
    refine ih (fun v hv => hus v (List.mem_cons_of_mem u hv)) ?_
    have hu := hus u List.mem_cons_self
    obtain ⟨b, more, rfl, hrune, -⟩ := isRune_of_space hu
    rw [List.flatten_cons, List.append_assoc, List.cons_append, toLower_rune hrune,
      m.space _ hu] at h
    exact List.append_cancel_left h

/-- A text in lower case stays so without the white space around it. -/
theorem fixed_trimSpace {s : Str} (h : m.toLower s = s) : m.toLower (trimSpace s) = trimSpace s := by
  obtain ⟨left, right, hleft, hright, heq⟩ := exists_trimSpace s
  rw [heq] at h
  have hrest := fixed_of_spaces hleft h
  cases right with
  | nil => rwa [List.flatten_nil, List.append_nil] at hrest
  | cons u right =>
    obtain ⟨b, more, rfl, -, hb⟩ := isRune_of_space (hright u List.mem_cons_self)
    rw [List.flatten_cons, List.cons_append] at hrest
    exact (fixed_of_append hb hrest).1

/-- White space at the front of the lower case is there in the text. -/
theorem exists_space_of_toLower {s u r : Str} (hu : u ∈ spaces) (h : m.toLower s = u ++ r) :
    ∃ v ∈ spaces, v <+: s := by
  obtain ⟨c, tail, rfl, hc, -⟩ := isRune_of_space hu
  rw [List.cons_append] at h
  induction s using runes_induction with
  | nil => contradiction
  | bad b rest hbad _ =>
    rw [toLower_bad hbad] at h
    obtain ⟨rfl, rfl, -⟩ := IsRune.unique isRune_replacement hc h
    exact absurd hu (by decide)
  | rune b more rest hrune _ =>
    obtain ⟨d, more', hlower, hd⟩ := m.rune b more hrune
    rw [toLower_rune hrune, hlower, List.cons_append] at h
    obtain ⟨rfl, rfl, -⟩ := IsRune.unique hd hc h
    exact ⟨b :: more, m.spaceOnly b more hrune (hlower ▸ hu), rest, rfl⟩

theorem toLower_eq_nil {s : Str} : m.toLower s = [] ↔ s = [] := by
  constructor
  · intro h
    cases s using runes_induction with
    | nil => rfl
    | bad b rest hbad _ =>
      rw [toLower_bad hbad] at h
      contradiction
    | rune b more rest hrune _ =>
      obtain ⟨c, tail, hlower, -⟩ := m.rune b more hrune
      rw [toLower_rune hrune, hlower] at h
      contradiction
  · rintro rfl
    rfl

end CaseMap

end GoJson
