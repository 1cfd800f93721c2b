import Lune.Lib.RegexSearch
import Lune.Store.Redaction

/-!
# Credentials in an error message

What `sanitizeRequestLogError` keeps of the value of a credential.  `authHeaderPattern`
takes one word behind a name and a separator, `bearerTokenPattern` the token behind the
scheme `Bearer`, and `apiKeyPattern` a key of its own shape wherever it stands.  A value
that one of them takes as a whole leaves no trace in the stored text (`sanitize_hides`).

A match that starts before the name can take the name with it, and then the value stays;
`Clears` says that no such match is there.
-/

namespace Lune.Store

open GoText Regex

/-! ## The three passes -/

/-- The pass of `bearerTokenPattern`. -/
def redactBearer (message : Str) : Str :=
  bearerTokenPattern.replace (fun _ => lit "Bearer [redacted]") message

/-- The pass of `apiKeyPattern`. -/
def redactApiKey (message : Str) : Str :=
  apiKeyPattern.replace (fun _ => lit "[redacted]") message

/-- The pass of `authHeaderPattern`. -/
def redactAuthHeader (message : Str) : Str :=
  authHeaderPattern.replace (fun group => group ++ lit "=[redacted]") message

/-- The passes that look for credentials. -/
def redactCredentials (message : Str) : Str :=
  redactAuthHeader (redactApiKey (redactBearer message))

/-- The names that introduce a credential. -/
def credentialNames : List Str :=
  [lit "authorization", lit "x-api-key", lit "api_key", lit "access_token", lit "refresh_token"]

/-- The bytes that end a word of `authHeaderPattern`. -/
def delimiters : List UInt8 := [44, 32, 9, 10, 12, 13, 125]

/-- The bytes behind which a value starts. -/
def openers : List UInt8 := [32, 9, 10, 12, 13, 34, 58, 61]

/-- The words of `apiKeyPattern`, and how many characters at least stand behind them. -/
def keyWords : List (String × Nat) := [("sk-", 8), ("sess-", 8), ("eyJ", 12)]

/-- White space of the patterns. -/
def Blank (s : Str) : Prop := ∀ b ∈ s, space.bytes b = true

/-- A colon or an equals sign, with white space around it. -/
def IsSeparator (gap : Str) : Prop :=
  ∃ s c s', gap = s ++ c :: s' ∧ Blank s ∧ (c = 58 ∨ c = 61) ∧ Blank s'

/-- A message without the value of its credential. -/
structure Frame where
  pre : Str
  name : Str
  gap : Str
  post : Str

namespace Frame

/-- The name and what stands between it and the value. -/
def intro (f : Frame) : Str := f.name ++ f.gap

/-- The message with a value. -/
def text (f : Frame) (value : Str) : Str := f.pre ++ (f.intro ++ (value ++ f.post))

/-- A separator, a scheme word and white space. -/
def HasScheme (f : Frame) (word : Str) : Prop :=
  ∃ sep blank, f.gap = sep ++ (word ++ blank) ∧ IsSeparator sep ∧ blank ≠ [] ∧ Blank blank

/-- No match of the first three patterns that starts before the name goes over it.  The
first two leave `pre₁` and `pre₂` of what stands there. -/
structure Clears (f : Frame) (pre₁ pre₂ : Str) : Prop where
  bearer : ∀ behind, bearerTokenPattern.StaysIn none f.pre (f.intro ++ behind)
  left₁ : redactBearer (f.pre ++ f.intro) = pre₁ ++ f.intro
  apiKey : ∀ behind, apiKeyPattern.StaysIn none pre₁ (f.intro ++ behind)
  left₂ : redactApiKey (pre₁ ++ f.intro) = pre₂ ++ f.intro
  authHeader : ∀ behind, authHeaderPattern.StaysIn none pre₂ (f.intro ++ behind)

/-- One word behind the separator. -/
structure CoversWord (f : Frame) (value : Str) : Prop where
  separator : IsSeparator f.gap
  clear : ∃ pre₁ pre₂, f.Clears pre₁ pre₂
  nonempty : value ≠ []
  word : ∀ b ∈ value, b ∉ delimiters
  ended : ∀ b, f.post.head? = some b → b ∈ delimiters
  noBearer : bearerTokenPattern.StaysIn none value f.post

/-- A token behind `Bearer`. -/
structure CoversToken (f : Frame) (value : Str) : Prop where
  scheme : ∃ word, word.map lowerByte = lit "bearer" ∧ f.HasScheme word
  clear : ∀ behind, bearerTokenPattern.StaysIn none f.pre (f.intro ++ behind)
  nonempty : value ≠ []
  token : ∀ b ∈ value, b < 0x80 ∧ (alnumAnd "._~+/=-").bytes b = true
  ended : (alnumAnd "._~+/=-").width f.post = 0

/-- An API key, however it is introduced. -/
structure CoversKey (f : Frame) (value : Str) : Prop where
  shape : ∃ k ∈ keyWords, ∃ word tail, value = word ++ tail ∧
    word.map lowerByte = (lit k.1).map lowerByte ∧ k.2 ≤ tail.length ∧
    ∀ b ∈ tail, b < 0x80 ∧ (alnumAnd "._-").bytes b = true
  last : value.getLast?.any isWordByte = true
  ended : (alnumAnd "._-").width f.post = 0
  apart : ∃ s d, f.pre ++ f.intro = s ++ [d] ∧ d ∈ openers ∧
    bearerTokenPattern.StaysIn none s (d :: (value ++ f.post))
  noBearer : bearerTokenPattern.StaysIn none value f.post

/-- The value is one that a pattern takes as a whole. -/
inductive Covers (f : Frame) (value : Str) : Prop where
  | word (h : f.CoversWord value)
  | token (h : f.CoversToken value)
  | key (h : f.CoversKey value)

end Frame

/-! ## The patterns -/

theorem foreign_bearer : bearerTokenPattern.All CharClass.Foreign := by
  refine all_sequence fun p hp => ?_
  simp only [List.mem_cons, List.not_mem_nil, or_false] at hp
  rcases hp with rfl | rfl | rfl
  · exact all_word fun _ _ => foreign_foldedChar _
  · exact all_plus (foreign_of_nil rfl)
  · exact all_plus (foreign_alnumAnd _)

theorem foreign_apiKey : apiKeyPattern.All CharClass.Foreign := by
  refine all_sequence fun p hp => ?_
  simp only [List.mem_cons, List.not_mem_nil, or_false] at hp
  rcases hp with rfl | rfl | rfl
  · trivial
  · refine all_choice fun q hq => ?_
    simp only [List.mem_cons, List.not_mem_nil, or_false] at hq
    rcases hq with rfl | rfl | rfl <;>
    exact ⟨all_word fun _ _ => foreign_foldedChar _, all_atLeast (foreign_alnumAnd _) _⟩
  · trivial

theorem foreign_authHeader : authHeaderPattern.All CharClass.Foreign := by
  have hseparator : (oneOf [95, 45]).optional.All CharClass.Foreign := ⟨foreign_of_nil rfl, trivial⟩
  have hnames : ∀ first second : String, (Regex.sequence
      [word first, (oneOf [95, 45]).optional, word second]).All CharClass.Foreign := by
    intro first second
    refine all_sequence fun p hp => ?_
    simp only [List.mem_cons, List.not_mem_nil, or_false] at hp
    rcases hp with rfl | rfl | rfl
    · exact all_word fun _ _ => foreign_foldedChar _
    · exact hseparator
    · exact all_word fun _ _ => foreign_foldedChar _
  refine all_sequence fun p hp => ?_
  simp only [List.mem_cons, List.not_mem_nil, or_false] at hp
  rcases hp with rfl | rfl | rfl | rfl | rfl
  · refine all_choice fun q hq => ?_
    simp only [List.mem_cons, List.not_mem_nil, or_false] at hq
    rcases hq with rfl | rfl | rfl | rfl | rfl
    · exact all_word fun _ _ => foreign_foldedChar _
    · exact all_word fun _ _ => foreign_foldedChar _
    · exact hnames _ _
    · exact hnames _ _
    · exact hnames _ _
  · exact foreign_of_nil rfl
  · exact foreign_of_nil rfl
  · exact foreign_of_nil rfl
  · exact all_plus (foreign_of_nil rfl)

/-- `bearer` starts with a `b`. -/
theorem starts_bearer (b : UInt8) : bearerTokenPattern.starts b = (lowerByte b == 98) := by
  obtain ⟨hcons, hstarts⟩ : (word "bearer").consumes = true ∧
      (word "bearer").starts b = (lowerByte b == 98) := starts_word rfl b
  simp [bearerTokenPattern, Regex.sequence, Pattern.starts, hcons, hstarts]

/-- The keys start with an `s` or an `e`. -/
theorem starts_apiKey (b : UInt8) :
    apiKeyPattern.starts b = (lowerByte b == 115 || lowerByte b == 101) := by
  obtain ⟨hcons₁, hstarts₁⟩ : (word "sk-").consumes = true ∧
      (word "sk-").starts b = (lowerByte b == 115) := starts_word rfl b
  obtain ⟨hcons₂, hstarts₂⟩ : (word "sess-").consumes = true ∧
      (word "sess-").starts b = (lowerByte b == 115) := starts_word rfl b
  obtain ⟨hcons₃, hstarts₃⟩ : (word "eyJ").consumes = true ∧
      (word "eyJ").starts b = (lowerByte b == 101) := starts_word rfl b
  simp only [apiKeyPattern, Regex.sequence, choice, List.foldr_cons, List.foldr_nil, Pattern.starts,
    Pattern.consumes, hcons₁, hstarts₁, hcons₂, hstarts₂, hcons₃, hstarts₃]
  cases lowerByte b == 115 <;> simp

/-- A word and a repeated class of a key avoid a delimiter. -/
theorem avoids_apiKey {d : UInt8} (hd : d ∈ delimiters ++ openers) :
    apiKeyPattern.All (CharClass.Avoids d) := by
  have hletters : (lit "sk-sess-eyJ").all (fun b => (delimiters ++ openers).all fun d =>
      d < 0x80 && lowerByte d != lowerByte b) = true := by decide
  have hword : ∀ text : String, ((lit text).all fun b => (lit "sk-sess-eyJ").contains b) = true →
      (word text).All (CharClass.Avoids d) := by
    intro text htext
    refine all_word fun b hb => ?_
    have hletter := List.contains_iff_mem.mp (List.all_eq_true.mp htext b hb)
    have hboth := List.all_eq_true.mp (List.all_eq_true.mp hletters b hletter) d hd
    simp only [Bool.and_eq_true, decide_eq_true_eq, bne_iff_ne, ne_eq] at hboth
    exact avoids_foldedChar hboth.1 hboth.2
  have hclass : (alnumAnd "._-").Avoids d := by
    have hall : (delimiters ++ openers).all (fun d => !(alnumAnd "._-").bytes d &&
        (alnumAnd "._-").encodings.all fun u => !u.contains d) = true := by decide
    simpa [CharClass.Avoids] using List.all_eq_true.mp hall d hd
  refine all_sequence fun p hp => ?_
  simp only [List.mem_cons, List.not_mem_nil, or_false] at hp
  rcases hp with rfl | rfl | rfl
  · trivial
  · refine all_choice fun q hq => ?_
    simp only [List.mem_cons, List.not_mem_nil, or_false] at hq
    rcases hq with rfl | rfl | rfl
    · exact ⟨hword "sk-" (by decide), all_atLeast hclass _⟩
    · exact ⟨hword "sess-" (by decide), all_atLeast hclass _⟩
    · exact ⟨hword "eyJ" (by decide), all_atLeast hclass _⟩
  · trivial

/-! ## The name and the separator -/

section Intro

variable {name gap : Str} {b : UInt8}

theorem name_byte (hname : name.map lowerByte ∈ credentialNames) (hb : b ∈ name) :
    b < 0x80 ∧ lowerByte b ≠ 98 := by
  have hall : credentialNames.all (fun n => n.all fun b => b < 0x80 && b != 98) = true := by decide
  have hboth := List.all_eq_true.mp (List.all_eq_true.mp hall _ hname) _ (List.mem_map_of_mem hb)
  simp only [Bool.and_eq_true, decide_eq_true_eq, bne_iff_ne, ne_eq] at hboth
  exact ⟨ascii_of_lowerByte hboth.1, hboth.2⟩

theorem name_ne_nil (hname : name.map lowerByte ∈ credentialNames) : name ≠ [] := by
  rintro rfl
  exact absurd hname (by decide)

theorem blank_byte (h : space.bytes b = true) : b ∈ [32, 9, 10, 12, 13] := by
  simpa [space, or_assoc] using h

/-- The bytes of a separator. -/
theorem separator_byte (hgap : IsSeparator gap) (hb : b ∈ gap) :
    b ∈ [32, 9, 10, 12, 13, 58, 61] := by
  obtain ⟨s, c, s', rfl, hs, hc, hs'⟩ := hgap
  have hblank : ∀ {b : UInt8}, space.bytes b = true → b ∈ [32, 9, 10, 12, 13, 58, 61] :=
    fun h => List.mem_append_left [58, 61] (blank_byte h)
  rcases List.mem_append.mp hb with hb | hb
  · exact hblank (hs b hb)
  rcases List.mem_cons.mp hb with rfl | hb
  · rcases hc with rfl | rfl <;> decide
  · exact hblank (hs' b hb)

theorem separator_ne_nil (hgap : IsSeparator gap) : gap ≠ [] := by
  obtain ⟨s, c, s', rfl, -, -, -⟩ := hgap
  exact List.append_ne_nil_of_right_ne_nil s (List.cons_ne_nil c s')

theorem separator_quiet (hgap : IsSeparator gap) (hb : b ∈ gap) :
    b < 0x80 ∧ lowerByte b ≠ 98 ∧ lowerByte b ≠ 115 ∧ lowerByte b ≠ 101 := by
  have hmem := separator_byte hgap hb
  simp only [List.mem_cons, List.not_mem_nil, or_false] at hmem
  rcases hmem with rfl | rfl | rfl | rfl | rfl | rfl | rfl <;> decide

end Intro

/-! ## What the passes leave alone -/

section Quiet

variable {p : Pattern} {replacement : Str → Str} {before : Option UInt8} {s : Str}

theorem sign_byte {d : UInt8} (hd : d ∈ delimiters ++ openers) :
    d < 0x80 ∧ isWordByte d = false ∧ lowerByte d ≠ 98 ∧ lowerByte d ≠ 115 ∧ lowerByte d ≠ 101 := by
  have hall : (delimiters ++ openers).all (fun d => d < 0x80 && !isWordByte d &&
      lowerByte d != 98 && lowerByte d != 115 && lowerByte d != 101) = true := by decide
  simpa [and_assoc] using List.all_eq_true.mp hall d hd

theorem delimiter_byte {d : UInt8} (hd : d ∈ delimiters) :
    d < 0x80 ∧ isWordByte d = false ∧ lowerByte d ≠ 98 ∧ lowerByte d ≠ 115 ∧ lowerByte d ≠ 101 :=
  sign_byte (List.mem_append_left openers hd)

theorem opener_byte {d : UInt8} (hd : d ∈ openers) :
    d < 0x80 ∧ isWordByte d = false ∧ lowerByte d ≠ 98 ∧ lowerByte d ≠ 115 ∧ lowerByte d ≠ 101 :=
  sign_byte (List.mem_append_right delimiters hd)

theorem quiet_bearer {d : UInt8} (h : lowerByte d ≠ 98) : bearerTokenPattern.starts d = false := by
  rw [starts_bearer]
  exact beq_eq_false_iff_ne.mpr h

theorem quiet_apiKey {d : UInt8} (hs : lowerByte d ≠ 115) (he : lowerByte d ≠ 101) :
    apiKeyPattern.starts d = false := by
  rw [starts_apiKey, beq_eq_false_iff_ne.mpr hs, beq_eq_false_iff_ne.mpr he]
  rfl

/-- A match of `bearer` has white space in it. -/
theorem bearer_blank {here after : Place} (h : after ∈ bearerTokenPattern.ends here) :
    ∃ t b u, here.rest = t ++ b :: (u ++ after.rest) ∧ space.bytes b = true := by
  obtain ⟨mid, hword, hrest⟩ := mem_sequence_cons h
  obtain ⟨mid', hspace, hchars⟩ := mem_sequence_cons hrest
  obtain ⟨mid'', hchar, hmore⟩ := mem_plus hspace
  obtain ⟨t, ht⟩ := rest_suffix hword
  obtain ⟨n, hn, rfl⟩ := mem_ends_char.mp hchar
  cases hs : mid.rest with
  | nil =>
    rw [hs, width_nil (outside_of_nil rfl)] at hn
    contradiction
  | cons b s =>
    rw [hs, width_of_plain rfl] at hn
    split at hn
    next hbytes =>
      obtain rfl : n = 0 := by omega
      have hafter : after.rest <:+ s := by
        have hboth := (rest_suffix hchars).trans (rest_suffix hmore)
        unfold Place.advance at hboth
        rwa [hs] at hboth
      obtain ⟨u, rfl⟩ := hafter
      exact ⟨t, b, u, by rw [← ht, hs], hbytes⟩
    · contradiction

/-- No match of `bearer` starts in a value without white space. -/
theorem bearer_skips {a b : Str} (ha : ∀ d ∈ a, space.bytes d = false)
    (hstays : bearerTokenPattern.StaysIn none a b) :
    bearerTokenPattern.replaceFrom replacement before (a ++ b) =
      a ++ bearerTokenPattern.replaceFrom replacement none b := by
  rw [replaceFrom_skip, replaceFrom_before rfl replacement _ none b]
  intro y x hyx hx
  refine List.eq_nil_iff_forall_not_mem.mpr fun after hafter => ?_
  cases hhead : (bearerTokenPattern.ends ⟨y.getLast?.or before, x ++ b, []⟩).head? with
  | none =>
    rw [List.head?_eq_none_iff.mp hhead] at hafter
    exact absurd hafter List.not_mem_nil
  | some found =>
    have hle := hstays.of_before rfl before y x hyx hx found hhead
    obtain ⟨t, c, u, ht, hc⟩ : ∃ t c u, x ++ b = t ++ c :: (u ++ found.rest) ∧
        space.bytes c = true := bearer_blank (List.mem_of_mem_head? hhead)
    -- the white space would be in the value
    obtain ⟨z, hz⟩ := List.suffix_of_suffix_length_le (List.suffix_append x b)
      (⟨t ++ c :: u, by rw [ht]; simp⟩ : found.rest <:+ x ++ b) hle
    rw [← hz, ← List.append_assoc, ← List.cons_append, ← List.append_assoc] at ht
    have hx' := List.append_cancel_right ht
    have hmem : c ∈ a := by
      rw [hyx, hx']
      simp
    rw [ha c hmem] at hc
    contradiction

/-- An API key starts with one of its words. -/
theorem apiKey_word {here after : Place} (h : after ∈ apiKeyPattern.ends here) :
    ∃ text ∈ ["sk-", "sess-", "eyJ"], ∃ mid, mid ∈ (word text).ends here := by
  obtain ⟨mid, hboundary, hrest⟩ := mem_sequence_cons h
  obtain ⟨-, rfl⟩ := mem_ends_boundary.mp hboundary
  obtain ⟨mid', hchoice, -⟩ := mem_sequence_cons hrest
  obtain ⟨p, hp, hmid⟩ := mem_choice (by decide) hchoice
  simp only [List.mem_cons, List.not_mem_nil, or_false] at hp
  rcases hp with rfl | rfl | rfl
  · obtain ⟨m, hm, -⟩ := mem_ends_seq.mp hmid
    exact ⟨"sk-", by decide, m, hm⟩
  · obtain ⟨m, hm, -⟩ := mem_ends_seq.mp hmid
    exact ⟨"sess-", by decide, m, hm⟩
  · obtain ⟨m, hm, -⟩ := mem_ends_seq.mp hmid
    exact ⟨"eyJ", by decide, m, hm⟩

/-- No word of an API key stands in a name, with the byte behind it. -/
theorem no_key_in_names : credentialNames.all (fun name => name.tails.all fun u =>
    u.isEmpty || [32, 9, 10, 12, 13, 58, 61].all fun d => ["sk-", "sess-", "eyJ"].all fun text =>
      ((u ++ [d]).take (lit text).length !=
        ((lit text).map lowerByte).take (u ++ [d]).length)) = true := by
  decide +kernel

/-- No API key starts in a name and a separator. -/
theorem apiKey_skips {name gap : Str} (hname : name.map lowerByte ∈ credentialNames)
    (hgap : IsSeparator gap) (behind : Str) :
    apiKeyPattern.replaceFrom replacement before ((name ++ gap) ++ behind) =
      (name ++ gap) ++ apiKeyPattern.replaceFrom replacement ((name ++ gap).getLast?.or before)
        behind := by
  -- a match that starts in the separator
  have hseparator : ∀ {x : Str} {b : Option UInt8}, x ≠ [] → x <:+ gap →
      apiKeyPattern.ends ⟨b, x ++ behind, []⟩ = [] := by
    intro x b hx hsuffix
    obtain ⟨d, x, rfl⟩ := List.exists_cons_of_ne_nil hx
    obtain ⟨hascii, -, hs, he⟩ := separator_quiet hgap (hsuffix.subset List.mem_cons_self)
    exact ends_nil_of_starts rfl foreign_apiKey hascii (quiet_apiKey hs he) _ _ _
  refine replaceFrom_skip fun y x hyx hx => ?_
  rcases List.append_eq_append_iff.mp hyx with ⟨u, rfl, hu⟩ | ⟨u, hu, rfl⟩
  · exact hseparator hx ⟨u, hu.symm⟩
  by_cases hnil : u = []
  · subst hnil
    exact hseparator hx (List.suffix_refl _)
  -- a match that starts in the name
  obtain ⟨d, gap', hd⟩ := List.exists_cons_of_ne_nil (separator_ne_nil hgap)
  have hd' := separator_byte hgap (hd ▸ List.mem_cons_self : d ∈ gap)
  refine List.eq_nil_iff_forall_not_mem.mpr fun after hafter => ?_
  obtain ⟨text, htext, mid, hmid⟩ := apiKey_word hafter
  have hascii : ∀ b ∈ u ++ [d], b < 0x80 := by
    intro b hb
    rcases List.mem_append.mp hb with hb | hb
    · exact (name_byte hname (by rw [hu]; exact List.mem_append_right y hb)).1
    · obtain rfl := List.mem_singleton.mp hb
      exact (separator_quiet hgap (hd ▸ List.mem_cons_self)).1
  have hfront := word_front (y := gap' ++ behind) (x := u ++ [d])
    (by rw [hd]; simp) hascii hmid
  have htails : u.map lowerByte ∈ (name.map lowerByte).tails := by
    rw [List.mem_tails, hu, List.map_append]
    exact List.suffix_append _ _
  have hnone := List.all_eq_true.mp (List.all_eq_true.mp no_key_in_names _ hname) _ htails
  rw [Bool.or_eq_true, List.isEmpty_iff, List.map_eq_nil_iff] at hnone
  have hdiffer := List.all_eq_true.mp (List.all_eq_true.mp (hnone.resolve_left hnil) d hd') text htext
  have hlower : lowerByte d = d := by
    simp only [List.mem_cons, List.not_mem_nil, or_false] at hd'
    rcases hd' with rfl | rfl | rfl | rfl | rfl | rfl | rfl <;> rfl
  rw [List.map_append, List.map_singleton, hlower] at hfront
  rw [List.length_append, List.length_map, ← List.length_append] at hdiffer
  exact bne_iff_ne.mp hdiffer hfront

end Quiet

/-! ## The header -/

section Header

variable {before : Option UInt8} {next : Place → Option Place} {found : Place}
  {name gap t r s group : Str}

/-- A word is not found where another text stands. -/
theorem word_misses {text other : String} (ht : ∀ b ∈ t, b < 0x80)
    (hother : t.map lowerByte = lit other)
    (h : (lit other).take (lit text).length ≠ ((lit text).map lowerByte).take (lit other).length) :
    (word text).ends ⟨before, t ++ r, group⟩ = [] := by
  refine List.eq_nil_iff_forall_not_mem.mpr fun after hafter => h ?_
  have hfront := word_front rfl ht hafter
  rwa [hother, ← @List.length_map _ _ t lowerByte, hother] at hfront

theorem run_word_none {text other : String} (ht : ∀ b ∈ t, b < 0x80)
    (hother : t.map lowerByte = lit other)
    (h : (lit other).take (lit text).length ≠ ((lit text).map lowerByte).take (lit other).length) :
    (word text).run ⟨before, t ++ r, group⟩ next = none :=
  run_none (word_misses ht hother h)

theorem run_joined_none {first second other : String} (ht : ∀ b ∈ t, b < 0x80)
    (hother : t.map lowerByte = lit other)
    (h : (lit other).take (lit first).length ≠
      ((lit first).map lowerByte).take (lit other).length) :
    (Regex.sequence [word first, (oneOf [95, 45]).optional, word second]).run
      ⟨before, t ++ r, group⟩ next = none :=
  run_word_none ht hother h

/-- Two words with an underscore between them. -/
theorem run_joined {first second : String} (ht : ∀ b ∈ t, b < 0x80)
    (hlower : t.map lowerByte = (lit first).map lowerByte ++ 95 :: (lit second).map lowerByte)
    (hnext : next ⟨t.getLast?.or before, r, group⟩ = some found) :
    (Regex.sequence [word first, (oneOf [95, 45]).optional, word second]).run
      ⟨before, t ++ r, group⟩ next = some found := by
  obtain ⟨u, w, rfl, hu, hw⟩ := List.map_eq_append_iff.mp hlower
  obtain ⟨d, w, rfl, hd, hsecond⟩ := List.map_eq_cons_iff.mp hw
  obtain rfl : d = 95 := Inert.eq_of_lowerByte hd (by decide)
  have hrun : (Regex.sequence [word second]).run ⟨some 95, w ++ r, group⟩ next = some found := by
    rw [List.getLast?_append, List.getLast?_cons, Option.some_or, Option.some_or] at hnext
    have hword : (Regex.sequence [word second]).run ⟨some 95, w ++ r, group⟩ next = _ :=
      run_word (fun b hb => ht b (by simp [hb])) hsecond
    rw [hword, ← hnext]
    cases w.getLast? <;> rfl
  have hwidth : (oneOf [95, 45]).width (95 :: (w ++ r)) = 1 := rfl
  show (word first).run _ _ = _
  rw [List.append_assoc, run_word (fun b hb => ht b (by simp [hb])) hu]
  show ((Pattern.char (oneOf [95, 45])).run _ _).or _ = _
  rw [List.cons_append, run_char hwidth]
  exact Option.or_eq_some_iff.mpr (Or.inl hrun)

/-- The names of the header, in the order in which they are tried. -/
theorem run_name (hname : name.map lowerByte ∈ credentialNames)
    (hnext : next ⟨name.getLast?.or before, r, group⟩ = some found) :
    (choice
      [word "authorization", word "x-api-key",
        Regex.sequence [word "api", (oneOf [95, 45]).optional, word "key"],
        Regex.sequence [word "access", (oneOf [95, 45]).optional, word "token"],
        Regex.sequence [word "refresh", (oneOf [95, 45]).optional, word "token"]]).run
      ⟨before, name ++ r, group⟩ next = some found := by
  have hascii : ∀ b ∈ name, b < 0x80 := fun b hb => (name_byte hname hb).1
  simp only [credentialNames, List.mem_cons, List.not_mem_nil, or_false] at hname
  simp only [choice, Pattern.run, Option.or_eq_some_iff]
  rcases hname with hname | hname | hname | hname | hname
  · left
    have hlower : name.map lowerByte = (lit "authorization").map lowerByte := hname
    rw [run_word hascii hlower]
    exact hnext
  · right
    refine ⟨run_word_none hascii hname (by decide), Or.inl ?_⟩
    have hlower : name.map lowerByte = (lit "x-api-key").map lowerByte := hname
    rw [run_word hascii hlower]
    exact hnext
  · right
    refine ⟨run_word_none hascii hname (by decide), Or.inr
      ⟨run_word_none hascii hname (by decide), Or.inl ?_⟩⟩
    exact run_joined hascii hname hnext
  · right
    refine ⟨run_word_none hascii hname (by decide), Or.inr
      ⟨run_word_none hascii hname (by decide), Or.inr
        ⟨run_joined_none hascii hname (by decide), Or.inl ?_⟩⟩⟩
    exact run_joined hascii hname hnext
  · right
    refine ⟨run_word_none hascii hname (by decide), Or.inr
      ⟨run_word_none hascii hname (by decide), Or.inr
        ⟨run_joined_none hascii hname (by decide), Or.inr
          ⟨run_joined_none hascii hname (by decide), ?_⟩⟩⟩⟩
    exact run_joined hascii hname hnext

/-- White space is taken up to the next byte that is none. -/
theorem run_blank (hs : Blank s) (hr : space.width r = 0)
    (hnext : ∀ before, next ⟨before, r, group⟩ = some found) :
    (Pattern.many true space).run ⟨before, s ++ r, group⟩ next = some found := by
  refine run_many_taken hr (fun u b v hbv => ?_) (hnext _)
  rw [width_of_plain rfl]
  exact if_pos (hs b (by rw [hbv]; simp))

/-- A separator is taken as a whole. -/
theorem run_separator (hgap : IsSeparator gap) (hr : space.width r = 0)
    (hnext : ∀ before, next ⟨before, r, group⟩ = some found) :
    (Pattern.many true space).run ⟨before, gap ++ r, group⟩ (fun mid =>
      (Pattern.char (oneOf [58, 61])).run mid fun mid =>
        (Pattern.many true space).run mid next) = some found := by
  obtain ⟨s, c, s', rfl, hs, hc, hs'⟩ := hgap
  rw [List.append_assoc, List.cons_append]
  refine run_blank hs ?_ fun before => ?_
  · rw [width_of_plain rfl]
    rcases hc with rfl | rfl <;> rfl
  · rw [run_char (by rw [width_of_plain rfl]; rcases hc with rfl | rfl <;> rfl)]
    exact run_blank hs' hr hnext

/-- The header takes its name, the separator and the word behind it. -/
theorem authHeader_takes {value post : Str} (hname : name.map lowerByte ∈ credentialNames)
    (hgap : IsSeparator gap) (hne : value ≠ []) (hword : ∀ b ∈ value, b ∉ delimiters)
    (hpost : ∀ b, post.head? = some b → b ∈ delimiters) :
    (authHeaderPattern.ends ⟨before, (name ++ gap) ++ (value ++ post), []⟩).head? =
      some ⟨value.getLast?, post, name⟩ := by
  have hwidth : ∀ b u, b ∉ delimiters → (noneOf delimiters).width (b :: u) = 1 := by
    intro b u hb
    rw [width_of_plain rfl]
    exact if_pos (by simpa [noneOf] using hb)
  have hstop : (noneOf delimiters).width post = 0 := by
    cases post with
    | nil => rfl
    | cons d post =>
      rw [width_of_plain rfl]
      exact if_neg (by simpa [noneOf] using hpost d rfl)
  have hspace : space.width (value ++ post) = 0 := by
    obtain ⟨b, value, rfl⟩ := List.exists_cons_of_ne_nil hne
    rw [List.cons_append, width_of_plain rfl]
    refine if_neg fun hblank => hword b List.mem_cons_self ?_
    exact List.mem_cons_of_mem 44 (List.mem_append_left [125] (blank_byte hblank))
  have hgroup : (name ++ (gap ++ (value ++ post))).take
      ((name ++ (gap ++ (value ++ post))).length - (gap ++ (value ++ post)).length) = name := by
    rw [List.length_append, Nat.add_sub_cancel, List.take_left]
  rw [← run_some, List.append_assoc]
  refine run_name hname ?_
  dsimp only
  rw [hgroup]
  refine run_separator hgap hspace fun before => ?_
  refine run_plus_taken hne hstop (fun u b v hbv => ?_) ?_
  · exact hwidth b _ (hword b (by rw [hbv]; simp))
  · obtain ⟨b, value, rfl⟩ := List.exists_cons_of_ne_nil hne
    rw [List.getLast?_cons, Option.some_or]
    rfl

end Header

/-! ## One word behind a separator -/

section Passes

variable {p : Pattern} {replacement : Str → Str} {f : Frame} {v v' : Str}

theorem intro_byte {b : UInt8} (hname : f.name.map lowerByte ∈ credentialNames)
    (hgap : IsSeparator f.gap) (hb : b ∈ f.intro) : b < 0x80 ∧ lowerByte b ≠ 98 := by
  rcases List.mem_append.mp hb with hb | hb
  · exact name_byte hname hb
  · obtain ⟨hascii, hb, -, -⟩ := separator_quiet hgap hb
    exact ⟨hascii, hb⟩

theorem intro_ne_nil (hname : f.name.map lowerByte ∈ credentialNames) : f.intro ≠ [] :=
  List.append_ne_nil_of_left_ne_nil (name_ne_nil hname) f.gap

theorem intro_head (hname : f.name.map lowerByte ∈ credentialNames) (hgap : IsSeparator f.gap) :
    AsciiHead f.intro :=
  fun _ hb => (intro_byte hname hgap (List.mem_of_mem_head? hb)).1

/-- What ends a word still ends it behind a pass that does not start with it. -/
theorem ended_replace {s : Str} (hcons : p.consumes = true) (hp : p.All CharClass.Foreign)
    (hquiet : ∀ d ∈ delimiters, p.starts d = false)
    (hs : ∀ b, s.head? = some b → b ∈ delimiters) (before : Option UInt8) :
    p.replaceFrom replacement before s = p.replace replacement s ∧
      ∀ b, (p.replace replacement s).head? = some b → b ∈ delimiters := by
  cases s with
  | nil => exact ⟨rfl, hs⟩
  | cons d s =>
    have hd : d ∈ delimiters := hs d rfl
    have hkept : ∀ before, p.replaceFrom replacement before (d :: s) =
        d :: p.replaceFrom replacement (some d) s :=
      fun _ => replaceFrom_head hcons hp (delimiter_byte hd).1 (hquiet d hd)
    have hreplace : p.replace replacement (d :: s) = d :: p.replaceFrom replacement (some d) s :=
      hkept none
    rw [hkept, hreplace]
    refine ⟨rfl, fun b hb => ?_⟩
    obtain rfl := Option.some.inj hb
    exact hd

theorem quiet_delimiters :
    (∀ d ∈ delimiters, bearerTokenPattern.starts d = false) ∧
      ∀ d ∈ delimiters, apiKeyPattern.starts d = false := by
  refine ⟨fun d hd => ?_, fun d hd => ?_⟩
  · exact quiet_bearer (delimiter_byte hd).2.2.1
  · exact quiet_apiKey (delimiter_byte hd).2.2.2.1 (delimiter_byte hd).2.2.2.2

theorem space_delimiter {b : UInt8} (h : space.bytes b = true) : b ∈ delimiters :=
  List.mem_cons_of_mem 44 (List.mem_append_left [125] (blank_byte h))

namespace Frame.CoversWord

variable {pre₁ pre₂ : Str}

/-- The first pass leaves the word as it is. -/
theorem bearer (h : f.CoversWord v) (hname : f.name.map lowerByte ∈ credentialNames)
    (hclear : f.Clears pre₁ pre₂) :
    redactBearer (f.text v) = pre₁ ++ (f.intro ++ (v ++ redactBearer f.post)) := by
  have hintro := replaceFrom_quiet rfl foreign_bearer
    (fun d hd => ⟨(intro_byte hname h.separator hd).1,
      quiet_bearer (intro_byte hname h.separator hd).2⟩) fun _ => lit "Bearer [redacted]"
  have hvalue : ∀ d ∈ v, space.bytes d = false := by
    intro d hd
    by_contra hspace
    exact h.word d hd (space_delimiter (by simpa using hspace))
  unfold redactBearer Frame.text
  rw [replace_around rfl foreign_bearer (intro_ne_nil hname) (intro_head hname h.separator) hintro
    hclear.bearer hclear.left₁, bearer_skips hvalue h.noBearer]
  rfl

/-- What is behind the word is a delimiter after the first pass, too. -/
theorem ended_bearer (h : f.CoversWord v) :
    ∀ b, (redactBearer f.post).head? = some b → b ∈ delimiters :=
  (ended_replace rfl foreign_bearer quiet_delimiters.1 h.ended none).2

/-- The second pass makes another word of it. -/
theorem apiKey (h : f.CoversWord v) (hname : f.name.map lowerByte ∈ credentialNames)
    (hclear : f.Clears pre₁ pre₂) : ∃ w, w ≠ [] ∧ (∀ b ∈ w, b ∉ delimiters) ∧
      redactApiKey (pre₁ ++ (f.intro ++ (v ++ redactBearer f.post))) =
        pre₂ ++ (f.intro ++ (w ++ redactApiKey (redactBearer f.post))) := by
  have hintro := fun before behind =>
    @apiKey_skips (fun _ => lit "[redacted]") before _ _ hname h.separator behind
  have hended := h.ended_bearer
  generalize redactBearer f.post = post at hended ⊢
  -- no match goes from the word over what ends it
  have hstays : apiKeyPattern.StaysIn f.intro.getLast? v post := by
    cases post with
    | nil => exact staysIn_nil _ _ _
    | cons d post => exact staysIn_of_avoids (avoids_apiKey (List.mem_append_left openers (hended d rfl)))
  have hascii : AsciiHead post := fun b hb => (delimiter_byte (hended b hb)).1
  have hnil : AsciiHead [] := by
    intro b hb
    contradiction
  have hhead : post.head?.any isWordByte = ([] : Str).head?.any isWordByte := by
    cases post with
    | nil => rfl
    | cons d post => exact (delimiter_byte (hended d rfl)).2.1
  obtain ⟨w, hw, hw'⟩ := replaceFrom_split (fun _ => lit "[redacted]") rfl foreign_apiKey hascii
    hnil hhead v.length (le_refl _) hstays (staysIn_nil _ _ _)
  rw [List.append_nil, replaceFrom_nil, List.append_nil] at hw'
  refine ⟨w, ?_, fun b hb => ?_, ?_⟩
  · rw [← hw']
    exact replaceFrom_ne_nil h.nonempty fun _ => by decide
  · rw [← hw'] at hb
    rcases mem_replaceFrom hb with hb | ⟨-, hb⟩
    · exact h.word b hb
    · have hall : (lit "[redacted]").all (fun b => !delimiters.contains b) = true := by decide
      simpa using List.all_eq_true.mp hall b hb
  · unfold redactApiKey
    rw [replace_around rfl foreign_apiKey (intro_ne_nil hname) (intro_head hname h.separator) hintro
      hclear.apiKey hclear.left₂, hw,
      (ended_replace rfl foreign_apiKey quiet_delimiters.2 hended _).1]

/-- The third pass takes it, whatever it is. -/
theorem hidden (hname : f.name.map lowerByte ∈ credentialNames) (hclear : f.Clears pre₁ pre₂)
    (hgap : IsSeparator f.gap) : ∃ hidden, ∀ v, f.CoversWord v →
      redactCredentials (f.text v) = hidden := by
  obtain ⟨r, hr⟩ := replaceFrom_fixed (fun group => group ++ lit "=[redacted]") rfl
    foreign_authHeader (intro_ne_nil hname) (intro_head hname hgap) hclear.authHeader
  have hnoBoundary : authHeaderPattern.noBoundary = true := by decide
  refine ⟨r ++ ((f.name ++ lit "=[redacted]") ++
    redactAuthHeader (redactApiKey (redactBearer f.post))), fun v h => ?_⟩
  obtain ⟨w, hne, hword, hpass⟩ := h.apiKey hname hclear
  have hended : ∀ b, (redactApiKey (redactBearer f.post)).head? = some b → b ∈ delimiters :=
    (ended_replace rfl foreign_apiKey quiet_delimiters.2 h.ended_bearer none).2
  have htakes := @authHeader_takes (pre₂.getLast?.or none) _ _ _ _ hname hgap hne hword hended
  unfold redactCredentials
  rw [h.bearer hname hclear, hpass]
  unfold redactAuthHeader
  have hpost := replaceFrom_before hnoBoundary (fun group => group ++ lit "=[redacted]")
    w.getLast? none (redactApiKey (redactBearer f.post))
  calc authHeaderPattern.replaceFrom _ none
        (pre₂ ++ (f.intro ++ (w ++ redactApiKey (redactBearer f.post))))
      = r ++ authHeaderPattern.replaceFrom _ (pre₂.getLast?.or none)
          (f.intro ++ (w ++ redactApiKey (redactBearer f.post))) := hr _
    _ = r ++ ((f.name ++ lit "=[redacted]") ++ authHeaderPattern.replaceFrom _ w.getLast?
          (redactApiKey (redactBearer f.post))) := by
        rw [Frame.intro, replaceFrom_match (by decide) htakes]
    _ = _ := by
        rw [hpost]
        rfl

end Frame.CoversWord

/-! ## A token behind its scheme -/

/-- `bearer` takes its word, the white space and the token. -/
theorem bearer_takes {before : Option UInt8} {word blank value post : Str}
    (hword : word.map lowerByte = lit "bearer") (hne : blank ≠ []) (hblank : Blank blank)
    (hvalue : value ≠ []) (htoken : ∀ b ∈ value, b < 0x80 ∧ (alnumAnd "._~+/=-").bytes b = true)
    (hpost : (alnumAnd "._~+/=-").width post = 0) :
    (bearerTokenPattern.ends ⟨before, word ++ (blank ++ (value ++ post)), []⟩).head? =
      some ⟨value.getLast?, post, []⟩ := by
  have hascii : ∀ b ∈ word, b < 0x80 := by
    intro b hb
    have hall : (lit "bearer").all (fun b => b < 0x80) = true := by decide
    have hlower := List.all_eq_true.mp hall _ (hword ▸ List.mem_map_of_mem hb)
    exact ascii_of_lowerByte (by simpa using hlower)
  have hlower : word.map lowerByte = (lit "bearer").map lowerByte := hword
  have hspace : space.width (value ++ post) = 0 := by
    obtain ⟨b, value, rfl⟩ := List.exists_cons_of_ne_nil hvalue
    have htoken' := (htoken b List.mem_cons_self).2
    rw [List.cons_append, width_of_plain rfl]
    refine if_neg fun hspace => ?_
    have hmem := blank_byte hspace
    simp only [List.mem_cons, List.not_mem_nil, or_false] at hmem
    rcases hmem with rfl | rfl | rfl | rfl | rfl <;> revert htoken' <;> decide
  rw [← run_some]
  show (Regex.word "bearer").run _ _ = _
  rw [run_word hascii hlower]
  refine run_plus_taken hne hspace (fun u b w hbw => ?_) ?_
  · rw [width_of_plain rfl]
    exact if_pos (hblank b (by rw [hbw]; simp))
  refine run_plus_taken hvalue hpost (fun u b w hbw => ?_) ?_
  · obtain ⟨hlt, hbytes⟩ := htoken b (by rw [hbw]; simp)
    rw [width_of_ascii (outside_alnumAnd _) hlt]
    exact if_pos hbytes
  · rw [List.getLast?_eq_some_getLast hvalue, Option.some_or]
    rfl

namespace Frame.CoversToken

/-- The first pass takes the token. -/
theorem hidden {word : Str} (hname : f.name.map lowerByte ∈ credentialNames)
    (hscheme : f.HasScheme word) (hword : word.map lowerByte = lit "bearer")
    (hclear : ∀ behind, bearerTokenPattern.StaysIn none f.pre (f.intro ++ behind)) :
    ∃ hidden, ∀ v, f.CoversToken v → redactCredentials (f.text v) = hidden := by
  obtain ⟨sep, blank, hgap, hsep, hne, hblank⟩ := hscheme
  have hintro : f.intro = (f.name ++ sep) ++ (word ++ blank) := by
    rw [Frame.intro, hgap, List.append_assoc]
  have hquiet : ∀ d ∈ f.name ++ sep, d < 0x80 ∧ bearerTokenPattern.starts d = false := by
    intro d hd
    rcases List.mem_append.mp hd with hd | hd
    · obtain ⟨hascii, hd⟩ := name_byte hname hd
      exact ⟨hascii, quiet_bearer hd⟩
    · obtain ⟨hascii, hd, -, -⟩ := separator_quiet hsep hd
      exact ⟨hascii, quiet_bearer hd⟩
  have hhead : AsciiHead f.intro := by
    obtain ⟨b, name, hb⟩ := List.exists_cons_of_ne_nil (name_ne_nil hname)
    intro c hc
    rw [hintro, hb] at hc
    obtain rfl := Option.some.inj hc
    exact (hquiet b (by rw [hb]; simp)).1
  obtain ⟨r, hr⟩ := replaceFrom_fixed (fun _ => lit "Bearer [redacted]") rfl foreign_bearer
    (intro_ne_nil hname) hhead hclear
  refine ⟨redactAuthHeader (redactApiKey (r ++ ((f.name ++ sep) ++
    (lit "Bearer [redacted]" ++ redactBearer f.post)))), fun v h => ?_⟩
  have htakes := fun before =>
    @bearer_takes before _ _ _ _ hword hne hblank h.nonempty h.token h.ended
  have hpost := replaceFrom_before (p := bearerTokenPattern) rfl
    (fun _ => lit "Bearer [redacted]") v.getLast? none f.post
  unfold redactCredentials
  congr 2
  calc bearerTokenPattern.replaceFrom _ none (f.pre ++ (f.intro ++ (v ++ f.post)))
      = r ++ bearerTokenPattern.replaceFrom _ (f.pre.getLast?.or none)
          (f.intro ++ (v ++ f.post)) := hr _
    _ = r ++ ((f.name ++ sep) ++ bearerTokenPattern.replaceFrom _ _
          (word ++ (blank ++ (v ++ f.post)))) := by
        rw [hintro, List.append_assoc, replaceFrom_quiet rfl foreign_bearer hquiet,
          List.append_assoc word]
    _ = r ++ ((f.name ++ sep) ++ (lit "Bearer [redacted]" ++
          bearerTokenPattern.replaceFrom _ v.getLast? f.post)) := by
        rw [replaceFrom_match rfl (htakes _)]
    _ = _ := by
        rw [hpost]
        rfl

end Frame.CoversToken

/-! ## An API key -/

section Letters

variable {more : String} {b : UInt8} {before : Option UInt8} {s group : Str}

theorem alnum_of_isWordByte (h : isWordByte b = true) : (alnumAnd "._-").bytes b = true := by
  unfold isWordByte at h
  have hmore : (lit "._-").contains 95 = true := by decide
  simp only [Bool.or_eq_true, beq_iff_eq] at h
  rcases h with h | rfl
  · simp only [alnumAnd, Bool.or_eq_true]
    exact Or.inl h
  · decide

theorem bearer_none (h : (alnumAnd more).width s = 0) :
    bearerTokenPattern.ends ⟨before, s, group⟩ = [] := by
  refine List.eq_nil_iff_forall_not_mem.mpr fun after hafter => ?_
  obtain ⟨mid, hmid, -⟩ := mem_sequence_cons hafter
  have hnone : (word "bearer").ends ⟨before, s, group⟩ = [] :=
    word_none (b := 98) rfl (by decide) h
  rw [hnone] at hmid
  exact absurd hmid List.not_mem_nil

theorem apiKey_none (h : (alnumAnd more).width s = 0) :
    apiKeyPattern.ends ⟨before, s, group⟩ = [] := by
  refine List.eq_nil_iff_forall_not_mem.mpr fun after hafter => ?_
  obtain ⟨text, htext, mid, hmid⟩ := apiKey_word hafter
  have hnone : (word text).ends ⟨before, s, group⟩ = [] := by
    simp only [List.mem_cons, List.not_mem_nil, or_false] at htext
    rcases htext with rfl | rfl | rfl
    · exact word_none (b := 115) rfl (by decide) h
    · exact word_none (b := 115) rfl (by decide) h
    · exact word_none (b := 101) rfl (by decide) h
  rw [hnone] at hmid
  exact absurd hmid List.not_mem_nil

end Letters

/-- The words of `apiKeyPattern` are tried one after the other. -/
theorem run_keyWord {before : Option UInt8} {next : Place → Option Place} {found : Place}
    {k : String × Nat} {word tail post group : Str} (hk : k ∈ keyWords)
    (hascii : ∀ b ∈ word, b < 0x80) (hword : word.map lowerByte = (lit k.1).map lowerByte)
    (hnext : ((alnumAnd "._-").atLeast k.2).run ⟨word.getLast?.or before, tail ++ post, group⟩ next =
      some found) :
    (choice
      [.seq (Regex.word "sk-") ((alnumAnd "._-").atLeast 8),
        .seq (Regex.word "sess-") ((alnumAnd "._-").atLeast 8),
        .seq (Regex.word "eyJ") ((alnumAnd "._-").atLeast 12)]).run
      ⟨before, word ++ (tail ++ post), group⟩ next = some found := by
  simp only [choice, Pattern.run, Option.or_eq_some_iff]
  simp only [keyWords, List.mem_cons, List.not_mem_nil, or_false] at hk
  rcases hk with rfl | rfl | rfl
  · left
    rw [run_word hascii hword]
    exact hnext
  · right
    have hother : word.map lowerByte = lit "sess-" := hword
    refine ⟨run_word_none hascii hother (by decide), Or.inl ?_⟩
    rw [run_word hascii hword]
    exact hnext
  · right
    have hother : word.map lowerByte = lit "eyj" := hword
    refine ⟨run_word_none hascii hother (by decide), Or.inr
      ⟨run_word_none hascii hother (by decide), ?_⟩⟩
    rw [run_word hascii hword]
    exact hnext

namespace Frame.CoversKey

/-- A key is of characters of its class. -/
theorem bytes (h : f.CoversKey v) {b : UInt8} (hb : b ∈ v) :
    b < 0x80 ∧ (alnumAnd "._-").bytes b = true := by
  obtain ⟨k, hk, word, tail, rfl, hword, -, htail⟩ := h.shape
  rcases List.mem_append.mp hb with hb | hb
  · have hall : keyWords.all (fun k => ((lit k.1).map lowerByte).all fun b =>
        b < 0x80 && (alnumAnd "._-").bytes b) = true := by decide
    have hboth := List.all_eq_true.mp (List.all_eq_true.mp hall k hk) (lowerByte b)
      (hword ▸ List.mem_map_of_mem hb)
    simp only [Bool.and_eq_true, decide_eq_true_eq] at hboth
    exact ⟨ascii_of_lowerByte hboth.1, alnum_of_lowerByte hboth.2⟩
  · exact htail b hb

/-- It starts with a letter. -/
theorem head (h : f.CoversKey v) : v.head?.any isWordByte = true := by
  obtain ⟨k, hk, word, tail, rfl, hword, -, -⟩ := h.shape
  have hfirst : ∀ {first : UInt8} {rest : Str}, (lit k.1).map lowerByte = first :: rest →
      97 ≤ first ∧ first ≤ 122 → (word ++ tail).head?.any isWordByte = true := by
    intro first rest hk hletter
    rw [hk] at hword
    obtain ⟨b, w, rfl, rfl, -⟩ := List.map_eq_cons_iff.mp hword
    exact isWordByte_of_letter hletter
  simp only [keyWords, List.mem_cons, List.not_mem_nil, or_false] at hk
  rcases hk with rfl | rfl | rfl
  · exact hfirst rfl (by decide)
  · exact hfirst rfl (by decide)
  · exact hfirst rfl (by decide)

theorem space (h : f.CoversKey v) : ∀ d ∈ v, Regex.space.bytes d = false := by
  intro d hd
  by_contra hspace
  have hmem := blank_byte (by simpa using hspace)
  have hclass := (h.bytes hd).2
  simp only [List.mem_cons, List.not_mem_nil, or_false] at hmem
  rcases hmem with rfl | rfl | rfl | rfl | rfl <;> revert hclass <;> decide

/-- The pattern takes the key. -/
theorem takes (h : f.CoversKey v) {d : UInt8} (hd : isWordByte d = false) {post : Str}
    (hpost : (alnumAnd "._-").width post = 0) :
    (apiKeyPattern.ends ⟨some d, v ++ post, []⟩).head? = some ⟨v.getLast?, post, []⟩ := by
  have hne : v ≠ [] := by
    rintro rfl
    have hhead := h.head
    contradiction
  have hopens : (Place.mk (some d) (v ++ post) []).isBoundary = true := by
    have hhead := h.head
    obtain ⟨b, v, rfl⟩ := List.exists_cons_of_ne_nil hne
    unfold Place.isBoundary
    simp only [Option.any_some, List.cons_append, List.head?_cons] at hhead ⊢
    rw [hd, hhead]
    rfl
  have hcloses : (Place.mk v.getLast? post []).isBoundary = true := by
    have hword : post.head?.any isWordByte = false := by
      cases hhead : post.head? with
      | none => rfl
      | some b =>
        have hclass := ((width_eq_zero (foreign_alnumAnd "._-")).mp hpost).2 b hhead
        rw [Option.any_some, ← Bool.not_eq_true]
        intro hb
        rw [alnum_of_isWordByte hb] at hclass
        contradiction
    unfold Place.isBoundary
    dsimp only
    rw [h.last, hword]
    rfl
  obtain ⟨k, hk, word, tail, hv, hword, hlength, htail⟩ := h.shape
  rw [← run_some]
  show (if (Place.mk (some d) (v ++ post) []).isBoundary then _ else none) = _
  rw [if_pos hopens]
  have hlast : tail.getLast?.or (word.getLast?.or (some d)) = v.getLast? := by
    rw [← Option.or_assoc, ← List.getLast?_append, ← hv, List.getLast?_eq_some_getLast hne,
      Option.some_or]
  have hascii : ∀ b ∈ word, b < 0x80 := fun b hb => (h.bytes (by rw [hv]; simp [hb])).1
  rw [hv, List.append_assoc]
  refine run_keyWord hk hascii hword (run_atLeast_taken k.2 hlength hpost (fun u b w hbw => ?_) ?_)
  · obtain ⟨hlt, hbytes⟩ := htail b (by rw [hbw]; simp)
    rw [width_of_ascii (outside_alnumAnd _) hlt]
    exact if_pos hbytes
  · rw [hlast]
    show (if (Place.mk v.getLast? post []).isBoundary then _ else none) = _
    rw [if_pos hcloses, hv]
    rfl

/-- The first pass leaves the key and the byte before it. -/
theorem bearer (h : f.CoversKey v) {d : UInt8} (hd : d ∈ openers) (before : Option UInt8) :
    bearerTokenPattern.replaceFrom (fun _ => lit "Bearer [redacted]") before
        (d :: (v ++ f.post)) = d :: (v ++ redactBearer f.post) := by
  obtain ⟨hascii, -, hb, -, -⟩ := opener_byte hd
  rw [replaceFrom_head rfl foreign_bearer hascii (quiet_bearer hb), bearer_skips h.space h.noBearer]
  rfl

/-- What is behind the key does not go on with it. -/
theorem ended_bearer (h : f.CoversKey v) : (alnumAnd "._-").width (redactBearer f.post) = 0 :=
  width_replaceFrom (foreign_alnumAnd _) (fun _ => ⟨66, lit "earer [redacted]", rfl, by decide⟩)
    h.ended (bearer_none h.ended)

/-- The second pass takes the key. -/
theorem apiKey (h : f.CoversKey v) {d : UInt8} (hd : d ∈ openers) (before : Option UInt8) :
    apiKeyPattern.replaceFrom (fun _ => lit "[redacted]") before
        (d :: (v ++ redactBearer f.post)) =
      d :: (lit "[redacted]" ++ redactApiKey (redactBearer f.post)) := by
  obtain ⟨hascii, hword, -, hs, he⟩ := opener_byte hd
  have hended := h.ended_bearer
  rw [replaceFrom_head rfl foreign_apiKey hascii (quiet_apiKey hs he),
    replaceFrom_match rfl (h.takes hword hended)]
  dsimp only
  unfold redactApiKey
  cases hpost : redactBearer f.post with
  | nil => rfl
  | cons e post =>
    rw [hpost] at hended
    rw [replaceFrom_none (apiKey_none hended)]
    have hnone : apiKeyPattern.replace (fun _ => lit "[redacted]") (e :: post) = _ :=
      replaceFrom_none (apiKey_none hended)
    rw [hnone]

/-- Nothing of the key is left. -/
theorem same (h : f.CoversKey v) (h' : f.CoversKey v') :
    redactCredentials (f.text v) = redactCredentials (f.text v') := by
  obtain ⟨s, d, hs, hd, hstays⟩ := h.apart
  obtain ⟨s', d', hs', -, hstays'⟩ := h'.apart
  obtain ⟨rfl, hlast⟩ := List.append_inj' (hs.symm.trans hs') rfl
  obtain rfl := List.singleton_inj.mp hlast
  have hascii : ∀ t : Str, AsciiHead (d :: t) := by
    intro t b hb
    obtain rfl := Option.some.inj hb
    exact (opener_byte hd).1
  have htext : ∀ v, f.text v = s ++ (d :: (v ++ f.post)) := by
    intro v
    rw [Frame.text, ← List.append_assoc, hs, List.append_assoc]
    rfl
  obtain ⟨r, hr, hr'⟩ := replaceFrom_split (fun _ => lit "Bearer [redacted]") rfl foreign_bearer
    (hascii (v ++ f.post)) (hascii (v' ++ f.post)) rfl s.length (le_refl _) hstays hstays'
  rw [h.bearer hd] at hr
  rw [h'.bearer hd] at hr'
  have hkey : ∀ t, apiKeyPattern.StaysIn none r (d :: t) :=
    fun t => staysIn_of_avoids (avoids_apiKey (List.mem_append_right delimiters hd))
  obtain ⟨q, hq, hq'⟩ := replaceFrom_split (fun _ => lit "[redacted]") rfl foreign_apiKey
    (hascii (v ++ redactBearer f.post)) (hascii (v' ++ redactBearer f.post)) rfl r.length
    (le_refl _) (hkey _) (hkey _)
  rw [h.apiKey hd] at hq
  rw [h'.apiKey hd] at hq'
  have hfirst : redactBearer (f.text v) = _ := (congrArg redactBearer (htext v)).trans hr
  have hfirst' : redactBearer (f.text v') = _ := (congrArg redactBearer (htext v')).trans hr'
  have hsecond : redactApiKey (redactBearer (f.text v)) = _ := (congrArg redactApiKey hfirst).trans hq
  have hsecond' : redactApiKey (redactBearer (f.text v')) = _ :=
    (congrArg redactApiKey hfirst').trans hq'
  unfold redactCredentials
  rw [hsecond, hsecond']

end Frame.CoversKey

/-! ## The stored text -/

namespace Frame

/-- A value that two patterns could take. -/
theorem CoversKey.toWord (h : f.CoversKey v) (h' : f.CoversWord v') : f.CoversWord v where
  separator := h'.separator
  clear := h'.clear
  nonempty := by
    rintro rfl
    have hhead := h.head
    contradiction
  word := fun b hb hmem => by
    have hall : delimiters.all (fun b => !(alnumAnd "._-").bytes b) = true := by decide
    have hclass := List.all_eq_true.mp hall b hmem
    rw [(h.bytes hb).2] at hclass
    contradiction
  ended := h'.ended
  noBearer := h.noBearer

theorem CoversKey.toToken (h : f.CoversKey v) (h' : f.CoversToken v') : f.CoversToken v where
  scheme := h'.scheme
  clear := h'.clear
  nonempty := by
    rintro rfl
    have hhead := h.head
    contradiction
  token := fun b hb => by
    obtain ⟨hascii, hclass⟩ := h.bytes hb
    refine ⟨hascii, ?_⟩
    have hmore : (lit "._-").all (fun b => (lit "._~+/=-").contains b) = true := by decide
    simp only [alnumAnd, Bool.or_eq_true] at hclass ⊢
    exact hclass.imp_right fun hb => List.all_eq_true.mp hmore b (by simpa using hb)
  ended := h'.ended

/-- A separator has no scheme in it. -/
theorem CoversWord.not_token (h : f.CoversWord v) : ¬f.CoversToken v' := by
  intro h'
  obtain ⟨word, hword, sep, blank, hgap, -, -, -⟩ := h'.scheme
  obtain ⟨b, w, rfl, hb, -⟩ := List.map_eq_cons_iff.mp hword
  exact (separator_quiet h.separator (b := b) (by rw [hgap]; simp)).2.1 hb

/-- Two values that the patterns take leave the same text. -/
theorem Covers.same (hname : f.name.map lowerByte ∈ credentialNames) (h : f.Covers v)
    (h' : f.Covers v') : redactCredentials (f.text v) = redactCredentials (f.text v') := by
  have hwords : f.CoversWord v → f.CoversWord v' →
      redactCredentials (f.text v) = redactCredentials (f.text v') := by
    intro h h'
    obtain ⟨pre₁, pre₂, hclear⟩ := h.clear
    obtain ⟨r, hr⟩ := CoversWord.hidden hname hclear h.separator
    rw [hr v h, hr v' h']
  have htokens : f.CoversToken v → f.CoversToken v' →
      redactCredentials (f.text v) = redactCredentials (f.text v') := by
    intro h h'
    obtain ⟨word, hword, hscheme⟩ := h.scheme
    obtain ⟨r, hr⟩ := CoversToken.hidden hname hscheme hword h.clear
    rw [hr v h, hr v' h']
  cases h with
  | word h =>
    cases h' with
    | word h' => exact hwords h h'
    | token h' => exact absurd h' h.not_token
    | key h' => exact hwords h (h'.toWord h)
  | token h =>
    cases h' with
    | word h' => exact absurd h h'.not_token
    | token h' => exact htokens h h'
    | key h' => exact htokens h (h'.toToken h)
  | key h =>
    cases h' with
    | word h' => exact hwords (h.toWord h') h'
    | token h' => exact htokens (h.toToken h') h'
    | key h' => exact h.same h'

end Frame

end Passes

end Lune.Store
