import Lune.Lib.JsonEncode
import Lune.Lib.RegexEnds
import Lune.Store.RequestLogs
import Mathlib.Data.List.Chain

/-!
# What the redaction patterns need

A text in which none of the four patterns of `sanitizeRequestLogError` can match:
each pattern needs a white space, a letter before a hyphen, a letter before a
colon or one of its names in quotes before a colon.
-/

namespace Lune.Store

open GoText Regex

/-- None of the patterns of `sanitizeRequestLogError` rewrites the text. -/
def Unredacted (s : Str) : Prop :=
  bearerTokenPattern.replace (fun _ => lit "Bearer [redacted]") s = s ∧
    apiKeyPattern.replace (fun _ => lit "[redacted]") s = s ∧
    authHeaderPattern.replace (fun group => group ++ lit "=[redacted]") s = s ∧
    requestPayloadPattern.replace (fun group => group ++ lit "\"[redacted]\"") s = s

/-- Two bytes that no pattern but that of the payload takes one after the other: a
hyphen does not follow the `k` or the `s` of a key, a colon follows a quote, and a `j`
does not follow a `y`. -/
def Apart (x y : UInt8) : Prop :=
  (y = 45 → lowerByte x ≠ 107 ∧ lowerByte x ≠ 115) ∧ (y = 58 → x = 34) ∧
    ¬ (lowerByte x = 121 ∧ lowerByte y = 106)

/-- The names of `requestPayloadPattern`. -/
def payloadNames : List Str :=
  [lit "messages", lit "prompt", lit "input", lit "body", lit "request_body"]

/-- A text that no pattern can match in. -/
structure Inert (s : Str) : Prop where
  ascii : ∀ b ∈ s, b < 0x80
  solid : ∀ b ∈ s, space.bytes b = false ∧ b ≠ 61
  apart : s.IsChain Apart
  keys : ∀ u t v, s = u ++ 34 :: (t ++ 34 :: 58 :: v) → t.map lowerByte ∉ payloadNames

namespace Inert

variable {s : Str} {here after : Place}

theorem suffix (h : Inert s) {t : Str} (ht : t <:+ s) : Inert t where
  ascii := fun b hb => h.ascii b (ht.subset hb)
  solid := fun b hb => h.solid b (ht.subset hb)
  apart := h.apart.suffix ht
  keys := by
    obtain ⟨w, rfl⟩ := ht
    intro u t' v heq
    exact h.keys (w ++ u) t' v (by rw [heq, List.append_assoc])

theorem adjacent (h : Inert s) {u v : Str} {x y : UInt8} (heq : s = u ++ x :: y :: v) :
    Apart x y := by
  have hchain := h.apart
  rw [heq, List.isChain_append_cons_cons] at hchain
  exact hchain.2.1

/-- There is no white space to skip. -/
theorem no_space (h : Inert here.rest) (hmem : after ∈ (Pattern.many true space).ends here) :
    after.rest = here.rest := by
  obtain ⟨t, ht, hall⟩ := many_of_ascii (outside_of_nil rfl) h.ascii hmem
  cases t with
  | nil => exact ht.symm
  | cons b t =>
    have hspace := hall b List.mem_cons_self
    rw [(h.solid b (ht ▸ List.mem_cons_self)).1] at hspace
    contradiction

/-- `bearer` wants a white space. -/
theorem no_bearer (h : Inert here.rest) : bearerTokenPattern.ends here = [] := by
  refine List.eq_nil_iff_forall_not_mem.mpr fun after hafter => ?_
  obtain ⟨mid, hword, hrest⟩ := mem_sequence_cons hafter
  obtain ⟨mid', hspace, -⟩ := mem_sequence_cons hrest
  obtain ⟨mid'', hchar, -⟩ := mem_plus hspace
  have hmid := h.suffix (rest_suffix hword)
  obtain ⟨b, hb, hbytes⟩ := char_of_ascii (outside_of_nil rfl)
    (fun c hc => hmid.ascii c (List.mem_of_mem_head? hc)) hchar
  rw [(hmid.solid b (hb ▸ List.mem_cons_self)).1] at hbytes
  contradiction

/-- Only letters have another case. -/
theorem eq_of_lowerByte {x c : UInt8} (h : lowerByte x = c) (hc : ¬ (97 ≤ c ∧ c ≤ 122)) : x = c := by
  unfold lowerByte at h
  split at h
  next hupper =>
    refine absurd ?_ hc
    subst h
    simp only [UInt8.le_iff_toNat_le, UInt8.reduceToNat] at hupper ⊢
    rw [UInt8.toNat_add]
    simp only [UInt8.reduceToNat]
    omega
  · exact h

/-- A word of a hyphen and the `s` or `k` before it is nowhere. -/
theorem no_hyphen (h : Inert here.rest) {text : String} (b : UInt8) (bs : Str)
    (htext : lit text = bs ++ [b, 45]) (hb : lowerByte b = 107 ∨ lowerByte b = 115) :
    after ∉ (word text).ends here := by
  intro hafter
  obtain ⟨t, ht, hlower⟩ := word_of_ascii h.ascii hafter
  rw [htext, List.map_append] at hlower
  obtain ⟨u, w, rfl, -, hw⟩ := List.map_eq_append_iff.mp hlower
  obtain ⟨x, w, rfl, hx, hw⟩ := List.map_eq_cons_iff.mp hw
  obtain ⟨y, w, rfl, hy, hw⟩ := List.map_eq_cons_iff.mp hw
  obtain rfl := List.map_eq_nil_iff.mp hw
  obtain rfl : y = 45 := eq_of_lowerByte hy (by decide)
  have hapart := (h.adjacent (u := u) (v := after.rest) (by simpa using ht)).1 rfl
  rw [hx] at hapart
  exact hb.elim hapart.1 hapart.2

/-- The keys want a hyphen behind a letter or a `j` behind a `y`. -/
theorem no_apiKey (h : Inert here.rest) : apiKeyPattern.ends here = [] := by
  refine List.eq_nil_iff_forall_not_mem.mpr fun after hafter => ?_
  obtain ⟨mid, hboundary, hrest⟩ := mem_sequence_cons hafter
  obtain ⟨-, rfl⟩ := mem_ends_boundary.mp hboundary
  obtain ⟨mid', hchoice, -⟩ := mem_sequence_cons hrest
  obtain ⟨p, hp, hmid⟩ := mem_choice (by decide) hchoice
  simp only [List.mem_cons, List.not_mem_nil, or_false] at hp
  rcases hp with rfl | rfl | rfl
  · obtain ⟨m, hm, -⟩ := mem_ends_seq.mp hmid
    exact h.no_hyphen 107 (lit "s") rfl (Or.inl rfl) hm
  · obtain ⟨m, hm, -⟩ := mem_ends_seq.mp hmid
    exact h.no_hyphen 115 (lit "ses") rfl (Or.inr rfl) hm
  · obtain ⟨m, hm, -⟩ := mem_ends_seq.mp hmid
    obtain ⟨t, ht, hlower⟩ := word_of_ascii h.ascii hm
    obtain ⟨x, w, rfl, -, hw⟩ := List.map_eq_cons_iff.mp hlower
    obtain ⟨y, w, rfl, hy, hw⟩ := List.map_eq_cons_iff.mp hw
    obtain ⟨z, w, rfl, hz, -⟩ := List.map_eq_cons_iff.mp hw
    exact (h.adjacent (u := [x]) (v := w ++ m.rest) ht).2.2 ⟨hy, hz⟩

/-- The last letter of a name that is spelled in two words. -/
theorem last_of_sequence (h : Inert here.rest) {p q : Pattern} {text : String} {b : UInt8}
    (hlast : (lit text).getLast? = some b)
    (hafter : after ∈ (sequence [p, q, word text]).ends here) :
    ∃ u x, here.rest = u ++ x :: after.rest ∧ lowerByte x = lowerByte b := by
  obtain ⟨mid, hp, hrest⟩ := mem_sequence_cons hafter
  obtain ⟨mid', hq, hrest⟩ := mem_sequence_cons hrest
  obtain ⟨mid'', hword, hnil⟩ := mem_sequence_cons hrest
  obtain rfl := mem_sequence_nil hnil
  have hsuffix : mid'.rest <:+ here.rest := (rest_suffix hq).trans (rest_suffix hp)
  obtain ⟨u, x, hu, hx⟩ := last_of_word hlast (h.suffix hsuffix).ascii hword
  obtain ⟨w, hw⟩ := hsuffix
  exact ⟨w ++ u, x, by rw [← hw, hu, List.append_assoc], hx⟩

/-- The names of credentials end in `n` or `y`, which no colon follows. -/
theorem no_authHeader (h : Inert here.rest) : authHeaderPattern.ends here = [] := by
  refine List.eq_nil_iff_forall_not_mem.mpr fun after hafter => ?_
  obtain ⟨mid, hgroup, hrest⟩ := mem_sequence_cons hafter
  obtain ⟨mid', hspace, hrest⟩ := mem_sequence_cons hrest
  obtain ⟨mid'', hchar, -⟩ := mem_sequence_cons hrest
  have hname : ∃ u x, here.rest = u ++ x :: mid.rest ∧ (lowerByte x = 110 ∨ lowerByte x = 121) := by
    obtain ⟨m, hm, rfl⟩ := List.mem_map.mp hgroup
    obtain ⟨p, hp, hmem⟩ := mem_choice (by decide) hm
    simp only [List.mem_cons, List.not_mem_nil, or_false] at hp
    rcases hp with rfl | rfl | rfl | rfl | rfl
    · obtain ⟨u, x, hu, hx⟩ := last_of_word (b := 110) rfl h.ascii hmem
      exact ⟨u, x, hu, Or.inl hx⟩
    · obtain ⟨u, x, hu, hx⟩ := last_of_word (b := 121) rfl h.ascii hmem
      exact ⟨u, x, hu, Or.inr hx⟩
    · obtain ⟨u, x, hu, hx⟩ := h.last_of_sequence (b := 121) rfl hmem
      exact ⟨u, x, hu, Or.inr hx⟩
    · obtain ⟨u, x, hu, hx⟩ := h.last_of_sequence (b := 110) rfl hmem
      exact ⟨u, x, hu, Or.inl hx⟩
    · obtain ⟨u, x, hu, hx⟩ := h.last_of_sequence (b := 110) rfl hmem
      exact ⟨u, x, hu, Or.inl hx⟩
  obtain ⟨u, x, hu, hx⟩ := hname
  have hmid := h.suffix (rest_suffix hgroup)
  have hsame := hmid.no_space hspace
  have hmid' := hmid.suffix (rest_suffix hspace)
  obtain ⟨y, hy, hbytes⟩ := char_of_ascii (outside_of_nil rfl)
    (fun c hc => hmid'.ascii c (List.mem_of_mem_head? hc)) hchar
  have hcolon : y = 58 ∨ y = 61 := by simpa [oneOf] using hbytes
  rcases hcolon with rfl | rfl
  · have hquote := (h.adjacent (u := u) (v := mid''.rest) (by rw [hu, ← hsame, hy])).2.1 rfl
    rw [hquote] at hx
    revert hx
    decide
  · exact (hmid'.solid 61 (hy ▸ List.mem_cons_self)).2 rfl

/-- The payload wants one of its names in quotes before a colon. -/
theorem no_requestPayload (h : Inert here.rest) : requestPayloadPattern.ends here = [] := by
  refine List.eq_nil_iff_forall_not_mem.mpr fun after hafter => ?_
  obtain ⟨mid, hgroup, -⟩ := mem_sequence_cons hafter
  obtain ⟨m, hm, rfl⟩ := List.mem_map.mp hgroup
  obtain ⟨m₁, hquote, hm⟩ := mem_sequence_cons hm
  obtain ⟨m₂, hname, hm⟩ := mem_sequence_cons hm
  obtain ⟨m₃, hquote', hm⟩ := mem_sequence_cons hm
  obtain ⟨m₄, hspace, hm⟩ := mem_sequence_cons hm
  obtain ⟨m₅, hcolon, -⟩ := mem_sequence_cons hm
  have h₁ := h.suffix (rest_suffix hquote)
  have h₂ := h₁.suffix (rest_suffix hname)
  have h₃ := h₂.suffix (rest_suffix hquote')
  have h₄ := h₃.suffix (rest_suffix hspace)
  have hbyte : ∀ {here after : Place} {b : UInt8}, Inert here.rest →
      after ∈ (Pattern.char (oneOf [b])).ends here → here.rest = b :: after.rest := by
    intro here after b hinert hmem
    obtain ⟨c, hc, hbytes⟩ := char_of_ascii (outside_of_nil rfl)
      (fun c hc => hinert.ascii c (List.mem_of_mem_head? hc)) hmem
    obtain rfl : c = b := by simpa [oneOf] using hbytes
    exact hc
  have hspelled : ∃ t, m₁.rest = t ++ m₂.rest ∧ t.map lowerByte ∈ payloadNames := by
    obtain ⟨p, hp, hmem⟩ := mem_choice (by decide) hname
    simp only [List.mem_cons, List.not_mem_nil, or_false] at hp
    rcases hp with rfl | rfl | rfl | rfl | rfl <;>
    · obtain ⟨t, ht, hlower⟩ := word_of_ascii h₁.ascii hmem
      exact ⟨t, ht, by rw [hlower]; decide⟩
  obtain ⟨t, ht, hlower⟩ := hspelled
  refine h.keys [] t m₅.rest ?_ hlower
  rw [hbyte h hquote, ht, hbyte h₂ hquote', ← h₃.no_space hspace, hbyte h₄ hcolon]
  rfl

theorem misses (h : Inert s) {p : Pattern}
    (hp : ∀ here : Place, Inert here.rest → p.ends here = []) : p.Misses none s :=
  fun y _ heq _ => hp _ (h.suffix ⟨y, heq.symm⟩)

/-- Nothing is rewritten. -/
theorem unredacted (h : Inert s) : Unredacted s :=
  ⟨replace_eq_self (h.misses fun _ => no_bearer) _, replace_eq_self (h.misses fun _ => no_apiKey) _,
    replace_eq_self (h.misses fun _ => no_authHeader) _,
    replace_eq_self (h.misses fun _ => no_requestPayload) _⟩

end Inert

/-! ## JSON that nothing is rewritten in -/

/-- A byte of a plain word: a small letter but `j`, a digit or an underscore. -/
def isPlain (b : UInt8) : Bool := isDigit b || (97 ≤ b && b ≤ 122 && b != 106) || b == 95

/-- A word such as the statuses and the reasons of the source. -/
def Plain (s : Str) : Prop := ∀ b ∈ s, isPlain b = true

instance (s : Str) : Decidable (Plain s) :=
  List.decidableBAll (fun b => isPlain b = true) s

/-- A plain byte is ASCII, no white space and no sign. -/
theorem isPlain_spec {b : UInt8} (h : isPlain b = true) :
    b < 0x80 ∧ space.bytes b = false ∧ lowerByte b = b ∧
      b ∉ [34, 38, 44, 45, 58, 60, 61, 62, 92, 93, 106, 125] ∧ 32 ≤ b := by
  have hall : ∀ n < 256, isPlain (UInt8.ofNat n) = true →
      UInt8.ofNat n < 0x80 ∧ space.bytes (UInt8.ofNat n) = false ∧
        lowerByte (UInt8.ofNat n) = UInt8.ofNat n ∧
        UInt8.ofNat n ∉ [34, 38, 44, 45, 58, 60, 61, 62, 92, 93, 106, 125] ∧
        32 ≤ UInt8.ofNat n := by
    decide +kernel
  have hb := hall b.toNat (UInt8.toNat_lt b)
  rw [UInt8.ofNat_toNat] at hb
  exact hb h

/-- A plain word is written as it is. -/
theorem escape_plain {s : Str} (h : Plain s) : GoJson.escape 0 s = s := by
  induction s with
  | nil => rfl
  | cons b s ih =>
    have hrest := ih fun c hc => h c (List.mem_cons_of_mem b hc)
    obtain ⟨hascii, -, -, hsign, hlow⟩ := isPlain_spec (h b List.mem_cons_self)
    simp only [List.mem_cons, List.not_mem_nil, or_false, not_or] at hsign
    obtain ⟨h34, h38, -, -, -, h60, -, h62, h92, -, -, -⟩ := hsign
    have hne : ∀ c : UInt8, c < 32 → b ≠ c := by
      rintro c hc rfl
      exact absurd hlow (UInt8.not_le.mpr hc)
    have hsep : ¬ GoJson.separatorFirst (b :: s) := by
      rintro ⟨r, heq | heq⟩ <;>
      · obtain ⟨rfl, -⟩ := List.cons.inj heq
        exact absurd hascii (by decide)
    have hfound := (GoJson.isRune_of_lt hascii).found s
    rw [List.nil_append, List.length_nil] at hfound
    rw [GoJson.escape_zero hsep]
    simp only [h34, h92, h38, h60, h62, hne 8 (by decide), hne 12 (by decide), hne 10 (by decide),
      hne 13 (by decide), hne 9 (by decide), UInt8.not_lt.mpr hlow, or_self, if_false, hfound]
    rw [hrest]

namespace Inert

variable {s rest : Str}

theorem nil : Inert [] where
  ascii := by simp
  solid := by simp
  apart := List.isChain_nil
  keys := by simp

/-- One more byte at the front. -/
theorem cons (h : Inert s) {b : UInt8} (hb : b < 0x80 ∧ space.bytes b = false ∧ b ≠ 61)
    (happart : ∀ y, s.head? = some y → Apart b y)
    (hkey : b = 34 → ∀ t v, s = t ++ 34 :: 58 :: v → t.map lowerByte ∉ payloadNames) :
    Inert (b :: s) where
  ascii := by
    intro c hc
    rcases List.mem_cons.mp hc with rfl | hc
    · exact hb.1
    · exact h.ascii c hc
  solid := by
    intro c hc
    rcases List.mem_cons.mp hc with rfl | hc
    · exact hb.2
    · exact h.solid c hc
  apart := List.isChain_cons.mpr ⟨happart, h.apart⟩
  keys := by
    intro u t v heq
    cases u with
    | nil =>
      obtain ⟨rfl, hs⟩ := List.cons.inj heq
      exact hkey rfl t v hs
    | cons c u => exact h.keys u t v (List.cons.inj heq).2

/-- A plain word before a byte that is no hyphen, no colon and no `j`. -/
theorem plain (h : Inert rest) (hs : Plain s)
    (hhead : ∀ y, rest.head? = some y → y ≠ 45 ∧ y ≠ 58 ∧ lowerByte y ≠ 106) :
    Inert (s ++ rest) := by
  induction s with
  | nil => exact h
  | cons b s ih =>
    have hb := isPlain_spec (hs b List.mem_cons_self)
    have hrest : Plain s := fun c hc => hs c (List.mem_cons_of_mem b hc)
    have hsign := hb.2.2.2.1
    simp only [List.mem_cons, List.not_mem_nil, or_false, not_or] at hsign
    refine (ih hrest).cons ⟨hb.1, hb.2.1, hsign.2.2.2.2.2.2.1⟩ ?_ fun heq => absurd heq hsign.1
    intro y hy
    have hy' : y ≠ 45 ∧ y ≠ 58 ∧ lowerByte y ≠ 106 := by
      cases s with
      | nil => exact hhead y hy
      | cons c s =>
        obtain rfl := Option.some.inj hy
        obtain ⟨-, -, hlower, hsign', -⟩ := isPlain_spec (hrest c List.mem_cons_self)
        simp only [List.mem_cons, List.not_mem_nil, or_false, not_or] at hsign'
        rw [hlower]
        exact ⟨hsign'.2.2.2.1, hsign'.2.2.2.2.1, hsign'.2.2.2.2.2.2.2.2.2.2.1⟩
    exact ⟨fun h45 => absurd h45 hy'.1, fun h58 => absurd h58 hy'.2.1, fun hj => hy'.2.2 hj.2⟩

end Inert

/-- The byte after a value or a key in JSON text. -/
def Closes (s : Str) : Prop :=
  ∀ y, s.head? = some y → y = 44 ∨ y = 58 ∨ y = 93 ∨ y = 125

theorem closes_nil : Closes [] := by
  intro y hy
  cases hy

theorem closes_cons {b : UInt8} (h : b = 44 ∨ b = 58 ∨ b = 93 ∨ b = 125) (s : Str) :
    Closes (b :: s) := by
  intro y hy
  obtain rfl := Option.some.inj hy
  exact h

/-- The names of the payload are plain words. -/
theorem mem_payloadNames {t : Str} (h : t.map lowerByte ∈ payloadNames) :
    34 ∉ t ∧ ∃ b u, t = b :: u ∧ lowerByte b ∈ [98, 105, 109, 112, 114] := by
  have hall : ∀ name ∈ payloadNames, (34 : UInt8) ∉ name ∧
      ∃ b ∈ name.head?, b ∈ [98, 105, 109, 112, 114] := by decide
  obtain ⟨hquote, b, hb, hletter⟩ := hall _ h
  refine ⟨fun hmem => hquote (List.mem_map.mpr ⟨34, hmem, rfl⟩), ?_⟩
  cases t with
  | nil => cases hb
  | cons c u =>
    obtain rfl := Option.some.inj hb
    exact ⟨c, u, rfl, hletter⟩

/-- The text up to the first quote. -/
theorem eq_of_quote {s t r r' : Str} (hs : (34 : UInt8) ∉ s) (ht : 34 ∉ t)
    (h : s ++ 34 :: r = t ++ 34 :: r') : s = t ∧ r = r' := by
  induction s generalizing t with
  | nil =>
    cases t with
    | nil => exact ⟨rfl, (List.cons.inj h).2⟩
    | cons c t =>
      obtain ⟨rfl, -⟩ := List.cons.inj h
      exact absurd List.mem_cons_self ht
  | cons b s ih =>
    cases t with
    | nil =>
      obtain ⟨rfl, -⟩ := List.cons.inj h
      exact absurd List.mem_cons_self hs
    | cons c t =>
      obtain ⟨rfl, hrest⟩ := List.cons.inj h
      obtain ⟨rfl, rfl⟩ := ih (fun hmem => hs (List.mem_cons_of_mem b hmem))
        (fun hmem => ht (List.mem_cons_of_mem b hmem)) hrest
      exact ⟨rfl, rfl⟩

theorem apart_quote (y : UInt8) : Apart 34 y :=
  ⟨fun _ => by decide, fun _ => rfl, fun h => absurd h.1 (by decide)⟩

theorem Plain.not_mem {s : Str} (h : Plain s) {b : UInt8} (hb : isPlain b = false) : b ∉ s := by
  intro hmem
  rw [h b hmem] at hb
  contradiction

theorem Plain.map_lowerByte {s : Str} (h : Plain s) : s.map lowerByte = s :=
  (List.map_congr_left fun b hb => (isPlain_spec (h b hb)).2.2.1).trans (List.map_id s)

namespace Inert

variable {s rest : Str}

/-- The quote at the end of a string. -/
theorem close (h : Inert rest) (hcloses : Closes rest) : Inert (34 :: rest) := by
  refine h.cons (by decide) (fun y _ => apart_quote y) fun _ t v heq hname => ?_
  obtain ⟨-, b, u, rfl, hb⟩ := mem_payloadNames hname
  rcases hcloses b (by rw [heq]; rfl) with rfl | rfl | rfl | rfl <;> revert hb <;> decide

/-- A plain word in quotes; before a colon it is none of the names. -/
theorem quoted (h : Inert rest) (hcloses : Closes rest) (hs : Plain s)
    (hkey : ∀ v, rest = 58 :: v → s ∉ payloadNames) : Inert (34 :: (s ++ 34 :: rest)) := by
  have hword : Inert (s ++ 34 :: rest) := (h.close hcloses).plain hs (by
    intro y hy
    obtain rfl := Option.some.inj hy
    decide)
  refine hword.cons (by decide) (fun y _ => apart_quote y) fun _ t v heq hname => ?_
  obtain ⟨hquote, -⟩ := mem_payloadNames hname
  obtain ⟨rfl, rfl⟩ := eq_of_quote (hs.not_mem rfl) hquote heq
  rw [hs.map_lowerByte] at hname
  exact hkey v rfl hname

/-- A sign of JSON before anything but a colon. -/
theorem sign (h : Inert s) {b : UInt8} (hb : b ∈ [44, 58, 91, 93, 123, 125])
    (hcolon : ∀ v, s ≠ 58 :: v) : Inert (b :: s) := by
  have hsign : (b < 0x80 ∧ space.bytes b = false ∧ b ≠ 61) ∧ b ≠ 34 ∧ lowerByte b ≠ 121 ∧
      lowerByte b ≠ 107 ∧ lowerByte b ≠ 115 := by
    simp only [List.mem_cons, List.not_mem_nil, or_false] at hb
    rcases hb with rfl | rfl | rfl | rfl | rfl | rfl <;> decide
  refine h.cons hsign.1 ?_ fun heq => absurd heq hsign.2.1
  intro y hy
  refine ⟨fun _ => hsign.2.2.2, fun h58 => ?_, fun hj => hsign.2.2.1 hj.1⟩
  cases s with
  | nil => cases hy
  | cons c v =>
    obtain rfl := Option.some.inj hy
    exact absurd (by rw [h58]) (hcolon v)

end Inert

/-- JSON text of a value that leaves a text inert. -/
structure Settled (t : Str) : Prop where
  inert : ∀ rest, Inert rest → Closes rest → (∀ v, rest ≠ 58 :: v) → Inert (t ++ rest)
  head : ∀ rest v, t ++ rest ≠ 58 :: v

namespace Settled

open GoJson

theorem head_of_cons {b : UInt8} (hb : b ≠ 58) (t rest : Str) : ∀ v, b :: t ++ rest ≠ 58 :: v := by
  intro v heq
  exact hb (List.cons.inj heq).1

theorem word {s : Str} (hs : Plain s) (hne : s ≠ []) : Settled s where
  inert := by
    intro rest hrest hcloses hcolon
    refine hrest.plain hs fun y hy => ?_
    rcases hcloses y hy with rfl | rfl | rfl | rfl
    · decide
    · cases rest with
      | nil => cases hy
      | cons c v =>
        obtain rfl := Option.some.inj hy
        exact absurd rfl (hcolon v)
    all_goals decide
  head := by
    intro rest
    obtain ⟨b, u, rfl⟩ := List.exists_cons_of_ne_nil hne
    refine head_of_cons ?_ u rest
    rintro rfl
    exact absurd (hs 58 List.mem_cons_self) (by decide)

theorem str {s : Str} (hs : Plain s) : Settled (encode (.str s)) where
  inert := by
    intro rest hrest hcloses hcolon
    rw [encode, quote, escape_plain hs, List.cons_append, List.append_assoc, List.singleton_append]
    exact hrest.quoted hcloses hs fun v heq => absurd heq (hcolon v)
  head := head_of_cons (by decide) _

theorem num (n : Int) : Settled (encode (.num (itoa n))) := by
  have hdigits : ∀ n, Settled (digits n) := fun n =>
    word (fun b hb => by simp [isPlain, isDigit_of_mem_digits hb]) (digits_ne_nil n)
  rw [encode, itoa]
  split
  · refine ⟨fun rest hrest hcloses hcolon => ?_, head_of_cons (by decide) _⟩
    have hinert := (hdigits n.natAbs).inert rest hrest hcloses hcolon
    refine hinert.cons (by decide) ?_ (fun h => absurd h (by decide))
    intro y hy
    refine ⟨fun _ => by decide, fun h => ?_, fun h => absurd h.1 (by decide)⟩
    obtain ⟨v, hv⟩ : ∃ v, digits n.natAbs ++ rest = y :: v := List.head?_eq_some_iff.mp hy
    rw [h] at hv
    exact absurd hv ((hdigits n.natAbs).head rest v)
  · exact hdigits n.natAbs

theorem null : Settled (encode .null) :=
  word (show Plain (lit "null") by decide) (by decide)

theorem bool (b : Bool) : Settled (encode (.bool b)) := by
  cases b
  · exact word (show Plain (lit "false") by decide) (by decide)
  · exact word (show Plain (lit "true") by decide) (by decide)

/-- The elements of an array. -/
theorem elements {xs : List Json} (h : ∀ x ∈ xs, Settled (encode x)) :
    Settled (encodeElements xs) := by
  induction xs with
  | nil =>
    exact ⟨fun rest hrest _ hcolon => hrest.sign (by decide) hcolon, head_of_cons (by decide) _⟩
  | cons x xs ih =>
    have hx := h x List.mem_cons_self
    have hxs := ih fun y hy => h y (List.mem_cons_of_mem x hy)
    cases xs with
    | nil =>
      refine ⟨fun rest hrest _ hcolon => ?_, fun rest => ?_⟩
      · rw [encodeElements, List.append_assoc]
        exact hx.inert _ (hrest.sign (by decide) hcolon) (closes_cons (by decide) rest)
          (head_of_cons (by decide) [] rest)
      · rw [encodeElements, List.append_assoc]
        exact hx.head _
    | cons y xs =>
      refine ⟨fun rest hrest hcloses hcolon => ?_, fun rest => ?_⟩
      · rw [encodeElements, List.append_assoc]
        exact hx.inert _ ((hxs.inert rest hrest hcloses hcolon).sign (by decide) (hxs.head rest))
          (closes_cons (by decide) _) (head_of_cons (by decide) _ rest)
      · rw [encodeElements, List.append_assoc]
        exact hx.head _

theorem arr {xs : List Json} (h : ∀ x ∈ xs, Settled (encode x)) : Settled (encode (.arr xs)) where
  inert := by
    intro rest hrest hcloses hcolon
    rw [encode]
    exact ((elements h).inert rest hrest hcloses hcolon).sign (by decide) ((elements h).head rest)
  head := by
    intro rest
    rw [encode]
    exact head_of_cons (by decide) _ rest

/-- A field whose name no pattern looks for. -/
def Field (f : Str × Json) : Prop := Plain f.1 ∧ f.1 ∉ payloadNames ∧ Settled (encode f.2)

/-- A field before more text. -/
theorem Field.inert {key : Str} {x : Json} (h : Field (key, x)) {rest : Str} (hrest : Inert rest)
    (hcloses : Closes rest) (hcolon : ∀ v, rest ≠ 58 :: v) :
    Inert (quote key ++ 58 :: (encode x ++ rest)) := by
  obtain ⟨hkey, hname, hx⟩ := h
  have hvalue := (hx.inert rest hrest hcloses hcolon).sign (b := 58) (by decide) (hx.head rest)
  rw [quote, escape_plain hkey, List.cons_append, List.append_assoc, List.singleton_append]
  exact hvalue.quoted (closes_cons (by decide) _) hkey fun _ _ => hname

/-- The fields of an object. -/
theorem members {fs : List (Str × Json)} (h : ∀ f ∈ fs, Field f) : Settled (encodeMembers fs) := by
  induction fs with
  | nil =>
    exact ⟨fun rest hrest _ hcolon => hrest.sign (by decide) hcolon, head_of_cons (by decide) _⟩
  | cons f fs ih =>
    obtain ⟨key, x⟩ := f
    have hf := h (key, x) List.mem_cons_self
    have hfs := ih fun g hg => h g (List.mem_cons_of_mem _ hg)
    cases fs with
    | nil =>
      refine ⟨fun rest hrest _ hcolon => ?_, fun rest => ?_⟩
      · rw [encodeMembers, List.append_assoc, List.cons_append, List.append_assoc]
        exact hf.inert (hrest.sign (by decide) hcolon) (closes_cons (by decide) rest)
          (head_of_cons (by decide) [] rest)
      · rw [encodeMembers, quote]
        exact head_of_cons (by decide) _ rest
    | cons g fs =>
      refine ⟨fun rest hrest hcloses hcolon => ?_, fun rest => ?_⟩
      · rw [encodeMembers, List.append_assoc, List.cons_append, List.append_assoc]
        exact hf.inert ((hfs.inert rest hrest hcloses hcolon).sign (by decide) (hfs.head rest))
          (closes_cons (by decide) _) (head_of_cons (by decide) _ rest)
      · rw [encodeMembers, quote]
        exact head_of_cons (by decide) _ rest

theorem obj {fs : List (Str × Json)} (h : ∀ f ∈ fs, Field f) : Settled (encode (.obj fs)) where
  inert := by
    intro rest hrest hcloses hcolon
    rw [encode]
    exact ((members h).inert rest hrest hcloses hcolon).sign (by decide) ((members h).head rest)
  head := by
    intro rest
    rw [encode]
    exact head_of_cons (by decide) _ rest

/-- A whole text. -/
theorem unredacted {s : Str} (h : Settled s) : Unredacted s := by
  have hinert := h.inert [] .nil closes_nil fun v heq => absurd heq.symm (List.cons_ne_nil 58 v)
  rw [List.append_nil] at hinert
  exact hinert.unredacted

end Settled

theorem Plain.ascii {s : Str} (h : Plain s) : GoJson.Ascii s := fun b hb => (isPlain_spec (h b hb)).1

/-- JSON of words and numbers: nothing in its text is rewritten, and it is UTF-8. -/
structure Wordy (x : GoJson.Json) : Prop where
  settled : Settled (GoJson.encode x)
  utf8 : GoJson.valid x = x

namespace Wordy

open GoJson

theorem str {s : Str} (h : Plain s) : Wordy (.str s) :=
  ⟨.str h, by rw [valid, toValid_of_ascii h.ascii]⟩

theorem num (n : Int) : Wordy (.num (itoa n)) := ⟨.num n, rfl⟩

theorem null : Wordy .null := ⟨.null, rfl⟩

theorem bool (b : Bool) : Wordy (.bool b) := ⟨.bool b, rfl⟩

theorem arr {xs : List Json} (h : ∀ x ∈ xs, Wordy x) : Wordy (.arr xs) where
  settled := .arr fun x hx => (h x hx).settled
  utf8 := by rw [valid, validElements_eq_self fun x hx => (h x hx).utf8]

theorem obj {fs : List (Str × Json)}
    (h : ∀ f ∈ fs, Plain f.1 ∧ f.1 ∉ payloadNames ∧ Wordy f.2) : Wordy (.obj fs) where
  settled := .obj fun f hf => ⟨(h f hf).1, (h f hf).2.1, (h f hf).2.2.settled⟩
  utf8 := by
    rw [valid, validMembers_eq_self fun f hf =>
      ⟨toValid_of_ascii (h f hf).1.ascii, (h f hf).2.2.utf8⟩]

end Wordy

end Lune.Store
