import Lune.Gateway.Classify
import Lune.Health.ModelRequest
import Lune.Lib.GoFloat
import Lune.Lib.Utf8
import Lune.Store.RequestLogs

/-!
# Cutting texts to a length

`truncateUTF8Bytes` of `internal/store/logs.go` cuts where a character starts.
`truncateStreamError` of `internal/gateway/proxy.go` and `formatHTTPStatusError` of
`internal/health/checker.go` cut at a byte, which may be in the middle of a character.
-/

namespace Lune.Gateway

open GoText GoJson Store Health

/-! ## At a character -/

/-- A character takes its bytes. -/
theorem runeWidth_rune {b : UInt8} {more : Str} (h : IsRune b more) (rest : Str) :
    runeWidth (b :: (more ++ rest)) = more.length + 1 := by
  have hfound := h.found []
  rcases more with _ | ⟨c, _ | ⟨d, _ | ⟨e, _ | ⟨f, more⟩⟩⟩⟩
  · have hb := h.ascii.mpr rfl
    have hbelow : ∀ k : UInt8, 0x80 ≤ k → decide (k ≤ b) = false ∧ (b == k) = false := by
      intro k hk
      grind
    simp only [runeWidth, hbelow, UInt8.reduceLE, Bool.false_and, Bool.false_eq_true, reduceIte,
      List.length_nil]
  all_goals
    have hb : ¬ b < 0x80 := fun hb => absurd (h.ascii.mp hb) (List.cons_ne_nil _ _)
    simp only [runeTail, runeWidth, isTail, List.cons_append, List.nil_append, List.take_succ_cons,
      List.take_zero, List.all_nil, List.all_cons, List.length_nil, List.length_cons, if_neg hb,
      Bool.and_eq_true, decide_eq_true_eq, beq_iff_eq, bne_iff_ne, ne_eq, UInt8.le_iff_toNat_le,
      ← UInt8.toNat_inj, UInt8.reduceToNat, and_true, Option.ite_none_right_eq_some] at hfound ⊢
  · rw [if_pos (by omega)]
  · have hc := h.tail c (by simp)
    have hd := h.tail d (by simp)
    simp only [isTail, Bool.and_eq_true, decide_eq_true_eq, UInt8.le_iff_toNat_le,
      UInt8.reduceToNat] at hc hd
    by_cases hlow : b.toNat = 224
    · simp [hlow] at hfound
      simp [hlow, hfound, hc]
    by_cases hhigh : b.toNat = 237
    · simp [hhigh] at hfound
      simp [hhigh, hfound, hc]
    simp [hlow, hhigh, hc, hd] at hfound ⊢
    split_ifs at hfound ⊢ <;> first | omega | simp at hfound
  · have hc := h.tail c (by simp)
    have hd := h.tail d (by simp)
    have he := h.tail e (by simp)
    simp only [isTail, Bool.and_eq_true, decide_eq_true_eq, UInt8.le_iff_toNat_le,
      UInt8.reduceToNat] at hc hd he
    by_cases hlow : b.toNat = 240
    · simp [hlow] at hfound
      simp [hlow, hfound, hc]
    by_cases hhigh : b.toNat = 244
    · simp [hhigh] at hfound
      simp [hhigh, hfound, hc]
    simp [hlow, hhigh, hc, hd, he] at hfound ⊢
    split_ifs at hfound ⊢ <;> first | omega | simp at hfound
  · split_ifs at hfound <;> simp at hfound

theorem le_lastRuneStart {maxBytes fuel pos last : Nat} {s : Str} (h : last ≤ pos) :
    last ≤ lastRuneStart maxBytes fuel pos last s := by
  induction fuel generalizing pos last s with
  | zero => exact le_refl _
  | succ fuel ih =>
    cases s with
    | nil => exact le_refl _
    | cons b s =>
      rw [lastRuneStart]
      split
      · exact le_refl _
      · exact h.trans (ih (Nat.le_add_right _ _))

/-- In a text that is too long a character other than the first is found. -/
theorem lastRuneStart_pos {s : Str} {maxBytes : Nat} (hs : validString s = true)
    (hmax : 4 ≤ maxBytes) (hlong : maxBytes < s.length) :
    0 < lastRuneStart maxBytes s.length 0 0 s := by
  cases s, hs using valid_induction with
  | nil => simp at hlong
  | rune b more rest hrune _ _ =>
    have hwidth := hrune.length_le
    have hdrop : (b :: (more ++ rest)).drop (more.length + 1) = rest := by simp
    rw [List.length_cons, List.length_append] at hlong
    rw [List.length_cons, lastRuneStart, if_neg (Nat.not_lt_zero _)]
    dsimp only
    rw [runeWidth_rune hrune, hdrop]
    -- the second character is not behind the limit
    cases rest with
    | nil =>
      rw [List.length_nil] at hlong
      omega
    | cons c rest =>
      rw [List.length_append, List.length_cons, ← Nat.add_assoc, lastRuneStart, if_neg (by omega)]
      exact lt_of_lt_of_le (by omega) (le_lastRuneStart (Nat.le_add_right _ _))

/-- The place that is found is one where a character starts. -/
theorem lastRuneStart_cut {maxBytes : Nat} {s : Str} (fuel : Nat) {front rest : Str} {last : Nat}
    (hs : s = front ++ rest) (hfront : validString front = true) (hrest : validString rest = true)
    (hlast : validString (s.take last) = true) (hle : last ≤ maxBytes) :
    lastRuneStart maxBytes fuel front.length last rest ≤ maxBytes ∧
      validString (s.take (lastRuneStart maxBytes fuel front.length last rest)) = true := by
  induction fuel generalizing front rest last with
  | zero => exact ⟨hle, hlast⟩
  | succ fuel ih =>
    cases rest, hrest using valid_induction with
    | nil => exact ⟨hle, hlast⟩
    | rune b more rest hrune hrest _ =>
      rw [lastRuneStart]
      split
      · exact ⟨hle, hlast⟩
      next hmax =>
        have hnext : s = (front ++ b :: more) ++ rest := by simp [hs]
        have hvalid : validString (front ++ b :: more) = true := by
          have hone := validString_rune hrune []
          rw [List.append_nil] at hone
          rw [validString_append hfront, hone]
          rfl
        have htake : validString (s.take front.length) = true := by
          rw [hs, List.take_left]
          exact hfront
        have hlength : (front ++ b :: more).length = front.length + (more.length + 1) := by simp
        have hdrop : (b :: (more ++ rest)).drop (more.length + 1) = rest := by simp
        dsimp only
        rw [runeWidth_rune hrune, hdrop, ← hlength]
        exact ih hnext hvalid hrest htake (by omega)

/-- What `truncateUTF8Bytes` makes of a text that is too long. -/
theorem exists_truncateUTF8Bytes {s : Str} {maxBytes : Nat} (hs : validString s = true)
    (hmax : 4 ≤ maxBytes) (hlong : maxBytes < s.length) :
    ∃ k ≤ maxBytes, validString (s.take k) = true ∧
      truncateUTF8Bytes s maxBytes = trimSpace (s.take k) := by
  have hpos := lastRuneStart_pos hs hmax hlong
  obtain ⟨hle, hcut⟩ := @lastRuneStart_cut maxBytes s s.length [] s 0 rfl rfl hs rfl (Nat.zero_le _)
  refine ⟨_, hle, hcut, ?_⟩
  rw [truncateUTF8Bytes, if_neg (by omega)]
  dsimp only
  rw [if_neg (by omega)]
  rfl

/-! ## What the three keep -/

/-- Of a message a valid text of the length is left, and what is kept is at the front of
the trimmed message. -/
structure Cuts (msg result kept : Str) (limit : Nat) : Prop where
  valid : validString result = true
  short : result.length ≤ limit
  front : kept <+: trimSpace msg

/-- `truncateStreamError` keeps the front of the message, maybe with an ellipsis. -/
def StreamErrorCuts (msg : Str) (max : Nat) : Prop :=
  ∃ kept, Cuts msg (truncateStreamError msg max) kept max ∧
    (truncateStreamError msg max = kept ∨ truncateStreamError msg max = kept ++ lit "...")

/-- `formatHTTPStatusError` keeps the front of the body behind the status. -/
def StatusErrorCuts (statusCode : Int) (body : Str) : Prop :=
  let status := lit "HTTP " ++ itoa statusCode
  ∃ kept, Cuts body (formatHTTPStatusError statusCode body) kept ((status ++ lit ": ").length + 240) ∧
    (kept = [] ∧ formatHTTPStatusError statusCode body = status ∨
      formatHTTPStatusError statusCode body = status ++ lit ": " ++ kept)

/-- `truncateUTF8Bytes` keeps the front of the message, maybe with white space in front of
it. -/
def UTF8BytesCuts (msg : Str) (maxBytes : Nat) : Prop :=
  Cuts msg (truncateUTF8Bytes msg maxBytes) (trimSpace (truncateUTF8Bytes msg maxBytes)) maxBytes

theorem utf8BytesCuts {msg : Str} {maxBytes : Nat} (hvalid : validString msg = true)
    (hmax : 4 ≤ maxBytes) : UTF8BytesCuts msg maxBytes := by
  by_cases hlong : maxBytes < msg.length
  · obtain ⟨k, hle, hcut, heq⟩ := exists_truncateUTF8Bytes hvalid hmax hlong
    unfold UTF8BytesCuts
    rw [heq, trimSpace_trimSpace hcut]
    refine ⟨validString_trimSpace hcut, ?_, trimSpace_take_prefix hvalid hcut⟩
    exact (length_trimSpace_le _).trans ((List.length_take_le _ _).trans hle)
  · have hsame : truncateUTF8Bytes msg maxBytes = msg := if_pos (Or.inr (by omega))
    unfold UTF8BytesCuts
    rw [hsame]
    exact ⟨hvalid, by omega, List.prefix_rfl⟩

/-- The ellipsis does not repair a character that was cut. -/
theorem streamErrorCuts_iff {msg : Str} {max : Nat} (hvalid : validString msg = true)
    (hmax : 3 < max) :
    StreamErrorCuts msg max ↔
      (trimSpace msg).length ≤ max ∨ startsAt (trimSpace msg) (max - 3) = true := by
  have htrim := validString_trimSpace hvalid
  by_cases hlong : (trimSpace msg).length ≤ max
  · have hsame : truncateStreamError msg max = trimSpace msg := if_pos hlong
    refine iff_of_true ⟨trimSpace msg, ⟨?_, ?_, List.prefix_rfl⟩, Or.inl hsame⟩ (Or.inl hlong)
    · rw [hsame]
      exact htrim
    · rw [hsame]
      exact hlong
  · have hcut : truncateStreamError msg max = (trimSpace msg).take (max - 3) ++ lit "..." := by
      rw [truncateStreamError, if_neg hlong, if_neg (by omega)]
    have hvalidCut : validString (truncateStreamError msg max) = true ↔
        startsAt (trimSpace msg) (max - 3) = true := by
      rw [hcut, ← validString_take htrim]
      constructor
      · exact fun h => validString_of_append h rfl
      · intro h
        rw [validString_append h]
        rfl
    constructor
    · rintro ⟨kept, hkept, -⟩
      exact Or.inr (hvalidCut.mp hkept.valid)
    · rintro (hshort | hstarts)
      · exact absurd hshort hlong
      · refine ⟨(trimSpace msg).take (max - 3), ⟨hvalidCut.mpr hstarts, ?_, List.take_prefix _ _⟩,
          Or.inr hcut⟩
        rw [hcut, List.length_append, List.length_take]
        show _ + 3 ≤ max
        omega

theorem statusErrorCuts_iff {statusCode : Int} {body : Str} (hvalid : validString body = true) :
    StatusErrorCuts statusCode body ↔ startsAt (trimSpace body) 240 = true := by
  have hstatus : validString (lit "HTTP " ++ itoa statusCode) = true := by
    refine validString_of_ascii fun b hb => ?_
    cases List.mem_append.mp hb with
    | inl hb =>
      have hall : (lit "HTTP ").all (· < 0x80) = true := by decide
      exact of_decide_eq_true (List.all_eq_true.mp hall b hb)
    | inr hb =>
      cases GoFloat.mem_itoa hb with
      | inl h => exact h ▸ by decide
      | inr h =>
        simp only [isDigit, Bool.and_eq_true, decide_eq_true_eq] at h
        exact UInt8.lt_of_le_of_lt h.2 (by decide)
  unfold StatusErrorCuts
  generalize hs : lit "HTTP " ++ itoa statusCode = status at hstatus
  by_cases hblank : trimSpace body = []
  · have hcut : formatHTTPStatusError statusCode body = status := by
      rw [formatHTTPStatusError, if_pos hblank, hs]
    refine iff_of_true ⟨[], ⟨?_, ?_, List.nil_prefix⟩, Or.inl ⟨rfl, hcut⟩⟩ (by rw [hblank]; rfl)
    · rw [hcut]
      exact hstatus
    · rw [hcut, List.length_append]
      omega
  · have hcut : formatHTTPStatusError statusCode body =
        status ++ lit ": " ++ (trimSpace body).take 240 := by
      rw [formatHTTPStatusError, if_neg hblank, hs]
    have hfront : validString (status ++ lit ": ") = true := by
      rw [validString_append hstatus]
      rfl
    have hvalidCut : validString (formatHTTPStatusError statusCode body) = true ↔
        startsAt (trimSpace body) 240 = true := by
      rw [hcut, validString_append hfront, validString_take (validString_trimSpace hvalid)]
    constructor
    · rintro ⟨kept, hkept, -⟩
      exact hvalidCut.mp hkept.valid
    · intro hstarts
      refine ⟨(trimSpace body).take 240, ⟨hvalidCut.mpr hstarts, ?_, List.take_prefix _ _⟩,
        Or.inr hcut⟩
      rw [hcut, List.length_append, List.length_take]
      omega

/-- The three keep a valid message valid if and only if its characters start where two of
them cut: three bytes before the limit when the message is longer, and at byte 240. -/
theorem cuts_keep_text_valid_iff {msg : Str} {limit : Nat} (statusCode : Int)
    (hvalid : validString msg = true) (hlimit : 16 ≤ limit) :
    (StreamErrorCuts msg limit ∧ StatusErrorCuts statusCode msg ∧ UTF8BytesCuts msg limit) ↔
      ((trimSpace msg).length ≤ limit ∨ startsAt (trimSpace msg) (limit - 3) = true) ∧
        startsAt (trimSpace msg) 240 = true := by
  rw [streamErrorCuts_iff hvalid (by omega), statusErrorCuts_iff hvalid]
  constructor
  · rintro ⟨hstream, hstatus, -⟩
    exact ⟨hstream, hstatus⟩
  · rintro ⟨hstream, hstatus⟩
    exact ⟨hstream, hstatus, utf8BytesCuts hvalid (by omega)⟩

theorem short_euros_kept :
    validString (lit " €€ ") = true ∧ StreamErrorCuts (lit " €€ ") 16 ∧
      StatusErrorCuts 500 (lit " €€ ") ∧ UTF8BytesCuts (lit " €€ ") 16 :=
  ⟨by decide +kernel, (cuts_keep_text_valid_iff 500 (by decide +kernel) (by decide)).mpr
    (by decide +kernel)⟩

/-- A letter and 200 euro signs of three bytes. -/
def euros : Str := lit "x" ++ (List.replicate 200 (lit "€")).flatten

/-- The stream error and the status error end in the middle of a euro sign. -/
theorem euro_cut_in_two :
    validString euros = true ∧
      validString (truncateStreamError euros 512) = false ∧
      validString (formatHTTPStatusError 500 euros) = false ∧
      ¬ (StreamErrorCuts euros 512 ∧ StatusErrorCuts 500 euros ∧ UTF8BytesCuts euros 512) := by
  have hstream : validString (truncateStreamError euros 512) = false := by decide +kernel
  refine ⟨by decide +kernel, hstream, by decide +kernel, ?_⟩
  rintro ⟨⟨kept, hkept, -⟩, -⟩
  rw [hkept.valid] at hstream
  contradiction

end Lune.Gateway
