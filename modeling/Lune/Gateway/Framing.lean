import Lune.Gateway.PassThrough

/-!
# Two ways to write an event stream

The event-stream format lets a blank follow the colon of a field and leaves a
choice of line ends, so one stream has many encodings.  `observeLine` looks for
`data: ` with the blank.  A data line written without it is read as no data line,
and whatever it tells is lost; a carriage return or a blank can also be the byte
that makes a line too long for the buffer.

The result says for which lines neither happens: exactly over those is every
stream reported alike in all its encodings.
-/

namespace Lune.Gateway

open GoText GoJson Keyed HttpHeader

/-! ## Event streams -/

/-- Text without a line end in it. -/
def NoBreak (text : Str) : Prop := (10 : UInt8) ∉ text ∧ (13 : UInt8) ∉ text

instance (text : Str) : Decidable (NoBreak text) := inferInstanceAs (Decidable (_ ∧ _))

/-- A line of an event stream: a data field with its value, or a line that is none,
be it another field, a comment or the blank line after an event. -/
inductive EventLine where
  | data (value : Str) (whole : NoBreak value)
  | other (text : Str) (whole : NoBreak text) (plain : hasPrefix text (lit "data:") = false)

namespace EventLine

/-- The ways to write a line.  A value that starts with a blank needs the optional
one in front of it. -/
def spellings : EventLine → List Str
  | data value _ =>
    (lit "data: " ++ value) :: if value.head? = some 32 then [] else [lit "data:" ++ value]
  | other text _ _ => [text]

/-- The ways to write a line, up to the line feed. -/
def raws (line : EventLine) : List Str := line.spellings.flatMap fun text => [text, text ++ [13]]

end EventLine

/-- The body is an encoding of the stream. -/
def Encodes (lines : List EventLine) (body : Str) : Prop :=
  ∃ raws, List.Forall₂ (fun line raw => raw ∈ EventLine.raws line) lines raws ∧
    body = terminated raws

/-- What the gateway goes by after a stream. -/
structure Report where
  completed : Bool := false
  failed : Bool := false
  healthImpact : Bool := false
  errorMessage : Str := []
  usage : Usage := {}
deriving DecidableEq

def StreamResult.report (result : StreamResult) : Report where
  completed := result.completed
  failed := result.failed
  healthImpact := result.healthImpact
  errorMessage := result.errorMessage
  usage := result.usage

/-- The report of `forwardStream`. -/
def reported (down : Downstream) (resp : UpstreamResponse) (header : Header) (pathSuffix : Str) :
    Option Report :=
  (forwardStream down resp header pathSuffix).map fun outcome => outcome.1.report

/-- All encodings of the stream are reported alike: to every client, for every
answer they are the body of, and for every path. -/
def FramingInsensitive (lines : List EventLine) : Prop :=
  ∀ (down : Downstream) (resp : UpstreamResponse) (header : Header) (pathSuffix body body' : Str),
    Encodes lines body → Encodes lines body' →
      reported down { resp with body := body } header pathSuffix =
        reported down { resp with body := body' } header pathSuffix

/-! ## Lines that lose nothing -/

/-- The value of a data field that `observeLine` has no use for. -/
structure TellsNothing (value : Str) : Prop where
  marker : trimSpace value ≠ lit "[DONE]"
  event : ∀ event, sseEvent (trimSpace value) = some event →
    event.1 ≠ lit "response.completed" ∧ isFailure event = false
  usage : (parseUsageFromBody (trimSpace value)).positive = false

/-- The line loses nothing when it is written without the blank, or cannot be. -/
def EventLine.Quiet : EventLine → Prop
  | data value _ => value.head? = some 32 ∨ TellsNothing value
  | other _ _ _ => True

/-- The line is too long in each of its spellings, or in none and loses nothing. -/
def EventLine.Harmless (line : EventLine) : Prop :=
  (∀ raw ∈ line.raws, maxLine ≤ raw.length) ∨
    (∀ raw ∈ line.raws, raw.length < maxLine) ∧ line.Quiet

/-! ## Reading the spellings -/

theorem hasPrefix_data (value : Str) : hasPrefix (lit "data: " ++ value) (lit "data: ") = true := by
  rw [hasPrefix, List.isPrefixOf_iff_prefix]
  exact List.prefix_append _ _

/-- Without the blank it is no data line. -/
theorem hasPrefix_bare {value : Str} (h : value.head? ≠ some 32) :
    hasPrefix (lit "data:" ++ value) (lit "data: ") = false := by
  cases value with
  | nil => decide
  | cons b value =>
    have hb : (32 == b) = false := beq_eq_false_iff_ne.mpr fun heq => h (by rw [heq, List.head?_cons])
    show ((32 == b) && List.isPrefixOf [] value) = false
    rw [hb, Bool.false_and]

theorem payload?_data (value : Str) : payload? (lit "data: " ++ value) = some (trimSpace value) := by
  unfold payload?
  rw [if_pos (hasPrefix_data value)]
  rfl

/-- Text that starts with a letter other than those of JSON's words is no JSON. -/
theorem unmarshal_letter (floats : Bool) (rest : Str) : unmarshal floats (100 :: rest) = none := by
  unfold unmarshal
  rw [show value floats (enough (100 :: rest)) maxNestingDepth (100 :: rest) = none from rfl]

theorem extractUpstreamErrorMessage_bare (value : Str) :
    extractUpstreamErrorMessage (lit "data:" ++ value) = [] := by
  obtain ⟨rest, htrim⟩ := exists_trimSpace_cons (b := 100) (by decide) (lit "ata:" ++ value)
  unfold extractUpstreamErrorMessage
  rw [show lit "data:" ++ value = 100 :: (lit "ata:" ++ value) from rfl, htrim, unmarshal_letter]

theorem observeLine_bare {value : Str} (h : value.head? ≠ some 32) (acceptDone : Bool)
    (result : StreamResult) : observeLine acceptDone result (lit "data:" ++ value) = result := by
  unfold observeLine
  rw [hasPrefix_bare h, if_neg Bool.false_ne_true, extractUpstreamErrorMessage_bare]
  exact if_neg fun hmessage => hmessage.1 rfl

theorem updateStreamResultFromSSEData_quiet {data : Str}
    (h : ∀ event, sseEvent data = some event →
      event.1 ≠ lit "response.completed" ∧ isFailure event = false) (result : StreamResult) :
    updateStreamResultFromSSEData result data = result := by
  unfold updateStreamResultFromSSEData
  cases hevent : sseEvent data with
  | none => rfl
  | some event =>
    obtain ⟨hcompleted, hfailure⟩ := h event hevent
    rw [isFailure, Bool.or_eq_false_iff, beq_eq_false_iff_ne, beq_eq_false_iff_ne] at hfailure
    dsimp only
    rw [if_neg hcompleted, if_neg (not_or.mpr hfailure)]

theorem observeLine_quiet {value : Str} (h : TellsNothing value) (acceptDone : Bool)
    (result : StreamResult) : observeLine acceptDone result (lit "data: " ++ value) = result := by
  have hdrop : (lit "data: " ++ value).drop 6 = value := rfl
  have hmarker : (trimSpace value == lit "[DONE]") = false := beq_eq_false_iff_ne.mpr h.marker
  have husage : (decide (0 < (parseUsageFromBody (trimSpace value)).inputTokens) ||
      decide (0 < (parseUsageFromBody (trimSpace value)).outputTokens)) = false := h.usage
  unfold observeLine
  rw [if_pos (hasPrefix_data value), hdrop]
  simp only [hmarker, Bool.and_false, Bool.false_eq_true, if_false,
    updateStreamResultFromSSEData_quiet h.event, husage]

/-- All spellings of a quiet line tell the same. -/
theorem observeLine_spellings {line : EventLine} (h : line.Quiet) {text text' : Str}
    (htext : text ∈ line.spellings) (htext' : text' ∈ line.spellings) (acceptDone : Bool)
    (result : StreamResult) :
    observeLine acceptDone result text = observeLine acceptDone result text' := by
  cases line with
  | other text _ _ =>
    rw [List.mem_singleton.mp htext, List.mem_singleton.mp htext']
  | data value whole =>
    by_cases hblank : value.head? = some 32
    · rw [EventLine.spellings, if_pos hblank, List.mem_singleton] at htext htext'
      rw [htext, htext']
    · have hquiet : TellsNothing value := h.resolve_left hblank
      have hkeeps : ∀ text ∈ (EventLine.data value whole).spellings,
          observeLine acceptDone result text = result := by
        intro text hmem
        rw [EventLine.spellings, if_neg hblank, List.mem_pair] at hmem
        rcases hmem with rfl | rfl
        · exact observeLine_quiet hquiet acceptDone result
        · exact observeLine_bare hblank acceptDone result
      rw [hkeeps text htext, hkeeps text' htext']

theorem noBreak_spelling {line : EventLine} {text : Str} (h : text ∈ line.spellings) :
    NoBreak text := by
  have hfield : ∀ {name value : Str}, NoBreak name → NoBreak value → NoBreak (name ++ value) := by
    intro name value hname hvalue
    refine ⟨?_, ?_⟩
    · rw [List.mem_append, not_or]
      exact ⟨hname.1, hvalue.1⟩
    · rw [List.mem_append, not_or]
      exact ⟨hname.2, hvalue.2⟩
  cases line with
  | other text' whole _ =>
    rw [List.mem_singleton.mp h]
    exact whole
  | data value whole =>
    rw [EventLine.spellings, List.mem_cons] at h
    rcases h with rfl | h
    · exact hfield (by decide) whole
    · split at h
      · contradiction
      · rw [List.mem_singleton.mp h]
        exact hfield (by decide) whole

theorem mem_raws {line : EventLine} {raw : Str} :
    raw ∈ line.raws ↔ ∃ text ∈ line.spellings, raw = text ∨ raw = text ++ [13] := by
  simp [EventLine.raws]

/-- A raw line is read as the spelling it holds. -/
theorem dropCR_raw {line : EventLine} {text raw : Str} (htext : text ∈ line.spellings)
    (hraw : raw = text ∨ raw = text ++ [13]) : dropCR raw = text := by
  rcases hraw with rfl | rfl
  · exact dropCR_eq_self fun hlast => (noBreak_spelling htext).2 (List.mem_of_getLast? hlast)
  · rw [dropCR, List.getLast?_concat, if_pos rfl, List.dropLast_concat]

theorem lineFeed_not_mem_raw {line : EventLine} {raw : Str} (h : raw ∈ line.raws) :
    (10 : UInt8) ∉ raw := by
  obtain ⟨text, htext, hraw⟩ := mem_raws.mp h
  have hbreak := (noBreak_spelling htext).1
  rcases hraw with rfl | rfl
  · exact hbreak
  · rw [List.mem_append, not_or]
    exact ⟨hbreak, by decide⟩

/-! ## Reading the encodings -/

/-- Two raw lines that the loop treats alike. -/
def SameRead (raw raw' : Str) : Prop :=
  (maxLine ≤ raw.length ∧ maxLine ≤ raw'.length) ∨
    (raw.length < maxLine ∧ raw'.length < maxLine ∧
      ∀ acceptDone result, observeLine acceptDone result (dropCR raw) =
        observeLine acceptDone result (dropCR raw'))

theorem EventLine.Harmless.sameRead {line : EventLine} (h : line.Harmless) {raw raw' : Str}
    (hraw : raw ∈ line.raws) (hraw' : raw' ∈ line.raws) : SameRead raw raw' := by
  rcases h with hlong | ⟨hfits, hquiet⟩
  · exact Or.inl ⟨hlong raw hraw, hlong raw' hraw'⟩
  · obtain ⟨text, htext, hspelled⟩ := mem_raws.mp hraw
    obtain ⟨text', htext', hspelled'⟩ := mem_raws.mp hraw'
    refine Or.inr ⟨hfits raw hraw, hfits raw' hraw', fun acceptDone result => ?_⟩
    rw [dropCR_raw htext hspelled, dropCR_raw htext' hspelled']
    exact observeLine_spellings hquiet htext htext' acceptDone result

/-- The loop keeps the same and ends the same way over lines it treats alike. -/
theorem relayLines_congr {raws raws' : List Str} (h : List.Forall₂ SameRead raws raws')
    (down : Downstream) (acceptDone : Bool) (result : StreamResult) (n : Nat) (out out' : Str) :
    (relayLines down acceptDone result n out raws).1 =
        (relayLines down acceptDone result n out' raws').1 ∧
      (relayLines down acceptDone result n out raws).2.2 =
        (relayLines down acceptDone result n out' raws').2.2 := by
  induction h generalizing result n out out' with
  | nil => exact ⟨rfl, rfl⟩
  | cons hline _ ih =>
    rw [relayLines, relayLines]
    rcases hline with ⟨hlong, hlong'⟩ | ⟨hfit, hfit', hsame⟩
    · rw [if_pos hlong, if_pos hlong']
      exact ⟨rfl, rfl⟩
    · rw [if_neg (Nat.not_le.mpr hfit), if_neg (Nat.not_le.mpr hfit')]
      dsimp only
      cases down.writeErr n with
      | some text => exact ⟨rfl, rfl⟩
      | none =>
        cases down.writeErr (n + 1) with
        | some text => exact ⟨rfl, rfl⟩
        | none =>
          dsimp only
          rw [hsame acceptDone result]
          exact ih _ (n + 2) _ _

theorem reported_congr {body body' : Str}
    (h : List.Forall₂ SameRead (splitLines body) (splitLines body')) (down : Downstream)
    (resp : UpstreamResponse) (header : Header) (pathSuffix : Str) :
    reported down { resp with body := body } header pathSuffix =
      reported down { resp with body := body' } header pathSuffix := by
  obtain ⟨hresult, hend⟩ :=
    relayLines_congr h down (isChatCompletionsStream pathSuffix) {} 0 [] []
  have hrelay : (relayStream down { resp with body := body } pathSuffix).1 =
      (relayStream down { resp with body := body' } pathSuffix).1 := by
    unfold relayStream
    dsimp only
    generalize relayLines down (isChatCompletionsStream pathSuffix) {} 0 [] (splitLines body) =
      relayed at hresult hend
    generalize relayLines down (isChatCompletionsStream pathSuffix) {} 0 [] (splitLines body') =
      relayed' at hresult hend
    obtain ⟨result, out, scanEnd⟩ := relayed
    obtain ⟨result', out', scanEnd'⟩ := relayed'
    dsimp only at hresult hend
    subst hresult hend
    cases scanEnd with
    | eof => cases resp.readErr <;> rfl
    | tooLong => rfl
    | writeFailed text => rfl
  unfold reported forwardStream
  split
  · rfl
  · dsimp only
    split
    · simp only [Option.map_some, hrelay]
    · rfl

theorem splitLines_encoded {lines : List EventLine} {raws : List Str}
    (h : List.Forall₂ (fun line raw => raw ∈ EventLine.raws line) lines raws) :
    splitLines (terminated raws) = raws := by
  induction h with
  | nil => rfl
  | cons hraw _ ih => rw [terminated_cons, splitLines_append (lineFeed_not_mem_raw hraw), ih]

/-- Harmless lines make streams whose encodings are reported alike. -/
theorem framingInsensitive_of_harmless {lines : List EventLine}
    (h : ∀ line ∈ lines, line.Harmless) : FramingInsensitive lines := by
  rintro down resp header pathSuffix _ _ ⟨raws, hraws, rfl⟩ ⟨raws', hraws', rfl⟩
  apply reported_congr
  rw [splitLines_encoded hraws, splitLines_encoded hraws']
  induction hraws generalizing raws' with
  | nil =>
    cases hraws'
    exact List.Forall₂.nil
  | cons hraw _ ih =>
    cases hraws' with
    | cons hraw' hrest =>
      exact List.Forall₂.cons ((h _ List.mem_cons_self).sameRead hraw hraw')
        (ih (fun other hother => h other (List.mem_cons_of_mem _ hother)) _ hrest)

/-! ## Lines that lose something -/

theorem encodes_single {line : EventLine} {raw : Str} (h : raw ∈ line.raws) :
    Encodes [line] (terminated [raw]) :=
  ⟨[raw], List.Forall₂.cons h List.Forall₂.nil, rfl⟩

/-- An answer that is no success, so that nothing is added at its end. -/
def notFound (body : Str) : UpstreamResponse := { statusCode := 404, body := body }

/-- A client to which no write succeeds. -/
def brokenClient : Downstream := { writeErr := fun _ => some [] }

theorem reported_single {raw : Str} (hraw : (10 : UInt8) ∉ raw) (down : Downstream)
    (hflushes : down.flushes = true) (pathSuffix : Str) :
    reported down (notFound (terminated [raw])) Table.empty pathSuffix =
      some (relayStream down (notFound (terminated [raw])) pathSuffix).1.report ∧
        splitLines (notFound (terminated [raw])).body = [raw] := by
  refine ⟨?_, splitLines_terminated (by simpa using hraw)⟩
  have hstatus : ValidStatus (notFound (terminated [raw])).statusCode :=
    show ValidStatus 404 by decide
  unfold reported forwardStream
  rw [hflushes, Bool.not_true, if_neg Bool.false_ne_true, if_pos hstatus]
  rfl

/-- A line that fits is lost on the client, one that does not stops the reading. -/
theorem errorMessage_single {raw : Str} (hraw : (10 : UInt8) ∉ raw) :
    (reported brokenClient (notFound (terminated [raw])) Table.empty []).map Report.errorMessage =
      some (if maxLine ≤ raw.length then lit "stream read error: bufio.Scanner: token too long"
        else lit "downstream write error:") := by
  obtain ⟨hreport, hsplit⟩ := reported_single hraw brokenClient rfl []
  rw [hreport, Option.map_some, relayStream, hsplit, relayLines]
  by_cases hlong : maxLine ≤ raw.length
  · rw [if_pos hlong, if_pos hlong]
    have hread : (streamReadError {} (expectedStreamCompletionMarker []) errTooLong).errorMessage =
        lit "stream read error: bufio.Scanner: token too long" := by decide +kernel
    exact congrArg some hread
  · rw [if_neg hlong, if_neg hlong]
    have hwrite : truncateStreamError (lit "downstream write error: " ++ []) 512 =
        lit "downstream write error:" := by decide +kernel
    exact congrArg some hwrite

/-- Of insensitive lines all spellings are too long or none. -/
theorem tooLong_iff_of_insensitive {line : EventLine} (h : FramingInsensitive [line])
    {raw raw' : Str} (hraw : raw ∈ line.raws) (hraw' : raw' ∈ line.raws) :
    maxLine ≤ raw.length ↔ maxLine ≤ raw'.length := by
  have hreported := h brokenClient (notFound []) Table.empty [] _ _ (encodes_single hraw)
    (encodes_single hraw')
  have hmessage := congrArg (Option.map Report.errorMessage) hreported
  have htexts : lit "stream read error: bufio.Scanner: token too long" ≠
      lit "downstream write error:" := by decide
  rw [show ({ notFound [] with body := terminated [raw] } : UpstreamResponse) =
      notFound (terminated [raw]) from rfl,
    show ({ notFound [] with body := terminated [raw'] } : UpstreamResponse) =
      notFound (terminated [raw']) from rfl,
    errorMessage_single (lineFeed_not_mem_raw hraw),
    errorMessage_single (lineFeed_not_mem_raw hraw'), Option.some.injEq] at hmessage
  by_cases hlong : maxLine ≤ raw.length <;> by_cases hlong' : maxLine ≤ raw'.length
  · exact iff_of_true hlong hlong'
  · rw [if_pos hlong, if_neg hlong'] at hmessage
    exact absurd hmessage htexts
  · rw [if_neg hlong, if_pos hlong'] at hmessage
    exact absurd hmessage.symm htexts
  · exact iff_of_false hlong hlong'

/-- The path of a stream that ends with `[DONE]`. -/
def chatPath : Str := lit "chat/completions"

/-- A line that fits is observed. -/
theorem reported_observed {raw : Str} (hraw : (10 : UInt8) ∉ raw) (hfit : raw.length < maxLine) :
    reported {} (notFound (terminated [raw])) Table.empty chatPath =
      some (observeLine true {} (dropCR raw)).report := by
  obtain ⟨hreport, hsplit⟩ := reported_single hraw {} rfl chatPath
  have haccept : isChatCompletionsStream chatPath = true := by decide +kernel
  have hfits : ∀ line ∈ [raw], line.length < maxLine := fun line hline => by
    rw [List.mem_singleton.mp hline]
    exact hfit
  rw [hreport, relayStream, hsplit, haccept, relayLines_passed (fun _ => rfl) hfits]
  have hclosed : ∀ result marker, streamClosed result 404 marker = result := fun result marker =>
    if_neg fun h => absurd h.2.1 (by decide)
  exact congrArg (fun result => some result.report)
    (hclosed (observeLine true {} (dropCR raw)) (expectedStreamCompletionMarker chatPath))

/-- A data line after which there is nothing to report has told nothing. -/
theorem tellsNothing_of_report {value : Str}
    (h : (observeLine true {} (lit "data: " ++ value)).report = {}) : TellsNothing value := by
  obtain ⟨hcompleted, husage⟩ := observeLine_report true {} (lit "data: " ++ value)
  have hfailed := (observeLine_fields true {} (lit "data: " ++ value)).1
  rw [isSome_failureMessage?] at hfailed
  have hnone : (observeLine true {} (lit "data: " ++ value)).failed = false :=
    congrArg Report.failed h
  have hopen : (observeLine true {} (lit "data: " ++ value)).completed = false :=
    congrArg Report.completed h
  have hcounts : (observeLine true {} (lit "data: " ++ value)).usage = {} :=
    congrArg Report.usage h
  have hline : isFailureLine (lit "data: " ++ value) = false := by
    rw [hnone] at hfailed
    exact hfailed.symm
  have hmarker : isCompletion true (lit "data: " ++ value) = false := by
    rw [hopen] at hcompleted
    exact hcompleted.symm
  rw [hcounts, hline] at husage
  rw [isCompletion, payload?_data, Option.any_some, Bool.true_and, Bool.or_eq_false_iff,
    beq_eq_false_iff_ne] at hmarker
  rw [isFailureLine, dataEvent?_eq, payload?_data, Option.bind_some] at hline
  rw [lineUsage, payload?_data, Option.map_some, Option.getD_some] at husage
  refine ⟨hmarker.1, fun event hevent => ?_, ?_⟩
  · rw [hevent, Option.any_some] at hline
    rw [hevent, Option.any_some, beq_eq_false_iff_ne] at hmarker
    exact ⟨hmarker.2, hline⟩
  · by_contra hpositive
    rw [Bool.not_eq_false] at hpositive
    rw [hpositive] at husage
    have hzero : parseUsageFromBody (trimSpace value) = {} := husage.symm
    rw [hzero] at hpositive
    exact absurd hpositive (by decide)

/-- A line that is insensitive on its own is harmless. -/
theorem harmless_of_insensitive {line : EventLine} (h : FramingInsensitive [line]) :
    line.Harmless := by
  obtain ⟨first, hfirst⟩ : ∃ raw, raw ∈ line.raws := by
    cases line with
    | data value whole => exact ⟨lit "data: " ++ value, by simp [EventLine.raws, EventLine.spellings]⟩
    | other text whole plain => exact ⟨text, by simp [EventLine.raws, EventLine.spellings]⟩
  by_cases hlong : maxLine ≤ first.length
  · exact Or.inl fun raw hraw => (tooLong_iff_of_insensitive h hfirst hraw).mp hlong
  have hfits : ∀ raw ∈ line.raws, raw.length < maxLine := fun raw hraw =>
    Nat.not_le.mp fun hraw' => hlong ((tooLong_iff_of_insensitive h hfirst hraw).mpr hraw')
  refine Or.inr ⟨hfits, ?_⟩
  cases line with
  | other text whole plain => trivial
  | data value whole =>
    by_cases hblank : value.head? = some 32
    · exact Or.inl hblank
    have hspaced : lit "data: " ++ value ∈ (EventLine.data value whole).spellings :=
      List.mem_cons_self
    have hbare : lit "data:" ++ value ∈ (EventLine.data value whole).spellings := by
      rw [EventLine.spellings, if_neg hblank]
      exact List.mem_cons_of_mem _ (List.mem_singleton_self _)
    have hraw := mem_raws.mpr ⟨_, hspaced, Or.inl rfl⟩
    have hraw' := mem_raws.mpr ⟨_, hbare, Or.inl rfl⟩
    have hreported := h {} (notFound []) Table.empty chatPath _ _ (encodes_single hraw)
      (encodes_single hraw')
    have hobserved := reported_observed (lineFeed_not_mem_raw hraw) (hfits _ hraw)
    have hobserved' := reported_observed (lineFeed_not_mem_raw hraw') (hfits _ hraw')
    rw [dropCR_raw hspaced (Or.inl rfl)] at hobserved
    rw [dropCR_raw hbare (Or.inl rfl), observeLine_bare hblank] at hobserved'
    exact Or.inr (tellsNothing_of_report
      (Option.some.inj (hobserved.symm.trans (hreported.trans hobserved'))))

/-- Over which lines every stream is reported alike in all its encodings. -/
theorem framing_insensitive_iff (kinds : EventLine → Prop) :
    (∀ lines : List EventLine, (∀ line ∈ lines, kinds line) → FramingInsensitive lines) ↔
      ∀ line, kinds line → line.Harmless := by
  constructor
  · intro h line hline
    exact harmless_of_insensitive (h [line] (by simpa using hline))
  · intro h lines hlines
    exact framingInsensitive_of_harmless fun line hline => h line (hlines line hline)

/-- A stream of one counted chunk and the marker, with blank lines between. -/
def chatStream : List EventLine :=
  [.data (lit "\x7b\"usage\":\x7b\"prompt_tokens\":3\x7d\x7d") (by decide),
    .other [] (by decide) (by decide), .data (lit "[DONE]") (by decide),
    .other [] (by decide) (by decide)]

/-- Its encoding with the blank after the colon. -/
def spacedBody : Str :=
  terminated [lit "data: \x7b\"usage\":\x7b\"prompt_tokens\":3\x7d\x7d", [],
    lit "data: [DONE]", []]

/-- Its encoding without. -/
def bareBody : Str :=
  terminated [lit "data:\x7b\"usage\":\x7b\"prompt_tokens\":3\x7d\x7d", [],
    lit "data:[DONE]", []]

/-- With the blank after the colon the stream is complete and counted, without it
the same stream is a failure without counts. -/
theorem bare_stream_fails :
    ¬ FramingInsensitive chatStream ∧
      reported {} { statusCode := 200, body := spacedBody } Table.empty chatPath =
        some { completed := true, usage := { inputTokens := 3 } } ∧
      reported {} { statusCode := 200, body := bareBody } Table.empty chatPath =
        some { failed := true, errorMessage := lit "stream closed before [DONE]" } := by
  have hspaced : reported {} { statusCode := 200, body := spacedBody } Table.empty chatPath =
      some { completed := true, usage := { inputTokens := 3 } } := by decide +kernel
  have hbare : reported {} { statusCode := 200, body := bareBody } Table.empty chatPath =
      some { failed := true, errorMessage := lit "stream closed before [DONE]" } := by
    decide +kernel
  have hencodes : Encodes chatStream spacedBody :=
    ⟨_, .cons (by decide) (.cons (by decide) (.cons (by decide) (.cons (by decide) .nil))), rfl⟩
  have hencodes' : Encodes chatStream bareBody :=
    ⟨_, .cons (by decide) (.cons (by decide) (.cons (by decide) (.cons (by decide) .nil))), rfl⟩
  refine ⟨fun h => ?_, hspaced, hbare⟩
  have hsame := h {} { statusCode := 200 } Table.empty chatPath _ _ hencodes hencodes'
  exact absurd (hspaced.symm.trans (hsame.trans hbare)) (by decide)

end Lune.Gateway
