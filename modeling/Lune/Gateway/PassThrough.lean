import Lune.Gateway.Stream

/-!
# What a stream passes on and reports

A body of whole lines reaches the client line by line, and of what the lines
tell three things are kept besides the failure: whether a completion marker was
seen, and the token counts of the last data line that has some, among those
before the first event of a failure.

The kept counts are positive ones, and the answer needs a status that can be
written: a count below zero is not kept, and a status below 100 ends in a panic
before the first line.
-/

namespace Lune.Gateway

open GoText GoJson Keyed HttpHeader

/-! ## Lines of a body -/

/-- The lines with a line feed after each. -/
def terminated (lines : List Str) : Str := lines.flatMap fun line => line ++ [10]

@[simp] theorem terminated_nil : terminated [] = [] := rfl

@[simp] theorem terminated_cons (line : Str) (lines : List Str) :
    terminated (line :: lines) = line ++ 10 :: terminated lines := by
  simp [terminated]

theorem splitLines_append {line : Str} (hline : (10 : UInt8) ∉ line) (rest : Str) :
    splitLines (line ++ 10 :: rest) = line :: splitLines rest := by
  induction line with
  | nil => rw [List.nil_append, splitLines, if_pos rfl]
  | cons b line ih =>
    rw [List.mem_cons, not_or] at hline
    rw [List.cons_append, splitLines, if_neg (Ne.symm hline.1), ih hline.2]

/-- Lines that end with line feeds are told apart again. -/
theorem splitLines_terminated {lines : List Str} (hlines : ∀ line ∈ lines, (10 : UInt8) ∉ line) :
    splitLines (terminated lines) = lines := by
  induction lines with
  | nil => rfl
  | cons line lines ih =>
    rw [terminated_cons, splitLines_append (hlines line List.mem_cons_self),
      ih fun other hother => hlines other (List.mem_cons_of_mem line hother)]

theorem dropCR_eq_self {line : Str} (h : line.getLast? ≠ some 13) : dropCR line = line := if_neg h

/-- Every line that fits is written, when no write fails. -/
theorem relayLines_passed {down : Downstream} (hwrites : ∀ n, down.writeErr n = none)
    {lines : List Str} (hfits : ∀ line ∈ lines, line.length < maxLine) (acceptDone : Bool)
    (result : StreamResult) (n : Nat) (out : Str) :
    relayLines down acceptDone result n out lines =
      ((lines.map dropCR).foldl (observeLine acceptDone) result,
        out ++ terminated (lines.map dropCR), .eof) := by
  induction lines generalizing result n out with
  | nil => rw [relayLines, List.map_nil, terminated_nil, List.append_nil, List.foldl_nil]
  | cons line lines ih =>
    have hfit := Nat.not_le.mpr (hfits line List.mem_cons_self)
    rw [relayLines, if_neg hfit]
    simp only [hwrites]
    rw [ih fun other hother => hfits other (List.mem_cons_of_mem line hother), List.map_cons,
      List.foldl_cons, terminated_cons, List.append_assoc, List.append_assoc, List.singleton_append]

/-! ## Completion and usage -/

/-- The payload of a data line. -/
def payload? (line : Str) : Option Str :=
  if hasPrefix line (lit "data: ") then some (trimSpace (line.drop 6)) else none

/-- A data line with a completion marker: the event `response.completed`, and
`[DONE]` where it counts. -/
def isCompletion (acceptDone : Bool) (line : Str) : Bool :=
  (payload? line).any fun data =>
    (acceptDone && data == lit "[DONE]") ||
      (sseEvent data).any fun event => event.1 == lit "response.completed"

/-- The event of a line says that the response failed or is incomplete. -/
def isFailureLine (line : Str) : Bool := (dataEvent? line).any isFailure

/-- The token counts in a data line. -/
def lineUsage (line : Str) : Usage := ((payload? line).map parseUsageFromBody).getD {}

/-- One of the counts is positive. -/
def Usage.positive (usage : Usage) : Bool := 0 < usage.inputTokens || 0 < usage.outputTokens

/-- One of the counts is not zero. -/
def Usage.nonZero (usage : Usage) : Bool := usage.inputTokens != 0 || usage.outputTokens != 0

/-- The last counts of the kind among the data lines before the first failure. -/
def lastUsage (kind : Usage → Bool) (lines : List Str) : Option Usage :=
  (((lines.takeWhile fun line => !isFailureLine line).map lineUsage).filter kind).getLast?

theorem dataEvent?_eq (line : Str) : dataEvent? line = (payload? line).bind sseEvent := by
  unfold dataEvent? payload?
  split <;> rfl

/-- What an event does to the two fields. -/
theorem updateStreamResultFromSSEData_report (result : StreamResult) (data : Str) :
    (updateStreamResultFromSSEData result data).completed =
        (result.completed || (sseEvent data).any fun event =>
          event.1 == lit "response.completed") ∧
      (updateStreamResultFromSSEData result data).usage = result.usage := by
  unfold updateStreamResultFromSSEData
  cases sseEvent data with
  | none => simp
  | some event =>
    obtain ⟨eventType, msg⟩ := event
    dsimp only
    split
    next h => simp [h]
    next h => split <;> simp [h]

theorem parseUsageFromBody_done : parseUsageFromBody (lit "[DONE]") = {} := by decide +kernel

theorem sseEvent_done_any (p : Str × Str → Bool) : (sseEvent (lit "[DONE]")).any p = false := by
  rw [sseEvent_done]
  rfl

/-- What a line does to the two fields. -/
theorem observeLine_report (acceptDone : Bool) (result : StreamResult) (line : Str) :
    (observeLine acceptDone result line).completed =
        (result.completed || isCompletion acceptDone line) ∧
      (observeLine acceptDone result line).usage =
        if (!(result.failed || isFailureLine line)) && (lineUsage line).positive then lineUsage line
        else result.usage := by
  have hfailed := (observeLine_fields acceptDone result line).1
  rw [isSome_failureMessage?] at hfailed
  unfold observeLine isCompletion lineUsage isFailureLine payload? at *
  rw [dataEvent?_eq, payload?] at *
  split
  next hfront =>
    simp only [hfront, if_true, Option.any_some, Option.map_some, Option.getD_some,
      Option.bind_some] at hfailed ⊢
    split
    next hdone =>
      obtain ⟨haccept, hdata⟩ := Bool.and_eq_true_iff.mp hdone
      rw [beq_iff_eq] at hdata
      rw [hdata, haccept, parseUsageFromBody_done]
      simp [Usage.positive]
    next hdone =>
      obtain ⟨hcompleted, husage⟩ :=
        updateStreamResultFromSSEData_report result (trimSpace (line.drop 6))
      have hupdated :=
        (updateStreamResultFromSSEData_fields result (trimSpace (line.drop 6))).1
      rw [Bool.eq_false_iff.mpr hdone, Bool.false_or, hupdated]
      unfold Usage.positive
      split
      · exact ⟨hcompleted, rfl⟩
      · exact ⟨hcompleted, husage⟩
  next hprefix =>
    simp only [Option.any_none, Option.map_none, Option.getD_none, Bool.or_false]
    split <;> simp [Usage.positive]

theorem lastUsage_cons (kind : Usage → Bool) (line : Str) (lines : List Str) :
    lastUsage kind (line :: lines) =
      if isFailureLine line then none
      else (lastUsage kind lines).or (if kind (lineUsage line) then some (lineUsage line) else none) := by
  unfold lastUsage
  rw [List.takeWhile_cons]
  cases isFailureLine line with
  | true => rfl
  | false =>
    rw [Bool.not_false, if_pos rfl, List.map_cons, List.filter_cons, if_neg Bool.false_ne_true]
    split
    · rw [List.getLast?_cons]
      cases List.getLast? _ <;> rfl
    · rw [Option.or_none]

/-- What lines do to the two fields.  After a failure no counts are kept. -/
theorem foldl_observeLine_report (acceptDone : Bool) (result : StreamResult) (lines : List Str) :
    (lines.foldl (observeLine acceptDone) result).completed =
        (result.completed || lines.any (isCompletion acceptDone)) ∧
      (lines.foldl (observeLine acceptDone) result).usage =
        if result.failed then result.usage
        else (lastUsage Usage.positive lines).getD result.usage := by
  induction lines generalizing result with
  | nil =>
    refine ⟨(Bool.or_false _).symm, ?_⟩
    split <;> rfl
  | cons line lines ih =>
    obtain ⟨hcompleted, husage⟩ := ih (observeLine acceptDone result line)
    obtain ⟨hcompleted', husage'⟩ := observeLine_report acceptDone result line
    have hfailed := (observeLine_fields acceptDone result line).1
    rw [isSome_failureMessage?] at hfailed
    refine ⟨?_, ?_⟩
    · rw [List.foldl_cons, hcompleted, hcompleted', List.any_cons, Bool.or_assoc]
    · rw [List.foldl_cons, husage, husage', hfailed, lastUsage_cons]
      show (if (result.failed || isFailureLine line) = true then _ else _) = _
      cases result.failed with
      | true => simp
      | false =>
        cases isFailureLine line with
        | true => simp
        | false =>
          cases lastUsage Usage.positive lines with
          | some usage => simp
          | none =>
            cases hcounts : (lineUsage line).positive <;> simp

/-! ## The whole stream -/

/-- A line that reaches the client as it is: it has no line feed, fits the buffer
and does not end in a carriage return. -/
def PassedWhole (line : Str) : Prop :=
  (10 : UInt8) ∉ line ∧ line.length < maxLine ∧ line.getLast? ≠ some 13

/-- What forwarding a body of these lines should come to.  `kind` says which
token counts are kept. -/
def PassesThrough (kind : Usage → Bool) (pathSuffix : Str) (resp : UpstreamResponse)
    (lines : List Str) (outcome : Option (StreamResult × Response)) : Prop :=
  ∃ stream answer, outcome = some (stream, answer) ∧
    answer.statusCode = resp.statusCode ∧ answer.body = terminated lines ∧
    (200 ≤ resp.statusCode ∧ resp.statusCode < 300 → stream.failed = false →
      lines.any (isCompletion (isChatCompletionsStream pathSuffix)) = true ∧
        lines.any isFailureLine = false) ∧
    stream.usage = (lastUsage kind lines).getD {}

/-- The end of a stream that was read to its end leaves the counts, and lets a
`2xx` pass only when it is complete. -/
theorem streamClosed_spec (result : StreamResult) (statusCode : Int) (expectedMarker : Str) :
    (streamClosed result statusCode expectedMarker).usage = result.usage ∧
      (200 ≤ statusCode ∧ statusCode < 300 →
        (streamClosed result statusCode expectedMarker).failed = false →
          result.completed = true ∧ result.failed = false) := by
  unfold streamClosed
  split
  · exact ⟨rfl, fun _ hfailed => Bool.noConfusion hfailed⟩
  next hopen =>
    refine ⟨rfl, fun hstatus hfailed => ⟨?_, hfailed⟩⟩
    by_contra hcompleted
    exact hopen ⟨hstatus.1, hstatus.2, by simpa using hcompleted, by simpa using hfailed⟩

/-- The stream over whole lines, read to a clean end. -/
theorem relayStream_whole {down : Downstream} {resp : UpstreamResponse} {lines : List Str}
    (hwrites : ∀ n, down.writeErr n = none) (hbody : resp.body = terminated lines)
    (hend : resp.readErr = none) (hlines : ∀ line ∈ lines, PassedWhole line) (pathSuffix : Str) :
    relayStream down resp pathSuffix =
      (streamClosed (lines.foldl (observeLine (isChatCompletionsStream pathSuffix)) {})
        resp.statusCode (expectedStreamCompletionMarker pathSuffix), terminated lines) := by
  have hsplit : splitLines resp.body = lines := by
    rw [hbody, splitLines_terminated fun line hline => (hlines line hline).1]
  have hsame : lines.map dropCR = lines :=
    (List.map_congr_left fun line hline => dropCR_eq_self (hlines line hline).2.2).trans
      (List.map_id' lines)
  unfold relayStream
  dsimp only
  rw [hsplit, relayLines_passed hwrites (fun line hline => (hlines line hline).2.1), hsame]
  simp only [hend, List.nil_append]

/-- A stream passes its lines on; when a `2xx` did not fail, a completion marker was
seen and no failure; and the counts are the last positive ones before a failure. -/
theorem stream_passes_through {down : Downstream} {resp : UpstreamResponse} {lines : List Str}
    (hflushes : down.flushes = true) (hwrites : ∀ n, down.writeErr n = none)
    (hstatus : ValidStatus resp.statusCode) (hbody : resp.body = terminated lines)
    (hend : resp.readErr = none) (hlines : ∀ line ∈ lines, PassedWhole line)
    (header : Header) (pathSuffix : Str) :
    PassesThrough Usage.positive pathSuffix resp lines
      (forwardStream down resp header pathSuffix) := by
  have hrelay := relayStream_whole hwrites hbody hend hlines pathSuffix
  have hreport := foldl_observeLine_report (isChatCompletionsStream pathSuffix) {} lines
  have hfields := (foldl_observeLine_fields (isChatCompletionsStream pathSuffix) {} lines).1
  generalize hobserved : lines.foldl (observeLine (isChatCompletionsStream pathSuffix)) {} = observed
    at hrelay hreport hfields
  obtain ⟨husage, hclean⟩ := streamClosed_spec observed resp.statusCode
    (expectedStreamCompletionMarker pathSuffix)
  unfold forwardStream
  rw [hflushes, Bool.not_true, if_neg Bool.false_ne_true, if_pos hstatus, hrelay]
  refine ⟨_, _, rfl, rfl, rfl, fun hsuccess hfailed => ?_, husage.trans hreport.2⟩
  obtain ⟨hcompleted, hnone⟩ := hclean hsuccess hfailed
  refine ⟨hreport.1.symm.trans hcompleted, ?_⟩
  simpa [isSome_failureMessage?, isFailureLine] using hfields.symm.trans hnone

/-- A stream of one counted chunk and the marker. -/
def countedLines : List Str :=
  [lit "data: \x7b\"usage\":\x7b\"prompt_tokens\":3\x7d\x7d", [], lit "data: [DONE]"]

theorem stream_passes_through_counted :
    PassesThrough Usage.positive (lit "chat/completions")
      { statusCode := 200, body := terminated countedLines } countedLines
      (forwardStream {} { statusCode := 200, body := terminated countedLines } Table.empty
        (lit "chat/completions")) :=
  stream_passes_through rfl (fun _ => rfl) (by decide) rfl rfl
    (by unfold PassedWhole; decide +kernel) Table.empty (lit "chat/completions")

/-- A chunk that counts below zero. -/
def negativeLines : List Str :=
  [lit "data: \x7b\"usage\":\x7b\"prompt_tokens\":-1\x7d\x7d", lit "data: [DONE]"]

/-- A status of two digits passes nothing through, and counts below zero are not
kept although they are the last ones that are not zero. -/
theorem two_streams_not_passed :
    (∀ line ∈ countedLines ++ negativeLines, PassedWhole line) ∧
      ¬ PassesThrough Usage.nonZero (lit "chat/completions")
        { statusCode := 99, body := terminated countedLines } countedLines
        (forwardStream {} { statusCode := 99, body := terminated countedLines } Table.empty
          (lit "chat/completions")) ∧
      ¬ PassesThrough Usage.nonZero (lit "chat/completions")
        { statusCode := 200, body := terminated negativeLines } negativeLines
        (forwardStream {} { statusCode := 200, body := terminated negativeLines } Table.empty
          (lit "chat/completions")) := by
  refine ⟨by unfold PassedWhole; decide +kernel, ?_, ?_⟩
  · rintro ⟨stream, answer, hnone, -⟩
    contradiction
  · rintro ⟨stream, answer, hsome, -, -, -, husage⟩
    have hkept : (forwardStream {} { statusCode := 200, body := terminated negativeLines }
        Table.empty (lit "chat/completions")).map (fun o => o.1.usage) = some {} := by decide +kernel
    have hlast : (lastUsage Usage.nonZero negativeLines).getD {} = { inputTokens := -1 } := by
      decide +kernel
    rw [hsome, Option.map_some, husage, hlast] at hkept
    exact absurd hkept (by decide)

end Lune.Gateway
