import Lune.Gateway.Proxy

/-!
# What the lines of a stream tell

`relayLines` passes the lines of a body on and keeps what they tell.  Here the
two are separated: `passedLines` are the lines the client gets, and what is kept
of them is a fold of `observeLine`.  The results say which of the lines decide
that a stream failed, that the failure counts against the account, and what the
kept message is.
-/

namespace Lune.Gateway

open GoText GoJson Keyed HttpHeader

/-! ## The lines passed on -/

/-- The lines that the client gets whole, when `n` writes have been made, and
how the loop over them ends. -/
def passedLines (down : Downstream) (n : Nat) : List Str → List Str × ScanEnd
  | [] => ([], .eof)
  | raw :: lines =>
    if maxLine ≤ raw.length then ([], .tooLong)
    else match down.writeErr n with
      | some text => ([], .writeFailed text)
      | none =>
        match down.writeErr (n + 1) with
        | some text => ([], .writeFailed text)
        | none =>
          let rest := passedLines down (n + 2) lines
          (dropCR raw :: rest.1, rest.2)

/-- The loop keeps a fold over the lines passed on. -/
theorem relayLines_eq (down : Downstream) (acceptDone : Bool) (result : StreamResult) (n : Nat)
    (out : Str) (lines : List Str) :
    (relayLines down acceptDone result n out lines).1 =
        (passedLines down n lines).1.foldl (observeLine acceptDone) result ∧
      (relayLines down acceptDone result n out lines).2.2 = (passedLines down n lines).2 := by
  induction lines generalizing result n out with
  | nil => exact ⟨rfl, rfl⟩
  | cons raw lines ih =>
    rw [relayLines, passedLines]
    split
    · exact ⟨rfl, rfl⟩
    dsimp only
    cases down.writeErr n with
    | some text => exact ⟨rfl, rfl⟩
    | none =>
      cases down.writeErr (n + 1) with
      | some text => exact ⟨rfl, rfl⟩
      | none => exact ih (observeLine acceptDone result (dropCR raw)) (n + 2) _

/-! ## What a line tells -/

/-- The event of a data line. -/
def dataEvent? (line : Str) : Option (Str × Str) :=
  if hasPrefix line (lit "data: ") then sseEvent (trimSpace (line.drop 6)) else none

/-- The event says that the response failed or is incomplete. -/
def isFailure (event : Str × Str) : Bool :=
  event.1 == lit "response.failed" || event.1 == lit "response.incomplete"

/-- The message of an event that says so. -/
def eventMessage? (event : Str × Str) : Option Str :=
  if isFailure event then some (if event.2 = [] then event.1 else event.2) else none

/-- The message of a line that says so. -/
def failureMessage? (line : Str) : Option Str := (dataEvent? line).bind eventMessage?

/-- The line is the event `response.failed`. -/
def isResponseFailed (line : Str) : Bool :=
  (dataEvent? line).any fun event => event.1 == lit "response.failed"

/-- The message of a line that is no data line. -/
def plainMessage (line : Str) : Str :=
  if hasPrefix line (lit "data: ") then [] else extractUpstreamErrorMessage line

theorem failureMessage?_ne_nil {line msg : Str} (h : failureMessage? line = some msg) :
    msg ≠ [] := by
  obtain ⟨event, -, hmsg⟩ := Option.bind_eq_some_iff.mp h
  unfold eventMessage? at hmsg
  split at hmsg
  next hfailure =>
    obtain rfl := Option.some.inj hmsg
    split
    · intro hnil
      rw [isFailure, hnil] at hfailure
      exact absurd hfailure (by decide)
    · assumption
  · contradiction

/-- The kept message after a line: a failure replaces it, and a plain line gives
the first one. -/
def keepMessage (kept : Str) (line : Str) : Str :=
  match failureMessage? line with
  | some msg => msg
  | none => if kept = [] then plainMessage line else kept

theorem isFailure_of_failed {event : Str × Str} (h : (event.1 == lit "response.failed") = true) :
    isFailure event = true := by
  rw [isFailure, h, Bool.true_or]

/-- What an event does to the three fields. -/
theorem updateStreamResultFromSSEData_fields (result : StreamResult) (data : Str) :
    (updateStreamResultFromSSEData result data).failed =
        (result.failed || (sseEvent data).any isFailure) ∧
      (updateStreamResultFromSSEData result data).healthImpact =
        (result.healthImpact || (sseEvent data).any fun event =>
          event.1 == lit "response.failed") ∧
      (updateStreamResultFromSSEData result data).errorMessage =
        ((sseEvent data).bind eventMessage?).getD result.errorMessage := by
  unfold updateStreamResultFromSSEData
  cases sseEvent data with
  | none => simp
  | some event =>
    obtain ⟨eventType, msg⟩ := event
    dsimp only
    split
    next h =>
      subst h
      have hfailure : isFailure (lit "response.completed", msg) = false := by rfl
      have hfailed : (lit "response.completed" == lit "response.failed") = false := by decide
      simp [eventMessage?, hfailure, hfailed]
    split
    next h =>
      have hfailure : isFailure (eventType, msg) = true := by simpa [isFailure] using h
      simp [eventMessage?, hfailure]
    next h =>
      have hfailure : isFailure (eventType, msg) = false := by simpa [isFailure] using h
      have hfailed : (eventType == lit "response.failed") = false := by
        rw [Bool.eq_false_iff]
        intro hfailed
        exact absurd ((isFailure_of_failed hfailed).symm.trans hfailure) (by decide)
      simp [eventMessage?, hfailure, hfailed]

theorem sseEvent_done : sseEvent (lit "[DONE]") = none := by
  have hnone : (unmarshal true (lit "[DONE]")).isNone = true := by decide +kernel
  rw [sseEvent, Option.isNone_iff_eq_none.mp hnone]

theorem isSome_failureMessage? (line : Str) :
    (failureMessage? line).isSome = (dataEvent? line).any isFailure := by
  unfold failureMessage? eventMessage?
  cases dataEvent? line with
  | none => rfl
  | some event => cases hfailure : isFailure event <;> simp [hfailure]

/-- A line that is no event of a failure. -/
theorem fields_of_dataEvent?_none {line : Str} (h : dataEvent? line = none) :
    (failureMessage? line).isSome = false ∧ isResponseFailed line = false ∧
      failureMessage? line = none := by
  simp [failureMessage?, isResponseFailed, h]

/-- What a line does to the three fields. -/
theorem observeLine_fields (acceptDone : Bool) (result : StreamResult) (line : Str) :
    (observeLine acceptDone result line).failed =
        (result.failed || (failureMessage? line).isSome) ∧
      (observeLine acceptDone result line).healthImpact =
        (result.healthImpact || isResponseFailed line) ∧
      (observeLine acceptDone result line).errorMessage = keepMessage result.errorMessage line := by
  unfold observeLine keepMessage
  split
  next hprefix =>
    have hplain : plainMessage line = [] := if_pos hprefix
    have hkept : (if result.errorMessage = [] then plainMessage line else result.errorMessage) =
        result.errorMessage := by
      rw [hplain]
      split
      next hnil => exact hnil.symm
      · rfl
    have hevent : dataEvent? line = sseEvent (trimSpace (line.drop 6)) := if_pos hprefix
    dsimp only
    split
    next hdone =>
      have hdata : trimSpace (line.drop 6) = lit "[DONE]" := by
        simpa using (Bool.and_eq_true_iff.mp hdone).2
      rw [hdata, sseEvent_done] at hevent
      obtain ⟨hfailed, himpact, hmessage⟩ := fields_of_dataEvent?_none hevent
      rw [hfailed, himpact, hmessage, hkept]
      simp
    next =>
      have hfields := updateStreamResultFromSSEData_fields result (trimSpace (line.drop 6))
      rw [← hevent, ← isSome_failureMessage?] at hfields
      generalize updateStreamResultFromSSEData result (trimSpace (line.drop 6)) = updated at hfields
      obtain ⟨hfailed, himpact, hmessage⟩ := hfields
      have hfinal : ∀ observed : StreamResult, observed.failed = updated.failed →
          observed.healthImpact = updated.healthImpact →
          observed.errorMessage = updated.errorMessage →
          observed.failed = (result.failed || (failureMessage? line).isSome) ∧
            observed.healthImpact = (result.healthImpact || isResponseFailed line) ∧
            observed.errorMessage =
              match failureMessage? line with
              | some msg => msg
              | none =>
                if result.errorMessage = [] then plainMessage line else result.errorMessage := by
        intro observed h₁ h₂ h₃
        refine ⟨h₁.trans hfailed, h₂.trans himpact, ?_⟩
        rw [h₃, hmessage, hkept]
        change ((failureMessage? line).getD _) = _
        cases failureMessage? line <;> rfl
      split
      · exact hfinal _ rfl rfl rfl
      · exact hfinal _ rfl rfl rfl
  next hprefix =>
    have hevent : dataEvent? line = none := if_neg hprefix
    obtain ⟨hfailed, himpact, hmessage⟩ := fields_of_dataEvent?_none hevent
    have hplain : plainMessage line = extractUpstreamErrorMessage line := if_neg hprefix
    rw [hfailed, himpact, hmessage, hplain]
    dsimp only
    by_cases hkept : result.errorMessage = []
    · by_cases hmsg : extractUpstreamErrorMessage line = []
      · simp [hkept, hmsg]
      · simp [hkept, hmsg]
    · simp [hkept]

/-- What lines do to the three fields. -/
theorem foldl_observeLine_fields (acceptDone : Bool) (result : StreamResult) (lines : List Str) :
    (lines.foldl (observeLine acceptDone) result).failed =
        (result.failed || lines.any fun line => (failureMessage? line).isSome) ∧
      (lines.foldl (observeLine acceptDone) result).healthImpact =
        (result.healthImpact || lines.any isResponseFailed) ∧
      (lines.foldl (observeLine acceptDone) result).errorMessage =
        lines.foldl keepMessage result.errorMessage := by
  induction lines generalizing result with
  | nil => simp
  | cons line lines ih =>
    obtain ⟨hfailed, himpact, hmessage⟩ := ih (observeLine acceptDone result line)
    obtain ⟨hfailed', himpact', hmessage'⟩ := observeLine_fields acceptDone result line
    rw [List.foldl_cons, List.foldl_cons, List.any_cons, List.any_cons, hfailed, himpact, hmessage,
      hfailed', himpact', hmessage', Bool.or_assoc, Bool.or_assoc]
    exact ⟨rfl, rfl, rfl⟩

/-! ## The message kept of the lines -/

/-- The message of the last line that says the response failed, or else of the
first plain line that has one. -/
def keptMessage (lines : List Str) : Str :=
  (lines.reverse.findSome? failureMessage?).getD
    (((lines.map plainMessage).find? fun msg => msg ≠ []).getD [])

theorem foldl_keepMessage (kept : Str) (lines : List Str) :
    lines.foldl keepMessage kept =
      (lines.reverse.findSome? failureMessage?).getD
        (if kept = [] then ((lines.map plainMessage).find? fun msg => msg ≠ []).getD []
         else kept) := by
  induction lines generalizing kept with
  | nil => cases kept <;> rfl
  | cons line lines ih =>
    rw [List.foldl_cons, ih, List.reverse_cons, List.findSome?_append]
    cases hlast : lines.reverse.findSome? failureMessage? with
    | some msg => rfl
    | none =>
      rw [Option.getD_none, Option.none_or, keepMessage]
      cases hfailure : failureMessage? line with
      | some msg => simp [hfailure, failureMessage?_ne_nil hfailure]
      | none =>
        rw [List.map_cons, List.find?_cons]
        by_cases hkept : kept = []
        · by_cases hmsg : plainMessage line = []
          · simp [hfailure, hkept, hmsg]
          · simp [hfailure, hkept, hmsg]
        · simp [hfailure, hkept]

/-- What a stream keeps of its lines. -/
theorem foldl_keepMessage_nil (lines : List Str) :
    lines.foldl keepMessage [] = keptMessage lines :=
  foldl_keepMessage [] lines

/-- Lines of which one says that the response failed leave a message. -/
theorem keptMessage_ne_nil {lines : List Str}
    (h : (lines.any fun line => (failureMessage? line).isSome) = true) : keptMessage lines ≠ [] := by
  obtain ⟨line, hline, hsome⟩ := List.any_eq_true.mp h
  unfold keptMessage
  cases hlast : lines.reverse.findSome? failureMessage? with
  | none =>
    rw [List.findSome?_eq_none_iff] at hlast
    rw [hlast line (List.mem_reverse.mpr hline)] at hsome
    exact absurd hsome (by decide)
  | some msg =>
    obtain ⟨line', -, hmsg⟩ := List.exists_of_findSome?_eq_some hlast
    exact failureMessage?_ne_nil hmsg

/-! ## How a stream ends -/

theorem streamReadError_ne_nil (result : StreamResult) (pathSuffix : Str) (err : ReadError) :
    (streamReadError result (expectedStreamCompletionMarker pathSuffix) err).errorMessage ≠ [] := by
  unfold streamReadError
  dsimp only
  split
  · exact List.append_ne_nil_of_left_ne_nil (by decide) _
  · exact truncateStreamError_ne_nil (b := 115) (by decide) _

/-- The text that a stream with no status of success leaves: that of the lines
when all of them were passed on, and else that of what stopped it. -/
def streamMessage (down : Downstream) (resp : UpstreamResponse) (pathSuffix : Str) : Str :=
  let stopped (err : ReadError) : Str :=
    (streamReadError {} (expectedStreamCompletionMarker pathSuffix) err).errorMessage
  if !down.flushes then lit "streaming not supported"
  else match passedLines down 0 (splitLines resp.body) with
    | (_, .writeFailed text) => truncateStreamError (lit "downstream write error: " ++ text) 512
    | (_, .tooLong) => stopped errTooLong
    | (lines, .eof) =>
      match resp.readErr with
      | some err => stopped err
      | none => keptMessage lines

/-- The error message of the lines, which is there when the stream failed. -/
theorem relayStream_message {down : Downstream} {resp : UpstreamResponse} {pathSuffix : Str}
    (hflushes : down.flushes = true)
    (hstatus : ¬ (200 ≤ resp.statusCode ∧ resp.statusCode < 300)) :
    (relayStream down resp pathSuffix).1.errorMessage = streamMessage down resp pathSuffix ∧
      ((relayStream down resp pathSuffix).1.failed = true →
        (relayStream down resp pathSuffix).1.errorMessage ≠ []) := by
  unfold relayStream streamMessage
  rw [hflushes]
  dsimp only
  have hrelay := relayLines_eq down (isChatCompletionsStream pathSuffix) {} 0 []
    (splitLines resp.body)
  obtain ⟨hfailed, -, hmessage⟩ := foldl_observeLine_fields (isChatCompletionsStream pathSuffix)
    {} (passedLines down 0 (splitLines resp.body)).1
  rw [← hrelay.1] at hfailed hmessage
  generalize relayLines down (isChatCompletionsStream pathSuffix) {} 0 []
    (splitLines resp.body) = relayed at hrelay hfailed hmessage
  generalize passedLines down 0 (splitLines resp.body) = passed at hrelay hfailed hmessage
  obtain ⟨result, out, scanEnd⟩ := relayed
  obtain ⟨lines, scanEnd'⟩ := passed
  obtain ⟨-, hend⟩ := hrelay
  dsimp only at hend hfailed hmessage
  subst hend
  cases scanEnd with
  | writeFailed text => exact ⟨rfl, fun _ => truncateStreamError_ne_nil (b := 100) (by decide) _⟩
  | tooLong => exact ⟨rfl, fun _ => streamReadError_ne_nil result pathSuffix errTooLong⟩
  | eof =>
    dsimp only
    cases resp.readErr with
    | some err => exact ⟨rfl, fun _ => streamReadError_ne_nil result pathSuffix err⟩
    | none =>
      have hclosed : streamClosed result resp.statusCode
          (expectedStreamCompletionMarker pathSuffix) = result := by
        unfold streamClosed
        rw [if_neg]
        intro hsuccess
        exact hstatus ⟨hsuccess.1, hsuccess.2.1⟩
      rw [foldl_keepMessage_nil] at hmessage
      dsimp only
      rw [hclosed, hmessage]
      refine ⟨rfl, fun hfail => ?_⟩
      rw [hfailed, Bool.false_or] at hfail
      exact keptMessage_ne_nil hfail

/-- The error message of a stream, which is there when the stream failed. -/
theorem forwardStream_message {down : Downstream} {resp : UpstreamResponse} {header : Header}
    {pathSuffix : Str} {stream : StreamResult} {answer : Response}
    (h : forwardStream down resp header pathSuffix = some (stream, answer))
    (hstatus : ¬ (200 ≤ resp.statusCode ∧ resp.statusCode < 300)) :
    stream.errorMessage = streamMessage down resp pathSuffix ∧
      (stream.failed = true → stream.errorMessage ≠ []) := by
  unfold forwardStream at h
  split at h
  next hflushes =>
    obtain ⟨rfl, -⟩ := Prod.mk.inj (Option.some.inj h)
    unfold streamMessage
    rw [if_pos hflushes]
    exact ⟨rfl, fun _ => by decide⟩
  next hflushes =>
    split at h
    next =>
      obtain rfl := congrArg Prod.fst (Option.some.inj h)
      exact relayStream_message (by simpa using hflushes) hstatus
    · contradiction

/-- A line that is the event `response.failed` says that the response failed. -/
theorem isSome_failureMessage?_of_failed {line : Str} (h : isResponseFailed line = true) :
    (failureMessage? line).isSome = true := by
  unfold isResponseFailed at h
  rw [isSome_failureMessage?]
  cases hevent : dataEvent? line with
  | none =>
    rw [hevent] at h
    exact absurd h (by decide)
  | some event =>
    rw [hevent] at h
    exact isFailure_of_failed h

/-- The event `response.failed` makes the stream a failure that counts against
the account, however the stream ends. -/
theorem relayStream_failed {down : Downstream} {resp : UpstreamResponse} {pathSuffix : Str}
    (h : (passedLines down 0 (splitLines resp.body)).1.any isResponseFailed = true) :
    (relayStream down resp pathSuffix).1.failed = true ∧
      (relayStream down resp pathSuffix).1.healthImpact = true := by
  unfold relayStream
  dsimp only
  have hrelay := relayLines_eq down (isChatCompletionsStream pathSuffix) {} 0 []
    (splitLines resp.body)
  obtain ⟨hfailed, himpact, -⟩ := foldl_observeLine_fields (isChatCompletionsStream pathSuffix)
    {} (passedLines down 0 (splitLines resp.body)).1
  rw [← hrelay.1] at hfailed himpact
  have hsome : (passedLines down 0 (splitLines resp.body)).1.any
      (fun line => (failureMessage? line).isSome) = true := by
    obtain ⟨line, hline, hevent⟩ := List.any_eq_true.mp h
    exact List.any_eq_true.mpr ⟨line, hline, isSome_failureMessage?_of_failed hevent⟩
  rw [hsome, Bool.or_true] at hfailed
  rw [h, Bool.or_true] at himpact
  generalize relayLines down (isChatCompletionsStream pathSuffix) {} 0 []
    (splitLines resp.body) = relayed at hfailed himpact
  obtain ⟨result, out, scanEnd⟩ := relayed
  dsimp only at hfailed himpact
  cases scanEnd with
  | writeFailed text => exact ⟨rfl, himpact⟩
  | tooLong => exact ⟨rfl, himpact⟩
  | eof =>
    dsimp only
    cases resp.readErr with
    | some err => exact ⟨rfl, himpact⟩
    | none =>
      dsimp only
      rw [streamClosed, if_neg]
      · exact ⟨hfailed, himpact⟩
      · simp [hfailed]

end Lune.Gateway
