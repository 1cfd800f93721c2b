import Lune.Gateway.Run
import Lune.Store.Redaction

/-!
# The stored route trace

`logRequestWithBindingTrace` marshals the route trace, and `InsertLog` puts the
text through `sanitizeRequestLogError` before it stores it.

`Traced` says what the trace of a run is: one entry for each attempt, with the
account that the attempt was forwarded to.  The sanitiser keeps at most 4096
bytes, and a trace that is longer is cut somewhere in the array, which is then no
JSON any more (`stored_trace_readable`).
-/

namespace Lune.Gateway

open GoText GoJson GoFloat Programs Lune.Store Lune.Router

/-! ## The attempts of a run -/

/-- A trace of the attempts from the first one on: each entry is that of its
attempt, and has the account which the attempt was forwarded to. -/
structure Traced (c : Call) (forwarded : List (Nat × Int)) (made : List RouteTraceEntry) : Prop where
  entries : ∀ k e, made[k]? = some e → ∃ st route, e = c.traceEntry k st route
  forwarded : ∀ f ∈ forwarded, (made[f.1]?).bind RouteTraceEntry.selectedAccountID = some f.2

namespace Traced

variable {c : Call} {forwarded : List (Nat × Int)} {made : List RouteTraceEntry}

theorem nil (c : Call) : Traced c [] [] where
  entries := by simp
  forwarded := by simp

/-- One more attempt. -/
theorem snoc (h : Traced c forwarded made) (st : LoopState) (route : ResolvedRoute)
    {more : List (Nat × Int)} (hmore : ∀ f ∈ more, f = (made.length, route.accountID)) :
    Traced c (forwarded ++ more) (made ++ [c.traceEntry made.length st route]) where
  entries := by
    intro k e he
    rcases Nat.lt_trichotomy k made.length with hlt | rfl | hgt
    · rw [List.getElem?_append_left hlt] at he
      exact h.entries k e he
    · rw [List.getElem?_concat_length] at he
      exact ⟨st, route, (Option.some.inj he).symm⟩
    · rw [List.getElem?_eq_none (by simp; omega)] at he
      contradiction
  forwarded := by
    intro f hf
    rcases List.mem_append.mp hf with hold | hnew
    · have hfound := h.forwarded f hold
      obtain ⟨e, he, -⟩ := Option.bind_eq_some_iff.mp hfound
      have hlt := (List.getElem?_eq_some_iff.mp he).1
      rwa [List.getElem?_append_left hlt]
    · obtain rfl := hmore f hnew
      rw [List.getElem?_concat_length]
      rfl

end Traced

/-- Every record of a step has the trace, and so has the state it goes on with. -/
def Step.Keeps (made : List RouteTraceEntry) : Step → Prop
  | .stop events => ∀ record ∈ records events, record.routeTrace = made
  | .leave events st | .again events st => records events = [] ∧ st.routeTrace = made

namespace Call

variable (c : Call) (a : Attempt)

/-- Only the log of the attempt is a record. -/
theorem keeps_of_log {before after : List Event} (answer : List Response) (hbefore : Quiet before)
    (hafter : Quiet after) (statusCode : Int) (success : Bool) (errMsg : Str) (usage : Usage) :
    (Step.stop (before ++ answer.map Event.respond ++ after ++
      [c.logAttempt a statusCode success errMsg usage])).Keeps a.st.routeTrace := by
  have hanswer : records (answer.map Event.respond) = [] := by
    simp [records, List.filterMap_map, Function.comp_def, Event.record?]
  intro record hrecord
  simp only [records_append, hbefore.records, hafter.records, hanswer, List.nil_append] at hrecord
  obtain rfl : record = _ := List.mem_singleton.mp hrecord
  rfl

theorem keeps_of_panic {before : List Event} (hbefore : Quiet before)
    (made : List RouteTraceEntry) : (Step.stop (before ++ [.panic])).Keeps made := by
  intro record hrecord
  rw [records_append, hbefore.records] at hrecord
  exact absurd hrecord List.not_mem_nil

theorem exists_writeResponse {result : ProxyResult} {answer : List Event}
    (h : writeResponse result = some answer) :
    ∃ responses : List Response, answer = responses.map Event.respond := by
  unfold writeResponse at h
  split at h
  · exact ⟨[], (Option.some.inj h).symm⟩
  split at h
  · exact ⟨[_], (Option.some.inj h).symm⟩
  · contradiction

theorem answerAndLog_keeps (result : ProxyResult) (errMsg : Str) {before : List Event}
    (hbefore : Quiet before) :
    (c.answerAndLog a result errMsg before).Keeps a.st.routeTrace := by
  unfold answerAndLog
  cases hwrite : writeResponse result with
  | none => exact keeps_of_panic hbefore _
  | some answer =>
    obtain ⟨responses, rfl⟩ := exists_writeResponse hwrite
    have hkeeps := c.keeps_of_log a responses hbefore quiet_nil result.statusCode false errMsg
      result.usage
    rwa [List.append_nil] at hkeeps

theorem handleError_keeps (result : ProxyResult) (err : ProxyError) :
    (c.handleError a result err).Keeps a.st.routeTrace := by
  unfold handleError
  dsimp only
  have hacts : ∀ (p q : Bool) (act act' : Action), Quiet (actIf a p act ++ actIf a q act') :=
    fun p q act act' => quiet_append.mpr ⟨quiet_actIf a p act, quiet_actIf a q act'⟩
  split
  · have hkeeps := fun (before : List Event) (hbefore : Quiet before) =>
      c.keeps_of_log a [writeGatewayError 502 (lit "upstream_failed") err.text] hbefore quiet_nil 0
        false err.text {}
    simp only [List.append_nil, List.append_assoc] at hkeeps
    exact hkeeps _ (hacts _ _ _ _)
  · exact ⟨(hacts _ _ _ _).records, rfl⟩

theorem handleRetryableStatus_keeps (result : ProxyResult) :
    (c.handleRetryableStatus a result).Keeps a.st.routeTrace := by
  unfold handleRetryableStatus
  dsimp only
  split
  · exact c.answerAndLog_keeps a result _ (quiet_actIf _ _ _)
  split
  · refine c.answerAndLog_keeps a result _ ?_
    split
    · exact quiet_rejectCredential _ _ _ _
    · exact quiet_nil
  have hacts := fun errMsg action => quiet_append.mpr ⟨c.quiet_observeRetryable a result errMsg,
    quiet_actIf a (result.healthImpact && c.req.isOrdinary) action⟩
  split
  · exact c.answerAndLog_keeps a result _ (hacts _ _)
  · exact ⟨(hacts _ _).records, rfl⟩

theorem handleFinal_keeps (result : ProxyResult) :
    (c.handleFinal a result).Keeps a.st.routeTrace := by
  unfold handleFinal
  generalize verdict result = v
  obtain ⟨success, errMsg⟩ := v
  have hacts : Quiet (if success then c.recordSuccess a result.statusCode
      else c.recordFailure a result errMsg) := by
    split
    · exact c.quiet_recordSuccess a _
    · exact c.quiet_recordFailure a _ _
  cases hwrite : writeResponse result with
  | none => exact keeps_of_panic quiet_nil _
  | some answer =>
    obtain ⟨responses, rfl⟩ := exists_writeResponse hwrite
    exact c.keeps_of_log a responses quiet_nil hacts _ _ _ _

/-- Handling a result keeps the trace of the attempt. -/
theorem handleResult_keeps (result : ProxyResult) :
    (c.handleResult a result).Keeps a.st.routeTrace := by
  unfold handleResult
  split
  · exact c.handleError_keeps a result _
  split
  · exact c.handleRetryableStatus_keeps a result
  · exact c.handleFinal_keeps a result

end Call

theorem Step.Keeps.after {made : List RouteTraceEntry} {step : Step} (h : step.Keeps made)
    {before : List Event} (hbefore : records before = []) : (step.after before).Keeps made := by
  cases step with
  | stop events =>
    intro record hrecord
    rw [records_append, hbefore] at hrecord
    exact h record hrecord
  | leave events st | again events st =>
    refine ⟨?_, h.2⟩
    rw [records_append, hbefore, h.1]
    rfl

namespace Call

variable (c : Call)

theorem forwardAndHandle_keeps (a : Attempt) (binding : Option RuntimeBinding) :
    (c.forwardAndHandle a binding).Keeps a.st.routeTrace := by
  unfold forwardAndHandle
  dsimp only
  have hrecords : ∀ request (answered : Option Response),
      records (.forward a.number a.route.accountID request ::
        (answered.map Event.respond).toList) = [] := by
    intro request answered
    cases answered <;> rfl
  split
  · intro record hrecord
    rw [records_append, hrecords] at hrecord
    exact absurd hrecord List.not_mem_nil
  · exact (c.handleResult_keeps a _).after (hrecords _ _)

/-- An attempt with a route adds its entry. -/
theorem tryRoute_keeps (k : Nat) (last : Bool) (st : LoopState) (route : ResolvedRoute) :
    (c.tryRoute k last st route).Keeps (st.routeTrace ++ [c.traceEntry k st route]) := by
  unfold tryRoute
  dsimp only
  have hquiet := quiet_bind k (c.bind k route).2
  split
  · intro record hrecord
    rw [records_append, hquiet.records] at hrecord
    obtain rfl : record = _ := List.mem_singleton.mp hrecord
    rfl
  · exact (c.forwardAndHandle_keeps _ _).after hquiet.records

/-- An attempt has no route, or it adds its entry. -/
theorem runAttempt_keeps (first : ResolvedRoute) (k : Nat) (last : Bool) (st : LoopState) :
    c.runAttempt first k last st = .stop [.panic] ∨
      (∃ st', c.runAttempt first k last st = .leave [] st' ∧ st'.routeTrace = st.routeTrace) ∨
      ∃ route, c.nextRoute first k st = .ok route ∧
        (c.runAttempt first k last st).Keeps
          (st.routeTrace ++ [c.traceEntry k { st with attemptsUsed := k + 1 } route]) := by
  unfold runAttempt
  dsimp only
  split
  · exact Or.inl rfl
  split
  · exact Or.inr (Or.inl ⟨_, rfl, rfl⟩)
  next route hroute => exact Or.inr (Or.inr ⟨route, hroute, c.tryRoute_keeps k last _ route⟩)

/-- What the attempt forwards goes to the account of its entry. -/
theorem forwards_runAttempt {first route : ResolvedRoute} {k : Nat} {st : LoopState}
    (hroute : c.nextRoute first k st = .ok route) (last : Bool) :
    ∀ f ∈ forwards (c.runAttempt first k last st).events, f = (k, route.accountID) := by
  intro f hf
  have hran := c.runAttempt_ran first k last st
  generalize c.runAttempt first k last st = step at hran hf
  cases hran with
  | backoff | noRoute => exact absurd hf List.not_mem_nil
  | noBinding _ _ _ hforwards =>
    rw [Step.events, hforwards] at hf
    exact absurd hf List.not_mem_nil
  | stopped _ hroute' _ hforwards | again _ hroute' _ hforwards =>
    obtain rfl := Except.ok.inj (hroute.symm.trans hroute')
    rw [Step.events, hforwards] at hf
    exact List.mem_singleton.mp hf

theorem exhausted_traced {st : LoopState} {forwarded : List (Nat × Int)}
    (h : Traced c forwarded st.routeTrace) :
    ∀ record ∈ records (c.exhausted st),
      Traced c (forwarded ++ forwards (c.exhausted st)) record.routeTrace := by
  intro record hrecord
  obtain rfl : record = _ := List.mem_singleton.mp hrecord
  have hnone : forwards (c.exhausted st) = [] := rfl
  rw [hnone, List.append_nil]
  exact h

/-- The loop goes on with a trace of the attempts before it. -/
theorem retryLoop_traced (first : ResolvedRoute) {k : Nat} {st : LoopState}
    (hlength : st.routeTrace.length = k) {forwarded : List (Nat × Int)}
    (h : Traced c forwarded st.routeTrace) (left : Nat) :
    ∀ record ∈ records (c.retryLoop first k st left),
      Traced c (forwarded ++ forwards (c.retryLoop first k st left)) record.routeTrace := by
  induction left generalizing k st forwarded with
  | zero => exact c.exhausted_traced h
  | succ left ih =>
    rw [retryLoop]
    rcases c.runAttempt_keeps first k (left == 0) st with
      hstep | ⟨st', hstep, hst⟩ | ⟨route, hroute, hkeeps⟩
    · rw [hstep]
      intro record hrecord
      exact absurd hrecord List.not_mem_nil
    · rw [hstep]
      exact c.exhausted_traced (hst ▸ h)
    · have hforwards := c.forwards_runAttempt hroute (left == 0)
      rw [← hlength] at hforwards hkeeps
      have hnext := h.snoc { st with attemptsUsed := st.routeTrace.length + 1 } route hforwards
      subst hlength
      generalize c.runAttempt first st.routeTrace.length (left == 0) st = step at hkeeps hnext
      cases step with
      | stop events =>
        intro record hrecord
        rw [hkeeps record hrecord]
        exact hnext
      | leave events st' =>
        obtain ⟨hrecords, hst⟩ := hkeeps
        intro record hrecord
        rw [records_append, hrecords] at hrecord
        rw [forwards_append, ← List.append_assoc]
        exact c.exhausted_traced (hst ▸ hnext) record hrecord
      | again events st' =>
        obtain ⟨hrecords, hst⟩ := hkeeps
        have hlength : st'.routeTrace.length = st.routeTrace.length + 1 := by simp [hst]
        intro record hrecord
        rw [records_append, hrecords] at hrecord
        rw [forwards_append, ← List.append_assoc]
        exact ih hlength (hst ▸ hnext) record hrecord

/-- The trace of a refused route: none, or one entry that is no attempt. -/
theorem refuseRoute_traced (err : RouteError) :
    ∀ record ∈ records (c.refuseRoute err),
      record.routeTrace = [] ∨ record.routeTrace = c.initialRouteTrace := by
  intro record hrecord
  cases err with
  | noRoute | poolDisabled | noHealthyAccount | runtimeBinding =>
    obtain rfl : record = _ := List.mem_singleton.mp hrecord
    exact Or.inr rfl
  | modelNotOnAccount =>
    obtain rfl : record = _ := List.mem_singleton.mp hrecord
    exact Or.inl rfl

/-- A record has the trace of the attempts that the request took; without a route
it has the initial one or none. -/
theorem serve_traced :
    ∀ record ∈ records c.serve,
      Traced c (forwards c.serve) record.routeTrace ∨ record.routeTrace = c.initialRouteTrace := by
  intro record hrecord
  unfold serve at hrecord ⊢
  cases hroute : c.resolve with
  | error err =>
    rw [hroute] at hrecord
    dsimp only at hrecord ⊢
    rcases c.refuseRoute_traced err record hrecord with hnil | hinitial
    · left
      have hnone : forwards (c.refuseRoute err) = [] := by cases err <;> rfl
      rw [hnil, hnone]
      exact .nil c
    · exact Or.inr hinitial
  | ok first =>
    rw [hroute] at hrecord
    dsimp only at hrecord ⊢
    left
    have hlength : ({} : LoopState).routeTrace.length = 0 := rfl
    have h := c.retryLoop_traced first hlength (.nil c) c.maxRetries record hrecord
    rwa [List.nil_append] at h

end Call

/-- The trace of a record: the attempts, the initial trace or none. -/
def TraceOf (env : Env) (r : Request) (made : List RouteTraceEntry) : Prop :=
  made = [] ∨ ∃ c, prepare env r = .ok c ∧
    (Traced c (forwards (serveHTTP env r)) made ∨ made = c.initialRouteTrace)

theorem serveHTTP_traced (env : Env) (r : Request) :
    ∀ record ∈ records (serveHTTP env r), TraceOf env r record.routeTrace := by
  intro record hrecord
  unfold serveHTTP at hrecord
  split at hrecord
  · exact absurd hrecord List.not_mem_nil
  next hmodels =>
    split at hrecord
    next events hprepare =>
      obtain ⟨status, code, message, stream, rfl⟩ := prepare_error hprepare
      obtain rfl : record = _ := List.mem_singleton.mp hrecord
      exact Or.inl rfl
    next c hprepare =>
      refine Or.inr ⟨c, hprepare, ?_⟩
      rw [serveHTTP, if_neg hmodels, hprepare]
      exact c.serve_traced record hrecord

/-! ## The text of a trace -/

/-- `CandidateTrace.MarshalJSON`. -/
def candidateJson (c : CandidateTrace) : Json :=
  .obj ([(lit "account_id", .num (itoa c.accountID)), (lit "position", .num (itoa c.position)),
      (lit "outcome", .str c.outcome)] ++
    if c.reason = [] then [] else [(lit "reason", .str c.reason), (lit "skip_reason", .str c.reason)])

/-- The `candidates` of an entry: `null` when `ExplainCandidates` returned no slice. -/
def candidatesJson (candidates : List CandidateTrace) (noSlice : Bool) : Json :=
  if candidates.isEmpty && noSlice then .null else .arr (candidates.map candidateJson)

/-- The map of an entry, whose keys are marshalled in their order.  The entry of a
refused route has no flags and a `nil` account. -/
def RouteTraceEntry.json (noSlice : Nat → Bool) (e : RouteTraceEntry) : Json :=
  let flag (key : String) (value : Option Bool) : List (Str × Json) :=
    (value.map fun b => (lit key, Json.bool b)).toList
  .obj ([(lit "attempt", .num (itoa e.attempt)),
      (lit "candidates", candidatesJson e.candidates (noSlice e.attempt))] ++
    flag "diagnostic" e.diagnostic ++ flag "force_account" e.forceAccount ++
    [(lit "routing_policy", .str e.routingPolicy),
      (lit "selected_account_id",
        (e.selectedAccountID.map fun id => Json.num (itoa id)).getD .null)] ++
    flag "stateful_probe" e.statefulProbe)

/-- The attempts as a JSON array.  `noSlice` says for which attempts there was no
enabled pool any more. -/
def routeTraceJson (noSlice : Nat → Bool) (made : List RouteTraceEntry) : Json :=
  .arr (made.map (RouteTraceEntry.json noSlice))

/-- `trace` of `logRequestWithBindingTrace`. -/
def routeTraceText (noSlice : Nat → Bool) (made : List RouteTraceEntry) : Str :=
  if made.isEmpty then [] else encode (routeTraceJson noSlice made)

/-- The record as it is handed to `InsertLog`. -/
def RequestLog.stored (l : RequestLog) (latencyMs : Int) (noSlice : Nat → Bool) :
    Store.RequestLog :=
  { requestID := l.requestID
    accessTokenName := l.accessTokenName
    modelRequested := l.modelRequested
    modelActual := l.modelActual
    poolID := l.poolID
    accountID := l.accountID
    statusCode := l.statusCode
    latencyMs := latencyMs
    inputTokens := l.inputTokens
    outputTokens := l.outputTokens
    stream := l.stream
    requestIP := l.requestIP
    success := l.success
    errorMessage := l.errorMessage
    sourceKind := l.sourceKind
    attemptCount := l.attemptCount
    diagnostic := l.diagnostic
    forceAccount := l.forceAccount
    statefulProbe := l.statefulProbe
    trafficKind := l.trafficKind
    runtimeAuthIndex := l.runtimeAuthIndex
    runtimeAuthID := l.runtimeAuthID
    runtimeAccountKey := l.runtimeAccountKey
    runtimeBindingStatus := l.runtimeBindingStatus
    runtimeBindingReason := l.runtimeBindingReason
    routeTrace := routeTraceText noSlice l.routeTrace }

section Fits

theorem fits_num (n : Int) (depth : Nat) : fits (.num (itoa n)) depth := number_itoa n

theorem fitsMembers_append (fs gs : List (Str × Json)) (depth : Nat) :
    fitsMembers (fs ++ gs) depth ↔ fitsMembers fs depth ∧ fitsMembers gs depth := by
  induction fs with
  | nil => simp [fitsMembers]
  | cons f fs ih =>
    obtain ⟨key, x⟩ := f
    rw [List.cons_append, fitsMembers, fitsMembers, ih, and_assoc]

theorem fitsElements_map {α : Type} {f : α → Json} {depth : Nat} (h : ∀ x, fits (f x) depth)
    (xs : List α) : fitsElements (xs.map f) depth := by
  induction xs with
  | nil => trivial
  | cons x xs ih => exact ⟨h x, ih⟩

theorem fits_candidateJson (c : CandidateTrace) (depth : Nat) :
    fits (candidateJson c) (depth + 1) := by
  refine ⟨Nat.succ_pos depth, ?_⟩
  rw [fitsMembers_append]
  refine ⟨⟨fits_num _ _, fits_num _ _, trivial, trivial⟩, ?_⟩
  split
  · trivial
  · exact ⟨trivial, trivial, trivial⟩

theorem fits_candidatesJson (candidates : List CandidateTrace) (noSlice : Bool) (depth : Nat) :
    fits (candidatesJson candidates noSlice) (depth + 2) := by
  unfold candidatesJson
  split
  · trivial
  · exact ⟨Nat.succ_pos _, fitsElements_map (fun c => fits_candidateJson c depth) candidates⟩

theorem fits_entryJson (noSlice : Nat → Bool) (e : RouteTraceEntry) (depth : Nat) :
    fits (e.json noSlice) (depth + 3) := by
  have hflag : ∀ (key : Str) (value : Option Bool),
      fitsMembers (value.map fun b => (key, Json.bool b)).toList (depth + 2) := by
    intro key value
    cases value
    · trivial
    · exact ⟨trivial, trivial⟩
  refine ⟨Nat.succ_pos _, ?_⟩
  simp only [fitsMembers_append]
  refine ⟨⟨⟨⟨?_, hflag _ _⟩, hflag _ _⟩, ?_⟩, hflag _ _⟩
  · exact ⟨fits_num _ _, fits_candidatesJson _ _ _, trivial⟩
  · refine ⟨trivial, ?_, trivial⟩
    cases e.selectedAccountID
    · trivial
    · exact fits_num _ _

theorem fits_routeTraceJson (noSlice : Nat → Bool) (made : List RouteTraceEntry) :
    fits (routeTraceJson noSlice made) maxNestingDepth :=
  ⟨by decide, fitsElements_map (fun e => fits_entryJson noSlice e 9996) made⟩

end Fits

/-! ## The texts of a trace -/

/-- The texts of an entry are words. -/
def RouteTraceEntry.Plain (e : RouteTraceEntry) : Prop :=
  Store.Plain e.routingPolicy ∧ ∀ c ∈ e.candidates, Store.Plain c.outcome ∧ Store.Plain c.reason

instance (e : RouteTraceEntry) : Decidable e.Plain :=
  inferInstanceAs (Decidable (Store.Plain e.routingPolicy ∧
    ∀ c ∈ e.candidates, Store.Plain c.outcome ∧ Store.Plain c.reason))

section Words

theorem wordy_candidateJson {c : CandidateTrace}
    (h : Store.Plain c.outcome ∧ Store.Plain c.reason) : Wordy (candidateJson c) := by
  have hfields : ∀ f ∈ [(lit "account_id", Json.num (itoa c.accountID)),
      (lit "position", .num (itoa c.position)), (lit "outcome", .str c.outcome)],
      Store.Plain f.1 ∧ f.1 ∉ payloadNames ∧ Wordy f.2 := by
    simp only [List.forall_mem_cons, List.not_mem_nil, false_imp_iff, implies_true, and_true]
    exact ⟨⟨by decide, by decide, .num _⟩, ⟨by decide, by decide, .num _⟩,
      ⟨by decide, by decide, .str h.1⟩⟩
  have hreasons : ∀ f ∈ [(lit "reason", Json.str c.reason), (lit "skip_reason", .str c.reason)],
      Store.Plain f.1 ∧ f.1 ∉ payloadNames ∧ Wordy f.2 := by
    simp only [List.forall_mem_cons, List.not_mem_nil, false_imp_iff, implies_true, and_true]
    exact ⟨⟨by decide, by decide, .str h.2⟩, ⟨by decide, by decide, .str h.2⟩⟩
  refine Wordy.obj fun f hf => ?_
  rcases List.mem_append.mp hf with hf | hf
  · exact hfields f hf
  · split at hf
    · exact absurd hf List.not_mem_nil
    · exact hreasons f hf

theorem wordy_entryJson (noSlice : Nat → Bool) {e : RouteTraceEntry} (h : e.Plain) :
    Wordy (e.json noSlice) := by
  have hflag : ∀ (key : Str) (value : Option Bool), Store.Plain key → key ∉ payloadNames →
      ∀ f ∈ (value.map fun b => (key, Json.bool b)).toList,
        Store.Plain f.1 ∧ f.1 ∉ payloadNames ∧ Wordy f.2 := by
    intro key value hkey hname f hf
    cases value with
    | none => exact absurd hf List.not_mem_nil
    | some b =>
      obtain rfl := List.mem_singleton.mp hf
      exact ⟨hkey, hname, .bool b⟩
  have hcandidates : Wordy (candidatesJson e.candidates (noSlice e.attempt)) := by
    unfold candidatesJson
    split
    · exact .null
    · refine .arr fun x hx => ?_
      obtain ⟨c, hc, rfl⟩ := List.mem_map.mp hx
      exact wordy_candidateJson (h.2 c hc)
  have hselected : Wordy ((e.selectedAccountID.map fun id => Json.num (itoa id)).getD .null) := by
    cases e.selectedAccountID with
    | none => exact .null
    | some id => exact .num id
  refine Wordy.obj ?_
  simp only [List.forall_mem_append, List.forall_mem_cons, List.not_mem_nil, false_imp_iff,
    implies_true, and_true]
  exact ⟨⟨⟨⟨⟨⟨by decide, by decide, .num _⟩, ⟨by decide, by decide, hcandidates⟩⟩,
    hflag _ _ (by decide) (by decide)⟩, hflag _ _ (by decide) (by decide)⟩,
    ⟨by decide, by decide, .str h.1⟩, ⟨by decide, by decide, hselected⟩⟩,
    hflag _ _ (by decide) (by decide)⟩

theorem wordy_routeTraceJson (noSlice : Nat → Bool) {made : List RouteTraceEntry}
    (h : ∀ e ∈ made, e.Plain) : Wordy (routeTraceJson noSlice made) := by
  refine .arr fun x hx => ?_
  obtain ⟨e, he, rfl⟩ := List.mem_map.mp hx
  exact wordy_entryJson noSlice (h e he)

end Words

/-! ## The column -/

theorem sanitize_of_unredacted {s : Str} (htrim : trimSpace s = s) (hne : s ≠ [])
    (h : Unredacted s) :
    sanitizeRequestLogError s = truncateUTF8Bytes s maxRequestLogErrorMessageBytes := by
  obtain ⟨hbearer, hkey, hauth, hpayload⟩ := h
  unfold sanitizeRequestLogError
  rw [htrim]
  dsimp only
  rw [if_neg hne, hbearer, hkey, hauth, hpayload]

theorem lastRuneStart_le {maxBytes : Nat} (fuel pos : Nat) {last : Nat} (h : last ≤ maxBytes)
    (s : Str) : lastRuneStart maxBytes fuel pos last s ≤ maxBytes := by
  induction fuel generalizing pos last s with
  | zero => exact h
  | succ fuel ih =>
    cases s with
    | nil => exact h
    | cons b s =>
      rw [lastRuneStart]
      split
      · exact h
      · exact ih _ (by omega) _

/-- A text that is too long is cut. -/
theorem truncateUTF8Bytes_of_lt {b : UInt8} (hb : isGraphic b = true) {s : Str} {maxBytes : Nat}
    (hpos : 0 < maxBytes) (hlt : maxBytes < (b :: s).length) :
    ∃ t q, q ≠ [] ∧ b :: s = b :: t ++ q ∧ truncateUTF8Bytes (b :: s) maxBytes = b :: t := by
  -- what is left is at the front, and is not the whole text
  have hfront : ∀ p : Str, p <+: b :: s → p ≠ [] → p.length ≤ maxBytes →
      ∃ t q, q ≠ [] ∧ b :: s = b :: t ++ q ∧ p = b :: t := by
    rintro p ⟨q, hq⟩ hne hle
    obtain ⟨c, t, rfl⟩ := List.exists_cons_of_ne_nil hne
    obtain ⟨rfl, -⟩ := List.cons.inj hq
    refine ⟨t, q, ?_, hq.symm, rfl⟩
    rintro rfl
    rw [List.append_nil] at hq
    rw [hq] at hle
    omega
  unfold truncateUTF8Bytes
  rw [if_neg (by omega)]
  dsimp only
  split
  · refine hfront _ (List.take_prefix _ _) ?_ (List.length_take_le _ _)
    intro hnil
    have hlength := congrArg List.length hnil
    rw [List.length_take, List.length_nil] at hlength
    omega
  next hlast =>
    have hle := lastRuneStart_le (b :: s).length 0 (Nat.zero_le maxBytes) (b :: s)
    obtain ⟨n, hn⟩ := Nat.exists_eq_succ_of_ne_zero hlast
    rw [hn] at hle ⊢
    rw [List.take_succ_cons]
    have htrim : trimSpace (b :: s.take n) <+: b :: s.take n := by
      have hleft : trimLeftSpace (b :: s.take n) = b :: s.take n :=
        dropUnits_eq_self (p := isGraphic) (by decide) (by simp [hb]) _
      obtain ⟨right, -, hright⟩ := exists_trimRightSpace (b :: s.take n)
      rw [trimSpace, hleft]
      exact ⟨right.flatten, hright.symm⟩
    have htake : b :: s.take n <+: b :: s := by
      rw [← List.take_succ_cons]
      exact List.take_prefix _ _
    refine hfront _ (htrim.trans htake) (trimSpace_ne_nil hb _) (htrim.length_le.trans ?_)
    rw [← List.take_succ_cons]
    exact (List.length_take_le _ _).trans hle

/-- The column is empty or decodes to the attempts. -/
def Readable (noSlice : Nat → Bool) (made : List RouteTraceEntry) (column : Str) : Prop :=
  column = [] ∨ unmarshal false column = some (routeTraceJson noSlice made)

/-- The trace is stored as it is: its texts are UTF-8, no pattern rewrites it and it
has at most 4096 bytes. -/
structure Storable (noSlice : Nat → Bool) (made : List RouteTraceEntry) : Prop where
  utf8 : valid (routeTraceJson noSlice made) = routeTraceJson noSlice made
  unredacted : Unredacted (routeTraceText noSlice made)
  short : (routeTraceText noSlice made).length ≤ maxRequestLogErrorMessageBytes

section Column

variable {noSlice : Nat → Bool} {made : List RouteTraceEntry}

/-- The text of a trace that is not empty. -/
theorem routeTraceText_cons (noSlice : Nat → Bool) (e : RouteTraceEntry)
    (made : List RouteTraceEntry) :
    routeTraceText noSlice (e :: made) = encode (routeTraceJson noSlice (e :: made)) ∧
      ∃ s, routeTraceText noSlice (e :: made) = 91 :: s ∧ s.getLast? = some 93 := by
  refine ⟨rfl, encodeElements ((e :: made).map (RouteTraceEntry.json noSlice)), ?_,
    getLast?_encodeElements _⟩
  show encode (routeTraceJson noSlice (e :: made)) = _
  rw [routeTraceJson, encode]

theorem trimSpace_array {s : Str} (hlast : s.getLast? = some 93) : trimSpace (91 :: s) = 91 :: s := by
  refine trimSpace_eq_self (fun b hb => ?_) fun b hb => ?_
  · obtain rfl := Option.some.inj hb
    rfl
  · rw [List.getLast?_cons, hlast] at hb
    obtain rfl := Option.some.inj hb
    rfl

/-- A trace of up to 4096 bytes is decoded, with its texts as UTF-8. -/
theorem unmarshal_short (e : RouteTraceEntry) (made : List RouteTraceEntry)
    (hunredacted : Unredacted (routeTraceText noSlice (e :: made)))
    (hshort : (routeTraceText noSlice (e :: made)).length ≤ maxRequestLogErrorMessageBytes) :
    unmarshal false (sanitizeRequestLogError (routeTraceText noSlice (e :: made))) =
      some (valid (routeTraceJson noSlice (e :: made))) := by
  obtain ⟨htext, s, hs, hlast⟩ := routeTraceText_cons noSlice e made
  have htrim := trimSpace_array hlast
  rw [← hs] at htrim
  rw [sanitize_of_unredacted htrim (by rw [hs]; exact List.cons_ne_nil _ _) hunredacted,
    truncateUTF8Bytes, if_pos (Or.inr hshort), htext]
  exact unmarshal_encode (fits_routeTraceJson noSlice _)

/-- A longer one is cut, and is not decoded. -/
theorem unmarshal_long (e : RouteTraceEntry) (made : List RouteTraceEntry)
    (hunredacted : Unredacted (routeTraceText noSlice (e :: made)))
    (hlong : maxRequestLogErrorMessageBytes < (routeTraceText noSlice (e :: made)).length) :
    sanitizeRequestLogError (routeTraceText noSlice (e :: made)) ≠ [] ∧
      unmarshal false (sanitizeRequestLogError (routeTraceText noSlice (e :: made))) = none := by
  obtain ⟨htext, s, hs, hlast⟩ := routeTraceText_cons noSlice e made
  have htrim := trimSpace_array hlast
  rw [← hs] at htrim
  rw [sanitize_of_unredacted htrim (by rw [hs]; exact List.cons_ne_nil _ _) hunredacted]
  have hwhole := unmarshal_encode (fits_routeTraceJson noSlice (e :: made))
  rw [← htext, hs] at hwhole
  rw [hs] at hlong ⊢
  obtain ⟨t, q, hq, hsplit, hcut⟩ := truncateUTF8Bytes_of_lt (b := 91) rfl (by decide) hlong
  rw [hcut]
  refine ⟨List.cons_ne_nil _ _, unmarshal_cut (q := q) (v := valid (routeTraceJson noSlice (e :: made))) ?_ ?_⟩
  · exact (congrArg (unmarshal false) hsplit.symm).trans hwhole
  · -- the bracket at the end is no white space
    intro hspace
    have hbracket : (91 :: t ++ q).getLast? = some 93 := by
      rw [← hsplit, List.getLast?_cons, hlast]
      rfl
    rw [List.getLast?_append_of_ne_nil _ hq] at hbracket
    have hmem := List.mem_of_getLast? hbracket
    exact absurd (List.dropWhile_eq_nil_iff.mp hspace 93 hmem) (by decide)

/-- When no pattern rewrites the trace, the column is readable exactly for an empty
trace and for one that is stored as it is. -/
theorem readable_iff (hunredacted : Unredacted (routeTraceText noSlice made)) :
    Readable noSlice made (sanitizeRequestLogError (routeTraceText noSlice made)) ↔
      made = [] ∨ Storable noSlice made := by
  cases made with
  | nil => exact iff_of_true (Or.inl rfl) (Or.inl rfl)
  | cons e made =>
    rw [or_iff_right (List.cons_ne_nil e made)]
    rcases Nat.lt_or_ge maxRequestLogErrorMessageBytes
      (routeTraceText noSlice (e :: made)).length with hlong | hshort
    · obtain ⟨hne, hnone⟩ := unmarshal_long e made hunredacted hlong
      refine iff_of_false ?_ fun h => absurd h.short (by omega)
      rintro (hnil | hsome)
      · exact hne hnil
      · rw [hnone] at hsome
        contradiction
    · have hvalue := unmarshal_short e made hunredacted hshort
      constructor
      · rintro (hnil | hsome)
        · rw [hnil] at hvalue
          contradiction
        · rw [hvalue] at hsome
          exact ⟨Option.some.inj hsome, hunredacted, hshort⟩
      · intro h
        exact Or.inr (hvalue.trans (congrArg some h.utf8))

/-- When no pattern rewrites the trace and its texts are words, only its length
matters. -/
theorem readable_iff_of_plain (h : ∀ e ∈ made, e.Plain) :
    Readable noSlice made (sanitizeRequestLogError (routeTraceText noSlice made)) ↔
      made = [] ∨ (routeTraceText noSlice made).length ≤ maxRequestLogErrorMessageBytes := by
  have hwordy := wordy_routeTraceJson noSlice h
  cases made with
  | nil => exact iff_of_true (Or.inl rfl) (Or.inl rfl)
  | cons e made =>
    have hunredacted : Unredacted (routeTraceText noSlice (e :: made)) := hwordy.settled.unredacted
    rw [readable_iff hunredacted]
    exact or_congr_right ⟨Storable.short, fun hshort => ⟨hwordy.utf8, hunredacted, hshort⟩⟩

end Column

/-- When a column that is written for the attempts is readable. -/
structure ReadableWhen (noSlice : Nat → Bool) (made : List RouteTraceEntry) (column : Str) :
    Prop where
  enough : made = [] ∨ Storable noSlice made → Readable noSlice made column
  needed : Unredacted (routeTraceText noSlice made) → Readable noSlice made column →
    made = [] ∨ Storable noSlice made
  words : (∀ e ∈ made, e.Plain) → (Readable noSlice made column ↔
    made = [] ∨ (routeTraceText noSlice made).length ≤ maxRequestLogErrorMessageBytes)

theorem readableWhen_sanitized (noSlice : Nat → Bool) (made : List RouteTraceEntry) :
    ReadableWhen noSlice made (sanitizeRequestLogError (routeTraceText noSlice made)) where
  enough := by
    rintro (rfl | hstorable)
    · exact Or.inl rfl
    · exact (readable_iff hstorable.unredacted).mpr (Or.inr hstorable)
  needed := fun hunredacted => (readable_iff hunredacted).mp
  words := readable_iff_of_plain

/-- The trace of the row that a statement inserts. -/
def TraceIs (column : Str) (w : LogCall) : Prop :=
  ∀ row, w = .insertRequestLog row → row.routeTrace = column

section InsertLog

variable {l : Store.RequestLog} {sourceKind : Str}

theorem safe_insertLogRow :
    (insertLogRow l sourceKind).Safe (fun _ _ => True)
      (TraceIs (sanitizeRequestLogError l.routeTrace)) fun _ => True := by
  refine fun _ _ _ => ⟨fun row hrow => ?_, trivial⟩
  cases hrow
  rfl

theorem safe_insertFailedLog :
    (insertFailedLog l sourceKind).Safe (fun _ _ => True)
      (TraceIs (sanitizeRequestLogError l.routeTrace)) fun _ => True := by
  unfold insertFailedLog
  split
  · have hselected : ∀ recent, (do
        let updated ← foldSelected l recent
        if updated then return () else insertLogRow l sourceKind : LogProg Unit).Safe
          (fun _ _ => True) (TraceIs (sanitizeRequestLogError l.routeTrace))
          fun _ => True := by
      intro recent
      cases recent with
      | none => exact safe_insertLogRow
      | some id => exact ⟨fun row hrow => (nomatch hrow), trivial⟩
    exact fun _ _ _ _ _ _ => hselected _
  · exact safe_insertLogRow

/-- Every row that `InsertLog` inserts has the sanitised trace of its record. -/
theorem safe_insertLog (t : TextFuncs) (l : Store.RequestLog) :
    (insertLog t l).Safe (fun _ _ => True)
      (TraceIs (sanitizeRequestLogError l.routeTrace)) fun _ => True := by
  unfold insertLog insertCompleteLog
  split
  · intro now _ _
    have hseen : ((l.complete t l.storedSourceKind).seen now).routeTrace = l.routeTrace := rfl
    show Prog.Safe _ _ _ (insertFailedLog ((l.complete t l.storedSourceKind).seen now) _)
    rw [← hseen]
    exact safe_insertFailedLog
  · exact safe_insertLogRow (l := l.complete t l.storedSourceKind)

/-- The row of a request that succeeded is inserted. -/
theorem of_safe_insertLog {t : TextFuncs} {P : Str → Prop} (hsuccess : l.success = true)
    (h : (insertLog t l).Safe (fun _ _ => True)
      (fun w => ∀ row, w = .insertRequestLog row → P row.routeTrace) fun _ => True) :
    P (sanitizeRequestLogError l.routeTrace) := by
  have herror : (l.complete t l.storedSourceKind).hasError = false := by
    show (!l.success && _) = false
    rw [hsuccess]
    rfl
  unfold insertLog insertCompleteLog at h
  rw [herror, if_neg Bool.false_ne_true] at h
  exact (h default default trivial).1 _ rfl

end InsertLog

/-- A record has the attempts of its request, or the initial trace when there were
none, and what is stored of it is readable when it is empty or storable.  When no
pattern rewrites it, it is readable only then. -/
theorem stored_trace_readable (env : Env) (r : Request) (t : TextFuncs) (latencyMs : Int)
    (noSlice : Nat → Bool) :
    ∀ record ∈ records (serveHTTP env r), TraceOf env r record.routeTrace ∧
      (insertLog t (record.stored latencyMs noSlice)).Safe (fun _ _ => True)
        (fun w => ∀ row, w = .insertRequestLog row →
          ReadableWhen noSlice record.routeTrace row.routeTrace) fun _ => True := by
  intro record hrecord
  refine ⟨serveHTTP_traced env r record hrecord, ?_⟩
  refine (safe_insertLog t (record.stored latencyMs noSlice)).mono (fun _ _ h => h) ?_ fun _ h => h
  intro w hw row hrow
  rw [hw row hrow]
  exact readableWhen_sanitized noSlice record.routeTrace

/-- The pool of `n` accounts, the first of which answers. -/
def largePool (n : Nat) : Env :=
  poolEnv ((List.range n).map fun k => healthyAccount (k + 1)) fun _ => .response okResponse

/-- Two accounts leave a readable trace. -/
theorem stored_trace_readable_small :
    ∃ record ∈ records (serveHTTP (largePool 2) (chatRequest false)), record.routeTrace ≠ [] ∧
      (insertLog ⟨toLower, id⟩ (record.stored 5 fun _ => false)).Safe (fun _ _ => True)
        (fun w => ∀ row, w = .insertRequestLog row →
          Readable (fun _ => false) record.routeTrace row.routeTrace) fun _ => True := by
  obtain ⟨record, hrecord, hne, hwords, hshort⟩ :
      ∃ record ∈ records (serveHTTP (largePool 2) (chatRequest false)), record.routeTrace ≠ [] ∧
        (∀ e ∈ record.routeTrace, e.Plain) ∧
        (routeTraceText (fun _ => false) record.routeTrace).length ≤
          maxRequestLogErrorMessageBytes := by
    decide +kernel
  refine ⟨record, hrecord, hne, ?_⟩
  obtain ⟨-, hsafe⟩ :=
    stored_trace_readable (largePool 2) (chatRequest false) ⟨toLower, id⟩ 5 (fun _ => false)
      record hrecord
  refine hsafe.mono (fun _ _ h => h) ?_ fun _ h => h
  intro w hw row hrow
  exact ((hw row hrow).words hwords).mpr (Or.inr hshort)

/-- With forty accounts the text of one attempt has more than 4096 bytes, and what
is stored of it is no JSON. -/
theorem large_pool_trace_unreadable :
    ∃ record ∈ records (serveHTTP (largePool 40) (chatRequest false)),
      ¬ (insertLog ⟨toLower, id⟩ (record.stored 5 fun _ => false)).Safe (fun _ _ => True)
        (fun w => ∀ row, w = .insertRequestLog row →
          Readable (fun _ => false) record.routeTrace row.routeTrace) fun _ => True := by
  obtain ⟨record, hrecord, hsuccess, hne, hwords, hlong⟩ :
      ∃ record ∈ records (serveHTTP (largePool 40) (chatRequest false)), record.success = true ∧
        record.routeTrace ≠ [] ∧ (∀ e ∈ record.routeTrace, e.Plain) ∧
        maxRequestLogErrorMessageBytes <
          (routeTraceText (fun _ => false) record.routeTrace).length := by
    decide +kernel
  refine ⟨record, hrecord, fun hsafe => ?_⟩
  have hshort := (readable_iff_of_plain hwords).mp
    (of_safe_insertLog (l := record.stored 5 fun _ => false) hsuccess hsafe)
  rcases hshort with hnil | hshort
  · exact hne hnil
  · omega

end Lune.Gateway
