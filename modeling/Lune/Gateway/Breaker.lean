import Lune.Gateway.Run
import Lune.Gateway.Stream

/-!
# When an account cools down

An ordinary attempt that ends in a passing failure is meant to put its account
into the cooldown: after a transport error that is worth a retry, after `429` or
`5xx`, and after a stream that failed.  The result says which of these attempts
do so.

A strike is the one write that counts a failure.  An attempt cools the account
down exactly when it holds a strike, since nothing else that it writes touches
the columns of the cooldown.
-/

namespace Lune.Gateway

open GoText GoJson Calendar TimeText Keyed HttpHeader Lune.Store Lune.Router Lune.Health

/-! ## Cooling down -/

/-- Whatever the tables are, the events leave the account in the cooldown, with
one failure more and its end five minutes ahead. -/
def CoolsDown (env : Env) (a : Attempt) (events : List Event) : Prop :=
  ∀ (db : Database) (before : ServingState), db.serving? a.route.accountID = some before →
    ∃ after, (runCalls (env.attempts a.number).actions.store db (statements env events)).serving?
        a.route.accountID = some after ∧
      after.servingStatus = lit "cooldown" ∧ after.failureCount = before.failureCount + 1 ∧
      after.cooldownUntil =
        rfc3339Text (fieldsOf ((env.attempts a.number).actions.store.now.seconds + 300))

/-- Events that write no serving column. -/
def Peaceful (env : Env) (events : List Event) : Prop :=
  ∀ call ∈ statements env events, call.writesServing = false

/-- Events without a strike. -/
def Strikeless (env : Env) (events : List Event) : Prop :=
  ∀ call ∈ statements env events, call.countsFailure = false

section Lists

variable {env : Env} {es fs : List Event}

theorem peaceful_of_none (h : statements env es = []) : Peaceful env es := by
  intro call hcall
  rw [h] at hcall
  exact absurd hcall List.not_mem_nil

theorem peaceful_append (hes : Peaceful env es) (hfs : Peaceful env fs) : Peaceful env (es ++ fs) := by
  intro call hcall
  rw [statements_append] at hcall
  exact (List.mem_append.mp hcall).elim (hes call) (hfs call)

theorem strikeless_append (hes : Strikeless env es) (hfs : Strikeless env fs) :
    Strikeless env (es ++ fs) := by
  intro call hcall
  rw [statements_append] at hcall
  exact (List.mem_append.mp hcall).elim (hes call) (hfs call)

theorem Peaceful.strikeless (h : Peaceful env es) : Strikeless env es := by
  intro call hcall
  have hserving := h call hcall
  cases call with
  | markAccountServingFailure => contradiction
  | _ => rfl

theorem statements_act (k : Nat) (action : Action) :
    statements env [.act k action] = action.calls (env.attempts k).actions := by
  unfold statements effects
  rw [List.flatMap_cons, List.flatMap_nil, List.append_nil]
  rfl

/-- An action that is not about serving. -/
theorem peaceful_act {k : Nat} {action : Action} (h : action.aboutServing = false) :
    Peaceful env [.act k action] := by
  intro call hcall
  rw [statements_act] at hcall
  exact (Action.mem_calls hcall).1 h

theorem peaceful_actIf {a : Attempt} {condition : Bool} {action : Action}
    (h : action.aboutServing = false) : Peaceful env (Call.actIf a condition action) := by
  cases condition with
  | false => exact peaceful_of_none rfl
  | true => exact peaceful_act h

end Lists

/-- Events without a strike do not cool an account down: one without failures
still has none. -/
theorem Strikeless.not_coolsDown {env : Env} {a : Attempt} {events : List Event}
    (h : Strikeless env events) : ¬ CoolsDown env a events := by
  intro hcools
  let db : Database :=
    { accounts := Table.empty.set ({ id := a.route.accountID } : AccountRow) }
  have hfind : db.accounts.find? a.route.accountID = some { id := a.route.accountID } := by
    rw [Table.find?_set, if_pos rfl]
  have hserving : db.serving? a.route.accountID =
      some (AccountRow.serving { id := a.route.accountID }) := by
    rw [Database.serving?, hfind]
    rfl
  obtain ⟨after, hafter, -, hcount, -⟩ := hcools db _ hserving
  obtain ⟨s, hs, hzero⟩ := failureFree_runCalls (env.attempts a.number).actions.store h
    ⟨_, hserving, rfl⟩
  obtain rfl := Option.some.inj (hafter.symm.trans hs)
  rw [hzero] at hcount
  have hnone : (0 : Int) ≠ 0 + 1 := by decide
  exact hnone hcount

/-- A strike among peaceful events cools the account down. -/
theorem coolsDown_of_strike {env : Env} {a : Attempt} {before after : List Event} {errMsg : Str}
    (hbefore : Peaceful env before) (hafter : Peaceful env after) :
    CoolsDown env a
      (before ++ [.act a.number (.recordServingFailure a.route.accountID errMsg)] ++ after) := by
  intro db s hs
  rw [statements_append, statements_append, statements_act, runCalls_append, runCalls_append,
    serving?_runCalls _ _ hafter]
  show ∃ s', (Database.markAccountServingFailure _ _ _ _ _).serving? _ = some s' ∧ _
  rw [Database.serving?_markAccountServingFailure, serving?_runCalls _ _ hbefore, hs]
  exact ⟨_, rfl, rfl, rfl, rfl⟩

/-! ## Where the handler strikes -/

namespace Call

variable (c : Call) (a : Attempt) {env : Env}

theorem statements_writeResponse {result : ProxyResult} {answer : List Event}
    (h : writeResponse result = some answer) : statements env answer = [] := by
  unfold writeResponse at h
  split at h
  · obtain rfl := Option.some.inj h
    rfl
  split at h
  · obtain rfl := Option.some.inj h
    rfl
  · contradiction

/-- An answer, a log or a panic behind other events. -/
theorem events_answerAndLog (result : ProxyResult) (errMsg : Str) (before : List Event) :
    ∃ rest, (c.answerAndLog a result errMsg before).events = before ++ rest ∧
      Peaceful env rest := by
  unfold answerAndLog
  split
  · exact ⟨_, rfl, peaceful_of_none rfl⟩
  next answer hanswer =>
    refine ⟨answer ++ [c.logAttempt a result.statusCode false errMsg result.usage], ?_, ?_⟩
    · exact List.append_assoc _ _ _
    · exact peaceful_append (peaceful_of_none (statements_writeResponse hanswer))
        (peaceful_of_none rfl)

theorem peaceful_observeRetryable (result : ProxyResult) (errMsg : Str) :
    Peaceful env (c.observeRetryable a result errMsg) := by
  unfold observeRetryable
  split
  · show Peaceful env ([.act _ _] ++ [.act _ _])
    apply peaceful_append
    · exact peaceful_act rfl
    · apply peaceful_act
      split <;> rfl
  · exact peaceful_actIf rfl

/-- An error of `Forward` holds no strike. -/
theorem strikeless_handleError {result : ProxyResult} {err : ProxyError}
    (himpact : result.healthImpact = false) :
    Strikeless env (c.handleError a result err).events := by
  unfold handleError
  dsimp only
  rw [himpact, Bool.false_and]
  have hobservation : Peaceful env (actIf a (isCpa a && c.req.observes)
      (.recordAccountDiagnosticObservation a.route.account
        ⟨lit "transient_error", lit "transient_error", lit "gateway request failed", 0,
          lit "upstream_request_failed", err.text⟩)) := peaceful_actIf rfl
  split
  · exact (peaceful_append hobservation (peaceful_of_none rfl)).strikeless
  · exact hobservation.strikeless

/-- The message of an answer with a retryable status. -/
def statusMessage (statusCode : Int) (body : Str) : Str :=
  let msg := extractUpstreamErrorMessage body
  if msg ≠ [] then msg else lit "HTTP " ++ itoa statusCode

/-- The failure is put down to the account itself: it is banned, or its
credential was rejected. -/
def accountFailure (statusCode : Int) (body : Str) : Bool :=
  isCpa a &&
    (isCpaAccountBannedSignal statusCode body (statusMessage statusCode body) ||
      isCpaAccountUpstreamAuthFailure statusCode body)

/-- A retryable status that is not put down to the account is a strike. -/
theorem strike_handleRetryableStatus {result : ProxyResult} {errMsg : Str}
    (hmessage : upstreamErrorMessage result (lit "HTTP " ++ itoa result.statusCode) = errMsg)
    (hbanned : (isCpa a && isCpaAccountBannedSignal result.statusCode result.body errMsg) = false)
    (hauth : (isCpa a && isCpaAccountUpstreamAuthFailure result.statusCode result.body) = false)
    (himpact : result.healthImpact = true) (hordinary : c.req.isOrdinary = true) :
    ∃ after, Peaceful env after ∧
      (c.handleRetryableStatus a result).events =
        c.observeRetryable a result errMsg ++
          [.act a.number (.recordServingFailure a.route.accountID errMsg)] ++ after := by
  unfold handleRetryableStatus
  dsimp only
  rw [hmessage, hbanned, hauth, himpact, hordinary, if_neg Bool.false_ne_true,
    if_neg Bool.false_ne_true]
  split
  · obtain ⟨rest, hevents, hrest⟩ := c.events_answerAndLog a result errMsg
      (c.observeRetryable a result errMsg ++
        actIf a (true && true) (.recordServingFailure a.route.accountID errMsg))
    exact ⟨rest, hrest, hevents⟩
  · exact ⟨[], peaceful_of_none rfl, (List.append_nil _).symm⟩

/-- What is recorded about a CPA account over a final answer is no strike. -/
theorem peaceful_recordFailure_cpa (result : ProxyResult) (errMsg : Str)
    (hcpa : isCpa a = true) (hordinary : c.req.isOrdinary = true) :
    Peaceful env (c.recordFailure a result errMsg) := by
  have hobserves := Request.observes_of_isOrdinary hordinary
  unfold recordFailure
  split
  · exact peaceful_actIf rfl
  split
  · show Peaceful env ([.act _ _] ++ [.act _ _])
    exact peaceful_append (peaceful_act rfl) (peaceful_act rfl)
  split
  · exact peaceful_act rfl
  next hnot => exact absurd (Bool.and_eq_true_iff.mpr ⟨hcpa, hobserves⟩) hnot

/-- Of another account without a body, the status tells whether the credential
was rejected, and otherwise the stream decides. -/
theorem recordFailure_direct {result : ProxyResult} {errMsg : Str} {stream : StreamResult}
    (hcpa : isCpa a = false) (hordinary : c.req.isOrdinary = true) (hbody : result.body = [])
    (hstream : result.stream = some stream) (hfailed : stream.failed = true)
    (himpact : stream.healthImpact = true) :
    c.recordFailure a result errMsg =
      if isAuthStatus result.statusCode then
        [.act a.number (.updateHealth a.route.accountID (lit "error")
          (lit "upstream authentication failed"))]
      else [.act a.number (.recordServingFailure a.route.accountID errMsg)] := by
  unfold recordFailure
  rw [hcpa, hordinary, hbody, hstream, isGatewayAuthFailure_nil]
  cases isAuthStatus result.statusCode with
  | true => rfl
  | false =>
    dsimp only
    rw [hfailed, himpact]
    rfl

/-- A failed stream is recorded, and then logged. -/
theorem events_handleFinal_stream {result : ProxyResult} {stream : StreamResult}
    (hwritten : result.written = true) (hstream : result.stream = some stream)
    (hfailed : stream.failed = true) :
    ∃ errMsg usage, (c.handleFinal a result).events =
      c.recordFailure a result errMsg ++
        [c.logAttempt a result.statusCode false errMsg usage] := by
  have hverdict : (verdict result).1 = false := by
    unfold verdict
    rw [hstream, Option.filter_some_pos hfailed]
  unfold handleFinal
  rw [writeResponse_written hwritten]
  generalize verdict result = v at hverdict
  obtain ⟨success, errMsg⟩ := v
  dsimp only at hverdict ⊢
  rw [hverdict]
  exact ⟨errMsg, result.usage, rfl⟩

theorem strikeless_updateHealth (k : Nat) (accountID : Int) (status lastError : Str) :
    Strikeless env [.act k (.updateHealth accountID status lastError)] := by
  intro call hcall
  rw [statements_act] at hcall
  obtain rfl := List.mem_singleton.mp hcall
  rfl

/-! ## The outcomes -/

/-- What is kept of an answer with a retryable status. -/
def retryableBody (resp : UpstreamResponse) : Str :=
  if c.isStream then boundedBody resp else bufferedBody resp

/-- The outcomes of an attempt after which its account is meant to cool down. -/
inductive Trips : Prop where
  | transport {text : Str} {netError : Bool}
    (hanswer : (c.env.attempts a.number).exchange.answer = .failed text netError)
    (hretry : (classifyError text netError).retryable = true)
  | status {resp : UpstreamResponse}
    (hanswer : (c.env.attempts a.number).exchange.answer = .response resp)
    (hretry : isRetryableStatus resp.statusCode = true)
    (haccount : accountFailure a resp.statusCode (c.retryableBody resp) = false)
  | stream {resp : UpstreamResponse}
    (hanswer : (c.env.attempts a.number).exchange.answer = .response resp)
    (hstream : c.isStream = true) (hretry : isRetryableStatus resp.statusCode = false)
    (hvalid : ValidStatus resp.statusCode) (hflushes : c.env.downstream.flushes = true)
    (hfailed : (passedLines c.env.downstream 0 (splitLines resp.body)).1.any isResponseFailed = true)

/-- The result of an attempt that is answered with a retryable status. -/
theorem receive_retryable {resp : UpstreamResponse}
    (hretry : isRetryableStatus resp.statusCode = true) (down : Downstream) (pathSuffix : Str)
    (requestID : Str) (accountID : Int) (request : UpstreamRequest) :
    ∃ result, receive down pathSuffix c.isStream requestID accountID request resp =
        { request := some request, result := some result } ∧
      result.err = none ∧ result.statusCode = resp.statusCode ∧
      result.body = c.retryableBody resp ∧ result.healthImpact = true ∧
      upstreamErrorMessage result (lit "HTTP " ++ itoa result.statusCode) =
        statusMessage resp.statusCode (c.retryableBody resp) := by
  unfold receive retryableBody
  cases c.isStream with
  | false => exact ⟨_, rfl, rfl, rfl, rfl, hretry, rfl⟩
  | true =>
    dsimp only
    rw [hretry]
    refine ⟨_, rfl, rfl, rfl, rfl, rfl, ?_⟩
    unfold upstreamErrorMessage retryableStreamResult statusMessage
    dsimp only
    by_cases hmsg : extractUpstreamErrorMessage (boundedBody resp) = []
    · simp [hmsg]
    · simp [hmsg]

/-- The events of an attempt, before those of its result. -/
theorem events_forwardAndHandle {binding : Option RuntimeBinding} {result : ProxyResult}
    (hresult : (c.forwardTo a.number a.route binding).result = some result) :
    ∃ before, (c.forwardAndHandle a binding).events = before ++ (c.handleResult a result).events ∧
      Peaceful env before := by
  rw [forwardAndHandle_eq, hresult]
  refine ⟨_, Step.events_after _ _, peaceful_of_none ?_⟩
  cases (c.forwardTo a.number a.route binding).answered <;> rfl

section Sent

variable {c a} {binding : Option RuntimeBinding} {data host : Str}
  (hbody : c.body.reader (c.env.attempts a.number).exchange.openErr.isNone = some data)
  (hrequest : (c.env.attempts a.number).exchange.request = .ok host)

include hbody hrequest

/-- A transport error is no strike. -/
theorem not_coolsDown_transport {text : Str} {netError : Bool}
    (hanswer : (c.env.attempts a.number).exchange.answer = .failed text netError) :
    ¬ CoolsDown c.env a (c.forwardAndHandle a binding).events := by
  have hresult : (c.forwardTo a.number a.route binding).result =
      some { err := some (classifyError text netError) } := by
    unfold forwardTo forward
    dsimp only
    rw [hbody, hrequest, hanswer]
  obtain ⟨before, hevents, hbefore⟩ := c.events_forwardAndHandle a hresult
  rw [hevents, c.handleResult_error a rfl]
  exact (strikeless_append hbefore.strikeless (c.strikeless_handleError a rfl)).not_coolsDown

/-- A retryable status that is not put down to the account is a strike. -/
theorem coolsDown_status (hordinary : c.req.isOrdinary = true) {resp : UpstreamResponse}
    (hanswer : (c.env.attempts a.number).exchange.answer = .response resp)
    (hretry : isRetryableStatus resp.statusCode = true)
    (haccount : accountFailure a resp.statusCode (c.retryableBody resp) = false) :
    CoolsDown c.env a (c.forwardAndHandle a binding).events := by
  obtain ⟨request, accountID, hforward⟩ := forwardTo_received hbody hrequest hanswer
  obtain ⟨result, hreceive, herr, hstatus, hkept, himpact, hmessage⟩ :=
    c.receive_retryable hretry c.env.downstream (extractPathSuffix c.req.path) c.env.requestID
      accountID request
  have hresult := congrArg Forwarded.result (hforward.trans hreceive)
  obtain ⟨before, hevents, hbefore⟩ := c.events_forwardAndHandle a hresult
  rw [accountFailure, Bool.and_or_distrib_left, Bool.or_eq_false_iff, ← hstatus, ← hkept]
    at haccount
  rw [← hstatus, ← hkept] at hmessage
  obtain ⟨after, hafter, hstrike⟩ := c.strike_handleRetryableStatus a hmessage
    haccount.1 haccount.2 himpact hordinary
  rw [hevents, c.handleResult_retryable a herr (hstatus ▸ hretry), hstrike, ← List.append_assoc,
    ← List.append_assoc]
  exact coolsDown_of_strike (peaceful_append hbefore (c.peaceful_observeRetryable a _ _)) hafter

/-- A stream that failed is a strike for an account that is no CPA account, when
the status does not say that its credential was rejected. -/
theorem coolsDown_stream (hordinary : c.req.isOrdinary = true) {resp : UpstreamResponse}
    (hanswer : (c.env.attempts a.number).exchange.answer = .response resp)
    (hstream : c.isStream = true) (hretry : isRetryableStatus resp.statusCode = false)
    (hvalid : ValidStatus resp.statusCode) (hflushes : c.env.downstream.flushes = true)
    (hfailed :
      (passedLines c.env.downstream 0 (splitLines resp.body)).1.any isResponseFailed = true) :
    CoolsDown c.env a (c.forwardAndHandle a binding).events ↔
      isCpa a = false ∧ isAuthStatus resp.statusCode = false := by
  obtain ⟨request, accountID, hforward⟩ := forwardTo_received hbody hrequest hanswer
  obtain ⟨hstreamFailed, himpact⟩ := relayStream_failed hfailed
  generalize hrelay : (relayStream c.env.downstream resp (extractPathSuffix c.req.path)).1 = stream
    at hstreamFailed himpact
  obtain ⟨result, hresult, hwritten, herr, hstatus, hkept, hnobody⟩ :
      ∃ result, (c.forwardTo a.number a.route binding).result = some result ∧
        result.written = true ∧ result.err = none ∧ result.statusCode = resp.statusCode ∧
        result.stream = some stream ∧ result.body = [] := by
    rw [hforward, receive, hstream, Bool.not_true, if_neg Bool.false_ne_true, hretry,
      if_neg Bool.false_ne_true, forwardStream, hflushes, Bool.not_true,
      if_neg Bool.false_ne_true, if_pos hvalid]
    exact ⟨_, rfl, rfl, rfl, rfl, congrArg some hrelay, rfl⟩
  obtain ⟨before, hevents, hbefore⟩ := c.events_forwardAndHandle a hresult
  obtain ⟨errMsg, usage, hfinal⟩ := c.events_handleFinal_stream a hwritten hkept hstreamFailed
  rw [hevents, c.handleResult_final a herr (hstatus ▸ hretry), hfinal]
  have hlog : Peaceful c.env [c.logAttempt a result.statusCode false errMsg usage] :=
    peaceful_of_none rfl
  cases hcpa : isCpa a with
  | true =>
    have hrecord : Peaceful c.env (c.recordFailure a result errMsg) :=
      c.peaceful_recordFailure_cpa a result errMsg hcpa hordinary
    have hpeaceful := peaceful_append hbefore (peaceful_append hrecord hlog)
    exact iff_of_false hpeaceful.strikeless.not_coolsDown (fun h => Bool.noConfusion h.1)
  | false =>
    rw [c.recordFailure_direct a hcpa hordinary hnobody hkept hstreamFailed himpact, hstatus]
    cases isAuthStatus resp.statusCode with
    | true =>
      have hstrikeless := strikeless_append hbefore.strikeless
        (strikeless_append (strikeless_updateHealth a.number a.route.accountID (lit "error")
          (lit "upstream authentication failed")) hlog.strikeless)
      rw [hstatus] at hstrikeless
      exact iff_of_false hstrikeless.not_coolsDown (fun h => Bool.noConfusion h.2)
    | false =>
      rw [← List.append_assoc, ← hstatus]
      exact iff_of_true (coolsDown_of_strike hbefore hlog) ⟨rfl, rfl⟩

end Sent

end Call

/-- Of the outcomes after which an account is meant to cool down, an ordinary
attempt heeds the answers with a retryable status, and the failed streams of an
account that is no CPA account when their status is neither `401` nor `403`. -/
theorem cools_down_iff (c : Call) (a : Attempt) (binding : Option RuntimeBinding)
    {data host : Str}
    (hbody : c.body.reader (c.env.attempts a.number).exchange.openErr.isNone = some data)
    (hrequest : (c.env.attempts a.number).exchange.request = .ok host)
    (hordinary : c.req.isOrdinary = true) (htrips : c.Trips a) :
    CoolsDown c.env a (c.forwardAndHandle a binding).events ↔
      ∃ resp, (c.env.attempts a.number).exchange.answer = .response resp ∧
        (isRetryableStatus resp.statusCode = true ∨
          Call.isCpa a = false ∧ isAuthStatus resp.statusCode = false) := by
  have hsame : ∀ {resp resp'}, (c.env.attempts a.number).exchange.answer = .response resp →
      (c.env.attempts a.number).exchange.answer = .response resp' → resp' = resp := by
    intro resp resp' h h'
    exact Answer.response.inj (h'.symm.trans h)
  cases htrips with
  | transport hanswer =>
    refine iff_of_false (Call.not_coolsDown_transport hbody hrequest hanswer) ?_
    intro ⟨resp, hresp, _⟩
    exact Answer.noConfusion (hanswer.symm.trans hresp)
  | status hanswer hretry haccount =>
    exact iff_of_true (Call.coolsDown_status hbody hrequest hordinary hanswer hretry haccount)
      ⟨_, hanswer, Or.inl hretry⟩
  | stream hanswer hstream hretry hvalid hflushes hfailed =>
    rw [Call.coolsDown_stream hbody hrequest hordinary hanswer hstream hretry hvalid hflushes
      hfailed]
    constructor
    · intro h
      exact ⟨_, hanswer, Or.inr h⟩
    · intro ⟨resp, hresp, h⟩
      obtain rfl := hsame hanswer hresp
      rcases h with hretry' | h
      · exact absurd (hretry.symm.trans hretry') Bool.false_ne_true
      · exact h

/-- The status `500` cools an account down. -/
theorem cools_down_after_500 :
    CoolsDown (callFor (healthyAccount 7) (.response { statusCode := 500 })).env
      (attemptFor (healthyAccount 7))
      ((callFor (healthyAccount 7) (.response { statusCode := 500 })).forwardAndHandle
        (attemptFor (healthyAccount 7)) none).events := by
  apply (cools_down_iff _ _ none rfl rfl (by decide +kernel)
    (.status rfl (by decide) (by decide +kernel))).mpr
  exact ⟨_, rfl, Or.inl (by decide)⟩

/-- A refused connection is worth a retry, but does not cool the account down. -/
theorem refused_connection_does_not_cool_down :
    (chatRequest false).isOrdinary = true ∧
      (classifyError (lit "connection refused") false).retryable = true ∧
      forwards (serveHTTP
        (poolEnv [healthyAccount 7] fun _ => .failed (lit "connection refused") false)
        (chatRequest false)) = [(0, 7)] ∧
      ¬ CoolsDown (poolEnv [healthyAccount 7] fun _ => .failed (lit "connection refused") false)
        (attemptFor (healthyAccount 7))
        (serveHTTP (poolEnv [healthyAccount 7] fun _ => .failed (lit "connection refused") false)
          (chatRequest false)) := by
  refine ⟨by decide +kernel, by decide +kernel, by decide +kernel, ?_⟩
  apply Strikeless.not_coolsDown
  unfold Strikeless
  decide +kernel

end Lune.Gateway
