import Lune.Gateway.Run
import Lune.Gateway.Stream

/-!
# How a failure is classified with and without a stream

The transitions that an account makes over a final answer of the kind 4xx.  An
answer that is kept is classified by its body.  An answer that is streamed has no
body left, and only the message of its lines to go by.  The result says exactly
when both lead to the same transitions.
-/

namespace Lune.Gateway

open GoText GoJson Keyed HttpHeader Lune.Store Lune.Router Lune.Health

/-! ## Transitions -/

/-- What a failure can make of an account: banned, in need of a login with its
credential invalid, or in the status `error`. -/
inductive Transition where
  | banned (accountID : Int)
  | needsLogin (accountID : Int)
  | authInvalid (accountID : Int)
  | statusError (accountID : Int)
deriving DecidableEq

/-- The transition of an action. -/
def Action.transition? : Action → Option Transition
  | recordAccountDiagnosticObservation account obs =>
    if obs.stableStatus = lit "banned" then some (.banned account.id)
    else if obs.stableStatus = lit "auth_invalid" then some (.authInvalid account.id)
    else none
  | updateCpaCredential accountID status _ _ =>
    if status = lit "needs_login" then some (.needsLogin accountID) else none
  | updateHealth accountID status _ =>
    if status = lit "error" then some (.statusError accountID) else none
  | _ => none

/-- The transition of an event. -/
def Event.transition? : Event → Option Transition
  | act _ action => action.transition?
  | _ => none

/-- The transitions of a run. -/
def transitions (events : List Event) : List Transition := events.filterMap Event.transition?

@[simp] theorem transition?_act (k : Nat) (action : Action) :
    (Event.act k action).transition? = action.transition? := rfl

theorem transition?_observation (account : Account) (obs : Observation) :
    (Action.recordAccountDiagnosticObservation account obs).transition? =
      if obs.stableStatus = lit "banned" then some (.banned account.id)
      else if obs.stableStatus = lit "auth_invalid" then some (.authInvalid account.id)
      else none := rfl

@[simp] theorem transitions_nil : transitions [] = [] := rfl

@[simp] theorem transitions_append (es fs : List Event) :
    transitions (es ++ fs) = transitions es ++ transitions fs :=
  List.filterMap_append

namespace Call

variable (c : Call) (a : Attempt)

theorem transitions_actIf (condition : Bool) (action : Action) :
    transitions (actIf a condition action) =
      if condition then action.transition?.toList else [] := by
  cases condition with
  | false => rfl
  | true =>
    unfold actIf transitions
    rw [if_pos rfl, if_pos rfl, List.filterMap_cons, List.filterMap_nil, transition?_act]
    cases action.transition? <;> rfl

@[simp] theorem transition?_bannedObservation (statusCode : Int) (errMsg : Str) :
    (bannedObservation a statusCode errMsg).transition? = some (.banned a.route.account.id) := rfl

@[simp] theorem transition?_transientObservation (summary : Str) (statusCode : Int)
    (code errMsg : Str) : (transientObservation a summary statusCode code errMsg).transition? = none := by
  have hbanned : ¬ lit "unknown" = lit "banned" := by decide
  have hinvalid : ¬ lit "unknown" = lit "auth_invalid" := by decide
  rw [transientObservation, transition?_observation, if_neg hbanned, if_neg hinvalid]

@[simp] theorem transition?_recordServingFailure (accountID : Int) (lastError : Str) :
    (Action.recordServingFailure accountID lastError).transition? = none := rfl

theorem transitions_rejectCredential (statusCode : Int) (body errMsg : Str) :
    transitions (rejectCredential a statusCode body errMsg) =
      [.needsLogin a.route.accountID, .authInvalid a.route.account.id] := by
  have hneeds : (Action.updateCpaCredential a.route.accountID (lit "needs_login")
      (gatewayCredentialReason body) (lit "HTTP " ++ itoa statusCode)).transition? =
      some (.needsLogin a.route.accountID) := rfl
  have hbanned : ¬ lit "auth_invalid" = lit "banned" := by decide
  have hinvalid : (Action.recordAccountDiagnosticObservation a.route.account
      ⟨lit "auth_invalid", lit "auth_invalid_signal", lit "account authentication failed",
        statusCode, lit "auth_invalid", errMsg⟩).transition? =
      some (.authInvalid a.route.account.id) := by
    rw [transition?_observation, if_neg hbanned, if_pos rfl]
  unfold rejectCredential transitions
  rw [List.filterMap_cons_some (b := .needsLogin a.route.accountID) hneeds,
    List.filterMap_cons_some (b := .authInvalid a.route.account.id) hinvalid, List.filterMap_nil]

/-- The transitions of a CPA account that the request observes. -/
def cpaTransitions (statusCode : Int) (body errMsg : Str) : List Transition :=
  if isCpaAccountBannedSignal statusCode body errMsg then [.banned a.route.account.id]
  else if isCpaAccountUpstreamAuthFailure statusCode body then
    [.needsLogin a.route.accountID, .authInvalid a.route.account.id]
  else []

/-- The transitions of an account of another kind. -/
def directTransitions (statusCode : Int) (body : Str) : List Transition :=
  if isGatewayAuthFailure statusCode body then [.statusError a.route.accountID] else []

theorem transitions_recordFailure (result : ProxyResult) (errMsg : Str) :
    transitions (c.recordFailure a result errMsg) =
      if isCpa a then
        if c.req.observes then cpaTransitions a result.statusCode result.body errMsg else []
      else if c.req.isOrdinary then directTransitions a result.statusCode result.body else [] := by
  have hstream : ∀ stream : StreamResult, transitions (if stream.failed then
      actIf a (c.req.isOrdinary && stream.healthImpact)
        (.recordServingFailure a.route.accountID errMsg) ++
      actIf a (isCpa a && c.req.observes)
        (transientObservation a (lit "stream failed") result.statusCode (lit "stream_failed")
          errMsg)
      else []) = [] := by
    intro stream
    split
    · rw [transitions_append, transitions_actIf, transitions_actIf]
      simp
    · rfl
  unfold recordFailure cpaTransitions directTransitions
  cases hcpa : isCpa a with
  | true =>
    simp only [Bool.true_and, Bool.not_true, Bool.false_and, Bool.false_eq_true, if_false, if_true]
    simp only [hcpa, Bool.true_and] at hstream
    split
    · rw [transitions_actIf]
      rfl
    split
    · cases c.req.observes with
      | true => exact transitions_rejectCredential a _ _ _
      | false => rfl
    split
    next hobserves =>
      show [Event.act a.number (transientObservation a (lit "upstream request failed")
        result.statusCode (lit "upstream_request_failed") errMsg)].filterMap Event.transition? = []
      exact List.filterMap_cons_none (transition?_transientObservation a
        (lit "upstream request failed") result.statusCode (lit "upstream_request_failed") errMsg)
    · split
      · exact hstream _
      · rfl
  | false =>
    simp only [Bool.false_and, Bool.not_false, Bool.true_and, Bool.false_eq_true, if_false]
    simp only [hcpa, Bool.false_and] at hstream
    split
    · rw [transitions_actIf]
      rfl
    · rw [ite_self]
      split
      · exact hstream _
      · rfl

/-- The transitions of an account over a final answer of the given kind. -/
def finalTransitions (statusCode : Int) (body errMsg : Str) : List Transition :=
  if isCpa a then
    if c.req.observes then cpaTransitions a statusCode body errMsg else []
  else if c.req.isOrdinary then directTransitions a statusCode body else []

theorem verdict_rejected {result : ProxyResult} (hstatus : 400 ≤ result.statusCode) :
    (verdict result).1 = false := by
  unfold verdict
  dsimp only
  split
  · rfl
  · rw [Bool.and_eq_false_iff]
    exact Or.inr (decide_eq_false (by omega))

/-- The message of an answer that was kept is that of its body. -/
theorem verdict_buffered {resp : UpstreamResponse} (hstatus : 400 ≤ resp.statusCode)
    {header : Header} : (verdict (bufferedResult resp header)).2 =
      extractUpstreamErrorMessage (bufferedBody resp) := by
  have hfailure : (verdict (bufferedResult resp header)).1 = false := verdict_rejected hstatus
  unfold verdict at hfailure ⊢
  dsimp only [bufferedResult, Option.filter_none] at hfailure ⊢
  rw [hfailure, if_neg Bool.false_ne_true]
  unfold upstreamErrorMessage
  dsimp only [Option.map_none, Option.getD_none]
  rw [if_neg (not_not.mpr rfl)]
  split
  · rfl
  next hnil => exact (not_not.mp hnil).symm

/-- The message of an answer that was streamed is that of the stream. -/
theorem verdict_streamed {statusCode : Int} (hstatus : 400 ≤ statusCode) {stream : StreamResult}
    (hfailed : stream.failed = true → stream.errorMessage ≠ []) :
    (verdict
      { statusCode := statusCode
        usage := stream.usage
        stream := some stream
        written := true }).2 = stream.errorMessage := by
  have hempty : extractUpstreamErrorMessage [] = [] := by decide +kernel
  have hfailure : (200 ≤ statusCode && statusCode < 400) = false := by
    rw [Bool.and_eq_false_iff]
    exact Or.inr (decide_eq_false (by omega))
  unfold verdict
  dsimp only
  cases hfail : stream.failed with
  | true =>
    rw [Option.filter_some_pos hfail]
    dsimp only
    rw [if_pos (hfailed hfail)]
  | false =>
    rw [Option.filter_some_neg hfail]
    dsimp only
    rw [hfailure, if_neg Bool.false_ne_true]
    unfold upstreamErrorMessage
    dsimp only [Option.map_some, Option.getD_some]
    split
    · rfl
    next hnil =>
      rw [hempty, if_neg (not_not.mpr rfl)]
      exact (not_not.mp hnil).symm

/-- The transitions of a final answer with an error status. -/
theorem transitions_handleFinal {result : ProxyResult}
    (hstatus : 400 ≤ result.statusCode ∧ result.statusCode ≤ 499) :
    transitions (c.handleFinal a result).events =
      c.finalTransitions a result.statusCode result.body (verdict result).2 := by
  have hwrite : ∃ answer, writeResponse result = some answer ∧ transitions answer = [] := by
    cases hwritten : result.written with
    | true => exact ⟨[], writeResponse_written hwritten, rfl⟩
    | false =>
      rcases writeResponse_unwritten hwritten with ⟨-, response, hwrite⟩ | ⟨hinvalid, -⟩
      · exact ⟨_, hwrite, rfl⟩
      · exact absurd ⟨by omega, by omega⟩ hinvalid
  obtain ⟨answer, hwrite, hanswer⟩ := hwrite
  unfold handleFinal
  rw [hwrite]
  have hfailure := verdict_rejected hstatus.1
  generalize verdict result = v at hfailure
  obtain ⟨success, errMsg⟩ := v
  dsimp only at hfailure ⊢
  rw [hfailure, if_neg Bool.false_ne_true]
  show transitions (answer ++ _ ++ _) = _
  rw [transitions_append, transitions_append, hanswer, c.transitions_recordFailure]
  exact List.append_nil _

/-- The message of an answer that was kept, when the body decides. -/
theorem cpaTransitions_kept (statusCode : Int) (body : Str) :
    cpaTransitions a statusCode body (extractUpstreamErrorMessage body) =
      cpaTransitions a statusCode body [] := by
  have hfirst : firstNonEmptyString
      [extractUpstreamErrorMessage body, body, extractUpstreamErrorMessage body] =
      firstNonEmptyString [extractUpstreamErrorMessage body, body, []] := by
    have hblank : isBlank [] = true := by decide
    cases hmsg : isBlank (extractUpstreamErrorMessage body) <;> cases hbody : isBlank body <;>
      simp [firstNonEmptyString, hmsg, hbody, hblank]
  unfold cpaTransitions isCpaAccountBannedSignal
  rw [hfirst]

end Call

/-! ## The two transports -/

namespace Call

variable {c : Call} {a : Attempt}

theorem transitions_forwardAndHandle {binding : Option RuntimeBinding} {result : ProxyResult}
    (hresult : (c.forwardTo a.number a.route binding).result = some result) :
    transitions (c.forwardAndHandle a binding).events =
      transitions (c.handleResult a result).events := by
  have hanswered : ∀ answered : Option Response,
      transitions (answered.map Event.respond).toList = [] := by
    intro answered
    cases answered <;> rfl
  rw [forwardAndHandle_eq, hresult]
  dsimp only
  rw [Step.events_after, transitions_append]
  show [] ++ transitions _ ++ _ = _
  rw [hanswered]
  rfl

theorem not_retryable {statusCode : Int} (hstatus : 400 ≤ statusCode ∧ statusCode ≤ 499)
    (hlimit : statusCode ≠ 429) : isRetryableStatus statusCode = false := by
  unfold isRetryableStatus
  rw [Bool.or_eq_false_iff, beq_eq_false_iff_ne]
  exact ⟨decide_eq_false (by omega), hlimit⟩

section Answered

variable {binding : Option RuntimeBinding} {data host : Str} {resp : UpstreamResponse}
  (hbody : c.body.reader (c.env.attempts a.number).exchange.openErr.isNone = some data)
  (hrequest : (c.env.attempts a.number).exchange.request = .ok host)
  (hanswer : (c.env.attempts a.number).exchange.answer = .response resp)
  (hstatus : 400 ≤ resp.statusCode ∧ resp.statusCode ≤ 499) (hlimit : resp.statusCode ≠ 429)

include hbody hrequest hanswer hstatus hlimit

/-- Without a stream, the body is what an account is classified by. -/
theorem transitions_buffered (hstream : c.isStream = false) :
    transitions (c.forwardAndHandle a binding).events =
      c.finalTransitions a resp.statusCode (bufferedBody resp)
        (extractUpstreamErrorMessage (bufferedBody resp)) := by
  obtain ⟨request, accountID, hforward⟩ := forwardTo_received hbody hrequest hanswer
  have hresult : (c.forwardTo a.number a.route binding).result =
      some (bufferedResult resp (responseHeader resp c.env.requestID accountID)) := by
    rw [hforward, receive, hstream]
    rfl
  rw [transitions_forwardAndHandle hresult,
    c.handleResult_final a rfl (not_retryable hstatus hlimit), c.transitions_handleFinal a hstatus,
    verdict_buffered hstatus.1]
  rfl

/-- With one, only the message of the lines is left. -/
theorem transitions_streamed (hstream : c.isStream = true) :
    transitions (c.forwardAndHandle a binding).events =
      c.finalTransitions a resp.statusCode []
        (streamMessage c.env.downstream resp (extractPathSuffix c.req.path)) := by
  obtain ⟨request, accountID, hforward⟩ := forwardTo_received hbody hrequest hanswer
  have hretry := not_retryable hstatus hlimit
  rw [receive, hstream, Bool.not_true, if_neg Bool.false_ne_true, hretry,
    if_neg Bool.false_ne_true] at hforward
  split at hforward
  next hnone => exact absurd ⟨by omega, by omega⟩ (forwardStream_none hnone)
  next stream answer hsome =>
    have hresult := congrArg Forwarded.result hforward
    obtain ⟨hmessage, hfailed⟩ := forwardStream_message hsome (by omega)
    rw [transitions_forwardAndHandle hresult, c.handleResult_final a rfl hretry,
      c.transitions_handleFinal a hstatus, verdict_streamed hstatus.1 hfailed, hmessage]

end Answered

/-! ## When both transports agree -/

/-- The stream says as much about the account as the body does.  Of a CPA account
that is observed, its message is about a ban exactly when the body is, and the
body is about the credential only when it is about a ban.  Of another account
that takes ordinary traffic, the body is about the credential only when the
status is. -/
def SameClass (c : Call) (a : Attempt) (resp : UpstreamResponse) : Prop :=
  if isCpa a then
    c.req.observes = true →
      isCpaAccountBannedSignal resp.statusCode []
          (streamMessage c.env.downstream resp (extractPathSuffix c.req.path)) =
        isCpaAccountBannedSignal resp.statusCode (bufferedBody resp) [] ∧
      (isCpaAccountUpstreamAuthFailure resp.statusCode (bufferedBody resp) = true →
        isCpaAccountBannedSignal resp.statusCode (bufferedBody resp) [] = true)
  else
    c.req.isOrdinary = true →
      isGatewayAuthFailure resp.statusCode (bufferedBody resp) = true →
        isAuthStatus resp.statusCode = true

theorem cpaTransitions_eq_iff (statusCode : Int) (body message : Str) :
    cpaTransitions a statusCode [] message = cpaTransitions a statusCode body [] ↔
      isCpaAccountBannedSignal statusCode [] message =
          isCpaAccountBannedSignal statusCode body [] ∧
        (isCpaAccountUpstreamAuthFailure statusCode body = true →
          isCpaAccountBannedSignal statusCode body [] = true) := by
  unfold cpaTransitions
  rw [isCpaAccountUpstreamAuthFailure_nil, if_neg Bool.false_ne_true]
  cases isCpaAccountBannedSignal statusCode [] message <;>
    cases isCpaAccountBannedSignal statusCode body [] <;>
      cases isCpaAccountUpstreamAuthFailure statusCode body <;> simp

theorem directTransitions_eq_iff (statusCode : Int) (body : Str) :
    directTransitions a statusCode [] = directTransitions a statusCode body ↔
      (isGatewayAuthFailure statusCode body = true → isAuthStatus statusCode = true) := by
  have himp : isAuthStatus statusCode = true → isGatewayAuthFailure statusCode body = true := by
    intro h
    rw [isGatewayAuthFailure, h, Bool.true_or]
  unfold directTransitions
  rw [isGatewayAuthFailure_nil]
  cases hauth : isAuthStatus statusCode <;> cases hbody : isGatewayAuthFailure statusCode body <;>
    simp [hauth, hbody] at himp ⊢

end Call

/-- Over a final answer, the account makes the same transitions with a stream as
without one exactly when the stream says as much about it as the body. -/
theorem stream_transitions_agree_iff (c : Call) (a : Attempt) (binding : Option RuntimeBinding)
    {data host : Str} {resp : UpstreamResponse}
    (hbody : c.body.reader (c.env.attempts a.number).exchange.openErr.isNone = some data)
    (hrequest : (c.env.attempts a.number).exchange.request = .ok host)
    (hanswer : (c.env.attempts a.number).exchange.answer = .response resp)
    (hstatus : 400 ≤ resp.statusCode ∧ resp.statusCode ≤ 499) (hlimit : resp.statusCode ≠ 429) :
    transitions ({ c with isStream := true }.forwardAndHandle a binding).events =
        transitions ({ c with isStream := false }.forwardAndHandle a binding).events ↔
      c.SameClass a resp := by
  rw [Call.transitions_streamed (c := { c with isStream := true }) hbody hrequest hanswer hstatus
      hlimit rfl,
    Call.transitions_buffered (c := { c with isStream := false }) hbody hrequest hanswer hstatus
      hlimit rfl]
  unfold Call.finalTransitions Call.SameClass
  cases Call.isCpa a with
  | true =>
    cases c.req.observes with
    | true =>
      rw [Call.cpaTransitions_kept]
      simpa using Call.cpaTransitions_eq_iff (a := a) resp.statusCode (bufferedBody resp) _
    | false => simp
  | false =>
    cases c.req.isOrdinary with
    | true => simpa using Call.directTransitions_eq_iff (a := a) resp.statusCode (bufferedBody resp)
    | false => simp

/-- An answer over a token that has expired. -/
def expiredBody : Str := lit "\x7b\"error\":\"expired token\"\x7d"

/-- The status `401` is enough for an account that is no CPA account. -/
theorem stream_transitions_agree_unauthorized :
    transitions ({ callFor (healthyAccount 7)
        (.response { statusCode := 401, body := expiredBody }) with isStream := true
      }.forwardAndHandle (attemptFor (healthyAccount 7)) none).events =
      transitions ({ callFor (healthyAccount 7)
        (.response { statusCode := 401, body := expiredBody }) with isStream := false
      }.forwardAndHandle (attemptFor (healthyAccount 7)) none).events := by
  apply (stream_transitions_agree_iff _ _ none rfl rfl rfl
    (by decide) (by decide)).mpr
  intro _ _
  decide

/-- With the status `400` the body puts the account into the status `error`, and
the stream does not. -/
theorem stream_hides_expired_token :
    transitions (serveHTTP
        (poolEnv [healthyAccount 7] fun _ =>
          .response { statusCode := 400, body := expiredBody })
        (chatRequest true)) = [] ∧
      transitions (serveHTTP
        (poolEnv [healthyAccount 7] fun _ =>
          .response { statusCode := 400, body := expiredBody })
        (chatRequest false)) = [.statusError 7] := by
  constructor
  · decide +kernel
  · decide +kernel

end Lune.Gateway
