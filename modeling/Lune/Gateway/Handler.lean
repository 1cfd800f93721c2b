import Lune.Gateway.Actions
import Lune.Gateway.Proxy
import Lune.Router.Resolve

/-!
# The gateway handler

`Handler.ServeHTTP` of `internal/gateway/handler.go`, behind `GatewayAuth`.

A run is the list of its events.  What the run reads from outside is in `Env`:
for each attempt the snapshots it sees, the answers of the CPA runtime and of the
upstream, the rows it reads back and the clock.  An attempt is one pass through
the body of the retry loop; it ends the request, leaves the loop, or goes on to
the next attempt.

Waiting times, the latency of a request and the timeout of the HTTP client are
left out.
-/

namespace Lune.Gateway

open GoText GoJson Keyed HttpHeader Lune.Store Lune.Router Lune.Health

/-! ## Requests, observations and events -/

/-- A client request, with the access token and the diagnostic mark that its
context carries. -/
structure Request where
  method : Str := lit "POST"
  path : Str
  header : Header := Table.empty
  body : BodyStream
  remoteAddr : Str := []
  accessToken : Option AccessToken := none
  diagnosticContext : Bool := false

/-- What one attempt reads.  `view` is what the account is selected from. -/
structure AttemptEnv where
  view : View
  traceView : View
  policySnap : CacheSnapshot
  runtime : RuntimeEnv
  targetSnap : CacheSnapshot
  exchange : Exchange
  latest : Option (Option Account) := some none
  actions : ActionEnv

/-- What a run reads.  One snapshot serves the body settings. -/
structure Env where
  requestID : Str := []
  bodySnap : CacheSnapshot := {}
  retrySnap : CacheSnapshot := {}
  disk : Bool := true
  bodyOpens : Bool := true
  poolModels : Option (List Str) := none
  binder : Option Checker := none
  initialTraceView : View
  initialPolicySnap : CacheSnapshot := {}
  downstream : Downstream := {}
  attempts : Nat → AttemptEnv

/-- An entry of the route trace. -/
structure RouteTraceEntry where
  attempt : Nat
  routingPolicy : Str
  selectedAccountID : Option Int
  forceAccount : Option Bool := none
  statefulProbe : Option Bool := none
  diagnostic : Option Bool := none
  candidates : List CandidateTrace

/-- `runtimeBindingLog`. -/
structure RuntimeBindingLog where
  authIndex : Str := []
  authID : Str := []
  accountKey : Str := []
  status : Str := []
  reason : Str := []

/-- `store.RequestLog`. -/
structure RequestLog where
  requestID : Str
  accessTokenName : Str
  modelRequested : Str
  modelActual : Str
  poolID : Int
  accountID : Int
  statusCode : Int
  inputTokens : Int
  outputTokens : Int
  stream : Bool
  requestIP : Str
  success : Bool
  errorMessage : Str
  sourceKind : Str
  attemptCount : Int
  diagnostic : Bool
  forceAccount : Bool
  statefulProbe : Bool
  trafficKind : Str
  runtimeAuthIndex : Str
  runtimeAuthID : Str
  runtimeAccountKey : Str
  runtimeBindingStatus : Str
  runtimeBindingReason : Str
  routeTrace : List RouteTraceEntry

/-- An event of a run.  Attempts are numbered from zero. -/
inductive Event where
  | bind (attempt : Nat) (effect : Effect)
  | forward (attempt : Nat) (accountID : Int) (request : Option UpstreamRequest)
  | respond (response : Response)
  | act (attempt : Nat) (action : Action)
  | insertLog (record : RequestLog)
  | serveModels (models : List Str)
  | panic

/-! ## Settings and small helpers -/

/-- `syscfg.ParsePositiveInt`. -/
def parsePositiveInt (raw : Str) (fallback : Nat) : Nat :=
  match atoi raw with
  | some n => if 0 < n then n.toNat else fallback
  | none => fallback

/-- `getMaxRetries`. -/
def getMaxRetries (snap : CacheSnapshot) : Nat :=
  parsePositiveInt (snap.getSetting (lit "max_retry_attempts")) 3

/-- `getGatewayMaxBodyMB`. -/
def getGatewayMaxBodyMB (snap : CacheSnapshot) : Nat :=
  parsePositiveInt (snap.getSetting (lit "gateway_max_body_mb")) 100

/-- `getGatewayMemoryBodyMB`. -/
def getGatewayMemoryBodyMB (snap : CacheSnapshot) : Nat :=
  min (parsePositiveInt (snap.getSetting (lit "gateway_memory_body_mb")) 8)
    (getGatewayMaxBodyMB snap)

/-- `int64(mb) << 20`; what is negative there is zero here. -/
def megabytes (mb : Nat) : Nat := (((mb * 2 ^ 20 : Nat) : Int).bmod (2 ^ 64)).toNat

/-- `extractPathSuffix`. -/
def extractPathSuffix (path : Str) : Str :=
  if hasPrefix path (lit "/openai/v1/") then trimPrefix path (lit "/openai/v1/")
  else if hasPrefix path (lit "/v1/") then trimPrefix path (lit "/v1/")
  else trimPrefix path (lit "/")

/-- `clientIP`. -/
def clientIP (r : Request) : Str :=
  let xff := get r.header (lit "X-Forwarded-For")
  if xff ≠ [] then trimSpace (cut xff 44).1 else (cut r.remoteAddr 58).1

/-- `webutil.BearerToken`. -/
def bearerToken (header : Str) : Str :=
  match cut header 32 with
  | (scheme, some token) => if equalFold scheme (lit "Bearer") then trimSpace token else []
  | (_, none) => []

/-- `webutil.WriteGatewayError`. -/
def writeGatewayError (status : Int) (code message : Str) : Response :=
  { responder := .writeGatewayError
    statusCode := status
    header := set Table.empty (lit "Content-Type") (lit "application/json; charset=utf-8")
    body := lit "\x7b\"error\":\x7b\"message\":" ++ quote message ++
      lit ",\"type\":\"gateway_error\",\"code\":" ++ quote code ++ lit "\x7d\x7d" ++ [10] }

/-- `currentRoutingPolicy`. -/
def currentRoutingPolicy (snap : CacheSnapshot) (poolID : Int) : Str :=
  match snap.pools.get? poolID with
  | none => lit "health_first"
  | some pool => Database.normalizeRoutingPolicy pool.routingPolicy

/-- The wait before the attempt with this number, in nanoseconds, as 64 bits
hold it. -/
def backoff (attempt : Nat) : Int := ((2 ^ (attempt - 1) * 200000000 : Nat) : Int).bmod (2 ^ 64)

/-- `rand.N` panics: its argument is not positive. -/
def backoffPanics (attempt : Nat) : Bool := (backoff attempt).tdiv 2 ≤ 0

/-- `WriteResponse`; `none` is a panic. -/
def writeResponse (result : ProxyResult) : Option (List Event) :=
  if result.written then some []
  else if ValidStatus result.statusCode then
    some [.respond
      ⟨.writeResponse, result.statusCode, copy (fun _ => false) result.headers Table.empty,
        result.body⟩]
  else none

/-! ## What the request asks for -/

/-- `diagnostic`: by the context, or by the header. -/
def Request.isDiagnostic (r : Request) : Bool :=
  r.diagnosticContext ||
    equalFold (trimSpace (get r.header (lit "X-Lune-Diagnostic"))) (lit "true")

/-- `tokenPoolID`. -/
def Request.tokenPoolID (r : Request) : Option Int := r.accessToken.bind AccessToken.poolID

/-- `forceAccountID`. -/
def Request.forceAccountID (r : Request) : Option Int :=
  let v := get r.header (lit "X-Lune-Account-Id")
  if v ≠ [] then atoi v else none

/-- `statefulProbe`. -/
def Request.isStatefulProbe (r : Request) : Bool :=
  r.forceAccountID.isSome && !r.isDiagnostic &&
    equalFold (trimSpace (get r.header (lit "X-Lune-Probe-Mode"))) (lit "stateful")

/-- Neither a diagnostic request nor a stateful probe. -/
def Request.isOrdinary (r : Request) : Bool := !r.isDiagnostic && !r.isStatefulProbe

/-- `!diagnostic || statefulProbe`: observations are recorded. -/
def Request.observes (r : Request) : Bool := !r.isDiagnostic || r.isStatefulProbe

/-- `router.ResolveOptions{Diagnostic: diagnosticRoute}`. -/
def Request.resolveOptions (r : Request) : Router.ResolveOptions :=
  { diagnostic := r.isDiagnostic || r.isStatefulProbe }

/-- A request whose body has been read: the run's fixed data. -/
structure Call where
  env : Env
  req : Request
  body : ReplayBody
  model : Str
  isStream : Bool

/-- `maxRetries`. -/
def Call.maxRetries (c : Call) : Nat :=
  if c.req.forceAccountID.isSome || c.req.isDiagnostic then 1 else getMaxRetries c.env.retrySnap

/-! ## The request log -/

/-- `logRequestWithBindingTrace`.  Before the body is parsed the context does not
say yet whether an account is forced, which is `parsed`. -/
def logRequest (env : Env) (r : Request) (parsed : Bool) (model : Str) (stream : Bool)
    (resolved : Option ResolvedRoute) (statusCode : Int) (success : Bool) (errMsg : Str)
    (usage : Usage) (sourceKind : Str) (attemptCount : Int) (binding : RuntimeBindingLog)
    (routeTrace : List RouteTraceEntry) : Event :=
  .insertLog
    { requestID := env.requestID
      accessTokenName := (r.accessToken.map AccessToken.name).getD []
      modelRequested := model
      modelActual := (resolved.map ResolvedRoute.targetModel).getD model
      poolID := (resolved.map ResolvedRoute.poolID).getD 0
      accountID := (resolved.map ResolvedRoute.accountID).getD 0
      statusCode := statusCode
      inputTokens := usage.inputTokens
      outputTokens := usage.outputTokens
      stream := stream
      requestIP := clientIP r
      success := success
      errorMessage := errMsg
      sourceKind := sourceKind
      attemptCount := max attemptCount 0
      diagnostic := r.isDiagnostic
      forceAccount := parsed && r.forceAccountID.isSome
      statefulProbe := parsed && r.isStatefulProbe
      trafficKind :=
        if r.isDiagnostic then lit "diagnostic"
        else if parsed && r.isStatefulProbe then lit "stateful_probe" else lit "ordinary"
      runtimeAuthIndex := binding.authIndex
      runtimeAuthID := binding.authID
      runtimeAccountKey := binding.accountKey
      runtimeBindingStatus := binding.status
      runtimeBindingReason := binding.reason
      routeTrace := routeTrace }

/-- The log of a request that has a model. -/
def Call.log (c : Call) (resolved : Option ResolvedRoute) (statusCode : Int) (success : Bool)
    (errMsg : Str) (usage : Usage) (sourceKind : Str) (attemptCount : Int)
    (binding : RuntimeBindingLog) (routeTrace : List RouteTraceEntry) : Event :=
  logRequest c.env c.req true c.model c.isStream resolved statusCode success errMsg usage sourceKind
    attemptCount binding routeTrace

/-! ## The runtime binding and the target -/

/-- Why there is no binding: an error of the resolver, a binding the provider
cannot be pinned to, or a plain error. -/
inductive BindError where
  | resolve (err : ResolveError)
  | unsupported (binding : RuntimeBinding)
  | unavailable

/-- `health.RuntimeBindingErrorState`. -/
def BindError.state : BindError → Str × Str
  | resolve err => (err.status, err.reason)
  | unsupported _ => (lit "unsupported", lit "provider_pinning_unsupported")
  | unavailable => (lit "runtime_error", lit "runtime_auth_binding_unavailable")

/-- `resolveForwardRuntimeBinding`, with the effects of the resolver. -/
def resolveForwardRuntimeBinding (binder : Option Checker) (env : RuntimeEnv) (account : Account) :
    Except BindError (Option RuntimeBinding) × List Effect :=
  if account.sourceKind ≠ lit "cpa" then (.ok none, [])
  else match binder with
    | none => (.error .unavailable, [])
    | some checker =>
      match resolveRuntimeBinding checker env account true true with
      | (.error err, effects) => (.error (.resolve err), effects)
      | (.ok binding, effects) =>
        if isBlank binding.authIndex then (.error .unavailable, effects)
        else
          let target : RuntimeBinding :=
            ⟨binding.accountKey, binding.authID, binding.authIndex, binding.openAIID⟩
          if checker.providerPinningSupported then (.ok (some target), effects)
          else (.error (.unsupported target), effects)

/-- The log of a binding that failed. -/
def BindError.log (err : BindError) (account : Account) (reason : Str) : RuntimeBindingLog :=
  match err with
  | unsupported binding =>
    ⟨binding.authIndex, binding.authID, binding.accountKey, err.state.1, reason⟩
  | resolve _ | unavailable => ⟨[], [], account.cpaAccountKey, err.state.1, reason⟩

/-- The log of a binding, empty for an account that needs none. -/
def bindingLog (binding : Option RuntimeBinding) : RuntimeBindingLog :=
  match binding with
  | none => {}
  | some b => ⟨b.authIndex, b.authID, b.accountKey, lit "confirmed", []⟩

/-- `resolveTarget`. -/
def resolveTarget (snap : CacheSnapshot) (account : Account) (binding : Option RuntimeBinding) :
    UpstreamTarget :=
  let direct : UpstreamTarget :=
    { baseURL := account.baseURL, apiKey := account.apiKey, accountID := account.id }
  if account.sourceKind ≠ lit "cpa" then direct
  else match account.cpaServiceID.bind snap.getCpaService with
    | none => direct
    | some svc =>
      { baseURL := trimRightByte svc.baseURL 47 ++ lit "/api/provider/" ++ account.cpaProvider ++
          lit "/v1"
        apiKey := svc.apiKey
        accountID := account.id
        runtimeBinding := binding }

/-! ## The retry loop -/

/-- The variables of the loop. -/
structure LoopState where
  exclude : List Int := []
  lastErr : Option Str := none
  lastStatusCode : Int := 0
  lastResolved : Option ResolvedRoute := none
  lastBindingLog : RuntimeBindingLog := {}
  routeTrace : List RouteTraceEntry := []
  attemptsUsed : Nat := 0

/-- How a pass through the loop ends: `return`, `break` or `continue`. -/
inductive Step where
  | stop (events : List Event)
  | leave (events : List Event) (st : LoopState)
  | again (events : List Event) (st : LoopState)

/-- Put events before those of a step. -/
def Step.after (before : List Event) : Step → Step
  | stop events => stop (before ++ events)
  | leave events st => leave (before ++ events) st
  | again events st => again (before ++ events) st

/-- An attempt that has an account: its number, the route, the binding's log and
the state of the loop with both. -/
structure Attempt where
  number : Nat
  last : Bool
  route : ResolvedRoute
  binding : RuntimeBindingLog
  st : LoopState

namespace Call

variable (c : Call)

/-- The account of an attempt is a CPA account. -/
def isCpa (a : Attempt) : Bool := a.route.account.sourceKind == lit "cpa"

/-- The log at the end of an attempt. -/
def logAttempt (a : Attempt) (statusCode : Int) (success : Bool) (errMsg : Str) (usage : Usage) :
    Event :=
  c.log (some a.route) statusCode success errMsg usage a.route.account.sourceKind
    a.st.attemptsUsed a.binding a.st.routeTrace

/-- An action, when the condition holds. -/
def actIf (a : Attempt) (condition : Bool) (action : Action) : List Event :=
  if condition then [.act a.number action] else []

/-- The actions over an account whose credential was rejected. -/
def rejectCredential (a : Attempt) (statusCode : Int) (body errMsg : Str) : List Event :=
  [.act a.number (.updateCpaCredential a.route.accountID (lit "needs_login")
      (gatewayCredentialReason body) (lit "HTTP " ++ itoa statusCode)),
    .act a.number (.recordAccountDiagnosticObservation a.route.account
      ⟨lit "auth_invalid", lit "auth_invalid_signal", lit "account authentication failed",
        statusCode, lit "auth_invalid", errMsg⟩)]

/-- The observation of an account that the upstream has banned. -/
def bannedObservation (a : Attempt) (statusCode : Int) (errMsg : Str) : Action :=
  .recordAccountDiagnosticObservation a.route.account
    ⟨lit "banned", lit "upstream_banned_signal", lit "account banned by upstream", statusCode,
      lit "upstream_banned", errMsg⟩

/-- The observation of a passing failure. -/
def transientObservation (a : Attempt) (summary : Str) (statusCode : Int) (code errMsg : Str) :
    Action :=
  .recordAccountDiagnosticObservation a.route.account
    ⟨lit "unknown", lit "transient_error", summary, statusCode, code, errMsg⟩

/-- Answer with the buffered response and stop. -/
def answerAndLog (a : Attempt) (result : ProxyResult) (errMsg : Str) (before : List Event) : Step :=
  match writeResponse result with
  | none => .stop (before ++ [.panic])
  | some answer =>
    .stop (before ++ answer ++ [c.logAttempt a result.statusCode false errMsg result.usage])

/-- The branch `result.Err != nil`. -/
def handleError (a : Attempt) (result : ProxyResult) (err : ProxyError) : Step :=
  let st := { a.st with
    exclude := a.st.exclude ++ [a.route.accountID]
    lastErr := some err.text }
  let acts :=
    actIf a (result.healthImpact && c.req.isOrdinary)
      (.recordServingFailure a.route.accountID err.text) ++
    actIf a (isCpa a && c.req.observes)
      (.recordAccountDiagnosticObservation a.route.account
        ⟨lit "transient_error", lit "transient_error", lit "gateway request failed", 0,
          lit "upstream_request_failed", err.text⟩)
  if !err.retryable then
    .stop (acts ++
      [.respond (writeGatewayError 502 (lit "upstream_failed") err.text),
        c.logAttempt a 0 false err.text {}])
  else .again acts st

/-- The observations over a retryable status. -/
def observeRetryable (a : Attempt) (result : ProxyResult) (errMsg : Str) : List Event :=
  if result.statusCode = 429 ∧ c.req.observes = true then
    [.act a.number (.recordCodexQuotaRateLimitEvidence a.route.account result.body errMsg),
      .act a.number
        (if bodyHasQuotaLimitSignal result.body || textHasQuotaLimitSignal errMsg then
          .recordAccountDiagnosticObservation a.route.account
            ⟨lit "quota_exhausted", lit "quota_exhausted_signal",
              lit "quota exhausted by model request", result.statusCode, lit "quota_exhausted",
              errMsg⟩
        else
          transientObservation a (lit "rate limited by model request") result.statusCode
            (lit "rate_limited") errMsg)]
  else
    actIf a (isCpa a && c.req.observes)
      (transientObservation a (lit "transient upstream error") result.statusCode
        (lit "upstream_transient_error") errMsg)

/-- The branch `IsRetryableStatus(result.StatusCode)`. -/
def handleRetryableStatus (a : Attempt) (result : ProxyResult) : Step :=
  let errMsg := upstreamErrorMessage result (lit "HTTP " ++ itoa result.statusCode)
  if isCpa a && isCpaAccountBannedSignal result.statusCode result.body errMsg then
    c.answerAndLog a result errMsg
      (actIf a c.req.observes (bannedObservation a result.statusCode errMsg))
  else if isCpa a && isCpaAccountUpstreamAuthFailure result.statusCode result.body then
    c.answerAndLog a result errMsg
      (if c.req.observes then rejectCredential a result.statusCode result.body errMsg else [])
  else
    let acts := c.observeRetryable a result errMsg ++
      actIf a (result.healthImpact && c.req.isOrdinary)
        (.recordServingFailure a.route.accountID errMsg)
    if c.isStream || a.last then c.answerAndLog a result errMsg acts
    else
      .again acts { a.st with
        lastStatusCode := result.statusCode
        exclude := a.st.exclude ++ [a.route.accountID] }

/-- The actions after a success of a codex account. -/
def recordCodexSuccess (a : Attempt) (statusCode : Int) : List Event :=
  let latest := (c.env.attempts a.number).latest.join
  let account := latest.getD a.route.account
  let quotaProbeAuthFailed := equalFold account.cpaQuotaStatus (lit "error") &&
    isQuotaProbeAuthFailureText account.cpaQuotaLastError
  let observation : Observation :=
    if quotaProbeAuthFailed then
      ⟨lit "quota_probe_auth_failed_but_usable", lit "succeeded",
        lit "quota probe authentication failed but model request succeeded", statusCode,
        lit "quota_probe_auth_failed_but_usable", []⟩
    else if latest.isSome then
      ⟨lit "usable", lit "succeeded", lit "model request succeeded", statusCode, [], []⟩
    else
      ⟨[], lit "succeeded", lit "model request succeeded; latest account state unavailable",
        statusCode, [], []⟩
  actIf a (!quotaProbeAuthFailed && latest.isSome)
      (.clearAccountCodexModelRequestQuotaEvidence a.route.accountID) ++
    actIf a (latest.isSome && !equalFold account.cpaCredentialStatus (lit "ok"))
      (.updateAccountCpaCredentialStatus a.route.accountID (lit "ok") (lit "model_request_success")
        []) ++
    [.act a.number (.updateAccountCpaAccessStatus a.route.accountID (lit "eligible")
        (lit "model_request_success") []),
      .act a.number (.recordAccountDiagnosticObservation account observation),
      .act a.number .invalidate]

/-- The actions after a success. -/
def recordSuccess (a : Attempt) (statusCode : Int) : List Event :=
  actIf a c.req.isOrdinary (.recordServingSuccess a.route.accountID) ++
    actIf a
      (c.req.isOrdinary && isCpa a &&
        equalFold a.route.account.cpaCredentialStatus (lit "auth_suspect"))
      (.updateCpaCredential a.route.accountID (lit "ok") [] []) ++
    (match c.req.accessToken with
      | some token => actIf a c.req.isOrdinary (.updateTokenLastUsed token.id)
      | none => []) ++
    if isCodex a.route.account && c.req.observes then c.recordCodexSuccess a statusCode else []

/-- The actions after a final answer that is no success. -/
def recordFailure (a : Attempt) (result : ProxyResult) (errMsg : Str) : List Event :=
  if isCpa a && isCpaAccountBannedSignal result.statusCode result.body errMsg then
    actIf a c.req.observes (bannedObservation a result.statusCode errMsg)
  else if isCpa a && isCpaAccountUpstreamAuthFailure result.statusCode result.body then
    if c.req.observes then rejectCredential a result.statusCode result.body errMsg else []
  else if isCpa a && c.req.observes then
    [.act a.number (transientObservation a (lit "upstream request failed") result.statusCode
      (lit "upstream_request_failed") errMsg)]
  else if !isCpa a && isGatewayAuthFailure result.statusCode result.body then
    actIf a c.req.isOrdinary
      (.updateHealth a.route.accountID (lit "error") (lit "upstream authentication failed"))
  else match result.stream with
    | some stream =>
      if stream.failed then
        actIf a (c.req.isOrdinary && stream.healthImpact)
          (.recordServingFailure a.route.accountID errMsg) ++
        actIf a (isCpa a && c.req.observes)
          (transientObservation a (lit "stream failed") result.statusCode (lit "stream_failed")
            errMsg)
      else []
    | none => []

/-- `success` and `errMsg` of a final answer. -/
def verdict (result : ProxyResult) : Bool × Str :=
  let success := 200 ≤ result.statusCode && result.statusCode < 400
  match result.stream.filter fun stream => stream.failed with
  | some stream =>
    (false,
      if stream.errorMessage ≠ [] then stream.errorMessage
      else
        let text := stream.err.getD []
        if text ≠ [] then text else lit "stream failed")
  | none => (success, if success then [] else upstreamErrorMessage result [])

/-- The end of the loop body: a success or an answer that is not retried. -/
def handleFinal (a : Attempt) (result : ProxyResult) : Step :=
  match writeResponse result with
  | none => .stop [.panic]
  | some answer =>
    let (success, errMsg) := verdict result
    .stop (answer ++
      (if success then c.recordSuccess a result.statusCode else c.recordFailure a result errMsg) ++
      [c.logAttempt a result.statusCode success errMsg result.usage])

/-- What the loop does with the result of `Forward`. -/
def handleResult (a : Attempt) (result : ProxyResult) : Step :=
  match result.err with
  | some err => c.handleError a result err
  | none =>
    if isRetryableStatus result.statusCode then c.handleRetryableStatus a result
    else c.handleFinal a result

/-- The target of an attempt, and what `Forward` does there. -/
def forwardTo (attempt : Nat) (route : ResolvedRoute) (binding : Option RuntimeBinding) :
    Forwarded :=
  let env := c.env.attempts attempt
  forward c.env.downstream c.req.method c.req.header
    (resolveTarget env.targetSnap route.account binding) (extractPathSuffix c.req.path) c.body
    c.isStream c.env.requestID env.exchange

/-- The part of the loop body from `Forward` on. -/
def forwardAndHandle (a : Attempt) (binding : Option RuntimeBinding) : Step :=
  let forwarded := c.forwardTo a.number a.route binding
  let events := .forward a.number a.route.accountID forwarded.request ::
    (forwarded.answered.map Event.respond).toList
  match forwarded.result with
  | none => .stop (events ++ [.panic])
  | some result => (c.handleResult a result).after events

/-- The trace entry of an attempt. -/
def traceEntry (attempt : Nat) (st : LoopState) (route : ResolvedRoute) : RouteTraceEntry :=
  let env := c.env.attempts attempt
  { attempt := attempt + 1
    routingPolicy := currentRoutingPolicy env.policySnap route.poolID
    selectedAccountID := some route.accountID
    forceAccount := some c.req.forceAccountID.isSome
    statefulProbe := some c.req.isStatefulProbe
    diagnostic := some c.req.isDiagnostic
    candidates := env.traceView.explainCandidates c.model route.poolID st.exclude
      c.req.resolveOptions }

/-- The exit over a binding that failed. -/
def refuseBinding (st : LoopState) (route : ResolvedRoute) (err : BindError) : List Event :=
  let reason := if err.state.2 = [] then lit "runtime_auth_binding_unavailable" else err.state.2
  [.respond (writeGatewayError 503 (lit "runtime_auth_binding_unavailable") reason),
    c.log (some route) 503 false (lit "runtime_auth_binding_unavailable: " ++ reason) {}
      route.account.sourceKind 0 (err.log route.account reason) st.routeTrace]

/-- The binding of an attempt and the effects of resolving it. -/
def bind (attempt : Nat) (route : ResolvedRoute) :
    Except BindError (Option RuntimeBinding) × List Effect :=
  resolveForwardRuntimeBinding c.env.binder (c.env.attempts attempt).runtime route.account

/-- The part of the loop body after the route is known. -/
def tryRoute (attempt : Nat) (last : Bool) (st : LoopState) (route : ResolvedRoute) : Step :=
  let st := { st with
    lastResolved := some route
    routeTrace := st.routeTrace ++ [c.traceEntry attempt st route] }
  let bound := c.bind attempt route
  let events := bound.2.map (Event.bind attempt)
  match bound.1 with
  | .error err => .stop (events ++ c.refuseBinding st route err)
  | .ok binding =>
    let st := { st with lastBindingLog := bindingLog binding }
    (c.forwardAndHandle ⟨attempt, last, route, bindingLog binding, st⟩ binding).after events

/-- The route of an attempt; the first one is resolved before the loop. -/
def nextRoute (first : ResolvedRoute) (attempt : Nat) (st : LoopState) :
    Except RouteError ResolvedRoute :=
  if attempt = 0 then .ok first
  else (c.env.attempts attempt).view.selectNextAccount c.model c.req.tokenPoolID st.exclude

/-- One pass through the body of the loop. -/
def runAttempt (first : ResolvedRoute) (attempt : Nat) (last : Bool) (st : LoopState) : Step :=
  let st := { st with attemptsUsed := attempt + 1 }
  if attempt ≠ 0 ∧ backoffPanics attempt then .stop [.panic]
  else match c.nextRoute first attempt st with
    | .error _ => .leave [] st
    | .ok route => c.tryRoute attempt last st route

/-- After the loop: all retries are exhausted. -/
def exhausted (st : LoopState) : List Event :=
  let errMsg := match st.lastErr with
    | some text => text
    | none =>
      if 0 < st.lastStatusCode then lit "upstream returned HTTP " ++ itoa st.lastStatusCode
      else lit "all upstream attempts failed"
  [.respond (writeGatewayError 502 (lit "upstream_failed") errMsg),
    c.log st.lastResolved st.lastStatusCode false errMsg {}
      ((st.lastResolved.map fun route => route.account.sourceKind).getD []) st.attemptsUsed
      st.lastBindingLog st.routeTrace]

/-- The retry loop, with `left` attempts to go. -/
def retryLoop (first : ResolvedRoute) (attempt : Nat) (st : LoopState) : Nat → List Event
  | 0 => c.exhausted st
  | left + 1 =>
    match c.runAttempt first attempt (left == 0) st with
    | .stop events => events
    | .leave events st => events ++ c.exhausted st
    | .again events st => events ++ retryLoop first (attempt + 1) st left

/-! ## The request -/

/-- `initialRouteTrace`. -/
def initialRouteTrace : List RouteTraceEntry :=
  match c.req.tokenPoolID with
  | none => []
  | some poolID =>
    let candidates := c.env.initialTraceView.explainCandidates c.model poolID []
      c.req.resolveOptions
    if candidates.isEmpty then []
    else
      [{ attempt := 0
         routingPolicy := currentRoutingPolicy c.env.initialPolicySnap poolID
         selectedAccountID := none
         candidates := candidates }]

/-- The answers to a request that has no route.  The router has no other
errors, so the branch `500 internal` cannot be taken. -/
def refuseRoute (err : RouteError) : List Event :=
  let refuse (status : Int) (code message errMsg sourceKind : Str)
      (trace : List RouteTraceEntry) : List Event :=
    [.respond (writeGatewayError status code message),
      c.log none status false errMsg {} sourceKind 0 {} trace]
  match err with
  | .noRoute =>
    refuse 404 (lit "no_route") (lit "no route for model: " ++ c.model) err.text []
      c.initialRouteTrace
  | .poolDisabled =>
    refuse 503 (lit "pool_disabled") (lit "pool is disabled") err.text [] c.initialRouteTrace
  | .noHealthyAccount =>
    refuse 503 (lit "no_healthy_account") (lit "no healthy account available") err.text []
      c.initialRouteTrace
  | .runtimeBinding =>
    refuse 503 (lit "runtime_auth_binding_unavailable") (lit "provider_pinning_unsupported")
      (lit "runtime_auth_binding_unavailable: provider_pinning_unsupported") (lit "cpa")
      c.initialRouteTrace
  | .modelNotOnAccount =>
    refuse 404 (lit "model_not_on_account")
      (lit "account " ++ itoa (c.req.forceAccountID.getD 0) ++ lit " does not list model: " ++
        c.model)
      err.text [] []

/-- The initial route resolution. -/
def resolve : Except RouteError ResolvedRoute :=
  (c.env.attempts 0).view.resolveWithOptions c.model c.req.tokenPoolID c.req.forceAccountID
    c.req.resolveOptions

/-- The part of `ServeHTTP` from the route resolution on. -/
def serve : List Event :=
  match c.resolve with
  | .error err => c.refuseRoute err
  | .ok route => c.retryLoop route 0 {} c.maxRetries

end Call

/-- An answer and a log before the request has a model. -/
def reject (env : Env) (r : Request) (status : Int) (code message : Str) (stream : Bool) :
    List Event :=
  [.respond (writeGatewayError status code message),
    logRequest env r false [] stream none status false message {} (lit "gateway") 0 {} []]

/-- `GET` of the models, which the gateway answers itself. -/
def Request.asksForModels (r : Request) : Bool :=
  extractPathSuffix r.path == lit "models" && r.method == lit "GET"

/-- The request up to its model: the events of a refusal, or the call. -/
def prepare (env : Env) (r : Request) : Except (List Event) Call :=
  let maxMB := getGatewayMaxBodyMB env.bodySnap
  match newReplayBody r.body (megabytes maxMB) (megabytes (getGatewayMemoryBodyMB env.bodySnap))
      env.disk with
  | .error .tooLarge =>
    .error (reject env r 413 (lit "request_too_large")
      (lit "request body exceeds " ++ itoa maxMB ++ lit "MB limit") false)
  | .error .other =>
    .error (reject env r 400 (lit "bad_request") (lit "failed to read request body") false)
  | .ok body =>
    match (body.reader env.bodyOpens).bind parseRequestEnvelope with
    | none =>
      .error (reject env r 400 (lit "bad_request") (lit "malformed JSON request body") false)
    | some envelope =>
      if envelope.model = [] then
        .error (reject env r 400 (lit "bad_request") (lit "missing model field in request body")
          envelope.stream)
      else
        .ok { env := env, req := r, body := body, model := envelope.model,
              isStream := envelope.stream }

/-- `ServeHTTP`. -/
def serveHTTP (env : Env) (r : Request) : List Event :=
  if r.asksForModels then
    [.serveModels (if r.tokenPoolID.isSome then env.poolModels.getD [] else [])]
  else match prepare env r with
    | .error events => events
    | .ok c => c.serve

/-- `GatewayAuth`: the request goes on with the token it names, or is refused. -/
def gatewayAuth (snap : CacheSnapshot) (env : Env) (r : Request) : List Event :=
  let refused : List Event :=
    [.respond (writeGatewayError 401 (lit "invalid_token") (lit "invalid access token"))]
  let tokenValue := bearerToken (get r.header (lit "Authorization"))
  if tokenValue = [] then refused
  else match snap.findAccessToken tokenValue with
    | none => refused
    | some token =>
      if !token.enabled || token.poolID.isNone then refused
      else serveHTTP env { r with accessToken := some token }

end Lune.Gateway
