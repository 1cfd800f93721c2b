import Lune.Gateway.Handler

/-!
# What a run can do

The events of a run by kind, and what one attempt contributes.  `Ran` says it
once for every way an attempt can go; the properties of whole runs follow from
it by induction on the attempts that are left.
-/

namespace Lune.Gateway

open GoText Keyed HttpHeader Lune.Store Lune.Router Lune.Health

/-! ## Events by kind -/

/-- The answer to the client. -/
def Event.answer? : Event → Option Response
  | respond response => some response
  | _ => none

/-- The record handed to `InsertLog`. -/
def Event.record? : Event → Option RequestLog
  | insertLog record => some record
  | _ => none

/-- The attempt and the account of a call of `Forward`. -/
def Event.forward? : Event → Option (Nat × Int)
  | forward attempt accountID _ => some (attempt, accountID)
  | _ => none

/-- The answers of a run. -/
def answers (events : List Event) : List Response := events.filterMap Event.answer?

/-- The records of a run. -/
def records (events : List Event) : List RequestLog := events.filterMap Event.record?

/-- The calls of `Forward` of a run. -/
def forwards (events : List Event) : List (Nat × Int) := events.filterMap Event.forward?

@[simp] theorem answers_append (es fs : List Event) : answers (es ++ fs) = answers es ++ answers fs :=
  List.filterMap_append

@[simp] theorem records_append (es fs : List Event) : records (es ++ fs) = records es ++ records fs :=
  List.filterMap_append

@[simp] theorem forwards_append (es fs : List Event) :
    forwards (es ++ fs) = forwards es ++ forwards fs :=
  List.filterMap_append

/-- The events of a step. -/
def Step.events : Step → List Event
  | stop events | leave events _ | again events _ => events

@[simp] theorem Step.events_after (before : List Event) (step : Step) :
    (step.after before).events = before ++ step.events := by
  cases step <;> rfl

theorem Step.after_nil (step : Step) : step.after [] = step := by
  cases step <;> rfl

/-- What an event does to the store, the cache and the CPA runtime. -/
def Event.effects (env : Env) : Event → List Effect
  | bind _ effect => [effect]
  | act k action => action.effects (env.attempts k).actions
  | _ => []

/-- What the events of a run do. -/
def effects (env : Env) (events : List Event) : List Effect := events.flatMap (Event.effects env)

/-- The statements that the events of a run hand to the store. -/
def statements (env : Env) (events : List Event) : List StoreCall :=
  (effects env events).filterMap effectCall?

@[simp] theorem statements_append (env : Env) (es fs : List Event) :
    statements env (es ++ fs) = statements env es ++ statements env fs := by
  rw [statements, effects, List.flatMap_append, List.filterMap_append]
  rfl

/-- Only effects and actions. -/
def Event.quiet : Event → Bool
  | bind _ _ | act _ _ => true
  | _ => false

/-- Events that neither forward nor answer nor log. -/
def Quiet (events : List Event) : Prop := ∀ e ∈ events, e.quiet = true

@[simp] theorem quiet_nil : Quiet [] := fun _ h => absurd h List.not_mem_nil

@[simp] theorem quiet_append {es fs : List Event} : Quiet (es ++ fs) ↔ Quiet es ∧ Quiet fs := by
  simp only [Quiet, List.mem_append]
  exact ⟨fun h => ⟨fun e he => h e (Or.inl he), fun e he => h e (Or.inr he)⟩,
    fun h e he => he.elim (h.1 e) (h.2 e)⟩

@[simp] theorem quiet_cons {e : Event} {es : List Event} :
    Quiet (e :: es) ↔ e.quiet = true ∧ Quiet es := List.forall_mem_cons

/-- A quiet list has nothing of a kind that no quiet event is of. -/
theorem Quiet.filterMap_eq_nil {α : Type} {events : List Event} (h : Quiet events)
    {f : Event → Option α} (hf : ∀ e, e.quiet = true → f e = none) : events.filterMap f = [] :=
  List.filterMap_eq_nil_iff.mpr fun e he => hf e (h e he)

theorem Quiet.answers {events : List Event} (h : Quiet events) : answers events = [] :=
  h.filterMap_eq_nil fun e he => by cases e <;> first | rfl | contradiction

theorem Quiet.records {events : List Event} (h : Quiet events) : records events = [] :=
  h.filterMap_eq_nil fun e he => by cases e <;> first | rfl | contradiction

theorem Quiet.forwards {events : List Event} (h : Quiet events) : forwards events = [] :=
  h.filterMap_eq_nil fun e he => by cases e <;> first | rfl | contradiction

namespace Call

variable (c : Call)

@[simp] theorem quiet_actIf (a : Attempt) (condition : Bool) (action : Action) :
    Quiet (actIf a condition action) := by
  cases condition <;> simp [actIf, Event.quiet]

theorem quiet_rejectCredential (a : Attempt) (statusCode : Int) (body errMsg : Str) :
    Quiet (rejectCredential a statusCode body errMsg) := by
  simp [rejectCredential, Event.quiet]

theorem quiet_observeRetryable (a : Attempt) (result : ProxyResult) (errMsg : Str) :
    Quiet (c.observeRetryable a result errMsg) := by
  unfold observeRetryable
  split <;> simp [Event.quiet]

theorem quiet_recordSuccess (a : Attempt) (statusCode : Int) :
    Quiet (c.recordSuccess a statusCode) := by
  have hcodex : Quiet (c.recordCodexSuccess a statusCode) := by
    simp [recordCodexSuccess, Event.quiet]
  unfold recordSuccess
  simp only [quiet_append, quiet_actIf, true_and]
  constructor
  · split <;> simp
  · split
    · exact hcodex
    · exact quiet_nil

theorem quiet_recordFailure (a : Attempt) (result : ProxyResult) (errMsg : Str) :
    Quiet (c.recordFailure a result errMsg) := by
  unfold recordFailure
  split
  · exact quiet_actIf _ _ _
  split
  · split
    · exact quiet_rejectCredential _ _ _ _
    · exact quiet_nil
  split
  · simp [Event.quiet]
  split
  · exact quiet_actIf _ _ _
  split
  · split <;> simp
  · exact quiet_nil

end Call

theorem Request.observes_of_isOrdinary {r : Request} (h : r.isOrdinary = true) :
    r.observes = true := by
  simp only [Request.isOrdinary, Request.observes, Bool.and_eq_true, Bool.or_eq_true] at h ⊢
  exact Or.inl h.1

theorem getMaxRetries_pos (snap : CacheSnapshot) : 0 < getMaxRetries snap := by
  unfold getMaxRetries parsePositiveInt
  split
  · split <;> omega
  · omega

/-! ## Outcomes of a call of `Forward` -/

/-- The ways a call of `Forward` can end. -/
inductive Outcome (io : Exchange) : Forwarded → Prop where
  | failed (request : Option UpstreamRequest) (err : ProxyError) :
    Outcome io { request := request, result := some { err := some err } }
  | panicked (request : UpstreamRequest) (resp : UpstreamResponse)
    (hanswer : io.answer = .response resp) (hstatus : ¬ ValidStatus resp.statusCode) :
    Outcome io { request := some request, result := none }
  | buffered (request : UpstreamRequest) (resp : UpstreamResponse) (result : ProxyResult)
    (hanswer : io.answer = .response resp) (herr : result.err = none)
    (hstatus : result.statusCode = resp.statusCode) (hwritten : result.written = false) :
    Outcome io { request := some request, result := some result }
  | streamed (request : UpstreamRequest) (resp : UpstreamResponse) (stream : StreamResult)
    (answer : Response) (hanswer : io.answer = .response resp)
    (hretry : isRetryableStatus resp.statusCode = false) :
    Outcome io
      { request := some request
        answered := some answer
        result := some
          { statusCode := resp.statusCode
            usage := stream.usage
            stream := some stream
            written := true } }

theorem forwardStream_none {down : Downstream} {resp : UpstreamResponse} {header : Header}
    {pathSuffix : Str} (h : forwardStream down resp header pathSuffix = none) :
    ¬ ValidStatus resp.statusCode := by
  unfold forwardStream at h
  split at h
  · contradiction
  split at h
  · contradiction
  · assumption

theorem receive_outcome {io : Exchange} {resp : UpstreamResponse}
    (hanswer : io.answer = .response resp) (down : Downstream) (pathSuffix : Str)
    (isStream : Bool) (requestID : Str) (accountID : Int) (request : UpstreamRequest) :
    Outcome io (receive down pathSuffix isStream requestID accountID request resp) := by
  unfold receive
  dsimp only
  split
  · exact .buffered request resp _ hanswer rfl rfl rfl
  split
  · exact .buffered request resp _ hanswer rfl rfl rfl
  rename_i hretry
  split
  next hnone => exact .panicked request resp hanswer (forwardStream_none hnone)
  next stream answer hsome =>
    exact .streamed request resp stream answer hanswer (Bool.eq_false_iff.mpr hretry)

theorem forward_outcome (down : Downstream) (method : Str) (clientHeader : Header)
    (target : UpstreamTarget) (pathSuffix : Str) (body : ReplayBody) (isStream : Bool)
    (requestID : Str) (io : Exchange) :
    Outcome io (forward down method clientHeader target pathSuffix body isStream requestID io) := by
  unfold forward
  dsimp only
  split
  · exact .failed _ _
  split
  · exact .failed _ _
  split
  · exact .failed _ _
  next resp hanswer => exact receive_outcome hanswer _ _ _ _ _ _

/-! ## What the handler does with a result -/

theorem writeResponse_written {result : ProxyResult} (h : result.written = true) :
    writeResponse result = some [] := by
  rw [writeResponse, if_pos h]

/-- A response that was not written yet is written, unless its status panics. -/
theorem writeResponse_unwritten {result : ProxyResult} (h : result.written = false) :
    (ValidStatus result.statusCode ∧ ∃ response, writeResponse result = some [.respond response]) ∨
      (¬ ValidStatus result.statusCode ∧ writeResponse result = none) := by
  rw [writeResponse, h, if_neg Bool.false_ne_true]
  split
  · exact Or.inl ⟨‹_›, _, rfl⟩
  · exact Or.inr ⟨‹_›, rfl⟩

/-- An attempt's last events, after its call of `Forward`: an answer unless the
stream was one, a record that counts the attempts, or a panic over the status. -/
structure Closes (c : Call) (a : Attempt) (result : ProxyResult) (events : List Event) : Prop where
  forwards : forwards events = []
  counted : ∀ record ∈ records events, record.attemptCount = a.st.attemptsUsed
  closed : .panic ∈ events ∧ result.written = false ∧ result.err = none ∧
      ¬ ValidStatus result.statusCode ∨
    (records events).length = 1 ∧
      (answers events).length = if result.written then 0 else 1

namespace Call

variable (c : Call) (a : Attempt)

/-- The log of an attempt closes it. -/
theorem closes_of_log {result : ProxyResult} {before after : List Event}
    (answer : List Response) (hbefore : Quiet before) (hafter : Quiet after)
    (hanswer : answer.length = if result.written then 0 else 1) (statusCode : Int)
    (success : Bool) (errMsg : Str) (usage : Usage) :
    Closes c a result (before ++ answer.map Event.respond ++ after ++
      [c.logAttempt a statusCode success errMsg usage]) := by
  have hforwards : forwards (answer.map Event.respond) = [] := by
    simp [Gateway.forwards, List.filterMap_map, Function.comp_def, Event.forward?]
  have hrecords : records (answer.map Event.respond) = [] := by
    simp [Gateway.records, List.filterMap_map, Function.comp_def, Event.record?]
  have hanswers : answers (answer.map Event.respond) = answer := by
    simp [Gateway.answers, List.filterMap_map, Function.comp_def, Event.answer?]
  refine ⟨?_, ?_, Or.inr ⟨?_, ?_⟩⟩
  · simp [hbefore.forwards, hafter.forwards, hforwards]
    rfl
  · intro record hrecord
    simp only [records_append, hbefore.records, hafter.records, hrecords, List.nil_append] at hrecord
    obtain rfl : record = _ := List.mem_singleton.mp hrecord
    exact Int.max_eq_left (Int.natCast_nonneg _)
  · simp only [records_append, hbefore.records, hafter.records, hrecords, List.nil_append]
    rfl
  · simp only [answers_append, hbefore.answers, hafter.answers, hanswers, List.nil_append,
      List.append_nil]
    rw [List.length_append, hanswer]
    rfl

theorem closes_of_panic {result : ProxyResult} {before : List Event} (hbefore : Quiet before)
    (hwritten : result.written = false) (herr : result.err = none)
    (hstatus : ¬ ValidStatus result.statusCode) :
    Closes c a result (before ++ [.panic]) := by
  have hrecords : records (before ++ [.panic]) = [] := by
    rw [records_append, hbefore.records]
    rfl
  refine ⟨?_, ?_, Or.inl ⟨by simp, hwritten, herr, hstatus⟩⟩
  · rw [forwards_append, hbefore.forwards]
    rfl
  · rw [hrecords]
    simp

/-- What a step is after a call of `Forward`. -/
inductive Handled (result : ProxyResult) : Step → Prop where
  | stop {events : List Event} (h : Closes c a result events) : Handled result (.stop events)
  | again {events : List Event} {st : LoopState} (hquiet : Quiet events)
    (hwritten : result.written = false)
    (hexclude : st.exclude = a.st.exclude ++ [a.route.accountID])
    (hused : st.attemptsUsed = a.st.attemptsUsed) : Handled result (.again events st)

theorem answerAndLog_handled {result : ProxyResult} (herr : result.err = none)
    (hwritten : result.written = false) (errMsg : Str) {before : List Event}
    (hbefore : Quiet before) : Handled c a result (c.answerAndLog a result errMsg before) := by
  unfold answerAndLog
  rcases writeResponse_unwritten hwritten with ⟨-, response, hwrite⟩ | ⟨hstatus, hwrite⟩
  · rw [hwrite]
    have hclose := c.closes_of_log a [response] hbefore quiet_nil
      (by rw [hwritten]; rfl) result.statusCode false errMsg result.usage
    rw [List.append_nil] at hclose
    exact .stop hclose
  · rw [hwrite]
    exact .stop (c.closes_of_panic a hbefore hwritten herr hstatus)

theorem handleError_handled {result : ProxyResult} (err : ProxyError)
    (hwritten : result.written = false) : Handled c a result (c.handleError a result err) := by
  unfold handleError
  dsimp only
  split
  · have hclose := c.closes_of_log a [writeGatewayError 502 (lit "upstream_failed") err.text]
      (quiet_append.mpr ⟨quiet_actIf a (result.healthImpact && c.req.isOrdinary)
          (.recordServingFailure a.route.accountID err.text),
        quiet_actIf a (isCpa a && c.req.observes)
          (.recordAccountDiagnosticObservation a.route.account
            ⟨lit "transient_error", lit "transient_error", lit "gateway request failed", 0,
              lit "upstream_request_failed", err.text⟩)⟩) quiet_nil
      (by rw [hwritten]; rfl) 0 false err.text {}
    rw [List.append_nil, List.append_assoc] at hclose
    exact .stop hclose
  · exact .again (quiet_append.mpr ⟨quiet_actIf _ _ _, quiet_actIf _ _ _⟩) hwritten rfl rfl

theorem handleRetryableStatus_handled {result : ProxyResult} (herr : result.err = none)
    (hwritten : result.written = false) :
    Handled c a result (c.handleRetryableStatus a result) := by
  unfold handleRetryableStatus
  dsimp only
  split
  · exact c.answerAndLog_handled a herr hwritten _ (quiet_actIf _ _ _)
  split
  · refine c.answerAndLog_handled a herr hwritten _ ?_
    split
    · exact quiet_rejectCredential _ _ _ _
    · exact quiet_nil
  have hacts := fun errMsg action => quiet_append.mpr ⟨c.quiet_observeRetryable a result errMsg,
    quiet_actIf a (result.healthImpact && c.req.isOrdinary) action⟩
  split
  · exact c.answerAndLog_handled a herr hwritten _ (hacts _ _)
  · exact .again (hacts _ _) hwritten rfl rfl

theorem handleFinal_handled {result : ProxyResult} (herr : result.err = none) :
    Handled c a result (c.handleFinal a result) := by
  unfold handleFinal
  generalize verdict result = v
  obtain ⟨success, errMsg⟩ := v
  have hacts : Quiet (if success then c.recordSuccess a result.statusCode
      else c.recordFailure a result errMsg) := by
    split
    · exact c.quiet_recordSuccess a _
    · exact c.quiet_recordFailure a _ _
  cases hwritten : result.written with
  | true =>
    rw [writeResponse_written hwritten]
    exact .stop (c.closes_of_log a [] quiet_nil hacts (by rw [hwritten]; rfl) _ _ _ _)
  | false =>
    rcases writeResponse_unwritten hwritten with ⟨-, response, hwrite⟩ | ⟨hstatus, hwrite⟩
    · rw [hwrite]
      exact .stop (c.closes_of_log a [response] quiet_nil hacts
        (by rw [hwritten]; rfl) _ _ _ _)
    · rw [hwrite]
      exact .stop (c.closes_of_panic a quiet_nil hwritten herr hstatus)

/-- A result of `Forward` that has an error or is to be retried is not written
yet. -/
theorem handleResult_handled {result : ProxyResult}
    (hwritten : result.err.isSome ∨ isRetryableStatus result.statusCode = true →
      result.written = false) :
    Handled c a result (c.handleResult a result) := by
  unfold handleResult
  split
  next err herr => exact c.handleError_handled a err (hwritten (Or.inl (by simp [herr])))
  next herr =>
    split
    next hretry => exact c.handleRetryableStatus_handled a herr (hwritten (Or.inr hretry))
    · exact c.handleFinal_handled a herr

/-- The three ways a result is handled. -/
theorem handleResult_error {result : ProxyResult} {err : ProxyError} (herr : result.err = some err) :
    c.handleResult a result = c.handleError a result err := by
  rw [handleResult, herr]

theorem handleResult_retryable {result : ProxyResult} (herr : result.err = none)
    (hretry : isRetryableStatus result.statusCode = true) :
    c.handleResult a result = c.handleRetryableStatus a result := by
  rw [handleResult, herr]
  exact if_pos hretry

theorem handleResult_final {result : ProxyResult} (herr : result.err = none)
    (hretry : isRetryableStatus result.statusCode = false) :
    c.handleResult a result = c.handleFinal a result := by
  rw [handleResult, herr]
  exact if_neg (Bool.eq_false_iff.mp hretry)

/-! ## What an attempt can do -/

/-- The upstream answers the attempt with a status that cannot be written. -/
def BadStatus (k : Nat) : Prop :=
  ∃ resp, (c.env.attempts k).exchange.answer = .response resp ∧ ¬ ValidStatus resp.statusCode

/-- The attempt starts: its wait, if it has one, can be drawn. -/
def Starts (k : Nat) : Prop := k = 0 ∨ backoffPanics k = false

/-- The ways an attempt can go, and what it contributes to the run. -/
inductive Ran (first : ResolvedRoute) (k : Nat) (st : LoopState) : Step → Prop where
  | backoff (hstart : ¬ Starts k) : Ran first k st (.stop [.panic])
  | noRoute {err : RouteError} (hstart : Starts k)
    (hroute : c.nextRoute first k st = .error err) :
    Ran first k st (.leave [] { st with attemptsUsed := k + 1 })
  | noBinding {route : ResolvedRoute} {err : BindError} {events : List Event}
    (hstart : Starts k) (hroute : c.nextRoute first k st = .ok route)
    (hbind : (c.bind k route).1 = .error err) (hforwards : forwards events = [])
    (hrecords : ∃ record, records events = [record] ∧ record.attemptCount = 0)
    (hanswers : (answers events).length = 1) : Ran first k st (.stop events)
  | stopped {route : ResolvedRoute} {binding : Option RuntimeBinding} {events : List Event}
    (hstart : Starts k) (hroute : c.nextRoute first k st = .ok route)
    (hbind : (c.bind k route).1 = .ok binding)
    (hforwards : forwards events = [(k, route.accountID)])
    (hcounted : ∀ record ∈ records events, record.attemptCount = (k + 1 : Nat))
    (hclosed : c.BadStatus k ∨ (records events).length = 1 ∧ (answers events).length = 1) :
    Ran first k st (.stop events)
  | again {route : ResolvedRoute} {binding : Option RuntimeBinding} {events : List Event}
    {next : LoopState} (hstart : Starts k) (hroute : c.nextRoute first k st = .ok route)
    (hbind : (c.bind k route).1 = .ok binding)
    (hforwards : forwards events = [(k, route.accountID)]) (hrecords : records events = [])
    (hanswers : answers events = []) (hexclude : next.exclude = st.exclude ++ [route.accountID])
    (hused : next.attemptsUsed = k + 1) : Ran first k st (.again events next)

theorem quiet_bind (k : Nat) (effects : List Effect) : Quiet (effects.map (Event.bind k)) := by
  intro e he
  obtain ⟨effect, -, rfl⟩ := List.mem_map.mp he
  rfl

/-- The events up to the result of `Forward`, and the handling of that result. -/
theorem forwardAndHandle_eq (binding : Option RuntimeBinding) :
    c.forwardAndHandle a binding =
      match (c.forwardTo a.number a.route binding).result with
      | none => .stop (.forward a.number a.route.accountID
          (c.forwardTo a.number a.route binding).request ::
          ((c.forwardTo a.number a.route binding).answered.map Event.respond).toList ++ [.panic])
      | some result => (c.handleResult a result).after (.forward a.number a.route.accountID
          (c.forwardTo a.number a.route binding).request ::
          ((c.forwardTo a.number a.route binding).answered.map Event.respond).toList) := rfl

/-- An attempt whose upstream answered. -/
theorem forwardTo_received {c : Call} {k : Nat} {route : ResolvedRoute} {binding : Option RuntimeBinding}
    {data host : Str} {resp : UpstreamResponse}
    (hbody : c.body.reader (c.env.attempts k).exchange.openErr.isNone = some data)
    (hrequest : (c.env.attempts k).exchange.request = .ok host)
    (hanswer : (c.env.attempts k).exchange.answer = .response resp) :
    ∃ request accountID, c.forwardTo k route binding =
      receive c.env.downstream (extractPathSuffix c.req.path) c.isStream c.env.requestID accountID
        request resp := by
  unfold forwardTo forward
  dsimp only
  rw [hbody, hrequest, hanswer]
  exact ⟨_, _, rfl⟩

/-- An attempt that calls `Forward`. -/
inductive ForwardRan : Step → Prop where
  | stopped {events : List Event} (hforwards : forwards events = [(a.number, a.route.accountID)])
    (hcounted : ∀ record ∈ records events, record.attemptCount = a.st.attemptsUsed)
    (hclosed : c.BadStatus a.number ∨
      (records events).length = 1 ∧ (answers events).length = 1) :
    ForwardRan (.stop events)
  | again {events : List Event} {next : LoopState}
    (hforwards : forwards events = [(a.number, a.route.accountID)])
    (hrecords : records events = []) (hanswers : answers events = [])
    (hexclude : next.exclude = a.st.exclude ++ [a.route.accountID])
    (hused : next.attemptsUsed = a.st.attemptsUsed) :
    ForwardRan (.again events next)

/-- The handling of a result, with the events of the call of `Forward` before
it. -/
theorem ForwardRan.of_handled {result : ProxyResult} {step : Step}
    (h : Handled c a result step) {before : List Event} {answered : List Response}
    (hforwards : forwards before = [(a.number, a.route.accountID)]) (hrecords : records before = [])
    (hanswers : answers before = answered)
    (hlength : answered.length = if result.written then 1 else 0)
    (hstatus : result.err = none → ¬ ValidStatus result.statusCode → c.BadStatus a.number) :
    ForwardRan c a (step.after before) := by
  cases h with
  | stop hcloses =>
    refine .stopped ?_ ?_ ?_
    · rw [forwards_append, hforwards, hcloses.forwards]
      rfl
    · intro record hrecord
      rw [records_append, hrecords, List.nil_append] at hrecord
      exact hcloses.counted record hrecord
    · rcases hcloses.closed with ⟨-, -, herr, hinvalid⟩ | ⟨hrec, hans⟩
      · exact Or.inl (hstatus herr hinvalid)
      · refine Or.inr ⟨?_, ?_⟩
        · rw [records_append, hrecords]
          exact hrec
        · rw [answers_append, List.length_append, hanswers, hlength, hans]
          cases result.written <;> rfl
  | again hquiet hwritten hexclude hused =>
    refine .again ?_ ?_ ?_ hexclude hused
    · rw [forwards_append, hforwards, hquiet.forwards]
      rfl
    · rw [records_append, hrecords, hquiet.records]
      rfl
    · rw [answers_append, hanswers, hquiet.answers, List.append_nil]
      rw [hwritten] at hlength
      exact List.length_eq_zero_iff.mp hlength

theorem forwardAndHandle_ran (binding : Option RuntimeBinding) :
    ForwardRan c a (c.forwardAndHandle a binding) := by
  rw [forwardAndHandle_eq]
  have houtcome := forward_outcome c.env.downstream c.req.method c.req.header
    (resolveTarget (c.env.attempts a.number).targetSnap a.route.account binding)
    (extractPathSuffix c.req.path) c.body c.isStream c.env.requestID
    (c.env.attempts a.number).exchange
  change Outcome _ (c.forwardTo a.number a.route binding) at houtcome
  generalize c.forwardTo a.number a.route binding = forwarded at houtcome
  cases houtcome with
  | failed request err =>
    exact ForwardRan.of_handled c a (c.handleResult_handled a fun _ => rfl) rfl rfl
      rfl rfl (fun herr => by contradiction)
  | panicked request resp hanswer hstatus =>
    exact .stopped rfl (fun record hrecord => absurd hrecord List.not_mem_nil)
      (Or.inl ⟨resp, hanswer, hstatus⟩)
  | buffered request resp result hanswer herr hstatus hwritten =>
    exact ForwardRan.of_handled c a (c.handleResult_handled a fun _ => hwritten)
      rfl rfl rfl (by rw [hwritten]; rfl) (fun _ hinvalid => ⟨resp, hanswer, hstatus ▸ hinvalid⟩)
  | streamed request resp stream answer hanswer hretry =>
    have hhandled : Handled c a
        { statusCode := resp.statusCode, usage := stream.usage, stream := some stream,
          written := true }
        (c.handleResult a
          { statusCode := resp.statusCode, usage := stream.usage, stream := some stream,
            written := true }) := by
      refine c.handleResult_handled a fun h => ?_
      rcases h with herr | hretry'
      · contradiction
      · exact absurd (hretry.symm.trans hretry') Bool.false_ne_true
    exact ForwardRan.of_handled c a hhandled rfl rfl rfl rfl
      (fun _ hinvalid => ⟨resp, hanswer, hinvalid⟩)

theorem tryRoute_ran {first : ResolvedRoute} {k : Nat} (last : Bool) {st : LoopState}
    {route : ResolvedRoute} (hstart : Starts k) (hroute : c.nextRoute first k st = .ok route) :
    c.Ran first k st (c.tryRoute k last { st with attemptsUsed := k + 1 } route) := by
  unfold tryRoute
  dsimp only
  have hquiet := quiet_bind k (c.bind k route).2
  split
  next err hbind =>
    refine .noBinding hstart hroute hbind ?_ ?_ ?_
    · rw [forwards_append, hquiet.forwards]
      rfl
    · rw [records_append, hquiet.records]
      exact ⟨_, rfl, rfl⟩
    · rw [answers_append, hquiet.answers]
      rfl
  next binding hbind =>
    generalize hattempt : Attempt.mk k last route _ _ = a
    have hran := c.forwardAndHandle_ran a binding
    have hnumber : a.number = k := hattempt ▸ rfl
    have haroute : a.route = route := hattempt ▸ rfl
    have hused : a.st.attemptsUsed = k + 1 := hattempt ▸ rfl
    have hexclude : a.st.exclude = st.exclude := hattempt ▸ rfl
    generalize c.forwardAndHandle a binding = step at hran
    cases hran with
    | stopped hforwards hcounted hclosed =>
      refine .stopped hstart hroute hbind ?_ ?_ ?_
      · rw [forwards_append, hquiet.forwards, hforwards, hnumber, haroute]
        rfl
      · rw [records_append, hquiet.records]
        rw [hused] at hcounted
        exact hcounted
      · rw [records_append, hquiet.records, answers_append, hquiet.answers]
        rw [hnumber] at hclosed
        exact hclosed
    | again hforwards hrecords hanswers hnext hnextUsed =>
      refine .again hstart hroute hbind ?_ ?_ ?_ ?_ ?_
      · rw [forwards_append, hquiet.forwards, hforwards, hnumber, haroute]
        rfl
      · rw [records_append, hquiet.records, hrecords]
        rfl
      · rw [answers_append, hquiet.answers, hanswers]
        rfl
      · rw [hnext, hexclude, haroute]
      · rw [hnextUsed, hused]

/-- Everything an attempt can do. -/
theorem runAttempt_ran (first : ResolvedRoute) (k : Nat) (last : Bool) (st : LoopState) :
    c.Ran first k st (c.runAttempt first k last st) := by
  unfold runAttempt
  dsimp only
  split
  next hpanic =>
    refine .backoff ?_
    rintro (hzero | hdraws)
    · exact hpanic.1 hzero
    · exact absurd (hpanic.2.symm.trans hdraws) (by decide)
  next hpanic =>
    have hstart : Starts k := by
      by_cases hzero : k = 0
      · exact Or.inl hzero
      · exact Or.inr (Bool.eq_false_iff.mpr fun h => hpanic ⟨hzero, h⟩)
    split
    next err hroute => exact .noRoute hstart hroute
    next route hroute => exact c.tryRoute_ran last hstart hroute

/-- Resolving the binding of a forwarded request has no effect. -/
theorem bind_effects (k : Nat) (route : ResolvedRoute) : (c.bind k route).2 = [] := by
  unfold bind resolveForwardRuntimeBinding
  split
  · rfl
  split
  · rfl
  next checker _ =>
    have hreadOnly := resolveRuntimeBinding_readOnly checker (c.env.attempts k).runtime route.account
      true
    split
    next err effects hrun =>
      rw [hrun] at hreadOnly
      exact hreadOnly
    next binding effects hrun =>
      rw [hrun] at hreadOnly
      dsimp only
      split
      · exact hreadOnly
      split <;> exact hreadOnly

/-- An attempt with a route and a binding is its call of `Forward` and the
handling of the result. -/
theorem runAttempt_eq {first route : ResolvedRoute} {k : Nat} {st : LoopState}
    {binding : Option RuntimeBinding} (hstart : Starts k)
    (hroute : c.nextRoute first k st = .ok route) (hbind : (c.bind k route).1 = .ok binding)
    (last : Bool) :
    ∃ a, a.number = k ∧ a.route = route ∧
      c.runAttempt first k last st = c.forwardAndHandle a binding := by
  have hroute' : c.nextRoute first k { st with attemptsUsed := k + 1 } = .ok route := hroute
  have hdraws : ¬ (k ≠ 0 ∧ backoffPanics k = true) := by
    rintro ⟨hzero, hpanics⟩
    rcases hstart with h | h
    · exact hzero h
    · exact absurd (h.symm.trans hpanics) Bool.false_ne_true
  unfold runAttempt
  dsimp only
  rw [if_neg hdraws, hroute']
  dsimp only
  unfold tryRoute
  dsimp only
  rw [c.bind_effects k route, hbind]
  exact ⟨_, rfl, rfl, Step.after_nil _⟩

theorem maxRetries_le : c.maxRetries ≤ max 1 (getMaxRetries c.env.retrySnap) := by
  unfold maxRetries
  split <;> omega

theorem maxRetries_pos : 0 < c.maxRetries := by
  unfold maxRetries
  split
  · exact Nat.one_pos
  · exact getMaxRetries_pos _

/-- A forced account and a diagnostic request get one attempt. -/
theorem maxRetries_of_single (h : c.req.forceAccountID.isSome ∨ c.req.isDiagnostic = true) :
    c.maxRetries = 1 := by
  unfold maxRetries
  rw [if_pos]
  simpa using h

end Call

/-! ## From a request to its call -/

theorem prepare_ok {env : Env} {r : Request} {c : Call} (h : prepare env r = .ok c) :
    c.env = env ∧ c.req = r := by
  unfold prepare at h
  dsimp only at h
  split at h
  · contradiction
  · contradiction
  split at h
  · contradiction
  split at h
  · contradiction
  obtain rfl := Except.ok.inj h
  exact ⟨rfl, rfl⟩

theorem prepare_error {env : Env} {r : Request} {events : List Event}
    (h : prepare env r = .error events) :
    ∃ status code message stream, events = reject env r status code message stream := by
  unfold prepare at h
  dsimp only at h
  split at h
  · exact ⟨_, _, _, _, (Except.error.inj h).symm⟩
  · exact ⟨_, _, _, _, (Except.error.inj h).symm⟩
  split at h
  · exact ⟨_, _, _, _, (Except.error.inj h).symm⟩
  split at h
  · exact ⟨_, _, _, _, (Except.error.inj h).symm⟩
  · contradiction

/-! ## Properties of all events -/

/-- Events that neither write nor read anything back. -/
def Event.calm : Event → Bool
  | bind _ _ | act _ _ => false
  | _ => true

/-- What holds of the calm events and of every attempt's events holds of every
event of the retry loop. -/
theorem Call.forall_retryLoop (c : Call) (first : ResolvedRoute) {P : Event → Prop}
    (hcalm : ∀ e, e.calm = true → P e)
    (hstep : ∀ k last st, ∀ e ∈ (c.runAttempt first k last st).events, P e)
    (k : Nat) (st : LoopState) (left : Nat) : ∀ e ∈ c.retryLoop first k st left, P e := by
  have hexhausted : ∀ st, ∀ e ∈ c.exhausted st, P e := by
    intro st e he
    apply hcalm e
    unfold exhausted at he
    simp only [List.mem_cons, List.not_mem_nil, or_false] at he
    rcases he with rfl | rfl <;> rfl
  induction left generalizing k st with
  | zero => exact hexhausted st
  | succ left ih =>
    rw [retryLoop]
    have hevents := hstep k (left == 0) st
    generalize c.runAttempt first k (left == 0) st = step at hevents
    cases step with
    | stop events => exact hevents
    | leave events next =>
      intro e he
      rcases List.mem_append.mp he with he | he
      · exact hevents e he
      · exact hexhausted next e he
    | again events next =>
      intro e he
      rcases List.mem_append.mp he with he | he
      · exact hevents e he
      · exact ih (k + 1) next e he

/-- The same for a whole request. -/
theorem forall_serveHTTP {env : Env} {r : Request} {P : Event → Prop}
    (hcalm : ∀ e, e.calm = true → P e)
    (hstep : ∀ c, prepare env r = .ok c → ∀ first k last st,
      ∀ e ∈ (c.runAttempt first k last st).events, P e) :
    ∀ e ∈ serveHTTP env r, P e := by
  unfold serveHTTP
  split
  · intro e he
    obtain rfl := List.mem_singleton.mp he
    exact hcalm _ rfl
  split
  next events hprepare =>
    obtain ⟨status, code, message, stream, rfl⟩ := prepare_error hprepare
    intro e he
    apply hcalm e
    simp only [reject, logRequest, List.mem_cons, List.not_mem_nil, or_false] at he
    rcases he with rfl | rfl <;> rfl
  next c hprepare =>
    unfold Call.serve
    split
    next err _ =>
      intro e he
      apply hcalm e
      cases err <;>
        (simp only [Call.refuseRoute, Call.log, logRequest, List.mem_cons, List.not_mem_nil,
          or_false] at he
         rcases he with rfl | rfl <;> rfl)
    next route _ =>
      exact c.forall_retryLoop route hcalm (hstep c hprepare route) 0 {} c.maxRetries

/-! ## A pool with one token

A small setting in which runs can be evaluated: pool 1 with the given accounts
as its members, no binder, and an upstream that answers each attempt. -/

/-- The snapshot of the pool. -/
def poolSnap (accounts : List Account) : CacheSnapshot where
  pools := Table.ofList [(1, { id := 1 })]
  accounts := Table.ofList (accounts.map fun acc => (acc.id, acc))
  members := Table.ofList
    [(1, accounts.map fun acc =>
      { id := acc.id, poolID := 1, accountID := acc.id, account := some acc })]

/-- An attempt on the pool. -/
def poolAttempt (accounts : List Account) (answer : Answer) : AttemptEnv where
  view := { snap := poolSnap accounts, clock := default }
  traceView := { snap := poolSnap accounts, clock := default }
  policySnap := poolSnap accounts
  runtime :=
    { snap := poolSnap accounts
      now := default
      authFile := fun _ => .error .notExist
      listing := ⟨fun _ => .ok [], fun _ => none⟩
      reload := .ok ()
      listingAfterReload := ⟨fun _ => .ok [], fun _ => none⟩ }
  targetSnap := poolSnap accounts
  exchange := { request := .ok (lit "upstream"), answer := answer }
  actions := { store := { now := default, digest := fun _ => [] } }

/-- A run on the pool. -/
def poolEnv (accounts : List Account) (answer : Nat → Answer) : Env where
  initialTraceView := { snap := poolSnap accounts, clock := default }
  attempts := fun k => poolAttempt accounts (answer k)

/-- A request for the model `m` with a token of the pool. -/
def chatRequest (stream : Bool) : Request where
  path := lit "/v1/chat/completions"
  body :=
    { data := lit "\x7b\"model\":\"m\",\"stream\":" ++
        (if stream then lit "true" else lit "false") ++ lit "\x7d" }
  accessToken := some { id := 1, poolID := some 1 }

/-- An account that takes traffic. -/
def healthyAccount (id : Int) : Account := { id := id, status := lit "healthy" }

/-- The call of a request on a pool of one account. -/
def callFor (account : Account) (answer : Answer) : Call where
  env := poolEnv [account] fun _ => answer
  req := chatRequest false
  body := { data := [] }
  model := lit "m"
  isStream := false

/-- A first attempt for an account. -/
def attemptFor (account : Account) : Attempt where
  number := 0
  last := false
  route := { poolID := 1, targetModel := lit "m", accountID := account.id, account := account }
  binding := {}
  st := { attemptsUsed := 1 }

/-- Two accounts: the first attempt is answered with `500`, the second with
`200`. -/
def retriedEnv : Env :=
  poolEnv [healthyAccount 7, healthyAccount 8] fun k =>
    .response (if k = 0 then { statusCode := 500 } else okResponse)

end Lune.Gateway
