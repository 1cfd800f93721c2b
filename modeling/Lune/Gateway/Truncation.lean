import Lune.Gateway.Answers

/-!
# Answers that were cut off

An answer whose body breaks off after its headers is no success: the request is
not to be logged as one, the account is not to be marked as serving, and the
answer passed on is not to declare a length that its body does not have.

For a request without a stream the handler keeps the status of such an answer,
puts a body of its own in the place of what was read, and goes on as after any
other answer.  So every `2xx` that was cut off counts as a success.
-/

namespace Lune.Gateway

open GoText Keyed HttpHeader Lune.Store Lune.Router Lune.Health

/-- What a run that meets an answer cut off should be. -/
structure TruncationSafe (env : Env) (events : List Event) : Prop where
  notLogged : ∀ record ∈ records events, record.success = false
  notMarked : ∀ accountID, .markAccountServingSuccess accountID ∉ statements env events
  length : ∀ response ∈ answers events,
    ∀ v ∈ values response.header (lit "Content-Length"), v = itoa response.body.length

/-- A run that logs a success is none. -/
theorem not_truncationSafe_of_success {env : Env} {events : List Event} {record : RequestLog}
    (hrecord : record ∈ records events) (hsuccess : record.success = true) :
    ¬ TruncationSafe env events := by
  intro hsafe
  have hfailure := hsafe.notLogged record hrecord
  exact absurd (hfailure.symm.trans hsuccess) Bool.false_ne_true

namespace Call

variable {c : Call}

/-- The upstream answers an attempt with a `2xx` whose body breaks off. -/
structure Truncated (c : Call) (k : Nat) (resp : UpstreamResponse) : Prop where
  body : ∃ data, c.body.reader (c.env.attempts k).exchange.openErr.isNone = some data
  request : ∃ host, (c.env.attempts k).exchange.request = .ok host
  answer : (c.env.attempts k).exchange.answer = .response resp
  status : 200 ≤ resp.statusCode ∧ resp.statusCode < 300
  cut : resp.readErr.isSome = true

/-- An answer that was kept is a success by its status alone. -/
theorem verdict_success {result : ProxyResult} (hstream : result.stream = none)
    (hstatus : 200 ≤ result.statusCode ∧ result.statusCode < 400) :
    verdict result = (true, []) := by
  have hsuccess : (200 ≤ result.statusCode && result.statusCode < 400) = true := by
    rw [Bool.and_eq_true, decide_eq_true_eq, decide_eq_true_eq]
    exact hstatus
  unfold verdict
  rw [hstream, hsuccess]
  rfl

/-- An attempt that is answered with a `2xx` cut off logs a success. -/
theorem Truncated.logs_success {a : Attempt} {resp : UpstreamResponse}
    (h : c.Truncated a.number resp) (hstream : c.isStream = false)
    (binding : Option RuntimeBinding) :
    ∃ events, c.forwardAndHandle a binding = .stop events ∧
      ∃ record ∈ records events, record.success = true := by
  obtain ⟨⟨data, hbody⟩, ⟨host, hrequest⟩, hanswer, hstatus, -⟩ := h
  obtain ⟨request, accountID, hforward⟩ := forwardTo_received hbody hrequest hanswer
  rw [receive, hstream, Bool.not_false, if_pos rfl] at hforward
  generalize hkept : bufferedResult resp (responseHeader resp c.env.requestID accountID) = result
    at hforward
  have hcode : result.statusCode = resp.statusCode := hkept ▸ rfl
  have hunwritten : result.written = false := hkept ▸ rfl
  have hretry : isRetryableStatus result.statusCode = false := by
    rw [isRetryableStatus, Bool.or_eq_false_iff, beq_eq_false_iff_ne, decide_eq_false_iff_not]
    omega
  obtain ⟨answer, hwrite⟩ : ∃ answer, writeResponse result = some answer := by
    rcases writeResponse_unwritten hunwritten with ⟨-, response, hwrite⟩ | ⟨hinvalid, -⟩
    · exact ⟨_, hwrite⟩
    · exact absurd ⟨by omega, by omega⟩ hinvalid
  obtain ⟨record, hlog, hsuccess⟩ : ∃ record,
      records [c.logAttempt a result.statusCode true [] result.usage] = [record] ∧
        record.success = true := ⟨_, rfl, rfl⟩
  rw [forwardAndHandle_eq, hforward]
  dsimp only
  rw [c.handleResult_final a (hkept ▸ rfl) hretry, handleFinal, hwrite,
    verdict_success (hkept ▸ rfl) ⟨by omega, by omega⟩]
  refine ⟨_, rfl, record, ?_, hsuccess⟩
  rw [records_append, records_append, hlog]
  exact List.mem_append_right _ (List.mem_append_right _ (List.mem_singleton.mpr rfl))

end Call

/-- No request without a stream that is answered with a `2xx` cut off ends as it
should, on whichever attempt that happens. -/
theorem truncated_answer_is_a_success {env : Env} {r : Request} {c : Call}
    {first route : ResolvedRoute} {k : Nat} {st : LoopState} {binding : Option RuntimeBinding}
    {resp : UpstreamResponse} (hmodels : r.asksForModels = false)
    (hprepare : prepare env r = .ok c) (hfirst : c.resolve = .ok first)
    (hreached : Call.Reached c first k st) (hstart : Call.Starts k)
    (hroute : c.nextRoute first k st = .ok route) (hbind : (c.bind k route).1 = .ok binding)
    (hstream : c.isStream = false) (htruncated : c.Truncated k resp) :
    ¬ TruncationSafe env (serveHTTP env r) := by
  obtain ⟨rfl, -⟩ := prepare_ok hprepare
  obtain ⟨hlt, before, -, -, hrun⟩ := hreached.run c.maxRetries_pos
  obtain ⟨left, hleft⟩ : ∃ left, c.maxRetries - k = left + 1 := ⟨c.maxRetries - k - 1, by omega⟩
  obtain ⟨a, rfl, -, hattempt⟩ := c.runAttempt_eq hstart hroute hbind (left == 0)
  obtain ⟨events, hstop, record, hrecord, hsuccess⟩ := htruncated.logs_success hstream binding
  have hserve : serveHTTP c.env r = before ++ events := by
    rw [serveHTTP, hmodels, if_neg Bool.false_ne_true, hprepare]
    show c.serve = _
    rw [Call.serve, hfirst]
    show c.retryLoop first 0 {} c.maxRetries = _
    rw [hrun, hleft, Call.retryLoop, hattempt, hstop]
  rw [hserve]
  apply not_truncationSafe_of_success _ hsuccess
  rw [records_append]
  exact List.mem_append_right _ hrecord

/-- A hundred bytes are declared, and one is sent. -/
def cutResponse : UpstreamResponse where
  statusCode := 200
  final := okResponse.final
  header := set Table.empty (lit "Content-Length") (lit "100")
  body := lit "x"
  readErr := some { text := lit "unexpected EOF" }

/-- An upstream that is cut off. -/
def cutEnv : Env := poolEnv [healthyAccount 7] fun _ => .response cutResponse

/-- A call on that upstream. -/
theorem truncated_cutEnv {c : Call} (henv : c.env = cutEnv)
    (hreads : (c.body.reader true).isSome = true) : c.Truncated 0 cutResponse := by
  have hattempt : c.env.attempts 0 = poolAttempt [healthyAccount 7] (.response cutResponse) := by
    rw [henv]
    rfl
  refine ⟨?_, ⟨lit "upstream", ?_⟩, ?_, ?_, rfl⟩
  · rw [hattempt]
    exact Option.isSome_iff_exists.mp hreads
  · rw [hattempt]
    rfl
  · rw [hattempt]
    rfl
  · decide

/-- The first attempt is cut off. -/
theorem truncated_answer_is_a_success_cut :
    ¬ TruncationSafe cutEnv (serveHTTP cutEnv (chatRequest false)) := by
  have hprepared : (prepare cutEnv (chatRequest false)).isOk = true := by decide +kernel
  have hresolved : ((prepare cutEnv (chatRequest false)).toOption.map fun c => c.resolve.isOk) =
      some true := by decide +kernel
  have hcall : ((prepare cutEnv (chatRequest false)).toOption.map fun c =>
      (c.isStream, c.resolve.toOption.map fun first => (c.bind 0 first).1.isOk,
        (c.body.reader true).isSome)) = some (false, some true, true) := by decide +kernel
  have hmodels : (chatRequest false).asksForModels = false := by decide +kernel
  obtain ⟨c, hprepare⟩ := exists_of_isOk hprepared
  obtain ⟨henv, -⟩ := prepare_ok hprepare
  rw [hprepare] at hresolved hcall
  obtain ⟨first, hfirst⟩ := exists_of_isOk (Option.some.inj hresolved)
  obtain ⟨hstream, hrest⟩ := Prod.mk.inj (Option.some.inj hcall)
  obtain ⟨hbinds, hreads⟩ := Prod.mk.inj hrest
  rw [hfirst] at hbinds
  obtain ⟨binding, hbind⟩ := exists_of_isOk (Option.some.inj hbinds)
  exact truncated_answer_is_a_success hmodels hprepare hfirst .start (Or.inl rfl)
    (Call.nextRoute_zero {}) hbind hstream (truncated_cutEnv henv hreads)

/-- The request counts as a success, account 7 as serving, and the answer
declares a hundred bytes over a body of fewer. -/
theorem cut_answer_counts_as_success :
    (records (serveHTTP cutEnv (chatRequest false))).map RequestLog.success = [true] ∧
      ((statements cutEnv (serveHTTP cutEnv (chatRequest false))).any fun
        | .markAccountServingSuccess accountID => accountID == 7
        | _ => false) = true ∧
      ((answers (serveHTTP cutEnv (chatRequest false))).map fun response =>
        (values response.header (lit "Content-Length"), response.body.length)) =
        [([lit "100"], 56)] := by
  refine ⟨by decide +kernel, by decide +kernel, by decide +kernel⟩

end Lune.Gateway
