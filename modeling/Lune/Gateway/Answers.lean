import Lune.Gateway.Run

/-!
# One answer, one record, and the attempts it counts

Every request ends with one answer to the client and one record in the request
log.  The record counts the attempts, which is the number of upstream calls
unless a retry finds no route or no binding.
-/

namespace Lune.Gateway

open GoText Keyed HttpHeader Lune.Store Lune.Router Lune.Health

namespace Call

variable (c : Call)

/-! ## One answer and one record -/

theorem starts_of_le {k : Nat} (h : k ≤ 30) : Starts k := by
  have hdraws : ∀ k < 31, k = 0 ∨ backoffPanics k = false := by decide +kernel
  exact hdraws k (by omega)

theorem records_exhausted (st : LoopState) : ∃ record, records (c.exhausted st) = [record] ∧
    record.attemptCount = st.attemptsUsed :=
  ⟨_, rfl, Int.max_eq_left (Int.natCast_nonneg _)⟩

/-- A list of events with one answer and one record. -/
def AnswersOnce (events : List Event) : Prop :=
  (answers events).length = 1 ∧ (records events).length = 1

/-- A loop whose waits can be drawn and whose upstream has valid statuses. -/
theorem answersOnce_retryLoop (first : ResolvedRoute) (hstatus : ∀ k, ¬ c.BadStatus k) (k : Nat)
    (st : LoopState) (left : Nat) (hstart : ∀ j < k + left, Starts j) :
    AnswersOnce (c.retryLoop first k st left) := by
  induction left generalizing k st with
  | zero => exact ⟨rfl, rfl⟩
  | succ left ih =>
    rw [retryLoop]
    have hran := c.runAttempt_ran first k (left == 0) st
    generalize c.runAttempt first k (left == 0) st = step at hran
    cases hran with
    | backoff hno => exact absurd (hstart k (by omega)) hno
    | noRoute => exact ⟨rfl, rfl⟩
    | noBinding _ _ _ _ hrecords hanswers =>
      obtain ⟨record, hrecord, -⟩ := hrecords
      exact ⟨hanswers, congrArg List.length hrecord⟩
    | stopped _ _ _ _ _ hclosed =>
      rcases hclosed with hbad | ⟨hrecords, hanswers⟩
      · exact absurd hbad (hstatus k)
      · exact ⟨hanswers, hrecords⟩
    | @again route binding events next _ _ _ _ hrecords hanswers =>
      have hrest := ih (k + 1) next (fun j hj => hstart j (by omega))
      dsimp only
      rw [AnswersOnce, answers_append, records_append, hrecords, hanswers]
      exact hrest

theorem answersOnce_refuseRoute (err : RouteError) : AnswersOnce (c.refuseRoute err) := by
  cases err <;> exact ⟨rfl, rfl⟩

end Call

/-- Every request but that for the models gets exactly one answer, and exactly
one record goes to the log, when the statuses of the upstream can be written. -/
theorem one_answer_one_record (env : Env) (r : Request) (hmodels : r.asksForModels = false)
    (hretries : getMaxRetries env.retrySnap ≤ 30)
    (hstatus : ∀ k resp, (env.attempts k).exchange.answer = .response resp →
      ValidStatus resp.statusCode) :
    (answers (serveHTTP env r)).length = 1 ∧ (records (serveHTTP env r)).length = 1 := by
  unfold serveHTTP
  rw [hmodels, if_neg Bool.false_ne_true]
  split
  next events hprepare =>
    obtain ⟨status, code, message, stream, rfl⟩ := prepare_error hprepare
    exact ⟨rfl, rfl⟩
  next c hprepare =>
    obtain ⟨henv, -⟩ := prepare_ok hprepare
    unfold Call.serve
    split
    · exact c.answersOnce_refuseRoute _
    · refine c.answersOnce_retryLoop _ ?_ 0 {} c.maxRetries ?_
      · rintro k ⟨resp, hanswer, hinvalid⟩
        rw [henv] at hanswer
        exact hinvalid (hstatus k resp hanswer)
      · intro j hj
        have hle := c.maxRetries_le
        rw [henv] at hle
        exact Call.starts_of_le (by omega)

/-- One account whose upstream answers `200`. -/
theorem one_answer_one_record_ok :
    (answers (serveHTTP (poolEnv [healthyAccount 7] fun _ => .response { statusCode := 200 })
        (chatRequest false))).length = 1 ∧
      (records (serveHTTP (poolEnv [healthyAccount 7] fun _ => .response { statusCode := 200 })
        (chatRequest false))).length = 1 := by
  refine one_answer_one_record _ _ (by decide +kernel) (by decide +kernel) ?_
  intro k resp hanswer
  obtain rfl := Answer.response.inj hanswer
  decide

/-- `WriteHeader` panics on the status 99, which leaves the client without an
answer and the log without a record. -/
theorem status_below_100_answers_nothing :
    (chatRequest false).asksForModels = false ∧
      getMaxRetries (poolEnv [healthyAccount 7] fun _ => .response { statusCode := 99 }).retrySnap
        ≤ 30 ∧
      answers (serveHTTP (poolEnv [healthyAccount 7] fun _ => .response { statusCode := 99 })
        (chatRequest false)) = [] ∧
      records (serveHTTP (poolEnv [healthyAccount 7] fun _ => .response { statusCode := 99 })
        (chatRequest false)) = [] := by
  refine ⟨by decide +kernel, by decide +kernel, ?_, ?_⟩
  · exact List.length_eq_zero_iff.mp (by decide +kernel)
  · exact List.length_eq_zero_iff.mp (by decide +kernel)

/-! ## The attempts a record counts -/

namespace Call

variable (c : Call) (first : ResolvedRoute)

/-- The attempts that a run gets to, with the state of the loop there. -/
inductive Reached : Nat → LoopState → Prop where
  | start : Reached 0 {}
  | next {k : Nat} {st next : LoopState} {events : List Event} (h : Reached k st)
    (hleft : k + 1 < c.maxRetries) (hstep : c.runAttempt first k false st = .again events next) :
    Reached (k + 1) next

/-- A retry that ends before its call of `Forward`: it finds no route, or no
binding for its account. -/
def RetryFails (k : Nat) (st : LoopState) : Prop :=
  k ≠ 0 ∧ Starts k ∧
    ((∃ err, c.nextRoute first k st = .error err) ∨
      ∃ route err, c.nextRoute first k st = .ok route ∧ (c.bind k route).1 = .error err)

variable {c first}

theorem nextRoute_zero (st : LoopState) : c.nextRoute first 0 st = .ok first := rfl

/-- The run up to an attempt it reaches: one call of `Forward` for each attempt
before, and no record. -/
theorem Reached.run {k : Nat} {st : LoopState} (h : Reached c first k st)
    (hpos : 0 < c.maxRetries) :
    k < c.maxRetries ∧ ∃ before, (forwards before).length = k ∧ records before = [] ∧
      c.retryLoop first 0 {} c.maxRetries = before ++ c.retryLoop first k st (c.maxRetries - k) := by
  induction h with
  | start => exact ⟨hpos, [], rfl, rfl, rfl⟩
  | @next k st next events h hleft hstep ih =>
    obtain ⟨-, before, hforwards, hrecords, hrun⟩ := ih
    refine ⟨hleft, before ++ events, ?_, ?_, ?_⟩
    · have hran := c.runAttempt_ran first k false st
      rw [hstep] at hran
      cases hran with
      | again _ _ _ hevents => rw [forwards_append, List.length_append, hforwards, hevents]; rfl
    · have hran := c.runAttempt_ran first k false st
      rw [hstep] at hran
      cases hran with
      | again _ _ _ _ hevents => rw [records_append, hrecords, hevents]; rfl
    · obtain ⟨left, hmax⟩ : ∃ left, c.maxRetries - k = left + 2 := ⟨c.maxRetries - k - 2, by omega⟩
      have hmax' : c.maxRetries - (k + 1) = left + 1 := by omega
      have hlast : (left + 1 == 0) = false := rfl
      rw [hrun, hmax, retryLoop, hlast, hstep, hmax', List.append_assoc]

/-- When no retry fails early, the rest of a run from an attempt logs that
attempt's number and the calls of `Forward` still to come. -/
theorem attemptCount_retryLoop (k : Nat) (st : LoopState) (left : Nat)
    (hmax : k + left = c.maxRetries) (hused : st.attemptsUsed = k)
    (hreached : 0 < left → Reached c first k st)
    (hretries : ∀ j st, Reached c first j st → ¬ RetryFails c first j st) :
    ∀ record ∈ records (c.retryLoop first k st left),
      record.attemptCount = (k + (forwards (c.retryLoop first k st left)).length : Nat) := by
  induction left generalizing k st with
  | zero =>
    intro record hrecord
    obtain ⟨record', heq, hcount⟩ := c.records_exhausted st
    rw [retryLoop, heq, List.mem_singleton] at hrecord
    rw [hrecord, hcount, hused]
    rfl
  | succ left ih =>
    have hgood := hretries k st (hreached (Nat.succ_pos left))
    rw [retryLoop]
    have hran := c.runAttempt_ran first k (left == 0) st
    generalize hstep : c.runAttempt first k (left == 0) st = step at hran
    cases hran with
    | backoff => intro record hrecord; exact absurd hrecord List.not_mem_nil
    | noRoute hstart hroute =>
      by_cases hzero : k = 0
      · subst hzero
        rw [nextRoute_zero] at hroute
        contradiction
      · exact absurd ⟨hzero, hstart, Or.inl ⟨_, hroute⟩⟩ hgood
    | noBinding hstart hroute hbind hforwards hrecords =>
      by_cases hzero : k = 0
      · intro record hrecord
        obtain ⟨record', heq, hcount⟩ := hrecords
        rw [heq, List.mem_singleton] at hrecord
        rw [hrecord, hcount, hforwards, hzero]
        rfl
      · exact absurd ⟨hzero, hstart, Or.inr ⟨_, _, hroute, hbind⟩⟩ hgood
    | stopped _ _ _ hforwards hcounted =>
      intro record hrecord
      rw [hcounted record hrecord, hforwards]
      rfl
    | @again route binding events next _ _ _ hforwards hrecords _ _ hnextUsed =>
      have hnext : 0 < left → Reached c first (k + 1) next := by
        intro hpos
        have hlast : (left == 0) = false := by
          rw [beq_eq_false_iff_ne]
          omega
        rw [hlast] at hstep
        exact .next (hreached (Nat.succ_pos left)) (by omega) hstep
      intro record hrecord
      dsimp only at hrecord ⊢
      rw [records_append, hrecords, List.nil_append] at hrecord
      rw [ih (k + 1) next (by omega) hnextUsed hnext record hrecord, forwards_append,
        List.length_append, hforwards]
      congr 1
      rw [List.length_singleton]
      omega

/-- A retry that fails early logs another number than that of the calls of
`Forward` made. -/
theorem attemptCount_of_retryFails {k : Nat} {st : LoopState} {left : Nat}
    (hfails : RetryFails c first k st) :
    ∃ record ∈ records (c.retryLoop first k st (left + 1)),
      record.attemptCount ≠ (k + (forwards (c.retryLoop first k st (left + 1))).length : Nat) := by
  obtain ⟨hzero, hstart, hfails⟩ := hfails
  rw [retryLoop]
  have hran := c.runAttempt_ran first k (left == 0) st
  generalize c.runAttempt first k (left == 0) st = step at hran
  have hroute : ∀ {route binding}, c.nextRoute first k st = .ok route →
      (c.bind k route).1 = .ok binding → False := by
    intro route binding hroute hbind
    rcases hfails with ⟨err, herr⟩ | ⟨route', err, hroute', herr⟩
    · rw [hroute] at herr
      contradiction
    · obtain rfl := Except.ok.inj (hroute.symm.trans hroute')
      rw [hbind] at herr
      contradiction
  cases hran with
  | backoff hno => exact absurd hstart hno
  | noRoute =>
    obtain ⟨record, heq, hcount⟩ := c.records_exhausted { st with attemptsUsed := k + 1 }
    refine ⟨record, ?_, ?_⟩
    · dsimp only
      rw [List.nil_append, heq]
      exact List.mem_singleton.mpr rfl
    · rw [hcount]
      show ((k + 1 : Nat) : Int) ≠ ((k + 0 : Nat) : Int)
      omega
  | noBinding _ _ _ hforwards hrecords =>
    obtain ⟨record, heq, hcount⟩ := hrecords
    refine ⟨record, heq ▸ List.mem_singleton.mpr rfl, ?_⟩
    rw [hcount, hforwards]
    change (0 : Int) ≠ ((k + 0 : Nat) : Int)
    omega
  | stopped _ hok hbind => exact absurd hbind (fun hbind => hroute hok hbind)
  | again _ hok hbind => exact absurd hbind (fun hbind => hroute hok hbind)

end Call

/-- The record of a request that gets to the route resolution counts the calls
of `Forward` exactly when every retry the run reaches finds a route and a
binding for its account. -/
theorem attempt_count_iff {env : Env} {r : Request} {c : Call} (hmodels : r.asksForModels = false)
    (hprepare : prepare env r = .ok c) :
    (∀ record ∈ records (serveHTTP env r),
        record.attemptCount = (forwards (serveHTTP env r)).length) ↔
      ∀ first, c.resolve = .ok first →
        ∀ k st, Call.Reached c first k st → ¬ Call.RetryFails c first k st := by
  have hserve : serveHTTP env r = c.serve := by
    rw [serveHTTP, hmodels, if_neg Bool.false_ne_true, hprepare]
  rw [hserve, Call.serve]
  cases hresolve : c.resolve with
  | error err =>
    refine ⟨fun _ first h => by contradiction, fun _ record hrecord => ?_⟩
    dsimp only at hrecord ⊢
    cases err <;> (obtain rfl := List.mem_singleton.mp hrecord; rfl)
  | ok first =>
    dsimp only
    constructor
    · intro hcount first' hfirst k st hreached hfails
      obtain rfl := Except.ok.inj hfirst
      obtain ⟨hlt, before, hforwards, hrecords, hrun⟩ := hreached.run c.maxRetries_pos
      obtain ⟨left, hleft⟩ : ∃ left, c.maxRetries - k = left + 1 := ⟨c.maxRetries - k - 1, by omega⟩
      rw [hleft] at hrun
      obtain ⟨record, hmem, hne⟩ := Call.attemptCount_of_retryFails hfails
      have hlogged := hcount record
      rw [hrun, records_append, hrecords, List.nil_append, forwards_append, List.length_append,
        hforwards] at hlogged
      exact hne (hlogged hmem)
    · intro hretries record hrecord
      have hcount := Call.attemptCount_retryLoop (c := c) 0 {} c.maxRetries
        (Nat.zero_add _) rfl (fun _ => .start) (hretries first rfl) record hrecord
      rw [Nat.zero_add] at hcount
      exact hcount

theorem exists_of_isOk {ε α : Type} {x : Except ε α} (h : x.isOk = true) : ∃ a, x = .ok a := by
  cases x with
  | ok a => exact ⟨a, rfl⟩
  | error err => exact absurd h Bool.false_ne_true

/-- The retry of the two accounts: the record counts both calls, so no retry
failed early. -/
theorem attempt_count_iff_retried :
    ∃ c first, prepare retriedEnv (chatRequest false) = .ok c ∧ c.resolve = .ok first ∧
      ∀ k st, Call.Reached c first k st → ¬ Call.RetryFails c first k st := by
  have hprepared : (prepare retriedEnv (chatRequest false)).isOk = true := by decide +kernel
  have hresolved : ((prepare retriedEnv (chatRequest false)).toOption.map fun c =>
      c.resolve.isOk) = some true := by decide +kernel
  have hcount : ∀ record ∈ records (serveHTTP retriedEnv (chatRequest false)),
      record.attemptCount = (forwards (serveHTTP retriedEnv (chatRequest false))).length := by
    decide +kernel
  obtain ⟨c, hprepare⟩ := exists_of_isOk hprepared
  rw [hprepare] at hresolved
  obtain ⟨first, hresolve⟩ := exists_of_isOk (Option.some.inj hresolved)
  exact ⟨c, first, hprepare, hresolve,
    (attempt_count_iff (by decide +kernel) hprepare).mp hcount first hresolve⟩

/-- A pool of one account whose upstream answers `500`: the retry finds no
account, yet the record counts it. -/
theorem retry_without_account_is_counted :
    (chatRequest false).asksForModels = false ∧
      (records (serveHTTP (poolEnv [healthyAccount 7] fun _ => .response { statusCode := 500 })
        (chatRequest false))).map RequestLog.attemptCount = [2] ∧
      forwards (serveHTTP (poolEnv [healthyAccount 7] fun _ => .response { statusCode := 500 })
        (chatRequest false)) = [(0, 7)] := by
  refine ⟨by decide +kernel, by decide +kernel, by decide +kernel⟩

end Lune.Gateway
