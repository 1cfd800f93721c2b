import Lune.Gateway.Run

/-!
# The records of an attempt

`Makes` lists the records that the handler may make over an attempt, with what
guards each of them, and `recorded_runAttempt` shows that an attempt makes no
others.  A property of the records of a run follows by cases on `Makes`.
-/

namespace Lune.Gateway

open GoText Keyed Lune.Store Lune.Router Lune.Health

/-- The stable statuses of a verdict against an account. -/
def fatalStatuses : List Str := [lit "banned", lit "quota_exhausted", lit "auth_invalid"]

/-- The probe statuses that go with such a verdict. -/
def signalStatuses : List Str :=
  [lit "upstream_banned_signal", lit "quota_exhausted_signal", lit "auth_invalid_signal"]

namespace Call

variable (c : Call)

/-- The records that an attempt over a route may make. -/
inductive Makes (k : Nat) (route : ResolvedRoute) : Action → Prop where
  | recordServingSuccess (hordinary : c.req.isOrdinary = true) :
    Makes k route (.recordServingSuccess route.accountID)
  | recordServingFailure (errMsg : Str) (hordinary : c.req.isOrdinary = true) :
    Makes k route (.recordServingFailure route.accountID errMsg)
  | updateHealth (status lastError : Str) (hordinary : c.req.isOrdinary = true) :
    Makes k route (.updateHealth route.accountID status lastError)
  | updateTokenLastUsed (tokenID : Int) (hordinary : c.req.isOrdinary = true) :
    Makes k route (.updateTokenLastUsed tokenID)
  | recordCodexQuotaRateLimitEvidence (body errMsg : Str) (hobserves : c.req.observes = true) :
    Makes k route (.recordCodexQuotaRateLimitEvidence route.account body errMsg)
  | transient (obs : Observation) (hobserves : c.req.observes = true)
    (hprobe : obs.probeStatus = lit "transient_error") :
    Makes k route (.recordAccountDiagnosticObservation route.account obs)
  | fatal (obs : Observation) (hobserves : c.req.observes = true)
    (hstable : obs.stableStatus ∈ fatalStatuses) (hprobe : obs.probeStatus ∈ signalStatuses) :
    Makes k route (.recordAccountDiagnosticObservation route.account obs)
  | succeeded (obs : Observation) (hobserves : c.req.observes = true)
    (hprobe : obs.probeStatus = lit "succeeded") :
    Makes k route (.recordAccountDiagnosticObservation
      ((c.env.attempts k).latest.join.getD route.account) obs)
  | updateCpaCredential (status reason lastError : Str) (hobserves : c.req.observes = true) :
    Makes k route (.updateCpaCredential route.accountID status reason lastError)
  | clearAccountCodexModelRequestQuotaEvidence (hobserves : c.req.observes = true) :
    Makes k route (.clearAccountCodexModelRequestQuotaEvidence route.accountID)
  | updateAccountCpaCredentialStatus (status reason lastError : Str)
    (hobserves : c.req.observes = true) :
    Makes k route (.updateAccountCpaCredentialStatus route.accountID status reason lastError)
  | updateAccountCpaAccessStatus (hobserves : c.req.observes = true) :
    Makes k route (.updateAccountCpaAccessStatus route.accountID (lit "eligible")
      (lit "model_request_success") [])
  | invalidate (hobserves : c.req.observes = true) : Makes k route .invalidate

/-- Each event is calm or a record that an attempt over the route may make. -/
def Recorded (k : Nat) (route : ResolvedRoute) (events : List Event) : Prop :=
  ∀ e ∈ events, e.calm = true ∨ ∃ action, e = .act k action ∧ c.Makes k route action

section Lists

variable {c : Call} {k : Nat} {route : ResolvedRoute} {es fs : List Event}

@[simp] theorem recorded_nil : c.Recorded k route [] := fun _ h => absurd h List.not_mem_nil

@[simp] theorem recorded_append :
    c.Recorded k route (es ++ fs) ↔ c.Recorded k route es ∧ c.Recorded k route fs :=
  List.forall_mem_append

theorem recorded_calm {e : Event} (h : e.calm = true) (hes : c.Recorded k route es) :
    c.Recorded k route (e :: es) :=
  List.forall_mem_cons.mpr ⟨Or.inl h, hes⟩

theorem recorded_act {action : Action} (h : c.Makes k route action)
    (hes : c.Recorded k route es) : c.Recorded k route (.act k action :: es) :=
  List.forall_mem_cons.mpr ⟨Or.inr ⟨action, rfl, h⟩, hes⟩

end Lists

variable (a : Attempt)

/-- An action behind a guard. -/
theorem recorded_actIf {condition : Bool} {action : Action}
    (h : condition = true → c.Makes a.number a.route action) :
    c.Recorded a.number a.route (actIf a condition action) := by
  cases condition with
  | false => exact recorded_nil
  | true => exact recorded_act (h rfl) recorded_nil

theorem recorded_rejectCredential (hobserves : c.req.observes = true) (statusCode : Int)
    (body errMsg : Str) :
    c.Recorded a.number a.route (rejectCredential a statusCode body errMsg) := by
  refine recorded_act (.updateCpaCredential _ _ _ hobserves) (recorded_act ?_ recorded_nil)
  exact .fatal _ hobserves (by simp [fatalStatuses]) (by simp [signalStatuses])

theorem recorded_writeResponse {result : ProxyResult} {answer : List Event}
    (h : writeResponse result = some answer) : c.Recorded a.number a.route answer := by
  unfold writeResponse at h
  split at h
  · obtain rfl := Option.some.inj h
    exact recorded_nil
  split at h
  · obtain rfl := Option.some.inj h
    exact recorded_calm rfl recorded_nil
  · contradiction

/-- The answer and the log are calm. -/
theorem recorded_answerAndLog {result : ProxyResult} {errMsg : Str} {before : List Event}
    (hbefore : c.Recorded a.number a.route before) :
    c.Recorded a.number a.route (c.answerAndLog a result errMsg before).events := by
  unfold answerAndLog
  split
  next => exact recorded_append.mpr ⟨hbefore, recorded_calm rfl recorded_nil⟩
  next answer hanswer =>
    exact recorded_append.mpr ⟨recorded_append.mpr ⟨hbefore, c.recorded_writeResponse a hanswer⟩,
      recorded_calm rfl recorded_nil⟩

theorem recorded_handleError (result : ProxyResult) (err : ProxyError) :
    c.Recorded a.number a.route (c.handleError a result err).events := by
  have hacts : c.Recorded a.number a.route
      (actIf a (result.healthImpact && c.req.isOrdinary)
          (.recordServingFailure a.route.accountID err.text) ++
        actIf a (isCpa a && c.req.observes)
          (.recordAccountDiagnosticObservation a.route.account
            ⟨lit "transient_error", lit "transient_error", lit "gateway request failed", 0,
              lit "upstream_request_failed", err.text⟩)) := by
    refine recorded_append.mpr ⟨c.recorded_actIf a ?_, c.recorded_actIf a ?_⟩
    · intro h
      exact .recordServingFailure _ (Bool.and_eq_true_iff.mp h).2
    · intro h
      exact .transient _ (Bool.and_eq_true_iff.mp h).2 rfl
  unfold handleError
  dsimp only
  split
  · exact recorded_append.mpr ⟨hacts, recorded_calm rfl (recorded_calm rfl recorded_nil)⟩
  · exact hacts

theorem recorded_observeRetryable (result : ProxyResult) (errMsg : Str) :
    c.Recorded a.number a.route (c.observeRetryable a result errMsg) := by
  unfold observeRetryable
  split
  next h =>
    refine recorded_act (.recordCodexQuotaRateLimitEvidence _ _ h.2)
      (recorded_act ?_ recorded_nil)
    split
    · exact .fatal _ h.2 (by simp [fatalStatuses]) (by simp [signalStatuses])
    · exact .transient _ h.2 rfl
  next =>
    apply c.recorded_actIf a
    intro h
    exact .transient _ (Bool.and_eq_true_iff.mp h).2 rfl

theorem recorded_bannedObservation (statusCode : Int) (errMsg : Str) :
    c.Recorded a.number a.route (actIf a c.req.observes (bannedObservation a statusCode errMsg)) := by
  apply c.recorded_actIf a
  intro h
  exact .fatal _ h (by simp [fatalStatuses]) (by simp [signalStatuses])

theorem recorded_handleRetryableStatus (result : ProxyResult) :
    c.Recorded a.number a.route (c.handleRetryableStatus a result).events := by
  unfold handleRetryableStatus
  dsimp only
  split
  · exact c.recorded_answerAndLog a (c.recorded_bannedObservation a _ _)
  split
  · apply c.recorded_answerAndLog a
    split
    next hobserves => exact c.recorded_rejectCredential a hobserves _ _ _
    · exact recorded_nil
  have hacts : ∀ errMsg, c.Recorded a.number a.route (c.observeRetryable a result errMsg ++
      actIf a (result.healthImpact && c.req.isOrdinary)
        (.recordServingFailure a.route.accountID errMsg)) := by
    intro errMsg
    refine recorded_append.mpr ⟨c.recorded_observeRetryable a result errMsg,
      c.recorded_actIf a ?_⟩
    intro h
    exact .recordServingFailure _ (Bool.and_eq_true_iff.mp h).2
  split
  · exact c.recorded_answerAndLog a (hacts _)
  · exact hacts _

theorem recorded_recordCodexSuccess (hobserves : c.req.observes = true) (statusCode : Int) :
    c.Recorded a.number a.route (c.recordCodexSuccess a statusCode) := by
  unfold recordCodexSuccess
  refine recorded_append.mpr ⟨recorded_append.mpr ⟨?_, ?_⟩, ?_⟩
  · exact c.recorded_actIf a fun _ => .clearAccountCodexModelRequestQuotaEvidence hobserves
  · exact c.recorded_actIf a fun _ => .updateAccountCpaCredentialStatus _ _ _ hobserves
  · refine recorded_act (.updateAccountCpaAccessStatus hobserves)
      (recorded_act (.succeeded _ hobserves ?_) (recorded_act (.invalidate hobserves) recorded_nil))
    split
    · rfl
    split <;> rfl

theorem recorded_recordSuccess (statusCode : Int) :
    c.Recorded a.number a.route (c.recordSuccess a statusCode) := by
  unfold recordSuccess
  refine recorded_append.mpr ⟨recorded_append.mpr ⟨recorded_append.mpr ⟨?_, ?_⟩, ?_⟩, ?_⟩
  · exact c.recorded_actIf a fun h => .recordServingSuccess h
  · apply c.recorded_actIf a
    intro h
    exact .updateCpaCredential _ _ _
      (Request.observes_of_isOrdinary (Bool.and_eq_true_iff.mp (Bool.and_eq_true_iff.mp h).1).1)
  · split
    · exact c.recorded_actIf a fun h => .updateTokenLastUsed _ h
    · exact recorded_nil
  · split
    next h => exact c.recorded_recordCodexSuccess a (Bool.and_eq_true_iff.mp h).2 statusCode
    · exact recorded_nil

theorem recorded_recordFailure (result : ProxyResult) (errMsg : Str) :
    c.Recorded a.number a.route (c.recordFailure a result errMsg) := by
  unfold recordFailure
  split
  · exact c.recorded_bannedObservation a _ _
  split
  · split
    next hobserves => exact c.recorded_rejectCredential a hobserves _ _ _
    · exact recorded_nil
  split
  next h => exact recorded_act (.transient _ (Bool.and_eq_true_iff.mp h).2 rfl) recorded_nil
  split
  · exact c.recorded_actIf a fun h => .updateHealth _ _ h
  split
  next stream _ =>
    split
    · refine recorded_append.mpr ⟨c.recorded_actIf a ?_, c.recorded_actIf a ?_⟩
      · intro h
        exact .recordServingFailure _ (Bool.and_eq_true_iff.mp h).1
      · intro h
        exact .transient _ (Bool.and_eq_true_iff.mp h).2 rfl
    · exact recorded_nil
  · exact recorded_nil

theorem recorded_handleResult (result : ProxyResult) :
    c.Recorded a.number a.route (c.handleResult a result).events := by
  unfold handleResult
  split
  · exact c.recorded_handleError a _ _
  split
  · exact c.recorded_handleRetryableStatus a _
  unfold handleFinal
  split
  next => exact recorded_calm rfl recorded_nil
  next answer hanswer =>
    generalize verdict result = v
    obtain ⟨success, errMsg⟩ := v
    refine recorded_append.mpr ⟨recorded_append.mpr ⟨c.recorded_writeResponse a hanswer, ?_⟩,
      recorded_calm rfl recorded_nil⟩
    split
    · exact c.recorded_recordSuccess a _
    · exact c.recorded_recordFailure a _ _

/-- An event of an attempt is calm, or a record over the route that the attempt
has. -/
theorem recorded_runAttempt (first : ResolvedRoute) (k : Nat) (last : Bool) (st : LoopState) :
    ∀ e ∈ (c.runAttempt first k last st).events, e.calm = true ∨
      ∃ route action, c.nextRoute first k st = .ok route ∧ e = .act k action ∧
        c.Makes k route action := by
  unfold runAttempt
  dsimp only
  split
  · intro e he
    obtain rfl := List.mem_singleton.mp he
    exact Or.inl rfl
  split
  · exact fun e he => absurd he List.not_mem_nil
  next route hroute =>
    have hrecorded : c.Recorded k route (c.tryRoute k last { st with attemptsUsed := k + 1 }
        route).events := by
      unfold tryRoute
      dsimp only
      rw [c.bind_effects k route]
      split
      · exact recorded_calm rfl (recorded_calm rfl recorded_nil)
      next binding _ =>
        rw [Step.events_after, List.map_nil, List.nil_append, forwardAndHandle_eq]
        have hforwarded : ∀ request (answered : Option Response), c.Recorded k route
            (.forward k route.accountID request :: (answered.map Event.respond).toList) := by
          intro request answered
          cases answered with
          | none => exact recorded_calm rfl recorded_nil
          | some response => exact recorded_calm rfl (recorded_calm rfl recorded_nil)
        split
        · exact recorded_append.mpr ⟨hforwarded _ _, recorded_calm rfl recorded_nil⟩
        · rw [Step.events_after]
          exact recorded_append.mpr ⟨hforwarded _ _, c.recorded_handleResult _ _⟩
    intro e he
    rcases hrecorded e he with hcalm | ⟨action, rfl, hmakes⟩
    · exact Or.inl hcalm
    · exact Or.inr ⟨route, action, hroute, rfl, hmakes⟩

end Call

/-- The statements of a request are those of the records that its attempts may
make. -/
theorem forall_statements_serveHTTP {env : Env} {r : Request} {P : StoreCall → Prop}
    (h : ∀ c, prepare env r = .ok c → ∀ first k st route action,
      c.nextRoute first k st = .ok route → c.Makes k route action →
        ∀ call ∈ action.calls (env.attempts k).actions, P call) :
    ∀ call ∈ statements env (serveHTTP env r), P call := by
  have hevents : ∀ e ∈ serveHTTP env r,
      ∀ call ∈ (e.effects env).filterMap effectCall?, P call := by
    apply forall_serveHTTP
    · intro e he
      cases e with
      | bind | act => contradiction
      | _ => simp [Event.effects]
    · intro c hprepare first k last st e he
      rcases c.recorded_runAttempt first k last st e he with
        hcalm | ⟨route, action, hroute, rfl, hmakes⟩
      · cases e with
        | bind | act => contradiction
        | _ => simp [Event.effects]
      · exact h c hprepare first k st route action hroute hmakes
  intro call hcall
  obtain ⟨effect, heffect, hcall⟩ := List.mem_filterMap.mp hcall
  obtain ⟨e, he, heffect⟩ := List.mem_flatMap.mp heffect
  exact hevents e he call (List.mem_filterMap.mpr ⟨effect, heffect, hcall⟩)

end Lune.Gateway
