import Lune.Gateway.Classify
import Lune.Health.Binding

/-!
# What the gateway records

The methods of the gateway's `Handler` that write to the store after an
attempt, from `internal/gateway/handler.go`.  The handler decides on an
`Action`; carrying it out reads the clock and perhaps the account's diagnostic
row, and yields effects.
-/

namespace Lune.Gateway

open GoText Lune.Store Lune.Health

/-- The arguments of `recordAccountDiagnosticObservation` after the account. -/
structure Observation where
  stableStatus : Str
  probeStatus : Str
  safeSummary : Str
  httpStatus : Int
  normalizedCode : Str
  upstreamMessage : Str

/-- A record that the handler makes. -/
inductive Action where
  | recordServingSuccess (accountID : Int)
  | recordServingFailure (accountID : Int) (lastError : Str)
  | recordCodexQuotaRateLimitEvidence (account : Account) (body errMsg : Str)
  | recordAccountDiagnosticObservation (account : Account) (obs : Observation)
  | updateHealth (accountID : Int) (status lastError : Str)
  | updateCpaCredential (accountID : Int) (status reason lastError : Str)
  | updateTokenLastUsed (tokenID : Int)
  | clearAccountCodexModelRequestQuotaEvidence (accountID : Int)
  | updateAccountCpaCredentialStatus (accountID : Int) (status reason lastError : Str)
  | updateAccountCpaAccessStatus (accountID : Int) (status reason lastError : Str)
  | invalidate

/-- What `GetAccountDiagnostic` met: whether the row was missing, so that one
was inserted, and what it returned, which is an error or perhaps a row. -/
structure DiagnosticRead where
  missing : Bool := false
  result : Option (Option AccountDiagnostic) := some none

/-- What carrying out an action reads. -/
structure ActionEnv where
  store : StoreEnv
  diagnostic : DiagnosticRead := {}

/-- `servingCooldownDuration`, in seconds. -/
def servingCooldownDuration : Nat := 300

/-- `recordServingFailure`. -/
def recordServingFailure (env : ActionEnv) (accountID : Int) (lastError : Str) : List Effect :=
  let lastError := if lastError = [] then lit "upstream request failed" else lastError
  [.store (.markAccountServingFailure accountID lastError
      (env.store.now.seconds + servingCooldownDuration)),
    .invalidate]

/-- The account is a CPA account of the provider codex. -/
def isCodex (account : Account) : Bool :=
  account.sourceKind == lit "cpa" && equalFold account.cpaProvider (lit "codex")

/-- `recordCodexQuotaRateLimitEvidence`. -/
def recordCodexQuotaRateLimitEvidence (env : ActionEnv) (account : Account) (body errMsg : Str) :
    List Effect :=
  if !isCodex account then []
  else
    let status :=
      if bodyHasQuotaLimitSignal body || textHasQuotaLimitSignal errMsg then lit "blocked"
      else lit "error"
    let msg :=
      if !isBlank errMsg && !equalFold (trimSpace errMsg) (lit "HTTP 429") then
        lit "HTTP 429 from model request: " ++ truncateStreamError errMsg 240
      else lit "HTTP 429 from model request"
    [.store (.updateAccountCodexQuotaStatus account.id status msg env.store.now.rfc3339),
      .invalidate]

/-- The stable status before an observation. -/
def previousStable (current : Option AccountDiagnostic) : Str :=
  match current with
  | some diag =>
    if isBlank diag.stableDiagnosticStatus then lit "unknown" else diag.stableDiagnosticStatus
  | none => lit "unknown"

/-- The stable status that an observation asks for. -/
def nextStable (obs : Observation) (previous : Str) : Str :=
  let stable := toLower (trimSpace obs.stableStatus)
  let next := if equalFold obs.probeStatus (lit "transient_error") ∨ stable = [] then previous
    else stable
  if diagnosticStatuses.contains next then next else lit "unknown"

/-- The update an observation makes. -/
def observationUpdate (env : ActionEnv) (account : Account) (obs : Observation) (previous : Str) :
    AccountDiagnosticUpdate :=
  { operationID := accountKeyHash env.store
      (lit "account-diagnostic:" ++ itoa account.id ++ lit ":" ++ env.store.now.rfc3339Nano)
    stableDiagnosticStatus := nextStable obs previous
    previousStableDiagnosticStatus := previous
    lastProbeStatus := firstNonEmptyString [obs.probeStatus, lit "succeeded"]
    safeSummary :=
      if isBlank obs.safeSummary then lit "routing observation recorded" else obs.safeSummary
    preserveStableStatus := equalFold obs.probeStatus (lit "transient_error") }

/-- The evidence an observation leaves. -/
def observationEvidence (env : ActionEnv) (obs : Observation) : AccountDiagnosticEvidenceInput :=
  { probeType := lit "routing_observation"
    stage := lit "model_request"
    httpStatus := if 0 < obs.httpStatus then some obs.httpStatus else none
    upstreamErrorCode := obs.normalizedCode
    normalizedErrorCode := obs.normalizedCode
    safeMessage := safeDiagnosticObservationMessage obs.normalizedCode
      (if isBlank obs.safeSummary then lit "routing observation recorded" else obs.safeSummary)
    observedAt := env.store.now.rfc3339 }

/-- `recordAccountDiagnosticObservation`.  Reading the row of an account that has
none inserts one. -/
def recordAccountDiagnosticObservation (env : ActionEnv) (account : Account) (obs : Observation) :
    List Effect :=
  if account.id ≤ 0 then []
  else
    let read : List Effect :=
      if env.diagnostic.missing then [.store (.ensureAccountDiagnostic account.id)] else []
    match env.diagnostic.result with
    | none => read
    | some current =>
      read ++
        [.store (.updateAccountDiagnosticWithEvidence account.id
            (observationUpdate env account obs (previousStable current))
            (observationEvidence env obs)),
          .invalidate]

/-- Carry out an action. -/
def Action.effects (env : ActionEnv) : Action → List Effect
  | .recordServingSuccess accountID => [.store (.markAccountServingSuccess accountID), .invalidate]
  | .recordServingFailure accountID lastError =>
    Gateway.recordServingFailure env accountID lastError
  | .recordCodexQuotaRateLimitEvidence account body errMsg =>
    Gateway.recordCodexQuotaRateLimitEvidence env account body errMsg
  | .recordAccountDiagnosticObservation account obs =>
    Gateway.recordAccountDiagnosticObservation env account obs
  | .updateHealth accountID status lastError =>
    [.store (.updateAccountHealth accountID status lastError), .invalidate]
  | .updateCpaCredential accountID status reason lastError =>
    [.store (.updateAccountCpaCredentialStatus accountID status reason lastError
        env.store.now.rfc3339),
      .invalidate]
  | .updateTokenLastUsed tokenID => [.store (.updateTokenLastUsed tokenID)]
  | .clearAccountCodexModelRequestQuotaEvidence accountID =>
    [.store (.clearAccountCodexModelRequestQuotaEvidence accountID)]
  | .updateAccountCpaCredentialStatus accountID status reason lastError =>
    [.store (.updateAccountCpaCredentialStatus accountID status reason lastError
        env.store.now.rfc3339)]
  | .updateAccountCpaAccessStatus accountID status reason lastError =>
    [.store (.updateAccountCpaAccessStatus accountID status reason lastError
        env.store.now.rfc3339)]
  | .invalidate => [.invalidate]

/-! ## What an action may write -/

/-- The statements of an action. -/
def Action.calls (env : ActionEnv) (action : Action) : List StoreCall :=
  (action.effects env).filterMap effectCall?

/-- The actions that are about how an account serves. -/
def Action.aboutServing : Action → Bool
  | recordServingSuccess _ | recordServingFailure _ _ | updateHealth _ _ _ => true
  | _ => false

/-- The action about a token. -/
def Action.aboutToken : Action → Bool
  | updateTokenLastUsed _ => true
  | _ => false

/-- An observation ensures the diagnostic row of the account or updates it. -/
theorem mem_calls_recordAccountDiagnosticObservation {env : ActionEnv} {account : Account}
    {obs : Observation} {call : StoreCall}
    (h : call ∈ (Action.recordAccountDiagnosticObservation account obs).calls env) :
    call = .ensureAccountDiagnostic account.id ∨ ∃ previous,
      call = .updateAccountDiagnosticWithEvidence account.id
        (observationUpdate env account obs previous) (observationEvidence env obs) := by
  simp only [Action.calls, Action.effects, Gateway.recordAccountDiagnosticObservation] at h
  split at h
  · simp at h
  · split at h <;> split at h <;>
      simp only [List.nil_append, List.cons_append, List.filterMap_cons, List.filterMap_nil,
        effectCall?, List.mem_cons, List.not_mem_nil, or_false] at h
    · exact Or.inl h
    · exact h.imp_right fun h => ⟨_, h⟩
    · exact Or.inr ⟨_, h⟩

/-- An action that is not about serving writes no serving column, and one that
is not about tokens no token. -/
theorem Action.mem_calls {env : ActionEnv} {action : Action} {call : StoreCall}
    (h : call ∈ action.calls env) :
    (action.aboutServing = false → call.writesServing = false) ∧
      (action.aboutToken = false → call.writesToken = false) := by
  cases action with
  | recordAccountDiagnosticObservation account obs =>
    rcases mem_calls_recordAccountDiagnosticObservation h with rfl | ⟨previous, rfl⟩ <;>
      exact ⟨fun _ => rfl, fun _ => rfl⟩
  | recordCodexQuotaRateLimitEvidence account body errMsg =>
    simp only [Action.calls, Action.effects, Gateway.recordCodexQuotaRateLimitEvidence] at h
    split at h
    · simp at h
    · simp only [List.filterMap_cons, List.filterMap_nil, effectCall?, List.mem_singleton] at h
      obtain rfl := h
      exact ⟨fun _ => rfl, fun _ => rfl⟩
  | invalidate => simp [Action.calls, Action.effects, effectCall?] at h
  | _ =>
    simp only [Action.calls, Action.effects, Gateway.recordServingFailure, List.filterMap_cons,
      List.filterMap_nil, effectCall?, List.mem_singleton] at h
    obtain rfl := h
    exact ⟨fun hserving => hserving, fun htoken => htoken⟩

end Lune.Gateway
