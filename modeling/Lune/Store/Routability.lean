import Lune.Store.Models
import Lune.Store.Clock

/-!
# Routability of an account

`EvaluateAccountRoutability` of `internal/store/routability.go`: a chain of
tests of an account's status columns, of which the first that fails gives the
reason.
-/

namespace Lune.Store

open GoText TimeText

/-- `RoutabilityOptions`.  The zero time stands for the clock. -/
structure RoutabilityOptions where
  diagnostic : Bool := false
  cpaRuntimeBindingSupported : Bool := false
  now : Option Int := none

/-- `RoutabilityDecision`. -/
structure RoutabilityDecision where
  routable : Bool := false
  reason : Str := []
  quotaWarn : Bool := false
  runtimeBindingBlocked : Bool := false
  penalty : Int := 0
deriving Inhabited, DecidableEq

/-- `blocked`. -/
def blocked (reason : Str) : RoutabilityDecision := { reason := reason }

/-- The decision every check that finds nothing wrong starts from. -/
def routableDecision : RoutabilityDecision := { routable := true, reason := lit "routable" }

/-- `firstNonEmpty`. -/
def firstNonEmpty (values : List Str) : Str :=
  (values.find? fun value => !isBlank value).getD []

/-- `parseRouteTime`. -/
def parseRouteTime (value : Str) : Option Int :=
  let value := trimSpace value
  if value = [] then none
  else (parse rfc3339 value).or (parse spaced value)

/-- `codexAccessEligible`. -/
def codexAccessEligible (acc : Account) : Bool :=
  equalFold acc.cpaAccessStatus (lit "eligible")

/-- The credential states in which a CPA account takes no traffic. -/
def blockingCredentialStatuses : List Str :=
  [lit "needs_login", lit "refresh_failed", lit "runtime_pending", lit "runtime_error",
    lit "unknown", []]

/-- What a failed model request with status 429 leaves in `cpa_quota_last_error`. -/
def modelRequest429 : Str := lit "HTTP 429 from model request"

/-- `evaluateCpaRoutability`. -/
def evaluateCpaRoutability (acc : Account) (opts : RoutabilityOptions) : RoutabilityDecision :=
  let credential := toLower acc.cpaCredentialStatus
  let suspect : Int := if equalFold acc.cpaCredentialStatus (lit "auth_suspect") then 1 else 0
  let quotaWarn := equalFold acc.cpaQuotaStatus (lit "error") ||
    equalFold acc.cpaQuotaStatus (lit "unknown") || equalFold acc.cpaQuotaStatus (lit "pending")
  if opts.diagnostic then routableDecision
  else if equalFold acc.cpaQuotaStatus (lit "blocked") then blocked (lit "quota_blocked")
  else if equalFold acc.cpaProvider (lit "codex") && equalFold acc.cpaQuotaStatus (lit "error") &&
      hasPrefix acc.cpaQuotaLastError modelRequest429 then
    blocked (lit "model_request_429")
  else if blockingCredentialStatuses.contains credential then
    blocked (lit "credential_" ++ firstNonEmpty [credential, lit "unknown"])
  else if equalFold acc.cpaProvider (lit "codex") && !codexAccessEligible acc then
    blocked (lit "access_" ++ firstNonEmpty [toLower acc.cpaAccessStatus, lit "unknown"])
  else
    { routableDecision with
      quotaWarn := quotaWarn
      penalty := suspect + if quotaWarn then 1 else 0 }

/-- `diagnosticStableStatusRequiresIneligible`, for an account with a row. -/
def diagnosticStableStatusRequiresIneligible (acc : Account) (diag : AccountDiagnostic) : Bool :=
  isBlank diag.schedulerOverride &&
    [lit "banned", lit "quota_exhausted", lit "auth_invalid"].contains
      (toLower (trimSpace acc.diagnosticStatus))

/-- `diagnosticWarningShouldPenalize`, for an account with a row. -/
def diagnosticWarningShouldPenalize (acc : Account) : Bool :=
  equalFold acc.schedulerStatus (lit "eligible_with_warning") &&
    !equalFold acc.diagnosticStatus (lit "unknown")

/-- `evaluateDiagnosticRoutability`. -/
def evaluateDiagnosticRoutability (acc : Account) : RoutabilityDecision :=
  if acc.diagnosticLoadFailed then blocked (lit "diagnostic_unavailable")
  else match acc.diagnostic with
    | none => routableDecision
    | some diag =>
      let scheduler := toLower (trimSpace acc.schedulerStatus)
      if scheduler = lit "ineligible" then
        blocked (lit "diagnostic_" ++
          firstNonEmpty [toLower acc.diagnosticStatus, lit "ineligible"])
      else if [lit "eligible", lit "eligible_with_warning", []].contains scheduler then
        if diagnosticStableStatusRequiresIneligible acc diag then
          blocked (lit "diagnostic_" ++ toLower acc.diagnosticStatus)
        else
          { routableDecision with
            penalty := if diagnosticWarningShouldPenalize acc then 1 else 0 }
      else blocked (lit "diagnostic_scheduler_" ++ toLower acc.schedulerStatus)

/-- The serving cooldown of an account has an end, and it has come. -/
def cooldownOver (acc : Account) (now : Int) : Bool :=
  match parseRouteTime acc.cooldownUntil with
  | some cooldownUntil => cooldownUntil ≤ now
  | none => false

/-- `EvaluateAccountRoutability`. -/
def evaluateAccountRoutability (clock : Clock) (acc : Option Account) (opts : RoutabilityOptions) :
    RoutabilityDecision :=
  let now := opts.now.getD clock.nanos
  match acc with
  | none => blocked (lit "missing_account")
  | some acc =>
    let diagnosticDecision :=
      if opts.diagnostic then routableDecision else evaluateDiagnosticRoutability acc
    if !acc.enabled then blocked (lit "account_disabled")
    else if acc.status ≠ lit "healthy" ∧ acc.status ≠ lit "degraded" then
      blocked (lit "account_unhealthy")
    else if !diagnosticDecision.routable then diagnosticDecision
    else if !opts.diagnostic && equalFold acc.servingStatus (lit "cooldown") &&
        !cooldownOver acc now then
      blocked (lit "serving_cooldown")
    else if !opts.diagnostic && equalFold acc.servingStatus (lit "error") then
      blocked (lit "serving_error")
    else if acc.sourceKind ≠ lit "cpa" then diagnosticDecision
    else
      let decision := evaluateCpaRoutability acc opts
      if !decision.routable then decision
      else if !opts.cpaRuntimeBindingSupported then
        { decision with
          routable := false
          reason := lit "runtime_auth_binding_unavailable"
          runtimeBindingBlocked := true
          penalty := decision.penalty + diagnosticDecision.penalty }
      else { decision with penalty := decision.penalty + diagnosticDecision.penalty }

/-! ## What makes an account routable -/

/-- The diagnostic row lets ordinary traffic through. -/
theorem evaluateDiagnosticRoutability_routable (acc : Account) :
    (evaluateDiagnosticRoutability acc).routable = true ↔
      acc.diagnosticLoadFailed = false ∧ ∀ diag, acc.diagnostic = some diag →
        [lit "eligible", lit "eligible_with_warning", []].contains
          (toLower (trimSpace acc.schedulerStatus)) = true ∧
        diagnosticStableStatusRequiresIneligible acc diag = false := by
  have hineligible : [lit "eligible", lit "eligible_with_warning", []].contains
      (lit "ineligible") = false := by decide
  unfold evaluateDiagnosticRoutability
  cases acc.diagnosticLoadFailed with
  | true => simp [blocked]
  | false =>
    cases acc.diagnostic with
    | none => simp [routableDecision]
    | some diag =>
      simp only [Bool.false_eq_true, if_false, Option.some.injEq, forall_eq', true_and]
      generalize toLower (trimSpace acc.schedulerStatus) = scheduler
      by_cases hin : scheduler = lit "ineligible"
      · simp only [hin, if_true, hineligible, blocked]
        simp
      · cases helig : [lit "eligible", lit "eligible_with_warning", []].contains scheduler <;>
          cases hstable : diagnosticStableStatusRequiresIneligible acc diag <;>
          simp [hin, blocked, routableDecision]

/-- Ordinary traffic goes to an account exactly when each check passes. -/
theorem evaluateAccountRoutability_routable (clock : Clock) (acc : Account)
    {opts : RoutabilityOptions} (hopts : opts.diagnostic = false) :
    (evaluateAccountRoutability clock (some acc) opts).routable = true ↔
      acc.enabled = true ∧ (acc.status = lit "healthy" ∨ acc.status = lit "degraded") ∧
      (evaluateDiagnosticRoutability acc).routable = true ∧
      (equalFold acc.servingStatus (lit "cooldown") = true →
        cooldownOver acc (opts.now.getD clock.nanos) = true) ∧
      equalFold acc.servingStatus (lit "error") = false ∧
      (acc.sourceKind = lit "cpa" →
        (evaluateCpaRoutability acc opts).routable = true ∧
          opts.cpaRuntimeBindingSupported = true) := by
  unfold evaluateAccountRoutability
  simp only [hopts, Bool.false_eq_true, if_false, Bool.not_false, Bool.true_and]
  generalize evaluateDiagnosticRoutability acc = diag
  generalize evaluateCpaRoutability acc opts = cpa
  generalize cooldownOver acc (opts.now.getD clock.nanos) = ended
  by_cases henabled : acc.enabled = true
  · by_cases hstatus : acc.status = lit "healthy" ∨ acc.status = lit "degraded"
    · have hstatus' : ¬ (acc.status ≠ lit "healthy" ∧ acc.status ≠ lit "degraded") := by
        rintro ⟨hne, hne'⟩
        exact hstatus.elim hne hne'
      simp only [henabled, Bool.not_true, Bool.false_eq_true, if_false, hstatus', hstatus, true_and]
      cases hdiag : diag.routable <;> cases hcool : equalFold acc.servingStatus (lit "cooldown") <;>
        cases ended <;> cases herr : equalFold acc.servingStatus (lit "error") <;>
        by_cases hkind : acc.sourceKind = lit "cpa" <;> cases hcpa : cpa.routable <;>
        cases hsup : opts.cpaRuntimeBindingSupported <;> simp [blocked, hdiag, hkind, hcpa]
    · have hstatus' : acc.status ≠ lit "healthy" ∧ acc.status ≠ lit "degraded" :=
        not_or.mp hstatus
      simp [henabled, hstatus', blocked]
  · simp [henabled, blocked]

end Lune.Store
