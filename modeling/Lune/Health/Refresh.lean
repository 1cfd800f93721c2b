import Lune.Health.Quota
import Lune.Store.ModelSets

/-!
# The work of the health checker

`checkOne`, `RefreshAccount` and `syncCpaMetadata` of
`internal/health/checker.go`, as programs on the database.  What they meet
outside of it is an argument: the answer of a discovery, the runtime and its
credential files, the answer of a quota probe.  A resolution reads the clock
once.
-/

namespace Lune.Health

open GoText Keyed TimeText Lune.Store Programs

/-! ## Discovery -/

/-- What a discovery brings: the list of models or the text of the error, the
statements that fail on their own when the list is stored, and the text of that
error. -/
structure Discovery where
  answer : Except Str (List Str)
  storeError : Str := []
  failing : RefreshStatement → Bool := fun _ => false

/-- `discoverModelsFromURL`. -/
def discoverModels (discovery : Discovery) (accountID : Int) :
    StoreProg (Except Str (List Str)) := do
  match discovery.answer with
  | .error err => pure (.error err)
  | .ok [] => pure (.ok [])
  | .ok models =>
    let stored ← Prog.look fun _ db => db.refreshModelsTx discovery.failing accountID models
    if stored.isSome then
      Prog.writes [.refreshAccountModels accountID models]
      pure (.ok models)
    else pure (.error (lit "store models: " ++ discovery.storeError))

/-- A discovery writes the list of models only. -/
theorem safe_discoverModels {Q : StoreEnv → Database → Prop} {P : StoreCall → Prop}
    {R : Except Str (List Str) → Prop} (discovery : Discovery) (accountID : Int)
    (hP : ∀ models, P (.refreshAccountModels accountID models)) (hR : ∀ result, R result) :
    (discoverModels discovery accountID).Safe Q P R := by
  unfold discoverModels
  split
  · exact hR _
  · exact hR _
  · rw [Prog.safe_bind, Prog.safe_look]
    intro env db _
    split
    · rw [Prog.safe_bind, Prog.safe_writes]
      refine ⟨?_, hR _⟩
      intro call hcall
      obtain rfl := List.mem_singleton.mp hcall
      exact hP _
    · exact hR _

/-- `accountErrorDiscoveryGrace`, in nanoseconds. -/
def accountErrorDiscoveryGrace : Nat := 300 * second

/-- `degradedLatencyThreshold`, in nanoseconds. -/
def degradedLatencyThreshold : Nat := 5 * second

/-- `isModelDiscoveryHealthError`. -/
def isModelDiscoveryHealthError (message : Str) : Bool :=
  let message := trimSpace message
  (hasPrefix message (lit "Get ") && contains (toLower message) (lit "/models")) ||
    message == lit "CPA service unreachable"

/-- `shouldPreserveAccountErrorDuringDiscovery`. -/
def shouldPreserveAccountErrorDuringDiscovery (acc : Account) (now : Clock) : Bool :=
  acc.status == lit "error" && !isModelDiscoveryHealthError acc.lastError &&
    match acc.lastCheckedAt.bind parseRouteTime with
    | none => false
    | some checkedAt => now.nanos < checkedAt || now.nanos - checkedAt < accountErrorDiscoveryGrace

/-- What a check meets: the services in the cache, the discovery, and how long it
took, in nanoseconds and as text. -/
structure CheckIO where
  snap : CacheSnapshot
  discovery : Discovery
  latency : Nat := 0
  latencyText : Str := []

/-- The service of the account takes no requests. -/
def serviceUnreachable (snap : CacheSnapshot) (acc : Account) : Bool :=
  match acc.sourceKind == lit "cpa", acc.cpaServiceID with
  | true, some serviceID =>
    match snap.getCpaService serviceID with
    | none => true
    | some svc => svc.status == lit "error" || !svc.enabled
  | _, _ => false

/-- The health after a discovery that succeeded. -/
def discoveredHealth (io : CheckIO) : Str × Str :=
  if degradedLatencyThreshold < io.latency then
    (lit "degraded", lit "slow response: " ++ io.latencyText)
  else (lit "healthy", [])

/-- `checkOne`. -/
def checkOne (io : CheckIO) (acc : Account) : StoreProg Unit := do
  if serviceUnreachable io.snap acc then
    Prog.writes [.updateAccountHealth acc.id (lit "error") (lit "CPA service unreachable")]
  else
    match ← discoverModels io.discovery acc.id with
    | .error err => Prog.writes [.updateAccountHealth acc.id (lit "error") err]
    | .ok _ =>
      let latest ← Prog.look fun _ db => db.getAccount acc.id
      let current := latest.getD acc
      let now ← clock
      if shouldPreserveAccountErrorDuringDiscovery current now then pure ()
      else
        let (status, lastError) := discoveredHealth io
        Prog.writes [.updateAccountHealthIfUnchanged acc.id status lastError current]

/-! ## Resolution -/

/-- `resolveCpaRuntime`, with its statements. -/
def resolve (c : Checker) (env : RuntimeEnv) (acc : Account) (opts : ResolveOptions) :
    StoreProg (Except ResolveError CpaRuntime) := do
  let now ← clock
  let (result, effects) := resolveCpaRuntime c { env with now := now } acc opts
  Prog.writes (effects.filterMap effectCall?)
  pure result

/-- `restoreCpaCredentialStateIfNeeded`. -/
def restoreCpaCredentialStateIfNeeded (previous : Account) : StoreProg Unit := do
  let status := trimSpace previous.cpaCredentialStatus
  if [[], lit "unknown", lit "ok", lit "runtime_pending", lit "runtime_error"].contains status then
    pure ()
  else
    let now ← clock
    Prog.writes
      [.updateAccountCpaCredentialStatus previous.id status previous.cpaCredentialReason
        previous.cpaCredentialLastError
        (if previous.cpaCredentialCheckedAt = [] then now.rfc3339
          else previous.cpaCredentialCheckedAt)]

/-! ## The parts of a refresh -/

/-- The error of a subscription that nothing states yet. -/
def subscriptionPending : Str := lit "subscription metadata pending"

/-- `refreshCodexSubscriptionResolved`. -/
def refreshCodexSubscriptionResolved (c : Checker) (rt : CpaRuntime) :
    StoreProg (Bool × Option Str) := do
  let now ← clock
  let expiresAt := c.subscriptionActiveUntil rt.authFile.idToken rt.authFile.accessToken
  if expiresAt ≠ [] then
    Prog.writes [.updateAccountCpaSubscription rt.account.id expiresAt now.datetime []]
    pure (true, none)
  else if rt.authMeta.subscriptionExpiresAt ≠ [] then
    Prog.writes
      [.updateAccountCpaSubscription rt.account.id rt.authMeta.subscriptionExpiresAt now.datetime
        []]
    pure (true, none)
  else
    Prog.writes
      [.updateAccountCpaSubscription rt.account.id rt.account.cpaSubscriptionExpiresAt now.datetime
        subscriptionPending]
    pure (false, some subscriptionPending)

/-- `refreshCodexQuotaResolved`. -/
def refreshCodexQuotaResolved (usage : UsageCall) (rt : CpaRuntime) :
    StoreProg (Bool × Option Str) := do
  if rt.account.cpaOpenaiID = [] then pure (false, some (lit "missing ChatGPT account id"))
  else if rt.authMeta.authIndex = [] then
    pure (false, some (lit "CPA credential is still syncing"))
  else
    match ← fetchOneCodexQuota usage rt.account with
    | some err => pure (false, some err)
    | none => pure (true, none)

/-- `RefreshOptions`. -/
structure RefreshOptions where
  models : Bool := false
  quota : Bool := false
  subscription : Bool := false
  waitAuthIndex : Bool := false

/-- `RefreshResult`. -/
structure RefreshResult where
  models : List Str := []
  modelsRefreshed : Bool := false
  quotaRefreshed : Bool := false
  subscriptionRefreshed : Bool := false
  quotaPending : Bool := false
  subscriptionPending : Bool := false
  modelsError : Str := []
  quotaError : Str := []
  subscriptionError : Str := []
  credentialStatus : Str := []
  credentialReason : Str := []

/-- The result so far and the first error. -/
structure Outcome where
  result : RefreshResult := {}
  firstErr : Option Str := none

/-- The error becomes the first one, unless there is one. -/
def Outcome.fail (out : Outcome) (err : Str) : Outcome :=
  { out with firstErr := some (out.firstErr.getD err) }

/-- What a refresh meets: the discovery, the runtime at each of the two
resolutions, and the answer of the quota probe. -/
structure RefreshIO where
  discovery : Discovery
  runtime : RuntimeEnv
  authRuntime : RuntimeEnv
  usage : UsageCall

/-- The account is one of the provider codex. -/
def isCodexProvider (acc : Account) : Bool := toLower acc.cpaProvider == lit "codex"

/-- The outcome after a refresh of the subscription. -/
def Outcome.withSubscription (out : Outcome) (refreshed : Bool) (err : Option Str) : Outcome :=
  let out : Outcome :=
    { out with
      result :=
        { out.result with subscriptionRefreshed := refreshed, subscriptionPending := false } }
  match err with
  | none => out
  | some err =>
    if err = subscriptionPending then
      { out with result := { out.result with subscriptionPending := true } }
    else
      { out with result := { out.result with subscriptionError := err } }.fail err

/-- The step of `RefreshAccount` that discovers the models. -/
def refreshModels (io : RefreshIO) (acc : Account) (opts : RefreshOptions) (out : Outcome) :
    StoreProg Outcome := do
  if opts.models then
    match ← discoverModels io.discovery acc.id with
    | .error err =>
      pure { result := { out.result with modelsError := err }, firstErr := some err }
    | .ok models =>
      pure { out with result := { out.result with models := models, modelsRefreshed := true } }
  else pure out

/-- The step that refreshes the subscription. -/
def refreshSubscription (c : Checker) (acc : Account) (opts : RefreshOptions) (rt : CpaRuntime)
    (out : Outcome) : StoreProg Outcome := do
  if opts.subscription && isCodexProvider acc then
    let (refreshed, err) ← refreshCodexSubscriptionResolved c rt
    pure (out.withSubscription refreshed err)
  else pure out

/-- The outcome after the second resolution failed, when the quota was asked
for. -/
def Outcome.withUnresolvedQuota (out : Outcome) (opts : RefreshOptions) (err : ResolveError) :
    Outcome :=
  let result :=
    { out.result with credentialStatus := err.status, credentialReason := err.reason }
  if err.status = lit "runtime_pending" ∧ err.reason = lit "auth_index_pending" then
    let pending := opts.subscription && !result.subscriptionRefreshed &&
      result.subscriptionError == []
    { out with
      result :=
        { result with
          quotaPending := true
          subscriptionPending := result.subscriptionPending || pending } }
  else
    let out := { out with result := { result with quotaError := err.message } }
    if err.message = [] then out else out.fail err.message

/-- The step that refreshes the quota, and the subscription that is pending. -/
def refreshQuota (c : Checker) (io : RefreshIO) (acc : Account) (opts : RefreshOptions)
    (out : Outcome) : StoreProg Outcome := do
  let latest ← Prog.look fun _ db => db.getAccount acc.id
  let credentialBeforeQuota := latest.getD acc
  match ← resolve c io.authRuntime acc
      { needAuthIndex := true, waitAuthIndex := opts.waitAuthIndex } with
  | .error err => pure (out.withUnresolvedQuota opts err)
  | .ok authRuntime =>
    restoreCpaCredentialStateIfNeeded credentialBeforeQuota
    let (refreshed, err) ← refreshCodexQuotaResolved io.usage authRuntime
    let out := { out with result := { out.result with quotaRefreshed := refreshed } }
    let out :=
      match err with
      | none => out
      | some err => { out with result := { out.result with quotaError := err } }.fail err
    if opts.subscription && out.result.subscriptionPending then
      let (refreshed, err) ← refreshCodexSubscriptionResolved c authRuntime
      pure (out.withSubscription refreshed err)
    else pure out

/-- The outcome after the second resolution failed, when only the subscription
was pending. -/
def Outcome.withUnresolvedSubscription (out : Outcome) (err : ResolveError) : Outcome :=
  let result :=
    { out.result with credentialStatus := err.status, credentialReason := err.reason }
  if err.status = lit "runtime_pending" ∧ err.reason = lit "auth_index_pending" then
    { out with result := { result with subscriptionPending := true, subscriptionError := [] } }
  else
    let out : Outcome :=
      { out with
        result := { result with subscriptionPending := false, subscriptionError := err.message } }
    if err.message = [] then out else out.fail err.message

/-- The step that tries a pending subscription again. -/
def refreshPendingSubscription (c : Checker) (io : RefreshIO) (acc : Account)
    (opts : RefreshOptions) (out : Outcome) : StoreProg Outcome := do
  match ← resolve c io.authRuntime acc
      { needAuthIndex := true, waitAuthIndex := opts.waitAuthIndex } with
  | .error err => pure (out.withUnresolvedSubscription err)
  | .ok authRuntime =>
    let (refreshed, err) ← refreshCodexSubscriptionResolved c authRuntime
    pure (out.withSubscription refreshed err)

/-- Without a choice the models are refreshed. -/
def RefreshOptions.withDefault (opts : RefreshOptions) : RefreshOptions :=
  if !opts.models && !opts.quota && !opts.subscription then { opts with models := true } else opts

/-- The outcome after the first resolution failed. -/
def unresolvedOutcome (opts : RefreshOptions) (err : ResolveError) : Outcome :=
  { result :=
      { credentialStatus := err.status
        credentialReason := err.reason
        modelsError := if opts.models then err.message else []
        quotaError := if opts.quota then err.message else []
        subscriptionError := if opts.subscription then err.message else [] }
    firstErr := some err.message }

/-- `RefreshAccount`. -/
def refreshAccount (c : Checker) (io : RefreshIO) (acc : Account) (opts : RefreshOptions) :
    StoreProg Outcome := do
  let opts := opts.withDefault
  if acc.sourceKind ≠ lit "cpa" then
    match ← discoverModels io.discovery acc.id with
    | .error err => pure { result := { modelsError := err }, firstErr := some err }
    | .ok models => pure { result := { models := models, modelsRefreshed := true } }
  else
    match ← resolve c io.runtime acc {} with
    | .error err => pure (unresolvedOutcome opts err)
    | .ok rt =>
      let out ← refreshModels io acc opts
        { result := { credentialStatus := rt.account.cpaCredentialStatus } }
      let out ← refreshSubscription c acc opts rt out
      if opts.quota && isCodexProvider acc then refreshQuota c io acc opts out
      else if opts.subscription && isCodexProvider acc && out.result.subscriptionPending then
        refreshPendingSubscription c io acc opts out
      else pure out

/-! ## The sync of metadata -/

/-- `ListCpaAccountsWithKey`. -/
def listCpaAccountsWithKey (db : Database) : List Account :=
  (((db.accounts.rows.filter fun a =>
    a.sourceKind = lit "cpa" ∧ a.cpaAccountKey ≠ []).insertionSort fun a b =>
      a.id ≤ b.id).map scanAccountRow)

/-- `markCpaCredentialNeedsLogin`. -/
def markCpaCredentialNeedsLogin (accountID : Int) (reason lastError : Str) : StoreProg Unit := do
  let now ← clock
  let reason := if reason = [] then lit "auth_failed" else reason
  Prog.writes
    [.updateAccountCpaCredentialStatus accountID (lit "needs_login") reason
      (if lastError = [] then reason else lastError) now.rfc3339]

/-- An account whose credential file cannot be used. -/
def markCredentialUnusable (accountID : Int) (reason lastError : Str) : StoreProg Unit := do
  Prog.writes [.updateAccountHealth accountID (lit "error") lastError]
  markCpaCredentialNeedsLogin accountID reason lastError

/-- The write about the subscription that the tokens of a codex file state. -/
def syncSubscription (c : Checker) (accountID : Int) (f : CpaAuthFile) : StoreProg Unit := do
  let expiresAt := c.subscriptionActiveUntil f.idToken f.accessToken
  if toLower f.type == lit "codex" && expiresAt != [] then
    let now ← clock
    Prog.writes [.updateAccountCpaSubscription accountID expiresAt now.datetime []]
  else pure ()

/-- The loop body of `syncCpaMetadata`. -/
def syncAccount (c : Checker) (env : RuntimeEnv) (acc : Account) : StoreProg Unit := do
  match readAuthFile env acc.cpaAccountKey with
  | .error .notExist =>
    markCredentialUnusable acc.id (lit "file_missing") (lit "Credential file not found")
  | .error .other =>
    markCredentialUnusable acc.id (lit "file_corrupt") (lit "Credential file corrupt")
  | .ok f =>
    if authFileMetadataIsOlder acc.cpaLastRefreshAt f.lastRefresh then pure ()
    else
      Prog.writes [.updateAccountCpaMetadata acc.id f.expired f.lastRefresh f.disabled]
      syncSubscription c acc.id f
      if f.disabled then
        markCredentialUnusable acc.id (lit "disabled") (lit "CPA credential disabled")
      else pure ()

/-- `syncCpaMetadata`. -/
def syncCpaMetadata (c : Checker) (env : RuntimeEnv) : StoreProg Unit := do
  if c.cpaAuthDir = [] then pure ()
  else
    let accounts ← Prog.look fun _ db => listCpaAccountsWithKey db
    Prog.forEach accounts (syncAccount c env)

end Lune.Health
