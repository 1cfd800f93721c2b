import Lune.Store.Cache
import Lune.Store.Writes

/-!
# The credential a CPA account is bound to

`resolveCpaRuntime` and `ResolveRuntimeBinding` of `internal/health/checker.go`.
A resolution reads the service of the account, its credential file and the list
of credentials that the CPA runtime knows, and returns the entry of that list
that belongs to the account.  On the way it may write to the store and ask the
runtime to reload; these are its effects, and with `readOnly` there are none.

What is in the tokens of a credential file is a parameter of the checker.
-/

namespace Lune.Health

open GoText Keyed Lune.Store

/-- `cpa.CpaAuthFile`. -/
structure CpaAuthFile where
  accessToken : Str := []
  refreshToken : Str := []
  idToken : Str := []
  accountID : Str := []
  email : Str := []
  disabled : Bool := false
  expired : Str := []
  lastRefresh : Str := []
  type : Str := []
deriving DecidableEq

/-- Why a credential file was not read. -/
inductive ReadFailure where
  | notExist
  | other

/-- `cpa.AuthFile`: an entry of the runtime's list.  The end of the subscription
is what `NormalizeSubscriptionActiveUntil` makes of it. -/
structure AuthFile where
  id : Str := []
  name : Str := []
  authIndex : Str := []
  type : Str := []
  provider : Str := []
  email : Str := []
  chatGPTAccountID : Str := []
  planType : Str := []
  subscriptionActiveUntil : Str := []

/-- `authFileMetadata`. -/
structure AuthFileMetadata where
  id : Str := []
  authIndex : Str := []
  subscriptionExpiresAt : Str := []
  provider : Str := []
  email : Str := []
  openaiID : Str := []
  planType : Str := []

/-- `resolveOptions`. -/
structure ResolveOptions where
  needAuthIndex : Bool := false
  waitAuthIndex : Bool := false
  readOnly : Bool := false

/-- `resolveError`. -/
structure ResolveError where
  status : Str
  reason : Str
  message : Str

/-- The fields of `Checker` that a resolution uses, and what it reads off a pair
of tokens. -/
structure Checker where
  cpaAuthDir : Str := []
  managementKey : Str := []
  cpaReloadSignalPath : Str := []
  authIndexAttempts : Int := 0
  providerPinningSupported : Bool := false
  accountInfoPlanType : Str → Str → Option Str
  subscriptionActiveUntil : Str → Str → Str

/-- The answers of the runtime while a resolution waits for its list. -/
structure Listing where
  files : Nat → Except Str (List AuthFile)
  interrupted : Nat → Option Str

/-- What a resolution reads. -/
structure RuntimeEnv where
  snap : CacheSnapshot
  now : Clock
  authFile : Str → Except ReadFailure CpaAuthFile
  listing : Listing
  reload : Except Str Unit
  listingAfterReload : Listing

/-- What a resolution does besides reading. -/
inductive Effect where
  | store (call : StoreCall)
  | invalidate
  | reload

/-- The statement of an effect, when it is one. -/
def effectCall? : Effect → Option StoreCall
  | .store call => some call
  | .invalidate | .reload => none

/-- `cpaRuntime`. -/
structure CpaRuntime where
  account : Account
  service : CpaService
  authFile : CpaAuthFile
  authMeta : AuthFileMetadata := {}

/-- `RuntimeBinding`. -/
structure RuntimeBinding where
  accountID : Int
  accountKey : Str := []
  authID : Str := []
  authIndex : Str := []
  openAIID : Str := []
  provider : Str := []
  email : Str := []
  planType : Str := []
  bindingStatus : Str := []
  bindingReason : Str := []

/-! ## The list of credentials -/

/-- `authFileCandidateKeys`. -/
def authFileCandidateKeys (f : AuthFile) : List Str :=
  let key (s : Str) : Str := trimSuffix (trimSpace s) (lit ".json")
  let provider := if f.provider = [] then f.type else f.provider
  let plan := if f.planType = [] then lit "unknown" else f.planType
  let derived :=
    if provider ≠ [] ∧ f.email ≠ [] then
      [key (provider ++ lit "-" ++ f.email ++ lit "-" ++ plan)]
    else []
  (([key f.id, key f.name] ++ derived).filter (· ≠ [])).eraseDups

/-- The metadata of an entry. -/
def authFileMetadata (f : AuthFile) : AuthFileMetadata :=
  { id := f.id
    authIndex := f.authIndex
    subscriptionExpiresAt := f.subscriptionActiveUntil
    provider := firstNonEmpty [f.provider, f.type]
    email := f.email
    openaiID := f.chatGPTAccountID
    planType := f.planType }

/-- `listAuthMetadata`: entries without an index are passed over, and a later
entry takes a key from an earlier one. -/
def listAuthMetadata (files : List AuthFile) : GoMap Str AuthFileMetadata :=
  (files.filter fun f => f.authIndex ≠ []).foldl
    (fun m f => (authFileCandidateKeys f).foldl
      (fun (m : GoMap Str AuthFileMetadata) key => m.put key (authFileMetadata f)) m)
    Table.empty

/-- The error of a list that does not have the account yet. -/
def authIndexNotReady : Str := lit "CPA auth index not ready"

/-- `findAuthMetadata`. -/
def findAuthMetadata (files : Except Str (List AuthFile)) (accountKey : Str) :
    Except Str AuthFileMetadata :=
  match files with
  | .error err => .error err
  | .ok files =>
    match (listAuthMetadata files).get? accountKey with
    | none => .error authIndexNotReady
    | some found => if found.authIndex = [] then .error authIndexNotReady else .ok found

/-- `waitForAuthMetadata`: `i` calls have been made and `left` remain. -/
def waitForAuthMetadata (listing : Listing) (accountKey : Str) (i : Nat) (lastErr : Str) :
    Nat → Except Str AuthFileMetadata
  | 0 => .error lastErr
  | left + 1 =>
    match findAuthMetadata (listing.files i) accountKey with
    | .ok found => .ok found
    | .error err =>
      if left = 0 then .error err
      else match listing.interrupted i with
        | some ctxErr => .error ctxErr
        | none => waitForAuthMetadata listing accountKey (i + 1) err left

/-- `authMetadataMatchesAuthFile`. -/
def authMetadataMatchesAuthFile (c : Checker) (found : AuthFileMetadata) (authFile : CpaAuthFile) :
    Bool :=
  let agree (a b : Str) : Bool := a == [] || b == [] || equalFold a b
  agree found.provider authFile.type && agree found.email authFile.email &&
    (found.openaiID == [] || authFile.accountID == [] || found.openaiID == authFile.accountID) &&
    (found.planType == [] ||
      match c.accountInfoPlanType authFile.idToken authFile.accessToken with
      | some plan => plan == [] || plan == found.planType
      | none => true)

/-- `isAuthIndexMissingError`. -/
def isAuthIndexMissingError (err : Str) : Bool :=
  containsAny (toLower err) [lit "auth index not ready", lit "auth file not found"]

/-- `isAuthMetadataMismatchError`. -/
def isAuthMetadataMismatchError (err : Str) : Bool :=
  contains (toLower err) (lit "metadata mismatch")

/-- The error of metadata that contradicts the credential file. -/
def metadataMismatch : Str := lit "CPA auth index metadata mismatch"

/-- One wait and the comparison with the credential file. -/
def matchedAuthMetadata (c : Checker) (listing : Listing) (accountKey : Str)
    (authFile : CpaAuthFile) (attempts : Nat) : Except Str AuthFileMetadata :=
  match waitForAuthMetadata listing accountKey 0 authIndexNotReady attempts with
  | .error err => .error err
  | .ok found =>
    if authMetadataMatchesAuthFile c found authFile then .ok found else .error metadataMismatch

/-- `resolveAuthMetadata`. -/
def resolveAuthMetadata (c : Checker) (env : RuntimeEnv) (accountKey : Str)
    (authFile : CpaAuthFile) (opts : ResolveOptions) :
    Except Str AuthFileMetadata × List Effect :=
  let attempts := if opts.waitAuthIndex ∧ 1 ≤ c.authIndexAttempts then c.authIndexAttempts.toNat
    else 1
  match matchedAuthMetadata c env.listing accountKey authFile attempts with
  | .ok found => (.ok found, [])
  | .error err =>
    if !opts.waitAuthIndex || opts.readOnly ||
        (!isAuthIndexMissingError err && !isAuthMetadataMismatchError err) ||
        c.cpaReloadSignalPath == [] then
      (.error err, [])
    else match env.reload with
      | .error reloadErr => (.error reloadErr, [.reload])
      | .ok () =>
        (matchedAuthMetadata c env.listingAfterReload accountKey authFile attempts, [.reload])

/-! ## Resolution -/

/-- `markCpaCredentialState`. -/
def markCpaCredentialState (env : RuntimeEnv) (accountID : Int) (status reason lastError : Str) :
    List Effect :=
  [.store (.updateAccountCpaCredentialStatus accountID
      (if status = [] then lit "unknown" else status) reason
      (if lastError = [] then reason else lastError) env.now.rfc3339),
    .invalidate]

/-- `markCpaCredentialOK`. -/
def markCpaCredentialOK (env : RuntimeEnv) (accountID : Int) : List Effect :=
  [.store (.updateAccountCpaCredentialStatus accountID (lit "ok") [] [] env.now.rfc3339),
    .invalidate]

/-- The exit with an error, which is written down unless the resolution is
read-only. -/
def refuse (env : RuntimeEnv) (acc : Account) (opts : ResolveOptions) (err : ResolveError) :
    Except ResolveError CpaRuntime × List Effect :=
  (.error err,
    if opts.readOnly then []
    else markCpaCredentialState env acc.id err.status err.reason err.message)

/-- The exit over a bad credential file, which also marks the account. -/
def refuseCredential (env : RuntimeEnv) (acc : Account) (opts : ResolveOptions)
    (err : ResolveError) : Except ResolveError CpaRuntime × List Effect :=
  (.error err,
    if opts.readOnly then []
    else .store (.updateAccountHealth acc.id (lit "error") err.message) ::
      markCpaCredentialState env acc.id err.status err.reason err.message)

/-- `validateAccountKey`, and the read of the file of that key. -/
def readAuthFile (env : RuntimeEnv) (accountKey : Str) : Except ReadFailure CpaAuthFile :=
  if accountKey = [] ∨ containsAny accountKey [lit "/", lit "\\", lit ".."] then .error .other
  else env.authFile accountKey

/-- `authFileMetadataIsOlder`. -/
def authFileMetadataIsOlder (existingLastRefresh fileLastRefresh : Str) : Bool :=
  match parseRouteTime existingLastRefresh, parseRouteTime fileLastRefresh with
  | some existing, some file => file < existing
  | _, _ => false

/-- The writes about a credential file that was read. -/
def authFileEffects (acc : Account) (authFile : CpaAuthFile) (opts : ResolveOptions) :
    List Effect :=
  if !opts.readOnly && !authFileMetadataIsOlder acc.cpaLastRefreshAt authFile.lastRefresh then
    [.store (.updateAccountCpaMetadata acc.id authFile.expired authFile.lastRefresh
      authFile.disabled)]
  else []

/-- The write about the subscription its tokens state. -/
def subscriptionEffects (c : Checker) (env : RuntimeEnv) (acc : Account) (authFile : CpaAuthFile)
    (opts : ResolveOptions) : List Effect :=
  let expiresAt := c.subscriptionActiveUntil authFile.idToken authFile.accessToken
  if !opts.readOnly && toLower authFile.type == lit "codex" && expiresAt != [] then
    [.store (.updateAccountCpaSubscription acc.id expiresAt env.now.datetime [])]
  else []

/-- The last part of `resolveCpaRuntime`: the entry of the runtime's list. -/
def resolveAuthIndex (c : Checker) (env : RuntimeEnv) (rt : CpaRuntime) (managementKey : Str)
    (opts : ResolveOptions) : Except ResolveError CpaRuntime × List Effect :=
  let acc := rt.account
  if managementKey = [] then
    refuse env acc opts
      ⟨lit "runtime_error", lit "management_key_missing", lit "CPA management key is empty"⟩
  else
    let (found, effects) := resolveAuthMetadata c env acc.cpaAccountKey rt.authFile opts
    let (result, written) : Except ResolveError CpaRuntime × List Effect :=
      match found with
      | .ok found =>
        if found.authIndex ≠ [] then
          (.ok { rt with authMeta := found },
            if opts.readOnly then [] else markCpaCredentialOK env acc.id)
        else
          refuse env acc opts
            ⟨lit "runtime_pending", lit "auth_index_pending", lit "CPA credential is still syncing"⟩
      | .error err =>
        if isAuthIndexMissingError err then
          refuse env acc opts
            ⟨lit "runtime_pending", lit "auth_index_pending", lit "CPA credential is still syncing"⟩
        else refuse env acc opts ⟨lit "runtime_error", lit "runtime_unreachable", err⟩
    (result, effects ++ written)

/-- `resolveCpaRuntime`. -/
def resolveCpaRuntime (c : Checker) (env : RuntimeEnv) (acc : Account) (opts : ResolveOptions) :
    Except ResolveError CpaRuntime × List Effect :=
  if acc.sourceKind ≠ lit "cpa" then
    (.error ⟨lit "unknown", lit "not_cpa", lit "account is not a CPA account"⟩, [])
  else match acc.cpaServiceID with
    | none =>
      refuse env acc opts ⟨lit "runtime_error", lit "service_missing", lit "missing CPA service"⟩
    | some serviceID =>
      match (env.snap.getCpaService serviceID).filter fun svc => svc.enabled with
      | none =>
        refuse env acc opts
          ⟨lit "runtime_error", lit "runtime_unreachable", lit "CPA service unreachable"⟩
      | some svc =>
        if c.cpaAuthDir = [] then
          refuse env acc opts
            ⟨lit "runtime_error", lit "auth_dir_missing", lit "cpa_auth_dir is not configured"⟩
        else match readAuthFile env acc.cpaAccountKey with
          | .error .notExist =>
            refuseCredential env acc opts
              ⟨lit "needs_login", lit "file_missing", lit "Credential file not found"⟩
          | .error .other =>
            refuseCredential env acc opts
              ⟨lit "needs_login", lit "file_corrupt", lit "Credential file corrupt"⟩
          | .ok authFile =>
            let read := authFileEffects acc authFile opts
            if authFile.disabled then
              let (result, written) := refuseCredential env acc opts
                ⟨lit "needs_login", lit "disabled", lit "CPA credential disabled"⟩
              (result, read ++ written)
            else
              let read := read ++ subscriptionEffects c env acc authFile opts
              let rt : CpaRuntime := { account := acc, service := svc, authFile := authFile }
              if !opts.needAuthIndex then (.ok rt, read)
              else
                let (result, written) := resolveAuthIndex c env rt
                  (if svc.managementKey = [] then c.managementKey else svc.managementKey) opts
                (result, read ++ written)

/-- `ResolveRuntimeBinding`. -/
def resolveRuntimeBinding (c : Checker) (env : RuntimeEnv) (acc : Account)
    (waitAuthIndex readOnly : Bool) : Except ResolveError RuntimeBinding × List Effect :=
  match resolveCpaRuntime c env acc
      { needAuthIndex := true, waitAuthIndex := waitAuthIndex, readOnly := readOnly } with
  | (.error err, effects) => (.error err, effects)
  | (.ok rt, effects) =>
    (.ok
      { accountID := acc.id
        accountKey := acc.cpaAccountKey
        authID := rt.authMeta.id
        authIndex := rt.authMeta.authIndex
        openAIID := firstNonEmpty [rt.authMeta.openaiID, acc.cpaOpenaiID]
        provider := firstNonEmpty [rt.authMeta.provider, acc.cpaProvider]
        email := firstNonEmpty [rt.authMeta.email, acc.cpaEmail]
        planType := firstNonEmpty [rt.authMeta.planType, acc.cpaPlanType]
        bindingStatus := lit "confirmed" },
      effects)

/-! ## A read-only resolution only reads -/

section ReadOnly

variable {opts : ResolveOptions} (h : opts.readOnly = true)

include h

theorem refuse_readOnly (env : RuntimeEnv) (acc : Account) (err : ResolveError) :
    refuse env acc opts err = (.error err, []) := by
  rw [refuse, if_pos h]

theorem refuseCredential_readOnly (env : RuntimeEnv) (acc : Account) (err : ResolveError) :
    refuseCredential env acc opts err = (.error err, []) := by
  rw [refuseCredential, if_pos h]

theorem resolveAuthMetadata_readOnly (c : Checker) (env : RuntimeEnv) (accountKey : Str)
    (authFile : CpaAuthFile) : (resolveAuthMetadata c env accountKey authFile opts).2 = [] := by
  unfold resolveAuthMetadata
  dsimp only
  split
  · rfl
  · simp [h]

theorem resolveAuthIndex_readOnly (c : Checker) (env : RuntimeEnv) (rt : CpaRuntime)
    (managementKey : Str) : (resolveAuthIndex c env rt managementKey opts).2 = [] := by
  unfold resolveAuthIndex
  dsimp only
  have heffects := resolveAuthMetadata_readOnly h c env rt.account.cpaAccountKey rt.authFile
  split
  · rw [refuse_readOnly h]
  generalize resolveAuthMetadata c env rt.account.cpaAccountKey rt.authFile opts = found at *
  obtain ⟨found, effects⟩ := found
  obtain rfl : effects = [] := heffects
  cases found with
  | error err =>
    dsimp only
    split <;> rw [refuse_readOnly h] <;> rfl
  | ok found =>
    dsimp only
    split
    · rfl
    · rw [refuse_readOnly h]
      rfl

theorem resolveCpaRuntime_readOnly (c : Checker) (env : RuntimeEnv) (acc : Account) :
    (resolveCpaRuntime c env acc opts).2 = [] := by
  have hread : ∀ authFile, authFileEffects acc authFile opts = [] := by
    intro authFile
    simp [authFileEffects, h]
  have hsubscription : ∀ authFile, subscriptionEffects c env acc authFile opts = [] := by
    intro authFile
    simp [subscriptionEffects, h]
  unfold resolveCpaRuntime
  simp only [refuse_readOnly h, refuseCredential_readOnly h, hread, hsubscription]
  split
  · rfl
  split
  · rfl
  split
  · rfl
  split
  · rfl
  split
  · rfl
  · rfl
  split
  · rfl
  split
  · rfl
  · exact resolveAuthIndex_readOnly h c env _ _

end ReadOnly

/-! ## What a binding says -/

theorem resolveAuthIndex_ok {c : Checker} {env : RuntimeEnv} {rt rt' : CpaRuntime}
    {managementKey : Str} {opts : ResolveOptions}
    (h : (resolveAuthIndex c env rt managementKey opts).1 = .ok rt') :
    rt'.account = rt.account ∧ rt'.authMeta.authIndex ≠ [] := by
  unfold resolveAuthIndex at h
  dsimp only at h
  split at h
  · contradiction
  generalize resolveAuthMetadata c env rt.account.cpaAccountKey rt.authFile opts = found at h
  obtain ⟨found, effects⟩ := found
  cases found with
  | error err =>
    dsimp only at h
    split at h <;> contradiction
  | ok found =>
    dsimp only at h
    split at h
    next hindex =>
      obtain rfl := Except.ok.inj h
      exact ⟨rfl, hindex⟩
    · contradiction

/-- A runtime that was resolved with its entry: the account has a key, and the
entry an index. -/
theorem resolveCpaRuntime_ok {c : Checker} {env : RuntimeEnv} {acc : Account}
    {opts : ResolveOptions} {rt : CpaRuntime} (hopts : opts.needAuthIndex = true)
    (h : (resolveCpaRuntime c env acc opts).1 = .ok rt) :
    acc.cpaAccountKey ≠ [] ∧ rt.authMeta.authIndex ≠ [] := by
  unfold resolveCpaRuntime at h
  dsimp only at h
  split at h
  · contradiction
  split at h
  · contradiction
  split at h
  · contradiction
  split at h
  · contradiction
  split at h
  · contradiction
  · contradiction
  next authFile hfile =>
    have hkey : acc.cpaAccountKey ≠ [] := by
      intro hnil
      rw [readAuthFile, if_pos (Or.inl hnil)] at hfile
      contradiction
    split at h
    · contradiction
    rw [hopts] at h
    exact ⟨hkey, (resolveAuthIndex_ok h).2⟩

/-- Every binding names the key of its account and an index, and neither is
empty. -/
theorem resolveRuntimeBinding_ok {c : Checker} {env : RuntimeEnv} {acc : Account}
    {waitAuthIndex readOnly : Bool} {binding : RuntimeBinding}
    (h : (resolveRuntimeBinding c env acc waitAuthIndex readOnly).1 = .ok binding) :
    binding.accountKey = acc.cpaAccountKey ∧ binding.accountKey ≠ [] ∧ binding.authIndex ≠ [] := by
  unfold resolveRuntimeBinding at h
  split at h
  · contradiction
  next rt effects hrun =>
    obtain rfl := Except.ok.inj h
    obtain ⟨hkey, hindex⟩ := resolveCpaRuntime_ok rfl (congrArg Prod.fst hrun)
    exact ⟨rfl, hkey, hindex⟩

/-- Resolving a binding with `readOnly` writes nothing and requests no reload. -/
theorem resolveRuntimeBinding_readOnly (c : Checker) (env : RuntimeEnv) (acc : Account)
    (waitAuthIndex : Bool) : (resolveRuntimeBinding c env acc waitAuthIndex true).2 = [] := by
  unfold resolveRuntimeBinding
  have heffects : (resolveCpaRuntime c env acc
      { needAuthIndex := true, waitAuthIndex := waitAuthIndex, readOnly := true }).2 = [] :=
    resolveCpaRuntime_readOnly rfl c env acc
  split
  all_goals
    rename_i hrun
    rw [hrun] at heffects
    exact heffects

end Lune.Health
