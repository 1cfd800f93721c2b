import Lune.Health.Resolution

/-!
# What a refresh writes

Every statement of `RefreshAccount` is about the account it was called for.  It
stores the list of models, what is known of the credential and its file, and
what the quota probe brought.
-/

namespace Lune.Health

open GoText Keyed Lune.Store Programs

/-- A statement about the credential of the account: its file, its state, the
subscription it states. -/
def CredentialCall (id : Int) : StoreCall → Prop
  | .updateAccountCpaMetadata other _ _ _ | .updateAccountCpaCredentialStatus other _ _ _ _
  | .updateAccountCpaSubscription other _ _ _ => other = id
  | .updateAccountHealth other status _ => other = id ∧ status = lit "error"
  | _ => False

/-! ## A resolution -/

section Resolution

variable {c : Checker} {env : RuntimeEnv} {acc : Account} {opts : ResolveOptions}

theorem account_resolveCpaRuntime {rt : CpaRuntime}
    (h : (resolveCpaRuntime c env acc opts).1 = .ok rt) : rt.account = acc := by
  unfold resolveCpaRuntime at h
  dsimp only at h
  split at h
  · contradiction
  split at h
  · contradiction
  split at h
  · contradiction
  split at h
  · contradiction
  split at h
  · contradiction
  · contradiction
  next authFile hfile =>
    split at h
    · contradiction
    split at h
    · rw [← Except.ok.inj h]
    · exact (resolveAuthIndex_ok h).1

theorem credentialCall_of_writes {id : Int} {call : StoreCall} (h : WritesCredential id call) :
    CredentialCall id call := by
  cases call with
  | updateAccountCpaCredentialStatus => exact h.1
  | _ => exact h.elim

theorem credentialCalls_resolveCpaRuntime (hcpa : acc.sourceKind = lit "cpa")
    (hopts : opts.readOnly = false) :
    ∀ call ∈ (resolveCpaRuntime c env acc opts).2.filterMap effectCall?,
      CredentialCall acc.id call := by
  by_cases hreach : ∃ svc f, Reaches c env acc svc f
  · obtain ⟨svc, f, hreach⟩ := hreach
    obtain ⟨rest, hcalls, hrest⟩ := calls_resolveCpaRuntime_reached hreach hcpa hopts
    rw [hcalls]
    intro call hcall
    rcases List.mem_append.mp hcall with hfile | hcall
    · unfold fileCalls at hfile
      rcases List.mem_append.mp hfile with hmetadata | hfile
      · split at hmetadata
        · contradiction
        · obtain rfl := List.mem_singleton.mp hmetadata
          exact rfl
      · split at hfile
        · simp only [List.mem_cons, List.not_mem_nil, or_false] at hfile
          rcases hfile with rfl | rfl
          · exact ⟨rfl, rfl⟩
          · exact rfl
        · split at hfile
          · obtain rfl := List.mem_singleton.mp hfile
            exact rfl
          · contradiction
    · exact credentialCall_of_writes (hrest call hcall)
  · obtain ⟨err, hreason, hrefused | ⟨-, hrefused⟩⟩ :=
      @resolveCpaRuntime_unreached c env acc opts (fun svc f h => hreach ⟨svc, f, h⟩) hcpa
    · rw [hrefused]
      exact fun call hcall => credentialCall_of_writes (calls_refuse env acc opts hreason call hcall)
    · rw [hrefused]
      simp [refuseCredential, hopts, effectCall?, markCpaCredentialState, CredentialCall]

end Resolution

/-! ## The quota probe -/

/-- A statement about what the quota probe of the account brought. -/
def QuotaCall (id : Int) : StoreCall → Prop
  | .updateAccountCodexQuota other _ _ | .updateAccountCodexQuotaStatus other _ _ _
  | .updateAccountCodexQuotaBackoff other _ _ | .ensureAccountDiagnostic other => other = id
  | .updateAccountCpaAccessStatus other status reason lastError _ =>
    other = id ∧ status = lit "eligible" ∧ reason = lit "wham_usage_allowed" ∧ lastError = []
  | .updateAccountDiagnosticWithEvidence other update _ =>
    other = id ∧ ∃ env current, update = quotaProbeUpdate env id current
  | _ => False

theorem quotaCalls_recordCodexQuotaProbeDiagnostic {Q : StoreEnv → Database → Prop} (accountID : Int)
    (httpStatus : Int) :
    (recordCodexQuotaProbeDiagnostic accountID httpStatus).Safe Q (QuotaCall accountID)
      fun _ => True := by
  have hread : (getAccountDiagnostic accountID).Safe Q (QuotaCall accountID) fun _ => True := by
    unfold getAccountDiagnostic
    rw [Prog.safe_bind, Prog.safe_look]
    intro env db _
    split <;> simp [QuotaCall]
  unfold recordCodexQuotaProbeDiagnostic
  rw [Prog.safe_bind]
  apply hread.result
  intro current _
  rw [Prog.safe_bind, Prog.safe_look]
  intro env db _
  rw [Prog.safe_writes]
  refine ⟨?_, trivial⟩
  intro call hcall
  obtain rfl := List.mem_singleton.mp hcall
  exact ⟨rfl, env, current, rfl⟩

theorem safe_fetchOneCodexQuota {Q : StoreEnv → Database → Prop} (usage : UsageCall)
    (acc : Account) :
    (fetchOneCodexQuota usage acc).Safe Q (QuotaCall acc.id) fun _ => True := by
  unfold fetchOneCodexQuota
  cases usage.kind with
  | unanswered err => trivial
  | refused statusCode =>
    simp only [clock, recordQuotaFailure, Prog.safe_bind, Prog.safe_look, Prog.safe_writes]
    intro _ _ _
    refine ⟨by simp [QuotaCall], fun _ _ _ => ⟨by simp [QuotaCall], ?_⟩⟩
    split
    · rw [Prog.safe_bind]
      exact (quotaCalls_recordCodexQuotaProbeDiagnostic acc.id statusCode).result fun _ _ => trivial
    · trivial
  | empty => simp [clock, recordQuotaFailure, QuotaCall]
  | notJSON => simp [clock, recordQuotaFailure, QuotaCall]
  | snapshot body blocked =>
    cases blocked <;> simp [clock, recordQuotaSnapshot, QuotaCall]

/-! ## The parts of a refresh -/

section Refresh

variable {c : Checker} {io : RefreshIO} {acc : Account} {Q : StoreEnv → Database → Prop}
  {P : StoreCall → Prop}

/-- A resolution in a refresh. -/
theorem safe_resolve_credential {env : RuntimeEnv} {opts : ResolveOptions}
    (hcpa : acc.sourceKind = lit "cpa") (hopts : opts.readOnly = false)
    (hcredential : ∀ call, CredentialCall acc.id call → P call) :
    (resolve c env acc opts).Safe Q P fun result => ∀ rt, result = .ok rt → rt.account = acc := by
  apply safe_resolve
  · exact fun now call hcall => hcredential call (credentialCalls_resolveCpaRuntime hcpa hopts call hcall)
  · exact fun now rt hrt => account_resolveCpaRuntime hrt

theorem safe_restoreCpaCredentialStateIfNeeded {previous : Account} {id : Int}
    (hid : previous.id = id) (hcredential : ∀ call, CredentialCall id call → P call) :
    (restoreCpaCredentialStateIfNeeded previous).Safe Q P fun _ => True := by
  unfold restoreCpaCredentialStateIfNeeded
  dsimp only
  split
  · trivial
  · unfold clock
    rw [Prog.safe_bind, Prog.safe_look]
    intro env db _
    rw [Prog.safe_writes]
    refine ⟨?_, trivial⟩
    intro call hcall
    obtain rfl := List.mem_singleton.mp hcall
    exact hcredential _ hid

/-- A subscription is pending when neither the tokens of the file nor the entry of
the runtime's list states its end. -/
def subscriptionUnstated (c : Checker) (rt : CpaRuntime) : Bool :=
  c.subscriptionActiveUntil rt.authFile.idToken rt.authFile.accessToken == [] &&
    rt.authMeta.subscriptionExpiresAt == []

theorem safe_refreshCodexSubscriptionResolved {rt : CpaRuntime} (hrt : rt.account = acc)
    (hsubscription : ∀ expiresAt fetchedAt lastError,
      P (.updateAccountCpaSubscription acc.id expiresAt fetchedAt lastError)) :
    (refreshCodexSubscriptionResolved c rt).Safe Q P fun result =>
      result = if subscriptionUnstated c rt then (false, some subscriptionPending)
        else (true, none) := by
  subst hrt
  unfold refreshCodexSubscriptionResolved clock subscriptionUnstated
  rw [Prog.safe_bind, Prog.safe_look]
  intro env db _
  by_cases hfile : c.subscriptionActiveUntil rt.authFile.idToken rt.authFile.accessToken = []
  · by_cases hentry : rt.authMeta.subscriptionExpiresAt = []
    · simp [hsubscription, hfile, hentry]
    · simp [hsubscription, hfile, hentry]
  · simp [hsubscription, hfile]

theorem safe_refreshModels {opts : RefreshOptions} {out : Outcome}
    (hmodels : ∀ models, P (.refreshAccountModels acc.id models)) :
    (refreshModels io acc opts out).Safe Q P fun out' =>
      out'.result.subscriptionPending = out.result.subscriptionPending := by
  unfold refreshModels
  split
  · rw [Prog.safe_bind]
    apply safe_discoverModels _ _ hmodels
    intro result
    cases result <;> rfl
  · rfl

theorem safe_refreshSubscription {opts : RefreshOptions} {rt : CpaRuntime} {out : Outcome}
    (hrt : rt.account = acc)
    (hsubscription : ∀ expiresAt fetchedAt lastError,
      P (.updateAccountCpaSubscription acc.id expiresAt fetchedAt lastError)) :
    (refreshSubscription c acc opts rt out).Safe Q P fun out' =>
      out'.result.subscriptionPending =
        if opts.subscription && isCodexProvider acc then subscriptionUnstated c rt
        else out.result.subscriptionPending := by
  unfold refreshSubscription
  split
  · rw [Prog.safe_bind]
    apply (safe_refreshCodexSubscriptionResolved hrt hsubscription).result
    rintro _ rfl
    cases subscriptionUnstated c rt <;> rfl
  · rfl

theorem safe_refreshQuota {opts : RefreshOptions} {out : Outcome}
    (hcpa : acc.sourceKind = lit "cpa")
    (hcredential : ∀ call, CredentialCall acc.id call → P call)
    (hquota : (fetchOneCodexQuota io.usage acc).Safe Q P fun _ => True) :
    (refreshQuota c io acc opts out).Safe Q P fun _ => True := by
  unfold refreshQuota
  rw [Prog.safe_bind, Prog.safe_look]
  intro env db _
  have hid : ((db.getAccount acc.id).getD acc).id = acc.id := by
    cases hlatest : db.getAccount acc.id with
    | none => rfl
    | some latest =>
      obtain ⟨row, hrow, rfl⟩ := Option.map_eq_some_iff.mp hlatest
      exact (Table.mem_of_find? hrow).2
  rw [Prog.safe_bind]
  apply (safe_resolve_credential hcpa rfl hcredential).result
  intro result hresult
  cases result with
  | error err => trivial
  | ok rt =>
    have hrt : rt.account = acc := hresult rt rfl
    dsimp only
    rw [Prog.safe_bind]
    apply (safe_restoreCpaCredentialStateIfNeeded hid hcredential).result
    intro _ _
    rw [Prog.safe_bind]
    have hresolved : (refreshCodexQuotaResolved io.usage rt).Safe Q P fun _ => True := by
      unfold refreshCodexQuotaResolved
      rw [hrt]
      split
      · trivial
      split
      · trivial
      rw [Prog.safe_bind]
      apply hquota.result
      intro err _
      cases err <;> trivial
    have hpending : ∀ out : Outcome, (do
        let refreshed ← refreshCodexSubscriptionResolved c rt
        pure (out.withSubscription refreshed.1 refreshed.2)).Safe Q P fun _ => True := by
      intro out
      rw [Prog.safe_bind]
      exact (safe_refreshCodexSubscriptionResolved hrt fun _ _ _ => hcredential _ rfl).result
        fun _ _ => trivial
    apply hresolved.result
    rintro ⟨refreshed, err⟩ _
    cases err
    all_goals
      dsimp only
      split
      · exact hpending _
      · trivial

theorem safe_refreshPendingSubscription {opts : RefreshOptions} {out : Outcome}
    (hcpa : acc.sourceKind = lit "cpa")
    (hcredential : ∀ call, CredentialCall acc.id call → P call) :
    (refreshPendingSubscription c io acc opts out).Safe Q P fun _ => True := by
  unfold refreshPendingSubscription
  rw [Prog.safe_bind]
  apply (safe_resolve_credential hcpa rfl hcredential).result
  intro result hresult
  cases result with
  | error err => trivial
  | ok rt =>
    dsimp only
    rw [Prog.safe_bind]
    exact (safe_refreshCodexSubscriptionResolved (hresult rt rfl) fun _ _ _ =>
      hcredential _ rfl).result fun _ _ => trivial

/-- A refresh makes the statements about the models and the credential, and
those of the quota probe. -/
theorem safe_refreshAccount {opts : RefreshOptions}
    (hmodels : ∀ models, P (.refreshAccountModels acc.id models))
    (hcredential : ∀ call, CredentialCall acc.id call → P call)
    (hquota : (fetchOneCodexQuota io.usage acc).Safe Q P fun _ => True) :
    (refreshAccount c io acc opts).Safe Q P fun _ => True := by
  unfold refreshAccount
  dsimp only
  split
  · rw [Prog.safe_bind]
    apply safe_discoverModels _ _ hmodels
    intro result
    cases result <;> trivial
  next hcpa =>
    have hcpa : acc.sourceKind = lit "cpa" := not_not.mp hcpa
    rw [Prog.safe_bind]
    apply (safe_resolve_credential hcpa rfl hcredential).result
    intro result hresult
    cases result with
    | error err => trivial
    | ok rt =>
      dsimp only
      rw [Prog.safe_bind]
      apply (safe_refreshModels hmodels).result
      intro out _
      rw [Prog.safe_bind]
      apply (safe_refreshSubscription (hresult rt rfl) fun _ _ _ => hcredential _ rfl).result
      intro out _
      split
      · exact safe_refreshQuota hcpa hcredential hquota
      · split
        · exact safe_refreshPendingSubscription hcpa hcredential
        · trivial

end Refresh

/-! ## The sync -/

/-- The sync of an account is about its credential. -/
theorem safe_syncAccount_credential {Q : StoreEnv → Database → Prop} (c : Checker)
    (env : RuntimeEnv) (acc : Account) :
    (syncAccount c env acc).Safe Q (CredentialCall acc.id) fun _ => True := by
  have hunusable : ∀ reason lastError, (markCredentialUnusable acc.id reason lastError).Safe Q
      (CredentialCall acc.id) fun _ => True := by
    intro reason lastError
    simp [markCredentialUnusable, markCpaCredentialNeedsLogin, clock, CredentialCall]
  have hsubscription : ∀ f, (syncSubscription c acc.id f).Safe Q (CredentialCall acc.id)
      fun _ => True := by
    intro f
    unfold syncSubscription
    dsimp only
    split
    · simp [clock, CredentialCall]
    · trivial
  unfold syncAccount
  cases readAuthFile env acc.cpaAccountKey with
  | error failure =>
    cases failure <;> exact hunusable _ _
  | ok f =>
    dsimp only
    split
    · trivial
    · simp only [Prog.safe_bind, Prog.safe_writes, List.mem_singleton, forall_eq]
      refine ⟨rfl, (hsubscription f).result ?_⟩
      intro _ _
      split
      · exact hunusable _ _
      · trivial

/-- What the statements about any credential satisfy, the whole sync does. -/
theorem safe_syncCpaMetadata {Q : StoreEnv → Database → Prop} {P : StoreCall → Prop} (c : Checker)
    (env : RuntimeEnv) (hcredential : ∀ id call, CredentialCall id call → P call) :
    (syncCpaMetadata c env).Safe Q P fun _ => True := by
  unfold syncCpaMetadata
  split
  · trivial
  · rw [Prog.safe_bind, Prog.safe_look]
    intro storeEnv db _
    apply Prog.safe_forEach
    intro acc _
    exact (safe_syncAccount_credential c env acc).mono (fun _ _ hQ => hQ)
      (fun call hcall => hcredential acc.id call hcall) fun _ _ => trivial

end Lune.Health
