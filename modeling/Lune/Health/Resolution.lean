import Lune.Health.Refresh

/-!
# What a resolution writes

A resolution that gets to the credential file writes about the file and then
about the credential; one that does not writes that it did not.
-/

namespace Lune.Health

open GoText Keyed Lune.Store Programs

/-- The service of the account, when it takes requests. -/
def usableService (env : RuntimeEnv) (acc : Account) : Option CpaService :=
  acc.cpaServiceID.bind fun serviceID =>
    (env.snap.getCpaService serviceID).filter fun svc => svc.enabled

/-- The resolution gets to the credential file of the account. -/
structure Reaches (c : Checker) (env : RuntimeEnv) (acc : Account) (svc : CpaService)
    (f : CpaAuthFile) : Prop where
  service : usableService env acc = some svc
  authDir : c.cpaAuthDir ≠ []
  file : readAuthFile env acc.cpaAccountKey = .ok f

theorem Reaches.at {c : Checker} {env : RuntimeEnv} {acc : Account} {svc : CpaService}
    {f : CpaAuthFile} (h : Reaches c env acc svc f) (now : Clock) :
    Reaches c { env with now := now } acc svc f :=
  ⟨h.service, h.authDir, h.file⟩

/-- The error of a credential file that is disabled. -/
def credentialDisabled : ResolveError :=
  ⟨lit "needs_login", lit "disabled", lit "CPA credential disabled"⟩

section Reached

variable {c : Checker} {env : RuntimeEnv} {acc : Account} {svc : CpaService} {f : CpaAuthFile}
  {opts : ResolveOptions}

/-- A resolution at a file that is disabled. -/
theorem resolveCpaRuntime_disabled (h : Reaches c env acc svc f)
    (hcpa : acc.sourceKind = lit "cpa") (hdisabled : f.disabled = true) :
    resolveCpaRuntime c env acc opts =
      (.error credentialDisabled, authFileEffects acc f opts ++
        (refuseCredential env acc opts credentialDisabled).2) := by
  obtain ⟨serviceID, hid, hservice⟩ := Option.bind_eq_some_iff.mp h.service
  simp [resolveCpaRuntime, hcpa, hid, hservice, h.authDir, h.file, hdisabled, credentialDisabled,
    refuseCredential]

/-- A resolution at a file that is not. -/
theorem resolveCpaRuntime_enabled (h : Reaches c env acc svc f)
    (hcpa : acc.sourceKind = lit "cpa") (hdisabled : f.disabled = false) :
    resolveCpaRuntime c env acc opts =
      let rt : CpaRuntime := { account := acc, service := svc, authFile := f }
      let read := authFileEffects acc f opts ++ subscriptionEffects c env acc f opts
      if opts.needAuthIndex then
        let listed := resolveAuthIndex c env rt
          (if svc.managementKey = [] then c.managementKey else svc.managementKey) opts
        (listed.1, read ++ listed.2)
      else (.ok rt, read) := by
  obtain ⟨serviceID, hid, hservice⟩ := Option.bind_eq_some_iff.mp h.service
  cases hneed : opts.needAuthIndex <;>
    simp [resolveCpaRuntime, hcpa, hid, hservice, h.authDir, h.file, hdisabled, hneed]

/-- A resolution that does not get to the file is refused. -/
theorem resolveCpaRuntime_unreached (h : ∀ svc f, ¬Reaches c env acc svc f)
    (hcpa : acc.sourceKind = lit "cpa") : ∃ err, err.reason ≠ lit "disabled" ∧
    (resolveCpaRuntime c env acc opts = refuse env acc opts err ∨
      (∃ failure, readAuthFile env acc.cpaAccountKey = .error failure) ∧
        resolveCpaRuntime c env acc opts = refuseCredential env acc opts err) := by
  unfold resolveCpaRuntime
  rw [if_neg (not_not_intro hcpa)]
  split
  · exact ⟨_, by decide, Or.inl rfl⟩
  next serviceID hid =>
    split
    · exact ⟨_, by decide, Or.inl rfl⟩
    next svc hservice =>
      split
      · exact ⟨_, by decide, Or.inl rfl⟩
      next hdir =>
        split
        next hfile => exact ⟨_, by decide, Or.inr ⟨⟨_, hfile⟩, rfl⟩⟩
        next hfile => exact ⟨_, by decide, Or.inr ⟨⟨_, hfile⟩, rfl⟩⟩
        next f hfile =>
          refine absurd ⟨?_, hdir, hfile⟩ (h svc f)
          rw [usableService, hid]
          exact hservice

end Reached

/-! ## The statements -/

/-- The call writes the credential of the account, and not that its file is
disabled. -/
def WritesCredential (id : Int) : StoreCall → Prop
  | .updateAccountCpaCredentialStatus other _ reason _ _ => other = id ∧ reason ≠ lit "disabled"
  | _ => False

theorem calls_refuse (env : RuntimeEnv) (acc : Account) (opts : ResolveOptions)
    {err : ResolveError} (h : err.reason ≠ lit "disabled") :
    ∀ call ∈ (refuse env acc opts err).2.filterMap effectCall?, WritesCredential acc.id call := by
  unfold refuse
  split
  · simp
  · simp [markCpaCredentialState, effectCall?, WritesCredential, h]

/-- The entry of the runtime's list is only about the credential. -/
theorem calls_resolveAuthIndex (c : Checker) (env : RuntimeEnv) (rt : CpaRuntime)
    (managementKey : Str) (opts : ResolveOptions) :
    ∀ call ∈ (resolveAuthIndex c env rt managementKey opts).2.filterMap effectCall?,
      WritesCredential rt.account.id call := by
  have hmetadata : (resolveAuthMetadata c env rt.account.cpaAccountKey rt.authFile
      opts).2.filterMap effectCall? = [] := by
    unfold resolveAuthMetadata
    dsimp only
    split
    · rfl
    split
    · rfl
    split <;> rfl
  unfold resolveAuthIndex
  dsimp only
  split
  · exact calls_refuse env rt.account opts (by decide)
  generalize resolveAuthMetadata c env rt.account.cpaAccountKey rt.authFile opts = found at *
  obtain ⟨found, effects⟩ := found
  dsimp only at hmetadata ⊢
  rw [List.filterMap_append, hmetadata, List.nil_append]
  cases found with
  | error err =>
    dsimp only
    split
    · exact calls_refuse env rt.account opts (by decide)
    · apply calls_refuse env rt.account opts
      show lit "runtime_unreachable" ≠ lit "disabled"
      decide
  | ok found =>
    dsimp only
    split
    · split
      · simp
      · simp [markCpaCredentialOK, effectCall?, WritesCredential, lit]
    · exact calls_refuse env rt.account opts (by decide)

/-- The statements about a file that was read. -/
def fileCalls (c : Checker) (env : RuntimeEnv) (acc : Account) (f : CpaAuthFile) :
    List StoreCall :=
  (if authFileMetadataIsOlder acc.cpaLastRefreshAt f.lastRefresh then []
    else [.updateAccountCpaMetadata acc.id f.expired f.lastRefresh f.disabled]) ++
  if f.disabled then
    [.updateAccountHealth acc.id (lit "error") credentialDisabled.message,
      .updateAccountCpaCredentialStatus acc.id credentialDisabled.status credentialDisabled.reason
        credentialDisabled.message env.now.rfc3339]
  else if toLower f.type = lit "codex" ∧ c.subscriptionActiveUntil f.idToken f.accessToken ≠ [] then
    [.updateAccountCpaSubscription acc.id (c.subscriptionActiveUntil f.idToken f.accessToken)
      env.now.datetime []]
  else []

/-- A resolution that gets to the file writes about it first, and then only about
the credential. -/
theorem calls_resolveCpaRuntime_reached {c : Checker} {env : RuntimeEnv} {acc : Account}
    {svc : CpaService} {f : CpaAuthFile} {opts : ResolveOptions} (h : Reaches c env acc svc f)
    (hcpa : acc.sourceKind = lit "cpa") (hopts : opts.readOnly = false) :
    ∃ rest, (resolveCpaRuntime c env acc opts).2.filterMap effectCall? =
        fileCalls c env acc f ++ rest ∧ ∀ call ∈ rest, WritesCredential acc.id call := by
  have hread : (authFileEffects acc f opts).filterMap effectCall? =
      if authFileMetadataIsOlder acc.cpaLastRefreshAt f.lastRefresh then []
      else [.updateAccountCpaMetadata acc.id f.expired f.lastRefresh f.disabled] := by
    unfold authFileEffects
    cases authFileMetadataIsOlder acc.cpaLastRefreshAt f.lastRefresh <;> simp [hopts, effectCall?]
  cases hdisabled : f.disabled with
  | true =>
    refine ⟨[], ?_, by simp⟩
    rw [resolveCpaRuntime_disabled h hcpa hdisabled, List.filterMap_append, hread]
    simp [fileCalls, hdisabled, refuseCredential, hopts, effectCall?, markCpaCredentialState,
      credentialDisabled, lit]
  | false =>
    have hsubscription : (subscriptionEffects c env acc f opts).filterMap effectCall? =
        if toLower f.type = lit "codex" ∧
            c.subscriptionActiveUntil f.idToken f.accessToken ≠ [] then
          [.updateAccountCpaSubscription acc.id
            (c.subscriptionActiveUntil f.idToken f.accessToken) env.now.datetime []]
        else [] := by
      unfold subscriptionEffects
      simp only [hopts, Bool.not_false, Bool.true_and, Bool.and_eq_true, beq_iff_eq, bne_iff_ne]
      split <;> simp [effectCall?]
    rw [resolveCpaRuntime_enabled h hcpa hdisabled]
    dsimp only
    split
    · refine ⟨_, ?_, calls_resolveAuthIndex c env ⟨acc, svc, f, {}⟩
        (if svc.managementKey = [] then c.managementKey else svc.managementKey) opts⟩
      rw [List.filterMap_append, List.filterMap_append, hread, hsubscription]
      simp [fileCalls, hdisabled]
    · refine ⟨[], ?_, by simp⟩
      rw [List.filterMap_append, hread, hsubscription]
      simp [fileCalls, hdisabled]

/-! ## The program -/

theorem safe_resolve {c : Checker} {env : RuntimeEnv} {acc : Account} {opts : ResolveOptions}
    {Q : StoreEnv → Database → Prop} {P : StoreCall → Prop}
    {R : Except ResolveError CpaRuntime → Prop}
    (hcalls : ∀ now, ∀ call ∈
      (resolveCpaRuntime c { env with now := now } acc opts).2.filterMap effectCall?, P call)
    (hresult : ∀ now, R (resolveCpaRuntime c { env with now := now } acc opts).1) :
    (resolve c env acc opts).Safe Q P R := by
  unfold resolve clock
  rw [Prog.safe_bind, Prog.safe_look]
  intro storeEnv db _
  dsimp only
  rw [Prog.safe_bind, Prog.safe_writes]
  exact ⟨hcalls storeEnv.now, hresult storeEnv.now⟩

/-- The tables after a resolution at one time. -/
theorem run_resolve (c : Checker) (env : RuntimeEnv) (acc : Account) (opts : ResolveOptions)
    (storeEnv : StoreEnv) (db : Database) :
    ((resolve c env acc opts).run StoreCall.run storeEnv db).2 = runCalls storeEnv db
      ((resolveCpaRuntime c { env with now := storeEnv.now } acc opts).2.filterMap
        effectCall?) := by
  simp [resolve, clock, runCalls]

end Lune.Health
