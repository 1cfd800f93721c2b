import Lune.Health.OlderFile
import Lune.Health.RefreshCalls
import Lune.Lib.Races
import Lune.Store.Access

/-!
# A refresh against another writer of the credential

`RefreshAccount` while somebody else writes about the same account: the gateway
after a model request, another refresh, a login.  A refresh that only needs the
credential file writes nothing about the credential.  One that needs the list of
the runtime marks the credential and puts back what it read before, if it puts
anything back; a refresh that is refused writes down why.
-/

namespace Lune.Store

open GoText Keyed

/-! ## Writes of the credential -/

/-- The write gives the account `id` a credential. -/
def AccountWrite.writesCredential (db : Database) (id : Int) : AccountWrite → Bool
  | call (.updateAccountCpaCredentialStatus other _ _ _ _) => other == id
  | w => (w.importOf? db id).isSome

/-- The other writes leave the credential of the account alone. -/
theorem AccountWrite.credential_run (env : StoreEnv) {db : Database} {w : AccountWrite} {id : Int}
    {now : Credential} (h : db.column? AccountRow.credential id = some now)
    (hw : w.writesCredential db id = false) :
    (w.run env db).column? AccountRow.credential id = some now := by
  have hsame : ∀ {db' : Database}, db'.accounts = db.accounts →
      db'.column? AccountRow.credential id = some now := by
    intro db' haccounts
    rw [Database.column?, haccounts]
    exact h
  have hupdate : ∀ (other : Int) {f : AccountRow → AccountRow}, (∀ a, (f a).id = a.id) →
      (∀ a, AccountRow.credential { f a with updatedAt := env.now.datetime } = a.credential) →
      (db.updateAccount env other f).column? AccountRow.credential id = some now := by
    intro other f hid hkeeps
    rw [Database.column?_updateAccount_of_keeps db env other id hid hkeeps, h]
    rfl
  have himport : ∀ (other : Int) (imported : Account), other ≠ id →
      (db.updateCpaAccountFromImport env other imported).column? AccountRow.credential id =
        some now := by
    intro other imported hne
    rw [Database.column?, Database.updateCpaAccountFromImport,
      Database.find?_updateAccount db env other (f := Database.importedAccount env imported)
        fun _ => rfl, if_neg (Ne.symm hne)]
    exact h
  cases w with
  | call c =>
    rw [AccountWrite.run, StoreCall.credential_run, h]
    cases c with
    | updateAccountCpaCredentialStatus other status reason lastError checkedAt =>
      have hne : other ≠ id := by simpa [writesCredential] using hw
      simp [StoreCall.onCredential, hne]
    | _ => rfl
  | createAccount acc =>
    rcases Database.accounts_createAccount db env acc with hkeep | ⟨sourceKind, hset⟩
    · exact hsame hkeep
    · exact Database.column?_set_newAccount db env sourceKind acc hset h
  | updateAccount other acc => exact hupdate other (fun _ => rfl) fun _ => rfl
  | enableAccount other => exact hupdate other (fun _ => rfl) fun _ => rfl
  | disableAccount other => exact hupdate other (fun _ => rfl) fun _ => rfl
  | updateCpaAccountFromImport other imported =>
    apply himport
    simpa [writesCredential, importOf?] using hw
  | upsertCpaAccountAndPoolMemberFromImport poolID imported =>
    rcases Database.accounts_upsertCpaAccountAndPoolMemberFromImport db env poolID imported with
      ⟨target, htarget, haccounts⟩ | ⟨-, hkeep | ⟨sourceKind, hset⟩⟩
    · have hne : target ≠ id := by simpa [writesCredential, importOf?, htarget] using hw
      have hkeeps := himport target imported hne
      rw [Database.column?, ← haccounts] at hkeeps
      exact hkeeps
    · exact hsame hkeep
    · exact Database.column?_set_newAccount db env sourceKind imported hset h
  | addPoolMemberIdempotent poolID accountID =>
    apply hsame
    rw [AccountWrite.run]
    split
    · rfl
    · exact Database.accounts_addPoolMemberIdempotent db poolID accountID
  | updateAccountCpaSubscriptionStatus other status lastError checkedAt =>
    exact hupdate other (fun _ => rfl) fun _ => rfl
  | backfillAccountDiagnostics => exact hsame (Database.accounts_backfillAccountDiagnostics db env)
  | migrateCpaAccessColumns =>
    have hbackfilled : ∀ a, (Database.backfilledAccess a).credential = a.credential := by
      intro a
      unfold Database.backfilledAccess
      dsimp only
      split <;> rfl
    rw [AccountWrite.run, Database.column?, Database.find?_migrateCpaAccessColumns, Option.map_map]
    exact (congrArg₂ Option.map (funext hbackfilled) rfl).trans h

end Lune.Store

namespace Lune.Health

open GoText Keyed Lune.Store Programs

/-! ## The race -/

/-- The statuses of a verdict against a credential. -/
def credentialVerdicts : List Str := [lit "needs_login", lit "refresh_failed", lit "auth_suspect"]

/-- A refresh under way.  The note is the credential that the other writer wrote
last. -/
abbrev RefreshRace := Race StoreEnv Database StoreCall Outcome (Option Credential)

/-- The other writer makes any statement about accounts. -/
inductive OtherWrite (id : Int) :
    Database → Option Credential → Database → Option Credential → Prop where
  | mk (env : StoreEnv) (w : AccountWrite) (db : Database) (note : Option Credential) :
    OtherWrite id db note (w.run env db)
      (if w.writesCredential db id then (w.run env db).column? AccountRow.credential id else note)

/-- What should hold of the credential of the account at any moment of a refresh
that started with the verdict. -/
structure KeepsVerdict (id : Int) (verdict : Credential) (r : RefreshRace) : Prop where
  unchanged : ∀ out, r.rest = .ret out → out.firstErr = none → r.note = none →
    r.state.column? AccountRow.credential id = some verdict
  notOk : ∀ now, r.state.column? AccountRow.credential id = some now → now.status = lit "ok" →
    ∃ written, r.note = some written ∧ written.status = lit "ok"
  notOverwritten : ∀ written, r.note = some written →
    r.state.column? AccountRow.credential id = some written

/-- A refresh that keeps the verdict at every moment of every interleaving. -/
def LeavesVerdict (c : Checker) (io : RefreshIO) (acc : Account) (opts : RefreshOptions)
    (db : Database) (verdict : Credential) : Prop :=
  ∀ r, Race.Reaches StoreCall.run (OtherWrite acc.id) ⟨db, refreshAccount c io acc opts, none⟩ r →
    KeepsVerdict acc.id verdict r

/-- The refresh gets to a credential file that is not disabled and needs nothing
else: it asks for no quota, nor for a subscription that the file does not state. -/
def FileSuffices (c : Checker) (io : RefreshIO) (acc : Account) (opts : RefreshOptions) : Prop :=
  ∃ svc f, Reaches c io.runtime acc svc f ∧ f.disabled = false ∧
    ¬(isCodexProvider acc = true ∧ (opts.quota = true ∨
      opts.subscription = true ∧ c.subscriptionActiveUntil f.idToken f.accessToken = []))

@[simp] theorem RefreshOptions.quota_withDefault (opts : RefreshOptions) :
    opts.withDefault.quota = opts.quota := by
  unfold withDefault
  split <;> rfl

@[simp] theorem RefreshOptions.subscription_withDefault (opts : RefreshOptions) :
    opts.withDefault.subscription = opts.subscription := by
  unfold withDefault
  split <;> rfl

/-! ## A refresh that only needs the file -/

/-- The statement leaves the credential alone. -/
def LeavesCredential (id : Int) (call : StoreCall) : Prop :=
  ∀ old, call.onCredential id old = old

section FileSuffices

variable {c : Checker} {io : RefreshIO} {acc : Account} {svc : CpaService} {f : CpaAuthFile}

/-- The resolution of a file that is not disabled, without the list of the
runtime. -/
theorem safe_resolve_file {env : RuntimeEnv} {Q : StoreEnv → Database → Prop}
    (hcpa : acc.sourceKind = lit "cpa") (h : Reaches c env acc svc f)
    (henabled : f.disabled = false) :
    (resolve c env acc {}).Safe Q (LeavesCredential acc.id) fun result =>
      result = .ok { account := acc, service := svc, authFile := f } := by
  apply safe_resolve
  · intro now call hcall
    rw [resolveCpaRuntime_enabled (h.at now) hcpa henabled] at hcall
    obtain ⟨effect, heffect, hstore⟩ := List.mem_filterMap.mp hcall
    rcases List.mem_append.mp heffect with hfile | hsubscription
    · unfold authFileEffects at hfile
      split at hfile
      · obtain rfl := List.mem_singleton.mp hfile
        obtain rfl := Option.some.inj hstore
        exact fun _ => rfl
      · contradiction
    · unfold subscriptionEffects at hsubscription
      dsimp only at hsubscription
      split at hsubscription
      · obtain rfl := List.mem_singleton.mp hsubscription
        obtain rfl := Option.some.inj hstore
        exact fun _ => rfl
      · contradiction
  · intro now
    rw [resolveCpaRuntime_enabled (h.at now) hcpa henabled]
    rfl

theorem safe_refreshAccount_file {opts : RefreshOptions} {Q : StoreEnv → Database → Prop}
    (hcpa : acc.sourceKind = lit "cpa") (h : FileSuffices c io acc opts) :
    (refreshAccount c io acc opts).Safe Q (LeavesCredential acc.id) fun _ => True := by
  obtain ⟨svc, f, hreach, henabled, hneeds⟩ := h
  unfold refreshAccount
  dsimp only
  rw [if_neg (not_not_intro hcpa), Prog.safe_bind]
  apply (safe_resolve_file hcpa hreach henabled).result
  rintro _ rfl
  dsimp only
  rw [Prog.safe_bind]
  apply (safe_refreshModels fun _ _ => rfl).result
  intro out hout
  rw [Prog.safe_bind]
  apply (@safe_refreshSubscription c acc _ _ _ ⟨acc, svc, f, {}⟩ _ rfl fun _ _ _ _ => rfl).result
  intro out' hout'
  rw [RefreshOptions.subscription_withDefault, hout] at hout'
  rw [RefreshOptions.quota_withDefault, RefreshOptions.subscription_withDefault]
  by_cases hcodex : isCodexProvider acc = true
  · have hnoQuota : opts.quota = false := by
      cases hq : opts.quota with
      | true => exact absurd ⟨hcodex, Or.inl hq⟩ hneeds
      | false => rfl
    -- the file states the subscription that is asked for, so nothing is pending
    have hstated : (opts.subscription && out'.result.subscriptionPending) = false := by
      cases hs : opts.subscription with
      | false => rfl
      | true =>
        have hexpires : c.subscriptionActiveUntil f.idToken f.accessToken ≠ [] := by
          intro hnil
          exact hneeds ⟨hcodex, Or.inr ⟨hs, hnil⟩⟩
        rw [hout', hs, hcodex]
        simp [subscriptionUnstated, hexpires]
    rw [hnoQuota, hcodex, Bool.and_true, Bool.and_true, hstated]
    trivial
  · simp [hcodex]

end FileSuffices

/-! ## A refresh that writes the credential -/

/-- A statement that writes the credential of the account. -/
def CredentialStatusCall (id : Int) (call : StoreCall) : Prop :=
  ∃ status reason lastError checkedAt,
    call = .updateAccountCpaCredentialStatus id status reason lastError checkedAt

section Hits

variable {c : Checker} {env : RuntimeEnv} {io : RefreshIO} {acc : Account}

/-- A resolution that writes the credential in every environment does so as a
program. -/
theorem hits_resolve {opts : ResolveOptions}
    (h : ∀ now, ∃ call ∈
      (resolveCpaRuntime c { env with now := now } acc opts).2.filterMap effectCall?,
      CredentialStatusCall acc.id call) :
    (resolve c env acc opts).Hits (CredentialStatusCall acc.id) := by
  unfold resolve clock
  apply Prog.Hits.bind
  intro storeEnv db _
  obtain ⟨call, hmem, hcall⟩ := h storeEnv.now
  exact Prog.Hits.bind_left (Prog.Hits.writes hmem hcall)

theorem writes_refuse {opts : ResolveOptions} (hopts : opts.readOnly = false)
    (err : ResolveError) :
    ∃ call ∈ (refuse env acc opts err).2.filterMap effectCall?,
      CredentialStatusCall acc.id call := by
  simp [refuse, hopts, markCpaCredentialState, effectCall?, CredentialStatusCall]

theorem writes_refuseCredential {opts : ResolveOptions} (hopts : opts.readOnly = false)
    (err : ResolveError) :
    ∃ call ∈ (refuseCredential env acc opts err).2.filterMap effectCall?,
      CredentialStatusCall acc.id call := by
  simp [refuseCredential, hopts, markCpaCredentialState, effectCall?, CredentialStatusCall]

/-- A resolution that looks for the entry of the runtime marks the credential, or
is refused. -/
theorem writes_resolveAuthIndex {rt : CpaRuntime} {managementKey : Str} {opts : ResolveOptions}
    (hopts : opts.readOnly = false) :
    ∃ call ∈ (resolveAuthIndex c env rt managementKey opts).2.filterMap effectCall?,
      CredentialStatusCall rt.account.id call := by
  have hafter : ∀ {effects written : List Effect},
      (∃ call ∈ written.filterMap effectCall?, CredentialStatusCall rt.account.id call) →
      ∃ call ∈ (effects ++ written).filterMap effectCall?,
        CredentialStatusCall rt.account.id call := by
    rintro effects written ⟨call, hmem, hcall⟩
    rw [List.filterMap_append]
    exact ⟨call, List.mem_append_right _ hmem, hcall⟩
  unfold resolveAuthIndex
  dsimp only
  split
  · exact writes_refuse hopts _
  apply hafter
  generalize resolveAuthMetadata c env rt.account.cpaAccountKey rt.authFile opts = found
  obtain ⟨found, effects⟩ := found
  cases found with
  | error err =>
    dsimp only
    split <;> exact writes_refuse hopts _
  | ok found =>
    dsimp only
    split
    · simp [hopts, markCpaCredentialOK, effectCall?, CredentialStatusCall]
    · exact writes_refuse hopts _

/-- A resolution writes the credential unless it needs no entry and gets to a
file that is not disabled. -/
theorem writes_resolveCpaRuntime {opts : ResolveOptions} (hcpa : acc.sourceKind = lit "cpa")
    (hopts : opts.readOnly = false)
    (h : opts.needAuthIndex = true ∨ ¬∃ svc f, Reaches c env acc svc f ∧ f.disabled = false) :
    ∃ call ∈ (resolveCpaRuntime c env acc opts).2.filterMap effectCall?,
      CredentialStatusCall acc.id call := by
  by_cases hreach : ∃ svc f, Reaches c env acc svc f
  · obtain ⟨svc, f, hreach⟩ := hreach
    cases hdisabled : f.disabled with
    | true =>
      rw [resolveCpaRuntime_disabled hreach hcpa hdisabled, List.filterMap_append]
      obtain ⟨call, hmem, hcall⟩ := @writes_refuseCredential env acc opts hopts credentialDisabled
      exact ⟨call, List.mem_append_right _ hmem, hcall⟩
    | false =>
      have hneed : opts.needAuthIndex = true := by
        apply h.resolve_right
        exact not_not_intro ⟨svc, f, hreach, hdisabled⟩
      rw [resolveCpaRuntime_enabled hreach hcpa hdisabled]
      simp only [hneed, if_true]
      rw [List.filterMap_append]
      obtain ⟨call, hmem, hcall⟩ := @writes_resolveAuthIndex c env ⟨acc, svc, f, {}⟩
        (if svc.managementKey = [] then c.managementKey else svc.managementKey) opts hopts
      exact ⟨call, List.mem_append_right _ hmem, hcall⟩
  · obtain ⟨err, -, hrefused | ⟨-, hrefused⟩⟩ :=
      @resolveCpaRuntime_unreached c env acc opts (fun svc f h => hreach ⟨svc, f, h⟩) hcpa
    · rw [hrefused]
      exact writes_refuse hopts err
    · rw [hrefused]
      exact writes_refuseCredential hopts err

/-- The second resolution of a refresh writes the credential. -/
theorem hits_resolve_authIndex (hcpa : acc.sourceKind = lit "cpa") (waitAuthIndex : Bool) :
    (resolve c env acc { needAuthIndex := true, waitAuthIndex := waitAuthIndex }).Hits
      (CredentialStatusCall acc.id) :=
  hits_resolve fun _ => writes_resolveCpaRuntime hcpa rfl (Or.inl rfl)

/-- A refresh that needs more than the file writes the credential. -/
theorem hits_refreshAccount {opts : RefreshOptions} (hcpa : acc.sourceKind = lit "cpa")
    (h : ¬FileSuffices c io acc opts) :
    (refreshAccount c io acc opts).Hits (CredentialStatusCall acc.id) := by
  unfold refreshAccount
  dsimp only
  rw [if_neg (not_not_intro hcpa)]
  by_cases hfile : ∃ svc f, Reaches c io.runtime acc svc f ∧ f.disabled = false
  · obtain ⟨svc, f, hreach, henabled⟩ := hfile
    have hneeds : isCodexProvider acc = true ∧ (opts.quota = true ∨
        opts.subscription = true ∧ c.subscriptionActiveUntil f.idToken f.accessToken = []) := by
      by_contra hneeds
      exact h ⟨svc, f, hreach, henabled, hneeds⟩
    obtain ⟨hcodex, hneeds⟩ := hneeds
    apply Prog.Hits.bind
    apply (safe_resolve_file hcpa hreach henabled).mono (fun _ _ hQ => hQ) (fun _ _ => trivial)
    rintro _ rfl
    dsimp only
    apply Prog.Hits.bind
    apply (safe_refreshModels fun _ => trivial).result
    intro out _
    apply Prog.Hits.bind
    apply (@safe_refreshSubscription c acc _ _ _ ⟨acc, svc, f, {}⟩ _ rfl
      fun _ _ _ => trivial).result
    intro out' hout'
    rw [RefreshOptions.quota_withDefault, hcodex]
    cases hq : opts.quota with
    | true =>
      apply Prog.Hits.bind
      intro storeEnv db _
      exact Prog.Hits.bind_left (hits_resolve_authIndex hcpa _)
    | false =>
      obtain ⟨hs, hexpires⟩ := hneeds.resolve_left (by simp [hq])
      have hpending : out'.result.subscriptionPending = true := by
        rw [hout', RefreshOptions.subscription_withDefault, hs, hcodex]
        simp [subscriptionUnstated, hexpires]
      rw [RefreshOptions.subscription_withDefault, hs, hpending]
      exact Prog.Hits.bind_left (hits_resolve_authIndex hcpa _)
  · apply Prog.Hits.bind_left
    apply hits_resolve
    intro now
    apply writes_resolveCpaRuntime hcpa rfl
    refine Or.inr ?_
    rintro ⟨svc, f, hreach, henabled⟩
    exact hfile ⟨svc, f, ⟨hreach.service, hreach.authDir, hreach.file⟩, henabled⟩

end Hits

/-! ## The verdict -/

section Verdict

variable {c : Checker} {io : RefreshIO} {acc : Account} {opts : RefreshOptions} {db : Database}
  {verdict : Credential}

/-- At every moment of a refresh that only needs the file, the credential is what
the other writer wrote last, or else the verdict. -/
theorem credential_of_fileSuffices (hcpa : acc.sourceKind = lit "cpa")
    (hdb : db.column? AccountRow.credential acc.id = some verdict)
    (h : FileSuffices c io acc opts) {r : RefreshRace}
    (hr : Race.Reaches StoreCall.run (OtherWrite acc.id) ⟨db, refreshAccount c io acc opts, none⟩
      r) :
    r.state.column? AccountRow.credential acc.id = some (r.note.getD verdict) := by
  refine (Race.Reaches.keeps (I := fun s note =>
    s.column? AccountRow.credential acc.id = some (note.getD verdict)) hr ?_ ?_ hdb
    (safe_refreshAccount_file hcpa h)).1
  · intro env s note call hs hcall
    rw [StoreCall.credential_run, hs, Option.map_some, hcall]
  · intro s note t note' hs hother
    cases hother with
    | mk env w db note =>
      cases hw : w.writesCredential s acc.id with
      | false => exact AccountWrite.credential_run env hs hw
      | true =>
        have hrow : (s.accounts.find? acc.id).isSome := by
          rw [← Option.isSome_map (f := AccountRow.credential)]
          exact Option.isSome_of_eq_some hs
        obtain ⟨row, hrow⟩ := Option.isSome_iff_exists.mp (w.isSome_find?_run env hrow)
        rw [if_pos rfl, Database.column?, hrow]
        rfl

/-- Whatever a statement writes, another writer may write something else. -/
theorem exists_other_credential (credential : Credential) :
    ∃ status reason lastError, Credential.mk (defaultCpaStatus status) reason lastError ≠
      credential := by
  by_cases hok : credential.status = lit "ok"
  · refine ⟨lit "needs_login", lit "auth_failed", lit "HTTP 401", ?_⟩
    rintro rfl
    exact absurd hok (by decide)
  · refine ⟨lit "ok", lit "model_request_success", [], ?_⟩
    rintro rfl
    exact hok (by decide)

/-- A refresh that needs more than the file may overwrite what the other writer
wrote. -/
theorem not_leavesVerdict (hcpa : acc.sourceKind = lit "cpa")
    (hdb : db.column? AccountRow.credential acc.id = some verdict)
    (h : ¬FileSuffices c io acc opts) : ¬LeavesVerdict c io acc opts db verdict := by
  have hthere : (db.accounts.find? acc.id).isSome := by
    rw [← Option.isSome_map (f := AccountRow.credential)]
    exact Option.isSome_of_eq_some hdb
  let env : StoreEnv := ⟨default, fun _ => []⟩
  obtain ⟨s, call, next, hreach, ⟨status, reason, lastError, checkedAt, rfl⟩, hs⟩ :=
    Race.reaches_hit (J := fun s => (s.accounts.find? acc.id).isSome) env
      (hits_refreshAccount hcpa h)
      (fun env s call hs => (call.isSome_find?_run env s acc.id).trans hs) hthere none
  obtain ⟨status', reason', lastError', hne⟩ :=
    exists_other_credential ⟨defaultCpaStatus status, reason, lastError⟩
  let written : AccountWrite :=
    .call (.updateAccountCpaCredentialStatus acc.id status' reason' lastError' [])
  have hwritten : written.writesCredential s acc.id = true := by
    simp [written, AccountWrite.writesCredential]
  have hcolumn : ∀ {s : Database} {status reason lastError checkedAt : Str},
      (s.accounts.find? acc.id).isSome →
      ((StoreCall.updateAccountCpaCredentialStatus acc.id status reason lastError checkedAt).run env
        s).column? AccountRow.credential acc.id =
          some ⟨defaultCpaStatus status, reason, lastError⟩ := by
    intro s status reason lastError checkedAt hs
    obtain ⟨row, hrow⟩ := Option.isSome_iff_exists.mp hs
    rw [StoreCall.credential_run, Database.column?, hrow]
    simp [StoreCall.onCredential]
  intro hleaves
  -- the other writer writes just before the refresh does
  have hother : Race.Step StoreCall.run (OtherWrite acc.id)
      ⟨s, .write (.updateAccountCpaCredentialStatus acc.id status reason lastError checkedAt) next,
        none⟩ _ :=
    .other s _ none (.mk env written s none)
  rw [if_pos hwritten] at hother
  have hkept := hleaves _ ((hreach.tail hother).tail (.write env _ _ next _))
  have hlast := hkept.notOverwritten _ (hcolumn hs)
  rw [hcolumn (written.isSome_find?_run env hs)] at hlast
  exact hne (Option.some.inj hlast).symm

/-- A refresh of a CPA account with a verdict against its credential leaves the
verdict alone, in every interleaving with another writer, exactly when it only
needs a credential file that is not disabled. -/
theorem refresh_leaves_verdict_iff (hcpa : acc.sourceKind = lit "cpa")
    (hdb : db.column? AccountRow.credential acc.id = some verdict)
    (hverdict : verdict.status ∈ credentialVerdicts) :
    LeavesVerdict c io acc opts db verdict ↔ FileSuffices c io acc opts := by
  constructor
  · intro hleaves
    by_contra h
    exact not_leavesVerdict hcpa hdb h hleaves
  · intro h r hr
    have hcredential := credential_of_fileSuffices hcpa hdb h hr
    refine ⟨?_, ?_, ?_⟩
    · intro out _ _ hnote
      rw [hcredential, hnote]
      rfl
    · intro now hnow hok
      rw [hcredential] at hnow
      cases hnote : r.note with
      | none =>
        rw [hnote] at hnow
        obtain rfl := Option.some.inj hnow
        rw [show verdict.status = lit "ok" from hok] at hverdict
        exact absurd hverdict (by decide)
      | some written =>
        rw [hnote] at hnow
        obtain rfl := Option.some.inj hnow
        exact ⟨_, rfl, hok⟩
    · intro written hnote
      rw [hcredential, hnote]
      rfl

end Verdict

/-- A codex account whose last model request was refused as unauthenticated. -/
def refusedAccount : AccountRow :=
  { id := 1, sourceKind := lit "cpa", cpaServiceID := some 1, cpaProvider := lit "codex"
    cpaAccountKey := lit "k", cpaOpenaiID := lit "acct", cpaCredentialStatus := lit "needs_login"
    cpaCredentialReason := lit "auth_failed", cpaCredentialLastError := lit "HTTP 401" }

/-- A database with that account. -/
def refusedDatabase : Database := { accounts := Table.empty.set refusedAccount }

/-- A runtime that lists the account; the entry states the subscription, the file
does not. -/
def listedRuntime : RuntimeEnv where
  snap := { cpaServices := Table.ofList [(1, { id := 1, managementKey := lit "m" })] }
  now := default
  authFile := fun _ => .ok {}
  listing :=
    ⟨fun _ => .ok
      [{ id := lit "k", authIndex := lit "0"
         subscriptionActiveUntil := lit "2026-12-01T00:00:00Z" }], fun _ => none⟩
  reload := .ok ()
  listingAfterReload := ⟨fun _ => .ok [], fun _ => none⟩

/-- Every call succeeds. -/
def listedIO : RefreshIO where
  discovery := { answer := .ok [] }
  runtime := listedRuntime
  authRuntime := listedRuntime
  usage := { answer := .ok ⟨200, lit "\x7b\x7d"⟩ }

/-- A refresh of the account that nobody else has interfered with yet. -/
def refusedRefresh (opts : RefreshOptions) : RefreshRace :=
  ⟨refusedDatabase, refreshAccount plainChecker listedIO (scanAccountRow refusedAccount) opts, none⟩

theorem refusedDatabase_credential :
    refusedDatabase.column? AccountRow.credential (scanAccountRow refusedAccount).id =
      some refusedAccount.credential := by
  decide +kernel

/-- A refresh of the models of that account. -/
theorem models_refresh_leaves_verdict :
    LeavesVerdict plainChecker listedIO (scanAccountRow refusedAccount) { models := true }
      refusedDatabase refusedAccount.credential := by
  refine (refresh_leaves_verdict_iff rfl refusedDatabase_credential (by decide)).mpr ?_
  refine ⟨{ id := 1, managementKey := lit "m" }, {}, ⟨rfl, by decide, by rfl⟩, rfl, ?_⟩
  simp

/-- Alone, a refresh of the subscription leaves the credential as ok; during one of
the quota a reader sees ok before the verdict is put back, and the verdict is put
back over what a model request wrote that succeeded meanwhile. -/
theorem refresh_clears_verdict :
    refusedAccount.cpaCredentialStatus ∈ credentialVerdicts ∧
    (∃ out db, Race.Reaches StoreCall.run (OtherWrite 1) (refusedRefresh { subscription := true })
        ⟨db, .ret out, none⟩ ∧
      out.firstErr = none ∧ out.result.subscriptionRefreshed = true ∧
      db.column? AccountRow.credential 1 = some ⟨lit "ok", [], []⟩) ∧
    ¬LeavesVerdict plainChecker listedIO (scanAccountRow refusedAccount) { subscription := true }
      refusedDatabase refusedAccount.credential ∧
    (∃ r, Race.Reaches StoreCall.run (OtherWrite 1) (refusedRefresh { quota := true }) r ∧
      r.note = none ∧ r.state.column? AccountRow.credential 1 = some ⟨lit "ok", [], []⟩) ∧
    ∃ r, Race.Reaches StoreCall.run (OtherWrite 1) (refusedRefresh { quota := true }) r ∧
      r.note = some ⟨lit "ok", lit "model_request_success", []⟩ ∧
      r.state.column? AccountRow.credential 1 = some refusedAccount.credential := by
  let env : StoreEnv := ⟨default, fun _ => []⟩
  let alone := (refusedRefresh { subscription := true }).rest.run StoreCall.run env refusedDatabase
  -- the refresh has read the verdict and is about to mark the credential
  let before := (refusedRefresh { quota := true }).advance StoreCall.run env 5
  let success : AccountWrite :=
    .call (.updateAccountCpaCredentialStatus 1 (lit "ok") (lit "model_request_success") [] [])
  let after : RefreshRace := ⟨success.run env before.state, before.rest,
    if success.writesCredential before.state 1 then
      (success.run env before.state).column? AccountRow.credential 1
    else before.note⟩
  have hbefore : Race.Reaches StoreCall.run (OtherWrite 1) (refusedRefresh { quota := true })
      before := Race.reaches_advance env _ 5
  have halone : Race.Reaches StoreCall.run (OtherWrite 1) (refusedRefresh { subscription := true })
      ⟨alone.2, .ret alone.1, none⟩ :=
    Race.reaches_ends (Prog.ends_run StoreCall.run env _ refusedDatabase) none
  have hdone : alone.1.firstErr = none := by decide +kernel
  have hok : alone.2.column? AccountRow.credential 1 = some ⟨lit "ok", [], []⟩ := by decide +kernel
  refine ⟨by decide, ⟨_, _, halone, hdone, by decide +kernel, hok⟩, ?_,
    ⟨_, Race.reaches_advance env _ 6, by decide +kernel, by decide +kernel⟩,
    ⟨after.advance StoreCall.run env 3, ?_, by decide +kernel, by decide +kernel⟩⟩
  · intro hleaves
    have hkept := (hleaves _ halone).unchanged alone.1 rfl hdone rfl
    exact absurd (hok.symm.trans hkept) (by decide)
  · exact (hbefore.tail (.other before.state before.rest before.note (.mk env success _ _))).trans
      (Race.reaches_advance env after 3)

end Lune.Health
