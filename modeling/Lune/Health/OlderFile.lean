import Lune.Health.Resolution

/-!
# A credential file older than the store

Where the store already has a later refresh of the credential than the file,
`syncCpaMetadata` passes over the account.  `resolveCpaRuntime` only leaves out
the metadata: what else the file says, that it is disabled or when its
subscription ends, still goes to the store.
-/

namespace Lune.Health

open GoText Keyed Lune.Store Programs

/-! ## What the store has from a file -/

/-- The columns that a credential file may reach: the metadata, the health, the
subscription and the access. -/
structure FileState where
  expiredAt : Str
  lastRefreshAt : Str
  disabled : Bool
  status : Str
  lastError : Str
  lastCheckedAt : Option Str
  subscriptionExpiresAt : Str
  subscriptionFetchedAt : Str
  subscriptionLastError : Str
  subscriptionStatus : Str
  accessStatus : Str
  accessReason : Str
  accessLastError : Str
  accessCheckedAt : Str

/-- These columns of a row. -/
def fileState (a : AccountRow) : FileState :=
  { expiredAt := a.cpaExpiredAt
    lastRefreshAt := a.cpaLastRefreshAt
    disabled := a.cpaDisabled
    status := a.status
    lastError := a.lastError
    lastCheckedAt := a.lastCheckedAt
    subscriptionExpiresAt := a.cpaSubscriptionExpiresAt
    subscriptionFetchedAt := a.cpaSubscriptionFetchedAt
    subscriptionLastError := a.cpaSubscriptionLastError
    subscriptionStatus := a.cpaSubscriptionStatus
    accessStatus := a.cpaAccessStatus
    accessReason := a.cpaAccessReason
    accessLastError := a.cpaAccessLastError
    accessCheckedAt := a.cpaAccessCheckedAt }

/-- Nothing of a file has reached the account since it was `row`; the credential
may have changed, but not because the file is disabled. -/
def KeepsFileState (row : AccountRow) (db : Database) : Prop :=
  ∃ row', db.accounts.find? row.id = some row' ∧ fileState row' = fileState row ∧
    (row'.credential = row.credential ∨ row'.cpaCredentialReason ≠ lit "disabled")

/-! ## The sync -/

/-- An account whose file is older is passed over. -/
theorem syncAccount_older {c : Checker} {env : RuntimeEnv} {acc : Account} {f : CpaAuthFile}
    (hfile : readAuthFile env acc.cpaAccountKey = .ok f)
    (holder : authFileMetadataIsOlder acc.cpaLastRefreshAt f.lastRefresh = true) :
    syncAccount c env acc = pure () := by
  unfold syncAccount
  rw [hfile]
  dsimp only
  rw [if_pos holder]

section Sync

variable {Q : StoreEnv → Database → Prop}

theorem safe_markCredentialUnusable (accountID : Int) (reason lastError : Str) :
    (markCredentialUnusable accountID reason lastError).Safe Q
      (fun call => call.accountID? = some accountID) fun _ => True := by
  simp [markCredentialUnusable, markCpaCredentialNeedsLogin, clock, StoreCall.accountID?]

/-- The sync of an account writes to its row only. -/
theorem safe_syncAccount (c : Checker) (env : RuntimeEnv) (acc : Account) :
    (syncAccount c env acc).Safe Q (fun call => call.accountID? = some acc.id) fun _ => True := by
  have hsubscription : ∀ f, (syncSubscription c acc.id f).Safe Q
      (fun call => call.accountID? = some acc.id) fun _ => True := by
    intro f
    unfold syncSubscription
    dsimp only
    split
    · simp [clock, StoreCall.accountID?]
    · trivial
  unfold syncAccount
  cases readAuthFile env acc.cpaAccountKey with
  | error failure =>
    cases failure <;> exact safe_markCredentialUnusable acc.id _ _
  | ok f =>
    dsimp only
    split
    · trivial
    · simp only [Prog.safe_bind, Prog.safe_writes, List.mem_singleton, forall_eq]
      refine ⟨rfl, (hsubscription f).mono (fun _ _ hQ => hQ) (fun _ hP => hP) ?_⟩
      intro _ _
      split
      · exact safe_markCredentialUnusable acc.id _ _
      · trivial

end Sync

/-- The row of an account that is read for the sync. -/
theorem mem_listCpaAccountsWithKey {db : Database} {row : AccountRow} {acc : Account}
    (hrow : db.accounts.find? row.id = some row) (h : acc ∈ listCpaAccountsWithKey db)
    (hid : acc.id = row.id) : acc = scanAccountRow row := by
  obtain ⟨a, ha, rfl⟩ := List.mem_map.mp h
  have hmem := (List.mem_insertionSort _).mp ha
  have hfind := Table.find?_of_mem (List.mem_of_mem_filter hmem)
  rw [show a.id = row.id from hid, hrow] at hfind
  rw [Option.some.inj hfind]

/-- The sync leaves the row of an account alone whose file is older. -/
theorem find?_syncCpaMetadata {c : Checker} {env : RuntimeEnv} {f : CpaAuthFile}
    {row : AccountRow} {db db' : Database} {u : Unit}
    (hfile : readAuthFile env row.cpaAccountKey = .ok f)
    (holder : authFileMetadataIsOlder row.cpaLastRefreshAt f.lastRefresh = true)
    (hrow : db.accounts.find? row.id = some row)
    (h : (syncCpaMetadata c env).Ends StoreCall.run db u db') :
    db'.accounts.find? row.id = some row := by
  have hsafe : (syncCpaMetadata c env).Safe (fun _ s => s.accounts.find? row.id = some row)
      (fun call => call.accountID? ≠ some row.id) fun _ => True := by
    unfold syncCpaMetadata
    split
    · trivial
    rw [Prog.safe_bind, Prog.safe_look]
    intro storeEnv s hs
    apply Prog.safe_forEach
    intro acc hacc
    by_cases hid : acc.id = row.id
    · rw [mem_listCpaAccountsWithKey hs hacc hid, syncAccount_older hfile holder]
      trivial
    · apply (safe_syncAccount c env acc).mono (fun _ _ hQ => hQ) _ fun _ hR => hR
      intro call hcall heq
      rw [hcall] at heq
      exact hid (Option.some.inj heq)
  apply (h.keeps hsafe _ hrow).1
  intro storeEnv s call hs hcall
  rw [StoreCall.find?_run_of_ne storeEnv s hcall]
  exact hs

/-! ## The resolution -/

/-- The resolution stops at a file that it treats as the older one: it does not
get to the file, or the account it was given has the later refresh too, and the
file is not disabled and states no end of a subscription. -/
def StopsAtFile (c : Checker) (env : RuntimeEnv) (acc : Account) (f : CpaAuthFile) : Prop :=
  (∃ svc, Reaches c env acc svc f) →
    authFileMetadataIsOlder acc.cpaLastRefreshAt f.lastRefresh = true ∧ f.disabled = false ∧
      (toLower f.type = lit "codex" → c.subscriptionActiveUntil f.idToken f.accessToken = [])

section Resolve

variable {c : Checker} {env : RuntimeEnv} {acc : Account} {f : CpaAuthFile}
  {opts : ResolveOptions} {row : AccountRow}

/-- Writing the credential changes no column that a file may reach. -/
theorem keeps_of_writesCredential {τ : Type} {π : AccountRow → τ} {id : Int} {call : StoreCall}
    (h : WritesCredential id call)
    (hπ : ∀ a a' : AccountRow, fileState a = fileState a' → π a = π a') : call.Keeps π id := by
  intro env db
  cases call with
  | updateAccountCpaCredentialStatus other status reason lastError checkedAt =>
    refine Eq.trans (Database.column?_updateAccount_of_keeps db env other id ?_ ?_)
      Option.map_id'
    · intro a
      rfl
    · intro a
      exact hπ _ a rfl
  | _ => exact h.elim

theorem keepsFileState_run {db : Database} {call : StoreCall} (storeEnv : StoreEnv)
    (hcall : WritesCredential row.id call) (h : KeepsFileState row db) :
    KeepsFileState row (call.run storeEnv db) := by
  obtain ⟨row', hrow', hstate, -⟩ := h
  have hthere := StoreCall.isSome_find?_run storeEnv db call row.id
  rw [hrow'] at hthere
  obtain ⟨row'', hrow''⟩ := Option.isSome_iff_exists.mp hthere
  have hcolumns := keeps_of_writesCredential hcall (π := fileState) (fun _ _ h => h) storeEnv db
  have hcredential := StoreCall.credential_run storeEnv db call row.id
  rw [Database.column?, Database.column?, hrow', hrow''] at hcolumns hcredential
  refine ⟨row'', hrow'', (Option.some.inj hcolumns).trans hstate, Or.inr ?_⟩
  cases call with
  | updateAccountCpaCredentialStatus id status reason lastError checkedAt =>
    obtain ⟨rfl, hreason⟩ := hcall
    have hwritten := congrArg Credential.reason (Option.some.inj hcredential)
    simp only [StoreCall.onCredential, if_true] at hwritten
    rw [show row''.cpaCredentialReason = reason from hwritten]
    exact hreason
  | _ => exact hcall.elim

/-- A resolution that stops at the file writes about the credential only. -/
theorem calls_of_stopsAtFile (hcpa : acc.sourceKind = lit "cpa") (hopts : opts.readOnly = false)
    (hfile : readAuthFile env acc.cpaAccountKey = .ok f) (hstops : StopsAtFile c env acc f)
    (now : Clock) :
    ∀ call ∈ (resolveCpaRuntime c { env with now := now } acc opts).2.filterMap effectCall?,
      WritesCredential acc.id call := by
  by_cases hreach : ∃ svc, Reaches c env acc svc f
  · obtain ⟨holder, hdisabled, hsubscription⟩ := hstops hreach
    obtain ⟨svc, hreach⟩ := hreach
    obtain ⟨rest, hcalls, hrest⟩ := calls_resolveCpaRuntime_reached (hreach.at now) hcpa hopts
    have hnone : fileCalls c { env with now := now } acc f = [] := by
      simp only [fileCalls, holder, hdisabled, if_true, Bool.false_eq_true, if_false,
        List.nil_append]
      exact if_neg fun h => h.2 (hsubscription h.1)
    rw [hcalls, hnone]
    exact hrest
  · have hunreached : ∀ svc f', ¬Reaches c { env with now := now } acc svc f' := by
      intro svc f' h
      obtain rfl := Except.ok.inj (hfile.symm.trans h.file)
      exact hreach ⟨svc, h.service, h.authDir, h.file⟩
    obtain ⟨err, hreason, hrefused | ⟨⟨failure, hfailed⟩, -⟩⟩ :=
      @resolveCpaRuntime_unreached c _ acc opts hunreached hcpa
    · rw [hrefused]
      exact calls_refuse _ acc opts hreason
    · exact absurd (hfile.symm.trans hfailed) (by simp)

/-- Then nothing of the file reaches the account. -/
theorem keepsFileState_of_stopsAtFile (hcpa : acc.sourceKind = lit "cpa")
    (hopts : opts.readOnly = false) (hid : acc.id = row.id)
    (hfile : readAuthFile env acc.cpaAccountKey = .ok f) (hstops : StopsAtFile c env acc f)
    {db db' : Database} {result : Except ResolveError CpaRuntime}
    (hrow : db.accounts.find? row.id = some row)
    (h : (resolve c env acc opts).Ends StoreCall.run db result db') : KeepsFileState row db' := by
  have hsafe : (resolve c env acc opts).Safe (fun _ s => KeepsFileState row s)
      (WritesCredential acc.id) fun _ => True :=
    safe_resolve (calls_of_stopsAtFile hcpa hopts hfile hstops) fun _ => trivial
  refine (h.keeps hsafe ?_ ⟨row, hrow, rfl, Or.inl rfl⟩).1
  intro storeEnv s call hs hcall
  rw [hid] at hcall
  exact keepsFileState_run storeEnv hcall hs

/-! A resolution that does not stop changes a column. -/

/-- Some clock shows another time. -/
theorem exists_datetime_ne (text : Str) : ∃ clock : Clock, clock.datetime ≠ text := by
  by_contra h
  have hall : ∀ clock : Clock, clock.datetime = text := fun clock =>
    not_not.mp fun hne => h ⟨clock, hne⟩
  have hsame := (hall ⟨0, by decide⟩).trans (hall ⟨TimeText.second, by decide⟩).symm
  revert hsame
  decide +kernel

section Changes

variable {svc : CpaService} {τ : Type} {π : AccountRow → τ} {x : τ} {storeEnv : StoreEnv}

/-- When a statement about the file gives a column another value, and no other
does, the resolution has changed the account. -/
theorem not_keepsFileState (hreach : Reaches c env acc svc f) (hcpa : acc.sourceKind = lit "cpa")
    (hopts : opts.readOnly = false) (hid : acc.id = row.id)
    (hπ : ∀ a a' : AccountRow, fileState a = fileState a' → π a = π a')
    (hall : ∀ call ∈ fileCalls c { env with now := storeEnv.now } acc f,
      call.Keeps π acc.id ∨ call.Sets π acc.id storeEnv x)
    (hset : ∃ call ∈ fileCalls c { env with now := storeEnv.now } acc f,
      call.Sets π acc.id storeEnv x)
    (hne : x ≠ π row) {db : Database} (hrow : db.accounts.find? row.id = some row) :
    ¬KeepsFileState row ((resolve c env acc opts).run StoreCall.run storeEnv db).2 := by
  obtain ⟨rest, hcalls, hrest⟩ :=
    calls_resolveCpaRuntime_reached (hreach.at storeEnv.now) hcpa hopts
  have hbefore : db.column? π acc.id = some (π row) := by
    rw [Database.column?, hid, hrow]
    rfl
  have hall' : ∀ call ∈ fileCalls c { env with now := storeEnv.now } acc f ++ rest,
      call.Keeps π acc.id ∨ call.Sets π acc.id storeEnv x := by
    intro call hcall
    rcases List.mem_append.mp hcall with hcall | hcall
    · exact hall call hcall
    · exact Or.inl (keeps_of_writesCredential (hrest call hcall) hπ)
  obtain ⟨call, hcall, hsets⟩ := hset
  have hafter := column?_runCalls_of_sets hall' ⟨call, List.mem_append_left rest hcall, hsets⟩
    hbefore
  rintro ⟨row', hrow', hstate, -⟩
  rw [run_resolve, hcalls] at hrow'
  rw [Database.column?, hid, hrow', Option.map_some] at hafter
  exact hne (((Option.some.inj hafter).symm).trans (hπ row' row hstate))

/-- An update of the account keeps the columns it does not name. -/
theorem keeps_updateAccount {id : Int} {call : StoreCall}
    (g : StoreEnv → AccountRow → AccountRow)
    (hcall : ∀ env db, call.run env db = db.updateAccount env id (g env))
    (hid : ∀ env a, (g env a).id = a.id)
    (hkeep : ∀ env a, π { g env a with updatedAt := env.now.datetime } = π a) :
    call.Keeps π id := by
  intro env db
  rw [hcall]
  exact (Database.column?_updateAccount_of_keeps db env id id (hid env) (hkeep env)).trans
    Option.map_id'

/-- What holds of the four statements about a file holds of those that are
made. -/
theorem forall_fileCalls {P : StoreCall → Prop} {now : Clock}
    (hmetadata : P (.updateAccountCpaMetadata acc.id f.expired f.lastRefresh f.disabled))
    (hhealth : P (.updateAccountHealth acc.id (lit "error") credentialDisabled.message))
    (hcredential : P (.updateAccountCpaCredentialStatus acc.id credentialDisabled.status
      credentialDisabled.reason credentialDisabled.message now.rfc3339))
    (hsubscription : P (.updateAccountCpaSubscription acc.id
      (c.subscriptionActiveUntil f.idToken f.accessToken) now.datetime [])) :
    ∀ call ∈ fileCalls c { env with now := now } acc f, P call := by
  unfold fileCalls
  intro call hcall
  rcases List.mem_append.mp hcall with hcall | hcall
  · split at hcall
    · contradiction
    · obtain rfl := List.mem_singleton.mp hcall
      exact hmetadata
  · split at hcall
    · simp only [List.mem_cons, List.not_mem_nil, or_false] at hcall
      rcases hcall with rfl | rfl
      · exact hhealth
      · exact hcredential
    split at hcall
    · obtain rfl := List.mem_singleton.mp hcall
      exact hsubscription
    · contradiction

section

variable (hreach : Reaches c env acc svc f) (hcpa : acc.sourceKind = lit "cpa")
  (hopts : opts.readOnly = false) (hid : acc.id = row.id) {db : Database}
  (hrow : db.accounts.find? row.id = some row)

include hreach hcpa hopts hid hrow

/-- A file that is disabled changes the time of the check. -/
theorem changed_of_disabled (hdisabled : f.disabled = true) : ∃ storeEnv,
    ¬KeepsFileState row ((resolve c env acc opts).run StoreCall.run storeEnv db).2 := by
  obtain ⟨now, hnow⟩ := exists_datetime_ne (row.lastCheckedAt.getD [])
  refine ⟨⟨now, fun _ => []⟩, not_keepsFileState (x := now.datetime)
    (π := fun a => a.lastCheckedAt.getD []) hreach hcpa hopts hid
    (fun _ _ h => congrArg (fun s => s.lastCheckedAt.getD []) h) ?_ ?_ hnow hrow⟩
  · apply forall_fileCalls
    · exact Or.inl (keeps_updateAccount _ (fun _ _ => rfl) (fun _ _ => rfl) fun _ _ => rfl)
    · exact Or.inr fun db =>
        Database.column?_updateAccount_self db _ acc.id (fun _ => rfl) fun _ => rfl
    · exact Or.inl (keeps_updateAccount _ (fun _ _ => rfl) (fun _ _ => rfl) fun _ _ => rfl)
    · exact Or.inl (keeps_updateAccount _ (fun _ _ => rfl) (fun _ _ => rfl) fun _ _ => rfl)
  · refine ⟨.updateAccountHealth acc.id (lit "error") credentialDisabled.message, ?_, fun db => ?_⟩
    · simp [fileCalls, hdisabled]
    · exact Database.column?_updateAccount_self db _ acc.id (fun _ => rfl) fun _ => rfl

/-- Tokens that state a subscription change the time it was fetched. -/
theorem changed_of_subscription (hdisabled : f.disabled = false)
    (hsubscription : toLower f.type = lit "codex" ∧
      c.subscriptionActiveUntil f.idToken f.accessToken ≠ []) : ∃ storeEnv,
    ¬KeepsFileState row ((resolve c env acc opts).run StoreCall.run storeEnv db).2 := by
  obtain ⟨now, hnow⟩ := exists_datetime_ne row.cpaSubscriptionFetchedAt
  refine ⟨⟨now, fun _ => []⟩, not_keepsFileState (x := now.datetime)
    (π := AccountRow.cpaSubscriptionFetchedAt) hreach hcpa hopts hid
    (fun _ _ h => congrArg FileState.subscriptionFetchedAt h) ?_ ?_ hnow hrow⟩
  · apply forall_fileCalls
    · exact Or.inl (keeps_updateAccount _ (fun _ _ => rfl) (fun _ _ => rfl) fun _ _ => rfl)
    · exact Or.inl (keeps_updateAccount _ (fun _ _ => rfl) (fun _ _ => rfl) fun _ _ => rfl)
    · exact Or.inl (keeps_updateAccount _ (fun _ _ => rfl) (fun _ _ => rfl) fun _ _ => rfl)
    · exact Or.inr fun db =>
        Database.column?_updateAccount_self db _ acc.id (fun _ => rfl) fun _ => rfl
  · refine ⟨.updateAccountCpaSubscription acc.id
      (c.subscriptionActiveUntil f.idToken f.accessToken) now.datetime [], ?_, fun db => ?_⟩
    · simp [fileCalls, hdisabled, hsubscription]
    · exact Database.column?_updateAccount_self db _ acc.id (fun _ => rfl) fun _ => rfl

/-- A resolution of an account that is out of date writes the older metadata. -/
theorem changed_of_outdated
    (holder : authFileMetadataIsOlder row.cpaLastRefreshAt f.lastRefresh = true)
    (hacc : authFileMetadataIsOlder acc.cpaLastRefreshAt f.lastRefresh = false) : ∃ storeEnv,
    ¬KeepsFileState row ((resolve c env acc opts).run StoreCall.run storeEnv db).2 := by
  have hne : f.lastRefresh ≠ row.cpaLastRefreshAt := by
    intro heq
    rw [heq, authFileMetadataIsOlder] at holder
    split at holder
    next existing file hexisting hfile =>
      obtain rfl := Option.some.inj (hexisting.symm.trans hfile)
      simp at holder
    · contradiction
  refine ⟨⟨default, fun _ => []⟩, not_keepsFileState (x := f.lastRefresh)
    (π := AccountRow.cpaLastRefreshAt) hreach hcpa hopts hid
    (fun _ _ h => congrArg FileState.lastRefreshAt h) ?_ ?_ hne hrow⟩
  · apply forall_fileCalls
    · exact Or.inr fun db =>
        Database.column?_updateAccount_self db _ acc.id (fun _ => rfl) fun _ => rfl
    · exact Or.inl (keeps_updateAccount _ (fun _ _ => rfl) (fun _ _ => rfl) fun _ _ => rfl)
    · exact Or.inl (keeps_updateAccount _ (fun _ _ => rfl) (fun _ _ => rfl) fun _ _ => rfl)
    · exact Or.inl (keeps_updateAccount _ (fun _ _ => rfl) (fun _ _ => rfl) fun _ _ => rfl)
  · refine ⟨.updateAccountCpaMetadata acc.id f.expired f.lastRefresh f.disabled, ?_,
      fun db => ?_⟩
    · simp [fileCalls, hacc]
    · exact Database.column?_updateAccount_self db _ acc.id (fun _ => rfl) fun _ => rfl

end

end Changes

/-- For an account whose stored refresh is later than that of its file: the sync
and a resolution change nothing the file may reach exactly when the resolution
stops at the file. -/
theorem older_file_changes_nothing_iff (hcpa : acc.sourceKind = lit "cpa")
    (hopts : opts.readOnly = false) (hid : acc.id = row.id)
    (hkey : acc.cpaAccountKey = row.cpaAccountKey)
    (hfile : readAuthFile env row.cpaAccountKey = .ok f)
    (holder : authFileMetadataIsOlder row.cpaLastRefreshAt f.lastRefresh = true) :
    (∀ db db', db.accounts.find? row.id = some row →
      (∀ u, (syncCpaMetadata c env).Ends StoreCall.run db u db' → KeepsFileState row db') ∧
      ∀ result, (resolve c env acc opts).Ends StoreCall.run db result db' →
        KeepsFileState row db') ↔ StopsAtFile c env acc f := by
  constructor
  · intro hkeeps
    by_contra hstops
    obtain ⟨hreach, hthen⟩ := Classical.not_imp.mp hstops
    obtain ⟨svc, hreach⟩ := hreach
    let db : Database := { accounts := Table.empty.set row }
    have hrow : db.accounts.find? row.id = some row := by
      rw [Table.find?_set, if_pos rfl]
    have hchanged : ∃ storeEnv,
        ¬KeepsFileState row ((resolve c env acc opts).run StoreCall.run storeEnv db).2 := by
      cases hacc : authFileMetadataIsOlder acc.cpaLastRefreshAt f.lastRefresh with
      | false => exact changed_of_outdated hreach hcpa hopts hid hrow holder hacc
      | true =>
        cases hdisabled : f.disabled with
        | true => exact changed_of_disabled hreach hcpa hopts hid hrow hdisabled
        | false =>
          apply changed_of_subscription hreach hcpa hopts hid hrow hdisabled
          by_contra hnone
          exact hthen ⟨hacc, hdisabled, fun hcodex => by_contra fun hne => hnone ⟨hcodex, hne⟩⟩
    obtain ⟨storeEnv, hchanged⟩ := hchanged
    exact hchanged ((hkeeps db _ hrow).2 _ (Prog.ends_run StoreCall.run storeEnv _ db))
  · intro hstops db db' hrow
    constructor
    · intro u hsync
      exact ⟨row, find?_syncCpaMetadata hfile holder hrow hsync, rfl, Or.inl rfl⟩
    · intro result hresolve
      rw [← hkey] at hfile
      exact keepsFileState_of_stopsAtFile hcpa hopts hid hfile hstops hrow hresolve

end Resolve

/-! ## An older file that is disabled -/

/-- A CPA account that was refreshed at noon. -/
def refreshedAccount : AccountRow :=
  { id := 1, sourceKind := lit "cpa", cpaServiceID := some 1, cpaProvider := lit "codex"
    cpaAccountKey := lit "k", cpaLastRefreshAt := lit "2026-05-10T12:00:00Z"
    cpaCredentialStatus := lit "ok", status := lit "healthy" }

/-- A file from the morning. -/
def morningFile (disabled : Bool) : CpaAuthFile :=
  { lastRefresh := lit "2026-05-10T08:00:00Z", disabled := disabled }

/-- A runtime with that file. -/
def morningRuntime (disabled : Bool) : RuntimeEnv where
  snap := { cpaServices := Table.ofList [(1, { id := 1 })] }
  now := default
  authFile := fun _ => .ok (morningFile disabled)
  listing := ⟨fun _ => .ok [], fun _ => none⟩
  reload := .ok ()
  listingAfterReload := ⟨fun _ => .ok [], fun _ => none⟩

/-- A checker whose tokens state nothing. -/
def plainChecker : Checker where
  cpaAuthDir := lit "auth"
  accountInfoPlanType := fun _ _ => none
  subscriptionActiveUntil := fun _ _ => []

/-- A file that is not disabled. -/
theorem older_file_enabled :
    (∀ db db', db.accounts.find? refreshedAccount.id = some refreshedAccount →
      (∀ u, (syncCpaMetadata plainChecker (morningRuntime false)).Ends StoreCall.run db u db' →
        KeepsFileState refreshedAccount db') ∧
      ∀ result, (resolve plainChecker (morningRuntime false) (scanAccountRow refreshedAccount)
        {}).Ends StoreCall.run db result db' → KeepsFileState refreshedAccount db') ↔
    StopsAtFile plainChecker (morningRuntime false) (scanAccountRow refreshedAccount)
      (morningFile false) :=
  older_file_changes_nothing_iff (by decide) rfl rfl rfl (by rfl) (by decide +kernel)

/-- The resolution marks the account although the store has the later refresh. -/
theorem older_disabled_file_marks :
    authFileMetadataIsOlder refreshedAccount.cpaLastRefreshAt (morningFile true).lastRefresh =
        true ∧
      ∃ db result db', db.accounts.find? 1 = some refreshedAccount ∧
        (resolve plainChecker (morningRuntime true) (scanAccountRow refreshedAccount) {}).Ends
          StoreCall.run db result db' ∧
        db'.column? (fun a => (a.status, a.lastError, a.cpaCredentialStatus)) 1 =
          some (lit "error", lit "CPA credential disabled", lit "needs_login") := by
  let db : Database := { accounts := Table.empty.set refreshedAccount }
  let p := resolve plainChecker (morningRuntime true) (scanAccountRow refreshedAccount) {}
  let storeEnv : StoreEnv := ⟨default, fun _ => []⟩
  refine ⟨by decide +kernel, db, _, _, (Table.find?_set _ _ 1).trans (if_pos rfl),
    p.ends_run StoreCall.run storeEnv db, ?_⟩
  decide +kernel

end Lune.Health
