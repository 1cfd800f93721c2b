import Lune.Store.Access

/-!
# The scheduler status of a diagnostic

`scheduler_status` follows `stable_diagnostic_status` in a row without an
override: an account with a verdict against it is ineligible, and any other that
is enabled is eligible, perhaps with a warning.  Every write keeps that but two
kinds.  A row is inserted as ineligible when its account is disabled or was once
marked so, and enabling an account does not touch its row.
-/

namespace Lune.Store

open GoText Keyed

/-- The stable statuses of a verdict against an account. -/
def verdictStatuses : List Str := [lit "banned", lit "quota_exhausted", lit "auth_invalid"]

/-- The scheduler statuses that let an account be routed. -/
def schedulableStatuses : List Str := [lit "eligible", lit "eligible_with_warning"]

/-- The row without an override has the scheduler status of its stable status;
`enabled` says that its account is enabled. -/
structure RowMapped (enabled : Prop) (d : AccountDiagnostic) : Prop where
  verdict : d.schedulerOverride = [] → d.stableDiagnosticStatus ∈ verdictStatuses →
    d.schedulerStatus = lit "ineligible"
  other : d.schedulerOverride = [] → d.stableDiagnosticStatus ∉ verdictStatuses → enabled →
    d.schedulerStatus ∈ schedulableStatuses

/-- The row keeps its account out of routing although there is no verdict. -/
def Parked (d : AccountDiagnostic) : Prop :=
  d.schedulerOverride = [] ∧ d.stableDiagnosticStatus ∉ verdictStatuses ∧
    d.schedulerStatus ∉ schedulableStatuses

/-- The account is there and enabled. -/
def Database.Enabled (db : Database) (id : Int) : Prop :=
  ∃ a, db.accounts.find? id = some a ∧ a.enabled = true

/-- Every row is mapped. -/
def Database.Mapped (db : Database) : Prop :=
  ∀ id d, db.accountDiagnostics.find? id = some d → RowMapped (db.Enabled id) d

/-- Every row belongs to an account, which is the reference of the schema. -/
def Database.Referenced (db : Database) : Prop :=
  ∀ id, (db.accountDiagnostics.find? id).isSome → (db.accounts.find? id).isSome

/-! ## Rows -/

theorem RowMapped.mono {enabled enabled' : Prop} {d : AccountDiagnostic}
    (h : RowMapped enabled d) (himp : enabled' → enabled) : RowMapped enabled' d :=
  ⟨h.verdict, fun hoverride hstable henabled => h.other hoverride hstable (himp henabled)⟩

/-- A row that is not parked is mapped whether its account is enabled or not. -/
theorem RowMapped.of_not_parked {enabled enabled' : Prop} {d : AccountDiagnostic}
    (h : RowMapped enabled d) (hparked : ¬Parked d) : RowMapped enabled' d := by
  refine ⟨h.verdict, ?_⟩
  intro hoverride hstable _
  by_contra hstatus
  exact hparked ⟨hoverride, hstable, hstatus⟩

/-- The row of an account about which nothing is known. -/
theorem rowMapped_new {enabled : Prop} {d : AccountDiagnostic}
    (hstable : d.stableDiagnosticStatus = lit "unknown")
    (hstatus : enabled → d.schedulerStatus = lit "eligible_with_warning") :
    RowMapped enabled d := by
  refine ⟨?_, ?_⟩
  · intro _ hverdict
    rw [hstable] at hverdict
    exact absurd hverdict (by decide)
  · intro _ _ henabled
    rw [hstatus henabled]
    decide

/-- The mapping of the stable statuses that pass the checks. -/
theorem schedulerStatus_of_valid : ∀ stable ∈ diagnosticStatuses,
    (stable ∈ verdictStatuses → schedulerStatusForStableDiagnostic stable = lit "ineligible") ∧
      (stable ∉ verdictStatuses →
        schedulerStatusForStableDiagnostic stable ∈ schedulableStatuses) := by
  decide

theorem AccountDiagnosticUpdate.normalize_spec {update u : AccountDiagnosticUpdate}
    (h : update.normalize = some u) :
    u.stableDiagnosticStatus ∈ diagnosticStatuses ∧
      (u.schedulerOverride = [] →
        u.schedulerStatus = schedulerStatusForStableDiagnostic u.stableDiagnosticStatus) ∧
      u.preserveStableStatus = update.preserveStableStatus := by
  unfold normalize at h
  dsimp only at h
  split at h
  · contradiction
  next hstable =>
    split at h
    · contradiction
    · obtain rfl := Option.some.inj h
      refine ⟨?_, ?_, rfl⟩
      · exact List.contains_iff_mem.mp (by simpa using hstable)
      · intro hoverride
        exact if_pos hoverride

/-- An update that brings a stable status maps any row. -/
theorem rowMapped_applyDiagnosticUpdate {enabled : Prop} (env : StoreEnv)
    {update u : AccountDiagnosticUpdate} (hu : update.normalize = some u)
    (hpreserve : u.preserveStableStatus = false) (d : AccountDiagnostic) :
    RowMapped enabled (Database.applyDiagnosticUpdate env u d) := by
  obtain ⟨hstable, hstatus, -⟩ := AccountDiagnosticUpdate.normalize_spec hu
  obtain ⟨hverdict, hother⟩ := schedulerStatus_of_valid _ hstable
  unfold Database.applyDiagnosticUpdate
  rw [hpreserve]
  refine ⟨?_, ?_⟩
  · intro hoverride hmem
    exact (hstatus hoverride).trans (hverdict hmem)
  · intro hoverride hmem _
    show u.schedulerStatus ∈ schedulableStatuses
    rw [hstatus hoverride]
    exact hother hmem

/-- An update keeps a row mapped. -/
theorem RowMapped.applyDiagnosticUpdate {enabled : Prop} {d : AccountDiagnostic}
    (h : RowMapped enabled d) (env : StoreEnv) {update u : AccountDiagnosticUpdate}
    (hu : update.normalize = some u) :
    RowMapped enabled (Database.applyDiagnosticUpdate env u d) := by
  cases hpreserve : u.preserveStableStatus with
  | false => exact rowMapped_applyDiagnosticUpdate env hu hpreserve d
  | true =>
    unfold Database.applyDiagnosticUpdate
    rw [hpreserve]
    -- a blank scheduler status is neither ineligible nor one of an enabled account
    refine ⟨?_, ?_⟩
    · intro hoverride hmem
      have hineligible : d.schedulerStatus = lit "ineligible" := h.verdict hoverride hmem
      show (if isBlank d.schedulerStatus then _ else d.schedulerStatus) = lit "ineligible"
      rw [hineligible]
      rfl
    · intro hoverride hmem henabled
      have hschedulable : d.schedulerStatus ∈ schedulableStatuses := h.other hoverride hmem henabled
      have hblank : isBlank d.schedulerStatus = false := by
        simp only [schedulableStatuses, List.mem_cons, List.not_mem_nil, or_false] at hschedulable
        rcases hschedulable with hstatus | hstatus <;> rw [hstatus] <;> decide
      show (if isBlank d.schedulerStatus then _ else d.schedulerStatus) ∈ schedulableStatuses
      rw [hblank]
      exact hschedulable

/-! ## Accounts that a write enables -/

/-- The write enables the account `id`. -/
def AccountWrite.Enables (db : Database) (id : Int) : AccountWrite → Prop
  | enableAccount other => other = id
  | updateAccount other a => other = id ∧ a.enabled = true
  | w => ∃ imported, w.importOf? db id = some imported ∧ imported.enabled = true

theorem Database.enabled_updateAccount {db : Database} {env : StoreEnv} {other id : Int}
    {f : AccountRow → AccountRow} (h : (db.updateAccount env other f).Enabled id)
    (hid : ∀ a, (f a).id = a.id) :
    db.Enabled id ∨ other = id ∧ ∃ a, (f a).enabled = true := by
  obtain ⟨a', ha', henabled⟩ := h
  rw [find?_updateAccount db env other hid] at ha'
  split at ha'
  next heq =>
    obtain ⟨a, -, rfl⟩ := Option.map_eq_some_iff.mp ha'
    exact Or.inr ⟨heq.symm, a, henabled⟩
  next => exact Or.inl ⟨a', ha', henabled⟩

/-- An update that leaves `enabled` alone. -/
theorem Database.enabled_updateAccount_of_keeps {db : Database} {env : StoreEnv} {other id : Int}
    {f : AccountRow → AccountRow} (h : (db.updateAccount env other f).Enabled id)
    (hid : ∀ a, (f a).id = a.id) (hkeeps : ∀ a, (f a).enabled = true → a.enabled = true) :
    db.Enabled id := by
  obtain ⟨a', ha', henabled⟩ := h
  rw [find?_updateAccount db env other hid] at ha'
  split at ha'
  next =>
    obtain ⟨a, ha, rfl⟩ := Option.map_eq_some_iff.mp ha'
    exact ⟨a, ha, hkeeps a henabled⟩
  next => exact ⟨a', ha', henabled⟩

theorem StoreCall.enabled_run {env : StoreEnv} {db : Database} {call : StoreCall} {id : Int}
    (h : (call.run env db).Enabled id) : db.Enabled id := by
  cases call with
  | updateTokenLastUsed => exact h
  | refreshAccountModels accountID models =>
    simpa [StoreCall.run, Database.Enabled] using h
  | ensureAccountDiagnostic | updateAccountDiagnosticWithEvidence =>
    simpa [StoreCall.run, Database.Enabled] using h
  | updateAccountHealthIfUnchanged other status lastError previous =>
    obtain ⟨a', ha', henabled⟩ := h
    rw [StoreCall.run, Database.find?_updateAccountHealthIfUnchanged] at ha'
    split at ha'
    · obtain ⟨a, ha, rfl⟩ := Option.map_eq_some_iff.mp ha'
      refine ⟨a, ha, ?_⟩
      split at henabled <;> exact henabled
    · exact ⟨a', ha', henabled⟩
  | _ => exact Database.enabled_updateAccount_of_keeps h (fun _ => rfl) fun _ h => h

/-- An account that is enabled after a write was so before, unless the write
enables it. -/
theorem AccountWrite.enabled_run {env : StoreEnv} {db : Database} {w : AccountWrite} {id : Int}
    (hthere : (db.accounts.find? id).isSome) (h : (w.run env db).Enabled id) :
    db.Enabled id ∨ w.Enables db id := by
  have hsame : ∀ {db' : Database}, db'.accounts = db.accounts → db'.Enabled id → db.Enabled id := by
    rintro db' haccounts ⟨a, ha, henabled⟩
    exact ⟨a, haccounts ▸ ha, henabled⟩
  have hadded : ∀ {db' : Database} {sourceKind : Str} {a : Account},
      db'.accounts = db.accounts.set (db.newAccount env sourceKind a) → db'.Enabled id →
      db.Enabled id := by
    rintro db' sourceKind a haccounts ⟨a', ha', henabled⟩
    rw [haccounts, Table.find?_set] at ha'
    split at ha'
    next hid =>
      have hnone : db.accounts.find? (db.newAccount env sourceKind a).id = none :=
        Table.find?_next db.accounts
      rw [hid] at hnone
      rw [hnone] at hthere
      contradiction
    next => exact ⟨a', ha', henabled⟩
  have himport : ∀ {other : Int} {a : Account},
      (db.updateCpaAccountFromImport env other a).Enabled id →
      db.Enabled id ∨ other = id ∧ a.enabled = true := by
    intro other a henabled
    rcases Database.enabled_updateAccount henabled (fun _ => rfl) with hbefore | ⟨hid, _, henabled⟩
    · exact Or.inl hbefore
    · exact Or.inr ⟨hid, henabled⟩
  cases w with
  | call c => exact Or.inl (StoreCall.enabled_run h)
  | createAccount a =>
    rcases Database.accounts_createAccount db env a with hkeep | ⟨sourceKind, hadd⟩
    · exact Or.inl (hsame hkeep h)
    · exact Or.inl (hadded hadd h)
  | updateAccount other a =>
    rcases Database.enabled_updateAccount h (fun _ => rfl) with hbefore | ⟨hid, _, henabled⟩
    · exact Or.inl hbefore
    · exact Or.inr ⟨hid, henabled⟩
  | enableAccount other =>
    rcases Database.enabled_updateAccount h (fun _ => rfl) with hbefore | ⟨hid, -⟩
    · exact Or.inl hbefore
    · exact Or.inr hid
  | disableAccount other =>
    rcases Database.enabled_updateAccount h (fun _ => rfl) with hbefore | ⟨-, _, henabled⟩
    · exact Or.inl hbefore
    · contradiction
  | updateCpaAccountFromImport other a =>
    rcases himport h with hbefore | ⟨hid, henabled⟩
    · exact Or.inl hbefore
    · exact Or.inr ⟨a, if_pos hid, henabled⟩
  | upsertCpaAccountAndPoolMemberFromImport poolID a =>
    rcases Database.accounts_upsertCpaAccountAndPoolMemberFromImport db env poolID a with
      ⟨target, htarget, haccounts⟩ | ⟨-, hkeep | ⟨sourceKind, hadd⟩⟩
    · obtain ⟨a', ha', henabled⟩ := h
      rw [AccountWrite.run, haccounts] at ha'
      rcases himport ⟨a', ha', henabled⟩ with hbefore | ⟨hid, henabled⟩
      · exact Or.inl hbefore
      · refine Or.inr ⟨a, ?_, henabled⟩
        rw [AccountWrite.importOf?, htarget, if_pos (congrArg some hid)]
    · exact Or.inl (hsame hkeep h)
    · exact Or.inl (hadded hadd h)
  | addPoolMemberIdempotent poolID accountID =>
    refine Or.inl (hsame ?_ h)
    rw [AccountWrite.run]
    split
    · rfl
    · exact Database.accounts_addPoolMemberIdempotent db poolID accountID
  | updateAccountCpaSubscriptionStatus other status lastError checkedAt =>
    exact Or.inl (Database.enabled_updateAccount_of_keeps h (fun _ => rfl) fun _ h => h)
  | backfillAccountDiagnostics =>
    exact Or.inl (hsame (Database.accounts_backfillAccountDiagnostics db env) h)
  | migrateCpaAccessColumns =>
    obtain ⟨a', ha', henabled⟩ := h
    rw [AccountWrite.run, Database.find?_migrateCpaAccessColumns] at ha'
    obtain ⟨a, ha, rfl⟩ := Option.map_eq_some_iff.mp ha'
    refine Or.inl ⟨a, ha, ?_⟩
    unfold Database.backfilledAccess at henabled
    dsimp only at henabled
    split at henabled <;> exact henabled

/-! ## Rows that a write inserts -/

/-- The account is enabled, is marked as disabled and has no row yet. -/
def Database.MarkedDisabled (db : Database) (id : Int) : Prop :=
  db.accountDiagnostics.find? id = none ∧
    ∃ a, db.accounts.find? id = some a ∧ a.enabled = true ∧
      equalFold a.status (lit "disabled") = true

/-- The account comes in enabled and marked as disabled. -/
def Account.MarkedDisabled (a : Account) : Prop :=
  a.enabled = true ∧ equalFold a.status (lit "disabled") = true

/-- The kind of source that `CreateAccount` stores. -/
def createdKind (a : Account) : Str :=
  if a.sourceKind = [] then lit "openai_compat" else a.sourceKind

/-- The write inserts the row of an account that is enabled and marked as
disabled. -/
def AccountWrite.InsertsMarked (env : StoreEnv) (db : Database) : AccountWrite → Prop
  | call (.ensureAccountDiagnostic id) => db.MarkedDisabled id
  | call (.updateAccountDiagnosticWithEvidence id update _) =>
    update.normalize.isSome ∧ update.preserveStableStatus = true ∧ db.MarkedDisabled id
  | createAccount a =>
    a.MarkedDisabled ∧ db.insertAccountFails (db.newAccount env (createdKind a) a) = false
  | upsertCpaAccountAndPoolMemberFromImport poolID a =>
    a.MarkedDisabled ∧ a.cpaServiceID.isSome ∧ (db.pools.find? poolID).isSome ∧
      match db.importTarget? poolID a with
      | some id => db.accountDiagnostics.find? id = none
      | none =>
        db.insertAccountFails (db.newAccount env (firstNonEmpty [a.sourceKind, lit "cpa"]) a) = false
  | backfillAccountDiagnostics =>
    ∃ a ∈ db.accounts.rows, a.enabled = true ∧ a.status = lit "disabled" ∧
      db.accountDiagnostics.find? a.id = none
  | _ => False

/-- The write enables an account whose row is parked, or inserts a parked row. -/
def AccountWrite.Parks (env : StoreEnv) (db : Database) (w : AccountWrite) : Prop :=
  (∃ id d, w.Enables db id ∧ db.accountDiagnostics.find? id = some d ∧ Parked d) ∨
    w.InsertsMarked env db

/-- Every row is mapped and belongs to an account. -/
structure Database.SchedulerSound (db : Database) : Prop where
  mapped : db.Mapped
  referenced : db.Referenced

namespace Database

section Sound

variable {db : Database} {env : StoreEnv}

/-- The rows stay, and no account is enabled whose row is parked. -/
theorem SchedulerSound.of_rows (h : db.SchedulerSound) {db' : Database}
    (hrows : db'.accountDiagnostics = db.accountDiagnostics)
    (hthere : ∀ id, (db.accounts.find? id).isSome → (db'.accounts.find? id).isSome)
    (henabled : ∀ id d, db.accountDiagnostics.find? id = some d → db'.Enabled id →
      db.Enabled id ∨ ¬Parked d) : db'.SchedulerSound := by
  refine ⟨?_, ?_⟩
  · intro id d hd
    rw [hrows] at hd
    have hmapped := h.mapped id d hd
    by_cases hparked : Parked d
    · apply hmapped.mono
      intro hafter
      exact (henabled id d hd hafter).resolve_right (not_not_intro hparked)
    · exact hmapped.of_not_parked hparked
  · intro id hd
    rw [hrows] at hd
    exact hthere id (h.referenced id hd)

/-- A row about which nothing is known is inserted. -/
theorem SchedulerSound.insert (h : db.SchedulerSound) {d : AccountDiagnostic}
    (hthere : (db.accounts.find? d.accountID).isSome)
    (hstable : d.stableDiagnosticStatus = lit "unknown")
    (hstatus : db.accountDiagnostics.find? d.accountID = none → db.Enabled d.accountID →
      d.schedulerStatus = lit "eligible_with_warning") :
    ({ db with accountDiagnostics := db.accountDiagnostics.insertOrIgnore d } :
      Database).SchedulerSound := by
  refine ⟨?_, ?_⟩
  · intro id d' hd'
    simp only [Table.find?_insertOrIgnore] at hd'
    split at hd'
    next hnew =>
      obtain ⟨rfl, hnone⟩ := hnew
      obtain rfl := Option.some.inj hd'
      exact rowMapped_new hstable (hstatus hnone)
    next => exact h.mapped id d' hd'
  · intro id hd'
    simp only [Table.find?_insertOrIgnore] at hd'
    split at hd'
    next hnew =>
      obtain ⟨rfl, -⟩ := hnew
      exact hthere
    next => exact h.referenced id hd'

/-- An account that is not marked gets a row that lets it be routed. -/
theorem schedulerStatus_newDiagnostic {acc : Account} (henabled : acc.enabled = true)
    (hmarked : equalFold acc.status (lit "disabled") = false) :
    (db.newDiagnostic env acc).schedulerStatus = lit "eligible_with_warning" := by
  show initialSchedulerStatusForAccount acc = _
  simp [initialSchedulerStatusForAccount, henabled, hmarked]

/-- A row after `EnsureAccountDiagnostic` was there, or is the new one of the
account. -/
theorem find?_ensureAccountDiagnostic {id j : Int} {d : AccountDiagnostic}
    (h : (db.ensureAccountDiagnostic env id).accountDiagnostics.find? j = some d) :
    db.accountDiagnostics.find? j = some d ∨
      j = id ∧ db.accountDiagnostics.find? id = none ∧ ∃ row, db.accounts.find? id = some row ∧
        d = db.newDiagnostic env (scanAccountRow row) := by
  unfold Database.ensureAccountDiagnostic at h
  split at h
  · exact Or.inl h
  next acc hacc =>
    obtain ⟨row, hrow, rfl⟩ := Option.map_eq_some_iff.mp hacc
    have hid : row.id = id := (Table.mem_of_find? hrow).2
    simp only [Table.find?_insertOrIgnore] at h
    split at h
    next hnew =>
      obtain ⟨hkey, hnone⟩ := hnew
      obtain rfl : row.id = j := hkey
      subst hid
      exact Or.inr ⟨rfl, hnone, row, hrow, (Option.some.inj h).symm⟩
    next => exact Or.inl h

/-- The new row of an account that is not marked is mapped. -/
theorem rowMapped_newDiagnostic {id : Int} {row : AccountRow}
    (hrow : db.accounts.find? id = some row) (hnone : db.accountDiagnostics.find? id = none)
    (hmarked : ¬db.MarkedDisabled id) :
    RowMapped (db.Enabled id) (db.newDiagnostic env (scanAccountRow row)) := by
  apply rowMapped_new rfl
  rintro ⟨row', hfind, henabled⟩
  obtain rfl := Option.some.inj (hfind.symm.trans hrow)
  apply schedulerStatus_newDiagnostic henabled
  rw [Bool.eq_false_iff]
  intro hdisabled
  exact hmarked ⟨hnone, row', hrow, henabled, hdisabled⟩

theorem referenced_ensureAccountDiagnostic (h : db.Referenced) (id : Int) :
    (db.ensureAccountDiagnostic env id).Referenced := by
  intro j hj
  rw [accounts_ensureAccountDiagnostic]
  obtain ⟨d, hd⟩ := Option.isSome_iff_exists.mp hj
  rcases find?_ensureAccountDiagnostic hd with hold | ⟨rfl, -, row, hrow, -⟩
  · exact h j (Option.isSome_iff_exists.mpr ⟨d, hold⟩)
  · exact Option.isSome_iff_exists.mpr ⟨row, hrow⟩

theorem SchedulerSound.ensureAccountDiagnostic (h : db.SchedulerSound) {id : Int}
    (hmarked : ¬db.MarkedDisabled id) : (db.ensureAccountDiagnostic env id).SchedulerSound := by
  refine ⟨?_, referenced_ensureAccountDiagnostic h.referenced id⟩
  intro j d hd
  unfold Database.Enabled
  rw [accounts_ensureAccountDiagnostic]
  rcases find?_ensureAccountDiagnostic hd with hold | ⟨rfl, hnone, row, hrow, rfl⟩
  · exact h.mapped j d hold
  · exact rowMapped_newDiagnostic hrow hnone hmarked

theorem SchedulerSound.update (h : db.SchedulerSound) {id : Int}
    {update : AccountDiagnosticUpdate} (evidence : AccountDiagnosticEvidenceInput)
    (hmarked : update.normalize.isSome → update.preserveStableStatus = true →
      ¬db.MarkedDisabled id) :
    (db.updateAccountDiagnosticWithEvidence env id update evidence).SchedulerSound := by
  unfold updateAccountDiagnosticWithEvidence
  cases hu : update.normalize with
  | none => exact h
  | some u =>
    have hkey : ∀ d, (applyDiagnosticUpdate env u d).accountID = d.accountID := fun _ => rfl
    refine ⟨?_, ?_⟩
    · intro j d hd
      simp only [Table.find?_modify _ hkey] at hd
      unfold Database.Enabled
      simp only [accounts_ensureAccountDiagnostic]
      split at hd
      next hj =>
        obtain ⟨d', hd', rfl⟩ := Option.map_eq_some_iff.mp hd
        rcases find?_ensureAccountDiagnostic hd' with hold | ⟨rfl, hnone, row, hrow, rfl⟩
        · exact (h.mapped j d' hold).applyDiagnosticUpdate env hu
        · cases hpreserve : u.preserveStableStatus with
          | false => exact rowMapped_applyDiagnosticUpdate env hu hpreserve _
          | true =>
            have hpreserve' : update.preserveStableStatus = true :=
              (AccountDiagnosticUpdate.normalize_spec hu).2.2 ▸ hpreserve
            have hnot := hmarked (by rw [hu]; rfl) hpreserve'
            exact (rowMapped_newDiagnostic hrow hnone hnot).applyDiagnosticUpdate env hu
      next hj =>
        rcases find?_ensureAccountDiagnostic hd with hold | ⟨rfl, -⟩
        · exact h.mapped j d hold
        · contradiction
    · intro j hj
      simp only [Table.find?_modify _ hkey] at hj
      apply referenced_ensureAccountDiagnostic h.referenced id j
      split at hj
      · rwa [Option.isSome_map] at hj
      · exact hj

/-- `ensureAccountDiagnosticTx` on an account that, when it is enabled, comes in
enabled and is not marked. -/
theorem SchedulerSound.ensureTx (h : db.SchedulerSound) {acc : Account}
    (hthere : (db.accounts.find? acc.id).isSome)
    (hmarked : db.accountDiagnostics.find? acc.id = none → db.Enabled acc.id →
      acc.enabled = true ∧ equalFold acc.status (lit "disabled") = false) :
    (db.ensureAccountDiagnosticTx env acc).SchedulerSound := by
  apply h.insert hthere rfl
  intro hnone henabled
  obtain ⟨henabled, hstatus⟩ := hmarked hnone henabled
  exact schedulerStatus_newDiagnostic henabled hstatus

theorem accountDiagnostics_addPoolMemberIdempotent (poolID accountID : Int) :
    (db.addPoolMemberIdempotent poolID accountID).accountDiagnostics = db.accountDiagnostics := by
  unfold addPoolMemberIdempotent
  dsimp only
  split <;> rfl

theorem SchedulerSound.addPoolMember (h : db.SchedulerSound) (poolID accountID : Int) :
    (db.addPoolMemberIdempotent poolID accountID).SchedulerSound := by
  have haccounts := accounts_addPoolMemberIdempotent db poolID accountID
  apply h.of_rows (accountDiagnostics_addPoolMemberIdempotent poolID accountID)
  · intro id hid
    rwa [haccounts]
  · rintro id d - ⟨a, ha, henabled⟩
    exact Or.inl ⟨a, haccounts ▸ ha, henabled⟩

/-- An account is added; its id is new, so it has no row. -/
theorem SchedulerSound.addAccount (h : db.SchedulerSound) (env : StoreEnv) (sourceKind : Str)
    (a : Account) :
    ({ db with accounts := db.accounts.set (db.newAccount env sourceKind a) } :
      Database).SchedulerSound := by
  have hfresh : db.accounts.find? (db.newAccount env sourceKind a).id = none :=
    Table.find?_next db.accounts
  refine h.of_rows ?_ ?_ ?_
  · rfl
  · intro id hid
    simp only [Table.find?_set]
    split
    · rfl
    · exact hid
  · rintro id d hd ⟨a', ha', henabled⟩
    simp only [Table.find?_set] at ha'
    split at ha'
    next hid =>
      have hthere := h.referenced id (Option.isSome_iff_exists.mpr ⟨d, hd⟩)
      rw [← hid, hfresh] at hthere
      contradiction
    next => exact Or.inl ⟨a', ha', henabled⟩

/-- An account is added together with its row. -/
theorem SchedulerSound.addDiagnosed {sourceKind : Str} {a acc : Account} {start : Database}
    (hstart : start.SchedulerSound)
    (haccounts : start.accounts = db.accounts.set (db.newAccount env sourceKind a))
    (hid : acc.id = (db.newAccount env sourceKind a).id) (henabled : acc.enabled = a.enabled)
    (hstatus : acc.status = a.status) (hmarked : ¬a.MarkedDisabled) :
    (start.ensureAccountDiagnosticTx env acc).SchedulerSound := by
  have hfind : start.accounts.find? acc.id = some (db.newAccount env sourceKind a) := by
    rw [haccounts, Table.find?_set, if_pos hid.symm]
  apply hstart.ensureTx
  · exact Option.isSome_iff_exists.mpr ⟨_, hfind⟩
  · rintro - ⟨row, hrow, hrowEnabled⟩
    obtain rfl := Option.some.inj (hrow.symm.trans hfind)
    have haEnabled : a.enabled = true := hrowEnabled
    refine ⟨henabled.trans haEnabled, ?_⟩
    rw [hstatus, Bool.eq_false_iff]
    exact fun hdisabled => hmarked ⟨haEnabled, hdisabled⟩

theorem SchedulerSound.createAccount (h : db.SchedulerSound) {a : Account}
    (hmarked : db.insertAccountFails (db.newAccount env (createdKind a) a) = false →
      ¬a.MarkedDisabled) : (db.createAccount env a).SchedulerSound := by
  unfold Database.createAccount
  rw [← createdKind]
  dsimp only
  split
  · exact h
  next hfails =>
    have hset : ({ db with accounts := db.accounts.set (db.newAccount env (createdKind a) a) } :
        Database).accounts = db.accounts.set (db.newAccount env (createdKind a) a) := rfl
    apply SchedulerSound.addDiagnosed (h.addAccount env (createdKind a) a) hset rfl
    · rfl
    · rfl
    · exact hmarked (Bool.eq_false_iff.mpr hfails)

theorem isSome_find?_of_importTarget? {poolID : Int} {a : Account} {id : Int}
    (h : db.importTarget? poolID a = some id) : (db.accounts.find? id).isSome := by
  obtain ⟨serviceID, -, h⟩ := Option.bind_eq_some_iff.mp h
  obtain ⟨pool, -, h⟩ := Option.bind_eq_some_iff.mp h
  obtain ⟨existing, hexisting, rfl⟩ := Option.map_eq_some_iff.mp h
  obtain ⟨row, hrow, rfl⟩ := Option.map_eq_some_iff.mp hexisting
  exact Option.isSome_iff_exists.mpr ⟨row, Table.find?_of_mem (List.mem_of_find?_eq_some hrow)⟩

/-- A write other than one about a diagnostic keeps the database sound when it
enables no account with a parked row. -/
theorem SchedulerSound.of_run (h : db.SchedulerSound) {w : AccountWrite}
    (hrows : (w.run env db).accountDiagnostics = db.accountDiagnostics)
    (hparks : ¬w.Parks env db) : (w.run env db).SchedulerSound := by
  apply h.of_rows hrows
  · exact fun id hid => w.isSome_find?_run env hid
  · intro id d hd hafter
    have hthere := h.referenced id (Option.isSome_iff_exists.mpr ⟨d, hd⟩)
    rcases AccountWrite.enabled_run hthere hafter with hbefore | henables
    · exact Or.inl hbefore
    · exact Or.inr fun hparked => hparks (Or.inl ⟨id, d, henables, hd, hparked⟩)

/-- An import of an account that is there. -/
theorem SchedulerSound.importInto (h : db.SchedulerSound) {poolID target : Int} {a : Account}
    (htarget : db.importTarget? poolID a = some target)
    (hparked : a.enabled = true → ∀ d, db.accountDiagnostics.find? target = some d → ¬Parked d)
    (hmarked : a.MarkedDisabled → db.accountDiagnostics.find? target ≠ none) :
    (((db.updateCpaAccountFromImport env target a).addPoolMemberIdempotent poolID
      target).ensureAccountDiagnosticTx env { a with id := target }).SchedulerSound := by
  have hthere := isSome_find?_of_importTarget? htarget
  have himported : (db.updateCpaAccountFromImport env target a).SchedulerSound := by
    refine h.of_rows ?_ ?_ ?_
    · rfl
    · exact fun id hid =>
        (AccountWrite.updateCpaAccountFromImport target a).isSome_find?_run env hid
    · intro id d hd hafter
      rcases enabled_updateAccount hafter (fun _ => rfl) with hbefore | ⟨rfl, _, henabled⟩
      · exact Or.inl hbefore
      · exact Or.inr (hparked henabled d hd)
  apply (himported.addPoolMember poolID target).ensureTx
  · rw [accounts_addPoolMemberIdempotent]
    exact (AccountWrite.updateCpaAccountFromImport target a).isSome_find?_run env hthere
  · rintro hnone ⟨row, hrow, hrowEnabled⟩
    rw [accountDiagnostics_addPoolMemberIdempotent] at hnone
    rw [accounts_addPoolMemberIdempotent] at hrow
    obtain ⟨old, hold⟩ := Option.isSome_iff_exists.mp hthere
    have himport : (db.updateCpaAccountFromImport env target a).accounts.find? target =
        some { importedAccount env a old with updatedAt := env.now.datetime } := by
      rw [updateCpaAccountFromImport, find?_updateAccount db env target
        (f := importedAccount env a) (fun _ => rfl), if_pos rfl, hold]
      rfl
    obtain rfl := Option.some.inj (hrow.symm.trans himport)
    have haEnabled : a.enabled = true := hrowEnabled
    refine ⟨haEnabled, ?_⟩
    rw [Bool.eq_false_iff]
    exact fun hdisabled => hmarked ⟨haEnabled, hdisabled⟩ hnone

theorem SchedulerSound.upsert (h : db.SchedulerSound) {poolID : Int} {a : Account}
    (hparks : ¬(AccountWrite.upsertCpaAccountAndPoolMemberFromImport poolID a).Parks env db) :
    (db.upsertCpaAccountAndPoolMemberFromImport env poolID a).SchedulerSound := by
  unfold upsertCpaAccountAndPoolMemberFromImport
  cases hservice : a.cpaServiceID with
  | none => exact h
  | some serviceID =>
    cases hpool : db.pools.find? poolID with
    | none => exact h
    | some pool =>
      dsimp only
      rw [if_neg (by simp)]
      cases hfind : db.findAccountByCpaKey serviceID a.cpaAccountKey with
      | some existing =>
        have htarget : db.importTarget? poolID a = some existing.id := by
          simp [importTarget?, hservice, hpool, hfind]
        apply h.importInto htarget
        · intro henabled d hd hparked
          have himport : (AccountWrite.upsertCpaAccountAndPoolMemberFromImport poolID a).importOf?
              db existing.id = some a := by
            rw [AccountWrite.importOf?, if_pos htarget]
          exact hparks (Or.inl ⟨existing.id, d, ⟨a, himport, henabled⟩, hd, hparked⟩)
        · intro hmarked hnone
          apply hparks
          right
          refine ⟨hmarked, by rw [hservice]; rfl, by rw [hpool]; rfl, ?_⟩
          rw [htarget]
          exact hnone
      | none =>
        dsimp only
        split
        · exact h
        next hfails =>
          have hadded := (h.addAccount env (firstNonEmpty [a.sourceKind, lit "cpa"]) a).addPoolMember
            poolID (db.newAccount env (firstNonEmpty [a.sourceKind, lit "cpa"]) a).id
          refine SchedulerSound.addDiagnosed hadded (accounts_addPoolMemberIdempotent _ poolID _)
            rfl ?_ ?_ ?_
          · rfl
          · rfl
          intro hmarked
          apply hparks
          right
          refine ⟨hmarked, by rw [hservice]; rfl, by rw [hpool]; rfl, ?_⟩
          have htarget : db.importTarget? poolID a = none := by
            simp [importTarget?, hservice, hpool, hfind]
          rw [htarget]
          exact Bool.eq_false_iff.mpr hfails

/-- The backfill inserts the missing rows one after the other. -/
theorem SchedulerSound.backfill (h : db.SchedulerSound)
    (hmarked : ∀ a ∈ db.accounts.rows, a.enabled = true → a.status = lit "disabled" →
      db.accountDiagnostics.find? a.id ≠ none) :
    (db.backfillAccountDiagnostics env).SchedulerSound := by
  have hrows : ∀ (rows : List AccountRow) (start : Database), (∀ a ∈ rows, a ∈ db.accounts.rows) →
      start.accounts = db.accounts → start.SchedulerSound →
      (∀ id, start.accountDiagnostics.find? id = none → db.accountDiagnostics.find? id = none) →
      (rows.foldl (fun db a =>
        { db with
          accountDiagnostics :=
            db.accountDiagnostics.insertOrIgnore (db.backfilledDiagnostic env a) })
        start).SchedulerSound := by
    intro rows
    induction rows with
    | nil => exact fun start _ _ hstart _ => hstart
    | cons a rows ih =>
      intro start hmem haccounts hstart hnone
      have ha : a ∈ db.accounts.rows := hmem a List.mem_cons_self
      have hfind : start.accounts.find? a.id = some a := haccounts ▸ Table.find?_of_mem ha
      apply ih
      · exact fun b hb => hmem b (List.mem_cons_of_mem a hb)
      · exact haccounts
      · apply hstart.insert
        · exact Option.isSome_iff_exists.mpr ⟨a, hfind⟩
        · rfl
        · rintro hnew ⟨a', ha', henabled⟩
          obtain rfl := Option.some.inj (ha'.symm.trans hfind)
          have hstatus : a'.status ≠ lit "disabled" := by
            intro hdisabled
            exact hmarked a' ha henabled hdisabled (hnone a'.id hnew)
          show (if !a'.enabled || a'.status == lit "disabled" then _ else _) = _
          simp [henabled, hstatus]
      · intro id hid
        simp only [Table.find?_insertOrIgnore] at hid
        split at hid
        · contradiction
        · exact hnone id hid
  exact hrows db.accounts.rows db (fun _ ha => ha) rfl h fun _ hid => hid

end Sound

end Database

/-! ## Runs -/

/-- A write that parks nothing keeps every row mapped. -/
theorem schedulerSound_run {env : StoreEnv} {db : Database} {w : AccountWrite}
    (h : db.SchedulerSound) (hparks : ¬w.Parks env db) : (w.run env db).SchedulerSound := by
  cases w with
  | call c =>
    cases hid : c.diagnosticID? with
    | none => exact h.of_run (StoreCall.accountDiagnostics_run env db hid) hparks
    | some id =>
      cases c with
      | ensureAccountDiagnostic id =>
        exact h.ensureAccountDiagnostic fun hmarked => hparks (Or.inr hmarked)
      | updateAccountDiagnosticWithEvidence id update evidence =>
        exact h.update evidence fun hvalid hpreserve hmarked =>
          hparks (Or.inr ⟨hvalid, hpreserve, hmarked⟩)
      | _ => contradiction
  | createAccount a =>
    exact h.createAccount fun hadds hmarked => hparks (Or.inr ⟨hmarked, hadds⟩)
  | upsertCpaAccountAndPoolMemberFromImport poolID a => exact h.upsert hparks
  | backfillAccountDiagnostics =>
    exact h.backfill fun a ha henabled hstatus hnone =>
      hparks (Or.inr ⟨a, ha, henabled, hstatus, hnone⟩)
  | addPoolMemberIdempotent poolID accountID =>
    apply h.of_run _ hparks
    rw [AccountWrite.run]
    split
    · rfl
    · exact Database.accountDiagnostics_addPoolMemberIdempotent poolID accountID
  | _ => exact h.of_run rfl hparks

/-- A run whose steps park nothing keeps the database sound. -/
theorem schedulerSound_reached {db : Database} (hdb : db.SchedulerSound) {history : History}
    (hparks : ∀ (n : Nat) (env : StoreEnv) (w : AccountWrite), history[n]? = some (env, w) →
      ¬w.Parks env (reached db history n)) (n : Nat) : (reached db history n).SchedulerSound := by
  induction n with
  | zero => exact hdb
  | succ n ih =>
    cases hn : history[n]? with
    | none =>
      rw [reached_end hn]
      exact ih
    | some step =>
      rw [reached_succ hn]
      exact schedulerSound_run ih (hparks n step.1 step.2 hn)

/-- In every state of a run whose steps park nothing, a row without an override
is ineligible when there is a verdict, and otherwise lets its account be routed
when that is enabled. -/
theorem scheduler_follows_verdict {db : Database} (hdb : db.SchedulerSound) {history : History}
    (hparks : ∀ (n : Nat) (env : StoreEnv) (w : AccountWrite), history[n]? = some (env, w) →
      ¬w.Parks env (reached db history n)) (n : Nat) {id : Int} {d : AccountDiagnostic}
    (hd : (reached db history n).accountDiagnostics.find? id = some d)
    (hoverride : d.schedulerOverride = []) :
    (d.stableDiagnosticStatus ∈ [lit "banned", lit "quota_exhausted", lit "auth_invalid"] →
        d.schedulerStatus = lit "ineligible") ∧
      ∀ a, (reached db history n).accounts.find? id = some a → a.enabled = true →
        d.stableDiagnosticStatus ∉ [lit "banned", lit "quota_exhausted", lit "auth_invalid"] →
        d.schedulerStatus ∈ [lit "eligible", lit "eligible_with_warning"] := by
  have hmapped := (schedulerSound_reached hdb hparks n).mapped id d hd
  refine ⟨hmapped.verdict hoverride, ?_⟩
  intro a ha henabled hstable
  exact hmapped.other hoverride hstable ⟨a, ha, henabled⟩

/-! ## An account that is created disabled -/

/-- An account as the administrator creates it. -/
def plainAccount (enabled : Bool) : Account :=
  { id := 0, label := lit "a", baseURL := lit "http://a", enabled := enabled, status := [] }

/-- The account is created, disabled and enabled again. -/
def toggledHistory (enabled : Bool) : History :=
  let env : StoreEnv := ⟨default, fun _ => []⟩
  [(env, .createAccount (plainAccount enabled)), (env, .disableAccount 1), (env, .enableAccount 1)]

theorem schedulerSound_default : Database.SchedulerSound {} := by
  refine ⟨?_, ?_⟩
  · intro id d hd
    contradiction
  · intro id hd
    contradiction

/-- No step of the run parks an account that was created enabled. -/
theorem not_parks_toggled {n : Nat} {env : StoreEnv} {w : AccountWrite}
    (hn : (toggledHistory true)[n]? = some (env, w)) :
    ¬w.Parks env (reached {} (toggledHistory true) n) := by
  have hlt : n < 3 := (List.getElem?_eq_some_iff.mp hn).1
  have hcases : n = 0 ∨ n = 1 ∨ n = 2 := by omega
  rcases hcases with rfl | rfl | rfl
  all_goals obtain ⟨rfl, rfl⟩ := Prod.mk.inj (Option.some.inj hn)
  · rintro (⟨id, d, ⟨imported, himport, -⟩, -⟩ | ⟨⟨-, hmarked⟩, -⟩)
    · contradiction
    · exact absurd hmarked (by decide)
  · rintro (⟨id, d, ⟨imported, himport, -⟩, -⟩ | hinserts)
    · contradiction
    · exact hinserts
  · rintro (⟨id, d, rfl, hd, hparked⟩ | hinserts)
    · have hrow : ((reached {} (toggledHistory true) 2).accountDiagnostics.find? 1).map
          AccountDiagnostic.schedulerStatus = some (lit "eligible_with_warning") := by
        decide +kernel
      rw [hd] at hrow
      apply hparked.2.2
      rw [show d.schedulerStatus = lit "eligible_with_warning" from Option.some.inj hrow]
      decide
    · exact hinserts

/-- Created enabled, the account is routed again. -/
theorem scheduler_follows_toggle :
    ∃ d, (reached {} (toggledHistory true) 3).accountDiagnostics.find? 1 = some d ∧
      (d.stableDiagnosticStatus ∈ [lit "banned", lit "quota_exhausted", lit "auth_invalid"] →
        d.schedulerStatus = lit "ineligible") ∧
      ∀ a, (reached {} (toggledHistory true) 3).accounts.find? 1 = some a → a.enabled = true →
        d.stableDiagnosticStatus ∉ [lit "banned", lit "quota_exhausted", lit "auth_invalid"] →
        d.schedulerStatus ∈ [lit "eligible", lit "eligible_with_warning"] := by
  have hrow : ((reached {} (toggledHistory true) 3).accountDiagnostics.find? 1).map
      AccountDiagnostic.schedulerOverride = some [] := by
    decide +kernel
  obtain ⟨d, hd, hoverride⟩ := Option.map_eq_some_iff.mp hrow
  exact ⟨d, hd, scheduler_follows_verdict schedulerSound_default
    (fun _ _ _ hn => not_parks_toggled hn) 3 hd hoverride⟩

/-- Created disabled, it stays out of routing although it is enabled and there is
no verdict. -/
theorem enabled_account_parked :
    ∃ d a, (reached {} (toggledHistory false) 3).accountDiagnostics.find? 1 = some d ∧
      (reached {} (toggledHistory false) 3).accounts.find? 1 = some a ∧ a.enabled = true ∧
      d.schedulerOverride = [] ∧ d.stableDiagnosticStatus = lit "unknown" ∧
      d.schedulerStatus = lit "ineligible" := by
  have hrow : ((reached {} (toggledHistory false) 3).accountDiagnostics.find? 1).map
      (fun d => (d.schedulerOverride, d.stableDiagnosticStatus, d.schedulerStatus)) =
        some ([], lit "unknown", lit "ineligible") := by
    decide +kernel
  have haccount : ((reached {} (toggledHistory false) 3).accounts.find? 1).map AccountRow.enabled =
      some true := by
    decide +kernel
  obtain ⟨d, hd, hrow⟩ := Option.map_eq_some_iff.mp hrow
  obtain ⟨a, ha, henabled⟩ := Option.map_eq_some_iff.mp haccount
  obtain ⟨hoverride, hrow⟩ := Prod.mk.inj hrow
  obtain ⟨hstable, hstatus⟩ := Prod.mk.inj hrow
  exact ⟨d, a, hd, ha, henabled, hoverride, hstable, hstatus⟩

end Lune.Store
