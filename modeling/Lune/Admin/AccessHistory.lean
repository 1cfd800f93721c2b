import Lune.Admin.Import
import Lune.Gateway.Records
import Lune.Health.RefreshCalls
import Lune.Store.Access

/-!
# The access of an account over a run

A run is a list of statements with the clocks they read; statements of different
requests, checks and imports may come in any order.  The reason of an access
always goes with its status.  An account that a model request or an allowed
usage probe made eligible stays so until it is imported again without an active
subscription, or until a subscription that was active since has expired.
-/

namespace Lune.Admin

open GoText Keyed TimeText Calendar Lune.Store Lune.Health Programs Lune.Gateway

/-! ## The statements of the program -/

/-- The reasons of an access that was proven. -/
def accessEvidence : List Str := [lit "model_request_success", lit "wham_usage_allowed"]

/-- The program stores an access only when it was proven, and an account comes in
without one. -/
def Issued : AccountWrite → Prop
  | .call (.updateAccountCpaAccessStatus _ status reason _ _) =>
    status = lit "eligible" ∧ reason ∈ accessEvidence
  | .createAccount a | .updateCpaAccountFromImport _ a
  | .upsertCpaAccountAndPoolMemberFromImport _ a => a.cpaAccessStatus = [] ∧ a.cpaAccessReason = []
  | _ => True

/-- The gateway issues such statements. -/
theorem issued_serveHTTP (env : Env) (r : Request) :
    ∀ call ∈ statements env (serveHTTP env r), Issued (.call call) := by
  apply forall_statements_serveHTTP
  intro c _ first k st route action _ hmakes call hcall
  cases hmakes with
  | updateAccountCpaAccessStatus =>
    obtain rfl := List.mem_singleton.mp hcall
    exact ⟨rfl, List.mem_cons_self⟩
  | recordCodexQuotaRateLimitEvidence =>
    simp only [Action.calls, Action.effects, Gateway.recordCodexQuotaRateLimitEvidence] at hcall
    split at hcall
    · contradiction
    · obtain rfl := List.mem_singleton.mp hcall
      trivial
  | transient | fatal | succeeded =>
    rcases mem_calls_recordAccountDiagnosticObservation hcall with rfl | ⟨previous, rfl⟩ <;> trivial
  | invalidate => contradiction
  | _ =>
    obtain rfl := List.mem_singleton.mp hcall
    trivial

theorem issued_of_credentialCall {id : Int} {call : StoreCall} (h : CredentialCall id call) :
    Issued (.call call) := by
  cases call with
  | updateAccountCpaAccessStatus => exact h.elim
  | _ => trivial

/-- So do a refresh and a sync. -/
theorem issued_refreshAccount {Q : StoreEnv → Database → Prop} (c : Checker) (io : RefreshIO)
    (acc : Account) (opts : RefreshOptions) :
    (refreshAccount c io acc opts).Safe Q (fun call => Issued (.call call)) fun _ => True := by
  apply safe_refreshAccount
  · exact fun _ => trivial
  · exact fun call hcall => issued_of_credentialCall hcall
  · apply (safe_fetchOneCodexQuota io.usage acc).mono (fun _ _ hQ => hQ) _ fun _ _ => trivial
    intro call hcall
    cases call with
    | updateAccountCpaAccessStatus other status reason lastError checkedAt =>
      obtain ⟨-, rfl, rfl, -⟩ := hcall
      exact ⟨rfl, List.mem_cons_of_mem _ List.mem_cons_self⟩
    | _ => trivial

theorem issued_syncCpaMetadata {Q : StoreEnv → Database → Prop} (c : Checker) (env : RuntimeEnv) :
    (syncCpaMetadata c env).Safe Q (fun call => Issued (.call call)) fun _ => True :=
  safe_syncCpaMetadata c env fun _ _ hcall => issued_of_credentialCall hcall

theorem issued_intake {Q : StoreEnv → Database → Prop} (t : Tokens) (svc : CpaService)
    (accountKey : Str) (f : CpaAuthFile) (intake : Intake) :
    (intake.program t svc accountKey f).Safe Q Issued fun _ => True := by
  apply (safe_intake t svc accountKey f intake).mono (fun _ _ hQ => hQ) _ fun _ hR => hR
  intro w hw
  cases hw with
  | create a hstatus hreason => exact ⟨hstatus, hreason⟩
  | update id a hstatus hreason => exact ⟨hstatus, hreason⟩
  | upsert poolID a hstatus hreason => exact ⟨hstatus, hreason⟩
  | member poolID id => trivial

/-- The account comes in with a subscription to codex that is active. -/
def Subscribed (a : Account) : Prop :=
  equalFold a.cpaProvider (lit "codex") = true ∧ toLower a.cpaSubscriptionStatus = lit "active"

/-- The statement says that the subscription of the account `id` has expired. -/
def StatesExpired (env : StoreEnv) (id : Int) : AccountWrite → Prop
  | .call (.updateAccountCpaSubscription other expiresAt _ lastError) =>
    other = id ∧ deriveCpaSubscriptionStatus env.now expiresAt lastError = lit "expired"
  | .updateAccountCpaSubscriptionStatus other status _ _ => other = id ∧ status = lit "expired"
  | _ => False

/-- The statement brings the account `id` in again without an active
subscription, or says that the subscription its access comes from has expired. -/
def LosesAccess (env : StoreEnv) (db : Database) (id : Int) (w : AccountWrite) : Prop :=
  (∃ imported, w.importOf? db id = some imported ∧ ¬Subscribed imported) ∨
    (StatesExpired env id w ∧
      ∃ a, db.accounts.find? id = some a ∧ a.cpaAccessReason = lit "subscription_active")

theorem importOf?_of_statesExpired {env : StoreEnv} {id : Int} {w : AccountWrite}
    (h : StatesExpired env id w) (db : Database) : w.importOf? db id = none := by
  cases w with
  | call | updateAccountCpaSubscriptionStatus => rfl
  | _ => exact h.elim

theorem Issued.blank_of_added {w : AccountWrite} (h : Issued w) {added : Account}
    (hadded : w.added? = some added) : added.cpaAccessStatus = [] ∧ added.cpaAccessReason = [] := by
  cases w with
  | createAccount a =>
    obtain rfl := Option.some.inj hadded
    exact h
  | upsertCpaAccountAndPoolMemberFromImport poolID a =>
    obtain rfl := Option.some.inj hadded
    exact h
  | _ => contradiction

theorem Issued.blank_of_import {w : AccountWrite} (h : Issued w) {db : Database} {id : Int}
    {imported : Account} (himport : w.importOf? db id = some imported) :
    imported.cpaAccessStatus = [] ∧ imported.cpaAccessReason = [] := by
  cases w with
  | updateCpaAccountFromImport other a =>
    simp only [AccountWrite.importOf?, Option.ite_none_right_eq_some] at himport
    obtain rfl := Option.some.inj himport.2
    exact h
  | upsertCpaAccountAndPoolMemberFromImport poolID a =>
    simp only [AccountWrite.importOf?, Option.ite_none_right_eq_some] at himport
    obtain rfl := Option.some.inj himport.2
    exact h
  | _ => contradiction

/-! ## The reason goes with the status -/

/-- A statement that imports nothing into the account keeps the reason with the
status. -/
theorem consistent_editAccess (env : StoreEnv) {w : AccountWrite} (hissued : Issued w) (id : Int)
    {a : AccountRow} (h : a.access.Consistent) : (w.editAccess env id a).Consistent := by
  cases w with
  | call c =>
    show (c.onAccess env id a.access).Consistent
    cases c with
    | updateAccountCpaAccessStatus other status reason lastError checkedAt =>
      obtain ⟨rfl, hreason⟩ := hissued
      show Access.Consistent (if other = id then ⟨lit "eligible", reason⟩ else a.access)
      split
      · simp only [accessEvidence, List.mem_cons, List.not_mem_nil, or_false] at hreason
        rcases hreason with rfl | rfl <;>
          exact Access.consistent_of_reason (by decide) (by decide)
      · exact h
    | updateAccountCpaSubscription other expiresAt fetchedAt lastError =>
      show Access.Consistent (if other = id then a.access.afterSubscription _ else a.access)
      split
      · exact h.afterSubscription _
      · exact h
    | _ => exact h
  | updateAccountCpaSubscriptionStatus other status lastError checkedAt =>
    show Access.Consistent (if other = id then a.access.afterSubscription _ else a.access)
    split
    · exact h.afterSubscription _
    · exact h
  | migrateCpaAccessColumns => exact consistent_backfilledAccess h
  | _ => exact h

/-- A statement of the program keeps the reason of every account with its
status. -/
theorem accessConsistent_run (env : StoreEnv) {db : Database} {w : AccountWrite}
    (hissued : Issued w) (h : db.AccessConsistent) : (w.run env db).AccessConsistent := by
  intro id a' ha'
  cases hfind : db.accounts.find? id with
  | none =>
    obtain ⟨added, hadded, haccess⟩ := w.access_run_added env hfind ha'
    obtain ⟨hstatus, hreason⟩ := hissued.blank_of_added hadded
    rw [haccess]
    exact Account.consistent_initialAccess hstatus hreason
  | some a =>
    have hrun := w.access_run env hfind
    rw [Database.column?, ha'] at hrun
    rw [Option.some.inj hrun]
    unfold AccountWrite.onAccess
    split
    next imported himport =>
      obtain ⟨hstatus, hreason⟩ := hissued.blank_of_import himport
      exact Account.consistent_initialAccess hstatus hreason
    next => exact consistent_editAccess env hissued id (h id a hfind)

/-! ## What takes the access away -/

/-- An account that comes in with an active subscription is eligible, and any
other is not. -/
theorem initialCpaAccessStatus_of_blank {a : Account} (hstatus : a.cpaAccessStatus = []) :
    (Subscribed a ∧ initialCpaAccessStatus a = lit "eligible") ∨
      (¬Subscribed a ∧ [lit "ineligible", lit "unknown"].contains (initialCpaAccessStatus a)) := by
  have hblank : isBlank ([] : Str) = true := by decide
  unfold Subscribed initialCpaAccessStatus
  simp only [hstatus, hblank, Bool.not_true, Bool.false_eq_true, if_false, Bool.and_eq_true,
    beq_iff_eq]
  by_cases hactive : equalFold a.cpaProvider (lit "codex") = true ∧
      toLower a.cpaSubscriptionStatus = lit "active"
  · rw [if_pos hactive]
    exact Or.inl ⟨hactive, rfl⟩
  · rw [if_neg hactive]
    refine Or.inr ⟨hactive, ?_⟩
    split <;> decide

/-- A statement that does not take the access away keeps an account eligible. -/
theorem onAccess_of_not_loses {env : StoreEnv} {db : Database} {id : Int} {a : AccountRow}
    {w : AccountWrite} (hissued : Issued w) (hfind : db.accounts.find? id = some a)
    (heligible : a.cpaAccessStatus = lit "eligible") (h : ¬LosesAccess env db id w) :
    (w.onAccess env db id a).status = lit "eligible" := by
  -- a write about the subscription is the case of the lemma
  have hsubscription : ∀ subscription, (subscription = lit "expired" →
      a.cpaAccessReason ≠ lit "subscription_active") →
      (a.access.afterSubscription subscription).status = lit "eligible" := by
    intro subscription hreason
    have hexpires : (subscription == lit "expired" && a.access.expires) = false := by
      rw [Bool.eq_false_iff]
      intro hboth
      rw [Bool.and_eq_true, beq_iff_eq] at hboth
      have hreason := hreason hboth.1
      simp [Access.expires, AccountRow.access, heligible, hreason] at hboth
    unfold Access.afterSubscription
    rw [hexpires]
    split
    · rfl
    · exact heligible
  have hexpired : StatesExpired env id w → a.cpaAccessReason ≠ lit "subscription_active" := by
    intro hstates hreason
    exact h (Or.inr ⟨hstates, a, hfind, hreason⟩)
  unfold AccountWrite.onAccess
  cases himport : w.importOf? db id with
  | some imported =>
    have hsubscribed : Subscribed imported := by
      by_contra hnot
      exact h (Or.inl ⟨imported, himport, hnot⟩)
    rcases initialCpaAccessStatus_of_blank (hissued.blank_of_import himport).1 with
      ⟨-, hinitial⟩ | ⟨hnot, -⟩
    · exact hinitial
    · exact absurd hsubscribed hnot
  | none =>
    cases w with
    | call c =>
      show (c.onAccess env id a.access).status = lit "eligible"
      cases c with
      | updateAccountCpaAccessStatus other status reason lastError checkedAt =>
        obtain ⟨rfl, -⟩ := hissued
        show (if other = id then Access.mk (lit "eligible") reason else a.access).status = _
        split
        · rfl
        · exact heligible
      | updateAccountCpaSubscription other expiresAt fetchedAt lastError =>
        show (if other = id then a.access.afterSubscription _ else a.access).status = _
        split
        next hid => exact hsubscription _ fun hstatus => hexpired ⟨hid, hstatus⟩
        next => exact heligible
      | _ => exact heligible
    | updateAccountCpaSubscriptionStatus other status lastError checkedAt =>
      show (if other = id then a.access.afterSubscription _ else a.access).status = _
      split
      next hid =>
        apply hsubscription
        intro hstatus
        unfold defaultCpaStatus at hstatus
        split at hstatus
        · exact absurd hstatus (by decide)
        · exact hexpired ⟨hid, hstatus⟩
      next => exact heligible
    | migrateCpaAccessColumns =>
      show (Database.backfilledAccess a).cpaAccessStatus = lit "eligible"
      unfold Database.backfilledAccess
      rw [heligible]
      simp only [show [[], lit "unknown"].contains (lit "eligible") = false by decide,
        Bool.and_false, Bool.false_and, Bool.false_eq_true, if_false]
      exact heligible
    | _ => exact heligible

/-- A statement that takes the access away leaves the account ineligible or
unknown. -/
theorem onAccess_of_loses {env : StoreEnv} {db : Database} {id : Int} {a : AccountRow}
    {w : AccountWrite} (hissued : Issued w) (hfind : db.accounts.find? id = some a)
    (h : LosesAccess env db id w) :
    [lit "ineligible", lit "unknown"].contains (w.onAccess env db id a).status := by
  unfold AccountWrite.onAccess
  rcases h with ⟨imported, himport, hnot⟩ | ⟨hstates, a', hfind', hreason⟩
  · rw [himport]
    rcases initialCpaAccessStatus_of_blank (hissued.blank_of_import himport).1 with
      ⟨hsubscribed, -⟩ | ⟨-, hinitial⟩
    · exact absurd hsubscribed hnot
    · exact hinitial
  · obtain rfl := Option.some.inj (hfind.symm.trans hfind')
    have hexpired : (a.access.afterSubscription (lit "expired")).status = lit "ineligible" := by
      have hexpires : a.access.expires = true := by
        simp [Access.expires, AccountRow.access, hreason]
      unfold Access.afterSubscription
      rw [hexpires, if_neg (by decide), if_pos (by decide)]
    rw [importOf?_of_statesExpired hstates db]
    cases w with
    | call c =>
      cases c with
      | updateAccountCpaSubscription other expiresAt fetchedAt lastError =>
        obtain ⟨rfl, hstatus⟩ := hstates
        simp only [AccountWrite.editAccess, StoreCall.onAccess, if_true, hstatus, hexpired]
        decide
      | _ => exact hstates.elim
    | updateAccountCpaSubscriptionStatus other status lastError checkedAt =>
      obtain ⟨rfl, rfl⟩ := hstates
      have hdefault : defaultCpaStatus (lit "expired") = lit "expired" := by decide
      simp only [AccountWrite.editAccess, if_true, hdefault, hexpired]
      decide
    | _ => exact hstates.elim

/-! ## Whole runs -/

/-- Step `k` of the run stores that the access of the account `id` was proven. -/
def ProvenAt (db : Database) (history : History) (id : Int) (k : Nat) : Prop :=
  ((reached db history k).accounts.find? id).isSome ∧
    ∃ env status reason lastError checkedAt, history[k]? =
      some (env, .call (.updateAccountCpaAccessStatus id status reason lastError checkedAt))

/-- The account `id` is there and eligible. -/
def EligibleAt (db : Database) (id : Int) : Prop :=
  ∃ a, db.accounts.find? id = some a ∧ a.cpaAccessStatus = lit "eligible"

theorem eligibleAt_of_access {db : Database} {id : Int} {access : Access}
    (h : db.column? AccountRow.access id = some access)
    (heligible : access.status = lit "eligible") : EligibleAt db id := by
  obtain ⟨a, ha, rfl⟩ := Option.map_eq_some_iff.mp h
  exact ⟨a, ha, heligible⟩

section Run

variable {db : Database} {history : History} {id : Int}

theorem issued_of_getElem? (hissued : ∀ step ∈ history, Issued step.2) {n : Nat} {env : StoreEnv}
    {w : AccountWrite} (h : history[n]? = some (env, w)) : Issued w :=
  hissued (env, w) (List.mem_of_getElem? h)

/-- A proof makes the account eligible. -/
theorem eligibleAt_of_proven (hissued : ∀ step ∈ history, Issued step.2) {k : Nat}
    (h : ProvenAt db history id k) : EligibleAt (reached db history (k + 1)) id := by
  obtain ⟨hthere, env, status, reason, lastError, checkedAt, hstep⟩ := h
  obtain ⟨a, ha⟩ := Option.isSome_iff_exists.mp hthere
  obtain ⟨rfl, -⟩ := issued_of_getElem? hissued hstep
  rw [reached_succ hstep]
  apply eligibleAt_of_access (AccountWrite.access_run env _ ha)
  simp only [AccountWrite.onAccess, AccountWrite.importOf?, AccountWrite.editAccess,
    StoreCall.onAccess, if_true]
  decide

/-- Where no later step takes the access away, the account stays eligible. -/
theorem eligibleAt_after (hissued : ∀ step ∈ history, Issued step.2) {k : Nat}
    (hproven : ProvenAt db history id k)
    (hkeeps : ∀ j env w, k < j → history[j]? = some (env, w) →
      ¬LosesAccess env (reached db history j) id w) (m : Nat) :
    EligibleAt (reached db history (k + 1 + m)) id := by
  induction m with
  | zero => exact eligibleAt_of_proven hissued hproven
  | succ m ih =>
    show EligibleAt (reached db history (k + 1 + m + 1)) id
    cases hstep : history[k + 1 + m]? with
    | none =>
      rw [reached_end hstep]
      exact ih
    | some step =>
      obtain ⟨a, ha, heligible⟩ := ih
      rw [reached_succ hstep]
      apply eligibleAt_of_access (step.2.access_run step.1 ha)
      apply onAccess_of_not_loses (issued_of_getElem? hissued hstep) ha heligible
      exact hkeeps _ step.1 step.2 (by omega) hstep

/-- No statement removes an account. -/
theorem isSome_find?_reached {k : Nat} (h : ((reached db history k).accounts.find? id).isSome)
    (m : Nat) : ((reached db history (k + m)).accounts.find? id).isSome := by
  induction m with
  | zero => exact h
  | succ m ih =>
    show ((reached db history (k + m + 1)).accounts.find? id).isSome = true
    cases hstep : history[k + m]? with
    | none =>
      rw [reached_end hstep]
      exact ih
    | some step =>
      rw [reached_succ hstep]
      exact step.2.isSome_find?_run step.1 ih

end Run

/-- In every state of a run the reason of an access goes with its status, and an
account that was proven to have access is neither ineligible nor unknown, if and
only if no step after the proof brings it in again without an active
subscription, or says that the subscription its access comes from has
expired. -/
theorem access_history_iff {db : Database} {history : History} (hdb : db.AccessConsistent)
    (hissued : ∀ step ∈ history, Issued step.2) (id : Int) :
    ((∀ n, (reached db history n).AccessConsistent) ∧
      ∀ k n a, ProvenAt db history id k → k < n →
        (reached db history n).accounts.find? id = some a →
          a.cpaAccessStatus ∉ [lit "ineligible", lit "unknown"]) ↔
      ∀ k j env w, ProvenAt db history id k → k < j → history[j]? = some (env, w) →
        ¬LosesAccess env (reached db history j) id w := by
  constructor
  · rintro ⟨-, hproven⟩ k j env w hk hlt hstep hloses
    have hthere := isSome_find?_reached hk.1 (j - k)
    rw [show k + (j - k) = j by omega] at hthere
    obtain ⟨a, ha⟩ := Option.isSome_iff_exists.mp hthere
    obtain ⟨a', ha', haccess⟩ := Option.map_eq_some_iff.mp (w.access_run env ha)
    have hlost := onAccess_of_loses (issued_of_getElem? hissued hstep) ha hloses
    rw [← haccess] at hlost
    have hkept := hproven k (j + 1) a' hk (by omega) (by rw [reached_succ hstep]; exact ha')
    exact hkept (List.contains_iff_mem.mp hlost)
  · intro hkeeps
    refine ⟨?_, ?_⟩
    · apply reached_induction hdb
      intro env w hmem db' hdb'
      exact accessConsistent_run env (hissued (env, w) hmem) hdb'
    · intro k n a hk hlt ha
      have hafter := eligibleAt_after hissued hk
        (fun j env w hj hstep => hkeeps k j env w hk hj hstep) (n - (k + 1))
      rw [show k + 1 + (n - (k + 1)) = n by omega] at hafter
      obtain ⟨a', ha', heligible⟩ := hafter
      obtain rfl := Option.some.inj (ha.symm.trans ha')
      rw [heligible]
      decide

/-! ## A proof that is lost -/

/-- Tokens that state nothing. -/
def plainTokens : Tokens where
  accountInfoPlanType := fun _ _ => none
  subscriptionActiveUntil := fun _ _ => []
  accountInfoAccountID := fun _ _ => []

/-- A codex credential without a subscription, as it comes in. -/
def codexImport : Account :=
  importedCpaAccountTemplate plainTokens default { id := 1 } (lit "codex-a-free")
    { type := lit "codex", email := lit "a", accountID := lit "acct" } [] true []

/-- A service and a pool. -/
def emptyPool : Database :=
  { cpaServices := Table.empty.set { id := 1 }, pools := Table.empty.set { id := 1 } }

/-- The time of the import, and a later one. -/
def importTime : StoreEnv := ⟨Clock.july, fun _ => []⟩

@[inherit_doc importTime]
def laterTime : StoreEnv :=
  ⟨⟨Fields.seconds ⟨2026, 9, 1, 0, 0, 0⟩ * second, by decide⟩, fun _ => []⟩

/-- The credential comes in, and a model request succeeds. -/
def provenHistory : History :=
  [(importTime, .upsertCpaAccountAndPoolMemberFromImport 1 codexImport),
    (importTime, .call (.updateAccountCpaAccessStatus 1 (lit "eligible")
      (lit "model_request_success") [] importTime.now.rfc3339))]

/-- The subscription ends between the two times. -/
def refreshSubscriptionCall (env : StoreEnv) : StoreEnv × AccountWrite :=
  (env, .call (.updateAccountCpaSubscription 1 (lit "2026-08-01T00:00:00Z") env.now.datetime []))

/-- The credential comes in again. -/
def reimportHistory : History :=
  provenHistory ++ [(laterTime, .updateCpaAccountFromImport 1 codexImport)]

/-- The subscription is seen active and then expired. -/
def expiryHistory : History :=
  provenHistory ++ [refreshSubscriptionCall importTime, refreshSubscriptionCall laterTime]

theorem accessConsistent_emptyPool : emptyPool.AccessConsistent := by
  intro id a h
  contradiction

theorem issued_codexImport : codexImport.cpaAccessStatus = [] ∧ codexImport.cpaAccessReason = [] :=
  ⟨rfl, rfl⟩

theorem issued_provenHistory (rest : History) (hrest : ∀ step ∈ rest, Issued step.2) :
    ∀ step ∈ provenHistory ++ rest, Issued step.2 := by
  intro step hstep
  rcases List.mem_append.mp hstep with hstep | hstep
  · simp only [provenHistory, List.mem_cons, List.not_mem_nil, or_false] at hstep
    rcases hstep with rfl | rfl
    · exact issued_codexImport
    · exact ⟨rfl, List.mem_cons_self⟩
  · exact hrest step hstep

/-- Expired metadata does not take a proven access away. -/
theorem access_history_expired :
    (∀ n, (reached emptyPool (provenHistory ++ [refreshSubscriptionCall laterTime])
        n).AccessConsistent) ∧
      ∀ k n a, ProvenAt emptyPool (provenHistory ++ [refreshSubscriptionCall laterTime]) 1 k →
        k < n → (reached emptyPool (provenHistory ++ [refreshSubscriptionCall laterTime])
          n).accounts.find? 1 = some a →
        a.cpaAccessStatus ∉ [lit "ineligible", lit "unknown"] := by
  apply (access_history_iff accessConsistent_emptyPool
    (issued_provenHistory _ (by simp [refreshSubscriptionCall, Issued])) 1).mpr
  intro k j env w hk hlt hstep hloses
  have hj : j < 3 := (List.getElem?_eq_some_iff.mp hstep).1
  obtain ⟨-, kenv, status, reason, lastError, checkedAt, hkstep⟩ := hk
  have hk : k ≠ 0 := by
    rintro rfl
    simp [provenHistory] at hkstep
  obtain rfl : j = 2 := by omega
  obtain ⟨rfl, rfl⟩ := Prod.mk.inj (Option.some.inj hstep)
  rcases hloses with ⟨imported, himport, -⟩ | ⟨-, a, ha, hreason⟩
  · contradiction
  · have hrow : ((reached emptyPool (provenHistory ++ [refreshSubscriptionCall laterTime])
        2).accounts.find? 1).map AccountRow.cpaAccessReason = some (lit "model_request_success") := by
      decide +kernel
    rw [ha] at hrow
    exact absurd (hreason.symm.trans (Option.some.inj hrow)) (by decide)

/-- The same credential imported again loses the proof, and so does an account
whose subscription is seen active and then expired. -/
theorem proven_access_lost :
    emptyPool.AccessConsistent ∧
      ((∀ step ∈ reimportHistory, Issued step.2) ∧ ProvenAt emptyPool reimportHistory 1 1 ∧
        (reached emptyPool reimportHistory 3).column? AccountRow.cpaAccessStatus 1 =
          some (lit "unknown")) ∧
      (∀ step ∈ expiryHistory, Issued step.2) ∧ ProvenAt emptyPool expiryHistory 1 1 ∧
        (reached emptyPool expiryHistory 4).column? AccountRow.cpaAccessStatus 1 =
          some (lit "ineligible") := by
  have hthere : ((reached emptyPool provenHistory 1).accounts.find? 1).isSome = true := by
    decide +kernel
  refine ⟨accessConsistent_emptyPool, ⟨issued_provenHistory _ ?_, ⟨hthere, _, _, _, _, _, rfl⟩,
    ?_⟩, issued_provenHistory _ ?_, ⟨hthere, _, _, _, _, _, rfl⟩, ?_⟩
  · intro step hstep
    obtain rfl := List.mem_singleton.mp hstep
    exact issued_codexImport
  · decide +kernel
  · simp [refreshSubscriptionCall, Issued]
  · decide +kernel

end Lune.Admin
