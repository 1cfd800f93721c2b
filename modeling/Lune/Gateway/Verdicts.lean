import Lune.Gateway.Pinning
import Lune.Gateway.Records
import Lune.Health.Quota

/-!
# Verdicts and who overturns them

Two programs write diagnostic rows: the gateway records what a request observed,
and a refused quota probe records that it was refused.  Each reads the row,
decides, and writes in a later transaction.  Under any interleaving of such
programs a fatal verdict gives way to a success only, unless a probe decided on
a row that was usable and writes to one that no longer is.
-/

namespace Lune.Gateway

open GoText Keyed Programs Lune.Store Lune.Router Lune.Health

/-! ## The programs -/

/-- `recordAccountDiagnosticObservation`, step by step. -/
def observe (account : Account) (obs : Observation) : StoreProg Unit :=
  if account.id ≤ 0 then pure ()
  else do
    let current ← getAccountDiagnostic account.id
    let env ← Prog.look fun env _ => env
    Prog.writes ((Action.recordAccountDiagnosticObservation account obs).calls
      { store := env, diagnostic := { result := some current } })

/-- The programs that record a diagnostic: the observations of requests, and the
records of refused probes. -/
inductive DiagnosticProgram : StoreProg Unit → Prop where
  | request (env : Env) (r : Request) (k : Nat) (account : Account) (obs : Observation)
    (h : .act k (.recordAccountDiagnosticObservation account obs) ∈ serveHTTP env r) :
    DiagnosticProgram (observe account obs)
  | probe (accountID httpStatus : Int) :
    DiagnosticProgram (recordCodexQuotaProbeDiagnostic accountID httpStatus)

/-- What requests observe: a passing failure, a verdict or a success. -/
inductive Observation.Made (obs : Observation) : Prop where
  | transient (hprobe : obs.probeStatus = lit "transient_error")
  | fatal (hstable : obs.stableStatus ∈ fatalStatuses) (hprobe : obs.probeStatus ∈ signalStatuses)
  | succeeded (hprobe : obs.probeStatus = lit "succeeded")

theorem Call.Makes.observation {c : Call} {k : Nat} {route : ResolvedRoute} {account : Account}
    {obs : Observation}
    (h : c.Makes k route (.recordAccountDiagnosticObservation account obs)) : obs.Made := by
  cases h with
  | transient _ _ hprobe => exact .transient hprobe
  | fatal _ _ hstable hprobe => exact .fatal hstable hprobe
  | succeeded _ _ hprobe => exact .succeeded hprobe

/-- Every observation of a run is one of these. -/
theorem observation_of_serveHTTP {env : Env} {r : Request} {k : Nat} {account : Account}
    {obs : Observation}
    (h : .act k (.recordAccountDiagnosticObservation account obs) ∈ serveHTTP env r) :
    obs.Made := by
  let P : Event → Prop := fun e => ∀ k account obs,
    e = .act k (.recordAccountDiagnosticObservation account obs) → obs.Made
  have hall : ∀ e ∈ serveHTTP env r, P e := by
    apply forall_serveHTTP
    · intro e hcalm k account obs heq
      rw [heq] at hcalm
      contradiction
    · intro c hprepare first k last st e he j account obs heq
      have hrecorded := c.recorded_runAttempt first k last st e he
      rcases hrecorded with hcalm | ⟨route, action, -, hact, hmakes⟩
      · rw [heq] at hcalm
        contradiction
      · obtain ⟨-, rfl⟩ := Event.act.inj (heq.symm.trans hact)
        exact hmakes.observation
  exact hall _ h k account obs rfl

/-! ## The updates -/

/-- The updates of a diagnostic: one that leaves the stable status to the row, a
verdict, a success, or the downgrade of a probe that was refused. -/
inductive DiagnosticUpdate (update : AccountDiagnosticUpdate) : Prop where
  | preserving (hpreserve : update.preserveStableStatus = true)
  | fatal (hpreserve : update.preserveStableStatus = false)
    (hstable : update.stableDiagnosticStatus ∈ fatalStatuses)
    (hprobe : update.lastProbeStatus ∈ signalStatuses)
  | succeeded (hpreserve : update.preserveStableStatus = false)
    (hprobe : update.lastProbeStatus = lit "succeeded")
  | downgrade (hpreserve : update.preserveStableStatus = false)
    (hstable : update.stableDiagnosticStatus = lit "quota_probe_auth_failed_but_usable")
    (hprobe : update.lastProbeStatus = lit "quota_probe_auth_failed")

/-- The calls that record a diagnostic. -/
def RecordsDiagnostic : StoreCall → Prop
  | .ensureAccountDiagnostic _ => True
  | .updateAccountDiagnosticWithEvidence _ update _ =>
    update.schedulerOverride = [] ∧ DiagnosticUpdate update
  | _ => False

/-- A verdict is a stable status as the store writes it. -/
theorem fatalStatuses_normal : ∀ stable ∈ fatalStatuses,
    toLower (trimSpace stable) = stable ∧ stable ≠ [] ∧
      diagnosticStatuses.contains stable = true := by
  decide

theorem signalStatuses_normal : ∀ probe ∈ signalStatuses,
    equalFold probe (lit "transient_error") = false ∧
      firstNonEmptyString [probe, lit "succeeded"] = probe ∧ trimSpace probe = probe ∧
      probe ∉ [[], lit "succeeded", lit "transient_error", lit "quota_probe_auth_failed"] := by
  decide

theorem diagnosticUpdate_observation {obs : Observation} (h : obs.Made) (env : ActionEnv)
    (account : Account) (previous : Str) :
    DiagnosticUpdate (observationUpdate env account obs previous) := by
  cases h with
  | transient hprobe =>
    apply DiagnosticUpdate.preserving
    show equalFold obs.probeStatus (lit "transient_error") = true
    rw [hprobe]
    rfl
  | fatal hstable hprobe =>
    obtain ⟨hlower, hne, hcontains⟩ := fatalStatuses_normal _ hstable
    obtain ⟨htransient, hfirst, -⟩ := signalStatuses_normal _ hprobe
    have hnext : nextStable obs previous = obs.stableStatus := by
      simp [nextStable, htransient, hlower, hne, List.contains_iff_mem.mp hcontains]
    apply DiagnosticUpdate.fatal htransient
    · show nextStable obs previous ∈ fatalStatuses
      rwa [hnext]
    · show firstNonEmptyString [obs.probeStatus, lit "succeeded"] ∈ signalStatuses
      rwa [hfirst]
  | succeeded hprobe =>
    apply DiagnosticUpdate.succeeded
    · show equalFold obs.probeStatus (lit "transient_error") = false
      rw [hprobe]
      rfl
    · show firstNonEmptyString [obs.probeStatus, lit "succeeded"] = lit "succeeded"
      rw [hprobe]
      rfl

theorem diagnosticUpdate_quotaProbe (env : StoreEnv) (accountID : Int)
    (current : Option AccountDiagnostic) :
    DiagnosticUpdate (quotaProbeUpdate env accountID current) := by
  cases hdowngrades : quotaProbeDowngrades current with
  | false =>
    apply DiagnosticUpdate.preserving
    show (!quotaProbeDowngrades current) = true
    rw [hdowngrades]
    rfl
  | true =>
    apply DiagnosticUpdate.downgrade
    · show (!quotaProbeDowngrades current) = false
      rw [hdowngrades]
      rfl
    · show (if quotaProbeDowngrades current then _ else _) = _
      rw [hdowngrades]
      rfl
    · rfl

/-! ## The programs make no others -/

/-- Reading a diagnostic may insert the row. -/
theorem safe_getAccountDiagnostic (accountID : Int) :
    (getAccountDiagnostic accountID).Safe (fun _ _ => True) RecordsDiagnostic
      fun _ => True := by
  unfold getAccountDiagnostic
  rw [Prog.safe_bind, Prog.safe_look]
  intro env db _
  split <;> simp [RecordsDiagnostic]

theorem recordsDiagnostic_of_observation {obs : Observation} (h : obs.Made) {env : StoreEnv}
    {account : Account} {current : Option AccountDiagnostic} {call : StoreCall}
    (hcall : call ∈ (Action.recordAccountDiagnosticObservation account obs).calls
      { store := env, diagnostic := { result := some current } }) :
    RecordsDiagnostic call := by
  simp only [Action.calls, Action.effects, recordAccountDiagnosticObservation] at hcall
  split at hcall
  · simp at hcall
  · simp only [Bool.false_eq_true, if_false, List.nil_append, List.filterMap_cons,
      List.filterMap_nil, effectCall?, List.mem_singleton] at hcall
    subst hcall
    exact ⟨rfl, diagnosticUpdate_observation h _ account _⟩

/-- A program that records a diagnostic makes only such calls, whatever it
reads. -/
theorem DiagnosticProgram.safe {p : StoreProg Unit} (h : DiagnosticProgram p) :
    p.Safe (fun _ _ => True) RecordsDiagnostic fun _ => True := by
  cases h with
  | request env r k account obs hact =>
    have hmade := observation_of_serveHTTP hact
    unfold observe
    split
    · simp
    · rw [Prog.safe_bind]
      apply (safe_getAccountDiagnostic account.id).mono (fun _ _ hQ => hQ) (fun _ hP => hP)
      intro current _
      rw [Prog.safe_bind, Prog.safe_look]
      intro env db _
      rw [Prog.safe_writes]
      exact ⟨fun call hcall => recordsDiagnostic_of_observation hmade hcall, trivial⟩
  | probe accountID httpStatus =>
    unfold recordCodexQuotaProbeDiagnostic
    rw [Prog.safe_bind]
    apply (safe_getAccountDiagnostic accountID).mono (fun _ _ hQ => hQ) (fun _ hP => hP)
    intro current _
    rw [Prog.safe_bind, Prog.safe_look]
    intro env db _
    rw [Prog.safe_writes]
    refine ⟨?_, trivial⟩
    intro call hcall
    obtain rfl := List.mem_singleton.mp hcall
    exact ⟨rfl, diagnosticUpdate_quotaProbe env accountID current⟩

/-! ## Verdicts under interleavings -/

/-- `stable_diagnostic_status`, `scheduler_status` and `scheduler_override`. -/
structure Verdict where
  stableStatus : Str
  schedulerStatus : Str
  schedulerOverride : Str
deriving DecidableEq

/-- The verdict of a row. -/
def verdictOf (diag : AccountDiagnostic) : Verdict :=
  ⟨diag.stableDiagnosticStatus, diag.schedulerStatus, diag.schedulerOverride⟩

/-- The verdict on an account, when it has a row. -/
def Verdict.ofAccount? (db : Database) (id : Int) : Option Verdict :=
  (db.accountDiagnostics.find? id).map verdictOf

/-- The probe status with which a call updates the row of an account. -/
def probeStatus? (id : Int) : StoreCall → Option Str
  | .updateAccountDiagnosticWithEvidence other update _ =>
    if id = other then some update.lastProbeStatus else none
  | _ => none

/-- A write keeps a fatal verdict fatal, unless it observes a success, and a
passing failure or a refused probe keeps it as it is. -/
def Sticky (id : Int) (m : Threads.Made StoreEnv Database StoreCall) : Prop :=
  ∀ v, Verdict.ofAccount? m.before id = some v → v.stableStatus ∈ fatalStatuses →
    ∃ v', Verdict.ofAccount? (m.call.run m.env m.before) id = some v' ∧
      (v'.stableStatus ∈ fatalStatuses ∨ probeStatus? id m.call = some (lit "succeeded")) ∧
      (probeStatus? id m.call ∈
          [some (lit "transient_error"), some (lit "quota_probe_auth_failed")] → v' = v)

/-- The downgrade of a refused probe meets a fatal verdict. -/
def Overtaken (id : Int) (m : Threads.Made StoreEnv Database StoreCall) : Prop :=
  ∃ update evidence v, m.call = .updateAccountDiagnosticWithEvidence id update evidence ∧
    update.lastProbeStatus = lit "quota_probe_auth_failed" ∧
    update.preserveStableStatus = false ∧ Verdict.ofAccount? m.before id = some v ∧
    v.stableStatus ∈ fatalStatuses

/-- The row of the account, if there is one, has a scheduler status. -/
def Scheduled (id : Int) (db : Database) : Prop :=
  ∀ v, Verdict.ofAccount? db id = some v → isBlank v.schedulerStatus = false

/-- The verdict after an update that passed its checks. -/
def Verdict.after (update : AccountDiagnosticUpdate) (v : Verdict) : Verdict :=
  if update.preserveStableStatus then
    { v with
      schedulerStatus :=
        if isBlank v.schedulerStatus then schedulerStatusForStableDiagnostic v.stableStatus
        else v.schedulerStatus }
  else ⟨update.stableDiagnosticStatus, update.schedulerStatus, update.schedulerOverride⟩

theorem verdictOf_applyDiagnosticUpdate (env : StoreEnv) (update : AccountDiagnosticUpdate)
    (diag : AccountDiagnostic) :
    verdictOf (Database.applyDiagnosticUpdate env update diag) = (verdictOf diag).after update := by
  unfold verdictOf Database.applyDiagnosticUpdate Verdict.after
  cases update.preserveStableStatus <;> simp

section Step

variable {db : Database} {id : Int} {v : Verdict} (env : StoreEnv)

theorem ofAccount?_ensureAccountDiagnostic (h : Verdict.ofAccount? db id = some v) (other : Int) :
    Verdict.ofAccount? (db.ensureAccountDiagnostic env other) id = some v := by
  obtain ⟨diag, hdiag, rfl⟩ := Option.map_eq_some_iff.mp h
  rw [Verdict.ofAccount?, Database.diagnostic_ensureAccountDiagnostic db env other hdiag]
  rfl

theorem ofAccount?_update (h : Verdict.ofAccount? db id = some v) (other : Int)
    (update : AccountDiagnosticUpdate) (evidence : AccountDiagnosticEvidenceInput) :
    Verdict.ofAccount? (db.updateAccountDiagnosticWithEvidence env other update evidence) id =
      some (match update.normalize with
        | some update => if id = other then v.after update else v
        | none => v) := by
  obtain ⟨diag, hdiag, rfl⟩ := Option.map_eq_some_iff.mp h
  rw [Verdict.ofAccount?, Database.diagnostic_update db env other update evidence hdiag]
  cases update.normalize with
  | none => rfl
  | some update =>
    rw [Option.map_some]
    dsimp only
    split
    · rw [verdictOf_applyDiagnosticUpdate]
    · rfl

/-- What a normalized update without an override keeps of the update. -/
theorem normalize_some {update u : AccountDiagnosticUpdate} (h : update.normalize = some u)
    (hoverride : update.schedulerOverride = []) :
    u.preserveStableStatus = update.preserveStableStatus ∧
      u.stableDiagnosticStatus = toLower (trimSpace update.stableDiagnosticStatus) ∧
      u.schedulerStatus = schedulerStatusForStableDiagnostic u.stableDiagnosticStatus := by
  unfold AccountDiagnosticUpdate.normalize at h
  dsimp only at h
  split at h
  · contradiction
  split at h
  · contradiction
  obtain rfl := Option.some.inj h
  refine ⟨rfl, rfl, ?_⟩
  rw [hoverride]
  rfl

theorem isBlank_schedulerStatusForStableDiagnostic (stable : Str) :
    isBlank (schedulerStatusForStableDiagnostic stable) = false := by
  unfold schedulerStatusForStableDiagnostic
  dsimp only
  split
  · decide
  split
  · decide
  split <;> decide

/-- An update without an override leaves a scheduler status. -/
theorem isBlank_after {update u : AccountDiagnosticUpdate} (h : update.normalize = some u)
    (hoverride : update.schedulerOverride = []) (v : Verdict) :
    isBlank (v.after u).schedulerStatus = false := by
  obtain ⟨-, -, hscheduler⟩ := normalize_some h hoverride
  unfold Verdict.after
  split
  · dsimp only
    split
    · exact isBlank_schedulerStatusForStableDiagnostic _
    next hblank => exact Bool.eq_false_iff.mpr hblank
  · dsimp only
    rw [hscheduler]
    exact isBlank_schedulerStatusForStableDiagnostic _

theorem scheduled_ensureAccountDiagnostic (h : Scheduled id db) (other : Int) :
    Scheduled id (db.ensureAccountDiagnostic env other) := by
  unfold Database.ensureAccountDiagnostic
  split
  · exact h
  next acc _ =>
    intro v hv
    obtain ⟨diag, hdiag, rfl⟩ := Option.map_eq_some_iff.mp hv
    dsimp only at hdiag
    rw [Table.find?_insertOrIgnore] at hdiag
    split at hdiag
    · obtain rfl := Option.some.inj hdiag
      show isBlank (initialSchedulerStatusForAccount acc) = false
      unfold initialSchedulerStatusForAccount
      split <;> decide
    · exact h _ (Option.map_eq_some_iff.mpr ⟨diag, hdiag, rfl⟩)

/-- These calls leave a scheduler status in every row they write. -/
theorem scheduled_run {call : StoreCall} (hcall : RecordsDiagnostic call) (h : Scheduled id db) :
    Scheduled id (call.run env db) := by
  cases call with
  | ensureAccountDiagnostic other => exact scheduled_ensureAccountDiagnostic env h other
  | updateAccountDiagnosticWithEvidence other update evidence =>
    show Scheduled id (db.updateAccountDiagnosticWithEvidence env other update evidence)
    unfold Database.updateAccountDiagnosticWithEvidence
    cases hnormal : update.normalize with
    | none => exact h
    | some u =>
      have hensured := scheduled_ensureAccountDiagnostic env h other
      intro v hv
      obtain ⟨diag, hdiag, rfl⟩ := Option.map_eq_some_iff.mp hv
      have hkey : ∀ d, (Database.applyDiagnosticUpdate env u d).accountID = d.accountID :=
        fun _ => rfl
      dsimp only at hdiag
      rw [Table.find?_modify _ hkey] at hdiag
      split at hdiag
      · obtain ⟨old, -, rfl⟩ := Option.map_eq_some_iff.mp hdiag
        rw [verdictOf_applyDiagnosticUpdate]
        exact isBlank_after hnormal hcall.1 _
      · exact hensured _ (Option.map_eq_some_iff.mpr ⟨diag, hdiag, rfl⟩)
  | _ => exact hcall.elim

/-- An update that leaves the stable status to the row changes no verdict. -/
theorem after_of_preserving {u : AccountDiagnosticUpdate} (h : u.preserveStableStatus = true)
    (hscheduler : isBlank v.schedulerStatus = false) : v.after u = v := by
  simp [Verdict.after, h, hscheduler]

theorem stableStatus_after {u : AccountDiagnosticUpdate} (h : u.preserveStableStatus = false)
    (v : Verdict) : (v.after u).stableStatus = u.stableDiagnosticStatus := by
  simp [Verdict.after, h]

/-- The update of an account other than the one in question. -/
theorem sticky_of_ne {other : Int} (hne : id ≠ other) (update : AccountDiagnosticUpdate)
    (evidence : AccountDiagnosticEvidenceInput) :
    Sticky id ⟨env, db, .updateAccountDiagnosticWithEvidence other update evidence⟩ := by
  intro v hv hfatal
  refine ⟨v, ?_, Or.inl hfatal, fun _ => rfl⟩
  show Verdict.ofAccount? (db.updateAccountDiagnosticWithEvidence env other update evidence) id = _
  rw [ofAccount?_update env hv]
  cases update.normalize with
  | none => rfl
  | some u => simp [hne]

/-- An update of the account that is no downgrade. -/
theorem sticky_of_update {update : AccountDiagnosticUpdate}
    {evidence : AccountDiagnosticEvidenceInput} (hoverride : update.schedulerOverride = [])
    (hscheduled : Scheduled id db)
    (hkind : update.preserveStableStatus = true ∨
      update.lastProbeStatus ∉ [lit "transient_error", lit "quota_probe_auth_failed"] ∧
        (update.lastProbeStatus = lit "succeeded" ∨
          update.stableDiagnosticStatus ∈ fatalStatuses)) :
    Sticky id ⟨env, db, .updateAccountDiagnosticWithEvidence id update evidence⟩ := by
  intro v hv hfatal
  have hafter := ofAccount?_update env hv id update evidence
  have hprobe : probeStatus? id (.updateAccountDiagnosticWithEvidence id update evidence) =
      some update.lastProbeStatus := if_pos rfl
  refine ⟨_, hafter, ?_, ?_⟩
  · rw [hprobe]
    cases hnormal : update.normalize with
    | none => exact Or.inl hfatal
    | some u =>
      obtain ⟨hpreserve, hstable, -⟩ := normalize_some hnormal hoverride
      simp only [if_true]
      rcases hkind with hkind | ⟨-, hsucceeded | hstays⟩
      · rw [after_of_preserving (hpreserve.trans hkind) (hscheduled v hv)]
        exact Or.inl hfatal
      · exact Or.inr (congrArg some hsucceeded)
      · left
        cases hcase : update.preserveStableStatus with
        | true => rwa [after_of_preserving (hpreserve.trans hcase) (hscheduled v hv)]
        | false =>
          rw [stableStatus_after (hpreserve.trans hcase), hstable,
            (fatalStatuses_normal _ hstays).1]
          exact hstays
  · rw [hprobe]
    intro hmem
    cases hnormal : update.normalize with
    | none => rfl
    | some u =>
      obtain ⟨hpreserve, -⟩ := normalize_some hnormal hoverride
      rcases hkind with hkind | ⟨hother, -⟩
      · simp only [if_true]
        exact after_of_preserving (hpreserve.trans hkind) (hscheduled v hv)
      · simp only [List.mem_cons, Option.some.injEq, List.not_mem_nil, or_false] at hmem hother
        exact absurd hmem hother

/-- The downgrade of a probe is a status that the checks let through. -/
theorem normalize_downgrade {update : AccountDiagnosticUpdate}
    (hstable : update.stableDiagnosticStatus = lit "quota_probe_auth_failed_but_usable")
    (hoverride : update.schedulerOverride = []) : ∃ u, update.normalize = some u := by
  have hcontains : diagnosticStatuses.contains
      (toLower (trimSpace (lit "quota_probe_auth_failed_but_usable"))) = true := by
    decide
  have htrim : trimSpace [] = [] := rfl
  simp [AccountDiagnosticUpdate.normalize, hstable, hoverride, List.contains_iff_mem.mp hcontains,
    htrim]

/-- A call for a row with a verdict is sticky, unless it is the downgrade of a
probe. -/
theorem sticky_iff {m : Threads.Made StoreEnv Database StoreCall}
    (hcall : RecordsDiagnostic m.call) (h : Scheduled id m.before) :
    Sticky id m ↔ ¬Overtaken id m := by
  obtain ⟨env, db, call⟩ := m
  dsimp only at hcall h
  cases call with
  | ensureAccountDiagnostic other =>
    constructor
    · rintro - ⟨update, evidence, v, hupdate, -⟩
      contradiction
    · intro _ v hv hfatal
      exact ⟨v, ofAccount?_ensureAccountDiagnostic env hv other, Or.inl hfatal, fun _ => rfl⟩
  | updateAccountDiagnosticWithEvidence other update evidence =>
    obtain ⟨hoverride, hkind⟩ := hcall
    by_cases hid : id = other
    · subst hid
      have hnot : ∀ status, status ≠ lit "quota_probe_auth_failed" →
          update.lastProbeStatus = status →
          ¬Overtaken id ⟨env, db, .updateAccountDiagnosticWithEvidence id update evidence⟩ := by
        rintro status hne heq ⟨update', evidence', v, hcall, hprobe, -⟩
        obtain ⟨-, rfl, -⟩ := StoreCall.updateAccountDiagnosticWithEvidence.inj hcall
        exact hne (heq.symm.trans hprobe)
      cases hkind with
      | preserving hpreserve =>
        refine iff_of_true (sticky_of_update env hoverride h (Or.inl hpreserve)) ?_
        rintro ⟨update', evidence', v, hcall, -, hdowngrade, -⟩
        obtain ⟨-, rfl, -⟩ := StoreCall.updateAccountDiagnosticWithEvidence.inj hcall
        rw [hpreserve] at hdowngrade
        contradiction
      | fatal _ hstable hprobe =>
        obtain ⟨-, -, -, hother⟩ := signalStatuses_normal _ hprobe
        simp only [List.mem_cons, List.not_mem_nil, or_false, not_or] at hother
        refine iff_of_true (sticky_of_update env hoverride h (Or.inr ⟨?_, Or.inr hstable⟩)) ?_
        · simp [hother]
        · exact hnot _ hother.2.2.2 rfl
      | succeeded _ hprobe =>
        refine iff_of_true (sticky_of_update env hoverride h (Or.inr ⟨?_, Or.inl hprobe⟩)) ?_
        · rw [hprobe]
          decide
        · exact hnot _ (by decide) hprobe
      | downgrade hpreserve hstable hprobe =>
        constructor
        · rintro hsticky ⟨-, -, v, -, -, -, hv, hfatal⟩
          obtain ⟨v', hv', hstays, -⟩ := hsticky v hv hfatal
          obtain ⟨u, hu⟩ := normalize_downgrade hstable hoverride
          obtain ⟨hpreserve', hstable', -⟩ := normalize_some hu hoverride
          have hafter := ofAccount?_update env hv id update evidence
          rw [hu] at hafter
          simp only [if_true] at hafter
          obtain rfl := Option.some.inj (hv'.symm.trans hafter)
          rw [stableStatus_after (hpreserve'.trans hpreserve), hstable', hstable, probeStatus?,
            if_pos rfl, hprobe] at hstays
          revert hstays
          decide
        · intro hnot v hv hfatal
          exact absurd ⟨update, evidence, v, rfl, hprobe, hpreserve, hv, hfatal⟩ hnot
    · refine iff_of_true (sticky_of_ne env hid update evidence) ?_
      rintro ⟨update', evidence', v, hcall, -⟩
      obtain ⟨rfl, -⟩ := StoreCall.updateAccountDiagnosticWithEvidence.inj hcall
      exact hid rfl
  | _ => exact hcall.elim

end Step

/-- In a run of programs that record diagnostics, on a row with a scheduler
status, the writes are sticky exactly when no downgrade of a probe meets a fatal
verdict. -/
theorem verdicts_sticky_iff {db : Database} {t : Threads Nat StoreEnv Database StoreCall}
    {evs : List (Programs.Event Nat StoreEnv Database StoreCall)} (id : Int)
    (hrun : Runs.exec (Threads.step StoreCall.run) (Threads.idle db) evs = some t)
    (hprograms : ∀ i p, .start i p ∈ evs → DiagnosticProgram p) (hscheduled : Scheduled id db) :
    (∀ m ∈ (Threads.idle db).made StoreCall.run evs, Sticky id m) ↔
      ∀ m ∈ (Threads.idle db).made StoreCall.run evs, ¬Overtaken id m := by
  have hmade := (Threads.exec_keeps hrun (Threads.safe_idle db)
    (fun i p hp => (hprograms i p hp).safe) (fun _ _ _ _ _ => trivial) hscheduled
    fun m _ hcall h => scheduled_run m.env hcall h).2
  refine forall₂_congr fun m hm => ?_
  obtain ⟨hcall, hbefore⟩ := hmade m hm
  exact sticky_iff hcall hbefore

/-! ## A probe that is overtaken -/

/-- An account that takes traffic through the CPA runtime. -/
def codexAccount : Account :=
  { healthyAccount 7 with
    sourceKind := lit "cpa", cpaProvider := lit "codex", cpaServiceID := some 1
    cpaAccountKey := lit "k", cpaOpenaiID := lit "o", cpaCredentialStatus := lit "ok"
    cpaQuotaStatus := lit "ok", cpaAccessStatus := lit "eligible" }

/-- A run on a pool of that account. -/
def codexEnv (answer : Answer) : Env :=
  let snap : CacheSnapshot :=
    { poolSnap [codexAccount] with
      cpaServices := Table.ofList [(1, { id := 1, managementKey := lit "m" })] }
  { cpaEnv fullEntry with
    attempts := fun _ =>
      { (cpaEnv fullEntry).attempts 0 with
        view :=
          { options := { cpaRuntimeBindingSupported := true }, snap := snap, clock := default }
        exchange := { request := .ok (lit "upstream"), answer := answer } } }

/-- The account with a row that says it is usable. -/
def usableDatabase : Database :=
  { accounts := Table.empty.set codexAccount.toAccountRow
    accountDiagnostics := Table.empty.set
      { id := 1, accountID := 7, stableDiagnosticStatus := lit "usable"
        lastProbeStatus := lit "succeeded", schedulerStatus := lit "eligible" } }

/-- What a request observes that is refused because the account is banned. -/
def bannedObserved : Observation :=
  ⟨lit "banned", lit "upstream_banned_signal", lit "account banned by upstream", 403,
    lit "upstream_banned", []⟩

/-- The event records this observation of the account. -/
def Event.observes (id : Int) (obs : Observation) : Event → Bool
  | act 0 (.recordAccountDiagnosticObservation account o) =>
    account.id == id && o.httpStatus == obs.httpStatus &&
      [o.stableStatus, o.probeStatus, o.safeSummary, o.normalizedCode, o.upstreamMessage] ==
        [obs.stableStatus, obs.probeStatus, obs.safeSummary, obs.normalizedCode,
          obs.upstreamMessage]
  | _ => false

theorem exists_observed {id : Int} {obs : Observation} {events : List Event}
    (h : events.any (Event.observes id obs) = true) : ∃ account : Account, account.id = id ∧
      .act 0 (.recordAccountDiagnosticObservation account obs) ∈ events := by
  obtain ⟨e, he, hobserves⟩ := List.any_eq_true.mp h
  unfold Event.observes at hobserves
  split at hobserves
  next account o =>
    obtain ⟨stable, probe, summary, status, code, message⟩ := o
    simp only [Bool.and_eq_true, beq_iff_eq, List.cons.injEq] at hobserves
    obtain ⟨⟨hid, rfl⟩, rfl, rfl, rfl, rfl, rfl, -⟩ := hobserves
    exact ⟨account, hid, he⟩
  · contradiction

theorem exists_bannedObserved : ∃ account : Account, account.id = 7 ∧
    .act 0 (.recordAccountDiagnosticObservation account bannedObserved) ∈
      serveHTTP (codexEnv (.response { statusCode := 403, body := lit "account banned" }))
        (chatRequest false) :=
  exists_observed (by decide +kernel)

/-- An observation is about the account's id. -/
theorem observe_eq (account : Account) (obs : Observation) :
    observe account obs = observe { id := account.id } obs := rfl

/-- A probe reads the row, a request that is refused as banned is recorded, and
the probe writes. -/
def overtakenRun : List (Programs.Event Nat StoreEnv Database StoreCall) :=
  let env : StoreEnv := ⟨default, fun _ => []⟩
  [.start 0 (recordCodexQuotaProbeDiagnostic 7 401), .start 1 (observe { id := 7 } bannedObserved),
    .act 0 env, .act 0 env, .act 1 env, .act 1 env, .act 1 env, .act 0 env]

/-- The second write of that run is the downgrade, and it meets the ban. -/
theorem made_overtakenRun : ∃ m ∈ (Threads.idle usableDatabase).made StoreCall.run overtakenRun,
    Verdict.ofAccount? m.before 7 = some ⟨lit "banned", lit "ineligible", []⟩ ∧
    Verdict.ofAccount? (m.call.run m.env m.before) 7 =
      some ⟨lit "quota_probe_auth_failed_but_usable", lit "eligible_with_warning", []⟩ ∧
    probeStatus? 7 m.call = some (lit "quota_probe_auth_failed") := by
  have hmap : ((Threads.idle usableDatabase).made StoreCall.run overtakenRun).map (fun m =>
      (Verdict.ofAccount? m.before 7, Verdict.ofAccount? (m.call.run m.env m.before) 7,
        probeStatus? 7 m.call)) =
      [(some ⟨lit "usable", lit "eligible", []⟩, some ⟨lit "banned", lit "ineligible", []⟩,
          some (lit "upstream_banned_signal")),
        (some ⟨lit "banned", lit "ineligible", []⟩,
          some ⟨lit "quota_probe_auth_failed_but_usable", lit "eligible_with_warning", []⟩,
          some (lit "quota_probe_auth_failed"))] := by
    decide +kernel
  obtain ⟨m, hm, hvalues⟩ := List.mem_map.mp
    (hmap ▸ List.mem_cons_of_mem _ List.mem_cons_self)
  obtain ⟨hbefore, hrest⟩ := Prod.mk.inj hvalues
  obtain ⟨hafter, hprobe⟩ := Prod.mk.inj hrest
  exact ⟨m, hm, hbefore, hafter, hprobe⟩

/-- A refused request bans the account between a probe's read and its write, and
the probe puts the account back into rotation. -/
theorem probe_overturns_ban :
    (∀ i p, .start i p ∈ overtakenRun → DiagnosticProgram p) ∧
      (Runs.exec (Threads.step StoreCall.run) (Threads.idle usableDatabase)
        overtakenRun).isSome = true ∧
      ∃ m ∈ (Threads.idle usableDatabase).made StoreCall.run overtakenRun,
        Verdict.ofAccount? m.before 7 = some ⟨lit "banned", lit "ineligible", []⟩ ∧
        Verdict.ofAccount? (m.call.run m.env m.before) 7 =
          some ⟨lit "quota_probe_auth_failed_but_usable", lit "eligible_with_warning", []⟩ ∧
        ¬Sticky 7 m := by
  refine ⟨?_, by decide +kernel, ?_⟩
  · intro i p hp
    simp only [overtakenRun, List.mem_cons, Programs.Event.start.injEq, reduceCtorEq,
      List.not_mem_nil, or_false] at hp
    rcases hp with ⟨-, rfl⟩ | ⟨-, rfl⟩
    · exact .probe 7 401
    · obtain ⟨account, hid, hobserved⟩ := exists_bannedObserved
      have hrequest := DiagnosticProgram.request _ _ _ _ _ hobserved
      rwa [observe_eq, hid] at hrequest
  · obtain ⟨m, hm, hbefore, hafter, hprobe⟩ := made_overtakenRun
    refine ⟨m, hm, hbefore, hafter, ?_⟩
    intro hsticky
    obtain ⟨v', hv', -, hsame⟩ := hsticky _ hbefore (by decide)
    have hv := hsame (by rw [hprobe]; decide)
    rw [hafter, hv] at hv'
    revert hv'
    decide

/-- A refused probe alone. -/
def loneProbe : List (Programs.Event Nat StoreEnv Database StoreCall) :=
  let env : StoreEnv := ⟨default, fun _ => []⟩
  [.start 0 (recordCodexQuotaProbeDiagnostic 7 401), .act 0 env, .act 0 env, .act 0 env]

/-- On a usable account a refused probe overturns nothing. -/
theorem loneProbe_sticky :
    (Runs.exec (Threads.step StoreCall.run) (Threads.idle usableDatabase)
        loneProbe).isSome = true ∧
      ∀ m ∈ (Threads.idle usableDatabase).made StoreCall.run loneProbe, Sticky 7 m := by
  have hrow : Verdict.ofAccount? usableDatabase 7 = some ⟨lit "usable", lit "eligible", []⟩ := by
    decide +kernel
  have hbefore : ((Threads.idle usableDatabase).made StoreCall.run loneProbe).all (fun m =>
      Verdict.ofAccount? m.before 7 == some ⟨lit "usable", lit "eligible", []⟩) = true := by
    decide +kernel
  have hruns : (Runs.exec (Threads.step StoreCall.run) (Threads.idle usableDatabase)
      loneProbe).isSome = true := by
    decide +kernel
  obtain ⟨t, ht⟩ := Option.isSome_iff_exists.mp hruns
  refine ⟨hruns, (verdicts_sticky_iff 7 ht ?_ ?_).mpr ?_⟩
  · intro i p hp
    simp only [loneProbe, List.mem_cons, Programs.Event.start.injEq, reduceCtorEq,
      List.not_mem_nil, or_false] at hp
    obtain ⟨-, rfl⟩ := hp
    exact .probe 7 401
  · intro v hv
    obtain rfl := Option.some.inj (hrow.symm.trans hv)
    decide
  · rintro m hm ⟨update, evidence, v, -, -, -, hv, hfatal⟩
    have hm' := beq_iff_eq.mp (List.all_eq_true.mp hbefore m hm)
    obtain rfl := Option.some.inj (hm'.symm.trans hv)
    revert hfatal
    decide

end Lune.Gateway
