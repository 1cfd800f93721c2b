import Lune.Health.Quota

/-!
# Evidence under probes

What a sequence of quota probes makes of the evidence that a model request with
status 429 left in the quota columns.  `UsageCall.onQuota` says it for one
probe; only a probe that got no answer, or a snapshot that is not blocked, keeps
the evidence.
-/

namespace Lune.Health

open GoText Keyed Lune.Store Programs

/-! ## One probe -/

/-- What a probe makes of the quota columns of its account. -/
def UsageCall.onQuota (call : UsageCall) (acc : Account) (old : QuotaState) : QuotaState :=
  match call.kind with
  | .unanswered _ => old
  | .refused statusCode =>
    ⟨if previousQuotaSnapshotBlocked acc.codexQuotaJSON then lit "blocked" else lit "error",
      lit "HTTP " ++ itoa statusCode⟩
  | .empty => ⟨lit "error", lit "empty quota response"⟩
  | .notJSON => ⟨lit "error", lit "invalid quota JSON"⟩
  | .snapshot _ blocked =>
    if blocked then ⟨lit "blocked", lit "quota blocked by upstream"⟩ else old.afterSnapshot

/-- The probe got no answer, or a snapshot that is not blocked. -/
def UsageCall.harmless (call : UsageCall) : Bool :=
  match call.kind with
  | .unanswered _ => true
  | .refused _ | .empty | .notJSON => false
  | .snapshot _ blocked => !blocked

section Probe

variable {acc : Account} {db db' : Database}

/-- A program that changes no account keeps the quota columns. -/
theorem quota_of_safe {α : Type} {p : StoreProg α} {a : α} (id : Int)
    (h : p.Ends StoreCall.run db a db')
    (hsafe : p.Safe (fun _ _ => True) (fun call => call.accountID? = none) fun _ => True) :
    db'.column? AccountRow.quota id = db.column? AccountRow.quota id := by
  have hsafe' : p.Safe
      (fun _ s => s.column? AccountRow.quota id = db.column? AccountRow.quota id)
      (fun call => call.accountID? = none) fun _ => True :=
    hsafe.mono (fun _ _ _ => trivial) (fun _ hP => hP) fun _ hR => hR
  refine (h.keeps hsafe' ?_ rfl).1
  intro e s call hs hcall
  rw [StoreCall.column?_run_of_ne s e (by simp [hcall])]
  exact hs

/-- Recording a diagnostic changes no account. -/
theorem safe_recordCodexQuotaProbeDiagnostic (accountID httpStatus : Int) :
    (recordCodexQuotaProbeDiagnostic accountID httpStatus).Safe (fun _ _ => True)
      (fun call => call.accountID? = none) fun _ => True := by
  unfold recordCodexQuotaProbeDiagnostic getAccountDiagnostic
  rw [Prog.safe_bind, Prog.safe_bind, Prog.safe_look]
  intro env db _
  split <;> simp [StoreCall.accountID?]

theorem quota_recordQuotaFailure {status msg : Str} {checkedAt : Clock} {u : Unit}
    (hstatus : status ≠ [])
    (h : (recordQuotaFailure acc status msg checkedAt).Ends StoreCall.run db u db') :
    db'.column? AccountRow.quota acc.id =
      (db.column? AccountRow.quota acc.id).map fun _ => ⟨status, msg⟩ := by
  simp only [recordQuotaFailure, clock, Prog.ends_bind, Prog.ends_writes_cons,
    Prog.ends_writes_nil, Prog.ends_look] at h
  obtain ⟨-, _, ⟨env, rfl⟩, _, _, ⟨rfl, _⟩, env', rfl⟩ := h
  rw [StoreCall.quota_run, StoreCall.quota_run, Option.map_map]
  refine congrArg₂ Option.map (funext fun old => ?_) rfl
  simp [StoreCall.onQuota, defaultCpaStatus, hstatus]

theorem quota_recordQuotaSnapshot {body : Str} {blocked : Bool} {checkedAt : Clock} {u : Unit}
    (h : (recordQuotaSnapshot acc body blocked checkedAt).Ends StoreCall.run db u db') :
    db'.column? AccountRow.quota acc.id =
      (db.column? AccountRow.quota acc.id).map fun old =>
        if blocked then ⟨lit "blocked", lit "quota blocked by upstream"⟩
        else old.afterSnapshot := by
  cases blocked with
  | true =>
    simp only [recordQuotaSnapshot, if_true, Prog.ends_bind, Prog.ends_writes_cons,
      Prog.ends_writes_nil] at h
    obtain ⟨-, _, ⟨env, rfl⟩, env', rfl⟩ := h
    rw [StoreCall.quota_run, StoreCall.quota_run, Option.map_map]
    refine congrArg₂ Option.map (funext fun old => ?_) rfl
    simp [StoreCall.onQuota, defaultCpaStatus, lit]
  | false =>
    simp only [recordQuotaSnapshot, Bool.false_eq_true, if_false, clock, Prog.ends_bind,
      Prog.ends_writes_cons, Prog.ends_writes_nil, Prog.ends_look] at h
    obtain ⟨-, _, ⟨env, rfl⟩, _, _, ⟨rfl, _⟩, env', rfl⟩ := h
    rw [StoreCall.quota_run, StoreCall.quota_run, Option.map_map]
    refine congrArg₂ Option.map (funext fun old => ?_) rfl
    simp [StoreCall.onQuota]

/-- What a probe does to the quota columns. -/
theorem quota_fetchOneCodexQuota {call : UsageCall} {err : Option Str}
    (h : (fetchOneCodexQuota call acc).Ends StoreCall.run db err db') :
    db'.column? AccountRow.quota acc.id =
      (db.column? AccountRow.quota acc.id).map (call.onQuota acc) := by
  unfold fetchOneCodexQuota at h
  unfold UsageCall.onQuota
  cases hkind : call.kind with
  | unanswered err =>
    simp only [hkind, Prog.ends_pure] at h
    rw [← h.2]
    exact Option.map_id'.symm
  | refused statusCode =>
    simp only [hkind, Prog.ends_bind] at h
    obtain ⟨checkedAt, u, hclock, _, v, hfailure, hrest⟩ := h
    obtain ⟨rfl, -⟩ := Prog.ends_look.mp hclock
    have hstatus : (if previousQuotaSnapshotBlocked acc.codexQuotaJSON then lit "blocked"
        else lit "error") ≠ [] := by
      split <;> decide
    rw [← quota_recordQuotaFailure hstatus hfailure]
    apply quota_of_safe acc.id hrest
    split
    · rw [Prog.safe_bind]
      exact (safe_recordCodexQuotaProbeDiagnostic acc.id statusCode).mono (fun _ _ hQ => hQ)
        (fun _ hP => hP) fun _ _ => trivial
    · simp
  | empty =>
    simp only [hkind, Prog.ends_bind, Prog.ends_pure] at h
    obtain ⟨checkedAt, u, hclock, _, v, hfailure, -, rfl⟩ := h
    obtain ⟨rfl, -⟩ := Prog.ends_look.mp hclock
    exact quota_recordQuotaFailure (by decide) hfailure
  | notJSON =>
    simp only [hkind, Prog.ends_bind, Prog.ends_pure] at h
    obtain ⟨checkedAt, u, hclock, _, v, hfailure, -, rfl⟩ := h
    obtain ⟨rfl, -⟩ := Prog.ends_look.mp hclock
    exact quota_recordQuotaFailure (by decide) hfailure
  | snapshot body blocked =>
    simp only [hkind, Prog.ends_bind, Prog.ends_pure] at h
    obtain ⟨checkedAt, u, hclock, _, v, hsnapshot, -, rfl⟩ := h
    obtain ⟨rfl, -⟩ := Prog.ends_look.mp hclock
    exact quota_recordQuotaSnapshot hsnapshot

end Probe

/-! ## A sequence of probes -/

/-- Probes of one account, one after the other.  Each works on what was read of
the account at some time before. -/
inductive Probes (id : Int) : List (UsageCall × Account) → Database → Database → Prop where
  | nil (db : Database) : Probes id [] db db
  | cons {call : UsageCall} {acc : Account} {probes : List (UsageCall × Account)}
    {db db' db'' : Database} {err : Option Str} (hacc : acc.id = id)
    (hprobe : (fetchOneCodexQuota call acc).Ends StoreCall.run db err db')
    (hrest : Probes id probes db' db'') : Probes id ((call, acc) :: probes) db db''

/-- The text of a status is no evidence. -/
theorem likePrefix_status (statusCode : Int) :
    Sqlite.likePrefix (lit "HTTP " ++ itoa statusCode) modelRequest429 = false := by
  rw [← Bool.not_eq_true]
  intro h
  have hprefix : Sqlite.likePrefix (itoa statusCode) (lit "429 from model request") = true := by
    simpa [Sqlite.likePrefix, Sqlite.lower, modelRequest429, lit, List.isPrefixOf] using h
  have hblank : ∀ c : UInt8, lowerByte c = lowerByte 32 → c = 32 := by
    intro c hc
    unfold lowerByte at hc
    split at hc <;> grind
  exact blank_not_mem_itoa statusCode (Sqlite.mem_of_likePrefix hprefix (by decide) hblank)

theorem onQuota_of_harmless {call : UsageCall} (h : call.harmless = true) (acc : Account)
    {q : QuotaState} (hevidence : q.evidence = true) : call.onQuota acc q = q := by
  unfold UsageCall.harmless at h
  unfold UsageCall.onQuota
  cases hkind : call.kind with
  | unanswered err => rfl
  | snapshot body blocked =>
    simp only [hkind, Bool.not_eq_true'] at h
    simp [h, QuotaState.afterSnapshot, hevidence]
  | _ => simp [hkind] at h

/-- Any other probe leaves no evidence. -/
theorem evidence_onQuota {call : UsageCall} {acc : Account} {q : QuotaState}
    (h : call.harmless = false ∨ q.evidence = false) :
    (call.onQuota acc q).evidence = false := by
  unfold UsageCall.harmless at h
  unfold UsageCall.onQuota
  cases hkind : call.kind with
  | unanswered err => simpa [hkind] using h
  | refused statusCode => exact likePrefix_status statusCode
  | empty => rfl
  | notJSON => rfl
  | snapshot body blocked =>
    cases blocked with
    | true => rfl
    | false =>
      have hq : q.evidence = false := by simpa [hkind] using h
      simp only [Bool.false_eq_true, if_false, QuotaState.afterSnapshot, hq]
      rfl

section Sequence

variable {id : Int} {probes : List (UsageCall × Account)} {db db' : Database} {q : QuotaState}

theorem quota_probes_of_harmless (h : Probes id probes db db')
    (hq : db.column? AccountRow.quota id = some q) (hevidence : q.evidence = true)
    (hharmless : ∀ probe ∈ probes, probe.1.harmless = true) :
    db'.column? AccountRow.quota id = some q := by
  induction h with
  | nil db => exact hq
  | cons hacc hprobe hrest ih =>
    subst hacc
    apply ih
    · rw [quota_fetchOneCodexQuota hprobe, hq, Option.map_some,
        onQuota_of_harmless (hharmless _ List.mem_cons_self) _ hevidence]
    · exact fun probe hmem => hharmless probe (List.mem_cons_of_mem _ hmem)

/-- Evidence that is gone does not come back by probes. -/
theorem evidence_probes (h : Probes id probes db db')
    (hq : db.column? AccountRow.quota id = some q)
    (hlost : q.evidence = false ∨ ∃ probe ∈ probes, probe.1.harmless = false) :
    ∃ q', db'.column? AccountRow.quota id = some q' ∧ q'.evidence = false := by
  induction h generalizing q with
  | nil db =>
    rcases hlost with hlost | ⟨probe, hmem, -⟩
    · exact ⟨q, hq, hlost⟩
    · contradiction
  | @cons call acc probes db db' db'' err hacc hprobe hrest ih =>
    subst hacc
    have hnext := quota_fetchOneCodexQuota hprobe
    rw [hq, Option.map_some] at hnext
    apply ih hnext
    rcases hlost with hlost | ⟨probe, hmem, hharm⟩
    · exact Or.inl (evidence_onQuota (Or.inr hlost))
    · rcases List.mem_cons.mp hmem with rfl | hmem
      · exact Or.inl (evidence_onQuota (Or.inl hharm))
      · exact Or.inr ⟨probe, hmem, hharm⟩

/-- The evidence of a model request with status 429 is still there after a
sequence of probes exactly when each of them got no answer or a snapshot that is
not blocked. -/
theorem probes_keep_evidence_iff (h : Probes id probes db db')
    (hq : db.column? AccountRow.quota id = some q)
    (hevidence : hasPrefix q.lastError modelRequest429 = true)
    (hstatus : q.status = lit "error" ∨ q.status = lit "blocked") :
    (∃ q', db'.column? AccountRow.quota id = some q' ∧ q'.Keeps q) ↔
      ∀ probe ∈ probes, probe.1.harmless = true := by
  have hlike : q.evidence = true := Sqlite.likePrefix_of_hasPrefix hevidence
  constructor
  · rintro ⟨q', hq', hsame, -⟩ probe hmem
    by_contra hharm
    obtain ⟨q'', hq'', hgone⟩ := evidence_probes h hq
      (Or.inr ⟨probe, hmem, Bool.eq_false_iff.mpr hharm⟩)
    obtain rfl := Option.some.inj (hq'.symm.trans hq'')
    rw [QuotaState.evidence, hsame] at hgone
    rw [QuotaState.evidence, hgone] at hlike
    contradiction
  · intro hharmless
    exact ⟨q, quota_probes_of_harmless h hq hlike hharmless, rfl, hstatus⟩

end Sequence

/-- An account with the evidence of a model request with status 429. -/
def limitedAccount : AccountRow :=
  { id := 1, sourceKind := lit "cpa", cpaProvider := lit "codex", cpaOpenaiID := lit "acct"
    cpaQuotaStatus := lit "error", cpaQuotaLastError := lit "HTTP 429 from model request" }

/-- A database with that account. -/
def limitedDatabase : Database := { accounts := Table.empty.set limitedAccount }

/-- A probe that the runtime does not answer. -/
theorem unanswered_probe_keeps_evidence :
    (∃ q', limitedDatabase.column? AccountRow.quota 1 = some q' ∧
        q'.Keeps limitedAccount.quota) ↔
      ∀ probe ∈ [(({ answer := .error (lit "timeout") } : UsageCall),
        scanAccountRow limitedAccount)], probe.1.harmless = true := by
  have hq : limitedDatabase.column? AccountRow.quota 1 = some limitedAccount.quota := by
    decide +kernel
  exact probes_keep_evidence_iff
    (.cons rfl (.ret (some (lit "timeout")) limitedDatabase) (.nil limitedDatabase)) hq
    (by decide +kernel) (Or.inl rfl)

/-- `wham/usage` answers 500 once. -/
def failingProbe : UsageCall := { answer := .ok ⟨500, lit "upstream error"⟩ }

/-- One refused probe puts its own status in the place of the evidence. -/
theorem refused_probe_loses_evidence :
    hasPrefix limitedAccount.quota.lastError modelRequest429 = true ∧
      limitedAccount.quota.status = lit "error" ∧
    ∃ db', Probes 1 [(failingProbe, scanAccountRow limitedAccount)] limitedDatabase db' ∧
      db'.column? AccountRow.quota 1 = some ⟨lit "error", lit "HTTP 500"⟩ := by
  let probe := fetchOneCodexQuota failingProbe (scanAccountRow limitedAccount)
  let env : StoreEnv := ⟨default, fun _ => []⟩
  refine ⟨by decide +kernel, rfl, (probe.run StoreCall.run env limitedDatabase).2,
    .cons rfl (probe.ends_run StoreCall.run env limitedDatabase) (.nil _), ?_⟩
  decide +kernel

end Lune.Health
