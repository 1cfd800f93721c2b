import Lune.Health.RefreshCalls
import Lune.Health.Recovery

/-!
# The models after a refresh

`checkOne` and `RefreshAccount` with a discovery that brings a list.  The list is
stored as it was read off the body, with the models that come twice, and the table
takes a model once.
-/

namespace Lune.Health

open GoText Keyed Lune.Store Lune.Gateway Programs

/-! ## The table of models -/

/-- Only a refresh of the models writes to their table. -/
theorem accountModels_run {call : StoreCall} (h : ∀ id models, call ≠ .refreshAccountModels id models)
    (env : StoreEnv) (db : Database) : (call.run env db).accountModels = db.accountModels := by
  cases call with
  | refreshAccountModels id models => exact absurd rfl (h id models)
  | ensureAccountDiagnostic id =>
    unfold StoreCall.run Database.ensureAccountDiagnostic
    dsimp only
    split <;> rfl
  | updateAccountDiagnosticWithEvidence id update evidence =>
    unfold StoreCall.run Database.updateAccountDiagnosticWithEvidence
    dsimp only
    split
    · rfl
    · unfold Database.ensureAccountDiagnostic
      split <;> rfl
  | _ => rfl

/-- A call that does not store models. -/
def NoModels (call : StoreCall) : Prop := ∀ id models, call ≠ .refreshAccountModels id models

theorem noModels_of_credential {id : Int} {call : StoreCall} (h : CredentialCall id call) :
    NoModels call := by
  rintro other models rfl
  exact h

theorem noModels_of_quota {id : Int} {call : StoreCall} (h : QuotaCall id call) :
    NoModels call := by
  rintro other models rfl
  exact h

/-- The other writers leave the account and its models alone. -/
def SameModels (id : Int) (db db' : Database) : Prop :=
  (db'.accounts.find? id).isSome = (db.accounts.find? id).isSome ∧ db'.modelsOf id = db.modelsOf id

theorem sameModels_of_others {id : Int} {db db' : Database}
    (h : Relation.ReflTransGen (SameModels id) db db') : SameModels id db db' := by
  induction h with
  | refl => exact ⟨rfl, rfl⟩
  | tail _ hlast ih => exact ⟨hlast.1.trans ih.1, hlast.2.trans ih.2⟩

/-- A program that stores no models leaves them alone, too. -/
theorem sameModels_of_safe {α : Type} {E : StoreEnv → Prop} {id : Int} {db db' : Database}
    {ws : List StoreCall} {p : StoreProg α} {a : α} {P : StoreCall → Prop} {R : α → Prop}
    (hrun : p.Amid StoreCall.run E (SameModels id) db ws a db')
    (hsafe : p.Safe (fun _ _ => True) P R) (hP : ∀ call, P call → NoModels call) :
    SameModels id db db' ∧ R a ∧ ∀ call ∈ ws, P call := by
  refine hrun.keeps (hsafe.mono (fun _ _ _ => trivial) (fun _ h => h) fun _ h => h) ?_ ?_ ⟨rfl, rfl⟩
  · rintro env s call ⟨hthere, hs⟩ hcall
    refine ⟨(StoreCall.isSome_find?_run env s call id).trans hthere, ?_⟩
    unfold Database.modelsOf at hs ⊢
    rw [accountModels_run (hP call hcall), hs]
  · exact fun s u hs hsame => ⟨hsame.1.trans hs.1, hsame.2.trans hs.2⟩

/-! ## The discovery -/

section Runs

variable {E : StoreEnv → Prop} {db db' : Database} {ws : List StoreCall}

/-- A discovery with a list stores it, or leaves the models as they were. -/
theorem models_discoverModels {discovery : Discovery} {models : List Str} {id : Int}
    {result : Except Str (List Str)} (hanswer : discovery.answer = .ok models) (hne : models ≠ [])
    (hpresent : (db.accounts.find? id).isSome = true)
    (hrun : (discoverModels discovery id).Amid StoreCall.run E (SameModels id) db ws result db') :
    (models.Nodup ∧ ¬Database.RefreshFault discovery.failing models →
        result = .ok models ∧ db'.modelsOf id = models) ∧
      (¬models.Nodup ∨ Database.RefreshFault discovery.failing models →
        result = .error (lit "store models: " ++ discovery.storeError) ∧
          db'.modelsOf id = db.modelsOf id) := by
  obtain ⟨u, hbefore, hcommitted, hrolled⟩ := amid_discoverModels hanswer hne hrun
  obtain ⟨hthere, hsame⟩ := sameModels_of_others hbefore
  have htx := @Database.refreshModelsTx_eq u discovery.failing id models (hthere.trans hpresent)
  constructor
  · intro hcommits
    obtain ⟨rfl, v, hothers, hafter⟩ := hcommitted _ (htx.1 hcommits)
    have hv := sameModels_of_others (hbefore.trans hothers)
    have hstored := Database.modelsOf_refreshAccountModels
      ((Database.refreshAccountModelsFails_eq_false (hv.1.trans hpresent)).mpr hcommits.1) id
    rw [if_pos rfl] at hstored
    exact ⟨rfl, (sameModels_of_others hafter).2.trans hstored⟩
  · intro hfails
    obtain ⟨rfl, hafter⟩ := hrolled (htx.2 hfails)
    exact ⟨rfl, (sameModels_of_others hafter).2.trans hsame⟩

/-- A discovery writes nothing but the models. -/
theorem calls_discoverModels {discovery : Discovery} {id : Int} {result : Except Str (List Str)}
    (hrun : (discoverModels discovery id).Amid StoreCall.run E (SameModels id) db ws result db') :
    ∀ call ∈ ws, ∃ models, call = .refreshAccountModels id models :=
  (hrun.keeps (I := fun _ => True)
    (safe_discoverModels (R := fun _ => True) discovery id (fun models => ⟨models, rfl⟩)
      fun _ => trivial)
    (fun _ _ _ _ _ => trivial) (fun _ _ _ _ => trivial) trivial).2.2

/-! ## A check -/

/-- The check has written an error of the account. -/
def ErrorIn (id : Int) (ws : List StoreCall) : Prop :=
  ∃ text, StoreCall.updateAccountHealth id (lit "error") text ∈ ws

/-- The write of a check that succeeds. -/
def UnchangedHealth : StoreCall → Prop
  | .updateAccountHealthIfUnchanged _ _ _ _ => True
  | _ => False

theorem models_checkOne {io : CheckIO} {acc : Account} {models : List Str}
    (hservice : serviceUnreachable io.snap acc = false)
    (hanswer : io.discovery.answer = .ok models) (hne : models ≠ [])
    (hpresent : (db.accounts.find? acc.id).isSome = true)
    (hrun : (checkOne io acc).Amid StoreCall.run E (SameModels acc.id) db ws () db') :
    (models.Nodup ∧ ¬Database.RefreshFault io.discovery.failing models →
        db'.modelsOf acc.id = models ∧ ¬ErrorIn acc.id ws) ∧
      (¬models.Nodup ∨ Database.RefreshFault io.discovery.failing models →
        db'.modelsOf acc.id = db.modelsOf acc.id ∧ ErrorIn acc.id ws) := by
  unfold checkOne at hrun
  rw [hservice, if_neg Bool.false_ne_true] at hrun
  obtain ⟨result, u, ws₁, ws₂, rfl, hdiscovery, hrest⟩ := Prog.amid_bind.mp hrun
  have hmodels := models_discoverModels hanswer hne hpresent hdiscovery
  constructor
  · intro hcommits
    obtain ⟨rfl, hstored⟩ := hmodels.1 hcommits
    obtain ⟨⟨-, hkept⟩, -, hwrites⟩ := sameModels_of_safe (P := UnchangedHealth)
      (R := fun _ => True) hrest
      (by
        dsimp only
        rw [Prog.safe_bind, Prog.safe_look]
        intro _ _ _
        unfold clock
        rw [Prog.safe_bind, Prog.safe_look]
        intro _ _ _
        split
        · trivial
        · simp [UnchangedHealth])
      (by
        rintro call hcall id models rfl
        exact hcall)
    refine ⟨hkept.trans hstored, ?_⟩
    rintro ⟨text, htext⟩
    rcases List.mem_append.mp htext with htext | htext
    · obtain ⟨_, heq⟩ := calls_discoverModels hdiscovery _ htext
      exact nomatch heq
    · exact hwrites _ htext
  · intro hfails
    obtain ⟨rfl, hkept⟩ := hmodels.2 hfails
    have hafter := sameModels_of_safe (P := NoModels) (R := fun _ => True) hrest (by simp [NoModels])
      fun _ h => h
    obtain ⟨_, _, ws', -, -, rfl, -⟩ := Prog.amid_writes_cons.mp hrest
    exact ⟨hafter.1.2.trans hkept, _, List.mem_append_right ws₁ List.mem_cons_self⟩

/-! ## A refresh -/

/-- What an outcome says about the models. -/
def Outcome.discovered (out : Outcome) : Bool × Str :=
  (out.result.modelsRefreshed, out.result.modelsError)

@[simp] theorem Outcome.discovered_fail (out : Outcome) (err : Str) :
    (out.fail err).discovered = out.discovered := rfl

theorem Outcome.discovered_withSubscription (out : Outcome) (refreshed : Bool) (err : Option Str) :
    (out.withSubscription refreshed err).discovered = out.discovered := by
  unfold withSubscription
  cases err with
  | none => rfl
  | some err =>
    dsimp only
    split <;> rfl

theorem Outcome.discovered_withUnresolvedQuota (out : Outcome) (opts : RefreshOptions)
    (err : ResolveError) : (out.withUnresolvedQuota opts err).discovered = out.discovered := by
  unfold withUnresolvedQuota
  dsimp only
  split
  · rfl
  · split <;> rfl

theorem Outcome.discovered_withUnresolvedSubscription (out : Outcome) (err : ResolveError) :
    (out.withUnresolvedSubscription err).discovered = out.discovered := by
  unfold withUnresolvedSubscription
  dsimp only
  split
  · rfl
  · split <;> rfl

section Later

variable {c : Checker} {io : RefreshIO} {acc : Account} {opts : RefreshOptions} {out : Outcome}
  {Q : StoreEnv → Database → Prop}

theorem discovered_refreshSubscription {rt : CpaRuntime} :
    (refreshSubscription c acc opts rt out).Safe Q (fun _ => True)
      fun out' => out'.discovered = out.discovered := by
  unfold refreshSubscription
  split
  · rw [Prog.safe_bind]
    apply (Prog.safe_true _).result
    intro result _
    exact out.discovered_withSubscription _ _
  · rfl

theorem discovered_refreshQuota :
    (refreshQuota c io acc opts out).Safe Q (fun _ => True)
      fun out' => out'.discovered = out.discovered := by
  unfold refreshQuota
  rw [Prog.safe_bind]
  apply (Prog.safe_true _).result
  intro latest _
  dsimp only
  rw [Prog.safe_bind]
  apply (Prog.safe_true _).result
  intro result _
  cases result with
  | error err => exact out.discovered_withUnresolvedQuota opts err
  | ok rt =>
    dsimp only
    rw [Prog.safe_bind]
    apply (Prog.safe_true _).result
    intro _ _
    rw [Prog.safe_bind]
    apply (Prog.safe_true _).result
    rintro ⟨refreshed, err⟩ _
    cases err
    all_goals
      dsimp only
      split
      · rw [Prog.safe_bind]
        apply (Prog.safe_true _).result
        intro result _
        exact Outcome.discovered_withSubscription _ _ _
      · rfl

theorem discovered_refreshPendingSubscription :
    (refreshPendingSubscription c io acc opts out).Safe Q (fun _ => True)
      fun out' => out'.discovered = out.discovered := by
  unfold refreshPendingSubscription
  rw [Prog.safe_bind]
  apply (Prog.safe_true _).result
  intro result _
  cases result with
  | error err => exact out.discovered_withUnresolvedSubscription err
  | ok rt =>
    dsimp only
    rw [Prog.safe_bind]
    apply (Prog.safe_true _).result
    intro result _
    exact out.discovered_withSubscription _ _

end Later

/-- The runtime that a resolution in a run brings. -/
theorem exists_env_of_resolve {c : Checker} {env : RuntimeEnv} {acc : Account}
    {opts : ResolveOptions} {id : Int} {result : Except ResolveError CpaRuntime}
    (hrun : (resolve c env acc opts).Amid StoreCall.run E (SameModels id) db ws result db') :
    ∃ e, E e ∧ result = (resolveCpaRuntime c { env with now := e.now } acc opts).1 := by
  unfold resolve clock at hrun
  obtain ⟨now, u, ws₁, ws₂, -, hclock, hrest⟩ := Prog.amid_bind.mp hrun
  obtain ⟨e, v, he, -, -, rfl, -⟩ := Prog.amid_look.mp hclock
  obtain ⟨_, w, ws₃, ws₄, -, -, hret⟩ := Prog.amid_bind.mp hrest
  obtain ⟨-, rfl, -⟩ := Prog.amid_pure.mp hret
  exact ⟨e, he, rfl⟩

/-- The refresh comes to its discovery: the account is direct, or the models are to
be refreshed and the runtime of the account is found, at every time of the run. -/
def Discovers (E : StoreEnv → Prop) (c : Checker) (io : RefreshIO) (acc : Account)
    (opts : RefreshOptions) : Prop :=
  acc.sourceKind ≠ lit "cpa" ∨
    opts.withDefault.models = true ∧ ∀ e, E e →
      ∃ rt, (resolveCpaRuntime c { io.runtime with now := e.now } acc {}).1 = .ok rt

theorem models_refreshAccount {c : Checker} {io : RefreshIO} {acc : Account} {opts : RefreshOptions}
    {models : List Str} {out : Outcome} (hdiscovers : Discovers E c io acc opts)
    (hanswer : io.discovery.answer = .ok models) (hne : models ≠ [])
    (hpresent : (db.accounts.find? acc.id).isSome = true)
    (hrun : (refreshAccount c io acc opts).Amid StoreCall.run E (SameModels acc.id) db ws out db') :
    (models.Nodup ∧ ¬Database.RefreshFault io.discovery.failing models →
        db'.modelsOf acc.id = models ∧ out.discovered = (true, [])) ∧
      (¬models.Nodup ∨ Database.RefreshFault io.discovery.failing models →
        db'.modelsOf acc.id = db.modelsOf acc.id ∧
          out.discovered = (false, lit "store models: " ++ io.discovery.storeError)) := by
  unfold refreshAccount at hrun
  dsimp only at hrun
  split at hrun
  next hdirect =>
    obtain ⟨result, u, ws₁, ws₂, -, hdiscovery, hrest⟩ := Prog.amid_bind.mp hrun
    have hmodels := models_discoverModels hanswer hne hpresent hdiscovery
    constructor
    · intro hcommits
      obtain ⟨rfl, hstored⟩ := hmodels.1 hcommits
      obtain ⟨-, rfl, hothers⟩ := Prog.amid_pure.mp hrest
      exact ⟨(sameModels_of_others hothers).2.trans hstored, rfl⟩
    · intro hfails
      obtain ⟨rfl, hkept⟩ := hmodels.2 hfails
      obtain ⟨-, rfl, hothers⟩ := Prog.amid_pure.mp hrest
      exact ⟨(sameModels_of_others hothers).2.trans hkept, rfl⟩
  next hcpa =>
    rw [not_not] at hcpa
    obtain ⟨hmodels, hresolves⟩ := hdiscovers.resolve_left (not_not.mpr hcpa)
    obtain ⟨result, u, ws₁, ws₂, -, hresolve, hrest⟩ := Prog.amid_bind.mp hrun
    obtain ⟨e, he, hresult⟩ := exists_env_of_resolve hresolve
    obtain ⟨rt, hrt⟩ := hresolves e he
    obtain rfl := hresult.trans hrt
    obtain ⟨hsame, haccount, -⟩ := sameModels_of_safe hresolve
      (safe_resolve_credential hcpa rfl fun _ => noModels_of_credential) fun _ h => h
    dsimp only at hrest
    obtain ⟨found, v, ws₃, ws₄, -, hrefresh, hrest⟩ := Prog.amid_bind.mp hrest
    unfold refreshModels at hrefresh
    rw [if_pos hmodels] at hrefresh
    obtain ⟨answer, w, ws₅, ws₆, -, hdiscovery, hrefresh⟩ := Prog.amid_bind.mp hrefresh
    have hstores := models_discoverModels hanswer hne (hsame.1.trans hpresent) hdiscovery
    -- What comes after the discovery neither stores models nor reports on them.
    have hlater := sameModels_of_safe (P := NoModels)
      (R := fun out => out.discovered = found.discovered) hrest (by
        have hquota : (fetchOneCodexQuota io.usage acc).Safe (fun _ _ => True) NoModels
            fun _ => True :=
          (safe_fetchOneCodexQuota io.usage acc).mono (fun _ _ h => h)
            (fun _ => noModels_of_quota) fun _ h => h
        rw [Prog.safe_bind]
        refine ((safe_refreshSubscription (haccount rt rfl) fun _ _ _ =>
          @noModels_of_credential acc.id _ rfl).and discovered_refreshSubscription).mono
          (fun _ _ h => h) (fun _ h => h.1) ?_
        rintro out' ⟨-, hout'⟩
        split
        · exact ((safe_refreshQuota hcpa (fun _ => noModels_of_credential) hquota).and
            discovered_refreshQuota).mono (fun _ _ h => h) (fun _ h => h.1)
              fun _ h => h.2.trans hout'
        · split
          · exact ((safe_refreshPendingSubscription hcpa fun _ => noModels_of_credential).and
              discovered_refreshPendingSubscription).mono (fun _ _ h => h) (fun _ h => h.1)
                fun _ h => h.2.trans hout'
          · exact hout') fun _ h => h
    obtain ⟨⟨-, hkept⟩, hout, -⟩ := hlater
    constructor
    · intro hcommits
      obtain ⟨rfl, hstored⟩ := hstores.1 hcommits
      obtain ⟨-, rfl, hothers⟩ := Prog.amid_pure.mp hrefresh
      exact ⟨hkept.trans ((sameModels_of_others hothers).2.trans hstored), hout⟩
    · intro hfails
      obtain ⟨rfl, hleft⟩ := hstores.2 hfails
      obtain ⟨-, rfl, hothers⟩ := Prog.amid_pure.mp hrefresh
      exact ⟨hkept.trans ((sameModels_of_others hothers).2.trans (hleft.trans hsame.2)), hout⟩

end Runs

/-! ## The set that is stored -/

/-- When no statement fails on its own, the models of the account are those of the
list, and no error is reported.  When a statement fails, on its own or because a
model is there already, they are as they were. -/
def Refreshed (failing : RefreshStatement → Bool) (models : List Str) (id : Int)
    (db db' : Database) (error : Prop) : Prop :=
  (¬Database.RefreshFault failing models →
      (∀ model, model ∈ db'.modelsOf id ↔ model ∈ models) ∧ ¬error) ∧
    (¬models.Nodup ∨ Database.RefreshFault failing models → db'.modelsOf id = db.modelsOf id)

theorem refreshed_iff {failing : RefreshStatement → Bool} {models : List Str} {id : Int}
    {db db' : Database} {error : Prop}
    (hcommits : models.Nodup ∧ ¬Database.RefreshFault failing models →
      db'.modelsOf id = models ∧ ¬error)
    (hfails : ¬models.Nodup ∨ Database.RefreshFault failing models →
      db'.modelsOf id = db.modelsOf id ∧ error) :
    Refreshed failing models id db db' error ↔
      models.Nodup ∨ Database.RefreshFault failing models := by
  constructor
  · rintro ⟨hstored, -⟩
    by_contra hnot
    rw [not_or] at hnot
    exact (hstored hnot.2).2 (hfails (Or.inl hnot.1)).2
  · intro h
    refine ⟨fun hfault => ?_, fun hfail => (hfails hfail).1⟩
    obtain ⟨hmodels, herror⟩ := hcommits ⟨h.resolve_right hfault, hfault⟩
    exact ⟨fun model => by rw [hmodels], herror⟩

/-- A refresh of an account that is there, by a check or by `RefreshAccount`, whose
discovery brings a list: what is promised holds if and only if no model is named
twice, or a statement fails on its own. -/
theorem refresh_stores_set_iff {E : StoreEnv → Prop} {discovery : Discovery} {models : List Str}
    {acc : Account} {db db' : Database} {ws : List StoreCall}
    (hanswer : discovery.answer = .ok models) (hne : models ≠ [])
    (hpresent : (db.accounts.find? acc.id).isSome = true) :
    (∀ io : CheckIO, io.discovery = discovery → serviceUnreachable io.snap acc = false →
        (checkOne io acc).Amid StoreCall.run E (SameModels acc.id) db ws () db' →
        (Refreshed discovery.failing models acc.id db db' (ErrorIn acc.id ws) ↔
          models.Nodup ∨ Database.RefreshFault discovery.failing models)) ∧
      ∀ (c : Checker) (io : RefreshIO) (opts : RefreshOptions) (out : Outcome),
        io.discovery = discovery → Discovers E c io acc opts →
        (refreshAccount c io acc opts).Amid StoreCall.run E (SameModels acc.id) db ws out db' →
        (Refreshed discovery.failing models acc.id db db' (out.discovered ≠ (true, [])) ↔
          models.Nodup ∨ Database.RefreshFault discovery.failing models) := by
  constructor
  · rintro io rfl hservice hrun
    obtain ⟨hcommits, hfails⟩ := models_checkOne hservice hanswer hne hpresent hrun
    exact refreshed_iff hcommits hfails
  · rintro c io opts out rfl hdiscovers hrun
    obtain ⟨hcommits, hfails⟩ := models_refreshAccount hdiscovers hanswer hne hpresent hrun
    refine refreshed_iff (fun h => ?_) fun h => ?_
    · exact ⟨(hcommits h).1, not_not.mpr (hcommits h).2⟩
    · refine ⟨(hfails h).1, ?_⟩
      rw [(hfails h).2]
      exact fun heq => absurd (congrArg Prod.fst heq) Bool.false_ne_true

/-- A run of a check of the direct account, alone. -/
theorem amid_models (x : Exchange) (db : Database) :
    (directExchange x).program.Amid StoreCall.run (fun _ => True) (SameModels 1) db
      ((directExchange x).program.written StoreCall.run (secondsIn 1) db) () (afterCheck x 1 db) :=
  Prog.amid_run (E := fun _ => True) trivial (directExchange x).program db

/-- A list of one model. -/
theorem one_model_stored :
    Refreshed (directExchange listOfOne).failing [lit "gpt"] 1 directDatabase
      (afterCheck listOfOne 1 directDatabase)
      (ErrorIn 1 ((directExchange listOfOne).program.written StoreCall.run (secondsIn 1)
        directDatabase)) := by
  have hanswer : (directExchange listOfOne).io.discovery.answer = .ok [lit "gpt"] := by
    decide +kernel
  have hpresent : (directDatabase.accounts.find? (directExchange listOfOne).acc.id).isSome = true :=
    by decide +kernel
  have hiff := (refresh_stores_set_iff hanswer (List.cons_ne_nil _ _) hpresent).1
    (directExchange listOfOne).io rfl (directExchange_reachable listOfOne)
    (amid_models listOfOne directDatabase)
  exact hiff.mpr (Or.inl (List.nodup_singleton _))

/-- An upstream that names a model twice. -/
def listOfTwins : Exchange :=
  .response 200 (lit "\x7b\"data\":[\x7b\"id\":\"gpt\"\x7d,\x7b\"id\":\"gpt\"\x7d]\x7d") none

/-- Nothing is stored then, no statement fails on its own, and the account is in
error. -/
theorem twins_not_stored : ∃ ws,
    (directExchange listOfTwins).io.discovery.answer = .ok [lit "gpt", lit "gpt"] ∧
      ¬Database.RefreshFault (directExchange listOfTwins).failing [lit "gpt", lit "gpt"] ∧
      (directExchange listOfTwins).program.Amid StoreCall.run (fun _ => True) (SameModels 1)
        directDatabase ws () (afterCheck listOfTwins 1 directDatabase) ∧
      (afterCheck listOfTwins 1 directDatabase).modelsOf 1 = [] ∧
      (afterCheck listOfTwins 1 directDatabase).column? AccountRow.status 1 =
        some (lit "error") := by
  refine ⟨_, by decide +kernel, ?_, amid_models listOfTwins directDatabase, by decide +kernel,
    by decide +kernel⟩
  simp [Database.RefreshFault, directExchange]

end Lune.Health
