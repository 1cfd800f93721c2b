import Lune.Router.Selection

/-!
# Why a resolution fails

`ErrRuntimeBinding` and `ErrModelNotOnAccount`, against the accounts that the resolution had
before it.
-/

namespace Lune.Store

open GoText Keyed

/-- The account has models. -/
def Database.HasModels (db : Database) (accountID : Int) : Prop :=
  ∃ am ∈ db.accountModels.rows, am.accountID = accountID

/-- The model is one of those of the account. -/
def Database.ListsModel (db : Database) (accountID : Int) (model : Str) : Prop :=
  ∃ am ∈ db.accountModels.rows, am.accountID = accountID ∧ am.modelID = model

/-! ## Bindings -/

section Bindings

variable {clock : Clock} {acc : Account} {opts : RoutabilityOptions}

variable (acc opts) in
/-- The checks before the last one do not blame the binding. -/
theorem evaluateCpaRoutability_binding :
    (evaluateCpaRoutability acc opts).runtimeBindingBlocked = false := by
  unfold evaluateCpaRoutability
  dsimp only
  repeat' split
  all_goals rfl

variable (acc) in
theorem evaluateDiagnosticRoutability_binding :
    (evaluateDiagnosticRoutability acc).runtimeBindingBlocked = false := by
  unfold evaluateDiagnosticRoutability
  dsimp only
  repeat' split
  all_goals rfl

/-- The binding keeps a CPA account out when nothing else does. -/
theorem runtimeBindingBlocked_iff :
    (evaluateAccountRoutability clock (some acc) opts).runtimeBindingBlocked = true ↔
      opts.cpaRuntimeBindingSupported = false ∧ acc.sourceKind = lit "cpa" ∧
        (evaluateAccountRoutability clock (some acc)
          { opts with cpaRuntimeBindingSupported := true }).routable = true := by
  have hcpa : evaluateCpaRoutability acc { opts with cpaRuntimeBindingSupported := true } =
    evaluateCpaRoutability acc opts := rfl
  have hbinding := evaluateCpaRoutability_binding acc opts
  obtain ⟨d, hd, hdiagnostic⟩ := exists_diagnosticDecision opts.diagnostic
    (P := fun d => d.runtimeBindingBlocked = false) rfl (evaluateDiagnosticRoutability_binding acc)
  unfold evaluateAccountRoutability
  simp only [hcpa, hd]
  generalize evaluateCpaRoutability acc opts = cpa at *
  repeat' split
  all_goals simp_all [blocked]

/-- An account that its binding keeps out is not routable. -/
theorem not_routable_of_binding
    (h : (evaluateAccountRoutability clock (some acc) opts).runtimeBindingBlocked = true) :
    (evaluateAccountRoutability clock (some acc) opts).routable = false := by
  have hcpa := evaluateCpaRoutability_binding acc opts
  obtain ⟨d, hd, hdiagnostic⟩ := exists_diagnosticDecision opts.diagnostic
    (P := fun d => d.runtimeBindingBlocked = false) rfl (evaluateDiagnosticRoutability_binding acc)
  revert h
  unfold evaluateAccountRoutability
  simp only [hd]
  repeat' split
  all_goals simp_all [blocked]

/-- A diagnostic resolution skips every other check of a CPA account in service. -/
theorem routable_of_diagnostic (hopts : opts.diagnostic = true)
    (hsupported : opts.cpaRuntimeBindingSupported = true) (hkind : acc.sourceKind = lit "cpa") :
    (evaluateAccountRoutability clock (some acc) opts).routable = true ↔
      acc.enabled = true ∧ (acc.status = lit "healthy" ∨ acc.status = lit "degraded") := by
  have hcpa : evaluateCpaRoutability acc opts = routableDecision := by
    unfold evaluateCpaRoutability
    simp only [hopts, if_true]
  unfold evaluateAccountRoutability
  simp only [hopts, hcpa, hkind, hsupported, routableDecision, if_true]
  by_cases henabled : acc.enabled = true
  · by_cases hstatus : acc.status = lit "healthy" ∨ acc.status = lit "degraded"
    · have hok : ¬(acc.status ≠ lit "healthy" ∧ acc.status ≠ lit "degraded") :=
        fun hother => hstatus.elim hother.1 hother.2
      simp [henabled, hstatus, hok]
    · simp [henabled, not_or.mp hstatus, blocked]
  · simp [henabled, blocked]

end Bindings

end Lune.Store

namespace Lune.Router

open GoText Keyed Lune.Store

namespace View

section Binding

variable {v : View} {acc : Account} {opts : ResolveOptions}

/-- Ordinary traffic is kept from the account by its binding alone, or by nothing. -/
def servesOrdinarily (v : View) (acc : Account) : Bool :=
  (evaluateAccountRoutability v.clock (some acc) { cpaRuntimeBindingSupported := true }).routable

/-- The decision under the options blames the binding. -/
def bindingBlamed (v : View) (acc : Account) (opts : ResolveOptions) : Bool :=
  (v.accountDecision acc opts).runtimeBindingBlocked

theorem bindingBlamed_ordinary (hopts : opts.diagnostic = false) :
    v.bindingBlamed acc opts = v.accountBlockedByRuntimeBinding acc := by
  rw [bindingBlamed, accountBlockedByRuntimeBinding, accountDecision, accountDecision, hopts]

theorem accountBlockedByRuntimeBinding_iff :
    v.accountBlockedByRuntimeBinding acc = true ↔
      v.options.cpaRuntimeBindingSupported = false ∧ acc.sourceKind = lit "cpa" ∧
        v.servesOrdinarily acc = true :=
  runtimeBindingBlocked_iff

/-- A diagnostic resolution blames the binding of every CPA account in service. -/
theorem bindingBlamed_diagnostic (hopts : opts.diagnostic = true) :
    v.bindingBlamed acc opts = true ↔
      v.options.cpaRuntimeBindingSupported = false ∧ acc.sourceKind = lit "cpa" ∧
        acc.enabled = true ∧ (acc.status = lit "healthy" ∨ acc.status = lit "degraded") := by
  rw [bindingBlamed, accountDecision, runtimeBindingBlocked_iff]
  refine and_congr_right fun _ => and_congr_right fun hkind => ?_
  exact routable_of_diagnostic hopts rfl hkind

/-- What the binding keeps out of ordinary traffic, it keeps out of any. -/
theorem bindingBlamed_of_blocked (h : v.accountBlockedByRuntimeBinding acc = true) :
    v.bindingBlamed acc opts = true := by
  cases hopts : opts.diagnostic with
  | false => rwa [bindingBlamed_ordinary hopts]
  | true =>
    obtain ⟨hsupported, hkind, hserves⟩ := accountBlockedByRuntimeBinding_iff.mp h
    obtain ⟨henabled, hstatus, -⟩ := (evaluateAccountRoutability_routable v.clock acc rfl).mp hserves
    exact (bindingBlamed_diagnostic hopts).mpr ⟨hsupported, hkind, henabled, hstatus⟩

theorem not_routable_of_bindingBlamed (h : v.bindingBlamed acc opts = true) :
    v.accountRoutable acc opts = false :=
  not_routable_of_binding h

end Binding

/-! ## The resolutions -/

/-- A resolution in a pool, of an account or of any. -/
def resolve (v : View) (model : Str) (poolID : Int) (forceAccountID : Option Int)
    (exclude : List Int) (opts : ResolveOptions) : Except RouteError ResolvedRoute :=
  match forceAccountID with
  | some accountID => v.resolveToAccount model poolID accountID opts
  | none => v.resolveInPool model poolID opts exclude

/-- An account that a resolution considers: that of an enabled member which is not excluded, or
which is the forced one. -/
def Considered (v : View) (poolID : Int) (forceAccountID : Option Int) (exclude : List Int)
    (acc : Account) : Prop :=
  ∃ m ∈ v.snap.membersOf poolID, m.enabled = true ∧
    (∀ accountID ∈ forceAccountID, m.accountID = accountID) ∧
    (forceAccountID = none → m.accountID ∉ exclude) ∧ v.snap.accounts.get? m.accountID = some acc

section Reasons

variable {v : View} {model : Str} {poolID : Int} {forceAccountID : Option Int} {exclude : List Int}
  {opts : ResolveOptions} {err : RouteError} {pool : Pool}

theorem bindingNoted_iff {m : PoolMember} :
    v.bindingNoted exclude opts m = true ↔
      m.enabled = true ∧ m.accountID ∉ exclude ∧
        ∃ acc, v.snap.accounts.get? m.accountID = some acc ∧
          v.accountBlockedByRuntimeBinding acc = true := by
  rw [bindingNoted, Bool.and_eq_true, Bool.and_eq_true, Bool.not_eq_true', ← Bool.not_eq_true,
    List.contains_iff_mem, Option.any_eq_true, and_assoc]
  refine and_congr_right fun _ => and_congr_right fun _ => exists_congr fun acc =>
    and_congr_right fun _ => ?_
  rw [Bool.and_eq_true, Bool.not_eq_true']
  exact ⟨And.right, fun h => ⟨not_routable_of_bindingBlamed (bindingBlamed_of_blocked h), h⟩⟩

/-- In a pool, the binding is blamed when it keeps an account from ordinary traffic. -/
theorem runtimeBinding_iff_of_pool (hpool : v.enabledPool poolID = some pool)
    (hfails : v.resolveInPool model poolID opts exclude = .error err) :
    err = .runtimeBinding ↔ ∃ acc, v.Considered poolID none exclude acc ∧
      v.accountBlockedByRuntimeBinding acc = true := by
  cases hchosen : v.chosen model exclude opts (orderedPolicy pool) (v.snap.membersOf poolID) with
  | some m =>
    obtain ⟨route, -, hresolve⟩ := resolveInPool_of_some hpool hchosen
    rw [hresolve] at hfails
    contradiction
  | none =>
    rw [resolveInPool_of_none hpool hchosen] at hfails
    obtain rfl := Except.error.inj hfails
    have hany : (v.snap.membersOf poolID).any (v.bindingNoted exclude opts) = true ↔
        ∃ acc, v.Considered poolID none exclude acc ∧
          v.accountBlockedByRuntimeBinding acc = true := by
      rw [List.any_eq_true]
      constructor
      · rintro ⟨m, hm, hnoted⟩
        obtain ⟨henabled, hfresh, acc, hacc, hblocked⟩ := bindingNoted_iff.mp hnoted
        exact ⟨acc, ⟨m, hm, henabled, fun _ h => (nomatch h), fun _ => hfresh, hacc⟩, hblocked⟩
      · rintro ⟨acc, ⟨m, hm, henabled, -, hfresh, hacc⟩, hblocked⟩
        exact ⟨m, hm, bindingNoted_iff.mpr ⟨henabled, hfresh rfl, acc, hacc, hblocked⟩⟩
    rw [← hany]
    cases (v.snap.membersOf poolID).any (v.bindingNoted exclude opts) with
    | true => exact iff_of_true rfl rfl
    | false => exact iff_of_false RouteError.noConfusion Bool.false_ne_true

/-- A forced resolution considers the account that is forced, if it is an enabled member. -/
theorem considered_forced_iff {accountID : Int} {acc : Account} :
    v.Considered poolID (some accountID) exclude acc ↔
      ((v.snap.membersOf poolID).any fun m => m.accountID == accountID && m.enabled) = true ∧
        v.snap.accounts.get? accountID = some acc := by
  rw [List.any_eq_true]
  constructor
  · rintro ⟨m, hm, henabled, hid, -, hacc⟩
    obtain rfl := hid accountID rfl
    exact ⟨⟨m, hm, by rw [henabled, beq_self_eq_true]; rfl⟩, hacc⟩
  · rintro ⟨⟨m, hm, hboth⟩, hacc⟩
    rw [Bool.and_eq_true, beq_iff_eq] at hboth
    refine ⟨m, hm, hboth.2, ?_, fun h => (nomatch h), by rw [hboth.1, hacc]⟩
    rintro _ ⟨⟩
    exact hboth.1

/-- Of a forced account, the binding is blamed when it keeps it from ordinary traffic. -/
theorem runtimeBinding_iff_of_forced {accountID : Int}
    (hpool : v.enabledPool poolID = some pool)
    (hfails : v.resolveToAccount model poolID accountID opts = .error err) :
    err = .runtimeBinding ↔ ∃ acc, v.Considered poolID (some accountID) exclude acc ∧
      v.accountBlockedByRuntimeBinding acc = true := by
  simp only [considered_forced_iff]
  rw [resolveToAccount, hpool] at hfails
  dsimp only at hfails
  split at hfails
  next hmember =>
    obtain rfl := Except.error.inj hfails
    rw [Bool.not_eq_true', ← Bool.not_eq_true] at hmember
    refine iff_of_false RouteError.noConfusion ?_
    rintro ⟨acc, ⟨h, -⟩, -⟩
    exact hmember h
  next hmember =>
    rw [Bool.not_eq_true', Bool.not_eq_false] at hmember
    split at hfails
    next hnone =>
      obtain rfl := Except.error.inj hfails
      refine iff_of_false RouteError.noConfusion ?_
      rintro ⟨acc, ⟨-, hacc⟩, -⟩
      rw [hacc] at hnone
      contradiction
    next acc hacc =>
      have hiff : (∃ acc', (((v.snap.membersOf poolID).any fun m =>
            m.accountID == accountID && m.enabled) = true ∧
          v.snap.accounts.get? accountID = some acc') ∧
            v.accountBlockedByRuntimeBinding acc' = true) ↔
              v.accountBlockedByRuntimeBinding acc = true := by
        constructor
        · rintro ⟨acc', ⟨-, hacc'⟩, hblocked⟩
          obtain rfl : acc = acc' := Option.some.inj (hacc.symm.trans hacc')
          exact hblocked
        · exact fun hblocked => ⟨acc, ⟨hmember, hacc⟩, hblocked⟩
      rw [hiff]
      split at hfails
      next =>
        obtain rfl := Except.error.inj hfails
        cases v.accountBlockedByRuntimeBinding acc with
        | true => exact iff_of_true rfl rfl
        | false => exact iff_of_false RouteError.noConfusion Bool.false_ne_true
      next hroutable =>
        have hnot : ¬v.accountBlockedByRuntimeBinding acc = true := by
          intro hblocked
          rw [not_routable_of_bindingBlamed (bindingBlamed_of_blocked hblocked)] at hroutable
          exact hroutable rfl
        split at hfails
        · obtain rfl := Except.error.inj hfails
          exact iff_of_false RouteError.noConfusion hnot
        · contradiction

/-- A resolution blames the binding when it keeps an account from ordinary traffic. -/
theorem runtimeBinding_iff (hpool : v.enabledPool poolID = some pool)
    (hfails : v.resolve model poolID forceAccountID exclude opts = .error err) :
    err = .runtimeBinding ↔ ∃ acc, v.Considered poolID forceAccountID exclude acc ∧
      v.accountBlockedByRuntimeBinding acc = true := by
  cases forceAccountID with
  | none => exact runtimeBinding_iff_of_pool hpool hfails
  | some accountID => exact runtimeBinding_iff_of_forced hpool hfails

end Reasons

end View

section BindingReason

variable {v : View} {model : Str} {poolID : Int} {forceAccountID : Option Int} {exclude : List Int}
  {opts : ResolveOptions} {err : RouteError} {pool : Pool}

/-- A failed resolution in an enabled pool blames the binding just when the decision on some
account that it considered does, unless it is a diagnostic one: then only if, where a CPA
account is in service, one of them would take ordinary traffic. -/
theorem binding_reason_iff (hpool : v.enabledPool poolID = some pool)
    (hfails : v.resolve model poolID forceAccountID exclude opts = .error err) :
    (err = .runtimeBinding ↔ ∃ acc, v.Considered poolID forceAccountID exclude acc ∧
        (v.accountDecision acc opts).runtimeBindingBlocked = true) ↔
      (opts.diagnostic = true → v.options.cpaRuntimeBindingSupported = false →
        (∃ acc, v.Considered poolID forceAccountID exclude acc ∧ acc.sourceKind = lit "cpa" ∧
          acc.enabled = true ∧ (acc.status = lit "healthy" ∨ acc.status = lit "degraded")) →
        ∃ acc, v.Considered poolID forceAccountID exclude acc ∧ acc.sourceKind = lit "cpa" ∧
          v.servesOrdinarily acc = true) := by
  rw [View.runtimeBinding_iff hpool hfails]
  constructor
  · rintro hsame hdiagnostic hsupported ⟨acc, hconsidered, hservice⟩
    obtain ⟨acc', hconsidered', hblocked⟩ := hsame.mpr ⟨acc, hconsidered,
      (View.bindingBlamed_diagnostic hdiagnostic).mpr ⟨hsupported, hservice⟩⟩
    exact ⟨acc', hconsidered', (View.accountBlockedByRuntimeBinding_iff.mp hblocked).2⟩
  · intro hcondition
    constructor
    · rintro ⟨acc, hconsidered, hblocked⟩
      exact ⟨acc, hconsidered, View.bindingBlamed_of_blocked hblocked⟩
    · rintro ⟨acc, hconsidered, hblamed⟩
      change v.bindingBlamed acc opts = true at hblamed
      cases hdiagnostic : opts.diagnostic with
      | false =>
        rw [View.bindingBlamed_ordinary hdiagnostic] at hblamed
        exact ⟨acc, hconsidered, hblamed⟩
      | true =>
        obtain ⟨hsupported, hservice⟩ := (View.bindingBlamed_diagnostic hdiagnostic).mp hblamed
        obtain ⟨acc', hconsidered', hkind, hserves⟩ :=
          hcondition hdiagnostic hsupported ⟨acc, hconsidered, hservice⟩
        exact ⟨acc', hconsidered',
          View.accountBlockedByRuntimeBinding_iff.mpr ⟨hsupported, hkind, hserves⟩⟩

end BindingReason

/-- A pool with a CPA account whose credential is not known, under a router that cannot pin. -/
def unpinned : View where
  snap :=
    { pools := Table.empty.set (1, { id := 1 })
      accounts := Table.empty.set (7, { id := 7, sourceKind := lit "cpa", status := lit "healthy" })
      members := Table.empty.set (1, [{ id := 1, poolID := 1, accountID := 7 }]) }
  clock := Store.Clock.early

theorem unpinned_reason :
    RouteError.noHealthyAccount = .runtimeBinding ↔ ∃ acc, unpinned.Considered 1 none [] acc ∧
      (unpinned.accountDecision acc {}).runtimeBindingBlocked = true :=
  (binding_reason_iff (show unpinned.enabledPool 1 = some { id := 1 } from rfl)
    (show unpinned.resolve (lit "m") 1 none [] {} = .error .noHealthyAccount from rfl)).mpr
    fun h => absurd h (by decide)

/-- A diagnostic resolution reports that no account is healthy, though it is the binding alone
that keeps the one there is from it. -/
theorem diagnostic_binding_not_blamed :
    ∃ pool, unpinned.enabledPool 1 = some pool ∧
      unpinned.resolve (lit "m") 1 none [] { diagnostic := true } = .error .noHealthyAccount ∧
      ∃ acc, unpinned.Considered 1 none [] acc ∧
        (unpinned.accountDecision acc { diagnostic := true }).runtimeBindingBlocked = true :=
  ⟨{ id := 1 }, rfl, rfl, { id := 7, sourceKind := lit "cpa", status := lit "healthy" },
    ⟨{ id := 1, poolID := 1, accountID := 7 }, List.mem_cons_self, rfl, fun _ h => (nomatch h),
      fun _ => List.not_mem_nil, rfl⟩, by decide⟩

/-! ## Models -/

section Models

variable {db : Database} {now clock : Clock} {options : Options}

/-- The accounts that list a model, in a load. -/
theorem getD_modelIndex (reads : TableReads) (model : Str) :
    ((loadFromDB reads).modelIndex.get? model).getD [] =
      ((reads.models.getD []).filter fun am => am.modelID = model).map AccountModelRow.accountID := by
  have hgroup := GoMap.get?_foldl_push AccountModelRow.modelID AccountModelRow.accountID
    (reads.models.getD []) Table.empty model
  rw [GoMap.get?_empty, Option.getD_none, List.nil_append] at hgroup
  exact hgroup

variable (now) in
theorem mem_modelIndex_iff {accountID : Int} {model : Str} :
    accountID ∈ ((loadFromDB (db.tableReads now)).modelIndex.get? model).getD [] ↔
      db.ListsModel accountID model := by
  rw [getD_modelIndex, List.mem_map]
  constructor
  · rintro ⟨am, ham, rfl⟩
    obtain ⟨hmem, hmodel⟩ := List.mem_filter.mp ham
    exact ⟨am, hmem, rfl, of_decide_eq_true hmodel⟩
  · rintro ⟨am, hmem, rfl, hmodel⟩
    exact ⟨am, List.mem_filter.mpr ⟨hmem, decide_eq_true hmodel⟩, rfl⟩

variable (options now clock) in
theorem accountHasAnyModel_iff {accountID : Int} :
    (View.mk options (loadFromDB (db.tableReads now)) clock).accountHasAnyModel accountID = true ↔
      db.HasModels accountID := by
  rw [View.accountHasAnyModel, List.any_eq_true]
  constructor
  · rintro ⟨accountIDs, hvalue, hmem⟩
    obtain ⟨model, hmodel⟩ := GoMap.mem_values_iff.mp hvalue
    have hlists : accountID ∈ ((loadFromDB (db.tableReads now)).modelIndex.get? model).getD [] := by
      rw [hmodel]
      exact List.contains_iff_mem.mp hmem
    obtain ⟨am, ham, hid, -⟩ := (mem_modelIndex_iff now).mp hlists
    exact ⟨am, ham, hid⟩
  · rintro ⟨am, ham, hid⟩
    have hlists := (mem_modelIndex_iff now).mpr ⟨am, ham, hid, rfl⟩
    cases hmodel : (loadFromDB (db.tableReads now)).modelIndex.get? am.modelID with
    | none =>
      rw [hmodel] at hlists
      contradiction
    | some accountIDs =>
      rw [hmodel] at hlists
      exact ⟨accountIDs, GoMap.mem_values_iff.mpr ⟨am.modelID, hmodel⟩,
        List.contains_iff_mem.mpr hlists⟩

/-- A member is a mismatch when its account has models and the one asked for is not among them. -/
theorem explicitMismatch_iff {accountID : Int} {model : Str} :
    (View.mk options (loadFromDB (db.tableReads now)) clock).accountModelMatch accountID model =
        .explicitMismatch ↔ db.HasModels accountID ∧ ¬db.ListsModel accountID model := by
  rw [← accountHasAnyModel_iff now clock options,
    ← mem_modelIndex_iff now, ← List.contains_iff_mem]
  unfold View.accountModelMatch
  cases View.accountHasAnyModel _ accountID with
  | false => exact iff_of_false ModelMatch.noConfusion fun h => Bool.false_ne_true h.1
  | true =>
    simp only [Bool.not_true, Bool.false_eq_true, if_false, true_and]
    split
    next hlists => exact iff_of_false ModelMatch.noConfusion (not_not.mpr hlists)
    next hnot => exact iff_of_true rfl hnot

/-- No load fills in the models of an account. -/
theorem models_loadFromDB {accountID : Int} {acc : Account}
    (h : (loadFromDB (db.tableReads now)).accounts.get? accountID = some acc) : acc.models = [] := by
  rw [Database.get?_accounts_loadFromDB] at h
  cases hdiag : db.accountDiagnostics.find? accountID with
  | none =>
    rw [hdiag] at h
    obtain ⟨row, -, rfl⟩ := Option.map_eq_some_iff.mp h
    rfl
  | some diag =>
    rw [hdiag] at h
    obtain ⟨account, haccount, rfl⟩ := Option.map_eq_some_iff.mp h
    obtain ⟨row, -, rfl⟩ := Option.map_eq_some_iff.mp haccount
    rfl

/-- In a loaded snapshot, the resolution of a forced account that is a routable member says
whether its list has the model just when there is no list without it. -/
theorem forced_model_honoured_iff {options : Options} {clock now : Clock} {model : Str}
    {poolID accountID : Int} {opts : ResolveOptions} {acc : Account}
    (hmember : EnabledMember (loadFromDB (db.tableReads now)) poolID accountID)
    (hacc : (loadFromDB (db.tableReads now)).accounts.get? accountID = some acc)
    (hroutable : (View.mk options (loadFromDB (db.tableReads now)) clock).accountRoutable acc opts =
      true) :
    let v : View := ⟨options, loadFromDB (db.tableReads now), clock⟩
    ((v.resolveWithOptions model (some poolID) (some accountID) opts = .error .modelNotOnAccount ↔
        db.HasModels accountID ∧ ¬db.ListsModel accountID model) ∧
      (v.accountModelMatch accountID model = .explicitMismatch ↔
        db.HasModels accountID ∧ ¬db.ListsModel accountID model)) ↔
      (db.HasModels accountID → db.ListsModel accountID model) := by
  intro v
  obtain ⟨⟨pool, hpool, henabled⟩, m, hm, hid, hm'⟩ := hmember
  have hok : v.resolveWithOptions model (some poolID) (some accountID) opts =
      .ok ⟨poolID, model, accountID, acc⟩ := by
    have henabledPool : v.enabledPool poolID = some pool :=
      Option.filter_eq_some_iff.mpr ⟨hpool, henabled⟩
    have hany : ((v.snap.membersOf poolID).any fun m => m.accountID == accountID && m.enabled) =
        true := by
      refine List.any_eq_true.mpr ⟨m, hm, ?_⟩
      rw [hid, hm', beq_self_eq_true]
      rfl
    have hget : v.snap.accounts.get? accountID = some acc := hacc
    have hroute : v.accountRoutable acc opts = true := hroutable
    have hmodels := models_loadFromDB hacc
    unfold View.resolveWithOptions View.resolveToAccount
    simp only [henabledPool, hany, hget, hroute, hmodels, Bool.not_true, Bool.false_eq_true,
      if_false, ne_eq, not_true_eq_false, false_and]
  have hnot : ¬v.resolveWithOptions model (some poolID) (some accountID) opts =
      .error .modelNotOnAccount := by
    rw [hok]
    intro h
    contradiction
  constructor
  · intro h hmodels
    by_contra hlists
    exact hnot (h.1.mpr ⟨hmodels, hlists⟩)
  · intro h
    exact ⟨iff_of_false hnot fun hother => hother.2 (h hother.1), explicitMismatch_iff⟩

/-- A pool with an account that lists one model. -/
def listing : Database where
  pools := Table.empty.set { id := 1 }
  accounts := Table.empty.set { id := 7, status := lit "healthy" }
  poolMembers := Table.empty.set { id := 1, poolID := 1, accountID := 7 }
  accountModels := Table.empty.set ⟨1, 7, lit "a"⟩

/-- What a router sees of it. -/
def listingView : View := ⟨{}, loadFromDB (listing.tableReads Store.Clock.early), Store.Clock.early⟩

theorem listing_enabledMember : EnabledMember listingView.snap 1 7 :=
  ⟨⟨_, rfl, rfl⟩, _, List.mem_cons_self, rfl, rfl⟩

/-- The model on the list is not refused. -/
theorem listed_model_honoured :
    (listingView.resolveWithOptions (lit "a") (some 1) (some 7) {} = .error .modelNotOnAccount ↔
        listing.HasModels 7 ∧ ¬listing.ListsModel 7 (lit "a")) ∧
      (listingView.accountModelMatch 7 (lit "a") = .explicitMismatch ↔
        listing.HasModels 7 ∧ ¬listing.ListsModel 7 (lit "a")) :=
  (forced_model_honoured_iff listing_enabledMember rfl (by decide +kernel)).mpr
    fun _ => ⟨⟨1, 7, lit "a"⟩, List.mem_cons_self, rfl, rfl⟩

/-- A model that is not on it is let through. -/
theorem other_model_routed :
    EnabledMember listingView.snap 1 7 ∧
      (∃ acc, listingView.snap.accounts.get? 7 = some acc ∧
        listingView.accountRoutable acc {} = true) ∧
      listing.HasModels 7 ∧ ¬listing.ListsModel 7 (lit "b") ∧
      ∃ route, listingView.resolveWithOptions (lit "b") (some 1) (some 7) {} = .ok route :=
  ⟨listing_enabledMember, ⟨_, rfl, by decide +kernel⟩, ⟨⟨1, 7, lit "a"⟩, List.mem_cons_self, rfl⟩,
    by
      rintro ⟨am, ham, -, hmodel⟩
      obtain rfl := List.mem_singleton.mp ham
      exact absurd hmodel (by decide),
    _, rfl⟩

end Models

end Lune.Router
