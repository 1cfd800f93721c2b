import Lune.Store.Cache
import Lune.Store.Database
import Lune.Store.Routability

/-!
# Route resolution

`internal/router/router.go`.  A resolution works on one routing snapshot: it
takes the members of the token's pool in order, leaves out the ones that are
disabled, excluded or not routable, and picks by model and penalty.  One reading
of the clock serves all the accounts of a resolution.
-/

namespace Lune.Router

open GoText Keyed Lune.Store

/-- `ErrNoRoute`, `ErrPoolDisabled`, `ErrNoHealthyAccount`,
`ErrModelNotOnAccount` and `ErrRuntimeBinding`. -/
inductive RouteError where
  | noRoute
  | poolDisabled
  | noHealthyAccount
  | modelNotOnAccount
  | runtimeBinding
deriving DecidableEq

/-- The text of the error. -/
def RouteError.text : RouteError → Str
  | noRoute => lit "no_route"
  | poolDisabled => lit "pool_disabled"
  | noHealthyAccount => lit "no_healthy_account"
  | modelNotOnAccount => lit "model_not_on_account"
  | runtimeBinding => lit "runtime_auth_binding_unavailable"

/-- `Options`. -/
structure Options where
  cpaRuntimeBindingSupported : Bool := false

/-- `ResolveOptions`. -/
structure ResolveOptions where
  diagnostic : Bool := false

/-- `ResolvedRoute`. -/
structure ResolvedRoute where
  poolID : Int
  targetModel : Str
  accountID : Int
  account : Account
deriving Inhabited

/-- `CandidateTrace`. -/
structure CandidateTrace where
  accountID : Int
  position : Int
  outcome : Str
  reason : Str

/-- What a resolution reads: the router's options, a snapshot and the clock. -/
structure View where
  options : Options := {}
  snap : CacheSnapshot
  clock : Clock
deriving Inhabited

/-- `modelMatch`. -/
inductive ModelMatch where
  | explicitMatch
  | explicitMismatch
  | unknown
deriving DecidableEq

namespace View

/-- `accountDecision`. -/
def accountDecision (v : View) (acc : Account) (opts : ResolveOptions) : RoutabilityDecision :=
  evaluateAccountRoutability v.clock (some acc)
    { diagnostic := opts.diagnostic
      cpaRuntimeBindingSupported := v.options.cpaRuntimeBindingSupported }

/-- `accountRoutable`. -/
def accountRoutable (v : View) (acc : Account) (opts : ResolveOptions) : Bool :=
  (v.accountDecision acc opts).routable

/-- `accountBlockedByRuntimeBinding`. -/
def accountBlockedByRuntimeBinding (v : View) (acc : Account) : Bool :=
  (v.accountDecision acc {}).runtimeBindingBlocked

/-- `accountHasAnyModel`. -/
def accountHasAnyModel (v : View) (accountID : Int) : Bool :=
  v.snap.modelIndex.values.any fun accountIDs => accountIDs.contains accountID

/-- `accountModelMatch`. -/
def accountModelMatch (v : View) (accountID : Int) (model : Str) : ModelMatch :=
  if !v.accountHasAnyModel accountID then .unknown
  else if ((v.snap.modelIndex.get? model).getD []).contains accountID then .explicitMatch
  else .explicitMismatch

/-- The pool of that id, when it is enabled. -/
def enabledPool (v : View) (poolID : Int) : Option Pool :=
  (v.snap.pools.get? poolID).filter fun pool => pool.enabled

/-- `resolveToAccount`. -/
def resolveToAccount (v : View) (model : Str) (poolID accountID : Int) (opts : ResolveOptions) :
    Except RouteError ResolvedRoute :=
  match v.enabledPool poolID with
  | none => .error .poolDisabled
  | some _ =>
    if !((v.snap.membersOf poolID).any fun m => m.accountID == accountID && m.enabled) then
      .error .noRoute
    else match v.snap.accounts.get? accountID with
      | none => .error .noRoute
      | some acc =>
        if !v.accountRoutable acc opts then
          .error (if v.accountBlockedByRuntimeBinding acc then .runtimeBinding
            else .noHealthyAccount)
        else if acc.models ≠ [] ∧ !acc.models.contains model then .error .modelNotOnAccount
        else .ok { poolID := poolID, targetModel := model, accountID := accountID, account := acc }

/-- One pass over the members of a pool.  The first usable one that is `wanted`
is taken; `blocked` becomes true when a member before it is kept out by its
runtime binding. -/
def scanMembers (v : View) (model : Str) (poolID : Int) (exclude : List Int)
    (opts : ResolveOptions) (wanted : Account → ModelMatch → Bool) (blocked : Bool) :
    List PoolMember → Option ResolvedRoute × Bool
  | [] => (none, blocked)
  | m :: members =>
    if !m.enabled || exclude.contains m.accountID then
      scanMembers v model poolID exclude opts wanted blocked members
    else match v.snap.accounts.get? m.accountID with
      | none => scanMembers v model poolID exclude opts wanted blocked members
      | some acc =>
        if !v.accountRoutable acc opts then
          scanMembers v model poolID exclude opts wanted
            (blocked || v.accountBlockedByRuntimeBinding acc) members
        else if wanted acc (v.accountModelMatch m.accountID model) then
          (some { poolID := poolID, targetModel := model, accountID := m.accountID, account := acc },
            blocked)
        else scanMembers v model poolID exclude opts wanted blocked members

/-- `pickOrdered`: a pass for the accounts that list the model, then one for
those whose models are unknown. -/
def pickOrdered (v : View) (members : List PoolMember) (model : Str) (poolID : Int)
    (exclude : List Int) (opts : ResolveOptions) : Option ResolvedRoute × Bool :=
  match v.scanMembers model poolID exclude opts (fun _ found => found = .explicitMatch) false
      members with
  | (some resolved, blocked) => (some resolved, blocked)
  | (none, blocked) =>
    v.scanMembers model poolID exclude opts (fun _ found => found = .unknown) blocked members

/-- A stage of the health-first choice. -/
structure Stage where
  requireModel : Bool
  maxPenalty : Int

/-- `pickFromMembers`. -/
def pickFromMembers (v : View) (members : List PoolMember) (model : Str) (poolID : Int)
    (exclude : List Int) (stage : Stage) (opts : ResolveOptions) : Option ResolvedRoute × Bool :=
  v.scanMembers model poolID exclude opts
    (fun acc found => (v.accountDecision acc opts).penalty ≤ stage.maxPenalty &&
      found = if stage.requireModel then .explicitMatch else .unknown)
    false members

/-- The stages, in order. -/
def stages : List Stage :=
  [⟨true, 0⟩, ⟨true, 1⟩, ⟨true, 999⟩, ⟨false, 0⟩, ⟨false, 1⟩, ⟨false, 999⟩]

/-- The loop over the stages. -/
def pickStaged (v : View) (members : List PoolMember) (model : Str) (poolID : Int)
    (exclude : List Int) (opts : ResolveOptions) (blocked : Bool) :
    List Stage → Option ResolvedRoute × Bool
  | [] => (none, blocked)
  | stage :: stages =>
    match v.pickFromMembers members model poolID exclude stage opts with
    | (some resolved, blocked') => (some resolved, blocked || blocked')
    | (none, blocked') =>
      pickStaged v members model poolID exclude opts (blocked || blocked') stages

/-- `resolveInPool`. -/
def resolveInPool (v : View) (model : Str) (poolID : Int) (opts : ResolveOptions)
    (exclude : List Int) : Except RouteError ResolvedRoute :=
  match v.enabledPool poolID with
  | none => .error .poolDisabled
  | some pool =>
    let members := v.snap.membersOf poolID
    if members = [] then .error .noHealthyAccount
    else
      let picked :=
        if Database.normalizeRoutingPolicy pool.routingPolicy = lit "ordered" then
          v.pickOrdered members model poolID exclude opts
        else v.pickStaged members model poolID exclude opts false stages
      match picked with
      | (some resolved, _) => .ok resolved
      | (none, true) => .error .runtimeBinding
      | (none, false) => .error .noHealthyAccount

/-- `ResolveWithOptions`. -/
def resolveWithOptions (v : View) (model : Str) (tokenPoolID forceAccountID : Option Int)
    (opts : ResolveOptions) : Except RouteError ResolvedRoute :=
  match tokenPoolID, forceAccountID with
  | none, _ => .error .noRoute
  | some poolID, some accountID => v.resolveToAccount model poolID accountID opts
  | some poolID, none => v.resolveInPool model poolID opts []

/-- `SelectNextAccount`. -/
def selectNextAccount (v : View) (model : Str) (tokenPoolID : Option Int) (exclude : List Int) :
    Except RouteError ResolvedRoute :=
  match tokenPoolID with
  | none => .error .noRoute
  | some poolID => v.resolveInPool model poolID {} exclude

/-- The trace of one member. -/
def candidateTrace (v : View) (model : Str) (exclude : List Int) (opts : ResolveOptions)
    (m : PoolMember) : CandidateTrace :=
  let skipped (reason : Str) : CandidateTrace := ⟨m.accountID, m.position, lit "skipped", reason⟩
  let candidate (reason : Str) : CandidateTrace :=
    ⟨m.accountID, m.position, lit "candidate", reason⟩
  if !m.enabled then skipped (lit "member_disabled")
  else if exclude.contains m.accountID then skipped (lit "already_attempted")
  else match v.snap.accounts.get? m.accountID with
    | none => skipped (lit "missing_account")
    | some acc =>
      let decision := v.accountDecision acc opts
      if !decision.routable then skipped decision.reason
      else match v.accountModelMatch m.accountID model with
        | .explicitMatch => candidate (lit "model_explicit_match")
        | .unknown => candidate (lit "model_unknown")
        | .explicitMismatch => skipped (lit "model_explicit_mismatch")

/-- `ExplainCandidates`. -/
def explainCandidates (v : View) (model : Str) (poolID : Int) (exclude : List Int)
    (opts : ResolveOptions) : List CandidateTrace :=
  match v.enabledPool poolID with
  | none => []
  | some _ => (v.snap.membersOf poolID).map (v.candidateTrace model exclude opts)

end View

/-! ## What a resolution may return -/

/-- In the snapshot the pool is enabled and the account an enabled member of
it. -/
def EnabledMember (snap : CacheSnapshot) (poolID accountID : Int) : Prop :=
  (∃ pool, snap.pools.get? poolID = some pool ∧ pool.enabled = true) ∧
    ∃ m ∈ snap.membersOf poolID, m.accountID = accountID ∧ m.enabled = true

/-- A route that a resolution for `model` in the pool `poolID` may return: an
enabled member that is not excluded, with the account the snapshot has for it. -/
structure Admissible (snap : CacheSnapshot) (model : Str) (poolID : Int) (exclude : List Int)
    (route : ResolvedRoute) : Prop where
  pool : route.poolID = poolID
  model : route.targetModel = model
  member : ∃ m ∈ snap.membersOf poolID, m.accountID = route.accountID ∧ m.enabled = true
  fresh : route.accountID ∉ exclude
  account : snap.accounts.get? route.accountID = some route.account

namespace View

variable {v : View} {model : Str} {poolID : Int} {exclude : List Int} {opts : ResolveOptions}

theorem enabledPool_some {pool : Pool} (h : v.enabledPool poolID = some pool) :
    v.snap.pools.get? poolID = some pool ∧ pool.enabled = true := by
  obtain ⟨hget, henabled⟩ := Option.filter_eq_some_iff.mp h
  exact ⟨hget, henabled⟩

/-- A pass over some of the members of a pool takes one of them. -/
theorem scanMembers_admissible {wanted : Account → ModelMatch → Bool} {blocked : Bool}
    {members : List PoolMember} (hsub : ∀ m ∈ members, m ∈ v.snap.membersOf poolID)
    {route : ResolvedRoute}
    (h : (v.scanMembers model poolID exclude opts wanted blocked members).1 = some route) :
    Admissible v.snap model poolID exclude route := by
  induction members generalizing blocked with
  | nil => simp [scanMembers] at h
  | cons m members ih =>
    have hrest : ∀ m ∈ members, m ∈ v.snap.membersOf poolID := fun m' hm' =>
      hsub m' (List.mem_cons_of_mem m hm')
    rw [scanMembers] at h
    split at h
    · exact ih hrest h
    rename_i huse
    simp only [Bool.or_eq_true, Bool.not_eq_true', List.contains_iff_mem, not_or,
      Bool.not_eq_false] at huse
    split at h
    · exact ih hrest h
    rename_i acc hacc
    split at h
    · exact ih hrest h
    split at h
    · obtain rfl := Option.some.inj h
      exact ⟨rfl, rfl, ⟨m, hsub m List.mem_cons_self, rfl, huse.1⟩, huse.2, hacc⟩
    · exact ih hrest h

theorem pickOrdered_admissible {route : ResolvedRoute}
    (h : (v.pickOrdered (v.snap.membersOf poolID) model poolID exclude opts).1 = some route) :
    Admissible v.snap model poolID exclude route := by
  rw [pickOrdered] at h
  split at h
  next resolved blocked hscan =>
    obtain rfl := Option.some.inj h
    exact scanMembers_admissible (fun m hm => hm) (congrArg Prod.fst hscan)
  next blocked hscan => exact scanMembers_admissible (fun m hm => hm) h

theorem pickStaged_admissible {blocked : Bool} {stages : List Stage} {route : ResolvedRoute}
    (h : (v.pickStaged (v.snap.membersOf poolID) model poolID exclude opts blocked stages).1 =
      some route) :
    Admissible v.snap model poolID exclude route := by
  induction stages generalizing blocked with
  | nil => simp [pickStaged] at h
  | cons stage stages ih =>
    rw [pickStaged] at h
    split at h
    next resolved blocked' hpick =>
      obtain rfl := Option.some.inj h
      exact scanMembers_admissible (fun m hm => hm) (congrArg Prod.fst hpick)
    next blocked' hpick => exact ih h

theorem resolveInPool_ok {route : ResolvedRoute}
    (h : v.resolveInPool model poolID opts exclude = .ok route) :
    EnabledMember v.snap poolID route.accountID ∧
      Admissible v.snap model poolID exclude route := by
  rw [resolveInPool] at h
  split at h
  · contradiction
  next pool hpool =>
    dsimp only at h
    split at h
    · contradiction
    split at h
    next resolved blocked hpicked =>
      obtain rfl := Except.ok.inj h
      have hadm : Admissible v.snap model poolID exclude resolved := by
        split at hpicked
        · exact pickOrdered_admissible (congrArg Prod.fst hpicked)
        · exact pickStaged_admissible (congrArg Prod.fst hpicked)
      exact ⟨⟨⟨pool, enabledPool_some hpool⟩, hadm.member⟩, hadm⟩
    all_goals contradiction

theorem resolveToAccount_ok {accountID : Int} {route : ResolvedRoute}
    (h : v.resolveToAccount model poolID accountID opts = .ok route) :
    route.accountID = accountID ∧ EnabledMember v.snap poolID route.accountID ∧
      Admissible v.snap model poolID [] route := by
  rw [resolveToAccount] at h
  split at h
  · contradiction
  next pool hpool =>
    split at h
    · contradiction
    rename_i hmember
    simp only [Bool.not_eq_true', Bool.not_eq_false, List.any_eq_true, Bool.and_eq_true,
      beq_iff_eq] at hmember
    split at h
    · contradiction
    next acc hacc =>
      split at h
      · contradiction
      split at h
      · contradiction
      obtain rfl := Except.ok.inj h
      exact ⟨rfl, ⟨⟨pool, enabledPool_some hpool⟩, hmember⟩,
        ⟨rfl, rfl, hmember, List.not_mem_nil, hacc⟩⟩

/-- A first resolution stays in the pool of the token, and with the account that
was forced. -/
theorem resolveWithOptions_ok {tokenPoolID forceAccountID : Option Int} {route : ResolvedRoute}
    (h : v.resolveWithOptions model tokenPoolID forceAccountID opts = .ok route) :
    tokenPoolID = some route.poolID ∧ (∀ id ∈ forceAccountID, route.accountID = id) ∧
      EnabledMember v.snap route.poolID route.accountID ∧
      Admissible v.snap model route.poolID [] route := by
  unfold resolveWithOptions at h
  split at h
  · contradiction
  next poolID accountID =>
    obtain ⟨hid, hmember, hadm⟩ := resolveToAccount_ok h
    obtain rfl := hadm.pool
    exact ⟨rfl, by simpa using hid, hmember, hadm⟩
  next poolID =>
    obtain ⟨hmember, hadm⟩ := resolveInPool_ok h
    obtain rfl := hadm.pool
    exact ⟨rfl, by simp, hmember, hadm⟩

/-- A retry stays in the pool of the token and avoids the accounts tried. -/
theorem selectNextAccount_ok {tokenPoolID : Option Int} {route : ResolvedRoute}
    (h : v.selectNextAccount model tokenPoolID exclude = .ok route) :
    tokenPoolID = some route.poolID ∧ EnabledMember v.snap route.poolID route.accountID ∧
      Admissible v.snap model route.poolID exclude route := by
  unfold selectNextAccount at h
  split at h
  · contradiction
  next poolID =>
    obtain ⟨hmember, hadm⟩ := resolveInPool_ok h
    obtain rfl := hadm.pool
    exact ⟨rfl, hmember, hadm⟩

end View

end Lune.Router
