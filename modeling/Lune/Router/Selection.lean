import Lune.Lib.StagedScan
import Lune.Router.Resolve
import Mathlib.Data.Prod.Lex

/-!
# Which member a resolution picks

The scans of `resolveInPool` as one choice among the members that it may use, and the order
in which that choice is the least.
-/

namespace Lune.Store

open GoText Keyed

/-! ## The members of a snapshot -/

instance : Std.Total memberLe where
  total m n := by
    unfold memberLe
    omega

instance : IsTrans PoolMember memberLe where
  trans m n o h h' := by
    unfold memberLe at *
    omega

/-- A load leaves the members of each pool in order. -/
theorem membersOf_loadFromDB_pairwise (reads : TableReads) (poolID : Int) :
    ((loadFromDB reads).membersOf poolID).Pairwise memberLe := by
  simp only [CacheSnapshot.membersOf, loadFromDB, loadMembers, GoMap.get?_mapValues]
  generalize GoMap.get? _ poolID = found
  cases found with
  | none => exact List.Pairwise.nil
  | some members => exact List.pairwise_insertionSort memberLe members

/-! ## Penalties -/

theorem evaluateCpaRoutability_penalty (acc : Account) (opts : RoutabilityOptions) :
    0 ≤ (evaluateCpaRoutability acc opts).penalty ∧ (evaluateCpaRoutability acc opts).penalty ≤ 2 := by
  unfold evaluateCpaRoutability
  dsimp only
  repeat' split
  all_goals simp [blocked, routableDecision]

theorem evaluateDiagnosticRoutability_penalty (acc : Account) :
    0 ≤ (evaluateDiagnosticRoutability acc).penalty ∧
      (evaluateDiagnosticRoutability acc).penalty ≤ 1 := by
  unfold evaluateDiagnosticRoutability
  dsimp only
  repeat' split
  all_goals simp [blocked, routableDecision]

/-- A diagnostic resolution does not ask for the diagnostic row of the account. -/
theorem exists_diagnosticDecision {P : RoutabilityDecision → Prop} {acc : Account} (diagnostic : Bool)
    (hroutable : P routableDecision) (hdecision : P (evaluateDiagnosticRoutability acc)) :
    ∃ d, (if diagnostic then routableDecision else evaluateDiagnosticRoutability acc) = d ∧ P d := by
  refine ⟨_, rfl, ?_⟩
  split
  · exact hroutable
  · exact hdecision

/-- The penalties stay below the ceiling of the last stage. -/
theorem evaluateAccountRoutability_penalty (clock : Clock) (acc : Option Account)
    (opts : RoutabilityOptions) :
    0 ≤ (evaluateAccountRoutability clock acc opts).penalty ∧
      (evaluateAccountRoutability clock acc opts).penalty ≤ 3 := by
  cases acc with
  | none => simp [evaluateAccountRoutability, blocked]
  | some acc =>
    have hcpa := evaluateCpaRoutability_penalty acc opts
    obtain ⟨d, hd, hdiagnostic⟩ := exists_diagnosticDecision opts.diagnostic
      (P := fun d => 0 ≤ d.penalty ∧ d.penalty ≤ 1) ⟨le_rfl, zero_le_one⟩
      (evaluateDiagnosticRoutability_penalty acc)
    have hblocked : ∀ reason, (blocked reason).penalty = 0 := fun _ => rfl
    unfold evaluateAccountRoutability
    simp only [hd]
    repeat' split
    all_goals try simp only [hblocked]
    all_goals omega

end Lune.Store

namespace Lune.Router

open GoText Keyed Lune.Store StagedScan

/-! ## The scans as a choice -/

namespace View

section Scan

variable (v : View) (model : Str) (exclude : List Int) (opts : ResolveOptions)

/-- The account of a member, when a resolution may use it whatever it lists. -/
def usable (m : PoolMember) : Option Account :=
  if !m.enabled || exclude.contains m.accountID then none
  else (v.snap.accounts.get? m.accountID).filter fun acc => v.accountRoutable acc opts

/-- A scan for accounts that are `wanted` takes the member. -/
def accepts (wanted : Account → ModelMatch → Bool) (m : PoolMember) : Bool :=
  (v.usable exclude opts m).any fun acc => wanted acc (v.accountModelMatch m.accountID model)

/-- A scan that passes the member notes that its binding keeps it out. -/
def bindingNoted (m : PoolMember) : Bool :=
  m.enabled && !exclude.contains m.accountID &&
    (v.snap.accounts.get? m.accountID).any fun acc =>
      !v.accountRoutable acc opts && v.accountBlockedByRuntimeBinding acc

/-- The route to a member. -/
def routeTo (poolID : Int) (m : PoolMember) : Option ResolvedRoute :=
  (v.usable exclude opts m).map fun acc => ⟨poolID, model, m.accountID, acc⟩

variable {v model exclude opts} {poolID : Int} {wanted : Account → ModelMatch → Bool}
  {blocked : Bool} {members : List PoolMember}

theorem accepts_of_not_usable {m : PoolMember} (h : v.usable exclude opts m = none) :
    v.accepts model exclude opts wanted m = false := by
  rw [accepts, h]
  rfl

theorem accepts_of_usable {m : PoolMember} {acc : Account}
    (h : v.usable exclude opts m = some acc) :
    v.accepts model exclude opts wanted m =
      wanted acc (v.accountModelMatch m.accountID model) := by
  rw [accepts, h]
  rfl

/-- A scan takes the first member that it accepts, and until then notes bindings. -/
theorem scanMembers_eq :
    (v.scanMembers model poolID exclude opts wanted blocked members).1 =
        (members.find? (v.accepts model exclude opts wanted)).bind
          (v.routeTo model exclude opts poolID) ∧
      (members.find? (v.accepts model exclude opts wanted) = none →
        (v.scanMembers model poolID exclude opts wanted blocked members).2 =
          (blocked || members.any (v.bindingNoted exclude opts))) := by
  induction members generalizing blocked with
  | nil => exact ⟨rfl, fun _ => (Bool.or_false blocked).symm⟩
  | cons m members ih =>
    rw [scanMembers, List.find?_cons, List.any_cons]
    by_cases hout : (!m.enabled || exclude.contains m.accountID) = true
    · have huse : v.usable exclude opts m = none := if_pos hout
      have hnote : v.bindingNoted exclude opts m = false := by
        rw [bindingNoted, ← Bool.not_not m.enabled, ← Bool.not_or, hout]
        rfl
      rw [if_pos hout, accepts_of_not_usable huse, hnote, Bool.false_or]
      exact ih
    · have hin : (m.enabled && !exclude.contains m.accountID) = true := by
        rw [← Bool.not_not m.enabled, ← Bool.not_or, Bool.eq_false_iff.mpr hout]
        rfl
      rw [if_neg hout]
      cases hacc : v.snap.accounts.get? m.accountID with
      | none =>
        have huse : v.usable exclude opts m = none := by
          rw [usable, if_neg hout, hacc]
          rfl
        have hnote : v.bindingNoted exclude opts m = false := by
          rw [bindingNoted, hacc]
          exact Bool.and_false _
        rw [accepts_of_not_usable huse, hnote, Bool.false_or]
        exact ih
      | some acc =>
        dsimp only
        have hnote : v.bindingNoted exclude opts m =
            (!v.accountRoutable acc opts && v.accountBlockedByRuntimeBinding acc) := by
          rw [bindingNoted, hin, hacc]
          rfl
        cases hroutable : v.accountRoutable acc opts with
        | false =>
          have huse : v.usable exclude opts m = none := by
            rw [usable, if_neg hout, hacc, Option.filter_some, hroutable]
            rfl
          rw [hroutable] at hnote
          rw [accepts_of_not_usable huse, hnote, ← Bool.or_assoc]
          exact ih
        | true =>
          have huse : v.usable exclude opts m = some acc := by
            rw [usable, if_neg hout, hacc, Option.filter_some, hroutable]
            rfl
          rw [hroutable] at hnote
          rw [accepts_of_usable huse, hnote]
          cases wanted acc (v.accountModelMatch m.accountID model) with
          | true =>
            refine ⟨?_, fun hnone => absurd hnone (Option.some_ne_none _)⟩
            show some _ = v.routeTo model exclude opts poolID m
            rw [routeTo, huse]
            rfl
          | false => exact ih

theorem exists_routeTo {m : PoolMember} (h : v.accepts model exclude opts wanted m = true)
    (poolID : Int) : ∃ route, v.routeTo model exclude opts poolID m = some route := by
  obtain ⟨acc, hacc, -⟩ := (Option.any_eq_true _ _).mp h
  exact ⟨_, congrArg (Option.map _) hacc⟩

theorem scanMembers_of_none (h : members.find? (v.accepts model exclude opts wanted) = none) :
    v.scanMembers model poolID exclude opts wanted blocked members =
      (none, blocked || members.any (v.bindingNoted exclude opts)) :=
  Prod.ext (scanMembers_eq.1.trans (congrArg (Option.bind · _) h)) (scanMembers_eq.2 h)

theorem scanMembers_of_some {m : PoolMember}
    (h : members.find? (v.accepts model exclude opts wanted) = some m) :
    ∃ blocked' route, v.routeTo model exclude opts poolID m = some route ∧
      v.scanMembers model poolID exclude opts wanted blocked members = (some route, blocked') := by
  obtain ⟨route, hroute⟩ := exists_routeTo (List.find?_some h) poolID
  refine ⟨_, route, hroute, Prod.ext ?_ rfl⟩
  exact scanMembers_eq.1.trans ((congrArg (Option.bind · _) h).trans hroute)

/-! ## The policies -/

/-- What a stage of the health-first choice wants. -/
def stageWanted (v : View) (opts : ResolveOptions) (stage : Stage) (acc : Account)
    (found : ModelMatch) : Bool :=
  (v.accountDecision acc opts).penalty ≤ stage.maxPenalty &&
    found = if stage.requireModel then .explicitMatch else .unknown

/-- What the scans of a policy want, one after the other. -/
def wantedBy (v : View) (opts : ResolveOptions) (ordered : Bool) :
    List (Account → ModelMatch → Bool) :=
  if ordered then [fun _ found => found = .explicitMatch, fun _ found => found = .unknown]
  else stages.map (v.stageWanted opts)

/-- The choice of a resolution among the members. -/
def chosen (v : View) (model : Str) (exclude : List Int) (opts : ResolveOptions) (ordered : Bool)
    (members : List PoolMember) : Option PoolMember :=
  pick members ((v.wantedBy opts ordered).map (v.accepts model exclude opts))

/-- The scans of a policy. -/
def picked (v : View) (model : Str) (poolID : Int) (exclude : List Int) (opts : ResolveOptions)
    (ordered : Bool) (members : List PoolMember) : Option ResolvedRoute × Bool :=
  if ordered then v.pickOrdered members model poolID exclude opts
  else v.pickStaged members model poolID exclude opts false stages

theorem pickStaged_of_some {stages : List Stage} {m : PoolMember}
    (h : pick members (stages.map fun stage => v.accepts model exclude opts
      (v.stageWanted opts stage)) = some m) :
    ∃ blocked' route, v.routeTo model exclude opts poolID m = some route ∧
      v.pickStaged members model poolID exclude opts blocked stages = (some route, blocked') := by
  induction stages generalizing blocked with
  | nil => contradiction
  | cons stage rest ih =>
    rw [List.map_cons, pick] at h
    rw [pickStaged]
    cases hfind : members.find? (v.accepts model exclude opts (v.stageWanted opts stage)) with
    | some m' =>
      rw [hfind, Option.some_or] at h
      obtain rfl := Option.some.inj h
      obtain ⟨blocked', route, hroute, hscan⟩ := scanMembers_of_some hfind
      have hpick : v.pickFromMembers members model poolID exclude stage opts =
        (some route, blocked') := hscan
      rw [hpick]
      exact ⟨_, route, hroute, rfl⟩
    | none =>
      rw [hfind, Option.none_or] at h
      have hpick : v.pickFromMembers members model poolID exclude stage opts =
        (none, false || members.any (v.bindingNoted exclude opts)) := scanMembers_of_none hfind
      rw [hpick]
      exact ih h

theorem pickStaged_of_none {stages : List Stage}
    (h : pick members (stages.map fun stage => v.accepts model exclude opts
      (v.stageWanted opts stage)) = none) (hstages : stages ≠ []) :
    v.pickStaged members model poolID exclude opts blocked stages =
      (none, blocked || members.any (v.bindingNoted exclude opts)) := by
  induction stages generalizing blocked with
  | nil => exact absurd rfl hstages
  | cons stage rest ih =>
    rw [List.map_cons, pick, Option.or_eq_none_iff] at h
    have hpick : v.pickFromMembers members model poolID exclude stage opts =
      (none, false || members.any (v.bindingNoted exclude opts)) := scanMembers_of_none h.1
    rw [pickStaged, hpick, Bool.false_or]
    cases rest with
    | nil => rfl
    | cons next rest =>
      dsimp only
      rw [ih h.2 (List.cons_ne_nil _ _), Bool.or_assoc, Bool.or_self]

/-- A resolution takes the route to the chosen member. -/
theorem picked_of_some {ordered : Bool} {m : PoolMember}
    (h : v.chosen model exclude opts ordered members = some m) :
    ∃ blocked route, v.routeTo model exclude opts poolID m = some route ∧
      v.picked model poolID exclude opts ordered members = (some route, blocked) := by
  cases ordered with
  | false =>
    rw [chosen, wantedBy, if_neg Bool.false_ne_true, List.map_map] at h
    exact pickStaged_of_some h
  | true =>
    rw [chosen, wantedBy, if_pos rfl, List.map_cons, pick] at h
    rw [picked, if_pos rfl, pickOrdered]
    cases hfind : members.find? (v.accepts model exclude opts fun _ found =>
        found = .explicitMatch) with
    | some m' =>
      rw [hfind, Option.some_or] at h
      obtain rfl := Option.some.inj h
      obtain ⟨blocked, route, hroute, hscan⟩ := scanMembers_of_some hfind
      rw [hscan]
      exact ⟨blocked, route, hroute, rfl⟩
    | none =>
      rw [hfind, Option.none_or, List.map_cons, pick, List.map_nil, pick, Option.or_none] at h
      rw [scanMembers_of_none hfind]
      exact scanMembers_of_some h

/-- Without a choice, a resolution has noted every binding that keeps a member out. -/
theorem picked_of_none {ordered : Bool}
    (h : v.chosen model exclude opts ordered members = none) :
    v.picked model poolID exclude opts ordered members =
      (none, members.any (v.bindingNoted exclude opts)) := by
  cases ordered with
  | false =>
    rw [chosen, wantedBy, if_neg Bool.false_ne_true, List.map_map] at h
    rw [picked, if_neg Bool.false_ne_true, pickStaged_of_none h (List.cons_ne_nil _ _),
      Bool.false_or]
  | true =>
    rw [chosen, wantedBy, if_pos rfl, List.map_cons, pick, Option.or_eq_none_iff, List.map_cons,
      pick, Option.or_eq_none_iff] at h
    rw [picked, if_pos rfl, pickOrdered, scanMembers_of_none h.1]
    dsimp only
    rw [scanMembers_of_none h.2.1, Bool.false_or, Bool.or_self]

/-- The policy of the pool takes its members in order. -/
def orderedPolicy (pool : Pool) : Bool :=
  Database.normalizeRoutingPolicy pool.routingPolicy = lit "ordered"

theorem resolveInPool_eq {pool : Pool} (hpool : v.enabledPool poolID = some pool) :
    v.resolveInPool model poolID opts exclude =
      match v.picked model poolID exclude opts (orderedPolicy pool) (v.snap.membersOf poolID) with
      | (some resolved, _) => .ok resolved
      | (none, true) => .error .runtimeBinding
      | (none, false) => .error .noHealthyAccount := by
  rw [resolveInPool, hpool]
  dsimp only
  by_cases hempty : v.snap.membersOf poolID = []
  · have hnone : v.chosen model exclude opts (orderedPolicy pool) [] = none := by
      rw [chosen]
      exact pick_eq_none_iff.mpr fun b hb => absurd hb List.not_mem_nil
    rw [if_pos hempty, hempty]
    simp only [picked_of_none hnone, List.any_nil]
  · rw [if_neg hempty, picked, orderedPolicy]
    simp only [decide_eq_true_eq]
    all_goals rfl

/-- What a resolution chooses, it returns. -/
theorem resolveInPool_of_some {pool : Pool} {m : PoolMember}
    (hpool : v.enabledPool poolID = some pool)
    (h : v.chosen model exclude opts (orderedPolicy pool) (v.snap.membersOf poolID) = some m) :
    ∃ route, v.routeTo model exclude opts poolID m = some route ∧
      v.resolveInPool model poolID opts exclude = .ok route := by
  obtain ⟨blocked, route, hroute, hpicked⟩ := picked_of_some h
  refine ⟨route, hroute, ?_⟩
  rw [resolveInPool_eq hpool, hpicked]

/-- The reason that a resolution gives when it has no choice. -/
theorem resolveInPool_of_none {pool : Pool} (hpool : v.enabledPool poolID = some pool)
    (h : v.chosen model exclude opts (orderedPolicy pool) (v.snap.membersOf poolID) = none) :
    v.resolveInPool model poolID opts exclude =
      .error (if (v.snap.membersOf poolID).any (v.bindingNoted exclude opts) then .runtimeBinding
        else .noHealthyAccount) := by
  rw [resolveInPool_eq hpool, picked_of_none h]
  cases (v.snap.membersOf poolID).any (v.bindingNoted exclude opts) <;> rfl

/-! ## Ranks -/

variable (v model exclude opts) in
/-- A member that a resolution may return: enabled, not excluded, with a routable account that
does not list other models only. -/
structure Eligible (m : PoolMember) (acc : Account) : Prop where
  enabled : m.enabled = true
  fresh : m.accountID ∉ exclude
  account : v.snap.accounts.get? m.accountID = some acc
  routable : v.accountRoutable acc opts = true
  model : v.accountModelMatch m.accountID model ≠ .explicitMismatch

theorem usable_eq_some_iff {m : PoolMember} {acc : Account} :
    v.usable exclude opts m = some acc ↔
      m.enabled = true ∧ m.accountID ∉ exclude ∧ v.snap.accounts.get? m.accountID = some acc ∧
        v.accountRoutable acc opts = true := by
  rw [usable]
  split
  next hout =>
    refine iff_of_false (Option.some_ne_none acc).symm ?_
    rintro ⟨henabled, hfresh, -⟩
    rw [henabled, Bool.not_true, Bool.false_or, List.contains_iff_mem] at hout
    exact hfresh hout
  next hin =>
    simp only [Bool.or_eq_true, Bool.not_eq_true', List.contains_iff_mem, not_or,
      Bool.not_eq_false] at hin
    rw [Option.filter_eq_some_iff]
    exact ⟨fun h => ⟨hin.1, hin.2, h⟩, fun h => h.2.2⟩

/-- A model that is listed goes before one that may be there. -/
def modelRank : ModelMatch → Nat
  | .explicitMatch => 0
  | .unknown => 1
  | .explicitMismatch => 2

/-- No penalty goes before one, and that before more. -/
def penaltyRank (penalty : Int) : Nat := (min penalty 2).toNat

variable (v model opts) in
/-- By what a policy compares the members: by what their accounts list, then, unless it takes
them in order, by their penalties, and then by their places. -/
def selectionKey (ordered : Bool) (m : PoolMember) (acc : Account) : ℕ ×ₗ ℕ ×ₗ ℤ ×ₗ ℤ :=
  toLex (modelRank (v.accountModelMatch m.accountID model),
    toLex (if ordered then 0 else penaltyRank (v.accountDecision acc opts).penalty,
      toLex (m.position, m.id)))

variable (v model exclude opts) in
/-- The number of scans that pass a member before one takes it. -/
def scanRank (ordered : Bool) (m : PoolMember) : Nat :=
  rank ((v.wantedBy opts ordered).map (v.accepts model exclude opts)) m

theorem scanRank_of_usable {ordered : Bool} {m : PoolMember} {acc : Account}
    (h : v.usable exclude opts m = some acc) :
    v.scanRank model exclude opts ordered m =
      match v.accountModelMatch m.accountID model, ordered with
      | found, true => modelRank found
      | .explicitMismatch, false => 6
      | found, false =>
        3 * modelRank found + penaltyRank (v.accountDecision acc opts).penalty := by
  obtain ⟨hzero, hthree⟩ := evaluateAccountRoutability_penalty v.clock (some acc)
    { diagnostic := opts.diagnostic
      cpaRuntimeBindingSupported := v.options.cpaRuntimeBindingSupported }
  change 0 ≤ (v.accountDecision acc opts).penalty at hzero
  change (v.accountDecision acc opts).penalty ≤ 3 at hthree
  rw [scanRank, rank]
  cases ordered with
  | true =>
    simp only [wantedBy, if_true, List.map_cons, List.map_nil, List.findIdx_cons, List.findIdx_nil,
      accepts_of_usable h]
    cases v.accountModelMatch m.accountID model <;> rfl
  | false =>
    simp only [wantedBy, Bool.false_eq_true, if_false, stages, List.map_cons, List.map_nil,
      List.findIdx_cons, List.findIdx_nil, accepts_of_usable h, stageWanted]
    generalize (v.accountDecision acc opts).penalty = penalty at *
    obtain rfl | rfl | rfl | rfl : penalty = 0 ∨ penalty = 1 ∨ penalty = 2 ∨ penalty = 3 := by omega
    all_goals cases v.accountModelMatch m.accountID model <;> rfl

theorem scanRank_of_not_usable {ordered : Bool} {m : PoolMember}
    (h : v.usable exclude opts m = none) :
    v.scanRank model exclude opts ordered m = (v.wantedBy opts ordered).length := by
  rw [scanRank, rank, List.findIdx_eq_length_of_false, List.length_map]
  intro stage hstage
  obtain ⟨wanted, -, rfl⟩ := List.mem_map.mp hstage
  exact accepts_of_not_usable h

/-- The members that some scan takes are the eligible ones. -/
theorem scanRank_lt_iff {ordered : Bool} {m : PoolMember} :
    v.scanRank model exclude opts ordered m < (v.wantedBy opts ordered).length ↔
      ∃ acc, v.Eligible model exclude opts m acc := by
  have hlength : (v.wantedBy opts ordered).length = if ordered then 2 else 6 := by
    cases ordered <;> rfl
  cases huse : v.usable exclude opts m with
  | none =>
    rw [scanRank_of_not_usable huse]
    refine iff_of_false (Nat.lt_irrefl _) ?_
    rintro ⟨acc, h⟩
    have hsome := usable_eq_some_iff.mpr ⟨h.enabled, h.fresh, h.account, h.routable⟩
    rw [huse] at hsome
    contradiction
  | some acc =>
    obtain ⟨henabled, hfresh, hacc, hroutable⟩ := usable_eq_some_iff.mp huse
    have heligible : (∃ acc, v.Eligible model exclude opts m acc) ↔
        v.accountModelMatch m.accountID model ≠ .explicitMismatch :=
      ⟨fun ⟨_, h⟩ => h.model, fun h => ⟨acc, henabled, hfresh, hacc, hroutable, h⟩⟩
    have hpenalty : penaltyRank (v.accountDecision acc opts).penalty ≤ 2 := by
      unfold penaltyRank
      omega
    rw [heligible, scanRank_of_usable huse, hlength]
    cases ordered with
    | true => cases v.accountModelMatch m.accountID model <;> simp [modelRank]
    | false =>
      cases v.accountModelMatch m.accountID model with
      | explicitMatch | unknown =>
        refine iff_of_true ?_ ModelMatch.noConfusion
        simp only [modelRank, Bool.false_eq_true, if_false]
        omega
      | explicitMismatch => simp

theorem penaltyRank_le (penalty : Int) : penaltyRank penalty ≤ 2 := by
  unfold penaltyRank
  omega

/-- The rank of a member that may be returned, with what its account lists before its penalty. -/
theorem scanRank_of_eligible (ordered : Bool) {m : PoolMember} {acc : Account}
    (h : v.Eligible model exclude opts m acc) :
    modelRank (v.accountModelMatch m.accountID model) ≤ 1 ∧
      v.scanRank model exclude opts ordered m =
        if ordered then modelRank (v.accountModelMatch m.accountID model)
        else 3 * modelRank (v.accountModelMatch m.accountID model) +
          penaltyRank (v.accountDecision acc opts).penalty := by
  have hmodel := h.model
  rw [scanRank_of_usable (usable_eq_some_iff.mpr ⟨h.enabled, h.fresh, h.account, h.routable⟩)]
  cases hfound : v.accountModelMatch m.accountID model with
  | explicitMatch | unknown => cases ordered <;> exact ⟨by decide, rfl⟩
  | explicitMismatch => exact absurd hfound hmodel

/-- A member that is scanned out before another, or with it and at an earlier place, has the
lesser key. -/
theorem selectionKey_le {ordered : Bool} {m m' : PoolMember} {acc acc' : Account}
    (h : v.Eligible model exclude opts m acc) (h' : v.Eligible model exclude opts m' acc')
    (hle : v.scanRank model exclude opts ordered m < v.scanRank model exclude opts ordered m' ∨
      v.scanRank model exclude opts ordered m = v.scanRank model exclude opts ordered m' ∧
        (m = m' ∨ memberLe m m')) :
    v.selectionKey model opts ordered m acc ≤ v.selectionKey model opts ordered m' acc' := by
  have hplace : m = m' ∨ memberLe m m' → m.position < m'.position ∨
      m.position = m'.position ∧ m.id ≤ m'.id := by
    rintro (rfl | hle)
    · exact Or.inr ⟨rfl, le_rfl⟩
    · exact hle
  obtain ⟨hmodel, hrank⟩ := scanRank_of_eligible ordered h
  obtain ⟨hmodel', hrank'⟩ := scanRank_of_eligible ordered h'
  have hpenalty := penaltyRank_le (v.accountDecision acc opts).penalty
  have hpenalty' := penaltyRank_le (v.accountDecision acc' opts).penalty
  rw [hrank, hrank'] at hle
  have hle := hle.imp_right fun hle => And.intro hle.1 (hplace hle.2)
  unfold selectionKey
  simp only [Prod.Lex.toLex_le_toLex]
  cases ordered with
  | true =>
    simp only [if_true, lt_irrefl, true_and, false_or] at hle ⊢
    omega
  | false =>
    simp only [Bool.false_eq_true, if_false] at hle ⊢
    omega

/-! ## The choice -/

theorem chosen_eq_none_iff {ordered : Bool} :
    v.chosen model exclude opts ordered members = none ↔
      ¬∃ m ∈ members, ∃ acc, v.Eligible model exclude opts m acc := by
  rw [chosen, pick_eq_none_iff, List.length_map]
  constructor
  · rintro h ⟨m, hm, heligible⟩
    exact Nat.ne_of_lt (scanRank_lt_iff.mpr heligible) (h m hm)
  · intro h m hm
    have hnot : ¬v.scanRank model exclude opts ordered m < (v.wantedBy opts ordered).length :=
      fun hlt => h ⟨m, hm, scanRank_lt_iff.mp hlt⟩
    have hle : v.scanRank model exclude opts ordered m ≤ (v.wantedBy opts ordered).length :=
      List.findIdx_le_length.trans_eq (List.length_map _)
    exact Nat.le_antisymm hle (not_lt.mp hnot)

/-- The member chosen is an eligible one. -/
theorem chosen_eligible {ordered : Bool} {m : PoolMember}
    (h : v.chosen model exclude opts ordered members = some m) :
    m ∈ members ∧ ∃ acc, v.Eligible model exclude opts m acc := by
  have hany : members.Pairwise fun _ _ => True := List.pairwise_of_forall fun _ _ => trivial
  obtain ⟨hm, hlt, -⟩ := pick_least hany h
  rw [List.length_map] at hlt
  exact ⟨hm, scanRank_lt_iff.mp hlt⟩

/-- A resolution that succeeds returns the route to the member that it chose. -/
theorem of_resolveInPool_ok {route : ResolvedRoute}
    (h : v.resolveInPool model poolID opts exclude = .ok route) :
    ∃ pool m acc, v.enabledPool poolID = some pool ∧
      v.chosen model exclude opts (orderedPolicy pool) (v.snap.membersOf poolID) = some m ∧
      v.Eligible model exclude opts m acc ∧ route = ⟨poolID, model, m.accountID, acc⟩ := by
  cases hpool : v.enabledPool poolID with
  | none =>
    rw [resolveInPool, hpool] at h
    contradiction
  | some pool =>
    cases hchosen : v.chosen model exclude opts (orderedPolicy pool) (v.snap.membersOf poolID) with
    | none =>
      rw [resolveInPool_of_none hpool hchosen] at h
      contradiction
    | some m =>
      obtain ⟨route', hroute, hresolve⟩ := resolveInPool_of_some hpool hchosen
      obtain rfl := Except.ok.inj (hresolve.symm.trans h)
      obtain ⟨acc, huse, rfl⟩ := Option.map_eq_some_iff.mp hroute
      obtain ⟨-, acc', heligible⟩ := chosen_eligible hchosen
      have hacc := (usable_eq_some_iff.mp huse).2.2.1
      obtain rfl : acc' = acc := Option.some.inj (heligible.account.symm.trans hacc)
      exact ⟨pool, m, acc', rfl, hchosen, heligible, rfl⟩

/-- A resolution succeeds exactly when its pool is enabled and has an eligible member. -/
theorem resolveInPool_ok_iff :
    (∃ route, v.resolveInPool model poolID opts exclude = .ok route) ↔
      (∃ pool, v.enabledPool poolID = some pool) ∧
        ∃ m ∈ v.snap.membersOf poolID, ∃ acc, v.Eligible model exclude opts m acc := by
  constructor
  · rintro ⟨route, h⟩
    obtain ⟨pool, m, acc, hpool, hchosen, heligible, -⟩ := of_resolveInPool_ok h
    exact ⟨⟨pool, hpool⟩, m, (chosen_eligible hchosen).1, acc, heligible⟩
  · rintro ⟨⟨pool, hpool⟩, heligible⟩
    cases hchosen : v.chosen model exclude opts (orderedPolicy pool) (v.snap.membersOf poolID) with
    | none => exact absurd heligible (chosen_eq_none_iff.mp hchosen)
    | some m =>
      obtain ⟨route, -, hresolve⟩ := resolveInPool_of_some hpool hchosen
      exact ⟨route, hresolve⟩

end Scan

end View

/-- A resolution in a pool of a loaded snapshot returns a route exactly when the pool is enabled
and has an eligible member, and then it is the route to one that is the least by the policy of
the pool. -/
theorem resolution_least (reads : TableReads) (options : Options) (clock : Clock) (model : Str)
    (poolID : Int) (opts : ResolveOptions) (exclude : List Int) :
    let v : View := ⟨options, loadFromDB reads, clock⟩
    ((∃ route, v.resolveInPool model poolID opts exclude = .ok route) ↔
      (∃ pool, v.enabledPool poolID = some pool) ∧
        ∃ m ∈ v.snap.membersOf poolID, ∃ acc, v.Eligible model exclude opts m acc) ∧
    ∀ route, v.resolveInPool model poolID opts exclude = .ok route →
      ∃ pool m acc, v.enabledPool poolID = some pool ∧ m ∈ v.snap.membersOf poolID ∧
        v.Eligible model exclude opts m acc ∧ route = ⟨poolID, model, m.accountID, acc⟩ ∧
        ∀ m' ∈ v.snap.membersOf poolID, ∀ acc', v.Eligible model exclude opts m' acc' →
          v.selectionKey model opts (View.orderedPolicy pool) m acc ≤
            v.selectionKey model opts (View.orderedPolicy pool) m' acc' := by
  intro v
  have hsorted : (v.snap.membersOf poolID).Pairwise memberLe :=
    membersOf_loadFromDB_pairwise reads poolID
  refine ⟨View.resolveInPool_ok_iff, fun route hroute => ?_⟩
  obtain ⟨pool, m, acc, hpool, hchosen, heligible, rfl⟩ := View.of_resolveInPool_ok hroute
  obtain ⟨hm, -, hleast⟩ := pick_least hsorted hchosen
  refine ⟨pool, m, acc, hpool, hm, heligible, rfl, fun m' hm' acc' heligible' => ?_⟩
  exact View.selectionKey_le heligible heligible' (hleast m' hm')

end Lune.Router
