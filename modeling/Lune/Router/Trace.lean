import Lune.Router.Selection

/-!
# What the trace of a route says

`ExplainCandidates` next to `resolveInPool`: the entries that it calls candidates are those
of the eligible members.
-/

namespace Lune.Router

open GoText Keyed Lune.Store

namespace View

variable {v : View} {model : Str} {poolID : Int} {exclude : List Int} {opts : ResolveOptions}

/-- The entry of a member names its account. -/
theorem candidateTrace_accountID (m : PoolMember) :
    (v.candidateTrace model exclude opts m).accountID = m.accountID := by
  unfold candidateTrace
  dsimp only
  repeat' split
  all_goals rfl

/-- An entry is that of a candidate when its member is eligible, and is skipped otherwise. -/
theorem candidateTrace_outcome (m : PoolMember) :
    ((∃ acc, v.Eligible model exclude opts m acc) ∧
        (v.candidateTrace model exclude opts m).outcome = lit "candidate") ∨
      ((¬∃ acc, v.Eligible model exclude opts m acc) ∧
        (v.candidateTrace model exclude opts m).outcome = lit "skipped") := by
  unfold candidateTrace
  dsimp only
  split
  next hdisabled =>
    refine Or.inr ⟨?_, rfl⟩
    rintro ⟨acc, h⟩
    rw [h.enabled] at hdisabled
    contradiction
  next henabled =>
    rw [Bool.not_eq_true', Bool.not_eq_false] at henabled
    split
    next hexcluded =>
      refine Or.inr ⟨?_, rfl⟩
      rintro ⟨acc, h⟩
      exact h.fresh (List.contains_iff_mem.mp hexcluded)
    next hfresh =>
      rw [List.contains_iff_mem] at hfresh
      split
      next hmissing =>
        refine Or.inr ⟨?_, rfl⟩
        rintro ⟨acc, h⟩
        rw [h.account] at hmissing
        contradiction
      next acc hacc =>
        have hsame : ∀ {acc'}, v.Eligible model exclude opts m acc' → acc' = acc :=
          fun h => Option.some.inj (h.account.symm.trans hacc)
        split
        next hblocked =>
          refine Or.inr ⟨?_, rfl⟩
          rintro ⟨acc', h⟩
          have hroutable := h.routable
          rw [hsame h, accountRoutable] at hroutable
          rw [hroutable] at hblocked
          contradiction
        next hroutable =>
          rw [Bool.not_eq_true', Bool.not_eq_false] at hroutable
          split
          next hmatch =>
            refine Or.inl ⟨⟨acc, henabled, hfresh, hacc, hroutable, ?_⟩, rfl⟩
            rw [hmatch]
            exact ModelMatch.noConfusion
          next hmatch =>
            refine Or.inl ⟨⟨acc, henabled, hfresh, hacc, hroutable, ?_⟩, rfl⟩
            rw [hmatch]
            exact ModelMatch.noConfusion
          next hmatch =>
            refine Or.inr ⟨?_, rfl⟩
            rintro ⟨acc', h⟩
            exact h.model hmatch

theorem candidate_iff (m : PoolMember) :
    (v.candidateTrace model exclude opts m).outcome = lit "candidate" ↔
      ∃ acc, v.Eligible model exclude opts m acc := by
  rcases candidateTrace_outcome m with ⟨heligible, houtcome⟩ | ⟨hnot, houtcome⟩
  · exact iff_of_true houtcome heligible
  · rw [houtcome]
    exact iff_of_false (by decide) hnot

end View

/-- A resolution in a pool finds an account exactly when the trace names a candidate, the account
that it finds is that of a candidate, and, as no account is twice in a pool, not that of an
entry that was skipped. -/
theorem trace_truthful (v : View) (model : Str) (poolID : Int) (exclude : List Int)
    (opts : ResolveOptions) :
    ((∃ route, v.resolveInPool model poolID opts exclude = .ok route) ↔
      ∃ entry ∈ v.explainCandidates model poolID exclude opts, entry.outcome = lit "candidate") ∧
    (∀ route, v.resolveInPool model poolID opts exclude = .ok route →
      ∃ entry ∈ v.explainCandidates model poolID exclude opts,
        entry.outcome = lit "candidate" ∧ entry.accountID = route.accountID) ∧
    (((v.snap.membersOf poolID).map fun m => m.accountID).Nodup →
      ∀ entry ∈ v.explainCandidates model poolID exclude opts, entry.outcome = lit "skipped" →
        ∀ route, v.resolveInPool model poolID opts exclude = .ok route →
          route.accountID ≠ entry.accountID) := by
  have hentries : ∀ pool, v.enabledPool poolID = some pool →
      v.explainCandidates model poolID exclude opts =
        (v.snap.membersOf poolID).map (v.candidateTrace model exclude opts) := by
    intro pool hpool
    rw [View.explainCandidates, hpool]
  refine ⟨?_, ?_, ?_⟩
  · rw [View.resolveInPool_ok_iff]
    constructor
    · rintro ⟨⟨pool, hpool⟩, m, hm, heligible⟩
      rw [hentries pool hpool]
      exact ⟨_, List.mem_map_of_mem hm, (View.candidate_iff m).mpr heligible⟩
    · rintro ⟨entry, hentry, hcandidate⟩
      cases hpool : v.enabledPool poolID with
      | none =>
        rw [View.explainCandidates, hpool] at hentry
        contradiction
      | some pool =>
        rw [hentries pool hpool] at hentry
        obtain ⟨m, hm, rfl⟩ := List.mem_map.mp hentry
        exact ⟨⟨pool, rfl⟩, m, hm, (View.candidate_iff m).mp hcandidate⟩
  · intro route hroute
    obtain ⟨pool, m, acc, hpool, hchosen, heligible, rfl⟩ := View.of_resolveInPool_ok hroute
    rw [hentries pool hpool]
    exact ⟨_, List.mem_map_of_mem (View.chosen_eligible hchosen).1,
      (View.candidate_iff m).mpr ⟨acc, heligible⟩, View.candidateTrace_accountID m⟩
  · intro hunique entry hentry hskipped route hroute hsame
    obtain ⟨pool, m, acc, hpool, hchosen, heligible, rfl⟩ := View.of_resolveInPool_ok hroute
    rw [hentries pool hpool] at hentry
    obtain ⟨m', hm', rfl⟩ := List.mem_map.mp hentry
    have hm := (View.chosen_eligible hchosen).1
    obtain rfl : m = m' :=
      List.inj_on_of_nodup_map hunique hm hm' (hsame.trans (View.candidateTrace_accountID m'))
    rw [(View.candidate_iff m).mpr ⟨acc, heligible⟩] at hskipped
    exact absurd hskipped (by decide)

/-- A pool with two accounts, of which one is disabled as a member. -/
def halfPool : View where
  snap :=
    { pools := Table.empty.set (1, { id := 1 })
      accounts := (Table.empty.set (7, { id := 7, status := lit "healthy" })).set
        (8, { id := 8, status := lit "healthy" })
      members := Table.empty.set (1, [{ id := 1, poolID := 1, accountID := 7, enabled := false },
        { id := 2, poolID := 1, accountID := 8, position := 1 }]) }
  clock := Store.Clock.early

/-- The account of the disabled member is skipped, and never found. -/
theorem halfPool_skipped :
    ∀ entry ∈ halfPool.explainCandidates (lit "m") 1 [] {}, entry.outcome = lit "skipped" →
      ∀ route, halfPool.resolveInPool (lit "m") 1 {} [] = .ok route →
        route.accountID ≠ entry.accountID :=
  (trace_truthful halfPool (lit "m") 1 [] {}).2.2 (by decide)

example : (halfPool.explainCandidates (lit "m") 1 [] {}).map CandidateTrace.outcome =
    [lit "skipped", lit "candidate"] := by decide

end Lune.Router
