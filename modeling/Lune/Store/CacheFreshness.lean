import Lune.Store.CacheSystem

/-!
# A `Get` after an `Invalidate` reads after the write

The snapshot in the cache is stamped with the value `dbVer` had before the load
began, so at each of its reads `dbVer` was at least the stamp.  A call of `Get`
loads `dbVer` first and takes a snapshot only when its stamp is that value or
the load is its own; so at each read of what it returns, `dbVer` had the value
it had when the call began.  `Invariant` says this of every goroutine at every
moment of a run, and the two locks keep it true while a snapshot is replaced.
-/

namespace Lune.Store

open Runs

/-! ## The trace -/

/-- The step is an `Invalidate`. -/
def Event.isInvalidate : Event → Bool
  | .invalidate _ => true
  | _ => false

/-- The value of `dbVer` at a moment of the trace. -/
def versionAt (tr : List Event) (t : Nat) : Nat := 1 + (tr.take t).countP Event.isInvalidate

/-- The call of `Get` by `g` that began at `start` is its last. -/
def Started (tr : List Event) (g : Goroutine) (start : Nat) : Prop :=
  tr[start]? = some (.getStart g) ∧ ∀ n, start < n → tr[n]? ≠ some (.getStart g)

/-- The moments are queries of the trace, at each of which `dbVer` was at least
`v`. -/
def ReadFrom (tr : List Event) (v : Nat) (readAt : List Nat) : Prop :=
  ∀ t ∈ readAt, v ≤ versionAt tr t ∧ ∃ g now, tr[t]? = some (.query g now)

theorem versionAt_append {tr : List Event} {t : Nat} (h : t ≤ tr.length) (e : Event) :
    versionAt (tr ++ [e]) t = versionAt tr t := by
  rw [versionAt, List.take_append_of_le_length h, versionAt]

theorem versionAt_mono (tr : List Event) {t u : Nat} (h : t ≤ u) :
    versionAt tr t ≤ versionAt tr u := by
  have hpre : tr.take t <+: tr.take u := List.take_prefix_take_left h
  exact Nat.add_le_add_left (hpre.sublist.countP_le) 1

/-- An invalidation raises the counter. -/
theorem versionAt_invalidate {tr : List Event} {j : Nat} {g : Goroutine}
    (h : tr[j]? = some (.invalidate g)) : versionAt tr (j + 1) = versionAt tr j + 1 := by
  obtain ⟨hlt, hget⟩ := List.getElem?_eq_some_iff.mp h
  rw [versionAt, versionAt, List.take_succ_eq_append_getElem hlt, List.countP_append, hget]
  rfl

/-- The counter after one more event. -/
theorem versionAt_concat (tr : List Event) (e : Event) :
    versionAt (tr ++ [e]) (tr.length + 1) =
      versionAt tr tr.length + if e.isInvalidate then 1 else 0 := by
  rw [versionAt, versionAt, List.take_of_length_le (by simp), List.take_of_length_le (le_refl _),
    List.countP_append, List.countP_singleton, Nat.add_assoc]

theorem lt_length {tr : List Event} {n : Nat} {e : Event} (h : tr[n]? = some e) :
    n < tr.length := (List.getElem?_eq_some_iff.mp h).1

theorem getElem?_concat {tr : List Event} {n : Nat} {e : Event} (h : tr[n]? = some e)
    (f : Event) : (tr ++ [f])[n]? = some e := by
  rw [List.getElem?_append_left (lt_length h), h]

theorem Started.concat {tr : List Event} {g : Goroutine} {start : Nat} (h : Started tr g start)
    {e : Event} (he : e ≠ .getStart g) : Started (tr ++ [e]) g start := by
  refine ⟨getElem?_concat h.1 e, fun n hn => ?_⟩
  rcases Nat.lt_or_ge n tr.length with hlt | hge
  · rw [List.getElem?_append_left hlt]
    exact h.2 n hn
  · rw [List.getElem?_append_right hge]
    rcases Nat.eq_or_lt_of_le hge with heq | hgt
    · simpa [heq] using he
    · rw [List.getElem?_eq_none (by simp; omega)]
      simp

/-- The call that just began. -/
theorem Started.new (tr : List Event) (g : Goroutine) :
    Started (tr ++ [.getStart g]) g tr.length := by
  refine ⟨by simp, fun n hn => ?_⟩
  rw [List.getElem?_eq_none (by simp; omega)]
  simp

theorem ReadFrom.concat {tr : List Event} {v : Nat} {readAt : List Nat}
    (h : ReadFrom tr v readAt) (e : Event) : ReadFrom (tr ++ [e]) v readAt := by
  intro t ht
  obtain ⟨hv, g, now, hget⟩ := h t ht
  rw [versionAt_append (lt_length hget).le]
  exact ⟨hv, g, now, getElem?_concat hget e⟩

theorem ReadFrom.weaken {tr : List Event} {v w : Nat} {readAt : List Nat}
    (h : ReadFrom tr v readAt) (hw : w ≤ v) : ReadFrom tr w readAt :=
  fun t ht => ⟨hw.trans (h t ht).1, (h t ht).2⟩

/-! ## The invariant -/

/-- What holds of a goroutine in each place. -/
def PcInvariant (tr : List Event) (s : CacheState) (g : Goroutine) : Pc → Prop
  | .idle => True
  | .called start => Started tr g start
  | .loaded start dbv => Started tr g start ∧ versionAt tr start ≤ dbv
  | .comparing start dbv => Started tr g start ∧ versionAt tr start ≤ dbv
  | .matched start dbv => Started tr g start ∧ versionAt tr start ≤ dbv ∧ s.version = dbv
  | .hit start snap => Started tr g start ∧ ReadFrom tr (versionAt tr start) snap.readAt
  | .missed start => Started tr g start
  | .waiting start => Started tr g start
  | .locked start => Started tr g start
  | .rechecking start dbv =>
    Started tr g start ∧ versionAt tr start ≤ dbv ∧ s.version ≤ dbv ∧ dbv ≤ s.dbVer
  | .loading start dbv load =>
    Started tr g start ∧ versionAt tr start ≤ dbv ∧ s.version ≤ dbv ∧ dbv ≤ s.dbVer ∧
      ReadFrom tr dbv load.readAt
  | .stamping start dbv snap =>
    Started tr g start ∧ versionAt tr start ≤ dbv ∧ s.version ≤ dbv ∧ dbv ≤ s.dbVer ∧
      ReadFrom tr dbv snap.readAt ∧ s.snapshot = some snap
  | .unlocking start snap => Started tr g start ∧ ReadFrom tr (versionAt tr start) snap.readAt

/-- What holds after the events `tr`. -/
structure Invariant (tr : List Event) (s : CacheState) : Prop where
  time : s.time = tr.length
  dbVer : s.dbVer = versionAt tr tr.length
  version : s.version ≤ s.dbVer
  snapshot : ∀ snap, s.snapshot = some snap → ReadFrom tr s.version snap.readAt
  readers : ∀ g, (s.pc g).reads = true → g ∈ s.readers
  writer : ∀ g, (s.pc g).writes = true → s.writer = some g
  exclusion : s.writer ≠ none → s.readers = []
  pcs : ∀ g, PcInvariant tr s g (s.pc g)

/-- Without a lock a goroutine relies on nothing that others change; with one,
nothing changes. -/
theorem PcInvariant.frame {tr : List Event} {s s' : CacheState} {g : Goroutine} {pc : Pc}
    (h : PcInvariant tr s g pc) {e : Event} (he : e ≠ .getStart g)
    (hkeep : pc.reads = true ∨ pc.writes = true →
      s'.version = s.version ∧ s'.snapshot = s.snapshot)
    (hdb : s.dbVer ≤ s'.dbVer) : PcInvariant (tr ++ [e]) s' g pc := by
  cases pc with
  | idle => trivial
  | called start | missed start | waiting start | locked start => exact h.concat he
  | loaded start dbv | comparing start dbv =>
    obtain ⟨hs, hv⟩ := h
    exact ⟨hs.concat he, (versionAt_append (lt_length hs.1).le e).trans_le hv⟩
  | hit start snap | unlocking start snap =>
    obtain ⟨hs, hr⟩ := h
    exact ⟨hs.concat he, (versionAt_append (lt_length hs.1).le e).symm ▸ hr.concat e⟩
  | matched start dbv =>
    obtain ⟨hs, hv, heq⟩ := h
    exact ⟨hs.concat he, (versionAt_append (lt_length hs.1).le e).trans_le hv,
      (hkeep (Or.inl rfl)).1.trans heq⟩
  | rechecking start dbv =>
    obtain ⟨hs, hv, hle, hdbv⟩ := h
    exact ⟨hs.concat he, (versionAt_append (lt_length hs.1).le e).trans_le hv,
      (hkeep (Or.inr rfl)).1.trans_le hle, hdbv.trans hdb⟩
  | loading start dbv load =>
    obtain ⟨hs, hv, hle, hdbv, hr⟩ := h
    exact ⟨hs.concat he, (versionAt_append (lt_length hs.1).le e).trans_le hv,
      (hkeep (Or.inr rfl)).1.trans_le hle, hdbv.trans hdb, hr.concat e⟩
  | stamping start dbv snap =>
    obtain ⟨hs, hv, hle, hdbv, hr, hsnap⟩ := h
    exact ⟨hs.concat he, (versionAt_append (lt_length hs.1).le e).trans_le hv,
      (hkeep (Or.inr rfl)).1.trans_le hle, hdbv.trans hdb, hr.concat e,
      (hkeep (Or.inr rfl)).2.trans hsnap⟩

/-- A goroutine that changed nothing stands where it stood. -/
theorem PcInvariant.stay {tr : List Event} {s : CacheState} {g : Goroutine} {pc : Pc}
    (h : PcInvariant tr s g pc) {e : Event} (he : e ≠ .getStart g) :
    PcInvariant (tr ++ [e]) s g pc :=
  h.frame he (fun _ => ⟨rfl, rfl⟩) (le_refl _)

/-! ## Each step keeps it -/

section Step

variable {tr : List Event} {s s' : CacheState} {e : Event} {g : Goroutine} {pc : Pc}

/-- A step of `g` that may take or give back a lock.  What it does to the cache
is allowed when `g` holds the write lock. -/
theorem Invariant.move (h : Invariant tr s) (g : Goroutine) (pc : Pc)
    (hpc : s'.pc = Function.update s.pc g pc)
    (htime : s'.time = s.time + 1) (he : ∀ f, f ≠ g → e ≠ .getStart f)
    (hdb : s'.dbVer = s.dbVer + if e.isInvalidate then 1 else 0)
    (hkeep : s'.version = s.version ∧ s'.snapshot = s.snapshot ∨
      s.writer = some g ∧ s'.version ≤ s'.dbVer ∧
        ∀ snap, s'.snapshot = some snap → ReadFrom (tr ++ [e]) s'.version snap.readAt)
    (hreads : pc.reads = true → g ∈ s'.readers)
    (hreaders : ∀ f, f ≠ g → f ∈ s.readers → f ∈ s'.readers)
    (hwrites : pc.writes = true → s'.writer = some g)
    (hwriter : ∀ f, f ≠ g → s.writer = some f → s'.writer = some f)
    (hexcl : s'.writer ≠ none → s'.readers = [])
    (hg : PcInvariant (tr ++ [e]) s' g pc) : Invariant (tr ++ [e]) s' where
  time := by rw [htime, h.time, List.length_append]; rfl
  dbVer := by
    rw [hdb, h.dbVer, List.length_append]
    exact (versionAt_concat tr e).symm
  version := by
    rcases hkeep with ⟨hv, -⟩ | ⟨-, hv, -⟩
    · have := h.version
      omega
    · exact hv
  snapshot := by
    rcases hkeep with ⟨hv, hs⟩ | ⟨-, -, hs⟩
    · intro snap hsnap
      rw [hv]
      exact (h.snapshot snap (hs ▸ hsnap)).concat e
    · exact hs
  readers := by
    intro f hf
    rw [hpc] at hf
    by_cases hfg : f = g
    · subst hfg
      exact hreads (by simpa using hf)
    · rw [Function.update_of_ne hfg] at hf
      exact hreaders f hfg (h.readers f hf)
  writer := by
    intro f hf
    rw [hpc] at hf
    by_cases hfg : f = g
    · subst hfg
      exact hwrites (by simpa using hf)
    · rw [Function.update_of_ne hfg] at hf
      exact hwriter f hfg (h.writer f hf)
  exclusion := hexcl
  pcs := by
    intro f
    rw [hpc]
    by_cases hfg : f = g
    · subst hfg
      simpa using hg
    · rw [Function.update_of_ne hfg]
      refine (h.pcs f).frame (he f hfg) (fun hlock => ?_) (by omega)
      rcases hkeep with hkeep | ⟨hw, -⟩
      · exact hkeep
      · -- `g` holds the write lock, so `f` holds no lock
        rcases hlock with hr | hw'
        · have hmem := h.readers f hr
          rw [h.exclusion (by simp [hw])] at hmem
          exact absurd hmem (List.not_mem_nil)
        · have := h.writer f hw'
          rw [hw, Option.some.injEq] at this
          exact absurd this.symm hfg

/-- A step of `g` that changes nothing but where `g` stands. -/
theorem Invariant.goto (h : Invariant tr s) (he : ∀ f, f ≠ g → e ≠ .getStart f)
    (hinv : e.isInvalidate = false) (hreads : pc.reads = true → (s.pc g).reads = true)
    (hwrites : pc.writes = true → (s.pc g).writes = true)
    (hg : PcInvariant (tr ++ [e]) s g pc) :
    Invariant (tr ++ [e]) { s.goto g pc with time := s.time + 1 } := by
  refine h.move g pc rfl rfl he (by simp [CacheState.goto, hinv]) (Or.inl ⟨rfl, rfl⟩)
    (fun hr => h.readers g (hreads hr)) (fun _ _ hf => hf) (fun hw => h.writer g (hwrites hw))
    (fun _ _ hf => hf) h.exclusion ?_
  cases pc <;> exact hg

theorem Invariant.step (h : Invariant tr s) (hstep : s.step e = some s') :
    Invariant (tr ++ [e]) s' := by
  obtain ⟨s₁, hact, rfl⟩ := Option.map_eq_some_iff.mp hstep
  cases e with
  | write g db =>
    simp only [CacheState.act] at hact
    split at hact <;> simp only [Option.some.injEq, reduceCtorEq] at hact
    rename_i hpc
    subst hact
    exact h.move g .idle (by simp [← hpc]) rfl (by simp) rfl (Or.inl ⟨rfl, rfl⟩)
      (by simp [Pc.reads]) (fun _ _ hf => hf) (by simp [Pc.writes]) (fun _ _ hf => hf)
      h.exclusion trivial
  | invalidate g =>
    simp only [CacheState.act] at hact
    split at hact <;> simp only [Option.some.injEq, reduceCtorEq] at hact
    rename_i hpc
    subst hact
    exact h.move g .idle (by simp [← hpc]) rfl (by simp) rfl (Or.inl ⟨rfl, rfl⟩)
      (by simp [Pc.reads]) (fun _ _ hf => hf) (by simp [Pc.writes]) (fun _ _ hf => hf)
      h.exclusion trivial
  | getStart g =>
    simp only [CacheState.act] at hact
    split at hact <;> simp only [Option.some.injEq, reduceCtorEq] at hact
    subst hact
    refine h.goto (fun f hf => by simpa using Ne.symm hf) rfl (by simp [Pc.reads])
      (by simp [Pc.writes]) ?_
    rw [h.time]
    exact Started.new tr g
  | loadVersion g =>
    simp only [CacheState.act] at hact
    split at hact <;> simp only [Option.some.injEq, reduceCtorEq] at hact
    rename_i start hpc
    subst hact
    have hg := h.pcs g
    rw [hpc] at hg
    refine h.goto (by simp) rfl (by simp [Pc.reads]) (by simp [Pc.writes])
      ⟨hg.concat (by simp), ?_⟩
    rw [h.dbVer, versionAt_append (lt_length hg.1).le]
    exact versionAt_mono tr (lt_length hg.1).le
  | rLock g =>
    simp only [CacheState.act] at hact
    split at hact <;> simp only [Option.some.injEq, reduceCtorEq] at hact
    rename_i start dbv hpc hfree
    subst hact
    have hg := (h.pcs g).stay (e := .rLock g) (by simp)
    rw [hpc] at hg
    exact h.move g (.comparing start dbv) rfl rfl (by simp) rfl (Or.inl ⟨rfl, rfl⟩)
      (by simp) (fun f _ hf => List.mem_cons_of_mem g hf) (by simp [Pc.writes])
      (fun _ _ hf => hf) (fun hw => absurd hfree hw) hg
  | compare g =>
    simp only [CacheState.act] at hact
    split at hact <;> simp only [Option.some.injEq, reduceCtorEq] at hact
    rename_i start dbv hpc
    subst hact
    have hg := (h.pcs g).stay (e := .compare g) (by simp)
    rw [hpc] at hg
    refine h.goto (by simp) rfl (by simp [hpc, Pc.reads]) (by split <;> simp [Pc.writes]) ?_
    split
    · rename_i heq
      exact ⟨hg.1, hg.2, heq⟩
    · exact hg.1
  | takeSnapshot g =>
    simp only [CacheState.act] at hact
    have hg := (h.pcs g).stay (e := .takeSnapshot g) (by simp)
    split at hact <;> simp only [Option.some.injEq, reduceCtorEq] at hact
    · rename_i start dbv snap hpc hsnap
      subst hact
      rw [hpc] at hg
      obtain ⟨hs, hv, heq⟩ := hg
      refine h.goto (by simp) rfl (by simp [hpc, Pc.reads]) (by simp [Pc.writes]) ⟨hs, ?_⟩
      exact ((h.snapshot snap hsnap).concat _).weaken (heq ▸ hv)
    · rename_i start dbv hpc hsnap
      subst hact
      rw [hpc] at hg
      exact h.goto (by simp) rfl (by simp [hpc, Pc.reads]) (by simp [Pc.writes]) hg.1
  | rUnlockMiss g =>
    simp only [CacheState.act] at hact
    split at hact <;> simp only [Option.some.injEq, reduceCtorEq] at hact
    rename_i start hpc
    subst hact
    have hg := h.pcs g
    rw [hpc] at hg
    refine h.move g (.waiting start) rfl rfl (by simp) rfl (Or.inl ⟨rfl, rfl⟩)
      (by simp [Pc.reads]) (fun f hf hmem => (List.mem_erase_of_ne hf).mpr hmem)
      (by simp [Pc.writes]) (fun _ _ hf => hf) (fun hw => ?_) (hg.concat (by simp))
    change s.readers.erase g = []
    rw [h.exclusion hw]
    rfl
  | lock g =>
    simp only [CacheState.act] at hact
    split at hact <;> simp only [Option.some.injEq, reduceCtorEq] at hact
    rename_i start hpc hfree hempty
    subst hact
    have hg := h.pcs g
    rw [hpc] at hg
    exact h.move g (.locked start) rfl rfl (by simp) rfl (Or.inl ⟨rfl, rfl⟩)
      (by simp [Pc.reads]) (fun _ _ hf => hf) (fun _ => rfl)
      (fun f _ hf => absurd hf (by simp [hfree])) (fun _ => hempty) (hg.concat (by simp))
  | reloadVersion g =>
    simp only [CacheState.act] at hact
    split at hact <;> simp only [Option.some.injEq, reduceCtorEq] at hact
    rename_i start hpc
    subst hact
    have hg := h.pcs g
    rw [hpc] at hg
    refine h.goto (by simp) rfl (by simp [Pc.reads]) (by simp [hpc, Pc.writes])
      ⟨hg.concat (by simp), ?_, h.version, le_refl _⟩
    rw [h.dbVer, versionAt_append (lt_length hg.1).le]
    exact versionAt_mono tr (lt_length hg.1).le
  | recheck g =>
    simp only [CacheState.act] at hact
    have hg := (h.pcs g).stay (e := .recheck g) (by simp)
    split at hact <;> try simp only [reduceCtorEq] at hact
    rename_i start dbv hpc
    rw [hpc] at hg
    obtain ⟨hs, hv, hle, hdbv⟩ := hg
    -- a load that begins has read nothing yet
    have hload : PcInvariant (tr ++ [.recheck g]) s g (.loading start dbv {}) :=
      ⟨hs, hv, hle, hdbv, by simp [ReadFrom]⟩
    split at hact <;> simp only [Option.some.injEq] at hact
    · rename_i snap hsnap
      subst hact
      refine h.goto (by simp) rfl (by split <;> simp [Pc.reads]) (by simp [hpc, Pc.writes]) ?_
      split
      · rename_i heq
        exact ⟨hs, ((h.snapshot snap hsnap).concat _).weaken (heq ▸ hv)⟩
      · exact hload
    · subst hact
      exact h.goto (by simp) rfl (by simp [Pc.reads]) (by simp [hpc, Pc.writes]) hload
  | query g now =>
    simp only [CacheState.act] at hact
    split at hact <;> try simp only [reduceCtorEq] at hact
    rename_i start dbv load hpc
    obtain ⟨load', hquery, rfl⟩ := Option.map_eq_some_iff.mp hact
    obtain ⟨answer, -, rfl⟩ := Option.map_eq_some_iff.mp hquery
    have hg := (h.pcs g).stay (e := .query g now) (by simp)
    rw [hpc] at hg
    obtain ⟨hs, hv, hle, hdbv, hr⟩ := hg
    refine h.goto (by simp) rfl (by simp [Pc.reads]) (by simp [hpc, Pc.writes])
      ⟨hs, hv, hle, hdbv, fun t ht => ?_⟩
    rcases List.mem_append.mp ht with hold | hnew
    · exact hr t hold
    · -- the query of this step, while `dbVer` is what the state says
      rw [List.mem_singleton] at hnew
      subst hnew
      rw [h.time, versionAt_append (le_refl _), ← h.dbVer]
      exact ⟨hdbv, g, now, by simp⟩
  | installSnapshot g =>
    simp only [CacheState.act] at hact
    split at hact <;> simp only [Option.some.injEq, reduceCtorEq] at hact
    rename_i start dbv reads readAt hpc
    subst hact
    have hwriter := h.writer g (by rw [hpc]; rfl)
    have hg := (h.pcs g).stay (e := .installSnapshot g) (by simp)
    rw [hpc] at hg
    obtain ⟨hs, hv, hle, hdbv, hr⟩ := hg
    refine h.move g (.stamping start dbv ⟨loadFromDB reads, readAt⟩) rfl rfl (by simp)
      rfl (Or.inr ⟨hwriter, h.version, fun snap hsnap => ?_⟩) (by simp [Pc.reads])
      (fun _ _ hf => hf) (fun _ => hwriter) (fun _ _ hf => hf) h.exclusion
      ⟨hs, hv, hle, hdbv, hr, rfl⟩
    rw [← Option.some.inj hsnap]
    exact hr.weaken hle
  | installVersion g =>
    simp only [CacheState.act] at hact
    split at hact <;> simp only [Option.some.injEq, reduceCtorEq] at hact
    rename_i start dbv snap hpc
    subst hact
    have hwriter := h.writer g (by rw [hpc]; rfl)
    have hg := (h.pcs g).stay (e := .installVersion g) (by simp)
    rw [hpc] at hg
    obtain ⟨hs, hv, hle, hdbv, hr, hsnap⟩ := hg
    refine h.move g (.unlocking start snap) rfl rfl (by simp) rfl
      (Or.inr ⟨hwriter, hdbv, fun found hfound => ?_⟩) (by simp [Pc.reads]) (fun _ _ hf => hf)
      (fun _ => hwriter) (fun _ _ hf => hf) h.exclusion ⟨hs, hr.weaken hv⟩
    have heq : found = snap := Option.some.inj (hfound.symm.trans hsnap)
    exact heq ▸ hr
  | getReturn g =>
    simp only [CacheState.act] at hact
    split at hact <;> simp only [Option.some.injEq, reduceCtorEq] at hact
    · rename_i start snap hpc
      subst hact
      refine h.move g .idle rfl rfl (by simp) rfl (Or.inl ⟨rfl, rfl⟩)
        (by simp [Pc.reads]) (fun f hf hmem => (List.mem_erase_of_ne hf).mpr hmem)
        (by simp [Pc.writes]) (fun _ _ hf => hf) (fun hw => ?_) trivial
      change s.readers.erase g = []
      rw [h.exclusion hw]
      rfl
    · rename_i start snap hpc
      subst hact
      have hwriter := h.writer g (by rw [hpc]; rfl)
      exact h.move g .idle rfl rfl (by simp) rfl (Or.inl ⟨rfl, rfl⟩)
        (by simp [Pc.reads]) (fun _ _ hf => hf) (by simp [Pc.writes])
        (fun f hf hw => absurd (Option.some.inj (hwriter.symm.trans hw)) (Ne.symm hf))
        (fun hw => absurd rfl hw) trivial

end Step

/-! ## Runs -/

theorem Invariant.new (db : Database) : Invariant [] (newRoutingCache db) where
  time := rfl
  dbVer := rfl
  version := Nat.zero_le _
  snapshot := by simp [newRoutingCache]
  readers := by simp [newRoutingCache, Pc.reads]
  writer := by simp [newRoutingCache, Pc.writes]
  exclusion := fun _ => rfl
  pcs := fun _ => trivial

theorem run_invariant {db : Database} {tr : List Event} {s : CacheState}
    (hrun : exec CacheState.step (newRoutingCache db) tr = some s) : Invariant tr s :=
  exec_invariant (Invariant.new db) (fun _ _ _ _ h hstep => h.step hstep) hrun

/-- Only `c.version = dbv` changes the installed version. -/
theorem CacheState.act_version {s s' : CacheState} {e : Event} (h : s.act e = some s')
    (he : ∀ g, e ≠ .installVersion g) : s'.version = s.version := by
  cases e with
  | installVersion g => exact absurd rfl (he g)
  | query g now =>
    simp only [act] at h
    split at h <;> try simp only [reduceCtorEq] at h
    obtain ⟨load, -, rfl⟩ := Option.map_eq_some_iff.mp h
    rfl
  | recheck g =>
    simp only [act] at h
    split at h <;> try simp only [reduceCtorEq] at h
    split at h <;> simp only [Option.some.injEq] at h <;> subst h <;> rfl
  | _ =>
    simp only [act] at h
    split at h <;> simp only [Option.some.injEq, reduceCtorEq] at h <;> subst h <;> rfl

/-- A step never lowers the installed version: a load keeps the write lock from
the moment it looked at the version to replace. -/
theorem Invariant.version_mono {tr : List Event} {s s' : CacheState} {e : Event}
    (h : Invariant tr s) (hstep : s.step e = some s') : s.version ≤ s'.version := by
  obtain ⟨s₁, hact, rfl⟩ := Option.map_eq_some_iff.mp hstep
  by_cases he : ∃ g, e = .installVersion g
  · obtain ⟨g, rfl⟩ := he
    simp only [CacheState.act] at hact
    split at hact <;> simp only [Option.some.injEq, reduceCtorEq] at hact
    rename_i start dbv snap hpc
    subst hact
    have hg := h.pcs g
    rw [hpc] at hg
    exact hg.2.2.1
  · exact (CacheState.act_version hact fun g hg => he ⟨g, hg⟩).ge

/-- What a call is about to return was read while `dbVer` was at least what it
was when the call began. -/
theorem Invariant.returning {tr : List Event} {s : CacheState} (h : Invariant tr s)
    {g : Goroutine} {snap : Loaded} (hret : s.returning g = some snap) :
    ∃ start, Started tr g start ∧ ReadFrom tr (versionAt tr start) snap.readAt := by
  have hg := h.pcs g
  unfold CacheState.returning at hret
  split at hret <;> simp only [Option.some.injEq, reduceCtorEq] at hret <;> subst hret <;>
    rename_i hpc <;> rw [hpc] at hg <;> exact ⟨_, hg⟩

/-- A call of `Get` that begins after an `Invalidate`, which a goroutine does
after it has written the database, returns a snapshot of which each read is a
query made after the write; and the version of the cache never goes down. -/
theorem get_after_invalidate_reads_after_write {db : Database} {tr : List Event} {s : CacheState}
    (hrun : exec CacheState.step (newRoutingCache db) tr = some s) :
    (∀ (i j k : Nat) (g h : Goroutine) (written : Database) (snap : Loaded),
      tr[i]? = some (.write g written) → tr[j]? = some (.invalidate g) → i < j →
      tr[k]? = some (.getStart h) → j < k → (∀ n, k < n → tr[n]? ≠ some (.getStart h)) →
      s.returning h = some snap →
      ∀ t ∈ snap.readAt, i < t ∧ ∃ f now, tr[t]? = some (.query f now)) ∧
    (∀ (rest : List Event) (t : CacheState), exec CacheState.step s rest = some t →
      s.version ≤ t.version) := by
  have hinv := run_invariant hrun
  constructor
  · intro i j k g h written snap _ hj hij hk hjk hlast hret t ht
    obtain ⟨start, hstart, hread⟩ := hinv.returning hret
    -- the call under way is the one that began at `k`
    have hstart_eq : start = k := by
      rcases Nat.lt_trichotomy start k with hlt | heq | hgt
      · exact absurd hk (hstart.2 k hlt)
      · exact heq
      · exact absurd hstart.1 (hlast start hgt)
    subst hstart_eq
    obtain ⟨hv, hquery⟩ := hread t ht
    refine ⟨?_, hquery⟩
    -- a read up to the invalidation would see a smaller counter
    by_contra hle
    have hlow := versionAt_mono tr (show t ≤ j by omega)
    have hup := versionAt_mono tr (show j + 1 ≤ start by omega)
    have := versionAt_invalidate hj
    omega
  · intro rest t hrest
    have hboth := exec_invariant
      (P := fun es u => Invariant (tr ++ es) u ∧ s.version ≤ u.version)
      ⟨by simpa using hinv, le_refl _⟩
      (fun es u e v hu hstep => by
        rw [← List.append_assoc]
        exact ⟨hu.1.step hstep, hu.2.trans (hu.1.version_mono hstep)⟩) hrest
    exact hboth.2

/-- Goroutine 1 adds a pool and invalidates; goroutine 2 calls `Get`, misses and
loads. -/
def writeThenGet : List Event :=
  [.write 1 { pools := ⟨[{ id := 1 }], by decide⟩ }, .invalidate 1, .getStart 2, .loadVersion 2,
    .rLock 2, .compare 2, .rUnlockMiss 2, .lock 2, .reloadVersion 2, .recheck 2] ++
  List.replicate 9 (.query 2 default) ++ [.installSnapshot 2, .installVersion 2]

theorem writeThenGet_fresh :
    ∃ s snap, exec CacheState.step (newRoutingCache {}) writeThenGet = some s ∧
      s.returning 2 = some snap ∧ snap.readAt.length = 9 ∧ ∀ t ∈ snap.readAt, 0 < t := by
  refine ⟨_, _, rfl, rfl, rfl, fun t ht => ?_⟩
  have hrun : exec CacheState.step (newRoutingCache {}) writeThenGet = some _ := rfl
  have hfresh := (get_after_invalidate_reads_after_write hrun).1 0 1 2 1 2 _ _ rfl rfl (by decide) rfl (by decide) ?_ rfl t ht
  · exact hfresh.1
  · intro n hn hget
    have hmem : Event.getStart 2 ∈ writeThenGet.drop 3 := by
      refine List.mem_of_getElem? (i := n - 3) ?_
      rw [List.getElem?_drop, Nat.add_sub_cancel' (by omega)]
      exact hget
    simp [writeThenGet] at hmem

end Lune.Store
