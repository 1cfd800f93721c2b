import Lune.Admin.Relogin
import Lune.Gateway.AccountWork
import Lune.Lib.Calls
import Lune.Lib.WorkPool

/-!
# A pass of the health checker

`checkAll` and `fetchCodexQuotas` of `internal/health/checker.go` start a goroutine for each
account that they want, let `maxConcurrency` of them work at a time, and wait for all.  A
`Pass` is the pool of the goroutines and what each has left of its check or its refresh;
the steps of those may come in any order.

What a pass leaves of an account is what its own check leaves when nothing else is going on,
because the work for other accounts makes no difference to it.
-/

namespace Lune.Health

open GoText Keyed TimeText Programs WorkPool Lune.Store Lune.Gateway Lune.Admin

/-- `maxConcurrency`. -/
def maxConcurrency : Nat := 10

/-- The goroutines of a pass and what each has left to do. -/
structure Pass where
  pool : Pool Account
  threads : Threads Nat StoreEnv Database StoreCall

/-- A goroutine or the loop goes on, or a goroutine makes a step of its work. -/
inductive PassEvent where
  | pool (e : WorkPool.Event)
  | act (i : Nat) (env : StoreEnv)

namespace Pass

section Step

variable (wanted : Account → Bool) (work : Nat → Account → BackgroundWork)

/-- The pass before its first account. -/
def start (accounts : List Account) (db : Database) : Pass :=
  ⟨{ queue := accounts }, Threads.idle db⟩

/-- The next state, when the event can happen.  A goroutine starts its work when it has its
place, and is through when the work has returned. -/
def step (p : Pass) : PassEvent → Option Pass
  | .pool (.enter i) => do
    let pool ← p.pool.step wanted maxConcurrency (.enter i)
    let (acc, _) ← p.pool.workers[i]?
    let threads ← Threads.step StoreCall.run p.threads (.start i (work i acc).program)
    some ⟨pool, threads⟩
  | .pool (.work i) =>
    if (p.threads.thread i).returned then
      (p.pool.step wanted maxConcurrency (.work i)).map fun pool => { p with pool := pool }
    else none
  | .pool e => (p.pool.step wanted maxConcurrency e).map fun pool => { p with pool := pool }
  | .act i env =>
    (Threads.step StoreCall.run p.threads (.act i env)).map fun threads =>
      { p with threads := threads }

end Step

/-! ## What the goroutines have done -/

section Follows

variable {wanted : Account → Bool} {work : Nat → Account → BackgroundWork}

/-- The events of the threads are those that the worker has made so far. -/
def Follows (work : Nat → Account → BackgroundWork)
    (evs : List (Programs.Event Nat StoreEnv Database StoreCall))
    (rest : Prog StoreEnv Database StoreCall Unit) (i : Nat) :
    Option (Account × WorkPool.Stage) → Prop
  | none | some (_, .started) => (evs.filter fun ev => ev.thread = i) = [] ∧ rest = .ret ()
  | some (acc, .working) => ∃ acts,
      (evs.filter fun ev => ev.thread = i) = .start i (work i acc).program :: acts ∧
        ∀ ev ∈ acts, ∃ env, ev = .act i env
  | some (acc, .worked) | some (acc, .leaving) | some (acc, .left) => (∃ acts,
      (evs.filter fun ev => ev.thread = i) = .start i (work i acc).program :: acts ∧
        ∀ ev ∈ acts, ∃ env, ev = .act i env) ∧ rest = .ret ()

/-- The pool is sound, and the threads have done what its workers have made. -/
structure Sound (wanted : Account → Bool) (work : Nat → Account → BackgroundWork)
    (accounts : List Account) (db : Database)
    (evs : List (Programs.Event Nat StoreEnv Database StoreCall)) (p : Pass) : Prop where
  pool : Pool.Sound wanted maxConcurrency accounts p.pool
  run : Runs.exec (Threads.step StoreCall.run) (Threads.idle db) evs = some p.threads
  follows : ∀ i, Follows work evs (p.threads.thread i) i p.pool.workers[i]?

variable {accounts : List Account} {db : Database} {p q : Pass}
  {evs : List (Programs.Event Nat StoreEnv Database StoreCall)} {i : Nat}

theorem sound_start (wanted : Account → Bool) (work : Nat → Account → BackgroundWork)
    (accounts : List Account) (db : Database) :
    Sound wanted work accounts db [] (start accounts db) :=
  ⟨Pool.sound_start wanted maxConcurrency accounts, rfl, fun _ => ⟨rfl, rfl⟩⟩

/-- A worker goes on, and its thread stays. -/
theorem Sound.move {pool : Pool Account} {acc : Account} {old new : WorkPool.Stage}
    (hp : Sound wanted work accounts db evs p)
    (hpool : Pool.Sound wanted maxConcurrency accounts pool)
    (hold : p.pool.workers[i]? = some (acc, old))
    (hworkers : pool.workers = p.pool.workers.set i (acc, new))
    (hmove : Follows work evs (p.threads.thread i) i (some (acc, old)) →
      Follows work evs (p.threads.thread i) i (some (acc, new))) :
    Sound wanted work accounts db evs { p with pool := pool } := by
  refine ⟨hpool, hp.run, fun j => ?_⟩
  have hj := hp.follows j
  show Follows work evs (p.threads.thread j) j pool.workers[j]?
  rw [hworkers, List.getElem?_set]
  split
  next heq =>
    subst heq
    rw [if_pos (List.getElem?_eq_some_iff.mp hold).1]
    rw [hold] at hj
    exact hmove hj
  · exact hj

theorem sound_next (hp : Sound wanted work accounts db evs p) {pool : Pool Account}
    (h : p.pool.step wanted maxConcurrency .next = some pool) :
    Sound wanted work accounts db evs { p with pool := pool } := by
  refine ⟨Pool.step_sound h hp.pool, hp.run, fun j => ?_⟩
  have hj := hp.follows j
  rw [Pool.step] at h
  split at h
  · contradiction
  · split at h <;> obtain rfl := Option.some.inj h
    · show Follows work evs _ j (p.pool.workers ++ [_])[j]?
      rw [List.getElem?_append]
      split
      · exact hj
      next hlast =>
        rw [List.getElem?_eq_none (Nat.le_of_not_lt hlast)] at hj
        cases j - p.pool.workers.length with
        | zero => exact hj
        | succ n => exact hj
    · exact hj

theorem sound_exit (hp : Sound wanted work accounts db evs p) {pool : Pool Account}
    (h : p.pool.step wanted maxConcurrency (.exit i) = some pool) :
    Sound wanted work accounts db evs { p with pool := pool } := by
  have hpool := Pool.step_sound h hp.pool
  rw [Pool.step] at h
  split at h
  next acc hold =>
    obtain ⟨-, h⟩ := Option.ite_none_right_eq_some.mp h
    obtain rfl := Option.some.inj h
    exact hp.move hpool hold rfl fun h => h
  · contradiction

theorem sound_leave (hp : Sound wanted work accounts db evs p) {pool : Pool Account}
    (h : p.pool.step wanted maxConcurrency (.leave i) = some pool) :
    Sound wanted work accounts db evs { p with pool := pool } := by
  have hpool := Pool.step_sound h hp.pool
  rw [Pool.step] at h
  split at h
  next acc hold =>
    obtain rfl := Option.some.inj h
    exact hp.move hpool hold rfl fun h => h
  · contradiction

theorem sound_work (hp : Sound wanted work accounts db evs p) {pool : Pool Account}
    (h : p.pool.step wanted maxConcurrency (.work i) = some pool)
    (hend : p.threads.thread i = .ret ()) :
    Sound wanted work accounts db evs { p with pool := pool } := by
  have hpool := Pool.step_sound h hp.pool
  rw [Pool.step] at h
  split at h
  next acc hold =>
    obtain rfl := Option.some.inj h
    exact hp.move hpool hold rfl fun h => ⟨h, hend⟩
  · contradiction

theorem sound_wait (hp : Sound wanted work accounts db evs p) {pool : Pool Account}
    (h : p.pool.step wanted maxConcurrency .wait = some pool) :
    Sound wanted work accounts db evs { p with pool := pool } := by
  have hpool := Pool.step_sound h hp.pool
  obtain ⟨-, h⟩ := Option.ite_none_right_eq_some.mp h
  obtain rfl := Option.some.inj h
  exact ⟨hpool, hp.run, hp.follows⟩

/-- One more event of the threads. -/
theorem exec_snoc {threads : Threads Nat StoreEnv Database StoreCall}
    {ev : Programs.Event Nat StoreEnv Database StoreCall}
    (hp : Sound wanted work accounts db evs p)
    (h : Threads.step StoreCall.run p.threads ev = some threads) :
    Runs.exec (Threads.step StoreCall.run) (Threads.idle db) (evs ++ [ev]) = some threads := by
  rw [Runs.exec_append, hp.run]
  show (Threads.step StoreCall.run p.threads ev).bind _ = _
  rw [h]
  rfl

theorem filter_snoc (evs : List (Programs.Event Nat StoreEnv Database StoreCall))
    (ev : Programs.Event Nat StoreEnv Database StoreCall) (i : Nat) :
    ((evs ++ [ev]).filter fun ev => ev.thread = i) =
      (evs.filter fun ev => ev.thread = i) ++ if ev.thread = i then [ev] else [] := by
  rw [List.filter_append, List.filter_singleton]
  by_cases h : ev.thread = i <;> simp [h]

/-- An event of another thread. -/
theorem Follows.snoc_of_ne {rest : Prog StoreEnv Database StoreCall Unit}
    {w : Option (Account × WorkPool.Stage)} {ev : Programs.Event Nat StoreEnv Database StoreCall}
    (h : Follows work evs rest i w) (hne : ev.thread ≠ i) :
    Follows work (evs ++ [ev]) rest i w := by
  have hsame : ((evs ++ [ev]).filter fun ev => ev.thread = i) =
      evs.filter fun ev => ev.thread = i := by
    rw [filter_snoc, if_neg hne, List.append_nil]
  unfold Follows at h ⊢
  rw [hsame]
  exact h

theorem sound_enter (hp : Sound wanted work accounts db evs p) {pool : Pool Account}
    (h : p.pool.step wanted maxConcurrency (.enter i) = some pool) {acc : Account}
    {stage : WorkPool.Stage}
    (hold : p.pool.workers[i]? = some (acc, stage))
    {threads : Threads Nat StoreEnv Database StoreCall}
    (hthreads : Threads.step StoreCall.run p.threads (.start i (work i acc).program) =
      some threads) :
    Sound wanted work accounts db (evs ++ [.start i (work i acc).program]) ⟨pool, threads⟩ := by
  have hpool := Pool.step_sound h hp.pool
  rw [Pool.step] at h
  split at h
  next acc' hold' =>
    obtain rfl : acc = acc' := by
      rw [hold] at hold'
      exact congrArg Prod.fst (Option.some.inj hold')
    obtain ⟨-, h⟩ := Option.ite_none_right_eq_some.mp h
    obtain rfl := Option.some.inj h
    refine ⟨hpool, exec_snoc hp hthreads, fun j => ?_⟩
    have hj := hp.follows j
    show Follows work _ (threads.thread j) j (p.pool.workers.set i (acc, .working))[j]?
    rw [List.getElem?_set]
    split
    next heq =>
      subst heq
      rw [if_pos (List.getElem?_eq_some_iff.mp hold).1]
      rw [hold'] at hj
      refine ⟨[], ?_, fun ev hev => absurd hev List.not_mem_nil⟩
      rw [filter_snoc, hj.1]
      exact if_pos rfl
    next hne =>
      rw [Threads.thread_step hthreads (Ne.symm hne)]
      exact hj.snoc_of_ne hne
  · contradiction

theorem sound_act (hp : Sound wanted work accounts db evs p) {env : StoreEnv}
    {threads : Threads Nat StoreEnv Database StoreCall}
    (h : Threads.step StoreCall.run p.threads (.act i env) = some threads) :
    Sound wanted work accounts db (evs ++ [.act i env]) { p with threads := threads } := by
  refine ⟨hp.pool, exec_snoc hp h, fun j => ?_⟩
  have hj := hp.follows j
  by_cases heq : j = i
  · subst heq
    have hopen : p.threads.thread j ≠ .ret () := by
      intro hret
      rw [Threads.step, hret] at h
      contradiction
    show Follows work _ (threads.thread j) j p.pool.workers[j]?
    have hworking : ∃ acc, p.pool.workers[j]? = some (acc, .working) := by
      cases hw : p.pool.workers[j]? with
      | none =>
        rw [hw] at hj
        exact absurd hj.2 hopen
      | some w =>
        obtain ⟨acc, stage⟩ := w
        rw [hw] at hj
        cases stage with
        | working => exact ⟨acc, rfl⟩
        | started => exact absurd hj.2 hopen
        | worked | leaving | left => exact absurd hj.2 hopen
    obtain ⟨acc, hw⟩ := hworking
    rw [hw] at hj ⊢
    obtain ⟨acts, hfilter, hacts⟩ := hj
    refine ⟨acts ++ [.act j env], ?_, ?_⟩
    · rw [filter_snoc, hfilter]
      exact congrArg _ (if_pos rfl)
    · intro ev hev
      obtain hev | hev := List.mem_append.mp hev
      · exact hacts ev hev
      · exact ⟨env, List.mem_singleton.mp hev⟩
  · show Follows work _ (threads.thread j) j p.pool.workers[j]?
    rw [Threads.thread_step h heq]
    exact hj.snoc_of_ne (Ne.symm heq)

theorem returned_iff {rest : Prog StoreEnv Database StoreCall Unit} :
    rest.returned = true ↔ rest = .ret () := by
  cases rest <;> simp [Prog.returned]

/-- Every step keeps the pool sound and makes at most one event of the threads. -/
theorem step_sound {e : PassEvent} (hp : Sound wanted work accounts db evs p)
    (h : p.step wanted work e = some q) :
    ∃ evs', Sound wanted work accounts db evs' q := by
  cases e with
  | act i env =>
    obtain ⟨threads, hthreads, rfl⟩ := Option.map_eq_some_iff.mp h
    exact ⟨_, sound_act hp hthreads⟩
  | pool e =>
    cases e with
    | enter i =>
      simp only [step, Option.bind_eq_bind, Option.bind_eq_some_iff, Option.some.injEq] at h
      obtain ⟨pool, hpool, ⟨acc, stage⟩, hold, threads, hthreads, rfl⟩ := h
      exact ⟨_, sound_enter hp hpool hold hthreads⟩
    | work i =>
      obtain ⟨hend, h⟩ := Option.ite_none_right_eq_some.mp h
      obtain ⟨pool, hpool, rfl⟩ := Option.map_eq_some_iff.mp h
      exact ⟨evs, sound_work hp hpool (returned_iff.mp hend)⟩
    | next =>
      obtain ⟨pool, hpool, rfl⟩ := Option.map_eq_some_iff.mp h
      exact ⟨evs, sound_next hp hpool⟩
    | exit i =>
      obtain ⟨pool, hpool, rfl⟩ := Option.map_eq_some_iff.mp h
      exact ⟨evs, sound_exit hp hpool⟩
    | leave i =>
      obtain ⟨pool, hpool, rfl⟩ := Option.map_eq_some_iff.mp h
      exact ⟨evs, sound_leave hp hpool⟩
    | wait =>
      obtain ⟨pool, hpool, rfl⟩ := Option.map_eq_some_iff.mp h
      exact ⟨evs, sound_wait hp hpool⟩

theorem run_sound {es : List PassEvent}
    (h : Runs.exec (step wanted work) (start accounts db) es = some q) :
    ∃ evs, Sound wanted work accounts db evs q :=
  Runs.exec_invariant (P := fun _ p => ∃ evs, Sound wanted work accounts db evs p)
    ⟨[], sound_start wanted work accounts db⟩
    (fun _ _ _ _ ⟨_, hp⟩ h => step_sound hp h) h

/-! ## What a pass leaves -/

/-- The account that the worker with this number is for. -/
def keyOf (p : Pass) (i : Nat) : Int := (p.pool.workers[i]?.map fun w => w.1.id).getD 0

/-- The work that was started is that of the workers. -/
theorem Sound.worksFor (hwork : ∀ i acc, (work i acc).accountID = acc.id)
    (hp : Sound wanted work accounts db evs p) : WorksFor p.keyOf evs := by
  intro i q hq
  have hmem : .start i q ∈ evs.filter fun ev => ev.thread = i :=
    List.mem_filter.mpr ⟨hq, decide_eq_true rfl⟩
  have hi := hp.follows i
  have hstarted : ∀ acc acts,
      (evs.filter fun ev => ev.thread = i) = .start i (work i acc).program :: acts →
      (∀ ev ∈ acts, ∃ env, ev = .act i env) → q = (work i acc).program := by
    intro acc acts hfilter hacts
    rw [hfilter] at hmem
    obtain heq | hlater := List.mem_cons.mp hmem
    · cases heq
      rfl
    · obtain ⟨env, henv⟩ := hacts _ hlater
      contradiction
  cases hw : p.pool.workers[i]? with
  | none =>
    rw [hw] at hi
    rw [hi.1] at hmem
    exact absurd hmem List.not_mem_nil
  | some w =>
    obtain ⟨acc, stage⟩ := w
    rw [hw] at hi
    have hkey : (work i acc).accountID = p.keyOf i := by
      rw [hwork, keyOf, hw]
      rfl
    cases stage with
    | started =>
      rw [hi.1] at hmem
      exact absurd hmem List.not_mem_nil
    | working =>
      obtain ⟨acts, hfilter, hacts⟩ := hi
      exact ⟨work i acc, hkey, hstarted acc acts hfilter hacts⟩
    | worked | leaving | left =>
      obtain ⟨⟨acts, hfilter, hacts⟩, -⟩ := hi
      exact ⟨work i acc, hkey, hstarted acc acts hfilter hacts⟩

/-- Threads that have no worker do nothing. -/
theorem Sound.worker_of_event (hp : Sound wanted work accounts db evs p)
    {ev : Programs.Event Nat StoreEnv Database StoreCall} (hev : ev ∈ evs) :
    ∃ w, p.pool.workers[ev.thread]? = some w := by
  cases hw : p.pool.workers[ev.thread]? with
  | some w => exact ⟨w, rfl⟩
  | none =>
    have hnone := hp.follows ev.thread
    rw [hw] at hnone
    have hmem : ev ∈ evs.filter fun other => other.thread = ev.thread :=
      List.mem_filter.mpr ⟨hev, decide_eq_true rfl⟩
    rw [hnone.1] at hmem
    exact absurd hmem List.not_mem_nil

/-- An account that no worker is for is as before. -/
theorem Sound.untouched (hwork : ∀ i acc, (work i acc).accountID = acc.id)
    (hp : Sound wanted work accounts db evs p) {id : Int}
    (hid : ∀ w ∈ p.pool.workers, w.1.id ≠ id) :
    accountPart id p.threads.shared = accountPart id db := by
  obtain ⟨s, hs, hpart, -⟩ := account_work_isolated (hp.worksFor hwork) hp.run id
  have hnone : (evs.filter fun ev => p.keyOf ev.thread = id) = [] := by
    refine List.filter_eq_nil_iff.mpr fun ev hev => ?_
    obtain ⟨w, hw⟩ := hp.worker_of_event hev
    have hne := hid w (List.mem_of_getElem? hw)
    simpa [keyOf, hw] using hne
  rw [hnone] at hs
  obtain rfl := Option.some.inj hs
  exact hpart

/-- What an account has when its worker has left is what its work leaves alone. -/
theorem Sound.alone (hwork : ∀ i acc, (work i acc).accountID = acc.id)
    (hp : Sound wanted work accounts db evs p)
    (hids : (p.pool.workers.map fun w => w.1.id).Nodup) {acc : Account}
    (hw : p.pool.workers[i]? = some (acc, .left)) :
    ∃ db', (work i acc).program.Ends StoreCall.run db () db' ∧
      accountPart acc.id p.threads.shared = accountPart acc.id db' := by
  obtain ⟨s, hs, hpart, hthread⟩ := account_work_isolated (hp.worksFor hwork) hp.run acc.id
  have hi := hp.follows i
  rw [hw] at hi
  obtain ⟨⟨acts, hfilter, hacts⟩, hend⟩ := hi
  have hkey : p.keyOf i = acc.id := by rw [keyOf, hw]; rfl
  -- the events of the account are those of the one worker for it
  have hown : (evs.filter fun ev => p.keyOf ev.thread = acc.id) =
      evs.filter fun ev => ev.thread = i := by
    refine List.filter_congr fun ev hev => ?_
    obtain ⟨w, hw'⟩ := hp.worker_of_event hev
    have hkey' : p.keyOf ev.thread = w.1.id := by rw [keyOf, hw']; rfl
    refine decide_eq_decide.mpr ⟨fun heq => ?_, fun heq => heq ▸ hkey⟩
    have hlt : ev.thread < (p.pool.workers.map fun w => w.1.id).length := by
      rw [List.length_map]
      exact (List.getElem?_eq_some_iff.mp hw').1
    refine (List.getElem?_inj hlt hids).mp ?_
    rw [List.getElem?_map, List.getElem?_map, hw', hw]
    exact congrArg some (hkey'.symm.trans heq)
  rw [hown, hfilter] at hs
  obtain ⟨first, hfirst, hrest⟩ := Option.bind_eq_some_iff.mp hs
  obtain rfl := Option.some.inj hfirst
  have hdone := hthread i hkey
  rw [hend] at hdone
  have hends := Threads.ends_of_exec hrest hacts hdone.symm
  dsimp only at hends
  rw [Function.update_self] at hends
  exact ⟨s.shared, hends, hpart⟩

/-- Before the wait is over something can happen. -/
theorem Sound.can_step (hp : Sound wanted work accounts db evs p) (env : StoreEnv)
    (h : p.pool.isOver = false) : ∃ e, (p.step wanted work e).isSome = true := by
  obtain ⟨e, he⟩ := hp.pool.can_step (by decide) h
  obtain ⟨pool, hpool⟩ := Option.isSome_iff_exists.mp he
  cases e with
  | work i =>
    cases hrest : p.threads.thread i with
    | ret => exact ⟨.pool (.work i), by simp [step, hrest, Prog.returned, hpool]⟩
    | read next => exact ⟨.act i env, by simp [step, Threads.step, hrest]⟩
    | write w next => exact ⟨.act i env, by simp [step, Threads.step, hrest]⟩
  | enter i =>
    have hi := hp.follows i
    have hstarted : ∃ acc, p.pool.workers[i]? = some (acc, .started) := by
      rw [Pool.step] at hpool
      split at hpool
      next acc hw => exact ⟨acc, hw⟩
      · contradiction
    obtain ⟨acc, hw⟩ := hstarted
    rw [hw] at hi
    exact ⟨.pool (.enter i), by simp [step, hpool, hw, Threads.step, hi.2]⟩
  | next => exact ⟨.pool .next, by simp [step, hpool]⟩
  | exit i => exact ⟨.pool (.exit i), by simp [step, hpool]⟩
  | leave i => exact ⟨.pool (.leave i), by simp [step, hpool]⟩
  | wait => exact ⟨.pool .wait, by simp [step, hpool]⟩

/-- What holds in every state of a pass over accounts with different numbers. -/
structure Orderly (wanted : Account → Bool) (work : Nat → Account → BackgroundWork)
    (accounts : List Account) (db : Database) (p : Pass) : Prop where
  bounded : (p.pool.workers.countP fun w => w.2 = .working) ≤ maxConcurrency
  can_step : ∀ _ : StoreEnv, p.pool.isOver = false → ∃ e, (p.step wanted work e).isSome = true
  done : p.pool.isOver = true → p.pool.done.Perm (accounts.filter wanted)
  /-- An account that was wanted has what its own work leaves alone. -/
  alone : p.pool.isOver = true → ∀ acc ∈ accounts, wanted acc = true →
    ∃ i db', (work i acc).program.Ends StoreCall.run db () db' ∧
      accountPart acc.id p.threads.shared = accountPart acc.id db'
  untouched : ∀ id, (∀ acc ∈ accounts, wanted acc = true → acc.id ≠ id) →
    accountPart id p.threads.shared = accountPart id db

theorem orderly (hwork : ∀ i acc, (work i acc).accountID = acc.id)
    (hids : (accounts.map fun acc => acc.id).Nodup) {es : List PassEvent}
    (h : Runs.exec (step wanted work) (start accounts db) es = some p) :
    Orderly wanted work accounts db p := by
  obtain ⟨evs, hp⟩ := run_sound h
  refine ⟨hp.pool.working_le, fun env => hp.can_step env, fun hover => hp.pool.done_of_over hover,
    fun hover acc hacc hwanted => ?_, fun id hid => hp.untouched hwork fun w hw => ?_⟩
  · obtain ⟨hworkers, hleft⟩ := hp.pool.workers_of_over hover
    have hmem : acc ∈ p.pool.workers.map Prod.fst := by
      rw [hworkers]
      exact List.mem_filter.mpr ⟨hacc, hwanted⟩
    obtain ⟨⟨acc, stage⟩, hw, rfl⟩ := List.mem_map.mp hmem
    obtain ⟨i, hi⟩ := List.mem_iff_getElem?.mp hw
    obtain rfl := hleft _ hw
    have hnodup : (p.pool.workers.map fun w => w.1.id).Nodup := by
      have hsame : (p.pool.workers.map fun w => w.1.id) =
          (p.pool.workers.map Prod.fst).map fun acc => acc.id := by
        rw [List.map_map]
        rfl
      rw [hsame, hworkers]
      exact (List.filter_sublist.map _).nodup hids
    exact ⟨i, hp.alone hwork hnodup hi⟩
  · obtain ⟨past, hitems, hworkers⟩ := hp.pool.items
    have hmem : w.1 ∈ past.filter wanted := hworkers ▸ List.mem_map_of_mem hw
    obtain ⟨hpast, hwanted⟩ := List.mem_filter.mp hmem
    exact hid w.1 (hitems ▸ List.mem_append_left _ hpast) hwanted

end Follows

end Pass

/-! ## The accounts of a pass -/

/-- Every account is under its number. -/
def ByNumber (m : GoMap Int Account) : Prop := ∀ id acc, m.get? id = some acc → acc.id = id

theorem byNumber_put {m : GoMap Int Account} (hm : ByNumber m) (acc : Account) :
    ByNumber (m.put acc.id acc) := by
  intro id acc' h
  rw [GoMap.get?_put] at h
  split at h
  next heq => rw [← Option.some.inj h, heq]
  · exact hm id acc' h

theorem byNumber_update {m : GoMap Int Account} (hm : ByNumber m) (k : Int) {f : Account → Account}
    (hf : ∀ acc, (f acc).id = acc.id) : ByNumber (m.update k f) := by
  intro id acc' h
  rw [GoMap.get?_update] at h
  split at h
  · obtain ⟨acc, hacc, rfl⟩ := Option.map_eq_some_iff.mp h
    rw [hf]
    exact hm id acc hacc
  · exact hm id acc' h

theorem byNumber_foldl {β : Type} {f : GoMap Int Account → β → GoMap Int Account}
    (hf : ∀ m b, ByNumber m → ByNumber (f m b)) (bs : List β) {m : GoMap Int Account}
    (hm : ByNumber m) : ByNumber (bs.foldl f m) := by
  induction bs generalizing m with
  | nil => exact hm
  | cons b bs ih => exact ih (hf m b hm)

/-- Whichever of its reads fail, a load has every account under its number. -/
theorem byNumber_loadFromDB (reads : TableReads) : ByNumber (loadFromDB reads).accounts := by
  have hloaded : ByNumber ((reads.accounts.getD []).foldl
      (fun (m : GoMap Int Account) acc => m.put acc.id acc) Table.empty) :=
    byNumber_foldl (fun m acc hm => byNumber_put hm acc) _ fun id acc h => by contradiction
  show ByNumber (loadAccountDiagnostics _ reads.diagnostics)
  unfold loadAccountDiagnostics
  split
  · intro id acc' h
    rw [GoMap.get?_mapValues] at h
    obtain ⟨acc, hacc, rfl⟩ := Option.map_eq_some_iff.mp h
    exact hloaded id acc hacc
  · exact byNumber_foldl (fun m d hm => byNumber_update hm d.1
      (f := (attachAccountDiagnostic · d.2)) fun _ => rfl) _ hloaded

/-- `GetAccounts` returns no number twice. -/
theorem nodup_getAccounts {m : GoMap Int Account} (hm : ByNumber m) {accounts : List Account}
    (h : accounts.Perm m.values) : (accounts.map fun acc => acc.id).Nodup := by
  refine (h.map _).nodup_iff.mpr ?_
  have hkeys : m.values.map (fun acc => acc.id) = m.rows.map Prod.fst := by
    rw [GoMap.values, List.map_map]
    refine List.map_congr_left fun r hr => hm r.1 r.2 ?_
    rw [GoMap.get?, (Table.find?_eq_some_iff (t := m)).mpr ⟨hr, rfl⟩]
    rfl
  rw [hkeys]
  exact m.nodup

/-! ## The passes of the checker -/

/-- What `checkAll` starts, with what each check meets outside. -/
def checks (io : Nat → CheckIO) (i : Nat) (acc : Account) : BackgroundWork := .checkOne (io i) acc

/-- The text is a time, and that is after `t`. -/
def isAfter (text : Str) (t : Int) : Bool := (parse spaced text).any (t < ·)

/-- The targets of `fetchCodexQuotas`; `now` is the time at which an account is looked at. -/
def quotaDue (cutoff : Int) (now : Account → Int) (acc : Account) : Bool :=
  if acc.sourceKind ≠ lit "cpa" ∨ acc.cpaProvider ≠ lit "codex" then false
  else if !acc.enabled || acc.cpaDisabled then false
  else if acc.cpaOpenaiID = [] then false
  else if acc.codexQuotaFetchedAt ≠ [] ∧ isAfter acc.codexQuotaFetchedAt cutoff then false
  else if acc.cpaQuotaBackoffUntil ≠ [] ∧ isAfter acc.cpaQuotaBackoffUntil (now acc) then false
  else true

/-- What `fetchCodexQuotas` starts. -/
def quotaFetches (c : Checker) (io : Nat → RefreshIO) (i : Nat) (acc : Account) : BackgroundWork :=
  .refreshAccount c (io i) acc { quota := true, waitAuthIndex := true }

/-- In whatever order the goroutines of `checkAll` go on, at most `maxConcurrency` work at a
time, none waits for ever, and when the wait is over every enabled account of the cache has what
a check of it alone leaves and no other account is touched. -/
theorem checkAll_orderly {reads : TableReads} {accounts : List Account}
    (hlist : accounts.Perm (loadFromDB reads).accounts.values) {io : Nat → CheckIO}
    {db : Database} {es : List PassEvent} {p : Pass}
    (h : Runs.exec (Pass.step (fun acc => acc.enabled) (checks io)) (.start accounts db) es =
      some p) :
    Pass.Orderly (fun acc => acc.enabled) (checks io) accounts db p :=
  Pass.orderly (fun _ _ => rfl) (nodup_getAccounts (byNumber_loadFromDB reads) hlist) h

/-- An account that is used and one that is not. -/
def twoAccounts : Database :=
  { accounts := Table.ofList
      [{ id := 1, status := lit "healthy" }, { id := 2, status := lit "healthy", enabled := false }] }

/-- What `GetAccounts` returns when the cache is loaded from them. -/
def twoCached : List Account :=
  (loadFromDB (twoAccounts.tableReads (secondsIn 0).now)).accounts.values

/-- One check is made, which discovers a model. -/
def oneCheck : List PassEvent :=
  [.pool .next, .pool (.enter 0), .act 0 (secondsIn 1), .pool .next] ++
    List.replicate 4 (.act 0 (secondsIn 2)) ++
    [.pool (.work 0), .pool (.exit 0), .pool (.leave 0), .pool .wait]

theorem isSome_oneCheck :
    (Runs.exec (Pass.step (fun acc => acc.enabled)
      (checks fun _ => { snap := {}, discovery := { answer := .ok [lit "gpt"] } }))
      (.start twoCached twoAccounts) oneCheck).isSome = true := by
  decide +kernel

theorem oneCheck_orderly :
    Pass.Orderly (fun acc => acc.enabled)
      (checks fun _ => { snap := {}, discovery := { answer := .ok [lit "gpt"] } })
      twoCached twoAccounts (Option.get _ isSome_oneCheck) :=
  checkAll_orderly (List.Perm.refl _) (Option.some_get isSome_oneCheck).symm

/-- The same of `fetchCodexQuotas`: every target has what a refresh of its quota leaves when
nothing else is going on, and the accounts that are not due are not touched. -/
theorem fetchCodexQuotas_orderly {reads : TableReads} {accounts : List Account}
    (hlist : accounts.Perm (loadFromDB reads).accounts.values) {cutoff : Int}
    {now : Account → Int} {c : Checker} {io : Nat → RefreshIO} {db : Database}
    {es : List PassEvent} {p : Pass}
    (h : Runs.exec (Pass.step (fun _ => true) (quotaFetches c io))
      (.start (accounts.filter (quotaDue cutoff now)) db) es = some p) :
    Pass.Orderly (fun _ => true) (quotaFetches c io) (accounts.filter (quotaDue cutoff now)) db p ∧
      ∀ acc ∈ accounts, quotaDue cutoff now acc = false →
        accountPart acc.id p.threads.shared = accountPart acc.id db := by
  have hids := nodup_getAccounts (byNumber_loadFromDB reads) hlist
  have horderly : Pass.Orderly (fun _ => true) (quotaFetches c io)
      (accounts.filter (quotaDue cutoff now)) db p :=
    Pass.orderly (fun _ _ => rfl) ((List.filter_sublist.map _).nodup hids) h
  refine ⟨horderly, fun acc hacc hnotdue => horderly.untouched acc.id fun other hother _ heq => ?_⟩
  obtain ⟨hmem, hdue⟩ := List.mem_filter.mp hother
  obtain rfl := List.inj_on_of_nodup_map hids hmem hacc heq
  rw [hnotdue] at hdue
  contradiction

/-- Two accounts of one service; the quota of the second is not asked for until July. -/
def quotaDatabase : Database :=
  let acc : AccountRow :=
    { id := 1, sourceKind := lit "cpa", cpaServiceID := some 1, cpaProvider := lit "codex",
      cpaAccountKey := lit "k", cpaOpenaiID := lit "o" }
  { accounts := Table.ofList [acc, { acc with id := 2, cpaQuotaBackoffUntil := lit "2026-07-01 00:00:00" }]
    cpaServices := Table.empty.set { id := 1, managementKey := lit "m" } }

/-- What `GetAccounts` returns when the cache is loaded from them. -/
def quotaCached : List Account :=
  (loadFromDB (quotaDatabase.tableReads (secondsIn 0).now)).accounts.values

/-- The quota of the first account is fetched. -/
def oneFetch : List PassEvent :=
  [.pool .next, .pool (.enter 0)] ++ List.replicate 12 (.act 0 (secondsIn 1)) ++
    [.pool (.work 0), .pool (.exit 0), .pool (.leave 0), .pool .wait]

theorem isSome_oneFetch :
    (Runs.exec (Pass.step (fun _ => true) (quotaFetches activeTokens.toChecker fun _ => freshIO))
      (.start (quotaCached.filter (quotaDue 0 fun _ => 0)) quotaDatabase) oneFetch).isSome =
        true := by
  decide +kernel

theorem oneFetch_orderly :
    Pass.Orderly (fun _ => true) (quotaFetches activeTokens.toChecker fun _ => freshIO)
        (quotaCached.filter (quotaDue 0 fun _ => 0)) quotaDatabase
        (Option.get _ isSome_oneFetch) ∧
      ∀ acc ∈ quotaCached, quotaDue 0 (fun _ => 0) acc = false →
        accountPart acc.id (Option.get _ isSome_oneFetch).threads.shared =
          accountPart acc.id quotaDatabase :=
  fetchCodexQuotas_orderly (List.Perm.refl _) (Option.some_get isSome_oneFetch).symm

end Lune.Health
