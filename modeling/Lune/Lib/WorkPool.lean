import Lune.Lib.Runs
import Mathlib.Data.List.Perm.Basic
import Mathlib.Algebra.BigOperators.Group.List.Basic
import Mathlib.Algebra.Ring.Nat

/-!
# Workers behind a semaphore

A loop goes through a list and starts a worker for every item that is wanted; then it waits
for all of them.  A worker takes a place in a buffered channel, works on its item, gives the
place back and counts down the wait group.

`Pool.Sound` says what the channel and the wait group count, and what the workers are.  It
gives the bound on the workers that work at one time, what has been done when the wait is
over, and that something can always happen before that.  `Pool.rank` gets smaller with every
step, so every run comes to its end.
-/

namespace WorkPool

variable {α : Type}

/-- Where a worker is. -/
inductive Stage where
  /-- Before the send on the channel. -/
  | started
  | working
  /-- Before the receive from the channel. -/
  | worked
  /-- Before `Done`. -/
  | leaving
  | left
deriving DecidableEq

/-- The worker has a place in the channel. -/
def Stage.holds : Stage → Bool
  | .working | .worked => true
  | .started | .leaving | .left => false

/-- The worker has worked on its item. -/
def Stage.hasWorked : Stage → Bool
  | .started | .working => false
  | .worked | .leaving | .left => true

/-- The steps that the worker has left. -/
def Stage.rank : Stage → Nat
  | .started => 4
  | .working => 3
  | .worked => 2
  | .leaving => 1
  | .left => 0

/-- The loop, the workers in the order in which they were started, what is in the channel, the
counter of the wait group, the items that were worked on, and whether the wait is over. -/
structure Pool (α : Type) where
  queue : List α
  workers : List (α × Stage) := []
  held : Nat := 0
  count : Nat := 0
  done : List α := []
  isOver : Bool := false

inductive Event where
  /-- The loop comes to its next item. -/
  | next
  | enter (i : Nat)
  | work (i : Nat)
  | exit (i : Nat)
  | leave (i : Nat)
  /-- `Wait` returns. -/
  | wait

namespace Pool

/-- A worker goes on. -/
def move (p : Pool α) (i : Nat) (a : α) (stage : Stage) : Pool α :=
  { p with workers := p.workers.set i (a, stage) }

/-- The next state, when the event can happen. -/
def step (wanted : α → Bool) (limit : Nat) (p : Pool α) : Event → Option (Pool α)
  | .next =>
    match p.queue with
    | [] => none
    | a :: rest =>
      if wanted a then
        some { p with queue := rest, workers := p.workers ++ [(a, .started)], count := p.count + 1 }
      else some { p with queue := rest }
  | .enter i =>
    match p.workers[i]? with
    | some (a, .started) =>
      if p.held < limit then some { p.move i a .working with held := p.held + 1 } else none
    | _ => none
  | .work i =>
    match p.workers[i]? with
    | some (a, .working) => some { p.move i a .worked with done := p.done ++ [a] }
    | _ => none
  | .exit i =>
    match p.workers[i]? with
    | some (a, .worked) =>
      if 0 < p.held then some { p.move i a .leaving with held := p.held - 1 } else none
    | _ => none
  | .leave i =>
    match p.workers[i]? with
    | some (a, .leaving) => some { p.move i a .left with count := p.count - 1 }
    | _ => none
  | .wait =>
    if p.queue = [] ∧ p.count = 0 ∧ p.isOver = false then some { p with isOver := true } else none

/-- What the channel and the wait group count, and what the workers are. -/
structure Sound (wanted : α → Bool) (limit : Nat) (items : List α) (p : Pool α) : Prop where
  held : p.held = p.workers.countP fun w => w.2.holds
  bound : p.held ≤ limit
  count : p.count = p.workers.countP fun w => w.2 ≠ .left
  items : ∃ past, items = past ++ p.queue ∧ p.workers.map Prod.fst = past.filter wanted
  done : p.done.Perm ((p.workers.filter fun w => w.2.hasWorked).map Prod.fst)
  isOver : p.isOver = true → p.queue = [] ∧ p.count = 0

section Sound

variable {wanted : α → Bool} {limit : Nat} {items : List α} {p q : Pool α} {i : Nat} {a : α}
  {old new : Stage}

theorem sound_start (wanted : α → Bool) (limit : Nat) (items : List α) :
    Sound wanted limit items { queue := items } :=
  ⟨rfl, Nat.zero_le limit, rfl, ⟨[], rfl, rfl⟩, .nil, fun h => by contradiction⟩

/-- The workers on both sides of one of them. -/
theorem split_workers (h : p.workers[i]? = some (a, old)) :
    ∃ before after, p.workers = before ++ (a, old) :: after ∧
      ∀ stage, (p.move i a stage).workers = before ++ (a, stage) :: after := by
  obtain ⟨hlt, hget⟩ := List.getElem?_eq_some_iff.mp h
  refine ⟨p.workers.take i, p.workers.drop (i + 1), ?_, fun stage => ?_⟩
  · rw [← hget]
    exact (List.take_append_drop i p.workers).symm.trans
      (congrArg _ (List.drop_eq_getElem_cons hlt))
  · exact List.set_eq_take_append_cons_drop.trans (if_pos hlt)

/-- What a worker that goes on changes in what is counted, the rest being the same. -/
theorem countP_move (h : p.workers[i]? = some (a, old)) (new : Stage) (f : Stage → Bool) :
    ((p.move i a new).workers.countP fun w => f w.2) + (if f old then 1 else 0) =
      (p.workers.countP fun w => f w.2) + if f new then 1 else 0 := by
  obtain ⟨before, after, hold, hnew⟩ := split_workers h
  rw [hold, hnew, List.countP_append, List.countP_append, List.countP_cons, List.countP_cons]
  dsimp only
  omega

theorem items_move (h : p.workers[i]? = some (a, old)) (new : Stage) :
    (p.move i a new).workers.map Prod.fst = p.workers.map Prod.fst := by
  obtain ⟨before, after, hold, hnew⟩ := split_workers h
  rw [hold, hnew]
  simp

/-- The items that were worked on, when a worker goes on. -/
theorem worked_move (h : p.workers[i]? = some (a, old)) (new : Stage) :
    (((p.move i a new).workers.filter fun w => w.2.hasWorked).map Prod.fst ++
        if old.hasWorked then [a] else []).Perm
      ((p.workers.filter fun w => w.2.hasWorked).map Prod.fst ++
        if new.hasWorked then [a] else []) := by
  obtain ⟨before, after, hold, hnew⟩ := split_workers h
  have hlast : ∀ xs ys : List α, (xs ++ a :: ys).Perm (xs ++ (ys ++ [a])) := fun xs ys =>
    (List.perm_append_singleton a ys).symm.append_left xs
  rw [hold, hnew, List.filter_append, List.filter_append, List.filter_cons, List.filter_cons]
  cases hold : old.hasWorked <;> cases hnew : new.hasWorked
  · simp
  · simpa using hlast _ _
  · simpa using (hlast _ _).symm
  · simp

/-- A step of a worker keeps what is counted. -/
theorem Sound.move (hp : Sound wanted limit items p) (h : p.workers[i]? = some (a, old))
    (new : Stage) {held count : Nat} {done : List α}
    (hheld : held + (if old.holds then 1 else 0) = p.held + if new.holds then 1 else 0)
    (hbound : held ≤ limit)
    (hcount : count + (if old ≠ .left then 1 else 0) = p.count + if new ≠ .left then 1 else 0)
    (hdone : (done ++ if old.hasWorked then [a] else []).Perm
      (p.done ++ if new.hasWorked then [a] else [])) (hold : old ≠ .left) :
    Sound wanted limit items { p.move i a new with held := held, count := count, done := done } := by
  have hopen : 0 < p.count := by
    rw [hp.count, List.countP_pos_iff]
    exact ⟨(a, old), List.mem_of_getElem? h, by simpa using hold⟩
  constructor
  case held =>
    have := countP_move h new Stage.holds
    have := hp.held
    show held = List.countP _ (p.move i a new).workers
    omega
  case bound => exact hbound
  case count =>
    have := countP_move h new fun stage => decide (stage ≠ .left)
    have := hp.count
    show count = List.countP _ (p.move i a new).workers
    simp only [decide_eq_true_eq] at *
    omega
  case items =>
    obtain ⟨past, hitems, hworkers⟩ := hp.items
    exact ⟨past, hitems, (items_move h new).trans hworkers⟩
  case done =>
    have hworked := worked_move h new
    have hbefore := hp.done
    refine (List.perm_append_right_iff (if old.hasWorked then [a] else [])).mp ?_
    exact hdone.trans ((hbefore.append_right _).trans hworked.symm)
  case isOver => exact fun hover => absurd (hp.isOver hover).2 (Nat.pos_iff_ne_zero.mp hopen)

/-- Every step keeps the counts. -/
theorem step_sound {e : Event} (h : p.step wanted limit e = some q)
    (hp : Sound wanted limit items p) : Sound wanted limit items q := by
  cases e with
  | next =>
    rw [step] at h
    split at h
    · contradiction
    next b rest hqueue =>
      obtain ⟨past, hitems, hworkers⟩ := hp.items
      have hnext : items = (past ++ [b]) ++ rest := by
        rw [hitems, hqueue, List.append_assoc]
        rfl
      have hover : p.isOver = true → False := by
        intro hover
        have hempty := (hp.isOver hover).1
        rw [hqueue] at hempty
        contradiction
      split at h
      next hwanted =>
        obtain rfl := Option.some.inj h
        constructor
        case held =>
          show p.held = List.countP _ (p.workers ++ [(b, .started)])
          rw [List.countP_append, ← hp.held]
          rfl
        case bound => exact hp.bound
        case count =>
          show p.count + 1 = List.countP _ (p.workers ++ [(b, .started)])
          rw [List.countP_append, ← hp.count]
          rfl
        case items =>
          refine ⟨past ++ [b], hnext, ?_⟩
          rw [List.map_append, hworkers, List.filter_append, List.filter_singleton, hwanted]
          rfl
        case done =>
          show p.done.Perm (((p.workers ++ [(b, Stage.started)]).filter _).map _)
          rw [List.filter_append]
          simpa [Stage.hasWorked] using hp.done
        case isOver => exact fun h => (hover h).elim
      next hwanted =>
        obtain rfl := Option.some.inj h
        refine ⟨hp.held, hp.bound, hp.count, ⟨past ++ [b], hnext, ?_⟩, hp.done,
          fun h => (hover h).elim⟩
        simp [hworkers, hwanted]
  | enter i =>
    rw [step] at h
    split at h
    next a hworker =>
      obtain ⟨hlimit, h⟩ := Option.ite_none_right_eq_some.mp h
      obtain rfl := Option.some.inj h
      exact Sound.move hp hworker .working rfl hlimit rfl (.refl _) (by decide)
    · contradiction
  | work i =>
    rw [step] at h
    split at h
    next a hworker =>
      obtain rfl := Option.some.inj h
      exact Sound.move hp hworker .worked rfl hp.bound rfl (by simp [Stage.hasWorked]) (by decide)
    · contradiction
  | exit i =>
    rw [step] at h
    split at h
    next a hworker =>
      obtain ⟨hheld, h⟩ := Option.ite_none_right_eq_some.mp h
      obtain rfl := Option.some.inj h
      exact Sound.move hp hworker .leaving (Nat.sub_add_cancel hheld)
        (Nat.le_trans (Nat.sub_le _ _) hp.bound) rfl (.refl _) (by decide)
    · contradiction
  | leave i =>
    rw [step] at h
    split at h
    next a hworker =>
      obtain rfl := Option.some.inj h
      have hopen : 0 < p.count := by
        rw [hp.count, List.countP_pos_iff]
        exact ⟨(a, .leaving), List.mem_of_getElem? hworker, rfl⟩
      exact Sound.move hp hworker .left rfl hp.bound (Nat.sub_add_cancel hopen) (.refl _)
        (by decide)
    · contradiction
  | wait =>
    obtain ⟨⟨hqueue, hcount, -⟩, h⟩ := Option.ite_none_right_eq_some.mp h
    obtain rfl := Option.some.inj h
    exact ⟨hp.held, hp.bound, hp.count, hp.items, hp.done, fun _ => ⟨hqueue, hcount⟩⟩

/-! ## What follows -/

/-- No more workers work at one time than there are places. -/
theorem Sound.working_le (hp : Sound wanted limit items p) :
    (p.workers.countP fun w => w.2 = .working) ≤ limit := by
  refine Nat.le_trans ?_ (hp.held ▸ hp.bound)
  refine List.countP_mono_left fun w _ hw => ?_
  rw [of_decide_eq_true hw]
  rfl

/-- When the wait is over, there was a worker for every item that is wanted, and all have
left. -/
theorem Sound.workers_of_over (hp : Sound wanted limit items p) (h : p.isOver = true) :
    p.workers.map Prod.fst = items.filter wanted ∧ ∀ w ∈ p.workers, w.2 = .left := by
  obtain ⟨hqueue, hcount⟩ := hp.isOver h
  obtain ⟨past, hitems, hworkers⟩ := hp.items
  rw [hqueue, List.append_nil] at hitems
  refine ⟨hitems ▸ hworkers, fun w hw => ?_⟩
  have hzero := hp.count.symm.trans hcount
  rw [List.countP_eq_zero] at hzero
  simpa using hzero w hw

/-- When the wait is over, every item that is wanted was worked on once, and no other. -/
theorem Sound.done_of_over (hp : Sound wanted limit items p) (h : p.isOver = true) :
    p.done.Perm (items.filter wanted) := by
  obtain ⟨hworkers, hleft⟩ := hp.workers_of_over h
  have hall : (p.workers.filter fun w => w.2.hasWorked) = p.workers :=
    List.filter_eq_self.mpr fun w hw => by rw [hleft w hw]; rfl
  rw [← hworkers, ← hall]
  exact hp.done

/-- Before the wait is over something can happen. -/
theorem Sound.can_step (hp : Sound wanted limit items p) (hlimit : 0 < limit)
    (h : p.isOver = false) : ∃ e, (p.step wanted limit e).isSome = true := by
  cases hqueue : p.queue with
  | cons b rest =>
    refine ⟨.next, ?_⟩
    rw [step, hqueue]
    dsimp only
    split <;> rfl
  | nil =>
    by_cases hcount : p.count = 0
    · exact ⟨.wait, by rw [step, if_pos ⟨hqueue, hcount, h⟩]; rfl⟩
    · rw [hp.count] at hcount
      obtain ⟨⟨a, stage⟩, hmem, hopen⟩ := List.countP_pos_iff.mp (Nat.pos_of_ne_zero hcount)
      obtain ⟨i, hi⟩ := List.mem_iff_getElem?.mp hmem
      cases stage with
      | started =>
        by_cases hheld : p.held < limit
        · exact ⟨.enter i, by rw [step, hi]; dsimp only; rw [if_pos hheld]; rfl⟩
        · -- the channel is full, so one of those in it can go on
          have hfull : 0 < p.workers.countP fun w => w.2.holds := by
            rw [← hp.held]
            omega
          obtain ⟨⟨b, holder⟩, hholder, hholds⟩ := List.countP_pos_iff.mp hfull
          obtain ⟨j, hj⟩ := List.mem_iff_getElem?.mp hholder
          cases holder with
          | working => exact ⟨.work j, by rw [step, hj]; rfl⟩
          | worked =>
            refine ⟨.exit j, ?_⟩
            rw [step, hj]
            dsimp only
            rw [if_pos (by omega)]
            rfl
          | started | leaving | left => contradiction
      | working => exact ⟨.work i, by rw [step, hi]; rfl⟩
      | worked =>
        have hheld : 0 < p.held := by
          rw [hp.held, List.countP_pos_iff]
          exact ⟨(a, .worked), hmem, rfl⟩
        refine ⟨.exit i, ?_⟩
        rw [step, hi]
        dsimp only
        rw [if_pos hheld]
        rfl
      | leaving => exact ⟨.leave i, by rw [step, hi]; rfl⟩
      | left => simp at hopen

end Sound

/-! ## The end -/

section Rank

variable {wanted : α → Bool} {limit : Nat} {items : List α} {p q : Pool α}

/-- A bound on the steps that are left. -/
def rank (p : Pool α) : Nat :=
  5 * p.queue.length + (p.workers.map fun w => w.2.rank).sum + if p.isOver then 0 else 1

theorem rank_move {i : Nat} {a : α} {old : Stage} (h : p.workers[i]? = some (a, old))
    (new : Stage) :
    ((p.move i a new).workers.map fun w => w.2.rank).sum + old.rank =
      (p.workers.map fun w => w.2.rank).sum + new.rank := by
  obtain ⟨before, after, hold, hnew⟩ := split_workers h
  rw [hold, hnew]
  simp only [List.map_append, List.map_cons, List.sum_append, List.sum_cons]
  omega

theorem rank_lt {i : Nat} {a : α} {old : Stage} (h : p.workers[i]? = some (a, old)) (new : Stage)
    (hlt : new.rank < old.rank) (hqueue : q.queue = p.queue) (hover : q.isOver = p.isOver)
    (hworkers : q.workers = (p.move i a new).workers) : q.rank < p.rank := by
  have := rank_move h new
  unfold rank
  rw [hqueue, hover, hworkers]
  omega

/-- Every step leaves fewer steps. -/
theorem step_rank {e : Event} (h : p.step wanted limit e = some q) : q.rank < p.rank := by
  cases e with
  | next =>
    rw [step] at h
    split at h
    · contradiction
    next b rest hqueue =>
      split at h <;> obtain rfl := Option.some.inj h <;> unfold rank <;> rw [hqueue]
      · simp only [List.map_append, List.sum_append, List.length_cons, List.map_cons, List.map_nil,
          List.sum_cons, List.sum_nil, Stage.rank]
        omega
      · simp only [List.length_cons]
        omega
  | enter i =>
    rw [step] at h
    split at h
    next a hworker =>
      obtain ⟨-, h⟩ := Option.ite_none_right_eq_some.mp h
      obtain rfl := Option.some.inj h
      exact rank_lt hworker .working (by decide) rfl rfl rfl
    · contradiction
  | work i =>
    rw [step] at h
    split at h
    next a hworker =>
      obtain rfl := Option.some.inj h
      exact rank_lt hworker .worked (by decide) rfl rfl rfl
    · contradiction
  | exit i =>
    rw [step] at h
    split at h
    next a hworker =>
      obtain ⟨-, h⟩ := Option.ite_none_right_eq_some.mp h
      obtain rfl := Option.some.inj h
      exact rank_lt hworker .leaving (by decide) rfl rfl rfl
    · contradiction
  | leave i =>
    rw [step] at h
    split at h
    next a hworker =>
      obtain rfl := Option.some.inj h
      exact rank_lt hworker .left (by decide) rfl rfl rfl
    · contradiction
  | wait =>
    obtain ⟨⟨-, -, hover⟩, h⟩ := Option.ite_none_right_eq_some.mp h
    obtain rfl := Option.some.inj h
    simp [rank, hover]

/-- A run is no longer than the first state allows. -/
theorem exec_length {es : List Event} (h : Runs.exec (step wanted limit) p es = some q) :
    es.length + q.rank ≤ p.rank := by
  induction es generalizing p with
  | nil =>
    obtain rfl := Option.some.inj h
    simp
  | cons e es ih =>
    obtain ⟨r, hr, hrest⟩ := Option.bind_eq_some_iff.mp h
    have hlast := ih hrest
    have hfirst := step_rank hr
    rw [List.length_cons]
    omega

theorem exec_sound {es : List Event}
    (h : Runs.exec (step wanted limit) { queue := items } es = some q) :
    Sound wanted limit items q :=
  Runs.exec_invariant (P := fun _ p => Sound wanted limit items p) (sound_start wanted limit items)
    (fun _ _ _ _ hp h => step_sound h hp) h

end Rank

end Pool

end WorkPool
