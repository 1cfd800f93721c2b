import Lune.Notify.Copies

/-!
# One alert for each window

`Dispatch` asks for recent deliveries, then for rows that wait, and inserts.  The unique
index keeps the rows that wait apart.  The deliveries are asked for once: one that is
recorded after the question is not seen, and once its row is gone nothing else refuses
the insertion.
-/

namespace Lune.Notify

open GoText Keyed KeyedLocks Calendar TimeText Store

/-! ## Enqueued notifications -/

/-- The delivery counts for the request. -/
def Request.counts (r : Request) (d : NotificationDelivery) : Bool :=
  d.channelID == singletonChannelID && d.dedupKey == r.dedupKey

/-- The delivery was recorded before the window of the request. -/
def Request.Before (r : Request) (now : Clock) (d : NotificationDelivery) : Prop :=
  ∀ recorded : Clock, d.createdAt = recorded.datetime → (recorded.seconds : Int) < r.since now

namespace Task

/-- The request of a call that has not found recent deliveries. -/
def window : Task → Option (Request × Nat)
  | dispatch step => step.window
  | _ => none

/-- The request that the next step of the task inserts. -/
def inserting : Task → Option (Request × Nat)
  | dispatch (.insert r seen) => some (r, seen)
  | _ => none

end Task

/-- An accepted insertion: the request, its time and the deliveries recorded by then. -/
structure Enqueue where
  request : Request
  now : Clock
  deliveries : List NotificationDelivery

/-- The insertion of a step, if the index has accepted it. -/
def System.enqueue (s : System) (e : Event) (t : System) : List Enqueue :=
  match (s.acting e).bind Task.inserting with
  | some (r, _) => if s.nextSerial < t.nextSerial then [⟨r, s.now, s.tables.deliveries⟩] else []
  | none => []

/-- The accepted insertions of a run. -/
def System.enqueues (env : NotifyEnv) (s : System) (tr : List Event) : List Enqueue :=
  Runs.observed System.enqueue (System.step env) s tr

/-- When the row of a request goes in, no delivery for it was recorded since it asked, or
a row with its key still waits. -/
def NothingRecorded (s : System) (e : Event) : Prop :=
  ∀ task ∈ s.acting e, ∀ w ∈ task.inserting, w.1.dedupKey ∉ activeKeys s.tables.outbox.rows →
    ∀ d ∈ s.tables.deliveries.drop w.2, w.1.counts d = false

instance (s : System) (e : Event) : Decidable (NothingRecorded s e) :=
  inferInstanceAs (Decidable (∀ task ∈ s.acting e, ∀ w ∈ task.inserting, _ → _))

/-! ## The window -/

section Window

variable {r : Request} {now later : Clock}

theorem since_mono (h : now.nanos ≤ later.nanos) : r.since now ≤ r.since later := by
  unfold Request.since second
  omega

/-- A date with a sign comes before every date of the clock. -/
theorem beforeZeroText_le (n : Nat) (clock : Clock) : beforeZeroText n ≤ clock.datetime := by
  obtain ⟨rest, heq⟩ : ∃ rest,
      clock.datetime = digit ((fieldsOf clock.seconds).year / 10 / 10 / 10) :: rest := ⟨_, rfl⟩
  have hdigit := digit_toNat ((fieldsOf clock.seconds).year / 10 / 10 / 10)
  rw [heq]
  refine List.not_lt.mp fun hlt => ?_
  rcases List.cons_lt_cons_iff.mp hlt with hfirst | ⟨hfirst, -⟩
  · have hsign : (digit _).toNat < 45 := UInt8.lt_iff_toNat_lt.mp hfirst
    omega
  · rw [hfirst] at hdigit
    have hsign : (45 : UInt8).toNat = 45 := rfl
    omega

/-- A request that finds no recent delivery comes after the window of each. -/
theorem before_of_not_recent {t : NotifyTables} {d : NotificationDelivery}
    (h : t.hasRecentNotificationDelivery singletonChannelID r.dedupKey
      (secondsText (r.since now)) = false) (hd : d ∈ t.deliveries) (hcounts : r.counts d = true) :
    r.Before now d := by
  intro recorded hrecorded
  have hnot : ¬ secondsText (r.since now) ≤ recorded.datetime := by
    intro hle
    have hnone := List.any_eq_false.mp h d hd
    rw [← hrecorded] at hle
    unfold Request.counts at hcounts
    simp [hcounts, hle] at hnone
  have hlt := recorded.seconds_lt
  unfold secondsText at hnot
  split at hnot
  · exact absurd (beforeZeroText_le _ recorded) hnot
  next hzero =>
    split at hnot
    next hmax =>
      have hbefore : ¬ (r.since now).toNat ≤ recorded.seconds := fun hle =>
        hnot ((datetimeText_le_iff (by omega) hlt).mpr hle)
      omega
    next => omega

end Window

/-! ## The invariant -/

section Moves

variable {env : NotifyEnv} {s s' : Shared} {reply : SendReply} {task task' : Task}

/-- No step takes a delivery back. -/
theorem deliveries_of_moves (h : Moves env s reply task s' task') :
    ∃ new, s'.tables.deliveries = s.tables.deliveries ++ new := by
  have hfail : ∀ (item : NotificationOutbox) (f : Failure), ∃ new,
      (s.commit (s.tables.fail s.now item f)).tables.deliveries = s.tables.deliveries ++ new := by
    intro item f
    rcases commit_cases s (s.tables.fail s.now item f) with ⟨t, ht, heq⟩ | heq
    · obtain ⟨d, hdeliveries, -⟩ := (fails_of_fail ht).delivery
      rw [heq]
      exact ⟨[d], hdeliveries⟩
    · rw [heq]
      exact ⟨[], (List.append_nil _).symm⟩
  cases h with
  | failedEarly | noURL | failed => exact hfail _ _
  | @succeeded a rest m copied lk answer =>
    rcases commit_cases s (s.tables.succeed s.now a.item.toNotificationOutbox m answer.result) with
      ⟨t, ht, heq⟩ | heq
    · obtain ⟨d, hdeliveries, -⟩ := (succeeds_of_succeed ht).delivery
      rw [heq]
      exact ⟨[d], hdeliveries⟩
    · rw [heq]
      exact ⟨[], (List.append_nil _).symm⟩
  | inserted hinsert =>
    obtain ⟨-, -, -, -, -, -, hdeliveries, -⟩ := insert_eq_some hinsert
    exact ⟨[], hdeliveries.trans (List.append_nil _).symm⟩
  | stopped | asked | notRecent | notPending | ended | listed | went | discarded | began | acquired
  | locked | reread | gone | sent | answered | unlocked | released =>
    exact ⟨[], (List.append_nil _).symm⟩

/-- A request after a step has asked before, or asks in this step. -/
theorem window_of_moves (h : Moves env s reply task s' task') {r : Request} {seen : Nat}
    (hwindow : task'.window = some (r, seen)) :
    task.window = some (r, seen) ∨ seen = s.tables.deliveries.length ∧
      s.tables.hasRecentNotificationDelivery singletonChannelID r.dedupKey
        (secondsText (r.since s.now)) = false := by
  cases h with
  | asked hnone => exact absurd (hnone.symm.trans hwindow) (by simp)
  | notRecent hrecent =>
    obtain ⟨rfl, rfl⟩ := Prod.mk.inj (Option.some.inj hwindow)
    exact Or.inr ⟨rfl, hrecent⟩
  | notPending => exact Or.inl hwindow
  | @failedEarly a rest | @released a rest => cases rest <;> contradiction
  | stopped | inserted | ended | listed | went | discarded | began | acquired | locked | reread | gone
  | noURL | sent | answered | succeeded | failed | unlocked => contradiction

/-- The index accepts a row that waits only when no other with its key does. -/
theorem Outbox.insert_accepted {o o' : Outbox} {item : NotificationOutbox} {serial : Int}
    {row : OutboxRow} (h : o.insert item serial = some (o', row)) (hactive : item.isActive = true) :
    item.dedupKey ∉ activeKeys o.rows := by
  obtain ⟨o'', htable, heq⟩ := Option.map_eq_some_iff.mp h
  have hrow := (Prod.mk.inj heq).2
  have hkey : row.dedupKey = item.dedupKey := by
    rw [← hrow]
  have hactive' : row.isActive = true := by
    rw [← hrow]
    exact hactive
  have hunique := o''.unique
  rw [Outbox.table_of_ofTable? htable, hrow, Table.rows_set_of_fresh, activeKeys, List.filter_append,
    List.map_append] at hunique
  · rw [← hkey]
    intro hwaits
    refine List.disjoint_of_nodup_append hunique hwaits (List.mem_map.mpr ⟨row, ?_, rfl⟩)
    exact List.mem_filter.mpr ⟨List.mem_singleton_self row, hactive'⟩
  · rw [← hrow]
    exact find?_nextRowid o.table

end Moves

/-- Among the deliveries recorded before a call asked for recent ones, none for its request
is in the window. -/
def System.WindowsClear (s : System) : Prop :=
  ∀ task ∈ s.tasks, ∀ r seen, task.window = some (r, seen) → seen ≤ s.tables.deliveries.length ∧
    ∀ d ∈ s.tables.deliveries.take seen, r.counts d = true → r.Before s.now d

theorem System.WindowsClear.step {env : NotifyEnv} {s t : System} {e : Event} (h : s.WindowsClear)
    (hstep : s.step env e = some t) : t.WindowsClear := by
  rcases step_cases hstep with
    ⟨i, reply, task, shared, task', rfl, htask, hmove, rfl⟩ | ⟨-, hquiet⟩
  · obtain ⟨new, hnew⟩ := deliveries_of_moves hmove
    have hnow := now_of_moves hmove
    -- more deliveries leave what was seen
    have hold : ∀ {r : Request} {seen : Nat}, (seen ≤ s.tables.deliveries.length ∧
        ∀ d ∈ s.tables.deliveries.take seen, r.counts d = true → r.Before s.now d) →
        seen ≤ shared.tables.deliveries.length ∧
          ∀ d ∈ shared.tables.deliveries.take seen, r.counts d = true → r.Before shared.now d := by
      rintro r seen ⟨hle, hclear⟩
      rw [hnew, hnow, List.take_append_of_le_length hle, List.length_append]
      exact ⟨by omega, hclear⟩
    intro other hother r seen hwindow
    cases List.mem_or_eq_of_mem_set hother with
    | inl hthere => exact hold (h other hthere r seen hwindow)
    | inr heq =>
      subst heq
      rcases window_of_moves hmove hwindow with hasked | ⟨rfl, hrecent⟩
      · exact hold (h task (List.mem_of_getElem? htask) r seen hasked)
      · refine hold ⟨le_refl _, fun d hd hcounts => ?_⟩
        rw [List.take_length] at hd
        exact before_of_not_recent hrecent hd hcounts
  · intro task htask r seen hwindow
    have hold : task ∈ s.tasks := by
      rcases hquiet.task_cases htask with hthere | ⟨n, rfl⟩ | rfl
      · exact hthere
      · contradiction
      · contradiction
    obtain ⟨hle, hclear⟩ := h task hold r seen hwindow
    rw [hquiet.deliveries]
    refine ⟨hle, fun d hd hcounts recorded hrecorded => ?_⟩
    have hsince := since_mono (r := r) hquiet.now
    have hbefore := hclear d hd hcounts recorded hrecorded
    omega

theorem mem_of_acting {s : System} {e : Event} {task : Task} (h : s.acting e = some task) :
    task ∈ s.tasks := by
  cases e with
  | advance i reply => exact List.mem_of_getElem? h
  | dispatch | processDue | tick | configure => contradiction

theorem eq_of_inserting {task : Task} {r : Request} {seen : Nat}
    (h : task.inserting = some (r, seen)) : task = .dispatch (.insert r seen) := by
  unfold Task.inserting at h
  split at h
  · obtain ⟨rfl, rfl⟩ := Prod.mk.inj (Option.some.inj h)
    rfl
  · contradiction

/-- A request goes in only when no row with its key waits. -/
theorem not_waiting_of_insert {env : NotifyEnv} {s t : System} {e : Event} {r : Request} {seen : Nat}
    (hacting : s.acting e = some (.dispatch (.insert r seen))) (hstep : s.step env e = some t)
    (hlt : s.nextSerial < t.nextSerial) : r.dedupKey ∉ activeKeys s.tables.outbox.rows := by
  rcases step_cases hstep with ⟨i, reply, task, shared, task', rfl, htask, hmove, rfl⟩ | ⟨hnone, -⟩
  · obtain rfl := Option.some.inj (htask.symm.trans hacting)
    cases hmove with
    | inserted hinsert =>
      obtain ⟨⟨o, row⟩, hrow, -⟩ := Option.map_eq_some_iff.mp hinsert
      exact Outbox.insert_accepted hrow rfl
    | stopped | asked => exact absurd hlt (lt_irrefl _)
  · rw [hnone] at hacting
    contradiction

/-- No delivery that counts for the insertion was recorded in its window. -/
def Enqueue.Apart (q : Enqueue) : Prop :=
  ∀ d ∈ q.deliveries, q.request.counts d = true → q.request.Before q.now d

theorem System.WindowsClear.enqueue {env : NotifyEnv} {s t : System} {e : Event} (h : s.WindowsClear)
    (hcond : NothingRecorded s e) (hstep : s.step env e = some t) : ∀ q ∈ s.enqueue e t, q.Apart := by
  intro q hq
  unfold System.enqueue at hq
  split at hq
  next r seen hinserting =>
    obtain ⟨task, htask, hinsert⟩ := Option.bind_eq_some_iff.mp hinserting
    split at hq
    next hlt =>
      obtain rfl := List.mem_singleton.mp hq
      obtain rfl := eq_of_inserting hinsert
      have hkey := not_waiting_of_insert htask hstep hlt
      obtain ⟨-, hclear⟩ := h _ (mem_of_acting htask) r seen rfl
      intro d hd hcounts
      rw [← List.take_append_drop seen s.tables.deliveries] at hd
      cases List.mem_append.mp hd with
      | inl hseen => exact hclear d hseen hcounts
      | inr hnew =>
        have hnone := hcond _ htask (r, seen) rfl hkey d hnew
        rw [hcounts] at hnone
        contradiction
    · contradiction
  · contradiction

/-- At most one row with a key waits. -/
theorem Outbox.active_unique (o : Outbox) {row row' : OutboxRow} (hrow : row ∈ o.rows)
    (hrow' : row' ∈ o.rows) (hactive : row.isActive = true) (hactive' : row'.isActive = true)
    (hkey : row.dedupKey = row'.dedupKey) : row = row' :=
  List.inj_on_of_nodup_map o.unique (List.mem_filter.mpr ⟨hrow, hactive⟩)
    (List.mem_filter.mpr ⟨hrow', hactive'⟩) hkey

/-- At most one row with a key waits, and when no delivery for a request is recorded
between its question and its insertion, none was recorded in the window before it. -/
theorem enqueues_apart {env : NotifyEnv} {s t : System} {tr : List Event} (hstart : s.Start)
    (hrun : Runs.exec (System.step env) s tr = some t)
    (hcond : Runs.Along (System.step env) NothingRecorded s tr) :
    (∀ row ∈ t.tables.outbox.rows, ∀ row' ∈ t.tables.outbox.rows, row.isActive = true →
        row'.isActive = true → row.dedupKey = row'.dedupKey → row = row') ∧
      ∀ q ∈ s.enqueues env tr, q.Apart := by
  refine ⟨fun row hrow row' hrow' => t.tables.outbox.active_unique hrow hrow', ?_⟩
  have hclear : s.WindowsClear := by
    unfold System.WindowsClear
    rw [hstart.tasks]
    exact fun _ htask => absurd htask List.not_mem_nil
  have h : (∀ q ∈ s.enqueues env tr, q.Apart) ∧ t.WindowsClear := by
    refine Runs.exec_observed (I := fun notes u => (∀ q : Enqueue, q ∈ notes → q.Apart) ∧ u.WindowsClear)
      hrun hcond
      ⟨fun _ hq => absurd hq List.not_mem_nil, hclear⟩ ?_
    intro notes u e v hu hc hs
    refine ⟨fun q hq => ?_, hu.2.step hs⟩
    cases List.mem_append.mp hq with
    | inl hold => exact hu.1 q hold
    | inr hnew => exact hu.2.enqueue hc hs q hnew
  exact h.1

/-- The same alert after more than an hour. -/
def alertAgain : List Event :=
  .dispatch firstAlert :: steps 0 14 ++ .tick (alertClock 4000) :: .dispatch firstAlert :: steps 1 6

theorem alert_again_apart :
    (∀ q ∈ (alertSystem messageTemplate).enqueues alertEnv alertAgain, q.Apart) ∧
      ((alertSystem messageTemplate).enqueues alertEnv alertAgain).map
          (fun q => (q.now.datetime, q.deliveries.map NotificationDelivery.createdAt)) =
        [(lit "2026-07-01 12:00:00", []),
          (lit "2026-07-01 13:06:40", [lit "2026-07-01 12:00:00"])] := by
  have hruns : (Runs.exec (System.step alertEnv) (alertSystem messageTemplate) alertAgain).isSome =
      true := by
    decide +kernel
  obtain ⟨t, ht⟩ := Option.isSome_iff_exists.mp hruns
  exact ⟨(enqueues_apart (alertSystem_start messageTemplate) ht (by decide +kernel)).2,
    by decide +kernel⟩

/-- Two calls for the same alert: the second asks for recent deliveries before the first has
sent, and for rows that wait after it. -/
def sameAlertTwice : List Event :=
  .dispatch firstAlert :: steps 0 6 ++ .dispatch firstAlert :: steps 1 4 ++ steps 0 8 ++ steps 1 2

/-- The alert is enqueued again in the second in which it was delivered. -/
theorem same_alert_enqueued_twice :
    (Runs.exec (System.step alertEnv) (alertSystem messageTemplate) sameAlertTwice).isSome = true ∧
      ∃ q ∈ (alertSystem messageTemplate).enqueues alertEnv sameAlertTwice, ∃ d ∈ q.deliveries,
        q.request.counts d = true ∧ d.status = .success ∧ d.createdAt = (alertClock 0).datetime ∧
          q.request.since q.now + 3600 = (alertClock 0).seconds := by
  decide +kernel

end Lune.Notify
