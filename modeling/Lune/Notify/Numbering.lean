import Lune.Notify.Delivery

/-!
# The numbers of the deliveries of a notification

The attempts on a row of the outbox, one after another.  A failure records the number
after the one that the row has, and a success that of the row itself: after a failure
its number was there before.
-/

namespace Lune.Notify

open GoText Keyed KeyedLocks Store

/-! ## Attempts one after another -/

/-- An attempt: what it is called with, what the driver answers, and what others do to
the tables before it. -/
structure Try where
  now : Clock
  settings : NotificationSettings
  sub : NotificationSubscription
  reply : SendReply := { result := { ok := true } }
  others : NotifyTables → NotifyTables := id

/-- `AttemptOne`. -/
def NotifyTables.attemptOne (env : NotifyEnv) (t : NotifyTables) (a : Try) (item : OutboxRow) :
    NotifyTables :=
  match prepare env item.toNotificationOutbox a.sub with
  | .error f => (t.fail a.now item.toNotificationOutbox f).getD t
  | .ok m =>
    match t.outbox.get? item.id with
    | none => t
    | some current =>
      if !current.isActive then t
      else match buildChannelRuntime a.settings (lit "system") m.rendered with
        | .error message =>
          let f : Failure :=
            { title := m.rendered.title, payloadSummary := m.payloadSummary, message }
          (t.fail a.now current.toNotificationOutbox f).getD t
        | .ok _ =>
          if a.reply.succeeded then
            (t.succeed a.now current.toNotificationOutbox m a.reply.result).getD t
          else
            let message := firstNonEmpty [a.reply.result.upstreamMessage, a.reply.error.getD []]
            let f : Failure := ⟨a.reply.result, m.rendered.title, m.payloadSummary, message⟩
            (t.fail a.now current.toNotificationOutbox f).getD t

/-! ## The call as a task of the outbox -/

section Alone

variable {env : NotifyEnv} {s s' : Shared} {a : Try} {task task' : Task} {rest : Option Pass}

/-- A task that runs alone gets from one state to another. -/
def RunsTo (env : NotifyEnv) (reply : SendReply) (s : Shared) (task : Task) (s' : Shared)
    (task' : Task) : Prop :=
  ∃ n : Nat, Runs.exec (System.step env) ⟨s, [task]⟩ (List.replicate n (.advance 0 reply)) =
    some ⟨s', [task']⟩

theorem RunsTo.done {reply : SendReply} : RunsTo env reply s task s task := ⟨0, rfl⟩

theorem RunsTo.step {reply : SendReply} {t : Shared} {next : Task}
    (h : task.next env s reply = some (t, next)) (hrest : RunsTo env reply t next s' task') :
    RunsTo env reply s task s' task' := by
  obtain ⟨n, hn⟩ := hrest
  refine ⟨n + 1, ?_⟩
  have hstep : System.step env ⟨s, [task]⟩ (.advance 0 reply) = some ⟨t, [next]⟩ := by
    show (task.next env s reply).map _ = _
    rw [h]
    rfl
  rw [List.replicate_succ, Runs.exec, hstep]
  exact hn

theorem RunsTo.trans {reply : SendReply} {t : Shared} {mid : Task} (h : RunsTo env reply s task t mid)
    (hrest : RunsTo env reply t mid s' task') : RunsTo env reply s task s' task' := by
  obtain ⟨m, hm⟩ := h
  obtain ⟨n, hn⟩ := hrest
  refine ⟨m + n, ?_⟩
  rw [List.replicate_add, Runs.exec_append, hm]
  exact hn

/-- An attempt that is about to return does so. -/
theorem RunsTo.leave {reply : SendReply} {settings : NotificationSettings}
    {sub : NotificationSubscription} {item : OutboxRow} {lk : Nat}
    (h : RunsTo env reply s task s' (.attempt ⟨settings, sub, item, .leaving lk⟩ rest)) :
    ∃ locks, RunsTo env reply s task { s' with locks } (resume rest) :=
  ⟨_, h.trans (.step rfl (.step rfl .done))⟩

/-- A new lock is free. -/
theorem lock_of_acquire {locks : Locks Int} {id : Int} (hfree : locks.map.get? id = none) :
    ∃ locked, (locks.acquire id).1.lock (locks.acquire id).2 = some locked := by
  simp only [Locks.acquire, hfree, Locks.lock]
  refine ⟨_, if_neg ?_⟩
  simp

/-- A call of `AttemptOne` is a task of the outbox that runs alone. -/
theorem runsTo_attemptOne (env : NotifyEnv) (s : Shared) (a : Try) (hnow : a.now = s.now)
    (item : OutboxRow) (hfree : s.locks.map.get? item.id = none) (rest : Option Pass) :
    ∃ locks, RunsTo env a.reply s (.attempt ⟨a.settings, a.sub, item, .begin⟩ rest)
      { s with tables := s.tables.attemptOne env a item, locks } (resume rest) := by
  unfold NotifyTables.attemptOne
  cases hprepare : prepare env item.toNotificationOutbox a.sub with
  | error f =>
    refine ⟨s.locks, .step ?_ .done⟩
    simp only [Task.next, Attempt.next, hprepare, Shared.commit, hnow]
  | ok m =>
    obtain ⟨locked, hlock⟩ := lock_of_acquire hfree
    have hbegin : RunsTo env a.reply s (.attempt ⟨a.settings, a.sub, item, .begin⟩ rest)
        { s with locks := locked }
        (.attempt ⟨a.settings, a.sub, item, .locked m item.tag (s.locks.acquire item.id).2⟩ rest) := by
      have hacquire : Task.next env s a.reply (.attempt ⟨a.settings, a.sub, item, .begin⟩ rest) =
          some ({ s with locks := (s.locks.acquire item.id).1 }, .attempt ⟨a.settings, a.sub, item,
            .waiting m item.tag (s.locks.acquire item.id).2⟩ rest) := by
        simp only [Task.next, Attempt.next, hprepare]
      refine .step hacquire (.step ?_ .done)
      simp only [Task.next, Attempt.next, hlock, Option.map_some]
    generalize (s.locks.acquire item.id).2 = lk at hbegin
    have hleave : ∀ (b : OutboxRow) {tables : NotifyTables},
        RunsTo env a.reply { s with locks := locked }
          (.attempt ⟨a.settings, a.sub, item, .locked m item.tag lk⟩ rest)
          { s with tables, locks := locked } (.attempt ⟨a.settings, a.sub, b, .leaving lk⟩ rest) →
        ∃ locks, RunsTo env a.reply s (.attempt ⟨a.settings, a.sub, item, .begin⟩ rest)
          { s with tables, locks } (resume rest) :=
      fun b _ h => RunsTo.leave (hbegin.trans h)
    cases hget : s.tables.outbox.get? item.id with
    | none =>
      refine hleave item (.step ?_ .done)
      simp only [Task.next, Attempt.next, hget]
    | some current =>
      cases hactive : current.isActive with
      | false =>
        refine hleave item (.step ?_ .done)
        simp only [Task.next, Attempt.next, hget, hactive, Bool.not_false, Bool.false_eq_true,
          reduceIte]
      | true =>
        have hreread : Task.next env { s with locks := locked } a.reply
            (.attempt ⟨a.settings, a.sub, item, .locked m item.tag lk⟩ rest) =
              some ({ s with locks := locked },
                .attempt ⟨a.settings, a.sub, current, .current m item.tag lk⟩ rest) := by
          simp only [Task.next, Attempt.next, hget, hactive, reduceIte]
        cases hruntime : buildChannelRuntime a.settings (lit "system") m.rendered with
        | error message =>
          refine hleave current (.step hreread (.step ?_ .done))
          simp only [Task.next, Attempt.next, hruntime, Shared.commit, hnow, hactive, Bool.not_true,
            Bool.false_eq_true, reduceIte]
        | ok runtime =>
          have hsend : Task.next env { s with locks := locked } a.reply
              (.attempt ⟨a.settings, a.sub, current, .current m item.tag lk⟩ rest) =
                some ({ s with locks := locked },
                  .attempt ⟨a.settings, a.sub, current, .sending m item.tag lk runtime⟩ rest) := by
            simp only [Task.next, Attempt.next, hruntime]
          refine hleave current (.step hreread (.step hsend (.step rfl (.step ?_ .done))))
          cases hreply : a.reply.succeeded with
          | true | false =>
            simp only [Task.next, Attempt.next, hruntime, hreply, Shared.commit, hnow, hactive,
              Bool.not_true, Bool.false_eq_true, reduceIte]

end Alone

/-! ## One attempt -/

/-- The attempt gets as far as the driver, which sends the message. -/
def Try.succeeds (env : NotifyEnv) (item : NotificationOutbox) (a : Try) : Bool :=
  match prepare env item a.sub with
  | .error _ => false
  | .ok m =>
    match buildChannelRuntime a.settings (lit "system") m.rendered with
    | .error _ => false
    | .ok _ => a.reply.succeeded

/-- What is sent does not depend on the count, the status or the last error. -/
theorem Try.succeeds_congr {env : NotifyEnv} {item item' : NotificationOutbox} {a : Try}
    (hevent : item'.event = item.event) (hpayload : item'.payload = item.payload) :
    a.succeeds env item' = a.succeeds env item := by
  unfold Try.succeeds prepare
  rw [hevent, hpayload]

/-- The waiting rows after a change that lets no row wait, and no key change. -/
theorem activeKeys_map {rows : List OutboxRow} {g : OutboxRow → OutboxRow}
    (h : ∀ r ∈ rows, (g r).isActive = true → r.isActive = true ∧ (g r).dedupKey = r.dedupKey) :
    (activeKeys (rows.map g)).Sublist (activeKeys rows) := by
  unfold activeKeys
  induction rows with
  | nil => exact List.Sublist.refl _
  | cons r rows ih =>
    have hrest := ih fun r' hr' => h r' (List.mem_cons_of_mem _ hr')
    rw [List.map_cons, List.filter_cons]
    split
    next hactive =>
      obtain ⟨hold, hkey⟩ := h r List.mem_cons_self hactive
      rw [List.filter_cons, if_pos hold, List.map_cons, List.map_cons, hkey]
      exact hrest.cons_cons _
    next =>
      rw [List.filter_cons]
      split
      · exact hrest.cons _
      · exact hrest

theorem Outbox.ofTable?_isSome {table : Table fun r : OutboxRow => r.id}
    (h : (activeKeys table.rows).Nodup) : (Outbox.ofTable? table).isSome = true := by
  unfold Outbox.ofTable?
  rw [dif_pos h]
  rfl

/-- The index does not refuse a change of a waiting row that keeps its key. -/
theorem Outbox.update_of_active {o : Outbox} {id : Int} {row : OutboxRow}
    (f : NotificationOutbox → NotificationOutbox) (hrow : o.get? id = some row)
    (hactive : row.isActive = true) (hkey : ∀ item, (f item).dedupKey = item.dedupKey) :
    (o.update id f).isSome = true := by
  refine Outbox.ofTable?_isSome (o.unique.sublist (activeKeys_map fun r hr hnew => ?_))
  dsimp only at hnew ⊢
  split
  next hid =>
    have hget : o.get? r.id = some r := Table.find?_of_mem hr
    rw [hid.1, hrow] at hget
    obtain rfl := Option.some.inj hget
    exact ⟨hactive, hkey _⟩
  next hid =>
    rw [if_neg hid] at hnew
    exact ⟨hnew, rfl⟩

/-- A failure of a waiting row is recorded. -/
theorem fail_of_active {t : NotifyTables} {now : Clock} {item row : OutboxRow} (f : Failure)
    (hrow : t.outbox.get? item.id = some row) (hactive : row.isActive = true) :
    (t.fail now item.toNotificationOutbox f).isSome = true := by
  simp only [NotifyTables.fail]
  split
  · exact Option.isSome_map.trans (Outbox.update_of_active _ hrow hactive fun _ => rfl)
  · exact Option.isSome_map.trans (Outbox.update_of_active _ hrow hactive fun _ => rfl)

/-- An attempt on a waiting row records a success or a failure of it. -/
theorem attemptOne_of_active (env : NotifyEnv) {t : NotifyTables} (a : Try) {item : OutboxRow}
    (hrow : t.outbox.get? item.id = some item) (hactive : item.isActive = true) :
    if a.succeeds env item.toNotificationOutbox then
      ∃ m, t.succeed a.now item.toNotificationOutbox m a.reply.result = some (t.attemptOne env a item)
    else ∃ f, t.fail a.now item.toNotificationOutbox f = some (t.attemptOne env a item) := by
  have hfail : ∀ f, ∃ g, t.fail a.now item.toNotificationOutbox g =
      some ((t.fail a.now item.toNotificationOutbox f).getD t) := by
    intro f
    obtain ⟨t', ht'⟩ := Option.isSome_iff_exists.mp (fail_of_active f hrow hactive)
    exact ⟨f, by rw [ht']; rfl⟩
  unfold NotifyTables.attemptOne Try.succeeds
  cases hprepare : prepare env item.toNotificationOutbox a.sub with
  | error f => exact hfail f
  | ok m =>
    simp only [hrow, hactive, Bool.not_true, Bool.false_eq_true, reduceIte]
    cases hruntime : buildChannelRuntime a.settings (lit "system") m.rendered with
    | error message => exact hfail _
    | ok runtime =>
      cases hreply : a.reply.succeeded with
      | false => exact hfail _
      | true =>
        have hthere : (t.outbox.get? item.id).isSome = true := by rw [hrow]; rfl
        refine ⟨m, ?_⟩
        simp only [NotifyTables.succeed, NotifyTables.recordNotificationAttemptSuccess, hthere,
          reduceIte, Option.getD_some]

/-- The delivery of a failure has the number after that of its item. -/
theorem delivery_of_fail {t t' : NotifyTables} {now : Clock} {item : NotificationOutbox} {f : Failure}
    (h : t.fail now item f = some t') :
    ∃ d, newDeliveries t t' = [d] ∧ d.attempt = item.attempt + 1 := by
  simp only [NotifyTables.fail] at h
  split at h
  · obtain ⟨o, -, rfl⟩ := Option.map_eq_some_iff.mp h
    exact ⟨_, newDeliveries_append rfl, rfl⟩
  · obtain ⟨o, -, rfl⟩ := Option.map_eq_some_iff.mp h
    exact ⟨_, newDeliveries_append rfl, rfl⟩

/-- The delivery of a success has the number of its item, or 1. -/
theorem delivery_of_succeed {t t' : NotifyTables} {now : Clock} {item : NotificationOutbox}
    {m : Prepared} {result : Result} (h : t.succeed now item m result = some t') :
    ∃ d, newDeliveries t t' = [d] ∧ d.attempt = max item.attempt 1 := by
  simp only [NotifyTables.succeed, NotifyTables.recordNotificationAttemptSuccess] at h
  split at h
  · obtain rfl := Option.some.inj h
    exact ⟨_, newDeliveries_append rfl, rfl⟩
  · contradiction

/-! ## A sequence of attempts -/

/-- The row waits after so many failures. -/
def Outbox.Waits (o : Outbox) (item : OutboxRow) (failed : Nat) : Prop :=
  ∃ row, o.get? item.id = some row ∧ row.isActive = true ∧ row.attempt = failed ∧
    row.event = item.event ∧ row.payload = item.payload

/-- The row is gone or was dropped. -/
def Outbox.Settled (o : Outbox) (id : Int) : Prop := ∀ row, o.get? id = some row → row.isActive = false

/-- The attempt on the row with the number, if it waits, and the deliveries that it
records. -/
def Try.run (env : NotifyEnv) (id : Int) (a : Try) (t : NotifyTables) :
    NotifyTables × List NotificationDelivery :=
  let t := a.others t
  match t.outbox.get? id with
  | some row =>
    if row.isActive then (t.attemptOne env a row, newDeliveries t (t.attemptOne env a row))
    else (t, [])
  | none => (t, [])

/-- What is recorded for the row in a sequence of attempts. -/
def deliveriesOf (env : NotifyEnv) (id : Int) (t : NotifyTables) : List Try → List NotificationDelivery
  | [] => []
  | a :: rest => (a.run env id t).2 ++ deliveriesOf env id (a.run env id t).1 rest

/-- The others leave the row alone. -/
def Try.Leaves (id : Int) (a : Try) : Prop := ∀ t, (a.others t).outbox.get? id = t.outbox.get? id

section Run

variable {env : NotifyEnv} {t : NotifyTables} {a : Try} {item : OutboxRow} {failed : Nat}

/-- Nothing is recorded for a row that does not wait. -/
theorem run_of_settled (env : NotifyEnv) {id : Int} (h : t.outbox.Settled id) (hothers : a.Leaves id) :
    (a.run env id t).2 = [] ∧ (a.run env id t).1.outbox.Settled id := by
  have hsettled : (a.others t).outbox.Settled id := fun row hrow => h row (hothers t ▸ hrow)
  unfold Try.run
  dsimp only
  split
  next row hrow =>
    rw [if_neg (by rw [hsettled row hrow]; decide)]
    exact ⟨rfl, hsettled⟩
  next => exact ⟨rfl, hsettled⟩

/-- The attempt on a row that waits is carried out. -/
theorem run_of_waits (env : NotifyEnv) (h : t.outbox.Waits item failed) (hothers : a.Leaves item.id) :
    ∃ row, (a.others t).outbox.get? item.id = some row ∧ row.id = item.id ∧ row.attempt = failed ∧
      row.event = item.event ∧ row.payload = item.payload ∧
      (a.run env item.id t).2 = newDeliveries (a.others t) (a.run env item.id t).1 ∧
      if a.succeeds env item.toNotificationOutbox then
        ∃ m, (a.others t).succeed a.now row.toNotificationOutbox m a.reply.result =
          some (a.run env item.id t).1
      else ∃ f, (a.others t).fail a.now row.toNotificationOutbox f = some (a.run env item.id t).1 := by
  obtain ⟨row, hrow, hactive, hattempt, hevent, hpayload⟩ := h
  rw [← hothers t] at hrow
  have hid : row.id = item.id := (Table.mem_of_find? hrow).2
  have hrun : a.run env item.id t = ((a.others t).attemptOne env a row,
      newDeliveries (a.others t) ((a.others t).attemptOne env a row)) := by
    simp only [Try.run, hrow, hactive, reduceIte]
  refine ⟨row, hrow, hid, hattempt, hevent, hpayload, by rw [hrun], ?_⟩
  rw [← hid] at hrow
  have hrecord := attemptOne_of_active env a hrow hactive
  rw [Try.succeeds_congr hevent hpayload] at hrecord
  rw [hrun]
  exact hrecord

/-- An attempt that succeeds is recorded under the number of failures, or 1. -/
theorem run_of_success (h : t.outbox.Waits item failed) (hothers : a.Leaves item.id)
    (hsucceeds : a.succeeds env item.toNotificationOutbox = true) :
    (∃ d, (a.run env item.id t).2 = [d] ∧ d.attempt = max (failed : Int) 1) ∧
      (a.run env item.id t).1.outbox.Settled item.id := by
  obtain ⟨row, -, hid, hattempt, -, -, hnew, hrecord⟩ := run_of_waits env h hothers
  rw [if_pos hsucceeds] at hrecord
  obtain ⟨m, hm⟩ := hrecord
  constructor
  · obtain ⟨d, hd, hnumber⟩ := delivery_of_succeed hm
    exact ⟨d, hnew.trans hd, by rw [hnumber, hattempt]⟩
  · intro left hleft
    rw [(succeeds_of_succeed hm).row, Outbox.get?_delete, hid, if_pos rfl] at hleft
    contradiction

/-- One that fails is recorded under the next number, and the row waits again unless it
was the fourth. -/
theorem run_of_failure (h : t.outbox.Waits item failed) (hothers : a.Leaves item.id)
    (hfails : a.succeeds env item.toNotificationOutbox = false) :
    (∃ d, (a.run env item.id t).2 = [d] ∧ d.attempt = (failed : Int) + 1) ∧
      if failed < 3 then (a.run env item.id t).1.outbox.Waits item (failed + 1)
      else (a.run env item.id t).1.outbox.Settled item.id := by
  obtain ⟨row, hrow, hid, hattempt, hevent, hpayload, hnew, hrecord⟩ :=
    run_of_waits env h hothers
  rw [hfails, if_neg Bool.false_ne_true] at hrecord
  obtain ⟨f, hf⟩ := hrecord
  constructor
  · obtain ⟨d, hd, hnumber⟩ := delivery_of_fail hf
    exact ⟨d, hnew.trans hd, by rw [hnumber, hattempt]⟩
  · obtain ⟨message, hrows⟩ := (fails_of_fail hf).row
    have hafter := hrows item.id
    rw [if_pos hid.symm, hrow, Option.map_some] at hafter
    split
    next hless =>
      have hmore : ¬ row.attempt + 1 ≥ fixedMaxAttempts := by
        rw [hattempt, fixedMaxAttempts]
        omega
      rw [NotificationOutbox.failed, if_neg hmore] at hafter
      exact ⟨_, hafter, rfl, by rw [hattempt]; rfl, hevent, hpayload⟩
    next hlast =>
      have hmax : row.attempt + 1 ≥ fixedMaxAttempts := by
        rw [hattempt, fixedMaxAttempts]
        omega
      rw [NotificationOutbox.failed, if_pos hmax] at hafter
      intro left hleft
      rw [hafter] at hleft
      obtain rfl := Option.some.inj hleft
      rfl

end Run

/-! ## The numbers -/

/-- The numbers of the deliveries after so many failures, by the outcomes of the attempts
that follow. -/
def numbersAfter (failed : Nat) : List Bool → List Int
  | [] => []
  | true :: _ => [max (failed : Int) 1]
  | false :: rest => ((failed : Int) + 1) :: if failed < 3 then numbersAfter (failed + 1) rest else []

theorem deliveriesOf_of_settled {env : NotifyEnv} {id : Int} {t : NotifyTables} {tries : List Try}
    (h : t.outbox.Settled id) (hothers : ∀ a ∈ tries, a.Leaves id) :
    deliveriesOf env id t tries = [] := by
  induction tries generalizing t with
  | nil => rfl
  | cons a rest ih =>
    obtain ⟨hnone, hsettled⟩ := run_of_settled env h (hothers a List.mem_cons_self)
    rw [deliveriesOf, hnone, ih hsettled fun b hb => hothers b (List.mem_cons_of_mem _ hb)]
    rfl

/-- A sequence of attempts on a row that waits. -/
theorem numbers_of_waits {env : NotifyEnv} {item : OutboxRow} {failed : Nat} {t : NotifyTables}
    {tries : List Try} (h : t.outbox.Waits item failed) (hothers : ∀ a ∈ tries, a.Leaves item.id) :
    (deliveriesOf env item.id t tries).map NotificationDelivery.attempt =
      numbersAfter failed (tries.map (Try.succeeds env item.toNotificationOutbox)) := by
  induction tries generalizing t failed with
  | nil => rfl
  | cons a rest ih =>
    have hfirst := hothers a List.mem_cons_self
    have hrest : ∀ b ∈ rest, b.Leaves item.id := fun b hb => hothers b (List.mem_cons_of_mem _ hb)
    rw [deliveriesOf, List.map_append, List.map_cons]
    cases hsucceeds : a.succeeds env item.toNotificationOutbox with
    | true =>
      obtain ⟨⟨d, hd, hnumber⟩, hsettled⟩ := run_of_success h hfirst hsucceeds
      rw [hd, deliveriesOf_of_settled hsettled hrest, numbersAfter, ← hnumber]
      rfl
    | false =>
      obtain ⟨⟨d, hd, hnumber⟩, hafter⟩ := run_of_failure h hfirst hsucceeds
      rw [hd, numbersAfter, ← hnumber, List.map_singleton, List.singleton_append]
      split at hafter
      next hless => rw [if_pos hless, ih hafter hrest]
      next hlast => rw [if_neg hlast, deliveriesOf_of_settled hafter hrest, List.map_nil]

/-- The numbers go on after so many. -/
def CountOn (failed : Nat) (numbers : List Int) : Prop :=
  ∀ (i : Nat) (n : Int), numbers[i]? = some n → n = failed + i + 1

/-- The numbers are 1, 2 and so on. -/
def Consecutive (numbers : List Int) : Prop :=
  ∀ (i : Nat) (n : Int), numbers[i]? = some n → n = i + 1

theorem countOn_cons {failed : Nat} {n : Int} {numbers : List Int} :
    CountOn failed (n :: numbers) ↔ n = failed + 1 ∧ CountOn (failed + 1) numbers := by
  constructor
  · intro h
    refine ⟨by simpa using h 0 n rfl, fun i m hm => ?_⟩
    have hnext := h (i + 1) m (by simpa using hm)
    push_cast at hnext ⊢
    omega
  · rintro ⟨rfl, hrest⟩ i m hm
    cases i with
    | zero =>
      obtain rfl := Option.some.inj hm
      simp
    | succ i =>
      have hnext := hrest i m (by simpa using hm)
      push_cast at hnext ⊢
      omega

theorem countOn_nil {failed : Nat} : CountOn failed [] := by
  intro i n h
  contradiction

/-- After failures the numbers go on as long as no attempt succeeds before the fourth
failure; a first attempt may. -/
theorem countOn_numbersAfter {failed : Nat} (hless : failed ≤ 3) (outcomes : List Bool) :
    CountOn failed (numbersAfter failed outcomes) ↔
      failed = 0 ∧ outcomes.head? = some true ∨ true ∉ outcomes.take (4 - failed) := by
  induction outcomes generalizing failed with
  | nil => simp [numbersAfter, countOn_nil]
  | cons outcome rest ih =>
    obtain ⟨more, hmore⟩ : ∃ more, 4 - failed = more + 1 := ⟨3 - failed, by omega⟩
    cases outcome with
    | true =>
      have hnumber : max (failed : Int) 1 = failed + 1 ↔ failed = 0 := by omega
      simp [numbersAfter, countOn_cons, countOn_nil, hnumber, hmore]
    | false =>
      rw [numbersAfter, countOn_cons, hmore, List.take_succ_cons]
      by_cases hlast : failed < 3
      · have hleft : 4 - (failed + 1) = more := by omega
        rw [if_pos hlast, ih (by omega), hleft]
        simp
      · have hnone : more = 0 := by omega
        simp [if_neg hlast, countOn_nil, hnone]

/-- The deliveries of a notification are numbered 1, 2 and so on if and only if its first
attempt succeeds or none of the first four does. -/
theorem deliveries_numbered_iff (env : NotifyEnv) {t : NotifyTables} {item : OutboxRow}
    (hrow : t.outbox.get? item.id = some item) (hactive : item.isActive = true)
    (hattempt : item.attempt = 0) {tries : List Try} (hothers : ∀ a ∈ tries, a.Leaves item.id) :
    Consecutive ((deliveriesOf env item.id t tries).map NotificationDelivery.attempt) ↔
      (∀ a ∈ tries.head?, a.succeeds env item.toNotificationOutbox = true) ∨
        ∀ a ∈ tries.take 4, a.succeeds env item.toNotificationOutbox = false := by
  have hwaits : t.outbox.Waits item 0 := ⟨item, hrow, hactive, hattempt, rfl, rfl⟩
  have hcount := countOn_numbersAfter (Nat.zero_le 3)
    (tries.map (Try.succeeds env item.toNotificationOutbox))
  rw [← numbers_of_waits hwaits hothers] at hcount
  have hconsecutive : ∀ numbers, CountOn 0 numbers ↔ Consecutive numbers := by
    intro numbers
    simp [CountOn, Consecutive]
  rw [hconsecutive] at hcount
  have hnone : true ∉ (tries.map (Try.succeeds env item.toNotificationOutbox)).take (4 - 0) ↔
      ∀ a ∈ tries.take 4, a.succeeds env item.toNotificationOutbox = false := by
    simp [← List.map_take]
  rw [hcount, hnone]
  cases tries with
  | nil => simp
  | cons a rest => simp

/-- The first alert in the outbox. -/
def queuedAlert : OutboxRow :=
  { (Request.item ⟨firstAlert, {}, { event := lit "account_error" }, 0,
      buildDedupKey alertEnv firstAlert, alertJSON firstAlert⟩ (alertClock 0)) with
    id := 1, serial := 1 }

def queuedTables : NotifyTables :=
  { (alertSystem messageTemplate).tables with
    outbox := ((default : Outbox).insert queuedAlert.toNotificationOutbox 1).elim default Prod.fst }

/-- An attempt to send the alert. -/
def alertTry (after : Nat) (reply : SendReply) : Try where
  now := alertClock after
  settings := { enabled := true, webhookURL := lit "https://example.test/hook" }
  sub := { event := lit "account_error", bodyTemplate := messageTemplate }
  reply

def refusedTry (after : Nat) : Try := alertTry after { error := some (lit "connection refused") }

def sentTry (after : Nat) : Try := alertTry after { result := { ok := true } }

theorem five_refused_numbered :
    Consecutive ((deliveriesOf alertEnv 1 queuedTables ([0, 30, 330, 2130, 9000].map refusedTry)).map
      NotificationDelivery.attempt) := by
  have hrow : queuedTables.outbox.get? queuedAlert.id = some queuedAlert := by decide +kernel
  have hothers : ∀ a ∈ [0, 30, 330, 2130, 9000].map refusedTry, a.Leaves queuedAlert.id := by
    intro a ha
    obtain ⟨after, -, rfl⟩ := List.mem_map.mp ha
    exact fun _ => rfl
  exact (deliveries_numbered_iff alertEnv hrow rfl rfl hothers).mpr (Or.inr (by decide +kernel))

/-- The alert is refused once and then sent, and both deliveries have the number 1. -/
theorem number_repeated_by_success :
    (Runs.exec (System.step alertEnv) (alertSystem messageTemplate)
        (.dispatch firstAlert :: steps 0 6)).map (fun s => s.tables.outbox.rows) = some [queuedAlert] ∧
      queuedTables.outbox.rows = [queuedAlert] ∧
      (deliveriesOf alertEnv 1 queuedTables [refusedTry 0, sentTry 30]).map
        NotificationDelivery.attempt = [1, 1] ∧
      ¬ Consecutive ((deliveriesOf alertEnv 1 queuedTables [refusedTry 0, sentTry 30]).map
        NotificationDelivery.attempt) := by
  have hnumbers : (deliveriesOf alertEnv 1 queuedTables [refusedTry 0, sentTry 30]).map
      NotificationDelivery.attempt = [1, 1] := by
    decide +kernel
  refine ⟨by decide +kernel, by decide +kernel, hnumbers, fun h => ?_⟩
  rw [hnumbers] at h
  exact absurd (h 1 1 rfl) (by decide)

end Lune.Notify
