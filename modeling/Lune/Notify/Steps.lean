import Lune.Notify.Outbox

/-!
# What a step of the outbox can do

`Moves` lists the steps of a task, and `step_cases` those of the system; the invariants
of the outbox are proved by cases on them.  Of two attempts on the same row only one
has the lock.
-/

namespace Lune.Notify

open GoText Keyed KeyedLocks Calendar TimeText Store

/-! ## What a task holds -/

/-- The attempt goes on with the number of its row. -/
def Phase.keepsItem : Phase → Bool
  | .leaving _ | .unlocked _ => false
  | _ => true

/-- The attempt has not begun to send. -/
def Phase.unsent : Phase → Bool
  | .begin | .waiting .. | .locked .. | .current .. => true
  | _ => false

/-- The attempt has the lock of its row. -/
def Phase.holdsLock : Phase → Bool
  | .locked .. | .current .. | .sending .. | .answered .. | .leaving .. => true
  | _ => false

/-- The lock that the attempt refers to. -/
def Phase.claim (key : Int) : Phase → Option (Claim Int)
  | .begin => none
  | .waiting _ _ lk | .unlocked lk => some ⟨key, lk, false⟩
  | .locked _ _ lk | .current _ _ lk | .sending _ _ lk _ | .answered _ _ lk _ | .leaving lk =>
    some ⟨key, lk, true⟩

/-- The copies that a pass has not come to. -/
def PassStep.items : PassStep → List OutboxRow
  | .list => []
  | .settings items | .subscriptions items _ => items
  | .loop p => p.items

/-- The request of a call that has not found recent deliveries, and how many deliveries
there were. -/
def DispatchStep.window : DispatchStep → Option (Request × Nat)
  | .pending r seen | .insert r seen => some (r, seen)
  | _ => none

namespace Task

/-- The copies of a task whose numbers it goes on with. -/
def copies : Task → List OutboxRow
  | dispatch _ | done => []
  | pass step => step.items
  | attempt a rest => (if a.phase.keepsItem then [a.item] else []) ++ rest.elim [] Pass.items

/-- The copies of a task that it has not begun to send. -/
def unsent : Task → List OutboxRow
  | dispatch _ | done => []
  | pass step => step.items
  | attempt a rest => (if a.phase.unsent then [a.item] else []) ++ rest.elim [] Pass.items

def claim : Task → Option (Claim Int)
  | attempt a _ => a.phase.claim a.item.id
  | _ => none

theorem item_mem_copies {a : Attempt} (rest : Option Pass) (hkeeps : a.phase.keepsItem = true) :
    a.item ∈ (attempt a rest).copies := by
  refine List.mem_append_left _ ?_
  rw [if_pos hkeeps]
  exact List.mem_singleton_self _

theorem copies_resume (rest : Option Pass) : (resume rest).copies = rest.elim [] Pass.items := by
  cases rest <;> rfl

theorem unsent_resume (rest : Option Pass) : (resume rest).unsent = rest.elim [] Pass.items := by
  cases rest <;> rfl

theorem claim_resume (rest : Option Pass) : (resume rest).claim = none := by
  cases rest <;> rfl

end Task

/-! ## The steps of a task -/

/-- The steps of a task, with the shared state and the task after it. -/
inductive Moves (env : NotifyEnv) (s : Shared) (reply : SendReply) : Task → Shared → Task → Prop where
  | stopped {d : DispatchStep} : Moves env s reply (.dispatch d) s .done
  | asked {d d' : DispatchStep} (h : d'.window = none) :
    Moves env s reply (.dispatch d) s (.dispatch d')
  | notRecent {r : Request} (h : s.tables.hasRecentNotificationDelivery singletonChannelID r.dedupKey
      (secondsText (r.since s.now)) = false) :
    Moves env s reply (.dispatch (.recent r)) s (.dispatch (.pending r s.tables.deliveries.length))
  | notPending {r : Request} {seen : Nat} :
    Moves env s reply (.dispatch (.pending r seen)) s (.dispatch (.insert r seen))
  | inserted {r : Request} {seen : Nat} {tables : NotifyTables} {row : OutboxRow}
    (h : s.tables.insertNotificationOutbox s.now (r.item s.now) s.nextSerial = some (tables, row)) :
    Moves env s reply (.dispatch (.insert r seen)) { s with tables, nextSerial := s.nextSerial + 1 }
      (.attempt ⟨r.settings, r.sub, row, .begin⟩ none)
  | ended {p : PassStep} : Moves env s reply (.pass p) s .done
  | listed : Moves env s reply (.pass .list) s
      (.pass (.settings (s.tables.listDueNotificationOutbox s.now 100)))
  | went {p p' : PassStep} (h : p'.items = p.items) : Moves env s reply (.pass p) s (.pass p')
  | discarded {p : Pass} {item : OutboxRow} {rest : List OutboxRow} (h : p.items = item :: rest) :
    Moves env s reply (.pass (.loop p))
      { s with tables := s.tables.deleteNotificationOutbox item.id }
      (.pass (.loop { p with items := rest }))
  | began {p : Pass} {item : OutboxRow} {rest : List OutboxRow} (h : p.items = item :: rest)
    (sub : NotificationSubscription) :
    Moves env s reply (.pass (.loop p)) s
      (.attempt ⟨p.settings, sub, item, .begin⟩ (some { p with items := rest }))
  | failedEarly {a : Attempt} {rest : Option Pass} {f : Failure} (hphase : a.phase = .begin)
    (h : prepare env a.item.toNotificationOutbox a.sub = .error f) :
    Moves env s reply (.attempt a rest)
      (s.commit (s.tables.fail s.now a.item.toNotificationOutbox f)) (resume rest)
  | acquired {a : Attempt} {rest : Option Pass} {m : Prepared} (hphase : a.phase = .begin) :
    Moves env s reply (.attempt a rest) { s with locks := (s.locks.acquire a.item.id).1 }
      (.attempt { a with phase := .waiting m a.item.tag (s.locks.acquire a.item.id).2 } rest)
  | locked {a : Attempt} {rest : Option Pass} {m : Prepared} {copied : Int × Int} {lk : Nat}
    {locks : Locks Int} (hphase : a.phase = .waiting m copied lk)
    (h : s.locks.lock lk = some locks) :
    Moves env s reply (.attempt a rest) { s with locks }
      (.attempt { a with phase := .locked m copied lk } rest)
  | reread {a : Attempt} {rest : Option Pass} {m : Prepared} {copied : Int × Int} {lk : Nat}
    {item : OutboxRow} (hphase : a.phase = .locked m copied lk)
    (h : s.tables.outbox.get? a.item.id = some item) (hactive : item.isActive = true) :
    Moves env s reply (.attempt a rest) s
      (.attempt { a with item, phase := .current m copied lk } rest)
  | gone {a : Attempt} {rest : Option Pass} {m : Prepared} {copied : Int × Int} {lk : Nat}
    (hphase : a.phase = .locked m copied lk) :
    Moves env s reply (.attempt a rest) s (.attempt { a with phase := .leaving lk } rest)
  | noURL {a : Attempt} {rest : Option Pass} {m : Prepared} {copied : Int × Int} {lk : Nat}
    {f : Failure} {message : Str} (hphase : a.phase = .current m copied lk)
    (h : buildChannelRuntime a.settings (lit "system") m.rendered = .error message) :
    Moves env s reply (.attempt a rest)
      (s.commit (s.tables.fail s.now a.item.toNotificationOutbox f))
      (.attempt { a with phase := .leaving lk } rest)
  | sent {a : Attempt} {rest : Option Pass} {m : Prepared} {copied : Int × Int} {lk : Nat}
    {runtime : ChannelRuntime} (hphase : a.phase = .current m copied lk)
    (h : buildChannelRuntime a.settings (lit "system") m.rendered = .ok runtime) :
    Moves env s reply (.attempt a rest) s
      (.attempt { a with phase := .sending m copied lk runtime } rest)
  | answered {a : Attempt} {rest : Option Pass} {m : Prepared} {copied : Int × Int} {lk : Nat}
    {runtime : ChannelRuntime} (hphase : a.phase = .sending m copied lk runtime) :
    Moves env s reply (.attempt a rest) s
      (.attempt { a with phase := .answered m copied lk reply } rest)
  | succeeded {a : Attempt} {rest : Option Pass} {m : Prepared} {copied : Int × Int} {lk : Nat}
    {answer : SendReply} (hphase : a.phase = .answered m copied lk answer)
    (h : answer.succeeded = true) :
    Moves env s reply (.attempt a rest)
      (s.commit (s.tables.succeed s.now a.item.toNotificationOutbox m answer.result))
      (.attempt { a with phase := .leaving lk } rest)
  | failed {a : Attempt} {rest : Option Pass} {m : Prepared} {copied : Int × Int} {lk : Nat}
    {answer : SendReply} {f : Failure} (hphase : a.phase = .answered m copied lk answer)
    (h : answer.succeeded = false) :
    Moves env s reply (.attempt a rest)
      (s.commit (s.tables.fail s.now a.item.toNotificationOutbox f))
      (.attempt { a with phase := .leaving lk } rest)
  | unlocked {a : Attempt} {rest : Option Pass} {lk : Nat} (hphase : a.phase = .leaving lk) :
    Moves env s reply (.attempt a rest) { s with locks := s.locks.unlock lk }
      (.attempt { a with phase := .unlocked lk } rest)
  | released {a : Attempt} {rest : Option Pass} {lk : Nat} (hphase : a.phase = .unlocked lk) :
    Moves env s reply (.attempt a rest) { s with locks := s.locks.release a.item.id lk } (resume rest)

section Moves

variable {env : NotifyEnv} {s s' : Shared} {reply : SendReply} {task task' : Task}

theorem moves_of_dispatch (d : DispatchStep) :
    Moves env s reply (.dispatch d) (d.next env s).1 (d.next env s).2 := by
  cases d with
  | settings n =>
    simp only [DispatchStep.next]
    split
    · exact .asked rfl
    · exact .stopped
  | subscription n st =>
    simp only [DispatchStep.next]
    split
    · split
      · exact .asked rfl
      · exact .stopped
    · exact .stopped
  | systemSettings n st sub =>
    simp only [DispatchStep.next]
    split
    · exact .asked rfl
    · exact .stopped
  | recent r =>
    simp only [DispatchStep.next]
    split
    · exact .stopped
    next h => exact .notRecent (Bool.not_eq_true _ ▸ h)
  | pending r seen =>
    simp only [DispatchStep.next]
    split
    · exact .stopped
    · exact .notPending
  | insert r seen =>
    simp only [DispatchStep.next]
    split
    · exact .stopped
    next h => exact .inserted h

theorem moves_of_pass (p : PassStep) : Moves env s reply (.pass p) (p.next s).1 (p.next s).2 := by
  cases p with
  | list =>
    simp only [PassStep.next]
    split
    · exact .ended
    · exact .listed
  | settings items =>
    simp only [PassStep.next]
    split
    · exact .went rfl
    · exact .ended
  | subscriptions items st => exact .went rfl
  | loop p =>
    simp only [PassStep.next]
    split
    · exact .ended
    next item rest hitems =>
      split
      · exact .discarded hitems
      · split
        · exact .began hitems _
        · exact .discarded hitems

theorem moves_of_attempt {a : Attempt} {rest : Option Pass}
    (h : a.next env s reply rest = some (s', task')) : Moves env s reply (.attempt a rest) s' task' := by
  unfold Attempt.next at h
  dsimp only at h
  split at h
  next hphase =>
    split at h
    next f hf =>
      obtain ⟨rfl, rfl⟩ := Prod.mk.inj (Option.some.inj h)
      exact .failedEarly hphase hf
    next m =>
      obtain ⟨rfl, rfl⟩ := Prod.mk.inj (Option.some.inj h)
      exact .acquired hphase
  next m copied lk hphase =>
    obtain ⟨locks, hlock, heq⟩ := Option.map_eq_some_iff.mp h
    obtain ⟨rfl, rfl⟩ := Prod.mk.inj heq
    exact .locked hphase hlock
  next m copied lk hphase =>
    split at h
    next item hitem =>
      split at h
      next hactive =>
        obtain ⟨rfl, rfl⟩ := Prod.mk.inj (Option.some.inj h)
        exact .reread hphase hitem hactive
      next =>
        obtain ⟨rfl, rfl⟩ := Prod.mk.inj (Option.some.inj h)
        exact .gone hphase
    next =>
      obtain ⟨rfl, rfl⟩ := Prod.mk.inj (Option.some.inj h)
      exact .gone hphase
  next m copied lk hphase =>
    split at h
    next hruntime =>
      obtain ⟨rfl, rfl⟩ := Prod.mk.inj (Option.some.inj h)
      exact .noURL hphase hruntime
    next hruntime =>
      obtain ⟨rfl, rfl⟩ := Prod.mk.inj (Option.some.inj h)
      exact .sent hphase hruntime
  next m copied lk runtime hphase =>
    obtain ⟨rfl, rfl⟩ := Prod.mk.inj (Option.some.inj h)
    exact .answered hphase
  next m copied lk answer hphase =>
    split at h
    next hsucceeded =>
      obtain ⟨rfl, rfl⟩ := Prod.mk.inj (Option.some.inj h)
      exact .succeeded hphase hsucceeded
    next hfailed =>
      obtain ⟨rfl, rfl⟩ := Prod.mk.inj (Option.some.inj h)
      exact .failed hphase (Bool.not_eq_true _ ▸ hfailed)
  next lk hphase =>
    obtain ⟨rfl, rfl⟩ := Prod.mk.inj (Option.some.inj h)
    exact .unlocked hphase
  next lk hphase =>
    obtain ⟨rfl, rfl⟩ := Prod.mk.inj (Option.some.inj h)
    exact .released hphase

theorem moves_of_next (h : task.next env s reply = some (s', task')) :
    Moves env s reply task s' task' := by
  cases task with
  | dispatch d =>
    obtain ⟨rfl, rfl⟩ := Prod.mk.inj (Option.some.inj h)
    exact moves_of_dispatch d
  | pass p =>
    obtain ⟨rfl, rfl⟩ := Prod.mk.inj (Option.some.inj h)
    exact moves_of_pass p
  | attempt a rest => exact moves_of_attempt h
  | done => contradiction

end Moves

/-! ## The steps of the system -/

/-- A step of no task: what the outbox works on stays, and at most a task is added that
holds nothing. -/
structure Quiet (s t : System) : Prop where
  outbox : t.tables.outbox = s.tables.outbox
  deliveries : t.tables.deliveries = s.tables.deliveries
  locks : t.locks = s.locks
  nextSerial : t.nextSerial = s.nextSerial
  now : s.now.nanos ≤ t.now.nanos
  tasks : t.tasks = s.tasks ∨ (∃ n, t.tasks = s.tasks ++ [.dispatch (.settings n)]) ∨
    t.tasks = s.tasks ++ [.pass .list]

/-- A task after such a step was there before, or has just begun. -/
theorem Quiet.task_cases {s t : System} (h : Quiet s t) {task : Task} (htask : task ∈ t.tasks) :
    task ∈ s.tasks ∨ (∃ n, task = .dispatch (.settings n)) ∨ task = .pass .list := by
  rcases h.tasks with heq | ⟨n, heq⟩ | heq <;> rw [heq] at htask
  · exact Or.inl htask
  · cases List.mem_append.mp htask with
    | inl hthere => exact Or.inl hthere
    | inr hnew => exact Or.inr (Or.inl ⟨n, List.mem_singleton.mp hnew⟩)
  · cases List.mem_append.mp htask with
    | inl hthere => exact Or.inl hthere
    | inr hnew => exact Or.inr (Or.inr (List.mem_singleton.mp hnew))

theorem Quiet.attempts {s t : System} (h : Quiet s t) (a : Attempt) (rest : Option Pass)
    (ha : Task.attempt a rest ∈ t.tasks) : Task.attempt a rest ∈ s.tasks := by
  rcases h.task_cases ha with hthere | ⟨n, hnew⟩ | hnew
  · exact hthere
  · contradiction
  · contradiction

theorem step_cases {env : NotifyEnv} {s t : System} {e : Event} (h : s.step env e = some t) :
    (∃ i reply task shared task', e = .advance i reply ∧ s.tasks[i]? = some task ∧
      Moves env s.toShared reply task shared task' ∧ t = ⟨shared, s.tasks.set i task'⟩) ∨
      s.acting e = none ∧ Quiet s t := by
  cases e with
  | dispatch n =>
    obtain rfl := Option.some.inj h
    exact Or.inr ⟨rfl, rfl, rfl, rfl, rfl, Nat.le_refl _, Or.inr (Or.inl ⟨n, rfl⟩)⟩
  | processDue =>
    obtain rfl := Option.some.inj h
    exact Or.inr ⟨rfl, rfl, rfl, rfl, rfl, Nat.le_refl _, Or.inr (Or.inr rfl)⟩
  | advance i reply =>
    obtain ⟨task, htask, hnext⟩ := Option.bind_eq_some_iff.mp h
    obtain ⟨⟨shared, task'⟩, hmove, rfl⟩ := Option.map_eq_some_iff.mp hnext
    exact Or.inl ⟨i, reply, task, shared, task', rfl, htask, moves_of_next hmove, rfl⟩
  | tick now =>
    simp only [System.step] at h
    split at h
    next hle =>
      obtain rfl := Option.some.inj h
      exact Or.inr ⟨rfl, rfl, rfl, rfl, rfl, hle, Or.inl rfl⟩
    · contradiction
  | configure settings subscriptions systemSettings =>
    obtain rfl := Option.some.inj h
    exact Or.inr ⟨rfl, rfl, rfl, rfl, rfl, Nat.le_refl _, Or.inl rfl⟩

/-! ## The locks -/

theorem consistent_of_moves {env : NotifyEnv} {s s' : Shared} {reply : SendReply} {task task' : Task}
    {clients : List (Option (Claim Int))} {i : Nat} (h : Consistent s.locks clients)
    (hi : clients[i]? = some task.claim) (hmove : Moves env s reply task s' task') :
    Consistent s'.locks (clients.set i task'.claim) := by
  -- most steps leave the lock and what the task refers to
  have hsame : ∀ {locks : Locks Int} {claim : Option (Claim Int)}, locks = s.locks →
      claim = task.claim → Consistent locks (clients.set i claim) := by
    rintro locks claim rfl rfl
    exact h.same hi
  cases hmove with
  | stopped => exact hsame rfl rfl
  | asked => exact hsame rfl rfl
  | notRecent => exact hsame rfl rfl
  | notPending => exact hsame rfl rfl
  | inserted => exact hsame rfl rfl
  | ended => exact hsame rfl rfl
  | listed => exact hsame rfl rfl
  | went => exact hsame rfl rfl
  | discarded => exact hsame rfl rfl
  | began => exact hsame rfl rfl
  | failedEarly hphase =>
    refine hsame rfl ?_
    rw [Task.claim_resume, Task.claim, hphase]
    rfl
  | @acquired a rest m hphase =>
    have hnone : clients[i]? = some none := by
      rw [hi, Task.claim, hphase]
      rfl
    exact h.acquire hnone a.item.id
  | @locked a rest m copied lk locks hphase hlock =>
    have hclaim : clients[i]? = some (some ⟨a.item.id, lk, false⟩) := by
      rw [hi, Task.claim, hphase]
      rfl
    exact h.lock hclaim hlock
  | @reread a rest m copied lk item hphase hitem =>
    refine hsame rfl ?_
    show some (Claim.mk item.id lk true) = _
    rw [Task.claim, hphase, (Table.mem_of_find? hitem).2]
    rfl
  | gone hphase =>
    refine hsame rfl ?_
    rw [Task.claim, Task.claim, hphase]
    rfl
  | noURL hphase =>
    refine hsame rfl ?_
    rw [Task.claim, Task.claim, hphase]
    rfl
  | sent hphase =>
    refine hsame rfl ?_
    rw [Task.claim, Task.claim, hphase]
    rfl
  | answered hphase =>
    refine hsame rfl ?_
    rw [Task.claim, Task.claim, hphase]
    rfl
  | succeeded hphase =>
    refine hsame rfl ?_
    rw [Task.claim, Task.claim, hphase]
    rfl
  | failed hphase =>
    refine hsame rfl ?_
    rw [Task.claim, Task.claim, hphase]
    rfl
  | @unlocked a rest lk hphase =>
    have hclaim : clients[i]? = some (some ⟨a.item.id, lk, true⟩) := by
      rw [hi, Task.claim, hphase]
      rfl
    exact h.unlock hclaim
  | @released a rest lk hphase =>
    have hclaim : clients[i]? = some (some ⟨a.item.id, lk, false⟩) := by
      rw [hi, Task.claim, hphase]
      rfl
    rw [Task.claim_resume]
    exact h.release hclaim

/-- The locks and the tasks of the system fit each other. -/
def System.Locked (s : System) : Prop := Consistent s.locks (s.tasks.map Task.claim)

theorem System.Start.locked {s : System} (h : s.Start) : s.Locked := by
  show Consistent s.locks (s.tasks.map Task.claim)
  rw [h.tasks, h.locks]
  exact consistent_nil

theorem System.Locked.step {env : NotifyEnv} {s t : System} {e : Event} (h : s.Locked)
    (hstep : s.step env e = some t) : t.Locked := by
  rcases step_cases hstep with ⟨i, reply, task, shared, task', -, htask, hmove, rfl⟩ | ⟨-, hquiet⟩
  · show Consistent shared.locks ((s.tasks.set i task').map Task.claim)
    rw [List.map_set]
    exact consistent_of_moves h (by rw [List.getElem?_map, htask]; rfl) hmove
  · show Consistent t.locks (t.tasks.map Task.claim)
    rw [hquiet.locks]
    rcases hquiet.tasks with heq | ⟨n, heq⟩ | heq
    · rw [heq]
      exact h
    · rw [heq, List.map_append]
      exact Consistent.push h
    · rw [heq, List.map_append]
      exact Consistent.push h

/-- Two attempts that have their locks are on different rows. -/
theorem System.Locked.exclusive {s : System} (h : s.Locked) {i j : Nat} {a b : Attempt}
    {rest rest' : Option Pass} (hi : s.tasks[i]? = some (.attempt a rest))
    (hj : s.tasks[j]? = some (.attempt b rest')) (ha : a.phase.holdsLock = true)
    (hb : b.phase.holdsLock = true) (hid : a.item.id = b.item.id) : i = j := by
  have hclaim : ∀ {a : Attempt}, a.phase.holdsLock = true →
      ∃ lk, a.phase.claim a.item.id = some ⟨a.item.id, lk, true⟩ := by
    intro a ha
    cases hphase : a.phase <;> rw [hphase] at ha <;> first | exact ⟨_, rfl⟩ | contradiction
  have hget : ∀ {i : Nat} {a : Attempt} {rest : Option Pass}, s.tasks[i]? = some (.attempt a rest) →
      (s.tasks.map Task.claim)[i]? = some (a.phase.claim a.item.id) := by
    intro i a rest hi
    rw [List.getElem?_map, hi]
    rfl
  obtain ⟨lk, hlk⟩ := hclaim ha
  obtain ⟨lk', hlk'⟩ := hclaim hb
  exact Consistent.exclusive h ((hget hi).trans (congrArg some hlk))
    ((hget hj).trans (congrArg some hlk')) rfl rfl hid

/-! ## The tables -/

theorem Outbox.get?_update {o o' : Outbox} {id : Int} {f : NotificationOutbox → NotificationOutbox}
    (h : o.update id f = some o') (hf : ∀ item, (f item).id = item.id) (id' : Int) :
    o'.get? id' = if id' = id then
      (o.get? id').map fun r => { r with toNotificationOutbox := f r.toNotificationOutbox }
    else o.get? id' := by
  show o'.table.find? id' = _
  rw [Outbox.table_of_ofTable? h]
  exact Table.find?_modify _ (fun r => hf r.toNotificationOutbox) id id'

theorem Outbox.get?_delete (o : Outbox) (id id' : Int) :
    (o.delete id).get? id' = if id' = id then none else o.get? id' := Table.find?_erase o.table id id'

/-- An insertion adds a row under the next number. -/
theorem Outbox.insert_eq_some {o o' : Outbox} {item : NotificationOutbox} {serial : Int}
    {row : OutboxRow} (h : o.insert item serial = some (o', row)) :
    row = { item with id := nextRowid o.table, serial } ∧ o.get? row.id = none ∧
      ∀ id, o'.get? id = if id = row.id then some row else o.get? id := by
  obtain ⟨o'', htable, heq⟩ := Option.map_eq_some_iff.mp h
  obtain ⟨rfl, rfl⟩ := Prod.mk.inj heq
  refine ⟨rfl, find?_nextRowid o.table, fun id => ?_⟩
  show o''.table.find? id = _
  rw [Outbox.table_of_ofTable? htable, Table.find?_set]
  exact if_congr eq_comm rfl rfl

/-- What a recorded failure makes of its row. -/
def NotificationOutbox.failed (item : NotificationOutbox) (now : Clock) (attempt : Int)
    (message : Str) : NotificationOutbox :=
  if attempt ≥ fixedMaxAttempts then { item with status := .dropped, attempt, lastError := message }
  else { item with status := .retrying, attempt, nextAttemptAt := nextAttemptText now attempt,
                   lastError := message }

/-- A recorded failure: one delivery, and a change of the row with the number of the item. -/
structure Fails (now : Clock) (item : NotificationOutbox) (t t' : NotifyTables) : Prop where
  delivery : ∃ d, t'.deliveries = t.deliveries ++ [d] ∧ d.createdAt = now.datetime ∧
    d.dedupKey = item.dedupKey ∧
    d.status = if item.attempt + 1 ≥ fixedMaxAttempts then .dropped else .failed
  row : ∃ message, ∀ id, t'.outbox.get? id = if id = item.id then
    (t.outbox.get? id).map fun r =>
      { r with toNotificationOutbox := r.toNotificationOutbox.failed now (item.attempt + 1) message }
    else t.outbox.get? id

theorem fails_of_fail {t t' : NotifyTables} {now : Clock} {item : NotificationOutbox} {f : Failure}
    (h : t.fail now item f = some t') : Fails now item t t' := by
  simp only [NotifyTables.fail] at h
  split at h
  next hmax =>
    obtain ⟨o, ho, rfl⟩ := Option.map_eq_some_iff.mp h
    refine ⟨⟨_, rfl, rfl, rfl, (if_pos hmax).symm⟩, firstNonEmpty [f.result.upstreamMessage, f.message], ?_⟩
    have hupdate := Outbox.get?_update ho fun _ => rfl
    simp only [NotificationOutbox.failed, if_pos hmax]
    exact hupdate
  next hmax =>
    obtain ⟨o, ho, rfl⟩ := Option.map_eq_some_iff.mp h
    refine ⟨⟨_, rfl, rfl, rfl, (if_neg hmax).symm⟩, firstNonEmpty [f.result.upstreamMessage, f.message], ?_⟩
    have hupdate := Outbox.get?_update ho fun _ => rfl
    simp only [NotificationOutbox.failed, if_neg hmax]
    exact hupdate

/-- A recorded success: one delivery, and the row is gone. -/
structure Succeeds (now : Clock) (item : NotificationOutbox) (t t' : NotifyTables) : Prop where
  delivery : ∃ d, t'.deliveries = t.deliveries ++ [d] ∧ d.createdAt = now.datetime ∧
    d.dedupKey = item.dedupKey ∧ d.status = .success
  there : (t.outbox.get? item.id).isSome = true
  row : t'.outbox = t.outbox.delete item.id

theorem succeeds_of_succeed {t t' : NotifyTables} {now : Clock} {item : NotificationOutbox}
    {m : Prepared} {result : Result} (h : t.succeed now item m result = some t') :
    Succeeds now item t t' := by
  simp only [NotifyTables.succeed, NotifyTables.recordNotificationAttemptSuccess] at h
  split at h
  next hthere =>
    obtain rfl := Option.some.inj h
    exact ⟨⟨_, rfl, rfl, rfl, rfl⟩, hthere, rfl⟩
  · contradiction

/-- A statement that may fail has gone through, or has changed nothing. -/
theorem commit_cases (s : Shared) (tables : Option NotifyTables) :
    (∃ t, tables = some t ∧ s.commit tables = { s with tables := t }) ∨ s.commit tables = s := by
  cases tables with
  | none => exact Or.inr rfl
  | some t => exact Or.inl ⟨t, rfl, rfl⟩

/-! ## Two alerts -/

/-- An alert about an account. -/
def alert (message : Str) (accountID : Int) : Notification where
  event := lit "account_error"
  severity := lit "critical"
  title := lit "t"
  message := message
  timestamp := lit "2026-07-01T12:00:00Z"
  source := { accountID := some accountID }

def firstAlert : Notification := alert (lit "one") 1

def secondAlert : Notification := alert (lit "two") 2

/-- An alert in JSON. -/
def alertJSON (n : Notification) : Str :=
  lit "\x7b\"event\":\"" ++ n.event ++ lit "\",\"severity\":\"" ++ n.severity ++
    lit "\",\"title\":\"" ++ n.title ++ lit "\",\"message\":\"" ++ n.message ++
    lit "\",\"timestamp\":\"" ++ n.timestamp ++ lit "\",\"source\":\x7b\"account_id\":" ++
    itoa (n.source.accountID.getD 0) ++ lit "\x7d\x7d"

/-- The template whose text is the message. -/
def messageTemplate : Str := lit "\x7b\x7b .Message \x7d\x7d"

/-- What JSON, the templates and SHA-1 do with the two alerts. -/
def alertEnv : NotifyEnv where
  registered := true
  marshal := fun n => some (alertJSON n)
  unmarshal := fun raw =>
    if raw = alertJSON firstAlert then .ok firstAlert
    else if raw = alertJSON secondAlert then .ok secondAlert
    else .error (lit "unexpected end of JSON input")
  renderTemplate := fun tpl n =>
    if tpl = messageTemplate then .ok n.message
    else if tpl = lit "\x7b\x7b .Missing" then .error (lit "template: notify:1: unclosed action")
    else .ok tpl
  sha1Hex := fun text =>
    if text = lit "account_error|critical|account:1" then lit "b3f362cf351d15badd5e1f82e428bd39bce61b17"
    else lit "ab60463d72fb52c8048b0e6ccdd0aad527af0031"

/-- So many seconds after noon on the first of July 2026. -/
def alertClock (after : Nat) : Clock :=
  let s := Fields.seconds ⟨2026, 7, 1, 12, 0, 0⟩ + after
  if hs : s * second < maxSeconds * second then ⟨s * second, hs⟩ else default

/-- An empty outbox, and a subscription to the alerts. -/
def alertSystem (bodyTemplate : Str) : System where
  now := alertClock 0
  tables :=
    { settings := { enabled := true, webhookURL := lit "https://example.test/hook" }
      subscriptions := Table.empty.set { event := lit "account_error", bodyTemplate } }
  nextSerial := 1

theorem alertSystem_start (bodyTemplate : Str) : (alertSystem bodyTemplate).Start :=
  ⟨rfl, rfl, fun _ h => absurd h List.not_mem_nil⟩

/-- So many steps of a task. -/
def steps (i n : Nat) : List Event := List.replicate n (.advance i { result := { ok := true } })

end Lune.Notify
