import Lune.Notify.Delivery

/-!
# The wait before a retry

A failure stores the time of the next attempt in the row.  A pass asks for it when it
lists the rows, and no attempt asks again: a copy that was due when it was read is sent
whatever the row has in the end.  As long as a retry is recorded when no other copy of
its row waits to be sent, no send starts before the time that was stored last.
-/

namespace Lune.Notify

open GoText Keyed KeyedLocks Calendar TimeText Store

/-! ## Stored times -/

/-- The next step of the attempt is to record a failure. -/
def Attempt.fails (env : NotifyEnv) (a : Attempt) : Bool :=
  match a.phase with
  | .begin => !(prepare env a.item.toNotificationOutbox a.sub).isOk
  | .current m _ _ => !(buildChannelRuntime a.settings (lit "system") m.rendered).isOk
  | .answered _ _ _ reply => !reply.succeeded
  | _ => false

namespace Task

/-- The item that the next step of the task records a retry for. -/
def retries (env : NotifyEnv) : Task → Option OutboxRow
  | attempt a _ => if a.fails env ∧ a.item.attempt + 1 < fixedMaxAttempts then some a.item else none
  | _ => none

/-- The item that the next step of the task begins to send. -/
def startsSend : Task → Option OutboxRow
  | attempt a _ =>
    match a.phase with
    | .current m _ _ =>
      if (buildChannelRuntime a.settings (lit "system") m.rendered).isOk then some a.item else none
    | _ => none
  | _ => none

/-- The copies of a pass that come after the attempt it is at. -/
def later : Task → List OutboxRow
  | attempt _ rest => rest.elim [] Pass.items
  | _ => []

/-- The time of the next attempt that a recorded failure has stored. -/
def stores (before after : NotifyTables) : Task → List ((Int × Int) × Str)
  | attempt a _ =>
    if .failed ∈ (newDeliveries before after).map NotificationDelivery.status then
      ((after.outbox.get? a.item.id).map fun row => (row.tag, row.nextAttemptAt)).toList
    else []
  | _ => []

end Task

/-- What one step stores. -/
def System.stores (s : System) (e : Event) (t : System) : List ((Int × Int) × Str) :=
  match s.acting e with
  | some task => task.stores s.tables t.tables
  | none => []

/-- The times that the failures of a run have stored. -/
def System.stored (env : NotifyEnv) (s : System) (tr : List Event) : List ((Int × Int) × Str) :=
  Runs.observed System.stores (System.step env) s tr

/-- The time stored last for a notification, in the run or before it. -/
def storedLast (start : System) (notes : List ((Int × Int) × Str)) (tag : Int × Int) : Option Str :=
  match (notes.filter fun note => note.1 = tag).getLast? with
  | some note => some note.2
  | none =>
    (start.tables.outbox.get? tag.1).bind fun row =>
      if row.serial = tag.2 then some row.nextAttemptAt else none

/-- When a retry is recorded, no other copy of the row waits to be sent. -/
def RetriesAlone (env : NotifyEnv) (s : System) : Event → Prop
  | .advance i _ => ∀ task ∈ s.tasks[i]?, ∀ item ∈ task.retries env,
    ∀ c ∈ task.later ++ (s.tasks.eraseIdx i).flatMap Task.unsent, c.id ≠ item.id
  | _ => True

instance (env : NotifyEnv) (s : System) (e : Event) : Decidable (RetriesAlone env s e) :=
  match e with
  | .advance i _ => inferInstanceAs (Decidable (∀ task ∈ s.tasks[i]?, ∀ item ∈ task.retries env,
    ∀ c ∈ task.later ++ (s.tasks.eraseIdx i).flatMap Task.unsent, c.id ≠ item.id))
  | .dispatch _ | .processDue | .tick _ | .configure .. => isTrue trivial

section Stored

variable {start : System} {notes : List ((Int × Int) × Str)} {tag : Int × Int}

theorem storedLast_same {new : List ((Int × Int) × Str)} (h : ∀ note ∈ new, note.1 ≠ tag) :
    storedLast start (notes ++ new) tag = storedLast start notes tag := by
  have hnone : (new.filter fun note => note.1 = tag) = [] := by
    refine List.filter_eq_nil_iff.mpr fun note hnote => ?_
    simpa using h note hnote
  unfold storedLast
  rw [List.filter_append, hnone, List.append_nil]

theorem storedLast_new (text : Str) : storedLast start (notes ++ [(tag, text)]) tag = some text := by
  unfold storedLast
  simp

end Stored

/-! ## The times of the rows -/

section Moves

variable {env : NotifyEnv} {s s' : Shared} {reply : SendReply} {task task' : Task}

/-- A row that is inserted is due at once. -/
theorem inserted_due {r : Request} {tables : NotifyTables} {row : OutboxRow}
    (h : s.tables.insertNotificationOutbox s.now (r.item s.now) s.nextSerial = some (tables, row)) :
    row.nextAttemptAt = s.now.datetime := by
  obtain ⟨-, -, -, htime, -⟩ := insert_eq_some h
  rw [htime]
  show (if isBlank s.now.datetime then s.now.datetime else s.now.datetime) = _
  rw [ite_self]

/-- A copy after a step that has not begun to be sent was there before, was read again
under the number of such a copy, or was due when the step read it. -/
theorem unsent_of_moves (h : Moves env s reply task s' task') {c : OutboxRow} (hc : c ∈ task'.unsent) :
    c ∈ task.unsent ∨ s'.tables.outbox.get? c.id = some c ∧
      (c.nextAttemptAt ≤ s.now.datetime ∨ ∃ old ∈ task.unsent, old.id = c.id) := by
  cases h with
  | stopped | asked | notRecent | notPending | ended => exact absurd hc List.not_mem_nil
  | inserted hinsert =>
    obtain ⟨-, -, -, -, -, -, -, -, hget⟩ := insert_eq_some hinsert
    obtain rfl := List.mem_singleton.mp hc
    refine Or.inr ⟨(hget _).trans (if_pos rfl), Or.inl ?_⟩
    rw [inserted_due hinsert]
    exact List.le_refl _
  | listed =>
    have hdue := (List.perm_insertionSort _ _).mem_iff.mp (List.mem_of_mem_take hc)
    obtain ⟨hmem, htime⟩ := List.mem_filter.mp hdue
    simp only [Bool.and_eq_true, decide_eq_true_eq] at htime
    exact Or.inr ⟨Table.find?_of_mem hmem, Or.inl htime.2⟩
  | went hitems =>
    change c ∈ PassStep.items _ at hc
    rw [hitems] at hc
    exact Or.inl hc
  | @discarded p item rest hitems =>
    left
    show c ∈ p.items
    rw [hitems]
    exact List.mem_cons_of_mem _ hc
  | @began p item rest hitems =>
    left
    show c ∈ p.items
    rw [hitems]
    exact hc
  | failedEarly | released =>
    rw [Task.unsent_resume] at hc
    exact Or.inl (List.mem_append_right _ hc)
  | @reread a rest m copied lk item hphase hitem =>
    cases List.mem_append.mp hc with
    | inl hitem' =>
      obtain rfl := List.mem_singleton.mp hitem'
      have hid := (Table.mem_of_find? hitem).2
      refine Or.inr ⟨by rw [hid]; exact hitem, Or.inr ⟨a.item, List.mem_append_left _ ?_, hid.symm⟩⟩
      rw [hphase]
      exact List.mem_singleton_self _
    | inr hrest => exact Or.inl (List.mem_append_right _ hrest)
  | acquired hphase | locked hphase | gone hphase | noURL hphase | sent hphase | answered hphase
  | succeeded hphase | failed hphase | unlocked hphase =>
    left
    show c ∈ (if Phase.unsent _ then _ else _) ++ _
    rw [hphase]
    cases List.mem_append.mp hc with
    | inl hitem => first | exact List.mem_append_left _ hitem | contradiction
    | inr hrest => exact List.mem_append_right _ hrest

/-- A row under its number and with its time after a step was there before, or is the one
inserted. -/
def KeepsTimes (s s' : Shared) : Prop :=
  ∀ id row', s'.tables.outbox.get? id = some row' →
    (∃ row, s.tables.outbox.get? id = some row ∧ row.serial = row'.serial ∧
      row.nextAttemptAt = row'.nextAttemptAt) ∨
      row'.serial = s.nextSerial ∧ s.nextSerial < s'.nextSerial ∧ row'.nextAttemptAt = s.now.datetime

/-- What a step that records a retry does: only the row of the item changes, and its time
is stored. -/
structure Retried (s s' : Shared) (item : OutboxRow) (stored : List ((Int × Int) × Str)) : Prop where
  other : ∀ id, id ≠ item.id → s'.tables.outbox.get? id = s.tables.outbox.get? id
  row : ∀ row', s'.tables.outbox.get? item.id = some row' →
    ∃ row, s.tables.outbox.get? item.id = some row ∧ row.serial = row'.serial
  stored : stored = ((s'.tables.outbox.get? item.id).map fun row => (row.tag, row.nextAttemptAt)).toList
  nextSerial : s'.nextSerial = s.nextSerial

/-- What a recorded failure does to the times. -/
theorem times_of_fail {a : Attempt} {rest : Option Pass} {f : Failure} (hfails : a.fails env = true)
    (h : s' = s.commit (s.tables.fail s.now a.item.toNotificationOutbox f)) :
    ((Task.attempt a rest).stores s.tables s'.tables = [] ∧ KeepsTimes s s') ∨
      ∃ item ∈ (Task.attempt a rest).retries env,
        Retried s s' item ((Task.attempt a rest).stores s.tables s'.tables) := by
  rcases commit_cases s (s.tables.fail s.now a.item.toNotificationOutbox f) with ⟨t, ht, heq⟩ | heq
  · rw [heq] at h
    subst h
    obtain ⟨d, hdeliveries, -, -, hstatus⟩ := (fails_of_fail ht).delivery
    obtain ⟨message, hget⟩ := (fails_of_fail ht).row
    have hnew : (newDeliveries s.tables t).map NotificationDelivery.status = [d.status] := by
      rw [newDeliveries_append hdeliveries]
      rfl
    by_cases hmax : a.item.attempt + 1 ≥ fixedMaxAttempts
    · left
      rw [if_pos hmax] at hstatus
      refine ⟨?_, fun id row' hrow' => Or.inl ?_⟩
      · simp only [Task.stores, hnew, hstatus]
        rfl
      · change t.outbox.get? id = some row' at hrow'
        rw [hget] at hrow'
        split at hrow'
        · obtain ⟨row, hrow, rfl⟩ := Option.map_eq_some_iff.mp hrow'
          refine ⟨row, hrow, rfl, ?_⟩
          simp only [NotificationOutbox.failed, if_pos hmax]
        · exact ⟨row', hrow', rfl, rfl⟩
    · right
      rw [if_neg hmax] at hstatus
      refine ⟨a.item, ?_, ?_, ?_, ?_, rfl⟩
      · show (if a.fails env ∧ _ then _ else _) = _
        rw [if_pos ⟨hfails, by omega⟩]
      · intro id hne
        exact (hget id).trans (if_neg hne)
      · intro row' hrow'
        change t.outbox.get? a.item.id = some row' at hrow'
        rw [hget, if_pos rfl] at hrow'
        obtain ⟨row, hrow, rfl⟩ := Option.map_eq_some_iff.mp hrow'
        exact ⟨row, hrow, rfl⟩
      · simp only [Task.stores, hnew, hstatus]
        rfl
  · rw [heq] at h
    subst h
    refine Or.inl ⟨?_, fun id row' hrow' => Or.inl ⟨row', hrow', rfl, rfl⟩⟩
    simp only [Task.stores, newDeliveries_same]
    rfl

/-- What a step does to the times: a retry is recorded and its task has no copy left that
is not behind it, or nothing is stored. -/
theorem times_of_moves (h : Moves env s reply task s' task') :
    (task.stores s.tables s'.tables = [] ∧ KeepsTimes s s' ∧ s.nextSerial ≤ s'.nextSerial) ∨
      (∀ c ∈ task'.unsent, c ∈ task.later) ∧
        ∃ item ∈ task.retries env, Retried s s' item (task.stores s.tables s'.tables) := by
  have hsame : task.stores s.tables s.tables = [] := by
    cases task with
    | attempt a rest =>
      simp only [Task.stores, newDeliveries_same]
      rfl
    | dispatch | pass | done => rfl
  have hkeeps : KeepsTimes s s := fun id row' hrow' => Or.inl ⟨row', hrow', rfl, rfl⟩
  have hfail : ∀ {a rest f}, task = .attempt a rest → a.fails env = true →
      s' = s.commit (s.tables.fail s.now a.item.toNotificationOutbox f) →
      (∀ c ∈ task'.unsent, c ∈ task.later) →
      (task.stores s.tables s'.tables = [] ∧ KeepsTimes s s' ∧ s.nextSerial ≤ s'.nextSerial) ∨
        (∀ c ∈ task'.unsent, c ∈ task.later) ∧
          ∃ item ∈ task.retries env, Retried s s' item (task.stores s.tables s'.tables) := by
    rintro a rest f rfl hfails heq hlater
    have hserial : s.nextSerial ≤ s'.nextSerial := by
      rw [heq]
      exact le_refl _
    rcases @times_of_fail env s s' a rest f hfails heq with ⟨hstores, htimes⟩ | hretried
    · exact Or.inl ⟨hstores, htimes, hserial⟩
    · exact Or.inr ⟨hlater, hretried⟩
  cases h with
  | stopped | asked | notRecent | notPending | ended | listed | went | began | acquired | locked
  | reread | gone | sent | answered | unlocked | released =>
    exact Or.inl ⟨hsame, hkeeps, le_refl _⟩
  | @inserted r seen tables row hinsert =>
    obtain ⟨-, hserial, -, -, -, -, -, -, hget⟩ := insert_eq_some hinsert
    have hlt : s.nextSerial < s.nextSerial + 1 := by omega
    refine Or.inl ⟨rfl, fun id row' hrow' => ?_, hlt.le⟩
    change tables.outbox.get? id = some row' at hrow'
    rw [hget] at hrow'
    split at hrow'
    · obtain rfl := Option.some.inj hrow'
      exact Or.inr ⟨hserial, hlt, inserted_due hinsert⟩
    · exact Or.inl ⟨row', hrow', rfl, rfl⟩
  | @discarded p item rest =>
    refine Or.inl ⟨rfl, fun id row' hrow' => Or.inl ?_, le_refl _⟩
    change (s.tables.outbox.delete item.id).get? id = some row' at hrow'
    rw [Outbox.get?_delete] at hrow'
    split at hrow'
    · contradiction
    · exact ⟨row', hrow', rfl, rfl⟩
  | @failedEarly a rest f hphase hprepare =>
    refine hfail rfl ?_ rfl ?_
    · simp only [Attempt.fails, hphase, hprepare]
      rfl
    · rw [Task.unsent_resume]
      exact fun c hc => hc
  | @noURL a rest m copied lk f message hphase hruntime =>
    refine hfail rfl ?_ rfl fun c hc => hc
    simp only [Attempt.fails, hphase, hruntime]
    rfl
  | @failed a rest m copied lk answer f hphase hanswer =>
    refine hfail rfl ?_ rfl fun c hc => hc
    simp only [Attempt.fails, hphase, hanswer]
    rfl
  | @succeeded a rest m copied lk answer hphase =>
    refine Or.inl ⟨?_, fun id row' hrow' => Or.inl ⟨row', row_of_succeed hrow', rfl, rfl⟩, le_refl _⟩
    rcases commit_cases s (s.tables.succeed s.now a.item.toNotificationOutbox m answer.result) with
      ⟨t, ht, heq⟩ | heq
    · rw [heq]
      obtain ⟨d, hdeliveries, -, -, hstatus⟩ := (succeeds_of_succeed ht).delivery
      simp only [Task.stores, newDeliveries_append hdeliveries, List.map_cons, List.map_nil, hstatus]
      rfl
    · rw [heq]
      exact hsame

end Moves

/-! ## The invariant -/

theorem datetime_mono {now later : Clock} (h : now.nanos ≤ later.nanos) :
    now.datetime ≤ later.datetime :=
  (datetimeText_le_iff now.seconds_lt later.seconds_lt).mpr (Nat.div_le_div_right h)

/-- The time stored for the copy has come, and that of the row under its number. -/
structure Ripe (start : System) (notes : List ((Int × Int) × Str)) (s : Shared) (c : OutboxRow) :
    Prop where
  stored : ∀ text, storedLast start notes c.tag = some text → text ≤ s.now.datetime
  row : ∀ row, s.tables.outbox.get? c.id = some row → row.nextAttemptAt ≤ s.now.datetime

/-- The stored times are those of the rows, and have come for the copies that wait to be
sent. -/
structure Due (start : System) (notes : List ((Int × Int) × Str)) (s : System) : Prop where
  rowSerials : ∀ id row, s.tables.outbox.get? id = some row → row.serial < s.nextSerial
  serials : ∀ tag text, storedLast start notes tag = some text → tag.2 < s.nextSerial
  rows : ∀ id row, s.tables.outbox.get? id = some row →
    ∀ text, storedLast start notes row.tag = some text → row.nextAttemptAt = text
  copies : ∀ task ∈ s.tasks, ∀ c ∈ task.unsent, Ripe start notes s.toShared c

theorem System.Start.due {s : System} (h : s.Start) : Due s [] s where
  rowSerials := h.sound.rows
  serials := by
    intro tag text htext
    obtain ⟨row, hrow, hserial⟩ := Option.bind_eq_some_iff.mp htext
    split at hserial
    next heq => exact heq ▸ h.sound.rows _ _ hrow
    · contradiction
  rows := by
    intro id row hrow text htext
    obtain ⟨row', hrow', hserial⟩ := Option.bind_eq_some_iff.mp htext
    have hget : s.tables.outbox.get? row.id = some row :=
      Table.find?_of_mem (Table.mem_of_find? hrow).1
    change s.tables.outbox.get? row.id = some row' at hrow'
    rw [hget] at hrow'
    obtain rfl := Option.some.inj hrow'
    simpa [OutboxRow.tag] using hserial
  copies := by
    rw [h.tasks]
    exact fun _ htask => absurd htask List.not_mem_nil

namespace Due

section Step

variable {env : NotifyEnv} {start s : System} {notes : List ((Int × Int) × Str)} {shared : Shared}
variable {reply : SendReply} {task task' : Task} {i : Nat}

theorem same_tag {o o' : Outbox} {id : Int} {row row' : OutboxRow} (hrow : o.get? id = some row)
    (hrow' : o'.get? id = some row') (hserial : row.serial = row'.serial) : row.tag = row'.tag :=
  Prod.ext ((Table.mem_of_find? hrow).2.trans (Table.mem_of_find? hrow').2.symm) hserial

/-- A step that stores nothing. -/
theorem keep_step (h : Due start notes s) (htask : s.tasks[i]? = some task)
    (hmove : Moves env s.toShared reply task shared task') (htimes : KeepsTimes s.toShared shared)
    (hserials : s.nextSerial ≤ shared.nextSerial) :
    Due start notes ⟨shared, s.tasks.set i task'⟩ := by
  have hnow := now_of_moves hmove
  have hrows : ∀ id row, shared.tables.outbox.get? id = some row →
      ∀ text, storedLast start notes row.tag = some text → row.nextAttemptAt = text := by
    intro id row' hrow' text htext
    rcases htimes id row' hrow' with ⟨row, hrow, hserial, htime⟩ | ⟨hserial, -, -⟩
    · rw [← htime]
      rw [← same_tag hrow hrow' hserial] at htext
      exact h.rows id row hrow text htext
    · have hlt : row'.serial < s.nextSerial := h.serials row'.tag text htext
      omega
  have hripe : ∀ {c c' : OutboxRow}, Ripe start notes s.toShared c → c.id = c'.id →
      ∀ row, shared.tables.outbox.get? c'.id = some row → row.nextAttemptAt ≤ shared.now.datetime := by
    intro c c' hc hid row' hrow'
    rw [← hid] at hrow'
    rw [hnow]
    rcases htimes c.id row' hrow' with ⟨row, hrow, -, htime⟩ | ⟨-, -, htime⟩
    · rw [← htime]
      exact hc.row row hrow
    · rw [htime]
      exact List.le_refl _
  have hold : ∀ {c}, Ripe start notes s.toShared c → Ripe start notes shared c := by
    intro c hc
    refine ⟨?_, hripe hc rfl⟩
    rw [hnow]
    exact hc.stored
  have hmem := List.mem_of_getElem? htask
  refine ⟨?_, fun tag text htext => lt_of_lt_of_le (h.serials tag text htext) hserials, hrows, ?_⟩
  · intro id row' hrow'
    rcases htimes id row' hrow' with ⟨row, hrow, hserial, -⟩ | ⟨hserial, hlt, -⟩
    · rw [← hserial]
      exact lt_of_lt_of_le (h.rowSerials id row hrow) hserials
    · rw [hserial]
      exact hlt
  · intro other hother c hc
    cases List.mem_or_eq_of_mem_set hother with
    | inl hthere => exact hold (h.copies other hthere c hc)
    | inr heq =>
      subst heq
      rcases unsent_of_moves hmove hc with hcopy | ⟨hrow, htime⟩
      · exact hold (h.copies task hmem c hcopy)
      · -- the copy is a row as it is now, and that is due
        have hdue : ∀ row, shared.tables.outbox.get? c.id = some row →
            row.nextAttemptAt ≤ shared.now.datetime := by
          rcases htime with hdue | ⟨old, hcopy, hid⟩
          · intro row hrow'
            rw [hrow] at hrow'
            rw [← Option.some.inj hrow', hnow]
            exact hdue
          · exact hripe (h.copies task hmem old hcopy) hid
        refine ⟨fun text htext => ?_, hdue⟩
        rw [← hrows c.id c hrow text htext]
        exact hdue c hrow

/-- A step that records a retry. -/
theorem retry_step (h : Due start notes s) (hcond : RetriesAlone env s (.advance i reply))
    (htask : s.tasks[i]? = some task) (hmove : Moves env s.toShared reply task shared task')
    (hlater : ∀ c ∈ task'.unsent, c ∈ task.later) {item : OutboxRow} (hitem : item ∈ task.retries env)
    {new : List ((Int × Int) × Str)} (hretried : Retried s.toShared shared item new) :
    Due start (notes ++ new) ⟨shared, s.tasks.set i task'⟩ := by
  have hnow := now_of_moves hmove
  have hmem := List.mem_of_getElem? htask
  have htag : ∀ note ∈ new, note.1.1 = item.id ∧ note.1.2 < s.nextSerial := by
    intro note hnote
    rw [hretried.stored] at hnote
    obtain ⟨row', hrow', rfl⟩ := Option.map_eq_some_iff.mp (Option.mem_toList.mp hnote)
    obtain ⟨row, hrow, hserial⟩ := hretried.row row' hrow'
    have hlt := h.rowSerials _ row hrow
    refine ⟨(Table.mem_of_find? hrow').2, ?_⟩
    show row'.serial < s.nextSerial
    omega
  have hsame : ∀ tag : Int × Int, tag.1 ≠ item.id →
      storedLast start (notes ++ new) tag = storedLast start notes tag := by
    intro tag hne
    refine storedLast_same fun note hnote heq => hne ?_
    rw [← heq]
    exact (htag note hnote).1
  refine ⟨?_, ?_, ?_, ?_⟩
  · intro id row' hrow'
    show row'.serial < shared.nextSerial
    rw [hretried.nextSerial]
    by_cases hid : id = item.id
    · obtain ⟨row, hrow, hserial⟩ := hretried.row row' (hid ▸ hrow')
      rw [← hserial]
      exact h.rowSerials _ row hrow
    · rw [hretried.other id hid] at hrow'
      exact h.rowSerials id row' hrow'
  · intro tag text htext
    show tag.2 < shared.nextSerial
    rw [hretried.nextSerial]
    by_cases hnote : ∀ note ∈ new, note.1 ≠ tag
    · rw [storedLast_same hnote] at htext
      exact h.serials tag text htext
    · push Not at hnote
      obtain ⟨note, hnote, rfl⟩ := hnote
      exact (htag note hnote).2
  · intro id row' hrow' text htext
    by_cases hid : id = item.id
    · have hnew : new = [(row'.tag, row'.nextAttemptAt)] := by
        rw [hretried.stored, ← hid, hrow']
        rfl
      rw [hnew, storedLast_new] at htext
      exact Option.some.inj htext
    · rw [hretried.other id hid] at hrow'
      have hne : row'.tag.1 ≠ item.id := by
        rw [← (Table.mem_of_find? hrow').2] at hid
        exact hid
      rw [hsame _ hne] at htext
      exact h.rows id row' hrow' text htext
  · intro other hother c hc
    -- no copy that waits is of the item
    have hother' : (∃ old ∈ s.tasks, c ∈ old.unsent) ∧ c.id ≠ item.id := by
      have halone := hcond task htask item hitem c
      obtain ⟨j, hj⟩ := List.mem_iff_getElem?.mp hother
      rcases getElem?_set_cases hj with ⟨-, rfl⟩ | ⟨hne, hold⟩
      · refine ⟨⟨task, hmem, ?_⟩, halone (List.mem_append_left _ (hlater c hc))⟩
        cases task with
        | attempt a rest => exact List.mem_append_right _ (hlater c hc)
        | dispatch | pass | done => exact absurd (hlater c hc) List.not_mem_nil
      · refine ⟨⟨other, List.mem_of_getElem? hold, hc⟩, halone (List.mem_append_right _ ?_)⟩
        exact List.mem_flatMap.mpr ⟨other, List.mem_eraseIdx_iff_getElem?.mpr ⟨j, hne, hold⟩, hc⟩
    obtain ⟨⟨old, hold, hcopy⟩, hne⟩ := hother'
    have hripe := h.copies old hold c hcopy
    refine ⟨fun text htext => ?_, fun row hrow => ?_⟩
    · rw [hsame c.tag hne] at htext
      show text ≤ shared.now.datetime
      rw [hnow]
      exact hripe.stored text htext
    · change shared.tables.outbox.get? c.id = some row at hrow
      rw [hretried.other c.id hne] at hrow
      show row.nextAttemptAt ≤ shared.now.datetime
      rw [hnow]
      exact hripe.row row hrow

end Step

theorem step {env : NotifyEnv} {start s t : System} {e : Event} {notes : List ((Int × Int) × Str)}
    (h : Due start notes s) (hcond : RetriesAlone env s e) (hstep : s.step env e = some t) :
    Due start (notes ++ s.stores e t) t := by
  rcases step_cases hstep with
    ⟨i, reply, task, shared, task', rfl, htask, hmove, rfl⟩ | ⟨hacting, hquiet⟩
  · have hstores : s.stores (.advance i reply) ⟨shared, s.tasks.set i task'⟩ =
        task.stores s.tables shared.tables := by
      simp only [System.stores, System.acting, htask]
    rw [hstores]
    rcases times_of_moves hmove with ⟨hnone, htimes, hserials⟩ | ⟨hlater, item, hitem, hretried⟩
    · rw [hnone, List.append_nil]
      exact h.keep_step htask hmove htimes hserials
    · exact h.retry_step hcond htask hmove hlater hitem hretried
  · have hnone : s.stores e t = [] := by
      simp only [System.stores, hacting]
    rw [hnone, List.append_nil]
    have hlater := datetime_mono hquiet.now
    refine ⟨?_, ?_, ?_, ?_⟩
    · rw [hquiet.outbox, hquiet.nextSerial]
      exact h.rowSerials
    · rw [hquiet.nextSerial]
      exact h.serials
    · rw [hquiet.outbox]
      exact h.rows
    · intro task htask c hc
      have hold : task ∈ s.tasks := by
        rcases hquiet.task_cases htask with hthere | ⟨n, rfl⟩ | rfl
        · exact hthere
        · contradiction
        · contradiction
      have hripe := h.copies task hold c hc
      refine ⟨fun text htext => List.le_trans (hripe.stored text htext) hlater, fun row hrow => ?_⟩
      change t.tables.outbox.get? c.id = some row at hrow
      rw [hquiet.outbox] at hrow
      exact List.le_trans (hripe.row row hrow) hlater

end Due

/-- When every retry is recorded while no other copy of its row waits to be sent, no send
starts before the time that was stored last for its notification. -/
theorem sends_wait_for_stored_time {env : NotifyEnv} {s t : System} {tr : List Event} (hstart : s.Start)
    (hrun : Runs.exec (System.step env) s tr = some t)
    (hcond : Runs.Along (System.step env) (RetriesAlone env) s tr) {e : Event} {task : Task}
    {item : OutboxRow} {text : Str} (htask : task ∈ t.acting e) (hsend : item ∈ task.startsSend)
    (hstored : storedLast s (s.stored env tr) item.tag = some text) : text ≤ t.now.datetime := by
  have h : Due s (s.stored env tr) t :=
    Runs.exec_observed hrun hcond hstart.due fun _ _ _ _ h hc hs => h.step hc hs
  have hmem : task ∈ t.tasks := by
    cases e with
    | advance i reply => exact List.mem_of_getElem? htask
    | dispatch | processDue | tick | configure => contradiction
  refine (h.copies task hmem item ?_).stored text hstored
  cases task with
  | attempt a rest =>
    change item ∈ (match a.phase with | .current m _ _ => _ | _ => none) at hsend
    split at hsend
    next m copied lk hphase =>
      split at hsend
      · obtain rfl := Option.some.inj hsend
        refine List.mem_append_left _ ?_
        rw [hphase]
        exact List.mem_singleton_self _
      · contradiction
    · contradiction
  | dispatch | pass | done => contradiction

/-- The first attempt fails. -/
def failedSend : List Event := .advance 0 {} :: steps 0 3

/-- A minute after the first attempt a pass is about to send the alert. -/
def retryAfterMinute : List Event :=
  .dispatch firstAlert :: steps 0 10 ++ failedSend ++ .tick (alertClock 60) :: .processDue :: steps 1 7

theorem retry_after_minute_waits : ∃ t,
    Runs.exec (System.step alertEnv) (alertSystem messageTemplate) retryAfterMinute = some t ∧
      storedLast (alertSystem messageTemplate)
          ((alertSystem messageTemplate).stored alertEnv retryAfterMinute) (1, 1) =
        some (lit "2026-07-01 12:00:30") ∧
      lit "2026-07-01 12:00:30" ≤ t.now.datetime := by
  have hsends : ((Runs.exec (System.step alertEnv) (alertSystem messageTemplate) retryAfterMinute).bind
      fun t => (t.acting (.advance 1 {})).bind fun task => task.startsSend.map OutboxRow.tag) =
      some (1, 1) := by
    decide +kernel
  obtain ⟨t, ht, hacting⟩ := Option.bind_eq_some_iff.mp hsends
  obtain ⟨task, htask, hitem⟩ := Option.bind_eq_some_iff.mp hacting
  obtain ⟨item, hsend, htag⟩ := Option.map_eq_some_iff.mp hitem
  have hstored : storedLast (alertSystem messageTemplate)
      ((alertSystem messageTemplate).stored alertEnv retryAfterMinute) (1, 1) =
      some (lit "2026-07-01 12:00:30") := by
    decide +kernel
  exact ⟨t, ht, hstored, sends_wait_for_stored_time (alertSystem_start messageTemplate) ht
    (by decide +kernel) htask hsend (by rw [htag]; exact hstored)⟩

/-- A pass lists the row and comes to it; then the attempt of `Dispatch` fails and stores a
time half a minute later, and the pass reads the row again. -/
def overtakenPass : List Event :=
  .dispatch firstAlert :: steps 0 6 ++ .processDue :: steps 1 4 ++ steps 0 4 ++ failedSend ++ steps 1 3

/-- The pass sends at once. -/
theorem overtaken_pass_sends_early :
    ((Runs.exec (System.step alertEnv) (alertSystem messageTemplate) overtakenPass).map fun t =>
        (((t.acting (.advance 1 {})).bind Task.startsSend).map OutboxRow.tag, t.now.datetime)) =
      some (some (1, 1), lit "2026-07-01 12:00:00") ∧
      storedLast (alertSystem messageTemplate)
          ((alertSystem messageTemplate).stored alertEnv overtakenPass) (1, 1) =
        some (lit "2026-07-01 12:00:30") := by
  decide +kernel

end Lune.Notify
