import Lune.Notify.Steps

/-!
# Copies of rows

A task that has a copy of a row goes on with the number of it.  The number stays that
of the row as long as no insertion gets it after the row was deleted: `FreshIDs` is that
condition, and under it a row that is found under the number of a copy is the one that
was copied.
-/

namespace Lune.Notify

open GoText Keyed KeyedLocks Store

/-- The task is about to insert. -/
def Task.inserts : Task → Bool
  | .dispatch (.insert ..) => true
  | _ => false

/-- The number that an insertion gets is not that of a copy that a task still has. -/
def FreshIDs (s : System) (e : Event) : Prop :=
  ∀ task ∈ s.acting e, task.inserts = true →
    ∀ other ∈ s.tasks, ∀ c ∈ other.copies, c.id ≠ nextRowid s.tables.outbox.table

instance (s : System) (e : Event) : Decidable (FreshIDs s e) :=
  inferInstanceAs (Decidable (∀ task ∈ s.acting e, task.inserts = true → _))

/-- The copy that the message of an attempt was made from. -/
def Phase.copied : Phase → Option (Int × Int)
  | .waiting _ copied _ | .locked _ copied _ | .current _ copied _ | .sending _ copied _ _
  | .answered _ copied _ _ => some copied
  | _ => none

/-! ## What a step does to rows and copies -/

section Moves

variable {env : NotifyEnv} {s s' : Shared} {reply : SendReply} {task task' : Task}

theorem now_of_moves (h : Moves env s reply task s' task') : s'.now = s.now := by
  cases h <;> rfl

/-- The rows after a failed or a successful attempt were there before. -/
theorem row_of_fail {item : NotificationOutbox} {f : Failure} {id : Int} {row' : OutboxRow}
    (h : (s.commit (s.tables.fail s.now item f)).tables.outbox.get? id = some row') :
    ∃ row, s.tables.outbox.get? id = some row ∧ row.serial = row'.serial := by
  rcases commit_cases s (s.tables.fail s.now item f) with ⟨t, ht, heq⟩ | heq
  · rw [heq] at h
    obtain ⟨message, hrow⟩ := (fails_of_fail ht).row
    change t.outbox.get? id = some row' at h
    rw [hrow] at h
    split at h
    · obtain ⟨row, hget, rfl⟩ := Option.map_eq_some_iff.mp h
      exact ⟨row, hget, rfl⟩
    · exact ⟨row', h, rfl⟩
  · rw [heq] at h
    exact ⟨row', h, rfl⟩

theorem row_of_succeed {item : NotificationOutbox} {m : Prepared} {result : Result} {id : Int}
    {row' : OutboxRow}
    (h : (s.commit (s.tables.succeed s.now item m result)).tables.outbox.get? id = some row') :
    s.tables.outbox.get? id = some row' := by
  rcases commit_cases s (s.tables.succeed s.now item m result) with ⟨t, ht, heq⟩ | heq
  · rw [heq] at h
    change t.outbox.get? id = some row' at h
    rw [(succeeds_of_succeed ht).row, Outbox.get?_delete] at h
    split at h
    · contradiction
    · exact h
  · rwa [heq] at h

/-- What an accepted insertion adds. -/
theorem insert_eq_some {t t' : NotifyTables} {now : Clock} {item : NotificationOutbox} {serial : Int}
    {row : OutboxRow} (h : t.insertNotificationOutbox now item serial = some (t', row)) :
    row.id = nextRowid t.outbox.table ∧ row.serial = serial ∧ row.dedupKey = item.dedupKey ∧
      row.nextAttemptAt = (if isBlank item.nextAttemptAt then now.datetime else item.nextAttemptAt) ∧
      row.attempt = item.attempt ∧ row.status = item.status ∧ t'.deliveries = t.deliveries ∧
      t.outbox.get? row.id = none ∧
      ∀ id, t'.outbox.get? id = if id = row.id then some row else t.outbox.get? id := by
  obtain ⟨⟨o, row'⟩, hinsert, heq⟩ := Option.map_eq_some_iff.mp h
  obtain ⟨rfl, rfl⟩ := Prod.mk.inj heq
  obtain ⟨hrow, hfree, hget⟩ := Outbox.insert_eq_some hinsert
  refine ⟨?_, ?_, ?_, ?_, ?_, ?_, rfl, hfree, hget⟩ <;> rw [hrow]

/-- A row after a step was there before, or is the one inserted. -/
theorem rows_of_moves (h : Moves env s reply task s' task') :
    s.nextSerial ≤ s'.nextSerial ∧ ∀ id row', s'.tables.outbox.get? id = some row' →
      (∃ row, s.tables.outbox.get? id = some row ∧ row.serial = row'.serial) ∨
        task.inserts = true ∧ id = nextRowid s.tables.outbox.table ∧ row'.serial = s.nextSerial ∧
          s.nextSerial < s'.nextSerial := by
  have hsame : ∀ id row', s.tables.outbox.get? id = some row' →
      (∃ row, s.tables.outbox.get? id = some row ∧ row.serial = row'.serial) ∨
        task.inserts = true ∧ id = nextRowid s.tables.outbox.table ∧ row'.serial = s.nextSerial ∧
          s.nextSerial < s'.nextSerial :=
    fun id row' hrow => Or.inl ⟨row', hrow, rfl⟩
  cases h with
  | inserted hinsert =>
    obtain ⟨hid, hserial, -, -, -, -, -, -, hget⟩ := insert_eq_some hinsert
    have hlt : s.nextSerial < s.nextSerial + 1 := by omega
    refine ⟨hlt.le, fun id row' hrow => ?_⟩
    rw [hget] at hrow
    split at hrow
    next heq =>
      obtain rfl := Option.some.inj hrow
      exact Or.inr ⟨rfl, heq.trans hid, hserial, hlt⟩
    · exact hsame id row' hrow
  | @discarded p item rest =>
    refine ⟨le_refl _, fun id row' hrow => ?_⟩
    change (s.tables.outbox.delete item.id).get? id = some row' at hrow
    rw [Outbox.get?_delete] at hrow
    split at hrow
    · contradiction
    · exact hsame id row' hrow
  | failedEarly | noURL | failed =>
    refine ⟨?_, fun id row' hrow => Or.inl (row_of_fail hrow)⟩
    exact le_refl _
  | succeeded =>
    refine ⟨?_, fun id row' hrow => hsame id row' (row_of_succeed hrow)⟩
    exact le_refl _
  | stopped | asked | notRecent | notPending | ended | listed | went | began | acquired | locked
  | reread | gone | sent | answered | unlocked | released => exact ⟨le_refl _, hsame⟩

/-- A copy after a step was there before, or was read in this step. -/
theorem copies_of_moves (h : Moves env s reply task s' task') :
    ∀ c ∈ task'.copies, c ∈ task.copies ∨ s'.tables.outbox.get? c.id = some c := by
  intro c hc
  cases h with
  | stopped | asked | notRecent | notPending | ended => exact absurd hc List.not_mem_nil
  | inserted hinsert =>
    obtain ⟨-, -, -, -, -, -, -, -, hget⟩ := insert_eq_some hinsert
    obtain rfl := List.mem_singleton.mp hc
    exact Or.inr ((hget _).trans (if_pos rfl))
  | listed =>
    refine Or.inr (Table.find?_of_mem ?_)
    have hdue := (List.perm_insertionSort _ _).mem_iff.mp (List.mem_of_mem_take hc)
    exact List.mem_of_mem_filter hdue
  | went hitems =>
    change c ∈ PassStep.items _ at hc
    rw [hitems] at hc
    exact Or.inl hc
  | @discarded p item rest hitems =>
    left
    show c ∈ p.items
    rw [hitems]
    exact List.mem_cons_of_mem _ hc
  | @began p item rest hitems =>
    left
    show c ∈ p.items
    rw [hitems]
    exact hc
  | failedEarly | released =>
    rw [Task.copies_resume] at hc
    exact Or.inl (List.mem_append_right _ hc)
  | @reread a rest m copied lk item hphase hitem =>
    cases List.mem_append.mp hc with
    | inl hitem' =>
      obtain rfl := List.mem_singleton.mp hitem'
      rw [(Table.mem_of_find? hitem).2]
      exact Or.inr hitem
    | inr hrest => exact Or.inl (List.mem_append_right _ hrest)
  | acquired hphase | locked hphase | gone hphase | noURL hphase | sent hphase | answered hphase
  | succeeded hphase | failed hphase | unlocked hphase =>
    left
    show c ∈ (if Phase.keepsItem _ then _ else _) ++ _
    rw [hphase]
    cases List.mem_append.mp hc with
    | inl hitem => first | exact List.mem_append_left _ hitem | contradiction
    | inr hrest => exact List.mem_append_right _ hrest

end Moves

/-! ## The invariant -/

/-- The rows, the copies and the messages belong to each other. -/
structure System.Sound (s : System) : Prop where
  locked : s.Locked
  rows : ∀ id row, s.tables.outbox.get? id = some row → row.serial < s.nextSerial
  copies : ∀ task ∈ s.tasks, ∀ c ∈ task.copies, c.serial < s.nextSerial ∧
    ∀ row, s.tables.outbox.get? c.id = some row → row.serial = c.serial
  prepared : ∀ a rest, Task.attempt a rest ∈ s.tasks → ∀ copied, a.phase.copied = some copied →
    copied = a.item.tag

theorem System.Start.sound {s : System} (h : s.Start) : s.Sound where
  locked := h.locked
  rows := by
    intro id row hrow
    obtain ⟨heq, hlt⟩ := h.serial row (Table.mem_of_find? hrow).1
    omega
  copies := by
    rw [h.tasks]
    exact fun _ htask => absurd htask List.not_mem_nil
  prepared := by
    rw [h.tasks]
    exact fun _ _ htask => absurd htask List.not_mem_nil

/-- The message of an attempt is of its item after a step too. -/
theorem prepared_of_moves {env : NotifyEnv} {s s' : Shared} {reply : SendReply} {task : Task}
    {a' : Attempt} {rest' : Option Pass} (h : Moves env s reply task s' (.attempt a' rest'))
    (hold : ∀ a rest, task = .attempt a rest → ∀ copied, a.phase.copied = some copied →
      copied = a.item.tag)
    (hcopies : ∀ c ∈ task.copies, ∀ row, s.tables.outbox.get? c.id = some row → row.serial = c.serial)
    {copied : Int × Int} (hcopied : a'.phase.copied = some copied) : copied = a'.item.tag := by
  generalize htask' : Task.attempt a' rest' = task' at h
  cases h with
  | inserted | began =>
    obtain ⟨rfl, rfl⟩ := Task.attempt.inj htask'
    contradiction
  | acquired =>
    obtain ⟨rfl, rfl⟩ := Task.attempt.inj htask'
    exact (Option.some.inj hcopied).symm
  | @reread a rest m copied' lk item hphase hitem =>
    obtain ⟨rfl, rfl⟩ := Task.attempt.inj htask'
    obtain rfl := Option.some.inj hcopied
    have htag := hold a rest' rfl copied' (by rw [hphase]; rfl)
    have hmem := Task.item_mem_copies rest' (show a.phase.keepsItem = true by rw [hphase]; rfl)
    have hserial := hcopies a.item hmem item hitem
    rw [htag]
    show (a.item.id, a.item.serial) = (item.id, item.serial)
    rw [hserial, (Table.mem_of_find? hitem).2]
  | @locked a rest m copied' lk locks hphase | @sent a rest m copied' lk runtime hphase
  | @answered a rest m copied' lk runtime hphase =>
    obtain ⟨rfl, rfl⟩ := Task.attempt.inj htask'
    exact hold a rest' rfl copied (by rw [hphase]; exact hcopied)
  | gone | noURL | succeeded | failed | unlocked =>
    obtain ⟨rfl, rfl⟩ := Task.attempt.inj htask'
    contradiction
  | @failedEarly a rest | @released a rest =>
    cases rest <;> contradiction
  | stopped | asked | notRecent | notPending | ended | listed | went | discarded => contradiction

theorem System.Sound.step {env : NotifyEnv} {s t : System} {e : Event} (h : s.Sound)
    (hfresh : FreshIDs s e) (hstep : s.step env e = some t) : t.Sound := by
  have hlocked := h.locked.step hstep
  rcases step_cases hstep with
    ⟨i, reply, task, shared, task', rfl, htask, hmove, rfl⟩ | ⟨-, hquiet⟩
  · have hmem := List.mem_of_getElem? htask
    obtain ⟨hserials, hrows⟩ := rows_of_moves hmove
    refine ⟨hlocked, ?_, ?_, ?_⟩
    · intro id row hrow
      rcases hrows id row hrow with ⟨row', hold, heq⟩ | ⟨-, -, heq, hlt⟩
      · have := h.rows id row' hold
        show row.serial < shared.nextSerial
        omega
      · show row.serial < shared.nextSerial
        omega
    · have hold : ∀ other ∈ s.tasks, ∀ c ∈ other.copies, c.serial < shared.nextSerial ∧
          ∀ row, shared.tables.outbox.get? c.id = some row → row.serial = c.serial := by
        intro other hother c hc
        obtain ⟨hlt, hsame⟩ := h.copies other hother c hc
        refine ⟨lt_of_lt_of_le hlt hserials, fun row hrow => ?_⟩
        rcases hrows c.id row hrow with ⟨row', hrow', heq⟩ | ⟨hinserts, hid, -, -⟩
        · rw [← heq]
          exact hsame row' hrow'
        · exact absurd hid (hfresh task htask hinserts other hother c hc)
      intro other hother c hc
      cases List.mem_or_eq_of_mem_set hother with
      | inl hthere => exact hold other hthere c hc
      | inr heq =>
        subst heq
        cases copies_of_moves hmove c hc with
        | inl hcopy => exact hold task hmem c hcopy
        | inr hrow =>
          refine ⟨?_, fun row hrow' => ?_⟩
          · rcases hrows c.id c hrow with ⟨row', hrow', heq⟩ | ⟨-, -, heq, hlt⟩
            · have := h.rows c.id row' hrow'
              show c.serial < shared.nextSerial
              omega
            · show c.serial < shared.nextSerial
              omega
          · change shared.tables.outbox.get? c.id = some row at hrow'
            rw [hrow] at hrow'
            rw [Option.some.inj hrow']
    · intro a rest hattempt copied hcopied
      cases List.mem_or_eq_of_mem_set hattempt with
      | inl hthere => exact h.prepared a rest hthere copied hcopied
      | inr heq =>
        subst heq
        refine prepared_of_moves hmove ?_ ?_ hcopied
        · rintro a' rest' rfl
          exact h.prepared a' rest' hmem
        · exact fun c hc => (h.copies task hmem c hc).2
  · have htasks : ∀ other ∈ t.tasks, other ∈ s.tasks ∨ other.copies = [] := by
      intro other hother
      rcases hquiet.task_cases hother with hthere | ⟨n, rfl⟩ | rfl
      · exact Or.inl hthere
      · exact Or.inr rfl
      · exact Or.inr rfl
    refine ⟨hlocked, ?_, ?_, ?_⟩
    · rw [hquiet.outbox, hquiet.nextSerial]
      exact h.rows
    · rw [hquiet.outbox, hquiet.nextSerial]
      intro other hother c hc
      cases htasks other hother with
      | inl hthere => exact h.copies other hthere c hc
      | inr hnew =>
        rw [hnew] at hc
        contradiction
    · exact fun a rest hattempt => h.prepared a rest (hquiet.attempts a rest hattempt)

end Lune.Notify
