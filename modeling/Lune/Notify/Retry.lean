import Lune.Notify.Delivery

/-!
# The retries of one notification

An attempt that has the lock of its row counts from the row as it has read it again.  One
that fails before it takes the lock counts from its copy, and writes the count and the
status whatever they are now.  As long as such a failure finds the row as it was copied,
with no other attempt between its second reading and its record, the count of a row is
that of the failures recorded for it, at most four deliveries are recorded, and a row
that was dropped stays so and is not sent.
-/

namespace Lune.Notify

open GoText Keyed KeyedLocks Store

/-! ## Recorded deliveries -/

/-- The deliveries recorded for a notification. -/
def recorded (marks : List Mark) (tag : Int × Int) : List DeliveryStatus :=
  marks.filterMap fun m =>
    match m with
    | .recorded t status => if t = tag then some status else none
    | _ => none

theorem recorded_append (marks marks' : List Mark) (tag : Int × Int) :
    recorded (marks ++ marks') tag = recorded marks tag ++ recorded marks' tag :=
  List.filterMap_append ..

section Marks

variable {reply : SendReply} {before after : NotifyTables} {tag : Int × Int}

theorem recorded_attempt (a : Attempt) (rest : Option Pass) :
    recorded ((Task.attempt a rest).marks reply before after) tag =
      if a.item.tag = tag then (newDeliveries before after).map NotificationDelivery.status else [] := by
  have hsent : recorded (a.sentMarks reply) tag = [] := by
    refine List.filterMap_eq_nil_iff.mpr fun mark hmark => ?_
    obtain ⟨_, rfl⟩ := Attempt.eq_sent_of_mem_sentMarks hmark
    rfl
  have hdelivered : ∀ tags : List (Int × Int), recorded (tags.map .delivered) tag = [] := by
    intro tags
    simp [recorded]
  rw [Task.marks, recorded_append, recorded_append, hsent, hdelivered]
  unfold recorded
  rw [List.filterMap_map]
  split
  next heq => simp [heq]
  next hne => simp [hne]

theorem recorded_other {task : Task} (h : ∀ a rest, task ≠ .attempt a rest) :
    recorded (task.marks reply before after) tag = [] := by
  cases task with
  | attempt a rest => exact absurd rfl (h a rest)
  | dispatch | pass => simp [recorded, Task.marks]
  | done => rfl

end Marks

/-! ## Failures before the lock -/

/-- The attempt has read its row again, and not recorded anything. -/
def Phase.critical : Phase → Bool
  | .current .. | .sending .. | .answered .. => true
  | _ => false

theorem Phase.holdsLock_of_critical {phase : Phase} (h : phase.critical = true) :
    phase.holdsLock = true := by
  cases phase <;> first | rfl | contradiction

/-- The task is an attempt on the row, between its second reading and its record. -/
def Task.criticalOn (id : Int) : Task → Bool
  | .attempt a _ => a.phase.critical && a.item.id == id
  | _ => false

/-- The copy of an attempt that is about to fail before it takes its lock. -/
def Task.earlyFailure (env : NotifyEnv) : Task → Option OutboxRow
  | .attempt a _ =>
    match a.phase, prepare env a.item.toNotificationOutbox a.sub with
    | .begin, .error _ => some a.item
    | _, _ => none
  | _ => none

/-- A failure before the lock finds the row as it was copied, and no other attempt at it;
an insertion does not get the number of a copy. -/
def FailuresInOrder (env : NotifyEnv) (s : System) (e : Event) : Prop :=
  FreshIDs s e ∧ ∀ task ∈ s.acting e, ∀ c ∈ task.earlyFailure env,
    ((s.tables.outbox.get? c.id).any fun row =>
      row.isActive && row.serial == c.serial && row.attempt == c.attempt) = true ∧
      ∀ other ∈ s.tasks, other.criticalOn c.id = false

instance (env : NotifyEnv) (s : System) (e : Event) : Decidable (FailuresInOrder env s e) :=
  inferInstanceAs (Decidable (FreshIDs s e ∧ _))

/-! ## The invariant -/

/-- The count that a notification had at the start. -/
def System.startAttempt (start : System) (tag : Int × Int) : Int :=
  match start.tables.outbox.get? tag.1 with
  | some row => if row.serial = tag.2 then row.attempt else 0
  | none => 0

/-- The notification was dropped, at the start or since. -/
def Dropped (start : System) (marks : List Mark) (tag : Int × Int) : Prop :=
  (∃ row ∈ start.tables.outbox.rows, row.tag = tag ∧ row.status = .dropped) ∨
    .dropped ∈ recorded marks tag

/-- The count of a row or of a copy is that of its failures. -/
structure Counted (start : System) (marks : List Mark) (row : OutboxRow) : Prop where
  attempt : row.attempt = start.startAttempt row.tag + (recorded marks row.tag).length
  noSuccess : .success ∉ recorded marks row.tag

/-- There is room for one more delivery. -/
structure Open (start : System) (marks : List Mark) (tag : Int × Int) : Prop where
  room : (recorded marks tag).length ≤ 3
  notDropped : ¬ Dropped start marks tag

structure InOrder (start : System) (marks : List Mark) (s : System) : Prop where
  sound : s.Sound
  serials : ∀ tag, tag ∈ start.tables.outbox.tags ∨ recorded marks tag ≠ [] → tag.2 < s.nextSerial
  rows : ∀ id row, s.tables.outbox.get? id = some row → Counted start marks row ∧
    (row.isActive = true → Open start marks row.tag)
  critical : ∀ (a : Attempt) (rest : Option Pass), Task.attempt a rest ∈ s.tasks →
    a.phase.critical = true → Counted start marks a.item ∧ Open start marks a.item.tag
  total : ∀ tag, (recorded marks tag).length ≤ 4

section Marks

variable {start : System} {marks new : List Mark} {row : OutboxRow} {tag : Int × Int}

theorem Counted.append (h : Counted start marks row) (hnew : recorded new row.tag = []) :
    Counted start (marks ++ new) row := by
  have hsame : recorded (marks ++ new) row.tag = recorded marks row.tag := by
    rw [recorded_append, hnew, List.append_nil]
  exact ⟨by rw [hsame]; exact h.attempt, by rw [hsame]; exact h.noSuccess⟩

theorem Open.append (h : Open start marks tag) (hnew : recorded new tag = []) :
    Open start (marks ++ new) tag := by
  have hsame : recorded (marks ++ new) tag = recorded marks tag := by
    rw [recorded_append, hnew, List.append_nil]
  refine ⟨by rw [hsame]; exact h.room, ?_⟩
  unfold Dropped
  rw [hsame]
  exact h.notDropped

/-- One more failure. -/
theorem Counted.fail (h : Counted start marks row) {status : DeliveryStatus}
    (hnew : recorded new row.tag = [status]) (hstatus : status ≠ .success) {row' : OutboxRow}
    (htag : row'.tag = row.tag) (hattempt : row'.attempt = row.attempt + 1) :
    Counted start (marks ++ new) row' := by
  have hlist : recorded (marks ++ new) row.tag = recorded marks row.tag ++ [status] := by
    rw [recorded_append, hnew]
  have hcount := h.attempt
  refine ⟨?_, ?_⟩
  · rw [htag, hlist, hattempt, List.length_append, List.length_singleton]
    push_cast
    omega
  · rw [htag, hlist, List.mem_append, not_or]
    exact ⟨h.noSuccess, fun hin => hstatus (List.mem_singleton.mp hin).symm⟩

/-- After a failure that is not the last one there is room still. -/
theorem Open.fail (h : Open start marks row.tag) (hcounted : Counted start marks row)
    (hstart : 0 ≤ start.startAttempt row.tag) (hnew : recorded new row.tag = [.failed])
    (hmore : row.attempt + 1 < fixedMaxAttempts) : Open start (marks ++ new) row.tag := by
  have hlist : recorded (marks ++ new) row.tag = recorded marks row.tag ++ [.failed] := by
    rw [recorded_append, hnew]
  have hcount := hcounted.attempt
  unfold fixedMaxAttempts at hmore
  refine ⟨?_, ?_⟩
  · rw [hlist, List.length_append, List.length_singleton]
    omega
  · unfold Dropped
    rw [hlist]
    rintro (hstarted | hmark)
    · exact h.notDropped (Or.inl hstarted)
    · cases List.mem_append.mp hmark with
      | inl hold => exact h.notDropped (Or.inr hold)
      | inr hfailed => simp at hfailed

end Marks

theorem System.Start.inOrder {s : System} (h : s.Start) : InOrder s [] s where
  sound := h.sound
  serials := by
    rintro tag (htag | hrecorded)
    · obtain ⟨row, hrow, hserial⟩ := Outbox.mem_tags.mp htag
      obtain ⟨heq, hlt⟩ := h.serial row (Table.mem_of_find? hrow).1
      omega
    · exact absurd rfl hrecorded
  rows := by
    intro id row hrow
    obtain ⟨hmem, hid⟩ := Table.mem_of_find? hrow
    have hget : s.tables.outbox.get? row.id = some row := Table.find?_of_mem hmem
    refine ⟨⟨?_, List.not_mem_nil⟩, fun hactive => ⟨Nat.zero_le _, ?_⟩⟩
    · show row.attempt = s.startAttempt (row.id, row.serial) + 0
      simp [System.startAttempt, hget]
    · rintro (⟨row', hrow', htag, hdropped⟩ | hmark)
      · have hget' : s.tables.outbox.get? row'.id = some row' := Table.find?_of_mem hrow'
        have hid' : row'.id = row.id := congrArg Prod.fst htag
        rw [hid', hget] at hget'
        obtain rfl := Option.some.inj hget'
        simp [NotificationOutbox.isActive, hdropped] at hactive
      · exact absurd hmark List.not_mem_nil
  critical := by
    rw [h.tasks]
    simp
  total := by simp [recorded]

/-! ## Steps -/

namespace InOrder

section Record

variable {start s : System} {marks new : List Mark} {a : Attempt} {f : Failure} {t : NotifyTables}

/-- One more delivery is recorded for a notification that has room for it. -/
theorem total_record (h : InOrder start marks s) {status : DeliveryStatus}
    (hopen : Open start marks a.item.tag) (hnew : recorded new a.item.tag = [status])
    (hother : ∀ tag, tag ≠ a.item.tag → recorded new tag = []) (tag : Int × Int) :
    (recorded (marks ++ new) tag).length ≤ 4 := by
  rw [recorded_append, List.length_append]
  by_cases heq : tag = a.item.tag
  · have hroom := hopen.room
    rw [heq, hnew, List.length_singleton]
    omega
  · rw [hother tag heq, List.length_nil, Nat.add_zero]
    exact h.total tag

/-- The rows after a recorded failure. -/
theorem rows_fail (h : InOrder start marks s) (hstart : ∀ tag, 0 ≤ start.startAttempt tag)
    (hfail : s.tables.fail s.now a.item.toNotificationOutbox f = some t)
    (hcounted : Counted start marks a.item) (hopen : Open start marks a.item.tag)
    (hsame : ∀ row, s.tables.outbox.get? a.item.id = some row → row.serial = a.item.serial)
    (hnew : recorded new a.item.tag =
      [if a.item.attempt + 1 ≥ fixedMaxAttempts then .dropped else .failed])
    (hother : ∀ tag, tag ≠ a.item.tag → recorded new tag = []) {id : Int} {row' : OutboxRow}
    (hrow' : t.outbox.get? id = some row') :
    Counted start (marks ++ new) row' ∧
      (row'.isActive = true → Open start (marks ++ new) row'.tag) := by
  obtain ⟨message, hrow⟩ := (fails_of_fail hfail).row
  rw [hrow] at hrow'
  split at hrow'
  next heq =>
    obtain ⟨row, hget, rfl⟩ := Option.map_eq_some_iff.mp hrow'
    have hid : row.id = a.item.id := by
      rw [← heq]
      exact (Table.mem_of_find? hget).2
    rw [heq] at hget
    have hserial := hsame row hget
    by_cases hmax : a.item.attempt + 1 ≥ fixedMaxAttempts
    · rw [if_pos hmax] at hnew
      simp only [NotificationOutbox.failed, if_pos hmax]
      refine ⟨hcounted.fail hnew (by decide) (Prod.ext hid hserial) rfl, fun hactive => ?_⟩
      contradiction
    · rw [if_neg hmax] at hnew
      simp only [NotificationOutbox.failed, if_neg hmax]
      refine ⟨hcounted.fail hnew (by decide) (Prod.ext hid hserial) rfl, fun _ => ?_⟩
      have hopen' := hopen.fail hcounted (hstart _) hnew (by omega)
      have htag : a.item.tag = (row.id, row.serial) := Prod.ext hid.symm hserial.symm
      rw [htag] at hopen'
      exact hopen'
  next hne =>
    obtain ⟨hold, hactive⟩ := h.rows id row' hrow'
    have hid := (Table.mem_of_find? hrow').2
    have htag : recorded new row'.tag = [] := hother _ fun heq => hne (hid.symm.trans (congrArg Prod.fst heq))
    exact ⟨hold.append htag, fun hact => (hactive hact).append htag⟩

end Record

section Step

variable {env : NotifyEnv} {start s : System} {marks : List Mark} {shared : Shared}
variable {reply : SendReply} {task task' : Task} {i : Nat}

/-- A step that records nothing and changes no row but by deleting it. -/
theorem quiet (h : InOrder start marks s) {t : System} (hsound : t.Sound)
    (hserials : s.nextSerial ≤ t.nextSerial) {new : List Mark} (hnew : ∀ tag, recorded new tag = [])
    (hrows : ∀ id row, t.tables.outbox.get? id = some row → s.tables.outbox.get? id = some row)
    (hcritical : ∀ a rest, Task.attempt a rest ∈ t.tasks → a.phase.critical = true →
      (∃ b rest', Task.attempt b rest' ∈ s.tasks ∧ b.phase.critical = true ∧ b.item = a.item) ∨
        s.tables.outbox.get? a.item.id = some a.item ∧ a.item.isActive = true) :
    InOrder start (marks ++ new) t where
  sound := hsound
  serials := by
    intro tag htag
    rw [recorded_append, hnew, List.append_nil] at htag
    exact lt_of_lt_of_le (h.serials tag htag) hserials
  rows := by
    intro id row hrow
    obtain ⟨hcounted, hopen⟩ := h.rows id row (hrows id row hrow)
    exact ⟨hcounted.append (hnew _), fun hactive => (hopen hactive).append (hnew _)⟩
  critical := by
    intro a rest ha hcrit
    rcases hcritical a rest ha hcrit with ⟨b, rest', hb, hcritb, heq⟩ | ⟨hrow, hactive⟩
    · obtain ⟨hcounted, hopen⟩ := h.critical b rest' hb hcritb
      rw [heq] at hcounted hopen
      exact ⟨hcounted.append (hnew _), hopen.append (hnew _)⟩
    · obtain ⟨hcounted, hopen⟩ := h.rows _ _ hrow
      exact ⟨hcounted.append (hnew _), (hopen hactive).append (hnew _)⟩
  total := by
    intro tag
    rw [recorded_append, hnew, List.append_nil]
    exact h.total tag

/-- A step that records a delivery for a notification that has room for it. -/
theorem record (h : InOrder start marks s) {t : System} (hsound : t.Sound)
    (hserials : s.nextSerial = t.nextSerial) {new : List Mark} {a : Attempt} {status : DeliveryStatus}
    (hserial : a.item.serial < s.nextSerial) (hopen : Open start marks a.item.tag)
    (hnew : recorded new a.item.tag = [status])
    (hother : ∀ tag, tag ≠ a.item.tag → recorded new tag = [])
    (hrows : ∀ id row, t.tables.outbox.get? id = some row → Counted start (marks ++ new) row ∧
      (row.isActive = true → Open start (marks ++ new) row.tag))
    (hcritical : ∀ b rest, Task.attempt b rest ∈ t.tasks → b.phase.critical = true →
      Task.attempt b rest ∈ s.tasks ∧ b.item.tag ≠ a.item.tag) :
    InOrder start (marks ++ new) t where
  sound := hsound
  serials := by
    intro tag htag
    rw [← hserials]
    by_cases heq : tag = a.item.tag
    · rw [heq]
      exact hserial
    · rw [recorded_append, hother tag heq, List.append_nil] at htag
      exact h.serials tag htag
  rows := hrows
  critical := by
    intro b rest hb hcrit
    obtain ⟨hold, hne⟩ := hcritical b rest hb hcrit
    obtain ⟨hcounted, hopen'⟩ := h.critical b rest hold hcrit
    exact ⟨hcounted.append (hother _ hne), hopen'.append (hother _ hne)⟩
  total := h.total_record hopen hnew hother

/-- The other attempts at rows, when the task that makes the step is not one after it. -/
theorem critical_set (htask' : ∀ a rest, task' = .attempt a rest → a.phase.critical = false)
    {b : Attempt} {rest : Option Pass} (hb : Task.attempt b rest ∈ s.tasks.set i task')
    (hcrit : b.phase.critical = true) : ∃ j, j ≠ i ∧ s.tasks[j]? = some (.attempt b rest) := by
  obtain ⟨j, hj⟩ := List.mem_iff_getElem?.mp hb
  rcases getElem?_set_cases hj with ⟨-, heq⟩ | ⟨hne, hold⟩
  · rw [htask' b rest heq.symm] at hcrit
    contradiction
  · exact ⟨j, hne, hold⟩

/-- The attempts at a row after the step of one that is alone at its row are at other rows. -/
theorem critical_others (htask' : ∀ a rest, task' = .attempt a rest → a.phase.critical = false)
    {a : Attempt} (halone : ∀ j b rest', j ≠ i → s.tasks[j]? = some (.attempt b rest') →
      b.phase.critical = true → b.item.id ≠ a.item.id) (b : Attempt) (rest : Option Pass)
    (hb : Task.attempt b rest ∈ s.tasks.set i task') (hcrit : b.phase.critical = true) :
    Task.attempt b rest ∈ s.tasks ∧ b.item.tag ≠ a.item.tag := by
  obtain ⟨j, hne, hj⟩ := critical_set htask' hb hcrit
  refine ⟨List.mem_of_getElem? hj, fun heq => ?_⟩
  exact halone j b rest hne hj hcrit (congrArg Prod.fst heq)

/-- An attempt fails, and may have failed to record it. -/
theorem fail_step (h : InOrder start marks s) (hstart : ∀ tag, 0 ≤ start.startAttempt tag)
    {a : Attempt} {rest : Option Pass} {f : Failure} (htask : s.tasks[i]? = some (.attempt a rest))
    (hsound : System.Sound
      ⟨s.commit (s.tables.fail s.now a.item.toNotificationOutbox f), s.tasks.set i task'⟩)
    (hkeeps : a.phase.keepsItem = true) (hcounted : Counted start marks a.item)
    (hopen : Open start marks a.item.tag)
    (htask' : ∀ a rest, task' = .attempt a rest → a.phase.critical = false)
    (halone : ∀ j b rest', j ≠ i → s.tasks[j]? = some (.attempt b rest') → b.phase.critical = true →
      b.item.id ≠ a.item.id) :
    InOrder start (marks ++ (Task.attempt a rest).marks reply s.tables
        (s.commit (s.tables.fail s.now a.item.toNotificationOutbox f)).tables)
      ⟨s.commit (s.tables.fail s.now a.item.toNotificationOutbox f), s.tasks.set i task'⟩ := by
  have hmem := List.mem_of_getElem? htask
  have hcopy := Task.item_mem_copies rest hkeeps
  obtain ⟨hserial, hsame⟩ := h.sound.copies _ hmem a.item hcopy
  have hcrit := critical_others htask' halone
  rcases commit_cases s.toShared (s.tables.fail s.now a.item.toNotificationOutbox f) with
    ⟨t, ht, heq⟩ | heq
  · obtain ⟨d, hdeliveries, -, -, hstatus⟩ := (fails_of_fail ht).delivery
    have hnew := fun tag => @recorded_attempt reply s.tables t tag a rest
    rw [newDeliveries_append hdeliveries] at hnew
    have hmine : recorded ((Task.attempt a rest).marks reply s.tables t) a.item.tag =
        [if a.item.attempt + 1 ≥ fixedMaxAttempts then .dropped else .failed] := by
      rw [hnew, if_pos rfl, ← hstatus]
      rfl
    have hother : ∀ tag, tag ≠ a.item.tag →
        recorded ((Task.attempt a rest).marks reply s.tables t) tag = [] := by
      intro tag hne
      rw [hnew, if_neg (Ne.symm hne)]
    rw [heq] at hsound ⊢
    exact h.record hsound rfl hserial hopen hmine hother
      (fun _ _ => h.rows_fail hstart ht hcounted hopen hsame hmine hother) hcrit
  · rw [heq] at hsound ⊢
    refine h.quiet hsound (le_refl _) (fun tag => ?_) (fun _ _ hrow => hrow) ?_
    · rw [recorded_attempt, newDeliveries_same rfl]
      split <;> rfl
    · intro b rest' hb hc
      exact Or.inl ⟨b, rest', (hcrit b rest' hb hc).1, hc, rfl⟩

/-- An attempt records a success. -/
theorem succeed_step (h : InOrder start marks s) {a : Attempt} {rest : Option Pass} {m : Prepared}
    {result : Result} (htask : s.tasks[i]? = some (.attempt a rest))
    (hsound : System.Sound
      ⟨s.commit (s.tables.succeed s.now a.item.toNotificationOutbox m result), s.tasks.set i task'⟩)
    (hkeeps : a.phase.keepsItem = true) (hopen : Open start marks a.item.tag)
    (htask' : ∀ a rest, task' = .attempt a rest → a.phase.critical = false)
    (halone : ∀ j b rest', j ≠ i → s.tasks[j]? = some (.attempt b rest') → b.phase.critical = true →
      b.item.id ≠ a.item.id) :
    InOrder start (marks ++ (Task.attempt a rest).marks reply s.tables
        (s.commit (s.tables.succeed s.now a.item.toNotificationOutbox m result)).tables)
      ⟨s.commit (s.tables.succeed s.now a.item.toNotificationOutbox m result), s.tasks.set i task'⟩ := by
  have hmem := List.mem_of_getElem? htask
  have hcopy := Task.item_mem_copies rest hkeeps
  have hcrit := critical_others htask' halone
  rcases commit_cases s.toShared (s.tables.succeed s.now a.item.toNotificationOutbox m result) with
    ⟨t, ht, heq⟩ | heq
  · obtain ⟨d, hdeliveries, -, -, hstatus⟩ := (succeeds_of_succeed ht).delivery
    have hnew := fun tag => @recorded_attempt reply s.tables t tag a rest
    rw [newDeliveries_append hdeliveries] at hnew
    have hmine : recorded ((Task.attempt a rest).marks reply s.tables t) a.item.tag = [.success] := by
      rw [hnew, if_pos rfl, ← hstatus]
      rfl
    have hother : ∀ tag, tag ≠ a.item.tag →
        recorded ((Task.attempt a rest).marks reply s.tables t) tag = [] := by
      intro tag hne
      rw [hnew, if_neg (Ne.symm hne)]
    rw [heq] at hsound ⊢
    refine h.record hsound rfl (h.sound.copies _ hmem a.item hcopy).1 hopen hmine hother ?_ hcrit
    intro id row hrow
    change t.outbox.get? id = some row at hrow
    rw [(succeeds_of_succeed ht).row, Outbox.get?_delete] at hrow
    split at hrow
    · contradiction
    next hne =>
      obtain ⟨hcounted, hactive⟩ := h.rows id row hrow
      have hid := (Table.mem_of_find? hrow).2
      have htag := hother row.tag fun heq => hne (hid.symm.trans (congrArg Prod.fst heq))
      exact ⟨hcounted.append htag, fun hact => (hactive hact).append htag⟩
  · rw [heq] at hsound ⊢
    refine h.quiet hsound (le_refl _) (fun tag => ?_) (fun _ _ hrow => hrow) ?_
    · rw [recorded_attempt, newDeliveries_same rfl]
      split <;> rfl
    · intro b rest' hb hc
      exact Or.inl ⟨b, rest', (hcrit b rest' hb hc).1, hc, rfl⟩

/-- A notification that is inserted has no deliveries yet. -/
theorem insert_step (h : InOrder start marks s) {r : Request} {tables : NotifyTables}
    {row : OutboxRow} {t : System}
    (hinsert : s.tables.insertNotificationOutbox s.now (r.item s.now) s.nextSerial =
      some (tables, row)) (hsound : t.Sound) (htables : t.tables = tables)
    (hserial : t.nextSerial = s.nextSerial + 1) {new : List Mark} (hnew : ∀ tag, recorded new tag = [])
    (hcritical : ∀ a rest, Task.attempt a rest ∈ t.tasks → a.phase.critical = true →
      Task.attempt a rest ∈ s.tasks) : InOrder start (marks ++ new) t := by
  obtain ⟨hid, hrowSerial, -, -, hattempt, -, -, -, hget⟩ := insert_eq_some hinsert
  have hsame : ∀ tag, recorded (marks ++ new) tag = recorded marks tag := by
    intro tag
    rw [recorded_append, hnew, List.append_nil]
  have hfresh : ¬ (row.tag ∈ start.tables.outbox.tags ∨ recorded marks row.tag ≠ []) := by
    intro hold
    have hlt := h.serials row.tag hold
    change row.serial < s.nextSerial at hlt
    omega
  rw [not_or, not_not] at hfresh
  refine ⟨hsound, ?_, ?_, ?_, ?_⟩
  · intro tag htag
    rw [hsame] at htag
    have hlt := h.serials tag htag
    omega
  · intro id row' hrow'
    rw [htables, hget] at hrow'
    split at hrow'
    · obtain rfl := Option.some.inj hrow'
      have hzero : start.startAttempt row.tag = 0 := by
        unfold System.startAttempt
        split
        next old hold =>
          rw [if_neg]
          exact fun heq => hfresh.1 (Outbox.mem_tags.mpr ⟨old, hold, heq⟩)
        · rfl
      refine ⟨⟨?_, ?_⟩, fun _ => ⟨?_, ?_⟩⟩
      · rw [hsame, hfresh.2, hzero, hattempt]
        rfl
      · rw [hsame, hfresh.2]
        exact List.not_mem_nil
      · rw [hsame, hfresh.2]
        exact Nat.zero_le _
      · rintro (⟨old, hold, htag, -⟩ | hmark)
        · exact hfresh.1 (htag ▸ List.mem_map_of_mem hold)
        · rw [hsame, hfresh.2] at hmark
          contradiction
    · obtain ⟨hcounted, hopen⟩ := h.rows id row' hrow'
      exact ⟨hcounted.append (hnew _), fun hactive => (hopen hactive).append (hnew _)⟩
  · intro a rest ha hcrit
    obtain ⟨hcounted, hopen⟩ := h.critical a rest (hcritical a rest ha hcrit) hcrit
    exact ⟨hcounted.append (hnew _), hopen.append (hnew _)⟩
  · intro tag
    rw [hsame]
    exact h.total tag

/-- A step of a task. -/
theorem step_task (h : InOrder start marks s) (hstart : ∀ tag, 0 ≤ start.startAttempt tag)
    (hcond : FailuresInOrder env s (.advance i reply)) (htask : s.tasks[i]? = some task)
    (hmove : Moves env s.toShared reply task shared task')
    (hsound : System.Sound ⟨shared, s.tasks.set i task'⟩) :
    InOrder start (marks ++ task.marks reply s.tables shared.tables) ⟨shared, s.tasks.set i task'⟩ := by
  have hmem := List.mem_of_getElem? htask
  have hserials := (rows_of_moves hmove).1
  have hold : (∀ a rest, task' = .attempt a rest → a.phase.critical = false) →
      ∀ a rest, Task.attempt a rest ∈ s.tasks.set i task' → a.phase.critical = true →
        Task.attempt a rest ∈ s.tasks := by
    intro htask' a rest ha hcrit
    obtain ⟨j, -, hj⟩ := critical_set htask' ha hcrit
    exact List.mem_of_getElem? hj
  -- the attempts that have the lock are alone at their rows
  have halone : ∀ {a rest}, task = .attempt a rest → a.phase.holdsLock = true →
      ∀ j b rest', j ≠ i → s.tasks[j]? = some (.attempt b rest') → b.phase.critical = true →
        b.item.id ≠ a.item.id := by
    rintro a rest rfl hlock j b rest' hne hj hcrit heq
    exact hne (h.sound.locked.exclusive hj htask (Phase.holdsLock_of_critical hcrit) hlock heq)
  have hcrit : ∀ {a rest}, task = .attempt a rest → a.phase.critical = true →
      Counted start marks a.item ∧ Open start marks a.item.tag := by
    rintro a rest rfl hcrit
    exact h.critical a rest hmem hcrit
  -- a step that records nothing and leaves no attempt at its row that was not there
  have hquiet : (∀ tag, recorded (task.marks reply s.tables shared.tables) tag = []) →
      (∀ a rest, task' = .attempt a rest → a.phase.critical = false) →
      (∀ id row, shared.tables.outbox.get? id = some row → s.tables.outbox.get? id = some row) →
      InOrder start (marks ++ task.marks reply s.tables shared.tables)
        ⟨shared, s.tasks.set i task'⟩ := by
    intro hnew htask' hrows
    refine h.quiet hsound hserials hnew hrows fun a rest ha hc => Or.inl ?_
    exact ⟨a, rest, hold htask' a rest ha hc, hc, rfl⟩
  have hsame : ∀ {a rest}, task = .attempt a rest → shared.tables.deliveries = s.tables.deliveries →
      ∀ tag, recorded (task.marks reply s.tables shared.tables) tag = [] := by
    rintro a rest rfl heq tag
    rw [recorded_attempt, newDeliveries_same heq]
    split <;> rfl
  have hnone : (∀ a rest, task ≠ .attempt a rest) →
      ∀ tag, recorded (task.marks reply s.tables shared.tables) tag = [] :=
    fun hne _ => recorded_other hne
  have hresume : ∀ rest : Option Pass, ∀ a rest', resume rest = .attempt a rest' →
      a.phase.critical = false := by
    intro rest a rest' heq
    cases rest with
    | none => exact Task.noConfusion heq
    | some p => exact Task.noConfusion heq
  cases hmove with
  | stopped | asked | notRecent | notPending | ended | listed | went =>
    exact hquiet (hnone fun _ _ heq => Task.noConfusion heq) (fun _ _ heq => Task.noConfusion heq)
      fun _ _ hrow => hrow
  | inserted hinsert =>
    refine h.insert_step hinsert hsound rfl rfl (hnone fun _ _ heq => Task.noConfusion heq) (hold ?_)
    rintro a rest heq
    obtain ⟨rfl, -⟩ := Task.attempt.inj heq
    rfl
  | @discarded p item rest =>
    refine hquiet (hnone fun _ _ heq => Task.noConfusion heq) (fun _ _ heq => Task.noConfusion heq) fun id row hrow => ?_
    change (s.tables.outbox.delete item.id).get? id = some row at hrow
    rw [Outbox.get?_delete] at hrow
    split at hrow
    · contradiction
    · exact hrow
  | began =>
    refine hquiet (hnone fun _ _ heq => Task.noConfusion heq) ?_ fun _ _ hrow => hrow
    rintro a rest heq
    obtain ⟨rfl, -⟩ := Task.attempt.inj heq
    rfl
  | @failedEarly a rest f hphase hprepare =>
    have hearly : (Task.attempt a rest).earlyFailure env = some a.item := by
      simp only [Task.earlyFailure, hphase, hprepare]
    obtain ⟨hrow, hnobody⟩ := hcond.2 _ htask a.item hearly
    obtain ⟨row, hget, hrow⟩ := (Option.any_eq_true _ _).mp hrow
    simp only [Bool.and_eq_true, beq_iff_eq] at hrow
    obtain ⟨⟨hactive, hserial⟩, hattempt⟩ := hrow
    obtain ⟨hcounted, hopen⟩ := h.rows _ _ hget
    have htag : row.tag = a.item.tag := Prod.ext (Table.mem_of_find? hget).2 hserial
    have hcount := hcounted.attempt
    rw [htag] at hcount
    have hcounted' : Counted start marks a.item :=
      ⟨hattempt.symm.trans hcount, htag ▸ hcounted.noSuccess⟩
    refine h.fail_step hstart htask hsound (by rw [hphase]; rfl) hcounted' (htag ▸ hopen hactive)
      (hresume rest) ?_
    intro j b rest' _ hj hc heq
    have := hnobody _ (List.mem_of_getElem? hj)
    simp [Task.criticalOn, hc, heq] at this
  | acquired hphase | locked hphase | gone hphase | unlocked hphase =>
    refine hquiet (hsame rfl rfl) ?_ fun _ _ hrow => hrow
    rintro a rest heq
    obtain ⟨rfl, -⟩ := Task.attempt.inj heq
    rfl
  | released hphase => exact hquiet (hsame rfl rfl) (hresume _) fun _ _ hrow => hrow
  | @reread a rest m copied lk item hphase hitem hactive =>
    refine h.quiet hsound hserials (hsame rfl rfl) (fun _ _ hrow => hrow) fun b rest' hb hc => ?_
    cases List.mem_or_eq_of_mem_set hb with
    | inl hthere => exact Or.inl ⟨b, rest', hthere, hc, rfl⟩
    | inr heq =>
      obtain ⟨rfl, -⟩ := Task.attempt.inj heq
      refine Or.inr ⟨?_, hactive⟩
      show s.tables.outbox.get? item.id = some item
      rw [(Table.mem_of_find? hitem).2]
      exact hitem
  | @sent a rest m copied lk runtime hphase | @answered a rest m copied lk runtime hphase =>
    refine h.quiet hsound hserials (hsame rfl rfl) (fun _ _ hrow => hrow) fun b rest' hb hc => ?_
    cases List.mem_or_eq_of_mem_set hb with
    | inl hthere => exact Or.inl ⟨b, rest', hthere, hc, rfl⟩
    | inr heq =>
      obtain ⟨rfl, -⟩ := Task.attempt.inj heq
      exact Or.inl ⟨a, rest, hmem, by rw [hphase]; rfl, rfl⟩
  | @noURL a rest m copied lk f message hphase | @failed a rest m copied lk answer f hphase =>
    obtain ⟨hcounted, hopen⟩ := hcrit rfl (by rw [hphase]; rfl)
    refine h.fail_step hstart htask hsound (by rw [hphase]; rfl) hcounted hopen ?_
      (halone rfl (by rw [hphase]; rfl))
    rintro b rest' heq
    obtain ⟨rfl, -⟩ := Task.attempt.inj heq
    rfl
  | @succeeded a rest m copied lk answer hphase =>
    obtain ⟨-, hopen⟩ := hcrit rfl (by rw [hphase]; rfl)
    refine h.succeed_step htask hsound (by rw [hphase]; rfl) hopen ?_
      (halone rfl (by rw [hphase]; rfl))
    rintro b rest' heq
    obtain ⟨rfl, -⟩ := Task.attempt.inj heq
    rfl

end Step

theorem step {env : NotifyEnv} {start s t : System} {e : Event} {marks : List Mark}
    (h : InOrder start marks s) (hstart : ∀ tag, 0 ≤ start.startAttempt tag)
    (hcond : FailuresInOrder env s e) (hstep : s.step env e = some t) :
    InOrder start (marks ++ s.marks e t) t := by
  have hsound := h.sound.step hcond.1 hstep
  rcases step_cases hstep with
    ⟨i, reply, task, shared, task', rfl, htask, hmove, rfl⟩ | ⟨hacting, hquiet⟩
  · have hmarks : s.marks (.advance i reply) ⟨shared, s.tasks.set i task'⟩ =
        task.marks reply s.tables shared.tables := by
      simp only [System.marks, htask]
    rw [hmarks]
    exact h.step_task hstart hcond htask hmove hsound
  · rw [marks_of_quiet hacting]
    refine h.quiet hsound hquiet.nextSerial.ge (fun _ => rfl) ?_ ?_
    · rw [hquiet.outbox]
      exact fun _ _ hrow => hrow
    · exact fun a rest ha hc => Or.inl ⟨a, rest, hquiet.attempts a rest ha, hc, rfl⟩

/-- An active row, and a copy between its second reading and its record, was not dropped. -/
theorem dropped_rows {start s : System} {marks : List Mark} (h : InOrder start marks s) :
    ∀ tag, Dropped start marks tag →
      (∀ row ∈ s.tables.outbox.rows, row.tag = tag → row.status = .dropped) ∧
        ∀ a rest, Task.attempt a rest ∈ s.tasks → a.phase.critical = true → a.item.tag ≠ tag := by
  intro tag hdropped
  constructor
  · intro row hrow htag
    have hget : s.tables.outbox.get? row.id = some row := Table.find?_of_mem hrow
    by_contra hstatus
    have hactive : row.isActive = true := by
      cases heq : row.status with
      | pending => simp [NotificationOutbox.isActive, heq]
      | retrying => simp [NotificationOutbox.isActive, heq]
      | dropped => exact absurd heq hstatus
    have hopen := (h.rows _ _ hget).2 hactive
    rw [htag] at hopen
    exact hopen.notDropped hdropped
  · intro a rest ha hcrit htag
    have hopen := (h.critical a rest ha hcrit).2
    rw [htag] at hopen
    exact hopen.notDropped hdropped

end InOrder

/-- How many failed deliveries are recorded for a notification. -/
def failures (marks : List Mark) (tag : Int × Int) : Nat :=
  ((recorded marks tag).filter fun status => status ≠ .success).length

theorem Counted.attempt_eq {start : System} {marks : List Mark} {row : OutboxRow}
    (h : Counted start marks row) :
    row.attempt = start.startAttempt row.tag + failures marks row.tag := by
  have hfilter : ((recorded marks row.tag).filter fun status => status ≠ .success) =
      recorded marks row.tag := by
    refine List.filter_eq_self.mpr fun status hstatus => ?_
    simp only [decide_eq_true_eq]
    exact fun heq => h.noSuccess (heq ▸ hstatus)
  rw [failures, hfilter]
  exact h.attempt

theorem System.startAttempt_nonneg {s : System} (h : ∀ row ∈ s.tables.outbox.rows, 0 ≤ row.attempt)
    (tag : Int × Int) : 0 ≤ s.startAttempt tag := by
  unfold System.startAttempt
  split
  next row hrow =>
    have hattempt := h row (Table.mem_of_find? hrow).1
    split
    · exact hattempt
    · omega
  · omega

/-- When every failure before the lock is in order, the count of a row is that of its
failures, at most `fixedMaxAttempts` deliveries are recorded for a notification, and one
that was dropped stays so: no attempt reads its row as one to send. -/
theorem attempts_counted {env : NotifyEnv} {s t : System} {tr : List Event} (hstart : s.Start)
    (hattempts : ∀ row ∈ s.tables.outbox.rows, 0 ≤ row.attempt)
    (hrun : Runs.exec (System.step env) s tr = some t)
    (hcond : Runs.Along (System.step env) (FailuresInOrder env) s tr) :
    (∀ row ∈ t.tables.outbox.rows,
        row.attempt = s.startAttempt row.tag + failures (s.history env tr) row.tag) ∧
      (∀ tag, ((recorded (s.history env tr) tag).length : Int) ≤ fixedMaxAttempts) ∧
      ∀ tag, Dropped s (s.history env tr) tag →
        (∀ row ∈ t.tables.outbox.rows, row.tag = tag → row.status = .dropped) ∧
          ∀ a rest, Task.attempt a rest ∈ t.tasks → a.phase.critical = true → a.item.tag ≠ tag := by
  have h : InOrder s (s.history env tr) t :=
    Runs.exec_observed hrun hcond hstart.inOrder fun _ _ _ _ h hc hs =>
      h.step (System.startAttempt_nonneg hattempts) hc hs
  refine ⟨?_, ?_, h.dropped_rows⟩
  · intro row hrow
    exact (h.rows row.id row (Table.find?_of_mem hrow)).1.attempt_eq
  · intro tag
    have htotal := h.total tag
    unfold fixedMaxAttempts
    omega

/-- A template that does not render. -/
def badTemplate : Str := lit "\x7b\x7b .Missing"

/-- A pass that fails to render its row. -/
def passAt (i after : Nat) : List Event :=
  .tick (alertClock after) :: .processDue :: steps i 6

/-- Four failures, until the row is dropped. -/
def fourFailures : List Event :=
  .dispatch firstAlert :: steps 0 7 ++ passAt 1 60 ++ passAt 2 600 ++ passAt 3 3600

theorem four_failures_counted :
    (∀ tag, ((recorded ((alertSystem badTemplate).history alertEnv fourFailures) tag).length : Int) ≤
        fixedMaxAttempts) ∧
      recorded ((alertSystem badTemplate).history alertEnv fourFailures) (1, 1) =
        [.failed, .failed, .failed, .dropped] := by
  have hruns : (Runs.exec (System.step alertEnv) (alertSystem badTemplate) fourFailures).isSome =
      true := by
    decide +kernel
  obtain ⟨t, ht⟩ := Option.isSome_iff_exists.mp hruns
  exact ⟨(attempts_counted (alertSystem_start badTemplate) (fun _ h => absurd h List.not_mem_nil)
    ht (by decide +kernel)).2.1, by decide +kernel⟩

/-- A call of `Dispatch` waits before its attempt while passes fail until the row is
dropped. -/
def lateFailure : List Event :=
  .dispatch firstAlert :: steps 0 6 ++ passAt 1 0 ++ passAt 2 60 ++ passAt 3 600 ++ passAt 4 3600 ++
    steps 0 1

/-- Its failure sets the dropped row back to its first retry. -/
theorem dropped_row_retried :
    (Runs.exec (System.step alertEnv) (alertSystem badTemplate) lateFailure).map
        (fun t => t.tables.outbox.rows.map fun row => (row.tag, row.status, row.attempt)) =
      some [((1, 1), .retrying, 1)] ∧
      recorded ((alertSystem badTemplate).history alertEnv lateFailure) (1, 1) =
        [.failed, .failed, .failed, .dropped, .failed] := by
  decide +kernel

end Lune.Notify
