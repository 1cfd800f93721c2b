import Lune.Notify.Copies

/-!
# What is sent, and what is deleted as delivered

The history of a run: which notifications were enqueued, sent, deleted as delivered and
deleted as no longer subscribed, by the tags of their rows.  When no insertion gets the
number of a copy that a task still has, each is sent at most once and deleted as
delivered only after that.  Without the condition the message of an old copy is sent a
second time, and the row that has its number now is deleted instead.
-/

namespace Lune.Notify

open GoText Keyed KeyedLocks Store

/-! ## The history of a run -/

/-- What has happened to a notification. -/
inductive Mark where
  | enqueued (tag : Int × Int)
  | sent (tag : Int × Int)
  /-- Its row was deleted by the record of a success. -/
  | delivered (tag : Int × Int)
  /-- Its row was deleted because nobody subscribes to the event. -/
  | discarded (tag : Int × Int)
  /-- A delivery was recorded for it. -/
  | recorded (tag : Int × Int) (status : DeliveryStatus)
  deriving DecidableEq

def Outbox.tags (o : Outbox) : List (Int × Int) := o.rows.map OutboxRow.tag

/-- The tags that the second outbox has and the first has not. -/
def newTags (o o' : Outbox) : List (Int × Int) := o'.tags.filter fun tag => tag ∉ o.tags

/-- A send that went well. -/
def Attempt.sentMarks (a : Attempt) (reply : SendReply) : List Mark :=
  match a.phase with
  | .sending _ copied _ _ => if reply.succeeded then [.sent copied] else []
  | _ => []

/-- The deliveries that were recorded in between. -/
def newDeliveries (before after : NotifyTables) : List NotificationDelivery :=
  after.deliveries.drop before.deliveries.length

theorem newDeliveries_append {before after : NotifyTables} {ds : List NotificationDelivery}
    (h : after.deliveries = before.deliveries ++ ds) : newDeliveries before after = ds := by
  rw [newDeliveries, h, List.drop_left]

theorem newDeliveries_same {before after : NotifyTables} (h : after.deliveries = before.deliveries) :
    newDeliveries before after = [] := by
  rw [newDeliveries, h, List.drop_length]

/-- What a step of the task has done. -/
def Task.marks (reply : SendReply) (before after : NotifyTables) : Task → List Mark
  | dispatch _ => (newTags before.outbox after.outbox).map .enqueued
  | pass _ => (newTags after.outbox before.outbox).map .discarded
  | attempt a _ =>
    a.sentMarks reply ++ (newTags after.outbox before.outbox).map .delivered ++
      (newDeliveries before after).map fun d => .recorded a.item.tag d.status
  | done => []

/-- What a step has done. -/
def System.marks (s : System) (e : Event) (t : System) : List Mark :=
  match e with
  | .advance i reply =>
    match s.tasks[i]? with
    | some task => task.marks reply s.tables t.tables
    | none => []
  | _ => []

/-- The history of a run. -/
def System.history (env : NotifyEnv) (s : System) (tr : List Event) : List Mark :=
  Runs.observed System.marks (System.step env) s tr

theorem Outbox.mem_tags {o : Outbox} {tag : Int × Int} :
    tag ∈ o.tags ↔ ∃ row, o.get? tag.1 = some row ∧ row.serial = tag.2 := by
  constructor
  · intro h
    obtain ⟨row, hrow, rfl⟩ := List.mem_map.mp h
    exact ⟨row, Table.find?_of_mem hrow, rfl⟩
  · rintro ⟨row, hrow, hserial⟩
    obtain ⟨hmem, hid⟩ := Table.mem_of_find? hrow
    exact List.mem_map.mpr ⟨row, hmem, Prod.ext hid hserial⟩

theorem mem_newTags {o o' : Outbox} {tag : Int × Int} :
    tag ∈ newTags o o' ↔ tag ∈ o'.tags ∧ tag ∉ o.tags := by
  simp [newTags]

section Marks

variable {reply : SendReply} {before after : NotifyTables} {task : Task} {tag : Int × Int}

theorem Attempt.sent_mem_sentMarks {a : Attempt} :
    Mark.sent tag ∈ a.sentMarks reply ↔
      ∃ m lk runtime, a.phase = .sending m tag lk runtime ∧ reply.succeeded = true := by
  unfold Attempt.sentMarks
  constructor
  · intro h
    split at h
    next m copied lk runtime hphase =>
      split at h
      next hok =>
        obtain rfl := Mark.sent.inj (List.mem_singleton.mp h)
        exact ⟨m, lk, runtime, hphase, hok⟩
      · contradiction
    · contradiction
  · rintro ⟨m, lk, runtime, hphase, hok⟩
    rw [hphase]
    simp [hok]

/-- A send is marked as that and nothing else. -/
theorem Attempt.eq_sent_of_mem_sentMarks {a : Attempt} {mark : Mark} (h : mark ∈ a.sentMarks reply) :
    ∃ tag, mark = .sent tag := by
  unfold Attempt.sentMarks at h
  split at h
  · split at h
    · exact ⟨_, List.mem_singleton.mp h⟩
    · contradiction
  · contradiction

theorem Attempt.not_mem_sentMarks (a : Attempt) {mark : Mark} (h : ∀ tag, mark ≠ .sent tag) :
    mark ∉ a.sentMarks reply := by
  intro hmem
  obtain ⟨tag, htag⟩ := eq_sent_of_mem_sentMarks hmem
  exact h tag htag

theorem sent_mem_marks : Mark.sent tag ∈ task.marks reply before after ↔
    ∃ a rest m lk runtime, task = .attempt a rest ∧ a.phase = .sending m tag lk runtime ∧
      reply.succeeded = true := by
  cases task with
  | attempt a rest => simp [Task.marks, Attempt.sent_mem_sentMarks]
  | dispatch | pass | done => simp [Task.marks]

theorem delivered_mem_marks : Mark.delivered tag ∈ task.marks reply before after ↔
    ∃ a rest, task = .attempt a rest ∧ tag ∈ before.outbox.tags ∧ tag ∉ after.outbox.tags := by
  have hnot : ∀ a : Attempt, Mark.delivered tag ∉ a.sentMarks reply :=
    fun a => a.not_mem_sentMarks fun _ => Mark.noConfusion
  cases task with
  | attempt a rest => simp [Task.marks, mem_newTags, hnot]
  | dispatch | pass | done => simp [Task.marks]

theorem discarded_mem_marks : Mark.discarded tag ∈ task.marks reply before after ↔
    ∃ p, task = .pass p ∧ tag ∈ before.outbox.tags ∧ tag ∉ after.outbox.tags := by
  have hnot : ∀ a : Attempt, Mark.discarded tag ∉ a.sentMarks reply :=
    fun a => a.not_mem_sentMarks fun _ => Mark.noConfusion
  cases task with
  | attempt a rest => simp [Task.marks, hnot]
  | pass => simp [Task.marks, mem_newTags]
  | dispatch | done => simp [Task.marks]

theorem enqueued_mem_marks : Mark.enqueued tag ∈ task.marks reply before after ↔
    ∃ d, task = .dispatch d ∧ tag ∈ after.outbox.tags ∧ tag ∉ before.outbox.tags := by
  have hnot : ∀ a : Attempt, Mark.enqueued tag ∉ a.sentMarks reply :=
    fun a => a.not_mem_sentMarks fun _ => Mark.noConfusion
  cases task with
  | attempt a rest => simp [Task.marks, hnot]
  | dispatch => simp [Task.marks, mem_newTags]
  | pass | done => simp [Task.marks]

theorem count_sent_marks : (task.marks reply before after).count (Mark.sent tag) ≤ 1 := by
  cases task with
  | attempt a rest =>
    have hmap : ∀ {α : Type} (xs : List α) (f : α → Mark), (∀ x, f x ≠ .sent tag) →
        (xs.map f).count (Mark.sent tag) = 0 := by
      intro α xs f hf
      rw [List.count_eq_zero]
      simp [hf]
    simp only [Task.marks, List.count_append]
    rw [hmap _ _ (by simp), hmap _ _ (by simp)]
    unfold Attempt.sentMarks
    split
    · split
      · exact List.count_le_length
      · simp
    · simp
  | dispatch | pass | done => simp [Task.marks, List.count_eq_zero.mpr]

end Marks

/-! ## Rows that come and go -/

section Moves

variable {env : NotifyEnv} {s s' : Shared} {reply : SendReply} {task task' : Task} {tag : Int × Int}

/-- A tag that is new is the one of the insertion. -/
theorem tag_of_moves (h : Moves env s reply task s' task') (hafter : tag ∈ s'.tables.outbox.tags)
    (hbefore : tag ∉ s.tables.outbox.tags) : task.inserts = true ∧ tag.2 = s.nextSerial := by
  obtain ⟨row', hrow', hserial⟩ := Outbox.mem_tags.mp hafter
  rcases (rows_of_moves h).2 tag.1 row' hrow' with ⟨row, hrow, heq⟩ | ⟨hinserts, -, heq, -⟩
  · exact absurd (Outbox.mem_tags.mpr ⟨row, hrow, heq.trans hserial⟩) hbefore
  · exact ⟨hinserts, hserial.symm.trans heq⟩

/-- A failure keeps the tags. -/
theorem tag_of_fail {item : NotificationOutbox} {f : Failure} (h : tag ∈ s.tables.outbox.tags) :
    tag ∈ (s.commit (s.tables.fail s.now item f)).tables.outbox.tags := by
  rcases commit_cases s (s.tables.fail s.now item f) with ⟨t, ht, heq⟩ | heq
  · rw [heq]
    obtain ⟨row, hrow, hserial⟩ := Outbox.mem_tags.mp h
    obtain ⟨message, hget⟩ := (fails_of_fail ht).row
    refine Outbox.mem_tags.mpr ?_
    show ∃ row, t.outbox.get? tag.1 = some row ∧ row.serial = tag.2
    rw [hget, hrow]
    split
    · exact ⟨_, rfl, hserial⟩
    · exact ⟨row, rfl, hserial⟩
  · rwa [heq]

/-- A tag goes with a recorded success, or with a row that a pass deletes. -/
theorem removed_of_moves (h : Moves env s reply task s' task') (hbefore : tag ∈ s.tables.outbox.tags)
    (hafter : tag ∉ s'.tables.outbox.tags) :
    (∃ p, task = .pass p) ∨ ∃ a rest m copied lk answer, task = .attempt a rest ∧
      a.phase = .answered m copied lk answer ∧ answer.succeeded = true ∧ tag.1 = a.item.id := by
  cases h with
  | inserted hinsert =>
    obtain ⟨-, -, -, -, -, -, -, hfree, hget⟩ := insert_eq_some hinsert
    obtain ⟨row, hrow, hserial⟩ := Outbox.mem_tags.mp hbefore
    refine absurd (Outbox.mem_tags.mpr ⟨row, ?_, hserial⟩) hafter
    rw [hget, if_neg]
    · exact hrow
    · intro heq
      rw [heq, hfree] at hrow
      contradiction
  | discarded => exact Or.inl ⟨_, rfl⟩
  | failedEarly | noURL | failed => exact absurd (tag_of_fail hbefore) hafter
  | @succeeded a rest m copied lk answer hphase hok =>
    refine Or.inr ⟨a, rest, m, copied, lk, answer, rfl, hphase, hok, ?_⟩
    rcases commit_cases s (s.tables.succeed s.now a.item.toNotificationOutbox m answer.result) with
      ⟨t, ht, heq⟩ | heq
    · by_contra hne
      obtain ⟨row, hrow, hserial⟩ := Outbox.mem_tags.mp hbefore
      refine hafter (Outbox.mem_tags.mpr ⟨row, ?_, hserial⟩)
      rw [heq]
      show t.outbox.get? tag.1 = some row
      rw [(succeeds_of_succeed ht).row, Outbox.get?_delete, if_neg hne]
      exact hrow
    · rw [heq] at hafter
      exact absurd hbefore hafter
  | stopped | asked | notRecent | notPending | ended | listed | went | began | acquired | locked
  | reread | gone | sent | answered | unlocked | released => exact absurd hbefore hafter

/-- What an attempt has sent with success, and not recorded. -/
def Phase.sentCopy : Phase → Option (Int × Int)
  | .answered _ copied _ reply => if reply.succeeded then some copied else none
  | _ => none

/-- What an attempt that has read its row again is about to send. -/
def Phase.toSend : Phase → Option (Int × Int)
  | .current _ copied _ | .sending _ copied _ _ => some copied
  | _ => none

/-- An attempt has something to send when it has read its row again. -/
theorem toSend_of_moves {a' : Attempt} {rest' : Option Pass}
    (h : Moves env s reply task s' (.attempt a' rest')) (hsend : a'.phase.toSend = some tag) :
    (∃ a rest, task = .attempt a rest ∧ a.phase.toSend = some tag ∧
      ∀ m lk runtime, a.phase ≠ .sending m tag lk runtime) ∨
      ∃ a rest m lk, task = .attempt a rest ∧ a.phase = .locked m tag lk ∧
        s.tables.outbox.get? a.item.id = some a'.item := by
  generalize htask' : Task.attempt a' rest' = task' at h
  cases h with
  | @reread a rest m copied lk item hphase hitem =>
    obtain ⟨rfl, rfl⟩ := Task.attempt.inj htask'
    obtain rfl := Option.some.inj hsend
    exact Or.inr ⟨a, _, m, lk, rfl, hphase, hitem⟩
  | @sent a rest m copied lk runtime hphase =>
    obtain ⟨rfl, rfl⟩ := Task.attempt.inj htask'
    obtain rfl := Option.some.inj hsend
    refine Or.inl ⟨a, _, rfl, by rw [hphase]; rfl, fun m lk runtime heq => ?_⟩
    rw [hphase] at heq
    contradiction
  | inserted | began | acquired | locked | gone | noURL | answered | succeeded | failed | unlocked =>
    obtain ⟨rfl, rfl⟩ := Task.attempt.inj htask'
    contradiction
  | @failedEarly a rest | @released a rest => cases rest <;> contradiction
  | stopped | asked | notRecent | notPending | ended | listed | went | discarded => contradiction

/-- An attempt has sent something when its driver has answered. -/
theorem sentCopy_of_moves {a' : Attempt} {rest' : Option Pass}
    (h : Moves env s reply task s' (.attempt a' rest')) (hsent : a'.phase.sentCopy = some tag) :
    ∃ a rest m lk runtime, task = .attempt a rest ∧ a.phase = .sending m tag lk runtime ∧
      reply.succeeded = true := by
  generalize htask' : Task.attempt a' rest' = task' at h
  cases h with
  | @answered a rest m copied lk runtime hphase =>
    obtain ⟨rfl, rfl⟩ := Task.attempt.inj htask'
    simp only [Phase.sentCopy] at hsent
    split at hsent
    next hok =>
      obtain rfl := Option.some.inj hsent
      exact ⟨a, _, m, lk, runtime, rfl, hphase, hok⟩
    · contradiction
  | inserted | began | acquired | locked | reread | gone | noURL | sent | succeeded | failed
  | unlocked =>
    obtain ⟨rfl, rfl⟩ := Task.attempt.inj htask'
    contradiction
  | @failedEarly a rest | @released a rest => cases rest <;> contradiction
  | stopped | asked | notRecent | notPending | ended | listed | went | discarded => contradiction

/-- After its driver has answered, an attempt records the success. -/
theorem recorded_of_moves {a : Attempt} {rest : Option Pass}
    (h : Moves env s reply (.attempt a rest) s' task') (hsent : a.phase.sentCopy = some tag) :
    s'.tables.outbox.get? a.item.id = none := by
  have hphase : ∃ m lk answer, a.phase = .answered m tag lk answer ∧ answer.succeeded = true := by
    cases hphase : a.phase <;> rw [hphase] at hsent <;> try contradiction
    next m copied lk answer =>
      simp only [Phase.sentCopy] at hsent
      split at hsent
      next hok =>
        obtain rfl := Option.some.inj hsent
        exact ⟨m, lk, answer, rfl, hok⟩
      · contradiction
  obtain ⟨m, lk, answer, hphase, hok⟩ := hphase
  cases h with
  | @succeeded a rest m' copied lk' answer' hphase' =>
    rw [hphase] at hphase'
    obtain ⟨rfl, -, -, rfl⟩ := Phase.answered.inj hphase'
    cases hthere : (s.tables.outbox.get? a.item.id).isSome with
    | true =>
      obtain ⟨t, ht⟩ : ∃ t, s.tables.succeed s.now a.item.toNotificationOutbox m answer.result =
          some t := ⟨_, if_pos hthere⟩
      rw [ht]
      show t.outbox.get? a.item.id = none
      rw [(succeeds_of_succeed ht).row, Outbox.get?_delete, if_pos rfl]
    | false =>
      have hnone : s.tables.succeed s.now a.item.toNotificationOutbox m answer.result = none :=
        if_neg (by rw [hthere]; decide)
      rw [hnone]
      show s.tables.outbox.get? a.item.id = none
      exact Option.not_isSome_iff_eq_none.mp (by rw [hthere]; decide)
  | failed hphase' hfailed =>
    rw [hphase] at hphase'
    obtain ⟨-, -, -, rfl⟩ := Phase.answered.inj hphase'
    rw [hok] at hfailed
    contradiction
  | failedEarly hphase' | acquired hphase' | locked hphase' | reread hphase' | gone hphase'
  | noURL hphase' | sent hphase' | answered hphase' | unlocked hphase' | released hphase' =>
    rw [hphase] at hphase'
    contradiction

end Moves

/-- A step of no task leaves nothing in the history. -/
theorem marks_of_quiet {s t : System} {e : Event} (h : s.acting e = none) : s.marks e t = [] := by
  cases e with
  | advance i reply =>
    change s.tasks[i]? = none at h
    simp only [System.marks, h]
  | dispatch | processDue | tick | configure => rfl

theorem Phase.copied_of_toSend {phase : Phase} {tag : Int × Int} (h : phase.toSend = some tag) :
    phase.copied = some tag ∧ phase.holdsLock = true := by
  cases phase <;> first | exact ⟨h, rfl⟩ | contradiction

theorem Phase.copied_of_sentCopy {phase : Phase} {tag : Int × Int} (h : phase.sentCopy = some tag) :
    phase.copied = some tag ∧ phase.holdsLock = true := by
  cases phase <;> try contradiction
  simp only [Phase.sentCopy] at h
  split at h
  · exact ⟨h, rfl⟩
  · contradiction

/-- A task after one of them has changed. -/
theorem getElem?_set_cases {α : Type} {l : List α} {i j : Nat} {a b : α}
    (h : (l.set i a)[j]? = some b) : j = i ∧ b = a ∨ j ≠ i ∧ l[j]? = some b := by
  rw [List.getElem?_set] at h
  split at h
  next heq =>
    split at h
    · exact Or.inl ⟨heq.symm, (Option.some.inj h).symm⟩
    · contradiction
  next hne => exact Or.inr ⟨Ne.symm hne, h⟩

/-! ## Runs -/

/-- The history fits the state: what was sent once is not sent again. -/
structure Delivers (start : System) (marks : List Mark) (s : System) : Prop where
  sound : s.Sound
  sentSerial : ∀ tag, .sent tag ∈ marks → tag.2 < s.nextSerial
  once : ∀ tag, marks.count (.sent tag) ≤ 1
  /-- A row whose message was sent is still there only until the success is recorded. -/
  waits : ∀ tag, .sent tag ∈ marks → tag ∈ s.tables.outbox.tags →
    ∃ (i : Nat) (a : Attempt) (rest : Option Pass), s.tasks[i]? = some (.attempt a rest) ∧
      a.phase.sentCopy = some tag
  toSend : ∀ (a : Attempt) (rest : Option Pass) tag, Task.attempt a rest ∈ s.tasks →
    a.phase.toSend = some tag → .sent tag ∉ marks
  sentCopy : ∀ (a : Attempt) (rest : Option Pass) tag, Task.attempt a rest ∈ s.tasks →
    a.phase.sentCopy = some tag → .sent tag ∈ marks
  delivered : ∀ tag, .delivered tag ∈ marks → .sent tag ∈ marks
  kept : ∀ tag, tag ∈ start.tables.outbox.tags ∨ .enqueued tag ∈ marks →
    tag ∈ s.tables.outbox.tags ∨ .sent tag ∈ marks ∨ .discarded tag ∈ marks

theorem System.Start.delivers {s : System} (h : s.Start) : Delivers s [] s where
  sound := h.sound
  sentSerial := by simp
  once := by simp
  waits := by simp
  toSend := by simp
  sentCopy := by
    rw [h.tasks]
    simp
  delivered := by simp
  kept := by
    intro tag htag
    exact Or.inl (htag.resolve_right List.not_mem_nil)

section Sound

variable {s : System} {a : Attempt} {rest : Option Pass} {tag : Int × Int}

/-- The copy of an attempt that has its message belongs to the row with its number. -/
theorem System.Sound.copy (h : s.Sound) (ha : Task.attempt a rest ∈ s.tasks)
    (hcopied : a.phase.copied = some tag) :
    tag = a.item.tag ∧ tag.2 < s.nextSerial ∧
      ∀ row, s.tables.outbox.get? a.item.id = some row → row.serial = tag.2 := by
  have hkeeps : a.phase.keepsItem = true := by
    cases hphase : a.phase <;> rw [hphase] at hcopied <;> first | rfl | contradiction
  have hcopy := Task.item_mem_copies rest hkeeps
  obtain ⟨hlt, hsame⟩ := h.copies _ ha a.item hcopy
  have htag := h.prepared a rest ha tag hcopied
  refine ⟨htag, ?_, ?_⟩
  · rw [htag]
    exact hlt
  · rw [htag]
    exact hsame

/-- Two attempts that have their locks and were made for one notification are the same. -/
theorem System.Sound.same_attempt (h : s.Sound) {i j : Nat} {b : Attempt} {rest' : Option Pass}
    (hi : s.tasks[i]? = some (.attempt a rest)) (hj : s.tasks[j]? = some (.attempt b rest'))
    (ha : a.phase.copied = some tag) (hb : b.phase.copied = some tag)
    (hlocka : a.phase.holdsLock = true) (hlockb : b.phase.holdsLock = true) : i = j := by
  have htaga := h.prepared a rest (List.mem_of_getElem? hi) tag ha
  have htagb := h.prepared b rest' (List.mem_of_getElem? hj) tag hb
  exact h.locked.exclusive hi hj hlocka hlockb (congrArg Prod.fst (htaga.symm.trans htagb))

end Sound

namespace Delivers

section Step

variable {env : NotifyEnv} {start s : System} {shared : Shared} {reply : SendReply} {task task' : Task}
variable {marks : List Mark} {i : Nat} {tag : Int × Int}

/-- What a step sends, the task was about to send. -/
theorem toSend_of_sent (h : Mark.sent tag ∈ task.marks reply s.tables shared.tables) :
    ∃ a rest, task = .attempt a rest ∧ a.phase.toSend = some tag := by
  obtain ⟨a, rest, m, lk, runtime, htask, hphase, -⟩ := sent_mem_marks.mp h
  refine ⟨a, rest, htask, ?_⟩
  rw [hphase]
  rfl

theorem once_step (h : Delivers start marks s) (htask : task ∈ s.tasks) :
    (marks ++ task.marks reply s.tables shared.tables).count (.sent tag) ≤ 1 := by
  rw [List.count_append]
  by_cases hnew : Mark.sent tag ∈ task.marks reply s.tables shared.tables
  · obtain ⟨a, rest, rfl, hsend⟩ := toSend_of_sent hnew
    rw [List.count_eq_zero.mpr (h.toSend a rest tag htask hsend), Nat.zero_add]
    exact count_sent_marks
  · rw [List.count_eq_zero.mpr hnew, Nat.add_zero]
    exact h.once tag

theorem waits_step (h : Delivers start marks s) (htask : s.tasks[i]? = some task)
    (hmove : Moves env s.toShared reply task shared task')
    (htag : .sent tag ∈ marks ++ task.marks reply s.tables shared.tables)
    (hrow : tag ∈ shared.tables.outbox.tags) :
    ∃ (j : Nat) (a : Attempt) (rest : Option Pass),
      (s.tasks.set i task')[j]? = some (.attempt a rest) ∧ a.phase.sentCopy = some tag := by
  cases List.mem_append.mp htag with
  | inl hold =>
    have hbefore : tag ∈ s.tables.outbox.tags := by
      by_contra hnone
      have hserial := (tag_of_moves hmove hrow hnone).2
      have := h.sentSerial tag hold
      omega
    obtain ⟨j, a, rest, hj, hsent⟩ := h.waits tag hold hbefore
    refine ⟨j, a, rest, ?_, hsent⟩
    rw [List.getElem?_set_ne]
    · exact hj
    · -- the record of the success would have deleted the row
      rintro rfl
      rw [htask] at hj
      obtain rfl := Option.some.inj hj
      obtain ⟨row, hget, -⟩ := Outbox.mem_tags.mp hrow
      have hcopied := (Phase.copied_of_sentCopy hsent).1
      rw [(h.sound.copy (List.mem_of_getElem? htask) hcopied).1] at hget
      have hgone := recorded_of_moves hmove hsent
      change shared.tables.outbox.get? a.item.id = some row at hget
      rw [hgone] at hget
      contradiction
  | inr hnew =>
    obtain ⟨a, rest, m, lk, runtime, rfl, hphase, hok⟩ := sent_mem_marks.mp hnew
    have htask' : task' = .attempt { a with phase := .answered m tag lk reply } rest := by
      cases hmove with
      | answered hphase' =>
        rw [hphase] at hphase'
        obtain ⟨rfl, rfl, rfl, rfl⟩ := Phase.sending.inj hphase'
        rfl
      | failedEarly hphase' | acquired hphase' | locked hphase' | reread hphase' | gone hphase'
      | noURL hphase' | sent hphase' | succeeded hphase' | failed hphase' | unlocked hphase'
      | released hphase' =>
        rw [hphase] at hphase'
        contradiction
    refine ⟨i, { a with phase := .answered m tag lk reply }, rest, ?_, if_pos hok⟩
    rw [List.getElem?_set_self (List.getElem?_eq_some_iff.mp htask).1, htask']

/-- An attempt that has just read its row again finds that it was not sent before. -/
theorem not_sent_of_row (h : Delivers start marks s) {a : Attempt} {rest : Option Pass} {m : Prepared}
    {lk : Nat} {row : OutboxRow} (htask : s.tasks[i]? = some (.attempt a rest))
    (hphase : a.phase = .locked m tag lk) (hrow : s.tables.outbox.get? a.item.id = some row) :
    Mark.sent tag ∉ marks := by
  intro hsent
  have hcopied : a.phase.copied = some tag := by
    rw [hphase]
    rfl
  obtain ⟨htag, -, hsame⟩ := h.sound.copy (List.mem_of_getElem? htask) hcopied
  have hthere : tag ∈ s.tables.outbox.tags := by
    refine Outbox.mem_tags.mpr ⟨row, ?_, hsame row hrow⟩
    rw [htag]
    exact hrow
  obtain ⟨k, b, rest', hk, hsent'⟩ := h.waits tag hsent hthere
  obtain ⟨hcopied', hlock⟩ := Phase.copied_of_sentCopy hsent'
  have hlocked : a.phase.holdsLock = true := by
    rw [hphase]
    rfl
  obtain rfl := h.sound.same_attempt htask hk hcopied hcopied' hlocked hlock
  rw [htask] at hk
  obtain ⟨rfl, -⟩ := Task.attempt.inj (Option.some.inj hk)
  rw [hphase] at hsent'
  contradiction

theorem toSend_step (h : Delivers start marks s) (htask : s.tasks[i]? = some task)
    (hmove : Moves env s.toShared reply task shared task') {a : Attempt} {rest : Option Pass}
    (ha : Task.attempt a rest ∈ s.tasks.set i task') (hsend : a.phase.toSend = some tag) :
    .sent tag ∉ marks ++ task.marks reply s.tables shared.tables := by
  have hmem := List.mem_of_getElem? htask
  rw [List.mem_append, not_or]
  obtain ⟨j, hj⟩ := List.mem_iff_getElem?.mp ha
  rcases getElem?_set_cases hj with ⟨rfl, rfl⟩ | ⟨hne, hj⟩
  · -- the task that has made the step
    rcases toSend_of_moves hmove hsend with
      ⟨b, rest', rfl, hsend', hnotSending⟩ | ⟨b, rest', m, lk, rfl, hphase, hrow⟩
    · refine ⟨h.toSend b rest' tag hmem hsend', fun hnew => ?_⟩
      obtain ⟨c, rest'', m, lk, runtime, heq, hphase, -⟩ := sent_mem_marks.mp hnew
      obtain ⟨rfl, -⟩ := Task.attempt.inj heq
      exact hnotSending m lk runtime hphase
    · refine ⟨h.not_sent_of_row htask hphase hrow, fun hnew => ?_⟩
      obtain ⟨c, rest'', m', lk', runtime, heq, hphase', -⟩ := sent_mem_marks.mp hnew
      obtain ⟨rfl, -⟩ := Task.attempt.inj heq
      rw [hphase] at hphase'
      contradiction
  · -- another task, which the lock keeps from being about the same notification
    refine ⟨h.toSend a rest tag (List.mem_of_getElem? hj) hsend, fun hnew => ?_⟩
    obtain ⟨b, rest', rfl, hsend'⟩ := toSend_of_sent hnew
    obtain ⟨hcopied, hlock⟩ := Phase.copied_of_toSend hsend
    obtain ⟨hcopied', hlock'⟩ := Phase.copied_of_toSend hsend'
    exact hne (h.sound.same_attempt hj htask hcopied hcopied' hlock hlock')

theorem sentCopy_step (h : Delivers start marks s)
    (hmove : Moves env s.toShared reply task shared task') {a : Attempt} {rest : Option Pass}
    (ha : Task.attempt a rest ∈ s.tasks.set i task') (hsent : a.phase.sentCopy = some tag) :
    .sent tag ∈ marks ++ task.marks reply s.tables shared.tables := by
  rw [List.mem_append]
  cases List.mem_or_eq_of_mem_set ha with
  | inl hold => exact Or.inl (h.sentCopy a rest tag hold hsent)
  | inr heq =>
    subst heq
    obtain ⟨b, rest', m, lk, runtime, rfl, hphase, hok⟩ := sentCopy_of_moves hmove hsent
    exact Or.inr (sent_mem_marks.mpr ⟨b, rest', m, lk, runtime, rfl, hphase, hok⟩)

/-- What an attempt deletes as delivered, it has sent. -/
theorem delivered_step (h : Delivers start marks s) (htask : task ∈ s.tasks)
    (hmove : Moves env s.toShared reply task shared task')
    (hnew : .delivered tag ∈ task.marks reply s.tables shared.tables) : .sent tag ∈ marks := by
  obtain ⟨a, rest, rfl, hbefore, hafter⟩ := delivered_mem_marks.mp hnew
  rcases removed_of_moves hmove hbefore hafter with
    ⟨p, heq⟩ | ⟨b, rest', m, copied, lk, answer, heq, hphase, hok, hid⟩
  · contradiction
  · obtain ⟨rfl, rfl⟩ := Task.attempt.inj heq
    have hsent : a.phase.sentCopy = some copied := by
      rw [hphase]
      exact if_pos hok
    obtain ⟨htag, -, hsame⟩ := h.sound.copy htask (Phase.copied_of_sentCopy hsent).1
    obtain ⟨row, hrow, hserial⟩ := Outbox.mem_tags.mp hbefore
    rw [hid] at hrow
    have heq : tag = copied := by
      refine Prod.ext ?_ (hserial.symm.trans (hsame row hrow))
      rw [htag]
      exact hid
    exact heq ▸ h.sentCopy a rest copied htask hsent

theorem kept_step (h : Delivers start marks s) (htask : task ∈ s.tasks)
    (hmove : Moves env s.toShared reply task shared task')
    (htag : tag ∈ start.tables.outbox.tags ∨
      .enqueued tag ∈ marks ++ task.marks reply s.tables shared.tables) :
    tag ∈ shared.tables.outbox.tags ∨
      .sent tag ∈ marks ++ task.marks reply s.tables shared.tables ∨
        .discarded tag ∈ marks ++ task.marks reply s.tables shared.tables := by
  simp only [List.mem_append] at htag ⊢
  have hbefore : tag ∈ s.tables.outbox.tags → tag ∈ shared.tables.outbox.tags ∨
      Mark.sent tag ∈ marks ∨ Mark.discarded tag ∈ task.marks reply s.tables shared.tables := by
    intro hbefore
    by_cases hafter : tag ∈ shared.tables.outbox.tags
    · exact Or.inl hafter
    · rcases removed_of_moves hmove hbefore hafter with
        ⟨p, rfl⟩ | ⟨a, rest, m, copied, lk, answer, rfl, -⟩
      · exact Or.inr (Or.inr (discarded_mem_marks.mpr ⟨p, rfl, hbefore, hafter⟩))
      · have hdelivered : .delivered tag ∈
            (Task.attempt a rest).marks reply s.tables shared.tables :=
          delivered_mem_marks.mpr ⟨a, rest, rfl, hbefore, hafter⟩
        exact Or.inr (Or.inl (h.delivered_step htask hmove hdelivered))
  have hold : tag ∈ start.tables.outbox.tags ∨ Mark.enqueued tag ∈ marks →
      tag ∈ shared.tables.outbox.tags ∨
        (Mark.sent tag ∈ marks ∨ Mark.sent tag ∈ task.marks reply s.tables shared.tables) ∨
          (Mark.discarded tag ∈ marks ∨
            Mark.discarded tag ∈ task.marks reply s.tables shared.tables) := by
    intro hold
    rcases h.kept tag hold with hrow | hsent | hdiscarded
    · rcases hbefore hrow with hrow' | hsent | hnew
      · exact Or.inl hrow'
      · exact Or.inr (Or.inl (Or.inl hsent))
      · exact Or.inr (Or.inr (Or.inr hnew))
    · exact Or.inr (Or.inl (Or.inl hsent))
    · exact Or.inr (Or.inr (Or.inl hdiscarded))
  rcases htag with hstart | hmark | hnew
  · exact hold (Or.inl hstart)
  · exact hold (Or.inr hmark)
  · obtain ⟨d, -, hafter, -⟩ := enqueued_mem_marks.mp hnew
    exact Or.inl hafter

end Step

theorem step {env : NotifyEnv} {start s t : System} {e : Event} {marks : List Mark}
    (h : Delivers start marks s) (hfresh : FreshIDs s e) (hstep : s.step env e = some t) :
    Delivers start (marks ++ s.marks e t) t := by
  have hsound := h.sound.step hfresh hstep
  rcases step_cases hstep with
    ⟨i, reply, task, shared, task', rfl, htask, hmove, rfl⟩ | ⟨hacting, hquiet⟩
  · have hmarks : s.marks (.advance i reply) ⟨shared, s.tasks.set i task'⟩ =
        task.marks reply s.tables shared.tables := by
      simp only [System.marks, htask]
    rw [hmarks]
    have hmem := List.mem_of_getElem? htask
    refine ⟨hsound, ?_, fun _ => h.once_step hmem, fun _ => h.waits_step htask hmove,
      fun _ _ _ => h.toSend_step htask hmove, fun _ _ _ => h.sentCopy_step hmove, ?_,
      fun _ => h.kept_step hmem hmove⟩
    · intro tag htag
      have hserials := (rows_of_moves hmove).1
      cases List.mem_append.mp htag with
      | inl hold => exact lt_of_lt_of_le (h.sentSerial tag hold) hserials
      | inr hnew =>
        obtain ⟨a, rest, rfl, hsend⟩ := toSend_of_sent hnew
        have hcopy := h.sound.copy hmem (Phase.copied_of_toSend hsend).1
        exact lt_of_lt_of_le hcopy.2.1 hserials
    · intro tag htag
      cases List.mem_append.mp htag with
      | inl hold => exact List.mem_append_left _ (h.delivered tag hold)
      | inr hnew => exact List.mem_append_left _ (h.delivered_step hmem hmove hnew)
  · rw [marks_of_quiet hacting, List.append_nil]
    refine ⟨hsound, ?_, h.once, ?_, ?_, ?_, h.delivered, ?_⟩
    · rw [hquiet.nextSerial]
      exact h.sentSerial
    · rw [hquiet.outbox]
      intro tag htag hrow
      obtain ⟨i, a, rest, hi, hsent⟩ := h.waits tag htag hrow
      refine ⟨i, a, rest, ?_, hsent⟩
      have hlt := (List.getElem?_eq_some_iff.mp hi).1
      rcases hquiet.tasks with heq | ⟨n, heq⟩ | heq
      · rwa [heq]
      · rwa [heq, List.getElem?_append_left hlt]
      · rwa [heq, List.getElem?_append_left hlt]
    · exact fun a rest tag ha => h.toSend a rest tag (hquiet.attempts a rest ha)
    · exact fun a rest tag ha => h.sentCopy a rest tag (hquiet.attempts a rest ha)
    · rw [hquiet.outbox]
      exact h.kept

end Delivers

/-- When no insertion gets the number of a copy that a task still has, every message is
sent at most once, a row is deleted as delivered only after its own message was sent,
and no notification is lost. -/
theorem each_message_sent_once {env : NotifyEnv} {s t : System} {tr : List Event} (hstart : s.Start)
    (hrun : Runs.exec (System.step env) s tr = some t)
    (hfresh : Runs.Along (System.step env) FreshIDs s tr) :
    (∀ tag, (s.history env tr).count (.sent tag) ≤ 1) ∧
      (∀ tag, .delivered tag ∈ s.history env tr → .sent tag ∈ s.history env tr) ∧
      ∀ tag, tag ∈ s.tables.outbox.tags ∨ .enqueued tag ∈ s.history env tr →
        tag ∈ t.tables.outbox.tags ∨ .sent tag ∈ s.history env tr ∨
          .discarded tag ∈ s.history env tr := by
  have h : Delivers s (s.history env tr) t :=
    Runs.exec_observed hrun hfresh hstart.delivers fun _ _ _ _ h hf hs => h.step hf hs
  exact ⟨h.once, h.delivered, h.kept⟩

/-- An alert that is inserted, sent and deleted. -/
def oneAlert : List Event := .dispatch firstAlert :: steps 0 14

theorem one_alert_sent_once :
    (∀ tag, ((alertSystem messageTemplate).history alertEnv oneAlert).count (.sent tag) ≤ 1) ∧
      .delivered (1, 1) ∈ (alertSystem messageTemplate).history alertEnv oneAlert := by
  have hruns : (Runs.exec (System.step alertEnv) (alertSystem messageTemplate) oneAlert).isSome =
      true := by
    decide +kernel
  obtain ⟨t, ht⟩ := Option.isSome_iff_exists.mp hruns
  exact ⟨(each_message_sent_once (alertSystem_start messageTemplate) ht (by decide +kernel)).1,
    by decide +kernel⟩

/-- A first alert is inserted, and a pass lists its row before it is sent and deleted.  A
second alert gets the same number, and the pass comes to its copy of the first. -/
def reusedNumber : List Event :=
  .dispatch firstAlert :: steps 0 6 ++ .processDue :: steps 1 4 ++ steps 0 8 ++
    .dispatch secondAlert :: steps 2 6 ++ steps 1 8

/-- The first alert is sent twice, and the second one deleted without having been sent. -/
theorem old_copy_sent_again :
    (Runs.exec (System.step alertEnv) (alertSystem messageTemplate) reusedNumber).isSome = true ∧
      ((alertSystem messageTemplate).history alertEnv reusedNumber).count (.sent (1, 1)) = 2 ∧
      .enqueued (1, 2) ∈ (alertSystem messageTemplate).history alertEnv reusedNumber ∧
      .delivered (1, 2) ∈ (alertSystem messageTemplate).history alertEnv reusedNumber ∧
      .sent (1, 2) ∉ (alertSystem messageTemplate).history alertEnv reusedNumber := by
  decide +kernel

end Lune.Notify
