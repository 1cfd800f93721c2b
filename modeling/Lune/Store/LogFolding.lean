import Lune.Lib.Calls
import Lune.Store.RequestLogs
import Mathlib.Algebra.BigOperators.Ring.Finset

/-!
# Folding repeated errors

Calls of `InsertLog` and `PruneDataRetention` that run together.  A call that
folds has selected a row and updates it later, so the row may be deleted in
between; the update then finds nothing and the request is lost.  In runs where no
pruning deletes a selected row, every call is accounted for.
-/

namespace Lune.Store

open GoText Keyed Calendar TimeText Programs

/-- A call on the request logs. -/
inductive LogRequest where
  | insertLog (l : RequestLog)
  | pruneDataRetention (retentionDays : Int)

/-- What a call runs. -/
def LogRequest.program (t : TextFuncs) : LogRequest → LogProg Unit
  | insertLog l => Store.insertLog t l
  | pruneDataRetention retentionDays => Store.pruneDataRetention retentionDays

/-- A failed request of ordinary traffic with an error. -/
def isCounted (success diagnostic statefulProbe : Bool) (errorMessage : Str) : Bool :=
  !success && !isBlank errorMessage && !diagnostic && !statefulProbe

def RequestLogRow.counted (r : RequestLogRow) : Bool :=
  isCounted r.success r.diagnostic r.statefulProbe r.errorMessage

/-- The error is the one that is logged. -/
def RequestLog.counted (l : RequestLog) : Bool :=
  isCounted l.success l.diagnostic l.statefulProbe l.sanitized.errorMessage

/-- A record as the gateway passes it: the fields about repeats are left to
`InsertLog`. -/
structure RequestLog.Fresh (l : RequestLog) : Prop where
  errorRepeatCount : l.errorRepeatCount = 0
  errorFingerprint : l.errorFingerprint = []

/-- An ordinary row with a fingerprint is of a failed request with an error. -/
def RequestLogRow.Sound (r : RequestLogRow) : Prop :=
  r.errorFingerprint ≠ [] → r.diagnostic = false → r.statefulProbe = false → r.counted = true

def Archive.Sound (s : Archive) : Prop := ∀ r ∈ s.requestLogs.rows, r.Sound

/-- How many requests the counted rows stand for. -/
def Archive.countedRequests (s : Archive) : Int :=
  (s.requestLogs.rows.map fun r => if r.counted then r.errorRepeatCount else 0).sum

/-! ## What a write does -/

/-- The row after a fold. -/
def RequestLogRow.folded (r : RequestLogRow) (now : Clock) (latencyMs : Int) : RequestLogRow :=
  { r with
    errorRepeatCount := r.errorRepeatCount + 1
    errorLastSeenAt := now.datetime
    latencyMs := latencyMs }

/-- The row that an insertion adds. -/
def Archive.newRequestLog (s : Archive) (now : Clock) (row : RequestLogRow) : RequestLogRow :=
  { row with id := nextID s.requestLogs, createdAt := now.datetime }

theorem Archive.rows_insertRequestLog (s : Archive) (now : Clock) (row : RequestLogRow) :
    (s.insertRequestLog now row).requestLogs.rows =
      s.requestLogs.rows ++ [s.newRequestLog now row] :=
  Table.rows_set_of_fresh (Table.find?_next s.requestLogs)

theorem Archive.find?_insertRequestLog (s : Archive) (now : Clock) (row : RequestLogRow) (id : Int) :
    (s.insertRequestLog now row).requestLogs.find? id =
      if nextID s.requestLogs = id then some (s.newRequestLog now row)
      else s.requestLogs.find? id :=
  Table.find?_set s.requestLogs _ id

theorem Archive.find?_foldRequestLog (s : Archive) (now : Clock) (id latencyMs other : Int) :
    (s.foldRequestLog now id latencyMs).requestLogs.find? other =
      if other = id then (s.requestLogs.find? other).map (·.folded now latencyMs)
      else s.requestLogs.find? other :=
  Table.find?_modify s.requestLogs (f := (·.folded now latencyMs)) (fun _ => rfl) id other

theorem Archive.find?_pruneRequestLogs {s : Archive} {id : Int} {row : RequestLogRow}
    (h : s.requestLogs.find? id = some row) {cutoff : Str} (hkept : cutoff ≤ row.createdAt) :
    (s.pruneRequestLogs cutoff).requestLogs.find? id = some row := by
  obtain ⟨hmem, hid⟩ := Table.mem_of_find? h
  rw [Table.find?_eq_some_iff]
  exact ⟨List.mem_filter.mpr ⟨hmem, by simpa using hkept⟩, hid⟩

/-- The write is right for the tables: the row to fold is there and is a counted
one, and a row to add is sound. -/
def LogCall.RightFor (s : Archive) : LogCall → Prop
  | foldRequestLog id _ => ∃ row, s.requestLogs.find? id = some row ∧ row.counted = true
  | insertRequestLog row => row.Sound
  | pruneRequestLogs _ => True

theorem LogCall.sound_run {s : Archive} (h : s.Sound) {w : LogCall} (hw : w.RightFor s)
    (now : Clock) : (w.run now s).Sound := by
  intro r hr
  cases w with
  | foldRequestLog id latencyMs =>
    obtain ⟨r', hr', rfl⟩ := List.mem_map.mp hr
    split
    · exact h r' hr'
    · exact h r' hr'
  | insertRequestLog row =>
    change r ∈ (s.insertRequestLog now row).requestLogs.rows at hr
    rw [Archive.rows_insertRequestLog] at hr
    rcases List.mem_append.mp hr with hr | hr
    · exact h r hr
    · obtain rfl := List.mem_singleton.mp hr
      exact hw
  | pruneRequestLogs cutoff => exact h r (List.mem_of_mem_filter hr)

/-- What a write adds to the counted requests. -/
def LogCall.countedUnits : LogCall → Int
  | foldRequestLog _ _ => 1
  | insertRequestLog row => if row.counted then row.errorRepeatCount else 0
  | pruneRequestLogs _ => 0

theorem LogCall.countedRequests_run {s : Archive} {w : LogCall} (hw : w.RightFor s)
    (hkeep : ∀ cutoff, w ≠ .pruneRequestLogs cutoff) (now : Clock) :
    (w.run now s).countedRequests = s.countedRequests + w.countedUnits := by
  cases w with
  | foldRequestLog id latencyMs =>
    obtain ⟨row, hrow, hcounted⟩ := hw
    have hsum := Table.sum_modify (f := (·.folded now latencyMs)) (fun _ => rfl) hrow
      fun r => if r.counted then r.errorRepeatCount else 0
    have hfolded : (row.folded now latencyMs).counted = true := hcounted
    simp only [hcounted, hfolded, if_true] at hsum
    refine hsum.trans ?_
    show s.countedRequests + (row.errorRepeatCount + 1 - row.errorRepeatCount) = _
    simp [countedUnits]
  | insertRequestLog row =>
    show ((s.insertRequestLog now row).requestLogs.rows.map _).sum = _
    rw [Archive.rows_insertRequestLog, List.map_append, List.sum_append]
    rw [List.map_singleton, List.sum_singleton]
    rfl
  | pruneRequestLogs cutoff => exact absurd rfl (hkeep cutoff)

/-! ## What a call does -/

/-- The one write of a call that inserts a log: a fold, for a counted request, or
a row with a count of one. -/
def RequestLog.Unit (l : RequestLog) (w : LogCall) : Prop :=
  (l.counted = true ∧ ∃ id, w = .foldRequestLog id l.latencyMs) ∨
    ∃ row, w = .insertRequestLog row ∧ row.errorRepeatCount = 1 ∧ row.counted = l.counted

theorem hasError_complete (t : TextFuncs) (l : RequestLog) (sourceKind : Str) :
    (l.complete t sourceKind).hasError = l.sanitized.hasError := rfl

theorem counted_of_hasError {l : RequestLog} (herror : l.sanitized.hasError = true)
    (hdiagnostic : l.diagnostic = false) (hprobe : l.statefulProbe = false) :
    l.counted = true := by
  rw [RequestLog.counted, isCounted, hdiagnostic, hprobe]
  simpa [RequestLog.hasError, RequestLog.sanitized] using herror

theorem hasError_of_fingerprint (t : TextFuncs) {l : RequestLog} (h : l.Fresh) (sourceKind : Str)
    (hfingerprint : (l.complete t sourceKind).errorFingerprint ≠ []) :
    (l.complete t sourceKind).hasError = true := by
  by_contra hnone
  have hclean : ¬ l.sanitized.hasError = true := hnone
  simp [RequestLog.complete, hclean, h.errorFingerprint] at hfingerprint

theorem errorRepeatCount_complete (t : TextFuncs) {l : RequestLog} (h : l.Fresh)
    (sourceKind : Str) : (l.complete t sourceKind).errorRepeatCount = 1 := by
  simp [RequestLog.complete, h.errorRepeatCount]

/-- The record is the other one with a count of one. -/
def RequestLog.IsUnitOf (l' l : RequestLog) : Prop :=
  l'.errorRepeatCount = 1 ∧ l'.latencyMs = l.latencyMs ∧
    isCounted l'.success l'.diagnostic l'.statefulProbe l'.errorMessage = l.counted

theorem isUnitOf_complete (t : TextFuncs) {l : RequestLog} (h : l.Fresh) (sourceKind : Str) :
    (l.complete t sourceKind).IsUnitOf l := by
  have hcounted : isCounted (l.complete t sourceKind).success (l.complete t sourceKind).diagnostic
      (l.complete t sourceKind).statefulProbe (l.complete t sourceKind).errorMessage =
        l.counted := rfl
  exact ⟨errorRepeatCount_complete t h sourceKind, rfl, hcounted⟩

theorem isUnitOf_seen {l l' : RequestLog} (h : l'.IsUnitOf l) (now : Clock) :
    (l'.seen now).IsUnitOf l := h

theorem unit_insert {l l' : RequestLog} (h : l'.IsUnitOf l) (sourceKind label : Str) :
    l.Unit (.insertRequestLog (l'.row sourceKind label)) :=
  Or.inr ⟨_, rfl, h.1, h.2.2⟩

theorem unit_fold {l l' : RequestLog} (h : l'.IsUnitOf l) (hcounted : l.counted = true) (id : Int) :
    l.Unit (.foldRequestLog id l'.latencyMs) := by
  rw [h.2.1]
  exact Or.inl ⟨hcounted, id, rfl⟩

section Once

variable {P : LogCall → Prop} {l : RequestLog} {sourceKind : Str}

theorem once_insertLogRow (h : ∀ label, P (.insertRequestLog (l.row sourceKind label))) :
    (insertLogRow l sourceKind).Once P :=
  fun _ _ => ⟨h _, (), rfl⟩

theorem once_insertFailedLog (hrow : ∀ label, P (.insertRequestLog (l.row sourceKind label)))
    (hfold : l.diagnostic = false → l.statefulProbe = false →
      ∀ id, P (.foldRequestLog id l.latencyMs)) :
    (insertFailedLog l sourceKind).Once P := by
  unfold insertFailedLog
  split
  next hordinary =>
    have hselected : ∀ recent, (do
        let updated ← foldSelected l recent
        if updated then return () else insertLogRow l sourceKind : LogProg Unit).Once P := by
      intro recent
      cases recent with
      | none => exact once_insertLogRow hrow
      | some id => exact ⟨hfold hordinary.2.1 hordinary.2.2 id, (), rfl⟩
    exact fun _ _ _ _ => hselected _
  · exact once_insertLogRow hrow

end Once

/-- Every path of the call ends with its one write. -/
theorem once_insertLog (t : TextFuncs) {l : RequestLog} (h : l.Fresh) :
    (insertLog t l).Once l.Unit := by
  have hcomplete := isUnitOf_complete t h l.storedSourceKind
  unfold insertLog insertCompleteLog
  split
  next herror =>
    rw [hasError_complete] at herror
    intro now _
    have hunit := isUnitOf_seen hcomplete now
    show Prog.Once _ (insertFailedLog ((l.complete t l.storedSourceKind).seen now) _)
    apply once_insertFailedLog
    · exact unit_insert hunit l.storedSourceKind
    · intro hdiagnostic hprobe
      have hordinary : l.diagnostic = false := hdiagnostic
      have hstateless : l.statefulProbe = false := hprobe
      exact unit_fold hunit (counted_of_hasError herror hordinary hstateless)
  · exact once_insertLogRow (unit_insert hcomplete l.storedSourceKind)

/-! ## Writes that are right when they are made -/

/-- The row that a fold selects is a counted one. -/
theorem counted_of_recent {s : Archive} (h : s.Sound) {fingerprint trafficKind since : Str}
    (hfingerprint : fingerprint ≠ []) {id : Int}
    (hid : s.recentRequestLog fingerprint false false trafficKind since = some id) :
    ∃ row, s.requestLogs.find? id = some row ∧ row.counted = true := by
  obtain ⟨row, hrow, rfl⟩ := List.mem_map.mp (List.max?_mem hid)
  obtain ⟨hmem, hwhere⟩ := List.mem_filter.mp hrow
  simp only [Bool.and_eq_true, beq_iff_eq] at hwhere
  obtain ⟨⟨⟨⟨hsame, hdiagnostic⟩, hprobe⟩, -⟩, -⟩ := hwhere
  exact ⟨row, Table.find?_of_mem hmem, h row hmem (hsame ▸ hfingerprint) hdiagnostic hprobe⟩

theorem chosen_insertLogRow {l : RequestLog} {sourceKind : Str}
    (h : ∀ label, (l.row sourceKind label).Sound) :
    (insertLogRow l sourceKind).Chosen Archive.Sound fun s w => w.RightFor s :=
  fun _ _ _ => ⟨Prog.ready_write (h _), fun _ => Prog.ready_ret _, trivial⟩

theorem chosen_insertFailedLog {l : RequestLog} {sourceKind : Str}
    (h : ∀ label, (l.row sourceKind label).Sound) :
    (insertFailedLog l sourceKind).Chosen Archive.Sound fun s w => w.RightFor s := by
  unfold insertFailedLog
  split
  next hordinary =>
    obtain ⟨hfingerprint, hdiagnostic, hprobe⟩ := hordinary
    have hselected : ∀ s, Archive.Sound s → ∀ since recent,
        s.recentRequestLog l.errorFingerprint l.diagnostic l.statefulProbe
          (normalizeRequestTrafficKind l.trafficKind l.diagnostic l.statefulProbe) since = recent →
        let rest : LogProg Unit := do
          let updated ← foldSelected l recent
          if updated then return () else insertLogRow l sourceKind
        rest.Ready (fun s w => w.RightFor s) s ∧
          rest.Chosen Archive.Sound fun s w => w.RightFor s := by
      intro s hs since recent hrecent
      cases recent with
      | none => exact ⟨Prog.ready_read _, chosen_insertLogRow h⟩
      | some id =>
        rw [hdiagnostic, hprobe] at hrecent
        exact ⟨Prog.ready_write (counted_of_recent hs hfingerprint hrecent),
          fun _ => Prog.ready_ret _, trivial⟩
    exact fun _ _ _ => ⟨Prog.ready_read _, fun _ s hs => hselected s hs _ _ rfl⟩
  · exact chosen_insertLogRow h

/-- The record makes a sound row. -/
def RequestLog.MakesSound (l : RequestLog) : Prop :=
  l.errorFingerprint ≠ [] → l.diagnostic = false → l.statefulProbe = false →
    isCounted l.success l.diagnostic l.statefulProbe l.errorMessage = true

theorem sound_row {l : RequestLog} (h : l.MakesSound) (sourceKind label : Str) :
    (l.row sourceKind label).Sound := h

theorem makesSound_complete (t : TextFuncs) {l : RequestLog} (h : l.Fresh) (sourceKind : Str) :
    (l.complete t sourceKind).MakesSound := by
  intro hfingerprint hdiagnostic hprobe
  have herror := hasError_of_fingerprint t h sourceKind hfingerprint
  rw [hasError_complete] at herror
  have hcounted : l.counted = true := counted_of_hasError herror hdiagnostic hprobe
  exact (isUnitOf_complete t h sourceKind).2.2.trans hcounted

theorem makesSound_seen {l : RequestLog} (h : l.MakesSound) (now : Clock) :
    (l.seen now).MakesSound := h

theorem chosen_insertLog (t : TextFuncs) {l : RequestLog} (h : l.Fresh) :
    (insertLog t l).Chosen Archive.Sound fun s w => w.RightFor s := by
  unfold insertLog insertCompleteLog
  split
  · have hfailed : ∀ now, (insertFailedLog ((l.complete t l.storedSourceKind).seen now)
        l.storedSourceKind).Chosen Archive.Sound fun s w => w.RightFor s :=
      fun now => chosen_insertFailedLog
        (sound_row (makesSound_seen (makesSound_complete t h _) now) l.storedSourceKind)
    intro now s _
    refine ⟨?_, hfailed now⟩
    show Prog.Ready _ s (insertFailedLog _ _)
    unfold insertFailedLog
    split
    · exact Prog.ready_read _
    · exact Prog.ready_read _
  · exact chosen_insertLogRow (sound_row (makesSound_complete t h _) l.storedSourceKind)

theorem chosen_pruneDataRetention (retentionDays : Int) :
    (pruneDataRetention retentionDays).Chosen Archive.Sound fun s w => w.RightFor s := by
  unfold pruneDataRetention
  split
  · trivial
  · exact fun _ _ _ => ⟨Prog.ready_write trivial, fun _ => Prog.ready_ret _, trivial⟩

/-- No call starts with a write. -/
theorem ready_program {G : Archive → LogCall → Prop} (t : TextFuncs) (r : LogRequest)
    (s : Archive) : (r.program t).Ready G s := by
  cases r with
  | insertLog l =>
    show (insertLog t l).Ready G s
    unfold insertLog insertCompleteLog
    split
    · exact Prog.ready_read _
    · exact Prog.ready_read _
  | pruneDataRetention retentionDays =>
    show (pruneDataRetention retentionDays).Ready G s
    unfold pruneDataRetention
    split
    · exact Prog.ready_ret _
    · exact Prog.ready_read _

/-! ## Calls that run together -/

section Together

variable {ι : Type} [DecidableEq ι]

/-- The call does not delete a row that another one has selected and is about to
update. -/
def SparesSelected (c : Calls ι Clock Archive LogCall Unit) (ev : ι × Clock) : Prop :=
  ∀ cutoff rest, c.left ev.1 = .write (.pruneRequestLogs cutoff) rest →
    ∀ j id latencyMs rest' row, c.left j = .write (.foldRequestLog id latencyMs) rest' →
      c.shared.requestLogs.find? id = some row → cutoff ≤ row.createdAt

/-- A write keeps another one right, unless it deletes the selected row. -/
theorem LogCall.rightFor_run {s : Archive} {v w : LogCall} (hv : v.RightFor s)
    (hspares : ∀ cutoff id latencyMs row, w = .pruneRequestLogs cutoff →
      v = .foldRequestLog id latencyMs → s.requestLogs.find? id = some row →
      cutoff ≤ row.createdAt) (now : Clock) : v.RightFor (w.run now s) := by
  cases v with
  | foldRequestLog id latencyMs =>
    obtain ⟨row, hrow, hcounted⟩ := hv
    cases w with
    | foldRequestLog other latencyMs' =>
      have hfind := s.find?_foldRequestLog now other latencyMs' id
      rw [hrow] at hfind
      by_cases hid : id = other
      · rw [if_pos hid] at hfind
        exact ⟨row.folded now latencyMs', hfind, hcounted⟩
      · rw [if_neg hid] at hfind
        exact ⟨row, hfind, hcounted⟩
    | insertRequestLog new =>
      have hfind := s.find?_insertRequestLog now new id
      have hid : nextID s.requestLogs ≠ id := by
        intro heq
        have hfresh := Table.find?_next s.requestLogs
        rw [show (s.requestLogs.rows.map RequestLogRow.id).foldl max 0 + 1 = id from heq, hrow]
          at hfresh
        contradiction
      rw [if_neg hid, hrow] at hfind
      exact ⟨row, hfind, hcounted⟩
    | pruneRequestLogs cutoff =>
      exact ⟨row, Archive.find?_pruneRequestLogs hrow (hspares cutoff id latencyMs row rfl rfl hrow),
          hcounted⟩
  | insertRequestLog row => exact hv
  | pruneRequestLogs cutoff => trivial

variable {t : TextFuncs} {req : ι → LogRequest} {s : Archive} {tr : List (ι × Clock)}
  {c : Calls ι Clock Archive LogCall Unit}

theorem justified_step {u v : Calls ι Clock Archive LogCall Unit} {ev : ι × Clock}
    (hu : u.Justified Archive.Sound fun s w => w.RightFor s) (hspares : SparesSelected u ev)
    (hstep : Calls.step LogCall.run u ev = some v) :
    v.Justified Archive.Sound fun s w => w.RightFor s := by
  obtain ⟨i, now⟩ := ev
  refine hu.step ?_ ?_ hstep
  · exact fun w next _ hw => w.sound_run hu.shared hw now
  · intro w next hw j w' rest _ hw' hright
    refine LogCall.rightFor_run hright ?_ now
    intro cutoff id latencyMs row hprune hfold hrow
    subst hprune hfold
    exact hspares cutoff next hw j id latencyMs rest row hw' hrow

/-- The calls make writes that are right for the tables they meet. -/
theorem justified_logCalls (hsound : s.Sound) (hfresh : ∀ i l, req i = .insertLog l → l.Fresh)
    (h : Runs.exec (Calls.step LogCall.run) (Calls.start s fun i => (req i).program t) tr = some c)
    (hspares : Runs.Along (Calls.step LogCall.run) SparesSelected
      (Calls.start s fun i => (req i).program t) tr) :
    c.Justified Archive.Sound fun s w => w.RightFor s := by
  have hprogram : ∀ i, ((req i).program t).Chosen Archive.Sound fun s w => w.RightFor s := by
    intro i
    cases hreq : req i with
    | insertLog l => exact chosen_insertLog t (hfresh i l hreq)
    | pruneDataRetention retentionDays => exact chosen_pruneDataRetention retentionDays
  have hstart : Calls.Justified Archive.Sound (fun s w => w.RightFor s)
      (Calls.start s fun i => (req i).program t) :=
    ⟨hsound, fun i => ready_program t (req i) s, hprogram, fun j m hm => absurd hm List.not_mem_nil⟩
  exact Runs.exec_along h hspares hstart fun u ev v hu hspare hstep =>
    justified_step hu hspare hstep

/-- A write adds one row, with a count of one. -/
def AddsRow (before after : Archive) : Prop :=
  ∃ row, row.errorRepeatCount = 1 ∧ before.requestLogs.find? row.id = none ∧
    after.requestLogs.rows = before.requestLogs.rows ++ [row]

/-- A write adds one to the count of a row that is there. -/
def Increments (before after : Archive) : Prop :=
  ∃ row now latencyMs, row ∈ before.requestLogs.rows ∧ ∀ id,
    after.requestLogs.find? id =
      if id = row.id then some (row.folded now latencyMs) else before.requestLogs.find? id

/-- The one write of the call is a unit for the request. -/
theorem unit_accounts {l : RequestLog} {m : Threads.Made Clock Archive LogCall}
    (hunit : l.Unit m.call) (hright : m.call.RightFor m.before) :
    AddsRow m.before (m.call.run m.env m.before) ∨
      l.counted = true ∧ Increments m.before (m.call.run m.env m.before) := by
  obtain ⟨env, before, call⟩ := m
  rcases hunit with ⟨hcounted, id, hcall⟩ | ⟨row, hcall, hcount, -⟩
  · obtain rfl : call = .foldRequestLog id l.latencyMs := hcall
    obtain ⟨row, hrow, -⟩ : ∃ row, before.requestLogs.find? id = some row ∧ _ := hright
    obtain ⟨hmem, rfl⟩ := Table.mem_of_find? hrow
    refine Or.inr ⟨hcounted, row, env, l.latencyMs, hmem, fun other => ?_⟩
    refine (before.find?_foldRequestLog env row.id l.latencyMs other).trans ?_
    by_cases hother : other = row.id
    · rw [if_pos hother, if_pos hother, hother, hrow]
      rfl
    · rw [if_neg hother, if_neg hother]
  · obtain rfl : call = .insertRequestLog row := hcall
    exact Or.inl ⟨before.newRequestLog env row, hcount, Table.find?_next before.requestLogs,
      before.rows_insertRequestLog env row⟩

/-- The call is one for a counted request, and has returned. -/
def Folds (req : ι → LogRequest) (c : Calls ι Clock Archive LogCall Unit) (i : ι) : Bool :=
  (c.left i).returned && match req i with
    | .insertLog l => l.counted
    | .pruneDataRetention _ => false

theorem sum_units {l : RequestLog} {made : List (Threads.Made Clock Archive LogCall)}
    {left : LogProg Unit} (h : Calls.Accounts l.Unit made left) :
    (made.map fun m => m.call.countedUnits).sum =
      if left.returned && l.counted then 1 else 0 := by
  rcases h with ⟨rfl, honce⟩ | ⟨m, a, rfl, hunit, rfl⟩
  · cases left with
    | ret a => exact honce.elim
    | read next => rfl
    | write w next => rfl
  · rcases hunit with ⟨hcounted, id, hcall⟩ | ⟨row, hcall, hcount, hcounted⟩
    · simp [hcall, hcounted, LogCall.countedUnits, Prog.returned]
    · simp [hcall, hcount, hcounted, LogCall.countedUnits, Prog.returned]

omit [DecidableEq ι] in
/-- Without pruning nothing spoils a selected row. -/
theorem sparesSelected_of_inserts {c : Calls ι Clock Archive LogCall Unit} (l : ι → RequestLog)
    (hunits : ∀ i, Calls.Accounts (l i).Unit (c.made i) (c.left i)) (ev : ι × Clock) :
    SparesSelected c ev := by
  intro cutoff rest hprune
  have hunit := hunits ev.1
  rw [hprune] at hunit
  rcases hunit with ⟨-, ⟨-, id, hcall⟩ | ⟨row, hcall, -⟩, -⟩ | ⟨m, a, -, -, hret⟩
  all_goals contradiction

theorem along_of_inserts (l : ι → RequestLog) (hfresh : ∀ i, (l i).Fresh)
    (tr : List (ι × Clock)) :
    Runs.Along (Calls.step LogCall.run) SparesSelected
      (Calls.start s fun i => insertLog t (l i)) tr :=
  Runs.along_of_invariant (I := fun c => ∀ i, Calls.Accounts (l i).Unit (c.made i) (c.left i))
    (fun i => Or.inl ⟨rfl, once_insertLog t (hfresh i)⟩)
    (fun _ ev hunits => sparesSelected_of_inserts l hunits ev)
    (fun _ _ _ hunits hstep i => (hunits i).step hstep) tr

/-- Calls that only insert: the counted requests of the tables are those of the
start and the units that the calls have made. -/
theorem countedRequests_exec [Fintype ι] (l : ι → RequestLog) (hsound : s.Sound)
    (hfresh : ∀ i, (l i).Fresh)
    (h : Runs.exec (Calls.step LogCall.run) (Calls.start s fun i => insertLog t (l i)) tr = some c) :
    c.shared.countedRequests =
      s.countedRequests + c.added fun m => m.call.countedUnits := by
  refine (Runs.exec_invariant (P := fun _ (c : Calls ι Clock Archive LogCall Unit) =>
    c.Justified Archive.Sound (fun s w => w.RightFor s) ∧
      (∀ i, Calls.Accounts (l i).Unit (c.made i) (c.left i)) ∧
      c.shared.countedRequests = s.countedRequests + c.added fun m => m.call.countedUnits)
    ?_ ?_ h).2.2
  · refine ⟨⟨hsound, fun i => ready_program t (.insertLog (l i)) s,
      fun i => chosen_insertLog t (hfresh i), fun j m hm => absurd hm List.not_mem_nil⟩,
      fun i => Or.inl ⟨rfl, once_insertLog t (hfresh i)⟩, ?_⟩
    rw [Calls.added_start]
    exact (add_zero _).symm
  · rintro - u ⟨i, now⟩ v ⟨hjustified, hunits, hsum⟩ hstep
    have hspares := sparesSelected_of_inserts l hunits (i, now)
    refine ⟨justified_step hjustified hspares hstep, fun j => (hunits j).step hstep, ?_⟩
    rcases Calls.step_cases hstep with ⟨next, -, rfl⟩ | ⟨w, next, hw, rfl⟩
    · exact hsum
    · rw [Calls.added_write]
      refine (LogCall.countedRequests_run (hjustified.ready i w next hw) ?_ now).trans ?_
      · intro cutoff hprune
        have hunit := hunits i
        rw [hw, hprune] at hunit
        rcases hunit with ⟨-, ⟨-, id, hcall⟩ | ⟨row, hcall, -⟩, -⟩ | ⟨m, a, -, -, hret⟩
        all_goals contradiction
      · rw [hsum, add_assoc]

/-- Any calls of `InsertLog` and `PruneDataRetention`, with their statements in any
order, in a run in which no pruning deletes a row that a call has selected: a call
of `InsertLog` that has returned made one write, which added a row with a count of
one or, for a failed request of ordinary traffic with an error, added one to the
count of a row that was there.  When nothing is pruned, the counts of the rows of
such requests sum up to the calls for them. -/
theorem folding_loses_nothing [Fintype ι] (hsound : s.Sound)
    (hfresh : ∀ i l, req i = .insertLog l → l.Fresh)
    (h : Runs.exec (Calls.step LogCall.run) (Calls.start s fun i => (req i).program t) tr = some c)
    (hspares : Runs.Along (Calls.step LogCall.run) SparesSelected
      (Calls.start s fun i => (req i).program t) tr) :
    (∀ i l, req i = .insertLog l → (c.left i).returned = true →
      ∃ m, c.made i = [m] ∧ (AddsRow m.before (m.call.run m.env m.before) ∨
        l.counted = true ∧ Increments m.before (m.call.run m.env m.before))) ∧
    ((∀ i, ∃ l, req i = .insertLog l) →
      c.shared.countedRequests =
        s.countedRequests + (Finset.univ.filter fun i => Folds req c i = true).card) := by
  have hunits : ∀ i l, req i = .insertLog l → Calls.Accounts l.Unit (c.made i) (c.left i) := by
    intro i l hreq
    refine Calls.exec_once h ?_
    show ((req i).program t).Once l.Unit
    rw [hreq]
    exact once_insertLog t (hfresh i l hreq)
  constructor
  · intro i l hreq hreturned
    have hunit := hunits i l hreq
    cases hleft : c.left i with
    | ret a =>
      rw [hleft] at hunit
      obtain ⟨m, hmade, hm⟩ := hunit.of_ret
      have hright := (justified_logCalls hsound hfresh h hspares).made i m (by simp [hmade])
      exact ⟨m, hmade, unit_accounts hm hright.2⟩
    | read next => simp [hleft, Prog.returned] at hreturned
    | write w next => simp [hleft, Prog.returned] at hreturned
  · intro hinserts
    choose l hl using hinserts
    have hprogram : (fun i => (req i).program t) = fun i => insertLog t (l i) := by
      funext i
      rw [hl i]
      rfl
    rw [hprogram] at h
    rw [countedRequests_exec l hsound (fun i => hfresh i (l i) (hl i)) h,
      Calls.added_eq_sum _ c fun i => sum_units (hunits i (l i) (hl i)),
      Finset.natCast_card_filter]
    simp only [Folds, hl]

end Together

/-! ## Runs -/

/-- Text functions for the runs below; the digest keeps the whole text. -/
def plainText : TextFuncs := ⟨toLower, id⟩

/-- A request that failed. -/
def failedRequest : RequestLog := { statusCode := 500, errorMessage := lit "boom" }

/-- The clock at a time of the first days of July 2026. -/
def julyClock (d h m : Nat) : Clock :=
  let s := Fields.seconds ⟨2026, 7, d, h, m, 0⟩
  if hs : s * second < maxSeconds * second then ⟨s * second, hs⟩ else default

/-- The end of a run of the calls, when each of its steps can be made. -/
def logRun {n : Nat} (req : Fin n → LogRequest) (tr : List (Fin n × Clock)) :
    Option (Calls (Fin n) Clock Archive LogCall Unit) :=
  Runs.exec (Calls.step LogCall.run)
    (Calls.start default fun i => (req i).program plainText) tr

/-- Two failures at the same time: each looks for a row before the other has
added one. -/
def twoFailures : List (Fin 2 × Clock) :=
  (List.replicate 5 (julyClock 1 12 0)).flatMap fun now => [(0, now), (1, now)]

/-- The end of the two failures. -/
def twoFailuresEnd : Calls (Fin 2) Clock Archive LogCall Unit :=
  (logRun (fun _ => .insertLog failedRequest) twoFailures).get (by decide +kernel)

theorem two_failures_counted :
    twoFailuresEnd.shared.countedRequests = (default : Archive).countedRequests +
      (Finset.univ.filter fun i =>
        Folds (fun _ => .insertLog failedRequest) twoFailuresEnd i = true).card :=
  have hfresh : failedRequest.Fresh := ⟨rfl, rfl⟩
  have hsound : (default : Archive).Sound := fun _ hr => absurd hr List.not_mem_nil
  have hrun : logRun (fun _ => .insertLog failedRequest) twoFailures = some twoFailuresEnd :=
    (Option.some_get _).symm
  (folding_loses_nothing hsound (fun _ _ hl => LogRequest.insertLog.inj hl ▸ hfresh) hrun
    (along_of_inserts (fun _ => failedRequest) (fun _ => hfresh) twoFailures)).2
    fun _ => ⟨failedRequest, rfl⟩

/-- A failure, the same failure within a day, and a pruning of what is older than a
day. -/
def prunedCalls : Fin 3 → LogRequest
  | 0 => .insertLog failedRequest
  | 1 => .insertLog failedRequest
  | 2 => .pruneDataRetention 1

/-- The second failure selects the row of the first, the pruning deletes it, and
then the second failure updates it. -/
def prunedRun : List (Fin 3 × Clock) :=
  List.replicate 5 (0, julyClock 1 12 0) ++ List.replicate 3 (1, julyClock 2 11 59) ++
    List.replicate 2 (2, julyClock 2 12 1) ++ [(1, julyClock 2 12 2)]

/-- The end of that run. -/
def prunedEnd : Calls (Fin 3) Clock Archive LogCall Unit :=
  (logRun prunedCalls prunedRun).get (by decide +kernel)

/-- The second call has returned and nothing accounts for its request. -/
theorem pruned_fold_is_lost :
    prunedEnd.shared.requestLogs.rows.length = 0 ∧ failedRequest.counted = true ∧
      (prunedEnd.left 1).returned = true ∧
      ¬ ∃ m, prunedEnd.made 1 = [m] ∧ (AddsRow m.before (m.call.run m.env m.before) ∨
        Increments m.before (m.call.run m.env m.before)) := by
  have hwrites : (prunedEnd.made 1).map (fun m =>
      (m.before.requestLogs.rows.length, (m.call.run m.env m.before).requestLogs.rows.length)) =
        [(0, 0)] := by
    decide +kernel
  refine ⟨by decide +kernel, by decide +kernel, by decide +kernel, ?_⟩
  rintro ⟨m, hmade, hunit⟩
  rw [hmade] at hwrites
  obtain ⟨hbefore, hafter⟩ := Prod.mk.inj (List.singleton_inj.mp hwrites)
  rcases hunit with ⟨row, -, -, hrows⟩ | ⟨row, now, latencyMs, hmem, -⟩
  · simp [hrows] at hafter
  · rw [List.length_eq_zero_iff.mp hbefore] at hmem
    contradiction

end Lune.Store
