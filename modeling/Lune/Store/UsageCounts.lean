import Lune.Store.LogFolding
import Lune.Store.UsageStats
import Mathlib.Data.Rat.Lemmas

/-!
# Requests and rows

What the usage numbers say about requests that `InsertLog` logs one after the
other.  A failure that repeats one of the last day adds no row, and the numbers
count rows, so they are the numbers of the requests exactly when nothing repeats.

A row is seen here without the columns that neither a fold nor a count looks at.
-/

namespace Lune.Store

open GoText Keyed Calendar TimeText Programs

/-! ## Lists without repeats -/

section Append

variable {α β : Type} (repeats : α → β → Bool) (f : α → β)

/-- Add the image of an element, unless it repeats one that is there. -/
def appendNew (ys : List β) (x : α) : List β := if ys.any (repeats x) then ys else ys ++ [f x]

/-- No element repeats one that is there or the image of an earlier one. -/
def NoRepeats (ys : List β) (xs : List α) : Prop :=
  (∀ x ∈ xs, ∀ y ∈ ys, repeats x y = false) ∧ xs.Pairwise fun a b => repeats b (f a) = false

variable {repeats f}

theorem noRepeats_cons {ys : List β} {x : α} {xs : List α} :
    NoRepeats repeats f ys (x :: xs) ↔
      ys.any (repeats x) = false ∧ NoRepeats repeats f (ys ++ [f x]) xs := by
  simp only [NoRepeats, List.forall_mem_cons, List.pairwise_cons, List.any_eq_false,
    List.forall_mem_append, Bool.not_eq_true, List.mem_singleton, forall_eq]
  constructor
  · rintro ⟨⟨hx, hxs⟩, hfirst, hrest⟩
    exact ⟨hx, fun a ha => ⟨hxs a ha, hfirst a ha⟩, hrest⟩
  · rintro ⟨hx, hxs, hrest⟩
    exact ⟨⟨hx, fun a ha => (hxs a ha).1⟩, fun a ha => (hxs a ha).2, hrest⟩

variable (repeats f) in
/-- What is there stays, and some of the elements are added behind it. -/
theorem foldl_appendNew_eq_append (xs : List α) (ys : List β) :
    ∃ zs, zs.Sublist (xs.map f) ∧ xs.foldl (appendNew repeats f) ys = ys ++ zs := by
  induction xs generalizing ys with
  | nil => exact ⟨[], List.Sublist.refl _, (List.append_nil ys).symm⟩
  | cons x xs ih =>
    obtain ⟨zs, hzs, heq⟩ := ih (appendNew repeats f ys x)
    rw [List.foldl_cons, heq, appendNew]
    split
    · exact ⟨zs, hzs.cons (f x), rfl⟩
    · exact ⟨f x :: zs, hzs.cons_cons (f x), by simp⟩

/-- All elements are added exactly when there are no repeats. -/
theorem foldl_appendNew_iff (xs : List α) (ys : List β) :
    (xs.foldl (appendNew repeats f) ys).length = ys.length + xs.length ↔
      NoRepeats repeats f ys xs := by
  induction xs generalizing ys with
  | nil => simp [NoRepeats]
  | cons x xs ih =>
    rw [noRepeats_cons, List.foldl_cons, appendNew]
    by_cases hany : ys.any (repeats x) = true
    · obtain ⟨zs, hzs, heq⟩ := foldl_appendNew_eq_append repeats f xs ys
      have hle := hzs.length_le
      rw [if_pos hany, hany, List.length_cons, heq, List.length_append]
      rw [List.length_map] at hle
      constructor
      · intro h
        omega
      · rintro ⟨h, -⟩
        contradiction
    · rw [if_neg hany, ← ih, List.length_append, List.length_cons, List.length_singleton]
      simp only [hany, true_and]
      omega

theorem foldl_appendNew_eq {xs : List α} {ys : List β} (h : NoRepeats repeats f ys xs) :
    xs.foldl (appendNew repeats f) ys = ys ++ xs.map f := by
  induction xs generalizing ys with
  | nil => simp
  | cons x xs ih =>
    obtain ⟨hany, hrest⟩ := noRepeats_cons.mp h
    rw [List.foldl_cons, appendNew, if_neg (by simp [hany]), ih hrest]
    simp

end Append

/-! ## Logged requests -/

/-- A request that is logged, and when. -/
structure LoggedRequest where
  record : RequestLog
  time : Clock

namespace LoggedRequest

variable (t : TextFuncs) (x : LoggedRequest)

/-- The tables after `InsertLog` for the request. -/
def insert (s : Archive) : Archive := ((insertLog t x.record).run LogCall.run x.time s).2

/-- The record as `InsertLog` completes it. -/
def complete : RequestLog := x.record.complete t x.record.storedSourceKind

/-- The row of the request when it is one of its own; its number and the label of
the account are left out. -/
def row : RequestLogRow :=
  { x.complete t |>.row x.record.storedSourceKind [] with createdAt := x.time.datetime }

/-- The request is one that is folded. -/
def folds : Bool :=
  (x.complete t).hasError && (x.complete t).errorFingerprint != [] && !x.record.diagnostic &&
    !x.record.statefulProbe

/-- The request failed as the one of the row did, less than a day ago. -/
def repeats (r : RequestLogRow) : Bool :=
  x.folds t && r.errorFingerprint == (x.complete t).errorFingerprint &&
    r.diagnostic == x.record.diagnostic && r.statefulProbe == x.record.statefulProbe &&
    r.trafficKind == (x.row t).trafficKind && decide (x.time.agoText day ≤ r.createdAt)

end LoggedRequest

/-- The tables after the requests. -/
def Archive.logAll (t : TextFuncs) (s : Archive) (xs : List LoggedRequest) : Archive :=
  xs.foldl (fun s x => x.insert t s) s

/-- The row without the columns that no fold and no count looks at. -/
def RequestLogRow.core (r : RequestLogRow) : RequestLogRow :=
  { r with
    id := 0, accountLabelSnapshot := [], errorRepeatCount := 1, errorLastSeenAt := [],
    latencyMs := 0 }

def Archive.cores (s : Archive) : List RequestLogRow := s.requestLogs.rows.map RequestLogRow.core

/-! ## What `InsertLog` does to the rows -/

theorem cores_foldRequestLog (s : Archive) (now : Clock) (id latencyMs : Int) :
    (s.foldRequestLog now id latencyMs).cores = s.cores := by
  show (s.requestLogs.rows.map _).map RequestLogRow.core = _
  rw [List.map_map]
  refine List.map_congr_left fun r _ => ?_
  show RequestLogRow.core (if r.id = id ∧ r.id = id then _ else r) = _
  split
  · rfl
  · rfl

theorem cores_insertRequestLog (s : Archive) (now : Clock) (row : RequestLogRow) :
    (s.insertRequestLog now row).cores = s.cores ++ [(s.newRequestLog now row).core] := by
  rw [Archive.cores, Archive.rows_insertRequestLog, List.map_append]
  rfl

/-- The row that an insertion adds for the record, or for the record with the time
of its error. -/
theorem cores_insertLogRow (t : TextFuncs) (x : LoggedRequest) (s : Archive) {l : RequestLog}
    (hl : l = x.complete t ∨ l = (x.complete t).seen x.time) :
    ((insertLogRow l x.record.storedSourceKind).run LogCall.run x.time s).2.cores =
      s.cores ++ [(x.row t).core] := by
  show (s.insertRequestLog x.time _).cores = _
  rw [cores_insertRequestLog]
  rcases hl with rfl | rfl
  · rfl
  · rfl

/-- A failed request is folded into the latest row it repeats. -/
theorem recentRequestLog_eq_none_iff (s : Archive) (fingerprint : Str)
    (diagnostic statefulProbe : Bool) (trafficKind since : Str) :
    s.recentRequestLog fingerprint diagnostic statefulProbe trafficKind since = none ↔
      ∀ r ∈ s.requestLogs.rows, (r.errorFingerprint == fingerprint && r.diagnostic == diagnostic &&
        r.statefulProbe == statefulProbe && r.trafficKind == trafficKind &&
        decide (since ≤ r.createdAt)) = false := by
  rw [Archive.recentRequestLog, List.max?_eq_none_iff, List.map_eq_nil_iff, List.filter_eq_nil_iff]
  simp only [Bool.not_eq_true]

theorem any_cores (s : Archive) {p : RequestLogRow → Bool} (hp : ∀ r, p r.core = p r) :
    s.cores.any p = s.requestLogs.rows.any p := by
  rw [Archive.cores, List.any_map]
  exact List.any_congr rfl fun r => hp r

theorem not_repeats_of_not_folds {t : TextFuncs} {x : LoggedRequest} (h : x.folds t = false)
    (rows : List RequestLogRow) : rows.any (x.repeats t) = false := by
  rw [List.any_eq_false]
  intro r _
  simp [LoggedRequest.repeats, h]

/-- What the `SELECT` of the fold finds for the record. -/
def RequestLog.recent (l : RequestLog) (now : Clock) (s : Archive) : Option Int :=
  s.recentRequestLog l.errorFingerprint l.diagnostic l.statefulProbe
    (normalizeRequestTrafficKind l.trafficKind l.diagnostic l.statefulProbe) (now.agoText day)

theorem recent_seen (l : RequestLog) (time now : Clock) (s : Archive) :
    (l.seen time).recent now s = l.recent now s := rfl

theorem run_insertFailedLog {l : RequestLog} (h : l.errorFingerprint ≠ [] ∧
    l.diagnostic = false ∧ l.statefulProbe = false) (sourceKind : Str) (now : Clock) (s : Archive) :
    ((insertFailedLog l sourceKind).run LogCall.run now s).2 =
      match l.recent now s with
      | some id => s.foldRequestLog now id l.latencyMs
      | none => ((insertLogRow l sourceKind).run LogCall.run now s).2 := by
  rw [insertFailedLog, if_pos h]
  simp only [foldRecentRequestLogError, Prog.run_bind, Prog.run_look]
  rw [← RequestLog.recent]
  cases l.recent now s with
  | none => rfl
  | some id => rfl

theorem repeats_iff_recent {t : TextFuncs} {x : LoggedRequest} (h : x.folds t = true)
    (s : Archive) :
    s.requestLogs.rows.any (x.repeats t) = ((x.complete t).recent x.time s).isSome := by
  rw [Bool.eq_iff_iff, Option.isSome_iff_ne_none, ne_eq, RequestLog.recent,
    recentRequestLog_eq_none_iff, List.any_eq_true]
  simp only [LoggedRequest.repeats, h, Bool.true_and, not_forall, Bool.not_eq_false, exists_prop]
  rfl

theorem insert_eq (t : TextFuncs) (x : LoggedRequest) (s : Archive) :
    x.insert t s = ((insertCompleteLog (x.complete t) x.record.storedSourceKind).run
      LogCall.run x.time s).2 := rfl

/-- `InsertLog` of a failed record that is complete goes on with the time of the
error. -/
theorem run_insertCompleteLog {l : RequestLog} (h : l.hasError = true) (sourceKind : Str)
    (now : Clock) (s : Archive) :
    (insertCompleteLog l sourceKind).run LogCall.run now s =
      (insertFailedLog (l.seen now) sourceKind).run LogCall.run now s := by
  rw [insertCompleteLog, if_pos h]
  rfl

/-- `InsertLog` for a request that is folded. -/
theorem insert_of_folds {t : TextFuncs} {x : LoggedRequest} (h : x.folds t = true)
    (s : Archive) :
    x.insert t s =
      match (x.complete t).recent x.time s with
      | some id => s.foldRequestLog x.time id x.record.latencyMs
      | none => ((insertLogRow ((x.complete t).seen x.time) x.record.storedSourceKind).run
          LogCall.run x.time s).2 := by
  simp only [LoggedRequest.folds, Bool.and_eq_true, bne_iff_ne, Bool.not_eq_true'] at h
  obtain ⟨⟨⟨herror, hfingerprint⟩, hdiagnostic⟩, hprobe⟩ := h
  rw [insert_eq, run_insertCompleteLog herror, run_insertFailedLog, recent_seen, latencyMs_seen,
    LoggedRequest.complete, latencyMs_complete]
  rw [errorFingerprint_seen, diagnostic_seen, statefulProbe_seen]
  exact ⟨hfingerprint, hdiagnostic, hprobe⟩

/-- `InsertLog` for any other request. -/
theorem insert_of_not_folds {t : TextFuncs} {x : LoggedRequest} (h : x.folds t = false)
    (s : Archive) :
    ∃ l, (l = x.complete t ∨ l = (x.complete t).seen x.time) ∧
      x.insert t s = ((insertLogRow l x.record.storedSourceKind).run LogCall.run x.time s).2 := by
  rw [insert_eq]
  by_cases herror : (x.complete t).hasError = true
  · refine ⟨(x.complete t).seen x.time, Or.inr rfl, ?_⟩
    have hcalm : ¬ (((x.complete t).seen x.time).errorFingerprint ≠ [] ∧
        ((x.complete t).seen x.time).diagnostic = false ∧
        ((x.complete t).seen x.time).statefulProbe = false) := by
      rw [errorFingerprint_seen, diagnostic_seen, statefulProbe_seen]
      rintro ⟨hfingerprint, hdiagnostic, hprobe⟩
      have hfolds : x.folds t = true := by
        simp only [LoggedRequest.folds, Bool.and_eq_true, bne_iff_ne, Bool.not_eq_true']
        exact ⟨⟨⟨herror, hfingerprint⟩, hdiagnostic⟩, hprobe⟩
      rw [hfolds] at h
      contradiction
    rw [run_insertCompleteLog herror, insertFailedLog, if_neg hcalm]
  · exact ⟨x.complete t, Or.inl rfl, by rw [insertCompleteLog, if_neg herror]⟩

/-- Alone, `InsertLog` updates one row or adds one. -/
theorem insert_cases (t : TextFuncs) (x : LoggedRequest) (s : Archive) :
    (∃ id, x.insert t s = s.foldRequestLog x.time id x.record.latencyMs) ∨
      ∃ row, x.insert t s = s.insertRequestLog x.time row := by
  cases hfolds : x.folds t with
  | true =>
    rw [insert_of_folds hfolds]
    cases (x.complete t).recent x.time s with
    | none => exact Or.inr ⟨_, rfl⟩
    | some id => exact Or.inl ⟨id, rfl⟩
  | false =>
    obtain ⟨l, -, hinsert⟩ := insert_of_not_folds hfolds s
    exact Or.inr ⟨_, hinsert⟩

/-- `InsertLog` adds the row of the request, unless it repeats one. -/
theorem cores_insert (t : TextFuncs) (x : LoggedRequest) (s : Archive) :
    (x.insert t s).cores =
      appendNew (LoggedRequest.repeats t) (fun x => (x.row t).core) s.cores x := by
  rw [appendNew, any_cores s (p := x.repeats t) fun _ => rfl]
  cases hfolds : x.folds t with
  | true =>
    rw [repeats_iff_recent hfolds, insert_of_folds hfolds]
    cases (x.complete t).recent x.time s with
    | none => exact cores_insertLogRow t x s (Or.inr rfl)
    | some id => exact cores_foldRequestLog s x.time id x.record.latencyMs
  | false =>
    obtain ⟨l, hl, hinsert⟩ := insert_of_not_folds hfolds s
    rw [not_repeats_of_not_folds hfolds, hinsert]
    exact cores_insertLogRow t x s hl

/-- The rows after the requests, without the columns that do not matter. -/
theorem cores_logAll (t : TextFuncs) (s : Archive) (xs : List LoggedRequest) :
    (s.logAll t xs).cores =
      xs.foldl (appendNew (LoggedRequest.repeats t) fun x => (x.row t).core) s.cores := by
  induction xs generalizing s with
  | nil => rfl
  | cons x xs ih =>
    rw [Archive.logAll, List.foldl_cons, List.foldl_cons, ← cores_insert]
    exact ih (x.insert t s)

/-! ## Reports -/

/-- A report with the total of the requests and their success rate. -/
inductive UsageReport where
  | overview
  | usageSummary (f : UsageFilter)
  | poolStats (poolID : Int) (window : Str)

namespace UsageReport

/-- The rows that a report counts. -/
def rows (now : Clock) : UsageReport → RequestLogRow → Bool
  | overview => overviewWhere now
  | usageSummary f => usageWhere f
  | poolStats poolID window => poolStatsWhere now poolID window

/-- The total and the success rate of a report. -/
def numbers (s : Archive) (now : Clock) : UsageReport → Option (Nat × ℚ)
  | overview => some (s.overviewToday now)
  | usageSummary f => (s.getUsageSummary f).map fun u => (u.totalRequests, u.successRate)
  | poolStats poolID window =>
    (s.getPoolStats now poolID window).map fun u => (u.totalRequests, u.successRate)

end UsageReport

theorem exists_mapM {α β : Type} {g : α → Option β} {xs : List α}
    (h : ∀ x ∈ xs, ∃ y, g x = some y) : ∃ ys, xs.mapM g = some ys := by
  induction xs with
  | nil => exact ⟨[], rfl⟩
  | cons x xs ih =>
    obtain ⟨y, hy⟩ := h x List.mem_cons_self
    obtain ⟨ys, hys⟩ := ih fun z hz => h z (List.mem_cons_of_mem x hz)
    exact ⟨y :: ys, by rw [List.mapM_cons, hy, hys]; rfl⟩

/-- A group of rows that all have an account scans. -/
theorem isSome_usageByAccount {s : Archive} {rows : List RequestLogRow}
    (h : ∀ r ∈ rows, r.accountID ≠ none) : ∃ byAccount, s.usageByAccount rows = some byAccount := by
  have hgroup : ∀ g ∈ topGroups (fun a b => nullsFirst a.1 b.1)
      (groupBy (fun r => (r.accountID, s.usageLabel r)) rows), ∃ u, scanByAccount g = some u := by
    intro g hg
    have hmem := (List.perm_insertionSort _ _).mem_iff.mp (List.mem_of_mem_take hg)
    obtain ⟨k, hk, rfl⟩ := List.mem_map.mp hmem
    obtain ⟨r, hr, rfl⟩ := List.mem_map.mp (List.mem_dedup.mp hk)
    obtain ⟨id, hid⟩ := Option.ne_none_iff_exists'.mp (h r hr)
    simp only [scanByAccount, hid]
    exact ⟨_, rfl⟩
  exact exists_mapM hgroup

/-- The numbers of a report are those of the rows it counts. -/
theorem numbers_eq {s : Archive} {now : Clock} {report : UsageReport}
    (h : ∀ r ∈ s.requestLogs.rows.filter (report.rows now), r.accountID ≠ none) :
    report.numbers s now = some (requestNumbers (s.requestLogs.rows.filter (report.rows now))) := by
  have hstats : ∀ p, (∀ r ∈ s.requestLogs.rows.filter p, r.accountID ≠ none) →
      (s.usageStats (s.requestLogs.rows.filter p)).map
      (fun u => (u.totalRequests, u.successRate)) =
        some (requestNumbers (s.requestLogs.rows.filter p)) := by
    intro p hp
    obtain ⟨byAccount, hby⟩ := isSome_usageByAccount (s := s) hp
    rw [Archive.usageStats, hby]
    rfl
  cases report with
  | overview => rfl
  | usageSummary f => exact hstats (usageWhere f) h
  | poolStats poolID window => exact hstats (poolStatsWhere now poolID window) h

/-! ## Requests and rows -/

section Requests

variable {t : TextFuncs} {s : Archive} {xs : List LoggedRequest} {now : Clock}
  {report : UsageReport}

theorem requestNumbers_core (rows : List RequestLogRow) :
    requestNumbers (rows.map RequestLogRow.core) = requestNumbers rows := by
  simp only [requestNumbers, successRate, List.length_map, List.countP_map]
  rfl

theorem filter_cores (s : Archive) {p : RequestLogRow → Bool} (hp : ∀ r, p r.core = p r) :
    (s.requestLogs.rows.filter p).map RequestLogRow.core = s.cores.filter p := by
  rw [Archive.cores, List.filter_map]
  congr 1
  exact List.filter_congr fun r _ => (hp r).symm

theorem rows_core (report : UsageReport) (now : Clock) (r : RequestLogRow) :
    report.rows now r.core = report.rows now r := by
  cases report <;> rfl

/-- No failed request repeats, within a day, the error of a row that is there or of
an earlier request. -/
def Archive.NoRepeats (t : TextFuncs) (s : Archive) (xs : List LoggedRequest) : Prop :=
  Store.NoRepeats (LoggedRequest.repeats t) (fun x => x.row t) s.requestLogs.rows xs

theorem noRepeats_cores (t : TextFuncs) (s : Archive) (xs : List LoggedRequest) :
    Store.NoRepeats (LoggedRequest.repeats t) (fun x => (x.row t).core) s.cores xs ↔
      s.NoRepeats t xs := by
  simp only [Store.NoRepeats, Archive.NoRepeats, Archive.cores, List.forall_mem_map]
  rfl

/-- The rows that a report counts after the requests. -/
theorem exists_counted_rows (hlogged : ∀ x ∈ xs, report.rows now (x.row t) = true)
    (hbefore : ∀ r ∈ s.requestLogs.rows, report.rows now r = false) :
    ∃ zs, zs.Sublist (xs.map fun x => (x.row t).core) ∧
      (s.logAll t xs).cores = s.cores ++ zs ∧
      ((s.logAll t xs).requestLogs.rows.filter (report.rows now)).map RequestLogRow.core = zs := by
  obtain ⟨zs, hzs, heq⟩ := foldl_appendNew_eq_append (LoggedRequest.repeats t)
    (fun x : LoggedRequest => (x.row t).core) xs s.cores
  have hcores : (s.logAll t xs).cores = s.cores ++ zs := (cores_logAll t s xs).trans heq
  refine ⟨zs, hzs, hcores, ?_⟩
  rw [filter_cores _ (rows_core report now), hcores, List.filter_append]
  have hold : s.cores.filter (report.rows now) = [] := by
    rw [← filter_cores s (rows_core report now), List.map_eq_nil_iff, List.filter_eq_nil_iff]
    intro r hr
    simp [hbefore r hr]
  have hnew : zs.filter (report.rows now) = zs := by
    rw [List.filter_eq_self]
    intro c hc
    obtain ⟨x, hx, rfl⟩ := List.mem_map.mp (hzs.subset hc)
    rw [rows_core, hlogged x hx]
  rw [hold, hnew, List.nil_append]

/-- Requests that are logged one after the other, in the window of a report and
after rows outside of it: the total and the success rate that the report shows are
those of the requests exactly when no failed one repeats, within a day, an error
that has a row or that an earlier request had. -/
theorem numbers_count_requests_iff (hlogged : ∀ x ∈ xs, report.rows now (x.row t) = true)
    (hbefore : ∀ r ∈ s.requestLogs.rows, report.rows now r = false) :
    report.numbers (s.logAll t xs) now = some (requestNumbers (xs.map fun x => x.row t)) ↔
      s.NoRepeats t xs := by
  obtain ⟨zs, hzs, hcores, hcounted⟩ := exists_counted_rows hlogged hbefore
  have haccount : ∀ r ∈ (s.logAll t xs).requestLogs.rows.filter (report.rows now),
      r.accountID ≠ none := by
    intro r hr
    have hmem := List.mem_map_of_mem (f := RequestLogRow.core) hr
    rw [hcounted] at hmem
    obtain ⟨x, -, hx⟩ := List.mem_map.mp (hzs.subset hmem)
    have hid : some x.record.accountID = r.accountID := congrArg RequestLogRow.accountID hx
    rw [← hid]
    exact Option.some_ne_none _
  rw [numbers_eq haccount, ← requestNumbers_core, hcounted, ← noRepeats_cores]
  constructor
  · intro h
    have hlength : zs.length = xs.length := by
      simpa [requestNumbers] using congrArg (fun n => n.map Prod.fst) h
    rw [← foldl_appendNew_iff, ← cores_logAll, hcores, List.length_append, hlength]
  · intro h
    have heq := foldl_appendNew_eq h
    rw [← cores_logAll, hcores] at heq
    rw [List.append_cancel_left heq, ← requestNumbers_core (xs.map fun x => x.row t), List.map_map]
    rfl

end Requests

/-- Two failures and a success, in the window of every report. -/
def threeRequests (firstError secondError : Str) : List LoggedRequest :=
  [⟨{ failedRequest with errorMessage := firstError }, julyClock 1 12 0⟩,
    ⟨{ failedRequest with errorMessage := secondError }, julyClock 1 12 1⟩,
    ⟨{ statusCode := 200, success := true }, julyClock 1 12 2⟩]

theorem different_failures_counted :
    UsageReport.overview.numbers ((default : Archive).logAll plainText
      (threeRequests (lit "boom") (lit "bang"))) (julyClock 1 13 0) =
        some (requestNumbers ((threeRequests (lit "boom") (lit "bang")).map fun x =>
          x.row plainText)) :=
  (numbers_count_requests_iff (s := default) (by decide +kernel) (by decide)).mpr
    ⟨by decide, by decide +kernel⟩

/-- Two equal failures and a success: every report shows two requests, one of them
successful. -/
theorem equal_failures_counted_once :
    let xs := threeRequests (lit "boom") (lit "boom")
    ∀ report ∈ [UsageReport.overview, .usageSummary { fromTime := lit "2026-07-01 00:00:00" },
        .poolStats 0 (lit "24h")],
      (∀ x ∈ xs, report.rows (julyClock 1 13 0) (x.row plainText) = true) ∧
        report.numbers ((default : Archive).logAll plainText xs) (julyClock 1 13 0) =
          some (2, 1 / 2) ∧
        requestNumbers (xs.map fun x => x.row plainText) = (3, 1 / 3) := by
  decide +kernel

end Lune.Store
