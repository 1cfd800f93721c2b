import Lune.Lib.GoText
import Lune.Lib.Throttle

/-!
# The access log

`logAccessRequest` of `internal/httpserver/server.go`: requests with the method, the path and the
status of one that was logged in the last five seconds are counted and not logged.  The handlers
of the requests read the clock first and take the lock afterwards, in any order.
-/

namespace Lune.HttpServer

open GoText Keyed Throttle

/-! ## The log -/

/-- What tells the lines of the log apart. -/
structure Served where
  method : Str
  path : Str
  status : Int
deriving DecidableEq

/-- A call of `logAccessRequest`, with the time that it has read. -/
structure AccessCall where
  request : Served
  now : Int
  durationMs : Int

/-- The line that a call logs. -/
structure AccessLine where
  warning : Bool
  request : Served
  time : Int
  durationMs : Int
  suppressedRepeats : Option Nat

/-- The key of `accessLogDedup.entries`. -/
def accessLogKey (r : Served) : Str := r.method ++ lit " " ++ r.path ++ lit " " ++ itoa r.status

/-- Five seconds. -/
def accessLogGap : Int := 5 * 1000000000

/-- `accessLogDedup.entries`, and the lines so far. -/
structure AccessLog where
  entries : GoMap Str Throttle.Entry := Table.empty
  lines : List AccessLine := []

namespace AccessLog

/-- The line of a call that is logged. -/
def line (c : AccessCall) (suppressed : Nat) : AccessLine where
  warning := decide (500 ≤ c.request.status)
  request := c.request
  time := c.now
  durationMs := c.durationMs
  suppressedRepeats := if 0 < suppressed then some suppressed else none

/-- `logAccessRequest`. -/
def logAccessRequest (log : AccessLog) (c : AccessCall) : AccessLog :=
  let key := accessLogKey c.request
  match log.entries.get? key with
  | some entry =>
    if c.now - entry.last < accessLogGap then
      { log with entries := log.entries.put key { entry with suppressed := entry.suppressed + 1 } }
    else
      { entries := log.entries.put key { last := c.now }
        lines := log.lines ++ [line c entry.suppressed] }
  | none =>
    -- the zero time is longer ago than any duration
    { entries := log.entries.put key { last := c.now }
      lines := log.lines ++ [line c 0] }

/-- The lines of a request. -/
def linesOf (log : AccessLog) (r : Served) : List AccessLine :=
  log.lines.filter fun l => l.request = r

/-- The requests that no line stands for yet. -/
def pending (log : AccessLog) (r : Served) : Nat :=
  ((log.entries.get? (accessLogKey r)).map Throttle.Entry.suppressed).getD 0

end AccessLog

/-! ## The keys -/

theorem append_blank_inj {a b c d : Str} (ha : (32 : UInt8) ∉ a) (hb : (32 : UInt8) ∉ b)
    (h : a ++ 32 :: c = b ++ 32 :: d) : a = b ∧ c = d := by
  induction a generalizing b with
  | nil =>
    cases b with
    | nil => exact ⟨rfl, (List.cons.inj h).2⟩
    | cons y b =>
      rw [← (List.cons.inj h).1] at hb
      exact absurd List.mem_cons_self hb
  | cons x a ih =>
    cases b with
    | nil =>
      rw [(List.cons.inj h).1] at ha
      exact absurd List.mem_cons_self ha
    | cons y b =>
      obtain ⟨rfl, hrest⟩ := List.cons.inj h
      obtain ⟨rfl, rfl⟩ := ih (fun hx => ha (List.mem_cons_of_mem _ hx))
        (fun hy => hb (List.mem_cons_of_mem _ hy)) hrest
      exact ⟨rfl, rfl⟩

theorem digits_inj {n m : Nat} (h : digits n = digits m) : n = m := by
  have hn := parseDigits_digits n
  rw [h, parseDigits_digits m] at hn
  exact (Option.some.inj hn).symm

theorem itoa_inj {n m : Int} (h : itoa n = itoa m) : n = m := by
  have hsign : ∀ k rest, digits k ≠ 45 :: rest := fun k rest heq =>
    absurd (isDigit_of_mem_digits (heq ▸ List.mem_cons_self : (45 : UInt8) ∈ digits k)) (by decide)
  unfold itoa at h
  split at h <;> split at h
  · have := digits_inj (List.cons.inj h).2
    omega
  · exact absurd h.symm (hsign _ _)
  · exact absurd h (hsign _ _)
  · have := digits_inj h
    omega

/-- The path may have blanks, the method and the status have none. -/
theorem accessLogKey_inj {r r' : Served} (hr : (32 : UInt8) ∉ r.method)
    (hr' : (32 : UInt8) ∉ r'.method) (h : accessLogKey r = accessLogKey r') : r = r' := by
  obtain ⟨method, path, status⟩ := r
  obtain ⟨method', path', status'⟩ := r'
  have hkey : ∀ m p s, accessLogKey ⟨m, p, s⟩ = m ++ 32 :: (p ++ 32 :: itoa s) := by
    intro m p s
    have hblank : lit " " = [32] := by decide
    rw [accessLogKey, hblank]
    simp
  rw [hkey, hkey] at h
  obtain ⟨rfl, hrest⟩ := append_blank_inj hr hr' h
  have hback := congrArg List.reverse hrest
  simp only [List.reverse_append, List.reverse_cons, List.append_assoc, List.singleton_append] at hback
  obtain ⟨hstatus, hpath⟩ := append_blank_inj
    (fun hmem => blank_not_mem_itoa status (List.mem_reverse.mp hmem))
    (fun hmem => blank_not_mem_itoa status' (List.mem_reverse.mp hmem)) hback
  rw [List.reverse_injective hpath, itoa_inj (List.reverse_injective hstatus)]

/-! ## Every request is told of -/

namespace AccessLog

/-- The log by its keys. -/
def throttled (log : AccessLog) : Throttle.Log Str where
  entries := log.entries
  lines := log.lines.map fun l => ⟨accessLogKey l.request, l.time, l.suppressedRepeats.getD 0⟩

theorem repeats_line (c : AccessCall) (n : Nat) : (line c n).suppressedRepeats.getD 0 = n := by
  unfold line
  dsimp only
  split
  · rfl
  next hzero => exact (Nat.eq_zero_of_not_pos hzero).symm

theorem throttled_logAccessRequest (log : AccessLog) (c : AccessCall) :
    (log.logAccessRequest c).throttled =
      log.throttled.note accessLogGap (accessLogKey c.request, c.now) := by
  have hlookup : log.throttled.entries.get? (accessLogKey c.request) =
      log.entries.get? (accessLogKey c.request) := rfl
  rw [logAccessRequest, Throttle.Log.note, hlookup]
  cases log.entries.get? (accessLogKey c.request) with
  | none =>
    simp only [throttled, List.map_append, List.map_cons, List.map_nil, repeats_line]
    rfl
  | some entry =>
    by_cases hnear : c.now - entry.last < accessLogGap
    · simp only [if_pos hnear]
      rfl
    · simp only [if_neg hnear, throttled, List.map_append, List.map_cons, List.map_nil,
        repeats_line]
      rfl

theorem throttled_foldl (log : AccessLog) (calls : List AccessCall) :
    (calls.foldl logAccessRequest log).throttled =
      (calls.map fun c => (accessLogKey c.request, c.now)).foldl
        (Throttle.Log.note accessLogGap) log.throttled := by
  induction calls generalizing log with
  | nil => rfl
  | cons c calls ih => rw [List.foldl_cons, ih, throttled_logAccessRequest]; rfl

theorem request_of_line {log : AccessLog} {calls : List AccessCall} {l : AccessLine}
    (h : l ∈ (calls.foldl logAccessRequest log).lines) :
    l ∈ log.lines ∨ ∃ c ∈ calls, l.request = c.request := by
  induction calls generalizing log with
  | nil => exact .inl h
  | cons c calls ih =>
    obtain hmid | ⟨c', hc', heq⟩ := ih h
    · have hlast : l ∈ log.lines ∨ ∃ n, l = line c n := by
        unfold logAccessRequest at hmid
        dsimp only at hmid
        split at hmid
        · split at hmid
          · exact .inl hmid
          · exact (List.mem_append.mp hmid).imp_right fun h => ⟨_, List.mem_singleton.mp h⟩
        · exact (List.mem_append.mp hmid).imp_right fun h => ⟨_, List.mem_singleton.mp h⟩
      obtain hold | ⟨n, rfl⟩ := hlast
      · exact .inl hold
      · exact .inr ⟨c, List.mem_cons_self, rfl⟩
    · exact .inr ⟨c', List.mem_cons_of_mem c hc', heq⟩

/-- What the log says of the calls that are about a request. -/
structure Accounts (calls : List AccessCall) (r : Served) (log : AccessLog) : Prop where
  /-- Each is a line, or one of the repeats of a line, or one that waits for the next line. -/
  counted : calls.countP (fun c => c.request = r) =
    ((log.linesOf r).map fun l => l.suppressedRepeats.getD 0 + 1).sum + log.pending r
  spaced : (log.linesOf r).Pairwise fun l l' => l.time + accessLogGap ≤ l'.time
  near : ∀ c ∈ calls, c.request = r → ∃ l ∈ log.linesOf r, c.now - l.time < accessLogGap

/-- In whatever order the calls take the lock, no request is lost. -/
theorem accounts_of_calls {calls : List AccessCall} (hcalls : ∀ c ∈ calls, (32 : UInt8) ∉ c.request.method)
    {r : Served} (hr : (32 : UInt8) ∉ r.method) :
    Accounts calls r (calls.foldl logAccessRequest {}) := by
  have hsound := @Throttle.Log.run_sound _ _ accessLogGap (by decide)
    (calls.map fun c => (accessLogKey c.request, c.now))
  have hstart : ({} : Throttle.Log Str) = ({} : AccessLog).throttled := rfl
  rw [hstart, ← throttled_foldl] at hsound
  have hrequest : ∀ c ∈ calls, (accessLogKey c.request = accessLogKey r ↔ c.request = r) :=
    fun c hc => ⟨accessLogKey_inj (hcalls c hc) hr, fun heq => heq ▸ rfl⟩
  have hlines : (calls.foldl logAccessRequest {}).throttled.linesOf (accessLogKey r) =
      ((calls.foldl logAccessRequest {}).linesOf r).map fun l =>
        ⟨accessLogKey l.request, l.time, l.suppressedRepeats.getD 0⟩ := by
    unfold Throttle.Log.linesOf linesOf throttled
    rw [List.filter_map]
    refine congrArg _ (List.filter_congr fun l hl => ?_)
    obtain hnone | ⟨c, hc, heq⟩ := request_of_line hl
    · exact absurd hnone List.not_mem_nil
    · have hkey : accessLogKey l.request = accessLogKey r ↔ l.request = r := by
        rw [heq]
        exact hrequest c hc
      exact decide_eq_decide.mpr hkey
  refine ⟨?_, ?_, fun c hc hcr => ?_⟩
  · have hcount := hsound.counted (accessLogKey r)
    rw [List.countP_map] at hcount
    have hsame : calls.countP (fun c => c.request = r) =
        calls.countP ((fun c : Str × Int => decide (c.1 = accessLogKey r)) ∘
          fun c => (accessLogKey c.request, c.now)) :=
      List.countP_congr fun c hc => by
        rw [Function.comp, decide_eq_true_iff, decide_eq_true_iff]
        exact (hrequest c hc).symm
    rw [hsame, hcount, Throttle.Log.told, hlines, List.map_map]
    rfl
  · have hspaced := hsound.spaced (accessLogKey r)
    rw [hlines, List.pairwise_map] at hspaced
    exact hspaced
  · obtain ⟨l, hl, hnear⟩ := hsound.near _ (List.mem_map_of_mem hc)
    rw [hcr] at hl
    dsimp only at hl hnear
    rw [hlines] at hl
    obtain ⟨l', hl', rfl⟩ := List.mem_map.mp hl
    exact ⟨l', hl', hnear⟩

/-- A page that a browser asks for again and again, with its milliseconds. -/
def polling : List AccessCall :=
  [0, 1000, 900, 6000].map fun ms =>
    { request := ⟨lit "GET", lit "/admin/api/overview", 200⟩, now := ms * 1000000, durationMs := 3 }

theorem polling_accounts :
    Accounts polling ⟨lit "GET", lit "/admin/api/overview", 200⟩
      (polling.foldl logAccessRequest {}) :=
  accounts_of_calls (by decide) (by decide)

/-- The last of the four is logged with the two before it. -/
example : ((polling.foldl logAccessRequest {}).lines.map fun l => l.suppressedRepeats) =
    [none, some 2] := by decide

end AccessLog

end Lune.HttpServer
