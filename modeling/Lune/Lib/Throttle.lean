import Lune.Lib.Keyed
import Mathlib.Algebra.Ring.Nat

/-!
# A log that folds repeats

A line of a key is printed when the last one is at least `gap` old, and says how many calls
of the key have been passed over since.  Calls come in any order of their times: each has read
the clock before its turn came.
-/

namespace Throttle

open Keyed

variable {κ : Type} [DecidableEq κ]

/-- The time of the last line of a key, and the calls passed over since. -/
structure Entry where
  last : Int
  suppressed : Nat := 0

/-- A line, with the number of calls that it stands for besides its own. -/
structure Line (κ : Type) where
  key : κ
  time : Int
  folded : Nat

/-- What is kept of the keys, and what has been printed. -/
structure Log (κ : Type) [DecidableEq κ] where
  entries : GoMap κ Entry := Table.empty
  lines : List (Line κ) := []

namespace Log

variable {gap : Int} {log : Log κ} {calls : List (κ × Int)} {k : κ}

/-- A call. -/
def note (gap : Int) (log : Log κ) (call : κ × Int) : Log κ :=
  match log.entries.get? call.1 with
  | some e =>
    if call.2 - e.last < gap then
      { log with entries := log.entries.put call.1 { e with suppressed := e.suppressed + 1 } }
    else
      { entries := log.entries.put call.1 { last := call.2 }
        lines := log.lines ++ [⟨call.1, call.2, e.suppressed⟩] }
  | none =>
    { entries := log.entries.put call.1 { last := call.2 }
      lines := log.lines ++ [⟨call.1, call.2, 0⟩] }

/-- The lines of a key. -/
def linesOf (log : Log κ) (k : κ) : List (Line κ) := log.lines.filter fun l => l.key = k

/-- The calls that no line stands for yet. -/
def pending (log : Log κ) (k : κ) : Nat := ((log.entries.get? k).map Entry.suppressed).getD 0

/-- The calls that the lines of a key stand for. -/
def told (log : Log κ) (k : κ) : Nat := ((log.linesOf k).map fun l => l.folded + 1).sum

/-- What holds of the log after the calls. -/
structure Sound (gap : Int) (calls : List (κ × Int)) (log : Log κ) : Prop where
  counted : ∀ k, calls.countP (fun c => c.1 = k) = log.told k + log.pending k
  spaced : ∀ k, (log.linesOf k).Pairwise fun l l' => l.time + gap ≤ l'.time
  last : ∀ k e, log.entries.get? k = some e →
    (∃ l ∈ log.linesOf k, l.time = e.last) ∧ ∀ l ∈ log.linesOf k, l.time ≤ e.last
  fresh : ∀ k, log.entries.get? k = none → log.linesOf k = []
  /-- No call is far from a line of its key. -/
  near : ∀ c ∈ calls, ∃ l ∈ log.linesOf c.1, c.2 - l.time < gap

theorem sound_start (gap : Int) : Sound gap [] ({} : Log κ) where
  counted := fun _ => rfl
  spaced := fun _ => List.Pairwise.nil
  last := fun _ _ h => by contradiction
  fresh := fun _ _ => rfl
  near := fun _ h => absurd h List.not_mem_nil

theorem countP_append_self (k : κ) (now : Int) (j : κ) :
    (calls ++ [(k, now)]).countP (fun c => c.1 = j) =
      calls.countP (fun c => c.1 = j) + if k = j then 1 else 0 := by
  rw [List.countP_append, List.countP_singleton]
  simp

/-- A call that is passed over. -/
theorem sound_suppress {now : Int} {e : Entry} (h : Sound gap calls log)
    (he : log.entries.get? k = some e) (hnear : now - e.last < gap) :
    Sound gap (calls ++ [(k, now)])
      { log with entries := log.entries.put k { e with suppressed := e.suppressed + 1 } } where
  counted := by
    intro j
    have hj := h.counted j
    rw [countP_append_self, hj]
    show log.told j + log.pending j + _ = log.told j +
      (((log.entries.put k { e with suppressed := e.suppressed + 1 }).get? j).map
        Entry.suppressed).getD 0
    rw [GoMap.get?_put]
    split
    next heq =>
      subst heq
      rw [pending, he]
      rfl
    · rfl
  spaced := h.spaced
  last := by
    intro j e' he'
    rw [GoMap.get?_put] at he'
    split at he'
    next heq =>
      subst heq
      obtain rfl := Option.some.inj he'
      exact h.last k e he
    · exact h.last j e' he'
  fresh := by
    intro j hj
    rw [GoMap.get?_put] at hj
    split at hj
    · contradiction
    · exact h.fresh j hj
  near := by
    intro c hc
    obtain hold | hnew := List.mem_append.mp hc
    · exact h.near c hold
    · obtain rfl := List.mem_singleton.mp hnew
      obtain ⟨l, hl, htime⟩ := (h.last k e he).1
      exact ⟨l, hl, by rw [htime]; exact hnear⟩

/-- A call that is printed. -/
theorem sound_print (now : Int) (hgap : 0 < gap) (h : Sound gap calls log)
    (hfar : ∀ e, log.entries.get? k = some e → e.last + gap ≤ now) :
    Sound gap (calls ++ [(k, now)])
      { entries := log.entries.put k { last := now }
        lines := log.lines ++ [⟨k, now, log.pending k⟩] } := by
  have hlines : ∀ j, linesOf
      { entries := log.entries.put k { last := now }
        lines := log.lines ++ [⟨k, now, log.pending k⟩] } j =
      log.linesOf j ++ if k = j then [⟨k, now, log.pending k⟩] else [] := by
    intro j
    unfold linesOf
    rw [List.filter_append]
    congr 1
    by_cases hj : k = j
    · simp [hj]
    · simp [hj]
  have hold : ∀ l ∈ log.linesOf k, l.time + gap ≤ now := by
    intro l hl
    cases he : log.entries.get? k with
    | none =>
      rw [h.fresh k he] at hl
      exact absurd hl List.not_mem_nil
    | some e =>
      have := (h.last k e he).2 l hl
      have := hfar e he
      omega
  constructor
  · intro j
    have hj := h.counted j
    rw [countP_append_self, hj]
    show _ = ((linesOf _ j).map fun l => l.folded + 1).sum + (((log.entries.put k { last := now }).get? j).map Entry.suppressed).getD 0
    rw [hlines, GoMap.get?_put]
    split
    next heq =>
      subst heq
      rw [List.map_append, List.sum_append]
      show log.told k + log.pending k + 1 = log.told k + (log.pending k + 1) + 0
      omega
    · rw [List.append_nil]
      rfl
  · intro j
    rw [hlines]
    split
    next heq =>
      subst heq
      refine List.pairwise_append.mpr ⟨h.spaced k, List.pairwise_singleton _ _, ?_⟩
      intro l hl l' hl'
      rw [List.mem_singleton.mp hl']
      exact hold l hl
    · rw [List.append_nil]
      exact h.spaced j
  · intro j e he
    rw [hlines]
    rw [GoMap.get?_put] at he
    split at he
    next heq =>
      subst heq
      obtain rfl := Option.some.inj he
      rw [if_pos rfl]
      refine ⟨⟨_, List.mem_append_right _ (List.mem_singleton_self _), rfl⟩, fun l hl => ?_⟩
      obtain hl | hl := List.mem_append.mp hl
      · have := hold l hl
        show l.time ≤ now
        omega
      · obtain rfl := List.mem_singleton.mp hl
        exact Int.le_refl now
    next hne =>
      rw [if_neg hne, List.append_nil]
      exact h.last j e he
  · intro j hj
    rw [GoMap.get?_put] at hj
    split at hj
    · contradiction
    next hne =>
      rw [hlines, if_neg hne, List.append_nil]
      exact h.fresh j hj
  · intro c hc
    rw [hlines]
    obtain hc | hc := List.mem_append.mp hc
    · obtain ⟨l, hl, hnear⟩ := h.near c hc
      exact ⟨l, List.mem_append_left _ hl, hnear⟩
    · obtain rfl := List.mem_singleton.mp hc
      rw [if_pos rfl]
      refine ⟨_, List.mem_append_right _ (List.mem_singleton_self _), ?_⟩
      show now - now < gap
      omega

theorem note_sound (hgap : 0 < gap) (h : Sound gap calls log) (call : κ × Int) :
    Sound gap (calls ++ [call]) (log.note gap call) := by
  obtain ⟨k, now⟩ := call
  unfold note
  dsimp only
  split
  next e he =>
    split
    next hnear => exact sound_suppress h he hnear
    next hfar =>
      have hpending : log.pending k = e.suppressed := by rw [pending, he]; rfl
      have hprint := sound_print now hgap h fun e' he' => by
        rw [he] at he'
        obtain rfl := Option.some.inj he'
        omega
      rw [hpending] at hprint
      exact hprint
  next hnone =>
    have hpending : log.pending k = 0 := by rw [pending, hnone]; rfl
    have hprint := sound_print now hgap h fun e he => by
      rw [hnone] at he
      contradiction
    rw [hpending] at hprint
    exact hprint

theorem foldl_sound (hgap : 0 < gap) (h : Sound gap calls log) (next : List (κ × Int)) :
    Sound gap (calls ++ next) (next.foldl (note gap) log) := by
  induction next generalizing calls log with
  | nil =>
    rw [List.append_nil]
    exact h
  | cons call next ih =>
    have hnext := ih (note_sound hgap h call)
    rw [List.append_assoc] at hnext
    exact hnext

theorem run_sound (hgap : 0 < gap) (calls : List (κ × Int)) :
    Sound gap calls (calls.foldl (note gap) {}) :=
  foldl_sound hgap (sound_start gap) calls

end Log

end Throttle
