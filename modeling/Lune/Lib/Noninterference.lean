import Lune.Lib.Programs

/-!
# Programs on parts of a shared state

The state has a part that some of the threads look at, and the others do not write to it.
Then what the others do makes no difference to the part: it ends as when only the threads of
the part run, in the same order and in the same environments.

`Prog.Local` says that a program sees no more of a state than the part.  `Threads.exec_own` is
the theorem on runs; `Threads.ends_of_exec` turns the run of one thread into a run of its
program alone.
-/

namespace Programs

variable {η σ ω α β ι ν : Type}

namespace Prog

/-- States with the same part are the same to the program. -/
def Local (part : σ → ν) : Prog η σ ω α → Prop
  | ret _ => True
  | read next => ∀ e s t, part s = part t → next e s = next e t ∧ (next e s).Local part
  | write _ next => next.Local part

section Local

variable {part : σ → ν}

@[simp] theorem local_pure (a : α) : (pure a : Prog η σ ω α).Local part := trivial

/-- The second program is local on the results that the first may have. -/
theorem local_bind_of_safe {R : α → Prop} {p : Prog η σ ω α} {k : α → Prog η σ ω β}
    (hp : p.Local part) (hR : p.Safe (fun _ _ => True) (fun _ => True) R)
    (hk : ∀ a, R a → (k a).Local part) : (p >>= k).Local part := by
  show (p.bind k).Local part
  induction p with
  | ret a => exact hk a hR
  | read next ih =>
    intro e s t h
    obtain ⟨hsame, hnext⟩ := hp e s t h
    exact ⟨congrArg (fun p => p.bind k) hsame, ih e s hnext (hR e s trivial)⟩
  | write w next ih => exact ih hp hR.2

theorem local_bind {p : Prog η σ ω α} {k : α → Prog η σ ω β} (hp : p.Local part)
    (hk : ∀ a, (k a).Local part) : (p >>= k).Local part :=
  local_bind_of_safe hp (safe_true p) fun a _ => hk a

theorem local_look {f : η → σ → α} (h : ∀ e s t, part s = part t → f e s = f e t) :
    (look f : Prog η σ ω α).Local part :=
  fun e s t hpart => ⟨congrArg ret (h e s t hpart), trivial⟩

/-- What is read need not be the same when the rest of the program is. -/
theorem local_look_bind {f : η → σ → α} {k : α → Prog η σ ω β}
    (h : ∀ e s t, part s = part t → k (f e s) = k (f e t)) (hk : ∀ a, (k a).Local part) :
    (look f >>= k).Local part :=
  fun e s t hpart => ⟨h e s t hpart, hk (f e s)⟩

theorem local_ite {c : Prop} [Decidable c] {p q : Prog η σ ω α} (hp : p.Local part)
    (hq : q.Local part) : (if c then p else q).Local part := by
  split
  · exact hp
  · exact hq

theorem local_writes (ws : List ω) : (writes ws : Prog η σ ω Unit).Local part := by
  induction ws with
  | nil => trivial
  | cons w ws ih => exact ih

end Local

end Prog

/-- The thread of an event. -/
def Event.thread : Event ι η σ ω → ι
  | .start i _ | .act i _ => i

namespace Threads

variable [DecidableEq ι] {apply : η → σ → ω → σ}

/-- What a step does. -/
inductive Steps (apply : η → σ → ω → σ) (t : Threads ι η σ ω) :
    Event ι η σ ω → Threads ι η σ ω → Prop where
  | start {i : ι} (h : t.thread i = .ret ()) (p : Prog η σ ω Unit) :
    Steps apply t (.start i p) ⟨t.shared, Function.update t.thread i p⟩
  | read {i : ι} {next : η → σ → Prog η σ ω Unit} (h : t.thread i = .read next) (e : η) :
    Steps apply t (.act i e) ⟨t.shared, Function.update t.thread i (next e t.shared)⟩
  | write {i : ι} {w : ω} {next : Prog η σ ω Unit} (h : t.thread i = .write w next) (e : η) :
    Steps apply t (.act i e) ⟨apply e t.shared w, Function.update t.thread i next⟩

theorem steps_of_step {t u : Threads ι η σ ω} {ev : Event ι η σ ω} (h : step apply t ev = some u) :
    Steps apply t ev u := by
  cases ev with
  | start i p =>
    rw [step] at h
    split at h
    next heq =>
      obtain rfl := Option.some.inj h
      exact .start heq p
    all_goals contradiction
  | act i e =>
    rw [step] at h
    split at h
    · contradiction
    next next heq =>
      obtain rfl := Option.some.inj h
      exact .read heq e
    next w next heq =>
      obtain rfl := Option.some.inj h
      exact .write heq e

theorem Steps.step {t u : Threads ι η σ ω} {ev : Event ι η σ ω} (h : Steps apply t ev u) :
    step apply t ev = some u := by
  cases h with
  | start h p => rw [Threads.step, h]
  | read h e => rw [Threads.step, h]
  | write h e => rw [Threads.step, h]

/-- A step changes the thread of its event only. -/
theorem thread_step {t u : Threads ι η σ ω} {ev : Event ι η σ ω} (h : step apply t ev = some u)
    {j : ι} (hj : j ≠ ev.thread) : u.thread j = t.thread j := by
  cases steps_of_step h <;> exact Function.update_of_ne hj _ t.thread

/-! ## The threads of a part -/

section Part

variable {part : σ → ν} {mine : ι → Bool} {W : ω → Prop}

/-- The threads of the part look at the part, and the others do not write to it. -/
structure Parted (part : σ → ν) (mine : ι → Bool) (W : ω → Prop) (i : ι) (p : Prog η σ ω Unit) :
    Prop where
  own : mine i = true → p.Local part
  other : mine i = false → p.Safe (fun _ _ => True) (fun w => ¬W w) fun _ => True

/-- The part and its threads are the same. -/
structure Agrees (part : σ → ν) (mine : ι → Bool) (t u : Threads ι η σ ω) : Prop where
  part : part t.shared = part u.shared
  thread : ∀ i, mine i = true → t.thread i = u.thread i

/-- A step of another thread makes no difference. -/
theorem agrees_other {t t' u : Threads ι η σ ω} {ev : Event ι η σ ω}
    (hother : ∀ e s w, ¬W w → part (apply e s w) = part s) (h : Steps apply t ev u)
    (ht : ∀ i, Parted part mine W i (t.thread i)) (hmine : mine ev.thread = false)
    (hagrees : Agrees part mine t t') : Agrees part mine u t' := by
  have hrest : ∀ (p : Prog η σ ω Unit) (j : ι), mine j = true →
      Function.update t.thread ev.thread p j = t'.thread j := by
    intro p j hj
    have hne : j ≠ ev.thread := by
      intro heq
      rw [← heq, hj] at hmine
      contradiction
    rw [Function.update_of_ne hne]
    exact hagrees.thread j hj
  cases h with
  | start h p => exact ⟨hagrees.part, hrest p⟩
  | read h e => exact ⟨hagrees.part, hrest _⟩
  | @write i w next h e =>
    have hsafe := (ht i).other hmine
    rw [h] at hsafe
    exact ⟨(hother e t.shared w hsafe.1).trans hagrees.part, hrest _⟩

/-- A step of a thread of the part is made on both sides. -/
theorem agrees_own {t t' u : Threads ι η σ ω} {ev : Event ι η σ ω}
    (hpart : ∀ e s s' w, part s = part s' → part (apply e s w) = part (apply e s' w))
    (h : Steps apply t ev u) (ht : ∀ i, Parted part mine W i (t.thread i))
    (hmine : mine ev.thread = true) (hagrees : Agrees part mine t t') :
    ∃ u', Steps apply t' ev u' ∧ Agrees part mine u u' := by
  have hthread := hagrees.thread ev.thread hmine
  have hupdate : ∀ (p : Prog η σ ω Unit) (j : ι), mine j = true →
      Function.update t.thread ev.thread p j = Function.update t'.thread ev.thread p j := by
    intro p j hj
    rw [Function.update_apply, Function.update_apply, hagrees.thread j hj]
  cases h with
  | start h p => exact ⟨_, .start (hthread.symm.trans h) p, hagrees.part, hupdate p⟩
  | @read i next h e =>
    have hlocal := (ht i).own hmine
    rw [h] at hlocal
    have hsame := (hlocal e t.shared t'.shared hagrees.part).1
    refine ⟨_, .read (hthread.symm.trans h) e, hagrees.part, ?_⟩
    rw [hsame]
    exact hupdate _
  | write h e =>
    exact ⟨_, .write (hthread.symm.trans h) e, hpart e t.shared t'.shared _ hagrees.part,
      hupdate _⟩

theorem parted_step {t u : Threads ι η σ ω} {ev : Event ι η σ ω} (h : Steps apply t ev u)
    (ht : ∀ i, Parted part mine W i (t.thread i))
    (hstart : ∀ i p, ev = .start i p → Parted part mine W i p) (i : ι) :
    Parted part mine W i (u.thread i) := by
  have hupdate : ∀ (j : ι) (p : Prog η σ ω Unit), Parted part mine W j p →
      Parted part mine W i (Function.update t.thread j p i) := by
    intro j p hp
    by_cases heq : i = j
    · subst heq
      rwa [Function.update_self]
    · rw [Function.update_of_ne heq]
      exact ht i
  cases h with
  | start h p => exact hupdate _ p (hstart _ p rfl)
  | @read j next h e =>
    have hj := h ▸ ht j
    exact hupdate j _ ⟨fun hmine => (hj.own hmine e t.shared t.shared rfl).2,
      fun hmine => hj.other hmine e t.shared trivial⟩
  | @write j w next h e =>
    have hj := h ▸ ht j
    exact hupdate j _ ⟨hj.own, fun hmine => (hj.other hmine).2⟩

/-- The part and its threads end as when the other threads do nothing. -/
theorem exec_own {t t' u : Threads ι η σ ω} {evs : List (Event ι η σ ω)}
    (hother : ∀ e s w, ¬W w → part (apply e s w) = part s)
    (hpart : ∀ e s s' w, part s = part s' → part (apply e s w) = part (apply e s' w))
    (h : Runs.exec (step apply) t evs = some u) (ht : ∀ i, Parted part mine W i (t.thread i))
    (hstarts : ∀ i p, .start i p ∈ evs → Parted part mine W i p)
    (hagrees : Agrees part mine t t') :
    ∃ u', Runs.exec (step apply) t' (evs.filter fun ev => mine ev.thread) = some u' ∧
      Agrees part mine u u' := by
  induction evs generalizing t t' with
  | nil =>
    obtain rfl := Option.some.inj h
    exact ⟨t', rfl, hagrees⟩
  | cons ev evs ih =>
    obtain ⟨v, hv, hrest⟩ := Option.bind_eq_some_iff.mp h
    have hsteps := steps_of_step hv
    have hparted := parted_step hsteps ht fun i p heq => hstarts i p (heq ▸ List.mem_cons_self)
    have hlater : ∀ i p, .start i p ∈ evs → Parted part mine W i p := fun i p hp =>
      hstarts i p (List.mem_cons_of_mem ev hp)
    cases hmine : mine ev.thread with
    | true =>
      obtain ⟨v', hv', hnext⟩ := agrees_own hpart hsteps ht hmine hagrees
      obtain ⟨u', hu', hend⟩ := ih hrest hparted hlater hnext
      refine ⟨u', ?_, hend⟩
      rw [List.filter_cons, hmine, if_pos rfl, Runs.exec, hv'.step]
      exact hu'
    | false =>
      have hnext := agrees_other hother hsteps ht hmine hagrees
      obtain ⟨u', hu', hend⟩ := ih hrest hparted hlater hnext
      refine ⟨u', ?_, hend⟩
      rw [List.filter_cons, hmine, if_neg Bool.false_ne_true]
      exact hu'

end Part

/-! ## One thread -/

/-- When the steps of a run are all of one thread, and it has come to its end, its program
has run alone. -/
theorem ends_of_exec {t u : Threads ι η σ ω} {evs : List (Event ι η σ ω)} {i : ι}
    (h : Runs.exec (step apply) t evs = some u) (hacts : ∀ ev ∈ evs, ∃ e, ev = .act i e)
    (hend : u.thread i = .ret ()) : (t.thread i).Ends apply t.shared () u.shared := by
  induction evs generalizing t with
  | nil =>
    obtain rfl := Option.some.inj h
    rw [hend]
    exact .ret () _
  | cons ev evs ih =>
    obtain ⟨v, hv, hrest⟩ := Option.bind_eq_some_iff.mp h
    obtain ⟨e, rfl⟩ := hacts ev List.mem_cons_self
    have hlater := ih hrest fun ev hev => hacts ev (List.mem_cons_of_mem _ hev)
    cases steps_of_step hv with
    | read h =>
      dsimp only at hlater
      rw [Function.update_self] at hlater
      rw [h]
      exact .read e hlater
    | write h =>
      dsimp only at hlater
      rw [Function.update_self] at hlater
      rw [h]
      exact .write e hlater

end Threads

end Programs
