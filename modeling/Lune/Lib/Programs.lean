import Lune.Lib.Runs
import Mathlib.Algebra.Ring.Int.Defs
import Mathlib.Logic.Function.Basic

/-!
# Programs on a shared state

A program reads the shared state and writes to it in atomic steps: `Prog` is the
tree of what it may still do.  Each step also sees an environment, such as the
clock, which the program does not choose.  Writes are named, so a proof can
speak about the writes of a program without running it.

`Prog.Safe` is the weakest precondition of a program over every environment and
every state that its reads may meet.  `Prog.Ends` runs a program alone, `Threads`
runs many, one atomic step of one of them at a time.
-/

namespace Programs

/-- A program that returns an `α`.  A step sees an environment of type `η` and a
state of type `σ`, and `ω` names the writes. -/
inductive Prog (η σ ω α : Type) where
  | ret (a : α)
  | read (next : η → σ → Prog η σ ω α)
  | write (w : ω) (next : Prog η σ ω α)

variable {η σ ω α β : Type}

namespace Prog

/-! ## Composition -/

/-- One program after the other. -/
def bind : Prog η σ ω α → (α → Prog η σ ω β) → Prog η σ ω β
  | ret a, k => k a
  | read next, k => read fun e s => (next e s).bind k
  | write w next, k => write w (next.bind k)

instance : Monad (Prog η σ ω) where
  pure := ret
  bind := bind

/-- Read something off the environment and the state. -/
def look (f : η → σ → α) : Prog η σ ω α := read fun e s => ret (f e s)

/-- The writes of a list, one step each. -/
def writes : List ω → Prog η σ ω Unit
  | [] => ret ()
  | w :: ws => write w (writes ws)

/-- The program of each element, one after the other. -/
def forEach (xs : List α) (p : α → Prog η σ ω Unit) : Prog η σ ω Unit :=
  match xs with
  | [] => ret ()
  | x :: xs => (p x).bind fun _ => forEach xs p

/-! ## What a program may write -/

/-- As long as each read meets `Q`, every write is one of `P` and the result one
of `R`. -/
def Safe (Q : η → σ → Prop) (P : ω → Prop) (R : α → Prop) : Prog η σ ω α → Prop
  | ret a => R a
  | read next => ∀ e s, Q e s → (next e s).Safe Q P R
  | write w next => P w ∧ next.Safe Q P R

section Safe

variable {Q : η → σ → Prop} {P : ω → Prop} {R : α → Prop}

@[simp] theorem safe_pure (a : α) : Safe Q P R (pure a : Prog η σ ω α) ↔ R a := Iff.rfl

@[simp] theorem safe_ret (a : α) : Safe Q P R (ret a : Prog η σ ω α) ↔ R a := Iff.rfl

@[simp] theorem safe_look (f : η → σ → α) :
    Safe Q P R (look f : Prog η σ ω α) ↔ ∀ e s, Q e s → R (f e s) := Iff.rfl

@[simp] theorem safe_bind (p : Prog η σ ω α) (k : α → Prog η σ ω β) (S : β → Prop) :
    Safe Q P S (p >>= k) ↔ p.Safe Q P fun a => (k a).Safe Q P S := by
  show Safe Q P S (p.bind k) ↔ _
  induction p with
  | ret a => rfl
  | read next ih =>
    constructor
    · intro h e s hQ
      exact (ih e s).mp (h e s hQ)
    · intro h e s hQ
      exact (ih e s).mpr (h e s hQ)
  | write w next ih => exact and_congr_right fun _ => ih

@[simp] theorem safe_writes (ws : List ω) (S : Unit → Prop) :
    Safe Q P S (writes ws : Prog η σ ω Unit) ↔ (∀ w ∈ ws, P w) ∧ S () := by
  induction ws with
  | nil => simp [writes]
  | cons w ws ih => simp [writes, Safe, ih, and_assoc]

theorem Safe.mono {p : Prog η σ ω α} {Q' : η → σ → Prop} {P' : ω → Prop} {R' : α → Prop}
    (h : p.Safe Q P R) (hQ : ∀ e s, Q' e s → Q e s) (hP : ∀ w, P w → P' w)
    (hR : ∀ a, R a → R' a) : p.Safe Q' P' R' := by
  induction p with
  | ret a => exact hR a h
  | read next ih => exact fun e s h' => ih e s (h e s (hQ e s h'))
  | write w next ih => exact ⟨hP w h.1, ih h.2⟩

theorem Safe.result {p : Prog η σ ω α} {R' : α → Prop} (h : p.Safe Q P R)
    (hR : ∀ a, R a → R' a) : p.Safe Q P R' :=
  h.mono (fun _ _ hQ => hQ) (fun _ hP => hP) hR

/-- Nothing is asked of the program. -/
theorem safe_true (p : Prog η σ ω α) : p.Safe Q (fun _ => True) fun _ => True := by
  induction p with
  | ret a => trivial
  | read next ih => exact fun e s _ => ih e s
  | write w next ih => exact ⟨trivial, ih⟩

theorem Safe.and {p : Prog η σ ω α} {P' : ω → Prop} {R' : α → Prop} (h : p.Safe Q P R)
    (h' : p.Safe Q P' R') : p.Safe Q (fun w => P w ∧ P' w) fun a => R a ∧ R' a := by
  induction p with
  | ret a => exact ⟨h, h'⟩
  | read next ih => exact fun e s hQ => ih e s (h e s hQ) (h' e s hQ)
  | write w next ih => exact ⟨⟨h.1, h'.1⟩, ih h.2 h'.2⟩

theorem safe_forEach {xs : List α} {p : α → Prog η σ ω Unit}
    (h : ∀ x ∈ xs, (p x).Safe Q P fun _ => True) : Safe Q P (fun _ => True) (forEach xs p) := by
  induction xs with
  | nil => trivial
  | cons x xs ih =>
    have hrest := ih fun y hy => h y (List.mem_cons_of_mem x hy)
    have hfirst := h x List.mem_cons_self
    show Safe Q P _ (p x >>= fun _ => forEach xs p)
    rw [safe_bind]
    exact hfirst.mono (fun _ _ hQ => hQ) (fun _ hP => hP) fun _ _ => hrest

end Safe

/-- Whatever it reads, the program makes a write of `P`. -/
def Hits (P : ω → Prop) : Prog η σ ω α → Prop
  | ret _ => False
  | read next => ∀ e s, (next e s).Hits P
  | write w next => P w ∨ next.Hits P

/-- A program hits what its continuation hits after every result. -/
theorem Hits.bind {P : ω → Prop} {p : Prog η σ ω α} {k : α → Prog η σ ω β}
    (h : p.Safe (fun _ _ => True) (fun _ => True) fun a => (k a).Hits P) :
    (p >>= k).Hits P := by
  show (p.bind k).Hits P
  induction p with
  | ret a => exact h
  | read next ih => exact fun e s => ih e s (h e s trivial)
  | write w next ih => exact Or.inr (ih h.2)

theorem Hits.bind_left {P : ω → Prop} {p : Prog η σ ω α} {k : α → Prog η σ ω β} (h : p.Hits P) :
    (p >>= k).Hits P := by
  show (p.bind k).Hits P
  induction p with
  | ret a => exact h.elim
  | read next ih => exact fun e s => ih e s (h e s)
  | write w next ih =>
    rcases h with hw | hnext
    · exact Or.inl hw
    · exact Or.inr (ih hnext)

theorem Hits.writes {P : ω → Prop} {ws : List ω} {w : ω} (hw : w ∈ ws) (h : P w) :
    (writes ws : Prog η σ ω Unit).Hits P := by
  induction ws with
  | nil => contradiction
  | cons v vs ih =>
    rcases List.mem_cons.mp hw with rfl | hrest
    · exact Or.inl h
    · exact Or.inr (ih hrest)

/-! ## A program alone -/

section Alone

variable (apply : η → σ → ω → σ)

/-- The program runs alone from the first state to the second and returns `a`. -/
inductive Ends : Prog η σ ω α → σ → α → σ → Prop where
  | ret (a : α) (s : σ) : Ends (ret a) s a s
  | read (e : η) {next : η → σ → Prog η σ ω α} {s t : σ} {a : α} (h : Ends (next e s) s a t) :
    Ends (read next) s a t
  | write (e : η) {w : ω} {next : Prog η σ ω α} {s t : σ} {a : α}
    (h : Ends next (apply e s w) a t) : Ends (write w next) s a t

/-- The run in which every step sees the same environment. -/
def run (e : η) : Prog η σ ω α → σ → α × σ
  | ret a, s => (a, s)
  | read next, s => (next e s).run e s
  | write w next, s => next.run e (apply e s w)

@[simp] theorem run_pure (e : η) (a : α) (s : σ) :
    (pure a : Prog η σ ω α).run apply e s = (a, s) := rfl

@[simp] theorem run_look (f : η → σ → α) (e : η) (s : σ) :
    (look f : Prog η σ ω α).run apply e s = (f e s, s) := rfl

@[simp] theorem run_writes (ws : List ω) (e : η) (s : σ) :
    (writes ws : Prog η σ ω Unit).run apply e s = ((), ws.foldl (apply e) s) := by
  induction ws generalizing s with
  | nil => rfl
  | cons w ws ih => exact ih (apply e s w)

@[simp] theorem run_bind (p : Prog η σ ω α) (k : α → Prog η σ ω β) (e : η) (s : σ) :
    (p >>= k).run apply e s = (k (p.run apply e s).1).run apply e (p.run apply e s).2 := by
  show (p.bind k).run apply e s = _
  induction p generalizing s with
  | ret a => rfl
  | read next ih => exact ih e s s
  | write w next ih => exact ih (apply e s w)

theorem ends_run (e : η) (p : Prog η σ ω α) (s : σ) :
    p.Ends apply s (p.run apply e s).1 (p.run apply e s).2 := by
  induction p generalizing s with
  | ret a => exact .ret a s
  | read next ih => exact .read e (ih e s s)
  | write w next ih => exact .write e (ih (apply e s w))

variable {apply}

/-! What a run is, by the form of the program. -/

@[simp] theorem ends_pure {a b : α} {s t : σ} :
    (pure a : Prog η σ ω α).Ends apply s b t ↔ a = b ∧ s = t := by
  constructor
  · intro h
    cases h
    exact ⟨rfl, rfl⟩
  · rintro ⟨rfl, rfl⟩
    exact .ret a s

@[simp] theorem ends_look {f : η → σ → α} {a : α} {s t : σ} :
    (look f : Prog η σ ω α).Ends apply s a t ↔ s = t ∧ ∃ e, a = f e s := by
  constructor
  · intro h
    cases h with
    | read e h =>
      cases h
      exact ⟨rfl, e, rfl⟩
  · rintro ⟨rfl, e, rfl⟩
    exact .read e (.ret _ s)

@[simp] theorem ends_writes_nil {u : Unit} {s t : σ} :
    (writes [] : Prog η σ ω Unit).Ends apply s u t ↔ s = t :=
  (ends_pure (a := ()) (b := u)).trans ⟨fun h => h.2, fun h => ⟨rfl, h⟩⟩

@[simp] theorem ends_writes_cons {w : ω} {ws : List ω} {u : Unit} {s t : σ} :
    (writes (w :: ws) : Prog η σ ω Unit).Ends apply s u t ↔
      ∃ e, (writes ws : Prog η σ ω Unit).Ends apply (apply e s w) u t := by
  constructor
  · intro h
    cases h with
    | write e h => exact ⟨e, h⟩
  · rintro ⟨e, h⟩
    exact .write e h

@[simp] theorem ends_bind {p : Prog η σ ω α} {k : α → Prog η σ ω β} {b : β} {s t : σ} :
    (p >>= k).Ends apply s b t ↔ ∃ a u, p.Ends apply s a u ∧ (k a).Ends apply u b t := by
  constructor
  · intro h
    change (p.bind k).Ends apply s b t at h
    induction p generalizing s with
    | ret a => exact ⟨a, s, .ret a s, h⟩
    | read next ih =>
      cases h with
      | read e h =>
        obtain ⟨a, u, hp, hk⟩ := ih e s h
        exact ⟨a, u, .read e hp, hk⟩
    | write w next ih =>
      cases h with
      | write e h =>
        obtain ⟨a, u, hp, hk⟩ := ih h
        exact ⟨a, u, .write e hp, hk⟩
  · rintro ⟨a, u, hp, hk⟩
    show (p.bind k).Ends apply s b t
    induction hp with
    | ret a s => exact hk
    | read e h ih => exact .read e (ih hk)
    | write e h ih => exact .write e (ih hk)

/-- What every write of a safe program keeps, the program keeps. -/
theorem Ends.keeps {I : σ → Prop} {P : ω → Prop} {R : α → Prop} {p : Prog η σ ω α} {s t : σ}
    {a : α} (h : p.Ends apply s a t) (hsafe : p.Safe (fun _ s => I s) P R)
    (hkeep : ∀ e s w, I s → P w → I (apply e s w)) (hs : I s) : I t ∧ R a := by
  induction h with
  | ret a s => exact ⟨hs, hsafe⟩
  | read e h ih => exact ih (hsafe e _ hs) hs
  | write e h ih => exact ih hsafe.2 (hkeep e _ _ hs hsafe.1)

end Alone

end Prog

/-! ## Many programs -/

/-- A shared state and what each thread has left to do. -/
structure Threads (ι η σ ω : Type) where
  shared : σ
  thread : ι → Prog η σ ω Unit

/-- A thread with nothing to do starts a program, or a thread makes a step. -/
inductive Event (ι η σ ω : Type) where
  | start (i : ι) (p : Prog η σ ω Unit)
  | act (i : ι) (e : η)

namespace Threads

variable {ι : Type} [DecidableEq ι]

/-- No thread has anything to do. -/
def idle (s : σ) : Threads ι η σ ω := ⟨s, fun _ => .ret ()⟩

/-- The next state, when the event can happen. -/
def step (apply : η → σ → ω → σ) (t : Threads ι η σ ω) :
    Event ι η σ ω → Option (Threads ι η σ ω)
  | .start i p =>
    match t.thread i with
    | .ret () => some { t with thread := Function.update t.thread i p }
    | .read _ | .write _ _ => none
  | .act i e =>
    match t.thread i with
    | .ret () => none
    | .read next => some { t with thread := Function.update t.thread i (next e t.shared) }
    | .write w next =>
      some { shared := apply e t.shared w, thread := Function.update t.thread i next }

/-- A write that was made: the environment and the state it met, and its name. -/
structure Made (η σ ω : Type) where
  env : η
  before : σ
  call : ω

/-- The write that an event makes. -/
def made? (t : Threads ι η σ ω) : Event ι η σ ω → Option (Made η σ ω)
  | .start _ _ => none
  | .act i e =>
    match t.thread i with
    | .write w _ => some ⟨e, t.shared, w⟩
    | .ret () | .read _ => none

/-- The writes that a run makes, in order. -/
def made (apply : η → σ → ω → σ) (t : Threads ι η σ ω) :
    List (Event ι η σ ω) → List (Made η σ ω)
  | [] => []
  | ev :: evs =>
    (t.made? ev).toList ++ ((step apply t ev).map fun u => made apply u evs).getD []

/-- Every thread is safe. -/
def Safe (Q : η → σ → Prop) (P : ω → Prop) (t : Threads ι η σ ω) : Prop :=
  ∀ i, (t.thread i).Safe Q P fun _ => True

/-- The programs that a run starts are safe. -/
def StartsSafe (Q : η → σ → Prop) (P : ω → Prop) (evs : List (Event ι η σ ω)) : Prop :=
  ∀ i p, .start i p ∈ evs → p.Safe Q P fun _ => True

omit [DecidableEq ι] in
theorem safe_idle {Q : η → σ → Prop} {P : ω → Prop} (s : σ) :
    Safe Q P (idle s : Threads ι η σ ω) :=
  fun _ => trivial

theorem Safe.update {Q : η → σ → Prop} {P : ω → Prop} {t : Threads ι η σ ω} (h : t.Safe Q P)
    {i : ι} {p : Prog η σ ω Unit} (hp : p.Safe Q P fun _ => True) (s : σ) :
    Safe Q P ⟨s, Function.update t.thread i p⟩ := by
  intro j
  show (Function.update t.thread i p j).Safe Q P _
  by_cases hj : j = i
  · subst hj
    rwa [Function.update_self]
  · rw [Function.update_of_ne hj]
    exact h j

section Step

variable {apply : η → σ → ω → σ} {Q : η → σ → Prop} {P : ω → Prop} {t u : Threads ι η σ ω}
  {ev : Event ι η σ ω}

/-- What a step does: the threads stay safe, and the shared state is written by
the write that was made, or stays. -/
theorem step_cases (h : step apply t ev = some u) (hsafe : t.Safe Q P)
    (hstart : ∀ i p, ev = .start i p → p.Safe Q P fun _ => True)
    (hread : ∀ i e, ev = .act i e → Q e t.shared) :
    u.Safe Q P ∧
      ((t.made? ev = none ∧ u.shared = t.shared) ∨
        ∃ m, t.made? ev = some m ∧ P m.call ∧ m.before = t.shared ∧
          u.shared = apply m.env m.before m.call) := by
  cases ev with
  | start i p =>
    simp only [step] at h
    split at h
    next =>
      obtain rfl := Option.some.inj h
      exact ⟨hsafe.update (hstart i p rfl) t.shared, Or.inl ⟨rfl, rfl⟩⟩
    all_goals contradiction
  | act i e =>
    have hi := hsafe i
    simp only [step] at h
    split at h
    · contradiction
    next next heq =>
      obtain rfl := Option.some.inj h
      rw [heq] at hi
      refine ⟨hsafe.update (hi e t.shared (hread i e rfl)) t.shared, Or.inl ⟨?_, rfl⟩⟩
      simp [made?, heq]
    next w next heq =>
      obtain rfl := Option.some.inj h
      rw [heq] at hi
      refine ⟨hsafe.update hi.2 _, Or.inr ⟨⟨e, t.shared, w⟩, ?_, hi.1, rfl, rfl⟩⟩
      simp [made?, heq]

end Step

/-- In a run of safe programs, a property of the shared state that each write
that was made keeps holds at the end, and every write is one the programs may
make. -/
theorem exec_keeps {apply : η → σ → ω → σ} {Q : η → σ → Prop} {P : ω → Prop} {I : σ → Prop}
    {t u : Threads ι η σ ω} {evs : List (Event ι η σ ω)}
    (h : Runs.exec (step apply) t evs = some u) (hsafe : t.Safe Q P) (hstart : StartsSafe Q P evs)
    (hread : ∀ i e s, .act i e ∈ evs → I s → Q e s) (ht : I t.shared)
    (hkeep : ∀ m ∈ t.made apply evs, P m.call → I m.before → I (apply m.env m.before m.call)) :
    I u.shared ∧ ∀ m ∈ t.made apply evs, P m.call ∧ I m.before := by
  induction evs generalizing t with
  | nil =>
    obtain rfl := Option.some.inj h
    exact ⟨ht, fun m hm => absurd hm List.not_mem_nil⟩
  | cons ev evs ih =>
    rw [Runs.exec] at h
    obtain ⟨v, hv, hrest⟩ := Option.bind_eq_some_iff.mp h
    have hmade : t.made apply (ev :: evs) = (t.made? ev).toList ++ v.made apply evs := by
      rw [made, hv]
      rfl
    obtain ⟨hsafe', hwrite⟩ := step_cases hv hsafe
      (fun i p heq => hstart i p (heq ▸ List.mem_cons_self))
      (fun i e heq => hread i e t.shared (heq ▸ List.mem_cons_self) ht)
    rw [hmade] at hkeep ⊢
    have hfirst : I v.shared ∧ ∀ m ∈ (t.made? ev).toList, P m.call ∧ I m.before := by
      rcases hwrite with ⟨hnone, hshared⟩ | ⟨m, hm, hP, hbefore, hshared⟩
      · rw [hnone, hshared]
        exact ⟨ht, fun m hm => absurd hm List.not_mem_nil⟩
      · have hI : I m.before := hbefore ▸ ht
        rw [hm, hshared]
        refine ⟨hkeep m (by simp [hm]) hP hI, ?_⟩
        intro m' hm'
        obtain rfl := List.mem_singleton.mp hm'
        exact ⟨hP, hI⟩
    obtain ⟨hend, hlater⟩ := ih hrest hsafe'
      (fun i p hp => hstart i p (List.mem_cons_of_mem ev hp))
      (fun i e s he => hread i e s (List.mem_cons_of_mem ev he)) hfirst.1
      (fun m hm => hkeep m (List.mem_append_right _ hm))
    refine ⟨hend, ?_⟩
    intro m hm
    rcases List.mem_append.mp hm with hm | hm
    · exact hfirst.2 m hm
    · exact hlater m hm

/-- The threads of a run of safe programs stay safe. -/
theorem exec_safe {apply : η → σ → ω → σ} {Q : η → σ → Prop} {P : ω → Prop}
    {t u : Threads ι η σ ω} {evs : List (Event ι η σ ω)}
    (h : Runs.exec (step apply) t evs = some u) (hsafe : t.Safe Q P) (hstart : StartsSafe Q P evs)
    (hread : ∀ i e s, .act i e ∈ evs → Q e s) : u.Safe Q P := by
  induction evs generalizing t with
  | nil =>
    obtain rfl := Option.some.inj h
    exact hsafe
  | cons ev evs ih =>
    rw [Runs.exec] at h
    obtain ⟨v, hv, hrest⟩ := Option.bind_eq_some_iff.mp h
    have hnext := (step_cases hv hsafe (fun i p heq => hstart i p (heq ▸ List.mem_cons_self))
      (fun i e heq => hread i e t.shared (heq ▸ List.mem_cons_self))).1
    exact ih hrest hnext (fun i p hp => hstart i p (List.mem_cons_of_mem ev hp))
      fun i e s he => hread i e s (List.mem_cons_of_mem ev he)

/-- A write is made by an event of the run, in its environment. -/
theorem act_of_made {apply : η → σ → ω → σ} {t : Threads ι η σ ω} {evs : List (Event ι η σ ω)}
    {m : Made η σ ω} (h : m ∈ t.made apply evs) : ∃ i, .act i m.env ∈ evs := by
  induction evs generalizing t with
  | nil => contradiction
  | cons ev evs ih =>
    rcases List.mem_append.mp h with h | h
    · have hmade := Option.mem_toList.mp h
      cases ev with
      | start i p => contradiction
      | act i e =>
        simp only [made?] at hmade
        split at hmade
        · obtain rfl := Option.some.inj hmade
          exact ⟨i, List.mem_cons_self⟩
        all_goals contradiction
    · cases hv : step apply t ev with
      | none =>
        rw [hv] at h
        contradiction
      | some v =>
        rw [hv] at h
        obtain ⟨i, hi⟩ := ih h
        exact ⟨i, List.mem_cons_of_mem ev hi⟩

end Threads

end Programs
