import Lune.Lib.Programs
import Mathlib.Algebra.BigOperators.Group.Finset.Piecewise

/-!
# Calls that run together

Each call runs one program on the shared state, one atomic step at a time, and
the system keeps the writes that it made.  Three rules speak about a run.
`exec_once`: a program with one write on every path has made it when it has
returned.  `Justified.step`: a write that was right for the state in which the
program chose it is right when it is made, as long as no step in between spoils
it.  `added_write`: what the writes add to a quantity, a step at a time.
-/

namespace Programs

/-- A shared state, what each call has left to do and the writes it has made. -/
structure Calls (ι η σ ω α : Type) where
  shared : σ
  left : ι → Prog η σ ω α
  made : ι → List (Threads.Made η σ ω)

variable {ι η σ ω α : Type}

namespace Prog

/-- Every path makes one write, of `P`, and ends there. -/
def Once (P : ω → Prop) : Prog η σ ω α → Prop
  | ret _ => False
  | read next => ∀ e s, (next e s).Once P
  | write w next => P w ∧ ∃ a, next = ret a

/-- A write that the program is about to make is right for the state. -/
def Ready (G : σ → ω → Prop) (s : σ) (p : Prog η σ ω α) : Prop :=
  ∀ w next, p = write w next → G s w

/-- A write that comes after a read of a state of `I` is right for that state, and
so is one that comes after a write. -/
def Chosen (I : σ → Prop) (G : σ → ω → Prop) : Prog η σ ω α → Prop
  | ret _ => True
  | read next => ∀ e s, I s → (next e s).Ready G s ∧ (next e s).Chosen I G
  | write _ next => (∀ s, next.Ready G s) ∧ next.Chosen I G

/-- The program has ended. -/
def returned : Prog η σ ω α → Bool
  | ret _ => true
  | read _ | write _ _ => false

theorem ready_ret {G : σ → ω → Prop} {s : σ} (a : α) : (ret a : Prog η σ ω α).Ready G s := by
  intro w next h
  contradiction

theorem ready_read {G : σ → ω → Prop} {s : σ} (next : η → σ → Prog η σ ω α) :
    (read next).Ready G s := by
  intro w next' h
  contradiction

theorem ready_write {G : σ → ω → Prop} {s : σ} {w : ω} {next : Prog η σ ω α} (h : G s w) :
    (write w next).Ready G s := by
  intro w' next' heq
  injection heq with hw
  exact hw ▸ h

end Prog

namespace Calls

variable [DecidableEq ι]

/-- Nothing has been done. -/
def start (s : σ) (p : ι → Prog η σ ω α) : Calls ι η σ ω α := ⟨s, p, fun _ => []⟩

/-- The next step of a call that has not returned. -/
def step (apply : η → σ → ω → σ) (c : Calls ι η σ ω α) : ι × η → Option (Calls ι η σ ω α)
  | (i, e) =>
    match c.left i with
    | .ret _ => none
    | .read next => some { c with left := Function.update c.left i (next e c.shared) }
    | .write w next =>
      some
        { shared := apply e c.shared w
          left := Function.update c.left i next
          made := Function.update c.made i (c.made i ++ [⟨e, c.shared, w⟩]) }

variable {apply : η → σ → ω → σ} {c d : Calls ι η σ ω α} {i : ι} {e : η}

/-- What a step does. -/
theorem step_cases (h : step apply c (i, e) = some d) :
    (∃ next, c.left i = .read next ∧
      d = { c with left := Function.update c.left i (next e c.shared) }) ∨
    ∃ w next, c.left i = .write w next ∧
      d = { shared := apply e c.shared w
            left := Function.update c.left i next
            made := Function.update c.made i (c.made i ++ [⟨e, c.shared, w⟩]) } := by
  cases hi : c.left i with
  | ret a => simp [step, hi] at h
  | read next => exact Or.inl ⟨next, rfl, by simpa [step, hi] using h.symm⟩
  | write w next => exact Or.inr ⟨w, next, rfl, by simpa [step, hi] using h.symm⟩

/-! ## One write a call -/

/-- The call has its write before it, or has made it and returned. -/
def Accounts (P : ω → Prop) (made : List (Threads.Made η σ ω)) (left : Prog η σ ω α) : Prop :=
  (made = [] ∧ left.Once P) ∨ ∃ m a, made = [m] ∧ P m.call ∧ left = .ret a

theorem Accounts.of_ret {P : ω → Prop} {made : List (Threads.Made η σ ω)} {a : α}
    (h : Accounts P made (.ret a : Prog η σ ω α)) : ∃ m, made = [m] ∧ P m.call := by
  rcases h with ⟨-, honce⟩ | ⟨m, b, hm, hP, -⟩
  · exact honce.elim
  · exact ⟨m, hm, hP⟩

theorem Accounts.step {P : ω → Prop} {j : ι} (h : Accounts P (c.made j) (c.left j))
    (hstep : step apply c (i, e) = some d) : Accounts P (d.made j) (d.left j) := by
  rcases step_cases hstep with ⟨next, hi, rfl⟩ | ⟨w, next, hi, rfl⟩
  · by_cases hj : j = i
    · subst hj
      rw [hi] at h
      rcases h with ⟨hmade, honce⟩ | ⟨m, a, -, -, hret⟩
      · refine Or.inl ⟨hmade, ?_⟩
        show (Function.update c.left j (next e c.shared) j).Once P
        rw [Function.update_self]
        exact honce e c.shared
      · contradiction
    · show Accounts P (c.made j) (Function.update c.left i (next e c.shared) j)
      rw [Function.update_of_ne hj]
      exact h
  · by_cases hj : j = i
    · subst hj
      rw [hi] at h
      rcases h with ⟨hmade, hP, a, hnext⟩ | ⟨m, a, -, -, hret⟩
      · refine Or.inr ⟨⟨e, c.shared, w⟩, a, ?_, hP, ?_⟩
        · show Function.update c.made j _ j = _
          rw [Function.update_self, hmade]
          rfl
        · show Function.update c.left j next j = _
          rw [Function.update_self, hnext]
      · contradiction
    · show Accounts P (Function.update c.made i _ j) (Function.update c.left i next j)
      rw [Function.update_of_ne hj, Function.update_of_ne hj]
      exact h

theorem exec_once {P : ω → Prop} {s : σ} {p : ι → Prog η σ ω α} {tr : List (ι × η)}
    (h : Runs.exec (step apply) (start s p) tr = some c) {j : ι} (hp : (p j).Once P) :
    Accounts P (c.made j) (c.left j) := by
  refine Runs.exec_invariant (P := fun _ c => Accounts P (c.made j) (c.left j)) ?_ ?_ h
  · exact Or.inl ⟨rfl, hp⟩
  · exact fun _ t ev u ht hstep => ht.step hstep

/-! ## What every write keeps -/

/-- What the writes of safe programs keep holds after every run of them. -/
theorem exec_safe {I : σ → Prop} {P : ω → Prop} {s : σ} {p : ι → Prog η σ ω α}
    {tr : List (ι × η)} (h : Runs.exec (step apply) (start s p) tr = some c)
    (hsafe : ∀ j, (p j).Safe (fun _ s => I s) P fun _ => True)
    (hkeep : ∀ e s w, I s → P w → I (apply e s w)) (hs : I s) : I c.shared := by
  refine (Runs.exec_invariant (P := fun _ c => I c.shared ∧
    ∀ j, (c.left j).Safe (fun _ s => I s) P fun _ => True) ⟨hs, hsafe⟩ ?_ h).1
  rintro - t ⟨i, e⟩ u ⟨ht, hleft⟩ hstep
  have hi := hleft i
  rcases step_cases hstep with ⟨next, hnext, rfl⟩ | ⟨w, next, hnext, rfl⟩
  · rw [hnext] at hi
    refine ⟨ht, fun j => ?_⟩
    show (Function.update t.left i (next e t.shared) j).Safe _ P _
    by_cases hj : j = i
    · subst hj
      rw [Function.update_self]
      exact hi e t.shared ht
    · rw [Function.update_of_ne hj]
      exact hleft j
  · rw [hnext] at hi
    refine ⟨hkeep e t.shared w ht hi.1, fun j => ?_⟩
    show (Function.update t.left i next j).Safe _ P _
    by_cases hj : j = i
    · subst hj
      rw [Function.update_self]
      exact hi.2
    · rw [Function.update_of_ne hj]
      exact hleft j

/-! ## Writes that stay right -/

/-- The shared state is one of `I`, the writes that were made were right, and so is
each that comes next. -/
structure Justified (I : σ → Prop) (G : σ → ω → Prop) (c : Calls ι η σ ω α) : Prop where
  shared : I c.shared
  ready : ∀ j, (c.left j).Ready G c.shared
  chosen : ∀ j, (c.left j).Chosen I G
  made : ∀ j, ∀ m ∈ c.made j, I m.before ∧ G m.before m.call

theorem Justified.step {I : σ → Prop} {G : σ → ω → Prop} (h : Justified I G c)
    (hkeep : ∀ w next, c.left i = .write w next → G c.shared w → I (apply e c.shared w))
    (hothers : ∀ w next, c.left i = .write w next → ∀ j v rest, j ≠ i →
      c.left j = .write v rest → G c.shared v → G (apply e c.shared w) v)
    (hstep : step apply c (i, e) = some d) : Justified I G d := by
  have hchosen := h.chosen i
  rcases step_cases hstep with ⟨next, hi, rfl⟩ | ⟨w, next, hi, rfl⟩
  · rw [hi] at hchosen
    have hread := hchosen e c.shared h.shared
    refine ⟨h.shared, ?_, ?_, h.made⟩
    · intro j
      show (Function.update c.left i (next e c.shared) j).Ready G c.shared
      by_cases hj : j = i
      · subst hj
        rw [Function.update_self]
        exact hread.1
      · rw [Function.update_of_ne hj]
        exact h.ready j
    · intro j
      show (Function.update c.left i (next e c.shared) j).Chosen I G
      by_cases hj : j = i
      · subst hj
        rw [Function.update_self]
        exact hread.2
      · rw [Function.update_of_ne hj]
        exact h.chosen j
  · rw [hi] at hchosen
    have hright := h.ready i w next hi
    refine ⟨hkeep w next hi hright, ?_, ?_, ?_⟩
    · intro j
      show (Function.update c.left i next j).Ready G (apply e c.shared w)
      by_cases hj : j = i
      · subst hj
        rw [Function.update_self]
        exact hchosen.1 _
      · rw [Function.update_of_ne hj]
        exact fun v rest hv => hothers w next hi j v rest hj hv (h.ready j v rest hv)
    · intro j
      show (Function.update c.left i next j).Chosen I G
      by_cases hj : j = i
      · subst hj
        rw [Function.update_self]
        exact hchosen.2
      · rw [Function.update_of_ne hj]
        exact h.chosen j
    · intro j m hm
      change m ∈ Function.update c.made i (c.made i ++ [⟨e, c.shared, w⟩]) j at hm
      by_cases hj : j = i
      · subst hj
        rw [Function.update_self] at hm
        rcases List.mem_append.mp hm with hm | hm
        · exact h.made j m hm
        · obtain rfl := List.mem_singleton.mp hm
          exact ⟨h.shared, hright⟩
      · rw [Function.update_of_ne hj] at hm
        exact h.made j m hm

/-! ## What the writes add up to -/

variable [Fintype ι]

/-- What the writes that were made add to a quantity. -/
def added (weight : Threads.Made η σ ω → Int) (c : Calls ι η σ ω α) : Int :=
  ∑ j, ((c.made j).map weight).sum

omit [DecidableEq ι] in
theorem added_eq_sum (weight : Threads.Made η σ ω → Int) (c : Calls ι η σ ω α) {u : ι → Int}
    (h : ∀ j, ((c.made j).map weight).sum = u j) : added weight c = ∑ j, u j :=
  Finset.sum_congr rfl fun j _ => h j

omit [DecidableEq ι] in
theorem added_start (weight : Threads.Made η σ ω → Int) (s : σ) (p : ι → Prog η σ ω α) :
    added weight (start s p) = 0 := by
  simp [added, start]

/-- A step adds the weight of its write. -/
theorem added_write (weight : Threads.Made η σ ω → Int) (m : Threads.Made η σ ω) (t : σ)
    (left : ι → Prog η σ ω α) :
    added weight ⟨t, left, Function.update c.made i (c.made i ++ [m])⟩ =
      added weight c + weight m := by
  have hsplit : ∀ j, ((Function.update c.made i (c.made i ++ [m]) j).map weight).sum =
      ((c.made j).map weight).sum + if j = i then weight m else 0 := by
    intro j
    by_cases hj : j = i
    · subst hj
      simp
    · simp [hj]
  show ∑ j, ((Function.update c.made i (c.made i ++ [m]) j).map weight).sum = _
  rw [Finset.sum_congr rfl fun j _ => hsplit j, Finset.sum_add_distrib, Finset.sum_ite_eq']
  simp [added]

end Calls

end Programs
