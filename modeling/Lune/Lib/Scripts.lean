import Lune.Lib.Runs
import Mathlib.Logic.Function.Basic

/-!
# Scripts of atomic steps

A script works on a shared state in atomic steps.  A step changes the state and
computes, from the environment and the state it met, what comes next; so a statement
that answers is one step, and nothing comes between its effect and its answer.
-/

namespace Scripts

/-- A script that returns an `α`; its steps see an environment of type `η` and a state
of type `σ`. -/
inductive Script (η σ α : Type) where
  | ret (a : α)
  | step (act : η → σ → σ) (next : η → σ → Script η σ α)

variable {η σ α β : Type}

namespace Script

/-! ## Composition -/

/-- One script after the other. -/
def bind : Script η σ α → (α → Script η σ β) → Script η σ β
  | ret a, k => k a
  | step act next, k => step act fun e s => (next e s).bind k

instance : Monad (Script η σ) where
  pure := ret
  bind := bind

/-- One step that changes the state and answers. -/
def act (f : η → σ → σ × α) : Script η σ α :=
  step (fun e s => (f e s).1) fun e s => ret (f e s).2

/-- One step that only reads. -/
def look (f : η → σ → α) : Script η σ α := act fun e s => (s, f e s)

/-! ## A script alone -/

/-- The run in which every step sees the same environment. -/
def run (e : η) : Script η σ α → σ → α × σ
  | ret a, s => (a, s)
  | step act next, s => (next e s).run e (act e s)

variable (e : η) (s : σ)

@[simp] theorem run_pure (a : α) : (pure a : Script η σ α).run e s = (a, s) := rfl

@[simp] theorem run_act (f : η → σ → σ × α) :
    (act f : Script η σ α).run e s = ((f e s).2, (f e s).1) := rfl

@[simp] theorem run_look (f : η → σ → α) : (look f : Script η σ α).run e s = (f e s, s) := rfl

@[simp] theorem run_bind (p : Script η σ α) (k : α → Script η σ β) :
    (p >>= k).run e s = (k (p.run e s).1).run e (p.run e s).2 := by
  show (p.bind k).run e s = _
  induction p generalizing s with
  | ret a => rfl
  | step act next ih => exact ih e s (act e s)

@[simp] theorem run_ite {c : Prop} [Decidable c] (p q : Script η σ α) :
    (if c then p else q).run e s = if c then p.run e s else q.run e s := by
  split
  · rfl
  · rfl

end Script

end Scripts
