import Mathlib.Data.List.Basic

/-!
# Runs of a step function

A system is a partial step function on states, with an event for each step.  An
event that the state does not allow has no next state.  `exec` carries out a list
of events; the trace of a run is that list, so a position in it is a moment of
the run.
-/

namespace Runs

variable {σ ε : Type} {step : σ → ε → Option σ}

/-- The state after the events, when each was allowed. -/
def exec (step : σ → ε → Option σ) (s : σ) : List ε → Option σ
  | [] => some s
  | e :: es => (step s e).bind fun s' => exec step s' es

theorem exec_append (s : σ) (es fs : List ε) :
    exec step s (es ++ fs) = (exec step s es).bind fun s' => exec step s' fs := by
  induction es generalizing s with
  | nil => rfl
  | cons e es ih =>
    rw [List.cons_append, exec, exec]
    cases step s e with
    | none => rfl
    | some s' => exact ih s'

/-- A property of the trace and the state that each step keeps holds after any
run. -/
theorem exec_invariant {P : List ε → σ → Prop} {s : σ} (hinit : P [] s)
    (hstep : ∀ tr t e u, P tr t → step t e = some u → P (tr ++ [e]) u) {tr : List ε} {t : σ}
    (h : exec step s tr = some t) : P tr t := by
  have hrun : ∀ (es past : List ε) (s : σ), P past s → exec step s es = some t →
      P (past ++ es) t := by
    intro es
    induction es with
    | nil =>
      intro past s hs hexec
      rw [exec, Option.some.injEq] at hexec
      rwa [List.append_nil, ← hexec]
    | cons e es ih =>
      intro past s hs hexec
      rw [exec] at hexec
      obtain ⟨s', hs', hrest⟩ := Option.bind_eq_some_iff.mp hexec
      have hnext := ih (past ++ [e]) s' (hstep past s e s' hs hs') hrest
      rwa [List.append_assoc] at hnext
  simpa using hrun tr [] s hinit h

/-- Every event of the run meets `P` in the state before it. -/
def Along (step : σ → ε → Option σ) (P : σ → ε → Prop) (s : σ) : List ε → Prop
  | [] => True
  | e :: es => P s e ∧ ∀ t, step s e = some t → Along step P t es

instance decidableAlong {step : σ → ε → Option σ} {P : σ → ε → Prop} [∀ s e, Decidable (P s e)] :
    ∀ (s : σ) (es : List ε), Decidable (Along step P s es)
  | _, [] => .isTrue trivial
  | s, e :: es =>
    match h : step s e with
    | none => decidable_of_iff (P s e)
        ⟨fun hP => ⟨hP, fun t ht => by rw [h] at ht; contradiction⟩, And.left⟩
    | some t =>
      have : Decidable (Along step P t es) := decidableAlong t es
      decidable_of_iff (P s e ∧ Along step P t es)
        ⟨fun hP => ⟨hP.1, fun u hu => Option.some.inj (h.symm.trans hu) ▸ hP.2⟩,
          fun hP => ⟨hP.1, hP.2 t h⟩⟩

/-- A property that the steps which meet `P` keep holds after a run of such
steps. -/
theorem exec_along {P : σ → ε → Prop} {I : σ → Prop} {s t : σ} {es : List ε}
    (h : exec step s es = some t) (halong : Along step P s es) (hs : I s)
    (hstep : ∀ u e v, I u → P u e → step u e = some v → I v) : I t := by
  induction es generalizing s with
  | nil =>
    obtain rfl := Option.some.inj h
    exact hs
  | cons e es ih =>
    rw [exec] at h
    obtain ⟨u, hu, hrest⟩ := Option.bind_eq_some_iff.mp h
    exact ih hrest (halong.2 u hu) (hstep s e u hs halong.1 hu)

/-- Events that an invariant lets through, and that keep it, are all carried out. -/
theorem exec_total {I : σ → Prop} {s : σ} {es : List ε} (hs : I s)
    (hstep : ∀ e ∈ es, ∀ u, I u → ∃ v, step u e = some v ∧ I v) :
    ∃ t, exec step s es = some t ∧ I t := by
  induction es generalizing s with
  | nil => exact ⟨s, rfl, hs⟩
  | cons e es ih =>
    obtain ⟨u, hu, hI⟩ := hstep e List.mem_cons_self s hs
    obtain ⟨t, ht, hlast⟩ := ih hI fun f hf => hstep f (List.mem_cons_of_mem e hf)
    refine ⟨t, ?_, hlast⟩
    rw [exec, hu]
    exact ht

/-- Events that a step sees only through a map. -/
theorem exec_map {α : Type} (f : α → ε) (xs : List α) (s : σ) :
    exec step s (xs.map f) = exec (fun s x => step s (f x)) s xs := by
  induction xs generalizing s with
  | nil => rfl
  | cons x xs ih =>
    rw [List.map_cons, exec, exec]
    simp only [ih]

/-- Two computations that may fail, each followed by another one. -/
theorem rel_bind {α β γ δ : Type} {R : α → β → Prop} {S : γ → δ → Prop} {x : Option α}
    {y : Option β} {f : α → Option γ} {g : β → Option δ} (h : Option.Rel R x y)
    (hnext : ∀ a b, R a b → Option.Rel S (f a) (g b)) : Option.Rel S (x.bind f) (y.bind g) := by
  cases h with
  | some hR => exact hnext _ _ hR
  | none => exact .none

/-- Related states take related steps, or neither takes one: then so do runs. -/
theorem exec_simulates {τ : Type} {step' : τ → ε → Option τ} {R : σ → τ → Prop} {s : σ} {s' : τ}
    (hs : R s s') (hstep : ∀ u u' e, R u u' → Option.Rel R (step u e) (step' u' e)) (es : List ε) :
    Option.Rel R (exec step s es) (exec step' s' es) := by
  induction es generalizing s s' with
  | nil => exact .some hs
  | cons e es ih =>
    rw [exec, exec]
    exact rel_bind (hstep s s' e hs) fun _ _ h => ih h

theorem along_mono {P Q : σ → ε → Prop} {s : σ} {es : List ε} (hPQ : ∀ s e, P s e → Q s e)
    (h : Along step P s es) : Along step Q s es := by
  induction es generalizing s with
  | nil => trivial
  | cons e es ih => exact ⟨hPQ s e h.1, fun t ht => ih (h.2 t ht)⟩

/-- What holds along a run holds at its last event. -/
theorem along_last {P : σ → ε → Prop} {s t : σ} {es : List ε} {e : ε}
    (halong : Along step P s (es ++ [e])) (h : exec step s es = some t) : P t e := by
  induction es generalizing s with
  | nil =>
    obtain rfl := Option.some.inj h
    exact halong.1
  | cons f es ih =>
    obtain ⟨u, hu, hrest⟩ := Option.bind_eq_some_iff.mp h
    exact ih (halong.2 u hu) hrest

/-- A run meets `P` at every event when an invariant that gives `P` holds at its
start. -/
theorem along_of_invariant {P : σ → ε → Prop} {I : σ → Prop} {s : σ} (hs : I s)
    (hP : ∀ u e, I u → P u e) (hstep : ∀ u e v, I u → step u e = some v → I v) (es : List ε) :
    Along step P s es := by
  induction es generalizing s with
  | nil => trivial
  | cons e es ih => exact ⟨hP s e hs, fun t ht => ih (hstep s e t hs ht)⟩

/-- What an observer notes of each step of a run, in order. -/
def observed {β : Type} (note : σ → ε → σ → List β) (step : σ → ε → Option σ) (s : σ) :
    List ε → List β
  | [] => []
  | e :: es =>
    match step s e with
    | none => []
    | some t => note s e t ++ observed note step t es

/-- A property of the notes and the state that the steps which meet `P` keep holds after
a run of such steps. -/
theorem exec_observed {β : Type} {note : σ → ε → σ → List β} {P : σ → ε → Prop}
    {I : List β → σ → Prop} {s t : σ} {es : List ε} (h : exec step s es = some t)
    (halong : Along step P s es) (hs : I [] s)
    (hstep : ∀ notes u e v, I notes u → P u e → step u e = some v → I (notes ++ note u e v) v) :
    I (observed note step s es) t := by
  have hrun : ∀ (es : List ε) (notes : List β) (s : σ), I notes s → exec step s es = some t →
      Along step P s es → I (notes ++ observed note step s es) t := by
    intro es
    induction es with
    | nil =>
      intro notes s hs h _
      rw [← Option.some.inj h, observed, List.append_nil]
      exact hs
    | cons e es ih =>
      intro notes s hs h halong
      obtain ⟨u, hu, hrest⟩ := Option.bind_eq_some_iff.mp h
      have hnotes : observed note step s (e :: es) = note s e u ++ observed note step u es := by
        rw [observed, hu]
      rw [hnotes, ← List.append_assoc]
      exact ih _ u (hstep notes s e u hs halong.1 hu) hrest (halong.2 u hu)
  exact hrun es [] s hs h halong

end Runs
