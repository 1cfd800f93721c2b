import Lune.Lib.Scripts

/-!
# Work that may be cut off

A piece of work is a script of atomic steps that gives up at its first error.  It
may also be cut off between two steps; then it is begun again, on the state that
the cut has left.

`Stops` says where a cut may leave the state.  What every step does along a preorder
(`Always`), work that is cut off anywhere has done.
-/

namespace Scripts.Script

variable {η σ α β : Type}

/-- The script, begun in `s`, returns `a` and leaves `t`.  A step sees an environment
that `Q` allows in its state. -/
def Ends (Q : η → σ → Prop) : Script η σ α → σ → α → σ → Prop
  | ret a, s, b, t => b = a ∧ t = s
  | step act next, s, b, t => ∃ e, Q e s ∧ (next e s).Ends Q (act e s) b t

/-- The script, begun in `s`, may have come to `t` when it is cut off. -/
def Stops (Q : η → σ → Prop) : Script η σ α → σ → σ → Prop
  | ret _, s, t => t = s
  | step act next, s, t => t = s ∨ ∃ e, Q e s ∧ (next e s).Stops Q (act e s) t

/-- Every step moves the state along `R`. -/
def Always (R : σ → σ → Prop) : Script η σ α → Prop
  | ret _ => True
  | step act next => ∀ e s, R s (act e s) ∧ (next e s).Always R

variable {Q : η → σ → Prop} {R : σ → σ → Prop} {s t : σ}

theorem stops_refl (p : Script η σ α) : p.Stops Q s s := by
  cases p with
  | ret a => rfl
  | step act next => exact Or.inl rfl

theorem ends_bind {p : Script η σ α} {k : α → Script η σ β} {b : β} :
    (p >>= k).Ends Q s b t ↔ ∃ a u, p.Ends Q s a u ∧ (k a).Ends Q u b t := by
  show (p.bind k).Ends Q s b t ↔ _
  induction p generalizing s with
  | ret a =>
    constructor
    · exact fun h => ⟨a, s, ⟨rfl, rfl⟩, h⟩
    · rintro ⟨_, _, ⟨rfl, rfl⟩, h⟩
      exact h
  | step act next ih =>
    constructor
    · rintro ⟨e, he, h⟩
      obtain ⟨a, u, hp, hk⟩ := (ih e s).mp h
      exact ⟨a, u, ⟨e, he, hp⟩, hk⟩
    · rintro ⟨a, u, ⟨e, he, hp⟩, hk⟩
      exact ⟨e, he, (ih e s).mpr ⟨a, u, hp, hk⟩⟩

theorem Ends.stops {p : Script η σ α} {a : α} (h : p.Ends Q s a t) : p.Stops Q s t := by
  induction p generalizing s with
  | ret b => exact h.2
  | step act next ih =>
    obtain ⟨e, he, h⟩ := h
    exact Or.inr ⟨e, he, ih e s h⟩

/-- Two scripts are cut off in the first one, or in the second one. -/
theorem stops_bind {p : Script η σ α} {k : α → Script η σ β} :
    (p >>= k).Stops Q s t ↔ p.Stops Q s t ∨ ∃ a u, p.Ends Q s a u ∧ (k a).Stops Q u t := by
  show (p.bind k).Stops Q s t ↔ _
  induction p generalizing s with
  | ret a =>
    constructor
    · exact fun h => Or.inr ⟨a, s, ⟨rfl, rfl⟩, h⟩
    · rintro (rfl | ⟨_, _, ⟨rfl, rfl⟩, h⟩)
      · exact stops_refl (k a)
      · exact h
  | step act next ih =>
    constructor
    · rintro (rfl | ⟨e, he, h⟩)
      · exact Or.inl (Or.inl rfl)
      · rcases (ih e s).mp h with h | ⟨a, u, hp, hk⟩
        · exact Or.inl (Or.inr ⟨e, he, h⟩)
        · exact Or.inr ⟨a, u, ⟨e, he, hp⟩, hk⟩
    · rintro ((rfl | ⟨e, he, h⟩) | ⟨a, u, ⟨e, he, hp⟩, hk⟩)
      · exact Or.inl rfl
      · exact Or.inr ⟨e, he, (ih e s).mpr (Or.inl h)⟩
      · exact Or.inr ⟨e, he, (ih e s).mpr (Or.inr ⟨a, u, hp, hk⟩)⟩

theorem always_bind {p : Script η σ α} {k : α → Script η σ β} (hp : p.Always R)
    (hk : ∀ a, (k a).Always R) : (p >>= k).Always R := by
  show (p.bind k).Always R
  induction p with
  | ret a => exact hk a
  | step act next ih => exact fun e s => ⟨(hp e s).1, ih e s (hp e s).2⟩

theorem Always.mono {R' : σ → σ → Prop} {p : Script η σ α} (h : p.Always R)
    (hR : ∀ s t, R s t → R' s t) : p.Always R' := by
  induction p with
  | ret a => trivial
  | step act next ih => exact fun e s => ⟨hR _ _ (h e s).1, ih e s (h e s).2⟩

/-- What every step does along a preorder, a cut-off script has done. -/
theorem Stops.rel {p : Script η σ α} (h : p.Stops Q s t) (hp : p.Always R)
    (hrefl : ∀ s, R s s) (htrans : ∀ {s t u}, R s t → R t u → R s u) : R s t := by
  induction p generalizing s with
  | ret a => exact h ▸ hrefl s
  | step act next ih =>
    rcases h with rfl | ⟨e, -, h⟩
    · exact hrefl t
    · exact htrans (hp e s).1 (ih e s h (hp e s).2)

end Scripts.Script

namespace Restarts

open Scripts

/-- Work with errors `ε`, which ends with the first of them. -/
abbrev Work (η σ ε α : Type) := ExceptT ε (Script η σ) α

variable {η σ ε α β : Type}

/-! ## Steps -/

/-- A statement, which changes the state or fails and leaves it. -/
def exec (stmt : η → σ → Except ε σ) : Work η σ ε Unit :=
  ExceptT.mk (Script.act fun e s =>
    match stmt e s with
    | .ok t => (t, .ok ())
    | .error x => (s, .error x))

/-- A query, which may fail. -/
def query (f : σ → Except ε α) : Work η σ ε α := ExceptT.mk (Script.look fun _ s => f s)

/-- A question to the state. -/
def ask (f : σ → α) : Work η σ ε α := query fun s => .ok (f s)

/-- The work, when the condition is met. -/
def when (c : Bool) (p : Work η σ ε Unit) : Work η σ ε Unit := if c then p else pure ()

/-- The work with its errors passed on as `f` puts them. -/
def wrap (f : ε → ε) (p : Work η σ ε α) : Work η σ ε α := ExceptT.adapt f p

/-- The work, whose error is passed over. -/
def attempt (p : Work η σ ε Unit) : Work η σ ε Unit :=
  ExceptT.mk (p.run >>= fun _ => pure (.ok ()))

/-! ## Runs -/

/-- The work, begun in `s`, gets through and leaves `t`. -/
def Through (Q : η → σ → Prop) (p : Work η σ ε Unit) (s t : σ) : Prop := p.run.Ends Q s (.ok ()) t

variable {Q : η → σ → Prop} {R : σ → σ → Prop} {s t u : σ}

theorem ends_exec {stmt : η → σ → Except ε σ} {r : Except ε Unit} :
    (exec stmt).run.Ends Q s r t ↔
      ∃ e, Q e s ∧ (stmt e s = .ok t ∧ r = .ok () ∨ ∃ x, stmt e s = .error x ∧ r = .error x ∧ t = s) := by
  constructor
  · rintro ⟨e, he, h⟩
    refine ⟨e, he, ?_⟩
    cases hstmt : stmt e s with
    | ok u =>
      simp only [hstmt] at h
      obtain ⟨rfl, rfl⟩ := h
      exact Or.inl ⟨rfl, rfl⟩
    | error x =>
      simp only [hstmt] at h
      obtain ⟨rfl, rfl⟩ := h
      exact Or.inr ⟨x, rfl, rfl, rfl⟩
  · rintro ⟨e, he, ⟨hstmt, rfl⟩ | ⟨x, hstmt, rfl, rfl⟩⟩
    · exact ⟨e, he, by simp only [hstmt]; exact ⟨rfl, rfl⟩⟩
    · exact ⟨e, he, by simp only [hstmt]; exact ⟨rfl, rfl⟩⟩

theorem stops_exec {stmt : η → σ → Except ε σ} :
    (exec stmt).run.Stops Q s t ↔ t = s ∨ Through Q (exec stmt) s t := by
  rw [Through, ends_exec]
  constructor
  · rintro (rfl | ⟨e, he, h⟩)
    · exact Or.inl rfl
    · cases hstmt : stmt e s with
      | ok u =>
        simp only [hstmt] at h
        obtain rfl := h
        exact Or.inr ⟨e, he, Or.inl ⟨hstmt, rfl⟩⟩
      | error x =>
        simp only [hstmt] at h
        exact Or.inl h
  · rintro (rfl | ⟨e, he, ⟨hstmt, -⟩ | ⟨x, -, hr, -⟩⟩)
    · exact Or.inl rfl
    · exact Or.inr ⟨e, he, by simp only [hstmt]; rfl⟩
    · contradiction

theorem ends_query {f : σ → Except ε α} {r : Except ε α} :
    (query f : Work η σ ε α).run.Ends Q s r t ↔ (∃ e, Q e s) ∧ r = f s ∧ t = s :=
  ⟨fun ⟨e, he, hr, ht⟩ => ⟨⟨e, he⟩, hr, ht⟩, fun ⟨⟨e, he⟩, hr, ht⟩ => ⟨e, he, hr, ht⟩⟩

theorem stops_query {f : σ → Except ε α} :
    (query f : Work η σ ε α).run.Stops Q s t ↔ t = s :=
  ⟨fun h => h.elim id fun ⟨_, _, h⟩ => h, Or.inl⟩

theorem ends_bind {p : Work η σ ε α} {k : α → Work η σ ε β} {r : Except ε β} :
    (p >>= k).run.Ends Q s r t ↔
      (∃ a u, p.run.Ends Q s (.ok a) u ∧ (k a).run.Ends Q u r t) ∨
        ∃ x, r = .error x ∧ p.run.Ends Q s (.error x) t := by
  rw [ExceptT.run_bind, Script.ends_bind]
  constructor
  · rintro ⟨a | a, u, hp, hk⟩
    · obtain ⟨rfl, rfl⟩ := hk
      exact Or.inr ⟨a, rfl, hp⟩
    · exact Or.inl ⟨a, u, hp, hk⟩
  · rintro (⟨a, u, hp, hk⟩ | ⟨x, rfl, hp⟩)
    · exact ⟨.ok a, u, hp, hk⟩
    · exact ⟨.error x, t, hp, rfl, rfl⟩

theorem stops_bind {p : Work η σ ε α} {k : α → Work η σ ε β} :
    (p >>= k).run.Stops Q s t ↔
      p.run.Stops Q s t ∨ ∃ a u, p.run.Ends Q s (.ok a) u ∧ (k a).run.Stops Q u t := by
  rw [ExceptT.run_bind, Script.stops_bind]
  constructor
  · rintro (h | ⟨a | a, u, hp, hk⟩)
    · exact Or.inl h
    · obtain rfl := hk
      exact Or.inl hp.stops
    · exact Or.inr ⟨a, u, hp, hk⟩
  · rintro (h | ⟨a, u, hp, hk⟩)
    · exact Or.inl h
    · exact Or.inr ⟨.ok a, u, hp, hk⟩

theorem stops_ask_bind {f : σ → α} {k : α → Work η σ ε β} :
    (ask f >>= k).run.Stops Q s t ↔ t = s ∨ (∃ e, Q e s) ∧ (k (f s)).run.Stops Q s t := by
  rw [stops_bind, ask, stops_query]
  refine or_congr_right ⟨?_, ?_⟩
  · rintro ⟨a, u, hq, hk⟩
    obtain ⟨he, ha, rfl⟩ := ends_query.mp hq
    obtain rfl := Except.ok.inj ha
    exact ⟨he, hk⟩
  · rintro ⟨he, hk⟩
    exact ⟨f s, s, ends_query.mpr ⟨he, rfl, rfl⟩, hk⟩

/-! ## Errors passed on -/

theorem run_wrap (f : ε → ε) (p : Work η σ ε α) :
    (wrap f p).run = p.run >>= fun r => pure (r.mapError f) := rfl

theorem stops_wrap {f : ε → ε} {p : Work η σ ε α} :
    (wrap f p).run.Stops Q s t ↔ p.run.Stops Q s t := by
  rw [run_wrap, Script.stops_bind]
  constructor
  · rintro (h | ⟨r, u, hp, rfl⟩)
    · exact h
    · exact hp.stops
  · exact Or.inl

/-! ## What every step keeps -/

section Always

variable (hrefl : ∀ s, R s s)
include hrefl

theorem always_exec {stmt : η → σ → Except ε σ} (h : ∀ e s t, stmt e s = .ok t → R s t) :
    (exec stmt).run.Always R := by
  intro e s
  refine ⟨?_, trivial⟩
  cases hstmt : stmt e s with
  | ok t =>
    simp only [hstmt]
    exact h e s t hstmt
  | error x =>
    simp only [hstmt]
    exact hrefl s

theorem always_query (f : σ → Except ε α) : (query f : Work η σ ε α).run.Always R :=
  fun _ s => ⟨hrefl s, trivial⟩

end Always

theorem always_bind {p : Work η σ ε α} {k : α → Work η σ ε β} (hp : p.run.Always R)
    (hk : ∀ a, (k a).run.Always R) : (p >>= k).run.Always R := by
  rw [ExceptT.run_bind]
  refine Script.always_bind hp fun r => ?_
  cases r with
  | ok a => exact hk a
  | error x => trivial

theorem always_when {c : Bool} {p : Work η σ ε Unit} (hp : p.run.Always R) :
    (when c p).run.Always R := by
  cases c
  · trivial
  · exact hp

theorem always_wrap {f : ε → ε} {p : Work η σ ε α} (hp : p.run.Always R) :
    (wrap f p).run.Always R :=
  Script.always_bind hp fun _ => trivial

theorem always_forM {xs : List β} {f : β → Work η σ ε Unit} (h : ∀ x ∈ xs, (f x).run.Always R) :
    (xs.forM f).run.Always R := by
  induction xs with
  | nil => trivial
  | cons x xs ih =>
    exact always_bind (h x List.mem_cons_self) fun _ =>
      ih fun y hy => h y (List.mem_cons_of_mem x hy)

end Restarts
