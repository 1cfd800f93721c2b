import Lune.Lib.Programs
import Mathlib.Logic.Relation

/-!
# A program against another writer

A program takes its atomic steps on a state that somebody else writes to as well,
at any moment between them.  An observer keeps a note of what the other writer
does, which the program does not see.

`Race` goes step by step.  `Prog.Amid` is a program from its start to its end, with
the list of its writes.
-/

namespace Programs

/-- The shared state, what the program has left to do, and the note. -/
structure Race (η σ ω α ν : Type) where
  state : σ
  rest : Prog η σ ω α
  note : ν

variable {η σ ω α ν : Type}

namespace Race

section Step

variable (apply : η → σ → ω → σ) (other : σ → ν → σ → ν → Prop)

/-- The program reads or writes, or the other writer makes a step. -/
inductive Step : Race η σ ω α ν → Race η σ ω α ν → Prop where
  | read (e : η) (s : σ) (next : η → σ → Prog η σ ω α) (n : ν) :
    Step ⟨s, .read next, n⟩ ⟨s, next e s, n⟩
  | write (e : η) (s : σ) (w : ω) (next : Prog η σ ω α) (n : ν) :
    Step ⟨s, .write w next, n⟩ ⟨apply e s w, next, n⟩
  | other (s : σ) (p : Prog η σ ω α) (n : ν) {t : σ} {m : ν} (h : other s n t m) :
    Step ⟨s, p, n⟩ ⟨t, p, m⟩

/-- Any number of steps. -/
def Reaches : Race η σ ω α ν → Race η σ ω α ν → Prop :=
  Relation.ReflTransGen (Step apply other)

end Step

variable {apply : η → σ → ω → σ} {other : σ → ν → σ → ν → Prop}

/-- What the writes of a safe program keep, and the steps of the other writer,
holds after any number of steps, and the program stays safe. -/
theorem Reaches.keeps {I : σ → ν → Prop} {P : ω → Prop} {R : α → Prop}
    {r r' : Race η σ ω α ν} (h : Reaches apply other r r')
    (hown : ∀ e s n w, I s n → P w → I (apply e s w) n)
    (hother : ∀ s n t m, I s n → other s n t m → I t m)
    (hinv : I r.state r.note) (hsafe : r.rest.Safe (fun _ _ => True) P R) :
    I r'.state r'.note ∧ r'.rest.Safe (fun _ _ => True) P R := by
  induction h with
  | refl => exact ⟨hinv, hsafe⟩
  | tail _ hstep ih =>
    obtain ⟨hI, hsafe⟩ := ih
    cases hstep with
    | read e s next n => exact ⟨hI, hsafe e s trivial⟩
    | write e s w next n => exact ⟨hown e s n w hI hsafe.1, hsafe.2⟩
    | other s p n hother' => exact ⟨hother s n _ _ hI hother', hsafe⟩

/-- A program that must hit `P` can come to a write of `P` before the other writer
has made a step.  What its writes keep still holds there. -/
theorem reaches_hit (e : η) {P : ω → Prop} {J : σ → Prop} {p : Prog η σ ω α} (h : p.Hits P)
    (hkeep : ∀ e s w, J s → J (apply e s w)) {s : σ} (hs : J s) (n : ν) :
    ∃ t w next, Reaches apply other ⟨s, p, n⟩ ⟨t, .write w next, n⟩ ∧ P w ∧ J t := by
  induction p generalizing s with
  | ret a => exact h.elim
  | read next ih =>
    obtain ⟨t, w, next', hreach, hw⟩ := ih e s (h e s) hs
    exact ⟨t, w, next', .head (.read e s next n) hreach, hw⟩
  | write w next ih =>
    rcases h with hw | hnext
    · exact ⟨s, w, next, .refl, hw, hs⟩
    · obtain ⟨t, w', next', hreach, hw'⟩ := ih hnext (hkeep e s w hs)
      exact ⟨t, w', next', .head (.write e s w next n) hreach, hw'⟩

/-- A run of the program alone. -/
theorem reaches_ends {p : Prog η σ ω α} {s t : σ} {a : α} (h : p.Ends apply s a t) (n : ν) :
    Reaches apply other ⟨s, p, n⟩ ⟨t, .ret a, n⟩ := by
  induction h with
  | ret a s => exact .refl
  | read e h ih => exact .head (.read e _ _ n) ih
  | write e h ih => exact .head (.write e _ _ _ n) ih

/-- The program alone, for a number of steps. -/
def advance (apply : η → σ → ω → σ) (e : η) (r : Race η σ ω α ν) : Nat → Race η σ ω α ν
  | 0 => r
  | steps + 1 =>
    match r.rest with
    | .ret _ => r
    | .read next => advance apply e ⟨r.state, next e r.state, r.note⟩ steps
    | .write w next => advance apply e ⟨apply e r.state w, next, r.note⟩ steps

theorem reaches_advance (e : η) (r : Race η σ ω α ν) (steps : Nat) :
    Reaches apply other r (r.advance apply e steps) := by
  induction steps generalizing r with
  | zero => exact .refl
  | succ steps ih =>
    obtain ⟨s, p, n⟩ := r
    cases p with
    | ret a => exact .refl
    | read next => exact .head (.read e s next n) (ih ⟨s, next e s, n⟩)
    | write w next => exact .head (.write e s w next n) (ih ⟨apply e s w, next, n⟩)

end Race

/-! ## From the start to the end -/

namespace Prog

variable {β : Type}

section Amid

variable (apply : η → σ → ω → σ) (E : η → Prop) (other : σ → σ → Prop)

/-- Among the steps of the other writer, the program runs from the first state to
the second, makes the writes of the list and returns `a`.  Its steps see
environments of `E`. -/
inductive Amid : Prog η σ ω α → σ → List ω → α → σ → Prop where
  | ret (a : α) (s : σ) : Amid (ret a) s [] a s
  | read {e : η} {next : η → σ → Prog η σ ω α} {s t : σ} {ws : List ω} {a : α} (he : E e)
    (h : Amid (next e s) s ws a t) : Amid (read next) s ws a t
  | write {e : η} {w : ω} {next : Prog η σ ω α} {s t : σ} {ws : List ω} {a : α} (he : E e)
    (h : Amid next (apply e s w) ws a t) : Amid (write w next) s (w :: ws) a t
  | other {p : Prog η σ ω α} {s u t : σ} {ws : List ω} {a : α} (ho : other s u)
    (h : Amid p u ws a t) : Amid p s ws a t

/-- The writes of the run in which every step sees the same environment. -/
def written (e : η) : Prog η σ ω α → σ → List ω
  | ret _, _ => []
  | read next, s => (next e s).written e s
  | write w next, s => w :: next.written e (apply e s w)

end Amid

variable {apply : η → σ → ω → σ} {E : η → Prop} {other : σ → σ → Prop}

/-- A run alone is one among no steps of the other writer. -/
theorem amid_run {e : η} (he : E e) (p : Prog η σ ω α) (s : σ) :
    p.Amid apply E other s (p.written apply e s) (p.run apply e s).1 (p.run apply e s).2 := by
  induction p generalizing s with
  | ret a => exact .ret a s
  | read next ih => exact .read he (ih e s s)
  | write w next ih => exact .write he (ih (apply e s w))

theorem Amid.after {p : Prog η σ ω α} {s u t : σ} {ws : List ω} {a : α}
    (ho : Relation.ReflTransGen other s u) (h : p.Amid apply E other u ws a t) :
    p.Amid apply E other s ws a t := by
  induction ho using Relation.ReflTransGen.head_induction_on with
  | refl => exact h
  | head hstep _ ih => exact .other hstep ih

/-! What a run is, by the form of the program. -/

@[simp] theorem amid_pure {a b : α} {s t : σ} {ws : List ω} :
    (pure a : Prog η σ ω α).Amid apply E other s ws b t ↔
      ws = [] ∧ a = b ∧ Relation.ReflTransGen other s t := by
  constructor
  · intro h
    generalize hp : (pure a : Prog η σ ω α) = p at h
    induction h with
    | ret a' s =>
      obtain rfl : a = a' := Prog.ret.inj hp
      exact ⟨rfl, rfl, .refl⟩
    | read | write => exact nomatch hp
    | other ho _ ih =>
      obtain ⟨hws, hab, hrest⟩ := ih hp
      exact ⟨hws, hab, .head ho hrest⟩
  · rintro ⟨rfl, rfl, hrest⟩
    exact Amid.after hrest (.ret a t)

@[simp] theorem amid_look {f : η → σ → α} {a : α} {s t : σ} {ws : List ω} :
    (look f : Prog η σ ω α).Amid apply E other s ws a t ↔
      ∃ e u, E e ∧ Relation.ReflTransGen other s u ∧ ws = [] ∧ f e u = a ∧
        Relation.ReflTransGen other u t := by
  constructor
  · intro h
    generalize hp : (look f : Prog η σ ω α) = p at h
    induction h with
    | ret | write => exact nomatch hp
    | @read e next s t ws a he h =>
      obtain rfl := Prog.read.inj hp
      obtain ⟨hws, ha, hrest⟩ := amid_pure.mp h
      exact ⟨e, s, he, .refl, hws, ha, hrest⟩
    | other ho _ ih =>
      obtain ⟨e, u, he, hbefore, hrest⟩ := ih hp
      exact ⟨e, u, he, .head ho hbefore, hrest⟩
  · rintro ⟨e, u, he, hbefore, rfl, rfl, hrest⟩
    exact Amid.after hbefore (.read he (amid_pure.mpr ⟨rfl, rfl, hrest⟩))

@[simp] theorem amid_writes_nil {u : Unit} {s t : σ} {ws : List ω} :
    (writes [] : Prog η σ ω Unit).Amid apply E other s ws u t ↔
      ws = [] ∧ Relation.ReflTransGen other s t :=
  (amid_pure (a := ()) (b := u)).trans ⟨fun h => ⟨h.1, h.2.2⟩, fun h => ⟨h.1, rfl, h.2⟩⟩

@[simp] theorem amid_writes_cons {w : ω} {rest : List ω} {a : Unit} {s t : σ} {ws : List ω} :
    (writes (w :: rest) : Prog η σ ω Unit).Amid apply E other s ws a t ↔
      ∃ e u ws', E e ∧ Relation.ReflTransGen other s u ∧ ws = w :: ws' ∧
        (writes rest : Prog η σ ω Unit).Amid apply E other (apply e u w) ws' a t := by
  constructor
  · intro h
    generalize hp : (writes (w :: rest) : Prog η σ ω Unit) = p at h
    induction h with
    | ret | read => exact nomatch hp
    | @write e w' next s t ws a he h =>
      obtain ⟨rfl, rfl⟩ := Prog.write.inj hp
      exact ⟨e, s, ws, he, .refl, rfl, h⟩
    | other ho _ ih =>
      obtain ⟨e, u, ws', he, hbefore, hrest⟩ := ih hp
      exact ⟨e, u, ws', he, .head ho hbefore, hrest⟩
  · rintro ⟨e, u, ws', he, hbefore, rfl, hrest⟩
    exact Amid.after hbefore (.write he hrest)

@[simp] theorem amid_bind {p : Prog η σ ω α} {k : α → Prog η σ ω β} {b : β} {s t : σ}
    {ws : List ω} :
    (p >>= k).Amid apply E other s ws b t ↔
      ∃ a u ws₁ ws₂, ws = ws₁ ++ ws₂ ∧ p.Amid apply E other s ws₁ a u ∧
        (k a).Amid apply E other u ws₂ b t := by
  constructor
  · intro h
    change (p.bind k).Amid apply E other s ws b t at h
    generalize hq : p.bind k = q at h
    induction h generalizing p with
    | ret b s =>
      cases p with
      | ret a =>
        have hk : k a = .ret b := hq
        exact ⟨a, s, [], [], rfl, .ret a s, hk ▸ .ret b s⟩
      | read | write => exact nomatch hq
    | @read e next s t ws b he h ih =>
      cases p with
      | ret a =>
        have hk : k a = .read next := hq
        exact ⟨a, s, [], ws, rfl, .ret a s, hk ▸ .read he h⟩
      | read next' =>
        obtain rfl := Prog.read.inj hq
        obtain ⟨a, u, ws₁, ws₂, hws, hp, hk⟩ := ih rfl
        exact ⟨a, u, ws₁, ws₂, hws, .read he hp, hk⟩
      | write => exact nomatch hq
    | @write e w next s t ws b he h ih =>
      cases p with
      | ret a =>
        have hk : k a = .write w next := hq
        exact ⟨a, s, [], w :: ws, rfl, .ret a s, hk ▸ .write he h⟩
      | read => exact nomatch hq
      | write w' next' =>
        obtain ⟨rfl, rfl⟩ := Prog.write.inj hq
        obtain ⟨a, u, ws₁, ws₂, hws, hp, hk⟩ := ih rfl
        exact ⟨a, u, w' :: ws₁, ws₂, congrArg (w' :: ·) hws, .write he hp, hk⟩
    | other ho _ ih =>
      obtain ⟨a, u, ws₁, ws₂, hws, hp, hk⟩ := ih hq
      exact ⟨a, u, ws₁, ws₂, hws, .other ho hp, hk⟩
  · rintro ⟨a, u, ws₁, ws₂, rfl, hp, hk⟩
    show (p.bind k).Amid apply E other s (ws₁ ++ ws₂) b t
    induction hp with
    | ret a s => exact hk
    | read he _ ih => exact .read he (ih hk)
    | write he _ ih => exact .write he (ih hk)
    | other ho _ ih => exact .other ho (ih hk)

/-- What the writes of a safe program keep, and the steps of the other writer, holds
at the end, and every write is one of those. -/
theorem Amid.keeps {I : σ → Prop} {P : ω → Prop} {R : α → Prop} {p : Prog η σ ω α} {s t : σ}
    {ws : List ω} {a : α} (h : p.Amid apply E other s ws a t)
    (hsafe : p.Safe (fun e s => E e ∧ I s) P R)
    (hown : ∀ e s w, I s → P w → I (apply e s w)) (hother : ∀ s u, I s → other s u → I u)
    (hs : I s) : I t ∧ R a ∧ ∀ w ∈ ws, P w := by
  induction h with
  | ret a s => exact ⟨hs, hsafe, fun w hw => absurd hw List.not_mem_nil⟩
  | read he h ih => exact ih (hsafe _ _ ⟨he, hs⟩) hs
  | write he h ih =>
    obtain ⟨hI, hR, hP⟩ := ih hsafe.2 (hown _ _ _ hs hsafe.1)
    refine ⟨hI, hR, ?_⟩
    intro w hw
    rcases List.mem_cons.mp hw with rfl | hw
    · exact hsafe.1
    · exact hP w hw
  | other ho h ih => exact ih hsafe (hother _ _ hs ho)

end Prog

end Programs
