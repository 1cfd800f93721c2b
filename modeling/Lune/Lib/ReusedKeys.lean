import Lune.Lib.Programs

/-!
# Work under keys that are given out again

Things are known by their keys, and when a thing is gone, another one may come to have its
key.  Work that was started for a thing writes under the key, also when the thing is gone
by then.

`System.generation` counts how often a key has come to be there; with it, work belongs to
the thing that had the key when the work was started.  As long as no key comes back while
work for it is in flight, no work writes to a thing that it was not started for.
-/

namespace ReusedKeys

open Programs

variable {κ η σ ω β α υ : Type}

/-- Work in progress: the key and the generation it was started for, and what is left. -/
structure Work (κ η σ ω : Type) where
  key : κ
  generation : Nat
  rest : Prog η σ ω Unit

/-- Something is left to do. -/
def Work.inFlight (w : Work κ η σ ω) : Bool :=
  match w.rest with
  | .ret _ => false
  | .read _ | .write _ _ => true

/-- The shared state, how often each key has come to be there, and the work. -/
structure System (κ η σ ω : Type) where
  state : σ
  generation : κ → Nat
  works : List (Work κ η σ ω)

/-- The kinds of work and of other changes, and what they do. -/
structure Setting (κ η σ ω β α : Type) where
  apply : η → σ → ω → σ
  alter : η → σ → α → σ
  present : σ → κ → Bool
  key : β → κ
  program : β → Prog η σ ω Unit

/-- Work is started, one of the works makes a step, or there is another change. -/
inductive Event (η β α : Type) where
  | start (b : β)
  | act (n : Nat) (e : η)
  | other (e : η) (a : α)

/-- Nothing is in progress. -/
def System.idle (s : σ) : System κ η σ ω := ⟨s, fun _ => 0, []⟩

namespace Setting

variable (S : Setting κ η σ ω β α)

/-- The change lets the key come to be there. -/
def brings (e : η) (s : σ) (a : α) (k : κ) : Bool :=
  !S.present s k && S.present (S.alter e s a) k

/-- The next state, when the event can happen. -/
def step (s : System κ η σ ω) : Event η β α → Option (System κ η σ ω)
  | .start b =>
    some { s with works := s.works ++ [⟨S.key b, s.generation (S.key b), S.program b⟩] }
  | .act n e =>
    match s.works[n]? with
    | none => none
    | some w =>
      match w.rest with
      | .ret () => none
      | .read next => some { s with works := s.works.set n { w with rest := next e s.state } }
      | .write call next =>
        some { s with
          state := S.apply e s.state call
          works := s.works.set n { w with rest := next } }
  | .other e a =>
    some { s with
      state := S.alter e s.state a
      generation := fun k =>
        if S.brings e s.state a k then s.generation k + 1 else s.generation k }

/-- The change brings back no key that work in flight was started for. -/
def NoReuse (s : System κ η σ ω) : Event η β α → Prop
  | .start _ | .act _ _ => True
  | .other e a => ∀ w ∈ s.works, w.inFlight = true → S.brings e s.state a w.key = false

/-- A step of a work changes what is seen of the thing it was started for, at most. -/
def Spares (view : σ → κ → υ) (s : System κ η σ ω) (ev : Event η β α) : Prop :=
  ∀ n e w t, ev = .act n e → s.works[n]? = some w → S.step s ev = some t →
    ∀ k, (k = w.key → s.generation k ≠ w.generation) → view t.state k = view s.state k

/-- Work in flight belongs to the thing that has its key, or had it last, and writes under
that key. -/
def Sound (about : ω → Option κ) (s : System κ η σ ω) : Prop :=
  ∀ w ∈ s.works,
    w.rest.Safe (fun _ _ => True) (fun call => about call = some w.key ∨ about call = none)
        (fun _ => True) ∧
      (w.inFlight = true → s.generation w.key = w.generation)

variable {S} {about : ω → Option κ} {view : σ → κ → υ} {s t : System κ η σ ω} {ev : Event η β α}

theorem sound_idle (s : σ) : Sound about (System.idle s : System κ η σ ω) :=
  fun _ hw => absurd hw List.not_mem_nil

/-- The works after a step of one of them. -/
theorem Sound.set {n : Nat} {w : Work κ η σ ω} {rest : Prog η σ ω Unit} (hs : Sound about s)
    (hw : w ∈ s.works) (hflight : w.inFlight = true)
    (hrest : rest.Safe (fun _ _ => True)
      (fun call => about call = some w.key ∨ about call = none) fun _ => True) (state : σ) :
    Sound about { s with state := state, works := s.works.set n { w with rest := rest } } := by
  intro v hv
  rcases List.mem_or_eq_of_mem_set hv with hv | rfl
  · exact hs v hv
  · exact ⟨hrest, fun _ => (hs w hw).2 hflight⟩

/-- A step that reuses no key keeps the works sound. -/
theorem Sound.step
    (hprogram : ∀ b, (S.program b).Safe (fun _ _ => True)
      (fun call => about call = some (S.key b) ∨ about call = none) fun _ => True)
    (hs : Sound about s) (hkeys : S.NoReuse s ev) (h : S.step s ev = some t) :
    Sound about t := by
  cases ev with
  | start b =>
    obtain rfl := Option.some.inj h
    intro w hw
    rcases List.mem_append.mp hw with hw | hw
    · exact hs w hw
    · obtain rfl := List.mem_singleton.mp hw
      exact ⟨hprogram b, fun _ => rfl⟩
  | act n e =>
    rw [Setting.step] at h
    split at h
    · contradiction
    next w hn =>
      have hw := List.mem_of_getElem? hn
      have hsafe := (hs w hw).1
      split at h
      · contradiction
      next next hrest =>
        obtain rfl := Option.some.inj h
        rw [hrest] at hsafe
        exact hs.set hw (by rw [Work.inFlight, hrest]) (hsafe e s.state trivial) s.state
      next call next hrest =>
        obtain rfl := Option.some.inj h
        rw [hrest] at hsafe
        exact hs.set hw (by rw [Work.inFlight, hrest]) hsafe.2 _
  | other e a =>
    obtain rfl := Option.some.inj h
    intro w hw
    refine ⟨(hs w hw).1, fun hflight => ?_⟩
    show (if S.brings e s.state a w.key then _ else _) = _
    rw [hkeys w hw hflight, if_neg Bool.false_ne_true]
    exact (hs w hw).2 hflight

/-- Sound works change only what they were started for. -/
theorem Sound.spares
    (hframe : ∀ e s call k, about call ≠ some k → view (S.apply e s call) k = view s k)
    (hs : Sound about s) : S.Spares view s ev := by
  rintro n e w t rfl hn h k hk
  have hsafe := hs w (List.mem_of_getElem? hn)
  rw [Setting.step, hn] at h
  dsimp only at h
  split at h
  · contradiction
  · obtain rfl := Option.some.inj h
    rfl
  next call next hrest =>
    obtain rfl := Option.some.inj h
    refine hframe e s.state call k fun habout => ?_
    have hgeneration := hsafe.2 (by rw [Work.inFlight, hrest])
    rw [hrest] at hsafe
    rcases hsafe.1.1 with hkey | hnone
    · obtain rfl := Option.some.inj (hkey.symm.trans habout)
      exact hk rfl hgeneration
    · rw [hnone] at habout
      contradiction

/-- In a run that reuses no key of work in flight, every work changes only what it was
started for. -/
theorem along_spares
    (hprogram : ∀ b, (S.program b).Safe (fun _ _ => True)
      (fun call => about call = some (S.key b) ∨ about call = none) fun _ => True)
    (hframe : ∀ e s call k, about call ≠ some k → view (S.apply e s call) k = view s k)
    {evs : List (Event η β α)} (hs : Sound about s) (hkeys : Runs.Along S.step S.NoReuse s evs) :
    Runs.Along S.step (S.Spares view) s evs := by
  induction evs generalizing s with
  | nil => trivial
  | cons ev evs ih =>
    exact ⟨hs.spares hframe, fun t ht => ih (hs.step hprogram hkeys.1 ht) (hkeys.2 t ht)⟩

end Setting

end ReusedKeys
