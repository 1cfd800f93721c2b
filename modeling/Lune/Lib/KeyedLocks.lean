import Lune.Lib.Keyed

/-!
# A lock for each key

Locks that exist while somebody refers to them: a map from keys to lock objects,
each with the number of its references.  A client takes a reference (`acquire`),
locks the object, unlocks it and drops the reference (`release`); the last one to do
so takes the key out of the map.  The clients hold on to the object itself, so that
two of them exclude each other only as long as the map has not got a second object
for the key.  `Consistent` is the invariant that keeps it from that, and
`Consistent.exclusive` what it is for.
-/

namespace KeyedLocks

open Keyed

variable {κ : Type}

/-- A lock object. -/
structure Lock where
  refs : Int
  held : Bool := false

/-- The objects made so far, and which of them the map has for a key. -/
structure Locks (κ : Type) where
  objects : List Lock := []
  map : GoMap κ Nat := Table.empty

namespace Locks

variable [DecidableEq κ]

/-- Take a reference to the object of the key, which is made when there is none. -/
def acquire (L : Locks κ) (k : κ) : Locks κ × Nat :=
  match L.map.get? k with
  | some lk => ({ L with objects := L.objects.modify lk fun o => { o with refs := o.refs + 1 } }, lk)
  | none =>
    ({ objects := L.objects ++ [{ refs := 1 }], map := L.map.put k L.objects.length },
      L.objects.length)

/-- Lock the object; not possible while it is held. -/
def lock (L : Locks κ) (lk : Nat) : Option (Locks κ) :=
  if (L.objects[lk]?).any Lock.held then none
  else some { L with objects := L.objects.modify lk fun o => { o with held := true } }

/-- Unlock the object. -/
def unlock (L : Locks κ) (lk : Nat) : Locks κ :=
  { L with objects := L.objects.modify lk fun o => { o with held := false } }

/-- Drop a reference, and the object with the last one. -/
def release (L : Locks κ) (k : κ) (lk : Nat) : Locks κ where
  objects := L.objects.modify lk fun o => { o with refs := o.refs - 1 }
  map := if (L.objects[lk]?).any (fun o => decide (o.refs - 1 = 0)) then L.map.erase k else L.map

end Locks

/-- A reference of a client: the key, the object and whether the client holds the lock. -/
structure Claim (κ : Type) where
  key : κ
  lk : Nat
  holds : Bool

def refersTo (lk : Nat) (c : Option (Claim κ)) : Bool := c.any fun c => c.lk == lk

/-- The map and the objects fit what the clients refer to. -/
structure Consistent [DecidableEq κ] (L : Locks κ) (clients : List (Option (Claim κ))) : Prop where
  mapped : ∀ c, some c ∈ clients → L.map.get? c.key = some c.lk
  counted : ∀ k lk, L.map.get? k = some lk →
    ∃ o, L.objects[lk]? = some o ∧ o.refs = (clients.countP (refersTo lk) : Nat)
  oneKey : ∀ k k' lk, L.map.get? k = some lk → L.map.get? k' = some lk → k = k'
  held : ∀ c, some c ∈ clients → c.holds = true →
    ∃ o, L.objects[c.lk]? = some o ∧ o.held = true
  oneHolder : ∀ (i j : Nat) (c d : Claim κ), clients[i]? = some (some c) → clients[j]? = some (some d) →
    c.holds = true → d.holds = true → c.lk = d.lk → i = j

/-! ## Changes of one client -/

variable {L L' : Locks κ} {clients : List (Option (Claim κ))} {i : Nat} {k : κ} {lk : Nat}

theorem countP_set_add {α : Type} {p : α → Bool} {l : List α} {i : Nat} {a : α} (b : α)
    (h : l[i]? = some a) :
    (l.set i b).countP p + (if p a then 1 else 0) = l.countP p + (if p b then 1 else 0) := by
  induction l generalizing i with
  | nil => simp at h
  | cons x l ih =>
    cases i with
    | zero =>
      obtain rfl : x = a := by simpa using h
      simp only [List.set_cons_zero, List.countP_cons]
      omega
    | succ i =>
      have hrest := ih (i := i) (by simpa using h)
      simp only [List.set_cons_succ, List.countP_cons]
      omega

theorem count_set {c new : Option (Claim κ)} (hi : clients[i]? = some c) (a : Nat) :
    ((clients.set i new).countP (refersTo a) : Int) =
      clients.countP (refersTo a) - (if refersTo a c then 1 else 0) +
        (if refersTo a new then 1 else 0) := by
  have h := countP_set_add (p := refersTo a) new hi
  by_cases hc : refersTo a c = true <;> by_cases hn : refersTo a new = true <;>
    simp only [hc, hn, reduceIte, Bool.false_eq_true] at h ⊢ <;> omega

theorem mem_set_cases {c : Claim κ} {new : Option (Claim κ)} (h : some c ∈ clients.set i new) :
    some c ∈ clients ∨ new = some c :=
  (List.mem_or_eq_of_mem_set h).imp_right Eq.symm

variable [DecidableEq κ]

/-- No two clients hold the lock of one key. -/
theorem Consistent.exclusive (h : Consistent L clients) {i j : Nat} {c d : Claim κ}
    (hi : clients[i]? = some (some c)) (hj : clients[j]? = some (some d)) (hc : c.holds = true)
    (hd : d.holds = true) (hkey : c.key = d.key) : i = j := by
  have hlk := h.mapped c (List.mem_of_getElem? hi)
  rw [hkey, h.mapped d (List.mem_of_getElem? hj)] at hlk
  exact h.oneHolder i j c d hi hj hc hd (Option.some.inj hlk).symm

theorem consistent_nil : Consistent ({} : Locks κ) [] where
  mapped := by simp
  counted := by
    intro k lk h
    contradiction
  oneKey := by
    intro k k' lk h
    contradiction
  held := by simp
  oneHolder := by simp


/-- The clients of one lock are still exclusive when one of them becomes another that
does not hold it. -/
theorem oneHolder_set (h : Consistent L clients) {new : Option (Claim κ)}
    (hnew : ∀ c, new = some c → c.holds = true →
      ∀ (j : Nat) (d : Claim κ), clients[j]? = some (some d) → d.holds = true → c.lk = d.lk → i = j) :
    ∀ (a b : Nat) (c d : Claim κ), (clients.set i new)[a]? = some (some c) → (clients.set i new)[b]? = some (some d) →
      c.holds = true → d.holds = true → c.lk = d.lk → a = b := by
  intro a b c d ha hb hc hd hlk
  rw [List.getElem?_set] at ha hb
  by_cases hia : i = a
  · by_cases hib : i = b
    · omega
    · rw [if_neg hib] at hb
      have hnewc : new = some c := by
        rw [if_pos hia] at ha
        split at ha
        · exact Option.some.inj ha
        · contradiction
      exact hia.symm.trans (hnew c hnewc hc b d hb hd hlk)
  · rw [if_neg hia] at ha
    by_cases hib : i = b
    · have hnewd : new = some d := by
        rw [if_pos hib] at hb
        split at hb
        · exact Option.some.inj hb
        · contradiction
      exact (hnew d hnewd hd a c ha hc hlk.symm).symm.trans hib
    · rw [if_neg hib] at hb
      exact h.oneHolder a b c d ha hb hc hd hlk

/-- The object of a key is one of those made. -/
theorem Consistent.lt_length (h : Consistent L clients) (hk : L.map.get? k = some lk) :
    lk < L.objects.length := by
  obtain ⟨o, ho, -⟩ := h.counted k lk hk
  exact (List.getElem?_eq_some_iff.mp ho).1

/-- A new client that refers to nothing. -/
theorem Consistent.push (h : Consistent L clients) : Consistent L (clients ++ [none]) where
  mapped := by
    intro c hc
    exact h.mapped c (by simpa using hc)
  counted := by
    intro k lk hk
    obtain ⟨o, ho, hrefs⟩ := h.counted k lk hk
    refine ⟨o, ho, hrefs.trans ?_⟩
    simp [refersTo]
  oneKey := h.oneKey
  held := by
    intro c hc
    exact h.held c (by simpa using hc)
  oneHolder := by
    intro a b c d ha hb
    have hold : ∀ {a : Nat} {c : Claim κ}, (clients ++ [none])[a]? = some (some c) →
        clients[a]? = some (some c) := by
      intro a c ha
      by_cases hlt : a < clients.length
      · rwa [List.getElem?_append_left hlt] at ha
      · rw [List.getElem?_append_right (by omega)] at ha
        cases hsub : a - clients.length with
        | zero => simp [hsub] at ha
        | succ n => simp [hsub] at ha
    exact h.oneHolder a b c d (hold ha) (hold hb)

/-- A client that changes without a change of what it refers to. -/
theorem Consistent.same (h : Consistent L clients) {c : Option (Claim κ)}
    (hi : clients[i]? = some c) : Consistent L (clients.set i c) := by
  obtain ⟨hlt, rfl⟩ := List.getElem?_eq_some_iff.mp hi
  rwa [List.set_getElem_self]

/-! ## The operations -/

section Operations

variable {f : Lock → Lock}

theorem getElem?_modify_eq {objects : List Lock} {o : Lock} {a : Nat} (h : objects[a]? = some o)
    (lk : Nat) : (objects.modify lk f)[a]? = some (if lk = a then f o else o) := by
  rw [List.getElem?_modify, h]
  by_cases heq : lk = a <;> simp [heq]

/-- An object with a changed number of references holds as before. -/
theorem held_modify (hf : ∀ o, (f o).held = o.held) {objects : List Lock} {a : Nat} (lk : Nat)
    (h : ∃ o, objects[a]? = some o ∧ o.held = true) :
    ∃ o, (objects.modify lk f)[a]? = some o ∧ o.held = true := by
  obtain ⟨o, ho, hheld⟩ := h
  refine ⟨_, getElem?_modify_eq ho lk, ?_⟩
  split
  · exact (hf o).trans hheld
  · exact hheld

/-- A client takes a reference. -/
theorem Consistent.acquire (h : Consistent L clients) (hi : clients[i]? = some none) (k : κ) :
    Consistent (L.acquire k).1 (clients.set i (some ⟨k, (L.acquire k).2, false⟩)) := by
  have hholder : ∀ lk : Nat, ∀ c : Claim κ, some (⟨k, lk, false⟩ : Claim κ) = some c →
      c.holds = true → ∀ (j : Nat) (d : Claim κ), clients[j]? = some (some d) → d.holds = true → c.lk = d.lk → i = j := by
    intro lk c hc hholds
    obtain rfl := Option.some.inj hc
    contradiction
  unfold Locks.acquire
  cases hmap : L.map.get? k with
  | some lk =>
    refine ⟨?_, ?_, h.oneKey, ?_, oneHolder_set h (hholder lk)⟩
    · intro c hc
      cases mem_set_cases hc with
      | inl hold => exact h.mapped c hold
      | inr hnew =>
        obtain rfl := Option.some.inj hnew
        exact hmap
    · intro k' lk' hk'
      obtain ⟨o, ho, hrefs⟩ := h.counted k' lk' hk'
      refine ⟨_, getElem?_modify_eq ho lk, ?_⟩
      rw [count_set hi]
      by_cases heq : lk = lk'
      · simp [refersTo, heq, hrefs]
      · simp [refersTo, heq, hrefs]
    · intro c hc hholds
      cases mem_set_cases hc with
      | inl hold =>
        exact held_modify (f := fun o => { o with refs := o.refs + 1 }) (fun _ => rfl) lk
          (h.held c hold hholds)
      | inr hnew =>
        obtain rfl := Option.some.inj hnew
        contradiction
  | none =>
    have hlt : ∀ k' lk', L.map.get? k' = some lk' → lk' < L.objects.length := fun _ _ => h.lt_length
    refine ⟨?_, ?_, ?_, ?_, oneHolder_set h (hholder _)⟩
    · intro c hc
      show (L.map.put k L.objects.length).get? c.key = some c.lk
      rw [GoMap.get?_put]
      cases mem_set_cases hc with
      | inl hold =>
        have hc' := h.mapped c hold
        split
        next heq =>
          rw [← heq, hmap] at hc'
          contradiction
        · exact hc'
      | inr hnew =>
        obtain rfl := Option.some.inj hnew
        rw [if_pos rfl]
    · intro k' lk' hk'
      change (L.map.put k L.objects.length).get? k' = some lk' at hk'
      rw [GoMap.get?_put] at hk'
      split at hk'
      next heq =>
        obtain rfl := Option.some.inj hk'
        refine ⟨{ refs := 1 }, by simp, ?_⟩
        have hnone : clients.countP (refersTo L.objects.length) = 0 := by
          rw [List.countP_eq_zero]
          intro c hc
          cases c with
          | none => simp [refersTo]
          | some c =>
            have := hlt c.key c.lk (h.mapped c hc)
            simp [refersTo]
            omega
        rw [count_set hi, hnone]
        simp [refersTo]
      next hne =>
        obtain ⟨o, ho, hrefs⟩ := h.counted k' lk' hk'
        have hold := hlt k' lk' hk'
        refine ⟨o, ?_, ?_⟩
        · show (L.objects ++ [{ refs := 1 }])[lk']? = some o
          rwa [List.getElem?_append_left hold]
        · rw [count_set hi, hrefs]
          have hother : ¬ L.objects.length = lk' := by omega
          simp [refersTo, hother]
    · intro a b lk' ha hb
      change (L.map.put k L.objects.length).get? a = some lk' at ha
      change (L.map.put k L.objects.length).get? b = some lk' at hb
      rw [GoMap.get?_put] at ha hb
      split at ha
      next hka =>
        split at hb
        next hkb => rw [← hka, ← hkb]
        next =>
          obtain rfl := Option.some.inj ha
          have := hlt b _ hb
          omega
      next =>
        split at hb
        next =>
          obtain rfl := Option.some.inj hb
          have := hlt a _ ha
          omega
        next => exact h.oneKey a b lk' ha hb
    · intro c hc hholds
      cases mem_set_cases hc with
      | inl hold =>
        obtain ⟨o, ho, hheld⟩ := h.held c hold hholds
        refine ⟨o, ?_, hheld⟩
        show (L.objects ++ [{ refs := 1 }])[c.lk]? = some o
        rwa [List.getElem?_append_left (hlt c.key c.lk (h.mapped c hold))]
      | inr hnew =>
        obtain rfl := Option.some.inj hnew
        contradiction

/-- A client locks the object it refers to. -/
theorem Consistent.lock (h : Consistent L clients) (hi : clients[i]? = some (some ⟨k, lk, false⟩))
    (hlock : L.lock lk = some L') : Consistent L' (clients.set i (some ⟨k, lk, true⟩)) := by
  unfold Locks.lock at hlock
  split at hlock
  · contradiction
  next hfree =>
    obtain rfl := Option.some.inj hlock
    have hkey := h.mapped _ (List.mem_of_getElem? hi)
    obtain ⟨o, ho, -⟩ := h.counted k lk hkey
    rw [ho, Option.any_some] at hfree
    refine ⟨?_, ?_, h.oneKey, ?_, oneHolder_set h ?_⟩
    · intro c hc
      cases mem_set_cases hc with
      | inl hold => exact h.mapped c hold
      | inr hnew =>
        obtain rfl := Option.some.inj hnew
        exact hkey
    · intro k' lk' hk'
      obtain ⟨o', ho', hrefs⟩ := h.counted k' lk' hk'
      refine ⟨_, getElem?_modify_eq ho' lk, ?_⟩
      rw [count_set hi]
      split <;> simp [refersTo, hrefs]
    · intro c hc hholds
      cases mem_set_cases hc with
      | inl hold =>
        obtain ⟨o', ho', hheld⟩ := h.held c hold hholds
        refine ⟨_, getElem?_modify_eq ho' lk, ?_⟩
        split
        · rfl
        · exact hheld
      | inr hnew =>
        obtain rfl := Option.some.inj hnew
        refine ⟨_, getElem?_modify_eq ho lk, ?_⟩
        rw [if_pos rfl]
    · intro c hc _ j d hj hd hlk
      obtain rfl := Option.some.inj hc
      obtain ⟨o', ho', hheld⟩ := h.held d (List.mem_of_getElem? hj) hd
      change lk = d.lk at hlk
      rw [← hlk, ho] at ho'
      obtain rfl := Option.some.inj ho'
      exact absurd hheld hfree

/-- The client that holds the lock unlocks it. -/
theorem Consistent.unlock (h : Consistent L clients) (hi : clients[i]? = some (some ⟨k, lk, true⟩)) :
    Consistent (L.unlock lk) (clients.set i (some ⟨k, lk, false⟩)) := by
  have hholder : ∀ c : Claim κ, some (⟨k, lk, false⟩ : Claim κ) = some c → c.holds = true →
      ∀ (j : Nat) (d : Claim κ), clients[j]? = some (some d) → d.holds = true → c.lk = d.lk → i = j := by
    intro c hc hholds
    obtain rfl := Option.some.inj hc
    contradiction
  refine ⟨?_, ?_, h.oneKey, ?_, oneHolder_set h hholder⟩
  · intro c hc
    cases mem_set_cases hc with
    | inl hold => exact h.mapped c hold
    | inr hnew =>
      obtain rfl := Option.some.inj hnew
      exact h.mapped ⟨k, lk, true⟩ (List.mem_of_getElem? hi)
  · intro k' lk' hk'
    obtain ⟨o', ho', hrefs⟩ := h.counted k' lk' hk'
    refine ⟨_, getElem?_modify_eq ho' lk, ?_⟩
    rw [count_set hi]
    split <;> simp [refersTo, hrefs]
  · intro c hc hholds
    obtain ⟨a, ha⟩ := List.mem_iff_getElem?.mp hc
    rw [List.getElem?_set] at ha
    split at ha
    · split at ha
      · obtain rfl := Option.some.inj (Option.some.inj ha)
        contradiction
      · contradiction
    next hne =>
      obtain ⟨o, ho, hheld⟩ := h.held c (List.mem_of_getElem? ha) hholds
      refine ⟨o, ?_, hheld⟩
      show (L.objects.modify lk _)[c.lk]? = some o
      rw [getElem?_modify_eq ho, if_neg]
      exact fun hlk => hne (h.oneHolder i a _ c hi ha rfl hholds hlk)

/-- A client drops its reference. -/
theorem Consistent.release (h : Consistent L clients)
    (hi : clients[i]? = some (some ⟨k, lk, false⟩)) :
    Consistent (L.release k lk) (clients.set i none) := by
  have hkey := h.mapped _ (List.mem_of_getElem? hi)
  change L.map.get? k = some lk at hkey
  obtain ⟨o, ho, hrefs⟩ := h.counted k lk hkey
  have hleft := @count_set _ clients i _ none hi lk
  -- the object goes with the last reference
  have hmap : (L.release k lk).map.get? = fun k' =>
      if (clients.set i none).countP (refersTo lk) = 0 ∧ k' = k then none else L.map.get? k' := by
    funext k'
    have hlast : (L.objects[lk]?).any (fun o => decide (o.refs - 1 = 0)) = true ↔
        (clients.set i none).countP (refersTo lk) = 0 := by
      rw [ho, Option.any_some, decide_eq_true_iff, hrefs]
      simp [refersTo] at hleft
      omega
    show GoMap.get? (if _ then L.map.erase k else L.map) k' = _
    by_cases hzero : (clients.set i none).countP (refersTo lk) = 0
    · rw [if_pos (hlast.mpr hzero), GoMap.get?_erase]
      simp [hzero]
    · rw [if_neg (mt hlast.mp hzero)]
      simp [hzero]
  have hthere : ∀ {k' lk'}, (L.release k lk).map.get? k' = some lk' →
      L.map.get? k' = some lk' ∧ ¬ ((clients.set i none).countP (refersTo lk) = 0 ∧ k' = k) := by
    intro k' lk' hk'
    rw [hmap] at hk'
    dsimp only at hk'
    split at hk'
    · contradiction
    next hne => exact ⟨hk', hne⟩
  refine ⟨?_, ?_, ?_, ?_, oneHolder_set h (by simp)⟩
  · intro c hc
    have hold := (mem_set_cases hc).resolve_right (by simp)
    rw [hmap]
    dsimp only
    rw [if_neg, h.mapped c hold]
    rintro ⟨hzero, hk⟩
    have hlk := h.mapped c hold
    rw [hk, hkey] at hlk
    refine List.countP_eq_zero.mp hzero _ hc ?_
    simp [refersTo, Option.some.inj hlk]
  · intro k' lk' hk'
    obtain ⟨o', ho', hrefs'⟩ := h.counted k' lk' (hthere hk').1
    refine ⟨_, getElem?_modify_eq ho' lk, ?_⟩
    rw [count_set hi]
    by_cases heq : lk = lk'
    · simp [refersTo, heq, hrefs']
    · simp [refersTo, heq, hrefs']
  · intro a b lk' ha hb
    exact h.oneKey a b lk' (hthere ha).1 (hthere hb).1
  · intro c hc hholds
    exact held_modify (f := fun o => { o with refs := o.refs - 1 }) (fun _ => rfl) lk
      (h.held c ((mem_set_cases hc).resolve_right (by simp)) hholds)

end Operations

end KeyedLocks
