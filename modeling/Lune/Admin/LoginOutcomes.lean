import Lune.Admin.LoginRuns

/-!
# How logins end

What holds of the sessions in every state that a run of the login handlers reaches, in any
order of the steps and with restarts in between.

* `LoginView.Good` is the invariant of one session, its poller and the list that
  `resumeActiveLoginSessions` goes through.  `good_moves` has one case for each thing that
  happens to a session.
* `LoginView.Closed` says that nothing goes on with a session.  The poller that has passed
  its check of the status is what keeps a cancelled session from being closed: the request
  for the tokens is under way, and what comes back is written over the status.
-/

namespace Lune.Admin

open GoText Keyed Lune.Cpa

/-- The poller has something left to do. -/
def Poller.isLive : Poller → Bool
  | .absent | .ended => false
  | _ => true

/-- The poller still comes to its check of the status, or does nothing any more. -/
def Poller.Heeds (p : Poller) : Prop :=
  p ∈ [.absent, .starting, .waiting, .cutOff, .cutOffFound, .ticked, .found, .ended]

instance (p : Poller) : Decidable p.Heeds := by
  unfold Poller.Heeds
  infer_instance

namespace LoginView

/-- The status of the session. -/
def status (v : LoginView) : Option SessionStatus := v.session.map LoginSession.status

/-- What holds of a session, its poller and its accounts in every state. -/
structure Good (v : LoginView) : Prop where
  unknown : v.session = none → v.poller = .absent ∧ v.resuming = false
  resuming : v.resuming = true → v.poller = .absent ∧
    (v.status = some .pending ∨ v.status = some .authorized ∨ v.status = some .expired)
  pending : v.status = some .pending → v.poller.isLive = true ∨ v.resuming = true
  settled : v.status = some .succeeded ∨ v.status = some .failed → v.poller.isLive = false
  reporting : ∀ status errorCode errorMessage,
    v.poller = .reporting status errorCode errorMessage → status = .expired ∨ status = .failed
  importing : ∀ accountID, v.poller = .attaching accountID ∨ v.poller = .completing accountID →
    accountID ∈ v.accounts
  succeeded : ∀ s, v.session = some s → s.status = .succeeded →
    ∃ accountID, s.accountID = some accountID ∧ accountID ∈ v.accounts

end LoginView

open LoginView

section Moves

variable {v w : LoginView}

theorem normalized_status (now : Int) (s : LoginSession) :
    (s.normalized now).status = s.status ∨
      isActiveStatus s.status = true ∧ (s.normalized now).status = .expired := by
  unfold LoginSession.normalized
  split
  next h => exact .inr ⟨(Bool.and_eq_true_iff.mp h).1, rfl⟩
  · exact .inl rfl

theorem normalized_accountID (now : Int) (s : LoginSession) :
    (s.normalized now).accountID = s.accountID := by
  unfold LoginSession.normalized
  split <;> rfl

theorem goes_live {status : Option SessionStatus} {p q : Poller} (h : Goes status p q) :
    p.isLive = true := by
  cases h <;> rfl

theorem writes_live {f : LoginSession → LoginSession} {p q : Poller} (h : Writes p f q) :
    p.isLive = true := by
  cases h <;> rfl

/-- A poller that stops without a write leaves no session pending. -/
theorem goes_isLive {status : Option SessionStatus} {p q : Poller} (h : Goes status p q)
    (hpending : status = some .pending) : q.isLive = true := by
  cases h with
  | answer a => cases a <;> rfl
  | lostCutOff hnone => rw [hnone] at hpending; contradiction
  | lost hnone => rw [hnone] at hpending; contradiction
  | leave hne => exact absurd hpending hne
  | quit hcancelled => rw [hcancelled] at hpending; contradiction
  | _ => rfl

/-- What a poller reports is the end of its session. -/
theorem goes_reporting {status : Option SessionStatus} {p : Poller} {result : SessionStatus}
    {errorCode errorMessage : Str} (h : Goes status p (.reporting result errorCode errorMessage)) :
    result = .expired ∨ result = .failed := by
  generalize hq : Poller.reporting result errorCode errorMessage = q at h
  cases h with
  | answer a =>
    cases a <;> cases hq
    · exact .inl rfl
    · exact .inr rfl
    · exact .inr rfl
  | refuse => cases hq; exact .inr rfl
  | refuseAttached => cases hq; exact .inr rfl
  | _ => contradiction

theorem goes_importing {status : Option SessionStatus} {p q : Poller} {accountID : Int}
    (h : Goes status p q) (hq : q = .attaching accountID ∨ q = .completing accountID) :
    p = .attaching accountID := by
  cases h with
  | answer a => cases a <;> obtain hq | hq := hq <;> cases hq
  | attached a =>
    obtain hq | hq := hq
    · contradiction
    · cases hq
      rfl
  | _ => obtain hq | hq := hq <;> contradiction

/-- A change of the session that ends it at most keeps the invariant. -/
theorem LoginView.Good.map (hv : v.Good) {f : LoginSession → LoginSession}
    (haccount : ∀ s, (f s).accountID = s.accountID)
    (hstatus : ∀ s, (f s).status = s.status ∨ (f s).status = .expired ∨
      v.resuming = false ∧ (f s).status = .cancelled) :
    ({ v with session := v.session.map f } : LoginView).Good := by
  cases hs : v.session with
  | none =>
    have heq : ({ v with session := none } : LoginView) = v := by rw [← hs]
    rw [Option.map_none, heq]
    exact hv
  | some s =>
    have hold : v.status = some s.status := by rw [LoginView.status, hs]; rfl
    have hback : ∀ status, some (f s).status = some status → status ≠ .expired →
        status ≠ .cancelled → v.status = some status := by
      intro status h hexpired hcancelled
      obtain h' | h' | ⟨-, h'⟩ := hstatus s
      · rw [hold, ← h', h]
      · exact absurd (Option.some.inj (h.symm.trans (congrArg some h'))) hexpired
      · exact absurd (Option.some.inj (h.symm.trans (congrArg some h'))) hcancelled
    constructor
    case unknown => exact fun h => by contradiction
    case resuming =>
      intro h
      obtain ⟨hp, hcases⟩ := hv.resuming h
      refine ⟨hp, ?_⟩
      show some (f s).status = _ ∨ some (f s).status = _ ∨ some (f s).status = _
      obtain h' | h' | ⟨h', -⟩ := hstatus s
      · rw [h', ← hold]
        exact hcases
      · exact .inr (.inr (congrArg some h'))
      · rw [h] at h'
        contradiction
    case pending =>
      intro h
      exact hv.pending (hback _ h (by decide) (by decide))
    case settled =>
      rintro (h | h)
      · exact hv.settled (.inl (hback _ h (by decide) (by decide)))
      · exact hv.settled (.inr (hback _ h (by decide) (by decide)))
    case reporting => exact hv.reporting
    case importing => exact hv.importing
    case succeeded =>
      intro t ht hsucceeded
      obtain rfl := Option.some.inj ht
      have hbefore := Option.some.inj
        (hold.symm.trans (hback _ (congrArg some hsucceeded) (by decide) (by decide)))
      rw [haccount]
      exact hv.succeeded s hs hbefore

theorem good_restart (hv : v.Good) (now : Int) :
    ({ v with
      session := v.session.map fun s => s.persisted.normalized now
      poller := .absent
      resuming := v.session.any fun s =>
        isActiveStatus (s.persisted.normalized now).status } : LoginView).Good := by
  cases hs : v.session with
  | none => constructor <;> simp [LoginView.status]
  | some s =>
    have hstatus := normalized_status now s.persisted
    generalize hnext : s.persisted.normalized now = next at hstatus
    constructor
    case unknown => exact fun h => by contradiction
    case resuming =>
      intro h
      refine ⟨rfl, ?_⟩
      change isActiveStatus (s.persisted.normalized now).status = true at h
      show some (s.persisted.normalized now).status = _ ∨ some _ = _ ∨ some _ = _
      rw [hnext] at h ⊢
      cases hnextStatus : next.status <;> rw [hnextStatus] at h <;> simp_all [isActiveStatus]
    case pending =>
      intro h
      refine .inr ?_
      have hpending : (s.persisted.normalized now).status = .pending := Option.some.inj h
      show isActiveStatus (s.persisted.normalized now).status = true
      rw [hpending]
      rfl
    case settled => exact fun _ => rfl
    case reporting => exact fun _ _ _ h => by contradiction
    case importing => rintro _ (h | h) <;> contradiction
    case succeeded =>
      intro t ht hsucceeded
      obtain rfl : next = t := hnext.symm.trans (Option.some.inj ht)
      obtain h | ⟨-, h⟩ := hstatus
      · obtain ⟨accountID, haccount, hmem⟩ := hv.succeeded s hs (h.symm.trans hsucceeded)
        refine ⟨accountID, ?_, hmem⟩
        rw [← hnext, normalized_accountID]
        exact haccount
      · rw [hsucceeded] at h
        contradiction

/-- What holds of a session whose poller has something left to do. -/
theorem LoginView.Good.of_live (hv : v.Good) (h : v.poller.isLive = true) :
    v.resuming = false ∧ v.status ≠ some .succeeded ∧ v.status ≠ some .failed ∧
      v.session ≠ none := by
  refine ⟨?_, fun hs => ?_, fun hs => ?_, fun hs => ?_⟩
  · by_contra hresuming
    rw [(hv.resuming (Bool.not_eq_false _ ▸ hresuming)).1] at h
    contradiction
  · rw [hv.settled (.inl hs)] at h
    contradiction
  · rw [hv.settled (.inr hs)] at h
    contradiction
  · rw [(hv.unknown hs).1] at h
    contradiction

theorem good_go {p : Poller} (hv : v.Good) (h : Goes v.status v.poller p) :
    ({ v with poller := p } : LoginView).Good := by
  obtain ⟨hresuming, hsucceeded, hfailed, hnone⟩ := hv.of_live (goes_live h)
  constructor
  case unknown => exact fun hs => absurd hs hnone
  case resuming => exact fun hr => by rw [hresuming] at hr; contradiction
  case pending => exact fun hp => .inl (goes_isLive h hp)
  case settled => exact fun hs => absurd hs (not_or.mpr ⟨hsucceeded, hfailed⟩)
  case reporting =>
    intro status errorCode errorMessage hp
    obtain rfl : p = _ := hp
    exact goes_reporting h
  case importing => exact fun accountID hp => hv.importing accountID (.inl (goes_importing h hp))
  case succeeded => exact hv.succeeded

/-- A write of a poller ends the session, or the poller goes on to import the account. -/
theorem writes_cases {f : LoginSession → LoginSession} {p q : Poller} (h : Writes p f q) :
    (q = .finalizing ∧ ∀ s, (f s).status = .authorized) ∨
      (q = .ended ∧ ∃ accountID, p = .completing accountID ∧
        ∀ s, (f s).status = .succeeded ∧ (f s).accountID = some accountID) ∨
      (q = .ended ∧ ∃ status, (∀ s, (f s).status = status) ∧
        (p = .lapsing ∧ status = .expired ∨
          ∃ errorCode errorMessage, p = .reporting status errorCode errorMessage)) := by
  cases h with
  | lapse => exact .inr (.inr ⟨rfl, _, fun _ => rfl, .inl ⟨rfl, rfl⟩⟩)
  | report status errorCode errorMessage =>
    exact .inr (.inr ⟨rfl, status, fun _ => rfl, .inr ⟨errorCode, errorMessage, rfl⟩⟩)
  | authorize => exact .inl ⟨rfl, fun _ => rfl⟩
  | complete accountID => exact .inr (.inl ⟨rfl, accountID, rfl, fun _ => ⟨rfl, rfl⟩⟩)

theorem good_write {f : LoginSession → LoginSession} {p : Poller} (hv : v.Good)
    (h : Writes v.poller f p) :
    ({ v with session := v.session.map f, poller := p } : LoginView).Good := by
  obtain ⟨hresuming, -, -, hnone⟩ := hv.of_live (writes_live h)
  obtain ⟨s, hs⟩ := Option.ne_none_iff_exists'.mp hnone
  have hstatus : ∀ status, (∀ s, (f s).status = status) →
      ({ v with session := v.session.map f, poller := p } : LoginView).status = some status := by
    intro status hf
    rw [LoginView.status, hs, Option.map_some, Option.map_some, hf]
  constructor
  case unknown => exact fun h => absurd (Option.map_eq_none_iff.mp h) hnone
  case resuming => exact fun hr => by rw [hresuming] at hr; contradiction
  case pending =>
    intro hpending
    obtain ⟨rfl, hf⟩ | ⟨-, accountID, -, hf⟩ | ⟨-, status, hf, hp⟩ := writes_cases h
    · exact .inl rfl
    · rw [hstatus _ fun s => (hf s).1] at hpending
      contradiction
    · obtain rfl := Option.some.inj ((hstatus _ hf).symm.trans hpending)
      obtain ⟨-, hp⟩ | ⟨errorCode, errorMessage, hp⟩ := hp
      · contradiction
      · have := hv.reporting _ _ _ hp
        simp at this
  case settled =>
    intro hsettled
    obtain ⟨-, hf⟩ | ⟨rfl, -⟩ | ⟨rfl, -⟩ := writes_cases h
    · rw [hstatus _ hf] at hsettled
      obtain h | h := hsettled <;> contradiction
    · rfl
    · rfl
  case reporting =>
    intro status errorCode errorMessage hp
    obtain ⟨hq, -⟩ | ⟨hq, -⟩ | ⟨hq, -⟩ := writes_cases h
    all_goals exact absurd (hq.symm.trans hp) (by simp)
  case importing =>
    intro accountID hp
    obtain ⟨hq, -⟩ | ⟨hq, -⟩ | ⟨hq, -⟩ := writes_cases h
    all_goals
      obtain hp | hp := hp
      · exact absurd (hq.symm.trans hp) (by simp)
      · exact absurd (hq.symm.trans hp) (by simp)
  case succeeded =>
    intro t ht hsucceeded
    rw [hs] at ht
    obtain rfl := Option.some.inj ht
    obtain ⟨-, hf⟩ | ⟨-, accountID, hp, hf⟩ | ⟨-, status, hf, hp⟩ := writes_cases h
    · rw [hf] at hsucceeded
      contradiction
    · exact ⟨accountID, (hf s).2, hv.importing accountID (.inr hp)⟩
    · obtain rfl := (hf s).symm.trans hsucceeded
      obtain ⟨-, hp⟩ | ⟨errorCode, errorMessage, hp⟩ := hp
      · contradiction
      · have := hv.reporting _ _ _ hp
        simp at this

theorem good_import (hv : v.Good) (h : v.poller = .finalizing) (accountID : Int) :
    ({ v with poller := .attaching accountID, accounts := v.accounts ++ [accountID] } :
      LoginView).Good := by
  obtain ⟨hresuming, hsucceeded, hfailed, hnone⟩ := hv.of_live (by rw [h]; rfl)
  constructor
  case unknown => exact fun hs => absurd hs hnone
  case resuming => exact fun hr => by rw [hresuming] at hr; contradiction
  case pending => exact fun _ => .inl rfl
  case settled => exact fun hs => absurd hs (not_or.mpr ⟨hsucceeded, hfailed⟩)
  case reporting => exact fun _ _ _ hp => by contradiction
  case importing =>
    rintro a (ha | ha)
    · cases ha
      exact List.mem_append_right _ List.mem_cons_self
    · contradiction
  case succeeded =>
    intro s hs hstatus
    obtain ⟨a, ha, hmem⟩ := hv.succeeded s hs hstatus
    exact ⟨a, ha, List.mem_append_left _ hmem⟩

/-- What holds of a session that is still to be resumed. -/
theorem LoginView.Good.of_resuming (hv : v.Good) (h : v.resuming = true) :
    v.status ≠ some .succeeded ∧ v.status ≠ some .failed ∧ v.session ≠ none := by
  obtain ⟨-, hcases⟩ := hv.resuming h
  refine ⟨?_, ?_, fun hs => ?_⟩
  · obtain h | h | h := hcases <;> rw [h] <;> decide
  · obtain h | h | h := hcases <;> rw [h] <;> decide
  · rw [LoginView.status, hs] at hcases
    simp at hcases

theorem good_resume (hv : v.Good) (h : v.resuming = true) :
    ({ v with poller := .waiting, resuming := false } : LoginView).Good := by
  obtain ⟨hsucceeded, hfailed, hnone⟩ := hv.of_resuming h
  constructor
  case unknown => exact fun hs => absurd hs hnone
  case resuming => exact fun hr => by contradiction
  case pending => exact fun _ => .inl rfl
  case settled => exact fun hs => absurd hs (not_or.mpr ⟨hsucceeded, hfailed⟩)
  case reporting => exact fun _ _ _ hp => by contradiction
  case importing => rintro _ (h | h) <;> contradiction
  case succeeded => exact hv.succeeded

theorem good_giveUp (hv : v.Good) (h : v.resuming = true) {status : SessionStatus}
    (hstatus : status = .expired ∨ status = .failed) (errorCode errorMessage : Str) :
    ({ v with
      session := v.session.map fun s =>
        { s with status := status, errorCode := errorCode, errorMessage := errorMessage }
      resuming := false } : LoginView).Good := by
  obtain ⟨habsent, -⟩ := hv.resuming h
  obtain ⟨-, -, hnone⟩ := hv.of_resuming h
  obtain ⟨s, hs⟩ := Option.ne_none_iff_exists'.mp hnone
  rw [hs]
  constructor
  case unknown => exact fun h => by contradiction
  case resuming => exact fun hr => by contradiction
  case pending =>
    intro hpending
    obtain rfl := Option.some.inj hpending
    obtain h | h := hstatus <;> contradiction
  case settled =>
    intro _
    show v.poller.isLive = false
    rw [habsent]
    rfl
  case reporting => exact hv.reporting
  case importing => exact hv.importing
  case succeeded =>
    intro t ht hsucceeded
    obtain rfl := Option.some.inj ht
    obtain rfl : status = .succeeded := hsucceeded
    obtain h | h := hstatus <;> contradiction

/-- Whatever happens to a session keeps the invariant. -/
theorem good_moves (h : Moves v w) (hv : v.Good) : w.Good := by
  cases h with
  | normalize now =>
    refine LoginView.Good.map hv (normalized_accountID now) fun s => ?_
    obtain h | ⟨-, h⟩ := normalized_status now s
    · exact .inl h
    · exact .inr (.inl h)
  | attach poolID => exact LoginView.Good.map hv (fun _ => rfl) fun _ => .inl rfl
  | cancel hresuming =>
    refine LoginView.Good.map hv (fun s => ?_) fun s => ?_
    · unfold SessionStore.cancelled
      split <;> rfl
    · unfold SessionStore.cancelled
      split
      · exact .inr (.inr ⟨hresuming, rfl⟩)
      · exact .inl rfl
  | go h => exact good_go hv h
  | write h => exact good_write hv h
  | importAccount h accountID => exact good_import hv h accountID
  | restart now => exact good_restart hv now
  | resume h => exact good_resume hv h
  | giveUp h hstatus errorCode errorMessage => exact good_giveUp hv h hstatus errorCode errorMessage

/-- No move makes a session pending. -/
theorem moves_pending (h : Moves v w) (hv : v.Good) {b : LoginSession} (hb : w.session = some b)
    (hpending : b.status = .pending) :
    ∃ a, v.session = some a ∧ a.status = .pending ∧ a.serviceID = b.serviceID := by
  cases h with
  | normalize now =>
    obtain ⟨a, ha, rfl⟩ := Option.map_eq_some_iff.mp hb
    obtain h | ⟨-, h⟩ := normalized_status now a
    · refine ⟨a, ha, h.symm.trans hpending, ?_⟩
      unfold LoginSession.normalized
      split <;> rfl
    · rw [h] at hpending
      contradiction
  | attach poolID =>
    obtain ⟨a, ha, rfl⟩ := Option.map_eq_some_iff.mp hb
    exact ⟨a, ha, hpending, rfl⟩
  | cancel hresuming =>
    obtain ⟨a, ha, rfl⟩ := Option.map_eq_some_iff.mp hb
    unfold SessionStore.cancelled at hpending ⊢
    split at hpending
    · contradiction
    next h => exact ⟨a, ha, hpending, by rw [if_neg h]⟩
  | go h => exact ⟨b, hb, hpending, rfl⟩
  | write h =>
    obtain ⟨a, ha, rfl⟩ := Option.map_eq_some_iff.mp hb
    obtain ⟨-, hf⟩ | ⟨-, accountID, -, hf⟩ | ⟨-, status, hf, hp⟩ := writes_cases h
    · rw [hf] at hpending
      contradiction
    · rw [(hf a).1] at hpending
      contradiction
    · obtain rfl := (hf a).symm.trans hpending
      obtain ⟨-, hp⟩ | ⟨errorCode, errorMessage, hp⟩ := hp
      · contradiction
      · obtain h | h := hv.reporting _ _ _ hp <;> contradiction
  | importAccount h accountID => exact ⟨b, hb, hpending, rfl⟩
  | restart now =>
    obtain ⟨a, ha, rfl⟩ := Option.map_eq_some_iff.mp hb
    obtain h | ⟨-, h⟩ := normalized_status now a.persisted
    · refine ⟨a, ha, h.symm.trans hpending, ?_⟩
      unfold LoginSession.normalized
      split <;> rfl
    · rw [h] at hpending
      contradiction
  | resume h => exact ⟨b, hb, hpending, rfl⟩
  | giveUp h hstatus errorCode errorMessage =>
    obtain ⟨a, ha, rfl⟩ := Option.map_eq_some_iff.mp hb
    obtain rfl : _ = SessionStatus.pending := hpending
    obtain h | h := hstatus <;> contradiction

/-- What many moves keep. -/
theorem good_many (h : Relation.ReflTransGen Moves v w) (hv : v.Good) :
    w.Good ∧ ∀ b, w.session = some b → b.status = .pending →
      ∃ a, v.session = some a ∧ a.status = .pending ∧ a.serviceID = b.serviceID := by
  induction h with
  | refl => exact ⟨hv, fun b hb hpending => ⟨b, hb, hpending, rfl⟩⟩
  | tail _ hlast ih =>
    obtain ⟨hgood, hbefore⟩ := ih
    refine ⟨good_moves hlast hgood, fun b hb hpending => ?_⟩
    obtain ⟨a, ha, hstatus, hservice⟩ := moves_pending hlast hgood hb hpending
    obtain ⟨first, hfirst, hpending, hsame⟩ := hbefore a ha hstatus
    exact ⟨first, hfirst, hpending, hsame.trans hservice⟩

end Moves

/-! ## Runs -/

namespace LoginSystem

variable {s t : LoginSystem} {es fs : List LoginEvent} {id other : Str}

/-- The invariant of the sessions and the file. -/
structure Good (s : LoginSystem) : Prop where
  saved : s.store.Saved
  views : ∀ id, (s.view id).Good
  /-- A service has one pending session at most. -/
  alone : ∀ i j a b, s.store.sessions.get? i = some a → s.store.sessions.get? j = some b →
    a.status = .pending → b.status = .pending → a.serviceID = b.serviceID → i = j

theorem good_empty : Good {} := by
  refine ⟨SessionStore.saved_empty, fun id => ?_, fun i j a b h => by contradiction⟩
  constructor
  case unknown => exact fun _ => ⟨rfl, rfl⟩
  case resuming => exact fun h => by contradiction
  case pending => exact fun h => by contradiction
  case settled => rintro (h | h) <;> contradiction
  case reporting => exact fun _ _ _ h => by contradiction
  case importing => rintro _ (h | h) <;> contradiction
  case succeeded => exact fun _ h => by contradiction

/-- The invariant of a session that was added. -/
theorem good_created {a : LoginSession} (h : Creates s t id a) (hs : (s.view id).Good) :
    (t.view id).Good := by
  rw [h.added]
  have hold := hs.unknown h.fresh
  constructor
  case unknown => exact fun h => by contradiction
  case resuming => exact fun hr => by rw [hold.2] at hr; contradiction
  case pending => exact fun _ => .inl rfl
  case settled =>
    have hpending : some a.status = some .pending := congrArg some h.status
    rintro (h | h) <;> exact absurd (hpending.symm.trans h) (by decide)
  case reporting => exact fun _ _ _ h => by contradiction
  case importing => rintro _ (h | h) <;> contradiction
  case succeeded =>
    intro b hb hsucceeded
    obtain rfl := Option.some.inj hb
    rw [h.status] at hsucceeded
    contradiction

/-- Every step keeps the invariant. -/
theorem step_good {e : LoginEvent} (h : s.step e = some t) (hs : s.Good) : t.Good := by
  have hsaved := step_saved h hs.saved
  obtain hmoves | ⟨id, created, hcreates⟩ := step_cases h hs.saved
  · refine ⟨hsaved, fun other => (good_many (hmoves other) (hs.views other)).1, ?_⟩
    intro i j a b ha hb hpending hpending' hservice
    obtain ⟨a', ha', hapending, haservice⟩ :=
      (good_many (hmoves i) (hs.views i)).2 a ha hpending
    obtain ⟨b', hb', hbpending, hbservice⟩ :=
      (good_many (hmoves j) (hs.views j)).2 b hb hpending'
    exact hs.alone i j a' b' ha' hb' hapending hbpending
      (haservice.trans (hservice.trans hbservice.symm))
  · have hadded : t.store.sessions.get? id = some created :=
      congrArg LoginView.session hcreates.added
    -- a pending session of the service beside the new one would be active
    have hnew : ∀ i a, t.store.sessions.get? i = some a → a.status = .pending →
        a.serviceID = created.serviceID → i = id := by
      intro i a ha hpending hservice
      by_contra hne
      have hactive := hcreates.alone i a hne ha hservice
      rw [hpending] at hactive
      contradiction
    refine ⟨hsaved, fun other => ?_, ?_⟩
    · by_cases heq : other = id
      · rw [heq]
        exact good_created hcreates (hs.views id)
      · exact good_moves (hcreates.others other heq) (hs.views other)
    · intro i j a b ha hb hpending hpending' hservice
      by_cases hi : i = id
      · obtain rfl : created = a := Option.some.inj (hadded.symm.trans (hi ▸ ha))
        rw [hi, hnew j b hb hpending' hservice.symm]
      · by_cases hj : j = id
        · obtain rfl : created = b := Option.some.inj (hadded.symm.trans (hj ▸ hb))
          exact absurd (hnew i a ha hpending hservice) hi
        · obtain ⟨a', ha', hapending, haservice⟩ :=
            moves_pending (hcreates.others i hi) (hs.views i) ha hpending
          obtain ⟨b', hb', hbpending, hbservice⟩ :=
            moves_pending (hcreates.others j hj) (hs.views j) hb hpending'
          exact hs.alone i j a' b' ha' hb' hapending hbpending
            (haservice.trans (hservice.trans hbservice.symm))

/-- The invariant holds in every state that a run reaches. -/
theorem run_good (h : Runs.exec step {} es = some s) : s.Good :=
  Runs.exec_invariant (P := fun _ s => s.Good) good_empty (fun _ _ _ _ hP h => step_good h hP) h

end LoginSystem

/-- A session that is pending has a poller that goes on with it, or comes to be resumed, and
it is the one pending session of its service. -/
theorem pending_session_is_polled {es : List LoginEvent} {s : LoginSystem}
    (h : Runs.exec LoginSystem.step {} es = some s) {id : Str} {a : LoginSession}
    (hget : s.store.sessions.get? id = some a) (hpending : a.status = .pending) :
    ((s.poller id).isLive = true ∨ id ∈ s.resuming) ∧
      ∀ other b, s.store.sessions.get? other = some b → b.status = .pending →
        b.serviceID = a.serviceID → other = id := by
  have hgood := LoginSystem.run_good h
  have hstatus : (s.view id).status = some .pending := by
    rw [← hpending]
    exact congrArg (Option.map LoginSession.status) hget
  constructor
  · obtain hlive | hresuming := (hgood.views id).pending hstatus
    · exact .inl hlive
    · exact .inr (List.contains_iff_mem.mp hresuming)
  · intro other b hb hother hservice
    exact hgood.alone other id b a hb hget hother hpending hservice

theorem first_login_is_polled :
    ∃ s a, Runs.exec LoginSystem.step {} [.create (lit "a") 1 (lit "codex") ⟨[], [], [], 5, 900⟩] =
        some s ∧ s.store.sessions.get? (lit "a") = some a ∧
      (((s.poller (lit "a")).isLive = true ∨ lit "a" ∈ s.resuming) ∧
        ∀ other b, s.store.sessions.get? other = some b → b.status = .pending →
          b.serviceID = a.serviceID → other = lit "a") :=
  ⟨_, _, rfl, rfl, @pending_session_is_polled
    [.create (lit "a") 1 (lit "codex") ⟨[], [], [], 5, 900⟩] _ rfl _ _ rfl rfl⟩

namespace LoginView

/-- Nothing goes on with the session: its poller is through, or is about to see that the
session is not pending, or that it is cancelled. -/
structure Closed (v : LoginView) : Prop where
  resuming : v.resuming = false
  status : ∃ status, v.status = some status ∧ isActiveStatus status = false ∧
    (v.poller ∈ [.absent, .cutOff, .cutOffFound, .ended] ∨
      status = .cancelled ∧ v.poller.Heeds)

/-- What the session shows of its end, and the accounts that came of it. -/
def outcome (v : LoginView) : Option (SessionStatus × Str × Str × Option Int) × List Int :=
  (v.session.map fun s => (s.status, s.errorCode, s.errorMessage, s.accountID), v.accounts)

end LoginView

section Closed

variable {v w : LoginView}

/-- A change that leaves the result of a closed session. -/
theorem LoginView.Closed.map (hv : v.Closed) {f : LoginSession → LoginSession}
    (hf : ∀ s, isActiveStatus s.status = false → (f s).status = s.status ∧
      (f s).errorCode = s.errorCode ∧ (f s).errorMessage = s.errorMessage ∧
      (f s).accountID = s.accountID) :
    ({ v with session := v.session.map f } : LoginView).Closed ∧
      ({ v with session := v.session.map f } : LoginView).outcome = v.outcome := by
  obtain ⟨status, hstatus, hactive, hp⟩ := hv.status
  obtain ⟨s, hs, rfl⟩ := Option.map_eq_some_iff.mp hstatus
  obtain ⟨hf1, hf2, hf3, hf4⟩ := hf s hactive
  constructor
  · refine ⟨hv.resuming, s.status, ?_, hactive, hp⟩
    rw [LoginView.status, hs, ← hf1]
    rfl
  · unfold LoginView.outcome
    rw [hs, Option.map_some, Option.map_some, Option.map_some, hf1, hf2, hf3, hf4]

end Closed

namespace LoginSystem

variable {s t : LoginSystem} {es fs : List LoginEvent} {id : Str}

end LoginSystem

/-- Once its poller asks for the tokens, a session can still succeed, whatever its status
is: the status is not read again. -/
theorem polling_may_succeed {s : LoginSystem} {id : Str} {a : LoginSession}
    (hp : s.poller id = .polling) (hget : s.store.sessions.get? id = some a) (accountID : Int) :
    ∃ t, Runs.exec LoginSystem.step s
        [.answer id .tokens, .write id, .importAccount id accountID, .attached id, .write id] =
          some t ∧
      t.status? id = some .succeeded ∧ (id, accountID) ∈ t.imported := by
  simp [Runs.exec, LoginSystem.step, LoginSystem.write, LoginSystem.move, LoginSystem.afterAnswer,
    LoginSystem.status?, SessionStore.updateStatus, SessionStore.completeSession,
    SessionStore.get?_modify, hp, hget]

end Lune.Admin
