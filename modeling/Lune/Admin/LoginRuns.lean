import Lune.Cpa.Sessions
import Lune.Lib.Runs
import Mathlib.Logic.Function.Basic
import Mathlib.Logic.Relation

/-!
# Logins with a device code

The handlers of login sessions in `internal/admin/handler.go`, with one
`pollLoginSession` for each session, over any order of their steps.  A poller reads the
status of its session and writes one later, so another step can come in between.

The process may end at any moment and start again: then the sessions are those of the
file, the pollers are gone, and `resumeActiveLoginSessions` goes through the active
sessions before a request is served.

The ids of sessions are random; a run has no id twice.
-/

namespace Lune.Admin

open GoText Keyed Lune.Cpa

/-- What `pollLoginSession` makes of what `PollForToken` returned. -/
inductive PollAnswer where
  /-- Not yet, slow down, or an error that passes. -/
  | retry
  | expired
  | denied
  | failed (message : Str)
  | tokens

/-- Where the poller of a session is. -/
inductive Poller where
  | absent
  /-- `createLoginSession` has the session and has not started the goroutine. -/
  | starting
  /-- In the `select`. -/
  | waiting
  /-- The context is done: before `GetSession`, and with the session. -/
  | cutOff
  | cutOffFound
  /-- Before `UpdateStatus` to `expired`, when the status was `pending`. -/
  | lapsing
  /-- The ticker ticked: before `GetSession`, and with the session. -/
  | ticked
  | found
  /-- In `PollForToken`, when the status was not `cancelled`. -/
  | polling
  /-- Before `UpdateStatus`, which is the last thing it does. -/
  | reporting (status : SessionStatus) (errorCode errorMessage : Str)
  /-- Before `UpdateStatus` to `authorized`. -/
  | authorizing
  /-- In `finalizeLogin`, before and after the account is in the table. -/
  | finalizing
  | attaching (accountID : Int)
  /-- Before `CompleteSession`. -/
  | completing (accountID : Int)
  | ended
deriving DecidableEq

/-- The sessions, the pollers, and the accounts that logins have put in the table. -/
structure LoginSystem where
  store : SessionStore := {}
  now : Int := 0
  poller : Str → Poller := fun _ => .absent
  /-- The `CancelFunc` of the session was called. -/
  signalled : Str → Bool := fun _ => false
  /-- The sessions that `resumeActiveLoginSessions` has not come to. -/
  resuming : List Str := []
  imported : List (Str × Int) := []

/-- The steps of the handlers, of the pollers and of the process. -/
inductive LoginEvent where
  | elapse (d : Nat)
  | look
  | create (id : Str) (serviceID : Int) (provider : Str) (dcr : DeviceCodeResponse)
  | attach (id : Str) (poolID : Int)
  | start (id : Str)
  | cancel (id : Str)
  | wake (id : Str) (isDone : Bool)
  | lookup (id : Str)
  | check (id : Str)
  | answer (id : Str) (a : PollAnswer)
  | write (id : Str)
  | importAccount (id : Str) (accountID : Int)
  | refuse (id : Str) (errorCode errorMessage : Str)
  | attached (id : Str)
  | restart
  | resume (id : Str) (hasService : Bool)

namespace LoginSystem

/-- The poller of a session goes on. -/
def move (s : LoginSystem) (id : Str) (p : Poller) : LoginSystem :=
  { s with poller := Function.update s.poller id p }

/-- The status of a session. -/
def status? (s : LoginSystem) (id : Str) : Option SessionStatus :=
  (s.store.sessions.get? id).map LoginSession.status

/-- The context of the poller is done. -/
def isDone (s : LoginSystem) (id : Str) : Bool :=
  s.signalled id || (s.store.sessions.get? id).any fun session =>
    session.expiresAt.all fun t => t ≤ s.now

/-- `errorMessage` of a session that is past its end. -/
def deviceCodeExpired : Str := lit "Device code expired"

/-- `pollLoginSession` on an answer. -/
def afterAnswer : PollAnswer → Poller
  | .retry => .waiting
  | .expired => .reporting .expired (lit "expired_token") deviceCodeExpired
  | .denied => .reporting .failed (lit "access_denied") (lit "User denied authorization")
  | .failed message => .reporting .failed (lit "poll_error") message
  | .tokens => .authorizing

/-- A write of a poller. -/
def write (s : LoginSystem) (id : Str) : Option LoginSystem :=
  match s.poller id with
  | .lapsing =>
    some ({ s with
      store := s.store.updateStatus id .expired (lit "expired_token") deviceCodeExpired }.move id
        .ended)
  | .reporting status errorCode errorMessage =>
    some ({ s with store := s.store.updateStatus id status errorCode errorMessage }.move id .ended)
  | .authorizing =>
    some ({ s with store := s.store.updateStatus id .authorized [] [] }.move id .finalizing)
  | .completing accountID =>
    some ({ s with store := s.store.completeSession id accountID }.move id .ended)
  | _ => none

/-- `resumeActiveLoginSessions`, for one session. -/
def resume (s : LoginSystem) (id : Str) (session : LoginSession) (hasService : Bool) :
    LoginSystem :=
  let s := { s with resuming := s.resuming.filter (· ≠ id) }
  if session.expiresAt.all fun t => t < s.now then
    { s with store := s.store.updateStatus id .expired (lit "expired_token") deviceCodeExpired }
  else if !hasService then
    { s with
      store := s.store.updateStatus id .failed (lit "service_missing")
        (lit "CPA service not found") }
  else s.move id .waiting

/-- The ids of the active sessions. -/
def activeIDs (store : SessionStore) : List Str :=
  (store.sessions.rows.filter fun r => isActiveStatus r.2.status).map Prod.fst

/-- The process ends and starts again. -/
def restart (s : LoginSystem) : LoginSystem :=
  let store := SessionStore.load s.store.file s.now
  { store := store, now := s.now, resuming := activeIDs store, imported := s.imported }

/-- The next state, when the event can happen. -/
def step (s : LoginSystem) : LoginEvent → Option LoginSystem
  | .elapse d => some { s with now := s.now + d }
  | .look =>
    if s.resuming = [] then some { s with store := s.store.normalizeLocked s.now } else none
  | .create id serviceID provider dcr =>
    if s.resuming = [] ∧ s.store.sessions.get? id = none then
      match s.store.createSession s.now id serviceID provider dcr with
      | some store => some ({ s with store := store }.move id .starting)
      | none => some { s with store := s.store.normalizeLocked s.now }
    else none
  | .attach id poolID =>
    if s.resuming = [] then some { s with store := s.store.updatePoolID id poolID } else none
  | .start id => if s.poller id = .starting then some (s.move id .waiting) else none
  | .cancel id =>
    if s.resuming = [] then
      let (store, wasActive) := s.store.cancelSession s.now id
      some { s with
        store := store
        signalled := fun other => s.signalled other ||
          (other == id && wasActive && decide (s.poller id ≠ .starting)) }
    else none
  | .wake id isDone =>
    if s.poller id = .waiting ∧ (isDone = true → s.isDone id = true) then
      some (s.move id (if isDone then .cutOff else .ticked))
    else none
  | .lookup id =>
    let next := fun p =>
      { s with store := s.store.normalizeLocked s.now }.move id
        (if s.store.sessions.get? id = none then .ended else p)
    match s.poller id with
    | .cutOff => some (next .cutOffFound)
    | .ticked => some (next .found)
    | _ => none
  | .check id =>
    match s.poller id with
    | .cutOffFound => some (s.move id (if s.status? id = some .pending then .lapsing else .ended))
    | .found => some (s.move id (if s.status? id = some .cancelled then .ended else .polling))
    | _ => none
  | .answer id a => if s.poller id = .polling then some (s.move id (afterAnswer a)) else none
  | .write id => s.write id
  | .importAccount id accountID =>
    if s.poller id = .finalizing then
      some ({ s with imported := s.imported ++ [(id, accountID)] }.move id (.attaching accountID))
    else none
  | .refuse id errorCode errorMessage =>
    match s.poller id with
    | .finalizing | .attaching _ =>
      some (s.move id (.reporting .failed errorCode errorMessage))
    | _ => none
  | .attached id =>
    match s.poller id with
    | .attaching accountID => some (s.move id (.completing accountID))
    | _ => none
  | .restart => some s.restart
  | .resume id hasService =>
    if id ∈ s.resuming then
      (s.store.sessions.get? id).map fun session => s.resume id session hasService
    else none

end LoginSystem

/-! ## What a step does to one session -/

/-- A session, its poller, whether it is still to be resumed, and the accounts that its
logins have put in the table. -/
structure LoginView where
  session : Option LoginSession
  poller : Poller
  resuming : Bool
  accounts : List Int

/-- What a session is after a write of its poller, and where the poller is then. -/
inductive Writes : Poller → (LoginSession → LoginSession) → Poller → Prop where
  | lapse : Writes .lapsing
      (fun s => { s with
        status := .expired
        errorCode := lit "expired_token"
        errorMessage := LoginSystem.deviceCodeExpired }) .ended
  | report (status : SessionStatus) (errorCode errorMessage : Str) :
      Writes (.reporting status errorCode errorMessage)
        (fun s => { s with
          status := status, errorCode := errorCode, errorMessage := errorMessage }) .ended
  | authorize : Writes .authorizing
      (fun s => { s with status := .authorized, errorCode := [], errorMessage := [] }) .finalizing
  | complete (accountID : Int) : Writes (.completing accountID)
      (fun s => { s with status := .succeeded, accountID := some accountID }) .ended

/-- The moves of a poller that write nothing, on the status that it sees. -/
inductive Goes (status : Option SessionStatus) : Poller → Poller → Prop where
  | start : Goes status .starting .waiting
  | done : Goes status .waiting .cutOff
  | tick : Goes status .waiting .ticked
  | cutOff : Goes status .cutOff .cutOffFound
  | lookup : Goes status .ticked .found
  | lostCutOff (h : status = none) : Goes status .cutOff .ended
  | lost (h : status = none) : Goes status .ticked .ended
  | lapse (h : status = some .pending) : Goes status .cutOffFound .lapsing
  | leave (h : status ≠ some .pending) : Goes status .cutOffFound .ended
  | quit (h : status = some .cancelled) : Goes status .found .ended
  | poll (h : status ≠ some .cancelled) : Goes status .found .polling
  | answer (a : PollAnswer) : Goes status .polling (LoginSystem.afterAnswer a)
  | refuse (errorCode errorMessage : Str) :
      Goes status .finalizing (.reporting .failed errorCode errorMessage)
  | refuseAttached (accountID : Int) (errorCode errorMessage : Str) :
      Goes status (.attaching accountID) (.reporting .failed errorCode errorMessage)
  | attached (accountID : Int) : Goes status (.attaching accountID) (.completing accountID)

/-- What one thing that happens does to a session. -/
inductive Moves : LoginView → LoginView → Prop where
  | normalize (now : Int) (v : LoginView) :
      Moves v { v with session := v.session.map (LoginSession.normalized now) }
  | attach (poolID : Int) (v : LoginView) :
      Moves v { v with session := v.session.map fun s => { s with poolID := poolID } }
  | cancel {v : LoginView} (h : v.resuming = false) :
      Moves v { v with session := v.session.map SessionStore.cancelled }
  | go {v : LoginView} {p : Poller} (h : Goes (v.session.map LoginSession.status) v.poller p) :
      Moves v { v with poller := p }
  | write {v : LoginView} {p : Poller} {f : LoginSession → LoginSession} (h : Writes v.poller f p) :
      Moves v { v with session := v.session.map f, poller := p }
  | importAccount {v : LoginView} (h : v.poller = .finalizing) (accountID : Int) :
      Moves v { v with
        poller := .attaching accountID, accounts := v.accounts ++ [accountID] }
  | restart (now : Int) (v : LoginView) :
      Moves v { v with
        session := v.session.map fun s => s.persisted.normalized now
        poller := .absent
        resuming := v.session.any fun s => isActiveStatus (s.persisted.normalized now).status }
  | resume {v : LoginView} (h : v.resuming = true) :
      Moves v { v with poller := .waiting, resuming := false }
  | giveUp {v : LoginView} (h : v.resuming = true) {status : SessionStatus}
      (hstatus : status = .expired ∨ status = .failed) (errorCode errorMessage : Str) :
      Moves v { v with
        session := v.session.map fun s =>
          { s with status := status, errorCode := errorCode, errorMessage := errorMessage }
        resuming := false }

namespace LoginSystem

/-- One session of the system. -/
def view (s : LoginSystem) (id : Str) : LoginView where
  session := s.store.sessions.get? id
  poller := s.poller id
  resuming := s.resuming.contains id
  accounts := (s.imported.filter fun login => login.1 == id).map Prod.snd

variable {s t : LoginSystem} {id other : Str}

theorem view_move (s : LoginSystem) (id : Str) (p : Poller) (other : Str) :
    (s.move id p).view other = { s.view other with
      poller := if other = id then p else s.poller other } := by
  unfold view move
  dsimp only
  rw [Function.update_apply]

theorem move_self (s : LoginSystem) (id : Str) (p : Poller) :
    (s.move id p).view id = { s.view id with poller := p } := by
  rw [view_move, if_pos rfl]

theorem move_of_ne (s : LoginSystem) (p : Poller) (h : other ≠ id) :
    (s.move id p).view other = s.view other := by
  rw [view_move, if_neg h]
  rfl

/-- A poller that goes on without a write. -/
theorem moves_go {p : Poller} (h : Goes (s.status? id) (s.poller id) p) (other : Str) :
    Relation.ReflTransGen Moves (s.view other) ((s.move id p).view other) := by
  by_cases heq : other = id
  · subst heq
    rw [move_self]
    exact .single (.go h)
  · rw [move_of_ne s p heq]

/-- The sessions after `normalizeLocked`. -/
theorem view_normalize (s : LoginSystem) (id : Str) :
    ({ s with store := s.store.normalizeLocked s.now } : LoginSystem).view id =
      { s.view id with session := (s.view id).session.map (LoginSession.normalized s.now) } := by
  unfold view
  dsimp only
  rw [SessionStore.get?_normalizeLocked]

theorem moves_normalize (s : LoginSystem) (id : Str) :
    Moves (s.view id) (({ s with store := s.store.normalizeLocked s.now } : LoginSystem).view id) := by
  rw [view_normalize]
  exact .normalize s.now (s.view id)

/-- A session is written, and its poller goes on. -/
theorem view_modify_move (s : LoginSystem) (id : Str) (f : LoginSession → LoginSession)
    (p : Poller) (other : Str) :
    (({ s with store := s.store.modify id f } : LoginSystem).move id p).view other =
      if other = id then { s.view id with session := (s.view id).session.map f, poller := p }
      else s.view other := by
  by_cases heq : other = id
  · subst heq
    rw [move_self, if_pos rfl]
    unfold view
    dsimp only
    rw [SessionStore.get?_modify, if_pos rfl]
  · rw [move_of_ne _ p heq, if_neg heq]
    unfold view
    dsimp only
    rw [SessionStore.get?_modify, if_neg heq]

/-- A write of a poller. -/
theorem moves_write {f : LoginSession → LoginSession} {p : Poller} (h : Writes (s.poller id) f p)
    (other : Str) : Relation.ReflTransGen Moves (s.view other)
      ((({ s with store := s.store.modify id f } : LoginSystem).move id p).view other) := by
  rw [view_modify_move]
  by_cases heq : other = id
  · subst heq
    rw [if_pos rfl]
    exact .single (.write h)
  · rw [if_neg heq]

theorem write_moves (h : s.write id = some t) (other : Str) :
    Relation.ReflTransGen Moves (s.view other) (t.view other) := by
  unfold write at h
  split at h
  next hp =>
    obtain rfl := Option.some.inj h
    exact moves_write (hp ▸ .lapse) other
  next status errorCode errorMessage hp =>
    obtain rfl := Option.some.inj h
    exact moves_write (hp ▸ .report status errorCode errorMessage) other
  next hp =>
    obtain rfl := Option.some.inj h
    exact moves_write (hp ▸ .authorize) other
  next accountID hp =>
    obtain rfl := Option.some.inj h
    exact moves_write (hp ▸ .complete accountID) other
  · contradiction

/-- `CreateSession` adds a session, beside the others. -/
structure Creates (s t : LoginSystem) (id : Str) (a : LoginSession) : Prop where
  fresh : s.store.sessions.get? id = none
  added : t.view id = { s.view id with session := some a, poller := .starting }
  status : a.status = .pending
  others : ∀ other, other ≠ id → Moves (s.view other) (t.view other)
  /-- No other session of the service is active. -/
  alone : ∀ other b, other ≠ id → t.store.sessions.get? other = some b →
    b.serviceID = a.serviceID → isActiveStatus b.status = false

theorem create_creates {serviceID : Int} {provider : Str} {dcr : DeviceCodeResponse}
    {store : SessionStore} (hnone : s.store.sessions.get? id = none)
    (h : s.store.createSession s.now id serviceID provider dcr = some store) :
    Creates s (({ s with store := store } : LoginSystem).move id .starting) id
      (SessionStore.newSession s.now id serviceID provider dcr) := by
  obtain ⟨hactive, hget⟩ := SessionStore.get?_createSession h
  refine ⟨hnone, ?_, rfl, ?_, ?_⟩
  · rw [move_self]
    unfold view
    dsimp only
    rw [hget, if_pos rfl]
  · intro other hne
    have hview : (({ s with store := store } : LoginSystem).move id .starting).view other =
        { s.view other with
          session := (s.view other).session.map (LoginSession.normalized s.now) } := by
      rw [move_of_ne _ _ hne]
      unfold view
      dsimp only
      rw [hget, if_neg hne]
    rw [hview]
    exact .normalize s.now _
  · intro other b hne hb hservice
    have hnormalized : (s.store.normalizeLocked s.now).sessions.get? other = some b := by
      rw [SessionStore.get?_normalizeLocked]
      exact (if_neg hne).symm.trans ((hget other).symm.trans hb)
    exact SessionStore.hasActive_eq_false hactive hnormalized hservice

theorem attach_moves (s : LoginSystem) (id : Str) (poolID : Int) (other : Str) :
    Relation.ReflTransGen Moves (s.view other)
      (({ s with store := s.store.updatePoolID id poolID } : LoginSystem).view other) := by
  have hview : (({ s with store := s.store.updatePoolID id poolID } : LoginSystem).view other) =
      if other = id then
        { s.view id with session := (s.view id).session.map fun a => { a with poolID := poolID } }
      else s.view other := by
    unfold view SessionStore.updatePoolID
    dsimp only
    rw [SessionStore.get?_modify]
    split
    next heq => rw [heq]
    · rfl
  rw [hview]
  split
  next heq =>
    rw [heq]
    exact .single (.attach poolID _)
  · exact .refl

theorem cancel_moves (hresuming : s.resuming = []) (id : Str) (signalled : Str → Bool)
    (other : Str) :
    Relation.ReflTransGen Moves (s.view other)
      (({ s with
        store := (s.store.cancelSession s.now id).1
        signalled := signalled } : LoginSystem).view other) := by
  have hview : ({ s with
      store := (s.store.cancelSession s.now id).1
      signalled := signalled } : LoginSystem).view other =
      { s.view other with
        session := if other = id then
            ((s.view other).session.map (LoginSession.normalized s.now)).map SessionStore.cancelled
          else (s.view other).session.map (LoginSession.normalized s.now) } := by
    unfold view
    dsimp only
    rw [SessionStore.get?_cancelSession]
    split
    next heq => rw [heq, Option.map_map]; rfl
    · rfl
  rw [hview]
  have hfirst : Moves (s.view other) _ := .normalize s.now (s.view other)
  split
  · exact .tail (.single hfirst) (.cancel (by simp [view, hresuming]))
  · exact .single hfirst

theorem lookup_moves {p : Poller} (h : ∀ status, status ≠ none → Goes status (s.poller id) p)
    (hlost : Goes none (s.poller id) .ended) (other : Str) :
    Relation.ReflTransGen Moves (s.view other)
      ((({ s with store := s.store.normalizeLocked s.now } : LoginSystem).move id
        (if s.store.sessions.get? id = none then .ended else p)).view other) := by
  refine .head (moves_normalize s other) (moves_go ?_ other)
  have hstatus : LoginSystem.status? { s with store := s.store.normalizeLocked s.now } id = none ↔
      s.store.sessions.get? id = none := by
    unfold status?
    simp
  by_cases hnone : s.store.sessions.get? id = none
  · rw [if_pos hnone, hstatus.mpr hnone]
    exact hlost
  · rw [if_neg hnone]
    exact h _ (mt hstatus.mp hnone)

theorem import_moves (hp : s.poller id = .finalizing) (accountID : Int) (other : Str) :
    Relation.ReflTransGen Moves (s.view other)
      ((({ s with imported := s.imported ++ [(id, accountID)] } : LoginSystem).move id
        (.attaching accountID)).view other) := by
  by_cases heq : other = id
  · subst heq
    have hview : (({ s with imported := s.imported ++ [(other, accountID)] } : LoginSystem).move other
        (.attaching accountID)).view other = { s.view other with
          poller := .attaching accountID
          accounts := (s.view other).accounts ++ [accountID] } := by
      rw [move_self]
      simp [view]
    rw [hview]
    exact .single (.importAccount hp accountID)
  · have hview : (({ s with imported := s.imported ++ [(id, accountID)] } : LoginSystem).move id
        (.attaching accountID)).view other = s.view other := by
      rw [move_of_ne _ _ heq]
      simp [view, Ne.symm heq]
    rw [hview]

theorem mem_activeIDs {store : SessionStore} :
    id ∈ activeIDs store ↔
      (store.sessions.get? id).any (fun a => isActiveStatus a.status) = true := by
  unfold activeIDs
  rw [List.mem_map]
  constructor
  · rintro ⟨r, hr, rfl⟩
    obtain ⟨hmem, hactive⟩ := List.mem_filter.mp hr
    have hget : store.sessions.get? r.1 = some r.2 := by
      unfold GoMap.get?
      rw [Table.find?_of_mem hmem]
      rfl
    rw [hget]
    exact hactive
  · intro h
    cases hget : store.sessions.get? id with
    | none =>
      rw [hget] at h
      contradiction
    | some a =>
      rw [hget] at h
      obtain ⟨r, hfind, rfl⟩ := Option.map_eq_some_iff.mp hget
      obtain ⟨hmem, rfl⟩ := Table.mem_of_find? hfind
      exact ⟨r, List.mem_filter.mpr ⟨hmem, h⟩, rfl⟩

theorem restart_moves (hs : s.store.Saved) (id : Str) : Moves (s.view id) (s.restart.view id) := by
  have hget : (SessionStore.load s.store.file s.now).sessions.get? id =
      (s.store.sessions.get? id).map fun a => a.persisted.normalized s.now := by
    unfold SessionStore.load
    rw [SessionStore.get?_normalizeLocked]
    show (s.store.file.get? id).map _ = _
    rw [hs id, Option.map_map]
    rfl
  have hresuming : (activeIDs (SessionStore.load s.store.file s.now)).contains id =
      (s.store.sessions.get? id).any fun a => isActiveStatus (a.persisted.normalized s.now).status := by
    rw [Bool.eq_iff_iff, List.contains_iff_mem, mem_activeIDs, hget, Option.any_map]
  have hview : s.restart.view id = { s.view id with
      session := (s.view id).session.map fun a => a.persisted.normalized s.now
      poller := .absent
      resuming := (s.view id).session.any fun a =>
        isActiveStatus (a.persisted.normalized s.now).status } := by
    unfold view restart
    dsimp only
    rw [hget, hresuming]
  rw [hview]
  exact .restart s.now _

theorem view_giveUp (s : LoginSystem) (id : Str) (status : SessionStatus)
    (errorCode errorMessage : Str) (other : Str) :
    ({ s with
      resuming := s.resuming.filter (· ≠ id)
      store := s.store.updateStatus id status errorCode errorMessage } : LoginSystem).view other =
      if other = id then
        { s.view id with
          session := (s.view id).session.map fun a =>
            { a with status := status, errorCode := errorCode, errorMessage := errorMessage }
          resuming := false }
      else s.view other := by
  unfold view SessionStore.updateStatus
  dsimp only
  rw [SessionStore.get?_modify]
  split
  next heq => simp [heq]
  next heq => simp [heq]

theorem view_resumed (s : LoginSystem) (id other : Str) :
    ((({ s with resuming := s.resuming.filter (· ≠ id) } : LoginSystem).move id .waiting).view
      other) = if other = id then { s.view id with poller := .waiting, resuming := false }
        else s.view other := by
  rw [view_move]
  unfold view
  dsimp only
  split
  next heq => simp [heq]
  next heq => simp [heq]

theorem resume_moves (hmem : id ∈ s.resuming) (session : LoginSession) (hasService : Bool)
    (other : Str) :
    Relation.ReflTransGen Moves (s.view other) ((s.resume id session hasService).view other) := by
  have hresuming : (s.view id).resuming = true := List.contains_iff_mem.mpr hmem
  have hstop : ∀ status errorCode errorMessage,
      (status = SessionStatus.expired ∨ status = SessionStatus.failed) →
        Relation.ReflTransGen Moves (s.view other)
          (({ s with
            resuming := s.resuming.filter (· ≠ id)
            store := s.store.updateStatus id status errorCode errorMessage } : LoginSystem).view
              other) := by
    intro status errorCode errorMessage hstatus
    rw [view_giveUp]
    split
    next heq =>
      rw [heq]
      exact .single (.giveUp hresuming hstatus errorCode errorMessage)
    · exact .refl
  unfold resume
  dsimp only
  split
  · exact hstop .expired _ _ (.inl rfl)
  · split
    · exact hstop .failed _ _ (.inr rfl)
    · rw [view_resumed]
      split
      next heq =>
        rw [heq]
        exact .single (.resume hresuming)
      · exact .refl

/-- A step adds a session, or makes a few moves in each session. -/
theorem step_cases {e : LoginEvent} (h : s.step e = some t) (hs : s.store.Saved) :
    (∀ other, Relation.ReflTransGen Moves (s.view other) (t.view other)) ∨
      ∃ id a, Creates s t id a := by
  cases e with
  | elapse d =>
    obtain rfl := Option.some.inj h
    exact .inl fun _ => .refl
  | look =>
    obtain ⟨-, h⟩ := Option.ite_none_right_eq_some.mp h
    obtain rfl := Option.some.inj h
    exact .inl fun other => .single (moves_normalize s other)
  | create id serviceID provider dcr =>
    obtain ⟨⟨-, hnone⟩, h⟩ := Option.ite_none_right_eq_some.mp h
    split at h
    next store hcreate =>
      obtain rfl := Option.some.inj h
      exact .inr ⟨id, _, create_creates hnone hcreate⟩
    · obtain rfl := Option.some.inj h
      exact .inl fun other => .single (moves_normalize s other)
  | attach id poolID =>
    obtain ⟨-, h⟩ := Option.ite_none_right_eq_some.mp h
    obtain rfl := Option.some.inj h
    exact .inl fun other => attach_moves s id poolID other
  | start id =>
    obtain ⟨hp, h⟩ := Option.ite_none_right_eq_some.mp h
    obtain rfl := Option.some.inj h
    exact .inl fun other => moves_go (hp ▸ .start) other
  | cancel id =>
    obtain ⟨hresuming, h⟩ := Option.ite_none_right_eq_some.mp h
    obtain rfl := Option.some.inj h
    exact .inl fun other => cancel_moves hresuming id _ other
  | wake id isDone =>
    obtain ⟨⟨hp, -⟩, h⟩ := Option.ite_none_right_eq_some.mp h
    obtain rfl := Option.some.inj h
    cases isDone with
    | true => exact .inl fun other => moves_go (hp ▸ .done) other
    | false => exact .inl fun other => moves_go (hp ▸ .tick) other
  | lookup id =>
    rw [step] at h
    dsimp only at h
    split at h
    next hp =>
      obtain rfl := Option.some.inj h
      exact .inl fun other => lookup_moves (fun _ _ => hp ▸ .cutOff) (hp ▸ .lostCutOff rfl) other
    next hp =>
      obtain rfl := Option.some.inj h
      exact .inl fun other => lookup_moves (fun _ _ => hp ▸ .lookup) (hp ▸ .lost rfl) other
    · contradiction
  | check id =>
    rw [step] at h
    split at h
    next hp =>
      obtain rfl := Option.some.inj h
      by_cases hpending : s.status? id = some .pending
      · rw [if_pos hpending]
        exact .inl fun other => moves_go (hp ▸ .lapse hpending) other
      · rw [if_neg hpending]
        exact .inl fun other => moves_go (hp ▸ .leave hpending) other
    next hp =>
      obtain rfl := Option.some.inj h
      by_cases hcancelled : s.status? id = some .cancelled
      · rw [if_pos hcancelled]
        exact .inl fun other => moves_go (hp ▸ .quit hcancelled) other
      · rw [if_neg hcancelled]
        exact .inl fun other => moves_go (hp ▸ .poll hcancelled) other
    · contradiction
  | answer id a =>
    obtain ⟨hp, h⟩ := Option.ite_none_right_eq_some.mp h
    obtain rfl := Option.some.inj h
    exact .inl fun other => moves_go (hp ▸ .answer a) other
  | write id => exact .inl fun other => write_moves h other
  | importAccount id accountID =>
    obtain ⟨hp, h⟩ := Option.ite_none_right_eq_some.mp h
    obtain rfl := Option.some.inj h
    exact .inl fun other => import_moves hp accountID other
  | refuse id errorCode errorMessage =>
    rw [step] at h
    split at h
    next hp =>
      obtain rfl := Option.some.inj h
      exact .inl fun other => moves_go (hp ▸ .refuse errorCode errorMessage) other
    next accountID hp =>
      obtain rfl := Option.some.inj h
      exact .inl fun other => moves_go (hp ▸ .refuseAttached accountID errorCode errorMessage) other
    · contradiction
  | attached id =>
    rw [step] at h
    split at h
    next accountID hp =>
      obtain rfl := Option.some.inj h
      exact .inl fun other => moves_go (hp ▸ .attached accountID) other
    · contradiction
  | restart =>
    obtain rfl := Option.some.inj h
    exact .inl fun other => .single (restart_moves hs other)
  | resume id hasService =>
    obtain ⟨hmem, h⟩ := Option.ite_none_right_eq_some.mp h
    obtain ⟨session, -, rfl⟩ := Option.map_eq_some_iff.mp h
    exact .inl fun other => resume_moves hmem session hasService other

/-! ## The file -/

theorem write_saved (h : s.write id = some t) (hs : s.store.Saved) : t.store.Saved := by
  unfold write at h
  split at h
  all_goals first | contradiction | (obtain rfl := Option.some.inj h; exact hs.modify id _)

theorem persisted_persisted (a : LoginSession) : a.persisted.persisted = a.persisted := rfl

theorem restart_saved (hs : s.store.Saved) : s.restart.store.Saved := by
  refine SessionStore.saved_load s.now fun id a hget => ?_
  rw [hs id] at hget
  obtain ⟨b, -, rfl⟩ := Option.map_eq_some_iff.mp hget
  exact persisted_persisted b

theorem resume_saved (hs : s.store.Saved) (id : Str) (session : LoginSession) (hasService : Bool) :
    (s.resume id session hasService).store.Saved := by
  unfold resume
  dsimp only
  split
  · exact hs.modify id _
  · split
    · exact hs.modify id _
    · exact hs

/-- After every step the file holds the sessions. -/
theorem step_saved {e : LoginEvent} (h : s.step e = some t) (hs : s.store.Saved) :
    t.store.Saved := by
  cases e with
  | elapse d =>
    obtain rfl := Option.some.inj h
    exact hs
  | look =>
    obtain ⟨-, h⟩ := Option.ite_none_right_eq_some.mp h
    obtain rfl := Option.some.inj h
    exact hs.normalizeLocked s.now
  | create id serviceID provider dcr =>
    obtain ⟨-, h⟩ := Option.ite_none_right_eq_some.mp h
    split at h
    next store hcreate =>
      obtain rfl := Option.some.inj h
      exact SessionStore.saved_createSession hcreate
    · obtain rfl := Option.some.inj h
      exact hs.normalizeLocked s.now
  | attach id poolID =>
    obtain ⟨-, h⟩ := Option.ite_none_right_eq_some.mp h
    obtain rfl := Option.some.inj h
    exact hs.modify id _
  | start id =>
    obtain ⟨-, h⟩ := Option.ite_none_right_eq_some.mp h
    obtain rfl := Option.some.inj h
    exact hs
  | cancel id =>
    obtain ⟨-, h⟩ := Option.ite_none_right_eq_some.mp h
    obtain rfl := Option.some.inj h
    exact hs.cancelSession s.now id
  | wake id isDone =>
    obtain ⟨-, h⟩ := Option.ite_none_right_eq_some.mp h
    obtain rfl := Option.some.inj h
    exact hs
  | lookup id =>
    rw [step] at h
    split at h
    all_goals
      first | contradiction | (obtain rfl := Option.some.inj h; exact hs.normalizeLocked s.now)
  | check id =>
    rw [step] at h
    split at h
    all_goals first | contradiction | (obtain rfl := Option.some.inj h; exact hs)
  | answer id a =>
    obtain ⟨-, h⟩ := Option.ite_none_right_eq_some.mp h
    obtain rfl := Option.some.inj h
    exact hs
  | write id => exact write_saved h hs
  | importAccount id accountID =>
    obtain ⟨-, h⟩ := Option.ite_none_right_eq_some.mp h
    obtain rfl := Option.some.inj h
    exact hs
  | refuse id errorCode errorMessage =>
    rw [step] at h
    split at h
    all_goals first | contradiction | (obtain rfl := Option.some.inj h; exact hs)
  | attached id =>
    rw [step] at h
    split at h
    all_goals first | contradiction | (obtain rfl := Option.some.inj h; exact hs)
  | restart =>
    obtain rfl := Option.some.inj h
    exact restart_saved hs
  | resume id hasService =>
    obtain ⟨-, h⟩ := Option.ite_none_right_eq_some.mp h
    obtain ⟨session, -, rfl⟩ := Option.map_eq_some_iff.mp h
    exact resume_saved hs id session hasService

end LoginSystem

end Lune.Admin
