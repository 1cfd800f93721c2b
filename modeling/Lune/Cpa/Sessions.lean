import Lune.Lib.GoText
import Lune.Lib.Keyed

/-!
# Login sessions

The session store of `internal/cpa/session.go`.  Its functions hold the mutex of the store
from start to end, so each is one step on the sessions and the file.

The file is written to a name of its own and renamed, so it holds the sessions of one
moment.  Writes of the file that fail are left out.
-/

namespace Lune.Cpa

open GoText Keyed

/-- The statuses of a session. -/
inductive SessionStatus where
  | pending
  | authorized
  | succeeded
  | expired
  | failed
  | cancelled
deriving DecidableEq

/-- `isActiveStatus`. -/
def isActiveStatus : SessionStatus → Bool
  | .pending | .authorized => true
  | .succeeded | .expired | .failed | .cancelled => false

/-- `LoginSession`, without the account that is shown with a session that succeeded.  Times
are nanoseconds, and the zero time is `none`. -/
structure LoginSession where
  id : Str
  serviceID : Int
  poolID : Int := 0
  provider : Str
  status : SessionStatus
  verificationURI : Str
  userCode : Str
  expiresAt : Option Int
  pollInterval : Int
  deviceAuthID : Str
  errorCode : Str := []
  errorMessage : Str := []
  accountID : Option Int := none
deriving DecidableEq

/-- `DeviceCodeResponse`. -/
structure DeviceCodeResponse where
  deviceCode : Str
  userCode : Str
  verificationURI : Str
  interval : Int
  expiresIn : Int

/-- What `json.MarshalIndent` and `json.Unmarshal` keep of a session: the fields whose tag
is not `json:"-"`. -/
def LoginSession.persisted (s : LoginSession) : LoginSession := { s with deviceAuthID := [] }

/-- An active session that is past its end. -/
def LoginSession.isOverdue (now : Int) (s : LoginSession) : Bool :=
  isActiveStatus s.status && s.expiresAt.any fun t => t < now

/-- What `normalizeLocked` makes of a session. -/
def LoginSession.normalized (now : Int) (s : LoginSession) : LoginSession :=
  if s.isOverdue now then
    { s with
      status := .expired
      errorCode := lit "expired_token"
      errorMessage := lit "Device code expired" }
  else s

/-- `SessionStore`, with what the file at its path holds. -/
structure SessionStore where
  sessions : GoMap Str LoginSession := Table.empty
  file : GoMap Str LoginSession := Table.empty

namespace SessionStore

/-- `saveLocked`. -/
def saveLocked (st : SessionStore) : SessionStore :=
  { st with file := st.sessions.mapValues LoginSession.persisted }

/-- `normalizeLocked`. -/
def normalizeLocked (st : SessionStore) (now : Int) : SessionStore :=
  if st.sessions.values.any (LoginSession.isOverdue now) then
    { st with sessions := st.sessions.mapValues (LoginSession.normalized now) }.saveLocked
  else st

/-- `getActiveSessionLocked` finds a session. -/
def hasActive (st : SessionStore) (serviceID : Int) : Bool :=
  st.sessions.values.any fun s => s.serviceID == serviceID && isActiveStatus s.status

/-- Write a session that is there, and save. -/
def modify (st : SessionStore) (id : Str) (f : LoginSession → LoginSession) : SessionStore :=
  match st.sessions.get? id with
  | some s => { st with sessions := st.sessions.put id (f s) }.saveLocked
  | none => st

/-- The session that `CreateSession` adds. -/
def newSession (now : Int) (id : Str) (serviceID : Int) (provider : Str)
    (dcr : DeviceCodeResponse) : LoginSession :=
  { id := id
    serviceID := serviceID
    provider := provider
    status := .pending
    verificationURI := dcr.verificationURI
    userCode := dcr.userCode
    expiresAt := some (now + dcr.expiresIn * 1000000000)
    pollInterval := dcr.interval
    deviceAuthID := dcr.deviceCode }

/-- `CreateSession`, with the id that was generated; `none` when there is an active session. -/
def createSession (st : SessionStore) (now : Int) (id : Str) (serviceID : Int) (provider : Str)
    (dcr : DeviceCodeResponse) : Option SessionStore :=
  let st := st.normalizeLocked now
  if st.hasActive serviceID then none
  else
    some { st with
      sessions := st.sessions.put id (newSession now id serviceID provider dcr) }.saveLocked

/-- `CancelSession`, and whether the session was active. -/
def cancelSession (st : SessionStore) (now : Int) (id : Str) : SessionStore × Bool :=
  let st := st.normalizeLocked now
  match st.sessions.get? id with
  | some s =>
    if isActiveStatus s.status then (st.modify id fun s => { s with status := .cancelled }, true)
    else (st, false)
  | none => (st, false)

/-- `UpdateStatus`. -/
def updateStatus (st : SessionStore) (id : Str) (status : SessionStatus)
    (errorCode errorMessage : Str) : SessionStore :=
  st.modify id fun s =>
    { s with status := status, errorCode := errorCode, errorMessage := errorMessage }

/-- `CompleteSession`. -/
def completeSession (st : SessionStore) (id : Str) (accountID : Int) : SessionStore :=
  st.modify id fun s => { s with status := .succeeded, accountID := some accountID }

/-- `UpdatePoolID`. -/
def updatePoolID (st : SessionStore) (id : Str) (poolID : Int) : SessionStore :=
  st.modify id fun s => { s with poolID := poolID }

/-- `NewSessionStore` on the file of an earlier process. -/
def load (file : GoMap Str LoginSession) (now : Int) : SessionStore :=
  normalizeLocked { sessions := file, file := file } now

/-! ## What the functions do to one session -/

section Get

variable {st : SessionStore} {now : Int} {id other : Str} {f : LoginSession → LoginSession}

theorem normalized_of_not_overdue {s : LoginSession} (h : s.isOverdue now = false) :
    s.normalized now = s := by
  rw [LoginSession.normalized, h]
  rfl

@[simp] theorem get?_normalizeLocked (st : SessionStore) (now : Int) (id : Str) :
    (st.normalizeLocked now).sessions.get? id =
      (st.sessions.get? id).map (LoginSession.normalized now) := by
  unfold normalizeLocked
  split
  · exact GoMap.get?_mapValues st.sessions (LoginSession.normalized now) id
  next hnone =>
    cases hget : st.sessions.get? id with
    | none => rfl
    | some s =>
      have hoverdue : s.isOverdue now = false := by
        rw [Bool.not_eq_true, List.any_eq_false] at hnone
        exact Bool.eq_false_iff.mpr (hnone s (GoMap.mem_values_iff.mpr ⟨id, hget⟩))
      rw [Option.map_some, normalized_of_not_overdue hoverdue]

theorem get?_modify (st : SessionStore) (id : Str) (f : LoginSession → LoginSession) (other : Str) :
    (st.modify id f).sessions.get? other =
      if other = id then (st.sessions.get? id).map f else st.sessions.get? other := by
  unfold modify
  cases hget : st.sessions.get? id with
  | none =>
    dsimp only
    by_cases heq : other = id
    · rw [if_pos heq, heq, hget, Option.map_none]
    · rw [if_neg heq]
  | some s =>
    show (st.sessions.put id (f s)).get? other = _
    rw [GoMap.get?_put]
    by_cases heq : other = id
    · rw [if_pos heq.symm, if_pos heq, Option.map_some]
    · rw [if_neg (Ne.symm heq), if_neg heq]

/-- A session that `CreateSession` adds, beside the others. -/
theorem get?_createSession {serviceID : Int} {provider : Str} {dcr : DeviceCodeResponse}
    {next : SessionStore} (h : st.createSession now id serviceID provider dcr = some next) :
    (st.normalizeLocked now).hasActive serviceID = false ∧
      ∀ other, next.sessions.get? other =
        if other = id then some (newSession now id serviceID provider dcr)
        else (st.sessions.get? other).map (LoginSession.normalized now) := by
  unfold createSession at h
  dsimp only at h
  split at h
  · contradiction
  next hactive =>
    obtain rfl := Option.some.inj h
    refine ⟨Bool.eq_false_iff.mpr hactive, fun other => ?_⟩
    show ((st.normalizeLocked now).sessions.put id _).get? other = _
    rw [GoMap.get?_put, get?_normalizeLocked]
    by_cases heq : other = id
    · rw [if_pos heq.symm, if_pos heq]
    · rw [if_neg (Ne.symm heq), if_neg heq]

theorem hasActive_eq_false {serviceID : Int} (h : st.hasActive serviceID = false) {s : LoginSession}
    (hget : st.sessions.get? id = some s) (hservice : s.serviceID = serviceID) :
    isActiveStatus s.status = false := by
  have hnone := List.any_eq_false.mp h s (GoMap.mem_values_iff.mpr ⟨id, hget⟩)
  rw [hservice, beq_self_eq_true, Bool.true_and] at hnone
  exact Bool.eq_false_iff.mpr hnone

/-- What `CancelSession` makes of a session. -/
def cancelled (s : LoginSession) : LoginSession :=
  if isActiveStatus s.status then { s with status := .cancelled } else s

theorem get?_cancelSession (st : SessionStore) (now : Int) (id other : Str) :
    (st.cancelSession now id).1.sessions.get? other =
      if other = id then (st.sessions.get? id).map fun s => cancelled (s.normalized now)
      else (st.sessions.get? other).map (LoginSession.normalized now) := by
  unfold cancelSession
  dsimp only
  rw [get?_normalizeLocked]
  cases hget : st.sessions.get? id with
  | none =>
    dsimp only [Option.map_none]
    rw [get?_normalizeLocked]
    split
    next heq => rw [heq, hget]; rfl
    · rfl
  | some s =>
    dsimp only [Option.map_some]
    by_cases hactive : isActiveStatus (s.normalized now).status = true
    · rw [if_pos hactive, get?_modify, get?_normalizeLocked, get?_normalizeLocked, hget]
      dsimp only [Option.map_some]
      rw [cancelled, if_pos hactive]
    · rw [if_neg hactive, get?_normalizeLocked, cancelled, if_neg hactive]
      split
      next heq => rw [heq, hget]; rfl
      · rfl

end Get

/-! ## What the file holds -/

/-- The file holds the sessions, but for what is not written. -/
def Saved (st : SessionStore) : Prop :=
  ∀ id, st.file.get? id = (st.sessions.get? id).map LoginSession.persisted

section Saved

variable {st : SessionStore}

theorem saved_saveLocked (st : SessionStore) : st.saveLocked.Saved :=
  fun id => GoMap.get?_mapValues st.sessions LoginSession.persisted id

theorem Saved.normalizeLocked (h : st.Saved) (now : Int) : (st.normalizeLocked now).Saved := by
  unfold SessionStore.normalizeLocked
  split
  · exact saved_saveLocked _
  · exact h

theorem Saved.modify (h : st.Saved) (id : Str) (f : LoginSession → LoginSession) :
    (st.modify id f).Saved := by
  unfold SessionStore.modify
  split
  · exact saved_saveLocked _
  · exact h

theorem Saved.cancelSession (h : st.Saved) (now : Int) (id : Str) :
    (st.cancelSession now id).1.Saved := by
  have hnormalized := h.normalizeLocked now
  unfold SessionStore.cancelSession
  dsimp only
  split
  · split
    · exact hnormalized.modify id _
    · exact hnormalized
  · exact hnormalized

theorem saved_createSession {now : Int} {id : Str} {serviceID : Int} {provider : Str}
    {dcr : DeviceCodeResponse} {next : SessionStore}
    (h : st.createSession now id serviceID provider dcr = some next) : next.Saved := by
  unfold createSession at h
  dsimp only at h
  split at h
  · contradiction
  · obtain rfl := Option.some.inj h
    exact saved_saveLocked _

theorem saved_empty : Saved {} := fun _ => rfl

/-- What is read from a file that holds what is written is what is written. -/
theorem saved_load {file : GoMap Str LoginSession} (now : Int)
    (h : ∀ id s, file.get? id = some s → s.persisted = s) : (load file now).Saved := by
  refine Saved.normalizeLocked (fun id => ?_) now
  cases hget : file.get? id with
  | none => rfl
  | some s => rw [Option.map_some, h id s hget]

end Saved

end SessionStore

end Lune.Cpa
