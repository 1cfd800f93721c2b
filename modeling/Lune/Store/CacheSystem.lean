import Lune.Lib.Runs
import Lune.Store.Database

/-!
# Goroutines on the routing cache

`RoutingCache.Get` and `Invalidate` of `internal/store/cache.go` as a step
function.  Any number of goroutines write the database, invalidate the cache and
call `Get`, in any order; every access to a shared variable, every lock
operation and every query is a step of its own.

`dbVer` counts invalidations.  It is a `uint64` in the source, and no process
lives to count to its end; here it is a `Nat`.

A query always succeeds here.  The moment of each query is kept with the
snapshot, and `Pc` remembers the moment `Get` was called; no step depends on
either.
-/

namespace Lune.Store

open Keyed

/-! ## A load in progress -/

/-- The next query of `loadFromDB`.  `ListPools` sends one for the pools and one
for the models of each pool. -/
inductive LoadStage
  | accounts
  | diagnostics
  | pools
  | poolModels (loaded : List Pool) (pool : Pool) (rest : List Pool)
  | members
  | models
  | tokens
  | settings
  | services
  | done

/-- What a load has read so far, and when. -/
structure Load where
  stage : LoadStage := .accounts
  reads : TableReads := ⟨none, none, none, none, none, none, none, none⟩
  readAt : List Nat := []

/-- The next query once `loaded` pools have their models. -/
def Load.nextPool (l : Load) (loaded : List Pool) : List Pool → Load
  | pool :: rest => { l with stage := .poolModels loaded pool rest }
  | [] => { l with stage := .members, reads := { l.reads with pools := some loaded } }

/-- The load with the answer to its next query. -/
def Load.answer (l : Load) (db : Database) (now : Clock) : Option Load :=
  match l.stage with
  | .accounts => some { l with
      stage := .diagnostics, reads := { l.reads with accounts := some db.listAccounts } }
  | .diagnostics => some { l with
      stage := .pools
      reads := { l.reads with diagnostics := some db.listAccountDiagnostics } }
  | .pools => some (l.nextPool [] ((db.listPools now).map ({ · with models := [] })))
  | .poolModels loaded pool rest =>
    some (l.nextPool (loaded ++ [{ pool with models := db.getPoolModels pool.id }]) rest)
  | .members => some { l with
      stage := .models, reads := { l.reads with members := (db.tableReads now).members } }
  | .models => some { l with
      stage := .tokens, reads := { l.reads with models := (db.tableReads now).models } }
  | .tokens => some { l with
      stage := .settings, reads := { l.reads with tokens := (db.tableReads now).tokens } }
  | .settings => some { l with
      stage := .services, reads := { l.reads with settings := (db.tableReads now).settings } }
  | .services => some { l with
      stage := .done, reads := { l.reads with services := (db.tableReads now).services } }
  | .done => none

/-- One query, at the moment `time`. -/
def Load.query (l : Load) (db : Database) (now : Clock) (time : Nat) : Option Load :=
  (l.answer db now).map fun l' => { l' with readAt := l.readAt ++ [time] }

/-- A snapshot with the moments of its reads. -/
structure Loaded where
  content : CacheSnapshot
  readAt : List Nat

/-! ## Goroutines -/

/-- A goroutine. -/
abbrev Goroutine := Nat

/-- Where a goroutine stands; in `Get`, with its local variables and the moment
it was called. -/
inductive Pc
  | idle
  /-- `dbv := c.dbVer.Load()` is next. -/
  | called (start : Nat)
  /-- `c.mu.RLock()` is next. -/
  | loaded (start dbv : Nat)
  /-- `c.version == dbv` is next, under the read lock. -/
  | comparing (start dbv : Nat)
  /-- `c.snapshot != nil` is next, under the read lock. -/
  | matched (start dbv : Nat)
  /-- `c.mu.RUnlock()` and `return snap` are next. -/
  | hit (start : Nat) (snap : Loaded)
  /-- `c.mu.RUnlock()` is next. -/
  | missed (start : Nat)
  /-- `c.mu.Lock()` is next. -/
  | waiting (start : Nat)
  /-- `dbv = c.dbVer.Load()` is next, under the write lock. -/
  | locked (start : Nat)
  /-- `c.version == dbv && c.snapshot != nil` is next, under the write lock. -/
  | rechecking (start dbv : Nat)
  /-- `loadFromDB` is running. -/
  | loading (start dbv : Nat) (load : Load)
  /-- `c.version = dbv` is next. -/
  | stamping (start dbv : Nat) (snap : Loaded)
  /-- The deferred `c.mu.Unlock()` and the return are next. -/
  | unlocking (start : Nat) (snap : Loaded)

/-- The goroutine holds the read lock. -/
def Pc.reads : Pc → Bool
  | .comparing .. | .matched .. | .hit .. | .missed .. => true
  | _ => false

/-- The goroutine holds the write lock. -/
def Pc.writes : Pc → Bool
  | .locked .. | .rechecking .. | .loading .. | .stamping .. | .unlocking .. => true
  | _ => false

/-- What one step does. -/
inductive Event
  /-- A statement changes the database. -/
  | write (g : Goroutine) (db : Database)
  /-- `Invalidate`: its one atomic addition. -/
  | invalidate (g : Goroutine)
  | getStart (g : Goroutine)
  | loadVersion (g : Goroutine)
  | rLock (g : Goroutine)
  | compare (g : Goroutine)
  | takeSnapshot (g : Goroutine)
  | rUnlockMiss (g : Goroutine)
  | lock (g : Goroutine)
  | reloadVersion (g : Goroutine)
  | recheck (g : Goroutine)
  | query (g : Goroutine) (now : Clock)
  | installSnapshot (g : Goroutine)
  | installVersion (g : Goroutine)
  | getReturn (g : Goroutine)

/-- The database, the cache and the goroutines. -/
structure CacheState where
  time : Nat
  db : Database
  version : Nat
  dbVer : Nat
  snapshot : Option Loaded
  readers : List Goroutine
  writer : Option Goroutine
  pc : Goroutine → Pc

/-- `NewRoutingCache` on a database, before any goroutine runs. -/
def newRoutingCache (db : Database) : CacheState where
  time := 0
  db := db
  version := 0
  dbVer := 1
  snapshot := none
  readers := []
  writer := none
  pc := fun _ => .idle

namespace CacheState

/-- Move a goroutine on. -/
def goto (s : CacheState) (g : Goroutine) (pc : Pc) : CacheState :=
  { s with pc := Function.update s.pc g pc }

/-- One step, without the passing of time. -/
def act (s : CacheState) : Event → Option CacheState
  | .write g db =>
    match s.pc g with
    | .idle => some { s with db := db }
    | _ => none
  | .invalidate g =>
    match s.pc g with
    | .idle => some { s with dbVer := s.dbVer + 1 }
    | _ => none
  | .getStart g =>
    match s.pc g with
    | .idle => some (s.goto g (.called s.time))
    | _ => none
  | .loadVersion g =>
    match s.pc g with
    | .called start => some (s.goto g (.loaded start s.dbVer))
    | _ => none
  | .rLock g =>
    match s.pc g, s.writer with
    | .loaded start dbv, none =>
      some { s.goto g (.comparing start dbv) with readers := g :: s.readers }
    | _, _ => none
  | .compare g =>
    match s.pc g with
    | .comparing start dbv =>
      some (s.goto g (if s.version = dbv then .matched start dbv else .missed start))
    | _ => none
  | .takeSnapshot g =>
    match s.pc g, s.snapshot with
    | .matched start _, some snap => some (s.goto g (.hit start snap))
    | .matched start _, none => some (s.goto g (.missed start))
    | _, _ => none
  | .rUnlockMiss g =>
    match s.pc g with
    | .missed start => some { s.goto g (.waiting start) with readers := s.readers.erase g }
    | _ => none
  | .lock g =>
    match s.pc g, s.writer, s.readers with
    | .waiting start, none, [] => some { s.goto g (.locked start) with writer := some g }
    | _, _, _ => none
  | .reloadVersion g =>
    match s.pc g with
    | .locked start => some (s.goto g (.rechecking start s.dbVer))
    | _ => none
  | .recheck g =>
    match s.pc g with
    | .rechecking start dbv =>
      match s.snapshot with
      | some snap =>
        some (s.goto g (if s.version = dbv then .unlocking start snap else .loading start dbv {}))
      | none => some (s.goto g (.loading start dbv {}))
    | _ => none
  | .query g now =>
    match s.pc g with
    | .loading start dbv load =>
      (load.query s.db now s.time).map fun load => s.goto g (.loading start dbv load)
    | _ => none
  | .installSnapshot g =>
    match s.pc g with
    | .loading start dbv ⟨.done, reads, readAt⟩ =>
      let snap : Loaded := ⟨loadFromDB reads, readAt⟩
      some { s.goto g (.stamping start dbv snap) with snapshot := some snap }
    | _ => none
  | .installVersion g =>
    match s.pc g with
    | .stamping start dbv snap => some { s.goto g (.unlocking start snap) with version := dbv }
    | _ => none
  | .getReturn g =>
    match s.pc g with
    | .hit _ _ => some { s.goto g .idle with readers := s.readers.erase g }
    | .unlocking _ _ => some { s.goto g .idle with writer := none }
    | _ => none

/-- One step. -/
def step (s : CacheState) (e : Event) : Option CacheState :=
  (s.act e).map fun s' => { s' with time := s.time + 1 }

/-- What the call of `Get` that `g` is about to leave returns. -/
def returning (s : CacheState) (g : Goroutine) : Option Loaded :=
  match s.pc g with
  | .hit _ snap => some snap
  | .unlocking _ snap => some snap
  | _ => none

end CacheState

end Lune.Store
