import Lune.Gateway.Actions
import Lune.Health.Refresh

/-!
# How long an error of the gateway lasts

The gateway writes the errors of requests into the columns that the health
checker writes too.  A check that succeeds spares a recent error, but a check
that fails puts its own message in the place of the error, and the next success
takes the message for one of discovery.
-/

namespace Lune.Gateway

open GoText Keyed TimeText Programs Lune.Store Lune.Health

/-! ## The programs -/

/-- `updateHealth`, step by step. -/
def updateHealth (accountID : Int) (status lastError : Str) : StoreProg Unit := do
  let env ← Prog.look fun env _ => env
  Prog.writes ((Action.updateHealth accountID status lastError).calls { store := env })

/-- The programs that write the health of accounts: the gateway over an error,
and the checks. -/
inductive HealthProgram : StoreProg Unit → Prop where
  | gateway (accountID : Int) (lastError : Str) :
    HealthProgram (updateHealth accountID (lit "error") lastError)
  | check (io : CheckIO) (acc : Account) : HealthProgram (checkOne io acc)

/-- The end of the grace period, in nanoseconds, for an error written at a time
that the store keeps in whole seconds. -/
def graceEnd (written : Clock) : Nat := written.seconds * second + accountErrorDiscoveryGrace

/-- The calls of these programs before some time: an error, a list of models, or
the health after a discovery, on an account whose error was not spared. -/
def HealthCall (deadline : Nat) : StoreCall → Prop
  | .updateAccountHealth _ status _ => status = lit "error"
  | .updateAccountHealthIfUnchanged _ _ _ previous =>
    ∃ now : Clock, now.nanos < deadline ∧
      shouldPreserveAccountErrorDuringDiscovery previous now = false
  | .refreshAccountModels _ _ => True
  | _ => False

theorem HealthProgram.safe {p : StoreProg Unit} (h : HealthProgram p) (deadline : Nat) :
    p.Safe (fun env _ => env.now.nanos < deadline) (HealthCall deadline) fun _ => True := by
  cases h with
  | gateway accountID lastError =>
    unfold updateHealth
    rw [Prog.safe_bind, Prog.safe_look]
    intro env db _
    simp [Action.calls, Action.effects, effectCall?, HealthCall]
  | check io acc =>
    unfold checkOne
    split
    · simp [HealthCall]
    · rw [Prog.safe_bind]
      apply safe_discoverModels
      · exact fun _ => trivial
      intro result
      cases result with
      | error err => simp [HealthCall]
      | ok models =>
        dsimp only
        rw [Prog.safe_bind, Prog.safe_look]
        intro _ db _
        unfold clock
        rw [Prog.safe_bind, Prog.safe_look]
        intro env _ henv
        split
        · trivial
        next hspared =>
          rw [Prog.safe_writes]
          refine ⟨?_, trivial⟩
          intro call hcall
          obtain rfl := List.mem_singleton.mp hcall
          exact ⟨env.now, henv, Bool.eq_false_iff.mpr hspared⟩

/-! ## The grace -/

/-- The account, when it is there, has an error that is not one of discovery and
is not older than `written`. -/
def Spared (id : Int) (written : Clock) (db : Database) : Prop :=
  ∀ row, db.accounts.find? id = some row → row.status = lit "error" ∧
    isModelDiscoveryHealthError row.lastError = false ∧
    ∃ checked : Clock, written.seconds ≤ checked.seconds ∧
      row.lastCheckedAt = some checked.datetime

/-- The time that SQLite wrote is read back. -/
theorem parseRouteTime_datetime (clock : Clock) :
    parseRouteTime clock.datetime = some ((clock.seconds : Int) * second) := by
  have hvalid := Calendar.fieldsOf_valid clock.seconds_lt
  have hne : clock.datetime ≠ [] := by simp [Clock.datetime, datetimeText]
  rw [parseRouteTime, Clock.datetime, trimSpace_datetimeText, ← Clock.datetime, if_neg hne,
    Clock.datetime, parse_rfc3339_datetimeText hvalid, parse_datetimeText hvalid,
    Calendar.seconds_fieldsOf]
  rfl

/-- An account that still has the health of a spared row is spared too, until
the grace period ends. -/
theorem preserves_of_unchanged {row : AccountRow} {written now : Clock} {previous : Account}
    {checked : Clock} (hstatus : row.status = lit "error")
    (hmsg : isModelDiscoveryHealthError row.lastError = false)
    (hchecked : row.lastCheckedAt = some checked.datetime)
    (hle : written.seconds ≤ checked.seconds) (hnow : now.nanos < graceEnd written)
    (hsame : row.healthUnchanged previous.toAccountRow = true) :
    shouldPreserveAccountErrorDuringDiscovery previous now = true := by
  simp only [AccountRow.healthUnchanged, Bool.and_eq_true, beq_iff_eq] at hsame
  obtain ⟨⟨hsameStatus, hsameError⟩, hsameTime⟩ := hsame
  have htime : previous.lastCheckedAt = some checked.datetime := by
    cases hprevious : previous.lastCheckedAt with
    | none =>
      rw [hprevious, hchecked] at hsameTime
      simp [Clock.datetime, datetimeText] at hsameTime
    | some text =>
      rw [hprevious, hchecked] at hsameTime
      exact congrArg some hsameTime.symm
  unfold graceEnd at hnow
  unfold shouldPreserveAccountErrorDuringDiscovery
  rw [← hsameStatus, ← hsameError, hstatus, hmsg, htime, Option.bind_some,
    parseRouteTime_datetime]
  have hsecond : (written.seconds : Int) * second ≤ checked.seconds * second := by
    have : written.seconds * second ≤ checked.seconds * second := Nat.mul_le_mul_right _ hle
    omega
  simp only [beq_self_eq_true, Bool.not_false, Bool.and_self, Bool.true_and, Bool.or_eq_true,
    decide_eq_true_eq]
  right
  omega

/-- The write of an error spares the account from then on. -/
theorem spared_updateAccountHealth {id : Int} {written : Clock} {env : StoreEnv}
    {lastError : Str} (hmsg : isModelDiscoveryHealthError lastError = false)
    (hnow : written.seconds ≤ env.now.seconds) (db : Database) :
    Spared id written (db.updateAccountHealth env id (lit "error") lastError) := by
  intro row hrow
  unfold Database.updateAccountHealth at hrow
  have hid : ∀ a : AccountRow, ({ a with
      status := lit "error", lastError := lastError,
      lastCheckedAt := some env.now.datetime } : AccountRow).id = a.id := fun _ => rfl
  rw [Database.find?_updateAccount db env id hid, if_pos rfl] at hrow
  obtain ⟨old, -, rfl⟩ := Option.map_eq_some_iff.mp hrow
  exact ⟨rfl, hmsg, env.now, hnow, rfl⟩

/-- Before the grace period ends, every call spares the account, unless it writes
a message of discovery over the error. -/
theorem spared_run {id : Int} {written : Clock} {env : StoreEnv} {db : Database}
    {call : StoreCall} (hcall : HealthCall (graceEnd written) call)
    (hnow : written.seconds ≤ env.now.seconds)
    (hmsg : ∀ lastError, call = .updateAccountHealth id (lit "error") lastError →
      isModelDiscoveryHealthError lastError = false)
    (h : Spared id written db) : Spared id written (call.run env db) := by
  by_cases hother : call.accountID? = some id
  · cases call with
    | updateAccountHealth other status lastError =>
      obtain rfl : status = lit "error" := hcall
      obtain rfl := Option.some.inj hother
      exact spared_updateAccountHealth (hmsg lastError rfl) hnow db
    | updateAccountHealthIfUnchanged other status lastError previous =>
      obtain ⟨now, hbefore, hspared⟩ := hcall
      obtain rfl := Option.some.inj hother
      intro row hrow
      unfold StoreCall.run at hrow
      rw [Database.find?_updateAccountHealthIfUnchanged, if_pos rfl] at hrow
      obtain ⟨old, hold, hrow⟩ := Option.map_eq_some_iff.mp hrow
      obtain ⟨hstatus, herror, checked, hle, hchecked⟩ := h old hold
      have hchanged : old.healthUnchanged previous.toAccountRow = false := by
        by_contra hsame
        rw [Bool.not_eq_false] at hsame
        have hpreserves := preserves_of_unchanged hstatus herror hchecked hle hbefore hsame
        exact Bool.false_ne_true (hspared.symm.trans hpreserves)
      rw [hchanged] at hrow
      obtain rfl := hrow
      exact ⟨hstatus, herror, checked, hle, hchecked⟩
    | refreshAccountModels => contradiction
    | _ => exact hcall.elim
  · intro row hrow
    rw [StoreCall.find?_run_of_ne env db hother] at hrow
    exact h row hrow

/-! ## Runs -/

/-- The clock that an event sees. -/
def clockOf : Programs.Event Nat StoreEnv Database StoreCall → Option Nat
  | .start _ _ => none
  | .act _ env => some env.now.nanos

/-- The clock does not go back. -/
def Forward (evs : List (Programs.Event Nat StoreEnv Database StoreCall)) : Prop :=
  (evs.filterMap clockOf).Pairwise (· ≤ ·)

theorem later_of_forward {before after : List (Programs.Event Nat StoreEnv Database StoreCall)}
    {i j : Nat} {env env' : StoreEnv} (h : Forward (before ++ .act i env :: after))
    (hj : .act j env' ∈ after) : env.now.seconds ≤ env'.now.seconds := by
  have hle : env.now.nanos ≤ env'.now.nanos := by
    rw [Forward, List.filterMap_append, List.pairwise_append] at h
    have hlater := (List.pairwise_cons.mp h.2.1).1
    exact hlater env'.now.nanos (List.mem_filterMap.mpr ⟨.act j env', hj, rfl⟩)
  exact Nat.div_le_div_right hle

/-- An error that the gateway writes at some time, with a message that is not one
of discovery, is the status of the account until the grace period ends, as long
as no check that fails writes a message of discovery over it. -/
theorem error_outlives_discovery {db : Database} {t₀ t₁ t : Threads Nat StoreEnv Database StoreCall}
    {before after : List (Programs.Event Nat StoreEnv Database StoreCall)} {i : Nat}
    {env : StoreEnv} {id : Int} {msg : Str}
    (hbefore : Runs.exec (Threads.step StoreCall.run) (Threads.idle db) before = some t₀)
    (hstep : Threads.step StoreCall.run t₀ (.act i env) = some t₁)
    (hwrites : t₀.made? (.act i env) =
      some ⟨env, t₀.shared, .updateAccountHealth id (lit "error") msg⟩)
    (hafter : Runs.exec (Threads.step StoreCall.run) t₁ after = some t)
    (hprograms : ∀ j p, .start j p ∈ before ++ after → HealthProgram p)
    (hforward : Forward (before ++ .act i env :: after))
    (hmsg : isModelDiscoveryHealthError msg = false)
    (hwindow : ∀ j e, .act j e ∈ before ++ .act i env :: after →
      e.now.nanos < graceEnd env.now)
    (hdiscoveries : ∀ m ∈ t₁.made StoreCall.run after, ∀ lastError,
      m.call = .updateAccountHealth id (lit "error") lastError →
        isModelDiscoveryHealthError lastError = false) :
    ∀ row, t.shared.accounts.find? id = some row → row.status = lit "error" := by
  have hsafe₀ := Threads.exec_safe hbefore (Threads.safe_idle db)
    (fun j p hp => (hprograms j p (List.mem_append_left after hp)).safe (graceEnd env.now))
    fun j e _ he => hwindow j e (List.mem_append_left _ he)
  obtain ⟨hsafe₁, hmade⟩ := Threads.step_cases hstep hsafe₀
    (fun _ _ heq => nomatch heq)
    fun j e heq => hwindow j e (heq ▸ List.mem_append_right before List.mem_cons_self)
  have hspared : Spared id env.now t₁.shared := by
    rcases hmade with ⟨hnone, -⟩ | ⟨m, hm, -, -, hshared⟩
    · rw [hwrites] at hnone
      contradiction
    · obtain rfl := Option.some.inj (hwrites.symm.trans hm)
      rw [hshared]
      exact spared_updateAccountHealth hmsg le_rfl t₀.shared
  have hkept := Threads.exec_keeps hafter hsafe₁
    (fun j p hp => (hprograms j p (List.mem_append_right before hp)).safe (graceEnd env.now))
    (fun j e _ he _ => hwindow j e (List.mem_append_right before (List.mem_cons_of_mem _ he)))
    hspared ?_
  · exact fun row hrow => (hkept.1 row hrow).1
  · intro m hm hcall h
    obtain ⟨j, hj⟩ := Threads.act_of_made hm
    apply spared_run hcall (later_of_forward hforward hj) (hdiscoveries m hm) h

/-! ## A failure and a success -/

/-- A direct account. -/
def directAccount : AccountRow := { id := 1, status := lit "healthy" }

/-- The database with that account. -/
def directDatabase : Database := { accounts := Table.empty.set directAccount }

/-- A check of the account with the given discovery. -/
def directCheck (answer : Except Str (List Str)) : StoreProg Unit :=
  checkOne { snap := {}, discovery := { answer := answer } } (scanAccountRow directAccount)

/-- A clock in the first minute. -/
def secondsIn (n : Fin 60) : StoreEnv where
  now :=
    { nanos := n * second
      inRange := Nat.mul_lt_mul_of_pos_right
        (n.isLt.trans_le (by decide : 60 ≤ Calendar.maxSeconds)) (by decide) }
  digest := fun _ => []

instance sixty_ne_zero : NeZero 60 := ⟨by decide⟩

/-- The gateway writes an error, a check fails, and the next one succeeds. -/
def failingCheckRun : List (Programs.Event Nat StoreEnv Database StoreCall) :=
  [.start 0 (updateHealth 1 (lit "error") (lit "upstream authentication failed")),
    .act 0 (secondsIn 1), .act 0 (secondsIn 1),
    .start 1 (directCheck (.error (lit "Get \"http://upstream/models\": connection refused"))),
    .act 1 (secondsIn 2),
    .start 1 (directCheck (.ok [])), .act 1 (secondsIn 3), .act 1 (secondsIn 3),
    .act 1 (secondsIn 3)]

/-- After the failure the success no longer spares the error, two seconds after
the gateway wrote it. -/
theorem failed_check_clears_error :
    (∀ j p, .start j p ∈ failingCheckRun → HealthProgram p) ∧ Forward failingCheckRun ∧
      isModelDiscoveryHealthError (lit "upstream authentication failed") = false ∧
      (∀ n ∈ failingCheckRun.filterMap clockOf, n < graceEnd (secondsIn 1).now) ∧
      (Runs.exec (Threads.step StoreCall.run) (Threads.idle directDatabase)
          (failingCheckRun.take 3)).map (fun t => t.shared.column? AccountRow.status 1) =
        some (some (lit "error")) ∧
      (Runs.exec (Threads.step StoreCall.run) (Threads.idle directDatabase)
          failingCheckRun).map (fun t => t.shared.column? AccountRow.status 1) =
        some (some (lit "healthy")) := by
  refine ⟨?_, ?_, by decide +kernel, by decide +kernel, by decide +kernel, by decide +kernel⟩
  · intro j p hp
    simp only [failingCheckRun, List.mem_cons, Programs.Event.start.injEq, reduceCtorEq,
      List.not_mem_nil, or_false, false_or] at hp
    rcases hp with ⟨-, rfl⟩ | ⟨-, rfl⟩ | ⟨-, rfl⟩
    · exact .gateway 1 _
    · exact .check _ _
    · exact .check _ _
  · unfold Forward
    decide +kernel

/-- The gateway is about to write an error. -/
def errorRun : List (Programs.Event Nat StoreEnv Database StoreCall) :=
  [.start 0 (updateHealth 1 (lit "error") (lit "upstream authentication failed")),
    .act 0 (secondsIn 1)]

/-- A check that succeeds. -/
def successRun : List (Programs.Event Nat StoreEnv Database StoreCall) :=
  [.start 1 (directCheck (.ok [])), .act 1 (secondsIn 3), .act 1 (secondsIn 3)]

/-- Without the failure it does. -/
theorem success_spares_error : ∃ t,
    Runs.exec (Threads.step StoreCall.run) (Threads.idle directDatabase)
        (errorRun ++ .act 0 (secondsIn 1) :: successRun) = some t ∧
      ∀ row, t.shared.accounts.find? 1 = some row → row.status = lit "error" := by
  refine ⟨_, ?_, @error_outlives_discovery directDatabase _ _ _ errorRun successRun 0
    (secondsIn 1) 1 (lit "upstream authentication failed") rfl rfl rfl rfl ?_ ?_ (by decide) ?_ ?_⟩
  · rfl
  · intro j p hp
    simp only [errorRun, successRun, List.cons_append, List.nil_append, List.mem_cons,
      Programs.Event.start.injEq, reduceCtorEq, List.not_mem_nil, or_false, false_or] at hp
    rcases hp with ⟨-, rfl⟩ | ⟨-, rfl⟩
    · exact .gateway 1 _
    · exact .check _ _
  · unfold Forward
    decide +kernel
  · intro j e he
    have hnanos : ∀ n ∈ (errorRun ++ .act 0 (secondsIn 1) :: successRun).filterMap clockOf,
        n < graceEnd (secondsIn 1).now := by
      decide +kernel
    exact hnanos e.now.nanos (List.mem_filterMap.mpr ⟨.act j e, he, rfl⟩)
  · exact fun m hm => absurd hm List.not_mem_nil

end Lune.Gateway
