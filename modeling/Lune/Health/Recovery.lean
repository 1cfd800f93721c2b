import Lune.Gateway.ErrorGrace
import Lune.Health.ModelRequest
import Lune.Lib.Races

/-!
# Errors of discovery and the next success

A check that fails writes its error into the columns of the account.  The next one
that succeeds takes the error for its own by the text, and spares every other error
for a while.  Not every text that a check writes is among those it knows.
-/

namespace Lune.Health

open GoText Keyed TimeText Programs Lune.Store Lune.Gateway

/-! ## The recogniser -/

/-- A text that starts neither like the errors of `net/http` nor like the one about
the service is no error of discovery. -/
theorem isModelDiscoveryHealthError_cons {b : UInt8} (hb : isGraphic b = true) (hget : b ≠ 71)
    (hservice : b ≠ 67) (rest : Str) : isModelDiscoveryHealthError (b :: rest) = false := by
  obtain ⟨rest', htrim⟩ := exists_trimSpace_cons hb rest
  have hfront : hasPrefix (b :: rest') (lit "Get ") = false := by
    show ((71 : UInt8) == b && _) = false
    simp [Ne.symm hget]
  have hne : (b :: rest' == lit "CPA service unreachable") = false := by
    show (b == (67 : UInt8) && _) = false
    simp [hservice]
  unfold isModelDiscoveryHealthError
  rw [htrim]
  dsimp only
  rw [hfront, hne]
  rfl

theorem isModelDiscoveryHealthError_status (statusCode : Int) (body : Str) :
    isModelDiscoveryHealthError (formatHTTPStatusError statusCode body) = false := by
  unfold formatHTTPStatusError
  dsimp only
  split
  · exact isModelDiscoveryHealthError_cons (by decide) (by decide) (by decide) _
  · exact isModelDiscoveryHealthError_cons (by decide) (by decide) (by decide) _

/-! ## Checks -/

/-- A check: the account as it was listed, the services in the cache, the exchange
with the upstream, the statements that fail when the models are stored, and how
long it took. -/
structure Check where
  acc : Account
  snap : CacheSnapshot := {}
  exchange : Exchange
  failing : RefreshStatement → Bool := fun _ => false
  storeError : Str := []
  latency : Nat := 0
  latencyText : Str := []

namespace Check

/-- What the check meets. -/
def io (k : Check) : CheckIO where
  snap := k.snap
  discovery := { answer := k.exchange.answer, storeError := k.storeError, failing := k.failing }
  latency := k.latency
  latencyText := k.latencyText

/-- `checkOne`. -/
def program (k : Check) : StoreProg Unit := checkOne k.io k.acc

/-- The discovery of the check fails, and the text of the failure. -/
inductive Fails (k : Check) : Str → Prop where
  | service (h : serviceUnreachable k.snap k.acc = true) : Fails k (lit "CPA service unreachable")
  | answer {err : Str} (hservice : serviceUnreachable k.snap k.acc = false)
    (h : k.exchange.answer = .error err) : Fails k err
  | store {models : List Str} (hservice : serviceUnreachable k.snap k.acc = false)
    (h : k.exchange.answer = .ok models) (hne : models ≠ [])
    (hstore : ¬models.Nodup ∨ Database.RefreshFault k.failing models) :
    Fails k (lit "store models: " ++ k.storeError)

/-- The failure is that of the service, or one of the client with a text that the
recogniser knows. -/
def Recognised (k : Check) : Prop :=
  serviceUnreachable k.snap k.acc = true ∨
    ∃ err, k.exchange.clientError? = some err ∧ isModelDiscoveryHealthError err = true

theorem Fails.recognised_iff {k : Check} {msg : Str} (h : k.Fails msg) :
    isModelDiscoveryHealthError msg = true ↔ k.Recognised := by
  cases h with
  | service h => exact iff_of_true (by decide) (Or.inl h)
  | answer hservice h =>
    unfold Recognised
    rw [hservice]
    rcases Exchange.answer_error h with herr | ⟨hnone, statusCode, body, rfl⟩
    · simp [herr]
    · simp [hnone, isModelDiscoveryHealthError_status]
  | store hservice h hne hstore =>
    unfold Recognised
    rw [hservice, Exchange.clientError?_of_ok h]
    have hmsg : isModelDiscoveryHealthError (lit "store models: " ++ k.storeError) = false :=
      isModelDiscoveryHealthError_cons (by decide) (by decide) (by decide) _
    simp [hmsg]

end Check

/-! ## The health columns -/

/-- The status of a row, its error and when it was checked. -/
def healthOf (a : AccountRow) : Str × Str × Option Str :=
  (a.status, a.lastError, a.lastCheckedAt)

/-- Nobody has written the health columns of the account. -/
def SameHealth (id : Int) (db db' : Database) : Prop :=
  db'.column? healthOf id = db.column? healthOf id

theorem sameHealth_of_others {id : Int} {db db' : Database}
    (h : Relation.ReflTransGen (SameHealth id) db db') : SameHealth id db db' := by
  induction h with
  | refl => rfl
  | tail _ hlast ih => exact Eq.trans hlast ih

theorem sameHealth_refreshAccountModels (db : Database) (id accountID : Int) (models : List Str) :
    SameHealth id db (db.refreshAccountModels accountID models) := by
  unfold SameHealth Database.column?
  rw [(db.tables_refreshAccountModels accountID models).1]

/-- The write of an error. -/
theorem health_updateAccountHealth {db : Database} {id : Int}
    (hpresent : (db.column? healthOf id).isSome = true) (env : StoreEnv)
    (status lastError : Str) :
    (db.updateAccountHealth env id status lastError).column? healthOf id =
      some (status, lastError, some env.now.datetime) := by
  obtain ⟨old, hold⟩ := Option.isSome_iff_exists.mp hpresent
  have hcolumn : (db.updateAccountHealth env id status lastError).column? healthOf id =
      (db.column? healthOf id).map fun _ => (status, lastError, some env.now.datetime) :=
    Database.column?_updateAccount_self db env id (fun _ => rfl) fun _ => rfl
  rw [hcolumn, hold]
  rfl

/-- The write of a health that has not changed since it was read. -/
theorem health_updateAccountHealthIfUnchanged {db : Database} {id : Int} {previous : Account}
    (h : db.column? healthOf id = some (healthOf previous.toAccountRow)) (env : StoreEnv)
    (status lastError : Str) :
    (db.updateAccountHealthIfUnchanged env id status lastError previous).column?
        healthOf id = some (status, lastError, some env.now.datetime) := by
  obtain ⟨row, hrow, hhealth⟩ := Option.map_eq_some_iff.mp h
  unfold Database.column?
  rw [Database.find?_updateAccountHealthIfUnchanged, if_pos rfl, hrow]
  have hsame : row.healthUnchanged previous.toAccountRow = true := by
    simp only [healthOf, Prod.mk.injEq] at hhealth
    simp [AccountRow.healthUnchanged, hhealth]
  simp [hsame, healthOf]

/-- An error that was written at some time is spared until the end of the grace
period, unless the recogniser knows it. -/
theorem preserves_of_written {acc : Account} {msg : Str} {written : Clock}
    (h : healthOf acc.toAccountRow = (lit "error", msg, some written.datetime)) (now : Clock) :
    shouldPreserveAccountErrorDuringDiscovery acc now = true ↔
      isModelDiscoveryHealthError msg = false ∧ now.nanos < graceEnd written := by
  simp only [healthOf, Prod.mk.injEq] at h
  unfold shouldPreserveAccountErrorDuringDiscovery graceEnd
  rw [h.1, h.2.1, h.2.2, Option.bind_some, parseRouteTime_datetime]
  simp only [beq_self_eq_true, Bool.true_and, Bool.and_eq_true, Bool.not_eq_true',
    Bool.or_eq_true, decide_eq_true_eq]
  refine and_congr_right fun _ => ?_
  omega

theorem isSome_find?_of_health {db : Database} {id : Int}
    (h : (db.column? healthOf id).isSome = true) : (db.accounts.find? id).isSome = true :=
  Option.isSome_map ▸ h

/-! ## Runs of a discovery -/

/-- A discovery with a list: the transaction that stores it is committed or rolled back. -/
theorem amid_discoverModels {E : StoreEnv → Prop} {other : Database → Database → Prop}
    {db db' : Database} {ws : List StoreCall} {discovery : Discovery} {models : List Str} {id : Int}
    {result : Except Str (List Str)} (hanswer : discovery.answer = .ok models) (hne : models ≠ [])
    (hrun : (discoverModels discovery id).Amid StoreCall.run E other db ws result db') :
    ∃ u, Relation.ReflTransGen other db u ∧
      (∀ stored, u.refreshModelsTx discovery.failing id models = some stored →
        result = .ok models ∧ ∃ v, Relation.ReflTransGen other u v ∧
          Relation.ReflTransGen other (v.refreshAccountModels id models) db') ∧
      (u.refreshModelsTx discovery.failing id models = none →
        result = .error (lit "store models: " ++ discovery.storeError) ∧
          Relation.ReflTransGen other u db') := by
  unfold discoverModels at hrun
  rw [hanswer] at hrun
  cases models with
  | nil => exact absurd rfl hne
  | cons model models =>
    dsimp only at hrun
    obtain ⟨stored, u, ws₁, ws₂, -, hlook, hrest⟩ := Prog.amid_bind.mp hrun
    obtain ⟨env, v, -, hbefore, -, rfl, hafter⟩ := Prog.amid_look.mp hlook
    refine ⟨v, hbefore, ?_, ?_⟩
    · intro stored hcommits
      rw [hcommits, Option.isSome_some, if_pos rfl] at hrest
      obtain ⟨_, w, ws₃, ws₄, -, hwrites, hret⟩ := Prog.amid_bind.mp hrest
      obtain ⟨env', x, ws₅, -, hbefore', -, hnil⟩ := Prog.amid_writes_cons.mp hwrites
      obtain ⟨-, hafter'⟩ := Prog.amid_writes_nil.mp hnil
      obtain ⟨-, rfl, hothers⟩ := Prog.amid_pure.mp hret
      exact ⟨rfl, x, hafter.trans hbefore', hafter'.trans hothers⟩
    · intro hfails
      rw [hfails] at hrest
      obtain ⟨-, rfl, hothers⟩ := Prog.amid_pure.mp hrest
      exact ⟨rfl, hafter.trans hothers⟩

/-! ## Runs of a check -/

section Runs

variable {E : StoreEnv → Prop} {id : Int} {db db' : Database} {ws : List StoreCall}

/-- A discovery that fails, among others that leave the health columns alone. -/
theorem Check.discovery_of_fails {k : Check} {msg : Str} (h : k.Fails msg)
    (hservice : serviceUnreachable k.snap k.acc = false) {result : Except Str (List Str)}
    (hpresent : (db.column? healthOf k.acc.id).isSome = true)
    (hrun : (discoverModels k.io.discovery k.acc.id).Amid StoreCall.run E (SameHealth k.acc.id)
      db ws result db') :
    result = .error msg ∧ SameHealth k.acc.id db db' := by
  cases h with
  | service h => exact absurd (h.symm.trans hservice) (by decide)
  | answer _ h =>
    unfold discoverModels io at hrun
    rw [h] at hrun
    obtain ⟨-, rfl, hothers⟩ := Prog.amid_pure.mp hrun
    exact ⟨rfl, sameHealth_of_others hothers⟩
  | @store models _ h hne hstore =>
    obtain ⟨u, hbefore, -, hrolled⟩ := amid_discoverModels h hne hrun
    have hsame := sameHealth_of_others hbefore
    have hthere : (u.accounts.find? k.acc.id).isSome = true :=
      isSome_find?_of_health (hsame ▸ hpresent)
    obtain ⟨rfl, hafter⟩ := hrolled ((Database.refreshModelsTx_eq hthere).2 hstore)
    exact ⟨rfl, (sameHealth_of_others hafter).trans hsame⟩

/-- A discovery that does not fail. -/
theorem Check.discovery_of_succeeds {k : Check} (h : ∀ msg, ¬k.Fails msg)
    {result : Except Str (List Str)} (hpresent : (db.column? healthOf k.acc.id).isSome = true)
    (hrun : (discoverModels k.io.discovery k.acc.id).Amid StoreCall.run E (SameHealth k.acc.id)
      db ws result db') :
    (∃ models, result = .ok models) ∧ SameHealth k.acc.id db db' := by
  have hservice : serviceUnreachable k.snap k.acc = false :=
    Bool.eq_false_iff.mpr fun hservice => h _ (.service hservice)
  cases hanswer : k.exchange.answer with
  | error err => exact absurd (.answer hservice hanswer) (h err)
  | ok models =>
    by_cases hne : models = []
    · unfold discoverModels io at hrun
      rw [hanswer, hne] at hrun
      obtain ⟨-, rfl, hothers⟩ := Prog.amid_pure.mp hrun
      exact ⟨⟨[], rfl⟩, sameHealth_of_others hothers⟩
    have hstore : models.Nodup ∧ ¬Database.RefreshFault k.failing models := by
      by_contra hnot
      rw [not_and_or, not_not] at hnot
      exact h _ (.store hservice hanswer hne hnot)
    obtain ⟨u, hbefore, hcommitted, -⟩ := amid_discoverModels hanswer hne hrun
    have hsame := sameHealth_of_others hbefore
    have hthere : (u.accounts.find? k.acc.id).isSome = true :=
      isSome_find?_of_health (hsame ▸ hpresent)
    obtain ⟨rfl, v, hothers, hafter⟩ := hcommitted _ ((Database.refreshModelsTx_eq hthere).1 hstore)
    refine ⟨⟨models, rfl⟩, ?_⟩
    calc db'.column? healthOf k.acc.id
        = (v.refreshAccountModels k.acc.id models).column? healthOf k.acc.id :=
          sameHealth_of_others hafter
      _ = v.column? healthOf k.acc.id :=
          sameHealth_refreshAccountModels v k.acc.id k.acc.id models
      _ = u.column? healthOf k.acc.id := sameHealth_of_others hothers
      _ = db.column? healthOf k.acc.id := hsame

/-- The write of an error, among others. -/
theorem health_of_error {msg : Str} (hpresent : (db.column? healthOf id).isSome = true)
    (hrun : (Prog.writes [.updateAccountHealth id (lit "error") msg]).Amid StoreCall.run E
      (SameHealth id) db ws () db') :
    ∃ env, E env ∧ db'.column? healthOf id = some (lit "error", msg, some env.now.datetime) := by
  obtain ⟨env, u, ws', henv, hbefore, -, hrest⟩ := Prog.amid_writes_cons.mp hrun
  obtain ⟨-, hafter⟩ := Prog.amid_writes_nil.mp hrest
  have hsame := sameHealth_of_others hbefore
  have hwritten := health_updateAccountHealth (hsame ▸ hpresent) env (lit "error") msg
  exact ⟨env, henv, (sameHealth_of_others hafter).trans hwritten⟩

/-- A check that fails leaves its text behind. -/
theorem Check.health_of_fails {k : Check} {msg : Str} (h : k.Fails msg)
    (hpresent : (db.column? healthOf k.acc.id).isSome = true)
    (hrun : k.program.Amid StoreCall.run E (SameHealth k.acc.id) db ws () db') :
    ∃ env, E env ∧
      db'.column? healthOf k.acc.id = some (lit "error", msg, some env.now.datetime) := by
  unfold program checkOne at hrun
  split at hrun
  next hservice =>
    have hmsg : msg = lit "CPA service unreachable" := by
      cases h with
      | service => rfl
      | answer hreachable | store hreachable =>
        exact absurd (hservice.symm.trans hreachable) (by decide)
    exact hmsg ▸ health_of_error hpresent hrun
  next hservice =>
    obtain ⟨result, u, ws₁, ws₂, -, hdiscovery, hrest⟩ := Prog.amid_bind.mp hrun
    obtain ⟨rfl, hsame⟩ :=
      discovery_of_fails h (Bool.eq_false_iff.mpr hservice) hpresent hdiscovery
    exact health_of_error (hsame ▸ hpresent) hrest

/-- A check whose discovery succeeds spares the error that it finds, or writes the
health of the discovery. -/
theorem Check.health_of_succeeds {k : Check} {msg : Str} {written : Clock}
    (h : ∀ msg, ¬k.Fails msg)
    (hbefore : db.column? healthOf k.acc.id = some (lit "error", msg, some written.datetime))
    (hrun : k.program.Amid StoreCall.run E (SameHealth k.acc.id) db ws () db') :
    ∃ env, E env ∧
      if isModelDiscoveryHealthError msg = false ∧ env.now.nanos < graceEnd written then
        db'.column? healthOf k.acc.id = some (lit "error", msg, some written.datetime)
      else ∃ checkedAt, db'.column? healthOf k.acc.id =
        some ((discoveredHealth k.io).1, (discoveredHealth k.io).2, checkedAt) := by
  have hpresent : (db.column? healthOf k.acc.id).isSome = true := hbefore ▸ rfl
  have hservice : ¬serviceUnreachable k.io.snap k.acc = true := fun hservice =>
    h _ (.service hservice)
  unfold program checkOne at hrun
  rw [if_neg hservice] at hrun
  obtain ⟨result, u, ws₁, ws₂, -, hdiscovery, hrest⟩ := Prog.amid_bind.mp hrun
  obtain ⟨⟨models, rfl⟩, hsame⟩ := discovery_of_succeeds h hpresent hdiscovery
  dsimp only at hrest
  obtain ⟨latest, v, ws₃, ws₄, -, hget, hrest⟩ := Prog.amid_bind.mp hrest
  obtain ⟨-, x, -, hothers, -, rfl, hafter⟩ := Prog.amid_look.mp hget
  have hx : x.column? healthOf k.acc.id = some (lit "error", msg, some written.datetime) :=
    (sameHealth_of_others hothers).trans (hsame.trans hbefore)
  obtain ⟨row, hrow, hhealth⟩ := Option.map_eq_some_iff.mp hx
  have hlatest : x.getAccount k.acc.id = some (scanAccountRow row) := congrArg _ hrow
  rw [hlatest, Option.getD_some] at hrest
  obtain ⟨now, y, ws₅, ws₆, -, hclock, hrest⟩ := Prog.amid_bind.mp hrest
  obtain ⟨env, z, henv, hothers', -, rfl, hafter'⟩ := Prog.amid_look.mp hclock
  refine ⟨env, henv, ?_⟩
  have hy : y.column? healthOf k.acc.id = some (healthOf row) :=
    (sameHealth_of_others (hafter.trans (hothers'.trans hafter'))).trans (hx.trans (hhealth ▸ rfl))
  have hpreserves : shouldPreserveAccountErrorDuringDiscovery (scanAccountRow row) env.now = true ↔
      isModelDiscoveryHealthError msg = false ∧ env.now.nanos < graceEnd written :=
    preserves_of_written hhealth env.now
  split at hrest
  next hspared =>
    rw [if_pos (hpreserves.mp hspared)]
    obtain ⟨-, -, hend⟩ := Prog.amid_pure.mp hrest
    exact (sameHealth_of_others hend).trans (hy.trans (hhealth ▸ rfl))
  next hspared =>
    rw [if_neg (mt hpreserves.mpr hspared)]
    obtain ⟨env', t, ws', -, hothers'', -, hrest⟩ := Prog.amid_writes_cons.mp hrest
    obtain ⟨-, hend⟩ := Prog.amid_writes_nil.mp hrest
    have ht : t.column? healthOf k.acc.id =
        some (healthOf (scanAccountRow row).toAccountRow) :=
      (sameHealth_of_others hothers'').trans hy
    exact ⟨_, (sameHealth_of_others hend).trans (health_updateAccountHealthIfUnchanged ht env' _ _)⟩

end Runs

/-! ## A failure and the next success -/

/-- A check fails, and the next one whose discovery succeeds comes while nobody else
writes the health of the account.  The account is healthy or degraded then if and
only if the failure is one that the recogniser knows, or the grace period is over. -/
theorem discovery_error_clears_iff {id : Int} {first second : Check} {msg : Str}
    {failed checked : Clock} {db db₁ db₂ : Database} {ws₁ ws₂ : List StoreCall}
    (hfirst : first.acc.id = id) (hsecond : second.acc.id = id)
    (hpresent : (db.accounts.find? id).isSome = true)
    (hfails : first.Fails msg) (hsucceeds : ∀ msg, ¬second.Fails msg)
    (hrun₁ : first.program.Amid StoreCall.run (fun env => env.now = failed) (SameHealth id)
      db ws₁ () db₁)
    (hrun₂ : second.program.Amid StoreCall.run (fun env => env.now = checked) (SameHealth id)
      db₁ ws₂ () db₂) :
    (∃ row, db₂.accounts.find? id = some row ∧
        (row.status = lit "healthy" ∨ row.status = lit "degraded")) ↔
      first.Recognised ∨ graceEnd failed ≤ checked.nanos := by
  subst hfirst
  have hstatus : (∃ row, db₂.accounts.find? first.acc.id = some row ∧
        (row.status = lit "healthy" ∨ row.status = lit "degraded")) ↔
      ∃ health, db₂.column? healthOf first.acc.id = some health ∧
        (health.1 = lit "healthy" ∨ health.1 = lit "degraded") := by
    unfold Database.column?
    constructor
    · rintro ⟨row, hrow, h⟩
      exact ⟨healthOf row, by rw [hrow]; rfl, h⟩
    · rintro ⟨health, hhealth, h⟩
      obtain ⟨row, hrow, rfl⟩ := Option.map_eq_some_iff.mp hhealth
      exact ⟨row, hrow, h⟩
  have hthere : (db.column? healthOf first.acc.id).isSome = true := by
    unfold Database.column?
    rw [Option.isSome_map]
    exact hpresent
  obtain ⟨env, rfl, hwritten⟩ := Check.health_of_fails hfails hthere hrun₁
  rw [← hsecond] at hwritten hrun₂ hstatus
  obtain ⟨env', rfl, hend⟩ := Check.health_of_succeeds hsucceeds hwritten hrun₂
  rw [hsecond] at hend hstatus
  rw [hstatus, ← hfails.recognised_iff]
  split at hend
  next hspared =>
    refine iff_of_false ?_ ?_
    · rintro ⟨health, hhealth, h⟩
      obtain rfl := Option.some.inj (hend.symm.trans hhealth)
      rcases h with h | h
      · exact absurd (show lit "error" = lit "healthy" from h) (by decide)
      · exact absurd (show lit "error" = lit "degraded" from h) (by decide)
    · rintro (hknown | hover)
      · exact absurd (hspared.1.symm.trans hknown) (by decide)
      · exact absurd hspared.2 (Nat.not_lt.mpr hover)
  next hcleared =>
    obtain ⟨checkedAt, hend⟩ := hend
    refine iff_of_true ⟨_, hend, ?_⟩ ?_
    · unfold discoveredHealth
      split
      · exact Or.inr rfl
      · exact Or.inl rfl
    · rw [not_and_or, Bool.not_eq_false, Nat.not_lt] at hcleared
      exact hcleared

/-- A check of the direct account. -/
def directExchange (x : Exchange) : Check where
  acc := scanAccountRow directAccount
  exchange := x

theorem directExchange_id (x : Exchange) : (directExchange x).acc.id = 1 := rfl

theorem directExchange_reachable (x : Exchange) :
    serviceUnreachable (directExchange x).snap (directExchange x).acc = false := by
  rfl

/-- The answer of an upstream that is well. -/
def listOfOne : Exchange := .response 200 (lit "\x7b\"data\":[\x7b\"id\":\"gpt\"\x7d]\x7d") none

theorem listOfOne_succeeds (msg : Str) : ¬(directExchange listOfOne).Fails msg := by
  have hanswer : listOfOne.answer = .ok [lit "gpt"] := by decide +kernel
  intro h
  cases h with
  | service h => exact absurd h (by decide)
  | answer _ h => exact nomatch hanswer.symm.trans h
  | store _ h _ hstore =>
    obtain rfl := Except.ok.inj (hanswer.symm.trans h)
    rcases hstore with hnodup | hfault
    · exact hnodup (List.nodup_singleton _)
    · simp [Database.RefreshFault, directExchange] at hfault

/-- The tables after a check of the direct account. -/
def afterCheck (x : Exchange) (n : Fin 60) (db : Database) : Database :=
  ((directExchange x).program.run StoreCall.run (secondsIn n) db).2

theorem amid_afterCheck (x : Exchange) (n : Fin 60) (db : Database) :
    (directExchange x).program.Amid StoreCall.run (fun env => env.now = (secondsIn n).now)
      (SameHealth 1) db ((directExchange x).program.written StoreCall.run (secondsIn n) db) ()
      (afterCheck x n db) :=
  Prog.amid_run (E := fun env => env.now = (secondsIn n).now) rfl (directExchange x).program db

/-- An upstream that refuses the connection. -/
def refusal : Exchange := .transportError (lit "Get \"http://upstream/models\": connection refused")

/-- A second after the refusal the account is well. -/
theorem refused_then_well : ∃ row,
    (afterCheck listOfOne 2 (afterCheck refusal 1 directDatabase)).accounts.find? 1 = some row ∧
      (row.status = lit "healthy" ∨ row.status = lit "degraded") := by
  have hrecognised : (directExchange refusal).Recognised := Or.inr ⟨_, rfl, by decide +kernel⟩
  have hpresent : (directDatabase.accounts.find? 1).isSome = true := by decide +kernel
  have hiff := discovery_error_clears_iff (directExchange_id refusal) (directExchange_id listOfOne)
    hpresent (.answer (directExchange_reachable refusal) rfl) listOfOne_succeeds
    (amid_afterCheck refusal 1 directDatabase)
    (amid_afterCheck listOfOne 2 (afterCheck refusal 1 directDatabase))
  exact hiff.mpr (Or.inl hrecognised)

/-- An upstream that answers with a status of its own. -/
def serverError : Exchange := .response 500 (lit "upstream down") none

/-- A second after that answer the account is still in error. -/
theorem status_error_stays : ∃ msg ws₁ ws₂,
    (directExchange serverError).Fails msg ∧ (∀ msg, ¬(directExchange listOfOne).Fails msg) ∧
      (directExchange serverError).program.Amid StoreCall.run
        (fun env => env.now = (secondsIn 1).now) (SameHealth 1) directDatabase ws₁ ()
        (afterCheck serverError 1 directDatabase) ∧
      (directExchange listOfOne).program.Amid StoreCall.run
        (fun env => env.now = (secondsIn 2).now) (SameHealth 1)
        (afterCheck serverError 1 directDatabase) ws₂ ()
        (afterCheck listOfOne 2 (afterCheck serverError 1 directDatabase)) ∧
      (afterCheck listOfOne 2 (afterCheck serverError 1 directDatabase)).column?
        AccountRow.status 1 = some (lit "error") := by
  have hanswer : serverError.answer = .error (formatHTTPStatusError 500 (lit "upstream down")) := rfl
  refine ⟨_, _, _, .answer (directExchange_reachable serverError) hanswer, listOfOne_succeeds,
    amid_afterCheck serverError 1 directDatabase,
    amid_afterCheck listOfOne 2 (afterCheck serverError 1 directDatabase), ?_⟩
  decide +kernel

end Lune.Health
