import Lune.Store.Accounts
import Lune.Store.Columns

/-!
# Accounts that are disabled and enabled again

`enableAccount`, `disableAccount` and `updateAccount` of `internal/admin/handler.go`, which
write the switch of an account, and what they leave of its routability.
-/

namespace Lune.Admin

open GoText Keyed Lune.Store

/-- A request that writes the switch of an account. -/
inductive Toggle where
  | enableAccount
  | disableAccount
  | updateAccount (req : Account)

namespace Toggle

/-- The request of `updateAccount`, with what it may not change. -/
def preserved (existing req : Account) : Account :=
  if existing.sourceKind = lit "cpa" then
    { req with baseURL := existing.baseURL, apiKey := existing.apiKey, provider := existing.provider }
  else if req.apiKey = [] then { req with apiKey := existing.apiKey }
  else req

/-- The handlers. -/
def run (env : StoreEnv) (db : Database) (id : Int) : Toggle → Database
  | enableAccount => db.enableAccount env id
  | disableAccount => db.disableAccount env id
  | updateAccount req =>
    match db.getAccount id with
    | none => db
    | some existing => db.updateAccountSettings env id (preserved existing req)

/-- One request after the other. -/
def runAll (db : Database) (id : Int) (toggles : List (StoreEnv × Toggle)) : Database :=
  toggles.foldl (fun db t => t.2.run t.1 db id) db

/-- The request leaves the account enabled. -/
def enables : Toggle → Bool
  | enableAccount => true
  | disableAccount => false
  | updateAccount req => req.enabled

/-- The request writes the status. -/
def marks : Toggle → Bool
  | disableAccount => true
  | enableAccount | updateAccount _ => false

end Toggle

/-- A row with another switch and status, and whatever `updateAccount` writes besides. -/
def Switched (row row' : AccountRow) (enabled : Bool) (status : Str) : Prop :=
  ∃ label baseURL apiKey provider notes updatedAt,
    row' = { row with label, baseURL, apiKey, provider, notes, updatedAt, enabled, status }

section Runs

variable {db : Database} {id : Int} {row row' : AccountRow} {enabled : Bool}
  {status : Str}

theorem preserved_enabled (existing req : Account) :
    (Toggle.preserved existing req).enabled = req.enabled := by
  unfold Toggle.preserved
  repeat' split
  all_goals rfl

/-- What one request does to the row. -/
theorem switched_run (env : StoreEnv) (toggle : Toggle) (hrow : db.accounts.find? id = some row')
    (h : Switched row row' enabled status) :
    ∃ row'', (toggle.run env db id).accounts.find? id = some row'' ∧
      Switched row row'' toggle.enables (if toggle.marks then lit "disabled" else status) ∧
      (toggle.run env db id).accountDiagnostics = db.accountDiagnostics := by
  obtain ⟨label, baseURL, apiKey, provider, notes, updatedAt, rfl⟩ := h
  cases toggle with
  | enableAccount =>
    exact ⟨_, Database.find?_updateAccount_self env _ (fun _ => rfl) hrow,
      ⟨label, baseURL, apiKey, provider, notes, env.now.datetime, rfl⟩, rfl⟩
  | disableAccount =>
    exact ⟨_, Database.find?_updateAccount_self env _ (fun _ => rfl) hrow,
      ⟨label, baseURL, apiKey, provider, notes, env.now.datetime, rfl⟩, rfl⟩
  | updateAccount req =>
    have hget : db.getAccount id = some _ := congrArg (Option.map scanAccountRow) hrow
    rw [Toggle.run, hget]
    dsimp only
    generalize hwritten : Toggle.preserved _ req = written
    have henabled : written.enabled = req.enabled := by
      rw [← hwritten, preserved_enabled]
    refine ⟨_, Database.find?_updateAccount_self env _ (fun _ => rfl) hrow, ⟨written.label,
      written.baseURL, written.apiKey, written.provider, written.notes, env.now.datetime, ?_⟩, rfl⟩
    rw [Toggle.enables, ← henabled]
    rfl

/-- What requests do to the row, one after the other. -/
theorem switched_runAll (toggles : List (StoreEnv × Toggle))
    (hrow : db.accounts.find? id = some row') (h : Switched row row' enabled status) :
    ∃ row'' enabled', (Toggle.runAll db id toggles).accounts.find? id = some row'' ∧
      Switched row row'' enabled'
        (if toggles.any fun t => t.2.marks then lit "disabled" else status) ∧
      (Toggle.runAll db id toggles).accountDiagnostics = db.accountDiagnostics := by
  induction toggles generalizing db row' enabled status with
  | nil => exact ⟨row', enabled, hrow, h, rfl⟩
  | cons t toggles ih =>
    obtain ⟨row'', hrow'', hswitched, hdiag⟩ := switched_run t.1 t.2 hrow h
    obtain ⟨row₃, enabled', hrow₃, hswitched₃, hdiag₃⟩ := ih hrow'' hswitched
    refine ⟨row₃, enabled', hrow₃, ?_, hdiag₃.trans hdiag⟩
    have hstatus : (if toggles.any fun t => t.2.marks then lit "disabled"
        else if t.2.marks then lit "disabled" else status) =
        if (t :: toggles).any fun t => t.2.marks then lit "disabled" else status := by
      rw [List.any_cons]
      cases t.2.marks <;> cases toggles.any fun t => t.2.marks <;> rfl
    rwa [hstatus] at hswitched₃

variable {db' : Database} {now : Clock} {opts : RoutabilityOptions}

/-- The switch and the status are all of a row that its routability can see change. -/
theorem accountRoutability_switched (hrow : db.accounts.find? id = some row)
    (hrow' : db'.accounts.find? id = some row')
    (hdiag : db'.accountDiagnostics = db.accountDiagnostics)
    (h : Switched row row' row.enabled row.status) :
    db'.accountRoutability now opts id = db.accountRoutability now opts id := by
  obtain ⟨label, baseURL, apiKey, provider, notes, updatedAt, rfl⟩ := h
  have hget : db.getAccount id = some (scanAccountRow row) := congrArg (Option.map _) hrow
  have hget' : db'.getAccount id = some _ := congrArg (Option.map scanAccountRow) hrow'
  rw [Database.accountRoutability, Database.accountRoutability, Database.get?_accounts_loadFromDB,
    Database.get?_accounts_loadFromDB, hdiag, hget, hget']
  cases db.accountDiagnostics.find? id with
  | none => rfl
  | some diag => rfl

/-- An account that takes ordinary traffic is enabled and has no error. -/
theorem of_accountRoutability (hopts : opts.diagnostic = false)
    (h : (db.accountRoutability now opts id).routable = true) :
    ∃ row, db.accounts.find? id = some row ∧ row.enabled = true ∧
      (row.status = lit "healthy" ∨ row.status = lit "degraded") := by
  rw [Database.accountRoutability] at h
  cases hload : (loadFromDB (db.tableReads now)).accounts.get? id with
  | none =>
    rw [hload] at h
    exact absurd h (by simp [evaluateAccountRoutability, blocked])
  | some acc =>
    obtain ⟨row, hrow, hacc⟩ := Database.toAccountRow_of_load hload
    rw [hload, evaluateAccountRoutability_routable now acc hopts] at h
    obtain ⟨henabled, hstatus, -⟩ := h
    rw [hacc] at henabled hstatus
    exact ⟨row, hrow, henabled, hstatus⟩

end Runs

/-- An account that takes ordinary traffic, and whose switch is then written any number of times
and on again at last, does so again at the same instant exactly when `disableAccount` was not
among the requests. -/
theorem toggled_routable_iff {db : Database} {id : Int} {now : Clock} {opts : RoutabilityOptions}
    (hopts : opts.diagnostic = false) (hroutable : (db.accountRoutability now opts id).routable = true)
    (toggles : List (StoreEnv × Toggle)) {env : StoreEnv} {last : Toggle} (hlast : last.enables = true) :
    ((Toggle.runAll db id (toggles ++ [(env, last)])).accountRoutability now opts id).routable = true ↔
      ∀ t ∈ toggles, t.2 ≠ .disableAccount := by
  obtain ⟨row, hrow, henabled, hstatus⟩ := of_accountRoutability hopts hroutable
  have hself : Switched row row row.enabled row.status :=
    ⟨row.label, row.baseURL, row.apiKey, row.provider, row.notes, row.updatedAt, rfl⟩
  obtain ⟨row', enabled, hrow', hswitched, hdiag⟩ := switched_runAll toggles hrow hself
  obtain ⟨row'', hrow'', hswitched', hdiag'⟩ := switched_run env last hrow' hswitched
  have hmarks : last.marks = false := by
    cases last with
    | disableAccount => contradiction
    | enableAccount | updateAccount => rfl
  rw [hlast, hmarks, if_neg Bool.false_ne_true] at hswitched'
  have hrun : Toggle.runAll db id (toggles ++ [(env, last)]) =
      last.run env (Toggle.runAll db id toggles) id := by
    rw [Toggle.runAll, List.foldl_append]
    rfl
  have hmarked : (toggles.any fun t => t.2.marks) = true ↔ ¬∀ t ∈ toggles, t.2 ≠ .disableAccount := by
    rw [List.any_eq_true]
    constructor
    · rintro ⟨t, ht, hmarks⟩ hnone
      have hnot := hnone t ht
      cases hcase : t.2 with
      | disableAccount => exact hnot hcase
      | enableAccount | updateAccount =>
        rw [hcase] at hmarks
        contradiction
    · intro h
      obtain ⟨t, ht⟩ := not_forall.mp h
      obtain ⟨hmem, hdisable⟩ := Classical.not_imp.mp ht
      refine ⟨t, hmem, ?_⟩
      rw [not_not.mp hdisable]
      rfl
  rw [hrun]
  cases hany : toggles.any fun t => t.2.marks with
  | false =>
    rw [hany, if_neg Bool.false_ne_true, ← henabled] at hswitched'
    rw [accountRoutability_switched hrow hrow'' (hdiag'.trans hdiag) hswitched']
    refine iff_of_true hroutable (by_contra fun h => ?_)
    rw [hmarked.mpr h] at hany
    contradiction
  | true =>
    rw [hany, if_pos rfl] at hswitched'
    refine iff_of_false (fun h => ?_) (hmarked.mp hany)
    obtain ⟨row₃, hrow₃, -, hstatus₃⟩ := of_accountRoutability hopts h
    obtain rfl := Option.some.inj (hrow''.symm.trans hrow₃)
    obtain ⟨label, baseURL, apiKey, provider, notes, updatedAt, rfl⟩ := hswitched'
    have hhealthy : lit "disabled" ≠ lit "healthy" := by decide
    have hdegraded : lit "disabled" ≠ lit "degraded" := by decide
    exact hstatus₃.elim hhealthy hdegraded

/-- A healthy account of an OpenAI-compatible service. -/
def servingAccount : Database where
  accounts := Table.empty.set { id := 1, status := lit "healthy" }

/-- The instant of the requests. -/
def toggleTime : StoreEnv := ⟨Clock.early, fun _ => []⟩

/-- Updates that write the switch off and on again. -/
theorem updates_keep_routable :
    ((Toggle.runAll servingAccount 1 ([(toggleTime, .updateAccount { id := 1, enabled := false })] ++
        [(toggleTime, .enableAccount)])).accountRoutability toggleTime.now {} 1).routable = true :=
  (toggled_routable_iff rfl (by decide +kernel) _ rfl).mpr (by simp)

/-- `enableAccount` does not undo what `disableAccount` does. -/
theorem disabled_account_stays_out :
    (servingAccount.accountRoutability toggleTime.now {} 1).routable = true ∧
      (Toggle.runAll servingAccount 1 [(toggleTime, .disableAccount),
        (toggleTime, .enableAccount)]).accountRoutability toggleTime.now {} 1 =
          blocked (lit "account_unhealthy") := by
  decide +kernel

end Lune.Admin
