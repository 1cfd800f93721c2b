import Lune.Admin.Import
import Lune.Store.Access

/-!
# Importing an account again

The four ways in which a credential of an account that is there comes in again: the
upload of one file, the upload of a batch, the import from the auth directory and the
device login.  Three of them share `upsertImportedCpaAccount`; the batch has an upsert
of its own in `internal/store/accounts.go`.
-/

namespace Lune.Admin

open GoText Keyed Lune.Store Lune.Health Programs

/-! ## The row after an import -/

/-- The row without its times. -/
def timeless (row : AccountRow) : AccountRow :=
  { row with
    cpaCredentialCheckedAt := []
    cpaSubscriptionFetchedAt := []
    cpaAccessCheckedAt := []
    lastCheckedAt := none
    updatedAt := [] }

/-- The label of an account that is imported without one. -/
def generatedLabel (t : Tokens) (f : CpaAuthFile) : Str :=
  f.type ++ lit " - " ++ f.email ++
    lit " (" ++ (t.accountInfoPlanType f.idToken f.accessToken).getD [] ++ lit ")"

/-- The status of the subscription that an import at the time finds. -/
def subscriptionStatus (t : Tokens) (f : CpaAuthFile) (now : Clock) : Str :=
  (cpaSubscriptionStateFromAuthFile t now f).2.2

/-- What an import makes of a row, without the times. -/
def importedRow (t : Tokens) (f : CpaAuthFile) (label notes : Str) (enabled : Bool) (status : Str)
    (row : AccountRow) : AccountRow :=
  let template := importedCpaAccountTemplate t default default [] f label enabled notes
  timeless
    (Database.importedAccount ⟨default, fun _ => []⟩ { template with label := label, cpaSubscriptionStatus := status } row)

section Rows

variable {t : Tokens} {svc : CpaService} {accountKey : Str} {f : CpaAuthFile} {env : StoreEnv}
  {db : Database} {row : AccountRow}

/-- The update of an import, without the times. -/
theorem timeless_importedAccount (label notes : Str) (enabled : Bool) (id : Int)
    (given givenNotes : Str) (u : Str) :
    timeless
        { Database.importedAccount env
            { importedCpaAccountTemplate t env.now svc accountKey f given enabled givenNotes with
              id := id, label := label, notes := notes } row with updatedAt := u } =
      importedRow t f label notes enabled (subscriptionStatus t f env.now) row := by
  have hexpires : (cpaSubscriptionStateFromAuthFile t env.now f).1 =
      (cpaSubscriptionStateFromAuthFile t default f).1 := by
    unfold cpaSubscriptionStateFromAuthFile
    dsimp only
    split
    · rfl
    · rfl
  simp only [importedRow, timeless, Database.importedAccount, importedCpaAccountTemplate,
    subscriptionStatus, initialCpaAccessStatus, initialCpaAccessReason, hexpires]
  rfl

/-- `upsertImportedCpaAccount` of an account that is there: its label and its notes stay
when none are given. -/
theorem run_upsertImportedCpaAccount {existing : Account}
    (hexisting : db.findAccountByCpaKey svc.id accountKey = some existing) {label notes : Str}
    (hlabel : isBlank label = true) (hnotes : isBlank notes = true) (enabled : Bool) :
    (upsertImportedCpaAccount t svc accountKey f label enabled notes).run AccountWrite.run env db =
      (some existing.id, db.updateCpaAccountFromImport env existing.id
        { importedCpaAccountTemplate t env.now svc accountKey f label enabled notes with
          id := existing.id, label := existing.label, notes := existing.notes }) := by
  unfold upsertImportedCpaAccount
  simp only [Prog.run_bind, Prog.run_look, hexisting]
  show ((reimport _ existing label notes >>= fun id => pure (some id)).run _ _ _) = _
  unfold reimport
  simp only [Prog.run_bind, Prog.run_writes, Prog.run_pure, hlabel, hnotes, if_true,
    List.foldl_cons, List.foldl_nil]
  rfl

/-- The row of an account after an intake, without the times. -/
def rowAfter (t : Tokens) (svc : CpaService) (accountKey : Str) (f : CpaAuthFile) (db : Database)
    (id : Int) (path : Intake × StoreEnv) : Option AccountRow :=
  (((path.1.program t svc accountKey f).run AccountWrite.run path.2 db).2.accounts.find? id).map
    timeless

/-- An intake that gives no label and no notes. -/
inductive GivesNothing : Intake → Prop where
  | deviceLogin (poolID : Int) : GivesNothing (.deviceLogin poolID)
  | authJSON (enabled : Bool) (poolID : Int) : GivesNothing (.authJSON [] enabled [] poolID)
  | authDir (enabled : Bool) (poolID : Int) : GivesNothing (.authDir [] enabled [] poolID)

/-- What the intake makes of the flag of the account. -/
def Intake.enables : Intake → Bool
  | deviceLogin _ => true
  | authJSON _ enabled _ _ | authDir _ enabled _ _ | authJSONBatch enabled _ => enabled

theorem find?_update_import (hrow : row ∈ db.accounts.rows) (account : Account) :
    ((db.updateCpaAccountFromImport env row.id account).accounts.find? row.id).map timeless =
      some (timeless { Database.importedAccount env account row with updatedAt := env.now.datetime }) := by
  rw [Database.updateCpaAccountFromImport,
    Database.find?_updateAccount_self env (Database.importedAccount env account) (fun _ => rfl)
      (Table.find?_of_mem hrow)]
  rfl

/-- Three of the ways keep the label and the notes. -/
theorem rowAfter_keeps (hrow : row ∈ db.accounts.rows)
    (hexisting : db.findAccountByCpaKey svc.id accountKey = some (scanAccountRow row))
    {intake : Intake} (hintake : GivesNothing intake) :
    rowAfter t svc accountKey f db row.id (intake, env) =
      some (importedRow t f row.label row.notes intake.enables (subscriptionStatus t f env.now)
        row) := by
  have hupsert : ∀ enabled, ((upsertImportedCpaAccount t svc accountKey f [] enabled []).run
      AccountWrite.run env db) = (some row.id, db.updateCpaAccountFromImport env row.id
        { importedCpaAccountTemplate t env.now svc accountKey f [] enabled [] with
          id := row.id, label := row.label, notes := row.notes }) := fun enabled =>
    run_upsertImportedCpaAccount hexisting rfl rfl enabled
  have hadd : ∀ (db' : Database) poolID, (AccountWrite.run env db'
      (.addPoolMemberIdempotent poolID row.id)).accounts = db'.accounts := by
    intro db' poolID
    show (if _ then _ else _ : Database).accounts = _
    split
    · rfl
    · exact Database.accounts_addPoolMemberIdempotent db' poolID row.id
  have himport : ∀ enabled, ((db.updateCpaAccountFromImport env row.id
        { importedCpaAccountTemplate t env.now svc accountKey f [] enabled [] with
          id := row.id, label := row.label, notes := row.notes }).accounts.find? row.id).map
        timeless =
      some (importedRow t f row.label row.notes enabled (subscriptionStatus t f env.now) row) :=
    fun enabled => (find?_update_import hrow _).trans
      (congrArg some (timeless_importedAccount row.label row.notes enabled row.id [] [] _))
  cases hintake with
  | deviceLogin poolID =>
    simp only [rowAfter, Intake.program, Prog.run_bind, hupsert]
    split
    · simp only [Prog.run_bind, Prog.run_writes, Prog.run_pure, List.foldl_cons, List.foldl_nil,
        hadd]
      exact himport true
    · exact himport true
  | authJSON enabled poolID | authDir enabled poolID =>
    simp only [rowAfter, Intake.program, Prog.run_bind, hupsert, Prog.run_writes, Prog.run_pure,
      List.foldl_cons, List.foldl_nil, hadd]
    exact himport enabled

variable (env) in
/-- `UpsertCpaAccountAndPoolMemberFromImport` of an account that is there. -/
theorem upsertCpaAccountAndPoolMemberFromImport_existing {account existing : Account}
    {serviceID poolID : Int} (hservice : account.cpaServiceID = some serviceID)
    (hpool : (db.pools.find? poolID).isSome = true)
    (hexisting : db.findAccountByCpaKey serviceID account.cpaAccountKey = some existing) :
    db.upsertCpaAccountAndPoolMemberFromImport env poolID account =
      ((db.updateCpaAccountFromImport env existing.id account).addPoolMemberIdempotent poolID
        existing.id).ensureAccountDiagnosticTx env { account with id := existing.id } := by
  have hthere : ¬ (db.pools.find? poolID).isNone = true := by
    rw [← Option.not_isSome, hpool]
    decide
  unfold Database.upsertCpaAccountAndPoolMemberFromImport
  simp only [hservice, if_neg hthere, hexisting]

/-- The batch writes the generated label and no notes. -/
theorem rowAfter_batch (hrow : row ∈ db.accounts.rows)
    (hexisting : db.findAccountByCpaKey svc.id accountKey = some (scanAccountRow row))
    (enabled : Bool) {poolID : Int} (hpool : (db.pools.find? poolID).isSome = true) :
    rowAfter t svc accountKey f db row.id (.authJSONBatch enabled poolID, env) =
      some (importedRow t f (generatedLabel t f) [] enabled (subscriptionStatus t f env.now)
        row) := by
  let account := importedCpaAccountTemplate t env.now svc accountKey f [] enabled []
  have hwrite : db.upsertCpaAccountAndPoolMemberFromImport env poolID account = _ :=
    upsertCpaAccountAndPoolMemberFromImport_existing env rfl hpool hexisting
  show ((db.upsertCpaAccountAndPoolMemberFromImport env poolID account).accounts.find?
    row.id).map timeless = _
  rw [hwrite, Database.accounts_ensureAccountDiagnosticTx,
    Database.accounts_addPoolMemberIdempotent]
  exact (find?_update_import hrow account).trans
    (congrArg some (timeless_importedAccount (generatedLabel t f) [] enabled 0 [] [] _))

end Rows

/-! ## Agreement -/

/-- The pool that the account is to be in is there. -/
def Intake.PoolThere (db : Database) : Intake → Prop
  | deviceLogin poolID => 0 < poolID → (db.pools.find? poolID).isSome = true
  | authJSON _ _ _ poolID | authDir _ _ _ poolID | authJSONBatch _ poolID =>
    (db.pools.find? poolID).isSome = true

/-- The statuses that an import gives a subscription. -/
theorem subscriptionStatus_cases (t : Tokens) (f : CpaAuthFile) (now : Clock) :
    subscriptionStatus t f now = [] ∨ subscriptionStatus t f now = lit "active" ∨
      subscriptionStatus t f now = lit "expired" := by
  unfold subscriptionStatus cpaSubscriptionStateFromAuthFile
  dsimp only
  split
  · exact Or.inl rfl
  · split
    · split
      · exact Or.inr (Or.inl rfl)
      · exact Or.inr (Or.inr rfl)
    · exact Or.inr (Or.inr rfl)

/-- The column keeps them apart. -/
theorem subscriptionStatus_of_column {t : Tokens} {f : CpaAuthFile} {now now' : Clock}
    (h : defaultCpaStatus (subscriptionStatus t f now) =
      defaultCpaStatus (subscriptionStatus t f now')) :
    subscriptionStatus t f now = subscriptionStatus t f now' := by
  rcases subscriptionStatus_cases t f now with hs | hs | hs <;>
    rcases subscriptionStatus_cases t f now' with hs' | hs' | hs' <;>
    rw [hs, hs'] at h ⊢ <;> exact absurd h (by decide)

/-- What the four ways write. -/
structure Reimports where
  upload : StoreEnv
  uploadEnabled : Bool
  uploadPool : Int
  batch : StoreEnv
  batchEnabled : Bool
  batchPool : Int
  remote : StoreEnv
  remoteEnabled : Bool
  remotePool : Int
  login : StoreEnv
  loginPool : Int

/-- The four ways, each at its time. -/
def Reimports.paths (r : Reimports) : List (Intake × StoreEnv) :=
  [(.authJSON [] r.uploadEnabled [] r.uploadPool, r.upload),
    (.authJSONBatch r.batchEnabled r.batchPool, r.batch),
    (.authDir [] r.remoteEnabled [] r.remotePool, r.remote),
    (.deviceLogin r.loginPool, r.login)]

section Agreement

variable {t : Tokens} {svc : CpaService} {accountKey : Str} {f : CpaAuthFile} {db : Database}
  {row : AccountRow} {r : Reimports}

/-- The label that a way writes. -/
def Intake.writtenLabel (t : Tokens) (f : CpaAuthFile) (row : AccountRow) : Intake → Str
  | authJSONBatch _ _ => generatedLabel t f
  | deviceLogin _ | authJSON _ _ _ _ | authDir _ _ _ _ => row.label

/-- The notes that a way writes. -/
def Intake.writtenNotes (row : AccountRow) : Intake → Str
  | authJSONBatch _ _ => []
  | deviceLogin _ | authJSON _ _ _ _ | authDir _ _ _ _ => row.notes

theorem rowAfter_paths (hrow : row ∈ db.accounts.rows)
    (hexisting : db.findAccountByCpaKey svc.id accountKey = some (scanAccountRow row))
    (hpools : ∀ p ∈ r.paths, p.1.PoolThere db) {p : Intake × StoreEnv} (hp : p ∈ r.paths) :
    rowAfter t svc accountKey f db row.id p =
      some (importedRow t f (p.1.writtenLabel t f row) (p.1.writtenNotes row) p.1.enables
        (subscriptionStatus t f p.2.now) row) := by
  have hpool := hpools p hp
  simp only [Reimports.paths, List.mem_cons, List.not_mem_nil, or_false] at hp
  rcases hp with rfl | rfl | rfl | rfl
  · exact rowAfter_keeps hrow hexisting (.authJSON _ _)
  · exact rowAfter_batch hrow hexisting _ hpool
  · exact rowAfter_keeps hrow hexisting (.authDir _ _)
  · exact rowAfter_keeps hrow hexisting (.deviceLogin _)

/-- The four ways write the same row, and keep its label and its notes, exactly when the
batch has nothing to overwrite, all of them enable the account and the subscription has
the same status each time. -/
theorem reimports_agree_iff (hrow : row ∈ db.accounts.rows)
    (hexisting : db.findAccountByCpaKey svc.id accountKey = some (scanAccountRow row))
    (hpools : ∀ p ∈ r.paths, p.1.PoolThere db) :
    ((∀ p ∈ r.paths, ∀ q ∈ r.paths, rowAfter t svc accountKey f db row.id p =
        rowAfter t svc accountKey f db row.id q) ∧
      ∀ p ∈ r.paths, ∃ after, rowAfter t svc accountKey f db row.id p = some after ∧
        after.label = row.label ∧ after.notes = row.notes) ↔
      row.label = generatedLabel t f ∧ row.notes = [] ∧ (∀ p ∈ r.paths, p.1.enables = true) ∧
        ∀ p ∈ r.paths, ∀ q ∈ r.paths,
          subscriptionStatus t f p.2.now = subscriptionStatus t f q.2.now := by
  have hafter := fun {p} => rowAfter_paths (t := t) (f := f) (p := p) hrow hexisting hpools
  have hbatch : (Intake.authJSONBatch r.batchEnabled r.batchPool, r.batch) ∈ r.paths :=
    List.mem_cons_of_mem _ List.mem_cons_self
  have hlogin : (Intake.deviceLogin r.loginPool, r.login) ∈ r.paths :=
    List.mem_cons_of_mem _ (List.mem_cons_of_mem _ (List.mem_cons_of_mem _ List.mem_cons_self))
  constructor
  · rintro ⟨hagree, -⟩
    have hrows : ∀ p ∈ r.paths, ∀ q ∈ r.paths, importedRow t f (p.1.writtenLabel t f row)
        (p.1.writtenNotes row) p.1.enables (subscriptionStatus t f p.2.now) row =
          importedRow t f (q.1.writtenLabel t f row) (q.1.writtenNotes row) q.1.enables
            (subscriptionStatus t f q.2.now) row := by
      intro p hp q hq
      have heq := hagree p hp q hq
      rw [hafter hp, hafter hq] at heq
      exact Option.some.inj heq
    refine ⟨?_, ?_, fun p hp => ?_, fun p hp q hq => ?_⟩
    · exact congrArg AccountRow.label (hrows _ hlogin _ hbatch)
    · exact congrArg AccountRow.notes (hrows _ hlogin _ hbatch)
    · exact congrArg AccountRow.enabled (hrows p hp _ hlogin)
    · exact subscriptionStatus_of_column
        (congrArg AccountRow.cpaSubscriptionStatus (hrows p hp q hq))
  · rintro ⟨hlabel, hnotes, henabled, hstatus⟩
    have hwritten : ∀ p ∈ r.paths, p.1.writtenLabel t f row = row.label ∧
        p.1.writtenNotes row = row.notes := by
      intro p _
      cases p.1 with
      | authJSONBatch enabled poolID => exact ⟨hlabel.symm, hnotes.symm⟩
      | deviceLogin poolID | authJSON label enabled notes poolID | authDir label enabled notes poolID =>
        exact ⟨rfl, rfl⟩
    refine ⟨fun p hp q hq => ?_, fun p hp => ⟨_, hafter hp, (hwritten p hp).1, (hwritten p hp).2⟩⟩
    rw [hafter hp, hafter hq, (hwritten p hp).1, (hwritten p hp).2, (hwritten q hq).1,
      (hwritten q hq).2, henabled p hp, henabled q hq, hstatus p hp q hq]

end Agreement

/-- Tokens that state nothing. -/
def silentTokens : Tokens where
  accountInfoPlanType := fun _ _ => none
  subscriptionActiveUntil := fun _ _ => []
  accountInfoAccountID := fun _ _ => []

/-- A credential file. -/
def sampleFile : CpaAuthFile := { type := lit "codex", email := lit "a", accountID := lit "o" }

/-- An account with a label and notes. -/
def sampleRow (label notes : Str) : AccountRow :=
  { id := 7, label := label, notes := notes, sourceKind := lit "cpa", cpaServiceID := some 1
    cpaProvider := lit "codex", cpaAccountKey := lit "codex-a-unknown", cpaEmail := lit "a" }

/-- A database with that account and a pool. -/
def sampleDatabase (label notes : Str) : Database :=
  { cpaServices := Table.empty.set { id := 1 }
    pools := Table.empty.set { id := 1 }
    accounts := Table.empty.set (sampleRow label notes) }

/-- The four ways at one time. -/
def sampleReimports : Reimports :=
  let env : StoreEnv := ⟨default, fun _ => []⟩
  { upload := env, uploadEnabled := true, uploadPool := 1
    batch := env, batchEnabled := true, batchPool := 1
    remote := env, remoteEnabled := true, remotePool := 1
    login := env, loginPool := 1 }

theorem sample_poolThere (label notes : Str) :
    ∀ p ∈ sampleReimports.paths, p.1.PoolThere (sampleDatabase label notes) := by
  intro p hp
  simp only [Reimports.paths, sampleReimports, List.mem_cons, List.not_mem_nil, or_false] at hp
  rcases hp with rfl | rfl | rfl | rfl
  · rfl
  · rfl
  · rfl
  · exact fun _ => rfl

/-- An account that still has the label it was imported with. -/
theorem sample_reimports_agree :
    (∀ p ∈ sampleReimports.paths, ∀ q ∈ sampleReimports.paths,
        rowAfter silentTokens { id := 1 } (lit "codex-a-unknown") sampleFile
            (sampleDatabase (lit "codex - a ()") []) 7 p =
          rowAfter silentTokens { id := 1 } (lit "codex-a-unknown") sampleFile
            (sampleDatabase (lit "codex - a ()") []) 7 q) ∧
      ∀ p ∈ sampleReimports.paths, ∃ after,
        rowAfter silentTokens { id := 1 } (lit "codex-a-unknown") sampleFile
          (sampleDatabase (lit "codex - a ()") []) 7 p = some after ∧
        after.label = lit "codex - a ()" ∧ after.notes = [] :=
  (reimports_agree_iff (show sampleRow (lit "codex - a ()") [] ∈
    (sampleDatabase (lit "codex - a ()") []).accounts.rows from List.mem_cons_self) rfl
    (sample_poolThere _ _)).mpr ⟨by decide +kernel, rfl, by decide, by decide +kernel⟩

/-- The batch overwrites what the operator wrote, the other ways keep it. -/
theorem batch_overwrites_label :
    ∃ db row, row ∈ db.accounts.rows ∧
      db.findAccountByCpaKey 1 (lit "codex-a-unknown") = some (scanAccountRow row) ∧
      (∀ p ∈ sampleReimports.paths, p.1.PoolThere db) ∧
      (rowAfter silentTokens { id := 1 } (lit "codex-a-unknown") sampleFile db row.id
        (.deviceLogin 1, sampleReimports.login)).map (fun after => (after.label, after.notes)) =
          some (row.label, row.notes) ∧
      (rowAfter silentTokens { id := 1 } (lit "codex-a-unknown") sampleFile db row.id
        (.authJSONBatch true 1, sampleReimports.batch)).map (fun after => (after.label, after.notes)) =
          some (lit "codex - a ()", []) ∧
      row.label = lit "mine" ∧ row.notes = lit "keep" :=
  ⟨sampleDatabase (lit "mine") (lit "keep"), sampleRow (lit "mine") (lit "keep"),
    List.mem_cons_self, rfl, sample_poolThere _ _, by decide +kernel, by decide +kernel, rfl, rfl⟩

end Lune.Admin
