import Lune.Lib.Cascades
import Lune.Store.Retention

/-!
# Deleting a pool

`DeletePoolWithAccounts` of `internal/store/pools.go`: the transaction, in which any
statement may fail, and the attempts that follow when the database is busy.  What a
statement takes with it follows from the references between the tables, all of which
are `ON DELETE CASCADE` here.
-/

namespace Lune.Store

open GoText Keyed Cascades

/-! ## The tables and their references -/

/-- A row of `account_diagnostic_evidence`, as far as the references go. -/
structure EvidenceRow where
  id : Int
  diagnosticID : Int

/-- The tables, with the references that SQLite enforces between those of pools and
accounts. -/
structure Relations extends Database where
  evidence : Table EvidenceRow.id := Table.empty
  others : Retention.Tables := {}
  memberPool : ∀ pm ∈ poolMembers.rows, ∃ p ∈ pools.rows, pm.poolID = p.id
  memberAccount : ∀ pm ∈ poolMembers.rows, ∃ a ∈ accounts.rows, pm.accountID = a.id
  modelAccount : ∀ m ∈ accountModels.rows, ∃ a ∈ accounts.rows, m.accountID = a.id
  tokenPool : ∀ t ∈ accessTokens.rows, ∀ poolID, t.poolID = some poolID →
    ∃ p ∈ pools.rows, poolID = p.id
  diagnosticAccount : ∀ d ∈ accountDiagnostics.rows, ∃ a ∈ accounts.rows, d.accountID = a.id
  evidenceDiagnostic : ∀ e ∈ evidence.rows, ∃ d ∈ accountDiagnostics.rows, e.diagnosticID = d.id

/-- A row of one of the tables. -/
inductive Row where
  | pool (p : PoolRow)
  | account (a : AccountRow)
  | member (pm : PoolMemberRow)
  | model (m : AccountModelRow)
  | token (t : AccessToken)
  | diagnostic (d : AccountDiagnostic)
  | evidence (e : EvidenceRow)
  | requestLog (l : RequestLogRow)
  | delivery (d : Retention.DeliveryRow)
  | outbox (o : Retention.OutboxRow)
  | operation (o : Retention.OperationRow)
  | operationItem (i : Retention.OperationItemRow)
  | setting (s : Str × Str)

/-- `REFERENCES ... ON DELETE CASCADE`. -/
def References : Row → Row → Prop
  | .member pm, .pool p => pm.poolID = p.id
  | .member pm, .account a => pm.accountID = a.id
  | .model m, .account a => m.accountID = a.id
  | .token t, .pool p => t.poolID = some p.id
  | .diagnostic d, .account a => d.accountID = a.id
  | .evidence e, .diagnostic d => e.diagnosticID = d.id
  | .operationItem i, .operation o => i.operationID = o.operationID
  | _, _ => False

namespace Relations

/-- The row is in its table. -/
def Has (s : Relations) : Row → Prop
  | .pool p => p ∈ s.pools.rows
  | .account a => a ∈ s.accounts.rows
  | .member pm => pm ∈ s.poolMembers.rows
  | .model m => m ∈ s.accountModels.rows
  | .token t => t ∈ s.accessTokens.rows
  | .diagnostic d => d ∈ s.accountDiagnostics.rows
  | .evidence e => e ∈ s.evidence.rows
  | .requestLog l => l ∈ s.others.requestLogs.rows
  | .delivery d => d ∈ s.others.deliveries.rows
  | .outbox o => o ∈ s.others.outbox.rows
  | .operation o => o ∈ s.others.operations.rows
  | .operationItem i => i ∈ s.others.operationItems.rows
  | .setting kv => kv ∈ s.others.systemConfig.rows

/-- The rows of all tables. -/
def rows (s : Relations) : Set Row := {r | s.Has r}

/-! ## The statements -/

/-- `DELETE FROM pools WHERE id = ?`. -/
def deletePoolRow (s : Relations) (id : Int) : Relations where
  toDatabase := s.toDatabase.deletePool id
  evidence := s.evidence
  others := s.others
  memberPool pm hpm := by
    obtain ⟨hpm, hne⟩ := List.mem_filter.mp hpm
    obtain ⟨p, hp, heq⟩ := s.memberPool pm hpm
    exact ⟨p, List.mem_filter.mpr ⟨hp, by simpa [heq] using hne⟩, heq⟩
  memberAccount pm hpm := s.memberAccount pm (List.mem_filter.mp hpm).1
  modelAccount := s.modelAccount
  tokenPool t ht poolID hpool := by
    obtain ⟨ht, hne⟩ := List.mem_filter.mp ht
    obtain ⟨p, hp, rfl⟩ := s.tokenPool t ht poolID hpool
    exact ⟨p, List.mem_filter.mpr ⟨hp, by simpa [hpool] using hne⟩, rfl⟩
  diagnosticAccount := s.diagnosticAccount
  evidenceDiagnostic := s.evidenceDiagnostic

/-- `DELETE FROM accounts WHERE id = ?`. -/
def deleteAccountRow (s : Relations) (id : Int) : Relations where
  toDatabase := s.toDatabase.deleteAccount id
  evidence := s.evidence.filter fun e =>
    !s.accountDiagnostics.rows.any fun d => d.accountID == id && d.id == e.diagnosticID
  others := s.others
  memberPool pm hpm := s.memberPool pm (List.mem_filter.mp hpm).1
  memberAccount pm hpm := by
    obtain ⟨hpm, hne⟩ := List.mem_filter.mp hpm
    obtain ⟨a, ha, heq⟩ := s.memberAccount pm hpm
    exact ⟨a, List.mem_filter.mpr ⟨ha, by simpa [heq] using hne⟩, heq⟩
  modelAccount m hm := by
    obtain ⟨hm, hne⟩ := List.mem_filter.mp hm
    obtain ⟨a, ha, heq⟩ := s.modelAccount m hm
    exact ⟨a, List.mem_filter.mpr ⟨ha, by simpa [heq] using hne⟩, heq⟩
  tokenPool := s.tokenPool
  diagnosticAccount d hd := by
    obtain ⟨hd, hne⟩ := List.mem_filter.mp hd
    obtain ⟨a, ha, heq⟩ := s.diagnosticAccount d hd
    exact ⟨a, List.mem_filter.mpr ⟨ha, by simpa [heq] using hne⟩, heq⟩
  evidenceDiagnostic e he := by
    obtain ⟨he, hkept⟩ := List.mem_filter.mp he
    obtain ⟨d, hd, heq⟩ := s.evidenceDiagnostic e he
    refine ⟨d, List.mem_filter.mpr ⟨hd, ?_⟩, heq⟩
    simp only [Bool.not_eq_true', List.any_eq_false, Bool.and_eq_true, beq_iff_eq, not_and] at hkept
    exact bne_iff_ne.mpr fun hid => hkept d hd hid heq.symm

/-! ## The transaction -/

/-- A statement of the transaction, or the step to the next row of a result. -/
inductive DeletionStatement where
  | begin
  | select
  | scan (n : Nat)
  | rows
  | deletePool
  | deleteAccount (n : Nat)
  | commit

/-- A statement returns its error, when it has one. -/
def check (fault : Option Str) : Except Str Unit :=
  match fault with
  | some err => .error err
  | none => .ok ()

/-- The loop that reads the accounts of the pool. -/
def scanMembers (faults : DeletionStatement → Option Str) : Nat → List Int → Except Str (List Int)
  | _, [] => .ok []
  | n, accountID :: rest => do
    check (faults (.scan n))
    let accountIDs ← scanMembers faults (n + 1) rest
    return accountID :: accountIDs

/-- The loop that deletes them. -/
def deleteAccounts (faults : DeletionStatement → Option Str) :
    Nat → List Int → Relations → Except Str Relations
  | _, [], s => .ok s
  | n, accountID :: rest, s => do
    check (faults (.deleteAccount n))
    deleteAccounts faults (n + 1) rest (s.deleteAccountRow accountID)

/-- `deletePoolWithAccounts`; with an error the transaction is rolled back. -/
def deletePoolTx (s : Relations) (faults : DeletionStatement → Option Str) (id : Int) :
    Except Str Relations := do
  check (faults .begin)
  check (faults .select)
  let accountIDs ← scanMembers faults 0 (s.memberAccounts id)
  check (faults .rows)
  check (faults .deletePool)
  let s ← deleteAccounts faults 0 accountIDs (s.deletePoolRow id)
  check (faults .commit)
  return s

/-- `isSQLiteBusy`. -/
def isSQLiteBusy (err : Str) : Bool :=
  let msg := toLower err
  contains msg (lit "sqlite_busy") || contains msg (lit "database is locked")

/-- The attempts that are left, and the error of the last one. -/
def deletePoolAttempts (s : Relations) (faults : Nat → DeletionStatement → Option Str) (id : Int) :
    Nat → Nat → Option Str → Option Str × Relations
  | 0, _, err => (err, s)
  | left + 1, attempt, _ =>
    match s.deletePoolTx (faults attempt) id with
    | .ok s' => (none, s')
    | .error err =>
      if isSQLiteBusy err then deletePoolAttempts s faults id left (attempt + 1) (some err)
      else (some err, s)

/-- `DeletePoolWithAccounts`: the error and the tables. -/
def deletePoolWithAccounts (s : Relations) (faults : Nat → DeletionStatement → Option Str)
    (id : Int) : Option Str × Relations :=
  s.deletePoolAttempts faults id 3 0 none

/-! ## What a deletion takes -/

/-- The row is one of the pools and accounts that a deletion is about. -/
def Meant (pools accounts : Int → Prop) : Row → Prop
  | .pool p => pools p.id
  | .account a => accounts a.id
  | _ => False

/-- These pools and accounts. -/
def meantRows (pools accounts : Int → Prop) : Set Row := {r | Meant pools accounts r}

@[simp] theorem mem_meantRows {pools accounts : Int → Prop} {r : Row} :
    r ∈ meantRows pools accounts ↔ Meant pools accounts r := Iff.rfl

/-- The rows that go with some pools and accounts. -/
def Goes (s : Relations) (pools accounts : Int → Prop) : Row → Prop
  | .pool p => p ∈ s.pools.rows ∧ pools p.id
  | .account a => a ∈ s.accounts.rows ∧ accounts a.id
  | .member pm => pm ∈ s.poolMembers.rows ∧ (pools pm.poolID ∨ accounts pm.accountID)
  | .model m => m ∈ s.accountModels.rows ∧ accounts m.accountID
  | .token t => t ∈ s.accessTokens.rows ∧ ∃ poolID, t.poolID = some poolID ∧ pools poolID
  | .diagnostic d => d ∈ s.accountDiagnostics.rows ∧ accounts d.accountID
  | .evidence e => e ∈ s.evidence.rows ∧
    ∃ d ∈ s.accountDiagnostics.rows, e.diagnosticID = d.id ∧ accounts d.accountID
  | _ => False

/-- These are the rows that the references say. -/
theorem cascade_iff_goes (s : Relations) (pools accounts : Int → Prop) (r : Row) :
    Cascade References s.rows (meantRows pools accounts) r ↔ s.Goes pools accounts r := by
  have hpool : ∀ p ∈ s.pools.rows, pools p.id →
      Cascade References s.rows (meantRows pools accounts) (.pool p) :=
    fun p hp h => .meant hp h
  have haccount : ∀ a ∈ s.accounts.rows, accounts a.id →
      Cascade References s.rows (meantRows pools accounts) (.account a) :=
    fun a ha h => .meant ha h
  have hdiagnostic : ∀ d ∈ s.accountDiagnostics.rows, accounts d.accountID →
      Cascade References s.rows (meantRows pools accounts) (.diagnostic d) := by
    intro d hd h
    obtain ⟨a, ha, heq⟩ := s.diagnosticAccount d hd
    exact .child hd (p := .account a) heq (haccount a ha (heq ▸ h))
  refine cascade_iff_of_closed ?_ ?_ ?_ r
  · intro r h
    cases r with
    | pool p => exact hpool p h.1 h.2
    | account a => exact haccount a h.1 h.2
    | member pm =>
      obtain ⟨hpm, h | h⟩ := h
      · obtain ⟨p, hp, heq⟩ := s.memberPool pm hpm
        exact .child hpm (p := .pool p) heq (hpool p hp (heq ▸ h))
      · obtain ⟨a, ha, heq⟩ := s.memberAccount pm hpm
        exact .child hpm (p := .account a) heq (haccount a ha (heq ▸ h))
    | model m =>
      obtain ⟨a, ha, heq⟩ := s.modelAccount m h.1
      exact .child h.1 (p := .account a) heq (haccount a ha (heq ▸ h.2))
    | token t =>
      obtain ⟨ht, poolID, hpoolID, h⟩ := h
      obtain ⟨p, hp, rfl⟩ := s.tokenPool t ht poolID hpoolID
      exact .child ht (p := .pool p) hpoolID (hpool p hp h)
    | diagnostic d => exact hdiagnostic d h.1 h.2
    | evidence e =>
      obtain ⟨he, d, hd, heq, h⟩ := h
      exact .child he (p := .diagnostic d) heq (hdiagnostic d hd h)
    | _ => exact h.elim
  · intro r hr h
    cases r with
    | pool p => exact ⟨hr, h⟩
    | account a => exact ⟨hr, h⟩
    | _ => exact h.elim
  · intro c hc p href h
    cases c with
    | member pm =>
      cases p with
      | pool p =>
        have heq : pm.poolID = p.id := href
        exact ⟨hc, Or.inl (heq ▸ h.2)⟩
      | account a =>
        have heq : pm.accountID = a.id := href
        exact ⟨hc, Or.inr (heq ▸ h.2)⟩
      | _ => exact href.elim
    | model m =>
      cases p with
      | account a =>
        have heq : m.accountID = a.id := href
        exact ⟨hc, heq ▸ h.2⟩
      | _ => exact href.elim
    | token t =>
      cases p with
      | pool p => exact ⟨hc, p.id, href, h.2⟩
      | _ => exact href.elim
    | diagnostic d =>
      cases p with
      | account a =>
        have heq : d.accountID = a.id := href
        exact ⟨hc, heq ▸ h.2⟩
      | _ => exact href.elim
    | evidence e =>
      cases p with
      | diagnostic d => exact ⟨hc, d, h.1, href, h.2⟩
      | _ => exact href.elim
    | operationItem i =>
      cases p with
      | operation o => exact h.elim
      | _ => exact href.elim
    | _ => exact href.elim

/-- Deleting a pool takes what refers to it. -/
theorem deletes_deletePoolRow (s : Relations) (id : Int) :
    Deletes References s.rows (s.deletePoolRow id).rows
      (meantRows (fun poolID => poolID = id) fun _ => False) := by
  intro r
  rw [cascade_iff_goes]
  cases r with
  | pool p =>
    show p ∈ s.pools.rows.filter _ ↔ p ∈ s.pools.rows ∧ ¬(p ∈ s.pools.rows ∧ p.id = id)
    simp +contextual
  | member pm =>
    show pm ∈ s.poolMembers.rows.filter _ ↔
      pm ∈ s.poolMembers.rows ∧ ¬(pm ∈ s.poolMembers.rows ∧ (pm.poolID = id ∨ False))
    simp +contextual
  | token t =>
    show t ∈ s.accessTokens.rows.filter _ ↔ t ∈ s.accessTokens.rows ∧
      ¬(t ∈ s.accessTokens.rows ∧ ∃ poolID, t.poolID = some poolID ∧ poolID = id)
    simp +contextual
  | evidence e => exact ⟨fun h => ⟨h, fun ⟨_, _, _, _, h⟩ => h⟩, fun h => h.1⟩
  | account a => exact ⟨fun h => ⟨h, fun h => h.2⟩, fun h => h.1⟩
  | model m => exact ⟨fun h => ⟨h, fun h => h.2⟩, fun h => h.1⟩
  | diagnostic d => exact ⟨fun h => ⟨h, fun h => h.2⟩, fun h => h.1⟩
  | _ => exact ⟨fun h => ⟨h, fun h => h⟩, fun h => h.1⟩

/-- Deleting an account takes what refers to it, and the evidence of its
diagnostic. -/
theorem deletes_deleteAccountRow (s : Relations) (id : Int) :
    Deletes References s.rows (s.deleteAccountRow id).rows
      (meantRows (fun _ => False) fun accountID => accountID = id) := by
  intro r
  rw [cascade_iff_goes]
  cases r with
  | account a =>
    show a ∈ s.accounts.rows.filter _ ↔ a ∈ s.accounts.rows ∧ ¬(a ∈ s.accounts.rows ∧ a.id = id)
    simp +contextual
  | member pm =>
    show pm ∈ s.poolMembers.rows.filter _ ↔
      pm ∈ s.poolMembers.rows ∧ ¬(pm ∈ s.poolMembers.rows ∧ (False ∨ pm.accountID = id))
    simp +contextual
  | model m =>
    show m ∈ s.accountModels.rows.filter _ ↔
      m ∈ s.accountModels.rows ∧ ¬(m ∈ s.accountModels.rows ∧ m.accountID = id)
    simp +contextual
  | diagnostic d =>
    show d ∈ s.accountDiagnostics.rows.filter _ ↔
      d ∈ s.accountDiagnostics.rows ∧ ¬(d ∈ s.accountDiagnostics.rows ∧ d.accountID = id)
    simp +contextual
  | evidence e =>
    show e ∈ s.evidence.rows.filter _ ↔ e ∈ s.evidence.rows ∧ ¬(e ∈ s.evidence.rows ∧
      ∃ d ∈ s.accountDiagnostics.rows, e.diagnosticID = d.id ∧ d.accountID = id)
    rw [List.mem_filter]
    refine and_congr_right fun he => ?_
    simp only [Bool.not_eq_true', List.any_eq_false, Bool.and_eq_true, beq_iff_eq, he, true_and,
      not_exists, not_and]
    exact ⟨fun h d hd heq hid => h d hd hid heq.symm, fun h d hd hid heq => h d hd heq.symm hid⟩
  | token t => exact ⟨fun h => ⟨h, fun ⟨_, _, _, h⟩ => h⟩, fun h => h.1⟩
  | pool p => exact ⟨fun h => ⟨h, fun h => h.2⟩, fun h => h.1⟩
  | _ => exact ⟨fun h => ⟨h, fun h => h⟩, fun h => h.1⟩

/-! ## The closure -/

/-- The pool and the accounts that are its members. -/
def poolAndMembers (s : Relations) (id : Int) : Set Row :=
  meantRows (fun poolID => poolID = id) fun accountID => accountID ∈ s.memberAccounts id

theorem of_bind_ok {α β : Type} {x : Except Str α} {f : α → Except Str β} {b : β}
    (h : (x >>= f) = .ok b) : ∃ a, x = .ok a ∧ f a = .ok b := by
  cases x with
  | error err => contradiction
  | ok a => exact ⟨a, rfl, h⟩

theorem scanMembers_ok {faults : DeletionStatement → Option Str} {n : Nat}
    {members accountIDs : List Int} (h : scanMembers faults n members = .ok accountIDs) :
    accountIDs = members := by
  induction members generalizing n accountIDs with
  | nil => exact (Except.ok.inj h).symm
  | cons member members ih =>
    obtain ⟨_, -, h⟩ := of_bind_ok h
    obtain ⟨rest, hrest, h⟩ := of_bind_ok h
    obtain rfl := Except.ok.inj h
    rw [ih hrest]

theorem deleteAccounts_ok {faults : DeletionStatement → Option Str} {n : Nat}
    {accountIDs : List Int} {s s' : Relations}
    (h : deleteAccounts faults n accountIDs s = .ok s') :
    s' = accountIDs.foldl deleteAccountRow s := by
  induction accountIDs generalizing n s with
  | nil => exact (Except.ok.inj h).symm
  | cons accountID accountIDs ih =>
    obtain ⟨_, -, h⟩ := of_bind_ok h
    exact ih h

/-- A transaction that commits. -/
theorem deletePoolTx_ok {s s' : Relations} {faults : DeletionStatement → Option Str} {id : Int}
    (h : s.deletePoolTx faults id = .ok s') :
    s' = (s.memberAccounts id).foldl deleteAccountRow (s.deletePoolRow id) := by
  obtain ⟨_, -, h⟩ := of_bind_ok h
  obtain ⟨_, -, h⟩ := of_bind_ok h
  obtain ⟨accountIDs, hscan, h⟩ := of_bind_ok h
  obtain ⟨_, -, h⟩ := of_bind_ok h
  obtain ⟨_, -, h⟩ := of_bind_ok h
  obtain ⟨t, hdelete, h⟩ := of_bind_ok h
  obtain ⟨_, -, h⟩ := of_bind_ok h
  obtain rfl := Except.ok.inj h
  rw [scanMembers_ok hscan] at hdelete
  exact deleteAccounts_ok hdelete

/-- Its tables are those that the model of the pools and tokens computes. -/
theorem toDatabase_of_deletePoolTx {s s' : Relations} {faults : DeletionStatement → Option Str}
    {id : Int} (h : s.deletePoolTx faults id = .ok s') :
    s'.toDatabase = s.toDatabase.deletePoolWithAccounts id := by
  have hfold : ∀ (accountIDs : List Int) (t : Relations),
      (accountIDs.foldl deleteAccountRow t).toDatabase =
        accountIDs.foldl Database.deleteAccount t.toDatabase := by
    intro accountIDs
    induction accountIDs with
    | nil => exact fun t => rfl
    | cons accountID accountIDs ih => exact fun t => ih (t.deleteAccountRow accountID)
  rw [deletePoolTx_ok h]
  exact hfold (s.memberAccounts id) (s.deletePoolRow id)

theorem others_foldl_deleteAccountRow (accountIDs : List Int) (s : Relations) :
    (accountIDs.foldl deleteAccountRow s).others = s.others := by
  induction accountIDs generalizing s with
  | nil => rfl
  | cons accountID accountIDs ih => exact ih (s.deleteAccountRow accountID)

/-- It deletes the closure of the pool and its members. -/
theorem deletes_of_deletePoolTx {s s' : Relations} {faults : DeletionStatement → Option Str}
    {id : Int} (h : s.deletePoolTx faults id = .ok s') :
    s'.others = s.others ∧ Deletes References s.rows s'.rows (s.poolAndMembers id) := by
  obtain rfl := deletePoolTx_ok h
  refine ⟨others_foldl_deleteAccountRow _ (s.deletePoolRow id), ?_⟩
  have hboth := (s.deletes_deletePoolRow id).trans
    (Deletes.foldl (f := deleteAccountRow) deletes_deleteAccountRow (s.deletePoolRow id)
      (s.memberAccounts id))
  have hmeant : s.poolAndMembers id = meantRows (fun poolID => poolID = id) (fun _ => False) ∪
      {r | ∃ accountID ∈ s.memberAccounts id,
        r ∈ meantRows (fun _ => False) fun other => other = accountID} := by
    ext r
    cases r with
    | pool p => simp [poolAndMembers, Meant]
    | account a => simp [poolAndMembers, Meant]
    | _ => simp [poolAndMembers, Meant]
  rwa [hmeant]

/-- The attempts fail and leave everything as it was, or one of them commits. -/
theorem deletePoolAttempts_cases (s : Relations) (faults : Nat → DeletionStatement → Option Str)
    (id : Int) (left attempt : Nat) {err : Option Str} (herr : left = 0 → err.isSome = true) :
    ((s.deletePoolAttempts faults id left attempt err).1.isSome = true ∧
        (s.deletePoolAttempts faults id left attempt err).2 = s) ∨
      ∃ n s', s.deletePoolTx (faults n) id = .ok s' ∧
        s.deletePoolAttempts faults id left attempt err = (none, s') := by
  induction left generalizing attempt err with
  | zero => exact Or.inl ⟨herr rfl, rfl⟩
  | succ left ih =>
    rw [deletePoolAttempts]
    cases htx : s.deletePoolTx (faults attempt) id with
    | ok s' => exact Or.inr ⟨attempt, s', htx, rfl⟩
    | error failure =>
      dsimp only
      split
      · exact ih (attempt + 1) fun _ => rfl
      · exact Or.inl ⟨rfl, rfl⟩

/-- Deleting a pool returns an error and changes nothing, or takes exactly the pool,
the accounts that are its members and every row that refers to one that goes: the
token of the pool, the memberships in the pool and those of the accounts in any
other, the models and the diagnostics of the accounts, and the evidence of these. -/
theorem pool_deletion_exact (s : Relations) (faults : Nat → DeletionStatement → Option Str)
    (id : Int) :
    ((s.deletePoolWithAccounts faults id).1.isSome = true ∧
        (s.deletePoolWithAccounts faults id).2 = s) ∨
      ((s.deletePoolWithAccounts faults id).1 = none ∧
        (s.deletePoolWithAccounts faults id).2.others = s.others ∧
        Deletes References s.rows (s.deletePoolWithAccounts faults id).2.rows
          (s.poolAndMembers id) ∧
        ∀ r, (s.deletePoolWithAccounts faults id).2.Has r ↔ s.Has r ∧
          ¬s.Goes (fun poolID => poolID = id) (fun accountID => accountID ∈ s.memberAccounts id)
            r) := by
  unfold deletePoolWithAccounts
  rcases s.deletePoolAttempts_cases faults id 3 0 (fun h => nomatch h) with
    hfails | ⟨n, s', htx, hcommits⟩
  · exact Or.inl hfails
  · rw [hcommits]
    obtain ⟨hothers, hdeletes⟩ := deletes_of_deletePoolTx htx
    refine Or.inr ⟨rfl, hothers, hdeletes, fun r => ?_⟩
    rw [← cascade_iff_goes]
    exact hdeletes r

end Relations

end Lune.Store
