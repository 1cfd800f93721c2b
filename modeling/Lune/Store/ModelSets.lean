import Lune.Store.Writes

/-!
# The models of an account

`RefreshAccountModels` of `internal/store/account_models.go`, statement by
statement: one transaction deletes the models of the account and inserts the new
ones.  It is rolled back when a statement fails, on its own or because a model is
named twice.
-/

namespace Lune.Store

open GoText Keyed

/-- A statement of the transaction; the inserts are counted from zero. -/
inductive RefreshStatement where
  | begin
  | delete
  | prepare
  | insert (n : Nat)
  | commit
deriving DecidableEq

namespace Database

/-! ## The transaction -/

/-- `DELETE FROM account_models WHERE account_id = ?`. -/
def deleteAccountModels (db : Database) (accountID : Int) : Database :=
  { db with accountModels := db.accountModels.filter fun m => m.accountID ≠ accountID }

/-- `INSERT INTO account_models` breaks `UNIQUE(account_id, model_id)` or the
reference to the account. -/
def insertAccountModelFails (db : Database) (accountID : Int) (modelID : Str) : Bool :=
  (db.accounts.find? accountID).isNone ||
    db.accountModels.rows.any fun m => m.accountID == accountID && m.modelID == modelID

/-- The loop over the models, from the insert `n` on. -/
def insertAccountModels (failing : RefreshStatement → Bool) (accountID : Int) :
    Nat → List Str → Database → Option Database
  | _, [], db => some db
  | n, model :: models, db =>
    if failing (.insert n) || db.insertAccountModelFails accountID model then none
    else insertAccountModels failing accountID (n + 1) models (db.insertAccountModel accountID model)

/-- `RefreshAccountModels`; `none` is an error, after which the transaction is
rolled back. -/
def refreshModelsTx (db : Database) (failing : RefreshStatement → Bool) (accountID : Int)
    (models : List Str) : Option Database :=
  if failing .begin || failing .delete then none
  else if !models.isEmpty && failing .prepare then none
  else do
    let db ← insertAccountModels failing accountID 0 models (db.deleteAccountModels accountID)
    if failing .commit then none else some db

/-- A statement of a refresh with these models fails on its own. -/
def RefreshFault (failing : RefreshStatement → Bool) (models : List Str) : Prop :=
  failing .begin = true ∨ failing .delete = true ∨ (models ≠ [] ∧ failing .prepare = true) ∨
    (∃ n < models.length, failing (.insert n) = true) ∨ failing .commit = true

/-! ## What is stored -/

/-- `ListAccountModels`, in the order of the table. -/
def modelsOf (db : Database) (accountID : Int) : List Str :=
  (db.accountModels.rows.filter fun m => m.accountID = accountID).map AccountModelRow.modelID

theorem rows_insertAccountModel (db : Database) (accountID : Int) (model : Str) :
    ∃ id, (db.insertAccountModel accountID model).accountModels.rows =
      db.accountModels.rows ++ [⟨id, accountID, model⟩] := by
  refine ⟨(db.accountModels.rows.map AccountModelRow.id).foldl max 0 + 1, ?_⟩
  have hfresh := Table.find?_next db.accountModels
  show (db.accountModels.insertOrIgnore _).rows = _
  rw [Table.insertOrIgnore, if_neg (by simp [hfresh])]
  exact Table.rows_set_of_fresh hfresh

theorem modelsOf_insertAccountModel (db : Database) (accountID : Int) (model : Str) (other : Int) :
    (db.insertAccountModel accountID model).modelsOf other =
      if other = accountID then db.modelsOf other ++ [model] else db.modelsOf other := by
  obtain ⟨id, hrows⟩ := db.rows_insertAccountModel accountID model
  unfold modelsOf
  rw [hrows, List.filter_append, List.map_append]
  by_cases hother : other = accountID
  · simp [hother]
  · simp [hother, Ne.symm hother]

theorem modelsOf_foldl_insertAccountModel (db : Database) (accountID : Int) (models : List Str)
    (other : Int) :
    (models.foldl (fun db model => db.insertAccountModel accountID model) db).modelsOf other =
      if other = accountID then db.modelsOf other ++ models else db.modelsOf other := by
  induction models generalizing db with
  | nil => simp
  | cons model models ih =>
    rw [List.foldl_cons, ih, modelsOf_insertAccountModel]
    split
    · simp
    · rfl

theorem modelsOf_deleteAccountModels (db : Database) (accountID other : Int) :
    (db.deleteAccountModels accountID).modelsOf other =
      if other = accountID then [] else db.modelsOf other := by
  unfold modelsOf deleteAccountModels Table.filter
  dsimp only
  rw [List.filter_filter]
  split
  next heq =>
    subst heq
    rw [List.map_eq_nil_iff, List.filter_eq_nil_iff]
    simp
  next hne =>
    refine congrArg (List.map _) (List.filter_congr fun m _ => ?_)
    by_cases hm : m.accountID = other
    · simp [hm, hne]
    · simp [hm]

/-- A refresh that breaks no constraint stores its models, and leaves those of
other accounts. -/
theorem modelsOf_refreshAccountModels {db : Database} {accountID : Int} {models : List Str}
    (h : db.refreshAccountModelsFails accountID models = false) (other : Int) :
    (db.refreshAccountModels accountID models).modelsOf other =
      if other = accountID then models else db.modelsOf other := by
  unfold refreshAccountModels
  rw [h, if_neg Bool.false_ne_true]
  show (models.foldl (fun db model => db.insertAccountModel accountID model)
    (db.deleteAccountModels accountID)).modelsOf other = _
  rw [modelsOf_foldl_insertAccountModel, modelsOf_deleteAccountModels]
  split <;> simp

/-! ## When the transaction commits -/

theorem insertAccountModelFails_eq_false {db : Database} {accountID : Int} {model : Str}
    (hpresent : (db.accounts.find? accountID).isSome = true) :
    db.insertAccountModelFails accountID model = false ↔ model ∉ db.modelsOf accountID := by
  unfold insertAccountModelFails modelsOf
  rw [Option.isNone_eq_false_iff.mpr hpresent, Bool.false_or, List.any_eq_false]
  simp only [Bool.and_eq_true, beq_iff_eq, not_and, List.mem_map, List.mem_filter,
    decide_eq_true_eq, not_exists, and_imp]

/-- The loop inserts the models, or breaks off at a statement that fails on its
own or at a model that is there already. -/
theorem insertAccountModels_eq {failing : RefreshStatement → Bool} {accountID : Int} {n : Nat}
    {models : List Str} {db : Database} (hpresent : (db.accounts.find? accountID).isSome = true) :
    (((∀ i < models.length, failing (.insert (n + i)) = false) ∧ models.Nodup ∧
          ∀ model ∈ models, model ∉ db.modelsOf accountID) →
        insertAccountModels failing accountID n models db =
          some (models.foldl (fun db model => db.insertAccountModel accountID model) db)) ∧
      (¬((∀ i < models.length, failing (.insert (n + i)) = false) ∧ models.Nodup ∧
          ∀ model ∈ models, model ∉ db.modelsOf accountID) →
        insertAccountModels failing accountID n models db = none) := by
  induction models generalizing n db with
  | nil =>
    refine ⟨fun _ => rfl, fun h => absurd ?_ h⟩
    exact ⟨fun i hi => absurd hi (Nat.not_lt_zero i), List.nodup_nil,
      fun model hmodel => absurd hmodel List.not_mem_nil⟩
  | cons model models ih =>
    have hnext := @ih (n + 1) (db.insertAccountModel accountID model) hpresent
    simp only [modelsOf_insertAccountModel, if_true, List.mem_append, List.mem_singleton,
      not_or] at hnext
    rw [insertAccountModels]
    constructor
    · rintro ⟨hfailing, hnodup, hnew⟩
      obtain ⟨hmodel, hmodels⟩ := List.nodup_cons.mp hnodup
      have hfails := (insertAccountModelFails_eq_false hpresent).mpr (hnew model List.mem_cons_self)
      have hfirst : failing (.insert n) = false := hfailing 0 (Nat.zero_lt_succ _)
      rw [hfails, hfirst, Bool.or_false, if_neg Bool.false_ne_true, List.foldl_cons]
      refine hnext.1 ⟨?_, hmodels, ?_⟩
      · intro i hi
        have hi' := hfailing (i + 1) (Nat.succ_lt_succ hi)
        rwa [show n + (i + 1) = n + 1 + i by omega] at hi'
      · intro other hother
        exact ⟨hnew other (List.mem_cons_of_mem model hother), fun heq => hmodel (heq ▸ hother)⟩
    · intro hnot
      split
      · rfl
      next hfirst =>
        rw [Bool.or_eq_true, not_or, Bool.not_eq_true, Bool.not_eq_true] at hfirst
        refine hnext.2 fun hrest => hnot ⟨?_, ?_, ?_⟩
        · rintro (_ | i) hi
          · exact hfirst.1
          · have hi' := hrest.1 i (Nat.lt_of_succ_lt_succ hi)
            rwa [show n + 1 + i = n + (i + 1) by omega] at hi'
        · refine List.nodup_cons.mpr ⟨fun hmem => (hrest.2.2 model hmem).2 rfl, hrest.2.1⟩
        · intro other hother
          rcases List.mem_cons.mp hother with rfl | hother
          · exact (insertAccountModelFails_eq_false hpresent).mp hfirst.2
          · exact (hrest.2.2 other hother).1

theorem refreshAccountModelsFails_eq_false {db : Database} {accountID : Int} {models : List Str}
    (hpresent : (db.accounts.find? accountID).isSome = true) :
    db.refreshAccountModelsFails accountID models = false ↔ models.Nodup := by
  unfold refreshAccountModelsFails
  rw [Option.isNone_eq_false_iff.mpr hpresent, Bool.and_false, Bool.or_false]
  simp

/-- The transaction commits when no statement fails and no model is named twice,
and the models are stored then.  Otherwise it is rolled back. -/
theorem refreshModelsTx_eq {db : Database} {failing : RefreshStatement → Bool} {accountID : Int}
    {models : List Str} (hpresent : (db.accounts.find? accountID).isSome = true) :
    (models.Nodup ∧ ¬RefreshFault failing models →
        db.refreshModelsTx failing accountID models =
          some (db.refreshAccountModels accountID models)) ∧
      (¬models.Nodup ∨ RefreshFault failing models →
        db.refreshModelsTx failing accountID models = none) := by
  have hloop := @insertAccountModels_eq failing accountID 0 models
    (db.deleteAccountModels accountID) hpresent
  simp only [modelsOf_deleteAccountModels, if_true, List.not_mem_nil, not_false_eq_true,
    implies_true, and_true, Nat.zero_add] at hloop
  unfold refreshModelsTx RefreshFault
  constructor
  · rintro ⟨hnodup, hfault⟩
    simp only [not_or, not_and, not_exists, Bool.not_eq_true] at hfault
    obtain ⟨hbegin, hdelete, hprepare, hinsert, hcommit⟩ := hfault
    rw [if_neg (by simp [hbegin, hdelete]), if_neg, hloop.1 ⟨hinsert, hnodup⟩]
    · have hfails : db.refreshAccountModelsFails accountID models = false :=
        (refreshAccountModelsFails_eq_false hpresent).mpr hnodup
      rw [refreshAccountModels, hfails, if_neg Bool.false_ne_true, Option.bind_eq_bind,
        Option.bind_some, hcommit, if_neg Bool.false_ne_true]
      rfl
    · cases models with
      | nil => simp
      | cons model models => simp [hprepare (List.cons_ne_nil model models)]
  · intro h
    split
    · rfl
    next hfirst =>
      rw [Bool.or_eq_true, not_or, Bool.not_eq_true, Bool.not_eq_true] at hfirst
      split
      · rfl
      next hprepare =>
        by_cases hrun : (∀ i < models.length, failing (.insert i) = false) ∧ models.Nodup
        · have hcommit : failing .commit = true := by
            rcases h with hnodup | hbegin | hdelete | ⟨hne, hfail⟩ | ⟨n, hn, hfail⟩ | hcommit
            · exact absurd hrun.2 hnodup
            · exact absurd (hbegin.symm.trans hfirst.1) (by decide)
            · exact absurd (hdelete.symm.trans hfirst.2) (by decide)
            · exact absurd (by simp [hne, hfail]) hprepare
            · exact absurd (hfail.symm.trans (hrun.1 n hn)) (by decide)
            · exact hcommit
          rw [hloop.1 hrun]
          simp [hcommit]
        · rw [hloop.2 hrun]
          rfl

end Database

end Lune.Store
