import Lune.Store.SchemaUpgrade

/-!
# What an upgrade may touch

Each migration acts on the tables it names and keeps the rest of the file: the bounds
say which columns it may change or drop, and which tables it may make or add rows to.
Since a bound holds of every step, it holds of a start that is cut off anywhere.
-/

namespace Lune.Store.Schema

open GoText SqlFile Restarts

/-- Every step of the work stays within the bounds. -/
def Bounded {α : Type} (F : Footprint) (p : Start α) : Prop := p.run.Always (File.Within tables F)

section Combinators

variable {α β : Type} {F : Footprint}

theorem bounded_bind {p : Start α} {k : α → Start β} (hp : Bounded F p)
    (hk : ∀ a, Bounded F (k a)) : Bounded F (p >>= k) := always_bind hp hk

theorem bounded_query (f : File → Except StartError α) : Bounded F (query f : Start α) :=
  always_query .refl f

theorem bounded_ask (f : File → α) : Bounded F (ask f : Start α) := bounded_query _

theorem bounded_when {c : Bool} {p : Start Unit} (hp : Bounded F p) : Bounded F (when c p) :=
  always_when hp

theorem bounded_errorf {text : String} {p : Start Unit} (hp : Bounded F p) :
    Bounded F (errorf text p) := always_wrap hp

theorem bounded_forM {xs : List β} {f : β → Start Unit} (h : ∀ x ∈ xs, Bounded F (f x)) :
    Bounded F (xs.forM f) := always_forM h

theorem bounded_exec {s : StartEnv → File → Except StartError File}
    (h : ∀ e f g, s e f = .ok g → f.Within tables F g) : Bounded F (exec s) :=
  always_exec .refl h

theorem mapError_eq_ok {ε ε' τ : Type} {x : Except ε τ} {f : ε → ε'} {t : τ} :
    x.mapError f = .ok t ↔ x = .ok t := by
  cases x <;> simp [Except.mapError]

theorem bounded_stmt {s : StartEnv → File → Except SqlError File}
    (h : ∀ e f g, s e f = .ok g → f.Within tables F g) : Bounded F (stmt s) :=
  bounded_exec fun e f g hs => h e f g (mapError_eq_ok.mp hs)

theorem Bounded.mono {G : Footprint} {p : Start α} (h : Bounded F p) (hle : F.Le G) : Bounded G p :=
  Scripts.Script.Always.mono h fun _ _ hwithin => hwithin.mono hle

end Combinators

/-! ## Statements -/

section Statements

variable {F : Footprint}

theorem bounded_create {table : SqlTable} (hD : table ∈ tables) (ht : table.name ∈ F.touched)
    (hF : table.name ∈ F.grown) : Bounded F (create table) :=
  bounded_stmt fun _ _ _ h => Except.ok.inj h ▸ File.within_createTable hD ht hF

theorem bounded_createIndex {x t : String} {cs : List String} (ht : t ∈ F.touched) :
    Bounded F (createIndex x t cs) :=
  bounded_stmt fun _ _ _ h => File.within_createIndex ht h

theorem bounded_createCpaKeyIndex (ht : "accounts" ∈ F.touched) : Bounded F createCpaKeyIndex :=
  bounded_stmt fun _ _ _ h => File.within_createUniqueIndex ht h

theorem bounded_seed {t : String} {cs : List String} {rows : List (Option Int × List (String × Value))}
    (ht : t ∈ F.touched) (hF : t ∈ F.grown) : Bounded F (seed t cs rows) :=
  bounded_stmt fun _ _ _ h => File.within_insertOrIgnore ht hF h

theorem bounded_addColumn {t : String} {c : Column} (ht : t ∈ F.touched) :
    Bounded F (addColumn t c) :=
  bounded_stmt fun _ _ _ h => File.within_addColumn ht h

theorem bounded_unlessColumn {t c : String} {p : Start Unit} (hp : Bounded F p) :
    Bounded F (unlessColumn t c p) :=
  bounded_bind (bounded_ask _) fun _ => bounded_when hp

theorem bounded_addColumns {t : String} {cs : List Column} (ht : t ∈ F.touched) :
    Bounded F (addColumns t cs) :=
  bounded_forM fun _ _ => bounded_unlessColumn (bounded_errorf (bounded_addColumn ht))

theorem bounded_update {u : Update StartEnv} (ht : u.table ∈ F.touched)
    (hF : ∀ c ∈ u.writes, (u.table, c) ∈ F.changed) : Bounded F (update u) :=
  bounded_stmt fun _ _ _ h => File.within_update ht hF h

theorem bounded_dropColumn {t c : String} (ht : t ∈ F.touched) (hF : (t, c) ∈ F.dropped) :
    Bounded F (stmt fun _ f => f.dropColumn t c) :=
  bounded_stmt fun _ _ _ h => File.within_dropColumn ht hF h

end Statements

/-! ## Migrations -/

section Migrations

variable {F : Footprint}

theorem bounded_migrateNotificationTextOnly (hsettings : "notification_settings" ∈ F.touched)
    (hsubscriptions : "notification_subscriptions" ∈ F.touched)
    (hformat : ("notification_settings", "format") ∈ F.dropped)
    (htitle : ("notification_subscriptions", "title_template") ∈ F.dropped)
    (hbody : ∀ c ∈ ["body_template", "updated_at"], ("notification_subscriptions", c) ∈ F.changed) :
    Bounded F migrateNotificationTextOnly := by
  refine bounded_bind (bounded_ask _) fun _ => bounded_bind
    (bounded_when (bounded_errorf (bounded_dropColumn hsettings hformat))) fun _ => ?_
  refine bounded_bind (bounded_ask _) fun _ => bounded_bind
    (bounded_when (bounded_errorf (bounded_dropColumn hsubscriptions htitle))) fun _ => ?_
  refine bounded_forM fun u hu => bounded_errorf ?_
  simp only [bodyUpgrades, List.mem_cons, List.not_mem_nil, or_false] at hu
  rcases hu with rfl | rfl | rfl | rfl <;> exact bounded_update hsubscriptions hbody

theorem bounded_migrateProbeColumns (ht : "accounts" ∈ F.touched) : Bounded F migrateProbeColumns :=
  bounded_bind (bounded_ask _) fun _ => bounded_when (bounded_addColumns ht)

theorem bounded_migrateCpaSubscriptionColumns (ht : "accounts" ∈ F.touched) :
    Bounded F migrateCpaSubscriptionColumns :=
  bounded_bind (bounded_ask _) fun _ => bounded_when (bounded_addColumns ht)

theorem bounded_migrateCpaQuotaBackoffColumns (ht : "accounts" ∈ F.touched) :
    Bounded F migrateCpaQuotaBackoffColumns :=
  bounded_bind (bounded_ask _) fun _ => bounded_when (bounded_addColumns ht)

theorem bounded_migrateCpaSubscriptionStatusColumn (ht : "accounts" ∈ F.touched)
    (hstatus : ("accounts", "cpa_subscription_status") ∈ F.changed) :
    Bounded F migrateCpaSubscriptionStatusColumn :=
  bounded_bind (bounded_ask _) fun _ => bounded_when <|
    bounded_bind (bounded_migrateCpaSubscriptionColumns ht) fun _ =>
      bounded_bind (bounded_unlessColumn (bounded_errorf (bounded_addColumn ht))) fun _ =>
        bounded_errorf (bounded_update ht fun _ hc => List.mem_singleton.mp hc ▸ hstatus)

theorem bounded_migrateCpaCredentialColumns (ht : "accounts" ∈ F.touched)
    (hsubscriptions : "notification_subscriptions" ∈ F.touched)
    (hgrown : "notification_subscriptions" ∈ F.grown) : Bounded F migrateCpaCredentialColumns :=
  bounded_bind (bounded_ask _) fun _ => bounded_when <|
    bounded_bind (bounded_addColumns ht) fun _ =>
      bounded_bind (bounded_errorf (bounded_seed hsubscriptions hgrown)) fun _ =>
        bounded_errorf (bounded_seed hsubscriptions hgrown)

theorem bounded_ensureCpaAccountUniqueIndex (ht : "accounts" ∈ F.touched) :
    Bounded F ensureCpaAccountUniqueIndex := by
  refine bounded_bind (bounded_ask _) fun _ => bounded_when ?_
  refine bounded_bind (bounded_ask _) fun _ => bounded_when ?_
  refine bounded_bind (bounded_query _) fun _ => ?_
  split
  · exact bounded_createCpaKeyIndex ht
  · trivial

theorem bounded_blockAccount (ht : "accounts" ∈ F.touched)
    (hF : ∀ c ∈ ["cpa_quota_status", "cpa_quota_last_error", "cpa_quota_checked_at"],
      ("accounts", c) ∈ F.changed) (id : Int) : Bounded F (blockAccount id) := by
  refine bounded_stmt fun _ _ _ h => File.within_updateRow ht (fun cells c hspares => ?_) h
  have hne : ∀ x ∈ ["cpa_quota_status", "cpa_quota_last_error", "cpa_quota_checked_at"], c ≠ x := by
    rintro x hx rfl
    exact hspares.2 (hF c hx)
  rw [blockedCells, Function.update_of_ne (hne _ (by simp)), Function.update_of_ne (hne _ (by simp)),
    Function.update_of_ne (hne _ (by simp))]

theorem bounded_migrateCpaRoutingColumns (ht : "accounts" ∈ F.touched)
    (hF : ∀ c ∈ ["cpa_quota_status", "cpa_quota_last_error", "cpa_quota_checked_at"],
      ("accounts", c) ∈ F.changed) : Bounded F migrateCpaRoutingColumns := by
  refine bounded_bind (bounded_ask _) fun _ => bounded_when ?_
  refine bounded_bind (bounded_addColumns ht) fun _ =>
    bounded_bind (bounded_ensureCpaAccountUniqueIndex ht) fun _ => ?_
  exact bounded_bind (bounded_ask _) fun _ => bounded_when <|
    bounded_bind (bounded_query _) fun _ => bounded_forM fun id _ => bounded_blockAccount ht hF id

theorem bounded_migrateCpaAccessColumns (ht : "accounts" ∈ F.touched)
    (hF : ∀ c ∈ ["cpa_access_status", "cpa_access_reason"], ("accounts", c) ∈ F.changed) :
    Bounded F migrateCpaAccessColumns :=
  bounded_bind (bounded_ask _) fun _ => bounded_when <|
    bounded_bind (bounded_addColumns ht) fun _ => bounded_bind (bounded_ask _) fun _ =>
      bounded_when (bounded_errorf (bounded_update ht hF))

theorem bounded_migrateAttemptCountColumn (ht : "request_logs" ∈ F.touched) :
    Bounded F migrateAttemptCountColumn :=
  bounded_bind (bounded_ask _) fun _ => bounded_when <|
    bounded_unlessColumn (bounded_errorf (bounded_addColumn ht))

theorem bounded_migrateRequestLogPoolColumn (ht : "request_logs" ∈ F.touched) :
    Bounded F migrateRequestLogPoolColumn :=
  bounded_bind (bounded_ask _) fun _ => bounded_when <|
    bounded_bind (bounded_unlessColumn (bounded_addColumn ht)) fun _ => bounded_createIndex ht

theorem bounded_migrateRuntimeBindingLogColumns (ht : "request_logs" ∈ F.touched) :
    Bounded F migrateRuntimeBindingLogColumns :=
  bounded_bind (bounded_ask _) fun _ => bounded_when (bounded_addColumns ht)

theorem bounded_migrateRequestLogOperationalColumns (ht : "request_logs" ∈ F.touched)
    (hkind : ("request_logs", "traffic_kind") ∈ F.changed) :
    Bounded F migrateRequestLogOperationalColumns :=
  bounded_bind (bounded_ask _) fun _ => bounded_when <|
    bounded_bind (bounded_addColumns ht) fun _ =>
      bounded_bind (bounded_errorf (bounded_update ht fun _ hc => List.mem_singleton.mp hc ▸ hkind))
        fun _ => bounded_forM fun _ _ => bounded_createIndex ht

theorem bounded_migratePoolRoutingPolicyColumn (ht : "pools" ∈ F.touched)
    (hpolicy : ("pools", "routing_policy") ∈ F.changed) : Bounded F migratePoolRoutingPolicyColumn :=
  bounded_bind (bounded_ask _) fun _ => bounded_when <|
    bounded_bind (bounded_unlessColumn (bounded_errorf (bounded_addColumn ht))) fun _ =>
      bounded_errorf (bounded_update ht fun _ hc => List.mem_singleton.mp hc ▸ hpolicy)

theorem bounded_migrateOperationTables
    (ht : ∀ t ∈ ["operations", "operation_items"], t ∈ F.touched ∧ t ∈ F.grown) :
    Bounded F migrateOperationTables := by
  have hoperations := ht "operations" (by simp)
  have hitems := ht "operation_items" (by simp)
  refine bounded_bind (bounded_create (by simp [tables]) hoperations.1 hoperations.2) fun _ => ?_
  refine bounded_bind (bounded_create (by simp [tables]) hitems.1 hitems.2) fun _ => ?_
  exact bounded_bind (bounded_createIndex hoperations.1) fun _ =>
    bounded_bind (bounded_createIndex hoperations.1) fun _ => bounded_createIndex hitems.1

theorem bounded_backfillAccountDiagnostics (ht : "account_diagnostics" ∈ F.touched)
    (hF : "account_diagnostics" ∈ F.grown) : Bounded F backfillAccountDiagnostics := by
  refine bounded_bind (bounded_ask _) fun _ => bounded_when <|
    bounded_bind (bounded_ask _) fun has => bounded_stmt fun e f g h => ?_
  unfold insertDiagnostics at h
  split at h
  · contradiction
  · exact File.within_insertOrIgnore ht hF h

theorem bounded_migrateAccountDiagnosticTables
    (ht : ∀ t ∈ ["account_diagnostics", "account_diagnostic_evidence"], t ∈ F.touched ∧ t ∈ F.grown) :
    Bounded F migrateAccountDiagnosticTables := by
  have hdiagnostics := ht "account_diagnostics" (by simp)
  have hevidence := ht "account_diagnostic_evidence" (by simp)
  refine bounded_bind (bounded_create (by simp [tables]) hdiagnostics.1 hdiagnostics.2) fun _ => ?_
  refine bounded_bind (bounded_create (by simp [tables]) hevidence.1 hevidence.2) fun _ => ?_
  exact bounded_bind (bounded_createIndex hdiagnostics.1) fun _ =>
    bounded_bind (bounded_createIndex hdiagnostics.1) fun _ =>
      bounded_bind (bounded_createIndex hevidence.1) fun _ =>
        bounded_backfillAccountDiagnostics hdiagnostics.1 hdiagnostics.2

/-- The transaction, when it is carried out. -/
theorem replaceTokens_eq_ok {e : StartEnv} {f g : File} :
    replaceTokens e f = .ok g ↔ f.hasTable "access_tokens_v13" = false ∧
      ∃ pools, f.named "pools" ["id", "label"] = .ok pools ∧
        (∀ r ∈ pools.rows.rows, r.cell "label" ≠ .null) ∧
        ∃ tokens, f.named "access_tokens" (tokenColumns pools) = .ok tokens ∧
          ∃ table, copyTokens e.now.datetime tokens (poolsByID pools) e.generated accessTokensV13 =
            .ok table ∧ g = swapTokens f table := by
  unfold replaceTokens
  cases hnew : f.hasTable "access_tokens_v13" with
  | true => simp
  | false =>
    cases hpools : f.named "pools" ["id", "label"] with
    | error x => simp
    | ok pools =>
      by_cases hlabel : (pools.rows.rows.any fun r => r.cell "label" == .null) = true
      · have hnull : ¬∀ r ∈ pools.rows.rows, r.cell "label" ≠ .null := by
          simpa using hlabel
        simp [hlabel, hnull]
      · have hlabels : ∀ r ∈ pools.rows.rows, r.cell "label" ≠ .null := by
          simpa using hlabel
        simp only [Bool.false_eq_true, if_false, if_neg hlabel, true_and, Except.ok.injEq,
          exists_eq_left']
        cases f.named "access_tokens" (tokenColumns pools) with
        | error x => simp
        | ok tokens =>
          cases hcopy : copyTokens e.now.datetime tokens (poolsByID pools) e.generated
              accessTokensV13 with
          | error x => simp [hcopy]
          | ok table =>
            simp only [hcopy, Except.ok.injEq, exists_eq_left']
            exact ⟨fun h => ⟨hlabels, h.symm⟩, fun h => h.2.symm⟩

/-- The other tables are left alone. -/
theorem table?_swapTokens (f : File) (table : SqlTable) (n : String) :
    (swapTokens f table).table? n = if n = "access_tokens" then (f.table? n).map fun old =>
      { table with name := old.name, indexes := ["idx_access_tokens_pool_unique"] }
    else f.table? n :=
  File.table?_modify (g := fun old => { table with
    name := old.name, indexes := ["idx_access_tokens_pool_unique"] }) (fun _ => rfl) n

theorem within_replaceTokens {e : StartEnv} {f g : File} (ht : "access_tokens" ∈ F.touched)
    (hF : "access_tokens" ∈ F.rebuilt) (h : replaceTokens e f = .ok g) : f.Within tables F g := by
  obtain ⟨-, -, -, -, -, -, table, -, rfl⟩ := replaceTokens_eq_ok.mp h
  have hother : ∀ {n}, n ∉ F.rebuilt → (swapTokens f table).table? n = f.table? n := by
    intro n hn
    rw [table?_swapTokens, if_neg]
    rintro rfl
    exact hn hF
  refine ⟨fun {n} hn => ?_, fun {n t} hn hfound => ⟨t, (hother hn).trans hfound, .refl t⟩,
    fun hn _ hnone => (hother hn).trans hnone, fun {n u} hn hnone hsome => ?_⟩
  · rw [table?_swapTokens, if_neg]
    rintro rfl
    exact hn ht
  · rw [hother hn, hnone] at hsome
    contradiction

end Migrations

end Lune.Store.Schema
