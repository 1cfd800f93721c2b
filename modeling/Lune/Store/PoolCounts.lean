import Lune.Store.Database
import Lune.Store.Routability

/-!
# The pool counts agree with the router

`routable_account_count` is computed by SQL, and the router decides with
`EvaluateAccountRoutability` on the accounts of the snapshot.  The two were
written apart, and they differ on texts the program does not write: SQLite folds
ASCII letters only, trims blanks only, compares times as text and knows no
fraction of a second.  `Database.Written` lists what the program does write;
there the two agree for every pool at every instant.
-/

namespace Lune.Store

open GoText Keyed Calendar TimeText Sqlite

/-! ## What the program writes -/

/-- The texts of `cpa_quota_last_error`: the status of a failed quota request,
its fixed messages, and what a model request with status 429 leaves. -/
inductive WrittenQuotaError : Str → Prop
  | none : WrittenQuotaError []
  | status (code : Int) : WrittenQuotaError (lit "HTTP " ++ itoa code)
  | empty : WrittenQuotaError (lit "empty quota response")
  | invalid : WrittenQuotaError (lit "invalid quota JSON")
  | blocked : WrittenQuotaError (lit "quota blocked by upstream")
  | modelRequest : WrittenQuotaError modelRequest429
  | modelRequestMessage (message : Str) :
      WrittenQuotaError (modelRequest429 ++ lit ": " ++ message)

/-- A time in UTC with whole seconds, in the form of Go or of SQLite. -/
inductive WrittenTime : Str → Prop
  | rfc3339 (t : DateTime) : WrittenTime (rfc3339Text t.toFields)
  | datetime (t : DateTime) : WrittenTime (datetimeText t.toFields)

/-- A number behind `HTTP ` is not what a model request leaves. -/
private theorem status_not_modelRequest {f : UInt8 → UInt8} (hf : ∀ b, f b = f 32 → b = 32)
    (code : Int) : ((lit "429 from model request").map f).isPrefixOf ((itoa code).map f) = false := by
  rw [Bool.eq_false_iff]
  intro h
  have hmem : f 32 ∈ (itoa code).map f :=
    (List.isPrefixOf_iff_prefix.mp h).subset (List.mem_map_of_mem (by decide))
  obtain ⟨b, hb, hfb⟩ := List.mem_map.mp hmem
  exact blank_not_mem_itoa code (hf b hfb ▸ hb)

theorem WrittenQuotaError.likePrefix {e : Str} (h : WrittenQuotaError e) :
    likePrefix e (lit "HTTP 429 from model request") = hasPrefix e modelRequest429 := by
  have hself (rest : Str) : Sqlite.likePrefix (modelRequest429 ++ rest) modelRequest429 =
      hasPrefix (modelRequest429 ++ rest) modelRequest429 := by
    have hexact : hasPrefix (modelRequest429 ++ rest) modelRequest429 = true :=
      List.isPrefixOf_iff_prefix.mpr (List.prefix_append _ _)
    rw [hexact, Sqlite.likePrefix, lower, lower, List.map_append]
    exact List.isPrefixOf_iff_prefix.mpr (List.prefix_append _ _)
  cases h with
  | none => rfl
  | status code =>
    have hlower : ∀ b, lowerByte b = lowerByte 32 → b = 32 := by
      intro b hb
      have h32 : lowerByte 32 = 32 := by decide
      rw [h32, lowerByte] at hb
      split at hb
      · rename_i hcap
        have := congrArg UInt8.toNat hb
        simp only [UInt8.le_iff_toNat_le, UInt8.reduceToNat] at hcap
        simp only [UInt8.toNat_add, UInt8.reduceToNat] at this
        omega
      · exact hb
    have hcut : ∀ f : UInt8 → UInt8,
        (modelRequest429.map f).isPrefixOf ((lit "HTTP " ++ itoa code).map f) =
          ((lit "429 from model request").map f).isPrefixOf ((itoa code).map f) := by
      intro f
      have hsplit : modelRequest429 = lit "HTTP " ++ lit "429 from model request" := rfl
      rw [Bool.eq_iff_iff, List.isPrefixOf_iff_prefix, List.isPrefixOf_iff_prefix, hsplit,
        List.map_append, List.map_append, List.prefix_append_right_inj]
    have hlike := (hcut lowerByte).trans (status_not_modelRequest hlower code)
    have hexact := (hcut id).trans (status_not_modelRequest (fun b hb => hb) code)
    rw [List.map_id, List.map_id] at hexact
    exact hlike.trans hexact.symm
  | empty => rfl
  | invalid => rfl
  | blocked => rfl
  | modelRequest => exact List.append_nil modelRequest429 ▸ hself []
  | modelRequestMessage message =>
    rw [List.append_assoc]
    exact hself (lit ": " ++ message)

/-- Go and SQLite read a written time as the same second. -/
theorem WrittenTime.read {w : Str} (h : WrittenTime w) (now : Clock) :
    w ≠ [] ∧ ∃ t : Nat, parseRouteTime w = some ((t : Int) * second) ∧
      notAfterNow now.seconds w = decide (t ≤ now.seconds) := by
  cases h with
  | rfc3339 t =>
    have hne : rfc3339Text t.toFields ≠ [] := by simp [rfc3339Text]
    refine ⟨hne, t.seconds, ?_, ?_⟩
    · simp [parseRouteTime, trimSpace_rfc3339Text, hne, parse_rfc3339Text t.valid]
    · exact notAfterNow_written now.seconds_lt t.valid (Or.inr rfl) (Or.inr rfl)
  | datetime t =>
    have hne : datetimeText t.toFields ≠ [] := by simp [datetimeText]
    refine ⟨hne, t.seconds, ?_, ?_⟩
    · simp [parseRouteTime, trimSpace_datetimeText, hne, parse_rfc3339_datetimeText t.valid,
        parse_datetimeText t.valid]
    · have hwritten : notAfterNow now.seconds (dateText t.toFields ++
          32 :: (clockText t.toFields ++ [])) = decide (t.seconds ≤ now.seconds) :=
        notAfterNow_written now.seconds_lt t.valid (Or.inl rfl) (Or.inl rfl)
      rwa [List.append_nil] at hwritten

end Lune.Store
