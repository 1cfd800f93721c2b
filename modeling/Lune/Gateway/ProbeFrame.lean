import Lune.Gateway.Records

/-!
# What probe traffic leaves alone

A diagnostic request changes nothing, and a stateful probe changes neither how an
account serves nor when a token was last used.

Every action of a run is guarded by the flags of the request.  `Event.guarded`
says what the guards have in common; it holds of every event of a run, and the
two results are read off it.
-/

namespace Lune.Gateway

open GoText Keyed HttpHeader Lune.Store Lune.Router Lune.Health

/-! ## The guards -/

/-- What the guards of the handler let through: actions need a request that
observes, and those about serving or about tokens an ordinary one. -/
def Event.guarded (r : Request) : Event → Prop
  | bind _ _ => False
  | act _ action => r.observes = true ∧
      (r.isOrdinary = true ∨ action.aboutServing = false ∧ action.aboutToken = false)
  | _ => True

/-- Events that are all guarded. -/
def Guarded (r : Request) (events : List Event) : Prop := ∀ e ∈ events, e.guarded r

theorem Event.guarded_of_calm {r : Request} (e : Event) (h : e.calm = true) : e.guarded r := by
  cases e <;> trivial

/-- A diagnostic request is no stateful probe. -/
theorem Request.observes_of_isDiagnostic {r : Request} (h : r.isDiagnostic = true) :
    r.observes = false := by
  simp [Request.observes, Request.isStatefulProbe, h]

theorem Request.isOrdinary_of_isStatefulProbe {r : Request} (h : r.isStatefulProbe = true) :
    r.isOrdinary = false := by
  simp [Request.isOrdinary, h]

/-- The records of an attempt are guarded. -/
theorem Call.Makes.guarded {c : Call} {k : Nat} {route : ResolvedRoute} {action : Action}
    (h : c.Makes k route action) : (Event.act k action).guarded c.req := by
  cases h with
  | recordServingSuccess hordinary | recordServingFailure _ hordinary
  | updateHealth _ _ hordinary | updateTokenLastUsed _ hordinary =>
    exact ⟨Request.observes_of_isOrdinary hordinary, Or.inl hordinary⟩
  | recordCodexQuotaRateLimitEvidence _ _ hobserves | transient _ hobserves | fatal _ hobserves
  | succeeded _ hobserves | updateCpaCredential _ _ _ hobserves
  | clearAccountCodexModelRequestQuotaEvidence hobserves
  | updateAccountCpaCredentialStatus _ _ _ hobserves | updateAccountCpaAccessStatus hobserves
  | invalidate hobserves =>
    exact ⟨hobserves, Or.inr ⟨rfl, rfl⟩⟩

/-- Every event of a run is guarded. -/
theorem guarded_serveHTTP (env : Env) (r : Request) : Guarded r (serveHTTP env r) := by
  apply forall_serveHTTP Event.guarded_of_calm
  intro c hprepare first k last st
  obtain ⟨rfl, rfl⟩ := prepare_ok hprepare
  intro e he
  rcases c.recorded_runAttempt first k last st e he with hcalm | ⟨route, action, -, rfl, hmakes⟩
  · exact Event.guarded_of_calm e hcalm
  · exact hmakes.guarded

/-! ## The frame -/

/-- A guarded event of a request that does not observe does nothing. -/
theorem Event.effects_of_guarded {env : Env} {r : Request} {e : Event} (h : e.guarded r)
    (hobserves : r.observes = false) : e.effects env = [] := by
  cases e with
  | bind k effect => exact absurd h id
  | act k action => exact absurd (hobserves.symm.trans h.1) Bool.false_ne_true
  | _ => rfl

/-- A guarded event of a request that is not ordinary leaves the serving columns
and the tokens alone. -/
theorem Event.writes_of_guarded {env : Env} {r : Request} {e : Event} (h : e.guarded r)
    (hordinary : r.isOrdinary = false) {call : StoreCall} (hcall : .store call ∈ e.effects env) :
    call.writesServing = false ∧ call.writesToken = false := by
  cases e with
  | bind k effect => exact absurd h id
  | act k action =>
    have hmem : call ∈ action.calls (env.attempts k).actions :=
      List.mem_filterMap.mpr ⟨.store call, hcall, rfl⟩
    rcases h.2 with hyes | ⟨hserving, htoken⟩
    · exact absurd (hordinary.symm.trans hyes) Bool.false_ne_true
    · obtain ⟨hnoServing, hnoToken⟩ := Action.mem_calls hmem
      exact ⟨hnoServing hserving, hnoToken htoken⟩
  | _ => exact absurd hcall List.not_mem_nil

/-- A diagnostic request writes nothing and requests no reload.  No statement of
a stateful probe, whatever tables it meets, changes the serving columns of an
account or a token. -/
theorem probe_traffic_frame (env : Env) (r : Request) :
    (r.isDiagnostic = true → effects env (serveHTTP env r) = []) ∧
      (r.isStatefulProbe = true →
        ∀ call, .store call ∈ effects env (serveHTTP env r) → ∀ storeEnv db,
          (∀ id, (call.run storeEnv db).serving? id = db.serving? id) ∧
            (call.run storeEnv db).accessTokens = db.accessTokens) := by
  have hguarded := guarded_serveHTTP env r
  constructor
  · intro hdiagnostic
    apply List.flatMap_eq_nil_iff.mpr
    intro e he
    exact Event.effects_of_guarded (hguarded e he) (Request.observes_of_isDiagnostic hdiagnostic)
  · intro hprobe call hcall storeEnv db
    obtain ⟨e, he, heffect⟩ := List.mem_flatMap.mp hcall
    obtain ⟨hserving, htoken⟩ := Event.writes_of_guarded (hguarded e he)
      (Request.isOrdinary_of_isStatefulProbe hprobe) heffect
    exact ⟨fun id => StoreCall.serving?_run storeEnv db hserving id,
      StoreCall.accessTokens_run storeEnv db htoken⟩

/-- A request for account 7 with the given header on top. -/
def probeRequest (key value : Str) : Request :=
  { chatRequest false with
    header := set (set Table.empty (lit "X-Lune-Account-Id") (lit "7")) key value }

/-- A diagnostic request and a stateful probe, for an account that the upstream
rejects. -/
theorem probe_traffic_frame_rejected :
    effects (poolEnv [healthyAccount 7] fun _ => .response { statusCode := 401 })
        (serveHTTP (poolEnv [healthyAccount 7] fun _ => .response { statusCode := 401 })
          (probeRequest (lit "X-Lune-Diagnostic") (lit "true"))) = [] ∧
      ∀ call, .store call ∈ effects
          (poolEnv [healthyAccount 7] fun _ => .response { statusCode := 401 })
          (serveHTTP (poolEnv [healthyAccount 7] fun _ => .response { statusCode := 401 })
            (probeRequest (lit "X-Lune-Probe-Mode") (lit "stateful"))) →
        ∀ storeEnv db, (∀ id, (call.run storeEnv db).serving? id = db.serving? id) ∧
          (call.run storeEnv db).accessTokens = db.accessTokens :=
  ⟨(probe_traffic_frame _ _).1 (by decide +kernel), (probe_traffic_frame _ _).2 (by decide +kernel)⟩

end Lune.Gateway
