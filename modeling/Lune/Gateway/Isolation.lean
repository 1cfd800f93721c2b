import Lune.Gateway.Run

/-!
# Isolation of pools

The accounts that a request is forwarded to are enabled members of the pool its
token is bound to, whatever the headers ask for and whatever the snapshots become
between the attempts.

`Isolated` is the invariant of the retry loop: the rest of a run forwards to
members of the pool only, to none of the accounts excluded so far, to no account
twice, and no more often than there are attempts left.
-/

namespace Lune.Gateway

open GoText Keyed HttpHeader Lune.Store Lune.Router Lune.Health

/-- The invariant of the retry loop, about the events from some attempt on. -/
structure Isolated (env : Env) (poolID : Int) (exclude : List Int) (left : Nat)
    (events : List Event) : Prop where
  members : ∀ f ∈ forwards events, EnabledMember (env.attempts f.1).view.snap poolID f.2
  fresh : ∀ f ∈ forwards events, f.2 ∉ exclude
  distinct : ((forwards events).map Prod.snd).Nodup
  bounded : (forwards events).length ≤ left

namespace Isolated

variable {env : Env} {poolID : Int} {exclude : List Int} {left : Nat} {events rest : List Event}

theorem of_none (h : forwards events = []) : Isolated env poolID exclude left events where
  members := by simp [h]
  fresh := by simp [h]
  distinct := by simp [h]
  bounded := by simp [h]

/-- An attempt that forwards to a new member, before a run that excludes it. -/
theorem cons {k : Nat} {accountID : Int} (h : forwards events = [(k, accountID)])
    (hmember : EnabledMember (env.attempts k).view.snap poolID accountID)
    (hfresh : accountID ∉ exclude)
    (hrest : Isolated env poolID (exclude ++ [accountID]) left rest) :
    Isolated env poolID exclude (left + 1) (events ++ rest) := by
  have hnew : ∀ f ∈ forwards rest, f.2 ∉ exclude ∧ f.2 ≠ accountID := by
    intro f hf
    have hnot := hrest.fresh f hf
    rw [List.mem_append, not_or, List.mem_singleton] at hnot
    exact hnot
  have hforwards : forwards (events ++ rest) = (k, accountID) :: forwards rest := by
    rw [forwards_append, h]
    rfl
  refine ⟨?_, ?_, ?_, ?_⟩
  · intro f hf
    rw [hforwards, List.mem_cons] at hf
    rcases hf with rfl | hf
    · exact hmember
    · exact hrest.members f hf
  · intro f hf
    rw [hforwards, List.mem_cons] at hf
    rcases hf with rfl | hf
    · exact hfresh
    · exact (hnew f hf).1
  · rw [hforwards, List.map_cons, List.nodup_cons]
    refine ⟨?_, hrest.distinct⟩
    intro hmem
    obtain ⟨f, hf, heq⟩ := List.mem_map.mp hmem
    exact (hnew f hf).2 heq
  · rw [hforwards, List.length_cons]
    exact Nat.succ_le_succ hrest.bounded

/-- A last attempt that forwards to a new member. -/
theorem single {k : Nat} {accountID : Int} (h : forwards events = [(k, accountID)])
    (hmember : EnabledMember (env.attempts k).view.snap poolID accountID)
    (hfresh : accountID ∉ exclude) : Isolated env poolID exclude (left + 1) events := by
  have hnone : Isolated env poolID (exclude ++ [accountID]) left [] := of_none rfl
  have hcons := cons h hmember hfresh hnone
  rwa [List.append_nil] at hcons

end Isolated

namespace Call

variable {c : Call} {poolID : Int} {first : ResolvedRoute}

/-- The route of an attempt: a member of the pool that is not excluded, in the
snapshot it was selected from. -/
theorem nextRoute_ok {k : Nat} {st : LoopState} {route : ResolvedRoute}
    (hpool : c.req.tokenPoolID = some poolID) (hfirst : c.resolve = .ok first)
    (hexclude : k = 0 → st.exclude = []) (h : c.nextRoute first k st = .ok route) :
    EnabledMember (c.env.attempts k).view.snap poolID route.accountID ∧
      route.accountID ∉ st.exclude := by
  unfold nextRoute at h
  split at h
  next hzero =>
    obtain rfl := Except.ok.inj h
    obtain ⟨hroute, -, hmember, hadm⟩ := View.resolveWithOptions_ok hfirst
    rw [hpool] at hroute
    obtain rfl := Option.some.inj hroute
    rw [hexclude hzero, hzero]
    exact ⟨hmember, hadm.fresh⟩
  next =>
    obtain ⟨hroute, hmember, hadm⟩ := View.selectNextAccount_ok h
    rw [hpool] at hroute
    obtain rfl := Option.some.inj hroute
    exact ⟨hmember, hadm.fresh⟩

theorem forwards_exhausted (st : LoopState) : forwards (c.exhausted st) = [] := rfl

/-- The retry loop keeps to the pool. -/
theorem retryLoop_isolated (hpool : c.req.tokenPoolID = some poolID)
    (hfirst : c.resolve = .ok first) (k : Nat) (st : LoopState) (left : Nat)
    (hexclude : k = 0 → st.exclude = []) :
    Isolated c.env poolID st.exclude left (c.retryLoop first k st left) := by
  induction left generalizing k st with
  | zero => exact .of_none (forwards_exhausted st)
  | succ left ih =>
    rw [retryLoop]
    have hran := c.runAttempt_ran first k (left == 0) st
    generalize c.runAttempt first k (left == 0) st = step at hran
    cases hran with
    | backoff => exact .of_none rfl
    | noRoute => exact .of_none (forwards_exhausted _)
    | noBinding _ _ _ hforwards => exact .of_none hforwards
    | stopped _ hroute _ hforwards =>
      obtain ⟨hmember, hfresh⟩ := nextRoute_ok hpool hfirst hexclude hroute
      exact .single hforwards hmember hfresh
    | @again route binding events next _ hroute _ hforwards _ _ hnext =>
      obtain ⟨hmember, hfresh⟩ := nextRoute_ok hpool hfirst hexclude hroute
      have hrest := ih (k + 1) next (fun hzero => absurd hzero (Nat.succ_ne_zero k))
      rw [hnext] at hrest
      exact .cons hforwards hmember hfresh hrest

theorem serve_isolated (hpool : c.req.tokenPoolID = some poolID) :
    Isolated c.env poolID [] c.maxRetries c.serve := by
  unfold serve
  split
  next err _ => exact .of_none (by cases err <;> rfl)
  next route hroute => exact retryLoop_isolated hpool hroute 0 {} c.maxRetries (fun _ => rfl)

end Call

/-- The number of attempts that a request may take. -/
def attemptLimit (env : Env) (r : Request) : Nat :=
  if r.forceAccountID.isSome || r.isDiagnostic then 1 else getMaxRetries env.retrySnap

/-- A request whose context carries a token of the pool. -/
theorem serveHTTP_isolated {env : Env} {r : Request} {poolID : Int}
    (hpool : r.tokenPoolID = some poolID) :
    Isolated env poolID [] (attemptLimit env r) (serveHTTP env r) := by
  unfold serveHTTP
  split
  · exact .of_none rfl
  split
  next events hprepare =>
    obtain ⟨status, code, message, stream, rfl⟩ := prepare_error hprepare
    exact .of_none rfl
  next c hprepare =>
    obtain ⟨rfl, rfl⟩ := prepare_ok hprepare
    exact Call.serve_isolated hpool

/-- A token that is found lets the request through, or it is refused. -/
theorem gatewayAuth_cases {snap : CacheSnapshot} {r : Request} {token : AccessToken}
    (htoken :
      snap.findAccessToken (bearerToken (get r.header (lit "Authorization"))) = some token)
    (env : Env) :
    (∃ response, gatewayAuth snap env r = [.respond response]) ∨
      gatewayAuth snap env r = serveHTTP env { r with accessToken := some token } := by
  unfold gatewayAuth
  dsimp only
  split
  · exact Or.inl ⟨_, rfl⟩
  rw [htoken]
  dsimp only
  split
  · exact Or.inl ⟨_, rfl⟩
  · exact Or.inr rfl

/-- Every account that a request with a token of the pool is forwarded to is, in
the snapshot it was selected from, an enabled member of the enabled pool.  The
accounts are distinct, no more than the setting allows, and one only when the
account is forced or the request is diagnostic. -/
theorem forwards_stay_in_pool (snap : CacheSnapshot) (env : Env) (r : Request)
    {token : AccessToken} {poolID : Int}
    (htoken : snap.findAccessToken (bearerToken (get r.header (lit "Authorization"))) = some token)
    (hpool : token.poolID = some poolID) :
    (∀ f ∈ forwards (gatewayAuth snap env r),
        EnabledMember (env.attempts f.1).view.snap poolID f.2) ∧
      ((forwards (gatewayAuth snap env r)).map Prod.snd).Nodup ∧
      (forwards (gatewayAuth snap env r)).length ≤ getMaxRetries env.retrySnap ∧
      (r.forceAccountID.isSome ∨ r.isDiagnostic = true →
        (forwards (gatewayAuth snap env r)).length ≤ 1) := by
  have hisolated : Isolated env poolID [] (attemptLimit env r) (gatewayAuth snap env r) := by
    rcases gatewayAuth_cases htoken env with ⟨response, heq⟩ | heq
    · rw [heq]
      exact .of_none rfl
    · rw [heq]
      exact serveHTTP_isolated (r := { r with accessToken := some token }) hpool
  have hbounded := hisolated.bounded
  have hpos := getMaxRetries_pos env.retrySnap
  refine ⟨hisolated.members, hisolated.distinct, ?_, ?_⟩
  · unfold attemptLimit at hbounded
    split at hbounded <;> omega
  · intro hsingle
    rwa [attemptLimit, if_pos (by simpa using hsingle)] at hbounded

/-- The token of the pool, as a client names it. -/
def poolToken : AccessToken := { id := 1, token := lit "k", poolID := some 1 }

/-- A chat request that names the token. -/
def tokenRequest : Request :=
  { chatRequest false with
    header := set Table.empty (lit "Authorization") (lit "Bearer k")
    accessToken := none }

/-- A retry moves on from account 7 to account 8 of the pool. -/
theorem forwards_stay_in_pool_retried :
    (forwards (gatewayAuth { tokens := [poolToken] } retriedEnv tokenRequest)).map Prod.snd =
        [7, 8] ∧
      ∀ f ∈ forwards (gatewayAuth { tokens := [poolToken] } retriedEnv tokenRequest),
        EnabledMember (retriedEnv.attempts f.1).view.snap 1 f.2 :=
  ⟨by decide +kernel,
    (forwards_stay_in_pool { tokens := [poolToken] } retriedEnv tokenRequest
      rfl rfl).1⟩

end Lune.Gateway
