import Lune.Gateway.Run

/-!
# Which credential a request is pinned to

The headers that pin the credential of a CPA account, and the header that
authorizes the request, are set by the gateway.  Of the client's headers only
`Authorization` is dropped.  A pinning header is overwritten when the binding has
a value for it, and is otherwise passed on as the client sent it.
-/

namespace Lune.Gateway

open GoText Keyed HttpHeader Lune.Store Lune.Router Lune.Health

/-! ## Headers set one after the other -/

/-- The pinning headers with the values a binding has for them. -/
def pins (binding : RuntimeBinding) : List (Str × Str) :=
  [(lit "X-Lune-CPA-Account-Key", binding.accountKey),
    (lit "X-Lune-Runtime-Auth-Id", binding.authID),
    (lit "X-CLIProxyAPI-Pinned-Auth-Id", binding.authID),
    (lit "X-Lune-Runtime-Auth-Index", binding.authIndex),
    (lit "X-CLIProxyAPI-Pinned-Auth-Index", binding.authIndex),
    (lit "X-CPA-Auth-Index", binding.authIndex),
    (lit "ChatGPT-Account-Id", binding.openAIID)]

theorem pinHeaders_eq (h : Header) (binding : RuntimeBinding) :
    pinHeaders h binding = (pins binding).foldl (fun h pin => setPresent h pin.1 pin.2) h := rfl

theorem values_setPresent_of_ne (h : Header) {key key' : Str} (value : Str)
    (hkey : canonicalHeaderKey key ≠ canonicalHeaderKey key') :
    values (setPresent h key value) key' = values h key' := by
  unfold setPresent
  split
  · rfl
  · rw [values_set, if_neg hkey]

theorem values_setPresent_self (h : Header) (key value : Str) :
    values (setPresent h key value) key = if value = [] then values h key else [value] := by
  unfold setPresent
  split
  · rfl
  · rw [values_set, if_pos rfl]

/-- A header that is not among those set keeps its values. -/
theorem values_foldl_setPresent_of_ne (h : Header) {fields : List (Str × Str)} {key : Str}
    (hne : ∀ field ∈ fields, canonicalHeaderKey field.1 ≠ canonicalHeaderKey key) :
    values (fields.foldl (fun h field => setPresent h field.1 field.2) h) key = values h key := by
  induction fields generalizing h with
  | nil => rfl
  | cons field fields ih =>
    rw [List.foldl_cons, ih _ (fun other hother => hne other (List.mem_cons_of_mem field hother)),
      values_setPresent_of_ne h field.2 (hne field List.mem_cons_self)]

/-- A header that is set once has the value it is set to, unless that is empty. -/
theorem values_foldl_setPresent (h : Header) {fields : List (Str × Str)}
    (hnodup : (fields.map fun field => canonicalHeaderKey field.1).Nodup) {field : Str × Str}
    (hfield : field ∈ fields) :
    values (fields.foldl (fun h field => setPresent h field.1 field.2) h) field.1 =
      if field.2 = [] then values h field.1 else [field.2] := by
  induction fields generalizing h with
  | nil => exact absurd hfield List.not_mem_nil
  | cons first fields ih =>
    obtain ⟨hnot, hnodup⟩ := List.nodup_cons.mp hnodup
    have hne : ∀ other ∈ fields, canonicalHeaderKey other.1 ≠ canonicalHeaderKey first.1 := by
      intro other hother heq
      exact hnot (List.mem_map.mpr ⟨other, hother, heq⟩)
    rw [List.foldl_cons]
    rcases List.mem_cons.mp hfield with rfl | hrest
    · rw [values_foldl_setPresent_of_ne _ hne, values_setPresent_self]
    · rw [ih _ hnodup hrest, values_setPresent_of_ne h first.2 (hne field hrest).symm]

theorem nodup_pins (binding : RuntimeBinding) :
    ((pins binding).map fun pin => canonicalHeaderKey pin.1).Nodup := by
  have hnames : ((pins {}).map fun pin => canonicalHeaderKey pin.1).Nodup := by decide +kernel
  exact hnames

/-- The names of the pinning headers. -/
def pinningNames : List Str := (pins {}).map Prod.fst

theorem map_fst_pins (binding : RuntimeBinding) : (pins binding).map Prod.fst = pinningNames := rfl

theorem mem_pinningNames {binding : RuntimeBinding} {pin : Str × Str} (h : pin ∈ pins binding) :
    pin.1 ∈ pinningNames := by
  rw [← map_fst_pins binding]
  exact List.mem_map.mpr ⟨pin, h, rfl⟩

/-- A pinning header is neither `Authorization` nor `Host`. -/
theorem pinningNames_ne {name : Str} (h : name ∈ pinningNames) :
    canonicalHeaderKey (lit "Authorization") ≠ canonicalHeaderKey name ∧
      canonicalHeaderKey (lit "Host") ≠ canonicalHeaderKey name := by
  have hall : ∀ name ∈ pinningNames,
      canonicalHeaderKey (lit "Authorization") ≠ canonicalHeaderKey name ∧
        canonicalHeaderKey (lit "Host") ≠ canonicalHeaderKey name := by decide +kernel
  exact hall name h

/-! ## The headers of the upstream request -/

variable {target : UpstreamTarget}

/-- The credential of the service comes from the target alone. -/
theorem values_authorization (clientHeader : Header) (target : UpstreamTarget) (host : Str) :
    values (upstreamHeader clientHeader target host) (lit "Authorization") =
      [lit "Bearer " ++ target.apiKey] := by
  have hhost : canonicalHeaderKey (lit "Host") ≠ canonicalHeaderKey (lit "Authorization") := by
    decide +kernel
  unfold upstreamHeader
  dsimp only
  rw [values_set, if_neg hhost]
  cases target.runtimeBinding with
  | none =>
    dsimp only
    rw [values_set, if_pos rfl]
  | some binding =>
    dsimp only
    rw [pinHeaders_eq, values_foldl_setPresent_of_ne, values_set, if_pos rfl]
    intro pin hpin
    have hname := mem_pinningNames hpin
    exact (pinningNames_ne hname).1.symm

/-- Without a binding, a pinning header is the client's. -/
theorem values_unpinned (clientHeader : Header) (host : Str) (h : target.runtimeBinding = none)
    {name : Str} (hname : name ∈ pinningNames) :
    values (upstreamHeader clientHeader target host) name =
      values (copy leftOut clientHeader Table.empty) name := by
  unfold upstreamHeader
  rw [h]
  dsimp only
  rw [values_set, if_neg (pinningNames_ne hname).2, values_set, if_neg (pinningNames_ne hname).1]

/-- With one, it is the client's when the binding has no value for it. -/
theorem values_pinned (clientHeader : Header) (host : Str) {binding : RuntimeBinding}
    (h : target.runtimeBinding = some binding) {pin : Str × Str} (hpin : pin ∈ pins binding) :
    values (upstreamHeader clientHeader target host) pin.1 =
      if pin.2 = [] then values (copy leftOut clientHeader Table.empty) pin.1 else [pin.2] := by
  have hname := mem_pinningNames hpin
  unfold upstreamHeader
  rw [h]
  dsimp only
  rw [values_set, if_neg (pinningNames_ne hname).2, pinHeaders_eq,
    values_foldl_setPresent _ (nodup_pins binding) hpin, values_set,
    if_neg (pinningNames_ne hname).1]

/-- A client header with one field. -/
def oneField (name : Str) : Header := set Table.empty name (lit "x")

/-- A pinning header of the client gets through. -/
theorem values_copy_oneField {name : Str} (hname : name ∈ pinningNames) :
    values (copy leftOut (oneField name) Table.empty) name = [lit "x"] ∧
      values (copy leftOut Table.empty Table.empty) name = [] := by
  have hall : ∀ name ∈ pinningNames,
      values (copy leftOut (oneField name) Table.empty) name = [lit "x"] ∧
        values (copy leftOut Table.empty Table.empty) name = [] := by decide +kernel
  exact hall name hname

/-- The names whose values are to be the gateway's own. -/
def ownNames : List Str := lit "Authorization" :: pinningNames

/-- The client headers have no say in the values of these names. -/
def Pinned (target : UpstreamTarget) (host : Str) : Prop :=
  ∀ h₁ h₂ : Header, ∀ name ∈ ownNames,
    values (upstreamHeader h₁ target host) name = values (upstreamHeader h₂ target host) name

/-- That is so exactly when the target has a binding with a value for each of the
pinning headers. -/
theorem pinned_iff (target : UpstreamTarget) (host : Str) :
    Pinned target host ↔ ∃ binding, target.runtimeBinding = some binding ∧
      ∀ pin ∈ pins binding, pin.2 ≠ [] := by
  constructor
  · intro hpinned
    -- a header that gets through shows in a pair of requests, with it and without
    have hsteer : ∀ name ∈ pinningNames,
        (∀ h, values (upstreamHeader h target host) name =
          values (copy leftOut h Table.empty) name) → False := by
      intro name hname hthrough
      have heq := hpinned (oneField name) Table.empty name (List.mem_cons_of_mem _ hname)
      obtain ⟨hone, hnone⟩ := values_copy_oneField hname
      rw [hthrough, hthrough, hone, hnone] at heq
      exact absurd heq (by decide)
    cases hbinding : target.runtimeBinding with
    | none =>
      have hname : lit "X-CPA-Auth-Index" ∈ pinningNames := by decide
      exact (hsteer _ hname fun h => values_unpinned h host hbinding hname).elim
    | some binding =>
      refine ⟨binding, rfl, fun pin hpin hempty => ?_⟩
      refine hsteer _ (mem_pinningNames hpin) fun h => ?_
      rw [values_pinned h host hbinding hpin, if_pos hempty]
  · intro ⟨binding, hbinding, hpresent⟩ h₁ h₂ name hname
    rcases List.mem_cons.mp hname with rfl | hpinning
    · rw [values_authorization, values_authorization]
    · rw [← map_fst_pins binding] at hpinning
      obtain ⟨pin, hpin, rfl⟩ := List.mem_map.mp hpinning
      rw [values_pinned h₁ host hbinding hpin, values_pinned h₂ host hbinding hpin,
        if_neg (hpresent pin hpin), if_neg (hpresent pin hpin)]

/-! ## Attempts -/

namespace Call

variable (c : Call)

/-- The same call with other client headers. -/
def withHeader (h : Header) : Call := { c with req := { c.req with header := h } }

/-- The values that an attempt sends upstream under a name, when the client sent
the headers `h`. -/
def sentValues (k : Nat) (route : ResolvedRoute) (binding : RuntimeBinding) (h : Header)
    (name : Str) : Option (List Str) :=
  ((c.withHeader h).forwardTo k route (some binding)).request.map fun request =>
    values request.header name

/-- A binding is that of a CPA account, with a key and an index. -/
theorem bind_some {k : Nat} {route : ResolvedRoute} {binding : RuntimeBinding}
    (h : (c.bind k route).1 = .ok (some binding)) :
    route.account.sourceKind = lit "cpa" ∧ binding.accountKey ≠ [] ∧ binding.authIndex ≠ [] := by
  unfold bind resolveForwardRuntimeBinding at h
  split at h
  · have hnone : none = some binding := Except.ok.inj h
    contradiction
  next hcpa =>
    split at h
    · contradiction
    next checker _ =>
      split at h
      · contradiction
      next bound effects hrun =>
        obtain ⟨-, hkey, hindex⟩ := resolveRuntimeBinding_ok (congrArg Prod.fst hrun)
        dsimp only at h
        split at h
        · contradiction
        split at h
        · obtain rfl := Option.some.inj (Except.ok.inj h)
          exact ⟨not_not.mp hcpa, hkey, hindex⟩
        · contradiction

/-- The service of an account, as the attempt finds it. -/
def serviceFound (k : Nat) (route : ResolvedRoute) : Bool :=
  (route.account.cpaServiceID.bind (c.env.attempts k).targetSnap.getCpaService).isSome

/-- The binding is part of the target when the service of the account is found. -/
theorem runtimeBinding_resolveTarget {k : Nat} {route : ResolvedRoute} {binding : RuntimeBinding}
    (hcpa : route.account.sourceKind = lit "cpa") :
    (resolveTarget (c.env.attempts k).targetSnap route.account (some binding)).runtimeBinding =
      if c.serviceFound k route then some binding else none := by
  unfold resolveTarget serviceFound
  dsimp only
  rw [if_neg (not_not.mpr hcpa)]
  cases route.account.cpaServiceID.bind (c.env.attempts k).targetSnap.getCpaService <;> rfl

/-- The header of the request that an attempt sends. -/
theorem sentValues_eq {k : Nat} {route : ResolvedRoute} {binding : RuntimeBinding}
    {data host : Str}
    (hbody : c.body.reader (c.env.attempts k).exchange.openErr.isNone = some data)
    (hrequest : (c.env.attempts k).exchange.request = .ok host) (h : Header) (name : Str) :
    c.sentValues k route binding h name =
      some (values (upstreamHeader h
        (resolveTarget (c.env.attempts k).targetSnap route.account (some binding)) host) name) := by
  have hbody' : (c.withHeader h).body.reader
      ((c.withHeader h).env.attempts k).exchange.openErr.isNone = some data := hbody
  have hrequest' : ((c.withHeader h).env.attempts k).exchange.request = .ok host := hrequest
  unfold sentValues forwardTo forward
  dsimp only
  rw [hbody', hrequest']
  dsimp only
  cases ((c.withHeader h).env.attempts k).exchange.answer with
  | failed text netError => rfl
  | response resp =>
    dsimp only [receive]
    split
    · rfl
    split
    · rfl
    split <;> rfl

end Call

/-- The client headers of an attempt with a binding have no say in what it sends
under the pinning names and `Authorization` exactly when the service of the
account is still found, and the binding has an ID and an OpenAI ID. -/
theorem credential_pinned_iff (c : Call) (k : Nat) (route : ResolvedRoute)
    {binding : RuntimeBinding} {data host : Str}
    (hbind : (c.bind k route).1 = .ok (some binding))
    (hbody : c.body.reader (c.env.attempts k).exchange.openErr.isNone = some data)
    (hrequest : (c.env.attempts k).exchange.request = .ok host) :
    (∀ h₁ h₂ : Header, ∀ name ∈ ownNames,
        c.sentValues k route binding h₁ name = c.sentValues k route binding h₂ name) ↔
      c.serviceFound k route = true ∧ binding.authID ≠ [] ∧ binding.openAIID ≠ [] := by
  obtain ⟨hcpa, hkey, hindex⟩ := c.bind_some hbind
  have hpinned : (∀ h₁ h₂ : Header, ∀ name ∈ ownNames,
        c.sentValues k route binding h₁ name = c.sentValues k route binding h₂ name) ↔
      Pinned (resolveTarget (c.env.attempts k).targetSnap route.account (some binding)) host := by
    simp only [c.sentValues_eq hbody hrequest, Option.some.injEq]
    rfl
  rw [hpinned, pinned_iff, c.runtimeBinding_resolveTarget hcpa]
  cases c.serviceFound k route with
  | false => simp
  | true => simp [pins, hkey, hindex]

/-- A CPA account with its service, and a runtime that lists one entry for it. -/
def cpaEnv (entry : AuthFile) : Env :=
  let account : Account :=
    { healthyAccount 7 with
      sourceKind := lit "cpa", cpaServiceID := some 1, cpaAccountKey := lit "k" }
  let snap : CacheSnapshot :=
    { poolSnap [account] with
      cpaServices := Table.ofList [(1, { id := 1, managementKey := lit "m" })] }
  let runtime : RuntimeEnv :=
    { (poolAttempt [account] (.response okResponse)).runtime with
      snap := snap
      authFile := fun _ => .ok {}
      listing := ⟨fun _ => .ok [entry], fun _ => none⟩ }
  { poolEnv [account] (fun _ => .response okResponse) with
    binder := some
      { cpaAuthDir := lit "auth", providerPinningSupported := true
        accountInfoPlanType := fun _ _ => none, subscriptionActiveUntil := fun _ _ => [] }
    attempts := fun _ =>
      { poolAttempt [account] (.response okResponse) with
        runtime := runtime, targetSnap := snap } }

/-- A call on that account. -/
def cpaCall (entry : AuthFile) : Call where
  env := cpaEnv entry
  req := chatRequest false
  body := { data := [] }
  model := lit "m"
  isStream := false

/-- The route to that account. -/
def cpaRoute : ResolvedRoute where
  poolID := 1
  targetModel := lit "m"
  accountID := 7
  account :=
    { healthyAccount 7 with
      sourceKind := lit "cpa", cpaServiceID := some 1, cpaAccountKey := lit "k" }

theorem exists_binding {ε α β : Type} {x : Except ε (Option α)} {f : α → β} {y : β}
    (h : x.toOption.join.map f = some y) : ∃ a, x = .ok (some a) ∧ f a = y := by
  cases x with
  | error err => contradiction
  | ok binding =>
    cases binding with
    | none => contradiction
    | some a => exact ⟨a, rfl, Option.some.inj h⟩

/-- An entry with both identifiers. -/
def fullEntry : AuthFile where
  id := lit "i"
  name := lit "k"
  authIndex := lit "0"
  chatGPTAccountID := lit "o"

/-- An entry without any. -/
def anonymousEntry : AuthFile where
  name := lit "k"
  authIndex := lit "0"

/-- The entry with both identifiers pins the credential. -/
theorem credential_pinned_full : ∃ binding,
    ((cpaCall fullEntry).bind 0 cpaRoute).1 = .ok (some binding) ∧
      ∀ h₁ h₂ : Header, ∀ name ∈ ownNames,
        (cpaCall fullEntry).sentValues 0 cpaRoute binding h₁ name =
          (cpaCall fullEntry).sentValues 0 cpaRoute binding h₂ name := by
  have hids : ((cpaCall fullEntry).bind 0 cpaRoute).1.toOption.join.map
      (fun binding => (binding.authID, binding.openAIID)) = some (lit "i", lit "o") := by
    decide +kernel
  obtain ⟨binding, hbind, hvalues⟩ := exists_binding hids
  obtain ⟨hid, hopenai⟩ := Prod.mk.inj hvalues
  refine ⟨binding, hbind, ?_⟩
  apply (credential_pinned_iff _ 0 cpaRoute hbind rfl rfl).mpr
  rw [hid, hopenai]
  exact ⟨by decide +kernel, by decide, by decide⟩

/-- The entry without an ID leaves the header of that ID to the client. -/
theorem client_steers_auth_id : ∃ binding,
    ((cpaCall anonymousEntry).bind 0 cpaRoute).1 = .ok (some binding) ∧
      (cpaCall anonymousEntry).sentValues 0 cpaRoute binding
          (oneField (lit "X-CLIProxyAPI-Pinned-Auth-Id")) (lit "X-CLIProxyAPI-Pinned-Auth-Id") =
        some [lit "x"] ∧
      (cpaCall anonymousEntry).sentValues 0 cpaRoute binding Table.empty
          (lit "X-CLIProxyAPI-Pinned-Auth-Id") = some [] := by
  have hvalues : ((cpaCall anonymousEntry).bind 0 cpaRoute).1.toOption.join.map (fun binding =>
      ((cpaCall anonymousEntry).sentValues 0 cpaRoute binding
          (oneField (lit "X-CLIProxyAPI-Pinned-Auth-Id")) (lit "X-CLIProxyAPI-Pinned-Auth-Id"),
        (cpaCall anonymousEntry).sentValues 0 cpaRoute binding Table.empty
          (lit "X-CLIProxyAPI-Pinned-Auth-Id"))) = some (some [lit "x"], some []) := by
    decide +kernel
  obtain ⟨binding, hbind, hsent⟩ := exists_binding hvalues
  exact ⟨binding, hbind, Prod.mk.inj hsent⟩

end Lune.Gateway
