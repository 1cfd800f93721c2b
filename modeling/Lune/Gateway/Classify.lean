import Lune.Lib.GoJson

/-!
# What an upstream answer means

The text classifiers of `internal/gateway/handler.go`, and the error message
that `internal/gateway/proxy.go` takes out of a body.
-/

namespace Lune.Gateway

open GoText GoJson

/-- `truncateStreamError`. -/
def truncateStreamError (msg : Str) (max : Nat) : Str :=
  let msg := trimSpace msg
  if msg.length ≤ max then msg
  else if max ≤ 3 then msg.take max
  else msg.take (max - 3) ++ lit "..."

/-- Something is left of a text that starts with a graphic byte. -/
theorem truncateStreamError_ne_nil {b : UInt8} (hb : isGraphic b = true) (rest : Str) :
    truncateStreamError (b :: rest) 512 ≠ [] := by
  have htrim := trimSpace_ne_nil hb rest
  unfold truncateStreamError
  dsimp only
  split
  · exact htrim
  · rw [if_neg (by decide)]
    exact List.append_ne_nil_of_right_ne_nil _ (by decide)

/-! ## The error message of a body -/

/-- A field of a Go map together with the message inside its value. -/
structure MessageField where
  key : Str
  value : Json
  inner : Str

/-- The field a key has in the map. -/
def messageField? (fields : List MessageField) (key : Str) : Option MessageField :=
  fields.reverse.find? fun f => f.key = key

/-- The field is text that is not blank. -/
def textAt (fields : List MessageField) (key : Str) : Option Str :=
  match messageField? fields key with
  | some ⟨_, .str msg, _⟩ => if isBlank msg then none else some (truncateStreamError msg 512)
  | _ => none

/-- The field is an object with a message inside. -/
def innerAt (fields : List MessageField) (key : Str) : Option Str :=
  match messageField? fields key with
  | some ⟨_, .obj _, inner⟩ => if inner = [] then none else some inner
  | _ => none

/-- `extractUpstreamErrorMessageFromMap`, where the messages of the values are
known. -/
def messageFromFields (fields : List MessageField) : Str :=
  ([lit "message", lit "detail", lit "error_message"].findSome? (textAt fields)).getD
    (([lit "error", lit "response"].findSome? (innerAt fields)).getD
      ((textAt fields (lit "error")).getD []))

mutual

/-- `extractUpstreamErrorMessageFromMap`, on the value that holds the map. -/
def messageIn : Json → Str
  | .obj fields => messageFromFields (messagesIn fields)
  | .null | .bool _ | .num _ | .str _ | .arr _ => []

/-- The fields of a map with the messages of their values. -/
def messagesIn : List (Str × Json) → List MessageField
  | [] => []
  | (key, x) :: fields => ⟨key, x, messageIn x⟩ :: messagesIn fields

end

/-- `extractUpstreamErrorMessage`. -/
def extractUpstreamErrorMessage (body : Str) : Str :=
  match unmarshal true (trimSpace body) with
  | some x => messageIn x
  | none => []

/-- `firstNonEmptyString`. -/
def firstNonEmptyString (values : List Str) : Str :=
  trimSpace ((values.find? fun value => !isBlank value).getD [])

/-! ## Classes of failures -/

/-- `http.StatusUnauthorized` or `http.StatusForbidden`. -/
def isAuthStatus (statusCode : Int) : Bool := statusCode == 401 || statusCode == 403

/-- `isGatewayAuthFailure`. -/
def isGatewayAuthFailure (statusCode : Int) (body : Str) : Bool :=
  isAuthStatus statusCode ||
    containsAny (toLower body)
      [lit "invalid_token", lit "unauthorized", lit "access denied", lit "refresh token",
        lit "expired token"]

/-- `isCpaAccountUpstreamAuthFailure`. -/
def isCpaAccountUpstreamAuthFailure (statusCode : Int) (body : Str) : Bool :=
  let text := toLower body
  if containsAny text
      [lit "service key", lit "api key", lit "management key", lit "invalid authorization"] then
    false
  else if isAuthStatus statusCode then
    containsAny text
      [lit "refresh token", lit "invalid_grant", lit "token_invalidated",
        lit "upstream credential", lit "upstream authentication", lit "chatgpt",
        lit "codex credential", lit "auth_unavailable", lit "no auth available",
        lit "credential unavailable"]
  else if 500 ≤ statusCode then
    containsAny text
      [lit "auth_unavailable", lit "no auth available", lit "credential unavailable",
        lit "upstream credential", lit "upstream authentication", lit "codex credential"]
  else false

/-- Of no body, only the status tells that a credential was rejected. -/
theorem isGatewayAuthFailure_nil (statusCode : Int) :
    isGatewayAuthFailure statusCode [] = isAuthStatus statusCode := by
  have hnone : containsAny (toLower []) [lit "invalid_token", lit "unauthorized",
      lit "access denied", lit "refresh token", lit "expired token"] = false := by decide
  rw [isGatewayAuthFailure, hnone, Bool.or_false]

theorem isCpaAccountUpstreamAuthFailure_nil (statusCode : Int) :
    isCpaAccountUpstreamAuthFailure statusCode [] = false := by
  unfold isCpaAccountUpstreamAuthFailure
  dsimp only
  split
  · rfl
  split
  · decide
  split
  · decide
  · rfl

/-- `textHasQuotaLimitSignal`. -/
def textHasQuotaLimitSignal (text : Str) : Bool :=
  containsAny (toLower text)
    [lit "quota", lit "rate limit", lit "ratelimit", lit "usage limit", lit "limit reached",
      lit "too many requests"]

/-- `bodyHasQuotaLimitSignal`. -/
def bodyHasQuotaLimitSignal (body : Str) : Bool :=
  let msg := extractUpstreamErrorMessage body
  body != [] && ((msg != [] && textHasQuotaLimitSignal msg) || textHasQuotaLimitSignal body)

/-- The phrases that say an account is banned. -/
def bannedPhrases : List Str :=
  [lit "account banned", lit "account is banned", lit "account deactivated",
    lit "account disabled", lit "account is disabled", lit "account suspended",
    lit "abuse lock", lit "policy lock", lit "account locked",
    lit "access to this account has been disabled"]

/-- The text is about a banned account. -/
def textIsBanned (text : Str) : Bool :=
  let text := toLower (trimSpace text)
  text != [] && !textHasQuotaLimitSignal text && !contains text (lit "policy violation") &&
    containsAny text bannedPhrases

/-- `isCpaAccountBannedSignal`. -/
def isCpaAccountBannedSignal (statusCode : Int) (body fallback : Str) : Bool :=
  400 ≤ statusCode &&
    textIsBanned (firstNonEmptyString [extractUpstreamErrorMessage body, body, fallback])

/-- `isQuotaProbeAuthFailureText`. -/
def isQuotaProbeAuthFailureText (text : Str) : Bool :=
  containsAny (toLower (trimSpace text))
    [lit "http 401", lit "http 403", lit "unauthorized", lit "forbidden"]

/-- `gatewayCredentialReason`. -/
def gatewayCredentialReason (body : Str) : Str :=
  if contains (toLower body) (lit "refresh") then lit "refresh_failed" else lit "auth_failed"

/-- `safeDiagnosticObservationMessage`. -/
def safeDiagnosticObservationMessage (normalizedCode fallback : Str) : Str :=
  let texts : List (Str × Str) :=
    [(lit "quota_exhausted", lit "quota exhausted by model request"),
      (lit "quota_probe_auth_failed_but_usable",
        lit "quota probe authentication failed but account remains usable"),
      (lit "rate_limited", lit "rate limited by model request"),
      (lit "auth_invalid", lit "account authentication failed"),
      (lit "upstream_banned", lit "account banned by upstream"),
      (lit "upstream_request_failed", lit "upstream request failed"),
      (lit "upstream_transient_error", lit "transient upstream error"),
      (lit "stream_failed", lit "stream failed")]
  match texts.find? fun t => t.1 = trimSpace normalizedCode with
  | some (_, text) => text
  | none =>
    if isBlank fallback then lit "routing observation recorded"
    else truncateStreamError fallback 120

end Lune.Gateway
