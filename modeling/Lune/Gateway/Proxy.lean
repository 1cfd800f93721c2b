import Lune.Gateway.Body
import Lune.Gateway.Classify
import Lune.Lib.HttpHeader

/-!
# Forwarding a request

`internal/gateway/proxy.go`: the request sent upstream, and what becomes of the
answer.  An answer to a streaming request is passed on line by line while it
arrives; every other answer is kept, so that the handler can still retry.

What the network does is an `Exchange`.  Writing a status line panics on a
status outside `100` to `999`, as `http.ResponseWriter` does.
-/

namespace Lune.Gateway

open GoText GoJson Keyed HttpHeader

/-- `hopByHopHeaders`. -/
def hopByHopHeaders : List Str :=
  [lit "Connection", lit "Keep-Alive", lit "Proxy-Authenticate", lit "Proxy-Authorization",
    lit "Te", lit "Trailers", lit "Transfer-Encoding", lit "Upgrade"]

/-- The `RuntimeBinding` of the gateway. -/
structure RuntimeBinding where
  accountKey : Str := []
  authID : Str := []
  authIndex : Str := []
  openAIID : Str := []

/-- `UpstreamTarget`. -/
structure UpstreamTarget where
  baseURL : Str := []
  apiKey : Str := []
  accountID : Int := 0
  runtimeBinding : Option RuntimeBinding := none

/-- An error while a body is read. -/
structure ReadError where
  text : Str
  timeout : Bool := false

/-- An answer of the upstream: the bytes of the body, and the error after them
when it was cut off.  The HTTP client keeps informational answers to itself. -/
structure UpstreamResponse where
  statusCode : Int
  header : Header := Table.empty
  body : Str := []
  readErr : Option ReadError := none
  final : ¬ (100 ≤ statusCode ∧ statusCode ≤ 199 ∧ statusCode ≠ 101) := by decide

/-- An answer with `200` and no body. -/
def okResponse : UpstreamResponse := { statusCode := 200 }

/-- What `client.Do` returns. -/
inductive Answer where
  | failed (text : Str) (netError : Bool)
  | response (resp : UpstreamResponse)

/-- What one call of `Forward` meets: the error on opening a body on disk, the
host of the URL or the error of building the request, and the answer. -/
structure Exchange where
  openErr : Option Str := none
  request : Except Str Str
  answer : Answer

/-- The client's side of a stream: whether it can be flushed, and which writes
fail. -/
structure Downstream where
  flushes : Bool := true
  writeErr : Nat → Option Str := fun _ => none

/-- The request sent upstream. -/
structure UpstreamRequest where
  method : Str
  url : Str
  header : Header
  body : Str

/-- An error of `Forward`; the retryable ones are `retryableError`. -/
structure ProxyError where
  text : Str
  retryable : Bool := false

/-- `StreamResult`. -/
structure StreamResult where
  usage : Usage := {}
  completed : Bool := false
  completionMarker : Str := []
  failed : Bool := false
  healthImpact : Bool := false
  errorMessage : Str := []
  err : Option Str := none

/-- `ProxyResult`. -/
structure ProxyResult where
  statusCode : Int := 0
  usage : Usage := {}
  stream : Option StreamResult := none
  err : Option ProxyError := none
  healthImpact : Bool := false
  body : Str := []
  headers : Header := Table.empty
  written : Bool := false

/-- Which function answered the client. -/
inductive Responder where
  | writeGatewayError
  | writeResponse
  | forwardStream
deriving DecidableEq

/-- An answer to the client: one status line, the headers and the body. -/
structure Response where
  responder : Responder
  statusCode : Int
  header : Header
  body : Str

/-- `WriteHeader` accepts the status. -/
def ValidStatus (statusCode : Int) : Prop := 100 ≤ statusCode ∧ statusCode ≤ 999

instance (statusCode : Int) : Decidable (ValidStatus statusCode) :=
  inferInstanceAs (Decidable (_ ∧ _))

/-! ## Errors and statuses -/

/-- `IsRetryableStatus`. -/
def isRetryableStatus (statusCode : Int) : Bool := 500 ≤ statusCode || statusCode == 429

/-- `classifyError`. -/
def classifyError (text : Str) (netError : Bool) : ProxyError :=
  { text := text
    retryable := netError ||
      containsAny text [lit "connection refused", lit "no such host", lit "i/o timeout"] }

/-- `isTimeoutError`. -/
def isTimeoutError (err : ReadError) : Bool :=
  err.timeout ||
    containsAny err.text
      [lit "Client.Timeout", lit "context deadline exceeded", lit "i/o timeout"]

/-! ## The request -/

/-- `header.Set` for a value that is not empty. -/
def setPresent (h : Header) (key value : Str) : Header :=
  if value = [] then h else set h key value

/-- The headers that pin the credential. -/
def pinHeaders (h : Header) (binding : RuntimeBinding) : Header :=
  let h := setPresent h (lit "X-Lune-CPA-Account-Key") binding.accountKey
  let h := setPresent h (lit "X-Lune-Runtime-Auth-Id") binding.authID
  let h := setPresent h (lit "X-CLIProxyAPI-Pinned-Auth-Id") binding.authID
  let h := setPresent h (lit "X-Lune-Runtime-Auth-Index") binding.authIndex
  let h := setPresent h (lit "X-CLIProxyAPI-Pinned-Auth-Index") binding.authIndex
  let h := setPresent h (lit "X-CPA-Auth-Index") binding.authIndex
  setPresent h (lit "ChatGPT-Account-Id") binding.openAIID

/-- The client headers that are not copied. -/
def leftOut (key : Str) : Bool :=
  hopByHopHeaders.contains key || equalFold key (lit "Authorization") || equalFold key (lit "Host")

/-- The headers of the upstream request. -/
def upstreamHeader (clientHeader : Header) (target : UpstreamTarget) (host : Str) : Header :=
  let h := copy leftOut clientHeader Table.empty
  let h := set h (lit "Authorization") (lit "Bearer " ++ target.apiKey)
  let h := match target.runtimeBinding with
    | none => h
    | some binding => pinHeaders h binding
  set h (lit "Host") host

/-- The URL of the upstream request. -/
def upstreamURL (target : UpstreamTarget) (pathSuffix : Str) : Str :=
  trimRightByte target.baseURL 47 ++ lit "/" ++ pathSuffix

/-! ## Lines -/

/-- The size of the scanner's buffer. -/
def maxLine : Nat := 1024 * 1024

/-- The lines of a text, without their line feeds.  A last line needs none. -/
def splitLines : Str → List Str
  | [] => []
  | b :: rest =>
    if b = 10 then [] :: splitLines rest
    else match splitLines rest with
      | [] => [[b]]
      | line :: lines => (b :: line) :: lines

/-- `dropCR`. -/
def dropCR (line : Str) : Str := if line.getLast? = some 13 then line.dropLast else line

/-- The error of a line that does not fit the buffer.  A last line of just its
size is taken not to fit. -/
def errTooLong : ReadError := { text := lit "bufio.Scanner: token too long" }

/-! ## Streams -/

/-- `isChatCompletionsStream`. -/
def isChatCompletionsStream (pathSuffix : Str) : Bool :=
  hasSuffix (trimByte pathSuffix 47) (lit "chat/completions")

/-- `isResponsesStream`. -/
def isResponsesStream (pathSuffix : Str) : Bool :=
  hasSuffix (trimByte pathSuffix 47) (lit "responses")

/-- `expectedStreamCompletionMarker`. -/
def expectedStreamCompletionMarker (pathSuffix : Str) : Str :=
  if isChatCompletionsStream pathSuffix then lit "[DONE]"
  else if isResponsesStream pathSuffix then lit "response.completed"
  else lit "completion marker"

/-- The type of an event and the message in it. -/
def sseEvent (data : Str) : Option (Str × Str) :=
  match unmarshal true data with
  | some (.obj fields) =>
    match field? fields (lit "type") with
    | some (.str eventType) => some (eventType, messageIn (.obj fields))
    | _ => none
  | _ => none

/-- `updateStreamResultFromSSEData`. -/
def updateStreamResultFromSSEData (result : StreamResult) (data : Str) : StreamResult :=
  match sseEvent data with
  | none => result
  | some (eventType, msg) =>
    if eventType = lit "response.completed" then
      { result with completed := true, completionMarker := eventType }
    else if eventType = lit "response.failed" ∨ eventType = lit "response.incomplete" then
      let msg := if msg = [] then eventType else msg
      { result with
        failed := true
        healthImpact := result.healthImpact || eventType == lit "response.failed"
        errorMessage := msg
        err := some msg }
    else result

/-- What a line that was passed on tells about the stream. -/
def observeLine (acceptDone : Bool) (result : StreamResult) (line : Str) : StreamResult :=
  if hasPrefix line (lit "data: ") then
    let data := trimSpace (line.drop 6)
    if acceptDone && data == lit "[DONE]" then
      { result with completed := true, completionMarker := lit "[DONE]" }
    else
      let result := updateStreamResultFromSSEData result data
      let usage := parseUsageFromBody data
      if !result.failed && (0 < usage.inputTokens || 0 < usage.outputTokens) then
        { result with usage := usage }
      else result
  else
    let msg := extractUpstreamErrorMessage line
    if msg ≠ [] ∧ result.errorMessage = [] then { result with errorMessage := msg } else result

/-- How the loop over the lines ended. -/
inductive ScanEnd where
  | eof
  | tooLong
  | writeFailed (text : Str)

/-- The loop over the lines: `n` writes have been made, and `out` was written. -/
def relayLines (down : Downstream) (acceptDone : Bool) (result : StreamResult) (n : Nat)
    (out : Str) : List Str → StreamResult × Str × ScanEnd
  | [] => (result, out, .eof)
  | raw :: lines =>
    if maxLine ≤ raw.length then (result, out, .tooLong)
    else
      let line := dropCR raw
      match down.writeErr n with
      | some text => (result, out, .writeFailed text)
      | none =>
        match down.writeErr (n + 1) with
        | some text => (result, out ++ line, .writeFailed text)
        | none =>
          relayLines down acceptDone (observeLine acceptDone result line) (n + 2)
            (out ++ line ++ [10]) lines

/-- The end of a stream whose body could not be read further. -/
def streamReadError (result : StreamResult) (expectedMarker : Str) (err : ReadError) :
    StreamResult :=
  { result with
    failed := true
    err := some err.text
    errorMessage :=
      if isTimeoutError err then lit "stream timed out before " ++ expectedMarker
      else truncateStreamError (lit "stream read error: " ++ err.text) 512 }

/-- The end of a stream that was read to its end. -/
def streamClosed (result : StreamResult) (statusCode : Int) (expectedMarker : Str) :
    StreamResult :=
  if 200 ≤ statusCode ∧ statusCode < 300 ∧ !result.completed ∧ !result.failed then
    let msg := lit "stream closed before " ++ expectedMarker
    { result with failed := true, errorMessage := msg, err := some msg }
  else result

/-- `forwardStream`, after the status line: the result and the body written. -/
def relayStream (down : Downstream) (resp : UpstreamResponse) (pathSuffix : Str) :
    StreamResult × Str :=
  let expectedMarker := expectedStreamCompletionMarker pathSuffix
  let acceptDone := isChatCompletionsStream pathSuffix
  match relayLines down acceptDone {} 0 [] (splitLines resp.body) with
  | (result, out, .writeFailed text) =>
    ({ result with
        failed := true
        errorMessage := truncateStreamError (lit "downstream write error: " ++ text) 512
        err := some text }, out)
  | (result, out, .tooLong) => (streamReadError result expectedMarker errTooLong, out)
  | (result, out, .eof) =>
    match resp.readErr with
    | some err => (streamReadError result expectedMarker err, out)
    | none => (streamClosed result resp.statusCode expectedMarker, out)

/-- The result of a stream to a client that cannot be flushed. -/
def streamingNotSupported : StreamResult :=
  { failed := true
    errorMessage := lit "streaming not supported"
    err := some (lit "streaming not supported") }

/-- `forwardStream`: the result and the answer; `none` is a panic. -/
def forwardStream (down : Downstream) (resp : UpstreamResponse) (header : Header)
    (pathSuffix : Str) : Option (StreamResult × Response) :=
  if !down.flushes then
    some (streamingNotSupported,
      ⟨.forwardStream, 500, header,
        lit "\x7b\"error\":\x7b\"message\":\"streaming not supported\"\x7d\x7d"⟩)
  else if ValidStatus resp.statusCode then
    let (result, out) := relayStream down resp pathSuffix
    some (result, ⟨.forwardStream, resp.statusCode, header, out⟩)
  else none

/-! ## Forward -/

/-- The headers of an answer, as they are passed on. -/
def responseHeader (resp : UpstreamResponse) (requestID : Str) (accountID : Int) : Header :=
  let h := copy hopByHopHeaders.contains resp.header Table.empty
  let h := set h (lit "X-Lune-Request-Id") requestID
  set h (lit "X-Lune-Account") (itoa accountID)

/-- The body that takes the place of one that could not be read. -/
def unreadableBody : Str :=
  lit "\x7b\"error\":\x7b\"message\":\"failed to read upstream response\"\x7d\x7d"

/-- `maxBufferedStreamErrorBody`. -/
def maxBufferedStreamErrorBody : Nat := 1024 * 1024

/-- `readBoundedBody`, with the body that replaces a failed read.  An error past
the bound is not met. -/
def boundedBody (resp : UpstreamResponse) : Str :=
  if resp.readErr.isSome ∧ resp.body.length ≤ maxBufferedStreamErrorBody then unreadableBody
  else resp.body.take maxBufferedStreamErrorBody

/-- `io.ReadAll`, with the body that replaces a failed read. -/
def bufferedBody (resp : UpstreamResponse) : Str :=
  if resp.readErr.isSome then unreadableBody else resp.body

/-- An answer with a retryable status to a streaming request. -/
def retryableStreamResult (resp : UpstreamResponse) (header : Header) : ProxyResult :=
  let body := boundedBody resp
  let msg := extractUpstreamErrorMessage body
  { statusCode := resp.statusCode
    usage := parseUsageFromBody body
    stream :=
      if msg = [] then none
      else some { failed := true, healthImpact := true, errorMessage := msg, err := some msg }
    healthImpact := true
    body := body
    headers := del header (lit "Content-Length") }

/-- An answer to a request that is not streaming. -/
def bufferedResult (resp : UpstreamResponse) (header : Header) : ProxyResult :=
  { statusCode := resp.statusCode
    usage := parseUsageFromBody (bufferedBody resp)
    healthImpact := isRetryableStatus resp.statusCode
    body := bufferedBody resp
    headers := header }

/-- What a call of `Forward` did: the request it sent, the answer it wrote and
its result.  Without a result it panicked. -/
structure Forwarded where
  request : Option UpstreamRequest := none
  answered : Option Response := none
  result : Option ProxyResult

/-- The part of `Forward` after the answer has come. -/
def receive (down : Downstream) (pathSuffix : Str) (isStream : Bool) (requestID : Str)
    (accountID : Int) (request : UpstreamRequest) (resp : UpstreamResponse) : Forwarded :=
  let header := responseHeader resp requestID accountID
  if !isStream then { request := some request, result := some (bufferedResult resp header) }
  else if isRetryableStatus resp.statusCode then
    { request := some request, result := some (retryableStreamResult resp header) }
  else
    match forwardStream down resp (del header (lit "Content-Length")) pathSuffix with
    | none => { request := some request, result := none }
    | some (stream, answer) =>
      { request := some request
        answered := some answer
        result := some
          { statusCode := resp.statusCode
            usage := stream.usage
            stream := some stream
            written := true } }

/-- `Forward`. -/
def forward (down : Downstream) (method : Str) (clientHeader : Header) (target : UpstreamTarget)
    (pathSuffix : Str) (body : ReplayBody) (isStream : Bool) (requestID : Str) (io : Exchange) :
    Forwarded :=
  let failed (request : Option UpstreamRequest) (err : ProxyError) : Forwarded :=
    { request := request, result := some { err := some err } }
  match body.reader io.openErr.isNone with
  | none => failed none { text := lit "open replay body: " ++ io.openErr.getD [] }
  | some data =>
    match io.request with
    | .error text => failed none { text := lit "create request: " ++ text }
    | .ok host =>
      let request : UpstreamRequest :=
        { method := method
          url := upstreamURL target pathSuffix
          header := upstreamHeader clientHeader target host
          body := data }
      match io.answer with
      | .failed text netError => failed (some request) (classifyError text netError)
      | .response resp =>
        receive down pathSuffix isStream requestID target.accountID request resp

/-- `upstreamErrorMessage`. -/
def upstreamErrorMessage (result : ProxyResult) (fallback : Str) : Str :=
  let kept := (result.stream.map StreamResult.errorMessage).getD []
  if kept ≠ [] then kept
  else
    let msg := extractUpstreamErrorMessage result.body
    if msg ≠ [] then msg else fallback

end Lune.Gateway
