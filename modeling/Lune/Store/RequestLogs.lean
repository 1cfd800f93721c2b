import Lune.Lib.Programs
import Lune.Lib.Regex
import Lune.Store.Writes

/-!
# The request logs

`InsertLog` of `internal/store/logs.go`.  A failed request whose error was logged
within a day adds to the count of that row, every other request is a row of its
own.  `InsertLog` is a program: its statements are single steps, and whatever
else runs may come between them.

A statement that fails writes nothing and makes `InsertLog` return the error.  To
the tables that is a call which makes no further step, so a call that ends here is
one that returned `nil`.
-/

namespace Lune.Store

open GoText Keyed Calendar TimeText Programs

/-! ## Times before now -/

/-- The date of an instant so many seconds before the year 0, as Go prints it.
The calendar repeats every 400 years. -/
def beforeZeroText (seconds : Nat) : Str :=
  let cycle := 86400 * 146097
  let cycles := (seconds + cycle - 1) / cycle
  let t := fieldsOf (cycles * cycle - seconds)
  let year := 400 * cycles - t.year
  45 :: ((if year < 10000 then pad 4 year else digits year) ++ (datetimeText t).drop 4)

/-- `time.Now().UTC().Add(-d).Format("2006-01-02 15:04:05")` for a `d` of whole
seconds, and the same of `AddDate` with days. -/
def Clock.agoText (clock : Clock) (seconds : Nat) : Str :=
  if seconds ≤ clock.seconds then datetimeText (fieldsOf (clock.seconds - seconds))
  else beforeZeroText (seconds - clock.seconds)

/-- The seconds of a day. -/
def day : Nat := 86400

/-! ## Records and rows -/

/-- `store.RequestLog`, as far as `InsertLog` reads it. -/
structure RequestLog where
  requestID : Str := []
  accessTokenName : Str := []
  modelRequested : Str := []
  modelActual : Str := []
  poolID : Int := 0
  accountID : Int := 0
  accountLabel : Str := []
  statusCode : Int := 0
  latencyMs : Int := 0
  inputTokens : Int := 0
  outputTokens : Int := 0
  stream : Bool := false
  requestIP : Str := []
  success : Bool := false
  errorMessage : Str := []
  errorFingerprint : Str := []
  errorRepeatCount : Int := 0
  errorLastSeenAt : Str := []
  sourceKind : Str := []
  attemptCount : Int := 0
  diagnostic : Bool := false
  forceAccount : Bool := false
  statefulProbe : Bool := false
  trafficKind : Str := []
  runtimeAuthIndex : Str := []
  runtimeAuthID : Str := []
  runtimeAccountKey : Str := []
  runtimeBindingStatus : Str := []
  runtimeBindingReason : Str := []
  routeTrace : Str := []

/-- A row of `request_logs`. -/
structure RequestLogRow where
  id : Int
  requestID : Str := []
  accessTokenName : Str := []
  modelRequested : Str := []
  modelActual : Str := []
  poolID : Option Int := none
  accountID : Option Int := none
  accountLabelSnapshot : Str := []
  statusCode : Int := 0
  latencyMs : Int := 0
  inputTokens : Int := 0
  outputTokens : Int := 0
  stream : Bool := false
  requestIP : Str := []
  success : Bool := true
  errorMessage : Str := []
  errorFingerprint : Str := []
  errorRepeatCount : Int := 1
  errorLastSeenAt : Str := []
  sourceKind : Str := []
  attemptCount : Int := 1
  diagnostic : Bool := false
  forceAccount : Bool := false
  statefulProbe : Bool := false
  trafficKind : Str := lit "ordinary"
  runtimeAuthIndex : Str := []
  runtimeAuthID : Str := []
  runtimeAccountKey : Str := []
  runtimeBindingStatus : Str := []
  runtimeBindingReason : Str := []
  routeTrace : Str := []
  createdAt : Str := []

/-- The tables, with the request logs. -/
structure Archive extends Database where
  requestLogs : Table RequestLogRow.id := Table.empty
deriving Inhabited

/-! ## The error of a record -/

/-- `bearerTokenPattern`. -/
def bearerTokenPattern : Regex.Pattern :=
  Regex.sequence [Regex.word "bearer", Regex.space.plus, (Regex.alnumAnd "._~+/=-").plus]

/-- `apiKeyPattern`. -/
def apiKeyPattern : Regex.Pattern :=
  let chars := Regex.alnumAnd "._-"
  Regex.sequence
    [.wordBoundary,
      Regex.choice
        [.seq (Regex.word "sk-") (chars.atLeast 8), .seq (Regex.word "sess-") (chars.atLeast 8),
          .seq (Regex.word "eyJ") (chars.atLeast 12)],
      .wordBoundary]

/-- `authHeaderPattern`. -/
def authHeaderPattern : Regex.Pattern :=
  let separator := (Regex.oneOf [95, 45]).optional
  Regex.sequence
    [.group (Regex.choice
        [Regex.word "authorization", Regex.word "x-api-key",
          Regex.sequence [Regex.word "api", separator, Regex.word "key"],
          Regex.sequence [Regex.word "access", separator, Regex.word "token"],
          Regex.sequence [Regex.word "refresh", separator, Regex.word "token"]]),
      .many true Regex.space, .char (Regex.oneOf [58, 61]), .many true Regex.space,
      (Regex.noneOf [44, 32, 9, 10, 12, 13, 125]).plus]

/-- `requestPayloadPattern`. -/
def requestPayloadPattern : Regex.Pattern :=
  let quote := Regex.Pattern.char (Regex.oneOf [34])
  let inLine := Regex.Pattern.many false (Regex.noneOf [10])
  Regex.sequence
    [.group (Regex.sequence
        [quote,
          Regex.choice
            [Regex.word "messages", Regex.word "prompt", Regex.word "input", Regex.word "body",
              Regex.word "request_body"],
          quote, .many true Regex.space, .char (Regex.oneOf [58]), .many true Regex.space]),
      Regex.choice
        [Regex.sequence [.char (Regex.oneOf [91]), inLine, .char (Regex.oneOf [93])],
          Regex.sequence [.char (Regex.oneOf [123]), inLine, .char (Regex.oneOf [125])],
          Regex.sequence [quote, .many true (Regex.noneOf [34]), quote],
          (Regex.noneOf [44, 125, 10]).plus]]

/-- `maxRequestLogErrorMessageBytes`. -/
def maxRequestLogErrorMessageBytes : Nat := 4096

/-- How many bytes the first character takes; a byte that starts none is one. -/
def runeWidth : Str → Nat
  | [] => 0
  | b :: rest =>
    let continues (lo hi : UInt8) (n : Nat) : Bool :=
      match rest.take n with
      | [] => false
      | c :: more => lo ≤ c && c ≤ hi && more.length + 1 == n && more.all fun d => 128 ≤ d && d ≤ 191
    if 0xC2 ≤ b && b ≤ 0xDF && continues 128 191 1 then 2
    else if b == 0xE0 && continues 0xA0 191 2 then 3
    else if b == 0xED && continues 128 0x9F 2 then 3
    else if 0xE1 ≤ b && b ≤ 0xEF && b != 0xED && continues 128 191 2 then 3
    else if b == 0xF0 && continues 0x90 191 3 then 4
    else if b == 0xF4 && continues 128 0x8F 3 then 4
    else if 0xF1 ≤ b && b ≤ 0xF3 && continues 128 191 3 then 4
    else 1

/-- The last place up to `maxBytes` at which a character starts, from `pos` on. -/
def lastRuneStart (maxBytes : Nat) : Nat → Nat → Nat → Str → Nat
  | 0, _, last, _ => last
  | _ + 1, _, last, [] => last
  | fuel + 1, pos, last, b :: rest =>
    if maxBytes < pos then last
    else
      let width := runeWidth (b :: rest)
      lastRuneStart maxBytes fuel (pos + width) pos ((b :: rest).drop width)

/-- `truncateUTF8Bytes`. -/
def truncateUTF8Bytes (s : Str) (maxBytes : Nat) : Str :=
  if maxBytes = 0 ∨ s.length ≤ maxBytes then s
  else
    let last := lastRuneStart maxBytes s.length 0 0 s
    if last = 0 then s.take maxBytes else trimSpace (s.take last)

/-- `sanitizeRequestLogError`. -/
def sanitizeRequestLogError (message : Str) : Str :=
  let message := trimSpace message
  if message = [] then []
  else
    let message := bearerTokenPattern.replace (fun _ => lit "Bearer [redacted]") message
    let message := apiKeyPattern.replace (fun _ => lit "[redacted]") message
    let message := authHeaderPattern.replace (fun group => group ++ lit "=[redacted]") message
    let message := requestPayloadPattern.replace (fun group => group ++ lit "\"[redacted]\"") message
    truncateUTF8Bytes message maxRequestLogErrorMessageBytes

/-- `normalizeRequestTrafficKind`. -/
def normalizeRequestTrafficKind (kind : Str) (diagnostic statefulProbe : Bool) : Str :=
  let kind := trimSpace (toLower kind)
  if [lit "ordinary", lit "diagnostic", lit "stateful_probe"].contains kind then kind
  else if diagnostic then lit "diagnostic"
  else if statefulProbe then lit "stateful_probe"
  else lit "ordinary"

/-- `strconv.FormatBool`. -/
def formatBool (b : Bool) : Str := if b then lit "true" else lit "false"

/-- Functions of the Go library on text that are left open: lower case beyond
ASCII, and the SHA-256 digest as hexadecimal digits. -/
structure TextFuncs where
  toLower : Str → Str
  sha256 : Str → Str

/-- `requestLogErrorFingerprint`, of a record whose error is sanitised. -/
def requestLogErrorFingerprint (t : TextFuncs) (l : RequestLog) (sourceKind : Str) : Str :=
  let normalizedError := Regex.squeezeSpace (t.toLower (trimSpace l.errorMessage))
  if normalizedError = [] then []
  else
    t.sha256 (List.intercalate [0]
      [sourceKind, l.modelRequested, l.modelActual, itoa l.poolID, itoa l.accountID,
        itoa l.statusCode, formatBool l.diagnostic, formatBool l.statefulProbe,
        normalizeRequestTrafficKind l.trafficKind l.diagnostic l.statefulProbe, normalizedError])

/-! ## Statements -/

/-- The number after the highest key, which SQLite gives to a new row. -/
def nextID {ρ : Type} {key : ρ → Int} (t : Table key) : Int := (t.rows.map key).foldl max 0 + 1

/-- A statement that writes to the request logs. -/
inductive LogCall where
  | foldRequestLog (id latencyMs : Int)
  | insertRequestLog (row : RequestLogRow)
  | pruneRequestLogs (cutoff : Str)

namespace Archive

/-- The `SELECT` of `foldRecentRequestLogError`. -/
def recentRequestLog (s : Archive) (fingerprint : Str) (diagnostic statefulProbe : Bool)
    (trafficKind since : Str) : Option Int :=
  ((s.requestLogs.rows.filter fun r =>
    r.errorFingerprint == fingerprint && r.diagnostic == diagnostic &&
      r.statefulProbe == statefulProbe && r.trafficKind == trafficKind &&
      decide (since ≤ r.createdAt)).map RequestLogRow.id).max?

/-- The `UPDATE` of `foldRecentRequestLogError`. -/
def foldRequestLog (s : Archive) (now : Clock) (id latencyMs : Int) : Archive :=
  { s with
    requestLogs := s.requestLogs.modify id fun r =>
      { r with
        errorRepeatCount := r.errorRepeatCount + 1
        errorLastSeenAt := now.datetime
        latencyMs := latencyMs } }

/-- `INSERT INTO request_logs`. -/
def insertRequestLog (s : Archive) (now : Clock) (row : RequestLogRow) : Archive :=
  { s with
    requestLogs := s.requestLogs.set
      { row with id := nextID s.requestLogs, createdAt := now.datetime } }

/-- `DELETE FROM request_logs WHERE created_at < ?`. -/
def pruneRequestLogs (s : Archive) (cutoff : Str) : Archive :=
  { s with requestLogs := s.requestLogs.filter fun r => decide (cutoff ≤ r.createdAt) }

end Archive

/-- The tables after a statement. -/
def LogCall.run (now : Clock) (s : Archive) : LogCall → Archive
  | foldRequestLog id latencyMs => s.foldRequestLog now id latencyMs
  | insertRequestLog row => s.insertRequestLog now row
  | pruneRequestLogs cutoff => s.pruneRequestLogs cutoff

/-! ## Calls -/

/-- A call on the store: its steps see the clock and the tables. -/
abbrev LogProg (α : Type) := Prog Clock Archive LogCall α

/-- The end of `foldRecentRequestLogError`, with what was selected. -/
def foldSelected (l : RequestLog) : Option Int → LogProg Bool
  | none => return false
  | some id => Prog.write (.foldRequestLog id l.latencyMs) (.ret true)

/-- `foldRecentRequestLogError`. -/
def foldRecentRequestLogError (l : RequestLog) : LogProg Bool := do
  let since ← Prog.look fun now _ => now.agoText day
  let recent ← Prog.look fun _ s => s.recentRequestLog l.errorFingerprint l.diagnostic
    l.statefulProbe (normalizeRequestTrafficKind l.trafficKind l.diagnostic l.statefulProbe) since
  foldSelected l recent

/-- The values of the `INSERT`. -/
def RequestLog.row (l : RequestLog) (sourceKind accountLabelSnapshot : Str) : RequestLogRow where
  id := 0
  requestID := l.requestID
  accessTokenName := l.accessTokenName
  modelRequested := l.modelRequested
  modelActual := l.modelActual
  poolID := some l.poolID
  accountID := some l.accountID
  accountLabelSnapshot := accountLabelSnapshot
  statusCode := l.statusCode
  latencyMs := l.latencyMs
  inputTokens := l.inputTokens
  outputTokens := l.outputTokens
  stream := l.stream
  requestIP := l.requestIP
  success := l.success
  errorMessage := l.errorMessage
  errorFingerprint := l.errorFingerprint
  errorRepeatCount := l.errorRepeatCount
  errorLastSeenAt := l.errorLastSeenAt
  sourceKind := sourceKind
  attemptCount := max l.attemptCount 0
  diagnostic := l.diagnostic
  forceAccount := l.forceAccount
  statefulProbe := l.statefulProbe
  trafficKind := normalizeRequestTrafficKind l.trafficKind l.diagnostic l.statefulProbe
  runtimeAuthIndex := l.runtimeAuthIndex
  runtimeAuthID := l.runtimeAuthID
  runtimeAccountKey := l.runtimeAccountKey
  runtimeBindingStatus := l.runtimeBindingStatus
  runtimeBindingReason := l.runtimeBindingReason
  routeTrace := sanitizeRequestLogError l.routeTrace

/-- `accountLabelSnapshot` of `InsertLog`. -/
def Archive.labelSnapshot (s : Archive) (l : RequestLog) : Str :=
  let label := trimSpace l.accountLabel
  if label = [] ∧ 0 < l.accountID then
    ((s.getAccount l.accountID).map fun acc => acc.label).getD label
  else label

/-- The end of `InsertLog`: the label and the `INSERT`. -/
def insertLogRow (l : RequestLog) (sourceKind : Str) : LogProg Unit := do
  let accountLabelSnapshot ← Prog.look fun _ s => s.labelSnapshot l
  Prog.write (.insertRequestLog (l.row sourceKind accountLabelSnapshot)) (.ret ())

/-- The record with its error sanitised. -/
def RequestLog.sanitized (l : RequestLog) : RequestLog :=
  { l with errorMessage := sanitizeRequestLogError l.errorMessage }

/-- `!l.Success && strings.TrimSpace(l.ErrorMessage) != ""`. -/
def RequestLog.hasError (l : RequestLog) : Bool := !l.success && !isBlank l.errorMessage

/-- The record as `InsertLog` completes it: the error sanitised, with an error the
fingerprint, and a count of at least one. -/
def RequestLog.complete (t : TextFuncs) (l : RequestLog) (sourceKind : Str) : RequestLog :=
  { l.sanitized with
    errorFingerprint :=
      if l.sanitized.hasError then requestLogErrorFingerprint t l.sanitized sourceKind
      else l.errorFingerprint
    errorRepeatCount := if l.errorRepeatCount ≤ 0 then 1 else l.errorRepeatCount }

/-- The source kind that a record is stored with. -/
def RequestLog.storedSourceKind (l : RequestLog) : Str :=
  if l.sourceKind = [] then lit "openai_compat" else l.sourceKind

/-- The record with the time of its error. -/
def RequestLog.seen (l : RequestLog) (now : Clock) : RequestLog :=
  { l with
    errorLastSeenAt := if l.errorLastSeenAt = [] then now.datetime else l.errorLastSeenAt }

section Fields

variable (t : TextFuncs) (l : RequestLog) (sourceKind : Str) (now : Clock)

@[simp] theorem diagnostic_complete : (l.complete t sourceKind).diagnostic = l.diagnostic := rfl

@[simp] theorem statefulProbe_complete :
    (l.complete t sourceKind).statefulProbe = l.statefulProbe := rfl

@[simp] theorem latencyMs_complete : (l.complete t sourceKind).latencyMs = l.latencyMs := rfl

@[simp] theorem errorFingerprint_seen : (l.seen now).errorFingerprint = l.errorFingerprint := rfl

@[simp] theorem diagnostic_seen : (l.seen now).diagnostic = l.diagnostic := rfl

@[simp] theorem statefulProbe_seen : (l.seen now).statefulProbe = l.statefulProbe := rfl

@[simp] theorem latencyMs_seen : (l.seen now).latencyMs = l.latencyMs := rfl

@[simp] theorem trafficKind_seen : (l.seen now).trafficKind = l.trafficKind := rfl

end Fields

/-- A failed request with an error: folded when it is ordinary traffic and there is
a row to fold it into. -/
def insertFailedLog (l : RequestLog) (sourceKind : Str) : LogProg Unit :=
  if l.errorFingerprint ≠ [] ∧ l.diagnostic = false ∧ l.statefulProbe = false then do
    let updated ← foldRecentRequestLogError l
    if updated then return () else insertLogRow l sourceKind
  else insertLogRow l sourceKind

/-- `InsertLog`, of a record that is complete. -/
def insertCompleteLog (l : RequestLog) (sourceKind : Str) : LogProg Unit :=
  if l.hasError then do
    let now ← Prog.look fun now _ => now
    insertFailedLog (l.seen now) sourceKind
  else insertLogRow l sourceKind

/-- `InsertLog`. -/
def insertLog (t : TextFuncs) (l : RequestLog) : LogProg Unit :=
  insertCompleteLog (l.complete t l.storedSourceKind) l.storedSourceKind

/-- `PruneDataRetention`, as far as it is about the request logs. -/
def pruneDataRetention (retentionDays : Int) : LogProg Unit := do
  if retentionDays ≤ 0 then return ()
  else
    let cutoff ← Prog.look fun now _ => now.agoText (retentionDays.toNat * day)
    Prog.write (.pruneRequestLogs cutoff) (.ret ())

end Lune.Store
