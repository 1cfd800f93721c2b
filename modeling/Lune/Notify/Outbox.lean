import Lune.Gateway.Handler
import Lune.Lib.KeyedLocks
import Lune.Lib.Runs
import Lune.Notify.Tables

/-!
# The outbox at work

`internal/notify/dispatcher.go` and `outbox.go`: any number of calls of `Dispatch` and
passes of `processDue` that run together.  A step of the system is one statement, one
operation on a lock, the start or the end of one `driver.Send`, or a move between
two of these.  What the code has in its local variables at that point is the state of
the task, so that a copy of a row that was read earlier is data of the task and may
differ from the row.

JSON, the templates and SHA-1 are parameters, and so is what the driver answers.
-/

namespace Lune.Notify

open GoText GoJson Keyed KeyedLocks Calendar TimeText Store

/-! ## Notifications -/

/-- `NotificationSource`. -/
structure NotificationSource where
  accountID : Option Int := none
  serviceID : Option Int := none
  poolID : Option Int := none

/-- `Notification`; the time is the text that `time.Time` has in JSON. -/
structure Notification where
  event : Str
  severity : Str := []
  title : Str := []
  message : Str := []
  vars : List (Str × Json) := []
  timestamp : Str := []
  source : NotificationSource := {}

/-- `RenderedMessage`. -/
structure RenderedMessage where
  title : Str
  body : Str

/-- `ChannelRuntime`; the JSON text of the configuration holds the two values. -/
structure ChannelRuntime where
  id : Int
  name : Str
  type : Str
  webhookURL : Str
  mentionMobileList : List Str
  triggered : Str
  rendered : RenderedMessage

/-- `Result`. -/
structure Result where
  ok : Bool := false
  upstreamCode : Str := []
  upstreamMessage : Str := []
  latencyMS : Int := 0

/-- What `driver.Send` returns: the result, and the text of its error. -/
structure SendReply where
  result : Result := {}
  error : Option Str := none

/-- The send went well. -/
def SendReply.succeeded (reply : SendReply) : Bool := reply.error.isNone && reply.result.ok

/-- What the notifications use of other code. -/
structure NotifyEnv where
  /-- `registry.Get(SingletonChannelType)` finds a driver. -/
  registered : Bool
  /-- `json.Marshal` of a notification. -/
  marshal : Notification → Option Str
  /-- `json.Unmarshal` into a notification, or the text of its error. -/
  unmarshal : Str → Except Str Notification
  /-- `renderTemplate`. -/
  renderTemplate : Str → Notification → Except Str Str
  /-- `sha1.Sum` in hexadecimal. -/
  sha1Hex : Str → Str

/-- The events and labels of `EventTypes`. -/
def eventLabels : List (Str × Str) :=
  [(lit "account_expiring", lit "账号即将过期"), (lit "cpa_credential_error", lit "CPA 登录态失效"),
    (lit "cpa_quota_blocked", lit "CPA 额度受限"), (lit "account_error", lit "账号不可用"),
    (lit "cpa_service_error", lit "CPA Runtime 异常"),
    (lit "cpa_import_batch", lit "CPA auth JSON 批量导入"), (lit "test", lit "测试消息")]

/-- `EventLabel`. -/
def eventLabel (event : Str) : Str :=
  ((eventLabels.find? fun item => item.1 = event).map Prod.snd).getD event

/-- `AutoTitle`. -/
def autoTitle (event : Str) : Str := lit "Lune 通知：" ++ eventLabel event

/-- `BuildDedupKey`. -/
def buildDedupKey (env : NotifyEnv) (n : Notification) : Str :=
  let source := match n.source.accountID, n.source.serviceID, n.source.poolID with
    | some id, _, _ => lit "account:" ++ itoa id
    | none, some id, _ => lit "service:" ++ itoa id
    | none, none, some id => lit "pool:" ++ itoa id
    | none, none, none => lit "global"
  env.sha1Hex (n.event ++ lit "|" ++ n.severity ++ lit "|" ++ source)

/-- `DedupBackoff`, in nanoseconds; the product may overflow. -/
def dedupBackoff (settings : GoMap Str Str) : Int :=
  let seconds := Gateway.parsePositiveInt
    ((settings.get? (lit "notification_dedup_backoff_seconds")).getD []) 3600
  ((seconds * second : Nat) : Int).bmod (2 ^ 64)

/-- `decodeNotificationPayload`. -/
def decodeNotificationPayload (env : NotifyEnv) (raw : Str) : Except Str Notification :=
  (env.unmarshal raw).mapError fun err => lit "decode outbox payload: " ++ err

/-- `RenderNotification`. -/
def renderNotification (env : NotifyEnv) (n : Notification) (titleTpl bodyTpl : Str) :
    Except Str RenderedMessage := do
  let titleTpl := if titleTpl = [] then n.title else titleTpl
  let bodyTpl := if bodyTpl = [] then n.message else bodyTpl
  let title ← (env.renderTemplate titleTpl n).mapError fun err => lit "render title: " ++ err
  let body ← (env.renderTemplate bodyTpl n).mapError fun err => lit "render body: " ++ err
  return ⟨title, body⟩

/-- `buildChannelRuntime`. -/
def buildChannelRuntime (settings : NotificationSettings) (triggered : Str)
    (rendered : RenderedMessage) : Except Str ChannelRuntime :=
  let url := trimSpace settings.webhookURL
  if url = [] then .error (lit "webhook url is empty")
  else .ok {
    id := singletonChannelID, name := singletonChannelName, type := singletonChannelName
    webhookURL := url, mentionMobileList := settings.mentionMobileList, triggered, rendered }

/-! ## Recording an attempt -/

/-- `fixedRetrySchedule`, in seconds. -/
def fixedRetrySchedule : List Nat := [30, 300, 1800]

/-- `fixedMaxAttempts`. -/
def fixedMaxAttempts : Int := 4

/-- The time of the next attempt after so many failed ones. -/
def nextAttemptText (now : Clock) (attempt : Int) : Str :=
  let waits : Int := fixedRetrySchedule.length
  let waitIndex := attempt - 1
  let waitIndex := if waitIndex < 0 then 0 else waitIndex
  let waitIndex := if waitIndex ≥ waits then waits - 1 else waitIndex
  laterText now (fixedRetrySchedule.getD waitIndex.toNat 0)

/-- The title, the summary and the text of a failure. -/
structure Failure where
  result : Result := {}
  title : Str
  payloadSummary : Str
  message : Str

/-- `fail`. -/
def NotifyTables.fail (t : NotifyTables) (now : Clock) (item : NotificationOutbox) (f : Failure) :
    Option NotifyTables :=
  let attempt := item.attempt + 1
  let message := firstNonEmpty [f.result.upstreamMessage, f.message]
  let delivery : NotificationDelivery :=
    { channelID := singletonChannelID, channelName := singletonChannelName
      channelType := singletonChannelName, event := item.event, severity := item.severity
      title := f.title, payloadSummary := f.payloadSummary
      status := if attempt ≥ fixedMaxAttempts then .dropped else .failed
      upstreamCode := f.result.upstreamCode, upstreamMessage := message
      latencyMS := f.result.latencyMS, attempt, dedupKey := item.dedupKey
      triggeredBy := lit "system" }
  if attempt ≥ fixedMaxAttempts then
    t.recordNotificationAttemptDropped now item.id delivery attempt message
  else
    t.recordNotificationAttemptRetry now item.id delivery attempt (nextAttemptText now attempt) message

/-- What `AttemptOne` has made of its copy before it takes the lock. -/
structure Prepared where
  n : Notification
  rendered : RenderedMessage
  payloadSummary : Str

/-- The end of `AttemptOne` after a send that went well. -/
def NotifyTables.succeed (t : NotifyTables) (now : Clock) (item : NotificationOutbox) (m : Prepared)
    (result : Result) : Option NotifyTables :=
  t.recordNotificationAttemptSuccess now item.id
    { channelID := singletonChannelID, channelName := singletonChannelName
      channelType := singletonChannelName, event := m.n.event, severity := m.n.severity
      title := m.rendered.title, payloadSummary := m.payloadSummary, status := .success
      upstreamCode := result.upstreamCode, upstreamMessage := result.upstreamMessage
      latencyMS := result.latencyMS, attempt := max item.attempt 1, dedupKey := item.dedupKey
      triggeredBy := lit "system" }

/-- `AttemptOne` up to the lock: the failures there, or the message to send. -/
def prepare (env : NotifyEnv) (item : NotificationOutbox) (sub : NotificationSubscription) :
    Except Failure Prepared :=
  let failure (message : Str) : Failure :=
    { title := autoTitle item.event, payloadSummary := truncateString item.payload 1024, message }
  if !env.registered then .error (failure (lit "wechat_work_bot driver is not registered"))
  else match decodeNotificationPayload env item.payload with
    | .error err => .error (failure err)
    | .ok n =>
      match renderNotification env n (autoTitle item.event) sub.bodyTemplate with
      | .error err => .error (failure (lit "render body: " ++ err))
      | .ok rendered => .ok ⟨n, rendered, truncateString rendered.body 1024⟩

/-! ## Tasks -/

/-- Where an attempt is.  A prepared message comes with the tag of the copy that it was
made from. -/
inductive Phase where
  /-- With its copy, before the lock. -/
  | begin
  | waiting (m : Prepared) (copied : Int × Int) (lk : Nat)
  | locked (m : Prepared) (copied : Int × Int) (lk : Nat)
  /-- With the row that it has read again. -/
  | current (m : Prepared) (copied : Int × Int) (lk : Nat)
  | sending (m : Prepared) (copied : Int × Int) (lk : Nat) (runtime : ChannelRuntime)
  | answered (m : Prepared) (copied : Int × Int) (lk : Nat) (reply : SendReply)
  /-- With its lock, about to return. -/
  | leaving (lk : Nat)
  | unlocked (lk : Nat)

/-- A call of `AttemptOne`. -/
structure Attempt where
  settings : NotificationSettings
  sub : NotificationSubscription
  item : OutboxRow
  phase : Phase

/-- What is left of a pass: the copies of the due rows it has not come to. -/
structure Pass where
  items : List OutboxRow
  settings : NotificationSettings
  subsByEvent : Table NotificationSubscription.event

/-- What a call of `Dispatch` is about to insert. -/
structure Request where
  n : Notification
  settings : NotificationSettings
  sub : NotificationSubscription
  backoff : Int
  dedupKey : Str
  payload : Str

/-- The row that the call inserts. -/
def Request.item (r : Request) (now : Clock) : NotificationOutbox where
  id := 0
  channelID := singletonChannelID
  event := r.n.event
  severity := r.n.severity
  payload := r.payload
  dedupKey := r.dedupKey
  status := .pending
  attempt := 0
  nextAttemptAt := now.datetime
  lastError := []

/-- The second of `time.Now().UTC().Add(-backoff)`. -/
def Request.since (r : Request) (now : Clock) : Int := (now.nanos + (-r.backoff).bmod (2 ^ 64)) / second

/-- Before which statement a call of `Dispatch` is.  With the two last ones comes how
many deliveries there were when it asked for recent ones. -/
inductive DispatchStep where
  | settings (n : Notification)
  | subscription (n : Notification) (settings : NotificationSettings)
  | systemSettings (n : Notification) (settings : NotificationSettings)
    (sub : NotificationSubscription)
  | recent (r : Request)
  | pending (r : Request) (seen : Nat)
  | insert (r : Request) (seen : Nat)

/-- Before which statement a pass is. -/
inductive PassStep where
  | list
  | settings (items : List OutboxRow)
  | subscriptions (items : List OutboxRow) (settings : NotificationSettings)
  | loop (p : Pass)

/-- A call that is running; an attempt is part of a call of `Dispatch`, or of a pass
that goes on with the rest. -/
inductive Task where
  | dispatch (step : DispatchStep)
  | pass (step : PassStep)
  | attempt (a : Attempt) (rest : Option Pass)
  | done

/-- What the tasks share. -/
structure Shared where
  now : Clock
  tables : NotifyTables
  locks : Locks Int := {}
  nextSerial : Int

/-- The tables after a statement that may have failed. -/
def Shared.commit (s : Shared) (tables : Option NotifyTables) : Shared :=
  { s with tables := tables.getD s.tables }

/-- `Dispatch` up to the insert. -/
def DispatchStep.next (env : NotifyEnv) (s : Shared) : DispatchStep → Shared × Task
  | settings n =>
    if s.tables.settings.enabled then (s, .dispatch (.subscription n s.tables.settings)) else (s, .done)
  | subscription n st =>
    match s.tables.subscriptions.find? n.event with
    | some sub => if sub.subscribed then (s, .dispatch (.systemSettings n st sub)) else (s, .done)
    | none => (s, .done)
  | systemSettings n st sub =>
    match env.marshal n with
    | some payload =>
      let backoff := dedupBackoff s.tables.systemSettings
      (s, .dispatch (.recent ⟨n, st, sub, backoff, buildDedupKey env n, payload⟩))
    | none => (s, .done)
  | recent r =>
    if s.tables.hasRecentNotificationDelivery singletonChannelID r.dedupKey (secondsText (r.since s.now)) then
      (s, .done)
    else (s, .dispatch (.pending r s.tables.deliveries.length))
  | pending r seen =>
    if s.tables.hasPendingNotificationOutbox singletonChannelID r.dedupKey then (s, .done)
    else (s, .dispatch (.insert r seen))
  | insert r _ =>
    match s.tables.insertNotificationOutbox s.now (r.item s.now) s.nextSerial with
    -- the index has refused the row
    | none => (s, .done)
    | some (tables, row) =>
      ({ s with tables, nextSerial := s.nextSerial + 1 },
        .attempt ⟨r.settings, r.sub, row, .begin⟩ none)

/-- `processDue`. -/
def PassStep.next (s : Shared) : PassStep → Shared × Task
  | list =>
    let items := s.tables.listDueNotificationOutbox s.now 100
    if items = [] then (s, .done) else (s, .pass (.settings items))
  | settings items =>
    if s.tables.settings.enabled then (s, .pass (.subscriptions items s.tables.settings))
    else (s, .done)
  | subscriptions items st => (s, .pass (.loop ⟨items, st, s.tables.subscriptions⟩))
  | loop p =>
    match p.items with
    | [] => (s, .done)
    | item :: rest =>
      let p := { p with items := rest }
      let drop := { s with tables := s.tables.deleteNotificationOutbox item.id }
      match p.subsByEvent.find? item.event with
      | none => (drop, .pass (.loop p))
      | some sub =>
        if sub.subscribed then (s, .attempt ⟨p.settings, sub, item, .begin⟩ (some p))
        else (drop, .pass (.loop p))

/-- What follows an attempt. -/
def resume : Option Pass → Task
  | none => .done
  | some p => .pass (.loop p)

/-- `AttemptOne`; `reply` is the answer of the driver when it waits for one. -/
def Attempt.next (env : NotifyEnv) (s : Shared) (reply : SendReply) (rest : Option Pass)
    (a : Attempt) : Option (Shared × Task) :=
  let goTo (phase : Phase) : Task := .attempt { a with phase } rest
  match a.phase with
  | .begin =>
    match prepare env a.item.toNotificationOutbox a.sub with
    | .error f => some (s.commit (s.tables.fail s.now a.item.toNotificationOutbox f), resume rest)
    | .ok m =>
      let (locks, lk) := s.locks.acquire a.item.id
      some ({ s with locks }, goTo (.waiting m a.item.tag lk))
  | .waiting m copied lk =>
    (s.locks.lock lk).map fun locks => ({ s with locks }, goTo (.locked m copied lk))
  | .locked m copied lk =>
    match s.tables.outbox.get? a.item.id with
    | some item =>
      if item.isActive then some (s, .attempt { a with item, phase := .current m copied lk } rest)
      else some (s, goTo (.leaving lk))
    | none => some (s, goTo (.leaving lk))
  | .current m copied lk =>
    match buildChannelRuntime a.settings (lit "system") m.rendered with
    | .error message =>
      let f : Failure := { title := m.rendered.title, payloadSummary := m.payloadSummary, message }
      some (s.commit (s.tables.fail s.now a.item.toNotificationOutbox f), goTo (.leaving lk))
    | .ok runtime => some (s, goTo (.sending m copied lk runtime))
  | .sending m copied lk _ => some (s, goTo (.answered m copied lk reply))
  | .answered m _ lk reply =>
    if reply.succeeded then
      some (s.commit (s.tables.succeed s.now a.item.toNotificationOutbox m reply.result),
        goTo (.leaving lk))
    else
      let message := firstNonEmpty [reply.result.upstreamMessage, reply.error.getD []]
      let f : Failure := ⟨reply.result, m.rendered.title, m.payloadSummary, message⟩
      some (s.commit (s.tables.fail s.now a.item.toNotificationOutbox f), goTo (.leaving lk))
  | .leaving lk => some ({ s with locks := s.locks.unlock lk }, goTo (.unlocked lk))
  | .unlocked lk => some ({ s with locks := s.locks.release a.item.id lk }, resume rest)

/-- The next step of a task. -/
def Task.next (env : NotifyEnv) (s : Shared) (reply : SendReply) : Task → Option (Shared × Task)
  | dispatch step => some (step.next env s)
  | pass step => some (step.next s)
  | attempt a rest => a.next env s reply rest
  | done => none

/-! ## The system -/

/-- The shared state and the calls. -/
structure System extends Shared where
  tasks : List Task := []

inductive Event where
  /-- A call of `Dispatch` begins. -/
  | dispatch (n : Notification)
  /-- A pass of `processDue` begins. -/
  | processDue
  /-- A task makes its next step. -/
  | advance (i : Nat) (reply : SendReply)
  /-- Time passes. -/
  | tick (now : Clock)
  /-- The settings and the subscriptions are changed. -/
  | configure (settings : NotificationSettings)
    (subscriptions : Table NotificationSubscription.event) (systemSettings : GoMap Str Str)

/-- One step. -/
def System.step (env : NotifyEnv) (s : System) : Event → Option System
  | .dispatch n => some { s with tasks := s.tasks ++ [.dispatch (.settings n)] }
  | .processDue => some { s with tasks := s.tasks ++ [.pass .list] }
  | .advance i reply =>
    (s.tasks[i]?).bind fun task => (task.next env s.toShared reply).map fun (shared, task) =>
      { shared with tasks := s.tasks.set i task }
  | .tick now => if s.now.nanos ≤ now.nanos then some { s with now } else none
  | .configure settings subscriptions systemSettings =>
    some { s with tables := { s.tables with settings, subscriptions, systemSettings } }

/-- The task that makes the step, if one does. -/
def System.acting (s : System) : Event → Option Task
  | .advance i _ => s.tasks[i]?
  | _ => none

/-- Nothing runs, and the rows in the outbox count as the first insertions. -/
structure System.Start (s : System) : Prop where
  tasks : s.tasks = []
  locks : s.locks = {}
  serial : ∀ r ∈ s.tables.outbox.rows, r.serial = r.id ∧ r.id < s.nextSerial

end Lune.Notify
