import Lune.Lib.GoJson
import Lune.Store.PoolTokens
import Lune.Store.RequestLogs

/-!
# The tables of the notifications

`internal/store/notifications.go`: the settings, the subscriptions, the outbox and
the deliveries, with the statements that the outbox runs on them.  A row of the
outbox carries the number of its insertion, which the code does not have: rows that
get the number of a deleted row are told apart by it.

The index `idx_notification_outbox_active_unique` is a field of the outbox, and a
change that would break it is refused.
-/

namespace Lune.Notify

open GoText GoJson Keyed Calendar TimeText Store

/-! ## Helpers -/

/-- How many characters there are; the first `copy` bytes are the rest of one. -/
def runeCount (copy : Nat) : Str → Nat
  | [] => 0
  | b :: rest =>
    match copy with
    | copy + 1 => runeCount copy rest
    | 0 => runeCount ((runeTail b rest).getD 0) rest + 1

/-- The first `limit` characters, where a byte that belongs to none is replaced. -/
def takeRunes (limit copy : Nat) : Str → Str
  | [] => []
  | b :: rest =>
    match copy, limit with
    | copy + 1, limit => b :: takeRunes limit copy rest
    | 0, 0 => []
    | 0, limit + 1 =>
      match runeTail b rest with
      | some tail => b :: takeRunes limit tail rest
      | none => replacement ++ takeRunes limit 0 rest

/-- `truncateString`. -/
def truncateString (value : Str) (limit : Nat) : Str :=
  if limit = 0 ∨ runeCount 0 value ≤ limit then value else takeRunes limit 0 value

/-- `firstNonEmpty`. -/
def firstNonEmpty (values : List Str) : Str := (values.find? fun value => !isBlank value).getD []

/-- `time.Now().UTC().Add(d).Format("2006-01-02 15:04:05")` for a `d` of whole seconds,
less than a day. -/
def laterText (clock : Clock) (seconds : Nat) : Str :=
  if clock.seconds + seconds < maxSeconds then datetimeText (fieldsOf (clock.seconds + seconds))
  else lit "10000-01-01 " ++ clockText (fieldsOf (clock.seconds + seconds - maxSeconds))

/-- `Format("2006-01-02 15:04:05")` of so many seconds from the start of the year 0, for the
292 years before and after the clock that a `time.Duration` spans. -/
def secondsText (s : Int) : Str :=
  if s < 0 then beforeZeroText (-s).toNat
  else if s < maxSeconds then datetimeText (fieldsOf s.toNat)
  else
    let t := fieldsOf (s.toNat - 86400 * 146097)
    digits (t.year + 400) ++ (datetimeText t).drop 4

/-! ## Rows -/

/-- `store.NotificationSettings`. -/
structure NotificationSettings where
  enabled : Bool := false
  webhookURL : Str := []
  mentionMobileList : List Str := []

/-- `store.NotificationSubscription`. -/
structure NotificationSubscription where
  event : Str
  subscribed : Bool := true
  bodyTemplate : Str := []

inductive OutboxStatus where
  | pending
  | retrying
  | dropped
  deriving DecidableEq

inductive DeliveryStatus where
  | success
  | failed
  | dropped
  deriving DecidableEq

/-- `store.NotificationOutbox`. -/
structure NotificationOutbox where
  id : Int
  channelID : Int
  event : Str
  severity : Str
  payload : Str
  dedupKey : Str
  status : OutboxStatus
  attempt : Int
  nextAttemptAt : Str
  lastError : Str
  deriving DecidableEq

/-- `status IN ('pending', 'retrying')`. -/
def NotificationOutbox.isActive (item : NotificationOutbox) : Bool :=
  item.status = .pending ∨ item.status = .retrying

/-- A row of the outbox, and which insertion made it. -/
structure OutboxRow extends NotificationOutbox where
  serial : Int
  deriving DecidableEq

/-- What tells the notification of a row from every other. -/
def OutboxRow.tag (row : OutboxRow) : Int × Int := (row.id, row.serial)

/-- `store.NotificationDelivery`. -/
structure NotificationDelivery where
  channelID : Int
  channelName : Str
  channelType : Str
  event : Str
  severity : Str
  title : Str
  payloadSummary : Str
  status : DeliveryStatus
  upstreamCode : Str
  upstreamMessage : Str
  latencyMS : Int
  attempt : Int
  dedupKey : Str
  triggeredBy : Str
  createdAt : Str := []

/-- `SingletonChannelID`. -/
def singletonChannelID : Int := 1

/-- `SingletonChannelName` and `SingletonChannelType`. -/
def singletonChannelName : Str := lit "wechat_work_bot"

/-! ## The outbox -/

/-- The keys of the rows that wait for a delivery, as the partial index has them. -/
def activeKeys (rows : List OutboxRow) : List Str :=
  (rows.filter fun r => r.isActive).map fun r => r.dedupKey

/-- The outbox with its unique index. -/
structure Outbox where
  table : Table fun r : OutboxRow => r.id
  unique : (activeKeys table.rows).Nodup

/-- The table, unless the index forbids it. -/
def Outbox.ofTable? (table : Table fun r : OutboxRow => r.id) : Option Outbox :=
  if h : (activeKeys table.rows).Nodup then some ⟨table, h⟩ else none

theorem Outbox.table_of_ofTable? {table : Table fun r : OutboxRow => r.id} {o : Outbox}
    (h : Outbox.ofTable? table = some o) : o.table = table := by
  unfold Outbox.ofTable? at h
  split at h
  · rw [← Option.some.inj h]
  · contradiction

namespace Outbox

def rows (o : Outbox) : List OutboxRow := o.table.rows

/-- `GetNotificationOutbox`. -/
def get? (o : Outbox) (id : Int) : Option OutboxRow := o.table.find? id

/-- `DELETE FROM notification_outbox WHERE id = ?`. -/
def delete (o : Outbox) (id : Int) : Outbox where
  table := o.table.erase id
  unique := o.unique.sublist ((List.filter_sublist.filter _).map _)

/-- `UPDATE notification_outbox SET … WHERE id = ?`. -/
def update (o : Outbox) (id : Int) (f : NotificationOutbox → NotificationOutbox) : Option Outbox :=
  ofTable? (o.table.modify id fun r => { r with toNotificationOutbox := f r.toNotificationOutbox })

/-- `INSERT INTO notification_outbox`: the row gets the next number. -/
def insert (o : Outbox) (item : NotificationOutbox) (serial : Int) : Option (Outbox × OutboxRow) :=
  let row : OutboxRow := { item with id := nextRowid o.table, serial }
  (ofTable? (o.table.set row)).map fun o => (o, row)

instance : Inhabited Outbox := ⟨⟨Table.empty, List.nodup_nil⟩⟩

end Outbox

/-! ## Statements -/

/-- The tables that the notifications use. -/
structure NotifyTables where
  settings : NotificationSettings := {}
  subscriptions : Table NotificationSubscription.event := Table.empty
  systemSettings : GoMap Str Str := Table.empty
  outbox : Outbox := default
  deliveries : List NotificationDelivery := []

namespace NotifyTables

/-- The order of `ListDueNotificationOutbox`. -/
def dueLe (r r' : OutboxRow) : Prop :=
  r.nextAttemptAt < r'.nextAttemptAt ∨ r.nextAttemptAt = r'.nextAttemptAt ∧ r.id ≤ r'.id

instance (r r' : OutboxRow) : Decidable (dueLe r r') := inferInstanceAs (Decidable (_ ∨ _ ∧ _))

/-- `ListDueNotificationOutbox`. -/
def listDueNotificationOutbox (t : NotifyTables) (now : Clock) (limit : Nat) : List OutboxRow :=
  ((t.outbox.rows.filter fun r => r.isActive && decide (r.nextAttemptAt ≤ now.datetime)).insertionSort
    dueLe).take limit

/-- `HasPendingNotificationOutbox`. -/
def hasPendingNotificationOutbox (t : NotifyTables) (channelID : Int) (dedupKey : Str) : Bool :=
  t.outbox.rows.any fun r => r.channelID == channelID && r.dedupKey == dedupKey && r.isActive

/-- `HasRecentNotificationDelivery`; every status is one of those it asks for. -/
def hasRecentNotificationDelivery (t : NotifyTables) (channelID : Int) (dedupKey since : Str) : Bool :=
  t.deliveries.any fun d =>
    d.channelID == channelID && d.dedupKey == dedupKey && decide (since ≤ d.createdAt)

/-- `InsertNotificationOutbox`, with the row that it adds. -/
def insertNotificationOutbox (t : NotifyTables) (now : Clock) (item : NotificationOutbox)
    (serial : Int) : Option (NotifyTables × OutboxRow) :=
  let item := { item with
    channelID := if item.channelID = 0 then singletonChannelID else item.channelID
    nextAttemptAt := if isBlank item.nextAttemptAt then now.datetime else item.nextAttemptAt }
  (t.outbox.insert item serial).map fun (o, row) => ({ t with outbox := o }, row)

/-- `DeleteNotificationOutbox`. -/
def deleteNotificationOutbox (t : NotifyTables) (id : Int) : NotifyTables :=
  { t with outbox := t.outbox.delete id }

/-- `INSERT INTO notification_deliveries`. -/
def insertDelivery (t : NotifyTables) (now : Clock) (d : NotificationDelivery) : NotifyTables :=
  let d := { d with
    channelID := if d.channelID = 0 then singletonChannelID else d.channelID
    channelName := if isBlank d.channelName then singletonChannelName else d.channelName
    channelType := if isBlank d.channelType then singletonChannelName else d.channelType
    createdAt := now.datetime }
  { t with deliveries := t.deliveries ++ [d] }

/-- `RecordNotificationAttemptRetry`. -/
def recordNotificationAttemptRetry (t : NotifyTables) (now : Clock) (outboxID : Int)
    (delivery : NotificationDelivery) (attempt : Int) (nextAttemptAt lastError : Str) :
    Option NotifyTables :=
  (t.outbox.update outboxID fun r => { r with status := .retrying, attempt, nextAttemptAt, lastError }).map
    fun o => { t.insertDelivery now delivery with outbox := o }

/-- `RecordNotificationAttemptDropped`. -/
def recordNotificationAttemptDropped (t : NotifyTables) (now : Clock) (outboxID : Int)
    (delivery : NotificationDelivery) (attempt : Int) (lastError : Str) : Option NotifyTables :=
  (t.outbox.update outboxID fun r => { r with status := .dropped, attempt, lastError }).map
    fun o => { t.insertDelivery now delivery with outbox := o }

/-- `RecordNotificationAttemptSuccess`; it fails without the row. -/
def recordNotificationAttemptSuccess (t : NotifyTables) (now : Clock) (outboxID : Int)
    (delivery : NotificationDelivery) : Option NotifyTables :=
  if (t.outbox.get? outboxID).isSome then
    some { t.insertDelivery now delivery with outbox := t.outbox.delete outboxID }
  else none

end NotifyTables

end Lune.Notify
