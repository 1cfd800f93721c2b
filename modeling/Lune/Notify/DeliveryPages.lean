import Lune.Lib.GoFloat
import Lune.Lib.Keyset
import Lune.Lib.Runs
import Lune.Notify.Tables
import Lune.Store.Retention

/-!
# The delivery history, page by page

`listNotificationDeliveries` of `internal/admin/notifications.go` and
`ListNotificationDeliveries` of `internal/store/notifications.go`.  A page ends at a row, and
the request for the next one names that row by its time and its number, since several rows may
be of one second.  Between two requests deliveries are recorded, with whatever time the clock
has then, and old ones are pruned.
-/

namespace Lune.Notify

open GoText Keyed Calendar TimeText Keyset Store

/-! ## The table -/

/-- A row of `notification_deliveries`. -/
structure StoredDelivery extends NotificationDelivery where
  id : Int

/-- `notification_deliveries`. -/
abbrev DeliveryTable := Table StoredDelivery.id

/-- The text of a status. -/
def DeliveryStatus.text : DeliveryStatus → Str
  | .success => lit "success"
  | .failed => lit "failed"
  | .dropped => lit "dropped"

namespace DeliveryTable

/-- `CreateNotificationDelivery`. -/
def create (t : DeliveryTable) (now : Clock) (d : NotificationDelivery) : DeliveryTable :=
  t.set
    { d with
      id := nextRowid t
      channelID := if d.channelID = 0 then singletonChannelID else d.channelID
      channelName := if isBlank d.channelName then singletonChannelName else d.channelName
      channelType := if isBlank d.channelType then singletonChannelName else d.channelType
      createdAt := now.datetime }

/-- What `PruneNotificationHistory` deletes here. -/
def prune (t : DeliveryTable) (now : Clock) (retentionDays : Int) : DeliveryTable :=
  if retentionDays ≤ 0 then t
  else t.filter fun r => !decide (r.createdAt < Retention.cutoff now retentionDays)

end DeliveryTable

/-! ## A page -/

/-- `NotificationDeliveryFilter`. -/
structure NotificationDeliveryFilter where
  channelID : Int := 0
  event : Str := []
  status : Str := []
  triggeredBy : Str := []
  limit : Int := 0
  before : Str := []
  beforeID : Int := 0

/-- `ValidateNotificationDeliveryCursor`. -/
def validateNotificationDeliveryCursor (value : Str) : Except Str Unit :=
  if isBlank value then .ok ()
  else if (parse spaced value).isSome then .ok ()
  else .error (lit "invalid before cursor")

namespace NotificationDeliveryFilter

/-- The conditions on the columns of a row. -/
def selects (f : NotificationDeliveryFilter) (r : StoredDelivery) : Bool :=
  (!decide (0 < f.channelID) || r.channelID == f.channelID) &&
  (f.event == [] || r.event == f.event) &&
  (f.status == [] || r.status.text == f.status) &&
  (f.triggeredBy == [] || r.triggeredBy == f.triggeredBy)

/-- The condition on the place of a row. -/
def continues (f : NotificationDeliveryFilter) (r : StoredDelivery) : Bool :=
  if f.before = [] then true
  else if 0 < f.beforeID then
    decide (r.createdAt < f.before) || (r.createdAt == f.before && decide (r.id < f.beforeID))
  else decide (r.createdAt < f.before)

/-- The rows that are returned at most. -/
def clampedLimit (f : NotificationDeliveryFilter) : Nat :=
  let limit := if f.limit ≤ 0 then 50 else f.limit
  (if 200 < limit then 200 else limit).toNat

end NotificationDeliveryFilter

/-- `ORDER BY created_at DESC, id DESC`. -/
def newestDeliveryFirst (r r' : StoredDelivery) : Prop :=
  r'.createdAt < r.createdAt ∨ r.createdAt = r'.createdAt ∧ r'.id ≤ r.id

instance (r r' : StoredDelivery) : Decidable (newestDeliveryFirst r r') :=
  inferInstanceAs (Decidable (_ ∨ _ ∧ _))

/-- `ListNotificationDeliveries`. -/
def listNotificationDeliveries (t : DeliveryTable) (f : NotificationDeliveryFilter) :
    Except Str (List StoredDelivery) := do
  if f.before ≠ [] then validateNotificationDeliveryCursor f.before
  return ((t.rows.filter fun r => f.selects r && f.continues r).insertionSort
    newestDeliveryFirst).take f.clampedLimit

/-- The parameters of a request; one that is not there is empty. -/
structure DeliveryQuery where
  channelID : Str := []
  event : Str := []
  status : Str := []
  triggeredBy : Str := []
  limit : Str := []
  before : Str := []
  beforeID : Str := []

/-- The filter that the handler reads off the request. -/
def DeliveryQuery.filter (q : DeliveryQuery) : NotificationDeliveryFilter where
  channelID := (atoi (trimSpace q.channelID)).getD 0
  event := trimSpace q.event
  status := trimSpace q.status
  triggeredBy := trimSpace q.triggeredBy
  limit := ((atoi (trimSpace q.limit)).filter (0 < ·)).getD 50
  before := trimSpace q.before
  beforeID := (atoi (trimSpace q.beforeID)).getD 0

/-- The handler `listNotificationDeliveries`: the page, or the text of a `bad_request`. -/
def handleListNotificationDeliveries (t : DeliveryTable) (q : DeliveryQuery) :
    Except Str (List StoredDelivery) := do
  validateNotificationDeliveryCursor q.filter.before
  listNotificationDeliveries t q.filter

/-! ## The reader -/

/-- The request for the page after a row. -/
def DeliveryQuery.next (q : DeliveryQuery) : Option (Str × Int) → DeliveryQuery
  | none => { q with before := [], beforeID := [] }
  | some (createdAt, id) => { q with before := createdAt, beforeID := itoa id }

/-- The deliveries, and what a reader of them has got. -/
structure DeliveryReading where
  table : DeliveryTable := Table.empty
  reader : Reader StoredDelivery (Str × Int) := {}

inductive DeliveryEvent where
  | create (now : Clock) (d : NotificationDelivery)
  | prune (now : Clock) (retentionDays : Int)
  | turn

/-- The order of the deliveries in the answers. -/
def deliveryOrder : Order StoredDelivery (Str × Int) where
  le := newestDeliveryFirst
  decidableLE := inferInstance
  cursor r := (r.createdAt, r.id)
  after c r := decide (r.createdAt < c.1) || (r.createdAt == c.1 && decide (r.id < c.2))
  trans := by
    intro x y z hxy hyz
    obtain hxy | ⟨hxy, hid⟩ := hxy <;> obtain hyz | ⟨hyz, hid'⟩ := hyz
    · exact .inl (List.lt_trans hyz hxy)
    · exact .inl (hyz ▸ hxy)
    · exact .inl (hxy ▸ hyz)
    · exact .inr ⟨hxy.trans hyz, hid'.trans hid⟩
  total := by
    intro x y
    by_cases hxy : y.createdAt < x.createdAt
    · exact .inl (.inl hxy)
    · by_cases hyx : x.createdAt < y.createdAt
      · exact .inr (.inl hyx)
      · have heq : x.createdAt = y.createdAt :=
          List.le_antisymm (List.not_lt.mp hxy) (List.not_lt.mp hyx)
        exact (Int.le_total y.id x.id).imp (fun h => .inr ⟨heq, h⟩) fun h => .inr ⟨heq.symm, h⟩
  after_iff := by
    intro x y
    simp only [newestDeliveryFirst, Bool.or_eq_true, Bool.and_eq_true, decide_eq_true_eq,
      beq_iff_eq, not_or, not_and]
    constructor
    · rintro (hlt | ⟨heq, hid⟩)
      · refine ⟨fun hlt' => List.lt_irrefl _ (List.lt_trans hlt hlt'), fun heq => ?_⟩
        rw [heq] at hlt
        exact absurd hlt (List.lt_irrefl _)
      · refine ⟨fun hlt => ?_, fun _ => by omega⟩
        rw [heq] at hlt
        exact absurd hlt (List.lt_irrefl _)
    · rintro ⟨hlt, hid⟩
      by_cases hyx : y.createdAt < x.createdAt
      · exact .inl hyx
      · have heq : y.createdAt = x.createdAt :=
          List.le_antisymm (List.not_lt.mp hlt) (List.not_lt.mp hyx)
        exact .inr ⟨heq, by have := hid heq; omega⟩

namespace DeliveryReading

/-- What happens next.  A reader that has got a short page asks for no more, and one that was
refused a page has none. -/
def step (q : DeliveryQuery) (s : DeliveryReading) : DeliveryEvent → Option DeliveryReading
  | .create now d =>
    -- at the end of the 64 bits SQLite looks for a number that is free
    if nextRowid s.table < 2 ^ 63 then some { s with table := s.table.create now d } else none
  | .prune now retentionDays => some { s with table := s.table.prune now retentionDays }
  | .turn =>
    if s.reader.complete then none
    else
      match handleListNotificationDeliveries s.table (q.next s.reader.cursor) with
      | .error _ => none
      | .ok page => some { s with reader := s.reader.turn deliveryOrder q.filter.clampedLimit page }

end DeliveryReading

/-! ## What a request returns -/

/-- Times as the clock writes them, and numbers that a request can name. -/
def DeliveryTable.Sound (t : DeliveryTable) : Prop :=
  ∀ r ∈ t.rows, (∃ now : Clock, r.createdAt = now.datetime) ∧ 0 < r.id ∧ r.id < 2 ^ 63

theorem nextRowid_pos {t : DeliveryTable} (ht : t.Sound) : 0 < nextRowid t := by
  unfold nextRowid
  split
  · decide
  next highest hmax =>
    obtain ⟨r, hr, rfl⟩ := List.mem_map.mp (List.max?_mem hmax)
    have := (ht r hr).2.1
    omega

theorem sound_create {t : DeliveryTable} (ht : t.Sound) (now : Clock) (d : NotificationDelivery)
    (hid : nextRowid t < 2 ^ 63) : (t.create now d).Sound := by
  intro r hr
  obtain hold | hnew := List.mem_append.mp hr
  · exact ht r (List.mem_of_mem_filter hold)
  · obtain rfl := List.mem_singleton.mp hnew
    exact ⟨⟨now, rfl⟩, nextRowid_pos ht, hid⟩

theorem sound_prune {t : DeliveryTable} (ht : t.Sound) (now : Clock) (retentionDays : Int) :
    (t.prune now retentionDays).Sound := by
  unfold DeliveryTable.prune
  split
  · exact ht
  · exact fun r hr => ht r (List.mem_of_mem_filter hr)

/-- The rows of one table are at different places. -/
theorem distinct_deliveries (t : DeliveryTable) (p : StoredDelivery → Bool) :
    deliveryOrder.Distinct (t.rows.filter p) := by
  have hids : t.rows.Pairwise fun x y => x.id ≠ y.id := List.pairwise_map.mp t.nodup
  refine List.Pairwise.filter p (hids.imp fun {x y} hne hxy hyx => ?_)
  obtain hxy | ⟨heq, hid⟩ := hxy <;> obtain hyx | ⟨heq', hid'⟩ := hyx
  · exact List.lt_irrefl _ (List.lt_trans hxy hyx)
  · rw [heq'] at hxy
    exact List.lt_irrefl _ hxy
  · rw [heq] at hyx
    exact List.lt_irrefl _ hyx
  · exact hne (by omega)

theorem datetime_cursor (now : Clock) : trimSpace now.datetime = now.datetime ∧
    now.datetime ≠ [] ∧ validateNotificationDeliveryCursor now.datetime = .ok () := by
  have hne : now.datetime ≠ [] := by
    intro hnil
    have hparse := parse_datetimeText (fieldsOf_valid now.seconds_lt)
    rw [show datetimeText (fieldsOf now.seconds) = [] from hnil] at hparse
    contradiction
  refine ⟨trimSpace_datetimeText _, hne, ?_⟩
  unfold validateNotificationDeliveryCursor
  have hparse : (parse spaced now.datetime).isSome = true :=
    Option.isSome_of_eq_some (parse_datetimeText (fieldsOf_valid now.seconds_lt))
  rw [if_pos hparse, ite_self]

/-- The filter of a request without its place. -/
theorem filter_next (q : DeliveryQuery) (c : Option (Str × Int)) :
    (q.next c).filter.selects = q.filter.selects ∧
      (q.next c).filter.clampedLimit = q.filter.clampedLimit := by
  cases c with
  | none => exact ⟨rfl, rfl⟩
  | some c => exact ⟨rfl, rfl⟩

/-- A cursor that a listed row has left. -/
def CursorSound (c : Option (Str × Int)) : Prop :=
  ∀ createdAt id, c = some (createdAt, id) →
    (∃ now : Clock, createdAt = now.datetime) ∧ 0 < id ∧ id < 2 ^ 63

theorem continues_next (q : DeliveryQuery) {c : Option (Str × Int)} (hc : CursorSound c)
    (r : StoredDelivery) :
    (q.next c).filter.continues r = c.all (deliveryOrder.after · r) := by
  cases c with
  | none => rfl
  | some c =>
    obtain ⟨createdAt, id⟩ := c
    obtain ⟨⟨now, rfl⟩, hpos, hlt⟩ := hc createdAt id rfl
    have hbefore : (q.next (some (now.datetime, id))).filter.before = now.datetime :=
      (datetime_cursor now).1
    have hid : (q.next (some (now.datetime, id))).filter.beforeID = id := by
      show (atoi (trimSpace (itoa id))).getD 0 = id
      rw [GoFloat.trimSpace_itoa, atoi_itoa (by omega) hlt]
      rfl
    unfold NotificationDeliveryFilter.continues
    rw [hbefore, hid, if_neg (datetime_cursor now).2.1, if_pos hpos]
    rfl

/-- A request is answered with the next page of the rows that its filter selects. -/
theorem handle_next (t : DeliveryTable) (q : DeliveryQuery) {c : Option (Str × Int)}
    (hc : CursorSound c) :
    handleListNotificationDeliveries t (q.next c) =
      .ok (deliveryOrder.page q.filter.clampedLimit c (t.rows.filter q.filter.selects)) := by
  have hvalid : validateNotificationDeliveryCursor (q.next c).filter.before = .ok () := by
    cases c with
    | none => rfl
    | some c =>
      obtain ⟨⟨now, hnow⟩, -, -⟩ := hc c.1 c.2 rfl
      show validateNotificationDeliveryCursor (trimSpace c.1) = .ok ()
      rw [hnow, (datetime_cursor now).1]
      exact (datetime_cursor now).2.2
  have hrows : (t.rows.filter fun r => (q.next c).filter.selects r && (q.next c).filter.continues r) =
      (t.rows.filter q.filter.selects).filter fun r => c.all (deliveryOrder.after · r) := by
    rw [List.filter_filter]
    refine List.filter_congr fun r _ => ?_
    rw [(filter_next q c).1, continues_next q hc, Bool.and_comm]
  unfold handleListNotificationDeliveries listNotificationDeliveries
  rw [hvalid, hrows, (filter_next q c).2]
  split <;> rfl

theorem clampedLimit_pos (q : DeliveryQuery) : 0 < q.filter.clampedLimit := by
  unfold NotificationDeliveryFilter.clampedLimit
  dsimp only
  split <;> split <;> omega

/-! ## The whole reading -/

namespace DeliveryReading

variable {q : DeliveryQuery} {s s' : DeliveryReading} {turns : Nat}

/-- What holds of a reading after so many pages. -/
structure Sound (q : DeliveryQuery) (turns : Nat) (s : DeliveryReading) : Prop where
  table : s.table.Sound
  reader : s.reader.Sound deliveryOrder
  cursor : CursorSound s.reader.cursor
  selected : ∀ r ∈ s.reader.listed, q.filter.selects r = true
  /-- Every page but the last is full. -/
  full : s.reader.complete = false → s.reader.listed.length = turns * q.filter.clampedLimit

theorem sound_start {t : DeliveryTable} (ht : t.Sound) (q : DeliveryQuery) :
    Sound q 0 { table := t } where
  table := ht
  reader := Reader.sound_start deliveryOrder
  cursor := fun _ _ h => by contradiction
  selected := fun _ h => absurd h List.not_mem_nil
  full := fun _ => (Nat.zero_mul _).symm

/-- The page that the reader gets. -/
def nextPage (q : DeliveryQuery) (s : DeliveryReading) : List StoredDelivery :=
  deliveryOrder.page q.filter.clampedLimit s.reader.cursor (s.table.rows.filter q.filter.selects)

/-- A reader that is not through is never refused. -/
theorem step_turn (h : Sound q turns s) (hopen : s.reader.complete = false) :
    s.step q .turn =
      some { s with
        reader := s.reader.turn deliveryOrder q.filter.clampedLimit (s.nextPage q) } := by
  rw [step, if_neg (by rw [hopen]; exact Bool.false_ne_true), handle_next _ _ h.cursor]
  rfl

theorem turn_sound (h : Sound q turns s) (hopen : s.reader.complete = false) :
    Sound q (turns + 1)
      { s with
        reader := s.reader.turn deliveryOrder q.filter.clampedLimit (s.nextPage q) } where
  table := h.table
  reader := Reader.turn_sound h.reader (distinct_deliveries s.table _)
  cursor := by
    intro createdAt id hc
    cases hlast : (s.nextPage q).getLast? with
    | none =>
      simp only [Reader.turn, hlast] at hc
      exact h.cursor createdAt id hc
    | some last =>
      simp only [Reader.turn, hlast] at hc
      obtain ⟨rfl, rfl⟩ := Prod.mk.inj (Option.some.inj hc)
      have hmem := (Order.mem_page (List.mem_of_getLast? hlast)).1
      exact h.table last (List.mem_of_mem_filter hmem)
  selected := by
    intro r hr
    obtain hold | hnew := List.mem_append.mp hr
    · exact h.selected r hold
    · exact (List.mem_filter.mp (Order.mem_page hnew).1).2
  full := by
    intro hfull
    have hle : (s.nextPage q).length ≤ q.filter.clampedLimit := List.length_take_le _ _
    have hge : ¬ (s.nextPage q).length < q.filter.clampedLimit := of_decide_eq_false hfull
    show (s.reader.listed ++ s.nextPage q).length = _
    rw [List.length_append, h.full hopen, Nat.add_mul]
    omega

/-- The pages that are asked for. -/
def turnsOf (es : List DeliveryEvent) : Nat :=
  es.countP fun e => match e with | .turn => true | _ => false

theorem step_sound {e : DeliveryEvent} (h : Sound q turns s) (hs : s.step q e = some s') :
    Sound q (turns + turnsOf [e]) s' := by
  cases e with
  | create now d =>
    obtain ⟨hid, hs⟩ := Option.ite_none_right_eq_some.mp hs
    obtain rfl := Option.some.inj hs
    exact { h with table := sound_create h.table now d hid }
  | prune now retentionDays =>
    obtain rfl := Option.some.inj hs
    exact { h with table := sound_prune h.table now retentionDays }
  | turn =>
    cases hopen : s.reader.complete with
    | true =>
      rw [step, if_pos hopen] at hs
      contradiction
    | false =>
      rw [step_turn h hopen] at hs
      obtain rfl := Option.some.inj hs
      exact turn_sound h hopen

theorem run_sound {t : DeliveryTable} (ht : t.Sound) {es : List DeliveryEvent}
    (h : Runs.exec (step q) { table := t } es = some s) : Sound q (turnsOf es) s := by
  refine Runs.exec_invariant (P := fun es s => Sound q (turnsOf es) s) (sound_start ht q) ?_ h
  intro es u e v hu hv
  rw [turnsOf, List.countP_append]
  exact step_sound hu hv

/-- A delivery that is there before each of the events is listed or still to come. -/
theorem run_covers {t : DeliveryTable} (ht : t.Sound) {r : StoredDelivery}
    (hselected : q.filter.selects r = true) {es : List DeliveryEvent}
    (halong : Runs.Along (step q) (fun s _ => r ∈ s.table.rows) { table := t } es)
    (h : Runs.exec (step q) { table := t } es = some s) :
    s.reader.Covers deliveryOrder r := by
  refine (Runs.exec_along (I := fun s => (∃ n, Sound q n s) ∧ s.reader.Covers deliveryOrder r) h
    halong ⟨⟨0, sound_start ht q⟩, Reader.covers_start _ _⟩ ?_).2
  rintro u e v ⟨⟨n, hu⟩, hcovers⟩ hr hv
  refine ⟨⟨_, step_sound hu hv⟩, ?_⟩
  cases e with
  | create now d =>
    obtain ⟨-, hv⟩ := Option.ite_none_right_eq_some.mp hv
    obtain rfl := Option.some.inj hv
    exact hcovers
  | prune now retentionDays =>
    obtain rfl := Option.some.inj hv
    exact hcovers
  | turn =>
    cases hopen : u.reader.complete with
    | true =>
      rw [step, if_pos hopen] at hv
      contradiction
    | false =>
      rw [step_turn hu hopen] at hv
      obtain rfl := Option.some.inj hv
      exact Reader.turn_covers hcovers (distinct_deliveries u.table _)
        (List.mem_filter.mpr ⟨hr, hselected⟩)

/-- What a reading of the deliveries comes to. -/
structure Faithful (q : DeliveryQuery) (es : List DeliveryEvent) (t : DeliveryTable)
    (s : DeliveryReading) : Prop where
  /-- A page is there for the asking until a short one has come. -/
  answered : s.reader.complete = false → (s.step q .turn).isSome = true
  full : s.reader.complete = false →
    s.reader.listed.length = turnsOf es * q.filter.clampedLimit
  nodup : s.reader.listed.Nodup
  newestFirst : s.reader.listed.Pairwise newestDeliveryFirst
  selected : ∀ r ∈ s.reader.listed, q.filter.selects r = true
  /-- Nothing that was there from the first page to the last is missing. -/
  complete : s.reader.complete = true → ∀ r, q.filter.selects r = true →
    Runs.Along (step q) (fun s _ => r ∈ s.table.rows) { table := t } es → r ∈ s.reader.listed

theorem deliveries_read {t : DeliveryTable} (ht : t.Sound) {es : List DeliveryEvent}
    (h : Runs.exec (step q) { table := t } es = some s) : Faithful q es t s := by
  have hs := run_sound ht h
  exact
    { answered := fun hopen => by rw [step_turn hs hopen]; rfl
      full := hs.full
      nodup := hs.reader.nodup
      newestFirst := hs.reader.sorted.imp Order.le_of_after
      selected := hs.selected
      complete := fun hcomplete r hselected halong =>
        Reader.listed_of_complete (run_covers ht hselected halong h) hcomplete }

/-- A delivery of a test. -/
def testDelivery : NotificationDelivery where
  channelID := 1
  channelName := singletonChannelName
  channelType := singletonChannelName
  event := lit "test"
  severity := lit "info"
  title := lit "t"
  payloadSummary := []
  status := .success
  upstreamCode := []
  upstreamMessage := []
  latencyMS := 0
  attempt := 1
  dedupKey := []
  triggeredBy := lit "test"

/-- So many deliveries of one second. -/
def deliveriesInJuly : Nat → DeliveryTable
  | 0 => Table.empty
  | n + 1 => (deliveriesInJuly n).create .july testDelivery

theorem threeDeliveries_sound : (deliveriesInJuly 3).Sound := by
  have hzero : (deliveriesInJuly 0).Sound := fun r hr => absurd hr List.not_mem_nil
  have hone : (deliveriesInJuly 1).Sound := sound_create hzero _ _ (by decide +kernel)
  have htwo : (deliveriesInJuly 2).Sound := sound_create hone _ _ (by decide +kernel)
  exact sound_create htwo _ _ (by decide +kernel)

/-- Pages of two, and a delivery that comes in between. -/
def twoPages : List DeliveryEvent := [.turn, .create .july testDelivery, .turn]

theorem isSome_twoPages :
    (Runs.exec (step { limit := lit "2" }) { table := deliveriesInJuly 3 } twoPages).isSome = true := by
  decide +kernel

theorem twoPages_faithful :
    Faithful { limit := lit "2" } twoPages (deliveriesInJuly 3) (Option.get _ isSome_twoPages) :=
  deliveries_read threeDeliveries_sound (Option.some_get isSome_twoPages).symm

end DeliveryReading

end Lune.Notify
