import MvdEdge.Storage.QueueRuns
import MvdEdge.Storage.Timestamps
import MvdEdge.Lib.JsonText

/-! The event queue as SQLite holds it: every column a number or a text, payloads as
JSON, instants as the texts of the clock. Rows are selected and ordered by these texts.
The names of `EventQueue` stand here for the same methods one level below. -/

set_option autoImplicit false

namespace MvdEdge

open Lib JsonText

def EventType.text : EventType → Str
  | .ENTER => "ENTER".toList
  | .EXIT => "EXIT".toList

def RowStatus.text : RowStatus → Str
  | .PENDING => "PENDING".toList
  | .DELIVERED => "DELIVERED".toList

namespace EventPayload

/-- The dictionary `build_event_payload` returns. `clock` is what `timestamp()` makes
of an instant in the machine's time zone. -/
def fields (clock : Timestamp → Str) (payload : EventPayload) : List (Str × Option Str) :=
  [("edge_event_id".toList, some payload.edgeEventId),
    ("event".toList, some payload.event.text),
    ("epc".toList, some payload.epc),
    ("reader_id".toList, some payload.readerId),
    ("customer_id".toList, payload.customerId),
    ("site_id".toList, payload.siteId),
    ("device_id".toList, payload.deviceId),
    ("application_profile".toList, payload.applicationProfile),
    ("location_id".toList, payload.locationId),
    ("zone_id".toList, payload.zoneId),
    ("timestamp".toList, some (clock payload.timestamp)),
    ("edge_event_at".toList, some (clock payload.edgeEventAt)),
    ("edge_send_at".toList, some (clock payload.edgeSendAt))]

def fieldNames : List Str :=
  ["edge_event_id", "event", "epc", "reader_id", "customer_id", "site_id", "device_id",
    "application_profile", "location_id", "zone_id", "timestamp", "edge_event_at",
    "edge_send_at"].map String.toList

theorem fieldNames_nodup : fieldNames.Nodup := by decide +kernel

def object (clock : Timestamp → Str) (payload : EventPayload) : Object where
  entries := payload.fields clock
  distinct := fieldNames_nodup

end EventPayload

namespace Sqlite

structure Row where
  id : Nat
  edgeEventId : Str
  payloadJson : Str
  createdAt : Str
  attemptCount : Nat := 0
  lastAttemptAt : Option Str := none
  deliveredAt : Option Str := none
  status : Str := "PENDING".toList
  lastError : Option Str := none
  deriving DecidableEq

structure QueuedEvent where
  id : Nat
  edgeEventId : Str
  payload : Object
  createdAt : Str
  attemptCount : Nat
  lastAttemptAt : Option Str
  deliveredAt : Option Str
  status : Str
  lastError : Option Str

/-- The table in id order, and its count in `sqlite_sequence`. -/
structure EventQueue where
  rows : List Row
  sequence : Nat

namespace EventQueue

def empty : EventQueue := ⟨[], 0⟩

/-- `create table if not exists`, on a file that has the table. -/
def initializeSchema (queue : EventQueue) : EventQueue := queue

/-- `insert or ignore into event_queue (edge_event_id, payload_json, created_at)`. The
next id is drawn before `not null` and `unique` are looked at, so a row that is ignored
uses one up. -/
def insertOrIgnore (queue : EventQueue) (edgeEventId : Option Str) (payloadJson createdAt : Str) :
    EventQueue where
  rows :=
    match edgeEventId with
    | none => queue.rows
    | some edgeEventId =>
        if edgeEventId ∈ queue.rows.map (·.edgeEventId) then queue.rows
        else queue.rows ++ [{ id := queue.sequence + 1, edgeEventId, payloadJson, createdAt }]
  sequence := queue.sequence + 1

/-- A payload without an id is a `KeyError`, raised before the statement. -/
def enqueue (queue : EventQueue) (payload : Object) (now : Timestamp) :
    Except Str EventQueue :=
  match payload.get? "edge_event_id".toList with
  | none => .error "'edge_event_id'".toList
  | some edgeEventId => .ok (queue.insertOrIgnore edgeEventId (dumps payload) (utcTimestamp now))

/-- `order by created_at asc, id asc` -/
def CreatedBefore (left right : Row) : Prop :=
  left.createdAt < right.createdAt ∨ (left.createdAt = right.createdAt ∧ left.id ≤ right.id)

instance (left right : Row) : Decidable (CreatedBefore left right) :=
  inferInstanceAs (Decidable (_ ∨ _))

/-- `_row_to_event`; `none` where `json.loads` raises. -/
def rowToEvent (row : Row) : Option QueuedEvent := do
  let payload ← loads row.payloadJson
  return { id := row.id
           edgeEventId := row.edgeEventId
           payload
           createdAt := row.createdAt
           attemptCount := row.attemptCount
           lastAttemptAt := row.lastAttemptAt
           deliveredAt := row.deliveredAt
           status := row.status
           lastError := row.lastError }

def pending (queue : EventQueue) : List Row :=
  queue.rows.filter fun row => decide (row.status = "PENDING".toList)

def selectPending (queue : EventQueue) (limit : Nat) : Option (List QueuedEvent) :=
  ((queue.pending.insertionSort CreatedBefore).take limit).mapM rowToEvent

/-- `unreadable` is the text of the error of `json.loads`. -/
def fetchPending (unreadable : Str) (queue : EventQueue) (limit : Nat) :
    Except Str (List QueuedEvent) :=
  if limit < integerOverflow then
    match queue.selectPending limit with
    | some events => .ok events
    | none => .error unreadable
  else .error tooLarge

def pendingCount (queue : EventQueue) : Nat := queue.pending.length

def get (queue : EventQueue) (edgeEventId : Str) : Option (Option QueuedEvent) :=
  (queue.rows.find? fun row => decide (row.edgeEventId = edgeEventId)).mapM rowToEvent

/-- `update event_queue set ... where edge_event_id = ?` -/
def update (queue : EventQueue) (edgeEventId : Str) (change : Row → Row) : EventQueue where
  rows := queue.rows.map fun row => if row.edgeEventId = edgeEventId then change row else row
  sequence := queue.sequence

def markAttempt (queue : EventQueue) (edgeEventId : Str) (error : Option Str)
    (now : Timestamp) : EventQueue :=
  queue.update edgeEventId fun row =>
    { row with
      attemptCount := row.attemptCount + 1
      lastAttemptAt := some (utcTimestamp now)
      lastError := match error with
        | none | some [] => none
        | some text => some (sanitizeError text 500) }

def updatePayload (queue : EventQueue) (edgeEventId : Str) (payload : Object) : EventQueue :=
  queue.update edgeEventId ({ · with payloadJson := dumps payload })

def markDelivered (queue : EventQueue) (edgeEventId : Str) (now : Timestamp) : EventQueue :=
  queue.update edgeEventId
    ({ · with
      status := "DELIVERED".toList, deliveredAt := some (utcTimestamp now), lastError := none })

end EventQueue

end Sqlite

/-! ## What the table shows of the queue -/

section Rendering

-- The ids differ where an event was enqueued twice: SQLite's by `number`.
variable (clock : Timestamp → Str) (number : Nat → Nat)

def QueuedEvent.row (row : QueuedEvent) : Sqlite.Row where
  id := number row.id
  edgeEventId := row.edgeEventId
  payloadJson := dumps (row.payload.object clock)
  createdAt := utcTimestamp row.createdAt
  attemptCount := row.attemptCount
  lastAttemptAt := row.lastAttemptAt.map utcTimestamp
  deliveredAt := row.deliveredAt.map utcTimestamp
  status := row.status.text
  lastError := row.lastError

def QueuedEvent.text (row : QueuedEvent) : Sqlite.QueuedEvent where
  id := number row.id
  edgeEventId := row.edgeEventId
  payload := (row.payload.object clock).sorted
  createdAt := utcTimestamp row.createdAt
  attemptCount := row.attemptCount
  lastAttemptAt := row.lastAttemptAt.map utcTimestamp
  deliveredAt := row.deliveredAt.map utcTimestamp
  status := row.status.text
  lastError := row.lastError

/-- The table holds the rows of the queue, under ids in the same order. -/
structure Renders (table : Sqlite.EventQueue) (queue : EventQueue) : Prop where
  rows : table.rows = queue.rows.map (·.row clock number)
  numbering : StrictMono number
  allocated : ∀ id < queue.nextId, number id ≤ table.sequence
  dated : ∀ row ∈ queue.rows, row.createdAt < endOfTime

end Rendering

section Reading

variable {clock : Timestamp → Str} {number : Nat → Nat} {table : Sqlite.EventQueue}
  {queue : EventQueue}

@[simp] theorem rowToEvent_row (row : QueuedEvent) :
    Sqlite.EventQueue.rowToEvent (row.row clock number) = some (row.text clock number) := by
  simp only [Sqlite.EventQueue.rowToEvent, QueuedEvent.row, loads_dumps]
  rfl

theorem mapM_rowToEvent (rows : List QueuedEvent) :
    (rows.map (·.row clock number)).mapM Sqlite.EventQueue.rowToEvent =
      some (rows.map (·.text clock number)) := by
  induction rows with
  | nil => rfl
  | cons row rows ih =>
      rw [List.map_cons, List.mapM_cons, rowToEvent_row, ih]
      rfl

theorem RowStatus.text_eq_pending_iff (status : RowStatus) :
    status.text = "PENDING".toList ↔ status = .PENDING := by
  cases status <;> decide

theorem Renders.pending (renders : Renders clock number table queue) :
    table.pending = queue.pending.map (·.row clock number) := by
  rw [Sqlite.EventQueue.pending, renders.rows, List.filter_map, EventQueue.pending]
  congr 1
  apply List.filter_congr
  intro row _
  exact decide_eq_decide.mpr row.status.text_eq_pending_iff

theorem Renders.createdBefore_iff (renders : Renders clock number table queue)
    {left right : QueuedEvent} (leftMember : left ∈ queue.rows) (rightMember : right ∈ queue.rows) :
    Sqlite.EventQueue.CreatedBefore (left.row clock number) (right.row clock number) ↔
      EventQueue.CreatedBefore left right := by
  have leftDated := renders.dated left leftMember
  have rightDated := renders.dated right rightMember
  have same : utcTimestamp left.createdAt = utcTimestamp right.createdAt ↔
      left.createdAt = right.createdAt :=
    ⟨utcTimestamp_fixedWidth.injective leftDated rightDated, congrArg utcTimestamp⟩
  unfold Sqlite.EventQueue.CreatedBefore EventQueue.CreatedBefore
  exact or_congr (utcTimestamp_lt_iff leftDated rightDated)
    (and_congr same renders.numbering.le_iff_le)

theorem Renders.selectPending (renders : Renders clock number table queue) (limit : Nat) :
    table.selectPending limit =
      some ((queue.selectPending limit).map (·.text clock number)) := by
  have sorted : (queue.pending.map (·.row clock number)).insertionSort
      Sqlite.EventQueue.CreatedBefore =
        (queue.pending.insertionSort EventQueue.CreatedBefore).map (·.row clock number) := by
    symm
    apply List.map_insertionSort
    intro left leftMember right rightMember
    exact (renders.createdBefore_iff (List.mem_filter.mp leftMember).1
      (List.mem_filter.mp rightMember).1).symm
  rw [Sqlite.EventQueue.selectPending, renders.pending, sorted, ← List.map_take, mapM_rowToEvent]
  rfl

theorem Renders.fetchPending (renders : Renders clock number table queue) (unreadable : Str)
    (limit : Nat) :
    table.fetchPending unreadable limit =
      (queue.fetchPending limit).map (List.map (·.text clock number)) := by
  unfold Sqlite.EventQueue.fetchPending EventQueue.fetchPending
  rw [renders.selectPending limit]
  split <;> rfl

theorem Renders.pendingCount (renders : Renders clock number table queue) :
    table.pendingCount = queue.pendingCount := by
  rw [Sqlite.EventQueue.pendingCount, renders.pending, List.length_map, EventQueue.pendingCount]

theorem Renders.get (renders : Renders clock number table queue) (edgeEventId : Str) :
    table.get edgeEventId = some ((queue.get edgeEventId).map (·.text clock number)) := by
  have same : (queue.rows.map (·.row clock number)).find?
      (fun row => decide (row.edgeEventId = edgeEventId)) =
        (queue.get edgeEventId).map (·.row clock number) := by
    rw [List.find?_map]
    rfl
  rw [Sqlite.EventQueue.get, renders.rows, same]
  cases queue.get edgeEventId with
  | none => rfl
  | some row => simp

end Reading

/-! ## The statements keep what is shown -/

namespace Renders

variable {clock : Timestamp → Str} {number : Nat → Nat} {table : Sqlite.EventQueue}
  {queue : EventQueue}

theorem empty : Renders clock id .empty .empty where
  rows := rfl
  numbering := strictMono_id
  allocated := by simp [EventQueue.empty, Sqlite.EventQueue.empty]
  dated := by simp [EventQueue.empty]

/-- A statement that changes a row and its rendering alike. -/
theorem update (renders : Renders clock number table queue) (edgeEventId : Str)
    {change : QueuedEvent → QueuedEvent} {changeText : Sqlite.Row → Sqlite.Row}
    (keeps : ∀ row, (change row).id = row.id ∧ (change row).edgeEventId = row.edgeEventId)
    (alike : ∀ row, changeText (row.row clock number) = (change row).row clock number)
    (created : ∀ row, (change row).createdAt = row.createdAt) :
    Renders clock number (table.update edgeEventId changeText)
      (queue.set edgeEventId change keeps) where
  rows := by
    simp only [Sqlite.EventQueue.update, EventQueue.set, renders.rows, List.map_map]
    apply List.map_congr_left
    intro row _
    simp only [Function.comp_apply]
    by_cases target : row.edgeEventId = edgeEventId
    · rw [if_pos target, if_pos (show (row.row clock number).edgeEventId = edgeEventId from target),
        alike]
    · rw [if_neg target,
        if_neg (show ¬(row.row clock number).edgeEventId = edgeEventId from target)]
  numbering := renders.numbering
  allocated := renders.allocated
  dated := by
    intro row member
    rw [EventQueue.mem_set_iff] at member
    obtain ⟨old, oldMember, _, rfl⟩ | ⟨old, _⟩ := member
    · rw [created]
      exact renders.dated old oldMember
    · exact renders.dated row old

theorem markAttempt (renders : Renders clock number table queue) (edgeEventId : Str)
    (error : Option Str) (now : Timestamp) :
    Renders clock number (table.markAttempt edgeEventId error now)
      (queue.markAttempt edgeEventId error now) := by
  unfold Sqlite.EventQueue.markAttempt EventQueue.markAttempt
  exact renders.update edgeEventId _ (fun _ => rfl) fun _ => rfl

theorem markDelivered (renders : Renders clock number table queue) (edgeEventId : Str)
    (now : Timestamp) :
    Renders clock number (table.markDelivered edgeEventId now)
      (queue.markDelivered edgeEventId now) := by
  unfold Sqlite.EventQueue.markDelivered EventQueue.markDelivered
  exact renders.update edgeEventId _ (fun _ => rfl) fun _ => rfl

theorem updatePayload (renders : Renders clock number table queue) (edgeEventId : Str)
    {payload : EventPayload} {object : Lib.JsonText.Object}
    (same : object.sorted = (payload.object clock).sorted) :
    Renders clock number (table.updatePayload edgeEventId object)
      (queue.updatePayload edgeEventId payload) := by
  unfold Sqlite.EventQueue.updatePayload EventQueue.updatePayload
  refine renders.update edgeEventId _ ?_ fun _ => rfl
  intro row
  simp only [QueuedEvent.row, dumps, same]

theorem rows_edgeEventIds (renders : Renders clock number table queue) :
    table.rows.map (·.edgeEventId) = queue.rows.map (·.edgeEventId) := by
  rw [renders.rows, List.map_map]
  rfl

/-- The ids drawn so far, and those a table at `sequence` draws next. -/
def numbered (number : Nat → Nat) (nextId sequence id : Nat) : Nat :=
  if id < nextId then number id else sequence + 1 + (id - nextId)

theorem numbered_strictMono (renders : Renders clock number table queue) :
    StrictMono (numbered number queue.nextId table.sequence) := by
  intro earlier later less
  unfold numbered
  by_cases old : later < queue.nextId
  · rw [if_pos old, if_pos (less.trans old)]
    exact renders.numbering less
  · rw [if_neg old]
    by_cases earlierOld : earlier < queue.nextId
    · rw [if_pos earlierOld]
      have drawn := renders.allocated earlier earlierOld
      omega
    · rw [if_neg earlierOld]
      omega

theorem map_row_numbered (queue : EventQueue) (sequence : Nat) :
    queue.rows.map (·.row clock (numbered number queue.nextId sequence)) =
      queue.rows.map (·.row clock number) := by
  apply List.map_congr_left
  intro row member
  simp only [QueuedEvent.row, numbered, if_pos (queue.allocated row member)]

theorem enqueue (renders : Renders clock number table queue) (payload : EventPayload)
    {now : Timestamp} (dated : now < endOfTime) :
    Renders clock (numbered number queue.nextId table.sequence)
      (table.insertOrIgnore (some payload.edgeEventId) (dumps (payload.object clock))
        (utcTimestamp now)) (queue.enqueue payload now) := by
  have strict := renders.numbered_strictMono
  by_cases known : payload.edgeEventId ∈ queue.rows.map (·.edgeEventId)
  · have ignored : queue.enqueue payload now = queue := dif_pos known
    rw [ignored]
    constructor
    · rw [map_row_numbered, ← renders.rows]
      exact if_pos (renders.rows_edgeEventIds ▸ known)
    · exact strict
    · intro id old
      rw [numbered, if_pos old]
      exact Nat.le_succ_of_le (renders.allocated id old)
    · exact renders.dated
  · have fresh : payload.edgeEventId ∉ table.rows.map (·.edgeEventId) :=
      renders.rows_edgeEventIds ▸ known
    have added : (queue.enqueue payload now).rows = queue.rows ++
        [{ id := queue.nextId, edgeEventId := payload.edgeEventId, payload,
           createdAt := now }] := by
      rw [EventQueue.enqueue, dif_neg known]
    have nextId : (queue.enqueue payload now).nextId = queue.nextId + 1 := by
      rw [EventQueue.enqueue, dif_neg known]
    have here : numbered number queue.nextId table.sequence queue.nextId = table.sequence + 1 := by
      simp [numbered]
    constructor
    · rw [added, List.map_append, map_row_numbered, ← renders.rows]
      simp only [Sqlite.EventQueue.insertOrIgnore, if_neg fresh, List.map_singleton,
        QueuedEvent.row, here]
      rfl
    · exact strict
    · intro id old
      rw [nextId] at old
      exact (strict.monotone (Nat.le_of_lt_succ old)).trans_eq here
    · intro row member
      rw [added] at member
      rcases List.mem_append.mp member with before | new
      · exact renders.dated row before
      · rw [List.mem_singleton.mp new]
        exact dated

end Renders

/-! ## Runs -/

namespace Sqlite.EventQueue

variable (clock : Timestamp → Str)

def apply (queue : EventQueue) : QueueMove → Except Str EventQueue
  | .enqueue payload now => queue.enqueue (payload.object clock) now
  | .updatePayload edgeEventId payload =>
      .ok (queue.updatePayload edgeEventId (payload.object clock))
  | .markAttempt edgeEventId error now => .ok (queue.markAttempt edgeEventId error now)
  | .markDelivered edgeEventId now => .ok (queue.markDelivered edgeEventId now)
  | .reopen => .ok queue.initializeSchema

def run (moves : List QueueMove) : Except Str EventQueue := moves.foldlM (apply clock) empty

end Sqlite.EventQueue

theorem Renders.apply {clock : Timestamp → Str} {number : Nat → Nat} {table : Sqlite.EventQueue}
    {queue : EventQueue} (renders : Renders clock number table queue) (move : QueueMove)
    (dated : ∀ entry ∈ move.enqueued, entry.2 < endOfTime) :
    ∃ next later, table.apply clock move = .ok next ∧
      Renders clock later next (queue.apply move) := by
  cases move with
  | enqueue payload now => exact ⟨_, _, rfl, renders.enqueue payload (dated _ rfl)⟩
  | updatePayload edgeEventId payload =>
      exact ⟨_, number, rfl, renders.updatePayload edgeEventId rfl⟩
  | markAttempt edgeEventId error now =>
      exact ⟨_, number, rfl, renders.markAttempt edgeEventId error now⟩
  | markDelivered edgeEventId now =>
      exact ⟨_, number, rfl, renders.markDelivered edgeEventId now⟩
  | reopen => exact ⟨_, number, rfl, renders⟩

theorem run_renders (clock : Timestamp → Str) (moves : List QueueMove)
    (dated : ∀ entry ∈ moves.filterMap QueueMove.enqueued, entry.2 < endOfTime) :
    ∃ table number, Sqlite.EventQueue.run clock moves = .ok table ∧
      Renders clock number table (EventQueue.run moves) := by
  induction moves using List.reverseRecOn with
  | nil => exact ⟨.empty, id, rfl, .empty⟩
  | append_singleton moves last ih =>
      rw [List.filterMap_append] at dated
      obtain ⟨table, number, ran, renders⟩ := ih fun entry member =>
        dated entry (List.mem_append_left _ member)
      have lastDated : ∀ entry ∈ last.enqueued, entry.2 < endOfTime := by
        intro entry reads
        apply dated entry (List.mem_append_right _ _)
        exact List.mem_filterMap.mpr ⟨last, List.mem_singleton_self last, reads⟩
      obtain ⟨next, later, applied, shows⟩ := renders.apply last lastDated
      refine ⟨next, later, ?_, EventQueue.run_concat moves last ▸ shows⟩
      rw [Sqlite.EventQueue.run] at ran ⊢
      rw [List.foldlM_append, ran]
      change table.apply clock last >>= pure = _
      rw [bind_pure, applied]

/-- The queue and the table as SQLite keeps it answer alike after every sequence of
operations, with payloads through JSON and instants ordered as texts. -/
theorem sqlite_answers (clock : Timestamp → Str) (unreadable : Str) (moves : List QueueMove)
    (dated : ∀ entry ∈ moves.filterMap QueueMove.enqueued, entry.2 < endOfTime) :
    ∃ table number, Sqlite.EventQueue.run clock moves = .ok table ∧ StrictMono number ∧
      (∀ limit, table.fetchPending unreadable limit =
        ((EventQueue.run moves).fetchPending limit).map (List.map (·.text clock number))) ∧
      (∀ edgeEventId, table.get edgeEventId =
        some (((EventQueue.run moves).get edgeEventId).map (·.text clock number))) ∧
      table.pendingCount = (EventQueue.run moves).pendingCount := by
  obtain ⟨table, number, ran, renders⟩ := run_renders clock moves dated
  exact ⟨table, number, ran, renders.numbering, renders.fetchPending unreadable, renders.get,
    renders.pendingCount⟩

/-- A clock that went back, and an event enqueued twice. -/
def reenqueuedMoves : List QueueMove :=
  [.enqueue (samplePayload "later".toList .ENTER) 951868800000, .reopen,
    .enqueue (samplePayload "later".toList .EXIT) 951868800001,
    .markAttempt "later".toList (some "HTTP 503: \n".toList) 951868800002,
    .enqueue (samplePayload "earlier".toList .EXIT) 951868799999]

theorem sqlite_answers_reenqueued :
    ∃ table number, Sqlite.EventQueue.run utcTimestamp reenqueuedMoves = .ok table ∧
      StrictMono number ∧
      (∀ limit, table.fetchPending "Expecting value".toList limit =
        ((EventQueue.run reenqueuedMoves).fetchPending limit).map
          (List.map (·.text utcTimestamp number))) ∧
      (∀ edgeEventId, table.get edgeEventId =
        some (((EventQueue.run reenqueuedMoves).get edgeEventId).map
          (·.text utcTimestamp number))) ∧
      table.pendingCount = (EventQueue.run reenqueuedMoves).pendingCount :=
  sqlite_answers utcTimestamp "Expecting value".toList reenqueuedMoves (by decide +kernel)

example : (Sqlite.EventQueue.run utcTimestamp reenqueuedMoves).map
    (fun table => table.rows.map (·.id)) = .ok [1, 3] := by
  decide +kernel

end MvdEdge
