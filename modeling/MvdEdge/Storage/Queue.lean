import MvdEdge.EventEngine.State
import MvdEdge.Health.State
import Mathlib.Data.List.Sort

/-! The durable event queue: the `event_queue` table and the statements
`EventQueue` runs on it. Each statement is one transaction. -/

set_option autoImplicit false

namespace MvdEdge

structure EventPayload where
  edgeEventId : Str
  event : EventType
  epc : Str
  readerId : Str
  customerId : Option Str
  siteId : Option Str
  deviceId : Option Str
  applicationProfile : Option Str
  locationId : Option Str
  zoneId : Option Str
  timestamp : Timestamp
  edgeEventAt : Timestamp
  edgeSendAt : Timestamp
  deriving DecidableEq

/-- Equal but for the time of sending. -/
def EventPayload.SameEvent (left right : EventPayload) : Prop :=
  { left with edgeSendAt := right.edgeSendAt } = right

theorem EventPayload.SameEvent.refl (payload : EventPayload) : payload.SameEvent payload := rfl

theorem EventPayload.SameEvent.stamped {left right : EventPayload} (same : left.SameEvent right)
    (now : Timestamp) : { left with edgeSendAt := now }.SameEvent right := same

theorem EventPayload.SameEvent.fields {left right : EventPayload} (same : left.SameEvent right) :
    left.edgeEventId = right.edgeEventId ∧ left.event = right.event ∧ left.epc = right.epc ∧
      left.readerId = right.readerId ∧ left.edgeEventAt = right.edgeEventAt := by
  rw [← same]
  exact ⟨rfl, rfl, rfl, rfl, rfl⟩

inductive RowStatus where
  | PENDING
  | DELIVERED
  deriving DecidableEq, Repr

structure QueuedEvent where
  id : Nat
  edgeEventId : Str
  payload : EventPayload
  createdAt : Timestamp
  attemptCount : Nat := 0
  lastAttemptAt : Option Timestamp := none
  deliveredAt : Option Timestamp := none
  status : RowStatus := .PENDING
  lastError : Option Str := none
  deriving DecidableEq

namespace QueuedEvent

def attempted (row : QueuedEvent) (error : Option Str) (now : Timestamp) : QueuedEvent :=
  { row with
    attemptCount := row.attemptCount + 1
    lastAttemptAt := some now
    -- `sanitize_error(error) if error else None`: an empty text counts as no error.
    lastError := match error with
      | none | some [] => none
      | some text => some (sanitizeError text 500) }

def delivered (row : QueuedEvent) (now : Timestamp) : QueuedEvent :=
  { row with status := .DELIVERED, deliveredAt := some now, lastError := none }

end QueuedEvent

/-- The table in id order. `id integer primary key autoincrement` and
`edge_event_id text not null unique` are kept by construction. -/
structure EventQueue where
  rows : List QueuedEvent
  nextId : Nat
  increasing : rows.Pairwise fun earlier later => earlier.id < later.id
  allocated : ∀ row ∈ rows, row.id < nextId
  unique : (rows.map (·.edgeEventId)).Nodup

/-- The least number that is no parameter of a statement: SQLite's integers have 64 bits. -/
def integerOverflow : Nat := 2 ^ 63

/-- The `OverflowError` of a larger one. -/
def tooLarge : Str := "Python int too large to convert to SQLite INTEGER".toList

namespace EventQueue

def empty : EventQueue where
  rows := []
  nextId := 1
  increasing := .nil
  allocated := by simp
  unique := List.nodup_nil

/-- `insert or ignore`. -/
def enqueue (queue : EventQueue) (payload : EventPayload) (now : Timestamp) : EventQueue :=
  if known : payload.edgeEventId ∈ queue.rows.map (·.edgeEventId) then queue
  else
    { rows := queue.rows ++
        [{ id := queue.nextId, edgeEventId := payload.edgeEventId, payload, createdAt := now }]
      nextId := queue.nextId + 1
      increasing := by
        rw [List.pairwise_append]
        refine ⟨queue.increasing, List.pairwise_singleton _ _, ?_⟩
        intro row member new isNew
        obtain rfl := List.mem_singleton.mp isNew
        exact queue.allocated row member
      allocated := by
        intro row member
        cases List.mem_append.mp member with
        | inl old => exact Nat.lt_succ_of_lt (queue.allocated row old)
        | inr new =>
            obtain rfl := List.mem_singleton.mp new
            exact Nat.lt_succ_self _
      unique := by
        rw [List.map_append, List.map_singleton, List.nodup_append]
        refine ⟨queue.unique, List.nodup_singleton _, ?_⟩
        intro old oldMember new isNew same
        obtain rfl := List.mem_singleton.mp isNew
        change old = payload.edgeEventId at same
        exact known (same ▸ oldMember) }

def CreatedBefore (left right : QueuedEvent) : Prop :=
  left.createdAt < right.createdAt ∨ (left.createdAt = right.createdAt ∧ left.id ≤ right.id)

instance (left right : QueuedEvent) : Decidable (CreatedBefore left right) :=
  inferInstanceAs (Decidable (_ ∨ _))

def pending (queue : EventQueue) : List QueuedEvent :=
  queue.rows.filter fun row => decide (row.status = .PENDING)

/-- `where status = 'PENDING' order by created_at asc, id asc limit ?` -/
def selectPending (queue : EventQueue) (limit : Nat) : List QueuedEvent :=
  (queue.pending.insertionSort CreatedBefore).take limit

def fetchPending (queue : EventQueue) (limit : Nat) : Except Str (List QueuedEvent) :=
  if limit < integerOverflow then .ok (queue.selectPending limit) else .error tooLarge

def pendingCount (queue : EventQueue) : Nat := queue.pending.length

def get (queue : EventQueue) (edgeEventId : Str) : Option QueuedEvent :=
  queue.rows.find? fun row => decide (row.edgeEventId = edgeEventId)

/-- `update event_queue set ... where edge_event_id = ?`, for a statement that
sets neither key. -/
def set (queue : EventQueue) (edgeEventId : Str) (change : QueuedEvent → QueuedEvent)
    (keeps : ∀ row, (change row).id = row.id ∧ (change row).edgeEventId = row.edgeEventId) :
    EventQueue where
  rows := queue.rows.map fun row => if row.edgeEventId = edgeEventId then change row else row
  nextId := queue.nextId
  increasing := by
    rw [List.pairwise_map]
    refine queue.increasing.imp ?_
    intro earlier later less
    split <;> split <;> simpa [(keeps _).1] using less
  allocated := by
    intro row member
    obtain ⟨old, oldMember, rfl⟩ := List.mem_map.mp member
    split
    · rw [(keeps old).1]
      exact queue.allocated old oldMember
    · exact queue.allocated old oldMember
  unique := by
    rw [List.map_map]
    refine (List.map_congr_left fun row _ => ?_) ▸ queue.unique
    simp only [Function.comp_apply]
    split
    · rw [(keeps row).2]
    · rfl

def markAttempt (queue : EventQueue) (edgeEventId : Str) (error : Option Str)
    (now : Timestamp) : EventQueue :=
  queue.set edgeEventId (·.attempted error now) fun _ => ⟨rfl, rfl⟩

def updatePayload (queue : EventQueue) (edgeEventId : Str) (payload : EventPayload) :
    EventQueue :=
  queue.set edgeEventId ({ · with payload }) fun _ => ⟨rfl, rfl⟩

def markDelivered (queue : EventQueue) (edgeEventId : Str) (now : Timestamp) : EventQueue :=
  queue.set edgeEventId (·.delivered now) fun _ => ⟨rfl, rfl⟩

/-! ## Reading the statements -/

theorem mem_set_iff {queue : EventQueue} {edgeEventId : Str} {change : QueuedEvent → QueuedEvent}
    {keeps : ∀ row, (change row).id = row.id ∧ (change row).edgeEventId = row.edgeEventId}
    {row : QueuedEvent} :
    row ∈ (queue.set edgeEventId change keeps).rows ↔
      (∃ old ∈ queue.rows, old.edgeEventId = edgeEventId ∧ change old = row) ∨
        (row ∈ queue.rows ∧ row.edgeEventId ≠ edgeEventId) := by
  simp only [set, List.mem_map]
  constructor
  · intro both
    obtain ⟨old, member, rfl⟩ := both
    by_cases target : old.edgeEventId = edgeEventId
    · rw [if_pos target]
      exact .inl ⟨old, member, target, rfl⟩
    · rw [if_neg target]
      exact .inr ⟨member, target⟩
  · intro either
    obtain ⟨old, member, target, rfl⟩ | ⟨member, other⟩ := either
    · exact ⟨old, member, if_pos target⟩
    · exact ⟨row, member, if_neg other⟩

theorem map_set {α : Type} (queue : EventQueue) (edgeEventId : Str)
    {change : QueuedEvent → QueuedEvent}
    (keeps : ∀ row, (change row).id = row.id ∧ (change row).edgeEventId = row.edgeEventId)
    (view : QueuedEvent → α) (same : ∀ row, view (change row) = view row) :
    (queue.set edgeEventId change keeps).rows.map view = queue.rows.map view := by
  simp only [set, List.map_map]
  apply List.map_congr_left
  intro row _
  simp only [Function.comp_apply]
  split
  · exact same row
  · rfl

theorem mem_enqueue_iff {queue : EventQueue} {payload : EventPayload} {now : Timestamp}
    {row : QueuedEvent} :
    row ∈ (queue.enqueue payload now).rows ↔ row ∈ queue.rows ∨
      (payload.edgeEventId ∉ queue.rows.map (·.edgeEventId) ∧
        row = { id := queue.nextId, edgeEventId := payload.edgeEventId, payload,
                createdAt := now }) := by
  unfold enqueue
  by_cases known : payload.edgeEventId ∈ queue.rows.map (·.edgeEventId)
  · simp [known]
  · simp only [dif_neg known]
    simp [known]

theorem eq_of_edgeEventId_eq {queue : EventQueue} {left right : QueuedEvent}
    (leftMember : left ∈ queue.rows) (rightMember : right ∈ queue.rows)
    (same : left.edgeEventId = right.edgeEventId) : left = right :=
  List.inj_on_of_nodup_map queue.unique leftMember rightMember same

theorem mem_of_mem_selectPending {queue : EventQueue} {limit : Nat} {row : QueuedEvent}
    (member : row ∈ queue.selectPending limit) : row ∈ queue.rows ∧ row.status = .PENDING := by
  have sorted := List.mem_of_mem_take member
  rw [List.mem_insertionSort] at sorted
  simpa [pending] using sorted

end EventQueue

end MvdEdge
