import MvdEdge.App.DeliveryProperties
import MvdEdge.Storage.Sqlite
import MvdEdge.Lib.Simulation

/-! Store-and-forward one level below: the events are dictionaries that go through the
JSON of the table, and the bodies of the requests are what is read back from it. Its
runs are those of the queue and its events, whatever fails on the way. -/

set_option autoImplicit false

namespace MvdEdge

open Lib Lib.Effect JsonText

namespace Sqlite

/-- The database, the bodies posted so far, and the health state. -/
structure DeliveryState where
  tick : Nat
  queue : EventQueue
  posted : List Object
  healthState : Option HealthState

def DeliveryState.empty : DeliveryState := ⟨0, .empty, [], none⟩

instance : Ticking DeliveryState where
  tick := DeliveryState.tick
  advance state := { state with tick := state.tick + 1 }

abbrev Delivery := EStateM Exn DeliveryState

namespace Delivery

section Operations

-- `unreadable` is the text of the error of `json.loads`, `clock` what `timestamp()`
-- makes of an instant.
variable (env : DeliveryEnv) (clock : Timestamp → Str) (unreadable : Str)

def statement {α : Type} (run : EventQueue → Timestamp → α × EventQueue) : Delivery α :=
  operation env.fault (fun _ => true) fun tick state =>
    let (value, queue) := run state.queue (env.stamp tick)
    (value, { state with queue })

/-- A payload without an id is a `KeyError`, raised before the statement. -/
def enqueue (payload : Object) : Delivery Unit :=
  match payload.get? "edge_event_id".toList with
  | none => throw (.exception "'edge_event_id'".toList)
  | some edgeEventId =>
      statement env fun queue now =>
        ((), queue.insertOrIgnore edgeEventId (dumps payload) (utcTimestamp now))

def fetchPending (limit : Nat) : Delivery (List QueuedEvent) := do
  let fetched ← statement env fun queue _ => (queue.fetchPending unreadable limit, queue)
  match fetched with
  | .ok batch => return batch
  | .error message => throw (.exception message)

def markAttempt (edgeEventId : Str) (error : Option Str) : Delivery Unit :=
  statement env fun queue now => ((), queue.markAttempt edgeEventId error now)

def updatePayload (edgeEventId : Str) (payload : Object) : Delivery Unit :=
  statement env fun queue _ => ((), queue.updatePayload edgeEventId payload)

def markDelivered (edgeEventId : Str) : Delivery Unit :=
  statement env fun queue now => ((), queue.markDelivered edgeEventId now)

def timestamp : Delivery Str :=
  operation env.fault Exn.interrupts fun tick state => (clock (env.stamp tick), state)

def markHealth (mark : HealthState → Timestamp → HealthState) : Delivery Unit :=
  operation env.fault Exn.interrupts fun tick state =>
    ((), { state with
      healthState := state.healthState.map fun health => mark health (env.stamp tick) })

def post (payload : Object) : Delivery HttpReply :=
  operation env.fault Exn.interrupts fun _ state =>
    ((env.exchange state.posted.length).reply, { state with posted := state.posted ++ [payload] })

/-- `event["epc"]` is looked up for an event the answer says is stored. -/
def sendPayload (payload : Object) : Delivery DeliveryResult := do
  let reply ← post env payload
  if reply.acknowledges && (payload.get? "epc".toList).isNone then
    throw (.exception "'epc'".toList)
  else
    match sendPayloadResult env.str reply with
    | .ok result => return result
    | .error message => throw (.exception message)

def settle (edgeEventId : Str) (success : Bool) : Delivery Unit :=
  if success then do
    markDelivered env edgeEventId
    markHealth env HealthState.markCloudDelivery
  else
    markHealth env fun health => health.markError "CLOUD_DELIVERY_FAILED".toList

def deliver (queuedEvent : QueuedEvent) : Delivery Bool := do
  let now ← timestamp env clock
  let payload := queuedEvent.payload.set "edge_send_at".toList (some now)
  updatePayload env queuedEvent.edgeEventId payload
  let sent ← attempt Exn.caught (sendPayload env payload)
  let result := MvdEdge.Delivery.resultOf sent
  markAttempt env queuedEvent.edgeEventId (if result.success then none else result.error)
  settle env queuedEvent.edgeEventId result.success
  return result.success

def deliverBatch : List QueuedEvent → Nat → Delivery Nat
  | [], deliveredCount => return deliveredCount
  | queuedEvent :: rest, deliveredCount => do
      let delivered ← deliver env clock queuedEvent
      deliverBatch rest (if delivered then deliveredCount + 1 else deliveredCount)

def processPendingDeliveries (batchSize : Nat) : Delivery Nat := do
  let batch ← fetchPending env unreadable batchSize
  deliverBatch env clock batch 0

/-- One move; events are enqueued as the dictionaries `build_event_payload` returns. -/
def run : DeliveryMove → Delivery Unit
  | .enqueue payload => enqueue env (payload.object clock)
  | .process batchSize => do
      let _ ← processPendingDeliveries env clock unreadable batchSize
  | .restart => modifyGet fun state => ((), { state with healthState := some {} })

/-- As `DeliveryMove.step`. -/
def step (ran : List EventPayload × DeliveryState) (move : DeliveryMove) :
    List EventPayload × DeliveryState :=
  match run env clock unreadable move ran.2 with
  | .ok _ next => (ran.1 ++ move.payloads, next)
  | .error _ next => (ran.1, next)

def runAll (moves : List DeliveryMove) : List EventPayload × DeliveryState :=
  moves.foldl (step env clock unreadable) ([], .empty)

theorem runAll_concat (moves : List DeliveryMove) (move : DeliveryMove) :
    runAll env clock unreadable (moves ++ [move]) =
      step env clock unreadable (runAll env clock unreadable moves) move := by
  simp [runAll, List.foldl_append]

end Operations

end Delivery

end Sqlite

/-! ## The two levels -/

/-- The database shows the queue, and the bodies posted are the events sent, with the
keys in order. -/
structure Delivery.Shows (clock : Timestamp → Str) (number : Nat → Nat) (state : DeliveryState)
    (stored : Sqlite.DeliveryState) : Prop where
  tick : state.tick = stored.tick
  queue : Renders clock number stored.queue state.queue
  posted : stored.posted = state.cloud.sent.map fun payload => (payload.object clock).sorted
  healthState : state.healthState = stored.healthState

/-- The same for some ids. -/
def Delivery.Shown (clock : Timestamp → Str) (state : DeliveryState)
    (stored : Sqlite.DeliveryState) : Prop :=
  ∃ number, Delivery.Shows clock number state stored

theorem EventPayload.set_edgeSendAt (clock : Timestamp → Str) (payload : EventPayload)
    (now : Timestamp) :
    (payload.object clock).sorted.set "edge_send_at".toList (some (clock now)) =
      ({ payload with edgeSendAt := now }.object clock).sorted := by
  have present : "edge_send_at".toList ∈ (payload.object clock).keys := by
    change "edge_send_at".toList ∈ fieldNames
    decide +kernel
  rw [InsertionDict.sorted_set present]
  congr 1

namespace Delivery

variable {env : DeliveryEnv} {clock : Timestamp → Str} {unreadable : Str}

/-- Operations that leave the database alone. -/
theorem operation_simulates {α β : Type} {values : α → β → Prop} {honours : Exn → Bool}
    {act : Nat → DeliveryState → α × DeliveryState}
    {actText : Nat → Sqlite.DeliveryState → β × Sqlite.DeliveryState}
    (alike : ∀ tick state stored, Shown clock state stored →
      values (act tick state).1 (actText tick stored).1 ∧
        Shown clock (act tick state).2 (actText tick stored).2) :
    Simulates (Shown clock) values (operation env.fault honours act)
      (operation env.fault honours actText) := by
  refine Simulates.operation ?_ ?_ alike
  · intro state stored shown
    obtain ⟨number, shows⟩ := shown
    exact shows.tick
  · intro state stored shown
    obtain ⟨number, shows⟩ := shown
    exact ⟨number, congrArg (· + 1) shows.tick, shows.queue, shows.posted, shows.healthState⟩

theorem timestamp_simulates :
    Simulates (Shown clock) (fun now text => text = clock now) (timestamp env)
      (Sqlite.Delivery.timestamp env clock) :=
  operation_simulates fun _ _ _ shown => ⟨rfl, shown⟩

theorem markHealth_simulates (mark : HealthState → Timestamp → HealthState) :
    Simulates (Shown clock) Eq (markHealth env mark) (Sqlite.Delivery.markHealth env mark) := by
  apply operation_simulates
  intro tick state stored shown
  obtain ⟨number, shows⟩ := shown
  exact ⟨rfl, number, shows.tick, shows.queue, shows.posted,
    congrArg (Option.map fun health => mark health (env.stamp tick)) shows.healthState⟩

theorem post_simulates (payload : EventPayload) :
    Simulates (Shown clock) Eq (post env payload)
      (Sqlite.Delivery.post env (payload.object clock).sorted) := by
  apply operation_simulates
  intro tick state stored shown
  obtain ⟨number, shows⟩ := shown
  have posts : stored.posted.length = state.cloud.sent.length := by
    rw [shows.posted, List.length_map]
  refine ⟨by rw [posts], number, shows.tick, shows.queue, ?_, shows.healthState⟩
  rw [shows.posted]
  simp [Cloud.receive]

theorem sendPayload_simulates (payload : EventPayload) :
    Simulates (Shown clock) Eq (sendPayload env payload)
      (Sqlite.Delivery.sendPayload env (payload.object clock).sorted) := by
  have epc : ((payload.object clock).sorted.get? "epc".toList).isNone = false := by
    rw [InsertionDict.get?_sorted]
    rfl
  unfold sendPayload Sqlite.Delivery.sendPayload
  refine (post_simulates payload).bind ?_
  rintro reply _ rfl
  rw [epc, Bool.and_false, if_neg Bool.false_ne_true]
  cases sendPayloadResult env.str reply with
  | ok result => exact .pure rfl
  | error message => exact .throw _

section Statements

variable (dated : ∀ tick, env.stamp tick < endOfTime)

include dated

theorem statement_simulates {α β : Type} {values : α → β → Prop}
    {run : EventQueue → Timestamp → α × EventQueue}
    {runText : Sqlite.EventQueue → Timestamp → β × Sqlite.EventQueue}
    (alike : ∀ number table queue now, now < endOfTime → Renders clock number table queue →
      values (run queue now).1 (runText table now).1 ∧
        ∃ later, Renders clock later (runText table now).2 (run queue now).2) :
    Simulates (Shown clock) values (statement env run) (Sqlite.Delivery.statement env runText) := by
  apply operation_simulates
  intro tick state stored shown
  obtain ⟨number, shows⟩ := shown
  obtain ⟨same, later, renders⟩ := alike number _ _ _ (dated tick) shows.queue
  exact ⟨same, later, shows.tick, renders, shows.posted, shows.healthState⟩

theorem enqueue_simulates (payload : EventPayload) :
    Simulates (Shown clock) Eq (enqueue env payload)
      (Sqlite.Delivery.enqueue env (payload.object clock)) := by
  have found : (payload.object clock).get? "edge_event_id".toList =
      some (some payload.edgeEventId) := rfl
  rw [Sqlite.Delivery.enqueue, found]
  apply statement_simulates dated
  intro number table queue now within renders
  exact ⟨rfl, _, renders.enqueue payload within⟩

theorem fetchPending_simulates (limit : Nat) :
    Simulates (Shown clock) (fun rows events => ∃ number, events = rows.map (·.text clock number))
      (fetchPending env limit) (Sqlite.Delivery.fetchPending env unreadable limit) := by
  unfold fetchPending Sqlite.Delivery.fetchPending
  have fetches : Simulates (Shown clock)
      (fun rows found => ∃ number, found = rows.map (List.map (·.text clock number)))
      (statement env fun queue _ => (queue.fetchPending limit, queue))
      (Sqlite.Delivery.statement env fun queue _ =>
        (queue.fetchPending unreadable limit, queue)) := by
    apply statement_simulates dated
    intro number table queue now within renders
    exact ⟨⟨number, renders.fetchPending unreadable limit⟩, number, renders⟩
  refine fetches.bind ?_
  rintro rows _ ⟨number, rfl⟩
  cases rows with
  | ok batch => exact .pure ⟨number, rfl⟩
  | error message => exact .throw _

theorem markAttempt_simulates (edgeEventId : Str) (error : Option Str) :
    Simulates (Shown clock) Eq (markAttempt env edgeEventId error)
      (Sqlite.Delivery.markAttempt env edgeEventId error) :=
  statement_simulates dated fun number _ _ now _ renders =>
    ⟨rfl, number, renders.markAttempt edgeEventId error now⟩

theorem updatePayload_simulates (edgeEventId : Str) (payload : EventPayload) :
    Simulates (Shown clock) Eq (updatePayload env edgeEventId payload)
      (Sqlite.Delivery.updatePayload env edgeEventId (payload.object clock).sorted) :=
  statement_simulates dated fun number _ _ _ _ renders =>
    ⟨rfl, number, renders.updatePayload edgeEventId (InsertionDict.sorted_sorted _)⟩

theorem markDelivered_simulates (edgeEventId : Str) :
    Simulates (Shown clock) Eq (markDelivered env edgeEventId)
      (Sqlite.Delivery.markDelivered env edgeEventId) :=
  statement_simulates dated fun number _ _ now _ renders =>
    ⟨rfl, number, renders.markDelivered edgeEventId now⟩

theorem settle_simulates (edgeEventId : Str) (success : Bool) :
    Simulates (Shown clock) Eq (settle env edgeEventId success)
      (Sqlite.Delivery.settle env edgeEventId success) := by
  cases success with
  | false => exact markHealth_simulates _
  | true =>
      refine (markDelivered_simulates dated edgeEventId).bind ?_
      intro _ _ _
      exact markHealth_simulates _

/-- The body of the loop, on a row and on what `_row_to_event` made of it. -/
theorem deliver_simulates (number : Nat → Nat) (queuedEvent : QueuedEvent) :
    Simulates (Shown clock) Eq (deliver env queuedEvent)
      (Sqlite.Delivery.deliver env clock (queuedEvent.text clock number)) := by
  unfold deliver Sqlite.Delivery.deliver
  refine timestamp_simulates.bind ?_
  rintro now _ rfl
  have stamped := queuedEvent.payload.set_edgeSendAt clock now
  simp only [QueuedEvent.text, stamped]
  refine (updatePayload_simulates dated _ _).bind ?_
  intro _ _ _
  have sends : Simulates (Shown clock) Eq
      (attempt Exn.caught (sendPayload env { queuedEvent.payload with edgeSendAt := now }))
      (attempt Exn.caught (Sqlite.Delivery.sendPayload env
        ({ queuedEvent.payload with edgeSendAt := now }.object clock).sorted)) :=
    (sendPayload_simulates _).attempt (fun _ _ same => same ▸ rfl) fun _ => rfl
  refine sends.bind ?_
  rintro sent _ rfl
  refine (markAttempt_simulates dated _ _).bind ?_
  intro _ _ _
  refine (settle_simulates dated _ _).bind ?_
  intro _ _ _
  exact .pure rfl

theorem deliverBatch_simulates (number : Nat → Nat) (batch : List QueuedEvent)
    (deliveredCount : Nat) :
    Simulates (Shown clock) Eq (deliverBatch env batch deliveredCount)
      (Sqlite.Delivery.deliverBatch env clock (batch.map (·.text clock number))
        deliveredCount) := by
  induction batch generalizing deliveredCount with
  | nil => exact .pure rfl
  | cons queuedEvent rest ih =>
      refine (deliver_simulates dated number queuedEvent).bind ?_
      rintro delivered _ rfl
      exact ih _

theorem processPendingDeliveries_simulates (batchSize : Nat) :
    Simulates (Shown clock) Eq (processPendingDeliveries env batchSize)
      (Sqlite.Delivery.processPendingDeliveries env clock unreadable batchSize) := by
  refine (fetchPending_simulates dated batchSize).bind ?_
  rintro batch _ ⟨number, rfl⟩
  exact deliverBatch_simulates dated number batch 0

theorem run_simulates (move : DeliveryMove) :
    Simulates (Shown clock) Eq (move.run env)
      (Sqlite.Delivery.run env clock unreadable move) := by
  cases move with
  | enqueue payload => exact enqueue_simulates dated payload
  | process batchSize =>
      refine (processPendingDeliveries_simulates dated batchSize).bind ?_
      intro _ _ _
      exact .pure rfl
  | restart =>
      apply Simulates.modify
      intro state stored shown
      obtain ⟨number, shows⟩ := shown
      exact ⟨number, shows.tick, shows.queue, shows.posted, rfl⟩

theorem step_shown {ran : List EventPayload × DeliveryState}
    {stored : List EventPayload × Sqlite.DeliveryState} (same : stored.1 = ran.1)
    (shown : Shown clock ran.2 stored.2) (move : DeliveryMove) :
    (Sqlite.Delivery.step env clock unreadable stored move).1 =
        (DeliveryMove.step env ran move).1 ∧
      Shown clock (DeliveryMove.step env ran move).2
        (Sqlite.Delivery.step env clock unreadable stored move).2 := by
  have outcome := @run_simulates env clock unreadable dated move ran.2 stored.2 shown
  unfold Sqlite.Delivery.step DeliveryMove.step
  generalize move.run env ran.2 = result,
    Sqlite.Delivery.run env clock unreadable move stored.2 = seen at outcome ⊢
  cases outcome with
  | returned _ reached => exact ⟨congrArg (· ++ move.payloads) same, reached⟩
  | raised _ reached => exact ⟨same, reached⟩

variable (clock unreadable)

theorem runAll_shown (moves : List DeliveryMove) :
    (Sqlite.Delivery.runAll env clock unreadable moves).1 = (DeliveryMove.runAll env moves).1 ∧
      Shown clock (DeliveryMove.runAll env moves).2
        (Sqlite.Delivery.runAll env clock unreadable moves).2 := by
  induction moves using List.reverseRecOn with
  | nil => exact ⟨rfl, id, rfl, .empty, rfl, rfl⟩
  | append_singleton moves last ih =>
      rw [DeliveryMove.runAll_concat, Sqlite.Delivery.runAll_concat]
      exact step_shown dated ih.1 ih.2 last

end Statements

end Delivery

/-! ## The events in the database -/

/-- The store-and-forward on the database runs as the one on the queue: move by move it
returns or fails alike, and what it leaves behind shows the same. -/
theorem sqlite_runs_alike (env : DeliveryEnv) (clock : Timestamp → Str) (unreadable : Str)
    (dated : ∀ tick, env.stamp tick < endOfTime) (moves : List DeliveryMove) :
    (Sqlite.Delivery.runAll env clock unreadable moves).1 = (DeliveryMove.runAll env moves).1 ∧
      (∃ number, Delivery.Shows clock number (DeliveryMove.runAll env moves).2
        (Sqlite.Delivery.runAll env clock unreadable moves).2) ∧
      ∀ next : DeliveryMove,
        failing (Sqlite.Delivery.run env clock unreadable next)
            (Sqlite.Delivery.runAll env clock unreadable moves).2 =
          failing (next.run env) (DeliveryMove.runAll env moves).2 := by
  obtain ⟨same, shown⟩ := Delivery.runAll_shown clock unreadable dated moves
  exact ⟨same, shown, fun next => ((Delivery.run_simulates dated next).failing shown).symm⟩

/-- The end of a leap day; the first answer is lost. -/
def leapDayEnv : DeliveryEnv :=
  { calmEnv fun sends => if sends = 0 then lostReply else storedReply with
    stamp := fun tick => 951868799995 + min tick 9 }

theorem leapDayEnv_dated (tick : Nat) : leapDayEnv.stamp tick < endOfTime := by
  have latest : 951868799995 + min tick 9 ≤ 951868799995 + 9 := by omega
  exact latest.trans_lt (by decide)

def quotedReader : EventPayload :=
  { samplePayload "1".toList .ENTER with readerId := ['D', '"', '\\', '\n', Char.ofNat 0x1f6aa] }

theorem sqlite_runs_alike_leap_day :
    ∃ number, Delivery.Shows utcTimestamp number
      (DeliveryMove.runAll leapDayEnv [.enqueue quotedReader, .process 1, .process 1]).2
      (Sqlite.Delivery.runAll leapDayEnv utcTimestamp []
        [.enqueue quotedReader, .process 1, .process 1]).2 :=
  (sqlite_runs_alike leapDayEnv utcTimestamp [] leapDayEnv_dated _).2.1

/-- Equal dictionaries but for the time of sending. -/
def SameFields (left right : Object) : Prop :=
  ∀ key, key ≠ "edge_send_at".toList → left.get? key = right.get? key

theorem EventPayload.SameEvent.sameFields {left right : EventPayload}
    (same : left.SameEvent right) (clock : Timestamp → Str) :
    SameFields (left.object clock).sorted (right.object clock).sorted := by
  intro key other
  have written := right.set_edgeSendAt clock left.edgeSendAt
  have back : { right with edgeSendAt := left.edgeSendAt } = left := by
    rw [← same]
  rw [back] at written
  rw [← written, InsertionDict.get?_set, if_neg other]

/-- What the table and the requests hold of an event is, key for key, the dictionary
that was enqueued for it. -/
theorem sqlite_keeps_events (env : DeliveryEnv) (clock : Timestamp → Str) (unreadable : Str)
    (dated : ∀ tick, env.stamp tick < endOfTime) {moves : List DeliveryMove}
    (fresh : DeliveryMove.Fresh moves) :
    let enqueued := (Sqlite.Delivery.runAll env clock unreadable moves).1
    let stored := (Sqlite.Delivery.runAll env clock unreadable moves).2
    (∀ payload ∈ enqueued, ∃! row, row ∈ stored.queue.rows ∧
      row.edgeEventId = payload.edgeEventId) ∧
    (∀ row ∈ stored.queue.rows, ∃ payload ∈ enqueued, payload.edgeEventId = row.edgeEventId ∧
      ∃ object, loads row.payloadJson = some object ∧
        SameFields object (payload.object clock)) ∧
    ∀ body ∈ stored.posted, ∃ payload ∈ enqueued, SameFields body (payload.object clock) := by
  intro enqueued stored
  obtain ⟨same, number, shows⟩ := Delivery.runAll_shown clock unreadable dated moves
  change enqueued = _ at same
  have free := DeliveryMove.runAll_lossFree env fresh
  have rows := shows.queue.rows
  have genuine {edgeEventId : Str} {payload : EventPayload}
      (found : EnqueuedAs (DeliveryMove.runAll env moves).1 edgeEventId payload) :
      ∃ original ∈ enqueued, original.edgeEventId = edgeEventId ∧
        SameFields (payload.object clock).sorted (original.object clock) := by
    obtain ⟨original, member, id, event⟩ := found
    refine ⟨original, same ▸ member, id, ?_⟩
    intro key other
    rw [event.sameFields clock key other, InsertionDict.get?_sorted]
  refine ⟨?_, ?_, ?_⟩
  · intro payload member
    have known := free.kept payload (same ▸ member)
    rw [← shows.queue.rows_edgeEventIds] at known
    obtain ⟨row, inside, id⟩ := List.mem_map.mp known
    refine ⟨row, ⟨inside, id⟩, ?_⟩
    intro other both
    have distinct : (stored.queue.rows.map (·.edgeEventId)).Nodup :=
      shows.queue.rows_edgeEventIds ▸ (DeliveryMove.runAll env moves).2.queue.unique
    exact List.inj_on_of_nodup_map distinct both.1 inside (both.2.trans id.symm)
  · intro row member
    change row ∈ (Sqlite.Delivery.runAll env clock unreadable moves).2.queue.rows at member
    rw [rows] at member
    obtain ⟨model, inside, rfl⟩ := List.mem_map.mp member
    obtain ⟨original, enqueuedHere, id, fields⟩ := genuine (free.rows model inside)
    exact ⟨original, enqueuedHere, id, _, loads_dumps _, fields⟩
  · intro body member
    change body ∈ (Sqlite.Delivery.runAll env clock unreadable moves).2.posted at member
    rw [shows.posted] at member
    obtain ⟨payload, sent, rfl⟩ := List.mem_map.mp member
    obtain ⟨original, enqueuedHere, _, fields⟩ := genuine (free.sent payload sent)
    exact ⟨original, enqueuedHere, fields⟩

theorem sqlite_keeps_events_quoted :
    let moves := [DeliveryMove.enqueue quotedReader, .process 1, .process 1]
    let stored := (Sqlite.Delivery.runAll leapDayEnv utcTimestamp [] moves).2
    stored.posted.length = 2 ∧
      ∀ body ∈ stored.posted, ∃ payload ∈ [quotedReader],
        SameFields body (payload.object utcTimestamp) := by
  intro moves stored
  have fresh : DeliveryMove.Fresh moves := by decide
  obtain ⟨-, -, kept⟩ := sqlite_keeps_events leapDayEnv utcTimestamp [] leapDayEnv_dated fresh
  have once : (Sqlite.Delivery.runAll leapDayEnv utcTimestamp [] moves).1 = [quotedReader] := by
    decide +kernel
  rw [once] at kept
  exact ⟨by decide +kernel, kept⟩

end MvdEdge
