import MvdEdge.Lib.Effect
import MvdEdge.Transport.Cloud

/-! Store-and-forward: `process_pending_deliveries` over the durable queue and
the cloud. Every database statement, clock reading and HTTP exchange is an
operation of its own, and the process may end at any of them. -/

set_option autoImplicit false

namespace MvdEdge

open Lib Lib.Effect

/-- What the surroundings do: failures and clock readings by operation, HTTP
exchanges by the number of events sent before. -/
structure DeliveryEnv where
  fault : Nat → Option Exn
  stamp : Nat → Timestamp
  exchange : Nat → Exchange
  str : Json → Str

structure DeliveryState where
  tick : Nat
  queue : EventQueue
  cloud : Cloud
  healthState : Option HealthState

def DeliveryState.empty : DeliveryState := ⟨0, .empty, .empty, none⟩

instance : Ticking DeliveryState where
  tick := DeliveryState.tick
  advance state := { state with tick := state.tick + 1 }

abbrev Delivery := EStateM Exn DeliveryState

namespace Delivery

section Operations

variable (env : DeliveryEnv)

def statement {α : Type} (run : EventQueue → Timestamp → α × EventQueue) : Delivery α :=
  operation env.fault (fun _ => true) fun tick state =>
    let (value, queue) := run state.queue (env.stamp tick)
    (value, { state with queue })

def enqueue (payload : EventPayload) : Delivery Unit :=
  statement env fun queue now => ((), queue.enqueue payload now)

def fetchPending (limit : Nat) : Delivery (List QueuedEvent) := do
  let fetched ← statement env fun queue _ => (queue.fetchPending limit, queue)
  match fetched with
  | .ok batch => return batch
  | .error message => throw (.exception message)

def pendingCount : Delivery Nat := statement env fun queue _ => (queue.pendingCount, queue)

def markAttempt (edgeEventId : Str) (error : Option Str) : Delivery Unit :=
  statement env fun queue now => ((), queue.markAttempt edgeEventId error now)

def updatePayload (edgeEventId : Str) (payload : EventPayload) : Delivery Unit :=
  statement env fun queue _ => ((), queue.updatePayload edgeEventId payload)

def markDelivered (edgeEventId : Str) : Delivery Unit :=
  statement env fun queue now => ((), queue.markDelivered edgeEventId now)

def timestamp : Delivery Timestamp :=
  operation env.fault Exn.interrupts fun tick state => (env.stamp tick, state)

def markHealth (mark : HealthState → Timestamp → HealthState) : Delivery Unit :=
  operation env.fault Exn.interrupts fun tick state =>
    ((), { state with
      healthState := state.healthState.map fun health => mark health (env.stamp tick) })

def post (payload : EventPayload) : Delivery HttpReply :=
  operation env.fault Exn.interrupts fun _ state =>
    let exchange := env.exchange state.cloud.sent.length
    (exchange.reply, { state with cloud := state.cloud.receive payload exchange.stored })

def sendPayload (payload : EventPayload) : Delivery DeliveryResult := do
  let reply ← post env payload
  match sendPayloadResult env.str reply with
  | .ok result => return result
  | .error message => throw (.exception message)

/-- `except Exception as exc: DeliveryResult(success=False, error=str(exc))`. -/
def resultOf : Except Str DeliveryResult → DeliveryResult
  | .ok result => result
  | .error message => { success := false, error := some message }

def settle (edgeEventId : Str) (success : Bool) : Delivery Unit :=
  if success then do
    markDelivered env edgeEventId
    markHealth env HealthState.markCloudDelivery
  else
    markHealth env fun health => health.markError "CLOUD_DELIVERY_FAILED".toList

/-- The body of the delivery loop; whether the event was delivered. -/
def deliver (queuedEvent : QueuedEvent) : Delivery Bool := do
  let now ← timestamp env
  let payload := { queuedEvent.payload with edgeSendAt := now }
  updatePayload env queuedEvent.edgeEventId payload
  let sent ← attempt Exn.caught (sendPayload env payload)
  let result := resultOf sent
  markAttempt env queuedEvent.edgeEventId (if result.success then none else result.error)
  settle env queuedEvent.edgeEventId result.success
  return result.success

def deliverBatch : List QueuedEvent → Nat → Delivery Nat
  | [], deliveredCount => return deliveredCount
  | queuedEvent :: rest, deliveredCount => do
      let delivered ← deliver env queuedEvent
      deliverBatch rest (if delivered then deliveredCount + 1 else deliveredCount)

def processPendingDeliveries (batchSize : Nat) : Delivery Nat := do
  let batch ← fetchPending env batchSize
  deliverBatch env batch 0

end Operations

end Delivery

end MvdEdge
