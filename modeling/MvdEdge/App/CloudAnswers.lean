import MvdEdge.App.DeliveryRound
import MvdEdge.App.RunProperties

/-! What the answers of the cloud can do to a run: which ones deliver an event or
confirm a heartbeat, and which ones end the process. -/

set_option autoImplicit false

namespace MvdEdge

open Lib Lib.Effect

/-- 200 and an object whose status is "ok". -/
def HttpReply.confirms : HttpReply → Bool
  | .response statusCode _ (.ok (.obj result)) =>
      statusCode == 200 && (Json.get result "status".toList).isText "ok".toList
  | _ => false

namespace Delivery

section Rounds

variable (env : DeliveryEnv)

/-- An event with this identifier was sent since `start`, and acknowledged. -/
def Acknowledged (start state : DeliveryState) (edgeEventId : Str) : Prop :=
  ∃ send payload, start.cloud.sent.length ≤ send ∧ state.cloud.sent[send]? = some payload ∧
    payload.edgeEventId = edgeEventId ∧ (env.exchange send).reply.acknowledges = true

/-- Every row that was delivered since `start` has its acknowledged send. -/
structure Backed (start state : DeliveryState) : Prop where
  sent : start.cloud.sent <+: state.cloud.sent
  delivered : ∀ row ∈ state.queue.rows, row.status = .DELIVERED →
    (∃ old ∈ start.queue.rows, old.edgeEventId = row.edgeEventId ∧ old.status = .DELIVERED) ∨
      Acknowledged env start state row.payload.edgeEventId

/-- The key of each row, and the identifier inside its payload. -/
def names (queue : EventQueue) : List (Str × Str) :=
  queue.rows.map fun row => (row.edgeEventId, row.payload.edgeEventId)

structure Backs (start : DeliveryState) (board : List (Str × Str)) (state : DeliveryState) : Prop
    extends Backed env start state where
  named : names state.queue = board

variable {env} {start state next : DeliveryState} {board : List (Str × Str)}

theorem Acknowledged.later {edgeEventId : Str}
    (acknowledged : Acknowledged env start state edgeEventId)
    (more : state.cloud.sent <+: next.cloud.sent) : Acknowledged env start next edgeEventId := by
  obtain ⟨send, payload, later, found, same⟩ := acknowledged
  obtain ⟨rest, whole⟩ := more
  refine ⟨send, payload, later, ?_, same⟩
  rw [← whole, List.getElem?_append_left (List.getElem?_eq_some_iff.mp found).1]
  exact found

theorem Backed.congr (backed : Backed env start state) (queue : next.queue = state.queue)
    (cloud : state.cloud.sent <+: next.cloud.sent) : Backed env start next where
  sent := backed.sent.trans cloud
  delivered := by
    intro row member delivered
    rw [queue] at member
    exact (backed.delivered row member delivered).imp_right fun acknowledged =>
      acknowledged.later cloud

theorem Backs.congr (backs : Backs env start board state) (queue : next.queue = state.queue)
    (cloud : state.cloud.sent <+: next.cloud.sent) : Backs env start board next :=
  ⟨backs.toBacked.congr queue cloud, queue ▸ backs.named⟩

theorem Backed.refl (env : DeliveryEnv) (start : DeliveryState) : Backed env start start :=
  ⟨List.prefix_refl _, fun row member delivered => .inl ⟨row, member, rfl, delivered⟩⟩

/-- The failures that are not the doing of an answer: the end of the process, a database
statement that raised since `start`, and a batch size SQLite has no integer for. -/
inductive Ended (env : DeliveryEnv) (batchSize : Nat) (start state : DeliveryState) :
    Exn → Prop where
  | stopped {failure : Exn} (uncaught : failure.caught = none) :
      Ended env batchSize start state failure
  | database {failure : Exn} {α : Type} {run : EventQueue → Timestamp → α × EventQueue}
      (before : DeliveryState) (since : start.tick ≤ before.tick)
      (reached : before.tick < state.tick)
      (raised : failing (statement env run) before = some failure) :
      Ended env batchSize start state failure
  | refused (large : integerOverflow ≤ batchSize) :
      Ended env batchSize start state (.exception tooLarge)

theorem Ended.later {batchSize : Nat} {failure : Exn}
    (ended : Ended env batchSize start state failure) (later : state.tick ≤ next.tick) :
    Ended env batchSize start next failure := by
  cases ended with
  | stopped uncaught => exact .stopped uncaught
  | database before since reached raised => exact .database before since (by omega) raised
  | refused large => exact .refused large

variable {batchSize : Nat}

end Rounds

end Delivery

/-! ## Failures of the line -/

/-- Only what no handler catches gets out of `program`. -/
def Contained {α : Type} (program : Serial α) : Prop :=
  Triple (fun _ => True) program (fun _ _ => True) fun failure _ => failure.caught = none

section Contained

variable {env : LineEnv} {α β : Type}

theorem Contained.bind {program : Serial α} {next : α → Serial β} (first : Contained program)
    (second : ∀ value, Contained (next value)) : Contained (program >>= next) :=
  Triple.bind first fun value => second value

theorem Contained.pure (value : α) : Contained (Pure.pure value : Serial α) :=
  Triple.pure fun _ _ => trivial

theorem Contained.attempt (program : Serial α) : Contained (attempt Exn.caught program) :=
  Triple.attempt (Triple.any _ program) (fun _ _ _ _ _ => trivial) fun _ _ uncaught _ => uncaught

end Contained

/-! ## Runs -/

/-- The failures of the process since `start` that are not the doing of an answer: its end,
a port enumeration or a database statement that raised, a heartbeat request that failed
in a way `requests` does not declare, and settings the agent cannot run with. -/
inductive Foreign (env : AgentEnv) (config : EdgeConfig) (start world : World) : Exn → Prop where
  | ports {failure : Exn} (before : World) (since : start.tick ≤ before.tick)
      (reached : before.tick < world.tick)
      (raised : failing (Agent.enumeratePorts env) before = some failure) :
      Foreign env config start world failure
  | delivery {failure : Exn} (ended : Delivery.Ended env.delivery config.queueBatchSize
      start.delivery world.delivery failure) : Foreign env config start world failure
  | transport {text : Str} (tick : Nat) (since : start.tick ≤ tick) (reached : tick < world.tick)
      (raised : env.heartbeat tick = .raised (.other text)) :
      Foreign env config start world (.exception text)
  | unsupported (other : config.deviceType ≠ "IDT85".toList) :
      Foreign env config start world
        (.exception ("Unsupported DEVICE_TYPE: ".toList ++ config.deviceType))

theorem Foreign.stopped {env : AgentEnv} {config : EdgeConfig} {start world : World}
    {failure : Exn} (uncaught : failure.caught = none) :
    Foreign env config start world failure := .delivery (.stopped uncaught)

theorem Foreign.later {env : AgentEnv} {config : EdgeConfig} {start world next : World}
    {failure : Exn} (foreign : Foreign env config start world failure)
    (later : world.tick ≤ next.tick) (deliveryLater : world.delivery.tick ≤ next.delivery.tick) :
    Foreign env config start next failure := by
  cases foreign with
  | ports before since reached raised =>
      exact .ports before since (reached.trans_le later) raised
  | delivery ended => exact .delivery (ended.later deliveryLater)
  | transport tick since reached raised =>
      exact .transport tick since (reached.trans_le later) raised
  | unsupported other => exact .unsupported other

/-- A heartbeat counts as successful only on an answer that confirms it. -/
def Confirmed (env : AgentEnv) (start world : World) : Prop :=
  ∀ heartbeat ∈ world.heartbeats, heartbeat.result.success = true →
    ∃ tick, start.tick ≤ tick ∧ tick < world.tick ∧
      sendHeartbeatResult (env.heartbeat tick) = .ok heartbeat.result ∧
      (env.heartbeat tick).confirms = true

/-- What a process has taken for delivered or sent, the cloud has confirmed. -/
structure Answered (env : AgentEnv) (start world : World) : Prop where
  backed : Delivery.Backed env.delivery start.delivery world.delivery
  confirmed : Confirmed env start world
  tick : start.tick ≤ world.tick
  deliveryTick : start.delivery.tick ≤ world.delivery.tick

/-- The part of the world `Answered` is about. -/
def World.answers (world : World) : DeliveryState × Nat × List Heartbeat :=
  ({ world.delivery with healthState := none }, world.tick, world.heartbeats)

section Answered

variable {env : AgentEnv} {config : EdgeConfig} {start world next : World}

theorem Answered.congr (answered : Answered env start world)
    (same : next.answers = world.answers) : Answered env start next := by
  obtain ⟨delivery, tick, heartbeats⟩ : { next.delivery with healthState := none } =
      { world.delivery with healthState := none } ∧ next.tick = world.tick ∧
        next.heartbeats = world.heartbeats := by simpa [World.answers] using same
  obtain ⟨ticks, queue, cloud⟩ : next.delivery.tick = world.delivery.tick ∧
      next.delivery.queue = world.delivery.queue ∧
        next.delivery.cloud = world.delivery.cloud := by simpa using delivery
  refine ⟨answered.backed.congr queue (by rw [cloud]), ?_, tick ▸ answered.tick,
    ticks ▸ answered.deliveryTick⟩
  rw [Confirmed, heartbeats, tick]
  exact answered.confirmed

theorem Answered.advance (answered : Answered env start world) :
    Answered env start (Ticking.advance world) where
  backed := answered.backed
  confirmed := fun heartbeat member success => by
    obtain ⟨tick, since, reached, answer⟩ := answered.confirmed heartbeat member success
    exact ⟨tick, since, Nat.lt_succ_of_lt reached, answer⟩
  tick := Nat.le_succ_of_le answered.tick
  deliveryTick := answered.deliveryTick

end Answered

namespace Agent

section Answering

variable {env : AgentEnv} {config : EdgeConfig} {start : World}

end Answering

end Agent

end MvdEdge
