import MvdEdge.App.DeliveryRound
import MvdEdge.App.LineRules
import MvdEdge.App.RunProperties
import MvdEdge.Lib.Raising

/-! Where the failures of a run come from: the code raises exceptions only, and anything
else was done to an operation from outside. -/

set_option autoImplicit false

namespace MvdEdge

open Lib Lib.Effect

section OnTheLine

variable {env : LineEnv} {allowed : Exn → Prop}
  (stored : ∀ tick failure, env.fault tick = some failure → allowed failure)

include stored

theorem pyserial_raises {α : Type} (act : Line → α × Line) :
    Raises allowed (IDT85Reader.pyserial env act) := Raises.operation stored

theorem close_raises (reader : IDT85Reader) : Raises allowed (reader.close env) := by
  refine Raises.get fun line => ?_
  cases line.serialOf reader.object with
  | none => exact .pure _
  | some handle => exact .operation stored

theorem permitted_operates (exceptions : ∀ message, allowed (.exception message)) :
    Operates env (fun _ => True) fun failure _ => allowed failure where
  created := fun _ _ _ => trivial
  opened := fun _ => pyserial_raises stored _
  closed := close_raises stored
  unwound := fun reader _ line permitted => (close_raises stored reader line trivial).imp
    (fun _ _ _ => permitted) fun _ _ later => later
  reset := fun _ => pyserial_raises stored _
  wrote := fun _ _ _ => (Raises.update _).bind fun _ => pyserial_raises stored _
  flushed := pyserial_raises stored _
  slept := Raises.operation stored
  read := fun _ _ => pyserial_raises stored _
  logged := fun _ _ _ _ => trivial
  exception := fun message _ _ => exceptions message
  caught := fun _ _ _ _ _ => trivial

end OnTheLine

/-- Exceptions, the end of the process and all that the surroundings do to operations. -/
structure AgentEnv.Permits (env : AgentEnv) (allowed : Exn → Prop) : Prop where
  exceptions : ∀ message, allowed (.exception message)
  killed : allowed .killed
  process : ∀ tick failure, env.fault tick = some failure → allowed failure
  line : ∀ tick failure, env.line.fault tick = some failure → allowed failure
  delivery : ∀ tick failure, env.delivery.fault tick = some failure → allowed failure

namespace Agent

section Permitting

variable {env : AgentEnv} {config : EdgeConfig} {allowed : Exn → Prop}
  (permits : env.Permits allowed)

include permits

theorem operates : Operates env.line (fun _ => True) fun failure _ => allowed failure :=
  permitted_operates permits.line permits.exceptions

theorem quietly_raises {α : Type} (act : Nat → World → α × World) :
    Raises allowed (quietly env act) := Raises.operation permits.process

theorem statement_raises {α : Type} (run : EventQueue → Timestamp → α × EventQueue) :
    Raises allowed (onDelivery (Delivery.statement env.delivery run)) :=
  Raises.zoom (Raises.operation permits.delivery)

theorem process_raises :
    Raises allowed
      (onDelivery (Delivery.processPendingDeliveries env.delivery config.queueBatchSize)) := by
  refine Raises.zoom fun state _ => ?_
  refine (Delivery.processPendingDeliveries_stopped env.delivery config.queueBatchSize state
    state rfl).imp (fun _ _ _ => trivial) fun failure _ stopped => ?_
  obtain ⟨tick, found⟩ | ⟨-, rfl⟩ := stopped
  · exact permits.delivery tick failure found
  · exact permits.exceptions tooLarge

theorem permitted_serves :
    Serves env config (fun _ => True) fun failure _ => allowed failure where
  tick := fun _ _ => trivial
  fault := fun _ _ stored _ _ => permits.process _ _ stored
  cut := fun _ _ => permits.killed
  delivery := fun _ _ _ => trivial
  heartbeat := fun _ _ _ => trivial
  slept := fun _ _ _ => trivial
  pendingCount := statement_raises permits _
  process := process_raises permits

theorem permitted_attends :
    Attends env config (fun _ => True) fun failure _ => allowed failure where
  reader := fun _ _ _ => trivial
  survey := Raises.operation permits.process
  discover := fun _ => Raises.zoom (discoverReaderPort_operates (operates permits) _ _ _)
  created := fun _ => Raises.zoom (Raises.update _)
  verified := fun _ => Raises.zoom (connectAndVerifyReader_operates (operates permits) _ _)
  mark := fun _ => quietly_raises permits _
  attempt := fun _ _ _ => trivial
  readerState := fun _ _ _ => trivial

theorem readInventory_raises (reader : IDT85Reader) :
    Raises allowed (readInventory env config reader) := by
  have absorbed (inventory : Except Str InventoryResult) (now : Time) (read : InventoryRead) :
      Raises allowed (absorb env reader inventory now read) :=
    absorb_keeps (Raises.zoom (close_raises permits.line reader)) fun _ _ => trivial
  have asked : Raises allowed (onLine (reader.inventory env.line)) :=
    Raises.zoom (Triple.bind (IDT85Reader.sendCommand_operates (operates permits) reader
      fun _ _ _ _ => trivial) fun _ => Raises.pure _)
  exact (quietly_raises permits _).bind fun _ => asked.attempt.bind fun inventory =>
    (quietly_raises permits _).bind fun now => (quietly_raises permits _).bind fun read =>
    (absorbed inventory now read).bind fun _ => .pure _

theorem scanPhase_raises : Raises allowed (scanPhase env config) :=
  scanPhase_keeps (fun _ _ => True) (fun _ _ _ _ => trivial) (fun _ _ _ _ => trivial)
    (fun _ _ => quietly_raises permits _) (fun _ => quietly_raises permits _)
    (readInventory_raises permits)

theorem enqueueEvents_raises (events : List DetectedEvent) :
    Raises allowed (enqueueEvents env config events) :=
  enqueueEvents_keeps (fun _ _ => True) (fun _ => quietly_raises permits _)
    (fun _ => quietly_raises permits _) (fun _ _ _ => statement_raises permits _) events

theorem sendHeartbeat_raises : Raises allowed (sendHeartbeat env config) :=
  sendHeartbeat_keeps (statement_raises permits _) (quietly_raises permits _)
    (fun _ _ _ _ => trivial) fun message _ _ => permits.exceptions message

theorem cleanup_raises : Raises allowed (cleanup env) := by
  have closed : Raises allowed (closeReader env) :=
    closeReader_keeps fun reader => Raises.zoom (close_raises permits.line reader)
  exact closed.bind fun _ => statement_raises permits _

theorem permitted_conduct :
    Conduct env config (fun _ _ => True) fun lost _ => lost.elim True allowed where
  serves := permitted_serves permits
  send := sendHeartbeat_raises permits
  keeps := fun _ _ _ => trivial
  caught := fun _ _ => trivial
  head := fun _ _ => trivial
  reconnect := reconnectPhase_attends (permitted_attends permits)
  scan := scanPhase_raises permits
  enqueue := enqueueEvents_raises permits
  opened := statement_raises permits _
  cleanup := fun _ world lost => (cleanup_raises permits world trivial).imp (fun _ _ _ => lost)
    fun _ _ permitted => permitted
  unsupported := fun _ _ _ => permits.exceptions _

theorem loop_raises (turns : Nat) : Raises allowed (loop env config turns) :=
  loop_conduct (permitted_conduct permits) turns

end Permitting

end Agent

end MvdEdge
