import MvdEdge.App.Run
import MvdEdge.Lib.Ghost

/-! Runs of the agent that keep a journal. A run passes the marks of its turns, and
notes of some of them what it is to note. Without the journal it is a run of
`run_agent`, whatever is noted. -/

set_option autoImplicit false

namespace MvdEdge

open Lib Lib.Effect Lib.Ghost

/-- A point that a turn passes. -/
inductive Mark where
  | started (done : Time)
  | turned
  | attempted (now : Time)
  | tried
  | waited (now : Time)
  | answered (read : InventoryRead)
  | scanned
  | lost (now : Time)
  | enqueued
  | delivered (done : Time)
  | retried (now done : Time)
  | held (now : Time)
  | beating
  | beat (now done : Time)
  | quiet (now : Time)

abbrev Journaled (κ : Type) := EStateM Exn (World × List κ)

namespace Journaled

section Phases

variable {κ : Type} (note : Mark → World → Option κ) (env : AgentEnv) (config : EdgeConfig)

def reconnectPhase (now : Time) : Journaled κ Unit := do
  let world ← silent get
  if world.nextReaderAttempt.reachedBy now ∧ world.readerState ≠ .READY then do
    noting (note (.attempted now))
    silent (Agent.connectPhase env config now)
    noting (note .tried)
  else noting (note (.waited now))

def takeOver (read : InventoryRead) : Journaled κ (Option (List DetectedEvent)) := do
  silent (Agent.setReaderState read.readerState)
  silent (Agent.mark env fun health _ => health.setReaderState read.readerState)
  noting (note (.answered read))
  if read.readerState = .DISCONNECTED then do
    let now ← silent (Agent.time env)
    silent (Agent.assign fun world =>
      { world with nextReaderAttempt := config.readerDiscoveryInterval.after now })
    noting (note (.lost now))
    return some read.events
  else do
    noting (note .scanned)
    return some read.events

def scanPhase : Journaled κ (Option (List DetectedEvent)) := do
  let world ← silent get
  if world.readerState ≠ .READY then return some []
  else
    match world.reader with
    | none => do
        silent (Agent.setReaderState .DISCONNECTED)
        silent (Agent.mark env fun health _ => health.setReaderState .DISCONNECTED)
        return none
    | some reader => do
        let read ← silent (Agent.readInventory env config reader)
        takeOver note env config read

def enqueueEvents : List DetectedEvent → Journaled κ Unit
  | [] => return ()
  | event :: rest => do
      silent (Agent.mark env HealthState.markEvent)
      let sendAt ← silent (Agent.quietly env fun tick world => (env.stamp tick, world))
      silent (onDelivery
        (Delivery.enqueue env.delivery (Agent.buildEventPayload config event sendAt)))
      noting (note .enqueued)
      enqueueEvents rest

def deliverEvents (events : List DetectedEvent) : Journaled κ Unit :=
  if events ≠ [] then do
    let attempted ← silent (Agent.attemptImmediateDelivery env config)
    silent (Agent.assign fun world => { world with lastDeliveryAttempt := attempted })
    noting (note (.delivered attempted))
  else return ()

def retryDeliveries : Journaled κ Unit := do
  let now ← silent (Agent.time env)
  let world ← silent get
  if config.queueRetryInterval.reachedBy (timeSince now world.lastDeliveryAttempt) then do
    let attempted ← silent (Agent.attemptImmediateDelivery env config)
    silent (Agent.assign fun world => { world with lastDeliveryAttempt := attempted })
    noting (note (.retried now attempted))
  else noting (note (.held now))

def heartbeatPhase : Journaled κ Unit := do
  let now ← silent (Agent.time env)
  let world ← silent get
  if config.heartbeatInterval.reachedBy (timeSince now world.lastHeartbeatAttempt) then do
    noting (note .beating)
    silent (Agent.sendHeartbeat env config)
    let sentAt ← silent (Agent.time env)
    silent (Agent.assign fun world => { world with lastHeartbeatAttempt := sentAt })
    noting (note (.beat now sentAt))
  else noting (note (.quiet now))

def servePhase (events : List DetectedEvent) (scanStart : Time) (turns : Nat) :
    Journaled κ Unit := do
  enqueueEvents note env config events
  deliverEvents note env config events
  retryDeliveries note env config
  heartbeatPhase note env config
  silent (Agent.sleepPhase env config scanStart turns)

def turn (turns : Nat) : Journaled κ Unit := do
  noting (note .turned)
  let scanStart ← silent (Agent.time env)
  let now ← silent (Agent.time env)
  reconnectPhase note env config now
  let scanned ← scanPhase note env config
  match scanned with
  | none => return ()
  | some events => servePhase note env config events scanStart turns

def loop : Nat → Journaled κ Unit
  | 0 => throw .killed
  | turns + 1 => do
      silent Agent.noteHead
      let stop ← silent (Agent.shutdownRequested env)
      if stop then return ()
      else do
        turn note env config turns
        loop turns

def supervise (turns : Nat) : Journaled κ Unit :=
  ensuring Exn.unwinds
    (do
      let _ ← attempt Agent.stoppedByKey (loop note env config turns)
      return ())
    (silent (Agent.cleanup env))

def runAgent (turns : Nat) : Journaled κ Unit := do
  silent (Agent.assign (World.boot config))
  if config.deviceType ≠ "IDT85".toList then
    throw (.exception ("Unsupported DEVICE_TYPE: ".toList ++ config.deviceType))
  else do
    silent (onDelivery (Delivery.statement env.delivery fun queue _ => ((), queue)))
    let _ ← silent (onDelivery (Delivery.pendingCount env.delivery))
    let _ ← silent
      (onDelivery (Delivery.processPendingDeliveries env.delivery config.queueBatchSize))
    let now ← silent (Agent.time env)
    silent (Agent.assign fun world => { world with lastDeliveryAttempt := now })
    noting (note (.started now))
    supervise note env config turns

end Phases

/-! ## The journal changes nothing -/

section Erasure

variable {κ : Type} {note : Mark → World → Option κ} {env : AgentEnv} {config : EdgeConfig}

/-- Nothing is left of a note that ends a branch. -/
theorem noting_erases (entry : World → Option κ) :
    Erases (noting entry : Journaled κ Unit) (pure ()) := fun _ => rfl

theorem reconnectPhase_erases (now : Time) :
    Erases (reconnectPhase note env config now) (Agent.reconnectPhase env config now) := by
  refine (Erases.silent _).bind fun world => ?_
  split
  · exact .noting (Erases.silent _).followed
  · exact noting_erases _

theorem takeOver_erases (read : InventoryRead) :
    Erases (takeOver note env config read) (do
      Agent.setReaderState read.readerState
      Agent.mark env fun health _ => health.setReaderState read.readerState
      if read.readerState = .DISCONNECTED then do
        let now ← Agent.time env
        Agent.assign fun world =>
          { world with nextReaderAttempt := config.readerDiscoveryInterval.after now }
        return some read.events
      else return some read.events) := by
  refine (Erases.silent _).bind fun _ => (Erases.silent _).bind fun _ => .noting ?_
  split
  · exact (Erases.silent _).bind fun _ => (Erases.silent _).bind fun _ => .noting (.pure _)
  · exact .noting (.pure _)

theorem scanPhase_erases :
    Erases (scanPhase note env config) (Agent.scanPhase env config) := by
  refine (Erases.silent _).bind fun world => ?_
  split
  · exact .pure _
  · cases world.reader with
    | none => exact (Erases.silent _).bind fun _ => (Erases.silent _).bind fun _ => .pure _
    | some reader => exact (Erases.silent _).bind fun read => takeOver_erases read

theorem enqueueEvents_erases (events : List DetectedEvent) :
    Erases (enqueueEvents note env config events) (Agent.enqueueEvents env config events) := by
  induction events with
  | nil => exact .pure _
  | cons event rest ih =>
      exact (Erases.silent _).bind fun _ => (Erases.silent _).bind fun _ =>
        (Erases.silent _).bind fun _ => .noting ih

theorem deliverEvents_erases (events : List DetectedEvent) :
    Erases (deliverEvents note env config events) (Agent.deliverEvents env config events) := by
  unfold deliverEvents Agent.deliverEvents
  split
  · exact (Erases.silent _).bind fun _ => (Erases.silent _).followed
  · exact .pure _

theorem retryDeliveries_erases :
    Erases (retryDeliveries note env config) (Agent.retryDeliveries env config) := by
  refine (Erases.silent _).bind fun now => (Erases.silent _).bind fun world => ?_
  split
  · exact (Erases.silent _).bind fun _ => (Erases.silent _).followed
  · exact noting_erases _

theorem heartbeatPhase_erases :
    Erases (heartbeatPhase note env config) (Agent.heartbeatPhase env config) := by
  refine (Erases.silent _).bind fun now => (Erases.silent _).bind fun world => ?_
  split
  · exact .noting ((Erases.silent _).bind fun _ => (Erases.silent _).bind fun _ =>
      (Erases.silent _).followed)
  · exact noting_erases _

theorem turn_erases (turns : Nat) :
    Erases (turn note env config turns) (Agent.turn env config turns) := by
  refine .noting ((Erases.silent _).bind fun scanStart => (Erases.silent _).bind fun now =>
    (reconnectPhase_erases now).bind fun _ => scanPhase_erases.bind fun scanned => ?_)
  cases scanned with
  | none => exact .pure _
  | some events =>
      exact (enqueueEvents_erases events).bind fun _ => (deliverEvents_erases events).bind fun _ =>
        retryDeliveries_erases.bind fun _ => heartbeatPhase_erases.bind fun _ => .silent _

theorem loop_erases (turns : Nat) :
    Erases (loop note env config turns) (Agent.loop env config turns) := by
  induction turns with
  | zero => exact .throw _
  | succ turns ih =>
      refine (Erases.silent _).bind fun _ => (Erases.silent _).bind fun stop => ?_
      split
      · exact .pure _
      · exact (turn_erases turns).bind fun _ => ih

theorem runAgent_erases (turns : Nat) :
    Erases (runAgent note env config turns) (Agent.runAgent env config turns) := by
  refine (Erases.silent _).bind fun _ => ?_
  split
  · exact .throw _
  · exact (Erases.silent _).bind fun _ => (Erases.silent _).bind fun _ =>
      (Erases.silent _).bind fun _ => (Erases.silent _).bind fun _ =>
      (Erases.silent _).bind fun _ =>
      .noting (.ensuring ((loop_erases turns).attempt.bind fun _ => .pure _) (.silent _))

end Erasure

/-! ## Phases of which nothing is noted -/

section Blank

variable {κ : Type} {note : Mark → World → Option κ} {env : AgentEnv} {config : EdgeConfig}

theorem enqueueEvents_silent (blank : ∀ world, note .enqueued world = none)
    (events : List DetectedEvent) :
    enqueueEvents note env config events = silent (Agent.enqueueEvents env config events) := by
  induction events with
  | nil => rfl
  | cons event rest ih =>
      simp only [enqueueEvents, Agent.enqueueEvents, silent_bind, noting_none blank, pure_bind, ih]

theorem deliverEvents_silent (blank : ∀ done world, note (.delivered done) world = none)
    (events : List DetectedEvent) :
    deliverEvents note env config events = silent (Agent.deliverEvents env config events) := by
  unfold deliverEvents Agent.deliverEvents
  split
  · simp only [Agent.deliverNow, silent_bind, noting_none (blank _), bind_pure_unit]
  · rfl

theorem retryDeliveries_silent (blank : ∀ now done world, note (.retried now done) world = none)
    (idle : ∀ now world, note (.held now) world = none) :
    retryDeliveries note env config = silent (Agent.retryDeliveries env config) := by
  simp only [retryDeliveries, Agent.retryDeliveries, silent_bind]
  congr 1
  funext now
  congr 1
  funext world
  split
  · simp only [Agent.deliverNow, silent_bind, noting_none (blank _ _), bind_pure_unit]
  · exact noting_none (idle now)

end Blank

end Journaled

end MvdEdge
