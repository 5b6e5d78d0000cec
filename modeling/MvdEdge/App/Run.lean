import MvdEdge.Adapters.InventoryReport
import MvdEdge.App.Connect
import MvdEdge.App.DeliveryOrder
import MvdEdge.App.Inventory
import MvdEdge.Discovery.Serial

/-! `run_agent`: one process of the agent, from start to shutdown or crash. The
state has the durable queue and the cloud, the serial line, and the process's
own objects and loop variables. -/

set_option autoImplicit false

namespace MvdEdge

open Lib Lib.Effect

/-- The settings `run_agent` reads, with what `EdgeConfig.from_env` has checked:
an environment value has no NUL, and the timeout is not at most zero. -/
structure EdgeConfig where
  applicationProfile : Str
  customerId : Str
  siteId : Str
  locationId : Str
  zoneId : Str
  deviceId : Str
  deviceType : Str
  readerId : Str
  probe : ProbeSettings
  usb : UsbFilter
  serialPort : Str
  scanInterval : PyFloat
  exitTimeout : PyFloat
  queueRetryInterval : PyFloat
  queueBatchSize : Nat
  readerDiscoveryInterval : PyFloat
  autoConfigureReader : Bool
  heartbeatInterval : PyFloat
  heartbeatApiUrl : Str
  readerIdClean : nul ∉ readerId
  exitTimeoutChecked : exitTimeout.reachedBy 0 = false

structure Heartbeat where
  readerState : ReaderState
  healthState : Option HealthState
  queuePending : Nat
  result : DeliveryResult

/-- An inventory as the loop took it in, before operation `tick`. -/
structure ScanRecord where
  inventory : Except Str InventoryResult
  now : Time
  mint : Mint
  tick : Nat

/-- `heartbeats`, `slept` and `scanLog` list what the process did, newest first. -/
structure World where
  tick : Nat
  line : Line
  delivery : DeliveryState
  presence : PresenceState
  reader : Option IDT85Reader
  readerState : ReaderState
  nextReaderAttempt : PyFloat
  lastDeliveryAttempt : Time
  lastHeartbeatAttempt : Time
  updates : Nat
  heartbeats : List Heartbeat
  slept : List PyFloat
  scanLog : List ScanRecord

/-- The surroundings of a process. Answers to its own operations are numbered by
operation, mints by the updates of the presence state. -/
structure AgentEnv where
  line : LineEnv
  delivery : DeliveryEnv
  fault : Nat → Option Exn
  clock : Nat → Time
  stamp : Nat → Timestamp
  shutdown : Nat → Bool
  survey : Nat → PortSurvey
  mint : Nat → Mint
  heartbeat : Nat → HttpReply

instance : Ticking World where
  tick := World.tick
  advance world := { world with tick := world.tick + 1 }

abbrev Agent := EStateM Exn World

def World.linePart : Part World Line :=
  ⟨World.line, fun line world => { world with line }, fun _ _ => rfl⟩

def World.deliveryPart : Part World DeliveryState :=
  ⟨World.delivery, fun delivery world => { world with delivery }, fun _ _ => rfl⟩

def onLine {α : Type} (program : Serial α) : Agent α := zoom World.linePart program

def onDelivery {α : Type} (program : Delivery α) : Agent α := zoom World.deliveryPart program

namespace World

def setHealth (world : World) (healthState : Option HealthState) : World :=
  { world with delivery := { world.delivery with healthState } }

def currentHandle (world : World) : Option Nat :=
  world.reader.bind fun reader => world.line.serialOf reader.object

def withHead (world : World) : World :=
  { world with
    line := { world.line with
      log := .loopHead world.readerState world.currentHandle :: world.line.log } }

/-- The memory of a new process. Handles of an old one are gone with it. -/
def boot (config : EdgeConfig) (world : World) : World :=
  { world with
    line := { world.line with serialOf := fun _ => none, log := [] }
    delivery := { world.delivery with healthState := some { readerState := .DISCONNECTED } }
    presence := PresenceState.new config.exitTimeout
    reader := none
    readerState := .DISCONNECTED
    nextReaderAttempt := .finite 0
    lastDeliveryAttempt := 0
    lastHeartbeatAttempt := 0
    heartbeats := []
    slept := []
    scanLog := [] }

end World

namespace Agent

section Operations

variable (env : AgentEnv)

/-- An operation that raises no `Exception` of its own. -/
def quietly {α : Type} (act : Nat → World → α × World) : Agent α :=
  operation env.fault Exn.interrupts act

def time : Agent Time := quietly env fun tick world => (env.clock tick, world)

def shutdownRequested : Agent Bool := quietly env fun tick world => (env.shutdown tick, world)

def assign (change : World → World) : Agent Unit :=
  modifyGet fun world => ((), change world)

def mark (change : HealthState → Timestamp → HealthState) : Agent Unit :=
  quietly env fun tick world =>
    ((), world.setHealth (world.delivery.healthState.map fun health =>
      change health (env.stamp tick)))

def setReaderState (readerState : ReaderState) : Agent Unit :=
  assign fun world => { world with readerState }

end Operations

section Phases

variable (env : AgentEnv) (config : EdgeConfig)

def shouldAutoDiscover (serialPort : Str) : Bool := upper serialPort = "AUTO".toList

def enumeratePorts : Agent PortSurvey :=
  operation env.fault (fun _ => true) fun tick world => (env.survey tick, world)

def resolveReaderPort : Agent (Option Str × Str × Option DiscoveryResult) :=
  if shouldAutoDiscover config.serialPort = false then
    return (some config.serialPort, "Using configured serial port".toList, none)
  else do
    let survey ← enumeratePorts env
    let result ← onLine (discoverReaderPort env.line config.probe config.usb survey)
    return (orElse result.selectedPort none, result.message, some result)

def connect (selectedPort : Option Str) (message : Str) (discovery : Option DiscoveryResult) :
    Agent (ReaderState × Str) :=
  match orElse selectedPort none with
  | some port => do
      let reader ← onLine (IDT85Reader.new port config.probe.baudrate config.probe.readerAddress
        config.probe.readerVerifyMethod .agent)
      assign fun world => { world with reader := some reader }
      onLine (connectAndVerifyReader env.line reader config.autoConfigureReader)
  | none =>
      match discovery with
      | some result =>
          if result.supportedReaders.length > 1 then return (.CONFIG_ERROR, message)
          else return (.DISCONNECTED, message)
      | none => return (.DISCONNECTED, message)

def reportConnection (now : Time) (readerState : ReaderState) (message : Str) : Agent Unit :=
  if readerState ≠ .READY then do
    mark env fun health => health.markError
      (if readerState = .CONFIG_ERROR then message else "SERIAL_DISCONNECTED".toList)
    mark env fun health _ => health.markReaderOffline message
    assign fun world =>
      { world with nextReaderAttempt := config.readerDiscoveryInterval.after now }
  else do
    mark env fun health _ => health.markReaderReady
    mark env fun health _ => health.clearError

def connectPhase (now : Time) : Agent Unit := do
  setReaderState .CONNECTING
  mark env fun health _ => health.setReaderState .CONNECTING
  mark env fun health _ => health.markReconnectAttempt
  let (selectedPort, message, discovery) ← resolveReaderPort env config
  let (readerState, message) ← connect env config selectedPort message discovery
  setReaderState readerState
  mark env fun health _ => health.setReaderState readerState
  reportConnection env config now readerState message

def closeLost (reader : IDT85Reader) (read : InventoryRead) : Agent Unit :=
  if read.readerClosed then onLine (reader.close env.line) else return ()

def absorb (reader : IDT85Reader) (inventory : Except Str InventoryResult) (now : Time)
    (read : InventoryRead) : Agent Unit := do
  closeLost env reader read
  assign fun world =>
    { world.setHealth read.healthState with
      presence := read.state
      updates := world.updates + 1
      scanLog := ⟨inventory, now, env.mint world.updates, world.tick⟩ :: world.scanLog }

def readInventory (reader : IDT85Reader) : Agent InventoryRead := do
  let _ ← time env
  let inventory ← attempt Exn.caught (onLine (reader.inventory env.line))
  let now ← time env
  let read ← quietly env fun tick world =>
    (readInventoryEvents ⟨inventory, now, env.stamp tick, env.mint world.updates⟩ world.presence
      world.delivery.healthState (some config.readerId), world)
  absorb env reader inventory now read
  return read

/-- The scan of a ready reader; `none` is the `continue` of the loop. -/
def scanPhase : Agent (Option (List DetectedEvent)) := do
  let world ← get
  if world.readerState ≠ .READY then return some []
  else
    match world.reader with
    | none => do
        setReaderState .DISCONNECTED
        mark env fun health _ => health.setReaderState .DISCONNECTED
        return none
    | some reader => do
        let read ← readInventory env config reader
        setReaderState read.readerState
        mark env fun health _ => health.setReaderState read.readerState
        if read.readerState = .DISCONNECTED then do
          let now ← time env
          assign fun world =>
            { world with nextReaderAttempt := config.readerDiscoveryInterval.after now }
          return some read.events
        else return some read.events

def buildEventPayload (event : DetectedEvent) (sendAt : Timestamp) : EventPayload where
  edgeEventId := event.edgeEventId
  event := event.eventType
  epc := event.epc
  readerId := (orElse event.readerId none).getD config.readerId
  customerId := some config.customerId
  siteId := some config.siteId
  deviceId := some config.deviceId
  applicationProfile := some config.applicationProfile
  locationId := some config.locationId
  zoneId := some config.zoneId
  timestamp := event.edgeEventAt
  edgeEventAt := event.edgeEventAt
  edgeSendAt := sendAt

def enqueueEvents : List DetectedEvent → Agent Unit
  | [] => return ()
  | event :: rest => do
      mark env HealthState.markEvent
      let sendAt ← quietly env fun tick world => (env.stamp tick, world)
      onDelivery (Delivery.enqueue env.delivery (buildEventPayload config event sendAt))
      enqueueEvents rest

def attemptImmediateDelivery : Agent Time := do
  let _ ← onDelivery (Delivery.pendingCount env.delivery)
  let _ ← onDelivery (Delivery.processPendingDeliveries env.delivery config.queueBatchSize)
  time env

def deliverNow : Agent Unit := do
  let attempted ← attemptImmediateDelivery env config
  assign fun world => { world with lastDeliveryAttempt := attempted }

def deliverEvents (events : List DetectedEvent) : Agent Unit :=
  if events ≠ [] then deliverNow env config else return ()

def retryDeliveries : Agent Unit := do
  let now ← time env
  let world ← get
  if config.queueRetryInterval.reachedBy (timeSince now world.lastDeliveryAttempt) then
    deliverNow env config
  else return ()

/-- `CloudTransport.send_heartbeat`. Collecting telemetry cannot fail the heartbeat. -/
def sendHeartbeat : Agent Unit := do
  let queuePending ← onDelivery (Delivery.pendingCount env.delivery)
  let reply ← quietly env fun tick world => (env.heartbeat tick, world)
  let answer : Except Str DeliveryResult :=
    if config.heartbeatApiUrl = [] then
      .ok { success := false, error := some "Heartbeat URL is not configured".toList }
    else sendHeartbeatResult reply
  match answer with
  | .ok result =>
      assign fun world =>
        { world with
          heartbeats := ⟨world.readerState, world.delivery.healthState, queuePending, result⟩ ::
            world.heartbeats }
  | .error message => throw (.exception message)

def heartbeatPhase : Agent Unit := do
  let now ← time env
  let world ← get
  if config.heartbeatInterval.reachedBy (timeSince now world.lastHeartbeatAttempt) then do
    sendHeartbeat env config
    let sentAt ← time env
    assign fun world => { world with lastHeartbeatAttempt := sentAt }
  else return ()

def pause (interval : ℚ) : PyFloat → PyFloat
  | .finite remaining => .finite (min interval remaining)
  | _ => .finite interval

/-- The waiting loop, up to a number of turns at which the run is cut. -/
def sleepUntil (endAt : PyFloat) (interval : ℚ) : Nat → Agent Unit
  | 0 => throw .killed
  | turns + 1 => do
      let stop ← shutdownRequested env
      if stop then return ()
      else do
        let now ← time env
        let remaining := endAt.less now
        if remaining.reachedBy 0 then return ()
        else do
          quietly env fun _ world =>
            ((), { world with slept := pause interval remaining :: world.slept })
          sleepUntil endAt interval turns

def interruptibleSleep (duration : PyFloat) (interval : ℚ) (turns : Nat) : Agent Unit := do
  let now ← time env
  sleepUntil env (duration.after now) interval turns

def sleepPhase (scanStart : Time) (turns : Nat) : Agent Unit := do
  let now ← time env
  let sleepTime := config.scanInterval.less (timeSince now scanStart)
  if sleepTime.isPositive then interruptibleSleep env sleepTime (Binary64.round (1 / 5)) turns
  else return ()

def reconnectPhase (now : Time) : Agent Unit := do
  let world ← get
  if world.nextReaderAttempt.reachedBy now ∧ world.readerState ≠ .READY then
    connectPhase env config now
  else return ()

def servePhase (events : List DetectedEvent) (scanStart : Time) (turns : Nat) : Agent Unit := do
  enqueueEvents env config events
  deliverEvents env config events
  retryDeliveries env config
  heartbeatPhase env config
  sleepPhase env config scanStart turns

def turn (turns : Nat) : Agent Unit := do
  let scanStart ← time env
  let now ← time env
  reconnectPhase env config now
  let scanned ← scanPhase env config
  match scanned with
  | none => return ()
  | some events => servePhase env config events scanStart turns

def noteHead : Agent Unit := assign World.withHead

/-- The main loop, up to a number of turns at which the run is cut. -/
def loop : Nat → Agent Unit
  | 0 => throw .killed
  | turns + 1 => do
      noteHead
      let stop ← shutdownRequested env
      if stop then return ()
      else do
        turn env config turns
        loop turns

def closeReader : Agent Unit := do
  let world ← get
  match world.reader with
  | some reader => onLine (reader.close env.line)
  | none => return ()

def cleanup : Agent Unit := do
  closeReader env
  onDelivery (Delivery.statement env.delivery fun queue _ => ((), queue))

def stoppedByKey : Exn → Option Unit
  | .keyboardInterrupt => some ()
  | _ => none

def supervise (turns : Nat) : Agent Unit :=
  ensuring Exn.unwinds
    (do
      let _ ← attempt stoppedByKey (loop env config turns)
      return ())
    (cleanup env)

/-- `run_agent`. A run of more turns than `turns` is observed up to there. -/
def runAgent (turns : Nat) : Agent Unit := do
  assign (World.boot config)
  if config.deviceType ≠ "IDT85".toList then
    throw (.exception ("Unsupported DEVICE_TYPE: ".toList ++ config.deviceType))
  else do
    -- Opening the database runs a statement that changes no row.
    onDelivery (Delivery.statement env.delivery fun queue _ => ((), queue))
    let _ ← onDelivery (Delivery.pendingCount env.delivery)
    let _ ← onDelivery (Delivery.processPendingDeliveries env.delivery config.queueBatchSize)
    let now ← time env
    assign fun world => { world with lastDeliveryAttempt := now }
    supervise env config turns

end Phases

end Agent

/-! ## A sample -/

def sampleConfig : EdgeConfig where
  applicationProfile := []
  customerId := []
  siteId := []
  locationId := []
  zoneId := []
  deviceId := []
  deviceType := "IDT85".toList
  readerId := "R".toList
  probe := ⟨57600, 0x00, VERIFY_AUTO⟩
  usb := ⟨none, none, none⟩
  serialPort := "COM3".toList
  scanInterval := .finite 0
  exitTimeout := .finite 3
  queueRetryInterval := .inf
  queueBatchSize := 1
  readerDiscoveryInterval := .finite 5
  autoConfigureReader := false
  heartbeatInterval := .inf
  heartbeatApiUrl := []
  readerIdClean := by decide
  exitTimeoutChecked := by decide +kernel

/-- A reader in Answer Mode that sees one tag; the fourth command of each process
is its first inventory. Nothing fails. -/
def sampleSurroundings : AgentEnv where
  line := ⟨fun _ => none, fun writes =>
    if writes % 4 = 3 then singleTagReport.frame else [0x06, 0x00, 0x36, 0x00, 0x00, 0x00, 0x00]⟩
  delivery := calmEnv fun _ => storedReply
  fault := fun _ => none
  clock := fun _ => 0
  stamp := id
  shutdown := fun _ => false
  survey := fun _ => ⟨[], [], fun _ => none⟩
  mint := fun call =>
    ⟨fun index => List.replicate call 'a' ++ 'b' :: List.replicate index 'a', fun _ => 0⟩
  heartbeat := fun _ => .raised (.requestException [])

def sampleWorld : World where
  tick := 0
  line := .idle
  delivery := .empty
  presence := .new .inf
  reader := none
  readerState := .DISCONNECTED
  nextReaderAttempt := .finite 0
  lastDeliveryAttempt := 0
  lastHeartbeatAttempt := 0
  updates := 0
  heartbeats := []
  slept := []
  scanLog := []

end MvdEdge
