import MvdEdge.App.Run

/-! Rules for the phases of a turn. A rule takes what the single operations keep to
what the phase keeps, for any invariant and any account of interruptions. -/

set_option autoImplicit false

namespace MvdEdge

open Lib Lib.Effect

variable {τ : Type}

/-- `inv` survives what a turn does apart from the reader; an interruption leaves `raised`. -/
structure Serves (env : AgentEnv) (config : EdgeConfig) (inv : World → Prop)
    (raised : Exn → World → Prop) : Prop where
  tick : ∀ world, inv world → inv (Ticking.advance world)
  fault : ∀ failure world, env.fault world.tick = some failure → failure.caught = none →
    inv world → raised failure (Ticking.advance world)
  cut : ∀ world, inv world → raised .killed world
  delivery : ∀ world time, inv world → inv { world with lastDeliveryAttempt := time }
  heartbeat : ∀ world time, inv world → inv { world with lastHeartbeatAttempt := time }
  slept : ∀ world slept, inv world → inv { world with slept }
  pendingCount : Triple inv (onDelivery (Delivery.pendingCount env.delivery)) (fun _ => inv) raised
  process : Triple inv
    (onDelivery (Delivery.processPendingDeliveries env.delivery config.queueBatchSize))
    (fun _ => inv) raised

namespace Agent

section Serving

variable {env : AgentEnv} {config : EdgeConfig} {inv : World → Prop}
  {raised : Exn → World → Prop} (serves : Serves env config inv raised)

include serves

theorem quietly_triple {α : Type} {act : Nat → World → α × World} {post : α → World → Prop}
    (returns : ∀ tick world, inv world → post (act tick world).1 (act tick world).2) :
    Triple inv (quietly env act) post raised :=
  Triple.operation_of_fault (fun world holds => returns _ _ (serves.tick world holds))
    fun failure world stored interrupts holds => serves.fault failure world stored
      (Option.isNone_iff_eq_none.mp interrupts) holds

theorem quietly_serves {α : Type} {act : Nat → World → α × World}
    (kept : ∀ tick world, inv world → inv (act tick world).2) :
    Triple inv (quietly env act) (fun _ => inv) raised :=
  quietly_triple serves kept

theorem time_serves : Triple inv (time env) (fun _ => inv) raised :=
  quietly_serves serves fun _ _ holds => holds

theorem time_reads :
    Triple inv (time env) (fun now world => inv world ∧ ∃ tick, now = env.clock tick) raised :=
  quietly_triple serves fun tick _ holds => ⟨holds, tick, rfl⟩

theorem shutdownRequested_serves : Triple inv (shutdownRequested env) (fun _ => inv) raised :=
  quietly_serves serves fun _ _ holds => holds

theorem deliverNow_serves : Triple inv (deliverNow env config) (fun _ => inv) raised := by
  have attempted : Triple inv (attemptImmediateDelivery env config) (fun _ => inv) raised :=
    Triple.bind serves.pendingCount fun _ => Triple.bind serves.process fun _ =>
      time_serves serves
  exact Triple.bind attempted fun time => Triple.update fun world => serves.delivery world time

theorem deliverEvents_serves (events : List DetectedEvent) :
    Triple inv (deliverEvents env config events) (fun _ => inv) raised := by
  unfold deliverEvents
  split
  · exact deliverNow_serves serves
  · exact Triple.pure fun _ holds => holds

theorem retryDeliveries_serves : Triple inv (retryDeliveries env config) (fun _ => inv) raised := by
  refine Triple.bind (time_serves serves) fun now => Triple.read fun world => ?_
  split
  · exact deliverNow_serves serves
  · exact Triple.pure fun _ holds => holds

theorem heartbeatPhase_serves
    (sent : Triple inv (sendHeartbeat env config) (fun _ => inv) raised) :
    Triple inv (heartbeatPhase env config) (fun _ => inv) raised := by
  refine Triple.bind (time_serves serves) fun now => Triple.read fun world => ?_
  split
  · exact Triple.bind sent fun _ => Triple.bind (time_serves serves) fun sentAt =>
      Triple.update fun world => serves.heartbeat world sentAt
  · exact Triple.pure fun _ holds => holds

theorem sleepUntil_serves (endAt : PyFloat) (interval : ℚ) (turns : Nat) :
    Triple inv (sleepUntil env endAt interval turns) (fun _ => inv) raised := by
  induction turns with
  | zero => exact Triple.throw serves.cut
  | succ turns ih =>
      refine Triple.bind (shutdownRequested_serves serves) fun stop => ?_
      split
      · exact Triple.pure fun _ holds => holds
      · refine Triple.bind (time_serves serves) fun now => ?_
        dsimp only
        split
        · exact Triple.pure fun _ holds => holds
        · exact Triple.bind (quietly_serves serves fun _ world => serves.slept world _)
            fun _ => ih

theorem sleepPhase_serves (scanStart : Time) (turns : Nat) :
    Triple inv (sleepPhase env config scanStart turns) (fun _ => inv) raised := by
  refine Triple.bind (time_serves serves) fun now => ?_
  dsimp only
  split
  · exact Triple.bind (time_serves serves) fun _ => sleepUntil_serves serves _ _ _
  · exact Triple.pure fun _ holds => holds

theorem servePhase_serves {events : List DetectedEvent} {pre : World → Prop}
    (enqueued : Triple pre (enqueueEvents env config events) (fun _ => inv) raised)
    (sent : Triple inv (sendHeartbeat env config) (fun _ => inv) raised) (scanStart : Time)
    (turns : Nat) :
    Triple pre (servePhase env config events scanStart turns) (fun _ => inv) raised :=
  Triple.bind enqueued fun _ => Triple.bind (deliverEvents_serves serves events) fun _ =>
    Triple.bind (retryDeliveries_serves serves) fun _ =>
    Triple.bind (heartbeatPhase_serves serves sent) fun _ =>
    sleepPhase_serves serves scanStart turns

end Serving

end Agent

/-- `inv` survives the search for a reader and the talk with it, whatever becomes of them. -/
structure Probes (env : AgentEnv) (config : EdgeConfig) (inv : World → Prop)
    (raised : Exn → World → Prop) : Prop where
  reader : ∀ world reader, inv world → inv { world with reader }
  survey : Triple inv (Agent.enumeratePorts env) (fun _ => inv) raised
  discover : ∀ survey, Triple inv
    (onLine (discoverReaderPort env.line config.probe config.usb survey)) (fun _ => inv) raised
  created : ∀ port, Triple inv (onLine (IDT85Reader.new port config.probe.baudrate
    config.probe.readerAddress config.probe.readerVerifyMethod .agent)) (fun _ => inv) raised
  verified : ∀ reader, Triple inv
    (onLine (connectAndVerifyReader env.line reader config.autoConfigureReader))
    (fun _ => inv) raised

/-- `inv` survives the attempts to connect a reader. -/
structure Attends (env : AgentEnv) (config : EdgeConfig) (inv : World → Prop)
    (raised : Exn → World → Prop) : Prop extends Probes env config inv raised where
  mark : ∀ change, Triple inv (Agent.mark env change) (fun _ => inv) raised
  attempt : ∀ world time, inv world → inv { world with nextReaderAttempt := time }
  readerState : ∀ world readerState, inv world → inv { world with readerState }

namespace Agent

section Attending

variable {env : AgentEnv} {config : EdgeConfig} {inv : World → Prop}
  {raised : Exn → World → Prop}

theorem resolveReaderPort_probes (probes : Probes env config inv raised) :
    Triple inv (resolveReaderPort env config) (fun _ => inv) raised := by
  unfold resolveReaderPort
  split
  · exact Triple.pure fun _ holds => holds
  · exact Triple.bind probes.survey fun survey => Triple.bind (probes.discover survey) fun _ =>
      Triple.pure fun _ holds => holds

theorem connect_probes (probes : Probes env config inv raised) (selectedPort : Option Str)
    (message : Str) (discovery : Option DiscoveryResult) :
    Triple inv (connect env config selectedPort message discovery) (fun _ => inv) raised := by
  unfold connect
  split
  · exact Triple.bind (probes.created _) fun reader =>
      Triple.bind (Triple.update fun world => probes.reader world (some reader)) fun _ =>
      probes.verified reader
  · split
    · split
      · exact Triple.pure fun _ holds => holds
      · exact Triple.pure fun _ holds => holds
    · exact Triple.pure fun _ holds => holds

variable (attends : Attends env config inv raised)

include attends

theorem reportConnection_attends (now : Time) (readerState : ReaderState) (message : Str) :
    Triple inv (reportConnection env config now readerState message) (fun _ => inv) raised := by
  unfold reportConnection
  split
  · exact Triple.bind (attends.mark _) fun _ => Triple.bind (attends.mark _) fun _ =>
      Triple.update fun world => attends.attempt world _
  · exact Triple.bind (attends.mark _) fun _ => attends.mark _

theorem reconnectPhase_attends (now : Time) :
    Triple inv (reconnectPhase env config now) (fun _ => inv) raised := by
  have connected : Triple inv (connectPhase env config now) (fun _ => inv) raised :=
    Triple.bind (Triple.update fun world => attends.readerState world .CONNECTING) fun _ =>
    Triple.bind (attends.mark _) fun _ => Triple.bind (attends.mark _) fun _ =>
    Triple.bind (resolveReaderPort_probes attends.toProbes) fun resolved =>
    Triple.bind (connect_probes attends.toProbes _ _ _) fun result =>
    Triple.bind (Triple.update fun world => attends.readerState world result.1) fun _ =>
    Triple.bind (attends.mark _) fun _ => reportConnection_attends attends now _ _
  refine Triple.read fun world => ?_
  split
  · exact connected
  · exact Triple.pure fun _ holds => holds

end Attending

end Agent

namespace Agent

section Keeping

variable {env : AgentEnv} {config : EdgeConfig} {raised : Exn → World → Prop}

/-- What a scan read is taken over; a port that was lost is closed before. -/
theorem absorb_keeps {middle final : World → Prop} {reader : IDT85Reader}
    {inventory : Except Str InventoryResult} {now : Time} {read : InventoryRead}
    (closed : Triple middle (onLine (reader.close env.line)) (fun _ => middle) raised)
    (taken : ∀ world, middle world → final { world.setHealth read.healthState with
      presence := read.state
      updates := world.updates + 1
      scanLog := ⟨inventory, now, env.mint world.updates, world.tick⟩ :: world.scanLog }) :
    Triple middle (absorb env reader inventory now read) (fun _ => final) raised := by
  have left : Triple middle (closeLost env reader read) (fun _ => middle) raised := by
    unfold closeLost
    split
    · exact closed
    · exact Triple.pure fun _ holds => holds
  exact Triple.bind left fun _ => Triple.update taken

theorem closeReader_keeps {inv : World → Prop}
    (closed : ∀ reader : IDT85Reader,
      Triple inv (onLine (reader.close env.line)) (fun _ => inv) raised) :
    Triple inv (closeReader env) (fun _ => inv) raised := by
  refine Triple.read fun world => ?_
  split
  · exact closed _
  · exact Triple.pure fun _ holds => holds

theorem sendHeartbeat_keeps {pre post : World → Prop}
    (counted : Triple pre (onDelivery (Delivery.pendingCount env.delivery)) (fun _ => pre) raised)
    (replied : Triple pre (quietly env fun tick world => (env.heartbeat tick, world))
      (fun _ => pre) raised)
    (sent : ∀ world queuePending result, pre world → post { world with
      heartbeats := ⟨world.readerState, world.delivery.healthState, queuePending, result⟩ ::
        world.heartbeats })
    (failed : ∀ message world, pre world → raised (.exception message) world) :
    Triple pre (sendHeartbeat env config) (fun _ => post) raised := by
  refine Triple.bind counted fun queuePending => Triple.bind replied fun reply => ?_
  dsimp only
  split
  · exact Triple.update fun world => sent world queuePending _
  · exact Triple.throw fun world => failed _ world

variable (inv : List DetectedEvent → World → Prop)

/-- What a scan does besides the reading, with `inv` indexed by the events it hands on. -/
theorem scanPhase_keeps
    (state : ∀ events world readerState, inv events world → inv events { world with readerState })
    (attempt : ∀ events world time, inv events world →
      inv events { world with nextReaderAttempt := time })
    (marked : ∀ events readerState, Triple (inv events)
      (mark env fun health _ => health.setReaderState readerState) (fun _ => inv events) raised)
    (timed : ∀ events, Triple (inv events) (time env) (fun _ => inv events) raised)
    (read : ∀ reader, Triple (inv []) (readInventory env config reader)
      (fun read => inv read.events) raised) :
    Triple (inv []) (scanPhase env config) (fun scanned => inv (scanned.getD [])) raised := by
  have turnedTo (events : List DetectedEvent) (readerState : ReaderState) :
      Triple (inv events) (setReaderState readerState) (fun _ => inv events) raised :=
    Triple.update fun world => state events world readerState
  refine Triple.read fun world => ?_
  split
  · exact Triple.pure fun _ holds => holds
  · split
    · exact Triple.bind (turnedTo [] _) fun _ => Triple.bind (marked [] _) fun _ =>
        Triple.pure fun _ holds => holds
    · refine Triple.bind (read _) fun read => Triple.bind (turnedTo read.events _) fun _ =>
        Triple.bind (marked read.events _) fun _ => ?_
      split
      · exact Triple.bind (timed read.events) fun _ =>
          Triple.bind (Triple.update fun world => attempt read.events world _) fun _ =>
          Triple.pure fun _ holds => holds
      · exact Triple.pure fun _ holds => holds

/-- The events of a scan, one row after the other. -/
theorem enqueueEvents_keeps
    (marked : ∀ events,
      Triple (inv events) (mark env HealthState.markEvent) (fun _ => inv events) raised)
    (stamped : ∀ events, Triple (inv events)
      (quietly env fun tick world => (env.stamp tick, world)) (fun _ => inv events) raised)
    (stored : ∀ event rest sendAt, Triple (inv (event :: rest))
      (onDelivery (Delivery.enqueue env.delivery (buildEventPayload config event sendAt)))
      (fun _ => inv rest) raised) (events : List DetectedEvent) :
    Triple (inv events) (enqueueEvents env config events) (fun _ => inv []) raised := by
  induction events with
  | nil => exact Triple.pure fun _ holds => holds
  | cons event rest ih =>
      exact Triple.bind (marked _) fun _ => Triple.bind (stamped _) fun sendAt =>
        Triple.bind (stored event rest sendAt) fun _ => ih

end Keeping

end Agent

/-- What it takes for `inv`, indexed by the events a scan has yet to enqueue, to
survive a run. The run leaves `kept`, of the failure that ended it where there is one. -/
structure Conduct (env : AgentEnv) (config : EdgeConfig)
    (inv : List DetectedEvent → World → Prop) (kept : Option Exn → World → Prop) : Prop where
  serves : Serves env config (inv []) fun failure => kept (some failure)
  send : Triple (inv []) (Agent.sendHeartbeat env config) (fun _ => inv [])
    fun failure => kept (some failure)
  keeps : ∀ events world, inv events world → kept none world
  caught : ∀ world, kept (some .keyboardInterrupt) world → kept none world
  head : ∀ world, inv [] world → inv [] world.withHead
  reconnect : ∀ now, Triple (inv []) (Agent.reconnectPhase env config now) (fun _ => inv [])
    fun failure => kept (some failure)
  scan : Triple (inv []) (Agent.scanPhase env config) (fun scanned => inv (scanned.getD []))
    fun failure => kept (some failure)
  enqueue : ∀ events, Triple (inv events) (Agent.enqueueEvents env config events)
    (fun _ => inv []) fun failure => kept (some failure)
  opened : Triple (inv [])
    (onDelivery (Delivery.statement env.delivery fun queue _ => ((), queue)))
    (fun _ => inv []) fun failure => kept (some failure)
  cleanup : ∀ lost, Triple (kept lost) (Agent.cleanup env) (fun _ => kept lost)
    fun failure => kept (some failure)
  unsupported : ∀ world, config.deviceType ≠ "IDT85".toList → inv [] world →
    kept (some (.exception ("Unsupported DEVICE_TYPE: ".toList ++ config.deviceType))) world

namespace Agent

section Running

variable {env : AgentEnv} {config : EdgeConfig} {inv : List DetectedEvent → World → Prop}
  {kept : Option Exn → World → Prop} (conduct : Conduct env config inv kept)

include conduct

theorem turn_conduct (turns : Nat) :
    Triple (inv []) (turn env config turns) (fun _ => inv [])
      fun failure => kept (some failure) := by
  refine Triple.bind (time_serves conduct.serves) fun scanStart =>
    Triple.bind (time_serves conduct.serves) fun now =>
    Triple.bind (conduct.reconnect now) fun _ => Triple.bind conduct.scan fun scanned => ?_
  cases scanned with
  | none => exact Triple.pure fun _ holds => holds
  | some events =>
      exact servePhase_serves conduct.serves (conduct.enqueue events) conduct.send scanStart turns

theorem loop_conduct (turns : Nat) :
    Triple (inv []) (loop env config turns) (fun _ => inv [])
      fun failure => kept (some failure) := by
  induction turns with
  | zero => exact Triple.throw conduct.serves.cut
  | succ turns ih =>
      refine Triple.bind (Triple.update conduct.head) fun _ =>
        Triple.bind (shutdownRequested_serves conduct.serves) fun stop => ?_
      split
      · exact Triple.pure fun _ holds => holds
      · exact Triple.bind (turn_conduct conduct turns) fun _ => ih

theorem supervise_conduct (turns : Nat) :
    Triple (inv []) (supervise env config turns) (fun _ => kept none)
      fun failure => kept (some failure) := by
  have looped : Triple (inv []) (attempt stoppedByKey (loop env config turns))
      (fun _ => kept none) fun failure => kept (some failure) := by
    refine Triple.attempt ((loop_conduct conduct turns).returning fun _ => conduct.keeps [])
      (fun failure reason world stopped holds => ?_) fun _ _ _ holds => holds
    cases failure with
    | keyboardInterrupt => exact conduct.caught world holds
    | exception message => exact nomatch stopped
    | killed => exact nomatch stopped
  exact Triple.ensuring (Triple.bind looped fun _ => Triple.pure fun _ holds => holds)
    (fun _ => conduct.cleanup none) (fun failure _ => conduct.cleanup (some failure))
    fun _ _ _ holds => holds

theorem runAgent_conduct (turns : Nat) :
    Triple (fun world => inv [] (world.boot config)) (runAgent env config turns)
      (fun _ => kept none) fun failure => kept (some failure) := by
  have boots : Triple (fun world => inv [] (world.boot config)) (assign (World.boot config))
      (fun _ => inv []) fun failure => kept (some failure) :=
    Triple.update fun _ holds => holds
  refine Triple.bind boots fun _ => ?_
  split
  · rename_i unsupported
    exact Triple.throw fun world => conduct.unsupported world unsupported
  · exact Triple.bind conduct.opened fun _ =>
      Triple.bind conduct.serves.pendingCount fun _ =>
      Triple.bind conduct.serves.process fun _ =>
      Triple.bind (time_serves conduct.serves) fun now =>
      Triple.bind (Triple.update fun world => conduct.serves.delivery world now) fun _ =>
      supervise_conduct conduct turns

end Running

end Agent

/-! ## What the bookkeeping leaves alone -/

/-- `view` shows nothing of the bookkeeping: of clock readings, health marks,
delivery rounds, heartbeats and pauses. -/
structure Aside (env : AgentEnv) (config : EdgeConfig) (view : World → τ) : Prop where
  tick : ∀ world, view (Ticking.advance world) = view world
  health : ∀ world healthState, view (World.setHealth world healthState) = view world
  attempt : ∀ world time, view { world with nextReaderAttempt := time } = view world
  delivery : ∀ world time, view { world with lastDeliveryAttempt := time } = view world
  heartbeat : ∀ world time, view { world with lastHeartbeatAttempt := time } = view world
  heartbeats : ∀ world heartbeats, view { world with heartbeats } = view world
  slept : ∀ world slept, view { world with slept } = view world
  pendingCount : Leaves view (onDelivery (Delivery.pendingCount env.delivery))
  process : Leaves view
    (onDelivery (Delivery.processPendingDeliveries env.delivery config.queueBatchSize))

namespace Agent

variable {env : AgentEnv} {config : EdgeConfig} {view : World → τ} (aside : Aside env config view)

include aside

theorem quietly_aside {α : Type} {act : Nat → World → α × World}
    (same : ∀ tick world, view (act tick world).2 = view world) :
    Leaves view (quietly env act) := Leaves.operation same aside.tick

theorem time_aside : Leaves view (time env) := quietly_aside aside fun _ _ => rfl

theorem shutdownRequested_aside : Leaves view (shutdownRequested env) :=
  quietly_aside aside fun _ _ => rfl

theorem mark_aside (change : HealthState → Timestamp → HealthState) :
    Leaves view (mark env change) := quietly_aside aside fun _ world => aside.health world _

theorem reportConnection_aside (now : Time) (readerState : ReaderState) (message : Str) :
    Leaves view (reportConnection env config now readerState message) := by
  have mark := mark_aside aside
  unfold reportConnection
  split
  · exact Leaves.bind (mark _) fun _ => Leaves.bind (mark _) fun _ =>
      Leaves.update fun world => aside.attempt world _
  · exact Leaves.bind (mark _) fun _ => mark _

theorem sendHeartbeat_aside : Leaves view (sendHeartbeat env config) :=
  fun shown => sendHeartbeat_keeps (aside.pendingCount shown)
    (quietly_aside aside (fun _ _ => rfl) shown)
    (fun world _ _ same => (aside.heartbeats world _).trans same) fun _ _ same => same

/-- What looking the same preserves is served. -/
theorem aside_serves {inv : World → Prop} {raised : Exn → World → Prop}
    (stable : ∀ world next, view next = view world → inv world → inv next)
    (raises : ∀ failure world, inv world → raised failure world) :
    Serves env config inv raised where
  tick := fun world => stable world _ (aside.tick world)
  fault := fun failure world _ _ holds => raises failure _ (stable world _ (aside.tick world) holds)
  cut := raises .killed
  delivery := fun world time => stable world _ (aside.delivery world time)
  heartbeat := fun world time => stable world _ (aside.heartbeat world time)
  slept := fun world slept => stable world _ (aside.slept world slept)
  pendingCount := aside.pendingCount.triple stable raises
  process := aside.process.triple stable raises

theorem servePhase_aside {events : List DetectedEvent}
    (enqueued : Leaves view (enqueueEvents env config events)) (scanStart : Time) (turns : Nat) :
    Leaves view (servePhase env config events scanStart turns) :=
  fun shown => servePhase_serves (aside_serves aside (fun _ _ same holds => same.trans holds)
    fun _ _ holds => holds) (enqueued shown) (sendHeartbeat_aside aside shown) scanStart turns

end Agent

end MvdEdge
