import MvdEdge.App.History
import MvdEdge.App.Surveying
import MvdEdge.Lib.Within

/-! What the parts of a turn touch: the serial line, the reader's variables, presence, the
rows of the queue, the cloud, health, the heartbeats, or the pause between turns. Each
part leaves the rest of the process alone. -/

set_option autoImplicit false

namespace MvdEdge

open Lib Lib.Effect PresenceState

/-- What a step of a turn may be about. -/
inductive Concern where
  | line
  | reader
  | presence
  | rows
  | cloud
  | health
  | heartbeat
  | pause
  deriving DecidableEq

def LineEvent.isHead : LineEvent → Bool
  | .loopHead _ _ => true
  | _ => false

/-- The line but for the marks that the head of the loop leaves in its log. -/
def Line.unmarked (line : Line) : Line :=
  { line with log := line.log.filter fun event => !event.isHead }

/-- Time has passed, and nothing changed that was not touched. -/
structure Onward (touched : List Concern) (first last : World) : Prop where
  tick : first.tick ≤ last.tick
  stamps : first.delivery.tick ≤ last.delivery.tick
  line : .line ∉ touched → last.line.unmarked = first.line.unmarked
  log : .line ∉ touched → .pause ∉ touched → last.line.log = first.line.log
  reader : .reader ∉ touched → last.readerState = first.readerState ∧
    last.reader = first.reader ∧ last.nextReaderAttempt = first.nextReaderAttempt
  presence : .presence ∉ touched → last.presence = first.presence ∧
    last.updates = first.updates ∧ last.scanLog = first.scanLog
  rows : .rows ∉ touched → last.delivery.queue.history = first.delivery.queue.history
  queue : .rows ∉ touched → .cloud ∉ touched → last.delivery.queue = first.delivery.queue
  cloud : .cloud ∉ touched → last.delivery.cloud = first.delivery.cloud ∧
    last.lastDeliveryAttempt = first.lastDeliveryAttempt
  health : .health ∉ touched → last.delivery.healthState = first.delivery.healthState
  heartbeat : .heartbeat ∉ touched → last.heartbeats = first.heartbeats ∧
    last.lastHeartbeatAttempt = first.lastHeartbeatAttempt
  slept : .pause ∉ touched → last.slept = first.slept

section Touching

variable {touched more : List Concern} {first second third last : World}

theorem Onward.refl (touched : List Concern) (world : World) : Onward touched world world :=
  ⟨le_rfl, le_rfl, fun _ => rfl, fun _ _ => rfl, fun _ => ⟨rfl, rfl, rfl⟩,
    fun _ => ⟨rfl, rfl, rfl⟩, fun _ => rfl, fun _ _ => rfl, fun _ => ⟨rfl, rfl⟩, fun _ => rfl,
    fun _ => ⟨rfl, rfl⟩, fun _ => rfl⟩

theorem Onward.trans (left : Onward touched first second) (right : Onward touched second third) :
    Onward touched first third where
  tick := left.tick.trans right.tick
  stamps := left.stamps.trans right.stamps
  line := fun kept => (right.line kept).trans (left.line kept)
  log := fun line pause => (right.log line pause).trans (left.log line pause)
  reader := fun kept =>
    ⟨(right.reader kept).1.trans (left.reader kept).1,
      (right.reader kept).2.1.trans (left.reader kept).2.1,
      (right.reader kept).2.2.trans (left.reader kept).2.2⟩
  presence := fun kept =>
    ⟨(right.presence kept).1.trans (left.presence kept).1,
      (right.presence kept).2.1.trans (left.presence kept).2.1,
      (right.presence kept).2.2.trans (left.presence kept).2.2⟩
  rows := fun kept => (right.rows kept).trans (left.rows kept)
  queue := fun rows cloud => (right.queue rows cloud).trans (left.queue rows cloud)
  cloud := fun kept =>
    ⟨(right.cloud kept).1.trans (left.cloud kept).1, (right.cloud kept).2.trans (left.cloud kept).2⟩
  health := fun kept => (right.health kept).trans (left.health kept)
  heartbeat := fun kept =>
    ⟨(right.heartbeat kept).1.trans (left.heartbeat kept).1,
      (right.heartbeat kept).2.trans (left.heartbeat kept).2⟩
  slept := fun kept => (right.slept kept).trans (left.slept kept)

theorem Onward.mono (onward : Onward touched first last) (subset : touched ⊆ more) :
    Onward more first last where
  tick := onward.tick
  stamps := onward.stamps
  line := fun kept => onward.line fun member => kept (subset member)
  log := fun line pause => onward.log (fun member => line (subset member))
    fun member => pause (subset member)
  reader := fun kept => onward.reader fun member => kept (subset member)
  presence := fun kept => onward.presence fun member => kept (subset member)
  rows := fun kept => onward.rows fun member => kept (subset member)
  queue := fun rows cloud => onward.queue (fun member => rows (subset member))
    fun member => cloud (subset member)
  cloud := fun kept => onward.cloud fun member => kept (subset member)
  health := fun kept => onward.health fun member => kept (subset member)
  heartbeat := fun kept => onward.heartbeat fun member => kept (subset member)
  slept := fun kept => onward.slept fun member => kept (subset member)

theorem onward_composes (touched : List Concern) : Composes (Onward touched) :=
  ⟨.refl touched, fun left right => left.trans right⟩

theorem Onward.advance (world : World) : Onward touched world (Ticking.advance world) :=
  { Onward.refl touched world with tick := Nat.le_succ _ }

end Touching

/-- `program` touches nothing else. -/
def Touches {α : Type} (touched : List Concern) (program : Agent α) : Prop :=
  Within (Onward touched) program

namespace Delivery

theorem statement_cloud {env : DeliveryEnv} {α : Type}
    (run : EventQueue → Timestamp → α × EventQueue) :
    Leaves DeliveryState.cloud (statement env run) :=
  Leaves.operation (fun _ _ => rfl) fun _ => rfl

theorem statement_health {env : DeliveryEnv} {α : Type}
    (run : EventQueue → Timestamp → α × EventQueue) :
    Leaves DeliveryState.healthState (statement env run) :=
  Leaves.operation (fun _ _ => rfl) fun _ => rfl

theorem query_queue {env : DeliveryEnv} {α : Type} (query : EventQueue → Timestamp → α) :
    Leaves DeliveryState.queue (statement env fun queue now => (query queue now, queue)) :=
  Leaves.operation (fun _ _ => rfl) fun _ => rfl

/-- The operations of the delivery so far are counted. -/
def Counts {α : Type} (program : Delivery α) : Prop :=
  Within (fun first last : DeliveryState => first.tick ≤ last.tick) program

theorem Counts.of_preserves {α : Type} {program : Delivery α}
    (kept : ∀ least, Preserves (fun state => least ≤ state.tick) program) : Counts program :=
  fun first => (kept first.tick).before fun _ same => same ▸ le_rfl

theorem statement_counts {env : DeliveryEnv} {α : Type}
    (run : EventQueue → Timestamp → α × EventQueue) : Counts (statement env run) :=
  Within.operation (fun _ => Nat.le_succ _) fun _ => Nat.le_succ _

end Delivery

section Touching

variable {env : AgentEnv} {config : EdgeConfig} {touched more : List Concern} {α β : Type}

theorem Touches.mono {program : Agent α} (touches : Touches touched program)
    (subset : touched ⊆ more) : Touches more program :=
  Within.imp touches fun _ _ onward => onward.mono subset

theorem Touches.bind {program : Agent α} {next : α → Agent β}
    (first : Touches touched program) (second : ∀ value, Touches touched (next value)) :
    Touches touched (program >>= next) := Within.bind (onward_composes touched) first second

theorem Touches.pure (value : α) : Touches touched (Pure.pure value : Agent α) :=
  Within.pure (onward_composes touched) value

theorem Touches.assign {change : World → World}
    (changed : ∀ world, Onward touched world (change world)) :
    Touches touched (Agent.assign change) := Within.of_change changed

theorem Touches.onDelivery {program : Delivery α} (counts : Delivery.Counts program)
    (rows : .rows ∉ touched → Leaves (fun state => state.queue.history) program)
    (queue : .rows ∉ touched → .cloud ∉ touched → Leaves DeliveryState.queue program)
    (cloud : .cloud ∉ touched → Leaves DeliveryState.cloud program)
    (health : .health ∉ touched → Leaves DeliveryState.healthState program) :
    Touches touched (MvdEdge.onDelivery program) := by
  have outside : Within (fun first last : World => ∃ delivery, last = { first with delivery })
      (MvdEdge.onDelivery program) := Within.zoom fun _ delivery => ⟨delivery, rfl⟩
  have counted : Within (fun first last : World => first.delivery.tick ≤ last.delivery.tick)
      (MvdEdge.onDelivery program) := Within.zoom_part counts
  have spared {τ : Type} {view : DeliveryState → τ} {apart : Prop}
      (leaves : apart → Leaves view program) :
      Within (fun first last : World => apart → view last.delivery = view first.delivery)
        (MvdEdge.onDelivery program) := by
    by_cases kept : apart
    · exact (Within.of_leaves ((leaves kept).zoom_part World.deliveryPart)).imp
        fun _ _ same _ => same
    · exact Within.zoom fun _ _ spared => absurd spared kept
  have stores := (spared rows).both ((spared fun both : .rows ∉ touched ∧ .cloud ∉ touched =>
    queue both.1 both.2).both ((spared cloud).both (spared health)))
  refine Within.imp (outside.both (counted.both stores)) fun first last all => ?_
  obtain ⟨⟨delivery, rfl⟩, stamps, rows, queue, cloud, health⟩ := all
  exact { Onward.refl touched first with
    stamps, rows, health
    queue := fun rows cloud => queue ⟨rows, cloud⟩
    cloud := fun kept => ⟨cloud kept, rfl⟩ }

/-- `now` was read off the clock since `first`. -/
def ReadSince (env : AgentEnv) (first : World) (now : Time) (last : World) : Prop :=
  ∃ tick, first.tick ≤ tick ∧ tick ≤ last.tick ∧ now = env.clock tick

namespace Agent

theorem quietly_touches {act : Nat → World → α × World}
    (acted : ∀ tick world, Onward touched world (act tick world).2) :
    Touches touched (quietly env act) :=
  Within.operation (fun world => (Onward.advance world).trans (acted _ _)) .advance

theorem time_touches : Touches touched (time env) := quietly_touches fun _ => .refl touched

theorem time_onward (first : World) : Triple (Onward touched first) (time env)
    (fun now last => Onward touched first last ∧ ReadSince env first now last)
    (fun _ _ => True) := by
  unfold time quietly
  exact Triple.operation (fun world onward => ⟨onward.trans (.advance world), world.tick,
    onward.tick, Nat.le_succ _, rfl⟩) fun _ _ _ _ => trivial

theorem mark_touches (member : .health ∈ touched)
    (change : HealthState → Timestamp → HealthState) : Touches touched (mark env change) :=
  quietly_touches fun _ world =>
    { Onward.refl touched world with health := fun kept => absurd member kept }

theorem onLine_touches (program : Serial α) : Touches [.line] (onLine program) :=
  Within.zoom fun world _ =>
    { Onward.refl [.line] world with
      line := fun kept => by simp at kept
      log := fun kept => by simp at kept }

theorem pendingCount_touches : Touches touched (onDelivery (Delivery.pendingCount env.delivery)) :=
  Touches.onDelivery (Delivery.statement_counts _) (fun _ => Delivery.pendingCount_history _)
    (fun _ _ => Delivery.query_queue _) (fun _ => Delivery.statement_cloud _)
    fun _ => Delivery.statement_health _

theorem enqueue_touches (payload : EventPayload) :
    Touches [.rows] (onDelivery (Delivery.enqueue env.delivery payload)) :=
  Touches.onDelivery (Delivery.statement_counts _) (fun kept => by simp at kept)
    (fun kept => by simp at kept) (fun _ => Delivery.statement_cloud _)
    fun _ => Delivery.statement_health _

theorem process_touches : Touches [.cloud, .health]
    (onDelivery (Delivery.processPendingDeliveries env.delivery config.queueBatchSize)) :=
  Touches.onDelivery (.of_preserves (Delivery.processPendingDeliveries_tick _ _))
    (fun _ => Delivery.processPendingDeliveries_history _ _) (fun _ kept => by simp at kept)
    (fun kept => by simp at kept) fun kept => by simp at kept

theorem enumeratePorts_touches : Touches touched (enumeratePorts env) :=
  Within.operation .advance .advance

theorem reader_touches {change : World → World} (member : .reader ∈ touched)
    (same : ∀ world, change world =
      { world with
        readerState := (change world).readerState
        reader := (change world).reader
        nextReaderAttempt := (change world).nextReaderAttempt }) :
    Touches touched (assign change) := by
  refine Touches.assign fun world => ?_
  rw [same world]
  exact { Onward.refl touched world with reader := fun kept => absurd member kept }

theorem resolveReaderPort_touches : Touches [.line] (resolveReaderPort env config) := by
  unfold resolveReaderPort
  split
  · exact Touches.pure _
  · exact enumeratePorts_touches.bind fun _ => (onLine_touches _).bind fun _ => Touches.pure _

theorem connect_touches (selectedPort : Option Str) (message : Str)
    (discovery : Option DiscoveryResult) :
    Touches [.line, .reader] (connect env config selectedPort message discovery) := by
  have spoken {α : Type} (program : Serial α) : Touches [.line, .reader] (onLine program) :=
    (onLine_touches program).mono (by simp)
  unfold connect
  split
  · exact (spoken _).bind fun reader => (reader_touches (by simp) fun _ => rfl).bind fun _ =>
      spoken _
  · split
    · split
      · exact Touches.pure _
      · exact Touches.pure _
    · exact Touches.pure _

theorem reportConnection_touches (now : Time) (readerState : ReaderState) (message : Str) :
    Touches [.reader, .health] (reportConnection env config now readerState message) := by
  unfold reportConnection
  split
  · exact (mark_touches (by simp) _).bind fun _ => (mark_touches (by simp) _).bind fun _ =>
      reader_touches (by simp) fun _ => rfl
  · exact (mark_touches (by simp) _).bind fun _ => mark_touches (by simp) _

theorem connectPhase_touches (now : Time) :
    Touches [.line, .reader, .health] (connectPhase env config now) :=
  (reader_touches (by simp) fun _ => rfl).bind fun _ => (mark_touches (by simp) _).bind fun _ =>
  (mark_touches (by simp) _).bind fun _ =>
  (resolveReaderPort_touches.mono (by simp)).bind fun _ =>
  ((connect_touches _ _ _).mono (by simp)).bind fun _ =>
  (reader_touches (by simp) fun _ => rfl).bind fun _ => (mark_touches (by simp) _).bind fun _ =>
  (reportConnection_touches now _ _).mono (by simp)

theorem readInventory_touches (reader : IDT85Reader) :
    Touches [.line, .presence, .health] (readInventory env config reader) := by
  have spoken {γ : Type} (program : Serial γ) :
      Touches [.line, .presence, .health] (onLine program) :=
    (onLine_touches program).mono (by simp)
  have closed (read : InventoryRead) :
      Touches [.line, .presence, .health] (closeLost env reader read) := by
    unfold closeLost
    split
    · exact spoken _
    · exact Touches.pure _
  have absorbed (inventory : Except Str InventoryResult) (now : Time) (read : InventoryRead) :
      Touches [.line, .presence, .health] (absorb env reader inventory now read) :=
    (closed read).bind fun _ => Touches.assign fun world =>
      { Onward.refl _ world with
        presence := fun kept => by simp at kept
        health := fun kept => by simp at kept }
  exact time_touches.bind fun _ => (Within.attempt (spoken _)).bind (onward_composes _)
    fun inventory => time_touches.bind fun now =>
    (quietly_touches fun _ => .refl _).bind fun read =>
    (absorbed inventory now read).bind fun _ => Touches.pure _

/-- A reader that is lost reports no events. -/
def QuietIfLost (read : InventoryRead) : Prop :=
  read.readerState = .READY ∨ (read.readerState = .DISCONNECTED ∧ read.events = [])

theorem readInventory_outcome (reader : IDT85Reader) (pre : World → Prop) :
    Triple pre (readInventory env config reader)
      (fun read _ => QuietIfLost read) (fun _ _ => True) := by
  have any {γ : Type} (program : Agent γ) : Triple (fun _ => True) program (fun _ _ => True)
      (fun _ _ => True) := Triple.any _ program
  refine Triple.before (Triple.bind (any _) fun _ => Triple.bind (any _) fun inventory =>
    Triple.bind (any _) fun now => Triple.through (fun read _ => QuietIfLost read)
    (Triple.operation (fun world _ => ?_) fun _ _ _ _ => trivial) fun read => ?_)
    fun _ _ => trivial
  · rcases readInventoryEvents_cases ⟨inventory, now, env.stamp world.tick, env.mint world.updates⟩
      world.presence world.delivery.healthState (some config.readerId) with valid | quiet | lost
    · obtain ⟨_, _, _, ready, _⟩ := valid
      exact .inl ready
    · exact .inl quiet.2.2.2.2.1
    · exact .inr ⟨lost.2.2.2.2.1, lost.2.2.1⟩
  · intro world kind
    refine (Triple.bind (any (absorb env reader inventory now read)) fun _ =>
      Triple.pure fun _ _ => ?_) world trivial
    exact kind

theorem sleepUntil_touches (endAt : PyFloat) (interval : ℚ) (turns : Nat) :
    Touches [.pause] (sleepUntil env endAt interval turns) := by
  induction turns with
  | zero => exact Within.throw (onward_composes _) _
  | succ turns ih =>
      refine (quietly_touches fun _ => .refl _).bind fun stop => ?_
      split
      · exact Touches.pure _
      · refine time_touches.bind fun now => ?_
        dsimp only
        split
        · exact Touches.pure _
        · exact (quietly_touches fun _ world =>
            { Onward.refl [.pause] world with slept := fun kept => by simp at kept }).bind
            fun _ => ih

theorem sleepPhase_touches (scanStart : Time) (turns : Nat) :
    Touches [.pause] (sleepPhase env config scanStart turns) := by
  refine time_touches.bind fun now => ?_
  dsimp only
  split
  · exact time_touches.bind fun _ => sleepUntil_touches _ _ _
  · exact Touches.pure _

theorem sendHeartbeat_touches : Touches [.heartbeat] (sendHeartbeat env config) := by
  refine pendingCount_touches.bind fun queuePending =>
    (quietly_touches fun _ => .refl _).bind fun reply => ?_
  dsimp only
  split
  · exact Touches.assign fun world =>
      { Onward.refl [.heartbeat] world with heartbeat := fun kept => by simp at kept }
  · exact Within.throw (onward_composes _) _

theorem pendingCount_counts (first : World) :
    Triple (· = first) (onDelivery (Delivery.pendingCount env.delivery))
      (fun count _ => count = first.delivery.queue.pendingCount) (fun _ _ => True) := by
  have counted : Triple (· = first.delivery) (Delivery.pendingCount env.delivery)
      (fun count _ => count = first.delivery.queue.pendingCount) (fun _ _ => True) :=
    Delivery.statement_triple _ (fun _ same => same ▸ rfl) fun _ _ _ => trivial
  intro world same
  have zoomed := Triple.zoom World.deliveryPart (fun _ => ()) (fun _ _ => rfl) counted
    (fun _ => True) world ⟨congrArg World.delivery same, trivial⟩
  exact zoomed.imp (fun _ _ both => both.1) fun _ _ _ => trivial

/-- The heartbeat that was sent since `first`, of the state there was. -/
def Beaten (first last : World) : Prop :=
  ∃ result, last.heartbeats = ⟨first.readerState, first.delivery.healthState,
    first.delivery.queue.pendingCount, result⟩ :: first.heartbeats

theorem sendHeartbeat_beats (first : World) :
    Triple (· = first) (sendHeartbeat env config) (fun _ => Beaten first) (fun _ _ => True) := by
  have counted : Touches [] (onDelivery (Delivery.pendingCount env.delivery)) :=
    pendingCount_touches
  have replied : Touches [] (quietly env fun tick world => (env.heartbeat tick, world)) :=
    quietly_touches fun _ => .refl []
  refine Triple.bind (((counted first).both (pendingCount_counts first)).conseq
    (fun _ same => ⟨same, same⟩) (fun _ _ both => both) fun _ _ _ => trivial) fun queuePending => ?_
  intro world both
  obtain ⟨onward, rfl⟩ := both
  refine (Triple.bind ((replied.onward (onward_composes []) first).raising fun _ _ _ => trivial)
    fun reply => ?_ : Triple (Onward [] first) _ _ _) world onward
  dsimp only
  split
  · rename_i result _
    refine Triple.update fun next onward => ⟨result, ?_⟩
    rw [← (onward.reader (by simp)).1, ← onward.health (by simp), ← (onward.heartbeat (by simp)).1]
  · exact Triple.throw fun _ _ => trivial

/-- An inventory was taken in since `first`: it was dated by a reading of the clock, and
presence was told of its tags if it was valid. -/
def Scanned (env : AgentEnv) (config : EdgeConfig) (first last : World) : Prop :=
  ∃ record, last.scanLog = record :: first.scanLog ∧ last.updates = first.updates + 1 ∧
    record.mint = env.mint first.updates ∧ ReadSince env first record.now last ∧
    last.presence =
      (runUpdates (some config.readerId) record.scan?.toList first.presence).2

theorem Scanned.onward {first next last : World} (scanned : Scanned env config first next)
    (onward : Onward touched next last) (spared : .presence ∉ touched) :
    Scanned env config first last := by
  obtain ⟨record, scanLog, updates, mint, ⟨tick, after, before, read⟩, told⟩ := scanned
  have kept := onward.presence spared
  exact ⟨record, kept.2.2.trans scanLog, kept.2.1.trans updates, mint,
    ⟨tick, after, before.trans onward.tick, read⟩, kept.1.trans told⟩

theorem Scanned.of_onward {first next last : World} (onward : Onward touched first next)
    (spared : .presence ∉ touched) (scanned : Scanned env config next last) :
    Scanned env config first last := by
  obtain ⟨record, scanLog, updates, mint, ⟨tick, after, before, read⟩, told⟩ := scanned
  obtain ⟨presence, earlier, listed⟩ := onward.presence spared
  rw [listed] at scanLog
  rw [earlier] at updates mint
  rw [presence] at told
  exact ⟨record, scanLog, updates, mint, ⟨tick, onward.tick.trans after, before, read⟩, told⟩

/-- An inventory was read and dated, but is not taken over yet. -/
def Inspected (env : AgentEnv) (config : EdgeConfig) (first : World)
    (inventory : Except Str InventoryResult) (now : Time) (read : InventoryRead) (world : World) :
    Prop :=
  Onward [.line] first world ∧ ReadSince env first now world ∧
    read.state = (runUpdates (some config.readerId)
      (ScanRecord.mk inventory now (env.mint first.updates) 0).scan?.toList first.presence).2

theorem readInventory_scanned (reader : IDT85Reader) (first : World) :
    Triple (· = first) (readInventory env config reader) (fun _ => Scanned env config first)
      (fun _ _ => True) := by
  have kept {γ : Type} {program : Agent γ} (touches : Touches [.line] program) :
      Triple (Onward [.line] first) program (fun _ => Onward [.line] first) (fun _ _ => True) :=
    (touches.onward (onward_composes _) first).raising fun _ _ _ => trivial
  refine Triple.before (Triple.bind (kept time_touches) fun _ =>
    Triple.bind (kept (Within.attempt (onLine_touches _))) fun inventory =>
    Triple.bind (time_onward first) fun now =>
    Triple.through (Inspected env config first inventory now)
    (Triple.operation (fun world both => ?_) fun _ _ _ _ => trivial) fun read => ?_)
    fun world same => same ▸ .refl _ _
  · obtain ⟨onward, tick, after, before, reading⟩ := both
    refine ⟨onward.trans (.advance world), ⟨tick, after, Nat.le_succ_of_le before, reading⟩, ?_⟩
    obtain ⟨presence, updates, -⟩ := onward.presence (by simp)
    rw [← presence, ← updates]
    exact readInventoryEvents_state _ _ _ _
  · have absorbed : Triple (Inspected env config first inventory now read)
        (absorb env reader inventory now read) (fun _ => Scanned env config first)
        (fun _ _ => True) := by
      refine absorb_keeps (fun world all => ?_) fun world all => ?_
      · obtain ⟨onward, ⟨tick, after, before, reading⟩, told⟩ := all
        exact (onLine_touches _ world world rfl).imp (fun _ next further =>
          ⟨onward.trans further, ⟨tick, after, before.trans further.tick, reading⟩, told⟩)
          fun _ _ _ => trivial
      · obtain ⟨onward, reading, told⟩ := all
        obtain ⟨-, updates, listed⟩ := onward.presence (by simp)
        refine ⟨_, congrArg _ listed, congrArg (· + 1) updates, congrArg env.mint updates, reading,
          ?_⟩
        rw [updates]
        exact told
    exact Triple.bind absorbed fun _ => Triple.pure fun _ scanned => scanned

theorem noteHead_touches : Touches [.pause] noteHead :=
  Touches.assign fun world =>
    { Onward.refl [.pause] world with log := fun _ kept => by simp at kept }

/-- How an attempt to connect ends. -/
inductive Tried (config : EdgeConfig) (now : Time) (due : PyFloat) (world : World) : Prop where
  | ready (readerState : world.readerState = .READY) (reader : world.reader.isSome = true)
      (kept : world.nextReaderAttempt = due)
  | refused (readerState : world.readerState ≠ .READY)
      (scheduled : world.nextReaderAttempt = config.readerDiscoveryInterval.after now)

/-- What a program does not touch of the reader, it keeps any condition of. -/
theorem keeps_reader {program : Agent α} (touches : Touches touched program)
    (kept : .reader ∉ touched) (holds : ReaderState → Option IDT85Reader → PyFloat → Prop) :
    Triple (fun world => holds world.readerState world.reader world.nextReaderAttempt) program
      (fun _ world => holds world.readerState world.reader world.nextReaderAttempt)
      (fun _ _ => True) := by
  intro world before
  refine (touches world world rfl).imp (fun _ last onward => ?_) fun _ _ _ => trivial
  obtain ⟨readerState, reader, due⟩ := onward.reader kept
  rw [readerState, reader, due]
  exact before

theorem connect_outcome (due : PyFloat) (selectedPort : Option Str) (message : Str)
    (discovery : Option DiscoveryResult) :
    Triple (fun world => world.nextReaderAttempt = due)
      (connect env config selectedPort message discovery)
      (fun result world => (result.1 = .READY → world.reader.isSome = true) ∧
        world.nextReaderAttempt = due) (fun _ _ => True) := by
  unfold connect
  split
  · refine Triple.bind (keeps_reader (onLine_touches _) (by simp) fun _ _ next => next = due)
      fun reader => Triple.bind (Triple.modify fun world same => ?_) fun _ =>
      (keeps_reader (onLine_touches _) (by simp) fun _ holder next =>
        holder.isSome = true ∧ next = due).returning fun _ _ both => ⟨fun _ => both.1, both.2⟩
    exact ⟨rfl, same⟩
  · split
    · split
      · exact Triple.pure fun _ same => ⟨by simp, same⟩
      · exact Triple.pure fun _ same => ⟨by simp, same⟩
    · exact Triple.pure fun _ same => ⟨by simp, same⟩

theorem reportConnection_outcome (now : Time) (due : PyFloat) (result : ReaderState)
    (message : Str) :
    Triple (fun world => world.readerState = result ∧
        (result = .READY → world.reader.isSome = true) ∧ world.nextReaderAttempt = due)
      (reportConnection env config now result message)
      (fun _ => Tried config now due) (fun _ _ => True) := by
  have marked (change : HealthState → Timestamp → HealthState) :
      Triple (fun world => world.readerState = result ∧
          (result = .READY → world.reader.isSome = true) ∧ world.nextReaderAttempt = due)
        (mark env change) (fun _ world => world.readerState = result ∧
          (result = .READY → world.reader.isSome = true) ∧ world.nextReaderAttempt = due)
        (fun _ _ => True) :=
    keeps_reader (mark_touches (List.mem_singleton_self Concern.health) change) (by simp)
      fun readerState reader next => readerState = result ∧
        (result = .READY → reader.isSome = true) ∧ next = due
  unfold reportConnection
  split
  · rename_i refused
    refine Triple.bind (marked _) fun _ => Triple.bind (marked _) fun _ =>
      Triple.modify fun world all => ?_
    exact .refused (all.1 ▸ refused) rfl
  · rename_i ready
    have ready := not_not.mp ready
    refine Triple.bind (marked _) fun _ => (marked _).returning fun _ world all => ?_
    exact .ready (all.1.trans ready) (all.2.1 ready) all.2.2

theorem connectPhase_outcome (now : Time) (due : PyFloat) :
    Triple (fun world => world.nextReaderAttempt = due) (connectPhase env config now)
      (fun _ => Tried config now due) (fun _ _ => True) := by
  have begun : Triple (fun world => world.nextReaderAttempt = due) (setReaderState .CONNECTING)
      (fun _ world => world.nextReaderAttempt = due) (fun _ _ => True) :=
    Triple.modify fun _ same => same
  have kept {γ : Type} {program : Agent γ} (touches : Touches [.line, .health] program) :=
    keeps_reader touches (by simp) fun _ _ next => next = due
  refine Triple.bind begun fun _ => Triple.bind (kept (mark_touches (by simp) _)) fun _ =>
    Triple.bind (kept (mark_touches (by simp) _)) fun _ =>
    Triple.bind (kept (resolveReaderPort_touches.mono (by simp))) fun resolved =>
    Triple.bind (connect_outcome due _ _ _) fun result =>
    Triple.through (fun _ world => world.readerState = result.1 ∧
      (result.1 = .READY → world.reader.isSome = true) ∧ world.nextReaderAttempt = due)
    (Triple.modify fun world both => ⟨rfl, both⟩) fun _ =>
    Triple.bind (keeps_reader (mark_touches (List.mem_singleton_self Concern.health) _) (by simp)
      fun readerState reader next => readerState = result.1 ∧
        (result.1 = .READY → reader.isSome = true) ∧ next = due) fun _ =>
    reportConnection_outcome now due result.1 result.2

end Agent

end Touching

end MvdEdge
