import MvdEdge.App.DeliveryProperties
import MvdEdge.App.History
import MvdEdge.App.Surveying

/-! From the scans of the reader to the store of the cloud, over any number of
processes: what presence reports is enqueued, kept, sent and stored, but for the events
of a scan that a process did not live to enqueue. -/

set_option autoImplicit false

namespace MvdEdge

open Lib Lib.Effect PresenceState

namespace PresenceState

/-- The events of the last scan of a run. -/
def lastReport (readerId : Option Str) (scans : List Scan) (start : PresenceState) :
    List DetectedEvent :=
  match scans.getLast? with
  | none => []
  | some scan =>
      ((runUpdates readerId scans.dropLast start).2.update scan.tags scan.now readerId scan.mint).1

theorem lastReport_concat (readerId : Option Str) (scans : List Scan) (scan : Scan)
    (start : PresenceState) :
    lastReport readerId (scans ++ [scan]) start =
      ((runUpdates readerId scans start).2.update scan.tags scan.now readerId scan.mint).1 := by
  simp [lastReport]

end PresenceState

/-- The payloads of events, as enqueued at some time each. -/
def Built (config : EdgeConfig) (told : List DetectedEvent) (payloads : List EventPayload) : Prop :=
  List.Forall₂ (fun event payload =>
    ∃ sendAt, payload = Agent.buildEventPayload config event sendAt) told payloads

theorem Built.labels {config : EdgeConfig} {told : List DetectedEvent}
    {payloads : List EventPayload} (built : Built config told payloads) :
    payloads.map (·.label) = told.map (·.label config) := by
  induction built with
  | nil => rfl
  | cons first rest ih =>
      obtain ⟨sendAt, rfl⟩ := first
      rw [List.map_cons, List.map_cons, ih]
      rfl

/-- On the scans of the process presence reported `told` and, last, `pending`, the tail of
the last report. -/
structure PresenceReports (config : EdgeConfig) (told pending : List DetectedEvent)
    (world : World) : Prop where
  reported : runUpdates (some config.readerId) world.scans (new config.exitTimeout) =
    (told ++ pending, world.presence)
  last : pending <:+ lastReport (some config.readerId) world.scans (new config.exitTimeout)

/-- One process so far: what presence reported was enqueued, but for `pending`, behind the
payloads of earlier processes, and none of it is lost. -/
structure Carries (config : EdgeConfig) (before : List EventPayload)
    (pending told : List DetectedEvent) (payloads : List EventPayload) (world : World) : Prop
    extends PresenceReports config told pending world where
  built : Built config told payloads
  free : LossFree (before ++ payloads) world.delivery
  history : world.delivery.queue.history = (before ++ payloads).map (·.label)

structure Carried (env : AgentEnv) (config : EdgeConfig) (before : List EventPayload)
    (pending : List DetectedEvent) (world : World) : Prop where
  recorded : Recorded env config (before.map (·.label)) pending world
  carries : ∃ told payloads, Carries config before pending told payloads world

section OneProcess

variable {env : AgentEnv} {config : EdgeConfig} {before : List EventPayload}
  {pending : List DetectedEvent} {world next : World}

theorem PresenceReports.congr {told : List DetectedEvent}
    (reported : PresenceReports config told pending world)
    (presence : next.presence = world.presence) (scanLog : next.scanLog = world.scanLog) :
    PresenceReports config told pending next := by
  have scans : next.scans = world.scans := by rw [World.scans, scanLog, World.scans]
  exact ⟨scans ▸ presence ▸ reported.reported, scans ▸ reported.last⟩

theorem Carried.congr (carried : Carried env config before pending world)
    (memory : next.memory = world.memory) (scanLog : next.scanLog = world.scanLog)
    (queue : next.delivery.queue = world.delivery.queue)
    (cloud : next.delivery.cloud = world.delivery.cloud) :
    Carried env config before pending next := by
  obtain ⟨told, payloads, carries⟩ := carried.carries
  have reported := carries.toPresenceReports.congr (congrArg (·.1.1) memory) scanLog
  exact ⟨carried.recorded.congr memory, told, payloads,
    ⟨reported, carries.built, carries.free.congr queue cloud, queue ▸ carries.history⟩⟩

theorem Carried.unscanned (carried : Carried env config before [] world) {record : ScanRecord}
    (unread : record.scan? = none) (recorded : Recorded env config (before.map (·.label)) []
      { world with updates := world.updates + 1, scanLog := record :: world.scanLog }) :
    Carried env config before []
      { world with updates := world.updates + 1, scanLog := record :: world.scanLog } := by
  obtain ⟨told, payloads, carries⟩ := carried.carries
  refine ⟨recorded, told, payloads, ⟨⟨?_, List.nil_suffix⟩, carries.built, carries.free,
    carries.history⟩⟩
  rw [World.scans_cons record rfl, unread, Option.toList_none, List.append_nil]
  exact carries.reported

theorem Carried.scanned (carried : Carried env config before [] world) {record : ScanRecord}
    {scan : Scan} (found : record.scan? = some scan) {events : List DetectedEvent}
    {state : PresenceState} (updated : (events, state) =
      world.presence.update scan.tags scan.now (some config.readerId) scan.mint)
    (recorded : Recorded env config (before.map (·.label)) events { world with
      presence := state
      updates := world.updates + 1
      scanLog := record :: world.scanLog }) :
    Carried env config before events { world with
      presence := state
      updates := world.updates + 1
      scanLog := record :: world.scanLog } := by
  obtain ⟨told, payloads, carries⟩ := carried.carries
  have ran := carries.reported
  rw [List.append_nil] at ran
  refine ⟨recorded, told, payloads, ⟨⟨?_, ?_⟩, carries.built, carries.free, carries.history⟩⟩
  · rw [World.scans_cons record rfl, found, Option.toList_some, runUpdates_concat, ran]
    dsimp only
    rw [← updated]
  · rw [World.scans_cons record rfl, found, Option.toList_some, lastReport_concat, ran]
    dsimp only
    rw [← updated]

theorem Carried.read (mints : MintsDistinct env) (carried : Carried env config before [] world)
    (inventory : Except Str InventoryResult) (now : Time) (stamp : Timestamp)
    (healthState : Option HealthState) (tick : Nat) :
    let read := readInventoryEvents ⟨inventory, now, stamp, env.mint world.updates⟩ world.presence
      healthState (some config.readerId)
    Carried env config before read.events { world with
      presence := read.state
      updates := world.updates + 1
      scanLog := ⟨inventory, now, env.mint world.updates, tick⟩ :: world.scanLog } := by
  intro read
  have recorded := carried.recorded.read mints inventory now stamp healthState
  have scan? : (ScanRecord.mk inventory now (env.mint world.updates) tick).scan? =
      (InventoryCall.mk inventory now stamp (env.mint world.updates)).scan? := rfl
  rcases readInventoryEvents_cases ⟨inventory, now, stamp, env.mint world.updates⟩ world.presence
    healthState (some config.readerId) with valid | unread | lost
  · obtain ⟨scan, found, updated, _⟩ := valid
    exact carried.scanned (scan?.trans found) updated (recorded.congr rfl)
  · obtain ⟨unread, _, quiet, kept, _⟩ := unread
    rw [show read.events = [] from quiet, show read.state = world.presence from kept]
    exact carried.unscanned (scan?.trans unread) (carried.recorded.unscanned.congr rfl)
  · obtain ⟨unread, _, quiet, kept, _⟩ := lost
    rw [show read.events = [] from quiet, show read.state = world.presence from kept]
    exact carried.unscanned (scan?.trans unread) (carried.recorded.unscanned.congr rfl)

/-- The event in front is enqueued, under an identifier that no earlier payload has. -/
theorem Carried.fresh {event : DetectedEvent} {rest : List DetectedEvent}
    {enqueued : List EventPayload}
    (carried : Carried env config before (event :: rest) world)
    (history : world.delivery.queue.history = enqueued.map (·.label)) :
    event.edgeEventId ∉ enqueued.map (·.edgeEventId) := by
  have unknown := carried.recorded.unknown
  rw [history, List.map_map] at unknown
  exact unknown

end OneProcess

/-- All that the events of a process are held in. -/
def World.holdings (world : World) :=
  ((world.presence, world.updates), world.scanLog, world.delivery.queue, world.delivery.cloud)

theorem Carried.of_holdings {env : AgentEnv} {config : EdgeConfig} {before : List EventPayload}
    {pending : List DetectedEvent} {world next : World}
    (carried : Carried env config before pending world)
    (same : next.holdings = world.holdings) : Carried env config before pending next :=
  carried.congr (congrArg (fun holdings => (holdings.1, holdings.2.2.1.history)) same)
    (congrArg (·.2.1) same) (congrArg (·.2.2.1) same) (congrArg (·.2.2.2) same)

/-- Where a process may stop: anywhere between the events of a scan and their rows. -/
def Halted (env : AgentEnv) (config : EdgeConfig) (before : List EventPayload) (world : World) :
    Prop :=
  ∃ pending, Carried env config before pending world

theorem Halted.of_holdings {env : AgentEnv} {config : EdgeConfig} {before : List EventPayload}
    {world next : World} (halted : Halted env config before world)
    (same : next.holdings = world.holdings) : Halted env config before next :=
  halted.imp fun _ carried => carried.of_holdings same

namespace Agent

section Phases

variable {env : AgentEnv} {config : EdgeConfig} {before : List EventPayload}
  {pending : List DetectedEvent}

theorem carried_of_holdings {α : Type} {program : Agent α}
    (leaves : Leaves World.holdings program) :
    Triple (Carried env config before pending) program
      (fun _ => Carried env config before pending) (fun _ => Halted env config before) :=
  leaves.triple (fun _ _ same carried => carried.of_holdings same)
    fun _ _ carried => ⟨pending, carried⟩

theorem onDelivery_holdings {α : Type} {program : Delivery α}
    (leaves : Leaves (fun state => (state.queue, state.cloud)) program) :
    Leaves World.holdings (onDelivery program) :=
  Leaves.pair (Leaves.zoom (fun _ _ => rfl) program)
    (Leaves.pair (Leaves.zoom (fun _ _ => rfl) program) (leaves.zoom_part World.deliveryPart))

theorem onLine_holdings {α : Type} (program : Serial α) :
    Leaves World.holdings (onLine program) := Leaves.zoom (fun _ _ => rfl) program

theorem quietly_holdings {α : Type} {act : Nat → World → α × World}
    (same : ∀ tick world, (act tick world).2.holdings = world.holdings) :
    Leaves World.holdings (quietly env act) := Leaves.operation same fun _ => rfl

theorem mark_holdings (change : HealthState → Timestamp → HealthState) :
    Leaves World.holdings (mark env change) := quietly_holdings fun _ _ => rfl

theorem time_holdings : Leaves World.holdings (time env) := quietly_holdings fun _ _ => rfl

theorem queried_holdings {α : Type} (query : EventQueue → α) :
    Leaves World.holdings
      (onDelivery (Delivery.statement env.delivery fun queue _ => (query queue, queue))) :=
  onDelivery_holdings fun _ => Delivery.statement_triple _ (fun _ same => same)
    fun _ _ same => same

theorem sendHeartbeat_holdings : Leaves World.holdings (sendHeartbeat env config) :=
  fun shown => sendHeartbeat_keeps (queried_holdings EventQueue.pendingCount shown)
    (quietly_holdings (fun _ _ => rfl) shown) (fun _ _ _ same => same) fun _ _ same => same

theorem closeReader_holdings : Leaves World.holdings (closeReader env) :=
  fun shown => closeReader_keeps fun _ => onLine_holdings _ shown

theorem reconnectPhase_holdings (now : Time) :
    Leaves World.holdings (reconnectPhase env config now) := by
  intro shown
  have probes : Probes env config (fun world => world.holdings = shown)
      fun _ world => world.holdings = shown := by
    constructor
    · exact fun _ _ same => same
    · exact Leaves.operation (fun _ _ => rfl) (fun _ => rfl) shown
    · exact fun _ => onLine_holdings _ shown
    · exact fun _ => onLine_holdings _ shown
    · exact fun _ => onLine_holdings _ shown
  exact reconnectPhase_attends ⟨probes, fun _ => mark_holdings _ shown, fun _ _ same => same,
    fun _ _ same => same⟩ now

/-- A step of the delivery that loses nothing and adds no row. -/
theorem carried_of_lossFree {α : Type} {program : Delivery α}
    (preserves : ∀ enqueued, Preserves (LossFree enqueued) program)
    (history : Leaves (fun state => state.queue.history) program) :
    Triple (Carried env config before pending) (onDelivery program)
      (fun _ => Carried env config before pending) (fun _ => Halted env config before) := by
  intro world carried
  obtain ⟨told, payloads, carries⟩ := carried.carries
  have kept (next : World) (free : LossFree (before ++ payloads) next.delivery)
      (same : next.delivery.queue.history = (before ++ payloads).map (·.label))
      (frame : ((next.presence, next.updates), next.scanLog) =
        ((world.presence, world.updates), world.scanLog)) :
      Carried env config before pending next := by
    have memory : next.memory = world.memory :=
      congrArg₂ Prod.mk (congrArg (·.1) frame) (same.trans carries.history.symm)
    have reported := carries.toPresenceReports.congr (congrArg (·.1.1) frame) (congrArg (·.2) frame)
    exact ⟨carried.recorded.congr memory, told, payloads, ⟨reported, carries.built, free, same⟩⟩
  have zoomed := Triple.zoom World.deliveryPart
    (fun world => ((world.presence, world.updates), world.scanLog))
    (fun _ _ => rfl) ((preserves (before ++ payloads)).both
      (history ((before ++ payloads).map (·.label))))
    (· = ((world.presence, world.updates), world.scanLog))
  exact (zoomed world ⟨⟨carries.free, carries.history⟩, rfl⟩).imp
    (fun _ next outcome => kept next outcome.1.1 outcome.1.2 outcome.2)
    fun _ next outcome => ⟨pending, kept next outcome.1.1 outcome.1.2 outcome.2⟩

theorem enqueue_carried (event : DetectedEvent) (rest : List DetectedEvent) (sendAt : Timestamp) :
    Triple (Carried env config before (event :: rest))
      (onDelivery (Delivery.enqueue env.delivery (buildEventPayload config event sendAt)))
      (fun _ => Carried env config before rest) (fun _ => Halted env config before) := by
  intro world carried
  obtain ⟨told, payloads, carries⟩ := carried.carries
  have fresh : (buildEventPayload config event sendAt).edgeEventId ∉
      (before ++ payloads).map (·.edgeEventId) := carried.fresh carries.history
  have unknown : (buildEventPayload config event sendAt).edgeEventId ∉
      ((before ++ payloads).map (·.label)).map (·.edgeEventId) := by
    rw [List.map_map]
    exact fresh
  have zoomed := Triple.zoom World.deliveryPart
    (fun world => ((world.presence, world.updates), world.scanLog))
    (fun _ _ => rfl) ((DeliveryMove.enqueue_lossFree env.delivery fresh).both
      (Delivery.enqueue_history env.delivery unknown))
    (· = ((world.presence, world.updates), world.scanLog))
  have recorded := (enqueue_recorded event rest sendAt).both zoomed world
    ⟨carried.recorded, ⟨carries.free, carries.history⟩, rfl⟩
  refine recorded.imp (fun _ next outcome => ?_) fun _ next outcome => ?_
  · obtain ⟨recorded, ⟨free, history⟩, frame⟩ := outcome
    have reported := carries.toPresenceReports.congr (congrArg (·.1.1) frame) (congrArg (·.2) frame)
    refine ⟨recorded, told ++ [event], payloads ++ [buildEventPayload config event sendAt],
      ⟨⟨?_, (List.suffix_cons event rest).trans reported.last⟩, ?_, ?_, ?_⟩⟩
    · rw [reported.reported, List.append_assoc, List.singleton_append]
    · exact List.rel_append carries.built (.cons ⟨sendAt, rfl⟩ .nil)
    · rw [← List.append_assoc]
      exact free
    · rw [← List.append_assoc, List.map_append]
      exact history
  · obtain ⟨_, ⟨free, history⟩, frame⟩ := outcome
    have memory : next.memory = world.memory :=
      congrArg₂ Prod.mk (congrArg (·.1) frame) (history.trans carries.history.symm)
    have reported := carries.toPresenceReports.congr (congrArg (·.1.1) frame) (congrArg (·.2) frame)
    exact ⟨event :: rest, carried.recorded.congr memory, told, payloads,
      ⟨reported, carries.built, free, history⟩⟩

theorem enqueueEvents_carried (events : List DetectedEvent) :
    Triple (Carried env config before events) (enqueueEvents env config events)
      (fun _ => Carried env config before []) (fun _ => Halted env config before) :=
  enqueueEvents_keeps (Carried env config before)
    (fun _ => carried_of_holdings (mark_holdings _))
    (fun _ => carried_of_holdings (quietly_holdings fun _ _ => rfl)) enqueue_carried events

/-- What a scan read, before and once the loop has taken it over. -/
def TakenOver (env : AgentEnv) (config : EdgeConfig) (before : List EventPayload)
    (inventory : Except Str InventoryResult) (now : Time) (read : InventoryRead) (world : World) :
    Prop :=
  Carried env config before [] world ∧ ∀ tick, Carried env config before read.events { world with
    presence := read.state
    updates := world.updates + 1
    scanLog := ⟨inventory, now, env.mint world.updates, tick⟩ :: world.scanLog }

theorem takenOver_of_holdings {α : Type} {program : Agent α}
    {inventory : Except Str InventoryResult} {now : Time} {read : InventoryRead}
    (leaves : Leaves World.holdings program) :
    Triple (TakenOver env config before inventory now read) program
      (fun _ => TakenOver env config before inventory now read)
      (fun _ => Halted env config before) := by
  refine leaves.triple ?_ fun _ _ both => ⟨[], both.1⟩
  intro world next same both
  refine ⟨both.1.of_holdings same, fun tick => (both.2 tick).of_holdings ?_⟩
  have updates : next.updates = world.updates := congrArg (·.1.2) same
  have scanLog : next.scanLog = world.scanLog := congrArg (·.2.1) same
  have stores : (next.delivery.queue, next.delivery.cloud) =
      (world.delivery.queue, world.delivery.cloud) := congrArg (·.2.2) same
  unfold World.holdings
  dsimp only
  rw [updates, scanLog, stores]

theorem readInventory_carried (mints : MintsDistinct env) (reader : IDT85Reader) :
    Triple (Carried env config before []) (readInventory env config reader)
      (fun read => Carried env config before read.events)
      (fun _ => Halted env config before) := by
  have asked : Triple (Carried env config before [])
      (attempt Exn.caught (onLine (reader.inventory env.line)))
      (fun _ => Carried env config before []) (fun _ => Halted env config before) := by
    have kept : Preserves (Carried env config before []) (onLine (reader.inventory env.line)) :=
      (onLine_holdings _).triple (fun _ _ same carried => carried.of_holdings same)
        fun _ _ carried => carried
    exact Triple.attempt kept (fun _ _ _ _ carried => carried) fun _ _ _ carried => ⟨[], carried⟩
  refine Triple.bind (carried_of_holdings time_holdings) fun _ =>
    Triple.bind asked fun inventory =>
    Triple.bind (carried_of_holdings time_holdings) fun now =>
    Triple.through (TakenOver env config before inventory now)
      (Triple.operation ?_ fun _ _ _ carried => ⟨[], carried.of_holdings rfl⟩) fun read => ?_
  · intro world carried
    exact ⟨carried.of_holdings rfl, fun tick =>
      (carried.read mints inventory now _ _ tick).of_holdings rfl⟩
  · have absorbed : Triple (TakenOver env config before inventory now read)
        (absorb env reader inventory now read)
        (fun _ => Carried env config before read.events) (fun _ => Halted env config before) :=
      absorb_keeps (takenOver_of_holdings (onLine_holdings _)) fun world both =>
        (both.2 world.tick).of_holdings rfl
    exact Triple.bind absorbed fun _ => Triple.pure fun _ carried => carried

theorem scanPhase_carried (mints : MintsDistinct env) :
    Triple (Carried env config before []) (scanPhase env config)
      (fun scanned => Carried env config before (scanned.getD []))
      (fun _ => Halted env config before) :=
  scanPhase_keeps (Carried env config before) (fun _ _ _ carried => carried.of_holdings rfl)
    (fun _ _ _ carried => carried.of_holdings rfl)
    (fun _ _ => carried_of_holdings (mark_holdings _))
    (fun _ => carried_of_holdings time_holdings) (readInventory_carried mints)

theorem carried_serves :
    Serves env config (Carried env config before [])
      fun _ => Halted env config before where
  tick := fun _ carried => carried.of_holdings rfl
  fault := fun _ _ _ _ carried => ⟨[], carried.of_holdings rfl⟩
  cut := fun _ carried => ⟨[], carried⟩
  delivery := fun _ _ carried => carried.of_holdings rfl
  heartbeat := fun _ _ carried => carried.of_holdings rfl
  slept := fun _ _ carried => carried.of_holdings rfl
  pendingCount := carried_of_holdings (queried_holdings _)
  process := carried_of_lossFree
    (fun _ => Delivery.processPendingDeliveries_preserves env.delivery config.queueBatchSize)
    (Delivery.processPendingDeliveries_history env.delivery config.queueBatchSize)

theorem cleanup_halted : Preserves (Halted env config before) (cleanup env) := by
  have cleaned : Leaves World.holdings (cleanup env) :=
    Leaves.bind closeReader_holdings fun _ => queried_holdings fun _ => ()
  exact cleaned.triple (fun _ _ same halted => halted.of_holdings same) fun _ _ halted => halted

theorem carried_conduct (mints : MintsDistinct env) :
    Conduct env config (Carried env config before) fun _ => Halted env config before where
  serves := carried_serves
  send := carried_of_holdings sendHeartbeat_holdings
  keeps := fun events _ carried => ⟨events, carried⟩
  caught := fun _ halted => halted
  head := fun _ carried => carried.of_holdings rfl
  reconnect := fun now => carried_of_holdings (reconnectPhase_holdings now)
  scan := scanPhase_carried mints
  enqueue := enqueueEvents_carried
  opened := carried_of_holdings (queried_holdings _)
  cleanup := fun _ => cleanup_halted
  unsupported := fun _ _ carried => ⟨[], carried⟩

end Phases

end Agent

/-! ## Any number of processes -/

/-- What the data directory and the cloud hold between two processes. -/
structure Left (env : AgentEnv) (enqueued : List EventPayload) (world : World) : Prop where
  free : LossFree enqueued world.delivery
  history : world.delivery.queue.history = enqueued.map (·.label)
  minted : ∀ label ∈ enqueued.map (·.label), Minted env world.updates label.edgeEventId

/-- A process, with what it found and what it left. -/
structure Episode where
  config : EdgeConfig
  first : World
  last : World

def episodes (env : AgentEnv) : List (EdgeConfig × Nat) → World → List Episode
  | [], _ => []
  | process :: rest, world =>
      let last := after (Agent.runAgent env process.1 process.2) world
      ⟨process.1, world, last⟩ :: episodes env rest last

/-- A process on its share of the history: it took over the inventories that its reader
answered, each at its own time, and enqueued what presence reported on them, but perhaps
for the last events of the last scan. -/
structure Contributes (env : AgentEnv) (episode : Episode) (share : List EventPayload) : Prop where
  surveyed : Inventoried env episode.first episode.last
  enqueued : ∃ told missed, PresenceReports episode.config told missed episode.last ∧
    Built episode.config told share

section Lifetimes

variable {env : AgentEnv} {config : EdgeConfig} {before : List EventPayload} {world : World}

theorem episodes_concat (processes : List (EdgeConfig × Nat)) (process : EdgeConfig × Nat) :
    episodes env (processes ++ [process]) world = episodes env processes world ++
      [⟨process.1, lifetimes env processes world,
        lifetimes env (processes ++ [process]) world⟩] := by
  induction processes generalizing world with
  | nil => rfl
  | cons earlier rest ih => exact congrArg _ ih

theorem Left.initial (empty : world.delivery.queue.rows = [])
    (blank : world.delivery.cloud = .empty) : Left env [] world := by
  constructor
  · constructor <;> simp [empty, blank, Cloud.empty]
  · simp [EventQueue.history, EventQueue.standings, empty]
  · simp

theorem Left.booted (left : Left env before world) :
    Carried env config before [] (world.boot config) := by
  refine ⟨.booted left.history left.minted, [], [], ⟨⟨rfl, List.nil_suffix⟩, .nil, ?_, ?_⟩⟩
  · rw [List.append_nil]
    exact left.free.congr rfl rfl
  · rw [List.append_nil]
    exact left.history

theorem Left.distinct (left : Left env before world) : (before.map (·.edgeEventId)).Nodup := by
  have ids : world.delivery.queue.rows.map (·.edgeEventId) = before.map (·.edgeEventId) := by
    rw [← history_edgeEventIds, left.history, List.map_map]
    rfl
  exact ids ▸ world.delivery.queue.unique

theorem Halted.left (halted : Halted env config before world) :
    ∃ share told missed, PresenceReports config told missed world ∧ Built config told share ∧
      Left env (before ++ share) world := by
  obtain ⟨pending, recorded, told, payloads, carries⟩ := halted
  refine ⟨payloads, told, pending, carries.toPresenceReports, carries.built, carries.free,
    carries.history, fun label member => ?_⟩
  rw [← carries.history] at member
  exact recorded.minted _ (List.mem_append_left _ (List.mem_map.mpr ⟨label, member, rfl⟩))

theorem Agent.runAgent_left (mints : MintsDistinct env) (process : EdgeConfig × Nat)
    (left : Left env before world) :
    Halted env process.1 before (after (runAgent env process.1 process.2) world) :=
  Triple.after ((runAgent_conduct (carried_conduct mints) process.2).before
    fun _ left => left.booted) left

theorem exists_shares (mints : MintsDistinct env) (processes : List (EdgeConfig × Nat))
    (left : Left env [] world) :
    ∃ shares, List.Forall₂ (Contributes env) (episodes env processes world) shares ∧
      Left env shares.flatten (lifetimes env processes world) := by
  induction processes using List.reverseRecOn with
  | nil => exact ⟨[], .nil, left⟩
  | append_singleton processes process ih =>
      obtain ⟨shares, contribute, left⟩ := ih
      obtain ⟨share, told, missed, reported, built, longer⟩ :=
        (Agent.runAgent_left mints process left).left
      have surveyed := Agent.runAgent_surveyed env process.1 process.2
        (lifetimes env processes world)
      rw [← lifetimes_concat] at reported longer surveyed
      refine ⟨shares ++ [share], ?_, ?_⟩
      · rw [episodes_concat]
        exact List.rel_append contribute (.cons ⟨surveyed, told, missed, reported, built⟩ .nil)
      · rw [List.flatten_append, List.flatten_singleton]
        exact longer

end Lifetimes

/-- Over any number of processes, each ended anywhere: the queue holds, in order and once
each, the events that presence reported on the inventories of each process, but perhaps
for the last events of its last scan; and from each row the cloud gets that event and
nothing else. -/
theorem lifetimes_store_and_forward (env : AgentEnv) (mints : MintsDistinct env)
    (processes : List (EdgeConfig × Nat)) (world : World)
    (empty : world.delivery.queue.rows = []) (blank : world.delivery.cloud = .empty) :
    let state := (lifetimes env processes world).delivery
    ∃ shares : List (List EventPayload),
      List.Forall₂ (Contributes env) (episodes env processes world) shares ∧
      (shares.flatten.map (·.edgeEventId)).Nodup ∧
      state.queue.history = shares.flatten.map (·.label) ∧
      (∀ row ∈ state.queue.rows, EnqueuedAs shares.flatten row.edgeEventId row.payload ∧
        (row.status = .DELIVERED → row.edgeEventId ∈ state.cloud.stored.keys)) ∧
      (∀ payload ∈ state.cloud.sent, EnqueuedAs shares.flatten payload.edgeEventId payload) ∧
      state.cloud.stored.keys.Nodup ∧
      ∀ edgeEventId payload, state.cloud.stored.get? edgeEventId = some payload →
        EnqueuedAs shares.flatten edgeEventId payload := by
  intro state
  obtain ⟨shares, contribute, left⟩ := exists_shares mints processes (.initial empty blank)
  exact ⟨shares, contribute, left.distinct, left.history,
    fun row member => ⟨left.free.rows row member, left.free.delivered row member⟩,
    left.free.sent, state.cloud.stored.distinct, left.free.stored⟩

/-- Two processes of one turn that both find the tag: two rows, one from each. -/
theorem lifetimes_store_and_forward_sample :
    let processes := [(sampleConfig, 1), (sampleConfig, 1)]
    let state := (lifetimes sampleSurroundings processes sampleWorld).delivery
    MintsDistinct sampleSurroundings ∧ sampleWorld.delivery.queue.rows = [] ∧
      sampleWorld.delivery.cloud = .empty ∧ state.queue.history.length = 2 ∧
      ∃ shares, List.Forall₂ (Contributes sampleSurroundings)
          (episodes sampleSurroundings processes sampleWorld) shares ∧
        state.queue.history = shares.flatten.map (·.label) := by
  intro processes state
  obtain ⟨shares, contribute, -, history, -⟩ := lifetimes_store_and_forward sampleSurroundings
    sampleSurroundings_distinct processes sampleWorld rfl rfl
  exact ⟨sampleSurroundings_distinct, rfl, rfl, by decide +kernel, shares, contribute, history⟩

end MvdEdge
