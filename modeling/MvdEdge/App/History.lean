import MvdEdge.App.RunProperties

/-! The durable history of events over any number of processes. Presence is kept
in memory only: each process starts with nothing in sight, and what it adds to
the history is well formed by itself. -/

set_option autoImplicit false

namespace MvdEdge

open Lib Lib.Effect PresenceState

structure Label where
  edgeEventId : Str
  event : EventType
  readerId : Str
  epc : Str
  deriving DecidableEq

def EventPayload.label (payload : EventPayload) : Label :=
  ⟨payload.edgeEventId, payload.event, payload.readerId, payload.epc⟩

def Standing.label (standing : Standing) : Label :=
  ⟨standing.edgeEventId, standing.event, standing.readerId, standing.epc⟩

def EventQueue.history (queue : EventQueue) : List Label :=
  queue.standings.map (·.label)

def eventsOfTag (readerId epc : Str) (history : List Label) : List EventType :=
  (history.filter fun label => decide (label.readerId = readerId ∧ label.epc = epc)).map (·.event)

theorem history_edgeEventIds (queue : EventQueue) :
    queue.history.map (·.edgeEventId) = queue.rows.map (·.edgeEventId) := by
  simp [EventQueue.history, EventQueue.standings, List.map_map, Function.comp_def,
    Standing.label, QueuedEvent.standing]

theorem history_enqueue {queue : EventQueue} {payload : EventPayload}
    (unknown : payload.edgeEventId ∉ queue.history.map (·.edgeEventId)) (now : Timestamp) :
    (queue.enqueue payload now).history = queue.history ++ [payload.label] := by
  rw [history_edgeEventIds] at unknown
  simp [EventQueue.history, EventQueue.standings, EventQueue.enqueue, unknown,
    QueuedEvent.standing, Standing.label, EventPayload.label]

theorem settled_label (accepted : Nat → Bool) (entries : List (QueuedEvent × Nat))
    (board : List Standing) :
    (settled accepted entries board).map (·.label) = board.map (·.label) := by
  rw [settled, List.map_map]
  apply List.map_congr_left
  intro standing _
  simp only [Function.comp_apply]
  split <;> rfl

namespace Delivery

variable (env : DeliveryEnv)

theorem processPendingDeliveries_history (batchSize : Nat) :
    Leaves (fun state => state.queue.history) (processPendingDeliveries env batchSize) := by
  refine Leaves.of_after fun state => ?_
  obtain ⟨done, -, reached⟩ := processPendingDeliveries_settles env batchSize state
  rw [EventQueue.history, reached, settled_label]
  rfl

theorem enqueue_history {history : List Label} {payload : EventPayload}
    (unknown : payload.edgeEventId ∉ history.map (·.edgeEventId)) :
    Triple (fun state => state.queue.history = history) (enqueue env payload)
      (fun _ state => state.queue.history = history ++ [payload.label])
      (fun _ state => state.queue.history = history) := by
  refine statement_triple env ?_ fun _ _ same => same
  intro state same
  rw [← same] at unknown ⊢
  exact history_enqueue unknown _

theorem pendingCount_history : Leaves (fun state => state.queue.history) (pendingCount env) :=
  fun _ => statement_triple env (fun _ same => same) fun _ _ same => same

end Delivery

def World.memory (world : World) : (PresenceState × Nat) × List Label :=
  ((world.presence, world.updates), world.delivery.queue.history)

namespace Agent

variable {env : AgentEnv} {config : EdgeConfig}

theorem onDelivery_memory {α : Type} {program : Delivery α}
    (leaves : Leaves (fun state => state.queue.history) program) :
    Leaves World.memory (onDelivery program) :=
  Leaves.pair (Leaves.zoom (fun _ _ => rfl) program) (leaves.zoom_part World.deliveryPart)

theorem onLine_memory {α : Type} (program : Serial α) : Leaves World.memory (onLine program) :=
  Leaves.zoom (fun _ _ => rfl) program

theorem memory_aside (env : AgentEnv) (config : EdgeConfig) : Aside env config World.memory where
  tick := fun _ => rfl
  health := fun _ _ => rfl
  attempt := fun _ _ => rfl
  delivery := fun _ _ => rfl
  heartbeat := fun _ _ => rfl
  heartbeats := fun _ _ => rfl
  slept := fun _ _ => rfl
  pendingCount := onDelivery_memory (Delivery.pendingCount_history _)
  process := onDelivery_memory (Delivery.processPendingDeliveries_history _ _)

theorem reconnectPhase_memory (now : Time) :
    Leaves World.memory (reconnectPhase env config now) := by
  intro shown
  have probes : Probes env config (fun world => world.memory = shown)
      fun _ world => world.memory = shown := by
    constructor
    · exact fun _ _ same => same
    · exact Leaves.operation (fun _ _ => rfl) (fun _ => rfl) shown
    · exact fun _ => onLine_memory _ shown
    · exact fun _ => onLine_memory _ shown
    · exact fun _ => onLine_memory _ shown
  exact reconnectPhase_attends ⟨probes, fun _ => mark_aside (memory_aside env config) _ shown,
    fun _ _ same => same, fun _ _ same => same⟩ now

end Agent

/-! ## One process -/

def DetectedEvent.label (config : EdgeConfig) (event : DetectedEvent) : Label :=
  (Agent.buildEventPayload config event event.edgeEventAt).label

def Minted (env : AgentEnv) (updates : Nat) (edgeEventId : Str) : Prop :=
  ∃ call, call < updates ∧ ∃ index, edgeEventId = (env.mint call).uuid4 index

def MintsDistinct (env : AgentEnv) : Prop :=
  ∀ left right leftIndex rightIndex,
    (env.mint left).uuid4 leftIndex = (env.mint right).uuid4 rightIndex →
      left = right ∧ leftIndex = rightIndex

def edgeEventIds (history : List Label) (pending : List DetectedEvent) : List Str :=
  history.map (·.edgeEventId) ++ pending.map (·.edgeEventId)

/-- Of the events its presence state has reported, a process has enqueued all but
those pending, behind the history it found. -/
structure Recorded (env : AgentEnv) (config : EdgeConfig) (base : List Label)
    (pending : List DetectedEvent) (world : World) : Prop where
  told : ∃ scans told, runUpdates (some config.readerId) scans (new config.exitTimeout) =
      (told ++ pending, world.presence) ∧
    world.delivery.queue.history = base ++ told.map (·.label config)
  distinct : (edgeEventIds world.delivery.queue.history pending).Nodup
  minted : ∀ edgeEventId ∈ edgeEventIds world.delivery.queue.history pending,
    Minted env world.updates edgeEventId

section OneProcess

variable {env : AgentEnv} {config : EdgeConfig} {base : List Label}
  {pending : List DetectedEvent} {world next : World}

theorem Recorded.congr (recorded : Recorded env config base pending world)
    (same : next.memory = world.memory) : Recorded env config base pending next := by
  have presence : next.presence = world.presence := congrArg (·.1.1) same
  have updates : next.updates = world.updates := congrArg (·.1.2) same
  have history : next.delivery.queue.history = world.delivery.queue.history :=
    congrArg (·.2) same
  constructor
  · rw [presence, history]
    exact recorded.told
  · rw [history]
    exact recorded.distinct
  · rw [history, updates]
    exact recorded.minted

theorem Recorded.scanned (mints : MintsDistinct env)
    (recorded : Recorded env config base [] world) {tags : List Str} {now : Time}
    {events : List DetectedEvent} {state : PresenceState}
    (updated : (events, state) =
      world.presence.update tags now (some config.readerId) (env.mint world.updates)) :
    Recorded env config base events
      { world with presence := state, updates := world.updates + 1 } := by
  obtain ⟨scans, told, ran, history⟩ := recorded.told
  rw [List.append_nil] at ran
  have numbered := update_numbered world.presence tags now (some config.readerId)
    (env.mint world.updates)
  rw [← updated, Numbered] at numbered
  have distinct := recorded.distinct
  have minted := recorded.minted
  rw [edgeEventIds, List.map_nil, List.append_nil] at distinct minted
  constructor
  · refine ⟨scans ++ [⟨tags, now, env.mint world.updates⟩], told, ?_, history⟩
    rw [runUpdates_concat, ran]
    dsimp only
    rw [← updated]
  · rw [edgeEventIds, List.nodup_append, numbered]
    refine ⟨distinct, ?_, ?_⟩
    · exact List.nodup_range.map fun left right same => (mints _ _ _ _ same).2
    · intro old known new drawn same
      obtain ⟨call, earlier, index, rfl⟩ := minted old known
      obtain ⟨other, _, rfl⟩ := List.mem_map.mp drawn
      exact absurd (mints _ _ _ _ same).1 (Nat.ne_of_lt earlier)
  · intro edgeEventId member
    rw [edgeEventIds, numbered] at member
    cases List.mem_append.mp member with
    | inl known =>
        obtain ⟨call, earlier, index, same⟩ := minted edgeEventId known
        exact ⟨call, Nat.lt_succ_of_lt earlier, index, same⟩
    | inr drawn =>
        obtain ⟨index, _, rfl⟩ := List.mem_map.mp drawn
        exact ⟨world.updates, Nat.lt_succ_self _, index, rfl⟩

theorem Recorded.booted (found : world.delivery.queue.history = base)
    (minted : ∀ label ∈ base, Minted env world.updates label.edgeEventId) :
    Recorded env config base [] (world.boot config) := by
  have ids : edgeEventIds (world.boot config).delivery.queue.history [] =
      world.delivery.queue.rows.map (·.edgeEventId) := by
    rw [edgeEventIds, List.map_nil, List.append_nil]
    exact history_edgeEventIds world.delivery.queue
  constructor
  · exact ⟨[], [], rfl, by rw [List.map_nil, List.append_nil]; exact found⟩
  · rw [ids]
    exact world.delivery.queue.unique
  · intro edgeEventId member
    rw [ids, ← history_edgeEventIds, found] at member
    obtain ⟨label, known, rfl⟩ := List.mem_map.mp member
    exact minted label known

theorem Recorded.unscanned (recorded : Recorded env config base [] world) :
    Recorded env config base [] { world with updates := world.updates + 1 } := by
  refine ⟨recorded.told, recorded.distinct, fun edgeEventId member => ?_⟩
  obtain ⟨call, earlier, index, same⟩ := recorded.minted edgeEventId member
  exact ⟨call, Nat.lt_succ_of_lt earlier, index, same⟩

theorem Recorded.read (mints : MintsDistinct env)
    (recorded : Recorded env config base [] world) (inventory : Except Str InventoryResult)
    (now : Time) (stamp : Timestamp) (healthState : Option HealthState) :
    let read := readInventoryEvents ⟨inventory, now, stamp, env.mint world.updates⟩ world.presence
      healthState (some config.readerId)
    Recorded env config base read.events
      { world with presence := read.state, updates := world.updates + 1 } := by
  intro read
  obtain ⟨scan, found, updated, _⟩ | ⟨_, _, quiet, kept, _⟩ | ⟨_, _, quiet, kept, _⟩ :=
    readInventoryEvents_cases ⟨inventory, now, stamp, env.mint world.updates⟩ world.presence
      healthState (some config.readerId)
  · rw [InventoryCall.scan?_mint found] at updated
    exact recorded.scanned mints updated
  · rw [show read.events = [] from quiet, show read.state = world.presence from kept]
    exact recorded.unscanned
  · rw [show read.events = [] from quiet, show read.state = world.presence from kept]
    exact recorded.unscanned

theorem Recorded.enqueued {event : DetectedEvent} {rest : List DetectedEvent}
    (recorded : Recorded env config base (event :: rest) world)
    (history : next.delivery.queue.history = world.delivery.queue.history ++ [event.label config])
    (presence : next.presence = world.presence) (updates : next.updates = world.updates) :
    Recorded env config base rest next := by
  have ids : edgeEventIds next.delivery.queue.history rest =
      edgeEventIds world.delivery.queue.history (event :: rest) := by
    rw [edgeEventIds, history, List.map_append, List.append_assoc]
    rfl
  obtain ⟨scans, told, ran, before⟩ := recorded.told
  constructor
  · refine ⟨scans, told ++ [event], ?_, ?_⟩
    · rw [ran, presence, List.append_assoc, List.singleton_append]
    · rw [history, before, List.map_append, List.append_assoc]
      rfl
  · rw [ids]
    exact recorded.distinct
  · rw [ids, updates]
    exact recorded.minted

theorem Recorded.unknown {event : DetectedEvent} {rest : List DetectedEvent}
    (recorded : Recorded env config base (event :: rest) world) :
    event.edgeEventId ∉ world.delivery.queue.history.map (·.edgeEventId) := by
  intro known
  have apart := (List.nodup_append.mp recorded.distinct).2.2
  exact apart _ known _ List.mem_cons_self rfl

end OneProcess

namespace Agent

variable {env : AgentEnv} {config : EdgeConfig} {base : List Label}
  {pending : List DetectedEvent}

/-- Where a process may stop: anywhere between its events and their rows. -/
def Stopped (env : AgentEnv) (config : EdgeConfig) (base : List Label) (world : World) : Prop :=
  ∃ pending, Recorded env config base pending world

theorem recorded_of_memory {α : Type} {program : Agent α}
    (leaves : Leaves World.memory program) :
    Triple (Recorded env config base pending) program
      (fun _ => Recorded env config base pending) (fun _ => Stopped env config base) :=
  leaves.triple (fun _ _ same recorded => recorded.congr same)
    fun _ _ recorded => ⟨pending, recorded⟩

theorem enqueue_recorded (event : DetectedEvent) (rest : List DetectedEvent)
    (sendAt : Timestamp) :
    Triple (Recorded env config base (event :: rest))
      (onDelivery (Delivery.enqueue env.delivery (buildEventPayload config event sendAt)))
      (fun _ => Recorded env config base rest) (fun _ => Stopped env config base) := by
  intro world recorded
  refine (Triple.zoom World.deliveryPart (fun world => (world.presence, world.updates))
    (fun _ _ => rfl) (Delivery.enqueue_history env.delivery recorded.unknown)
    (· = (world.presence, world.updates)) world ⟨rfl, rfl⟩).imp ?_ ?_
  · intro _ next outcome
    exact recorded.enqueued outcome.1 (congrArg (·.1) outcome.2) (congrArg (·.2) outcome.2)
  · intro failure next outcome
    exact ⟨event :: rest, recorded.congr (congrArg₂ Prod.mk outcome.2 outcome.1)⟩

theorem enqueueEvents_recorded (events : List DetectedEvent) :
    Triple (Recorded env config base events) (enqueueEvents env config events)
      (fun _ => Recorded env config base []) (fun _ => Stopped env config base) := by
  have aside := memory_aside env config
  exact enqueueEvents_keeps (Recorded env config base)
    (fun _ => recorded_of_memory (mark_aside aside _))
    (fun _ => recorded_of_memory (quietly_aside aside fun _ _ => rfl)) enqueue_recorded events

def Read (env : AgentEnv) (config : EdgeConfig) (base : List Label) (read : InventoryRead)
    (world : World) : Prop :=
  Recorded env config base [] world ∧
    Recorded env config base read.events
      { world with presence := read.state, updates := world.updates + 1 }

theorem read_of_memory {α : Type} {program : Agent α} {read : InventoryRead}
    (leaves : Leaves World.memory program) :
    Triple (Read env config base read) program (fun _ => Read env config base read)
      (fun _ => Stopped env config base) := by
  refine leaves.triple ?_ fun _ _ both => ⟨[], both.1⟩
  intro world next same both
  have updates : next.updates = world.updates := congrArg (·.1.2) same
  have history : next.delivery.queue.history = world.delivery.queue.history :=
    congrArg (·.2) same
  exact ⟨both.1.congr same, both.2.congr (by simp [World.memory, updates, history])⟩

theorem readInventory_recorded (mints : MintsDistinct env) (reader : IDT85Reader) :
    Triple (Recorded env config base []) (readInventory env config reader)
      (fun read => Recorded env config base read.events)
      (fun _ => Stopped env config base) := by
  have time := time_aside (memory_aside env config)
  have asked : Leaves World.memory (attempt Exn.caught (onLine (reader.inventory env.line))) :=
    fun shown => Preserves.attempt (onLine_memory _ shown)
  refine Triple.bind (recorded_of_memory time) fun _ => Triple.bind (recorded_of_memory asked)
    fun inventory => Triple.bind (recorded_of_memory time) fun now => ?_
  refine Triple.through (Read env config base) (Triple.operation ?_ ?_) fun read => ?_
  · intro world recorded
    exact ⟨recorded.congr rfl, (recorded.read mints inventory now _ _).congr rfl⟩
  · intro failure world _ recorded
    exact ⟨[], recorded.congr rfl⟩
  · have absorbed : Triple (Read env config base read) (absorb env reader inventory now read)
        (fun _ => Recorded env config base read.events) (fun _ => Stopped env config base) :=
      absorb_keeps (read_of_memory (onLine_memory _)) fun _ both => both.2.congr rfl
    exact Triple.bind absorbed fun _ => Triple.pure fun _ recorded => recorded

theorem scanPhase_recorded (mints : MintsDistinct env) :
    Triple (Recorded env config base []) (scanPhase env config)
      (fun scanned => Recorded env config base (scanned.getD []))
      (fun _ => Stopped env config base) := by
  have aside := memory_aside env config
  exact scanPhase_keeps (Recorded env config base) (fun _ _ _ recorded => recorded.congr rfl)
    (fun _ _ _ recorded => recorded.congr rfl)
    (fun _ _ => recorded_of_memory (mark_aside aside _))
    (fun _ => recorded_of_memory (time_aside aside)) (readInventory_recorded mints)

theorem cleanup_stopped :
    Preserves (Stopped env config base) (cleanup env) := by
  have closed : Leaves World.memory (closeReader env) :=
    fun shown => closeReader_keeps fun _ => onLine_memory _ shown
  have cleaned : Leaves World.memory (cleanup env) :=
    Leaves.bind closed fun _ => onDelivery_memory fun _ =>
      Delivery.statement_triple _ (fun _ same => same) fun _ _ same => same
  exact cleaned.triple (fun _ _ same stopped => stopped.imp fun _ recorded => recorded.congr same)
    fun _ _ stopped => stopped

theorem recorded_conduct (mints : MintsDistinct env) :
    Conduct env config (Recorded env config base) fun _ => Stopped env config base where
  serves := aside_serves (memory_aside env config) (fun _ _ same recorded => recorded.congr same)
    fun _ _ recorded => ⟨[], recorded⟩
  send := recorded_of_memory (sendHeartbeat_aside (memory_aside env config))
  keeps := fun events _ recorded => ⟨events, recorded⟩
  caught := fun _ stopped => stopped
  head := fun _ recorded => recorded.congr rfl
  reconnect := fun now => recorded_of_memory (reconnectPhase_memory now)
  scan := scanPhase_recorded mints
  enqueue := enqueueEvents_recorded
  opened := recorded_of_memory (onDelivery_memory fun _ =>
    Delivery.statement_triple _ (fun _ same => same) fun _ _ same => same)
  cleanup := fun _ => cleanup_stopped
  unsupported := fun _ _ recorded => ⟨[], recorded⟩

theorem runAgent_stopped (mints : MintsDistinct env) (turns : Nat) :
    Triple (fun world => world.delivery.queue.history = base ∧
        ∀ label ∈ base, Minted env world.updates label.edgeEventId)
      (runAgent env config turns) (fun _ => Stopped env config base)
      (fun _ => Stopped env config base) :=
  (runAgent_conduct (recorded_conduct mints) turns).before fun _ found => .booted found.1 found.2

end Agent

/-! ## Any number of processes -/

/-- Processes one after another on the same data: their settings, and the number
of turns after which each is stopped at the latest. -/
def lifetimes (env : AgentEnv) (processes : List (EdgeConfig × Nat)) (world : World) : World :=
  processes.foldl (fun world process => after (Agent.runAgent env process.1 process.2) world) world

section Lifetimes

variable {env : AgentEnv} {config : EdgeConfig} {base : List Label} {world : World}

theorem label_readerId {event : DetectedEvent} (reader : event.readerId = some config.readerId) :
    (event.label config).readerId = config.readerId := by
  change (orElse event.readerId none).getD config.readerId = config.readerId
  rw [reader]
  cases config.readerId with
  | nil => rfl
  | cons char rest => rfl

theorem eventsOfTag_label {told : List DetectedEvent}
    (readers : ∀ event ∈ told, event.readerId = some config.readerId) (readerId epc : Str) :
    eventsOfTag readerId epc (told.map (·.label config)) =
      if readerId = config.readerId then eventsOf epc told else [] := by
  rw [eventsOfTag, List.filter_map, List.map_map]
  by_cases own : readerId = config.readerId
  · rw [if_pos own]
    refine congrArg (List.map _) (List.filter_congr fun event member => ?_)
    have epcs : (event.label config).epc = event.epc := rfl
    simp [label_readerId (readers event member), own, epcs]
  · rw [if_neg own, List.filter_eq_nil_iff.mpr, List.map_nil]
    intro event member
    simp [label_readerId (readers event member), Ne.symm own]

/-- What a process adds is well formed by itself, wherever the process stopped. -/
theorem Agent.Stopped.alternating (stopped : Agent.Stopped env config base world) :
    ∃ segment, world.delivery.queue.history = base ++ segment ∧
      (∀ readerId epc, Alternating .ENTER .EXIT (eventsOfTag readerId epc segment)) ∧
      ∀ label ∈ base ++ segment, Minted env world.updates label.edgeEventId := by
  obtain ⟨pending, recorded⟩ := stopped
  obtain ⟨scans, told, ran, history⟩ := recorded.told
  refine ⟨told.map (·.label config), history, ?_, ?_⟩
  · intro readerId epc
    have whole := runUpdates_alternating config.readerIdClean config.exitTimeoutChecked scans epc
    rw [ran, eventsOf_append] at whole
    rw [eventsOfTag_label]
    · split
      · exact whole.of_append
      · trivial
    · intro event member
      refine runUpdates_readerId _ scans (new config.exitTimeout) ?_
      rw [ran]
      exact List.mem_append_left _ member
  · intro label member
    rw [← history] at member
    exact recorded.minted _ (List.mem_append_left _ (List.mem_map.mpr ⟨label, member, rfl⟩))

theorem lifetimes_concat (processes : List (EdgeConfig × Nat)) (process : EdgeConfig × Nat) :
    lifetimes env (processes ++ [process]) world =
      after (Agent.runAgent env process.1 process.2) (lifetimes env processes world) := by
  simp [lifetimes, List.foldl_append]

structure Segmented (env : AgentEnv) (world : World) (processes : List (EdgeConfig × Nat))
    (segments : List (List Label)) : Prop where
  length : segments.length = processes.length
  history : ∀ count, (lifetimes env (processes.take count) world).delivery.queue.history =
    (segments.take count).flatten
  alternating : ∀ segment ∈ segments, ∀ readerId epc,
    Alternating .ENTER .EXIT (eventsOfTag readerId epc segment)
  minted : ∀ label ∈ segments.flatten,
    Minted env (lifetimes env processes world).updates label.edgeEventId

theorem Segmented.whole {processes : List (EdgeConfig × Nat)} {segments : List (List Label)}
    (segmented : Segmented env world processes segments) :
    (lifetimes env processes world).delivery.queue.history = segments.flatten := by
  have all := segmented.history processes.length
  rwa [List.take_length, ← segmented.length, List.take_length] at all

theorem Segmented.concat (mints : MintsDistinct env) {processes : List (EdgeConfig × Nat)}
    {segments : List (List Label)} (segmented : Segmented env world processes segments)
    (process : EdgeConfig × Nat) :
    ∃ segment, Segmented env world (processes ++ [process]) (segments ++ [segment]) := by
  obtain ⟨segment, history, alternating, minted⟩ := Agent.Stopped.alternating
    (Triple.after (Agent.runAgent_stopped mints process.2)
      ⟨segmented.whole, segmented.minted⟩)
  refine ⟨segment, by simp [segmented.length], fun count => ?_, ?_, ?_⟩
  · by_cases inside : count ≤ processes.length
    · rw [List.take_append_of_le_length inside,
        List.take_append_of_le_length (segmented.length.symm ▸ inside)]
      exact segmented.history count
    · have beyond : processes.length + 1 ≤ count := by omega
      rw [List.take_of_length_le (by simpa using beyond), lifetimes_concat, history,
        List.take_of_length_le (by simpa [segmented.length] using beyond), List.flatten_append,
        List.flatten_singleton]
  · intro other member
    cases List.mem_append.mp member with
    | inl earlier => exact segmented.alternating other earlier
    | inr last =>
        obtain rfl := List.mem_singleton.mp last
        exact alternating
  · rw [lifetimes_concat, List.flatten_append, List.flatten_singleton]
    exact minted

theorem exists_segmented (mints : MintsDistinct env) (processes : List (EdgeConfig × Nat))
    (empty : world.delivery.queue.rows = []) :
    ∃ segments, Segmented env world processes segments := by
  induction processes using List.reverseRecOn with
  | nil =>
      refine ⟨[], rfl, fun count => ?_, by simp, by simp⟩
      simp [lifetimes, EventQueue.history, EventQueue.standings, empty]
  | append_singleton processes process ih =>
      obtain ⟨segments, segmented⟩ := ih
      obtain ⟨segment, longer⟩ := segmented.concat mints process
      exact ⟨_, longer⟩

end Lifetimes

/-- Each process adds one segment to the history, and in every segment the events
of each tag alternate, starting with ENTER. -/
theorem history_segments (env : AgentEnv) (mints : MintsDistinct env)
    (processes : List (EdgeConfig × Nat)) (world : World)
    (empty : world.delivery.queue.rows = []) :
    ∃ segments : List (List Label), segments.length = processes.length ∧
      (∀ count, (lifetimes env (processes.take count) world).delivery.queue.history =
        (segments.take count).flatten) ∧
      ∀ segment ∈ segments, ∀ readerId epc,
        Alternating .ENTER .EXIT (eventsOfTag readerId epc segment) := by
  obtain ⟨segments, segmented⟩ := exists_segmented mints processes empty
  exact ⟨segments, segmented.length, segmented.history, segmented.alternating⟩

theorem sampleSurroundings_distinct : MintsDistinct sampleSurroundings := by
  intro left right leftIndex rightIndex same
  change List.replicate left 'a' ++ 'b' :: List.replicate leftIndex 'a' =
    List.replicate right 'a' ++ 'b' :: List.replicate rightIndex 'a' at same
  induction left generalizing right with
  | zero =>
      cases right with
      | zero => simpa using congrArg List.length same
      | succ right => simp [List.replicate_succ] at same
  | succ left ih =>
      cases right with
      | zero => simp [List.replicate_succ] at same
      | succ right =>
          obtain ⟨calls, indices⟩ := ih right (by simpa [List.replicate_succ] using same)
          exact ⟨congrArg Nat.succ calls, indices⟩

theorem history_segments_sample :
    let processes := [(sampleConfig, 1), (sampleConfig, 1)]
    MintsDistinct sampleSurroundings ∧ sampleWorld.delivery.queue.rows = [] ∧
      ∃ segments : List (List Label), segments.length = processes.length ∧
        (∀ count, (lifetimes sampleSurroundings (processes.take count)
          sampleWorld).delivery.queue.history = (segments.take count).flatten) ∧
        ∀ segment ∈ segments, ∀ readerId epc,
          Alternating .ENTER .EXIT (eventsOfTag readerId epc segment) :=
  ⟨sampleSurroundings_distinct, rfl,
    history_segments sampleSurroundings sampleSurroundings_distinct _ sampleWorld rfl⟩

/-- Two processes that see the same tag add an ENTER each. -/
theorem history_restart : ¬ ∀ (env : AgentEnv) (processes : List (EdgeConfig × Nat))
    (world : World), MintsDistinct env → world.delivery.queue.rows = [] →
      ∀ readerId epc, Alternating .ENTER .EXIT
        (eventsOfTag readerId epc (lifetimes env processes world).delivery.queue.history) := by
  intro claim
  have alternating := claim sampleSurroundings [(sampleConfig, 1), (sampleConfig, 1)] sampleWorld
    sampleSurroundings_distinct rfl "R".toList "AABBCC".toList
  have events : eventsOfTag "R".toList "AABBCC".toList
      (lifetimes sampleSurroundings [(sampleConfig, 1), (sampleConfig, 1)]
        sampleWorld).delivery.queue.history = [.ENTER, .ENTER] := by decide +kernel
  rw [events] at alternating
  exact absurd alternating.2.1 (by decide)

end MvdEdge
