import MvdEdge.App.Scanning
import MvdEdge.App.StoreAndForward

/-! One process of the agent from the tags in the field to the rows of the queue: the line
does not fail and the reader answers; the cloud, the database and the clock do as they like,
and the process may be stopped at any other operation. -/

set_option autoImplicit false

namespace MvdEdge

open Lib Lib.Effect PresenceState

/-- A reader on the line, with the state it is found in. -/
structure Site (σ : Type) where
  device : Party σ Bytes Bytes
  mode : σ → UInt8
  field : σ → Option (List Bytes)
  state : σ

/-- The reader object a process makes. -/
def EdgeConfig.adapter (config : EdgeConfig) (object : Nat) : IDT85Reader where
  port := config.serialPort
  baudrate := config.probe.baudrate
  address := config.probe.readerAddress
  verifyMethod := upper config.probe.readerVerifyMethod
  owner := .agent
  object := object

/-- The conversation with which a process connects, from command number `first` on. -/
def greet (env : AgentEnv) (config : EdgeConfig) (first : Nat) :
    (ReaderState × Str) × List Bytes :=
  ((config.adapter 0).handshake config.autoConfigureReader).converse
    (IDT85Reader.answers env.line) first

/-- A connection and inventories. -/
def commandsOf (env : AgentEnv) (config : EdgeConfig) (first count : Nat) : List Bytes :=
  (greet env config first).2 ++
    List.replicate count (buildInventoryCommand config.probe.readerAddress)

/-- The port is configured, and what arrives after the commands are the answers of the site. -/
structure Installed {σ : Type} (env : AgentEnv) (config : EdgeConfig) (site : Site σ)
    (first : Nat) : Prop where
  quiet : ∀ tick, env.line.fault tick = none
  explicit : Agent.shouldAutoDiscover config.serialPort = false
  named : config.serialPort ≠ []
  supported : (config.adapter 0).verifyMethod ∈ SUPPORTED_VERIFY_METHODS
  surveys : Surveys site.device config.probe.readerAddress site.mode site.field
  usable : site.mode site.state = ANSWER_MODE ∨ config.autoConfigureReader = true
  answered : ∀ count,
    site.device.Gives env.line.deliver site.state first (commandsOf env config first count)

/-- The port is open, and `commands` were written on it since command number `first`. -/
structure Talking (object first : Nat) (commands : List Bytes) (line : Line) : Prop where
  held : ∃ handle, line.serialOf object = some handle
  writes : line.writes = first + commands.length
  written : written line.log = commands.reverse

section Installation

variable {σ : Type} {env : AgentEnv} {config : EdgeConfig} {site : Site σ} {first : Nat}

/-- What the connection leaves of the site. -/
def Site.greeted (site : Site σ) (env : AgentEnv) (config : EdgeConfig) (first : Nat) : σ :=
  site.device.hear site.state (greet env config first).2

variable (installed : Installed env config site first)

include installed

theorem Installed.greeted :
    (greet env config first).1 = readerReady ∧
      site.mode (site.greeted env config first) = ANSWER_MODE := by
  have answered := installed.answered 0
  rw [commandsOf, List.replicate_zero, List.append_nil] at answered
  exact installed.surveys.conforms.greeted installed.supported answered installed.usable

/-- The answer to the next inventory is that of the site. -/
theorem Installed.answer (count : Nat) :
    IDT85Reader.answers env.line (first + (commandsOf env config first count).length) =
      readFrame (site.device.respond (site.device.hear (site.greeted env config first)
        (List.replicate count (buildInventoryCommand config.probe.readerAddress)))
        (buildInventoryCommand config.probe.readerAddress)).1 := by
  have answered := installed.answered (count + 1)
  rw [commandsOf, List.replicate_succ', ← List.append_assoc] at answered
  obtain ⟨next, -⟩ := answered.append.2
  rw [IDT85Reader.answers, commandsOf, next, Site.greeted, ← Party.hear_append]

theorem Installed.connects (object : Nat) :
    Triple (fun line => line.writes = first ∧ written line.log = [])
      (connectAndVerifyReader env.line (config.adapter object) config.autoConfigureReader)
      (fun result line => result = readerReady ∧
        Talking object first (commandsOf env config first 0) line)
      fun _ _ => False := by
  intro line fresh
  obtain ⟨writes, unwritten⟩ := fresh
  have ready := installed.greeted.1
  obtain ⟨last, ran, spoken⟩ : ∃ last, connectAndVerifyReader env.line (config.adapter object)
      config.autoConfigureReader line = .ok (greet env config line.writes).1 last ∧
      IDT85Reader.Spoken object line (greet env config line.writes).2
        (bif IDT85Reader.staysOpen (greet env config line.writes).1 then some line.nextHandle
          else none) last :=
    IDT85Reader.connectAndVerifyReader_handshake installed.quiet config.autoConfigureReader line
  rw [writes, ready] at spoken
  rw [writes, ready] at ran
  rw [ran]
  refine ⟨rfl, ⟨line.nextHandle, spoken.held⟩, ?_, ?_⟩
  · rw [spoken.writes, writes, commandsOf, List.replicate_zero, List.append_nil]
  · rw [spoken.written, unwritten, commandsOf, List.replicate_zero, List.append_nil,
      List.append_nil]

/-- The result of the inventory after `count` others. -/
def Site.result (site : Site σ) (env : AgentEnv) (config : EdgeConfig) (first count : Nat) :
    InventoryResult :=
  classifyInventoryResponse (readFrame (site.device.respond (site.device.hear
    (site.greeted env config first)
    (List.replicate count (buildInventoryCommand config.probe.readerAddress)))
    (buildInventoryCommand config.probe.readerAddress)).1)

theorem Installed.scans (object count : Nat) :
    Triple (Talking object first (commandsOf env config first count))
      ((config.adapter object).inventory env.line)
      (fun result line => result = site.result env config first count ∧
        Talking object first (commandsOf env config first (count + 1)) line)
      fun _ _ => False := by
  intro line talking
  obtain ⟨⟨handle, isOpen⟩, writes, asked⟩ := talking
  have conversed : Triple (· = line) ((config.adapter object).inventory env.line)
      (fun result last => result = classifyInventoryResponse
          (IDT85Reader.answers env.line line.writes) ∧
        IDT85Reader.Spoken object line [buildInventoryCommand config.probe.readerAddress]
          (some handle) last) fun _ _ => False :=
    IDT85Reader.inventory_converses installed.quiet line handle isOpen
  refine (conversed line rfl).imp (fun result last both => ?_) fun _ _ impossible => impossible
  obtain ⟨rfl, spoken⟩ := both
  have next : commandsOf env config first (count + 1) =
      commandsOf env config first count ++ [buildInventoryCommand config.probe.readerAddress] := by
    rw [commandsOf, List.replicate_succ', ← List.append_assoc, commandsOf]
  refine ⟨?_, ⟨handle, spoken.held⟩, ?_, ?_⟩
  · rw [writes, installed.answer count, Site.result]
  · rw [spoken.writes, writes, next, List.length_append, Nat.add_assoc]
  · rw [spoken.written, asked, next, List.reverse_append]

end Installation

/-! ## The account of a process -/

section Accounting

variable {σ : Type} (env : AgentEnv) (config : EdgeConfig) (site : Site σ) (first : Nat)
  (base : List Label)

/-- The complete scans of the field. -/
def Site.scans (readings : List Reading) : List Scan :=
  (heard site.device config.probe.readerAddress (site.greeted env config first) readings).filterMap
    (·.scan?)

/-- Of what the scans report all but `pending`, the tail of the last report, is in the queue
behind what the process found there. -/
structure Ledger (readings : List Reading) (told pending : List DetectedEvent) (world : World) :
    Prop where
  reported : runUpdates (some config.readerId) (site.scans env config first readings)
    (new config.exitTimeout) = (told ++ pending, world.presence)
  last : pending <:+ lastReport (some config.readerId) (site.scans env config first readings)
    (new config.exitTimeout)
  history : world.delivery.queue.history = base ++ told.map (·.label config)
  dated : world.scanLog.reverse.map (fun record => (record.now, record.mint)) =
    readings.map fun reading => (reading.now, reading.mint)

variable {env config site first base}

theorem Site.scans_concat (readings : List Reading) (reading : Reading) :
    site.scans env config first (readings ++ [reading]) = site.scans env config first readings ++
      (reading.call (.ok (site.result env config first readings.length))).scan?.toList := by
  rw [Site.scans, heard_concat, List.filterMap_append, Site.scans]
  rfl

theorem Ledger.scanned {readings : List Reading} {told : List DetectedEvent} {world : World}
    (accounts : Ledger env config site first base readings told [] world) (reading : Reading)
    (healthState : Option HealthState) (inventory : Except Str InventoryResult) (tick : Nat) :
    let read := readInventoryEvents
      (reading.call (.ok (site.result env config first readings.length))) world.presence
      healthState (some config.readerId)
    Ledger env config site first base (readings ++ [reading]) told read.events { world with
        presence := read.state
        updates := world.updates + 1
        scanLog := ⟨inventory, reading.now, reading.mint, tick⟩ :: world.scanLog } ∧
      read.readerState = .READY ∧ read.readerClosed = false := by
  intro read
  let record : ScanRecord := ⟨inventory, reading.now, reading.mint, tick⟩
  have listed : (record :: world.scanLog).reverse.map (fun record => (record.now, record.mint)) =
      (readings ++ [reading]).map fun reading => (reading.now, reading.mint) := by
    rw [List.reverse_cons, List.map_append, List.map_append, accounts.dated]
    rfl
  have scans : site.scans env config first (readings ++ [reading]) = _ :=
    Site.scans_concat readings reading
  have reported := accounts.reported
  rw [List.append_nil] at reported
  rcases readInventoryEvents_cases
    (reading.call (.ok (site.result env config first readings.length))) world.presence healthState
    (some config.readerId) with valid | unread | lost
  · obtain ⟨scan, found, updated, ready, kept⟩ := valid
    rw [found] at scans
    refine ⟨⟨?_, ?_, accounts.history, listed⟩, ready, kept⟩
    · rw [scans, Option.toList_some, runUpdates_concat, reported]
      dsimp only
      rw [← updated]
    · rw [scans, Option.toList_some, lastReport_concat, reported]
      dsimp only
      rw [← updated]
  · obtain ⟨found, -, quiet, same, ready, kept⟩ := unread
    rw [found, Option.toList_none, List.append_nil] at scans
    have nothing : read.events = [] := quiet
    have presence : read.state = world.presence := same
    refine ⟨⟨?_, ?_, accounts.history, listed⟩, ready, kept⟩
    · rw [scans, nothing, List.append_nil, reported, presence]
    · rw [nothing]
      exact List.nil_suffix
  · obtain ⟨-, ⟨message, raised⟩, -⟩ := lost
    contradiction

/-- Not connected yet. -/
structure Unconnected (env : AgentEnv) (config : EdgeConfig) (site : Site σ) (first : Nat)
    (base : List Label) (world : World) : Prop where
  recorded : Recorded env config base [] world
  accounts : Ledger env config site first base [] [] [] world
  writes : world.line.writes = first
  unwritten : written world.line.log = []

/-- Connected, and `asked` inventories later. -/
structure Joined (env : AgentEnv) (config : EdgeConfig) (site : Site σ) (first : Nat)
    (base : List Label) (asked : Nat) (readings : List Reading)
    (told pending : List DetectedEvent) (world : World) : Prop where
  recorded : Recorded env config base pending world
  accounts : Ledger env config site first base readings told pending world
  talking : ∃ object, world.reader = some (config.adapter object) ∧
    Talking object first (commandsOf env config first asked) world.line

/-- A process between two operations, with `pending` to enqueue. -/
inductive Following (env : AgentEnv) (config : EdgeConfig) (site : Site σ) (first : Nat)
    (base : List Label) (pending : List DetectedEvent) (world : World) : Prop where
  | waiting (waiting : Unconnected env config site first base world) (nothing : pending = [])
      (unready : world.readerState ≠ .READY) : Following env config site first base pending world
  | joined (readings : List Reading) (told : List DetectedEvent)
      (joined : Joined env config site first base readings.length readings told pending world)
      (ready : world.readerState = .READY) : Following env config site first base pending world

theorem Following.connected {pending : List DetectedEvent} {world : World}
    (following : Following env config site first base pending world)
    (ready : world.readerState = .READY) :
    ∃ readings told, Joined env config site first base readings.length readings told pending
      world := by
  cases following with
  | waiting _ _ unready => exact absurd ready unready
  | joined readings told joined => exact ⟨readings, told, joined⟩

/-- A process that may have been stopped: before the connection, or with some events of the
last scan missing, or after an inventory that nothing came of. -/
def Traced (env : AgentEnv) (config : EdgeConfig) (site : Site σ) (first : Nat)
    (base : List Label) (world : World) : Prop :=
  ∃ readings told missed, Ledger env config site first base readings told missed world ∧
    ((readings = [] ∧ written world.line.log = []) ∨
      ∃ asked, readings.length ≤ asked ∧ asked ≤ readings.length + 1 ∧
        written world.line.log = (commandsOf env config first asked).reverse)

theorem Unconnected.traced {world : World}
    (waiting : Unconnected env config site first base world) :
    Traced env config site first base world :=
  ⟨[], [], [], waiting.accounts, .inl ⟨rfl, waiting.unwritten⟩⟩

theorem Joined.traced {asked : Nat} {readings : List Reading} {told pending : List DetectedEvent}
    {world : World}
    (joined : Joined env config site first base asked readings told pending world)
    (least : readings.length ≤ asked) (most : asked ≤ readings.length + 1) :
    Traced env config site first base world := by
  obtain ⟨object, -, talking⟩ := joined.talking
  exact ⟨readings, told, pending, joined.accounts, .inr ⟨asked, least, most, talking.written⟩⟩

theorem Following.traced {pending : List DetectedEvent} {world : World}
    (following : Following env config site first base pending world) :
    Traced env config site first base world := by
  cases following with
  | waiting waiting => exact waiting.traced
  | joined readings told joined => exact joined.traced le_rfl (Nat.le_succ _)

/-- What a process remembers of its scans and of their rows. -/
def World.books (world : World) := (world.memory, world.scanLog)

/-- What the bookkeeping of a turn leaves alone. -/
def World.scene (world : World) :=
  ((world.readerState, (world.presence, world.updates), world.reader, world.line.serialOf,
    world.line.writes, written world.line.log, world.scanLog), world.delivery.queue.history)

theorem Ledger.congr {readings : List Reading} {told pending : List DetectedEvent}
    {world next : World}
    (accounts : Ledger env config site first base readings told pending world)
    (same : next.books = world.books) :
    Ledger env config site first base readings told pending next where
  reported := by
    rw [show next.presence = world.presence from congrArg (·.1.1.1) same]
    exact accounts.reported
  last := accounts.last
  history := (congrArg (·.1.2) same).trans accounts.history
  dated := by
    rw [show next.scanLog = world.scanLog from congrArg (·.2) same]
    exact accounts.dated

/-- The event in front gets its row. -/
theorem Ledger.enqueued {readings : List Reading} {told rest : List DetectedEvent}
    {event : DetectedEvent} {world next : World}
    (accounts : Ledger env config site first base readings told (event :: rest) world)
    (presence : next.presence = world.presence) (scanLog : next.scanLog = world.scanLog)
    (history : next.delivery.queue.history =
      world.delivery.queue.history ++ [event.label config]) :
    Ledger env config site first base readings (told ++ [event]) rest next where
  reported := by
    rw [accounts.reported, presence, List.append_assoc, List.singleton_append]
  last := (List.suffix_cons event rest).trans accounts.last
  history := by
    rw [history, accounts.history, List.append_assoc, List.map_append, List.map_singleton]
  dated := scanLog ▸ accounts.dated

theorem Traced.congr {world next : World} (traced : Traced env config site first base world)
    (same : (next.books, written next.line.log) = (world.books, written world.line.log)) :
    Traced env config site first base next := by
  obtain ⟨readings, told, missed, accounts, asked⟩ := traced
  have wrote : written next.line.log = written world.line.log := congrArg Prod.snd same
  exact ⟨readings, told, missed, accounts.congr (congrArg Prod.fst same), wrote ▸ asked⟩

theorem World.books_of_scene {world next : World} (same : next.scene = world.scene) :
    next.books = world.books :=
  congrArg (fun scene => ((scene.1.2.1, scene.2), scene.1.2.2.2.2.2.2)) same

theorem World.memory_of_books {world next : World} (same : next.books = world.books) :
    next.memory = world.memory := congrArg Prod.fst same

theorem Unconnected.congr {world next : World}
    (waiting : Unconnected env config site first base world) (same : next.scene = world.scene) :
    Unconnected env config site first base next where
  recorded := waiting.recorded.congr (World.memory_of_books (World.books_of_scene same))
  accounts := waiting.accounts.congr (World.books_of_scene same)
  writes := (congrArg (·.1.2.2.2.2.1) same).trans waiting.writes
  unwritten := (congrArg (·.1.2.2.2.2.2.1) same).trans waiting.unwritten

theorem Joined.heldStill {asked : Nat} {readings : List Reading}
    {told pending : List DetectedEvent} {world next : World}
    (joined : Joined env config site first base asked readings told pending world)
    (same : next.scene.1 = world.scene.1) :
    ∃ object, next.reader = some (config.adapter object) ∧
      Talking object first (commandsOf env config first asked) next.line := by
  obtain ⟨object, reader, ⟨handle, held⟩, writes, asked⟩ := joined.talking
  exact ⟨object, (congrArg (·.2.2.1) same).trans reader,
    ⟨handle, (congrFun (congrArg (·.2.2.2.1) same) object).trans held⟩,
    (congrArg (·.2.2.2.2.1) same).trans writes, (congrArg (·.2.2.2.2.2.1) same).trans asked⟩

theorem Joined.congr {asked : Nat} {readings : List Reading} {told pending : List DetectedEvent}
    {world next : World}
    (joined : Joined env config site first base asked readings told pending world)
    (same : next.scene = world.scene) :
    Joined env config site first base asked readings told pending next where
  recorded := joined.recorded.congr (World.memory_of_books (World.books_of_scene same))
  accounts := joined.accounts.congr (World.books_of_scene same)
  talking := joined.heldStill (congrArg Prod.fst same)

theorem Joined.enqueued {asked : Nat} {readings : List Reading} {told rest : List DetectedEvent}
    {event : DetectedEvent} {world next : World}
    (joined : Joined env config site first base asked readings told (event :: rest) world)
    (same : next.scene.1 = world.scene.1)
    (history : next.delivery.queue.history =
      world.delivery.queue.history ++ [event.label config]) :
    Joined env config site first base asked readings (told ++ [event]) rest next where
  recorded := joined.recorded.enqueued history (congrArg (·.2.1.1) same) (congrArg (·.2.1.2) same)
  accounts := joined.accounts.enqueued (congrArg (·.2.1.1) same)
    (congrArg (·.2.2.2.2.2.2) same) history
  talking := joined.heldStill same

theorem Following.congr {pending : List DetectedEvent} {world next : World}
    (following : Following env config site first base pending world)
    (same : next.scene = world.scene) :
    Following env config site first base pending next := by
  have state : next.readerState = world.readerState := congrArg (·.1.1) same
  cases following with
  | waiting waiting nothing unready =>
      exact .waiting (waiting.congr same) nothing (state ▸ unready)
  | joined readings told joined ready =>
      exact .joined readings told (joined.congr same) (state.trans ready)

theorem Joined.scanned (mints : MintsDistinct env) {readings : List Reading}
    {told : List DetectedEvent} {world : World}
    (joined : Joined env config site first base (readings.length + 1) readings told [] world)
    (now : Time) (stamp : Timestamp) (healthState : Option HealthState) (tick : Nat) :
    let reading : Reading := ⟨now, stamp, env.mint world.updates⟩
    let inventory := .ok (site.result env config first readings.length)
    let read := readInventoryEvents (reading.call inventory) world.presence healthState
      (some config.readerId)
    Joined env config site first base (readings ++ [reading]).length (readings ++ [reading]) told
        read.events { world with
          presence := read.state
          updates := world.updates + 1
          scanLog := ⟨inventory, now, env.mint world.updates, tick⟩ :: world.scanLog } ∧
      read.readerState = .READY ∧ read.readerClosed = false := by
  intro reading inventory read
  obtain ⟨accounts, live, kept⟩ : Ledger env config site first base (readings ++ [reading]) told
      read.events { world with
        presence := read.state
        updates := world.updates + 1
        scanLog := ⟨inventory, now, env.mint world.updates, tick⟩ :: world.scanLog } ∧ _ :=
    joined.accounts.scanned reading healthState inventory tick
  refine ⟨⟨?_, accounts, ?_⟩, live, kept⟩
  · exact (joined.recorded.read mints inventory now stamp healthState).congr rfl
  · rw [List.length_append, List.length_singleton]
    exact joined.talking

/-- The next inventory is in, and nothing has come of it yet. -/
structure Asked (env : AgentEnv) (config : EdgeConfig) (site : Site σ) (first : Nat)
    (base : List Label) (readings : List Reading) (told : List DetectedEvent)
    (inventory : Except Str InventoryResult) (world : World) : Prop where
  joined : Joined env config site first base (readings.length + 1) readings told [] world
  result : inventory = .ok (site.result env config first readings.length)
  ready : world.readerState = .READY

theorem Asked.congr {readings : List Reading} {told : List DetectedEvent}
    {inventory : Except Str InventoryResult} {world next : World}
    (asked : Asked env config site first base readings told inventory world)
    (same : next.scene = world.scene) :
    Asked env config site first base readings told inventory next :=
  ⟨asked.joined.congr same, asked.result,
    (congrArg (·.1.1) same : next.readerState = world.readerState).trans asked.ready⟩

theorem Asked.traced {readings : List Reading} {told : List DetectedEvent}
    {inventory : Except Str InventoryResult} {world : World}
    (asked : Asked env config site first base readings told inventory world) :
    Traced env config site first base world :=
  asked.joined.traced (Nat.le_succ _) le_rfl

end Accounting

/-! ## The phases of a turn -/

namespace Agent

section Phases

variable {σ : Type} {env : AgentEnv} {config : EdgeConfig} {site : Site σ} {first : Nat}
  {base : List Label} {pending : List DetectedEvent}

theorem onDelivery_scene {α : Type} {program : Delivery α}
    (leaves : Leaves (fun state => state.queue.history) program) :
    Leaves World.scene (onDelivery program) :=
  Leaves.pair (Leaves.zoom (fun _ _ => rfl) program) (leaves.zoom_part World.deliveryPart)

theorem scene_aside (env : AgentEnv) (config : EdgeConfig) : Aside env config World.scene where
  tick := fun _ => rfl
  health := fun _ _ => rfl
  attempt := fun _ _ => rfl
  delivery := fun _ _ => rfl
  heartbeat := fun _ _ => rfl
  heartbeats := fun _ _ => rfl
  slept := fun _ _ => rfl
  pendingCount := onDelivery_scene (Delivery.pendingCount_history _)
  process := onDelivery_scene (Delivery.processPendingDeliveries_history _ _)

theorem following_of_scene {α : Type} {program : Agent α} (leaves : Leaves World.scene program) :
    Triple (Following env config site first base pending) program
      (fun _ => Following env config site first base pending)
      (fun _ => Traced env config site first base) :=
  leaves.triple (fun _ _ same following => following.congr same)
    fun _ _ following => following.traced

theorem waiting_of_scene {α : Type} {program : Agent α} (leaves : Leaves World.scene program) :
    Triple (Unconnected env config site first base) program
      (fun _ => Unconnected env config site first base)
      (fun _ => Traced env config site first base) :=
  leaves.triple (fun _ _ same waiting => waiting.congr same) fun _ _ waiting => waiting.traced

theorem setReaderState_waiting (readerState : ReaderState) :
    Triple (Unconnected env config site first base) (setReaderState readerState)
      (fun _ => Unconnected env config site first base)
      (fun _ => Traced env config site first base) :=
  Triple.update fun _ waiting => ⟨waiting.recorded.congr rfl, { waiting.accounts with },
    waiting.writes, waiting.unwritten⟩

/-- A program that no failure of the line ends, and what it leaves alone. -/
theorem onLine_holds {α : Type} {program : Serial α} {pre : Line → Prop} {post : α → Line → Prop}
    (inner : Triple pre program post fun _ _ => False) {world : World} (holds : pre world.line) :
    Holds (fun value next => post value next.line ∧ next.books = world.books ∧
      next.reader = world.reader ∧ next.readerState = world.readerState) (fun _ _ => False)
      (onLine program world) := by
  have zoomed := Triple.zoom World.linePart
    (fun world => (world.books, world.reader, world.readerState)) (fun _ _ => rfl) inner
    (· = (world.books, world.reader, world.readerState)) world ⟨holds, rfl⟩
  refine zoomed.imp (fun value next both => ?_) fun _ _ both => both.1
  obtain ⟨reached, framed⟩ := both
  exact ⟨reached, congrArg (·.1) framed, congrArg (·.2.1) framed, congrArg (·.2.2) framed⟩

theorem new_waiting :
    Triple (Unconnected env config site first base)
      (onLine (IDT85Reader.new config.serialPort config.probe.baudrate config.probe.readerAddress
        config.probe.readerVerifyMethod .agent))
      (fun reader world => Unconnected env config site first base world ∧
        ∃ object, reader = config.adapter object)
      (fun _ => Traced env config site first base) := by
  intro world waiting
  exact ⟨waiting.congr rfl, world.line.nextObject, rfl⟩

variable (installed : Installed env config site first)

include installed

theorem connect_joins (message : Str) (discovery : Option DiscoveryResult) :
    Triple (Unconnected env config site first base)
      (connect env config (some config.serialPort) message discovery)
      (fun result world => result = readerReady ∧
        Joined env config site first base 0 [] [] [] world)
      (fun _ => Traced env config site first base) := by
  have selected : orElse (some config.serialPort) none = some config.serialPort := by
    cases named : config.serialPort with
    | nil => exact absurd named installed.named
    | cons char rest => rfl
  unfold connect
  rw [selected]
  refine Triple.bind new_waiting fun reader => ?_
  refine Triple.through (fun _ world => Unconnected env config site first base world ∧
    ∃ object, reader = config.adapter object ∧ world.reader = some reader)
    (Triple.update fun world both => ?_) fun _ => ?_
  · obtain ⟨waiting, object, same⟩ := both
    exact ⟨⟨waiting.recorded.congr rfl, { waiting.accounts with }, waiting.writes,
      waiting.unwritten⟩, object, same, rfl⟩
  · intro world both
    obtain ⟨waiting, object, rfl, held⟩ := both
    refine (onLine_holds (installed.connects object) ⟨waiting.writes, waiting.unwritten⟩).imp
      (fun result next both => ?_) fun _ _ impossible => impossible.elim
    obtain ⟨⟨ready, talking⟩, books, reader, -⟩ := both
    exact ⟨ready, waiting.recorded.congr (World.memory_of_books books),
      waiting.accounts.congr books, object, reader.trans held, talking⟩

theorem connectPhase_follows (now : Time) :
    Triple (Unconnected env config site first base) (connectPhase env config now)
      (fun _ => Following env config site first base [])
      (fun _ => Traced env config site first base) := by
  have aside := scene_aside env config
  refine Triple.bind (setReaderState_waiting .CONNECTING) fun _ =>
    Triple.bind (waiting_of_scene (mark_aside aside _)) fun _ =>
    Triple.bind (waiting_of_scene (mark_aside aside _)) fun _ => ?_
  have resolved : Triple (Unconnected env config site first base) (resolveReaderPort env config)
      (fun resolved world => Unconnected env config site first base world ∧
        resolved = (some config.serialPort, "Using configured serial port".toList, none))
      (fun _ => Traced env config site first base) := by
    unfold resolveReaderPort
    rw [if_pos installed.explicit]
    exact Triple.pure fun _ waiting => ⟨waiting, rfl⟩
  refine Triple.bind resolved fun port => ?_
  intro world both
  obtain ⟨waiting, rfl⟩ := both
  refine (Triple.bind (connect_joins installed _ _) fun result => ?_ :
    Triple (Unconnected env config site first base) _ _ _) world waiting
  intro world both
  obtain ⟨rfl, joined⟩ := both
  refine (Triple.bind (Triple.update fun world joined => ?_) fun _ =>
    Triple.bind (following_of_scene (mark_aside aside _)) fun _ =>
    Triple.bind (following_of_scene (mark_aside aside _)) fun _ =>
    following_of_scene (mark_aside aside _) :
    Triple (Joined env config site first base 0 [] [] []) _ _ _) world joined
  exact .joined [] [] ⟨joined.recorded.congr rfl, { joined.accounts with }, joined.talking⟩ rfl

theorem reconnectPhase_follows (now : Time) :
    Triple (Following env config site first base []) (reconnectPhase env config now)
      (fun _ => Following env config site first base [])
      (fun _ => Traced env config site first base) := by
  refine Triple.get fun world => ?_
  intro current both
  obtain ⟨rfl, following⟩ := both
  split
  · rename_i due
    cases following with
    | waiting waiting => exact connectPhase_follows installed now current waiting
    | joined _ _ _ ready => exact absurd ready due.2
  · exact following

theorem inventory_asks {readings : List Reading} {told : List DetectedEvent} {world : World}
    (joined : Joined env config site first base readings.length readings told [] world)
    (ready : world.readerState = .READY) {reader : IDT85Reader}
    (held : world.reader = some reader) :
    Holds (Asked env config site first base readings told)
      (fun _ => Traced env config site first base)
      (attempt Exn.caught (onLine (reader.inventory env.line)) world) := by
  obtain ⟨object, same, talking⟩ := joined.talking
  obtain rfl : config.adapter object = reader := Option.some.inj (same.symm.trans held)
  have asked := onLine_holds (installed.scans object readings.length) talking
  unfold attempt
  cases ran : onLine ((config.adapter object).inventory env.line) world with
  | ok result next =>
      rw [ran] at asked
      obtain ⟨⟨rfl, talking⟩, books, reader, state⟩ := asked
      exact ⟨⟨joined.recorded.congr (World.memory_of_books books), joined.accounts.congr books,
        object, reader.trans held, talking⟩, rfl, state.trans ready⟩
  | error failure next =>
      rw [ran] at asked
      exact asked.elim

omit installed in
/-- What `read_inventory_events` makes of the inventory, once it is taken over. -/
def TakenIn (env : AgentEnv) (config : EdgeConfig) (site : Site σ) (first : Nat)
    (base : List Label) (inventory : Except Str InventoryResult) (now : Time)
    (read : InventoryRead) (world : World) : Prop :=
  world.readerState = .READY ∧ read.readerState = .READY ∧ read.readerClosed = false ∧
    Following env config site first base read.events { world with
      presence := read.state
      updates := world.updates + 1
      scanLog := ⟨inventory, now, env.mint world.updates, world.tick⟩ :: world.scanLog }

omit installed in
theorem asked_serves {readings : List Reading} {told : List DetectedEvent}
    {inventory : Except Str InventoryResult} :
    Serves env config (Asked env config site first base readings told inventory)
      fun _ => Traced env config site first base :=
  aside_serves (scene_aside env config) (fun _ _ same asked => asked.congr same)
    fun _ _ asked => asked.traced

omit installed in
theorem read_takenIn (mints : MintsDistinct env) {readings : List Reading}
    {told : List DetectedEvent} {inventory : Except Str InventoryResult} (now : Time) :
    Triple (Asked env config site first base readings told inventory)
      (quietly env fun tick world =>
        (readInventoryEvents ⟨inventory, now, env.stamp tick, env.mint world.updates⟩
          world.presence world.delivery.healthState (some config.readerId), world))
      (TakenIn env config site first base inventory now)
      (fun _ => Traced env config site first base) := by
  have serves : Serves env config (Asked env config site first base readings told inventory)
      fun _ => Traced env config site first base := asked_serves
  refine quietly_triple serves fun tick world asked => ?_
  obtain ⟨joined, rfl, ready⟩ := asked
  obtain ⟨scanned, live, kept⟩ :=
    joined.scanned mints now (env.stamp tick) world.delivery.healthState world.tick
  exact ⟨ready, live, kept, .joined _ _ scanned ready⟩

omit installed in
theorem absorb_follows {reader : IDT85Reader} (inventory : Except Str InventoryResult)
    (now : Time) (read : InventoryRead) :
    Triple (TakenIn env config site first base inventory now read)
      (absorb env reader inventory now read >>= fun _ => pure read)
      (fun read world => (Following env config site first base read.events world ∧
        world.readerState = .READY) ∧ read.readerState = .READY)
      (fun _ => Traced env config site first base) := by
  intro world taken
  obtain ⟨ready, live, kept, following⟩ := taken
  have closed : closeLost env reader read = pure () := if_neg (by simp [kept])
  unfold absorb
  rw [closed]
  exact ⟨⟨following.congr rfl, ready⟩, live⟩

theorem readInventory_follows (mints : MintsDistinct env) {reader : IDT85Reader} :
    Triple (fun world => Following env config site first base [] world ∧
        world.readerState = .READY ∧ world.reader = some reader)
      (readInventory env config reader)
      (fun read world => (Following env config site first base read.events world ∧
        world.readerState = .READY) ∧ read.readerState = .READY)
      (fun _ => Traced env config site first base) := by
  have serves : Serves env config
      (fun world => Following env config site first base [] world ∧
        world.readerState = .READY ∧ world.reader = some reader)
      fun _ => Traced env config site first base := by
    refine aside_serves (scene_aside env config) (fun world next same all => ?_)
      fun _ _ all => all.1.traced
    exact ⟨all.1.congr same, (congrArg (·.1.1) same).trans all.2.1,
      (congrArg (·.1.2.2.1) same).trans all.2.2⟩
  refine Triple.bind (time_serves serves) fun _ => ?_
  intro world all
  obtain ⟨following, ready, held⟩ := all
  obtain ⟨readings, told, joined⟩ := following.connected ready
  have asked : Triple (· = world) (attempt Exn.caught (onLine (reader.inventory env.line)))
      (Asked env config site first base readings told)
      (fun _ => Traced env config site first base) := by
    rintro _ rfl
    exact inventory_asks installed joined ready held
  exact (Triple.bind asked fun inventory => Triple.bind (time_serves asked_serves) fun now =>
    Triple.bind (read_takenIn mints now) (absorb_follows inventory now) :
      Triple (· = world) _ _ _) world rfl

omit installed in
theorem stillReady_follows (events : List DetectedEvent) :
    Triple (fun world => Following env config site first base events world ∧
        world.readerState = .READY)
      (setReaderState .READY >>= fun _ => mark env (fun health _ => health.setReaderState .READY)
        >>= fun _ => pure (some events))
      (fun scanned => Following env config site first base (scanned.getD []))
      (fun _ => Traced env config site first base) := by
  have same : Triple (fun world => Following env config site first base events world ∧
      world.readerState = .READY) (setReaderState .READY)
      (fun _ => Following env config site first base events)
      (fun _ => Traced env config site first base) :=
    Triple.update fun world both => both.1.congr (by simp [World.scene, both.2])
  exact Triple.bind same fun _ =>
    Triple.bind (following_of_scene (mark_aside (scene_aside env config) _)) fun _ =>
    Triple.pure fun _ following => following

theorem scanPhase_follows (mints : MintsDistinct env) :
    Triple (Following env config site first base []) (scanPhase env config)
      (fun scanned => Following env config site first base (scanned.getD []))
      (fun _ => Traced env config site first base) := by
  refine Triple.get fun world => ?_
  intro current both
  obtain ⟨rfl, following⟩ := both
  split
  · exact following
  · rename_i ready
    rw [not_not] at ready
    cases held : current.reader with
    | none =>
        obtain ⟨_, _, joined⟩ := following.connected ready
        obtain ⟨object, other, -⟩ := joined.talking
        rw [held] at other
        contradiction
    | some reader =>
        refine (Triple.bind (readInventory_follows installed mints) fun read => ?_ :
          Triple (fun world => Following env config site first base [] world ∧
            world.readerState = .READY ∧ world.reader = some reader) _ _ _) current
          ⟨following, ready, held⟩
        intro world both
        obtain ⟨following, live⟩ := both
        rw [live, if_neg (by decide)]
        exact stillReady_follows read.events world following

omit installed in
theorem enqueue_follows (event : DetectedEvent) (rest : List DetectedEvent) (sendAt : Timestamp) :
    Triple (Following env config site first base (event :: rest))
      (onDelivery (Delivery.enqueue env.delivery (buildEventPayload config event sendAt)))
      (fun _ => Following env config site first base rest)
      (fun _ => Traced env config site first base) := by
  intro world following
  cases following with
  | waiting _ nothing => contradiction
  | joined readings told joined ready =>
      have unknown : (buildEventPayload config event sendAt).edgeEventId ∉
          world.delivery.queue.history.map (·.edgeEventId) := joined.recorded.unknown
      have zoomed := Triple.zoom World.deliveryPart (fun world => world.scene.1) (fun _ _ => rfl)
        (Delivery.enqueue_history env.delivery unknown) (· = world.scene.1) world ⟨rfl, rfl⟩
      refine zoomed.imp (fun _ next outcome => ?_) fun _ next outcome => ?_
      · obtain ⟨history, same⟩ := outcome
        have state : next.readerState = world.readerState := congrArg (·.1) same
        exact .joined readings (told ++ [event]) (joined.enqueued same history)
          (state.trans ready)
      · obtain ⟨history, same⟩ := outcome
        have still : next.scene = world.scene := congrArg₂ Prod.mk same history
        exact (joined.congr still).traced le_rfl (Nat.le_succ _)

omit installed in
theorem enqueueEvents_follows (events : List DetectedEvent) :
    Triple (Following env config site first base events) (enqueueEvents env config events)
      (fun _ => Following env config site first base [])
      (fun _ => Traced env config site first base) := by
  have aside := scene_aside env config
  exact enqueueEvents_keeps (Following env config site first base)
    (fun _ => following_of_scene (mark_aside aside _))
    (fun _ => following_of_scene (quietly_aside aside fun _ _ => rfl)) enqueue_follows events

omit installed in
theorem close_written (reader : IDT85Reader) :
    Leaves (fun line => written line.log) (reader.close env.line) := by
  refine Leaves.bind Leaves.get fun line => ?_
  cases line.serialOf reader.object with
  | none => exact Leaves.pure _
  | some handle => exact Leaves.operation (fun _ _ => rfl) fun _ => rfl

omit installed in
theorem cleanup_traced : Preserves (Traced env config site first base) (cleanup env) := by
  have closed : Leaves (fun world => (world.books, written world.line.log))
      (closeReader env) :=
    fun shown => closeReader_keeps fun _ =>
      Leaves.pair (Leaves.zoom (fun _ _ => rfl) _) ((close_written _).zoom_part World.linePart)
        shown
  have stored : Leaves (fun world => (world.books, written world.line.log))
      (onDelivery (Delivery.statement env.delivery fun queue _ => ((), queue))) :=
    Leaves.pair (Leaves.pair (onDelivery_memory fun _ => Delivery.statement_triple _
      (fun _ same => same) fun _ _ same => same) (Leaves.zoom (fun _ _ => rfl) _))
      (Leaves.zoom (fun _ _ => rfl) _)
  exact (Leaves.bind closed fun _ => stored).triple (fun _ _ same traced => traced.congr same)
    fun _ _ traced => traced

theorem following_conduct (mints : MintsDistinct env) :
    Conduct env config (Following env config site first base)
      fun _ => Traced env config site first base where
  serves := aside_serves (scene_aside env config) (fun _ _ same following => following.congr same)
    fun _ _ following => following.traced
  send := following_of_scene (sendHeartbeat_aside (scene_aside env config))
  keeps := fun _ _ following => following.traced
  caught := fun _ traced => traced
  head := fun _ following => following.congr rfl
  reconnect := reconnectPhase_follows installed
  scan := scanPhase_follows installed mints
  enqueue := enqueueEvents_follows
  opened := following_of_scene (onDelivery_scene fun _ =>
    Delivery.statement_triple _ (fun _ same => same) fun _ _ same => same)
  cleanup := fun _ => cleanup_traced
  unsupported := fun _ _ following => following.traced

end Phases

end Agent

section Process

variable {σ : Type} {env : AgentEnv} {config : EdgeConfig} {site : Site σ} {world : World}

theorem Following.booted (minted : ∀ label ∈ world.delivery.queue.history,
      Minted env world.updates label.edgeEventId) :
    Following env config site world.line.writes world.delivery.queue.history []
      (world.boot config) := by
  refine .waiting ⟨.booted rfl minted, ⟨rfl, ?_, ?_, rfl⟩, rfl, rfl⟩ rfl (by simp [World.boot])
  · exact List.nil_suffix
  · exact (List.append_nil _).symm

/-- What a process that found `world` leaves of the field of its reader: of the events that the
tags in the field call for at the readings, `told` are in the queue, and `missed`, of the last
report, are not. The readings are those of the inventories it took over, in their order, each
at a time of its own. -/
structure Relayed (env : AgentEnv) (config : EdgeConfig) (site : Site σ) (world last : World)
    (readings : List Reading) (told missed : List DetectedEvent) : Prop where
  history : last.delivery.queue.history =
    world.delivery.queue.history ++ told.map (·.label config)
  reported : (runUpdates (some config.readerId)
    (site.scans env config world.line.writes readings) (new config.exitTimeout)).1 = told ++ missed
  cut : missed <:+ lastReport (some config.readerId)
    (site.scans env config world.line.writes readings) (new config.exitTimeout)
  surveyed : Inventoried env world last
  dated : last.scanLog.reverse.map (fun record => (record.now, record.mint)) =
    readings.map fun reading => (reading.now, reading.mint)
  asked : (readings = [] ∧ written last.line.log = []) ∨
    ∃ asked, readings.length ≤ asked ∧ asked ≤ readings.length + 1 ∧
      written last.line.log = (commandsOf env config world.line.writes asked).reverse
  events : ∀ epc, eventsOf epc (told ++ missed) =
    (Presence.follow config.exitTimeout (sighted site.device config.probe.readerAddress site.field
      epc (site.greeted env config world.line.writes) readings)).1

theorem Traced.relayed {last : World}
    (installed : Installed env config site world.line.writes)
    (surveyed : Inventoried env world last)
    (traced : Traced env config site world.line.writes world.delivery.queue.history last) :
    ∃ readings told missed, Relayed env config site world last readings told missed := by
  obtain ⟨readings, told, missed, accounts, asked⟩ := traced
  refine ⟨readings, told, missed, accounts.history, congrArg Prod.fst accounts.reported,
    accounts.last, surveyed, accounts.dated, asked, fun epc => ?_⟩
  have followed := (runUpdates_refines config.readerIdClean config.exitTimeoutChecked
    (site.scans env config world.line.writes readings) epc).1
  rw [accounts.reported] at followed
  rw [followed, Site.scans, installed.surveys.sightsOf_heard epc installed.greeted.2]

end Process

/-- A process at a device that surveys its field, after any others on the same data, wherever
it is stopped: it tells of every tag what the tags in the field call for. -/
theorem lifetimes_follow_field {σ : Type} (env : AgentEnv) (mints : MintsDistinct env)
    (processes : List (EdgeConfig × Nat)) (start : World)
    (empty : start.delivery.queue.rows = []) (config : EdgeConfig) (turns : Nat)
    (site : Site σ) :
    let world := lifetimes env processes start
    Installed env config site world.line.writes →
      ∃ readings told missed, Relayed env config site world
        (after (Agent.runAgent env config turns) world) readings told missed := by
  intro world installed
  obtain ⟨segments, segmented⟩ := exists_segmented mints processes empty
  have minted : ∀ label ∈ world.delivery.queue.history,
      Minted env world.updates label.edgeEventId := segmented.whole ▸ segmented.minted
  refine Traced.relayed installed (Agent.runAgent_surveyed env config turns world) (Triple.after
    (Agent.runAgent_conduct (Agent.following_conduct installed mints) turns)
    (Following.booted minted))

def fieldSite : Site (UInt8 × Nat) := ⟨fieldDevice, Prod.fst, fieldTags, (ANSWER_MODE, 0)⟩

/-- The answers to a connection and to the inventories after it. -/
def fieldDelivers : Nat → Bytes
  | 0 => (sampleDevice.respond ANSWER_MODE buildGetReaderInfoCommand).1
  | 1 => (sampleDevice.respond ANSWER_MODE (buildGetWorkModeCommand 0x00)).1
  | seen + 2 => (fieldDevice.respond (ANSWER_MODE, seen) (buildInventoryCommand 0x00)).1

/-- At every step a second passes. -/
def fieldSurroundings : AgentEnv :=
  { sampleSurroundings with line := ⟨fun _ => none, fieldDelivers⟩, clock := fun tick => tick }

theorem fieldDelivers_gives (count seen : Nat) :
    fieldDevice.Gives fieldDelivers (ANSWER_MODE, seen) (seen + 2)
      (List.replicate count (buildInventoryCommand 0x00)) := by
  induction count generalizing seen with
  | zero => trivial
  | succ count ih =>
      have next : (fieldDevice.respond (ANSWER_MODE, seen) (buildInventoryCommand 0x00)).2 =
          (ANSWER_MODE, seen + 1) := by simp only [fieldDevice, if_true]
      refine ⟨by rw [fieldDelivers], ?_⟩
      rw [next]
      exact ih (seen + 1)

theorem fieldSurroundings_installed : Installed fieldSurroundings sampleConfig fieldSite 0 where
  quiet := fun _ => rfl
  explicit := by decide +kernel
  named := by decide
  supported := by decide
  surveys := fieldDevice_surveys
  usable := .inl rfl
  answered := by
    intro count
    have greeting : (greet fieldSurroundings sampleConfig 0).2 =
        [buildGetReaderInfoCommand, buildGetWorkModeCommand 0x00] := by decide +kernel
    have heard : (fieldDevice.respond (fieldDevice.respond (ANSWER_MODE, 0)
        buildGetReaderInfoCommand).2 (buildGetWorkModeCommand 0x00)).2 = (ANSWER_MODE, 0) := by
      decide +kernel
    rw [commandsOf, greeting]
    refine ⟨by decide +kernel, by decide +kernel, ?_⟩
    change fieldDevice.Gives _ (fieldDevice.respond (fieldDevice.respond (ANSWER_MODE, 0)
      buildGetReaderInfoCommand).2 (buildGetWorkModeCommand 0x00)).2 _ _
    rw [heard]
    exact fieldDelivers_gives count 0

/-- Three turns: the tag is there, the answer is lost, the field is empty. -/
theorem lifetimes_follow_field_left :
    let last := after (Agent.runAgent fieldSurroundings sampleConfig 3) sampleWorld
    Installed fieldSurroundings sampleConfig fieldSite 0 ∧
      last.delivery.queue.history.map (·.event) = [.ENTER, .EXIT] ∧
      ∃ readings told missed, Relayed fieldSurroundings sampleConfig fieldSite sampleWorld last
        readings told missed :=
  ⟨fieldSurroundings_installed, by decide +kernel,
    lifetimes_follow_field fieldSurroundings sampleSurroundings_distinct [] sampleWorld rfl
      sampleConfig 3 fieldSite fieldSurroundings_installed⟩

end MvdEdge
