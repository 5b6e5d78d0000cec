import MvdEdge.App.Chronicle
import MvdEdge.App.Discipline

/-! The loop variable and the health state are moved by different branches of a turn. The
journal of a run shows both to be what the history of the reader makes of them. -/

set_option autoImplicit false

namespace MvdEdge

open Lib Lib.Effect Lib.Ghost

def World.readerStatus (world : World) : Option ReaderStatus :=
  world.delivery.healthState.map (·.readerStatus)

/-- The next attempt is the first one, or an interval after a reading of the clock. -/
def Scheduled (env : AgentEnv) (config : EdgeConfig) (nextReaderAttempt : PyFloat) : Prop :=
  nextReaderAttempt = .finite 0 ∨
    ∃ tick, nextReaderAttempt = config.readerDiscoveryInterval.after (env.clock tick)

/-- The state apart from the line: what health shows, what was reported, what is due. -/
structure Posted (env : AgentEnv) (config : EdgeConfig) (status : ReaderStatus)
    (heartbeats : List Heartbeat) (world : World) : Prop where
  status : world.readerStatus = some status
  heartbeats : world.heartbeats = heartbeats
  scheduled : Scheduled env config world.nextReaderAttempt

theorem Posted.congr {env : AgentEnv} {config : EdgeConfig} {status : ReaderStatus}
    {heartbeats : List Heartbeat} {world next : World}
    (posted : Posted env config status heartbeats world)
    (health : next.delivery.healthState = world.delivery.healthState)
    (reported : next.heartbeats = world.heartbeats)
    (scheduled : next.nextReaderAttempt = world.nextReaderAttempt) :
    Posted env config status heartbeats next := by
  refine ⟨?_, reported.trans posted.heartbeats, scheduled ▸ posted.scheduled⟩
  rw [World.readerStatus, health]
  exact posted.status

namespace Agent

section Posting

variable {env : AgentEnv} {config : EdgeConfig} {status : ReaderStatus}
  {heartbeats : List Heartbeat}

theorem quietly_posted {α : Type} {act : Nat → World → α × World}
    {post : α → World → Prop}
    (returns : ∀ world, Posted env config status heartbeats world →
      post (act world.tick (Ticking.advance world)).1 (act world.tick (Ticking.advance world)).2) :
    Triple (Posted env config status heartbeats) (quietly env act) post
      (fun _ world => world.heartbeats = heartbeats) :=
  Triple.operation returns fun _ _ _ posted => posted.heartbeats

theorem time_posted :
    Triple (Posted env config status heartbeats) (time env)
      (fun now world => (∃ tick, now = env.clock tick) ∧
        Posted env config status heartbeats world)
      (fun _ world => world.heartbeats = heartbeats) :=
  quietly_posted fun _ posted => ⟨⟨_, rfl⟩, posted.congr rfl rfl rfl⟩

/-- A mutator of the health state moves the status along. -/
theorem mark_posted {change : HealthState → Timestamp → HealthState}
    (follow : ReaderStatus → ReaderStatus)
    (follows : ∀ health now, (change health now).readerStatus = follow health.readerStatus) :
    Triple (Posted env config status heartbeats) (mark env change)
      (fun _ => Posted env config (follow status) heartbeats)
      (fun _ world => world.heartbeats = heartbeats) := by
  refine quietly_posted fun world posted => ?_
  refine ⟨?_, posted.heartbeats, posted.scheduled⟩
  obtain ⟨health, known, shown⟩ := Option.map_eq_some_iff.mp posted.status
  simp [World.readerStatus, World.setHealth, Ticking.advance, known, follows, shown]

theorem onLine_posted {α : Type} (program : Serial α) :
    Preserves (Posted env config status heartbeats) (onLine program) := by
  have leaves : Leaves (fun world => (world.delivery, world.nextReaderAttempt, world.heartbeats))
      (onLine program) := Leaves.zoom (fun _ _ => rfl) program
  refine leaves.triple (fun world next same posted => ?_) fun _ _ posted => posted
  exact posted.congr (congrArg (·.1.healthState) same) (congrArg (·.2.2) same)
    (congrArg (·.2.1) same)

theorem posted_probes (status : ReaderStatus) (heartbeats : List Heartbeat) :
    Probes env config (Posted env config status heartbeats)
      (fun _ world => world.heartbeats = heartbeats) where
  reader := fun _ _ posted => posted.congr rfl rfl rfl
  survey := Triple.operation (fun _ posted => posted.congr rfl rfl rfl)
    fun _ _ _ posted => posted.heartbeats
  discover := fun _ => (onLine_posted _).raising fun _ _ posted => posted.heartbeats
  created := fun _ => (onLine_posted _).raising fun _ _ posted => posted.heartbeats
  verified := fun _ => (onLine_posted _).raising fun _ _ posted => posted.heartbeats

theorem reportConnection_posted {now : Time} (readerState : ReaderState) (message : Str)
    (reading : ∃ tick, now = env.clock tick) :
    Triple (Posted env config { status.connecting with readerState } heartbeats)
      (reportConnection env config now readerState message)
      (fun _ => Posted env config (status.connecting.connect readerState) heartbeats)
      (fun _ world => world.heartbeats = heartbeats) := by
  unfold reportConnection ReaderStatus.connect
  by_cases ready : readerState = .READY
  · simp only [ready, ne_eq, not_true_eq_false, if_false, if_true]
    exact Triple.bind (mark_posted
      (fun shown =>
        { shown with
          connected := true
          healthStatus :=
            if shown.healthStatus = .OFFLINE ∨ shown.healthStatus = .RECONNECTING then .DEGRADED
            else shown.healthStatus })
      fun _ _ => rfl) fun _ => mark_posted id fun _ _ => rfl
  · simp only [ready, ne_eq, not_false_eq_true, if_true, if_false]
    refine Triple.bind (mark_posted id fun _ _ => rfl) fun _ =>
      Triple.bind (mark_posted (fun shown => shown.offline shown.readerState) fun _ _ => rfl)
        fun _ => Triple.update fun world posted => ?_
    obtain ⟨tick, rfl⟩ := reading
    exact ⟨posted.status, posted.heartbeats, .inr ⟨tick, rfl⟩⟩

theorem connectPhase_posted {now : Time} (reading : ∃ tick, now = env.clock tick) :
    Triple (Posted env config status heartbeats) (connectPhase env config now)
      (fun _ world =>
        Posted env config (status.step (.attempted world.readerState)) heartbeats world)
      (fun _ world => world.heartbeats = heartbeats) := by
  have begun : Triple (Posted env config status heartbeats) (setReaderState .CONNECTING)
      (fun _ => Posted env config status heartbeats)
      (fun _ world => world.heartbeats = heartbeats) :=
    Triple.update fun _ posted => posted.congr rfl rfl rfl
  refine Triple.bind begun fun _ =>
    Triple.bind (mark_posted (fun shown => { shown with readerState := .CONNECTING })
      fun _ _ => rfl) fun _ =>
    Triple.bind (mark_posted (fun shown =>
      { shown with
        connected := false, responding := false
        healthStatus := .RECONNECTING, attempts := shown.attempts + 1 }) fun _ _ => rfl) fun _ =>
    Triple.bind (resolveReaderPort_probes (posted_probes status.connecting heartbeats))
      fun resolved =>
    Triple.bind (connect_probes (posted_probes status.connecting heartbeats) _ _ _)
      fun result => ?_
  -- From here on the loop variable holds the result, which the last marks report.
  have reported : Triple
      (fun world => Posted env config status.connecting heartbeats world ∧
        world.readerState = result.1)
      (do
        mark env fun health _ => health.setReaderState result.1
        reportConnection env config now result.1 result.2)
      (fun _ world => Posted env config (status.connecting.connect result.1) heartbeats world ∧
        world.readerState = result.1)
      (fun _ world => world.heartbeats = heartbeats ∧ world.readerState = result.1) := by
    have desk : Leaves World.desk (do
        mark env fun health _ => health.setReaderState result.1
        reportConnection env config now result.1 result.2) :=
      Leaves.bind (mark_aside (desk_aside env config) _) fun _ =>
        reportConnection_aside (desk_aside env config) _ _ _
    exact desk.frame (fun shown => shown.1 = result.1) (Triple.bind
      (mark_posted (fun shown => { shown with readerState := result.1 }) fun _ _ => rfl)
      fun _ => reportConnection_posted result.1 result.2 reading)
  have told : Triple (Posted env config status.connecting heartbeats) (setReaderState result.1)
      (fun _ world => Posted env config status.connecting heartbeats world ∧
        world.readerState = result.1) (fun _ world => world.heartbeats = heartbeats) :=
    Triple.update fun _ posted => ⟨posted.congr rfl rfl rfl, rfl⟩
  refine Triple.bind told fun _ => reported.conseq (fun _ both => both) ?_ fun _ _ both => both.1
  intro _ world both
  rw [both.2]
  exact both.1

/-- After an inventory the health state lacks only the state the loop takes over. -/
structure Told (env : AgentEnv) (config : EdgeConfig) (status : ReaderStatus)
    (heartbeats : List Heartbeat) (read : InventoryRead) (world : World) : Prop where
  status : read.status = some (status.step read.happening)
  health : world.delivery.healthState = read.healthState
  heartbeats : world.heartbeats = heartbeats
  scheduled : Scheduled env config world.nextReaderAttempt

theorem readInventory_told (reader : IDT85Reader) :
    Triple (Posted env config status heartbeats) (readInventory env config reader)
      (Told env config status heartbeats) (fun _ world => world.heartbeats = heartbeats) := by
  have ticked : Triple (Posted env config status heartbeats) (time env)
      (fun _ => Posted env config status heartbeats)
      (fun _ world => world.heartbeats = heartbeats) :=
    time_posted.returning fun _ _ both => both.2
  have asked : Triple (Posted env config status heartbeats)
      (attempt Exn.caught (onLine (reader.inventory env.line)))
      (fun _ => Posted env config status heartbeats)
      (fun _ world => world.heartbeats = heartbeats) :=
    (onLine_posted _).attempt.raising fun _ _ posted => posted.heartbeats
  refine Triple.bind ticked fun _ => Triple.bind asked fun inventory =>
    Triple.bind ticked fun now => ?_
  refine Triple.through (fun read world => read.status = some (status.step read.happening) ∧
    Posted env config status heartbeats world) (quietly_posted fun world posted => ?_)
      fun read => ?_
  · obtain ⟨health, known, rfl⟩ := Option.map_eq_some_iff.mp posted.status
    refine ⟨?_, posted.congr rfl rfl rfl⟩
    simp only [Ticking.advance, known]
    exact readInventoryEvents_status _ _ _ _
  · intro world both
    have closed : Triple (Posted env config status heartbeats)
        (onLine (reader.close env.line)) (fun _ => Posted env config status heartbeats)
        (fun _ world => world.heartbeats = heartbeats) :=
      (onLine_posted _).raising fun _ _ posted => posted.heartbeats
    have absorbed : Triple (Posted env config status heartbeats)
        (absorb env reader inventory now read)
        (fun _ => Told env config status heartbeats read)
        (fun _ world => world.heartbeats = heartbeats) :=
      absorb_keeps closed fun _ posted => ⟨both.1, rfl, posted.heartbeats, posted.scheduled⟩
    exact Triple.bind absorbed (fun _ => Triple.pure fun _ told => told) world both.2

end Posting

end Agent

/-! ## What serving leaves alone -/

namespace Delivery

variable {env : DeliveryEnv}

def readerStatus (state : DeliveryState) : Option ReaderStatus :=
  state.healthState.map (·.readerStatus)

theorem statement_readerStatus {α : Type} (run : EventQueue → Timestamp → α × EventQueue) :
    Leaves readerStatus (statement env run) :=
  Leaves.operation (fun _ _ => rfl) fun _ => rfl

theorem markHealth_readerStatus {mark : HealthState → Timestamp → HealthState}
    (same : ∀ health now, (mark health now).readerStatus = health.readerStatus) :
    Leaves readerStatus (markHealth env mark) := by
  refine Leaves.operation (fun tick state => ?_) fun _ => rfl
  simp [readerStatus, Function.comp_def, same]

theorem deliver_readerStatus (queuedEvent : QueuedEvent) :
    Leaves readerStatus (deliver env queuedEvent) := by
  have sent : ∀ payload, Leaves readerStatus (sendPayload env payload) := by
    intro payload
    refine Leaves.bind (Leaves.operation (fun _ _ => rfl) fun _ => rfl) fun reply => ?_
    split
    · exact Leaves.pure _
    · exact Leaves.throw _
  have settled : ∀ success, Leaves readerStatus (settle env queuedEvent.edgeEventId success) := by
    intro success
    unfold settle
    split
    · exact Leaves.bind (statement_readerStatus _) fun _ =>
        markHealth_readerStatus fun _ _ => rfl
    · exact markHealth_readerStatus fun _ _ => rfl
  exact Leaves.bind (Leaves.operation (fun _ _ => rfl) fun _ => rfl) fun _ =>
    Leaves.bind (statement_readerStatus _) fun _ =>
    Leaves.bind (fun shown => Preserves.attempt (sent _ shown)) fun _ =>
    Leaves.bind (statement_readerStatus _) fun _ => Leaves.bind (settled _) fun _ => Leaves.pure _

theorem processPendingDeliveries_readerStatus (batchSize : Nat) :
    Leaves readerStatus (processPendingDeliveries env batchSize) := by
  have delivered : ∀ batch deliveredCount,
      Leaves readerStatus (deliverBatch env batch deliveredCount) := by
    intro batch
    induction batch with
    | nil => exact fun deliveredCount => Leaves.pure deliveredCount
    | cons queuedEvent rest ih =>
        exact fun _ => Leaves.bind (deliver_readerStatus queuedEvent) fun _ => ih _
  exact Leaves.bind (fetchPending_leaves env (fun _ => rfl) _) fun _ => delivered _ _

end Delivery

/-- The state between two happenings: the loop variable, the health state and the line
are as the history says. -/
structure Settled (env : AgentEnv) (config : EdgeConfig) (history : List Happening)
    (heartbeats : List Heartbeat) (world : World) : Prop
    extends Posted env config (ReaderStatus.run history) heartbeats world where
  readerState : world.readerState = (ReaderStatus.run history).readerState
  steady : Agent.Steady config.autoConfigureReader world
  live : world.readerState = .READY → Live history

def World.outlook (world : World) :
    (ReaderState × Option IDT85Reader × Line) × (PyFloat × List Heartbeat) × Option ReaderStatus :=
  (world.desk, (world.nextReaderAttempt, world.heartbeats), world.readerStatus)

section Serving

variable {env : AgentEnv} {config : EdgeConfig} {history : List Happening}
  {heartbeats : List Heartbeat} {world next : World}

theorem Settled.congr (settled : Settled env config history heartbeats world)
    (same : next.outlook = world.outlook) : Settled env config history heartbeats next := by
  have readerState : next.readerState = world.readerState := congrArg (·.1.1) same
  refine ⟨⟨?_, ?_, ?_⟩, readerState.trans settled.readerState, ?_, readerState ▸ settled.live⟩
  · exact (congrArg (·.2.2) same).trans settled.status
  · exact (congrArg (·.2.1.2) same).trans settled.heartbeats
  · have due : next.nextReaderAttempt = world.nextReaderAttempt := congrArg (·.2.1.1) same
    exact due ▸ settled.scheduled
  · unfold Agent.Steady
    rw [readerState]
    exact settled.steady.congr (congrArg (·.1.2.1) same) (congrArg (·.1.2.2) same)

namespace Agent

theorem onDelivery_outlook {α : Type} {program : Delivery α}
    (leaves : Leaves Delivery.readerStatus program) :
    Leaves World.outlook (onDelivery program) :=
  Leaves.pair (onDelivery_desk program) (Leaves.pair (Leaves.zoom (fun _ _ => rfl) program)
    (leaves.zoom_part World.deliveryPart))

theorem settled_of_outlook {α : Type} {program : Agent α} (leaves : Leaves World.outlook program) :
    Triple (Settled env config history heartbeats) program
      (fun _ => Settled env config history heartbeats)
      (fun _ world => world.heartbeats = heartbeats) :=
  leaves.triple (fun _ _ same settled => settled.congr same) fun _ _ settled => settled.heartbeats

theorem settled_serves :
    Serves env config (Settled env config history heartbeats)
      (fun _ world => world.heartbeats = heartbeats) where
  tick := fun _ settled => settled.congr rfl
  fault := fun _ _ _ _ settled => settled.heartbeats
  cut := fun _ settled => settled.heartbeats
  delivery := fun _ _ settled => settled.congr rfl
  heartbeat := fun _ _ settled => settled.congr rfl
  slept := fun _ _ settled => settled.congr rfl
  pendingCount := settled_of_outlook (onDelivery_outlook (Delivery.statement_readerStatus _))
  process := settled_of_outlook (onDelivery_outlook
    (Delivery.processPendingDeliveries_readerStatus _))

theorem enqueueEvents_settled (events : List DetectedEvent) :
    Triple (Settled env config history heartbeats) (enqueueEvents env config events)
      (fun _ => Settled env config history heartbeats)
      (fun _ world => world.heartbeats = heartbeats) := by
  have marked : Leaves World.outlook (mark env HealthState.markEvent) := by
    unfold mark quietly
    refine Leaves.operation (fun tick world => ?_) fun _ => rfl
    simp only [World.outlook, World.readerStatus, World.setHealth, Option.map_map]
    rfl
  exact enqueueEvents_keeps (fun _ => Settled env config history heartbeats)
    (fun _ => settled_of_outlook marked)
    (fun _ => quietly_serves settled_serves fun _ _ settled => settled)
    (fun _ _ _ => settled_of_outlook (onDelivery_outlook (Delivery.statement_readerStatus _)))
    events

end Agent

end Serving

/-! ## The journal -/

def happenings (journal : List Entry) : List Happening := journal.map (·.happening)

/-- The heartbeat has an entry, and shows the state of it. -/
def Shows (journal : List Entry) (heartbeat : Heartbeat) : Prop :=
  ∃ entry ∈ journal, entry.happening = .heartbeat ∧
    heartbeat.readerState = entry.world.readerState ∧
    heartbeat.healthState = entry.world.delivery.healthState

/-- Each entry is what the history up to it makes of the state, and each heartbeat has
its entry. -/
structure Filed (env : AgentEnv) (config : EdgeConfig) (pair : World × List Entry) : Prop where
  settled : ∀ entry past, entry :: past <:+ pair.2 →
    Settled env config (happenings (entry :: past)) entry.world.heartbeats entry.world
  shown : ∀ heartbeat ∈ pair.1.heartbeats, Shows pair.2 heartbeat

theorem Filed.later {env : AgentEnv} {config : EdgeConfig} {world next : World}
    {journal : List Entry} (filed : Filed env config (world, journal))
    (same : next.heartbeats = world.heartbeats) : Filed env config (next, journal) :=
  ⟨filed.settled, same ▸ filed.shown⟩

/-- Among filed entries, the present is in a certain relation to the history. -/
structure Amid (env : AgentEnv) (config : EdgeConfig)
    (present : List Happening → List Heartbeat → World → Prop) (pair : World × List Entry) : Prop
    extends Filed env config pair where
  now : present (happenings pair.2) pair.1.heartbeats pair.1

abbrev Chronicled (env : AgentEnv) (config : EdgeConfig) : World × List Entry → Prop :=
  Amid env config (Settled env config)

/-- Once a happening is noted, the state it left is settled. -/
theorem Chronicled.noted {env : AgentEnv} {config : EdgeConfig}
    {happening : Happening} {world : World} {journal : List Entry}
    (filed : Filed env config (world, journal))
    (settled : Settled env config (happening :: happenings journal) world.heartbeats world) :
    Chronicled env config (world, ⟨happening, world⟩ :: journal) := by
  refine ⟨⟨forall_suffix_cons settled filed.settled, fun heartbeat member => ?_⟩, settled⟩
  obtain ⟨entry, known, found⟩ := filed.shown heartbeat member
  exact ⟨entry, List.mem_cons_of_mem _ known, found⟩

namespace Chronicle

section Chronicling

variable {env : AgentEnv} {config : EdgeConfig}

theorem noting_chronicled (happening : World → Happening)
    {raised : Exn → World × List Entry → Prop} :
    Triple (Amid env config fun history heartbeats world =>
        Settled env config (happening world :: history) heartbeats world)
      (noting fun world => some ⟨happening world, world⟩) (fun _ => Chronicled env config)
      raised :=
  Triple.noting fun _ _ amid => .noted amid.toFiled amid.now

theorem silent_amid {α : Type} {program : Agent α}
    {before : List Happening → List Heartbeat → World → Prop}
    {after : α → List Happening → List Heartbeat → World → Prop}
    (kept : ∀ history heartbeats, Triple (before history heartbeats) program
      (fun value world => after value history heartbeats world ∧ world.heartbeats = heartbeats)
      fun _ world => world.heartbeats = heartbeats) :
    Triple (Amid env config before) (silent program) (fun value => Amid env config (after value))
      (fun _ => Filed env config) := by
  refine Triple.silent fun journal world amid => ?_
  refine (kept _ _ world amid.now).imp (fun _ next both => ?_) fun _ next same => ?_
  · exact ⟨amid.toFiled.later both.2, both.2.symm ▸ both.1⟩
  · exact amid.toFiled.later same

theorem silent_chronicled {α : Type} {program : Agent α}
    (kept : ∀ history heartbeats, Triple (Settled env config history heartbeats) program
      (fun _ => Settled env config history heartbeats)
      fun _ world => world.heartbeats = heartbeats) :
    Triple (Chronicled env config) (silent program) (fun _ => Chronicled env config)
      (fun _ => Filed env config) :=
  silent_amid fun history heartbeats => (kept history heartbeats).returning
    fun _ _ settled => ⟨settled, settled.heartbeats⟩

theorem connectPhase_settled {history : List Happening} {heartbeats : List Heartbeat} {now : Time}
    (reading : ∃ tick, now = env.clock tick) :
    Triple (fun world => Settled env config history heartbeats world ∧ world.readerState ≠ .READY)
      (Agent.connectPhase env config now)
      (fun _ world => Settled env config (.attempted world.readerState :: history) heartbeats world)
      fun _ world => world.heartbeats = heartbeats := by
  refine ((Agent.connectPhase_posted reading).both (Agent.connectPhase_steady now)).conseq
    (fun _ both => ⟨both.1.toPosted, both.1.steady, both.2⟩) ?_ fun _ _ both => both.1
  intro _ world both
  refine ⟨both.1, ?_, both.2, fun ready => ready ▸ .attempted⟩
  simp [ReaderStatus.step]

theorem reconnectPhase_chronicled {now : Time} (reading : ∃ tick, now = env.clock tick) :
    Triple (Chronicled env config) (Journaled.reconnectPhase note env config now)
      (fun _ => Chronicled env config) (fun _ => Filed env config) := by
  refine Triple.silent_get fun world => ?_
  split
  · rename_i due
    refine Triple.bind (Triple.noting_blank fun _ => rfl) fun _ =>
      Triple.bind ((silent_amid fun history heartbeats =>
        (connectPhase_settled reading).returning fun _ _ settled =>
          ⟨settled, settled.heartbeats⟩).before fun pair both => ⟨both.2.toFiled, both.2.now, ?_⟩)
      fun _ => noting_chronicled fun world => .attempted world.readerState
    exact both.1 ▸ due.2
  · exact (Triple.noting_blank fun _ => rfl).before fun _ both => both.2

/-- An inventory was read on a live connection; the loop has yet to take over its state. -/
structure Reading (env : AgentEnv) (config : EdgeConfig) (read : InventoryRead)
    (history : List Happening) (heartbeats : List Heartbeat) (world : World) : Prop
    extends Agent.Told env config (ReaderStatus.run history) heartbeats read world where
  manned : Manned config.autoConfigureReader read.readerState world
  live : Live history

theorem readInventory_reading {history : List Happening} {heartbeats : List Heartbeat}
    (reader : IDT85Reader) (live : Live history) :
    Triple (fun world => Settled env config history heartbeats world ∧
        Agent.Serving config.autoConfigureReader reader world)
      (Agent.readInventory env config reader)
      (fun read => Reading env config read history heartbeats)
      fun _ world => world.heartbeats = heartbeats :=
  ((Agent.readInventory_told reader).both (Agent.readInventory_manned reader)).conseq
    (fun _ both => ⟨both.1.toPosted, both.2⟩) (fun _ _ both => ⟨both.1, both.2.2, live⟩)
    fun _ _ both => both.1

theorem setReaderState_reading {history : List Happening} {heartbeats : List Heartbeat}
    (read : InventoryRead) {raised : Exn → World → Prop} :
    Triple (Reading env config read history heartbeats) (Agent.setReaderState read.readerState)
      (fun _ world => Reading env config read history heartbeats world ∧
        world.readerState = read.readerState) raised :=
  Triple.update fun _ reading =>
    ⟨⟨⟨reading.status, reading.health, reading.heartbeats, reading.scheduled⟩,
      reading.manned.congr rfl rfl, reading.live⟩, rfl⟩

theorem mark_settled {history : List Happening} {heartbeats : List Heartbeat}
    (read : InventoryRead) :
    Triple (fun world => Reading env config read history heartbeats world ∧
        world.readerState = read.readerState)
      (Agent.mark env fun health _ => health.setReaderState read.readerState)
      (fun _ => Settled env config (read.happening :: history) heartbeats)
      fun _ world => world.heartbeats = heartbeats := by
  unfold Agent.mark Agent.quietly
  refine Triple.operation ?_ fun _ _ _ both => both.1.heartbeats
  intro world both
  obtain ⟨reading, taken⟩ := both
  refine ⟨⟨?_, reading.heartbeats, reading.scheduled⟩, ?_, ?_, fun ready => ?_⟩
  · simp only [World.readerStatus, World.setHealth, Ticking.advance, reading.health,
      Option.map_map]
    exact reading.status
  · exact taken.trans (InventoryRead.status_readerState reading.status).symm
  · change Manned config.autoConfigureReader world.readerState _
    rw [taken]
    exact reading.manned.congr rfl rfl
  · exact InventoryRead.live (taken.symm.trans ready) reading.live

theorem scheduleNext_settled {history : List Happening} {heartbeats : List Heartbeat} (now : Time)
    {raised : Exn → World → Prop} :
    Triple (fun world => Settled env config history heartbeats world ∧
        ∃ tick, now = env.clock tick)
      (Agent.assign fun world =>
        { world with nextReaderAttempt := config.readerDiscoveryInterval.after now })
      (fun _ => Settled env config history heartbeats) raised := by
  refine Triple.update fun world both => ?_
  obtain ⟨settled, tick, rfl⟩ := both
  exact ⟨⟨settled.status, settled.heartbeats, .inr ⟨tick, rfl⟩⟩, settled.readerState,
    settled.steady.congr rfl rfl, settled.live⟩

theorem takeOver_chronicled (read : InventoryRead) :
    Triple (Amid env config (Reading env config read)) (Journaled.takeOver note env config read)
      (fun _ => Chronicled env config) (fun _ => Filed env config) := by
  refine Triple.bind (silent_amid fun _ _ => (setReaderState_reading read).returning
    fun _ _ both => ⟨both, both.1.heartbeats⟩) fun _ => ?_
  refine Triple.bind (silent_amid fun _ _ => (mark_settled read).returning
    fun _ _ settled => ⟨settled, settled.heartbeats⟩) fun _ => ?_
  refine Triple.bind (noting_chronicled fun _ => read.happening) fun _ => ?_
  split
  · refine Triple.bind (silent_amid fun _ _ => (Agent.time_reads Agent.settled_serves).returning
      fun _ _ both => ⟨both, both.1.heartbeats⟩) fun now => ?_
    refine Triple.bind (silent_amid fun _ _ => (scheduleNext_settled now).returning
      fun _ _ settled => ⟨settled, settled.heartbeats⟩) fun _ =>
        Triple.bind (Triple.noting_blank fun _ => rfl) fun _ =>
        Triple.pure fun _ chronicled => chronicled
  · exact Triple.bind (Triple.noting_blank fun _ => rfl) fun _ =>
      Triple.pure fun _ chronicled => chronicled

theorem scanPhase_chronicled :
    Triple (Chronicled env config) (Journaled.scanPhase note env config)
      (fun _ => Chronicled env config) (fun _ => Filed env config) := by
  refine Triple.silent_get fun world => ?_
  split
  · exact Triple.pure fun _ both => both.2
  · rename_i ready
    intro pair both
    obtain ⟨rfl, chronicled⟩ := both
    have isReady := not_not.mp ready
    obtain ⟨reader, present, session⟩ := chronicled.now.steady.ready isReady
    have served : Agent.Serving config.autoConfigureReader reader pair.1 :=
      ⟨chronicled.now.steady.agent reader present, present, session⟩
    rw [Option.mem_def.mp present]
    have read : Triple (Amid env config fun history heartbeats world =>
          (Settled env config history heartbeats world ∧
            Agent.Serving config.autoConfigureReader reader world) ∧ Live history)
        (silent (Agent.readInventory env config reader))
        (fun read => Amid env config (Reading env config read)) (fun _ => Filed env config) := by
      refine silent_amid fun history heartbeats world before => ?_
      exact (readInventory_reading reader before.2 world before.1).imp
        (fun _ _ reading => ⟨reading, reading.heartbeats⟩) fun _ _ same => same
    exact Triple.bind read (fun read => takeOver_chronicled read) pair
      ⟨chronicled.toFiled, ⟨chronicled.now, served⟩, chronicled.now.live isReady⟩

/-- A heartbeat carries the loop variable and the health state of the moment. -/
theorem sendHeartbeat_settled {history : List Happening} {heartbeats : List Heartbeat}
    (start : World) :
    Triple (fun world => Settled env config history heartbeats world ∧
        (world.readerState, world.delivery.healthState) =
          (start.readerState, start.delivery.healthState))
      (Agent.sendHeartbeat env config)
      (fun _ world => Settled env config history world.heartbeats world ∧
        ∃ heartbeat, heartbeat.readerState = start.readerState ∧
          heartbeat.healthState = start.delivery.healthState ∧
          world.heartbeats = heartbeat :: heartbeats)
      fun _ world => world.heartbeats = heartbeats := by
  have untouched : Leaves DeliveryState.healthState (Delivery.pendingCount env.delivery) :=
    fun _ => Delivery.statement_triple _ (fun _ same => same) fun _ _ same => same
  have counted : Leaves (fun world : World => (world.readerState, world.delivery.healthState))
      (onDelivery (Delivery.pendingCount env.delivery)) :=
    Leaves.pair (Leaves.zoom (fun _ _ => rfl) _) (untouched.zoom_part World.deliveryPart)
  refine Triple.bind ((counted.frame (· = (start.readerState, start.delivery.healthState))
    Agent.settled_serves.pendingCount).raising fun _ _ both => both.1) fun queuePending => ?_
  have replied : Leaves (fun world : World => (world.readerState, world.delivery.healthState))
      (Agent.quietly env fun tick world => (env.heartbeat tick, world)) :=
    Leaves.operation (fun _ _ => rfl) fun _ => rfl
  refine Triple.bind ((replied.frame (· = (start.readerState, start.delivery.healthState))
    (Agent.quietly_serves Agent.settled_serves fun _ _ settled => settled)).raising
      fun _ _ both => both.1) fun reply => ?_
  dsimp only
  split
  · refine Triple.update fun world both => ?_
    obtain ⟨settled, same⟩ := both
    refine ⟨⟨⟨settled.status, rfl, settled.scheduled⟩, settled.readerState,
      settled.steady.congr rfl rfl, settled.live⟩, _, ?_, ?_,
      congrArg (List.cons _) settled.heartbeats⟩
    · exact congrArg (·.1) same
    · exact congrArg (·.2) same
  · exact Triple.throw fun _ both => both.1.heartbeats

theorem sendHeartbeat_chronicled :
    Triple (fun pair => Chronicled env config pair ∧ ∃ past, pair.2 = ⟨.heartbeat, pair.1⟩ :: past)
      (silent (Agent.sendHeartbeat env config)) (fun _ => Chronicled env config)
      (fun _ => Filed env config) := by
  refine Triple.silent fun journal world both => ?_
  obtain ⟨chronicled, past, newest⟩ := both
  refine (sendHeartbeat_settled world world ⟨chronicled.now, rfl⟩).imp (fun _ next sent => ?_)
    fun _ next same => chronicled.toFiled.later same
  obtain ⟨settled, heartbeat, readerState, healthState, reported⟩ := sent
  refine ⟨⟨chronicled.settled, fun other member => ?_⟩, settled⟩
  rw [reported] at member
  cases List.mem_cons.mp member with
  | inl same => exact ⟨_, newest ▸ List.mem_cons_self, rfl, same ▸ readerState, same ▸ healthState⟩
  | inr earlier => exact chronicled.shown other earlier

theorem heartbeatPhase_chronicled :
    Triple (Chronicled env config) (Journaled.heartbeatPhase note env config)
      (fun _ => Chronicled env config) (fun _ => Filed env config) := by
  refine Triple.bind (silent_chronicled fun _ _ => Agent.time_serves Agent.settled_serves)
    fun now => Triple.silent_get fun world => ?_
  split
  · have noted : Triple (Chronicled env config) (noting (note .beating))
        (fun _ pair => Chronicled env config pair ∧ ∃ past, pair.2 = ⟨.heartbeat, pair.1⟩ :: past)
        (fun (_ : Exn) => Filed env config) := by
      refine Triple.noting fun world journal chronicled => ⟨.noted chronicled.toFiled ?_, _, rfl⟩
      have settled := chronicled.now
      exact ⟨settled.toPosted, settled.readerState, settled.steady,
        fun ready => .heartbeat (settled.live ready)⟩
    refine (Triple.bind noted fun _ => Triple.bind sendHeartbeat_chronicled fun _ =>
      Triple.bind (silent_chronicled fun _ _ => Agent.time_serves Agent.settled_serves)
        fun sentAt => Triple.bind (silent_chronicled fun _ _ => Triple.update fun world settled =>
          settled.congr rfl) fun _ => Triple.noting_blank fun _ => rfl).before fun _ both => both.2
  · exact (Triple.noting_blank fun _ => rfl).before fun _ both => both.2

theorem servePhase_chronicled (events : List DetectedEvent) (scanStart : Time) (turns : Nat) :
    Triple (Chronicled env config) (Journaled.servePhase note env config events scanStart turns)
      (fun _ => Chronicled env config) (fun _ => Filed env config) := by
  unfold Journaled.servePhase
  rw [Journaled.enqueueEvents_silent fun _ => rfl, Journaled.deliverEvents_silent fun _ _ => rfl,
    Journaled.retryDeliveries_silent (fun _ _ _ => rfl) fun _ _ => rfl]
  exact Triple.bind (silent_chronicled fun _ _ => Agent.enqueueEvents_settled events) fun _ =>
    Triple.bind (silent_chronicled fun _ _ =>
      Agent.deliverEvents_serves Agent.settled_serves events) fun _ =>
    Triple.bind (silent_chronicled fun _ _ =>
      Agent.retryDeliveries_serves Agent.settled_serves) fun _ =>
    Triple.bind heartbeatPhase_chronicled fun _ =>
    silent_chronicled fun _ _ => Agent.sleepPhase_serves Agent.settled_serves scanStart turns

theorem turn_chronicled (turns : Nat) :
    Triple (Chronicled env config) (Journaled.turn note env config turns)
      (fun _ => Chronicled env config) (fun _ => Filed env config) := by
  refine Triple.bind (Triple.noting_blank fun _ => rfl) fun _ =>
    Triple.bind (silent_chronicled fun _ _ => Agent.time_serves Agent.settled_serves)
    fun scanStart => ?_
  refine Triple.bind (silent_amid fun _ _ => (Agent.time_reads Agent.settled_serves).returning
    fun _ _ both => ⟨both, both.1.heartbeats⟩) fun now => ?_
  intro pair amid
  have reading := amid.now.2
  refine (Triple.bind (reconnectPhase_chronicled reading) fun _ =>
    Triple.bind scanPhase_chronicled fun scanned => ?_) pair ⟨amid.toFiled, amid.now.1⟩
  cases scanned with
  | none => exact Triple.pure fun _ chronicled => chronicled
  | some events => exact servePhase_chronicled events scanStart turns

theorem loop_chronicled (turns : Nat) :
    Triple (Chronicled env config) (Journaled.loop note env config turns)
      (fun _ => Chronicled env config) (fun _ => Filed env config) := by
  induction turns with
  | zero => exact Triple.throw fun _ chronicled => chronicled.toFiled
  | succ turns ih =>
      have headed : Triple (Chronicled env config) (silent Agent.noteHead)
          (fun _ => Chronicled env config) (fun _ => Filed env config) := by
        refine silent_chronicled fun _ _ => Triple.update fun world settled => ?_
        exact ⟨⟨settled.status, settled.heartbeats, settled.scheduled⟩, settled.readerState,
          Agent.withHead_steady settled.steady, settled.live⟩
      refine Triple.bind headed fun _ => Triple.bind (silent_chronicled fun _ _ =>
        Agent.shutdownRequested_serves Agent.settled_serves) fun stop => ?_
      split
      · exact Triple.pure fun _ chronicled => chronicled
      · exact Triple.bind (turn_chronicled turns) fun _ => ih

theorem cleanup_filed : Preserves (Filed env config) (silent (Agent.cleanup env)) := by
  have closed : Leaves World.heartbeats (Agent.closeReader env) := by
    refine Leaves.bind Leaves.get fun world => ?_
    split
    · exact Leaves.zoom (fun _ _ => rfl) _
    · exact Leaves.pure _
  have cleaned : Leaves World.heartbeats (Agent.cleanup env) :=
    Leaves.bind closed fun _ => Leaves.zoom (fun _ _ => rfl) _
  exact Triple.silent fun journal => cleaned.triple (fun _ _ same filed => filed.later same)
    fun _ _ filed => filed

theorem supervise_filed (turns : Nat) :
    Triple (Chronicled env config) (Journaled.supervise note env config turns)
      (fun _ => Filed env config) (fun _ => Filed env config) := by
  have looped : Triple (Chronicled env config)
      (attempt Agent.stoppedByKey (Journaled.loop note env config turns))
      (fun _ => Filed env config) (fun _ => Filed env config) :=
    Triple.attempt ((loop_chronicled turns).returning fun _ _ chronicled => chronicled.toFiled)
      (fun _ _ _ _ filed => filed) fun _ _ _ filed => filed
  exact Triple.ensuring (Triple.bind looped fun _ => Triple.pure fun _ filed => filed)
    (fun _ => cleanup_filed) (fun _ _ => cleanup_filed) fun _ _ _ filed => filed

theorem booted_chronicled (env : AgentEnv) (config : EdgeConfig) (world : World) :
    Chronicled env config (world.boot config, []) where
  settled := fun _ _ suffix => absurd suffix (by simp)
  shown := fun _ member => absurd member List.not_mem_nil
  now := ⟨⟨rfl, rfl, .inl rfl⟩, rfl, (Agent.boot_booted config world).steady,
    fun ready => by contradiction⟩

theorem runAgent_filed (turns : Nat) :
    Triple (fun pair => pair.2 = []) (Journaled.runAgent note env config turns)
      (fun _ => Filed env config) (fun _ => Filed env config) := by
  have boots : Triple (fun pair => pair.2 = []) (silent (Agent.assign (World.boot config)))
      (fun _ => Chronicled env config) (fun _ => Filed env config) := by
    refine Triple.silent fun journal => Triple.update fun world empty => ?_
    obtain rfl : journal = [] := empty
    exact booted_chronicled env config world
  refine Triple.bind boots fun _ => ?_
  split
  · exact Triple.throw fun _ chronicled => chronicled.toFiled
  · refine Triple.bind (silent_chronicled fun _ _ => Agent.settled_of_outlook
        (Agent.onDelivery_outlook (Delivery.statement_readerStatus _))) fun _ =>
      Triple.bind (silent_chronicled fun _ _ => Agent.settled_serves.pendingCount) fun _ =>
      Triple.bind (silent_chronicled fun _ _ => Agent.settled_serves.process) fun _ =>
      Triple.bind (silent_chronicled fun _ _ => Agent.time_serves Agent.settled_serves)
        fun now =>
      Triple.bind (silent_chronicled fun _ _ => Triple.update fun _ settled =>
        settled.congr rfl) fun _ =>
      Triple.bind (Triple.noting_blank fun _ => rfl) fun _ => supervise_filed turns

end Chronicling

end Chronicle

/-- A run and its journal, newest entry first. -/
def chronicle (env : AgentEnv) (config : EdgeConfig) (turns : Nat) (world : World) :
    World × List Entry :=
  after (Journaled.runAgent Chronicle.note env config turns) (world, [])

theorem chronicle_filed (env : AgentEnv) (config : EdgeConfig) (turns : Nat) (world : World) :
    Filed env config (chronicle env config turns world) :=
  Triple.after (Chronicle.runAgent_filed turns) rfl

theorem chronicle_world (env : AgentEnv) (config : EdgeConfig) (turns : Nat) (world : World) :
    (chronicle env config turns world).1 = after (Agent.runAgent env config turns) world :=
  (Journaled.runAgent_erases turns).after world []

theorem Filed.health {env : AgentEnv} {config : EdgeConfig} {pair : World × List Entry}
    (filed : Filed env config pair) {entry : Entry} {past : List Entry}
    (suffix : entry :: past <:+ pair.2) :
    ∃ health, entry.world.delivery.healthState = some health ∧
      health.readerStatus = ReaderStatus.run (happenings (entry :: past)) :=
  Option.map_eq_some_iff.mp (filed.settled entry past suffix).status

end MvdEdge
