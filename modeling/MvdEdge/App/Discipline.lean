import MvdEdge.Adapters.Custody
import MvdEdge.App.RunProperties

/-! The serial discipline of whole runs: what each phase of `run_agent` leaves of
the line, when it returns and when it is interrupted. -/

set_option autoImplicit false

namespace MvdEdge

open Lib Lib.Effect

variable {autoConfigureReader : Bool}

/-- What a state reported by `connect_and_verify_reader` says of the line. -/
def Served (autoConfigureReader : Bool) (object : Nat) : ReaderState → Line → Prop
  | .READY, line => ∃ handle, Session autoConfigureReader object handle .answering line
  | _, line => Idle autoConfigureReader line

section Connecting

variable {env : LineEnv} {reader : IDT85Reader} {handle : Nat}

theorem refuseReader_custody (message : Str) :
    Triple (Held autoConfigureReader reader.object) (refuseReader env reader message)
      (fun result => Served autoConfigureReader reader.object result.1)
      (Aborted autoConfigureReader (Held autoConfigureReader reader.object)) :=
  Triple.bind (IDT85Reader.close_custody.raising fun _ _ aborted => aborted.held _) fun _ =>
    Triple.pure fun _ idle => idle

theorem aborting {α : Type} {program : Serial α} {pre : Line → Prop} {post : α → Line → Prop}
    {object : Nat} {knowledge : Knowledge}
    (triple : Triple pre program post
      fun _ => Session autoConfigureReader object handle knowledge) :
    Triple pre program post
      (Aborted autoConfigureReader (Held autoConfigureReader object)) :=
  triple.raising fun _ _ session => session.held.aborted

theorem configureReader_custody {mode : Option UInt8} (agent : reader.owner = .agent)
    (auto : autoConfigureReader = true) (other : mode ≠ some ANSWER_MODE) :
    Triple (Session autoConfigureReader reader.object handle ⟨true, some mode⟩)
      (configureReader env reader)
      (fun result => Served autoConfigureReader reader.object result.1)
      (Aborted autoConfigureReader (Held autoConfigureReader reader.object)) := by
  refine Triple.bind (aborting (IDT85Reader.setAnswerMode_session agent auto rfl other))
    fun configured => ?_
  split
  · exact (refuseReader_custody _).before fun _ session => session.held
  · refine Triple.bind (aborting IDT85Reader.getWorkMode_session) fun verifiedMode => ?_
    split
    · exact (refuseReader_custody _).before fun _ session => session.held
    · rename_i answering
      rw [not_not.mp answering]
      exact Triple.pure fun _ session => ⟨handle, session⟩

theorem checkWorkMode_custody (agent : reader.owner = .agent) :
    Triple (Session autoConfigureReader reader.object handle ⟨true, none⟩)
      (checkWorkMode env reader autoConfigureReader)
      (fun result => Served autoConfigureReader reader.object result.1)
      (Aborted autoConfigureReader (Held autoConfigureReader reader.object)) := by
  refine Triple.bind (aborting IDT85Reader.getWorkMode_session) fun workMode => ?_
  split
  · rename_i answering
    rw [answering]
    exact Triple.pure fun _ session => ⟨handle, session⟩
  · rename_i other
    split
    · exact (refuseReader_custody _).before fun _ session => session.held
    · rename_i auto
      exact configureReader_custody agent (Bool.eq_true_of_not_eq_false auto) other

theorem connectReader_custody (agent : reader.owner = .agent) :
    Triple (Idle autoConfigureReader) (connectReader env reader autoConfigureReader)
      (fun result => Served autoConfigureReader reader.object result.1)
      (Aborted autoConfigureReader (Held autoConfigureReader reader.object)) := by
  have opened : Triple (Idle autoConfigureReader) (reader.open env)
      (fun _ line => ∃ handle, Session autoConfigureReader reader.object handle {} line)
      (Aborted autoConfigureReader (Held autoConfigureReader reader.object)) :=
    (IDT85Reader.open_session.before fun _ idle => idle _).raising
      fun _ _ custody => Held.aborted ⟨none, custody⟩
  refine Triple.bind opened fun _ => Triple.of_exists fun handle => ?_
  refine Triple.bind (aborting IDT85Reader.verifyReader_session) fun verified => ?_
  cases verified with
  | false =>
      exact (refuseReader_custody _).before fun _ session => session.held
  | true => exact checkWorkMode_custody agent

def Attached (autoConfigureReader : Bool) (object : Nat) :
    Except Str (ReaderState × Str) → Line → Prop
  | .ok result => Served autoConfigureReader object result.1
  | .error _ => Held autoConfigureReader object

theorem connectAndVerifyReader_custody (agent : reader.owner = .agent) :
    Triple (Idle autoConfigureReader) (connectAndVerifyReader env reader autoConfigureReader)
      (fun result => Served autoConfigureReader reader.object result.1)
      (Aborted autoConfigureReader (Held autoConfigureReader reader.object)) := by
  refine Triple.through (Attached autoConfigureReader reader.object)
    (Triple.attempt (connectReader_custody agent) ?_ fun _ _ _ aborted => aborted) fun outcome => ?_
  · intro failure reason line handled aborted
    refine aborted.rest ?_
    intro same
    subst same
    contradiction
  · cases outcome with
    | ok result => exact Triple.pure fun _ served => served
    | error message =>
        exact Triple.bind (IDT85Reader.close_custody.raising
          fun _ _ aborted => aborted.held _) fun _ => Triple.pure fun _ idle => idle

end Connecting

section Discovering

variable {env : LineEnv} {settings : ProbeSettings}

theorem new_custody (port : Str) (baudrate : Nat) (address : UInt8) (verifyMethod : Str)
    (owner : Owner) :
    Triple (Idle autoConfigureReader) (IDT85Reader.new port baudrate address verifyMethod owner)
      (fun reader line => reader.owner = owner ∧ Idle autoConfigureReader line)
      fun _ _ => False :=
  Triple.update fun _ idle => ⟨rfl, fun object => (idle object).congr rfl rfl⟩

theorem ask_custody (reader : IDT85Reader) :
    Triple (Idle autoConfigureReader)
      (do
        reader.open env
        reader.verifyReader env)
      (fun _ => Held autoConfigureReader reader.object)
      (fun _ => Held autoConfigureReader reader.object) := by
  have opened : Triple (Idle autoConfigureReader) (reader.open env)
      (fun _ line => ∃ handle, Session autoConfigureReader reader.object handle {} line)
      (fun _ => Held autoConfigureReader reader.object) :=
    (IDT85Reader.open_session.before fun _ idle => idle _).raising
      fun _ _ custody => ⟨none, custody⟩
  refine Triple.bind opened fun _ => Triple.of_exists fun handle => ?_
  exact IDT85Reader.verifyReader_session.conseq (fun _ session => session)
    (fun _ _ session => session.held) fun _ _ session => session.held

theorem probeReaderPort_custody (port : Str) :
    Triple (Idle autoConfigureReader) (probeReaderPort env settings port)
      (fun _ => Idle autoConfigureReader)
      (Aborted autoConfigureReader (Idle autoConfigureReader)) := by
  refine Triple.bind ((new_custody _ _ _ _ _).raising fun _ _ impossible => impossible.elim)
    fun reader => ?_
  have attempted : Triple (fun line => reader.owner = .discovery ∧ Idle autoConfigureReader line)
      (attempt Exn.caught (do
        reader.open env
        reader.verifyReader env))
      (fun _ => Held autoConfigureReader reader.object)
      (fun _ => Held autoConfigureReader reader.object) :=
    Triple.attempt ((ask_custody reader).before fun _ both => both.2)
      (fun _ _ _ _ held => held) fun _ _ _ held => held
  refine Triple.ensuring (Triple.bind attempted fun answer => ?_)
    (fun _ => IDT85Reader.close_custody) (fun failure _ => ?_) ?_
  · cases answer with
    | ok verified => exact Triple.pure fun _ held => held
    | error message => exact Triple.pure fun _ held => held
  · exact IDT85Reader.close_custody.returning fun _ _ idle => idle.aborted
  · intro failure line stopped held
    refine ⟨held.disciplined, fun survives => ?_⟩
    simp [Exn.unwinds, survives] at stopped

theorem probeAll_custody (candidates : List Metadata) (devices : List DiscoveredSerialDevice) :
    Triple (Idle autoConfigureReader) (probeAll env settings candidates devices)
      (fun _ => Idle autoConfigureReader)
      (Aborted autoConfigureReader (Idle autoConfigureReader)) := by
  induction candidates generalizing devices with
  | nil => exact Triple.pure fun _ idle => idle
  | cons metadata rest ih => exact Triple.bind (probeReaderPort_custody _) fun _ => ih _

theorem discoverReaderPort_custody (filter : UsbFilter) (survey : PortSurvey) :
    Triple (Idle autoConfigureReader) (discoverReaderPort env settings filter survey)
      (fun _ => Idle autoConfigureReader)
      (Aborted autoConfigureReader (Idle autoConfigureReader)) := by
  refine Triple.bind (probeAll_custody _ _) fun devices => ?_
  split
  · exact Triple.pure fun _ idle => idle
  · split
    · exact Triple.pure fun _ idle => idle
    · exact Triple.pure fun _ idle => idle
  · exact Triple.pure fun _ idle => idle

end Discovering

def InventoryRead.Settles (read : InventoryRead) : Prop :=
  (read.readerState = .READY ∧ read.readerClosed = false) ∨
    (read.readerState = .DISCONNECTED ∧ read.readerClosed = true)

theorem readInventoryEvents_settles (call : InventoryCall) (state : PresenceState)
    (healthState : Option HealthState) (readerId : Option Str) :
    (readInventoryEvents call state healthState readerId).Settles := by
  obtain ⟨_, _, _, kept⟩ | ⟨_, _, _, _, kept⟩ | ⟨_, _, _, _, lost⟩ :=
    readInventoryEvents_cases call state healthState readerId
  · exact .inl kept
  · exact .inl kept
  · exact .inr lost

def World.desk (world : World) : ReaderState × Option IDT85Reader × Line :=
  (world.readerState, world.reader, world.line)

/-- The current reader has the line exactly in READY. -/
structure Manned (autoConfigureReader : Bool) (readerState : ReaderState) (world : World) :
    Prop where
  agent : ∀ reader ∈ world.reader, reader.owner = .agent
  idle : readerState ≠ .READY → Idle autoConfigureReader world.line
  ready : readerState = .READY → ∃ reader ∈ world.reader, ∃ handle,
    Session autoConfigureReader reader.object handle .answering world.line

/-- Whatever is open, the `finally` closes. -/
def Recoverable (autoConfigureReader : Bool) (world : World) : Prop :=
  Idle autoConfigureReader world.line ∨
    ∃ reader ∈ world.reader, Held autoConfigureReader reader.object world.line

structure Interrupted (autoConfigureReader : Bool) (failure : Exn) (world : World) : Prop where
  disciplined : Disciplined autoConfigureReader world.line.log
  recoverable : failure ≠ .killed → Recoverable autoConfigureReader world

section Process

variable {readerState : ReaderState} {failure : Exn} {world next : World}

theorem Manned.congr (manned : Manned autoConfigureReader readerState world)
    (reader : next.reader = world.reader) (line : next.line = world.line) :
    Manned autoConfigureReader readerState next := by
  constructor
  · exact reader ▸ manned.agent
  · exact line ▸ manned.idle
  · rw [reader, line]
    exact manned.ready

theorem Manned.recoverable (manned : Manned autoConfigureReader readerState world) :
    Recoverable autoConfigureReader world := by
  by_cases ready : readerState = .READY
  · obtain ⟨reader, current, handle, session⟩ := manned.ready ready
    exact .inr ⟨reader, current, session.held⟩
  · exact .inl (manned.idle ready)

theorem Recoverable.disciplined (recoverable : Recoverable autoConfigureReader world) :
    Disciplined autoConfigureReader world.line.log := by
  cases recoverable with
  | inl idle => exact (idle 0).disciplined
  | inr held =>
      obtain ⟨reader, -, held⟩ := held
      exact held.disciplined

theorem Manned.interrupted (manned : Manned autoConfigureReader readerState world) :
    Interrupted autoConfigureReader failure world :=
  ⟨manned.recoverable.disciplined, fun _ => manned.recoverable⟩

theorem Manned.of_idle (agent : ∀ reader ∈ world.reader, reader.owner = .agent)
    (idle : Idle autoConfigureReader world.line) (notReady : readerState ≠ .READY) :
    Manned autoConfigureReader readerState world :=
  ⟨agent, fun _ => idle, fun ready => absurd ready notReady⟩

theorem Manned.of_served {reader : IDT85Reader} (agent : reader.owner = .agent)
    (current : world.reader = some reader)
    (served : Served autoConfigureReader reader.object readerState world.line) :
    Manned autoConfigureReader readerState world := by
  have owners : ∀ other ∈ world.reader, other.owner = .agent := by
    intro other member
    rw [current] at member
    obtain rfl := Option.some.inj member
    exact agent
  cases readerState with
  | READY => exact ⟨owners, fun notReady => absurd rfl notReady, fun _ => ⟨reader, current, served⟩⟩
  | DISCONNECTED | CONNECTING | CONFIG_ERROR => exact .of_idle owners served (by decide)

end Process

namespace Agent

variable {env : AgentEnv} {config : EdgeConfig} {readerState : ReaderState}

theorem onDelivery_desk {α : Type} (program : Delivery α) :
    Leaves World.desk (onDelivery program) :=
  Leaves.zoom (fun _ _ => rfl) program

theorem desk_aside (env : AgentEnv) (config : EdgeConfig) : Aside env config World.desk where
  tick := fun _ => rfl
  health := fun _ _ => rfl
  attempt := fun _ _ => rfl
  delivery := fun _ _ => rfl
  heartbeat := fun _ _ => rfl
  heartbeats := fun _ _ => rfl
  slept := fun _ _ => rfl
  pendingCount := onDelivery_desk _
  process := onDelivery_desk _

theorem enqueueEvents_desk (events : List DetectedEvent) :
    Leaves World.desk (enqueueEvents env config events) := by
  have aside := desk_aside env config
  exact fun shown => enqueueEvents_keeps (fun _ world => world.desk = shown)
    (fun _ => mark_aside aside _ shown) (fun _ => quietly_aside aside (fun _ _ => rfl) shown)
    (fun _ _ _ => onDelivery_desk _ shown) events

theorem servePhase_desk (events : List DetectedEvent) (scanStart : Time) (turns : Nat) :
    Leaves World.desk (servePhase env config events scanStart turns) :=
  servePhase_aside (desk_aside env config) (enqueueEvents_desk events) scanStart turns

theorem manned_of_desk {α : Type} {program : Agent α} (leaves : Leaves World.desk program) :
    Triple (Manned autoConfigureReader readerState) program
      (fun _ => Manned autoConfigureReader readerState) (Interrupted autoConfigureReader) := by
  have manned : ∀ world next : World, next.desk = world.desk →
      Manned autoConfigureReader readerState world →
        Manned autoConfigureReader readerState next :=
    fun _ _ same manned => manned.congr (congrArg (·.2.1) same) (congrArg (·.2.2) same)
  exact leaves.triple manned fun _ _ manned => manned.interrupted

theorem onLine_triple {α : Type} {before : Line → Prop} {program : Serial α}
    {returned : α → Line → Prop} {failed : Exn → Line → Prop}
    (inner : Triple before program returned failed) (reader : Option IDT85Reader) :
    Triple (fun world => before world.line ∧ world.reader = reader) (onLine program)
      (fun value world => returned value world.line ∧ world.reader = reader)
      (fun failure world => failed failure world.line ∧ world.reader = reader) :=
  Triple.zoom World.linePart World.reader (fun _ _ => rfl) inner (· = reader)

theorem onLine_idle {α : Type} {program : Serial α} (notReady : readerState ≠ .READY)
    (inner : Triple (Idle autoConfigureReader) program (fun _ => Idle autoConfigureReader)
      (Aborted autoConfigureReader (Idle autoConfigureReader))) :
    Triple (Manned autoConfigureReader readerState) (onLine program)
      (fun _ => Manned autoConfigureReader readerState) (Interrupted autoConfigureReader) := by
  intro world manned
  have ran := onLine_triple inner world.reader world ⟨manned.idle notReady, rfl⟩
  refine ran.imp (fun _ next outcome => ?_) fun failure next outcome => ?_
  · exact .of_idle (outcome.2 ▸ manned.agent) outcome.1 notReady
  · exact ⟨outcome.1.disciplined, fun survives => .inl (outcome.1.rest survives)⟩

theorem resolveReaderPort_manned (notReady : readerState ≠ .READY) :
    Triple (Manned autoConfigureReader readerState) (resolveReaderPort env config)
      (fun _ => Manned autoConfigureReader readerState) (Interrupted autoConfigureReader) := by
  unfold resolveReaderPort
  split
  · exact Triple.pure fun _ manned => manned
  · refine Triple.bind (manned_of_desk (Leaves.operation (fun _ _ => rfl) fun _ => rfl))
      fun survey => ?_
    exact Triple.bind (onLine_idle notReady (discoverReaderPort_custody _ _)) fun result =>
      Triple.pure fun _ manned => manned

theorem connectCurrent_manned {reader : IDT85Reader} (agent : reader.owner = .agent) :
    Triple (fun world => Idle autoConfigureReader world.line ∧ world.reader = some reader)
      (onLine (connectAndVerifyReader env.line reader autoConfigureReader))
      (fun result => Manned autoConfigureReader result.1) (Interrupted autoConfigureReader) := by
  refine (onLine_triple (connectAndVerifyReader_custody agent) (some reader)).conseq
    (fun _ both => both) (fun _ _ outcome => .of_served agent outcome.2 outcome.1) ?_
  intro failure world outcome
  exact ⟨outcome.1.disciplined,
    fun survives => .inr ⟨reader, outcome.2, outcome.1.rest survives⟩⟩

theorem connect_manned (notReady : readerState ≠ .READY) (selectedPort : Option Str)
    (message : Str) (discovery : Option DiscoveryResult) :
    Triple (Manned config.autoConfigureReader readerState)
      (connect env config selectedPort message discovery)
      (fun result => Manned config.autoConfigureReader result.1)
      (Interrupted config.autoConfigureReader) := by
  unfold connect
  split
  · rename_i port _
    have created : Triple (Manned config.autoConfigureReader readerState)
        (onLine (IDT85Reader.new port config.probe.baudrate config.probe.readerAddress
          config.probe.readerVerifyMethod .agent))
        (fun reader world => reader.owner = .agent ∧ Idle config.autoConfigureReader world.line)
        (Interrupted config.autoConfigureReader) :=
      fun world manned => (onLine_triple (new_custody _ _ _ _ _) world.reader world
        ⟨manned.idle notReady, rfl⟩).imp (fun _ _ outcome => outcome.1)
          fun _ _ outcome => outcome.1.elim
    refine Triple.bind created fun reader => ?_
    refine Triple.through (fun _ world => reader.owner = .agent ∧
      Idle config.autoConfigureReader world.line ∧ world.reader = some reader)
      (Triple.update fun _ both => ⟨both.1, both.2, rfl⟩) fun _ => ?_
    intro world current
    exact connectCurrent_manned current.1 world current.2
  · split
    · split
      · exact Triple.pure fun _ manned => .of_idle manned.agent (manned.idle notReady) (by simp)
      · exact Triple.pure fun _ manned => .of_idle manned.agent (manned.idle notReady) (by simp)
    · exact Triple.pure fun _ manned => .of_idle manned.agent (manned.idle notReady) (by simp)

def Steady (autoConfigureReader : Bool) (world : World) : Prop :=
  Manned autoConfigureReader world.readerState world

theorem setReaderState_steady (readerState : ReaderState) {raised : Exn → World → Prop} :
    Triple (Manned autoConfigureReader readerState) (setReaderState readerState)
      (fun _ => Steady autoConfigureReader) raised :=
  Triple.update fun _ manned => manned.congr rfl rfl

theorem steady_of_desk {α : Type} {program : Agent α} (leaves : Leaves World.desk program) :
    Triple (Steady autoConfigureReader) program (fun _ => Steady autoConfigureReader)
      (Interrupted autoConfigureReader) := by
  have steady : ∀ world next : World, next.desk = world.desk →
      Steady autoConfigureReader world → Steady autoConfigureReader next := by
    intro world next same steady
    have readerState : next.readerState = world.readerState := congrArg (·.1) same
    exact Manned.congr (readerState ▸ steady) (congrArg (·.2.1) same) (congrArg (·.2.2) same)
  exact leaves.triple steady fun _ _ steady => Manned.interrupted steady

theorem connectPhase_steady (now : Time) :
    Triple (fun world => Steady config.autoConfigureReader world ∧ world.readerState ≠ .READY)
      (connectPhase env config now) (fun _ => Steady config.autoConfigureReader)
      (Interrupted config.autoConfigureReader) := by
  have mark := mark_aside (desk_aside env config)
  have begun : Triple
      (fun world => Steady config.autoConfigureReader world ∧ world.readerState ≠ .READY)
      (setReaderState .CONNECTING) (fun _ => Manned config.autoConfigureReader .CONNECTING)
      (Interrupted config.autoConfigureReader) :=
    Triple.update fun _ both => .of_idle both.1.agent (both.1.idle both.2) (by decide)
  refine Triple.bind begun fun _ => Triple.bind (manned_of_desk (mark _)) fun _ =>
    Triple.bind (manned_of_desk (mark _)) fun _ =>
    Triple.bind (resolveReaderPort_manned (by decide)) fun resolved => ?_
  refine Triple.bind (connect_manned (by decide) _ _ _) fun result => ?_
  exact Triple.bind (setReaderState_steady result.1) fun _ =>
    Triple.bind (steady_of_desk (mark _)) fun _ =>
    steady_of_desk (reportConnection_aside (desk_aside env config) _ _ _)

structure Serving (autoConfigureReader : Bool) (reader : IDT85Reader) (world : World) : Prop where
  agent : reader.owner = .agent
  current : world.reader = some reader
  session : ∃ handle, Session autoConfigureReader reader.object handle .answering world.line

theorem Serving.manned {reader : IDT85Reader} {world : World}
    (serving : Serving autoConfigureReader reader world) :
    Manned autoConfigureReader .READY world :=
  .of_served serving.agent serving.current serving.session

theorem serving_of_desk {α : Type} {program : Agent α} {reader : IDT85Reader}
    (leaves : Leaves World.desk program) :
    Triple (Serving autoConfigureReader reader) program
      (fun _ => Serving autoConfigureReader reader) (Interrupted autoConfigureReader) := by
  have serving : ∀ world next : World, next.desk = world.desk →
      Serving autoConfigureReader reader world → Serving autoConfigureReader reader next := by
    intro world next same serving
    have line : next.line = world.line := congrArg (·.2.2) same
    exact ⟨serving.agent, (congrArg (·.2.1) same).trans serving.current, line ▸ serving.session⟩
  exact leaves.triple serving fun _ _ serving => serving.manned.interrupted

theorem inventory_serving (reader : IDT85Reader) :
    Triple (Serving autoConfigureReader reader)
      (attempt Exn.caught (onLine (reader.inventory env.line)))
      (fun _ => Serving autoConfigureReader reader) (Interrupted autoConfigureReader) := by
  have asked : Triple (Serving autoConfigureReader reader) (onLine (reader.inventory env.line))
      (fun _ => Serving autoConfigureReader reader)
      (fun _ => Serving autoConfigureReader reader) := by
    intro world serving
    obtain ⟨handle, session⟩ := serving.session
    exact (onLine_triple (IDT85Reader.inventory_session serving.agent) (some reader) world
      ⟨session, serving.current⟩).imp
        (fun _ _ outcome => ⟨serving.agent, outcome.2, handle, outcome.1⟩)
        fun _ _ outcome => ⟨serving.agent, outcome.2, handle, outcome.1⟩
  exact Triple.attempt asked (fun _ _ _ _ serving => serving)
    fun _ _ _ serving => serving.manned.interrupted

theorem closeLost_manned {reader : IDT85Reader} {read : InventoryRead}
    (answer : (read.readerState = .READY ∧ read.readerClosed = false) ∨
      (read.readerState = .DISCONNECTED ∧ read.readerClosed = true)) :
    Triple (Serving autoConfigureReader reader) (closeLost env reader read)
      (fun _ => Manned autoConfigureReader read.readerState)
      (Interrupted autoConfigureReader) := by
  unfold closeLost
  obtain ⟨readerState, closed⟩ | ⟨readerState, closed⟩ := answer
  · rw [readerState, closed]
    exact Triple.pure fun _ serving => serving.manned
  · rw [readerState, closed]
    intro world serving
    obtain ⟨handle, session⟩ := serving.session
    refine (onLine_triple IDT85Reader.close_custody (some reader) world
      ⟨session.held, serving.current⟩).imp (fun _ next closed => ?_) fun failure next closed => ?_
    · exact .of_served serving.agent closed.2 closed.1
    · exact ⟨closed.1.disciplined, fun survives => .inl (closed.1.rest survives)⟩

theorem readInventory_manned (reader : IDT85Reader) :
    Triple (Serving autoConfigureReader reader) (readInventory env config reader)
      (fun read world => read.Settles ∧ Manned autoConfigureReader read.readerState world)
      (Interrupted autoConfigureReader) := by
  have time := time_aside (desk_aside env config)
  refine Triple.bind (serving_of_desk time) fun _ => Triple.bind (inventory_serving reader)
    fun inventory => Triple.bind (serving_of_desk time) fun now => ?_
  refine Triple.through (fun read world => read.Settles ∧ Serving autoConfigureReader reader world)
    (Triple.operation ?_ ?_) fun read => ?_
  · intro world serving
    exact ⟨readInventoryEvents_settles _ _ _ _,
      ⟨serving.agent, serving.current, serving.session⟩⟩
  · intro failure world _ serving
    have kept : Manned autoConfigureReader .READY (Ticking.advance world) :=
      serving.manned.congr rfl rfl
    exact kept.interrupted
  · intro world both
    have absorbed : Triple (Serving autoConfigureReader reader)
        (absorb env reader inventory now read)
        (fun _ => Manned autoConfigureReader read.readerState)
        (Interrupted autoConfigureReader) :=
      Triple.bind (closeLost_manned both.1) fun _ => manned_of_desk (Leaves.update fun _ => rfl)
    exact Triple.bind absorbed (fun _ => Triple.pure fun _ manned => ⟨both.1, manned⟩) world both.2

theorem scanPhase_steady :
    Triple (Steady config.autoConfigureReader) (scanPhase env config)
      (fun _ => Steady config.autoConfigureReader) (Interrupted config.autoConfigureReader) := by
  have mark := mark_aside (desk_aside env config)
  have time := time_aside (desk_aside env config)
  refine Triple.get fun world => ?_
  split
  · exact Triple.pure fun _ both => both.1 ▸ both.2
  · rename_i ready
    intro current both
    obtain ⟨rfl, steady⟩ := both
    obtain ⟨reader, present, session⟩ := steady.ready (not_not.mp ready)
    rw [Option.mem_def.mp present]
    refine (Triple.bind (readInventory_manned reader) fun read => ?_ :
      Triple (Serving config.autoConfigureReader reader) _ _ _) current
        ⟨steady.agent reader present, present, session⟩
    refine Triple.bind ((setReaderState_steady read.readerState).before fun _ both => both.2)
      fun _ => Triple.bind (steady_of_desk (mark _)) fun _ => ?_
    split
    · exact Triple.bind (steady_of_desk time) fun _ =>
        Triple.bind (steady_of_desk (Leaves.update fun _ => rfl)) fun _ =>
          Triple.pure fun _ steady => steady
    · exact Triple.pure fun _ steady => steady

theorem reconnectPhase_steady (now : Time) :
    Triple (Steady config.autoConfigureReader) (reconnectPhase env config now)
      (fun _ => Steady config.autoConfigureReader) (Interrupted config.autoConfigureReader) := by
  refine Triple.get fun world => ?_
  split
  · rename_i due
    intro current both
    obtain ⟨rfl, steady⟩ := both
    exact connectPhase_steady now current ⟨steady, due.2⟩
  · exact Triple.pure fun _ both => both.1 ▸ both.2

theorem turn_steady (turns : Nat) :
    Triple (Steady config.autoConfigureReader) (turn env config turns)
      (fun _ => Steady config.autoConfigureReader) (Interrupted config.autoConfigureReader) := by
  have time := time_aside (desk_aside env config)
  refine Triple.bind (steady_of_desk time) fun scanStart =>
    Triple.bind (steady_of_desk time) fun now =>
    Triple.bind (reconnectPhase_steady now) fun _ =>
    Triple.bind scanPhase_steady fun scanned => ?_
  cases scanned with
  | none => exact Triple.pure fun _ steady => steady
  | some events => exact steady_of_desk (servePhase_desk events scanStart turns)

theorem Steady.closed {world : World} (steady : Steady autoConfigureReader world)
    (notReady : world.readerState ≠ .READY) :
    world.currentHandle = none ∧ openHandles world.line.log = [] := by
  have idle := steady.idle notReady
  refine ⟨?_, (idle 0).opened⟩
  unfold World.currentHandle
  cases world.reader with
  | none => rfl
  | some reader => exact ((idle reader.object).owned reader.object).trans (if_pos rfl)

theorem Steady.session {world : World} (steady : Steady autoConfigureReader world)
    (ready : world.readerState = .READY) :
    ∃ reader ∈ world.reader, ∃ handle, world.currentHandle = some handle ∧
      Session autoConfigureReader reader.object handle .answering world.line := by
  obtain ⟨reader, current, handle, session⟩ := steady.ready ready
  refine ⟨reader, current, handle, ?_, session⟩
  rw [World.currentHandle, Option.mem_def.mp current]
  exact session.serialOf

theorem Steady.answering {world : World} (steady : Steady autoConfigureReader world)
    (ready : world.readerState = .READY) :
    ∃ handle, world.currentHandle = some handle ∧ openHandles world.line.log = [handle] ∧
      known handle world.line.log = .answering := by
  obtain ⟨_, _, handle, shown, session⟩ := Steady.session steady ready
  exact ⟨handle, shown, session.opened, session.knows⟩

theorem withHead_steady {world : World} (steady : Steady autoConfigureReader world) :
    Steady autoConfigureReader world.withHead := by
  unfold World.withHead
  by_cases ready : world.readerState = .READY
  · obtain ⟨reader, current, handle, shown, session⟩ := Steady.session steady ready
    rw [shown]
    refine .of_served (steady.agent reader current) current ?_
    rw [ready]
    exact ⟨handle, session.log ⟨session.opened, by simp⟩ rfl session.knows⟩
  · have idle := steady.idle ready
    rw [(Steady.closed steady ready).1]
    refine .of_idle steady.agent (fun object => ?_) ready
    exact (idle object).log ⟨(idle object).opened, by simp [ready]⟩ rfl

theorem loop_steady (turns : Nat) :
    Triple (Steady config.autoConfigureReader) (loop env config turns)
      (fun _ => Steady config.autoConfigureReader) (Interrupted config.autoConfigureReader) := by
  induction turns with
  | zero => exact Triple.throw fun _ steady => steady.interrupted
  | succ turns ih =>
      refine Triple.bind (Triple.update fun _ => withHead_steady) fun _ => Triple.bind
        (steady_of_desk (shutdownRequested_aside (desk_aside env config))) fun stop => ?_
      split
      · exact Triple.pure fun _ steady => steady
      · exact Triple.bind (turn_steady turns) fun _ => ih

theorem closeReader_idle :
    Triple (Recoverable autoConfigureReader) (closeReader env)
      (fun _ world => Idle autoConfigureReader world.line)
      (fun failure world =>
        Aborted autoConfigureReader (Idle autoConfigureReader) failure world.line) := by
  refine Triple.get fun world => ?_
  intro current both
  obtain ⟨rfl, recoverable⟩ := both
  cases present : current.reader with
  | none =>
      cases recoverable with
      | inl idle => exact idle
      | inr held =>
          obtain ⟨reader, member, _⟩ := held
          simp [present] at member
  | some reader =>
      have held : Held autoConfigureReader reader.object current.line := by
        cases recoverable with
        | inl idle => exact idle.held _
        | inr held =>
            obtain ⟨other, member, held⟩ := held
            rw [present] at member
            obtain rfl := Option.some.inj member
            exact held
      exact (onLine_triple IDT85Reader.close_custody (some reader) current ⟨held, present⟩).imp
        (fun _ _ closed => closed.1) fun _ _ closed => closed.1

def Released (autoConfigureReader : Bool) (failure : Exn) (world : World) : Prop :=
  Aborted autoConfigureReader (Idle autoConfigureReader) failure world.line

theorem cleanup_released :
    Triple (Recoverable autoConfigureReader) (cleanup env)
      (fun _ world => Idle autoConfigureReader world.line) (Released autoConfigureReader) := by
  have idle : ∀ world next : World, next.desk = world.desk →
      Idle autoConfigureReader world.line → Idle autoConfigureReader next.line := by
    intro world next same idle
    have line : next.line = world.line := congrArg (·.2.2) same
    exact line ▸ idle
  exact Triple.bind closeReader_idle fun _ =>
    (onDelivery_desk _).triple idle fun _ _ idle => idle.aborted

theorem loop_recoverable (turns : Nat) :
    Triple (Steady config.autoConfigureReader) (attempt stoppedByKey (loop env config turns))
      (fun _ => Recoverable config.autoConfigureReader)
      (Interrupted config.autoConfigureReader) := by
  refine Triple.attempt ((loop_steady turns).returning fun _ _ steady => Manned.recoverable steady)
    ?_ fun _ _ _ interrupted => interrupted
  intro failure reason world handled interrupted
  refine interrupted.recoverable ?_
  intro same
  subst same
  contradiction

theorem supervise_released (turns : Nat) :
    Triple (Steady config.autoConfigureReader) (supervise env config turns)
      (fun _ world => Idle config.autoConfigureReader world.line)
      (Released config.autoConfigureReader) := by
  refine Triple.ensuring (Triple.bind (loop_recoverable turns) fun _ =>
    Triple.pure fun _ recoverable => recoverable) (fun _ => cleanup_released)
    (fun failure unwinds => ?_) ?_
  · intro world interrupted
    have survives : failure ≠ .killed := by
      intro same
      subst same
      contradiction
    exact (cleanup_released world (interrupted.recoverable survives)).imp
      (fun _ _ idle => idle.aborted) fun _ _ released => released
  · intro failure world stopped interrupted
    refine ⟨interrupted.disciplined, fun survives => ?_⟩
    simp [Exn.unwinds, survives] at stopped

structure Booted (autoConfigureReader : Bool) (world : World) : Prop where
  steady : Steady autoConfigureReader world
  idle : Idle autoConfigureReader world.line

theorem boot_booted (config : EdgeConfig) (world : World) :
    Booted autoConfigureReader (world.boot config) := by
  have idle : Idle autoConfigureReader (world.boot config).line := by
    refine fun object => ⟨?_, ?_, rfl⟩
    · intro event past suffix
      simp [World.boot] at suffix
    · intro other
      simp [World.boot]
  exact ⟨.of_idle (by simp [World.boot]) idle (by simp [World.boot]), idle⟩

theorem booted_of_desk {α : Type} {program : Agent α} (leaves : Leaves World.desk program) :
    Triple (Booted autoConfigureReader) program (fun _ => Booted autoConfigureReader)
      (Released autoConfigureReader) := by
  refine leaves.triple ?_ fun _ _ booted => booted.idle.aborted
  intro world next same booted
  have readerState : next.readerState = world.readerState := congrArg (·.1) same
  have line : next.line = world.line := congrArg (·.2.2) same
  exact ⟨Manned.congr (readerState ▸ booted.steady) (congrArg (·.2.1) same) line,
    line ▸ booted.idle⟩

theorem runAgent_released (env : AgentEnv) (config : EdgeConfig) (turns : Nat) :
    Triple (fun _ => True) (runAgent env config turns)
      (fun _ world => Idle config.autoConfigureReader world.line)
      (Released config.autoConfigureReader) := by
  have boots : Triple (fun _ => True) (assign (World.boot config))
      (fun _ => Booted config.autoConfigureReader) (Released config.autoConfigureReader) :=
    Triple.update fun world _ => boot_booted config world
  refine Triple.bind boots fun _ => ?_
  split
  · exact Triple.throw fun _ booted => booted.idle.aborted
  · refine Triple.bind (booted_of_desk (onDelivery_desk _)) fun _ =>
      Triple.bind (booted_of_desk (onDelivery_desk _)) fun _ =>
      Triple.bind (booted_of_desk (onDelivery_desk _)) fun _ =>
      Triple.bind (booted_of_desk (time_aside (desk_aside env config))) fun now =>
      Triple.bind (booted_of_desk (Leaves.update fun _ => rfl)) fun _ => ?_
    exact (supervise_released turns).before fun _ booted => booted.steady

end Agent

/-- The serial discipline of whole runs, for any surroundings and from any past:
who has the line at the heads of the loop, what is written when, and that
nothing stays open. -/
theorem serial_discipline (env : AgentEnv) (config : EdgeConfig) (turns : Nat) (world : World) :
    let log := (after (Agent.runAgent env config turns) world).line.log
    (∀ past readerState handle, .loopHead readerState handle :: past <:+ log →
      openHandles past = handle.toList ∧ (readerState = .READY ↔ handle.isSome = true)) ∧
    (∀ past, past <:+ log → (openHandles past).length ≤ 1) ∧
    (∀ past owner handle command, .wrote owner handle command :: past <:+ log →
      handle ∈ openHandles past ∧
      (commandCode command = INVENTORY_COMMAND → known handle past = .answering) ∧
      (commandCode command = SET_WORK_MODE_COMMAND → config.autoConfigureReader = true ∧
        ∃ mode, (known handle past).workMode = some mode ∧ mode ≠ some ANSWER_MODE) ∧
      (owner = .discovery → commandCode command = GET_READER_INFO_COMMAND ∨
        commandCode command = GET_WORK_MODE_COMMAND)) ∧
    (Agent.runAgent env config turns world = .error .killed
      (after (Agent.runAgent env config turns) world) ∨ openHandles log = []) := by
  intro log
  have outcome := Agent.runAgent_released env config turns world trivial
  obtain ⟨disciplined, closed⟩ : Disciplined config.autoConfigureReader log ∧
      (Agent.runAgent env config turns world = .error .killed
        (after (Agent.runAgent env config turns) world) ∨ openHandles log = []) := by
    simp only [log, after]
    cases ran : Agent.runAgent env config turns world with
    | ok value next =>
        rw [ran] at outcome
        exact ⟨(outcome 0).disciplined, .inr (outcome 0).opened⟩
    | error failure next =>
        rw [ran] at outcome
        refine ⟨outcome.disciplined, ?_⟩
        by_cases killed : failure = .killed
        · exact .inl (by rw [killed])
        · exact .inr (outcome.rest killed 0).opened
  refine ⟨fun past readerState handle member => disciplined _ _ member, ?_, ?_, closed⟩
  · intro past suffix
    exact Disciplined.openHandles_length fun event earlier member =>
      disciplined event earlier (member.trans suffix)
  · intro past owner handle command member
    obtain ⟨isOpen, permitted⟩ := disciplined _ _ member
    exact ⟨isOpen, permitted.inventory, permitted.setWorkMode, permitted.discovery⟩

/-- In the sample run the inventory command is written. -/
example : (after (Agent.runAgent sampleSurroundings sampleConfig 1) sampleWorld).line.log.any
    (fun
      | .wrote .agent _ command => commandCode command == INVENTORY_COMMAND
      | _ => false) = true := by
  decide +kernel

end MvdEdge
