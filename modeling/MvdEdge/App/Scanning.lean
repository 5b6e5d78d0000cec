import MvdEdge.App.Handshake
import MvdEdge.App.Inventory
import MvdEdge.Adapters.DecoderLanguage
import MvdEdge.Adapters.ErrorDetection
import MvdEdge.Adapters.InventoryReport

/-! From the tags in the field of a reader to the events of the agent: a connection and
any number of scans, with a reader that answers as it should. -/

set_option autoImplicit false

namespace MvdEdge

open Lib Lib.Effect PresenceState

/-- What a scan reads beside the inventory: `time.time()`, `utc_timestamp()` and the mint. -/
structure Reading where
  now : Time
  stamp : Timestamp
  mint : Mint

def Reading.call (reading : Reading) (inventory : Except Str InventoryResult) : InventoryCall :=
  ⟨inventory, reading.now, reading.stamp, reading.mint⟩

namespace IDT85Reader

section Scans

variable (env : LineEnv) (reader : IDT85Reader) (readerId : Option Str)

/-- What `read_inventory_events` makes of the outcome of the inventory. -/
def concludeScan (reading : Reading) (state : PresenceState) (healthState : Option HealthState)
    (inventory : Except Str InventoryResult) : Serial InventoryRead :=
  let read := MvdEdge.readInventoryEvents (reading.call inventory) state healthState readerId
  if read.readerClosed then do
    reader.close env
    return read
  else return read

/-- `read_inventory_events` with the reader on the line. -/
def readInventoryEvents (reading : Reading) (state : PresenceState)
    (healthState : Option HealthState) : Serial InventoryRead :=
  attempt Exn.caught (reader.inventory env) >>=
    concludeScan env reader readerId reading state healthState

/-- Calls of `read_inventory_events` on one `PresenceState`. -/
def scan : List Reading → PresenceState → Option HealthState → Serial (List InventoryRead)
  | [], _, _ => return []
  | reading :: rest, state, healthState => do
      let read ← readInventoryEvents env reader readerId reading state healthState
      let later ← scan rest read.state read.healthState
      return read :: later

/-- A connection, and the scans that follow if it is READY. -/
def connectAndScan (autoConfigureReader : Bool) (readings : List Reading) (state : PresenceState)
    (healthState : Option HealthState) :
    Serial ((ReaderState × Str) × List InventoryRead) := do
  let result ← connectAndVerifyReader env reader autoConfigureReader
  if result.1 = .READY then do
    let reads ← scan env reader readerId readings state healthState
    return (result, reads)
  else return (result, [])

def inventoryTalk : Talk InventoryResult :=
  .ask (buildInventoryCommand reader.address) fun response =>
    .done (classifyInventoryResponse response)

def readInventoryTalk (reading : Reading) (state : PresenceState)
    (healthState : Option HealthState) : Talk InventoryRead :=
  reader.inventoryTalk.bind fun result =>
    .done (MvdEdge.readInventoryEvents (reading.call (.ok result)) state healthState readerId)

def scanTalk : List Reading → PresenceState → Option HealthState → Talk (List InventoryRead)
  | [], _, _ => .done []
  | reading :: rest, state, healthState =>
      (readInventoryTalk reader readerId reading state healthState).bind fun read =>
        (scanTalk rest read.state read.healthState).bind fun later => .done (read :: later)

end Scans

section Conversing

variable {env : LineEnv} {reader : IDT85Reader} {readerId : Option Str}
  (quiet : ∀ tick, env.fault tick = none)

/-- What is raised is caught, but nothing is. -/
theorem Converses.attempted {α β ρ : Type} {caught : Exn → Option ρ} {stays : β → Bool}
    {program : Serial α} {talk : Talk α} {next : Except ρ α → Serial β} {rest : α → Talk β}
    (begun : Converses env reader (fun _ => true) program talk)
    (ended : ∀ value, Converses env reader stays (next (.ok value)) (rest value)) :
    Converses env reader stays (attempt caught program >>= next) (talk.bind rest) := by
  intro first handle isOpen line same
  have returned := begun first handle isOpen line same
  have outcome := (begun.bind ended) first handle isOpen line same
  simp only [Bind.bind, EStateM.bind, attempt] at outcome ⊢
  cases ran : program line with
  | ok value reached =>
      rw [ran] at outcome
      exact outcome
  | error failure reached =>
      rw [ran] at returned
      exact False.elim returned

include quiet

theorem inventory_converses :
    Converses env reader (fun _ => true) (reader.inventory env) reader.inventoryTalk :=
  Converses.bind (sendCommand_converses quiet _) fun _ => .pure rfl

theorem readInventoryEvents_converses (reading : Reading) (state : PresenceState)
    (healthState : Option HealthState) :
    Converses env reader (fun _ => true)
      (readInventoryEvents env reader readerId reading state healthState)
      (readInventoryTalk reader readerId reading state healthState) := by
  refine (inventory_converses quiet).attempted fun result => ?_
  have keepsOpen : (MvdEdge.readInventoryEvents (reading.call (.ok result)) state healthState
      readerId).readerClosed = false := by
    simp only [MvdEdge.readInventoryEvents, Reading.call]
    split <;> rfl
  simp only [concludeScan, keepsOpen, Bool.false_eq_true, ↓reduceIte]
  exact .pure rfl

theorem scan_converses (readings : List Reading) (state : PresenceState)
    (healthState : Option HealthState) :
    Converses env reader (fun _ => true) (scan env reader readerId readings state healthState)
      (scanTalk reader readerId readings state healthState) := by
  induction readings generalizing state healthState with
  | nil => exact .pure rfl
  | cons reading rest ih =>
      refine (readInventoryEvents_converses quiet reading state healthState).bind fun read => ?_
      exact (ih read.state read.healthState).bind fun _ => .pure rfl

theorem connectAndScan_converses (autoConfigureReader : Bool) (readings : List Reading)
    (state : PresenceState) (healthState : Option HealthState) (first : Line) :
    let greeting := (reader.handshake autoConfigureReader).converse (answers env) first.writes
    let scans := if greeting.1.1 = .READY
      then (scanTalk reader readerId readings state healthState).converse (answers env)
        (first.writes + greeting.2.length)
      else ([], [])
    ∃ last, connectAndScan env reader readerId autoConfigureReader readings state healthState
        first = .ok (greeting.1, scans.1) last ∧
      Spoken reader.object first (greeting.2 ++ scans.2)
        (if greeting.1.1 = .READY then some first.nextHandle else none) last := by
  intro greeting scans
  obtain ⟨middle, ran, spoken⟩ : ∃ middle,
      connectAndVerifyReader env reader autoConfigureReader first = .ok greeting.1 middle ∧
        Spoken reader.object first greeting.2
          (bif staysOpen greeting.1 then some first.nextHandle else none) middle :=
    connectAndVerifyReader_handshake quiet autoConfigureReader first
  simp only [staysOpen, Bool.cond_eq_ite, beq_iff_eq] at spoken
  simp only [connectAndScan, Bind.bind, EStateM.bind]
  rw [ran]
  dsimp only
  by_cases ready : greeting.1.1 = .READY
  · rw [if_pos ready] at spoken ⊢
    obtain ⟨reads, last, scanned, rfl, later⟩ :=
      (@scan_converses env reader readerId quiet readings state healthState middle first.nextHandle
        spoken.held).returns rfl
    rw [spoken.writes] at scanned later
    simp only [scans, if_pos ready, EStateM.bind, scanned]
    exact ⟨last, rfl, spoken.trans later⟩
  · rw [if_neg ready] at spoken ⊢
    simp only [scans, if_neg ready, List.append_nil]
    exact ⟨middle, rfl, spoken⟩

end Conversing

end IDT85Reader

/-! ## The tags in the field -/

/-- Less than the frame it announces. -/
inductive CutShort : Bytes → Prop where
  | lost : CutShort []
  | short (size : UInt8) (received : Bytes) (missing : received.length < size.toNat) :
      CutShort (size :: received)

/-- What can answer an inventory: a report of the tags in the field, the answer for an
empty field, or (`none`) an answer that the line lost or cut short. -/
inductive Inventories : Option (List Bytes) → Bytes → Prop where
  | tags (report : TagReport) (noise : Bytes) :
      Inventories (some report.epcs) (report.frame ++ noise)
  | noTags (address : UInt8) (noise : Bytes) :
      Inventories (some []) (makeCommand address INVENTORY_COMMAND [0xFB]
        (by decide : 1 + 1 + 1 + 2 < 256) ++ noise)
  | cut {answer : Bytes} (cut : CutShort answer) : Inventories none answer

/-- In Answer Mode the reader also answers every inventory with the tags in its field,
which may be others each time. -/
structure Surveys {σ : Type} (device : Party σ Bytes Bytes) (address : UInt8)
    (mode : σ → UInt8) (field : σ → Option (List Bytes)) : Prop where
  conforms : Conforms device address mode
  inventoried : ∀ state, mode state = ANSWER_MODE →
    Inventories (field state) (device.respond state (buildInventoryCommand address)).1
  answering : ∀ state, mode state = ANSWER_MODE →
    mode (device.respond state (buildInventoryCommand address)).2 = ANSWER_MODE

theorem classify_noTags (address : UInt8) :
    classifyInventoryResponse (makeCommand address INVENTORY_COMMAND [0xFB]
      (by decide : 1 + 1 + 1 + 2 < 256)) = ⟨.VALID, []⟩ := by
  have crc : hasValidCrc (makeCommand address INVENTORY_COMMAND [0xFB]
      (by decide : 1 + 1 + 1 + 2 < 256)) = true :=
    (hasValidCrc_iff (by simp [makeCommand, crcTrailer])).mpr (crc16_makeCommand _ _ _ _)
  rw [classifyInventoryResponse_valid_iff]
  exact ⟨by simp [makeCommand, crcTrailer], rfl, ⟨_, rfl, .inr rfl⟩,
    .inl ⟨⟨rfl, rfl, rfl, crc⟩, rfl⟩⟩

theorem CutShort.readFrame {answer : Bytes} (cut : CutShort answer) :
    readFrame answer = answer := by
  cases cut with
  | lost => rfl
  | short size received missing =>
      rw [MvdEdge.readFrame, List.take_of_length_le (Nat.le_of_lt missing)]

theorem CutShort.invalid {answer : Bytes} (cut : CutShort answer) :
    (classifyInventoryResponse answer).status ≠ .VALID := by
  cases cut with
  | lost => decide
  | short size received missing =>
      have nonzero : size ≠ 0 := by
        rintro rfl
        exact Nat.not_lt_zero _ missing
      simp [classifyInventoryResponse, nonzero, missing.ne, InventoryResult.malformed]

/-- What the scan finds in the field, as `PresenceState` is to see it. -/
def Reading.scan (reading : Reading) (epcs : List Bytes) : Scan :=
  ⟨epcs.map hexUpper, reading.now, reading.mint⟩

theorem Inventories.scan? {listed : Option (List Bytes)} {answer : Bytes}
    (inventories : Inventories listed answer) (reading : Reading) :
    (reading.call (.ok (classifyInventoryResponse (readFrame answer)))).scan? =
      listed.map reading.scan := by
  cases inventories with
  | tags report noise =>
      rw [report.readFrame_append, report.classify_frame]
      rfl
  | noTags address noise =>
      rw [readFrame_makeCommand, classify_noTags]
      rfl
  | cut cut =>
      rw [cut.readFrame]
      have invalid := cut.invalid
      unfold InventoryCall.scan? Reading.call
      split
      · rename_i tags valid
        rw [Except.ok.inj valid] at invalid
        exact absurd rfl invalid
      · rfl

section Fields

variable {σ : Type} (device : Party σ Bytes Bytes) (address : UInt8)

/-- The scans with a device that answers them. -/
def heard : σ → List Reading → List InventoryCall
  | _, [] => []
  | state, reading :: rest =>
      let (answer, next) := device.respond state (buildInventoryCommand address)
      reading.call (.ok (classifyInventoryResponse (readFrame answer))) :: heard next rest

/-- How one tag sees the field of the device over the scans. -/
def sighted (field : σ → Option (List Bytes)) (epc : Str) : σ → List Reading → List (Bool × Time)
  | _, [] => []
  | state, reading :: rest =>
      ((field state).map fun epcs => (decide (epc ∈ epcs.map hexUpper), reading.now)).toList ++
        sighted field epc (device.respond state (buildInventoryCommand address)).2 rest

variable {device} {address}

theorem Surveys.sightsOf_heard {mode : σ → UInt8} {field : σ → Option (List Bytes)}
    (surveys : Surveys device address mode field) (epc : Str) {state : σ}
    (answering : mode state = ANSWER_MODE) (readings : List Reading) :
    sightsOf epc ((heard device address state readings).filterMap (·.scan?)) =
      sighted device address field epc state readings := by
  induction readings generalizing state with
  | nil => rfl
  | cons reading rest ih =>
      have later := ih (surveys.answering state answering)
      have found := (surveys.inventoried state answering).scan? reading
      cases listed : field state with
      | none =>
          rw [listed] at found
          rw [heard, List.filterMap_cons_none found, later, sighted, listed]
          rfl
      | some epcs =>
          rw [listed] at found
          rw [heard, List.filterMap_cons_some found, sighted, listed, ← later]
          rfl

theorem heard_concat (state : σ) (readings : List Reading) (reading : Reading) :
    heard device address state (readings ++ [reading]) =
      heard device address state readings ++
        [reading.call (.ok (classifyInventoryResponse (readFrame (device.respond
          (device.hear state (List.replicate readings.length (buildInventoryCommand address)))
          (buildInventoryCommand address)).1)))] := by
  induction readings generalizing state with
  | nil => rfl
  | cons earlier rest ih =>
      have later := ih (device.respond state (buildInventoryCommand address)).2
      exact congrArg (_ :: ·) later

/-- With any device the scans are those of the calls that its answers make. -/
theorem scanTalk_heard (reader : IDT85Reader) (readerId : Option Str) (state : σ)
    (readings : List Reading) (presence : PresenceState) (healthState : Option HealthState) :
    let commands := List.replicate readings.length (buildInventoryCommand reader.address)
    (device.through readFrame).converse state
        (reader.scanTalk readerId readings presence healthState) =
      ((runInventory readerId (heard device reader.address state readings) presence
        healthState).1, commands, device.hear state commands) := by
  induction readings generalizing state presence healthState with
  | nil => rfl
  | cons reading rest ih =>
      let answered := device.respond state (buildInventoryCommand reader.address)
      let result := classifyInventoryResponse (readFrame answered.1)
      let read := readInventoryEvents (reading.call (.ok result)) presence healthState readerId
      have begun : (device.through readFrame).converse state
          (reader.readInventoryTalk readerId reading presence healthState) =
            (read, [buildInventoryCommand reader.address], answered.2) := rfl
      have later := ih answered.2 read.state read.healthState
      refine Party.converse_then begun ?_
      rw [Party.converse_bind, later]
      simp only [Party.converse, List.append_nil]
      rfl

theorem heard_ready (readerId : Option Str) (state : σ) (readings : List Reading)
    (presence : PresenceState) (healthState : Option HealthState) :
    ∀ read ∈ (runInventory readerId (heard device address state readings) presence healthState).1,
      read.readerState = .READY := by
  induction readings generalizing state presence healthState with
  | nil => simp [heard, runInventory]
  | cons reading rest ih =>
      intro read member
      cases member with
      | head =>
          simp only [readInventoryEvents, Reading.call]
          split <;> rfl
      | tail _ later => exact ih _ _ _ read later

end Fields

/-- A connection in Answer Mode, or set to it. -/
theorem Commissioned.ready {reader : IDT85Reader} {autoConfigureReader : Bool}
    {asked commands : List Bytes} {mode final : UInt8} {result : ReaderState × Str}
    (commissioned : Commissioned reader autoConfigureReader asked mode result commands final)
    (usable : mode = ANSWER_MODE ∨ autoConfigureReader = true) :
    result = readerReady ∧ final = ANSWER_MODE := by
  by_cases answering : mode = ANSWER_MODE
  · obtain ⟨ready, -, reached⟩ := commissioned.answering answering
    exact ⟨ready, reached⟩
  · obtain ⟨ready, -, reached⟩ :=
      commissioned.configured answering (usable.resolve_left answering)
    exact ⟨ready, reached⟩

/-- The connection with a device that gives the answers to it. -/
theorem Conforms.greeted {σ : Type} {env : LineEnv} {reader : IDT85Reader}
    {device : Party σ Bytes Bytes} {mode : σ → UInt8}
    (conforms : Conforms device reader.address mode)
    (supported : reader.verifyMethod ∈ SUPPORTED_VERIFY_METHODS) {autoConfigureReader : Bool}
    {state : σ} {first : Nat} :
    let greeting := (reader.handshake autoConfigureReader).converse (IDT85Reader.answers env) first
    device.Gives env.deliver state first greeting.2 →
      mode state = ANSWER_MODE ∨ autoConfigureReader = true →
      greeting.1 = readerReady ∧ mode (device.hear state greeting.2) = ANSWER_MODE := by
  intro greeting gives usable
  have greeted := (gives.through readFrame).converse
  have commissioned := conforms.handshake state supported autoConfigureReader
  rw [greeted] at commissioned
  exact commissioned.ready usable

/-- The agent is connected to the device, has asked for an inventory at each reading, and
has reported of every tag what the tags in the field call for. -/
structure Followed {σ : Type} (device : Party σ Bytes Bytes) (reader : IDT85Reader)
    (field : σ → Option (List Bytes)) (exitTimeout : PyFloat) (readings : List Reading)
    (state : σ) (commands : List Bytes) (result : ReaderState × Str)
    (reads : List InventoryRead) : Prop where
  connected : result = readerReady
  ready : ∀ read ∈ reads, read.readerState = .READY
  events : ∃ greeting,
    commands = greeting ++
      List.replicate readings.length (buildInventoryCommand reader.address) ∧
    ∀ epc, eventsOf epc (emitted reads) =
      (Presence.follow exitTimeout (sighted device reader.address field epc
        (device.hear state greeting) readings)).1

/-- `commands` are those of the run, and a device that surveys its field has answered them. -/
theorem connectAndScan_follows_field {σ : Type} {env : LineEnv} {reader : IDT85Reader}
    {device : Party σ Bytes Bytes} {mode : σ → UInt8} {field : σ → Option (List Bytes)}
    (quiet : ∀ tick, env.fault tick = none)
    (supported : reader.verifyMethod ∈ SUPPORTED_VERIFY_METHODS)
    (surveys : Surveys device reader.address mode field) {readerId : Str}
    (clean : nul ∉ readerId) {exitTimeout : PyFloat} (positive : exitTimeout.isPositive = true)
    (autoConfigureReader : Bool) (readings : List Reading) (healthState : Option HealthState)
    (state : σ) (first : Line) :
    ∃ result reads last commands,
      reader.connectAndScan env (some readerId) autoConfigureReader readings (new exitTimeout)
        healthState first = .ok (result, reads) last ∧
      written last.log = commands.reverse ++ written first.log ∧
      (device.Gives env.deliver state first.writes commands →
        mode state = ANSWER_MODE ∨ autoConfigureReader = true →
        Followed device reader field exitTimeout readings state commands result reads ∧
          last.serialOf reader.object = some first.nextHandle) := by
  let greeting := (reader.handshake autoConfigureReader).converse (IDT85Reader.answers env)
    first.writes
  let talk := reader.scanTalk (some readerId) readings (new exitTimeout) healthState
  let scans := if greeting.1.1 = .READY
    then talk.converse (IDT85Reader.answers env) (first.writes + greeting.2.length) else ([], [])
  obtain ⟨last, ran, spoken⟩ : ∃ last,
      reader.connectAndScan env (some readerId) autoConfigureReader readings (new exitTimeout)
        healthState first = .ok (greeting.1, scans.1) last ∧
      IDT85Reader.Spoken reader.object first (greeting.2 ++ scans.2)
        (if greeting.1.1 = .READY then some first.nextHandle else none) last :=
    IDT85Reader.connectAndScan_converses quiet autoConfigureReader readings _ healthState first
  refine ⟨_, _, last, _, ran, spoken.written, fun gives usable => ?_⟩
  obtain ⟨begun, ended⟩ := gives.append
  obtain ⟨connected, answering⟩ : greeting.1 = readerReady ∧
      mode (device.hear state greeting.2) = ANSWER_MODE :=
    surveys.conforms.greeted supported begun usable
  have ready : greeting.1.1 = .READY := congrArg Prod.fst connected
  have scanned : scans = talk.converse (IDT85Reader.answers env)
      (first.writes + greeting.2.length) := if_pos ready
  rw [scanned] at ended
  let calls := heard device reader.address (device.hear state greeting.2) readings
  have asked : scans = ((runInventory (some readerId) calls (new exitTimeout) healthState).1,
      List.replicate readings.length (buildInventoryCommand reader.address)) := by
    have talked := (ended.through readFrame).converse.symm.trans
      (scanTalk_heard reader (some readerId) _ readings (new exitTimeout) healthState)
    rw [scanned]
    simp only [Prod.mk.injEq] at talked
    exact Prod.ext talked.1 talked.2.1
  rw [asked]
  refine ⟨⟨connected, heard_ready _ _ _ _ _, greeting.2, rfl, fun epc => ?_⟩,
    spoken.held.trans (if_pos ready)⟩
  have reported := congrArg Prod.fst
    (runInventory_refines (some readerId) calls (new exitTimeout) healthState)
  dsimp only at reported
  have patient := PyFloat.not_reachedBy_zero positive
  rw [reported, (runUpdates_refines clean patient _ epc).1,
    surveys.sightsOf_heard epc answering readings]

/-- The device in Answer Mode, with one tag in its field at the first inventory, an answer
that the line loses at the second, and nothing from the third on. -/
def fieldDevice : Party (UInt8 × Nat) Bytes Bytes where
  respond := fun state command =>
    if command = buildInventoryCommand 0x00 then
      (match state.2 with
        | 0 => makeCommand 0x00 INVENTORY_COMMAND [0x01, 0x01, 0x02, 0xE2, 0x80]
          (by decide : 1 + 1 + 5 + 2 < 256)
        | 1 => []
        | _ => makeCommand 0x00 INVENTORY_COMMAND [0xFB] (by decide : 1 + 1 + 1 + 2 < 256),
        (state.1, state.2 + 1))
    else
      let (answer, mode) := sampleDevice.respond state.1 command
      (answer, (mode, state.2))

def fieldTags (state : UInt8 × Nat) : Option (List Bytes) :=
  match state.2 with
  | 0 => some [[0xE2, 0x80]]
  | 1 => none
  | _ => some []

theorem fieldDevice_surveys : Surveys fieldDevice 0x00 Prod.fst fieldTags := by
  have questions : buildGetReaderInfoCommand ≠ buildInventoryCommand 0x00 ∧
      buildGetWorkModeCommand 0x00 ≠ buildInventoryCommand 0x00 ∧
      buildSetAnswerModeCommand 0x00 ≠ buildInventoryCommand 0x00 := by decide +kernel
  obtain ⟨info, workMode, answerMode⟩ := questions
  have others {command : Bytes} (other : command ≠ buildInventoryCommand 0x00)
      (state : UInt8 × Nat) :
      (fieldDevice.respond state command).1 = (sampleDevice.respond state.1 command).1 ∧
        (fieldDevice.respond state command).2.1 = (sampleDevice.respond state.1 command).2 := by
    simp only [fieldDevice, if_neg other, and_self]
  refine ⟨?_, ?_, ?_⟩
  · constructor <;> intro state
    · rw [(others info state).1]
      exact sampleDevice_conforms.identifies state.1
    · rw [(others info state).2]
      exact sampleDevice_conforms.unchanged state.1
    · rw [(others workMode state).1]
      exact sampleDevice_conforms.reports state.1
    · rw [(others workMode state).2]
      exact sampleDevice_conforms.kept state.1
    · rw [(others answerMode state).1]
      exact sampleDevice_conforms.confirms state.1
    · rw [(others answerMode state).2]
      exact sampleDevice_conforms.changed state.1
  · intro state _
    obtain ⟨mode, count⟩ := state
    simp only [fieldDevice, if_true]
    rcases count with _ | _ | count
    · exact Inventories.tags ⟨0x00, 0x01, [[0xE2, 0x80]], by decide, by decide⟩ []
    · exact .cut .lost
    · exact Inventories.noTags 0x00 []
  · intro state answering
    simp only [fieldDevice, if_true]
    exact answering

def fieldAnswers : LineEnv where
  fault := fun _ => none
  deliver := fun writes =>
    [(sampleDevice.respond ANSWER_MODE buildGetReaderInfoCommand).1,
      (sampleDevice.respond ANSWER_MODE (buildGetWorkModeCommand 0x00)).1,
      (fieldDevice.respond (ANSWER_MODE, 0) (buildInventoryCommand 0x00)).1, [],
      (fieldDevice.respond (ANSWER_MODE, 2) (buildInventoryCommand 0x00)).1].getD writes []

def fieldReadings : List Reading :=
  [0, 5, 6].map fun now => ⟨now, 0, ⟨fun _ => [], fun _ => 0⟩⟩

/-- A timeout of 2 is over when the answer is lost at 5; the EXIT waits for the scan at 6
that misses the tag. -/
theorem connectAndScan_follows_field_lost :
    ∃ reads last,
      sampleReader.connectAndScan fieldAnswers (some "R".toList) false fieldReadings
        (new (.finite 2)) none Line.idle = .ok (readerReady, reads) last ∧
      eventsOf "E280".toList (emitted reads) = [.ENTER, .EXIT] := by
  have quiet : ∀ tick, fieldAnswers.fault tick = none := fun _ => rfl
  obtain ⟨result, reads, last, commands, ran, wrote, follows⟩ :=
    connectAndScan_follows_field quiet (by decide : sampleReader.verifyMethod ∈ _)
      fieldDevice_surveys (by decide : nul ∉ "R".toList)
      (by decide +kernel : (PyFloat.finite 2).isPositive = true) false fieldReadings none
      (ANSWER_MODE, 0) Line.idle
  have asked : written (after (sampleReader.connectAndScan fieldAnswers (some "R".toList) false
      fieldReadings (new (.finite 2)) none) Line.idle).log =
        List.replicate 3 (buildInventoryCommand 0x00) ++
          [buildGetWorkModeCommand 0x00, buildGetReaderInfoCommand] := by decide +kernel
  rw [after, ran] at asked
  have commandsAre : commands = [buildGetReaderInfoCommand, buildGetWorkModeCommand 0x00] ++
      List.replicate 3 (buildInventoryCommand 0x00) := by
    rw [← List.reverse_reverse commands, ← List.append_nil commands.reverse]
    exact congrArg List.reverse (wrote.symm.trans asked)
  have gives : fieldDevice.Gives fieldAnswers.deliver (ANSWER_MODE, 0) 0 commands := by
    rw [commandsAre]
    exact ⟨by decide +kernel, by decide +kernel, by decide +kernel, by decide +kernel,
      by decide +kernel, trivial⟩
  obtain ⟨⟨rfl, -, greeting, whole, events⟩, -⟩ := follows gives (.inl rfl)
  have greetingIs : greeting = [buildGetReaderInfoCommand, buildGetWorkModeCommand 0x00] :=
    (List.append_cancel_right (commandsAre.symm.trans whole)).symm
  have followed := events "E280".toList
  rw [greetingIs] at followed
  exact ⟨reads, last, ran, followed.trans (by decide +kernel)⟩

end MvdEdge
