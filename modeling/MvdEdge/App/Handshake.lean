import MvdEdge.App.Connect
import MvdEdge.Lib.Dialogue

/-! The conversation that `connect_and_verify_reader` has with the reader on the line,
and what comes of it with a reader that answers as it should. -/

set_option autoImplicit false

namespace MvdEdge

open Lib Lib.Effect

/-- A conversation of commands and responses. -/
abbrev Talk (α : Type) := Dialogue Bytes Bytes α

def written (log : List LineEvent) : List Bytes :=
  log.filterMap fun event =>
    match event with
    | .wrote _ _ command => some command
    | _ => none

/-- What the conversation is about: the handle, the number of commands and the
commands. -/
def Line.talked (object : Nat) (line : Line) : Option Nat × Nat × List Bytes :=
  (line.serialOf object, line.writes, written line.log)

namespace IDT85Reader

section Talks

variable (reader : IDT85Reader)

def workModeTalk : Talk (Option UInt8) :=
  .ask (buildGetWorkModeCommand reader.address) fun response =>
    .done (parseWorkModeResponse response)

def verifyByWorkModeTalk : Talk Bool :=
  .ask (buildGetWorkModeCommand reader.address) fun response =>
    .done (isValidCommandResponse response GET_WORK_MODE_COMMAND)

def verifyTalk : Talk Bool :=
  if reader.verifyMethod = VERIFY_WORK_MODE then reader.verifyByWorkModeTalk
  else .ask buildGetReaderInfoCommand fun response =>
    if isValidCommandResponse response GET_READER_INFO_COMMAND then .done true
    else if reader.verifyMethod = VERIFY_READER_INFO then .done false
    else reader.verifyByWorkModeTalk

def setAnswerModeTalk : Talk Bool :=
  .ask (buildSetAnswerModeCommand reader.address) fun response =>
    .done (isValidCommandResponse response SET_WORK_MODE_COMMAND)

def configureTalk : Talk (ReaderState × Str) :=
  reader.setAnswerModeTalk.bind fun configured =>
    if configured = false then
      .done (.CONFIG_ERROR, "Unable to set reader work mode to ANSWER".toList)
    else reader.workModeTalk.bind fun verifiedMode =>
      if verifiedMode ≠ some ANSWER_MODE then
        .done (.CONFIG_ERROR, "Reader Work Mode after configuration: ".toList ++
          formatWorkMode verifiedMode ++ "; Required: ANSWER".toList)
      else .done readerReady

def checkTalk (autoConfigureReader : Bool) : Talk (ReaderState × Str) :=
  reader.workModeTalk.bind fun workMode =>
    if workMode = some ANSWER_MODE then .done readerReady
    else if autoConfigureReader = false then
      .done (.CONFIG_ERROR, "Reader Work Mode: ".toList ++ formatWorkMode workMode ++
        "; Required: ANSWER".toList)
    else reader.configureTalk

def unsupportedMethod : Str :=
  "Unsupported reader verify method: ".toList ++ reader.verifyMethod

/-- The whole conversation, with its outcome. -/
def handshake (autoConfigureReader : Bool) : Talk (ReaderState × Str) :=
  if reader.verifyMethod ∉ SUPPORTED_VERIFY_METHODS then
    .done (.DISCONNECTED, reader.unsupportedMethod)
  else reader.verifyTalk.bind fun verified =>
    if verified = false then
      .done (.CONFIG_ERROR, "Reader communication failed verification".toList)
    else reader.checkTalk autoConfigureReader

end Talks

/-! ## On the line -/

/-- What the agent makes of the bytes that arrive after each command. -/
def answers (env : LineEnv) (writes : Nat) : Bytes := readFrame (env.deliver writes)

/-- Commands were written since, and the port is `held`. -/
structure Spoken (object : Nat) (first : Line) (commands : List Bytes) (held : Option Nat)
    (last : Line) : Prop where
  held : last.serialOf object = held
  writes : last.writes = first.writes + commands.length
  written : written last.log = commands.reverse ++ written first.log

/-- With its port open, `program` has the conversation `talk`, and leaves the port open as
`stays` tells of the outcome. -/
def Converses {α : Type} (env : LineEnv) (reader : IDT85Reader) (stays : α → Bool)
    (program : Serial α) (talk : Talk α) : Prop :=
  ∀ first handle, first.serialOf reader.object = some handle →
    Triple (· = first) program
      (fun value last => value = (talk.converse (answers env) first.writes).1 ∧
        Spoken reader.object first (talk.converse (answers env) first.writes).2
          (bif stays value then some handle else none) last)
      (fun _ _ => False)

section Conversing

variable {env : LineEnv} {reader : IDT85Reader} {α β : Type}

theorem Spoken.trans {object : Nat} {held between : Option Nat} {first middle last : Line}
    {earlier later : List Bytes} (left : Spoken object first earlier between middle)
    (right : Spoken object middle later held last) :
    Spoken object first (earlier ++ later) held last where
  held := right.held
  writes := by rw [right.writes, left.writes, List.length_append, Nat.add_assoc]
  written := by
    rw [right.written, left.written, List.reverse_append, List.append_assoc]

theorem Converses.pure {stays : α → Bool} {value : α} (open_ : stays value = true) :
    Converses env reader stays (Pure.pure value : Serial α) (.done value) := by
  intro first handle isOpen
  refine Triple.pure fun last same => ?_
  subst same
  rw [open_]
  exact ⟨rfl, isOpen, rfl, rfl⟩

theorem Converses.bind {stays : β → Bool} {program : Serial α} {talk : Talk α}
    {next : α → Serial β} {rest : α → Talk β}
    (begun : Converses env reader (fun _ => true) program talk)
    (ended : ∀ value, Converses env reader stays (next value) (rest value)) :
    Converses env reader stays (program >>= next) (talk.bind rest) := by
  intro first handle isOpen
  refine Triple.bind (begun first handle isOpen) fun value => ?_
  intro middle both
  obtain ⟨rfl, spoken⟩ := both
  have later := ended (talk.converse (answers env) first.writes).1 middle handle spoken.held
    middle rfl
  refine later.imp (fun result last outcome => ?_) fun _ _ impossible => impossible
  rw [Dialogue.converse_bind]
  rw [spoken.writes] at outcome
  exact ⟨outcome.1, spoken.trans outcome.2⟩

theorem pyserial_talked {act : Line → α × Line} {object : Nat}
    (same : ∀ line, Line.talked object (act line).2 = Line.talked object line) :
    Leaves (Line.talked object) (pyserial env act) := Leaves.operation (fun _ => same) fun _ => rfl

theorem receive_talked (object handle : Nat) :
    Leaves (Line.talked object) (receive env handle) := by
  refine Leaves.bind (pyserial_talked fun _ => rfl) fun first => ?_
  cases first with
  | nil => exact Leaves.pure _
  | cons remainingLength rest =>
      exact Leaves.bind (pyserial_talked fun _ => rfl) fun _ => Leaves.pure _

theorem sendCommand_talked (command : Bytes) {first : Line} {handle : Nat}
    (isOpen : first.serialOf reader.object = some handle) :
    Triple (· = first) (sendCommand env reader command)
      (fun _ last => Spoken reader.object first [command] (some handle) last)
      (fun _ _ => True) := by
  have kept {γ : Type} {program : Serial γ} (leaves : Leaves (Line.talked reader.object) program)
      (shown : Option Nat × Nat × List Bytes) :
      Triple (fun line => line.talked reader.object = shown) program
        (fun _ line => line.talked reader.object = shown) (fun _ _ => True) :=
    (leaves shown).raising fun _ _ _ => trivial
  refine Triple.get fun line => ?_
  intro current both
  obtain ⟨rfl, rfl⟩ := both
  rw [isOpen]
  have wrote : Triple (fun line => line.talked reader.object = current.talked reader.object)
      (write env reader handle command) (fun _ line => line.talked reader.object =
        (some handle, current.writes + 1, command :: written current.log))
      (fun _ _ => True) := by
    refine Triple.through (fun _ line => line.talked reader.object =
        (some handle, current.writes, command :: written current.log))
      (Triple.modify fun line same => ?_) fun _ => pyserial_triple env
        (fun _ _ _ _ => trivial) fun line same => ?_
    · simp only [Line.talked, isOpen, Prod.mk.injEq] at same ⊢
      exact ⟨same.1, same.2.1, congrArg (command :: ·) same.2.2⟩
    · simp only [Line.talked, Prod.mk.injEq] at same ⊢
      exact ⟨same.1, congrArg (· + 1) same.2.1, same.2.2⟩
  have recorded (response : Bytes) : Leaves (Line.talked reader.object)
      (record (.answered handle command response)) := Leaves.update fun _ => rfl
  refine (Triple.bind (kept (pyserial_talked fun _ => rfl) _) fun _ => Triple.bind wrote fun _ =>
    Triple.bind (kept (pyserial_talked fun _ => rfl) _) fun _ =>
    Triple.bind (kept (Leaves.operation (fun _ _ => rfl) fun _ => rfl) _) fun _ =>
    Triple.bind (kept (receive_talked reader.object handle) _) fun response =>
    Triple.bind (kept (recorded response) _) fun _ => Triple.pure fun line talked => ?_ :
    Triple (fun line => line.talked reader.object = current.talked reader.object) _ _ _)
    current rfl
  simp only [Line.talked, Prod.mk.injEq] at talked
  exact ⟨talked.1, talked.2.1, talked.2.2⟩

theorem noted_converses {event : Nat → LineEvent} (value : α) (unwritten : ∀ handle log,
    written (event handle :: log) = written log) :
    Converses env reader (fun _ => true) (do
      note reader event
      return value) (.done value) := by
  intro first handle isOpen
  have noted : Triple (· = first) (note reader event)
      (fun _ last => Spoken reader.object first [] (some handle) last) (fun _ _ => False) := by
    refine Triple.get fun line => ?_
    intro current both
    obtain ⟨rfl, rfl⟩ := both
    rw [isOpen]
    exact ⟨isOpen, rfl, unwritten _ _⟩
  exact Triple.bind noted fun _ => Triple.pure fun _ spoken => ⟨rfl, spoken⟩

variable (quiet : ∀ tick, env.fault tick = none)

include quiet

theorem sendCommand_converses (command : Bytes) :
    Converses env reader (fun _ => true) (sendCommand env reader command)
      (.ask command .done) := by
  intro first handle isOpen
  have silent : ∀ tick failure, env.fault tick = some failure → ∀ _ : Line, False := by
    intro tick failure stored
    simp [quiet tick] at stored
  have asked := (sendCommand_triple env silent reader command handle first.writes).both
    (sendCommand_talked command isOpen)
  exact asked.conseq (fun _ same => ⟨⟨same ▸ isOpen, same ▸ rfl⟩, same⟩)
    (fun _ _ outcome => outcome) fun _ _ impossible => impossible.1

theorem getWorkMode_converses :
    Converses env reader (fun _ => true) (getWorkMode env reader) reader.workModeTalk :=
  Converses.bind (sendCommand_converses quiet _) fun _ => noted_converses _ fun _ _ => rfl

theorem setAnswerMode_converses :
    Converses env reader (fun _ => true) (setAnswerMode env reader) reader.setAnswerModeTalk :=
  Converses.bind (sendCommand_converses quiet _) fun _ => .pure rfl

theorem verifyByWorkMode_converses :
    Converses env reader (fun _ => true) (verifyByWorkMode env reader)
      reader.verifyByWorkModeTalk :=
  Converses.bind (sendCommand_converses quiet _) fun _ => .pure rfl

theorem verifyReader_converses (supported : reader.verifyMethod ∈ SUPPORTED_VERIFY_METHODS) :
    Converses env reader (fun _ => true) (verifyReader env reader) reader.verifyTalk := by
  have verified : Converses env reader (fun _ => true) (verify env reader) reader.verifyTalk := by
    unfold verify verifyTalk
    rw [if_neg (not_not.mpr supported)]
    split
    · exact verifyByWorkMode_converses quiet
    · have judged (response : Bytes) : Converses env reader (fun _ => true)
          (if isValidCommandResponse response GET_READER_INFO_COMMAND then return true
            else if reader.verifyMethod = VERIFY_READER_INFO then return false
            else verifyByWorkMode env reader)
          (if isValidCommandResponse response GET_READER_INFO_COMMAND then .done true
            else if reader.verifyMethod = VERIFY_READER_INFO then .done false
            else reader.verifyByWorkModeTalk) := by
        split
        · exact .pure rfl
        · split
          · exact .pure rfl
          · exact verifyByWorkMode_converses quiet
      exact Converses.bind (sendCommand_converses quiet _) judged
  rw [← Dialogue.bind_done reader.verifyTalk]
  exact verified.bind fun answer => noted_converses answer fun _ _ => rfl

/-! ## The whole conversation -/

def staysOpen (result : ReaderState × Str) : Bool := result.1 == .READY

theorem close_closed (first : Line) (commands : List Bytes) (handle : Nat) :
    Triple (Spoken reader.object first commands (some handle)) (close env reader)
      (fun _ => Spoken reader.object first commands none) (fun _ _ => False) := by
  refine Triple.get fun line => ?_
  intro current both
  obtain ⟨rfl, spoken⟩ := both
  rw [spoken.held]
  refine (Triple.operation_of_fault (fun line same => ?_)
    (fun failure line stored _ _ => ?_) : Triple (· = current) _ _ _) current rfl
  · subst same
    exact ⟨if_pos rfl, spoken.writes, spoken.written⟩
  · simp [quiet] at stored

theorem refuseReader_converses (message : Str) :
    Converses env reader staysOpen (refuseReader env reader message)
      (.done (.CONFIG_ERROR, message)) := by
  intro first handle isOpen
  have closed : Triple (· = first) (close env reader)
      (fun _ => Spoken reader.object first [] none) (fun _ _ => False) := by
    refine (close_closed quiet first [] handle).before fun line same => ?_
    subst same
    exact ⟨isOpen, rfl, rfl⟩
  exact Triple.bind closed fun _ => Triple.pure fun _ spoken => ⟨rfl, spoken⟩

theorem configureReader_converses :
    Converses env reader staysOpen (configureReader env reader) reader.configureTalk := by
  refine Converses.bind (setAnswerMode_converses quiet) fun configured => ?_
  split
  · exact refuseReader_converses quiet _
  · refine Converses.bind (getWorkMode_converses quiet) fun verifiedMode => ?_
    split
    · exact refuseReader_converses quiet _
    · exact .pure rfl

theorem checkWorkMode_converses (autoConfigureReader : Bool) :
    Converses env reader staysOpen (checkWorkMode env reader autoConfigureReader)
      (reader.checkTalk autoConfigureReader) := by
  refine Converses.bind (getWorkMode_converses quiet) fun workMode => ?_
  split
  · exact .pure rfl
  · split
    · exact refuseReader_converses quiet _
    · exact configureReader_converses quiet

theorem open_opened (first : Line) :
    Triple (· = first) («open» env reader)
      (fun _ last => Spoken reader.object first [] (some first.nextHandle) last)
      (fun _ _ => False) := by
  refine pyserial_triple env (fun tick _ stored _ => ?_) fun line same => ?_
  · simp [quiet tick] at stored
  · subst same
    exact ⟨if_pos rfl, rfl, rfl⟩

theorem connectReader_handshake (supported : reader.verifyMethod ∈ SUPPORTED_VERIFY_METHODS)
    (autoConfigureReader : Bool) (first : Line) :
    let talk := (reader.handshake autoConfigureReader).converse (answers env) first.writes
    Triple (· = first) (connectReader env reader autoConfigureReader)
      (fun result last => result = talk.1 ∧ Spoken reader.object first talk.2
        (bif staysOpen result then some first.nextHandle else none) last)
      (fun _ _ => False) := by
  intro talk
  have talked : Converses env reader staysOpen (do
      let verified ← reader.verifyReader env
      if verified = false then
        refuseReader env reader "Reader communication failed verification".toList
      else checkWorkMode env reader autoConfigureReader)
      (reader.handshake autoConfigureReader) := by
    unfold handshake
    rw [if_neg (not_not.mpr supported)]
    refine Converses.bind (verifyReader_converses quiet supported) fun verified => ?_
    split
    · exact refuseReader_converses quiet _
    · exact checkWorkMode_converses quiet autoConfigureReader
  refine Triple.bind (open_opened quiet first) fun _ => ?_
  intro opened spoken
  have later := talked opened first.nextHandle spoken.held opened rfl
  refine later.imp (fun result last outcome => ?_) fun _ _ impossible => impossible
  have writes : opened.writes = first.writes := spoken.writes
  rw [writes] at outcome
  exact ⟨outcome.1, spoken.trans outcome.2⟩

theorem connectReader_unsupported (unsupported : reader.verifyMethod ∉ SUPPORTED_VERIFY_METHODS)
    (autoConfigureReader : Bool) (first : Line) :
    Triple (· = first) (connectReader env reader autoConfigureReader) (fun _ _ => False)
      (fun failure last => failure = .exception (unsupportedMethod reader) ∧
        Spoken reader.object first [] (some first.nextHandle) last) := by
  have refused : Triple (Spoken reader.object first [] (some first.nextHandle))
      (verifyReader env reader) (fun _ _ => False)
      (fun failure last => failure = .exception (unsupportedMethod reader) ∧
        Spoken reader.object first [] (some first.nextHandle) last) := by
    unfold verifyReader verify
    rw [if_pos unsupported]
    exact Triple.bind (Triple.throw fun _ spoken => ⟨rfl, spoken⟩ :
      Triple _ _ (fun _ _ => False) _) fun _ _ impossible => False.elim impossible
  exact Triple.bind ((open_opened quiet first).raising fun _ _ impossible =>
    False.elim impossible) fun _ => Triple.bind refused fun _ _ impossible =>
      False.elim impossible

theorem connectAndVerifyReader_supported
    (supported : reader.verifyMethod ∈ SUPPORTED_VERIFY_METHODS) (autoConfigureReader : Bool)
    (first : Line) :
    let talk := (reader.handshake autoConfigureReader).converse (answers env) first.writes
    Triple (· = first) (connectAndVerifyReader env reader autoConfigureReader)
      (fun result last => result = talk.1 ∧ Spoken reader.object first talk.2
        (bif staysOpen result then some first.nextHandle else none) last) (fun _ _ => False) := by
  intro talk
  have spokenTo : Triple (· = first) (attempt Exn.caught
      (connectReader env reader autoConfigureReader))
      (fun outcome last => outcome = .ok talk.1 ∧ Spoken reader.object first talk.2
        (bif staysOpen talk.1 then some first.nextHandle else none) last)
      (fun _ _ => False) := by
    refine Triple.attempt ((connectReader_handshake quiet supported autoConfigureReader
      first).returning fun result last both => ?_)
      (fun _ _ _ _ impossible => False.elim impossible) fun _ _ _ impossible => impossible
    exact ⟨congrArg Except.ok both.1, both.1 ▸ both.2⟩
  refine Triple.bind spokenTo fun outcome => ?_
  intro line both
  obtain ⟨rfl, spoken⟩ := both
  exact ⟨rfl, spoken⟩

theorem connectAndVerifyReader_unsupported
    (unsupported : reader.verifyMethod ∉ SUPPORTED_VERIFY_METHODS) (autoConfigureReader : Bool)
    (first : Line) :
    Triple (· = first) (connectAndVerifyReader env reader autoConfigureReader)
      (fun result last => result = (.DISCONNECTED, unsupportedMethod reader) ∧
        Spoken reader.object first [] none last) (fun _ _ => False) := by
  have refused : Triple (· = first) (attempt Exn.caught
      (connectReader env reader autoConfigureReader))
      (fun outcome last => outcome = .error (unsupportedMethod reader) ∧
        Spoken reader.object first [] (some first.nextHandle) last) (fun _ _ => False) := by
    refine Triple.attempt ((connectReader_unsupported quiet unsupported autoConfigureReader
      first).returning fun _ _ impossible => False.elim impossible) ?_ ?_
    · intro failure reason line caught both
      obtain ⟨rfl, spoken⟩ := both
      exact ⟨congrArg Except.error (Option.some.inj caught).symm, spoken⟩
    · intro failure line uncaught both
      obtain ⟨rfl, -⟩ := both
      exact nomatch uncaught
  refine Triple.bind refused fun outcome => ?_
  intro line both
  obtain ⟨rfl, spoken⟩ := both
  have closing : Triple (Spoken reader.object first [] (some first.nextHandle)) (do
      close env reader
      return (ReaderState.DISCONNECTED, unsupportedMethod reader))
      (fun result last => result = (.DISCONNECTED, unsupportedMethod reader) ∧
        Spoken reader.object first [] none last) (fun _ _ => False) :=
    Triple.bind (close_closed quiet first [] first.nextHandle) fun _ =>
      Triple.pure fun _ shut => ⟨rfl, shut⟩
  exact closing line spoken

/-- An exchange without failures is the conversation, whatever the reader answers. -/
theorem connectAndVerifyReader_handshake (autoConfigureReader : Bool) (first : Line) :
    let talk := (reader.handshake autoConfigureReader).converse (answers env) first.writes
    ∃ last, connectAndVerifyReader env reader autoConfigureReader first = .ok talk.1 last ∧
      Spoken reader.object first talk.2
        (bif staysOpen talk.1 then some first.nextHandle else none) last := by
  intro talk
  by_cases supported : reader.verifyMethod ∈ SUPPORTED_VERIFY_METHODS
  · obtain ⟨result, last, ran, rfl, spoken⟩ :=
      (connectAndVerifyReader_supported quiet supported autoConfigureReader first).returns rfl
    exact ⟨last, ran, spoken⟩
  · obtain ⟨result, last, ran, rfl, spoken⟩ :=
      (connectAndVerifyReader_unsupported quiet supported autoConfigureReader first).returns rfl
    have refused : talk = ((.DISCONNECTED, unsupportedMethod reader), []) := by
      simp only [talk, handshake, if_pos supported, Dialogue.converse_done]
    rw [refused]
    exact ⟨last, ran, spoken⟩

end Conversing

end IDT85Reader

/-! ## With a reader that answers as it should -/

/-- The first command of the verification. -/
def IDT85Reader.verification (reader : IDT85Reader) : Bytes :=
  if reader.verifyMethod = VERIFY_WORK_MODE then buildGetWorkModeCommand reader.address
  else buildGetReaderInfoCommand

/-- `answer` starts with a response frame of `command` that carries `content`. -/
def Frames (command : UInt8) (content answer : Bytes) : Prop :=
  ∃ address status data fits noise,
    answer = makeCommand address command (status :: content ++ data) fits ++ noise

/-- A reader answers each command with a response frame of it, reports its work mode, and
changes it on request only. -/
structure Conforms {σ : Type} (device : Party σ Bytes Bytes) (address : UInt8)
    (mode : σ → UInt8) : Prop where
  identifies : ∀ state, Frames GET_READER_INFO_COMMAND []
    (device.respond state buildGetReaderInfoCommand).1
  unchanged : ∀ state, mode (device.respond state buildGetReaderInfoCommand).2 = mode state
  reports : ∀ state, Frames GET_WORK_MODE_COMMAND [mode state]
    (device.respond state (buildGetWorkModeCommand address)).1
  kept : ∀ state, mode (device.respond state (buildGetWorkModeCommand address)).2 = mode state
  confirms : ∀ state, Frames SET_WORK_MODE_COMMAND []
    (device.respond state (buildSetAnswerModeCommand address)).1
  changed : ∀ state,
    mode (device.respond state (buildSetAnswerModeCommand address)).2 = ANSWER_MODE

/-- What comes of a connection with a reader in work mode `mode`, after `asked`. -/
structure Commissioned (reader : IDT85Reader) (autoConfigureReader : Bool) (asked : List Bytes)
    (mode : UInt8) (result : ReaderState × Str) (commands : List Bytes) (final : UInt8) : Prop where
  answering : mode = ANSWER_MODE → result = readerReady ∧
    commands = asked ++ [buildGetWorkModeCommand reader.address] ∧ final = ANSWER_MODE
  configured : mode ≠ ANSWER_MODE → autoConfigureReader = true → result = readerReady ∧
    commands = asked ++ [buildGetWorkModeCommand reader.address,
      buildSetAnswerModeCommand reader.address, buildGetWorkModeCommand reader.address] ∧
    final = ANSWER_MODE
  refused : mode ≠ ANSWER_MODE → autoConfigureReader = false →
    result = (.CONFIG_ERROR, "Reader Work Mode: ".toList ++ formatWorkMode (some mode) ++
      "; Required: ANSWER".toList) ∧
    commands = asked ++ [buildGetWorkModeCommand reader.address] ∧ final = mode

section Conforming

theorem readFrame_append {size : UInt8} {bytes : Bytes} (announced : size.toNat = bytes.length)
    (noise : Bytes) : readFrame (size :: bytes ++ noise) = size :: bytes := by
  rw [List.cons_append, readFrame, announced, List.take_left]

theorem readFrame_makeCommand (address command : UInt8) (params noise : Bytes)
    (fits : 1 + 1 + params.length + 2 < 256) :
    readFrame (makeCommand address command params fits ++ noise) =
      makeCommand address command params fits := by
  have length (body : Bytes) : 1 + 1 + params.length + 2 =
      ([address, command] ++ params ++ crcTrailer body).length := by
    simp only [crcTrailer, List.length_append, List.length_cons, List.length_nil]
  exact readFrame_append ((UInt8.toNat_ofNat_of_lt fits).trans (length _)) noise

variable {command : UInt8} {content answer : Bytes}

theorem Frames.valid (frames : Frames command content answer) :
    isValidCommandResponse (readFrame answer) command = true := by
  obtain ⟨address, status, data, fits, noise, rfl⟩ := frames
  rw [readFrame_makeCommand]
  simp [isValidCommandResponse, makeCommand, crcTrailer]
  omega

theorem Frames.parsed {mode : UInt8} (frames : Frames GET_WORK_MODE_COMMAND [mode] answer) :
    parseWorkModeResponse (readFrame answer) = some mode := by
  obtain ⟨address, status, data, fits, noise, rfl⟩ := frames
  rw [readFrame_makeCommand]
  simp [parseWorkModeResponse, isValidCommandResponse, makeCommand, crcTrailer]

variable {σ : Type} {device : Party σ Bytes Bytes} {mode : σ → UInt8} {reader : IDT85Reader}
  (conforms : Conforms device reader.address mode) (state : σ)

include conforms

theorem Conforms.workMode :
    (device.through readFrame).converse state reader.workModeTalk =
      (some (mode state), [buildGetWorkModeCommand reader.address],
        (device.respond state (buildGetWorkModeCommand reader.address)).2) := by
  simp only [IDT85Reader.workModeTalk, Party.converse, Party.through,
    (conforms.reports state).parsed]

theorem Conforms.setAnswerMode :
    (device.through readFrame).converse state reader.setAnswerModeTalk =
      (true, [buildSetAnswerModeCommand reader.address],
        (device.respond state (buildSetAnswerModeCommand reader.address)).2) := by
  simp only [IDT85Reader.setAnswerModeTalk, Party.converse, Party.through,
    (conforms.confirms state).valid]

theorem Conforms.verify :
    (device.through readFrame).converse state reader.verifyTalk =
      (true, [reader.verification], (device.respond state reader.verification).2) := by
  unfold IDT85Reader.verifyTalk IDT85Reader.verification
  split
  · simp only [IDT85Reader.verifyByWorkModeTalk, Party.converse, Party.through,
      (conforms.reports state).valid]
  · simp only [Party.converse, Party.through, (conforms.identifies state).valid, if_true]

theorem Conforms.verification_kept :
    mode (device.respond state reader.verification).2 = mode state := by
  unfold IDT85Reader.verification
  split
  · exact conforms.kept state
  · exact conforms.unchanged state

theorem Conforms.configure :
    ∃ final, (device.through readFrame).converse state reader.configureTalk =
      (readerReady, [buildSetAnswerModeCommand reader.address,
        buildGetWorkModeCommand reader.address], final) ∧ mode final = ANSWER_MODE := by
  refine ⟨_, Party.converse_then (conforms.setAnswerMode state) ?_,
    (conforms.kept _).trans (conforms.changed state)⟩
  rw [if_neg (by decide)]
  refine Party.converse_then (conforms.workMode _) ?_
  rw [conforms.changed, if_neg (not_not.mpr rfl)]
  rfl

theorem Conforms.check (autoConfigureReader : Bool) :
    let talk := (device.through readFrame).converse state (reader.checkTalk autoConfigureReader)
    Commissioned reader autoConfigureReader [] (mode state) talk.1 talk.2.1 (mode talk.2.2) := by
  let asked := buildGetWorkModeCommand reader.address
  let reached := (device.respond state asked).2
  have begun : (device.through readFrame).converse state reader.workModeTalk =
      (some (mode state), [asked], reached) := conforms.workMode state
  have kept : mode reached = mode state := conforms.kept state
  constructor
  · intro answering
    have ended : (device.through readFrame).converse state
        (reader.checkTalk autoConfigureReader) = (readerReady, [asked], reached) := by
      refine Party.converse_then begun ?_
      rw [if_pos (congrArg some answering)]
      rfl
    rw [ended]
    exact ⟨rfl, rfl, kept.trans answering⟩
  · intro other automatic
    obtain ⟨final, configured, answering⟩ := conforms.configure reached
    have ended : (device.through readFrame).converse state
        (reader.checkTalk autoConfigureReader) =
          (readerReady, [asked, buildSetAnswerModeCommand reader.address, asked], final) := by
      refine Party.converse_then begun ?_
      rw [if_neg ((Option.some_injective _).ne other), if_neg (by simp [automatic])]
      exact configured
    rw [ended]
    exact ⟨rfl, rfl, answering⟩
  · intro other manual
    have ended : (device.through readFrame).converse state
        (reader.checkTalk autoConfigureReader) =
          ((.CONFIG_ERROR, "Reader Work Mode: ".toList ++ formatWorkMode (some (mode state)) ++
            "; Required: ANSWER".toList), [asked], reached) := by
      refine Party.converse_then begun ?_
      rw [if_neg ((Option.some_injective _).ne other), if_pos manual]
      rfl
    rw [ended]
    exact ⟨rfl, rfl, kept⟩

theorem Conforms.handshake (supported : reader.verifyMethod ∈ SUPPORTED_VERIFY_METHODS)
    (autoConfigureReader : Bool) :
    let talk := (device.through readFrame).converse state (reader.handshake autoConfigureReader)
    Commissioned reader autoConfigureReader [reader.verification] (mode state) talk.1 talk.2.1
      (mode talk.2.2) := by
  let reached := (device.respond state reader.verification).2
  have checked := conforms.check reached autoConfigureReader
  rw [conforms.verification_kept] at checked
  have whole : (device.through readFrame).converse state (reader.handshake autoConfigureReader) =
      let talk := (device.through readFrame).converse reached
        (reader.checkTalk autoConfigureReader)
      (talk.1, reader.verification :: talk.2.1, talk.2.2) := by
    unfold IDT85Reader.handshake
    rw [if_neg (not_not.mpr supported)]
    exact Party.converse_then (conforms.verify state) (by rw [if_neg (by decide)])
  rw [whole]
  exact ⟨fun answering => (checked.answering answering).imp id (.imp (congrArg _) id),
    fun other automatic => (checked.configured other automatic).imp id (.imp (congrArg _) id),
    fun other manual => (checked.refused other manual).imp id (.imp (congrArg _) id)⟩

end Conforming

/-- `commands` are those of the run, and a device that conforms has answered them. -/
theorem connectAndVerifyReader_commissions {σ : Type} {env : LineEnv} {reader : IDT85Reader}
    {device : Party σ Bytes Bytes} {mode : σ → UInt8}
    (quiet : ∀ tick, env.fault tick = none)
    (supported : reader.verifyMethod ∈ SUPPORTED_VERIFY_METHODS)
    (conforms : Conforms device reader.address mode) (autoConfigureReader : Bool) (state : σ)
    (first : Line) :
    ∃ result last commands,
      connectAndVerifyReader env reader autoConfigureReader first = .ok result last ∧
      written last.log = commands.reverse ++ written first.log ∧
      (device.Gives env.deliver state first.writes commands →
        Commissioned reader autoConfigureReader [reader.verification] (mode state) result commands
          (mode (device.hear state commands)) ∧
        last.serialOf reader.object =
          if result.1 = .READY then some first.nextHandle else none) := by
  obtain ⟨last, ran, spoken⟩ :=
    @IDT85Reader.connectAndVerifyReader_handshake env reader quiet autoConfigureReader first
  refine ⟨_, last, _, ran, spoken.written, fun gives => ⟨?_, ?_⟩⟩
  · have heard := (gives.through readFrame).converse
    have commissioned := conforms.handshake state supported autoConfigureReader
    rw [heard] at commissioned
    exact commissioned
  · rw [spoken.held, IDT85Reader.staysOpen, Bool.cond_eq_ite]
    simp only [beq_iff_eq]

/-- A reader in the work mode it remembers. -/
def sampleDevice : Party UInt8 Bytes Bytes where
  respond := fun mode command =>
    if command = buildGetWorkModeCommand 0x00 then
      (makeCommand 0x00 GET_WORK_MODE_COMMAND [0x00, mode] (by decide : 1 + 1 + 2 + 2 < 256), mode)
    else if command = buildSetAnswerModeCommand 0x00 then
      (makeCommand 0x00 SET_WORK_MODE_COMMAND [0x00], ANSWER_MODE)
    else (makeCommand 0x00 GET_READER_INFO_COMMAND [0x00, 0x4D, 0x56], mode)

theorem sampleDevice_conforms : Conforms sampleDevice 0x00 id := by
  have questions : buildGetReaderInfoCommand ≠ buildGetWorkModeCommand 0x00 ∧
      buildGetReaderInfoCommand ≠ buildSetAnswerModeCommand 0x00 ∧
      buildSetAnswerModeCommand 0x00 ≠ buildGetWorkModeCommand 0x00 := by decide +kernel
  have info (mode : UInt8) : sampleDevice.respond mode buildGetReaderInfoCommand =
      (makeCommand 0x00 GET_READER_INFO_COMMAND [0x00, 0x4D, 0x56], mode) := by
    simp only [sampleDevice, if_neg questions.1, if_neg questions.2.1]
  have workMode (mode : UInt8) : sampleDevice.respond mode (buildGetWorkModeCommand 0x00) =
      (makeCommand 0x00 GET_WORK_MODE_COMMAND [0x00, mode] (by decide : 1 + 1 + 2 + 2 < 256),
        mode) := by
    simp only [sampleDevice, if_true]
  have answerMode (mode : UInt8) : sampleDevice.respond mode (buildSetAnswerModeCommand 0x00) =
      (makeCommand 0x00 SET_WORK_MODE_COMMAND [0x00], ANSWER_MODE) := by
    simp only [sampleDevice, if_neg questions.2.2, if_true]
  constructor <;> intro mode
  · rw [info]
    exact ⟨0x00, 0x00, [0x4D, 0x56], by decide, [], rfl⟩
  · rw [info]
  · rw [workMode]
    exact ⟨0x00, 0x00, [], (by decide : 1 + 1 + 2 + 2 < 256), [], rfl⟩
  · rw [workMode]
  · rw [answerMode]
    exact ⟨0x00, 0x00, [], by decide, [], rfl⟩
  · rw [answerMode]
    rfl

/-- The device in Scan Mode on the line: what it says to the four commands. -/
def sampleAnswers : LineEnv where
  fault := fun _ => none
  deliver := fun writes =>
    [(sampleDevice.respond SCAN_MODE buildGetReaderInfoCommand).1,
      (sampleDevice.respond SCAN_MODE (buildGetWorkModeCommand 0x00)).1,
      (sampleDevice.respond SCAN_MODE (buildSetAnswerModeCommand 0x00)).1,
      (sampleDevice.respond ANSWER_MODE (buildGetWorkModeCommand 0x00)).1].getD writes []

/-- With AUTO_CONFIGURE_READER, a reader in Scan Mode is set to Answer Mode. -/
theorem connectAndVerifyReader_commissions_scanning :
    ∃ last, connectAndVerifyReader sampleAnswers sampleReader true Line.idle =
        .ok readerReady last ∧
      (written last.log).reverse = [buildGetReaderInfoCommand, buildGetWorkModeCommand 0x00,
        buildSetAnswerModeCommand 0x00, buildGetWorkModeCommand 0x00] ∧
      last.serialOf 0 = some 0 := by
  have quiet : ∀ tick, sampleAnswers.fault tick = none := fun _ => rfl
  obtain ⟨result, last, commands, ran, wrote, commissions⟩ :=
    connectAndVerifyReader_commissions quiet (by decide : sampleReader.verifyMethod ∈ _)
      sampleDevice_conforms true SCAN_MODE Line.idle
  have asked : written (after (connectAndVerifyReader sampleAnswers sampleReader true)
      Line.idle).log = [buildGetWorkModeCommand 0x00, buildSetAnswerModeCommand 0x00,
        buildGetWorkModeCommand 0x00, buildGetReaderInfoCommand] := by decide +kernel
  rw [after, ran] at asked
  have commandsAre : commands = [buildGetReaderInfoCommand, buildGetWorkModeCommand 0x00,
      buildSetAnswerModeCommand 0x00, buildGetWorkModeCommand 0x00] := by
    rw [← List.reverse_reverse commands, ← List.append_nil commands.reverse]
    exact congrArg List.reverse (wrote.symm.trans asked)
  have gives : sampleDevice.Gives sampleAnswers.deliver SCAN_MODE 0 commands := by
    rw [commandsAre]
    exact ⟨rfl, by decide +kernel, by decide +kernel, by decide +kernel, trivial⟩
  obtain ⟨commissioned, held⟩ := commissions gives
  obtain ⟨rfl, -⟩ := commissioned.configured (by decide) rfl
  refine ⟨last, ran, ?_, held⟩
  rw [asked]
  rfl

end MvdEdge
