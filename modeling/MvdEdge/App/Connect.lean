import MvdEdge.Adapters.Idt85Properties

/-! `connect_and_verify_reader`, and what a READY it returns is worth. -/

set_option autoImplicit false

namespace MvdEdge

open Lib Lib.Effect

def formatWorkMode : Option UInt8 → Str
  | none => "UNKNOWN".toList
  | some mode =>
      if mode = ANSWER_MODE then "ANSWER".toList
      else if mode = SCAN_MODE then "SCAN".toList
      else "UNKNOWN(0x".toList ++ (hexUpper [mode]).map Char.toLower ++ ")".toList

section Connect

variable (env : LineEnv) (reader : IDT85Reader)

def refuseReader (message : Str) : Serial (ReaderState × Str) := do
  reader.close env
  return (.CONFIG_ERROR, message)

def readerReady : ReaderState × Str := (.READY, "Communication verified".toList)

def configureReader : Serial (ReaderState × Str) := do
  let configured ← reader.setAnswerMode env
  if configured = false then
    refuseReader env reader "Unable to set reader work mode to ANSWER".toList
  else do
    let verifiedMode ← reader.getWorkMode env
    if verifiedMode ≠ some ANSWER_MODE then
      refuseReader env reader ("Reader Work Mode after configuration: ".toList ++
        formatWorkMode verifiedMode ++ "; Required: ANSWER".toList)
    else return readerReady

/-- The part after a passed verification. `apply_installation_profile` sends nothing. -/
def checkWorkMode (autoConfigureReader : Bool) : Serial (ReaderState × Str) := do
  let workMode ← reader.getWorkMode env
  if workMode = some ANSWER_MODE then return readerReady
  else if autoConfigureReader = false then
    refuseReader env reader ("Reader Work Mode: ".toList ++ formatWorkMode workMode ++
      "; Required: ANSWER".toList)
  else configureReader env reader

def connectReader (autoConfigureReader : Bool) : Serial (ReaderState × Str) := do
  reader.open env
  let verified ← reader.verifyReader env
  if verified = false then
    refuseReader env reader "Reader communication failed verification".toList
  else checkWorkMode env reader autoConfigureReader

def connectAndVerifyReader (autoConfigureReader : Bool) : Serial (ReaderState × Str) := do
  let outcome ← attempt Exn.caught (connectReader env reader autoConfigureReader)
  match outcome with
  | .ok result => return result
  | .error message => do
      reader.close env
      return (.DISCONNECTED, message)

end Connect

/-! ## What READY rests on -/

def lastResponse (command : Bytes) (log : List LineEvent) : Option Bytes :=
  log.findSome? fun event =>
    match event with
    | .answered _ asked response => if asked = command then some response else none
    | _ => none

/-- A response that reports Answer Mode and is no echo of the question. The frame
may be longer than what has arrived of it. -/
structure AnswerModeResponse (response : Bytes) : Prop where
  longEnough : 5 ≤ response.length
  atMostFrame : response.length ≤ (response.getD 0 0).toNat + 1
  command : response.getD 2 0 = GET_WORK_MODE_COMMAND
  mode : response.getD 4 0 = ANSWER_MODE
  notEcho : ∀ address, response ≠ buildGetWorkModeCommand address

/-- Byte 4 of the question is the high byte of its CRC. -/
theorem echo_mode : ∀ address : UInt8,
    (buildGetWorkModeCommand address).getD 4 0 ≠ ANSWER_MODE := by
  have bytes : ∀ value : Fin 256,
      (buildGetWorkModeCommand (UInt8.ofNat value.val)).getD 4 0 ≠ ANSWER_MODE := by
    decide +kernel
  intro address
  have found := bytes ⟨address.toNat, address.toNat_lt⟩
  rwa [UInt8.ofNat_toNat] at found

theorem answerModeResponse_of_parse {response bytes : Bytes} (frame : response = readFrame bytes)
    (parsed : parseWorkModeResponse response = some ANSWER_MODE) :
    AnswerModeResponse response := by
  unfold parseWorkModeResponse at parsed
  cases valid : isValidCommandResponse response GET_WORK_MODE_COMMAND with
  | false => simp [valid] at parsed
  | true =>
      by_cases short : response.length < 5
      · simp [valid, short] at parsed
      · have mode : response.getD 4 0 = ANSWER_MODE := by
          simpa [valid, short, show 4 < response.length by omega] using parsed
        refine ⟨by omega, ?_, ?_, mode, ?_⟩
        · have nonempty : response ≠ [] := by
            intro empty
            simp [empty] at short
          rw [frame] at nonempty ⊢
          exact readFrame_length_le nonempty
        · have command : response[2] = GET_WORK_MODE_COMMAND := by
            simpa [isValidCommandResponse, short] using valid
          simpa [show 2 < response.length by omega] using command
        · intro address echo
          exact echo_mode address (echo ▸ mode)

section Ready

variable (env : LineEnv) (reader : IDT85Reader)

theorem sendCommand_answered (command : Bytes) :
    Triple (fun _ => True) (reader.sendCommand env command)
      (fun response line => lastResponse command line.log = some response ∧
        ∃ bytes, response = readFrame bytes)
      fun _ _ => True := by
  refine Triple.get fun line => ?_
  cases line.serialOf reader.object with
  | none => exact Triple.throw fun _ _ => trivial
  | some handle =>
      refine Triple.bind (Triple.any _ _) fun _ => Triple.bind (Triple.any _ _) fun _ =>
        Triple.bind (Triple.any _ _) fun _ => Triple.bind (Triple.any _ _) fun _ => ?_
      refine Triple.through (fun response _ => ∃ bytes, response = readFrame bytes) ?_
        fun response => Triple.through (fun _ line => lastResponse command line.log =
          some response ∧ ∃ bytes, response = readFrame bytes)
          (Triple.modify ?_) fun _ => Triple.pure fun _ both => both
      · intro line _
        exact ((IDT85Reader.receive_triple env (fun _ _ _ _ => trivial) handle
          (line.input handle)).returning fun _ _ same => ⟨_, same⟩) line rfl
      · intro line framed
        exact ⟨by simp [lastResponse], framed⟩

def ReportsAnswerMode (log : List LineEvent) : Prop :=
  ∃ response, lastResponse (buildGetWorkModeCommand reader.address) log = some response ∧
    AnswerModeResponse response

theorem getWorkMode_reports :
    Triple (fun _ => True) (reader.getWorkMode env)
      (fun mode line => mode = some ANSWER_MODE → ReportsAnswerMode reader line.log)
      fun _ _ => True := by
  refine Triple.bind (sendCommand_answered env reader _) fun response => ?_
  refine Triple.through (fun _ line => parseWorkModeResponse response = some ANSWER_MODE →
    ReportsAnswerMode reader line.log) (Triple.get fun line => ?_) fun _ =>
      Triple.pure fun _ reports => reports
  intro current both
  obtain ⟨rfl, newest, bytes, frame⟩ := both
  have reports : parseWorkModeResponse response = some ANSWER_MODE →
      ReportsAnswerMode reader current.log :=
    fun parsed => ⟨response, newest, answerModeResponse_of_parse frame parsed⟩
  cases current.serialOf reader.object with
  | none => exact reports
  | some handle => exact reports

theorem refuseReader_notReady (message : Str) (ready : ReaderState × Str → Line → Prop) :
    Triple (fun _ => True) (refuseReader env reader message)
      (fun result line => result.1 = .READY → ready result line) fun _ _ => True :=
  Triple.bind (Triple.any _ _) fun _ => Triple.pure fun _ _ impossible => by contradiction

theorem configureReader_reports :
    Triple (fun _ => True) (configureReader env reader)
      (fun result line => result.1 = .READY → ReportsAnswerMode reader line.log)
      fun _ _ => True := by
  refine Triple.bind (Triple.any _ _) fun configured => ?_
  split
  · exact refuseReader_notReady env reader _ _
  · refine Triple.bind (getWorkMode_reports env reader) fun verifiedMode => ?_
    split
    · exact (refuseReader_notReady env reader _ _).before fun _ _ => trivial
    · rename_i answering
      exact Triple.pure fun _ reports _ => reports (not_not.mp answering)

theorem connectAndVerifyReader_reports (autoConfigureReader : Bool) :
    Triple (fun _ => True) (connectAndVerifyReader env reader autoConfigureReader)
      (fun result line => result.1 = .READY → ReportsAnswerMode reader line.log)
      fun _ _ => True := by
  have body : Triple (fun _ => True) (connectReader env reader autoConfigureReader)
      (fun result line => result.1 = .READY → ReportsAnswerMode reader line.log)
      fun _ _ => True := by
    refine Triple.bind (Triple.any _ _) fun _ => Triple.bind (Triple.any _ _) fun verified => ?_
    split
    · exact refuseReader_notReady env reader _ _
    · refine Triple.bind (getWorkMode_reports env reader) fun workMode => ?_
      split
      · rename_i answering
        exact Triple.pure fun _ reports _ => reports answering
      · split
        · exact (refuseReader_notReady env reader _ _).before fun _ _ => trivial
        · exact (configureReader_reports env reader).before fun _ _ => trivial
  refine Triple.through (fun outcome line => ∀ result, outcome = .ok result →
    result.1 = .READY → ReportsAnswerMode reader line.log)
    (Triple.attempt (body.returning ?_) ?_ fun _ _ _ any => any) fun outcome => ?_
  · intro result line reports other same
    rw [← Except.ok.inj same]
    exact reports
  · intro failure reason line _ _ result impossible
    contradiction
  · cases outcome with
    | ok result => exact Triple.pure fun _ reports => reports result rfl
    | error message =>
        exact Triple.bind (Triple.any _ _) fun _ =>
          Triple.pure fun _ _ impossible => by contradiction

end Ready

/-- READY is granted only on an answer to Get Work Mode that says Answer Mode. -/
theorem ready_on_answer_mode (env : LineEnv) (reader : IDT85Reader) (autoConfigureReader : Bool)
    {line next : Line} {message : Str}
    (ran : connectAndVerifyReader env reader autoConfigureReader line =
      .ok (.READY, message) next) :
    ∃ response, lastResponse (buildGetWorkModeCommand reader.address) next.log = some response ∧
      5 ≤ response.length ∧ response.length ≤ (response.getD 0 0).toNat + 1 ∧
      response.getD 2 0 = GET_WORK_MODE_COMMAND ∧ response.getD 4 0 = ANSWER_MODE ∧
      ∀ address, response ≠ buildGetWorkModeCommand address := by
  have outcome := connectAndVerifyReader_reports env reader autoConfigureReader line trivial
  rw [ran] at outcome
  obtain ⟨response, newest, genuine⟩ := outcome rfl
  exact ⟨response, newest, genuine.longEnough, genuine.atMostFrame, genuine.command,
    genuine.mode, genuine.notEcho⟩

def grantsReady : EStateM.Result Exn Line (ReaderState × Str) → Bool
  | .ok (.READY, _) _ => true
  | _ => false

private theorem exists_of_grantsReady {result : EStateM.Result Exn Line (ReaderState × Str)}
    (granted : grantsReady result = true) :
    ∃ message next, result = .ok (.READY, message) next := by
  cases result with
  | error failure next => simp [grantsReady] at granted
  | ok value next =>
      obtain ⟨readerState, message⟩ := value
      cases readerState with
      | READY => exact ⟨message, next, rfl⟩
      | _ => simp [grantsReady] at granted

theorem ready_on_answer_mode_sample :
    let env := quietEnv [0x06, 0x00, 0x36, 0x00, 0x00, 0x00, 0x00]
    ∃ message next,
      connectAndVerifyReader env sampleReader false Line.idle = .ok (.READY, message) next ∧
        ∃ response,
          lastResponse (buildGetWorkModeCommand sampleReader.address) next.log = some response ∧
            5 ≤ response.length ∧ response.length ≤ (response.getD 0 0).toNat + 1 ∧
            response.getD 2 0 = GET_WORK_MODE_COMMAND ∧ response.getD 4 0 = ANSWER_MODE ∧
            ∀ address, response ≠ buildGetWorkModeCommand address := by
  intro env
  obtain ⟨message, next, ran⟩ : ∃ message next, connectAndVerifyReader env sampleReader false
      Line.idle = .ok (.READY, message) next :=
    exists_of_grantsReady (by decide +kernel)
  exact ⟨message, next, ran, ready_on_answer_mode env sampleReader false ran⟩

/-- Five bytes are enough for READY, and the mode is then read where the CRC of
a frame of that length ends. -/
theorem ready_without_complete_frame : ¬ ∀ (env : LineEnv) (reader : IDT85Reader)
    (autoConfigureReader : Bool) (line next : Line) (message : Str),
    connectAndVerifyReader env reader autoConfigureReader line = .ok (.READY, message) next →
      ∃ response, lastResponse (buildGetWorkModeCommand reader.address) next.log = some response ∧
        response.length = (response.getD 0 0).toNat + 1 ∧ hasValidCrc response = true ∧
        response.getD 2 0 = GET_WORK_MODE_COMMAND ∧ 4 < response.length - 2 ∧
        response.getD 4 0 = ANSWER_MODE := by
  intro claim
  obtain ⟨message, next, ran⟩ : ∃ message next, connectAndVerifyReader
      (quietEnv [0x04, 0x00, 0x36, 0x00, 0x00]) sampleReader false Line.idle =
        .ok (.READY, message) next :=
    exists_of_grantsReady (by decide +kernel)
  have answer : lastResponse (buildGetWorkModeCommand sampleReader.address)
      (after (connectAndVerifyReader (quietEnv [0x04, 0x00, 0x36, 0x00, 0x00]) sampleReader
        false) Line.idle).log = some [0x04, 0x00, 0x36, 0x00, 0x00] := by decide +kernel
  obtain ⟨response, newest, _, _, _, inside, _⟩ := claim _ _ _ _ _ _ ran
  rw [after, ran, newest, Option.some_inj] at answer
  rw [answer] at inside
  contradiction

end MvdEdge
