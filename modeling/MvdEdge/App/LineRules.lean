import MvdEdge.Adapters.Custody
import MvdEdge.App.Connect
import MvdEdge.Discovery.Serial

/-! Rules for the serial line, as there are for the phases of a turn. What survives its
single operations survives the programs that talk to a reader and those that look for
one, for any invariant and any account of failures. -/

set_option autoImplicit false

namespace MvdEdge

open Lib Lib.Effect

/-- The response that an entry of the log shows to an inventory command. -/
def LineEvent.inventoryAnswer? : LineEvent → Option Bytes
  | .answered _ command response =>
      if commandCode command = INVENTORY_COMMAND then some response else none
  | _ => none

/-- What was answered to the inventory commands of a log, newest first. -/
def inventoryAnswers (log : List LineEvent) : List Bytes := log.filterMap (·.inventoryAnswer?)

theorem inventoryAnswers_answered (handle : Nat) (address : UInt8) (response : Bytes)
    (past : List LineEvent) :
    inventoryAnswers (.answered handle (buildInventoryCommand address) response :: past) =
      response :: inventoryAnswers past := by
  have asked : commandCode (buildInventoryCommand address) = INVENTORY_COMMAND := rfl
  exact List.filterMap_cons_some (by simp [LineEvent.inventoryAnswer?, asked])

/-- `inv` survives what is done on the line short of an inventory; a failure leaves `raised`. -/
structure Operates (env : LineEnv) (inv : Line → Prop) (raised : Exn → Line → Prop) : Prop where
  created : ∀ line nextObject, inv line → inv { line with nextObject }
  opened : ∀ reader : IDT85Reader, Triple inv (reader.open env) (fun _ => inv) raised
  closed : ∀ reader : IDT85Reader, Triple inv (reader.close env) (fun _ => inv) raised
  unwound : ∀ (reader : IDT85Reader) failure,
    Triple (raised failure) (reader.close env) (fun _ => raised failure) raised
  reset : ∀ handle, Triple inv (IDT85Reader.resetInputBuffer env handle) (fun _ => inv) raised
  wrote : ∀ (reader : IDT85Reader) handle command,
    Triple inv (reader.write env handle command) (fun _ => inv) raised
  flushed : Triple inv (IDT85Reader.flush env) (fun _ => inv) raised
  slept : Triple inv (IDT85Reader.sleep env) (fun _ => inv) raised
  read : ∀ handle size, Triple inv (IDT85Reader.read env handle size) (fun _ => inv) raised
  logged : ∀ (event : LineEvent) line, event.inventoryAnswer? = none → inv line →
    inv { line with log := event :: line.log }
  exception : ∀ message line, inv line → raised (.exception message) line
  caught : ∀ failure message line, failure.caught = some message → raised failure line → inv line

section Operating

variable {env : LineEnv} {inv : Line → Prop} {raised : Exn → Line → Prop}
  (operates : Operates env inv raised)

include operates

namespace IDT85Reader

variable (reader : IDT85Reader)

theorem receive_operates (handle : Nat) :
    Triple inv (receive env handle) (fun _ => inv) raised := by
  refine Triple.bind (operates.read handle 1) fun first => ?_
  cases first with
  | nil => exact Triple.pure fun _ holds => holds
  | cons remainingLength rest =>
      exact Triple.bind (operates.read handle _) fun _ => Triple.pure fun _ holds => holds

/-- A command is answered by an entry of the log, or a failure. -/
theorem sendCommand_operates {command : Bytes} {post : Bytes → Line → Prop}
    (answered : ∀ handle response line, inv line →
      post response { line with log := .answered handle command response :: line.log }) :
    Triple inv (sendCommand env reader command) post raised := by
  refine Triple.read fun line => ?_
  cases line.serialOf reader.object with
  | none => exact Triple.throw fun _ => operates.exception _ _
  | some handle =>
      exact Triple.bind (operates.reset handle) fun _ =>
        Triple.bind (operates.wrote reader handle command) fun _ =>
        Triple.bind operates.flushed fun _ => Triple.bind operates.slept fun _ =>
        Triple.bind (receive_operates operates handle) fun response =>
        Triple.bind (Triple.update fun line => answered handle response line) fun _ =>
        Triple.pure fun _ holds => holds

theorem question_operates {command : Bytes} (other : commandCode command ≠ INVENTORY_COMMAND) :
    Triple inv (sendCommand env reader command) (fun _ => inv) raised :=
  sendCommand_operates operates reader fun _ _ line => operates.logged _ line (if_neg other)

theorem verifyByWorkMode_operates :
    Triple inv (verifyByWorkMode env reader) (fun _ => inv) raised :=
  Triple.bind (question_operates operates reader (by simp [commandCode, buildGetWorkModeCommand,
    makeCommand, GET_WORK_MODE_COMMAND, INVENTORY_COMMAND])) fun _ =>
  Triple.pure fun _ holds => holds

theorem verify_operates : Triple inv (verify env reader) (fun _ => inv) raised := by
  unfold verify
  split
  · exact Triple.throw fun _ => operates.exception _ _
  · split
    · exact verifyByWorkMode_operates operates reader
    · refine Triple.bind (question_operates operates reader (by simp [commandCode,
        buildGetReaderInfoCommand, makeCommand, GET_READER_INFO_COMMAND, INVENTORY_COMMAND]))
        fun response => ?_
      split
      · exact Triple.pure fun _ holds => holds
      · split
        · exact Triple.pure fun _ holds => holds
        · exact verifyByWorkMode_operates operates reader

theorem note_operates {event : Nat → LineEvent}
    (other : ∀ handle, (event handle).inventoryAnswer? = none) :
    Triple inv (note reader event) (fun _ => inv) raised := by
  refine Triple.read fun line => ?_
  cases line.serialOf reader.object with
  | none => exact Triple.pure fun _ holds => holds
  | some handle => exact Triple.update fun line => operates.logged _ line (other handle)

theorem verifyReader_operates : Triple inv (verifyReader env reader) (fun _ => inv) raised :=
  Triple.bind (verify_operates operates reader) fun _ =>
  Triple.bind (note_operates operates reader fun _ => rfl) fun _ =>
  Triple.pure fun _ holds => holds

theorem getWorkMode_operates : Triple inv (getWorkMode env reader) (fun _ => inv) raised :=
  Triple.bind (question_operates operates reader (by simp [commandCode, buildGetWorkModeCommand,
    makeCommand, GET_WORK_MODE_COMMAND, INVENTORY_COMMAND])) fun _ =>
  Triple.bind (note_operates operates reader fun _ => rfl) fun _ =>
  Triple.pure fun _ holds => holds

theorem setAnswerMode_operates : Triple inv (setAnswerMode env reader) (fun _ => inv) raised :=
  Triple.bind (question_operates operates reader (by simp [commandCode, buildSetAnswerModeCommand,
    makeCommand, SET_WORK_MODE_COMMAND, INVENTORY_COMMAND])) fun _ =>
  Triple.pure fun _ holds => holds

end IDT85Reader

open IDT85Reader

theorem refuseReader_operates (reader : IDT85Reader) (message : Str) :
    Triple inv (refuseReader env reader message) (fun _ => inv) raised :=
  Triple.bind (operates.closed reader) fun _ => Triple.pure fun _ holds => holds

theorem configureReader_operates (reader : IDT85Reader) :
    Triple inv (configureReader env reader) (fun _ => inv) raised := by
  refine Triple.bind (setAnswerMode_operates operates reader) fun configured => ?_
  split
  · exact refuseReader_operates operates reader _
  · refine Triple.bind (getWorkMode_operates operates reader) fun verifiedMode => ?_
    split
    · exact refuseReader_operates operates reader _
    · exact Triple.pure fun _ holds => holds

theorem connectReader_operates (reader : IDT85Reader) (autoConfigureReader : Bool) :
    Triple inv (connectReader env reader autoConfigureReader) (fun _ => inv) raised := by
  have checked : Triple inv (checkWorkMode env reader autoConfigureReader)
      (fun _ => inv) raised := by
    refine Triple.bind (getWorkMode_operates operates reader) fun workMode => ?_
    split
    · exact Triple.pure fun _ holds => holds
    · split
      · exact refuseReader_operates operates reader _
      · exact configureReader_operates operates reader
  refine Triple.bind (operates.opened reader) fun _ =>
    Triple.bind (verifyReader_operates operates reader) fun verified => ?_
  split
  · exact refuseReader_operates operates reader _
  · exact checked

theorem connectAndVerifyReader_operates (reader : IDT85Reader) (autoConfigureReader : Bool) :
    Triple inv (connectAndVerifyReader env reader autoConfigureReader)
      (fun _ => inv) raised := by
  have connected : Triple inv
      (attempt Exn.caught (connectReader env reader autoConfigureReader)) (fun _ => inv) raised :=
    Triple.attempt (connectReader_operates operates reader autoConfigureReader) operates.caught
      fun _ _ _ failed => failed
  refine Triple.bind connected fun outcome => ?_
  cases outcome with
  | ok result => exact Triple.pure fun _ holds => holds
  | error message =>
      exact Triple.bind (operates.closed reader) fun _ => Triple.pure fun _ holds => holds

theorem new_operates (port : Str) (baudrate : Nat) (address : UInt8) (verifyMethod : Str)
    (owner : Owner) :
    Triple inv (IDT85Reader.new port baudrate address verifyMethod owner)
      (fun _ => inv) raised :=
  Triple.update fun line => operates.created line _

theorem probeReaderPort_operates (settings : ProbeSettings) (port : Str) :
    Triple inv (probeReaderPort env settings port) (fun _ => inv) raised := by
  refine Triple.bind (new_operates operates _ _ _ _ _) fun reader => Triple.ensuring ?_
    (fun _ => operates.closed reader) (fun failure _ => operates.unwound reader failure)
    fun _ _ _ failed => failed
  have verified : Triple inv
      (attempt Exn.caught (reader.open env >>= fun _ => reader.verifyReader env))
      (fun _ => inv) raised :=
    Triple.attempt (Triple.bind (operates.opened reader) fun _ =>
      verifyReader_operates operates reader) operates.caught fun _ _ _ failed => failed
  refine Triple.bind verified fun answer => ?_
  cases answer with
  | ok verified => exact Triple.pure fun _ holds => holds
  | error message => exact Triple.pure fun _ holds => holds

theorem discoverReaderPort_operates (settings : ProbeSettings) (filter : UsbFilter)
    (survey : PortSurvey) :
    Triple inv (discoverReaderPort env settings filter survey) (fun _ => inv) raised := by
  have all (candidates : List Metadata) (devices : List DiscoveredSerialDevice) :
      Triple inv (probeAll env settings candidates devices) (fun _ => inv) raised := by
    induction candidates generalizing devices with
    | nil => exact Triple.pure fun _ holds => holds
    | cons metadata rest ih =>
        exact Triple.bind (probeReaderPort_operates operates settings _) fun _ => ih _
  refine Triple.bind (all _ _) fun devices => ?_
  split
  · exact Triple.pure fun _ holds => holds
  · split
    · exact Triple.pure fun _ holds => holds
    · exact Triple.pure fun _ holds => holds
  · exact Triple.pure fun _ holds => holds

end Operating

/-! ## What is answered to an inventory -/

section Answers

variable {env : LineEnv}

theorem pyserial_answers {α : Type} {act : Line → α × Line}
    (same : ∀ line, inventoryAnswers (act line).2.log = inventoryAnswers line.log) :
    Leaves (fun line => inventoryAnswers line.log) (IDT85Reader.pyserial env act) :=
  Leaves.operation (fun _ => same) fun _ => rfl

theorem close_answers (reader : IDT85Reader) :
    Leaves (fun line => inventoryAnswers line.log) (reader.close env) := by
  refine Leaves.bind Leaves.get fun line => ?_
  cases line.serialOf reader.object with
  | none => exact Leaves.pure _
  | some handle => exact Leaves.operation (fun _ _ => rfl) fun _ => rfl

/-- Nothing but an inventory is answered as one. -/
theorem answers_operates (shown : List Bytes) :
    Operates env (fun line => inventoryAnswers line.log = shown)
      fun _ line => inventoryAnswers line.log = shown where
  created := fun _ _ same => same
  opened := fun _ => pyserial_answers (fun _ => rfl) shown
  closed := fun reader => close_answers reader shown
  unwound := fun reader _ => close_answers reader shown
  reset := fun _ => pyserial_answers (fun _ => rfl) shown
  wrote := fun _ _ _ => Preserves.bind (Triple.update fun _ same => same)
    fun _ => pyserial_answers (fun _ => rfl) shown
  flushed := pyserial_answers (fun _ => rfl) shown
  slept := Triple.operation (fun _ same => same) fun _ _ _ same => same
  read := fun _ _ => pyserial_answers (fun _ => rfl) shown
  logged := fun _ _ other same => (List.filterMap_cons_none other).trans same
  exception := fun _ _ same => same
  caught := fun _ _ _ _ same => same

/-- An inventory returns what it was answered, or is not answered and raises. -/
theorem inventory_answers (env : LineEnv) (reader : IDT85Reader) (shown : List Bytes) :
    Triple (fun line => inventoryAnswers line.log = shown) (reader.inventory env)
      (fun result line => ∃ response, result = classifyInventoryResponse response ∧
        inventoryAnswers line.log = response :: shown)
      fun _ line => inventoryAnswers line.log = shown := by
  have answered : Triple (fun line => inventoryAnswers line.log = shown)
      (reader.sendCommand env (buildInventoryCommand reader.address))
      (fun response line => inventoryAnswers line.log = response :: shown)
      fun _ line => inventoryAnswers line.log = shown :=
    IDT85Reader.sendCommand_operates (answers_operates shown) reader
      fun handle response _ same =>
        (inventoryAnswers_answered handle _ response _).trans (congrArg (response :: ·) same)
  exact Triple.bind answered fun response => Triple.pure fun _ same => ⟨response, rfl, same⟩

end Answers

end MvdEdge
