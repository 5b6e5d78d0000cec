import MvdEdge.Adapters.Idt85Properties
import MvdEdge.Lib.Journal

/-! Who holds the serial line and what may be written on it. The rules are about
each entry of the log and what is logged before it; every method of the reader
keeps them, whether it returns or raises. -/

set_option autoImplicit false

namespace MvdEdge

open Lib Lib.Effect

def openHandles : List LineEvent → List Nat
  | [] => []
  | .opened handle :: past => handle :: openHandles past
  | .closed handle :: past => (openHandles past).filter (· ≠ handle)
  | _ :: past => openHandles past

/-- What is known of the device behind a handle since it was opened: whether
`verify_reader` returned True, and what the latest `get_work_mode` returned. -/
structure Knowledge where
  verified : Bool := false
  workMode : Option (Option UInt8) := none

def Knowledge.answering : Knowledge := ⟨true, some (some ANSWER_MODE)⟩

def known (handle : Nat) : List LineEvent → Knowledge
  | [] => {}
  | .opened other :: past => if other = handle then {} else known handle past
  | .verified other answer :: past =>
      if other = handle then
        { known handle past with verified := (known handle past).verified || answer }
      else known handle past
  | .workMode other mode :: past =>
      if other = handle then { known handle past with workMode := some mode }
      else known handle past
  | _ :: past => known handle past

def commandCode (command : Bytes) : UInt8 := command.getD 2 0

/-- What may be written, by whom, and on what knowledge of the device. -/
structure Permitted (autoConfigureReader : Bool) (owner : Owner) (command : Bytes)
    (knowledge : Knowledge) : Prop where
  discovery : owner = .discovery →
    commandCode command = GET_READER_INFO_COMMAND ∨ commandCode command = GET_WORK_MODE_COMMAND
  inventory : commandCode command = INVENTORY_COMMAND → knowledge = .answering
  setWorkMode : commandCode command = SET_WORK_MODE_COMMAND → autoConfigureReader = true ∧
    ∃ mode, knowledge.workMode = some mode ∧ mode ≠ some ANSWER_MODE

def Allowed (autoConfigureReader : Bool) (past : List LineEvent) : LineEvent → Prop
  | .opened _ => openHandles past = []
  | .wrote owner handle command =>
      handle ∈ openHandles past ∧
        Permitted autoConfigureReader owner command (known handle past)
  | .loopHead readerState handle =>
      openHandles past = handle.toList ∧ (readerState = .READY ↔ handle.isSome = true)
  | _ => True

def Disciplined (autoConfigureReader : Bool) (log : List LineEvent) : Prop :=
  ∀ event past, event :: past <:+ log → Allowed autoConfigureReader past event

theorem Disciplined.cons {autoConfigureReader : Bool} {event : LineEvent} {log : List LineEvent}
    (disciplined : Disciplined autoConfigureReader log)
    (allowed : Allowed autoConfigureReader log event) :
    Disciplined autoConfigureReader (event :: log) :=
  forall_suffix_cons allowed disciplined

theorem Disciplined.openHandles_length {autoConfigureReader : Bool} {log : List LineEvent}
    (disciplined : Disciplined autoConfigureReader log) : (openHandles log).length ≤ 1 := by
  induction log with
  | nil => simp [openHandles]
  | cons event past ih =>
      have before := ih fun other rest suffix =>
        disciplined other rest (suffix.trans (List.suffix_cons event past))
      cases event with
      | opened handle =>
          have free : openHandles past = [] := disciplined _ _ List.suffix_rfl
          simp [openHandles, free]
      | closed handle => exact (List.length_filter_le _ _).trans before
      | wrote | answered | verified | workMode | loopHead => exact before

/-- `object` alone may have a handle: the one in `slot`, the only one open. -/
structure Custody (autoConfigureReader : Bool) (object : Nat) (slot : Option Nat)
    (line : Line) : Prop where
  disciplined : Disciplined autoConfigureReader line.log
  owned : ∀ other, line.serialOf other = if other = object then slot else none
  opened : openHandles line.log = slot.toList

/-- `object` has the one open handle, and `knowledge` of the device behind it. -/
structure Session (autoConfigureReader : Bool) (object handle : Nat) (knowledge : Knowledge)
    (line : Line) : Prop extends Custody autoConfigureReader object (some handle) line where
  knows : known handle line.log = knowledge

def Idle (autoConfigureReader : Bool) (line : Line) : Prop :=
  ∀ object, Custody autoConfigureReader object none line

def Held (autoConfigureReader : Bool) (object : Nat) (line : Line) : Prop :=
  ∃ slot, Custody autoConfigureReader object slot line

/-- After a failure: `rest`, unless the process ended on the spot. -/
structure Aborted (autoConfigureReader : Bool) (rest : Line → Prop) (failure : Exn)
    (line : Line) : Prop where
  disciplined : Disciplined autoConfigureReader line.log
  rest : failure ≠ .killed → rest line

variable {autoConfigureReader : Bool} {object handle : Nat} {slot : Option Nat}
  {knowledge learned : Knowledge} {failure : Exn} {line : Line}

theorem Custody.congr {next : Line} (custody : Custody autoConfigureReader object slot line)
    (serialOf : next.serialOf = line.serialOf) (log : next.log = line.log) :
    Custody autoConfigureReader object slot next :=
  ⟨log ▸ custody.disciplined, serialOf ▸ custody.owned, log ▸ custody.opened⟩

theorem Session.congr {next : Line}
    (session : Session autoConfigureReader object handle knowledge line)
    (serialOf : next.serialOf = line.serialOf) (log : next.log = line.log) :
    Session autoConfigureReader object handle knowledge next :=
  ⟨session.toCustody.congr serialOf log, log ▸ session.knows⟩

theorem Custody.idle (custody : Custody autoConfigureReader object none line) :
    Idle autoConfigureReader line := by
  intro other
  refine ⟨custody.disciplined, fun object => ?_, custody.opened⟩
  rw [custody.owned, ite_self, ite_self]

theorem Idle.aborted (idle : Idle autoConfigureReader line) :
    Aborted autoConfigureReader (Idle autoConfigureReader) failure line :=
  ⟨(idle 0).disciplined, fun _ => idle⟩

theorem Idle.held (idle : Idle autoConfigureReader line) (object : Nat) :
    Held autoConfigureReader object line := ⟨none, idle object⟩

theorem Session.held (session : Session autoConfigureReader object handle knowledge line) :
    Held autoConfigureReader object line := ⟨some handle, session.toCustody⟩

theorem Held.disciplined (held : Held autoConfigureReader object line) :
    Disciplined autoConfigureReader line.log := by
  obtain ⟨slot, custody⟩ := held
  exact custody.disciplined

theorem Held.aborted (held : Held autoConfigureReader object line) :
    Aborted autoConfigureReader (Held autoConfigureReader object) failure line :=
  ⟨held.disciplined, fun _ => held⟩

theorem Aborted.held (aborted : Aborted autoConfigureReader (Idle autoConfigureReader) failure line)
    (object : Nat) : Aborted autoConfigureReader (Held autoConfigureReader object) failure line :=
  ⟨aborted.disciplined, fun survives => (aborted.rest survives).held object⟩

theorem Session.serialOf
    (session : Session autoConfigureReader object handle knowledge line) :
    line.serialOf object = some handle := by
  rw [session.owned, if_pos rfl]

theorem Custody.log {event : LineEvent} (custody : Custody autoConfigureReader object slot line)
    (allowed : Allowed autoConfigureReader line.log event)
    (opens : openHandles (event :: line.log) = openHandles line.log) :
    Custody autoConfigureReader object slot { line with log := event :: line.log } where
  disciplined := custody.disciplined.cons allowed
  owned := custody.owned
  opened := opens.trans custody.opened

theorem Session.log {event : LineEvent}
    (session : Session autoConfigureReader object handle knowledge line)
    (allowed : Allowed autoConfigureReader line.log event)
    (opens : openHandles (event :: line.log) = openHandles line.log)
    (learns : known handle (event :: line.log) = learned) :
    Session autoConfigureReader object handle learned { line with log := event :: line.log } :=
  ⟨session.toCustody.log allowed opens, learns⟩

namespace IDT85Reader

variable {env : LineEnv} {reader : IDT85Reader}

def hold (line : Line) : (Nat → Option Nat) × List LineEvent := (line.serialOf, line.log)

theorem operation_hold {α : Type} {fault : Nat → Option Exn} {honours : Exn → Bool}
    {act : Nat → Line → α × Line} (same : ∀ tick line, hold (act tick line).2 = hold line) :
    Leaves hold (operation fault honours act) :=
  Leaves.operation same fun _ => rfl

theorem pyserial_hold {α : Type} {act : Line → α × Line}
    (same : ∀ line, hold (act line).2 = hold line) : Leaves hold (pyserial env act) :=
  operation_hold fun _ => same

theorem resetInputBuffer_hold (handle : Nat) : Leaves hold (resetInputBuffer env handle) :=
  pyserial_hold fun _ => rfl

theorem flush_hold : Leaves hold (flush env) := pyserial_hold fun _ => rfl

theorem sleep_hold : Leaves hold (sleep env) := operation_hold fun _ _ => rfl

theorem read_hold (handle size : Nat) : Leaves hold (read env handle size) :=
  pyserial_hold fun _ => rfl

theorem receive_hold (handle : Nat) : Leaves hold (receive env handle) := by
  refine Leaves.bind (read_hold handle 1) fun first => ?_
  cases first with
  | nil => exact Leaves.pure _
  | cons remainingLength bytes =>
      exact Leaves.bind (read_hold handle _) fun _ => Leaves.pure _

theorem session_of_hold {α : Type} {program : Serial α} (leaves : Leaves hold program) :
    Preserves (Session autoConfigureReader object handle knowledge) program := by
  intro line session
  have kept : ∀ next, hold next = hold line →
      Session autoConfigureReader object handle knowledge next :=
    fun next shown => session.congr (congrArg Prod.fst shown) (congrArg Prod.snd shown)
  have shown : Triple (fun next => hold next = hold line) program
      (fun _ => Session autoConfigureReader object handle knowledge)
      (fun _ => Session autoConfigureReader object handle knowledge) :=
    (leaves (hold line)).conseq (fun _ same => same) (fun _ => kept) fun _ => kept
  exact shown line rfl

theorem record_session {event : LineEvent} {raised : Exn → Line → Prop}
    (allowed : ∀ line, Session autoConfigureReader object handle knowledge line →
      Allowed autoConfigureReader line.log event)
    (opens : ∀ log, openHandles (event :: log) = openHandles log)
    (learns : ∀ log, known handle log = knowledge → known handle (event :: log) = learned) :
    Triple (Session autoConfigureReader object handle knowledge) (record event)
      (fun _ => Session autoConfigureReader object handle learned) raised :=
  Triple.modify fun line session =>
    session.log (allowed line session) (opens line.log) (learns line.log session.knows)

section Commands

variable {command : Bytes}
  (permitted : Permitted autoConfigureReader reader.owner command knowledge)

include permitted

theorem write_session :
    Preserves (Session autoConfigureReader object handle knowledge)
      (write env reader handle command) := by
  have recorded : Preserves (Session autoConfigureReader object handle knowledge)
      (record (.wrote reader.owner handle command)) := by
    refine record_session ?_ (fun _ => rfl) fun _ knows => knows
    intro line session
    refine ⟨by simp [session.opened], ?_⟩
    rw [session.knows]
    exact permitted
  exact Preserves.bind recorded fun _ => session_of_hold (pyserial_hold fun _ => rfl)

theorem sendCommand_session :
    Preserves (Session autoConfigureReader reader.object handle knowledge)
      (sendCommand env reader command) := by
  refine Triple.get fun line => ?_
  intro current both
  obtain ⟨rfl, session⟩ := both
  rw [session.serialOf]
  have answered : ∀ response, Preserves
      (Session autoConfigureReader reader.object handle knowledge)
      (record (.answered handle command response)) := fun _ =>
    record_session (fun _ _ => trivial) (fun _ => rfl) fun _ knows => knows
  exact Preserves.bind (session_of_hold (resetInputBuffer_hold handle)) (fun _ =>
    Preserves.bind (write_session permitted) fun _ =>
    Preserves.bind (session_of_hold flush_hold) fun _ =>
    Preserves.bind (session_of_hold sleep_hold) fun _ =>
    Preserves.bind (session_of_hold (receive_hold handle)) fun response =>
    Preserves.bind (answered response) fun _ => Preserves.pure response) current session

end Commands

theorem permitted_question {owner : Owner} {command : Bytes}
    (asks : commandCode command = GET_READER_INFO_COMMAND ∨
      commandCode command = GET_WORK_MODE_COMMAND) :
    Permitted autoConfigureReader owner command knowledge := by
  refine ⟨fun _ => asks, fun code => ?_, fun code => ?_⟩
  all_goals
    rw [code] at asks
    cases asks <;> contradiction

theorem verifyByWorkMode_session :
    Preserves (Session autoConfigureReader reader.object handle knowledge)
      (verifyByWorkMode env reader) :=
  Preserves.bind (sendCommand_session (permitted_question (.inr rfl))) fun _ => Preserves.pure _

theorem verify_session :
    Preserves (Session autoConfigureReader reader.object handle knowledge)
      (verify env reader) := by
  unfold verify
  split
  · exact Preserves.throw _
  · split
    · exact verifyByWorkMode_session
    · refine Preserves.bind (sendCommand_session (permitted_question (.inl rfl)))
        fun response => ?_
      split
      · exact Preserves.pure _
      · split
        · exact Preserves.pure _
        · exact verifyByWorkMode_session

theorem note_session {event : Nat → LineEvent} {raised : Exn → Line → Prop}
    (learned : Knowledge) (allowed : ∀ past, Allowed autoConfigureReader past (event handle))
    (opens : ∀ log, openHandles (event handle :: log) = openHandles log)
    (learns : ∀ log, known handle log = knowledge → known handle (event handle :: log) = learned) :
    Triple (Session autoConfigureReader reader.object handle knowledge) (note reader event)
      (fun _ => Session autoConfigureReader reader.object handle learned) raised := by
  refine Triple.get fun line => ?_
  intro current both
  obtain ⟨rfl, session⟩ := both
  rw [session.serialOf]
  exact record_session (fun line _ => allowed line.log) opens learns current session

theorem verifyReader_session :
    Triple (Session autoConfigureReader reader.object handle knowledge) (verifyReader env reader)
      (fun answer => Session autoConfigureReader reader.object handle
        { knowledge with verified := knowledge.verified || answer })
      (fun _ => Session autoConfigureReader reader.object handle knowledge) := by
  refine Triple.bind verify_session fun answer => Triple.bind (note_session
    { knowledge with verified := knowledge.verified || answer } (fun _ => trivial)
    (fun _ => rfl) fun log knows => ?_) fun _ => Triple.pure fun _ session => session
  simp [known, knows]

theorem getWorkMode_session :
    Triple (Session autoConfigureReader reader.object handle knowledge) (getWorkMode env reader)
      (fun mode => Session autoConfigureReader reader.object handle
        { knowledge with workMode := some mode })
      (fun _ => Session autoConfigureReader reader.object handle knowledge) := by
  refine Triple.bind (sendCommand_session (permitted_question (.inr rfl))) fun response =>
    Triple.bind (note_session
      { knowledge with workMode := some (parseWorkModeResponse response) } (fun _ => trivial)
      (fun _ => rfl) fun log knows => ?_) fun _ => Triple.pure fun _ session => session
  simp [known, knows]

theorem setAnswerMode_session {mode : Option UInt8} (agent : reader.owner = .agent)
    (auto : autoConfigureReader = true) (asked : knowledge.workMode = some mode)
    (other : mode ≠ some ANSWER_MODE) :
    Preserves (Session autoConfigureReader reader.object handle knowledge)
      (setAnswerMode env reader) := by
  have permitted : Permitted autoConfigureReader reader.owner
      (buildSetAnswerModeCommand reader.address) knowledge := by
    refine ⟨?_, ?_, fun _ => ⟨auto, mode, asked, other⟩⟩
    · rw [agent]
      exact fun discovery => by contradiction
    · intro inventory
      exact absurd (show SET_WORK_MODE_COMMAND = INVENTORY_COMMAND from inventory) (by decide)
  exact Preserves.bind (sendCommand_session permitted) fun _ => Preserves.pure _

theorem inventory_session (agent : reader.owner = .agent) :
    Preserves (Session autoConfigureReader reader.object handle .answering)
      (inventory env reader) := by
  have permitted : Permitted autoConfigureReader reader.owner
      (buildInventoryCommand reader.address) .answering := by
    refine ⟨?_, fun _ => rfl, ?_⟩
    · rw [agent]
      exact fun discovery => by contradiction
    · intro setWorkMode
      exact absurd (show INVENTORY_COMMAND = SET_WORK_MODE_COMMAND from setWorkMode) (by decide)
  exact Preserves.bind (sendCommand_session permitted) fun _ => Preserves.pure _

theorem open_session :
    Triple (Custody autoConfigureReader reader.object none) (reader.open env)
      (fun _ line => ∃ handle, Session autoConfigureReader reader.object handle {} line)
      (fun _ => Custody autoConfigureReader reader.object none) := by
  unfold IDT85Reader.open pyserial
  refine Triple.operation ?_ fun _ _ _ custody => custody.congr rfl rfl
  intro line custody
  refine ⟨line.nextHandle, ⟨custody.disciplined.cons custody.opened, fun other => ?_, ?_⟩, ?_⟩
  · change (if other = reader.object then some line.nextHandle else line.serialOf other) = _
    rw [custody.owned, ite_self]
  · exact congrArg (line.nextHandle :: ·) custody.opened
  · exact if_pos rfl

theorem close_custody :
    Triple (Held autoConfigureReader reader.object) (reader.close env)
      (fun _ => Idle autoConfigureReader)
      (Aborted autoConfigureReader (Idle autoConfigureReader)) := by
  refine Triple.get fun line => ?_
  intro current both
  obtain ⟨rfl, slot, custody⟩ := both
  have mine := custody.owned reader.object
  rw [if_pos rfl] at mine
  rw [mine]
  cases slot with
  | none => exact custody.idle
  | some handle =>
      refine (Triple.operation ?_ ?_ :
        Triple (Custody autoConfigureReader reader.object (some handle)) _ _ _) current custody
      · intro line custody
        refine (⟨custody.disciplined.cons ?_, ?_, ?_⟩ :
          Custody autoConfigureReader reader.object none _).idle
        · trivial
        · intro other
          change (if other = reader.object then none else line.serialOf other) = _
          rw [custody.owned]
          split <;> rfl
        · change (openHandles line.log).filter _ = []
          rw [custody.opened]
          simp
      · intro failure line killed custody
        exact ⟨custody.disciplined, fun survives => absurd (eq_of_beq killed) survives⟩

end IDT85Reader

end MvdEdge
