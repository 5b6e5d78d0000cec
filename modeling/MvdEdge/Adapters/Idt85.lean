import MvdEdge.Adapters.Frame
import MvdEdge.Health.State
import MvdEdge.Lib.Effect

/-! The `IDT85Reader` over a serial line. Opening, writing and reading may raise
and may return any bytes; closing does not raise. The line keeps a log of what
was done on it, newest entry first, for statements about whole runs. -/

set_option autoImplicit false

namespace MvdEdge

open Lib Lib.Effect

inductive Owner where
  | discovery
  | agent
  deriving DecidableEq

inductive LineEvent where
  | opened (handle : Nat)
  | closed (handle : Nat)
  | wrote (owner : Owner) (handle : Nat) (command : Bytes)
  | answered (handle : Nat) (command response : Bytes)
  | verified (handle : Nat) (answer : Bool)
  | workMode (handle : Nat) (mode : Option UInt8)
  | loopHead (readerState : ReaderState) (handle : Option Nat)

/-- Failures by operation, and the bytes that arrive after each command written. -/
structure LineEnv where
  fault : Nat → Option Exn
  deliver : Nat → Bytes

/-- Handles and reader objects are numbered as they come; `serialOf` is the
`_serial` of each reader object, `input` the unread bytes of each handle. -/
structure Line where
  tick : Nat
  nextHandle : Nat
  nextObject : Nat
  serialOf : Nat → Option Nat
  input : Nat → Bytes
  writes : Nat
  log : List LineEvent

def Line.idle : Line := ⟨0, 0, 0, fun _ => none, fun _ => [], 0, []⟩

instance : Ticking Line where
  tick := Line.tick
  advance line := { line with tick := line.tick + 1 }

abbrev Serial := EStateM Exn Line

def VERIFY_AUTO : Str := "AUTO".toList
def VERIFY_READER_INFO : Str := "READER_INFO".toList
def VERIFY_WORK_MODE : Str := "WORK_MODE".toList
def SUPPORTED_VERIFY_METHODS : List Str := [VERIFY_AUTO, VERIFY_READER_INFO, VERIFY_WORK_MODE]

/-- `str.upper`, as far as a comparison with the ASCII words above can tell. -/
def upper (text : Str) : Str :=
  text.map fun char => if char = 'ı' then 'I' else if char = 'ſ' then 'S' else char.toUpper

structure IDT85Reader where
  port : Str
  baudrate : Nat
  address : UInt8
  verifyMethod : Str
  owner : Owner
  object : Nat

namespace IDT85Reader

def new (port : Str) (baudrate : Nat) (address : UInt8) (verifyMethod : Str) (owner : Owner) :
    Serial IDT85Reader :=
  modifyGet fun line =>
    ({ port, baudrate, address, verifyMethod := upper verifyMethod, owner
       object := line.nextObject },
     { line with nextObject := line.nextObject + 1 })

section Methods

variable (env : LineEnv) (reader : IDT85Reader)

def record (event : LineEvent) : Serial Unit :=
  modifyGet fun line => ((), { line with log := event :: line.log })

def pyserial {α : Type} (act : Line → α × Line) : Serial α :=
  operation env.fault (fun _ => true) fun _ line => act line

def «open» : Serial Unit :=
  pyserial env fun line =>
    let handle := line.nextHandle
    ((), { line with
      nextHandle := handle + 1
      serialOf := fun object => if object = reader.object then some handle else line.serialOf object
      input := fun other => if other = handle then [] else line.input other
      log := .opened handle :: line.log })

def close : Serial Unit := do
  let line ← get
  match line.serialOf reader.object with
  | none => return ()
  | some handle =>
      operation env.fault (· == .killed) fun _ line =>
        ((), { line with
          serialOf := fun object => if object = reader.object then none else line.serialOf object
          log := .closed handle :: line.log })

def resetInputBuffer (handle : Nat) : Serial Unit :=
  pyserial env fun line =>
    ((), { line with input := fun other => if other = handle then [] else line.input other })

/-- What the device answers to a command is in the buffer from then on. -/
def write (handle : Nat) (command : Bytes) : Serial Unit := do
  record (.wrote reader.owner handle command)
  pyserial env fun line =>
    ((), { line with
      input := fun other =>
        if other = handle then line.input other ++ env.deliver line.writes else line.input other
      writes := line.writes + 1 })

def flush : Serial Unit := pyserial env fun line => ((), line)

def sleep : Serial Unit := operation env.fault Exn.interrupts fun _ line => ((), line)

/-- `read(size)`: the next bytes, as many as there are. -/
def read (handle size : Nat) : Serial Bytes :=
  pyserial env fun line =>
    ((line.input handle).take size,
     { line with
       input := fun other =>
        if other = handle then (line.input other).drop size else line.input other })

def receive (handle : Nat) : Serial Bytes := do
  let first ← read env handle 1
  match first with
  | [] => return []
  | remainingLength :: _ => do
      let rest ← read env handle remainingLength.toNat
      return first ++ rest

def sendCommand (command : Bytes) : Serial Bytes := do
  let line ← get
  match line.serialOf reader.object with
  | none => throw (.exception "Serial port is not open".toList)
  | some handle => do
      resetInputBuffer env handle
      write env reader handle command
      flush env
      sleep env
      let response ← receive env handle
      record (.answered handle command response)
      return response

def getReaderInfo : Serial Bytes := sendCommand env reader buildGetReaderInfoCommand

def verifyByWorkMode : Serial Bool := do
  let response ← sendCommand env reader (buildGetWorkModeCommand reader.address)
  return isValidCommandResponse response GET_WORK_MODE_COMMAND

def verify : Serial Bool :=
  if reader.verifyMethod ∉ SUPPORTED_VERIFY_METHODS then
    throw (.exception ("Unsupported reader verify method: ".toList ++ reader.verifyMethod))
  else if reader.verifyMethod = VERIFY_WORK_MODE then verifyByWorkMode env reader
  else do
    let response ← getReaderInfo env reader
    if isValidCommandResponse response GET_READER_INFO_COMMAND then return true
    else if reader.verifyMethod = VERIFY_READER_INFO then return false
    else verifyByWorkMode env reader

def note (event : Nat → LineEvent) : Serial Unit := do
  let line ← get
  match line.serialOf reader.object with
  | none => return ()
  | some handle => record (event handle)

def verifyReader : Serial Bool := do
  let answer ← verify env reader
  note reader fun handle => .verified handle answer
  return answer

def getWorkMode : Serial (Option UInt8) := do
  let response ← sendCommand env reader (buildGetWorkModeCommand reader.address)
  let mode := parseWorkModeResponse response
  note reader fun handle => .workMode handle mode
  return mode

def setAnswerMode : Serial Bool := do
  let response ← sendCommand env reader (buildSetAnswerModeCommand reader.address)
  return isValidCommandResponse response SET_WORK_MODE_COMMAND

def inventory : Serial InventoryResult := do
  let response ← sendCommand env reader (buildInventoryCommand reader.address)
  return classifyInventoryResponse response

end Methods

end IDT85Reader

end MvdEdge
