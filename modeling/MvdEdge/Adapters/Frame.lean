import MvdEdge.Base
import MvdEdge.Lib.Records

/-! The IDT-85 wire format: the CRC, command frames, and the decoders of the
reader's answers. Every index into a response is guarded by the check in front
of it. -/

set_option autoImplicit false

namespace MvdEdge

def INVENTORY_COMMAND : UInt8 := 0x01
def INVENTORY_NO_TAG_STATUS : UInt8 := 0xFB
def GET_READER_INFO_COMMAND : UInt8 := 0x21
def GET_WORK_MODE_COMMAND : UInt8 := 0x36
def SET_WORK_MODE_COMMAND : UInt8 := 0x35
def ANSWER_MODE : UInt8 := 0x00
def SCAN_MODE : UInt8 := 0x01
def ANSWER_MODE_PARAMS : Bytes := [0x00, 0x00, 0x05, 0x00, 0x01, 0x00]

inductive InventoryStatus where
  | VALID
  | NO_RESPONSE
  | MALFORMED
  deriving DecidableEq, Repr

def InventoryStatus.value : InventoryStatus → Str
  | .VALID => "VALID".toList
  | .NO_RESPONSE => "NO_RESPONSE".toList
  | .MALFORMED => "MALFORMED".toList

structure InventoryResult where
  status : InventoryStatus
  tags : List Str
  deriving DecidableEq

def InventoryResult.malformed : InventoryResult := ⟨.MALFORMED, []⟩

def crcShift (crc : BitVec 16) : BitVec 16 :=
  if crc &&& 1#16 ≠ 0#16 then (crc >>> 1) ^^^ 0x8408#16 else crc >>> 1

def crcByte (crc : BitVec 16) (value : UInt8) : BitVec 16 :=
  crcShift^[8] (crc ^^^ value.toBitVec.setWidth 16)

def crc16 (data : Bytes) : BitVec 16 := data.foldl crcByte 0xFFFF#16

def crcTrailer (body : Bytes) : Bytes :=
  [UInt8.ofBitVec ((crc16 body).setWidth 8), UInt8.ofBitVec ((crc16 body >>> 8).setWidth 8)]

/-- `make_command`. Outside `fits`, `bytes([length, ...])` raises. -/
def makeCommand (address command : UInt8) (params : Bytes)
    (_fits : 1 + 1 + params.length + 2 < 256 := by decide) : Bytes :=
  let length := 1 + 1 + params.length + 2
  let body := [UInt8.ofNat length, address, command] ++ params
  body ++ crcTrailer body

def buildInventoryCommand (address : UInt8) : Bytes := makeCommand address INVENTORY_COMMAND []

def buildGetReaderInfoCommand (address : UInt8 := 0xFF) : Bytes :=
  makeCommand address GET_READER_INFO_COMMAND []

def buildGetWorkModeCommand (address : UInt8) : Bytes :=
  makeCommand address GET_WORK_MODE_COMMAND []

def buildSetAnswerModeCommand (address : UInt8) : Bytes :=
  makeCommand address SET_WORK_MODE_COMMAND ANSWER_MODE_PARAMS

def isValidCommandResponse (response : Bytes) (command : UInt8) : Bool :=
  if short : response.length < 5 then false else response[2] == command

def parseWorkModeResponse (response : Bytes) : Option UInt8 :=
  if isValidCommandResponse response GET_WORK_MODE_COMMAND = false then none
  else if short : response.length < 5 then none
  else some response[4]

def hexDigits : List Char := "0123456789ABCDEF".toList

/-- `epc_bytes.hex().upper()`. -/
def hexUpper (data : Bytes) : Str :=
  data.flatMap fun byte =>
    [hexDigits.getD (byte.toNat / 16) '0', hexDigits.getD (byte.toNat % 16) '0']

/-- The record loop of `parse_inventory_response`: a `break` keeps the tags so far. -/
def parsedRecords (response : Bytes) : Nat → Nat → List Str → List Str
  | 0, _, tags => tags
  | turns + 1, position, tags =>
      if trailer : position ≥ response.length - 2 then tags
      else
        let epcLength := response[position].toNat
        if position + 1 + epcLength > response.length - 2 then tags
        else
          let epcBytes := (response.drop (position + 1)).take epcLength
          parsedRecords response turns (position + 1 + epcLength) (tags ++ [hexUpper epcBytes])

def parseInventoryResponse (response : Bytes) : List Str :=
  if short : response.length < 6 then []
  else if response[2] ≠ INVENTORY_COMMAND then []
  else if response[3] ∉ ([0x01, 0x02, 0x03, 0x04] : Bytes) then []
  else parsedRecords response response[4].toNat 5 []

def hasValidCrc (response : Bytes) : Bool :=
  if short : response.length < 3 then false
  else
    let expected := crc16 (response.take (response.length - 2))
    let actual := response[response.length - 2].toBitVec.setWidth 16 |||
      (response[response.length - 1].toBitVec.setWidth 16 <<< 8)
    expected == actual

def isNoTagInventoryResponse (response : Bytes) : Bool :=
  if six : response.length = 6 then
    response[0] == 0x05 && response[2] == INVENTORY_COMMAND &&
      response[3] == INVENTORY_NO_TAG_STATUS && hasValidCrc response
  else false

/-- The record loop of `classify_inventory_response`, with the turns left, the
running position and the tags so far. -/
def inventoryRecords (response : Bytes) : Nat → Nat → List Str → Option (List Str)
  | 0, _, tags => some tags
  | turns + 1, position, tags =>
      if trailer : position ≥ response.length - 2 then none
      else
        let epcLength := response[position].toNat
        if position + 1 + epcLength > response.length - 2 then none
        else
          let epcBytes := (response.drop (position + 1)).take epcLength
          inventoryRecords response turns (position + 1 + epcLength)
            (tags ++ [hexUpper epcBytes])

def classifyInventoryResponse (response : Bytes) : InventoryResult :=
  if empty : response = [] then ⟨.NO_RESPONSE, []⟩
  else
    have nonempty : 0 < response.length := List.length_pos_of_ne_nil empty
    let expectedLength := response[0].toNat + 1
    if response[0] ≠ 0 ∧ response.length ≠ expectedLength then .malformed
    else if short : response.length < 6 then .malformed
    else if response[2] ≠ INVENTORY_COMMAND then .malformed
    else if isNoTagInventoryResponse response then ⟨.VALID, []⟩
    else if response[3] ∉ ([0x01, 0x02, 0x03, 0x04] : Bytes) then .malformed
    else
      match inventoryRecords response response[4].toNat 5 [] with
      | none => .malformed
      | some tags => ⟨.VALID, tags⟩

example : buildInventoryCommand 0x00 = [0x04, 0x00, 0x01, 0xDB, 0x4B] := by
  decide +kernel

example : classifyInventoryResponse [0x05, 0x00, 0x01, 0xFB, 0xF2, 0x3D] = ⟨.VALID, []⟩ := by
  decide +kernel

end MvdEdge
