import MvdEdge.Adapters.Idt85
import MvdEdge.Numerals
import Mathlib.Data.List.Sort

/-! AUTO discovery: port descriptions are normalised, filtered and ranked, and
each remaining port is opened, asked and closed again. -/

set_option autoImplicit false

namespace MvdEdge

open Lib Lib.Effect

inductive UsbId where
  | none
  | int (value : Int)
  | str (text : Str)
  | other

/-- A port description of `list_ports.comports()`, absent attributes as `none`. -/
structure PortInfo where
  device : Str
  stablePath : Option Str := .none
  description : Option Str := .none
  manufacturer : Option Str := .none
  vid : UsbId := .none
  pid : UsbId := .none
  serialNumber : Option Str := .none

/-- The ports of the machine at one moment, the existing entries of
`/dev/serial/by-id` in order, and `Path.resolve`. -/
structure PortSurvey where
  portInfos : List PortInfo
  byIdPaths : List Str
  resolved : Str → Option Str

structure Metadata where
  port : Str
  stablePath : Option Str
  description : Option Str
  manufacturer : Option Str
  vid : Option Int
  pid : Option Int
  serialNumber : Option Str

structure UsbFilter where
  usbVendorId : Option Int
  usbProductId : Option Int
  usbSerial : Option Str

structure DiscoveredSerialDevice where
  port : Str
  metadata : Metadata
  readerVerified : Bool
  error : Option Str

structure DiscoveryResult where
  selectedPort : Option Str
  devices : List DiscoveredSerialDevice
  message : Str

def DiscoveryResult.supportedReaders (result : DiscoveryResult) : List DiscoveredSerialDevice :=
  result.devices.filter (·.readerVerified)

/-- `value or ...`, for a text: an empty one counts as absent. -/
def orElse (text : Option Str) (other : Option Str) : Option Str :=
  match text with
  | some (char :: rest) => some (char :: rest)
  | _ => other

def normalizeUsbId : UsbId → Option Int
  | .none => none
  | .int value => some value
  | .str text => int (strip text) 16
  | .other => none

def normalizeUsbSerial (value : Option Str) : Option Str :=
  value.bind fun text => orElse (some (strip text)) none

/-- `stable_paths_by_target.get`: of two paths with one target the later counts. -/
def PortSurvey.stablePathOf (survey : PortSurvey) (target : Str) : Option Str :=
  survey.byIdPaths.reverse.find? fun path =>
    decide (orElse (survey.resolved path) none = some target)

def metadataWithStablePath (survey : PortSurvey) (portInfo : PortInfo) : Metadata where
  port := portInfo.device
  stablePath :=
    match orElse portInfo.stablePath none with
    | some path => some path
    | none => orElse (survey.stablePathOf portInfo.device)
        (survey.stablePathOf ((survey.resolved portInfo.device).getD []))
  description := portInfo.description
  manufacturer := portInfo.manufacturer
  vid := normalizeUsbId portInfo.vid
  pid := normalizeUsbId portInfo.pid
  serialNumber := normalizeUsbSerial portInfo.serialNumber

def contains (needle haystack : Str) : Bool := haystack.tails.any fun rest => needle.isPrefixOf rest

def containsAny (needles : List String) (haystack : Str) : Bool :=
  needles.any fun needle => contains needle.toList haystack

def Metadata.candidatePort (metadata : Metadata) : Str :=
  (orElse metadata.stablePath none).getD metadata.port

def rankKey (metadata : Metadata) : Nat × Str :=
  let device := metadata.candidatePort
  let haystack := (device ++ " ".toList ++ metadata.description.getD [] ++ " ".toList ++
    metadata.manufacturer.getD []).map Char.toLower
  if "/dev/serial/by-id/".toList.isPrefixOf device then (0, device)
  else if containsAny ["usbserial", "usb-to-serial", "usb serial"] haystack then (1, device)
  else if containsAny ["ttyusb", "ttyacm", "slab_usbtouart"] haystack then (2, device)
  else if "COM".toList.isPrefixOf (upper device) then (3, device)
  else (4, device)

def RankedBefore (left right : Metadata) : Prop :=
  (rankKey left).1 < (rankKey right).1 ∨
    ((rankKey left).1 = (rankKey right).1 ∧ ¬ (rankKey right).2 < (rankKey left).2)

instance (left right : Metadata) : Decidable (RankedBefore left right) :=
  inferInstanceAs (Decidable (_ ∨ _))

def matchesUsbFilter (filter : UsbFilter) (metadata : Metadata) : Bool :=
  (filter.usbVendorId.isNone || decide (metadata.vid = filter.usbVendorId)) &&
    (filter.usbProductId.isNone || decide (metadata.pid = filter.usbProductId)) &&
    ((orElse filter.usbSerial none).isNone || decide (metadata.serialNumber = filter.usbSerial))

structure ProbeSettings where
  baudrate : Nat
  readerAddress : UInt8
  readerVerifyMethod : Str

section Probing

variable (env : LineEnv) (settings : ProbeSettings)

def probeReaderPort (port : Str) : Serial (Bool × Option Str) := do
  let reader ← IDT85Reader.new port settings.baudrate settings.readerAddress
    settings.readerVerifyMethod .discovery
  ensuring Exn.unwinds
    (do
      let answer ← attempt Exn.caught (do
        reader.open env
        reader.verifyReader env)
      match answer with
      | .ok verified => return (verified, none)
      | .error message => return (false, some message))
    (reader.close env)

def probeAll : List Metadata → List DiscoveredSerialDevice → Serial (List DiscoveredSerialDevice)
  | [], devices => return devices
  | metadata :: rest, devices => do
      let (verified, error) ← probeReaderPort env settings metadata.candidatePort
      probeAll rest
        (devices ++ [⟨metadata.candidatePort, metadata, verified, error⟩])

def discoverReaderPort (filter : UsbFilter) (survey : PortSurvey) : Serial DiscoveryResult := do
  let allMetadata := survey.portInfos.map (metadataWithStablePath survey)
  let filteredMetadata := allMetadata.filter (matchesUsbFilter filter)
  let devices ← probeAll env settings (filteredMetadata.insertionSort RankedBefore) []
  match devices.filter (·.readerVerified) with
  | [supported] => return ⟨some supported.port, devices, "Reader selected".toList⟩
  | [] =>
      if allMetadata.length ≠ filteredMetadata.length then
        return ⟨none, devices, "No supported reader found for configured USB filters".toList⟩
      else return ⟨none, devices, "No supported reader found".toList⟩
  | _ =>
      return ⟨none, devices,
        "Multiple supported readers found; configure SERIAL_PORT explicitly".toList⟩

end Probing

end MvdEdge
