import MvdEdge.Health.State
import MvdEdge.Lib.DelimitedText
import MvdEdge.Lib.Effect

/-! Network telemetry: the default route of `ip` and the devices and radio state of
`nmcli`, read from the texts the two print. The state of a collection is the
number of commands run so far. -/

set_option autoImplicit false

namespace MvdEdge.Network

open Lib.DelimitedText

/-! ## Texts -/

/-- Characters at which `str.splitlines` ends a line. -/
def isLineBreak (char : Char) : Bool :=
  let code := char.toNat
  (10 ≤ code && code ≤ 13) || (28 ≤ code && code ≤ 30) || code == 0x85 ||
    code == 0x2028 || code == 0x2029

def splitlines (text : Str) : List Str :=
  splitLines isLineBreak (fun char next => char == '\r' && next == '\n') [] text

/-- `str.split()`. -/
def splitWords (text : Str) : List Str := (text.splitOnP isSpace).filter (· ≠ [])

/-- `str.split`, without a limit. -/
def splitAll (separator : Char) (text : Str) : List Str :=
  splitFields separator text.length text

/-! ## Commands -/

inductive RunOutcome where
  | completed (returncode : Int) (stdout : Str)
  /-- An `OSError` or a `SubprocessError`. -/
  | failed
  | raised (failure : Exn)

/-- What becomes of the commands, by the number of those run before. -/
abbrev Runner := Nat → List Str → ℚ → RunOutcome

def NMCLI_TIMEOUT_SECONDS : ℚ := 3 / 2
def IP_ROUTE_TIMEOUT_SECONDS : ℚ := 1

def RunOutcome.output : RunOutcome → Option Str
  | .completed returncode stdout => if returncode ≠ 0 then none else some stdout
  | _ => none

/-- `_run`. -/
def run (command : List Str) (timeout : ℚ) (runner : Runner) :
    EStateM Exn Nat (Option Str) := fun calls =>
  match runner calls command timeout with
  | .raised failure => .error failure (calls + 1)
  | outcome => .ok outcome.output (calls + 1)

def ipRouteCommand : List Str := ["ip", "route", "show", "default"].map String.toList

def deviceStatusCommand : List Str :=
  ["nmcli", "-t", "-f", "DEVICE,TYPE,STATE,CONNECTION", "device", "status"].map String.toList

def radioCommand : List Str :=
  ["nmcli", "-t", "-f", "WIFI-HW,WIFI,WWAN-HW,WWAN", "radio"].map String.toList

def ipAddressCommand (interface : Str) : List Str :=
  ["nmcli", "-t", "-f", "IP4.ADDRESS", "device", "show"].map String.toList ++ [interface]

/-! ## What the commands print -/

def routeDevice (line : Str) : Option Str :=
  let parts := splitWords line
  if parts.take 1 = ["default".toList] ∧ "dev".toList ∈ parts then
    parts[parts.idxOf "dev".toList + 1]?
  else none

/-- The interface `ip route` names, `none` standing for no output. -/
def routeInterface (output : Option Str) : Option Str :=
  (splitlines (output.getD [])).findSome? routeDevice

def defaultRouteInterface (runner : Runner) : EStateM Exn Nat (Option Str) := do
  let output ← run ipRouteCommand IP_ROUTE_TIMEOUT_SECONDS runner
  return routeInterface output

structure Device where
  interface : Str
  type : Str
  state : Str
  connection : Str
  deriving DecidableEq

def parseNmcliDevice (line : Str) : Option Device :=
  if strip line = [] then none
  else
    match splitFields ':' 3 line with
    | [interface, type, state, connection] =>
        some ⟨interface, type, state, if connection ≠ "--".toList then connection else []⟩
    | _ => none

def parseNmcliDevices (output : Str) : List Device :=
  (splitlines output).filterMap parseNmcliDevice

/-- The texts looked for are ASCII, and no other character has a lower case in them. -/
def parseWifiAvailable (output : Option Str) : Option Bool :=
  if strip (output.getD []) = [] then none
  else
    let firstLine := strip ((splitlines (output.getD [])).headD [])
    match splitAll ':' firstLine with
    | [wifiHw, _, _, _] =>
        let wifiHw := (strip wifiHw).map Char.toLower
        if wifiHw = "missing".toList then some false
        else if wifiHw = "enabled".toList ∨ wifiHw = "disabled".toList then some true
        else none
    | _ => none

/-- The line loop of `nmcli_ip_address`; `line.split(":", 1)[1]` can raise. -/
def firstIpAddress : List Str → Except Exn (Option Str)
  | [] => .ok none
  | line :: lines =>
      if "IP4.ADDRESS".toList.isPrefixOf line then
        match splitFields ':' 1 line with
        | _ :: rest :: _ =>
            let value := strip ((splitFields '/' 1 rest).headD [])
            if value ≠ [] then .ok (some value) else firstIpAddress lines
        | _ => .error (.exception "list index out of range".toList)
      else firstIpAddress lines

def nmcliIpAddress (interface : Option Str) (runner : Runner) : EStateM Exn Nat (Option Str) :=
  match interface with
  | none | some [] => return none
  | some interface => do
      let output ← run (ipAddressCommand interface) NMCLI_TIMEOUT_SECONDS runner
      match firstIpAddress (splitlines (output.getD [])) with
      | .ok address => return address
      | .error failure => throw failure

/-! ## Telemetry -/

inductive NetworkType where
  | ETHERNET
  | LTE
  | WIFI
  deriving DecidableEq, Repr

/-- `_network_type`. -/
def networkType (deviceType : Option Str) : Option NetworkType :=
  if deviceType = some "ethernet".toList then some .ETHERNET
  else if deviceType = some "gsm".toList ∨ deviceType = some "wwan".toList then some .LTE
  else if deviceType = some "wifi".toList then some .WIFI
  else none

/-- `_first_connected`. -/
def firstConnected (devices : List Device) (types : List Str) : Option Device :=
  devices.find? fun device => decide (device.type ∈ types) && device.state == "connected".toList

structure NetworkTelemetry where
  networkConnected : Option Bool := none
  primaryNetworkType : Option NetworkType := none
  primaryInterface : Option Str := none
  primaryConnectionName : Option Str := none
  primaryIpAddress : Option Str := none
  ethernetConnected : Option Bool := none
  ethernetInterface : Option Str := none
  ethernetConnectionName : Option Str := none
  ethernetIpAddress : Option Str := none
  lteConnected : Option Bool := none
  lteInterface : Option Str := none
  lteConnectionName : Option Str := none
  lteIpAddress : Option Str := none
  wifiAvailable : Option Bool := none
  wifiConnected : Option Bool := none
  wifiInterface : Option Str := none
  wifiConnectionName : Option Str := none
  wifiIpAddress : Option Str := none
  defaultRouteInterface : Option Str := none

/-- The device of the default route if its type is known, else a connected one. -/
def primaryDevice (devices : List Device) (defaultInterface : Option Str) : Option Device :=
  let defaultDevice := devices.find? fun device => some device.interface == defaultInterface
  match networkType (defaultDevice.map (·.type)) with
  | none =>
      (firstConnected devices ["ethernet".toList]).or
        ((firstConnected devices ["gsm".toList, "wwan".toList]).or
          (firstConnected devices ["wifi".toList]))
  | some _ => defaultDevice

def collectNetworkTelemetry (runner : Runner) : EStateM Exn Nat NetworkTelemetry := do
  let defaultInterface ← defaultRouteInterface runner
  let devicesOutput ← run deviceStatusCommand NMCLI_TIMEOUT_SECONDS runner
  let radioOutput ← run radioCommand NMCLI_TIMEOUT_SECONDS runner
  match devicesOutput with
  | none => return { defaultRouteInterface := defaultInterface }
  | some devicesOutput =>
      let devices := parseNmcliDevices devicesOutput
      let ethernet := firstConnected devices ["ethernet".toList]
      let lte := firstConnected devices ["gsm".toList, "wwan".toList]
      let wifi := firstConnected devices ["wifi".toList]
      let primary := primaryDevice devices defaultInterface
      let primaryIpAddress ← nmcliIpAddress (primary.map (·.interface)) runner
      let ethernetIpAddress ← nmcliIpAddress (ethernet.map (·.interface)) runner
      let lteIpAddress ← nmcliIpAddress (lte.map (·.interface)) runner
      let wifiIpAddress ← nmcliIpAddress (wifi.map (·.interface)) runner
      return {
        networkConnected := some (ethernet.isSome || lte.isSome || wifi.isSome)
        primaryNetworkType := networkType (primary.map (·.type))
        primaryInterface := (primary.map (·.interface)).or defaultInterface
        primaryConnectionName := primary.map (·.connection)
        primaryIpAddress
        ethernetConnected := some ethernet.isSome
        ethernetInterface := ethernet.map (·.interface)
        ethernetConnectionName := ethernet.map (·.connection)
        ethernetIpAddress
        lteConnected := some lte.isSome
        lteInterface := lte.map (·.interface)
        lteConnectionName := lte.map (·.connection)
        lteIpAddress
        wifiAvailable := parseWifiAvailable radioOutput
        wifiConnected := some wifi.isSome
        wifiInterface := wifi.map (·.interface)
        wifiConnectionName := wifi.map (·.connection)
        wifiIpAddress
        defaultRouteInterface := defaultInterface }

end MvdEdge.Network
