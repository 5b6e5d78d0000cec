import MvdEdge.Health.Network
import Mathlib.Data.List.Forall2

/-! What the telemetry says about itself and about the devices it was collected
from, and what the device parser makes of escaped fields. -/

set_option autoImplicit false

namespace MvdEdge.Network

open Lib.Effect Lib.DelimitedText

/-! ## The choice of the primary device -/

def NetworkType.types : NetworkType → List Str
  | .ETHERNET => ["ethernet".toList]
  | .LTE => ["gsm".toList, "wwan".toList]
  | .WIFI => ["wifi".toList]

def Device.Connected (device : Device) (kind : NetworkType) : Prop :=
  networkType (some device.type) = some kind ∧ device.state = "connected".toList

instance (device : Device) (kind : NetworkType) : Decidable (device.Connected kind) :=
  inferInstanceAs (Decidable (_ ∧ _))

theorem networkType_eq_some_iff {type : Str} {kind : NetworkType} :
    networkType (some type) = some kind ↔ type ∈ kind.types := by
  by_cases known : type ∈ NetworkType.ETHERNET.types ++ NetworkType.LTE.types ++
      NetworkType.WIFI.types
  · simp only [NetworkType.types, List.mem_append, List.mem_cons, List.not_mem_nil,
      or_false] at known
    rcases known with (rfl | rfl | rfl) | rfl <;> cases kind <;> decide
  · have unknown : networkType (some type) = none := by
      simp only [NetworkType.types, List.mem_append, List.mem_cons, List.not_mem_nil,
        or_false, not_or] at known
      obtain ⟨⟨ethernet, gsm, wwan⟩, wifi⟩ := known
      simp only [networkType, Option.some_inj]
      rw [if_neg ethernet, if_neg (not_or.mpr ⟨gsm, wwan⟩), if_neg wifi]
    rw [unknown]
    constructor
    · intro absurd
      simp at absurd
    · intro member
      cases kind <;> simp [member] at known

theorem firstConnected_eq_some {devices : List Device} {kind : NetworkType} {device : Device}
    (first : firstConnected devices kind.types = some device) :
    device ∈ devices ∧ device.Connected kind := by
  have accepted := List.find?_some first
  simp only [Bool.and_eq_true, decide_eq_true_eq, beq_iff_eq] at accepted
  exact ⟨List.mem_of_find?_eq_some first, networkType_eq_some_iff.mpr accepted.1, accepted.2⟩

theorem firstConnected_isSome_iff {devices : List Device} {kind : NetworkType} :
    (firstConnected devices kind.types).isSome = true ↔
      ∃ device ∈ devices, device.Connected kind := by
  rw [firstConnected, List.find?_isSome]
  simp [Device.Connected, networkType_eq_some_iff]

/-- The connected device that stands in for a default route of no known type. -/
def fallbackDevice (devices : List Device) : Option Device :=
  (firstConnected devices NetworkType.ETHERNET.types).or
    ((firstConnected devices NetworkType.LTE.types).or
      (firstConnected devices NetworkType.WIFI.types))

theorem fallbackDevice_eq_some {devices : List Device} {device : Device}
    (found : fallbackDevice devices = some device) :
    ∃ kind, device ∈ devices ∧ device.Connected kind := by
  simp only [fallbackDevice, Option.or_eq_some_iff] at found
  rcases found with ethernet | ⟨_, lte | ⟨_, wifi⟩⟩
  · exact ⟨_, firstConnected_eq_some ethernet⟩
  · exact ⟨_, firstConnected_eq_some lte⟩
  · exact ⟨_, firstConnected_eq_some wifi⟩

theorem fallbackDevice_isSome {devices : List Device} {device : Device} {kind : NetworkType}
    (member : device ∈ devices) (connected : device.Connected kind) :
    (fallbackDevice devices).isSome = true := by
  have some := firstConnected_isSome_iff.mpr ⟨device, member, connected⟩
  simp only [fallbackDevice, Option.isSome_or, Bool.or_eq_true]
  cases kind with
  | ETHERNET => exact .inl some
  | LTE => exact .inr (.inl some)
  | WIFI => exact .inr (.inr some)

/-- The record `ip route` points to, where several have its name the first. -/
def routeRecord (devices : List Device) (defaultInterface : Option Str) : Option Device :=
  devices.find? fun device => some device.interface == defaultInterface

theorem primaryDevice_eq (devices : List Device) (defaultInterface : Option Str) :
    primaryDevice devices defaultInterface =
      match networkType ((routeRecord devices defaultInterface).map (·.type)) with
      | none => fallbackDevice devices
      | some _ => routeRecord devices defaultInterface := rfl

/-! ## Consistency -/

namespace NetworkTelemetry

def connectedOf (telemetry : NetworkTelemetry) : NetworkType → Option Bool
  | .ETHERNET => telemetry.ethernetConnected
  | .LTE => telemetry.lteConnected
  | .WIFI => telemetry.wifiConnected

/-- Telemetry that agrees with itself and with the devices `nmcli` lists. -/
structure Consistent (telemetry : NetworkTelemetry) (devices : List Device) : Prop where
  primary : ∀ kind, telemetry.primaryNetworkType = some kind →
    telemetry.connectedOf kind = some true
  disjunction : ∃ ethernet lte wifi, telemetry.ethernetConnected = some ethernet ∧
    telemetry.lteConnected = some lte ∧ telemetry.wifiConnected = some wifi ∧
      telemetry.networkConnected = some (ethernet || lte || wifi)
  unconnected : telemetry.networkConnected = some false → telemetry.primaryNetworkType = none
  route : ∀ device ∈ devices, some device.interface = telemetry.defaultRouteInterface →
    ∀ kind, device.Connected kind → telemetry.primaryInterface = some device.interface ∧
      telemetry.primaryNetworkType = some kind

/-- What `collect_network_telemetry` reports of the devices, addresses apart. -/
structure Reports (telemetry : NetworkTelemetry) (devices : List Device)
    (defaultInterface : Option Str) : Prop where
  networkConnected : telemetry.networkConnected = some
    ((firstConnected devices NetworkType.ETHERNET.types).isSome ||
      (firstConnected devices NetworkType.LTE.types).isSome ||
      (firstConnected devices NetworkType.WIFI.types).isSome)
  connectedOf : ∀ kind,
    telemetry.connectedOf kind = some (firstConnected devices kind.types).isSome
  primaryNetworkType : telemetry.primaryNetworkType =
    networkType ((primaryDevice devices defaultInterface).map (·.type))
  primaryInterface : telemetry.primaryInterface =
    ((primaryDevice devices defaultInterface).map (·.interface)).or defaultInterface
  defaultRouteInterface : telemetry.defaultRouteInterface = defaultInterface

end NetworkTelemetry

/-- The interface `ip route` reports to a collection that starts after `calls` commands. -/
def Runner.route (runner : Runner) (calls : Nat) : Option Str :=
  routeInterface (runner calls ipRouteCommand IP_ROUTE_TIMEOUT_SECONDS).output

/-- The devices `nmcli` lists to the same collection. -/
def Runner.devices (runner : Runner) (calls : Nat) : List Device :=
  parseNmcliDevices
    ((runner (calls + 1) deviceStatusCommand NMCLI_TIMEOUT_SECONDS).output.getD [])

theorem run_triple (command : List Str) (timeout : ℚ) (runner : Runner) (calls : Nat) :
    Triple (· = calls) (run command timeout runner)
      (fun output next => output = (runner calls command timeout).output ∧ next = calls + 1)
      (fun _ _ => True) := by
  rintro state rfl
  unfold run
  cases runner state command timeout with
  | completed returncode stdout => exact ⟨rfl, rfl⟩
  | failed => exact ⟨rfl, rfl⟩
  | raised failure => trivial

theorem collectNetworkTelemetry_triple (runner : Runner) (calls : Nat) :
    Triple (· = calls) (collectNetworkTelemetry runner)
      (fun telemetry _ => telemetry.networkConnected ≠ none →
        telemetry.Reports (runner.devices calls) (runner.route calls))
      (fun _ _ => True) := by
  rw [collectNetworkTelemetry, defaultRouteInterface]
  apply Triple.through (fun interface next => interface = runner.route calls ∧ next = calls + 1)
  · apply Triple.bind (run_triple _ _ _ _)
    intro output
    apply Triple.pure
    rintro state ⟨rfl, rfl⟩
    exact ⟨rfl, rfl⟩
  intro interface
  apply Triple.through fun output _ => interface = runner.route calls ∧
    output = (runner (calls + 1) deviceStatusCommand NMCLI_TIMEOUT_SECONDS).output
  · rintro state ⟨same, rfl⟩
    apply (run_triple _ _ _ _ _ rfl).imp
    · rintro output next ⟨rfl, -⟩
      exact ⟨same, rfl⟩
    · intro failure next _
      trivial
  rintro devicesOutput state ⟨rfl, printed⟩
  -- The radio state and the addresses play no part in what is compared.
  apply Triple.bind (Triple.any (fun _ => True) _) _ state trivial
  intro radioOutput
  cases devicesOutput with
  | none =>
      apply Triple.pure
      intro _ _ unknown
      exact absurd rfl unknown
  | some output =>
      apply Triple.bind (Triple.any _ _)
      intro primaryIpAddress
      apply Triple.bind (Triple.any _ _)
      intro ethernetIpAddress
      apply Triple.bind (Triple.any _ _)
      intro lteIpAddress
      apply Triple.bind (Triple.any _ _)
      intro wifiIpAddress
      apply Triple.pure
      intro _ _ _
      have listed : runner.devices calls = parseNmcliDevices output := by
        rw [Runner.devices, ← printed, Option.getD_some]
      rw [listed]
      exact {
        networkConnected := rfl
        connectedOf := fun kind => by cases kind <;> rfl
        primaryNetworkType := rfl
        primaryInterface := rfl
        defaultRouteInterface := rfl }

/-- The devices that decide about the default route agree: where its first record is
of a known type, one device of that type is connected and no connected record of its
name is of another; else the connected records of its name are of one type, and the
device that stands in for the route is one of them. -/
def RouteAgrees (devices : List Device) (defaultInterface : Option Str) : Prop :=
  match networkType ((routeRecord devices defaultInterface).map (·.type)) with
  | some kind => (∃ device ∈ devices, device.Connected kind) ∧
      ∀ device ∈ devices, some device.interface = defaultInterface →
        ∀ other, device.Connected other → other = kind
  | none => ∀ device ∈ devices, some device.interface = defaultInterface →
      ∀ kind, device.Connected kind → ∃ fallback, fallbackDevice devices = some fallback ∧
        fallback.interface = device.interface ∧ fallback.Connected kind

namespace NetworkTelemetry.Reports

variable {telemetry : NetworkTelemetry} {devices : List Device} {defaultInterface : Option Str}

theorem connectedOf_iff (reports : telemetry.Reports devices defaultInterface)
    (kind : NetworkType) :
    telemetry.connectedOf kind = some true ↔ ∃ device ∈ devices, device.Connected kind := by
  rw [reports.connectedOf, Option.some_inj, firstConnected_isSome_iff]

theorem networkConnected_iff (reports : telemetry.Reports devices defaultInterface) :
    telemetry.networkConnected = some true ↔
      ∃ kind, ∃ device ∈ devices, device.Connected kind := by
  rw [reports.networkConnected, Option.some_inj]
  simp only [Bool.or_eq_true, firstConnected_isSome_iff]
  constructor
  · rintro ((ethernet | lte) | wifi)
    · exact ⟨_, ethernet⟩
    · exact ⟨_, lte⟩
    · exact ⟨_, wifi⟩
  · rintro ⟨kind, found⟩
    cases kind with
    | ETHERNET => exact .inl (.inl found)
    | LTE => exact .inl (.inr found)
    | WIFI => exact .inr found

theorem disjunction (reports : telemetry.Reports devices defaultInterface) :
    ∃ ethernet lte wifi, telemetry.ethernetConnected = some ethernet ∧
      telemetry.lteConnected = some lte ∧ telemetry.wifiConnected = some wifi ∧
        telemetry.networkConnected = some (ethernet || lte || wifi) :=
  ⟨_, _, _, reports.connectedOf .ETHERNET, reports.connectedOf .LTE, reports.connectedOf .WIFI,
    reports.networkConnected⟩

/-- With the type of every primary device connected, a primary type means a connection. -/
theorem unconnected (reports : telemetry.Reports devices defaultInterface)
    (primary : ∀ kind, telemetry.primaryNetworkType = some kind →
      telemetry.connectedOf kind = some true)
    (off : telemetry.networkConnected = some false) : telemetry.primaryNetworkType = none := by
  cases chosen : telemetry.primaryNetworkType with
  | none => rfl
  | some kind =>
      have found := (reports.connectedOf_iff kind).mp (primary kind chosen)
      rw [reports.networkConnected_iff.mpr ⟨kind, found⟩] at off
      simp at off

/-- Only the type of the primary device and the devices of the default route can
disagree with the rest. -/
theorem consistent_iff (reports : telemetry.Reports devices defaultInterface) :
    telemetry.Consistent devices ↔
      (∀ kind, telemetry.primaryNetworkType = some kind →
        ∃ device ∈ devices, device.Connected kind) ∧
      ∀ device ∈ devices, some device.interface = defaultInterface →
        ∀ kind, device.Connected kind → telemetry.primaryInterface = some device.interface ∧
          telemetry.primaryNetworkType = some kind := by
  constructor
  · intro consistent
    constructor
    · intro kind chosen
      exact (reports.connectedOf_iff kind).mp (consistent.primary kind chosen)
    · intro device member named
      exact consistent.route device member (by rw [named, reports.defaultRouteInterface])
  · rintro ⟨typed, route⟩
    have primary : ∀ kind, telemetry.primaryNetworkType = some kind →
        telemetry.connectedOf kind = some true := by
      intro kind chosen
      exact (reports.connectedOf_iff kind).mpr (typed kind chosen)
    exact {
      primary
      disjunction := reports.disjunction
      unconnected := reports.unconnected primary
      route := by
        rw [reports.defaultRouteInterface]
        exact route }

/-- The first record of the default route has a known type and is the primary device. -/
theorem consistent_iff_of_known (reports : telemetry.Reports devices defaultInterface)
    {kind : NetworkType}
    (known : networkType ((routeRecord devices defaultInterface).map (·.type)) = some kind) :
    telemetry.Consistent devices ↔ (∃ device ∈ devices, device.Connected kind) ∧
      ∀ device ∈ devices, some device.interface = defaultInterface →
        ∀ other, device.Connected other → other = kind := by
  have primary : primaryDevice devices defaultInterface = routeRecord devices defaultInterface := by
    rw [primaryDevice_eq, known]
  have type : telemetry.primaryNetworkType = some kind := by
    rw [reports.primaryNetworkType, primary, known]
  have interface : telemetry.primaryInterface = defaultInterface := by
    rw [reports.primaryInterface, primary]
    cases found : routeRecord devices defaultInterface with
    | none => rfl
    | some record => simpa using List.find?_some found
  rw [reports.consistent_iff, type, interface]
  constructor
  · rintro ⟨typed, route⟩
    refine ⟨typed kind rfl, ?_⟩
    intro device member named other connected
    exact (Option.some_inj.mp (route device member named other connected).2).symm
  · rintro ⟨connected, agree⟩
    constructor
    · intro other chosen
      rw [← Option.some_inj.mp chosen]
      exact connected
    · intro device member named other found
      rw [agree device member named other found]
      exact ⟨named.symm, rfl⟩

/-- The default route has no record of a known type, and the primary device is the
fallback. -/
theorem consistent_iff_of_unknown (reports : telemetry.Reports devices defaultInterface)
    (unknown : networkType ((routeRecord devices defaultInterface).map (·.type)) = none) :
    telemetry.Consistent devices ↔ ∀ device ∈ devices, some device.interface = defaultInterface →
      ∀ kind, device.Connected kind → ∃ fallback, fallbackDevice devices = some fallback ∧
        fallback.interface = device.interface ∧ fallback.Connected kind := by
  have primary : primaryDevice devices defaultInterface = fallbackDevice devices := by
    rw [primaryDevice_eq, unknown]
  have interface := reports.primaryInterface
  have type := reports.primaryNetworkType
  rw [primary] at interface type
  rw [reports.consistent_iff, interface, type]
  constructor
  · rintro ⟨-, route⟩ device member named kind connected
    obtain ⟨fallback, found⟩ := Option.isSome_iff_exists.mp (fallbackDevice_isSome member connected)
    obtain ⟨sameInterface, sameType⟩ := route device member named kind connected
    obtain ⟨other, -, fallbackConnected⟩ := fallbackDevice_eq_some found
    rw [found] at sameInterface sameType
    refine ⟨fallback, found, ?_, sameType, fallbackConnected.2⟩
    simpa using sameInterface
  · intro agree
    constructor
    · intro kind chosen
      cases found : fallbackDevice devices with
      | none =>
          rw [found] at chosen
          simp [networkType] at chosen
      | some fallback =>
          rw [found] at chosen
          obtain ⟨other, member, connected⟩ := fallbackDevice_eq_some found
          exact ⟨fallback, member, chosen, connected.2⟩
    · intro device member named kind connected
      obtain ⟨fallback, found, sameInterface, sameType⟩ :=
        agree device member named kind connected
      rw [found]
      exact ⟨congrArg some sameInterface, sameType.1⟩

end NetworkTelemetry.Reports

/-- Telemetry collected with `nmcli` present is consistent exactly when the devices
agree about the default route: its record is taken as the primary device whether or
not it is connected. -/
theorem collectNetworkTelemetry_consistent_iff {runner : Runner} {calls last : Nat}
    {telemetry : NetworkTelemetry}
    (returned : collectNetworkTelemetry runner calls = .ok telemetry last)
    (known : telemetry.networkConnected ≠ none) :
    telemetry.Consistent (runner.devices calls) ↔
      RouteAgrees (runner.devices calls) (runner.route calls) := by
  have outcome := collectNetworkTelemetry_triple runner calls calls rfl
  rw [returned, holds_ok] at outcome
  have reports := outcome known
  rw [RouteAgrees]
  cases decided : networkType
      ((routeRecord (runner.devices calls) (runner.route calls)).map (·.type)) with
  | none => exact reports.consistent_iff_of_unknown decided
  | some kind => exact reports.consistent_iff_of_known decided

/-- A machine on which `ip` and `nmcli` print these texts, and the radio is unknown. -/
def printingRunner (routes devices : String) : Runner := fun _ command _ =>
  if command = ipRouteCommand then .completed 0 routes.toList
  else if command = deviceStatusCommand then .completed 0 devices.toList
  else .failed

theorem collectNetworkTelemetry_consistent_iff_cable :
    let runner := printingRunner "default via 10.0.0.1 dev eth1 proto dhcp\n"
      "eth1:ethernet:connected:Wired connection 2\n"
    ∃ telemetry last, collectNetworkTelemetry runner 0 = .ok telemetry last ∧
      telemetry.networkConnected ≠ none ∧ telemetry.Consistent (runner.devices 0) := by
  intro runner
  have online : (match collectNetworkTelemetry runner 0 with
      | .ok telemetry _ => telemetry.networkConnected == some true
      | .error _ _ => false) = true := by decide +kernel
  cases ran : collectNetworkTelemetry runner 0 with
  | error failure last => simp [ran] at online
  | ok telemetry last =>
      have known : telemetry.networkConnected ≠ none := by
        simp only [ran, beq_iff_eq] at online
        simp [online]
      have agrees : RouteAgrees (runner.devices 0) (runner.route 0) := by
        have cable : runner.devices 0 = [⟨"eth1".toList, "ethernet".toList, "connected".toList,
          "Wired connection 2".toList⟩] := by decide +kernel
        have route : runner.route 0 = some "eth1".toList := by decide +kernel
        rw [cable, route]
        refine ⟨⟨_, List.mem_cons_self, by decide, by decide⟩, ?_⟩
        intro device member _ other connected
        rw [List.mem_singleton.mp member] at connected
        revert connected
        cases other <;> decide
      exact ⟨telemetry, last, rfl, known,
        (collectNetworkTelemetry_consistent_iff ran known).mpr agrees⟩

/-- A cable that is still connecting holds the default route: Ethernet is the primary
network of a machine reported without Ethernet and without network. -/
theorem collectNetworkTelemetry_inconsistent :
    ¬ ∀ (runner : Runner) (calls last : Nat) (telemetry : NetworkTelemetry),
      collectNetworkTelemetry runner calls = .ok telemetry last →
        telemetry.networkConnected ≠ none → telemetry.Consistent (runner.devices calls) := by
  intro claim
  let runner := printingRunner "default via 10.0.0.1 dev eth1 proto dhcp\n"
    "eth1:ethernet:connecting (getting IP configuration):Wired connection 2\n"
  have observed : (match collectNetworkTelemetry runner 0 with
      | .ok telemetry _ => telemetry.primaryNetworkType == some .ETHERNET &&
          telemetry.networkConnected == some false
      | .error _ _ => false) = true := by decide +kernel
  cases ran : collectNetworkTelemetry runner 0 with
  | error failure last => simp [ran] at observed
  | ok telemetry last =>
      simp only [ran, Bool.and_eq_true, beq_iff_eq] at observed
      have consistent := claim runner 0 last telemetry ran (by simp [observed.2])
      have idle := consistent.unconnected observed.2
      simp [observed.1] at idle

/-! ## Escaped fields -/

/-- `nmcli -t`: the fields of a device joined by colons, colons and backslashes inside
them escaped. -/
def terseField (field : Str) : Str := escape [':', '\\'] '\\' field

def terseDevice (device : Device) : Str :=
  [':'].intercalate
    ([device.interface, device.type, device.state, device.connection].map terseField)

def terse (devices : List Device) : Str :=
  devices.flatMap fun device => terseDevice device ++ ['\n']

/-- The characters of a record, in one field or another. -/
def Device.text (device : Device) : Str :=
  device.interface ++ device.type ++ device.state ++ device.connection

/-- `--` stands for no connection. -/
def Device.withoutDashes (device : Device) : Device :=
  { device with connection := if device.connection = "--".toList then [] else device.connection }

theorem strip_ne_nil {char : Char} {text : Str} (member : char ∈ text)
    (visible : isSpace char = false) : strip text ≠ [] := by
  intro blank
  rw [strip, List.reverse_eq_nil_iff, List.dropWhile_eq_nil_iff] at blank
  have kept : char ∈ text.dropWhile isSpace := by
    have parts := List.takeWhile_append_dropWhile (p := isSpace) (l := text)
    rw [← parts, List.mem_append] at member
    rcases member with skipped | kept
    · rw [List.mem_takeWhile_imp skipped] at visible
      contradiction
    · exact kept
  rw [blank char (List.mem_reverse.mpr kept)] at visible
  contradiction

theorem terseField_eq {field : Str} (plain : ':' ∉ field ∧ '\\' ∉ field) :
    terseField field = field := by
  apply escape_eq_self
  intro char special
  rcases List.mem_cons.mp special with rfl | special
  · exact plain.1
  · rw [List.mem_singleton.mp special]
    exact plain.2

theorem terseDevice_eq (device : Device) : terseDevice device =
    terseField device.interface ++ ':' :: (terseField device.type ++
      ':' :: (terseField device.state ++ ':' :: terseField device.connection)) := by
  simp [terseDevice, List.intercalate]

theorem strip_terseDevice_ne_nil (device : Device) : strip (terseDevice device) ≠ [] := by
  have colon : ':' ∈ terseDevice device := by simp [terseDevice_eq]
  exact strip_ne_nil colon (by decide)

theorem terseField_unbroken {field : Str} (singleLine : ∀ char ∈ field, isLineBreak char = false) :
    ∀ char ∈ terseField field, isLineBreak char = false := by
  intro char member
  rcases mem_escape member with rfl | inside
  · decide
  · exact singleLine char inside

theorem terseDevice_unbroken {device : Device}
    (singleLine : ∀ char ∈ device.text, isLineBreak char = false) :
    ∀ char ∈ terseDevice device, isLineBreak char = false := by
  simp only [Device.text, List.forall_mem_append] at singleLine
  obtain ⟨⟨⟨interface, type⟩, state⟩, connection⟩ := singleLine
  simp only [terseDevice_eq, List.forall_mem_append, List.forall_mem_cons]
  exact ⟨terseField_unbroken interface, by decide, terseField_unbroken type, by decide,
    terseField_unbroken state, by decide, terseField_unbroken connection⟩

/-- However its fields read, a record is one record again. -/
theorem parseNmcliDevice_terse_isSome (device : Device) :
    ∃ parsed, parseNmcliDevice (terseDevice device) = some parsed := by
  have colons : 3 ≤ (terseDevice device).count ':' := by
    simp only [terseDevice_eq, List.count_append, List.count_cons_self]
    omega
  have four := length_splitFields colons
  rw [parseNmcliDevice, if_neg (strip_terseDevice_ne_nil device)]
  match splitFields ':' 3 (terseDevice device), four with
  | [interface, type, state, connection], _ => exact ⟨_, rfl⟩

theorem parseNmcliDevice_terse {device : Device} (plain : ':' ∉ device.text ∧ '\\' ∉ device.text) :
    parseNmcliDevice (terseDevice device) = some device.withoutDashes := by
  simp only [Device.text, List.mem_append, not_or] at plain
  obtain ⟨⟨⟨⟨interface, type⟩, state⟩, connection⟩, marks⟩ := plain
  obtain ⟨⟨⟨interfaceMarks, typeMarks⟩, stateMarks⟩, connectionMarks⟩ := marks
  rw [parseNmcliDevice, if_neg (strip_terseDevice_ne_nil device), terseDevice_eq,
    terseField_eq ⟨interface, interfaceMarks⟩, terseField_eq ⟨type, typeMarks⟩,
    terseField_eq ⟨state, stateMarks⟩, terseField_eq ⟨connection, connectionMarks⟩,
    splitFields_append interface, splitFields_append type, splitFields_append state]
  simp only [splitFields, Device.withoutDashes, ne_eq, ite_not]

/-- Every record of single-line fields comes back from `nmcli`'s terse output as one record
in its place, and one without colons and backslashes as it was, `--` as no connection. -/
theorem parseNmcliDevices_terse {devices : List Device}
    (singleLine : ∀ device ∈ devices, ∀ char ∈ device.text, isLineBreak char = false) :
    List.Forall₂
      (fun device parsed => ':' ∉ device.text ∧ '\\' ∉ device.text →
        parsed = device.withoutDashes)
      devices (parseNmcliDevices (terse devices)) := by
  have lines : splitlines (terse devices) = devices.map terseDevice := by
    rw [terse, ← List.flatMap_map terseDevice (· ++ ['\n'])]
    apply splitLines_flatMap (by decide) (by simp)
    intro line member
    obtain ⟨device, listed, rfl⟩ := List.mem_map.mp member
    exact terseDevice_unbroken (singleLine device listed)
  rw [parseNmcliDevices, lines]
  clear lines singleLine
  induction devices with
  | nil => exact .nil
  | cons device devices ih =>
      obtain ⟨parsed, found⟩ := parseNmcliDevice_terse_isSome device
      rw [List.map_cons, List.filterMap_cons_some found]
      apply List.Forall₂.cons _ ih
      intro plain
      rw [parseNmcliDevice_terse plain, Option.some_inj] at found
      exact found.symm

theorem singleLine_of_all {devices : List Device}
    (all : (devices.all fun device => device.text.all fun char => !isLineBreak char) = true) :
    ∀ device ∈ devices, ∀ char ∈ device.text, isLineBreak char = false := by
  simpa using all

theorem parseNmcliDevices_terse_pair :
    let devices : List Device :=
      [⟨"eth1".toList, "ethernet".toList, "connected".toList, "Wired connection 2".toList⟩,
        ⟨"wlan0".toList, "wifi".toList, "disconnected".toList, "--".toList⟩]
    List.Forall₂
      (fun device parsed => ':' ∉ device.text ∧ '\\' ∉ device.text →
        parsed = device.withoutDashes)
      devices (parseNmcliDevices (terse devices)) :=
  parseNmcliDevices_terse (singleLine_of_all (by decide +kernel))

/-- A connection name with a colon is left escaped, and one of two dashes is dropped. -/
theorem parseNmcliDevices_terse_altered : ¬ ∀ devices : List Device,
    (∀ device ∈ devices, ∀ char ∈ device.text, isLineBreak char = false) →
      (∀ device ∈ devices, device.interface ≠ [] ∧ device.type ≠ [] ∧ device.state ≠ []) →
        parseNmcliDevices (terse devices) = devices := by
  intro claim
  have same := claim
    [⟨"eth1".toList, "ethernet".toList, "connected".toList, "Office: floor 2".toList⟩,
      ⟨"wlan0".toList, "wifi".toList, "connected".toList, "--".toList⟩]
    (singleLine_of_all (by decide +kernel)) (by decide +kernel)
  revert same
  decide +kernel

end MvdEdge.Network
