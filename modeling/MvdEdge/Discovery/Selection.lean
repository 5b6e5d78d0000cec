import MvdEdge.Discovery.Serial

/-! Discovery with readers of any make, as `reader_factory` allows, and what it does
when each port answers in a way of its own: which ports it opens, which one it
selects, and that the order in which the ports are enumerated is of no account. -/

set_option autoImplicit false

namespace MvdEdge

open Lib.Effect

/-- The element of a list that has no other. -/
def only {α : Type} : List α → Option α
  | [element] => some element
  | _ => none

theorem only_perm {α : Type} {left right : List α} (same : left.Perm right) :
    only left = only right := by
  cases left with
  | nil => rw [same.nil_eq]
  | cons element rest =>
      cases rest with
      | nil => rw [List.singleton_perm.mp same]
      | cons another rest =>
          have many := same.length_eq
          match right, many with
          | _ :: _ :: _, _ => rfl

theorem only_map {α β : Type} (read : α → β) (list : List α) :
    only (list.map read) = (only list).map read := by
  match list with
  | [] => rfl
  | [_] => rfl
  | _ :: _ :: _ => rfl

/-- A `reader_factory` and the methods of its readers that a probe calls. -/
structure ReaderFactory (σ ρ : Type) where
  make : Str → ProbeSettings → EStateM Exn σ ρ
  «open» : ρ → EStateM Exn σ Unit
  verifyReader : ρ → EStateM Exn σ Bool
  close : ρ → EStateM Exn σ Unit

namespace ReaderFactory

section Discovery

variable {σ ρ : Type} (factory : ReaderFactory σ ρ) (settings : ProbeSettings)

def probeReaderPort (port : Str) : EStateM Exn σ (Bool × Option Str) := do
  let reader ← factory.make port settings
  ensuring Exn.unwinds
    (do
      let answer ← attempt Exn.caught (do
        factory.open reader
        factory.verifyReader reader)
      match answer with
      | .ok verified => return (verified, none)
      | .error message => return (false, some message))
    (factory.close reader)

def probeAll : List Metadata → List DiscoveredSerialDevice →
    EStateM Exn σ (List DiscoveredSerialDevice)
  | [], devices => return devices
  | metadata :: rest, devices => do
      let (verified, error) ← factory.probeReaderPort settings metadata.candidatePort
      probeAll rest (devices ++ [⟨metadata.candidatePort, metadata, verified, error⟩])

/-- The end of `discover_reader_port`, the probes done. -/
def concluded (devices : List DiscoveredSerialDevice) (narrowed : Bool) : DiscoveryResult :=
  match devices.filter (·.readerVerified) with
  | [supported] => ⟨some supported.port, devices, "Reader selected".toList⟩
  | [] =>
      if narrowed then
        ⟨none, devices, "No supported reader found for configured USB filters".toList⟩
      else ⟨none, devices, "No supported reader found".toList⟩
  | _ =>
      ⟨none, devices, "Multiple supported readers found; configure SERIAL_PORT explicitly".toList⟩

def discoverReaderPort (filter : UsbFilter) (survey : PortSurvey) :
    EStateM Exn σ DiscoveryResult := do
  let allMetadata := survey.portInfos.map (metadataWithStablePath survey)
  let filteredMetadata := allMetadata.filter (matchesUsbFilter filter)
  let devices ← factory.probeAll settings (filteredMetadata.insertionSort RankedBefore) []
  return concluded devices (allMetadata.length ≠ filteredMetadata.length)

end Discovery

/-- The readers of the agent. -/
def idt85 (env : LineEnv) : ReaderFactory Line IDT85Reader where
  make port settings := IDT85Reader.new port settings.baudrate settings.readerAddress
    settings.readerVerifyMethod .discovery
  «open» reader := reader.open env
  verifyReader reader := reader.verifyReader env
  close reader := reader.close env

theorem probeAll_idt85 (env : LineEnv) (settings : ProbeSettings) (candidates : List Metadata)
    (devices : List DiscoveredSerialDevice) :
    (idt85 env).probeAll settings candidates devices =
      MvdEdge.probeAll env settings candidates devices := by
  induction candidates generalizing devices with
  | nil => rfl
  | cons metadata rest ih =>
      rw [probeAll, MvdEdge.probeAll]
      apply bind_congr
      rintro ⟨verified, error⟩
      exact ih _

/-- The agent's discovery is discovery with IDT-85 readers. -/
theorem discoverReaderPort_idt85 (env : LineEnv) (settings : ProbeSettings) (filter : UsbFilter)
    (survey : PortSurvey) : (idt85 env).discoverReaderPort settings filter survey =
      MvdEdge.discoverReaderPort env settings filter survey := by
  rw [discoverReaderPort, MvdEdge.discoverReaderPort, probeAll_idt85]
  apply bind_congr
  intro devices
  simp only [concluded]
  cases devices.filter (·.readerVerified) with
  | nil =>
      by_cases narrowed : (survey.portInfos.map (metadataWithStablePath survey)).length ≠
          ((survey.portInfos.map (metadataWithStablePath survey)).filter
            (matchesUsbFilter filter)).length
      · rw [if_pos narrowed, if_pos (by simpa using narrowed)]
      · rw [if_neg narrowed, if_neg (by simpa using narrowed)]
  | cons supported others =>
      cases others with
      | nil => rfl
      | cons another others => rfl

/-! ## Conclusions -/

section Conclusions

variable {devices others : List DiscoveredSerialDevice} {narrowed : Bool}

@[simp] theorem concluded_devices : (concluded devices narrowed).devices = devices := by
  rw [concluded]
  split
  · rfl
  · split <;> rfl
  · rfl

theorem concluded_selectedPort : (concluded devices narrowed).selectedPort =
    (only (devices.filter (·.readerVerified))).map (·.port) := by
  rw [concluded]
  cases devices.filter (·.readerVerified) with
  | nil => cases narrowed <;> rfl
  | cons supported rest =>
      cases rest with
      | nil => rfl
      | cons another rest => rfl

theorem concluded_message : (concluded devices narrowed).message =
    if (devices.filter (·.readerVerified)).length = 1 then "Reader selected".toList
    else if 1 < (devices.filter (·.readerVerified)).length then
      "Multiple supported readers found; configure SERIAL_PORT explicitly".toList
    else if narrowed then "No supported reader found for configured USB filters".toList
    else "No supported reader found".toList := by
  rw [concluded]
  cases devices.filter (·.readerVerified) with
  | nil => cases narrowed <;> rfl
  | cons supported rest =>
      cases rest with
      | nil => rfl
      | cons another rest => simp

/-- The message for several readers is given for several readers only. -/
theorem concluded_ambiguous_iff : 1 < (concluded devices narrowed).supportedReaders.length ↔
    (concluded devices narrowed).message =
      "Multiple supported readers found; configure SERIAL_PORT explicitly".toList := by
  rw [DiscoveryResult.supportedReaders, concluded_devices, concluded_message]
  generalize (devices.filter (·.readerVerified)).length = count
  by_cases one : count = 1
  · rw [if_pos one]
    exact iff_of_false (by omega) (by decide)
  · by_cases many : 1 < count
    · rw [if_neg one, if_pos many]
      exact iff_of_true many rfl
    · rw [if_neg one, if_neg many]
      exact iff_of_false many (by cases narrowed <;> decide)

/-- Only how many devices are supported matters, and which one if there is one. -/
theorem concluded_perm (same : devices.Perm others) :
    (concluded devices narrowed).selectedPort = (concluded others narrowed).selectedPort ∧
      (concluded devices narrowed).message = (concluded others narrowed).message := by
  have supported := same.filter (·.readerVerified)
  rw [concluded_selectedPort, concluded_selectedPort, only_perm supported, concluded_message,
    concluded_message, supported.length_eq]
  exact ⟨rfl, rfl⟩

end Conclusions

/-! ## Ports that answer in their own way -/

inductive ProbeBehaviour where
  | verified
  | notVerified
  | openRaises (message : Str)
  | verifyRaises (message : Str)
  deriving DecidableEq

/-- The result of `probe_reader_port` at such a port. -/
def ProbeBehaviour.outcome : ProbeBehaviour → Bool × Option Str
  | .verified => (true, none)
  | .notVerified => (false, none)
  | .openRaises message => (false, some message)
  | .verifyRaises message => (false, some message)

inductive PortEvent where
  | opened (port : Str)
  | closed (port : Str)
  deriving DecidableEq

/-- Readers whose behaviour depends on their port alone. The state is the list of
the calls of `open` and `close` so far, in order. -/
def scripted (behaviour : Str → ProbeBehaviour) : ReaderFactory (List PortEvent) Str where
  make port _ := pure port
  «open» port := fun log =>
    match behaviour port with
    | .openRaises message => .error (.exception message) (log ++ [.opened port])
    | _ => .ok () (log ++ [.opened port])
  verifyReader port := fun log =>
    match behaviour port with
    | .verified => .ok true log
    | .verifyRaises message => .error (.exception message) log
    | _ => .ok false log
  close port := fun log => .ok () (log ++ [.closed port])

section Scripted

variable (behaviour : Str → ProbeBehaviour) (settings : ProbeSettings)

def visit (port : Str) : List PortEvent := [.opened port, .closed port]

def probed (metadata : Metadata) : DiscoveredSerialDevice :=
  let (verified, error) := (behaviour metadata.candidatePort).outcome
  ⟨metadata.candidatePort, metadata, verified, error⟩

/-- A probe opens its port and closes it again, whatever happens in between. -/
theorem probeReaderPort_scripted (port : Str) (log : List PortEvent) :
    (scripted behaviour).probeReaderPort settings port log =
      .ok (behaviour port).outcome (log ++ visit port) := by
  cases answer : behaviour port <;>
    simp [probeReaderPort, scripted, answer, ProbeBehaviour.outcome, visit, ensuring, attempt,
      Exn.caught, bind, EStateM.bind, pure, EStateM.pure]

theorem probeAll_scripted (candidates : List Metadata) (devices : List DiscoveredSerialDevice)
    (log : List PortEvent) :
    (scripted behaviour).probeAll settings candidates devices log =
      .ok (devices ++ candidates.map (probed behaviour))
        (log ++ candidates.flatMap fun metadata => visit metadata.candidatePort) := by
  induction candidates generalizing devices log with
  | nil =>
      rw [List.map_nil, List.flatMap_nil, List.append_nil, List.append_nil]
      rfl
  | cons metadata rest ih =>
      rw [probeAll]
      simp only [bind, EStateM.bind, probeReaderPort_scripted]
      rw [ih, List.append_assoc, List.append_assoc]
      rfl

end Scripted

end ReaderFactory

/-- The configured filters, each met by the normalised metadata of a port. -/
structure SatisfiesFilter (filter : UsbFilter) (metadata : Metadata) : Prop where
  vendor : ∀ id, filter.usbVendorId = some id → metadata.vid = some id
  product : ∀ id, filter.usbProductId = some id → metadata.pid = some id
  serial : ∀ serial, filter.usbSerial = some serial → serial ≠ [] →
    metadata.serialNumber = some serial

theorem matchesUsbFilter_iff {filter : UsbFilter} {metadata : Metadata} :
    matchesUsbFilter filter metadata = true ↔ SatisfiesFilter filter metadata := by
  obtain ⟨vendorId, productId, serial⟩ := filter
  simp only [matchesUsbFilter, Bool.and_eq_true, Bool.or_eq_true, Option.isNone_iff_eq_none,
    decide_eq_true_eq]
  have vendor : (vendorId = none ∨ metadata.vid = vendorId) ↔
      ∀ id, vendorId = some id → metadata.vid = some id := by
    cases vendorId <;> simp
  have product : (productId = none ∨ metadata.pid = productId) ↔
      ∀ id, productId = some id → metadata.pid = some id := by
    cases productId <;> simp
  have number : (orElse serial none = none ∨ metadata.serialNumber = serial) ↔
      ∀ text, serial = some text → text ≠ [] → metadata.serialNumber = some text := by
    match serial with
    | none => simp [orElse]
    | some [] => simp [orElse]
    | some (_ :: _) => simp [orElse]
  rw [vendor, product, number]
  exact ⟨fun ⟨⟨first, second⟩, third⟩ => ⟨first, second, third⟩,
    fun satisfied => ⟨⟨satisfied.vendor, satisfied.product⟩, satisfied.serial⟩⟩

instance (filter : UsbFilter) : DecidablePred (SatisfiesFilter filter) :=
  fun _ => decidable_of_iff _ matchesUsbFilter_iff

/-- The ports discovery may look at. -/
def PortSurvey.matching (survey : PortSurvey) (filter : UsbFilter) : List Metadata :=
  (survey.portInfos.map (metadataWithStablePath survey)).filter (SatisfiesFilter filter ·)

theorem PortSurvey.matching_eq (survey : PortSurvey) (filter : UsbFilter) :
    (survey.portInfos.map (metadataWithStablePath survey)).filter (matchesUsbFilter filter) =
      survey.matching filter := by
  apply List.filter_congr
  intro metadata _
  rw [Bool.eq_iff_iff, matchesUsbFilter_iff, decide_eq_true_iff]

namespace ReaderFactory

variable (behaviour : Str → ProbeBehaviour) (settings : ProbeSettings) (filter : UsbFilter)

/-- Discovery as a function of what the ports answer. -/
def discovered (survey : PortSurvey) : DiscoveryResult :=
  concluded (((survey.matching filter).insertionSort RankedBefore).map (probed behaviour))
    (survey.portInfos.length ≠ (survey.matching filter).length)

theorem discoverReaderPort_eq (survey : PortSurvey) (log : List PortEvent) :
    (scripted behaviour).discoverReaderPort settings filter survey log =
      .ok (discovered behaviour filter survey)
        (log ++ ((survey.matching filter).insertionSort RankedBefore).flatMap
          fun metadata => visit metadata.candidatePort) := by
  rw [discoverReaderPort, survey.matching_eq]
  simp only [bind, EStateM.bind, probeAll_scripted, List.length_map, List.nil_append]
  rfl

theorem filter_probed (candidates : List Metadata) :
    (candidates.map (probed behaviour)).filter (·.readerVerified) =
      (candidates.filter fun metadata => behaviour metadata.candidatePort = .verified).map
        (probed behaviour) := by
  rw [List.filter_map]
  congr 2
  funext metadata
  rw [Function.comp_apply, probed]
  cases behaviour metadata.candidatePort <;> rfl

theorem discovered_selectedPort (survey : PortSurvey) :
    (discovered behaviour filter survey).selectedPort =
      (only ((survey.matching filter).filter fun metadata =>
        behaviour metadata.candidatePort = .verified)).map Metadata.candidatePort := by
  have sorted := List.perm_insertionSort RankedBefore (survey.matching filter)
  rw [discovered, concluded_selectedPort, filter_probed, only_map, Option.map_map,
    only_perm (sorted.filter _)]
  rfl

theorem discovered_perm {survey : PortSurvey} {portInfos : List PortInfo}
    (same : portInfos.Perm survey.portInfos) :
    (discovered behaviour filter { survey with portInfos }).devices.Perm
        (discovered behaviour filter survey).devices ∧
      (discovered behaviour filter { survey with portInfos }).selectedPort =
        (discovered behaviour filter survey).selectedPort ∧
      (discovered behaviour filter { survey with portInfos }).message =
        (discovered behaviour filter survey).message := by
  have matching : (PortSurvey.matching { survey with portInfos } filter).Perm
      (survey.matching filter) := (same.map _).filter _
  have sorted := ((List.perm_insertionSort RankedBefore _).trans matching).trans
    (List.perm_insertionSort RankedBefore (survey.matching filter)).symm
  have devices := sorted.map (probed behaviour)
  rw [discovered, discovered, same.length_eq, matching.length_eq, concluded_devices,
    concluded_devices]
  exact ⟨devices, concluded_perm devices⟩

/-- Discovery opens the ports that satisfy the filters, each once and one after the
other, selects the one that verifies if there is one, and does not depend on the
order of enumeration. -/
theorem discoverReaderPort_scripted (survey : PortSurvey) : ∃ result log,
    (scripted behaviour).discoverReaderPort settings filter survey [] = .ok result log ∧
    (∃ order : List Metadata, order.Perm (survey.matching filter) ∧
      log = order.flatMap fun metadata => visit metadata.candidatePort) ∧
    result.selectedPort = (only ((survey.matching filter).filter fun metadata =>
      behaviour metadata.candidatePort = .verified)).map Metadata.candidatePort ∧
    (1 < result.supportedReaders.length ↔ result.message =
      "Multiple supported readers found; configure SERIAL_PORT explicitly".toList) ∧
    ∀ portInfos, portInfos.Perm survey.portInfos → ∃ other otherLog,
      (scripted behaviour).discoverReaderPort settings filter { survey with portInfos } [] =
        .ok other otherLog ∧
      other.devices.Perm result.devices ∧ other.selectedPort = result.selectedPort ∧
        other.message = result.message := by
  refine ⟨_, _, discoverReaderPort_eq behaviour settings filter survey [],
    ⟨_, List.perm_insertionSort RankedBefore (survey.matching filter), List.nil_append _⟩,
    discovered_selectedPort behaviour filter survey, concluded_ambiguous_iff, ?_⟩
  intro portInfos same
  exact ⟨_, _, discoverReaderPort_eq behaviour settings filter _ [],
    discovered_perm behaviour filter same⟩

/-- Two adapters that only the serial number tells apart. -/
def twoAdapters : PortSurvey where
  portInfos := [
    { device := "/dev/ttyUSB0".toList, vid := .int 0x10C4, pid := .str "ea60".toList
      serialNumber := some "SERIAL-A".toList },
    { device := "/dev/ttyUSB1".toList, vid := .str "0x10c4".toList, pid := .int 0xEA60
      serialNumber := some " SERIAL-B ".toList }]
  byIdPaths := []
  resolved := fun _ => none

theorem discoverReaderPort_scripted_reversed :
    let discover := (scripted fun _ => .verified).discoverReaderPort ⟨57600, 0, VERIFY_AUTO⟩
      ⟨some 0x10C4, some 0xEA60, some "SERIAL-B".toList⟩
    ∃ result log other otherLog, discover twoAdapters [] = .ok result log ∧
      discover { twoAdapters with portInfos := twoAdapters.portInfos.reverse } [] =
        .ok other otherLog ∧ other.selectedPort = result.selectedPort := by
  intro discover
  obtain ⟨result, log, ran, -, -, -, permuted⟩ := discoverReaderPort_scripted
    (fun _ => .verified) ⟨57600, 0, VERIFY_AUTO⟩
    ⟨some 0x10C4, some 0xEA60, some "SERIAL-B".toList⟩ twoAdapters
  obtain ⟨other, otherLog, again, -, same, -⟩ := permuted _ (List.reverse_perm _)
  exact ⟨result, log, other, otherLog, ran, again, same⟩

example : after ((scripted fun _ => .verified).discoverReaderPort ⟨57600, 0, VERIFY_AUTO⟩
    ⟨some 0x10C4, some 0xEA60, some "SERIAL-B".toList⟩ twoAdapters) [] =
      visit "/dev/ttyUSB1".toList := by
  decide +kernel

end ReaderFactory

end MvdEdge
