import MvdEdge.App.Run
import MvdEdge.Config.FromEnv

/-! Which accepted configurations have usable timings, and that every accepted one
meets what the agent relies on. -/

set_option autoImplicit false

namespace MvdEdge

namespace PyFloat

def IsFinite (number : PyFloat) : Prop := ∃ value, number = .finite value

instance : DecidablePred IsFinite
  | .finite value => isTrue ⟨value, rfl⟩
  | .inf => isFalse nofun
  | .negInf => isFalse nofun
  | .nan => isFalse nofun

/-- A duration that passes. -/
def Usable (number : PyFloat) : Prop := ∃ value, number = .finite value ∧ 0 < value

theorem Usable.reached {number : PyFloat} (usable : number.Usable) :
    ∃ elapsed, number.reachedBy elapsed = true := by
  obtain ⟨value, rfl, -⟩ := usable
  exact ⟨value, by simp [reachedBy]⟩

theorem usable_iff_isFinite {number : PyFloat} (checked : number.atMost 0 = false) :
    number.Usable ↔ number.IsFinite := by
  constructor
  · rintro ⟨value, rfl, -⟩
    exact ⟨value, rfl⟩
  · rintro ⟨value, rfl⟩
    exact ⟨value, rfl, by simpa [atMost] using checked⟩

theorem not_reachedBy_zero_of_not_atMost {number : PyFloat} (checked : number.atMost 0 = false) :
    number.reachedBy 0 = false := by
  cases number with
  | finite value => exact checked
  | inf => rfl
  | negInf => exact checked
  | nan => rfl

end PyFloat

namespace Config

open Lib

theorem bind_ok {ε α β : Type} {first : Except ε α} {next : α → Except ε β} {result : β}
    (done : first >>= next = .ok result) :
    ∃ value, first = .ok value ∧ next value = .ok result := by
  cases first with
  | error failure => cases done
  | ok value => exact ⟨value, rfl, done⟩

theorem requiredString_eq_ok {name : String} {value : Option Str} {text : Str}
    (accepted : requiredString name value = .ok text) :
    ∃ raw, value = some raw ∧ strip raw = text ∧ text ≠ [] := by
  unfold requiredString at accepted
  cases value with
  | none => cases accepted
  | some raw =>
      simp only at accepted
      split at accepted
      · cases accepted
      · cases accepted
        exact ⟨raw, rfl, rfl, ‹_›⟩

section Timings

variable {texts : FloatTexts} {name : String} {value : Option Str} {number : PyFloat}

/-- What a setting has to read as to be accepted: a text `float` knows, of a number that
is not at most zero. -/
structure Timed (texts : FloatTexts) (value : Option Str) (number : PyFloat) : Prop where
  read : ∃ raw, value = some raw ∧ strip raw ≠ [] ∧ texts.float (strip raw) = some number
  checked : number.atMost 0 = false

theorem parseFloat_eq_ok {minimum : Option Nat} {exclusiveMinimum : Bool}
    (accepted : parseFloat texts name value minimum exclusiveMinimum = .ok number) :
    (∃ raw, value = some raw ∧ strip raw ≠ [] ∧ texts.float (strip raw) = some number) ∧
      ∀ bound ∈ minimum, (if exclusiveMinimum then number.atMost bound
        else number.below bound) = false := by
  obtain ⟨text, required, accepted⟩ := bind_ok accepted
  obtain ⟨raw, rfl, rfl, visible⟩ := requiredString_eq_ok required
  cases read : texts.float (strip raw) with
  | none =>
      rw [read] at accepted
      cases accepted
  | some parsed =>
      simp only [read] at accepted
      cases minimum with
      | none =>
          cases accepted
          exact ⟨⟨raw, rfl, visible, read⟩, by simp⟩
      | some bound =>
          simp only at accepted
          split at accepted
          · cases accepted
          · rename_i above
            split at accepted
            · cases accepted
            · rename_i notBelow
              cases accepted
              refine ⟨⟨raw, rfl, visible, read⟩, ?_⟩
              cases exclusiveMinimum with
              | true => simpa using above
              | false => simpa using notBelow

theorem parseFloat_timed
    (accepted : parseFloat texts name value (some 0) true = .ok number) :
    Timed texts value number := by
  obtain ⟨read, checked⟩ := parseFloat_eq_ok accepted
  exact ⟨read, by simpa using checked 0 rfl⟩

theorem orElse_eq_some {value : Option Str} {raw : Str} (given : orElse value none = some raw) :
    value = some raw := by
  match value, given with
  | some (_ :: _), given => exact given

theorem optionalPositiveFloat_timed
    (accepted : optionalPositiveFloat texts name value = .ok (some number)) :
    Timed texts value number := by
  unfold optionalPositiveFloat at accepted
  cases given : orElse value none with
  | none =>
      rw [given] at accepted
      cases accepted
  | some raw =>
      rw [given] at accepted
      obtain ⟨parsed, parses, accepted⟩ := bind_ok accepted
      cases checked : parsed.atMost 0 with
      | true =>
          rw [if_pos checked] at accepted
          cases accepted
      | false =>
          rw [if_neg (Bool.eq_false_iff.mp checked)] at accepted
          cases accepted
          rw [orElse_eq_some given]
          exact ⟨(parseFloat_eq_ok parses).1, checked⟩

/-- The text of a setting, if it has one, is not that of an infinity or of NaN. -/
def ReadsFinite (texts : FloatTexts) (value : Option Str) : Prop :=
  ∀ raw found, value = some raw → strip raw ≠ [] → texts.float (strip raw) = some found →
    found.IsFinite

theorem readsFinite_iff : ReadsFinite texts value ↔
    ∀ raw ∈ value, strip raw ≠ [] → ∀ found ∈ texts.float (strip raw), found.IsFinite :=
  ⟨fun finite raw given visible found read => finite raw found given visible read,
    fun finite raw found given visible read => finite raw given visible found read⟩

instance : Decidable (ReadsFinite texts value) := decidable_of_iff' _ readsFinite_iff

/-- The checks miss what is neither at most zero nor a number to count to. -/
theorem Timed.usable_iff (timed : Timed texts value number) :
    number.Usable ↔ ReadsFinite texts value := by
  obtain ⟨raw, given, visible, read⟩ := timed.read
  rw [PyFloat.usable_iff_isFinite timed.checked]
  constructor
  · intro finite other found same _ reads
    rw [given, Option.some_inj] at same
    rw [← same, read, Option.some_inj] at reads
    exact reads ▸ finite
  · intro finite
    exact finite raw number given visible read

theorem optionalPositiveFloat_usable_iff {distance : Option PyFloat}
    (accepted : optionalPositiveFloat texts name value = .ok distance) :
    (∀ number ∈ distance, number.Usable) ↔ ReadsFinite texts value := by
  cases distance with
  | some number => simpa using (optionalPositiveFloat_timed accepted).usable_iff
  | none =>
      refine iff_of_true (by simp) ?_
      rintro raw found rfl visible -
      cases raw with
      | nil => exact absurd rfl visible
      | cons char rest =>
          obtain ⟨parsed, -, accepted⟩ := bind_ok accepted
          split at accepted <;> cases accepted

end Timings

/-! ## Accepted configurations -/

/-- What `from_env` has checked of the settings with a deadline in them, and of the
reader's name. -/
structure Checked (texts : FloatTexts) (getEnv : String → Option Str → Bool → Option Str)
    (config : EdgeConfig) : Prop where
  readerId : ∃ raw, getEnv "READER_ID" none false = some raw ∧ strip raw = config.readerId
  scanInterval : Timed texts (getEnv "SCAN_INTERVAL" (some "0.5".toList) false)
    config.scanInterval
  exitTimeout : Timed texts (getEnv "EXIT_TIMEOUT" (some "3.0".toList) false) config.exitTimeout
  queueRetryInterval : Timed texts (getEnv "QUEUE_RETRY_INTERVAL" (some "5".toList) false)
    config.queueRetryInterval
  serialReconnectInterval : Timed texts
    (getEnv "SERIAL_RECONNECT_INTERVAL" (some "5".toList) false) config.serialReconnectInterval
  readerDiscoveryInterval : Timed texts (getEnv "READER_DISCOVERY_INTERVAL"
    (some (texts.str config.serialReconnectInterval)) false) config.readerDiscoveryInterval
  heartbeatInterval : Timed texts (getEnv "HEARTBEAT_INTERVAL" (some "30".toList) false)
    config.heartbeatInterval
  targetReadDistanceM : optionalPositiveFloat texts "TARGET_READ_DISTANCE_M"
    (getEnv "TARGET_READ_DISTANCE_M" none false) = .ok config.targetReadDistanceM

theorem readSettings_checked {texts : FloatTexts} {sources : Sources}
    {getEnv : String → Option Str → Bool → Option Str} {config : EdgeConfig}
    (accepted : readSettings texts sources getEnv = .ok config) : Checked texts getEnv config := by
  obtain ⟨rfidApiUrl, -, accepted⟩ := bind_ok accepted
  obtain ⟨serialReconnectInterval, serialReconnect, accepted⟩ := bind_ok accepted
  obtain ⟨usbVendorId, -, accepted⟩ := bind_ok accepted
  obtain ⟨usbProductId, -, accepted⟩ := bind_ok accepted
  obtain ⟨-, -, accepted⟩ := bind_ok accepted
  obtain ⟨applicationProfile, -, accepted⟩ := bind_ok accepted
  obtain ⟨customerId, -, accepted⟩ := bind_ok accepted
  obtain ⟨siteId, -, accepted⟩ := bind_ok accepted
  obtain ⟨locationId, -, accepted⟩ := bind_ok accepted
  obtain ⟨zoneId, -, accepted⟩ := bind_ok accepted
  obtain ⟨deviceId, -, accepted⟩ := bind_ok accepted
  obtain ⟨deviceType, -, accepted⟩ := bind_ok accepted
  obtain ⟨readerId, reader, accepted⟩ := bind_ok accepted
  obtain ⟨readerAddress, -, accepted⟩ := bind_ok accepted
  obtain ⟨readerVerifyMethod, -, accepted⟩ := bind_ok accepted
  obtain ⟨serialPort, -, accepted⟩ := bind_ok accepted
  obtain ⟨serialBaud, -, accepted⟩ := bind_ok accepted
  obtain ⟨rfidIngestApiKey, -, accepted⟩ := bind_ok accepted
  obtain ⟨scanInterval, scan, accepted⟩ := bind_ok accepted
  obtain ⟨exitTimeout, exit, accepted⟩ := bind_ok accepted
  obtain ⟨queueRetryInterval, queueRetry, accepted⟩ := bind_ok accepted
  obtain ⟨queueBatchSize, -, accepted⟩ := bind_ok accepted
  obtain ⟨readerDiscoveryInterval, readerDiscovery, accepted⟩ := bind_ok accepted
  obtain ⟨autoConfigureReader, -, accepted⟩ := bind_ok accepted
  obtain ⟨heartbeatInterval, heartbeat, accepted⟩ := bind_ok accepted
  obtain ⟨targetReadDistanceM, target, accepted⟩ := bind_ok accepted
  cases accepted
  obtain ⟨raw, given, stripped, -⟩ := requiredString_eq_ok reader
  exact {
    readerId := ⟨raw, given, stripped⟩
    scanInterval := parseFloat_timed scan
    exitTimeout := parseFloat_timed exit
    queueRetryInterval := parseFloat_timed queueRetry
    serialReconnectInterval := parseFloat_timed serialReconnect
    readerDiscoveryInterval := parseFloat_timed readerDiscovery
    heartbeatInterval := parseFloat_timed heartbeat
    targetReadDistanceM := target }

/-- The values `from_env` finds in the selected file. -/
def Sources.fileValues (sources : Sources) (envFile : Option Str) :
    InsertionDict Str (Option Str) :=
  match sources.dotenvValues (discoverConfigFile sources envFile) with
  | .ok values => values
  | .error _ => .empty

/-- The text in effect for a setting of the selected file. -/
def Sources.setting (sources : Sources) (envFile : Option Str) (name : String)
    (default : Option Str) (allowProcessEnv : Bool) : Option Str :=
  getEnv sources (discoverConfigFile sources envFile) (sources.fileValues envFile) name default
    allowProcessEnv

theorem fromEnv_ok {texts : FloatTexts} {sources : Sources} {envFile : Option Str}
    {config : EdgeConfig} (accepted : fromEnv texts sources envFile = .ok config) :
    loadDotenv (sources.fileValues envFile) = .ok () ∧
      readSettings texts sources (sources.setting envFile) = .ok config := by
  obtain ⟨fileValues, read, accepted⟩ := bind_ok accepted
  obtain ⟨⟨⟩, loaded, accepted⟩ := bind_ok accepted
  have same : sources.fileValues envFile = fileValues := by rw [Sources.fileValues, read]
  rw [same]
  refine ⟨loaded, ?_⟩
  rw [← accepted, ← same]
  rfl

/-- A setting is found, or its default is in effect, whatever that is. -/
theorem Sources.setting_default (sources : Sources) (envFile : Option Str) (name : String) :
    (∀ default, sources.setting envFile name default false = default) ∨
      ∃ answer, ∀ default, sources.setting envFile name default false = answer := by
  simp only [Sources.setting, getEnv]
  cases (sources.fileValues envFile).get? name.toList with
  | some value => exact .inr ⟨value, fun _ => rfl⟩
  | none =>
      by_cases present : sources.fileExists (discoverConfigFile sources envFile)
      · exact .inl fun default => by simp [present]
      · cases sources.environ name.toList with
        | none => exact .inl fun default => by simp
        | some value => exact .inr ⟨some value, fun default => by simp [present]⟩

/-- The settings with a deadline in them, and their default texts. The reader discovery
interval has that of the serial reconnect interval, and the distance none. -/
def timingSettings : List (String × Option Str) :=
  [("SCAN_INTERVAL", some "0.5".toList), ("EXIT_TIMEOUT", some "3.0".toList),
    ("QUEUE_RETRY_INTERVAL", some "5".toList), ("SERIAL_RECONNECT_INTERVAL", some "5".toList),
    ("READER_DISCOVERY_INTERVAL", none), ("HEARTBEAT_INTERVAL", some "30".toList),
    ("TARGET_READ_DISTANCE_M", none)]

def EdgeConfig.timings (config : EdgeConfig) : List PyFloat :=
  [config.scanInterval, config.exitTimeout, config.queueRetryInterval,
    config.serialReconnectInterval, config.readerDiscoveryInterval, config.heartbeatInterval] ++
    config.targetReadDistanceM.toList

/-- Every timing is finite and positive, so that some time reaches it. -/
def EdgeConfig.Usable (config : EdgeConfig) : Prop :=
  ∀ timing ∈ config.timings, timing.Usable ∧ ∃ elapsed, timing.reachedBy elapsed = true

theorem EdgeConfig.usable_iff {config : EdgeConfig} :
    config.Usable ↔ config.scanInterval.Usable ∧ config.exitTimeout.Usable ∧
      config.queueRetryInterval.Usable ∧ config.serialReconnectInterval.Usable ∧
      config.readerDiscoveryInterval.Usable ∧ config.heartbeatInterval.Usable ∧
      ∀ distance ∈ config.targetReadDistanceM, distance.Usable := by
  have each : config.Usable ↔ ∀ timing ∈ config.timings, timing.Usable :=
    forall₂_congr fun _ _ => and_iff_left_of_imp PyFloat.Usable.reached
  rw [each]
  simp [EdgeConfig.timings]

section FromEnv

variable {texts : FloatTexts} {sources : Sources} {envFile : Option Str} {config : EdgeConfig}
  {name : String}

theorem Checked.readerDiscovery_usable_iff
    (checked : Checked texts (sources.setting envFile) config)
    (reconnects : config.serialReconnectInterval.Usable) :
    config.readerDiscoveryInterval.Usable ↔
      ReadsFinite texts (sources.setting envFile "READER_DISCOVERY_INTERVAL" none false) := by
  have timed := checked.readerDiscoveryInterval
  rcases sources.setting_default envFile "READER_DISCOVERY_INTERVAL" with default | found
  · rw [default] at timed ⊢
    obtain ⟨raw, same, -, read⟩ := timed.read
    obtain ⟨text, -, -, reconnect⟩ := checked.serialReconnectInterval.read
    rw [← Option.some_inj.mp same, texts.readsBack _ _ reconnect, Option.some_inj] at read
    rw [← read]
    refine iff_of_true reconnects ?_
    rintro raw found ⟨⟩
  · obtain ⟨answer, found⟩ := found
    rw [found] at timed ⊢
    exact timed.usable_iff

/-- An accepted configuration has usable timings exactly when none of their texts is that
of an infinity or of NaN: the checks compare with zero, and NaN is not at most zero. -/
theorem fromEnv_usable_iff (accepted : fromEnv texts sources envFile = .ok config) :
    config.Usable ↔ ∀ setting ∈ timingSettings,
      ReadsFinite texts (sources.setting envFile setting.1 setting.2 false) := by
  have checked := readSettings_checked (fromEnv_ok accepted).2
  rw [EdgeConfig.usable_iff, checked.scanInterval.usable_iff, checked.exitTimeout.usable_iff,
    checked.queueRetryInterval.usable_iff, checked.heartbeatInterval.usable_iff,
    optionalPositiveFloat_usable_iff checked.targetReadDistanceM]
  simp only [timingSettings, List.forall_mem_cons, List.not_mem_nil, false_imp_iff, forall_const,
    and_true]
  rw [← checked.serialReconnectInterval.usable_iff]
  constructor
  · rintro ⟨scan, exit, retry, reconnect, discovery, heartbeat, distance⟩
    exact ⟨scan, exit, retry, reconnect,
      (checked.readerDiscovery_usable_iff reconnect).mp discovery, heartbeat, distance⟩
  · rintro ⟨scan, exit, retry, reconnect, discovery, heartbeat, distance⟩
    exact ⟨scan, exit, retry, reconnect,
      (checked.readerDiscovery_usable_iff reconnect).mpr discovery, heartbeat, distance⟩

/-! ## What the agent relies on -/

theorem mem_strip {char : Char} {text : Str} (member : char ∈ strip text) : char ∈ text := by
  rw [strip, List.mem_reverse] at member
  have inside := (List.dropWhile_sublist _).subset member
  rw [List.mem_reverse] at inside
  exact (List.dropWhile_sublist _).subset inside

theorem nul_not_mem_setting (loaded : loadDotenv (sources.fileValues envFile) = .ok ())
    {raw : Str} (given : sources.setting envFile name none false = some raw) : nul ∉ raw := by
  simp only [Sources.setting, getEnv] at given
  cases found : (sources.fileValues envFile).get? name.toList with
  | some value =>
      rw [found] at given
      have entry := InsertionDict.get?_eq_some_iff.mp found
      intro inside
      have refused : ((sources.fileValues envFile).entries.any fun entry =>
          entry.2.any fun value => decide (nul ∈ value)) = true :=
        List.any_eq_true.mpr ⟨_, entry, by simpa [given] using inside⟩
      rw [loadDotenv, if_pos refused] at loaded
      cases loaded
  | none =>
      rw [found] at given
      simp only [Option.or_none] at given
      split at given
      · cases given
      · exact sources.environClean _ _ given

theorem nul_not_mem_readerId (accepted : fromEnv texts sources envFile = .ok config) :
    nul ∉ config.readerId := by
  obtain ⟨loaded, settings⟩ := fromEnv_ok accepted
  obtain ⟨raw, given, stripped⟩ := (readSettings_checked settings).readerId
  rw [← stripped]
  exact fun inside => nul_not_mem_setting loaded given (mem_strip inside)

/-- An accepted configuration as the agent runs with it. -/
def agentConfig (accepted : fromEnv texts sources envFile = .ok config) : MvdEdge.EdgeConfig where
  applicationProfile := config.applicationProfile
  customerId := config.customerId
  siteId := config.siteId
  locationId := config.locationId
  zoneId := config.zoneId
  deviceId := config.deviceId
  deviceType := config.deviceType
  readerId := config.readerId
  probe := ⟨config.serialBaud.toNat, UInt8.ofNat config.readerAddress.toNat,
    config.readerVerifyMethod⟩
  usb := ⟨config.usbVendorId, config.usbProductId, config.usbSerial⟩
  serialPort := config.serialPort
  scanInterval := config.scanInterval
  exitTimeout := config.exitTimeout
  queueRetryInterval := config.queueRetryInterval
  queueBatchSize := config.queueBatchSize.toNat
  readerDiscoveryInterval := config.readerDiscoveryInterval
  autoConfigureReader := config.autoConfigureReader
  heartbeatInterval := config.heartbeatInterval
  heartbeatApiUrl := config.heartbeatApiUrl
  readerIdClean := nul_not_mem_readerId accepted
  exitTimeoutChecked := PyFloat.not_reachedBy_zero_of_not_atMost
    (readSettings_checked (fromEnv_ok accepted).2).exitTimeout.checked

end FromEnv

/-- What a file with these lines and an empty environment give. -/
def fileSources (lines : List (String × String)) : Sources where
  environ _ := none
  environClean := by simp
  fileExists _ := true
  dotenvValues _ := .ok (lines.foldl
    (fun values line => values.set line.1.toList (some line.2.toList)) .empty)
  runtimeDir := []
  edgeAgentDir := []

def requiredLines : List (String × String) :=
  ["RFID_API_URL", "CUSTOMER_ID", "SITE_ID", "LOCATION_ID", "ZONE_ID", "DEVICE_ID", "READER_ID",
    "RFID_INGEST_API_KEY"].map fun name => (name, "set")

/-- A few texts and what `float` reads them as, the text of a number by `str` first. -/
def sampleNumbers : List (Str × PyFloat) :=
  [("0.5".toList, .finite (1 / 2)), ("3.0".toList, .finite 3), ("5.0".toList, .finite 5),
    ("5".toList, .finite 5), ("30.0".toList, .finite 30), ("30".toList, .finite 30),
    ("nan".toList, .nan)]

def sampleTexts : FloatTexts where
  float text := (sampleNumbers.find? (·.1 = text)).map Prod.snd
  str number := ((sampleNumbers.find? (·.2 = number)).map Prod.fst).getD []
  readsBack := by
    intro text number read
    obtain ⟨entry, found, rfl⟩ := Option.map_eq_some_iff.mp read
    have each : ∀ entry ∈ sampleNumbers, (sampleNumbers.find? (·.1 = strip
        (((sampleNumbers.find? (·.2 = entry.2)).map Prod.fst).getD []))).map Prod.snd =
          some entry.2 := by decide +kernel
    exact each entry (List.mem_of_find?_eq_some found)

theorem fromEnv_usable_iff_defaults : ∃ config,
    fromEnv sampleTexts (fileSources requiredLines) none = .ok config ∧ config.Usable := by
  have accepted : (match fromEnv sampleTexts (fileSources requiredLines) none with
      | .ok _ => true
      | .error _ => false) = true := by decide +kernel
  cases ran : fromEnv sampleTexts (fileSources requiredLines) none with
  | error failure => simp [ran] at accepted
  | ok config =>
      have finite : ∀ setting ∈ timingSettings, ReadsFinite sampleTexts
          ((fileSources requiredLines).setting none setting.1 setting.2 false) := by
        decide +kernel
      exact ⟨config, rfl, (fromEnv_usable_iff ran).mpr finite⟩

/-- A scan interval of `nan` is accepted. -/
theorem fromEnv_unusable : ¬ ∀ (texts : FloatTexts) (sources : Sources) (envFile : Option Str)
    (config : EdgeConfig), fromEnv texts sources envFile = .ok config → config.Usable := by
  intro claim
  let sources := fileSources (("SCAN_INTERVAL", "nan") :: requiredLines)
  have observed : (match fromEnv sampleTexts sources none with
      | .ok config => decide (config.scanInterval = .nan)
      | .error _ => false) = true := by decide +kernel
  cases ran : fromEnv sampleTexts sources none with
  | error failure => simp [ran] at observed
  | ok config =>
      simp only [ran, decide_eq_true_eq] at observed
      have usable := (claim _ _ _ _ ran config.scanInterval (by simp [EdgeConfig.timings])).1
      obtain ⟨value, finite, -⟩ := usable
      rw [observed] at finite
      cases finite

end Config

end MvdEdge
