import MvdEdge.Discovery.Serial
import MvdEdge.Lib.InsertionDict

/-! `EdgeConfig.from_env`: the settings of a configuration file and of the
environment, read, checked and given their defaults in the order of the source.
`float` and `str` of a float are parameters, as is what python-dotenv makes of a file. -/

set_option autoImplicit false

namespace MvdEdge.Config

open Lib

inductive ConfigError where
  | RuntimeError (message : Str)
  | ValueError (message : Str)
  deriving DecidableEq

/-- `float(text)` of a stripped text, `none` for a `ValueError`, and `str(number)`,
which reads as the number it was made of. -/
structure FloatTexts where
  float : Str → Option PyFloat
  str : PyFloat → Str
  readsBack : ∀ text number, float text = some number → float (strip (str number)) = some number

/-- Where settings come from. An environment value has no NUL. -/
structure Sources where
  environ : Str → Option Str
  environClean : ∀ name value, environ name = some value → nul ∉ value
  fileExists : Str → Bool
  dotenvValues : Str → Except ConfigError (InsertionDict Str (Option Str))
  runtimeDir : Str
  edgeAgentDir : Str

def CONFIG_ENV_VAR : Str := "MVD_EDGE_CONFIG".toList
def LEGACY_CONFIG_ENV_VAR : Str := "MVD_EDGE_ENV_FILE".toList

def discoverConfigFile (sources : Sources) (envFile : Option Str) : Str :=
  match envFile with
  | some path => path
  | none =>
      match orElse (sources.environ CONFIG_ENV_VAR)
          (orElse (sources.environ LEGACY_CONFIG_ENV_VAR) none) with
      | some configured => configured
      | none =>
          let runtimeEnvFile := sources.runtimeDir ++ "/.env".toList
          if sources.fileExists runtimeEnvFile then runtimeEnvFile
          else sources.edgeAgentDir ++ "/.env".toList

/-- `load_dotenv`: the values of the file go to the environment, which takes no NUL. -/
def loadDotenv (values : InsertionDict Str (Option Str)) : Except ConfigError Unit :=
  if values.entries.any fun entry => entry.2.any fun value => decide (nul ∈ value) then
    .error (.ValueError "embedded null byte".toList)
  else .ok ()

/-! ## Parsers -/

def defaultHeartbeatUrl (rfidApiUrl : Str) : Str :=
  let eventPath := "/api/v1/rfid/events".toList
  if eventPath.isSuffixOf rfidApiUrl then
    rfidApiUrl.take (rfidApiUrl.length - eventPath.length) ++ "/api/v1/edge/heartbeat".toList
  else
    (rfidApiUrl.reverse.dropWhile (· == '/')).reverse ++ "/api/v1/edge/heartbeat".toList

def requiredString (name : String) (value : Option Str) : Except ConfigError Str :=
  match value with
  | none => .error (.RuntimeError (name.toList ++ " is required".toList))
  | some value =>
      if strip value = [] then .error (.RuntimeError (name.toList ++ " is required".toList))
      else .ok (strip value)

def parseInt (name : String) (value : Option Str) (minimum : Option Int) :
    Except ConfigError Int := do
  let text ← requiredString name value
  match int text 10 with
  | none => .error (.ValueError (name.toList ++ " must be an integer".toList))
  | some parsed =>
      match minimum with
      | none => return parsed
      | some minimum =>
          if parsed < minimum then
            .error (.ValueError (name.toList ++ " must be at least ".toList ++
              (toString minimum).toList))
          else return parsed

/-- `parse_float`. The minimums in use are natural numbers, which `:g` prints in digits. -/
def parseFloat (texts : FloatTexts) (name : String) (value : Option Str)
    (minimum : Option Nat := none) (exclusiveMinimum : Bool := false) :
    Except ConfigError PyFloat := do
  let text ← requiredString name value
  match texts.float text with
  | none => .error (.ValueError (name.toList ++ " must be a number".toList))
  | some parsed =>
      match minimum with
      | none => return parsed
      | some minimum =>
          if exclusiveMinimum ∧ parsed.atMost minimum then
            .error (.ValueError (name.toList ++ " must be greater than ".toList ++
              (toString minimum).toList))
          else if ¬ exclusiveMinimum ∧ parsed.below minimum then
            .error (.ValueError (name.toList ++ " must be at least ".toList ++
              (toString minimum).toList))
          else return parsed

def optionalPositiveFloat (texts : FloatTexts) (name : String) (value : Option Str) :
    Except ConfigError (Option PyFloat) :=
  match orElse value none with
  | none => return none
  | some value => do
      let parsed ← parseFloat texts name (some value)
      if parsed.atMost 0 then
        .error (.ValueError (name.toList ++ " must be positive".toList))
      else return some parsed

/-- The words are ASCII, and no other character has a lower case in them. -/
def parseBool (name : String) (value : Option Str) : Except ConfigError Bool := do
  let text ← requiredString name value
  let normalized := text.map Char.toLower
  if normalized ∈ ["1", "true", "yes", "on"].map String.toList then return true
  else if normalized ∈ ["0", "false", "no", "off"].map String.toList then return false
  else .error (.ValueError (name.toList ++ " must be true or false".toList))

def parseReaderAddress (name : String) (value : Option Str) : Except ConfigError Int := do
  let raw ← requiredString name value
  match int raw 0 with
  | none =>
      .error (.ValueError (name.toList ++ " must be an integer from 0x00 to 0xFF".toList))
  | some parsed =>
      if parsed < 0 ∨ parsed > 0xFF then
        .error (.ValueError (name.toList ++ " must be between 0x00 and 0xFF".toList))
      else return parsed

def optionalUsbId (name : String) (value : Option Str) : Except ConfigError (Option Int) :=
  match value with
  | none => return none
  | some value =>
      if strip value = [] then return none
      else
        match int (strip value) 16 with
        | none =>
            .error (.ValueError
              (name.toList ++ " must be a hexadecimal USB ID such as 10c4".toList))
        | some parsed =>
            if parsed < 0 ∨ parsed > 0xFFFF then
              .error (.ValueError (name.toList ++ " must be between 0000 and ffff".toList))
            else return some parsed

def optionalString (value : Option Str) : Option Str :=
  value.bind fun value => if strip value = [] then none else some (strip value)

def parseVerifyMethod (name : String) (value : Option Str) : Except ConfigError Str := do
  let text ← requiredString name value
  if upper text ∉ SUPPORTED_VERIFY_METHODS then
    .error (.ValueError (name.toList ++ " must be one of: ".toList ++
      ", ".toList.intercalate SUPPORTED_VERIFY_METHODS))
  else return upper text

def checkUsbPair (usbVendorId usbProductId : Option Int) : Except ConfigError Unit :=
  if usbVendorId.isNone ≠ usbProductId.isNone then
    .error (.ValueError
      "USB_VENDOR_ID and USB_PRODUCT_ID must be configured together".toList)
  else return ()

/-! ## Configurations -/

structure EdgeConfig where
  applicationProfile : Str
  customerId : Str
  siteId : Str
  locationId : Str
  zoneId : Str
  deviceId : Str
  deviceType : Str
  readerId : Str
  readerAddress : Int
  readerVerifyMethod : Str
  usbVendorId : Option Int
  usbProductId : Option Int
  usbSerial : Option Str
  serialPort : Str
  serialBaud : Int
  rfidApiUrl : Str
  rfidIngestApiKey : Option Str
  scanInterval : PyFloat
  exitTimeout : PyFloat
  edgeDataDir : Str
  queueRetryInterval : PyFloat
  queueBatchSize : Int
  serialReconnectInterval : PyFloat
  readerDiscoveryInterval : PyFloat
  autoConfigureReader : Bool
  heartbeatInterval : PyFloat
  heartbeatApiUrl : Str
  targetReadDistanceM : Option PyFloat
  edgeLogDir : Option Str

/-- `get_env`, once `fileValues` are read from the selected file. -/
def getEnv (sources : Sources) (selected : Str) (fileValues : InsertionDict Str (Option Str))
    (name : String) (default : Option Str) (allowProcessEnv : Bool) : Option Str :=
  match fileValues.get? name.toList with
  | some value => value
  | none =>
      if sources.fileExists selected ∧ ¬ allowProcessEnv then default
      else (sources.environ name.toList).or default

/-- The settings `from_env` makes of what `get_env` answers. -/
def readSettings (texts : FloatTexts) (sources : Sources)
    (getEnv : String → Option Str → Bool → Option Str) : Except ConfigError EdgeConfig := do
  let rfidApiUrl ← requiredString "RFID_API_URL" (getEnv "RFID_API_URL" none false)
  let serialReconnectInterval ← parseFloat texts "SERIAL_RECONNECT_INTERVAL"
    (getEnv "SERIAL_RECONNECT_INTERVAL" (some "5".toList) false) (some 0) true
  let usbVendorId ← optionalUsbId "USB_VENDOR_ID" (getEnv "USB_VENDOR_ID" none false)
  let usbProductId ← optionalUsbId "USB_PRODUCT_ID" (getEnv "USB_PRODUCT_ID" none false)
  checkUsbPair usbVendorId usbProductId
  let applicationProfile ← requiredString "APPLICATION_PROFILE"
    (getEnv "APPLICATION_PROFILE" (some "RFID_ASSET_TRACKING".toList) false)
  let customerId ← requiredString "CUSTOMER_ID" (getEnv "CUSTOMER_ID" none false)
  let siteId ← requiredString "SITE_ID" (getEnv "SITE_ID" none false)
  let locationId ← requiredString "LOCATION_ID" (getEnv "LOCATION_ID" none false)
  let zoneId ← requiredString "ZONE_ID" (getEnv "ZONE_ID" none false)
  let deviceId ← requiredString "DEVICE_ID" (getEnv "DEVICE_ID" none false)
  let deviceType ← requiredString "DEVICE_TYPE"
    (getEnv "DEVICE_TYPE" (some "IDT85".toList) false)
  let readerId ← requiredString "READER_ID" (getEnv "READER_ID" none false)
  let readerAddress ← parseReaderAddress "READER_ADDRESS"
    (getEnv "READER_ADDRESS" (some "0x00".toList) false)
  let readerVerifyMethod ← parseVerifyMethod "READER_VERIFY_METHOD"
    (getEnv "READER_VERIFY_METHOD" (some "AUTO".toList) false)
  let usbSerial := optionalString (getEnv "USB_SERIAL" none false)
  let serialPort ← requiredString "SERIAL_PORT" (getEnv "SERIAL_PORT" (some "AUTO".toList) false)
  let serialBaud ← parseInt "SERIAL_BAUD"
    (getEnv "SERIAL_BAUD" (some "57600".toList) false) (some 1)
  let rfidIngestApiKey ← requiredString "RFID_INGEST_API_KEY"
    (getEnv "RFID_INGEST_API_KEY" none false)
  let scanInterval ← parseFloat texts "SCAN_INTERVAL"
    (getEnv "SCAN_INTERVAL" (some "0.5".toList) false) (some 0) true
  let exitTimeout ← parseFloat texts "EXIT_TIMEOUT"
    (getEnv "EXIT_TIMEOUT" (some "3.0".toList) false) (some 0) true
  let edgeDataDir := (orElse (getEnv "EDGE_DATA_DIR" none true) none).getD
    (sources.edgeAgentDir ++ "/data".toList)
  let queueRetryInterval ← parseFloat texts "QUEUE_RETRY_INTERVAL"
    (getEnv "QUEUE_RETRY_INTERVAL" (some "5".toList) false) (some 0) true
  let queueBatchSize ← parseInt "QUEUE_BATCH_SIZE"
    (getEnv "QUEUE_BATCH_SIZE" (some "20".toList) false) (some 1)
  let readerDiscoveryInterval ← parseFloat texts "READER_DISCOVERY_INTERVAL"
    (getEnv "READER_DISCOVERY_INTERVAL" (some (texts.str serialReconnectInterval)) false)
    (some 0) true
  let autoConfigureReader ← parseBool "AUTO_CONFIGURE_READER"
    (getEnv "AUTO_CONFIGURE_READER" (some "false".toList) false)
  let heartbeatInterval ← parseFloat texts "HEARTBEAT_INTERVAL"
    (getEnv "HEARTBEAT_INTERVAL" (some "30".toList) false) (some 0) true
  let heartbeatApiUrl := (orElse (getEnv "HEARTBEAT_API_URL" none false) none).getD
    (defaultHeartbeatUrl rfidApiUrl)
  let targetReadDistanceM ← optionalPositiveFloat texts "TARGET_READ_DISTANCE_M"
    (getEnv "TARGET_READ_DISTANCE_M" none false)
  let edgeLogDir := orElse (getEnv "EDGE_LOG_DIR" none true) none
  return {
    applicationProfile, customerId, siteId, locationId, zoneId, deviceId, deviceType, readerId,
    readerAddress, readerVerifyMethod, usbVendorId, usbProductId, usbSerial, serialPort,
    serialBaud, rfidApiUrl, rfidIngestApiKey := some rfidIngestApiKey, scanInterval, exitTimeout,
    edgeDataDir, queueRetryInterval, queueBatchSize, serialReconnectInterval,
    readerDiscoveryInterval, autoConfigureReader, heartbeatInterval, heartbeatApiUrl,
    targetReadDistanceM, edgeLogDir }

/-- `EdgeConfig.from_env`. -/
def fromEnv (texts : FloatTexts) (sources : Sources) (envFile : Option Str) :
    Except ConfigError EdgeConfig := do
  let selected := discoverConfigFile sources envFile
  let fileValues ← sources.dotenvValues selected
  loadDotenv fileValues
  readSettings texts sources (getEnv sources selected fileValues)

end MvdEdge.Config
