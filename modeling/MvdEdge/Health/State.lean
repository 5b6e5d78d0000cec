import MvdEdge.Base

/-! Reader health: the fields of `HealthState` and their mutators. A mutator that
reads the clock takes the reading as `now`. -/

set_option autoImplicit false

namespace MvdEdge

/-- Characters `str.strip` removes. -/
def isSpace (char : Char) : Bool :=
  let code := char.toNat
  (9 ≤ code && code ≤ 13) || (28 ≤ code && code ≤ 32) || code == 0x85 || code == 0xA0 ||
    code == 0x1680 || (0x2000 ≤ code && code ≤ 0x200A) || code == 0x2028 || code == 0x2029 ||
    code == 0x202F || code == 0x205F || code == 0x3000

def strip (text : Str) : Str := ((text.dropWhile isSpace).reverse.dropWhile isSpace).reverse

/-- `sanitize_error`; the queue and the health state cut at different lengths. -/
def sanitizeError (error : Str) (maxLength : Nat) : Str :=
  (strip (error.map fun char => if char = '\n' ∨ char = '\r' then ' ' else char)).take maxLength

inductive ReaderState where
  | DISCONNECTED
  | CONNECTING
  | READY
  | CONFIG_ERROR
  deriving DecidableEq, Repr

inductive ReaderHealthStatus where
  | HEALTHY
  | DEGRADED
  | OFFLINE
  | RECONNECTING
  deriving DecidableEq, Repr

structure HealthState where
  readerState : ReaderState := .DISCONNECTED
  lastReaderActivityAt : Option Timestamp := none
  lastEventAt : Option Timestamp := none
  lastCloudDeliveryAt : Option Timestamp := none
  lastError : Option Str := none
  lastErrorAt : Option Timestamp := none
  readerConnected : Bool := false
  inventoryResponding : Bool := false
  lastSuccessfulInventoryAt : Option Timestamp := none
  lastTagSeenAt : Option Timestamp := none
  lastEpcSeen : Option Str := none
  consecutiveNoResponseCount : Nat := 0
  malformedResponseCount : Nat := 0
  reconnectCount : Nat := 0
  lastReaderError : Option Str := none
  healthStatus : ReaderHealthStatus := .OFFLINE
  offlineFailureThreshold : Nat := 3
  lastInventoryEpcs : Option (List Str) := none

namespace HealthState

variable (health : HealthState)

def setReaderState (readerState : ReaderState) : HealthState := { health with readerState }

def markReaderConnecting : HealthState :=
  { health with
    readerConnected := false
    inventoryResponding := false
    healthStatus := .RECONNECTING }

def markReaderReady : HealthState :=
  { health with
    readerConnected := true
    healthStatus :=
      if health.healthStatus = .OFFLINE ∨ health.healthStatus = .RECONNECTING then .DEGRADED
      else health.healthStatus }

def markReconnectAttempt : HealthState :=
  markReaderConnecting { health with reconnectCount := health.reconnectCount + 1 }

def markInventorySuccess (tags : List Str) (now : Timestamp) : HealthState :=
  { health with
    readerConnected := true
    inventoryResponding := true
    lastReaderActivityAt := some now
    lastSuccessfulInventoryAt := some now
    lastInventoryEpcs := some tags
    consecutiveNoResponseCount := 0
    lastReaderError := none
    healthStatus := .HEALTHY
    lastTagSeenAt := if tags = [] then health.lastTagSeenAt else some now
    lastEpcSeen := if tags = [] then health.lastEpcSeen else tags.getLast? }

def markInventoryNoResponse : HealthState :=
  let consecutiveNoResponseCount := health.consecutiveNoResponseCount + 1
  { health with
    readerConnected := true
    inventoryResponding := false
    consecutiveNoResponseCount
    lastReaderError := some "NO_RESPONSE".toList
    healthStatus :=
      if consecutiveNoResponseCount ≥ health.offlineFailureThreshold then .OFFLINE
      else .DEGRADED }

def markInventoryMalformed : HealthState :=
  { health with
    readerConnected := true
    inventoryResponding := false
    malformedResponseCount := health.malformedResponseCount + 1
    lastReaderError := some "MALFORMED".toList
    healthStatus := .DEGRADED }

def markReaderOffline (error : Str) : HealthState :=
  { health with
    readerConnected := false
    inventoryResponding := false
    lastReaderError := some (sanitizeError error 200)
    healthStatus := .OFFLINE }

def markEvent (now : Timestamp) : HealthState := { health with lastEventAt := some now }

def markCloudDelivery (now : Timestamp) : HealthState :=
  { health with lastCloudDeliveryAt := some now }

def markError (error : Str) (now : Timestamp) : HealthState :=
  { health with lastError := some (sanitizeError error 200), lastErrorAt := some now }

def clearError : HealthState := { health with lastError := none, lastErrorAt := none }

end HealthState

end MvdEdge
