import MvdEdge.Adapters.Frame
import MvdEdge.Health.State

/-! What reader health says of the past. An abstract machine goes from one connection
attempt or inventory to the next; the mutators of `HealthState` move it along. The
histories here have the newest happening first. -/

set_option autoImplicit false

namespace MvdEdge

/-- A connection attempt with the state it left, an inventory with its outcome, one that
raised and so lost the connection, or a heartbeat. -/
inductive Happening where
  | attempted (readerState : ReaderState)
  | answered (status : InventoryStatus)
  | lost
  | heartbeat
  deriving DecidableEq

/-- The part of `HealthState` that tells of the connection. -/
structure ReaderStatus where
  readerState : ReaderState
  connected : Bool
  responding : Bool
  healthStatus : ReaderHealthStatus
  unanswered : Nat
  attempts : Nat
  error : Bool
  threshold : Nat

def HealthState.readerStatus (health : HealthState) : ReaderStatus where
  readerState := health.readerState
  connected := health.readerConnected
  responding := health.inventoryResponding
  healthStatus := health.healthStatus
  unanswered := health.consecutiveNoResponseCount
  attempts := health.reconnectCount
  error := health.lastReaderError.isSome
  threshold := health.offlineFailureThreshold

namespace ReaderStatus

def start : ReaderStatus := HealthState.readerStatus {}

def connecting (status : ReaderStatus) : ReaderStatus :=
  { status with
    readerState := .CONNECTING, connected := false, responding := false
    healthStatus := .RECONNECTING, attempts := status.attempts + 1 }

def offline (status : ReaderStatus) (readerState : ReaderState) : ReaderStatus :=
  { status with
    readerState, connected := false, responding := false, healthStatus := .OFFLINE, error := true }

/-- How an attempt ends. Only an inventory clears the error of the one before. -/
def connect (status : ReaderStatus) (readerState : ReaderState) : ReaderStatus :=
  if readerState = .READY then
    { status with readerState, connected := true, responding := false, healthStatus := .DEGRADED }
  else status.offline readerState

def answer (status : ReaderStatus) : InventoryStatus → ReaderStatus
  | .VALID =>
      { status with
        readerState := .READY, connected := true, responding := true, healthStatus := .HEALTHY
        unanswered := 0, error := false }
  | .NO_RESPONSE =>
      { status with
        readerState := .READY, connected := true, responding := false
        healthStatus := if status.threshold ≤ status.unanswered + 1 then .OFFLINE else .DEGRADED
        unanswered := status.unanswered + 1, error := true }
  | .MALFORMED =>
      { status with
        readerState := .READY, connected := true, responding := false
        healthStatus := .DEGRADED, error := true }

def step (status : ReaderStatus) : Happening → ReaderStatus
  | .attempted readerState => status.connecting.connect readerState
  | .answered outcome => status.answer outcome
  | .lost => status.offline .DISCONNECTED
  | .heartbeat => status

def run (history : List Happening) : ReaderStatus :=
  history.foldr (fun now past => past.step now) start

@[simp] theorem run_nil : run [] = start := rfl

@[simp] theorem run_cons (now : Happening) (past : List Happening) :
    run (now :: past) = (run past).step now := rfl

end ReaderStatus

@[simp] theorem ReaderStatus.connect_readerState (status : ReaderStatus)
    (readerState : ReaderState) : (status.connect readerState).readerState = readerState := by
  unfold connect
  split <;> rfl

/-! ## What a history says -/

/-- The outcome of the last inventory on the present connection. -/
def lastInventory : List Happening → Option InventoryStatus
  | .answered status :: _ => some status
  | .heartbeat :: past => lastInventory past
  | _ => none

def connectionAttempts (history : List Happening) : Nat :=
  history.countP fun
    | .attempted _ => true
    | _ => false

/-- The length of the unbroken run of NO_RESPONSE that ends with the last inventory. -/
def silentRun : List Happening → Nat
  | .answered .NO_RESPONSE :: past => silentRun past + 1
  | .heartbeat :: past => silentRun past
  | _ => 0

/-- What a status owes to its history. -/
structure Coherent (history : List Happening) (status : ReaderStatus) : Prop where
  connected : status.connected = true ↔ status.readerState = .READY
  responding : status.responding = true ↔ status.healthStatus = .HEALTHY
  valid : status.responding = true ↔
    status.readerState = .READY ∧ lastInventory history = some .VALID
  healthy : status.healthStatus = .HEALTHY → status.error = false ∧ status.unanswered = 0
  settled : status.healthStatus ≠ .RECONNECTING
  attempts : status.attempts = connectionAttempts history
  silent : status.healthStatus = .OFFLINE → status.readerState = .READY →
    lastInventory history = some .NO_RESPONSE ∧ status.threshold ≤ status.unanswered

theorem Coherent.offline {history : List Happening} {status : ReaderStatus}
    {readerState : ReaderState} (notReady : readerState ≠ .READY)
    (attempts : status.attempts = connectionAttempts history) :
    Coherent history (status.offline readerState) := by
  constructor <;> simp [ReaderStatus.offline, notReady, attempts]

theorem Coherent.step {history : List Happening} {status : ReaderStatus}
    (coherent : Coherent history status) (now : Happening) :
    Coherent (now :: history) (status.step now) := by
  have attempts := coherent.attempts
  cases now with
  | attempted readerState =>
      have counted : status.connecting.attempts =
          connectionAttempts (.attempted readerState :: history) := by
        simpa [ReaderStatus.connecting, connectionAttempts] using attempts
      by_cases ready : readerState = .READY
      · simp only [ReaderStatus.step, ReaderStatus.connect, ready, if_true] at counted ⊢
        constructor <;> simp [lastInventory, counted]
      · simp only [ReaderStatus.step, ReaderStatus.connect, ready, if_false]
        exact .offline ready counted
  | answered outcome =>
      have counted : status.attempts = connectionAttempts (.answered outcome :: history) := by
        simpa [connectionAttempts] using attempts
      cases outcome with
      | VALID =>
          constructor <;> simp [ReaderStatus.step, ReaderStatus.answer, lastInventory, counted]
      | NO_RESPONSE =>
          by_cases reached : status.threshold ≤ status.unanswered + 1
          · constructor <;>
              simp [ReaderStatus.step, ReaderStatus.answer, lastInventory, reached, counted]
          · constructor <;>
              simp [ReaderStatus.step, ReaderStatus.answer, lastInventory, reached, counted]
      | MALFORMED =>
          constructor <;> simp [ReaderStatus.step, ReaderStatus.answer, lastInventory, counted]
  | lost =>
      refine .offline (by decide) ?_
      simpa [connectionAttempts] using attempts
  | heartbeat =>
      have counted : status.attempts = connectionAttempts (.heartbeat :: history) := by
        simpa [connectionAttempts] using attempts
      exact ⟨coherent.connected, coherent.responding, coherent.valid, coherent.healthy,
        coherent.settled, counted, coherent.silent⟩

theorem run_coherent (history : List Happening) : Coherent history (ReaderStatus.run history) := by
  induction history with
  | nil => constructor <;> simp [ReaderStatus.start, HealthState.readerStatus, connectionAttempts]
  | cons now past ih => exact ih.step now

/-- READY since a connection attempt, with only inventories and heartbeats in between. -/
inductive Live : List Happening → Prop where
  | attempted {past : List Happening} : Live (.attempted .READY :: past)
  | answered {past : List Happening} (status : InventoryStatus) (live : Live past) :
      Live (.answered status :: past)
  | heartbeat {past : List Happening} (live : Live past) : Live (.heartbeat :: past)

/-! ## Unbroken runs -/

/-- A NO_RESPONSE since the last VALID. -/
inductive Unanswered : List Happening → Prop where
  | here {past : List Happening} : Unanswered (.answered .NO_RESPONSE :: past)
  | later {now : Happening} {past : List Happening} (notValid : now ≠ .answered .VALID)
      (unanswered : Unanswered past) : Unanswered (now :: past)

/-- Ends a run of NO_RESPONSE without answering it. -/
def Happening.breaks : Happening → Bool
  | .answered .MALFORMED => true
  | .attempted _ => true
  | .lost => true
  | _ => false

/-- Since the last VALID, a MALFORMED answer, a lost connection or a connection attempt
came after a NO_RESPONSE. -/
inductive Broken : List Happening → Prop where
  | here {now : Happening} {past : List Happening} (breaks : now.breaks = true)
      (unanswered : Unanswered past) : Broken (now :: past)
  | later {now : Happening} {past : List Happening} (notValid : now ≠ .answered .VALID)
      (broken : Broken past) : Broken (now :: past)

theorem Broken.unanswered {history : List Happening} (broken : Broken history) :
    Unanswered history := by
  induction broken with
  | here breaks unanswered => exact .later (by rintro rfl; contradiction) unanswered
  | later notValid _ ih => exact .later notValid ih

theorem unanswered_cons {now : Happening} {past : List Happening} :
    Unanswered (now :: past) ↔
      now = .answered .NO_RESPONSE ∨ (now ≠ .answered .VALID ∧ Unanswered past) := by
  constructor
  · intro unanswered
    cases unanswered with
    | here => exact .inl rfl
    | later notValid earlier => exact .inr ⟨notValid, earlier⟩
  · intro either
    cases either with
    | inl same => exact same ▸ .here
    | inr both => exact .later both.1 both.2

theorem broken_cons {now : Happening} {past : List Happening} :
    Broken (now :: past) ↔
      (now.breaks = true ∧ Unanswered past) ∨ (now ≠ .answered .VALID ∧ Broken past) := by
  constructor
  · intro broken
    cases broken with
    | here breaks unanswered => exact .inl ⟨breaks, unanswered⟩
    | later notValid earlier => exact .inr ⟨notValid, earlier⟩
  · intro either
    cases either with
    | inl both => exact .here both.1 both.2
    | inr both => exact .later both.1 both.2

/-- Of all happenings, only a VALID inventory resets the counter. -/
theorem step_unanswered (status : ReaderStatus) (now : Happening) :
    (status.step now).unanswered =
      match now with
      | .answered .VALID => 0
      | .answered .NO_RESPONSE => status.unanswered + 1
      | _ => status.unanswered := by
  cases now with
  | attempted readerState =>
      simp only [ReaderStatus.step, ReaderStatus.connect]
      split <;> rfl
  | answered outcome => cases outcome <;> rfl
  | lost => rfl
  | heartbeat => rfl

theorem run_unanswered_pos_iff (history : List Happening) :
    0 < (ReaderStatus.run history).unanswered ↔ Unanswered history := by
  induction history with
  | nil =>
      constructor
      · intro positive
        contradiction
      · intro unanswered
        cases unanswered
  | cons now past ih =>
      rw [ReaderStatus.run_cons, step_unanswered, unanswered_cons, ← ih]
      cases now with
      | answered outcome => cases outcome <;> simp
      | attempted | lost | heartbeat => simp

/-- The counter is the length of the run exactly as long as nothing but a VALID
inventory has ended a run. -/
theorem run_unanswered_eq_iff (history : List Happening) :
    (ReaderStatus.run history).unanswered = silentRun history ↔ ¬ Broken history := by
  induction history with
  | nil =>
      refine ⟨fun _ broken => ?_, fun _ => rfl⟩
      cases broken
  | cons now past ih =>
      have unbroken : (ReaderStatus.run past).unanswered = 0 → ¬ Broken past := by
        intro none broken
        have positive := (run_unanswered_pos_iff past).mpr broken.unanswered
        omega
      rw [ReaderStatus.run_cons, step_unanswered, broken_cons, ← run_unanswered_pos_iff]
      cases now with
      | answered outcome =>
          cases outcome with
          | VALID => simp [silentRun, Happening.breaks]
          | NO_RESPONSE => simp [silentRun, Happening.breaks, ih]
          | MALFORMED => simpa [silentRun, Happening.breaks] using unbroken
      | heartbeat => simp [silentRun, Happening.breaks, ih]
      | attempted | lost => simpa [silentRun, Happening.breaks] using unbroken

end MvdEdge
