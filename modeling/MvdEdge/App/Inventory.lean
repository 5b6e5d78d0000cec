import MvdEdge.Adapters.Frame
import MvdEdge.EventEngine.Outage
import MvdEdge.Health.State

/-! `read_inventory_events`, with the outcome of the reader's inventory call and
the clock readings as arguments, and its runs over one `PresenceState`. -/

set_option autoImplicit false

namespace MvdEdge

open Lib PresenceState

/-- What one call sees of its surroundings: the inventory result or the text of
the exception, the readings of `time.time()` and `utc_timestamp()`, and the mint. -/
structure InventoryCall where
  inventory : Except Str InventoryResult
  now : Time
  stamp : Timestamp
  mint : Mint

/-- The returned triple, the objects the call mutates, and whether it closed the reader. -/
structure InventoryRead where
  readerState : ReaderState
  events : List DetectedEvent
  message : Str
  state : PresenceState
  healthState : Option HealthState
  readerClosed : Bool

def readInventoryEvents (call : InventoryCall) (state : PresenceState)
    (healthState : Option HealthState) (readerId : Option Str) : InventoryRead :=
  match call.inventory with
  | .ok result =>
      let marked := healthState.map fun health =>
        match result.status with
        | .VALID => health.markInventorySuccess result.tags call.stamp
        | .NO_RESPONSE => health.markInventoryNoResponse
        | .MALFORMED => health.markInventoryMalformed
      if result.status ≠ .VALID then
        ⟨.READY, [], result.status.value, state, marked, false⟩
      else
        let (events, updated) := state.update result.tags call.now readerId call.mint
        ⟨.READY, events, [], updated, marked, false⟩
  | .error message =>
      let marked := healthState.map fun health =>
        ((health.setReaderState .DISCONNECTED).markError "SERIAL_DISCONNECTED".toList
          call.stamp).markReaderOffline message
      ⟨.DISCONNECTED, [], message, state, marked, true⟩

def InventoryCall.scan? (call : InventoryCall) : Option Scan :=
  match call.inventory with
  | .ok ⟨.VALID, tags⟩ => some ⟨tags, call.now, call.mint⟩
  | _ => none

theorem InventoryCall.scan?_mint {call : InventoryCall} {scan : Scan}
    (found : call.scan? = some scan) : scan.mint = call.mint := by
  unfold InventoryCall.scan? at found
  split at found
  · rw [← Option.some.inj found]
  · contradiction

def runInventory (readerId : Option Str) :
    List InventoryCall → PresenceState → Option HealthState → List InventoryRead × PresenceState
  | [], state, _ => ([], state)
  | call :: rest, state, healthState =>
      let read := readInventoryEvents call state healthState readerId
      let (later, final) := runInventory readerId rest read.state read.healthState
      (read :: later, final)

def emitted (reads : List InventoryRead) : List DetectedEvent := reads.flatMap (·.events)

theorem readInventoryEvents_cases (call : InventoryCall) (state : PresenceState)
    (healthState : Option HealthState) (readerId : Option Str) :
    let read := readInventoryEvents call state healthState readerId
    (∃ scan, call.scan? = some scan ∧
      (read.events, read.state) = state.update scan.tags scan.now readerId scan.mint ∧
      read.readerState = .READY ∧ read.readerClosed = false) ∨
    (call.scan? = none ∧ (∃ result, call.inventory = .ok result) ∧
      read.events = [] ∧ read.state = state ∧
      read.readerState = .READY ∧ read.readerClosed = false) ∨
    (call.scan? = none ∧ (∃ message, call.inventory = .error message) ∧
      read.events = [] ∧ read.state = state ∧
      read.readerState = .DISCONNECTED ∧ read.readerClosed = true) := by
  obtain ⟨inventory, now, stamp, mint⟩ := call
  cases inventory with
  | error message => simp [readInventoryEvents, InventoryCall.scan?]
  | ok result =>
      obtain ⟨status, tags⟩ := result
      cases status <;> simp [readInventoryEvents, InventoryCall.scan?]

theorem readInventoryEvents_state (call : InventoryCall) (state : PresenceState)
    (healthState : Option HealthState) (readerId : Option Str) :
    (readInventoryEvents call state healthState readerId).state =
      (runUpdates readerId call.scan?.toList state).2 := by
  rcases readInventoryEvents_cases call state healthState readerId with valid | unread | lost
  · obtain ⟨scan, found, updated, _⟩ := valid
    rw [found]
    exact congrArg Prod.snd updated
  · rw [unread.1]
    exact unread.2.2.2.1
  · rw [lost.1]
    exact lost.2.2.2.1

theorem runInventory_refines (readerId : Option Str) (calls : List InventoryCall)
    (state : PresenceState) (healthState : Option HealthState) :
    let run := runInventory readerId calls state healthState
    (emitted run.1, run.2) = runUpdates readerId (calls.filterMap (·.scan?)) state := by
  induction calls generalizing state healthState with
  | nil => rfl
  | cons call rest ih =>
      have tail := ih (readInventoryEvents call state healthState readerId).state
        (readInventoryEvents call state healthState readerId).healthState
      simp only [runInventory, emitted, List.flatMap_cons] at tail ⊢
      obtain ⟨scan, found, stepped, _⟩ | ⟨found, _, quiet, kept, _⟩ | ⟨found, _, quiet, kept, _⟩ :=
        readInventoryEvents_cases call state healthState readerId
      · have first : runUpdates readerId [scan] state =
            state.update scan.tags scan.now readerId scan.mint := rfl
        rw [List.filterMap_cons_some found, ← List.singleton_append, runUpdates_append]
        dsimp only
        rw [first, ← stepped]
        dsimp only
        rw [← tail]
      · rw [List.filterMap_cons_none found, quiet, List.nil_append]
        rw [kept] at tail
        rw [← tail, kept]
      · rw [List.filterMap_cons_none found, quiet, List.nil_append]
        rw [kept] at tail
        rw [← tail, kept]

structure AnswersOutcome (call : InventoryCall) (read : InventoryRead) : Prop where
  failedQuiet : (∀ tags, call.inventory ≠ .ok ⟨.VALID, tags⟩) → read.events = []
  disconnected : read.readerState = .DISCONNECTED ↔ ∃ message, call.inventory = .error message
  stateRange : read.readerState = .DISCONNECTED ∨ read.readerState = .READY
  closed : read.readerState = .DISCONNECTED → read.readerClosed = true

theorem readInventoryEvents_answers (call : InventoryCall) (state : PresenceState)
    (healthState : Option HealthState) (readerId : Option Str) :
    AnswersOutcome call (readInventoryEvents call state healthState readerId) := by
  obtain ⟨inventory, now, stamp, mint⟩ := call
  cases inventory with
  | error message => constructor <;> simp [readInventoryEvents]
  | ok result =>
      obtain ⟨status, tags⟩ := result
      cases status <;> constructor <;> simp [readInventoryEvents]

theorem runInventory_answers (readerId : Option Str) (calls : List InventoryCall)
    (state : PresenceState) (healthState : Option HealthState) :
    List.Forall₂ AnswersOutcome calls (runInventory readerId calls state healthState).1 := by
  induction calls generalizing state healthState with
  | nil => exact .nil
  | cons call rest ih =>
      exact .cons (readInventoryEvents_answers call state healthState readerId) (ih _ _)

/-- Failed scans are invisible: a run emits what the valid scans alone emit and
ends in their state, and each answer tells its own call's outcome. -/
theorem runInventory_invisible (readerId : Option Str) (calls : List InventoryCall)
    (state : PresenceState) (healthState : Option HealthState) :
    let run := runInventory readerId calls state healthState
    let erased := runUpdates readerId (calls.filterMap (·.scan?)) state
    emitted run.1 = erased.1 ∧ run.2 = erased.2 ∧
      List.Forall₂ AnswersOutcome calls run.1 := by
  have refines := runInventory_refines readerId calls state healthState
  exact ⟨congrArg Prod.fst refines, congrArg Prod.snd refines,
    runInventory_answers readerId calls state healthState⟩

/-! ## Outages -/

def emittedKeys (readerId : Option Str) (calls : List InventoryCall) (state : PresenceState)
    (healthState : Option HealthState) : List (EventType × Str × Option Str) :=
  (emitted (runInventory readerId calls state healthState).1).map (·.key)

def InventoryCall.scanned (call : InventoryCall) : Scan where
  tags := match call.inventory with
    | .ok result => result.tags
    | .error _ => []
  now := call.now
  mint := call.mint

/-- A valid scan, and the same scan as it happens after an outage that took `delay`. -/
structure Postponed (delay : Time) (calls : InventoryCall × InventoryCall) : Prop where
  valid : ∃ tags, calls.1.inventory = .ok ⟨.VALID, tags⟩
  sameResult : calls.2.inventory = calls.1.inventory
  later : calls.2.now = calls.1.now + delay

theorem Postponed.scans {delay : Time} {calls : InventoryCall × InventoryCall}
    (postponed : Postponed delay calls) :
    calls.1.scan? = some calls.1.scanned ∧ calls.2.scan? = some calls.2.scanned ∧
      Delayed delay (calls.1.scanned, calls.2.scanned) := by
  obtain ⟨tags, valid⟩ := postponed.valid
  have late : calls.2.inventory = .ok ⟨.VALID, tags⟩ := postponed.sameResult.trans valid
  refine ⟨?_, ?_, ?_, postponed.later⟩
  · simp [InventoryCall.scan?, InventoryCall.scanned, valid]
  · simp [InventoryCall.scan?, InventoryCall.scanned, late]
  · simp [InventoryCall.scanned, valid, late]

private theorem filterMap_scan?_eq {calls : List InventoryCall}
    (valid : ∀ call ∈ calls, call.scan? = some call.scanned) :
    calls.filterMap (·.scan?) = calls.map (·.scanned) := by
  rw [← List.filterMap_eq_map]
  exact List.filterMap_congr valid

theorem emittedKeys_append (readerId : Option Str) (earlier later : List InventoryCall)
    (state : PresenceState) (healthState : Option HealthState) :
    emittedKeys readerId (earlier ++ later) state healthState =
      emittedKeys readerId earlier state healthState ++
        (runUpdates readerId (later.filterMap (·.scan?))
          (runInventory readerId earlier state healthState).2).1.map (·.key) := by
  have whole := congrArg Prod.fst
    (runInventory_refines readerId (earlier ++ later) state healthState)
  have first := runInventory_refines readerId earlier state healthState
  have events := congrArg Prod.fst first
  have reached := congrArg Prod.snd first
  dsimp only at whole events reached
  rw [emittedKeys, emittedKeys, whole, List.filterMap_append, runUpdates_append, events, reached,
    List.map_append]

/-- An outage between two scans goes unnoticed at every point of the run exactly
when no scan after it finds a tag, not listed since before the outage, that only
the length of the outage brings to the timeout. -/
theorem outage_unnoticed_iff (readerId : Option Str) (before outage : List InventoryCall)
    (after : List (InventoryCall × InventoryCall)) {delay : Time} (nonneg : 0 ≤ delay)
    (raises : ∀ call ∈ outage, ∃ message, call.inventory = .error message)
    (postponed : ∀ calls ∈ after, Postponed delay calls)
    (state : PresenceState) (healthState : Option HealthState) :
    (∀ count,
      emittedKeys readerId (before ++ outage ++ (after.take count).map Prod.snd) state
          healthState =
        emittedKeys readerId (before ++ (after.take count).map Prod.fst) state healthState) ↔
      (runInventory readerId before state healthState).2.DelayHarmless readerId delay
        ((after.map Prod.fst).filterMap (·.scan?)) := by
  have silent : outage.filterMap (·.scan?) = [] := by
    rw [List.filterMap_eq_nil_iff]
    intro call member
    obtain ⟨message, raised⟩ := raises call member
    simp [InventoryCall.scan?, raised]
  have pairs : ∀ calls ∈ after, calls.1.scan? = some calls.1.scanned ∧
      calls.2.scan? = some calls.2.scanned ∧
      Delayed delay (calls.1.scanned, calls.2.scanned) :=
    fun calls member => (postponed calls member).scans
  have scansOf : ∀ side : InventoryCall × InventoryCall → InventoryCall,
      (∀ calls ∈ after, (side calls).scan? = some (side calls).scanned) → ∀ count,
      ((after.take count).map side).filterMap (·.scan?) =
        (after.take count).map fun calls => (side calls).scanned := by
    intro side valid count
    rw [filterMap_scan?_eq, List.map_map]
    · rfl
    · intro call member
      obtain ⟨calls, included, rfl⟩ := List.mem_map.mp member
      exact valid calls (List.mem_of_mem_take included)
  have base := scansOf Prod.fst fun calls member => (pairs calls member).1
  have late := scansOf Prod.snd fun calls member => (pairs calls member).2.1
  have delayed : ∀ pair ∈ after.map fun calls => (calls.1.scanned, calls.2.scanned),
      Delayed delay pair := by
    intro pair member
    obtain ⟨calls, included, rfl⟩ := List.mem_map.mp member
    exact (pairs calls included).2.2
  have unnoticed := runUpdates_delayed_iff (runInventory readerId before state healthState).2
    readerId nonneg delayed
  have whole := base after.length
  rw [List.take_length] at whole
  rw [whole]
  simp only [← List.map_take, List.map_map, Function.comp_def] at unnoticed
  rw [← unnoticed]
  refine forall_congr' fun count => ?_
  rw [List.append_assoc, emittedKeys_append, emittedKeys_append, List.filterMap_append, silent,
    List.nil_append, base, late, List.append_cancel_left_eq]

def callAt (now : Time) (inventory : Except Str InventoryResult) : InventoryCall :=
  ⟨inventory, now, 0, ⟨fun _ => [], fun _ => 0⟩⟩

/-- A tag listed at 0 and missed half a second later: a second of outage in
between brings it nowhere near a timeout of three. -/
theorem outage_unnoticed_iff_second :
    let seen := callAt 0 (.ok ⟨.VALID, ["A".toList]⟩)
    let lost := callAt (1 / 4) (.error "unplugged".toList)
    let missed := (callAt (1 / 2) (.ok ⟨.VALID, []⟩), callAt (3 / 2) (.ok ⟨.VALID, []⟩))
    let state := new (.finite 3)
    (0 : Time) ≤ 1 ∧ (∀ call ∈ [lost], ∃ message, call.inventory = .error message) ∧
      (∀ calls ∈ [missed], Postponed 1 calls) ∧
      ∀ count,
        emittedKeys (some "R".toList) ([seen] ++ [lost] ++ ([missed].take count).map Prod.snd)
            state none =
          emittedKeys (some "R".toList) ([seen] ++ ([missed].take count).map Prod.fst)
            state none := by
  intro seen lost missed state
  have nonneg : (0 : Time) ≤ 1 := by decide +kernel
  have raises : ∀ call ∈ [lost], ∃ message, call.inventory = .error message := by
    simp [lost, callAt]
  have postponed : ∀ calls ∈ [missed], Postponed 1 calls := by
    intro calls member
    obtain rfl := List.mem_singleton.mp member
    exact ⟨⟨[], rfl⟩, rfl, by decide +kernel⟩
  refine ⟨nonneg, raises, postponed, ?_⟩
  refine (outage_unnoticed_iff (some "R".toList) [seen] [lost] [missed] nonneg raises postponed
    state none).mpr ?_
  intro earlier scan both key lastSeen unseen
  obtain ⟨rest, whole⟩ := both
  have last : scan = missed.1.scanned := by
    cases earlier with
    | nil => exact (List.cons.inj whole).1
    | cons first earlier =>
        have longer := congrArg List.length whole
        simp [missed, callAt, InventoryCall.scan?] at longer
  have entries : (runInventory (some "R".toList) [seen] state none).2.visibleTags.entries =
      [(tagKey "A".toList (some "R".toList), 0)] := by decide +kernel
  have stored := Lib.InsertionDict.get?_eq_some_iff.mp unseen.inSight
  rw [entries, List.mem_singleton] at stored
  rw [last, stored]
  decide +kernel

/-- Ten seconds of outage bring it past the timeout, and a single miss reports an
EXIT that the run without the outage does not have. -/
theorem outage_false_exit : ¬ ∀ (readerId : Option Str) (before outage : List InventoryCall)
    (after : List (InventoryCall × InventoryCall)) (delay : Time), 0 ≤ delay →
    (∀ call ∈ outage, ∃ message, call.inventory = .error message) →
    (∀ calls ∈ after, Postponed delay calls) →
    ∀ (state : PresenceState) (healthState : Option HealthState),
      emittedKeys readerId (before ++ outage ++ after.map Prod.snd) state healthState =
        emittedKeys readerId (before ++ after.map Prod.fst) state healthState := by
  intro claim
  have same := claim (some "R".toList) [callAt 0 (.ok ⟨.VALID, ["A".toList]⟩)]
    [callAt (1 / 4) (.error "unplugged".toList)]
    [(callAt (1 / 2) (.ok ⟨.VALID, []⟩), callAt (21 / 2) (.ok ⟨.VALID, []⟩))] 10
    (by decide +kernel) (by simp [callAt])
    (by
      intro calls member
      obtain rfl := List.mem_singleton.mp member
      exact ⟨⟨[], rfl⟩, rfl, by decide +kernel⟩)
    (new (.finite 3)) none
  revert same
  decide +kernel

end MvdEdge
