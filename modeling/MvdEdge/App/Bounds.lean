import MvdEdge.App.History
import MvdEdge.Adapters.DecoderLanguage

/-! What the reader and the cloud answer is bounded before it is stored or passed on: an
EPC is the digits of a few bytes, an error one short line. -/

set_option autoImplicit false

namespace MvdEdge

open Lib Lib.Effect PresenceState

/-! ## Texts -/

/-- Upper-case hexadecimal digits of less than 249 bytes. -/
def IsEpc (epc : Str) : Prop := ∃ record : Bytes, record.length < 249 ∧ epc = hexUpper record

/-- EPCs of records that one response frame holds. -/
def FitsFrame (tags : List Str) : Prop :=
  ∃ records : List Bytes, (byteLength.encode records).length ≤ 249 ∧ tags = records.map hexUpper

structure OneLine (maxLength : Nat) (text : Str) : Prop where
  short : text.length ≤ maxLength
  unbroken : '\n' ∉ text ∧ '\r' ∉ text

theorem FitsFrame.isEpc {tags : List Str} (listed : FitsFrame tags) {epc : Str}
    (member : epc ∈ tags) : IsEpc epc := by
  obtain ⟨records, bounded, rfl⟩ := listed
  obtain ⟨record, known, rfl⟩ := List.mem_map.mp member
  exact ⟨record, (byteLength.length_lt_length_encode known).trans_le bounded, rfl⟩

theorem FitsFrame.nil : FitsFrame [] := ⟨[], Nat.zero_le _, rfl⟩

theorem strip_sublist (text : Str) : List.Sublist (strip text) text := by
  have front := List.dropWhile_sublist isSpace (l := text)
  have back := List.dropWhile_sublist isSpace (l := (text.dropWhile isSpace).reverse)
  have kept := back.reverse
  rw [List.reverse_reverse] at kept
  exact kept.trans front

theorem sanitizeError_oneLine (error : Str) (maxLength : Nat) :
    OneLine maxLength (sanitizeError error maxLength) := by
  have spaced : ∀ char ∈ sanitizeError error maxLength, char ≠ '\n' ∧ char ≠ '\r' := by
    intro char member
    have among := ((strip_sublist _).subset (List.mem_of_mem_take member))
    obtain ⟨old, -, rfl⟩ := List.mem_map.mp among
    by_cases broken : old = '\n' ∨ old = '\r'
    · rw [if_pos broken]
      decide
    · rw [if_neg broken]
      exact not_or.mp broken
  refine ⟨?_, fun member => (spaced _ member).1 rfl, fun member => (spaced _ member).2 rfl⟩
  exact List.length_take_le _ _

/-! ## Health -/

structure HealthState.Bounded (health : HealthState) : Prop where
  lastError : ∀ text ∈ health.lastError, OneLine 200 text
  lastReaderError : ∀ text ∈ health.lastReaderError, OneLine 200 text
  lastEpcSeen : ∀ epc ∈ health.lastEpcSeen, IsEpc epc
  lastInventoryEpcs : ∀ tags ∈ health.lastInventoryEpcs, FitsFrame tags

/-- A change that takes bounded health to bounded health. -/
def Bounds (change : HealthState → Timestamp → HealthState) : Prop :=
  ∀ health now, health.Bounded → (change health now).Bounded

namespace HealthState

theorem initial_bounded (readerState : ReaderState) :
    HealthState.Bounded { readerState } := by
  constructor <;> simp

/-- What `Bounded` is about. -/
def texts (health : HealthState) : Option Str × Option Str × Option Str × Option (List Str) :=
  (health.lastError, health.lastReaderError, health.lastEpcSeen, health.lastInventoryEpcs)

theorem Bounded.congr {health changed : HealthState} (bounded : health.Bounded)
    (same : changed.texts = health.texts) : changed.Bounded := by
  simp only [texts, Prod.mk.injEq] at same
  obtain ⟨lastError, readerError, epc, epcs⟩ := same
  exact ⟨lastError ▸ bounded.lastError, readerError ▸ bounded.lastReaderError,
    epc ▸ bounded.lastEpcSeen, epcs ▸ bounded.lastInventoryEpcs⟩

theorem bounds_of_texts {change : HealthState → Timestamp → HealthState}
    (same : ∀ health now, (change health now).texts = health.texts) : Bounds change :=
  fun health now bounded => bounded.congr (same health now)

theorem clearError_bounds : Bounds fun health _ => health.clearError := by
  intro health now bounded
  refine { bounded with lastError := ?_ }
  rintro text ⟨⟩

theorem markError_bounds (error : Str) : Bounds fun health => health.markError error := by
  intro health now bounded
  refine { bounded with lastError := ?_ }
  rintro text ⟨⟩
  exact sanitizeError_oneLine error 200

theorem markReaderOffline_bounds (error : Str) :
    Bounds fun health _ => health.markReaderOffline error := by
  intro health now bounded
  refine { bounded with lastReaderError := ?_ }
  rintro text ⟨⟩
  exact sanitizeError_oneLine error 200

theorem Bounded.inventoried {health : HealthState} (bounded : health.Bounded) {tags : List Str}
    (listed : FitsFrame tags) (now : Timestamp) :
    (health.markInventorySuccess tags now).Bounded := by
  refine ⟨bounded.lastError, by rintro text ⟨⟩, ?_, by rintro other ⟨⟩; exact listed⟩
  intro epc seen
  simp only [markInventorySuccess, Option.mem_def] at seen
  split at seen
  · exact bounded.lastEpcSeen epc seen
  · exact listed.isEpc (List.mem_of_getLast? seen)

theorem oneLine_answers : OneLine 200 "NO_RESPONSE".toList ∧ OneLine 200 "MALFORMED".toList :=
  ⟨⟨by decide, by decide⟩, ⟨by decide, by decide⟩⟩

theorem Bounded.unanswered {health : HealthState} (bounded : health.Bounded) :
    health.markInventoryNoResponse.Bounded ∧ health.markInventoryMalformed.Bounded := by
  constructor
  · refine ⟨bounded.lastError, ?_, bounded.lastEpcSeen, bounded.lastInventoryEpcs⟩
    rintro text ⟨⟩
    exact oneLine_answers.1
  · refine ⟨bounded.lastError, ?_, bounded.lastEpcSeen, bounded.lastInventoryEpcs⟩
    rintro text ⟨⟩
    exact oneLine_answers.2

end HealthState

/-! ## Scans -/

theorem classifyInventoryResponse_listed {response : Bytes} (frame : response.length ≤ 256) :
    FitsFrame (classifyInventoryResponse response).tags := by
  obtain ⟨-, silent⟩ | ⟨-, malformed | ⟨tags, valid⟩⟩ := classifyInventoryResponse_cases response
  · rw [silent]
    exact .nil
  · rw [malformed]
    exact .nil
  · rw [valid]
    obtain ⟨-, rfl⟩ | ⟨-, records, announced, rfl⟩ :=
      ((classifyInventoryResponse_valid_iff response tags).mp valid).content
    · exact .nil
    · refine ⟨records, announced.front.length_le.trans ?_, rfl⟩
      rw [List.length_drop, List.length_take]
      omega

namespace IDT85Reader

variable {env : LineEnv}

theorem read_length (handle size : Nat) :
    Triple (fun _ => True) (read env handle size) (fun chunk _ => chunk.length ≤ size)
      fun _ _ => True :=
  pyserial_triple env (fun _ _ _ _ => trivial) fun _ _ => List.length_take_le _ _

theorem receive_length (handle : Nat) :
    Triple (fun _ => True) (receive env handle) (fun response _ => response.length ≤ 256)
      fun _ _ => True := by
  refine Triple.bind (read_length handle 1) fun first => ?_
  cases first with
  | nil => exact Triple.pure fun _ _ => Nat.zero_le _
  | cons remainingLength more =>
      intro line single
      refine Triple.bind (read_length handle remainingLength.toNat)
        (fun rest => Triple.pure fun _ bounded => ?_) line trivial
      have byte := remainingLength.toNat_lt
      simp only [List.length_cons, List.cons_append, List.length_append] at single bounded ⊢
      omega

theorem inventory_listed (reader : IDT85Reader) :
    Triple (fun _ => True) (reader.inventory env) (fun result _ => FitsFrame result.tags)
      fun _ _ => True := by
  have asked : Triple (fun _ => True)
      (sendCommand env reader (buildInventoryCommand reader.address))
      (fun response _ => response.length ≤ 256) fun _ _ => True := by
    refine Triple.read fun line => ?_
    split
    · exact Triple.throw fun _ _ => trivial
    · exact Triple.bind (Triple.any _ _) fun _ => Triple.bind (Triple.any _ _) fun _ =>
        Triple.bind (Triple.any _ _) fun _ => Triple.bind (Triple.any _ _) fun _ =>
        Triple.bind (receive_length _) fun _ => Triple.bind (Triple.update fun _ bounded => bounded)
          fun _ => Triple.pure fun _ bounded => bounded
  exact Triple.bind asked fun _ => Triple.pure fun _ frame =>
    classifyInventoryResponse_listed frame

end IDT85Reader

/-- EPCs that are in sight. -/
def PresenceState.Bounded (state : PresenceState) : Prop :=
  ∀ key ∈ state.visibleTags.keys, IsEpc (epcFromKey key)

theorem PresenceState.Bounded.update {state : PresenceState} (bounded : state.Bounded)
    {reader : Str} (clean : nul ∉ reader) {tags : List Str} (listed : FitsFrame tags) (now : Time)
    (mint : Mint) :
    (∀ event ∈ (state.update tags now (some reader) mint).1, IsEpc event.epc) ∧
      (state.update tags now (some reader) mint).2.Bounded := by
  have refreshed : ∀ key ∈ (state.refreshed tags now (some reader) mint).keys,
      IsEpc (epcFromKey key) := by
    intro key member
    rw [refreshed_keys] at member
    cases List.mem_append.mp member with
    | inl old => exact bounded key old
    | inr new =>
        obtain ⟨epc, arrived, rfl⟩ := List.mem_map.mp new
        rw [epcFromKey_tagKey clean]
        exact listed.isEpc (mem_arrivals.mp arrived).1
  constructor
  · intro event member
    have known := List.mem_map_of_mem (f := DetectedEvent.key) member
    rw [update_keys] at known
    cases List.mem_append.mp known with
    | inl entered =>
        obtain ⟨epc, arrived, same⟩ := List.mem_map.mp entered
        have epcs : epc = event.epc := congrArg (·.2.1) same
        exact epcs ▸ listed.isEpc (mem_arrivals.mp arrived).1
    | inr left =>
        obtain ⟨entry, expired, same⟩ := List.mem_map.mp left
        have epcs : epcFromKey entry.1 = event.epc := congrArg (·.2.1) same
        exact epcs ▸ refreshed entry.1 (List.mem_map_of_mem (List.mem_of_mem_filter expired))
  · intro key member
    rw [InsertionDict.keys, update_entries] at member
    obtain ⟨entry, kept, rfl⟩ := List.mem_map.mp member
    exact refreshed entry.1 (List.mem_map_of_mem (List.mem_of_mem_filter kept))

theorem readInventoryEvents_bounded {call : InventoryCall}
    (listed : ∀ result, call.inventory = .ok result → FitsFrame result.tags)
    {state : PresenceState} (bounded : state.Bounded) {healthState : Option HealthState}
    (health : ∀ health ∈ healthState, health.Bounded) {reader : Str} (clean : nul ∉ reader) :
    let read := readInventoryEvents call state healthState (some reader)
    (∀ event ∈ read.events, IsEpc event.epc) ∧ read.state.Bounded ∧
      ∀ health ∈ read.healthState, health.Bounded := by
  obtain ⟨inventory, now, stamp, mint⟩ := call
  cases inventory with
  | error message =>
      refine ⟨by simp [readInventoryEvents], bounded, Option.forall_mem_map.mpr ?_⟩
      intro old known
      exact HealthState.markReaderOffline_bounds message _ 0
        (HealthState.markError_bounds _ _ stamp ((health old known).congr rfl))
  | ok result =>
      obtain ⟨status, tags⟩ := result
      have tagsListed : FitsFrame tags := listed _ rfl
      cases status with
      | VALID =>
          obtain ⟨events, updated⟩ := bounded.update clean tagsListed now mint
          exact ⟨events, updated, Option.forall_mem_map.mpr fun old known =>
            (health old known).inventoried tagsListed stamp⟩
      | NO_RESPONSE =>
          exact ⟨by simp [readInventoryEvents], bounded, Option.forall_mem_map.mpr
            fun old known => (health old known).unanswered.1⟩
      | MALFORMED =>
          exact ⟨by simp [readInventoryEvents], bounded, Option.forall_mem_map.mpr
            fun old known => (health old known).unanswered.2⟩

/-! ## Deliveries -/

structure QueuedEvent.Bounded (row : QueuedEvent) : Prop where
  epc : IsEpc row.payload.epc
  lastError : ∀ text ∈ row.lastError, OneLine 500 text

structure DeliveryState.Bounded (state : DeliveryState) : Prop where
  rows : ∀ row ∈ state.queue.rows, row.Bounded
  sent : ∀ payload ∈ state.cloud.sent, IsEpc payload.epc
  health : ∀ health ∈ state.healthState, health.Bounded

theorem QueuedEvent.Bounded.attempted {row : QueuedEvent} (bounded : row.Bounded)
    (error : Option Str) (now : Timestamp) : (row.attempted error now).Bounded := by
  refine ⟨bounded.epc, fun text stored => ?_⟩
  simp only [QueuedEvent.attempted, Option.mem_def] at stored
  split at stored
  · contradiction
  · contradiction
  · exact Option.some.inj stored ▸ sanitizeError_oneLine _ _

namespace Delivery

variable {env : DeliveryEnv}

theorem statement_bounded {α : Type} {run : EventQueue → Timestamp → α × EventQueue}
    (keeps : ∀ queue now, (∀ row ∈ queue.rows, row.Bounded) →
      ∀ row ∈ (run queue now).2.rows, row.Bounded) :
    Preserves DeliveryState.Bounded (statement env run) :=
  Triple.operation (fun _ bounded => { bounded with rows := keeps _ _ bounded.rows })
    fun _ _ _ bounded => { bounded with }

theorem set_bounded {edgeEventId : Str} (mark : Timestamp → QueuedEvent → QueuedEvent)
    (keeps : ∀ now row, (mark now row).id = row.id ∧
      (mark now row).edgeEventId = row.edgeEventId)
    (marked : ∀ now row, row.Bounded → (mark now row).Bounded) :
    Preserves DeliveryState.Bounded
      (statement env fun queue now => ((), queue.set edgeEventId (mark now) (keeps now))) := by
  refine statement_bounded fun queue now rows row member => ?_
  have among : row ∈ (queue.set edgeEventId (mark now) (keeps now)).rows := member
  cases EventQueue.mem_set_iff.mp among with
  | inl changed =>
      obtain ⟨old, known, -, rfl⟩ := changed
      exact marked now old (rows old known)
  | inr kept => exact rows row kept.1

theorem markHealth_bounded {mark : HealthState → Timestamp → HealthState} (bounds : Bounds mark) :
    Preserves DeliveryState.Bounded (markHealth env mark) :=
  Triple.operation (fun _ bounded => { bounded with
      health := Option.forall_mem_map.mpr fun old known =>
        bounds old _ (bounded.health old known) })
    fun _ _ _ bounded => { bounded with }

theorem enqueue_bounded {payload : EventPayload} (epc : IsEpc payload.epc) :
    Preserves DeliveryState.Bounded (enqueue env payload) := by
  refine statement_bounded fun queue now rows row member => ?_
  cases EventQueue.mem_enqueue_iff.mp member with
  | inl old => exact rows row old
  | inr new =>
      obtain ⟨-, rfl⟩ := new
      exact ⟨epc, by simp⟩

theorem sendPayload_bounded {payload : EventPayload} (epc : IsEpc payload.epc) :
    Preserves DeliveryState.Bounded (sendPayload env payload) := by
  refine Triple.through (fun _ => DeliveryState.Bounded)
    (Triple.operation (fun state bounded => ?_) fun _ _ _ bounded => { bounded with })
    fun reply => ?_
  · refine { bounded with sent := fun other member => ?_ }
    cases List.mem_append.mp member with
    | inl earlier => exact bounded.sent other earlier
    | inr last => exact List.mem_singleton.mp last ▸ epc
  · split
    · exact Preserves.pure _
    · exact Preserves.throw _

theorem deliver_bounded {queuedEvent : QueuedEvent} (epc : IsEpc queuedEvent.payload.epc) :
    Preserves DeliveryState.Bounded (deliver env queuedEvent) := by
  refine Preserves.bind (Triple.operation (fun _ bounded => { bounded with })
    fun _ _ _ bounded => { bounded with }) fun now => ?_
  refine Preserves.bind (set_bounded
    (fun _ row => { row with payload := { queuedEvent.payload with edgeSendAt := now } })
    (fun _ _ => ⟨rfl, rfl⟩) fun _ row bounded => ⟨epc, bounded.lastError⟩) fun _ => ?_
  refine Preserves.bind (Preserves.attempt (sendPayload_bounded epc)) fun sent => ?_
  let error := if (resultOf sent).success then none else (resultOf sent).error
  refine Preserves.bind (set_bounded (fun now row => row.attempted error now)
    (fun _ _ => ⟨rfl, rfl⟩) fun now row bounded => bounded.attempted error now) fun _ => ?_
  refine Preserves.bind ?_ fun _ => Preserves.pure _
  unfold settle
  split
  · exact Preserves.bind (set_bounded (fun now row => row.delivered now) (fun _ _ => ⟨rfl, rfl⟩)
      fun _ row bounded => ⟨bounded.epc, by rintro text ⟨⟩⟩) fun _ =>
      markHealth_bounded (HealthState.bounds_of_texts fun _ _ => rfl)
  · exact markHealth_bounded (HealthState.markError_bounds _)

theorem deliverBatch_bounded {batch : List QueuedEvent}
    (epcs : ∀ queuedEvent ∈ batch, IsEpc queuedEvent.payload.epc) (deliveredCount : Nat) :
    Preserves DeliveryState.Bounded (deliverBatch env batch deliveredCount) := by
  induction batch generalizing deliveredCount with
  | nil => exact Preserves.pure _
  | cons queuedEvent rest ih =>
      exact Preserves.bind (deliver_bounded (epcs queuedEvent List.mem_cons_self)) fun _ =>
        ih (fun other member => epcs other (List.mem_cons_of_mem _ member)) _

theorem processPendingDeliveries_bounded (batchSize : Nat) :
    Preserves DeliveryState.Bounded (processPendingDeliveries env batchSize) := by
  have fetched : Triple DeliveryState.Bounded (fetchPending env batchSize)
      (fun batch state => state.Bounded ∧
        ∀ queuedEvent ∈ batch, IsEpc queuedEvent.payload.epc)
      fun _ => DeliveryState.Bounded :=
    fetchPending_triple env (fun _ state bounded => ⟨{ bounded with }, fun queuedEvent member =>
      (bounded.rows queuedEvent (EventQueue.mem_of_mem_selectPending member).1).epc⟩)
      (fun _ _ bounded => { bounded with }) fun _ _ _ bounded => { bounded with }
  refine Triple.bind fetched fun batch => ?_
  intro state both
  exact deliverBatch_bounded both.2 0 state both.1

end Delivery

/-! ## Runs -/

/-- `events` are still to be enqueued. -/
structure World.Bounded (events : List DetectedEvent) (world : World) : Prop where
  delivery : world.delivery.Bounded
  presence : world.presence.Bounded
  heartbeats : ∀ heartbeat ∈ world.heartbeats, ∀ health ∈ heartbeat.healthState, health.Bounded
  events : ∀ event ∈ events, IsEpc event.epc

theorem World.Bounded.setHealth {events : List DetectedEvent} {world : World}
    (bounded : world.Bounded events) {healthState : Option HealthState}
    (health : ∀ health ∈ healthState, health.Bounded) :
    (world.setHealth healthState).Bounded events :=
  { bounded with delivery := { bounded.delivery with health } }

theorem World.Bounded.drop {events : List DetectedEvent} {world : World}
    (bounded : world.Bounded events) : world.Bounded [] :=
  { bounded with events := fun _ member => absurd member List.not_mem_nil }

namespace Agent

section Bounding

variable {env : AgentEnv} {config : EdgeConfig} {events : List DetectedEvent}

theorem quietly_bounded {α : Type} {act : Nat → World → α × World}
    (kept : ∀ tick world, world.Bounded events → (act tick world).2.Bounded events) :
    Preserves (World.Bounded events) (quietly env act) :=
  Triple.operation (fun _ bounded => kept _ _ { bounded with }) fun _ _ _ bounded =>
    { bounded with }

theorem time_bounded : Preserves (World.Bounded events) (time env) :=
  quietly_bounded fun _ _ bounded => bounded

theorem mark_bounded {change : HealthState → Timestamp → HealthState} (bounds : Bounds change) :
    Preserves (World.Bounded events) (mark env change) :=
  quietly_bounded fun _ _ bounded => bounded.setHealth
    (Option.forall_mem_map.mpr fun old known => bounds old _ (bounded.delivery.health old known))

theorem onDelivery_bounded {α : Type} {program : Delivery α}
    (preserved : Preserves DeliveryState.Bounded program) :
    Preserves (World.Bounded events) (onDelivery program) :=
  (Triple.zoom World.deliveryPart (fun world => { world with delivery := .empty })
    (fun _ _ => rfl) preserved (World.Bounded events)).conseq
    (fun _ bounded => ⟨bounded.delivery, { bounded with
      delivery := ⟨by simp [DeliveryState.empty, EventQueue.empty], by
        simp [DeliveryState.empty, Cloud.empty], by simp [DeliveryState.empty]⟩ }⟩)
    (fun _ _ both => { both.2 with delivery := both.1 })
    fun _ _ both => { both.2 with delivery := both.1 }

theorem onLine_bounded {α : Type} {program : Serial α} {post : α → Prop}
    (inner : Triple (fun _ => True) program (fun value _ => post value) fun _ _ => True) :
    Triple (World.Bounded events) (onLine program)
      (fun value world => world.Bounded events ∧ post value)
      fun _ => World.Bounded events :=
  (Triple.zoom World.linePart (fun world => { world with line := .idle }) (fun _ _ => rfl) inner
    (World.Bounded events)).conseq
    (fun _ bounded => ⟨trivial, { bounded with }⟩)
    (fun _ _ both => ⟨{ both.2 with }, both.1⟩)
    fun _ _ both => { both.2 with }

theorem onLine_preserves {α : Type} (program : Serial α) :
    Preserves (World.Bounded events) (onLine program) := by
  have inner : Triple (fun _ => True) program (fun _ _ => True) fun _ _ => True := Triple.any _ _
  exact (onLine_bounded inner).returning fun _ _ both => both.1

theorem pendingCount_bounded :
    Preserves (World.Bounded events) (onDelivery (Delivery.pendingCount env.delivery)) :=
  onDelivery_bounded (Delivery.statement_bounded fun _ _ rows => rows)

theorem reconnectPhase_bounded (now : Time) :
    Preserves (World.Bounded []) (reconnectPhase env config now) := by
  have probes : Probes env config (World.Bounded []) fun _ => World.Bounded [] := {
    reader := fun _ _ bounded => { bounded with }
    survey := Triple.operation (fun _ bounded => { bounded with })
      fun _ _ _ bounded => { bounded with }
    discover := fun _ => onLine_preserves _
    created := fun _ => onLine_preserves _
    verified := fun _ => onLine_preserves _ }
  have setReaderState (readerState : ReaderState) :
      Preserves (World.Bounded []) (setReaderState readerState) :=
    Triple.update fun _ bounded => { bounded with }
  have stateMarked (readerState : ReaderState) : Preserves (World.Bounded [])
      (mark env fun health _ => health.setReaderState readerState) :=
    mark_bounded (HealthState.bounds_of_texts fun _ _ => rfl)
  have reported (readerState : ReaderState) (message : Str) : Preserves (World.Bounded [])
      (reportConnection env config now readerState message) := by
    unfold reportConnection
    split
    · exact Preserves.bind (mark_bounded (HealthState.markError_bounds _)) fun _ =>
        Preserves.bind (mark_bounded (HealthState.markReaderOffline_bounds _)) fun _ =>
        Triple.update fun _ bounded => { bounded with }
    · exact Preserves.bind (mark_bounded (HealthState.bounds_of_texts fun _ _ => rfl)) fun _ =>
        mark_bounded HealthState.clearError_bounds
  have connected : Preserves (World.Bounded []) (connectPhase env config now) :=
    Preserves.bind (setReaderState _) fun _ => Preserves.bind (stateMarked _) fun _ =>
    Preserves.bind (mark_bounded (HealthState.bounds_of_texts fun _ _ => rfl)) fun _ =>
    Preserves.bind (resolveReaderPort_probes probes) fun _ =>
    Preserves.bind (connect_probes probes _ _ _) fun _ => Preserves.bind (setReaderState _) fun _ =>
    Preserves.bind (stateMarked _) fun _ => reported _ _
  refine Triple.read fun world => ?_
  split
  · exact connected
  · exact Preserves.pure _

theorem readInventory_bounded (reader : IDT85Reader) :
    Triple (World.Bounded []) (readInventory env config reader)
      (fun read => World.Bounded read.events) fun _ => World.Bounded [] := by
  have asked : Triple (World.Bounded []) (attempt Exn.caught (onLine (reader.inventory env.line)))
      (fun outcome world => world.Bounded [] ∧
        ∀ result, outcome = .ok result → FitsFrame result.tags) fun _ => World.Bounded [] := by
    refine Triple.attempt ((onLine_bounded (reader.inventory_listed)).returning ?_)
      (fun _ _ _ _ bounded => ⟨bounded, by simp⟩) fun _ _ _ bounded => bounded
    intro value world both
    refine ⟨both.1, ?_⟩
    rintro result ⟨⟩
    exact both.2
  refine Triple.bind time_bounded fun _ => Triple.bind asked fun inventory => ?_
  intro world both
  obtain ⟨bounded, listed⟩ := both
  have clean := config.readerIdClean
  -- What is read is bounded, whatever the time is.
  refine (Triple.bind time_bounded fun now => Triple.through (fun read world =>
    world.Bounded [] ∧ (∀ event ∈ read.events, IsEpc event.epc) ∧ read.state.Bounded ∧
      ∀ health ∈ read.healthState, health.Bounded)
    (Triple.operation (fun world bounded => ⟨{ bounded with },
      readInventoryEvents_bounded listed bounded.presence bounded.delivery.health clean⟩)
      fun _ _ _ bounded => { bounded with }) fun read => ?_ :
    Triple (World.Bounded []) _ _ _) world bounded
  intro world both
  obtain ⟨bounded, events, presence, health⟩ := both
  have absorbed : Triple (World.Bounded []) (absorb env reader inventory now read)
      (fun _ => World.Bounded read.events) fun _ => World.Bounded [] :=
    absorb_keeps (onLine_preserves _) fun world bounded =>
      { bounded.setHealth health with presence, events }
  have returned : Triple (World.Bounded read.events) (pure read : Agent InventoryRead)
      (fun read => World.Bounded read.events) fun _ => World.Bounded [] :=
    Triple.pure fun _ bounded => bounded
  exact (Triple.bind absorbed fun _ => returned) world bounded

theorem enqueue_boundedRest (event : DetectedEvent) (rest : List DetectedEvent)
    (sendAt : Timestamp) :
    Triple (World.Bounded (event :: rest))
      (onDelivery (Delivery.enqueue env.delivery (buildEventPayload config event sendAt)))
      (fun _ => World.Bounded rest) fun _ => World.Bounded [] := by
  intro world bounded
  have stored : Preserves (World.Bounded (event :: rest)) (onDelivery
      (Delivery.enqueue env.delivery (buildEventPayload config event sendAt))) :=
    onDelivery_bounded (Delivery.enqueue_bounded (bounded.events event List.mem_cons_self))
  refine (stored world bounded).imp (fun _ next bounded => ?_) fun _ _ bounded => bounded.drop
  refine { bounded with events := fun other member => ?_ }
  exact bounded.events other (List.mem_cons_of_mem _ member)

theorem enqueueEvents_bounded (events : List DetectedEvent) :
    Triple (World.Bounded events) (enqueueEvents env config events) (fun _ => World.Bounded [])
      fun _ => World.Bounded [] := by
  have marked (events : List DetectedEvent) :
      Preserves (World.Bounded events) (mark env HealthState.markEvent) :=
    mark_bounded (HealthState.bounds_of_texts fun _ _ => rfl)
  have stamped (events : List DetectedEvent) : Preserves (World.Bounded events)
      (quietly env fun tick world => (env.stamp tick, world)) :=
    quietly_bounded fun _ _ bounded => bounded
  exact enqueueEvents_keeps World.Bounded
    (fun events => (marked events).raising fun _ _ bounded => bounded.drop)
    (fun events => (stamped events).raising fun _ _ bounded => bounded.drop) enqueue_boundedRest
    events

theorem sendHeartbeat_bounded :
    Preserves (World.Bounded []) (sendHeartbeat env config) := by
  refine sendHeartbeat_keeps pendingCount_bounded (quietly_bounded fun _ _ bounded => bounded)
    (fun world _ _ bounded => { bounded with heartbeats := ?_ }) fun _ _ bounded => bounded
  intro heartbeat member
  cases member with
  | head => exact bounded.delivery.health
  | tail _ earlier => exact bounded.heartbeats heartbeat earlier

theorem scanPhase_bounded :
    Triple (World.Bounded []) (scanPhase env config)
      (fun scanned => World.Bounded (scanned.getD [])) fun _ => World.Bounded [] := by
  have marked (events : List DetectedEvent) (readerState : ReaderState) :
      Preserves (World.Bounded events)
        (mark env fun health _ => health.setReaderState readerState) :=
    mark_bounded (HealthState.bounds_of_texts fun _ _ => rfl)
  exact scanPhase_keeps World.Bounded (fun _ _ _ bounded => { bounded with })
    (fun _ _ _ bounded => { bounded with })
    (fun events readerState => (marked events readerState).raising fun _ _ bounded => bounded.drop)
    (fun _ => Triple.raising time_bounded fun _ _ bounded => bounded.drop) readInventory_bounded

theorem cleanup_bounded : Preserves (World.Bounded []) (cleanup env) := by
  have closed : Preserves (World.Bounded []) (closeReader env) :=
    closeReader_keeps fun _ => onLine_preserves _
  exact Preserves.bind closed fun _ =>
    onDelivery_bounded (Delivery.statement_bounded fun _ _ rows => rows)

theorem bounded_conduct :
    Conduct env config World.Bounded fun _ => World.Bounded [] where
  serves := {
    tick := fun _ bounded => { bounded with }
    fault := fun _ _ _ _ bounded => { bounded with }
    cut := fun _ bounded => bounded
    delivery := fun _ _ bounded => { bounded with }
    heartbeat := fun _ _ bounded => { bounded with }
    slept := fun _ _ bounded => { bounded with }
    pendingCount := pendingCount_bounded
    process := onDelivery_bounded (Delivery.processPendingDeliveries_bounded _) }
  send := sendHeartbeat_bounded
  keeps := fun _ _ bounded => bounded.drop
  caught := fun _ bounded => bounded
  head := fun _ bounded => { bounded with }
  reconnect := reconnectPhase_bounded
  scan := scanPhase_bounded
  enqueue := enqueueEvents_bounded
  opened := onDelivery_bounded (Delivery.statement_bounded fun _ _ rows => rows)
  cleanup := fun _ => cleanup_bounded
  unsupported := fun _ _ bounded => bounded

theorem runAgent_bounded (turns : Nat) {world : World}
    (rows : ∀ row ∈ world.delivery.queue.rows, row.Bounded)
    (sent : ∀ payload ∈ world.delivery.cloud.sent, IsEpc payload.epc) :
    (after (runAgent env config turns) world).Bounded [] := by
  have booted : (world.boot config).Bounded [] := by
    refine ⟨⟨rows, sent, ?_⟩, ?_, ?_, ?_⟩
    · rintro health ⟨⟩
      exact HealthState.initial_bounded .DISCONNECTED
    · simp [World.boot, PresenceState.Bounded, PresenceState.new, InsertionDict.empty,
        InsertionDict.keys]
    · simp [World.boot]
    · simp
  have conduct : Conduct env config World.Bounded fun _ => World.Bounded [] := bounded_conduct
  exact Triple.after (runAgent_conduct conduct turns) booted

end Bounding

end Agent

/-- Over any number of processes, whatever the reader, the cloud and the surroundings do:
what is stored, what is sent and what a heartbeat tells is bounded at every moment. -/
theorem lifetimes_bounded (env : AgentEnv) (processes : List (EdgeConfig × Nat))
    (config : EdgeConfig) (turns : Nat) (world : World)
    (empty : world.delivery.queue.rows = []) (blank : world.delivery.cloud = .empty) :
    (after (Agent.runAgent env config turns) (lifetimes env processes world)).Bounded [] := by
  have left : (∀ row ∈ (lifetimes env processes world).delivery.queue.rows, row.Bounded) ∧
      ∀ payload ∈ (lifetimes env processes world).delivery.cloud.sent, IsEpc payload.epc := by
    induction processes using List.reverseRecOn with
    | nil => simp [lifetimes, empty, blank, Cloud.empty]
    | append_singleton processes process ih =>
        rw [lifetimes_concat]
        have bounded : (after (Agent.runAgent env process.1 process.2)
            (lifetimes env processes world)).Bounded [] := Agent.runAgent_bounded _ ih.1 ih.2
        exact ⟨bounded.delivery.rows, bounded.delivery.sent⟩
  exact Agent.runAgent_bounded turns left.1 left.2

/-- Two processes of one turn that both find the tag. -/
theorem lifetimes_bounded_sample :
    let world := after (Agent.runAgent sampleSurroundings sampleConfig 1)
      (lifetimes sampleSurroundings [(sampleConfig, 1)] sampleWorld)
    sampleWorld.delivery.queue.rows = [] ∧ sampleWorld.delivery.cloud = .empty ∧
      world.delivery.queue.rows.map (·.payload.epc) = singleTagReport.tags ++ singleTagReport.tags ∧
      ∀ row ∈ world.delivery.queue.rows, IsEpc row.payload.epc := by
  intro world
  have bounded : world.Bounded [] := lifetimes_bounded sampleSurroundings [(sampleConfig, 1)]
    sampleConfig 1 sampleWorld rfl rfl
  exact ⟨rfl, rfl, by decide +kernel, fun row member => (bounded.delivery.rows row member).epc⟩

end MvdEdge
