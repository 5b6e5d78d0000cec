import MvdEdge.App.DeliveryOrder

/-! The accounts of a delivery round: what it sends, what it returns and what it
does to each row of the table, for any mix of answers in a batch. -/

set_option autoImplicit false

namespace MvdEdge

open Lib Lib.Effect

/-- A row before and after it was sent. -/
structure Sent (success : Bool) (payload : EventPayload) (row next : QueuedEvent) : Prop where
  id : next.id = row.id
  edgeEventId : next.edgeEventId = row.edgeEventId
  createdAt : next.createdAt = row.createdAt
  attemptCount : next.attemptCount = row.attemptCount + 1
  payload : next.payload.SameEvent payload
  delivered : success = true → next.status = .DELIVERED ∧ next.lastError = none
  failed : success = false → next.status = row.status

namespace Delivery

variable (env : DeliveryEnv)

/-- What a failure that ends a call is: one of an operation of its own. -/
def Faulted (failure : Exn) : Prop := ∃ tick, env.fault tick = some failure

/-- What a failure that ends a round is: one of its own operations, or the refusal of a
batch size SQLite has no integer for. -/
def Stopped (batchSize : Nat) (failure : Exn) : Prop :=
  Faulted env failure ∨ (integerOverflow ≤ batchSize ∧ failure = .exception tooLarge)

theorem statement_faulted {α : Type} {run : EventQueue → Timestamp → α × EventQueue}
    {pre : DeliveryState → Prop} {post : α → DeliveryState → Prop}
    (returns : ∀ state, pre state →
      post (run state.queue (env.stamp state.tick)).1
        { state with
          tick := state.tick + 1
          queue := (run state.queue (env.stamp state.tick)).2 }) :
    Triple pre (statement env run) post (fun failure _ => Faulted env failure) :=
  Triple.operation_of_fault returns fun _ _ stored _ _ => ⟨_, stored⟩

def onId (edgeEventId : Str) (change : QueuedEvent → QueuedEvent) (row : QueuedEvent) :
    QueuedEvent :=
  if row.edgeEventId = edgeEventId then change row else row

theorem onId_of_eq {edgeEventId : Str} {row : QueuedEvent} (same : row.edgeEventId = edgeEventId)
    (change : QueuedEvent → QueuedEvent) : onId edgeEventId change row = change row :=
  if_pos same

theorem onId_of_ne {edgeEventId : Str} {row : QueuedEvent} (other : row.edgeEventId ≠ edgeEventId)
    (change : QueuedEvent → QueuedEvent) : onId edgeEventId change row = row :=
  if_neg other

/-- The rows of `start` with a change made to one of them, and what was sent since. -/
structure Changed (start : DeliveryState) (edgeEventId : Str)
    (change : QueuedEvent → QueuedEvent) (sent : List EventPayload) (state : DeliveryState) :
    Prop where
  rows : state.queue.rows = start.queue.rows.map (onId edgeEventId change)
  sent : state.cloud.sent = start.cloud.sent ++ sent
  keeps : ∀ row, (change row).edgeEventId = row.edgeEventId

variable {start : DeliveryState} {edgeEventId : Str} {change : QueuedEvent → QueuedEvent}
  {sent : List EventPayload}

theorem Changed.refl (start : DeliveryState) (edgeEventId : Str) :
    Changed start edgeEventId id [] start := by
  refine ⟨?_, by simp, fun _ => rfl⟩
  conv_lhs => rw [← List.map_id start.queue.rows]
  apply List.map_congr_left
  intro row _
  simp [onId]

theorem set_changed (mark : Timestamp → QueuedEvent → QueuedEvent)
    (keeps : ∀ now row, (mark now row).id = row.id ∧
      (mark now row).edgeEventId = row.edgeEventId) :
    Triple (Changed start edgeEventId change sent)
      (statement env fun queue now => ((), queue.set edgeEventId (mark now) (keeps now)))
      (fun _ state => ∃ now, Changed start edgeEventId (mark now ∘ change) sent state)
      (fun failure _ => Faulted env failure) := by
  refine statement_faulted env ?_
  intro state changed
  refine ⟨env.stamp state.tick, ?_, changed.sent, ?_⟩
  · change (state.queue.rows.map (onId edgeEventId (mark (env.stamp state.tick)))) = _
    rw [changed.rows, List.map_map]
    apply List.map_congr_left
    intro row _
    rw [Function.comp_apply]
    by_cases target : row.edgeEventId = edgeEventId
    · rw [onId_of_eq target, onId_of_eq ((changed.keeps row).trans target), onId_of_eq target]
      rfl
    · rw [onId_of_ne target, onId_of_ne target, onId_of_ne target]
  · intro row
    exact ((keeps _ _).2).trans (changed.keeps row)

theorem timestamp_changed :
    Triple (Changed start edgeEventId change sent) (timestamp env)
      (fun _ => Changed start edgeEventId change sent) (fun failure _ => Faulted env failure) :=
  Triple.operation_of_fault (fun _ changed => ⟨changed.rows, changed.sent, changed.keeps⟩)
    fun _ _ stored _ _ => ⟨_, stored⟩

theorem markHealth_changed (mark : HealthState → Timestamp → HealthState) :
    Triple (Changed start edgeEventId change sent) (markHealth env mark)
      (fun _ => Changed start edgeEventId change sent) (fun failure _ => Faulted env failure) :=
  Triple.operation_of_fault (fun _ changed => ⟨changed.rows, changed.sent, changed.keeps⟩)
    fun _ _ stored _ _ => ⟨_, stored⟩

/-- However the exchange ends, the request has gone out; only a fault of the
operation, which no handler catches, goes through. -/
theorem sendPayload_changed (payload : EventPayload) :
    Triple (Changed start edgeEventId change []) (attempt Exn.caught (sendPayload env payload))
      (fun result state => Changed start edgeEventId change [payload] state ∧
        (resultOf result).success = accepted env start.cloud.sent.length)
      (fun failure _ => Faulted env failure) := by
  have posted : Triple (Changed start edgeEventId change []) (post env payload)
      (fun reply state => Changed start edgeEventId change [payload] state ∧
        reply = (env.exchange start.cloud.sent.length).reply)
      (fun failure _ => Faulted env failure ∧ failure.caught = none) := by
    refine Triple.operation_of_fault ?_ ?_
    · intro state changed
      have before : state.cloud.sent = start.cloud.sent := by simpa using changed.sent
      refine ⟨⟨changed.rows, ?_, changed.keeps⟩, ?_⟩
      · simp [Cloud.receive, Ticking.advance, before]
      · simp [Ticking.advance, before]
    · intro failure state stored interrupts _
      exact ⟨⟨_, stored⟩, Option.isNone_iff_eq_none.mp interrupts⟩
  have sending : Triple (Changed start edgeEventId change []) (sendPayload env payload)
      (fun result state => Changed start edgeEventId change [payload] state ∧
        result.success = accepted env start.cloud.sent.length)
      (fun failure state => (Faulted env failure ∧ failure.caught = none) ∨
        (Changed start edgeEventId change [payload] state ∧
          accepted env start.cloud.sent.length = false ∧ failure.caught ≠ none)) := by
    refine Triple.bind (posted.raising fun _ _ => .inl) fun reply => ?_
    cases answer : sendPayloadResult env.str reply with
    | ok result =>
        intro state both
        obtain ⟨changed, rfl⟩ := both
        exact ⟨changed, by simp [accepted, HttpReply.accepted, answer]⟩
    | error message =>
        intro state both
        obtain ⟨changed, rfl⟩ := both
        exact .inr ⟨changed, by simp [accepted, HttpReply.accepted, answer], by simp [Exn.caught]⟩
  refine Triple.attempt sending ?_ ?_
  · intro failure reason state caught either
    cases either with
    | inl faulted => simp [faulted.2] at caught
    | inr rejected => exact ⟨rejected.1, rejected.2.1.symm⟩
  · intro failure state uncaught either
    cases either with
    | inl faulted => exact faulted.1
    | inr rejected => exact absurd uncaught rejected.2.2

/-- What delivering one event does to the table and what it sends. -/
structure Delivered (start : DeliveryState) (queuedEvent : QueuedEvent) (success : Bool)
    (state : DeliveryState) : Prop where
  answer : success = accepted env start.cloud.sent.length
  sent : ∃ payload, payload.SameEvent queuedEvent.payload ∧
    state.cloud.sent = start.cloud.sent ++ [payload]
  rows : ∃ change, state.queue.rows = start.queue.rows.map (onId queuedEvent.edgeEventId change) ∧
    ∀ row, Sent success queuedEvent.payload row (change row)

theorem deliver_delivered (start : DeliveryState) (queuedEvent : QueuedEvent) :
    Triple (fun state => state = start) (deliver env queuedEvent)
      (Delivered env start queuedEvent) (fun failure _ => Faulted env failure) := by
  have fresh : ∀ state, state = start → Changed start queuedEvent.edgeEventId id [] state := by
    intro state same
    rw [same]
    exact .refl start queuedEvent.edgeEventId
  refine Triple.bind ((timestamp_changed env).before fresh) fun now => ?_
  let payload := { queuedEvent.payload with edgeSendAt := now }
  have same : payload.SameEvent queuedEvent.payload := (EventPayload.SameEvent.refl _).stamped now
  refine Triple.bind (set_changed env (fun _ row => { row with payload }) fun _ _ => ⟨rfl, rfl⟩)
    fun _ => Triple.of_exists fun _ => ?_
  refine Triple.bind (sendPayload_changed env payload) fun result state both => ?_
  obtain ⟨changed, answer⟩ := both
  refine Triple.bind (set_changed env
    (fun now row => row.attempted (if (resultOf result).success then none
      else (resultOf result).error) now) fun _ _ => ⟨rfl, rfl⟩)
    (fun _ => Triple.of_exists fun attempted => ?_) state changed
  cases success : (resultOf result).success with
  | false =>
      refine Triple.bind (markHealth_changed env _) fun _ => Triple.pure fun state changed => ?_
      exact ⟨success ▸ answer, ⟨payload, same, changed.sent⟩, _, changed.rows,
        fun row => ⟨rfl, rfl, rfl, rfl, same, by simp, fun _ => rfl⟩⟩
  | true =>
      refine Triple.through (fun _ => Delivered env start queuedEvent true)
        (Triple.bind (set_changed env (fun now row => row.delivered now) fun _ _ => ⟨rfl, rfl⟩)
          fun _ => Triple.of_exists fun delivered =>
            (markHealth_changed env _).returning fun _ state changed => ?_)
        fun _ => Triple.pure fun _ => id
      exact ⟨success ▸ answer, ⟨payload, same, changed.sent⟩, _, changed.rows,
        fun row => ⟨rfl, rfl, rfl, rfl, same, fun _ => ⟨rfl, rfl⟩, by simp⟩⟩

/-! ## A batch -/

theorem map_onId_of_absent {edgeEventId : Str} {rows : List QueuedEvent}
    (absent : edgeEventId ∉ rows.map (·.edgeEventId)) (change : QueuedEvent → QueuedEvent) :
    rows.map (onId edgeEventId change) = rows := by
  conv_rhs => rw [← List.map_id rows]
  apply List.map_congr_left
  intro row member
  exact onId_of_ne (fun same => absent (List.mem_map.mpr ⟨row, member, same⟩)) change

/-- A change to one pending row takes it out of the count if it delivers it. -/
theorem pendingCount_onId {queue next : EventQueue} {target : QueuedEvent}
    {change : QueuedEvent → QueuedEvent}
    (rows : next.rows = queue.rows.map (onId target.edgeEventId change))
    (member : target ∈ queue.rows) (pending : target.status = .PENDING) :
    next.pendingCount + (if (change target).status = .DELIVERED then 1 else 0) =
      queue.pendingCount := by
  obtain ⟨before, after, split⟩ := List.append_of_mem member
  have unique := queue.unique
  rw [split, List.map_append, List.map_cons, List.nodup_append, List.nodup_cons] at unique
  obtain ⟨-, ⟨notAfter, -⟩, apart⟩ := unique
  have notBefore : target.edgeEventId ∉ before.map (·.edgeEventId) :=
    fun known => apart _ known _ List.mem_cons_self rfl
  rw [split, List.map_append, List.map_cons, map_onId_of_absent notBefore,
    map_onId_of_absent notAfter, onId_of_eq rfl] at rows
  simp only [EventQueue.pendingCount, EventQueue.pending, ← List.countP_eq_length_filter, rows,
    split, List.countP_append, List.countP_cons, pending]
  cases (change target).status with
  | PENDING => simp
  | DELIVERED =>
      simp
      omega

/-- What the sends of a numbered batch do to a row. -/
structure RoundRow (accepted : Nat → Bool) (entries : List (QueuedEvent × Nat))
    (row next : QueuedEvent) : Prop where
  sent : ∀ entry ∈ entries, entry.1.edgeEventId = row.edgeEventId →
    Sent (accepted entry.2) entry.1.payload row next
  kept : (∀ entry ∈ entries, entry.1.edgeEventId ≠ row.edgeEventId) → next = row

structure BatchRound (start : DeliveryState) (batch : List QueuedEvent) (delivered : Nat)
    (next : DeliveryState) : Prop where
  sent : ∃ payloads, next.cloud.sent = start.cloud.sent ++ payloads ∧
    List.Forall₂ (fun row payload => payload.SameEvent row.payload) batch payloads
  count : delivered =
    (batch.zipIdx start.cloud.sent.length).countP fun entry => accepted env entry.2
  pending : next.queue.pendingCount + delivered = start.queue.pendingCount
  rows : List.Forall₂ (RoundRow (accepted env) (batch.zipIdx start.cloud.sent.length))
    start.queue.rows next.queue.rows

/-- The events of a batch wait in the table, each under an id of its own. -/
structure Waiting (queue : EventQueue) (batch : List QueuedEvent) : Prop where
  distinct : (batch.map (·.edgeEventId)).Nodup
  waits : ∀ queuedEvent ∈ batch, ∃ row ∈ queue.rows,
    row.edgeEventId = queuedEvent.edgeEventId ∧ row.status = .PENDING

theorem Waiting.rest {queue next : EventQueue} {queuedEvent : QueuedEvent}
    {rest : List QueuedEvent} {change : QueuedEvent → QueuedEvent}
    (waiting : Waiting queue (queuedEvent :: rest))
    (rows : next.rows = queue.rows.map (onId queuedEvent.edgeEventId change)) :
    Waiting next rest := by
  have apart := List.nodup_cons.mp waiting.distinct
  refine ⟨apart.2, fun other member => ?_⟩
  obtain ⟨row, known, same, pending⟩ := waiting.waits other (List.mem_cons_of_mem _ member)
  refine ⟨row, ?_, same, pending⟩
  rw [rows, List.mem_map]
  refine ⟨row, known, onId_of_ne (fun head => apart.1 ?_) change⟩
  exact List.mem_map.mpr ⟨other, member, same.symm.trans head⟩

/-- The first send of a batch and the sends of the rest. -/
theorem RoundRow.cons {accepted : Nat → Bool} {queuedEvent : QueuedEvent} {send : Nat}
    {entries : List (QueuedEvent × Nat)} {change : QueuedEvent → QueuedEvent}
    (apart : ∀ entry ∈ entries, entry.1.edgeEventId ≠ queuedEvent.edgeEventId)
    (changes : ∀ row, Sent (accepted send) queuedEvent.payload row (change row))
    {row next : QueuedEvent}
    (rest : RoundRow accepted entries (onId queuedEvent.edgeEventId change row) next) :
    RoundRow accepted ((queuedEvent, send) :: entries) row next := by
  by_cases target : row.edgeEventId = queuedEvent.edgeEventId
  · rw [onId_of_eq target] at rest
    have same := rest.kept fun entry member head =>
      apart entry member (head.trans ((changes row).edgeEventId.trans target))
    constructor
    · intro entry member named
      cases List.mem_cons.mp member with
      | inl head =>
          rw [head, same]
          exact changes row
      | inr later => exact absurd (named.trans target) (apart entry later)
    · intro none
      exact absurd target.symm (none _ List.mem_cons_self)
  · rw [onId_of_ne target] at rest
    constructor
    · intro entry member named
      cases List.mem_cons.mp member with
      | inl head => exact absurd (named.symm.trans (congrArg (·.1.edgeEventId) head)) target
      | inr later => exact rest.sent entry later named
    · intro none
      exact rest.kept fun entry member => none entry (List.mem_cons_of_mem _ member)

theorem deliverBatch_round {batch : List QueuedEvent} (start : DeliveryState)
    (waiting : Waiting start.queue batch) (deliveredCount : Nat) :
    Triple (fun state => state = start) (deliverBatch env batch deliveredCount)
      (fun total next => ∃ delivered, total = deliveredCount + delivered ∧
        BatchRound env start batch delivered next)
      (fun failure _ => Faulted env failure) := by
  induction batch generalizing start deliveredCount with
  | nil =>
      refine Triple.pure fun state same => ⟨0, rfl, ?_⟩
      rw [same]
      refine ⟨⟨[], by simp, .nil⟩, rfl, rfl, List.forall₂_same.mpr fun row _ => ?_⟩
      exact ⟨fun _ member => absurd member List.not_mem_nil, fun _ => rfl⟩
  | cons queuedEvent rest ih =>
      refine Triple.bind (deliver_delivered env start queuedEvent) fun success middle head => ?_
      obtain ⟨answer, ⟨payload, same, sent⟩, change, rows, changes⟩ := head
      refine (ih middle (waiting.rest rows) _ middle rfl).imp ?_ fun _ _ => id
      intro total next both
      obtain ⟨later, total, round⟩ := both
      obtain ⟨payloads, sentLater, sames⟩ := round.sent
      have numbered : middle.cloud.sent.length = start.cloud.sent.length + 1 := by simp [sent]
      obtain ⟨target, known, named, pending⟩ := waiting.waits queuedEvent List.mem_cons_self
      have counted := pendingCount_onId (named ▸ rows) known pending
      have status : ((change target).status = .DELIVERED) ↔ success = true := by
        cases success with
        | true => simp [((changes target).delivered rfl).1]
        | false => simp [(changes target).failed rfl, pending]
      have apart : ∀ entry ∈ rest.zipIdx (start.cloud.sent.length + 1),
          entry.1.edgeEventId ≠ queuedEvent.edgeEventId := by
        intro entry member head
        exact (List.nodup_cons.mp waiting.distinct).1
          (List.mem_map.mpr ⟨entry.1, List.fst_mem_of_mem_zipIdx member, head⟩)
      refine ⟨later + if success then 1 else 0, ?_, ⟨payload :: payloads, ?_, .cons same sames⟩,
        ?_, ?_, ?_⟩
      · rw [total]
        split <;> omega
      · rw [sentLater, sent, List.append_assoc, List.singleton_append]
      · rw [List.zipIdx_cons, List.countP_cons, ← numbered, ← round.count, answer]
      · have rest := round.pending
        simp only [status] at counted
        omega
      · have relations := round.rows
        rw [rows, List.forall₂_map_left_iff, numbered] at relations
        rw [List.zipIdx_cons]
        refine relations.imp fun row after relation => ?_
        exact RoundRow.cons apart (answer ▸ changes) relation

/-! ## A round -/

/-- The accounts of a call of `process_pending_deliveries`. -/
structure Round (batchSize : Nat) (start : DeliveryState) (delivered : Nat)
    (next : DeliveryState) : Prop where
  batch : start.queue.Oldest batchSize (start.queue.selectPending batchSize)
  sent : ∃ payloads, next.cloud.sent = start.cloud.sent ++ payloads ∧
    List.Forall₂ (fun row payload => payload.SameEvent row.payload)
      (start.queue.selectPending batchSize) payloads
  count : delivered = ((start.queue.selectPending batchSize).zipIdx
    start.cloud.sent.length).countP fun entry => accepted env entry.2
  pending : next.queue.pendingCount + delivered = start.queue.pendingCount
  delivered : next.queue.delivered.length = start.queue.delivered.length + delivered
  rows : List.Forall₂ (fun row after =>
      (∀ send, (row, send) ∈ (start.queue.selectPending batchSize).zipIdx
        start.cloud.sent.length → Sent (accepted env send) row.payload row after) ∧
      (row ∉ start.queue.selectPending batchSize → after = row))
    start.queue.rows next.queue.rows

theorem selectPending_waiting (queue : EventQueue) (limit : Nat) :
    Waiting queue (queue.selectPending limit) where
  distinct := by
    refine List.Nodup.map_on ?_ (queue.selectPending_oldest limit).nodup
    intro left leftMember right rightMember same
    exact EventQueue.eq_of_edgeEventId_eq (EventQueue.mem_of_mem_selectPending leftMember).1
      (EventQueue.mem_of_mem_selectPending rightMember).1 same
  waits := by
    intro queuedEvent member
    obtain ⟨known, pending⟩ := EventQueue.mem_of_mem_selectPending member
    exact ⟨queuedEvent, known, rfl, pending⟩

theorem BatchRound.round {batchSize : Nat} {start next : DeliveryState} {delivered : Nat}
    (round : BatchRound env start (start.queue.selectPending batchSize) delivered next) :
    Round env batchSize start delivered next where
  batch := start.queue.selectPending_oldest batchSize
  sent := round.sent
  count := round.count
  pending := round.pending
  delivered := by
    have sizes := round.rows.length_eq
    have before := start.queue.pendingCount_add_delivered
    have after := next.queue.pendingCount_add_delivered
    have moved := round.pending
    omega
  rows := by
    have known : ∀ row ∈ start.queue.rows, row ∈ start.queue.rows := fun _ member => member
    refine ((List.forall₂_and_left _ _).mpr ⟨known, round.rows⟩).imp ?_
    intro row after both
    obtain ⟨known, relation⟩ := both
    constructor
    · intro send numbered
      exact relation.sent (row, send) numbered rfl
    · intro absent
      apply relation.kept
      intro entry numbered same
      have fetched := List.fst_mem_of_mem_zipIdx numbered
      have stored := (EventQueue.mem_of_mem_selectPending fetched).1
      exact absent (EventQueue.eq_of_edgeEventId_eq stored known same ▸ fetched)

theorem processPendingDeliveries_triple (batchSize : Nat) (start : DeliveryState) :
    Triple (fun state => state = start) (processPendingDeliveries env batchSize)
      (Round env batchSize start) (fun failure state => Faulted env failure ∨
        (integerOverflow ≤ batchSize ∧ failure = .exception tooLarge) ∧
          state = Ticking.advance start) := by
  refine Triple.through (fun batch state => batch = start.queue.selectPending batchSize ∧
    state = Ticking.advance start) (fetchPending_triple env ?_ ?_ ?_) fun batch state both => ?_
  · rintro _ state rfl
    exact ⟨rfl, rfl⟩
  · rintro large state rfl
    exact .inr ⟨⟨large, rfl⟩, rfl⟩
  · exact fun failure state stored _ => .inl ⟨_, stored⟩
  · obtain ⟨rfl, rfl⟩ := both
    refine (deliverBatch_round env (Ticking.advance start)
      (selectPending_waiting start.queue batchSize) 0 _ rfl).imp ?_ fun _ _ => .inl
    intro total next both
    obtain ⟨delivered, counted, round⟩ := both
    have accounts : BatchRound env start (start.queue.selectPending batchSize) delivered next :=
      ⟨round.sent, round.count, round.pending, round.rows⟩
    rw [counted, Nat.zero_add]
    exact accounts.round env

theorem processPendingDeliveries_stopped (batchSize : Nat) (start : DeliveryState) :
    Triple (fun state => state = start) (processPendingDeliveries env batchSize)
      (Round env batchSize start) (fun failure _ => Stopped env batchSize failure) :=
  (processPendingDeliveries_triple env batchSize start).raising fun _ _ =>
    Or.imp_right And.left

/-- Whatever the transport answers, the call returns and its accounts are right. What
ends it early is a failure of the database, the clock or the process, or, before
anything is sent, a batch size SQLite has no integer for. -/
theorem processPendingDeliveries_round (batchSize : Nat) (start : DeliveryState) :
    (∃ delivered next, processPendingDeliveries env batchSize start = .ok delivered next ∧
      Round env batchSize start delivered next) ∨
    (∃ failure next, processPendingDeliveries env batchSize start = .error failure next ∧
      Faulted env failure) ∨
    integerOverflow ≤ batchSize ∧
      ∃ next, processPendingDeliveries env batchSize start = .error (.exception tooLarge) next ∧
        next.queue = start.queue ∧ next.cloud = start.cloud := by
  have outcome := processPendingDeliveries_triple env batchSize start start rfl
  cases ran : processPendingDeliveries env batchSize start with
  | ok delivered next =>
      rw [ran] at outcome
      exact .inl ⟨delivered, next, rfl, outcome⟩
  | error failure next =>
      rw [ran] at outcome
      obtain faulted | ⟨⟨large, rfl⟩, rfl⟩ := outcome
      · exact .inr (.inl ⟨failure, next, rfl, faulted⟩)
      · exact .inr (.inr ⟨large, _, rfl, rfl, rfl⟩)

/-- A batch of 2^63 rows, of which one waits: nothing is sent. -/
theorem processPendingDeliveries_refused :
    let env := calmEnv fun _ => storedReply
    let start := { DeliveryState.empty with
      queue := EventQueue.run [.enqueue (samplePayload "1".toList .ENTER) 0] }
    min (2 ^ 63) start.queue.pendingCount = 1 ∧
      failing (processPendingDeliveries env (2 ^ 63)) start = some (.exception tooLarge) ∧
      (after (processPendingDeliveries env (2 ^ 63)) start).cloud.sent = [] := by
  decide +kernel

end Delivery

end MvdEdge
