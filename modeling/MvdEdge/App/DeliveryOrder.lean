import MvdEdge.App.DeliveryProperties

/-! The order in which the events of one tag are delivered. A delivery round,
however it ends, has settled a prefix of its batch: those of the prefix whose
send was accepted are DELIVERED now. -/

set_option autoImplicit false

namespace MvdEdge

open Lib Lib.Effect

/-- What the order of delivery is about: a row without its bookkeeping. -/
structure Standing where
  id : Nat
  edgeEventId : Str
  event : EventType
  epc : Str
  readerId : Str
  createdAt : Timestamp
  status : RowStatus
  deriving DecidableEq

def QueuedEvent.standing (row : QueuedEvent) : Standing where
  id := row.id
  edgeEventId := row.edgeEventId
  event := row.payload.event
  epc := row.payload.epc
  readerId := row.payload.readerId
  createdAt := row.createdAt
  status := row.status

def EventQueue.standings (queue : EventQueue) : List Standing := queue.rows.map (·.standing)

namespace Standing

def SameTag (left right : Standing) : Prop :=
  left.epc = right.epc ∧ left.readerId = right.readerId

def delivered (standing : Standing) : Standing := { standing with status := .DELIVERED }

def InOrder (board : List Standing) : Prop :=
  board.Pairwise fun earlier later =>
    earlier.SameTag later → later.status = .DELIVERED → earlier.status = .DELIVERED

end Standing

section Settled

-- Whether the send with a number is accepted.
variable (accepted : Nat → Bool)

def settledBy (entries : List (QueuedEvent × Nat)) (standing : Standing) : Bool :=
  entries.any fun entry =>
    accepted entry.2 && decide (entry.1.edgeEventId = standing.edgeEventId)

/-- The rows after the numbered sends of a batch. -/
def settled (entries : List (QueuedEvent × Nat)) (board : List Standing) : List Standing :=
  board.map fun standing =>
    if settledBy accepted entries standing then standing.delivered else standing

@[simp] theorem settled_nil (board : List Standing) : settled accepted [] board = board := by
  simp [settled, settledBy]

theorem settledBy_cons (entry : QueuedEvent × Nat) (rest : List (QueuedEvent × Nat))
    (standing : Standing) :
    settledBy accepted (entry :: rest) standing =
      (settledBy accepted [entry] standing || settledBy accepted rest standing) := by
  simp [settledBy]

theorem settled_cons (entry : QueuedEvent × Nat) (rest : List (QueuedEvent × Nat))
    (board : List Standing) :
    settled accepted (entry :: rest) board =
      settled accepted rest (settled accepted [entry] board) := by
  simp only [settled, List.map_map]
  apply List.map_congr_left
  intro standing _
  have same : settledBy accepted rest standing.delivered = settledBy accepted rest standing := rfl
  have twice : standing.delivered.delivered = standing.delivered := rfl
  simp only [Function.comp_apply, settledBy_cons accepted entry rest]
  cases settledBy accepted [entry] standing <;> cases later : settledBy accepted rest standing <;>
    simp [later, same, twice]

theorem settled_rejected {entry : QueuedEvent × Nat} (rejected : accepted entry.2 = false)
    (board : List Standing) : settled accepted [entry] board = board := by
  simp [settled, settledBy, rejected]

theorem settled_accepted {entry : QueuedEvent × Nat} (taken : accepted entry.2 = true)
    (board : List Standing) :
    settled accepted [entry] board = board.map fun standing =>
      if standing.edgeEventId = entry.1.edgeEventId then standing.delivered else standing := by
  simp [settled, settledBy, taken, eq_comm]

end Settled

/-! ## A round settles a prefix of its batch -/

namespace Delivery

variable (env : DeliveryEnv)

def accepted (send : Nat) : Bool := (env.exchange send).reply.accepted env.str

def Stands (board : List Standing) (sends : Nat) (state : DeliveryState) : Prop :=
  state.queue.standings = board ∧ state.cloud.sent.length = sends

variable {board : List Standing} {sends : Nat}

theorem standings_set (queue : EventQueue) (edgeEventId : Str)
    (change : QueuedEvent → QueuedEvent) (mark : Standing → Standing)
    (keeps : ∀ row, (change row).id = row.id ∧ (change row).edgeEventId = row.edgeEventId)
    (marks : ∀ row ∈ queue.rows, row.edgeEventId = edgeEventId →
      (change row).standing = mark row.standing) :
    (queue.set edgeEventId change keeps).standings = queue.standings.map fun standing =>
      if standing.edgeEventId = edgeEventId then mark standing else standing := by
  simp only [EventQueue.standings, EventQueue.set, List.map_map]
  apply List.map_congr_left
  intro row member
  have key : row.standing.edgeEventId = row.edgeEventId := rfl
  by_cases target : row.edgeEventId = edgeEventId
  · simp [key, target, marks row member target]
  · simp [key, target]

theorem timestamp_stands : Preserves (Stands board sends) (timestamp env) :=
  Triple.operation (fun _ => id) fun _ _ _ => id

theorem markHealth_stands (mark : HealthState → Timestamp → HealthState) :
    Preserves (Stands board sends) (markHealth env mark) :=
  Triple.operation (fun _ => id) fun _ _ _ => id

def Tagged (board : List Standing) (edgeEventId : Str) (payload : EventPayload) : Prop :=
  ∀ standing ∈ board, standing.edgeEventId = edgeEventId → standing.event = payload.event ∧
    standing.epc = payload.epc ∧ standing.readerId = payload.readerId

theorem updatePayload_stands {edgeEventId : Str} (payload : EventPayload)
    (tagged : Tagged board edgeEventId payload) :
    Preserves (Stands board sends) (updatePayload env edgeEventId payload) := by
  refine statement_triple env ?_ fun _ _ => id
  intro state both
  obtain ⟨rows, sent⟩ := both
  refine ⟨?_, sent⟩
  have kept := standings_set state.queue edgeEventId ({ · with payload }) id
    (fun _ => ⟨rfl, rfl⟩) (by
      intro row member target
      have known : row.standing ∈ board := rows ▸ List.mem_map.mpr ⟨row, member, rfl⟩
      obtain ⟨event, epc, readerId⟩ := tagged row.standing known target
      simp only [id, QueuedEvent.standing]
      rw [← event, ← epc, ← readerId]
      rfl)
  exact kept.trans (by simp [rows])

theorem markAttempt_stands (edgeEventId : Str) (error : Option Str) :
    Preserves (Stands board sends) (markAttempt env edgeEventId error) := by
  refine statement_triple env ?_ fun _ _ => id
  intro state both
  obtain ⟨rows, sent⟩ := both
  refine ⟨?_, sent⟩
  have kept := standings_set state.queue edgeEventId
    (·.attempted error (env.stamp state.tick)) id (fun _ => ⟨rfl, rfl⟩)
    fun _ _ _ => rfl
  exact kept.trans (by simp [rows])

theorem sendPayload_stands (payload : EventPayload) :
    Triple (Stands board sends) (sendPayload env payload)
      (fun result state => Stands board (sends + 1) state ∧ result.success = accepted env sends)
      (fun failure state => state.queue.standings = board ∧
        (failure.caught.isSome →
          state.cloud.sent.length = sends + 1 ∧ accepted env sends = false)) := by
  refine Triple.through (fun reply state => Stands board (sends + 1) state ∧
    reply = (env.exchange sends).reply) (Triple.operation ?_ ?_) fun reply => ?_
  · intro state both
    obtain ⟨rows, rfl⟩ := both
    exact ⟨⟨rows, by simp [Cloud.receive, Ticking.advance]⟩, rfl⟩
  · intro failure state interrupts both
    obtain ⟨rows, _⟩ := both
    refine ⟨rows, fun isException => ?_⟩
    simp only [Exn.interrupts, Option.isNone_iff_eq_none] at interrupts
    simp [interrupts] at isException
  · cases answer : sendPayloadResult env.str reply with
    | ok result =>
        intro state both
        obtain ⟨stands, rfl⟩ := both
        exact ⟨stands, by simp [accepted, HttpReply.accepted, answer]⟩
    | error message =>
        intro state both
        obtain ⟨⟨rows, sent⟩, rfl⟩ := both
        exact ⟨rows, fun _ => ⟨sent, by simp [accepted, HttpReply.accepted, answer]⟩⟩

theorem deliver_settles {queuedEvent : QueuedEvent}
    (tagged : Tagged board queuedEvent.edgeEventId queuedEvent.payload) :
    Triple (Stands board sends) (deliver env queuedEvent)
      (fun _ => Stands (settled (accepted env) [(queuedEvent, sends)] board) (sends + 1))
      (fun _ state => state.queue.standings = board ∨
        state.queue.standings = settled (accepted env) [(queuedEvent, sends)] board) := by
  have rows : ∀ {amount : Nat} {state : DeliveryState}, Stands board amount state →
      state.queue.standings = board ∨
        state.queue.standings = settled (accepted env) [(queuedEvent, sends)] board :=
    fun stands => .inl stands.1
  refine Triple.bind ((timestamp_stands env).raising fun _ _ => rows) fun now => ?_
  refine Triple.bind ((updatePayload_stands env
    { queuedEvent.payload with edgeSendAt := now } tagged).raising fun _ _ => rows) fun _ => ?_
  refine Triple.through (fun sent state => Stands board (sends + 1) state ∧
    (resultOf sent).success = accepted env sends)
    (Triple.attempt (sendPayload_stands env _) ?_ fun _ _ _ raised => .inl raised.1)
    fun sent => ?_
  · intro failure reason state caught both
    obtain ⟨stands, rejected⟩ := both
    obtain ⟨sent, rejected⟩ := rejected (by simp [caught])
    exact ⟨⟨stands, sent⟩, rejected.symm⟩
  intro start both
  obtain ⟨stands, success⟩ := both
  refine Triple.bind ((markAttempt_stands env _ _).raising fun _ _ => rows) (fun _ => ?_)
    start stands
  rw [success]
  refine Triple.through (fun _ => Stands (settled (accepted env) [(queuedEvent, sends)]
    board) (sends + 1)) ?_ fun _ => Triple.pure fun _ => id
  cases answer : accepted env sends with
  | false =>
      rw [settled_rejected _ answer]
      exact (markHealth_stands env _).raising fun _ _ stands => .inl stands.1
  | true =>
      refine Triple.through (fun _ => Stands (settled (accepted env)
        [(queuedEvent, sends)] board) (sends + 1)) (statement_triple env ?_ fun _ _ => rows)
        fun _ => (markHealth_stands env _).raising fun _ _ stands => .inr stands.1
      intro state both
      obtain ⟨unmarked, sent⟩ := both
      refine ⟨?_, sent⟩
      rw [settled_accepted _ answer, ← unmarked]
      exact standings_set state.queue queuedEvent.edgeEventId
        (·.delivered (env.stamp state.tick)) Standing.delivered (fun _ => ⟨rfl, rfl⟩)
        fun _ _ _ => rfl

private theorem settled_edgeEventIds (entries : List (QueuedEvent × Nat)) (payload : EventPayload)
    (edgeEventId : Str) (tagged : Tagged board edgeEventId payload) :
    Tagged (settled (accepted env) entries board) edgeEventId payload := by
  intro standing member target
  obtain ⟨old, known, rfl⟩ := List.mem_map.mp member
  by_cases done : settledBy (accepted env) entries old = true
  · rw [if_pos done] at target ⊢
    exact tagged old known target
  · rw [if_neg done] at target ⊢
    exact tagged old known target

theorem deliverBatch_settles {batch : List QueuedEvent} (deliveredCount : Nat)
    (tagged : ∀ queuedEvent ∈ batch, Tagged board queuedEvent.edgeEventId queuedEvent.payload) :
    Triple (Stands board sends) (deliverBatch env batch deliveredCount)
      (fun _ state => state.queue.standings =
        settled (accepted env) (batch.zipIdx sends) board)
      (fun _ state => ∃ done, done <+: batch ∧ state.queue.standings =
        settled (accepted env) (done.zipIdx sends) board) := by
  induction batch generalizing board sends deliveredCount with
  | nil => exact Triple.pure fun state stands => by simp [stands.1]
  | cons queuedEvent rest ih =>
      refine Triple.bind ((deliver_settles env (tagged _ List.mem_cons_self)).raising ?_)
        fun delivered => ?_
      · intro failure state either
        obtain untouched | settledHead := either
        · exact ⟨[], List.nil_prefix, by simpa using untouched⟩
        · exact ⟨[queuedEvent], by simp, settledHead⟩
      · refine (ih _ fun other member => settled_edgeEventIds env _ _ _
          (tagged other (List.mem_cons_of_mem _ member))).conseq (fun _ => id) ?_ ?_
        · intro _ state whole
          rw [whole, List.zipIdx_cons, ← settled_cons]
        · intro failure state both
          obtain ⟨done, before, reached⟩ := both
          refine ⟨queuedEvent :: done, List.cons_prefix_cons.mpr ⟨rfl, before⟩, ?_⟩
          rw [reached, List.zipIdx_cons, ← settled_cons]

/-- Whether a round ends by itself or not, it has settled a prefix of its batch. -/
theorem processPendingDeliveries_settles (batchSize : Nat) (state : DeliveryState) :
    ∃ done, done <+: state.queue.selectPending batchSize ∧
      (after (processPendingDeliveries env batchSize) state).queue.standings =
        settled (accepted env) (done.zipIdx state.cloud.sent.length) state.queue.standings := by
  have tagged : ∀ queuedEvent ∈ state.queue.selectPending batchSize,
      Tagged state.queue.standings queuedEvent.edgeEventId queuedEvent.payload := by
    intro queuedEvent fetched standing member target
    obtain ⟨row, known, rfl⟩ := List.mem_map.mp member
    have same := EventQueue.eq_of_edgeEventId_eq known
      (EventQueue.mem_of_mem_selectPending fetched).1 target
    exact same ▸ ⟨rfl, rfl, rfl⟩
  have round : Triple (fun start => start = state) (processPendingDeliveries env batchSize)
      (fun _ final => final.queue.standings = settled (accepted env)
        ((state.queue.selectPending batchSize).zipIdx state.cloud.sent.length)
        state.queue.standings)
      (fun _ final => ∃ done, done <+: state.queue.selectPending batchSize ∧
        final.queue.standings = settled (accepted env) (done.zipIdx state.cloud.sent.length)
          state.queue.standings) := by
    refine Triple.through (fun batch reached =>
      batch = state.queue.selectPending batchSize ∧
        Stands state.queue.standings state.cloud.sent.length reached)
      (fetchPending_triple env ?_ ?_ ?_) fun batch => ?_
    · intro _ start same
      subst same
      exact ⟨rfl, rfl, rfl⟩
    · intro _ start same
      subst same
      exact ⟨[], List.nil_prefix, by simp [Ticking.advance]⟩
    · intro failure start _ same
      subst same
      exact ⟨[], List.nil_prefix, by simp [Ticking.advance]⟩
    · intro reached both
      obtain ⟨rfl, stands⟩ := both
      exact deliverBatch_settles env 0 tagged reached stands
  have outcome := round state rfl
  unfold after
  cases ran : processPendingDeliveries env batchSize state with
  | ok count next =>
      rw [ran] at outcome
      exact ⟨_, List.prefix_refl _, outcome⟩
  | error failure next =>
      rw [ran] at outcome
      exact outcome

theorem operation_tick {α : Type} {honours : Exn → Bool}
    {act : Nat → DeliveryState → α × DeliveryState}
    (kept : ∀ tick state, (act tick state).2.tick = state.tick) (least : Nat) :
    Preserves (fun state => least ≤ state.tick) (operation env.fault honours act) :=
  Triple.operation (fun state holds => by rw [kept]; exact Nat.le_succ_of_le holds)
    fun _ _ _ holds => Nat.le_succ_of_le holds

theorem deliver_tick (queuedEvent : QueuedEvent) (least : Nat) :
    Preserves (fun state => least ≤ state.tick) (deliver env queuedEvent) := by
  have bookkeeping : ∀ {α : Type} (run : EventQueue → Timestamp → α × EventQueue),
      Preserves (fun state => least ≤ state.tick) (statement env run) :=
    fun _ => operation_tick env (fun _ _ => rfl) least
  have health : ∀ mark, Preserves (fun state => least ≤ state.tick) (markHealth env mark) :=
    fun _ => operation_tick env (fun _ _ => rfl) least
  refine Preserves.bind (operation_tick env (fun _ _ => rfl) least) fun now => ?_
  refine Preserves.bind (bookkeeping _) fun _ =>
    Preserves.bind (Preserves.attempt ?_) fun sent => ?_
  · refine Preserves.bind (operation_tick env (fun _ _ => rfl) least) fun reply => ?_
    cases sendPayloadResult env.str reply with
    | ok result => exact Preserves.pure _
    | error message => exact Preserves.throw _
  · refine Preserves.bind (bookkeeping _) fun _ => Preserves.bind ?_ fun _ => Preserves.pure _
    unfold settle
    split
    · exact Preserves.bind (bookkeeping _) fun _ => health _
    · exact health _

theorem processPendingDeliveries_tick (batchSize : Nat) (least : Nat) :
    Preserves (fun state => least ≤ state.tick) (processPendingDeliveries env batchSize) := by
  have fetching : Preserves (fun state => least ≤ state.tick) (fetchPending env batchSize) :=
    fetchPending_triple env (fun _ _ holds => Nat.le_succ_of_le holds)
      (fun _ _ holds => Nat.le_succ_of_le holds) fun _ _ _ holds => Nat.le_succ_of_le holds
  refine Preserves.bind fetching fun batch => ?_
  generalize 0 = deliveredCount
  induction batch generalizing deliveredCount with
  | nil => exact Preserves.pure _
  | cons queuedEvent rest ih =>
      exact Preserves.bind (deliver_tick env queuedEvent least) fun _ => ih _

end Delivery

/-! ## Delivery in order -/

private theorem pairwise_of_key {α : Type} (key : α → Nat) {relation : α → α → Prop}
    {items : List α} (increasing : items.Pairwise fun earlier later => key earlier < key later)
    (related : items.Pairwise relation) {earlier later : α} (earlierMember : earlier ∈ items)
    (laterMember : later ∈ items) (before : key earlier < key later) : relation earlier later := by
  induction items with
  | nil => simp at earlierMember
  | cons head rest ih =>
      obtain ⟨headFirst, increasing⟩ := List.pairwise_cons.mp increasing
      obtain ⟨headRelated, related⟩ := List.pairwise_cons.mp related
      cases List.mem_cons.mp laterMember with
      | inl isHead =>
          -- Nothing comes before the head.
          cases List.mem_cons.mp earlierMember with
          | inl sameHead =>
              rw [isHead, sameHead] at before
              omega
          | inr earlierRest =>
              have after := headFirst earlier earlierRest
              rw [isHead] at before
              omega
      | inr laterRest =>
          rcases List.mem_cons.mp earlierMember with rfl | earlierRest
          · exact headRelated later laterRest
          · exact ih increasing related earlierRest laterRest

private theorem mem_take_of_key {α : Type} (key : α → Nat) {items : List α}
    (increasing : items.Pairwise fun earlier later => key earlier < key later) {count : Nat}
    {earlier later : α} (earlierMember : earlier ∈ items) (laterMember : later ∈ items.take count)
    (before : key earlier < key later) : earlier ∈ items.take count := by
  rw [← List.take_append_drop count items] at increasing earlierMember
  cases List.mem_append.mp earlierMember with
  | inl inside => exact inside
  | inr outside =>
      have after := (List.pairwise_append.mp increasing).2.2 later laterMember earlier outside
      omega

/-- In a numbered batch, the send of an event is accepted only where those of the
earlier events of its tag are. -/
def AcceptedInOrder (accepted : Nat → Bool) (entries : List (QueuedEvent × Nat)) : Prop :=
  entries.Pairwise fun earlier later => earlier.1.standing.SameTag later.1.standing →
    accepted later.2 = true → accepted earlier.2 = true

/-- An event that is accepted in a round was not overtaken: a pending event of its
tag with a smaller id is in the batch before it and accepted too. -/
theorem settledBy_earlier {queue : EventQueue} {accepted : Nat → Bool} {count sends : Nat}
    (acceptedInOrder : AcceptedInOrder accepted ((queue.pending.take count).zipIdx sends))
    {earlier later : QueuedEvent} (earlierKnown : earlier ∈ queue.rows)
    (laterKnown : later ∈ queue.rows) (before : earlier.id < later.id)
    (sameTag : earlier.standing.SameTag later.standing) (pending : earlier.status = .PENDING)
    (laterSettled : settledBy accepted ((queue.pending.take count).zipIdx sends) later.standing =
      true) :
    settledBy accepted ((queue.pending.take count).zipIdx sends) earlier.standing = true := by
  have increasing : queue.pending.Pairwise fun earlier later => earlier.id < later.id :=
    queue.increasing.filter _
  have numbered : ((queue.pending.take count).zipIdx sends).Pairwise
      fun earlier later => earlier.1.id < later.1.id := by
    have ids := increasing.sublist (List.take_sublist count _)
    rw [← List.zipIdx_map_fst sends (queue.pending.take count), List.pairwise_map] at ids
    exact ids
  obtain ⟨⟨found, number⟩, member, taken⟩ := List.any_eq_true.mp laterSettled
  simp only [Bool.and_eq_true, decide_eq_true_eq] at taken
  have fetched : found ∈ queue.pending.take count := List.fst_mem_of_mem_zipIdx member
  obtain rfl : found = later := EventQueue.eq_of_edgeEventId_eq
    (List.mem_of_mem_filter (List.mem_of_mem_take fetched)) laterKnown taken.2
  have inBatch := mem_take_of_key QueuedEvent.id increasing
    (List.mem_filter.mpr ⟨earlierKnown, by simpa using pending⟩) fetched before
  rw [← List.zipIdx_map_fst sends (queue.pending.take count)] at inBatch
  obtain ⟨entry, numberedRow, rfl⟩ := List.mem_map.mp inBatch
  have acceptedBefore := pairwise_of_key (fun entry => entry.1.id) numbered acceptedInOrder
    numberedRow member before sameTag taken.1
  refine List.any_eq_true.mpr ⟨entry, numberedRow, ?_⟩
  simp [acceptedBefore, QueuedEvent.standing]

theorem settled_inOrder {queue : EventQueue} {accepted : Nat → Bool} {limit sends : Nat}
    (chronological : queue.rows.Pairwise fun earlier later => earlier.createdAt ≤ later.createdAt)
    (inOrder : Standing.InOrder queue.standings)
    (acceptedInOrder : AcceptedInOrder accepted ((queue.selectPending limit).zipIdx sends))
    {done : List QueuedEvent} (before : done <+: queue.selectPending limit) :
    Standing.InOrder (settled accepted (done.zipIdx sends) queue.standings) := by
  have batch := (EventQueue.selectPending_eq_take_iff _).mpr (chronological.filter _) limit
  rw [batch] at acceptedInOrder before
  -- A prefix of a batch is a batch again.
  obtain ⟨count, rfl⟩ : ∃ count, done = queue.pending.take count := by
    refine ⟨min done.length limit, ?_⟩
    rw [← List.take_take]
    exact List.prefix_iff_eq_take.mp before
  obtain ⟨rest, whole⟩ := before
  rw [← whole, List.zipIdx_append] at acceptedInOrder
  have accepts := (List.pairwise_append.mp acceptedInOrder).1
  have ordered : queue.standings.Pairwise fun earlier later => earlier.id < later.id :=
    List.pairwise_map.mpr queue.increasing
  rw [settled, Standing.InOrder, List.pairwise_map]
  refine (ordered.and inOrder).imp_of_mem ?_
  intro earlier later earlierMember laterMember both sameTag done
  obtain ⟨before, keeps⟩ := both
  obtain ⟨earlierRow, earlierKnown, rfl⟩ := List.mem_map.mp earlierMember
  obtain ⟨laterRow, laterKnown, rfl⟩ := List.mem_map.mp laterMember
  split
  · rfl
  · rename_i unsettled
    rw [if_neg unsettled] at sameTag
    cases status : earlierRow.status with
    | DELIVERED => exact status
    | PENDING =>
        split at done
        · rename_i laterSettled
          rw [if_pos laterSettled] at sameTag
          exact absurd (settledBy_earlier accepts earlierKnown laterKnown before sameTag status
            laterSettled) unsettled
        · rename_i laterUnsettled
          rw [if_neg laterUnsettled] at sameTag
          exact keeps sameTag done

namespace DeliveryMove

variable (env : DeliveryEnv)

def AcceptsInOrder (state : DeliveryState) : DeliveryMove → Prop
  | .process batchSize =>
      AcceptedInOrder (Delivery.accepted env)
        ((state.queue.selectPending batchSize).zipIdx state.cloud.sent.length)
  | _ => True

/-- Rows are as old as their place in the table says, and none is from the future. -/
structure Chronological (state : DeliveryState) : Prop where
  ordered : state.queue.standings.Pairwise fun earlier later => earlier.createdAt ≤ later.createdAt
  past : ∀ standing ∈ state.queue.standings, standing.createdAt ≤ env.stamp state.tick

theorem step_state (run : List EventPayload × DeliveryState) (move : DeliveryMove) :
    (step env run move).2 = after (move.run env) run.2 := by
  unfold step after
  cases move.run env run.2 <;> rfl

theorem after_process (batchSize : Nat) (state : DeliveryState) :
    after ((process batchSize).run env) state =
      after (Delivery.processPendingDeliveries env batchSize) state := by
  unfold after run
  simp only [Bind.bind, EStateM.bind]
  cases Delivery.processPendingDeliveries env batchSize state <;> rfl

theorem standings_enqueue (queue : EventQueue) (payload : EventPayload) (now : Timestamp) :
    (queue.enqueue payload now).standings = queue.standings ∨
      ∃ standing, standing.createdAt = now ∧ standing.status = .PENDING ∧
        (queue.enqueue payload now).standings = queue.standings ++ [standing] := by
  unfold EventQueue.enqueue
  split
  · exact .inl rfl
  · refine .inr ⟨⟨queue.nextId, payload.edgeEventId, payload.event, payload.epc,
      payload.readerId, now, .PENDING⟩, rfl, rfl, ?_⟩
    simp [EventQueue.standings, QueuedEvent.standing]

theorem after_cases (state : DeliveryState) (move : DeliveryMove) :
    let next := after (move.run env) state
    state.tick ≤ next.tick ∧
      (next.queue.standings = state.queue.standings ∨
        (∃ standing, standing.createdAt = env.stamp state.tick ∧ standing.status = .PENDING ∧
          next.queue.standings = state.queue.standings ++ [standing]) ∨
        ∃ batchSize done, move = .process batchSize ∧
          done <+: state.queue.selectPending batchSize ∧
          next.queue.standings = settled (Delivery.accepted env)
            (done.zipIdx state.cloud.sent.length) state.queue.standings) := by
  cases move with
  | enqueue payload =>
      have enqueued : Triple (fun start => start = state) (Delivery.enqueue env payload)
          (fun _ next => state.tick ≤ next.tick ∧
            next.queue = state.queue.enqueue payload (env.stamp state.tick))
          (fun _ next => state.tick ≤ next.tick ∧ next.queue = state.queue) := by
        refine Delivery.statement_triple env ?_ ?_
        · intro start same
          subst same
          exact ⟨Nat.le_succ _, rfl⟩
        · intro failure start same
          subst same
          exact ⟨Nat.le_succ _, rfl⟩
      have outcome := enqueued state rfl
      unfold after
      change Holds _ _ ((enqueue payload).run env state) at outcome
      cases ran : (enqueue payload).run env state with
      | ok value next =>
          rw [ran] at outcome
          obtain ⟨later, queue⟩ := outcome
          cases standings_enqueue state.queue payload (env.stamp state.tick) with
          | inl same => exact ⟨later, .inl (by rw [queue, same])⟩
          | inr added => exact ⟨later, .inr (.inl (by rw [queue]; exact added))⟩
      | error failure next =>
          rw [ran] at outcome
          exact ⟨outcome.1, .inl (congrArg EventQueue.standings outcome.2)⟩
  | process batchSize =>
      rw [after_process]
      obtain ⟨done, before, reached⟩ :=
        Delivery.processPendingDeliveries_settles env batchSize state
      refine ⟨?_, .inr (.inr ⟨batchSize, done, rfl, before, reached⟩)⟩
      exact (Delivery.processPendingDeliveries_tick env batchSize state.tick).after (Nat.le_refl _)
  | restart => exact ⟨Nat.le_refl _, .inl rfl⟩

variable {env}

theorem step_inOrder (monotone : Monotone env.stamp) {state : DeliveryState}
    (chronological : Chronological env state) (inOrder : Standing.InOrder state.queue.standings)
    {move : DeliveryMove} (accepts : move.AcceptsInOrder env state) :
    Chronological env (after (move.run env) state) ∧
      Standing.InOrder (after (move.run env) state).queue.standings := by
  obtain ⟨later, same | ⟨standing, created, pending, added⟩ |
    ⟨batchSize, done, rfl, before, reached⟩⟩ := after_cases env state move
  · exact ⟨⟨by rw [same]; exact chronological.ordered, fun standing member =>
      (chronological.past standing (same ▸ member)).trans (monotone later)⟩, by rwa [same]⟩
  · have past : ∀ other ∈ state.queue.standings, other.createdAt ≤ standing.createdAt :=
      fun other member => created ▸ chronological.past other member
    refine ⟨⟨?_, ?_⟩, ?_⟩
    · rw [added, List.pairwise_append]
      refine ⟨chronological.ordered, List.pairwise_singleton _ _, fun other member new isNew => ?_⟩
      obtain rfl := List.mem_singleton.mp isNew
      exact past other member
    · intro other member
      rw [added, List.mem_append, List.mem_singleton] at member
      rcases member with old | rfl
      · exact (chronological.past other old).trans (monotone later)
      · exact created ▸ monotone later
    · rw [added, Standing.InOrder, List.pairwise_append]
      refine ⟨inOrder, List.pairwise_singleton _ _, fun other member new isNew _ done => ?_⟩
      obtain rfl := List.mem_singleton.mp isNew
      rw [pending] at done
      contradiction
  · have createdAt : ∀ old, (if settledBy (Delivery.accepted env)
        (done.zipIdx state.cloud.sent.length) old then old.delivered else old).createdAt =
          old.createdAt := by
      intro old
      split <;> rfl
    have rows := chronological.ordered
    refine ⟨⟨?_, ?_⟩, ?_⟩
    · rw [reached, settled, List.pairwise_map]
      exact rows.imp fun before => by rw [createdAt, createdAt]; exact before
    · intro standing member
      rw [reached] at member
      obtain ⟨old, known, rfl⟩ := List.mem_map.mp member
      rw [createdAt]
      exact (chronological.past old known).trans (monotone later)
    · rw [reached]
      exact settled_inOrder (List.pairwise_map (f := QueuedEvent.standing)
        (R := fun earlier later => earlier.createdAt ≤ later.createdAt) |>.mp rows)
        inOrder accepts before

/-- The delivered events of each tag are a prefix of its events, in every run whose
rounds accept no event of a tag before an earlier one of the same batch. -/
theorem delivered_in_order (monotone : Monotone env.stamp) {moves : List DeliveryMove}
    (accepts : ∀ earlier move, earlier ++ [move] <+: moves →
      move.AcceptsInOrder env (runAll env earlier).2) :
    (runAll env moves).2.queue.rows.Pairwise fun earlier later =>
      earlier.payload.epc = later.payload.epc →
      earlier.payload.readerId = later.payload.readerId →
        later.status = .DELIVERED → earlier.status = .DELIVERED := by
  have reached : Chronological env (runAll env moves).2 ∧
      Standing.InOrder (runAll env moves).2.queue.standings := by
    induction moves using List.reverseRecOn with
    | nil => exact ⟨⟨.nil, fun _ member => by cases member⟩, .nil⟩
    | append_singleton moves move ih =>
        obtain ⟨chronological, inOrder⟩ := ih fun earlier other before =>
          accepts earlier other (before.trans (List.prefix_append _ _))
        rw [runAll_concat, step_state]
        exact step_inOrder monotone chronological inOrder
          (accepts moves move (List.prefix_refl _))
  exact (List.pairwise_map.mp reached.2).imp fun inOrder epc readerId => inOrder ⟨epc, readerId⟩

theorem delivered_in_order_accepted :
    let env := calmEnv fun _ => storedReply
    let moves := [enqueue (samplePayload "1".toList .ENTER),
      enqueue (samplePayload "2".toList .EXIT), process 2]
    Monotone env.stamp ∧
      (∀ earlier move, earlier ++ [move] <+: moves →
        move.AcceptsInOrder env (runAll env earlier).2) ∧
      (runAll env moves).2.queue.rows.Pairwise fun earlier later =>
        earlier.payload.epc = later.payload.epc →
        earlier.payload.readerId = later.payload.readerId →
          later.status = .DELIVERED → earlier.status = .DELIVERED := by
  intro env moves
  have monotone : Monotone env.stamp := monotone_id
  have accepts : ∀ earlier move, earlier ++ [move] <+: moves →
      move.AcceptsInOrder env (runAll env earlier).2 := by
    intro earlier move _
    cases move with
    | process batchSize => exact List.pairwise_of_forall fun _ _ _ _ => rfl
    | enqueue payload => trivial
    | restart => trivial
  exact ⟨monotone, accepts, delivered_in_order monotone accepts⟩

/-- The ENTER fails, the EXIT behind it in the same batch does not. -/
theorem delivered_out_of_order : ¬ ∀ (env : DeliveryEnv) (moves : List DeliveryMove),
    Monotone env.stamp →
      (runAll env moves).2.queue.rows.Pairwise fun earlier later =>
        earlier.payload.epc = later.payload.epc →
        earlier.payload.readerId = later.payload.readerId →
          later.status = .DELIVERED → earlier.status = .DELIVERED := by
  intro claim
  have inOrder := claim (calmEnv fun sends => if sends = 0 then lostReply else storedReply)
    [enqueue (samplePayload "1".toList .ENTER), enqueue (samplePayload "2".toList .EXIT),
      process 2] monotone_id
  revert inOrder
  decide +kernel

end DeliveryMove

end MvdEdge
