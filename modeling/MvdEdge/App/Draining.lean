import MvdEdge.App.Punctuality

/-! How the queue drains once the cloud accepts what it is sent: each round takes a batch
off the pending rows, and no row waits for more rounds than are needed for those before it. -/

set_option autoImplicit false

namespace MvdEdge

open Lib Lib.Effect

namespace Schedule

/-- The rounds of deliveries in a journal. -/
def rounds : List Occurrence → Nat
  | [] => 0
  | .started _ :: past | .delivered _ :: past | .retried _ _ :: past => rounds past + 1
  | _ :: past => rounds past

def enqueues : List Occurrence → Nat
  | [] => 0
  | .enqueued :: past => enqueues past + 1
  | _ :: past => enqueues past

theorem rounds_cons (occurrence : Occurrence) (past : List Occurrence) :
    rounds (occurrence :: past) = rounds past + rounds [occurrence] := by
  cases occurrence <;> rfl

theorem enqueues_cons (occurrence : Occurrence) (past : List Occurrence) :
    enqueues (occurrence :: past) = enqueues past + enqueues [occurrence] := by
  cases occurrence <;> rfl

end Schedule

namespace Delivery

/-- What a step made of the queue and the cloud: nothing, a row, or a round. -/
inductive Handled (env : DeliveryEnv) (batchSize : Nat) (first last : DeliveryState) :
    Nat → Nat → Prop where
  | kept (queue : last.queue = first.queue) (cloud : last.cloud = first.cloud) :
      Handled env batchSize first last 0 0
  | enqueued {payload : EventPayload} (added : Enqueued env payload first last)
      (cloud : last.cloud = first.cloud) :
      Handled env batchSize first last 1 0
  | round {delivered : Nat} (round : Round env batchSize first delivered last) :
      Handled env batchSize first last 0 1

/-- The cloud accepts all that is sent from `state` on. -/
def AcceptsFrom (env : DeliveryEnv) (state : DeliveryState) : Prop :=
  ∀ send, state.cloud.sent.length ≤ send → accepted env send = true

variable {env : DeliveryEnv} {batchSize enqueues rounds delivered : Nat}
  {first last : DeliveryState}

theorem Handled.sent (handled : Handled env batchSize first last enqueues rounds) :
    first.cloud.sent.length ≤ last.cloud.sent.length := by
  cases handled with
  | kept _ cloud => rw [cloud]
  | enqueued _ cloud => rw [cloud]
  | round round =>
      obtain ⟨payloads, sent, _⟩ := round.sent
      simp [sent]

theorem AcceptsFrom.later (accepts : AcceptsFrom env first)
    (sent : first.cloud.sent.length ≤ last.cloud.sent.length) : AcceptsFrom env last :=
  fun send after => accepts send (sent.trans after)

theorem AcceptsFrom.fetched (accepts : AcceptsFrom env first) {row : QueuedEvent} {send : Nat}
    (sent : (row, send) ∈ (first.queue.selectPending batchSize).zipIdx first.cloud.sent.length) :
    accepted env send = true := accepts send (List.le_snd_of_mem_zipIdx sent)

theorem Round.taken (round : Round env batchSize first delivered last)
    (accepts : AcceptsFrom env first) :
    last.queue.pendingCount = first.queue.pendingCount - batchSize := by
  have all : delivered = (first.queue.selectPending batchSize).length := by
    rw [round.count, List.countP_eq_length.mpr fun _ sent => accepts.fetched sent,
      List.length_zipIdx]
  have size := round.batch.size
  have pending := round.pending
  omega

/-- A row that is enqueued is the last one pending. -/
theorem enqueue_cases (queue : EventQueue) (payload : EventPayload) (now : Timestamp) :
    queue.enqueue payload now = queue ∨ ∃ row,
      (queue.enqueue payload now).rows = queue.rows ++ [row] ∧
        (queue.enqueue payload now).pending = queue.pending ++ [row] := by
  unfold EventQueue.enqueue
  split
  · exact .inl rfl
  · exact .inr ⟨_, rfl, by simp [EventQueue.pending]⟩

theorem Handled.pendingCount_le (handled : Handled env batchSize first last enqueues rounds)
    (accepts : AcceptsFrom env first) :
    last.queue.pendingCount ≤ enqueues + (first.queue.pendingCount - batchSize * rounds) := by
  cases handled with
  | kept queue => simp [queue]
  | @enqueued payload added =>
      obtain ⟨tick, -, -, queue⟩ := added
      rw [queue]
      rcases enqueue_cases first.queue payload (env.stamp tick) with same | more
      · rw [same]
        omega
      · obtain ⟨row, -, pending⟩ := more
        rw [EventQueue.pendingCount, pending, List.length_append, List.length_singleton,
          ← EventQueue.pendingCount]
        omega
  | round round =>
      have := round.taken accepts
      omega

/-! ## One row -/

/-- A row before and after a round that the cloud accepts. -/
structure Taken (batch : List QueuedEvent) (row after : QueuedEvent) : Prop where
  edgeEventId : after.edgeEventId = row.edgeEventId
  createdAt : after.createdAt = row.createdAt
  fetched : row ∈ batch → row.status = .PENDING ∧ after.status = .DELIVERED
  left : row ∉ batch → after = row

theorem Round.takes (round : Round env batchSize first delivered last)
    (accepts : AcceptsFrom env first) :
    List.Forall₂ (Taken (first.queue.selectPending batchSize)) first.queue.rows
      last.queue.rows := by
  refine round.rows.imp fun row after both => ?_
  obtain ⟨sent, kept⟩ := both
  by_cases fetched : row ∈ first.queue.selectPending batchSize
  · have numbered := fetched
    rw [← List.zipIdx_map_fst first.cloud.sent.length (first.queue.selectPending batchSize),
      List.mem_map] at numbered
    obtain ⟨⟨_, send⟩, numbered, rfl⟩ := numbered
    have sent := sent send numbered
    exact ⟨sent.edgeEventId, sent.createdAt, fun fetched => ⟨(round.batch.pending _ fetched).2,
      (sent.delivered (accepts.fetched numbered)).1⟩, fun left => absurd fetched left⟩
  · obtain rfl := kept fetched
    exact ⟨rfl, rfl, fun impossible => absurd impossible fetched, fun _ => rfl⟩

theorem Round.pending_eq (round : Round env batchSize first delivered last)
    (accepts : AcceptsFrom env first) :
    last.queue.pending = first.queue.pending.filter
      fun row => decide (row ∉ first.queue.selectPending batchSize) := by
  have rows := round.takes accepts
  unfold EventQueue.pending
  generalize first.queue.selectPending batchSize = batch at rows ⊢
  generalize first.queue.rows = before, last.queue.rows = reached at rows ⊢
  induction rows with
  | nil => rfl
  | @cons row after _ _ head _ ih =>
      by_cases fetched : row ∈ batch
      · obtain ⟨pending, done⟩ := head.fetched fetched
        simp [ih, pending, done, fetched]
      · obtain rfl := head.left fetched
        cases status : after.status with
        | PENDING => simp [ih, status, fetched]
        | DELIVERED => simp [ih, status]

theorem filter_notMem_take {α : Type} [DecidableEq α] {items : List α} (distinct : items.Nodup)
    (count : Nat) :
    (items.filter fun item => decide (item ∉ items.take count)) = items.drop count := by
  have apart := List.disjoint_take_drop distinct (le_refl count)
  have split := List.take_append_drop count items
  calc items.filter (fun item => decide (item ∉ items.take count))
      = (items.take count ++ items.drop count).filter
          (fun item => decide (item ∉ items.take count)) := by rw [split]
    _ = items.drop count := by
      rw [List.filter_append, List.filter_eq_nil_iff.mpr (by simp), List.nil_append,
        List.filter_eq_self.mpr fun item member => by
          simpa using fun early => apart early member]

open DeliveryMove (Chronological standings_enqueue)

theorem Chronological.pending (chronological : Chronological env first) :
    first.queue.pending.Pairwise fun earlier later => earlier.createdAt ≤ later.createdAt := by
  have rows := chronological.ordered
  rw [EventQueue.standings, List.pairwise_map] at rows
  exact rows.filter _

theorem Handled.chronological (handled : Handled env batchSize first last enqueues rounds)
    (accepts : AcceptsFrom env first) (monotone : Monotone env.stamp)
    (ticks : first.tick ≤ last.tick) (chronological : Chronological env first) :
    Chronological env last := by
  have past : ∀ standing ∈ first.queue.standings, standing.createdAt ≤ env.stamp last.tick :=
    fun standing member => (chronological.past standing member).trans (monotone ticks)
  cases handled with
  | kept queue =>
      rw [← queue] at past
      exact ⟨queue ▸ chronological.ordered, past⟩
  | @enqueued payload added =>
      obtain ⟨tick, after, before, queue⟩ := added
      rcases standings_enqueue first.queue payload (env.stamp tick) with same | more
      · rw [← queue] at same
        exact ⟨same ▸ chronological.ordered, same ▸ past⟩
      · obtain ⟨standing, created, _, added⟩ := more
        rw [← queue] at added
        constructor
        · rw [added, List.pairwise_append]
          refine ⟨chronological.ordered, List.pairwise_singleton _ _, fun other member new isNew =>
            ?_⟩
          obtain rfl := List.mem_singleton.mp isNew
          exact created ▸ (chronological.past other member).trans (monotone after)
        · intro other member
          rw [added, List.mem_append, List.mem_singleton] at member
          rcases member with old | rfl
          · exact past other old
          · exact created ▸ monotone before
  | round round =>
      have created : last.queue.standings.map (·.createdAt) =
          first.queue.standings.map (·.createdAt) := by
        rw [EventQueue.standings, EventQueue.standings, List.map_map, List.map_map]
        refine (List.forall₂_eq_eq_eq ▸ List.forall₂_map_left_iff.mpr
          (List.forall₂_map_right_iff.mpr ((round.takes accepts).imp fun row after taken => ?_)) :
            _ = _).symm
        exact taken.createdAt.symm
      have ordered : (last.queue.standings.map (·.createdAt)).Pairwise (· ≤ ·) :=
        created ▸ List.pairwise_map.mpr chronological.ordered
      refine ⟨List.pairwise_map.mp ordered, fun standing member => ?_⟩
      have listed : standing.createdAt ∈ first.queue.standings.map (·.createdAt) :=
        created ▸ List.mem_map_of_mem member
      obtain ⟨other, known, same⟩ := List.mem_map.mp listed
      exact same ▸ past other known

theorem pending_nodup (queue : EventQueue) : queue.pending.Nodup := by
  rw [List.nodup_iff_pairwise_ne]
  refine (queue.increasing.filter _).imp fun less same => ?_
  exact Nat.lt_irrefl _ (same ▸ less)

/-- The event is delivered, or pending with fewer than `bound` rows before it. -/
def Awaits (queue : EventQueue) (edgeEventId : Str) (bound : Nat) : Prop :=
  (∃ row ∈ queue.rows, row.edgeEventId = edgeEventId ∧ row.status = .DELIVERED) ∨
  ∃ front row back, queue.pending = front ++ row :: back ∧ row.edgeEventId = edgeEventId ∧
    front.length < bound

theorem Awaits.enqueue {queue : EventQueue} {edgeEventId : Str} {bound : Nat}
    (awaits : Awaits queue edgeEventId bound) (payload : EventPayload) (now : Timestamp) :
    Awaits (queue.enqueue payload now) edgeEventId bound := by
  rcases enqueue_cases queue payload now with same | more
  · rwa [same]
  · obtain ⟨new, rows, pending⟩ := more
    rcases awaits with done | waiting
    · obtain ⟨row, member, same, delivered⟩ := done
      exact .inl ⟨row, rows ▸ List.mem_append_left _ member, same, delivered⟩
    · obtain ⟨front, row, back, before, same, fewer⟩ := waiting
      refine .inr ⟨front, row, back ++ [new], ?_, same, fewer⟩
      rw [pending, before, List.append_assoc, List.cons_append]

theorem Round.awaits (round : Round env batchSize first delivered last)
    (accepts : AcceptsFrom env first) (chronological : Chronological env first)
    {edgeEventId : Str} {bound : Nat} (awaits : Awaits first.queue edgeEventId bound) :
    Awaits last.queue edgeEventId (bound - batchSize) := by
  have takes := round.takes accepts
  have batch : first.queue.selectPending batchSize = first.queue.pending.take batchSize :=
    (EventQueue.selectPending_eq_take_iff first.queue).mpr (Chronological.pending chronological) _
  rcases awaits with done | waiting
  · obtain ⟨row, member, rfl, status⟩ := done
    obtain ⟨after, known, taken⟩ := exists_related takes member
    have left : row ∉ first.queue.selectPending batchSize := by
      intro fetched
      have pending := (taken.fetched fetched).1
      simp [status] at pending
    exact .inl ⟨after, known, taken.edgeEventId, taken.left left ▸ status⟩
  · obtain ⟨front, row, back, pending, rfl, fewer⟩ := waiting
    by_cases beyond : batchSize ≤ front.length
    · refine .inr ⟨front.drop batchSize, row, back, ?_, rfl, by rw [List.length_drop]; omega⟩
      rw [round.pending_eq accepts, batch, filter_notMem_take (pending_nodup _), pending,
        List.drop_append_of_le_length beyond]
    · have fetched : row ∈ first.queue.selectPending batchSize := by
        rw [batch, pending, List.take_append]
        obtain ⟨more, some⟩ : ∃ more, batchSize - front.length = more + 1 :=
          ⟨batchSize - front.length - 1, by omega⟩
        rw [some, List.take_succ_cons]
        exact List.mem_append_right _ List.mem_cons_self
      obtain ⟨after, known, taken⟩ := exists_related takes (round.batch.pending row fetched).1
      exact .inl ⟨after, known, taken.edgeEventId, (taken.fetched fetched).2⟩

/-- What has become of the rows of `start`, so many rows and rounds later. -/
structure Draining (env : DeliveryEnv) (batchSize : Nat) (start : DeliveryState)
    (enqueued ran : Nat) (state : DeliveryState) : Prop where
  sent : start.cloud.sent.length ≤ state.cloud.sent.length
  fewer : state.queue.pendingCount ≤ enqueued + (start.queue.pendingCount - batchSize * ran)
  inOrder : Monotone env.stamp → Chronological env start → Chronological env state ∧
    ∀ edgeEventId bound, Awaits start.queue edgeEventId bound →
      Awaits state.queue edgeEventId (bound - batchSize * ran)

theorem Draining.start (state : DeliveryState) : Draining env batchSize state 0 0 state :=
  ⟨le_rfl, by simp, fun _ chronological => ⟨chronological, fun _ _ awaits => awaits⟩⟩

theorem Draining.step {start : DeliveryState} (accepts : AcceptsFrom env start)
    {enqueued ran : Nat} (draining : Draining env batchSize start enqueued ran first)
    (handled : Handled env batchSize first last enqueues rounds) (ticks : first.tick ≤ last.tick) :
    Draining env batchSize start (enqueued + enqueues) (ran + rounds) last := by
  have accepts := accepts.later draining.sent
  refine ⟨draining.sent.trans handled.sent, ?_, fun monotone chronological => ?_⟩
  · have before := draining.fewer
    have fewer := handled.pendingCount_le accepts
    rw [Nat.mul_add]
    omega
  · obtain ⟨ordered, waits⟩ := draining.inOrder monotone chronological
    refine ⟨handled.chronological accepts monotone ticks ordered,
    fun edgeEventId bound awaits => ?_⟩
    have awaits := waits edgeEventId bound awaits
    rw [Nat.mul_add, ← Nat.sub_sub]
    cases handled with
    | kept queue => exact queue ▸ awaits
    | @enqueued payload added =>
        obtain ⟨tick, -, -, queue⟩ := added
        exact queue ▸ awaits.enqueue payload (env.stamp tick)
    | round round =>
        rw [Nat.mul_one]
        exact round.awaits accepts ordered awaits

end Delivery

/-! ## Runs -/

open Delivery DeliveryMove

section Journal

variable {env : AgentEnv} {config : EdgeConfig} {start : World}
  {journal window past : List Moment} {newest newer older : Moment}

theorem Logged.handled (logged : Logged env config start journal)
    (suffix : newer :: older :: past <:+ journal) :
    Handled env.delivery config.queueBatchSize older.world.delivery newer.world.delivery
      (Schedule.enqueues [newer.occurrence]) (Schedule.rounds [newer.occurrence]) := by
  have onward := logged.touched newer (older :: past) suffix
  have dealt := logged.dealt newer (older :: past) suffix
  obtain ⟨occurrence, world⟩ := newer
  cases occurrence with
  | enqueued =>
      obtain ⟨event, sendAt, enqueued⟩ := dealt
      exact .enqueued enqueued (onward.cloud (by simp [Occurrence.touches])).1
  | started done | delivered done | retried now done =>
      obtain ⟨delivered, round⟩ := dealt
      exact .round round
  | _ =>
      exact .kept (onward.queue (by simp [Occurrence.touches]) (by simp [Occurrence.touches]))
        (onward.cloud (by simp [Occurrence.touches])).1

/-- What holds of a moment, counting the rows and rounds since, holds of the later ones if
each step keeps it. -/
theorem Logged.since (logged : Logged env config start journal)
    {holds : Nat → Nat → DeliveryState → Prop}
    (step : ∀ {first last : DeliveryState} {enqueued ran enqueues rounds : Nat},
      first.tick ≤ last.tick →
        Handled env.delivery config.queueBatchSize first last enqueues rounds →
        holds enqueued ran first → holds (enqueued + enqueues) (ran + rounds) last)
    (initial : holds 0 0 older.world.delivery) (suffix : window ++ older :: past <:+ journal)
    (last : newest ∈ (window ++ [older]).head?) :
    holds (Schedule.enqueues (occurrences window)) (Schedule.rounds (occurrences window))
      newest.world.delivery := by
  induction window generalizing newest with
  | nil =>
      obtain rfl : older = newest := by simpa using last
      exact initial
  | cons newer window ih =>
      obtain rfl : newer = newest := by simpa using last
      have earlier := (List.suffix_cons newer (window ++ older :: past)).trans suffix
      obtain ⟨before, rest, found⟩ : ∃ before rest, window ++ older :: past = before :: rest ∧
          before ∈ (window ++ [older]).head? := by
        cases window with
        | nil => exact ⟨older, past, rfl, rfl⟩
        | cons before window => exact ⟨before, window ++ older :: past, rfl, rfl⟩
      have linked : newer :: before :: rest <:+ journal := found.1 ▸ suffix
      rw [occurrences, List.map_cons, Schedule.enqueues_cons, Schedule.rounds_cons]
      exact step (logged.touched newer (before :: rest) linked).stamps (logged.handled linked)
        (ih earlier found.2)

end Journal

/-- From any moment on at which the cloud begins to accept what it is sent: each round
takes a batch off what is pending. If the clock has not stepped back, the rows go in the
order in which they came, and none waits for more rounds than the rows before it fill. -/
theorem runAgent_drains (env : AgentEnv) (config : EdgeConfig) (turns : Nat) (world : World) :
    let run := timeline env config turns world
    run.1 = after (Agent.runAgent env config turns) world ∧
    ∀ window older past, window ++ older :: past <:+ run.2 →
      AcceptsFrom env.delivery older.world.delivery →
      ∀ newest ∈ (window ++ [older]).head?,
        newest.world.delivery.queue.pendingCount ≤ Schedule.enqueues (occurrences window) +
          (older.world.delivery.queue.pendingCount -
            config.queueBatchSize * Schedule.rounds (occurrences window)) ∧
        (Monotone env.delivery.stamp → Chronological env.delivery older.world.delivery →
          ∀ front row back, older.world.delivery.queue.pending = front ++ row :: back →
            front.length < config.queueBatchSize * Schedule.rounds (occurrences window) →
            ∃ done ∈ newest.world.delivery.queue.rows,
              done.edgeEventId = row.edgeEventId ∧ done.status = .DELIVERED) := by
  intro run
  have logged := timeline_logged env config turns world
  refine ⟨timeline_world env config turns world, fun window older past suffix accepts newest last =>
    ?_⟩
  have drained : Draining env.delivery config.queueBatchSize older.world.delivery
      (Schedule.enqueues (occurrences window)) (Schedule.rounds (occurrences window))
      newest.world.delivery :=
    logged.since (fun ticks handled draining => draining.step accepts handled ticks)
      (.start _) suffix last
  refine ⟨drained.fewer, fun monotone chronological front row back pending fewer => ?_⟩
  rcases (drained.inOrder monotone chronological).2 row.edgeEventId (front.length + 1)
    (.inr ⟨front, row, back, pending, rfl, Nat.lt_succ_self _⟩) with done | waiting
  · exact done
  · -- Fewer rows than none are before it.
    obtain ⟨before, _, _, _, _, none⟩ := waiting
    omega

/-- A cloud that loses its first two answers, and then stores what it is sent. -/
def reopeningEnv : AgentEnv :=
  { tickingEnv with
    delivery := calmEnv fun sends => if sends < 2 then lostReply else storedReply }

def pairsConfig : EdgeConfig := { tickingConfig with queueBatchSize := 2 }

/-- Three events that an earlier process left. -/
def backloggedWorld : World :=
  let payloads := ["1", "2", "3"].map fun edgeEventId => samplePayload edgeEventId.toList .ENTER
  { sampleWorld with
    delivery :=
      { sampleWorld.delivery with
        queue := payloads.foldl (fun queue payload => queue.enqueue payload 0) .empty } }

def reopenedJournal : List Moment := (timeline reopeningEnv pairsConfig 5 backloggedWorld).2

theorem reopenedJournal_ne_nil : reopenedJournal ≠ [] :=
  List.ne_nil_of_length_pos (by decide +kernel)

/-- The moment after startup, and the last one. -/
def reopened : Moment := reopenedJournal.getLast reopenedJournal_ne_nil

def caughtUp : Moment := reopenedJournal.head reopenedJournal_ne_nil

theorem reopenedJournal_split : reopenedJournal.dropLast ++ [reopened] = reopenedJournal :=
  List.dropLast_append_getLast reopenedJournal_ne_nil

theorem caughtUp_newest : caughtUp ∈ (reopenedJournal.dropLast ++ [reopened]).head? := by
  rw [reopenedJournal_split]
  exact List.head_mem_head? reopenedJournal_ne_nil

theorem reopened_accepts : AcceptsFrom reopeningEnv.delivery reopened.world.delivery := by
  intro send after
  have failed : reopened.world.delivery.cloud.sent.length = 2 := by decide +kernel
  rw [failed] at after
  simp only [accepted, reopeningEnv, calmEnv, if_neg (Nat.not_lt.mpr after)]
  decide

theorem reopened_chronological :
    Chronological reopeningEnv.delivery reopened.world.delivery :=
  ⟨by decide +kernel, by decide +kernel⟩

theorem reopened_pending : reopened.world.delivery.queue.pending ≠ [] :=
  List.ne_nil_of_length_pos (by decide +kernel)

/-- The round at startup fails; the next one, three turns on, delivers the two oldest. -/
theorem runAgent_drains_reopened :
    reopened.world.delivery.queue.pendingCount = 3 ∧
      caughtUp.world.delivery.queue.pendingCount ≤ 1 ∧
      ∃ done ∈ caughtUp.world.delivery.queue.rows,
        done.edgeEventId = "1".toList ∧ done.status = .DELIVERED := by
  have whole : reopenedJournal.dropLast ++ [reopened] <:+ reopenedJournal := by
    rw [reopenedJournal_split]
  obtain ⟨fewer, inOrder⟩ := (runAgent_drains reopeningEnv pairsConfig 5 backloggedWorld).2
    reopenedJournal.dropLast reopened [] whole reopened_accepts caughtUp caughtUp_newest
  obtain ⟨done, known, same, delivered⟩ := inOrder (fun _ _ le => le) reopened_chronological []
    (reopened.world.delivery.queue.pending.head reopened_pending)
    reopened.world.delivery.queue.pending.tail (List.cons_head_tail reopened_pending).symm
    (by decide +kernel)
  exact ⟨by decide +kernel, fewer.trans (by decide +kernel), done, known,
    same.trans (by decide +kernel), delivered⟩

end MvdEdge
