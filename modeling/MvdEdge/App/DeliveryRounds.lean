import MvdEdge.App.DeliveryRound

/-! Delivery rounds one after the other: which events they reach, and which ones
wait behind events that fail. -/

set_option autoImplicit false

namespace MvdEdge

open Lib Lib.Effect

namespace Delivery

section Rounds

variable (env : DeliveryEnv)

/-- `rounds` calls, one after the other, with no new events. -/
def processRounds (batchSize : Nat) : Nat → Delivery Nat
  | 0 => return 0
  | rounds + 1 => do
      let delivered ← processPendingDeliveries env batchSize
      let later ← processRounds batchSize rounds
      return delivered + later

def failedSends (first count : Nat) : Nat :=
  (List.range' first count).countP fun send => !accepted env send

theorem countP_zipIdx (batch : List QueuedEvent) (first : Nat) :
    ((batch.zipIdx first).countP fun entry => accepted env entry.2) +
      failedSends env first batch.length = batch.length := by
  induction batch generalizing first with
  | nil => rfl
  | cons queuedEvent rest ih =>
      have later := ih (first + 1)
      unfold failedSends at later ⊢
      rw [List.zipIdx_cons, List.countP_cons, List.length_cons, List.range'_succ, List.countP_cons]
      cases accepted env first <;> simp <;> omega

theorem failedSends_append (first count more : Nat) :
    failedSends env first (count + more) =
      failedSends env first count + failedSends env (first + count) more := by
  rw [failedSends, ← List.range'_append_1, List.countP_append]
  rfl

/-- The row was sent between two states. -/
def SentBetween (start next : DeliveryState) (row : QueuedEvent) : Prop :=
  (∃ after ∈ next.queue.rows, after.edgeEventId = row.edgeEventId ∧
    row.attemptCount < after.attemptCount) ∧
  ∃ payload ∈ next.cloud.sent.drop start.cloud.sent.length, payload.SameEvent row.payload

/-- What rounds that went through have come to. -/
structure Progress (batchSize rounds : Nat) (start : DeliveryState) (delivered : Nat)
    (next : DeliveryState) : Prop where
  sends : ∃ payloads, next.cloud.sent = start.cloud.sent ++ payloads ∧
    delivered + failedSends env start.cloud.sent.length payloads.length = payloads.length ∧
    ∀ row ∈ start.queue.rows, row.status = .PENDING → SentBetween start next row ∨
      (row ∈ next.queue.rows ∧ payloads.length = rounds * batchSize)
  pending : next.queue.pendingCount + delivered = start.queue.pendingCount
  rows : ∀ row ∈ start.queue.rows, ∃ after ∈ next.queue.rows,
    after.edgeEventId = row.edgeEventId ∧ row.attemptCount ≤ after.attemptCount

end Rounds

variable {env : DeliveryEnv}

theorem exists_related {α β : Type} {relation : α → β → Prop} {left : List α}
    {right : List β} (related : List.Forall₂ relation left right) {item : α}
    (member : item ∈ left) : ∃ other ∈ right, relation item other := by
  induction related with
  | nil => exact absurd member List.not_mem_nil
  | cons head rest ih =>
      cases List.mem_cons.mp member with
      | inl same => exact ⟨_, List.mem_cons_self, same ▸ head⟩
      | inr later =>
          obtain ⟨other, known, holds⟩ := ih later
          exact ⟨other, List.mem_cons_of_mem _ known, holds⟩

theorem Round.length_sent {batchSize delivered : Nat} {start next : DeliveryState}
    (round : Round env batchSize start delivered next) {payloads : List EventPayload}
    (sent : next.cloud.sent = start.cloud.sent ++ payloads) :
    payloads.length = (start.queue.selectPending batchSize).length := by
  obtain ⟨others, same, related⟩ := round.sent
  rw [List.append_cancel_left (sent.symm.trans same)]
  exact related.length_eq.symm

theorem Round.sentBetween {batchSize delivered : Nat} {start next : DeliveryState}
    (round : Round env batchSize start delivered next) {row : QueuedEvent}
    (fetched : row ∈ start.queue.selectPending batchSize) : SentBetween start next row := by
  obtain ⟨known, _⟩ := round.batch.pending row fetched
  obtain ⟨after, kept, relation, _⟩ := exists_related round.rows known
  rw [← List.zipIdx_map_fst start.cloud.sent.length (start.queue.selectPending batchSize),
    List.mem_map] at fetched
  obtain ⟨⟨_, send⟩, numbered, rfl⟩ := fetched
  have sent := relation send numbered
  refine ⟨⟨after, kept, sent.edgeEventId, by rw [sent.attemptCount]; omega⟩, ?_⟩
  obtain ⟨payloads, whole, related⟩ := round.sent
  obtain ⟨payload, member, same⟩ := exists_related related (List.fst_mem_of_mem_zipIdx numbered)
  exact ⟨payload, by rw [whole, List.drop_left]; exact member, same⟩

theorem Round.unsent {batchSize delivered : Nat} {start next : DeliveryState}
    (round : Round env batchSize start delivered next) {row : QueuedEvent}
    (known : row ∈ start.queue.rows) (absent : row ∉ start.queue.selectPending batchSize) :
    row ∈ next.queue.rows := by
  obtain ⟨after, kept, _, same⟩ := exists_related round.rows known
  exact same absent ▸ kept

theorem Round.kept {batchSize delivered : Nat} {start next : DeliveryState}
    (round : Round env batchSize start delivered next) {row : QueuedEvent}
    (known : row ∈ start.queue.rows) : ∃ after ∈ next.queue.rows,
      after.edgeEventId = row.edgeEventId ∧ row.attemptCount ≤ after.attemptCount := by
  by_cases fetched : row ∈ start.queue.selectPending batchSize
  · obtain ⟨after, kept, same, more⟩ := (round.sentBetween fetched).1
    exact ⟨after, kept, same, Nat.le_of_lt more⟩
  · exact ⟨row, round.unsent known fetched, rfl, Nat.le_refl _⟩

/-- A batch that leaves a pending row out is a full one. -/
theorem selectPending_full {queue : EventQueue} {limit : Nat} {row : QueuedEvent}
    (known : row ∈ queue.rows) (pending : row.status = .PENDING)
    (absent : row ∉ queue.selectPending limit) : (queue.selectPending limit).length = limit := by
  have size := (queue.selectPending_oldest limit).size
  by_contra short
  have everything : queue.inOrder.length ≤ limit := by
    rw [EventQueue.length_inOrder]
    omega
  apply absent
  rw [EventQueue.selectPending, ← EventQueue.inOrder, List.take_of_length_le everything]
  exact EventQueue.mem_inOrder_iff.mpr ⟨known, pending⟩

theorem SentBetween.later {start middle next : DeliveryState} {row : QueuedEvent}
    (sent : SentBetween start middle row)
    (rows : ∀ row ∈ middle.queue.rows, ∃ after ∈ next.queue.rows,
      after.edgeEventId = row.edgeEventId ∧ row.attemptCount ≤ after.attemptCount)
    (more : ∃ payloads, middle.cloud.sent = start.cloud.sent ++ payloads)
    (most : ∃ payloads, next.cloud.sent = middle.cloud.sent ++ payloads) :
    SentBetween start next row := by
  obtain ⟨⟨between, known, named, less⟩, payload, member, same⟩ := sent
  obtain ⟨after, kept, again, le⟩ := rows between known
  refine ⟨⟨after, kept, again.trans named, Nat.lt_of_lt_of_le less le⟩, payload, ?_, same⟩
  obtain ⟨first, middleSent⟩ := more
  obtain ⟨second, nextSent⟩ := most
  rw [middleSent, List.drop_left] at member
  rw [nextSent, middleSent, List.append_assoc, List.drop_left]
  exact List.mem_append_left _ member

theorem SentBetween.earlier {start middle next : DeliveryState} {row : QueuedEvent}
    (sent : SentBetween middle next row)
    (more : ∃ payloads, middle.cloud.sent = start.cloud.sent ++ payloads)
    (most : ∃ payloads, next.cloud.sent = middle.cloud.sent ++ payloads) :
    SentBetween start next row := by
  obtain ⟨attempts, payload, member, same⟩ := sent
  refine ⟨attempts, payload, ?_, same⟩
  obtain ⟨first, middleSent⟩ := more
  obtain ⟨second, nextSent⟩ := most
  rw [nextSent, List.drop_left] at member
  rw [nextSent, middleSent, List.append_assoc, List.drop_left]
  exact List.mem_append_right _ member

theorem processRounds_triple (batchSize rounds : Nat) (start : DeliveryState) :
    Triple (fun state => state = start) (processRounds env batchSize rounds)
      (Progress env batchSize rounds start) (fun failure _ => Stopped env batchSize failure) := by
  induction rounds generalizing start with
  | zero =>
      refine Triple.pure fun state same => ?_
      rw [same]
      refine ⟨⟨[], by simp, rfl, fun row known _ => .inr ⟨known, by simp⟩⟩, rfl, ?_⟩
      exact fun row known => ⟨row, known, rfl, Nat.le_refl _⟩
  | succ rounds ih =>
      refine Triple.bind (processPendingDeliveries_stopped env batchSize start)
        fun delivered middle round => ?_
      refine Triple.bind (ih middle) (fun later => Triple.pure fun next progress => ?_) middle rfl
      obtain ⟨first, middleSent, _⟩ := round.sent
      obtain ⟨second, nextSent, balance, reach⟩ := progress.sends
      have batchLength := round.length_sent middleSent
      constructor
      · refine ⟨first ++ second, by rw [nextSent, middleSent, List.append_assoc], ?_, ?_⟩
        · have head := countP_zipIdx env (start.queue.selectPending batchSize)
            start.cloud.sent.length
          rw [← round.count, ← batchLength] at head
          rw [middleSent, List.length_append] at balance
          rw [List.length_append, failedSends_append]
          omega
        · intro row known pending
          by_cases fetched : row ∈ start.queue.selectPending batchSize
          · exact .inl ((round.sentBetween fetched).later progress.rows ⟨_, middleSent⟩
              ⟨_, nextSent⟩)
          · have full := selectPending_full known pending fetched
            cases reach row (round.unsent known fetched) pending with
            | inl sent => exact .inl (sent.earlier ⟨_, middleSent⟩ ⟨_, nextSent⟩)
            | inr unsent =>
                refine .inr ⟨unsent.1, ?_⟩
                rw [List.length_append, batchLength, full, unsent.2, Nat.succ_mul, Nat.add_comm]
      · have head := round.pending
        have tail := progress.pending
        omega
      · intro row known
        obtain ⟨between, middleKnown, named, less⟩ := round.kept known
        obtain ⟨after, kept, again, le⟩ := progress.rows between middleKnown
        exact ⟨after, kept, again.trans named, Nat.le_trans less le⟩

/-- Where nothing is accepted, every call sends the same rows again. -/
theorem Round.selectPending_rejected {batchSize delivered : Nat} {start next : DeliveryState}
    (round : Round env batchSize start delivered next)
    (rejects : ∀ send, accepted env send = false) {row : QueuedEvent}
    (known : row ∈ start.queue.rows) (absent : row ∉ start.queue.selectPending batchSize) :
    row ∉ next.queue.selectPending batchSize := by
  have places : List.Forall₂ (fun row after =>
      EventQueue.place after = EventQueue.place row ∧ after.status = row.status)
      start.queue.rows next.queue.rows := by
    refine round.rows.imp fun row after both => ?_
    obtain ⟨sends, keeps⟩ := both
    by_cases fetched : row ∈ start.queue.selectPending batchSize
    · rw [← List.zipIdx_map_fst start.cloud.sent.length (start.queue.selectPending batchSize),
        List.mem_map] at fetched
      obtain ⟨⟨_, send⟩, numbered, rfl⟩ := fetched
      have sent := sends send numbered
      exact ⟨by rw [EventQueue.place, sent.createdAt, sent.id, EventQueue.place],
        sent.failed (rejects send)⟩
    · rw [keeps fetched]
      exact ⟨rfl, rfl⟩
  intro fetched
  apply absent
  apply EventQueue.mem_selectPending_of_place known
  rw [← EventQueue.map_place_selectPending_congr places]
  exact List.mem_map_of_mem fetched

theorem processRounds_rejected (rejects : ∀ send, accepted env send = false)
    (batchSize rounds : Nat) (start : DeliveryState) :
    Triple (fun state => state = start) (processRounds env batchSize rounds)
      (fun _ next => ∀ row ∈ start.queue.rows, row ∉ start.queue.selectPending batchSize →
        row ∈ next.queue.rows)
      (fun failure _ => Stopped env batchSize failure) := by
  induction rounds generalizing start with
  | zero =>
      refine Triple.pure fun state same row known _ => ?_
      rw [same]
      exact known
  | succ rounds ih =>
      refine Triple.bind (processPendingDeliveries_stopped env batchSize start)
        fun delivered middle round => ?_
      refine Triple.bind (ih middle) (fun later => Triple.pure fun next kept => ?_) middle rfl
      intro row known absent
      exact kept row (round.unsent known absent) (round.selectPending_rejected rejects known absent)

/-- Failing events keep their place at the head of the queue. Calls reach every
pending row once there is room for them and for every send that fails; a cloud that
accepts nothing never sees the rows outside the first batch. -/
theorem processRounds_reach (env : DeliveryEnv) (batchSize rounds : Nat) (start : DeliveryState) :
    (∃ delivered next, processRounds env batchSize rounds start = .ok delivered next ∧
      (start.queue.pendingCount + failedSends env start.cloud.sent.length
          (next.cloud.sent.length - start.cloud.sent.length) ≤ rounds * batchSize →
        ∀ row ∈ start.queue.rows, row.status = .PENDING → SentBetween start next row) ∧
      ((∀ send, accepted env send = false) → ∀ row ∈ start.queue.rows,
        row ∉ start.queue.selectPending batchSize → row ∈ next.queue.rows)) ∨
    ∃ failure next, processRounds env batchSize rounds start = .error failure next ∧
      Stopped env batchSize failure := by
  have outcome : Holds (Progress env batchSize rounds start)
      (fun failure _ => Stopped env batchSize failure) (processRounds env batchSize rounds start) :=
    processRounds_triple batchSize rounds start _ rfl
  cases ran : processRounds env batchSize rounds start with
  | error failure next =>
      rw [ran] at outcome
      exact .inr ⟨failure, next, rfl, outcome⟩
  | ok delivered next =>
      rw [ran] at outcome
      refine .inl ⟨delivered, next, rfl, ?_, ?_⟩
      · intro enough row known pending
        obtain ⟨payloads, sent, balance, reach⟩ := outcome.sends
        cases reach row known pending with
        | inl sent => exact sent
        | inr unsent =>
            -- Every batch was full, so the successes alone are as many as the pending rows.
            have waiting : 0 < next.queue.pendingCount :=
              List.length_pos_of_mem (EventQueue.mem_pending_iff.mpr ⟨unsent.1, pending⟩)
            have moved := outcome.pending
            rw [sent, List.length_append, Nat.add_sub_cancel_left] at enough
            omega
      · intro rejects
        have kept := processRounds_rejected rejects batchSize rounds start start rfl
        rw [ran] at kept
        exact kept

/-- The cloud takes neither of two events: the second is never sent in batches of one. -/
theorem processRounds_starved :
    let env := calmEnv fun _ => lostReply
    let queue := EventQueue.run [.enqueue (samplePayload "1".toList .ENTER) 0,
      .enqueue (samplePayload "2".toList .EXIT) 1]
    let start := { DeliveryState.empty with queue }
    queue.pendingCount = 2 ∧ ∀ rounds, ∃ delivered next,
      processRounds env 1 rounds start = .ok delivered next ∧
        ∃ row ∈ next.queue.rows, row.edgeEventId = "2".toList ∧ row.status = .PENDING ∧
          row.attemptCount = 0 := by
  intro env queue start
  refine ⟨by decide +kernel, fun rounds => ?_⟩
  have rejects : ∀ send, accepted env send = false := fun _ => rfl
  have outcome := processRounds_rejected rejects 1 rounds start start rfl
  cases ran : processRounds env 1 rounds start with
  | error failure next =>
      rw [ran] at outcome
      obtain ⟨tick, stored⟩ | ⟨large, -⟩ := outcome
      · exact absurd stored (by simp [env, calmEnv])
      · exact absurd large (by decide)
  | ok delivered next =>
      rw [ran] at outcome
      have second : ∃ row ∈ queue.rows, row ∉ queue.selectPending 1 ∧
          row.edgeEventId = "2".toList ∧ row.status = .PENDING ∧ row.attemptCount = 0 := by
        decide +kernel
      obtain ⟨row, known, absent, facts⟩ := second
      exact ⟨delivered, next, rfl, row, outcome row known absent, facts⟩

end Delivery

end MvdEdge
