import MvdEdge.App.Delivery
import MvdEdge.Storage.QueueRuns
import Mathlib.Data.List.Induction

/-! Runs of store-and-forward: enqueues, delivery rounds and restarts, with a
failure or the end of the process possible at every operation. What holds after
every such run is an invariant of the single operations. -/

set_option autoImplicit false

namespace MvdEdge

open Lib Lib.Effect

inductive DeliveryMove where
  | enqueue (payload : EventPayload)
  | process (batchSize : Nat)
  | restart

namespace DeliveryMove

def run (env : DeliveryEnv) : DeliveryMove → Delivery Unit
  | .enqueue payload => Delivery.enqueue env payload
  | .process batchSize => do
      let _ ← Delivery.processPendingDeliveries env batchSize
  | .restart => modifyGet fun state => ((), { state with healthState := some {} })

def payloads : DeliveryMove → List EventPayload
  | .enqueue payload => [payload]
  | .process _ => []
  | .restart => []

/-- The payloads enqueued so far and the state, one move on. A move that fails or
is cut short leaves the state it had reached. -/
def step (env : DeliveryEnv) (run : List EventPayload × DeliveryState) (move : DeliveryMove) :
    List EventPayload × DeliveryState :=
  match move.run env run.2 with
  | .ok _ next => (run.1 ++ move.payloads, next)
  | .error _ next => (run.1, next)

def runAll (env : DeliveryEnv) (moves : List DeliveryMove) : List EventPayload × DeliveryState :=
  moves.foldl (step env) ([], .empty)

@[simp] theorem runAll_concat (env : DeliveryEnv) (moves : List DeliveryMove)
    (move : DeliveryMove) :
    runAll env (moves ++ [move]) = step env (runAll env moves) move := by
  simp [runAll, List.foldl_append]

def Fresh (moves : List DeliveryMove) : Prop :=
  ((moves.flatMap payloads).map (·.edgeEventId)).Nodup

instance (moves : List DeliveryMove) : Decidable (Fresh moves) :=
  inferInstanceAs (Decidable (List.Nodup _))

theorem enqueued_sublist (env : DeliveryEnv) (moves : List DeliveryMove) :
    (runAll env moves).1.Sublist (moves.flatMap payloads) := by
  induction moves using List.reverseRecOn with
  | nil => exact .slnil
  | append_singleton moves move ih =>
      rw [runAll_concat, List.flatMap_append, List.flatMap_singleton, step]
      split
      · exact ih.append (List.Sublist.refl _)
      · exact ih.trans (List.sublist_append_left _ _)

end DeliveryMove

/-! ## Nothing is lost, nothing is made up -/

/-- The payload that was enqueued under an identifier, up to the time of sending. -/
def EnqueuedAs (enqueued : List EventPayload) (edgeEventId : Str) (payload : EventPayload) :
    Prop :=
  ∃ original ∈ enqueued, original.edgeEventId = edgeEventId ∧ payload.SameEvent original

structure LossFree (enqueued : List EventPayload) (state : DeliveryState) : Prop where
  kept : ∀ payload ∈ enqueued, payload.edgeEventId ∈ state.queue.rows.map (·.edgeEventId)
  rows : ∀ row ∈ state.queue.rows, EnqueuedAs enqueued row.edgeEventId row.payload
  delivered : ∀ row ∈ state.queue.rows, row.status = .DELIVERED →
    row.edgeEventId ∈ state.cloud.stored.keys
  sent : ∀ payload ∈ state.cloud.sent, EnqueuedAs enqueued payload.edgeEventId payload
  stored : ∀ edgeEventId payload, state.cloud.stored.get? edgeEventId = some payload →
    EnqueuedAs enqueued edgeEventId payload

namespace LossFree

variable {enqueued : List EventPayload} {state : DeliveryState}

theorem empty : LossFree [] .empty := by
  constructor <;> simp [DeliveryState.empty, EventQueue.empty, Cloud.empty]

/-- A statement that neither adds nor removes rows, stores only payloads enqueued
under the row's identifier and delivers only what the cloud has. -/
theorem set (free : LossFree enqueued state) {edgeEventId : Str}
    (change : QueuedEvent → QueuedEvent)
    (keeps : ∀ row, (change row).id = row.id ∧ (change row).edgeEventId = row.edgeEventId)
    (payloads : ∀ row ∈ state.queue.rows, row.edgeEventId = edgeEventId →
      EnqueuedAs enqueued edgeEventId (change row).payload)
    (statuses : ∀ row ∈ state.queue.rows, row.edgeEventId = edgeEventId →
      (change row).status = .DELIVERED → edgeEventId ∈ state.cloud.stored.keys)
    {next : DeliveryState} (queue : next.queue = state.queue.set edgeEventId change keeps)
    (cloud : next.cloud = state.cloud) : LossFree enqueued next where
  kept := by
    rw [queue, EventQueue.map_set _ edgeEventId keeps _ fun row => (keeps row).2]
    exact free.kept
  rows := by
    intro row member
    rw [queue, EventQueue.mem_set_iff] at member
    obtain ⟨old, oldMember, target, rfl⟩ | ⟨old, _⟩ := member
    · rw [(keeps old).2, target]
      exact payloads old oldMember target
    · exact free.rows row old
  delivered := by
    intro row member done
    rw [queue, EventQueue.mem_set_iff] at member
    rw [cloud]
    obtain ⟨old, oldMember, target, rfl⟩ | ⟨old, _⟩ := member
    · rw [(keeps old).2, target]
      exact statuses old oldMember target done
    · exact free.delivered row old done
  sent := cloud ▸ free.sent
  stored := cloud ▸ free.stored

theorem congr (free : LossFree enqueued state) {next : DeliveryState}
    (queue : next.queue = state.queue) (cloud : next.cloud = state.cloud) :
    LossFree enqueued next := by
  obtain ⟨kept, rows, delivered, sent, stored⟩ := free
  constructor <;> (try rw [queue]) <;> (try rw [cloud]) <;> assumption

theorem receive (free : LossFree enqueued state) {payload : EventPayload} {stored : Bool}
    (genuine : EnqueuedAs enqueued payload.edgeEventId payload) :
    LossFree enqueued { state with cloud := state.cloud.receive payload stored } where
  kept := free.kept
  rows := free.rows
  delivered := fun row member done =>
    Cloud.mem_keys_receive.mpr (.inl (free.delivered row member done))
  sent := by
    intro sent member
    cases List.mem_append.mp member with
    | inl earlier => exact free.sent sent earlier
    | inr now =>
        obtain rfl := List.mem_singleton.mp now
        exact genuine
  stored := by
    intro edgeEventId event found
    rcases Cloud.get?_receive found with earlier | ⟨rfl, rfl⟩
    · exact free.stored edgeEventId event earlier
    · exact genuine

theorem enqueue (free : LossFree enqueued state) {payload : EventPayload} {now : Timestamp}
    (fresh : payload.edgeEventId ∉ enqueued.map (·.edgeEventId)) :
    LossFree (enqueued ++ [payload])
      { state with queue := state.queue.enqueue payload now } := by
  have weaken : ∀ edgeEventId event, EnqueuedAs enqueued edgeEventId event →
      EnqueuedAs (enqueued ++ [payload]) edgeEventId event := by
    intro edgeEventId event both
    obtain ⟨original, member, same⟩ := both
    exact ⟨original, List.mem_append_left _ member, same⟩
  have unknown : payload.edgeEventId ∉ state.queue.rows.map (·.edgeEventId) := by
    intro known
    obtain ⟨row, member, same⟩ := List.mem_map.mp known
    obtain ⟨original, enqueuedBefore, identified, _⟩ := free.rows row member
    exact fresh (List.mem_map.mpr ⟨original, enqueuedBefore, identified.trans same⟩)
  constructor
  · intro event member
    simp only [List.mem_map]
    cases List.mem_append.mp member with
    | inl earlier =>
        obtain ⟨row, known, same⟩ := List.mem_map.mp (free.kept event earlier)
        exact ⟨row, EventQueue.mem_enqueue_iff.mpr (.inl known), same⟩
    | inr now =>
        obtain rfl := List.mem_singleton.mp now
        exact ⟨_, EventQueue.mem_enqueue_iff.mpr (.inr ⟨unknown, rfl⟩), rfl⟩
  · intro row member
    rcases EventQueue.mem_enqueue_iff.mp member with earlier | ⟨_, rfl⟩
    · exact weaken _ _ (free.rows row earlier)
    · exact ⟨payload, by simp, rfl, .refl payload⟩
  · intro row member done
    rcases EventQueue.mem_enqueue_iff.mp member with earlier | ⟨_, rfl⟩
    · exact free.delivered row earlier done
    · contradiction
  · exact fun event member => weaken _ _ (free.sent event member)
  · exact fun edgeEventId event found => weaken _ _ (free.stored edgeEventId event found)

end LossFree

namespace Delivery

variable (env : DeliveryEnv) {enqueued : List EventPayload}

theorem advance_lossFree (state : DeliveryState) (free : LossFree enqueued state) :
    LossFree enqueued (Ticking.advance state) := free.congr rfl rfl

theorem statement_triple {α : Type} {run : EventQueue → Timestamp → α × EventQueue}
    {pre : DeliveryState → Prop} {post : α → DeliveryState → Prop}
    {raised : Exn → DeliveryState → Prop}
    (returns : ∀ state, pre state →
      post (run state.queue (env.stamp state.tick)).1
        { state with
          tick := state.tick + 1
          queue := (run state.queue (env.stamp state.tick)).2 })
    (fails : ∀ failure state, pre state → raised failure (Ticking.advance state)) :
    Triple pre (statement env run) post raised :=
  Triple.operation returns fun failure state _ => fails failure state

theorem fetchPending_triple {limit : Nat} {pre : DeliveryState → Prop}
    {post : List QueuedEvent → DeliveryState → Prop} {raised : Exn → DeliveryState → Prop}
    (returns : limit < integerOverflow → ∀ state, pre state →
      post (state.queue.selectPending limit) (Ticking.advance state))
    (refuses : integerOverflow ≤ limit → ∀ state, pre state →
      raised (.exception tooLarge) (Ticking.advance state))
    (fails : ∀ failure state, env.fault state.tick = some failure → pre state →
      raised failure (Ticking.advance state)) :
    Triple pre (fetchPending env limit) post raised := by
  refine Triple.through (fun fetched state => ∃ start, pre start ∧
    state = Ticking.advance start ∧ fetched = start.queue.fetchPending limit)
    (Triple.operation_of_fault (fun start holds => ⟨start, holds, rfl, rfl⟩)
      fun failure state stored _ => fails failure state stored) fun fetched => ?_
  rintro _ ⟨start, holds, rfl, rfl⟩
  unfold EventQueue.fetchPending
  by_cases small : limit < integerOverflow
  · rw [if_pos small]
    exact returns small start holds
  · rw [if_neg small]
    exact refuses (Nat.le_of_not_lt small) start holds

theorem fetchPending_leaves {τ : Type} {view : DeliveryState → τ}
    (ticks : ∀ state, view (Ticking.advance state) = view state) (limit : Nat) :
    Leaves view (fetchPending env limit) :=
  fun _ => fetchPending_triple env (fun _ state same => (ticks state).trans same)
    (fun _ state same => (ticks state).trans same) fun _ state _ same => (ticks state).trans same

theorem set_preserves {edgeEventId : Str} (change : Timestamp → QueuedEvent → QueuedEvent)
    (keeps : ∀ now row, (change now row).id = row.id ∧
      (change now row).edgeEventId = row.edgeEventId)
    (payloads : ∀ now row, EnqueuedAs enqueued edgeEventId row.payload →
      EnqueuedAs enqueued edgeEventId (change now row).payload)
    (statuses : ∀ now row, (change now row).status = row.status) :
    Preserves (LossFree enqueued)
      (statement env fun queue now => ((), queue.set edgeEventId (change now) (keeps now))) := by
  refine statement_triple env ?_ fun _ => advance_lossFree
  intro state free
  refine free.set (change _) (keeps _) ?_ ?_ rfl rfl
  · intro row member target
    exact payloads _ row (target ▸ free.rows row member)
  · intro row member target done
    rw [statuses] at done
    exact target ▸ free.delivered row member done

theorem timestamp_preserves : Preserves (LossFree enqueued) (timestamp env) :=
  Triple.operation advance_lossFree fun _ state _ => advance_lossFree state

theorem markHealth_preserves (mark : HealthState → Timestamp → HealthState) :
    Preserves (LossFree enqueued) (markHealth env mark) :=
  Triple.operation (fun _ free => free.congr rfl rfl) fun _ state _ => advance_lossFree state

theorem fetchPending_lossFree (limit : Nat) :
    Triple (LossFree enqueued) (fetchPending env limit)
      (fun batch state => LossFree enqueued state ∧
        ∀ queuedEvent ∈ batch, EnqueuedAs enqueued queuedEvent.edgeEventId queuedEvent.payload)
      (fun _ => LossFree enqueued) := by
  refine fetchPending_triple env ?_ (fun _ => advance_lossFree) fun _ state _ =>
    advance_lossFree state
  intro _ state free
  refine ⟨advance_lossFree state free, fun queuedEvent member => ?_⟩
  exact free.rows queuedEvent (EventQueue.mem_of_mem_selectPending member).1

theorem updatePayload_preserves {edgeEventId : Str} {payload : EventPayload}
    (genuine : EnqueuedAs enqueued edgeEventId payload) :
    Preserves (LossFree enqueued) (updatePayload env edgeEventId payload) :=
  set_preserves env (fun _ row => { row with payload }) (fun _ _ => ⟨rfl, rfl⟩)
    (fun _ _ _ => genuine) fun _ _ => rfl

theorem markAttempt_preserves (edgeEventId : Str) (error : Option Str) :
    Preserves (LossFree enqueued) (markAttempt env edgeEventId error) :=
  set_preserves env (fun now row => row.attempted error now) (fun _ _ => ⟨rfl, rfl⟩)
    (fun _ _ => id) fun _ _ => rfl

theorem markAttempt_cloud (edgeEventId : Str) (error : Option Str) :
    Leaves DeliveryState.cloud (markAttempt env edgeEventId error) :=
  fun _ => statement_triple env (fun _ same => same) fun _ _ same => same

theorem markDelivered_lossFree (edgeEventId : Str) :
    Triple (fun state => LossFree enqueued state ∧ edgeEventId ∈ state.cloud.stored.keys)
      (markDelivered env edgeEventId) (fun _ => LossFree enqueued)
      (fun _ => LossFree enqueued) := by
  refine statement_triple env ?_ fun _ state free => advance_lossFree state free.1
  intro state both
  obtain ⟨free, known⟩ := both
  exact free.set (fun row => row.delivered (env.stamp state.tick))
    (fun _ => ⟨rfl, rfl⟩) (fun row member target => target ▸ free.rows row member)
    (fun _ _ _ _ => known) rfl rfl

theorem settle_lossFree (edgeEventId : Str) (success : Bool) :
    Triple (fun state => LossFree enqueued state ∧
        (success = true → edgeEventId ∈ state.cloud.stored.keys))
      (settle env edgeEventId success) (fun _ => LossFree enqueued)
      (fun _ => LossFree enqueued) := by
  cases success with
  | true =>
      refine Triple.bind ?_ fun _ => markHealth_preserves env _
      exact (markDelivered_lossFree env _).before fun _ => And.imp_right fun known => known rfl
  | false =>
      exact (markHealth_preserves env _).before fun _ => And.left

theorem sendPayload_lossFree (payload : EventPayload)
    (genuine : EnqueuedAs enqueued payload.edgeEventId payload) :
    Triple (LossFree enqueued) (sendPayload env payload)
      (fun result state => LossFree enqueued state ∧
        (result.success = true → payload.edgeEventId ∈ state.cloud.stored.keys))
      (fun _ => LossFree enqueued) := by
  refine Triple.through (fun reply state => LossFree enqueued state ∧
    (reply.accepted env.str = true → payload.edgeEventId ∈ state.cloud.stored.keys))
    (Triple.operation ?_ fun _ state _ => advance_lossFree state) ?_
  · intro state free
    refine ⟨(advance_lossFree state free).receive genuine, fun accepted => ?_⟩
    have stored := (env.exchange state.cloud.sent.length).honest
      (HttpReply.acknowledges_of_accepted env.str accepted)
    exact Cloud.mem_keys_receive.mpr (.inr ⟨stored, rfl⟩)
  · intro reply
    cases answer : sendPayloadResult env.str reply with
    | ok result =>
        refine Triple.pure fun state => And.imp_right fun known success => known ?_
        simpa [HttpReply.accepted, answer] using success
    | error message => exact Triple.throw fun state => And.left

theorem deliver_preserves {queuedEvent : QueuedEvent}
    (genuine : EnqueuedAs enqueued queuedEvent.edgeEventId queuedEvent.payload) :
    Preserves (LossFree enqueued) (deliver env queuedEvent) := by
  refine Triple.bind (timestamp_preserves env) fun now => ?_
  obtain ⟨original, member, identified, same⟩ := genuine
  have stamped : EnqueuedAs enqueued queuedEvent.edgeEventId
      { queuedEvent.payload with edgeSendAt := now } :=
    ⟨original, member, identified, same.stamped now⟩
  have sameId : queuedEvent.payload.edgeEventId = queuedEvent.edgeEventId :=
    same.fields.1.symm ▸ identified
  refine Triple.bind (updatePayload_preserves env stamped) fun _ => ?_
  -- A failed send is a result like any other; only a success says something.
  have sending := sendPayload_lossFree env { queuedEvent.payload with edgeSendAt := now }
    (by rw [sameId]; exact stamped)
  refine Triple.through (fun sent state => LossFree enqueued state ∧
    ((resultOf sent).success = true → queuedEvent.edgeEventId ∈ state.cloud.stored.keys))
    (Triple.attempt (sending.returning ?_) ?_ fun _ _ _ => id) fun sent => ?_
  · intro result state both
    obtain ⟨free, known⟩ := both
    exact ⟨free, fun success => sameId ▸ known success⟩
  · intro failure reason state _ free
    exact ⟨free, by simp [resultOf]⟩
  -- What is known of the cloud by then outlives the bookkeeping of the attempt.
  refine Triple.bind ((markAttempt_cloud env _ _).frame (fun cloud =>
    (resultOf sent).success = true → queuedEvent.edgeEventId ∈ cloud.stored.keys)
      (markAttempt_preserves env _ _) |>.raising fun _ _ => And.left)
    fun _ => ?_
  exact Triple.bind (settle_lossFree env _ _) fun _ => Triple.pure fun _ => id

theorem deliverBatch_preserves {batch : List QueuedEvent} (deliveredCount : Nat)
    (genuine : ∀ queuedEvent ∈ batch,
      EnqueuedAs enqueued queuedEvent.edgeEventId queuedEvent.payload) :
    Preserves (LossFree enqueued) (deliverBatch env batch deliveredCount) := by
  induction batch generalizing deliveredCount with
  | nil => exact Preserves.pure _
  | cons queuedEvent rest ih =>
      refine Preserves.bind (deliver_preserves env (genuine _ List.mem_cons_self))
        fun delivered => ?_
      exact ih _ fun other member => genuine other (List.mem_cons_of_mem _ member)

theorem processPendingDeliveries_preserves (batchSize : Nat) :
    Preserves (LossFree enqueued) (processPendingDeliveries env batchSize) := by
  refine Triple.bind (fetchPending_lossFree env batchSize) fun batch => ?_
  intro state both
  obtain ⟨free, genuine⟩ := both
  exact deliverBatch_preserves env 0 genuine state free

end Delivery

namespace DeliveryMove

variable (env : DeliveryEnv)

theorem enqueue_lossFree {enqueued : List EventPayload} {payload : EventPayload}
    (fresh : payload.edgeEventId ∉ enqueued.map (·.edgeEventId)) :
    Triple (LossFree enqueued) (Delivery.enqueue env payload)
      (fun _ => LossFree (enqueued ++ [payload])) (fun _ => LossFree enqueued) :=
  Delivery.statement_triple env
    (fun state free => (Delivery.advance_lossFree state free).enqueue fresh)
    fun _ => Delivery.advance_lossFree

theorem step_lossFree {run : List EventPayload × DeliveryState} (free : LossFree run.1 run.2)
    {move : DeliveryMove}
    (fresh : ∀ payload ∈ move.payloads, payload.edgeEventId ∉ run.1.map (·.edgeEventId)) :
    LossFree (step env run move).1 (step env run move).2 := by
  have moved : Triple (LossFree run.1) (move.run env)
      (fun _ => LossFree (run.1 ++ move.payloads)) (fun _ => LossFree run.1) := by
    cases move with
    | enqueue payload => exact enqueue_lossFree env (fresh payload (by simp [payloads]))
    | process batchSize =>
        rw [payloads, List.append_nil]
        exact Triple.bind (Delivery.processPendingDeliveries_preserves env batchSize)
          fun _ => Triple.pure fun _ => id
    | restart =>
        rw [payloads, List.append_nil]
        exact Triple.modify fun _ free => free.congr rfl rfl
  have outcome := moved run.2 free
  unfold step
  cases ran : move.run env run.2 with
  | ok value next =>
      rw [ran] at outcome
      exact outcome
  | error failure next =>
      rw [ran] at outcome
      exact outcome

theorem runAll_lossFree {moves : List DeliveryMove} (fresh : Fresh moves) :
    LossFree (runAll env moves).1 (runAll env moves).2 := by
  induction moves using List.reverseRecOn with
  | nil => exact .empty
  | append_singleton moves move ih =>
      rw [Fresh, List.flatMap_append, List.flatMap_singleton, List.map_append,
        List.nodup_append] at fresh
      rw [runAll_concat]
      refine step_lossFree env (ih fresh.1) fun payload member known => ?_
      have earlier := ((enqueued_sublist env moves).map (·.edgeEventId)).subset known
      exact fresh.2.2 _ earlier _ (List.mem_map.mpr ⟨payload, member, rfl⟩) rfl

/-- Store-and-forward loses nothing, sends nothing but what was enqueued, and a
cloud that keeps one event for each identifier ends up with each event once. -/
theorem store_and_forward {moves : List DeliveryMove} (fresh : Fresh moves) :
    let enqueued := (runAll env moves).1
    let state := (runAll env moves).2
    (enqueued.map (·.edgeEventId)).Nodup ∧
    (∀ payload ∈ enqueued,
      ∃! row, row ∈ state.queue.rows ∧ row.edgeEventId = payload.edgeEventId) ∧
    (∀ row ∈ state.queue.rows, (row.status = .PENDING ∨ row.status = .DELIVERED) ∧
      EnqueuedAs enqueued row.edgeEventId row.payload ∧
      (row.status = .DELIVERED → row.edgeEventId ∈ state.cloud.stored.keys)) ∧
    (∀ payload ∈ state.cloud.sent, EnqueuedAs enqueued payload.edgeEventId payload) ∧
    state.cloud.stored.keys.Nodup ∧
    (∀ edgeEventId payload, state.cloud.stored.get? edgeEventId = some payload →
      EnqueuedAs enqueued edgeEventId payload) := by
  intro enqueued state
  have free := runAll_lossFree env fresh
  refine ⟨fresh.sublist ((enqueued_sublist env moves).map _), ?_, ?_, free.sent,
    state.cloud.stored.distinct, free.stored⟩
  · intro payload member
    obtain ⟨row, known, same⟩ := List.mem_map.mp (free.kept payload member)
    refine ⟨row, ⟨known, same⟩, ?_⟩
    intro other both
    obtain ⟨otherKnown, otherSame⟩ := both
    exact EventQueue.eq_of_edgeEventId_eq otherKnown known (otherSame.trans same.symm)
  · intro row member
    refine ⟨?_, free.rows row member, free.delivered row member⟩
    cases row.status <;> simp

end DeliveryMove

def lostReply : Exchange := ⟨.raised (.requestException []), true, by simp [HttpReply.acknowledges]⟩

def storedReply : Exchange where
  reply := .response 201 (.ok []) (.ok (.obj [("status".toList, .str "stored".toList)]))
  stored := true
  honest := fun _ => rfl

def calmEnv (exchange : Nat → Exchange) : DeliveryEnv where
  fault := fun _ => none
  stamp := id
  exchange
  str := fun _ => []

/-- One event, sent twice because the first answer is lost. -/
theorem DeliveryMove.store_and_forward_retry :
    let moves := [enqueue (samplePayload "1".toList .ENTER), process 1, process 1]
    let env := calmEnv fun sends => if sends = 0 then lostReply else storedReply
    Fresh moves ∧ (runAll env moves).2.cloud.sent.length = 2 ∧
      (runAll env moves).2.cloud.stored.keys.Nodup ∧
      ∃! row, row ∈ (runAll env moves).2.queue.rows ∧ row.edgeEventId = "1".toList := by
  intro moves env
  have fresh : Fresh moves := by decide
  obtain ⟨-, oneRow, -, -, once, -⟩ := store_and_forward env fresh
  exact ⟨fresh, by decide +kernel, once,
    oneRow (samplePayload "1".toList .ENTER) (by decide +kernel)⟩

end MvdEdge
