import MvdEdge.Storage.Batch
import MvdEdge.Lib.Firsts
import Mathlib.Data.Finset.Dedup
import Mathlib.Data.Finset.Card

/-! Runs of the event queue under any sequence of its operations. What the
table holds is a function of the operations: one row for each id, created by
the first `enqueue` of the id and delivered by a later mark. -/

set_option autoImplicit false

namespace MvdEdge

open Lib

inductive QueueMove where
  | enqueue (payload : EventPayload) (now : Timestamp)
  | updatePayload (edgeEventId : Str) (payload : EventPayload)
  | markAttempt (edgeEventId : Str) (error : Option Str) (now : Timestamp)
  | markDelivered (edgeEventId : Str) (now : Timestamp)
  | reopen

def samplePayload (edgeEventId : Str) (event : EventType) : EventPayload where
  edgeEventId
  event
  epc := "A".toList
  readerId := "R".toList
  customerId := none
  siteId := none
  deviceId := none
  applicationProfile := none
  locationId := none
  zoneId := none
  timestamp := 0
  edgeEventAt := 0
  edgeSendAt := 0

namespace EventQueue

/-- `create table if not exists`, on a file that has the table. -/
def initializeSchema (queue : EventQueue) : EventQueue := queue

def apply (queue : EventQueue) : QueueMove → EventQueue
  | .enqueue payload now => queue.enqueue payload now
  | .updatePayload edgeEventId payload => queue.updatePayload edgeEventId payload
  | .markAttempt edgeEventId error now => queue.markAttempt edgeEventId error now
  | .markDelivered edgeEventId now => queue.markDelivered edgeEventId now
  | .reopen => queue.initializeSchema

def run (moves : List QueueMove) : EventQueue := moves.foldl apply empty

theorem run_concat (moves : List QueueMove) (last : QueueMove) :
    run (moves ++ [last]) = (run moves).apply last := by
  simp [run]

end EventQueue

/-! ## What the operations say -/

namespace QueueMove

def enqueued : QueueMove → Option (Str × Timestamp)
  | .enqueue payload now => some (payload.edgeEventId, now)
  | _ => none

def enqueues (edgeEventId : Str) (move : QueueMove) : Bool :=
  move.enqueued.any fun entry => decide (entry.1 = edgeEventId)

def delivers (edgeEventId : Str) : QueueMove → Bool
  | .markDelivered target _ => decide (target = edgeEventId)
  | _ => false

/-- The ids in the order of their first `enqueue`, with the clock's reading there. -/
def entries (moves : List QueueMove) : List (Str × Timestamp) :=
  firsts (·.1) (moves.filterMap enqueued)

/-- `mark_delivered` was called on the id after its first `enqueue`. -/
def settled (moves : List QueueMove) (edgeEventId : Str) : Bool :=
  markedSince (enqueues edgeEventId) (delivers edgeEventId) moves

def unsettled (moves : List QueueMove) : List (Str × Timestamp) :=
  (entries moves).filter fun entry => !settled moves entry.1

theorem any_enqueues_iff {moves : List QueueMove} {edgeEventId : Str} :
    moves.any (enqueues edgeEventId) = true ↔ edgeEventId ∈ (entries moves).map (·.1) := by
  rw [entries, mem_map_firsts]
  simp only [List.any_eq_true, enqueues, Option.any_eq_true, decide_eq_true_eq, List.mem_map,
    List.mem_filterMap]
  constructor
  · intro found
    obtain ⟨move, member, entry, made, same⟩ := found
    exact ⟨entry, ⟨move, member, made⟩, same⟩
  · intro found
    obtain ⟨entry, both, same⟩ := found
    obtain ⟨move, member, made⟩ := both
    exact ⟨move, member, entry, made, same⟩

theorem entries_concat_of_none {moves : List QueueMove} {last : QueueMove}
    (silent : last.enqueued = none) : entries (moves ++ [last]) = entries moves := by
  simp [entries, silent]

theorem entries_concat_enqueue (moves : List QueueMove) (payload : EventPayload)
    (now : Timestamp) :
    entries (moves ++ [.enqueue payload now]) =
      if payload.edgeEventId ∈ (entries moves).map (·.1) then entries moves
      else entries moves ++ [(payload.edgeEventId, now)] := by
  have appended : (moves ++ [QueueMove.enqueue payload now]).filterMap enqueued =
      moves.filterMap enqueued ++ [(payload.edgeEventId, now)] := by
    simp [enqueued]
  by_cases known : payload.edgeEventId ∈ (entries moves).map (·.1)
  · rw [if_pos known, entries, appended]
    exact firsts_concat_of_mem (mem_map_firsts.mp known)
  · rw [if_neg known, entries, appended]
    exact firsts_concat_of_not_mem fun member => known (mem_map_firsts.mpr member)

theorem entries_extends (moves later : List QueueMove) :
    entries moves <+: entries (moves ++ later) := by
  induction later using List.reverseRecOn with
  | nil => simp
  | append_singleton later last ih =>
      rw [← List.append_assoc]
      cases last with
      | enqueue payload now =>
          rw [entries_concat_enqueue]
          split
          · exact ih
          · exact ih.trans (List.prefix_append _ _)
      | updatePayload => rwa [entries_concat_of_none rfl]
      | markAttempt => rwa [entries_concat_of_none rfl]
      | markDelivered => rwa [entries_concat_of_none rfl]
      | reopen => rwa [entries_concat_of_none rfl]

theorem settled_concat_of_not_delivers {moves : List QueueMove} {last : QueueMove}
    {edgeEventId : Str} (silent : last.delivers edgeEventId = false) :
    settled (moves ++ [last]) edgeEventId = settled moves edgeEventId := by
  rw [settled, markedSince_concat, silent, Bool.and_false, Bool.or_false, settled]

theorem settled_concat_delivers {moves : List QueueMove} {edgeEventId : Str}
    (known : edgeEventId ∈ (entries moves).map (·.1)) (now : Timestamp) :
    settled (moves ++ [.markDelivered edgeEventId now]) edgeEventId = true := by
  rw [settled, markedSince_concat, any_enqueues_iff.mpr known]
  simp [delivers]

theorem mem_entries_of_settled {moves : List QueueMove} {edgeEventId : Str}
    (marked : settled moves edgeEventId = true) : edgeEventId ∈ (entries moves).map (·.1) :=
  any_enqueues_iff.mp (markedSince_started marked)

theorem settled_append {moves : List QueueMove} {edgeEventId : Str}
    (marked : settled moves edgeEventId = true) (later : List QueueMove) :
    settled (moves ++ later) edgeEventId = true := by
  induction later using List.reverseRecOn with
  | nil => simpa using marked
  | append_singleton later last ih =>
      rw [← List.append_assoc, settled, markedSince_concat, ← settled, ih, Bool.true_or]

end QueueMove

/-! ## The table tells the operations -/

namespace EventQueue

open QueueMove

structure Tells (moves : List QueueMove) (queue : EventQueue) : Prop where
  entries : queue.rows.map (fun row => (row.edgeEventId, row.createdAt)) = entries moves
  status : ∀ row ∈ queue.rows,
    row.status = .DELIVERED ↔ settled moves row.edgeEventId = true
  stamped : ∀ row ∈ queue.rows, row.status = .DELIVERED → row.deliveredAt.isSome = true

theorem Tells.known {moves : List QueueMove} {queue : EventQueue} (tells : queue.Tells moves) :
    queue.rows.map (·.edgeEventId) = (QueueMove.entries moves).map (·.1) := by
  rw [← tells.entries, List.map_map]
  rfl

theorem Tells.mem_entries {moves : List QueueMove} {queue : EventQueue}
    (tells : queue.Tells moves) {row : QueuedEvent} (member : row ∈ queue.rows) :
    row.edgeEventId ∈ (QueueMove.entries moves).map (·.1) :=
  tells.known ▸ List.mem_map_of_mem member

/-- A statement on rows that neither delivers nor takes a delivery back. -/
theorem Tells.set {moves : List QueueMove} {queue : EventQueue} (tells : queue.Tells moves)
    {last : QueueMove} (edgeEventId : Str) (change : QueuedEvent → QueuedEvent)
    (keeps : ∀ row, (change row).id = row.id ∧ (change row).edgeEventId = row.edgeEventId)
    (unnamed : last.enqueued = none) (silent : ∀ other, last.delivers other = false)
    (created : ∀ row, (change row).createdAt = row.createdAt)
    (status : ∀ row, (change row).status = row.status)
    (stamp : ∀ row, (change row).deliveredAt = row.deliveredAt) :
    (queue.set edgeEventId change keeps).Tells (moves ++ [last]) where
  entries := by
    rw [entries_concat_of_none unnamed, ← tells.entries]
    apply map_set
    intro row
    rw [(keeps row).2, created row]
  status := by
    intro row member
    rw [settled_concat_of_not_delivers (silent _)]
    cases mem_set_iff.mp member with
    | inl changed =>
        obtain ⟨old, oldMember, _, rfl⟩ := changed
        rw [status old, (keeps old).2]
        exact tells.status old oldMember
    | inr kept => exact tells.status row kept.1
  stamped := by
    intro row member
    cases mem_set_iff.mp member with
    | inl changed =>
        obtain ⟨old, oldMember, _, rfl⟩ := changed
        rw [status old, stamp old]
        exact tells.stamped old oldMember
    | inr kept => exact tells.stamped row kept.1

theorem Tells.markDelivered {moves : List QueueMove} {queue : EventQueue}
    (tells : queue.Tells moves) (edgeEventId : Str) (now : Timestamp) :
    (queue.markDelivered edgeEventId now).Tells (moves ++ [.markDelivered edgeEventId now]) where
  entries := by
    rw [entries_concat_of_none rfl, ← tells.entries]
    apply map_set
    intro _
    rfl
  status := by
    intro row member
    cases mem_set_iff.mp member with
    | inl changed =>
        obtain ⟨old, oldMember, same, rfl⟩ := changed
        have marked := settled_concat_delivers (same ▸ tells.mem_entries oldMember) now
        constructor
        · intro _
          exact same ▸ marked
        · intro _
          rfl
    | inr kept =>
        have silent : (QueueMove.markDelivered edgeEventId now).delivers row.edgeEventId =
            false := by
          simpa [delivers] using Ne.symm kept.2
        rw [settled_concat_of_not_delivers silent]
        exact tells.status row kept.1
  stamped := by
    intro row member
    cases mem_set_iff.mp member with
    | inl changed =>
        obtain ⟨old, _, _, rfl⟩ := changed
        intro _
        rfl
    | inr kept => exact tells.stamped row kept.1

theorem Tells.enqueue {moves : List QueueMove} {queue : EventQueue} (tells : queue.Tells moves)
    (payload : EventPayload) (now : Timestamp) :
    (queue.enqueue payload now).Tells (moves ++ [.enqueue payload now]) where
  entries := by
    rw [entries_concat_enqueue, ← tells.known]
    unfold EventQueue.enqueue
    by_cases known : payload.edgeEventId ∈ queue.rows.map (·.edgeEventId)
    · rw [dif_pos known, if_pos known]
      exact tells.entries
    · rw [dif_neg known, if_neg known, List.map_append, tells.entries]
      rfl
  status := by
    intro row member
    rw [settled_concat_of_not_delivers rfl]
    cases mem_enqueue_iff.mp member with
    | inl old => exact tells.status row old
    | inr new =>
        obtain ⟨unknown, rfl⟩ := new
        -- An id without a row was never enqueued, so no mark on it counts.
        have unmarked : settled moves payload.edgeEventId ≠ true := by
          intro marked
          exact unknown (tells.known ▸ mem_entries_of_settled marked)
        simpa using unmarked
  stamped := by
    intro row member
    cases mem_enqueue_iff.mp member with
    | inl old => exact tells.stamped row old
    | inr new =>
        obtain ⟨_, rfl⟩ := new
        simp

theorem Tells.apply {moves : List QueueMove} {queue : EventQueue} (tells : queue.Tells moves)
    (last : QueueMove) : (queue.apply last).Tells (moves ++ [last]) := by
  cases last with
  | enqueue payload now => exact tells.enqueue payload now
  | updatePayload edgeEventId payload =>
      exact tells.set edgeEventId ({ · with payload }) (fun _ => ⟨rfl, rfl⟩) rfl (fun _ => rfl)
        (fun _ => rfl) (fun _ => rfl) fun _ => rfl
  | markAttempt edgeEventId error now =>
      exact tells.set edgeEventId (·.attempted error now) (fun _ => ⟨rfl, rfl⟩) rfl (fun _ => rfl)
        (fun _ => rfl) (fun _ => rfl) fun _ => rfl
  | markDelivered edgeEventId now => exact tells.markDelivered edgeEventId now
  | reopen =>
      constructor
      · rw [entries_concat_of_none rfl]
        exact tells.entries
      · intro row member
        rw [settled_concat_of_not_delivers rfl]
        exact tells.status row member
      · exact tells.stamped

theorem run_tells (moves : List QueueMove) : (run moves).Tells moves := by
  induction moves using List.reverseRecOn with
  | nil => exact ⟨rfl, by simp [run, empty], by simp [run, empty]⟩
  | append_singleton moves last ih =>
      rw [run_concat]
      exact ih.apply last

/-! ## What the table promises -/

theorem set_of_unknown {queue : EventQueue} {edgeEventId : Str}
    (unknown : edgeEventId ∉ queue.rows.map (·.edgeEventId)) (change : QueuedEvent → QueuedEvent)
    (keeps : ∀ row, (change row).id = row.id ∧ (change row).edgeEventId = row.edgeEventId) :
    queue.set edgeEventId change keeps = queue := by
  have same : queue.rows.map
      (fun row => if row.edgeEventId = edgeEventId then change row else row) = queue.rows := by
    conv_rhs => rw [← List.map_id queue.rows]
    apply List.map_congr_left
    intro row member
    exact if_neg fun named => unknown (List.mem_map.mpr ⟨row, member, named⟩)
  cases queue with
  | mk rows nextId increasing allocated unique =>
      simp only [set]
      congr

theorem get_of_unknown {queue : EventQueue} {edgeEventId : Str}
    (unknown : edgeEventId ∉ queue.rows.map (·.edgeEventId)) : queue.get edgeEventId = none := by
  rw [get, List.find?_eq_none]
  intro row member same
  exact unknown (List.mem_map.mpr ⟨row, member, by simpa using same⟩)

/-- A table after `moves`, in terms of the operations alone. -/
structure Accounts (moves : List QueueMove) (queue : EventQueue) : Prop where
  /-- One row for each id ever enqueued, with its first creation time. -/
  rows : queue.rows.map (fun row => (row.edgeEventId, row.createdAt)) = QueueMove.entries moves
  distinct : (queue.rows.map (·.edgeEventId)).Nodup
  delivered : ∀ row ∈ queue.rows,
    row.status = .DELIVERED ↔ settled moves row.edgeEventId = true
  stamped : ∀ row ∈ queue.rows, row.status = .DELIVERED → row.deliveredAt.isSome = true
  pendingCount : queue.pendingCount =
    ((moves.filterMap enqueued).map (·.1)).toFinset.card - queue.delivered.length
  unknown : ∀ edgeEventId, edgeEventId ∉ (moves.filterMap enqueued).map (·.1) →
    queue.get edgeEventId = none ∧
    (∀ payload, queue.updatePayload edgeEventId payload = queue) ∧
    (∀ error now, queue.markAttempt edgeEventId error now = queue) ∧
    ∀ now, queue.markDelivered edgeEventId now = queue
  batch : ∀ limit < integerOverflow, ∃ batch, queue.fetchPending limit = .ok batch ∧
    queue.Oldest limit batch ∧ batch.Nodup

theorem Tells.accounts {moves : List QueueMove} {queue : EventQueue}
    (tells : queue.Tells moves) : queue.Accounts moves where
  rows := tells.entries
  distinct := queue.unique
  delivered := tells.status
  stamped := tells.stamped
  pendingCount := by
    have names : ((moves.filterMap enqueued).map (·.1)).toFinset =
        ((QueueMove.entries moves).map (·.1)).toFinset := by
      ext name
      rw [List.mem_toFinset, List.mem_toFinset, QueueMove.entries, mem_map_firsts]
    have rows : queue.rows.length = ((QueueMove.entries moves).map (·.1)).length := by
      rw [← tells.known, List.length_map]
    have distinct : ((QueueMove.entries moves).map (·.1)).Nodup := nodup_map_firsts _ _
    rw [names, List.toFinset_card_of_nodup distinct, ← rows,
      ← pendingCount_add_delivered, Nat.add_sub_cancel]
  unknown := by
    intro edgeEventId never
    have unknown : edgeEventId ∉ queue.rows.map (·.edgeEventId) := by
      rw [tells.known, QueueMove.entries, mem_map_firsts]
      exact never
    exact ⟨get_of_unknown unknown, fun _ => set_of_unknown unknown _ _,
      fun _ _ => set_of_unknown unknown _ _, fun _ => set_of_unknown unknown _ _⟩
  batch := fun limit small => ⟨_, if_pos small, queue.selectPending_oldest limit,
    (queue.selectPending_oldest limit).nodup⟩

theorem run_accounts (moves : List QueueMove) :
    (run moves).Accounts moves ∧
      ∀ later, ∀ row ∈ (run moves).rows, row.status = .DELIVERED →
        (∃ still ∈ (run (moves ++ later)).rows, still.edgeEventId = row.edgeEventId ∧
          still.createdAt = row.createdAt ∧ still.status = .DELIVERED ∧
          still.deliveredAt.isSome = true) ∧
        ∀ limit batch, (run (moves ++ later)).fetchPending limit = .ok batch →
          ∀ fetched ∈ batch, fetched.edgeEventId ≠ row.edgeEventId := by
  refine ⟨(run_tells moves).accounts, ?_⟩
  intro later row member delivered
  have known : (row.edgeEventId, row.createdAt) ∈ QueueMove.entries (moves ++ later) := by
    apply (entries_extends moves later).subset
    rw [← (run_tells moves).entries]
    exact List.mem_map.mpr ⟨row, member, rfl⟩
  have marked := settled_append (((run_tells moves).status row member).mp delivered) later
  have after := run_tells (moves ++ later)
  rw [← after.entries] at known
  obtain ⟨still, kept, same⟩ := List.mem_map.mp known
  obtain ⟨name, created⟩ := Prod.mk.inj same
  have status : still.status = .DELIVERED := (after.status still kept).mpr (name ▸ marked)
  constructor
  · exact ⟨still, kept, name, created, status, after.stamped still kept status⟩
  · intro limit batch answer fetched member again
    have selected : fetched ∈ (run (moves ++ later)).selectPending limit := by
      unfold fetchPending at answer
      split at answer
      · exact Except.ok.inj answer ▸ member
      · exact nomatch answer
    obtain ⟨stored, pending⟩ := mem_of_mem_selectPending selected
    obtain rfl := eq_of_edgeEventId_eq stored kept (again.trans name.symm)
    simp [status] at pending

/-- SQLite has no integer for a limit of 2^63. -/
theorem fetchPending_refused : ¬ ∀ (moves : List QueueMove) (limit : Nat),
    ∃ batch, (run moves).fetchPending limit = .ok batch := by
  intro claim
  obtain ⟨batch, answer⟩ := claim [.enqueue (samplePayload "1".toList .ENTER) 0] (2 ^ 63)
  exact nomatch answer

/-! ## Batches and the order of the enqueues -/

theorem eq_of_map_edgeEventId_eq {queue : EventQueue} {left right : List QueuedEvent}
    (leftRows : ∀ row ∈ left, row ∈ queue.rows) (rightRows : ∀ row ∈ right, row ∈ queue.rows)
    (same : left.map (·.edgeEventId) = right.map (·.edgeEventId)) : left = right := by
  induction left generalizing right with
  | nil => exact (List.map_eq_nil_iff.mp same.symm).symm
  | cons row left ih =>
      cases right with
      | nil => simp at same
      | cons other right =>
          obtain ⟨name, names⟩ := List.cons.inj same
          have head : row = other := eq_of_edgeEventId_eq (leftRows row List.mem_cons_self)
            (rightRows other List.mem_cons_self) name
          have tail : left = right := by
            apply ih _ _ names
            · intro later member
              exact leftRows later (List.mem_cons_of_mem _ member)
            · intro later member
              exact rightRows later (List.mem_cons_of_mem _ member)
          rw [head, tail]

theorem Tells.pending_entries {moves : List QueueMove} {queue : EventQueue}
    (tells : queue.Tells moves) :
    queue.pending.map (fun row => (row.edgeEventId, row.createdAt)) = unsettled moves := by
  rw [unsettled, ← tells.entries, List.filter_map, pending]
  congr 1
  apply List.filter_congr
  intro row member
  have told := tells.status row member
  cases status : row.status with
  | PENDING =>
      have unmarked : settled moves row.edgeEventId ≠ true := fun marked => by
        simp [status] at told
        simp [told] at marked
      simpa using unmarked
  | DELIVERED => simp [told.mp status]

/-- The batches follow the order of the enqueues for as long as the clock does,
on the events that still wait. -/
theorem fetchPending_in_enqueue_order_iff (moves : List QueueMove) :
    (∀ limit < integerOverflow,
      (run moves).fetchPending limit = .ok ((run moves).selectPending limit)) ∧
    ((∀ limit, ((run moves).selectPending limit).map (·.edgeEventId) =
      ((unsettled moves).map (·.1)).take limit) ↔
      (unsettled moves).Pairwise fun earlier later => earlier.2 ≤ later.2) := by
  refine ⟨fun limit small => if_pos small, ?_⟩
  have entries := (run_tells moves).pending_entries
  have names : (unsettled moves).map (·.1) = (run moves).pending.map (·.edgeEventId) := by
    rw [← entries, List.map_map]
    rfl
  have times : ((unsettled moves).Pairwise fun earlier later => earlier.2 ≤ later.2) ↔
      (run moves).pending.Pairwise fun earlier later => earlier.createdAt ≤ later.createdAt := by
    rw [← entries, List.pairwise_map]
  rw [times, ← selectPending_eq_take_iff, names]
  apply forall_congr'
  intro limit
  rw [← List.map_take]
  constructor
  · apply eq_of_map_edgeEventId_eq
    · intro row selected
      exact (mem_of_mem_selectPending selected).1
    · intro row selected
      exact (mem_pending_iff.mp (List.mem_of_mem_take selected)).1
  · intro same
    rw [same]

/-- The clock is set back by a millisecond between the two events of one tag. -/
theorem fetchPending_after_clock_correction :
    let moves := [QueueMove.enqueue (samplePayload "1".toList .ENTER) 1000,
      .enqueue (samplePayload "2".toList .EXIT) 999]
    ((moves.filterMap enqueued).map (·.1)).Nodup ∧
      ((run moves).fetchPending 10).map (List.map (·.payload.event)) = .ok [.EXIT, .ENTER] ∧
      ((run moves).fetchPending 10).map (List.map (·.edgeEventId)) ≠
        .ok (((unsettled moves).map (·.1)).take 10) := by
  decide +kernel

end EventQueue

end MvdEdge
