import MvdEdge.Storage.Queue

/-! What `fetch_pending` selects: the pending rows in the order of creation
time and id, up to the limit. -/

set_option autoImplicit false

namespace MvdEdge.EventQueue

/-- Strictly before in the order `created_at asc, id asc`. -/
def Precedes (left right : QueuedEvent) : Prop :=
  left.createdAt < right.createdAt ∨ (left.createdAt = right.createdAt ∧ left.id < right.id)

def delivered (queue : EventQueue) : List QueuedEvent :=
  queue.rows.filter fun row => decide (row.status = .DELIVERED)

theorem pendingCount_add_delivered (queue : EventQueue) :
    queue.pendingCount + queue.delivered.length = queue.rows.length := by
  have others : queue.delivered = queue.rows.filter fun row => !decide (row.status = .PENDING) := by
    apply List.filter_congr
    intro row _
    cases row.status <;> rfl
  rw [others, pendingCount, pending, ← List.length_eq_length_filter_add]

/-- The first `limit` pending rows of the table in that order. -/
structure Oldest (queue : EventQueue) (limit : Nat) (batch : List QueuedEvent) : Prop where
  size : batch.length = min limit queue.pendingCount
  ordered : batch.Pairwise Precedes
  pending : ∀ row ∈ batch, row ∈ queue.rows ∧ row.status = .PENDING
  first : ∀ row ∈ batch, ∀ other ∈ queue.rows, other.status = .PENDING → other ∉ batch →
    Precedes row other

instance : Std.Total CreatedBefore where
  total left right := by
    rcases Nat.lt_trichotomy left.createdAt right.createdAt with less | same | more
    · exact .inl (.inl less)
    · cases Nat.le_total left.id right.id with
      | inl le => exact .inl (.inr ⟨same, le⟩)
      | inr le => exact .inr (.inr ⟨same.symm, le⟩)
    · exact .inr (.inl more)

instance : IsTrans QueuedEvent CreatedBefore where
  trans first second third before after := by
    unfold CreatedBefore at *
    grind

theorem mem_pending_iff {queue : EventQueue} {row : QueuedEvent} :
    row ∈ queue.pending ↔ row ∈ queue.rows ∧ row.status = .PENDING := by
  simp [pending]

/-- The pending rows as `fetch_pending` orders them. -/
def inOrder (queue : EventQueue) : List QueuedEvent :=
  queue.pending.insertionSort CreatedBefore

theorem mem_inOrder_iff {queue : EventQueue} {row : QueuedEvent} :
    row ∈ queue.inOrder ↔ row ∈ queue.rows ∧ row.status = .PENDING := by
  rw [inOrder, List.mem_insertionSort, mem_pending_iff]

theorem length_inOrder (queue : EventQueue) : queue.inOrder.length = queue.pendingCount :=
  List.length_insertionSort _ _

theorem ids_nodup (queue : EventQueue) : (queue.inOrder.map (·.id)).Nodup := by
  have pending : (queue.pending.map (·.id)).Nodup := by
    rw [List.nodup_iff_pairwise_ne, List.pairwise_map]
    exact (queue.increasing.filter _).imp Nat.ne_of_lt
  exact ((List.perm_insertionSort _ _).map _).nodup_iff.mpr pending

theorem inOrder_pairwise (queue : EventQueue) : queue.inOrder.Pairwise Precedes := by
  have distinct : queue.inOrder.Pairwise fun earlier later => earlier.id ≠ later.id := by
    simpa [List.nodup_iff_pairwise_ne, List.pairwise_map] using queue.ids_nodup
  have sorted : queue.inOrder.Pairwise CreatedBefore := List.pairwise_insertionSort _ _
  refine (sorted.and distinct).imp ?_
  intro earlier later both
  obtain ⟨before, apart⟩ := both
  exact before.imp_right fun same => ⟨same.1, Nat.lt_of_le_of_ne same.2 apart⟩

theorem selectPending_oldest (queue : EventQueue) (limit : Nat) :
    queue.Oldest limit (queue.selectPending limit) where
  size := by rw [selectPending, List.length_take, ← length_inOrder, inOrder]
  ordered := queue.inOrder_pairwise.sublist (List.take_sublist _ _)
  pending := fun _ => mem_of_mem_selectPending
  first := by
    intro row selected other member waiting left
    have ordered := queue.inOrder_pairwise
    rw [← List.take_append_drop limit queue.inOrder, List.pairwise_append] at ordered
    have behind : other ∈ queue.inOrder.take limit ++ queue.inOrder.drop limit := by
      rw [List.take_append_drop]
      exact mem_inOrder_iff.mpr ⟨member, waiting⟩
    cases List.mem_append.mp behind with
    | inl early => exact absurd early left
    | inr late => exact ordered.2.2 row selected other late

theorem Oldest.nodup {queue : EventQueue} {limit : Nat} {batch : List QueuedEvent}
    (oldest : queue.Oldest limit batch) : batch.Nodup := by
  rw [List.nodup_iff_pairwise_ne]
  refine oldest.ordered.imp ?_
  intro earlier later before same
  subst same
  cases before with
  | inl less => exact Nat.lt_irrefl _ less
  | inr less => exact Nat.lt_irrefl _ less.2

/-- Batches follow the ids exactly as far as the creation times do. -/
theorem selectPending_eq_take_iff (queue : EventQueue) :
    (∀ limit, queue.selectPending limit = queue.pending.take limit) ↔
      queue.pending.Pairwise fun earlier later => earlier.createdAt ≤ later.createdAt := by
  constructor
  · intro follows
    have everything := follows queue.pending.length
    rw [selectPending, List.take_of_length_le (by simp), List.take_of_length_le le_rfl]
      at everything
    have ordered := queue.inOrder_pairwise
    rw [inOrder, everything] at ordered
    refine ordered.imp ?_
    intro earlier later before
    cases before with
    | inl less => exact Nat.le_of_lt less
    | inr same => exact Nat.le_of_eq same.1
  · intro created limit
    have sorted : queue.pending.Pairwise CreatedBefore := by
      refine (created.and (queue.increasing.filter _)).imp ?_
      intro earlier later both
      obtain ⟨le, less⟩ := both
      cases Nat.lt_or_eq_of_le le with
      | inl older => exact .inl older
      | inr same => exact .inr ⟨same, Nat.le_of_lt less⟩
    rw [selectPending, List.Pairwise.insertionSort_eq sorted]

/-- What the order of a batch looks at. -/
def place (row : QueuedEvent) : Timestamp × Nat := (row.createdAt, row.id)

def PlacedBefore (left right : Timestamp × Nat) : Prop :=
  left.1 < right.1 ∨ (left.1 = right.1 ∧ left.2 ≤ right.2)

instance (left right : Timestamp × Nat) : Decidable (PlacedBefore left right) :=
  inferInstanceAs (Decidable (_ ∨ _))

theorem map_place_selectPending (queue : EventQueue) (limit : Nat) :
    (queue.selectPending limit).map place =
      ((queue.pending.map place).insertionSort PlacedBefore).take limit := by
  rw [selectPending, List.map_take]
  congr 1
  apply List.map_insertionSort
  intro left _ right _
  exact Iff.rfl

/-- Changes that leave places and statuses alone leave the batches alone. -/
theorem map_place_selectPending_congr {queue next : EventQueue}
    (same : List.Forall₂ (fun row after => place after = place row ∧ after.status = row.status)
      queue.rows next.rows) (limit : Nat) :
    (next.selectPending limit).map place = (queue.selectPending limit).map place := by
  have pending : next.pending.map place = queue.pending.map place := by
    unfold pending
    generalize queue.rows = before at same ⊢
    generalize next.rows = after at same ⊢
    induction same with
    | nil => rfl
    | cons head rest ih =>
        rw [List.filter_cons, List.filter_cons, head.2]
        split
        · rw [List.map_cons, List.map_cons, head.1, ih]
        · exact ih
  rw [map_place_selectPending, map_place_selectPending, pending]

theorem mem_selectPending_of_place {queue : EventQueue} {limit : Nat} {row : QueuedEvent}
    (known : row ∈ queue.rows) (placed : place row ∈ (queue.selectPending limit).map place) :
    row ∈ queue.selectPending limit := by
  obtain ⟨other, fetched, same⟩ := List.mem_map.mp placed
  have ids : (queue.rows.map (·.id)).Nodup := by
    rw [List.nodup_iff_pairwise_ne, List.pairwise_map]
    exact queue.increasing.imp Nat.ne_of_lt
  have stored := (mem_of_mem_selectPending fetched).1
  exact List.inj_on_of_nodup_map ids stored known (congrArg Prod.snd same) ▸ fetched

end MvdEdge.EventQueue
