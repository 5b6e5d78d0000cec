import MvdEdge.App.Schedule

/-! What the schedule says of its journals, whatever the clock reads: how far apart the
attempts to connect and the heartbeats are, and that no turn ends with work left over. -/

set_option autoImplicit false

namespace MvdEdge

open Lib

namespace Schedule

section Recounting

variable {config : EdgeConfig} {journal past : List Occurrence} {schedule next : Schedule}
  {occurrence : Occurrence}

theorem ReaderServed.not_connecting (served : schedule.ReaderServed) (now : Time) :
    schedule.stage ≠ .connecting now := by
  rcases served with scanned | flushed | tried
  · simp [scanned]
  · simp [flushed]
  · simp [tried.1]

theorem ReaderServed.not_backlog (served : schedule.ReaderServed) : schedule.stage ≠ .backlog := by
  rcases served with scanned | flushed | tried
  · simp [scanned]
  · simp [flushed]
  · simp [tried.1]

theorem beats_cons (occurrence : Occurrence) (past : List Occurrence) :
    (beats (occurrence :: past)).length = (beats past).length + (beats [occurrence]).length := by
  cases occurrence <;> rfl

theorem Follows.lastDeliveryAttempt (follows : Follows config journal schedule) :
    schedule.lastDeliveryAttempt = lastRound journal := by
  induction follows with
  | nil => rfl
  | cons earlier last ih =>
      cases last with
      | started | delivered | retried => rfl
      | _ => exact ih

theorem Follows.lastHeartbeatAttempt (follows : Follows config journal schedule) :
    schedule.lastHeartbeatAttempt = lastBeat journal := by
  induction follows with
  | nil => rfl
  | cons earlier last ih =>
      cases last with
      | beat => rfl
      | _ => exact ih

theorem Follows.backlog_iff (follows : Follows config journal schedule) :
    backlog journal = true ↔ schedule.stage = .backlog := by
  induction follows with
  | nil => simp [backlog, boot]
  | cons earlier last ih =>
      cases last with
      | enqueued => simp [backlog]
      | started | delivered | retried => simp [backlog]
      | held now served => simp [backlog, ih, served.not_backlog]
      | turned stage | attempted _ stage | waited _ stage | connected _ stage | refused _ stage
      | scanned stage | lost _ stage | beat _ _ stage | quiet _ stage =>
          simp [backlog, ih, stage]

/-- The connection as the journal recounts it. While an attempt is under way, it is the
last one; without a connection the last failure sets the time of the next attempt. -/
structure Recounted (config : EdgeConfig) (journal : List Occurrence) (schedule : Schedule) :
    Prop where
  connecting : ∀ now, schedule.stage = .connecting now →
    schedule.connected = false ∧ (attempts journal).head? = some now
  due : schedule.connected = false → schedule.nextReaderAttempt =
    (lastFailure journal).elim (.finite 0) config.readerDiscoveryInterval.after
  first : schedule.connected = false → (∀ now, schedule.stage ≠ .connecting now) →
    lastFailure journal = none → attempts journal = []

theorem Recounted.aside (recounted : Recounted config past schedule)
    (before : ∀ now, schedule.stage ≠ .connecting now) (after : ∀ now, next.stage ≠ .connecting now)
    (connected : next.connected = schedule.connected)
    (scheduled : next.nextReaderAttempt = schedule.nextReaderAttempt)
    (attempted : attempts (occurrence :: past) = attempts past)
    (failed : lastFailure (occurrence :: past) = lastFailure past) :
    Recounted config (occurrence :: past) next := by
  constructor
  · exact fun now connecting => absurd connecting (after now)
  · rw [connected, scheduled, failed]
    exact recounted.due
  · rw [connected, attempted, failed]
    exact fun apart _ => recounted.first apart before

theorem Follows.recounted (follows : Follows config journal schedule) :
    Recounted config journal schedule := by
  induction follows with
  | nil => exact ⟨by simp [boot], fun _ => rfl, fun _ _ _ => rfl⟩
  | cons earlier last ih =>
      cases last with
      | attempted now stage due =>
          refine ⟨fun other connecting => ?_, ih.due, fun _ apart => absurd rfl (apart now)⟩
          obtain rfl : now = other := by simpa using connecting
          exact ⟨due.1, rfl⟩
      | connected now stage => exact ⟨by simp, by simp, by simp⟩
      | refused now stage =>
          have tried := (ih.connecting now stage).2
          refine ⟨by simp, fun _ => ?_, fun _ _ none => ?_⟩
          · simp [lastFailure, tried]
          · simp [lastFailure, tried] at none
      | lost now stage connected =>
          exact ⟨by simp, fun _ => rfl, fun _ _ none => by simp [lastFailure] at none⟩
      | enqueued stage =>
          refine ih.aside (fun now connecting => ?_) (by simp) rfl rfl rfl rfl
          rcases stage with scanned | backlog
          · simp [scanned] at connecting
          · simp [backlog] at connecting
      | retried now done served | held now served =>
          exact ih.aside served.not_connecting (by simp) rfl rfl rfl rfl
      | started _ stage | turned stage | waited _ stage | scanned stage | delivered _ stage
      | beat _ _ stage | quiet _ stage =>
          exact ih.aside (by simp [stage]) (by simp) rfl rfl rfl rfl

/-- An attempt is the first one, or an interval has passed since the reader was given up. -/
theorem Follows.attempted {now : Time}
    (follows : Follows config (.attempted now :: past) schedule) :
    (attempts past = [] ∧ lastFailure past = none) ∨ ∃ failed, lastFailure past = some failed ∧
      (config.readerDiscoveryInterval.after failed).reachedBy now = true := by
  cases follows with
  | cons earlier last =>
      cases last with
      | attempted _ stage due =>
          have recounted := Follows.recounted earlier
          have reached := due.2
          rw [recounted.due due.1] at reached
          cases failed : lastFailure past with
          | none => exact .inl ⟨recounted.first due.1 (by simp [stage]) failed, rfl⟩
          | some failed' =>
              rw [failed] at reached
              exact .inr ⟨failed', rfl, reached⟩

/-! ## Pacing -/

/-- The readings of a step, newest first. -/
def readings : Occurrence → List Time
  | .started done | .delivered done => [done]
  | .attempted now | .waited now | .lost now | .held now | .quiet now => [now]
  | .retried now done | .beat now done => [done, now]
  | .turned | .connected | .refused | .scanned | .enqueued => []

/-- The readings are those of the clock, at operations in their order up to `latest`. -/
def Timed (clock : Nat → Time) (latest : Nat) (journal : List Occurrence) : Prop :=
  ∃ ticks : List Nat, journal.flatMap readings = ticks.map clock ∧
    (ticks.Pairwise fun later earlier => earlier ≤ later) ∧ ∀ tick ∈ ticks, tick ≤ latest

/-- The clock was never seen to step back. -/
def Ordered (journal : List Occurrence) : Prop :=
  (journal.flatMap readings).Pairwise fun later earlier => earlier ≤ later

theorem Timed.ordered {clock : Nat → Time} {latest : Nat} (timed : Timed clock latest journal)
    (steady : Monotone clock) : Ordered journal := by
  obtain ⟨ticks, read, inOrder, -⟩ := timed
  rw [Ordered, read, List.pairwise_map]
  exact inOrder.imp fun before => steady before

theorem Timed.later {clock : Nat → Time} {latest newest : Nat}
    (timed : Timed clock latest journal) (le : latest ≤ newest) : Timed clock newest journal := by
  obtain ⟨ticks, read, inOrder, past⟩ := timed
  exact ⟨ticks, read, inOrder, fun tick member => (past tick member).trans le⟩

/-- A step with readings of its own, the newest of them and the last one before in order. -/
theorem Timed.cons {clock : Nat → Time} {latest newest : Nat} {ticks : List Nat}
    (timed : Timed clock latest past) (read : readings occurrence = ticks.map clock)
    (inOrder : (newest :: (ticks ++ [latest])).Pairwise fun later earlier => earlier ≤ later) :
    Timed clock newest (occurrence :: past) := by
  obtain ⟨older, before, ordered, earlier⟩ := timed
  obtain ⟨newer, inOrder⟩ := List.pairwise_cons.mp inOrder
  obtain ⟨sorted, -, least⟩ := List.pairwise_append.mp inOrder
  refine ⟨ticks ++ older, ?_, List.pairwise_append.mpr ⟨sorted, ordered, ?_⟩, ?_⟩
  · rw [List.flatMap_cons, read, before, List.map_append]
  · exact fun tick new old past => (earlier old past).trans (least tick new latest (by simp))
  · intro tick member
    cases List.mem_append.mp member with
    | inl new => exact newer tick (List.mem_append_left _ new)
    | inr old => exact (earlier tick old).trans (newer latest (by simp))

theorem Ordered.earlier (ordered : Ordered (occurrence :: past)) : Ordered past :=
  (List.pairwise_append.mp ordered).2.1

theorem Ordered.later (ordered : Ordered (occurrence :: past)) {now reading : Time}
    (new : now ∈ readings occurrence) (old : reading ∈ past.flatMap readings) : reading ≤ now :=
  (List.pairwise_append.mp ordered).2.2 now new reading old

theorem attempts_sublist (journal : List Occurrence) :
    (attempts journal).Sublist (journal.flatMap readings) := by
  induction journal with
  | nil => exact .slnil
  | cons occurrence past ih =>
      rw [List.flatMap_cons]
      cases occurrence with
      | attempted now => exact ih.cons_cons now
      | _ => exact List.sublist_append_of_sublist_right ih

theorem beats_sublist (journal : List Occurrence) :
    (beats journal).Sublist (journal.flatMap readings) := by
  induction journal with
  | nil => exact .slnil
  | cons occurrence past ih =>
      rw [List.flatMap_cons]
      cases occurrence with
      | beat now done => exact (List.sublist_append_of_sublist_right ih).cons_cons done
      | _ => exact List.sublist_append_of_sublist_right ih

theorem lastFailure_mem {failed : Time} (known : lastFailure journal = some failed) :
    failed ∈ journal.flatMap readings := by
  induction journal with
  | nil => simp [lastFailure] at known
  | cons occurrence past ih =>
      rw [List.flatMap_cons]
      cases occurrence with
      | lost now =>
          obtain rfl : now = failed := by simpa [lastFailure] using known
          exact List.mem_append_left _ (List.mem_singleton_self now)
      | refused =>
          exact List.mem_append_right _ ((attempts_sublist past).subset (List.mem_of_head? known))
      | _ => exact List.mem_append_right _ (ih known)

theorem lastBeat_mem : lastBeat journal = 0 ∨ lastBeat journal ∈ journal.flatMap readings := by
  unfold lastBeat
  cases newest : (beats journal).head? with
  | none => exact .inl rfl
  | some latest => exact .inr ((beats_sublist journal).subset (List.mem_of_head? newest))

theorem Ordered.le_newest (ordered : Ordered journal) {seen : List Time} {newest : Time}
    (sublist : seen.Sublist (journal.flatMap readings)) (head : seen.head? = some newest) :
    ∀ now ∈ seen, now ≤ newest := by
  cases seen with
  | nil => simp at head
  | cons latest older =>
      obtain rfl : latest = newest := by simpa using head
      have later := (List.pairwise_cons.mp (List.Pairwise.sublist sublist ordered)).1
      intro now member
      cases List.mem_cons.mp member with
      | inl same => exact same.le
      | inr earlier => exact later now earlier

/-- Without a connection, every attempt was made by the time of the last failure. -/
theorem Follows.attempts_le_failure (follows : Follows config journal schedule)
    (ordered : Ordered journal) (apart : schedule.connected = false)
    (idle : ∀ now, schedule.stage ≠ .connecting now) :
    ∀ now ∈ attempts journal, ∃ failed, lastFailure journal = some failed ∧ now ≤ failed := by
  induction follows with
  | nil => simp [attempts]
  | cons earlier last ih =>
      have ih := ih ordered.earlier
      cases last with
      | attempted now => exact absurd rfl (idle now)
      | connected => contradiction
      | refused newest stage =>
          have tried := ((Follows.recounted earlier).connecting newest stage).2
          exact fun now member => ⟨newest, tried,
            ordered.earlier.le_newest (attempts_sublist _) tried now member⟩
      | lost failed =>
          exact fun now member => ⟨failed, rfl,
            ordered.later List.mem_cons_self ((attempts_sublist _).subset member)⟩
      | enqueued stage connected => exact absurd apart (by simp [connected])
      | retried now done served | held now served =>
          exact ih apart served.not_connecting
      | started _ stage | turned stage | waited _ stage | scanned stage | delivered _ stage
      | beat _ _ stage | quiet _ stage => exact ih apart (by simp [stage])

/-- Attempts to connect keep the interval, but for the rounding of the time that the next
one is due, whatever became of them. -/
theorem Follows.attempts_paced {interval : ℚ} {exponent : ℕ}
    (follows : Follows config journal schedule) (ordered : Ordered journal)
    (small : ∀ now ∈ journal.flatMap readings, |now + interval| < 2 ^ exponent)
    (finite : config.readerDiscoveryInterval = .finite interval) :
    Paced (interval - 2 ^ exponent / 2 ^ 54) (attempts journal) := by
  induction follows with
  | nil => exact List.Pairwise.nil
  | cons earlier last ih =>
      have ih := ih ordered.earlier fun now member => small now (List.mem_append_right _ member)
      cases last with
      | attempted now stage due =>
          refine List.pairwise_cons.mpr ⟨fun older member => ?_, ih⟩
          obtain ⟨failed, known, before⟩ := Follows.attempts_le_failure earlier ordered.earlier
            due.1 (by simp [stage]) older member
          have reached := due.2
          rw [(Follows.recounted earlier).due due.1, known, Option.elim_some, finite] at reached
          have waited : Binary64.round (failed + interval) ≤ now := by
            simpa [PyFloat.after, PyFloat.reachedBy] using reached
          have rounded := (abs_le.mp (Binary64.abs_round_sub_le
            (small failed (List.mem_append_right _ (lastFailure_mem known))))).1
          linarith
      | _ => exact ih

theorem Follows.beaten {now done : Time}
    (follows : Follows config (.beat now done :: past) schedule) :
    config.heartbeatInterval.reachedBy (timeSince now (lastBeat past)) = true := by
  cases follows with
  | cons earlier last =>
      cases last with
      | beat _ _ stage due =>
          rw [HeartbeatDue, Follows.lastHeartbeatAttempt earlier] at due
          exact due

/-- Heartbeats keep their interval, from the end of one to the check before the next, but
for the rounding of the time since. -/
theorem Follows.beats_paced {interval : ℚ} {exponent : ℕ}
    (follows : Follows config journal schedule) (ordered : Ordered journal)
    (small : ∀ now ∈ journal.flatMap readings, |now| < 2 ^ exponent)
    (finite : config.heartbeatInterval = .finite interval) :
    Paced (interval - 2 ^ exponent / 2 ^ 53) (beats journal) := by
  induction follows with
  | nil => exact List.Pairwise.nil
  | @cons past before _ _ earlier last ih =>
      have ih := ih ordered.earlier fun now member => small now (List.mem_append_right _ member)
      cases last with
      | beat now done stage due =>
          refine List.pairwise_cons.mpr ⟨fun older member => ?_, ih⟩
          have reached : interval ≤ timeSince now (lastBeat past) := by
            rw [← Follows.lastHeartbeatAttempt earlier]
            simpa [HeartbeatDue, finite, PyFloat.reachedBy] using due
          have finished : now ≤ done :=
            (List.pairwise_cons.mp ordered).1 now List.mem_cons_self
          have before : older ≤ lastBeat past := by
            cases newest : (beats past).head? with
            | none => simp [List.head?_eq_none_iff.mp newest] at member
            | some latest =>
                rw [lastBeat, newest]
                exact ordered.earlier.le_newest (beats_sublist _) newest older member
          have nowSmall := abs_lt.mp (small now (by simp [readings]))
          have lastSmall : |lastBeat past| < 2 ^ exponent := by
            rcases lastBeat_mem with zero | known
            · rw [zero, abs_zero]
              positivity
            · exact small _ (List.mem_append_right _ known)
          have lastSmall := abs_lt.mp lastSmall
          have apart : |now - lastBeat past| < 2 ^ (exponent + 1) := by
            rw [abs_lt, pow_succ]
            constructor <;> linarith
          have rounded := (abs_le.mp (Binary64.abs_round_sub_le apart)).2
          have same : (2 : ℚ) ^ (exponent + 1) / 2 ^ 54 = 2 ^ exponent / 2 ^ 53 := by ring
          rw [same] at rounded
          rw [timeSince] at reached
          linarith
      | _ => exact ih

/-- The queue was checked after `past`, and a round run exactly when it was due. -/
def QueueChecked (config : EdgeConfig) (past : List Occurrence) (check : Occurrence) : Prop :=
  (∃ now done, check = .retried now done ∧
    config.queueRetryInterval.reachedBy (timeSince now (lastRound past)) = true) ∨
  ∃ now, check = .held now ∧
    config.queueRetryInterval.reachedBy (timeSince now (lastRound past)) = false

/-- The heartbeat was checked after `past`, and sent exactly when it was due. -/
def HeartbeatChecked (config : EdgeConfig) (past : List Occurrence) (check : Occurrence) : Prop :=
  (∃ now done, check = .beat now done ∧
    config.heartbeatInterval.reachedBy (timeSince now (lastBeat past)) = true) ∨
  ∃ now, check = .quiet now ∧
    config.heartbeatInterval.reachedBy (timeSince now (lastBeat past)) = false

/-- How a turn ends: its events, if any, had their round, then the queue was checked and
then the heartbeat. -/
inductive Rested (config : EdgeConfig) : List Occurrence → Prop where
  | started (done : Time) : Rested config [.started done]
  | served {queue heart : Occurrence} {past : List Occurrence} (flushed : backlog past = false)
      (round : QueueChecked config past queue)
      (heartbeat : HeartbeatChecked config (queue :: past) heart) :
      Rested config (heart :: queue :: past)

theorem Follows.served (follows : Follows config journal schedule)
    (stage : schedule.stage = .served) :
    ∃ queue past, journal = queue :: past ∧ QueueChecked config past queue ∧
      backlog past = false := by
  cases follows with
  | nil => simp [boot] at stage
  | @cons past before _ _ earlier last =>
      have flushed (served : before.ReaderServed) : backlog past = false := by
        rw [← Bool.not_eq_true, Follows.backlog_iff earlier]
        exact served.not_backlog
      cases last with
      | retried now done served due =>
          rw [RoundDue, Follows.lastDeliveryAttempt earlier] at due
          exact ⟨_, past, rfl, .inl ⟨now, done, rfl, due⟩, flushed served⟩
      | held now served early =>
          rw [RoundDue, Follows.lastDeliveryAttempt earlier, Bool.not_eq_true] at early
          exact ⟨_, past, rfl, .inr ⟨now, rfl, early⟩, flushed served⟩
      | _ => simp at stage

theorem Follows.booting (follows : Follows config journal schedule)
    (stage : schedule.stage = .boot) : journal = [] := by
  cases follows with
  | nil => rfl
  | cons earlier last => cases last <;> simp at stage

theorem Follows.rested (follows : Follows config journal schedule)
    (stage : schedule.stage = .rested) : Rested config journal := by
  cases follows with
  | nil => simp [boot] at stage
  | @cons past before _ _ earlier last =>
      cases last with
      | started done boots =>
          rw [Follows.booting earlier boots]
          exact .started done
      | beat now done served due =>
          obtain ⟨queue, older, rfl, round, flushed⟩ := Follows.served earlier served
          rw [HeartbeatDue, Follows.lastHeartbeatAttempt earlier] at due
          exact .served flushed round (.inl ⟨now, done, rfl, due⟩)
      | quiet now served early =>
          obtain ⟨queue, older, rfl, round, flushed⟩ := Follows.served earlier served
          rw [HeartbeatDue, Follows.lastHeartbeatAttempt earlier, Bool.not_eq_true] at early
          exact .served flushed round (.inr ⟨now, rfl, early⟩)
      | _ => simp at stage

/-- The loop goes round only after a whole turn. -/
theorem Follows.turned (follows : Follows config (.turned :: past) schedule) :
    Rested config past := by
  cases follows with
  | cons earlier last =>
      cases last with
      | turned stage => exact Follows.rested earlier stage

end Recounting

end Schedule

end MvdEdge
