import MvdEdge.App.Punctuality
import MvdEdge.Lib.Agreement

/-! A process that was asked to shut down: it ends by itself, and does no more than the
rest of the turn it is in. -/

set_option autoImplicit false

namespace MvdEdge

open Lib Lib.Effect Lib.Ghost

/-- The flag of the process is set from operation `stop` on. It is never taken back. -/
def AgentEnv.Stops (env : AgentEnv) (stop : Nat) : Prop :=
  ∀ tick, stop ≤ tick → env.shutdown tick = true

/-- Turns are left for the process to come to see the flag. -/
def Suffices (stop turns least : Nat) : Prop := 0 < turns ∧ stop < least + turns

theorem Suffices.next {stop turns least : Nat} (enough : Suffices stop (turns + 1) least)
    (unseen : least < stop) : Suffices stop turns (least + 1) := by
  obtain ⟨-, later⟩ := enough
  constructor <;> omega

namespace Agent

/-- At least so many operations were performed. -/
def Past (least : Nat) (world : World) : Prop := least ≤ world.tick

section Passing

variable {env : AgentEnv} {config : EdgeConfig} {least stop : Nat} {α : Type}

theorem quietly_past {act : Nat → World → α × World}
    (kept : ∀ tick world, (act tick world).2.tick = world.tick) :
    Preserves (Past least) (quietly env act) := by
  refine Triple.operation (fun world past => ?_) fun _ _ _ past => Nat.le_succ_of_le past
  exact (Nat.le_succ_of_le past).trans_eq (kept _ (Ticking.advance world)).symm

theorem past_of_tick {program : Agent α} (leaves : Leaves World.tick program) :
    Preserves (Past least) program :=
  leaves.triple (fun _ _ same past => past.trans_eq same.symm)
    fun _ _ past => past

theorem onLine_past (program : Serial α) : Preserves (Past least) (onLine program) :=
  past_of_tick (Leaves.zoom (fun _ _ => rfl) program)

theorem onDelivery_past (program : Delivery α) : Preserves (Past least) (onDelivery program) :=
  past_of_tick (Leaves.zoom (fun _ _ => rfl) program)

theorem mark_past (change : HealthState → Timestamp → HealthState) :
    Preserves (Past least) (mark env change) := quietly_past fun _ _ => rfl

theorem time_past : Preserves (Past least) (time env) := quietly_past fun _ _ => rfl

theorem past_serves : Serves env config (Past least) fun _ => Past least where
  tick := fun _ past => Nat.le_succ_of_le past
  fault := fun _ _ _ _ past => Nat.le_succ_of_le past
  cut := fun _ past => past
  delivery := fun _ _ past => past
  heartbeat := fun _ _ past => past
  slept := fun _ _ past => past
  pendingCount := onDelivery_past _
  process := onDelivery_past _

theorem past_attends : Attends env config (Past least) fun _ => Past least where
  reader := fun _ _ past => past
  survey := Triple.operation (fun _ past => Nat.le_succ_of_le past)
    fun _ _ _ past => Nat.le_succ_of_le past
  discover := fun _ => onLine_past _
  created := fun _ => onLine_past _
  verified := fun _ => onLine_past _
  mark := mark_past
  attempt := fun _ _ past => past
  readerState := fun _ _ past => past

theorem readInventory_past (reader : IDT85Reader) :
    Preserves (Past least) (readInventory env config reader) := by
  have absorbed (inventory : Except Str InventoryResult) (now : Time) (read : InventoryRead) :
      Preserves (Past least) (absorb env reader inventory now read) :=
    absorb_keeps (onLine_past _) fun _ past => past
  exact time_past.bind fun _ => (onLine_past _).attempt.bind fun inventory =>
    time_past.bind fun now => (quietly_past fun _ _ => rfl).bind fun read =>
    (absorbed inventory now read).bind fun _ => Preserves.pure _

theorem scanPhase_past : Preserves (Past least) (scanPhase env config) :=
  scanPhase_keeps (fun _ => Past least) (fun _ _ _ past => past) (fun _ _ _ past => past)
    (fun _ _ => mark_past _) (fun _ => time_past) readInventory_past

theorem enqueueEvents_past (events : List DetectedEvent) :
    Preserves (Past least) (enqueueEvents env config events) :=
  enqueueEvents_keeps (fun _ => Past least) (fun _ => mark_past _)
    (fun _ => quietly_past fun _ _ => rfl) (fun _ _ _ => onDelivery_past _) events

theorem sendHeartbeat_past : Preserves (Past least) (sendHeartbeat env config) :=
  sendHeartbeat_keeps (onDelivery_past _) (quietly_past fun _ _ => rfl) (fun _ _ _ past => past)
    fun _ _ past => past

theorem turn_past (least turns : Nat) : Preserves (Past least) (turn env config turns) := by
  refine time_past.bind fun scanStart => time_past.bind fun now =>
    (reconnectPhase_attends past_attends now : Preserves _ _).bind fun _ =>
    scanPhase_past.bind fun scanned => ?_
  cases scanned with
  | none => exact Preserves.pure _
  | some events =>
      exact servePhase_serves past_serves (enqueueEvents_past events) sendHeartbeat_past
        scanStart turns

theorem noteHead_past : Preserves (Past least) noteHead :=
  past_of_tick (Leaves.update fun _ => rfl)

end Passing

/-! ## The end of a run -/

section Stopping

variable {env : AgentEnv} {config : EdgeConfig} {stop : Nat} (stops : env.Stops stop)

include stops

/-- A process that goes on has not come to operation `stop`. -/
theorem shutdownRequested_unseen (least : Nat) :
    Triple (Past least) (shutdownRequested env)
      (fun seen world => seen = false → least < stop ∧ Past (least + 1) world)
      (fun _ _ => True) := by
  unfold shutdownRequested quietly
  refine Triple.operation (fun world past unseen => ?_) fun _ _ _ _ => trivial
  refine ⟨?_, Nat.succ_le_succ past⟩
  by_contra reached
  have seen := stops world.tick ((Nat.le_of_not_lt reached).trans past)
  exact Bool.noConfusion (seen.symm.trans unseen)

theorem sleepUntil_agree (endAt : PyFloat) (interval : ℚ) {turns more least : Nat}
    (enough : Suffices stop turns least) (enoughToo : Suffices stop more least) :
    AgreeOn (Past least) (sleepUntil env endAt interval turns)
      (sleepUntil env endAt interval more) := by
  induction turns generalizing more least with
  | zero => exact absurd enough.1 (by omega)
  | succ turns ih =>
      cases more with
      | zero => exact absurd enoughToo.1 (by omega)
      | succ more =>
          refine AgreeOn.after (shutdownRequested_unseen stops least) fun seen => ?_
          cases seen with
          | true => exact .refl _
          | false =>
              intro world went
              obtain ⟨unseen, past⟩ := went rfl
              refine (AgreeOn.after time_past fun now => ?_) world past
              dsimp only
              by_cases overdue : (endAt.less now).reachedBy 0 = true
              · rw [if_pos overdue, if_pos overdue]
                exact .refl _
              · rw [if_neg overdue, if_neg overdue]
                exact AgreeOn.after (quietly_past fun _ _ => rfl) fun _ =>
                  ih (enough.next unseen) (enoughToo.next unseen)

theorem sleepPhase_agree (scanStart : Time) {turns more least : Nat}
    (enough : Suffices stop turns least) (enoughToo : Suffices stop more least) :
    AgreeOn (Past least) (sleepPhase env config scanStart turns)
      (sleepPhase env config scanStart more) := by
  refine AgreeOn.after time_past fun now => ?_
  dsimp only
  split
  · exact AgreeOn.after time_past fun _ => sleepUntil_agree stops _ _ enough enoughToo
  · exact .refl _

theorem turn_agree {turns more least : Nat}
    (enough : Suffices stop turns least) (enoughToo : Suffices stop more least) :
    AgreeOn (Past least) (turn env config turns) (turn env config more) := by
  refine AgreeOn.after time_past fun scanStart => AgreeOn.after time_past fun now =>
    AgreeOn.after (reconnectPhase_attends past_attends now) fun _ =>
    AgreeOn.after scanPhase_past fun scanned => ?_
  cases scanned with
  | none => exact .refl _
  | some events =>
      exact AgreeOn.after (enqueueEvents_past events) fun _ =>
        AgreeOn.after (deliverEvents_serves past_serves events) fun _ =>
        AgreeOn.after (retryDeliveries_serves past_serves) fun _ =>
        AgreeOn.after (heartbeatPhase_serves past_serves sendHeartbeat_past) fun _ =>
        sleepPhase_agree stops scanStart enough enoughToo

theorem loop_agree {turns more least : Nat}
    (enough : Suffices stop turns least) (enoughToo : Suffices stop more least) :
    AgreeOn (Past least) (loop env config turns) (loop env config more) := by
  induction turns generalizing more least with
  | zero => exact absurd enough.1 (by omega)
  | succ turns ih =>
      cases more with
      | zero => exact absurd enoughToo.1 (by omega)
      | succ more =>
          refine AgreeOn.after noteHead_past fun _ =>
            AgreeOn.after (shutdownRequested_unseen stops least) fun seen => ?_
          cases seen with
          | true =>
              rw [if_pos rfl, if_pos rfl]
              exact .refl _
          | false =>
              rw [if_neg Bool.false_ne_true, if_neg Bool.false_ne_true]
              intro world went
              obtain ⟨unseen, past⟩ := went rfl
              have left := enough.next unseen
              have leftToo := enoughToo.next unseen
              exact (turn_agree stops left leftToo).bind (turn_past (least + 1) turns)
                (fun _ => ih left leftToo) world past

theorem runAgent_agree {turns more least : Nat}
    (enough : Suffices stop turns least) (enoughToo : Suffices stop more least) :
    AgreeOn (Past least) (runAgent env config turns) (runAgent env config more) := by
  refine AgreeOn.after (past_of_tick (Leaves.update fun _ => rfl)) fun _ => ?_
  split
  · exact .refl _
  · refine AgreeOn.after (onDelivery_past _) fun _ => AgreeOn.after (onDelivery_past _) fun _ =>
      AgreeOn.after (onDelivery_past _) fun _ => AgreeOn.after time_past fun _ =>
      AgreeOn.after (past_of_tick (Leaves.update fun _ => rfl)) fun _ => ?_
    have looped : AgreeOn (Past least) (attempt stoppedByKey (loop env config turns))
        (attempt stoppedByKey (loop env config more)) :=
      (loop_agree stops enough enoughToo).attempt
    exact (looped.bind (Triple.any _ _) fun _ => .refl _).ensuring

end Stopping

end Agent

/-! ## The rest of a turn -/

/-- Where in its turn a step comes. -/
def Occurrence.rank : Occurrence → Nat
  | .turned => 1
  | .attempted _ => 2
  | .waited _ | .connected | .refused => 3
  | .scanned | .lost _ => 4
  | .enqueued => 5
  | .delivered _ => 6
  | .retried _ _ | .held _ => 7
  | .started _ | .beat _ _ | .quiet _ => 8

/-- In one turn `older` comes before `newer`; only events are enqueued one after the other. -/
def Occurrence.Precedes (older newer : Occurrence) : Prop :=
  older.rank < newer.rank ∨ (older = .enqueued ∧ newer = .enqueued)

def Stage.height : Stage → Nat
  | .boot => 0
  | .turned => 1
  | .connecting _ => 2
  | .tried => 3
  | .scanned => 4
  | .backlog => 5
  | .flushed => 6
  | .served => 7
  | .rested => 8

theorem Schedule.ReaderServed.height_lt {schedule : Schedule} (served : schedule.ReaderServed) :
    schedule.stage.height < 7 := by
  rcases served with scanned | flushed | tried
  · simp [scanned, Stage.height]
  · simp [flushed, Stage.height]
  · simp [tried.1, Stage.height]

theorem Schedule.Step.climb {config : EdgeConfig} {schedule next : Schedule}
    {occurrence : Occurrence} (step : Step config schedule occurrence next)
    (within : occurrence ≠ .turned) :
    next.stage.height = occurrence.rank ∧ (schedule.stage.height < occurrence.rank ∨
      (occurrence = .enqueued ∧ schedule.stage.height ≤ occurrence.rank)) := by
  cases step with
  | turned stage => exact absurd rfl within
  | enqueued stage connected =>
      refine ⟨rfl, .inr ⟨rfl, ?_⟩⟩
      rcases stage with scanned | backlog
      · simp [scanned, Stage.height, Occurrence.rank]
      · simp [backlog, Stage.height, Occurrence.rank]
  | retried now done served due => exact ⟨rfl, .inl served.height_lt⟩
  | held now served early => exact ⟨rfl, .inl served.height_lt⟩
  | started done stage | delivered done stage | refused now stage | connected now stage
  | scanned stage | lost now stage | attempted now stage | waited now stage
  | beat now done stage | quiet now stage =>
      exact ⟨rfl, .inl (by simp [stage, Stage.height, Occurrence.rank])⟩

theorem Occurrence.rank_le_enqueued {occurrence : Occurrence} (low : occurrence.rank ≤ 5) :
    occurrence.rank < 5 ∨ occurrence = .enqueued := by
  cases occurrence <;> simp_all [Occurrence.rank]

/-- Steps after which the loop did not go round are those of one turn, in their order. -/
theorem Schedule.Follows.ordered {config : EdgeConfig} {recent past : List Occurrence}
    {schedule : Schedule} (follows : Follows config (recent ++ past) schedule)
    (within : ∀ occurrence ∈ recent, occurrence ≠ .turned) :
    recent.Pairwise fun newer older => older.Precedes newer := by
  refine (Ran.climbs follows fun member step => step.climb (within _ member)).1.imp ?_
  intro newer older ordered
  rcases ordered with lower | ⟨rfl, most⟩
  · exact .inl lower
  · exact (Occurrence.rank_le_enqueued most).imp id fun same => ⟨same, rfl⟩

namespace Timeline

section Heeding

variable {env : AgentEnv} {config : EdgeConfig} {stop : Nat}

/-- No turn was begun once the flag was set. -/
def Heeded (stop : Nat) (pair : World × List Moment) : Prop :=
  ∀ moment ∈ pair.2, moment.occurrence = .turned → moment.world.tick ≤ stop

theorem silent_heeded {α : Type} (program : Agent α) :
    Preserves (Heeded stop) (silent program) :=
  Triple.silent fun _ world heeded => (Triple.any (fun _ => True) program world trivial).imp
    (fun _ _ _ => heeded) fun _ _ _ => heeded

theorem Mark.occurrence_turned {mark : Mark} {world : World}
    (turned : mark.occurrence world = some .turned) : mark = .turned := by
  cases mark with
  | turned => rfl
  | tried =>
      by_cases ready : world.readerState = .READY
      · simp [Mark.occurrence, ready] at turned
      · simp [Mark.occurrence, ready] at turned
  | _ => simp [Mark.occurrence] at turned

theorem noting_heeded {mark : Mark} (other : mark ≠ .turned) :
    Preserves (Heeded stop) (noting (note mark) : Journaled Moment Unit) := by
  refine Triple.noting fun world journal heeded moment member turned => ?_
  unfold note at member
  cases noted : mark.occurrence world with
  | none =>
      rw [noted] at member
      exact heeded moment member turned
  | some occurrence =>
      rw [noted] at member
      cases List.mem_cons.mp member with
      | inl newest =>
          subst newest
          exact absurd (Mark.occurrence_turned (noted.trans (congrArg some turned))) other
      | inr older => exact heeded moment older turned

theorem reconnectPhase_heeded (now : Time) :
    Preserves (Heeded stop) (Journaled.reconnectPhase note env config now) := by
  refine (silent_heeded _).bind fun world => ?_
  split
  · exact (noting_heeded (by simp)).bind fun _ => (silent_heeded _).bind fun _ =>
      noting_heeded (by simp)
  · exact noting_heeded (by simp)

theorem takeOver_heeded (read : InventoryRead) :
    Preserves (Heeded stop) (Journaled.takeOver note env config read) := by
  refine (silent_heeded _).bind fun _ => (silent_heeded _).bind fun _ =>
    (noting_heeded (by simp)).bind fun _ => ?_
  split
  · exact (silent_heeded _).bind fun _ => (silent_heeded _).bind fun _ =>
      (noting_heeded (by simp)).bind fun _ => Preserves.pure _
  · exact (noting_heeded (by simp)).bind fun _ => Preserves.pure _

theorem scanPhase_heeded : Preserves (Heeded stop) (Journaled.scanPhase note env config) := by
  refine (silent_heeded _).bind fun world => ?_
  split
  · exact Preserves.pure _
  · cases world.reader with
    | none =>
        exact (silent_heeded _).bind fun _ => (silent_heeded _).bind fun _ => Preserves.pure _
    | some reader => exact (silent_heeded _).bind fun read => takeOver_heeded read

theorem enqueueEvents_heeded (events : List DetectedEvent) :
    Preserves (Heeded stop) (Journaled.enqueueEvents note env config events) := by
  induction events with
  | nil => exact Preserves.pure _
  | cons event rest ih =>
      exact (silent_heeded _).bind fun _ => (silent_heeded _).bind fun _ =>
        (silent_heeded _).bind fun _ => (noting_heeded (by simp)).bind fun _ => ih

theorem servePhase_heeded (events : List DetectedEvent) (scanStart : Time) (turns : Nat) :
    Preserves (Heeded stop) (Journaled.servePhase note env config events scanStart turns) := by
  have delivered : Preserves (Heeded stop) (Journaled.deliverEvents note env config events) := by
    unfold Journaled.deliverEvents
    split
    · exact (silent_heeded _).bind fun _ => (silent_heeded _).bind fun _ =>
        noting_heeded (by simp)
    · exact Preserves.pure _
  have retried : Preserves (Heeded stop) (Journaled.retryDeliveries note env config) := by
    refine (silent_heeded _).bind fun now => (silent_heeded _).bind fun world => ?_
    split
    · exact (silent_heeded _).bind fun _ => (silent_heeded _).bind fun _ =>
        noting_heeded (by simp)
    · exact noting_heeded (by simp)
  have beaten : Preserves (Heeded stop) (Journaled.heartbeatPhase note env config) := by
    refine (silent_heeded _).bind fun now => (silent_heeded _).bind fun world => ?_
    split
    · exact (noting_heeded (by simp)).bind fun _ => (silent_heeded _).bind fun _ =>
        (silent_heeded _).bind fun _ => (silent_heeded _).bind fun _ => noting_heeded (by simp)
    · exact noting_heeded (by simp)
  exact (enqueueEvents_heeded events).bind fun _ => delivered.bind fun _ => retried.bind fun _ =>
    beaten.bind fun _ => silent_heeded _

/-- The flag was read as not set at the operation before. -/
theorem turn_heeded (turns : Nat) :
    Triple (fun pair => Heeded stop pair ∧ pair.1.tick ≤ stop)
      (Journaled.turn note env config turns)
      (fun _ => Heeded stop) (fun _ => Heeded stop) := by
  have turned : Triple (fun pair => Heeded stop pair ∧ pair.1.tick ≤ stop) (noting (note .turned))
      (fun _ => Heeded stop) (fun (_ : Exn) => Heeded stop) := by
    refine Triple.noting fun world journal both moment member turned => ?_
    cases List.mem_cons.mp member with
    | inl newest => exact newest ▸ both.2
    | inr older => exact both.1 moment older turned
  refine Triple.bind turned fun _ => (silent_heeded _).bind fun scanStart =>
    (silent_heeded _).bind fun now => (reconnectPhase_heeded now).bind fun _ =>
    scanPhase_heeded.bind fun scanned => ?_
  cases scanned with
  | none => exact Preserves.pure _
  | some events => exact servePhase_heeded events scanStart turns

variable (stops : env.Stops stop)

include stops

theorem loop_heeded (turns : Nat) :
    Preserves (Heeded stop) (Journaled.loop note env config turns) := by
  have asked : Triple (Heeded stop) (silent (Agent.shutdownRequested env))
      (fun seen pair => Heeded stop pair ∧ (seen = false → pair.1.tick ≤ stop))
      (fun _ => Heeded stop) := by
    refine Triple.silent fun journal => ?_
    unfold Agent.shutdownRequested Agent.quietly
    refine Triple.operation (fun world heeded => ?_) fun _ _ _ heeded => heeded
    refine ⟨heeded, fun unseen => ?_⟩
    by_contra beyond
    have seen := stops world.tick (Nat.le_of_lt_succ (Nat.lt_of_not_le beyond))
    exact Bool.noConfusion (seen.symm.trans unseen)
  induction turns with
  | zero => exact Preserves.throw _
  | succ turns ih =>
      refine (silent_heeded _).bind fun _ => Triple.bind asked fun seen => ?_
      cases seen with
      | true => exact Triple.pure fun _ both => both.1
      | false =>
          exact Triple.bind ((turn_heeded turns).before fun _ both =>
            ⟨both.1, both.2 rfl⟩) fun _ => ih

theorem runAgent_heeded (turns : Nat) :
    Preserves (Heeded stop) (Journaled.runAgent note env config turns) := by
  refine (silent_heeded _).bind fun _ => ?_
  split
  · exact Preserves.throw _
  · refine (silent_heeded _).bind fun _ => (silent_heeded _).bind fun _ =>
      (silent_heeded _).bind fun _ => (silent_heeded _).bind fun _ =>
      (silent_heeded _).bind fun _ => (noting_heeded (by simp)).bind fun _ => ?_
    exact Triple.ensuring ((loop_heeded stops turns).attempt.bind fun _ => Preserves.pure _)
      (fun _ => silent_heeded _) (fun _ _ => silent_heeded _) fun _ _ _ heeded => heeded

end Heeding

end Timeline

/-- A process whose flag is set at operation `stop` ends by itself, in so many turns: a
longer run is the same. No turn is begun from then on, so that what is still done is the
rest of one turn, each of its steps once and in their order. -/
theorem runAgent_heeds_shutdown (env : AgentEnv) (config : EdgeConfig) (world : World)
    {stop : Nat} (stops : env.Stops stop) :
    (∀ turns, stop < turns → Agent.runAgent env config turns world =
      Agent.runAgent env config (stop + 1) world) ∧
    ∀ turns, let run := timeline env config turns world
      run.1 = after (Agent.runAgent env config turns) world ∧
      (∀ moment ∈ run.2, moment.occurrence = .turned → moment.world.tick ≤ stop) ∧
      ∀ recent past, run.2 = recent ++ past → (∀ moment ∈ recent, stop < moment.world.tick) →
        (occurrences recent).Pairwise fun newer older => older.Precedes newer := by
  refine ⟨fun turns longer => ?_, fun turns => ?_⟩
  · have enough : Suffices stop turns 0 := ⟨by omega, by omega⟩
    have least : Suffices stop (stop + 1) 0 := ⟨by omega, by omega⟩
    exact Agent.runAgent_agree stops enough least world (Nat.zero_le _)
  · intro run
    have heeded : Timeline.Heeded stop run :=
      Triple.after (Timeline.runAgent_heeded stops turns) (by simp [Timeline.Heeded])
    refine ⟨timeline_world env config turns world, heeded, fun recent past split later => ?_⟩
    obtain ⟨schedule, follows⟩ :=
      (timeline_logged env config turns world).earlier List.suffix_rfl
    have journal : occurrences run.2 = occurrences recent ++ occurrences past := by
      rw [split, occurrences, List.map_append]
      rfl
    rw [journal] at follows
    refine follows.ordered fun occurrence member turned => ?_
    obtain ⟨moment, among, rfl⟩ := List.mem_map.mp member
    have before := heeded moment (split ▸ List.mem_append_left _ among) turned
    exact Nat.not_lt.mpr before (later moment among)

/-- A shutdown is requested at operation 40. -/
def haltingEnv : AgentEnv := { tickingEnv with shutdown := fun tick => decide (40 ≤ tick) }

/-- However long it is observed, the process has returned. -/
theorem runAgent_heeds_shutdown_asked :
    haltingEnv.Stops 40 ∧ ∀ turns, 40 < turns →
      failing (Agent.runAgent haltingEnv tickingConfig turns) sampleWorld = none ∧
      ∀ moment ∈ (timeline haltingEnv tickingConfig turns sampleWorld).2,
        moment.occurrence = .turned → moment.world.tick ≤ 40 := by
  have stops : haltingEnv.Stops 40 := fun tick late => decide_eq_true late
  obtain ⟨ends, heeds⟩ := runAgent_heeds_shutdown haltingEnv tickingConfig sampleWorld stops
  have returned :
      failing (Agent.runAgent haltingEnv tickingConfig (40 + 1)) sampleWorld = none := by
    decide +kernel
  exact ⟨stops, fun turns longer =>
    ⟨(failing_congr (ends turns longer)).trans returned, (heeds turns).2.1⟩⟩

end MvdEdge
