import MvdEdge.App.Concerns
import MvdEdge.App.DeliveryRounds
import MvdEdge.App.Journaled
import MvdEdge.App.ScheduleProperties

/-! The loop of `run_agent` keeps to the schedule: its variables are those of the
schedule at every moment, and each step of a turn does what it is there for and touches
nothing else. -/

set_option autoImplicit false

namespace MvdEdge

open Lib Lib.Effect Lib.Ghost

structure Moment where
  occurrence : Occurrence
  world : World

/-- The step of the schedule that ends at a mark. -/
def Mark.occurrence (world : World) : Mark → Option Occurrence
  | .started done => some (.started done)
  | .turned => some .turned
  | .attempted now => some (.attempted now)
  | .tried => some (if world.readerState = .READY then .connected else .refused)
  | .waited now => some (.waited now)
  | .scanned => some .scanned
  | .lost now => some (.lost now)
  | .enqueued => some .enqueued
  | .delivered done => some (.delivered done)
  | .retried now done => some (.retried now done)
  | .held now => some (.held now)
  | .beat now done => some (.beat now done)
  | .quiet now => some (.quiet now)
  | .answered _ | .beating => none

/-- A timeline notes the steps of the schedule, each with the state it left. -/
def Timeline.note (mark : Mark) (world : World) : Option Moment :=
  (mark.occurrence world).map fun occurrence => ⟨occurrence, world⟩

def Occurrence.touches : Occurrence → List Concern
  | .connected | .refused => [.line, .reader, .health]
  | .scanned => [.line, .presence, .health]
  | .lost _ => [.line, .reader, .presence, .health]
  | .enqueued => [.rows, .health]
  | .started _ | .delivered _ | .retried _ _ => [.cloud, .health]
  | .beat _ _ => [.heartbeat]
  | .turned => [.pause]
  | .attempted _ | .waited _ | .held _ | .quiet _ => []

/-- A row was added to the table, unless there was one under its identifier. -/
def Delivery.Enqueued (env : DeliveryEnv) (payload : EventPayload) (first last : DeliveryState) :
    Prop :=
  ∃ tick, first.tick ≤ tick ∧ tick ≤ last.tick ∧
    last.queue = first.queue.enqueue payload (env.stamp tick)

theorem Delivery.Round.congr {env : DeliveryEnv} {batchSize delivered : Nat}
    {start first next last : DeliveryState} (round : Round env batchSize start delivered next)
    (starts : first.queue = start.queue ∧ first.cloud = start.cloud)
    (ends : last.queue = next.queue ∧ last.cloud = next.cloud) :
    Round env batchSize first delivered last := by
  obtain ⟨batch, sent, count, pending, done, rows⟩ := round
  rw [← starts.1] at batch sent count pending done rows
  rw [← starts.2] at sent count rows
  rw [← ends.1] at pending done rows
  rw [← ends.2] at sent
  exact ⟨batch, sent, count, pending, done, rows⟩

/-- One whole round of deliveries was run since `first`. -/
def Rounded (env : AgentEnv) (config : EdgeConfig) (first last : World) : Prop :=
  ∃ delivered, Delivery.Round env.delivery config.queueBatchSize first.delivery delivered
    last.delivery

/-- What a step is there for: it takes in an inventory, adds a row, runs a round of
deliveries or sends a heartbeat. -/
def Occurrence.Dealt (env : AgentEnv) (config : EdgeConfig) : Occurrence → World → World → Prop
  | .scanned, first, last | .lost _, first, last => Agent.Scanned env config first last
  | .enqueued, first, last => ∃ event sendAt, Delivery.Enqueued env.delivery
      (Agent.buildEventPayload config event sendAt) first.delivery last.delivery
  | .started _, first, last | .delivered _, first, last | .retried _ _, first, last =>
      Rounded env config first last
  | .beat _ _, first, last => Agent.Beaten first last
  | .turned, _, _ | .attempted _, _, _ | .waited _, _, _ | .connected, _, _ | .refused, _, _
  | .held _, _, _ | .quiet _, _, _ => True

/-- The variables of the loop are those of the schedule. -/
structure Schedule.Agrees (schedule : Schedule) (world : World) : Prop where
  connected : schedule.connected = true ↔ world.readerState = .READY
  reader : world.readerState = .READY → world.reader.isSome = true
  nextReaderAttempt : schedule.nextReaderAttempt = world.nextReaderAttempt
  lastDeliveryAttempt : schedule.lastDeliveryAttempt = world.lastDeliveryAttempt
  lastHeartbeatAttempt : schedule.lastHeartbeatAttempt = world.lastHeartbeatAttempt

def occurrences (journal : List Moment) : List Occurrence := journal.map (·.occurrence)

/-- The state that the next step sets out from. -/
def worldAfter (start : World) : List Moment → World
  | [] => start
  | newest :: _ => newest.world

/-- What holds of a journal from then on, whatever becomes of the process. -/
structure Logged (env : AgentEnv) (config : EdgeConfig) (start : World)
    (journal : List Moment) : Prop where
  follows : ∀ moment past, moment :: past <:+ journal →
    ∃ schedule, Schedule.Follows config (occurrences (moment :: past)) schedule ∧
      schedule.Agrees moment.world
  touched : ∀ moment past, moment :: past <:+ journal →
    Onward moment.occurrence.touches (worldAfter start past) moment.world
  dealt : ∀ moment past, moment :: past <:+ journal →
    moment.occurrence.Dealt env config (worldAfter start past) moment.world
  timed : ∃ latest, Schedule.Timed env.clock latest (occurrences journal)

/-- Between two steps: nothing was touched since the last one, the schedule is at a
stage, and the clock has been read at `latest`, after all readings noted. -/
structure Current (env : AgentEnv) (config : EdgeConfig) (start : World) (latest : Nat)
    (stage : Schedule → Prop) (pair : World × List Moment) : Prop where
  logged : Logged env config start pair.2
  follows : ∃ schedule, Schedule.Follows config (occurrences pair.2) schedule ∧
    stage schedule ∧ schedule.Agrees pair.1
  untouched : Onward [] (worldAfter start pair.2) pair.1
  timed : Schedule.Timed env.clock latest (occurrences pair.2)
  reached : latest ≤ pair.1.tick

section Journal

variable {env : AgentEnv} {config : EdgeConfig} {start : World} {latest later : Nat}
  {stage reached : Schedule → Prop} {pair : World × List Moment} {origin world next : World}
  {occurrence : Occurrence} {journal : List Moment} {touched more : List Concern}

theorem Schedule.Agrees.staged {schedule : Schedule} (agrees : schedule.Agrees world)
    (stage : Stage) : { schedule with stage }.Agrees world :=
  ⟨agrees.connected, agrees.reader, agrees.nextReaderAttempt, agrees.lastDeliveryAttempt,
    agrees.lastHeartbeatAttempt⟩

theorem Schedule.Agrees.apart {schedule : Schedule} (agrees : schedule.Agrees world) :
    schedule.connected = false ↔ world.readerState ≠ .READY := by
  rw [Ne, ← agrees.connected, Bool.not_eq_true]

theorem Schedule.Agrees.roundDue {schedule : Schedule} (agrees : schedule.Agrees world)
    (now : Time) : schedule.RoundDue config now ↔
      config.queueRetryInterval.reachedBy (timeSince now world.lastDeliveryAttempt) = true := by
  rw [RoundDue, agrees.lastDeliveryAttempt]

theorem Schedule.Agrees.heartbeatDue {schedule : Schedule} (agrees : schedule.Agrees world)
    (now : Time) : schedule.HeartbeatDue config now ↔
      config.heartbeatInterval.reachedBy (timeSince now world.lastHeartbeatAttempt) = true := by
  rw [HeartbeatDue, agrees.lastHeartbeatAttempt]

/-- The reader's variables still agree, and the times of the last attempts are given. -/
theorem Schedule.Agrees.spared {schedule after : Schedule} (agrees : schedule.Agrees world)
    (onward : Onward touched world next) (spared : .reader ∉ touched)
    (same : after.connected = schedule.connected ∧
      after.nextReaderAttempt = schedule.nextReaderAttempt)
    (delivered : after.lastDeliveryAttempt = next.lastDeliveryAttempt)
    (beaten : after.lastHeartbeatAttempt = next.lastHeartbeatAttempt) : after.Agrees next := by
  obtain ⟨readerState, reader, due⟩ := onward.reader spared
  refine ⟨?_, ?_, ?_, delivered, beaten⟩
  · rw [same.1, readerState]
    exact agrees.connected
  · rw [readerState, reader]
    exact agrees.reader
  · rw [same.2, due]
    exact agrees.nextReaderAttempt

theorem Schedule.Agrees.onward {schedule : Schedule} (agrees : schedule.Agrees world)
    (onward : Onward touched world next)
    (spared : .reader ∉ touched ∧ .cloud ∉ touched ∧ .heartbeat ∉ touched) :
    schedule.Agrees next :=
  agrees.spared onward spared.1 ⟨rfl, rfl⟩
    (agrees.lastDeliveryAttempt.trans (onward.cloud spared.2.1).2.symm)
    (agrees.lastHeartbeatAttempt.trans (onward.heartbeat spared.2.2).2.symm)

theorem Onward.stores (onward : Onward touched world next)
    (spared : .rows ∉ touched ∧ .cloud ∉ touched) :
    next.delivery.queue = world.delivery.queue ∧ next.delivery.cloud = world.delivery.cloud :=
  ⟨onward.queue spared.1 spared.2, (onward.cloud spared.2).1⟩

theorem Delivery.Enqueued.of_onward {payload : EventPayload} (onward : Onward touched origin world)
    (spared : .rows ∉ touched ∧ .cloud ∉ touched)
    (enqueued : Delivery.Enqueued env.delivery payload world.delivery next.delivery) :
    Delivery.Enqueued env.delivery payload origin.delivery next.delivery := by
  obtain ⟨tick, after, before, added⟩ := enqueued
  exact ⟨tick, onward.stamps.trans after, before, (onward.stores spared).1 ▸ added⟩

theorem Rounded.of_onward (onward : Onward touched origin world)
    (spared : .rows ∉ touched ∧ .cloud ∉ touched) (rounded : Rounded env config world next) :
    Rounded env config origin next := by
  obtain ⟨delivered, round⟩ := rounded
  have stores := onward.stores spared
  exact ⟨delivered, round.congr ⟨stores.1.symm, stores.2.symm⟩ ⟨rfl, rfl⟩⟩

theorem Rounded.onward (rounded : Rounded env config origin world)
    (onward : Onward touched world next) (spared : .rows ∉ touched ∧ .cloud ∉ touched) :
    Rounded env config origin next := by
  obtain ⟨delivered, round⟩ := rounded
  exact ⟨delivered, round.congr ⟨rfl, rfl⟩ (onward.stores spared)⟩

theorem Occurrence.Dealt.of_onward (dealt : occurrence.Dealt env config world next)
    (onward : Onward [] origin world) : occurrence.Dealt env config origin next := by
  cases occurrence with
  | scanned | lost now => exact Agent.Scanned.of_onward onward (by simp) dealt
  | enqueued =>
      obtain ⟨event, sendAt, enqueued⟩ := dealt
      exact ⟨event, sendAt, Delivery.Enqueued.of_onward onward (by simp) enqueued⟩
  | started done | delivered done | retried now done =>
      exact Rounded.of_onward onward (by simp) dealt
  | beat now done =>
      obtain ⟨result, sent⟩ := dealt
      refine ⟨result, ?_⟩
      rw [sent, (onward.reader (by simp)).1, onward.health (by simp), (onward.stores (by simp)).1,
        (onward.heartbeat (by simp)).1]
  | _ => trivial

theorem Occurrence.Dealt.heartbeats_length (dealt : occurrence.Dealt env config world next)
    (onward : Onward occurrence.touches world next) : next.heartbeats.length =
      world.heartbeats.length + (Schedule.beats [occurrence]).length := by
  cases occurrence with
  | beat now done =>
      obtain ⟨result, sent⟩ := dealt
      rw [sent]
      rfl
  | _ =>
      rw [(onward.heartbeat (by simp [Occurrence.touches])).1]
      rfl

/-- As many heartbeats were answered as the journal has. -/
theorem Logged.heartbeats (logged : Logged env config start journal)
    (unbeaten : start.heartbeats = []) : ∀ {past : List Moment}, past <:+ journal →
      (worldAfter start past).heartbeats.length = (Schedule.beats (occurrences past)).length
  | [], _ => congrArg List.length unbeaten
  | moment :: past, suffix => by
      have earlier := logged.heartbeats unbeaten ((List.suffix_cons moment past).trans suffix)
      have step := (logged.dealt moment past suffix).heartbeats_length
        (logged.touched moment past suffix)
      rw [occurrences, List.map_cons, Schedule.beats_cons, worldAfter, step, earlier]
      rfl

/-! ## Within a step -/

/-- In the course of a step: since the last one only `touched` was touched, to an effect. -/
def Midway (env : AgentEnv) (config : EdgeConfig) (start : World) (latest : Nat)
    (stage : Schedule → Prop) (touched : List Concern) (effect : World → World → Prop)
    (pair : World × List Moment) : Prop :=
  ∃ origin, Current env config start latest stage (origin, pair.2) ∧
    Onward touched origin pair.1 ∧ effect origin pair.1

def LoggedAt (env : AgentEnv) (config : EdgeConfig) (start : World)
    (pair : World × List Moment) : Prop :=
  Logged env config start pair.2

variable {effect reaching : World → World → Prop}

theorem Current.weaken (current : Current env config start latest stage pair)
    (entails : ∀ schedule, stage schedule → schedule.Agrees pair.1 → reached schedule) :
    Current env config start latest reached pair := by
  obtain ⟨schedule, follows, at_, agrees⟩ := current.follows
  exact { current with follows := ⟨schedule, follows, entails schedule at_ agrees, agrees⟩ }

theorem Current.onward (current : Current env config start latest stage (world, journal))
    (onward : Onward [] world next) : Current env config start latest stage (next, journal) := by
  obtain ⟨schedule, follows, at_, agrees⟩ := current.follows
  exact ⟨current.logged, ⟨schedule, follows, at_, agrees.onward onward (by simp)⟩,
    current.untouched.trans onward, current.timed, current.reached.trans onward.tick⟩

theorem Current.silent {α : Type} {program : Agent α} (touches : Touches [] program) :
    Triple (Current env config start latest stage) (silent program)
      (fun _ => Current env config start latest stage) (fun _ => LoggedAt env config start) := by
  refine Triple.silent fun journal world current => ?_
  exact (touches world world rfl).imp (fun _ _ onward => current.onward onward)
    fun _ _ _ => current.logged

/-- A reading of the clock is later than all that were noted. -/
theorem Current.then_time {β : Type} {next : Time → Journaled Moment β}
    {post : β → World × List Moment → Prop}
    (rest : ∀ now, Triple (Current env config start now stage) (next (env.clock now)) post
      fun _ => LoggedAt env config start) :
    Triple (Current env config start latest stage) (Ghost.silent (Agent.time env) >>= next) post
      (fun _ => LoggedAt env config start) := by
  refine Triple.through (fun now pair => ∃ tick, now = env.clock tick ∧
    Current env config start tick stage pair) (Triple.silent fun journal => ?_) fun now => ?_
  · have logged : ∀ world, Current env config start latest stage (world, journal) →
        Logged env config start journal := fun _ current => current.logged
    unfold Agent.time Agent.quietly
    refine Triple.operation (fun world current => ⟨world.tick, rfl, ?_⟩) fun _ world _ =>
      logged world
    have advanced := current.onward (Onward.advance world)
    exact { advanced with timed := current.timed.later current.reached, reached := Nat.le_succ _ }
  · rintro pair ⟨tick, rfl, current⟩
    exact rest tick pair current

/-- A program with which a step begins. -/
theorem Current.begins {α : Type} {program : Agent α} {effect : α → World → World → Prop}
    (begun : ∀ first journal, Current env config start latest stage (first, journal) →
      Triple (· = first) program
        (fun value last => Onward touched first last ∧ effect value first last)
        (fun _ _ => True)) :
    Triple (Current env config start latest stage) (Ghost.silent program)
      (fun value => Midway env config start latest stage touched (effect value))
      (fun _ => LoggedAt env config start) := by
  refine Triple.silent fun journal origin current => ?_
  exact (begun origin journal current origin rfl).imp
    (fun _ _ outcome => ⟨origin, current, outcome⟩) fun _ _ _ => current.logged

/-- A program with which a step goes on. -/
theorem Midway.continues {α : Type} {program : Agent α} {reaching : α → World → World → Prop}
    (continued : ∀ origin first, Onward touched origin first → effect origin first →
      Triple (· = first) program
        (fun value last => Onward more origin last ∧ reaching value origin last)
        (fun _ _ => True)) :
    Triple (Midway env config start latest stage touched effect) (Ghost.silent program)
      (fun value => Midway env config start latest stage more (reaching value))
      (fun _ => LoggedAt env config start) := by
  refine Triple.silent fun journal world midway => ?_
  obtain ⟨origin, current, onward, found⟩ := midway
  exact (continued origin world onward found world rfl).imp
    (fun _ _ outcome => ⟨origin, current, outcome⟩) fun _ _ _ => current.logged

/-- A program that keeps the effect there is. -/
theorem Midway.silent {α : Type} {program : Agent α} (touches : Touches more program)
    (subset : more ⊆ touched)
    (kept : ∀ origin first last, effect origin first → Onward more first last →
      effect origin last) :
    Triple (Midway env config start latest stage touched effect) (Ghost.silent program)
      (fun _ => Midway env config start latest stage touched effect)
      (fun _ => LoggedAt env config start) :=
  Midway.continues fun origin first onward found => (touches first).conseq (fun _ same => same)
    (fun _ last further =>
      ⟨onward.trans (further.mono subset), kept origin first last found further⟩)
    fun _ _ _ => trivial

theorem Midway.time
    (kept : ∀ origin first last, effect origin first → Onward [] first last →
      effect origin last) :
    Triple (Midway env config start latest stage touched effect) (Ghost.silent (Agent.time env))
      (fun now => Midway env config start latest stage touched fun origin last =>
        effect origin last ∧ ReadSince env origin now last)
      (fun _ => LoggedAt env config start) := by
  refine Midway.continues fun origin first onward found => ?_
  have reads : Triple (Onward [] first) (Agent.time env)
      (fun now last => Onward [] first last ∧ ReadSince env first now last) (fun _ _ => True) :=
    Agent.time_onward first
  refine reads.conseq (fun world same => same ▸ .refl [] first) (fun now last both => ?_)
    fun _ _ _ => trivial
  obtain ⟨further, tick, after, before, same⟩ := both
  exact ⟨onward.trans (further.mono (by simp)), kept origin first last found further, tick,
    onward.tick.trans after, before, same⟩

theorem Midway.assign (more : List Concern) {change : World → World}
    (changed : ∀ world, Onward more world (change world)) (subset : more ⊆ touched)
    (kept : ∀ origin world, effect origin world → reaching origin (change world)) :
    Triple (Midway env config start latest stage touched effect)
      (Ghost.silent (Agent.assign change))
      (fun _ => Midway env config start latest stage touched reaching)
      (fun _ => LoggedAt env config start) :=
  Midway.continues fun origin first onward found => Triple.update fun world same => by
    subst same
    exact ⟨onward.trans ((changed world).mono subset), kept origin world found⟩

/-- A step is noted once it has touched what it is about, done what it is there for, and
the schedule allows it. Its own readings of the clock are the newest. -/
theorem Current.noted (current : Current env config start latest stage (origin, journal))
    (ticks : List Nat) (onward : Onward occurrence.touches origin next)
    (dealt : occurrence.Dealt env config origin next)
    (step : ∀ schedule, stage schedule → schedule.Agrees origin →
      ∃ after, Schedule.Step config schedule occurrence after ∧ reached after ∧
        after.Agrees next)
    (read : Schedule.readings occurrence = ticks.map env.clock)
    (inOrder : (later :: (ticks ++ [latest])).Pairwise fun newer older => older ≤ newer)
    (now : later ≤ next.tick) :
    Current env config start later reached (next, ⟨occurrence, next⟩ :: journal) := by
  obtain ⟨schedule, follows, at_, agrees⟩ := current.follows
  obtain ⟨after, stepped, arrived, agreed⟩ := step schedule at_ agrees
  have continued : Schedule.Follows config (occurrences (⟨occurrence, next⟩ :: journal)) after :=
    follows.cons stepped
  have timed : Schedule.Timed env.clock later (occurrences (⟨occurrence, next⟩ :: journal)) :=
    current.timed.cons read inOrder
  have logged := current.logged
  refine ⟨⟨?_, ?_, ?_, later, timed⟩, ⟨after, continued, arrived, agreed⟩, .refl [] next, timed,
    now⟩
  · exact forall_suffix_cons ⟨after, continued, agreed⟩ logged.follows
  · exact forall_suffix_cons ((current.untouched.mono (by simp)).trans onward) logged.touched
  · exact forall_suffix_cons (dealt.of_onward current.untouched) logged.dealt

/-- A step by which the loop changes no variable. -/
theorem Current.noted_staged (current : Current env config start latest stage (origin, journal))
    (after : Stage) (onward : Onward occurrence.touches origin next)
    (dealt : occurrence.Dealt env config origin next)
    (spared : .reader ∉ occurrence.touches ∧ .cloud ∉ occurrence.touches ∧
      .heartbeat ∉ occurrence.touches)
    (readings : Schedule.readings occurrence = [] ∨
      Schedule.readings occurrence = [env.clock latest])
    (step : ∀ schedule, stage schedule → schedule.Agrees origin →
      Schedule.Step config schedule occurrence { schedule with stage := after } ∧
        reached { schedule with stage := after }) :
    Current env config start latest reached (next, ⟨occurrence, next⟩ :: journal) := by
  have staged : ∀ schedule, stage schedule → schedule.Agrees origin →
      ∃ after, Schedule.Step config schedule occurrence after ∧ reached after ∧
        after.Agrees next := by
    intro schedule at_ agrees
    obtain ⟨stepped, arrived⟩ := step schedule at_ agrees
    exact ⟨_, stepped, arrived, (agrees.onward onward spared).staged after⟩
  have now := current.reached.trans onward.tick
  rcases readings with none | one
  · exact current.noted [] onward dealt staged none (by simp) now
  · exact current.noted [latest] onward dealt staged one (by simp) now

end Journal

namespace Timeline

section Phases

variable {env : AgentEnv} {config : EdgeConfig} {start : World} {latest : Nat}
  {stage : Schedule → Prop}

/-- Between two steps, at some reading of the clock. -/
def At (env : AgentEnv) (config : EdgeConfig) (start : World) (stage : Schedule → Prop)
    (pair : World × List Moment) : Prop := ∃ latest, Current env config start latest stage pair

/-! ## Connecting -/

def Connecting (now : Time) (schedule : Schedule) : Prop :=
  schedule.stage = .connecting now ∧ schedule.connected = false

theorem attempted_noted {world : World} {journal : List Moment}
    (current : Current env config start latest (fun schedule => schedule.stage = .turned)
      (world, journal))
    (due : world.nextReaderAttempt.reachedBy (env.clock latest) ∧ world.readerState ≠ .READY) :
    Current env config start latest (Connecting (env.clock latest))
      (world, ⟨.attempted (env.clock latest), world⟩ :: journal) := by
  refine current.noted_staged (.connecting (env.clock latest)) (.refl _ world) trivial
    (by simp [Occurrence.touches]) (.inr rfl) fun schedule at_ agrees => ?_
  have apart := agrees.apart.mpr due.2
  exact ⟨.attempted _ at_ ⟨apart, agrees.nextReaderAttempt ▸ due.1⟩, rfl, apart⟩

theorem waited_noted {world : World} {journal : List Moment}
    (current : Current env config start latest (fun schedule => schedule.stage = .turned)
      (world, journal))
    (early : ¬ (world.nextReaderAttempt.reachedBy (env.clock latest) ∧
      world.readerState ≠ .READY)) :
    Current env config start latest (fun schedule => schedule.stage = .tried)
      (world, ⟨.waited (env.clock latest), world⟩ :: journal) := by
  refine current.noted_staged .tried (.refl _ world) trivial (by simp [Occurrence.touches])
    (.inr rfl) fun schedule at_ agrees => ?_
  exact ⟨.waited _ at_ fun due =>
    early ⟨agrees.nextReaderAttempt ▸ due.2, agrees.apart.mp due.1⟩, rfl⟩

theorem tried_noted {origin world : World} {journal : List Moment}
    (current : Current env config start latest (Connecting (env.clock latest)) (origin, journal))
    (onward : Onward [.line, .reader, .health] origin world)
    (tried : Agent.Tried config (env.clock latest) origin.nextReaderAttempt world) :
    Current env config start latest (fun schedule => schedule.stage = .tried)
      (world, ⟨if world.readerState = .READY then .connected else .refused, world⟩ :: journal) := by
  have now := current.reached.trans onward.tick
  have rounds := (onward.cloud (by simp)).2
  have beats := (onward.heartbeat (by simp)).2
  cases tried with
  | ready readerState reader kept =>
      rw [if_pos readerState]
      refine current.noted [] onward trivial (fun schedule at_ agrees => ?_) rfl
        (by simp) now
      exact ⟨_, .connected _ at_.1, rfl, ⟨by simp [readerState], fun _ => reader,
        agrees.nextReaderAttempt.trans kept.symm, agrees.lastDeliveryAttempt.trans rounds.symm,
        agrees.lastHeartbeatAttempt.trans beats.symm⟩⟩
  | refused readerState scheduled =>
      rw [if_neg readerState]
      refine current.noted [] onward trivial (fun schedule at_ agrees => ?_) rfl
        (by simp) now
      exact ⟨_, .refused _ at_.1, rfl, ⟨by simp [readerState, at_.2],
        fun ready => absurd ready readerState, scheduled.symm,
        agrees.lastDeliveryAttempt.trans rounds.symm,
        agrees.lastHeartbeatAttempt.trans beats.symm⟩⟩

theorem connectPhase_midway :
    Triple (Current env config start latest (Connecting (env.clock latest)))
      (silent (Agent.connectPhase env config (env.clock latest)))
      (fun _ => Midway env config start latest (Connecting (env.clock latest))
        [.line, .reader, .health] fun origin =>
          Agent.Tried config (env.clock latest) origin.nextReaderAttempt)
      (fun _ => LoggedAt env config start) := by
  refine Current.begins fun first journal _ => ?_
  have touches : Touches [.line, .reader, .health]
      (Agent.connectPhase env config (env.clock latest)) := Agent.connectPhase_touches _
  exact ((touches first).both (Agent.connectPhase_outcome _ first.nextReaderAttempt)).conseq
    (fun _ same => ⟨same, same ▸ rfl⟩) (fun _ _ both => both) fun _ _ _ => trivial

theorem reconnectPhase_current :
    Triple (Current env config start latest fun schedule => schedule.stage = .turned)
      (Journaled.reconnectPhase note env config (env.clock latest))
      (fun _ => Current env config start latest fun schedule => schedule.stage = .tried)
      (fun _ => LoggedAt env config start) := by
  refine Triple.silent_get fun world => ?_
  split
  · rename_i due
    refine Triple.through
      (fun _ => Current env config start latest (Connecting (env.clock latest)))
      (Triple.noting fun _ journal both => ?_) fun _ =>
      Triple.bind connectPhase_midway fun _ => Triple.noting fun world journal midway => ?_
    · obtain ⟨rfl, current⟩ := both
      exact attempted_noted current due
    · obtain ⟨origin, current, onward, tried⟩ := midway
      exact tried_noted current onward tried
  · rename_i early
    refine Triple.noting fun _ journal both => ?_
    obtain ⟨rfl, current⟩ := both
    exact waited_noted current early

/-! ## Scanning -/

/-- A connected reader whose scan is being taken in. -/
def Scanning (schedule : Schedule) : Prop :=
  (schedule.stage = .scanned ∨ schedule.stage = .backlog) ∧ schedule.connected = true

/-- What is left to do after a scan: nothing but the rest of the turn, or events. -/
def ScannedAt (env : AgentEnv) (config : EdgeConfig) (start : World) :
    Option (List DetectedEvent) → World × List Moment → Prop
  | none, _ => False
  | some [], pair => At env config start Schedule.ReaderServed pair
  | some (_ :: _), pair => At env config start Scanning pair

theorem ScannedAt.of_connected {events : List DetectedEvent} {pair : World × List Moment}
    (current : Current env config start latest (fun schedule => schedule.stage = .scanned ∧
      schedule.connected = true) pair) : ScannedAt env config start (some events) pair := by
  cases events with
  | nil => exact ⟨latest, current.weaken fun _ at_ _ => .inl at_.1⟩
  | cons _ _ => exact ⟨latest, current.weaken fun _ at_ _ => ⟨.inl at_.1, at_.2⟩⟩

def Answering (schedule : Schedule) : Prop :=
  schedule.stage = .tried ∧ schedule.connected = true

/-- A ready reader's inventory was taken in. -/
structure TakenIn (env : AgentEnv) (config : EdgeConfig) (origin world : World) : Prop where
  ready : origin.readerState = .READY
  scanned : Agent.Scanned env config origin world

theorem TakenIn.onward {origin world next : World} {touched : List Concern}
    (taken : TakenIn env config origin world) (onward : Onward touched world next)
    (spared : .presence ∉ touched) : TakenIn env config origin next :=
  ⟨taken.ready, taken.scanned.onward onward spared⟩

theorem readInventory_midway (reader : IDT85Reader) :
    Triple (Current env config start latest Answering)
      (silent (Agent.readInventory env config reader))
      (fun read => Midway env config start latest Answering [.line, .presence, .health]
        fun origin world => TakenIn env config origin world ∧ Agent.QuietIfLost read)
      (fun _ => LoggedAt env config start) := by
  refine Current.begins fun first journal current => ?_
  obtain ⟨schedule, _, at_, agrees⟩ := current.follows
  have touches : Touches [.line, .presence, .health] (Agent.readInventory env config reader) :=
    Agent.readInventory_touches reader
  refine ((touches first).both ((Agent.readInventory_scanned reader first).both
    (Agent.readInventory_outcome reader (· = first)))).conseq
    (fun _ same => ⟨same, same, same⟩) (fun read last all => ?_) fun _ _ _ => trivial
  exact ⟨all.1, ⟨agrees.connected.mp at_.2, all.2.1⟩, all.2.2⟩

theorem takeOver_answered {read : InventoryRead} (ready : read.readerState = .READY) :
    Triple (Midway env config start latest Answering [.line, .presence, .health]
        (TakenIn env config))
      (Journaled.takeOver note env config read)
      (ScannedAt env config start) (fun _ => LoggedAt env config start) := by
  refine Triple.through
    (fun _ => Midway env config start latest Answering [.line, .presence, .health]
      (TakenIn env config))
    (Midway.continues fun origin first onward taken => Triple.modify fun world same => ?_)
    fun _ => Triple.bind (Midway.silent (Agent.mark_touches (List.mem_singleton_self Concern.health)
      _) (by simp) fun _ _ _ taken further => taken.onward further (by simp)) fun _ => ?_
  · subst same
    obtain ⟨readerState, reader, due⟩ := onward.reader (by simp)
    refine ⟨{ onward with reader := fun _ => ⟨?_, reader, due⟩ }, taken.ready, taken.scanned⟩
    exact ready.trans taken.ready.symm
  · rw [if_neg (by rw [ready]; decide)]
    refine Triple.bind (Triple.noting_blank fun _ => rfl) fun _ =>
      Triple.bind (Triple.noting fun world journal midway => ?_) fun _ =>
      Triple.pure fun _ scanned => scanned
    obtain ⟨origin, current, onward, taken⟩ := midway
    exact .of_connected (current.noted_staged .scanned onward taken.scanned
      (by simp [Occurrence.touches]) (.inl rfl) fun schedule at_ _ =>
        ⟨.scanned at_.1 at_.2, rfl, at_.2⟩)

/-- The reader was given up at `now`, and the loop has taken note of it. -/
structure LostAt (env : AgentEnv) (config : EdgeConfig) (now : Time) (origin world : World) : Prop
    extends TakenIn env config origin world where
  readerState : world.readerState = .DISCONNECTED
  scheduled : world.nextReaderAttempt = config.readerDiscoveryInterval.after now
  read : ReadSince env origin now world

theorem lost_noted {now : Time} {origin world : World} {journal : List Moment}
    (current : Current env config start latest Answering (origin, journal))
    (onward : Onward [.line, .reader, .presence, .health] origin world)
    (lost : LostAt env config now origin world) :
    At env config start (fun schedule => schedule.stage = .scanned)
      (world, ⟨.lost now, world⟩ :: journal) := by
  obtain ⟨tick, after, before, rfl⟩ := lost.read
  have late := current.reached.trans after
  refine ⟨tick, current.noted [tick] onward lost.scanned (fun schedule at_ agrees => ?_)
    rfl (by simp [late]) before⟩
  refine ⟨_, .lost _ at_.1 at_.2, rfl, by simp [lost.readerState], fun ready => ?_,
    lost.scheduled.symm, ?_, ?_⟩
  · exact absurd (lost.readerState.symm.trans ready) (by decide)
  · exact agrees.lastDeliveryAttempt.trans (onward.cloud (by simp)).2.symm
  · exact agrees.lastHeartbeatAttempt.trans (onward.heartbeat (by simp)).2.symm

theorem takeOver_lost {read : InventoryRead} (lost : read.readerState = .DISCONNECTED)
    (quiet : read.events = []) :
    Triple (Midway env config start latest Answering [.line, .presence, .health]
        (TakenIn env config))
      (Journaled.takeOver note env config read)
      (ScannedAt env config start) (fun _ => LoggedAt env config start) := by
  refine Triple.through (fun _ => Midway env config start latest Answering
    [.line, .reader, .presence, .health] fun origin world =>
      TakenIn env config origin world ∧ world.readerState = .DISCONNECTED)
    (Midway.continues fun origin first onward taken => Triple.modify fun world same => ?_)
    fun _ => Triple.bind (Midway.silent (Agent.mark_touches (List.mem_singleton_self Concern.health)
      _) (by simp) fun _ _ _ both further => ?_) fun _ => ?_
  · subst same
    refine ⟨(onward.mono (by simp)).trans ?_, ⟨taken.ready, taken.scanned⟩, lost⟩
    exact { Onward.refl _ world with reader := fun kept => by simp at kept }
  · exact ⟨both.1.onward further (by simp), (further.reader (by simp)).1.trans both.2⟩
  rw [if_pos lost]
  refine Triple.bind (Triple.noting_blank fun _ => rfl) fun _ =>
    Triple.bind (Midway.time fun _ _ _ both further => ?_) fun now =>
    Triple.through (fun _ => Midway env config start latest Answering
      [.line, .reader, .presence, .health] (LostAt env config now))
    (Midway.assign [.reader] (fun world => ?_) (by simp) fun origin world both => ?_)
    fun _ => Triple.bind (Triple.noting fun world journal midway => ?_) fun _ =>
    Triple.pure fun _ scanned => scanned
  · exact ⟨both.1.onward further (by simp), (further.reader (by simp)).1.trans both.2⟩
  · exact { Onward.refl _ world with reader := fun kept => by simp at kept }
  · exact ⟨⟨both.1.1.ready, both.1.1.scanned⟩, both.1.2, rfl, both.2⟩
  · obtain ⟨origin, current, onward, lostAt⟩ := midway
    obtain ⟨tick, current⟩ := lost_noted current onward lostAt
    rw [quiet]
    exact ⟨tick, current.weaken fun _ at_ _ => .inl at_⟩

theorem scanPhase_current :
    Triple (Current env config start latest fun schedule => schedule.stage = .tried)
      (Journaled.scanPhase note env config)
      (ScannedAt env config start) (fun _ => LoggedAt env config start) := by
  refine Triple.silent_get fun world => ?_
  split
  · rename_i apart
    refine Triple.pure fun pair both => ?_
    obtain ⟨rfl, current⟩ := both
    exact ⟨latest, current.weaken fun _ at_ agrees => .inr (.inr ⟨at_, agrees.apart.mpr apart⟩)⟩
  · rename_i ready
    have ready := not_not.mp ready
    cases held : world.reader with
    | none =>
        -- A connected reader is there to be scanned.
        intro pair both
        obtain ⟨rfl, current⟩ := both
        obtain ⟨schedule, _, _, agrees⟩ := current.follows
        simpa [held] using agrees.reader ready
    | some reader =>
        refine Triple.through (fun read => Midway env config start latest Answering
          [.line, .presence, .health] fun origin world =>
            TakenIn env config origin world ∧ Agent.QuietIfLost read)
          ((readInventory_midway reader).before fun pair both => ?_) fun read => ?_
        · obtain ⟨rfl, current⟩ := both
          exact current.weaken fun _ at_ agrees => ⟨at_, agrees.connected.mpr ready⟩
        · rintro pair ⟨origin, current, onward, taken, outcome⟩
          rcases outcome with answered | lost
          · exact takeOver_answered answered pair ⟨origin, current, onward, taken⟩
          · exact takeOver_lost lost.1 lost.2 pair ⟨origin, current, onward, taken⟩

/-! ## Enqueueing -/

def Backlogged (schedule : Schedule) : Prop :=
  schedule.stage = .backlog ∧ schedule.connected = true

theorem enqueue_enqueued (payload : EventPayload) (first : World) :
    Triple (· = first) (onDelivery (Delivery.enqueue env.delivery payload))
      (fun _ last => Delivery.Enqueued env.delivery payload first.delivery last.delivery)
      (fun _ _ => True) := by
  have enqueued : Triple (· = first.delivery) (Delivery.enqueue env.delivery payload)
      (fun _ last => Delivery.Enqueued env.delivery payload first.delivery last)
      (fun _ _ => True) := by
    refine Delivery.statement_triple _ (fun state same => ?_) fun _ _ _ => trivial
    subst same
    exact ⟨_, le_rfl, Nat.le_succ _, rfl⟩
  intro world same
  have zoomed := Triple.zoom World.deliveryPart (fun _ => ()) (fun _ _ => rfl) enqueued
    (fun _ => True) world ⟨congrArg World.delivery same, trivial⟩
  exact zoomed.imp (fun _ _ both => both.1) fun _ _ _ => trivial

theorem enqueue_midway (payload : EventPayload) :
    Triple (Midway env config start latest stage [.health] fun _ _ => True)
      (silent (onDelivery (Delivery.enqueue env.delivery payload)))
      (fun _ => Midway env config start latest stage [.rows, .health] fun origin world =>
        Delivery.Enqueued env.delivery payload origin.delivery world.delivery)
      (fun _ => LoggedAt env config start) := by
  refine Midway.continues fun origin first onward _ => ?_
  have touches : Touches [.rows] (onDelivery (Delivery.enqueue env.delivery payload)) :=
    Agent.enqueue_touches payload
  refine ((touches first).both (enqueue_enqueued payload first)).conseq
    (fun _ same => ⟨same, same⟩) (fun _ last both => ?_) fun _ _ _ => trivial
  exact ⟨(onward.mono (by simp)).trans (both.1.mono (by simp)),
    Delivery.Enqueued.of_onward onward (by simp) both.2⟩

theorem enqueue_backlogged (event : DetectedEvent) (rest : List DetectedEvent)
    {post : World × List Moment → Prop}
    (continued : Triple (At env config start Backlogged)
      (Journaled.enqueueEvents note env config rest)
      (fun _ => post) (fun _ => LoggedAt env config start)) :
    Triple (At env config start Scanning)
      (Journaled.enqueueEvents note env config (event :: rest))
      (fun _ => post) (fun _ => LoggedAt env config start) := by
  have marked : Touches [.health] (Agent.mark env HealthState.markEvent) :=
    Agent.mark_touches (List.mem_singleton_self Concern.health) _
  refine Triple.of_exists fun latest => Triple.bind (Current.begins fun first _ _ =>
      (marked first).conseq (fun _ same => same) (fun _ _ onward => ⟨onward, trivial⟩)
        fun _ _ _ => trivial) fun _ =>
    Triple.bind (Midway.silent (Agent.quietly_touches fun _ => .refl []) (by simp)
      fun _ _ _ _ _ => trivial) fun sendAt =>
    Triple.bind (enqueue_midway _) fun _ =>
    Triple.bind (Triple.noting fun world journal midway => ?_) fun _ => continued
  obtain ⟨origin, current, onward, enqueued⟩ := midway
  exact ⟨latest, current.noted_staged .backlog onward ⟨event, sendAt, enqueued⟩
    (by simp [Occurrence.touches]) (.inl rfl) fun schedule at_ _ =>
      ⟨.enqueued at_.1 at_.2, rfl, at_.2⟩⟩

theorem enqueueEvents_backlogged (events : List DetectedEvent) :
    Triple (At env config start Backlogged) (Journaled.enqueueEvents note env config events)
      (fun _ => At env config start Backlogged) (fun _ => LoggedAt env config start) := by
  induction events with
  | nil => exact Triple.pure fun _ backlogged => backlogged
  | cons event rest ih =>
      refine (enqueue_backlogged event rest ih).before fun pair backlogged => ?_
      obtain ⟨latest, current⟩ := backlogged
      exact ⟨latest, current.weaken fun _ at_ _ => ⟨.inr at_.1, at_.2⟩⟩

def EnqueuedAt (env : AgentEnv) (config : EdgeConfig) (start : World) :
    List DetectedEvent → World × List Moment → Prop
  | [], pair => At env config start Schedule.ReaderServed pair
  | _ :: _, pair => At env config start Backlogged pair

theorem enqueueEvents_current (events : List DetectedEvent) :
    Triple (ScannedAt env config start (some events))
      (Journaled.enqueueEvents note env config events)
      (fun _ => EnqueuedAt env config start events) (fun _ => LoggedAt env config start) := by
  cases events with
  | nil => exact Triple.pure fun _ served => served
  | cons event rest => exact enqueue_backlogged event rest (enqueueEvents_backlogged rest)

/-! ## Rounds of deliveries -/

/-- What a round of deliveries leaves of the schedule. -/
structure RoundRun (schedule after : Schedule) (done : Time) : Prop where
  connected : after.connected = schedule.connected
  nextReaderAttempt : after.nextReaderAttempt = schedule.nextReaderAttempt
  lastDeliveryAttempt : after.lastDeliveryAttempt = done
  lastHeartbeatAttempt : after.lastHeartbeatAttempt = schedule.lastHeartbeatAttempt

theorem RoundRun.agrees {schedule after : Schedule} {done : Time} {world next : World}
    (run : RoundRun schedule after done) (agrees : schedule.Agrees world)
    (onward : Onward [.cloud, .health] world next) (attempted : next.lastDeliveryAttempt = done) :
    after.Agrees next := by
  refine agrees.spared onward (by simp) ⟨run.connected, run.nextReaderAttempt⟩
    (run.lastDeliveryAttempt.trans attempted.symm) ?_
  rw [run.lastHeartbeatAttempt, (onward.heartbeat (by simp)).2]
  exact agrees.lastHeartbeatAttempt

/-- One round of deliveries was run, and finished at `done` by the clock. -/
structure RoundDone (env : AgentEnv) (config : EdgeConfig) (done : Time) (origin world : World) :
    Prop where
  rounded : Rounded env config origin world
  read : ReadSince env origin done world
  attempted : world.lastDeliveryAttempt = done

theorem process_rounded (first : World) :
    Triple (· = first)
      (onDelivery (Delivery.processPendingDeliveries env.delivery config.queueBatchSize))
      (fun _ => Rounded env config first) (fun _ _ => True) := by
  intro world same
  subst same
  have zoomed := Triple.zoom World.deliveryPart (fun _ => ()) (fun _ _ => rfl)
    (Delivery.processPendingDeliveries_triple env.delivery config.queueBatchSize world.delivery)
    (fun _ => True) world ⟨rfl, trivial⟩
  exact zoomed.imp (fun delivered last both => ⟨delivered, both.1⟩) fun _ _ _ => trivial

/-- The queries and sends of a round, from one step to the next. -/
theorem round_midway (stage : Schedule → Prop) {β : Type} {next : Time → Journaled Moment β}
    {post : β → World × List Moment → Prop}
    (rest : ∀ done, Triple (Midway env config start latest stage [.cloud, .health]
      (RoundDone env config done)) (next done) post fun _ => LoggedAt env config start) :
    Triple (Current env config start latest stage) (do
        let _ ← silent (onDelivery (Delivery.pendingCount env.delivery))
        let _ ← silent
          (onDelivery (Delivery.processPendingDeliveries env.delivery config.queueBatchSize))
        let done ← silent (Agent.time env)
        silent (Agent.assign fun world => { world with lastDeliveryAttempt := done })
        next done)
      post (fun _ => LoggedAt env config start) := by
  have processed : Touches [.cloud, .health]
      (onDelivery (Delivery.processPendingDeliveries env.delivery config.queueBatchSize)) :=
    Agent.process_touches
  refine Triple.bind (Current.silent Agent.pendingCount_touches) fun _ =>
    Triple.bind (Current.begins fun first _ _ => ((processed first).both
      (process_rounded first)).conseq (fun _ same => ⟨same, same⟩) (fun _ _ both => both)
        fun _ _ _ => trivial) fun _ =>
    Triple.bind (Midway.time fun origin first last rounded onward =>
      Rounded.onward rounded onward (by simp)) fun done =>
    Triple.bind (Midway.assign [.cloud] (fun world => ?_) (by simp)
      fun origin world both => ⟨both.1, both.2, rfl⟩) fun _ => rest done
  exact { Onward.refl _ world with cloud := fun kept => by simp at kept }

/-- A round of deliveries that the schedule allows, noted as `occurrence`. -/
theorem round_noted {reached : Schedule → Prop} (occurrence : Occurrence) {done : Time}
    (cloud : occurrence.touches = [.cloud, .health])
    (dealt : ∀ {first last : World}, Rounded env config first last →
      occurrence.Dealt env config first last)
    (readings : Schedule.readings occurrence = [done] ∨
      Schedule.readings occurrence = [done, env.clock latest])
    (step : ∀ schedule, stage schedule → ∃ after,
      Schedule.Step config schedule occurrence after ∧ reached after ∧
        RoundRun schedule after done)
    {world : World} {journal : List Moment}
    (midway : Midway env config start latest stage [.cloud, .health] (RoundDone env config done)
      (world, journal)) :
    At env config start reached (world, ⟨occurrence, world⟩ :: journal) := by
  obtain ⟨origin, current, onward, run⟩ := midway
  obtain ⟨tick, after, before, rfl⟩ := run.read
  have late := current.reached.trans after
  have stepped : ∀ schedule, stage schedule → schedule.Agrees origin →
      ∃ after, Schedule.Step config schedule occurrence after ∧ reached after ∧
        after.Agrees world := by
    intro schedule at_ agrees
    obtain ⟨after, stepped, arrived, ran⟩ := step schedule at_
    exact ⟨after, stepped, arrived, ran.agrees agrees onward run.attempted⟩
  rcases readings with one | two
  · exact ⟨tick, current.noted [tick] (cloud ▸ onward) (dealt run.rounded) stepped one
      (by simp [late]) before⟩
  · exact ⟨tick, current.noted [tick, latest] (cloud ▸ onward) (dealt run.rounded) stepped
      two (by simp [late]) before⟩

theorem deliverEvents_current (events : List DetectedEvent) :
    Triple (EnqueuedAt env config start events) (Journaled.deliverEvents note env config events)
      (fun _ => At env config start Schedule.ReaderServed)
      (fun _ => LoggedAt env config start) := by
  unfold Journaled.deliverEvents
  cases events with
  | nil => exact Triple.pure fun _ served => served
  | cons event rest =>
      rw [if_pos (List.cons_ne_nil event rest)]
      simp only [Agent.attemptImmediateDelivery, silent_bind, bind_assoc]
      refine Triple.of_exists fun latest => round_midway _ fun done => Triple.noting
        fun world journal midway => round_noted (.delivered done) rfl (fun rounded => rounded)
          (.inl rfl) (fun schedule at_ => ?_) midway
      exact ⟨_, .delivered done at_.1, .inr (.inl rfl), rfl, rfl, rfl, rfl⟩

theorem retryDeliveries_current :
    Triple (At env config start Schedule.ReaderServed)
      (Journaled.retryDeliveries note env config)
      (fun _ => At env config start fun schedule => schedule.stage = .served)
      (fun _ => LoggedAt env config start) := by
  refine Triple.of_exists fun latest => Current.then_time fun now =>
    Triple.silent_get fun world => ?_
  split
  · rename_i due
    simp only [Agent.attemptImmediateDelivery, silent_bind, bind_assoc]
    refine Triple.before (round_midway
      (fun schedule => schedule.ReaderServed ∧ schedule.RoundDue config (env.clock now))
      fun done => Triple.noting fun world journal midway => round_noted (.retried _ done) rfl
        (fun rounded => rounded) (.inr rfl) (fun schedule at_ => ?_) midway) fun pair both => ?_
    · exact ⟨_, .retried _ done at_.1 at_.2, rfl, rfl, rfl, rfl, rfl⟩
    · obtain ⟨rfl, current⟩ := both
      exact current.weaken fun _ at_ agrees => ⟨at_, (agrees.roundDue _).mpr due⟩
  · rename_i early
    refine Triple.noting fun _ journal both => ?_
    obtain ⟨rfl, current⟩ := both
    exact ⟨now, current.noted_staged .served (.refl _ _) trivial (by simp [Occurrence.touches])
      (.inr rfl) fun schedule at_ agrees =>
        ⟨.held _ at_ fun due => early ((agrees.roundDue _).mp due), rfl⟩⟩

/-! ## Heartbeats -/

/-- A heartbeat was sent, and the clock read `done` afterwards. -/
structure BeatDone (env : AgentEnv) (done : Time) (origin world : World) : Prop where
  beaten : Agent.Beaten origin world
  read : ReadSince env origin done world
  sent : world.lastHeartbeatAttempt = done

theorem beat_noted {done : Time} {origin world : World} {journal : List Moment}
    (current : Current env config start latest (fun schedule => schedule.stage = .served ∧
      schedule.HeartbeatDue config (env.clock latest)) (origin, journal))
    (onward : Onward [.heartbeat] origin world) (beat : BeatDone env done origin world) :
    At env config start (fun schedule => schedule.stage = .rested)
      (world, ⟨.beat (env.clock latest) done, world⟩ :: journal) := by
  obtain ⟨tick, after, before, rfl⟩ := beat.read
  have late := current.reached.trans after
  refine ⟨tick, current.noted [tick, latest] onward beat.beaten
    (fun schedule at_ agrees => ?_) rfl (by simp [late]) before⟩
  exact ⟨_, .beat _ _ at_.1 at_.2, rfl, agrees.spared onward (by simp) ⟨rfl, rfl⟩
    (agrees.lastDeliveryAttempt.trans (onward.cloud (by simp)).2.symm) beat.sent.symm⟩

theorem Beaten.onward {origin world next : World} {touched : List Concern}
    (beaten : Agent.Beaten origin world) (onward : Onward touched world next)
    (spared : .heartbeat ∉ touched) : Agent.Beaten origin next :=
  beaten.imp fun _ sent => (onward.heartbeat spared).1.trans sent

theorem heartbeatPhase_current :
    Triple (At env config start fun schedule => schedule.stage = .served)
      (Journaled.heartbeatPhase note env config)
      (fun _ => At env config start fun schedule => schedule.stage = .rested)
      (fun _ => LoggedAt env config start) := by
  have sent : Touches [.heartbeat] (Agent.sendHeartbeat env config) := Agent.sendHeartbeat_touches
  refine Triple.of_exists fun latest => Current.then_time fun now =>
    Triple.silent_get fun world => ?_
  split
  · rename_i due
    refine Triple.through (fun _ => Current env config start now fun schedule =>
        schedule.stage = .served ∧ schedule.HeartbeatDue config (env.clock now))
      (Triple.noting fun _ journal both => ?_) fun _ =>
      Triple.bind (Current.begins fun first _ _ => ((sent first).both
        (Agent.sendHeartbeat_beats first)).conseq (fun _ same => ⟨same, same⟩)
          (fun _ _ both => both) fun _ _ _ => trivial) fun _ =>
      Triple.bind (Midway.time fun origin first last beaten onward =>
        Beaten.onward beaten onward (by simp)) fun done =>
      Triple.through (fun _ => Midway env config start now _ [.heartbeat] (BeatDone env done))
        (Midway.assign [.heartbeat] (fun world => ?_) (by simp) fun origin world both =>
          ⟨both.1, both.2, rfl⟩) fun _ =>
      Triple.noting fun world journal midway => ?_
    · obtain ⟨rfl, current⟩ := both
      exact current.weaken fun _ at_ agrees => ⟨at_, (agrees.heartbeatDue _).mpr due⟩
    · exact { Onward.refl _ world with heartbeat := fun kept => by simp at kept }
    · obtain ⟨origin, current, onward, beat⟩ := midway
      exact beat_noted current onward beat
  · rename_i early
    refine Triple.noting fun _ journal both => ?_
    obtain ⟨rfl, current⟩ := both
    exact ⟨now, current.noted_staged .rested (.refl _ _) trivial (by simp [Occurrence.touches])
      (.inr rfl) fun schedule at_ agrees =>
        ⟨.quiet _ at_ fun due => early ((agrees.heartbeatDue _).mp due), rfl⟩⟩

/-! ## Turns -/

/-- Between two turns: since the last step the process may have slept. -/
def Resting (env : AgentEnv) (config : EdgeConfig) (start : World)
    (pair : World × List Moment) : Prop :=
  ∃ latest, Midway env config start latest (fun schedule => schedule.stage = .rested) [.pause]
    (fun _ _ => True) pair

theorem Resting.logged {pair : World × List Moment} (resting : Resting env config start pair) :
    LoggedAt env config start pair := by
  obtain ⟨latest, origin, current, -⟩ := resting
  exact current.logged

theorem At.resting {pair : World × List Moment}
    (rested : At env config start (fun schedule => schedule.stage = .rested) pair) :
    Resting env config start pair := by
  obtain ⟨latest, current⟩ := rested
  exact ⟨latest, pair.1, current, .refl _ pair.1, trivial⟩

theorem Resting.silent {α : Type} {program : Agent α} (touches : Touches [.pause] program) :
    Triple (Resting env config start) (Ghost.silent program)
      (fun _ => Resting env config start) (fun _ => LoggedAt env config start) :=
  Triple.of_exists fun latest => (Midway.silent touches (List.Subset.refl _)
    fun _ _ _ _ _ => trivial).returning fun _ _ midway => ⟨latest, midway⟩

theorem turn_resting (turns : Nat) :
    Triple (Resting env config start) (Journaled.turn note env config turns)
      (fun _ => Resting env config start) (fun _ => LoggedAt env config start) := by
  have turned : Triple (Resting env config start) (noting (note .turned))
      (fun _ => At env config start fun schedule => schedule.stage = .turned)
      (fun (_ : Exn) => LoggedAt env config start) := by
    refine Triple.noting fun world journal resting => ?_
    obtain ⟨latest, origin, current, onward, -⟩ := resting
    exact ⟨latest, current.noted_staged .turned onward trivial (by simp [Occurrence.touches])
      (.inl rfl) fun schedule at_ _ => ⟨.turned at_, rfl⟩⟩
  refine Triple.bind turned fun _ => Triple.of_exists fun latest =>
    Triple.bind (Current.silent Agent.time_touches) fun scanStart => Current.then_time fun now =>
    Triple.bind reconnectPhase_current fun _ => Triple.bind scanPhase_current
    fun scanned => ?_
  cases scanned with
  | none => exact fun _ impossible => impossible.elim
  | some events =>
      exact Triple.bind (enqueueEvents_current events) fun _ =>
        Triple.bind (deliverEvents_current events) fun _ =>
        Triple.bind retryDeliveries_current fun _ => Triple.bind heartbeatPhase_current fun _ =>
        (Resting.silent (Agent.sleepPhase_touches scanStart turns)).before
          fun _ rested => At.resting rested

theorem loop_resting (turns : Nat) :
    Triple (Resting env config start) (Journaled.loop note env config turns)
      (fun _ => Resting env config start) (fun _ => LoggedAt env config start) := by
  induction turns with
  | zero => exact Triple.throw fun _ resting => resting.logged
  | succ turns ih =>
      refine Triple.bind (Resting.silent Agent.noteHead_touches) fun _ =>
        Triple.bind (Resting.silent (Agent.quietly_touches fun _ => .refl _)) fun stop => ?_
      split
      · exact Triple.pure fun _ resting => resting
      · exact Triple.bind (turn_resting turns) fun _ => ih

theorem supervise_logged (turns : Nat) :
    Triple (Resting env config start) (Journaled.supervise note env config turns)
      (fun _ => LoggedAt env config start) (fun _ => LoggedAt env config start) := by
  have looped : Triple (Resting env config start)
      (attempt Agent.stoppedByKey (Journaled.loop note env config turns))
      (fun _ => LoggedAt env config start) (fun _ => LoggedAt env config start) :=
    Triple.attempt ((loop_resting turns).returning fun _ _ resting => resting.logged)
      (fun _ _ _ _ logged => logged) fun _ _ _ logged => logged
  have cleaned : Preserves (LoggedAt env config start) (silent (Agent.cleanup env)) := by
    refine Triple.silent fun journal world logged => ?_
    exact (Triple.any (fun _ => True) (Agent.cleanup env) world trivial).imp
      (fun _ _ _ => logged) fun _ _ _ => logged
  exact Triple.ensuring (Triple.bind looped fun _ => Triple.pure fun _ logged => logged)
    (fun _ => cleaned) (fun _ _ => cleaned) fun _ _ _ logged => logged

theorem booted_current (env : AgentEnv) (config : EdgeConfig) (world : World) :
    Current env config (world.boot config) world.tick (fun schedule => schedule.stage = .boot)
      (world.boot config, []) where
  logged := ⟨fun _ _ suffix => absurd suffix (by simp), fun _ _ suffix => absurd suffix (by simp),
    fun _ _ suffix => absurd suffix (by simp), world.tick, [], rfl, .nil, by simp⟩
  follows := ⟨Schedule.boot, .nil, rfl, by simp [Schedule.boot, World.boot], by simp [World.boot],
    rfl, rfl, rfl⟩
  untouched := .refl [] _
  timed := ⟨[], rfl, .nil, by simp⟩
  reached := le_rfl

theorem runAgent_logged (turns : Nat) (world : World) :
    Triple (· = (world, [])) (Journaled.runAgent note env config turns)
      (fun _ => LoggedAt env config (world.boot config))
      (fun _ => LoggedAt env config (world.boot config)) := by
  have boots : Triple (· = (world, [])) (silent (Agent.assign (World.boot config)))
      (fun _ => Current env config (world.boot config) world.tick
        fun schedule => schedule.stage = .boot)
      (fun _ => LoggedAt env config (world.boot config)) :=
    Triple.silent fun journal => Triple.modify fun _ same => by
      obtain ⟨rfl, rfl⟩ := Prod.mk.inj same
      exact booted_current env config _
  have opened : Touches []
      (onDelivery (Delivery.statement env.delivery fun queue _ => ((), queue))) :=
    Touches.onDelivery (Delivery.statement_counts _) (fun _ shown =>
      Delivery.statement_triple _ (fun _ same => same) fun _ _ same => same)
      (fun _ _ => Delivery.query_queue _) (fun _ => Delivery.statement_cloud _)
      fun _ => Delivery.statement_health _
  refine Triple.bind boots fun _ => ?_
  split
  · exact Triple.throw fun _ current => current.logged
  · refine Triple.bind (Current.silent opened) fun _ => round_midway _ fun done =>
      Triple.bind (Triple.noting fun world journal midway => round_noted (.started done) rfl
        (fun rounded => rounded) (.inl rfl) (fun schedule at_ => ?_) midway) fun _ =>
      (supervise_logged turns).before fun _ rested => At.resting rested
    exact ⟨_, .started done at_, rfl, rfl, rfl, rfl, rfl⟩

end Phases

end Timeline

end MvdEdge
