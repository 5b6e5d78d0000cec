import MvdEdge.App.TimelineProperties

/-! How the runs of `run_agent` keep time: the schedule they follow, how often they try
to connect and send heartbeats, and how their turns end. -/

set_option autoImplicit false

namespace MvdEdge

open Lib Lib.Effect

/-- A run and the journal of its steps, newest first. -/
def timeline (env : AgentEnv) (config : EdgeConfig) (turns : Nat) (world : World) :
    World × List Moment :=
  after (Journaled.runAgent Timeline.note env config turns) (world, [])

theorem timeline_logged (env : AgentEnv) (config : EdgeConfig) (turns : Nat) (world : World) :
    Logged env config (world.boot config) (timeline env config turns world).2 :=
  Triple.after (Timeline.runAgent_logged turns world) rfl

theorem timeline_world (env : AgentEnv) (config : EdgeConfig) (turns : Nat) (world : World) :
    (timeline env config turns world).1 = after (Agent.runAgent env config turns) world :=
  (Journaled.runAgent_erases turns).after world []

/-- Every run keeps to the schedule. At each step its variables are those of the
schedule, and since the step before it did what it is there for and touched nothing
else. The readings of the clock are noted in the order in which they were taken. -/
theorem runAgent_keeps_schedule (env : AgentEnv) (config : EdgeConfig) (turns : Nat)
    (world : World) :
    let run := timeline env config turns world
    let start := world.boot config
    run.1 = after (Agent.runAgent env config turns) world ∧
    (∀ moment past, moment :: past <:+ run.2 →
      (∃ schedule, Schedule.Follows config (occurrences (moment :: past)) schedule ∧
        schedule.Agrees moment.world) ∧
      moment.world.heartbeats.length = (Schedule.beats (occurrences (moment :: past))).length ∧
      Onward moment.occurrence.touches (worldAfter start past) moment.world ∧
      moment.occurrence.Dealt env config (worldAfter start past) moment.world) ∧
    ∃ latest, Schedule.Timed env.clock latest (occurrences run.2) := by
  have logged := timeline_logged env config turns world
  refine ⟨timeline_world env config turns world, fun moment past suffix => ?_, logged.timed⟩
  exact ⟨logged.follows moment past suffix, logged.heartbeats rfl suffix,
    logged.touched moment past suffix, logged.dealt moment past suffix⟩

section Journal

variable {env : AgentEnv} {config : EdgeConfig} {start : World}

theorem Logged.suffix {journal past : List Moment} (logged : Logged env config start journal)
    (suffix : past <:+ journal) :
    ∃ schedule, Schedule.Follows config (occurrences past) schedule := by
  cases past with
  | nil => exact ⟨Schedule.boot, .nil⟩
  | cons moment older =>
      obtain ⟨schedule, follows, _⟩ := logged.follows moment older suffix
      exact ⟨schedule, follows⟩

theorem Logged.earlier {journal : List Moment} {past : List Occurrence}
    (logged : Logged env config start journal) (suffix : past <:+ occurrences journal) :
    ∃ schedule, Schedule.Follows config past schedule := by
  obtain ⟨schedule, follows⟩ := logged.suffix List.suffix_rfl
  exact follows.suffix suffix

theorem Logged.ordered {journal : List Moment} (logged : Logged env config start journal)
    (steady : Monotone env.clock) : Schedule.Ordered (occurrences journal) := by
  obtain ⟨latest, timed⟩ := logged.timed
  exact timed.ordered steady

end Journal

/-! ## Attempts to connect -/

/-- Whatever the clock does, an attempt to connect is the first of the process, or the
interval has passed since the reader was last given up. Where the clock does not step
back, the attempts in any window of time are as few as the interval allows, but for the
rounding of the time at which the next one is due. -/
theorem runAgent_attempts_paced (env : AgentEnv) (config : EdgeConfig) (turns : Nat)
    (world : World) :
    let run := timeline env config turns world
    let journal := occurrences run.2
    run.1 = after (Agent.runAgent env config turns) world ∧
    (∀ now past, .attempted now :: past <:+ journal →
      (Schedule.attempts past = [] ∧ Schedule.lastFailure past = none) ∨
      ∃ failed, Schedule.lastFailure past = some failed ∧
        (config.readerDiscoveryInterval.after failed).reachedBy now = true) ∧
    ∀ (interval : ℚ) (exponent : ℕ), config.readerDiscoveryInterval = .finite interval →
      Monotone env.clock →
      (∀ now ∈ journal.flatMap Schedule.readings, |now + interval| < 2 ^ exponent) →
      let gap := interval - 2 ^ exponent / 2 ^ 54
      Paced gap (Schedule.attempts journal) ∧
      (0 < gap → ∀ opens width : ℚ, 0 ≤ width →
        (((Schedule.attempts journal).filter fun now =>
          opens ≤ now ∧ now ≤ opens + width).length : ℚ) ≤ width / gap + 1) := by
  intro run journal
  have logged := timeline_logged env config turns world
  refine ⟨timeline_world env config turns world, fun now past made => ?_,
    fun interval exponent finite steady small => ?_⟩
  · obtain ⟨schedule, follows⟩ := logged.earlier made
    exact Schedule.Follows.attempted follows
  · obtain ⟨schedule, follows⟩ := logged.earlier List.suffix_rfl
    have paced := Schedule.Follows.attempts_paced follows (logged.ordered steady) small finite
    exact ⟨paced, fun positive => paced.count_window positive⟩

/-- A clock that moves on with every operation, and a reader that never answers. -/
def tickingEnv : AgentEnv :=
  { sampleSurroundings with clock := fun tick => tick, line := ⟨fun _ => none, fun _ => []⟩ }

def tickingConfig : EdgeConfig :=
  { sampleConfig with
    readerDiscoveryInterval := .finite 15
    queueRetryInterval := .finite 30
    heartbeatInterval := .finite 20 }

theorem tickingEnv_monotone : Monotone tickingEnv.clock := fun _ _ le => Nat.cast_le.mpr le

/-- Four attempts in eight turns, each at least fifteen ticks after the one before. -/
theorem runAgent_attempts_paced_ticking :
    let journal := occurrences (timeline tickingEnv tickingConfig 8 sampleWorld).2
    let gap : ℚ := 15 - 2 ^ 7 / 2 ^ 54
    Schedule.attempts journal = [59, 40, 20, 3] ∧ Paced gap (Schedule.attempts journal) ∧
      (((Schedule.attempts journal).filter fun now => 0 ≤ now ∧ now ≤ 0 + 45).length : ℚ) ≤
        45 / gap + 1 := by
  intro journal gap
  have paced := (runAgent_attempts_paced tickingEnv tickingConfig 8 sampleWorld).2.2 15 7 rfl
    tickingEnv_monotone (by decide +kernel)
  exact ⟨by decide +kernel, paced.1, paced.2 (by norm_num) 0 45 (by norm_num)⟩

/-! ## Turns -/

/-- The loop goes round only after a whole turn: the events of its scan, if any, have had
their round of deliveries, then the queue was checked and a round run exactly when it was
due, then the same with the heartbeat. The rounds and heartbeats of the journal are those
that were run and sent, and heartbeats keep their interval, but for the rounding of the
time since the last one. -/
theorem runAgent_finishes_turns (env : AgentEnv) (config : EdgeConfig) (turns : Nat)
    (world : World) :
    let run := timeline env config turns world
    let journal := occurrences run.2
    run.1 = after (Agent.runAgent env config turns) world ∧
    (∀ past, .turned :: past <:+ journal → Schedule.Rested config past) ∧
    (∀ moment past, moment :: past <:+ run.2 →
      moment.occurrence.Dealt env config (worldAfter (world.boot config) past) moment.world ∧
      moment.world.heartbeats.length =
        (Schedule.beats (occurrences (moment :: past))).length) ∧
    (∀ now done past, .beat now done :: past <:+ journal →
      config.heartbeatInterval.reachedBy (timeSince now (Schedule.lastBeat past)) = true) ∧
    ∀ (interval : ℚ) (exponent : ℕ), config.heartbeatInterval = .finite interval →
      Monotone env.clock → (∀ now ∈ journal.flatMap Schedule.readings, |now| < 2 ^ exponent) →
      Paced (interval - 2 ^ exponent / 2 ^ 53) (Schedule.beats journal) := by
  intro run journal
  have logged := timeline_logged env config turns world
  refine ⟨timeline_world env config turns world, fun past turned => ?_,
    fun moment past suffix => ?_, fun now done past sent => ?_,
    fun interval exponent finite steady small => ?_⟩
  · obtain ⟨schedule, follows⟩ := logged.earlier turned
    exact Schedule.Follows.turned follows
  · exact ⟨logged.dealt moment past suffix, logged.heartbeats rfl suffix⟩
  · obtain ⟨schedule, follows⟩ := logged.earlier sent
    exact Schedule.Follows.beaten follows
  · obtain ⟨schedule, follows⟩ := logged.earlier List.suffix_rfl
    exact Schedule.Follows.beats_paced follows (logged.ordered steady) small finite

end MvdEdge
