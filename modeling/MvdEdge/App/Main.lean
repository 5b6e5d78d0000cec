import MvdEdge.App.Discipline
import MvdEdge.App.Interruptions
import MvdEdge.App.StoreAndForward
import MvdEdge.Config.Timings

/-! The command line: what an exit status says of the process. -/

set_option autoImplicit false

namespace MvdEdge

open Lib Lib.Effect PresenceState

/-- The result of `parse_args`. -/
structure Arguments where
  version : Bool
  checkConfig : Bool

section CommandLine

variable (texts : Config.FloatTexts) (sources : Config.Sources)

/-- `EdgeConfig.from_env`, as `run_agent` gets it. -/
def configured : Except Config.ConfigError EdgeConfig :=
  match accepted : Config.fromEnv texts sources none with
  | .error failure => .error failure
  | .ok _ => .ok (Config.agentConfig accepted)

/-- `check_config`, which only prints. -/
def checkConfig : Nat :=
  match configured texts sources with
  | .error _ => 1
  | .ok _ => 0

/-- `main`, with its exit status. -/
def main (arguments : Arguments) (env : AgentEnv) (turns : Nat) : Agent Nat :=
  if arguments.version then return 0
  else if arguments.checkConfig then return checkConfig texts sources
  else
    match configured texts sources with
    | .error _ => return 1
    | .ok config => do
        let outcome ← attempt Exn.caught (Agent.runAgent env config turns)
        match outcome with
        | .ok _ => return 0
        | .error _ => return 1

end CommandLine

/-- With the handlers of `install_signal_handlers` in place, no signal raises
`KeyboardInterrupt`. -/
structure AgentEnv.HandlesSignals (env : AgentEnv) : Prop where
  process : ∀ tick, env.fault tick ≠ some .keyboardInterrupt
  line : ∀ tick, env.line.fault tick ≠ some .keyboardInterrupt
  delivery : ∀ tick, env.delivery.fault tick ≠ some .keyboardInterrupt

theorem AgentEnv.HandlesSignals.permits {env : AgentEnv} (handles : env.HandlesSignals) :
    env.Permits (· ≠ .keyboardInterrupt) where
  exceptions := by simp
  killed := by simp
  process := fun tick failure stored same => handles.process tick (same ▸ stored)
  line := fun tick failure stored same => handles.line tick (same ▸ stored)
  delivery := fun tick failure stored same => handles.delivery tick (same ▸ stored)

namespace Agent

section Returning

variable {env : AgentEnv} {config : EdgeConfig} {inv : List DetectedEvent → World → Prop}
  {kept : Option Exn → World → Prop} (conduct : Conduct env config inv kept)
  (cleaned : Triple (inv []) (cleanup env) (fun _ => inv []) fun _ _ => True)
  (handles : env.HandlesSignals)

include conduct cleaned handles

/-- Where the loop returns, the events of the last scan have their rows. -/
theorem supervise_returns (turns : Nat) :
    Triple (inv []) (supervise env config turns) (fun _ => inv []) (fun _ _ => True) := by
  have looped : Triple (inv []) (attempt stoppedByKey (loop env config turns))
      (fun _ => inv []) (fun _ _ => True) := by
    have raises : Raises (· ≠ .keyboardInterrupt) (loop env config turns) :=
      loop_raises handles.permits turns
    have returned := (loop_conduct conduct turns).both raises
    refine Triple.attempt (returned.conseq (fun _ holds => ⟨holds, trivial⟩)
      (fun _ _ both => both.1) fun _ _ both => both) ?_ fun _ _ _ _ => trivial
    intro failure reason world stopped both
    cases failure with
    | keyboardInterrupt => exact absurd rfl both.2
    | exception message => exact nomatch stopped
    | killed => exact nomatch stopped
  exact Triple.ensuring (Triple.bind looped fun _ => Triple.pure fun _ holds => holds)
    (fun _ => cleaned) (fun _ _ => Triple.any _ _) fun _ _ _ _ => trivial

theorem runAgent_returns (turns : Nat) :
    Triple (fun world => inv [] (world.boot config)) (runAgent env config turns)
      (fun _ => inv []) (fun _ _ => True) := by
  have step {α : Type} {program : Agent α}
      (holds : Triple (inv []) program (fun _ => inv []) fun failure => kept (some failure)) :
      Triple (inv []) program (fun _ => inv []) (fun _ _ => True) :=
    holds.raising fun _ _ _ => trivial
  have boots : Triple (fun world => inv [] (world.boot config))
      (assign (World.boot config)) (fun _ => inv []) (fun _ _ => True) :=
    Triple.update fun _ holds => holds
  refine Triple.bind boots fun _ => ?_
  split
  · exact Triple.throw fun _ _ => trivial
  · exact Triple.bind (step conduct.opened) fun _ =>
      Triple.bind (step conduct.serves.pendingCount) fun _ =>
      Triple.bind (step conduct.serves.process) fun _ =>
      Triple.bind (step (time_serves conduct.serves)) fun now =>
      Triple.bind (Triple.update fun world => conduct.serves.delivery world now) fun _ =>
      supervise_returns conduct cleaned handles turns

end Returning

theorem cleanup_carried {env : AgentEnv} {config : EdgeConfig} {before : List EventPayload} :
    Triple (Carried env config before []) (cleanup env) (fun _ => Carried env config before [])
      (fun _ _ => True) :=
  (carried_of_holdings (Leaves.bind closeReader_holdings fun _ => queried_holdings fun _ => ())
    ).raising fun _ _ _ => trivial

end Agent

section Exiting

variable {texts : Config.FloatTexts} {sources : Config.Sources} {env : AgentEnv} {turns : Nat}
  {start last : World}

/-- An exit status of 0 of a process that ran is that of a `run_agent` that returned. -/
theorem main_zero
    (exited : main texts sources ⟨false, false⟩ env turns start = .ok 0 last) :
    ∃ config, configured texts sources = .ok config ∧
      Agent.runAgent env config turns start = .ok () last := by
  unfold main at exited
  rw [if_neg Bool.false_ne_true, if_neg Bool.false_ne_true] at exited
  cases found : configured texts sources with
  | error failure =>
      rw [found] at exited
      exact nomatch exited
  | ok config =>
      rw [found] at exited
      simp only [Bind.bind, EStateM.bind, attempt] at exited
      cases ran : Agent.runAgent env config turns start with
      | ok value next =>
          rw [ran] at exited
          obtain ⟨-, rfl⟩ := EStateM.Result.ok.inj exited
          exact ⟨config, rfl, ran⟩
      | error failure next =>
          rw [ran] at exited
          cases failure with
          | exception message => exact nomatch exited
          | keyboardInterrupt => exact nomatch exited
          | killed => exact nomatch exited

end Exiting

/-- A process that exits with status 0 has, however many processes went before it, left
nothing behind: it took over every inventory that its reader answered, each event that
presence reported on them is in the queue, once and in order, behind what earlier
processes enqueued, and the serial port is closed. -/
theorem main_exits_cleanly (texts : Config.FloatTexts) (sources : Config.Sources)
    (env : AgentEnv) (mints : MintsDistinct env) (handles : env.HandlesSignals)
    (processes : List (EdgeConfig × Nat)) (world : World)
    (empty : world.delivery.queue.rows = []) (blank : world.delivery.cloud = .empty)
    (turns : Nat) {last : World} :
    let start := lifetimes env processes world
    main texts sources ⟨false, false⟩ env turns start = .ok 0 last →
      ∃ config, configured texts sources = .ok config ∧ Surveyed env start [] last ∧
        (∃ events, PresenceReports config events [] last ∧
          last.delivery.queue.history =
            start.delivery.queue.history ++ events.map (·.label config)) ∧
        openHandles last.line.log = [] := by
  intro start exited
  obtain ⟨config, found, ran⟩ := main_zero exited
  obtain ⟨shares, -, left⟩ := exists_shares mints processes (.initial empty blank)
  have carried : Carried env config shares.flatten [] last := by
    have booted : Carried env config shares.flatten [] (start.boot config) := left.booted
    have outcome := Agent.runAgent_returns (Agent.carried_conduct mints) Agent.cleanup_carried
      handles turns start booted
    rwa [ran] at outcome
  have surveyed : Surveyed env start [] last := by
    have cleaned : Triple (Surveyed env start []) (Agent.cleanup env)
        (fun _ => Surveyed env start []) (fun _ _ => True) :=
      (Agent.surveyed_of_leaves Agent.cleanup_survey).raising fun _ _ _ => trivial
    have outcome := Agent.runAgent_returns Agent.surveyed_conduct cleaned handles turns start
      (Surveyed.booted config start)
    rwa [ran] at outcome
  have closed := Agent.runAgent_released env config turns start trivial
  rw [ran] at closed
  obtain ⟨told, payloads, carries⟩ := carried.carries
  refine ⟨config, found, surveyed, ⟨told, carries.toPresenceReports, ?_⟩, (closed 0).opened⟩
  rw [carries.history, left.history, List.map_append, carries.built.labels]

def portSources : Config.Sources :=
  Config.fileSources (("SERIAL_PORT", "COM3") :: Config.requiredLines)

/-- A shutdown is requested while the agent sleeps. -/
def stoppedEnv : AgentEnv := { sampleSurroundings with shutdown := fun tick => decide (40 ≤ tick) }

/-- One process was cut off before; the second finds the tag anew and is shut down. -/
theorem main_exits_cleanly_stopped : ∃ last,
    main Config.sampleTexts portSources ⟨false, false⟩ stoppedEnv 60
      (lifetimes stoppedEnv [(sampleConfig, 1)] sampleWorld) = .ok 0 last ∧
    last.delivery.queue.history.length = 2 ∧ openHandles last.line.log = [] := by
  have mints : MintsDistinct stoppedEnv := sampleSurroundings_distinct
  have handles : stoppedEnv.HandlesSignals := ⟨fun _ => nofun, fun _ => nofun, fun _ => nofun⟩
  have exited : (match main Config.sampleTexts portSources ⟨false, false⟩ stoppedEnv 60
      (lifetimes stoppedEnv [(sampleConfig, 1)] sampleWorld) with
      | .ok status last => decide (status = 0 ∧ last.delivery.queue.history.length = 2)
      | .error _ _ => false) = true := by decide +kernel
  cases ran : main Config.sampleTexts portSources ⟨false, false⟩ stoppedEnv 60
      (lifetimes stoppedEnv [(sampleConfig, 1)] sampleWorld) with
  | error failure last =>
      rw [ran] at exited
      exact nomatch exited
  | ok status last =>
      rw [ran] at exited
      obtain ⟨rfl, two⟩ := of_decide_eq_true exited
      obtain ⟨_, _, _, _, closed⟩ := main_exits_cleanly Config.sampleTexts portSources stoppedEnv
        mints handles [(sampleConfig, 1)] sampleWorld rfl rfl 60 ran
      exact ⟨last, rfl, two, closed⟩

end MvdEdge
