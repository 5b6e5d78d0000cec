import MvdEdge.App.ChronicleProperties

/-! What the health of the reader says at the heartbeats of a run, and when its count
of unanswered inventories is the length of their run. -/

set_option autoImplicit false

namespace MvdEdge

open Lib Lib.Effect

/-! ## Heartbeats -/

/-- What health shows at a heartbeat, of the loop variable and of the history. -/
structure Reported (past : List Happening) (readerState : ReaderState) (health : HealthState) :
    Prop where
  agrees : health.readerState = readerState
  connected : health.readerConnected = true ↔ readerState = .READY
  responding : health.inventoryResponding = true ↔ health.healthStatus = .HEALTHY
  valid : health.inventoryResponding = true ↔
    readerState = .READY ∧ lastInventory past = some .VALID
  healthy : health.healthStatus = .HEALTHY →
    health.lastReaderError = none ∧ health.consecutiveNoResponseCount = 0
  settled : health.healthStatus ≠ .RECONNECTING
  attempts : health.reconnectCount = connectionAttempts past

theorem Reported.of_run {history : List Happening} {readerState : ReaderState}
    {health : HealthState} (shown : health.readerStatus = ReaderStatus.run history)
    (agrees : readerState = (ReaderStatus.run history).readerState) :
    Reported history readerState health := by
  have coherent := run_coherent history
  rw [← shown] at coherent agrees
  obtain rfl := agrees
  refine ⟨rfl, coherent.connected, coherent.responding, coherent.valid, fun healthy => ?_,
    coherent.settled, coherent.attempts⟩
  have clean := coherent.healthy healthy
  exact ⟨Option.isSome_eq_false_iff.mp clean.1 |> Option.isNone_iff_eq_none.mp, clean.2⟩

/-- At every heartbeat of a run, health and the loop variable agree with each other and
with what happened to the reader. The run is that of `run_agent`, and each heartbeat
shows the state of its entry in the journal. -/
theorem runAgent_reports (env : AgentEnv) (config : EdgeConfig) (turns : Nat) (world : World) :
    let run := chronicle env config turns world
    run.1 = after (Agent.runAgent env config turns) world ∧
    (∀ heartbeat ∈ run.1.heartbeats, Shows run.2 heartbeat) ∧
    ∀ entry past, entry :: past <:+ run.2 → entry.happening = .heartbeat →
      ∃ health, entry.world.delivery.healthState = some health ∧
        Reported (happenings past) entry.world.readerState health := by
  intro run
  have filed := chronicle_filed env config turns world
  refine ⟨chronicle_world env config turns world, filed.shown, ?_⟩
  intro entry past suffix beat
  obtain ⟨health, known, shown⟩ := filed.health suffix
  have agrees := (filed.settled entry past suffix).readerState
  rw [happenings, List.map_cons, beat] at shown agrees
  exact ⟨health, known, .of_run shown agrees⟩

/-! ## OFFLINE -/

/-- The connection is given up: nothing is open, and an attempt to connect is due. -/
structure GivenUp (env : AgentEnv) (config : EdgeConfig) (world : World) : Prop where
  notReady : world.readerState ≠ .READY
  handle : world.currentHandle = none
  closed : openHandles world.line.log = []
  scheduled : Scheduled env config world.nextReaderAttempt

/-- The connection is kept, with a reader that has not answered for too long. -/
structure Unresponsive (past : List Happening) (health : HealthState) (world : World) : Prop where
  ready : world.readerState = .READY
  silent : lastInventory past = some .NO_RESPONSE
  reached : health.offlineFailureThreshold ≤ health.consecutiveNoResponseCount

/-- READY since an attempt that ended so, on the one open handle, with a device that was
verified and found in Answer Mode. -/
structure Connected (past : List Happening) (world : World) : Prop where
  live : Live past
  answering : ∃ handle, world.currentHandle = some handle ∧
    openHandles world.line.log = [handle] ∧ known handle world.line.log = .answering

/-- At a heartbeat with health OFFLINE, the connection is given up, or it is kept with a
reader that no longer answers. -/
theorem runAgent_offline (env : AgentEnv) (config : EdgeConfig) (turns : Nat) (world : World) :
    let run := chronicle env config turns world
    run.1 = after (Agent.runAgent env config turns) world ∧
    (∀ heartbeat ∈ run.1.heartbeats, Shows run.2 heartbeat) ∧
    ∀ entry past, entry :: past <:+ run.2 → entry.happening = .heartbeat →
      ∃ health, entry.world.delivery.healthState = some health ∧
        health.readerState = entry.world.readerState ∧
        (health.healthStatus = .OFFLINE →
          GivenUp env config entry.world ∨ Unresponsive (happenings past) health entry.world) ∧
        (entry.world.readerState = .READY → Connected (happenings past) entry.world) := by
  intro run
  have filed := chronicle_filed env config turns world
  refine ⟨chronicle_world env config turns world, filed.shown, ?_⟩
  intro entry past suffix beat
  have settled := filed.settled entry past suffix
  obtain ⟨health, known, shown⟩ := filed.health suffix
  have coherent := run_coherent (happenings (entry :: past))
  have agrees := settled.readerState
  rw [← shown] at coherent agrees
  have live := settled.live
  rw [happenings, List.map_cons, beat] at coherent live
  refine ⟨health, known, agrees.symm, fun offline => ?_, fun ready => ?_⟩
  · by_cases ready : entry.world.readerState = .READY
    · obtain ⟨silent, reached⟩ := coherent.silent offline (agrees.symm.trans ready)
      exact .inr ⟨ready, silent, reached⟩
    · obtain ⟨handle, closed⟩ := Agent.Steady.closed settled.steady ready
      exact .inl ⟨ready, handle, closed, settled.scheduled⟩
  · refine ⟨?_, Agent.Steady.answering settled.steady ready⟩
    cases live ready with
    | heartbeat earlier => exact earlier

/-- A reader that connects in Answer Mode and then answers inventories from a script. -/
def scriptedReader (script : Nat → Bytes) : AgentEnv :=
  { sampleSurroundings with
    line := ⟨fun _ => none, fun writes =>
      if writes < 3 then [0x06, 0x00, 0x36, 0x00, 0x00, 0x00, 0x00] else script (writes - 3)⟩ }

def beatingConfig : EdgeConfig := { sampleConfig with heartbeatInterval := .finite 0 }

/-- After three inventories without a response, heartbeats say OFFLINE and READY. -/
theorem runAgent_offline_ready : ¬ ∀ (env : AgentEnv) (config : EdgeConfig) (turns : Nat)
    (world : World), ∀ heartbeat ∈ (after (Agent.runAgent env config turns) world).heartbeats,
      ∀ health ∈ heartbeat.healthState, health.healthStatus = .OFFLINE →
        health.readerState ≠ .READY := by
  intro claim
  exact absurd (claim (scriptedReader fun _ => []) beatingConfig 3 sampleWorld) (by decide +kernel)

/-! ## Unanswered inventories -/

/-- At every entry of the journal of a run: the counter is the length of the run of
NO_RESPONSE that ends there, and OFFLINE comes with the threshold, exactly when since
the last VALID no run of NO_RESPONSE was cut off by anything else. -/
theorem runAgent_counts_silence_iff (env : AgentEnv) (config : EdgeConfig) (turns : Nat)
    (world : World) :
    let run := chronicle env config turns world
    run.1 = after (Agent.runAgent env config turns) world ∧
    ∀ entry past, entry :: past <:+ run.2 →
      let history := happenings (entry :: past)
      ∃ health, entry.world.delivery.healthState = some health ∧
        ((health.consecutiveNoResponseCount = silentRun history ∧
          (entry.happening = .answered .NO_RESPONSE → health.healthStatus =
            if health.offlineFailureThreshold ≤ silentRun history then .OFFLINE else .DEGRADED)) ↔
          ¬ Broken history) := by
  intro run
  refine ⟨chronicle_world env config turns world, ?_⟩
  intro entry past suffix history
  obtain ⟨health, known, shown⟩ := (chronicle_filed env config turns world).health suffix
  have counted := run_unanswered_eq_iff history
  rw [← shown] at counted
  refine ⟨health, known, ⟨fun both => counted.mp both.1, fun unbroken => ?_⟩⟩
  have count := counted.mpr unbroken
  refine ⟨count, fun silent => ?_⟩
  have newest : history = .answered .NO_RESPONSE :: happenings past := by
    simp only [history, happenings, List.map_cons, silent]
  have status : (ReaderStatus.run history).healthStatus =
      if (ReaderStatus.run history).threshold ≤ (ReaderStatus.run history).unanswered then .OFFLINE
      else .DEGRADED := by
    rw [newest]
    rfl
  rw [← shown] at status
  exact count ▸ status

/-- Of three inventories without a response, a malformed answer came after the first:
the reader is OFFLINE after a run of two. -/
theorem runAgent_counts_across_malformed : ¬ ∀ (env : AgentEnv) (config : EdgeConfig)
    (turns : Nat) (world : World), ∀ entry past,
      entry :: past <:+ (chronicle env config turns world).2 →
        ∃ health, entry.world.delivery.healthState = some health ∧
          health.consecutiveNoResponseCount = silentRun (happenings (entry :: past)) ∧
          (entry.happening = .answered .NO_RESPONSE → health.healthStatus =
            if health.offlineFailureThreshold ≤ silentRun (happenings (entry :: past)) then .OFFLINE
            else .DEGRADED) := by
  intro claim
  let run := chronicle (scriptedReader fun inventory => if inventory = 1 then [0x05] else [])
    beatingConfig 4 sampleWorld
  -- The newest entry is a heartbeat, the one before it the third of the inventories.
  have suffix : run.2.drop 1 <:+ run.2 := List.drop_suffix 1 _
  have count : (run.2.drop 1).head?.bind (fun entry =>
      entry.world.delivery.healthState.map (·.consecutiveNoResponseCount)) = some 3 := by
    decide +kernel
  have silent : silentRun (happenings (run.2.drop 1)) = 2 := by decide +kernel
  cases found : run.2.drop 1 with
  | nil => simp [found] at count
  | cons entry past =>
      rw [found] at suffix count silent
      obtain ⟨health, known, counted, -⟩ := claim _ _ _ _ entry past suffix
      simp [known, counted, silent] at count

end MvdEdge
