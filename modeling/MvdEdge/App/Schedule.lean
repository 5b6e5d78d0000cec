import MvdEdge.App.Run
import MvdEdge.Lib.Journal

/-! When the agent tries to connect, scans, delivers and sends heartbeats: the
schedule of a process, as a transition system over the steps of its turns. Each turn
serves the reader, then the queue, then the heartbeat. -/

set_option autoImplicit false

namespace MvdEdge

open Lib

/-- A step of a turn, with the readings of the clock it went by. -/
inductive Occurrence where
  | started (done : Time)
  | turned
  | attempted (now : Time)
  | waited (now : Time)
  | connected
  | refused
  | scanned
  | lost (now : Time)
  | enqueued
  | delivered (done : Time)
  | retried (now done : Time)
  | held (now : Time)
  | beat (now done : Time)
  | quiet (now : Time)
  deriving DecidableEq

inductive Stage where
  | boot
  | turned
  | connecting (now : Time)
  | tried
  | scanned
  | backlog
  | flushed
  | served
  | rested
  deriving DecidableEq

structure Schedule where
  stage : Stage
  connected : Bool
  nextReaderAttempt : PyFloat
  lastDeliveryAttempt : Time
  lastHeartbeatAttempt : Time

namespace Schedule

def boot : Schedule := ⟨.boot, false, .finite 0, 0, 0⟩

/-- An attempt to connect is due: there is no connection, and the time has come. -/
def AttemptDue (schedule : Schedule) (now : Time) : Prop :=
  schedule.connected = false ∧ schedule.nextReaderAttempt.reachedBy now = true

/-- The reader has had its part of the turn: a connected one was scanned, and what was
scanned has been sent off. -/
def ReaderServed (schedule : Schedule) : Prop :=
  schedule.stage = .scanned ∨ schedule.stage = .flushed ∨
    (schedule.stage = .tried ∧ schedule.connected = false)

variable (config : EdgeConfig)

def RoundDue (schedule : Schedule) (now : Time) : Prop :=
  config.queueRetryInterval.reachedBy (timeSince now schedule.lastDeliveryAttempt) = true

def HeartbeatDue (schedule : Schedule) (now : Time) : Prop :=
  config.heartbeatInterval.reachedBy (timeSince now schedule.lastHeartbeatAttempt) = true

inductive Step : Schedule → Occurrence → Schedule → Prop where
  | started {schedule : Schedule} (done : Time) (stage : schedule.stage = .boot) :
      Step schedule (.started done)
        { schedule with stage := .rested, lastDeliveryAttempt := done }
  | turned {schedule : Schedule} (stage : schedule.stage = .rested) :
      Step schedule .turned { schedule with stage := .turned }
  | attempted {schedule : Schedule} (now : Time) (stage : schedule.stage = .turned)
      (due : schedule.AttemptDue now) :
      Step schedule (.attempted now) { schedule with stage := .connecting now }
  | waited {schedule : Schedule} (now : Time) (stage : schedule.stage = .turned)
      (early : ¬ schedule.AttemptDue now) :
      Step schedule (.waited now) { schedule with stage := .tried }
  | connected {schedule : Schedule} (now : Time) (stage : schedule.stage = .connecting now) :
      Step schedule .connected { schedule with stage := .tried, connected := true }
  | refused {schedule : Schedule} (now : Time) (stage : schedule.stage = .connecting now) :
      Step schedule .refused
        { schedule with
          stage := .tried
          nextReaderAttempt := config.readerDiscoveryInterval.after now }
  | scanned {schedule : Schedule} (stage : schedule.stage = .tried)
      (connected : schedule.connected = true) :
      Step schedule .scanned { schedule with stage := .scanned }
  | lost {schedule : Schedule} (now : Time) (stage : schedule.stage = .tried)
      (connected : schedule.connected = true) :
      Step schedule (.lost now)
        { schedule with
          stage := .scanned
          connected := false
          nextReaderAttempt := config.readerDiscoveryInterval.after now }
  | enqueued {schedule : Schedule} (stage : schedule.stage = .scanned ∨ schedule.stage = .backlog)
      (connected : schedule.connected = true) :
      Step schedule .enqueued { schedule with stage := .backlog }
  | delivered {schedule : Schedule} (done : Time) (stage : schedule.stage = .backlog) :
      Step schedule (.delivered done)
        { schedule with stage := .flushed, lastDeliveryAttempt := done }
  | retried {schedule : Schedule} (now done : Time) (served : schedule.ReaderServed)
      (due : schedule.RoundDue config now) :
      Step schedule (.retried now done)
        { schedule with stage := .served, lastDeliveryAttempt := done }
  | held {schedule : Schedule} (now : Time) (served : schedule.ReaderServed)
      (early : ¬ schedule.RoundDue config now) :
      Step schedule (.held now) { schedule with stage := .served }
  | beat {schedule : Schedule} (now done : Time) (stage : schedule.stage = .served)
      (due : schedule.HeartbeatDue config now) :
      Step schedule (.beat now done)
        { schedule with stage := .rested, lastHeartbeatAttempt := done }
  | quiet {schedule : Schedule} (now : Time) (stage : schedule.stage = .served)
      (early : ¬ schedule.HeartbeatDue config now) :
      Step schedule (.quiet now) { schedule with stage := .rested }

/-- The journals that the schedule allows, each with where it leads. -/
abbrev Follows (config : EdgeConfig) (journal : List Occurrence) (schedule : Schedule) : Prop :=
  Ran boot (Step config) journal schedule

/-! ## Reading a journal -/

def attempts : List Occurrence → List Time
  | [] => []
  | .attempted now :: past => now :: attempts past
  | _ :: past => attempts past

/-- When the reader was last given up: an attempt counts from when it was made. -/
def lastFailure : List Occurrence → Option Time
  | [] => none
  | .lost now :: _ => some now
  | .refused :: past => (attempts past).head?
  | _ :: past => lastFailure past

def lastRound : List Occurrence → Time
  | [] => 0
  | .started done :: _ | .delivered done :: _ | .retried _ done :: _ => done
  | _ :: past => lastRound past

def beats : List Occurrence → List Time
  | [] => []
  | .beat _ done :: past => done :: beats past
  | _ :: past => beats past

def lastBeat (journal : List Occurrence) : Time := (beats journal).head?.getD 0

/-- Events were enqueued after the last round of deliveries. -/
def backlog : List Occurrence → Bool
  | [] => false
  | .enqueued :: _ => true
  | .started _ :: _ | .delivered _ :: _ | .retried _ _ :: _ => false
  | _ :: past => backlog past

end Schedule

end MvdEdge
