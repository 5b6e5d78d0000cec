import MvdEdge.EventEngine.Presence

/-! Whole runs of the presence engine for one reader: what has been emitted for
a tag determines what the dictionary holds for it, and the other way round. -/

set_option autoImplicit false

namespace MvdEdge

open Lib

structure Scan where
  tags : List Str
  now : Time
  mint : Mint

namespace PresenceState

/-- The calls of a run in order: all events so far and the state they lead to. -/
def runUpdates (readerId : Option Str) (scans : List Scan) (start : PresenceState) :
    List DetectedEvent × PresenceState :=
  scans.foldl (fun run scan =>
    let call := run.2.update scan.tags scan.now readerId scan.mint
    (run.1 ++ call.1, call.2)) ([], start)

@[simp] theorem runUpdates_nil (readerId : Option Str) (start : PresenceState) :
    runUpdates readerId [] start = ([], start) := rfl

theorem runUpdates_concat (readerId : Option Str) (scans : List Scan) (scan : Scan)
    (start : PresenceState) :
    runUpdates readerId (scans ++ [scan]) start =
      let run := runUpdates readerId scans start
      let call := run.2.update scan.tags scan.now readerId scan.mint
      (run.1 ++ call.1, call.2) := by
  simp [runUpdates, List.foldl_append]

theorem runUpdates_append (readerId : Option Str) (earlier later : List Scan)
    (start : PresenceState) :
    runUpdates readerId (earlier ++ later) start =
      let run := runUpdates readerId earlier start
      let rest := runUpdates readerId later run.2
      (run.1 ++ rest.1, rest.2) := by
  induction later using List.reverseRecOn with
  | nil => simp
  | append_singleton later scan ih =>
      rw [← List.append_assoc, runUpdates_concat, ih]
      simp [runUpdates_concat]

@[simp] theorem runUpdates_exitTimeout (readerId : Option Str) (scans : List Scan)
    (start : PresenceState) :
    (runUpdates readerId scans start).2.exitTimeout = start.exitTimeout := by
  induction scans using List.reverseRecOn with
  | nil => rfl
  | append_singleton scans scan ih => simp [runUpdates_concat, ih]

def lastListed (epc : Str) (scans : List Scan) : Option Time :=
  (scans.filter fun scan => decide (epc ∈ scan.tags)).getLast?.map (·.now)

def sightsOf (epc : Str) (scans : List Scan) : List (Bool × Time) :=
  scans.map fun scan => (decide (epc ∈ scan.tags), scan.now)

theorem lastListed_sightsOf (epc : Str) (scans : List Scan) :
    Presence.lastListed (sightsOf epc scans) = lastListed epc scans := by
  simp [Presence.lastListed, lastListed, sightsOf, List.filter_map, Function.comp_def]

theorem update_readerId (state : PresenceState) (tags : List Str) (now : Time)
    (readerId : Option Str) (mint : Mint) {event : DetectedEvent}
    (emitted : event ∈ (state.update tags now readerId mint).1) : event.readerId = readerId := by
  have key : event.key ∈ (state.update tags now readerId mint).1.map (·.key) :=
    List.mem_map.mpr ⟨event, emitted, rfl⟩
  rw [update_keys, List.mem_append, List.mem_map, List.mem_map] at key
  obtain ⟨_, _, same⟩ | ⟨_, _, same⟩ := key
  · exact (congrArg (·.2.2) same).symm
  · exact (congrArg (·.2.2) same).symm

theorem runUpdates_readerId (readerId : Option Str) (scans : List Scan) (start : PresenceState)
    {event : DetectedEvent} (emitted : event ∈ (runUpdates readerId scans start).1) :
    event.readerId = readerId := by
  induction scans using List.reverseRecOn with
  | nil => simp at emitted
  | append_singleton scans scan ih =>
      rw [runUpdates_concat] at emitted
      cases List.mem_append.mp emitted with
      | inl earlier => exact ih earlier
      | inr now => exact update_readerId _ _ _ _ _ now

section OneReader

variable {reader : Str} {exitTimeout : PyFloat}

/-- The engine follows every tag: its events and its entry in the dictionary are
those of the tag's own machine. -/
theorem runUpdates_refines (clean : nul ∉ reader) (patient : exitTimeout.reachedBy 0 = false)
    (scans : List Scan) (epc : Str) :
    let run := runUpdates (some reader) scans (new exitTimeout)
    let tag := Presence.follow exitTimeout (sightsOf epc scans)
    eventsOf epc run.1 = tag.1 ∧
      run.2.visibleTags.get? (tagKey epc (some reader)) = tag.2 := by
  induction scans using List.reverseRecOn with
  | nil => exact ⟨rfl, rfl⟩
  | append_singleton scans scan ih =>
      obtain ⟨events, stored⟩ := ih
      have timeout := runUpdates_exitTimeout (some reader) scans (new exitTimeout)
      have stepped := update_refines clean (runUpdates (some reader) scans (new exitTimeout)).2
        (by rw [timeout]; exact patient) scan.tags scan.now scan.mint epc
      have sights : sightsOf epc (scans ++ [scan]) =
          sightsOf epc scans ++ [(decide (epc ∈ scan.tags), scan.now)] := by simp [sightsOf]
      rw [runUpdates_concat, sights, Presence.follow_concat]
      dsimp only at stepped ⊢
      rw [← stored, ← events, eventsOf_append, stepped.1, stepped.2, timeout]
      exact ⟨rfl, rfl⟩

theorem runUpdates_alternating (clean : nul ∉ reader)
    (patient : exitTimeout.reachedBy 0 = false) (scans : List Scan) (epc : Str) :
    Alternating .ENTER .EXIT
      (eventsOf epc (runUpdates (some reader) scans (new exitTimeout)).1) := by
  rw [(runUpdates_refines clean patient scans epc).1]
  exact (Presence.follow_follows exitTimeout (sightsOf epc scans)).alternating

theorem runUpdates_next_event (clean : nul ∉ reader) (patient : exitTimeout.reachedBy 0 = false)
    (earlier : List Scan) (scan : Scan) (epc : Str) :
    let before := runUpdates (some reader) earlier (new exitTimeout)
    eventsOf epc (before.2.update scan.tags scan.now (some reader) scan.mint).1 =
      (Presence.observe exitTimeout (decide (epc ∈ scan.tags)) scan.now
        (Presence.follow exitTimeout (sightsOf epc earlier)).2).1.toList := by
  intro before
  have timeout : before.2.exitTimeout = exitTimeout :=
    runUpdates_exitTimeout (some reader) earlier (new exitTimeout)
  have stepped := update_refines clean before.2
    (by rw [timeout]; exact patient) scan.tags scan.now scan.mint epc
  rw [← (runUpdates_refines clean patient earlier epc).2]
  simpa only [timeout] using stepped.1

/-- Whole-run correctness, stated at an arbitrary call of an arbitrary run: what
it emits for a tag, and what history and dictionary say about the tag afterwards. -/
theorem runUpdates_correct (clean : nul ∉ reader) (positive : exitTimeout.isPositive = true)
    (earlier : List Scan) (scan : Scan) (epc : Str) :
    let before := runUpdates (some reader) earlier (new exitTimeout)
    let emitted := (before.2.update scan.tags scan.now (some reader) scan.mint).1
    let run := runUpdates (some reader) (earlier ++ [scan]) (new exitTimeout)
    let last := (eventsOf epc before.1).getLast?
    run.1 = before.1 ++ emitted ∧
    (∀ event ∈ emitted, event.readerId = some reader) ∧
    Alternating .ENTER .EXIT (eventsOf epc run.1) ∧
    (eventsOf epc emitted).length ≤ 1 ∧
    (.ENTER ∈ eventsOf epc emitted ↔ epc ∈ scan.tags ∧ last ≠ some .ENTER) ∧
    (.EXIT ∈ eventsOf epc emitted ↔ epc ∉ scan.tags ∧ last = some .ENTER ∧
      ∃ lastSeen, lastListed epc earlier = some lastSeen ∧
        exitTimeout.reachedBy (scan.now - lastSeen) = true) ∧
    (tagKey epc (some reader) ∈ run.2.visibleTags.keys ↔
      (eventsOf epc run.1).getLast? = some .ENTER) ∧
    ((eventsOf epc run.1).getLast? = some .ENTER →
      run.2.visibleTags.get? (tagKey epc (some reader)) = lastListed epc (earlier ++ [scan])) := by
  intro before emitted run last
  have stepped := runUpdates_concat (some reader) earlier scan (new exitTimeout)
  have patient := PyFloat.not_reachedBy_zero positive
  have emits := runUpdates_next_event clean patient earlier scan epc
  obtain ⟨beforeEvents, _⟩ := runUpdates_refines clean patient earlier epc
  obtain ⟨events, stored⟩ := runUpdates_refines clean patient (earlier ++ [scan]) epc
  have earlierFollows := Presence.follow_follows exitTimeout (sightsOf epc earlier)
  have follows := Presence.follow_follows exitTimeout (sightsOf epc (earlier ++ [scan]))
  rw [← events, ← stored] at follows
  rw [← beforeEvents] at earlierFollows
  have member : ∀ eventType, eventType ∈ eventsOf epc emitted ↔
      (Presence.observe exitTimeout (decide (epc ∈ scan.tags)) scan.now
        (Presence.follow exitTimeout (sightsOf epc earlier)).2).1 = some eventType := by
    intro eventType
    rw [show eventsOf epc emitted = _ from emits, Option.mem_toList]
  refine ⟨congrArg Prod.fst stepped, fun event emitted => update_readerId _ _ _ _ _ emitted,
    follows.alternating, ?_, ?_, ?_, ?_, ?_⟩
  · rw [show eventsOf epc emitted = _ from emits]
    exact Option.length_toList_le
  · rw [member, Presence.observe_eq_enter_iff, decide_eq_true_eq]
    have outOfSight := not_congr earlierFollows.inSight
    rw [Option.not_isSome_iff_eq_none] at outOfSight
    exact and_congr_right fun _ => outOfSight.symm
  · rw [member, Presence.observe_eq_exit_iff, decide_eq_false_iff_not]
    refine and_congr_right fun _ => ?_
    constructor
    · intro both
      obtain ⟨lastSeen, known, timedOut⟩ := both
      refine ⟨earlierFollows.inSight.mpr (by simp [known]), lastSeen, ?_, timedOut⟩
      rw [← lastListed_sightsOf]
      exact earlierFollows.lastSeen lastSeen known
    · intro both
      obtain ⟨inSight, lastSeen, listed, timedOut⟩ := both
      obtain ⟨time, known⟩ := Option.isSome_iff_exists.mp (earlierFollows.inSight.mp inSight)
      have same := earlierFollows.lastSeen time known
      rw [lastListed_sightsOf, listed, Option.some_inj] at same
      exact ⟨lastSeen, same ▸ known, timedOut⟩
  · rw [InsertionDict.mem_keys_iff, ← Option.isSome_iff_exists]
    exact follows.inSight.symm
  · intro inSight
    obtain ⟨time, known⟩ := Option.isSome_iff_exists.mp (follows.inSight.mp inSight)
    rw [known, ← lastListed_sightsOf, follows.lastSeen time known]

/-- A tag listed once and missed for longer than the timeout leaves. -/
theorem runUpdates_correct_missed :
    let mint : Mint := ⟨fun _ => [], fun _ => 0⟩
    nul ∉ "R".toList ∧ (PyFloat.finite 3).isPositive = true ∧
      .EXIT ∈ eventsOf "A".toList
        ((runUpdates (some "R".toList) [⟨["A".toList], 0, mint⟩] (new (.finite 3))).2.update
          [] 5 (some "R".toList) mint).1 := by
  intro mint
  refine ⟨by decide, by decide, ?_⟩
  obtain ⟨-, -, -, -, -, leaves, -⟩ :=
    runUpdates_correct (show nul ∉ "R".toList by decide)
      (show (PyFloat.finite 3).isPositive = true by decide) [⟨["A".toList], 0, mint⟩]
      ⟨[], 5, mint⟩ "A".toList
  exact leaves.mpr ⟨by simp, by decide +kernel, 0, by decide +kernel, by decide +kernel⟩

end OneReader

end PresenceState

end MvdEdge
