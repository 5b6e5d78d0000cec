import MvdEdge.EventEngine.StateProperties

/-! Several readers on one presence state. The keys of a reader, and what its own
calls make of them, are as if no other reader called. -/

set_option autoImplicit false

namespace MvdEdge

open Lib

structure Call where
  reader : Str
  scan : Scan

namespace PresenceState

def call (state : PresenceState) (call : Call) : List DetectedEvent × PresenceState :=
  state.update call.scan.tags call.scan.now (some call.reader) call.scan.mint

/-- The calls of a run in order, each with the events it returned. -/
def runCalls (calls : List Call) (start : PresenceState) :
    List (Call × List DetectedEvent) × PresenceState :=
  calls.foldl (fun run call =>
    let answer := run.2.call call
    (run.1 ++ [(call, answer.1)], answer.2)) ([], start)

theorem runCalls_concat (calls : List Call) (last : Call) (start : PresenceState) :
    runCalls (calls ++ [last]) start =
      let run := runCalls calls start
      let answer := run.2.call last
      (run.1 ++ [(last, answer.1)], answer.2) := by
  simp [runCalls, List.foldl_append]

/-- What a reader is told, call by call. -/
def told (reader : Str) (returned : List (Call × List DetectedEvent)) :
    List (List (EventType × Str × Option Str)) :=
  (returned.filter fun entry => decide (entry.1.reader = reader)).map fun entry =>
    entry.2.map (·.key)

/-- What a presence state holds for one reader. -/
def ofReader (state : PresenceState) (reader : Str) : PresenceState :=
  { state with visibleTags := state.visibleTags.restrict (belongsTo (some reader)) }

/-! ## One call -/

section OneCall

variable {reader other : Str}

/-- A key tells its reader, also where one reader id begins another. -/
theorem belongsTo_tagKey (clean : nul ∉ reader) (otherClean : nul ∉ other)
    (differs : reader ≠ other) (epc : Str) :
    belongsTo (some reader) (tagKey epc (some other)) = false := by
  rw [Bool.eq_false_iff]
  intro belongs
  obtain ⟨own, same⟩ := belongsTo_iff.mp belongs
  have kept : ∀ {id : Str}, nul ∉ id → ∀ char ∈ id, decide (char ≠ nul) = true := by
    intro id clean char member
    exact decide_eq_true fun same => clean (same ▸ member)
  have heads := congrArg (List.takeWhile fun char => decide (char ≠ nul)) same
  rw [tagKey, tagKey, List.takeWhile_append_of_pos (kept otherClean),
    List.takeWhile_append_of_pos (kept clean)] at heads
  exact differs (by simpa using heads.symm)

variable (reader) in
theorem listTags_restrict_own (observedAt : Time) (mint : Mint) (tags : List Str)
    (events : List DetectedEvent) (visible : InsertionDict Str Time) :
    (listTags observedAt (some reader) mint tags events
        (visible.restrict (belongsTo (some reader)))).1 =
      (listTags observedAt (some reader) mint tags events visible).1 ∧
    (listTags observedAt (some reader) mint tags events
        (visible.restrict (belongsTo (some reader)))).2 =
      (listTags observedAt (some reader) mint tags events visible).2.restrict
        (belongsTo (some reader)) := by
  induction tags generalizing events visible with
  | nil => exact ⟨rfl, rfl⟩
  | cons epc rest ih =>
      have own : belongsTo (some reader) (tagKey epc (some reader)) = true :=
        belongsTo_iff.mpr ⟨epc, rfl⟩
      simp only [listTags, InsertionDict.mem_keys_restrict, own, and_true,
        ← InsertionDict.restrict_set_of_pass own]
      exact ih _ _

theorem listTags_restrict_other (clean : nul ∉ reader) (otherClean : nul ∉ other)
    (differs : reader ≠ other) (observedAt : Time) (mint : Mint) (tags : List Str)
    (events : List DetectedEvent) (visible : InsertionDict Str Time) :
    (listTags observedAt (some other) mint tags events visible).2.restrict
        (belongsTo (some reader)) = visible.restrict (belongsTo (some reader)) := by
  induction tags generalizing events visible with
  | nil => rfl
  | cons epc rest ih =>
      rw [listTags, ih]
      exact InsertionDict.restrict_set_of_fail
        (belongsTo_tagKey clean otherClean differs epc) visible observedAt

theorem expireTags_own (exitTimeout : PyFloat) (observedAt : Time) (mint : Mint)
    (entries : List (Str × Time)) (events : List DetectedEvent) (expired : List Str) :
    expireTags exitTimeout observedAt (some reader) mint
        (entries.filter fun entry => belongsTo (some reader) entry.1) events expired =
      expireTags exitTimeout observedAt (some reader) mint entries events expired := by
  induction entries generalizing events expired with
  | nil => rfl
  | cons entry rest ih =>
      obtain ⟨key, lastSeen⟩ := entry
      cases belongs : belongsTo (some reader) key with
      | false => simp [expireTags, belongs, ih]
      | true => simp [expireTags, belongs, ih]

/-- A call sees the keys of its own reader and no others. -/
theorem call_ofReader_own (state : PresenceState) (scan : Scan) :
    (state.ofReader reader).call ⟨reader, scan⟩ =
      ((state.call ⟨reader, scan⟩).1, (state.call ⟨reader, scan⟩).2.ofReader reader) := by
  obtain ⟨events, visible⟩ := listTags_restrict_own reader scan.now scan.mint
    scan.tags [] state.visibleTags
  simp only [call, update, ofReader, InsertionDict.restrict_eraseAll, events, visible]
  rw [InsertionDict.entries_restrict, expireTags_own]

/-- A call leaves the keys of every other reader as they are. -/
theorem call_ofReader_other (clean : nul ∉ reader) {last : Call} (otherClean : nul ∉ last.reader)
    (differs : reader ≠ last.reader) (state : PresenceState) :
    (state.call last).2.ofReader reader = state.ofReader reader := by
  have refreshed := listTags_restrict_other clean otherClean differs last.scan.now last.scan.mint
    last.scan.tags [] state.visibleTags
  have entries : (state.call last).2.visibleTags.restrict (belongsTo (some reader)) =
      state.visibleTags.restrict (belongsTo (some reader)) := by
    rw [← refreshed]
    apply InsertionDict.ext_entries
    simp only [InsertionDict.entries_restrict, call, update_entries, List.filter_filter]
    apply List.filter_congr
    intro entry _
    cases own : belongsTo (some reader) entry.1 with
    | false => rfl
    | true =>
        obtain ⟨epc, same⟩ := belongsTo_iff.mp own
        have foreign := belongsTo_tagKey otherClean clean differs.symm epc
        simp [isExpired, same, foreign]
  exact congrArg (PresenceState.mk state.exitTimeout) entries

end OneCall

/-! ## Whole runs -/

theorem told_concat (reader : Str) (returned : List (Call × List DetectedEvent)) (last : Call)
    (events : List DetectedEvent) :
    told reader (returned ++ [(last, events)]) =
      told reader returned ++ if last.reader = reader then [events.map (·.key)] else [] := by
  by_cases own : last.reader = reader <;> simp [told, own]

/-- What a reader is told and what is held for it come from its own calls. -/
theorem runCalls_ofReader {reader : Str} (clean : nul ∉ reader) (calls : List Call)
    (cleanCalls : ∀ call ∈ calls, nul ∉ call.reader) (exitTimeout : PyFloat) :
    let own := runCalls (calls.filter fun call => decide (call.reader = reader)) (new exitTimeout)
    told reader (runCalls calls (new exitTimeout)).1 = told reader own.1 ∧
      (runCalls calls (new exitTimeout)).2.ofReader reader = own.2 := by
  induction calls using List.reverseRecOn with
  | nil => exact ⟨rfl, rfl⟩
  | append_singleton calls last ih =>
      obtain ⟨events, state⟩ := ih fun call member =>
        cleanCalls call (List.mem_append_left _ member)
      rw [List.filter_append, runCalls_concat]
      by_cases same : last.reader = reader
      · obtain ⟨_, scan⟩ := last
        obtain rfl : _ = reader := same
        rw [List.filter_cons_of_pos (by simp), List.filter_nil, runCalls_concat]
        simp only [told_concat, events, ← state, call_ofReader_own, if_true]
        exact ⟨trivial, trivial⟩
      · rw [List.filter_cons_of_neg (by simpa using same), List.filter_nil, List.append_nil]
        simp only [told_concat, if_neg same, List.append_nil]
        refine ⟨events, ?_⟩
        rw [call_ofReader_other clean (cleanCalls last (by simp)) (Ne.symm same), state]

/-- The key was listed in one of the calls. -/
def Listed (calls : List Call) (key : Str) : Prop :=
  ∃ call ∈ calls, ∃ epc ∈ call.scan.tags, key = tagKey epc (some call.reader)

theorem Listed.later {calls : List Call} {key : Str} (listed : Listed calls key) (last : Call) :
    Listed (calls ++ [last]) key := by
  obtain ⟨call, member, found⟩ := listed
  exact ⟨call, List.mem_append_left _ member, found⟩

theorem listed_of_refreshed {calls : List Call} {state : PresenceState}
    (held : ∀ key ∈ state.visibleTags.keys, Listed calls key) (last : Call) {key : Str}
    (member : key ∈ (state.refreshed last.scan.tags last.scan.now (some last.reader)
      last.scan.mint).keys) : Listed (calls ++ [last]) key := by
  rw [refreshed_keys] at member
  cases List.mem_append.mp member with
  | inl old => exact (held key old).later last
  | inr new =>
      obtain ⟨epc, arrived, same⟩ := List.mem_map.mp new
      exact ⟨last, by simp, epc, (mem_arrivals.mp arrived).1, same.symm⟩

theorem runCalls_listed (calls : List Call) (exitTimeout : PyFloat) :
    ∀ key ∈ (runCalls calls (new exitTimeout)).2.visibleTags.keys, Listed calls key := by
  induction calls using List.reverseRecOn with
  | nil =>
      intro key member
      exact absurd member List.not_mem_nil
  | append_singleton calls last ih =>
      intro key member
      simp only [runCalls_concat, InsertionDict.keys, call, update_entries] at member
      obtain ⟨entry, kept, rfl⟩ := List.mem_map.mp member
      exact listed_of_refreshed ih last
        (List.mem_map.mpr ⟨entry, List.mem_of_mem_filter kept, rfl⟩)

/-- A call returns events of its own reader, for EPCs the reader has listed. -/
theorem call_events {calls : List Call} {state : PresenceState}
    (held : ∀ key ∈ state.visibleTags.keys, Listed calls key) {last : Call}
    (clean : ∀ call ∈ calls ++ [last], nul ∉ call.reader) {event : DetectedEvent}
    (emitted : event ∈ (state.call last).1) :
    event.readerId = some last.reader ∧
      ∃ own ∈ calls ++ [last], own.reader = last.reader ∧ event.epc ∈ own.scan.tags := by
  refine ⟨update_readerId _ _ _ _ _ emitted, ?_⟩
  have key : event.key ∈ (state.call last).1.map (·.key) := List.mem_map_of_mem emitted
  rw [call, update_keys] at key
  cases List.mem_append.mp key with
  | inl entered =>
      obtain ⟨epc, arrived, same⟩ := List.mem_map.mp entered
      have epcSame : epc = event.epc := congrArg (·.2.1) same
      exact ⟨last, by simp, rfl, epcSame ▸ (mem_arrivals.mp arrived).1⟩
  | inr left =>
      obtain ⟨entry, expired, same⟩ := List.mem_map.mp left
      obtain ⟨stored, passes⟩ := List.mem_filter.mp expired
      obtain ⟨own, member, epc, listed, keySame⟩ := listed_of_refreshed held last
        (List.mem_map.mpr ⟨entry, stored, rfl⟩)
      have reader : own.reader = last.reader := by
        by_contra differs
        have foreign := belongsTo_tagKey (clean last (by simp)) (clean own member)
          (Ne.symm differs) epc
        simp [isExpired, keySame, foreign] at passes
      have epcSame : epcFromKey entry.1 = event.epc := congrArg (·.2.1) same
      rw [keySame, epcFromKey_tagKey (clean own member)] at epcSame
      exact ⟨own, member, reader, epcSame ▸ listed⟩

/-- Whatever the interleaving of the calls, each reader is told what it would be told
alone; every event is about the caller's own reader and an EPC it listed; and a call
leaves all that is held for other readers as it is. -/
theorem runCalls_isolated (exitTimeout : PyFloat) (calls : List Call)
    (clean : ∀ call ∈ calls, nul ∉ call.reader) :
    (∀ reader, nul ∉ reader →
      told reader (runCalls calls (new exitTimeout)).1 =
        told reader (runCalls (calls.filter fun call => decide (call.reader = reader))
          (new exitTimeout)).1) ∧
    ∀ earlier last, earlier ++ [last] <+: calls →
      let state := (runCalls earlier (new exitTimeout)).2
      (∀ event ∈ (state.call last).1, event.readerId = some last.reader ∧
        ∃ own ∈ earlier ++ [last], own.reader = last.reader ∧ event.epc ∈ own.scan.tags) ∧
      ∀ reader, nul ∉ reader → reader ≠ last.reader →
        (state.call last).2.ofReader reader = state.ofReader reader := by
  refine ⟨fun reader cleanReader => (runCalls_ofReader cleanReader calls clean exitTimeout).1, ?_⟩
  intro earlier last front state
  have cleanFront : ∀ call ∈ earlier ++ [last], nul ∉ call.reader := fun call member =>
    clean call (front.subset member)
  constructor
  · intro event emitted
    exact call_events (runCalls_listed earlier exitTimeout) cleanFront emitted
  · intro reader cleanReader differs
    exact call_ofReader_other cleanReader (cleanFront last (by simp)) differs state

/-- One reader id begins the other. -/
theorem runCalls_isolated_pair :
    let mint : Mint := ⟨fun _ => [], fun _ => 0⟩
    let calls : List Call := [⟨"R".toList, ⟨["A".toList], 0, mint⟩⟩,
      ⟨"R1".toList, ⟨["A".toList], 1, mint⟩⟩, ⟨"R1".toList, ⟨[], 9, mint⟩⟩]
    (∀ call ∈ calls, nul ∉ call.reader) ∧
      told "R".toList (runCalls calls (new (.finite 3))).1 =
        told "R".toList (runCalls (calls.filter fun call => decide (call.reader = "R".toList))
          (new (.finite 3))).1 := by
  intro mint calls
  have clean : ∀ call ∈ calls, nul ∉ call.reader := by decide +kernel
  exact ⟨clean, (runCalls_isolated (.finite 3) calls clean).1 "R".toList (by decide)⟩

end PresenceState

end MvdEdge
