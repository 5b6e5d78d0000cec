import MvdEdge.EventEngine.State
import MvdEdge.Lib.Alternating
import Mathlib.Data.List.Count
import Mathlib.Data.List.Induction

/-! What the engine is for: every tag of a reader is out of sight, or in sight
since it was last listed. One such machine per tag is the specification, and
`PresenceState.update` steps all of them at once. -/

set_option autoImplicit false

namespace MvdEdge

namespace Presence

/-- One scan as one tag sees it, from `none` (out of sight) or the time of the
last scan that listed it. -/
def observe (exitTimeout : PyFloat) (listed : Bool) (now : Time) :
    Option Time → Option EventType × Option Time
  | none => if listed then (some .ENTER, some now) else (none, none)
  | some lastSeen =>
      if listed then (none, some now)
      else if exitTimeout.reachedBy (now - lastSeen) then (some .EXIT, none)
      else (none, some lastSeen)

def follow (exitTimeout : PyFloat) (sights : List (Bool × Time)) :
    List EventType × Option Time :=
  sights.foldl (fun run sight =>
    let seen := observe exitTimeout sight.1 sight.2 run.2
    (run.1 ++ seen.1.toList, seen.2)) ([], none)

theorem follow_concat (exitTimeout : PyFloat) (sights : List (Bool × Time)) (sight : Bool × Time) :
    follow exitTimeout (sights ++ [sight]) =
      let run := follow exitTimeout sights
      let seen := observe exitTimeout sight.1 sight.2 run.2
      (run.1 ++ seen.1.toList, seen.2) := by
  simp [follow, List.foldl_append]

def lastListed (sights : List (Bool × Time)) : Option Time :=
  (sights.filter (·.1)).getLast?.map (·.2)

/-- What the events so far and the state of a tag say about each other. -/
structure Follows (sights : List (Bool × Time)) (events : List EventType) (tag : Option Time) :
    Prop where
  alternating : Lib.Alternating .ENTER .EXIT events
  inSight : events.getLast? = some .ENTER ↔ tag.isSome
  lastSeen : ∀ time, tag = some time → lastListed sights = some time

theorem Follows.observe {sights : List (Bool × Time)} {events : List EventType}
    {tag : Option Time} (follows : Follows sights events tag) (exitTimeout : PyFloat)
    (sight : Bool × Time) :
    let seen := observe exitTimeout sight.1 sight.2 tag
    Follows (sights ++ [sight]) (events ++ seen.1.toList) seen.2 := by
  obtain ⟨listed, now⟩ := sight
  have turns := follows.alternating.concat (by decide)
  cases tag with
  | none =>
      have outOfSight : events.getLast? ≠ some .ENTER := by simp [follows.inSight]
      rw [Lib.turn, if_neg outOfSight] at turns
      cases listed with
      | true => exact ⟨turns, by simp [Presence.observe], by simp [Presence.observe, lastListed]⟩
      | false =>
          refine ⟨?_, ?_, by simp [Presence.observe]⟩
          · simpa [Presence.observe] using follows.alternating
          · simpa [Presence.observe] using outOfSight
  | some time =>
      have inSight : events.getLast? = some .ENTER := by simp [follows.inSight]
      rw [Lib.turn, if_pos inSight] at turns
      have seen := follows.lastSeen time rfl
      cases listed with
      | true =>
          refine ⟨?_, ?_, by simp [Presence.observe, lastListed]⟩
          · simpa [Presence.observe] using follows.alternating
          · simpa [Presence.observe] using inSight
      | false =>
          by_cases timedOut : exitTimeout.reachedBy (now - time) = true
          · refine ⟨?_, ?_, by simp [Presence.observe, timedOut]⟩
            · simpa [Presence.observe, timedOut] using turns
            · simp [Presence.observe, timedOut]
          · refine ⟨?_, ?_, ?_⟩
            · simpa [Presence.observe, timedOut] using follows.alternating
            · simpa [Presence.observe, timedOut] using inSight
            · simpa [Presence.observe, timedOut, lastListed] using seen

theorem follow_follows (exitTimeout : PyFloat) (sights : List (Bool × Time)) :
    Follows sights (follow exitTimeout sights).1 (follow exitTimeout sights).2 := by
  induction sights using List.reverseRecOn with
  | nil => exact ⟨trivial, by simp [follow], by simp [follow]⟩
  | append_singleton sights sight ih =>
      rw [follow_concat]
      exact ih.observe exitTimeout sight

theorem observe_eq_enter_iff {exitTimeout : PyFloat} {listed : Bool} {now : Time}
    {tag : Option Time} :
    (observe exitTimeout listed now tag).1 = some .ENTER ↔ listed = true ∧ tag = none := by
  cases tag with
  | none => cases listed <;> simp [observe]
  | some lastSeen =>
      cases listed with
      | true => simp [observe]
      | false =>
          by_cases timedOut : exitTimeout.reachedBy (now - lastSeen) = true <;>
            simp [observe, timedOut]

theorem observe_eq_exit_iff {exitTimeout : PyFloat} {listed : Bool} {now : Time}
    {tag : Option Time} :
    (observe exitTimeout listed now tag).1 = some .EXIT ↔ listed = false ∧
      ∃ lastSeen, tag = some lastSeen ∧ exitTimeout.reachedBy (now - lastSeen) = true := by
  cases tag with
  | none => cases listed <;> simp [observe]
  | some lastSeen =>
      cases listed with
      | true => simp [observe]
      | false =>
          by_cases timedOut : exitTimeout.reachedBy (now - lastSeen) = true <;>
            simp [observe, timedOut]

end Presence

namespace PresenceState

section OneReader

variable {reader : Str}

theorem tagKey_injective {left right : Str}
    (same : tagKey left (some reader) = tagKey right (some reader)) : left = right := by
  simpa [tagKey] using same

theorem belongsTo_iff {key : Str} :
    belongsTo (some reader) key = true ↔ ∃ epc, key = tagKey epc (some reader) := by
  simp only [belongsTo, tagKey, List.isPrefixOf_iff_prefix]
  constructor
  · intro both
    obtain ⟨epc, rfl⟩ := both
    exact ⟨epc, by simp⟩
  · intro both
    obtain ⟨epc, rfl⟩ := both
    exact ⟨epc, by simp⟩

theorem epcFromKey_tagKey (clean : nul ∉ reader) (epc : Str) :
    epcFromKey (tagKey epc (some reader)) = epc := by
  have kept : ∀ char ∈ reader, decide (char ≠ nul) = true := by
    intro char member
    exact decide_eq_true fun same => clean (same ▸ member)
  have present : nul ∈ tagKey epc (some reader) := by simp [tagKey]
  rw [epcFromKey, if_pos present, tagKey, List.dropWhile_append_of_pos kept]
  simp

theorem mem_arrivals {tags keys : List Str} {epc : Str} :
    epc ∈ arrivals (some reader) tags keys ↔ epc ∈ tags ∧ tagKey epc (some reader) ∉ keys := by
  induction tags generalizing keys with
  | nil => simp [arrivals]
  | cons tag rest ih =>
      by_cases present : tagKey tag (some reader) ∈ keys
      · have notBoth : epc = tag → tagKey epc (some reader) ∈ keys := fun same => same ▸ present
        simp only [arrivals, present, ↓reduceIte, ih, List.mem_cons]
        constructor
        · intro both
          obtain ⟨member, absent⟩ := both
          exact ⟨.inr member, absent⟩
        · intro both
          obtain ⟨same | member, absent⟩ := both
          · exact absurd (notBoth same) absent
          · exact ⟨member, absent⟩
      · simp only [arrivals, present, ↓reduceIte, List.mem_cons, ih, List.mem_append,
          List.not_mem_nil, or_false, not_or]
        constructor
        · intro either
          obtain rfl | ⟨member, absent, _⟩ := either
          · exact ⟨.inl rfl, present⟩
          · exact ⟨.inr member, absent⟩
        · intro both
          obtain ⟨same | member, absent⟩ := both
          · exact .inl same
          · by_cases here : epc = tag
            · exact .inl here
            · exact .inr ⟨member, absent, fun same => here (tagKey_injective same)⟩

theorem arrivals_nodup (tags keys : List Str) : (arrivals (some reader) tags keys).Nodup := by
  induction tags generalizing keys with
  | nil => simp [arrivals]
  | cons tag rest ih =>
      by_cases present : tagKey tag (some reader) ∈ keys
      · simpa [arrivals, present] using ih keys
      · simp only [arrivals, present, ↓reduceIte, List.nodup_cons]
        exact ⟨fun member => (mem_arrivals.mp member).2 (by simp), ih _⟩

def departures (state : PresenceState) (tags : List Str) (now : Time) (reader : Str)
    (mint : Mint) : List Str :=
  ((state.refreshed tags now (some reader) mint).entries.filter
    (isExpired state.exitTimeout now (some reader))).map fun entry => epcFromKey entry.1

theorem mem_departures (clean : nul ∉ reader) {state : PresenceState} {tags : List Str}
    {now : Time} {mint : Mint} {epc : Str} :
    epc ∈ state.departures tags now reader mint ↔
      ∃ lastSeen, (state.refreshed tags now (some reader) mint).get? (tagKey epc (some reader)) =
        some lastSeen ∧ state.exitTimeout.reachedBy (now - lastSeen) = true := by
  simp only [departures, List.mem_map, List.mem_filter, isExpired, Bool.and_eq_true,
    Lib.InsertionDict.get?_eq_some_iff]
  constructor
  · intro both
    obtain ⟨⟨key, lastSeen⟩, ⟨member, belongs, timedOut⟩, same⟩ := both
    obtain ⟨other, rfl⟩ := belongsTo_iff.mp belongs
    rw [epcFromKey_tagKey clean] at same
    exact ⟨lastSeen, same ▸ member, timedOut⟩
  · intro both
    obtain ⟨lastSeen, member, timedOut⟩ := both
    exact ⟨_, ⟨member, belongsTo_iff.mpr ⟨epc, rfl⟩, timedOut⟩, epcFromKey_tagKey clean epc⟩

theorem departures_nodup (clean : nul ∉ reader) (state : PresenceState) (tags : List Str)
    (now : Time) (mint : Mint) : (state.departures tags now reader mint).Nodup := by
  unfold departures
  have distinct := (state.refreshed tags now (some reader) mint).distinct
  have kept := distinct.sublist
    ((List.filter_sublist (p := isExpired state.exitTimeout now (some reader))).map Prod.fst)
  rw [List.Nodup, List.pairwise_map] at kept ⊢
  refine kept.imp_of_mem ?_
  intro left right leftMember rightMember differs same
  have leftBelongs := (List.mem_filter.mp leftMember).2
  have rightBelongs := (List.mem_filter.mp rightMember).2
  simp only [isExpired, Bool.and_eq_true] at leftBelongs rightBelongs
  obtain ⟨leftEpc, leftKey⟩ := belongsTo_iff.mp leftBelongs.1
  obtain ⟨rightEpc, rightKey⟩ := belongsTo_iff.mp rightBelongs.1
  rw [leftKey, rightKey, epcFromKey_tagKey clean, epcFromKey_tagKey clean] at same
  exact differs (by rw [leftKey, rightKey, same])

end OneReader

/-- The events of one EPC, in order. -/
def eventsOf (epc : Str) (events : List DetectedEvent) : List EventType :=
  (events.filter fun event => decide (event.epc = epc)).map (·.eventType)

theorem eventsOf_append (epc : Str) (left right : List DetectedEvent) :
    eventsOf epc (left ++ right) = eventsOf epc left ++ eventsOf epc right := by
  simp [eventsOf]

private theorem eventsOf_eq_keys (epc : Str) (events : List DetectedEvent) :
    eventsOf epc events =
      ((events.map (·.key)).filter fun key => decide (key.2.1 = epc)).map Prod.fst := by
  rw [List.filter_map, List.map_map]
  rfl

private theorem filter_eq_of_nodup {values : List Str} (distinct : values.Nodup) (value : Str) :
    values.filter (fun other => decide (other = value)) =
      if value ∈ values then [value] else [] := by
  have counted : values.filter (fun other => decide (other = value)) =
      List.replicate (values.count value) value := by
    rw [← List.filter_beq]
    exact List.filter_congr fun other _ => (beq_eq_decide other value).symm
  rw [counted, distinct.count]
  split <;> rfl

private theorem keys_of_epc {values : List Str} (distinct : values.Nodup) (eventType : EventType)
    (readerId : Option Str) (epc : Str) :
    ((values.map fun value => (eventType, value, readerId)).filter
      fun key => decide (key.2.1 = epc)).map Prod.fst =
        if epc ∈ values then [eventType] else [] := by
  rw [List.filter_map, List.map_map]
  have filtered := filter_eq_of_nodup distinct epc
  simp only [Function.comp_def]
  rw [filtered]
  split <;> rfl

theorem update_eventsOf {reader : Str} (clean : nul ∉ reader) (state : PresenceState)
    (tags : List Str) (now : Time) (mint : Mint) (epc : Str) :
    eventsOf epc (state.update tags now (some reader) mint).1 =
      (if epc ∈ arrivals (some reader) tags state.visibleTags.keys then [.ENTER] else []) ++
      (if epc ∈ state.departures tags now reader mint then [.EXIT] else []) := by
  have departed : ((state.refreshed tags now (some reader) mint).entries.filter
      (isExpired state.exitTimeout now (some reader))).map
        (fun entry => (EventType.EXIT, epcFromKey entry.1, some reader)) =
      (state.departures tags now reader mint).map
        fun epc => (EventType.EXIT, epc, some reader) := by
    simp [departures, List.map_map, Function.comp_def]
  rw [eventsOf_eq_keys, update_keys, departed, List.filter_append, List.map_append,
    keys_of_epc (arrivals_nodup tags _), keys_of_epc (departures_nodup clean state tags now mint)]

/-- `update` steps the machine of every tag of the calling reader. -/
theorem update_refines {reader : Str} (clean : nul ∉ reader) (state : PresenceState)
    (positive : state.exitTimeout.reachedBy 0 = false) (tags : List Str) (now : Time)
    (mint : Mint) (epc : Str) :
    let tag := state.visibleTags.get? (tagKey epc (some reader))
    let seen := Presence.observe state.exitTimeout (decide (epc ∈ tags)) now tag
    eventsOf epc (state.update tags now (some reader) mint).1 = seen.1.toList ∧
      (state.update tags now (some reader) mint).2.visibleTags.get? (tagKey epc (some reader)) =
        seen.2 := by
  intro tag seen
  have listed : tagKey epc (some reader) ∈ tags.map (fun epc => tagKey epc (some reader)) ↔
      epc ∈ tags := by
    constructor
    · intro member
      obtain ⟨other, otherMember, same⟩ := List.mem_map.mp member
      exact tagKey_injective same ▸ otherMember
    · exact fun member => List.mem_map.mpr ⟨epc, member, rfl⟩
  have found := state.refreshed_get? tags now (some reader) mint (tagKey epc (some reader))
  have absent : tagKey epc (some reader) ∉ state.visibleTags.keys ↔ tag = none :=
    Lib.InsertionDict.get?_eq_none_iff.symm
  have belongs : belongsTo (some reader) (tagKey epc (some reader)) = true :=
    belongsTo_iff.mpr ⟨epc, rfl⟩
  rw [update_eventsOf clean, update_get?]
  simp only [mem_arrivals, absent, mem_departures clean, found, listed]
  by_cases here : epc ∈ tags
  · -- A listed tag was seen no time ago, so it cannot leave in the same call.
    cases known : tag with
    | none => simp [seen, Presence.observe, known, here, isExpired, positive]
    | some lastSeen => simp [seen, Presence.observe, known, here, isExpired, positive]
  · cases known : tag with
    | none =>
        have missing : state.visibleTags.get? (tagKey epc (some reader)) = none := known
        simp [seen, Presence.observe, known, here, missing]
    | some lastSeen =>
        have stored : state.visibleTags.get? (tagKey epc (some reader)) = some lastSeen := known
        by_cases timedOut : state.exitTimeout.reachedBy (now - lastSeen) = true
        · simp [seen, Presence.observe, known, here, stored, isExpired, belongs, timedOut]
        · simp [seen, Presence.observe, known, here, stored, isExpired, belongs, timedOut]

end PresenceState

end MvdEdge
