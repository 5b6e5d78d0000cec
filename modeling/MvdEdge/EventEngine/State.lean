import MvdEdge.Base
import MvdEdge.Lib.InsertionDict

/-! The presence engine: `PresenceState.update` and its key functions. Fresh
identifiers and wall-clock texts are drawn from outside and arrive as a `Mint`. -/

set_option autoImplicit false

namespace MvdEdge

open Lib

inductive EventType where
  | ENTER
  | EXIT
  deriving DecidableEq, Repr

structure DetectedEvent where
  edgeEventId : Str
  eventType : EventType
  epc : Str
  edgeEventAt : Timestamp
  readerId : Option Str

def DetectedEvent.key (event : DetectedEvent) : EventType × Str × Option Str :=
  (event.eventType, event.epc, event.readerId)

/-- Answers of `uuid4()` and `timestamp()` for the successive events of one call. -/
structure Mint where
  uuid4 : Nat → Str
  timestamp : Nat → Timestamp

def Mint.event (mint : Mint) (index : Nat) (eventType : EventType) (epc : Str)
    (readerId : Option Str) : DetectedEvent :=
  { edgeEventId := mint.uuid4 index
    eventType
    epc
    edgeEventAt := mint.timestamp index
    readerId }

@[simp] theorem Mint.event_key (mint : Mint) (index : Nat) (eventType : EventType) (epc : Str)
    (readerId : Option Str) :
    (mint.event index eventType epc readerId).key = (eventType, epc, readerId) := rfl

structure PresenceState where
  exitTimeout : PyFloat
  visibleTags : InsertionDict Str Time

namespace PresenceState

def new (exitTimeout : PyFloat) : PresenceState := ⟨exitTimeout, .empty⟩

def tagKey (epc : Str) (readerId : Option Str) : Str :=
  match readerId with
  | none => epc
  | some reader => reader ++ nul :: epc

/-- `tag_key.split("\x00", 1)[1] if "\x00" in tag_key else tag_key`. -/
def epcFromKey (key : Str) : Str :=
  if nul ∈ key then (key.dropWhile fun char => decide (char ≠ nul)).tail else key

/-- The reader test of the expiry loop: `startswith(f"{reader_id}\x00")`. -/
def belongsTo (readerId : Option Str) (key : Str) : Bool :=
  match readerId with
  | none => true
  | some reader => (reader ++ [nul]).isPrefixOf key

/-- The first loop: every listed tag is entered when new and its time refreshed. -/
def listTags (observedAt : Time) (readerId : Option Str) (mint : Mint) :
    List Str → List DetectedEvent → InsertionDict Str Time →
      List DetectedEvent × InsertionDict Str Time
  | [], events, visible => (events, visible)
  | epc :: rest, events, visible =>
      let key := tagKey epc readerId
      let entered :=
        if key ∈ visible.keys then events
        else events ++ [mint.event events.length .ENTER epc readerId]
      listTags observedAt readerId mint rest entered (visible.set key observedAt)

/-- The second loop: keys of this reader past the timeout leave. -/
def expireTags (exitTimeout : PyFloat) (observedAt : Time) (readerId : Option Str) (mint : Mint) :
    List (Str × Time) → List DetectedEvent → List Str → List DetectedEvent × List Str
  | [], events, expired => (events, expired)
  | (key, lastSeen) :: rest, events, expired =>
      if belongsTo readerId key = false then
        expireTags exitTimeout observedAt readerId mint rest events expired
      else if exitTimeout.reachedBy (observedAt - lastSeen) then
        expireTags exitTimeout observedAt readerId mint rest
          (events ++ [mint.event events.length .EXIT (epcFromKey key) readerId])
          (expired ++ [key])
      else expireTags exitTimeout observedAt readerId mint rest events expired

def update (state : PresenceState) (visibleEpcs : List Str) (observedAt : Time)
    (readerId : Option Str) (mint : Mint) : List DetectedEvent × PresenceState :=
  let (entered, visible) := listTags observedAt readerId mint visibleEpcs [] state.visibleTags
  let (events, expired) :=
    expireTags state.exitTimeout observedAt readerId mint visible.entries entered []
  -- The third loop prunes only after the scan over the dictionary has ended.
  (events, { state with visibleTags := visible.eraseAll expired })

def Numbered (mint : Mint) (events : List DetectedEvent) : Prop :=
  events.map (·.edgeEventId) = (List.range events.length).map mint.uuid4

theorem Numbered.concat {mint : Mint} {events : List DetectedEvent}
    (numbered : Numbered mint events) (eventType : EventType) (epc : Str)
    (readerId : Option Str) :
    Numbered mint (events ++ [mint.event events.length eventType epc readerId]) := by
  unfold Numbered at numbered ⊢
  rw [List.map_append, numbered, List.length_append, List.length_singleton, List.range_succ,
    List.map_append]
  rfl

theorem listTags_numbered (observedAt : Time) (readerId : Option Str) (mint : Mint)
    (tags : List Str) (events : List DetectedEvent) (visible : InsertionDict Str Time)
    (numbered : Numbered mint events) :
    Numbered mint (listTags observedAt readerId mint tags events visible).1 := by
  induction tags generalizing events visible with
  | nil => exact numbered
  | cons epc rest ih =>
      simp only [listTags]
      apply ih
      split
      · exact numbered
      · exact numbered.concat ..

theorem expireTags_numbered (exitTimeout : PyFloat) (observedAt : Time) (readerId : Option Str)
    (mint : Mint) (entries : List (Str × Time)) (events : List DetectedEvent)
    (expired : List Str) (numbered : Numbered mint events) :
    Numbered mint (expireTags exitTimeout observedAt readerId mint entries events expired).1 := by
  induction entries generalizing events expired with
  | nil => exact numbered
  | cons entry rest ih =>
      obtain ⟨key, lastSeen⟩ := entry
      simp only [expireTags]
      split
      · exact ih _ _ numbered
      · split
        · exact ih _ _ (numbered.concat ..)
        · exact ih _ _ numbered

theorem update_numbered (state : PresenceState) (visibleEpcs : List Str) (observedAt : Time)
    (readerId : Option Str) (mint : Mint) :
    Numbered mint (state.update visibleEpcs observedAt readerId mint).1 :=
  expireTags_numbered _ _ _ _ _ _ _ (listTags_numbered _ _ _ _ _ _ rfl)

def isExpired (exitTimeout : PyFloat) (observedAt : Time) (readerId : Option Str)
    (entry : Str × Time) : Bool :=
  belongsTo readerId entry.1 && exitTimeout.reachedBy (observedAt - entry.2)

/-- The EPCs the first loop enters, given the keys in sight before it. -/
def arrivals (readerId : Option Str) : List Str → List Str → List Str
  | [], _ => []
  | epc :: rest, keys =>
      if tagKey epc readerId ∈ keys then arrivals readerId rest keys
      else epc :: arrivals readerId rest (keys ++ [tagKey epc readerId])

theorem listTags_keys (observedAt : Time) (readerId : Option Str) (mint : Mint) (tags : List Str)
    (events : List DetectedEvent) (visible : InsertionDict Str Time) :
    ((listTags observedAt readerId mint tags events visible).1.map (·.key) =
      events.map (·.key) ++
        (arrivals readerId tags visible.keys).map fun epc => (.ENTER, epc, readerId)) ∧
    (listTags observedAt readerId mint tags events visible).2.keys =
      visible.keys ++ (arrivals readerId tags visible.keys).map fun epc => tagKey epc readerId := by
  induction tags generalizing events visible with
  | nil => simp [listTags, arrivals]
  | cons epc rest ih =>
      simp only [listTags, arrivals]
      obtain ⟨eventKeys, dictKeys⟩ := ih
        (if tagKey epc readerId ∈ visible.keys then events
          else events ++ [mint.event events.length .ENTER epc readerId])
        (visible.set (tagKey epc readerId) observedAt)
      rw [eventKeys, dictKeys, InsertionDict.keys_set]
      by_cases present : tagKey epc readerId ∈ visible.keys
      · simp [present]
      · simp [present]

theorem listTags_get? (observedAt : Time) (readerId : Option Str) (mint : Mint) (tags : List Str)
    (events : List DetectedEvent) (visible : InsertionDict Str Time) (key : Str) :
    (listTags observedAt readerId mint tags events visible).2.get? key =
      if key ∈ tags.map (fun epc => tagKey epc readerId) then some observedAt
      else visible.get? key := by
  induction tags generalizing events visible with
  | nil => simp [listTags]
  | cons epc rest ih =>
      simp only [listTags]
      rw [ih, InsertionDict.get?_set]
      by_cases here : key = tagKey epc readerId <;> simp [here]

theorem expireTags_eq (exitTimeout : PyFloat) (observedAt : Time) (readerId : Option Str)
    (mint : Mint) (entries : List (Str × Time)) (events : List DetectedEvent)
    (expired : List Str) :
    ((expireTags exitTimeout observedAt readerId mint entries events expired).1.map (·.key) =
      events.map (·.key) ++ (entries.filter (isExpired exitTimeout observedAt readerId)).map
        fun entry => (.EXIT, epcFromKey entry.1, readerId)) ∧
    (expireTags exitTimeout observedAt readerId mint entries events expired).2 =
      expired ++ (entries.filter (isExpired exitTimeout observedAt readerId)).map Prod.fst := by
  induction entries generalizing events expired with
  | nil => simp [expireTags]
  | cons entry rest ih =>
      obtain ⟨key, lastSeen⟩ := entry
      simp only [expireTags]
      by_cases foreign : belongsTo readerId key = false
      · simp [foreign, isExpired, ih]
      · by_cases timedOut : exitTimeout.reachedBy (observedAt - lastSeen) = true
        · simp [foreign, isExpired, timedOut, ih]
        · simp [foreign, isExpired, timedOut, ih]

def refreshed (state : PresenceState) (visibleEpcs : List Str) (observedAt : Time)
    (readerId : Option Str) (mint : Mint) : InsertionDict Str Time :=
  (listTags observedAt readerId mint visibleEpcs [] state.visibleTags).2

theorem refreshed_keys (state : PresenceState) (visibleEpcs : List Str) (observedAt : Time)
    (readerId : Option Str) (mint : Mint) :
    (state.refreshed visibleEpcs observedAt readerId mint).keys = state.visibleTags.keys ++
      (arrivals readerId visibleEpcs state.visibleTags.keys).map
        fun epc => tagKey epc readerId :=
  (listTags_keys observedAt readerId mint visibleEpcs [] state.visibleTags).2

theorem refreshed_get? (state : PresenceState) (visibleEpcs : List Str) (observedAt : Time)
    (readerId : Option Str) (mint : Mint) (key : Str) :
    (state.refreshed visibleEpcs observedAt readerId mint).get? key =
      if key ∈ visibleEpcs.map (fun epc => tagKey epc readerId) then some observedAt
      else state.visibleTags.get? key :=
  listTags_get? observedAt readerId mint visibleEpcs [] state.visibleTags key

/-- All a call reports: the arrivals, then the refreshed entries past the timeout. -/
theorem update_keys (state : PresenceState) (visibleEpcs : List Str) (observedAt : Time)
    (readerId : Option Str) (mint : Mint) :
    (state.update visibleEpcs observedAt readerId mint).1.map (·.key) =
      ((arrivals readerId visibleEpcs state.visibleTags.keys).map
        fun epc => (.ENTER, epc, readerId)) ++
      (((state.refreshed visibleEpcs observedAt readerId mint).entries.filter
        (isExpired state.exitTimeout observedAt readerId)).map
          fun entry => (.EXIT, epcFromKey entry.1, readerId)) := by
  simp only [update, refreshed]
  rw [(expireTags_eq state.exitTimeout observedAt readerId mint _ _ _).1,
    (listTags_keys observedAt readerId mint visibleEpcs [] state.visibleTags).1]
  simp

@[simp] theorem update_exitTimeout (state : PresenceState) (visibleEpcs : List Str)
    (observedAt : Time) (readerId : Option Str) (mint : Mint) :
    (state.update visibleEpcs observedAt readerId mint).2.exitTimeout = state.exitTimeout := rfl

private theorem mem_expired_keys {entries : List (Str × Time)} (test : Str × Time → Bool)
    (distinct : (entries.map Prod.fst).Nodup) {entry : Str × Time} (member : entry ∈ entries) :
    entry.1 ∈ (entries.filter test).map Prod.fst ↔ test entry = true := by
  constructor
  · intro found
    obtain ⟨other, kept, same⟩ := List.mem_map.mp found
    have equal : other = entry :=
      List.inj_on_of_nodup_map distinct (List.mem_of_mem_filter kept) member same
    exact equal ▸ (List.mem_filter.mp kept).2
  · intro holds
    exact List.mem_map.mpr ⟨entry, List.mem_filter.mpr ⟨member, holds⟩, rfl⟩

theorem update_entries (state : PresenceState) (visibleEpcs : List Str) (observedAt : Time)
    (readerId : Option Str) (mint : Mint) :
    (state.update visibleEpcs observedAt readerId mint).2.visibleTags.entries =
      (state.refreshed visibleEpcs observedAt readerId mint).entries.filter
        fun entry => !isExpired state.exitTimeout observedAt readerId entry := by
  simp only [update]
  rw [InsertionDict.entries_eraseAll,
    (expireTags_eq state.exitTimeout observedAt readerId mint _ _ _).2]
  apply List.filter_congr
  intro entry member
  have reported := mem_expired_keys (isExpired state.exitTimeout observedAt readerId)
    (state.refreshed visibleEpcs observedAt readerId mint).distinct member
  cases timedOut : isExpired state.exitTimeout observedAt readerId entry with
  | true =>
      simp only [List.nil_append, Bool.not_true, decide_eq_false_iff_not, not_not]
      exact reported.mpr timedOut
  | false =>
      simp only [List.nil_append, Bool.not_false, decide_eq_true_eq]
      exact mt reported.mp (by simp [timedOut])

theorem update_get? (state : PresenceState) (visibleEpcs : List Str) (observedAt : Time)
    (readerId : Option Str) (mint : Mint) (key : Str) :
    (state.update visibleEpcs observedAt readerId mint).2.visibleTags.get? key =
      ((state.refreshed visibleEpcs observedAt readerId mint).get? key).filter
        fun lastSeen => !isExpired state.exitTimeout observedAt readerId (key, lastSeen) := by
  apply Option.ext
  intro lastSeen
  rw [InsertionDict.get?_eq_some_iff, update_entries, List.mem_filter, Option.filter_eq_some_iff,
    InsertionDict.get?_eq_some_iff]

end PresenceState

end MvdEdge
