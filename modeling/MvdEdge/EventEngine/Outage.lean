import MvdEdge.EventEngine.StateProperties

/-! Two runs of the presence engine from one state: in the second every scan
happens a fixed delay later. Tags listed since the start age alike in both;
a tag not listed since is older by the delay in the second run, and that is all
the difference there is. -/

set_option autoImplicit false

namespace MvdEdge

namespace PresenceState

structure Delayed (delay : Time) (scans : Scan × Scan) : Prop where
  sameTags : scans.2.tags = scans.1.tags
  later : scans.2.now = scans.1.now + delay

/-- A tag in sight at the start that no scan has listed or timed out since. -/
structure Unseen (start : PresenceState) (readerId : Option Str) (scans : List Scan) (key : Str)
    (lastSeen : Time) : Prop where
  inSight : start.visibleTags.get? key = some lastSeen
  unlisted : ∀ scan ∈ scans, key ∉ scan.tags.map fun epc => tagKey epc readerId
  waiting : ∀ scan ∈ scans, isExpired start.exitTimeout scan.now readerId (key, lastSeen) = false

/-- No scan finds a tag, unseen up to and including this scan, that is short of
the timeout and would not be with the delay added. -/
def DelayHarmless (start : PresenceState) (readerId : Option Str) (delay : Time)
    (scans : List Scan) : Prop :=
  ∀ earlier scan, earlier ++ [scan] <+: scans → ∀ key lastSeen,
    Unseen start readerId (earlier ++ [scan]) key lastSeen →
      isExpired start.exitTimeout (scan.now + delay) readerId (key, lastSeen) = false

def leaves (state : PresenceState) (readerId : Option Str) (scan : Scan) (key : Str) : Bool :=
  ((state.refreshed scan.tags scan.now readerId scan.mint).get? key).any fun lastSeen =>
    isExpired state.exitTimeout scan.now readerId (key, lastSeen)

theorem leaves_of_stored {state : PresenceState} {readerId : Option Str} {scan : Scan} {key : Str}
    {lastSeen : Time}
    (stored : (state.refreshed scan.tags scan.now readerId scan.mint).get? key = some lastSeen) :
    state.leaves readerId scan key =
      isExpired state.exitTimeout scan.now readerId (key, lastSeen) := by
  simp [leaves, stored]

theorem leaves_stored {state : PresenceState} {readerId : Option Str} {scan : Scan} {key : Str}
    (gone : state.leaves readerId scan key = true) :
    ∃ lastSeen, (state.refreshed scan.tags scan.now readerId scan.mint).get? key =
      some lastSeen := by
  obtain ⟨lastSeen, stored, _⟩ := (Option.any_eq_true _ _).mp gone
  exact ⟨lastSeen, stored⟩

theorem update_keys_leaves (state : PresenceState) (readerId : Option Str) (scan : Scan) :
    (state.update scan.tags scan.now readerId scan.mint).1.map (·.key) =
      ((arrivals readerId scan.tags state.visibleTags.keys).map
        fun epc => (.ENTER, epc, readerId)) ++
      (((state.refreshed scan.tags scan.now readerId scan.mint).keys.filter
        (state.leaves readerId scan)).map fun key => (.EXIT, epcFromKey key, readerId)) := by
  rw [update_keys]
  unfold leaves
  rw [← Lib.InsertionDict.map_fst_filter_entries, List.map_map]
  rfl

theorem update_visible_keys (state : PresenceState) (readerId : Option Str) (scan : Scan) :
    (state.update scan.tags scan.now readerId scan.mint).2.visibleTags.keys =
      (state.refreshed scan.tags scan.now readerId scan.mint).keys.filter
        fun key => !state.leaves readerId scan key := by
  rw [Lib.InsertionDict.keys, update_entries, Lib.InsertionDict.map_fst_filter_entries]
  apply List.filter_congr
  intro key member
  obtain ⟨lastSeen, stored⟩ := Lib.InsertionDict.mem_keys_iff.mp member
  simp [leaves, stored]

theorem update_get?_eq_some_iff (state : PresenceState) (readerId : Option Str) (scan : Scan)
    (key : Str) (lastSeen : Time) :
    (state.update scan.tags scan.now readerId scan.mint).2.visibleTags.get? key =
        some lastSeen ↔
      (state.refreshed scan.tags scan.now readerId scan.mint).get? key = some lastSeen ∧
        isExpired state.exitTimeout scan.now readerId (key, lastSeen) = false := by
  rw [update_get?, Option.filter_eq_some_iff, Bool.not_eq_true']

/-- The two runs after some scans, with the tags that are `stale` in both. -/
structure Agree (delay : Time) (stale : Str → Time → Prop) (base late : PresenceState) :
    Prop where
  exitTimeout : late.exitTimeout = base.exitTimeout
  keys : late.visibleTags.keys = base.visibleTags.keys
  lastSeen : ∀ key time, base.visibleTags.get? key = some time →
    late.visibleTags.get? key = some (time + delay) ∨ stale key time
  stale_base : ∀ key time, stale key time → base.visibleTags.get? key = some time
  stale_late : ∀ key time, stale key time → late.visibleTags.get? key = some time

theorem Agree.refl (delay : Time) (start : PresenceState) (readerId : Option Str) :
    Agree delay (start.Unseen readerId []) start start where
  exitTimeout := rfl
  keys := rfl
  lastSeen := fun _ _ known => .inr ⟨known, by simp, by simp⟩
  stale_base := fun _ _ unseen => unseen.inSight
  stale_late := fun _ _ unseen => unseen.inSight

section Step

variable {start base late : PresenceState} {readerId : Option Str} {delay : Time}
  {earlier : List Scan} {scans : Scan × Scan}

theorem unseen_concat_iff {scan : Scan} {key : Str} {time : Time} :
    start.Unseen readerId (earlier ++ [scan]) key time ↔
      start.Unseen readerId earlier key time ∧
        (key ∉ scan.tags.map fun epc => tagKey epc readerId) ∧
        isExpired start.exitTimeout scan.now readerId (key, time) = false := by
  constructor
  · intro both
    obtain ⟨inSight, unlisted, waiting⟩ := both
    simp only [List.mem_append, List.mem_singleton] at unlisted waiting
    exact ⟨⟨inSight, fun other member => unlisted other (.inl member),
      fun other member => waiting other (.inl member)⟩, unlisted scan (.inr rfl),
      waiting scan (.inr rfl)⟩
  · intro both
    obtain ⟨⟨inSight, unlisted, waiting⟩, listed, expired⟩ := both
    refine ⟨inSight, ?_, ?_⟩
    · intro other member
      cases List.mem_append.mp member with
      | inl member => exact unlisted other member
      | inr member => exact List.mem_singleton.mp member ▸ listed
    · intro other member
      cases List.mem_append.mp member with
      | inl member => exact waiting other member
      | inr member => exact List.mem_singleton.mp member ▸ expired

theorem Agree.refreshed_keys (agree : Agree delay (start.Unseen readerId earlier) base late)
    (delayed : Delayed delay scans) :
    (late.refreshed scans.2.tags scans.2.now readerId scans.2.mint).keys =
      (base.refreshed scans.1.tags scans.1.now readerId scans.1.mint).keys := by
  rw [PresenceState.refreshed_keys, PresenceState.refreshed_keys, agree.keys, delayed.sameTags]

/-- A refreshed entry is as old in the postponed run, or is a stale one. -/
theorem Agree.refreshed_get? (agree : Agree delay (start.Unseen readerId earlier) base late)
    (delayed : Delayed delay scans) {key : Str} {time : Time}
    (stored : (base.refreshed scans.1.tags scans.1.now readerId scans.1.mint).get? key =
      some time) :
    (late.refreshed scans.2.tags scans.2.now readerId scans.2.mint).get? key =
        some (time + delay) ∨
      (start.Unseen readerId earlier key time ∧
        (key ∉ scans.1.tags.map fun epc => tagKey epc readerId) ∧
        (late.refreshed scans.2.tags scans.2.now readerId scans.2.mint).get? key =
          some time) := by
  rw [PresenceState.refreshed_get?] at stored ⊢
  rw [delayed.sameTags]
  by_cases listed : key ∈ scans.1.tags.map fun epc => tagKey epc readerId
  · rw [if_pos listed, Option.some_inj] at stored
    rw [if_pos listed, delayed.later, stored]
    exact .inl rfl
  · rw [if_neg listed] at stored
    rw [if_neg listed]
    cases agree.lastSeen key time stored with
    | inl fresh => exact .inl fresh
    | inr stale => exact .inr ⟨stale, listed, agree.stale_late key time stale⟩

private theorem isExpired_shift (exitTimeout : PyFloat) (now time : Time) (key : Str) :
    isExpired exitTimeout (now + delay) readerId (key, time + delay) =
      isExpired exitTimeout now readerId (key, time) := by
  simp [isExpired]

private theorem isExpired_mono {exitTimeout : PyFloat} {now time : Time} {key : Str}
    (nonneg : 0 ≤ delay) (expired : isExpired exitTimeout now readerId (key, time) = true) :
    isExpired exitTimeout (now + delay) readerId (key, time) = true := by
  simp only [isExpired, Bool.and_eq_true] at expired ⊢
  have older : now - time ≤ now + delay - time := by
    rw [add_sub_right_comm]
    exact le_add_of_nonneg_right nonneg
  exact ⟨expired.1, PyFloat.reachedBy_mono older expired.2⟩

theorem Agree.leaves_mono (agree : Agree delay (start.Unseen readerId earlier) base late)
    (nonneg : 0 ≤ delay) (delayed : Delayed delay scans) {key : Str}
    (gone : base.leaves readerId scans.1 key = true) :
    late.leaves readerId scans.2 key = true := by
  obtain ⟨time, stored⟩ := leaves_stored gone
  rw [leaves_of_stored stored] at gone
  rcases agree.refreshed_get? delayed stored with fresh | ⟨_, _, stale⟩
  · rw [leaves_of_stored fresh, agree.exitTimeout, delayed.later, isExpired_shift, gone]
  · rw [leaves_of_stored stale, agree.exitTimeout, delayed.later]
    exact isExpired_mono nonneg gone

theorem Agree.leaves_eq (agree : Agree delay (start.Unseen readerId earlier) base late)
    (timeout : base.exitTimeout = start.exitTimeout) (nonneg : 0 ≤ delay)
    (delayed : Delayed delay scans)
    (harmless : ∀ key time, start.Unseen readerId (earlier ++ [scans.1]) key time →
      isExpired start.exitTimeout (scans.1.now + delay) readerId (key, time) = false)
    (key : Str) :
    late.leaves readerId scans.2 key = base.leaves readerId scans.1 key := by
  cases gone : base.leaves readerId scans.1 key with
  | true => exact agree.leaves_mono nonneg delayed gone
  | false =>
      cases stored : (base.refreshed scans.1.tags scans.1.now readerId scans.1.mint).get? key with
      | none =>
          have missing := Lib.InsertionDict.get?_eq_none_iff.mp stored
          rw [← agree.refreshed_keys delayed] at missing
          rw [leaves, Lib.InsertionDict.get?_eq_none_iff.mpr missing]
          rfl
      | some time =>
          rw [leaves_of_stored stored, timeout] at gone
          rcases agree.refreshed_get? delayed stored with fresh | ⟨unseen, unlisted, stale⟩
          · rw [leaves_of_stored fresh, agree.exitTimeout, delayed.later, timeout,
              isExpired_shift, gone]
          · rw [leaves_of_stored stale, agree.exitTimeout, delayed.later, timeout]
            exact harmless key time (unseen_concat_iff.mpr ⟨unseen, unlisted, gone⟩)

theorem Agree.update (agree : Agree delay (start.Unseen readerId earlier) base late)
    (timeout : base.exitTimeout = start.exitTimeout) (nonneg : 0 ≤ delay)
    (delayed : Delayed delay scans)
    (harmless : ∀ key time, start.Unseen readerId (earlier ++ [scans.1]) key time →
      isExpired start.exitTimeout (scans.1.now + delay) readerId (key, time) = false) :
    let baseCall := base.update scans.1.tags scans.1.now readerId scans.1.mint
    let lateCall := late.update scans.2.tags scans.2.now readerId scans.2.mint
    lateCall.1.map (·.key) = baseCall.1.map (·.key) ∧
      Agree delay (start.Unseen readerId (earlier ++ [scans.1])) baseCall.2 lateCall.2 := by
  have sameLeaves := agree.leaves_eq timeout nonneg delayed harmless
  have sameKeys := agree.refreshed_keys delayed
  refine ⟨?_, ?_, ?_, ?_, ?_, ?_⟩
  · rw [update_keys_leaves, update_keys_leaves, sameKeys, agree.keys, delayed.sameTags,
      funext sameLeaves]
  · rw [update_exitTimeout, update_exitTimeout, agree.exitTimeout]
  · simp only [update_visible_keys, sameKeys, sameLeaves]
  · intro key time stored
    rw [update_get?_eq_some_iff] at stored
    obtain ⟨stored, kept⟩ := stored
    rw [update_get?_eq_some_iff]
    rcases agree.refreshed_get? delayed stored with fresh | ⟨unseen, unlisted, _⟩
    · exact .inl ⟨fresh, by rw [agree.exitTimeout, delayed.later, isExpired_shift, kept]⟩
    · exact .inr (unseen_concat_iff.mpr ⟨unseen, unlisted, timeout ▸ kept⟩)
  · intro key time unseen
    obtain ⟨before, unlisted, kept⟩ := unseen_concat_iff.mp unseen
    rw [update_get?_eq_some_iff, PresenceState.refreshed_get?, if_neg unlisted, timeout]
    exact ⟨agree.stale_base key time before, kept⟩
  · intro key time unseen
    obtain ⟨before, unlisted, _⟩ := unseen_concat_iff.mp unseen
    rw [update_get?_eq_some_iff, PresenceState.refreshed_get?, delayed.sameTags, if_neg unlisted,
      agree.exitTimeout, delayed.later, timeout]
    exact ⟨agree.stale_late key time before, harmless key time unseen⟩

theorem Agree.harmless_of_keys (agree : Agree delay (start.Unseen readerId earlier) base late)
    (timeout : base.exitTimeout = start.exitTimeout) (nonneg : 0 ≤ delay)
    (delayed : Delayed delay scans)
    (same : (late.update scans.2.tags scans.2.now readerId scans.2.mint).1.map (·.key) =
      (base.update scans.1.tags scans.1.now readerId scans.1.mint).1.map (·.key))
    {key : Str} {time : Time} (unseen : start.Unseen readerId (earlier ++ [scans.1]) key time) :
    isExpired start.exitTimeout (scans.1.now + delay) readerId (key, time) = false := by
  obtain ⟨before, unlisted, kept⟩ := unseen_concat_iff.mp unseen
  have baseStored : (base.refreshed scans.1.tags scans.1.now readerId scans.1.mint).get? key =
      some time := by
    rw [PresenceState.refreshed_get?, if_neg unlisted]
    exact agree.stale_base key time before
  have lateStored : (late.refreshed scans.2.tags scans.2.now readerId scans.2.mint).get? key =
      some time := by
    rw [PresenceState.refreshed_get?, delayed.sameTags, if_neg unlisted]
    exact agree.stale_late key time before
  -- As many keys leave in both runs, and those of the first leave in the second.
  rw [update_keys_leaves, update_keys_leaves, agree.refreshed_keys delayed, agree.keys,
    delayed.sameTags, List.append_cancel_left_eq] at same
  have mono : ∀ other, base.leaves readerId scans.1 other = true →
      late.leaves readerId scans.2 other = true := fun _ => agree.leaves_mono nonneg delayed
  have fewer := List.monotone_filter_right
    (base.refreshed scans.1.tags scans.1.now readerId scans.1.mint).keys mono
  have equal := fewer.eq_of_length (by simpa using (congrArg List.length same).symm)
  by_contra expired
  have member : key ∈ (base.refreshed scans.1.tags scans.1.now readerId scans.1.mint).keys.filter
      (late.leaves readerId scans.2) := by
    refine List.mem_filter.mpr ⟨Lib.InsertionDict.mem_keys_iff.mpr ⟨time, baseStored⟩, ?_⟩
    rw [leaves_of_stored lateStored, agree.exitTimeout, delayed.later, timeout]
    simpa using expired
  rw [← equal] at member
  have gone := (List.mem_filter.mp member).2
  rw [leaves_of_stored baseStored, timeout, kept] at gone
  contradiction

end Step

section Run

variable {start : PresenceState} {readerId : Option Str} {delay : Time}

private theorem delayHarmless_of_append {scans more : List Scan}
    (harmless : start.DelayHarmless readerId delay (scans ++ more)) :
    start.DelayHarmless readerId delay scans :=
  fun earlier scan before => harmless earlier scan (before.trans (List.prefix_append scans more))

theorem runUpdates_agree (nonneg : 0 ≤ delay) {pairs : List (Scan × Scan)}
    (delayed : ∀ pair ∈ pairs, Delayed delay pair)
    (harmless : start.DelayHarmless readerId delay (pairs.map Prod.fst)) :
    let base := runUpdates readerId (pairs.map Prod.fst) start
    let late := runUpdates readerId (pairs.map Prod.snd) start
    late.1.map (·.key) = base.1.map (·.key) ∧
      Agree delay (start.Unseen readerId (pairs.map Prod.fst)) base.2 late.2 := by
  induction pairs using List.reverseRecOn with
  | nil => exact ⟨rfl, Agree.refl delay start readerId⟩
  | append_singleton pairs pair ih =>
      simp only [List.map_append, List.map_cons, List.map_nil] at harmless ⊢
      obtain ⟨events, agree⟩ := ih (fun other member => delayed other (by simp [member]))
        (delayHarmless_of_append harmless)
      have stepped := agree.update (runUpdates_exitTimeout readerId _ start) nonneg
        (delayed pair (by simp)) (harmless _ _ (List.prefix_refl _))
      rw [runUpdates_concat, runUpdates_concat]
      dsimp only
      rw [List.map_append, List.map_append, events, stepped.1]
      exact ⟨rfl, stepped.2⟩

/-- The delay goes unnoticed at every point of the run exactly when it is harmless. -/
theorem runUpdates_delayed_iff (start : PresenceState) (readerId : Option Str)
    (nonneg : 0 ≤ delay) {pairs : List (Scan × Scan)}
    (delayed : ∀ pair ∈ pairs, Delayed delay pair) :
    (∀ count, ((runUpdates readerId ((pairs.take count).map Prod.snd) start).1.map (·.key)) =
      (runUpdates readerId ((pairs.take count).map Prod.fst) start).1.map (·.key)) ↔
        start.DelayHarmless readerId delay (pairs.map Prod.fst) := by
  constructor
  · intro same
    induction pairs using List.reverseRecOn with
    | nil =>
        intro earlier scan before
        simp at before
    | append_singleton pairs pair ih =>
        have delayedInit : ∀ other ∈ pairs, Delayed delay other :=
          fun other member => delayed other (by simp [member])
        have harmless := ih delayedInit fun count => by
          have cut := same (min count pairs.length)
          rw [List.take_append_of_le_length (Nat.min_le_right _ _)] at cut
          simpa [List.take_eq_take_min] using cut
        obtain ⟨events, agree⟩ := runUpdates_agree nonneg delayedInit harmless
        have whole := same (pairs.length + 1)
        simp only [List.take_of_length_le (by simp : (pairs ++ [pair]).length ≤ pairs.length + 1),
          List.map_append, List.map_cons, List.map_nil, runUpdates_concat] at whole
        rw [events, List.append_cancel_left_eq] at whole
        simp only [List.map_append, List.map_cons, List.map_nil]
        intro earlier scan before key time unseen
        cases List.prefix_concat_iff.mp before with
        | inl last =>
            obtain ⟨rfl, same⟩ := List.append_inj' last rfl
            obtain rfl := List.singleton_inj.mp same
            exact agree.harmless_of_keys (runUpdates_exitTimeout readerId _ start) nonneg
              (delayed pair (by simp)) whole unseen
        | inr inside => exact harmless earlier scan inside key time unseen
  · intro harmless count
    have cut : pairs.map Prod.fst =
        (pairs.take count).map Prod.fst ++ (pairs.drop count).map Prod.fst := by
      rw [← List.map_append, List.take_append_drop]
    rw [cut] at harmless
    exact (runUpdates_agree nonneg
      (fun pair member => delayed pair (List.mem_of_mem_take member))
      (delayHarmless_of_append harmless)).1

end Run

end PresenceState

end MvdEdge
