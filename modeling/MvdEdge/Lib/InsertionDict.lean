import Mathlib.Data.List.Nodup

/-! Insertion-ordered dictionaries. Overwriting a key keeps its position, a new
key goes to the end, and deletion closes the gap. Distinctness of the keys is
part of the structure, so every value of the type is a dictionary. -/

set_option autoImplicit false

namespace MvdEdge.Lib

structure InsertionDict (κ ν : Type) where
  entries : List (κ × ν)
  distinct : (entries.map Prod.fst).Nodup

namespace InsertionDict

variable {κ ν : Type}

def keys (dict : InsertionDict κ ν) : List κ := dict.entries.map Prod.fst

def empty : InsertionDict κ ν := ⟨[], List.nodup_nil⟩

/-- The part of a dictionary whose keys pass a test. -/
def restrict (dict : InsertionDict κ ν) (test : κ → Bool) : InsertionDict κ ν where
  entries := dict.entries.filter fun entry => test entry.1
  distinct := dict.distinct.sublist (List.filter_sublist.map Prod.fst)

@[simp] theorem entries_restrict (dict : InsertionDict κ ν) (test : κ → Bool) :
    (dict.restrict test).entries = dict.entries.filter fun entry => test entry.1 := rfl

theorem ext_entries {left right : InsertionDict κ ν} (same : left.entries = right.entries) :
    left = right := by
  cases left
  cases right
  simpa using same

theorem mem_keys_restrict {dict : InsertionDict κ ν} {test : κ → Bool} {key : κ} :
    key ∈ (dict.restrict test).keys ↔ key ∈ dict.keys ∧ test key = true := by
  simp only [keys, restrict, List.mem_map, List.mem_filter]
  constructor
  · intro both
    obtain ⟨entry, ⟨member, passes⟩, rfl⟩ := both
    exact ⟨⟨entry, member, rfl⟩, passes⟩
  · intro both
    obtain ⟨⟨entry, member, rfl⟩, passes⟩ := both
    exact ⟨entry, ⟨member, passes⟩, rfl⟩

variable [DecidableEq κ]

def get? (dict : InsertionDict κ ν) (key : κ) : Option ν :=
  (dict.entries.find? fun entry => decide (entry.1 = key)).map Prod.snd

private theorem map_fst_overwrite (entries : List (κ × ν)) (key : κ) (value : ν) :
    (entries.map fun entry => if entry.1 = key then (key, value) else entry).map Prod.fst =
      entries.map Prod.fst := by
  rw [List.map_map]
  apply List.map_congr_left
  intro entry _
  by_cases same : entry.1 = key <;> simp [same]

def set (dict : InsertionDict κ ν) (key : κ) (value : ν) : InsertionDict κ ν :=
  if present : key ∈ dict.keys then
    { entries := dict.entries.map fun entry =>
        if entry.1 = key then (key, value) else entry
      distinct := by rw [map_fst_overwrite]; exact dict.distinct }
  else
    { entries := dict.entries ++ [(key, value)]
      distinct := by
        rw [List.map_append, List.nodup_append]
        refine ⟨dict.distinct, by simp, ?_⟩
        intro old oldMember new newMember same
        have newKey : new = key := by simpa using newMember
        exact present (newKey ▸ same ▸ oldMember) }

def erase (dict : InsertionDict κ ν) (key : κ) : InsertionDict κ ν where
  entries := dict.entries.filter fun entry => decide (entry.1 ≠ key)
  distinct := dict.distinct.sublist (List.filter_sublist.map Prod.fst)

def eraseAll (dict : InsertionDict κ ν) (keys : List κ) : InsertionDict κ ν :=
  keys.foldl erase dict

theorem get?_eq_some_iff {dict : InsertionDict κ ν} {key : κ} {value : ν} :
    dict.get? key = some value ↔ (key, value) ∈ dict.entries := by
  obtain ⟨entries, distinct⟩ := dict
  simp only [get?]
  induction entries with
  | nil => simp
  | cons head tail ih =>
      obtain ⟨first, stored⟩ := head
      simp only [List.map_cons, List.nodup_cons] at distinct
      by_cases same : first = key
      · subst same
        have absent : (first, value) ∉ tail := fun member =>
          distinct.1 (List.mem_map.mpr ⟨_, member, rfl⟩)
        simp [absent, eq_comm]
      · have differs : key ≠ first := fun equal => same equal.symm
        simpa [same, differs] using ih distinct.2

theorem mem_keys_iff {dict : InsertionDict κ ν} {key : κ} :
    key ∈ dict.keys ↔ ∃ value, dict.get? key = some value := by
  simp [keys, get?_eq_some_iff]

theorem get?_eq_none_iff {dict : InsertionDict κ ν} {key : κ} :
    dict.get? key = none ↔ key ∉ dict.keys := by
  rw [mem_keys_iff, not_exists, Option.eq_none_iff_forall_ne_some]

theorem map_fst_filter_entries (dict : InsertionDict κ ν) (test : κ × ν → Bool) :
    (dict.entries.filter test).map Prod.fst =
      dict.keys.filter fun key => (dict.get? key).any fun value => test (key, value) := by
  rw [keys, List.filter_map]
  congr 1
  apply List.filter_congr
  intro entry member
  simp [get?_eq_some_iff.mpr member]

@[simp] theorem get?_empty (key : κ) : (empty : InsertionDict κ ν).get? key = none := rfl

theorem keys_set (dict : InsertionDict κ ν) (key : κ) (value : ν) :
    (dict.set key value).keys = if key ∈ dict.keys then dict.keys else dict.keys ++ [key] := by
  unfold set
  split
  · exact map_fst_overwrite dict.entries key value
  · simp [keys]

theorem mem_entries_set {dict : InsertionDict κ ν} {key : κ} {value : ν} {entry : κ × ν} :
    entry ∈ (dict.set key value).entries ↔
      entry = (key, value) ∨ (entry.1 ≠ key ∧ entry ∈ dict.entries) := by
  unfold set
  by_cases present : key ∈ dict.keys
  · simp only [dif_pos present, List.mem_map]
    constructor
    · intro both
      obtain ⟨old, oldMember, rfl⟩ := both
      by_cases same : old.1 = key
      · simp [same]
      · simp [same, oldMember]
    · intro either
      obtain rfl | ⟨differs, member⟩ := either
      · obtain ⟨old, oldMember, oldKey⟩ := List.mem_map.mp present
        exact ⟨old, oldMember, by simp [oldKey]⟩
      · exact ⟨entry, member, by simp [differs]⟩
  · simp only [dif_neg present, List.mem_append, List.mem_singleton]
    constructor
    · intro either
      obtain member | rfl := either
      · refine .inr ⟨?_, member⟩
        intro same
        exact present (same ▸ List.mem_map.mpr ⟨entry, member, rfl⟩)
      · exact .inl rfl
    · intro either
      obtain rfl | ⟨_, member⟩ := either
      · exact .inr rfl
      · exact .inl member

theorem get?_set (dict : InsertionDict κ ν) (key other : κ) (value : ν) :
    (dict.set key value).get? other = if other = key then some value else dict.get? other := by
  apply Option.ext
  intro stored
  rw [get?_eq_some_iff, mem_entries_set]
  by_cases same : other = key
  · simp [same, eq_comm]
  · simp [same, get?_eq_some_iff]

theorem entries_eraseAll (dict : InsertionDict κ ν) (keys : List κ) :
    (dict.eraseAll keys).entries = dict.entries.filter fun entry => decide (entry.1 ∉ keys) := by
  induction keys generalizing dict with
  | nil => simp [eraseAll]
  | cons key keys ih =>
      have step : dict.eraseAll (key :: keys) = (dict.erase key).eraseAll keys := rfl
      rw [step, ih, erase, List.filter_filter]
      apply List.filter_congr
      intro entry _
      simp [Bool.and_comm]

theorem restrict_set_of_pass {test : κ → Bool} {key : κ} (passes : test key = true)
    (dict : InsertionDict κ ν) (value : ν) :
    (dict.set key value).restrict test = (dict.restrict test).set key value := by
  apply ext_entries
  unfold set
  by_cases present : key ∈ dict.keys
  · rw [dif_pos present, dif_pos (mem_keys_restrict.mpr ⟨present, passes⟩)]
    simp only [entries_restrict, List.filter_map]
    congr 1
    apply List.filter_congr
    intro entry _
    by_cases same : entry.1 = key <;> simp [same, passes]
  · rw [dif_neg present, dif_neg fun member => present (mem_keys_restrict.mp member).1]
    simp [passes]

theorem restrict_set_of_fail {test : κ → Bool} {key : κ} (fails : test key = false)
    (dict : InsertionDict κ ν) (value : ν) :
    (dict.set key value).restrict test = dict.restrict test := by
  apply ext_entries
  unfold set
  by_cases present : key ∈ dict.keys
  · rw [dif_pos present]
    simp only [entries_restrict, List.filter_map]
    have same : dict.entries.filter ((fun entry => test entry.1) ∘
        fun entry => if entry.1 = key then (key, value) else entry) =
        dict.entries.filter fun entry => test entry.1 := by
      apply List.filter_congr
      intro entry _
      by_cases same : entry.1 = key <;> simp [same]
    rw [same]
    conv_rhs => rw [← List.map_id (dict.entries.filter fun entry => test entry.1)]
    apply List.map_congr_left
    intro entry member
    have differs : entry.1 ≠ key := by
      intro same
      simp [same, fails] at member
    simp [differs]
  · simp [dif_neg present, fails]

theorem restrict_eraseAll (dict : InsertionDict κ ν) (test : κ → Bool) (keys : List κ) :
    (dict.eraseAll keys).restrict test = (dict.restrict test).eraseAll keys := by
  apply ext_entries
  rw [entries_restrict, entries_eraseAll, entries_eraseAll, entries_restrict]
  exact List.filter_comm ..

end InsertionDict

end MvdEdge.Lib
