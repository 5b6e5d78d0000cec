import MvdEdge.Lib.InsertionDict
import Mathlib.Data.List.Induction
import Mathlib.Data.List.Sort

/-! Dictionaries brought into the order of their keys, and dictionaries made from
the entries in the order they are read. -/

set_option autoImplicit false

namespace MvdEdge.Lib.InsertionDict

variable {κ ν : Type}

theorem set_perm [DecidableEq κ] {left right : InsertionDict κ ν}
    (same : left.entries.Perm right.entries) (key : κ) (value : ν) :
    (left.set key value).entries.Perm (right.set key value).entries := by
  have keys : key ∈ left.keys ↔ key ∈ right.keys := (same.map Prod.fst).mem_iff
  unfold set
  by_cases present : key ∈ left.keys
  · rw [dif_pos present, dif_pos (keys.mp present)]
    exact same.map _
  · rw [dif_neg present, dif_neg fun member => present (keys.mpr member)]
    exact same.append_right _

section Sorting

variable [LinearOrder κ]

/-- The entries by key. -/
def sorted (dict : InsertionDict κ ν) : InsertionDict κ ν where
  entries := dict.entries.insertionSort fun left right => left.1 ≤ right.1
  distinct := (((List.perm_insertionSort _ _).map Prod.fst).nodup_iff).mpr dict.distinct

theorem sorted_perm (dict : InsertionDict κ ν) : dict.sorted.entries.Perm dict.entries :=
  List.perm_insertionSort _ _

theorem sorted_pairwise (dict : InsertionDict κ ν) :
    dict.sorted.entries.Pairwise fun left right => left.1 ≤ right.1 := by
  have total : Std.Total fun left right : κ × ν => left.1 ≤ right.1 := ⟨fun _ _ => le_total _ _⟩
  have trans : IsTrans (κ × ν) fun left right => left.1 ≤ right.1 := ⟨fun _ _ _ => le_trans⟩
  exact List.pairwise_insertionSort _ _

theorem mem_keys_sorted {dict : InsertionDict κ ν} {key : κ} :
    key ∈ dict.sorted.keys ↔ key ∈ dict.keys :=
  (dict.sorted_perm.map Prod.fst).mem_iff

/-- Equal dictionaries, whatever their order, are sorted alike. -/
theorem sorted_congr {left right : InsertionDict κ ν}
    (same : left.entries.Perm right.entries) : left.sorted = right.sorted := by
  have perm : left.sorted.entries.Perm right.sorted.entries :=
    (left.sorted_perm.trans same).trans right.sorted_perm.symm
  apply ext_entries
  refine perm.eq_of_pairwise ?_ left.sorted_pairwise right.sorted_pairwise
  intro first second firstMember secondMember le ge
  have secondLeft := perm.mem_iff.mpr secondMember
  exact List.inj_on_of_nodup_map left.sorted.distinct firstMember secondLeft (le_antisymm le ge)

theorem sorted_sorted (dict : InsertionDict κ ν) : dict.sorted.sorted = dict.sorted :=
  sorted_congr dict.sorted_perm

variable [DecidableEq κ]

theorem get?_sorted (dict : InsertionDict κ ν) (key : κ) :
    dict.sorted.get? key = dict.get? key := by
  apply Option.ext
  intro value
  rw [get?_eq_some_iff, get?_eq_some_iff, dict.sorted_perm.mem_iff]

theorem sorted_set_sorted (dict : InsertionDict κ ν) (key : κ) (value : ν) :
    (dict.sorted.set key value).sorted = (dict.set key value).sorted :=
  sorted_congr (set_perm dict.sorted_perm key value)

/-- Overwriting keeps a dictionary in order. -/
theorem sorted_set {dict : InsertionDict κ ν} {key : κ} (present : key ∈ dict.keys) (value : ν) :
    dict.sorted.set key value = (dict.set key value).sorted := by
  rw [← sorted_set_sorted]
  have inside := mem_keys_sorted.mpr present
  apply ext_entries
  have ordered : (dict.sorted.set key value).entries.Pairwise
      fun left right => left.1 ≤ right.1 := by
    unfold set
    rw [dif_pos inside, List.pairwise_map]
    refine dict.sorted_pairwise.imp ?_
    intro earlier later le
    split <;> split <;> simp_all
  exact ordered.insertionSort_eq.symm

end Sorting

section Reading

variable [DecidableEq κ]

/-- `dict(pairs)` -/
def ofPairs (pairs : List (κ × ν)) : InsertionDict κ ν :=
  pairs.foldl (fun dict pair => dict.set pair.1 pair.2) empty

theorem ofPairs_entries (dict : InsertionDict κ ν) : ofPairs dict.entries = dict := by
  obtain ⟨entries, distinct⟩ := dict
  induction entries using List.reverseRecOn with
  | nil => rfl
  | append_singleton entries last ih =>
      rw [List.map_append, List.nodup_append] at distinct
      obtain ⟨earlier, -, apart⟩ := distinct
      have absent : last.1 ∉ (⟨entries, earlier⟩ : InsertionDict κ ν).keys := fun member =>
        apart last.1 member last.1 (by simp) rfl
      have front : ofPairs entries = ⟨entries, earlier⟩ := ih earlier
      apply ext_entries
      rw [ofPairs, List.foldl_append, ← ofPairs, front, List.foldl_cons, List.foldl_nil, set,
        dif_neg absent]

end Reading

end MvdEdge.Lib.InsertionDict
