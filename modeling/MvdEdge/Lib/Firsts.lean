import Mathlib.Data.List.Nodup

/-! Logs of keyed entries: the first entry of each key in order of appearance,
and whether anything marked a key after its first entry. -/

set_option autoImplicit false

namespace MvdEdge.Lib

variable {α κ : Type} [DecidableEq κ]

def firsts (key : α → κ) : List α → List α
  | [] => []
  | entry :: rest => entry :: (firsts key rest).filter fun later => decide (key later ≠ key entry)

theorem mem_map_firsts {key : α → κ} {name : κ} {entries : List α} :
    name ∈ (firsts key entries).map key ↔ name ∈ entries.map key := by
  induction entries with
  | nil => rfl
  | cons head rest ih =>
      by_cases same : name = key head
      · simp [firsts, same]
      · have kept : name ∈ ((firsts key rest).filter fun later =>
            decide (key later ≠ key head)).map key ↔ name ∈ (firsts key rest).map key := by
          simp only [List.mem_map, List.mem_filter, decide_eq_true_eq]
          constructor
          · intro found
            obtain ⟨later, both, named⟩ := found
            exact ⟨later, both.1, named⟩
          · intro found
            obtain ⟨later, member, named⟩ := found
            exact ⟨later, ⟨member, named ▸ same⟩, named⟩
        rw [firsts, List.map_cons, List.map_cons, List.mem_cons, List.mem_cons, kept, ih]

theorem nodup_map_firsts (key : α → κ) (entries : List α) :
    ((firsts key entries).map key).Nodup := by
  induction entries with
  | nil => exact .nil
  | cons head rest ih =>
      rw [firsts, List.map_cons, List.nodup_cons]
      constructor
      · simp
      · exact (List.filter_sublist.map key).nodup ih

theorem firsts_concat_of_not_mem {key : α → κ} {entries : List α} {last : α}
    (new : key last ∉ entries.map key) :
    firsts key (entries ++ [last]) = firsts key entries ++ [last] := by
  induction entries with
  | nil => rfl
  | cons head rest ih =>
      have apart : key last ≠ key head ∧ key last ∉ rest.map key := by simpa using new
      rw [List.cons_append, firsts, ih apart.2, firsts, List.filter_append]
      simp [apart.1]

theorem firsts_concat_of_mem {key : α → κ} {entries : List α} {last : α}
    (old : key last ∈ entries.map key) : firsts key (entries ++ [last]) = firsts key entries := by
  induction entries with
  | nil => simp at old
  | cons head rest ih =>
      rw [List.cons_append, firsts, firsts]
      by_cases later : key last ∈ rest.map key
      · rw [ih later]
      · have same : key last = key head := by simpa [later] using old
        rw [firsts_concat_of_not_mem later, List.filter_append]
        simp [same]

/-- Some entry from the first start on is marked. -/
def markedSince (starts marks : α → Bool) (entries : List α) : Bool :=
  (entries.dropWhile fun entry => !starts entry).any marks

theorem markedSince_concat (starts marks : α → Bool) (entries : List α) (last : α) :
    markedSince starts marks (entries ++ [last]) =
      (markedSince starts marks entries ||
        ((entries.any starts || starts last) && marks last)) := by
  induction entries with
  | nil => cases started : starts last <;> simp [markedSince, started]
  | cons head rest ih =>
      cases started : starts head with
      | true => simp [markedSince, started, Bool.or_assoc]
      | false => simpa [markedSince, started] using ih

theorem markedSince_started {starts marks : α → Bool} {entries : List α}
    (marked : markedSince starts marks entries = true) : entries.any starts = true := by
  induction entries with
  | nil => simp [markedSince] at marked
  | cons head rest ih =>
      cases started : starts head with
      | true => simp [started]
      | false =>
          have later : markedSince starts marks rest = true := by
            simpa [markedSince, started] using marked
          simp [started, ih later]

end MvdEdge.Lib
