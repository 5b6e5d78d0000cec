import Mathlib.Algebra.Order.Field.Basic
import Mathlib.Data.List.Infix
import Mathlib.Data.List.Pairwise
import Mathlib.Data.Nat.Cast.Order.Field
import Mathlib.Tactic.Linarith
import Mathlib.Tactic.Ring

/-! Journals of labelled steps, newest first, and readings that keep a distance. -/

set_option autoImplicit false

namespace MvdEdge.Lib

section Steps

variable {σ κ : Type} {start state : σ} {step : σ → κ → σ → Prop} {journal past : List κ}

/-- From `start`, steps labelled as in the journal lead to a state. -/
inductive Ran (start : σ) (step : σ → κ → σ → Prop) : List κ → σ → Prop where
  | nil : Ran start step [] start
  | cons {past : List κ} {before : σ} {letter : κ} {next : σ} (earlier : Ran start step past before)
      (last : step before letter next) : Ran start step (letter :: past) next

/-- What holds of each moment of a journal and those before it, after one more. -/
theorem forall_suffix_cons {newest : κ} {holds : κ → List κ → Prop} (now : holds newest past)
    (before : ∀ letter earlier, letter :: earlier <:+ past → holds letter earlier) :
    ∀ letter earlier, letter :: earlier <:+ newest :: past → holds letter earlier := by
  intro letter earlier suffix
  cases List.suffix_cons_iff.mp suffix with
  | inl whole =>
      obtain ⟨rfl, rfl⟩ := List.cons.inj whole
      exact now
  | inr older => exact before letter earlier older

/-- The steps of a journal led through a state at each of its moments. -/
theorem Ran.suffix (ran : Ran start step journal state) (suffix : past <:+ journal) :
    ∃ before, Ran start step past before := by
  induction ran with
  | nil =>
      obtain rfl := List.suffix_nil.mp suffix
      exact ⟨start, .nil⟩
  | cons earlier last ih =>
      cases List.suffix_cons_iff.mp suffix with
      | inl whole => exact ⟨_, whole ▸ earlier.cons last⟩
      | inr part => exact ih part

/-- Where each recent step leads higher, or as high with a step that may be repeated, the
recent steps are in the order of their ranks. -/
theorem Ran.climbs {recent : List κ} {height : σ → Nat} {rank : κ → Nat} {again : κ → Prop}
    (ran : Ran start step (recent ++ past) state)
    (climb : ∀ {before letter next}, letter ∈ recent → step before letter next →
      height next = rank letter ∧
        (height before < rank letter ∨ (again letter ∧ height before ≤ rank letter))) :
    recent.Pairwise (fun newer older =>
      rank older < rank newer ∨ (again newer ∧ rank older ≤ rank newer)) ∧
      ∀ letter ∈ recent, rank letter ≤ height state := by
  induction recent generalizing state with
  | nil => exact ⟨.nil, by simp⟩
  | cons letter recent ih =>
      cases ran with
      | cons earlier last =>
          obtain ⟨ordered, below⟩ := ih earlier fun member => climb (List.mem_cons_of_mem _ member)
          obtain ⟨reached, climbed⟩ := climb List.mem_cons_self last
          refine ⟨List.pairwise_cons.mpr ⟨fun older member => ?_, ordered⟩, fun other member => ?_⟩
          · exact climbed.imp (below older member).trans_lt
              (.imp_right (below older member).trans)
          · rw [reached]
            cases List.mem_cons.mp member with
            | inl same => exact same ▸ le_rfl
            | inr older =>
                have most := below other older
                rcases climbed with higher | level <;> omega

end Steps

section Pacing

variable {K : Type} [Field K] [LinearOrder K] [IsStrictOrderedRing K]

/-- Each reading is at least `gap` after every earlier one. -/
def Paced (gap : K) (readings : List K) : Prop :=
  readings.Pairwise fun later earlier => earlier + gap ≤ later

namespace Paced

variable {gap : K} {readings : List K}

theorem span {newest : K} (paced : Paced gap (newest :: readings)) {bound : K}
    (above : ∀ reading ∈ newest :: readings, bound ≤ reading) :
    bound + readings.length * gap ≤ newest := by
  induction readings generalizing newest with
  | nil => simpa using above newest List.mem_cons_self
  | cons earlier rest ih =>
      have apart : earlier + gap ≤ newest :=
        (List.pairwise_cons.mp paced).1 earlier List.mem_cons_self
      have spanned : bound + rest.length * gap ≤ earlier :=
        ih (List.pairwise_cons.mp paced).2 fun reading member =>
          above reading (List.mem_cons_of_mem _ member)
      have counted : ((earlier :: rest).length : K) * gap = rest.length * gap + gap := by
        push_cast [List.length_cons]
        ring
      rw [counted]
      linarith

/-- In a window there are at most as many paced readings as gaps fit in it, and one more. -/
theorem count_window (paced : Paced gap readings) (positive : 0 < gap) (opens width : K)
    (nonneg : 0 ≤ width) :
    ((readings.filter fun reading => opens ≤ reading ∧ reading ≤ opens + width).length : K) ≤
      width / gap + 1 := by
  have inside : Paced gap (readings.filter fun reading =>
      opens ≤ reading ∧ reading ≤ opens + width) := List.Pairwise.sublist List.filter_sublist paced
  have within : ∀ reading ∈ readings.filter fun reading =>
      opens ≤ reading ∧ reading ≤ opens + width, opens ≤ reading ∧ reading ≤ opens + width :=
    fun reading member => by simpa using (List.mem_filter.mp member).2
  cases found : readings.filter fun reading => opens ≤ reading ∧ reading ≤ opens + width with
  | nil =>
      have := div_nonneg nonneg positive.le
      simp only [List.length_nil, Nat.cast_zero]
      linarith
  | cons newest rest =>
      rw [found] at inside within
      have spanned := inside.span fun reading member => (within reading member).1
      have closes := (within newest List.mem_cons_self).2
      have fits : (rest.length : K) ≤ width / gap := by
        rw [le_div_iff₀ positive]
        linarith
      push_cast [List.length_cons]
      linarith

end Paced

end Pacing

end MvdEdge.Lib
