import Mathlib.Algebra.Group.Nat.Defs
import Mathlib.Data.Nat.Find
import Mathlib.Data.List.Basic
import Mathlib.Order.Lattice

/-! Numbers written in texts of one length, and when the order of such texts is the
order of the numbers. A number taken apart into a leading and a trailing part is
written by writing the parts one after the other. -/

set_option autoImplicit false

namespace MvdEdge.Lib

theorem append_lt_append_iff {left right first last : List Char}
    (same : left.length = right.length) :
    left ++ first < right ++ last ↔ left < right ∨ left = right ∧ first < last := by
  induction left generalizing right with
  | nil =>
      obtain rfl := List.length_eq_zero_iff.mp same.symm
      simp
  | cons char left ih =>
      cases right with
      | nil => simp at same
      | cons other right =>
          rw [List.length_cons, List.length_cons, Nat.add_right_cancel_iff] at same
          rw [List.cons_append, List.cons_append, List.cons_lt_cons_iff, List.cons_lt_cons_iff,
            ih same, List.cons.injEq]
          grind

/-- `write` gives each number below `bound` a text of its own of length `width`, in the
order of the numbers. -/
structure FixedWidth (bound width : Nat) (write : Nat → List Char) : Prop where
  length : ∀ number < bound, (write number).length = width
  less : ∀ first < bound, ∀ second < bound, write first < write second ↔ first < second

namespace FixedWidth

variable {bound width : Nat} {write : Nat → List Char}

theorem injective (fixed : FixedWidth bound width write) {first second : Nat}
    (firstFits : first < bound) (secondFits : second < bound)
    (same : write first = write second) : first = second := by
  rcases Nat.lt_trichotomy first second with less | equal | more
  · have before := (fixed.less first firstFits second secondFits).mpr less
    exact absurd (same ▸ before) (List.lt_irrefl _)
  · exact equal
  · have before := (fixed.less second secondFits first firstFits).mpr more
    exact absurd (same ▸ before) (List.lt_irrefl _)

theorem prefixed (fixed : FixedWidth bound width write) (text : List Char) :
    FixedWidth bound (text.length + width) fun number => text ++ write number where
  length := by
    intro number fits
    rw [List.length_append, fixed.length number fits]
  less := by
    intro first firstFits second secondFits
    rw [append_lt_append_iff rfl, fixed.less first firstFits second secondFits]
    simp

theorem suffixed (fixed : FixedWidth bound width write) (text : List Char) :
    FixedWidth bound (width + text.length) fun number => write number ++ text where
  length := by
    intro number fits
    rw [List.length_append, fixed.length number fits]
  less := by
    intro first firstFits second secondFits
    have same : (write first).length = (write second).length := by
      rw [fixed.length first firstFits, fixed.length second secondFits]
    rw [append_lt_append_iff same, fixed.less first firstFits second secondFits]
    simp

/-- Counting from a later origin. -/
theorem shift {origin : Nat} (fixed : FixedWidth (bound + origin) width write) :
    FixedWidth bound width fun number => write (number + origin) where
  length := fun number fits => fixed.length (number + origin) (by omega)
  less := by
    intro first firstFits second secondFits
    rw [fixed.less (first + origin) (by omega) (second + origin) (by omega)]
    omega

theorem mono (fixed : FixedWidth bound width write) {lower : Nat} (le : lower ≤ bound) :
    FixedWidth lower width write where
  length := fun number fits => fixed.length number (fits.trans_le le)
  less := fun first firstFits second secondFits =>
    fixed.less first (firstFits.trans_le le) second (secondFits.trans_le le)

/-- A number is ordered first by its leading and then by its trailing part. -/
def Leads (leading trailing : Nat → Nat) : Prop :=
  ∀ first second, first < second ↔
    leading first < leading second ∨
      leading first = leading second ∧ trailing first < trailing second

/-- How the trailing part is written may depend on the leading one. -/
theorem join {outer rest : Nat} {inner : Nat → Nat} {below : Nat → Nat → List Char}
    {leading trailing : Nat → Nat} (high : FixedWidth outer width write)
    (low : ∀ index < outer, FixedWidth (inner index) rest (below index))
    (leads : Leads leading trailing)
    (within : ∀ number < bound,
      leading number < outer ∧ trailing number < inner (leading number)) :
    FixedWidth bound (width + rest) fun number =>
      write (leading number) ++ below (leading number) (trailing number) where
  length := by
    intro number fits
    obtain ⟨outside, inside⟩ := within number fits
    rw [List.length_append, high.length _ outside, (low _ outside).length _ inside]
  less := by
    intro first firstFits second secondFits
    obtain ⟨firstOutside, firstInside⟩ := within first firstFits
    obtain ⟨secondOutside, secondInside⟩ := within second secondFits
    have same : (write (leading first)).length = (write (leading second)).length := by
      rw [high.length _ firstOutside, high.length _ secondOutside]
    rw [append_lt_append_iff same, high.less _ firstOutside _ secondOutside, leads first second]
    refine or_congr Iff.rfl ?_
    constructor
    · intro both
      obtain ⟨sameText, less⟩ := both
      have sameIndex := high.injective firstOutside secondOutside sameText
      rw [sameIndex] at firstInside less
      exact ⟨sameIndex, ((low _ secondOutside).less _ firstInside _ secondInside).mp less⟩
    · intro both
      obtain ⟨sameIndex, less⟩ := both
      rw [sameIndex] at firstInside ⊢
      exact ⟨rfl, ((low _ secondOutside).less _ firstInside _ secondInside).mpr less⟩

end FixedWidth

/-! ## Taking numbers apart -/

open FixedWidth

theorem leads_div_mod (unit : Nat) : Leads (· / unit) (· % unit) := by
  intro first second
  have firstWhole := Nat.div_add_mod first unit
  have secondWhole := Nat.div_add_mod second unit
  change first < second ↔ first / unit < second / unit ∨
    first / unit = second / unit ∧ first % unit < second % unit
  constructor
  · intro less
    rcases Nat.lt_or_eq_of_le (Nat.div_le_div_right (c := unit) less.le) with fewer | same
    · exact .inl fewer
    · rw [same] at firstWhole
      exact .inr ⟨same, by omega⟩
  · intro either
    rcases either with fewer | ⟨same, less⟩
    · exact Nat.lt_of_div_lt_div fewer
    · rw [same] at firstWhole
      omega

section Periods

-- Periods in a row, of any lengths: `start` is where each begins and `last` the last
-- one that can begin by a given point.
variable (start last : Nat → Nat)

def period (point : Nat) : Nat := Nat.findGreatest (fun index => start index ≤ point) (last point)

def sinceStart (point : Nat) : Nat := point - start (period start last point)

variable {start last}

theorem period_le (point : Nat) : period start last point ≤ last point := Nat.findGreatest_le _

theorem start_period_le (zero : start 0 = 0) (point : Nat) :
    start (period start last point) ≤ point :=
  @Nat.findGreatest_spec 0 (fun index => start index ≤ point) _ _ (Nat.zero_le _)
    (zero.trans_le (Nat.zero_le _))

theorem lt_start_succ_period {point : Nat} (ended : point < start (last point + 1)) :
    point < start (period start last point + 1) := by
  rcases Nat.lt_or_eq_of_le (period_le point) with earlier | same
  · have next := @Nat.findGreatest_is_greatest _ (start · ≤ point) _ _
      (Nat.lt_succ_self _) earlier
    exact Nat.lt_of_not_le next
  · rw [same]
    exact ended

theorem leads_period (zero : start 0 = 0) (monotone : Monotone last) :
    Leads (period start last) (sinceStart start last) := by
  have ordered : Monotone (period start last) := fun first second le =>
    Nat.findGreatest_mono (fun _ begun => begun.trans le) (monotone le)
  intro first second
  have firstBegun : start (period start last first) ≤ first := start_period_le zero first
  have secondBegun : start (period start last second) ≤ second := start_period_le zero second
  unfold sinceStart
  constructor
  · intro less
    rcases Nat.lt_or_eq_of_le (ordered less.le) with fewer | same
    · exact .inl fewer
    · refine .inr ⟨same, ?_⟩
      rw [same] at firstBegun ⊢
      omega
  · intro either
    rcases either with fewer | ⟨same, less⟩
    · by_contra more
      exact absurd (ordered (Nat.le_of_not_lt more)) (by omega)
    · rw [same] at firstBegun less
      omega

end Periods

/-! ## Decimal numerals -/

def digitChar (digit : Nat) : Char := Char.ofNat ('0'.toNat + digit)

/-- The last `width` decimal digits, with leading zeros. -/
def padded : Nat → Nat → List Char
  | 0, _ => []
  | width + 1, number => padded width (number / 10) ++ [digitChar (number % 10)]

theorem FixedWidth.digit : FixedWidth 10 1 fun digit => [digitChar digit] where
  length := fun _ _ => rfl
  less := by decide

theorem FixedWidth.padded (width : Nat) : FixedWidth (10 ^ width) width (padded width) := by
  induction width with
  | zero =>
      constructor
      · simp [Lib.padded]
      · intro first firstFits second secondFits
        simp at firstFits secondFits
        simp [firstFits, secondFits]
  | succ width ih =>
      refine ih.join (fun _ _ => digit) (leads_div_mod 10) ?_
      intro number fits
      rw [Nat.pow_succ] at fits
      exact ⟨Nat.div_lt_of_lt_mul (by omega), Nat.mod_lt _ (by decide)⟩

end MvdEdge.Lib
