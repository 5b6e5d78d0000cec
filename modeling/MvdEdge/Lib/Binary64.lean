import Mathlib.Data.Int.Log
import Mathlib.Data.Rat.Floor
import Mathlib.Tactic.Linarith
import Mathlib.Tactic.Positivity
import Mathlib.Tactic.Ring

/-! Rounding to binary64: to the nearest number of 53 significant bits, ties to even,
with gradual underflow. There is no overflow here: the exponent has no upper bound. -/

set_option autoImplicit false

namespace MvdEdge.Lib.Binary64

/-- The nearest integer, and of two the even one. -/
def nearest (number : ℚ) : ℤ :=
  if Int.fract number < 1 / 2 then ⌊number⌋
  else if 1 / 2 < Int.fract number then ⌊number⌋ + 1
  else if Even ⌊number⌋ then ⌊number⌋
  else ⌊number⌋ + 1

theorem abs_nearest_sub_le (number : ℚ) : |(nearest number : ℚ) - number| ≤ 1 / 2 := by
  have split := Int.floor_add_fract number
  have start := Int.fract_nonneg number
  have stop := Int.fract_lt_one number
  unfold nearest
  rw [abs_le]
  split_ifs with low high even
  · constructor <;> linarith
  · push_cast
    constructor <;> linarith
  · constructor <;> linarith
  · push_cast
    constructor <;> linarith

/-- The distance of the numbers next to `number`. Below the normal numbers it stays
what it is at the smallest of them. -/
def quantum (number : ℚ) : ℚ := 2 ^ max (Int.log 2 |number| - 52) (-1074)

theorem quantum_pos (number : ℚ) : 0 < quantum number := zpow_pos two_pos _

def round (number : ℚ) : ℚ := nearest (number / quantum number) * quantum number

theorem abs_round_sub_le_quantum (number : ℚ) :
    |round number - number| ≤ quantum number / 2 := by
  have positive := quantum_pos number
  have scaled : round number - number =
      (nearest (number / quantum number) - number / quantum number) * quantum number := by
    rw [round, sub_mul, div_mul_cancel₀ number positive.ne']
  rw [scaled, abs_mul, abs_of_pos positive]
  have close := abs_nearest_sub_le (number / quantum number)
  calc |(nearest (number / quantum number) : ℚ) - number / quantum number| * quantum number
      ≤ 1 / 2 * quantum number := mul_le_mul_of_nonneg_right close positive.le
    _ = quantum number / 2 := by ring

@[simp] theorem round_zero : round 0 = 0 := by
  simp [round, nearest]

theorem quantum_le {number : ℚ} {exponent : ℕ} (nonzero : number ≠ 0)
    (small : |number| < 2 ^ exponent) : quantum number ≤ 2 ^ exponent / 2 ^ 53 := by
  have below : Int.log 2 |number| < exponent := by
    rw [← Int.lt_zpow_iff_log_lt (by norm_num) (abs_pos.mpr nonzero)]
    simpa using small
  have exponents : max (Int.log 2 |number| - 52) (-1074) ≤ (exponent : ℤ) - 53 := by omega
  calc quantum number ≤ 2 ^ ((exponent : ℤ) - 53) := zpow_le_zpow_right₀ one_le_two exponents
    _ = 2 ^ exponent / 2 ^ 53 := by
      rw [zpow_sub₀ two_ne_zero, zpow_natCast]
      rfl

/-- Rounding moves a number below a power of two by at most so much. -/
theorem abs_round_sub_le {number : ℚ} {exponent : ℕ} (small : |number| < 2 ^ exponent) :
    |round number - number| ≤ 2 ^ exponent / 2 ^ 54 := by
  by_cases zero : number = 0
  · rw [zero, round_zero, sub_zero, abs_zero]
    positivity
  · have close := abs_round_sub_le_quantum number
    have fine := quantum_le zero small
    calc |round number - number| ≤ quantum number / 2 := close
      _ ≤ 2 ^ exponent / 2 ^ 53 / 2 := by linarith
      _ = 2 ^ exponent / 2 ^ 54 := by ring

end MvdEdge.Lib.Binary64
