import Mathlib.Algebra.Order.Ring.Rat
import MvdEdge.Lib.Binary64

/-! Values the agent's components share. Texts are lists of characters, clock
readings are finite numbers, and the floats of the configuration keep their
infinities and NaN. Sums and differences that the main loop makes of them are rounded;
none is too large for a float as long as the clock reads a date. -/

set_option autoImplicit false

namespace MvdEdge

open Lib

abbrev Str := List Char

instance : LawfulBEq Str := inferInstance

abbrev Bytes := List UInt8

abbrev Time := ℚ

/-- An instant rendered by `isoformat(timespec="milliseconds")`, in milliseconds.
The UTC rendering has a fixed width, so its text order is this order. -/
abbrev Timestamp := Nat

/-- What ends a computation early. `killed` is the end of the process on the spot:
no handler runs after it. -/
inductive Exn where
  | exception (message : Str)
  | keyboardInterrupt
  | killed
  deriving DecidableEq

namespace Exn

/-- `except Exception as exc`, as `str(exc)`. -/
def caught : Exn → Option Str
  | .exception message => some message
  | _ => none

/-- `finally` clauses run. -/
def unwinds (failure : Exn) : Bool := failure != .killed

/-- Failures of an operation that raises no `Exception` of its own. -/
def interrupts (failure : Exn) : Bool := failure.caught.isNone

end Exn

def nul : Char := Char.ofNat 0

/-- `now - earlier`, of two readings of the clock. -/
def timeSince (now earlier : Time) : Time := Binary64.round (now - earlier)

inductive PyFloat where
  | finite (value : ℚ)
  | inf
  | negInf
  | nan
  deriving DecidableEq

namespace PyFloat

/-- `elapsed >= threshold`, compared as in IEEE 754. -/
def reachedBy (threshold : PyFloat) (elapsed : Time) : Bool :=
  match threshold with
  | .finite value => decide (value ≤ elapsed)
  | .inf => false
  | .negInf => true
  | .nan => false

/-- `now + interval`. -/
def after (interval : PyFloat) (now : Time) : PyFloat :=
  match interval with
  | .finite value => .finite (Binary64.round (now + value))
  | other => other

/-- `interval - elapsed`. -/
def less (interval : PyFloat) (elapsed : Time) : PyFloat :=
  match interval with
  | .finite value => .finite (Binary64.round (value - elapsed))
  | other => other

def isPositive (number : PyFloat) : Bool :=
  match number with
  | .finite value => decide (0 < value)
  | .inf => true
  | .negInf => false
  | .nan => false

/-- `number <= bound`, compared as in IEEE 754. -/
def atMost (number : PyFloat) (bound : ℚ) : Bool :=
  match number with
  | .finite value => decide (value ≤ bound)
  | .inf => false
  | .negInf => true
  | .nan => false

/-- `number < bound`. -/
def below (number : PyFloat) (bound : ℚ) : Bool :=
  match number with
  | .finite value => decide (value < bound)
  | .inf => false
  | .negInf => true
  | .nan => false

theorem not_reachedBy_zero {threshold : PyFloat} (positive : threshold.isPositive = true) :
    threshold.reachedBy 0 = false := by
  cases threshold with
  | finite value => simpa [isPositive, reachedBy] using positive
  | inf => rfl
  | negInf => simp [isPositive] at positive
  | nan => rfl

theorem reachedBy_mono {threshold : PyFloat} {shorter longer : Time} (le : shorter ≤ longer)
    (reached : threshold.reachedBy shorter = true) : threshold.reachedBy longer = true := by
  cases threshold with
  | finite value =>
      simp only [reachedBy, decide_eq_true_eq] at reached ⊢
      exact le_trans reached le
  | inf => simp [reachedBy] at reached
  | negInf => rfl
  | nan => simp [reachedBy] at reached

end PyFloat

end MvdEdge
