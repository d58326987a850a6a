/-
# LibraGovernor.Lib.Saturating -- arithmetic that stops at the ends of its range

An operation on a bounded integer that would leave the range gives the end it would have left
by.  Each operation is monotone, and an operand of one sign moves the result one way, however
much of it is lost (`satSub_le`); what stays in the range is exact.

A sum of naturals that stops at a bound is the sum cut once (`foldl_satSum`).
-/
import Mathlib.Algebra.BigOperators.Group.List.Basic
import Mathlib.Algebra.GroupWithZero.Nat
import Mathlib.Algebra.Order.Group.Int
import Mathlib.Order.Basic

namespace Saturating

set_option autoImplicit false

/-- The ends of a range that holds zero. -/
structure Range where
  low : Int
  high : Int
  low_le : low ≤ 0
  le_high : 0 ≤ high

namespace Range

variable (R : Range)

/-- The value is in the range. -/
def Holds (x : Int) : Prop := R.low ≤ x ∧ x ≤ R.high

def clamp (x : Int) : Int := max R.low (min x R.high)

def satAdd (x y : Int) : Int := R.clamp (x + y)

def satSub (x y : Int) : Int := R.clamp (x - y)

def satMul (x y : Int) : Int := R.clamp (x * y)

theorem holds_clamp (x : Int) : R.Holds (R.clamp x) := by
  have low := R.low_le
  have high := R.le_high
  unfold Holds clamp
  omega

theorem clamp_of_holds {x : Int} (fits : R.Holds x) : R.clamp x = x := by
  unfold Holds at fits
  unfold clamp
  omega

theorem clamp_mono {x y : Int} (le : x ≤ y) : R.clamp x ≤ R.clamp y := by
  unfold clamp
  omega

theorem clamp_nonneg {x : Int} (nonneg : 0 ≤ x) : 0 ≤ R.clamp x := by
  have high := R.le_high
  unfold clamp
  omega

theorem clamp_le {x : Int} (nonneg : 0 ≤ x) : R.clamp x ≤ x := by
  have low := R.low_le
  unfold clamp
  omega

theorem clamp_nonpos_iff (pos : 0 < R.high) (x : Int) : R.clamp x ≤ 0 ↔ x ≤ 0 := by
  have low := R.low_le
  unfold clamp
  omega

theorem satSub_le {x y : Int} (fits : R.Holds x) (nonneg : 0 ≤ y) : R.satSub x y ≤ x := by
  unfold Holds at fits
  unfold satSub clamp
  omega

theorem satAdd_mono {x x' y y' : Int} (le : x ≤ x') (le' : y ≤ y') :
    R.satAdd x y ≤ R.satAdd x' y' := R.clamp_mono (by omega)

theorem satSub_mono {x x' y y' : Int} (le : x ≤ x') (le' : y' ≤ y) :
    R.satSub x y ≤ R.satSub x' y' := R.clamp_mono (by omega)

theorem satAdd_of_holds {x y : Int} (fits : R.Holds (x + y)) : R.satAdd x y = x + y :=
  R.clamp_of_holds fits

theorem satMul_of_holds {x y : Int} (fits : R.Holds (x * y)) : R.satMul x y = x * y :=
  R.clamp_of_holds fits

/-- A sum that is bounded afterwards by a value of the range may as well not be cut above. -/
theorem min_satAdd {x y top : Int} (low : R.low ≤ x + y) (bound : top ≤ R.high) :
    min (R.satAdd x y) top = min (x + y) top := by
  have high := R.le_high
  have low' := R.low_le
  unfold satAdd clamp
  omega

end Range

/-- A sum that stops at `cap`. -/
def satSum (cap : Nat) (xs : List Nat) : Nat := xs.foldl (fun total x => min (total + x) cap) 0

theorem foldl_satSum (cap : Nat) (xs : List Nat) (start : Nat) (le : start ≤ cap) :
    xs.foldl (fun total x => min (total + x) cap) start = min (start + xs.sum) cap := by
  induction xs generalizing start with
  | nil => simp [le]
  | cons x xs ih =>
      rw [List.foldl_cons, ih _ (Nat.min_le_right _ _), List.sum_cons]
      omega

theorem satSum_eq (cap : Nat) (xs : List Nat) : satSum cap xs = min xs.sum cap := by
  rw [satSum, foldl_satSum cap xs 0 (Nat.zero_le cap), Nat.zero_add]

end Saturating
