import Labbook.Number.Scalar
import Mathlib.Algebra.Order.Ring.Abs
import Mathlib.Data.Rat.Floor

namespace Labbook

theorem lesser_eq_min (a b : Rat) : Scalar.lesser a b = min a b := by
  change (if b < a then b else a) = min a b
  split
  · rename_i less
    exact (min_eq_right (le_of_lt less)).symm
  · rename_i notLess
    exact (min_eq_left (not_lt.mp notLess)).symm

theorem greater_eq_max (a b : Rat) : Scalar.greater a b = max a b := by
  change (if a < b then b else a) = max a b
  split
  · rename_i less
    exact (max_eq_right (le_of_lt less)).symm
  · rename_i notLess
    exact (max_eq_left (not_lt.mp notLess)).symm

theorem absolute_eq_abs (q : Rat) : Scalar.absolute q = |q| := by
  change (if q < 0 then -q else q) = |q|
  split
  · rename_i negative
    exact (abs_of_neg negative).symm
  · rename_i notNegative
    exact (abs_of_nonneg (not_lt.mp notNegative)).symm

theorem equals_eq_decide (a b : Rat) : Scalar.equals a b = decide (a = b) := by
  rw [Scalar.equals, ← Bool.decide_and]
  exact decide_eq_decide.mpr le_antisymm_iff.symm

theorem clamp_eq_max_min (a : Rat) {low high : Rat} (ordered : low ≤ high) :
    Scalar.clamp a low high = max low (min a high) := by
  change (if a < low then low else if high < a then high else a) = max low (min a high)
  split
  · rename_i below
    exact (max_eq_left (le_trans (min_le_left _ _) (le_of_lt below))).symm
  · rename_i notBelow
    split
    · rename_i above
      rw [min_eq_right (le_of_lt above), max_eq_right ordered]
    · rename_i notAbove
      rw [min_eq_left (not_lt.mp notAbove), max_eq_right (not_lt.mp notBelow)]

theorem floorNat_eq (a : Rat) : Scalar.floorNat a = ⌊a⌋₊ := rfl

theorem ceilNat_eq (a : Rat) : Scalar.ceilNat a = ⌈a⌉₊ := by
  change a.ceil.toNat = ⌈a⌉.toNat
  rw [Rat.ceil_eq_neg_floor_neg]
  rfl

end Labbook
