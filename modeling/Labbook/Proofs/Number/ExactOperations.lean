import Labbook.Number.Scalar
import Labbook.Proofs.Number.MachineArithmetic
import Labbook.Proofs.Number.WholeWord

namespace Labbook

namespace Binary64
open Float.Model Float.Model.UnpackedFloat
variable {a b x y : Binary64} {q : Rat}

theorem isFinite_iff_magnitude (x : Binary64) : x.isFinite = true ↔ x.magnitude.toNat < top := by
  rw [isFinite_iff, field, top]
  omega

theorem value_of_magnitude (zero : x.magnitude.toNat = 0) : x.value = 0 := by
  rw [value_eq, zero, steps_zero]
  simp

namespace Rounds

theorem magnitude_eq (one : Rounds q x) (other : Rounds q y) :
    x.magnitude.toNat = y.magnitude.toNat := one.near.unique other.near

-- Only the zeros are nearest to the same number.
theorem eq_of_ne (one : Rounds q x) (other : Rounds q y) (solid : q ≠ 0) : x = y := by
  have signs : x.sign = y.sign := by
    rcases lt_or_gt_of_ne solid with below | above
    · rw [(sign_negative x).mpr (one.negative below), (sign_negative y).mpr (other.negative below)]
    · rw [(sign_positive x).mpr (one.positive above), (sign_positive y).mpr (other.positive above)]
  rw [← signed_magnitude x, ← signed_magnitude y, signs, one.magnitude_eq other]

theorem zero_magnitude (rounds : Rounds 0 x) : x.magnitude.toNat = 0 := by
  have zero := rounds_self (x := ⟨0⟩) (by decide)
  rw [value_of_magnitude (x := ⟨0⟩) (by decide)] at zero
  exact rounds.magnitude_eq zero

theorem exact (rounds : Rounds a.value x) (finite : a.isFinite = true) :
    x.isFinite = true ∧ x.value = a.value := by
  have own := rounds_self finite
  refine ⟨?_, ?_⟩
  · rw [isFinite_iff_magnitude, rounds.magnitude_eq own]
    exact (isFinite_iff_magnitude a).mp finite
  · by_cases zero : a.value = 0
    · rw [zero] at rounds ⊢
      exact value_of_magnitude rounds.zero_magnitude
    · rw [rounds.eq_of_ne own zero]

end Rounds

section
variable {n : Nat} (few : n < 2 ^ 53)
include few

theorem one_mul_ofNat : 1 * ofNat n = ofNat n := by
  have one : (ofNat 1).value = 1 := by
    rw [value_ofNat (by decide), Nat.cast_one]
  have rounds := mul_rounds (isFinite_ofNat (n := 1) (by decide)) (isFinite_ofNat few)
  rw [one, one_mul] at rounds
  by_cases zero : n = 0
  · subst zero
    decide
  · refine rounds.eq_of_ne (rounds_self (isFinite_ofNat few)) ?_
    rw [value_ofNat few]
    exact_mod_cast zero

theorem zero_mul_ofNat : 0 * ofNat n = 0 := by
  have unsigned : (ofNat n).sign = .positive := (sign_positive _).mpr (isNegative_ofNat few)
  have zero : parts 0 = .zero .positive := rfl
  rw [mul_eq, zero]
  rcases parts_finite (isFinite_ofNat few) with ⟨-, parts⟩ | ⟨positive, parts⟩ <;>
  · rw [parts, unsigned]
    exact packed_zero .positive

theorem floorNat_ofNat : Scalar.floorNat (ofNat n) = n := by
  have whole := (whole_of_value (isNegative_ofNat few) (value_ofNat few)).1
  change (ofNat n).floor.toNat = n
  rw [floor, toWhole, whole, Bool.and_false, if_neg Bool.false_ne_true, toNat_ofNat few]

theorem ceilNat_ofNat : Scalar.ceilNat (ofNat n) = n := by
  have whole := (whole_of_value (isNegative_ofNat few) (value_ofNat few)).1
  change (ofNat n).ceil.toNat = n
  rw [ceil, toWhole, whole, Bool.and_false, if_neg Bool.false_ne_true, toNat_ofNat few]

end

theorem add_infinity_nan (kind : x.isInfinite = true) : x + nan = nan := by
  rw [add_eq, parts_infinity kind, parts_notANumber (x := nan) (by decide)]
  exact packed_notANumber

theorem nan_mul (x : Binary64) : nan * x = nan := by
  rw [mul_eq, parts_notANumber (x := nan) (by decide)]
  exact packed_notANumber

theorem sub_self_infinite (kind : x.isInfinite = true) : x - x = nan := by
  have turned : (x.sign == -x.sign) = false := by cases x.sign <;> rfl
  rw [sub_eq, parts_infinity kind]
  change packed (if x.sign == -x.sign then .infinity x.sign else .notANumber) = nan
  rw [turned]
  exact packed_notANumber

theorem sub_self_finite (finite : x.isFinite = true) : Rounds 0 (x - x) := by
  have rounds := sub_rounds finite finite
  rwa [sub_self] at rounds

theorem Rounds.zero_exact (rounds : Rounds 0 x) : x.isFinite = true ∧ x.value = 0 := by
  refine ⟨?_, value_of_magnitude rounds.zero_magnitude⟩
  rw [isFinite_iff_magnitude, rounds.zero_magnitude]
  decide

-- Nothing is added on the way from a finite number to itself.
theorem between_same (finite : x.isFinite = true) (finiteW : y.isFinite = true) :
    (x + (x - x) * y).isFinite = true ∧ (x + (x - x) * y).value = x.value := by
  obtain ⟨finiteGap, gap⟩ := (sub_self_finite finite).zero_exact
  have part := mul_rounds finiteGap finiteW
  rw [gap, zero_mul] at part
  obtain ⟨finitePart, value⟩ := part.zero_exact
  have sum := add_rounds finite finitePart
  rw [value, add_zero] at sum
  exact sum.exact finite

-- From an infinity to itself there is no way.
theorem between_infinite (kind : x.isInfinite = true) : x + (x - x) * y = nan := by
  rw [sub_self_infinite kind, nan_mul, add_infinity_nan kind]

end Binary64

end Labbook
