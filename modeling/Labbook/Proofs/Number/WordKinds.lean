import Labbook.Proofs.Number.ExactOperations

namespace Labbook

namespace Binary64
variable {a b x : Binary64} {q : Rat}

theorem lt_iff_value (measuredA : a.isNaN = false) (measuredB : b.isNaN = false) :
    a < b ↔ a.value < b.value := by
  refine ⟨value_lt, fun less => ?_⟩
  by_contra notLess
  exact absurd (value_le measuredA measuredB notLess) (not_le.mpr less)

def limit : Rat := steps top * smallest

theorem limit_pos : 0 < limit :=
  mul_pos (by exact_mod_cast steps_strictMono (show 0 < top by decide)) smallest_pos

theorem abs_value (x : Binary64) : |x.value| = steps x.magnitude.toNat * smallest := by
  rw [value_eq, abs_mul, abs_of_pos smallest_pos]
  split <;> simp

theorem abs_value_lt (finite : x.isFinite = true) : |x.value| < limit := by
  rw [abs_value]
  exact mul_lt_mul_of_pos_right (steps_lt ((isFinite_iff_magnitude x).mp finite)) smallest_pos

theorem value_infinity : infinity.value = limit := by
  rw [value_eq, limit]
  rfl

theorem value_neg_infinity : (-infinity).value = -limit := by
  rw [value_eq, limit, ← neg_mul]
  rfl

theorem isInfinite_iff_magnitude (x : Binary64) : x.isInfinite = true ↔ x.magnitude.toNat = top := by
  have bound := x.magnitude_lt
  rw [isInfinite_iff, field, fraction, top]
  omega

theorem infinite_cases (kind : x.isInfinite = true) : x = infinity ∨ x = -infinity := by
  have word := signed_magnitude x
  rw [x.isInfinite_iff_magnitude.mp kind] at word
  rw [← word]
  cases x.sign with
  | positive => exact .inl (by decide)
  | negative => exact .inr (by decide)

theorem abs_value_infinite (kind : x.isInfinite = true) : |x.value| = limit := by
  rcases infinite_cases kind with rfl | rfl
  · rw [value_infinity, abs_of_pos limit_pos]
  · rw [value_neg_infinity, abs_neg, abs_of_pos limit_pos]

theorem not_isNaN_of_isInfinite (kind : x.isInfinite = true) : x.isNaN = false := by
  rw [Bool.eq_false_iff, ne_eq, isNaN_iff]
  exact fun broken => broken.2 (x.isInfinite_iff.mp kind).2

theorem kind_cases (measured : x.isNaN = false) : x.isFinite = true ∨ x.isInfinite = true := by
  have bound := x.magnitude_lt
  rw [isFinite_iff, isInfinite_iff]
  rw [Bool.eq_false_iff, ne_eq, isNaN_iff] at measured
  unfold field at measured ⊢
  omega

theorem measured_iff_magnitude (x : Binary64) : x.isNaN = false ↔ x.magnitude.toNat ≤ top := by
  have bound := x.magnitude_lt
  rw [Bool.eq_false_iff, ne_eq, isNaN_iff, field, fraction, top]
  omega

theorem le_iff_magnitude (measuredA : a.isNaN = false) (measuredB : b.isNaN = false)
    (unsignedA : a.isNegative = false) (unsignedB : b.isNegative = false) :
    a ≤ b ↔ a.magnitude.toNat ≤ b.magnitude.toNat := by
  rw [le_iff_not_lt measuredA measuredB, lt_iff_rank measuredB measuredA]
  simp [rank, unsignedA, unsignedB]

theorem value_unsigned (unsigned : x.isNegative = false) :
    x.value = steps x.magnitude.toNat * smallest := by
  rw [value_eq, if_neg (Bool.eq_false_iff.mp unsigned)]

theorem Rounds.value_nonneg (rounds : Rounds q x) (least : 0 ≤ q) :
    x.value = steps x.magnitude.toNat * smallest := by
  rcases least.eq_or_lt with rfl | above
  · have zero := rounds.zero_magnitude
    rw [value_of_magnitude zero, zero, steps_zero]
    simp
  · exact value_unsigned (rounds.positive above)

theorem Rounds.value_nonpos (rounds : Rounds q x) (most : q ≤ 0) :
    x.value = -steps x.magnitude.toNat * smallest := by
  rcases most.eq_or_lt with rfl | below
  · have zero := rounds.zero_magnitude
    rw [value_of_magnitude zero, zero, steps_zero]
    simp
  · rw [value_eq, if_pos (rounds.negative below)]

def count (x : Binary64) : Int :=
  if x.isNegative then -(steps x.magnitude.toNat : Int) else steps x.magnitude.toNat

theorem value_count (x : Binary64) : x.value = x.count * smallest := by
  rw [value_eq, count]
  split <;> simp

theorem exists_distance (a b : Binary64) : ∃ u : Nat, |a.value - b.value| = u * smallest := by
  refine ⟨(a.count - b.count).natAbs, ?_⟩
  rw [value_count a, value_count b, ← sub_mul, abs_mul, abs_of_pos smallest_pos, Nat.cast_natAbs]
  simp

end Binary64

end Labbook
