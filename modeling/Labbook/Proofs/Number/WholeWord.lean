import Labbook.Proofs.Number.WordValue

namespace Labbook

theorem roundQuotient_one (tie : Tie) (num : Nat) : roundQuotient tie num 1 = num := by
  simp [roundQuotient, Nat.mod_one]

namespace Binary64
variable {n : Nat}

-- A number below `2 ^ 53` shifted up until its highest bit is the hidden one.
def aligned (n : Nat) : Nat := n * 2 ^ (52 - Nat.log2 n)

theorem log2_le (few : n < 2 ^ 53) : Nat.log2 n ≤ 52 := by
  by_cases zero : n = 0
  · rw [zero]
    decide
  · exact Nat.le_of_lt_succ ((Nat.log2_lt zero).mpr few)

theorem aligned_bounds (positive : n ≠ 0) (few : n < 2 ^ 53) :
    2 ^ 52 ≤ aligned n ∧ aligned n < 2 ^ 53 := by
  have small := log2_le few
  have low : 2 ^ Nat.log2 n ≤ n := Nat.log2_self_le positive
  have high : n < 2 ^ (Nat.log2 n + 1) := Nat.lt_log2_self
  have room := Nat.two_pow_pos (52 - Nat.log2 n)
  have atLow : 2 ^ Nat.log2 n * 2 ^ (52 - Nat.log2 n) = 2 ^ 52 := by
    rw [← pow_add, Nat.add_sub_cancel' small]
  have atHigh : 2 ^ (Nat.log2 n + 1) * 2 ^ (52 - Nat.log2 n) = 2 ^ 53 := by
    rw [pow_succ, Nat.mul_right_comm, atLow]
    rfl
  unfold aligned
  exact ⟨atLow ▸ Nat.mul_le_mul_right _ low, atHigh ▸ Nat.mul_lt_mul_of_pos_right high room⟩

-- Shifting up loses no bit, so that there is nothing to round.
theorem ofNat_aligned (positive : n ≠ 0) (few : n < 2 ^ 53) : ofNat n =
    ⟨UInt64.ofNat (min ((Nat.log2 n + 1022) * hiddenBit + aligned n) 0x7FF0000000000000)⟩ := by
  obtain ⟨gap, place⟩ := Nat.exists_eq_add_of_le (log2_le few)
  have shift : 52 - Nat.log2 n = gap := by omega
  have lowest : max (Int.ofNat (Nat.log2 n) - 52 + 0) (-1074) = -(gap : Int) := by
    rw [Int.ofNat_eq_natCast]
    omega
  have field : (-(gap : Int) + 1074).toNat = Nat.log2 n + 1022 := by omega
  have reached : ¬1100 < Int.ofNat (Nat.log2 n) + 0 := by
    rw [Int.ofNat_eq_natCast]
    omega
  unfold ofNat ofBinary
  dsimp only
  rw [lowest, if_neg positive, if_neg reached, field, if_neg Bool.false_ne_true, aligned, shift,
    Int.sub_zero]
  cases gap with
  | zero =>
    rw [pow_zero, Nat.mul_one]
    exact congrArg (fun rounded => (⟨UInt64.ofNat (min (_ + rounded) _)⟩ : Binary64))
      (roundQuotient_one .toEven n)
  | succ k => rfl

-- The exponent is the place of the highest bit, and the shifted number carries into it once.
theorem ofNat_bits (positive : n ≠ 0) (few : n < 2 ^ 53) :
    (ofNat n).bits.toNat = (Nat.log2 n + 1022) * 2 ^ 52 + aligned n := by
  have small := log2_le few
  have bounds := aligned_bounds positive few
  rw [ofNat_aligned positive few, UInt64.toNat_ofNat']
  unfold hiddenBit
  omega

theorem ofNat_zero : ofNat 0 = ⟨0⟩ := by decide

theorem ofNat_bits_lt (few : n < 2 ^ 53) : (ofNat n).bits.toNat < 2047 * 2 ^ 52 := by
  by_cases zero : n = 0
  · rw [zero, ofNat_zero]
    decide
  · have small := log2_le few
    have bounds := aligned_bounds zero few
    rw [ofNat_bits zero few]
    omega

-- Counted in the smallest steps, a number is as much further up as the smallest step is below one.
theorem ofNat_steps (few : n < 2 ^ 53) : steps (ofNat n).magnitude.toNat = n * 2 ^ (52 + 1022) := by
  have bits := ofNat_bits_lt few
  rw [magnitude_toNat, Nat.mod_eq_of_lt (by omega)]
  by_cases zero : n = 0
  · rw [zero, ofNat_zero, Nat.zero_mul]
    rfl
  · have bounds := aligned_bounds zero few
    have field : ((Nat.log2 n + 1022) * 2 ^ 52 + aligned n) / 2 ^ 52 = Nat.log2 n + 1022 + 1 := by
      omega
    have rest : ((Nat.log2 n + 1022) * 2 ^ 52 + aligned n) % 2 ^ 52 + 2 ^ 52 = aligned n := by
      omega
    rw [ofNat_bits zero few, steps, field, rest, if_neg (Nat.succ_ne_zero _), Nat.add_sub_cancel,
      aligned, Nat.mul_assoc, ← pow_add, ← Nat.add_assoc, Nat.sub_add_cancel (log2_le few)]

theorem isNegative_ofNat (few : n < 2 ^ 53) : (ofNat n).isNegative = false := by
  have bits := ofNat_bits_lt few
  rw [Bool.eq_false_iff, Ne, isNegative_iff]
  omega

theorem isFinite_ofNat (few : n < 2 ^ 53) : (ofNat n).isFinite = true := by
  have bits := ofNat_bits_lt few
  have below : (ofNat n).magnitude.toNat < (0x7FF0000000000000 : UInt64).toNat := by
    rw [magnitude_toNat, Nat.mod_eq_of_lt (by omega)]
    exact bits
  rw [isFinite, decide_eq_true_iff, UInt64.lt_iff_toNat_lt]
  exact below

theorem value_ofNat (few : n < 2 ^ 53) : (ofNat n).value = n := by
  have scale : (2 : Rat) ^ (52 + 1022 : Nat) * smallest = 1 := by
    rw [smallest, ← zpow_natCast, ← zpow_add₀ two_ne_zero]
    rfl
  rw [value_eq, isNegative_ofNat few, if_neg Bool.false_ne_true, ofNat_steps few, Nat.cast_mul,
    Nat.cast_pow, Nat.cast_ofNat, mul_assoc, scale, mul_one]

-- The parts of a word tell whether its value is whole.
theorem whole_of_value {x : Binary64} (unsigned : x.isNegative = false) (whole : x.value = n) :
    x.hasFraction = false ∧ x.wholePart = n := by
  rw [value, unsigned, if_neg Bool.false_ne_true] at whole
  unfold hasFraction wholePart
  cases place : x.exponent with
  | ofNat e =>
    rw [place, Int.ofNat_eq_natCast, zpow_natCast] at whole
    exact ⟨rfl, by exact_mod_cast whole⟩
  | negSucc e =>
    rw [place, zpow_negSucc, ← div_eq_mul_inv, div_eq_iff (pow_ne_zero _ two_ne_zero)] at whole
    have mantissa : x.mantissa = n * 2 ^ (e + 1) := by exact_mod_cast whole
    dsimp only
    rw [mantissa]
    refine ⟨?_, Nat.mul_div_cancel _ (Nat.two_pow_pos _)⟩
    rw [bne_eq_false_iff_eq]
    exact Nat.mul_mod_left _ _

theorem round_ofNat (few : n < 2 ^ 53) : (ofNat n).round = ofNat n := by
  have whole := (whole_of_value (isNegative_ofNat few) (value_ofNat few)).1
  rw [round, toWhole, whole, Bool.and_false, if_neg Bool.false_ne_true]

theorem toNat_ofNat (few : n < 2 ^ 53) : (ofNat n).toNat = n := by
  have finite := isFinite_ofNat few
  have whole := (whole_of_value (isNegative_ofNat few) (value_ofNat few)).2
  have room : n ≤ Word.bound64 - 1 := Nat.le_trans (Nat.le_of_lt few) (by decide)
  rw [toNat, toNatBelow, not_isNaN_of_isFinite finite, isNegative_ofNat few,
    not_isInfinite_of_isFinite finite, whole, Nat.min_eq_left room]
  rfl

end Binary64

end Labbook
