import Labbook.Proofs.Number.WordOrder
import Mathlib.Algebra.Order.Field.Rat
import Mathlib.Algebra.Order.GroupWithZero.Basic
import Mathlib.Order.Monotone.Basic
import Mathlib.Tactic.Linarith
import Mathlib.Tactic.Ring

namespace Labbook

namespace Binary64

-- The exact value of a finite word; the words of infinities and NaNs have none, and what stands here for
-- them means nothing.
def value (x : Binary64) : Rat :=
  (if x.isNegative then -(x.mantissa : Rat) else x.mantissa) * (2 : Rat) ^ x.exponent

def steps (magnitude : Nat) : Nat :=
  if magnitude / 2 ^ 52 = 0 then magnitude
  else (magnitude % 2 ^ 52 + 2 ^ 52) * 2 ^ (magnitude / 2 ^ 52 - 1)

theorem steps_strictMono : StrictMono steps := by
  refine strictMono_nat_of_lt_succ fun m => ?_
  have split := Nat.div_add_mod m (2 ^ 52)
  have frac := Nat.mod_lt m (show 0 < 2 ^ 52 by decide)
  unfold steps
  by_cases carry : m % 2 ^ 52 + 1 < 2 ^ 52
  · have field : (m + 1) / 2 ^ 52 = m / 2 ^ 52 := by omega
    have rest : (m + 1) % 2 ^ 52 = m % 2 ^ 52 + 1 := by omega
    rw [field, rest]
    split
    · exact Nat.lt_succ_self m
    · exact Nat.mul_lt_mul_of_pos_right (by omega) (Nat.two_pow_pos _)
  · have field : (m + 1) / 2 ^ 52 = m / 2 ^ 52 + 1 := by omega
    have rest : (m + 1) % 2 ^ 52 = 0 := by omega
    rw [field, rest, if_neg (Nat.succ_ne_zero _), Nat.add_sub_cancel, Nat.zero_add]
    split
    · rename_i small
      rw [small]
      omega
    · rename_i large
      obtain ⟨e, field⟩ := Nat.exists_eq_succ_of_ne_zero large
      have double : 2 ^ 52 * 2 ^ (e + 1) = 2 ^ 53 * 2 ^ e := by ring
      rw [field, Nat.succ_sub_one, double]
      exact Nat.mul_lt_mul_of_pos_right (by omega) (Nat.two_pow_pos e)

theorem steps_zero : steps 0 = 0 := rfl

theorem mantissa_toNat (x : Binary64) : x.mantissa =
    if x.magnitude.toNat / 2 ^ 52 = 0 then x.magnitude.toNat % 2 ^ 52
    else x.magnitude.toNat % 2 ^ 52 + 2 ^ 52 := by
  have fraction : (x.magnitude &&& 0x000FFFFFFFFFFFFF).toNat = x.magnitude.toNat % 2 ^ 52 := by
    rw [UInt64.toNat_and]
    exact Nat.and_two_pow_sub_one_eq_mod _ 52
  have field : (x.magnitude >>> 52 == 0) = decide (x.magnitude.toNat / 2 ^ 52 = 0) := by
    rw [Bool.eq_iff_iff, beq_iff_eq, decide_eq_true_iff, ← UInt64.toNat_inj, UInt64.toNat_shiftRight]
    exact Iff.of_eq (congrArg (· = 0) (Nat.shiftRight_eq_div_pow _ 52))
  unfold mantissa
  rw [fraction, field]
  simp only [decide_eq_true_eq]
  rfl

theorem exponent_eq (x : Binary64) : x.exponent =
    if x.magnitude.toNat / 2 ^ 52 = 0 then -1074
    else ((x.magnitude.toNat / 2 ^ 52 - 1 : Nat) : Int) - 1074 := by
  have field : (x.magnitude >>> 52).toNat = x.magnitude.toNat / 2 ^ 52 := by
    rw [UInt64.toNat_shiftRight]
    exact Nat.shiftRight_eq_div_pow _ 52
  unfold exponent
  rw [field]
  dsimp only
  split
  · rfl
  · rename_i large
    have positive := Nat.pos_of_ne_zero large
    rw [Int.ofNat_eq_natCast]
    omega

def smallest : Rat := (2 : Rat) ^ (-1074 : Int)

theorem smallest_pos : 0 < smallest := zpow_pos two_pos _

theorem value_eq (x : Binary64) : x.value =
    (if x.isNegative then -(steps x.magnitude.toNat : Rat) else steps x.magnitude.toNat) *
      smallest := by
  have scale : (x.mantissa : Rat) * (2 : Rat) ^ x.exponent =
      steps x.magnitude.toNat * smallest := by
    rw [mantissa_toNat, exponent_eq, steps, smallest]
    split
    · rename_i small
      rw [Nat.mod_eq_of_lt (by omega)]
    · rw [Int.sub_eq_add_neg, zpow_add₀ two_ne_zero, zpow_natCast, Nat.cast_mul, Nat.cast_pow,
        Nat.cast_ofNat, mul_assoc]
  unfold value
  split
  · rw [neg_mul, scale, neg_mul]
  · exact scale

-- The position of a word among the numbers as a whole number: its magnitude with its sign.
def rank (x : Binary64) : Int :=
  if x.isNegative then -(x.magnitude.toNat : Int) else x.magnitude.toNat

theorem valueIndex_rank (x : Binary64) : (x.valueIndex.toNat : Int) =
    if x.rank < 0 then x.rank + 2 ^ 63 - 1 else x.rank + 2 ^ 63 := by
  have bound := x.bits.toNat_lt
  have sign := isNegative_iff x
  rw [valueIndex_toNat, orderIndex_toNat, rank, magnitude_toNat]
  by_cases zero : x = negativeZero
  · subst zero
    decide
  · have solid : x.bits.toNat ≠ 2 ^ 63 := fun same => zero (eq_of_bits same)
    rw [if_neg zero]
    cases negative : x.isNegative with
    | true =>
      have upper := sign.mp negative
      simp only [↓reduceIte]
      rw [if_pos upper]
      split <;> omega
    | false =>
      have lower : ¬2 ^ 63 ≤ x.bits.toNat := fun upper => by
        rw [sign.mpr upper] at negative
        cases negative
      simp only [Bool.false_eq_true, ↓reduceIte]
      rw [if_neg lower]
      split <;> omega

theorem lt_iff_rank {a b : Binary64} (measuredA : a.isNaN = false) (measuredB : b.isNaN = false) :
    a < b ↔ a.rank < b.rank := by
  have atA := valueIndex_rank a
  have atB := valueIndex_rank b
  rw [lt_iff]
  constructor
  · rintro ⟨-, -, below⟩
    split at atA <;> split at atB <;> omega
  · intro less
    refine ⟨measuredA, measuredB, ?_⟩
    split at atA <;> split at atB <;> omega

theorem zero_le {x : Binary64} (measured : x.isNaN = false) (unsigned : x.isNegative = false) :
    0 ≤ x := by
  have place := valueIndex_rank x
  rw [rank, unsigned, if_neg Bool.false_ne_true, if_neg (Int.not_lt.mpr (Int.natCast_nonneg _))] at place
  have zero : (0 : Binary64).valueIndex.toNat = 2 ^ 63 := by decide
  have index : (0 : Binary64).valueIndex ≤ x.valueIndex := by
    rw [UInt64.le_iff_toNat_le, zero]
    omega
  change (!(0 : Binary64).isNaN && !x.isNaN && decide ((0 : Binary64).valueIndex ≤ x.valueIndex)) = true
  rw [measured, decide_eq_true index]
  decide

-- Steps grow with the magnitude, and the sign turns both round.
theorem value_lt_of_rank {a b : Binary64} (less : a.rank < b.rank) : a.value < b.value := by
  rw [value_eq, value_eq]
  refine mul_lt_mul_of_pos_right ?_ smallest_pos
  unfold rank at less
  cases signA : a.isNegative <;> cases signB : b.isNegative <;>
    simp only [signA, signB, Bool.false_eq_true, ↓reduceIte] at less ⊢
  · exact_mod_cast steps_strictMono (by omega)
  · omega
  · have grows : steps 0 < steps a.magnitude.toNat ∨ steps 0 < steps b.magnitude.toNat := by
      rcases Nat.eq_zero_or_pos a.magnitude.toNat with zero | positive
      · exact .inr (steps_strictMono (by omega))
      · exact .inl (steps_strictMono positive)
    rw [steps_zero] at grows
    have apart : (0 : Int) < steps a.magnitude.toNat + steps b.magnitude.toNat := by omega
    have exact : (0 : Rat) < steps a.magnitude.toNat + steps b.magnitude.toNat := by exact_mod_cast apart
    linarith
  · exact neg_lt_neg (by exact_mod_cast steps_strictMono (by omega))

-- Only the zeros share a place, and their value.
theorem value_of_rank {a b : Binary64} (same : a.rank = b.rank) : a.value = b.value := by
  rw [value_eq, value_eq]
  unfold rank at same
  cases signA : a.isNegative <;> cases signB : b.isNegative <;>
    simp only [signA, signB, Bool.false_eq_true, ↓reduceIte, neg_inj, Nat.cast_inj] at same ⊢
  · rw [same]
  · have zeroA : a.magnitude.toNat = 0 := by omega
    have zeroB : b.magnitude.toNat = 0 := by omega
    rw [zeroA, zeroB, steps_zero, Nat.cast_zero, neg_zero]
  · have zeroA : a.magnitude.toNat = 0 := by omega
    have zeroB : b.magnitude.toNat = 0 := by omega
    rw [zeroA, zeroB, steps_zero, Nat.cast_zero, neg_zero]
  · rw [same]

theorem value_lt {a b : Binary64} (less : a < b) : a.value < b.value := by
  obtain ⟨measuredA, measuredB, -⟩ := lt_iff.mp less
  exact value_lt_of_rank ((lt_iff_rank measuredA measuredB).mp less)

theorem value_le {a b : Binary64} (measuredA : a.isNaN = false) (measuredB : b.isNaN = false)
    (notLess : ¬a < b) : b.value ≤ a.value := by
  rw [lt_iff_rank measuredA measuredB, not_lt] at notLess
  rcases eq_or_lt_of_le notLess with same | less
  · exact le_of_eq (value_of_rank same)
  · exact (value_lt_of_rank less).le

end Binary64

end Labbook
