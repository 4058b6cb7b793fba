import Labbook.Number.Digits
import Labbook.Proofs.Number.Rounding
import Mathlib.Data.Int.Log

namespace Labbook

namespace Fraction

def value (q : Fraction) : Rat := q.num / q.den

structure Positive (q : Fraction) : Prop where
  num : 0 < q.num
  den : 0 < q.den

theorem Positive.value {q : Fraction} (positive : q.Positive) : 0 < q.value :=
  div_pos (Nat.cast_pos.mpr positive.num) (Nat.cast_pos.mpr positive.den)

theorem shift_positive {q : Fraction} (positive : q.Positive) (places : Int) :
    (q.shift places).Positive := by
  have power : ∀ n : Nat, 0 < 10 ^ n := fun n => Nat.pow_pos (by decide)
  cases places with
  | ofNat n => exact ⟨Nat.mul_pos positive.num (power n), positive.den⟩
  | negSucc n => exact ⟨positive.num, Nat.mul_pos positive.den (power (n + 1))⟩

theorem shift_value (q : Fraction) (places : Int) :
    (q.shift places).value = q.value * (10 : Rat) ^ places := by
  cases places with
  | ofNat n =>
    change ((q.num * 10 ^ n : Nat) : Rat) / q.den = q.num / q.den * (10 : Rat) ^ (n : Int)
    rw [zpow_natCast]
    push_cast
    ring
  | negSucc n =>
    change (q.num : Rat) / (q.den * 10 ^ (n + 1) : Nat) = q.num / q.den * (10 : Rat) ^ (Int.negSucc n)
    rw [zpow_negSucc]
    push_cast
    rw [div_mul_eq_div_div, div_eq_mul_inv]

theorem shift_nearest {q : Fraction} (positive : q.Positive) (places : Int) :
    Nearest (q.value * 10 ^ places)
      (roundQuotient .toEven (q.shift places).num (q.shift places).den) := by
  rw [← shift_value]
  exact roundQuotient_nearest (q.shift places).num (shift_positive positive places).den

theorem ofBinary_positive {mantissa : Nat} (positive : 0 < mantissa) (exponent : Int) :
    (ofBinary mantissa exponent).Positive := by
  cases exponent with
  | ofNat n => exact ⟨Nat.mul_pos positive (Nat.two_pow_pos n), Nat.one_pos⟩
  | negSucc n => exact ⟨positive, Nat.two_pow_pos (n + 1)⟩

theorem ofBinary_value (mantissa : Nat) (exponent : Int) :
    (ofBinary mantissa exponent).value = mantissa * (2 : Rat) ^ exponent := by
  cases exponent with
  | ofNat n =>
    change ((mantissa * 2 ^ n : Nat) : Rat) / (1 : Nat) = mantissa * (2 : Rat) ^ (n : Int)
    rw [zpow_natCast, Nat.cast_one, div_one]
    push_cast
    rfl
  | negSucc n =>
    change (mantissa : Rat) / (2 ^ (n + 1) : Nat) = mantissa * (2 : Rat) ^ (Int.negSucc n)
    rw [zpow_negSucc]
    push_cast
    rw [div_eq_mul_inv]

theorem den_le_num_iff {q : Fraction} (positive : q.Positive) : q.den ≤ q.num ↔ 1 ≤ q.value := by
  rw [value, one_le_div (Nat.cast_pos.mpr positive.den), Nat.cast_le]

end Fraction

theorem tenPow_pos (e : Int) : (0 : Rat) < 10 ^ e := zpow_pos (by norm_num) e

theorem tenPow_mul {a b sum : Int} (adds : a + b = sum) : (10 : Rat) ^ a * 10 ^ b = 10 ^ sum := by
  rw [← zpow_add₀ (by norm_num), adds]

theorem log_eq {v : Rat} {e : Int} (positive : 0 < v) (low : 10 ^ e ≤ v) (high : v < 10 ^ (e + 1)) :
    Int.log 10 v = e := by
  have least : e ≤ Int.log 10 v :=
    (Int.zpow_le_iff_le_log (by decide) positive).mp (by exact_mod_cast low)
  have most : Int.log 10 v < e + 1 :=
    (Int.lt_zpow_iff_log_lt (by decide) positive).mp (by exact_mod_cast high)
  omega

theorem log_bounds {v : Rat} (positive : 0 < v) :
    10 ^ Int.log 10 v ≤ v ∧ v < 10 ^ (Int.log 10 v + 1) := by
  have low := Int.zpow_log_le_self (b := 10) (by decide) positive
  have high := Int.lt_zpow_succ_log_self (b := 10) (by decide) v
  exact ⟨by exact_mod_cast low, by exact_mod_cast high⟩

theorem toDigits_bounds {n : Nat} (positive : 0 < n) :
    (10 : Rat) ^ ((Nat.toDigits 10 n).length - 1 : Int) ≤ n ∧
      (n : Rat) < 10 ^ ((Nat.toDigits 10 n).length : Int) := by
  have nonempty : 0 < (Nat.toDigits 10 n).length := List.length_pos_of_ne_nil Nat.toDigits_ne_nil
  have high : n < 10 ^ (Nat.toDigits 10 n).length :=
    (Nat.length_toDigits_le_iff (by decide) nonempty).mp (le_refl _)
  constructor
  · rw [← Nat.cast_pred nonempty, zpow_natCast]
    rcases Nat.eq_zero_or_pos ((Nat.toDigits 10 n).length - 1) with zero | more
    · rw [zero, pow_zero]
      exact_mod_cast positive
    · have low : ¬n < 10 ^ ((Nat.toDigits 10 n).length - 1) := fun less =>
        absurd ((Nat.length_toDigits_le_iff (by decide) more).mpr less)
          (Nat.not_le.mpr (Nat.sub_one_lt_of_lt nonempty))
      exact_mod_cast not_lt.mp low
  · rw [zpow_natCast]
    exact_mod_cast high

namespace Fraction

theorem value_bounds {q : Fraction} (positive : q.Positive) {guess : Int}
    (counted : guess = (Nat.toDigits 10 q.num).length - (Nat.toDigits 10 q.den).length) :
    10 ^ (guess - 1) ≤ q.value ∧ q.value < 10 ^ (guess + 1) := by
  obtain ⟨lowNum, highNum⟩ := toDigits_bounds positive.num
  obtain ⟨lowDen, highDen⟩ := toDigits_bounds positive.den
  have size : (0 : Rat) < q.den := Nat.cast_pos.mpr positive.den
  constructor
  · refine (le_div_iff₀ size).mpr ?_
    calc (10 : Rat) ^ (guess - 1) * q.den
        ≤ 10 ^ (guess - 1) * 10 ^ ((Nat.toDigits 10 q.den).length : Int) :=
          mul_le_mul_of_nonneg_left highDen.le (tenPow_pos _).le
      _ = 10 ^ ((Nat.toDigits 10 q.num).length - 1 : Int) := tenPow_mul (by omega)
      _ ≤ q.num := lowNum
  · refine (div_lt_iff₀ size).mpr ?_
    calc (q.num : Rat) < 10 ^ ((Nat.toDigits 10 q.num).length : Int) := highNum
      _ = 10 ^ (guess + 1) * 10 ^ ((Nat.toDigits 10 q.den).length - 1 : Int) :=
          (tenPow_mul (by omega)).symm
      _ ≤ 10 ^ (guess + 1) * q.den := mul_le_mul_of_nonneg_left lowDen (tenPow_pos _).le

theorem decade_eq {q : Fraction} (positive : q.Positive) : q.decade = Int.log 10 q.value := by
  unfold decade
  dsimp only
  generalize counted : Int.ofNat (Nat.toDigits 10 q.num).length -
    Int.ofNat (Nat.toDigits 10 q.den).length = guess
  obtain ⟨low, high⟩ := value_bounds positive counted.symm
  have reached : (q.shift (-guess)).den ≤ (q.shift (-guess)).num ↔ 10 ^ guess ≤ q.value := by
    rw [den_le_num_iff (shift_positive positive _), shift_value, zpow_neg, ← div_eq_mul_inv,
      one_le_div (tenPow_pos guess)]
  split
  · rename_i above
    exact (log_eq positive.value (reached.mp above) high).symm
  · rename_i below
    rw [reached, not_le] at below
    exact (log_eq positive.value low (by rwa [Int.sub_add_cancel])).symm

end Fraction

def lastPlace (count : Nat) (v : Rat) : Rat := 10 ^ (Int.log 10 |v| + 1 - count)

def toSignificant (count : Nat) (v : Rat) : Rat := nearestEven (v / lastPlace count v) * lastPlace count v

section
variable {count n : Nat} {v : Rat}

theorem toSignificant_neg (count : Nat) (v : Rat) : toSignificant count (-v) = -toSignificant count v := by
  rw [toSignificant, toSignificant, lastPlace, lastPlace, abs_neg, neg_div, nearestEven_neg, Int.cast_neg,
    neg_mul]

theorem toSignificant_eq (near : Nearest (v / lastPlace count v) n) :
    toSignificant count v = n * lastPlace count v := by
  rw [toSignificant, near.eq_nearestEven, Int.cast_natCast]

theorem div_lastPlace (count : Nat) (v : Rat) :
    v / lastPlace count v = v * 10 ^ (count - 1 - Int.log 10 |v|) := by
  rw [lastPlace, div_eq_mul_inv, ← zpow_neg]
  congr 2
  ring

-- Counted in the last place, a number has as many digits as it is rounded to, or one more by a carry.
theorem number_bounds (nonempty : 0 < count) (positive : 0 < v) (near : Nearest (v / lastPlace count v) n) :
    10 ^ (count - 1) ≤ n ∧ n ≤ 10 ^ count := by
  obtain ⟨low, high⟩ := log_bounds positive
  have place : 0 < lastPlace count v := tenPow_pos _
  have least : ((10 ^ (count - 1) : Nat) : Int) ≤ v / lastPlace count v := by
    have exact : (10 : Rat) ^ (count - 1 : Int) * lastPlace count v = 10 ^ Int.log 10 v := by
      rw [lastPlace, abs_of_pos positive]
      exact tenPow_mul (by ring)
    rw [← Nat.cast_pred nonempty, zpow_natCast] at exact
    rw [le_div_iff₀ place]
    push_cast
    exact exact.trans_le low
  have most : v / lastPlace count v ≤ ((10 ^ count : Nat) : Int) := by
    have exact : (10 : Rat) ^ (count : Int) * lastPlace count v = 10 ^ (Int.log 10 v + 1) := by
      rw [lastPlace, abs_of_pos positive]
      exact tenPow_mul (by ring)
    rw [zpow_natCast] at exact
    rw [div_le_iff₀ place]
    push_cast
    exact high.le.trans_eq exact.symm
  exact ⟨by exact_mod_cast near.ge least, by exact_mod_cast near.le most⟩

end

namespace Digits

-- What rounding to significant digits gives. The same digits come from rounding anew at the place that
-- the exponent of the result names.
structure Rounds (count : Nat) (v : Rat) (d : Digits) : Prop where
  length : d.count = count
  lower : 10 ^ (count - 1) ≤ d.number
  upper : d.number < 10 ^ count
  value : (d.number : Rat) * 10 ^ (d.exponent + 1 - count) = toSignificant count v
  again : Nearest (v * 10 ^ (count - 1 - d.exponent)) d.number

section
variable {count n : Nat} {v : Rat} {d : Digits}

theorem rounds_of_fits (near : Nearest (v / lastPlace count v) n) (least : 10 ^ (count - 1) ≤ n)
    (fits : n < 10 ^ count) : Rounds count v ⟨n, count, Int.log 10 |v|⟩ where
  length := rfl
  lower := least
  upper := fits
  value := (toSignificant_eq near).symm
  again := div_lastPlace count v ▸ near

-- A carry leaves a power of ten. One place further up it is a tenth of that, and the value counted there
-- is ten times as near to it, so rounding anew changes nothing.
theorem rounds_of_carry (nonempty : 0 < count) (near : Nearest (v / lastPlace count v) (10 ^ count : Nat)) :
    Rounds count v ⟨10 ^ count / 10, count, Int.log 10 |v| + 1⟩ := by
  obtain ⟨others, rfl⟩ : ∃ others, count = others + 1 := Nat.exists_eq_add_one.mpr nonempty
  have shorter : 10 ^ (others + 1) / 10 = 10 ^ others := by
    rw [pow_succ, Nat.mul_div_cancel _ (by decide)]
  rw [shorter]
  refine ⟨rfl, le_refl _, Nat.pow_lt_pow_succ (by decide), ?_, ?_⟩
  · have moved : (10 : Rat) ^ (Int.log 10 |v| + 1 + 1 - (others + 1 : Nat)) =
        10 * lastPlace (others + 1) v := by
      rw [lastPlace, ← zpow_one_add₀ (by norm_num)]
      congr 1
      ring
    rw [toSignificant_eq near, moved]
    push_cast
    ring
  · have tenth : v * 10 ^ ((others + 1 : Nat) - 1 - (Int.log 10 |v| + 1)) -
        ((10 ^ others : Nat) : Int) =
          (v / lastPlace (others + 1) v - ((10 ^ (others + 1) : Nat) : Int)) / 10 := by
      rw [div_lastPlace, ← sub_sub, zpow_sub_one₀ (by norm_num)]
      push_cast
      ring
    refine .of_lt ?_
    have half := near.near
    rw [tenth, abs_div, abs_of_pos (show (0 : Rat) < 10 by norm_num)]
    linarith

theorem significant_rounds (nonempty : 0 < count) {q : Fraction} (positive : q.Positive) :
    Rounds count q.value (significant count q) := by
  have exponent : q.decade = Int.log 10 |q.value| := by
    rw [Fraction.decade_eq positive, abs_of_pos positive.value]
  have near := Fraction.shift_nearest positive (count - 1 - q.decade)
  unfold significant
  dsimp only
  rw [Int.ofNat_eq_natCast]
  generalize roundQuotient .toEven (q.shift (count - 1 - q.decade)).num
    (q.shift (count - 1 - q.decade)).den = n at near
  rw [exponent] at near ⊢
  rw [← div_lastPlace] at near
  obtain ⟨least, most⟩ := number_bounds nonempty positive.value near
  split
  · rename_i fits
    exact rounds_of_fits near least fits
  · rename_i carry
    obtain rfl : n = 10 ^ count := Nat.le_antisymm most (not_lt.mp carry)
    exact rounds_of_carry nonempty near

-- The exponent of the result is that of the rounded number, not of the number itself.
theorem Rounds.bounds (rounds : Rounds count v d) (nonempty : 0 < count) :
    10 ^ d.exponent ≤ toSignificant count v ∧ toSignificant count v < 10 ^ (d.exponent + 1) := by
  have place := tenPow_pos (d.exponent + 1 - count)
  have lower : (10 : Rat) ^ (count - 1 : Int) ≤ d.number := by
    rw [← Nat.cast_pred nonempty, zpow_natCast]
    exact_mod_cast rounds.lower
  have upper : (d.number : Rat) < 10 ^ (count : Int) := by
    rw [zpow_natCast]
    exact_mod_cast rounds.upper
  rw [← rounds.value]
  constructor
  · calc (10 : Rat) ^ d.exponent
        = 10 ^ (count - 1 : Int) * 10 ^ (d.exponent + 1 - count) := (tenPow_mul (by ring)).symm
      _ ≤ d.number * 10 ^ (d.exponent + 1 - count) := mul_le_mul_of_nonneg_right lower place.le
  · calc (d.number : Rat) * 10 ^ (d.exponent + 1 - count)
        < 10 ^ (count : Int) * 10 ^ (d.exponent + 1 - count) := mul_lt_mul_of_pos_right upper place
      _ = 10 ^ (d.exponent + 1) := tenPow_mul (by ring)

end

end Digits

end Labbook
