import Labbook.Number.Binary64
import Mathlib.Data.Nat.Bitwise
import Mathlib.Tactic.Common

namespace Labbook

namespace Binary64

-- The zero whose sign bit is set. It is the only word that equals another word as a value.
def negativeZero : Binary64 := ⟨0x8000000000000000⟩

theorem isNegative_iff (x : Binary64) : x.isNegative = true ↔ 2 ^ 63 ≤ x.bits.toNat := by
  have bound := x.bits.toNat_lt
  have masked : (x.bits &&& 0x8000000000000000).toNat = (x.bits.toNat.testBit 63).toNat * 2 ^ 63 := by
    rw [UInt64.toNat_and]
    exact Nat.and_two_pow _ 63
  rw [isNegative, bne_iff_ne, ne_eq, ← UInt64.toNat_inj, masked, Nat.testBit_eq_decide_div_mod_eq]
  by_cases odd : x.bits.toNat / 2 ^ 63 % 2 = 1
  · simp only [odd, decide_true, Bool.toNat_true]
    change ¬_ = 0 ↔ _
    omega
  · simp only [odd, decide_false, Bool.toNat_false]
    change ¬_ = 0 ↔ _
    omega

theorem magnitude_toNat (x : Binary64) : x.magnitude.toNat = x.bits.toNat % 2 ^ 63 := by
  rw [magnitude, UInt64.toNat_and]
  exact Nat.and_two_pow_sub_one_eq_mod _ 63

theorem orderIndex_toNat (x : Binary64) : x.orderIndex.toNat =
    if 2 ^ 63 ≤ x.bits.toNat then 2 ^ 64 - 1 - x.bits.toNat else x.bits.toNat + 2 ^ 63 := by
  unfold orderIndex
  by_cases sign : x.isNegative = true
  · rw [if_pos sign, if_pos ((isNegative_iff x).mp sign), UInt64.toNat_not]
    rfl
  · have small : x.bits.toNat < 2 ^ 63 := Nat.lt_of_not_le (mt (isNegative_iff x).mpr sign)
    rw [if_neg sign, if_neg (Nat.not_le_of_lt small), UInt64.toNat_or]
    change x.bits.toNat ||| 2 ^ 63 = _
    rw [Nat.or_comm, Nat.add_comm]
    exact (Nat.two_pow_add_eq_or_of_lt small 1).symm

theorem eq_of_bits {a b : Binary64} (same : a.bits.toNat = b.bits.toNat) : a = b := by
  cases a; cases b
  congr
  exact UInt64.toNat_inj.mp same

theorem orderIndex_injective {a b : Binary64} (same : a.orderIndex.toNat = b.orderIndex.toNat) :
    a = b := by
  have boundA := a.bits.toNat_lt
  have boundB := b.bits.toNat_lt
  rw [orderIndex_toNat, orderIndex_toNat] at same
  apply eq_of_bits
  split at same <;> split at same <;> omega

theorem precedes_iff {a b : Binary64} :
    a.precedes b = true ↔ a.orderIndex.toNat ≤ b.orderIndex.toNat := by
  rw [precedes, decide_eq_true_iff]
  exact UInt64.le_iff_toNat_le

theorem precedes_trans (a b c : Binary64) (first : a.precedes b = true)
    (second : b.precedes c = true) : a.precedes c = true := by
  rw [precedes_iff] at *
  exact Nat.le_trans first second

theorem precedes_total (a b : Binary64) : (a.precedes b || b.precedes a) = true := by
  rw [Bool.or_eq_true, precedes_iff, precedes_iff]
  exact Nat.le_total _ _

theorem precedes_refl (a : Binary64) : a.precedes a = true :=
  precedes_iff.mpr (Nat.le_refl _)

theorem isZero_iff (x : Binary64) : x.isZero = true ↔ x.bits.toNat = 0 ∨ x = negativeZero := by
  have bound := x.bits.toNat_lt
  rw [isZero, beq_iff_eq, ← UInt64.toNat_inj, magnitude_toNat]
  change x.bits.toNat % 2 ^ 63 = 0 ↔ _
  constructor
  · intro multiple
    by_cases zero : x.bits.toNat = 0
    · exact .inl zero
    · refine .inr (eq_of_bits ?_)
      change x.bits.toNat = 2 ^ 63
      omega
  · rintro (zero | rfl)
    · omega
    · rfl

theorem valueIndex_toNat (x : Binary64) : x.valueIndex.toNat =
    if x = negativeZero then 2 ^ 63 else x.orderIndex.toNat := by
  unfold valueIndex
  by_cases zero : x.isZero = true
  · rw [if_pos zero]
    rcases (isZero_iff x).mp zero with positive | rfl
    · rw [orderIndex_toNat, positive]
      split <;> rfl
    · rfl
  · rw [if_neg zero, if_neg (fun negative => zero ((isZero_iff x).mpr (.inr negative)))]

theorem orderIndex_negativeZero : negativeZero.orderIndex.toNat = 2 ^ 63 - 1 := by decide

-- Both zeros are moved to the upper one of their neighbouring places, so no order is turned round.
theorem valueIndex_mono {a b : Binary64} (ordered : a.precedes b = true) :
    a.valueIndex.toNat ≤ b.valueIndex.toNat := by
  rw [precedes_iff] at ordered
  rw [valueIndex_toNat, valueIndex_toNat]
  split <;> split
  · exact Nat.le_refl _
  · rename_i left right
    subst left
    have apart : b.orderIndex.toNat ≠ negativeZero.orderIndex.toNat :=
      fun same => right (orderIndex_injective same)
    rw [orderIndex_negativeZero] at ordered apart
    omega
  · rename_i left right
    subst right
    rw [orderIndex_negativeZero] at ordered
    omega
  · exact ordered

theorem lt_iff {a b : Binary64} : a < b ↔
    a.isNaN = false ∧ b.isNaN = false ∧ a.valueIndex.toNat < b.valueIndex.toNat := by
  change a.below b = true ↔ _
  rw [below, Bool.and_eq_true, Bool.and_eq_true, decide_eq_true_iff, UInt64.lt_iff_toNat_lt]
  simp [and_assoc]

theorem le_iff {a b : Binary64} : a ≤ b ↔
    a.isNaN = false ∧ b.isNaN = false ∧ a.valueIndex.toNat ≤ b.valueIndex.toNat := by
  change a.atMost b = true ↔ _
  rw [atMost, Bool.and_eq_true, Bool.and_eq_true, decide_eq_true_iff, UInt64.le_iff_toNat_le]
  simp [and_assoc]

theorem le_iff_not_lt {a b : Binary64} (measuredA : a.isNaN = false) (measuredB : b.isNaN = false) :
    a ≤ b ↔ ¬b < a := by
  rw [le_iff, lt_iff]
  refine ⟨fun ordered less => Nat.not_lt.mpr ordered.2.2 less.2.2, fun notLess => ?_⟩
  exact ⟨measuredA, measuredB, Nat.not_lt.mp fun less => notLess ⟨measuredB, measuredA, less⟩⟩

theorem equals_iff {a b : Binary64} : a.equals b = true ↔
    a.isNaN = false ∧ b.isNaN = false ∧ a.valueIndex.toNat = b.valueIndex.toNat := by
  rw [equals, Bool.and_eq_true, Bool.and_eq_true, beq_iff_eq, ← UInt64.toNat_inj]
  simp [and_assoc]

theorem lt_trans {a b c : Binary64} (first : a < b) (second : b < c) : a < c := by
  rw [lt_iff] at *
  exact ⟨first.1, second.2.1, Nat.lt_trans first.2.2 second.2.2⟩

instance : Std.Irrefl (α := Binary64) (· < ·) :=
  ⟨fun _ less => Nat.lt_irrefl _ (lt_iff.mp less).2.2⟩

instance : Std.Antisymm (α := Binary64) (· < ·) :=
  ⟨fun a _ less more => absurd (lt_trans less more) (Std.Irrefl.irrefl a)⟩

theorem not_equals_of_lt {a b : Binary64} (less : a < b) : a.equals b = false := by
  rw [Bool.eq_false_iff, ne_eq, equals_iff]
  rintro ⟨-, -, same⟩
  have strict := (lt_iff.mp less).2.2
  omega

theorem ne_of_lt {a b : Binary64} (less : a < b) : a ≠ b := by
  rintro rfl
  exact Std.Irrefl.irrefl _ less

theorem equals_refl {a : Binary64} (measured : a.isNaN = false) : a.equals a = true :=
  equals_iff.mpr ⟨measured, measured, rfl⟩

theorem equals_symm {a b : Binary64} (same : a.equals b = true) : b.equals a = true := by
  rw [equals_iff] at *
  exact ⟨same.2.1, same.1, same.2.2.symm⟩

theorem equals_trans {a b c : Binary64} (first : a.equals b = true) (second : b.equals c = true) :
    a.equals c = true := by
  rw [equals_iff] at *
  exact ⟨first.1, second.2.1, first.2.2.trans second.2.2⟩

-- Sorting by the total order leaves values that differ in their order as numbers.
theorem lt_of_precedes {a b : Binary64} (measuredA : a.isNaN = false) (measuredB : b.isNaN = false)
    (ordered : a.precedes b = true) (differ : a.equals b = false) : a < b := by
  have below := valueIndex_mono ordered
  rw [lt_iff]
  refine ⟨measuredA, measuredB, Nat.lt_of_le_of_ne below ?_⟩
  intro same
  rw [equals_iff.mpr ⟨measuredA, measuredB, same⟩] at differ
  cases differ

theorem eq_of_equals {a b : Binary64} (signA : a ≠ negativeZero) (signB : b ≠ negativeZero)
    (same : a.equals b = true) : a = b := by
  have index := (equals_iff.mp same).2.2
  rw [valueIndex_toNat, valueIndex_toNat, if_neg signA, if_neg signB] at index
  exact orderIndex_injective index

theorem not_isNaN_of_isFinite {x : Binary64} (finite : x.isFinite = true) : x.isNaN = false := by
  rw [isFinite, decide_eq_true_iff, UInt64.lt_iff_toNat_lt] at finite
  rw [isNaN, decide_eq_false_iff_not, UInt64.lt_iff_toNat_lt]
  exact Nat.not_lt_of_lt finite

theorem not_isInfinite_of_isFinite {x : Binary64} (finite : x.isFinite) : x.isInfinite = false := by
  refine beq_eq_false_iff_ne.mpr fun same => ?_
  rw [isFinite, same] at finite
  cases finite

end Binary64

end Labbook
