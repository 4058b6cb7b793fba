import Labbook.Number.Fraction
import Mathlib.Algebra.Order.Ring.Abs
import Mathlib.Data.Rat.Floor
import Mathlib.Tactic.Linarith
import Mathlib.Tactic.NormNum
import Mathlib.Tactic.Ring

namespace Labbook

-- Two whole numbers may be equally near; then it is the even one.
structure Nearest (q : Rat) (n : Int) : Prop where
  near : |q - n| ≤ 1 / 2
  even : |q - n| = 1 / 2 → Even n

def nearestEven (q : Rat) : Int :=
  if Int.fract q < 1 / 2 ∨ Int.fract q = 1 / 2 ∧ Even ⌊q⌋ then ⌊q⌋ else ⌊q⌋ + 1

namespace Nearest

variable {q : Rat} {n m : Int}

theorem of_lt (near : |q - n| < 1 / 2) : Nearest q n :=
  ⟨le_of_lt near, fun half => absurd half (ne_of_lt near)⟩

theorem down (rest : 0 ≤ q - n) (small : q - n < 1 / 2 ∨ q - n = 1 / 2 ∧ Even n) :
    Nearest q n := by
  rcases small with less | ⟨half, even⟩
  · exact of_lt (by rwa [abs_of_nonneg rest])
  · exact ⟨by rw [abs_of_nonneg rest, half], fun _ => even⟩

theorem up (gap : q - n ≤ 1) (large : 1 / 2 < q - n ∨ q - n = 1 / 2 ∧ ¬Even n) :
    Nearest q (n + 1) := by
  have short : q - (n + 1 : Int) ≤ 0 := by
    push_cast
    linarith
  rcases large with more | ⟨half, odd⟩
  · refine of_lt ?_
    rw [abs_of_nonpos short]
    push_cast
    linarith
  · refine ⟨?_, fun _ => Int.even_add_one.mpr odd⟩
    rw [abs_of_nonpos short]
    push_cast
    linarith

-- Neighbours both nearest are both half way, and only one of them is even.
theorem ne_succ (one : Nearest q n) (other : Nearest q m) : m ≠ n + 1 := by
  rintro rfl
  obtain ⟨-, high⟩ := abs_le.mp one.near
  obtain ⟨low, -⟩ := abs_le.mp other.near
  push_cast at low
  have above : q - n = 1 / 2 := by linarith
  have below : q - (n + 1 : Int) = -(1 / 2) := by
    push_cast
    linarith
  have even := one.even (by rw [above, abs_of_pos (by norm_num)])
  have evenNext := other.even (by rw [below, abs_neg, abs_of_pos (by norm_num)])
  exact Int.even_add_one.mp evenNext even

theorem le_succ (one : Nearest q n) (other : Nearest q m) : n ≤ m + 1 := by
  obtain ⟨low, -⟩ := abs_le.mp one.near
  obtain ⟨-, high⟩ := abs_le.mp other.near
  have close : (n : Rat) ≤ m + 1 := by linarith
  exact_mod_cast close

theorem unique (one : Nearest q n) (other : Nearest q m) : n = m := by
  have above := one.le_succ other
  have below := other.le_succ one
  have apart := one.ne_succ other
  have apartBack := other.ne_succ one
  omega

theorem neg (near : Nearest q n) : Nearest (-q) (-n) := by
  have mirror : |-q - (-n : Int)| = |q - n| := by
    rw [← abs_neg]
    push_cast
    congr 1
    ring
  refine ⟨mirror ▸ near.near, fun half => ?_⟩
  rw [mirror] at half
  exact (near.even half).neg

theorem le {k : Int} (near : Nearest q n) (bound : q ≤ k) : n ≤ k := by
  obtain ⟨low, -⟩ := abs_le.mp near.near
  have less : (n : Rat) < k + 1 := by linarith
  exact Int.lt_add_one_iff.mp (by exact_mod_cast less)

theorem ge {k : Int} (near : Nearest q n) (bound : k ≤ q) : k ≤ n := by
  obtain ⟨-, high⟩ := abs_le.mp near.near
  have less : (k : Rat) < n + 1 := by linarith
  exact Int.lt_add_one_iff.mp (by exact_mod_cast less)

end Nearest

theorem nearestEven_nearest (q : Rat) : Nearest q (nearestEven q) := by
  unfold nearestEven
  split
  · rename_i low
    exact .down (Int.fract_nonneg q) low
  · rename_i high
    rw [not_or, not_lt, not_and] at high
    refine .up (le_of_lt (Int.fract_lt_one q)) ?_
    rcases eq_or_lt_of_le high.1 with half | more
    · exact .inr ⟨half.symm, high.2 half.symm⟩
    · exact .inl more

theorem Nearest.eq_nearestEven {q : Rat} {n : Int} (near : Nearest q n) : nearestEven q = n :=
  (nearestEven_nearest q).unique near

theorem nearestEven_neg (q : Rat) : nearestEven (-q) = -nearestEven q :=
  (nearestEven_nearest q).neg.eq_nearestEven

section
variable {num den : Nat}

theorem div_sub_div (num : Nat) (positive : 0 < den) :
    (num : Rat) / den - (num / den : Nat) = (num % den : Nat) / den := by
  have size : (0 : Rat) < den := Nat.cast_pos.mpr positive
  have whole : (num : Rat) = den * (num / den : Nat) + (num % den : Nat) := by
    exact_mod_cast (Nat.div_add_mod num den).symm
  rw [eq_div_iff size.ne', sub_mul, div_mul_cancel₀ _ size.ne']
  linarith

theorem lt_half_iff (positive : 0 < den) : (num : Rat) / den < 1 / 2 ↔ 2 * num < den := by
  rw [div_lt_div_iff₀ (Nat.cast_pos.mpr positive) two_pos, one_mul, mul_comm]
  exact_mod_cast Iff.rfl

theorem half_lt_iff (positive : 0 < den) : 1 / 2 < (num : Rat) / den ↔ den < 2 * num := by
  rw [div_lt_div_iff₀ two_pos (Nat.cast_pos.mpr positive), one_mul, mul_comm]
  exact_mod_cast Iff.rfl

theorem eq_half_iff (positive : 0 < den) : (num : Rat) / den = 1 / 2 ↔ 2 * num = den := by
  rw [div_eq_div_iff (Nat.cast_pos.mpr positive).ne' two_ne_zero, one_mul, mul_comm]
  exact_mod_cast Iff.rfl

theorem odd_iff (n : Nat) : ¬Even (n : Int) ↔ n % 2 = 1 := by
  rw [Int.even_coe_nat, Nat.not_even_iff]

theorem roundQuotient_nearest (num : Nat) (positive : 0 < den) :
    Nearest ((num : Rat) / den) (roundQuotient .toEven num den) := by
  have size : (0 : Rat) < den := Nat.cast_pos.mpr positive
  have rest : (num : Rat) / den - ((num / den : Nat) : Int) = (num % den : Nat) / den :=
    div_sub_div num positive
  have part : (num % den : Nat) / (den : Rat) ≤ 1 :=
    (div_le_one size).mpr (Nat.cast_le.mpr (Nat.mod_lt num positive).le)
  unfold roundQuotient
  dsimp only
  split
  · rename_i more
    rw [Nat.cast_succ]
    exact .up (rest ▸ part) (.inl (rest ▸ (half_lt_iff positive).mpr more))
  · rename_i notMore
    split
    · rename_i half
      rw [Nat.cast_succ]
      exact .up (rest ▸ part)
        (.inr ⟨rest ▸ (eq_half_iff positive).mpr half.1, (odd_iff _).mpr (half.2.resolve_left nofun)⟩)
    · rename_i notHalf
      refine .down (rest ▸ div_nonneg (Nat.cast_nonneg _) size.le) ?_
      rcases Nat.eq_or_lt_of_le (not_lt.mp notMore) with same | less
      · refine .inr ⟨rest ▸ (eq_half_iff positive).mpr same, ?_⟩
        by_contra odd
        exact notHalf ⟨same, .inr ((odd_iff _).mp odd)⟩
      · exact .inl (rest ▸ (lt_half_iff positive).mpr less)

end

end Labbook
