import Labbook.Number.TickText
import Labbook.Proofs.Number.Numeral
import Mathlib.Algebra.Order.Ring.Rat
import Mathlib.Tactic.NormNum
import Mathlib.Tactic.Ring

namespace Labbook

open Numeral

namespace Digits

theorem padded_isDigits (width n : Nat) : isDigits (padded width n) := by
  refine List.all_eq_true.mpr fun c member => ?_
  rcases List.mem_append.mp member with fill | digit
  · rw [List.eq_of_mem_replicate fill]
    rfl
  · exact Nat.isDigit_of_mem_toDigits (by decide) (by decide) digit

theorem padded_value (width n : Nat) : digitsValue (padded width n) = n := by
  unfold padded
  rw [digitsValue_append, digitsValue_zeros, Nat.zero_mul, Nat.zero_add]
  exact Nat.ofDigitChars_ten_toDigits

theorem padded_length (width n : Nat) :
    (padded width n).length = max width (Nat.toDigits 10 n).length := by
  unfold padded
  rw [List.length_append, List.length_replicate]
  omega

theorem padded_length_eq {width n : Nat} (nonempty : 0 < width) (fits : n < 10 ^ width) :
    (padded width n).length = width := by
  rw [padded_length, Nat.max_eq_left ((Nat.length_toDigits_le_iff (by decide) nonempty).mpr fits)]

end Digits

namespace TickText

def trimmed (fraction : List Char) : Option (List Char) :=
  let kept := (fraction.reverse.dropWhile (· = '0')).reverse
  if kept.isEmpty then none else some kept

theorem trimmed_getD (fraction : List Char) :
    (trimmed fraction).getD [] = (fraction.reverse.dropWhile (· = '0')).reverse := by
  unfold trimmed
  dsimp only
  split
  · rename_i empty
    exact (List.isEmpty_iff.mp empty).symm
  · rfl

theorem trimmed_split (fraction : List Char) :
    ∃ zeros, fraction = (trimmed fraction).getD [] ++ List.replicate zeros '0' := by
  refine ⟨(fraction.reverse.takeWhile (· = '0')).length, ?_⟩
  have zeros : fraction.reverse.takeWhile (· = '0') =
      List.replicate (fraction.reverse.takeWhile (· = '0')).length '0' :=
    List.eq_replicate_of_mem fun c member =>
      of_decide_eq_true (List.all_eq_true.mp List.all_takeWhile c member)
  have split := List.takeWhile_append_dropWhile (p := (· = '0')) (l := fraction.reverse)
  rw [trimmed_getD, ← List.reverse_replicate, ← zeros, ← List.reverse_append, split,
    List.reverse_reverse]

theorem trimmed_last {fraction digits : List Char} (kept : trimmed fraction = some digits) :
    digits ≠ [] ∧ digits.getLast? ≠ some '0' := by
  unfold trimmed at kept
  dsimp only at kept
  split at kept
  · cases kept
  · rename_i solid
    cases kept
    refine ⟨fun empty => solid (List.isEmpty_iff.mpr empty), fun last => ?_⟩
    rw [List.getLast?_reverse] at last
    have first := List.head?_dropWhile_not (· = '0') fraction.reverse
    rw [last] at first
    exact absurd first (by decide)

theorem trimmed_digits {fraction digits : List Char} (fits : isDigits fraction)
    (kept : trimmed fraction = some digits) : isDigits digits := by
  obtain ⟨zeros, split⟩ := trimmed_split fraction
  rw [kept] at split
  refine List.all_eq_true.mpr fun c member => List.all_eq_true.mp fits c ?_
  rw [split]
  exact List.mem_append_left _ member

theorem ne_point {c : Char} (digit : c.isDigit = true) : c ≠ '.' := by
  rintro rfl
  cases digit

theorem dropWhile_point {digits : List Char} (fits : isDigits digits) :
    digits.dropWhile (· = '.') = digits := by
  cases digits with
  | nil => rfl
  | cons c rest =>
    have digit := ne_point (List.all_eq_true.mp fits c List.mem_cons_self)
    exact List.dropWhile_cons_of_neg (by simpa using digit)

theorem dropFractionZeros_whole {whole : List Char} (fits : isDigits whole) :
    dropFractionZeros whole = whole := by
  refine if_neg fun point => ?_
  exact ne_point (List.all_eq_true.mp fits _ (List.contains_iff_mem.mp point)) rfl

theorem dropFractionZeros_point {whole fraction : List Char} (fits : isDigits whole)
    (behind : isDigits fraction) : dropFractionZeros (whole ++ '.' :: fraction) =
      whole ++ fractionChars (trimmed fraction) := by
  have point : (whole ++ '.' :: fraction).contains '.' = true :=
    List.contains_iff_mem.mpr (List.mem_append_right _ List.mem_cons_self)
  have reversed : (whole ++ '.' :: fraction).reverse = fraction.reverse ++ '.' :: whole.reverse := by
    rw [List.reverse_append, List.reverse_cons, List.append_assoc, List.singleton_append]
  unfold dropFractionZeros trimmed
  rw [if_pos point, reversed]
  dsimp only
  rw [List.dropWhile_append]
  cases kept : fraction.reverse.dropWhile (· = '0') with
  | nil =>
    -- Nothing but zeros: the point goes with them.
    have start : whole.reverse.dropWhile (· = '.') = whole.reverse :=
      dropWhile_point (by rwa [isDigits, List.all_reverse])
    rw [List.isEmpty_nil, if_pos rfl, List.dropWhile_cons_of_neg (by decide),
      List.dropWhile_cons_of_pos (by decide), start, List.reverse_reverse]
    exact (List.append_nil whole).symm
  | cons last others =>
    have member : last ∈ fraction.reverse.dropWhile (· = '0') := kept ▸ List.mem_cons_self
    have digit := ne_point (List.all_eq_true.mp behind last
      (List.mem_reverse.mp ((List.dropWhile_sublist _).subset member)))
    rw [List.isEmpty_cons, if_neg Bool.false_ne_true, List.cons_append,
      List.dropWhile_cons_of_neg (by simpa using digit), if_neg (by simp), ← List.cons_append,
      List.reverse_append, List.reverse_cons, List.reverse_reverse, List.append_assoc]
    rfl

-- Digits on both sides of the point, without the zeros at the end.
def numeral (whole fraction : List Char) (power : Option PowerOfTen) : Numeral :=
  ⟨none, whole, trimmed fraction, power⟩

theorem numeral_magnitude (whole fraction : List Char) (power : Option PowerOfTen) :
    (numeral whole fraction power).magnitude =
      digitsValue (whole ++ fraction) * 10 ^ (exponent power - fraction.length) := by
  obtain ⟨zeros, split⟩ := trimmed_split fraction
  have places : (10 : Rat) ^ (exponent power - ((trimmed fraction).getD []).length) =
      10 ^ zeros * 10 ^ (exponent power - fraction.length) := by
    rw [← zpow_natCast, ← zpow_add₀ (by norm_num)]
    congr 1
    have counted := congrArg List.length split
    rw [List.length_append, List.length_replicate] at counted
    omega
  have value : digitsValue (whole ++ fraction) =
      digitsValue (whole ++ (trimmed fraction).getD []) * 10 ^ zeros := by
    conv_lhs => rw [split]
    rw [← List.append_assoc, digitsValue_append, digitsValue_zeros, List.length_replicate, Nat.add_zero]
  change (digitsValue (whole ++ (trimmed fraction).getD []) : Rat) *
    10 ^ (exponent power - ((trimmed fraction).getD []).length) = _
  rw [places, value]
  push_cast
  ring

theorem numeral_proper {whole fraction : List Char} {power : Option PowerOfTen} (nonempty : whole ≠ [])
    (fits : isDigits whole) (behind : isDigits fraction)
    (raised : ∀ part ∈ power, part.digits ≠ [] ∧ isDigits part.digits) :
    (numeral whole fraction power).Proper where
  nonempty := nonempty
  whole := fits
  fraction := fun _ kept => trimmed_digits behind kept
  power := raised

end TickText

end Labbook
