import Labbook.Proofs.Number.SignificantDigits
import Labbook.Proofs.Number.TrimmedFraction
import Labbook.Proofs.Number.WordValue

namespace Labbook

namespace TickText

open Numeral

theorem digits_of_sublist {part digits : List Char} (within : part.Sublist digits)
    (fits : isDigits digits) : isDigits part :=
  List.all_eq_true.mpr fun c member => List.all_eq_true.mp fits c (within.subset member)

def powerOf (e : Int) : PowerOfTen :=
  ⟨some (if e < 0 then .minus else .plus), Digits.padded 2 e.natAbs⟩

theorem powerOf_exponent (e : Int) : exponent (some (powerOf e)) = e := by
  change factor (some (if e < 0 then .minus else .plus)) *
    (digitsValue (Digits.padded 2 e.natAbs) : Int) = e
  rw [Digits.padded_value]
  split
  · change -1 * (e.natAbs : Int) = e
    omega
  · change 1 * (e.natAbs : Int) = e
    omega

theorem powerOf_length (e : Int) : 2 ≤ (powerOf e).digits.length := by
  rw [powerOf, Digits.padded_length]
  exact Nat.le_max_left _ _

def scientific (d : Digits) : Numeral :=
  numeral (d.chars.take 1) (d.chars.drop 1) (some (powerOf d.exponent))

theorem scientific_proper {d : Digits} (nonempty : 0 < d.count) : (scientific d).Proper := by
  have fits : isDigits d.chars := Digits.padded_isDigits d.count d.number
  have long : d.chars.length = max d.count _ := Digits.padded_length d.count d.number
  refine numeral_proper ?_ (digits_of_sublist (List.take_sublist _ _) fits)
    (digits_of_sublist (List.drop_sublist _ _) fits) ?_
  · refine List.ne_nil_of_length_pos ?_
    rw [List.length_take]
    omega
  · rintro _ ⟨⟩
    exact ⟨List.ne_nil_of_length_pos (Nat.lt_of_lt_of_le Nat.two_pos (powerOf_length _)),
      Digits.padded_isDigits _ _⟩

theorem scientific_magnitude {count : Nat} {v : Rat} {d : Digits} (nonempty : 0 < count)
    (rounds : Digits.Rounds count v d) : (scientific d).magnitude = toSignificant count v := by
  have length : d.chars.length = count := by
    rw [Digits.chars, rounds.length, Digits.padded_length_eq nonempty rounds.upper]
  have places : d.exponent - ((d.chars.drop 1).length : Int) = d.exponent + 1 - count := by
    rw [List.length_drop, length]
    omega
  rw [scientific, numeral_magnitude, List.take_append_drop, powerOf_exponent, places, ← rounds.value,
    Digits.chars, Digits.padded_value]

theorem scientific_unsigned {d : Digits} : (scientific d).unsigned =
    dropFractionZeros (d.chars.take 1 ++ '.' :: d.chars.drop 1) ++
      'e' :: (if d.exponent < 0 then '-' else '+') :: Digits.padded 2 d.exponent.natAbs := by
  have fits : isDigits d.chars := Digits.padded_isDigits d.count d.number
  have sign : signChars (some (if d.exponent < 0 then .minus else .plus)) =
      [if d.exponent < 0 then '-' else '+'] := by
    split <;> rfl
  rw [dropFractionZeros_point (digits_of_sublist (List.take_sublist _ _) fits)
    (digits_of_sublist (List.drop_sublist _ _) fits), List.append_assoc]
  change _ ++ (_ ++ 'e' :: (signChars (some (if d.exponent < 0 then .minus else .plus)) ++ _)) = _
  rw [sign]
  rfl

-- So many of the digits stand behind the point.
def positional (places n : Nat) : Numeral :=
  let digits := Digits.padded (places + 1) n
  numeral (digits.take (digits.length - places)) (digits.drop (digits.length - places)) none

theorem positional_proper (places n : Nat) : (positional places n).Proper := by
  have fits := Digits.padded_isDigits (places + 1) n
  refine numeral_proper ?_ (digits_of_sublist (List.take_sublist _ _) fits)
    (digits_of_sublist (List.drop_sublist _ _) fits) nofun
  refine List.ne_nil_of_length_pos ?_
  rw [List.length_take, Digits.padded_length]
  omega

theorem positional_magnitude (places n : Nat) :
    (positional places n).magnitude = n * 10 ^ (-places : Int) := by
  have length : ((Digits.padded (places + 1) n).drop
      ((Digits.padded (places + 1) n).length - places)).length = places := by
    rw [List.length_drop, Digits.padded_length]
    omega
  unfold positional
  dsimp only
  rw [numeral_magnitude, List.take_append_drop, Digits.padded_value, length, exponent, Int.zero_sub]

theorem fixed_eq {q : Fraction} (positive : q.Positive) {places n : Nat}
    (near : Nearest (q.value * 10 ^ (places : Int)) n) :
    dropFractionZeros (fixed places q) = (positional places n).unsigned := by
  have fits := Digits.padded_isDigits (places + 1) n
  have rounded : roundQuotient .toEven (q.shift (Int.ofNat places)).num
      (q.shift (Int.ofNat places)).den = n := by
    exact_mod_cast (Fraction.shift_nearest positive places).unique near
  have behind := digits_of_sublist (List.drop_sublist ((Digits.padded (places + 1) n).length - places) _) fits
  have before := digits_of_sublist (List.take_sublist ((Digits.padded (places + 1) n).length - places) _) fits
  unfold fixed positional numeral unsigned
  dsimp only
  rw [rounded]
  split
  · rename_i placeless
    subst placeless
    rw [dropFractionZeros_whole before, Nat.sub_zero, List.drop_length]
    exact (List.append_nil _).symm
  · rw [dropFractionZeros_point before behind]
    exact congrArg _ (List.append_nil _).symm

-- The form in which a rounded value is shown.
structure Shaped (r : Rat) (n : Numeral) : Prop where
  power_iff : n.power.isSome ↔ |r| < 10 ^ (-4 : Int) ∨ 10 ^ 6 ≤ |r|
  power : ∀ power ∈ n.power, power.sign.isSome ∧ 2 ≤ power.digits.length
  fraction : ∀ digits ∈ n.fraction, digits ≠ [] ∧ digits.getLast? ≠ some '0'

theorem outside_iff {count : Nat} {v : Rat} {d : Digits} (nonempty : 0 < count)
    (rounds : Digits.Rounds count v d) : d.exponent < -4 ∨ 6 ≤ d.exponent ↔
      |toSignificant count v| < 10 ^ (-4 : Int) ∨ 10 ^ 6 ≤ |toSignificant count v| := by
  obtain ⟨low, high⟩ := rounds.bounds nonempty
  have positive : 0 < toSignificant count v := lt_of_lt_of_le (tenPow_pos _) low
  have log := log_eq positive low high
  have small := Int.lt_zpow_iff_log_lt (b := 10) (x := -4) (by decide) positive
  have large := Int.zpow_le_iff_le_log (b := 10) (x := 6) (by decide) positive
  rw [abs_of_pos positive, ← log]
  refine or_congr ?_ ?_
  · exact_mod_cast small.symm
  · exact_mod_cast large.symm

theorem ofFraction_numeral {q : Fraction} (positive : q.Positive) : ∃ n : Numeral,
    ofFraction q = n.unsigned ∧ n.Proper ∧ n.magnitude = toSignificant 6 q.value ∧
      Shaped (toSignificant 6 q.value) n := by
  have nonempty : 0 < digitCount := by decide
  have rounds := Digits.significant_rounds nonempty positive
  have outside := outside_iff nonempty rounds
  unfold ofFraction
  dsimp only
  generalize Digits.significant digitCount q = d at rounds outside
  split
  · rename_i far
    refine ⟨scientific d, scientific_unsigned.symm, scientific_proper (rounds.length ▸ nonempty),
      scientific_magnitude nonempty rounds, ?_⟩
    exact {
      power_iff := ⟨fun _ => outside.mp far, fun _ => rfl⟩
      power := by
        rintro _ ⟨⟩
        exact ⟨rfl, powerOf_length _⟩
      fraction := fun _ kept => trimmed_last kept }
  · rename_i near
    obtain ⟨places, counted⟩ : ∃ places : Nat, Int.ofNat digitCount - 1 - d.exponent = places := by
      refine ⟨(5 - d.exponent).toNat, ?_⟩
      change ¬(d.exponent < -4 ∨ (6 : Int) ≤ d.exponent) at near
      change (6 : Int) - 1 - d.exponent = _
      omega
    have again : Nearest (q.value * 10 ^ (places : Int)) d.number := counted ▸ rounds.again
    rw [counted, Int.toNat_natCast, fixed_eq positive again]
    refine ⟨positional places d.number, rfl, positional_proper _ _, ?_, ?_⟩
    · have place : -(places : Int) = d.exponent + 1 - digitCount := by
        rw [← counted, Int.ofNat_eq_natCast]
        ring
      rw [positional_magnitude, place]
      exact rounds.value
    · exact {
        power_iff := ⟨nofun, fun far => absurd (outside.mpr far) near⟩
        power := nofun
        fraction := fun _ kept => trimmed_last kept }

end TickText

namespace Binary64

theorem mantissa_pos {x : Binary64} (nonzero : x.isZero = false) : 0 < x.mantissa := by
  have solid : x.magnitude.toNat ≠ 0 := fun least => by
    have zero : x.magnitude = 0 := UInt64.toNat_inj.mp least
    rw [isZero, zero] at nonzero
    cases nonzero
  rw [mantissa_toNat]
  split <;> omega

theorem value_ofBinary (x : Binary64) : x.value = if x.isNegative
    then -(Fraction.ofBinary x.mantissa x.exponent).value
    else (Fraction.ofBinary x.mantissa x.exponent).value := by
  rw [Fraction.ofBinary_value]
  unfold value
  split
  · exact neg_mul _ _
  · rfl

-- Rounded once to find the exponent and once to write the digits, a value is rounded as if once.
theorem tickText_rounded {x : Binary64} (finite : x.isFinite) (nonzero : x.isZero = false) :
    ∃ n, Numeral.read? x.tickText = some n ∧ n.value = toSignificant 6 x.value ∧
      TickText.Shaped (toSignificant 6 x.value) n := by
  obtain ⟨n, written, proper, exact, shaped⟩ :=
    TickText.ofFraction_numeral (Fraction.ofBinary_positive (mantissa_pos nonzero) x.exponent)
  let signed : Numeral := { n with sign := if x.isNegative then some .minus else none }
  have signedProper : signed.Proper := ⟨proper.nonempty, proper.whole, proper.fraction, proper.power⟩
  have chars : signed.chars = if x.isNegative then '-' :: n.unsigned else n.unsigned := by
    change Numeral.signChars (if x.isNegative then some .minus else none) ++ n.unsigned = _
    split <;> rfl
  have text : x.tickText = String.ofList signed.chars := by
    unfold tickText
    rw [nonzero, not_isNaN_of_isFinite finite, not_isInfinite_of_isFinite finite, chars, ← written]
    rfl
  have value : signed.value = toSignificant 6 x.value := by
    change (Numeral.factor (if x.isNegative then some .minus else none) : Rat) * n.magnitude = _
    rw [value_ofBinary, exact]
    split
    · change ((-1 : Int) : Rat) * _ = _
      rw [Int.cast_neg, Int.cast_one, neg_one_mul, toSignificant_neg]
    · change ((1 : Int) : Rat) * _ = _
      rw [Int.cast_one, one_mul]
  have size : |toSignificant 6 x.value| =
      |toSignificant 6 (Fraction.ofBinary x.mantissa x.exponent).value| := by
    rw [value_ofBinary]
    split
    · rw [toSignificant_neg, abs_neg]
    · rfl
  refine ⟨signed, ?_, value, ?_⟩
  · rw [text]
    exact Numeral.read?_chars signedProper
  · exact ⟨size ▸ shaped.power_iff, shaped.power, shaped.fraction⟩

-- Its size lies just below `0.0001`, but the six digits carry, and the rounded value needs no exponent.
def carried : Binary64 := ⟨0xBF1A36E20F35445E⟩

theorem tickText_rounded_carried : carried.tickText = "-0.0001" ∧
    toSignificant 6 carried.value = -(1 / 10000) ∧
      ∃ n, Numeral.read? "-0.0001" = some n ∧ n.value = toSignificant 6 carried.value ∧
        TickText.Shaped (toSignificant 6 carried.value) n := by
  have text : carried.tickText = "-0.0001" := by decide +kernel
  obtain ⟨n, found, exact, shaped⟩ := tickText_rounded (x := carried) (by decide) (by decide)
  rw [text] at found
  have parts : Numeral.read? "-0.0001" = some ⟨some .minus, ['0'], some ['0', '0', '0', '1'], none⟩ :=
    rfl
  refine ⟨text, ?_, n, found, exact, shaped⟩
  rw [parts] at found
  cases found
  have digits : Numeral.digitsValue ['0', '0', '0', '0', '1'] = 1 := by decide
  rw [← exact]
  change ((-1 : Int) : Rat) * ((Numeral.digitsValue ['0', '0', '0', '0', '1'] : Rat) *
    10 ^ ((0 : Int) - (4 : Nat))) = _
  rw [digits]
  norm_num

end Binary64

end Labbook
