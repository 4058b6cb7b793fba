import Labbook.Number.Digits

namespace Labbook

namespace TickText

def digitCount : Nat := 6

def dropFractionZeros (cs : List Char) : List Char :=
  if cs.contains '.' then
    let kept := (cs.reverse.dropWhile (· = '0'))
    (kept.dropWhile (· = '.')).reverse
  else cs

-- A positive fraction with `places` digits behind the point, a half going to the even neighbour.
def fixed (places : Nat) (q : Fraction) : List Char :=
  let scaled := q.shift (Int.ofNat places)
  let digits := Digits.padded (places + 1) (roundQuotient .toEven scaled.num scaled.den)
  let whole := digits.take (digits.length - places)
  if places = 0 then whole else whole ++ '.' :: digits.drop (digits.length - places)

-- A positive fraction in tick form. The exponent is that of the rounded number.
def ofFraction (q : Fraction) : List Char :=
  let rounded := Digits.significant digitCount q
  let exponent := rounded.exponent
  if exponent < -4 ∨ Int.ofNat digitCount ≤ exponent then
    let digits := rounded.chars
    let mantissa := dropFractionZeros (digits.take 1 ++ '.' :: digits.drop 1)
    let sign := if exponent < 0 then '-' else '+'
    mantissa ++ 'e' :: sign :: Digits.padded 2 exponent.natAbs
  else
    dropFractionZeros (fixed (Int.ofNat digitCount - 1 - exponent).toNat q)

end TickText

def Binary64.tickText (x : Binary64) : String :=
  if x.isZero then "0"
  else if x.isNaN then "NaN"
  else
    let size :=
      if x.isInfinite then "inf".toList
      else TickText.ofFraction (Fraction.ofBinary x.mantissa x.exponent)
    String.ofList (if x.isNegative then '-' :: size else size)

end Labbook
