import Labbook.Number.Binary64

namespace Labbook

-- Decimal digits `d₀d₁…dₙ`, standing for `d₀.d₁…dₙ * 10^exponent`.
structure Digits where
  number : Nat
  count : Nat
  exponent : Int

namespace Digits

-- Rounds a positive fraction to `count` digits. A carry moves the exponent up.
def significant (count : Nat) (q : Fraction) : Digits :=
  let exponent := q.decade
  let scaled := q.shift (Int.ofNat count - 1 - exponent)
  let number := roundQuotient .toEven scaled.num scaled.den
  if number < Nat.pow 10 count then ⟨number, count, exponent⟩
  else ⟨number / 10, count, exponent + 1⟩

def padded (width n : Nat) : List Char :=
  let digits := Nat.toDigits 10 n
  List.replicate (width - digits.length) '0' ++ digits

def chars (d : Digits) : List Char := padded d.count d.number

structure Interval where
  low : Fraction
  high : Fraction
  closed : Bool

def Interval.holds (i : Interval) (q : Fraction) : Bool :=
  if i.closed then i.low.atMost q && q.atMost i.high else i.low.less q && q.less i.high

-- The interval of a positive finite word: half way to either neighbour, ends included when the
-- mantissa is even. Below a power of two the neighbour is only half as far.
def intervalOf (x : Binary64) : Interval :=
  let m := x.mantissa
  let e := x.exponent
  let low :=
    if m = Binary64.hiddenBit ∧ -1074 < e then Fraction.ofBinary (4 * m - 1) (e - 2)
    else Fraction.ofBinary (2 * m - 1) (e - 1)
  ⟨low, Fraction.ofBinary (2 * m + 1) (e - 1), m % 2 = 0⟩

def onGrid (i : Interval) (q : Fraction) (exponent : Int) (count : Nat) : Option Digits :=
  let places := Int.ofNat count - 1 - exponent
  let scaled := q.shift places
  let below := scaled.num / scaled.den
  let above := below + 1
  let value (n : Nat) : Fraction := Fraction.shift ⟨n, 1⟩ (-places)
  let pick (n : Nat) : Digits :=
    if n < Nat.pow 10 count then ⟨n, count, exponent⟩ else ⟨n / 10, count, exponent + 1⟩
  match i.holds (value below), i.holds (value above) with
  | true, true => some (pick (roundQuotient .up scaled.num scaled.den))
  | true, false => some (pick below)
  | false, true => some (pick above)
  | false, false => none

def stripped (d : Digits) : Digits :=
  let kept := (d.chars.reverse.dropWhile (· = '0')).reverse
  let count := max kept.length 1
  ⟨d.number / Nat.pow 10 (d.count - count), count, d.exponent⟩

-- The fewest digits that lie in the interval of a positive finite word; of those the nearest to it, a
-- tie going up. Seventeen digits always suffice.
def shortest (x : Binary64) : Digits :=
  let q := Fraction.ofBinary x.mantissa x.exponent
  let exponent := q.decade
  let interval := intervalOf x
  let found := (List.range 17).findSome? fun n => onGrid interval q exponent (n + 1)
  (found.getD (significant 17 q)).stripped

end Digits

end Labbook
