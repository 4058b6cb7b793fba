import Labbook.Number.Fraction
import Labbook.Number.Word

namespace Labbook

structure Binary64 where
  bits : UInt64
  deriving DecidableEq, Hashable, Inhabited

namespace Binary64

def ofFloat (x : Float) : Binary64 := ⟨x.toBits⟩

def toFloat (x : Binary64) : Float := Float.ofBits x.bits

def magnitude (x : Binary64) : UInt64 := x.bits &&& 0x7FFFFFFFFFFFFFFF

def isNegative (x : Binary64) : Bool := x.bits &&& 0x8000000000000000 != 0

def isNaN (x : Binary64) : Bool := 0x7FF0000000000000 < x.magnitude

def isInfinite (x : Binary64) : Bool := x.magnitude == 0x7FF0000000000000

def isFinite (x : Binary64) : Bool := x.magnitude < 0x7FF0000000000000

def isZero (x : Binary64) : Bool := x.magnitude == 0

-- The quiet NaN without a sign: the mark of a point that was not measured.
def nan : Binary64 := ⟨0x7FF8000000000000⟩

def infinity : Binary64 := ⟨0x7FF0000000000000⟩

def negate (x : Binary64) : Binary64 := ⟨x.bits ^^^ 0x8000000000000000⟩

def absolute (x : Binary64) : Binary64 := ⟨x.magnitude⟩

-- Position of a word in the total order: negative NaN, negative numbers, -0, 0, positive numbers, NaN.
def orderIndex (x : Binary64) : UInt64 :=
  if x.isNegative then ~~~x.bits else x.bits ||| 0x8000000000000000

def valueIndex (x : Binary64) : UInt64 :=
  if x.isZero then 0x8000000000000000 else x.orderIndex

def precedes (a b : Binary64) : Bool := a.orderIndex ≤ b.orderIndex

-- Equality of values: both zeros are equal, a NaN equals nothing.
def equals (a b : Binary64) : Bool :=
  !a.isNaN && !b.isNaN && a.valueIndex == b.valueIndex

def below (a b : Binary64) : Bool :=
  !a.isNaN && !b.isNaN && a.valueIndex < b.valueIndex

def atMost (a b : Binary64) : Bool :=
  !a.isNaN && !b.isNaN && a.valueIndex ≤ b.valueIndex

instance : LT Binary64 := ⟨fun a b => a.below b = true⟩
instance : LE Binary64 := ⟨fun a b => a.atMost b = true⟩
instance (a b : Binary64) : Decidable (a < b) := inferInstanceAs (Decidable (a.below b = true))
instance (a b : Binary64) : Decidable (a ≤ b) := inferInstanceAs (Decidable (a.atMost b = true))

def hiddenBit : Nat := 0x10000000000000

-- The exact value of a finite word is `(-1)^sign * mantissa * 2^exponent`.
def mantissa (x : Binary64) : Nat :=
  let fraction := (x.magnitude &&& 0x000FFFFFFFFFFFFF).toNat
  if x.magnitude >>> 52 == 0 then fraction else fraction + hiddenBit

def exponent (x : Binary64) : Int :=
  let field := (x.magnitude >>> 52).toNat
  if field = 0 then -1074 else Int.ofNat field - 1075

-- The word with the given sign nearest to `mantissa * 2^exponent`, a tie going to the even mantissa.
-- What is too large becomes an infinity.
def ofBinary (negative : Bool) (mantissa : Nat) (exponent : Int) : Binary64 :=
  let size := Int.ofNat (Nat.log2 mantissa)
  let lowest := max (size - 52 + exponent) (-1074)
  let rounded := match lowest - exponent with
    | .ofNat n => roundQuotient .toEven mantissa (Nat.pow 2 n)
    | .negSucc n => mantissa * Nat.pow 2 (n + 1)
  let word :=
    if mantissa = 0 then 0
    else if 1100 < size + exponent then 0x7FF0000000000000
    else min ((lowest + 1074).toNat * hiddenBit + rounded) 0x7FF0000000000000
  let bits := UInt64.ofNat word
  ⟨if negative then bits ||| 0x8000000000000000 else bits⟩

-- The word nearest to a fraction. A quotient of more than 54 bits is enough to round from when its
-- last bit says whether anything is left.
def ofFraction (negative : Bool) (q : Fraction) : Binary64 :=
  let scale := Nat.log2 q.den + 57 - Nat.log2 q.num
  let num := q.num * Nat.pow 2 scale
  let sticky := if num % q.den = 0 then 0 else 1
  ofBinary negative (2 * (num / q.den) + sticky) (-Int.ofNat scale - 1)

def ofNat (n : Nat) : Binary64 := ofBinary false n 0

def wholePart (x : Binary64) : Nat :=
  match x.exponent with
  | .ofNat n => x.mantissa * Nat.pow 2 n
  | .negSucc n => x.mantissa / Nat.pow 2 (n + 1)

def hasFraction (x : Binary64) : Bool :=
  match x.exponent with
  | .ofNat _ => false
  | .negSucc n => x.mantissa % Nat.pow 2 (n + 1) != 0

def toWhole (x : Binary64) (whole : Nat) : Binary64 :=
  if x.isFinite && x.hasFraction then ofBinary x.isNegative whole 0 else x

def floor (x : Binary64) : Binary64 :=
  x.toWhole (if x.isNegative then x.wholePart + 1 else x.wholePart)

def ceil (x : Binary64) : Binary64 :=
  x.toWhole (if x.isNegative then x.wholePart else x.wholePart + 1)

def round (x : Binary64) : Binary64 :=
  x.toWhole (match x.exponent with
    | .ofNat _ => x.wholePart
    | .negSucc n => roundQuotient .up x.mantissa (Nat.pow 2 (n + 1)))

-- The whole part as a natural number below `bound`: zero for negative numbers and NaN, the largest for
-- what is too large.
def toNatBelow (bound : Nat) (x : Binary64) : Nat :=
  if x.isNaN || x.isNegative then 0
  else if x.isInfinite then bound - 1
  else min x.wholePart (bound - 1)

def toNat (x : Binary64) : Nat := x.toNatBelow Word.bound64

-- The whole part as a 32-bit integer, at the nearer end outside its range, zero for NaN.
def toInt32 (x : Binary64) : Int :=
  if x.isNegative then -Int.ofNat (x.absolute.toNatBelow 0x80000001)
  else Int.ofNat (x.toNatBelow 0x80000000)

instance : Add Binary64 := ⟨fun a b => ofFloat (a.toFloat + b.toFloat)⟩
instance : Sub Binary64 := ⟨fun a b => ofFloat (a.toFloat - b.toFloat)⟩
instance : Mul Binary64 := ⟨fun a b => ofFloat (a.toFloat * b.toFloat)⟩
instance : Div Binary64 := ⟨fun a b => ofFloat (a.toFloat / b.toFloat)⟩
instance : Neg Binary64 := ⟨negate⟩

def ofDecimal (digits : Nat) (exponent : Int) : Binary64 :=
  let size := Int.ofNat (Nat.toDigits 10 digits).length + exponent
  if digits = 0 ∨ size < -330 then ⟨0⟩
  else if 330 < size then infinity
  else ofFraction false (Fraction.shift ⟨digits, 1⟩ exponent)

instance : OfScientific Binary64 :=
  ⟨fun digits shift exponent =>
    ofDecimal digits (if shift then -Int.ofNat exponent else Int.ofNat exponent)⟩

instance (n : Nat) : OfNat Binary64 n := ⟨ofNat n⟩

-- The length of the hypotenuse: the word nearest to the square root of the exact sum of squares. An
-- infinite side wins over a NaN.
def hypotenuse (a b : Binary64) : Binary64 :=
  if a.isInfinite || b.isInfinite then infinity
  else if a.isNaN then a.absolute
  else if b.isNaN then b.absolute
  else
    let low := min a.exponent b.exponent
    let side (x : Binary64) : Nat := x.mantissa * Nat.pow 2 (x.exponent - low).toNat
    let sum := side a * side a + side b * side b
    let scale := 60 - Nat.log2 sum / 2
    let root := rootFloor (sum * Nat.pow 4 scale)
    let sticky := if root * root = sum * Nat.pow 4 scale then 0 else 1
    ofBinary false (2 * root + sticky) (low - Int.ofNat scale - 1)

def angle (y x : Binary64) : Binary64 := ofFloat (Float.atan2 y.toFloat x.toFloat)

end Binary64

end Labbook
