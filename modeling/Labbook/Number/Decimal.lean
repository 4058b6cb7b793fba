import Labbook.Number.Digits

namespace Labbook

def readDigits (cs : List Char) : Option Nat :=
  if cs.isEmpty || !cs.all Char.isDigit then none
  else some (cs.foldl (fun n c => 10 * n + (c.toNat - '0'.toNat)) 0)

-- A natural number below `bound`: an optional plus sign and ASCII digits.
def readNatural (bound : Nat) (text : String) : Option Nat :=
  let digits := match text.toList with
    | '+' :: rest => rest
    | cs => cs
  (readDigits digits).filter (· < bound)

def splitSign : List Char → Bool × List Char
  | '-' :: rest => (true, rest)
  | '+' :: rest => (false, rest)
  | cs => (false, cs)

namespace Binary64

def readUnsigned (cs : List Char) : Option Binary64 :=
  let whole := cs.takeWhile Char.isDigit
  let rest := cs.dropWhile Char.isDigit
  let (fraction, rest) := match rest with
    | '.' :: more => (more.takeWhile Char.isDigit, more.dropWhile Char.isDigit)
    | _ => ([], rest)
  (readDigits (whole ++ fraction)).bind fun digits =>
    let places := Int.ofNat fraction.length
    match rest with
    | [] => some (ofDecimal digits (-places))
    | e :: more =>
      if e = 'e' ∨ e = 'E' then
        let (negative, power) := splitSign more
        (readDigits power).map fun n =>
          let power := if negative then -Int.ofNat n else Int.ofNat n
          ofDecimal digits (power - places)
      else none

-- Reads an optional sign, then `inf`, `infinity` or `nan` in any case, or a decimal number.
def read? (text : String) : Option Binary64 :=
  let (negative, cs) := splitSign text.toList
  let word := String.ofList (cs.map Char.toLower)
  let value :=
    if word = "inf" ∨ word = "infinity" then some infinity
    else if word = "nan" then some nan
    else readUnsigned cs
  value.map fun x => if negative then x.negate else x

def pointed : List Char → List Char
  | [] => []
  | [d] => [d]
  | d :: rest => d :: '.' :: rest

-- The fewest digits that read back, with one digit before the point and a bare exponent.
def scientific (x : Binary64) : String :=
  if x.isNaN then "NaN"
  else
    let sign := if x.isNegative then "-" else ""
    let size :=
      if x.isInfinite then "inf"
      else if x.isZero then "0e0"
      else
        let d := Digits.shortest x
        String.ofList (pointed d.chars) ++ "e" ++ toString d.exponent
    sign ++ size

end Binary64

end Labbook
