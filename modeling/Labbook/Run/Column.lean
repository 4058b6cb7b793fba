import Labbook.Data.Record
import Labbook.Number.Decimal
import Labbook.Text.Blank

namespace Labbook

namespace ComplexSample

-- Cuts at the first sign that neither opens the text nor belongs to an exponent. `before` is what has
-- been read, last character first.
def cutAtSign (before : List Char) : List Char → Option (List Char × Bool × List Char)
  | [] => none
  | c :: rest =>
    let opens := before.isEmpty
    let inExponent := before.head? = some 'e' ∨ before.head? = some 'E'
    if (c = '+' ∨ c = '-') ∧ ¬ opens ∧ ¬ inExponent then some (before.reverse, c = '-', rest)
    else cutAtSign (c :: before) rest

-- The real part, zero minus it where its sign is a separator's.
def readPart (negative : Bool) (cs : List Char) : Option Binary64 :=
  (Binary64.read? (String.ofList cs)).map fun x => if negative then 0 - x else x

def readImaginary (negative : Bool) (cs : List Char) : Option Binary64 :=
  let digits := cs.dropLast
  readPart negative
    (if digits = [] ∨ digits = ['+'] then ['1']
     else if digits = ['-'] then ['-', '1']
     else digits)

-- A sum of a real and an imaginary part in either order, or one of them. The imaginary unit is `j` in
-- a text that has a `j`, else `i`; a real number alone has the imaginary part `0i`.
def readSum (cs : List Char) : Option ComplexSample := do
  let unit := if cs.contains 'j' then 'j' else 'i'
  let (a, negative, b) ← match cutAtSign [] cs with
    | none => some (cs, false, if cs.getLast? = some unit then ['0'] else ['0', 'i'])
    | some (before, negative, after) =>
      let b := after.dropWhile isBlank
      if b.isEmpty ∨ (negative ∧ b.head? = some '-') then none
      else some (dropEndBlanks before, negative, b)
  if a.getLast? = some unit then
    return ⟨← readPart negative b, ← readImaginary false a⟩
  else if b.getLast? = some unit then
    return ⟨← readPart false a, ← readImaginary negative b⟩
  else none

def read? (text : String) : Option ComplexSample :=
  let opened := text.toList.dropWhile (· = '(')
  readSum (opened.reverse.dropWhile (· = ')')).reverse

end ComplexSample

def RecordData.ofFields (fields : List String) : RecordData :=
  let filled := fields.filter fun f => !f.isEmpty
  if filled.all fun f => (Binary64.read? f).isSome then
    .numeric (Tensor.ofList (fields.map fun f => (Binary64.read? f).getD .nan))
  else if filled.all fun f => (ComplexSample.read? f).isSome then
    .complex (Tensor.ofList (fields.map fun f => (ComplexSample.read? f).getD ⟨.nan, .nan⟩))
  else .text (Tensor.ofList fields)

end Labbook
