import Mathlib.Algebra.Order.Field.Rat
import Mathlib.Data.Rat.Defs

namespace Labbook

inductive Sign where
  | plus
  | minus

structure PowerOfTen where
  sign : Option Sign
  digits : List Char

-- The text of a number by its parts. A point without digits behind it is a fraction too.
structure Numeral where
  sign : Option Sign
  whole : List Char
  fraction : Option (List Char)
  power : Option PowerOfTen

namespace Numeral

def isDigits (cs : List Char) : Bool := cs.all Char.isDigit

def digitsValue (digits : List Char) : Nat := Nat.ofDigitChars 10 digits 0

theorem digitsValue_append (digits more : List Char) :
    digitsValue (digits ++ more) = digitsValue digits * 10 ^ more.length + digitsValue more := by
  rw [digitsValue, Nat.ofDigitChars_append, Nat.ofDigitChars_eq_ofDigitChars_zero, Nat.mul_comm]
  rfl

theorem digitsValue_zeros (count : Nat) : digitsValue (List.replicate count '0') = 0 := by
  rw [digitsValue, Nat.ofDigitChars_replicate_zero, Nat.mul_zero]

def factor : Option Sign → Int
  | some .minus => -1
  | _ => 1

def exponent : Option PowerOfTen → Int
  | some power => factor power.sign * digitsValue power.digits
  | none => 0

-- The digits on both sides of the point as one whole number, at the place of the last of them.
def magnitude (n : Numeral) : Rat :=
  let behind := n.fraction.getD []
  digitsValue (n.whole ++ behind) * 10 ^ (exponent n.power - behind.length)

def value (n : Numeral) : Rat := factor n.sign * n.magnitude

def readSign : List Char → Option Sign × List Char
  | '+' :: rest => (some .plus, rest)
  | '-' :: rest => (some .minus, rest)
  | cs => (none, cs)

def readFraction : List Char → Option (List Char) × List Char
  | '.' :: rest => (some (rest.takeWhile Char.isDigit), rest.dropWhile Char.isDigit)
  | cs => (none, cs)

def readPower : List Char → Option (Option PowerOfTen)
  | [] => some none
  | 'e' :: rest =>
    let (sign, digits) := readSign rest
    if digits.isEmpty || !isDigits digits then none else some (some ⟨sign, digits⟩)
  | _ => none

def read? (text : String) : Option Numeral :=
  let (sign, unsigned) := readSign text.toList
  let whole := unsigned.takeWhile Char.isDigit
  let (fraction, rest) := readFraction (unsigned.dropWhile Char.isDigit)
  if whole.isEmpty then none
  else (readPower rest).map fun power => ⟨sign, whole, fraction, power⟩

def signChars : Option Sign → List Char
  | none => []
  | some .plus => ['+']
  | some .minus => ['-']

def fractionChars : Option (List Char) → List Char
  | none => []
  | some digits => '.' :: digits

def powerChars : Option PowerOfTen → List Char
  | none => []
  | some power => 'e' :: (signChars power.sign ++ power.digits)

def unsigned (n : Numeral) : List Char := n.whole ++ (fractionChars n.fraction ++ powerChars n.power)

def chars (n : Numeral) : List Char := signChars n.sign ++ n.unsigned

structure Proper (n : Numeral) : Prop where
  nonempty : n.whole ≠ []
  whole : isDigits n.whole
  fraction : ∀ digits ∈ n.fraction, isDigits digits
  power : ∀ power ∈ n.power, power.digits ≠ [] ∧ isDigits power.digits

variable {digits rest : List Char}

theorem readSign_chars (sign : Option Sign) (nonempty : digits ≠ []) (fits : isDigits digits) :
    readSign (signChars sign ++ (digits ++ rest)) = (sign, digits ++ rest) := by
  match sign with
  | some .plus => rfl
  | some .minus => rfl
  | none =>
    obtain ⟨c, cs, rfl⟩ := List.exists_cons_of_ne_nil nonempty
    have digit : c.isDigit = true := List.all_eq_true.mp fits c List.mem_cons_self
    change readSign (c :: (cs ++ rest)) = (none, c :: (cs ++ rest))
    unfold readSign
    split
    · rename_i same
      cases same
      cases digit
    · rename_i same
      cases same
      cases digit
    · rfl

-- Digits are taken up to the first character that is none.
theorem span_digits (fits : isDigits digits) (stops : rest.takeWhile Char.isDigit = []) :
    (digits ++ rest).takeWhile Char.isDigit = digits ∧
      (digits ++ rest).dropWhile Char.isDigit = rest := by
  have all := List.all_eq_true.mp fits
  have nothing : rest.dropWhile Char.isDigit = rest := by
    have whole := List.takeWhile_append_dropWhile (p := Char.isDigit) (l := rest)
    rwa [stops, List.nil_append] at whole
  rw [List.takeWhile_append_of_pos all, List.dropWhile_append_of_pos all, stops, nothing,
    List.append_nil]
  exact ⟨rfl, rfl⟩

theorem powerChars_stops (power : Option PowerOfTen) :
    (powerChars power).takeWhile Char.isDigit = [] := by
  cases power <;> rfl

theorem fractionChars_stops (fraction : Option (List Char)) (power : Option PowerOfTen) :
    (fractionChars fraction ++ powerChars power).takeWhile Char.isDigit = [] := by
  cases fraction with
  | none => exact powerChars_stops power
  | some digits => rfl

theorem readFraction_chars {fraction : Option (List Char)} (power : Option PowerOfTen)
    (fits : ∀ digits ∈ fraction, isDigits digits) :
    readFraction (fractionChars fraction ++ powerChars power) = (fraction, powerChars power) := by
  cases fraction with
  | none => cases power <;> rfl
  | some digits =>
    obtain ⟨taken, left⟩ := span_digits (fits digits rfl) (powerChars_stops power)
    rw [fractionChars, List.cons_append, readFraction, taken, left]

theorem readPower_chars {power : Option PowerOfTen}
    (fits : ∀ part ∈ power, part.digits ≠ [] ∧ isDigits part.digits) :
    readPower (powerChars power) = some power := by
  cases power with
  | none => rfl
  | some part =>
    obtain ⟨nonempty, all⟩ := fits part rfl
    have signed : readSign (signChars part.sign ++ part.digits) = (part.sign, part.digits) := by
      rw [← List.append_nil part.digits]
      exact readSign_chars part.sign nonempty all
    rw [powerChars, readPower, signed]
    exact if_neg (by simp [nonempty, all])

theorem read?_chars {n : Numeral} (proper : n.Proper) : read? (String.ofList n.chars) = some n := by
  obtain ⟨taken, left⟩ := span_digits proper.whole (fractionChars_stops n.fraction n.power)
  unfold read?
  rw [String.toList_ofList, chars, unsigned, readSign_chars n.sign proper.nonempty proper.whole]
  dsimp only
  rw [taken, left, readFraction_chars n.power proper.fraction]
  dsimp only
  rw [readPower_chars proper.power, if_neg (by simp [proper.nonempty])]
  rfl

end Numeral

end Labbook
