import Labbook.Error
import Labbook.Text.Blank

namespace Labbook

structure Rgb where
  red : UInt8
  green : UInt8
  blue : UInt8
  deriving DecidableEq, Inhabited

namespace Rgb

def white : Rgb := ⟨255, 255, 255⟩
def black : Rgb := ⟨0, 0, 0⟩
def pureRed : Rgb := ⟨255, 0, 0⟩

def series : Rgb := ⟨0x19, 0x76, 0xD2⟩

def ofCode (code : Nat) : Rgb :=
  ⟨UInt8.ofNat (code / 65536), UInt8.ofNat (code / 256), UInt8.ofNat code⟩

def hexPair (n : UInt8) : List Char :=
  let digits := (Nat.toDigits 16 n.toNat).map Char.toUpper
  List.replicate (2 - digits.length) '0' ++ digits

def hex (c : Rgb) : String :=
  String.ofList ('#' :: hexPair c.red ++ hexPair c.green ++ hexPair c.blue)

def hexDigit (c : Char) : Option Nat :=
  if '0' ≤ c ∧ c ≤ '9' then some (c.toNat - '0'.toNat)
  else if 'a' ≤ c ∧ c ≤ 'f' then some (c.toNat - 'a'.toNat + 10)
  else if 'A' ≤ c ∧ c ≤ 'F' then some (c.toNat - 'A'.toNat + 10)
  else none

-- Two characters as a channel: hexadecimal digits, the first of which may be a plus sign.
def channel (a b : Char) : Option UInt8 := do
  let high ← if a = '+' then some 0 else hexDigit a
  let low ← hexDigit b
  return UInt8.ofNat (16 * high + low)

-- Takes the two bytes of a channel. A character of two bytes is no channel, and a longer one, or one
-- that starts at the second byte, is cut.
def takeChannel (text : String) : List Char → Outcome (UInt8 × List Char)
  | [] => .error (.invalidColor text)
  | a :: rest =>
    if a.utf8Size = 1 then
      match rest with
      | [] => .error (.invalidColor text)
      | b :: rest =>
        if b.utf8Size = 1 then
          match channel a b with
          | some value => .ok (value, rest)
          | none => .error (.invalidColor text)
        else .error (.colorCut text)
    else if a.utf8Size = 2 then .error (.invalidColor text)
    else .error (.colorCut text)

-- Reads six bytes of hexadecimal digits, blanks around and number signs in front set aside.
def read (text : String) : Outcome Rgb := do
  let digits := (trimBlanks text.toList).dropWhile (· = '#')
  if (String.ofList digits).utf8ByteSize ≠ 6 then throw (.invalidColor text)
  let (red, rest) ← takeChannel text digits
  let (green, rest) ← takeChannel text rest
  let (blue, _) ← takeChannel text rest
  return ⟨red, green, blue⟩

end Rgb

end Labbook
