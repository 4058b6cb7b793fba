import Labbook.Number.Decimal

namespace Labbook

structure JsonNumber where
  negative : Bool
  whole : List Nat
  fraction : Option (List Nat)
  power : Option (Bool × List Nat)

inductive Json where
  | null
  | bool (value : Bool)
  | number (value : JsonNumber)
  | string (value : Option String)
  | array (items : List Json)
  | object (fields : List (Option String × Json))

namespace Json

def isSpace (c : Char) : Bool := c = ' ' || c = '\n' || c = '\t' || c = '\r'

def skipSpace (cs : List Char) : List Char := cs.dropWhile isSpace

def digitValue (c : Char) : Nat := c.toNat - '0'.toNat

def takeDigits (cs : List Char) : List Nat × List Char :=
  ((cs.takeWhile Char.isDigit).map digitValue, cs.dropWhile Char.isDigit)

def someDigits (cs : List Char) : Option (List Nat × List Char) :=
  let (digits, rest) := takeDigits cs
  if digits.isEmpty then none else some (digits, rest)

def fractionPart (cs : List Char) : Option (Option (List Nat) × List Char) :=
  match cs with
  | '.' :: rest => (someDigits rest).map fun (digits, rest) => (some digits, rest)
  | _ => some (none, cs)

def powerPart (cs : List Char) : Option (Option (Bool × List Nat) × List Char) :=
  match cs with
  | [] => some (none, cs)
  | c :: rest =>
    if c = 'e' ∨ c = 'E' then
      let (negative, rest) := splitSign rest
      (someDigits rest).map fun (digits, rest) => (some (negative, digits), rest)
    else some (none, cs)

def numberAt (cs : List Char) : Option (JsonNumber × List Char) := do
  let (negative, cs) := match cs with
    | '-' :: rest => (true, rest)
    | _ => (false, cs)
  let (whole, cs) ← someDigits cs
  if 1 < whole.length ∧ whole.head? = some 0 then none
  let (fraction, cs) ← fractionPart cs
  let (power, cs) ← powerPart cs
  return (⟨negative, whole, fraction, power⟩, cs)

def hexValue (c : Char) : Option Nat :=
  if '0' ≤ c ∧ c ≤ '9' then some (c.toNat - '0'.toNat)
  else if 'a' ≤ c ∧ c ≤ 'f' then some (c.toNat - 'a'.toNat + 10)
  else if 'A' ≤ c ∧ c ≤ 'F' then some (c.toNat - 'A'.toNat + 10)
  else none

def codeUnit (a b c d : Char) : Option Nat := do
  return 4096 * (← hexValue a) + 256 * (← hexValue b) + 16 * (← hexValue c) + (← hexValue d)

def shortEscape : Char → Option Nat
  | '"' => some 0x22
  | '\\' => some 0x5C
  | '/' => some 0x2F
  | 'b' => some 0x08
  | 'f' => some 0x0C
  | 'n' => some 0x0A
  | 'r' => some 0x0D
  | 't' => some 0x09
  | _ => none

-- The code points of a string behind its opening quote. An escape yields one unit of UTF-16, marked as
-- such by the flag.
def stringUnits : List Char → Option (List (Bool × Nat) × List Char)
  | [] => none
  | '"' :: rest => some ([], rest)
  | '\\' :: 'u' :: a :: b :: c :: d :: rest => do
    let unit ← codeUnit a b c d
    let (units, rest) ← stringUnits rest
    return ((true, unit) :: units, rest)
  | '\\' :: e :: rest => do
    let point ← shortEscape e
    let (units, rest) ← stringUnits rest
    return ((false, point) :: units, rest)
  | c :: rest =>
    if c.toNat < 0x20 ∨ c = '\\' then none
    else do
      let (units, rest) ← stringUnits rest
      return ((false, c.toNat) :: units, rest)

def isHigh (n : Nat) : Bool := 0xD800 ≤ n && n < 0xDC00

def isLow (n : Nat) : Bool := 0xDC00 ≤ n && n < 0xE000

-- Joins pairs of escaped surrogates; one without its partner is no text.
def joinUnits : List (Bool × Nat) → Option (List Char)
  | [] => some []
  | (true, high) :: (escaped, low) :: rest =>
    if isHigh high then
      if escaped && isLow low then
        (joinUnits rest).map (Char.ofNat (0x10000 + (high - 0xD800) * 0x400 + (low - 0xDC00)) :: ·)
      else none
    else if isLow high then none
    else (joinUnits ((escaped, low) :: rest)).map (Char.ofNat high :: ·)
  | (escaped, n) :: rest =>
    if escaped && (isHigh n || isLow n) then none
    else (joinUnits rest).map (Char.ofNat n :: ·)

def stringAt (cs : List Char) : Option (Option String × List Char) := do
  let (units, rest) ← stringUnits cs
  return ((joinUnits units).map String.ofList, rest)

mutual

-- A value in front of a text, nested no deeper than `depth`.
def valueAt (depth : Nat) (cs : List Char) : Option (Json × List Char) :=
  match depth with
  | 0 => none
  | depth + 1 =>
    match skipSpace cs with
    | 'n' :: 'u' :: 'l' :: 'l' :: rest => some (null, rest)
    | 't' :: 'r' :: 'u' :: 'e' :: rest => some (bool true, rest)
    | 'f' :: 'a' :: 'l' :: 's' :: 'e' :: rest => some (bool false, rest)
    | '"' :: rest => (stringAt rest).map fun (s, rest) => (string s, rest)
    | '[' :: rest =>
      match skipSpace rest with
      | ']' :: rest => some (array [], rest)
      | rest => (itemsAt depth rest).map fun (items, rest) => (array items, rest)
    | '\x7b' :: rest =>
      match skipSpace rest with
      | '\x7d' :: rest => some (object [], rest)
      | rest => (fieldsAt depth rest).map fun (fields, rest) => (object fields, rest)
    | cs => (numberAt cs).map fun (n, rest) => (number n, rest)

def itemsAt (depth : Nat) (cs : List Char) : Option (List Json × List Char) :=
  match depth with
  | 0 => none
  | depth + 1 => do
    let (item, rest) ← valueAt depth cs
    match skipSpace rest with
    | ']' :: rest => return ([item], rest)
    | ',' :: rest =>
      let (items, rest) ← itemsAt depth rest
      return (item :: items, rest)
    | _ => none

def fieldsAt (depth : Nat) (cs : List Char) : Option (List (Option String × Json) × List Char) :=
  match depth with
  | 0 => none
  | depth + 1 =>
    match skipSpace cs with
    | '"' :: rest => do
      let (key, rest) ← stringAt rest
      match skipSpace rest with
      | ':' :: rest =>
        let (value, rest) ← valueAt depth rest
        match skipSpace rest with
        | '\x7d' :: rest => return ([(key, value)], rest)
        | ',' :: rest =>
          let (fields, rest) ← fieldsAt depth rest
          return ((key, value) :: fields, rest)
        | _ => none
      | _ => none
    | _ => none

end

-- The value of a text that holds nothing else. Every level of nesting takes a character.
def read? (text : String) : Option Json := do
  let cs := text.toList
  let (value, rest) ← valueAt (2 * cs.length + 2) cs
  if (skipSpace rest).isEmpty then some value else none

def escape (c : Char) : List Char :=
  if c = '"' then ['\\', '"']
  else if c = '\\' then ['\\', '\\']
  else if c = '\n' then ['\\', 'n']
  else if c = '\r' then ['\\', 'r']
  else if c = '\t' then ['\\', 't']
  else if c.toNat = 0x08 then ['\\', 'b']
  else if c.toNat = 0x0C then ['\\', 'f']
  else if c.toNat < 0x20 then
    let digits := Nat.toDigits 16 c.toNat
    '\\' :: 'u' :: List.replicate (4 - digits.length) '0' ++ digits
  else [c]

def writeString (text : String) : String :=
  String.ofList ('"' :: text.toList.flatMap escape ++ ['"'])

def writeTexts (fields : List (String × String)) : String :=
  if fields.isEmpty then "\x7b\x7d"
  else
    let lines := fields.map fun (name, text) =>
      "  " ++ writeString name ++ ": " ++ writeString text
    "\x7b\n" ++ ",\n".intercalate lines ++ "\n\x7d"

end Json

end Labbook
