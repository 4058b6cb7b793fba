namespace Labbook.Source

def isNameStart (c : Char) : Bool := c.isAlpha || c = '_' || 128 ≤ c.toNat

def isNameChar (c : Char) : Bool := c.isAlphanum || c = '_' || 128 ≤ c.toNat

def isQuote (c : Char) : Bool := c = '"' || c = '\''

structure StringMarks where
  raw : Bool
  formatted : Bool

def stringMarks? (word : List Char) : Option StringMarks :=
  let lower := String.ofList (word.map Char.toLower)
  if ["", "r", "u", "b", "f", "br", "rb", "fr", "rf"].contains lower then
    some ⟨lower.contains 'r', lower.contains 'f'⟩
  else none

inductive Frame where
  | quoted (quote : Char) (triple : Bool) (marks : StringMarks)
  -- A replacement field, with its open brackets and the word that is being read, last letter first.
  | field (depth : Nat) (word : List Char)
  | spec
  | remark

-- What is open behind one character, and how many characters are passed over with it.
structure Move where
  stack : List Frame
  skip : Nat := 0

def startsTriple (quote : Char) (rest : List Char) : Bool := rest.take 2 == [quote, quote]

def quotedMove (quote : Char) (triple : Bool) (marks : StringMarks) (outer : List Frame) (c : Char)
    (rest : List Char) : Move :=
  let stay := Frame.quoted quote triple marks :: outer
  if c = '\\' then
    if marks.formatted && (rest.head? = some '\x7b' || rest.head? = some '\x7d') then ⟨stay, 0⟩
    else if marks.formatted && !marks.raw && rest.take 2 == ['N', '\x7b'] then
      ⟨stay, (rest.takeWhile (· ≠ '\x7d')).length + 1⟩
    else ⟨stay, 1⟩
  else if c = quote then
    if !triple then ⟨outer, 0⟩
    else if startsTriple quote rest then ⟨outer, 2⟩
    else ⟨stay, 0⟩
  else if c = '\x7b' && marks.formatted then
    if rest.head? = some '\x7b' then ⟨stay, 1⟩ else ⟨.field 0 [] :: stay, 0⟩
  else ⟨stay, 0⟩

def openString (marks : StringMarks) (c : Char) (rest : List Char) (outer : List Frame) : Move :=
  if startsTriple c rest then ⟨.quoted c true marks :: outer, 2⟩ else ⟨.quoted c false marks :: outer, 0⟩

def fieldMove (depth : Nat) (word : List Char) (outer : List Frame) (c : Char) (rest : List Char) :
    Move :=
  if isQuote c then
    openString ((stringMarks? word.reverse).getD ⟨false, false⟩) c rest (.field depth [] :: outer)
  else if c = '#' then ⟨.remark :: .field depth [] :: outer, 0⟩
  else if c = '(' || c = '[' || c = '\x7b' then ⟨.field (depth + 1) [] :: outer, 0⟩
  else if c = ')' || c = ']' then ⟨.field (depth - 1) [] :: outer, 0⟩
  else if c = '\x7d' then
    if depth = 0 then ⟨outer, 0⟩ else ⟨.field (depth - 1) [] :: outer, 0⟩
  else if c = ':' && depth = 0 then ⟨.spec :: outer, 0⟩
  else if isNameChar c then ⟨.field depth (c :: word) :: outer, 0⟩
  else ⟨.field depth [] :: outer, 0⟩

def move (stack : List Frame) (c : Char) (rest : List Char) : Move :=
  match stack with
  | [] => ⟨[], 0⟩
  | .quoted quote triple marks :: outer => quotedMove quote triple marks outer c rest
  | .field depth word :: outer => fieldMove depth word outer c rest
  | .spec :: outer =>
    if c = '\x7b' then ⟨.field 0 [] :: .spec :: outer, 0⟩
    else if c = '\x7d' then ⟨outer, 0⟩
    else ⟨.spec :: outer, 0⟩
  | .remark :: outer => if c = '\n' then ⟨outer, 0⟩ else ⟨.remark :: outer, 0⟩

def closeSize (skip : Nat) (stack : List Frame) : List Char → Nat
  | [] => 0
  | c :: rest =>
    match skip with
    | skip + 1 => 1 + closeSize skip stack rest
    | 0 =>
      if stack.isEmpty then 0
      else
        let next := move stack c rest
        1 + closeSize next.skip next.stack rest

def stringSize (marks : StringMarks) (c : Char) (rest : List Char) : Nat :=
  let opened := openString marks c rest []
  closeSize opened.skip opened.stack rest

end Labbook.Source
