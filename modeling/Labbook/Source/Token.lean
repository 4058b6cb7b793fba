import Labbook.Source.Literal

namespace Labbook.Source

inductive TokenKind where
  | name
  | literal
  | operator
  | comment
  | lineEnd
  deriving DecidableEq

structure Token where
  kind : TokenKind
  text : String
  start : Nat
  stop : Nat
  -- Blanks in front of it, when it is the first on its line.
  indent : Nat
  -- Bytes in front of it on its line.
  column : Nat

def longOperators : List (List Char) :=
  ["**=", "//=", ">>=", "<<=", "...", "**", "//", ">>", "<<", "<=", ">=", "==", "!=", "<>", "->", "+=",
    "-=", "*=", "/=", "%=", "&=", "|=", "^=", "@=", ":="].map String.toList

-- What starts with a character: its kind, none for what is skipped, and the characters behind the
-- first that belong to it.
def lexeme (c : Char) (rest : List Char) : Option TokenKind × Nat :=
  if c = '\n' then (some .lineEnd, 0)
  else if c = ' ' || c = '\t' || c = '\r' || c = '\x0c' || c = '\uFEFF' then (none, 0)
  else if c = '#' then (some .comment, (rest.takeWhile (· ≠ '\n')).length)
  else if c = '\\' && rest.head? = some '\n' then (none, 1)
  else if c = '\\' && rest.take 2 == ['\r', '\n'] then (none, 2)
  else if isQuote c then (some .literal, stringSize ⟨false, false⟩ c rest)
  else if isNameStart c then
    let word := rest.takeWhile isNameChar
    match stringMarks? (c :: word), rest.drop word.length with
    | some marks, q :: after =>
      if isQuote q then (some .literal, word.length + 1 + stringSize marks q after)
      else (some .name, word.length)
    | _, _ => (some .name, word.length)
  else if c.isDigit || (c = '.' && (rest.head?.map Char.isDigit).getD false) then
    (some .literal, (rest.takeWhile fun d => isNameChar d || d = '.').length)
  else
    match longOperators.find? (·.isPrefixOf (c :: rest)) with
    | some op => (some .operator, op.length - 1)
    | none => (some .operator, 0)

structure Cursor where
  offset : Nat := 0
  depth : Nat := 0
  indent : Nat := 0
  column : Nat := 0

namespace Cursor

-- A tab counts for eight blanks, and a form feed starts the count again.
def pass (cursor : Cursor) (c : Char) : Cursor :=
  if c = '\n' then { cursor with offset := cursor.offset + 1, indent := 0, column := 0 }
  else
    let indent :=
      if c = ' ' then cursor.indent + 1
      else if c = '\t' then cursor.indent + 8
      else if c = '\r' || c = '\x0c' then 0
      else cursor.indent
    { cursor with offset := cursor.offset + 1, indent, column := cursor.column + c.utf8Size }

def bracket (cursor : Cursor) (c : Char) : Cursor :=
  if c = '(' || c = '[' || c = '\x7b' then { cursor with depth := cursor.depth + 1 }
  else if c = ')' || c = ']' || c = '\x7d' then { cursor with depth := cursor.depth - 1 }
  else cursor

end Cursor

def tokensFrom (here : Cursor) (cs : List Char) : List Token :=
  match cs with
  | [] => []
  | c :: rest =>
    let (kind, extra) := lexeme c rest
    let lexemeChars := c :: rest.take extra
    let next := lexemeChars.foldl Cursor.pass here
    let next := if kind = some .operator then next.bracket c else next
    let following := tokensFrom next (rest.drop extra)
    match kind with
    | none => following
    | some kind =>
      if kind = .lineEnd && here.depth != 0 then following
      else
        ⟨kind, String.ofList lexemeChars, here.offset, next.offset, here.indent, here.column⟩ ::
          following
termination_by cs.length
decreasing_by simp only [List.length_drop, List.length_cons]; omega

def tokens (cs : List Char) : List Token := tokensFrom {} cs

end Labbook.Source
