import Labbook.Source.Line

namespace Labbook.Source

-- A base class in the head of a class: a name, the last part of a dotted name, or either with
-- subscripts.
inductive BaseExpr where
  | name (text : String)
  | lastOf (text : String)
  | subscript (value : BaseExpr)
  | other
  deriving DecidableEq

inductive Target where
  | selfAttribute (name : String)
  | name (text : String)
  | other
  deriving DecidableEq

inductive Assignment where
  | declared (target : Target)
  | assigned (target : Target) (text : String)
  -- `a = b = value`, the rest being an assignment of its own.
  | chained (target : Target) (rest : Assignment)

namespace Assignment

def target : Assignment → Target
  | declared t | assigned t _ | chained t _ => t

def value? : Assignment → Option String
  | declared _ => none
  | assigned _ text => some text
  | chained _ rest => rest.value?

end Assignment

inductive Statement where
  | assignment (a : Assignment)
  | other
  | functionDef (name : String) (body : List Statement)
  -- `text` runs from the keyword to the end of the body, `column` counts the bytes in front of it.
  | classDef (name : String) (bases : List BaseExpr) (column : Nat) (text : String)
      (body : List Statement)
  -- The body of any other compound statement, or of one of its clauses.
  | block (body : List Statement)

namespace Token

def isOperator (t : Token) (text : String) : Bool := t.kind == .operator && t.text == text

def isWord (t : Token) (text : String) : Bool := t.kind == .name && t.text == text

def opens (t : Token) : Bool := t.isOperator "(" || t.isOperator "[" || t.isOperator "\x7b"

def closes (t : Token) : Bool := t.isOperator ")" || t.isOperator "]" || t.isOperator "\x7d"

def depthAfter (t : Token) (depth : Nat) : Nat :=
  if t.opens then depth + 1 else if t.closes then depth - 1 else depth

end Token

-- Cuts at the first token outside brackets and lambda heads that `stops` accepts.
def cutFrom (stops : Token → Bool) (depth lambdas : Nat) :
    List Token → List Token × Option (Token × List Token)
  | [] => ([], none)
  | t :: rest =>
    if depth = 0 && lambdas = 0 && stops t then ([], some (t, rest))
    else
      let lambdas :=
        if depth = 0 && t.isWord "lambda" then lambdas + 1
        else if depth = 0 && t.isOperator ":" then lambdas - 1
        else lambdas
      let (before, found) := cutFrom stops (t.depthAfter depth) lambdas rest
      (t :: before, found)

def cutAt (stops : Token → Bool) (tokens : List Token) : List Token × Option (Token × List Token) :=
  cutFrom stops 0 0 tokens

-- The parts between the separators outside brackets, `part` holding what has been read of the current
-- one, last first.
def partsFrom (separator : String) (depth : Nat) (part : List Token) : List Token → List (List Token)
  | [] => [part.reverse]
  | t :: rest =>
    if depth = 0 && t.isOperator separator then part.reverse :: partsFrom separator 0 [] rest
    else partsFrom separator (t.depthAfter depth) (t :: part) rest

def parts (separator : String) (tokens : List Token) : List (List Token) :=
  (partsFrom separator 0 [] tokens).filter fun part => !part.isEmpty

def bracketFrom (depth : Nat) : List Token → List Token × List Token
  | [] => ([], [])
  | t :: rest =>
    let after := t.depthAfter depth
    if after = 0 then ([], rest)
    else
      let (inside, outside) := bracketFrom after rest
      (t :: inside, outside)

def constants : List String := ["True", "False", "None"]

def trailers (value : BaseExpr) (depth : Nat) (dotted : Bool) : List Token → BaseExpr
  | [] => if dotted then .other else value
  | t :: rest =>
    if depth ≠ 0 then trailers value (t.depthAfter depth) false rest
    else if dotted then
      if t.kind = .name then trailers (.lastOf t.text) 0 false rest else .other
    else if t.isOperator "." then trailers value 0 true rest
    else if t.isOperator "[" then trailers (.subscript value) 1 false rest
    else if t.isOperator "(" then trailers .other 1 false rest
    else .other

def baseExpr : List Token → BaseExpr
  | [] => .other
  | t :: rest =>
    if t.kind = .name then
      trailers (if constants.contains t.text then .other else .name t.text) 0 false rest
    else if t.kind = .literal then trailers .other 0 false rest
    else if t.opens then trailers .other 1 false rest
    else .other

-- The bases in the head of a class behind its name. Type parameters come before the parentheses.
def basesOf (head : List Token) : List BaseExpr :=
  let head := match head with
    | t :: rest => if t.isOperator "[" then (bracketFrom 1 rest).2 else head
    | [] => []
  match head with
  | t :: rest => if t.isOperator "(" then (parts "," (bracketFrom 1 rest).1).map baseExpr else []
  | [] => []

def slice (source : List Char) (start stop : Nat) : String :=
  String.ofList ((source.drop start).take (stop - start))

def textOf (source : List Char) (tokens : List Token) : String :=
  match tokens.head?, tokens.getLast? with
  | some first, some last => slice source first.start last.stop
  | _, _ => ""

def targetOf : List Token → Target
  | [t] => if t.kind = .name then .name t.text else .other
  | [object, dot, member] =>
    if object.isWord "self" && dot.isOperator "." && member.kind = .name then
      .selfAttribute member.text
    else .other
  | _ => .other

def chainOf (source : List Char) (target : List Token) : List (List Token) → Assignment
  | [] => .declared (targetOf target)
  | [value] => .assigned (targetOf target) (textOf source value)
  | next :: rest => .chained (targetOf target) (chainOf source next rest)

def equalityParts (fuel : Nat) (tokens : List Token) : List (List Token) :=
  match fuel with
  | 0 => [tokens]
  | fuel + 1 =>
    match cutAt (·.isOperator "=") tokens with
    | (before, some (_, after)) => before :: equalityParts fuel after
    | (before, none) => [before]

def statementWords : List String :=
  ["return", "del", "raise", "assert", "import", "from", "global", "nonlocal", "pass", "break",
    "continue"]

def namesType : List Token → Bool
  | t :: next :: _ => t.isWord "type" && next.kind = .name
  | _ => false

def simpleStatement (source : List Char) (tokens : List Token) : Statement :=
  match tokens with
  | [] => .other
  | t :: _ =>
    if (t.kind = .name && statementWords.contains t.text) || namesType tokens then .other
    else match cutAt (fun t => t.isOperator "=" || t.isOperator ":") tokens with
      | (target, some (sign, after)) =>
        let values := equalityParts tokens.length after
        if sign.isOperator "=" then .assignment (chainOf source target values)
        else .assignment (chainOf source target (values.drop 1))
      | (_, none) => .other

def simpleStatements (source : List Char) (tokens : List Token) : List Statement :=
  (parts ";" tokens).map (simpleStatement source)

def blockWords : List String :=
  ["if", "elif", "else", "for", "while", "try", "except", "finally", "with", "async"]

inductive Head where
  | classHead (name : String) (bases : List BaseExpr)
  | functionHead (name : String)
  | matchHead
  | blockHead

def nameOf (tokens : List Token) : String := (tokens.head?.map Token.text).getD ""

-- The head of a compound statement, with the tokens behind its colon. `case` opens one only among the
-- cases of a `match`, and `match` only on a line that ends with the colon.
def headOf? (inMatch : Bool) (tokens : List Token) : Option (Head × List Token) := do
  let t ← tokens.head?
  let (before, colon) := cutAt (·.isOperator ":") tokens
  let (_, body) ← colon
  if t.kind ≠ .name then none
  else if t.text = "class" then
    some (.classHead (nameOf (before.drop 1)) (basesOf (before.drop 2)), body)
  else if t.text = "def" then some (.functionHead (nameOf (before.drop 1)), body)
  else if t.text = "async" && ((before.drop 1).head?.map (·.isWord "def")).getD false then
    some (.functionHead (nameOf (before.drop 2)), body)
  else if blockWords.contains t.text || (inMatch && t.text = "case") then some (.blockHead, body)
  else if t.text = "match" && body.isEmpty && 2 ≤ before.length then some (.matchHead, body)
  else none

-- Where the text of a block ends: behind its last line, or behind the last of the comments that follow
-- it and are indented like the block.
def blockStop (remarks : List Token) (first last : Line) (next : Option Line) : Nat :=
  let following := remarks.filter fun r =>
    decide (last.stop ≤ r.start) && match next with
      | some line => decide (r.start < line.first.start)
      | none => true
  match (following.takeWhile fun r => decide (first.indent ≤ r.indent)).getLast? with
  | some r => r.stop
  | none => last.stop

def stopOf (remarks : List Token) (line : Line) (inside : List Line) (next : Option Line) : Nat :=
  match inside.head?, inside.getLast? with
  | some first, some last => blockStop remarks first last next
  | _, _ => line.stop

def compound (source : List Char) (line : Line) (stop : Nat) (body : List Statement) : Head → Statement
  | .classHead name bases =>
    .classDef name bases line.first.column (slice source line.first.start stop) body
  | .functionHead name => .functionDef name body
  | .matchHead | .blockHead => .block body

def Head.isMatch : Head → Bool
  | .matchHead => true
  | _ => false

-- The statements of a list of lines, which `after` follows. The lines that are indented deeper than a
-- head form its body; decorators belong to the definition behind them and are left out.
def statementsFrom (source : List Char) (remarks : List Token) (inMatch : Bool)
    (after : Option Line) : List Line → List Statement
  | [] => []
  | line :: rest =>
    let inside := rest.takeWhile fun l => decide (line.indent < l.indent)
    let outside := rest.dropWhile fun l => decide (line.indent < l.indent)
    match headOf? inMatch line.tokens with
    | some (head, body) =>
      if body.isEmpty then
        let next := outside.head?.or after
        compound source line (stopOf remarks line inside next)
            (statementsFrom source remarks head.isMatch next inside) head ::
          statementsFrom source remarks inMatch after outside
      else
        compound source line line.stop (simpleStatements source body) head ::
          statementsFrom source remarks inMatch after rest
    | none =>
      if line.first.isOperator "@" then statementsFrom source remarks inMatch after rest
      else simpleStatements source line.tokens ++ statementsFrom source remarks inMatch after rest
termination_by lines => lines.length
decreasing_by
  all_goals simp only [List.length_cons]
  · have := (List.takeWhile_sublist (l := rest)
      (p := fun l => decide (line.indent < l.indent))).length_le
    omega
  · have := (List.dropWhile_sublist (l := rest)
      (p := fun l => decide (line.indent < l.indent))).length_le
    omega
  all_goals omega

def parse (text : String) : List Statement :=
  let source := text.toList
  let lines := linesOf source
  statementsFrom source lines.remarks false none lines.lines

end Labbook.Source
