import Labbook.Source.Token

namespace Labbook.Source

structure Line where
  first : Token
  rest : List Token
  -- Where the line ends, a comment behind it included.
  stop : Nat

namespace Line

def tokens (l : Line) : List Token := l.first :: l.rest

def indent (l : Line) : Nat := l.first.indent

end Line

structure Lines where
  lines : List Line := []
  remarks : List Token := []

def linesFrom (current : List Token) (stop : Nat) : List Token → Lines
  | [] => finish current stop {}
  | t :: rest =>
    match t.kind with
    | .lineEnd => finish current stop (linesFrom [] 0 rest)
    | .comment =>
      if current.isEmpty then
        let following := linesFrom [] 0 rest
        { following with remarks := t :: following.remarks }
      else linesFrom current t.stop rest
    | _ => linesFrom (t :: current) t.stop rest
where
  finish (current : List Token) (stop : Nat) (following : Lines) : Lines :=
    match current.reverse with
    | [] => following
    | first :: rest => { following with lines := ⟨first, rest, stop⟩ :: following.lines }

def linesOf (cs : List Char) : Lines := linesFrom [] 0 (tokens cs)

end Labbook.Source
