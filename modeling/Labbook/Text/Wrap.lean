import Labbook.Text.Blank

namespace Labbook

-- Puts `word` behind the words of `line`, or starts a line with it, and goes on with `rest`.
def fillLines (width : Nat) (line : String) : List String → List String
  | [] => if line.isEmpty then [] else [line]
  | word :: rest =>
    if line.isEmpty then fillLines width word rest
    else if width < line.length + 1 + word.length then line :: fillLines width word rest
    else fillLines width (line ++ " " ++ word) rest

def wrapTitle (width : Nat) (text : String) : List String := fillLines width "" (words text)

end Labbook
