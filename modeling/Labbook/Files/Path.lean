namespace Labbook

namespace Path

def isAbsolute (path : String) : Bool := path.startsWith "/"

-- Puts a path behind another. An absolute one replaces it, and nothing is put in front of the first
-- component of an empty one.
def join (base path : String) : String :=
  if isAbsolute path || base.isEmpty then path
  else if base.endsWith "/" then base ++ path
  else base ++ "/" ++ path

def components (path : String) : List String :=
  ((path.toList.splitOnP (· == '/')).map String.ofList).filter fun c => c ≠ "" ∧ c ≠ "."

def fileName? (path : String) : Option String :=
  (components path).getLast?.filter (· ≠ "..")

-- What stands behind the last dot of the file name, unless that dot is its first character.
def extension? (path : String) : Option String := do
  let name ← fileName? path
  let reversed := name.toList.reverse
  let suffix := reversed.takeWhile (· ≠ '.')
  match reversed.drop suffix.length with
  | [] | [_] => none
  | _ => some (String.ofList suffix.reverse)

end Path

end Labbook
