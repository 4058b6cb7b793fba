import Labbook.Attribute.Constructor
import Labbook.Files.Tree

namespace Labbook

open Source

inductive Member where
  | value (text : String)
  | method
  deriving DecidableEq

structure ClassDefinition where
  name : String
  bases : List String
  source : String
  members : Table Member
  path : String

def baseName? : BaseExpr → Option String
  | .name text => some text
  | .lastOf text => some text
  | .subscript value => baseName? value
  | .other => none

def isIndent (c : Char) : Bool := c = ' ' || c = '\t'

def dedentLine (column : Nat) (line : List Char) : List Char :=
  line.drop ((line.take column).takeWhile isIndent).length

-- Lines without their ends; a carriage return in front of a line feed belongs to the end.
def sourceLines (cs : List Char) : List (List Char) :=
  let pieces := cs.splitOnP (· == '\n')
  let ended := pieces.dropLast.map fun line => if line.getLast? = some '\r' then line.dropLast else line
  match pieces.getLast? with
  | some [] | none => ended
  | some last => ended ++ [last]

def dedentChars (column : Nat) (cs : List Char) : List Char :=
  match sourceLines cs with
  | [] => []
  | first :: rest => ['\n'].intercalate (first :: rest.map (dedentLine column))

def dedent (column : Nat) (text : String) : String := String.ofList (dedentChars column text.toList)

def memberOf? : Statement → Option (String × Member)
  | .functionDef name _ => some (name, .method)
  | .assignment a =>
    match a.target, a.value? with
    | .name name, some text => some (name, .value (normalizeBlanks text))
    | _, _ => none
  | _ => none

def membersOf (body : List Statement) : Table Member := Table.insertAll [] (body.filterMap memberOf?)

def classDefinition (path name : String) (bases : List BaseExpr) (column : Nat) (text : String)
    (body : List Statement) : ClassDefinition :=
  ⟨name, bases.filterMap baseName?, dedent column text, membersOf body, path⟩

mutual

-- The classes of a statement, outer ones first. Function bodies are not looked into.
def classesIn (path : String) : Statement → List ClassDefinition
  | .classDef name bases column text body =>
    classDefinition path name bases column text body :: classesInAll path body
  | .block body => classesInAll path body
  | .functionDef _ _ => []
  | .assignment _ => []
  | .other => []

def classesInAll (path : String) : List Statement → List ClassDefinition
  | [] => []
  | s :: rest => classesIn path s ++ classesInAll path rest

end

structure Registry where
  classes : List ClassDefinition := []

namespace Registry

def get? (r : Registry) (name : String) : Option ClassDefinition := r.classes.find? (·.name == name)

def contains (r : Registry) (name : String) : Bool := (r.get? name).isSome

def size (r : Registry) : Nat := r.classes.length

def insert (r : Registry) (c : ClassDefinition) : Registry :=
  if r.contains c.name then r else ⟨r.classes ++ [c]⟩

def ofSources (sources : List (String × String)) : Registry :=
  (sources.flatMap fun (path, text) => classesInAll path (parse text)).foldl insert {}

end Registry

namespace FileTree

-- The Python files at a path: the file itself, or all below a directory in the order of their names.
-- `depth` bounds the nesting of directories.
def pythonFiles (t : FileTree) (depth : Nat) (path : String) : List String :=
  if t.isDirectory path then
    match depth, t.locate path with
    | depth + 1, some place =>
      (t.names place).flatMap fun name => pythonFiles t depth (Path.join path name)
    | _, _ => []
  else if Path.extension? path = some "py" then [path]
  else []

-- Every directory on the way down is an entry of its own.
def depthBound (t : FileTree) : Nat := t.entries.length + 1

end FileTree

def Registry.ofPaths (t : FileTree) (paths : List String) : Outcome Registry := do
  let files := paths.flatMap (t.pythonFiles t.depthBound)
  let sources ← files.mapM fun path => do return (path, ← t.read path)
  return Registry.ofSources sources

end Labbook
