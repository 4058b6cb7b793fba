import Labbook.Data.Table
import Labbook.Source.Statement
import Labbook.Text.Blank

namespace Labbook

open Source

mutual

-- The class and function definitions of a statement that no other definition encloses.
def visibleIn : Statement → List Statement
  | .block body => visible body
  | .classDef name bases column text body => [.classDef name bases column text body]
  | .functionDef name body => [.functionDef name body]
  | .assignment _ => []
  | .other => []

def visible : List Statement → List Statement
  | [] => []
  | s :: rest => visibleIn s ++ visible rest

end

def classesNamed (name : String) (statements : List Statement) : List (List Statement) :=
  (visible statements).filterMap fun
    | .classDef n _ _ _ body => if n = name then some body else none
    | _ => none

def functionsNamed (name : String) (statements : List Statement) : List (List Statement) :=
  (visible statements).filterMap fun
    | .functionDef n body => if n = name then some body else none
    | _ => none

def constructorName : String := "__init__"

def constructorBody? (className : String) (statements : List Statement) : Option (List Statement) :=
  match classesNamed className statements with
  | [body] =>
    match functionsNamed constructorName body with
    | [constructor] => some constructor
    | _ => none
  | _ => none

def selfAssignment? : Statement → Option (String × String)
  | .assignment a =>
    match a.target, a.value? with
    | .selfAttribute name, some text => some (name, normalizeBlanks text)
    | _, _ => none
  | _ => none

def assignedAttributes (body : List Statement) : Table String :=
  Table.insertAll [] (body.filterMap selfAssignment?)

def constructorAttributesOf (className : String) (statements : List Statement) : Table String :=
  match constructorBody? className statements with
  | some body => assignedAttributes body
  | none => []

def scanConstructor (source className : String) : Table String :=
  constructorAttributesOf className (parse source)

def recoverAssigned (source className name : String) : Option String :=
  (scanConstructor source className).find? name

end Labbook
