import Labbook.Error
import Labbook.Files.Path

namespace Labbook

-- A file's text is `none` when its bytes are no text. It is computed when it is asked for.
inductive FileEntry where
  | directory
  | file (text : Thunk (Option String))

-- A place in the tree: whether it is counted from the root directory, how many directories it lies
-- above the starting one, and the names below.
structure Place where
  fromRoot : Bool := false
  above : Nat := 0
  names : List String := []
  deriving DecidableEq

namespace Place

def here : Place := {}

def child (p : Place) (name : String) : Place := { p with names := p.names ++ [name] }

def parent (p : Place) : Place :=
  if p.names.isEmpty then (if p.fromRoot then p else { p with above := p.above + 1 })
  else { p with names := p.names.dropLast }

def isInside (p : Place) : Bool := !p.fromRoot && p.above == 0 && !p.names.isEmpty

end Place

structure FileTree where
  entries : List (Place × FileEntry) := []

namespace FileTree

-- Directories that are there without being listed: the starting one, those above it and the root.
def entry? (t : FileTree) (p : Place) : Option FileEntry :=
  if p.names.isEmpty then some .directory
  else (t.entries.find? fun (q, _) => q = p).map (·.2)

def isDirectoryAt (t : FileTree) (p : Place) : Bool :=
  match t.entry? p with
  | some .directory => true
  | _ => false

def put (t : FileTree) (p : Place) (e : FileEntry) : FileTree :=
  ⟨t.entries.filter (fun (q, _) => q ≠ p) ++ [(p, e)]⟩

def isName (name : String) : Bool := name.utf8ByteSize ≤ 255

def isPath (path : String) : Bool :=
  path.utf8ByteSize < 4096 && !path.toList.contains (Char.ofNat 0)

def start (path : String) : Place := { fromRoot := Path.isAbsolute path }

def step (t : FileTree) (p : Place) (component : String) : Option Place :=
  if !t.isDirectoryAt p || !isName component then none
  else if component = ".." then some p.parent
  else some (p.child component)

def locate (t : FileTree) (path : String) : Option Place :=
  if path.isEmpty || !isPath path then none
  else (Path.components path).foldlM t.step (start path)

-- What a path leads to. Behind a separator at the end only a directory is found.
def find? (t : FileTree) (path : String) : Option FileEntry := do
  let p ← t.locate path
  let e ← t.entry? p
  if path.endsWith "/" && !t.isDirectoryAt p then none else some e

def isDirectory (t : FileTree) (path : String) : Bool :=
  match t.find? path with
  | some .directory => true
  | _ => false

def read (t : FileTree) (path : String) : Outcome String :=
  match t.find? path with
  | some (.file text) =>
    match text.get with
    | some s => .ok s
    | none => .error (.fileAccess path)
  | _ => .error (.fileAccess path)

def names (t : FileTree) (p : Place) : List String :=
  let children := t.entries.filterMap fun (q, _) =>
    if q.parent = p then q.names.getLast? else none
  children.mergeSort fun a b => decide (a ≤ b)

-- Makes the missing directories on the way from a place. Where that fails the ones before are made all
-- the same.
def makeDirectories (t : FileTree) (p : Place) : List String → FileTree × Bool
  | [] => (t, true)
  | component :: rest =>
    match t.step p component with
    | none => (t, false)
    | some next =>
      match t.entry? next with
      | some .directory => t.makeDirectories next rest
      | some (.file _) => (t, false)
      | none => (t.put next .directory).makeDirectories next rest

def withFile (t : FileTree) (path : String) (text : Thunk (Option String)) : Option FileTree := do
  let p ← t.locate path
  if t.isDirectoryAt p || path.endsWith "/" || !t.isDirectoryAt p.parent then none
  else some (t.put p (.file text))

def describe (p : Place) (e : FileEntry) : String :=
  let path := "/".intercalate p.names
  match e with
  | .directory => path ++ "/"
  | .file _ => path

def listing (t : FileTree) : List String :=
  let inside := t.entries.filterMap fun (p, e) => if p.isInside then some (describe p e) else none
  inside.mergeSort fun a b => decide (a ≤ b)

end FileTree

-- A change of a directory tree. What is done before it fails stays done.
abbrev FileChange (α : Type) := ExceptT PlotError (StateM FileTree) α

namespace FileChange

def createDirectories (path : String) : FileChange Unit := do
  if !FileTree.isPath path then throw (.fileAccess path)
  let (tree, done) := (← get).makeDirectories (FileTree.start path) (Path.components path)
  set tree
  if !done then throw (.fileAccess path)

def writePicture (path : String) (text : Thunk (Option String)) : FileChange Unit := do
  match (← get).withFile path text with
  | some tree => set tree
  | none => throw (.cannotDraw path)

end FileChange

end Labbook
