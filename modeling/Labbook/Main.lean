import Labbook.Command.Report

namespace Labbook

def directoryNames? (path : String) : IO (Option (List String)) := do
  try
    let entries ← (← IO.FS.realPath path).readDir
    return some (entries.toList.map (·.fileName))
  catch _ => return none

def fileBytes? (path : String) : IO (Option ByteArray) := do
  try
    return some (← IO.FS.readBinFile path)
  catch _ => return none

partial def takeBelow (tree : FileTree) (place : Place) (path : String) : IO FileTree := do
  match ← directoryNames? path with
  | some names =>
    let mut tree := tree.put place .directory
    for name in names do
      tree ← takeBelow tree (place.child name) (Path.join path name)
    return tree
  | none =>
    match ← fileBytes? path with
    | some bytes => return tree.put place (.file (Thunk.pure (String.fromUTF8? bytes)))
    | none => return tree

def takePath (tree : FileTree) (path : String) : IO FileTree := do
  let mut tree := tree
  let mut place := FileTree.start path
  let mut walked := if Path.isAbsolute path then "/" else "."
  for component in Path.components path do
    if (← directoryNames? walked).isSome && !place.names.isEmpty then
      tree := tree.put place .directory
    place := if component = ".." then place.parent else place.child component
    walked := Path.join walked component
  takeBelow tree place walked

def Command.reads : Command → List String
  | .plot r => r.settings.toList ++ [RunDirectory.runPath ⟨r.dataDirectory⟩ r.runId]
  | .docAttr _ sources _ | .docAttrs _ sources => sources

def takeAll (words : List String) : IO FileTree := do
  match Command.read words with
  | .ok command => command.reads.foldlM takePath {}
  | .error _ => return {}

def Place.path (p : Place) : String :=
  let up := List.replicate p.above ".."
  (if p.fromRoot then "/" else "") ++ "/".intercalate (up ++ p.names)

def writeNew (old new : FileTree) : IO Unit := do
  for (place, entry) in new.entries do
    if (old.entry? place).isNone then
      match entry with
      | .directory => IO.FS.createDirAll place.path
      | .file text => IO.FS.writeFile place.path (text.get.getD "")

def runProgram (words : List String) : IO UInt32 := do
  let tree ← takeAll words
  let (report, after) := Report.ofArguments words tree
  writeNew tree after
  (← IO.getStdout).putStr report.output
  if let some e := report.failure then
    (← IO.getStderr).putStrLn e.message
  return UInt32.ofNat report.exitCode

end Labbook

def main (words : List String) : IO UInt32 := Labbook.runProgram words
