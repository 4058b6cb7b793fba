import Labbook.Files.Tree
import Labbook.Run.RunFile

namespace Labbook

namespace RunFile

-- Reads a run file. A path that leads nowhere cannot be opened; what is there may still be no text.
def load (t : FileTree) (path : String) : Outcome Dataset := do
  if (t.find? path).isNone then throw (.cannotOpen path)
  read (← t.read path)

end RunFile

structure RunDirectory where
  root : String

namespace RunDirectory

def runPath (d : RunDirectory) (id : Nat) : String :=
  Path.join d.root ("run_" ++ toString id ++ ".csv")

-- The run with an id, by the name of its file. The id that the file declares may be another.
def load (d : RunDirectory) (t : FileTree) (id : Nat) : Outcome Dataset :=
  RunFile.load t (d.runPath id)

end RunDirectory

end Labbook
