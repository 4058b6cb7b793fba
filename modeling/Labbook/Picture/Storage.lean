import Labbook.Files.Tree
import Labbook.Picture.Svg
import Labbook.Plot.OfDataset

namespace Labbook

namespace Storage

def vectorDirectory : String := "pdf"

def vectorExtension : String := "svg"

def pixelDirectory : String := "png"

def pixelExtension : String := "png"

def directory (root : String) (d : Dataset) : String :=
  Path.join (Path.join root d.expName) d.sampleName

def imagePath (storage directory extension : String) (runId index : Nat) : String :=
  Path.join (Path.join storage directory)
    (toString runId ++ "_" ++ toString index ++ "." ++ extension)

-- The shapes of a picture, none if it is drawn as pixels, and what its file holds.
structure Drawing where
  scene : Scene
  content : Thunk (Option String)

structure Format where
  folder : String
  extension : String
  draw : Plot → Outcome Drawing

def vectorFormat : Format where
  folder := vectorDirectory
  extension := vectorExtension
  draw plot := do
    let scene ← plot.canvas.scene plot.colorbar
    return ⟨scene, Thunk.mk fun _ => some scene.svg⟩

-- Draws a plot as pixels, its captions included, and gives the bytes of the file. Letters take a font,
-- and fonts are not part of the library.
abbrev PixelWriter := Plot → Outcome ByteArray

def withoutFont : PixelWriter := fun _ => .error .noFont

def pixelFormat (write : PixelWriter) : Format where
  folder := pixelDirectory
  extension := pixelExtension
  draw plot := do
    let bytes ← write plot
    return ⟨{ size := plot.canvas.size, front := [] }, Thunk.mk fun _ => String.fromUTF8? bytes⟩

def formats (vector : Bool) (pixels : Option PixelWriter) : List Format :=
  (if vector then [vectorFormat] else []) ++ (pixels.map pixelFormat).toList

structure StoredPicture where
  path : String
  scene : Scene

def storePlot (f : Format) (storage : String) (runId : Nat) (plot : Plot) (index : Nat) :
    FileChange StoredPicture := do
  let path := imagePath storage f.folder f.extension runId index
  let drawing ← ExceptT.mk (pure (f.draw plot))
  FileChange.writePicture path drawing.content
  return ⟨path, drawing.scene⟩

-- Stores the pictures of a run below the root of the settings. The directories of both formats are made
-- whichever of them is asked for.
def store (d : Dataset) (plots : List Plot) (vector : Bool) (settings : Settings)
    (pixels : Option PixelWriter := none) : FileChange (List StoredPicture) := do
  let storage := directory settings.mainFolder d
  FileChange.createDirectories (Path.join storage pixelDirectory)
  FileChange.createDirectories (Path.join storage vectorDirectory)
  let stored ← plots.zipIdx.mapM fun (plot, index) =>
    (formats vector pixels).mapM fun f => storePlot f storage d.runId plot index
  return stored.flatten

def plotAndStore (d : Dataset) (vector : Bool) (settings : Settings)
    (pixels : Option PixelWriter := none) : FileChange (List StoredPicture) := do
  let plots ← ExceptT.mk (pure (Plot.ofDataset d none none {} settings))
  store d plots vector settings pixels

end Storage

end Labbook
