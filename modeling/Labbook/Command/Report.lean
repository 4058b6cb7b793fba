import Labbook.Attribute.Constructor
import Labbook.Command.Command
import Labbook.Picture.Storage
import Labbook.Run.Directory
import Labbook.Settings.Reader
import Labbook.Text.Json

namespace Labbook

structure Report where
  output : String := ""
  failure : Option PlotError := none
  exitCode : Nat := 0

namespace PlotRequest

def loadSettings (r : PlotRequest) (t : FileTree) : Outcome Settings := do
  let settings ← match r.settings with
    | some path => Settings.read (← t.read path)
    | none => pure {}
  return { settings with mainFolder := r.output.getD settings.mainFolder }

def options (r : PlotRequest) : Outcome PlotOptions := do
  return {
    rescaleAxes := r.rescaleAxes
    autoColorScale := if r.autoColorScale then some true else none
    cutoff := r.cutoff.map fun (top, bottom) => ⟨top, bottom⟩
    conversion := ← Conversion.ofName r.conversion
    phase := ← PhaseUnit.ofName r.phase
    parameters := if r.parameters.isEmpty then none else some r.parameters
    colors := { colormap := r.colormap, rasterized := r.rasterized } }

def plots (r : PlotRequest) (t : FileTree) : Outcome (Settings × Dataset × List Plot) := do
  let settings ← r.loadSettings t
  let options ← r.options
  let d ← RunDirectory.load ⟨r.dataDirectory⟩ t r.runId
  let plots ← Plot.ofDataset d none none options settings
  return (settings, d, plots)

def run (r : PlotRequest) (write : Storage.PixelWriter) : FileChange Unit := do
  let (settings, d, plots) ← ExceptT.mk (return r.plots (← get))
  discard (Storage.store d plots r.vector settings (if r.pixels then some write else none))

end PlotRequest

namespace Command

def describeAttribute (t : FileTree) (query : Lookup) (sources : List String) (base : String) :
    Outcome String := do
  let registry ← Registry.ofPaths t sources
  let (table, _) := GetterTable.setup {} { registry, base }
  return (table.get scanConstructor query).text ++ "\n"

def describeAttributes (t : FileTree) (owner : String) (sources : List String) : Outcome String := do
  let registry ← Registry.ofPaths t sources
  let hook : Hook := { registry }
  return Json.writeTexts (Table.sorted (hook.constructorAttributes scanConstructor owner)) ++ "\n"

def run (write : Storage.PixelWriter) : Command → FileChange String
  | plot request => do
    request.run write
    return ""
  | docAttr query sources base => do
    ExceptT.mk (return describeAttribute (← get) query sources base)
  | docAttrs owner sources => do ExceptT.mk (return describeAttributes (← get) owner sources)

end Command

namespace Report

def versionText : String := "instrplot 0.1.0\n"

def helpText : String :=
  "Plot measurement runs and document instrument driver attributes\n\n" ++
    "Usage: instrplot <plot|doc-attr|doc-attrs> [ARGUMENTS]\n"

def ofInterruption : Interruption → Report
  | .usage => { exitCode := 2 }
  | .help => { output := helpText }
  | .version => { output := versionText }

def ofFailure (e : PlotError) : Report where
  failure := some e
  exitCode := if e.kind = .crash then 101 else 1

def ofArguments (words : List String) (t : FileTree)
    (write : Storage.PixelWriter := Storage.withoutFont) : Report × FileTree :=
  match Command.read words with
  | .error interruption => (ofInterruption interruption, t)
  | .ok command =>
    match (command.run write).run.run t with
    | (.ok output, t) => ({ output }, t)
    | (.error e, t) => (ofFailure e, t)

end Report

end Labbook
