import Labbook.Attribute.Lookup
import Labbook.Command.Arguments
import Labbook.Number.Decimal

namespace Labbook

structure PlotRequest where
  runId : Nat
  dataDirectory : String
  settings : Option String
  output : Option String
  -- In which formats pictures are stored. Their directories are made in any case.
  vector : Bool
  pixels : Bool
  rescaleAxes : Bool
  autoColorScale : Bool
  cutoff : Option (Binary64 × Binary64)
  conversion : String
  phase : String
  parameters : List String
  colormap : Option String
  rasterized : Option Bool

inductive Command where
  | plot (request : PlotRequest)
  | docAttr (query : Lookup) (sources : List String) (instrumentBase : String)
  | docAttrs (owner : String) (sources : List String)

namespace Command

def isText (_ : String) : Bool := true

def isPath (text : String) : Bool := !text.isEmpty

def isRunId (text : String) : Bool := (readNatural Word.bound64 text).isSome

def isNumber (text : String) : Bool := (Binary64.read? text).isSome

def isTruthValue (text : String) : Bool := text = "true" || text = "false"

def flag (name : String) : OptionSpec := { name, values := 0 }

def plotArguments : ArgumentSpec where
  positionals := [isRunId]
  options := [
    { name := "data-dir", accepts := isPath },
    { name := "settings", accepts := isPath },
    { name := "output", accepts := isPath },
    flag "no-png", flag "no-vector", flag "no-rescale", flag "auto-color-scale",
    { name := "cutoff-percentile", values := 2, repeatable := true, accepts := isNumber },
    { name := "complex-plot-type" }, { name := "complex-plot-phase" },
    { name := "parameter", repeatable := true },
    { name := "colormap" },
    { name := "rasterized", accepts := isTruthValue }]

def sourceOption : OptionSpec :=
  { name := "source", repeatable := true, required := true, accepts := isPath }

def docAttrArguments : ArgumentSpec where
  positionals := [isText, isText]
  options := [sourceOption, { name := "default" }, { name := "instrument-base" }]

def docAttrsArguments : ArgumentSpec where
  positionals := [isText]
  options := [sourceOption]

def cutoffOf (a : Arguments) : Option (Binary64 × Binary64) :=
  match (a.valuesOf "cutoff-percentile").filterMap Binary64.read? with
  | top :: bottom :: _ => some (top, bottom)
  | _ => none

def plotRequest (a : Arguments) : PlotRequest where
  runId := ((a.positionals.head?.bind (readNatural Word.bound64))).getD 0
  dataDirectory := (a.value? "data-dir").getD "."
  settings := a.value? "settings"
  output := a.value? "output"
  vector := !a.has "no-vector"
  pixels := !a.has "no-png"
  rescaleAxes := !a.has "no-rescale"
  autoColorScale := a.has "auto-color-scale"
  cutoff := cutoffOf a
  conversion := (a.value? "complex-plot-type").getD "real_and_imag"
  phase := (a.value? "complex-plot-phase").getD "radians"
  parameters := a.valuesOf "parameter"
  colormap := a.value? "colormap"
  rasterized := (a.value? "rasterized").map (· == "true")

def ofPlotArguments (a : Arguments) : Command := .plot (plotRequest a)

def ofDocAttrArguments (a : Arguments) : Command :=
  .docAttr ⟨a.positionals.getD 0 "", a.positionals.getD 1 "", a.value? "default"⟩
    (a.valuesOf "source") ((a.value? "instrument-base").getD Labbook.instrumentBase)

def ofDocAttrsArguments (a : Arguments) : Command :=
  .docAttrs (a.positionals.getD 0 "") (a.valuesOf "source")

-- Words that stand alone in front of a command, or ask for help on one.
def readTopLevel : List String → Interruption
  | ["help"] => .help
  | ["help", name] => if ["plot", "doc-attr", "doc-attrs", "help"].contains name then .help else .usage
  | word :: _ =>
    if word = "--version" then .version
    else if word = "--help" then .help
    else if word.startsWith "-V" then .version
    else if word.startsWith "-h" then .help
    else .usage
  | [] => .usage

def read : List String → Except Interruption Command
  | "plot" :: rest => ofPlotArguments <$> Arguments.readAll plotArguments rest
  | "doc-attr" :: rest => ofDocAttrArguments <$> Arguments.readAll docAttrArguments rest
  | "doc-attrs" :: rest => ofDocAttrsArguments <$> Arguments.readAll docAttrsArguments rest
  | words => .error (readTopLevel words)

end Command

end Labbook
