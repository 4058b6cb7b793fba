import Labbook.Text.Quoted

namespace Labbook

inductive ErrorKind where
  | invalidArgument
  | internal
  | dataSource
  | parse
  | render
  | io
  -- The computation is given up without an answer.
  | crash
  deriving DecidableEq

inductive PlotError where
  | invalidColor (text : String)
  | colorCut (text : String)
  | unknownColormap (name : String)
  | unknownConversion (received : String)
  | unknownPhase (received : String)
  | unknownParameters (received : List String) (unknown : String) (known : List String)
  | sizeForOwnCanvases (size : Nat × Nat)
  | canvasesForParameters (parameters canvases : Nat)
  | canvasesForPlots (plots canvases : Nat)
  | colorbarsForCanvases (colorbars canvases : Nat)
  | gridNotLaidOut
  | unexpectedPlotType (type : String)
  | canvasesUnpaired
  | missingColumn (run : Nat) (name : String)
  | unknownDependency (name dependency : String)
  | unequalCounts (name : String)
  | gridTooSmall (samples : Nat) (dims : List Nat)
  -- The product of the dimensions of a grid overflows a machine word.
  | gridUncounted (dims : List Nat)
  -- The cells of a grid cannot be stored.
  | gridTooLarge (dims : List Nat)
  -- A row or column of the setpoints is missing in the grid of their values.
  | valuesMissing (rows cols : Nat)
  | invalidRunId (text : String)
  | unnamedParameter
  | invalidShape (name dims : String)
  | missingHeader
  | cannotOpen (path : String)
  -- A range of ticks has no numbers as its ends.
  | unboundedTicks
  -- The pixels of a canvas cannot be held, or its plotting area is not inside.
  | noPixels (size : Nat × Nat)
  | emptyImage (size : Nat × Nat)
  -- There are letters to be drawn as pixels.
  | noFont
  | malformedSettings
  | cannotDraw (path : String)
  | fileAccess (path : String)

namespace PlotError

def kind : PlotError → ErrorKind
  | invalidColor _ | unknownColormap _ | unknownConversion _ | unknownPhase _
  | unknownParameters .. | sizeForOwnCanvases _ | canvasesForParameters .. | canvasesForPlots ..
  | colorbarsForCanvases .. => .invalidArgument
  | gridNotLaidOut | unexpectedPlotType _ | canvasesUnpaired => .internal
  | missingColumn .. | unknownDependency .. | unequalCounts _ | gridTooSmall .. | invalidRunId _
  | unnamedParameter | invalidShape .. | missingHeader | cannotOpen _ => .dataSource
  | malformedSettings => .parse
  | cannotDraw _ | emptyImage _ | noFont => .render
  | fileAccess _ => .io
  | colorCut _ | gridUncounted _ | gridTooLarge _ | valuesMissing .. | unboundedTicks
  | noPixels _ => .crash

def detail : PlotError → String
  | invalidColor text | colorCut text => "Invalid color '" ++ text ++ "'"
  | unknownColormap name => "Unknown colormap '" ++ name ++ "'"
  | unknownConversion received =>
    "Invalid complex plot type given. Received " ++ received ++
      " but can only accept \"real_and_imag\" or \"mag_and_phase\"."
  | unknownPhase received =>
    "Invalid complex plot phase given. Received " ++ received ++
      " but can only accept \"degrees\" or \"radians\"."
  | unknownParameters received unknown known =>
    "Invalid parameter(s) given. Received " ++ quotedList received ++ " (unknown '" ++ unknown ++
      "') but can only accept elements from " ++ quotedList known ++ "."
  | sizeForOwnCanvases size =>
    "You cannot provide arguments for the canvas creation if you supply your own canvases. " ++
      "Provided canvas size: " ++ sizeText size
  | canvasesForParameters parameters canvases =>
    "Trying to plot " ++ toString parameters ++ " parameters but received " ++ toString canvases ++
      " canvases."
  | canvasesForPlots plots canvases =>
    "Trying to make " ++ toString plots ++ " plots, but received " ++ toString canvases ++
      " canvases."
  | colorbarsForCanvases colorbars canvases =>
    "Received " ++ toString colorbars ++ " colorbars for " ++ toString canvases ++ " canvases."
  | gridNotLaidOut => "Cannot lay out gridded data"
  | unexpectedPlotType type =>
    "Unknown plottype " ++ type ++ " for 1D data. Something is way wrong."
  | canvasesUnpaired =>
    "Non equal number of canvases. Perhaps colorbar is missing from one of the cases above"
  | missingColumn run name =>
    "Run " ++ toString run ++ " declares parameter '" ++ name ++ "' but has no data for it"
  | unknownDependency name dependency =>
    "Parameter '" ++ name ++ "' depends on unknown parameter '" ++ dependency ++ "'"
  | unequalCounts name => "Records of '" ++ name ++ "' do not share a common point count"
  | gridTooSmall samples dims =>
    toString samples ++ " samples do not fit the grid shape " ++ numberList dims
  | gridUncounted dims => "The cells of the grid shape " ++ numberList dims ++ " cannot be counted"
  | gridTooLarge dims => "The grid shape " ++ numberList dims ++ " is too large"
  | valuesMissing rows cols =>
    "The values of " ++ numberList [rows, cols] ++ " cells do not cover their setpoints"
  | invalidRunId text => "Invalid run_id '" ++ text ++ "'"
  | unnamedParameter => "Parameter row without a name"
  | invalidShape name dims => "Invalid shape row for '" ++ name ++ "': '" ++ dims ++ "'"
  | missingHeader => "Could not find the column header row"
  | cannotOpen path => "Cannot open '" ++ path ++ "'"
  | unboundedTicks => "The ticks of a range have no ends"
  | noPixels size => "There are no pixels for a canvas of " ++ sizeText size
  | emptyImage size => "A canvas of " ++ sizeText size ++ " has no room for its plotting area"
  | noFont => "There is no font to draw text with"
  | malformedSettings => "the settings are not valid JSON"
  | cannotDraw path => "'" ++ path ++ "' cannot be written"
  | fileAccess path => "'" ++ path ++ "' cannot be accessed"

def message (e : PlotError) : String :=
  match e.kind with
  | .invalidArgument => "Invalid argument: " ++ e.detail
  | .internal => "Internal error: " ++ e.detail
  | .dataSource => "Data source error: " ++ e.detail
  | .parse => "Parse error: " ++ e.detail
  | .render => "Render error: " ++ e.detail
  | .io | .crash => e.detail

end PlotError

abbrev Outcome (α : Type) := Except PlotError α

end Labbook
