import Labbook.Analysis.AxisScale
import Labbook.Data.ComplexSplit
import Labbook.Plot.OneSetpoint
import Labbook.Plot.TwoSetpoints
import Labbook.Run.Dataset
import Labbook.Text.Wrap

namespace Labbook

-- Choices of one call. What is left open follows the settings.
structure PlotOptions where
  rescaleAxes : Bool := true
  autoColorScale : Option Bool := none
  cutoff : Option (Spread.Cutoff Binary64) := none
  conversion : Conversion := .realAndImag
  phase : PhaseUnit := .radians
  -- The dependent parameters to plot, all of them when none are named.
  parameters : Option (List String) := none
  colors : ColorOptions := {}
  -- Goes with new canvases only.
  canvasSize : Option (Nat × Nat) := none

structure Plot where
  canvas : Canvas
  colorbar : Option (Colorbar Binary64)

namespace Plot

def selectGroups (d : Dataset) (groups : List PlotGroup) (names : List String) :
    Outcome (List PlotGroup) :=
  let known := d.dependents.map (·.name)
  match names.find? fun name => !known.contains name with
  | some unknown => .error (.unknownParameters names unknown known)
  | none => .ok (groups.filter fun g => match g.getLast? with
      | some measured => names.contains measured.name
      | none => false)

def selectedGroups (d : Dataset) (options : PlotOptions) : Outcome (List PlotGroup) := do
  let groups ← d.groups
  let selected ← match options.parameters with
    | some names => selectGroups d groups names
    | none => pure groups
  return splitComplex options.conversion options.phase selected

-- The canvases to plot on: those handed in, if their number is right and no size is given, else new
-- ones.
def prepareCanvases (supplied : Option (List Canvas)) (plots : Nat) (options : PlotOptions)
    (settings : Settings) : Outcome (List Canvas) :=
  match supplied with
  | some canvases =>
    match options.canvasSize with
    | some size => .error (.sizeForOwnCanvases size)
    | none =>
      if canvases.length = plots then .ok canvases
      else match options.parameters with
        | some names => .error (.canvasesForParameters names.length canvases.length)
        | none => .error (.canvasesForPlots plots canvases.length)
  | none => .ok (List.replicate plots (Canvas.blank (options.canvasSize.getD settings.canvasSize)))

def prepareColorbars (supplied : Option (List (Option (Colorbar Binary64)))) (canvases : Nat) :
    Outcome (List (Option (Colorbar Binary64))) :=
  match supplied with
  | some colorbars =>
    if colorbars.length = canvases then .ok colorbars
    else .error (.colorbarsForCanvases colorbars.length canvases)
  | none => .ok (List.replicate canvases none)

def rescaleAxis (settings : Settings) (record : Record) (axis : Axis) : Axis :=
  if record.data.isText then axis
  else
    let rescaled := record.rescaled settings
    { axis with factor := rescaled.factor, label := rescaled.label }

def labelAxis (options : PlotOptions) (settings : Settings) (record : Record) (axis : Axis) : Axis :=
  let labelled := { axis with label := record.axisLabel }
  if options.rescaleAxes then rescaleAxis settings record labelled else labelled

def labelCanvas (options : PlotOptions) (settings : Settings) (x y : Record) (canvas : Canvas) :
    Canvas :=
  { canvas with
    xAxis := labelAxis options settings x canvas.xAxis
    yAxis := labelAxis options settings y canvas.yAxis }

def ofGroup (title : String) (options : PlotOptions) (settings : Settings) (group : PlotGroup)
    (canvas : Canvas) (reused : Option (Colorbar Binary64)) : Outcome Plot :=
  match group with
  | [x, y] => do
    let (_, drawn) ← canvas.plotSeries x y
    return ⟨{ labelCanvas options settings x y drawn with title }, none⟩
  | [x, y, z] => do
    let (_, drawn, bar) ← canvas.plotColors ⟨x, y, z⟩ reused options.colors settings
    let labelled := { bar with axis := labelAxis options settings z bar.axis }
    let values := match drawn.layers.getLast? with
      | some layer => layer.colorValues
      | none => []
    let bar ←
      if z.data.isText then pure labelled
      else labelled.withSettings options.autoColorScale values options.cutoff settings
    return ⟨{ labelCanvas options settings x y drawn with title }, some bar⟩
  | _ => .ok ⟨canvas, none⟩

def wrappedTitle (title : String) : String := "\n".intercalate (wrapTitle Canvas.titleWidth title)

def drawAll (title : String) (options : PlotOptions) (settings : Settings)
    (groups : List PlotGroup) (canvases : List Canvas)
    (colorbars : List (Option (Colorbar Binary64))) : Outcome (List Plot) :=
  (groups.zip (canvases.zip colorbars)).mapM fun (group, canvas, colorbar) =>
    ofGroup title options settings group canvas colorbar

def ofDataset (d : Dataset) (canvases : Option (List Canvas))
    (colorbars : Option (List (Option (Colorbar Binary64)))) (options : PlotOptions)
    (settings : Settings) : Outcome (List Plot) := do
  let groups ← selectedGroups d options
  let canvases ← prepareCanvases canvases groups.length options settings
  let colorbars ← prepareColorbars colorbars canvases.length
  let plots ← drawAll (wrappedTitle d.title) options settings groups canvases colorbars
  if plots.length ≠ canvases.length then throw .canvasesUnpaired
  return plots

end Plot

end Labbook
