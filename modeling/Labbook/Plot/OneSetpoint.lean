import Labbook.Analysis.PlotType
import Labbook.Plot.Canvas

namespace Labbook

namespace Canvas

-- The layer of a plot type. A line runs in the order of its setpoints, points of equal setpoints in
-- the order of measurement.
def seriesLayer (type : PlotType) (points : List (Binary64 × Binary64)) :
    Outcome (Layer Binary64) :=
  match type with
  | .line1D => .ok (.line (points.mergeSort fun a b => a.1.precedes b.1))
  | .point1D => .ok (.points points)
  | .bar1D => .ok (.bars points)
  | other => .error (.unexpectedPlotType other.name)

def plotSeries (canvas : Canvas) (x y : Record) : Outcome (PlotType × Canvas) := do
  let type := PlotType.of1D x.data y.data
  let xs := x.data.axisValues
  let ys := y.data.axisValues
  let layer ← seriesLayer type (xs.values.zip ys.values)
  return (type, (canvas.withCategories xs.categories ys.categories).push layer)

end Canvas

end Labbook
