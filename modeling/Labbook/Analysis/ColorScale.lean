import Labbook.Analysis.Spread
import Labbook.Plot.Colorbar
import Labbook.Settings

namespace Labbook

namespace Colorbar

section
variable {α : Type} [Scalar α]

def withLimits (bar : Colorbar α) (a b : α) (values : List α) (above below : Rgb) : Colorbar α :=
  let (vmin, vmax) := if a ≤ b then (a, b) else (b, a)
  let dataMin := (Spread.percentile values 0.0).getD vmin
  let dataMax := (Spread.percentile values 100.0).getD vmax
  { bar with
    extend := Extend.ofEnds (dataMin < vmin) (vmax < dataMax)
    colorOver := some above
    colorUnder := some below
    vmin := vmin
    vmax := vmax }

-- Sets limits that do not follow outliers. Without measured values nothing changes.
def withAutoLimits (bar : Colorbar α) (values : List α) (cutoff : Spread.Cutoff α) (above below : Rgb) :
    Colorbar α :=
  match Spread.limits values cutoff with
  | some (a, b) => bar.withLimits a b values above below
  | none => bar

end

def withSettings (bar : Colorbar Binary64) (enabled : Option Bool) (values : List Binary64)
    (cutoff : Option (Spread.Cutoff Binary64)) (settings : Settings) : Outcome (Colorbar Binary64) := do
  let auto := settings.autoColorScale
  if !enabled.getD auto.enabled then return bar
  let above ← Rgb.read auto.colorOver
  let below ← Rgb.read auto.colorUnder
  return bar.withAutoLimits values (cutoff.getD auto.cutoff) above below

end Colorbar

end Labbook
