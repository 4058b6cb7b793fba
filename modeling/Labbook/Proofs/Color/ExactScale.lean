import Labbook.Plot.Colorbar
import Labbook.Proofs.Number.ExactScalar
import Labbook.Proofs.Number.WordValue
import Mathlib.Tactic.NormNum

namespace Labbook

namespace Colorbar
variable {bar : Colorbar Rat} {v : Rat}

def exact (bar : Colorbar Binary64) : Colorbar Rat :=
  { bar with
    vmin := bar.vmin.value
    vmax := bar.vmax.value
    ticks := bar.ticks.map (List.map fun (value, label) => (value.value, label)) }

-- The span below which the limits count as one.
def leastSpan : Rat := 1 / 2 ^ 52

theorem normalize_eq (bar : Colorbar Rat) (v : Rat) : bar.normalize v =
    if |bar.vmax - bar.vmin| < leastSpan then 0 else (v - bar.vmin) / (bar.vmax - bar.vmin) := by
  have threshold : (2.220446049250313080847263336181640625e-16 : Rat) = leastSpan := by
    norm_num [leastSpan]
  have zero : (0.0 : Rat) = 0 := by norm_num
  unfold normalize
  dsimp only
  rw [absolute_eq_abs, threshold, zero]

theorem colorFor_inside (above : bar.vmin ≤ v) (below : v ≤ bar.vmax) :
    bar.colorFor v = some (bar.colormap.eval (bar.normalize v)) := by
  unfold colorFor
  rw [if_neg (show ¬Scalar.isNaN v = true from Bool.false_ne_true), if_neg (not_lt.mpr below),
    if_neg (not_lt.mpr above)]

end Colorbar

end Labbook
