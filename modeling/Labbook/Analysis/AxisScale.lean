import Labbook.Settings
import Labbook.Data.Record

namespace Labbook

namespace AxisScale

def symbols : List (Int × String) :=
  [(-24, "y"), (-21, "z"), (-18, "a"), (-15, "f"), (-12, "p"), (-9, "n"), (-6, "µ"), (-3, "m"),
    (0, ""), (3, "k"), (6, "M"), (9, "G"), (12, "T"), (15, "P"), (18, "E"), (21, "Z"), (24, "Y")]

variable {α : Type} [Scalar α]

-- The first symbol whose power of ten is at most a thousand times too small, the last for anything
-- larger.
def engineering (maxAbs : α) : String × Int :=
  if !Scalar.isFinite maxAbs || Scalar.equals maxAbs 0.0 then ("", 0)
  else match symbols.find? fun (scale, _) => decide (maxAbs < Scalar.powerOfTen (scale + 3)) with
    | some (scale, symbol) => (symbol, scale)
    | none => ("Y", 24)

def powers (maxAbs : α) : String × Int :=
  let scale :=
    if Scalar.isFinite maxAbs && decide ((0.0 : α) < maxAbs) then
      3 * (Scalar.decade maxAbs).fdiv 3
    else 0
  if scale = 0 then ("", 0) else ("10^" ++ toString scale ++ " ", scale)

def choose (rescalable : Bool) (maxAbs : α) : String × Int :=
  if rescalable then engineering maxAbs else powers maxAbs

structure Rescaled (α : Type) where
  factor : α
  label : String

def rescale (settings : Settings) (displayLabel unit : String) (maxAbs : α) : Rescaled α :=
  let (symbol, scale) := choose (settings.isRescalable unit) maxAbs
  ⟨Scalar.powerOfTen (-scale), axisLabel displayLabel (symbol ++ unit)⟩

def maxMagnitude (values : List α) : α :=
  match (values.map Scalar.absolute).filter fun v => !Scalar.isNaN v with
  | [] => 0.0
  | first :: rest => rest.foldl Scalar.greater first

end AxisScale

def RecordData.maxMagnitude : RecordData → Binary64
  | .numeric t => AxisScale.maxMagnitude t.cells
  | _ => 0

def Record.rescaled (settings : Settings) (r : Record) : AxisScale.Rescaled Binary64 :=
  AxisScale.rescale settings r.displayLabel r.unit r.data.maxMagnitude

end Labbook
