import Labbook.Number.Scalar

namespace Labbook

namespace Spread

variable {α : Type} [Scalar α]

def ranked (values : List α) : List α :=
  (values.filter fun v => !Scalar.isNaN v).mergeSort Scalar.precedes

def atPercent (first : α) (ranked : List α) (p : α) : α :=
  let rank := Scalar.clamp p 0.0 100.0 / 100.0 * Scalar.ofNat (ranked.length - 1)
  let lower := Scalar.floorNat rank
  let upper := Scalar.ceilNat rank
  let weight := rank - Scalar.ofNat lower
  let low := ranked.getD lower first
  low + (ranked.getD upper first - low) * weight

def percentile (values : List α) (p : α) : Option α :=
  match ranked values with
  | [] => none
  | first :: rest => some (atPercent first (first :: rest) p)

structure Cutoff (α : Type) where
  top : α
  bottom : α

-- Colour limits: the quartiles widened by one and a half times their distance, kept within the data,
-- and moved out again where more than the cutoff would be clipped. Data whose quartiles coincide on
-- its own scale keeps its whole range.
def limits (values : List α) (cutoff : Cutoff α) : Option (α × α) := do
  let zmin ← percentile values 0.0
  let zmax ← percentile values 100.0
  let pmin ← percentile values cutoff.bottom
  let q3 ← percentile values 75.0
  let q1 ← percentile values 25.0
  let pmax ← percentile values (100.0 - cutoff.top)
  let range := zmax - zmin
  let spread := q3 - q1
  if Scalar.equals range 0.0 || spread / range < 1e-8 then return (zmin, zmax)
  let vmin := Scalar.lesser (Scalar.greater (q1 - 1.5 * spread) zmin) pmin
  let vmax := Scalar.greater (Scalar.lesser (q3 + 1.5 * spread) zmax) pmax
  return (vmin, vmax)

end Spread

end Labbook
