import Labbook.Color.Gradient
import Labbook.Number.Scalar

namespace Labbook

structure Colormap where
  name : String
  gradient : Gradient
  levels : Option Nat := none

namespace Colormap

def ofName (name : String) : Outcome Colormap :=
  let known := String.ofList (name.toList.map Char.toLower)
  match Gradient.ofName? known with
  | some gradient => .ok { name := known, gradient }
  | none => .error (.unknownColormap name)

def resampled (map : Colormap) (levels : Nat) : Colormap := { map with levels := some (max levels 1) }

variable {α : Type} [Scalar α]

-- The band of a position from 0 to 1, the upper end belonging to the last one.
def band (levels : Nat) (t : α) : Nat :=
  min (Scalar.floorNat (t * Scalar.ofNat levels)) (levels - 1)

-- The position on the gradient that stands for `t`. Bands are spread from one end to the other.
def position (levels : Option Nat) (t : α) : α :=
  let t := if Scalar.isFinite t then Scalar.clamp t 0.0 1.0 else 0.0
  match levels with
  | none => t
  | some n =>
    if 1 < n then Scalar.ofNat (band n t) / Scalar.ofNat (n - 1) else 0.0

def eval (map : Colormap) (t : α) : Rgb :=
  map.gradient.eval (Scalar.toFloat (position map.levels t)).toFloat32

end Colormap

end Labbook
