import Labbook.Color.Colormap
import Labbook.Plot.Axis

namespace Labbook

inductive Extend where
  | neither
  | min
  | max
  | both
  deriving DecidableEq

namespace Extend

def name : Extend → String
  | neither => "neither"
  | min => "min"
  | max => "max"
  | both => "both"

def marksMax : Extend → Bool
  | max | both => true
  | _ => false

def marksMin : Extend → Bool
  | min | both => true
  | _ => false

def ofEnds (below above : Bool) : Extend :=
  match below, above with
  | true, true => both
  | true, false => min
  | false, true => max
  | false, false => neither

end Extend

structure Colorbar (α : Type) where
  axis : Axis := {}
  vmin : α
  vmax : α
  colormap : Colormap
  ticks : Option (List (α × String)) := none
  extend : Extend := .neither
  colorOver : Option Rgb := none
  colorUnder : Option Rgb := none

namespace Colorbar

variable {α : Type} [Scalar α]

def autoscale (bar : Colorbar α) (values : List α) : Colorbar α :=
  match values.filter Scalar.isFinite with
  | [] => bar
  | first :: rest =>
    { bar with
      vmin := rest.foldl Scalar.lesser first
      vmax := rest.foldl Scalar.greater first }

-- The share of the way from the lower limit to the upper one, zero where they fall together.
def normalize (bar : Colorbar α) (value : α) : α :=
  let span := bar.vmax - bar.vmin
  if Scalar.absolute span < 2.220446049250313080847263336181640625e-16 then 0.0 else (value - bar.vmin) / span

def overColor (bar : Colorbar α) : Rgb := bar.colorOver.getD (bar.colormap.eval (1.0 : α))

def underColor (bar : Colorbar α) : Rgb := bar.colorUnder.getD (bar.colormap.eval (0.0 : α))

def colorFor (bar : Colorbar α) (value : α) : Option Rgb :=
  if Scalar.isNaN value then none
  else if bar.vmax < value then some bar.overColor
  else if value < bar.vmin then some bar.underColor
  else some (bar.colormap.eval (bar.normalize value))

-- The scale of `labels.length` categories: a band, a whole value and a tick for each.
def categorical (bar : Colorbar α) (labels : List String) : Colorbar α :=
  let n := labels.length
  let top : α := Scalar.ofNat (n - 1)
  let share := top / Scalar.ofNat (max n 1)
  { bar with
    colormap := bar.colormap.resampled n
    vmin := 0.0
    vmax := top
    ticks := some (labels.mapIdx fun i label => ((Scalar.ofNat i + 0.5) * share, label)) }

end Colorbar

end Labbook
