import Labbook.Plot.Canvas
import Labbook.Plot.Colorbar

namespace Labbook

inductive Mark (α : Type) where
  | path (points : List (α × α))
  | dot (center : α × α) (radius : Nat) (color : Rgb)
  | box (a b : α × α) (color : Rgb)

namespace Layer

variable {α : Type} [Scalar α]

def finitePoint (point : α × α) : Bool := Scalar.isFinite point.1 && Scalar.isFinite point.2

-- The colours of a layer that comes without a colorbar: the first colormap over its own values.
def ownColorbar (layer : Layer α) : Colorbar α :=
  Colorbar.autoscale
    { vmin := 0.0, vmax := 1.0
      colormap := { name := "viridis", gradient := Gradient.ofCodes Palette.viridis } }
    layer.colorValues

def pathMarks (points : List (α × α)) : List (Mark α) :=
  let drawn := points.filter finitePoint
  if drawn.isEmpty then [] else [.path drawn]

def dotMarks (points : List (α × α)) : List (Mark α) :=
  (points.filter finitePoint).map fun p => .dot p 4 Rgb.series

def barMarks (bars : List (α × α)) : List (Mark α) :=
  (bars.filter fun (_, y) => Scalar.isFinite y).map fun (x, y) =>
    .box (x - barHalfWidth, 0.0) (x + barHalfWidth, y) Rgb.series

def cellMarks (bar : Colorbar α) (m : Mesh α) : List (Mark α) :=
  let xs := (cellEdges m.x).toArray
  let ys := (cellEdges m.y).toArray
  m.z.indexed.filterMap fun (row, col, value) => do
    let color ← bar.colorFor value
    let left ← xs[col]?
    let right ← xs[col + 1]?
    let bottom ← ys[row]?
    let top ← ys[row + 1]?
    return .box (left, bottom) (right, top) color

def scatterMarks (bar : Colorbar α) (s : Scatter α) : List (Mark α) :=
  s.points.filterMap fun (x, y, z) => (bar.colorFor z).map fun color => .dot (x, y) 5 color

def marks (bar : Option (Colorbar α)) (layer : Layer α) : List (Mark α) :=
  match layer with
  | .line ps => pathMarks ps
  | .points ps => dotMarks ps
  | .bars ps => barMarks ps
  | .mesh m => cellMarks (bar.getD layer.ownColorbar) m
  | .scatter s => scatterMarks (bar.getD layer.ownColorbar) s

end Layer

namespace Canvas

def vectorLayers (c : Canvas) : List (Layer Binary64 × Nat) :=
  c.layers.zipIdx.filter fun (layer, _) => !layer.isRasterized

def rasterLayers (c : Canvas) : List (Layer Binary64 × Nat) :=
  c.layers.zipIdx.filter fun (layer, _) => layer.isRasterized

end Canvas

end Labbook
