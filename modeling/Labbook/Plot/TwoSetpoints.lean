import Labbook.Analysis.ColorScale
import Labbook.Analysis.Layout
import Labbook.Analysis.PlotType
import Labbook.Plot.Canvas

namespace Labbook

structure ColorOptions where
  -- Goes before the colormap of a reused colorbar and of the settings.
  colormap : Option String := none
  -- Goes before the threshold of the settings.
  rasterized : Option Bool := none

structure Triple where
  x : Record
  y : Record
  z : Record

namespace Triple

def shaped (rows cols : Nat) (values : AxisValues) : Outcome (Grid Binary64) :=
  match Grid.ofList? rows cols values.values with
  | some grid => .ok grid
  | none => .error .gridNotLaidOut

-- The mesh of the records: clipped when all three have the shape of a known grid, else laid out point
-- by point.
def meshData (t : Triple) (xs ys zs : AxisValues) : Outcome MeshData :=
  match t.z.shape, t.z.data.dims with
  | some _, [rows, cols] =>
    if t.x.data.dims = [rows, cols] ∧ t.y.data.dims = [rows, cols] then do
      let xg ← shaped rows cols xs
      let yg ← shaped rows cols ys
      let zg ← shaped rows cols zs
      return MeshData.clipUnmeasured xg yg zg
    else .ok (MeshData.layOut xs.values ys.values zs.values)
  | _, _ => .ok (MeshData.layOut xs.values ys.values zs.values)

-- Data measured on a known grid is always a mesh.
def plotType (t : Triple) (xs ys : AxisValues) : PlotType :=
  if t.z.shape.isSome then .grid2D else PlotType.of2D xs.values ys.values

def layer (t : Triple) (type : PlotType) (xs ys zs : AxisValues) (rasterized : Option Bool)
    (threshold : Nat) : Outcome (Layer Binary64) :=
  if type.isMesh then do
    let m ← t.meshData xs ys zs
    return .mesh {
      x := m.x, y := m.y, z := m.z
      rasterized := rasterized.getD (decide (threshold < m.x.length * m.y.length)) }
  else
    let points := MeshData.points xs.values ys.values zs.values
    .ok (.scatter { points, rasterized := rasterized.getD (decide (threshold < points.length)) })

end Triple

-- A colorbar with nothing on it but the colormap: the one asked for, else that of the colorbar at
-- hand, else the default one. The limits of a reused colorbar stay until the next data.
def Colorbar.fresh (reused : Option (Colorbar Binary64)) (colormap : Option String)
    (settings : Settings) : Outcome (Colorbar Binary64) := do
  let name := match colormap, reused with
    | some name, _ => name
    | none, some bar => bar.colormap.name
    | none, none => settings.defaultColormap
  let map ← Colormap.ofName name
  let (vmin, vmax) := match reused with
    | some bar => (bar.vmin, bar.vmax)
    | none => (0, 1)
  return { vmin, vmax, colormap := map }

def Canvas.plotColors (canvas : Canvas) (t : Triple) (reused : Option (Colorbar Binary64))
    (options : ColorOptions) (settings : Settings) :
    Outcome (PlotType × Canvas × Colorbar Binary64) := do
  let xs := t.x.data.axisValues
  let ys := t.y.data.axisValues
  let zs := t.z.data.axisValues
  let type := t.plotType xs ys
  let layer ← t.layer type xs ys zs options.rasterized settings.rasterizeThreshold
  let bar ← Colorbar.fresh reused options.colormap settings
  let scaled := bar.autoscale layer.colorValues
  let bar := match zs.categories with
    | some labels => scaled.categorical labels
    | none => scaled
  return (type, (canvas.withCategories xs.categories ys.categories).push layer, bar)

end Labbook
