import Labbook.Picture.Bitmap
import Labbook.Picture.Frame
import Labbook.Picture.Mark
import Labbook.Picture.Tick

namespace Labbook

inductive Anchor where
  | corner
  | leftEdge
  | rightEdge
  | topEdge
  | bottomEdge
  deriving DecidableEq

-- A line of text. Turned text runs upwards.
structure Caption where
  text : String
  x : Int
  y : Int
  size : Nat
  color : Rgb := Rgb.black
  anchor : Anchor := .corner
  turned : Bool := false

inductive Shape where
  | box (area : Area) (fill : Rgb)
  | disc (center : Int × Int) (radius : Nat) (fill : Rgb)
  | path (points : List (Int × Int)) (stroke : Rgb) (width : Nat)
  | polygon (points : List (Int × Int)) (fill : Rgb)
  | caption (caption : Caption)
  | image (origin : Int × Int) (bitmap : Bitmap)

structure BarScene where
  description : List Caption
  labels : List Caption
  bands : List Shape
  marks : List Shape

structure Scene where
  size : Nat × Nat
  front : List Shape
  bar : Option BarScene := none
  image : Option Shape := none

namespace BarScene

def shapes (b : BarScene) : List Shape :=
  b.description.map .caption ++ b.labels.map .caption ++ b.bands ++ b.marks

end BarScene

namespace Scene

def shapes (s : Scene) : List Shape :=
  s.front ++ (s.bar.map BarScene.shapes).getD [] ++ s.image.toList

end Scene

namespace Pixel

def between (a b : Int × Int) : Area :=
  ⟨min a.1 b.1, min a.2 b.2, max a.1 b.1, max a.2 b.2⟩

end Pixel

namespace Chart

structure PlacedTick where
  pixel : Int
  value : Binary64

def ticks (range : Range Binary64) (limit : Nat) (first last : Int) : Outcome (List PlacedTick) :=
  if limit ≠ 0 ∧ range.low.isNaN ∧ range.high.isNaN then .error .unboundedTicks
  else
    let placed := (Tick.positions range limit).map fun v => ⟨Pixel.ofValue range first last v, v⟩
    .ok (placed.filter fun t => decide (min first last ≤ t.pixel ∧ t.pixel ≤ max first last))

def ticksX (c : Chart) (limit : Nat) : Outcome (List PlacedTick) :=
  ticks c.x limit c.area.left (c.area.right - 1)

def ticksY (c : Chart) (limit : Nat) : Outcome (List PlacedTick) :=
  ticks c.y limit (c.area.bottom - 1) c.area.top

def pixelWithin (c : Chart) (point : Binary64 × Binary64) : Int × Int := c.area.nearest (c.pixel point)

def shape (c : Chart) : Mark Binary64 → Shape
  | .path points => .path (points.map c.pixelWithin) Rgb.series 2
  | .dot center radius color => .disc (c.pixelWithin center) radius color
  | .box a b color => .box (Pixel.between (c.pixelWithin a) (c.pixelWithin b)) color

def paint (c : Chart) (b : Bitmap) : Mark Binary64 → Bitmap
  | .path _ => b
  | .dot center radius color => b.disc (c.pixelWithin center) radius color
  | .box a d color => b.fill (Pixel.between (c.pixelWithin a) (c.pixelWithin d)) color

end Chart

namespace Colorbar

def bandCount : Nat := 256

-- The values that a colorbar shows; limits without extent are moved apart.
def shownRange (bar : Colorbar Binary64) : Range Binary64 :=
  if bar.vmin < bar.vmax then ⟨bar.vmin, bar.vmax⟩ else ⟨bar.vmin - 0.5, bar.vmin + 0.5⟩

def bandShape (bar : Colorbar Binary64) (chart : Chart) (i : Nat) : Shape :=
  let step := (chart.y.high - chart.y.low) / Binary64.ofNat bandCount
  let low := chart.y.low + Binary64.ofNat i * step
  let middle := (Binary64.ofNat i + 0.5) / Binary64.ofNat bandCount
  chart.shape (.box (0, low) (1, low + step) (bar.colormap.eval middle))

def tickShape (chart : Chart) (side : Area) (tick : Binary64 × String) : Shape :=
  let (x, y) := chart.pixel (1, tick.1)
  let (x, y) := side.nearest (x + 6, y - 7)
  .caption { text := tick.2, x, y, size := 14 }

def arrow (chart : Chart) (side : Area) (base height : Int) (color : Rgb) : Shape :=
  let left := chart.pixelX 0
  let right := chart.pixelX 1
  let corners := [(left, base), (right, base), (left + (right - left).tdiv 2, base + height)]
  .polygon (corners.map side.nearest) color

def arrows (bar : Colorbar Binary64) (chart : Chart) (side : Area) : List Shape :=
  let above := arrow chart side (chart.pixelY chart.y.high) (-18) bar.overColor
  let below := arrow chart side (chart.pixelY chart.y.low) 18 bar.underColor
  (if bar.extend.marksMax then [above] else []) ++ (if bar.extend.marksMin then [below] else [])

def description (bar : Colorbar Binary64) (labels : Area) : Caption where
  text := bar.axis.label
  x := labels.right
  y := labels.top + labels.height.tdiv 2
  size := 18
  anchor := .bottomEdge
  turned := true

def numericLabel (bar : Colorbar Binary64) (labels : Area) (t : Chart.PlacedTick) : Caption where
  text := bar.axis.tickText t.value
  x := labels.left + 10
  y := t.pixel
  size := 14
  anchor := .leftEdge

def scene (bar : Colorbar Binary64) (side : Area) : Outcome BarScene := do
  let frame := Canvas.barFrame side
  let chart : Chart := ⟨frame.plot, ⟨0, 1⟩, bar.shownRange⟩
  let ticks ← chart.ticksY (if bar.ticks.isSome then 0 else 8)
  return {
    description := frame.right.toList.map bar.description
    labels := frame.right.toList.flatMap fun labels => ticks.map (bar.numericLabel labels)
    bands := (List.range bandCount).map (bar.bandShape chart)
    marks := (bar.ticks.getD []).map (tickShape chart side) ++ bar.arrows chart side }

end Colorbar

namespace Canvas

def ground (c : Canvas) : List Shape :=
  .box c.area Rgb.white :: c.titleLines.mapIdx fun i line =>
    let (x, y) := c.area.nearest (10, 10 + Int.ofNat (titleLineHeight * i))
    .caption { text := line, x, y, size := 22 }

def emptyMessage (main : Area) : Shape :=
  let textWidth := 384
  let left := main.left + main.width.tdiv 2 - textWidth / 2
  let top := main.top + main.height.tdiv 2 - 10
  let (x, y) := main.nearest (left, top)
  .caption { text := "Data Unavailable: No data points", x, y, size := 20, color := Rgb.pureRed }

def chart (c : Canvas) (plot : Area) : Chart :=
  let (x, y) := c.dataRanges
  ⟨plot, x, y⟩

-- The most ticks of an axis: one more than there are categories on a text axis.
def tickLimit (axis : Axis) : Nat :=
  match axis.categories with
  | some categories => categories.length + 1
  | none => 10

def descriptions (c : Canvas) (frame : Frame) : List Caption :=
  let y := frame.left.map fun labels =>
    { text := c.yAxis.label, x := labels.left, y := labels.top + labels.height.tdiv 2, size := 18,
      anchor := .topEdge, turned := true }
  let x := frame.bottom.map fun labels =>
    { text := c.xAxis.label, x := labels.left + labels.width.tdiv 2, y := labels.bottom, size := 18,
      anchor := .bottomEdge }
  y.toList ++ x.toList

def labelY (c : Canvas) (labels : Area) (t : Chart.PlacedTick) : Caption where
  text := c.yAxis.tickText t.value
  x := labels.right - 10
  y := t.pixel
  size := 14
  anchor := .rightEdge

def labelX (c : Canvas) (labels : Area) (t : Chart.PlacedTick) : Caption where
  text := c.xAxis.tickText t.value
  x := t.pixel
  y := labels.top + 10
  size := 14
  anchor := .topEdge

def axisCaptions (c : Canvas) (frame : Frame) (chart : Chart) : Outcome (List Caption) := do
  let ys ← chart.ticksY (tickLimit c.yAxis)
  let xs ← chart.ticksX (tickLimit c.xAxis)
  return c.descriptions frame ++
    (frame.left.toList.flatMap fun labels => ys.map (c.labelY labels)) ++
    (frame.bottom.toList.flatMap fun labels => xs.map (c.labelX labels))

def marksOf (layers : List (Layer Binary64 × Nat)) (bar : Option (Colorbar Binary64)) :
    List (Mark Binary64) :=
  layers.flatMap fun (layer, _) => layer.marks bar

def rasterImage (c : Canvas) (chart : Chart) (bar : Option (Colorbar Binary64)) :
    Outcome Shape := do
  let some blank := Bitmap.white? (UInt32.ofNat c.size.1) (UInt32.ofNat c.size.2)
    | throw (.noPixels c.size)
  let painted := (marksOf c.rasterLayers bar).foldl chart.paint blank
  let some cut := painted.crop? chart.area | throw (.noPixels c.size)
  if !chart.area.isVisible then throw (.emptyImage c.size)
  return .image (c.area.nearest (chart.area.left, chart.area.top)) cut

def scene (c : Canvas) (bar : Option (Colorbar Binary64)) : Outcome Scene := do
  let (main, side) := c.areas bar.isSome
  if c.isEmpty then return { size := c.size, front := c.ground ++ [emptyMessage main] }
  let frame := Canvas.frame main
  let chart := c.chart frame.plot
  let image ← if c.isRasterized then some <$> c.rasterImage chart bar else pure none
  let captions ← c.axisCaptions frame chart
  let barScene ← match bar, side with
    | some bar, some side => some <$> bar.scene side
    | _, _ => pure none
  return {
    size := c.size
    front := c.ground ++ captions.map .caption ++ (marksOf c.vectorLayers bar).map chart.shape
    bar := barScene
    image }

end Canvas

end Labbook
