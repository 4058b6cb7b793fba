import Labbook.Plot.Axis

namespace Labbook

-- The pixels with `left ≤ x < right` and `top ≤ y < bottom`.
structure Area where
  left : Int
  top : Int
  right : Int
  bottom : Int

namespace Area

def width (a : Area) : Int := a.right - a.left

def height (a : Area) : Int := a.bottom - a.top

def inset (a : Area) (top bottom left right : Int) : Area :=
  ⟨a.left + left, a.top + top, a.right - right, a.bottom - bottom⟩

def splitAt (a : Area) (column : Int) : Area × Area :=
  ({ a with right := a.left + column }, { a with left := a.left + column })

end Area

namespace Pixel

def wrap (n : Int) : Int := n.bmod Word.bound32

-- The pixel of a value when `range` is spread from the pixel `first` to the pixel `last`, which may
-- lie before it. A thousandth of a pixel makes up for rounding. A range without extent has its values
-- at half the distance.
def ofValue (range : Range Binary64) (first last : Int) (value : Binary64) : Int :=
  if range.low.equals range.high then (last - first).tdiv 2
  else
    let share := (value - range.low) / (range.high - range.low)
    let length := last - first
    if length = 0 then last
    else if share.isInfinite then (if share.isNegative then first else last)
    else
      let distance := Binary64.ofBinary (length < 0) length.natAbs 0 * share
      if 0 < length then wrap (first + (distance + 1e-3).floor.toInt32)
      else wrap (first + (distance - 1e-3).ceil.toInt32)

end Pixel

structure Chart where
  area : Area
  x : Range Binary64
  y : Range Binary64

namespace Chart

def pixelX (c : Chart) (value : Binary64) : Int :=
  Pixel.ofValue c.x c.area.left (c.area.right - 1) value

-- Values grow upwards, pixel rows downwards.
def pixelY (c : Chart) (value : Binary64) : Int :=
  Pixel.ofValue c.y (c.area.bottom - 1) c.area.top value

def pixel (c : Chart) (point : Binary64 × Binary64) : Int × Int :=
  (c.pixelX point.1, c.pixelY point.2)

end Chart

end Labbook
