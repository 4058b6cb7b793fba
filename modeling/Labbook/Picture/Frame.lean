import Labbook.Picture.Pixel
import Labbook.Plot.Canvas
import Labbook.Text.Wrap

namespace Labbook

namespace Area

def nearest (a : Area) (point : Int × Int) : Int × Int :=
  (max (min point.1 a.right) a.left, max (min point.2 a.bottom) a.top)

def isVisible (a : Area) : Bool := a.left < a.right && a.top < a.bottom

end Area

structure Frame where
  plot : Area
  left : Option Area
  bottom : Option Area
  right : Option Area

namespace Frame

-- The cuts of a length between two ends, in ascending order. Cuts of a length without room for them
-- change places with its ends.
def cuts (low high before after : Int) : List Int :=
  [low, high, low + before, high - after].mergeSort fun a b => decide (a ≤ b)

def divide (a : Area) (left bottom right : Int) : Frame :=
  let xs := cuts a.left a.right left right
  let ys := cuts a.top a.bottom 0 bottom
  let cell (i j : Nat) : Area :=
    ⟨xs.getD i 0, ys.getD j 0, xs.getD (i + 1) 0, ys.getD (j + 1) 0⟩
  let labels (i j : Nat) : Option Area := some (cell i j) |>.filter Area.isVisible
  { plot := cell 1 1, left := labels 0 1, bottom := labels 1 2, right := labels 2 1 }

end Frame

namespace Canvas

def titleLineHeight : Nat := 28

def colorbarWidth : Int := 150

def titleLines (c : Canvas) : List String := wrapTitle titleWidth c.title

def area (c : Canvas) : Area := ⟨0, 0, c.size.1, c.size.2⟩

def body (c : Canvas) : Area :=
  c.area.inset (10 + Int.ofNat (titleLineHeight * c.titleLines.length)) 5 5 5

-- The column at which the colorbar begins, counted from the left of a body. A body that is narrower
-- than a colorbar is all colorbar.
def colorbarStart (body : Area) : Int :=
  if 0 ≤ body.width ∧ body.width < colorbarWidth then 0 else body.width - colorbarWidth

def areas (c : Canvas) (hasColorbar : Bool) : Area × Option Area :=
  if hasColorbar then
    let (main, side) := c.body.splitAt (colorbarStart c.body)
    (main, some side)
  else (c.body, none)

def frame (main : Area) : Frame := .divide (main.inset 5 5 5 5) 70 50 0

def barFrame (side : Area) : Frame := .divide (side.inset 25 55 5 5) 0 0 95

end Canvas

end Labbook
