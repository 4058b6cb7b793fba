import Labbook.Color.Rgb
import Labbook.Number.Fraction
import Labbook.Picture.Pixel

namespace Labbook

structure Bitmap where
  width : Nat
  height : Nat
  bytes : ByteArray
  size_bytes : bytes.size = 3 * (width * height)

namespace Bitmap

def byteCount (width height : UInt32) : UInt32 := width * height * 3

def pushFull (count : Nat) (bytes : ByteArray) : ByteArray :=
  match count with
  | 0 => bytes
  | n + 1 => pushFull n (bytes.push 255)

theorem size_pushFull (count : Nat) (bytes : ByteArray) :
    (pushFull count bytes).size = bytes.size + count := by
  induction count generalizing bytes with
  | zero => rfl
  | succ n ih => rw [pushFull, ih, ByteArray.size_push]; omega

def whiteBytes (width height : UInt32) : ByteArray := pushFull (byteCount width height).toNat .empty

def white? (width height : UInt32) : Option Bitmap :=
  let bytes := whiteBytes width height
  if h : bytes.size = 3 * (width.toNat * height.toNat) then
    some ⟨width.toNat, height.toNat, bytes, h⟩
  else none

def setBytes (bytes : ByteArray) (i : Nat) (c : Rgb) : ByteArray :=
  ((bytes.set! i c.red).set! (i + 1) c.green).set! (i + 2) c.blue

theorem size_setBytes (bytes : ByteArray) (i : Nat) (c : Rgb) :
    (setBytes bytes i c).size = bytes.size := by
  simp [setBytes]

def paint (b : Bitmap) (x y : Nat) (c : Rgb) : Bitmap :=
  if x < b.width ∧ y < b.height then
    ⟨b.width, b.height, setBytes b.bytes (3 * (y * b.width + x)) c, by
      rw [size_setBytes, b.size_bytes]⟩
  else b

def pixel? (b : Bitmap) (x y : Nat) : Option Rgb :=
  if x < b.width ∧ y < b.height then
    let i := 3 * (y * b.width + x)
    some ⟨b.bytes.get! i, b.bytes.get! (i + 1), b.bytes.get! (i + 2)⟩
  else none

def fillRow (c : Rgb) (y x count : Nat) (b : Bitmap) : Bitmap :=
  match count with
  | 0 => b
  | n + 1 => fillRow c y (x + 1) n (b.paint x y c)

def fillRows (c : Rgb) (x width y count : Nat) (b : Bitmap) : Bitmap :=
  match count with
  | 0 => b
  | n + 1 => fillRows c x width (y + 1) n (fillRow c y x width b)

def fill (a : Area) (c : Rgb) (b : Bitmap) : Bitmap :=
  let left := a.left.toNat
  let top := a.top.toNat
  let right := min a.right.toNat b.width
  let bottom := min a.bottom.toNat b.height
  fillRows c left (right - left) top (bottom - top) b

def mixChannel (weight : Nat) (old new : UInt8) : UInt8 :=
  if old < new then old + UInt8.ofNat ((new - old).toNat * weight / 256)
  else old - UInt8.ofNat ((old - new).toNat * weight / 256)

-- Mixes a colour into a pixel with a weight in 256ths; the largest weight covers it.
def mix (x y : Int) (c : Rgb) (weight : Nat) (b : Bitmap) : Bitmap :=
  if x < 0 ∨ y < 0 then b
  else match b.pixel? x.toNat y.toNat with
    | none => b
    | some old =>
      let mixed : Rgb :=
        ⟨mixChannel weight old.red c.red, mixChannel weight old.green c.green,
          mixChannel weight old.blue c.blue⟩
      b.paint x.toNat y.toNat (if 255 ≤ weight then c else mixed)

-- How far a disc reaches at a distance from its centre line: whole pixels, and 256ths of the next. On
-- the centre line the last pixel counts as the next.
def reach (radius distance : Nat) : Nat × Nat :=
  if distance = 0 then (radius - 1, 255)
  else
    let root := rootFloor ((radius * radius - distance * distance) * 65536)
    (root / 256, root % 256)

-- Paints the row and the column of a disc at a signed distance from its centre. `middle` is half the
-- side of the square in the middle of the disc, which its rows cover.
def discLine (center : Int × Int) (radius middle : Nat) (c : Rgb) (b : Bitmap) (distance : Int) :
    Bitmap :=
  let (cx, cy) := center
  let (whole, weight) := reach radius distance.natAbs
  let whole := Int.ofNat whole
  let middle := Int.ofNat middle
  let x := cx + distance
  let y := cy + distance
  b |> fill ⟨cx - whole, y, cx + whole + 1, y + 1⟩ c
    |> fill ⟨x, cy - whole, x + 1, cy - middle⟩ c
    |> fill ⟨x, cy + middle + 1, x + 1, cy + whole + 1⟩ c
    |> mix (cx - whole - 1) y c weight
    |> mix (cx + whole + 1) y c weight
    |> mix x (cy - whole - 1) c weight
    |> mix x (cy + whole + 1) c weight

def disc (center : Int × Int) (radius : Nat) (c : Rgb) (b : Bitmap) : Bitmap :=
  let middle := rootFloor (radius * radius / 2)
  let distances := (List.range (2 * middle + 1)).map fun i => Int.ofNat i - Int.ofNat middle
  distances.foldl (discLine center radius middle c) b

def rowSlice (bytes : ByteArray) (width x count row : Nat) : ByteArray :=
  let first := 3 * (row * width + x)
  bytes.extract first (first + 3 * count)

def cropRows (bytes : ByteArray) (width x count : Nat) (done : ByteArray) (y : Nat) :
    Nat → ByteArray
  | 0 => done
  | rows + 1 =>
    cropRows bytes width x count (done ++ rowSlice bytes width x count y) (y + 1) rows

def crop? (b : Bitmap) (a : Area) : Option Bitmap :=
  let x := a.left.toNat
  let y := a.top.toNat
  let width := a.width.toNat
  let height := a.height.toNat
  if 0 ≤ a.left ∧ 0 ≤ a.top ∧ x + width ≤ b.width ∧ y + height ≤ b.height then
    let bytes := cropRows b.bytes b.width x width .empty y height
    if h : bytes.size = 3 * (width * height) then some ⟨width, height, bytes, h⟩ else none
  else none

end Bitmap

end Labbook
