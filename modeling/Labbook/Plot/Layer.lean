import Labbook.Plot.Axis
import Labbook.Data.Grid

namespace Labbook

-- Coloured cells. `z` has a row for every `y` and a column for every `x`.
structure Mesh (α : Type) where
  x : List α
  y : List α
  z : Grid α
  rasterized : Bool

structure Scatter (α : Type) where
  points : List (α × α × α)
  rasterized : Bool

inductive Layer (α : Type) where
  | line (points : List (α × α))
  | points (points : List (α × α))
  | bars (bars : List (α × α))
  | mesh (mesh : Mesh α)
  | scatter (scatter : Scatter α)

-- The edges of the cells around sorted centres: half way between neighbours, as far beyond the ends as
-- before them, and a unit apart around a single centre.
def cellEdges {α : Type} [Scalar α] : List α → List α
  | [] => []
  | [c] => [c - 0.5, c + 0.5]
  | c :: d :: rest => (c - (d - c) / 2.0) :: inner c d rest
where
  inner (c d : α) : List α → List α
    | [] => [(c + d) / 2.0, d + (d - c) / 2.0]
    | e :: rest => (c + d) / 2.0 :: inner d e rest

structure Bounds (α : Type) where
  left : α
  right : α
  bottom : α
  top : α

namespace Bounds

variable {α : Type} [Scalar α]

def add (bounds : Option (Bounds α)) (point : α × α) : Option (Bounds α) :=
  let (x, y) := point
  if Scalar.isFinite x && Scalar.isFinite y then
    some (match bounds with
      | none => ⟨x, x, y, y⟩
      | some b =>
        ⟨Scalar.lesser b.left x, Scalar.greater b.right x, Scalar.lesser b.bottom y,
          Scalar.greater b.top y⟩)
  else bounds

def around (points : List (α × α)) : Option (Bounds α) := points.foldl add none

end Bounds

namespace Layer

variable {α : Type}

def isRasterized : Layer α → Bool
  | mesh m => m.rasterized
  | scatter s => s.rasterized
  | _ => false

def usesColorbar : Layer α → Bool
  | mesh _ | scatter _ => true
  | _ => false

def isMesh : Layer α → Bool
  | mesh _ => true
  | _ => false

def colorValues : Layer α → List α
  | mesh m => m.z.toList
  | scatter s => s.points.map (·.2.2)
  | _ => []

variable [Scalar α]

def barHalfWidth : α := 0.4

def corners : Layer α → List (α × α)
  | line ps | points ps => ps
  | bars ps => ps.flatMap fun (x, y) => [(x - barHalfWidth, 0.0), (x + barHalfWidth, y)]
  | mesh m =>
    let xs := cellEdges m.x
    let ys := cellEdges m.y
    match xs.head?, xs.getLast?, ys.head?, ys.getLast? with
    | some x0, some x1, some y0, some y1 => [(x0, y0), (x1, y1)]
    | _, _, _, _ => []
  | scatter s => s.points.map fun (x, y, _) => (x, y)

def boundsOf (layers : List (Layer α)) : Option (Bounds α) :=
  (layers.filterMap fun layer => Bounds.around layer.corners).foldl
    (fun all b => Bounds.add (Bounds.add all (b.left, b.bottom)) (b.right, b.top)) none

-- The range of an axis. A text axis spans its categories, an axis of nothing but meshes ends at their
-- edges, and any other has room around its points.
def axisRange (axis : Axis) (tight : Bool) (low high : α) : Range α :=
  match axis.categories with
  | some categories => ⟨-0.5, Scalar.ofNat (max categories.length 1) - 0.5⟩
  | none => if tight ∧ low < high then ⟨low, high⟩ else Range.padded low high

def ranges (x y : Axis) (layers : List (Layer α)) : Range α × Range α :=
  let b := (boundsOf layers).getD ⟨0.0, 1.0, 0.0, 1.0⟩
  let tight := !layers.isEmpty && layers.all isMesh
  (axisRange x tight b.left b.right, axisRange y tight b.bottom b.top)

end Layer

end Labbook
