import Labbook.Analysis.Setpoint
import Labbook.Data.Grid
import Labbook.Error

namespace Labbook

structure MeshData where
  x : List Binary64
  y : List Binary64
  z : Grid Binary64

namespace MeshData

def place (x y : List Binary64) (z : Grid Binary64) (point : Binary64 × Binary64 × Binary64) :
    Grid Binary64 :=
  let (px, py, value) := point
  if px.isNaN || py.isNaN then z
  else match y.idxOf? py, x.idxOf? px with
    | some row, some col => z.set row col value
    | _, _ => z

def points (x y z : List Binary64) : List (Binary64 × Binary64 × Binary64) := x.zip (y.zip z)

-- The grid spanned by the distinct setpoints. A cell holds the last value measured there.
def layOut (x y z : List Binary64) : MeshData :=
  let xs := Setpoint.uniqueSorted x
  let ys := Setpoint.uniqueSorted y
  ⟨xs, ys, (points x y z).foldl (place xs ys) (Grid.replicate ys.length xs.length .nan)⟩

-- Whether two setpoints have a distance. A NaN has none to anything, an infinity none to itself.
def haveDistance (a b : Binary64) : Bool :=
  !a.isNaN && !b.isNaN && !(a.isInfinite && a.equals b)

-- Whether setpoints are equal to their references wherever the two have a distance, and have one
-- somewhere.
def agree (pairs : List (Binary64 × Binary64)) : Bool :=
  let compared := pairs.filter fun (a, b) => haveDistance a b
  !compared.isEmpty && compared.all fun (a, b) => a.equals b

def isRectilinear (x y : Grid Binary64) : Bool :=
  x.cols != 0 && y.rows != 0 &&
    agree (x.indexed.map fun (row, _, v) => (v, (x.get? row 0).getD .nan)) &&
    agree (y.indexed.map fun (_, col, v) => (v, (y.get? 0 col).getD .nan))

def measuredAt (values : List Binary64) : List Nat :=
  (List.range values.length).filter fun i => !(values.getD i .nan).isNaN

-- Drops the rows without a first `x` and the columns without a first `y`. The sweep's rows become the
-- columns of the mesh. Setpoints that are not rectilinear are laid out point by point.
def clipUnmeasured (x y z : Grid Binary64) : MeshData :=
  if isRectilinear x y then
    let rows := measuredAt x.firstColumn
    let cols := measuredAt y.firstRow
    ⟨rows.map fun i => x.firstColumn.getD i .nan,
      cols.map fun j => y.firstRow.getD j .nan,
      Grid.ofFn cols.length rows.length fun b a =>
        (z.get? (rows.getD a 0) (cols.getD b 0)).getD .nan⟩
  else
    let measured := (points x.toList y.toList z.toList).filter fun (px, py, _) =>
      !px.isNaN && !py.isNaN
    layOut (measured.map (·.1)) (measured.map (·.2.1)) (measured.map (·.2.2))

-- `clipUnmeasured` for grids that may differ in size: it fails when `z` lacks a row or a column that
-- is kept.
def clipUnmeasured? (x y z : Grid Binary64) : Outcome MeshData :=
  if isRectilinear x y &&
      ((measuredAt x.firstColumn).any (z.rows ≤ ·) || (measuredAt y.firstRow).any (z.cols ≤ ·)) then
    .error (.valuesMissing z.rows z.cols)
  else .ok (clipUnmeasured x y z)

end MeshData

end Labbook
