import Labbook.Analysis.Setpoint
import Std.Data.HashSet

namespace Labbook

inductive PlotType where
  | line1D
  | point1D
  | bar1D
  | grid2D
  | equidistant2D
  | point2D
  | unknown2D
  deriving DecidableEq

namespace PlotType

def name : PlotType → String
  | line1D => "1D_line"
  | point1D => "1D_point"
  | bar1D => "1D_bar"
  | grid2D => "2D_grid"
  | equidistant2D => "2D_equidistant"
  | point2D => "2D_point"
  | unknown2D => "2D_unknown"

def isMesh : PlotType → Bool
  | grid2D | equidistant2D => true
  | _ => false

def distinctFrom {β : Type} [BEq β] [Hashable β] (seen : Std.HashSet β) : List β → Bool
  | [] => true
  | b :: rest => if seen.contains b then false else distinctFrom (seen.insert b) rest

def distinct {β : Type} [BEq β] [Hashable β] (items : List β) : Bool := distinctFrom ∅ items

def ofSetpoints (values : List Binary64) : PlotType :=
  if values.length < 2 || Setpoint.allTheSame values then point1D else line1D

-- Text labels give bars when they are distinct, numbers a line when they are not all the same. Text as
-- the measured variable always gives points.
def of1D (x y : RecordData) : PlotType :=
  if y.isText then point1D
  else match x with
    | .text labels => if distinct labels.cells then bar1D else point1D
    | .numeric values => ofSetpoints values.cells
    | .complex values => ofSetpoints (values.cells.map ComplexSample.re)

def pairsUnique (x y : List Binary64) : Bool :=
  distinct ((x.zip y).map fun (a, b) => (a.bits, b.bits))

-- Lengths of the runs of equal neighbours, `count` being that of the run of `value` so far.
def runLengthsFrom (value : Binary64) (count : Nat) : List Binary64 → List Nat
  | [] => [count]
  | v :: rest =>
    if value.equals v then runLengthsFrom value (count + 1) rest
    else count :: runLengthsFrom v 1 rest

def runLengths : List Binary64 → List Nat
  | [] => []
  | v :: rest => runLengthsFrom v 1 rest

-- Whether every outer value stands in one run, the last run alone shorter than the inner sweep.
def isInterruptedSweep (outer : List Binary64) (inner : Nat) : Bool :=
  let runs := runLengths outer
  (Setpoint.uniqueSorted outer).length == runs.length &&
    match runs.getLast? with
    | some last => runs.dropLast.all (· == inner) && last ≤ inner
    | none => false

def measuredPairs (x y : List Binary64) : List (Binary64 × Binary64) :=
  (x.zip y).filter fun (a, b) => !a.isNaN && !b.isNaN

def of2D (x y : List Binary64) : PlotType :=
  let pairs := measuredPairs x y
  let xs := pairs.map (·.1)
  let ys := pairs.map (·.2)
  if pairs.isEmpty then unknown2D
  else if Setpoint.allTheSame xs || Setpoint.allTheSame ys then point2D
  else if !pairsUnique xs ys then unknown2D
  else
    let ux := Setpoint.uniqueSorted xs
    let uy := Setpoint.uniqueSorted ys
    if ux.length * uy.length == pairs.length then
      if Setpoint.isEquidistant ux && Setpoint.isEquidistant uy then equidistant2D else grid2D
    else if isInterruptedSweep xs uy.length || isInterruptedSweep ys ux.length then grid2D
    else unknown2D

end PlotType

end Labbook
