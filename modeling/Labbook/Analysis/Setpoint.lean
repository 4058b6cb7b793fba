import Labbook.Number.Scalar
import Labbook.Data.Record

namespace Labbook

variable {α : Type}

-- Keeps the first of each run of neighbours that are the same as the one kept before.
def dropRepeatsAfter (same : α → α → Bool) (last : α) : List α → List α
  | [] => []
  | a :: rest =>
    if same last a then dropRepeatsAfter same last rest else a :: dropRepeatsAfter same a rest

def dropRepeats (same : α → α → Bool) : List α → List α
  | [] => []
  | a :: rest => a :: dropRepeatsAfter same a rest

namespace Setpoint

section
variable [Scalar α]

def isClose (a b : α) : Bool := Scalar.absolute (a - b) ≤ (1e-8 : α) + 1e-5 * Scalar.absolute b

def measured (values : List α) : List α := values.filter fun v => !Scalar.isNaN v

def allTheSame (values : List α) : Bool :=
  match measured values with
  | [] => true
  | first :: rest => rest.all fun v => isClose v first

def steps (values : List α) : List α := List.zipWith (· - ·) (values.drop 1) values

def isEquidistant (sorted : List α) : Bool :=
  if sorted.length < 3 then true
  else match steps sorted with
    | [] => true
    | step :: rest => (step :: rest).all fun s => isClose s step

end

-- The distinct measured values in ascending order. Of the two zeros the one that comes first in the
-- total order stands for both.
def uniqueSorted (values : List Binary64) : List Binary64 :=
  dropRepeats Binary64.equals ((measured values).mergeSort Binary64.precedes)

def distinctTexts (texts : List String) : List String :=
  dropRepeats (· == ·) (texts.mergeSort fun a b => decide (a ≤ b))

def textPositions (texts : List String) : List Binary64 × List String :=
  let categories := distinctTexts texts
  (texts.map fun t => Binary64.ofNat (categories.idxOf t), categories)

end Setpoint

structure AxisValues where
  values : List Binary64
  categories : Option (List String)

def RecordData.axisValues : RecordData → AxisValues
  | .numeric t => ⟨t.cells, none⟩
  | .text t =>
    let (values, categories) := Setpoint.textPositions t.cells
    ⟨values, some categories⟩
  | .complex t => ⟨t.cells.map ComplexSample.re, none⟩

end Labbook
