import Labbook.Data.Tensor
import Labbook.Number.Binary64

namespace Labbook

structure ComplexSample where
  re : Binary64
  im : Binary64
  deriving DecidableEq, Inhabited

inductive RecordData where
  | numeric (values : Tensor Binary64)
  | complex (values : Tensor ComplexSample)
  | text (values : Tensor String)

namespace RecordData

def dims : RecordData → List Nat
  | numeric t => t.dims
  | complex t => t.dims
  | text t => t.dims

def size : RecordData → Nat
  | numeric t => t.size
  | complex t => t.size
  | text t => t.size

def isText : RecordData → Bool
  | text _ => true
  | _ => false

def isComplex : RecordData → Bool
  | complex _ => true
  | _ => false

def reshaped (dims : List Nat) : RecordData → Outcome RecordData
  | numeric t => .numeric <$> t.reshaped dims .nan
  | complex t => .complex <$> t.reshaped dims ⟨.nan, .nan⟩
  | text t => .text <$> t.reshaped dims ""

end RecordData

def axisLabel (label unit : String) : String :=
  if unit.isEmpty then label else label ++ " (" ++ unit ++ ")"

-- The samples of one variable. `shape` holds the dimensions of the grid that the variable was measured
-- on, when it is known.
structure Record where
  name : String
  label : String
  unit : String
  data : RecordData
  shape : Option (List Nat)

namespace Record

def displayLabel (r : Record) : String := if r.label.isEmpty then r.name else r.label

def axisLabel (r : Record) : String := Labbook.axisLabel r.displayLabel r.unit

end Record

-- The records of one sweep: setpoints first, the measured variable last.
abbrev PlotGroup := List Record

end Labbook
