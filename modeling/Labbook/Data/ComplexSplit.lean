import Labbook.Data.Record

namespace Labbook

inductive Conversion where
  | realAndImag
  | magAndPhase
  deriving DecidableEq

namespace Conversion

def name : Conversion → String
  | realAndImag => "real_and_imag"
  | magAndPhase => "mag_and_phase"

def ofName (text : String) : Outcome Conversion :=
  if text = realAndImag.name then .ok realAndImag
  else if text = magAndPhase.name then .ok magAndPhase
  else .error (.unknownConversion text)

end Conversion

inductive PhaseUnit where
  | radians
  | degrees
  deriving DecidableEq

namespace PhaseUnit

def symbol : PhaseUnit → String
  | radians => "rad"
  | degrees => "deg"

def ofName (text : String) : Outcome PhaseUnit :=
  if text = "radians" then .ok radians
  else if text = "degrees" then .ok degrees
  else .error (.unknownPhase text)

end PhaseUnit

namespace ComplexSample

def norm (c : ComplexSample) : Binary64 := Binary64.hypotenuse c.re c.im

def phase (unit : PhaseUnit) (c : ComplexSample) : Binary64 :=
  let radians := Binary64.angle c.im c.re
  match unit with
  | .radians => radians
  | .degrees => radians * 57.29577951308232

end ComplexSample

namespace Record

def part (r : Record) (values : Tensor ComplexSample) (suffix unit : String)
    (f : ComplexSample → Binary64) : Record where
  name := r.name ++ "_" ++ suffix
  label := r.label ++ " [" ++ suffix ++ "]"
  unit := unit
  data := .numeric (values.map f)
  shape := r.shape

def parts (conversion : Conversion) (phase : PhaseUnit) (r : Record) : Record × Record :=
  match r.data with
  | .complex values =>
    match conversion with
    | .realAndImag =>
      (r.part values "real" r.unit ComplexSample.re, r.part values "imag" r.unit ComplexSample.im)
    | .magAndPhase =>
      (r.part values "mag" r.unit ComplexSample.norm,
        r.part values "phase" phase.symbol (ComplexSample.phase phase))
  | _ => (r, r)

def expanded (conversion : Conversion) (phase : PhaseUnit) (r : Record) : List Record :=
  if r.data.isComplex then
    let (first, second) := r.parts conversion phase
    [first, second]
  else [r]

end Record

def splitGroup (conversion : Conversion) (phase : PhaseUnit) (group : PlotGroup) : List PlotGroup :=
  match group.getLast? with
  | none => [group]
  | some dependent =>
    let setpoints := group.dropLast.flatMap (Record.expanded conversion phase)
    (dependent.expanded conversion phase).map fun part => setpoints ++ [part]

def splitComplex (conversion : Conversion) (phase : PhaseUnit) (groups : List PlotGroup) :
    List PlotGroup :=
  groups.flatMap (splitGroup conversion phase)

-- Splits with both choices given by name; the conversion is looked at first.
def splitComplexByName (conversion phase : String) (groups : List PlotGroup) :
    Outcome (List PlotGroup) := do
  let conversion ← Conversion.ofName conversion
  let phase ← PhaseUnit.ofName phase
  return splitComplex conversion phase groups

end Labbook
