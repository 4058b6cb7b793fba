import Labbook.Data.Record
import Labbook.Data.Table

namespace Labbook

structure Parameter where
  name : String
  label : String := ""
  unit : String := ""
  -- The parameters it was swept against, none for a setpoint.
  dependsOn : List String := []

def Parameter.isDependent (p : Parameter) : Bool := !p.dependsOn.isEmpty

structure Dataset where
  runId : Nat := 0
  expName : String := ""
  sampleName : String := ""
  parameters : List Parameter := []
  columns : Table RecordData := []
  -- Grid dimensions of the dependent parameters that were swept on a known grid.
  shapes : Table (List Nat) := []

namespace Dataset

def parameter? (d : Dataset) (name : String) : Option Parameter :=
  d.parameters.find? (·.name == name)

def dependents (d : Dataset) : List Parameter := d.parameters.filter Parameter.isDependent

def title (d : Dataset) : String :=
  "Run #" ++ toString d.runId ++ ", Experiment " ++ d.expName ++ " (" ++ d.sampleName ++ ")"

def record (d : Dataset) (p : Parameter) : Outcome Record :=
  match d.columns.find? p.name with
  | some data => .ok { name := p.name, label := p.label, unit := p.unit, data, shape := none }
  | none => .error (.missingColumn d.runId p.name)

def setpointRecord (d : Dataset) (dependent : Parameter) (name : String) : Outcome Record :=
  match d.parameter? name with
  | some p => d.record p
  | none => .error (.unknownDependency dependent.name name)

def onGrid (dims : List Nat) (r : Record) : Outcome Record := do
  let data ← r.data.reshaped dims
  return { r with data, shape := some dims }

def group (d : Dataset) (dependent : Parameter) : Outcome PlotGroup := do
  let setpoints ← dependent.dependsOn.mapM (d.setpointRecord dependent)
  let measured ← d.record dependent
  let records := setpoints ++ [measured]
  if records.any fun r => r.data.size != measured.data.size then
    throw (.unequalCounts dependent.name)
  match d.shapes.find? dependent.name with
  | some dims => records.mapM (onGrid dims)
  | none => return records

def groups (d : Dataset) : Outcome (List PlotGroup) := d.dependents.mapM d.group

end Dataset

end Labbook
