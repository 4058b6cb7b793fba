import Labbook.Run.Column
import Labbook.Run.Dataset
import Labbook.Text.Csv

namespace Labbook

namespace RunFile

def fieldAt (row : List String) (i : Nat) : String := row.getD i ""

def pieces (separator : Char) (text : String) : List String :=
  (text.toList.splitOnP (· == separator)).map String.ofList

def parameterRow (row : List String) : Outcome Parameter :=
  if (fieldAt row 1).isEmpty then .error .unnamedParameter
  else .ok {
    name := fieldAt row 1
    label := fieldAt row 2
    unit := fieldAt row 3
    dependsOn := ((pieces ';' (fieldAt row 4)).map trimmed).filter fun name => !name.isEmpty }

def shapeRow (row : List String) : Outcome (String × List Nat) :=
  let name := fieldAt row 1
  let dims := fieldAt row 2
  match (pieces 'x' dims).mapM fun d => readNatural Word.bound64 (trimmed d) with
  | some sizes =>
    if name.isEmpty then .error (.invalidShape name dims) else .ok (name, sizes)
  | none => .error (.invalidShape name dims)

def runIdRow (row : List String) : Outcome Nat :=
  match readNatural Word.bound64 (fieldAt row 1) with
  | some id => .ok id
  | none => .error (.invalidRunId (fieldAt row 1))

structure Opened where
  dataset : Dataset
  header : List String
  rows : List (List String)

def preamble (d : Dataset) : List (List String) → Outcome Opened
  | [] => .error .missingHeader
  | row :: rest =>
    match fieldAt row 0 with
    | "run_id" => do preamble { d with runId := ← runIdRow row } rest
    | "exp_name" => preamble { d with expName := fieldAt row 1 } rest
    | "sample_name" => preamble { d with sampleName := fieldAt row 1 } rest
    | "parameter" => do preamble { d with parameters := d.parameters ++ [← parameterRow row] } rest
    | "shape" => do
      let (name, dims) ← shapeRow row
      preamble { d with shapes := d.shapes.insert name dims } rest
    | _ => .ok ⟨d, row, rest⟩

-- Adds a column. A name without a declaration becomes a setpoint; of two columns with one name the
-- later stays.
def addColumn (d : Dataset) (name : String) (fields : List String) : Dataset :=
  { d with
    parameters :=
      if (d.parameter? name).isSome then d.parameters else d.parameters ++ [{ name }]
    columns := d.columns.insert name (RecordData.ofFields fields) }

def columnFields (rows : List (List String)) (i : Nat) : List String := rows.map (fieldAt · i)

def columns (o : Opened) : List (String × List String) :=
  o.header.mapIdx fun i name => (name, columnFields o.rows i)

def ofRecords (records : List (List String)) : Outcome Dataset := do
  let opened ← preamble {} (records.filter fun row => !row.all String.isEmpty)
  return (columns opened).foldl (fun d (name, fields) => addColumn d name fields) opened.dataset

def read (text : String) : Outcome Dataset := ofRecords (Csv.records text)

end RunFile

end Labbook
