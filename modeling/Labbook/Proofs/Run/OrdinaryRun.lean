import Labbook.Analysis.Setpoint
import Labbook.Proofs.Number.WordOrder
import Labbook.Proofs.Run.Grouping
import Labbook.Proofs.Table

namespace Labbook

def RecordData.isOrdinary : RecordData → Bool
  | numeric t => t.cells.all Binary64.isFinite
  | _ => false

def Dataset.Ordinary (d : Dataset) : Prop := ∀ entry ∈ d.columns, entry.2.isOrdinary = true

instance (d : Dataset) : Decidable d.Ordinary :=
  inferInstanceAs (Decidable (∀ entry ∈ d.columns, _))

-- The values of a record: finite numbers, and behind them the places of a grid that were not reached.
def Sampled (count gap : Nat) (values : AxisValues) : Prop :=
  ∃ own : List Binary64, own.length = count ∧ (∀ v ∈ own, v.isFinite = true) ∧
    values = ⟨own ++ List.replicate gap .nan, none⟩

namespace Sampled
variable {count gap : Nat} {xs ys : AxisValues} {v : Binary64} {point : Binary64 × Binary64}

theorem categories (sampled : Sampled count gap xs) : xs.categories = none := by
  obtain ⟨own, -, -, rfl⟩ := sampled
  rfl

theorem finite (sampled : Sampled count gap xs) (member : v ∈ xs.values) (measured : v.isNaN = false) :
    v.isFinite = true := by
  obtain ⟨own, -, numbers, rfl⟩ := sampled
  rcases List.mem_append.mp member with own | unreached
  · exact numbers v own
  · rw [List.eq_of_mem_replicate unreached] at measured
    cases measured

theorem full (sampled : Sampled count 0 xs) (member : v ∈ xs.values) : v.isFinite = true := by
  obtain ⟨own, -, numbers, rfl⟩ := sampled
  exact numbers v (by simpa using member)

theorem zip (sampledX : Sampled count gap xs) (sampledY : Sampled count gap ys)
    (member : point ∈ xs.values.zip ys.values) :
    point = (.nan, .nan) ∨ point.1.isFinite = true ∧ point.2.isFinite = true := by
  obtain ⟨ownX, lengthX, numbersX, rfl⟩ := sampledX
  obtain ⟨ownY, lengthY, numbersY, rfl⟩ := sampledY
  rw [List.zip_append (lengthX.trans lengthY.symm)] at member
  rcases List.mem_append.mp member with own | unreached
  · obtain ⟨inX, inY⟩ := List.of_mem_zip own
    exact .inr ⟨numbersX _ inX, numbersY _ inY⟩
  · obtain ⟨inX, inY⟩ := List.of_mem_zip unreached
    exact .inl (Prod.ext (List.eq_of_mem_replicate inX) (List.eq_of_mem_replicate inY))

end Sampled

namespace Dataset
variable {d : Dataset} {p : Parameter} {group : PlotGroup}

theorem Ordinary.column (ordinary : d.Ordinary) {name : String} {data : RecordData}
    (found : d.columns.find? name = some data) :
    ∃ t : Tensor Binary64, data = .numeric t ∧ ∀ v ∈ t.cells, v.isFinite = true := by
  have numbers := ordinary _ (Table.mem_of_find? found)
  dsimp only at numbers
  cases data with
  | numeric t => exact ⟨t, rfl, List.all_eq_true.mp numbers⟩
  | complex t => cases numbers
  | text t => cases numbers

theorem group_samples (ordinary : d.Ordinary) (done : d.group p = .ok group) :
    ∃ count gap, (d.shapes.find? p.name = none → gap = 0) ∧ ∀ r ∈ group,
      r.shape = d.shapes.find? p.name ∧ r.data.isComplex = false ∧
        Sampled count gap r.data.axisValues := by
  obtain ⟨count, even⟩ := group_even done
  refine ⟨count, ((d.shapes.find? p.name).map fun dims => cellCount dims - count).getD 0, ?_, ?_⟩
  · intro free
    rw [free]
    rfl
  · intro r member
    obtain ⟨column, shows⟩ := (group_shows done).1 r member
    obtain ⟨t, rfl, numbers⟩ := ordinary.column shows.found
    have size : t.cells.length = count := even r member _ shows.found
    have fits := shows.fits
    rw [shows.shape] at fits
    refine ⟨shows.shape, ?_, t.cells, size, numbers, ?_⟩
    · rw [shows.data, RecordData.isComplex_onShape]
      rfl
    · rw [shows.data, shows.shape]
      cases shape : d.shapes.find? p.name with
      | none => simp [RecordData.onShape, RecordData.axisValues]
      | some dims =>
        have room : t.cells.length ≤ cellCount dims := fits dims shape
        simp [RecordData.onShape, RecordData.padded, RecordData.axisValues, Tensor.padded,
          List.take_of_length_le room, size]

end Dataset

end Labbook
