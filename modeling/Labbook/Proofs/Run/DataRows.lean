import Labbook.Proofs.Run.Grouping
import Labbook.Proofs.Table
import Labbook.Run.RunFile

namespace Labbook

namespace RecordData

theorem size_ofFields (fields : List String) : (ofFields fields).size = fields.length := by
  unfold ofFields
  dsimp only
  split
  · simp [size, Tensor.size, Tensor.ofList]
  · split <;> simp [size, Tensor.size, Tensor.ofList]

end RecordData

namespace RunFile

def IsLast (names : List String) (name : String) (i : Nat) : Prop :=
  names[i]? = some name ∧ ∀ j, i < j → names[j]? ≠ some name

theorem exists_isLast {names : List String} {name : String} (member : name ∈ names) :
    ∃ i, IsLast names name i := by
  induction names with
  | nil => cases member
  | cons first rest ih =>
    by_cases again : name ∈ rest
    · obtain ⟨i, here, after⟩ := ih again
      refine ⟨i + 1, here, ?_⟩
      intro j later
      cases j with
      | zero => omega
      | succ j => exact after j (by omega)
    · rcases List.mem_cons.mp member with rfl | later
      · refine ⟨0, rfl, ?_⟩
        intro j later found
        cases j with
        | zero => omega
        | succ j => exact again (List.mem_of_getElem? found)
      · exact absurd later again

variable {d : Dataset} {name : String}

-- A run that was read: its header, its rows of data, and the columns that they give.
structure Holds (d : Dataset) (header : List String) (rows : List (List String)) : Prop where
  column : ∀ name i, IsLast header name i →
    d.columns.find? name = some (.ofFields (columnFields rows i))
  named : ∀ name, (d.columns.find? name).isSome = true → name ∈ header
  declared : ∀ name ∈ header, (d.parameter? name).isSome = true

end RunFile

end Labbook
