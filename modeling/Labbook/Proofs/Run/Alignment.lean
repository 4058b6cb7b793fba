import Labbook.Proofs.Run.DataRows

namespace Labbook

namespace RunFile
variable {d : Dataset} {header : List String} {rows : List (List String)} {p : Parameter}

theorem Holds.origin (held : Holds d header rows) {name : String} {column : RecordData}
    (found : d.columns.find? name = some column) :
    ∃ i, IsLast header name i ∧ column = .ofFields (columnFields rows i) := by
  have present : (d.columns.find? name).isSome = true := by rw [found]; rfl
  obtain ⟨i, last⟩ := exists_isLast (held.named name present)
  have own := held.column name i last
  rw [found] at own
  exact ⟨i, last, Option.some.inj own⟩

theorem Holds.size (held : Holds d header rows) {name : String} {column : RecordData}
    (found : d.columns.find? name = some column) : column.size = rows.length := by
  obtain ⟨i, -, rfl⟩ := held.origin found
  rw [RecordData.size_ofFields, columnFields, List.length_map]

end RunFile

end Labbook
