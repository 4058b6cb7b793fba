import Labbook.Plot.TwoSetpoints
import Labbook.Proofs.Mesh.GridCells
import Labbook.Proofs.Run.LaidOut

namespace Labbook

namespace Tensor
variable {α : Type}

-- Samples that do not outnumber the cells are laid out when the grid can be stored.
theorem reshaped_storable {rows cols : Nat} (fill : α) {t : Tensor α} (fits : t.size ≤ rows * cols)
    (small : storable [rows, cols] = true) :
    t.reshaped [rows, cols] fill = .ok (t.padded [rows, cols] fill) := by
  have bound := storable_iff.mp small
  have count : cellCount [rows, cols] = rows * cols := congrArg (rows * ·) (Nat.mul_one cols)
  have run := t.reshapes [rows, cols] fill
  generalize t.reshaped [rows, cols] fill = outcome at run ⊢
  cases run with
  | uncounted many => exact absurd (counted_of_small bound) many
  | crowded counted more => exact absurd fits (Nat.not_le_of_lt (count ▸ more))
  | unstorable counted fits large => exact absurd bound (Nat.not_lt_of_le large)
  | fitting => rfl

theorem reshaped_unstorable {dims : List Nat} (fill : α) (t : Tensor α)
    (large : storable dims = false) : ∃ e, t.reshaped dims fill = .error e := by
  have run := t.reshapes dims fill
  generalize t.reshaped dims fill = outcome at run ⊢
  cases run with
  | uncounted | crowded | unstorable => exact ⟨_, rfl⟩
  | fitting fits small =>
    rw [storable_iff.mpr small] at large
    cases large

theorem getElem?_padded {dims : List Nat} {i : Nat} (inside : i < cellCount dims) (fill : α)
    (t : Tensor α) : (t.padded dims fill).cells[i]? = some (t.cells.getD i fill) := by
  unfold padded
  dsimp only
  rw [List.getElem?_append, List.length_take, List.getD_eq_getElem?_getD]
  by_cases filled : i < t.cells.length
  · rw [if_pos (Nat.lt_min.mpr ⟨inside, filled⟩), List.getElem?_take_of_lt inside,
      List.getElem?_eq_getElem filled]
    rfl
  · have beyond : t.cells.length ≤ i := Nat.le_of_not_lt filled
    rw [if_neg (by omega), List.getElem?_replicate, if_pos (by omega), List.getElem?_eq_none beyond]
    rfl

end Tensor

namespace Grid

-- A column laid out row by row, with unmeasured cells behind its samples.
def ofColumn (rows cols : Nat) (column : List Binary64) : Grid Binary64 :=
  ⟨rows, cols, ((Tensor.ofList column).padded [rows, cols] .nan).cells.toArray, by
    rw [List.size_toArray, Tensor.cells_length]
    change rows * (cols * 1) = _
    rw [Nat.mul_one]⟩

theorem get?_ofColumn {rows cols row col : Nat} (column : List Binary64) (inRow : row < rows)
    (inCol : col < cols) :
    (ofColumn rows cols column).get? row col = some (column.getD (row * cols + col) .nan) := by
  have inside : row * cols + col < cellCount [rows, cols] := by
    change _ < rows * (cols * 1)
    rw [Nat.mul_one]
    exact place_lt inRow inCol
  rw [get?_eq_getElem? (g := .ofColumn rows cols column) inRow inCol]
  change (Array.mk _)[row * cols + col]? = _
  rw [List.getElem?_toArray]
  exact Tensor.getElem?_padded inside .nan (Tensor.ofList column)

theorem ofList?_padded (rows cols : Nat) (column : List Binary64) :
    Grid.ofList? rows cols ((Tensor.ofList column).padded [rows, cols] .nan).cells =
      some (ofColumn rows cols column) := by
  have length : ((Tensor.ofList column).padded [rows, cols] .nan).cells.length = rows * cols := by
    rw [Tensor.cells_length]
    change rows * (cols * 1) = _
    rw [Nat.mul_one]
  rw [Grid.ofList?, dif_pos length]
  rfl

end Grid

end Labbook
