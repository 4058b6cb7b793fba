import Labbook.Picture.Mark
import Labbook.Proofs.Mesh.CellEdges
import Labbook.Proofs.Mesh.MeshAxes
import Labbook.Proofs.Plot.ColorbarReuse

namespace Labbook

theorem edges_of_center {α : Type} [Scalar α] {centers : List α} {i : Nat}
    (inside : i < centers.length) : i + 1 < (cellEdges centers).length := by
  have nonempty : centers ≠ [] := List.ne_nil_of_length_pos (Nat.zero_lt_of_lt inside)
  rw [length_cellEdges nonempty]
  exact Nat.succ_lt_succ inside

-- A row for every `y` and a column for every `x`.
def Mesh.Fits {α : Type} (m : Mesh α) : Prop := m.z.rows = m.y.length ∧ m.z.cols = m.x.length

theorem Grid.indexed_values {α : Type} (g : Grid α) : (g.indexed.map fun cell => cell.2.2) = g.toList := by
  apply List.ext_getElem?
  intro i
  simp [indexed, Function.comp_def]

theorem MeshData.clipUnmeasured_dims (x y z : Grid Binary64) :
    (clipUnmeasured x y z).z.rows = (clipUnmeasured x y z).y.length ∧
      (clipUnmeasured x y z).z.cols = (clipUnmeasured x y z).x.length := by
  unfold clipUnmeasured
  split
  · exact ⟨(List.length_map _).symm, (List.length_map _).symm⟩
  · exact layOut_dims _ _ _

namespace Triple
variable {t : Triple} {options : ColorOptions} {settings : Settings}

theorem meshData_dims {xs ys zs : AxisValues} {m : MeshData} (done : t.meshData xs ys zs = .ok m) :
    m.z.rows = m.y.length ∧ m.z.cols = m.x.length := by
  unfold meshData at done
  split at done
  · split at done
    · obtain ⟨xg, -, done⟩ := Outcome.bind_eq_ok.mp done
      obtain ⟨yg, -, done⟩ := Outcome.bind_eq_ok.mp done
      obtain ⟨zg, -, done⟩ := Outcome.bind_eq_ok.mp done
      cases done
      exact MeshData.clipUnmeasured_dims xg yg zg
    · cases done
      exact MeshData.layOut_dims _ _ _
  · cases done
    exact MeshData.layOut_dims _ _ _

theorem drawn_fits {m : Mesh Binary64} (done : t.drawn options settings = .ok (.mesh m)) : m.Fits := by
  unfold drawn layer at done
  split at done
  · obtain ⟨data, laid, built⟩ := Outcome.bind_eq_ok.mp done
    cases built
    exact meshData_dims laid
  · cases done

end Triple

namespace Mesh
variable {m : Mesh Binary64} {row col : Nat}

theorem Fits.edges (fits : m.Fits) (inRow : row < m.z.rows) (inCol : col < m.z.cols) :
    col + 1 < (cellEdges m.x).length ∧ row + 1 < (cellEdges m.y).length :=
  ⟨edges_of_center (fits.2 ▸ inCol), edges_of_center (fits.1 ▸ inRow)⟩

-- Only a cell without a colour is left out.
theorem Fits.cellMarks_length (fits : m.Fits) (bar : Colorbar Binary64) :
    (Layer.cellMarks bar m).length =
      (m.z.toList.filter fun value => (bar.colorFor value).isSome).length := by
  unfold Layer.cellMarks
  rw [← m.z.indexed_values, List.filter_map, List.length_map, ← List.countP_eq_length_filter,
    List.length_filterMap_eq_countP]
  refine List.countP_congr fun (row, col, value) member => ?_
  obtain ⟨inRow, inCol, -⟩ := Grid.mem_indexed member
  obtain ⟨right, top⟩ := fits.edges inRow inCol
  cases color : bar.colorFor value <;>
    simp [color, right, top, Nat.lt_of_succ_lt right, Nat.lt_of_succ_lt top]

end Mesh

namespace Canvas
variable {canvas drawn : Canvas} {t : Triple} {reused : Option (Colorbar Binary64)}
  {options : ColorOptions} {settings : Settings} {type : PlotType} {bar : Colorbar Binary64}
  {m : Mesh Binary64}

theorem plotColors_fits (done : canvas.plotColors t reused options settings = .ok (type, drawn, bar))
    (last : drawn.layers.getLast? = some (.mesh m)) : m.Fits := by
  obtain ⟨layer, made, -⟩ := t.drawn_ok options settings
  rw [plotColors_eq made] at done
  cases start : Colorbar.fresh reused options.colormap settings with
  | error e =>
    rw [start] at done
    cases done
  | ok fresh =>
    rw [start] at done
    cases done
    have same : layer = .mesh m := by simpa [push] using last
    rw [same] at made
    exact Triple.drawn_fits made

-- No cell of a mesh asks for an edge that is not there, whichever way the mesh was laid out and however
-- few cells it has; so with every colorbar each coloured cell is drawn.
theorem plotColors_cells_inside
    (done : canvas.plotColors t reused options settings = .ok (type, drawn, bar))
    (last : drawn.layers.getLast? = some (.mesh m)) :
    m.z.rows = m.y.length ∧ m.z.cols = m.x.length ∧
      (∀ row < m.z.rows, ∀ col < m.z.cols,
        col + 1 < (cellEdges m.x).length ∧ row + 1 < (cellEdges m.y).length) ∧
      ∀ shown : Colorbar Binary64, (Layer.cellMarks shown m).length =
        (m.z.toList.filter fun value => (shown.colorFor value).isSome).length := by
  have fits := plotColors_fits done last
  exact ⟨fits.1, fits.2, fun row inRow col inCol => fits.edges inRow inCol, fits.cellMarks_length⟩

def stoppedSweep : Triple where
  x := ⟨"x", "", "", .numeric ⟨[3, 2], [0, 0, 1, .nan, .nan, .nan], rfl⟩, none⟩
  y := ⟨"y", "", "", .numeric ⟨[3, 2], [0, 1, 0, .nan, .nan, .nan], rfl⟩, none⟩
  z := ⟨"z", "", "", .numeric ⟨[3, 2], [5, 6, 7, .nan, .nan, .nan], rfl⟩, some [3, 2]⟩

def stoppedMesh : Mesh Binary64 := ⟨[0, 1], [0, 1], ⟨2, 2, #[5, 7, 6, .nan], rfl⟩, false⟩

theorem stoppedSweep_drawn : stoppedSweep.drawn {} {} = .ok (.mesh stoppedMesh) := rfl

theorem plotColors_cells_inside_stopped :
    ∃ type drawn bar, (blank (400, 300)).plotColors stoppedSweep none {} {} = .ok (type, drawn, bar) ∧
      drawn.layers.getLast? = some (.mesh stoppedMesh) ∧ stoppedMesh.z.rows = 2 ∧
      stoppedMesh.z.cols = 2 ∧
      (1 + 1 < (cellEdges stoppedMesh.x).length ∧ 1 + 1 < (cellEdges stoppedMesh.y).length) ∧
      (Layer.cellMarks (viridisBar 5 7) stoppedMesh).length = 3 := by
  have start : Colorbar.fresh none none {} = .ok (viridisBar 0 1) := rfl
  have done := @plotColors_eq (blank (400, 300)) stoppedSweep {} {} _ stoppedSweep_drawn none
  rw [start] at done
  obtain ⟨rows, cols, edges, marks⟩ := plotColors_cells_inside done rfl
  refine ⟨_, _, _, done, rfl, rows, cols, edges 1 (by decide) 1 (by decide), ?_⟩
  rw [marks]
  decide +kernel

end Canvas

end Labbook
