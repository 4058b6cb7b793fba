import Labbook.Proofs.Mesh.ShapedSweep

namespace Labbook

def Grid.Shows (g : Grid Binary64) (row col : Nat) (v : Binary64) : Prop :=
  g.get? row col = some v ∧ v.isNaN = false

instance (g : Grid Binary64) (row col : Nat) (v : Binary64) : Decidable (g.Shows row col v) :=
  inferInstanceAs (Decidable (_ ∧ _))

namespace MeshData
variable {x y z : Grid Binary64}

theorem isRectilinear_parts (rectilinear : isRectilinear x y = true) : 0 < x.cols ∧ 0 < y.rows ∧
    agree (x.indexed.map fun (row, _, v) => (v, (x.get? row 0).getD .nan)) = true ∧
    agree (y.indexed.map fun (_, col, v) => (v, (y.get? 0 col).getD .nan)) = true := by
  unfold isRectilinear at rectilinear
  simp only [Bool.and_eq_true, bne_iff_ne] at rectilinear
  obtain ⟨⟨⟨wide, tall⟩, columns⟩, rows⟩ := rectilinear
  exact ⟨Nat.pos_of_ne_zero wide, Nat.pos_of_ne_zero tall, columns, rows⟩

-- Measured values without a distance are the same infinity.
theorem equals_of_agree {pairs : List (Binary64 × Binary64)} (agrees : agree pairs = true)
    {a b : Binary64} (member : (a, b) ∈ pairs) (measuredA : a.isNaN = false)
    (measuredB : b.isNaN = false) : a.equals b = true := by
  cases distance : haveDistance a b with
  | true => exact (agree_iff.mp agrees).2 (a, b) member distance
  | false =>
    simp only [haveDistance, measuredA, measuredB, Bool.not_false, Bool.true_and, Bool.not_eq_false',
      Bool.and_eq_true] at distance
    exact distance.2

theorem equals_reference {g : Grid Binary64} {reference : Nat → Nat → Binary64}
    (agrees : agree (g.indexed.map fun (row, col, v) => (v, reference row col)) = true)
    {row col : Nat} {v : Binary64} (cell : g.Shows row col v)
    (measured : (reference row col).isNaN = false) : (reference row col).equals v = true := by
  obtain ⟨inRow, inCol⟩ := Grid.inside_of_get? cell.1
  have member := Grid.mem_indexed_of_get? inRow inCol cell.1
  exact Binary64.equals_symm
    (equals_of_agree agrees (List.mem_map.mpr ⟨_, member, rfl⟩) cell.2 measured)

theorem equals_lead (rectilinear : isRectilinear x y = true) {row col : Nat} {v lead : Binary64}
    (cell : x.Shows row col v) (first : x.Shows row 0 lead) : lead.equals v = true := by
  obtain ⟨-, -, columns, -⟩ := isRectilinear_parts rectilinear
  have same := @equals_reference x (fun row _ => (x.get? row 0).getD .nan) columns row col v cell
  rw [first.1, Option.getD_some] at same
  exact same first.2

theorem equals_top (rectilinear : isRectilinear x y = true) {row col : Nat} {w top : Binary64}
    (cell : y.Shows row col w) (first : y.Shows 0 col top) : top.equals w = true := by
  obtain ⟨-, -, -, rows⟩ := isRectilinear_parts rectilinear
  have same := @equals_reference y (fun _ col => (y.get? 0 col).getD .nan) rows row col w cell
  rw [first.1, Option.getD_some] at same
  exact same first.2

theorem mem_measuredAt {values : List Binary64} {i : Nat} {v : Binary64} (found : values[i]? = some v)
    (measured : v.isNaN = false) : i ∈ measuredAt values := by
  obtain ⟨inside, rfl⟩ := List.getElem?_eq_some_iff.mp found
  refine List.mem_filter.mpr ⟨List.mem_range.mpr inside, ?_⟩
  rw [List.getD_eq_getElem _ _ inside, measured]
  rfl

theorem map_measuredAt (values : List Binary64) :
    ((measuredAt values).map fun i => values.getD i .nan) = Setpoint.measured values := by
  have whole : ((List.range values.length).map fun i => values.getD i .nan) = values := by
    rw [map_range_getD (Nat.le_refl _), List.take_length]
  unfold measuredAt Setpoint.measured
  conv_rhs => rw [← whole, List.filter_map]
  rfl

theorem clipUnmeasured_axes (rectilinear : isRectilinear x y = true) :
    (clipUnmeasured x y z).x = Setpoint.measured x.firstColumn ∧
      (clipUnmeasured x y z).y = Setpoint.measured y.firstRow := by
  unfold clipUnmeasured
  rw [if_pos rectilinear]
  exact ⟨map_measuredAt _, map_measuredAt _⟩

theorem clipUnmeasured_shows (rectilinear : isRectilinear x y = true) {row col : Nat}
    {lead top value : Binary64} (first : x.Shows row 0 lead) (above : y.Shows 0 col top)
    (sample : z.get? row col = some value) : ∃ a b : Nat, (clipUnmeasured x y z).x[a]? = some lead ∧
      (clipUnmeasured x y z).y[b]? = some top ∧ (clipUnmeasured x y z).z.get? b a = some value := by
  obtain ⟨wide, tall, -, -⟩ := isRectilinear_parts rectilinear
  have atRow : x.firstColumn[row]? = some lead := (Grid.getElem?_firstColumn wide row).trans first.1
  have atCol : y.firstRow[col]? = some top := (Grid.getElem?_firstRow tall col).trans above.1
  obtain ⟨a, inRows, rowAt⟩ := List.mem_iff_getElem.mp (mem_measuredAt atRow first.2)
  obtain ⟨b, inCols, colAt⟩ := List.mem_iff_getElem.mp (mem_measuredAt atCol above.2)
  refine ⟨a, b, ?_⟩
  unfold clipUnmeasured
  rw [if_pos rectilinear]
  dsimp only
  refine ⟨?_, ?_, ?_⟩
  · rw [List.getElem?_map, List.getElem?_eq_getElem inRows, rowAt, Option.map_some,
      List.getD_eq_getElem?_getD, atRow]
    rfl
  · rw [List.getElem?_map, List.getElem?_eq_getElem inCols, colAt, Option.map_some,
      List.getD_eq_getElem?_getD, atCol]
    rfl
  · rw [Grid.get?_ofFn _ inCols inRows, List.getD_eq_getElem _ _ inRows, rowAt,
      List.getD_eq_getElem _ _ inCols, colAt, sample]
    rfl

-- Clipping a rectilinear sweep drops the rows and columns without a leading setpoint and nothing else:
-- every other sample is shown under its setpoints.
theorem clipUnmeasured?_keeps (rows : x.rows = z.rows) (cols : y.cols = z.cols)
    (rectilinear : isRectilinear x y = true) : ∃ mesh, clipUnmeasured? x y z = .ok mesh ∧
      mesh.x = Setpoint.measured x.firstColumn ∧ mesh.y = Setpoint.measured y.firstRow ∧
      ∀ (row col : Nat) (v w value lead top : Binary64), x.Shows row col v → y.Shows row col w →
        z.get? row col = some value → x.Shows row 0 lead → y.Shows 0 col top →
        ∃ (a b : Nat) (u t : Binary64), mesh.x[a]? = some u ∧ u.equals v = true ∧
          mesh.y[b]? = some t ∧ t.equals w = true ∧ mesh.z.get? b a = some value := by
  obtain ⟨axisX, axisY⟩ := @clipUnmeasured_axes x y z rectilinear
  refine ⟨clipUnmeasured x y z, clipUnmeasured?_covered rows cols, axisX, axisY, ?_⟩
  intro row col v w value lead top cellX cellY sample first above
  obtain ⟨a, b, atX, atY, atZ⟩ := clipUnmeasured_shows rectilinear first above sample
  exact ⟨a, b, lead, top, atX, equals_lead rectilinear cellX first, atY,
    equals_top rectilinear cellY above, atZ⟩

theorem clipUnmeasured?_keeps_stopped_sweep :
    isRectilinear ⟨3, 2, #[0, 0, 1, .nan, .nan, .nan], rfl⟩ ⟨3, 2, #[0, 1, 0, .nan, .nan, .nan], rfl⟩ =
      true ∧
    ∃ mesh, clipUnmeasured? ⟨3, 2, #[0, 0, 1, .nan, .nan, .nan], rfl⟩
        ⟨3, 2, #[0, 1, 0, .nan, .nan, .nan], rfl⟩ ⟨3, 2, #[5, 6, 7, .nan, .nan, .nan], rfl⟩ = .ok mesh ∧
      mesh.x = [0, 1] ∧ mesh.y = [0, 1] ∧
      ∃ (a b : Nat) (u t : Binary64), mesh.x[a]? = some u ∧ u.equals 1 = true ∧
        mesh.y[b]? = some t ∧ t.equals 0 = true ∧ mesh.z.get? b a = some 7 := by
  have rectilinear : isRectilinear ⟨3, 2, #[0, 0, 1, .nan, .nan, .nan], rfl⟩
      ⟨3, 2, #[0, 1, 0, .nan, .nan, .nan], rfl⟩ = true := by decide +kernel
  obtain ⟨mesh, clipped, axisX, axisY, samples⟩ := @clipUnmeasured?_keeps _ _
    ⟨3, 2, #[5, 6, 7, .nan, .nan, .nan], rfl⟩ (Eq.refl 3) (Eq.refl 2) rectilinear
  refine ⟨rectilinear, mesh, clipped, axisX.trans (by decide +kernel), axisY.trans (by decide +kernel), ?_⟩
  exact samples 1 0 1 0 7 1 0 (by decide +kernel) (by decide +kernel) (by decide +kernel)
    (by decide +kernel) (by decide +kernel)

-- Two rows, the second without its leading setpoint: the sample behind it is lost.
theorem clipUnmeasured?_loses_row :
    isRectilinear ⟨2, 2, #[0, 0, .nan, 1], rfl⟩ ⟨2, 2, #[0, 1, 0, 1], rfl⟩ = true ∧
    Grid.Shows ⟨2, 2, #[0, 0, .nan, 1], rfl⟩ 1 1 1 ∧ Grid.Shows ⟨2, 2, #[0, 1, 0, 1], rfl⟩ 1 1 1 ∧
    ∃ mesh, clipUnmeasured? ⟨2, 2, #[0, 0, .nan, 1], rfl⟩ ⟨2, 2, #[0, 1, 0, 1], rfl⟩
        ⟨2, 2, #[1, 2, .nan, 4], rfl⟩ = .ok mesh ∧ ∀ u ∈ mesh.x, u.equals 1 = false := by
  refine ⟨by decide +kernel, by decide +kernel, by decide +kernel, _,
    clipUnmeasured?_covered (Eq.refl 2) (Eq.refl 2), ?_⟩
  rw [(clipUnmeasured_axes (by decide +kernel)).1]
  decide +kernel

end MeshData

end Labbook
