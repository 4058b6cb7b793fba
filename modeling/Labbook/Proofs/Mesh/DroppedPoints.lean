import Labbook.Proofs.Mesh.Placement

namespace Labbook

namespace Setpoint
variable {values kept : List Binary64} {u v : Binary64}

theorem uniqueSorted_first (distinct : u ∈ uniqueSorted values) (member : v ∈ values)
    (same : u.equals v = true) : u.precedes v = true := by
  obtain ⟨first, firstDistinct, equal, before⟩ :=
    uniqueSorted_covers member (Binary64.equals_iff.mp same).2.1
  have faithful := faithful_of_ascending (uniqueSorted_ascending values)
  rwa [faithful u distinct first firstDistinct
    (Binary64.equals_trans same (Binary64.equals_symm equal))]

-- The distinct setpoints are those of a part of the column as long as the part has every one of them.
theorem uniqueSorted_eq_iff (subset : ∀ v ∈ kept, v ∈ values) :
    uniqueSorted values = uniqueSorted kept ↔ ∀ u ∈ uniqueSorted values, u ∈ kept := by
  constructor
  · intro same u distinct
    rw [same] at distinct
    exact (uniqueSorted_subset distinct).1
  · intro stays
    have agree : ∀ u ∈ uniqueSorted values, ∀ v ∈ uniqueSorted kept, u.equals v = true → u = v := by
      intro u distinct v first same
      have before := uniqueSorted_first distinct (subset v (uniqueSorted_subset first).1) same
      have behind := uniqueSorted_first first (stays u distinct) (Binary64.equals_symm same)
      rw [Binary64.precedes_iff] at before behind
      exact Binary64.orderIndex_injective (Nat.le_antisymm before behind)
    refine (uniqueSorted_ascending values).eq_of_mem_iff (uniqueSorted_ascending kept) fun u => ?_
    constructor
    · intro distinct
      obtain ⟨v, first, same, -⟩ :=
        uniqueSorted_covers (stays u distinct) (uniqueSorted_subset distinct).2
      rwa [agree u distinct v first (Binary64.equals_symm same)]
    · intro first
      obtain ⟨present, measured⟩ := uniqueSorted_subset first
      obtain ⟨w, distinct, same, -⟩ := uniqueSorted_covers (subset u present) measured
      rwa [← agree w distinct u first same]

end Setpoint

namespace MeshData
variable {x y z : List Binary64}

-- The points that have both setpoints.
def measuredPoints (x y z : List Binary64) : List Point :=
  (points x y z).filter fun p => !p.1.isNaN && !p.2.1.isNaN

def layOutMeasured (x y z : List Binary64) : MeshData :=
  let kept := measuredPoints x y z
  layOut (kept.map (·.1)) (kept.map (·.2.1)) (kept.map (·.2.2))

theorem mem_measuredPoints {p : Point} :
    p ∈ measuredPoints x y z ↔ p ∈ points x y z ∧ p.1.isNaN = false ∧ p.2.1.isNaN = false := by
  simp [measuredPoints]

theorem points_unzip (kept : List Point) :
    points (kept.map (·.1)) (kept.map (·.2.1)) (kept.map (·.2.2)) = kept := by
  induction kept with
  | nil => rfl
  | cons p rest ih => exact congrArg (p :: ·) ih

theorem measuredPoints_unzip : measuredPoints ((measuredPoints x y z).map (·.1))
    ((measuredPoints x y z).map (·.2.1)) ((measuredPoints x y z).map (·.2.2)) = measuredPoints x y z := by
  unfold measuredPoints
  rw [points_unzip, List.filter_filter]
  simp only [Bool.and_self]

theorem measuredPoints_setpoints {p : Point} (kept : p ∈ measuredPoints x y z) : p.1 ∈ x ∧ p.2.1 ∈ y := by
  obtain ⟨i, atX, atY, -⟩ := mem_points.mp (mem_measuredPoints.mp kept).1
  exact ⟨List.mem_of_getElem? atX, List.mem_of_getElem? atY⟩

-- The value of the last point with two setpoints, wherever the axes have them.
def lastAt? (points : List Point) (v w : Binary64) : Option Binary64 :=
  (points.reverse.find? fun p => decide (p.1 = v ∧ p.2.1 = w)).map (·.2.2)

theorem lastAt?_eq_none {points : List Point} {v w : Binary64}
    (absent : ∀ p ∈ points, ¬(p.1 = v ∧ p.2.1 = w)) : lastAt? points v w = none := by
  rw [lastAt?, Option.map_eq_none_iff, List.find?_eq_none]
  intro p member
  simpa using absent p (List.mem_reverse.mp member)

-- A point has a cell only if it has both setpoints, so those that are dropped make no difference.
theorem lastIn?_eq_lastAt? {axisX axisY : List Binary64} (distinctX : axisX.Nodup)
    (distinctY : axisY.Nodup) {row col : Nat} {v w : Binary64} (atRow : axisY[row]? = some w)
    (atCol : axisX[col]? = some v) :
    lastIn? axisX axisY (points x y z) (row, col) = lastAt? (measuredPoints x y z) v w := by
  unfold lastIn? lastAt? measuredPoints
  rw [← List.filter_reverse, List.find?_filter]
  congr 2
  funext p
  refine decide_eq_decide.mpr ?_
  rw [cell?_iff distinctX distinctY, atRow, atCol]
  simp only [Option.some.injEq, Bool.and_eq_true, Bool.not_eq_true', decide_eq_true_iff]
  constructor
  · rintro ⟨measuredX, measuredY, rfl, rfl⟩
    exact ⟨⟨measuredX, measuredY⟩, rfl, rfl⟩
  · rintro ⟨⟨measuredX, measuredY⟩, rfl, rfl⟩
    exact ⟨measuredX, measuredY, rfl, rfl⟩

theorem layOut_cell {row col : Nat} {v w : Binary64} (atRow : (layOut x y z).y[row]? = some w)
    (atCol : (layOut x y z).x[col]? = some v) :
    (layOut x y z).z.get? row col = some ((lastAt? (measuredPoints x y z) v w).getD .nan) := by
  have inRow := (List.getElem?_eq_some_iff.mp atRow).1
  have inCol := (List.getElem?_eq_some_iff.mp atCol).1
  rw [layOut_get? inRow inCol]
  have cell := @lastIn?_eq_lastAt? x y z _ _ (Setpoint.uniqueSorted_nodup x)
    (Setpoint.uniqueSorted_nodup y) row col v w atRow atCol
  exact congrArg (fun value => some (value.getD .nan)) cell

theorem layOutMeasured_cell {row col : Nat} {v w : Binary64}
    (atRow : (layOutMeasured x y z).y[row]? = some w)
    (atCol : (layOutMeasured x y z).x[col]? = some v) :
    (layOutMeasured x y z).z.get? row col = some ((lastAt? (measuredPoints x y z) v w).getD .nan) := by
  have cell := layOut_cell atRow atCol
  rwa [measuredPoints_unzip] at cell

-- An axis stays as it is without the dropped points when it has a kept point at every place.
theorem axis_eq_iff {column : List Binary64} {kept : List Point} (setpoint : Point → Binary64)
    (present : ∀ p ∈ kept, setpoint p ∈ column) :
    Setpoint.uniqueSorted column = Setpoint.uniqueSorted (kept.map setpoint) ↔
      ∀ v ∈ Setpoint.uniqueSorted column, ∃ p ∈ kept, setpoint p = v := by
  have subset : ∀ v ∈ kept.map setpoint, v ∈ column := by
    intro v member
    obtain ⟨p, inKept, rfl⟩ := List.mem_map.mp member
    exact present p inKept
  have same := Setpoint.uniqueSorted_eq_iff subset
  simp only [List.mem_map] at same
  exact same

theorem layOut_axes_eq_iff :
    ((layOut x y z).x = (layOutMeasured x y z).x ↔
      ∀ v ∈ (layOut x y z).x, ∃ p ∈ measuredPoints x y z, p.1 = v) ∧
    ((layOut x y z).y = (layOutMeasured x y z).y ↔
      ∀ w ∈ (layOut x y z).y, ∃ p ∈ measuredPoints x y z, p.2.1 = w) :=
  ⟨axis_eq_iff (·.1) fun _ kept => (measuredPoints_setpoints kept).1,
    axis_eq_iff (·.2.1) fun _ kept => (measuredPoints_setpoints kept).2⟩

theorem layOut_eq_of_axes (axisX : (layOut x y z).x = (layOutMeasured x y z).x)
    (axisY : (layOut x y z).y = (layOutMeasured x y z).y) : layOut x y z = layOutMeasured x y z := by
  obtain ⟨rows, cols⟩ := layOut_dims x y z
  obtain ⟨keptRows, keptCols⟩ := layOut_dims ((measuredPoints x y z).map (·.1))
    ((measuredPoints x y z).map (·.2.1)) ((measuredPoints x y z).map (·.2.2))
  refine eq_of_parts axisX axisY (Grid.ext_get? ?_ ?_ ?_)
  · exact rows.trans ((congrArg List.length axisY).trans keptRows.symm)
  · exact cols.trans ((congrArg List.length axisX).trans keptCols.symm)
  · intro row inRow col inCol
    have atRow := List.getElem?_eq_getElem (rows ▸ inRow)
    have atCol := List.getElem?_eq_getElem (cols ▸ inCol)
    have keptRow := (congrArg (·[row]?) axisY).symm.trans atRow
    have keptCol := (congrArg (·[col]?) axisX).symm.trans atCol
    rw [layOut_cell atRow atCol, layOutMeasured_cell keptRow keptCol]

theorem layOutMeasured_places :
    (∀ v ∈ (layOutMeasured x y z).x, ∃ p ∈ measuredPoints x y z, p.1 = v) ∧
      ∀ w ∈ (layOutMeasured x y z).y, ∃ p ∈ measuredPoints x y z, p.2.1 = w :=
  ⟨fun _ place => List.mem_map.mp (Setpoint.uniqueSorted_subset place).1,
    fun _ place => List.mem_map.mp (Setpoint.uniqueSorted_subset place).1⟩

-- A shaped sweep whose setpoints form no grid is laid out in this way.
theorem clipUnmeasured_places {x y : Grid Binary64} (bent : isRectilinear x y = false)
    (z : Grid Binary64) :
    (∀ v ∈ (clipUnmeasured x y z).x,
      ∃ p ∈ measuredPoints x.toList y.toList z.toList, p.1 = v) ∧
    ∀ w ∈ (clipUnmeasured x y z).y,
      ∃ p ∈ measuredPoints x.toList y.toList z.toList, p.2.1 = w := by
  have scattered : clipUnmeasured x y z = layOutMeasured x.toList y.toList z.toList := by
    unfold clipUnmeasured
    rw [bent]
    rfl
  rw [scattered]
  exact layOutMeasured_places

-- What the dropped points do to a mesh: it is the mesh without them exactly when every place of an axis
-- belongs to a kept point, every cell that both meshes have is the same in both, and the lines that
-- belong to dropped points only are empty.
theorem layOut_eq_measured_iff (x y z : List Binary64) :
    (layOut x y z = layOutMeasured x y z ↔
      (∀ v ∈ (layOut x y z).x, ∃ p ∈ measuredPoints x y z, p.1 = v) ∧
        ∀ w ∈ (layOut x y z).y, ∃ p ∈ measuredPoints x y z, p.2.1 = w) ∧
    ∀ (row col : Nat) (v w : Binary64), (layOut x y z).y[row]? = some w →
      (layOut x y z).x[col]? = some v →
      (∀ keptRow keptCol : Nat, (layOutMeasured x y z).y[keptRow]? = some w →
        (layOutMeasured x y z).x[keptCol]? = some v →
        (layOut x y z).z.get? row col = (layOutMeasured x y z).z.get? keptRow keptCol) ∧
      ((∀ p ∈ measuredPoints x y z, p.1 ≠ v) ∨ (∀ p ∈ measuredPoints x y z, p.2.1 ≠ w) →
        (layOut x y z).z.get? row col = some .nan) := by
  obtain ⟨axisX, axisY⟩ := @layOut_axes_eq_iff x y z
  refine ⟨?_, ?_⟩
  · constructor
    · intro same
      exact ⟨axisX.mp (congrArg MeshData.x same), axisY.mp (congrArg MeshData.y same)⟩
    · rintro ⟨allX, allY⟩
      exact layOut_eq_of_axes (axisX.mpr allX) (axisY.mpr allY)
  · intro row col v w atRow atCol
    rw [layOut_cell atRow atCol]
    refine ⟨?_, ?_⟩
    · intro keptRow keptCol atKeptRow atKeptCol
      rw [layOutMeasured_cell atKeptRow atKeptCol]
    · rintro (noX | noY)
      · rw [lastAt?_eq_none fun p kept here => noX p kept here.1]
        rfl
      · rw [lastAt?_eq_none fun p kept here => noY p kept here.2]
        rfl

-- A square of four points, and a fifth with its first setpoint only: a column is added for it.
theorem layOut_half_measured :
    (5 : Binary64) ∈ (layOut [0, 0, 1, 1, 5] [0, 1, 0, 1, .nan] [1, 2, 3, 4, 9]).x ∧
      layOut [0, 0, 1, 1, 5] [0, 1, 0, 1, .nan] [1, 2, 3, 4, 9] ≠
        layOutMeasured [0, 0, 1, 1, 5] [0, 1, 0, 1, .nan] [1, 2, 3, 4, 9] := by
  have plain : Setpoint.Faithful [0, 0, 1, 1, 5] := by unfold Setpoint.Faithful; decide +kernel
  have added : (5 : Binary64) ∈ (layOut [0, 0, 1, 1, 5] [0, 1, 0, 1, .nan] [1, 2, 3, 4, 9]).x :=
    (Setpoint.mem_uniqueSorted plain).mpr (by decide +kernel)
  refine ⟨added, fun same => ?_⟩
  obtain ⟨p, kept, here⟩ := layOut_axes_eq_iff.1.mp (congrArg MeshData.x same) 5 added
  have apart : ∀ p ∈ measuredPoints [0, 0, 1, 1, 5] [0, 1, 0, 1, .nan] [1, 2, 3, 4, 9], p.1 ≠ 5 := by
    decide +kernel
  exact apart p kept here

end MeshData

end Labbook
