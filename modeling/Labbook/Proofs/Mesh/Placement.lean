import Labbook.Analysis.Layout
import Labbook.Proofs.Mesh.GridCells
import Labbook.Proofs.Setpoint.Distinct

namespace Labbook

namespace MeshData

abbrev Point := Binary64 × Binary64 × Binary64

-- The row and the column of a point. A setpoint that is not measured, or not on its axis, has none.
def cell? (x y : List Binary64) (point : Point) : Option (Nat × Nat) :=
  if point.1.isNaN || point.2.1.isNaN then none
  else match y.idxOf? point.2.1, x.idxOf? point.1 with
    | some row, some col => some (row, col)
    | _, _ => none

theorem eq_of_parts {m other : MeshData} (x : m.x = other.x) (y : m.y = other.y)
    (z : m.z = other.z) : m = other := by
  cases m; cases other
  cases x; cases y; cases z
  rfl

theorem getElem?_points {x y z : List Binary64} {point : Point} {i : Nat} :
    (points x y z)[i]? = some point ↔
      x[i]? = some point.1 ∧ y[i]? = some point.2.1 ∧ z[i]? = some point.2.2 := by
  rw [points, List.getElem?_zip_eq_some, List.getElem?_zip_eq_some]

theorem mem_points {x y z : List Binary64} {point : Point} : point ∈ points x y z ↔
    ∃ i : Nat, x[i]? = some point.1 ∧ y[i]? = some point.2.1 ∧ z[i]? = some point.2.2 := by
  rw [List.mem_iff_getElem?]
  exact exists_congr fun i => getElem?_points

theorem place_eq (x y : List Binary64) (z : Grid Binary64) (point : Point) : place x y z point =
    match cell? x y point with
    | some (row, col) => z.set row col point.2.2
    | none => z := by
  obtain ⟨px, py, value⟩ := point
  unfold place cell?
  dsimp only
  split
  · rfl
  · cases y.idxOf? py with
    | none => rfl
    | some row =>
      cases x.idxOf? px with
      | none => rfl
      | some col => rfl

theorem idxOf?_iff {axis : List Binary64} (nodup : axis.Nodup) {v : Binary64} {i : Nat} :
    axis.idxOf? v = some i ↔ axis[i]? = some v := by
  rw [List.idxOf?_eq_some_iff, List.getElem?_eq_some_iff]
  constructor
  · rintro ⟨inside, found, -⟩
    exact ⟨inside, found⟩
  · rintro ⟨inside, found⟩
    refine ⟨inside, found, fun j before => ?_⟩
    rw [← found]
    exact fun same => Nat.ne_of_lt before ((nodup.getElem_inj_iff).mp same)

theorem idxOf_of_getElem? {axis : List Binary64} (nodup : axis.Nodup) {v : Binary64} {i : Nat}
    (found : axis[i]? = some v) : axis.idxOf v = i := by
  obtain ⟨inside, rfl⟩ := List.getElem?_eq_some_iff.mp found
  exact nodup.idxOf_getElem i inside

theorem cell?_iff {x y : List Binary64} (distinctX : x.Nodup) (distinctY : y.Nodup) {point : Point}
    {row col : Nat} : cell? x y point = some (row, col) ↔
      point.1.isNaN = false ∧ point.2.1.isNaN = false ∧ y[row]? = some point.2.1 ∧
        x[col]? = some point.1 := by
  rw [← idxOf?_iff distinctX, ← idxOf?_iff distinctY]
  unfold cell?
  cases point.1.isNaN <;> cases point.2.1.isNaN <;> simp
  cases y.idxOf? point.2.1 <;> cases x.idxOf? point.1 <;> simp

theorem cell?_inside {x y : List Binary64} {point : Point} {cell : Nat × Nat}
    (found : cell? x y point = some cell) : cell.1 < y.length ∧ cell.2 < x.length := by
  unfold cell? at found
  split at found
  · cases found
  · split at found
    · rename_i r c rowFound colFound
      cases found
      obtain ⟨inRow, -, -⟩ := List.idxOf?_eq_some_iff.mp rowFound
      obtain ⟨inCol, -, -⟩ := List.idxOf?_eq_some_iff.mp colFound
      exact ⟨inRow, inCol⟩
    · cases found

def lastIn? (x y : List Binary64) (points : List Point) (cell : Nat × Nat) : Option Binary64 :=
  (points.reverse.find? fun p => decide (cell? x y p = some cell)).map (·.2.2)

theorem lastIn?_cons (x y : List Binary64) (point : Point) (rest : List Point) (cell : Nat × Nat) :
    lastIn? x y (point :: rest) cell = (lastIn? x y rest cell).or
      (if cell? x y point = some cell then some point.2.2 else none) := by
  unfold lastIn?
  rw [List.reverse_cons, List.find?_append, Option.map_or]
  by_cases here : cell? x y point = some cell <;> simp [here]

theorem lastIn?_eq_none {x y : List Binary64} {points : List Point} {cell : Nat × Nat}
    (absent : ∀ p ∈ points, cell? x y p ≠ some cell) : lastIn? x y points cell = none := by
  rw [lastIn?, Option.map_eq_none_iff, List.find?_eq_none]
  intro p member
  simpa using absent p (List.mem_reverse.mp member)

theorem lastIn?_append (x y : List Binary64) (earlier later : List Point) (cell : Nat × Nat) :
    lastIn? x y (earlier ++ later) cell =
      (lastIn? x y later cell).or (lastIn? x y earlier cell) := by
  unfold lastIn?
  rw [List.reverse_append, List.find?_append, Option.map_or]

-- The last of the points in a cell is the one that is found there.
theorem lastIn?_last {axisX axisY : List Binary64} {points : List Point} {cell : Nat × Nat} {j : Nat}
    {p : Point} (at_ : points[j]? = some p) (here : cell? axisX axisY p = some cell)
    (later : ∀ k q, j < k → points[k]? = some q → cell? axisX axisY q ≠ some cell) :
    lastIn? axisX axisY points cell = some p.2.2 := by
  obtain ⟨inside, same⟩ := List.getElem?_eq_some_iff.mp at_
  have behind : ∀ q ∈ points.drop (j + 1), cell? axisX axisY q ≠ some cell := by
    intro q member
    obtain ⟨k, found⟩ := List.mem_iff_getElem?.mp member
    rw [List.getElem?_drop] at found
    exact later _ q (by omega) found
  rw [← List.take_append_drop j points, List.drop_eq_getElem_cons inside, same, lastIn?_append,
    lastIn?_cons, lastIn?_eq_none behind, if_pos here]
  rfl

-- A cell that only one sample can be in holds that sample, as far as there is one.
theorem lastIn?_eq_getElem? {axisX axisY x y z : List Binary64} {cell : Nat × Nat} {t : Nat}
    (only : ∀ (p : Point) (j : Nat), x[j]? = some p.1 → y[j]? = some p.2.1 →
      cell? axisX axisY p = some cell → j = t)
    (here : ∀ p : Point, x[t]? = some p.1 → y[t]? = some p.2.1 → cell? axisX axisY p = some cell)
    (lengthX : z.length ≤ x.length) (lengthY : z.length ≤ y.length) :
    lastIn? axisX axisY (points x y z) cell = z[t]? := by
  by_cases sample : t < z.length
  · have atX := List.getElem?_eq_getElem (Nat.lt_of_lt_of_le sample lengthX)
    have atY := List.getElem?_eq_getElem (Nat.lt_of_lt_of_le sample lengthY)
    have atZ := List.getElem?_eq_getElem sample
    have listed : (points x y z)[t]? = some (_, _, z[t]) := getElem?_points.mpr ⟨atX, atY, atZ⟩
    rw [atZ]
    refine lastIn?_last listed (here _ atX atY) ?_
    intro k q after found inCell
    obtain ⟨alsoX, alsoY, -⟩ := getElem?_points.mp found
    exact Nat.ne_of_gt after (only q k alsoX alsoY inCell)
  · rw [List.getElem?_eq_none (Nat.le_of_not_lt sample)]
    apply lastIn?_eq_none
    intro p member inCell
    obtain ⟨j, atX, atY, atZ⟩ := mem_points.mp member
    obtain rfl := only p j atX atY inCell
    exact sample (List.getElem?_eq_some_iff.mp atZ).1

theorem place_rows (x y : List Binary64) (z : Grid Binary64) (point : Point) :
    (place x y z point).rows = z.rows ∧ (place x y z point).cols = z.cols := by
  rw [place_eq]
  split
  · exact ⟨Grid.set_rows .., Grid.set_cols ..⟩
  · exact ⟨rfl, rfl⟩

theorem get?_place {x y : List Binary64} {z : Grid Binary64} (rows : z.rows = y.length)
    (cols : z.cols = x.length) (point : Point) (row col : Nat) :
    (place x y z point).get? row col =
      if cell? x y point = some (row, col) then some point.2.2 else z.get? row col := by
  rw [place_eq]
  cases found : cell? x y point with
  | none => rfl
  | some cell =>
    obtain ⟨r, c⟩ := cell
    obtain ⟨inRow, inCol⟩ := cell?_inside found
    dsimp only
    by_cases here : (row, col) = (r, c)
    · cases here
      rw [if_pos rfl]
      exact Grid.get?_set_self (rows ▸ inRow) (cols ▸ inCol) _
    · rw [if_neg (fun same => here (Option.some.inj same).symm)]
      exact Grid.get?_set_other _ _ here

theorem foldl_place_dims (x y : List Binary64) (points : List Point) (z : Grid Binary64) :
    (points.foldl (place x y) z).rows = z.rows ∧ (points.foldl (place x y) z).cols = z.cols := by
  induction points generalizing z with
  | nil => exact ⟨rfl, rfl⟩
  | cons point rest ih =>
    obtain ⟨rows, cols⟩ := ih (place x y z point)
    obtain ⟨sameRows, sameCols⟩ := place_rows x y z point
    exact ⟨rows.trans sameRows, cols.trans sameCols⟩

theorem get?_foldl_place {x y : List Binary64} (points : List Point) {z : Grid Binary64}
    (rows : z.rows = y.length) (cols : z.cols = x.length) (row col : Nat) :
    (points.foldl (place x y) z).get? row col =
      (lastIn? x y points (row, col)).or (z.get? row col) := by
  induction points generalizing z with
  | nil => rfl
  | cons point rest ih =>
    obtain ⟨sameRows, sameCols⟩ := place_rows x y z point
    rw [List.foldl_cons, ih (sameRows.trans rows) (sameCols.trans cols), get?_place rows cols]
    rw [lastIn?_cons, Option.or_assoc]
    split <;> rfl

theorem layOut_dims (x y z : List Binary64) :
    (layOut x y z).z.rows = (layOut x y z).y.length ∧
      (layOut x y z).z.cols = (layOut x y z).x.length :=
  foldl_place_dims _ _ _ _

-- The whole of a laid out mesh: its axes are the distinct setpoints, its cells what was measured last.
theorem layOut_get? {x y z : List Binary64} {row col : Nat}
    (inRow : row < (layOut x y z).y.length) (inCol : col < (layOut x y z).x.length) :
    (layOut x y z).z.get? row col = some
      ((lastIn? (layOut x y z).x (layOut x y z).y (points x y z) (row, col)).getD .nan) := by
  unfold layOut at *
  dsimp only at *
  rw [get?_foldl_place _ rfl rfl, Grid.get?_replicate _ inRow inCol]
  cases lastIn? (Setpoint.uniqueSorted x) (Setpoint.uniqueSorted y) (points x y z) (row, col) <;> rfl

end MeshData

end Labbook
