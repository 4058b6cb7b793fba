import Labbook.Data.Grid
import Mathlib.Data.List.Basic

namespace Labbook

namespace Grid
variable {α : Type}

theorem place_lt {rows cols row col : Nat} (inRow : row < rows) (inCol : col < cols) :
    row * cols + col < rows * cols := by
  have next : (row + 1) * cols ≤ rows * cols := Nat.mul_le_mul_right cols inRow
  rw [Nat.add_mul, Nat.one_mul] at next
  omega

theorem place_div {cols row col : Nat} (inCol : col < cols) : (row * cols + col) / cols = row := by
  rw [Nat.mul_comm, Nat.mul_add_div (Nat.zero_lt_of_lt inCol), Nat.div_eq_of_lt inCol, Nat.add_zero]

theorem place_mod {cols row col : Nat} (inCol : col < cols) : (row * cols + col) % cols = col := by
  rw [Nat.mul_comm, Nat.mul_add_mod, Nat.mod_eq_of_lt inCol]

theorem get?_eq_getElem? {g : Grid α} {row col : Nat} (inRow : row < g.rows) (inCol : col < g.cols) :
    g.get? row col = g.cells[row * g.cols + col]? := by
  rw [get?, if_pos ⟨inRow, inCol⟩]

theorem get?_outside {g : Grid α} {row col : Nat} (outside : ¬(row < g.rows ∧ col < g.cols)) :
    g.get? row col = none := by
  rw [get?, if_neg outside]

theorem inside_of_get? {g : Grid α} {row col : Nat} {a : α} (found : g.get? row col = some a) :
    row < g.rows ∧ col < g.cols := by
  by_contra outside
  rw [get?_outside outside] at found
  cases found

theorem get?_replicate {rows cols row col : Nat} (a : α) (inRow : row < rows) (inCol : col < cols) :
    (Grid.replicate rows cols a).get? row col = some a := by
  rw [get?_eq_getElem? (g := .replicate rows cols a) inRow inCol]
  change (Array.replicate (rows * cols) a)[row * cols + col]? = _
  rw [Array.getElem?_replicate, if_pos (place_lt inRow inCol)]

theorem get?_ofFn {rows cols row col : Nat} (f : Nat → Nat → α) (inRow : row < rows)
    (inCol : col < cols) : (Grid.ofFn rows cols f).get? row col = some (f row col) := by
  rw [get?_eq_getElem? (g := .ofFn rows cols f) inRow inCol]
  change (Array.ofFn (n := rows * cols) fun i => f (i.val / cols) (i.val % cols))[row * cols + col]? = _
  rw [Array.getElem?_ofFn, dif_pos (place_lt inRow inCol), place_div inCol, place_mod inCol]

@[simp] theorem set_rows (g : Grid α) (row col : Nat) (a : α) : (g.set row col a).rows = g.rows := by
  unfold set; split <;> rfl

@[simp] theorem set_cols (g : Grid α) (row col : Nat) (a : α) : (g.set row col a).cols = g.cols := by
  unfold set; split <;> rfl

theorem get?_set_self {g : Grid α} {row col : Nat} (inRow : row < g.rows) (inCol : col < g.cols)
    (a : α) : (g.set row col a).get? row col = some a := by
  have inside : row * g.cols + col < g.cells.size := g.size_eq ▸ place_lt inRow inCol
  rw [get?_eq_getElem? (by simpa using inRow) (by simpa using inCol), set_cols, set,
    if_pos ⟨inRow, inCol⟩]
  exact Array.getElem?_setIfInBounds_self_of_lt inside

-- Writing one cell leaves every other cell as it was.
theorem get?_set_other (g : Grid α) {row col r c : Nat} (a : α) (apart : (r, c) ≠ (row, col)) :
    (g.set row col a).get? r c = g.get? r c := by
  by_cases inside : r < g.rows ∧ c < g.cols
  · rw [get?_eq_getElem? (by simpa using inside.1) (by simpa using inside.2), set_cols,
      get?_eq_getElem? inside.1 inside.2, set]
    split
    · rename_i written
      refine Array.getElem?_setIfInBounds_ne fun same => apart ?_
      have rows := congrArg (· / g.cols) same
      have cols := congrArg (· % g.cols) same
      simp only [place_div inside.2, place_div written.2, place_mod inside.2,
        place_mod written.2] at rows cols
      rw [rows, cols]
    · rfl
  · rw [get?_outside inside, get?_outside (by simpa using inside)]

theorem ext_get? {g h : Grid α} (rows : g.rows = h.rows) (cols : g.cols = h.cols)
    (same : ∀ row < g.rows, ∀ col < g.cols, g.get? row col = h.get? row col) : g = h := by
  obtain ⟨rowsG, colsG, cellsG, sizeG⟩ := g
  obtain ⟨rowsH, colsH, cellsH, sizeH⟩ := h
  dsimp only at rows cols same
  subst rows cols
  congr 1
  apply Array.ext (sizeG.trans sizeH.symm)
  intro i inG inH
  have inside : i < rowsG * colsG := sizeG ▸ inG
  have wide : 0 < colsG := Nat.pos_of_ne_zero fun empty => by
    rw [empty, Nat.mul_zero] at inside
    exact Nat.not_lt_zero _ inside
  have cell := same (i / colsG) (Nat.div_lt_of_lt_mul (Nat.mul_comm _ _ ▸ inside)) (i % colsG)
    (Nat.mod_lt _ wide)
  rw [get?_eq_getElem? (Nat.div_lt_of_lt_mul (Nat.mul_comm _ _ ▸ inside)) (Nat.mod_lt _ wide),
    get?_eq_getElem? (Nat.div_lt_of_lt_mul (Nat.mul_comm _ _ ▸ inside)) (Nat.mod_lt _ wide)] at cell
  dsimp only at cell
  rw [Nat.mul_comm, Nat.div_add_mod, Array.getElem?_eq_getElem inG,
    Array.getElem?_eq_getElem inH] at cell
  exact Option.some.inj cell

theorem get?_isSome {g : Grid α} {row col : Nat} (inRow : row < g.rows) (inCol : col < g.cols) :
    (g.get? row col).isSome = true := by
  have inside : row * g.cols + col < g.cells.size := g.size_eq ▸ place_lt inRow inCol
  rw [get?_eq_getElem? inRow inCol, Array.getElem?_eq_getElem inside]
  rfl

theorem mem_toList_of_get? {g : Grid α} {row col : Nat} {a : α} (found : g.get? row col = some a) :
    a ∈ g.toList := by
  obtain ⟨inRow, inCol⟩ := inside_of_get? found
  rw [get?_eq_getElem? inRow inCol] at found
  exact Array.mem_toList_iff.mpr (Array.mem_of_getElem? found)

theorem mem_replicate {rows cols : Nat} {a b : α}
    (member : b ∈ (Grid.replicate rows cols a).toList) : b = a := by
  simp only [Grid.replicate, toList, Array.toList_replicate] at member
  exact List.eq_of_mem_replicate member

theorem mem_ofFn {rows cols : Nat} {f : Nat → Nat → α} {a : α}
    (member : a ∈ (Grid.ofFn rows cols f).toList) : ∃ row col, a = f row col := by
  simp only [Grid.ofFn, toList, Array.toList_ofFn, List.mem_ofFn] at member
  obtain ⟨i, same⟩ := member
  exact ⟨_, _, same.symm⟩

theorem mem_set {g : Grid α} {row col : Nat} {a b : α} (member : b ∈ (g.set row col a).toList) :
    b = a ∨ b ∈ g.toList := by
  unfold set at member
  split at member
  · simp only [toList, Array.toList_setIfInBounds] at member
    exact (List.mem_or_eq_of_mem_set member).symm
  · exact .inr member

theorem mem_indexed {g : Grid α} {row col : Nat} {a : α} (member : (row, col, a) ∈ g.indexed) :
    row < g.rows ∧ col < g.cols ∧ g.get? row col = some a := by
  obtain ⟨i, inside, same⟩ := List.mem_mapIdx.mp member
  have size : i < g.rows * g.cols := by
    rw [← g.size_eq, ← Array.length_toList]
    exact inside
  have wide : 0 < g.cols := Nat.pos_of_ne_zero fun empty => by
    rw [empty, Nat.mul_zero] at size
    exact Nat.not_lt_zero _ size
  cases same
  have inRow : i / g.cols < g.rows := Nat.div_lt_of_lt_mul (Nat.mul_comm _ _ ▸ size)
  refine ⟨inRow, Nat.mod_lt _ wide, ?_⟩
  rw [get?_eq_getElem? inRow (Nat.mod_lt _ wide), Nat.mul_comm, Nat.div_add_mod]
  exact Array.getElem?_toList ▸ List.getElem?_eq_getElem inside

theorem mem_indexed_of_get? {g : Grid α} {row col : Nat} {a : α} (inRow : row < g.rows)
    (inCol : col < g.cols) (found : g.get? row col = some a) : (row, col, a) ∈ g.indexed := by
  rw [get?_eq_getElem? inRow inCol] at found
  obtain ⟨inside, rfl⟩ := Array.getElem?_eq_some_iff.mp found
  refine List.mem_mapIdx.mpr ⟨row * g.cols + col, inside, ?_⟩
  rw [place_div inCol, place_mod inCol]
  rfl

theorem firstColumn_eq {g : Grid α} (wide : 0 < g.cols) (d : α) :
    g.firstColumn = (List.range g.rows).map fun row => (g.get? row 0).getD d := by
  unfold firstColumn
  rw [← List.filterMap_eq_map]
  refine List.filterMap_congr fun row member => ?_
  obtain ⟨a, found⟩ := Option.isSome_iff_exists.mp (get?_isSome (List.mem_range.mp member) wide)
  rw [Function.comp_apply, found]
  rfl

theorem firstRow_eq {g : Grid α} (tall : 0 < g.rows) (d : α) :
    g.firstRow = (List.range g.cols).map fun col => (g.get? 0 col).getD d := by
  unfold firstRow
  rw [← List.filterMap_eq_map]
  refine List.filterMap_congr fun col member => ?_
  obtain ⟨a, found⟩ := Option.isSome_iff_exists.mp (get?_isSome tall (List.mem_range.mp member))
  rw [Function.comp_apply, found]
  rfl

theorem length_firstColumn_le (g : Grid α) : g.firstColumn.length ≤ g.rows :=
  Nat.le_trans (List.length_filterMap_le _ _) (Nat.le_of_eq List.length_range)

theorem length_firstRow_le (g : Grid α) : g.firstRow.length ≤ g.cols :=
  Nat.le_trans (List.length_filterMap_le _ _) (Nat.le_of_eq List.length_range)

theorem getElem?_firstColumn {g : Grid α} (wide : 0 < g.cols) (row : Nat) :
    g.firstColumn[row]? = g.get? row 0 := by
  by_cases inside : row < g.rows
  · obtain ⟨a, found⟩ := Option.isSome_iff_exists.mp (get?_isSome inside wide)
    rw [firstColumn_eq wide a, List.getElem?_map, List.getElem?_range inside, Option.map_some, found]
    rfl
  · rw [get?_outside fun within => inside within.1]
    exact List.getElem?_eq_none (Nat.le_trans (length_firstColumn_le g) (Nat.le_of_not_lt inside))

theorem getElem?_firstRow {g : Grid α} (tall : 0 < g.rows) (col : Nat) :
    g.firstRow[col]? = g.get? 0 col := by
  by_cases inside : col < g.cols
  · obtain ⟨a, found⟩ := Option.isSome_iff_exists.mp (get?_isSome tall inside)
    rw [firstRow_eq tall a, List.getElem?_map, List.getElem?_range inside, Option.map_some, found]
    rfl
  · rw [get?_outside fun within => inside within.2]
    exact List.getElem?_eq_none (Nat.le_trans (length_firstRow_le g) (Nat.le_of_not_lt inside))

end Grid

end Labbook
