import Labbook.Proofs.Mesh.Placement
import Labbook.Proofs.Setpoint.UnitScale

namespace Labbook

namespace Grid
variable {α : Type} [Inhabited α]

-- The grid with its rows as columns.
def transpose (g : Grid α) : Grid α :=
  ofFn g.cols g.rows fun row col => (g.get? col row).getD default

theorem get?_transpose (g : Grid α) (row col : Nat) : g.transpose.get? row col = g.get? col row := by
  by_cases inside : col < g.rows ∧ row < g.cols
  · obtain ⟨a, found⟩ := Option.isSome_iff_exists.mp (get?_isSome inside.1 inside.2)
    rw [transpose, get?_ofFn _ inside.2 inside.1, found]
    rfl
  · have beyond : ¬(row < g.transpose.rows ∧ col < g.transpose.cols) := fun within => inside within.symm
    rw [get?_outside inside, get?_outside beyond]

theorem transpose_replicate (rows cols : Nat) (a : α) :
    (replicate rows cols a).transpose = replicate cols rows a := by
  refine ext_get? rfl rfl fun row inRow col inCol => ?_
  rw [get?_transpose]
  exact (get?_replicate a inCol inRow).trans (get?_replicate a inRow inCol).symm

theorem transpose_set (g : Grid α) (row col : Nat) (a : α) :
    (g.set row col a).transpose = g.transpose.set col row a := by
  have rows : (g.set row col a).transpose.rows = (g.transpose.set col row a).rows :=
    (set_cols g row col a).trans (set_rows g.transpose col row a).symm
  have cols : (g.set row col a).transpose.cols = (g.transpose.set col row a).cols :=
    (set_rows g row col a).trans (set_cols g.transpose col row a).symm
  refine ext_get? rows cols fun r inRow c inCol => ?_
  rw [rows, set_rows] at inRow
  rw [cols, set_cols] at inCol
  rw [get?_transpose]
  by_cases here : (r, c) = (col, row)
  · cases here
    rw [get?_set_self inCol inRow, get?_set_self inRow inCol]
  · have apart : (c, r) ≠ (row, col) := fun same => here (Prod.swap_inj.mp same)
    rw [get?_set_other g a apart, get?_set_other g.transpose a here, get?_transpose]

end Grid

namespace PlotType
open Setpoint
variable (x y : List Binary64)

theorem measuredPairs_swapped : measuredPairs y x = (measuredPairs x y).map Prod.swap := by
  unfold measuredPairs
  rw [← List.zip_swap, List.filter_map]
  congr 1
  exact List.filter_congr fun pair _ => Bool.and_comm _ _

theorem measuredX_swapped : measuredX y x = measuredY x y := by
  unfold measuredX measuredY
  rw [measuredPairs_swapped, List.map_map]
  rfl

theorem pairsUnique_swapped : pairsUnique y x = pairsUnique x y := by
  rw [Bool.eq_iff_iff, pairsUnique_iff, pairsUnique_iff, ← List.zip_swap]
  exact List.nodup_map_iff Prod.swap_injective

theorem of2D_swapped : of2D y x = of2D x y := by
  have lengths : (measuredPairs y x).length = (measuredPairs x y).length := by
    rw [measuredPairs_swapped, List.length_map]
  have empty : (measuredPairs y x).isEmpty = (measuredPairs x y).isEmpty := by
    rw [measuredPairs_swapped, List.isEmpty_map]
  rw [of2D_eq, of2D_eq]
  dsimp only
  rw [empty, lengths, measuredX_swapped x y, ← measuredX_swapped y x,
    pairsUnique_swapped (measuredX x y), Bool.or_comm (allTheSame (measuredY x y)),
    Nat.mul_comm (uniqueSorted (measuredY x y)).length,
    Bool.and_comm (isEquidistant (uniqueSorted (measuredY x y))),
    Bool.or_comm (isInterruptedSweep (measuredY x y) _)]

end PlotType

namespace MeshData

def swapPoint (point : Point) : Point := (point.2.1, point.1, point.2.2)

def transpose (m : MeshData) : MeshData := ⟨m.y, m.x, m.z.transpose⟩

theorem points_swapped (x y z : List Binary64) : points y x z = (points x y z).map swapPoint := by
  unfold points
  induction x generalizing y z with
  | nil => cases y <;> rfl
  | cons a x ih =>
    cases y with
    | nil => rfl
    | cons b y =>
      cases z with
      | nil => rfl
      | cons c z =>
        simp only [List.zip_cons_cons, List.map_cons]
        rw [ih]
        rfl

theorem cell?_swapped (x y : List Binary64) (point : Point) :
    cell? y x (swapPoint point) = (cell? x y point).map Prod.swap := by
  unfold cell? swapPoint
  rw [Bool.or_comm]
  split
  · rfl
  · cases x.idxOf? point.1 <;> cases y.idxOf? point.2.1 <;> rfl

theorem place_swapped (x y : List Binary64) (z : Grid Binary64) (point : Point) :
    place y x z.transpose (swapPoint point) = (place x y z point).transpose := by
  rw [place_eq, place_eq, cell?_swapped]
  cases cell? x y point with
  | none => rfl
  | some cell => exact (Grid.transpose_set z cell.1 cell.2 point.2.2).symm

-- Points written one after the other: a later one overwrites the same earlier ones in both grids.
theorem foldl_place_swapped (x y : List Binary64) (points : List Point) (z : Grid Binary64) :
    (points.map swapPoint).foldl (place y x) z.transpose =
      (points.foldl (place x y) z).transpose := by
  induction points generalizing z with
  | nil => rfl
  | cons point rest ih => rw [List.map_cons, List.foldl_cons, place_swapped, ih, List.foldl_cons]

theorem layOut_swapped (x y z : List Binary64) : layOut y x z = (layOut x y z).transpose := by
  refine eq_of_parts rfl rfl ?_
  have blank := Grid.transpose_replicate (Setpoint.uniqueSorted y).length
    (Setpoint.uniqueSorted x).length Binary64.nan
  have written := foldl_place_swapped (Setpoint.uniqueSorted x) (Setpoint.uniqueSorted y) (points x y z)
    (.replicate (Setpoint.uniqueSorted y).length (Setpoint.uniqueSorted x).length .nan)
  rw [blank, ← points_swapped] at written
  exact written

-- Columns of any lengths and with any unmeasured or repeated setpoints.
theorem swapped_transposes (x y z : List Binary64) :
    PlotType.of2D y x = PlotType.of2D x y ∧
      (layOut y x z).x = (layOut x y z).y ∧ (layOut y x z).y = (layOut x y z).x ∧
      (layOut y x z).z = (layOut x y z).z.transpose ∧
      ∀ row col, (layOut y x z).z.get? row col = (layOut x y z).z.get? col row := by
  have layouts := layOut_swapped x y z
  refine ⟨PlotType.of2D_swapped x y, rfl, rfl, congrArg MeshData.z layouts, fun row col => ?_⟩
  rw [layouts]
  exact Grid.get?_transpose _ row col

end MeshData

end Labbook
