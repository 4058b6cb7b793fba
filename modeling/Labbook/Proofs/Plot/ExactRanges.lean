import Labbook.Plot.Canvas
import Labbook.Proofs.Mesh.CellEdges
import Labbook.Proofs.Number.ExactScalar
import Labbook.Proofs.Number.WordValue

namespace Labbook

namespace Range
variable {low high v : Rat}

def Holds (range : Range Rat) (v : Rat) : Prop := range.low ≤ v ∧ v ≤ range.high

instance (range : Range Rat) (v : Rat) : Decidable (range.Holds v) :=
  inferInstanceAs (Decidable (_ ∧ _))

theorem paddedBetween_holds (below : low ≤ v) (above : v ≤ high) :
    (paddedBetween low high).Holds v := by
  have positive : ∀ q : Rat, 0 ≤ Scalar.absolute q := by
    intro q
    change (0 : Rat) ≤ if q < 0 then -q else q
    split <;> linarith
  have padding : (0 : Rat) ≤ if Scalar.absolute (high - low) < (1e-12 : Rat) then
      if Scalar.equals low (0.0 : Rat) then (0.5 : Rat) else Scalar.absolute low * (0.05 : Rat)
      else Scalar.absolute (high - low) * (0.05 : Rat) := by
    split
    · split
      · norm_num
      · exact mul_nonneg (positive low) (by norm_num)
    · exact mul_nonneg (positive (high - low)) (by norm_num)
  exact ⟨le_trans (sub_le_self low padding) below, le_trans above (le_add_of_nonneg_right padding)⟩

theorem padded_holds (below : low ≤ v) (above : v ≤ high) : (padded low high).Holds v := by
  unfold padded
  rw [if_pos (show low ≤ high from le_trans below above)]
  exact paddedBetween_holds below above

end Range

theorem Layer.axisRange_holds {axis : Axis} (numeric : axis.categories = none) (tight : Bool)
    {low high v : Rat} (below : low ≤ v) (above : v ≤ high) :
    (Layer.axisRange axis tight low high).Holds v := by
  unfold axisRange
  rw [numeric]
  dsimp only
  split
  · exact ⟨below, above⟩
  · exact Range.padded_holds below above

namespace Bounds

def Holds (b : Bounds Rat) (point : Rat × Rat) : Prop :=
  (b.left ≤ point.1 ∧ point.1 ≤ b.right) ∧ b.bottom ≤ point.2 ∧ point.2 ≤ b.top

def Hold (bounds : Option (Bounds Rat)) (point : Rat × Rat) : Prop :=
  ∃ b, bounds = some b ∧ b.Holds point

variable {bounds : Option (Bounds Rat)} {point other : Rat × Rat} {points : List (Rat × Rat)}

theorem add_none (point : Rat × Rat) :
    add none point = some ⟨point.1, point.1, point.2, point.2⟩ := rfl

theorem add_some (b : Bounds Rat) (point : Rat × Rat) : add (some b) point =
    some ⟨min b.left point.1, max b.right point.1, min b.bottom point.2, max b.top point.2⟩ := by
  rw [← lesser_eq_min, ← greater_eq_max, ← lesser_eq_min, ← greater_eq_max]
  rfl

theorem add_holds (bounds : Option (Bounds Rat)) (point : Rat × Rat) :
    Hold (add bounds point) point := by
  cases bounds with
  | none => exact ⟨_, add_none point, ⟨le_refl _, le_refl _⟩, le_refl _, le_refl _⟩
  | some b =>
    exact ⟨_, add_some b point, ⟨min_le_right _ _, le_max_right _ _⟩, min_le_right _ _,
      le_max_right _ _⟩

theorem add_keeps (held : Hold bounds other) (point : Rat × Rat) : Hold (add bounds point) other := by
  obtain ⟨b, rfl, ⟨left, right⟩, bottom, top⟩ := held
  exact ⟨_, add_some b point, ⟨le_trans (min_le_left _ _) left, le_trans right (le_max_left _ _)⟩,
    le_trans (min_le_left _ _) bottom, le_trans top (le_max_left _ _)⟩

section
variable {α : Type} {step : Option (Bounds Rat) → α → Option (Bounds Rat)}

theorem foldl_keeps (keeps : ∀ bounds a, Hold bounds point → Hold (step bounds a) point)
    (held : Hold bounds point) (steps : List α) : Hold (steps.foldl step bounds) point := by
  induction steps generalizing bounds with
  | nil => exact held
  | cons a rest ih => exact ih (keeps bounds a held)

theorem foldl_holds {a : α} {steps : List α}
    (keeps : ∀ bounds a, Hold bounds point → Hold (step bounds a) point)
    (takes : ∀ bounds, Hold (step bounds a) point) (member : a ∈ steps)
    (bounds : Option (Bounds Rat)) : Hold (steps.foldl step bounds) point := by
  induction steps generalizing bounds with
  | nil => cases member
  | cons first rest ih =>
    rcases List.mem_cons.mp member with rfl | later
    · exact foldl_keeps keeps (takes bounds) rest
    · exact ih later (step bounds first)

end

theorem around_holds (member : point ∈ points) : Hold (around points) point :=
  foldl_holds (fun _ first held => add_keeps held first) (fun bounds => add_holds bounds point)
    member none

end Bounds

namespace Layer
variable {layers : List (Layer Rat)} {layer : Layer Rat} {point : Rat × Rat}

-- The bounds of several layers: those of each are added by two of its corners.
def addBounds (all : Option (Bounds Rat)) (b : Bounds Rat) : Option (Bounds Rat) :=
  Bounds.add (Bounds.add all (b.left, b.bottom)) (b.right, b.top)

theorem addBounds_holds {b : Bounds Rat} (all : Option (Bounds Rat)) (held : b.Holds point) :
    Bounds.Hold (addBounds all b) point := by
  have low := Bounds.add_keeps (Bounds.add_holds all (b.left, b.bottom)) (b.right, b.top)
  have high := Bounds.add_holds (Bounds.add all (b.left, b.bottom)) (b.right, b.top)
  obtain ⟨whole, same, ⟨left, -⟩, bottom, -⟩ := low
  obtain ⟨again, found, ⟨-, right⟩, -, top⟩ := high
  rw [same] at found
  cases found
  exact ⟨whole, same, ⟨le_trans left held.1.1, le_trans held.1.2 right⟩, le_trans bottom held.2.1,
    le_trans held.2.2 top⟩

theorem addBounds_keeps {all : Option (Bounds Rat)} (held : Bounds.Hold all point)
    (b : Bounds Rat) : Bounds.Hold (addBounds all b) point :=
  Bounds.add_keeps (Bounds.add_keeps held _) _

theorem boundsOf_holds (listed : layer ∈ layers) (corner : point ∈ layer.corners) :
    Bounds.Hold (boundsOf layers) point := by
  obtain ⟨b, bounded, held⟩ := Bounds.around_holds corner
  have part : b ∈ layers.filterMap fun layer => Bounds.around layer.corners :=
    List.mem_filterMap.mpr ⟨layer, listed, bounded⟩
  exact Bounds.foldl_holds (fun _ b held => addBounds_keeps held b)
    (fun all => addBounds_holds all held) part none

-- Numeric axes hold every corner of every layer.
theorem ranges_hold {x y : Axis} (numericX : x.categories = none) (numericY : y.categories = none)
    (listed : layer ∈ layers) (corner : point ∈ layer.corners) :
    (ranges x y layers).1.Holds point.1 ∧ (ranges x y layers).2.Holds point.2 := by
  obtain ⟨b, bounded, ⟨left, right⟩, bottom, top⟩ := boundsOf_holds listed corner
  unfold ranges
  rw [bounded]
  exact ⟨axisRange_holds numericX _ left right, axisRange_holds numericY _ bottom top⟩

theorem corners_mesh (m : Mesh Rat) : (Layer.mesh m).corners =
    match outerEdges m.x, outerEdges m.y with
    | some (left, right), some (bottom, top) => [(left, bottom), (right, top)]
    | _, _ => [] := by
  unfold corners outerEdges
  dsimp only
  cases (cellEdges m.x).head? <;> cases (cellEdges m.x).getLast? <;>
    cases (cellEdges m.y).head? <;> cases (cellEdges m.y).getLast? <;> rfl

end Layer

def edgeRange (centers : List Rat) : Range Rat :=
  match outerEdges centers with
  | some (first, last) => Layer.axisRange {} true (min first last) (max first last)
  | none => ⟨0, 0⟩

theorem edgeRange_holds {centers : List Rat} {v : Rat} (member : v ∈ centers)
    (ordered : centers.Pairwise (· < ·) ∨ centers.Pairwise (· > ·)) : (edgeRange centers).Holds v := by
  obtain ⟨first, last, edges, between⟩ := outerEdges_enclose ordered (List.ne_nil_of_mem member)
  unfold edgeRange
  rw [edges]
  obtain ⟨below, above⟩ := between v member
  exact Layer.axisRange_holds rfl true (le_of_lt below) (le_of_lt above)

theorem outerEdges_exist {centers : List Rat} (nonempty : centers ≠ []) :
    ∃ first last, outerEdges centers = some (first, last) := by
  unfold outerEdges
  cases edges : cellEdges centers with
  | nil => exact absurd (cellEdges_isNil.mp edges) nonempty
  | cons first rest =>
    obtain ⟨last, found⟩ := Option.isSome_iff_exists.mp
      (List.getLast?_isSome.mpr (List.cons_ne_nil first rest))
    rw [found]
    exact ⟨first, last, rfl⟩

-- With nothing but one mesh, the axes end where its outer edges do.
theorem Layer.ranges_mesh {x y : Axis} (numericX : x.categories = none)
    (numericY : y.categories = none) {m : Mesh Rat} (columns : m.x ≠ []) (rows : m.y ≠ []) :
    ranges x y [.mesh m] = (edgeRange m.x, edgeRange m.y) := by
  obtain ⟨left, right, edgesX⟩ := outerEdges_exist columns
  obtain ⟨bottom, top, edgesY⟩ := outerEdges_exist rows
  have around : Bounds.around (Layer.mesh m).corners =
      some ⟨min left right, max left right, min bottom top, max bottom top⟩ := by
    rw [corners_mesh, edgesX, edgesY]
    exact Bounds.add_some ⟨left, left, bottom, bottom⟩ (right, top)
  have bounds : boundsOf [.mesh m] =
      some ⟨min left right, max left right, min bottom top, max bottom top⟩ := by
    have columns : min left right ≤ max left right := min_le_max
    have rows : min bottom top ≤ max bottom top := min_le_max
    simp only [boundsOf, List.filterMap_cons, around, List.filterMap_nil, List.foldl_cons,
      List.foldl_nil, Bounds.add_none, Bounds.add_some, min_eq_left columns, max_eq_right columns,
      min_eq_left rows, max_eq_right rows]
  have axis : ∀ (axis : Axis) (low high : Rat), axis.categories = none →
      axisRange axis true low high = axisRange {} true low high := by
    intro axis low high numeric
    unfold axisRange
    rw [numeric]
  unfold ranges edgeRange
  rw [bounds, edgesX, edgesY]
  exact Prod.ext (axis x _ _ numericX) (axis y _ _ numericY)

namespace Layer

def exactPoint? (point : Binary64 × Binary64) : Option (Rat × Rat) :=
  if point.1.isFinite && point.2.isFinite then some (point.1.value, point.2.value) else none

-- A layer with the exact values of its coordinates. Points that are not finite have no part in ranges
-- and are left out.
def exact : Layer Binary64 → Layer Rat
  | line ps => .line (ps.filterMap exactPoint?)
  | points ps => .points (ps.filterMap exactPoint?)
  | bars ps => .bars (ps.filterMap exactPoint?)
  | mesh m => .mesh ⟨m.x.map Binary64.value, m.y.map Binary64.value, m.z.map Binary64.value,
      m.rasterized⟩
  | scatter s => .scatter ⟨s.points.filterMap fun (x, y, z) =>
      (exactPoint? (x, y)).map fun point => (point.1, point.2, z.value), s.rasterized⟩

def places : Layer Binary64 → List (Binary64 × Binary64)
  | line ps | points ps | bars ps => ps
  | mesh m => m.x.flatMap fun x => m.y.map (x, ·)
  | scatter s => s.points.map fun (x, y, _) => (x, y)

theorem mem_places_mesh {m : Mesh Binary64} {x y : Binary64} :
    (x, y) ∈ (Layer.mesh m).places ↔ x ∈ m.x ∧ y ∈ m.y := by
  simp [places]

theorem exactPoint?_finite {point : Binary64 × Binary64} (finiteX : point.1.isFinite = true)
    (finiteY : point.2.isFinite = true) :
    exactPoint? point = some (point.1.value, point.2.value) := by
  rw [exactPoint?, finiteX, finiteY]
  rfl

end Layer

namespace Canvas
variable {c : Canvas} {layer : Layer Binary64} {point : Binary64 × Binary64}

def exactRanges (c : Canvas) : Range Rat × Range Rat :=
  Layer.ranges c.xAxis c.yAxis (c.layers.map Layer.exact)

def Contains (c : Canvas) (point : Binary64 × Binary64) : Prop :=
  (point.1.isFinite = true ∧ c.exactRanges.1.Holds point.1.value) ∧
    point.2.isFinite = true ∧ c.exactRanges.2.Holds point.2.value

instance (c : Canvas) (point : Binary64 × Binary64) : Decidable (c.Contains point) :=
  inferInstanceAs (Decidable (_ ∧ _))

-- The finite points of every layer but a mesh lie within the ranges of numeric axes.
theorem contains_place (numericX : c.xAxis.categories = none) (numericY : c.yAxis.categories = none)
    (listed : layer ∈ c.layers) (noMesh : layer.isMesh = false) (shown : point ∈ layer.places)
    (finiteX : point.1.isFinite = true) (finiteY : point.2.isFinite = true) : c.Contains point := by
  have exact := Layer.exactPoint?_finite finiteX finiteY
  have held : ∀ corner ∈ layer.exact.corners,
      c.exactRanges.1.Holds corner.1 ∧ c.exactRanges.2.Holds corner.2 :=
    fun corner member => Layer.ranges_hold numericX numericY (List.mem_map_of_mem listed) member
  suffices inside : c.exactRanges.1.Holds point.1.value ∧ c.exactRanges.2.Holds point.2.value from
    ⟨⟨finiteX, inside.1⟩, finiteY, inside.2⟩
  cases layer with
  | line ps => exact held _ (List.mem_filterMap.mpr ⟨point, shown, exact⟩)
  | points ps => exact held _ (List.mem_filterMap.mpr ⟨point, shown, exact⟩)
  | bars ps =>
    have half : (0 : Rat) ≤ 0.4 := by norm_num
    have bar := List.mem_filterMap.mpr ⟨point, shown, exact⟩
    have left := held (point.1.value - 0.4, 0.0) (List.mem_flatMap.mpr ⟨_, bar, List.mem_cons_self⟩)
    have right := held (point.1.value + 0.4, point.2.value)
      (List.mem_flatMap.mpr ⟨_, bar, List.mem_cons_of_mem _ List.mem_cons_self⟩)
    exact ⟨⟨le_trans left.1.1 (sub_le_self _ half),
      le_trans (le_add_of_nonneg_right half) right.1.2⟩, right.2⟩
  | mesh m => cases noMesh
  | scatter s =>
    obtain ⟨⟨x, y, z⟩, listed, rfl⟩ := List.mem_map.mp shown
    dsimp only at exact ⊢
    have marked : (x.value, y.value, z.value) ∈ s.points.filterMap fun (x, y, z) =>
        (Layer.exactPoint? (x, y)).map fun point => (point.1, point.2, z.value) := by
      refine List.mem_filterMap.mpr ⟨(x, y, z), listed, ?_⟩
      dsimp only
      rw [exact]
      rfl
    exact held _ (List.mem_map.mpr ⟨_, marked, rfl⟩)

-- A canvas with nothing but a mesh contains the centre of a cell if the outer edges do.
theorem contains_mesh_iff (numericX : c.xAxis.categories = none)
    (numericY : c.yAxis.categories = none) {m : Mesh Binary64} (alone : c.layers = [.mesh m])
    (shown : point ∈ (Layer.mesh m).places) (finiteX : point.1.isFinite = true)
    (finiteY : point.2.isFinite = true) : c.Contains point ↔
      (edgeRange (m.x.map Binary64.value)).Holds point.1.value ∧
        (edgeRange (m.y.map Binary64.value)).Holds point.2.value := by
  obtain ⟨column, row⟩ := Layer.mem_places_mesh.mp shown
  have ranges : c.exactRanges =
      (edgeRange (m.x.map Binary64.value), edgeRange (m.y.map Binary64.value)) := by
    unfold exactRanges
    rw [alone]
    exact Layer.ranges_mesh numericX numericY (List.ne_nil_of_mem (List.mem_map_of_mem column))
      (List.ne_nil_of_mem (List.mem_map_of_mem row))
  unfold Contains
  rw [ranges, finiteX, finiteY]
  simp only [true_and]

end Canvas

end Labbook
