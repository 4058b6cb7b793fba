import Labbook.Proofs.Number.UnboundedWords
import Labbook.Proofs.Picture.PaintOrder

namespace Labbook

theorem Colorbar.colorFor_isSome (bar : Colorbar Binary64) (value : Binary64) :
    (bar.colorFor value).isSome = true ↔ value.isNaN = false := by
  change (if value.isNaN = true then none else _ : Option Rgb).isSome = true ↔ _
  cases value.isNaN with
  | true => exact iff_of_false nofun nofun
  | false =>
    refine iff_of_true ?_ rfl
    rw [if_neg Bool.false_ne_true]
    split
    · rfl
    · split <;> rfl

namespace Layer
variable {bar : Option (Colorbar Binary64)} {layer : Layer Binary64} {mark : Mark Binary64}
  {point : Binary64 × Binary64}

-- The points of a layer that a mark is made for: one for every vertex of a line, for a dot and for a bar.
inductive DrawnFor : Layer Binary64 → Mark Binary64 → Binary64 × Binary64 → Prop where
  | vertex {points vertices : List (Binary64 × Binary64)} {point : Binary64 × Binary64}
      (listed : point ∈ points) (joined : point ∈ vertices) :
      DrawnFor (.line points) (.path vertices) point
  | dot {points : List (Binary64 × Binary64)} {point : Binary64 × Binary64} {radius : Nat} {color : Rgb}
      (listed : point ∈ points) : DrawnFor (.points points) (.dot point radius color) point
  | bar {bars : List (Binary64 × Binary64)} {x y : Binary64} {color : Rgb} (listed : (x, y) ∈ bars) :
      DrawnFor (.bars bars) (.box (x - barHalfWidth, 0.0) (x + barHalfWidth, y) color) (x, y)
  | coloured {s : Scatter Binary64} {x y z : Binary64} {radius : Nat} {color : Rgb}
      (listed : (x, y, z) ∈ s.points) : DrawnFor (.scatter s) (.dot (x, y) radius color) (x, y)

-- Whether nothing of a mark is there without a point of the layer.
def Accounts (layer : Layer Binary64) : Mark Binary64 → Prop
  | .path vertices => ∀ point ∈ vertices, layer.DrawnFor (.path vertices) point
  | .dot center radius color => layer.DrawnFor (.dot center radius color) center
  | .box a b color => ∃ point, layer.DrawnFor (.box a b color) point

def Draws (layer : Layer Binary64) (bar : Option (Colorbar Binary64)) (point : Binary64 × Binary64) :
    Prop := ∃ mark ∈ layer.marks bar, layer.DrawnFor mark point

def IsFinitePoint (point : Binary64 × Binary64) : Prop :=
  point.1.isFinite = true ∧ point.2.isFinite = true

theorem finitePoint_iff : finitePoint point = true ↔ IsFinitePoint point := by
  unfold finitePoint
  rw [Bool.and_eq_true]
  rfl

theorem mem_pathMarks {points : List (Binary64 × Binary64)} :
    mark ∈ pathMarks points ↔
      mark = .path (points.filter finitePoint) ∧ points.filter finitePoint ≠ [] := by
  unfold pathMarks
  dsimp only
  rw [← List.isEmpty_eq_false_iff]
  cases (points.filter finitePoint).isEmpty with
  | true => exact iff_of_false List.not_mem_nil nofun
  | false => exact List.mem_singleton.trans (and_iff_left rfl).symm

theorem draws_line_iff {points : List (Binary64 × Binary64)} :
    (line points).Draws bar point ↔ point ∈ points ∧ IsFinitePoint point := by
  constructor
  · rintro ⟨mark, member, shown⟩
    obtain ⟨rfl, -⟩ := mem_pathMarks.mp member
    cases shown with
    | vertex listed joined => exact ⟨listed, finitePoint_iff.mp (List.mem_filter.mp joined).2⟩
  · rintro ⟨listed, finite⟩
    have joined := List.mem_filter.mpr ⟨listed, finitePoint_iff.mpr finite⟩
    exact ⟨_, mem_pathMarks.mpr ⟨rfl, List.ne_nil_of_mem joined⟩, .vertex listed joined⟩

theorem draws_points_iff {points : List (Binary64 × Binary64)} :
    (Layer.points points).Draws bar point ↔ point ∈ points ∧ IsFinitePoint point := by
  constructor
  · rintro ⟨mark, member, shown⟩
    obtain ⟨own, kept, rfl⟩ := List.mem_map.mp member
    cases shown with
    | dot listed => exact ⟨listed, finitePoint_iff.mp (List.mem_filter.mp kept).2⟩
  · rintro ⟨listed, finite⟩
    have kept := List.mem_filter.mpr ⟨listed, finitePoint_iff.mpr finite⟩
    exact ⟨_, List.mem_map_of_mem kept, .dot listed⟩

theorem draws_bars_iff {points : List (Binary64 × Binary64)} :
    (bars points).Draws bar point ↔ point ∈ points ∧ point.2.isFinite = true := by
  constructor
  · rintro ⟨mark, member, shown⟩
    obtain ⟨own, kept, same⟩ := List.mem_map.mp member
    cases shown with
    | @bar _ x y color listed =>
      have height : own.2 = y := congrArg Prod.snd (Mark.box.inj same).2.1
      exact ⟨listed, height ▸ (List.mem_filter.mp kept).2⟩
  · rintro ⟨listed, finite⟩
    have kept := List.mem_filter (p := fun point => Scalar.isFinite point.2) |>.mpr ⟨listed, finite⟩
    exact ⟨_, List.mem_map_of_mem kept, .bar listed⟩

theorem draws_scatter_iff {s : Scatter Binary64} :
    (scatter s).Draws bar point ↔ ∃ z, (point.1, point.2, z) ∈ s.points ∧ z.isNaN = false := by
  constructor
  · rintro ⟨mark, member, shown⟩
    obtain ⟨⟨x, y, z⟩, listed, drawn⟩ := List.mem_filterMap.mp member
    obtain ⟨color, coloured, rfl⟩ := Option.map_eq_some_iff.mp drawn
    cases shown
    exact ⟨z, listed, (Colorbar.colorFor_isSome _ z).mp (Option.isSome_of_mem coloured)⟩
  · rintro ⟨z, listed, measured⟩
    obtain ⟨color, coloured⟩ := Option.isSome_iff_exists.mp
      ((Colorbar.colorFor_isSome (bar.getD (scatter s).ownColorbar) z).mpr measured)
    refine ⟨.dot point 5 color, List.mem_filterMap.mpr ⟨_, listed, ?_⟩, .coloured listed⟩
    exact Option.map_eq_some_iff.mpr ⟨color, coloured, rfl⟩

theorem accounts_marks (flat : layer.isMesh = false) (member : mark ∈ layer.marks bar) :
    layer.Accounts mark := by
  cases layer with
  | line points =>
    obtain ⟨rfl, -⟩ := mem_pathMarks.mp member
    exact fun point kept => .vertex (List.mem_filter.mp kept).1 kept
  | points points =>
    obtain ⟨point, kept, rfl⟩ := List.mem_map.mp member
    exact .dot (List.mem_filter.mp kept).1
  | bars points =>
    obtain ⟨point, kept, rfl⟩ := List.mem_map.mp member
    exact ⟨point, .bar (List.mem_filter.mp kept).1⟩
  | mesh m => cases flat
  | scatter s =>
    obtain ⟨⟨x, y, z⟩, listed, drawn⟩ := List.mem_filterMap.mp member
    obtain ⟨color, -, rfl⟩ := Option.map_eq_some_iff.mp drawn
    exact .coloured listed

def Placeable : Layer Binary64 → Prop
  | bars ps => ∀ point ∈ ps, point.2.isFinite = true → point.1.isFinite = true
  | scatter s => ∀ x y z, (x, y, z) ∈ s.points → z.isNaN = false →
      x.isFinite = true ∧ y.isFinite = true
  | _ => True

theorem drawn_finite_iff (layer : Layer Binary64) (bar : Option (Colorbar Binary64)) :
    (∀ point, layer.Draws bar point → IsFinitePoint point) ↔ layer.Placeable := by
  cases layer with
  | line points => exact iff_of_true (fun point drawn => (draws_line_iff.mp drawn).2) trivial
  | points points => exact iff_of_true (fun point drawn => (draws_points_iff.mp drawn).2) trivial
  | bars points =>
    simp only [draws_bars_iff, Placeable, IsFinitePoint, and_imp]
    exact forall₃_congr fun point listed finite => and_iff_left finite
  | mesh m =>
    refine iff_of_true ?_ trivial
    rintro point ⟨mark, -, shown⟩
    cases shown
  | scatter s =>
    simp only [draws_scatter_iff, Placeable, IsFinitePoint, Prod.forall, forall_exists_index, and_imp]

end Layer

namespace Canvas

-- The passes over the layers of a canvas. A picture of shapes leaves the rasterized layers to its image.
inductive Pass where
  | all
  | vector
  | raster

def passLayers (c : Canvas) : Pass → List (Layer Binary64 × Nat)
  | .all => c.layers.zipIdx
  | .vector => c.vectorLayers
  | .raster => c.rasterLayers

-- Everything that a pass makes for a point stands for one with a finite place.
def DrawsMeasured (c : Canvas) (pass : Pass) (bar : Option (Colorbar Binary64)) : Prop :=
  ∀ shown ∈ c.passLayers pass, ∀ mark ∈ shown.1.marks bar, ∀ point,
    shown.1.DrawnFor mark point → Layer.IsFinitePoint point

-- Lines and points never show what has no finite place. A pass does so with exactly the bars of finite
-- height and the points with a colour that have none.
theorem drawsMeasured_iff (c : Canvas) (pass : Pass) (bar : Option (Colorbar Binary64)) :
    (∀ shown ∈ c.passLayers pass, shown.1.isMesh = false → ∀ mark ∈ shown.1.marks bar,
      shown.1.Accounts mark) ∧
    (c.DrawsMeasured pass bar ↔ ∀ shown ∈ c.passLayers pass, shown.1.Placeable) := by
  refine ⟨fun shown _ flat mark member => Layer.accounts_marks flat member, ?_⟩
  refine forall₂_congr fun shown _ => ?_
  rw [← Layer.drawn_finite_iff shown.1 bar]
  constructor
  · rintro finite point ⟨mark, member, drawn⟩
    exact finite mark member point drawn
  · intro finite mark member point drawn
    exact finite point ⟨mark, member, drawn⟩

end Canvas

namespace Pixel
variable {range : Range Binary64} {first last : Int} {value : Binary64}

theorem share_unbounded (finite : range.low.isFinite = true) (unbounded : value.isFinite = false)
    (span : Binary64) :
    ((value - range.low) / span).isInfinite = true ∨ (value - range.low) / span = .nan := by
  cases broken : value.isNaN with
  | true =>
    right
    rw [Binary64.notANumber_sub broken, Binary64.notANumber_div (by decide)]
  | false =>
    have kind := (Binary64.kind_cases broken).resolve_left (by rw [unbounded]; nofun)
    exact Binary64.infinite_div (Binary64.infinite_sub kind finite) span

-- A value without a finite place is drawn at an end of its axis.
theorem ofValue_unbounded (apart : range.low.equals range.high = false)
    (finite : range.low.isFinite = true) (unbounded : value.isFinite = false)
    (small : wrap first = first) :
    ofValue range first last value = first ∨ ofValue range first last value = last := by
  unfold ofValue
  rw [if_neg (by rw [apart]; exact Bool.false_ne_true)]
  dsimp only
  split
  · exact .inr rfl
  · rcases share_unbounded finite unbounded (range.high - range.low) with endless | broken
    · rw [if_pos endless]
      split
      · exact .inl rfl
      · exact .inr rfl
    · have up : Binary64.nan.floor.toInt32 = 0 := by decide
      have down : Binary64.nan.ceil.toInt32 = 0 := by decide
      rw [broken, if_neg (by decide), Binary64.mul_nan, Binary64.nan_add, Binary64.nan_sub, up, down,
        Int.add_zero, small, ite_self]
      exact .inl rfl

end Pixel

-- In a plotting area with room for a pixel, a point without a first coordinate is put at its left or its
-- right border.
theorem Chart.pixelWithin_unbounded {chart : Chart} {point : Binary64 × Binary64}
    (apart : chart.x.low.equals chart.x.high = false) (finite : chart.x.low.isFinite = true)
    (unbounded : point.1.isFinite = false) (small : Pixel.wrap chart.area.left = chart.area.left)
    (visible : chart.area.left < chart.area.right) :
    (chart.pixelWithin point).1 = chart.area.left ∨
      (chart.pixelWithin point).1 = chart.area.right - 1 := by
  have ends : chart.pixelX point.1 = chart.area.left ∨ chart.pixelX point.1 = chart.area.right - 1 :=
    Pixel.ofValue_unbounded apart finite unbounded small
  change max (min (chart.pixelX point.1) chart.area.right) chart.area.left = _ ∨
    max (min (chart.pixelX point.1) chart.area.right) chart.area.left = _
  omega

namespace Canvas
variable {c : Canvas} {bar : Option (Colorbar Binary64)} {s : Scene}

-- A point with a colour and without a first setpoint is on the picture, at the side of the plotting area.
theorem scene_shows_stray {scatter : Scatter Binary64} {x y z : Binary64}
    (drawn : c.scene bar = .ok s) (listed : .scatter scatter ∈ c.layers)
    (vector : scatter.rasterized = false) (point : (x, y, z) ∈ scatter.points)
    (measured : z.isNaN = false) (unbounded : x.isFinite = false)
    (apart : c.dataRanges.1.low.equals c.dataRanges.1.high = false)
    (finite : c.dataRanges.1.low.isFinite = true)
    (small : Pixel.wrap (c.plotChart bar).area.left = (c.plotChart bar).area.left)
    (visible : (c.plotChart bar).area.left < (c.plotChart bar).area.right) :
    (∃ radius color, .disc ((c.plotChart bar).pixelWithin (x, y)) radius color ∈ s.front) ∧
      (((c.plotChart bar).pixelWithin (x, y)).1 = (c.plotChart bar).area.left ∨
        ((c.plotChart bar).pixelWithin (x, y)).1 = (c.plotChart bar).area.right - 1) := by
  refine ⟨?_, Chart.pixelWithin_unbounded apart finite unbounded small visible⟩
  have draws : (Layer.scatter scatter).Draws bar (x, y) :=
    Layer.draws_scatter_iff.mpr ⟨z, point, measured⟩
  obtain ⟨mark, member, shown⟩ := draws
  obtain ⟨⟨page, front⟩, -, -⟩ := scene_parts drawn
  obtain ⟨i, place⟩ := List.mem_iff_getElem?.mp listed
  have marked : mark ∈ marksOf c.vectorLayers bar :=
    List.mem_flatMap.mpr ⟨_, mem_vectorLayers.mpr ⟨place, vector⟩, member⟩
  have shape : (c.plotChart bar).shape mark ∈ s.front := by
    rw [front]
    exact List.mem_append_right _ (List.mem_map_of_mem marked)
  cases shown with
  | @coloured _ _ _ _ radius color => exact ⟨radius, color, shape⟩

def samples : Scatter Binary64 := ⟨[(0, 0, 1), (1, 1, 2), (.nan, 0.5, 3)], false⟩

def strayed : Canvas where
  layers := [.scatter samples]
  size := (300, 200)

theorem strayed_area : (strayed.plotChart none).area = ⟨80, 15, 290, 140⟩ := by
  change (Frame.divide (strayed.body.inset 5 5 5 5) 70 50 0).plot = _
  rw [Frame.divide_plot_of_room (by decide) (by decide) (by decide) (by decide +kernel)
    (by decide +kernel)]
  rfl

theorem strayed_chart : strayed.plotChart none =
    ⟨⟨80, 15, 290, 140⟩, strayed.dataRanges.1, strayed.dataRanges.2⟩ := by
  rw [← strayed_area]
  rfl

theorem strayed_drawn : ∃ s, strayed.scene none = .ok s := by
  refine scene_isOk rfl (rasterImage_isOk _ _ _ (by decide) ?_ ?_) (by decide +kernel)
    (by decide +kernel)
  · rw [strayed_area]
    decide
  · rw [strayed_area]
    decide

-- Both axes have finite ranges, and the point without a first setpoint is drawn at the left border, half
-- way up, where no sample was taken.
theorem scene_draws_unmeasured :
    (strayed.dataRanges.1.low.isFinite = true ∧ strayed.dataRanges.1.high.isFinite = true ∧
      strayed.dataRanges.2.low.isFinite = true ∧ strayed.dataRanges.2.high.isFinite = true) ∧
    ¬ strayed.DrawsMeasured .vector none ∧
    ∃ s, strayed.scene none = .ok s ∧ ∃ radius color, .disc (80, 77) radius color ∈ s.front := by
  have listed : .scatter samples ∈ strayed.layers := List.mem_singleton_self _
  have last : (Binary64.nan, 0.5, 3) ∈ samples.points := by simp [samples]
  refine ⟨by decide +kernel, fun measured => ?_, ?_⟩
  · have draws : (Layer.scatter samples).Draws none (.nan, 0.5) :=
      Layer.draws_scatter_iff.mpr ⟨3, last, by decide⟩
    obtain ⟨mark, member, shown⟩ := draws
    have place := measured (.scatter samples, 0) (mem_vectorLayers.mpr ⟨rfl, rfl⟩) mark member _ shown
    exact absurd place.1 (by decide)
  · obtain ⟨s, drawn⟩ := strayed_drawn
    obtain ⟨⟨radius, color, shown⟩, -⟩ := scene_shows_stray drawn listed rfl last (by decide)
      (by decide) (by decide +kernel) (by decide +kernel) (by rw [strayed_area]; decide)
      (by rw [strayed_area]; decide)
    have pixel : (strayed.plotChart none).pixelWithin (.nan, 0.5) = (80, 77) := by
      rw [strayed_chart]
      decide +kernel
    rw [pixel] at shown
    exact ⟨s, drawn, radius, color, shown⟩

end Canvas

end Labbook
