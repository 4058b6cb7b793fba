import Labbook.Proofs.Picture.Raster

namespace Labbook

namespace Canvas

def HasRaster (c : Canvas) (i : Nat) : Prop :=
  ∃ layer, c.layers[i]? = some layer ∧ layer.isRasterized = true

def HasVectorMarks (c : Canvas) (bar : Option (Colorbar Binary64)) (i : Nat) : Prop :=
  ∃ layer, c.layers[i]? = some layer ∧ layer.isRasterized = false ∧ layer.marks bar ≠ []

end Canvas

-- What a shape of a picture belongs to. All rasterized layers share one image.
inductive Part where
  | page
  | layer (index : Nat)
  | side
  | image

namespace Part

-- The parts in the order in which a picture has them. An image is under nothing.
def Under : Part → Part → Prop
  | page, _ => True
  | layer i, layer j => i ≤ j
  | layer _, side | layer _, image | side, side | side, image => True
  | _, _ => False

def Shows (c : Canvas) (i : Nat) : Part → Prop
  | layer j => j = i
  | image => c.HasRaster i
  | page | side => False

end Part

namespace Canvas

variable {c : Canvas} {bar : Option (Colorbar Binary64)} {page : List Shape} {s : Scene}

def plotChart (c : Canvas) (bar : Option (Colorbar Binary64)) : Chart :=
  c.chart (frame (c.areas bar.isSome).1).plot

def layerPieces (c : Canvas) (bar : Option (Colorbar Binary64)) : List (Part × Shape) :=
  c.vectorLayers.flatMap fun (layer, i) =>
    (layer.marks bar).map fun mark => (.layer i, (c.plotChart bar).shape mark)

-- The shapes of a picture with what they belong to. What stands on the page before the first layer is
-- left open.
def pieces (c : Canvas) (bar : Option (Colorbar Binary64)) (page : List Shape) (s : Scene) :
    List (Part × Shape) :=
  page.map (.page, ·) ++ (c.layerPieces bar ++
    ((s.bar.map BarScene.shapes |>.getD []).map (.side, ·) ++ s.image.toList.map (.image, ·)))

-- Some shape that shows layer `i` comes after some shape that shows layer `j`.
def PaintedOver (c : Canvas) (pieces : List (Part × Shape)) (i j : Nat) : Prop :=
  ∃ lower upper, [lower, upper].Sublist pieces ∧ lower.1.Shows c j ∧ upper.1.Shows c i

theorem layerPieces_shapes (c : Canvas) (bar : Option (Colorbar Binary64)) :
    (c.layerPieces bar).map Prod.snd =
      (marksOf c.vectorLayers bar).map (c.plotChart bar).shape := by
  simp [layerPieces, marksOf, List.map_flatMap, Function.comp_def]

theorem mem_vectorLayers {layer : Layer Binary64} {i : Nat} :
    (layer, i) ∈ c.vectorLayers ↔ c.layers[i]? = some layer ∧ layer.isRasterized = false := by
  simp [vectorLayers, List.mem_zipIdx_iff_getElem?]

theorem mem_layerPieces {piece : Part × Shape} (member : piece ∈ c.layerPieces bar) :
    ∃ i, piece.1 = .layer i ∧ c.HasVectorMarks bar i := by
  obtain ⟨⟨layer, i⟩, vector, drawn⟩ := List.mem_flatMap.mp member
  obtain ⟨mark, shown, rfl⟩ := List.mem_map.mp drawn
  obtain ⟨listed, plain⟩ := mem_vectorLayers.mp vector
  exact ⟨i, rfl, layer, listed, plain, List.ne_nil_of_mem shown⟩

theorem exists_layerPiece {i : Nat} (marked : c.HasVectorMarks bar i) :
    ∃ shape, (.layer i, shape) ∈ c.layerPieces bar := by
  obtain ⟨layer, listed, plain, nonempty⟩ := marked
  obtain ⟨mark, shown⟩ := List.exists_mem_of_ne_nil _ nonempty
  exact ⟨(c.plotChart bar).shape mark, List.mem_flatMap.mpr ⟨(layer, i),
    mem_vectorLayers.mpr ⟨listed, plain⟩, List.mem_map.mpr ⟨mark, shown, rfl⟩⟩⟩

theorem layerPieces_ordered (c : Canvas) (bar : Option (Colorbar Binary64)) :
    (c.layerPieces bar).Pairwise fun lower upper => lower.1.Under upper.1 := by
  have positions : (c.layers.zipIdx.map Prod.snd).Pairwise (· < ·) := by
    rw [List.zipIdx_map_snd]
    exact List.pairwise_lt_range'
  unfold layerPieces
  rw [List.pairwise_flatMap]
  refine ⟨?_, ((List.pairwise_map.mp positions).filter _).imp ?_⟩
  · intro (layer, i) _
    exact List.pairwise_map.mpr (List.pairwise_of_forall fun _ _ => Nat.le_refl i)
  · intro (before, i) (after, j) less lower first upper second
    obtain ⟨_, _, rfl⟩ := List.mem_map.mp first
    obtain ⟨_, _, rfl⟩ := List.mem_map.mp second
    exact Nat.le_of_lt less

theorem pieces_ordered (c : Canvas) (bar : Option (Colorbar Binary64)) (page : List Shape)
    (s : Scene) : (c.pieces bar page s).Pairwise fun lower upper => lower.1.Under upper.1 := by
  have image : (s.image.toList.map (Part.image, ·)).Pairwise
      fun lower upper => lower.1.Under upper.1 := by
    cases s.image with
    | none => exact .nil
    | some shape => exact List.pairwise_singleton ..
  unfold pieces
  refine List.pairwise_append.mpr ⟨?_, List.pairwise_append.mpr ⟨layerPieces_ordered c bar,
    List.pairwise_append.mpr ⟨?_, image, ?_⟩, ?_⟩, ?_⟩
  · exact List.pairwise_map.mpr (List.pairwise_of_forall fun _ _ => trivial)
  · exact List.pairwise_map.mpr (List.pairwise_of_forall fun _ _ => trivial)
  · intro lower side upper image
    obtain ⟨_, _, rfl⟩ := List.mem_map.mp side
    obtain ⟨_, _, rfl⟩ := List.mem_map.mp image
    trivial
  · intro lower layer upper later
    obtain ⟨i, shown, _⟩ := mem_layerPieces layer
    rw [shown]
    rcases List.mem_append.mp later with side | image
    · obtain ⟨_, _, rfl⟩ := List.mem_map.mp side
      trivial
    · obtain ⟨_, _, rfl⟩ := List.mem_map.mp image
      trivial
  · intro lower ground upper later
    obtain ⟨_, _, rfl⟩ := List.mem_map.mp ground
    trivial

theorem mem_pieces_layer {i : Nat} {shape : Shape}
    (member : (.layer i, shape) ∈ c.pieces bar page s) : c.HasVectorMarks bar i := by
  simp only [pieces, List.mem_append, List.mem_map, Prod.mk.injEq, reduceCtorEq, false_and,
    and_false, exists_false, false_or, or_false] at member
  obtain ⟨j, same, marked⟩ := mem_layerPieces member
  cases same
  exact marked

theorem raster_paintedOver {image : Shape} {i j : Nat} (embedded : s.image = some image)
    (raster : c.HasRaster i) (vector : c.HasVectorMarks bar j) :
    c.PaintedOver (c.pieces bar page s) i j := by
  obtain ⟨shape, drawn⟩ := exists_layerPiece vector
  refine ⟨(.layer j, shape), (.image, image), ?_, rfl, raster⟩
  have last : [(Part.image, image)].Sublist (s.image.toList.map (Part.image, ·)) := by
    rw [embedded]
    exact List.Sublist.refl _
  have rest := last.trans (List.sublist_append_right
    ((s.bar.map BarScene.shapes |>.getD []).map (Part.side, ·)) _)
  exact ((List.singleton_sublist.mpr drawn).append rest).trans (List.sublist_append_right _ _)

-- A layer comes out over a later one only as part of the image, and only over a layer that is not in
-- the image too.
theorem paintedOver_parts {i j : Nat} (before : i < j)
    (covers : c.PaintedOver (c.pieces bar page s) i j) :
    c.HasRaster i ∧ c.HasVectorMarks bar j := by
  obtain ⟨⟨lower, _⟩, ⟨upper, _⟩, placed, shown, covering⟩ := covers
  have order : lower.Under upper :=
    List.pairwise_iff_forall_sublist.mp (pieces_ordered c bar page s) placed
  have listed := placed.subset List.mem_cons_self
  cases lower with
  | page => exact shown.elim
  | side => exact shown.elim
  | image => cases upper <;> exact order.elim
  | layer k =>
    cases shown
    cases upper with
    | page => exact covering.elim
    | side => exact covering.elim
    | image => exact ⟨covering, mem_pieces_layer listed⟩
    | layer l =>
      cases covering
      exact absurd before (Nat.not_lt_of_le order)

theorem isRasterized_iff : c.isRasterized = true ↔ ∃ i, c.HasRaster i := by
  rw [isRasterized, List.any_eq_true]
  constructor
  · intro ⟨layer, listed, raster⟩
    obtain ⟨i, found⟩ := List.mem_iff_getElem?.mp listed
    exact ⟨i, layer, found, raster⟩
  · intro ⟨i, layer, found, raster⟩
    exact ⟨layer, List.mem_of_getElem? found, raster⟩

def embedded (c : Canvas) (bar : Option (Colorbar Binary64)) : Outcome (Option Shape) :=
  if c.isRasterized then some <$> c.rasterImage (c.plotChart bar) bar else pure none

def sideScene (c : Canvas) (bar : Option (Colorbar Binary64)) : Outcome (Option BarScene) :=
  match bar, (c.areas bar.isSome).2 with
  | some bar, some side => some <$> bar.scene side
  | _, _ => pure none

theorem scene_eq (shown : c.isEmpty = false) : c.scene bar = (do
    let image ← c.embedded bar
    let captions ← c.axisCaptions (frame (c.areas bar.isSome).1) (c.plotChart bar)
    let side ← c.sideScene bar
    return {
      size := c.size
      front := c.ground ++ captions.map .caption ++
        (marksOf c.vectorLayers bar).map (c.plotChart bar).shape
      bar := side
      image }) := by
  unfold scene embedded sideScene plotChart
  rw [shown]
  obtain ⟨main, side⟩ := c.areas bar.isSome
  cases bar <;> cases side <;> cases c.isRasterized <;> rfl

theorem ticks_isOk {range : Range Binary64} (measured : range.low.isNaN = false) (limit : Nat)
    (first last : Int) : ∃ ticks, Chart.ticks range limit first last = .ok ticks := by
  unfold Chart.ticks
  rw [if_neg (by simp [measured])]
  exact ⟨_, rfl⟩

-- Without a colorbar, a picture can only fail at its image and at axes that start nowhere.
theorem scene_isOk (shown : c.isEmpty = false)
    (image : (c.rasterImage (c.plotChart none) none).isOk = true)
    (left : c.dataRanges.1.low.isNaN = false) (bottom : c.dataRanges.2.low.isNaN = false) :
    ∃ s, c.scene none = .ok s := by
  obtain ⟨shape, painted⟩ := Outcome.exists_of_isOk image
  have embedded : ∃ image, c.embedded none = .ok image := by
    unfold embedded
    rw [painted]
    split
    · exact ⟨_, rfl⟩
    · exact ⟨_, rfl⟩
  obtain ⟨image, placed⟩ := embedded
  obtain ⟨ys, rows⟩ := ticks_isOk bottom (tickLimit c.yAxis) ((c.plotChart none).area.bottom - 1)
    (c.plotChart none).area.top
  obtain ⟨xs, columns⟩ := ticks_isOk left (tickLimit c.xAxis) (c.plotChart none).area.left
    ((c.plotChart none).area.right - 1)
  have captions : c.axisCaptions (frame c.body) (c.plotChart none) = .ok _ :=
    Outcome.bind_eq_ok.mpr ⟨ys, rows, Outcome.bind_eq_ok.mpr ⟨xs, columns, rfl⟩⟩
  rw [scene_eq shown, placed]
  exact ⟨_, Outcome.bind_eq_ok.mpr ⟨_, rfl, Outcome.bind_eq_ok.mpr ⟨_, captions, rfl⟩⟩⟩

theorem scene_parts (drawn : c.scene bar = .ok s) :
    (∃ page, s.front = page ++ (marksOf c.vectorLayers bar).map (c.plotChart bar).shape) ∧
      (∀ image, s.image = some image → c.rasterImage (c.plotChart bar) bar = .ok image) ∧
      s.image.isSome = c.isRasterized := by
  cases shown : c.isEmpty with
  | true =>
    have unmarked : marksOf c.vectorLayers bar = [] := by
      simp [vectorLayers, List.isEmpty_iff.mp shown, marksOf]
    unfold scene at drawn
    rw [shown] at drawn
    cases drawn
    rw [unmarked]
    refine ⟨⟨_, (List.append_nil _).symm⟩, ?_, ?_⟩
    · intro image absent
      cases absent
    · rw [isRasterized, List.isEmpty_iff.mp shown]
      rfl
  | false =>
    rw [scene_eq shown] at drawn
    obtain ⟨image, placed, drawn⟩ := Outcome.bind_eq_ok.mp drawn
    obtain ⟨captions, _, drawn⟩ := Outcome.bind_eq_ok.mp drawn
    obtain ⟨side, _, drawn⟩ := Outcome.bind_eq_ok.mp drawn
    cases drawn
    refine ⟨⟨_, rfl⟩, ?_⟩
    unfold embedded at placed
    split at placed
    · rename_i raster
      obtain ⟨shape, painted, rfl⟩ := Outcome.map_eq_ok.mp placed
      refine ⟨?_, raster.symm⟩
      intro image same
      cases same
      exact painted
    · rename_i plain
      cases placed
      refine ⟨?_, (Bool.eq_false_iff.mpr plain).symm⟩
      intro image absent
      cases absent

theorem pieces_shapes (page : List Shape)
    (front : s.front = page ++ (marksOf c.vectorLayers bar).map (c.plotChart bar).shape) :
    (c.pieces bar page s).map Prod.snd = s.shapes := by
  simp only [pieces, Scene.shapes, front, List.map_append, layerPieces_shapes, List.map_map,
    Function.comp_def, List.map_id', List.append_assoc]

-- The order of a picture: a layer is painted over a later one exactly when it is rasterized and the
-- later one draws shapes of its own.
theorem scene_paintedOver_iff (drawn : c.scene bar = .ok s) :
    ∃ page, (c.pieces bar page s).map Prod.snd = s.shapes ∧
      (∀ image, s.image = some image → c.rasterImage (c.plotChart bar) bar = .ok image) ∧
      ∀ i j, i < j → (c.PaintedOver (c.pieces bar page s) i j ↔
        c.HasRaster i ∧ c.HasVectorMarks bar j) := by
  obtain ⟨⟨page, front⟩, painted, present⟩ := scene_parts drawn
  refine ⟨page, pieces_shapes page front, painted, ?_⟩
  intro i j before
  constructor
  · exact paintedOver_parts before
  · intro ⟨raster, vector⟩
    rw [isRasterized_iff.mpr ⟨i, raster⟩] at present
    obtain ⟨image, embedded⟩ := Option.isSome_iff_exists.mp present
    exact raster_paintedOver embedded raster vector

def crossed : Canvas where
  xAxis := { categories := some ["a", "b"] }
  yAxis := { categories := some ["p", "q"] }
  layers := [.mesh ⟨[0, 1], [0, 1], ⟨2, 2, #[1, 2, 3, 4], rfl⟩, true⟩, .line [(0, 0), (1, 1)]]
  size := (300, 200)

theorem crossed_area : (crossed.plotChart none).area = ⟨80, 15, 290, 140⟩ := by
  change (Frame.divide (crossed.body.inset 5 5 5 5) 70 50 0).plot = _
  rw [Frame.divide_plot_of_room (by decide) (by decide) (by decide) (by decide +kernel)
    (by decide +kernel)]
  rfl

theorem crossed_drawn : ∃ s, crossed.scene none = .ok s := by
  refine scene_isOk rfl (rasterImage_isOk _ _ _ (by decide) ?_ ?_) (by decide +kernel)
    (by decide +kernel)
  · rw [crossed_area]
    decide
  · rw [crossed_area]
    decide

theorem crossed_raster : crossed.HasRaster 0 := ⟨_, rfl, rfl⟩

theorem crossed_line : crossed.HasVectorMarks none 1 := ⟨_, rfl, rfl, by decide +kernel⟩

theorem scene_paintedOver_crossed :
    ∃ s, crossed.scene none = .ok s ∧
      ∃ page, (crossed.pieces none page s).map Prod.snd = s.shapes ∧
        (∀ image, s.image = some image →
          crossed.rasterImage (crossed.plotChart none) none = .ok image) ∧
        ∀ i j, i < j → (crossed.PaintedOver (crossed.pieces none page s) i j ↔
          crossed.HasRaster i ∧ crossed.HasVectorMarks none j) := by
  obtain ⟨s, drawn⟩ := crossed_drawn
  exact ⟨s, drawn, scene_paintedOver_iff drawn⟩

-- The line was drawn after the cells and still lies under them.
theorem scene_hides_line :
    ∃ s, crossed.scene none = .ok s ∧
      ∀ page, (crossed.pieces none page s).map Prod.snd = s.shapes →
        crossed.PaintedOver (crossed.pieces none page s) 0 1 := by
  obtain ⟨s, drawn⟩ := crossed_drawn
  obtain ⟨_, _, present⟩ := scene_parts drawn
  rw [isRasterized_iff.mpr ⟨0, crossed_raster⟩] at present
  obtain ⟨image, embedded⟩ := Option.isSome_iff_exists.mp present
  exact ⟨s, drawn, fun page _ => raster_paintedOver embedded crossed_raster crossed_line⟩

end Canvas

end Labbook
