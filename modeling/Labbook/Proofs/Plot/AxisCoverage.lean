import Labbook.Proofs.Mesh.MeshAxes
import Labbook.Proofs.Plot.ExactRanges
import Labbook.Proofs.Plot.Replotting
import Labbook.Proofs.Run.OrdinaryRun

namespace Labbook

-- Without complex columns a group is plotted as it is.
theorem Dataset.part_of_ordinary {d : Dataset} {p : Parameter} {options : PlotOptions}
    {part : PlotGroup} (ordinary : d.Ordinary) (owned : Plot.GroupOf d options p part) :
    d.group p = .ok part := by
  obtain ⟨group, done, piece⟩ := owned
  obtain ⟨count, gap, -, each⟩ := group_samples ordinary done
  obtain ⟨measured, last, -⟩ := (group_shows done).2
  have alone : ∀ r ∈ group, Record.expanded options.conversion options.phase r = [r] := by
    intro r member
    rw [Record.expanded, (each r member).2.1]
    rfl
  have kept : group.dropLast.flatMap (Record.expanded options.conversion options.phase) =
      group.dropLast := by
    rw [List.flatMap_congr fun r member => alone r (List.dropLast_subset group member)]
    exact List.flatMap_singleton' _
  rw [splitGroup_real last (each measured (List.mem_of_getLast? last)).2.1, kept,
    List.mem_singleton] at piece
  rw [piece, List.dropLast_append_getLast? measured last]
  exact done

theorem Triple.drawn_cases {t : Triple} {layer : Layer Binary64} {options : ColorOptions}
    {settings : Settings} (done : t.drawn options settings = .ok layer) :
    (∃ m rasterized, t.meshData t.x.data.axisValues t.y.data.axisValues t.z.data.axisValues = .ok m ∧
      layer = .mesh ⟨m.x, m.y, m.z, rasterized⟩) ∨
    t.z.shape = none ∧ ∃ rasterized, layer = .scatter ⟨MeshData.points t.x.data.axisValues.values
      t.y.data.axisValues.values t.z.data.axisValues.values, rasterized⟩ := by
  unfold drawn Triple.layer at done
  split at done
  · obtain ⟨m, laid, built⟩ := Outcome.bind_eq_ok.mp done
    cases built
    exact .inl ⟨m, _, laid, rfl⟩
  next scattered =>
    cases done
    refine .inr ⟨?_, _, rfl⟩
    unfold plotType at scattered
    split at scattered
    · exact absurd rfl scattered
    next free => simpa using free

namespace Layer

-- Whether the centres of a mesh lie within its outer edges, and whether its axes run one way. Points
-- have neither edges nor an order.
def EndsReach : Layer Binary64 → Prop
  | mesh m => ∀ point ∈ (mesh m).places, (edgeRange (m.x.map Binary64.value)).Holds point.1.value ∧
      (edgeRange (m.y.map Binary64.value)).Holds point.2.value
  | _ => True

def InOrder : Layer Binary64 → Prop
  | mesh m => (m.x.Pairwise (· < ·) ∨ m.x.Pairwise (· > ·)) ∧
      (m.y.Pairwise (· < ·) ∨ m.y.Pairwise (· > ·))
  | _ => True

-- Every place of a layer is finite, or a point of a line that was not measured.
def Placed (layer : Layer Binary64) : Prop :=
  ∀ point ∈ layer.places, layer.isMesh = false ∧ point = (.nan, .nan) ∨
    point.1.isFinite = true ∧ point.2.isFinite = true

theorem values_ordered {axis : List Binary64}
    (ordered : axis.Pairwise (· < ·) ∨ axis.Pairwise (· > ·)) :
    (axis.map Binary64.value).Pairwise (· < ·) ∨ (axis.map Binary64.value).Pairwise (· > ·) := by
  rcases ordered with ascending | descending
  · exact .inl (List.pairwise_map.mpr (ascending.imp Binary64.value_lt))
  · exact .inr (List.pairwise_map.mpr (descending.imp Binary64.value_lt))

theorem endsReach_of_inOrder {layer : Layer Binary64} (ordered : layer.InOrder) :
    layer.EndsReach := by
  cases layer with
  | mesh m =>
    intro point shown
    obtain ⟨column, row⟩ := mem_places_mesh.mp shown
    exact ⟨edgeRange_holds (List.mem_map_of_mem column) (values_ordered ordered.1),
      edgeRange_holds (List.mem_map_of_mem row) (values_ordered ordered.2)⟩
  | _ => trivial

end Layer

namespace Canvas
variable {c : Canvas} {layer : Layer Binary64}

-- The axis ranges hold every point and every centre of a cell, apart from points that were not measured.
def Covers (c : Canvas) (layer : Layer Binary64) : Prop :=
  ∀ point ∈ layer.places, point = (.nan, .nan) ∨ c.Contains point

theorem covers_iff (numericX : c.xAxis.categories = none) (numericY : c.yAxis.categories = none)
    (alone : c.layers = [layer]) (placed : layer.Placed) : c.Covers layer ↔ layer.EndsReach := by
  cases shape : layer.isMesh with
  | false =>
    have reach : layer.EndsReach := by
      cases layer with
      | mesh m => cases shape
      | _ => trivial
    refine iff_of_true ?_ reach
    intro point shown
    rcases placed point shown with ⟨-, unmeasured⟩ | ⟨finiteX, finiteY⟩
    · exact .inl unmeasured
    · exact .inr (contains_place numericX numericY (alone ▸ List.mem_cons_self) shape shown finiteX
        finiteY)
  | true =>
    cases layer with
    | mesh m =>
      have finite : ∀ point ∈ (Layer.mesh m).places,
          point.1.isFinite = true ∧ point.2.isFinite = true :=
        fun point shown => (placed point shown).resolve_left fun unmeasured => nomatch unmeasured.1
      refine forall₂_congr fun point shown => ?_
      obtain ⟨finiteX, finiteY⟩ := finite point shown
      rw [contains_mesh_iff numericX numericY alone shown finiteX finiteY]
      refine or_iff_right fun unmeasured => ?_
      rw [unmeasured] at finiteX
      cases finiteX
    | _ => cases shape

end Canvas

namespace Plot
variable {title : String} {options : PlotOptions} {settings : Settings} {canvas : Canvas}
  {reused : Option (Colorbar Binary64)} {plot : Plot} {x y z : Record}

theorem ofGroup_series_layer (done : ofGroup title options settings [x, y] canvas reused = .ok plot) :
    ∃ layer, Canvas.seriesLayer (PlotType.of1D x.data y.data)
        (x.data.axisValues.values.zip y.data.axisValues.values) = .ok layer ∧
      plot.canvas = overlaid title options settings canvas x y layer := by
  obtain ⟨⟨type, drawn⟩, series, built⟩ := Outcome.bind_eq_ok.mp done
  obtain ⟨layer, made, pushed⟩ := Outcome.bind_eq_ok.mp series
  cases pushed
  cases built
  rw [withCategories_eq]
  exact ⟨layer, made, rfl⟩

theorem ofGroup_colors_layer
    (done : ofGroup title options settings [x, y, z] canvas reused = .ok plot) :
    ∃ layer, Triple.drawn ⟨x, y, z⟩ options.colors settings = .ok layer ∧
      plot.canvas = overlaid title options settings canvas x y layer := by
  obtain ⟨layer, shown, -⟩ := Triple.drawn_ok ⟨x, y, z⟩ options.colors settings
  rw [ofGroup_colors_eq shown] at done
  obtain ⟨start, -, done⟩ := Outcome.bind_eq_ok.mp done
  obtain ⟨scale, -, built⟩ := Outcome.bind_eq_ok.mp done
  cases built
  exact ⟨layer, shown, rfl⟩

theorem seriesLayer_places {type : PlotType} {points : List (Binary64 × Binary64)}
    {layer : Layer Binary64} (done : Canvas.seriesLayer type points = .ok layer) :
    layer.isMesh = false ∧ ∀ point ∈ layer.places, point ∈ points := by
  cases type with
  | line1D =>
    cases done
    exact ⟨rfl, fun point member => List.mem_mergeSort.mp member⟩
  | point1D | bar1D =>
    cases done
    exact ⟨rfl, fun point member => member⟩
  | grid2D | equidistant2D | point2D | unknown2D => cases done

structure Single (canvas : Canvas) (layer : Layer Binary64) : Prop where
  layers : canvas.layers = [layer]
  numericX : canvas.xAxis.categories = none
  numericY : canvas.yAxis.categories = none

theorem overlaid_single {size : Nat × Nat} {layer : Layer Binary64}
    (numericX : x.data.axisValues.categories = none)
    (numericY : y.data.axisValues.categories = none) :
    Single (overlaid title options settings (Canvas.blank size) x y layer) layer := by
  refine ⟨rfl, ?_, ?_⟩
  · exact (Axis.plotted_categories ..).trans (by rw [numericX]; rfl)
  · exact (Axis.plotted_categories ..).trans (by rw [numericY]; rfl)

theorem mesh_placed {count gap : Nat} {xs ys : AxisValues} {m : MeshData} {rasterized : Bool}
    (sampledX : Sampled count gap xs) (sampledY : Sampled count gap ys)
    (axes : m.AxesFrom xs.values ys.values) : (Layer.mesh ⟨m.x, m.y, m.z, rasterized⟩).Placed := by
  intro (x, y) shown
  obtain ⟨column, row⟩ := Layer.mem_places_mesh.mp shown
  obtain ⟨ownX, measuredX⟩ := axes.x x column
  obtain ⟨ownY, measuredY⟩ := axes.y y row
  exact .inr ⟨sampledX.finite ownX measuredX, sampledY.finite ownY measuredY⟩

theorem scatter_placed {count : Nat} {xs ys : AxisValues} {zs : List Binary64} {rasterized : Bool}
    (sampledX : Sampled count 0 xs) (sampledY : Sampled count 0 ys) :
    (Layer.scatter ⟨MeshData.points xs.values ys.values zs, rasterized⟩).Placed := by
  intro point shown
  obtain ⟨⟨x, y, z⟩, listed, rfl⟩ := List.mem_map.mp shown
  obtain ⟨inX, rest⟩ := List.of_mem_zip listed
  exact .inr ⟨sampledX.full inX, sampledY.full (List.of_mem_zip rest).1⟩

-- What a plot of an ordinary run shows: nothing, or one layer on numeric axes.
theorem PlotOf.single {d : Dataset} {p : Parameter} (ordinary : d.Ordinary)
    (drawn : PlotOf d options settings p plot) : plot.canvas.layers = [] ∨
      ∃ layer, Single plot.canvas layer ∧ layer.Placed ∧
        (d.shapes.find? p.name = none → layer.InOrder) := by
  obtain ⟨part, owned, done⟩ := drawn
  obtain ⟨count, gap, full, samples⟩ :=
    Dataset.group_samples ordinary (Dataset.part_of_ordinary ordinary owned)
  cases ofGroup_drawn done with
  | @series x y _ plain =>
    obtain ⟨layer, made, shown⟩ := ofGroup_series_layer done
    obtain ⟨-, -, sampledX⟩ := samples x (by simp)
    obtain ⟨-, -, sampledY⟩ := samples y (by simp)
    obtain ⟨noMesh, places⟩ := seriesLayer_places made
    rw [shown]
    refine .inr ⟨layer, overlaid_single sampledX.categories sampledY.categories, ?_, ?_⟩
    · intro point member
      exact (sampledX.zip sampledY (places point member)).imp_left fun unmeasured =>
        ⟨noMesh, unmeasured⟩
    · intro _
      cases layer with
      | mesh m => cases noMesh
      | _ => trivial
  | @colors x y z _ bar coloured labels =>
    obtain ⟨layer, made, shown⟩ := ofGroup_colors_layer done
    obtain ⟨-, -, sampledX⟩ := samples x (by simp)
    obtain ⟨-, -, sampledY⟩ := samples y (by simp)
    obtain ⟨shape, -, -⟩ := samples z (by simp)
    rw [shown]
    refine .inr ⟨layer, overlaid_single sampledX.categories sampledY.categories, ?_⟩
    rcases Triple.drawn_cases made with ⟨m, rasterized, laid, rfl⟩ | ⟨free, rasterized, rfl⟩
    · refine ⟨mesh_placed sampledX sampledY (Triple.meshData_axes laid), ?_⟩
      intro free
      obtain ⟨columns, rows⟩ := Triple.meshData_ascending (shape.trans free) laid
      exact ⟨.inl columns, .inl rows⟩
    · rw [full (shape.symm.trans free)] at sampledX sampledY
      exact ⟨scatter_placed sampledX sampledY, fun _ => trivial⟩
  | skipped one two => exact .inl rfl

-- New canvases cover a layer exactly when its outer edges reach around it. Points always are covered, a
-- mesh is when its setpoints come in order, and they do unless a grid was declared.
theorem ofDataset_covers_iff (d : Dataset) (options : PlotOptions) (settings : Settings)
    (plots : List Plot) (ordinary : d.Ordinary)
    (done : ofDataset d none none options settings = .ok plots) :
    List.Forall₂ (fun p plot => ∀ layer ∈ plot.canvas.layers,
      (plot.canvas.Covers layer ↔ layer.EndsReach) ∧
        (layer.InOrder → plot.canvas.Covers layer) ∧
        (d.shapes.find? p.name = none → plot.canvas.Covers layer)) (owners d options) plots := by
  obtain ⟨groups, selected, each⟩ := ofDataset_new.mp done
  refine (forall₂_through (owners_groups selected) each).imp fun p plot drawn layer listed => ?_
  rcases PlotOf.single ordinary drawn with empty | ⟨only, single, placed, ordered⟩
  · rw [empty] at listed
    cases listed
  · have same : layer = only := by
      rw [single.layers] at listed
      exact List.mem_singleton.mp listed
    subst same
    have reach := Canvas.covers_iff single.numericX single.numericY single.layers placed
    exact ⟨reach, fun inOrder => reach.mpr (Layer.endsReach_of_inOrder inOrder),
      fun free => reach.mpr (Layer.endsReach_of_inOrder (ordered free))⟩

def setpoints : Layer Binary64 → Option (List Binary64 × List Binary64)
  | .mesh m => some (m.x, m.y)
  | _ => none

theorem lone_mesh {d : Dataset} {xs ys : List Binary64} {plots : List Plot}
    (done : ofDataset d none none options settings = .ok plots)
    (shown : (ofDataset d none none options settings).map
      (·.map fun plot => plot.canvas.layers.map setpoints) = .ok [[some (xs, ys)]]) :
    ∃ plot m, plots = [plot] ∧ plot.canvas.layers = [.mesh m] ∧ m.x = xs ∧ m.y = ys := by
  rw [done] at shown
  obtain ⟨plot, rfl, layers⟩ := List.map_eq_singleton_iff.mp (Except.ok.inj shown)
  obtain ⟨layer, alone, axes⟩ := List.map_eq_singleton_iff.mp layers
  cases layer with
  | mesh m =>
    cases axes
    exact ⟨plot, m, rfl, alone, rfl, rfl⟩
  | _ => cases axes

def fallingRun : Dataset where
  parameters := [{ name := "field" }, { name := "gate" },
    { name := "signal", dependsOn := ["field", "gate"] }]
  columns := [("field", .numeric (.ofList [1, 1, 0, 0])), ("gate", .numeric (.ofList [0, 1, 0, 1])),
    ("signal", .numeric (.ofList [1, 2, 3, 4]))]
  shapes := [("signal", [2, 2])]

theorem ofDataset_covers_falling : fallingRun.Ordinary ∧
    ∃ plot m, ofDataset fallingRun none none {} {} = .ok [plot] ∧
      plot.canvas.layers = [.mesh m] ∧ m.x = [1, 0] ∧ plot.canvas.Covers (.mesh m) := by
  have ordinary : fallingRun.Ordinary := by decide +kernel
  obtain ⟨plots, done⟩ : ∃ plots, ofDataset fallingRun none none {} {} = .ok plots :=
    Outcome.exists_of_isOk (by decide +kernel)
  obtain ⟨plot, m, rfl, alone, columns, rows⟩ :=
    @lone_mesh {} {} fallingRun [1, 0] [0, 1] plots done rfl
  have covers := ofDataset_covers_iff fallingRun {} {} [plot] ordinary done
  have one : owners fallingRun {} = [{ name := "signal", dependsOn := ["field", "gate"] }] := rfl
  rw [one, List.forall₂_cons] at covers
  obtain ⟨-, inOrder, -⟩ := covers.1 (.mesh m) (alone ▸ List.mem_cons_self)
  have falls : m.x.Pairwise (· > ·) := by
    rw [columns]
    decide +kernel
  have rises : m.y.Pairwise (· < ·) := by
    rw [rows]
    decide +kernel
  exact ⟨ordinary, plot, m, done, alone, columns, inOrder ⟨.inr falls, .inl rises⟩⟩

def loopRun : Dataset where
  parameters := [{ name := "field" }, { name := "gate" },
    { name := "signal", dependsOn := ["field", "gate"] }]
  columns := [("field", .numeric (.ofList [0, 0, 1, 1, 0, 0])),
    ("gate", .numeric (.ofList [0, 1, 0, 1, 0, 1])),
    ("signal", .numeric (.ofList [1, 2, 3, 4, 5, 6]))]
  shapes := [("signal", [3, 2])]

theorem ofDataset_leaves_cells : loopRun.Ordinary ∧
    ∃ plot m, ofDataset loopRun none none {} {} = .ok [plot] ∧ plot.canvas.layers = [.mesh m] ∧
      ¬plot.canvas.Covers (.mesh m) := by
  have ordinary : loopRun.Ordinary := by decide +kernel
  obtain ⟨plots, done⟩ : ∃ plots, ofDataset loopRun none none {} {} = .ok plots :=
    Outcome.exists_of_isOk (by decide +kernel)
  obtain ⟨plot, m, rfl, alone, columns, rows⟩ :=
    @lone_mesh {} {} loopRun [0, 1, 0] [0, 1] plots done rfl
  refine ⟨ordinary, plot, m, done, alone, ?_⟩
  obtain ⟨groups, selected, each⟩ := ofDataset_new.mp done
  cases forall₂_through (owners_groups selected) each with
  | cons drawn rest =>
    rcases PlotOf.single ordinary drawn with empty | ⟨only, single, placed, -⟩
    · rw [empty] at alone
      cases alone
    · have same := single.layers
      rw [alone] at same
      cases same
      rw [Canvas.covers_iff single.numericX single.numericY alone placed]
      intro reach
      have centre : ((1, 0) : Binary64 × Binary64) ∈ (Layer.mesh m).places := by
        rw [Layer.mem_places_mesh, columns, rows]
        decide +kernel
      have inside := (reach (1, 0) centre).1
      rw [columns] at inside
      revert inside
      decide +kernel

end Plot

end Labbook
