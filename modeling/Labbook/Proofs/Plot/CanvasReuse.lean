import Labbook.Plot.OfDataset
import Labbook.Proofs.Outcome

namespace Labbook

namespace Axis

-- The axis after a record was plotted on it. The label is always that of the record. The factor is
-- its own only when a numeric record is rescaled, and the categories are its own only for text: the
-- axis keeps what it had of both otherwise.
def plotted (options : PlotOptions) (settings : Settings) (record : Record) (axis : Axis) : Axis :=
  Plot.labelAxis options settings record
    { axis with categories := record.data.axisValues.categories.or axis.categories }

def AlikeFor (options : PlotOptions) (record : Record) (a b : Axis) : Prop :=
  (record.data.isText = false → a.categories = b.categories) ∧
    (options.rescaleAxes = false ∨ record.data.isText = true → a.factor = b.factor)

theorem categories_isSome (data : RecordData) : data.axisValues.categories.isSome = data.isText := by
  cases data <;> rfl

theorem plotted_categories (options : PlotOptions) (settings : Settings) (record : Record)
    (axis : Axis) : (axis.plotted options settings record).categories =
      record.data.axisValues.categories.or axis.categories := by
  unfold plotted Plot.labelAxis Plot.rescaleAxis
  split
  · split <;> rfl
  · rfl

theorem plotted_label (options : PlotOptions) (settings : Settings) (record : Record)
    (a b : Axis) : (a.plotted options settings record).label =
      (b.plotted options settings record).label := by
  unfold plotted Plot.labelAxis Plot.rescaleAxis
  split
  · split <;> rfl
  · rfl

theorem plotted_factor (options : PlotOptions) (settings : Settings) (record : Record) (axis : Axis) :
    (axis.plotted options settings record).factor =
      if options.rescaleAxes = false ∨ record.data.isText = true then axis.factor
      else (record.rescaled settings).factor := by
  unfold plotted Plot.labelAxis Plot.rescaleAxis
  cases options.rescaleAxes <;> cases record.data.isText <;> rfl

theorem eq_iff (a b : Axis) :
    a = b ↔ a.label = b.label ∧ a.categories = b.categories ∧ a.factor = b.factor := by
  cases a
  cases b
  simp only [mk.injEq]
  constructor
  · rintro ⟨label, factor, categories⟩
    exact ⟨label, categories, factor⟩
  · rintro ⟨label, categories, factor⟩
    exact ⟨label, factor, categories⟩

-- Two axes come out equal exactly when they agreed on what the record leaves alone.
theorem plotted_eq_iff (options : PlotOptions) (settings : Settings) (record : Record) (a b : Axis) :
    a.plotted options settings record = b.plotted options settings record ↔
      AlikeFor options record a b := by
  rw [eq_iff, plotted_categories, plotted_categories, plotted_factor, plotted_factor]
  have sameLabel := plotted_label options settings record a b
  have own := categories_isSome record.data
  unfold AlikeFor
  constructor
  · rintro ⟨_, categories, factor⟩
    refine ⟨?_, ?_⟩
    · intro numeric
      rw [numeric, Option.isSome_eq_false_iff, Option.isNone_iff_eq_none] at own
      rw [own, Option.none_or, Option.none_or] at categories
      exact categories
    · intro kept
      rw [if_pos kept, if_pos kept] at factor
      exact factor
  · rintro ⟨categories, factor⟩
    refine ⟨sameLabel, ?_, ?_⟩
    · cases shown : record.data.axisValues.categories with
      | some texts => rfl
      | none =>
        rw [shown] at own
        rw [Option.none_or, Option.none_or]
        exact categories own.symm
    · split
      next kept => exact factor kept
      next => rfl

end Axis

namespace Plot
variable {title : String} {options : PlotOptions} {settings : Settings} {d : Dataset}

theorem withCategories_eq (canvas : Canvas) (x y : Option (List String)) :
    canvas.withCategories x y =
      { canvas with
        xAxis := { canvas.xAxis with categories := x.or canvas.xAxis.categories }
        yAxis := { canvas.yAxis with categories := y.or canvas.yAxis.categories } } := by
  cases x <;> cases y <;> rfl

theorem ofGroup_canvas {x y : Record} {rest : List Record} {canvas : Canvas}
    {reused : Option (Colorbar Binary64)} {plot : Plot} (flat : rest.length ≤ 1)
    (done : ofGroup title options settings (x :: y :: rest) canvas reused = .ok plot) :
    ∃ layer, plot.canvas =
      { title
        xAxis := canvas.xAxis.plotted options settings x
        yAxis := canvas.yAxis.plotted options settings y
        layers := canvas.layers ++ [layer]
        size := canvas.size } := by
  match rest with
  | [] =>
    obtain ⟨⟨_, drawn⟩, series, built⟩ := Outcome.bind_eq_ok.mp done
    obtain ⟨layer, _, pushed⟩ := Outcome.bind_eq_ok.mp series
    cases pushed
    cases built
    exact ⟨layer, by rw [withCategories_eq]; rfl⟩
  | [z] =>
    obtain ⟨⟨_, drawn, bar⟩, colors, finished⟩ := Outcome.bind_eq_ok.mp done
    obtain ⟨layer, _, barred⟩ := Outcome.bind_eq_ok.mp colors
    obtain ⟨_, _, pushed⟩ := Outcome.bind_eq_ok.mp barred
    cases pushed
    -- Text is not scaled; either way the colorbar is all that is still to come.
    dsimp only at finished
    refine ⟨layer, ?_⟩
    split at finished
    all_goals
      obtain ⟨_, _, built⟩ := Outcome.bind_eq_ok.mp finished
      cases built
      rw [withCategories_eq]
      rfl
  | _ :: _ :: _ => simp at flat

theorem prepareCanvases_supplied {supplied canvases : List Canvas} {plots : Nat}
    (done : prepareCanvases (some supplied) plots options settings = .ok canvases) :
    canvases = supplied ∧ supplied.length = plots := by
  unfold prepareCanvases at done
  dsimp only at done
  split at done
  · cases done
  · split at done
    next length =>
      cases done
      exact ⟨rfl, length⟩
    next => split at done <;> cases done

theorem prepareColorbars_length {supplied : Option (List (Option (Colorbar Binary64)))} {n : Nat}
    {colorbars : List (Option (Colorbar Binary64))}
    (done : prepareColorbars supplied n = .ok colorbars) : colorbars.length = n := by
  unfold prepareColorbars at done
  split at done
  · split at done
    next length =>
      cases done
      exact length
    next => cases done
  · cases done
    exact List.length_replicate

theorem ofDataset_ok {supplied : Option (List Canvas)}
    {bars : Option (List (Option (Colorbar Binary64)))} {plots : List Plot}
    (done : ofDataset d supplied bars options settings = .ok plots) :
    ∃ groups canvases colorbars, selectedGroups d options = .ok groups ∧
      prepareCanvases supplied groups.length options settings = .ok canvases ∧
      prepareColorbars bars canvases.length = .ok colorbars ∧
      drawAll (wrappedTitle d.title) options settings groups canvases colorbars = .ok plots ∧
      plots.length = canvases.length := by
  obtain ⟨groups, selected, done⟩ := Outcome.bind_eq_ok.mp done
  obtain ⟨canvases, targets, done⟩ := Outcome.bind_eq_ok.mp done
  obtain ⟨colorbars, scales, done⟩ := Outcome.bind_eq_ok.mp done
  obtain ⟨drawn, all, done⟩ := Outcome.bind_eq_ok.mp done
  split at done
  · cases done
  next paired =>
    cases done
    exact ⟨groups, canvases, colorbars, selected, targets, scales, all, Decidable.not_not.mp paired⟩

theorem drawAll_get {groups : List PlotGroup} {canvases : List Canvas}
    {colorbars : List (Option (Colorbar Binary64))} {plots : List Plot} {i : Nat} {group : PlotGroup}
    {canvas : Canvas} {plot : Plot}
    (all : drawAll title options settings groups canvases colorbars = .ok plots)
    (grouped : groups[i]? = some group) (target : canvases[i]? = some canvas)
    (scaled : colorbars.length = canvases.length) (drawn : plots[i]? = some plot) :
    ∃ reused, ofGroup title options settings group canvas reused = .ok plot := by
  have pointwise := Outcome.mapM_eq_ok.mp all
  have inside : i < colorbars.length := by
    rw [scaled]
    exact (List.getElem?_eq_some_iff.mp target).1
  have zipped : (groups.zip (canvases.zip colorbars))[i]? = some (group, canvas, colorbars[i]) := by
    rw [List.getElem?_zip_eq_some, List.getElem?_zip_eq_some]
    exact ⟨grouped, target, List.getElem?_eq_getElem inside⟩
  obtain ⟨within, taken⟩ := List.getElem?_eq_some_iff.mp zipped
  obtain ⟨made, result⟩ := List.getElem?_eq_some_iff.mp drawn
  have step := pointwise.get within made
  rw [List.get_eq_getElem, List.get_eq_getElem, taken, result] at step
  exact ⟨colorbars[i], step⟩

-- Every group in the plane has its plot, drawn over the canvas handed in at its place.
theorem ofDataset_canvas {supplied : List Canvas}
    {bars : Option (List (Option (Colorbar Binary64)))} {plots : List Plot}
    (done : ofDataset d (some supplied) bars options settings = .ok plots) :
    ∃ groups, selectedGroups d options = .ok groups ∧
      ∀ (i : Nat) (x y : Record) (rest : List Record), groups[i]? = some (x :: y :: rest) →
        rest.length ≤ 1 →
        ∃ (canvas : Canvas) (plot : Plot) (layer : Layer Binary64),
          supplied[i]? = some canvas ∧ plots[i]? = some plot ∧ plot.canvas =
          { title := wrappedTitle d.title
            xAxis := canvas.xAxis.plotted options settings x
            yAxis := canvas.yAxis.plotted options settings y
            layers := canvas.layers ++ [layer]
            size := canvas.size } := by
  obtain ⟨groups, canvases, colorbars, selected, targets, scales, all, paired⟩ := ofDataset_ok done
  obtain ⟨rfl, length⟩ := prepareCanvases_supplied targets
  refine ⟨groups, selected, ?_⟩
  intro i x y rest grouped flat
  have inside : i < canvases.length := by
    rw [length]
    exact (List.getElem?_eq_some_iff.mp grouped).1
  have target := List.getElem?_eq_getElem inside
  have drawn := List.getElem?_eq_getElem (paired.symm ▸ inside)
  obtain ⟨reused, step⟩ := drawAll_get all grouped target (prepareColorbars_length scales) drawn
  obtain ⟨layer, canvas⟩ := ofGroup_canvas flat step
  exact ⟨_, _, layer, target, drawn, canvas⟩

-- Two runs on canvases with different histories: titles always agree, an axis exactly when the two
-- canvases agreed on the parts that its record does not overwrite.
theorem ofDataset_axes_eq_iff (d : Dataset) (first second : List Canvas)
    (bars : Option (List (Option (Colorbar Binary64)))) (options : PlotOptions) (settings : Settings)
    {before after : List Plot}
    (once : ofDataset d (some first) bars options settings = .ok before)
    (again : ofDataset d (some second) bars options settings = .ok after) :
    ∃ groups, selectedGroups d options = .ok groups ∧
      ∀ (i : Nat) (x y : Record) (rest : List Record), groups[i]? = some (x :: y :: rest) →
        rest.length ≤ 1 →
        ∃ (a b : Canvas) (p q : Plot), first[i]? = some a ∧ second[i]? = some b ∧
          before[i]? = some p ∧ after[i]? = some q ∧
          p.canvas.title = q.canvas.title ∧
          (p.canvas.xAxis = q.canvas.xAxis ↔ Axis.AlikeFor options x a.xAxis b.xAxis) ∧
          (p.canvas.yAxis = q.canvas.yAxis ↔ Axis.AlikeFor options y a.yAxis b.yAxis) := by
  obtain ⟨groups, selected, shown⟩ := ofDataset_canvas once
  obtain ⟨others, reselected, reshown⟩ := ofDataset_canvas again
  have same : others = groups := by
    rw [selected] at reselected
    exact (Except.ok.inj reselected).symm
  subst same
  refine ⟨others, selected, ?_⟩
  intro i x y rest grouped flat
  obtain ⟨a, p, _, oldA, newP, canvasP⟩ := shown i x y rest grouped flat
  obtain ⟨b, q, _, oldB, newQ, canvasQ⟩ := reshown i x y rest grouped flat
  refine ⟨a, b, p, q, oldA, oldB, newP, newQ, ?_⟩
  rw [canvasP, canvasQ]
  exact ⟨rfl, Axis.plotted_eq_iff .., Axis.plotted_eq_iff ..⟩

-- One sample of each parameter, plotted without rescaling on a canvas whose ticks were rescaled before.
def gateRun : Dataset where
  parameters := [{ name := "gate" }, { name := "signal", dependsOn := ["gate"] }]
  columns := [("gate", .numeric (.ofList [1])), ("signal", .numeric (.ofList [2]))]

def rescaledCanvas : Canvas := { Canvas.blank (400, 300) with xAxis := { factor := 1000 } }

theorem ofDataset_axes_gate :
    ∃ before after : List Plot,
      ofDataset gateRun (some [.blank (400, 300)]) none { rescaleAxes := false } {} = .ok before ∧
      ofDataset gateRun (some [rescaledCanvas]) none { rescaleAxes := false } {} = .ok after ∧
      ∃ p q, before[0]? = some p ∧ after[0]? = some q ∧ p.canvas.title = q.canvas.title ∧
        p.canvas.xAxis ≠ q.canvas.xAxis ∧ p.canvas.yAxis = q.canvas.yAxis := by
  refine ⟨_, _, rfl, rfl, ?_⟩
  obtain ⟨groups, selected, shown⟩ := ofDataset_axes_eq_iff gateRun [.blank (400, 300)]
    [rescaledCanvas] none { rescaleAxes := false } {} rfl rfl
  have group : groups[0]? =
      some [⟨"gate", "", "", .numeric (.ofList [1]), none⟩,
        ⟨"signal", "", "", .numeric (.ofList [2]), none⟩] := by
    cases selected
    rfl
  obtain ⟨a, b, p, q, oldA, oldB, newP, newQ, titles, xAxes, yAxes⟩ := shown 0 _ _ [] group (by decide)
  cases oldA
  cases oldB
  refine ⟨p, q, newP, newQ, titles, ?_, yAxes.mpr ⟨fun _ => rfl, fun _ => rfl⟩⟩
  intro same
  have factors : (1 : Binary64) = 1000 := (xAxes.mp same).2 (.inl rfl)
  revert factors
  decide +kernel

-- The canvases differ in nothing but a factor on the ticks, and so do the plots.
theorem ofDataset_keeps_factor :
    [Canvas.blank (400, 300)].map (·.size) = [rescaledCanvas].map (·.size) ∧
      ∃ before after : List Plot,
        ofDataset gateRun (some [.blank (400, 300)]) none { rescaleAxes := false } {} = .ok before ∧
        ofDataset gateRun (some [rescaledCanvas]) none { rescaleAxes := false } {} = .ok after ∧
        (selectedGroups gateRun { rescaleAxes := false }).map (·.map (·.length)) = .ok [2] ∧
        before.map (·.canvas.xAxis) ≠ after.map (·.canvas.xAxis) := by
  refine ⟨rfl, _, _, rfl, rfl, rfl, ?_⟩
  intro same
  have factors : [(1 : Binary64)] = [1000] := congrArg (List.map Axis.factor) same
  revert factors
  decide +kernel

end Plot

end Labbook
