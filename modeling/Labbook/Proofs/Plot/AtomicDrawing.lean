import Labbook.Proofs.Plot.ColorbarReuse

namespace Labbook

-- All colormaps there are: those with a name, and the same ones in bands.
inductive Colormap.Made : Colormap → Prop where
  | named {name : String} {map : Colormap} (found : ofName name = .ok map) : Made map
  | banded {map : Colormap} (made : Made map) (levels : Nat) : Made (map.resampled levels)

theorem Colormap.Made.named_again {map : Colormap} (made : map.Made) :
    ∃ plain, ofName map.name = .ok plain := by
  induction made with
  | named found => exact ⟨_, ofName_again found⟩
  | banded made levels ih => exact ih

theorem Colormap.ofName_error {name : String} {e : PlotError} (failed : ofName name = .error e) :
    e = .unknownColormap name := by
  unfold ofName at failed
  dsimp only at failed
  split at failed
  · cases failed
  · cases failed
    rfl

namespace Colorbar
variable {reused : Option (Colorbar Binary64)} {colormap : Option String} {settings : Settings}

-- Whether a name is looked up that the caller wrote: in the call, else in the settings unless there is a
-- colorbar at hand.
def Asks (reused : Option (Colorbar Binary64)) (colormap : Option String) (settings : Settings)
    (name : String) : Prop :=
  colormap = some name ∨ colormap = none ∧ reused = none ∧ settings.defaultColormap = name

theorem fresh_fails {e : PlotError} (made : ∀ bar ∈ reused, bar.colormap.Made)
    (failed : fresh reused colormap settings = .error e) :
    ∃ name, Asks reused colormap settings name ∧ Colormap.ofName name = .error e := by
  cases reused with
  | none =>
    rw [fresh_new, Outcome.map_eq_error] at failed
    cases colormap with
    | none => exact ⟨_, .inr ⟨rfl, rfl, rfl⟩, failed⟩
    | some name => exact ⟨name, .inl rfl, failed⟩
  | some bar =>
    rw [fresh_reused, Outcome.map_eq_error] at failed
    cases colormap with
    | none =>
      obtain ⟨plain, found⟩ := (made bar rfl).named_again
      rw [Option.getD_none, found] at failed
      cases failed
    | some name => exact ⟨name, .inl rfl, failed⟩

theorem fresh_made {bar : Colorbar Binary64} (done : fresh reused colormap settings = .ok bar) :
    bar.colormap.Made := by
  obtain ⟨map, found, built⟩ := Outcome.bind_eq_ok.mp done
  cases built
  exact .named found

theorem fitted_made {bar : Colorbar Binary64} (made : bar.colormap.Made) (values : List Binary64)
    (labels : Option (List String)) : (bar.fitted values labels).colormap.Made := by
  have scaled : (bar.autoscale values).colormap = bar.colormap := by
    unfold autoscale
    split <;> rfl
  rw [← scaled] at made
  cases labels with
  | none => exact made
  | some labels => exact .banded made labels.length

end Colorbar

-- A change of a canvas. What is done before it fails stays done.
abbrev CanvasChange (α : Type) := ExceptT PlotError (StateM Canvas) α

namespace CanvasChange

def nameX (categories : Option (List String)) : CanvasChange Unit := do
  if let some texts := categories then
    modify fun c => { c with xAxis := { c.xAxis with categories := some texts } }

def nameY (categories : Option (List String)) : CanvasChange Unit := do
  if let some texts := categories then
    modify fun c => { c with yAxis := { c.yAxis with categories := some texts } }

def addLayer (layer : Layer Binary64) : CanvasChange Unit := modify (·.push layer)

def drawSeries (x y : Record) : CanvasChange PlotType := do
  let type := PlotType.of1D x.data y.data
  let xs := x.data.axisValues
  let ys := y.data.axisValues
  let layer ← Canvas.seriesLayer type (xs.values.zip ys.values)
  nameX xs.categories
  nameY ys.categories
  addLayer layer
  return type

def drawColors (t : Triple) (reused : Option (Colorbar Binary64)) (options : ColorOptions)
    (settings : Settings) : CanvasChange (PlotType × Colorbar Binary64) := do
  let xs := t.x.data.axisValues
  let ys := t.y.data.axisValues
  let zs := t.z.data.axisValues
  let type := t.plotType xs ys
  let layer ← t.layer type xs ys zs options.rasterized settings.rasterizeThreshold
  let start ← Colorbar.fresh reused options.colormap settings
  let bar := start.fitted layer.colorValues zs.categories
  nameX xs.categories
  nameY ys.categories
  addLayer layer
  return (type, bar)

-- The canvas behind a result: the drawn one, or the one from before where there is none.
def settled {α β : Type} (canvas : Canvas) (split : β → α × Canvas) :
    Outcome β → Outcome α × Canvas
  | .ok b => (.ok (split b).1, (split b).2)
  | .error e => (.error e, canvas)

theorem finish_run {α : Type} (canvas : Canvas) (x y : Option (List String)) (layer : Layer Binary64)
    (result : α) :
    (do nameX x; nameY y; addLayer layer; return result : CanvasChange α).run.run canvas =
      (.ok result, (canvas.withCategories x y).push layer) := by
  cases x <;> cases y <;> rfl

theorem drawSeries_run (canvas : Canvas) (x y : Record) :
    (drawSeries x y).run.run canvas = settled canvas id (canvas.plotSeries x y) := by
  unfold drawSeries Canvas.plotSeries
  dsimp only
  cases Canvas.seriesLayer (PlotType.of1D x.data y.data)
    (x.data.axisValues.values.zip y.data.axisValues.values) with
  | error e => rfl
  | ok layer => exact finish_run ..

theorem drawColors_run (canvas : Canvas) (t : Triple) (reused : Option (Colorbar Binary64))
    (options : ColorOptions) (settings : Settings) :
    (drawColors t reused options settings).run.run canvas =
      settled canvas (fun (type, drawn, bar) => ((type, bar), drawn))
        (canvas.plotColors t reused options settings) := by
  obtain ⟨layer, drawn, -⟩ := t.drawn_ok options settings
  rw [Canvas.plotColors_eq drawn]
  unfold Triple.drawn at drawn
  unfold drawColors
  dsimp only
  rw [drawn]
  cases Colorbar.fresh reused options.colormap settings with
  | error e => rfl
  | ok start => exact finish_run ..

end CanvasChange

structure Axis.DrawnAlong (axis : Axis) (record : Record) (drawn : Axis) : Prop where
  label : drawn.label = axis.label
  factor : drawn.factor = axis.factor
  categories : record.data.isText = false → drawn.categories = axis.categories

theorem Axis.drawnAlong_categories (axis : Axis) (record : Record) : axis.DrawnAlong record
    { axis with categories := record.data.axisValues.categories.or axis.categories } where
  label := rfl
  factor := rfl
  categories := by
    intro numeric
    have own := categories_isSome record.data
    rw [numeric, Option.isSome_eq_false_iff, Option.isNone_iff_eq_none] at own
    rw [own, Option.none_or]

namespace Canvas

structure DrawnOver (canvas : Canvas) (x y : Record) (drawn : Canvas) : Prop where
  layers : ∃ layer, drawn.layers = canvas.layers ++ [layer]
  title : drawn.title = canvas.title
  size : drawn.size = canvas.size
  xAxis : canvas.xAxis.DrawnAlong x drawn.xAxis
  yAxis : canvas.yAxis.DrawnAlong y drawn.yAxis

theorem drawnOver_push (canvas : Canvas) (x y : Record) (layer : Layer Binary64) :
    canvas.DrawnOver x y ((canvas.withCategories x.data.axisValues.categories
      y.data.axisValues.categories).push layer) := by
  rw [Plot.withCategories_eq]
  exact {
    layers := ⟨layer, rfl⟩
    title := rfl
    size := rfl
    xAxis := canvas.xAxis.drawnAlong_categories x
    yAxis := canvas.yAxis.drawnAlong_categories y }

theorem plotSeries_succeeds (canvas : Canvas) (x y : Record) :
    ∃ type drawn, canvas.plotSeries x y = .ok (type, drawn) ∧ canvas.DrawnOver x y drawn := by
  obtain ⟨layer, made, -⟩ := seriesLayer_of1D x.data y.data
    (x.data.axisValues.values.zip y.data.axisValues.values)
  refine ⟨PlotType.of1D x.data y.data, _, ?_, canvas.drawnOver_push x y layer⟩
  unfold plotSeries
  dsimp only
  rw [made]
  rfl

variable {reused : Option (Colorbar Binary64)} {options : ColorOptions} {settings : Settings}

theorem plotColors_succeeds_or (canvas : Canvas) (t : Triple)
    (made : ∀ bar ∈ reused, bar.colormap.Made) :
    (∃ name, Colorbar.Asks reused options.colormap settings name ∧
      Colormap.ofName name = .error (.unknownColormap name) ∧
      canvas.plotColors t reused options settings = .error (.unknownColormap name)) ∨
    ∃ type drawn bar, canvas.plotColors t reused options settings = .ok (type, drawn, bar) ∧
      canvas.DrawnOver t.x t.y drawn ∧ bar.colormap.Made := by
  obtain ⟨layer, shown, -⟩ := t.drawn_ok options settings
  have result : canvas.plotColors t reused options settings = _ := plotColors_eq shown reused
  cases start : Colorbar.fresh reused options.colormap settings with
  | error e =>
    obtain ⟨name, asked, unknown⟩ := Colorbar.fresh_fails made start
    obtain rfl := Colormap.ofName_error unknown
    rw [start] at result
    exact .inl ⟨name, asked, unknown, result⟩
  | ok bar =>
    rw [start] at result
    exact .inr ⟨_, _, _, result, canvas.drawnOver_push t.x t.y layer,
      Colorbar.fitted_made (Colorbar.fresh_made start) _ _⟩

-- A drawing either adds one layer or, where the colormap that it asks for is unknown, changes nothing. Its
-- colorbar can be handed on to the next one.
theorem drawing_atomic (canvas : Canvas) (x y : Record) (t : Triple)
    (reused : Option (Colorbar Binary64)) (options : ColorOptions) (settings : Settings)
    (made : ∀ bar ∈ reused, bar.colormap.Made) :
    (∃ type drawn, (CanvasChange.drawSeries x y).run.run canvas = (.ok type, drawn) ∧
      canvas.DrawnOver x y drawn) ∧
    ((∃ name, Colorbar.Asks reused options.colormap settings name ∧
        Colormap.ofName name = .error (.unknownColormap name) ∧
        (PlotError.unknownColormap name).kind = .invalidArgument ∧
        (CanvasChange.drawColors t reused options settings).run.run canvas =
          (.error (.unknownColormap name), canvas)) ∨
      ∃ type bar drawn, (CanvasChange.drawColors t reused options settings).run.run canvas =
          (.ok (type, bar), drawn) ∧ canvas.DrawnOver t.x t.y drawn ∧ bar.colormap.Made) := by
  refine ⟨?_, ?_⟩
  · obtain ⟨type, drawn, done, layered⟩ := canvas.plotSeries_succeeds x y
    refine ⟨type, drawn, ?_, layered⟩
    rw [CanvasChange.drawSeries_run, done]
    rfl
  · rw [CanvasChange.drawColors_run]
    rcases canvas.plotColors_succeeds_or t made with
      ⟨name, asked, unknown, failed⟩ | ⟨type, drawn, bar, done, layered, kept⟩
    · left
      refine ⟨name, asked, unknown, rfl, ?_⟩
      rw [failed]
      rfl
    · right
      refine ⟨type, bar, drawn, ?_, layered, kept⟩
      rw [done]
      rfl

-- With the colorbar of another drawing and no colormap of its own a drawing cannot fail.
theorem drawing_atomic_viridis : (∀ bar ∈ some (viridisBar 3 7), bar.colormap.Made) ∧
    ∃ type bar drawn, (CanvasChange.drawColors (sample 5) (some (viridisBar 3 7)) {} {}).run.run
        (blank (400, 300)) = (.ok (type, bar), drawn) ∧
      (blank (400, 300)).DrawnOver (sample 5).x (sample 5).y drawn ∧ bar.colormap.Made := by
  have made : ∀ bar ∈ some (viridisBar 3 7), bar.colormap.Made := by
    intro bar same
    cases same
    exact @Colormap.Made.named "viridis" _ rfl
  obtain ⟨-, failed | drawn⟩ := drawing_atomic (blank (400, 300)) (sample 5).x (sample 5).z (sample 5)
    (some (viridisBar 3 7)) {} {} made
  · obtain ⟨name, asked | ⟨-, alone, -⟩, -⟩ := failed
    · cases asked
    · cases alone
  · exact ⟨made, drawn⟩

end Canvas

end Labbook
