import Labbook.Proofs.Plot.CanvasReuse
import Labbook.Proofs.Plot.Failures

namespace Labbook

namespace Colorbar

theorem map_snd_mapIdx {α : Type} (position : Nat → α) (labels : List String) :
    (labels.mapIdx fun i label => (position i, label)).map Prod.snd = labels := by
  apply List.ext_getElem?
  intro i
  simp [Function.comp_def]

def tickLabels (bar : Colorbar Binary64) : Option (List String) :=
  bar.ticks.map fun ticks => ticks.map Prod.snd

theorem fresh_ticks {reused : Option (Colorbar Binary64)} {colormap : Option String}
    {settings : Settings} {bar : Colorbar Binary64} (done : fresh reused colormap settings = .ok bar) :
    bar.ticks = none := by
  obtain ⟨map, _, built⟩ := Outcome.bind_eq_ok.mp done
  cases built
  rfl

theorem autoscale_ticks (bar : Colorbar Binary64) (values : List Binary64) :
    (bar.autoscale values).ticks = bar.ticks := by
  unfold autoscale
  split <;> rfl

theorem categorical_tickLabels (bar : Colorbar Binary64) (labels : List String) :
    (bar.categorical labels).tickLabels = some labels :=
  congrArg some (map_snd_mapIdx _ labels)

theorem withSettings_ticks {bar scaled : Colorbar Binary64} {enabled : Option Bool}
    {values : List Binary64} {cutoff : Option (Spread.Cutoff Binary64)} {settings : Settings}
    (done : bar.withSettings enabled values cutoff settings = .ok scaled) :
    scaled.ticks = bar.ticks := by
  unfold withSettings at done
  dsimp only at done
  split at done
  · cases done
    rfl
  · obtain ⟨above, _, done⟩ := Outcome.bind_eq_ok.mp done
    obtain ⟨below, _, built⟩ := Outcome.bind_eq_ok.mp done
    cases built
    unfold withAutoLimits
    split <;> rfl

end Colorbar

namespace Canvas

theorem plotSeries_ok {canvas drawn : Canvas} {x y : Record} {type : PlotType}
    (done : canvas.plotSeries x y = .ok (type, drawn)) :
    ∃ layer, layer.usesColorbar = false ∧
      drawn = (canvas.withCategories x.data.axisValues.categories
        y.data.axisValues.categories).push layer := by
  obtain ⟨layer, made, built⟩ := Outcome.bind_eq_ok.mp done
  obtain ⟨other, remade, plain⟩ := seriesLayer_of1D x.data y.data
    (x.data.axisValues.values.zip y.data.axisValues.values)
  rw [made] at remade
  cases remade
  cases built
  exact ⟨layer, plain, rfl⟩

-- The colorbar names the categories of the measured variable, if it has any.
theorem plotColors_ok {canvas drawn : Canvas} {t : Triple} {reused : Option (Colorbar Binary64)}
    {options : ColorOptions} {settings : Settings} {type : PlotType} {bar : Colorbar Binary64}
    (done : canvas.plotColors t reused options settings = .ok (type, drawn, bar)) :
    bar.tickLabels = t.z.data.axisValues.categories ∧
      ∃ layer, layer.usesColorbar = true ∧
        drawn = (canvas.withCategories t.x.data.axisValues.categories
          t.y.data.axisValues.categories).push layer := by
  obtain ⟨layer, made, done⟩ := Outcome.bind_eq_ok.mp done
  obtain ⟨fresh, clean, built⟩ := Outcome.bind_eq_ok.mp done
  obtain ⟨other, remade, coloured⟩ := t.layer_ok
    (t.plotType t.x.data.axisValues t.y.data.axisValues) options.rasterized settings.rasterizeThreshold
  rw [made] at remade
  cases remade
  cases built
  refine ⟨?_, layer, coloured, rfl⟩
  split
  next labels categories => rw [Colorbar.categorical_tickLabels, categories]
  next numeric =>
    rw [numeric, Colorbar.tickLabels, Colorbar.autoscale_ticks, Colorbar.fresh_ticks clean]
    rfl

end Canvas

namespace Plot
variable {title : String} {options : PlotOptions} {settings : Settings} {canvas : Canvas}
  {group : PlotGroup} {plot : Plot}

def overlaid (title : String) (options : PlotOptions) (settings : Settings) (canvas : Canvas)
    (x y : Record) (layer : Layer Binary64) : Canvas where
  title := title
  xAxis := canvas.xAxis.plotted options settings x
  yAxis := canvas.yAxis.plotted options settings y
  layers := canvas.layers ++ [layer]
  size := canvas.size

-- All that plotting a group can come to.
inductive Drawn (title : String) (options : PlotOptions) (settings : Settings) (canvas : Canvas) :
    PlotGroup → Plot → Prop where
  | series {x y : Record} {layer : Layer Binary64} (plain : layer.usesColorbar = false) :
      Drawn title options settings canvas [x, y]
        ⟨overlaid title options settings canvas x y layer, none⟩
  | colors {x y z : Record} {layer : Layer Binary64} {bar : Colorbar Binary64}
      (coloured : layer.usesColorbar = true)
      (labels : bar.tickLabels = z.data.axisValues.categories) :
      Drawn title options settings canvas [x, y, z]
        ⟨overlaid title options settings canvas x y layer, some bar⟩
  | skipped {group : PlotGroup} (one : group.length ≠ 2) (two : group.length ≠ 3) :
      Drawn title options settings canvas group ⟨canvas, none⟩

theorem ofGroup_drawn {reused : Option (Colorbar Binary64)}
    (done : ofGroup title options settings group canvas reused = .ok plot) :
    Drawn title options settings canvas group plot := by
  unfold ofGroup at done
  split at done
  next x y =>
    obtain ⟨⟨type, drawn⟩, series, built⟩ := Outcome.bind_eq_ok.mp done
    obtain ⟨layer, plain, rfl⟩ := Canvas.plotSeries_ok series
    cases built
    rw [withCategories_eq]
    exact .series plain
  next x y z =>
    obtain ⟨⟨type, drawn, bar⟩, colors, finished⟩ := Outcome.bind_eq_ok.mp done
    obtain ⟨labels, layer, coloured, rfl⟩ := Canvas.plotColors_ok colors
    dsimp only at finished
    split at finished
    · obtain ⟨same, kept, built⟩ := Outcome.bind_eq_ok.mp finished
      cases kept
      cases built
      rw [withCategories_eq]
      exact .colors coloured labels
    · obtain ⟨scaled, limits, built⟩ := Outcome.bind_eq_ok.mp finished
      have ticks := Colorbar.withSettings_ticks limits
      cases built
      rw [withCategories_eq]
      refine .colors coloured ?_
      rw [Colorbar.tickLabels, ticks]
      exact labels
  next noSeries noColors =>
    cases done
    refine .skipped ?_ ?_
    · intro two
      obtain ⟨x, y, rfl⟩ := List.length_eq_two.mp two
      exact noSeries x y rfl
    · intro three
      obtain ⟨x, y, z, rfl⟩ := List.length_eq_three.mp three
      exact noColors x y z rfl

end Plot

end Labbook
