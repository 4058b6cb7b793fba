import Labbook.Proofs.Plot.ColorbarReuse
import Labbook.Proofs.Plot.Filtering

namespace Labbook

theorem Axis.plotted_again (options : PlotOptions) (settings : Settings) (record : Record)
    (axis : Axis) : (axis.plotted options settings record).plotted options settings record =
      axis.plotted options settings record := by
  rw [plotted_eq_iff, AlikeFor, plotted_categories, plotted_factor]
  refine ⟨?_, ?_⟩
  · intro numeric
    have own := categories_isSome record.data
    rw [numeric, Option.isSome_eq_false_iff, Option.isNone_iff_eq_none] at own
    rw [own, Option.none_or]
  · intro kept
    rw [if_pos kept]

namespace Colorbar

-- What happens to a colorbar behind its start: it keeps the name of its colormap, and its limits are
-- either set or left alone.
structure Settling (step : Colorbar Binary64 → Colorbar Binary64) : Prop where
  name : ∀ bar, (step bar).colormap.name = bar.colormap.name
  limits : SetsLimits step ∨ LeavesLimits step

variable {first second step : Colorbar Binary64 → Colorbar Binary64}

theorem Settling.before (one : Settling first) (two : Settling second) :
    Settling (second ∘ first) := by
  refine ⟨fun bar => (two.name (first bar)).trans (one.name bar), ?_⟩
  rcases one.limits with sets | leaves
  · exact .inl sets.before
  · rcases two.limits with later | kept
    · exact .inl (leaves.before_sets later)
    · exact .inr (leaves.before_leaves kept)

-- From the limits that it came to, a step comes to them again.
theorem Settling.again (settling : Settling step) (bar : Colorbar Binary64) :
    step (bar.between (step bar).vmin (step bar).vmax) = step bar := by
  rcases settling.limits with sets | leaves
  · exact sets bar _ _
  · exact leaves bar _ _

theorem settling_id : Settling id := ⟨fun _ => rfl, .inr fun _ _ _ => rfl⟩

theorem settling_label (label : Axis → Axis) :
    Settling fun bar => { bar with axis := label bar.axis } :=
  ⟨fun _ => rfl, .inr fun _ _ _ => rfl⟩

theorem settling_autoscale (values : List Binary64) : Settling (·.autoscale values) := by
  refine ⟨?_, ?_⟩
  · intro bar
    unfold autoscale
    split <;> rfl
  · by_cases finite : HasFinite values
    · exact .inl (autoscale_sets finite)
    · right
      intro bar low high
      simp only [autoscale_unmeasured finite]

theorem settling_fitted (values : List Binary64) (labels : Option (List String)) :
    Settling (fitted values labels) := by
  cases labels with
  | none => exact settling_autoscale values
  | some labels =>
    have scale : Settling (·.categorical labels) := ⟨fun _ => rfl, .inl (categorical_sets labels)⟩
    exact (settling_autoscale values).before scale

theorem settling_withAutoLimits (values : List Binary64) (cutoff : Spread.Cutoff Binary64)
    (above below : Rgb) : Settling (·.withAutoLimits values cutoff above below) := by
  dsimp only [withAutoLimits]
  cases Spread.limits values cutoff with
  | none => exact settling_id
  | some limits => exact ⟨fun _ => rfl, .inl fun _ _ _ => rfl⟩

-- Whether limits are set automatically, and to what, does not depend on the colorbar.
theorem withSettings_settles {bar scaled : Colorbar Binary64} {enabled : Option Bool}
    {values : List Binary64} {cutoff : Option (Spread.Cutoff Binary64)} {settings : Settings}
    (done : bar.withSettings enabled values cutoff settings = .ok scaled) :
    ∃ step, Settling step ∧ ∀ other : Colorbar Binary64,
      other.withSettings enabled values cutoff settings = .ok (step other) := by
  unfold withSettings at done ⊢
  dsimp only at done ⊢
  split at done
  next off => exact ⟨id, settling_id, fun other => by rw [if_pos off]; rfl⟩
  next on =>
    obtain ⟨above, readAbove, done⟩ := Outcome.bind_eq_ok.mp done
    obtain ⟨below, readBelow, -⟩ := Outcome.bind_eq_ok.mp done
    have settling := settling_withAutoLimits values (cutoff.getD settings.autoColorScale.cutoff) above
      below
    refine ⟨_, settling, fun other => ?_⟩
    rw [if_neg on, readAbove, readBelow]
    rfl

-- A colormap is taken up again by its name, unless the call names one itself.
theorem fresh_again {colormap : Option String} {settings : Settings} {bar later : Colorbar Binary64}
    (start : fresh none colormap settings = .ok bar)
    (same : later.colormap.name = bar.colormap.name) :
    fresh (some later) colormap settings = .ok (bar.between later.vmin later.vmax) := by
  rw [fresh_new] at start
  rw [fresh_reused, same]
  cases found : Colormap.ofName (colormap.getD settings.defaultColormap) with
  | error e =>
    rw [found] at start
    cases start
  | ok map =>
    rw [found] at start
    cases start
    have again : Colormap.ofName (colormap.getD map.name) = .ok map := by
      cases colormap with
      | none => exact Colormap.ofName_again found
      | some name => exact found
    dsimp only [plain]
    rw [again]
    rfl

end Colorbar

namespace Canvas
variable {canvas : Canvas} {x y : Record}

theorem plotSeries_eq {type : PlotType} {drawn : Canvas}
    (done : canvas.plotSeries x y = .ok (type, drawn)) :
    ∃ layer, ∀ other : Canvas, other.plotSeries x y =
      .ok (type, (other.withCategories x.data.axisValues.categories
        y.data.axisValues.categories).push layer) := by
  obtain ⟨layer, made, built⟩ := Outcome.bind_eq_ok.mp done
  cases built
  refine ⟨layer, fun other => ?_⟩
  unfold plotSeries
  dsimp only
  rw [made]
  rfl

end Canvas

namespace Plot
variable {title : String} {options : PlotOptions} {settings : Settings} {canvas : Canvas}
  {reused : Option (Colorbar Binary64)} {plot : Plot} {x y z : Record}

theorem ofGroup_series (done : ofGroup title options settings [x, y] canvas reused = .ok plot) :
    ∃ layer, ∀ other bar, ofGroup title options settings [x, y] other bar =
      .ok ⟨overlaid title options settings other x y layer, none⟩ := by
  obtain ⟨⟨type, drawn⟩, series, -⟩ := Outcome.bind_eq_ok.mp done
  obtain ⟨layer, always⟩ := Canvas.plotSeries_eq series
  refine ⟨layer, fun other bar => ?_⟩
  unfold ofGroup
  dsimp only
  rw [always other, withCategories_eq]
  rfl

def labelled (options : PlotOptions) (settings : Settings) (z : Record) (values : List Binary64)
    (bar : Colorbar Binary64) : Outcome (Colorbar Binary64) :=
  let bar := { bar with axis := labelAxis options settings z bar.axis }
  if z.data.isText then .ok bar
  else bar.withSettings options.autoColorScale values options.cutoff settings

theorem labelled_settles {values : List Binary64} {bar scaled : Colorbar Binary64}
    (done : labelled options settings z values bar = .ok scaled) :
    ∃ step, Colorbar.Settling step ∧
      ∀ other, labelled options settings z values other = .ok (step other) := by
  have label := Colorbar.settling_label (labelAxis options settings z)
  unfold labelled at done ⊢
  dsimp only at done ⊢
  split at done
  next text => exact ⟨_, label, fun other => if_pos text⟩
  next numeric =>
    obtain ⟨step, settling, always⟩ := Colorbar.withSettings_settles done
    refine ⟨_, label.before settling, fun other => ?_⟩
    rw [if_neg numeric, always]
    rfl

theorem ofGroup_colors_eq {layer : Layer Binary64}
    (shown : Triple.drawn ⟨x, y, z⟩ options.colors settings = .ok layer) (other : Canvas)
    (bar : Option (Colorbar Binary64)) :
    ofGroup title options settings [x, y, z] other bar = do
      let start ← Colorbar.fresh bar options.colors.colormap settings
      let scale ← labelled options settings z layer.colorValues
        (start.fitted layer.colorValues z.data.axisValues.categories)
      return ⟨overlaid title options settings other x y layer, some scale⟩ := by
  unfold ofGroup
  dsimp only
  rw [Canvas.plotColors_eq shown]
  cases Colorbar.fresh bar options.colors.colormap settings with
  | error e => rfl
  | ok start =>
    simp only [Except.map, bind, Except.bind, withCategories_eq, Canvas.push, List.getLast?_concat]
    unfold labelled
    dsimp only
    split <;> rfl

-- A group with two setpoints: one layer over whatever canvas there is, and one way for its colorbar.
theorem ofGroup_colors (done : ofGroup title options settings [x, y, z] canvas reused = .ok plot) :
    ∃ layer step, Colorbar.Settling step ∧ ∀ other bar,
      ofGroup title options settings [x, y, z] other bar =
        (Colorbar.fresh bar options.colors.colormap settings).map fun start =>
          ⟨overlaid title options settings other x y layer, some (step start)⟩ := by
  obtain ⟨layer, shown, -⟩ := Triple.drawn_ok ⟨x, y, z⟩ options.colors settings
  rw [ofGroup_colors_eq shown] at done
  obtain ⟨start, -, done⟩ := Outcome.bind_eq_ok.mp done
  obtain ⟨scale, scaled, -⟩ := Outcome.bind_eq_ok.mp done
  obtain ⟨step, settling, always⟩ := labelled_settles scaled
  refine ⟨layer, _, (Colorbar.settling_fitted layer.colorValues z.data.axisValues.categories).before
    settling, fun other bar => ?_⟩
  rw [ofGroup_colors_eq shown]
  cases Colorbar.fresh bar options.colors.colormap settings with
  | error e => rfl
  | ok start =>
    simp only [bind, Except.bind, always]
    rfl

def doubled (plot : Plot) : Plot :=
  { plot with canvas := { plot.canvas with layers := plot.canvas.layers ++ plot.canvas.layers } }

theorem overlaid_again (title : String) (options : PlotOptions) (settings : Settings)
    (size : Nat × Nat) (x y : Record) (layer : Layer Binary64) :
    overlaid title options settings
        (overlaid title options settings (Canvas.blank size) x y layer) x y layer =
      { overlaid title options settings (Canvas.blank size) x y layer with
        layers := [layer] ++ [layer] } := by
  simp [overlaid, Canvas.blank, Axis.plotted_again]

theorem ofGroup_again {size : Nat × Nat} {group : PlotGroup}
    (done : ofGroup title options settings group (Canvas.blank size) none = .ok plot) :
    ofGroup title options settings group plot.canvas plot.colorbar = .ok plot.doubled := by
  cases ofGroup_drawn done with
  | series plain =>
    obtain ⟨layer, always⟩ := ofGroup_series done
    rw [always] at done ⊢
    cases done
    rw [overlaid_again]
    rfl
  | colors coloured labels =>
    obtain ⟨layer, step, settling, always⟩ := ofGroup_colors done
    rw [always] at done ⊢
    cases start : Colorbar.fresh none options.colors.colormap settings with
    | error e =>
      rw [start] at done
      cases done
    | ok bar =>
      rw [start] at done
      cases done
      rw [Colorbar.fresh_again start (settling.name bar)]
      simp only [Except.map, settling.again, overlaid_again]
      rfl
  | skipped one two => exact done

theorem drawAll_over {groups : List PlotGroup} {plots : List Plot} {after : Plot → Plot}
    (each : List.Forall₂ (fun group plot =>
      ofGroup title options settings group plot.canvas plot.colorbar = .ok (after plot)) groups plots) :
    drawAll title options settings groups (plots.map (·.canvas)) (plots.map (·.colorbar)) =
      .ok (plots.map after) := by
  unfold drawAll
  apply Outcome.mapM_eq_ok.mpr
  induction each with
  | nil => exact .nil
  | cons first rest ih => exact .cons first ih

theorem ofDataset_over {d : Dataset} {groups : List PlotGroup} {plots : List Plot}
    {after : Plot → Plot} (free : options.canvasSize = none)
    (selected : selectedGroups d options = .ok groups)
    (each : List.Forall₂ (fun group plot =>
      ofGroup (wrappedTitle d.title) options settings group plot.canvas plot.colorbar =
        .ok (after plot)) groups plots) :
    ofDataset d (some (plots.map (·.canvas))) (some (plots.map (·.colorbar))) options settings =
      .ok (plots.map after) := by
  have count : (plots.map (·.canvas)).length = groups.length := by
    rw [List.length_map]
    exact each.length_eq.symm
  have targets : prepareCanvases (some (plots.map (·.canvas))) groups.length options settings =
      .ok (plots.map (·.canvas)) := by
    simp only [prepareCanvases, free, count, ↓reduceIte]
  have scales : prepareColorbars (some (plots.map (·.colorbar))) (plots.map (·.canvas)).length =
      .ok (plots.map (·.colorbar)) := by
    simp only [prepareColorbars, List.length_map, ↓reduceIte]
  refine Outcome.bind_eq_ok.mpr ⟨groups, selected, Outcome.bind_eq_ok.mpr ⟨_, targets,
    Outcome.bind_eq_ok.mpr ⟨_, scales, Outcome.bind_eq_ok.mpr ⟨_, drawAll_over each, ?_⟩⟩⟩⟩
  rw [List.length_map, List.length_map, if_neg (not_not_intro rfl)]
  rfl

-- Nothing that a plot left on its canvases or colorbars gets in the way of the same plot.
theorem ofDataset_again (d : Dataset) (options : PlotOptions) (settings : Settings)
    (plots : List Plot) (free : options.canvasSize = none)
    (done : ofDataset d none none options settings = .ok plots) :
    ofDataset d (some (plots.map (·.canvas))) (some (plots.map (·.colorbar))) options settings =
      .ok (plots.map doubled) := by
  obtain ⟨groups, selected, each⟩ := ofDataset_new.mp done
  exact ofDataset_over free selected (each.imp fun group plot drawn => ofGroup_again drawn)

theorem ofDataset_again_bridge :
    ∃ plots, ofDataset bridgeRun none none { autoColorScale := some true } {} = .ok plots ∧
      ofDataset bridgeRun (some (plots.map (·.canvas))) (some (plots.map (·.colorbar)))
        { autoColorScale := some true } {} = .ok (plots.map doubled) := by
  obtain ⟨plots, done⟩ :
      ∃ plots, ofDataset bridgeRun none none { autoColorScale := some true } {} = .ok plots :=
    Outcome.exists_of_isOk (by decide +kernel)
  exact ⟨plots, done, ofDataset_again bridgeRun { autoColorScale := some true } {} plots rfl done⟩

end Plot

end Labbook
