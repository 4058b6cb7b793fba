import Labbook.Proofs.Plot.CanvasReuse
import Labbook.Proofs.Plot.Failures

namespace Labbook

-- All known names are in small letters, so that a known name is found again by itself.
theorem Gradient.small_of_known {name : String} {gradient : Gradient}
    (known : Gradient.ofName? name = some gradient) :
    String.ofList (name.toList.map Char.toLower) = name := by
  unfold Gradient.ofName? at known
  split at known
  case h_14 => cases known
  all_goals rfl

theorem Colormap.ofName_again {name : String} {map : Colormap} (found : ofName name = .ok map) :
    ofName map.name = .ok map := by
  unfold ofName at found
  dsimp only at found
  split at found
  next gradient known =>
    cases found
    unfold ofName
    dsimp only
    rw [Gradient.small_of_known known, known]
  next => cases found

namespace Colorbar

def between (bar : Colorbar Binary64) (low high : Binary64) : Colorbar Binary64 :=
  { bar with vmin := low, vmax := high }

-- Of the limits before the step there is nothing left behind it.
def SetsLimits (step : Colorbar Binary64 → Colorbar Binary64) : Prop :=
  ∀ bar low high, step (bar.between low high) = step bar

-- The step neither looks at the limits nor moves them.
def LeavesLimits (step : Colorbar Binary64 → Colorbar Binary64) : Prop :=
  ∀ bar low high, step (bar.between low high) = (step bar).between low high

section
variable {first second : Colorbar Binary64 → Colorbar Binary64}

theorem SetsLimits.before (sets : SetsLimits first) : SetsLimits (second ∘ first) := by
  intro bar low high
  exact congrArg second (sets bar low high)

theorem LeavesLimits.before_sets (leaves : LeavesLimits first) (sets : SetsLimits second) :
    SetsLimits (second ∘ first) := by
  intro bar low high
  exact (congrArg second (leaves bar low high)).trans (sets (first bar) low high)

theorem LeavesLimits.before_leaves (leaves : LeavesLimits first) (more : LeavesLimits second) :
    LeavesLimits (second ∘ first) := by
  intro bar low high
  exact (congrArg second (leaves bar low high)).trans (more (first bar) low high)

end

def HasFinite (values : List Binary64) : Prop := ∃ v ∈ values, v.isFinite = true

variable {values : List Binary64} {labels : Option (List String)}

theorem autoscale_sets (finite : HasFinite values) : SetsLimits (·.autoscale values) := by
  obtain ⟨v, member, finite⟩ := finite
  intro bar low high
  dsimp only
  unfold autoscale
  split
  next empty =>
    have kept : v ∈ values.filter Scalar.isFinite := List.mem_filter.mpr ⟨member, finite⟩
    rw [empty] at kept
    cases kept
  next => rfl

theorem autoscale_unmeasured (unmeasured : ¬HasFinite values) (bar : Colorbar Binary64) :
    bar.autoscale values = bar := by
  have empty : values.filter Scalar.isFinite = [] := by
    apply List.filter_eq_nil_iff.mpr
    intro v member finite
    exact unmeasured ⟨v, member, finite⟩
  unfold autoscale
  rw [empty]

def fitted (values : List Binary64) (labels : Option (List String)) (bar : Colorbar Binary64) :
    Colorbar Binary64 :=
  match labels with
  | some labels => (bar.autoscale values).categorical labels
  | none => bar.autoscale values

theorem categorical_sets (labels : List String) : SetsLimits (·.categorical labels) :=
  fun _ _ _ => rfl

theorem fitted_sets (own : labels.isSome = true ∨ HasFinite values) :
    SetsLimits (fitted values labels) := by
  by_cases finite : HasFinite values
  · cases labels with
    | none => exact autoscale_sets finite
    | some labels =>
      intro bar low high
      exact congrArg (·.categorical labels) (autoscale_sets finite bar low high)
  · cases labels with
    | none => simp [finite] at own
    | some labels =>
      intro bar low high
      simp only [fitted, autoscale_unmeasured finite]
      rfl

theorem fitted_unmeasured (unmeasured : ¬HasFinite values) (bar : Colorbar Binary64) :
    fitted values none bar = bar := autoscale_unmeasured unmeasured bar

-- Two pairs of limits make no difference if they are replaced, or if they are none.
theorem fitted_eq_iff (bar : Colorbar Binary64) (a b c d : Binary64) :
    fitted values labels (bar.between a b) = fitted values labels (bar.between c d) ↔
      labels.isSome = true ∨ HasFinite values ∨ a = c ∧ b = d := by
  by_cases own : labels.isSome = true ∨ HasFinite values
  · have sets := fitted_sets own
    rw [sets, sets, ← or_assoc]
    exact ⟨fun _ => .inl own, fun _ => rfl⟩
  · obtain ⟨plain, unmeasured⟩ := not_or.mp own
    cases labels with
    | some labels => simp at plain
    | none =>
      rw [fitted_unmeasured unmeasured, fitted_unmeasured unmeasured]
      simp [between, unmeasured]

def plain (map : Colormap) : Colorbar Binary64 := { vmin := 0, vmax := 1, colormap := map }

theorem fresh_reused (bar : Colorbar Binary64) (colormap : Option String) (settings : Settings) :
    fresh (some bar) colormap settings =
      (Colormap.ofName (colormap.getD bar.colormap.name)).map
        fun map => (plain map).between bar.vmin bar.vmax := by
  unfold fresh
  cases colormap with
  | none => cases Colormap.ofName bar.colormap.name <;> rfl
  | some name =>
    dsimp only [Option.getD_some]
    cases Colormap.ofName name <;> rfl

theorem fresh_new (colormap : Option String) (settings : Settings) :
    fresh none colormap settings =
      (Colormap.ofName (colormap.getD settings.defaultColormap)).map plain := by
  unfold fresh
  cases colormap with
  | none =>
    dsimp only [Option.getD_none]
    cases Colormap.ofName settings.defaultColormap <;> rfl
  | some name =>
    dsimp only [Option.getD_some]
    cases Colormap.ofName name <;> rfl

end Colorbar

namespace Triple

def drawn (t : Triple) (options : ColorOptions) (settings : Settings) : Outcome (Layer Binary64) :=
  t.layer (t.plotType t.x.data.axisValues t.y.data.axisValues) t.x.data.axisValues
    t.y.data.axisValues t.z.data.axisValues options.rasterized settings.rasterizeThreshold

theorem drawn_ok (t : Triple) (options : ColorOptions) (settings : Settings) :
    ∃ layer, t.drawn options settings = .ok layer ∧ layer.usesColorbar = true := t.layer_ok ..

end Triple

namespace Canvas
variable {canvas : Canvas} {t : Triple} {options : ColorOptions} {settings : Settings}
  {layer : Layer Binary64}

-- The layer does not depend on the colorbar, and the colorbar passes through one step behind its start.
theorem plotColors_eq (drawn : t.drawn options settings = .ok layer)
    (reused : Option (Colorbar Binary64)) :
    canvas.plotColors t reused options settings =
      (Colorbar.fresh reused options.colormap settings).map fun bar =>
        (t.plotType t.x.data.axisValues t.y.data.axisValues,
          (canvas.withCategories t.x.data.axisValues.categories
            t.y.data.axisValues.categories).push layer,
          bar.fitted layer.colorValues t.z.data.axisValues.categories) := by
  unfold Triple.drawn at drawn
  unfold plotColors
  dsimp only
  rw [drawn]
  cases Colorbar.fresh reused options.colormap settings with
  | error e => rfl
  | ok bar =>
    unfold Colorbar.fitted
    cases t.z.data.axisValues.categories with
    | none => rfl
    | some labels => rfl

-- From two starts with one colormap only the limits can tell the results apart, and they do so exactly
-- where neither finite values nor categories replace them.
theorem plotColors_eq_iff_limits (drawn : t.drawn options settings = .ok layer)
    {one other : Option (Colorbar Binary64)} {name : String} {a b c d : Binary64}
    (start : Colorbar.fresh one options.colormap settings =
      (Colormap.ofName name).map fun map => (Colorbar.plain map).between a b)
    (restart : Colorbar.fresh other options.colormap settings =
      (Colormap.ofName name).map fun map => (Colorbar.plain map).between c d) :
    canvas.plotColors t one options settings = canvas.plotColors t other options settings ↔
      (Colormap.ofName name).isOk = false ∨ t.z.data.isText = true ∨
        Colorbar.HasFinite layer.colorValues ∨ a = c ∧ b = d := by
  rw [plotColors_eq drawn, plotColors_eq drawn, start, restart]
  cases Colormap.ofName name with
  | error e => simp [Except.map, Except.isOk, Except.toBool]
  | ok map =>
    simp only [Except.map, Except.isOk, Except.toBool, Except.ok.injEq, Prod.mk.injEq, true_and,
      Colorbar.fitted_eq_iff, Axis.categories_isSome, Bool.true_eq_false, false_or]

-- What a colorbar passes on besides its colormap.
theorem plotColors_reused_eq_iff (canvas : Canvas) (t : Triple) (options : ColorOptions)
    (settings : Settings) (first second : Colorbar Binary64)
    (sameMap : first.colormap.name = second.colormap.name) :
    ∃ layer, t.drawn options settings = .ok layer ∧
      (canvas.plotColors t (some first) options settings =
          canvas.plotColors t (some second) options settings ↔
        (Colormap.ofName (options.colormap.getD first.colormap.name)).isOk = false ∨
          t.z.data.isText = true ∨ Colorbar.HasFinite layer.colorValues ∨
          first.vmin = second.vmin ∧ first.vmax = second.vmax) ∧
      (options.colormap = none → first.colormap.name = settings.defaultColormap →
        (canvas.plotColors t (some first) options settings =
            canvas.plotColors t none options settings ↔
          (Colormap.ofName settings.defaultColormap).isOk = false ∨
            t.z.data.isText = true ∨ Colorbar.HasFinite layer.colorValues ∨
            first.vmin = 0 ∧ first.vmax = 1)) := by
  obtain ⟨layer, drawn, -⟩ := t.drawn_ok options settings
  refine ⟨layer, drawn, ?_, ?_⟩
  · have restart := Colorbar.fresh_reused second options.colormap settings
    rw [← sameMap] at restart
    exact plotColors_eq_iff_limits drawn (Colorbar.fresh_reused first ..) restart
  · intro unasked usual
    have start := Colorbar.fresh_reused first options.colormap settings
    have restart := Colorbar.fresh_new options.colormap settings
    have name : options.colormap.getD first.colormap.name = settings.defaultColormap := by
      rw [unasked]
      exact usual
    have again : options.colormap.getD settings.defaultColormap = settings.defaultColormap := by
      rw [unasked]
      rfl
    rw [name] at start
    rw [again] at restart
    exact plotColors_eq_iff_limits drawn start restart

def sample (value : Binary64) : Triple where
  x := ⟨"x", "", "", .numeric (.ofList [0]), none⟩
  y := ⟨"y", "", "", .numeric (.ofList [0]), none⟩
  z := ⟨"z", "", "", .numeric (.ofList [value]), none⟩

def viridisBar (low high : Binary64) : Colorbar Binary64 :=
  (Colorbar.plain ⟨"viridis", Gradient.ofCodes Palette.viridis, none⟩).between low high

theorem sample_drawn (value : Binary64) :
    (sample value).drawn {} {} = .ok (.scatter ⟨[(0, 0, value)], false⟩) := rfl

-- A measured value leaves nothing of the limits of either colorbar.
theorem plotColors_reused_sample :
    (viridisBar 3 7).colormap.name = (viridisBar 0 1).colormap.name ∧
      (viridisBar 3 7).colormap.name = ({} : Settings).defaultColormap ∧
      (blank (400, 300)).plotColors (sample 5) (some (viridisBar 3 7)) {} {} =
        (blank (400, 300)).plotColors (sample 5) (some (viridisBar 0 1)) {} {} ∧
      (blank (400, 300)).plotColors (sample 5) (some (viridisBar 3 7)) {} {} =
        (blank (400, 300)).plotColors (sample 5) none {} {} := by
  obtain ⟨layer, drawn, two, new⟩ := plotColors_reused_eq_iff (blank (400, 300)) (sample 5) {} {}
    (viridisBar 3 7) (viridisBar 0 1) rfl
  cases drawn
  have finite : Colorbar.HasFinite (Layer.scatter ⟨[(0, 0, (5 : Binary64))], false⟩).colorValues :=
    ⟨5, by simp [Layer.colorValues], by decide +kernel⟩
  exact ⟨rfl, rfl, two.mpr (.inr (.inr (.inl finite))),
    (new rfl rfl).mpr (.inr (.inr (.inl finite)))⟩

-- A value that was not measured leaves them standing.
theorem sample_keeps_vmin (reused : Option (Colorbar Binary64)) (bar : Colorbar Binary64)
    (start : Colorbar.fresh reused none {} = .ok bar) :
    ((blank (400, 300)).plotColors (sample .nan) reused {} {}).map (·.2.2.vmin) = .ok bar.vmin := by
  rw [plotColors_eq (sample_drawn .nan), start]
  rfl

theorem plotColors_keeps_limits :
    (viridisBar 3 7).colormap.name = (viridisBar 0 1).colormap.name ∧
      (viridisBar 3 7).colormap.name = ({} : Settings).defaultColormap ∧
      (blank (400, 300)).plotColors (sample .nan) (some (viridisBar 3 7)) {} {} ≠
        (blank (400, 300)).plotColors (sample .nan) (some (viridisBar 0 1)) {} {} ∧
      (blank (400, 300)).plotColors (sample .nan) (some (viridisBar 3 7)) {} {} ≠
        (blank (400, 300)).plotColors (sample .nan) none {} {} := by
  have three := sample_keeps_vmin (some (viridisBar 3 7)) (viridisBar 3 7) rfl
  have apart : (3 : Binary64) ≠ 0 := by decide +kernel
  refine ⟨rfl, rfl, ?_, ?_⟩
  · intro same
    rw [same, sample_keeps_vmin (some (viridisBar 0 1)) (viridisBar 0 1) rfl] at three
    exact apart (Except.ok.inj three).symm
  · intro same
    rw [same, sample_keeps_vmin none (viridisBar 0 1) rfl] at three
    exact apart (Except.ok.inj three).symm

end Canvas

end Labbook
