import Labbook.Plot.OfDataset
import Labbook.Proofs.Run.Grouping

namespace Labbook

-- A failure for which the program is not to blame.
def PlotError.Foreseen (e : PlotError) : Prop := e.kind ≠ .internal

theorem RecordData.length_values (data : RecordData) :
    data.axisValues.values.length = cellCount data.dims := by
  cases data with
  | numeric t => exact t.cells_length
  | complex t => exact (List.length_map ..).trans t.cells_length
  | text t => exact (List.length_map ..).trans t.cells_length

namespace Canvas

-- A column has one of the plot types that have a layer, and that layer is not coloured.
theorem seriesLayer_of1D (x y : RecordData) (points : List (Binary64 × Binary64)) :
    ∃ layer, seriesLayer (PlotType.of1D x y) points = .ok layer ∧ layer.usesColorbar = false := by
  have ofSetpoints : ∀ values, ∃ layer,
      seriesLayer (PlotType.ofSetpoints values) points = .ok layer ∧ layer.usesColorbar = false := by
    intro values
    unfold PlotType.ofSetpoints
    split <;> exact ⟨_, rfl, rfl⟩
  unfold PlotType.of1D
  split
  · exact ⟨_, rfl, rfl⟩
  · cases x with
    | numeric t => exact ofSetpoints _
    | complex t => exact ofSetpoints _
    | text t =>
      dsimp only
      split <;> exact ⟨_, rfl, rfl⟩

end Canvas

namespace Triple

theorem shaped_ok {rows cols : Nat} {data : RecordData} (dims : data.dims = [rows, cols]) :
    ∃ grid, shaped rows cols data.axisValues = .ok grid := by
  have full : data.axisValues.values.length = rows * cols := by
    rw [data.length_values, dims]
    simp [cellCount]
  unfold shaped Grid.ofList?
  rw [dif_pos full]
  exact ⟨_, rfl⟩

theorem meshData_ok (t : Triple) :
    ∃ m, t.meshData t.x.data.axisValues t.y.data.axisValues t.z.data.axisValues = .ok m := by
  unfold meshData
  split
  next rows cols shape dims =>
    split
    next same =>
      obtain ⟨xg, xs⟩ := shaped_ok same.1
      obtain ⟨yg, ys⟩ := shaped_ok same.2
      obtain ⟨zg, zs⟩ := shaped_ok dims
      rw [xs, ys, zs]
      exact ⟨_, rfl⟩
    next => exact ⟨_, rfl⟩
  next => exact ⟨_, rfl⟩

theorem layer_ok (t : Triple) (type : PlotType) (rasterized : Option Bool) (threshold : Nat) :
    ∃ layer, t.layer type t.x.data.axisValues t.y.data.axisValues t.z.data.axisValues rasterized
      threshold = .ok layer ∧ layer.usesColorbar = true := by
  unfold layer
  split
  · obtain ⟨m, laid⟩ := t.meshData_ok
    rw [laid]
    exact ⟨_, rfl, rfl⟩
  · exact ⟨_, rfl, rfl⟩

end Triple

theorem Dataset.Hindrance.foreseen {d : Dataset} {p : Parameter} {e : PlotError}
    (hindrance : d.Hindrance p e) : e.Foreseen := by
  cases hindrance <;> nofun

theorem Colormap.ofName_foreseen (name : String) :
    Outcome.FailsOnly (Colormap.ofName name) PlotError.Foreseen := by
  unfold ofName
  dsimp only
  split
  · exact .ok _
  · exact .error nofun

theorem Rgb.takeChannel_foreseen (text : String) (cs : List Char) :
    Outcome.FailsOnly (takeChannel text cs) PlotError.Foreseen := by
  have invalid : (PlotError.invalidColor text).Foreseen := nofun
  have cut : (PlotError.colorCut text).Foreseen := nofun
  unfold takeChannel
  split
  · exact .error invalid
  · split
    · split
      · exact .error invalid
      · split
        · split
          · exact .ok _
          · exact .error invalid
        · exact .error cut
    · split
      · exact .error invalid
      · exact .error cut

theorem Rgb.read_foreseen (text : String) : Outcome.FailsOnly (read text) PlotError.Foreseen := by
  unfold read
  dsimp only
  split
  · exact .error nofun
  · exact .bind (takeChannel_foreseen _ _) fun _ _ => .bind (takeChannel_foreseen _ _) fun _ _ =>
      .bind (takeChannel_foreseen _ _) fun _ _ => .ok _

theorem Colorbar.withSettings_foreseen (bar : Colorbar Binary64) (enabled : Option Bool)
    (values : List Binary64) (cutoff : Option (Spread.Cutoff Binary64)) (settings : Settings) :
    Outcome.FailsOnly (bar.withSettings enabled values cutoff settings) PlotError.Foreseen := by
  unfold withSettings
  dsimp only
  split
  · exact .ok _
  · exact .bind (Rgb.read_foreseen _) fun _ _ => .bind (Rgb.read_foreseen _) fun _ _ => .ok _

theorem Canvas.plotSeries_foreseen (canvas : Canvas) (x y : Record) :
    Outcome.FailsOnly (canvas.plotSeries x y) PlotError.Foreseen := by
  unfold plotSeries
  dsimp only
  obtain ⟨layer, made, -⟩ := seriesLayer_of1D x.data y.data
    (x.data.axisValues.values.zip y.data.axisValues.values)
  rw [made]
  exact .ok _

theorem Canvas.plotColors_foreseen (canvas : Canvas) (t : Triple)
    (reused : Option (Colorbar Binary64)) (options : ColorOptions) (settings : Settings) :
    Outcome.FailsOnly (canvas.plotColors t reused options settings) PlotError.Foreseen := by
  unfold plotColors
  dsimp only
  obtain ⟨layer, made, -⟩ := t.layer_ok (t.plotType t.x.data.axisValues t.y.data.axisValues)
    options.rasterized settings.rasterizeThreshold
  rw [made]
  exact .bind (.ok _) fun _ _ => .bind (.bind (Colormap.ofName_foreseen _) fun _ _ => .ok _)
    fun _ _ => .ok _

namespace Plot
variable {title : String} {options : PlotOptions} {settings : Settings} {d : Dataset}

theorem ofGroup_foreseen (title : String) (options : PlotOptions) (settings : Settings)
    (group : PlotGroup) (canvas : Canvas) (reused : Option (Colorbar Binary64)) :
    Outcome.FailsOnly (ofGroup title options settings group canvas reused) PlotError.Foreseen := by
  unfold ofGroup
  split
  · exact .bind (canvas.plotSeries_foreseen _ _) fun _ _ => .ok _
  · refine .bind (canvas.plotColors_foreseen _ _ _ _) fun drawn _ => ?_
    dsimp only
    split
    · exact .ok _
    · exact .bind (Colorbar.withSettings_foreseen _ _ _ _ _) fun _ _ => .ok _
  · exact .ok _

theorem selectedGroups_foreseen (d : Dataset) (options : PlotOptions) :
    Outcome.FailsOnly (selectedGroups d options) PlotError.Foreseen := by
  refine .bind ?_ fun groups _ => ?_
  · exact d.groups_fails.mono fun e ⟨_, _, hindrance⟩ => hindrance.foreseen
  · dsimp only
    split
    · refine .bind ?_ fun _ _ => .ok _
      unfold selectGroups
      dsimp only
      split
      · exact .error nofun
      · exact .ok _
    · exact .ok _

theorem prepareCanvases_foreseen (supplied : Option (List Canvas)) (plots : Nat)
    (options : PlotOptions) (settings : Settings) :
    Outcome.FailsOnly (prepareCanvases supplied plots options settings) PlotError.Foreseen := by
  unfold prepareCanvases
  split
  · split
    · exact .error nofun
    · split
      · exact .ok _
      · split <;> exact .error nofun
  · exact .ok _

theorem prepareColorbars_foreseen (supplied : Option (List (Option (Colorbar Binary64))))
    (canvases : Nat) :
    Outcome.FailsOnly (prepareColorbars supplied canvases) PlotError.Foreseen := by
  unfold prepareColorbars
  split
  · split
    · exact .ok _
    · exact .error nofun
  · exact .ok _

end Plot

end Labbook
