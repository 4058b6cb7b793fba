import Labbook.Picture.Mark
import Labbook.Proofs.Mesh.Classification
import Labbook.Proofs.Plot.CategoryBands

namespace Labbook

section
variable {labels : List String} {text : String} {n : Nat}

theorem wholePosition?_ofNat (few : n < 2 ^ 53) : wholePosition? (.ofNat n) = some n := by
  have measured := Binary64.not_isNaN_of_isFinite (Binary64.isFinite_ofNat few)
  have ahead := Binary64.zero_le measured (Binary64.isNegative_ofNat few)
  unfold wholePosition?
  dsimp only
  rw [Binary64.round_ofNat few, Binary64.equals_refl measured, Bool.true_or, if_pos ⟨rfl, ahead⟩,
    Binary64.toNat_ofNat few]

theorem Axis.tickText_textCell {axis : Axis} (categories : axis.categories = some labels)
    (few : labels.length < 2 ^ 53) (listed : text ∈ labels) :
    axis.tickText (textCell labels text) = text := by
  have inside := List.idxOf_lt_length_of_mem listed
  rw [tickText, categories]
  dsimp only
  rw [textCell, wholePosition?_ofNat (Nat.lt_trans inside few), Option.bind_some,
    List.getElem?_eq_getElem inside, List.getElem_idxOf inside]
  rfl

end

namespace Setpoint
variable {texts : List String}

theorem distinctTexts_perm (nodup : texts.Nodup) : (distinctTexts texts).Perm texts :=
  (List.perm_ext_iff_of_nodup (distinctTexts_nodup texts) nodup).mpr fun _ => mem_distinctTexts

theorem map_idxOf {labels : List String} (nodup : labels.Nodup) :
    labels.map labels.idxOf = List.range labels.length := by
  refine List.ext_getElem (by simp) fun i first second => ?_
  rw [List.getElem_map, nodup.idxOf_getElem, List.getElem_range]

-- Texts that are all different take every position up to their number, in some order.
theorem positions_perm (nodup : texts.Nodup) :
    (texts.map (textCell (distinctTexts texts))).Perm ((List.range texts.length).map .ofNat) := by
  have all := distinctTexts_perm nodup
  have positions := (all.symm.map (distinctTexts texts).idxOf).map Binary64.ofNat
  rw [map_idxOf (distinctTexts_nodup texts), all.length_eq, List.map_map] at positions
  exact positions

end Setpoint

-- The categories of an axis are the texts of a record in ascending order, and its ticks at the positions
-- of the samples are their texts.
structure Axis.Spells (axis : Axis) (data : RecordData) : Prop where
  categories : ∃ labels, axis.categories = some labels ∧ labels.Pairwise (· < ·) ∧
    ∀ text, text ∈ labels ↔ text ∈ data.texts
  ticks : data.axisValues.values.map axis.tickText = data.texts

theorem Axis.spells {axis : Axis} {data : RecordData} (text : data.isText = true)
    (few : data.texts.length < 2 ^ 53) (own : axis.categories = data.axisValues.categories) :
    axis.Spells data := by
  have values := RecordData.axisValues_text text
  rw [values] at own
  refine ⟨⟨_, own, Setpoint.distinctTexts_ascending _, fun _ => Setpoint.mem_distinctTexts⟩, ?_⟩
  have room := Nat.lt_of_le_of_lt (Setpoint.length_distinctTexts_le data.texts) few
  rw [values, List.map_map]
  calc data.texts.map (axis.tickText ∘ textCell (Setpoint.distinctTexts data.texts))
      = data.texts.map id := List.map_congr_left fun text sample =>
        tickText_textCell own room (Setpoint.mem_distinctTexts.mpr sample)
    _ = data.texts := List.map_id _

-- Boxes that have no place along the first axis in common.
def Mark.Beside : Mark Rat → Mark Rat → Prop
  | .box a b _, .box c d _ => b.1 < c.1 ∨ d.1 < a.1
  | _, _ => False

def Binary64.Apart (a b : Binary64) : Prop := a.value + 1 ≤ b.value ∨ b.value + 1 ≤ a.value

theorem Binary64.Apart.symm {a b : Binary64} (apart : a.Apart b) : b.Apart a := Or.symm apart

theorem range_apart {n : Nat} (few : n < 2 ^ 53) :
    ((List.range n).map Binary64.ofNat).Pairwise Binary64.Apart := by
  refine List.pairwise_map.mpr (List.pairwise_lt_range.imp_of_mem ?_)
  intro i j memberI memberJ less
  rw [List.mem_range] at memberI memberJ
  rw [Binary64.Apart, Binary64.value_ofNat (by omega), Binary64.value_ofNat (by omega)]
  exact .inl (by exact_mod_cast less)

theorem Layer.exactPoint?_fst {point : Binary64 × Binary64} {exact : Rat × Rat}
    (read : exactPoint? point = some exact) : exact.1 = point.1.value := by
  unfold exactPoint? at read
  split at read
  · cases read
    rfl
  · cases read

theorem Layer.bars_beside {bars : List (Binary64 × Binary64)}
    (apart : (bars.map Prod.fst).Pairwise Binary64.Apart) (bar : Option (Colorbar Rat)) :
    ((Layer.bars bars).exact.marks bar).Pairwise Mark.Beside := by
  refine List.pairwise_map.mpr (List.Pairwise.filter _ ?_)
  refine List.pairwise_filterMap.mpr ((List.pairwise_map.mp apart).imp ?_)
  intro a b away p ownA q ownB
  change p.1 + 0.4 < q.1 - 0.4 ∨ q.1 + 0.4 < p.1 - 0.4
  rw [exactPoint?_fst ownA, exactPoint?_fst ownB]
  refine away.imp ?_ ?_
  all_goals
    intro ahead
    linarith

-- The bars of different texts. The samples take every position up to their number, and the bars do unless
-- there are too few values.
structure Bars (x y : RecordData) (bars : List (Binary64 × Binary64)) : Prop where
  different : x.texts.Nodup
  samples : bars = x.axisValues.values.zip y.axisValues.values
  positions : x.axisValues.values.Perm ((List.range x.texts.length).map .ofNat)
  full : x.texts.length ≤ y.axisValues.values.length →
    (bars.map Prod.fst).Perm ((List.range x.texts.length).map .ofNat)
  beside : ∀ bar, ((Layer.bars bars).exact.marks bar).Pairwise Mark.Beside

theorem PlotType.of1D_bar_iff {x y : RecordData} :
    of1D x y = .bar1D ↔ x.isText = true ∧ y.isText = false ∧ x.texts.Nodup := by
  have noBar : ∀ values, ofSetpoints values ≠ .bar1D := by
    intro values
    unfold ofSetpoints
    split <;> nofun
  unfold of1D
  cases y.isText with
  | true => simp
  | false =>
    cases x with
    | numeric t => exact iff_of_false (noBar _) nofun
    | complex t => exact iff_of_false (noBar _) nofun
    | text t =>
      have apart := distinct_iff t.cells
      dsimp only [RecordData.isText, RecordData.texts]
      rw [← apart]
      cases distinct t.cells <;> simp

theorem bars_of_texts {x y : RecordData} (text : x.isText = true) (different : x.texts.Nodup)
    (few : x.texts.length < 2 ^ 53) :
    Bars x y (x.axisValues.values.zip y.axisValues.values) := by
  have values : x.axisValues.values = x.texts.map (textCell (Setpoint.distinctTexts x.texts)) :=
    congrArg AxisValues.values (RecordData.axisValues_text text)
  have positions : x.axisValues.values.Perm ((List.range x.texts.length).map .ofNat) := by
    rw [values]
    exact Setpoint.positions_perm different
  have apart : x.axisValues.values.Pairwise Binary64.Apart :=
    (range_apart few).perm positions.symm Binary64.Apart.symm
  have part : ((x.axisValues.values.zip y.axisValues.values).map Prod.fst).Sublist
      x.axisValues.values := by
    rw [List.zip_eq_zip_take_min, List.map_fst_zip (by simp)]
    exact List.take_sublist _ _
  refine ⟨different, rfl, positions, fun enough => ?_, Layer.bars_beside (apart.sublist part)⟩
  have count : x.axisValues.values.length = x.texts.length := by rw [values, List.length_map]
  rw [List.map_fst_zip (by omega)]
  exact positions

namespace Canvas
variable {x y : Record} {drawn : Canvas}

-- A new canvas with `x` and `y` drawn along its axes.
inductive DrawnNew (x y : Record) : Canvas → Prop where
  | series {size : Nat × Nat} {type : PlotType} {drawn : Canvas}
      (done : (blank size).plotSeries x y = .ok (type, drawn)) : DrawnNew x y drawn
  | colors {size : Nat × Nat} {z : Record} {reused : Option (Colorbar Binary64)}
      {options : ColorOptions} {settings : Settings} {type : PlotType} {drawn : Canvas}
      {bar : Colorbar Binary64}
      (done : (blank size).plotColors ⟨x, y, z⟩ reused options settings = .ok (type, drawn, bar)) :
      DrawnNew x y drawn

structure Along (x y : Record) (drawn : Canvas) (layer : Layer Binary64) : Prop where
  xAxis : drawn.xAxis.categories = x.data.axisValues.categories
  yAxis : drawn.yAxis.categories = y.data.axisValues.categories
  layers : drawn.layers = [layer]
  places : ∀ point ∈ layer.places,
    point.1 ∈ x.data.axisValues.values ∧ point.2 ∈ y.data.axisValues.values
  bars : ∀ bars, layer = .bars bars → PlotType.of1D x.data y.data = .bar1D ∧
    bars = x.data.axisValues.values.zip y.data.axisValues.values

theorem seriesLayer_bars {type : PlotType} {points bars : List (Binary64 × Binary64)}
    (made : seriesLayer type points = .ok (.bars bars)) : type = .bar1D ∧ bars = points := by
  cases type with
  | bar1D =>
    cases made
    exact ⟨rfl, rfl⟩
  | _ => cases made

theorem drawn_places {t : Triple} {layer : Layer Binary64} {options : ColorOptions}
    {settings : Settings} (made : t.drawn options settings = .ok layer) :
    (∀ bars, layer ≠ .bars bars) ∧ ∀ point ∈ layer.places,
      point.1 ∈ t.x.data.axisValues.values ∧ point.2 ∈ t.y.data.axisValues.values := by
  rcases Triple.drawn_cases made with ⟨m, rasterized, laid, rfl⟩ | ⟨-, rasterized, rfl⟩
  · have axes := Triple.meshData_axes laid
    refine ⟨nofun, fun (a, b) shown => ?_⟩
    obtain ⟨column, row⟩ := Layer.mem_places_mesh.mp shown
    exact ⟨(axes.x a column).1, (axes.y b row).1⟩
  · refine ⟨nofun, fun point shown => ?_⟩
    obtain ⟨⟨a, b, c⟩, listed, rfl⟩ := List.mem_map.mp shown
    obtain ⟨inX, rest⟩ := List.of_mem_zip listed
    exact ⟨inX, (List.of_mem_zip rest).1⟩

theorem DrawnNew.along (new : DrawnNew x y drawn) : ∃ layer, Along x y drawn layer := by
  cases new with
  | series done =>
    obtain ⟨layer, made, built⟩ := Outcome.bind_eq_ok.mp done
    cases built
    rw [Plot.withCategories_eq]
    refine ⟨layer, Option.or_none, Option.or_none, rfl, fun point shown => ?_, ?_⟩
    · exact List.of_mem_zip ((Plot.seriesLayer_places made).2 point shown)
    · rintro bars rfl
      exact seriesLayer_bars made
  | @colors _ z _ options settings _ _ _ done =>
    obtain ⟨layer, made, -⟩ := Triple.drawn_ok ⟨x, y, z⟩ options settings
    rw [plotColors_eq made] at done
    obtain ⟨start, -, same⟩ := Outcome.map_eq_ok.mp done
    cases same
    obtain ⟨noBars, places⟩ := drawn_places made
    rw [Plot.withCategories_eq]
    exact ⟨layer, Option.or_none, Option.or_none, rfl, places, fun bars own => absurd own (noBars bars)⟩

theorem drawnNew_spells (new : DrawnNew x y drawn) :
    (x.data.isText = true → x.data.texts.length < 2 ^ 53 → drawn.xAxis.Spells x.data) ∧
    (y.data.isText = true → y.data.texts.length < 2 ^ 53 → drawn.yAxis.Spells y.data) ∧
    ∃ layer, drawn.layers = [layer] ∧
      (∀ point ∈ layer.places,
        point.1 ∈ x.data.axisValues.values ∧ point.2 ∈ y.data.axisValues.values) ∧
      ∀ bars, layer = .bars bars → x.data.isText = true ∧
        (x.data.texts.length < 2 ^ 53 → Bars x.data y.data bars) := by
  obtain ⟨layer, along⟩ := new.along
  refine ⟨fun text few => Axis.spells text few along.xAxis,
    fun text few => Axis.spells text few along.yAxis, layer, along.layers, along.places, ?_⟩
  intro bars own
  obtain ⟨type, rfl⟩ := along.bars bars own
  obtain ⟨text, -, different⟩ := PlotType.of1D_bar_iff.mp type
  exact ⟨text, bars_of_texts text different⟩

theorem plotSeries_bars (size : Nat × Nat) (bar : PlotType.of1D x.data y.data = .bar1D) :
    ∃ drawn, (blank size).plotSeries x y = .ok (.bar1D, drawn) ∧
      drawn.layers = [.bars (x.data.axisValues.values.zip y.data.axisValues.values)] := by
  unfold plotSeries
  rw [bar]
  exact ⟨_, rfl, rfl⟩

def states : Record := ⟨"state", "", "", .text (.ofList ["ramp", "hold"]), none⟩

def readings (values : List Binary64) : Record := ⟨"rate", "", "", .numeric (.ofList values), none⟩

theorem states_bar (values : List Binary64) :
    PlotType.of1D states.data (readings values).data = .bar1D :=
  PlotType.of1D_bar_iff.mpr ⟨rfl, rfl, by decide⟩

theorem states_values : states.data.axisValues.values = [.ofNat 1, .ofNat 0] := by
  have labels : Setpoint.distinctTexts ["ramp", "hold"] = ["hold", "ramp"] := by
    have sorted : ["hold", "ramp"].Pairwise (· < ·) := by decide
    refine (Setpoint.distinctTexts_ascending _).eq_of_mem_iff sorted fun text => ?_
    rw [Setpoint.mem_distinctTexts]
    simp [or_comm]
  have texts : states.data.texts = ["ramp", "hold"] := rfl
  rw [RecordData.axisValues_text (show states.data.isText = true from rfl), texts, labels]
  rfl

-- The second of two states has no reading, and the only bar does not stand at zero.
theorem drawnNew_short : ∃ drawn bars,
    (blank (400, 300)).plotSeries states (readings [5]) = .ok (.bar1D, drawn) ∧
    drawn.layers = [.bars bars] ∧ ∀ n, ¬(bars.map Prod.fst).Perm ((List.range n).map .ofNat) := by
  obtain ⟨drawn, done, layers⟩ := plotSeries_bars (400, 300) (states_bar [5])
  refine ⟨drawn, _, done, layers, fun n same => ?_⟩
  rw [states_values] at same
  change [.ofNat 1].Perm ((List.range n).map Binary64.ofNat) at same
  have count : n = 1 := by simpa using same.length_eq.symm
  subst count
  exact absurd (List.perm_singleton.mp same) (by decide +kernel)

theorem drawnNew_spells_states : ∃ drawn bars, DrawnNew states (readings [5, 4]) drawn ∧
    drawn.xAxis.Spells states.data ∧ drawn.layers = [.bars bars] ∧
    Bars states.data (readings [5, 4]).data bars ∧
    (bars.map Prod.fst).Perm ((List.range 2).map .ofNat) := by
  obtain ⟨drawn, done, layers⟩ := plotSeries_bars (400, 300) (states_bar [5, 4])
  have few : states.data.texts.length < 2 ^ 53 := by decide
  obtain ⟨spells, -, layer, own, -, bars⟩ := drawnNew_spells (.series done)
  rw [own] at layers
  cases layers
  have shown := (bars _ rfl).2 few
  exact ⟨drawn, _, .series done, spells rfl few, own, shown, shown.full (by decide)⟩

end Canvas

end Labbook
