import Labbook.Proofs.Color.ExactScale
import Labbook.Proofs.Mesh.CellValues
import Labbook.Proofs.Number.WholeWord
import Labbook.Proofs.Plot.AxisCoverage
import Labbook.Proofs.Plot.Categories
import Mathlib.Tactic.FieldSimp
import Mathlib.Tactic.Positivity

namespace Labbook

namespace Colormap
variable {n i : Nat} {t : Rat}

-- A position is in a band if it lies between the ends of it; the last band has no upper end.
theorem band_eq (member : i < n) (low : (i : Rat) ≤ t * n) (high : t * n < i + 1 ∨ i + 1 = n) :
    band n t = i := by
  change min (t * n).floor.toNat (n - 1) = i
  have below : (i : Int) ≤ (t * n).floor := Rat.le_floor_iff.mpr (by exact_mod_cast low)
  rcases high with above | last
  · have ahead : (t * n).floor < (i : Int) + 1 := Rat.floor_lt_iff.mpr (by exact_mod_cast above)
    omega
  · omega

theorem position_bands (levels : 0 < n) (above : 0 ≤ t) (below : t ≤ 1) :
    position (some n) t = (band n t : Rat) / ((n - 1 : Nat) : Rat) := by
  have clamped : Scalar.clamp t 0.0 1.0 = t := by
    have zero : ¬t < (0.0 : Rat) := by norm_num [above]
    have one : ¬(1.0 : Rat) < t := by norm_num [below]
    rw [Scalar.clamp, if_neg zero, if_neg one]
  unfold position
  dsimp only
  rw [if_pos (show Scalar.isFinite t = true from rfl), clamped]
  split
  · rfl
  · have single : n = 1 := by omega
    subst single
    norm_num

end Colormap

namespace Colorbar
variable {bar : Colorbar Rat} {labels : List String} {n i j : Nat} {v w : Rat}

-- A value within the limits that the colormap shows in its band `i` of `n`.
structure InBand (bar : Colorbar Rat) (n i : Nat) (v : Rat) : Prop where
  above : bar.vmin ≤ v
  below : v ≤ bar.vmax
  levels : bar.colormap.levels = some n
  band : Colormap.band n (bar.normalize v) = i

def gradientPosition (bar : Colorbar Rat) (v : Rat) : Rat :=
  Colormap.position bar.colormap.levels (bar.normalize v)

theorem normalize_unit (above : bar.vmin ≤ v) (below : v ≤ bar.vmax) :
    0 ≤ bar.normalize v ∧ bar.normalize v ≤ 1 := by
  unfold normalize
  dsimp only
  split
  · norm_num
  · have whole : 0 ≤ bar.vmax - bar.vmin := by linarith
    have part : 0 ≤ v - bar.vmin := by linarith
    have within : v - bar.vmin ≤ bar.vmax - bar.vmin := by linarith
    exact ⟨div_nonneg part whole, div_le_one_of_le₀ within whole⟩

theorem InBand.position (inBand : bar.InBand n i v) (levels : 0 < n) :
    bar.gradientPosition v = (i : Rat) / ((n - 1 : Nat) : Rat) := by
  obtain ⟨above, below⟩ := normalize_unit inBand.above inBand.below
  rw [gradientPosition, inBand.levels, Colormap.position_bands levels above below, inBand.band]

-- All that the colour of a value takes from it is its band.
theorem InBand.colorFor_eq (first : bar.InBand n i v) (levels : 0 < n) (second : bar.InBand n i w) :
    bar.colorFor v = bar.colorFor w := by
  have inside : ∀ {u : Rat}, bar.InBand n i u → bar.colorFor u =
      some (bar.colormap.gradient.eval (Scalar.toFloat (bar.gradientPosition u)).toFloat32) :=
    fun inBand => colorFor_inside inBand.above inBand.below
  rw [inside first, inside second, first.position levels, second.position levels]

-- The span is one less than there are categories. Of a single one it is zero, and so is the share.
theorem normalize_categorical (bar : Colorbar Rat) (labels : List String) (v : Rat) :
    (bar.categorical labels).normalize v = v / ((labels.length - 1 : Nat) : Rat) := by
  have span : (bar.categorical labels).vmax - (bar.categorical labels).vmin =
      ((labels.length - 1 : Nat) : Rat) := by
    change ((labels.length - 1 : Nat) : Rat) - (0.0 : Rat) = _
    norm_num
  have start : v - (bar.categorical labels).vmin = v := by
    change v - (0.0 : Rat) = v
    norm_num
  have absolute : Scalar.absolute ((labels.length - 1 : Nat) : Rat) =
      ((labels.length - 1 : Nat) : Rat) := if_neg (not_lt.mpr (Nat.cast_nonneg _))
  unfold normalize
  dsimp only
  rw [span, start, absolute]
  rcases Nat.eq_zero_or_pos (labels.length - 1) with single | several
  · rw [single]
    norm_num
  · have whole : (1 : Rat) ≤ ((labels.length - 1 : Nat) : Rat) := by exact_mod_cast several
    apply if_neg
    norm_num
    linarith

section
variable {last : Nat}

-- The position of a tick, with `last` categories before the last one.
def tickPosition (last i : Nat) : Rat := ((i : Rat) + 0.5) * (last / (last + 1 : Nat))

-- Counted in bands, a value stands between the ends of its own one, but for that of the last category:
-- it stands at the upper end.
theorem value_share (member : i < last + 1) :
    (i : Rat) ≤ (i : Rat) / last * (last + 1 : Nat) ∧
      ((i : Rat) / last * (last + 1 : Nat) < i + 1 ∨ i + 1 = last + 1) := by
  rcases Nat.eq_zero_or_pos last with single | several
  · subst single
    have first : i = 0 := by omega
    simp [first]
  · have positive : (0 : Rat) < last := by exact_mod_cast several
    have split : (i : Rat) / last * (last + 1 : Nat) = i + (i : Rat) / last := by
      push_cast
      field_simp
    have share : 0 ≤ (i : Rat) / last := by positivity
    rw [split]
    refine ⟨by linarith, ?_⟩
    by_cases top : i = last
    · exact .inr (by omega)
    · have before : (i : Rat) < last := by exact_mod_cast Nat.lt_of_le_of_ne (by omega) top
      have part : (i : Rat) / last < 1 := (div_lt_one positive).mpr before
      exact .inl (by linarith)

-- Counted in bands, a tick stands in the middle of one. The only tick of a single band stands at its
-- lower end.
theorem tick_share (member : i < last + 1) :
    (i : Rat) ≤ tickPosition last i / last * (last + 1 : Nat) ∧
      tickPosition last i / last * (last + 1 : Nat) < i + 1 := by
  unfold tickPosition
  rcases Nat.eq_zero_or_pos last with single | several
  · subst single
    have first : i = 0 := by omega
    simp [first]
  · have positive : (0 : Rat) < last := by exact_mod_cast several
    have middle : ((i : Rat) + 0.5) * (last / (last + 1 : Nat)) / last * (last + 1 : Nat) =
        i + 0.5 := by
      push_cast
      field_simp
    rw [middle]
    norm_num

theorem tick_inside (member : i < last + 1) :
    0 ≤ tickPosition last i ∧ tickPosition last i ≤ last := by
  have place : (i : Rat) + 0.5 ≤ (last + 1 : Nat) := by
    have whole : (i : Rat) + 1 ≤ (last + 1 : Nat) := by exact_mod_cast member
    linarith
  have count : (0 : Rat) < (last + 1 : Nat) := by positivity
  unfold tickPosition
  refine ⟨by positivity, ?_⟩
  calc ((i : Rat) + 0.5) * (last / (last + 1 : Nat))
      ≤ (last + 1 : Nat) * (last / (last + 1 : Nat)) := by gcongr
    _ = last := mul_div_cancel₀ _ (ne_of_gt count)

theorem categorical_inBand (bar : Colorbar Rat) (count : labels.length = last + 1)
    (member : i < last + 1) (above : 0 ≤ v) (below : v ≤ last)
    (low : (i : Rat) ≤ v / last * (last + 1 : Nat))
    (high : v / last * (last + 1 : Nat) < i + 1 ∨ i + 1 = last + 1) :
    (bar.categorical labels).InBand (last + 1) i v := by
  refine ⟨?_, ?_, ?_, ?_⟩
  · change (0.0 : Rat) ≤ v
    norm_num [above]
  · change v ≤ ((labels.length - 1 : Nat) : Rat)
    rw [count, Nat.add_sub_cancel]
    exact below
  · change some (max labels.length 1) = some (last + 1)
    rw [count, Nat.max_eq_left (Nat.le_add_left 1 last)]
  · rw [normalize_categorical, count, Nat.add_sub_cancel]
    exact Colormap.band_eq member low high

theorem categorical_value (bar : Colorbar Rat) (count : labels.length = last + 1)
    (member : i < last + 1) : (bar.categorical labels).InBand (last + 1) i i := by
  obtain ⟨low, high⟩ := value_share member
  have below : (i : Rat) ≤ last := by exact_mod_cast Nat.le_of_lt_succ member
  exact categorical_inBand bar count member (Nat.cast_nonneg i) below low high

theorem categorical_tick (bar : Colorbar Rat) (count : labels.length = last + 1)
    (member : i < last + 1) :
    (bar.categorical labels).InBand (last + 1) i (tickPosition last i) := by
  obtain ⟨low, high⟩ := tick_share member
  obtain ⟨above, below⟩ := tick_inside member
  exact categorical_inBand bar count member above below low (.inl high)

theorem categorical_ticks (bar : Colorbar Rat) (count : labels.length = last + 1) :
    (bar.categorical labels).ticks =
      some (labels.mapIdx fun i label => (tickPosition last i, label)) := by
  unfold categorical
  dsimp only
  rw [count, Nat.add_sub_cancel, Nat.max_eq_left (Nat.le_add_left 1 last)]
  rfl

-- Different bands have different places on the gradient.
theorem position_eq_iff (bar : Colorbar Rat) (count : labels.length = last + 1)
    (first : i < last + 1) (second : j < last + 1) :
    (bar.categorical labels).gradientPosition i = (bar.categorical labels).gradientPosition j ↔
      i = j := by
  rw [(categorical_value bar count first).position (Nat.succ_pos last),
    (categorical_value bar count second).position (Nat.succ_pos last), Nat.add_sub_cancel]
  rcases Nat.eq_zero_or_pos last with single | several
  · have same : i = j := by omega
    simp [same]
  · have apart : (last : Rat) ≠ 0 := by exact_mod_cast Nat.ne_of_gt several
    rw [div_left_inj' apart, Nat.cast_inj]

end

end Colorbar

def textCell (labels : List String) (text : String) : Binary64 := .ofNat (labels.idxOf text)

theorem RecordData.axisValues_text {data : RecordData} (text : data.isText = true) :
    data.axisValues = ⟨data.texts.map (textCell (Setpoint.distinctTexts data.texts)),
      some (Setpoint.distinctTexts data.texts)⟩ := by
  cases data with
  | text => rfl
  | numeric => cases text
  | complex => cases text

theorem Triple.drawn_values {t : Triple} {layer : Layer Binary64} {options : ColorOptions}
    {settings : Settings} (done : t.drawn options settings = .ok layer) {v : Binary64}
    (member : v ∈ layer.colorValues) : v = .nan ∨ v ∈ t.z.data.axisValues.values := by
  rcases drawn_cases done with ⟨m, rasterized, laid, rfl⟩ | ⟨-, rasterized, rfl⟩
  · exact meshData_cells laid v member
  · exact .inr (MeshData.mem_values_of_points member)

-- How the cells of a column of text, the ticks of its colorbar and the colormap go together.
structure Banded (texts : List String) (drawn : List Binary64) (labels : List String)
    (bar : Colorbar Binary64) (exact : Colorbar Rat) : Prop where
  distinct : labels.Nodup
  listed : ∀ text, text ∈ labels ↔ text ∈ texts
  -- The limits and the colormap are those of the colorbar itself.
  low : exact.vmin = bar.vmin.value
  high : exact.vmax = bar.vmax.value
  colormap : exact.colormap = bar.colormap
  -- What is drawn are the texts, and the mark of what was not measured.
  cells : ∀ v ∈ drawn, v = .nan ∨ ∃ text ∈ texts, v = textCell labels text
  value : ∀ (i : Nat) text, labels[i]? = some text → (textCell labels text).value = i ∧
    exact.InBand labels.length i (textCell labels text).value
  ticks : ∃ ticks, exact.ticks = some ticks ∧ ticks.map Prod.snd = labels ∧
    ∀ (i : Nat) tick text, ticks[i]? = some (tick, text) → exact.InBand labels.length i tick ∧
      exact.colorFor tick = exact.colorFor (textCell labels text).value
  position : ∀ text ∈ texts, ∀ other ∈ texts,
    exact.gradientPosition (textCell labels text).value =
      exact.gradientPosition (textCell labels other).value ↔ text = other

namespace Colorbar
variable {texts labels : List String} {drawn : List Binary64} {last : Nat}

theorem textCell_value {text : String} (few : labels.length < 2 ^ 53) (listed : text ∈ labels) :
    (textCell labels text).value = (labels.idxOf text : Nat) :=
  Binary64.value_ofNat (Nat.lt_trans (List.idxOf_lt_length_of_mem listed) few)

theorem categorical_banded (before : Colorbar Binary64) (distinct : labels.Nodup)
    (listed : ∀ text, text ∈ labels ↔ text ∈ texts) (nonempty : labels ≠ [])
    (few : labels.length < 2 ^ 53)
    (cells : ∀ v ∈ drawn, v = .nan ∨ ∃ text ∈ texts, v = textCell labels text) :
    Banded texts drawn labels (before.categorical labels) (before.exact.categorical labels) := by
  obtain ⟨last, count⟩ := Nat.exists_eq_succ_of_ne_zero (mt List.length_eq_zero_iff.mp nonempty)
  have value : ∀ (i : Nat) text, labels[i]? = some text → (textCell labels text).value = i ∧
      (before.exact.categorical labels).InBand (last + 1) i (textCell labels text).value := by
    intro i text found
    obtain ⟨inside, rfl⟩ := List.getElem?_eq_some_iff.mp found
    rw [textCell_value few (List.getElem_mem inside), distinct.idxOf_getElem i inside]
    rw [count] at inside
    exact ⟨rfl, categorical_value before.exact count inside⟩
  refine ⟨distinct, listed, ?_, ?_, rfl, cells, ?_, ?_, ?_⟩
  · have zero : (0.0 : Binary64) = .ofNat 0 := by decide
    change (0.0 : Rat) = (0.0 : Binary64).value
    rw [zero, Binary64.value_ofNat (by decide)]
    norm_num
  · exact (Binary64.value_ofNat (by omega)).symm
  · rw [count]
    exact value
  · refine ⟨_, categorical_ticks before.exact count, map_snd_mapIdx _ labels, ?_⟩
    intro i tick text found
    rw [List.getElem?_mapIdx] at found
    obtain ⟨label, listed, same⟩ := Option.map_eq_some_iff.mp found
    have inside := (List.getElem?_eq_some_iff.mp listed).1
    cases same
    rw [count] at inside ⊢
    have band := categorical_tick before.exact count inside
    exact ⟨band, band.colorFor_eq (Nat.succ_pos last) (value i _ listed).2⟩
  · intro text member other otherMember
    have listedText := (listed text).mpr member
    have listedOther := (listed other).mpr otherMember
    have insideText := List.idxOf_lt_length_of_mem listedText
    have insideOther := List.idxOf_lt_length_of_mem listedOther
    rw [count] at insideText insideOther
    rw [textCell_value few listedText, textCell_value few listedOther,
      position_eq_iff before.exact count insideText insideOther]
    exact List.idxOf_inj listedText

end Colorbar

namespace Canvas
variable {canvas drawn : Canvas} {t : Triple} {reused : Option (Colorbar Binary64)}
  {options : ColorOptions} {settings : Settings} {type : PlotType} {bar : Colorbar Binary64}

-- What is drawn of a column of text, and its colorbar, whatever colorbar was handed in.
theorem plotColors_bands (text : t.z.data.isText = true) (sampled : t.z.data.texts ≠ [])
    (few : (Setpoint.distinctTexts t.z.data.texts).length < 2 ^ 53)
    (done : canvas.plotColors t reused options settings = .ok (type, drawn, bar)) :
    ∃ layer labels, ∃ before : Colorbar Binary64, drawn.layers = canvas.layers ++ [layer] ∧
      bar = before.categorical labels ∧
      t.z.data.axisValues.values = t.z.data.texts.map (textCell labels) ∧
      Banded t.z.data.texts layer.colorValues labels bar (before.exact.categorical labels) := by
  obtain ⟨layer, made, -⟩ := t.drawn_ok options settings
  have values := RecordData.axisValues_text text
  rw [plotColors_eq made] at done
  obtain ⟨start, -, same⟩ := Outcome.map_eq_ok.mp done
  rw [values] at same
  cases same
  have listed : ∀ text, text ∈ Setpoint.distinctTexts t.z.data.texts ↔ text ∈ t.z.data.texts :=
    fun _ => Setpoint.mem_distinctTexts
  refine ⟨layer, Setpoint.distinctTexts t.z.data.texts, start.autoscale layer.colorValues, rfl, rfl,
    congrArg AxisValues.values values, ?_⟩
  apply Colorbar.categorical_banded _ (Setpoint.distinctTexts_nodup _) listed _ few
  · intro v member
    rcases Triple.drawn_values made member with unmeasured | shown
    · exact .inl unmeasured
    · rw [values] at shown
      obtain ⟨text, sample, same⟩ := List.mem_map.mp shown
      exact .inr ⟨text, sample, same.symm⟩
  · intro empty
    obtain ⟨text, sample⟩ := List.exists_mem_of_ne_nil _ sampled
    have category := (listed text).mpr sample
    rw [empty] at category
    cases category

def switched : Triple where
  x := ⟨"x", "", "", .numeric (.ofList [0, 1, 2]), none⟩
  y := ⟨"y", "", "", .numeric (.ofList [0, 0, 1]), none⟩
  z := ⟨"switch", "", "", .text (.ofList ["on", "off", "on"]), none⟩

theorem plotColors_bands_switched : switched.z.data.isText = true ∧ switched.z.data.texts ≠ [] ∧
    (Setpoint.distinctTexts switched.z.data.texts).length < 2 ^ 53 ∧
    ∃ type drawn bar, (blank (400, 300)).plotColors switched none {} {} = .ok (type, drawn, bar) ∧
      ∃ layer labels, ∃ before : Colorbar Binary64, drawn.layers = [layer] ∧
        bar = before.categorical labels ∧
        switched.z.data.axisValues.values = ["on", "off", "on"].map (textCell labels) ∧
        Banded ["on", "off", "on"] layer.colorValues labels bar (before.exact.categorical labels) := by
  have sampled : switched.z.data.texts ≠ [] := List.cons_ne_nil _ _
  have few : (Setpoint.distinctTexts switched.z.data.texts).length < 2 ^ 53 :=
    Nat.lt_of_le_of_lt (Setpoint.length_distinctTexts_le _) (by decide)
  obtain ⟨layer, made, -⟩ := switched.drawn_ok {} {}
  have plotted := @plotColors_eq (blank (400, 300)) _ _ _ _ made none
  exact ⟨rfl, sampled, few, _, _, _, plotted, plotColors_bands rfl sampled few plotted⟩

end Canvas

end Labbook
