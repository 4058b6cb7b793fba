import Labbook.Proofs.Color.ExactScale
import Labbook.Proofs.Number.Extremes
import Labbook.Proofs.Number.WholeWord
import Mathlib.Order.Bounds.Basic
import Mathlib.Order.Interval.Set.Defs

namespace Labbook

namespace Colorbar

section
variable {bar : Colorbar Rat}

structure SpansColormap (bar : Colorbar Rat) (low high : Rat) : Prop where
  first : bar.colorFor low = some (bar.colormap.eval (0 : Rat))
  last : bar.colorFor high = some (bar.colormap.eval (1 : Rat))
  start : bar.normalize low = 0
  stop : bar.normalize high = 1
  grows : StrictMonoOn bar.normalize (Set.Icc low high)

theorem spansColormap (ordered : bar.vmin < bar.vmax) (wide : leastSpan ≤ bar.vmax - bar.vmin) :
    bar.SpansColormap bar.vmin bar.vmax := by
  have span : 0 < bar.vmax - bar.vmin := sub_pos.mpr ordered
  have share (v : Rat) : bar.normalize v = (v - bar.vmin) / (bar.vmax - bar.vmin) := by
    rw [normalize_eq, abs_of_pos span, if_neg (not_lt.mpr wide)]
  have start : bar.normalize bar.vmin = 0 := by rw [share, sub_self, zero_div]
  have stop : bar.normalize bar.vmax = 1 := by rw [share, div_self span.ne']
  refine { first := ?_, last := ?_, start, stop, grows := fun v _ w _ less => ?_ }
  · rw [colorFor_inside le_rfl ordered.le, start]
  · rw [colorFor_inside ordered.le le_rfl, stop]
  · rw [share, share]
    exact div_lt_div_of_pos_right (sub_lt_sub_right less _) span

theorem normalize_narrow (ordered : bar.vmin < bar.vmax) (narrow : bar.vmax - bar.vmin < leastSpan)
    (v : Rat) : bar.normalize v = 0 := by
  rw [normalize_eq, abs_of_pos (sub_pos.mpr ordered), if_pos narrow]

theorem spansColormap_iff (ordered : bar.vmin < bar.vmax) :
    bar.SpansColormap bar.vmin bar.vmax ↔ leastSpan ≤ bar.vmax - bar.vmin := by
  refine ⟨fun spans => not_lt.mp fun narrow => ?_, spansColormap ordered⟩
  have stop := spans.stop
  rw [normalize_narrow ordered narrow] at stop
  exact zero_ne_one stop

end

section
variable {values : List Binary64} {v w : Binary64}

def finiteValues (values : List Binary64) : Set Rat :=
  {q | ∃ v ∈ values, v.isFinite = true ∧ v.value = q}

theorem autoscale_ends (bar : Colorbar Binary64) (some_finite : ∃ v ∈ values, v.isFinite = true) :
    IsLeast (finiteValues values) (bar.autoscale values).exact.vmin ∧
      IsGreatest (finiteValues values) (bar.autoscale values).exact.vmax := by
  have kept (w : Binary64) :
      w ∈ values.filter Scalar.isFinite ↔ w ∈ values ∧ w.isFinite = true := List.mem_filter
  obtain ⟨v, listed, finite⟩ := some_finite
  unfold autoscale
  cases found : values.filter Scalar.isFinite with
  | nil =>
    have member := (kept v).mpr ⟨listed, finite⟩
    rw [found] at member
    cases member
  | cons first rest =>
    rw [found] at kept
    have measured : ∀ w ∈ first :: rest, w.isNaN = false := fun w member =>
      Binary64.not_isNaN_of_isFinite ((kept w).mp member).2
    obtain ⟨least, above⟩ := Binary64.foldl_lesser measured
    obtain ⟨most, below⟩ := Binary64.foldl_greater measured
    have leastKept := (kept _).mp least
    have mostKept := (kept _).mp most
    refine ⟨⟨⟨_, leastKept.1, leastKept.2, rfl⟩, ?_⟩, ⟨⟨_, mostKept.1, mostKept.2, rfl⟩, ?_⟩⟩
    · rintro q ⟨w, listed, finite, rfl⟩
      exact above w ((kept w).mpr ⟨listed, finite⟩)
    · rintro q ⟨w, listed, finite, rfl⟩
      exact below w ((kept w).mpr ⟨listed, finite⟩)

theorem autoscale_ordered (bar : Colorbar Binary64) (listedV : v ∈ values) (listedW : w ∈ values)
    (finiteV : v.isFinite = true) (finiteW : w.isFinite = true) (apart : v.value ≠ w.value) :
    (bar.autoscale values).exact.vmin < (bar.autoscale values).exact.vmax := by
  obtain ⟨least, most⟩ := autoscale_ends bar ⟨v, listedV, finiteV⟩
  have memberV : v.value ∈ finiteValues values := ⟨v, listedV, finiteV, rfl⟩
  have memberW : w.value ∈ finiteValues values := ⟨w, listedW, finiteW, rfl⟩
  rcases lt_or_gt_of_ne apart with less | more
  · exact (least.2 memberV).trans_lt (less.trans_le (most.2 memberW))
  · exact (least.2 memberW).trans_lt (more.trans_le (most.2 memberV))

-- Autoscaling spreads the colormap over the finite values, from the smallest to the largest, but where
-- these are nearer than the span that counts as closed.
theorem autoscale_spansColormap_iff (bar : Colorbar Binary64) (listedV : v ∈ values)
    (listedW : w ∈ values) (finiteV : v.isFinite = true) (finiteW : w.isFinite = true)
    (apart : v.value ≠ w.value) :
    ∃ low high, IsLeast (finiteValues values) low ∧ IsGreatest (finiteValues values) high ∧
      low < high ∧
      ((bar.autoscale values).exact.SpansColormap low high ↔ leastSpan ≤ high - low) ∧
      (high - low < leastSpan → ∀ q, low ≤ q → q ≤ high →
        (bar.autoscale values).exact.colorFor q =
          some ((bar.autoscale values).exact.colormap.eval (0 : Rat))) := by
  obtain ⟨least, most⟩ := autoscale_ends bar ⟨v, listedV, finiteV⟩
  have ordered := autoscale_ordered bar listedV listedW finiteV finiteW apart
  refine ⟨_, _, least, most, ordered, spansColormap_iff ordered, fun narrow q above below => ?_⟩
  rw [colorFor_inside above below, normalize_narrow ordered narrow]

def unitScale : Colorbar Binary64 where
  vmin := 0
  vmax := 1
  colormap := ⟨"inferno", .ofCodes Palette.inferno, none⟩

def volts : List Binary64 := [3, .nan, 1, .infinity]

theorem autoscale_spansColormap_volts : ∃ low high, IsLeast (finiteValues volts) low ∧
    IsGreatest (finiteValues volts) high ∧ low < high ∧
    (unitScale.autoscale volts).exact.SpansColormap low high := by
  have one : (Binary64.ofNat 1).value = 1 := Binary64.value_ofNat (by decide)
  have three : (Binary64.ofNat 3).value = 3 := Binary64.value_ofNat (by decide)
  have apart : (Binary64.ofNat 3).value ≠ (Binary64.ofNat 1).value := by norm_num [one, three]
  have listed : Binary64.ofNat 3 ∈ volts ∧ Binary64.ofNat 1 ∈ volts := by decide
  obtain ⟨low, high, least, most, ordered, spans, -⟩ :=
    autoscale_spansColormap_iff unitScale listed.1 listed.2 (by decide) (by decide) apart
  refine ⟨low, high, least, most, ordered, spans.mpr ?_⟩
  have below : low ≤ 1 := least.2 ⟨.ofNat 1, by decide, by decide, one⟩
  have above : 3 ≤ high := most.2 ⟨.ofNat 3, by decide, by decide, three⟩
  have small : leastSpan ≤ 1 := by norm_num [leastSpan]
  linarith

-- The same in units so small that the values are `2 ^ -60` and `2 ^ -59`: both have the first colour.
theorem autoscale_closed :
    let scale := (unitScale.autoscale [⟨0x3C30000000000000⟩, ⟨0x3C40000000000000⟩]).exact
    scale.vmin = 1 / 2 ^ 60 ∧ scale.vmax = 1 / 2 ^ 59 ∧
      scale.colorFor (1 / 2 ^ 60) = some (scale.colormap.eval (0 : Rat)) ∧
      scale.colorFor (1 / 2 ^ 59) = some (scale.colormap.eval (0 : Rat)) ∧
      ¬scale.SpansColormap (1 / 2 ^ 60) (1 / 2 ^ 59) := by
  intro scale
  have low : scale.vmin = 1 / 2 ^ 60 := by decide +kernel
  have high : scale.vmax = 1 / 2 ^ 59 := by decide +kernel
  have start : scale.normalize (1 / 2 ^ 60) = 0 := by decide +kernel
  have stop : scale.normalize (1 / 2 ^ 59) = 0 := by decide +kernel
  refine ⟨low, high, ?_, ?_, fun spans => ?_⟩
  · rw [colorFor_inside (by rw [low]) (by rw [high]; norm_num), start]
  · rw [colorFor_inside (by rw [low]; norm_num) (by rw [high]), stop]
  · have last := spans.stop
    rw [stop] at last
    exact zero_ne_one last

end

end Colorbar

end Labbook
