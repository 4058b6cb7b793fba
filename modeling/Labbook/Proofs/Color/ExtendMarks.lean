import Labbook.Analysis.ColorScale
import Labbook.Proofs.Number.WordKinds
import Mathlib.Data.List.GetD

namespace Labbook

namespace Spread
variable {values sorted : List Binary64} {v x first : Binary64} {k : Nat}

theorem mem_ranked_iff : v ∈ ranked values ↔ v ∈ values ∧ v.isNaN = false := by
  unfold ranked
  rw [(List.mergeSort_perm _ _).mem_iff, List.mem_filter, Bool.not_eq_true']
  rfl

theorem ranked_pairwise (values : List Binary64) :
    (ranked values).Pairwise fun a b => a.precedes b = true :=
  List.pairwise_mergeSort Binary64.precedes_trans Binary64.precedes_total _

theorem value_le_of_precedes {a b : Binary64} (measuredA : a.isNaN = false) (measuredB : b.isNaN = false)
    (ordered : a.precedes b = true) : a.value ≤ b.value := by
  refine Binary64.value_le measuredB measuredA fun less => ?_
  have above := (Binary64.lt_iff.mp less).2.2
  have below := Binary64.valueIndex_mono ordered
  omega

section
variable {p : Binary64}

-- At a whole rank nothing is left to interpolate.
theorem atPercent_whole (few : k < 2 ^ 53)
    (rank : Scalar.clamp p 0.0 100.0 / 100.0 * Scalar.ofNat (sorted.length - 1) = Binary64.ofNat k) :
    atPercent first sorted p = sorted.getD k first +
      (sorted.getD k first - sorted.getD k first) * (Binary64.ofNat k - Binary64.ofNat k) := by
  unfold atPercent
  dsimp only
  rw [rank, Binary64.floorNat_ofNat few, Binary64.ceilNat_ofNat few]
  rfl

-- What a percentile at a whole rank comes to: the value there, but a NaN where it is an infinity.
theorem percentile_place (there : (ranked values)[k]? = some x) (few : k < 2 ^ 53)
    (rank : Scalar.clamp p 0.0 100.0 / 100.0 * Scalar.ofNat ((ranked values).length - 1) =
      Binary64.ofNat k) :
    ∃ r, percentile values p = some r ∧
      (x.isFinite = true → r.isFinite = true ∧ r.value = x.value) ∧
      (x.isInfinite = true → r = .nan) := by
  have weight := (Binary64.sub_self_finite (Binary64.isFinite_ofNat few)).zero_exact.1
  unfold percentile
  cases found : ranked values with
  | nil =>
    rw [found] at there
    cases there
  | cons first rest =>
    rw [found] at there rank
    refine ⟨_, rfl, ?_⟩
    rw [atPercent_whole few rank, List.getD_eq_getElem?_getD, there, Option.getD_some]
    exact ⟨fun finite => Binary64.between_same finite weight, Binary64.between_infinite⟩

end

-- A value that none of the others lies beyond in the direction `d`.
structure Extreme (d : Rat) (values : List Binary64) (x : Binary64) : Prop where
  listed : x ∈ values
  measured : x.isNaN = false
  furthest : ∀ v ∈ values, v.isNaN = false → d * v.value ≤ d * x.value

theorem ranked_value_le {i j : Nat} {a b : Binary64} (before : i ≤ j)
    (there : (ranked values)[i]? = some a) (after : (ranked values)[j]? = some b) :
    a.value ≤ b.value := by
  obtain ⟨insideA, rfl⟩ := List.getElem?_eq_some_iff.mp there
  obtain ⟨insideB, rfl⟩ := List.getElem?_eq_some_iff.mp after
  have measured {n : Nat} (inside : n < (ranked values).length) : (ranked values)[n].isNaN = false :=
    (mem_ranked_iff.mp (List.getElem_mem inside)).2
  rcases Nat.eq_or_lt_of_le before with rfl | less
  · exact le_rfl
  · exact value_le_of_precedes (measured insideA) (measured insideB)
      (List.pairwise_iff_getElem.mp (ranked_pairwise values) i j insideA insideB less)

theorem extreme_last (there : (ranked values)[(ranked values).length - 1]? = some x) :
    Extreme 1 values x := by
  obtain ⟨listed, measured⟩ := mem_ranked_iff.mp (List.mem_of_getElem? there)
  refine ⟨listed, measured, fun v other measuredV => ?_⟩
  obtain ⟨i, at_⟩ := List.mem_iff_getElem?.mp (mem_ranked_iff.mpr ⟨other, measuredV⟩)
  have inside := (List.getElem?_eq_some_iff.mp at_).1
  rw [one_mul, one_mul]
  exact ranked_value_le (by omega) at_ there

theorem extreme_first (there : (ranked values)[0]? = some x) : Extreme (-1) values x := by
  obtain ⟨listed, measured⟩ := mem_ranked_iff.mp (List.mem_of_getElem? there)
  refine ⟨listed, measured, fun v other measuredV => ?_⟩
  obtain ⟨i, at_⟩ := List.mem_iff_getElem?.mp (mem_ranked_iff.mpr ⟨other, measuredV⟩)
  have least := ranked_value_le (Nat.zero_le i) there at_
  linarith

-- The furthest value counts where it is finite, so an infinity hides the others.
theorem Extreme.beyond_iff {d : Rat} {c : Binary64} (extreme : Extreme d values x) (unit : |d| = 1)
    (finite : c.isFinite = true) : x.isFinite = true ∧ d * c.value < d * x.value ↔
      (∃ v ∈ values, v.isNaN = false ∧ d * c.value < d * v.value) ∧
        ∀ v ∈ values, v.isInfinite = true → d * v.value ≤ 0 := by
  have inside {v : Binary64} (finite : v.isFinite = true) : |d * v.value| < Binary64.limit := by
    rw [abs_mul, unit, one_mul]
    exact Binary64.abs_value_lt finite
  have outside {v : Binary64} (kind : v.isInfinite = true) : |d * v.value| = Binary64.limit := by
    rw [abs_mul, unit, one_mul]
    exact Binary64.abs_value_infinite kind
  constructor
  · rintro ⟨finiteX, beyond⟩
    refine ⟨⟨x, extreme.listed, extreme.measured, beyond⟩, fun v listed kind => ?_⟩
    have measured := Binary64.not_isNaN_of_isInfinite kind
    have bound := extreme.furthest v listed measured
    have below := (abs_lt.mp (inside finiteX)).2
    by_contra positive
    rw [not_le] at positive
    have size := outside kind
    rw [abs_of_pos positive] at size
    linarith
  · rintro ⟨⟨v, listed, measured, beyond⟩, behind⟩
    have further := beyond.trans_le (extreme.furthest v listed measured)
    refine ⟨?_, further⟩
    rcases Binary64.kind_cases extreme.measured with finiteX | infinite
    · exact finiteX
    · have size := outside infinite
      rw [abs_of_nonpos (behind x extreme.listed infinite)] at size
      have above := (abs_lt.mp (inside finite)).1
      linarith

theorem ranked_length_le (few : values.length ≤ 2 ^ 53) : (ranked values).length ≤ 2 ^ 53 := by
  unfold ranked
  rw [List.length_mergeSort]
  exact (List.length_filter_le _ _).trans few

-- A percentile that falls on the furthest value lies beyond a limit where a value does, but for infinities.
theorem percentile_beyond_iff {d : Rat} {c p : Binary64} (unit : |d| = 1) (finite : c.isFinite = true)
    (few : k < 2 ^ 53)
    (rank : Scalar.clamp p 0.0 100.0 / 100.0 * Scalar.ofNat ((ranked values).length - 1) =
      Binary64.ofNat k)
    (ends : ranked values ≠ [] → ∃ x, (ranked values)[k]? = some x ∧ Extreme d values x) :
    ((percentile values p).getD c).isNaN = false ∧
        d * c.value < d * ((percentile values p).getD c).value ↔
      (∃ v ∈ values, v.isNaN = false ∧ d * c.value < d * v.value) ∧
        ∀ v ∈ values, v.isInfinite = true → d * v.value ≤ 0 := by
  by_cases empty : ranked values = []
  · have missing : percentile values p = none := by rw [percentile, empty]
    rw [missing, Option.getD_none]
    refine iff_of_false (fun beyond => lt_irrefl _ beyond.2) fun beyond => ?_
    obtain ⟨v, listed, measured, -⟩ := beyond.1
    have member := mem_ranked_iff.mpr ⟨listed, measured⟩
    rw [empty] at member
    cases member
  · obtain ⟨x, there, extreme⟩ := ends empty
    obtain ⟨r, result, same, hidden⟩ := percentile_place there few rank
    rw [result, Option.getD_some, ← extreme.beyond_iff unit finite]
    rcases Binary64.kind_cases extreme.measured with finiteX | infinite
    · obtain ⟨finiteR, value⟩ := same finiteX
      rw [value, Binary64.not_isNaN_of_isFinite finiteR]
      exact and_congr_left fun _ => iff_of_true rfl finiteX
    · rw [hidden infinite]
      refine iff_of_false (fun beyond => ?_) fun beyond => ?_
      · cases beyond.1
      · rw [Binary64.not_isInfinite_of_isFinite beyond.1] at infinite
        cases infinite

theorem infinity_hides (values : List Binary64) :
    (∀ v ∈ values, v.isInfinite = true → 1 * v.value ≤ 0) ↔ Binary64.infinity ∉ values := by
  have positive := Binary64.limit_pos
  constructor
  · intro behind listed
    have bound := behind _ listed (by decide)
    rw [Binary64.value_infinity] at bound
    linarith
  · intro missing v listed kind
    rcases Binary64.infinite_cases kind with rfl | rfl
    · exact absurd listed missing
    · rw [Binary64.value_neg_infinity]
      linarith

theorem negative_infinity_hides (values : List Binary64) :
    (∀ v ∈ values, v.isInfinite = true → -1 * v.value ≤ 0) ↔ -Binary64.infinity ∉ values := by
  have positive := Binary64.limit_pos
  constructor
  · intro behind listed
    have bound := behind _ listed (by decide)
    rw [Binary64.value_neg_infinity] at bound
    linarith
  · intro missing v listed kind
    rcases Binary64.infinite_cases kind with rfl | rfl
    · rw [Binary64.value_infinity]
      linarith
    · exact absurd listed missing

section
variable {c : Binary64} (finite : c.isFinite = true) (few : values.length ≤ 2 ^ 53)
include finite few

theorem lt_top_iff : c < (percentile values 100.0).getD c ↔
    (∃ v ∈ values, c < v) ∧ Binary64.infinity ∉ values := by
  have whole : Scalar.clamp (100.0 : Binary64) 0.0 100.0 / 100.0 = 1 := by decide +kernel
  have length := ranked_length_le few
  have places : (ranked values).length - 1 < 2 ^ 53 := by omega
  have measured := Binary64.not_isNaN_of_isFinite finite
  have above (v : Binary64) : v.isNaN = false ∧ 1 * c.value < 1 * v.value ↔ c < v := by
    rw [one_mul, one_mul]
    exact ⟨fun beyond => (Binary64.lt_iff_value measured beyond.1).mpr beyond.2, fun less =>
      ⟨(Binary64.lt_iff.mp less).2.1, Binary64.value_lt less⟩⟩
  have top := percentile_beyond_iff (d := 1) (p := 100.0) abs_one finite places
    (whole ▸ Binary64.one_mul_ofNat places) fun nonempty => by
      have inside : (ranked values).length - 1 < (ranked values).length :=
        Nat.sub_one_lt (List.length_eq_zero_iff.not.mpr nonempty)
      have there := List.getElem?_eq_getElem inside
      exact ⟨_, there, extreme_last there⟩
  simp only [above, infinity_hides] at top
  exact top

theorem bottom_lt_iff : (percentile values 0.0).getD c < c ↔
    (∃ v ∈ values, v < c) ∧ -Binary64.infinity ∉ values := by
  have zero : Scalar.clamp (0.0 : Binary64) 0.0 100.0 / 100.0 = 0 := by decide +kernel
  have length := ranked_length_le few
  have places : (ranked values).length - 1 < 2 ^ 53 := by omega
  have measured := Binary64.not_isNaN_of_isFinite finite
  have below (v : Binary64) : v.isNaN = false ∧ -1 * c.value < -1 * v.value ↔ v < c := by
    rw [neg_one_mul, neg_one_mul, neg_lt_neg_iff]
    exact ⟨fun beyond => (Binary64.lt_iff_value beyond.1 measured).mpr beyond.2, fun less =>
      ⟨(Binary64.lt_iff.mp less).1, Binary64.value_lt less⟩⟩
  have bottom := percentile_beyond_iff (d := -1) (p := 0.0) (k := 0) (by simp) finite (by decide)
    (zero ▸ Binary64.zero_mul_ofNat places) fun nonempty => by
      have there := List.getElem?_eq_getElem (List.length_pos_iff.mpr nonempty)
      exact ⟨_, there, extreme_first there⟩
  simp only [below, negative_infinity_hides] at bottom
  exact bottom

end

end Spread

namespace Colorbar
variable {a b v : Binary64} {values : List Binary64} {above below : Rgb}

structure ShowsBeyond (bar : Colorbar Binary64) (values : List Binary64) (above below : Rgb) : Prop where
  marksMax : bar.extend.marksMax = true ↔ (∃ v ∈ values, bar.vmax < v) ∧ Binary64.infinity ∉ values
  marksMin : bar.extend.marksMin = true ↔ (∃ v ∈ values, v < bar.vmin) ∧ -Binary64.infinity ∉ values
  colorAbove : ∀ v, bar.vmax < v → bar.colorFor v = some above
  colorBelow : ∀ v, v < bar.vmin → bar.colorFor v = some below

theorem ofEnds_marks (low high : Bool) :
    (Extend.ofEnds low high).marksMax = high ∧ (Extend.ofEnds low high).marksMin = low := by
  cases low <;> cases high <;> exact ⟨rfl, rfl⟩

theorem colorFor_above {bar : Colorbar Binary64} (above : bar.vmax < v) :
    bar.colorFor v = some bar.overColor := by
  unfold colorFor
  rw [if_neg (show ¬Scalar.isNaN v = true from Bool.eq_false_iff.mp (Binary64.lt_iff.mp above).2.1),
    if_pos above]

theorem colorFor_below {bar : Colorbar Binary64} (ordered : ¬bar.vmax < bar.vmin) (below : v < bar.vmin) :
    bar.colorFor v = some bar.underColor := by
  have inside : ¬bar.vmax < v := fun above => ordered (Binary64.lt_trans above below)
  unfold colorFor
  rw [if_neg (show ¬Scalar.isNaN v = true from Bool.eq_false_iff.mp (Binary64.lt_iff.mp below).1),
    if_neg inside, if_pos below]

def limited (bar : Colorbar Binary64) (low high : Binary64) (values : List Binary64)
    (above below : Rgb) : Colorbar Binary64 :=
  { bar with
    extend := Extend.ofEnds ((Spread.percentile values 0.0).getD low < low)
      (high < (Spread.percentile values 100.0).getD high)
    colorOver := some above
    colorUnder := some below
    vmin := low
    vmax := high }

theorem limited_showsBeyond (bar : Colorbar Binary64) (finiteA : a.isFinite = true)
    (finiteB : b.isFinite = true) (few : values.length ≤ 2 ^ 53) (ordered : ¬b < a) :
    (bar.limited a b values above below).ShowsBeyond values above below := by
  obtain ⟨max, min⟩ := ofEnds_marks (decide ((Spread.percentile values 0.0).getD a < a))
    (decide (b < (Spread.percentile values 100.0).getD b))
  refine ⟨?_, ?_, fun v => colorFor_above, fun v => colorFor_below ordered⟩
  · exact ((Bool.eq_iff_iff.mp max).trans decide_eq_true_iff).trans (Spread.lt_top_iff finiteB few)
  · exact ((Bool.eq_iff_iff.mp min).trans decide_eq_true_iff).trans (Spread.bottom_lt_iff finiteA few)

theorem withLimits_eq (bar : Colorbar Binary64) (a b : Binary64) (values : List Binary64)
    (above below : Rgb) : bar.withLimits a b values above below =
      if a ≤ b then bar.limited a b values above below else bar.limited b a values above below := by
  unfold withLimits
  by_cases ordered : a ≤ b
  · rw [if_pos ordered, if_pos ordered]
    rfl
  · rw [if_neg ordered, if_neg ordered]
    rfl

-- Finite limits in any order tell the truth about what lies beyond them, but an infinity beyond one of them
-- hides that from its mark.
theorem withLimits_showsBeyond (bar : Colorbar Binary64) (finiteA : a.isFinite = true)
    (finiteB : b.isFinite = true) (few : values.length ≤ 2 ^ 53) (above below : Rgb) :
    [(bar.withLimits a b values above below).vmin, (bar.withLimits a b values above below).vmax].Perm
        [a, b] ∧
      (bar.withLimits a b values above below).vmin ≤ (bar.withLimits a b values above below).vmax ∧
      (bar.withLimits a b values above below).ShowsBeyond values above below := by
  have measuredA := Binary64.not_isNaN_of_isFinite finiteA
  have measuredB := Binary64.not_isNaN_of_isFinite finiteB
  rw [withLimits_eq]
  by_cases ordered : a ≤ b
  · have apart := (Binary64.le_iff_not_lt measuredA measuredB).mp ordered
    rw [if_pos ordered]
    exact ⟨.refl _, ordered, limited_showsBeyond bar finiteA finiteB few apart⟩
  · have crossed : b < a := not_not.mp (mt (Binary64.le_iff_not_lt measuredA measuredB).mpr ordered)
    have apart : ¬a < b := fun less => Std.Irrefl.irrefl a (Binary64.lt_trans less crossed)
    rw [if_neg ordered]
    exact ⟨.swap _ _ _, (Binary64.le_iff_not_lt measuredB measuredA).mpr apart,
      limited_showsBeyond bar finiteB finiteA few apart⟩

def sampleScale (values : List Binary64) : Colorbar Binary64 :=
  Colorbar.withLimits { vmin := 0, vmax := 1, colormap := ⟨"inferno", .ofCodes Palette.inferno, none⟩ }
    8 2 values ⟨255, 0, 0⟩ ⟨0, 0, 255⟩

theorem withLimits_showsBeyond_sample : [(sampleScale [0, 5, 10]).vmin, (sampleScale [0, 5, 10]).vmax].Perm
      [8, 2] ∧ (sampleScale [0, 5, 10]).vmin ≤ (sampleScale [0, 5, 10]).vmax ∧
    (sampleScale [0, 5, 10]).ShowsBeyond [0, 5, 10] ⟨255, 0, 0⟩ ⟨0, 0, 255⟩ ∧
      (sampleScale [0, 5, 10]).extend.marksMax = true ∧
      (sampleScale [0, 5, 10]).extend.marksMin = true := by
  have few : ([0, 5, 10] : List Binary64).length ≤ 2 ^ 53 := by decide
  obtain ⟨limits, ordered, shows⟩ := withLimits_showsBeyond (a := 8) (b := 2)
    { vmin := 0, vmax := 1, colormap := ⟨"inferno", .ofCodes Palette.inferno, none⟩ }
    (by decide) (by decide) few ⟨255, 0, 0⟩ ⟨0, 0, 255⟩
  exact ⟨limits, ordered, shows, shows.marksMax.mpr ⟨⟨10, by decide, by decide⟩, by decide⟩,
    shows.marksMin.mpr ⟨⟨0, by decide, by decide⟩, by decide⟩⟩

-- An infinity has the colour of what lies above the scale, and the scale has no mark there.
theorem withLimits_unmarked : (sampleScale [5, .infinity]).vmax < .infinity ∧
    (sampleScale [5, .infinity]).extend.marksMax = false ∧
    (sampleScale [5, .infinity]).colorFor .infinity = some ⟨255, 0, 0⟩ := by
  have shows : (sampleScale [5, .infinity]).ShowsBeyond [5, .infinity] ⟨255, 0, 0⟩ ⟨0, 0, 255⟩ := by
    rw [sampleScale, withLimits_eq, if_neg (by decide)]
    exact limited_showsBeyond _ (by decide) (by decide) (by decide) (by decide)
  have above : (sampleScale [5, .infinity]).vmax < .infinity := by decide
  refine ⟨above, Bool.eq_false_iff.mpr fun marked => ?_, shows.colorAbove _ above⟩
  exact (shows.marksMax.mp marked).2 (by decide)

end Colorbar

end Labbook
