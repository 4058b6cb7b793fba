import Labbook.Proofs.Color.Percentile
import Mathlib.Tactic.Ring

namespace Labbook

namespace Spread

variable {values : List Rat} {cutoff : Cutoff Rat} {low high : Rat}

structure Marks where
  least : Rat
  most : Rat
  cutLow : Rat
  cutHigh : Rat
  q1 : Rat
  q3 : Rat

namespace Marks

def spread (m : Marks) : Rat := m.q3 - m.q1

def Narrow (m : Marks) : Prop :=
  m.most - m.least = 0 ∨ m.spread / (m.most - m.least) < 1e-8

instance (m : Marks) : Decidable m.Narrow := inferInstanceAs (Decidable (_ ∨ _))

def limits (m : Marks) : Rat × Rat :=
  if m.Narrow then (m.least, m.most)
  else (min (max (m.q1 - 1.5 * m.spread) m.least) m.cutLow,
    max (min (m.q3 + 1.5 * m.spread) m.most) m.cutHigh)

end Marks

def marks (value : Rat → Rat) (cutoff : Cutoff Rat) : Marks where
  least := value 0
  most := value 100
  cutLow := value cutoff.bottom
  cutHigh := value (100 - cutoff.top)
  q1 := value 25
  q3 := value 75

theorem limits_eq {values : List Rat} {value : Rat → Rat}
    (all : ∀ p, percentile values p = some (value p)) (cutoff : Cutoff Rat) :
    limits values cutoff = some (marks value cutoff).limits := by
  have zero : (0.0 : Rat) = 0 := by norm_num
  have quarter : (25.0 : Rat) = 25 := by norm_num
  have threeQuarters : (75.0 : Rat) = 75 := by norm_num
  have full : (100.0 : Rat) = 100 := by norm_num
  unfold limits
  simp only [all, Option.bind_eq_bind, Option.bind_some, zero, quarter, threeQuarters, full,
    equals_eq_decide, lesser_eq_min, greater_eq_max, Bool.or_eq_true, decide_eq_true_eq]
  unfold Marks.limits
  split
  next narrow => rw [if_pos (show (marks value cutoff).Narrow from narrow)]; rfl
  next wide => rw [if_neg (show ¬(marks value cutoff).Narrow from wide)]; rfl

theorem limits_congr {other : List Rat} (perm : other.Perm values) (cutoff : Cutoff Rat) :
    limits other cutoff = limits values cutoff := by
  unfold limits
  rw [percentile_congr perm]

-- The lower end is at or below the first quartile and what may be clipped, but not below the data.
def LowEnd (values : List Rat) (cutoff : Cutoff Rat) (low : Rat) : Prop :=
  ∃ least q1 cut, percentile values 0 = some least ∧ percentile values 25 = some q1 ∧
    percentile values cutoff.bottom = some cut ∧ least ≤ low ∧ low ≤ q1 ∧ low ≤ cut

def HighEnd (values : List Rat) (cutoff : Cutoff Rat) (high : Rat) : Prop :=
  ∃ most q3 cut, percentile values 100 = some most ∧ percentile values 75 = some q3 ∧
    percentile values (100 - cutoff.top) = some cut ∧ high ≤ most ∧ q3 ≤ high ∧ cut ≤ high

theorem limits_ends (nonempty : values ≠ []) (cutoff : Cutoff Rat) (top : 0 ≤ cutoff.top)
    (bottom : 0 ≤ cutoff.bottom) : ∃ low high, limits values cutoff = some (low, high) ∧
      LowEnd values cutoff low ∧ HighEnd values cutoff high := by
  obtain ⟨value, all⟩ : ∃ value : Rat → Rat, ∀ p, percentile values p = some (value p) := by
    obtain ⟨first, all⟩ := percentile_eq nonempty
    exact ⟨_, all⟩
  have grows : ∀ {p q : Rat}, p ≤ q → value p ≤ value q := fun less =>
    percentile_mono less (all _) (all _)
  have clipped : value (100 - cutoff.top) ≤ value 100 := grows (by linarith)
  rw [limits_eq all]
  unfold Marks.limits
  split
  · refine ⟨_, _, rfl, ⟨_, _, _, all _, all _, all _, le_refl _, ?_, ?_⟩,
      ⟨_, _, _, all _, all _, all _, le_refl _, ?_, ?_⟩⟩
    · exact grows (by norm_num)
    · exact grows bottom
    · exact grows (by norm_num)
    · exact clipped
  · have spread : 0 ≤ 1.5 * (marks value cutoff).spread :=
      mul_nonneg (by norm_num) (sub_nonneg.mpr (grows (by norm_num)))
    refine ⟨_, _, rfl, ⟨_, _, _, all _, all _, all _, ?_, ?_, min_le_right _ _⟩,
      ⟨_, _, _, all _, all _, all _, ?_, ?_, le_max_right _ _⟩⟩
    · exact le_min (le_max_right _ _) (grows bottom)
    · exact min_le_of_left_le (max_le (sub_le_self _ spread) (grows (by norm_num)))
    · exact max_le (min_le_right _ _) clipped
    · exact le_max_of_le_left (le_min (le_add_of_nonneg_right spread) (grows (by norm_num)))

theorem below_le (lowEnd : LowEnd values cutoff low) (positive : 0 ≤ cutoff.bottom)
    (bounded : cutoff.bottom ≤ 100) :
    (values.countP (· < low) : Int) ≤ ⌈cutoff.bottom * (values.length - 1) / 100⌉ := by
  obtain ⟨_, _, cut, -, -, found, -, -, below⟩ := lowEnd
  have counted := percentile_below found below
  have rank : rankAt values.length cutoff.bottom = cutoff.bottom * (values.length - 1) / 100 := by
    rw [rankAt_eq _ positive bounded,
      Nat.cast_pred (List.length_pos_of_ne_nil (ne_nil_of_percentile found))]
    ring
  rw [← rank, ← Int.natCast_ceil_eq_ceil (rankAt_nonneg _ _)]
  exact_mod_cast counted

-- Counted from the other end, the rank of a percentage falls short of the last by its complement.
theorem above_le (highEnd : HighEnd values cutoff high) (positive : 0 ≤ cutoff.top)
    (bounded : cutoff.top ≤ 100) :
    (values.countP (high < ·) : Int) ≤ ⌈cutoff.top * (values.length - 1) / 100⌉ := by
  obtain ⟨_, _, cut, -, -, found, -, -, above⟩ := highEnd
  have counted := percentile_above found above
  have rank : rankAt values.length (100 - cutoff.top) =
      (values.length - 1 : Int) + -(cutoff.top * (values.length - 1) / 100) := by
    rw [rankAt_eq _ (sub_nonneg.mpr bounded) (sub_le_self _ positive),
      Nat.cast_pred (List.length_pos_of_ne_nil (ne_nil_of_percentile found))]
    push_cast
    ring
  have floor : (⌊rankAt values.length (100 - cutoff.top)⌋₊ : Int) =
      values.length - 1 - ⌈cutoff.top * (values.length - 1) / 100⌉ := by
    rw [Int.natCast_floor_eq_floor (rankAt_nonneg _ _), rank, ← Int.cast_natCast, ← Int.cast_one,
      ← Int.cast_sub, Int.floor_intCast_add, Int.floor_neg]
    push_cast
    ring
  omega

structure Within (values : List Rat) (cutoff : Cutoff Rat) (low high : Rat) : Prop where
  data : ∃ least most, values.min? = some least ∧ values.max? = some most ∧ least ≤ low ∧ high ≤ most
  ordered : low ≤ high
  quartiles : ∃ q1 q3, percentile values 25 = some q1 ∧ percentile values 75 = some q3 ∧
    low ≤ q1 ∧ q3 ≤ high
  below : (values.countP (· < low) : Int) ≤ ⌈cutoff.bottom * (values.length - 1) / 100⌉
  above : (values.countP (high < ·) : Int) ≤ ⌈cutoff.top * (values.length - 1) / 100⌉

theorem within_of_ends (lowEnd : LowEnd values cutoff low) (highEnd : HighEnd values cutoff high)
    (top : 0 ≤ cutoff.top ∧ cutoff.top ≤ 100) (bottom : 0 ≤ cutoff.bottom ∧ cutoff.bottom ≤ 100) :
    Within values cutoff low high := by
  have below := below_le lowEnd bottom.1 bottom.2
  have above := above_le highEnd top.1 top.2
  obtain ⟨least, q1, -, atLeast, atFirst, -, lowInside, lowQuartile, -⟩ := lowEnd
  obtain ⟨most, q3, -, atMost, atThird, -, highInside, highQuartile, -⟩ := highEnd
  have quartiles : q1 ≤ q3 := percentile_mono (by norm_num) atFirst atThird
  exact {
    data := ⟨least, most, percentile_least atLeast, percentile_greatest atMost, lowInside, highInside⟩
    ordered := lowQuartile.trans (quartiles.trans highQuartile)
    quartiles := ⟨q1, q3, atFirst, atThird, lowQuartile, highQuartile⟩
    below := below
    above := above }

-- The percentages may add up to more than the whole: the quartiles still keep the two ends apart.
theorem limits_within (values : List Rat) (nonempty : values ≠ []) (cutoff : Cutoff Rat)
    (top : 0 ≤ cutoff.top ∧ cutoff.top ≤ 100) (bottom : 0 ≤ cutoff.bottom ∧ cutoff.bottom ≤ 100) :
    ∃ low high, (∀ reordered : List Rat, reordered.Perm values →
      limits reordered cutoff = some (low, high)) ∧ Within values cutoff low high := by
  obtain ⟨low, high, done, lowEnd, highEnd⟩ := limits_ends nonempty cutoff top.1 bottom.1
  refine ⟨low, high, fun reordered perm => ?_, within_of_ends lowEnd highEnd top bottom⟩
  rw [limits_congr perm, done]

def spikes : List Rat := [3, 1, 100, -50, 2]

theorem spikes_ranked : ranked spikes = [-50, 1, 2, 3, 100] :=
  ((ranked_perm spikes).trans (by decide +kernel)).eq_of_pairwise (fun _ _ _ _ => le_antisymm)
    (ranked_sorted spikes) (by decide +kernel)

theorem limits_within_crossing : limits spikes ⟨10, 95⟩ = some (-2, 306 / 5) ∧
    Within spikes ⟨10, 95⟩ (-2) (306 / 5) := by
  have done : limits spikes ⟨10, 95⟩ = some (-2, 306 / 5) := by
    unfold limits percentile
    rw [spikes_ranked]
    decide +kernel
  obtain ⟨low, high, same, within⟩ := limits_within spikes (by decide) ⟨10, 95⟩
    (by decide +kernel) (by decide +kernel)
  have agree := same spikes (.refl spikes)
  rw [done] at agree
  cases agree
  exact ⟨done, within⟩

end Spread

end Labbook
