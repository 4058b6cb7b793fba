import Labbook.Analysis.Spread
import Labbook.Proofs.Number.ExactScalar
import Mathlib.Data.List.GetD
import Mathlib.Tactic.Linarith
import Mathlib.Tactic.NormNum

namespace Labbook

namespace Spread

theorem ranked_eq (values : List Rat) :
    ranked values = values.mergeSort fun a b => decide (a ≤ b) := by
  unfold ranked
  congr 1
  exact List.filter_true values

theorem ranked_perm (values : List Rat) : (ranked values).Perm values := by
  rw [ranked_eq]
  exact List.mergeSort_perm values _

theorem ranked_sorted (values : List Rat) : (ranked values).Pairwise (· ≤ ·) := by
  rw [ranked_eq]
  refine (List.pairwise_mergeSort ?_ ?_ values).imp of_decide_eq_true
  · intro a b c first second
    exact decide_eq_true (le_trans (of_decide_eq_true first) (of_decide_eq_true second))
  · intro a b
    simpa using le_total a b

theorem ranked_congr {values other : List Rat} (perm : other.Perm values) :
    ranked other = ranked values :=
  ((ranked_perm other).trans (perm.trans (ranked_perm values).symm)).eq_of_pairwise
    (fun _ _ _ _ => le_antisymm) (ranked_sorted other) (ranked_sorted values)

section
variable {sorted : List Rat} {i j : Nat} (first : Rat)

theorem getD_mono (ordered : sorted.Pairwise (· ≤ ·)) (before : i ≤ j) (inside : j < sorted.length) :
    sorted.getD i first ≤ sorted.getD j first := by
  rw [List.getD_eq_getElem _ _ (Nat.lt_of_le_of_lt before inside), List.getD_eq_getElem _ _ inside]
  rcases Nat.eq_or_lt_of_le before with rfl | less
  · exact le_refl _
  · exact List.pairwise_iff_getElem.mp ordered i j _ inside less

theorem countP_below (ordered : sorted.Pairwise (· ≤ ·)) (inside : i < sorted.length) {low : Rat}
    (bound : low ≤ sorted.getD i first) : sorted.countP (· < low) ≤ i := by
  have behind : (sorted.drop i).countP (· < low) = 0 := by
    refine List.countP_eq_zero.mpr fun v member => ?_
    obtain ⟨k, within, rfl⟩ := List.mem_iff_getElem.mp member
    have place : i + k < sorted.length := by
      rw [List.length_drop] at within
      omega
    have grows := getD_mono first ordered (Nat.le_add_right i k) place
    rw [List.getD_eq_getElem sorted first place] at grows
    rw [List.getElem_drop]
    simpa using le_trans bound grows
  calc sorted.countP (· < low)
      = (sorted.take i).countP (· < low) + (sorted.drop i).countP (· < low) := by
        rw [← List.countP_append, List.take_append_drop]
    _ ≤ (sorted.take i).length := by
        rw [behind, Nat.add_zero]
        exact List.countP_le_length
    _ ≤ i := List.length_take_le i sorted

theorem countP_above (ordered : sorted.Pairwise (· ≤ ·)) (inside : i < sorted.length) {high : Rat}
    (bound : sorted.getD i first ≤ high) : sorted.countP (high < ·) + (i + 1) ≤ sorted.length := by
  have before : (sorted.take (i + 1)).countP (high < ·) = 0 := by
    refine List.countP_eq_zero.mpr fun v member => ?_
    obtain ⟨k, within, rfl⟩ := List.mem_iff_getElem.mp member
    have place : k < i + 1 := Nat.lt_of_lt_of_le within (List.length_take_le _ _)
    have grows := getD_mono first ordered (Nat.le_of_lt_succ place) inside
    rw [List.getD_eq_getElem sorted first (Nat.lt_of_lt_of_le place inside)] at grows
    rw [List.getElem_take]
    simpa using le_trans grows bound
  have split : sorted.countP (high < ·) =
      (sorted.take (i + 1)).countP (high < ·) + (sorted.drop (i + 1)).countP (high < ·) := by
    rw [← List.countP_append, List.take_append_drop]
  have rest : (sorted.drop (i + 1)).countP (high < ·) ≤ (sorted.drop (i + 1)).length :=
    List.countP_le_length
  rw [List.length_drop] at rest
  omega

end

-- The value at a rank that may lie between two places, in proportion.
def atRank (first : Rat) (sorted : List Rat) (rank : Rat) : Rat :=
  sorted.getD ⌊rank⌋₊ first +
    (sorted.getD ⌈rank⌉₊ first - sorted.getD ⌊rank⌋₊ first) * (rank - ⌊rank⌋₊)

section
variable {sorted : List Rat} {rank later : Rat} (first : Rat)

theorem atRank_whole (rank : Nat) : atRank first sorted rank = sorted.getD rank first := by
  unfold atRank
  rw [Nat.floor_natCast, sub_self, mul_zero, add_zero]

theorem ceil_inside (nonempty : sorted ≠ []) (inside : rank ≤ (sorted.length - 1 : Nat)) :
    ⌈rank⌉₊ < sorted.length :=
  Nat.lt_of_le_of_lt (Nat.ceil_le.mpr inside) (Nat.sub_one_lt (List.length_eq_zero_iff.not.mpr nonempty))

theorem atRank_between (ordered : sorted.Pairwise (· ≤ ·)) (nonempty : sorted ≠ []) (positive : 0 ≤ rank)
    (inside : rank ≤ (sorted.length - 1 : Nat)) : sorted.getD ⌊rank⌋₊ first ≤ atRank first sorted rank ∧
      atRank first sorted rank ≤ sorted.getD ⌈rank⌉₊ first := by
  have step := sub_nonneg.mpr
    (getD_mono first ordered (Nat.floor_le_ceil rank) (ceil_inside nonempty inside))
  have low : 0 ≤ rank - ⌊rank⌋₊ := sub_nonneg.mpr (Nat.floor_le positive)
  have high : rank - ⌊rank⌋₊ ≤ 1 := by linarith [Nat.lt_floor_add_one rank]
  unfold atRank
  constructor
  · exact le_add_of_nonneg_right (mul_nonneg step low)
  · linarith [mul_le_of_le_one_right step high]

theorem ceil_of_floor_lt (part : ⌊rank⌋₊ < rank) : ⌈rank⌉₊ = ⌊rank⌋₊ + 1 :=
  Nat.le_antisymm (Nat.ceil_le_floor_add_one rank) (Nat.lt_ceil.mpr part)

theorem atRank_mono (ordered : sorted.Pairwise (· ≤ ·)) (nonempty : sorted ≠ []) (positive : 0 ≤ rank)
    (before : rank ≤ later) (inside : later ≤ (sorted.length - 1 : Nat)) :
    atRank first sorted rank ≤ atRank first sorted later := by
  obtain ⟨-, upper⟩ := atRank_between first ordered nonempty positive (le_trans before inside)
  obtain ⟨lower, -⟩ := atRank_between first ordered nonempty (le_trans positive before) inside
  rcases Nat.eq_or_lt_of_le (Nat.floor_mono before) with same | less
  · rcases eq_or_lt_of_le (Nat.floor_le positive) with whole | part
    · rw [← whole, atRank_whole, same]
      exact lower
    · -- Both ranks lie between the same two places.
      have further : ⌊later⌋₊ < later := by
        rw [← same]
        exact lt_of_lt_of_le part before
      have step := sub_nonneg.mpr
        (getD_mono first ordered (Nat.floor_le_ceil later) (ceil_inside nonempty inside))
      unfold atRank
      rw [ceil_of_floor_lt part, same, ← ceil_of_floor_lt further]
      linarith [mul_le_mul_of_nonneg_left (sub_le_sub_right before (⌊later⌋₊ : Rat)) step]
  · have next : ⌈rank⌉₊ ≤ ⌊later⌋₊ := by
      refine Nat.ceil_le.mpr (le_trans (le_of_lt (Nat.lt_floor_add_one rank)) ?_)
      exact_mod_cast less
    have reach := Nat.lt_of_le_of_lt (Nat.floor_le_ceil later) (ceil_inside nonempty inside)
    exact le_trans upper (le_trans (getD_mono first ordered next reach) lower)

end

-- How far a percentage of the way through so many ranks comes.
def rankAt (count : Nat) (p : Rat) : Rat := max 0 (min p 100) / 100 * (count - 1 : Nat)

theorem rankAt_nonneg (count : Nat) (p : Rat) : 0 ≤ rankAt count p :=
  mul_nonneg (div_nonneg (le_max_left _ _) (by norm_num)) (Nat.cast_nonneg _)

theorem rankAt_le (count : Nat) (p : Rat) : rankAt count p ≤ (count - 1 : Nat) := by
  refine mul_le_of_le_one_left (Nat.cast_nonneg _) ((div_le_one (by norm_num)).mpr ?_)
  exact max_le (by norm_num) (min_le_right _ _)

theorem rankAt_mono (count : Nat) {p q : Rat} (less : p ≤ q) : rankAt count p ≤ rankAt count q :=
  mul_le_mul_of_nonneg_right (div_le_div_of_nonneg_right
    (max_le_max_left 0 (min_le_min_right 100 less)) (by norm_num)) (Nat.cast_nonneg _)

theorem rankAt_eq (count : Nat) {p : Rat} (positive : 0 ≤ p) (bounded : p ≤ 100) :
    rankAt count p = p / 100 * (count - 1 : Nat) := by
  rw [rankAt, min_eq_left bounded, max_eq_right positive]

theorem atPercent_eq (first : Rat) (sorted : List Rat) (p : Rat) :
    atPercent first sorted p = atRank first sorted (rankAt sorted.length p) := by
  have bounds : Scalar.clamp p (0.0 : Rat) (100.0 : Rat) = max 0 (min p 100) := by
    have zero : (0.0 : Rat) = 0 := by norm_num
    have full : (100.0 : Rat) = 100 := by norm_num
    rw [zero, full]
    exact clamp_eq_max_min p (by norm_num)
  have rank : Scalar.clamp p (0.0 : Rat) (100.0 : Rat) / (100.0 : Rat) *
      Scalar.ofNat (sorted.length - 1) = rankAt sorted.length p := by
    rw [bounds]
    have full : (100.0 : Rat) = 100 := by norm_num
    rw [full]
    rfl
  unfold atPercent
  dsimp only
  rw [rank, ceilNat_eq, floorNat_eq]
  rfl

variable {values : List Rat}

theorem ranked_ne_nil (nonempty : values ≠ []) : ranked values ≠ [] := fun empty =>
  nonempty ((ranked_perm values).symm.trans (.of_eq empty)).eq_nil

-- All percentiles of one list are read off the same ranks.
theorem percentile_eq (nonempty : values ≠ []) : ∃ first, ∀ p, percentile values p =
    some (atRank first (ranked values) (rankAt (ranked values).length p)) := by
  cases found : ranked values with
  | nil => exact absurd found (ranked_ne_nil nonempty)
  | cons first rest =>
    refine ⟨first, fun p => ?_⟩
    unfold percentile
    rw [found]
    exact congrArg Option.some (atPercent_eq first (first :: rest) p)

theorem ne_nil_of_percentile {p v : Rat} (found : percentile values p = some v) : values ≠ [] := by
  rintro rfl
  rw [percentile, ranked_eq, List.mergeSort_nil] at found
  cases found

theorem percentile_congr {other : List Rat} (perm : other.Perm values) :
    percentile other = percentile values := by
  funext p
  unfold percentile
  rw [ranked_congr perm]

theorem percentile_mono {p q low high : Rat} (less : p ≤ q) (atP : percentile values p = some low)
    (atQ : percentile values q = some high) : low ≤ high := by
  have nonempty := ne_nil_of_percentile atP
  obtain ⟨first, all⟩ := percentile_eq nonempty
  rw [all] at atP atQ
  cases atP
  cases atQ
  exact atRank_mono first (ranked_sorted values) (ranked_ne_nil nonempty) (rankAt_nonneg _ _)
    (rankAt_mono _ less) (rankAt_le _ _)

section
variable {p v bound : Rat}

theorem percentile_whole {rank : Nat} (found : percentile values p = some v)
    (whole : rankAt (ranked values).length p = rank) :
    ∃ first, v = (ranked values).getD rank first := by
  obtain ⟨first, all⟩ := percentile_eq (ne_nil_of_percentile found)
  rw [all, whole, atRank_whole] at found
  cases found
  exact ⟨first, rfl⟩

theorem percentile_between (found : percentile values p = some v) :
    ∃ first, ⌈rankAt (ranked values).length p⌉₊ < (ranked values).length ∧
      (ranked values).getD ⌊rankAt (ranked values).length p⌋₊ first ≤ v ∧
      v ≤ (ranked values).getD ⌈rankAt (ranked values).length p⌉₊ first := by
  have nonempty := ranked_ne_nil (ne_nil_of_percentile found)
  obtain ⟨first, all⟩ := percentile_eq (ne_nil_of_percentile found)
  rw [all] at found
  cases found
  have inside := rankAt_le (ranked values).length p
  exact ⟨first, ceil_inside nonempty inside,
    atRank_between first (ranked_sorted values) nonempty (rankAt_nonneg _ p) inside⟩

theorem getD_mem {rank : Nat} (first : Rat) (inside : rank < (ranked values).length) :
    (ranked values).getD rank first ∈ values := by
  rw [List.getD_eq_getElem _ _ inside]
  exact (ranked_perm values).mem_iff.mp (List.getElem_mem inside)

theorem exists_rank (first : Rat) (member : v ∈ values) :
    ∃ rank < (ranked values).length, (ranked values).getD rank first = v := by
  obtain ⟨rank, within, rfl⟩ := List.mem_iff_getElem.mp ((ranked_perm values).mem_iff.mpr member)
  exact ⟨rank, within, List.getD_eq_getElem _ first within⟩

theorem percentile_least (found : percentile values 0 = some v) : values.min? = some v := by
  have start : rankAt (ranked values).length 0 = (0 : Nat) := by
    rw [rankAt_eq _ (le_refl 0) (by norm_num), zero_div, zero_mul, Nat.cast_zero]
  obtain ⟨first, rfl⟩ := percentile_whole found start
  have inside := List.length_pos_of_ne_nil (ranked_ne_nil (ne_nil_of_percentile found))
  refine List.min?_eq_some_iff.mpr ⟨getD_mem first inside, fun w member => ?_⟩
  obtain ⟨rank, within, rfl⟩ := exists_rank first member
  exact getD_mono first (ranked_sorted values) (Nat.zero_le rank) within

theorem percentile_greatest (found : percentile values 100 = some v) : values.max? = some v := by
  have final : rankAt (ranked values).length 100 = ((ranked values).length - 1 : Nat) := by
    rw [rankAt_eq _ (by norm_num) (le_refl 100), div_self (by norm_num), one_mul]
  obtain ⟨first, rfl⟩ := percentile_whole found final
  have inside := Nat.sub_one_lt_of_lt
    (List.length_pos_of_ne_nil (ranked_ne_nil (ne_nil_of_percentile found)))
  refine List.max?_eq_some_iff.mpr ⟨getD_mem first inside, fun w member => ?_⟩
  obtain ⟨rank, within, rfl⟩ := exists_rank first member
  exact getD_mono first (ranked_sorted values) (Nat.le_sub_one_of_lt within) inside

-- Below a percentile are at most the values of the ranks before it.
theorem percentile_below (found : percentile values p = some v) (below : bound ≤ v) :
    values.countP (· < bound) ≤ ⌈rankAt values.length p⌉₊ := by
  obtain ⟨first, inside, -, upper⟩ := percentile_between found
  rw [← (ranked_perm values).countP_eq, ← (ranked_perm values).length_eq]
  exact countP_below first (ranked_sorted values) inside (le_trans below upper)

theorem percentile_above (found : percentile values p = some v) (above : v ≤ bound) :
    values.countP (bound < ·) + (⌊rankAt values.length p⌋₊ + 1) ≤ values.length := by
  obtain ⟨first, inside, lower, -⟩ := percentile_between found
  rw [← (ranked_perm values).countP_eq, ← (ranked_perm values).length_eq]
  exact countP_above first (ranked_sorted values) (Nat.lt_of_le_of_lt (Nat.floor_le_ceil _) inside)
    (le_trans lower above)

end

end Spread

end Labbook
