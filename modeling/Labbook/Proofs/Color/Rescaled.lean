import Labbook.Proofs.Color.Limits
import Mathlib.Algebra.Order.Group.MinMax

namespace Labbook

namespace Spread

theorem affine_monotone {a : Rat} (positive : 0 < a) (b : Rat) : Monotone fun v => a * v + b :=
  fun _ _ less => add_le_add_left (mul_le_mul_of_nonneg_left less positive.le) b

theorem ranked_map {f : Rat → Rat} (mono : Monotone f) (values : List Rat) :
    ranked (values.map f) = (ranked values).map f :=
  ((ranked_perm (values.map f)).trans ((ranked_perm values).map f).symm).eq_of_pairwise
    (fun _ _ _ _ => le_antisymm) (ranked_sorted _)
    (List.pairwise_map.mpr ((ranked_sorted values).imp fun less => mono less))

theorem ranked_neg (values : List Rat) :
    ranked (values.map fun v => -v) = ((ranked values).map fun v => -v).reverse := by
  have perm : (ranked (values.map fun v => -v)).Perm ((ranked values).map fun v => -v).reverse :=
    (ranked_perm _).trans (((ranked_perm values).map _).symm.trans (List.reverse_perm _).symm)
  refine perm.eq_of_pairwise (fun _ _ _ _ => le_antisymm) (ranked_sorted _) ?_
  rw [List.pairwise_reverse, List.pairwise_map]
  exact (ranked_sorted values).imp neg_le_neg

section
variable {sorted : List Rat} {rank : Rat} {k : Nat}

theorem atRank_linear (first : Rat) (low : (k : Rat) ≤ rank) (high : rank ≤ (k + 1 : Nat)) :
    atRank first sorted rank = sorted.getD k first +
      (sorted.getD (k + 1) first - sorted.getD k first) * (rank - k) := by
  rcases eq_or_lt_of_le low with rfl | above
  · rw [atRank_whole, sub_self, mul_zero, add_zero]
  rcases eq_or_lt_of_le high with rfl | below
  · rw [atRank_whole]
    push_cast
    ring
  · have floor : ⌊rank⌋₊ = k :=
      (Nat.floor_eq_iff (le_trans (Nat.cast_nonneg k) low)).mpr ⟨low, by exact_mod_cast below⟩
    have ceil : ⌈rank⌉₊ = k + 1 := by
      rw [ceil_of_floor_lt (floor ▸ above), floor]
    rw [atRank, ceil, floor]

theorem floor_inside (nonempty : sorted ≠ []) (inside : rank ≤ (sorted.length - 1 : Nat)) :
    ⌊rank⌋₊ < sorted.length :=
  Nat.lt_of_le_of_lt (Nat.floor_le_ceil rank) (ceil_inside nonempty inside)

-- Which value stands outside of the ranks makes no difference inside.
theorem atRank_inside (first other : Rat) (nonempty : sorted ≠ [])
    (inside : rank ≤ (sorted.length - 1 : Nat)) :
    atRank first sorted rank = atRank other sorted rank := by
  have low := floor_inside nonempty inside
  have high := ceil_inside nonempty inside
  unfold atRank
  rw [List.getD_eq_getElem _ _ low, List.getD_eq_getElem _ _ high, List.getD_eq_getElem _ _ low,
    List.getD_eq_getElem _ _ high]

theorem atRank_affine (a b first : Rat) :
    atRank (a * first + b) (sorted.map fun v => a * v + b) rank =
      a * atRank first sorted rank + b := by
  have place : ∀ k, (sorted.map fun v => a * v + b).getD k (a * first + b) =
      a * sorted.getD k first + b := fun k => List.getD_map _ _ _
  unfold atRank
  rw [place, place]
  ring

-- Turned round, a rank is counted from the other end.
theorem atRank_neg (first : Rat) (nonempty : sorted ≠ []) (positive : 0 ≤ rank)
    (inside : rank ≤ (sorted.length - 1 : Nat)) :
    atRank (-first) (sorted.map fun v => -v).reverse rank =
      -atRank first sorted ((sorted.length - 1 : Nat) - rank) := by
  have place : ∀ k < sorted.length, (sorted.map fun v => -v).reverse.getD k (-first) =
      -sorted.getD (sorted.length - 1 - k) first := by
    intro k within
    rw [List.getD_reverse k (by rwa [List.length_map]), List.length_map, List.getD_map]
  have low := Nat.floor_le positive
  rcases eq_or_lt_of_le low with whole | part
  · rw [← whole, atRank_whole, place _ (floor_inside nonempty inside), ← Nat.cast_sub, atRank_whole]
    exact Nat.floor_le_of_le inside
  · have next : ⌊rank⌋₊ + 1 < sorted.length := by
      rw [← ceil_of_floor_lt part]
      exact ceil_inside nonempty inside
    obtain ⟨rest, count⟩ := Nat.exists_eq_add_of_le next
    have total : sorted.length - 1 = rest + (⌊rank⌋₊ + 1) := by omega
    have high := Nat.lt_floor_add_one rank
    have lower : (rest : Rat) ≤ (sorted.length - 1 : Nat) - rank := by
      rw [total]
      push_cast
      linarith
    have upper : (sorted.length - 1 : Nat) - rank ≤ (rest + 1 : Nat) := by
      rw [total]
      push_cast
      linarith
    rw [atRank_linear _ low (by exact_mod_cast le_of_lt high), atRank_linear _ lower upper,
      place _ (Nat.lt_of_succ_lt next), place _ next, total,
      show rest + (⌊rank⌋₊ + 1) - ⌊rank⌋₊ = rest + 1 by omega,
      show rest + (⌊rank⌋₊ + 1) - (⌊rank⌋₊ + 1) = rest by omega]
    push_cast
    ring

end

theorem rankAt_complement (count : Nat) (p : Rat) :
    rankAt count (100 - p) = (count - 1 : Nat) - rankAt count p := by
  have share : max 0 (min (100 - p) 100) = 100 - max 0 (min p 100) := by
    rcases le_total p 0 with below | above
    · rw [min_eq_right (by linarith), min_eq_left (by linarith), max_eq_left below]
      norm_num
    · rcases le_total p 100 with inside | beyond
      · rw [min_eq_left (by linarith), min_eq_left inside, max_eq_right (by linarith),
          max_eq_right above]
      · rw [min_eq_left (by linarith), min_eq_right beyond, max_eq_left (by linarith)]
        norm_num
  rw [rankAt, rankAt, share]
  ring

section
variable {values : List Rat}

theorem percentile_atRank (nonempty : values ≠ []) (first p : Rat) : percentile values p =
    some (atRank first (ranked values) (rankAt (ranked values).length p)) := by
  obtain ⟨other, all⟩ := percentile_eq nonempty
  rw [all, atRank_inside other first (ranked_ne_nil nonempty) (rankAt_le _ _)]

theorem percentile_affine (nonempty : values ≠ []) {a : Rat} (positive : 0 < a) (b : Rat)
    {p v : Rat} (found : percentile values p = some v) :
    percentile (values.map fun v => a * v + b) p = some (a * v + b) := by
  rw [percentile_atRank nonempty 0] at found
  cases found
  rw [percentile_atRank (mt List.map_eq_nil_iff.mp nonempty) (a * 0 + b),
    ranked_map (affine_monotone positive b), List.length_map, atRank_affine]

theorem percentile_neg (nonempty : values ≠ []) {p v : Rat}
    (found : percentile values (100 - p) = some v) :
    percentile (values.map fun v => -v) p = some (-v) := by
  rw [percentile_atRank nonempty 0, rankAt_complement] at found
  cases found
  rw [percentile_atRank (mt List.map_eq_nil_iff.mp nonempty) (-0), ranked_neg, List.length_reverse,
    List.length_map, atRank_neg 0 (ranked_ne_nil nonempty) (rankAt_nonneg _ _) (rankAt_le _ _)]

end

namespace Marks

def affine (a b : Rat) (m : Marks) : Marks where
  least := a * m.least + b
  most := a * m.most + b
  cutLow := a * m.cutLow + b
  cutHigh := a * m.cutHigh + b
  q1 := a * m.q1 + b
  q3 := a * m.q3 + b

def mirrored (m : Marks) : Marks where
  least := -m.most
  most := -m.least
  cutLow := -m.cutHigh
  cutHigh := -m.cutLow
  q1 := -m.q3
  q3 := -m.q1

theorem limits_affine {a : Rat} (positive : 0 < a) (b : Rat) (m : Marks) :
    (m.affine a b).limits = (a * m.limits.1 + b, a * m.limits.2 + b) := by
  have range : (m.affine a b).most - (m.affine a b).least = a * (m.most - m.least) := by
    change a * m.most + b - (a * m.least + b) = _
    ring
  have spread : (m.affine a b).spread = a * m.spread := by
    change a * m.q3 + b - (a * m.q1 + b) = a * (m.q3 - m.q1)
    ring
  have narrow : (m.affine a b).Narrow ↔ m.Narrow := by
    unfold Narrow
    rw [range, spread, mul_eq_zero, or_iff_right positive.ne', mul_div_mul_left _ _ positive.ne']
  unfold limits
  by_cases same : m.Narrow
  · rw [if_pos (narrow.mpr same), if_pos same]
    rfl
  · rw [if_neg (mt narrow.mp same), if_neg same, spread]
    have low : (m.affine a b).q1 - 1.5 * (a * m.spread) = a * (m.q1 - 1.5 * m.spread) + b := by
      change a * m.q1 + b - 1.5 * (a * m.spread) = _
      ring
    have high : (m.affine a b).q3 + 1.5 * (a * m.spread) = a * (m.q3 + 1.5 * m.spread) + b := by
      change a * m.q3 + b + 1.5 * (a * m.spread) = _
      ring
    have mono := affine_monotone positive b
    rw [low, high]
    exact Prod.ext ((congrArg (min · _) mono.map_max.symm).trans mono.map_min.symm)
      ((congrArg (max · _) (mono.map_min).symm).trans mono.map_max.symm)

theorem limits_mirrored (m : Marks) : m.mirrored.limits = (-m.limits.2, -m.limits.1) := by
  have range : m.mirrored.most - m.mirrored.least = m.most - m.least := by
    change -m.least - -m.most = _
    ring
  have spread : m.mirrored.spread = m.spread := by
    change -m.q1 - -m.q3 = m.q3 - m.q1
    ring
  have narrow : m.mirrored.Narrow ↔ m.Narrow := by
    unfold Narrow
    rw [range, spread]
  unfold limits
  by_cases same : m.Narrow
  · rw [if_pos (narrow.mpr same), if_pos same]
    rfl
  · rw [if_neg (mt narrow.mp same), if_neg same, spread]
    have low : m.mirrored.q1 - 1.5 * m.spread = -(m.q3 + 1.5 * m.spread) := by
      change -m.q3 - 1.5 * m.spread = _
      ring
    have high : m.mirrored.q3 + 1.5 * m.spread = -(m.q1 - 1.5 * m.spread) := by
      change -m.q1 + 1.5 * m.spread = _
      ring
    rw [low, high]
    refine Prod.ext ?_ ?_
    · change min (max (-(m.q3 + 1.5 * m.spread)) (-m.most)) (-m.cutHigh) = _
      rw [max_neg_neg, min_neg_neg]
    · change max (min (-(m.q1 - 1.5 * m.spread)) (-m.least)) (-m.cutLow) = _
      rw [min_neg_neg, max_neg_neg]

end Marks

theorem limits_rescaled (values : List Rat) (nonempty : values ≠ []) (cutoff : Cutoff Rat) :
    ∃ low high, limits values cutoff = some (low, high) ∧
      (∀ a b : Rat, 0 < a → limits (values.map fun v => a * v + b) cutoff =
        some (a * low + b, a * high + b)) ∧
      limits (values.map fun v => -v) { top := cutoff.bottom, bottom := cutoff.top } =
        some (-high, -low) := by
  obtain ⟨value, all⟩ : ∃ value : Rat → Rat, ∀ p, percentile values p = some (value p) :=
    ⟨_, percentile_atRank nonempty 0⟩
  refine ⟨(marks value cutoff).limits.1, (marks value cutoff).limits.2, limits_eq all cutoff,
    fun a b positive => ?_, ?_⟩
  · have scaled := limits_eq (fun p => percentile_affine nonempty positive b (all p)) cutoff
    exact scaled.trans (congrArg Option.some (Marks.limits_affine positive b (marks value cutoff)))
  · have turned := limits_eq (fun p => percentile_neg nonempty (all (100 - p)))
      { top := cutoff.bottom, bottom := cutoff.top }
    have same : marks (fun p => -value (100 - p)) { top := cutoff.bottom, bottom := cutoff.top } =
        (marks value cutoff).mirrored := by
      unfold marks Marks.mirrored
      norm_num
    rw [turned, same, Marks.limits_mirrored]

def readings : List Rat := [0, 1, 2, 3, 100]

theorem readings_ranked : ranked readings = readings :=
  (ranked_perm readings).eq_of_pairwise (fun _ _ _ _ => le_antisymm) (ranked_sorted readings)
    (by decide +kernel)

theorem limits_rescaled_degrees : limits readings ⟨10, 60⟩ = some (0, 306 / 5) ∧
    limits (readings.map fun v => 9 / 5 * v + 32) ⟨10, 60⟩ = some (32, 3554 / 25) ∧
    limits (readings.map fun v => -v) ⟨60, 10⟩ = some (-306 / 5, 0) := by
  have done : limits readings ⟨10, 60⟩ = some (0, 306 / 5) := by
    unfold limits percentile
    rw [readings_ranked]
    decide +kernel
  obtain ⟨low, high, own, scaled, turned⟩ := limits_rescaled readings (by decide) ⟨10, 60⟩
  rw [done] at own
  cases own
  have degrees := scaled (9 / 5) 32 (by norm_num)
  norm_num at degrees turned
  exact ⟨done, by norm_num [degrees], by norm_num [turned]⟩

end Spread

end Labbook
