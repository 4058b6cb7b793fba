import Labbook.Analysis.AxisScale
import Labbook.Proofs.Number.Extremes
import Mathlib.Algebra.Order.Ring.Abs

namespace Labbook

namespace Binary64

theorem magnitude_absolute (x : Binary64) : x.absolute.magnitude = x.magnitude := by
  rw [← UInt64.toNat_inj, magnitude_toNat x.absolute]
  change x.magnitude.toNat % 2 ^ 63 = x.magnitude.toNat
  rw [magnitude_toNat, Nat.mod_mod]

theorem isNaN_absolute (x : Binary64) : x.absolute.isNaN = x.isNaN := by
  rw [isNaN, isNaN, magnitude_absolute]

theorem isFinite_absolute (x : Binary64) : x.absolute.isFinite = x.isFinite := by
  rw [isFinite, isFinite, magnitude_absolute]

theorem isNegative_absolute (x : Binary64) : x.absolute.isNegative = false := by
  rw [Bool.eq_false_iff, Ne, isNegative_iff]
  change ¬2 ^ 63 ≤ x.magnitude.toNat
  rw [magnitude_toNat]
  omega

theorem value_absolute (x : Binary64) : x.absolute.value = |x.value| := by
  rw [value_eq, value_eq, isNegative_absolute, magnitude_absolute, if_neg Bool.false_ne_true, abs_mul,
    abs_of_pos smallest_pos]
  split
  · rw [abs_neg, Nat.abs_cast]
  · rw [Nat.abs_cast]

end Binary64

namespace AxisScale
variable {samples : List Binary64} {m : Rat}

-- What was measured is finite, and `m` is the largest of its magnitudes.
structure LargestMagnitude (samples : List Binary64) (m : Rat) : Prop where
  reached : ∃ v ∈ samples, v.isNaN = false ∧ |v.value| = m
  bounded : ∀ v ∈ samples, v.isNaN = false → v.isFinite = true ∧ |v.value| ≤ m

theorem maxMagnitude_value (largest : LargestMagnitude samples m) :
    (maxMagnitude samples).isFinite = true ∧ (maxMagnitude samples).value = m := by
  have sizes : ∀ w, w ∈ (samples.map Scalar.absolute).filter (fun v => !Scalar.isNaN v) ↔
      ∃ v ∈ samples, v.isNaN = false ∧ v.absolute = w := by
    intro w
    rw [List.mem_filter, List.mem_map, Bool.not_eq_true']
    constructor
    · rintro ⟨⟨v, listed, rfl⟩, measured⟩
      exact ⟨v, listed, (v.isNaN_absolute).symm.trans measured, rfl⟩
    · rintro ⟨v, listed, measured, rfl⟩
      exact ⟨⟨v, listed, rfl⟩, (v.isNaN_absolute).trans measured⟩
  obtain ⟨v, listed, measured, reached⟩ := largest.reached
  unfold maxMagnitude
  cases found : (samples.map Scalar.absolute).filter fun v => !Scalar.isNaN v with
  | nil =>
    have size := (sizes v.absolute).mpr ⟨v, listed, measured, rfl⟩
    rw [found] at size
    cases size
  | cons first rest =>
    rw [found] at sizes
    have measuredSizes : ∀ w ∈ first :: rest, w.isNaN = false := by
      intro w member
      obtain ⟨u, -, own, rfl⟩ := (sizes w).mp member
      exact (u.isNaN_absolute).trans own
    obtain ⟨member, bounds⟩ := Binary64.foldl_greater measuredSizes
    obtain ⟨u, own, ownMeasured, same⟩ := (sizes _).mp member
    obtain ⟨finite, below⟩ := largest.bounded u own ownMeasured
    have above := bounds v.absolute ((sizes _).mpr ⟨v, listed, measured, rfl⟩)
    rw [← same, Binary64.value_absolute, Binary64.value_absolute, reached] at above
    dsimp only
    rw [← same, Binary64.isFinite_absolute, Binary64.value_absolute]
    exact ⟨finite, le_antisymm below above⟩

end AxisScale

end Labbook
