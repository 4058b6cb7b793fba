import Labbook.Proofs.Number.MachineRounding

namespace Labbook

namespace Binary64
open Float.Model Float.Model.UnpackedFloat
variable {a b x : Binary64} {q : Rat}

-- A word nearest to a number. Where that is zero the sign is open.
structure Rounds (q : Rat) (x : Binary64) : Prop where
  near : NearestMagnitude (|q| / smallest) x.magnitude.toNat
  negative : q < 0 → x.isNegative = true
  positive : 0 < q → x.isNegative = false

theorem rounds_signed {s : UnpackedFloat.Sign} {w : Nat} (near : NearestMagnitude (|q| / smallest) w)
    (negative : q < 0 → s = .negative) (positive : 0 < q → s = .positive) :
    Rounds q (signed s w) := by
  have small : w < 2 ^ 63 := near.inside.trans_lt (by decide)
  refine ⟨?_, fun below => ?_, fun above => ?_⟩
  · rwa [magnitude_signed small]
  · rw [← sign_negative, sign_signed small, negative below]
  · rw [← sign_positive, sign_signed small, positive above]

theorem nearest_zero : NearestMagnitude (|(0 : Rat)| / smallest) 0 := by
  rw [abs_zero, zero_div]
  exact .exact (Nat.zero_le top)

theorem rounds_zero (s : UnpackedFloat.Sign) : Rounds 0 (packed (.zero s)) := by
  rw [packed_zero]
  exact rounds_signed nearest_zero (fun below => absurd below (lt_irrefl 0))
    fun above => absurd above (lt_irrefl 0)

def signedValue (s : UnpackedFloat.Sign) (m : Nat) (e : Int) : Rat := (s.apply m : Int) * 2 ^ e

section
variable {s : UnpackedFloat.Sign} {m : Nat} {e : Int}

theorem signedValue_neg : signedValue (-s) m e = -signedValue s m e := by
  have turned : (-s).apply m = -s.apply m := by
    cases s with
    | negative => exact (Int.neg_neg _).symm
    | positive => rfl
  rw [signedValue, turned, Int.cast_neg, neg_mul, signedValue]

theorem abs_signedValue : |signedValue s m e| = m * 2 ^ e := by
  unfold signedValue
  have unit : (0 : Rat) < 2 ^ e := zpow_pos two_pos e
  rw [abs_mul, abs_of_pos unit]
  cases s <;> simp [UnpackedFloat.Sign.apply]

theorem signedValue_negative (below : signedValue s m e < 0) : s = .negative := by
  cases s with
  | negative => rfl
  | positive =>
    have least : 0 ≤ signedValue .positive m e :=
      mul_nonneg (by simp [UnpackedFloat.Sign.apply]) (zpow_nonneg two_pos.le e)
    exact absurd below (not_lt.mpr least)

theorem signedValue_positive (above : 0 < signedValue s m e) : s = .positive := by
  cases s with
  | positive => rfl
  | negative =>
    have most : signedValue .negative m e ≤ 0 :=
      mul_nonpos_of_nonpos_of_nonneg (by simp [UnpackedFloat.Sign.apply]) (zpow_nonneg two_pos.le e)
    exact absurd above (not_lt.mpr most)

theorem div_smallest (q : Rat) (e : Int) : q * 2 ^ e / smallest = q * 2 ^ (e + 1074) := by
  rw [smallest, mul_div_assoc, ← zpow_sub₀ two_ne_zero, sub_neg_eq_add]

-- Parts that a word can have are packed as they are, unless their exponent is too large.
theorem rounds_finite {positive : 0 < m} (canonical : Canonical m e) :
    Rounds (signedValue s m e) (packed (.finite s m e positive)) := by
  obtain ⟨g, grid⟩ : ∃ g : Nat, e + 1074 = g := ⟨(e + 1074).toNat, by have low := canonical.lowest; omega⟩
  have full : 2 ^ 52 ≤ m ∨ g = 0 := canonical.full.imp id (by omega)
  have steps : (m * 2 ^ (e + 1074) : Rat) = (steps (g * 2 ^ 52 + m) : Nat) := by
    rw [steps_grid canonical.small.le full, grid]
    push_cast
    rfl
  rw [packed_finite canonical, grid, Int.toNat_natCast]
  refine rounds_signed ?_ signedValue_negative signedValue_positive
  rw [abs_signedValue, div_smallest, steps]
  exact .exact_capped _

end

theorem value_sign (x : Binary64) : x.value = signedValue x.sign x.mantissa x.exponent := by
  unfold value signedValue sign
  split <;> simp [UnpackedFloat.Sign.apply]

theorem value_of_isZero (zero : x.isZero = true) : x.value = 0 := by
  obtain ⟨first, whole⟩ := x.isZero_iff_parts.mp zero
  rw [value, mantissa_eq, if_pos first, whole]
  simp

theorem parts_finite (finite : x.isFinite = true) : x.value = 0 ∧ x.parts = .zero x.sign ∨
    ∃ positive, x.parts = .finite x.sign x.mantissa x.exponent positive := by
  have inside := x.isFinite_iff.mp finite
  have kinds := x.parts_kind
  generalize x.parts = u at kinds ⊢
  cases kinds with
  | notANumber kind => exact absurd (x.isNaN_iff.mp kind).1 inside.ne
  | infinity kind => exact absurd (x.isInfinite_iff.mp kind).1 inside.ne
  | zero kind => exact .inl ⟨value_of_isZero kind, rfl⟩
  | finite kind positive => exact .inr ⟨positive, rfl⟩

theorem rounds_self (finite : x.isFinite = true) : Rounds x.value x := by
  have same := packed_parts (not_isNaN_of_isFinite finite)
  rcases parts_finite finite with ⟨zero, parts⟩ | ⟨positive, parts⟩
  · rw [zero, ← same, parts]
    exact rounds_zero x.sign
  · have near : Rounds (signedValue x.sign x.mantissa x.exponent) (packed x.parts) := by
      rw [parts]
      exact rounds_finite x.canonical_word
    rwa [same, ← value_sign] at near

theorem value_aligned (x : Binary64) {low : Int} (least : low ≤ x.exponent) :
    x.value = (x.sign.apply (decreaseExponent x.mantissa x.exponent low).1 : Int) * 2 ^ low := by
  obtain ⟨k, gap⟩ : ∃ k : Nat, x.exponent = low + k := ⟨(x.exponent - low).toNat, by omega⟩
  have shift : (x.exponent - low).toNat = k := by omega
  rw [value_sign]
  unfold signedValue decreaseExponent
  dsimp only
  rw [shift, Nat.shiftLeft_eq, gap, zpow_add₀ two_ne_zero, zpow_natCast]
  cases x.sign <;> simp [UnpackedFloat.Sign.apply] <;> ring

theorem rounds_normalize {m e : Int} :
    Rounds (m * 2 ^ e) (packed (UnpackedFloat.normalize .binary64 m e .positive)) := by
  have unit : (0 : Rat) < 2 ^ e := zpow_pos two_pos e
  obtain ⟨w, word, near⟩ := normalize_nearest m e
  rw [word]
  refine rounds_signed ?_ (fun below => ?_) fun above => ?_
  · rwa [abs_mul, abs_of_pos unit, div_smallest]
  · have negative : m < 0 := by
      have part := neg_of_mul_neg_left below unit.le
      exact_mod_cast part
    rw [if_pos negative]
  · have positive : 0 < m := by
      have part := pos_of_mul_pos_left above unit.le
      exact_mod_cast part
    rw [if_neg (by omega)]

theorem sub_rounds (finiteA : a.isFinite = true) (finiteB : b.isFinite = true) :
    Rounds (a.value - b.value) (a - b) := by
  rw [sub_eq]
  rcases parts_finite finiteA with ⟨zeroA, partsA⟩ | ⟨positiveA, partsA⟩
  · rcases parts_finite finiteB with ⟨zeroB, partsB⟩ | ⟨positiveB, partsB⟩
    · rw [zeroA, zeroB, sub_zero, partsA, partsB]
      change Rounds 0 (packed (if a.sign == -b.sign then .zero a.sign else .zero .positive))
      split <;> exact rounds_zero _
    · rw [zeroA, zero_sub, partsA, partsB, value_sign b, ← signedValue_neg]
      exact rounds_finite b.canonical_word
  · rcases parts_finite finiteB with ⟨zeroB, partsB⟩ | ⟨positiveB, partsB⟩
    · rw [zeroB, sub_zero, partsA, partsB, value_sign a]
      exact rounds_finite a.canonical_word
    · rw [partsA, partsB, a.value_aligned (min_le_left a.exponent b.exponent),
        b.value_aligned (min_le_right a.exponent b.exponent), ← sub_mul, ← Int.cast_sub]
      exact rounds_normalize

theorem add_rounds (finiteA : a.isFinite = true) (finiteB : b.isFinite = true) :
    Rounds (a.value + b.value) (a + b) := by
  rw [add_eq]
  rcases parts_finite finiteA with ⟨zeroA, partsA⟩ | ⟨positiveA, partsA⟩
  · rcases parts_finite finiteB with ⟨zeroB, partsB⟩ | ⟨positiveB, partsB⟩
    · rw [zeroA, zeroB, add_zero, partsA, partsB]
      change Rounds 0 (packed (if a.sign == b.sign then .zero a.sign else .zero .positive))
      split <;> exact rounds_zero _
    · rw [zeroA, zero_add, partsA, partsB, value_sign b]
      exact rounds_finite b.canonical_word
  · rcases parts_finite finiteB with ⟨zeroB, partsB⟩ | ⟨positiveB, partsB⟩
    · rw [zeroB, add_zero, partsA, partsB, value_sign a]
      exact rounds_finite a.canonical_word
    · rw [partsA, partsB, a.value_aligned (min_le_left a.exponent b.exponent),
        b.value_aligned (min_le_right a.exponent b.exponent), ← add_mul, ← Int.cast_add]
      exact rounds_normalize

theorem signedValue_mul {s t : UnpackedFloat.Sign} {m n : Nat} {e f : Int} :
    signedValue s m e * signedValue t n f = signedValue (s * t) (m * n) (e + f) := by
  have signs : (s * t).apply (m * n : Nat) = s.apply m * t.apply n := by
    rw [Nat.cast_mul]
    cases s <;> cases t
    · exact (Int.neg_mul_neg _ _).symm
    · exact (Int.neg_mul _ _).symm
    · exact (Int.mul_neg _ _).symm
    · rfl
  unfold signedValue
  rw [signs, zpow_add₀ two_ne_zero]
  push_cast
  ring

-- A product has bits enough to round from.
theorem mul_place {m n : Nat} {e f : Int} (one : Canonical m e) (other : Canonical n f)
    (positiveM : 0 < m) (positiveN : 0 < n) : e + f ≤ place (m * n) (e + f) := by
  by_cases filled : 2 ^ 52 ≤ m * n
  · have bits := (Nat.le_log2 (Nat.mul_pos positiveM positiveN).ne').mpr filled
    unfold place
    omega
  · have left := Nat.le_mul_of_pos_right m positiveN
    have right := Nat.le_mul_of_pos_left n positiveM
    have lowest := one.full
    have lowestOther := other.full
    unfold place
    omega

theorem mul_signed (finiteA : a.isFinite = true) (finiteB : b.isFinite = true) :
    ∃ w, a * b = signed (a.sign * b.sign) w ∧ NearestMagnitude (|a.value * b.value| / smallest) w := by
  rw [mul_eq]
  rcases parts_finite finiteA with ⟨zeroA, partsA⟩ | ⟨positiveA, partsA⟩
  · rw [zeroA, zero_mul, partsA]
    rcases parts_finite finiteB with ⟨zeroB, partsB⟩ | ⟨positiveB, partsB⟩ <;>
    · rw [partsB]
      exact ⟨0, packed_zero _, nearest_zero⟩
  · rcases parts_finite finiteB with ⟨zeroB, partsB⟩ | ⟨positiveB, partsB⟩
    · rw [zeroB, mul_zero, partsA, partsB]
      exact ⟨0, packed_zero _, nearest_zero⟩
    · have low := mul_place a.canonical_word b.canonical_word positiveA positiveB
      obtain ⟨w, word, near⟩ := roundWithAccuracy_nearest (s := a.sign * b.sign)
        (Nat.mul_pos positiveA positiveB) low
      rw [partsA, partsB, value_sign a, value_sign b, signedValue_mul, abs_signedValue, div_smallest]
      exact ⟨w, word, near⟩

theorem mul_rounds (finiteA : a.isFinite = true) (finiteB : b.isFinite = true) :
    Rounds (a.value * b.value) (a * b) := by
  obtain ⟨w, word, near⟩ := mul_signed finiteA finiteB
  rw [word]
  apply rounds_signed near <;> rw [value_sign a, value_sign b, signedValue_mul]
  · exact signedValue_negative
  · exact signedValue_positive

end Binary64

end Labbook
