import Labbook.Proofs.Number.WordKinds
import Mathlib.Logic.Relator

namespace Labbook

namespace Binary64
variable {n : Nat} {k : Int} {a b v w v' w' s : Binary64}

-- Finite words, the second one with the value of the first times a power of two.
structure Multiple (n : Nat) (v w : Binary64) : Prop where
  finite : v.isFinite = true
  finiteProduct : w.isFinite = true
  value : w.value = v.value * 2 ^ n

-- The same with the sign of the first, also at zero; an infinity stays what it is.
inductive Scaled (n : Nat) (v : Binary64) : Binary64 → Prop where
  | finite {w : Binary64} (multiple : Multiple n v w) (signs : w.isNegative = v.isNegative) :
      Scaled n v w
  | infinite (kind : v.isInfinite = true) : Scaled n v v

theorem Multiple.steps (multiple : Multiple n v w) :
    steps w.magnitude.toNat = steps v.magnitude.toNat * 2 ^ n := by
  have unit : (0 : Rat) < 2 ^ n := pow_pos two_pos n
  have sizes := congrArg abs multiple.value
  rw [abs_mul, abs_of_pos unit, abs_value, abs_value, mul_right_comm] at sizes
  exact_mod_cast mul_right_cancel₀ smallest_pos.ne' sizes

namespace Scaled

theorem measured (scaled : Scaled n v w) : v.isNaN = false ∧ w.isNaN = false := by
  cases scaled with
  | finite multiple =>
    exact ⟨not_isNaN_of_isFinite multiple.finite, not_isNaN_of_isFinite multiple.finiteProduct⟩
  | infinite kind => exact ⟨not_isNaN_of_isInfinite kind, not_isNaN_of_isInfinite kind⟩

theorem sign (scaled : Scaled n v w) : w.isNegative = v.isNegative := by
  cases scaled with
  | finite multiple signs => exact signs
  | infinite kind => rfl

theorem zero (n : Nat) : Scaled n 0 0 := by
  have value : (0 : Binary64).value = 0 := value_of_magnitude (by decide)
  refine .finite ⟨by decide, by decide, ?_⟩ rfl
  rw [value, zero_mul]

theorem magnitude_le (one : Scaled n v w) (other : Scaled n v' w') :
    w.magnitude.toNat ≤ w'.magnitude.toNat ↔ v.magnitude.toNat ≤ v'.magnitude.toNat := by
  cases one with
  | finite multiple =>
    cases other with
    | finite multiple' =>
      rw [← steps_strictMono.le_iff_le, ← steps_strictMono.le_iff_le (a := v.magnitude.toNat),
        multiple.steps, multiple'.steps]
      exact Nat.mul_le_mul_right_iff (Nat.two_pow_pos n)
    | infinite kind =>
      have size := (isInfinite_iff_magnitude _).mp kind
      have below := (isFinite_iff_magnitude _).mp multiple.finite
      have belowProduct := (isFinite_iff_magnitude _).mp multiple.finiteProduct
      omega
  | infinite kind =>
    have size := (isInfinite_iff_magnitude _).mp kind
    cases other with
    | finite multiple' =>
      have below := (isFinite_iff_magnitude _).mp multiple'.finite
      have belowProduct := (isFinite_iff_magnitude _).mp multiple'.finiteProduct
      omega
    | infinite => rfl

end Scaled

theorem orderIndex_magnitude (x : Binary64) : x.orderIndex.toNat =
    if x.isNegative then 2 ^ 63 - 1 - x.magnitude.toNat else x.magnitude.toNat + 2 ^ 63 := by
  have bound := x.bits.toNat_lt
  have upper := isNegative_iff x
  rw [orderIndex_toNat, magnitude_toNat]
  cases negative : x.isNegative with
  | true =>
    have set := upper.mp negative
    rw [if_pos set, if_pos rfl]
    omega
  | false =>
    have unset := mt upper.mpr (Bool.eq_false_iff.mp negative)
    rw [if_neg unset, if_neg Bool.false_ne_true]
    omega

theorem precedes_iff_magnitude (a b : Binary64) : a.precedes b = true ↔
    if a.isNegative then b.isNegative = true → b.magnitude.toNat ≤ a.magnitude.toNat
    else b.isNegative = false ∧ a.magnitude.toNat ≤ b.magnitude.toNat := by
  have boundA := a.magnitude_lt
  have boundB := b.magnitude_lt
  rw [precedes_iff, orderIndex_magnitude, orderIndex_magnitude]
  cases a.isNegative <;> cases b.isNegative <;> simp <;> omega

theorem equals_iff_rank (measuredA : a.isNaN = false) (measuredB : b.isNaN = false) :
    a.equals b = true ↔ a.rank = b.rank := by
  have atA := valueIndex_rank a
  have atB := valueIndex_rank b
  rw [equals_iff]
  simp only [measuredA, measuredB, true_and]
  split at atA <;> split at atB <;> omega

theorem eq_of_magnitude (signs : a.isNegative = b.isNegative)
    (sizes : a.magnitude.toNat = b.magnitude.toNat) : a = b := by
  rw [← signed_magnitude a, ← signed_magnitude b, Binary64.sign, Binary64.sign, signs, sizes]

namespace Scaled

theorem precedes (one : Scaled n v w) (other : Scaled n v' w') : w.precedes w' = v.precedes v' := by
  rw [Bool.eq_iff_iff, precedes_iff_magnitude, precedes_iff_magnitude, one.sign, other.sign,
    one.magnitude_le other, other.magnitude_le one]

theorem equals (one : Scaled n v w) (other : Scaled n v' w') : w.equals w' = v.equals v' := by
  have upper := one.magnitude_le other
  have lower := other.magnitude_le one
  have empty := one.magnitude_le (zero n)
  have empty' := other.magnitude_le (zero n)
  have least : (0 : Binary64).magnitude.toNat = 0 := by decide
  rw [least] at empty empty'
  rw [Bool.eq_iff_iff, equals_iff_rank one.measured.2 other.measured.2,
    equals_iff_rank one.measured.1 other.measured.1, rank, rank, rank, rank, one.sign, other.sign]
  split <;> split <;> omega

theorem biUnique (n : Nat) : Relator.BiUnique (Scaled n) := by
  constructor
  · intro v v' w one other
    have upper := one.magnitude_le other
    have lower := other.magnitude_le one
    exact eq_of_magnitude (one.sign.symm.trans other.sign) (by omega)
  · intro v w w' one other
    have upper := one.magnitude_le other
    have lower := other.magnitude_le one
    exact eq_of_magnitude (one.sign.trans other.sign.symm) (by omega)

end Scaled

structure IsPower (s : Binary64) (k : Int) : Prop where
  finite : s.isFinite = true
  value : s.value = 2 ^ k

-- A product that nothing is lost of. Infinities and NaNs have nothing to lose.
def ExactProduct (s v : Binary64) : Prop :=
  v.isFinite = true → (v * s).isFinite = true ∧ (v * s).value = v.value * s.value

instance (s v : Binary64) : Decidable (ExactProduct s v) := inferInstanceAs (Decidable (_ → _))

theorem sign_mul (finiteA : a.isFinite = true) (finiteB : b.isFinite = true) :
    (a * b).sign = a.sign * b.sign := by
  obtain ⟨w, word, near⟩ := mul_signed finiteA finiteB
  rw [word, sign_signed (near.inside.trans_lt (by decide))]

namespace IsPower

theorem positive (power : IsPower s k) : s.sign = .positive := by
  have above : 0 < s.value := by
    rw [power.value]
    exact zpow_pos two_pos k
  exact signedValue_positive (value_sign s ▸ above)

theorem parts (power : IsPower s k) : ∃ positive,
    s.parts = .finite .positive s.mantissa s.exponent positive := by
  rcases parts_finite power.finite with ⟨zero, -⟩ | ⟨positive, parts⟩
  · rw [power.value] at zero
    exact absurd zero (zpow_ne_zero k two_ne_zero)
  · rw [power.positive] at parts
    exact ⟨positive, parts⟩

theorem isNegative_mul (power : IsPower s k) (finite : v.isFinite = true) :
    (v * s).isNegative = v.isNegative := by
  have signs := sign_mul finite power.finite
  have neutral : v.sign * s.sign = v.sign := by
    rw [power.positive]
    cases v.sign <;> rfl
  rw [neutral] at signs
  rw [Bool.eq_iff_iff, ← sign_negative, ← sign_negative, signs]

theorem infinite_mul (power : IsPower s k) (kind : v.isInfinite = true) : v * s = v := by
  obtain ⟨positive, parts⟩ := power.parts
  have own := packed_parts (not_isNaN_of_isInfinite kind)
  rw [parts_infinity kind] at own
  have neutral : v.sign * .positive = v.sign := by cases v.sign <;> rfl
  rw [mul_eq, parts_infinity kind, parts]
  change packed (.infinity (v.sign * .positive)) = v
  rw [neutral, own]

end IsPower

theorem mul_notANumber (broken : v.isNaN = true) (s : Binary64) : v * s = nan := by
  rw [mul_eq, parts_notANumber broken]
  exact packed_notANumber

theorem isNaN_mul (power : IsPower s k) (lossless : ExactProduct s v) : (v * s).isNaN = v.isNaN := by
  cases broken : v.isNaN with
  | true =>
    rw [mul_notANumber broken]
    rfl
  | false =>
    rcases kind_cases broken with finite | kind
    · exact not_isNaN_of_isFinite (lossless finite).1
    · rw [power.infinite_mul kind, broken]

theorem scaled_mul (power : IsPower s n) (measured : v.isNaN = false) (lossless : ExactProduct s v) :
    Scaled n v (v * s) := by
  rcases kind_cases measured with finite | kind
  · obtain ⟨finiteProduct, value⟩ := lossless finite
    rw [power.value, zpow_natCast] at value
    exact .finite ⟨finite, finiteProduct, value⟩ (power.isNegative_mul finite)
  · rw [power.infinite_mul kind]
    exact .infinite kind

theorem mul_scaled (power : IsPower s (-n)) (measured : v.isNaN = false) (lossless : ExactProduct s v) :
    Scaled n (v * s) v := by
  rcases kind_cases measured with finite | kind
  · obtain ⟨finiteProduct, value⟩ := lossless finite
    have unit : (2 : Rat) ^ n ≠ 0 := pow_ne_zero n two_ne_zero
    rw [power.value, zpow_neg, zpow_natCast] at value
    refine .finite ⟨finiteProduct, finite, ?_⟩ (power.isNegative_mul finite).symm
    rw [value, inv_mul_cancel_right₀ unit]
  · rw [power.infinite_mul kind]
    exact .infinite kind

-- What becomes of a difference when both words are multiplied.
inductive Grown (n : Nat) (d e : Binary64) : Prop where
  | multiple (multiple : Multiple n d e)
  | overflow (finite : d.isFinite = true) (kind : e.isInfinite = true)
  | unlimited (kind : d.isFinite = false) (kindProduct : e.isFinite = false)

theorem sub_infinite_left (kind : a.isInfinite = true) (finite : b.isFinite = true) :
    (a - b).isInfinite = true := by
  have same : a - b = a := by
    have own := packed_parts (not_isNaN_of_isInfinite kind)
    rw [parts_infinity kind] at own
    rw [sub_eq, parts_infinity kind]
    rcases parts_finite finite with ⟨-, parts⟩ | ⟨positive, parts⟩ <;>
    · rw [parts]
      exact own
  rw [same, kind]

theorem sub_infinite_right (finite : a.isFinite = true) (kind : b.isInfinite = true) :
    (a - b).isInfinite = true := by
  rw [sub_eq, parts_infinity kind]
  rcases parts_finite finite with ⟨-, parts⟩ | ⟨positive, parts⟩ <;>
  · rw [parts]
    change (packed (.infinity (-b.sign))).isInfinite = true
    cases b.sign <;> decide

theorem not_isFinite_of_isInfinite (kind : a.isInfinite = true) : a.isFinite = false := by
  rw [Bool.eq_false_iff]
  intro finite
  rw [not_isInfinite_of_isFinite finite] at kind
  cases kind

theorem sub_infinite_both (kindA : a.isInfinite = true) (kindB : b.isInfinite = true) :
    (a - b).isFinite = false := by
  rcases infinite_cases kindA with rfl | rfl <;> rcases infinite_cases kindB with rfl | rfl <;>
    decide +kernel

theorem Multiple.sub (one : Multiple n v w) (other : Multiple n v' w') :
    Grown n (v - v') (w - w') := by
  have unit : (0 : Rat) < 2 ^ n := pow_pos two_pos n
  have rounds := sub_rounds one.finite other.finite
  have product := sub_rounds one.finiteProduct other.finiteProduct
  rw [one.value, other.value, ← sub_mul] at product
  obtain ⟨u, distance⟩ := exists_distance v v'
  have near := rounds.near
  have nearProduct := product.near
  rw [distance, mul_div_cancel_right₀ _ smallest_pos.ne'] at near
  rw [abs_mul, abs_of_pos unit, distance, mul_right_comm, mul_div_cancel_right₀ _ smallest_pos.ne']
    at nearProduct
  obtain ⟨m, stretched, capped⟩ := near.scale_whole n
  have size := nearProduct.unique capped
  by_cases finite : (v - v').isFinite = true
  · rcases Nat.lt_or_ge m top with inside | past
    · rw [Nat.min_eq_left inside.le] at size
      have finiteProduct : (w - w').isFinite = true := by
        rw [isFinite_iff_magnitude, size]
        exact inside
      refine .multiple ⟨finite, finiteProduct, ?_⟩
      rcases le_total 0 (v.value - v'.value) with least | most
      · rw [rounds.value_nonneg least, product.value_nonneg (mul_nonneg least unit.le), size, stretched]
        push_cast
        ring
      · rw [rounds.value_nonpos most, product.value_nonpos (mul_nonpos_of_nonpos_of_nonneg most unit.le),
          size, stretched]
        push_cast
        ring
    · rw [Nat.min_eq_right past] at size
      exact .overflow finite ((isInfinite_iff_magnitude _).mpr size)
  · have large := mt (isFinite_iff_magnitude _).mpr finite
    have grows : (v - v').magnitude.toNat ≤ m := by
      rw [← steps_strictMono.le_iff_le, stretched]
      exact Nat.le_mul_of_pos_right _ (Nat.two_pow_pos n)
    refine .unlimited (Bool.eq_false_iff.mpr finite) ?_
    rw [Bool.eq_false_iff, ne_eq, isFinite_iff_magnitude]
    omega

theorem Scaled.sub (one : Scaled n v w) (other : Scaled n v' w') : Grown n (v - v') (w - w') := by
  cases one with
  | finite multiple =>
    cases other with
    | finite multiple' => exact multiple.sub multiple'
    | infinite kind =>
      exact .unlimited (not_isFinite_of_isInfinite (sub_infinite_right multiple.finite kind))
        (not_isFinite_of_isInfinite (sub_infinite_right multiple.finiteProduct kind))
  | infinite kind =>
    cases other with
    | finite multiple' =>
      exact .unlimited (not_isFinite_of_isInfinite (sub_infinite_left kind multiple'.finite))
        (not_isFinite_of_isInfinite (sub_infinite_left kind multiple'.finiteProduct))
    | infinite kind' => exact .unlimited (sub_infinite_both kind kind') (sub_infinite_both kind kind')

end Binary64

end Labbook
