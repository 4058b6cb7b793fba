import Labbook.Analysis.Setpoint
import Labbook.Proofs.Number.LargestMagnitude
import Labbook.Proofs.Number.ScaledWord

namespace Labbook

namespace Tolerance
open Binary64

-- The relative tolerance, and the absolute one in smallest steps.
def relative : Rat := (1e-5 : Binary64).value

def absoluteSteps : Nat := steps (1e-8 : Binary64).magnitude.toNat

theorem relative_pos : 0 < relative := by
  decide +kernel

theorem relative_le : relative ≤ 1 / 16 := by
  decide +kernel

theorem absoluteSteps_ge : 2 ^ 53 ≤ absoluteSteps := by
  decide +kernel

-- The magnitudes of the relative tolerance and of the sum of both tolerances, for a word that is `f`
-- smallest steps from zero.
structure Allowed (f share bound : Nat) : Prop where
  nearShare : NearestMagnitude (relative * f) share
  nearBound : NearestMagnitude (absoluteSteps + steps share : Nat) bound

theorem share_le {f share : Nat} (near : NearestMagnitude (relative * f) share) (finite : f < steps top) :
    share ≤ 2043 * 2 ^ 52 := by
  have own := NearestMagnitude.exact (m := 2043 * 2 ^ 52) (by decide)
  have shifted := steps_shift (m := 2043 * 2 ^ 52) (by decide) 4
  rw [← Nat.add_mul] at shifted
  have size : (f : Rat) ≤ steps (2043 * 2 ^ 52) * 2 ^ 4 := by
    rw [top, shifted] at finite
    exact_mod_cast finite.le
  have part := mul_le_mul_of_nonneg_right relative_le (Nat.cast_nonneg' (α := Rat) f)
  refine near.mono ?_ own
  linarith

namespace Allowed
variable {f share bound n share' bound' u gap gap' : Nat}

theorem share_le_bound (allowed : Allowed f share bound) : share ≤ bound := by
  have own := NearestMagnitude.exact allowed.nearShare.inside
  apply own.mono _ allowed.nearBound
  exact_mod_cast Nat.le_add_left _ _

theorem sum_normal (share : Nat) : (2 ^ 52 : Rat) ≤ (absoluteSteps + steps share : Nat) := by
  have large := absoluteSteps_ge
  exact_mod_cast (show 2 ^ 52 ≤ absoluteSteps + steps share by omega)

theorem bound_lt_top (allowed : Allowed f share bound) (finite : f < steps top) : bound < top := by
  have few := steps_strictMono.monotone (share_le allowed.nearShare finite)
  have most : absoluteSteps ≤ steps (2043 * 2 ^ 52) := by decide +kernel
  have twice := steps_shift (m := 2043 * 2 ^ 52) (by decide) 1
  rw [← Nat.add_mul] at twice
  have double : absoluteSteps + steps share ≤ steps ((2043 + 1) * 2 ^ 52) := by omega
  have own := NearestMagnitude.exact (m := (2043 + 1) * 2 ^ 52) (by decide)
  have least := allowed.nearBound.mono (by exact_mod_cast double) own
  unfold top
  omega

-- A share below the smallest exponent, rounded at a larger scale.
theorem steps_share_le (small : relative * f < 2 ^ 52)
    (near : NearestMagnitude (relative * f * 2 ^ n) share) : steps share ≤ 2 ^ 52 * 2 ^ n := by
  have capped := NearestMagnitude.exact_capped (2 ^ 52 + n * 2 ^ 52)
  have below : relative * f * 2 ^ n ≤ (steps (2 ^ 52 + n * 2 ^ 52) : Nat) := by
    rw [steps_shift le_rfl, NearestMagnitude.steps_normal]
    push_cast
    exact mul_le_mul_of_nonneg_right small.le (pow_nonneg two_pos.le n)
  have few := (near.mono below capped).trans (Nat.min_le_left _ _)
  have least := steps_strictMono.monotone few
  rwa [steps_shift le_rfl, NearestMagnitude.steps_normal] at least

-- At a larger scale the sum of the tolerances has not grown by more than the factor.
theorem sum_scaled (one : Allowed f share bound) (other : Allowed (f * 2 ^ n) share' bound') :
    absoluteSteps + steps share' ≤ (absoluteSteps + steps share) * 2 ^ n := by
  have large := absoluteSteps_ge
  have product : relative * (f * 2 ^ n : Nat) = relative * f * 2 ^ n := by
    push_cast
    ring
  have nearest := other.nearShare
  rw [product] at nearest
  by_cases normal : 2 ^ 52 ≤ relative * f
  · have moved := nearest.unique (one.nearShare.scale n normal)
    have least : steps share' ≤ steps share * 2 ^ n := by
      rw [← steps_shift (one.nearShare.normal_le normal), moved]
      exact steps_strictMono.monotone (Nat.min_le_left _ _)
    rw [Nat.add_mul]
    exact Nat.add_le_add (Nat.le_mul_of_pos_right _ (Nat.two_pow_pos n)) least
  · cases n with
    | zero =>
      rw [pow_zero, mul_one] at nearest
      rw [nearest.unique one.nearShare, pow_zero, Nat.mul_one]
    | succ k =>
      -- The share may have grown by more, but not past what the absolute tolerance has.
      have least := steps_share_le (not_le.mp normal) nearest
      have room : 2 ^ 53 * 2 ^ k ≤ absoluteSteps * 2 ^ k := Nat.mul_le_mul_right _ large
      have once : absoluteSteps ≤ absoluteSteps * 2 ^ k := Nat.le_mul_of_pos_right _ (Nat.two_pow_pos k)
      rw [pow_succ 2 k] at least ⊢
      rw [Nat.add_mul, ← Nat.mul_assoc absoluteSteps]
      omega

theorem bound_scaled (one : Allowed f share bound) (other : Allowed (f * 2 ^ n) share' bound') :
    steps bound' ≤ steps bound * 2 ^ n := by
  have normal := sum_normal share
  have sum := one.sum_scaled other
  have least := other.nearBound.mono (by exact_mod_cast sum) (one.nearBound.scale n normal)
  rw [← steps_shift (one.nearBound.normal_le normal)]
  exact steps_strictMono.monotone (least.trans (Nat.min_le_left _ _))

-- What is allowed at the larger scale is allowed at the smaller one.
theorem of_scaled (one : Allowed f share bound) (other : Allowed (f * 2 ^ n) share' bound')
    (finite : f * 2 ^ n < steps top) (near : NearestMagnitude u gap)
    (nearScaled : NearestMagnitude (u * 2 ^ n) gap') (close : gap' ≤ bound') : gap ≤ bound := by
  have inside := other.bound_lt_top finite
  have grown := one.bound_scaled other
  obtain ⟨w, scaledGap, capped⟩ := near.scale_whole n
  have same := nearScaled.unique capped
  have least : w ≤ bound' := by omega
  have sizes := steps_strictMono.monotone least
  rw [scaledGap] at sizes
  have scaled := Nat.le_of_mul_le_mul_right (sizes.trans grown) (Nat.two_pow_pos n)
  exact steps_strictMono.le_iff_le.mp scaled

theorem of_relative (allowed : Allowed f share bound) (near : NearestMagnitude u gap)
    (within : (u : Rat) ≤ relative * f) : gap ≤ bound :=
  (near.mono within allowed.nearShare).trans allowed.share_le_bound

end Allowed

end Tolerance

namespace Setpoint
open Binary64 Tolerance
variable {a b v w v' w' : Binary64} {n s : Nat}

def tolerance (b : Binary64) : Binary64 := 1e-8 + 1e-5 * b.absolute

theorem isClose_iff (a b : Binary64) : isClose a b = true ↔ (a - b).absolute ≤ tolerance b :=
  decide_eq_true_iff

theorem not_isClose_of_isNaN (broken : (a - b).isNaN = true) : isClose a b = false := by
  rw [Bool.eq_false_iff, ne_eq, isClose_iff]
  intro close
  have measured := (Binary64.le_iff.mp close).1
  rw [isNaN_absolute, broken] at measured
  cases measured

section
variable (finite : b.isFinite = true) (size : |b.value| = s * smallest)
include finite size

theorem steps_lt_top : s < Binary64.steps top := by
  have below := abs_value_lt finite
  rw [size] at below
  exact_mod_cast lt_of_mul_lt_mul_right below smallest_pos.le

theorem share_near : (1e-5 * b.absolute : Binary64).isFinite = true ∧
    (1e-5 * b.absolute : Binary64).value =
      Binary64.steps (1e-5 * b.absolute : Binary64).magnitude.toNat * smallest ∧
    NearestMagnitude (relative * s) (1e-5 * b.absolute : Binary64).magnitude.toNat := by
  have part := mul_rounds (a := 1e-5) (b := b.absolute) (by decide +kernel)
    (by rw [isFinite_absolute, finite])
  have product : (1e-5 : Binary64).value * b.absolute.value = relative * s * smallest := by
    rw [value_absolute, size, ← mul_assoc]
    rfl
  have least : 0 ≤ relative * s * smallest :=
    mul_nonneg (mul_nonneg relative_pos.le (Nat.cast_nonneg s)) smallest_pos.le
  rw [product] at part
  have near := part.near
  rw [abs_of_nonneg least, mul_div_cancel_right₀ _ smallest_pos.ne'] at near
  refine ⟨?_, part.value_nonneg least, near⟩
  have few := share_le near (steps_lt_top finite size)
  rw [isFinite_iff_magnitude, top]
  omega

theorem tolerance_allowed : (tolerance b).isNegative = false ∧
    ∃ share, Allowed s share (tolerance b).magnitude.toNat := by
  obtain ⟨finiteShare, value, nearShare⟩ := share_near finite size
  have sum := add_rounds (a := 1e-8) (by decide +kernel) finiteShare
  have first : (1e-8 : Binary64).value = absoluteSteps * smallest := value_unsigned (by decide +kernel)
  have total : (1e-8 : Binary64).value + (1e-5 * b.absolute : Binary64).value =
      (absoluteSteps + Binary64.steps (1e-5 * b.absolute : Binary64).magnitude.toNat : Nat) * smallest := by
    rw [first, value]
    push_cast
    ring
  rw [total] at sum
  have normal := Allowed.sum_normal (1e-5 * b.absolute : Binary64).magnitude.toNat
  have positive := mul_pos (lt_of_lt_of_le (by norm_num) normal) smallest_pos
  have nearBound := sum.near
  rw [abs_of_pos positive, mul_div_cancel_right₀ _ smallest_pos.ne'] at nearBound
  exact ⟨sum.positive positive, _, nearShare, nearBound⟩

end

-- Close, but not within the relative tolerance: the absolute one decides.
structure AbsolutelyClose (a b : Binary64) : Prop where
  finite : a.isFinite = true ∧ b.isFinite = true
  close : isClose a b = true
  beyond : relative * |b.value| < |a.value - b.value|

theorem isClose_iff_allowed {u : Nat} (finiteA : a.isFinite = true) (finiteB : b.isFinite = true)
    (distance : |a.value - b.value| = u * smallest) (size : |b.value| = s * smallest) :
    ∃ gap share bound, NearestMagnitude u gap ∧ Allowed s share bound ∧
      (isClose a b = true ↔ gap ≤ bound) := by
  obtain ⟨unsigned, share, allowed⟩ := tolerance_allowed finiteB size
  have near := (sub_rounds finiteA finiteB).near
  rw [distance, mul_div_cancel_right₀ _ smallest_pos.ne'] at near
  refine ⟨_, share, _, near, allowed, ?_⟩
  have measuredGap : (a - b).absolute.isNaN = false := by
    rw [isNaN_absolute]
    exact (measured_iff_magnitude _).mpr near.inside
  have measuredBound : (tolerance b).isNaN = false :=
    (measured_iff_magnitude _).mpr (allowed.bound_lt_top (steps_lt_top finiteB size)).le
  rw [isClose_iff, le_iff_magnitude measuredGap measuredBound (isNegative_absolute _) unsigned,
    magnitude_absolute]

section
variable (one : Multiple n v w) (other : Multiple n v' w')
include one other

theorem distance_multiple : |w.value - w'.value| = |v.value - v'.value| * 2 ^ n := by
  have unit : (0 : Rat) < 2 ^ n := pow_pos two_pos n
  rw [one.value, other.value, ← sub_mul, abs_mul, abs_of_pos unit]

theorem isClose_of_multiple (close : isClose w w' = true) : isClose v v' = true := by
  obtain ⟨u, distance⟩ := exists_distance v v'
  have size := abs_value v'
  have moved : |w.value - w'.value| = (u * 2 ^ n : Nat) * smallest := by
    rw [distance_multiple one other, distance]
    push_cast
    ring
  have grown : |w'.value| = (Binary64.steps v'.magnitude.toNat * 2 ^ n : Nat) * smallest := by
    rw [abs_value, other.steps]
  obtain ⟨gap, share, bound, near, allowed, closeness⟩ :=
    isClose_iff_allowed one.finite other.finite distance size
  obtain ⟨gap', share', bound', near', allowed', closeness'⟩ :=
    isClose_iff_allowed one.finiteProduct other.finiteProduct moved grown
  have inside := steps_lt_top other.finiteProduct grown
  push_cast at near'
  exact closeness.mpr (allowed.of_scaled allowed' inside near near' (closeness'.mp close))

theorem absolutelyClose_of_multiple (close : isClose v v' = true) (apart : isClose w w' = false) :
    AbsolutelyClose v v' := by
  refine ⟨⟨one.finite, other.finite⟩, close, ?_⟩
  by_contra within
  rw [not_lt] at within
  have unit : (0 : Rat) < 2 ^ n := pow_pos two_pos n
  obtain ⟨u, distance⟩ := exists_distance w w'
  have size := abs_value w'
  obtain ⟨gap, share, bound, near, allowed, closeness⟩ :=
    isClose_iff_allowed one.finiteProduct other.finiteProduct distance size
  have most : |w.value - w'.value| ≤ relative * |w'.value| := by
    rw [distance_multiple one other, other.value, abs_mul, abs_of_pos unit, ← mul_assoc]
    exact mul_le_mul_of_nonneg_right within unit.le
  rw [distance, size, ← mul_assoc] at most
  have least := le_of_mul_le_mul_right most smallest_pos
  rw [closeness.mpr (allowed.of_relative near least)] at apart
  cases apart

end

theorem tolerance_infinite (kind : b.isInfinite = true) : tolerance b = infinity := by
  rcases infinite_cases kind with rfl | rfl <;> decide +kernel

theorem absolute_infinite (kind : a.isInfinite = true) : a.absolute = infinity := by
  rcases infinite_cases kind with rfl | rfl <;> decide

-- An infinity is as far from a finite word as its tolerance reaches.
theorem isClose_infinite_right (finite : a.isFinite = true) (kind : b.isInfinite = true) :
    isClose a b = true := by
  rw [isClose_iff, tolerance_infinite kind, absolute_infinite (sub_infinite_right finite kind)]
  decide

theorem not_isClose_infinite_left (kind : a.isInfinite = true) (finite : b.isFinite = true) :
    isClose a b = false := by
  obtain ⟨unsigned, share, allowed⟩ := tolerance_allowed finite (abs_value b)
  have below := allowed.bound_lt_top (steps_lt_top finite (abs_value b))
  have measured : (tolerance b).isNaN = false := (measured_iff_magnitude _).mpr below.le
  rw [Bool.eq_false_iff, ne_eq, isClose_iff, absolute_infinite (sub_infinite_left kind finite),
    le_iff_magnitude (by decide) measured (by decide) unsigned]
  exact not_le.mpr below

theorem not_isClose_nan (broken : a.isNaN = true) (b : Binary64) : isClose a b = false := by
  apply not_isClose_of_isNaN
  rw [sub_eq, parts_notANumber broken]
  exact (by decide : (packed .notANumber).isNaN = true)

theorem finite_of_isClose (close : isClose a b = true) (finite : b.isFinite = true) :
    a.isFinite = true := by
  cases broken : a.isNaN with
  | true =>
    rw [not_isClose_nan broken] at close
    cases close
  | false =>
    refine (kind_cases broken).resolve_right fun kind => ?_
    rw [not_isClose_infinite_left kind finite] at close
    cases close

-- Only finite words are close to themselves.
theorem finite_of_isClose_self (close : isClose a a = true) : a.isFinite = true := by
  cases broken : a.isNaN with
  | true =>
    rw [not_isClose_nan broken] at close
    cases close
  | false =>
    refine (kind_cases broken).resolve_right fun kind => ?_
    have lost : (a - a).isNaN = true := by
      rw [sub_self_infinite kind]
      rfl
    rw [not_isClose_of_isNaN lost] at close
    cases close

section
variable (one : Scaled n v w) (other : Scaled n v' w')
include one other

theorem isClose_of_scaled (close : isClose w w' = true) : isClose v v' = true := by
  cases other with
  | finite multiple' =>
    cases one with
    | finite multiple => exact isClose_of_multiple multiple multiple' close
    | infinite kind =>
      rw [not_isClose_infinite_left kind multiple'.finiteProduct] at close
      cases close
  | infinite kind' =>
    cases one with
    | finite multiple => exact isClose_infinite_right multiple.finite kind'
    | infinite => exact close

theorem absolutelyClose_of_scaled (close : isClose v v' = true) (apart : isClose w w' = false) :
    AbsolutelyClose v v' := by
  cases other with
  | finite multiple' =>
    cases one with
    | finite multiple => exact absolutelyClose_of_multiple multiple multiple' close apart
    | infinite kind =>
      rw [not_isClose_infinite_left kind multiple'.finite] at close
      cases close
  | infinite kind' =>
    cases one with
    | finite multiple =>
      rw [isClose_infinite_right multiple.finiteProduct kind'] at apart
      cases apart
    | infinite =>
      rw [close] at apart
      cases apart

end

end Setpoint

end Labbook
