import Labbook.Proofs.Number.Rounding
import Labbook.Proofs.Number.WordValue
import Mathlib.Algebra.Order.Ring.Nat

namespace Labbook

namespace Binary64

def top : Nat := 2047 * 2 ^ 52

-- The distances are compared through the midpoints of `m` and the other magnitudes.
structure NearestMagnitude (q : Rat) (m : Nat) : Prop where
  inside : m ≤ top
  below : ∀ n < m, (steps n + steps m : Rat) ≤ 2 * q ∧ ((steps n + steps m : Rat) = 2 * q → Even m)
  above : ∀ n ≤ top, m < n →
    2 * q ≤ (steps m + steps n : Rat) ∧ (2 * q = (steps m + steps n : Rat) → Even m)

theorem steps_lt {m n : Nat} (less : m < n) : (steps m : Rat) < steps n := by
  exact_mod_cast steps_strictMono less

theorem steps_le {m n : Nat} (least : m ≤ n) : (steps m : Rat) ≤ steps n := by
  exact_mod_cast steps_strictMono.monotone least

theorem steps_grid {g t : Nat} (small : t ≤ 2 ^ 53) (full : 2 ^ 52 ≤ t ∨ g = 0) :
    steps (g * 2 ^ 52 + t) = t * 2 ^ g := by
  rcases Nat.eq_or_lt_of_le small with carry | inside
  · subst carry
    have field : (g * 2 ^ 52 + 2 ^ 53) / 2 ^ 52 = g + 2 := by omega
    have rest : (g * 2 ^ 52 + 2 ^ 53) % 2 ^ 52 = 0 := by omega
    rw [steps, field, rest, if_neg (Nat.succ_ne_zero _), Nat.zero_add]
    change 2 ^ 52 * 2 ^ (g + 1) = 2 ^ 53 * 2 ^ g
    ring
  · rcases full with filled | lowest
    · have field : (g * 2 ^ 52 + t) / 2 ^ 52 = g + 1 := by omega
      have rest : (g * 2 ^ 52 + t) % 2 ^ 52 + 2 ^ 52 = t := by omega
      rw [steps, field, rest, if_neg (Nat.succ_ne_zero _), Nat.add_sub_cancel]
    · subst lowest
      rw [Nat.zero_mul, Nat.zero_add, pow_zero, Nat.mul_one, steps]
      split
      · rfl
      · have field : t / 2 ^ 52 = 1 := by omega
        rw [field]
        omega

theorem steps_few {t : Nat} (few : t ≤ 2 ^ 53) : steps t = t := by
  have grid := steps_grid few (.inr (Eq.refl 0))
  rwa [Nat.zero_mul, Nat.zero_add, pow_zero, Nat.mul_one] at grid

-- Past the smallest exponent a power of two moves the exponent alone.
theorem steps_shift {m : Nat} (normal : 2 ^ 52 ≤ m) (k : Nat) :
    steps (m + k * 2 ^ 52) = steps m * 2 ^ k := by
  obtain ⟨e, field⟩ : ∃ e, m / 2 ^ 52 = e + 1 := ⟨m / 2 ^ 52 - 1, by omega⟩
  have moved : (m + k * 2 ^ 52) / 2 ^ 52 = e + k + 1 := by omega
  have rest : (m + k * 2 ^ 52) % 2 ^ 52 = m % 2 ^ 52 := by omega
  rw [steps, steps, moved, rest, field, if_neg (Nat.succ_ne_zero _), if_neg (Nat.succ_ne_zero _),
    Nat.add_sub_cancel, Nat.add_sub_cancel, pow_add, Nat.mul_assoc]

-- A number with few enough bits counts the steps of some magnitude, and so do its products with powers of
-- two.
theorem exists_steps {t : Nat} (few : t < 2 ^ 53) (k : Nat) : ∃ m, steps m = t * 2 ^ k := by
  induction k generalizing t with
  | zero => exact ⟨t, by rw [steps_few few.le, pow_zero, Nat.mul_one]⟩
  | succ k ih =>
    by_cases normal : 2 ^ 52 ≤ t
    · exact ⟨t + (k + 1) * 2 ^ 52, by rw [steps_shift normal, steps_few few.le]⟩
    · obtain ⟨m, same⟩ := @ih (t * 2) (by omega)
      exact ⟨m, by rw [same, Nat.mul_assoc, ← pow_succ']⟩

namespace NearestMagnitude
variable {p q : Rat} {m n : Nat}

-- Between two magnitudes that differ there is a third, or only one of them is even.
theorem mono (least : p ≤ q) (one : NearestMagnitude p m) (other : NearestMagnitude q n) : m ≤ n := by
  by_contra crossed
  rw [not_le] at crossed
  obtain ⟨low, evenM⟩ := one.below n crossed
  obtain ⟨high, evenN⟩ := other.above m one.inside crossed
  have same : (steps n + steps m : Rat) = 2 * p := by linarith
  have tie : 2 * q = (steps n + steps m : Rat) := by linarith
  by_cases next : m = n + 1
  · have even := evenM same
    rw [next, Nat.even_add_one] at even
    exact even (evenN tie)
  · have between : n + 1 < m := by omega
    obtain ⟨closer, -⟩ := one.below (n + 1) between
    have grows := steps_lt (Nat.lt_succ_self n)
    linarith

theorem unique (one : NearestMagnitude q m) (other : NearestMagnitude q n) : m = n :=
  le_antisymm (one.mono le_rfl other) (other.mono le_rfl one)

-- Magnitudes above that of infinity are cut down to it.
theorem capped (below : ∀ n < m,
      (steps n + steps m : Rat) ≤ 2 * q ∧ ((steps n + steps m : Rat) = 2 * q → Even m))
    (above : ∀ n ≤ top, m < n →
      2 * q ≤ (steps m + steps n : Rat) ∧ (2 * q = (steps m + steps n : Rat) → Even m)) :
    NearestMagnitude q (min m top) := by
  rcases Nat.lt_or_ge top m with large | inside
  · rw [Nat.min_eq_right large.le]
    obtain ⟨far, -⟩ := below top large
    have past := steps_lt large
    refine ⟨le_rfl, fun n less => ⟨?_, fun _ => by decide⟩, fun n least more => ?_⟩
    · have grows := steps_lt less
      linarith
    · omega
  · rw [Nat.min_eq_left inside]
    exact ⟨inside, below, above⟩

theorem exact_capped (m : Nat) : NearestMagnitude (steps m) (min m top) := by
  refine capped (fun n less => ?_) fun n _ less => ?_ <;>
    have grows := steps_lt less
  · exact ⟨by linarith, fun tie => by linarith⟩
  · exact ⟨by linarith, fun tie => by linarith⟩

theorem exact (inside : m ≤ top) : NearestMagnitude (steps m) m := by
  have near := exact_capped m
  rwa [Nat.min_eq_left inside] at near

section
variable {g t : Nat}

theorem even_grid (even : Even (t : Int)) : Even (g * 2 ^ 52 + t) :=
  (Even.mul_left (by decide) g).add ((Int.even_coe_nat t).mp even)

theorem steps_grid_cast (most : t ≤ 2 ^ 53) (least : 2 ^ 52 ≤ t ∨ g = 0) :
    (steps (g * 2 ^ 52 + t) : Rat) = t * 2 ^ g := by
  rw [steps_grid most least]
  push_cast
  rfl

theorem grid_below (most : t ≤ 2 ^ 53) (least : 2 ^ 52 ≤ t ∨ g = 0) (full : 2 ^ 52 ≤ q ∨ g = 0)
    (near : Nearest q t) {n : Nat} (less : n < g * 2 ^ 52 + t) :
    (steps n + steps (g * 2 ^ 52 + t) : Rat) ≤ 2 * (q * 2 ^ g) ∧
      ((steps n + steps (g * 2 ^ 52 + t) : Rat) = 2 * (q * 2 ^ g) → Even (g * 2 ^ 52 + t)) := by
  have unit : (0 : Rat) < 2 ^ g := pow_pos two_pos g
  have here := steps_grid_cast most least
  obtain ⟨low, -⟩ := abs_le.mp near.near
  rw [Int.cast_natCast] at low
  by_cases start : 2 ^ 52 < t ∨ g = 0
  · -- the magnitude before has the same exponent
    obtain ⟨r, rfl⟩ := Nat.exists_eq_succ_of_ne_zero (show t ≠ 0 by omega)
    have grid : steps (g * 2 ^ 52 + r) = r * 2 ^ g := steps_grid (by omega) (by omega)
    have bound := steps_le (show n ≤ g * 2 ^ 52 + r by omega)
    rw [grid] at bound
    rw [here]
    push_cast at bound low ⊢
    have share : (2 * r + 1) * 2 ^ g ≤ 2 * q * 2 ^ g := mul_le_mul_of_nonneg_right (by linarith) unit.le
    refine ⟨by linarith, fun tie => even_grid (near.even ?_)⟩
    have same : (2 * r + 1) * 2 ^ g = 2 * q * 2 ^ g := by linarith
    have half := mul_right_cancel₀ unit.ne' same
    rw [abs_of_nonpos (by push_cast; linarith)]
    push_cast
    linarith
  · have filled : (t : Rat) ≤ q := by
      have first : t = 2 ^ 52 := by omega
      rw [first]
      push_cast
      exact full.resolve_right (by omega)
    have grows := steps_lt less
    have share : (t : Rat) * 2 ^ g ≤ q * 2 ^ g := mul_le_mul_of_nonneg_right filled unit.le
    rw [here] at grows ⊢
    exact ⟨by linarith, fun tie => by linarith⟩

theorem grid_above (most : t ≤ 2 ^ 53) (least : 2 ^ 52 ≤ t ∨ g = 0) (small : q < 2 ^ 53)
    (near : Nearest q t) {n : Nat} (less : g * 2 ^ 52 + t < n) :
    2 * (q * 2 ^ g) ≤ (steps (g * 2 ^ 52 + t) + steps n : Rat) ∧
      (2 * (q * 2 ^ g) = (steps (g * 2 ^ 52 + t) + steps n : Rat) → Even (g * 2 ^ 52 + t)) := by
  have unit : (0 : Rat) < 2 ^ g := pow_pos two_pos g
  have here := steps_grid_cast most least
  obtain ⟨-, high⟩ := abs_le.mp near.near
  rw [Int.cast_natCast] at high
  by_cases stop : t < 2 ^ 53
  · -- the magnitude after has the same exponent
    have grid : steps (g * 2 ^ 52 + (t + 1)) = (t + 1) * 2 ^ g := steps_grid (by omega) (by omega)
    have bound := steps_le (show g * 2 ^ 52 + (t + 1) ≤ n by omega)
    rw [grid] at bound
    rw [here]
    push_cast at bound ⊢
    have share : 2 * q * 2 ^ g ≤ (2 * t + 1) * 2 ^ g := mul_le_mul_of_nonneg_right (by linarith) unit.le
    refine ⟨by linarith, fun tie => even_grid (near.even ?_)⟩
    have same : 2 * q * 2 ^ g = (2 * t + 1) * 2 ^ g := by linarith
    have half := mul_right_cancel₀ unit.ne' same
    rw [abs_of_nonneg (by push_cast; linarith)]
    push_cast
    linarith
  · have last : (q : Rat) < t := by
      have carry : t = 2 ^ 53 := by omega
      rw [carry]
      push_cast
      exact small
    have grows := steps_lt less
    have share : q * 2 ^ g < (t : Rat) * 2 ^ g := mul_lt_mul_of_pos_right last unit
    rw [here] at grows ⊢
    exact ⟨by linarith, fun tie => by linarith⟩

-- Rounding at the exponent `g` of a number that fills the mantissa, unless `g` is the lowest exponent.
theorem of_grid (small : q < 2 ^ 53) (full : 2 ^ 52 ≤ q ∨ g = 0) (near : Nearest q t) :
    NearestMagnitude (q * 2 ^ g) (min (g * 2 ^ 52 + t) top) := by
  have most : t ≤ 2 ^ 53 := by
    have bound : (t : Int) ≤ (2 ^ 53 : Nat) := near.le (by push_cast; exact small.le)
    omega
  have least : 2 ^ 52 ≤ t ∨ g = 0 := by
    refine full.imp (fun filled => ?_) id
    have bound : ((2 ^ 52 : Nat) : Int) ≤ t := near.ge (by push_cast; exact filled)
    omega
  exact capped (fun n less => grid_below most least full near less)
    fun n _ less => grid_above most least small near less

end

theorem steps_normal : steps (2 ^ 52) = 2 ^ 52 := by decide

theorem normal_le (normal : 2 ^ 52 ≤ q) (near : NearestMagnitude q m) : 2 ^ 52 ≤ m := by
  have first := exact (m := 2 ^ 52) (by decide)
  rw [steps_normal] at first
  exact first.mono (by push_cast; exact normal) near

-- Past the smallest words a number and its product with a power of two meet the same distances.
theorem scale (k : Nat) (normal : 2 ^ 52 ≤ q) (near : NearestMagnitude q m) :
    NearestMagnitude (q * 2 ^ k) (min (m + k * 2 ^ 52) top) := by
  have unit : (0 : Rat) < 2 ^ k := pow_pos two_pos k
  have started := near.normal_le normal
  have moved {n : Nat} (above : 2 ^ 52 ≤ n) : (steps (n + k * 2 ^ 52) : Rat) = steps n * 2 ^ k := by
    rw [steps_shift above]
    push_cast
    rfl
  have even (evenM : Even m) : Even (m + k * 2 ^ 52) := evenM.add (Even.mul_left (by decide) k)
  refine capped (fun n less => ?_) fun n least less => ?_
  · rw [moved started]
    by_cases apart : 2 ^ 52 + k * 2 ^ 52 ≤ n
    · obtain ⟨r, rfl⟩ := Nat.exists_eq_add_of_le' (show k * 2 ^ 52 ≤ n by omega)
      obtain ⟨low, tie⟩ := near.below r (by omega)
      have share := mul_le_mul_of_nonneg_right low unit.le
      rw [moved (by omega)]
      refine ⟨by linarith, fun same => even (tie ?_)⟩
      exact mul_right_cancel₀ unit.ne' (by linarith)
    · have low : (2 ^ 52 + steps m : Rat) ≤ 2 * q := by
        rcases Nat.eq_or_lt_of_le started with first | later
        · rw [← first, steps_normal]
          push_cast
          linarith
        · have bound := (near.below (2 ^ 52) later).1
          rw [steps_normal] at bound
          exact_mod_cast bound
      have grows := steps_lt (show n < 2 ^ 52 + k * 2 ^ 52 by omega)
      have share := mul_le_mul_of_nonneg_right low unit.le
      rw [moved le_rfl, steps_normal] at grows
      push_cast at grows
      exact ⟨by linarith, fun same => by linarith⟩
  · obtain ⟨r, rfl⟩ := Nat.exists_eq_add_of_le' (show k * 2 ^ 52 ≤ n by omega)
    obtain ⟨high, tie⟩ := near.above r (by omega) (by omega)
    have share := mul_le_mul_of_nonneg_right high unit.le
    rw [moved started, moved (by omega)]
    refine ⟨by linarith, fun same => even (tie ?_)⟩
    exact mul_right_cancel₀ unit.ne' (by linarith)

-- Of a whole number of steps nothing is rounded where that does not apply.
theorem scale_whole {u : Nat} (k : Nat) (near : NearestMagnitude u m) :
    ∃ w, steps w = steps m * 2 ^ k ∧ NearestMagnitude (u * 2 ^ k) (min w top) := by
  by_cases few : u < 2 ^ 53
  · have whole := steps_few few.le
    have own := exact (m := u) (by unfold top; omega)
    rw [whole] at own
    obtain ⟨w, same⟩ := exists_steps few k
    have scaled := exact_capped w
    rw [same] at scaled
    push_cast at scaled
    refine ⟨w, ?_, scaled⟩
    rw [near.unique own, whole, same]
  · have normal : (2 ^ 52 : Rat) ≤ u := by
      have large : 2 ^ 52 ≤ u := by omega
      exact_mod_cast large
    exact ⟨m + k * 2 ^ 52, steps_shift (near.normal_le normal) k, near.scale k normal⟩

end NearestMagnitude

end Binary64

end Labbook
