import Labbook.Proofs.Number.MachineParts

namespace Labbook

namespace Binary64
open Float.Model Float.Model.UnpackedFloat

-- A mantissa with its two residual bits shows a number: the first tells the half that it is in, the second
-- whether it is past the start of that half.
inductive Shows : ExtendedMantissa → Rat → Prop
  | whole {m : Nat} {q : Rat} (same : q = m) : Shows ⟨m, false, false⟩ q
  | low {m : Nat} {q : Rat} (above : m < q) (below : q < m + 1 / 2) : Shows ⟨m, false, true⟩ q
  | half {m : Nat} {q : Rat} (same : q = m + 1 / 2) : Shows ⟨m, true, false⟩ q
  | high {m : Nat} {q : Rat} (above : m + 1 / 2 < q) (below : q < m + 1) : Shows ⟨m, true, true⟩ q

theorem shiftRightOne_even (k : Nat) (round sticky : Bool) :
    ExtendedMantissa.shiftRightOne ⟨2 * k, round, sticky⟩ = ⟨k, false, round || sticky⟩ := by
  have whole : 2 * k / 2 = k := by omega
  have rest : 2 * k % 2 = 0 := by omega
  rw [ExtendedMantissa.shiftRightOne, whole, rest]
  rfl

theorem shiftRightOne_odd (k : Nat) (round sticky : Bool) :
    ExtendedMantissa.shiftRightOne ⟨2 * k + 1, round, sticky⟩ = ⟨k, true, round || sticky⟩ := by
  have whole : (2 * k + 1) / 2 = k := by omega
  have rest : (2 * k + 1) % 2 = 1 := by omega
  rw [ExtendedMantissa.shiftRightOne, whole, rest]
  rfl

namespace Shows
variable {em : ExtendedMantissa} {q : Rat}

theorem nearest (shows : Shows em q) : Nearest q em.roundedMantissa := by
  cases shows with
  | @whole m q same =>
    change Nearest q (m : Int)
    exact .down (by push_cast; linarith) (.inl (by push_cast; linarith))
  | @low m q above below =>
    change Nearest q (m : Int)
    exact .down (by push_cast; linarith) (.inl (by push_cast; linarith))
  | @half m q same =>
    change Nearest q ((m + m % 2 : Nat) : Int)
    rcases Nat.even_or_odd m with even | odd
    · rw [Nat.even_iff.mp even, Nat.add_zero]
      exact .down (by push_cast; linarith) (.inr ⟨by push_cast; linarith, (Int.even_coe_nat m).mpr even⟩)
    · rw [Nat.odd_iff.mp odd]
      exact .up (by push_cast; linarith)
        (.inr ⟨by push_cast; linarith, (odd_iff m).mpr (Nat.odd_iff.mp odd)⟩)
  | @high m q above below =>
    change Nearest q ((m + 1 : Nat) : Int)
    rw [Nat.cast_succ]
    exact .up (by push_cast; linarith) (.inl (by push_cast; linarith))

theorem shiftRightOne (shows : Shows em q) : Shows em.shiftRightOne (q / 2) := by
  obtain ⟨m, round, sticky⟩ := em
  obtain ⟨k, rfl | rfl⟩ := Nat.even_or_odd' m
  · rw [shiftRightOne_even]
    cases shows with
    | whole same =>
      push_cast at same
      exact .whole (by linarith)
    | low above below =>
      push_cast at above below
      exact .low (by linarith) (by linarith)
    | half same =>
      push_cast at same
      exact .low (by linarith) (by linarith)
    | high above below =>
      push_cast at above below
      exact .low (by linarith) (by linarith)
  · rw [shiftRightOne_odd]
    cases shows with
    | whole same =>
      push_cast at same
      exact .half (by linarith)
    | low above below =>
      push_cast at above below
      exact .high (by linarith) (by linarith)
    | half same =>
      push_cast at same
      exact .high (by linarith) (by linarith)
    | high above below =>
      push_cast at above below
      exact .high (by linarith) (by linarith)

theorem shiftRight (shows : Shows em q) (n : Nat) : Shows (em >>> n) (q / 2 ^ n) := by
  change Shows (n.repeat ExtendedMantissa.shiftRightOne em) _
  induction n with
  | zero => rwa [pow_zero, div_one]
  | succ n ih =>
    rw [pow_succ, ← div_div]
    exact ih.shiftRightOne

end Shows

def place (m : Nat) (e : Int) : Int := max ((Nat.log2 m : Int) - 52 + e) (-1074)

theorem targetExponent_eq (m : Nat) (e : Int) :
    Format.targetExponent .binary64 (totalExponent m e) = place m e := by
  change max ((Nat.log2 m : Int) + 1 + e - 53) (-1074) = _
  rw [place]
  congr 1
  omega

theorem shiftToTargetExponent_eq (m : Nat) (e : Int) : shiftToTargetExponent .binary64 m e .exact =
    ((⟨m, false, false⟩ : ExtendedMantissa) >>> (place m e - e).toNat, e + (place m e - e).toNat) := by
  rw [shiftToTargetExponent, targetExponent_eq]
  rfl

theorem place_fits {m : Nat} {e : Int} (small : m < 2 ^ 53) (lowest : -1074 ≤ e) : place m e ≤ e := by
  have bits : Nat.log2 m ≤ 52 := by
    by_cases zero : m = 0
    · rw [zero]
      decide
    · exact Nat.le_of_lt_succ ((Nat.log2_lt zero).mpr small)
  unfold place
  omega

theorem shift_fitting {m : Nat} {e : Int} (small : m < 2 ^ 53) (lowest : -1074 ≤ e) :
    shiftToTargetExponent .binary64 m e .exact = (⟨m, false, false⟩, e) := by
  have still : (place m e - e).toNat = 0 := by
    have fits := place_fits small lowest
    omega
  rw [shiftToTargetExponent_eq, still, Int.natCast_zero, Int.add_zero]
  rfl

theorem shift_carry {e : Int} (lowest : -1074 ≤ e) :
    shiftToTargetExponent .binary64 (2 ^ 53) e .exact = (⟨2 ^ 52, false, false⟩, e + 1) := by
  have once : (place (2 ^ 53) e - e).toNat = 1 := by
    rw [place, Nat.log2_two_pow]
    omega
  rw [shiftToTargetExponent_eq, once]
  rfl

-- The rounded mantissa fits its exponent, but for a carry into the next one.
theorem packed_rounded {s : UnpackedFloat.Sign} {t : Nat} {e : Int} (small : t ≤ 2 ^ 53)
    (lowest : -1074 ≤ e) (full : 2 ^ 52 ≤ t ∨ e = -1074) :
    packed (if zero : (shiftToTargetExponent .binary64 t e .exact).1.mantissa = 0 then .zero s
      else .finite s (shiftToTargetExponent .binary64 t e .exact).1.mantissa
        (shiftToTargetExponent .binary64 t e .exact).2 (Nat.pos_of_ne_zero zero)) =
      signed s (min ((e + 1074).toNat * 2 ^ 52 + t) top) := by
  rcases Nat.eq_or_lt_of_le small with carry | inside
  · subst carry
    have next : (e + 1 + 1074).toNat * 2 ^ 52 + 2 ^ 52 = (e + 1074).toNat * 2 ^ 52 + 2 ^ 53 := by omega
    have carried := shift_carry lowest
    generalize shiftToTargetExponent .binary64 (2 ^ 53) e .exact = r at carried ⊢
    subst carried
    dsimp only
    rw [dif_neg (by decide), packed_finite ⟨by decide, by omega, .inl le_rfl⟩, next]
  · have fitting := shift_fitting inside lowest
    generalize shiftToTargetExponent .binary64 t e .exact = r at fitting ⊢
    subst fitting
    dsimp only
    by_cases zero : t = 0
    · have first : (e + 1074).toNat = 0 := by omega
      rw [dif_pos zero, zero, first, packed_zero]
      rfl
    · rw [dif_neg zero]
      exact packed_finite ⟨inside, lowest, full⟩

section
variable {s : UnpackedFloat.Sign} {m n g : Nat} {e : Int}

-- Shifted to its place a number fills the mantissa, unless that is the lowest exponent.
theorem shifted_bounds (positive : 0 < m) (moved : place m e = e + n) (grid : place m e = g - 1074) :
    (m / 2 ^ n : Rat) < 2 ^ 53 ∧ (2 ^ 52 ≤ (m / 2 ^ n : Rat) ∨ g = 0) := by
  have unit : (0 : Rat) < 2 ^ n := pow_pos two_pos n
  have low := Nat.log2_self_le positive.ne'
  have high := Nat.lt_log2_self (n := m)
  have room : (Nat.log2 m : Int) ≤ 52 + n := by
    have least := le_max_left ((Nat.log2 m : Int) - 52 + e) (-1074)
    unfold place at moved
    omega
  refine ⟨?_, ?_⟩
  · have bound : 2 ^ (Nat.log2 m + 1) ≤ 2 ^ (53 + n) := Nat.pow_le_pow_right (by decide) (by omega)
    rw [div_lt_iff₀ unit, ← pow_add]
    exact_mod_cast high.trans_le bound
  · by_cases lowest : place m e = -1074
    · exact .inr (by omega)
    · have exponent : Nat.log2 m = 52 + n := by
        unfold place at moved lowest
        omega
      rw [exponent] at low
      refine .inl ?_
      rw [le_div_iff₀ unit, ← pow_add]
      exact_mod_cast low

theorem shifted_value (moved : place m e = e + n) (grid : place m e = g - 1074) :
    (m / 2 ^ n * 2 ^ g : Rat) = m * 2 ^ (e + 1074) := by
  have unit : (2 : Rat) ^ n ≠ 0 := pow_ne_zero n two_ne_zero
  have place : (g : Int) = e + 1074 + n := by omega
  rw [div_mul_eq_mul_div, div_eq_iff unit, mul_assoc, ← zpow_natCast 2 n, ← zpow_natCast 2 g,
    ← zpow_add₀ two_ne_zero, place]

theorem roundWithAccuracy_nearest (positive : 0 < m) (low : e ≤ place m e) :
    ∃ w, packed (roundWithAccuracy .binary64 s m e .exact) = signed s w ∧
      NearestMagnitude (m * 2 ^ (e + 1074)) w := by
  have lowest : -1074 ≤ place m e := le_max_right _ _
  obtain ⟨n, moved⟩ : ∃ n : Nat, place m e = e + n := ⟨(place m e - e).toNat, by omega⟩
  obtain ⟨g, grid⟩ : ∃ g : Nat, place m e = g - 1074 := ⟨(place m e + 1074).toNat, by omega⟩
  obtain ⟨small, full⟩ := shifted_bounds positive moved grid
  have near := ((Shows.whole (m := m) rfl).shiftRight n).nearest
  have nearest := NearestMagnitude.of_grid small full near
  rw [shifted_value moved grid] at nearest
  refine ⟨_, ?_, nearest⟩
  have shift : (place m e - e).toNat = n := by omega
  have offset : (e + n + 1074).toNat = g := by omega
  have shifted := shiftToTargetExponent_eq m e
  rw [shift] at shifted
  unfold roundWithAccuracy
  generalize shiftToTargetExponent .binary64 m e .exact = r at shifted ⊢
  subst shifted
  dsimp only
  rw [← offset]
  refine packed_rounded ?_ (by omega) ?_
  · have most := near.le (k := (2 ^ 53 : Nat)) (by push_cast; exact small.le)
    omega
  · refine full.imp (fun filled => ?_) fun first => by omega
    have least := near.ge (k := (2 ^ 52 : Nat)) (by push_cast; exact filled)
    omega

-- Taking bits on does not move the place.
theorem place_decreased (positive : 0 < m) {k : Nat} : place (m * 2 ^ k) (e - k) = place m e := by
  have bits : Nat.log2 (m * 2 ^ k) = Nat.log2 m + k := by
    refine (Nat.log2_eq_iff (Nat.mul_pos positive (Nat.two_pow_pos k)).ne').mpr ⟨?_, ?_⟩
    · rw [pow_add]
      exact Nat.mul_le_mul_right _ (Nat.log2_self_le positive.ne')
    · rw [Nat.add_right_comm, pow_add]
      exact Nat.mul_lt_mul_of_pos_right Nat.lt_log2_self (Nat.two_pow_pos k)
  rw [place, place, bits]
  congr 1
  omega

theorem round_nearest (positive : 0 < m) :
    ∃ w, packed (UnpackedFloat.round .binary64 s m e) = signed s w ∧
      NearestMagnitude (m * 2 ^ (e + 1074)) w := by
  obtain ⟨k, fewer⟩ : ∃ k : Nat, (e - place m e).toNat = k := ⟨_, rfl⟩
  have filled : 0 < m * 2 ^ k := Nat.mul_pos positive (Nat.two_pow_pos k)
  have low : e - k ≤ place (m * 2 ^ k) (e - k) := by
    rw [place_decreased positive]
    omega
  have value : ((m * 2 ^ k : Nat) * 2 ^ (e - k + 1074) : Rat) = m * 2 ^ (e + 1074) := by
    have exponent : (k : Int) + (e - k + 1074) = e + 1074 := by omega
    rw [Nat.cast_mul, Nat.cast_pow, Nat.cast_ofNat, mul_assoc, ← zpow_natCast, ← zpow_add₀ two_ne_zero,
      exponent]
  obtain ⟨w, word, near⟩ := roundWithAccuracy_nearest (s := s) filled low
  rw [value] at near
  refine ⟨w, ?_, near⟩
  rw [UnpackedFloat.round, targetExponent_eq, decreaseExponent, fewer, Nat.shiftLeft_eq]
  exact word

end

theorem normalize_nearest (m e : Int) :
    ∃ w, packed (UnpackedFloat.normalize .binary64 m e .positive) =
        signed (if m < 0 then .negative else .positive) w ∧
      NearestMagnitude (|(m : Rat)| * 2 ^ (e + 1074)) w := by
  unfold UnpackedFloat.normalize
  rcases lt_trichotomy m 0 with below | zero | above
  · have size : |(m : Rat)| = ((-m).toNat : Nat) := by
      have whole : ((-m).toNat : Int) = -m := by omega
      rw [abs_of_neg (Int.cast_lt_zero.mpr below)]
      exact_mod_cast whole.symm
    rw [Int.compare_eq_lt.mpr below, if_pos below, size]
    exact round_nearest (by omega)
  · subst zero
    refine ⟨0, packed_zero .positive, ?_⟩
    rw [Int.cast_zero, abs_zero, zero_mul]
    exact .exact (Nat.zero_le _)
  · have size : |(m : Rat)| = (m.toNat : Nat) := by
      have whole : (m.toNat : Int) = m := by omega
      rw [abs_of_pos (Int.cast_pos.mpr above)]
      exact_mod_cast whole.symm
    rw [Int.compare_eq_gt.mpr above, if_neg (by omega), size]
    exact round_nearest (by omega)

end Binary64

end Labbook
