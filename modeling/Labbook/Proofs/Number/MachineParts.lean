import Labbook.Proofs.Number.NearestMagnitude

namespace Labbook

namespace Binary64
open Float.Model

variable {a b x : Binary64}

def field (x : Binary64) : Nat := x.magnitude.toNat / 2 ^ 52

def fraction (x : Binary64) : Nat := x.magnitude.toNat % 2 ^ 52

def sign (x : Binary64) : UnpackedFloat.Sign := if x.isNegative then .negative else .positive

theorem sign_negative (x : Binary64) : x.sign = .negative ↔ x.isNegative = true := by
  unfold sign
  split <;> simp_all

theorem sign_positive (x : Binary64) : x.sign = .positive ↔ x.isNegative = false := by
  unfold sign
  split <;> simp_all

theorem magnitude_parts (x : Binary64) :
    x.magnitude.toNat = x.field * 2 ^ 52 + x.fraction := by
  unfold field fraction
  omega

theorem magnitude_lt (x : Binary64) : x.magnitude.toNat < 2 ^ 63 := by
  rw [magnitude_toNat]
  exact Nat.mod_lt _ (by decide)

theorem isFinite_iff (x : Binary64) : x.isFinite = true ↔ x.field < 2047 := by
  rw [isFinite, decide_eq_true_iff, UInt64.lt_iff_toNat_lt, field]
  change _ < 2047 * 2 ^ 52 ↔ _
  omega

theorem isInfinite_iff (x : Binary64) : x.isInfinite = true ↔ x.field = 2047 ∧ x.fraction = 0 := by
  have bound := x.magnitude_lt
  rw [isInfinite, beq_iff_eq, ← UInt64.toNat_inj, field, fraction]
  change _ = 2047 * 2 ^ 52 ↔ _
  omega

theorem isNaN_iff (x : Binary64) : x.isNaN = true ↔ x.field = 2047 ∧ x.fraction ≠ 0 := by
  have bound := x.magnitude_lt
  rw [isNaN, decide_eq_true_iff, UInt64.lt_iff_toNat_lt, field, fraction]
  change 2047 * 2 ^ 52 < _ ↔ _
  omega

theorem isZero_iff_parts (x : Binary64) : x.isZero = true ↔ x.field = 0 ∧ x.fraction = 0 := by
  rw [isZero, beq_iff_eq, ← UInt64.toNat_inj, field, fraction]
  change _ = 0 ↔ _
  omega

theorem mantissa_eq (x : Binary64) :
    x.mantissa = if x.field = 0 then x.fraction else x.fraction + 2 ^ 52 := mantissa_toNat x

theorem exponent_field (x : Binary64) :
    x.exponent = if x.field = 0 then -1074 else (x.field : Int) - 1075 := by
  rw [exponent_eq]
  change (if x.field = 0 then (-1074 : Int) else ((x.field - 1 : Nat) : Int) - 1074) = _
  split
  · rfl
  · omega

theorem magnitude_eq_parts (x : Binary64) :
    (x.exponent + 1074).toNat * 2 ^ 52 + x.mantissa = x.magnitude.toNat := by
  rw [magnitude_parts, mantissa_eq, exponent_field]
  split <;> omega

def parts (x : Binary64) : UnpackedFloat := UnpackedFloat.unpack .binary64 x.bits.toBitVec

theorem unpackMantissa_toNat (x : Binary64) :
    (@UnpackedFloat.unpackMantissa .binary64 x.bits.toBitVec).toNat = x.fraction := by
  rw [fraction, magnitude_toNat]
  simp only [UnpackedFloat.unpackMantissa, BitVec.toNat_cast, BitVec.extractLsb_toNat,
    UInt64.toNat_toBitVec, Nat.shiftRight_zero]
  omega

theorem unpackExponent_toNat (x : Binary64) :
    (@UnpackedFloat.unpackExponent .binary64 x.bits.toBitVec).toNat = x.field := by
  rw [field, magnitude_toNat]
  simp only [UnpackedFloat.unpackExponent, BitVec.toNat_cast, BitVec.extractLsb_toNat,
    UInt64.toNat_toBitVec, Nat.shiftRight_eq_div_pow]
  omega

theorem unpackSign_eq (x : Binary64) : UnpackedFloat.Sign.ofBitVec
    (@UnpackedFloat.unpackSign .binary64 x.bits.toBitVec) = x.sign := by
  have bit : (@UnpackedFloat.unpackSign .binary64 x.bits.toBitVec).toNat =
      x.bits.toNat / 2 ^ 63 := by
    have bound := x.bits.toNat_lt
    change (BitVec.cast _ (x.bits.toBitVec.extractLsb _ _)).toNat = _
    rw [BitVec.toNat_cast, BitVec.extractLsb_toNat, UInt64.toNat_toBitVec, Nat.shiftRight_eq_div_pow]
    change _ / 2 ^ 63 % 2 ^ 1 = _
    omega
  have unset : @UnpackedFloat.unpackSign .binary64 x.bits.toBitVec = 0#1 ↔ ¬x.isNegative = true := by
    rw [isNegative_iff, ← BitVec.toNat_inj, bit, BitVec.toNat_zero]
    omega
  rw [UnpackedFloat.Sign.ofBitVec, sign]
  by_cases negative : x.isNegative = true
  · rw [if_pos negative, if_neg fun zero => unset.mp zero negative]
  · rw [if_neg negative, if_pos (unset.mpr negative)]

-- The kinds of words, and the parts that arithmetic reads off them.
inductive Kind (x : Binary64) : UnpackedFloat → Prop
  | notANumber (kind : x.isNaN = true) : Kind x .notANumber
  | infinity (kind : x.isInfinite = true) : Kind x (.infinity x.sign)
  | zero (kind : x.isZero = true) : Kind x (.zero x.sign)
  | finite (kind : x.isFinite = true) (positive : 0 < x.mantissa) :
      Kind x (.finite x.sign x.mantissa x.exponent positive)

theorem Kind.of_parts {m : Nat} {e : Int} {positive : 0 < m} (kind : x.isFinite = true)
    (mantissa : m = x.mantissa) (exponent : e = x.exponent) :
    x.Kind (.finite x.sign m e positive) := by
  subst mantissa exponent
  exact .finite kind positive

theorem parts_kind (x : Binary64) : x.Kind x.parts := by
  have full : @UnpackedFloat.unpackExponent .binary64 x.bits.toBitVec = -1#_ ↔ x.field = 2047 := by
    rw [← BitVec.toNat_inj, unpackExponent_toNat]
    rfl
  have empty : @UnpackedFloat.unpackExponent .binary64 x.bits.toBitVec = 0#_ ↔ x.field = 0 := by
    rw [← BitVec.toNat_inj, unpackExponent_toNat]
    rfl
  have clear : @UnpackedFloat.unpackMantissa .binary64 x.bits.toBitVec = 0#_ ↔ x.fraction = 0 := by
    rw [← BitVec.toNat_inj, unpackMantissa_toNat]
    rfl
  have hidden : (1#1 ++ @UnpackedFloat.unpackMantissa .binary64 x.bits.toBitVec).toNat =
      x.fraction + 2 ^ 52 := by
    rw [BitVec.toNat_append, ← Nat.shiftLeft_add_eq_or_of_lt (BitVec.isLt _), unpackMantissa_toNat]
    change 1 <<< 52 + x.fraction = _
    rw [Nat.shiftLeft_eq]
    omega
  have mantissa := x.mantissa_eq
  have exponent := x.exponent_field
  have bound := x.magnitude_lt
  unfold parts UnpackedFloat.unpack
  dsimp only
  rw [unpackSign_eq]
  by_cases last : @UnpackedFloat.unpackExponent .binary64 x.bits.toBitVec = -1#_
  · rw [if_pos last]
    by_cases whole : @UnpackedFloat.unpackMantissa .binary64 x.bits.toBitVec = 0#_
    · rw [if_pos whole]
      exact .infinity (x.isInfinite_iff.mpr ⟨full.mp last, clear.mp whole⟩)
    · rw [if_neg whole]
      exact .notANumber (x.isNaN_iff.mpr ⟨full.mp last, mt clear.mpr whole⟩)
  · have notFull := mt full.mpr last
    have finite : x.isFinite = true := x.isFinite_iff.mpr (by unfold field at notFull ⊢; omega)
    rw [if_neg last]
    by_cases first : @UnpackedFloat.unpackExponent .binary64 x.bits.toBitVec = 0#_
    · rw [if_pos first]
      by_cases whole : @UnpackedFloat.unpackMantissa .binary64 x.bits.toBitVec = 0#_
      · rw [dif_pos whole]
        exact .zero (x.isZero_iff_parts.mpr ⟨empty.mp first, clear.mp whole⟩)
      · rw [dif_neg whole]
        refine .of_parts finite ?_ ?_
        · rw [unpackMantissa_toNat, mantissa, if_pos (empty.mp first)]
        · rw [unpackExponent_toNat, exponent, if_pos (empty.mp first), empty.mp first]
          rfl
    · rw [if_neg first]
      refine .of_parts finite ?_ ?_
      · rw [hidden, mantissa, if_neg (mt empty.mpr first)]
      · rw [unpackExponent_toNat, exponent, if_neg (mt empty.mpr first)]
        rfl

theorem parts_notANumber (broken : x.isNaN = true) : x.parts = .notANumber := by
  have kinds := x.parts_kind
  obtain ⟨last, rest⟩ := x.isNaN_iff.mp broken
  generalize x.parts = u at kinds ⊢
  cases kinds with
  | notANumber => rfl
  | infinity kind => exact absurd (x.isInfinite_iff.mp kind).2 rest
  | zero kind => exact absurd (x.isZero_iff_parts.mp kind).2 rest
  | finite kind => exact absurd last (x.isFinite_iff.mp kind).ne

theorem parts_infinity (kind : x.isInfinite = true) : x.parts = .infinity x.sign := by
  have kinds := x.parts_kind
  obtain ⟨last, whole⟩ := x.isInfinite_iff.mp kind
  generalize x.parts = u at kinds ⊢
  cases kinds with
  | notANumber other => exact absurd whole (x.isNaN_iff.mp other).2
  | infinity => rfl
  | zero other =>
    have first := (x.isZero_iff_parts.mp other).1
    omega
  | finite other => exact absurd last (x.isFinite_iff.mp other).ne

def packed (u : UnpackedFloat) : Binary64 := ⟨.ofBitVec (UnpackedFloat.pack .binary64 u)⟩

def signed (s : UnpackedFloat.Sign) (magnitude : Nat) : Binary64 :=
  ⟨.ofNat ((match s with | .negative => 2 ^ 63 | .positive => 0) + magnitude)⟩

theorem ofBitVec_packComponents (s : UnpackedFloat.Sign) (e : BitVec 11) (m : BitVec 52) :
    (⟨.ofBitVec (UnpackedFloat.packComponents .binary64 s e m)⟩ : Binary64) =
      signed s (e.toNat * 2 ^ 52 + m.toNat) := by
  have exponent := e.isLt
  have mantissa := m.isLt
  have high : (s.toBitVec ++ e).toNat =
      (match s with | .negative => 2 ^ 11 | .positive => 0) + e.toNat := by
    rw [BitVec.toNat_append, ← Nat.shiftLeft_add_eq_or_of_lt exponent, Nat.shiftLeft_eq]
    cases s <;> rfl
  apply eq_of_bits
  unfold UnpackedFloat.packComponents signed
  rw [UInt64.toNat_ofBitVec, BitVec.toNat_append, high, ← Nat.shiftLeft_add_eq_or_of_lt mantissa,
    Nat.shiftLeft_eq, UInt64.toNat_ofNat']
  cases s <;> dsimp only <;> omega

section
variable {s : UnpackedFloat.Sign} {m : Nat} (small : m < 2 ^ 63)
include small

theorem signed_bits : (signed s m).bits.toNat =
    (match s with | .negative => 2 ^ 63 | .positive => 0) + m := by
  unfold signed
  rw [UInt64.toNat_ofNat']
  cases s <;> dsimp only <;> omega

theorem magnitude_signed : (signed s m).magnitude.toNat = m := by
  rw [magnitude_toNat, signed_bits small]
  cases s <;> dsimp only <;> omega

theorem sign_signed : (signed s m).sign = s := by
  have bits := signed_bits (s := s) small
  rw [sign]
  cases s with
  | negative => rw [if_pos ((isNegative_iff _).mpr (by rw [bits]; exact Nat.le_add_right _ _))]
  | positive =>
    refine if_neg fun negative => ?_
    have upper := (isNegative_iff _).mp negative
    rw [bits] at upper
    dsimp only at upper
    omega

end

theorem signed_magnitude (x : Binary64) : signed x.sign x.magnitude.toNat = x := by
  have bound := x.bits.toNat_lt
  apply eq_of_bits
  rw [signed_bits x.magnitude_lt, magnitude_toNat, sign]
  by_cases negative : x.isNegative = true
  · have upper := (isNegative_iff x).mp negative
    rw [if_pos negative]
    dsimp only
    omega
  · have lower := mt (isNegative_iff x).mpr negative
    rw [if_neg negative]
    dsimp only
    omega

-- A mantissa with an exponent as words have them: filled up, but at the lowest exponent.
structure Canonical (m : Nat) (e : Int) : Prop where
  small : m < 2 ^ 53
  lowest : -1074 ≤ e
  full : 2 ^ 52 ≤ m ∨ e = -1074

theorem canonical_word (x : Binary64) : Canonical x.mantissa x.exponent := by
  have fraction : x.fraction < 2 ^ 52 := Nat.mod_lt _ (by decide)
  rw [mantissa_eq, exponent_field]
  split <;> constructor <;> omega

theorem packed_infinity (s : UnpackedFloat.Sign) : packed (.infinity s) = signed s top := by
  cases s <;> decide

theorem packed_zero (s : UnpackedFloat.Sign) : packed (.zero s) = signed s 0 := by
  cases s <;> decide

theorem packed_notANumber : packed .notANumber = nan := by decide

theorem packed_finite {s : UnpackedFloat.Sign} {m : Nat} {e : Int} {positive : 0 < m}
    (canonical : Canonical m e) : packed (.finite s m e positive) =
      signed s (min ((e + 1074).toNat * 2 ^ 52 + m) top) := by
  obtain ⟨small, lowest, full⟩ := canonical
  obtain ⟨place, rfl⟩ : ∃ place : Nat, e = (place : Int) - 1074 := ⟨(e + 1074).toNat, by omega⟩
  have biased : ((place : Int) - 1074 + (Format.exponentBias .binary64 : Nat) +
      (Format.mantissaBitsWithoutImplicit .binary64 : Nat)).toNat = place + 1 := by
    change ((place : Int) - 1074 + 1023 + 52).toNat = place + 1
    omega
  have hidden : m.log2 + 1 = Format.mantissaBits .binary64 ↔ 2 ^ 52 ≤ m := by
    rw [← Nat.le_log2 positive.ne']
    have bound := (Nat.log2_lt positive.ne').mpr small
    change _ + 1 = 53 ↔ _
    omega
  have offset : ((place : Int) - 1074 + 1074).toNat = place := by omega
  unfold packed UnpackedFloat.pack
  dsimp only
  rw [biased, offset]
  split
  · rename_i beyond
    change 2 ^ 11 ≤ _ at beyond
    have most : min (place * 2 ^ 52 + m) top = top := by
      unfold top
      omega
    rw [most]
    exact packed_infinity s
  · rename_i inside
    change ¬2 ^ 11 ≤ _ at inside
    have least : min (place * 2 ^ 52 + m) top = place * 2 ^ 52 + m := by
      unfold top
      omega
    rw [least]
    split
    · rename_i normal
      have filled := hidden.mp normal
      rw [ofBitVec_packComponents, BitVec.toNat_ofNat, BitVec.toNat_ofNat]
      refine congrArg (signed s) ?_
      omega
    · rename_i subnormal
      have unfilled := mt hidden.mpr subnormal
      rw [ofBitVec_packComponents, BitVec.toNat_ofNat]
      refine congrArg (signed s) ?_
      change 0 * 2 ^ 52 + m % 2 ^ 52 = _
      omega

theorem packed_parts (measured : x.isNaN = false) : packed x.parts = x := by
  have bound := x.magnitude_parts
  have kinds := x.parts_kind
  generalize x.parts = u at kinds ⊢
  cases kinds with
  | notANumber kind =>
    rw [kind] at measured
    cases measured
  | infinity kind =>
    obtain ⟨last, whole⟩ := x.isInfinite_iff.mp kind
    rw [last, whole, Nat.add_zero] at bound
    rw [packed_infinity, top, ← bound, signed_magnitude]
  | zero kind =>
    obtain ⟨first, whole⟩ := x.isZero_iff_parts.mp kind
    rw [first, whole, Nat.add_zero, Nat.zero_mul] at bound
    rw [packed_zero, ← bound, signed_magnitude]
  | finite kind positive =>
    have inside := x.isFinite_iff.mp kind
    have least : min x.magnitude.toNat top = x.magnitude.toNat := by
      unfold top
      unfold field at inside
      omega
    rw [packed_finite x.canonical_word, magnitude_eq_parts, least, signed_magnitude]

-- What arithmetic reads off a word is not changed by storing it as a machine number.
theorem parts_toFloat (x : Binary64) : x.toFloat.toModel.unpack = x.parts := by
  change parts (packed x.parts) = x.parts
  by_cases broken : x.isNaN = true
  · rw [parts_notANumber broken, packed_notANumber]
    exact parts_notANumber (by decide)
  · rw [packed_parts (Bool.eq_false_iff.mpr broken)]

theorem add_eq (a b : Binary64) : a + b = packed (.add .binary64 a.parts b.parts) := by
  rw [← parts_toFloat a, ← parts_toFloat b]
  rfl

theorem sub_eq (a b : Binary64) : a - b = packed (.sub .binary64 a.parts b.parts) := by
  rw [← parts_toFloat a, ← parts_toFloat b]
  rfl

theorem mul_eq (a b : Binary64) : a * b = packed (.mul .binary64 a.parts b.parts) := by
  rw [← parts_toFloat a, ← parts_toFloat b]
  rfl

end Binary64

end Labbook
