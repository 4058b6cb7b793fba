import Labbook.Proofs.Number.MachineArithmetic
import Labbook.Proofs.Number.WordKinds

namespace Labbook

namespace Binary64
open Float.Model
variable {a b : Binary64}

theorem div_eq (a b : Binary64) : a / b = packed (.div .binary64 a.parts b.parts) := by
  rw [← parts_toFloat a, ← parts_toFloat b]
  rfl

theorem isInfinite_packed (s : UnpackedFloat.Sign) : (packed (.infinity s)).isInfinite = true := by
  cases s <;> decide

theorem notANumber_sub (broken : a.isNaN = true) (b : Binary64) : a - b = nan := by
  rw [sub_eq, parts_notANumber broken]
  exact packed_notANumber

theorem notANumber_div (broken : a.isNaN = true) (b : Binary64) : a / b = nan := by
  rw [div_eq, parts_notANumber broken]
  exact packed_notANumber

theorem mul_nan (a : Binary64) : a * nan = nan := by
  rw [mul_eq, parts_notANumber (x := nan) (by decide)]
  cases a.parts <;> exact packed_notANumber

theorem nan_add (a : Binary64) : nan + a = nan := by
  rw [add_eq, parts_notANumber (x := nan) (by decide)]
  exact packed_notANumber

theorem nan_sub (a : Binary64) : nan - a = nan := notANumber_sub (by decide) a

theorem infinite_sub (kind : a.isInfinite = true) (finite : b.isFinite = true) :
    (a - b).isInfinite = true := by
  rw [sub_eq, parts_infinity kind]
  rcases parts_finite finite with ⟨-, parts⟩ | ⟨positive, parts⟩ <;>
  · rw [parts]
    exact isInfinite_packed _

-- A share of an infinity is an infinity, unless it is taken of another one.
theorem infinite_div (kind : a.isInfinite = true) (b : Binary64) :
    (a / b).isInfinite = true ∨ a / b = nan := by
  rw [div_eq, parts_infinity kind]
  cases b.parts with
  | notANumber => exact .inr packed_notANumber
  | infinity s => exact .inr packed_notANumber
  | zero s => exact .inl (isInfinite_packed _)
  | finite s m e positive => exact .inl (isInfinite_packed _)

end Binary64

end Labbook
