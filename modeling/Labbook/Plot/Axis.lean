import Labbook.Number.Scalar
import Labbook.Number.TickText

namespace Labbook

structure Axis where
  label : String := ""
  -- Ticks are multiplied by this before they are written.
  factor : Binary64 := 1
  categories : Option (List String) := none

-- The whole position that a tick stands at, within a billionth.
def wholePosition? (value : Binary64) : Option Nat :=
  let index := value.round
  let close := value.equals index || decide ((value - index).absolute < (1e-9 : Binary64))
  if close ∧ (0 : Binary64) ≤ index then some index.toNat else none

-- The text of a tick: on a text axis the category at a whole position and nothing elsewhere.
def Axis.tickText (axis : Axis) (value : Binary64) : String :=
  match axis.categories with
  | none => (value * axis.factor).tickText
  | some categories => ((wholePosition? value).bind (categories[·]?)).getD ""

structure Range (α : Type) where
  low : α
  high : α

namespace Range

variable {α : Type} [Scalar α]

-- Widens by five percent on either side. A range without extent is widened by a share of its place, or
-- by one half around zero.
def paddedBetween (low high : α) : Range α :=
  let extent := Scalar.absolute (high - low)
  let padding :=
    if extent < 1e-12 then
      if Scalar.equals low 0.0 then 0.5 else Scalar.absolute low * 0.05
    else extent * 0.05
  ⟨low - padding, high + padding⟩

def padded (a b : α) : Range α := if a ≤ b then paddedBetween a b else paddedBetween b a

end Range

end Labbook
