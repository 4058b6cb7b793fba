import Labbook.Number.Digits

namespace Labbook

class Scalar (α : Type) extends Add α, Sub α, Mul α, Div α, Neg α, LT α, LE α, OfScientific α where
  decideLt : (a b : α) → Decidable (a < b)
  decideLe : (a b : α) → Decidable (a ≤ b)
  ofNat : Nat → α
  isNaN : α → Bool
  isFinite : α → Bool
  absolute : α → α
  -- The order that sorting uses; it has a place for every value.
  precedes : α → α → Bool
  floorNat : α → Nat
  ceilNat : α → Nat
  powerOfTen : Int → α
  decade : α → Int
  toFloat : α → Float

namespace Scalar

variable {α : Type} [Scalar α]

instance (a b : α) : Decidable (a < b) := decideLt a b
instance (a b : α) : Decidable (a ≤ b) := decideLe a b

def equals (a b : α) : Bool := decide (a ≤ b) && decide (b ≤ a)

-- The smaller of two values; a NaN gives way to the other, of equal ones the first is kept.
def lesser (a b : α) : α := if isNaN a then b else if b < a then b else a

-- The larger of two values; a NaN gives way to the other, of equal ones the first is kept.
def greater (a b : α) : α := if isNaN a then b else if a < b then b else a

def clamp (x low high : α) : α := if x < low then low else if high < x then high else x

end Scalar

namespace Binary64

-- Ten to a whole power by repeated squaring: each step rounds, and a negative power is the reciprocal
-- of the positive one.
def powerOfTen (n : Int) : Binary64 :=
  let power := square n.natAbs 10 1
  if n < 0 then 1 / power else power
where
  square (n : Nat) (base result : Binary64) : Binary64 :=
    if n = 0 then result
    else
      let result := if n % 2 = 1 then result * base else result
      if n / 2 = 0 then result else square (n / 2) (base * base) result
  termination_by n
  decreasing_by omega

def decade (x : Binary64) : Int := x.toFloat.log10.floor.toInt64.toInt

instance : Scalar Binary64 where
  decideLt a b := inferInstanceAs (Decidable (a < b))
  decideLe a b := inferInstanceAs (Decidable (a ≤ b))
  ofNat := ofNat
  isNaN := isNaN
  isFinite := isFinite
  absolute := absolute
  precedes := precedes
  floorNat x := x.floor.toNat
  ceilNat x := x.ceil.toNat
  powerOfTen := powerOfTen
  decade := decade
  toFloat := toFloat

end Binary64

instance : Scalar Rat where
  decideLt a b := inferInstanceAs (Decidable (a < b))
  decideLe a b := inferInstanceAs (Decidable (a ≤ b))
  ofNat n := (n : Rat)
  isNaN _ := false
  isFinite _ := true
  absolute q := if q < 0 then -q else q
  precedes a b := decide (a ≤ b)
  floorNat q := q.floor.toNat
  ceilNat q := q.ceil.toNat
  powerOfTen n := (10 : Rat) ^ n
  decade q := Fraction.decade ⟨q.num.natAbs, q.den⟩
  toFloat q := Float.ofInt q.num / Float.ofNat q.den

end Labbook
