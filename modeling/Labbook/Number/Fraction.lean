namespace Labbook

inductive Tie where
  | toEven
  | up
  deriving DecidableEq

def roundQuotient (tie : Tie) (num den : Nat) : Nat :=
  let low := num / den
  let rest := 2 * (num % den)
  if den < rest then low + 1
  else if rest = den ∧ (tie = .up ∨ low % 2 = 1) then low + 1
  else low

def rootFloor (n : Nat) : Nat :=
  if n = 0 then 0
  else
    let root := 2 * rootFloor (n / 4)
    if (root + 1) * (root + 1) ≤ n then root + 1 else root
termination_by n
decreasing_by omega

structure Fraction where
  num : Nat
  den : Nat

namespace Fraction

def shift (q : Fraction) : Int → Fraction
  | .ofNat n => ⟨q.num * Nat.pow 10 n, q.den⟩
  | .negSucc n => ⟨q.num, q.den * Nat.pow 10 (n + 1)⟩

def less (a b : Fraction) : Bool := a.num * b.den < b.num * a.den

def atMost (a b : Fraction) : Bool := a.num * b.den ≤ b.num * a.den

def decade (q : Fraction) : Int :=
  let guess := Int.ofNat (Nat.toDigits 10 q.num).length - Int.ofNat (Nat.toDigits 10 q.den).length
  let lowered := q.shift (-guess)
  if lowered.den ≤ lowered.num then guess else guess - 1

def ofBinary (mantissa : Nat) : Int → Fraction
  | .ofNat n => ⟨mantissa * Nat.pow 2 n, 1⟩
  | .negSucc n => ⟨mantissa, Nat.pow 2 (n + 1)⟩

end Fraction

end Labbook
