import Labbook.Picture.Pixel

namespace Labbook

namespace Tick

def epsilon : Binary64 := 2.220446049250313e-16

-- What is left of `a` above a multiple of `b`, zero where that is almost a whole `b`.
def remainder (a b : Binary64) : Binary64 :=
  let quotient := if 0 < b then (a / b).floor else (a / b).ceil
  let rest := a - quotient * b
  if (rest - b).absolute < epsilon then 0 else rest

def firstMultiple (low step : Binary64) : Binary64 :=
  let value := low - remainder low step
  if value < low then value + step else value

def lastMultiple (high step : Binary64) : Binary64 := high - remainder high step

structure Step where
  size : Binary64
  grain : Binary64

def count (range : Range Binary64) (size parts : Binary64) : Nat :=
  let step := size / parts
  let between := lastMultiple range.high step - firstMultiple range.low step
  (1 + between / size * parts).round.toNat

-- Divides a step by two, five or ten as long as no more than `limit` ticks come out.
def refine (range : Range Binary64) (limit : Nat) (step : Step) : Nat → Step
  | 0 => step
  | fuel + 1 =>
    if limit < count range step.size 2 then step
    else if limit < count range step.size 5 then { step with size := step.size / 2 }
    else if limit < count range step.size 10 then { step with size := step.size / 5 }
    else refine range limit ⟨step.size / 10, step.grain / 10⟩ fuel

def extentPower (extent : Binary64) : Binary64 :=
  let exponent := (Binary64.ofFloat extent.toFloat.log / Binary64.ofFloat (Float.log 10)).floor
  Binary64.ofFloat (Float.pow 10 exponent.toFloat)

def coarse (range : Range Binary64) (limit : Nat) : Step :=
  let extent := range.high - range.low
  let size := extentPower extent
  if limit < 1 + (extent / size).floor.toNat then ⟨size * 10, size / 10 * 10⟩ else ⟨size, size / 10⟩

-- The ticks from `base + offset` up to `last`. The offset is kept apart from the base, so that a small
-- step is not lost next to a large value.
def emit (step : Step) (base last offset : Binary64) : Nat → List Binary64
  | 0 => []
  | fuel + 1 =>
    if -epsilon ≤ last - offset - base then
      let rounded := (offset / step.grain).round * step.grain
      let offset := if rounded < 0 then offset + step.grain else offset
      (offset + base) :: emit step base last (offset + step.size) fuel
    else []

-- The ticks of a range whose ends are numbers. Every refinement gains a digit, and there are not many
-- more ticks than `limit`.
def positions (range : Range Binary64) (limit : Nat) : List Binary64 :=
  let range : Range Binary64 :=
    ⟨Scalar.lesser range.low range.high, Scalar.greater range.high range.low⟩
  if limit = 0 then []
  else if (range.low - range.high).absolute < epsilon then [range.low]
  else
    let step := refine range limit (coarse range limit) 700
    let first := firstMultiple range.low step.size
    let base := (first / step.grain).floor * step.grain
    emit step base (lastMultiple range.high step.size) (first - base) (2 * limit + 100)

end Tick

end Labbook
