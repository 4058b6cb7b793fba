import Labbook.Error
import Labbook.Settings
import Labbook.Text.Json

namespace Labbook

namespace Settings

-- Takes digits into a number as long as it stays a 64-bit word, and returns what is left of them.
def accumulate (significand : Nat) : List Nat → Nat × List Nat
  | [] => (significand, [])
  | d :: rest =>
    if significand * 10 + d < Word.bound64 then accumulate (significand * 10 + d) rest
    else (significand, d :: rest)

-- Multiplies by a power of ten in steps that the words can hold. Too large a number is none.
def scaled (x : Binary64) (power : Int) : Option Binary64 :=
  if power.natAbs ≤ 308 then
    if 0 ≤ power then
      let product := x * Binary64.ofDecimal 1 power
      if product.isInfinite then none else some product
    else some (x / Binary64.ofDecimal 1 (-power))
  else if x.isZero then some x
  else if 0 ≤ power then none
  else scaled (x / Binary64.ofDecimal 1 308) (power + 308)
termination_by power.natAbs
decreasing_by omega

def powerValue (digits : List Nat) : Option Nat :=
  (digits.foldl (fun n d => n * 10 + d) 0 : Nat) |> fun n => if n < 0x80000000 then some n else none

-- The floating-point value of a number: the leading digits that fit a word, then one scaling.
def floatValue (n : JsonNumber) : Option Binary64 := do
  let sign (x : Binary64) : Binary64 := if n.negative then x.negate else x
  let (significand, left) := accumulate 0 n.whole
  let (significand, places) := match n.fraction with
    | none => (significand, 0)
    | some digits =>
      let (significand, rest) := accumulate significand digits
      (significand, digits.length - rest.length)
  let shift := Int.ofNat left.length - Int.ofNat places
  match n.power with
  | none => (scaled (.ofNat significand) shift).map sign
  | some (negative, digits) =>
    match powerValue digits with
    | none => if significand = 0 ∨ negative then some (sign 0) else none
    | some power =>
      let power := if negative then -Int.ofNat power else Int.ofNat power
      (scaled (.ofNat significand) (shift + power)).map sign

def float : Json → Option Binary64
  | .number n => floatValue n
  | _ => none

def natural (bound : Nat) : Json → Option Nat
  | .number ⟨false, whole, none, none⟩ =>
    let n := whole.foldl (fun n d => n * 10 + d) 0
    if n < bound then some n else none
  | _ => none

def text : Json → Option String
  | .string s => s
  | _ => none

def truth : Json → Option Bool
  | .bool b => some b
  | _ => none

def texts : Json → Option (List String)
  | .array items => items.mapM text
  | _ => none

def pair {α : Type} (read : Json → Option α) : Json → Option (α × α)
  | .array [a, b] => do return (← read a, ← read b)
  | _ => none

def repeats (names : List String) (fields : List (Option String × Json)) : Bool :=
  names.any fun name => 1 < (fields.filter (·.1 == some name)).length

-- The values of the named fields of an object, or of an array that lists them.
def fieldValues (names : List String) : Json → Option (List (Option Json))
  | .object fields =>
    if repeats names fields || fields.any (·.1.isNone) then none
    else some (names.map fun name => fields.lookup (some name))
  | .array items =>
    if names.length < items.length then none
    else some (items.map some ++ List.replicate (names.length - items.length) none)
  | _ => none

def fieldOr {α : Type} (default : α) (read : Json → Option α) : Option Json → Option α
  | none => some default
  | some value => read value

def autoColorScaleOf (json : Json) : Option AutoColorScale := do
  let base : AutoColorScale := {}
  match ← fieldValues ["enabled", "cutoff_percentile", "color_over", "color_under"] json with
  | [enabled, cutoff, above, below] =>
    let (top, bottom) ← fieldOr (base.cutoff.top, base.cutoff.bottom) (pair float) cutoff
    return {
      enabled := ← fieldOr base.enabled truth enabled
      cutoff := ⟨top, bottom⟩
      colorOver := ← fieldOr base.colorOver text above
      colorUnder := ← fieldOr base.colorUnder text below }
  | _ => none

def ofJson (json : Json) : Option Settings := do
  let base : Settings := {}
  match ← fieldValues ["default_colormap", "rasterize_threshold", "rescalable_units",
      "auto_color_scale", "mainfolder", "canvas_size"] json with
  | [colormap, threshold, units, auto, folder, size] =>
    return {
      defaultColormap := ← fieldOr base.defaultColormap text colormap
      rasterizeThreshold := ← fieldOr base.rasterizeThreshold (natural Word.bound64) threshold
      rescalableUnits := ← fieldOr base.rescalableUnits texts units
      autoColorScale := ← fieldOr base.autoColorScale autoColorScaleOf auto
      mainFolder := ← fieldOr base.mainFolder text folder
      canvasSize := ← fieldOr base.canvasSize (pair (natural Word.bound32)) size }
  | _ => none

def read (source : String) : Outcome Settings :=
  match (Json.read? source).bind ofJson with
  | some settings => .ok settings
  | none => .error .malformedSettings

end Settings

end Labbook
