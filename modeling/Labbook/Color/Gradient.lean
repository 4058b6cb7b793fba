import Labbook.Color.Palette
import Labbook.Color.Rgb

namespace Labbook

inductive Gradient where
  | spline (colors : Array Rgb)
  | turbo
  | cividis
  | cubehelix

namespace Gradient

def ofCodes (codes : List Nat) : Gradient := spline (codes.map Rgb.ofCode).toArray

def ofName? (name : String) : Option Gradient :=
  match name with
  | "viridis" => some (ofCodes Palette.viridis)
  | "inferno" => some (ofCodes Palette.inferno)
  | "magma" => some (ofCodes Palette.magma)
  | "plasma" => some (ofCodes Palette.plasma)
  | "cividis" => some cividis
  | "turbo" => some turbo
  | "cubehelix" => some cubehelix
  | "greys" => some (ofCodes Palette.greys)
  | "blues" => some (ofCodes Palette.blues)
  | "reds" => some (ofCodes Palette.reds)
  | "spectral" => some (ofCodes Palette.spectral)
  | "rdbu" | "red_blue" => some (ofCodes Palette.redBlue)
  | _ => none

-- A uniform cubic B-spline piece at `t` between the middle two of four values.
def piece (t v0 v1 v2 v3 : Float32) : Float32 :=
  let t2 := t * t
  let t3 := t2 * t
  ((1.0 - 3.0 * t + 3.0 * t2 - t3) * v0 + (4.0 - 6.0 * t2 + 3.0 * t3) * v1 +
    (1.0 + 3.0 * t + 3.0 * t2 - 3.0 * t3) * v2 + t3 * v3) / 6.0

-- One channel of the spline through `colors`; beyond either end a value is continued in a straight
-- line.
def splineChannel (colors : Array Rgb) (channel : Rgb → UInt8) (t : Float32) : UInt8 :=
  let n := colors.size - 1
  let width := Float32.ofNat n
  let i := min (t * width).floor.toUInt64.toNat (n - 1)
  let value (k : Nat) : Float32 := (channel (colors.getD k default)).toFloat32
  let v1 := value i
  let v2 := value (i + 1)
  let v0 := if i = 0 then 2.0 * v1 - v2 else value (i - 1)
  let v3 := if i + 1 < n then value (i + 2) else 2.0 * v2 - v1
  (piece ((t - Float32.ofNat i / width) * width) v0 v1 v2 v3).toUInt8

def clamped (v : Float32) : UInt8 :=
  let v := if v < 0.0 then 0.0 else v
  (if 255.0 < v then 255.0 else v).toUInt8

def turboColor (t : Float32) : Rgb where
  red := clamped
    (34.61 + t * (1172.33 - t * (10793.56 - t * (33300.12 - t * (38394.49 - t * 14825.05)))))
  green := clamped
    (23.31 + t * (557.33 + t * (1225.33 - t * (3574.96 - t * (1073.77 + t * 707.56)))))
  blue := clamped
    (27.2 + t * (3211.1 - t * (15327.97 - t * (27814.0 - t * (22569.18 - t * 6838.66)))))

def cividisColor (t : Float32) : Rgb where
  red := clamped
    (-4.54 - t * (35.34 - t * (2381.73 - t * (6402.7 - t * (7024.72 - t * 2710.57)))))
  green := clamped
    (32.49 + t * (170.73 + t * (52.82 - t * (131.46 - t * (176.58 - t * 67.37)))))
  blue := clamped
    (81.24 + t * (442.36 - t * (2482.43 - t * (6167.24 - t * (6614.94 - t * 2475.67)))))

-- A helix around the grey diagonal, one and a half turns backwards from hue 300.
def cubehelixColor (t : Float32) : Rgb :=
  let hue := 300.0 + t * (-240.0 - 300.0)
  let saturation := 0.5 + t * 0.0
  let lightness := 0.0 + t * 1.0
  let radians := (hue + 120.0) * (3.14159265358979323846 / 180.0)
  let amplitude := saturation * lightness * (1.0 - lightness)
  let (c, s) := (radians.cos, radians.sin)
  let level (v : Float32) : UInt8 := (255.0 * (if 1.0 < v then 1.0 else v)).toUInt8
  ⟨level (lightness - amplitude * (0.14861 * c - 1.78277 * s)),
    level (lightness - amplitude * (0.29227 * c + 0.90649 * s)),
    level (lightness + amplitude * (1.97294 * c))⟩

def eval (g : Gradient) (t : Float32) : Rgb :=
  match g with
  | spline colors =>
    ⟨splineChannel colors Rgb.red t, splineChannel colors Rgb.green t,
      splineChannel colors Rgb.blue t⟩
  | turbo => turboColor t
  | cividis => cividisColor t
  | cubehelix => cubehelixColor t

end Gradient

end Labbook
