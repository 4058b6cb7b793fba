import Labbook.Analysis.Spread
import Labbook.Number.Scalar

namespace Labbook

structure AutoColorScale where
  enabled : Bool := false
  cutoff : Spread.Cutoff Binary64 := ⟨50, 50⟩
  colorOver : String := "#ff00ff"
  colorUnder : String := "#00ffff"

structure Settings where
  defaultColormap : String := "viridis"
  -- 2D layers with more points than this are drawn as pixels.
  rasterizeThreshold : Nat := 5000
  rescalableUnits : List String :=
    ["V", "A", "s", "Hz", "W", "T", "F", "H", "J", "C", "N", "Pa", "S", "Ω", "Ohm", "m", "g"]
  autoColorScale : AutoColorScale := {}
  mainFolder : String := "."
  canvasSize : Nat × Nat := (1280, 960)

def Settings.isRescalable (s : Settings) (unit : String) : Bool := s.rescalableUnits.contains unit

end Labbook
