import Labbook.Plot.Layer

namespace Labbook

structure Canvas where
  title : String := ""
  xAxis : Axis := {}
  yAxis : Axis := {}
  layers : List (Layer Binary64) := []
  size : Nat × Nat

namespace Canvas

def titleWidth : Nat := 70

def blank (size : Nat × Nat) : Canvas := { size }

def isEmpty (c : Canvas) : Bool := c.layers.isEmpty

def isRasterized (c : Canvas) : Bool := c.layers.any Layer.isRasterized

def usesColorbar (c : Canvas) : Bool := c.layers.any Layer.usesColorbar

def dataRanges (c : Canvas) : Range Binary64 × Range Binary64 :=
  Layer.ranges c.xAxis c.yAxis c.layers

def push (c : Canvas) (layer : Layer Binary64) : Canvas := { c with layers := c.layers ++ [layer] }

def withCategories (c : Canvas) (x y : Option (List String)) : Canvas :=
  { c with
    xAxis := match x with
      | some categories => { c.xAxis with categories := some categories }
      | none => c.xAxis
    yAxis := match y with
      | some categories => { c.yAxis with categories := some categories }
      | none => c.yAxis }

end Canvas

end Labbook
