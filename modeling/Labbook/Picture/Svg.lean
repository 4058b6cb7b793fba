import Labbook.Picture.Png
import Labbook.Picture.Scene
import Labbook.Text.Base64

namespace Labbook

namespace Svg

def escapeChar : Char → List Char
  | '&' => "&amp;".toList
  | '<' => "&lt;".toList
  | '>' => "&gt;".toList
  | '"' => "&quot;".toList
  | '\'' => "&apos;".toList
  | c => [c]

def escape (text : String) : String := String.ofList (text.toList.flatMap escapeChar)

def pair (p : Int × Int) : String := toString p.1 ++ "," ++ toString p.2

def pointList (points : List (Int × Int)) : String := " ".intercalate (points.map pair)

def field (name value : String) : String := " " ++ name ++ "=\"" ++ value ++ "\""

def numberField (name : String) (value : Int) : String := field name (toString value)

def closed (tag fields : String) : String := "<" ++ tag ++ fields ++ "/>\n"

def alignment : Anchor → String × String
  | .corner => ("start", "hanging")
  | .leftEdge => ("start", "central")
  | .rightEdge => ("end", "central")
  | .topEdge => ("middle", "hanging")
  | .bottomEdge => ("middle", "alphabetic")

def caption (c : Caption) : String :=
  let (anchor, baseline) := alignment c.anchor
  let turn :=
    if c.turned then field "transform" ("rotate(-90 " ++ toString c.x ++ " " ++ toString c.y ++ ")")
    else ""
  "<text" ++ numberField "x" c.x ++ numberField "y" c.y ++ field "font-family" "sans-serif" ++
    numberField "font-size" c.size ++ field "fill" c.color.hex ++ field "text-anchor" anchor ++
    field "dominant-baseline" baseline ++ turn ++ ">" ++ escape c.text ++ "</text>\n"

def shape : Shape → String
  | .box area fill =>
    closed "rect" (numberField "x" area.left ++ numberField "y" area.top ++
      numberField "width" area.width ++ numberField "height" area.height ++ field "fill" fill.hex)
  | .disc center radius fill =>
    closed "circle" (numberField "cx" center.1 ++ numberField "cy" center.2 ++
      numberField "r" radius ++ field "fill" fill.hex)
  | .path points stroke width =>
    closed "polyline" (field "points" (pointList points) ++ field "fill" "none" ++
      field "stroke" stroke.hex ++ numberField "stroke-width" width)
  | .polygon points fill =>
    closed "polygon" (field "points" (pointList points) ++ field "fill" fill.hex)
  | .caption c => caption c
  | .image origin bitmap =>
    closed "image" (numberField "x" origin.1 ++ numberField "y" origin.2 ++
      numberField "width" bitmap.width ++ numberField "height" bitmap.height ++
      field "href" ("data:image/png;base64," ++ Base64.encode (Png.encode bitmap)))

end Svg

def Svg.vocabulary : String := "/".intercalate ["http:", "", "www.w3.org", "2000", "svg"]

def Scene.svg (s : Scene) : String :=
  let (width, height) := (Int.ofNat s.size.1, Int.ofNat s.size.2)
  "<svg" ++ Svg.numberField "width" width ++ Svg.numberField "height" height ++
    Svg.field "xmlns" Svg.vocabulary ++ ">\n" ++
    String.join (s.shapes.map Svg.shape) ++ "</svg>\n"

end Labbook
