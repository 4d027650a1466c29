/-
Placard/Chart.lean

Timeline charts: series of points inside of a rectangle, and an optional callout.

Points are given as fractions of the rectangle.  `Chart.pixels` places them on the grid,
`Chart.captionOrigin` says where the caption of a series goes, and `Annotation.layout`
where the parts of the callout go.
-/
import Placard.Geometry.Box
import Placard.Palette

namespace Placard

/-- One line of a chart, with its caption. -/
structure Series where
  label : String
  status : Status
  points : List UnitPoint

/-- A callout pinned to a point of a chart. -/
structure Annotation where
  anchor : UnitPoint
  headline : String
  detail : String
  status : Status

/-- A line chart without axes. -/
structure Chart where
  x : Pixel
  y : Pixel
  w : Pixel
  h : Pixel
  series : List Series
  annotation : Option Annotation

/-- Where the parts of a callout go. -/
structure Callout where
  anchor : Point
  frame : Rect
  headline : Point
  detail : Point
  pointerStart : Point
  pointerStop : Point
deriving DecidableEq

/-- The callout around an anchor: 170 pixels to the left of it and 120 above, and 390 by
150 pixels in size. -/
def Callout.around (anchor : Point) : Except Fault Callout := do
  let corner := anchor.offset (-170) (-120)
  let frame ← Rect.ofSize corner.x corner.y 390 150
  return { anchor, frame
           headline := anchor.offset (-150) (-94)
           detail := anchor.offset (-150) (-54)
           pointerStart := anchor.offset (-30) (-8)
           pointerStop := anchor.offset 10 18 }

/-- The callout of an annotation inside of `bounds`. -/
def Annotation.layout (a : Annotation) (bounds : Rect) : Except Fault Callout := do
  Callout.around (← bounds.pixel a.anchor)

namespace Chart

/-- The rectangle of the chart. -/
def bounds (c : Chart) : Except Fault Rect := Rect.ofSize c.x c.y c.w c.h

/-- The points of a series on the grid, in their order. -/
def pixels (c : Chart) (s : Series) : Except Fault (List Point) := do
  let bounds ← c.bounds
  s.points.mapM bounds.pixel

/-- From one caption to the next. -/
def captionSpacing : Int := 34

/-- Where the caption of series number `index` starts. -/
def captionOrigin (c : Chart) (index : Nat) : Point :=
  ((⟨c.x, c.y⟩ : Point).offset 30 18).offset 0
    (Pixel.clamp (captionSpacing * (Pixel.clamp index).val)).val

end Chart

end Placard
