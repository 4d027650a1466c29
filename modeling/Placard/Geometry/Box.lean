/-
Placard/Geometry/Box.lean

Where things end up on the grid: the padded box around a list of points, the pixel of a
position given in fractions of a rectangle, and the head of an arrow.
-/
import Placard.Geometry.Rect
import Placard.Number.Binary64

namespace Placard

/-- The box around `points` with `padding` added on every side, at least one pixel; none
for no points, and none if it is wider or higher than a coordinate can say. -/
def Point.box? (points : List Point) (padding : Int) : Option Rect :=
  match points with
  | [] => none
  | p :: rest =>
    let left := rest.foldl (fun m q => min m q.x.val) p.x.val
    let top := rest.foldl (fun m q => min m q.y.val) p.y.val
    let right := rest.foldl (fun m q => max m q.x.val) p.x.val
    let bottom := rest.foldl (fun m q => max m q.y.val) p.y.val
    let pad := max padding 1
    (Rect.ofSpan (Pixel.clamp (left - pad)) (Pixel.clamp (top - pad))
      (Pixel.clamp (right + pad)) (Pixel.clamp (bottom + pad))).toOption

/-- The pixel `fraction` of the way along `length` pixels, counted from `start`. -/
def Pixel.along (start : Pixel) (length : Int) (fraction : Float) : Pixel :=
  start.shift (Exact.ofFloat (fraction * Float.ofInt length)).floorPixel.val

/-- The pixel of a position inside `bounds`. -/
def Rect.pixel (bounds : Rect) (p : UnitPoint) : Except Fault Point :=
  if p.inside then
    .ok ⟨bounds.x.along bounds.width p.x, bounds.y.along bounds.height p.y⟩
  else .error (.outsideUnitSquare p)

/-- The way an arrowhead points: never up or down. -/
inductive Heading where
  | right
  | left
deriving DecidableEq, Repr

namespace Heading

/-- The heading of an arrow between two columns; an upright arrow points right. -/
def ofColumns (start stop : Pixel) : Heading :=
  if start.val ≤ stop.val then right else left

/-- From the tip of the head to its base. -/
def headLength : Int := 14

/-- From the shaft to a corner of the base. -/
def headHalfWidth : Int := 8

/-- The way back from the tip to the base. -/
def back : Heading → Int
  | right => -headLength
  | left => headLength

end Heading

/-- The corners of an arrow's head. -/
structure Arrowhead where
  tip : Point
  upper : Point
  lower : Point
deriving DecidableEq

namespace Arrowhead

/-- The head of the arrow from `start` to `stop`. -/
def ofEnds (start stop : Point) : Arrowhead :=
  let back := (Heading.ofColumns start.x stop.x).back
  { tip := stop
    upper := stop.offset back (-Heading.headHalfWidth)
    lower := stop.offset back Heading.headHalfWidth }

/-- Tip, upper and lower corner. -/
def corners (h : Arrowhead) : List Point := [h.tip, h.upper, h.lower]

end Arrowhead

end Placard
