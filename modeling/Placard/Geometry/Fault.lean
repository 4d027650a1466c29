/-
Placard/Geometry/Fault.lean

The reasons why a piece of geometry cannot be drawn, and how each is reported.
-/
import Placard.Geometry.Point
import Placard.Decimal.Text

namespace Placard

/-- A piece of geometry that cannot be drawn. -/
inductive Fault where
  /-- a width or height that is not positive -/
  | emptyRect (x y width height : Pixel)
  /-- a right or lower edge beyond the grid -/
  | rectBeyondGrid (x y width height : Pixel)
  /-- a width or height that is no coordinate -/
  | spanBeyondGrid (left top right bottom : Pixel)
  | outsideUnitSquare (p : UnitPoint)
  | emptyCanvas (width height : Pixel)
  | cornerRadius (radius : Float)
  | outlineWidth (width : Float)
  | lineWidth (width : Float)
  | noPoints
  | fewPoints (count : Nat)

namespace Fault

private def size (w h : Pixel) : String := toString w.val ++ "x" ++ toString h.val

private def pair (x y : Pixel) : String :=
  "(" ++ toString x.val ++ ", " ++ toString y.val ++ ")"

/-- What is wrong, in words. -/
def detail : Fault → String
  | emptyRect x y w h => "rectangle at " ++ pair x y ++ " has non-positive size " ++ size w h
  | rectBeyondGrid x y w h =>
    "rectangle at " ++ pair x y ++ " with size " ++ size w h ++ " overflows pixel space"
  | spanBeyondGrid l t r b => "span " ++ pair l t ++ ".." ++ pair r b ++ " overflows pixel space"
  | outsideUnitSquare p =>
    "normalized point (" ++ Decimal.plain p.x ++ ", " ++ Decimal.plain p.y ++
      ") is outside [0, 1]"
  | emptyCanvas w h => "canvas size " ++ size w h ++ " must be positive"
  | cornerRadius r => "corner radius " ++ Decimal.plain r ++ " must be non-negative"
  | outlineWidth w => "outline width " ++ Decimal.plain w ++ " must be positive"
  | lineWidth w => "line width " ++ Decimal.plain w ++ " must be positive"
  | noPoints => "polygon has no points"
  | fewPoints n => "polygon needs at least 3 points, got " ++ toString n

end Fault

end Placard
