/-
Placard/Geometry/Point.lean

Points of the pixel grid, and points of the unit square that a chart's data is given in.
-/
import Placard.Pixel

namespace Placard

/-- A point of the pixel grid. -/
structure Point where
  x : Pixel
  y : Pixel
deriving DecidableEq, Inhabited

namespace Point

/-- The point `(dx, dy)` further on; each coordinate stops at the end of the grid. -/
def offset (p : Point) (dx dy : Int) : Point := ⟨p.x.shift dx, p.y.shift dy⟩

@[ext] theorem ext {p q : Point} (hx : p.x = q.x) (hy : p.y = q.y) : p = q := by
  cases p; cases q; simp_all

theorem offset_x (p : Point) (dx dy : Int) : (p.offset dx dy).x = p.x.shift dx := rfl

theorem offset_y (p : Point) (dx dy : Int) : (p.offset dx dy).y = p.y.shift dy := rfl

end Point

/-- A position inside a rectangle, as fractions of its width and height. -/
structure UnitPoint where
  x : Float
  y : Float

namespace UnitPoint

/-- Both fractions lie between zero and one; NaN does not. -/
def inside (p : UnitPoint) : Bool :=
  decide (0 ≤ p.x) && decide (p.x ≤ 1) && (decide (0 ≤ p.y) && decide (p.y ≤ 1))

end UnitPoint

end Placard
