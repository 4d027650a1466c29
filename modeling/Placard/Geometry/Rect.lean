/-
Placard/Geometry/Rect.lean

Rectangles with a positive area whose edges all lie on the pixel grid.

That a rectangle fits the grid is part of its type, so `right` and `bottom` need no
clamping.  `Rect.ofSize` and `Rect.ofSpan` check it for given numbers, and `union`
keeps it: the width of a covering rectangle that would not be a coordinate is cut.
-/
import Placard.Geometry.Fault

namespace Placard

/-- An axis-parallel rectangle with a positive area; the right and lower edges are
exclusive. -/
structure Rect where
  x : Pixel
  y : Pixel
  width : Int
  height : Int
  width_pos : 0 < width
  height_pos : 0 < height
  right_le : x.val + width ≤ 2147483647
  bottom_le : y.val + height ≤ 2147483647
deriving DecidableEq

namespace Rect

/-- The exclusive right edge. -/
def right (r : Rect) : Int := r.x.val + r.width

/-- The exclusive lower edge. -/
def bottom (r : Rect) : Int := r.y.val + r.height

/-- The upper left corner. -/
def origin (r : Rect) : Point := ⟨r.x, r.y⟩

/-- The rectangle at `(x, y)` with the given size. -/
def ofSize (x y width height : Pixel) : Except Fault Rect :=
  if hpos : width.val ≤ 0 ∨ height.val ≤ 0 then .error (.emptyRect x y width height)
  else if hfit : 2147483647 < x.val + width.val ∨ 2147483647 < y.val + height.val then
    .error (.rectBeyondGrid x y width height)
  else .ok ⟨x, y, width, height, by omega, by omega, by omega, by omega⟩

/-- The rectangle between two corners, the second one exclusive. -/
def ofSpan (left top right bottom : Pixel) : Except Fault Rect :=
  match Pixel.ofInt? (right.val - left.val), Pixel.ofInt? (bottom.val - top.val) with
  | some width, some height => ofSize left top width height
  | _, _ => .error (.spanBeyondGrid left top right bottom)

/-- The smallest rectangle that covers both, as far as its width and height are
coordinates. -/
def union (a b : Rect) : Rect :=
  let x : Pixel := if a.x.val ≤ b.x.val then a.x else b.x
  let y : Pixel := if a.y.val ≤ b.y.val then a.y else b.y
  have hx : x.val ≤ a.x.val ∧ x.val ≤ b.x.val := by
    simp only [x]; split <;> omega
  have hy : y.val ≤ a.y.val ∧ y.val ≤ b.y.val := by
    simp only [y]; split <;> omega
  { x, y
    width := min (max a.right b.right - x.val) 2147483647
    height := min (max a.bottom b.bottom - y.val) 2147483647
    width_pos := by have := a.width_pos; simp only [right]; omega
    height_pos := by have := a.height_pos; simp only [bottom]; omega
    right_le := by have := a.right_le; have := b.right_le; simp only [right]; omega
    bottom_le := by have := a.bottom_le; have := b.bottom_le; simp only [bottom]; omega }

/-- `b` lies completely inside `a`. -/
def contains (a b : Rect) : Bool :=
  decide (a.x.val ≤ b.x.val) && decide (a.y.val ≤ b.y.val) &&
    decide (b.right ≤ a.right) && decide (b.bottom ≤ a.bottom)

@[ext] theorem ext {a b : Rect} (hx : a.x = b.x) (hy : a.y = b.y) (hw : a.width = b.width)
    (hh : a.height = b.height) : a = b := by
  cases a; cases b; simp_all

theorem contains_iff {a b : Rect} : a.contains b = true ↔
    a.x.val ≤ b.x.val ∧ a.y.val ≤ b.y.val ∧ b.right ≤ a.right ∧ b.bottom ≤ a.bottom := by
  simp [contains, and_assoc]

end Rect

end Placard
