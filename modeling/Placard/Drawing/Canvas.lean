/-
Placard/Drawing/Canvas.lean

A canvas: its size, and the calls that begin and end a drawing on it.
-/
import Placard.Drawing.Primitive

namespace Placard

/-- A size in pixels, not yet known to be positive. -/
structure CanvasSize where
  width : Pixel := 1536
  height : Pixel := 1024
deriving DecidableEq

namespace CanvasSize

/-- The size in words. -/
def words (s : CanvasSize) : String :=
  toString s.width.val ++ "x" ++ toString s.height.val

/-- The whole canvas as a rectangle. -/
def area (s : CanvasSize) : Except Fault Rect :=
  if h : s.width.val ≤ 0 ∨ s.height.val ≤ 0 then .error (.emptyCanvas s.width s.height)
  else
    have hx : (0 : Pixel).val = 0 := rfl
    .ok ⟨0, 0, s.width.val, s.height.val, by omega, by omega,
      by have := s.width.le_greatest; omega, by have := s.height.le_greatest; omega⟩

end CanvasSize

namespace Canvas

/-- The calls that make a surface of the given size and cover it with the background. -/
def opening (size : CanvasSize) (background : Color) : Script :=
  [.surfaceCreate size.width size.height, .contextNew, .setSource background, .paint]

/-- Begins a drawing; the answer is the drawing's area. -/
def create (size : CanvasSize) (background : Color) : Drawing Rect := do
  let area ← Drawing.check size.area
  Drawing.make (opening size background)
  return area

/-- The call that ends a drawing. -/
def finish : Script := [.surfaceFlush]

end Canvas

end Placard
