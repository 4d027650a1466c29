/-
Placard/Shape.lean

The shapes that a diagram is made of.

A shape names its colors and fonts by tone and role.  Nothing about it has to be drawable:
sizes may be negative and rectangles may leave the grid.
-/
import Placard.Chart
import Placard.Typeface

namespace Placard

/-- An element of a diagram. -/
inductive Shape where
  /-- a bordered container with an optional heading -/
  | panel (x y w h : Pixel) (title : Option String)
  /-- a dot in the color of a status, and a label -/
  | bullet (x y : Pixel) (text : String) (status : Status)
  /-- a straight connector with a head at its second end -/
  | arrow (x1 y1 x2 y2 : Pixel) (status : Status)
  | chart (c : Chart)
  /-- text with its upper left corner at a point -/
  | text (x y : Pixel) (text : String) (role : Role) (tone : Tone)
  /-- a plain rounded rectangle -/
  | block (x y w h : Pixel) (radius : Float) (fill : Tone) (outline : Option Tone)

/-! ### Where the parts of a shape go -/

/-- Where a panel has its title. -/
def Rect.titleOrigin (bounds : Rect) : Point := bounds.origin.offset 20 14

namespace Shape

/-- Across the dot of a bullet. -/
def dotSize : Pixel := 10

/-- The dot of the bullet at `(x, y)`. -/
def dot (x y : Pixel) : Except Fault Rect := Rect.ofSize x (y.shift 8) dotSize dotSize

/-- Where the bullet at `(x, y)` has its label. -/
def labelOrigin (x y : Pixel) : Point := (⟨x, y⟩ : Point).offset 18 0

/-- The width of an arrow's shaft. -/
def shaftWidth : Int := 4

/-! ### Extent -/

/-- The single pixel at a point, which stands for text of unknown extent. -/
def cell (p : Point) : Except Fault Rect := Rect.ofSize p.x p.y 1 1

/-- The rectangle that a shape occupies, where text counts as one pixel; none if its
geometry is not valid. -/
def extent? : Shape → Option Rect
  | panel x y w h _ => (Rect.ofSize x y w h).toOption
  | block x y w h _ _ _ => (Rect.ofSize x y w h).toOption
  | bullet x y _ _ => do
    let dot ← (dot x y).toOption
    let label ← (cell (labelOrigin x y)).toOption
    return label.union dot
  | arrow x1 y1 x2 y2 _ =>
    let start : Point := ⟨x1, y1⟩
    Point.box? (start :: (Arrowhead.ofEnds start ⟨x2, y2⟩).corners) (shaftWidth / 2)
  | chart c => do
    let bounds ← c.bounds.toOption
    match c.annotation with
    | none => return bounds
    | some a => return bounds.union (← (a.layout bounds).toOption).frame
  | text x y _ _ _ => (cell ⟨x, y⟩).toOption

end Shape

end Placard
