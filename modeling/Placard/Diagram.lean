/-
Placard/Diagram.lean

Diagrams: named lists of shapes, the first one at the bottom.

`Diagram.outside` lists the shapes that leave a rectangle.  A shape without an extent is
not listed; it cannot be drawn.
-/
import Placard.Shape

namespace Placard

/-- A named list of shapes in the order in which they are drawn. -/
structure Diagram where
  name : String
  shapes : List Shape

namespace Diagram

/-- A diagram without shapes. -/
def empty (name : String) : Diagram := ⟨name, []⟩

/-- Puts shapes on top of a diagram. -/
def add (d : Diagram) (shapes : List Shape) : Diagram := { d with shapes := d.shapes ++ shapes }

/-- A diagram that has a title and a line below it. -/
def withHeader (name title subtitle : String) : Diagram :=
  (empty name).add [.text 56 40 title .title .text, .text 56 112 subtitle .caption .muted]

/-- The name of the image file. -/
def fileName (d : Diagram) : String := "infographic_" ++ d.name ++ ".png"

/-- What a name may consist of: letters and digits of ASCII, `_` and `-`. -/
def isNameChar (c : Char) : Bool := c.isAlphanum || c == '_' || c == '-'

/-- The text can name a diagram that is read from a file. -/
def isName (s : String) : Bool := !s.toList.isEmpty && s.toList.all isNameChar

/-- The shape leaves `bounds`. -/
def leaves (bounds : Rect) (s : Shape) : Bool := s.extent?.any fun r => !bounds.contains r

/-- The numbers of the shapes that leave `bounds`, in order. -/
def outside (d : Diagram) (bounds : Rect) : List Nat :=
  (d.shapes.zipIdx.filter fun s => leaves bounds s.1).map (·.2)

end Diagram

end Placard
