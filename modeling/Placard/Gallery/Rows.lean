/-
Placard/Gallery/Rows.lean

Rows of shapes at equal distances.
-/
import Placard.Diagram

namespace Placard.Gallery

/-- The coordinate of row number `index`, `pitch` pixels apart, from `start` on. -/
def row (start : Pixel) (pitch : Int) (index : Nat) : Pixel := start.shift (pitch * index)

/-- Bullets below each other. -/
def bullets (x y : Pixel) (pitch : Int) (items : List (String × Status)) : List Shape :=
  items.mapIdx fun i item => .bullet x (row y pitch i) item.1 item.2

/-- Lines of text below each other. -/
def paragraph (x y : Pixel) (pitch : Int) (role : Role) (tone : Tone) (texts : List String) :
    List Shape :=
  texts.mapIdx fun i text => .text x (row y pitch i) text role tone

end Placard.Gallery
