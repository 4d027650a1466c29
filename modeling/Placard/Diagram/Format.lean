/-
Placard/Diagram/Format.lean

Diagrams as structured values.
-/
import Placard.Diagram
import Placard.Shape.Format

namespace Placard

open Document

namespace Diagram

/-- A diagram may come without shapes. -/
def record : Record Diagram :=
  ((Record.field "name" Decoder.text).both
    (Record.fieldOr "shapes" (Decoder.list Shape.decode) [])).map
    fun (name, shapes) => ⟨name, shapes⟩

def decode : Decoder Diagram := record.decode "struct Diagram"

def encode (d : Diagram) : Value :=
  .table [("name", .text d.name), ("shapes", .list (d.shapes.map Shape.encode))]

end Diagram

end Placard
