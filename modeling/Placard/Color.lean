/-
Placard/Color.lean

Colors, and the two ways to write one as text.

`Color.ofHex?` reads six hexadecimal digits after an optional `#`; a plus sign may stand
in place of the first digit of a pair.  `Color.named?` knows seven English names, which it
compares with the lower case of the text.
-/
import Placard.Geometry.Fault
import Placard.Lowercase
import Placard.Number.Hexadecimal

namespace Placard

/-- A color with its opacity; every component runs from zero to one. -/
structure Color where
  r : Float
  g : Float
  b : Float
  a : Float

namespace Color

/-- The opaque color with the given components out of 255. -/
def ofBytes (r g b : UInt8) : Color :=
  ⟨Float.ofNat r.toNat / 255, Float.ofNat g.toNat / 255, Float.ofNat b.toNat / 255, 1⟩

/-! ### Hexadecimal colors -/

/-- The byte that two characters denote: two digits, or a plus sign and a digit. -/
def hexByte? (a b : Char) : Option UInt8 :=
  if a = '+' then (hexDigit? b).map UInt8.ofNat
  else do return UInt8.ofNat (16 * (← hexDigit? a) + (← hexDigit? b))

/-- The color that exactly six characters denote. -/
def ofHexDigits? : List Char → Option Color
  | [r₁, r₂, g₁, g₂, b₁, b₂] => do
    return ofBytes (← hexByte? r₁ r₂) (← hexByte? g₁ g₂) (← hexByte? b₁ b₂)
  | _ => none

/-- The color written as `#RRGGBB` or `RRGGBB`. -/
def ofHex? (text : String) : Option Color :=
  match text.toList with
  | '#' :: digits => ofHexDigits? digits
  | digits => ofHexDigits? digits

/-! ### Named colors -/

def red : Color := ofBytes 0xEF 0x44 0x44
def green : Color := ofBytes 0x16 0xA3 0x4A
def blue : Color := ofBytes 0x38 0xBD 0xF8
def yellow : Color := ofBytes 0xF5 0x9E 0x0B
def orange : Color := ofBytes 0xFB 0x92 0x3C
def white : Color := ofBytes 0xFF 0xFF 0xFF
def black : Color := ofBytes 0 0 0

/-- The names and their colors. -/
def names : List (String × Color) :=
  [("red", red), ("green", green), ("blue", blue), ("yellow", yellow), ("orange", orange),
    ("white", white), ("black", black)]

/-- The color with the given name, in any letter case. -/
def named? (name : String) : Option Color :=
  names.lookup (Lowercase.ofString name)

end Color

end Placard
