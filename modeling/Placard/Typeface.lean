/-
Placard/Typeface.lean

Faces, fonts, and the four roles that text can have.

A typography uses one face throughout; the role decides weight and size.
-/
import Placard.Number.Binary64

namespace Placard

/-- A family that is installed on the system, or the face that is always there. -/
inductive Face where
  | family (name : String)
  | builtin
deriving DecidableEq

inductive Weight where
  | normal
  | bold
deriving DecidableEq, Repr

def Weight.name : Weight → String
  | .normal => "Normal"
  | .bold => "Bold"

/-- A face at a weight and a size in pixels. -/
structure Font where
  face : Face
  weight : Weight
  size : Float

/-- How an installed family is asked for: its name, weight, and absolute size in 1024ths
of a pixel. -/
structure FontRequest where
  family : String
  weight : Weight
  size : Float

namespace Font

/-- The request for a font of an installed family; its size is a whole number of
pixels. -/
def request? (f : Font) : Option FontRequest :=
  match f.face with
  | .family name => some ⟨name, f.weight, roundWhole f.size * 1024⟩
  | .builtin => none

/-- The name of a font in reports. -/
def describe (f : Font) : String :=
  let size := toString (Exact.ofFloat f.size).nearestPixel.val ++ "px"
  match f.face, f.weight with
  | .family name, .bold => name ++ ", Bold " ++ size
  | .family name, .normal => name ++ ", " ++ size
  | .builtin, _ => "built-in " ++ size

end Font

/-- What a piece of text is for. -/
inductive Role where
  | title
  | heading
  | body
  | caption
deriving DecidableEq, Repr

def Role.names : List (String × Role) :=
  [("title", .title), ("heading", .heading), ("body", .body), ("caption", .caption)]

def Role.name : Role → String
  | .title => "title"
  | .heading => "heading"
  | .body => "body"
  | .caption => "caption"

/-- Titles and headings are bold. -/
def Role.weight : Role → Weight
  | .title => .bold
  | .heading => .bold
  | .body => .normal
  | .caption => .normal

/-- A size in pixels for every role. -/
structure FontSizes where
  title : Float := 58
  heading : Float := 28
  body : Float := 24
  caption : Float := 20

def FontSizes.size (s : FontSizes) : Role → Float
  | .title => s.title
  | .heading => s.heading
  | .body => s.body
  | .caption => s.caption

/-- One face in the sizes of all roles. -/
structure Typography where
  face : Face
  sizes : FontSizes

namespace Typography

/-- The font of a role. -/
def font (t : Typography) (r : Role) : Font := ⟨t.face, r.weight, t.sizes.size r⟩

/-- The report of all four fonts. -/
def describe (t : Typography) : String :=
  "title " ++ (t.font .title).describe ++ ", heading " ++ (t.font .heading).describe ++
    ", body " ++ (t.font .body).describe ++ ", caption " ++ (t.font .caption).describe

end Typography

end Placard
