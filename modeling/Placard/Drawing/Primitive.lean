/-
Placard/Drawing/Primitive.lean

The five things that can be drawn, and the calls that draw each of them.

`Primitive.fault?` says when one of them is refused, `Primitive.perform` makes its calls,
and `Primitive.draw` is the two together: a refused primitive makes no calls.  Where a text in the
built-in face goes depends on the extents of its font, which the device is asked for.
-/
import Placard.Drawing.Device
import Placard.Geometry.Rect

namespace Placard

/-- Something that can be drawn in one go. -/
inductive Primitive where
  /-- A rectangle with rounded corners; the outline runs inside of its edges. -/
  | roundedRect (bounds : Rect) (radius : Float) (fill outline : Option Color) (width : Float)
  /-- A line of text, with its upper left corner at `position`. -/
  | text (position : Point) (text : String) (color : Color) (font : Font)
  /-- A straight segment with round caps. -/
  | line (start stop : Point) (color : Color) (width : Float)
  | polygon (corners : List Point) (fill : Color)
  /-- The ellipse that touches all four edges of `bounds`. -/
  | ellipse (bounds : Rect) (fill : Color)

/-! ### Numbers -/

/-- A quarter of a turn. -/
def quarterTurn : Float := 1.5707963267948966

/-- Half a turn. -/
def halfTurn : Float := 3.141592653589793

/-- The coordinate as a number. -/
def Pixel.toFloat (p : Pixel) : Float := Float.ofInt p.val

/-- The greater of the two; what is no number counts for nothing. -/
def greater (a b : Float) : Float :=
  if a.isNaN then b else if b.isNaN then a else if a < b then b else a

/-- The smaller of the two; what is no number counts for nothing. -/
def smaller (a b : Float) : Float :=
  if a.isNaN then b else if b.isNaN then a else if b < a then b else a

/-- `x`, or the nearer of the two limits. -/
def limitTo (x low high : Float) : Float :=
  if x < low then low else if high < x then high else x

/-! ### Rounded rectangles -/

/-- The line around which the pen of a rounded rectangle moves: the rectangle shrunk by
half the pen's width on every side, and the radius of its corners. -/
structure Contour where
  x : Float
  y : Float
  width : Float
  height : Float
  radius : Float

/-- The contour of `bounds` for a pen of width `stroke`. -/
def Contour.ofRect (bounds : Rect) (radius stroke : Float) : Contour :=
  let inset := stroke / 2
  let width := greater (Float.ofInt bounds.width - stroke) 0
  let height := greater (Float.ofInt bounds.height - stroke) 0
  { x := bounds.x.toFloat + inset
    y := bounds.y.toFloat + inset
    width, height
    radius := limitTo (radius - inset) 0 (smaller width height / 2) }

/-- The path along a contour, one arc for each corner. -/
def Contour.path (c : Contour) : Script :=
  [.newPath,
    .arc (c.x + c.width - c.radius) (c.y + c.radius) c.radius (-quarterTurn) 0,
    .arc (c.x + c.width - c.radius) (c.y + c.height - c.radius) c.radius 0 quarterTurn,
    .arc (c.x + c.radius) (c.y + c.height - c.radius) c.radius quarterTurn halfTurn,
    .arc (c.x + c.radius) (c.y + c.radius) c.radius halfTurn (3 * quarterTurn),
    .closePath]

/-- Fills the path; it is kept if an outline follows. -/
def fillScript (fill : Option Color) (keep : Bool) : Script :=
  match fill with
  | none => []
  | some c => [.setSource c, if keep then .fillPreserve else .fill]

/-- Strokes the path with round joins. -/
def outlineScript (outline : Option Color) (width : Float) : Script :=
  match outline with
  | none => []
  | some c => [.setSource c, .setLineWidth width, .setLineJoin, .stroke]

/-! ### Text -/

/-- The family name of the built-in face. -/
def builtinFamily : String := "@cairo:"

/-- Shows a line of text with its upper left corner at `position`: an installed face is placed by
its corner, the built-in one by its base line. -/
def showLine (position : Point) (text : String) (font : Font) : Drawing Unit := do
  let x := position.x.toFloat
  let y := position.y.toFloat
  match font.request? with
  | some request => Drawing.make [.moveTo x y, .showLayout request text, .status]
  | none =>
    Drawing.make [.selectFontFace builtinFamily font.weight, .setFontSize font.size]
    let ascent ← Drawing.fontExtents
    Drawing.make [.moveTo x (y + ascent), .showText text]

/-! ### All primitives -/

namespace Primitive

/-- Why a primitive is refused. -/
def fault? : Primitive → Option Fault
  | roundedRect _ radius _ outline width =>
    if radius < 0 ∨ radius.isFinite = false then some (.cornerRadius radius)
    else if outline.isSome ∧ width ≤ 0 then some (.outlineWidth width)
    else none
  | line _ _ _ width => if width ≤ 0 then some (.lineWidth width) else none
  | polygon [] _ => some .noPoints
  | polygon corners _ =>
    if corners.length < 3 then some (.fewPoints corners.length) else none
  | text _ _ _ _ => none
  | ellipse _ _ => none

/-- The calls that draw a figure; those of a text are not known before it is drawn. -/
def figureScript : Primitive → Script
  | roundedRect bounds radius fill outline width =>
    let stroke := if outline.isSome then width else 0
    (Contour.ofRect bounds radius stroke).path ++ fillScript fill outline.isSome ++
      outlineScript outline stroke ++ [.newPath]
  | line start stop color width =>
    [.setSource color, .setLineWidth width, .setLineCap,
      .moveTo start.x.toFloat start.y.toFloat, .lineTo stop.x.toFloat stop.y.toFloat, .stroke]
  | polygon [] _ => []
  | polygon (p :: rest) color =>
    [.setSource color, .moveTo p.x.toFloat p.y.toFloat] ++
      rest.map (fun q => .lineTo q.x.toFloat q.y.toFloat) ++ [.closePath, .fill]
  | ellipse bounds color =>
    let rx := Float.ofInt bounds.width / 2
    let ry := Float.ofInt bounds.height / 2
    [.setSource color, .save, .translate (bounds.x.toFloat + rx) (bounds.y.toFloat + ry),
      .scale rx ry, .arc 0 0 1 0 (2 * halfTurn), .restore, .fill]
  | text _ _ _ _ => []

/-- Makes the calls of a primitive that is not refused. -/
def perform : Primitive → Drawing Unit
  | text position content color font => do
    Drawing.make [.save, .setSource color]
    showLine position content font
    Drawing.make [.newPath, .restore]
  | p => Drawing.make p.figureScript

/-- Draws a primitive, or refuses it. -/
def draw (p : Primitive) : Drawing Unit :=
  match p.fault? with
  | some e => Drawing.check (.error e)
  | none => p.perform

end Primitive

end Placard
