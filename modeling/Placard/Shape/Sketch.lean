/-
Placard/Shape/Sketch.lean

What every shape is drawn with.

`Shape.sketch` turns a shape into primitives, in a given style; `Shape.draw` draws the
primitives one after the other.  In a chart all lines come before all markers, and a point that
is not inside of the chart ends the sketch right after the container.
-/
import Placard.Shape
import Placard.Drawing.Canvas
import Placard.Drawing.Trace

namespace Placard

/-- The theme and the fonts of a drawing. -/
structure Style where
  theme : Theme
  typography : Typography

/-- A sequence of primitives. -/
abbrev Sketch := Trace Primitive

/-- Draws the primitives of a sketch; if the sketch ended in a fault, so does the drawing. -/
def Sketch.draw (t : Sketch Unit) : Drawing Unit := do
  t.items.forM Primitive.draw
  Drawing.check t.outcome

/-- The width of the outline of panels, blocks, charts and callouts. -/
def outlineWidth : Float := 2

/-- A filled rectangle, outlined in the usual width. -/
def Primitive.box (bounds : Rect) (radius : Float) (fill outline : Color) : Primitive :=
  .roundedRect bounds radius (some fill) (some outline) outlineWidth

namespace Style

variable (style : Style)

/-- A line of text in the color of ordinary text. -/
def label (position : Point) (text : String) (role : Role) : Primitive :=
  .text position text style.theme.text (style.typography.font role)

/-- The shaft and the head of an arrow. -/
def arrow (start stop : Point) (status : Status) : List Primitive :=
  let color := style.theme.status status
  [.line start stop color (Float.ofInt Shape.shaftWidth),
    .polygon (Arrowhead.ofEnds start stop).corners color]

end Style

/-! ### Charts -/

namespace Chart

/-- The radius of the corners of a chart and of its callout. -/
def cornerRadius : Float := 12

/-- The width of the line of a series. -/
def seriesWidth : Float := 5

/-- From the middle of a marker to its edge. -/
def markerRadius : Int := 5

/-- The segments between neighbours in a list of points. -/
def segments (color : Color) : List Point → List Primitive
  | p :: q :: rest => .line p q color seriesWidth :: segments color (q :: rest)
  | _ => []

/-- The marker around a point. -/
def marker (color : Color) (p : Point) : Except Fault Primitive := do
  let corner := p.offset (-markerRadius) (-markerRadius)
  let size := Pixel.clamp (2 * markerRadius)
  return .ellipse (← Rect.ofSize corner.x corner.y size size) color

/-- The markers of a series. -/
def markers (color : Color) (points : List Point) : Sketch Unit :=
  Trace.all (points.map fun p => do Trace.step (← marker color p))

/-- The caption of series number `index`. -/
def caption (style : Style) (c : Chart) (index : Nat) (s : Series) : Primitive :=
  .text (c.captionOrigin index) s.label (style.theme.status s.status)
    (style.typography.font .caption)

/-- The frame, the two lines of text and the pointer of a callout. -/
def callout (style : Style) (a : Annotation) (layout : Callout) : List Primitive :=
  [.box layout.frame cornerRadius style.theme.callout (style.theme.status a.status),
    style.label layout.headline a.headline .body,
    style.label layout.detail a.detail .caption] ++
  style.arrow layout.pointerStart layout.pointerStop a.status

/-- The whole chart. -/
def sketch (style : Style) (c : Chart) : Sketch Unit := do
  let bounds ← c.bounds
  Trace.step (.box bounds cornerRadius style.theme.surfaceAlt style.theme.border)
  let lines ← c.series.mapM fun s =>
    return (style.theme.status s.status, ← c.pixels s)
  Trace.steps (lines.flatMap fun l => segments l.1 l.2)
  Trace.all (lines.map fun l => markers l.1 l.2)
  Trace.steps (c.series.mapIdx (caption style c))
  match c.annotation with
  | none => pure ()
  | some a =>
    let layout ← a.layout bounds
    Trace.steps (callout style a layout)

end Chart

/-! ### All shapes -/

namespace Shape

/-- The radius of the corners of a panel. -/
def panelRadius : Float := 20

/-- The primitives that a shape is drawn with. -/
def sketch (style : Style) : Shape → Sketch Unit
  | panel x y w h title => do
    let bounds ← Rect.ofSize x y w h
    Trace.step (.box bounds panelRadius style.theme.surface style.theme.border)
    match title with
    | none => pure ()
    | some title => Trace.step (style.label bounds.titleOrigin title .heading)
  | bullet x y label status => do
    Trace.step (.ellipse (← dot x y) (style.theme.status status))
    Trace.step (style.label (labelOrigin x y) label .body)
  | arrow x1 y1 x2 y2 status => Trace.steps (style.arrow ⟨x1, y1⟩ ⟨x2, y2⟩ status)
  | chart c => c.sketch style
  | text x y words role tone =>
    Trace.step (.text ⟨x, y⟩ words (style.theme.color tone) (style.typography.font role))
  | block x y w h radius fill outline => do
    let bounds ← Rect.ofSize x y w h
    Trace.step (.roundedRect bounds radius (some (style.theme.color fill))
      (outline.map style.theme.color) outlineWidth)

/-- Draws a shape. -/
def draw (style : Style) (s : Shape) : Drawing Unit := Sketch.draw (s.sketch style)

/-- Draws several shapes, the first one at the bottom. -/
def drawAll (style : Style) (shapes : List Shape) : Drawing Unit := shapes.forM (draw style)

end Shape

end Placard
