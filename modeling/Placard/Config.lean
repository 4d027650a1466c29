/-
Placard/Config.lean

The settings of a run: where images go, how large they are, which fonts and colors are used.

Every setting has a default.  `Config.settle` brings sizes that are out of range to the
nearer limit; each change is a `Correction`, and the corrections are listed in the order
of the settings.
-/
import Placard.Typeface.Candidate
import Placard.Palette.Override
import Placard.Shape.Sketch

namespace Placard

/-- The font settings: candidates in the order of preference, and the four sizes. -/
structure FontSettings where
  candidates : List Candidate := Candidate.standard
  sizes : FontSizes := {}

/-- The settings of a run. -/
structure Config where
  directory : String := "docs/launch"
  canvas : CanvasSize := {}
  fonts : FontSettings := {}
  palette : Override := {}

/-- A setting that was out of range. -/
inductive Correction where
  | canvasSize (setting : String) (value : Pixel)
  | fontSize (setting : String) (value : Float)
  /-- There are no candidates; this is reported and left as it is. -/
  | noCandidates

namespace Config

/-- The least width and height of a canvas. -/
def leastCanvas : Int := 64

/-- The greatest width and height of a canvas. -/
def greatestCanvas : Int := 8192

/-- The least size of a font. -/
def leastFont : Float := 6

/-- The greatest size of a font. -/
def greatestFont : Float := 200

/-- A width or height brought into range, and the correction if that changed it. -/
def settleCanvas (setting : String) (p : Pixel) : Pixel × Option Correction :=
  if leastCanvas ≤ p.val ∧ p.val ≤ greatestCanvas then (p, none)
  else (Pixel.clamp (max leastCanvas (min p.val greatestCanvas)), some (.canvasSize setting p))

/-- A font size brought into range; what is no number becomes the least size. -/
def settleFont (setting : String) (x : Float) : Float × Option Correction :=
  if x.isNaN then (leastFont, some (.fontSize setting x))
  else if leastFont ≤ x ∧ x ≤ greatestFont then (x, none)
  else (limitTo x leastFont greatestFont, some (.fontSize setting x))

/-- The settings with every size in range, and the corrections made. -/
def settle (c : Config) : Config × List Correction :=
  let (width, e₁) := settleCanvas "width" c.canvas.width
  let (height, e₂) := settleCanvas "height" c.canvas.height
  let (title, e₃) := settleFont "title_size" c.fonts.sizes.title
  let (heading, e₄) := settleFont "heading_size" c.fonts.sizes.heading
  let (body, e₅) := settleFont "body_size" c.fonts.sizes.body
  let (caption, e₆) := settleFont "caption_size" c.fonts.sizes.caption
  let e₇ := if c.fonts.candidates.isEmpty then some .noCandidates else none
  ({ c with canvas := { width, height }
            fonts := { c.fonts with sizes := { title, heading, body, caption } } },
    [e₁, e₂, e₃, e₄, e₅, e₆, e₇].filterMap id)

end Config

/-- The text of a correction. -/
def Correction.message : Correction → String
  | canvasSize setting value =>
    "Invalid canvas " ++ setting ++ " " ++ toString value.val ++ ", clamping to " ++
      toString Config.leastCanvas ++ "-" ++ toString Config.greatestCanvas ++ " range"
  | fontSize setting value =>
    if value.isNaN then
      "Invalid font " ++ setting ++ " NaN, using " ++ Decimal.tenths Config.leastFont
    else
      "Invalid font " ++ setting ++ " " ++ Decimal.tenths value ++ ", clamping to " ++
        Decimal.tenths Config.leastFont ++ "-" ++ Decimal.tenths Config.greatestFont ++ " range"
  | noCandidates => "No font candidates configured, text will use the built-in font"

end Placard
