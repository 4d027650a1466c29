/-
Placard/Config/Format.lean

Settings as structured values.

Every table and every entry may be left out.  A color is a text or a list of three
numbers from 0 to 255.
-/
import Placard.Config
import Placard.Document.Decoder

namespace Placard

open Document

/-! ### Colors -/

/-- A number from 0 to 255. -/
def byte? : Value → Option UInt8
  | .integer n => if 0 ≤ n ∧ n ≤ 255 then some (UInt8.ofNat n.toNat) else none
  | _ => none

namespace ColorSpec

/-- A value that has neither form is refused as a whole. -/
def decode : Decoder ColorSpec := fun _ v =>
  match v with
  | .text s => .ok (.name s)
  | .list [r, g, b] =>
    match byte? r, byte? g, byte? b with
    | some r, some g, some b => .ok (.rgb r g b)
    | _, _, _ => .error (.noForm "ColorSpec")
  | _ => .error (.noForm "ColorSpec")

def encode : ColorSpec → Value
  | name s => .text s
  | rgb r g b => .list [.integer r.toNat, .integer g.toNat, .integer b.toNat]

end ColorSpec

namespace Override

/-- The first six settings. -/
private def groundRecord :=
  let tone (t : Tone) := Record.fieldIf t.setting ColorSpec.decode
  (tone .background).both ((tone .surface).both ((tone .surfaceAlt).both
    ((tone .border).both ((tone .text).both (tone .muted)))))

/-- The settings of the callout and of the statuses. -/
private def statusRecord :=
  let tone (t : Tone) := Record.fieldIf t.setting ColorSpec.decode
  (tone .callout).both ((tone (.status .ok)).both ((tone (.status .info)).both
    ((tone (.status .caution)).both ((tone (.status .elevated)).both
      (tone (.status .critical))))))

def record : Record Override :=
  (groundRecord.both statusRecord).map
    fun ((background, surface, surfaceAlt, border, text, muted),
      (callout, ok, info, caution, elevated, critical)) =>
    { background, surface, surfaceAlt, border, text, muted, callout, ok, info, caution,
      elevated, critical }

def decode : Decoder Override := record.decode "struct ThemeConfig"

def encode (o : Override) : Value :=
  .ofFields (Tone.all.map fun t => (t.setting, (o.spec? t).map ColorSpec.encode))

end Override

/-! ### Fonts -/

namespace Candidate

def record : Record Candidate :=
  ((Record.field "family" Decoder.text).both (Record.fieldIf "path" Decoder.path)).map
    fun (family, path) => ⟨family, path⟩

def decode : Decoder Candidate := record.decode "struct FontCandidate"

def encode (c : Candidate) : Value :=
  .ofFields [("family", some (.text c.family)), ("path", c.path.map .text)]

end Candidate

namespace FontSettings

def record : Record FontSettings :=
  let standard : FontSizes := {}
  ((Record.fieldOr "candidates" (Decoder.list Candidate.decode) Candidate.standard).both
    ((Record.fieldOr "title_size" Decoder.number standard.title).both
      ((Record.fieldOr "heading_size" Decoder.number standard.heading).both
        ((Record.fieldOr "body_size" Decoder.number standard.body).both
          (Record.fieldOr "caption_size" Decoder.number standard.caption))))).map
    fun (candidates, title, heading, body, caption) =>
      { candidates, sizes := { title, heading, body, caption } }

def decode : Decoder FontSettings := record.decode "struct FontConfig"

def encode (f : FontSettings) : Value :=
  .table [("body_size", .number f.sizes.body),
    ("candidates", .list (f.candidates.map Candidate.encode)),
    ("caption_size", .number f.sizes.caption), ("heading_size", .number f.sizes.heading),
    ("title_size", .number f.sizes.title)]

end FontSettings

/-! ### All settings -/

namespace CanvasSize

def record : Record CanvasSize :=
  let standard : CanvasSize := {}
  ((Record.fieldOr "width" Decoder.pixel standard.width).both
    (Record.fieldOr "height" Decoder.pixel standard.height)).map
    fun (width, height) => { width, height }

def decode : Decoder CanvasSize := record.decode "struct CanvasConfig"

def encode (s : CanvasSize) : Value :=
  .table [("height", .integer s.height.val), ("width", .integer s.width.val)]

end CanvasSize

namespace Config

/-- The table that holds the output directory. -/
def outputRecord : Record String :=
  Record.fieldOr "directory" Decoder.path ({} : Config).directory

def record : Record Config :=
  let standard : Config := {}
  ((Record.fieldOr "output" (outputRecord.decode "struct OutputConfig") standard.directory).both
    ((Record.fieldOr "canvas" CanvasSize.decode standard.canvas).both
      ((Record.fieldOr "fonts" FontSettings.decode standard.fonts).both
        (Record.fieldOr "theme" Override.decode standard.palette)))).map
    fun (directory, canvas, fonts, palette) => { directory, canvas, fonts, palette }

def decode : Decoder Config := record.decode "struct Config"

def encode (c : Config) : Value :=
  .table [("canvas", c.canvas.encode), ("fonts", c.fonts.encode),
    ("output", .table [("directory", .text c.directory)]), ("theme", c.palette.encode)]

end Config

end Placard
