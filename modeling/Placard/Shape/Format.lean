/-
Placard/Shape/Format.lean

Shapes and their parts as structured values.

A shape is a table whose entry `kind` names the kind of shape, or a list that begins with
that name and goes on with the fields in order.  For every type there is a decoder, and
an `encode` that writes the table form and leaves out what is not there.
-/
import Placard.Shape
import Placard.Document.Decoder

namespace Placard

open Document

/-! ### Statuses, tones and roles -/

def Status.decode : Decoder Status := Decoder.choice Status.names

def Status.encode (s : Status) : Value := .text s.name

def Role.decode : Decoder Role := Decoder.choice Role.names

def Role.encode (r : Role) : Value := .text r.name

/-- A tone is a name, or a status under the name `status`. -/
def Tone.decode : Decoder Tone := fun s =>
  Decoder.variant fun name content =>
    if name = "status" then
      match content with
      | none => .error (.wrongType .bareVariant "newtype variant")
      | some v => (Status.decode s v).map .status
    else
      match Tone.names.lookup name with
      | none => .error (.unknownVariant name (Tone.names.map (·.1) ++ ["status"]))
      | some t => do
        match content with
        | none => pure ()
        | some v => Decoder.noContent s v
        return t

def Tone.encode : Tone → Value
  | .background => .text "background"
  | .surface => .text "surface"
  | .surfaceAlt => .text "surface-alt"
  | .border => .text "border"
  | .text => .text "text"
  | .muted => .text "muted"
  | .callout => .text "callout"
  | .status s => .table [("status", s.encode)]

/-! ### Points -/

def Point.record : Record Point :=
  ((Record.field "x" Decoder.pixel).both (Record.field "y" Decoder.pixel)).map
    fun (x, y) => ⟨x, y⟩

def Point.decode : Decoder Point := Point.record.decode "struct Point"

def Point.encode (p : Point) : Value :=
  .table [("x", .integer p.x.val), ("y", .integer p.y.val)]

def UnitPoint.record : Record UnitPoint :=
  ((Record.field "x" Decoder.number).both (Record.field "y" Decoder.number)).map
    fun (x, y) => ⟨x, y⟩

def UnitPoint.decode : Decoder UnitPoint := UnitPoint.record.decode "struct NormalizedPoint"

def UnitPoint.encode (p : UnitPoint) : Value := .table [("x", .number p.x), ("y", .number p.y)]

/-! ### Charts -/

def Series.record : Record Series :=
  ((Record.field "label" Decoder.text).both
    ((Record.field "status" Status.decode).both
      (Record.field "points" (Decoder.list UnitPoint.decode)))).map
    fun (label, status, points) => ⟨label, status, points⟩

def Series.decode : Decoder Series := Series.record.decode "struct ChartSeries"

def Series.encode (s : Series) : Value :=
  .table [("label", .text s.label), ("points", .list (s.points.map UnitPoint.encode)),
    ("status", s.status.encode)]

/-- A callout is critical unless it says otherwise. -/
def Annotation.record : Record Annotation :=
  ((Record.field "anchor" UnitPoint.decode).both
    ((Record.field "headline" Decoder.text).both
      ((Record.field "detail" Decoder.text).both
        (Record.fieldOr "status" Status.decode .critical)))).map
    fun (anchor, headline, detail, status) => ⟨anchor, headline, detail, status⟩

def Annotation.decode : Decoder Annotation := Annotation.record.decode "struct Annotation"

def Annotation.encode (a : Annotation) : Value :=
  .table [("anchor", a.anchor.encode), ("detail", .text a.detail),
    ("headline", .text a.headline), ("status", a.status.encode)]

/-- The corner and the size of a rectangle, under one letter each. -/
def areaRecord : Record (Pixel × Pixel × Pixel × Pixel) :=
  (Record.field "x" Decoder.pixel).both ((Record.field "y" Decoder.pixel).both
    ((Record.field "w" Decoder.pixel).both (Record.field "h" Decoder.pixel)))

def Chart.record : Record Chart :=
  (areaRecord.both ((Record.field "series" (Decoder.list Series.decode)).both
    (Record.fieldIf "annotation" Annotation.decode))).map
    fun ((x, y, w, h), series, annotation) => ⟨x, y, w, h, series, annotation⟩

def Chart.decode : Decoder Chart := Chart.record.decode "struct TimelineChart"

/-- The fields of a chart. -/
def Chart.fields (c : Chart) : List (String × Option Value) :=
  [("annotation", c.annotation.map Annotation.encode), ("h", some (.integer c.h.val)),
    ("series", some (.list (c.series.map Series.encode))), ("w", some (.integer c.w.val)),
    ("x", some (.integer c.x.val)), ("y", some (.integer c.y.val))]

def Chart.encode (c : Chart) : Value := .ofFields c.fields

/-! ### Shapes -/

namespace Shape

/-- The kinds of shapes. -/
inductive Kind where
  | panel
  | bullet
  | arrow
  | chart
  | text
  | block
deriving DecidableEq, Repr

def Kind.names : List (String × Kind) :=
  [("panel", .panel), ("bullet", .bullet), ("arrow", .arrow), ("chart", .chart),
    ("text", .text), ("block", .block)]

def Kind.decode : Value → Except Mismatch Kind
  | .text name =>
    match Kind.names.lookup name with
    | some k => .ok k
    | none => .error (.unknownVariant name (Kind.names.map (·.1)))
  | v => refuse v "variant identifier"

def panelRecord : Record Shape :=
  (areaRecord.both (Record.fieldIf "title" Decoder.text)).map
    fun ((x, y, w, h), title) => panel x y w h title

/-- A bullet is in order unless it says otherwise. -/
def bulletRecord : Record Shape :=
  ((Record.field "x" Decoder.pixel).both ((Record.field "y" Decoder.pixel).both
    ((Record.field "text" Decoder.text).both (Record.fieldOr "status" Status.decode .ok)))).map
    fun (x, y, label, status) => bullet x y label status

/-- An arrow informs unless it says otherwise. -/
def arrowRecord : Record Shape :=
  ((Record.field "x1" Decoder.pixel).both ((Record.field "y1" Decoder.pixel).both
    ((Record.field "x2" Decoder.pixel).both ((Record.field "y2" Decoder.pixel).both
      (Record.fieldOr "status" Status.decode .info))))).map
    fun (x1, y1, x2, y2, status) => arrow x1 y1 x2 y2 status

/-- Text is ordinary body text unless it says otherwise. -/
def textRecord : Record Shape :=
  ((Record.field "x" Decoder.pixel).both ((Record.field "y" Decoder.pixel).both
    ((Record.field "text" Decoder.text).both ((Record.fieldOr "role" Role.decode .body).both
      (Record.fieldOr "tone" Tone.decode .text))))).map
    fun (x, y, words, role, tone) => text x y words role tone

def blockRecord : Record Shape :=
  (areaRecord.both ((Record.field "radius" Decoder.number).both
    ((Record.field "fill" Tone.decode).both (Record.fieldIf "outline" Tone.decode)))).map
    fun ((x, y, w, h), radius, fill, outline) => block x y w h radius fill outline

/-- The fields of a shape of the given kind. -/
def content : Kind → Decoder Shape
  | .panel => panelRecord.decode "struct variant Shape::Panel"
  | .bullet => bulletRecord.decode "struct variant Shape::Bullet"
  | .arrow => arrowRecord.decode "struct variant Shape::Arrow"
  | .chart => fun s v => (Chart.decode s v).map chart
  | .text => textRecord.decode "struct variant Shape::Text"
  | .block => blockRecord.decode "struct variant Shape::Block"

/-- The kind is looked up first; the other fields are held until then. -/
def decode : Decoder Shape := Decoder.held fun s v =>
  match v with
  | .table entries =>
    match entries.lookup "kind" with
    | none => .error (.missingField "kind")
    | some kind => do
      content (← Kind.decode kind) s (.table (entries.filter fun e => e.1 != "kind"))
  | .list [] => .error (.missingField "kind")
  | .list (kind :: rest) => do content (← Kind.decode kind) s (.list rest)
  | v => refuse v "internally tagged enum Shape"

def encode : Shape → Value
  | panel x y w h title =>
    .ofFields [("h", some (.integer h.val)), ("kind", some (.text "panel")),
      ("title", title.map .text), ("w", some (.integer w.val)), ("x", some (.integer x.val)),
      ("y", some (.integer y.val))]
  | bullet x y label status =>
    .table [("kind", .text "bullet"), ("status", status.encode), ("text", .text label),
      ("x", .integer x.val), ("y", .integer y.val)]
  | arrow x1 y1 x2 y2 status =>
    .table [("kind", .text "arrow"), ("status", status.encode), ("x1", .integer x1.val),
      ("x2", .integer x2.val), ("y1", .integer y1.val), ("y2", .integer y2.val)]
  | chart c => .ofFields (("kind", some (.text "chart")) :: c.fields)
  | text x y words role tone =>
    .table [("kind", .text "text"), ("role", role.encode), ("text", .text words),
      ("tone", tone.encode), ("x", .integer x.val), ("y", .integer y.val)]
  | block x y w h radius fill outline =>
    .ofFields [("fill", some fill.encode), ("h", some (.integer h.val)),
      ("kind", some (.text "block")), ("outline", outline.map Tone.encode),
      ("radius", some (.number radius)), ("w", some (.integer w.val)),
      ("x", some (.integer x.val)), ("y", some (.integer y.val))]

end Shape

end Placard
