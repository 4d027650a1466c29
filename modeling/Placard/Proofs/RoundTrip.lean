/-
Placard/Proofs/RoundTrip.lean

What is written is read back.

For every type that a document can hold, `written` lists the fields of a value in the order of their
declaration, and `spells` says that the reader of the type takes these fields for the value.  The
table that `encode` writes has them in the order of their names, and the list that `positional`
writes has them as they are; both are read back.  `Document.formats_are_faithful` collects the
results for all types.
-/
import Placard.Config.Format
import Placard.Diagram.Format
import Placard.Proofs.Fields

namespace Placard

open Document

/-! ### Names -/

theorem Status.reads : Decoder.Reads decode encode :=
  ⟨fun _ status => (by cases status <;> rfl), fun _ => Value.noConfusion⟩

theorem Role.reads : Decoder.Reads decode encode :=
  ⟨fun _ role => (by cases role <;> rfl), fun _ => Value.noConfusion⟩

/-- A tone that is a status is a table, every other one a text. -/
theorem Tone.reads : Decoder.Reads decode encode where
  decode s tone := by
    cases tone with
    | status status => cases status <;> rfl
    | _ => rfl
  ne_null tone := by cases tone <;> exact Value.noConfusion

@[simp] theorem Status.narrow_encode (status : Status) : status.encode.Narrow := rfl

@[simp] theorem Role.narrow_encode (role : Role) : role.encode.Narrow := rfl

@[simp] theorem Tone.narrow_encode (tone : Tone) : tone.encode.Narrow := by
  cases tone <;> rfl

/-! ### The parts of a chart -/

namespace UnitPoint

def written (p : UnitPoint) : Fields := [("x", some (.number p.x)), ("y", some (.number p.y))]

/-- A point as the list of its fields. -/
def positional (p : UnitPoint) : Value := .list p.written.values

theorem spells (s : Source) (p : UnitPoint) : Spells s record p.written p :=
  .map _ (.both (.field (Decoder.number_number s p.x)) (.field (Decoder.number_number s p.y)))

theorem reads : Decoder.Reads decode encode :=
  .ofTable spells (fun _ => ⟨_, rfl, by simp [Entries.Have, written, List.lookup_cons]⟩) _

theorem reads_positional : Decoder.Reads decode positional :=
  .ofList spells (fun _ => by simp [written, Fields.Closed]) _

theorem narrow_encode (p : UnitPoint) : p.encode.Narrow :=
  Value.narrow_table (by simp)

theorem narrow_positional (p : UnitPoint) : p.positional.Narrow :=
  Value.narrow_list (Fields.narrow_values (by simp [Fields.Narrow, written]))

end UnitPoint

namespace Series

variable {point : UnitPoint → Value}

/-- The fields of a series whose points are written in a certain way. -/
def written (point : UnitPoint → Value) (l : Series) : Fields :=
  [("label", some (.text l.label)), ("status", some l.status.encode),
    ("points", some (.list (l.points.map point)))]

/-- A series as the list of its fields. -/
def positional (l : Series) : Value := .list (l.written UnitPoint.positional).values

theorem spells (h : UnitPoint.decode.Reads point) (s : Source) (l : Series) :
    Spells s record (l.written point) l :=
  .map _ (.both (.field (Decoder.text_text s l.label))
    (.both (.field (Status.reads.decode s l.status)) (.field (h.list s l.points))))

theorem reads : Decoder.Reads decode encode :=
  .ofTable (spells UnitPoint.reads)
    (fun _ => ⟨_, rfl, by simp [Entries.Have, written, List.lookup_cons]⟩) _

theorem reads_positional : Decoder.Reads decode positional :=
  .ofList (spells UnitPoint.reads_positional) (fun _ => by simp [written, Fields.Closed]) _

theorem narrow_encode (l : Series) : l.encode.Narrow :=
  Value.narrow_table (by simp [Value.narrow_list_map UnitPoint.narrow_encode])

theorem narrow_positional (l : Series) : l.positional.Narrow :=
  Value.narrow_list (Fields.narrow_values
    (by simp [Fields.Narrow, written, Value.narrow_list_map UnitPoint.narrow_positional]))

end Series

namespace Annotation

variable {point : UnitPoint → Value}

def written (point : UnitPoint → Value) (a : Annotation) : Fields :=
  [("anchor", some (point a.anchor)), ("headline", some (.text a.headline)),
    ("detail", some (.text a.detail)), ("status", some a.status.encode)]

/-- An annotation as the list of its fields. -/
def positional (a : Annotation) : Value := .list (a.written UnitPoint.positional).values

theorem spells (h : UnitPoint.decode.Reads point) (s : Source) (a : Annotation) :
    Spells s record (a.written point) a :=
  .map _ (.both (.field (h.decode s a.anchor)) (.both (.field (Decoder.text_text s a.headline))
    (.both (.field (Decoder.text_text s a.detail)) (.fieldOr (Status.reads.decode s a.status)))))

theorem reads : Decoder.Reads decode encode :=
  .ofTable (spells UnitPoint.reads)
    (fun _ => ⟨_, rfl, by simp [Entries.Have, written, List.lookup_cons]⟩) _

theorem reads_positional : Decoder.Reads decode positional :=
  .ofList (spells UnitPoint.reads_positional) (fun _ => by simp [written, Fields.Closed]) _

theorem narrow_encode (a : Annotation) : a.encode.Narrow :=
  Value.narrow_table (by simp [UnitPoint.narrow_encode])

theorem narrow_positional (a : Annotation) : a.positional.Narrow :=
  Value.narrow_list (Fields.narrow_values
    (by simp [Fields.Narrow, written, UnitPoint.narrow_positional]))

end Annotation

/-! ### Shapes -/

/-- The ways in which the parts of a chart are written. -/
structure PartForms where
  series : Series → Value
  annotation : Annotation → Value
  /-- nothing is written as `null` instead of being left out -/
  asNull : Bool

namespace PartForms

/-- The parts of a chart are read back, also where they are held. -/
structure Readable (p : PartForms) : Prop where
  series : Series.decode.Reads p.series
  annotation : Annotation.decode.Reads p.annotation
  narrow_series : ∀ l, (p.series l).Narrow
  narrow_annotation : ∀ a, (p.annotation a).Narrow

/-- All records are tables. -/
def tables (asNull : Bool) : PartForms := ⟨Series.encode, Annotation.encode, asNull⟩

/-- All records are lists. -/
def lists (asNull : Bool) : PartForms := ⟨Series.positional, Annotation.positional, asNull⟩

theorem readable_tables (asNull : Bool) : (tables asNull).Readable :=
  ⟨Series.reads, Annotation.reads, Series.narrow_encode, Annotation.narrow_encode⟩

theorem readable_lists (asNull : Bool) : (lists asNull).Readable :=
  ⟨Series.reads_positional, Annotation.reads_positional, Series.narrow_positional,
    Annotation.narrow_positional⟩

end PartForms

namespace Shape

/-- The corner and the size of a rectangle. -/
@[simp] def area (x y w h : Pixel) : Fields :=
  [("x", some (.integer x.val)), ("y", some (.integer y.val)), ("w", some (.integer w.val)),
    ("h", some (.integer h.val))]

theorem spells_area (s : Source) (x y w h : Pixel) :
    Spells s areaRecord (area x y w h) (x, y, w, h) :=
  .both (.field (Decoder.pixel_integer s x)) (.both (.field (Decoder.pixel_integer s y))
    (.both (.field (Decoder.pixel_integer s w)) (.field (Decoder.pixel_integer s h))))

/-- The kind of a shape. -/
@[simp] def kind : Shape → Kind
  | panel _ _ _ _ _ => .panel
  | bullet _ _ _ _ => .bullet
  | arrow _ _ _ _ _ => .arrow
  | chart _ => .chart
  | text _ _ _ _ _ => .text
  | block _ _ _ _ _ _ _ => .block

@[simp] def Kind.name : Kind → String
  | .panel => "panel"
  | .bullet => "bullet"
  | .arrow => "arrow"
  | .chart => "chart"
  | .text => "text"
  | .block => "block"

theorem Kind.decode_name (k : Kind) : decode (.text k.name) = .ok k := by
  cases k <;> rfl

/-- The fields of a shape after its kind. -/
@[simp] def written (p : PartForms) : Shape → Fields
  | panel x y w h title => area x y w h ++ [("title", Value.option? p.asNull .text title)]
  | bullet x y label status =>
    [("x", some (.integer x.val)), ("y", some (.integer y.val)), ("text", some (.text label)),
      ("status", some status.encode)]
  | arrow x1 y1 x2 y2 status =>
    [("x1", some (.integer x1.val)), ("y1", some (.integer y1.val)),
      ("x2", some (.integer x2.val)), ("y2", some (.integer y2.val)),
      ("status", some status.encode)]
  | chart c => area c.x c.y c.w c.h ++ [("series", some (.list (c.series.map p.series))),
      ("annotation", Value.option? p.asNull p.annotation c.annotation)]
  | text x y words role tone =>
    [("x", some (.integer x.val)), ("y", some (.integer y.val)), ("text", some (.text words)),
      ("role", some role.encode), ("tone", some tone.encode)]
  | block x y w h radius fill outline => area x y w h ++ [("radius", some (.number radius)),
      ("fill", some fill.encode), ("outline", Value.option? p.asNull Tone.encode outline)]

/-- The reader of the fields of a shape is that of a record. -/
theorem spells {p : PartForms} (hp : p.Readable) (shape : Shape) :
    ∃ (record : Record Shape) (title : String),
      (∀ s v, content shape.kind s v = record.decode title s v) ∧
      ∀ s, Spells s record (shape.written p) shape := by
  cases shape with
  | panel x y w h title =>
    refine ⟨panelRecord, _, fun _ _ => rfl, fun s => ?_⟩
    exact .map _ (.both (spells_area s x y w h) (.fieldIf Decoder.reads_text p.asNull title))
  | bullet x y label status =>
    refine ⟨bulletRecord, _, fun _ _ => rfl, fun s => ?_⟩
    exact .map _ (.both (.field (Decoder.pixel_integer s x))
      (.both (.field (Decoder.pixel_integer s y)) (.both (.field (Decoder.text_text s label))
        (.fieldOr (Status.reads.decode s status)))))
  | arrow x1 y1 x2 y2 status =>
    refine ⟨arrowRecord, _, fun _ _ => rfl, fun s => ?_⟩
    exact .map _ (.both (.field (Decoder.pixel_integer s x1))
      (.both (.field (Decoder.pixel_integer s y1)) (.both (.field (Decoder.pixel_integer s x2))
        (.both (.field (Decoder.pixel_integer s y2))
          (.fieldOr (Status.reads.decode s status))))))
  | chart c =>
    -- the fields are those of the chart itself
    refine ⟨Chart.record.map chart, _, fun s v => (Record.decode_map _ _ _ s v).symm, fun s => ?_⟩
    exact .map _ (.map _ (.both (spells_area s c.x c.y c.w c.h)
      (.both (.field (hp.series.list s c.series))
        (.fieldIf hp.annotation p.asNull c.annotation))))
  | text x y words role tone =>
    refine ⟨textRecord, _, fun _ _ => rfl, fun s => ?_⟩
    exact .map _ (.both (.field (Decoder.pixel_integer s x))
      (.both (.field (Decoder.pixel_integer s y)) (.both (.field (Decoder.text_text s words))
        (.both (.fieldOr (Role.reads.decode s role)) (.fieldOr (Tone.reads.decode s tone))))))
  | block x y w h radius fill outline =>
    refine ⟨blockRecord, _, fun _ _ => rfl, fun s => ?_⟩
    exact .map _ (.both (spells_area s x y w h) (.both (.field (Decoder.number_number s radius))
      (.both (.field (Tone.reads.decode s fill)) (.fieldIf Tone.reads p.asNull outline))))

variable {p : PartForms}

/-- All fields of a shape, its kind in front. -/
def tagged (p : PartForms) (shape : Shape) : Fields :=
  ("kind", some (.text shape.kind.name)) :: shape.written p

theorem nodup_tagged (shape : Shape) : ((shape.tagged p).map (·.1)).Nodup := by
  cases shape <;> simp [tagged]

theorem closed_written (shape : Shape) : (shape.written p).Closed := by
  cases shape <;> simp [Fields.Closed]

theorem narrow_tagged (hp : p.Readable) (shape : Shape) : (shape.tagged p).Narrow := by
  cases shape with
  | panel x y w h title =>
    simpa [tagged, Fields.Narrow] using
      Value.narrow_option? Value.narrow_text p.asNull title
  | chart c =>
    simpa [tagged, Fields.Narrow, Value.narrow_list_map hp.narrow_series] using
      Value.narrow_option? hp.narrow_annotation p.asNull c.annotation
  | block x y w h radius fill outline =>
    simpa [tagged, Fields.Narrow] using
      Value.narrow_option? Tone.narrow_encode p.asNull outline
  | _ => simp [tagged, Fields.Narrow]

/-- Any table of the fields of a shape is read back. -/
theorem reads_table (hp : p.Readable) {write : Shape → Value}
    (hwrite : ∀ shape, ∃ entries : Entries, write shape = .table entries ∧
      entries.Have (shape.tagged p) ∧ entries.Only (shape.tagged p)) :
    Decoder.Reads decode write where
  decode s shape := by
    obtain ⟨entries, h, hhave, honly⟩ := hwrite shape
    obtain ⟨record, title, hcontent, hspells⟩ := shape.spells hp
    have hnarrow : (Value.table entries).Narrow :=
      Value.narrow_table fun e he => narrow_tagged hp shape _ (honly e he) _ rfl
    have hkind : entries.lookup "kind" = some (.text shape.kind.name) :=
      hhave _ List.mem_cons_self
    -- no other field is called `kind`
    have hrest : Entries.Have (entries.filter fun e => e.1 != "kind") (shape.written p) := by
      intro f hf
      have hne : f.1 ≠ "kind" := by
        intro hname
        apply (List.nodup_cons.mp (nodup_tagged (p := p) shape)).1
        exact List.mem_map.mpr ⟨f, hf, hname⟩
      rw [Entries.lookup_filter_ne hne]
      exact hhave f (List.mem_cons_of_mem _ hf)
    rw [h]
    unfold decode
    rw [Decoder.held_of_narrow _ hnarrow]
    simp only [hkind]
    rw [Kind.decode_name]
    show content shape.kind s.hold _ = _
    rw [hcontent]
    exact (hspells s.hold).decode_table title hrest
  ne_null shape := by
    obtain ⟨entries, h, -⟩ := hwrite shape
    rw [h]
    exact Value.noConfusion

/-- A shape as the list of its kind and its fields. -/
def listed (p : PartForms) (shape : Shape) : Value := .list (shape.tagged p).values

theorem reads_listed (hp : p.Readable) : Decoder.Reads decode (listed p) where
  decode s shape := by
    obtain ⟨record, title, hcontent, hspells⟩ := shape.spells hp
    have hnarrow : (shape.listed p).Narrow :=
      Value.narrow_list (Fields.narrow_values (narrow_tagged hp shape))
    unfold decode
    rw [Decoder.held_of_narrow _ hnarrow]
    show (Kind.decode (.text shape.kind.name) >>= fun k =>
      content k s.hold (.list (shape.written p).values)) = _
    rw [Kind.decode_name]
    show content shape.kind s.hold _ = _
    rw [hcontent]
    exact (hspells s.hold).decode_list title shape.closed_written
  ne_null _ := Value.noConfusion

theorem reads : Decoder.Reads decode encode := by
  refine reads_table (PartForms.readable_tables false) fun shape => ?_
  cases shape with
  | panel x y w h title =>
    refine ⟨_, rfl, Fields.have_entries ?_ ?_, Fields.only_entries ?_⟩
    · simp [tagged, PartForms.tables]
    · simp
    · simp [tagged, PartForms.tables]
  | bullet x y label status =>
    refine ⟨_, rfl, ?_, ?_⟩
    · simp [Entries.Have, tagged, List.lookup_cons]
    · simp [Entries.Only, tagged]
  | arrow x1 y1 x2 y2 status =>
    refine ⟨_, rfl, ?_, ?_⟩
    · simp [Entries.Have, tagged, List.lookup_cons]
    · simp [Entries.Only, tagged]
  | chart c =>
    refine ⟨_, rfl, Fields.have_entries ?_ ?_, Fields.only_entries ?_⟩
    · simp [tagged, PartForms.tables, Chart.fields]
    · simp [Chart.fields]
    · simp [tagged, PartForms.tables, Chart.fields]
  | text x y words role tone =>
    refine ⟨_, rfl, ?_, ?_⟩
    · simp [Entries.Have, tagged, List.lookup_cons]
    · simp [Entries.Only, tagged]
  | block x y w h radius fill outline =>
    refine ⟨_, rfl, Fields.have_entries ?_ ?_, Fields.only_entries ?_⟩
    · simp [tagged, PartForms.tables]
    · simp
    · simp [tagged, PartForms.tables]

end Shape

/-! ### Diagrams -/

namespace Diagram

def written (d : Diagram) : Fields :=
  [("name", some (.text d.name)), ("shapes", some (.list (d.shapes.map Shape.encode)))]

theorem spells (s : Source) (d : Diagram) : Spells s record d.written d :=
  .map _ (.both (.field (Decoder.text_text s d.name)) (.fieldOr (Shape.reads.list s d.shapes)))

theorem reads : Decoder.Reads decode encode :=
  .ofTable spells (fun _ => ⟨_, rfl, by simp [Entries.Have, written, List.lookup_cons]⟩) _

end Diagram

/-! ### Settings -/

theorem byte?_toNat (b : UInt8) : byte? (.integer b.toNat) = some b := by
  have hb : b.toNat < 256 := b.toNat_lt
  have hrange : 0 ≤ (b.toNat : Int) ∧ (b.toNat : Int) ≤ 255 := by omega
  show (if 0 ≤ (b.toNat : Int) ∧ (b.toNat : Int) ≤ 255 then
    some (UInt8.ofNat (b.toNat : Int).toNat) else none) = some b
  rw [if_pos hrange, Int.toNat_natCast, UInt8.ofNat_toNat]

theorem ColorSpec.reads : Decoder.Reads decode encode where
  decode s spec := by
    cases spec with
    | name words => rfl
    | rgb r g b => simp only [decode, encode, byte?_toNat]
  ne_null spec := by cases spec <;> exact Value.noConfusion

namespace Override

/-- One setting for each tone. -/
def written (o : Override) : Fields :=
  Tone.all.map fun t => (t.setting, Value.option? false ColorSpec.encode (o.spec? t))

theorem spells (s : Source) (o : Override) : Spells s record o.written o :=
  have tone := fun {name} => @Spells.fieldIf _ s name _ _ ColorSpec.reads false
  .map _ (.both
    (.both (tone o.background) (.both (tone o.surface) (.both (tone o.surfaceAlt)
      (.both (tone o.border) (.both (tone o.text) (tone o.muted))))))
    (.both (tone o.callout) (.both (tone o.ok) (.both (tone o.info)
      (.both (tone o.caution) (.both (tone o.elevated) (tone o.critical)))))))

theorem reads : Decoder.Reads decode encode := by
  refine .ofTable spells (fun o => ⟨_, rfl, Fields.have_entries ?_ ?_⟩) _
  · simp [written]
  · show (Tone.all.map Tone.setting).Nodup
    decide

end Override

namespace Candidate

def written (c : Candidate) : Fields :=
  [("family", some (.text c.family)), ("path", Value.option? false .text c.path)]

theorem spells (s : Source) (c : Candidate) : Spells s record c.written c :=
  .map _ (.both (.field (Decoder.text_text s c.family))
    (.fieldIf Decoder.reads_path false c.path))

theorem reads : Decoder.Reads decode encode :=
  .ofTable spells (fun _ => ⟨_, rfl, Fields.have_entries (by simp [written]) (by simp)⟩) _

end Candidate

namespace FontSettings

def written (f : FontSettings) : Fields :=
  [("candidates", some (.list (f.candidates.map Candidate.encode))),
    ("title_size", some (.number f.sizes.title)), ("heading_size", some (.number f.sizes.heading)),
    ("body_size", some (.number f.sizes.body)), ("caption_size", some (.number f.sizes.caption))]

theorem spells (s : Source) (f : FontSettings) : Spells s record f.written f :=
  .map _ (.both (.fieldOr (Candidate.reads.list s f.candidates))
    (.both (.fieldOr (Decoder.number_number s f.sizes.title))
      (.both (.fieldOr (Decoder.number_number s f.sizes.heading))
        (.both (.fieldOr (Decoder.number_number s f.sizes.body))
          (.fieldOr (Decoder.number_number s f.sizes.caption))))))

theorem reads : Decoder.Reads decode encode :=
  .ofTable spells (fun _ => ⟨_, rfl, by simp [Entries.Have, written, List.lookup_cons]⟩) _

end FontSettings

namespace CanvasSize

def written (c : CanvasSize) : Fields :=
  [("width", some (.integer c.width.val)), ("height", some (.integer c.height.val))]

theorem spells (s : Source) (c : CanvasSize) : Spells s record c.written c :=
  .map _ (.both (.fieldOr (Decoder.pixel_integer s c.width))
    (.fieldOr (Decoder.pixel_integer s c.height)))

theorem reads : Decoder.Reads decode encode :=
  .ofTable spells (fun _ => ⟨_, rfl, by simp [Entries.Have, written, List.lookup_cons]⟩) _

end CanvasSize

namespace Config

def outputWritten (directory : String) : Fields := [("directory", some (.text directory))]

/-- The table of the output directory. -/
def outputEncode (directory : String) : Value := .table [("directory", .text directory)]

theorem outputSpells (s : Source) (directory : String) :
    Spells s outputRecord (outputWritten directory) directory :=
  .fieldOr (Decoder.reads_path.decode s directory)

theorem outputReads : (outputRecord.decode "struct OutputConfig").Reads outputEncode :=
  .ofTable outputSpells (fun _ => ⟨_, rfl, by simp [Entries.Have, outputWritten]⟩) _

def written (c : Config) : Fields :=
  [("output", some (outputEncode c.directory)), ("canvas", some c.canvas.encode),
    ("fonts", some c.fonts.encode), ("theme", some c.palette.encode)]

theorem spells (s : Source) (c : Config) : Spells s record c.written c :=
  .map _ (.both (.fieldOr (outputReads.decode s c.directory))
    (.both (.fieldOr (CanvasSize.reads.decode s c.canvas))
      (.both (.fieldOr (FontSettings.reads.decode s c.fonts))
        (.fieldOr (Override.reads.decode s c.palette)))))

theorem reads : Decoder.Reads decode encode :=
  .ofTable spells (fun _ => ⟨_, rfl, by simp [Entries.Have, written, outputEncode, List.lookup_cons]⟩) _

end Config

/-! ### All formats -/

/-- What `encode` writes is read back from either format.  So reading a value, writing it in a
format and reading it again comes to the same as reading it once. -/
structure Document.Faithful {α : Type} (decode : Decoder α) (encode : α → Value) : Prop where
  reads_back : ∀ s a, decode s (encode a) = .ok a
  settles : ∀ s t v, (decode s v >>= fun a => decode t (encode a)) = decode s v

theorem Document.Decoder.Reads.faithful {α : Type} {decode : Decoder α} {encode : α → Value}
    (h : decode.Reads encode) : Faithful decode encode where
  reads_back := h.decode
  settles s t v := by
    cases decode s v with
    | error e => rfl
    | ok a => exact h.decode t a

/-- A shape as a list: its kind, and its fields in the order of their declaration.  The series, the
points and the annotation of a chart are lists as well. -/
def Shape.positional (asNull : Bool) : Shape → Value := listed (.lists asNull)

/-- **Round trip over the whole format.**  Every value is read back from what is written for it, and
reading what is written for a value that was read changes nothing.  A shape is also read back from
the list of its kind and its fields, and from a table in which `null` stands for what is missing. -/
theorem Document.formats_are_faithful :
    Faithful Shape.decode Shape.encode ∧ Faithful Diagram.decode Diagram.encode ∧
    Faithful Tone.decode Tone.encode ∧ Faithful Status.decode Status.encode ∧
    Faithful Role.decode Role.encode ∧ Faithful ColorSpec.decode ColorSpec.encode ∧
    Faithful Candidate.decode Candidate.encode ∧
    Faithful FontSettings.decode FontSettings.encode ∧ Faithful Config.decode Config.encode ∧
    ∀ asNull, Faithful Shape.decode (Shape.positional asNull) ∧
      Faithful Shape.decode fun shape => .ofFields (shape.tagged (.tables asNull)) := by
  refine ⟨Shape.reads.faithful, Diagram.reads.faithful, Tone.reads.faithful,
    Status.reads.faithful, Role.reads.faithful, ColorSpec.reads.faithful,
    Candidate.reads.faithful, FontSettings.reads.faithful, Config.reads.faithful,
    fun asNull => ⟨?_, ?_⟩⟩
  · exact (Shape.reads_listed (PartForms.readable_lists asNull)).faithful
  · refine (Shape.reads_table (PartForms.readable_tables asNull) fun shape => ?_).faithful
    exact ⟨_, rfl, Fields.have_entries (List.Subset.refl _) shape.nodup_tagged,
      Fields.only_entries (List.Subset.refl _)⟩

example : Shape.positional false
    (.chart ⟨0, 0, 100, 50, [⟨"cost", .ok, [⟨0, 0.5⟩, ⟨1, 0.25⟩]⟩], none⟩) =
    .list [.text "chart", .integer 0, .integer 0, .integer 100, .integer 50,
      .list [.list [.text "cost", .text "ok",
        .list [.list [.number 0, .number 0.5], .list [.number 1, .number 0.25]]]]] := rfl

end Placard
