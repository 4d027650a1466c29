/-
Placard/Proofs/Spelling.lean

The many tables that are one shape.

A shape is read off a table of its fields, and below the table of a chart there are more of them:
its series, their points, the annotation and its anchor.  At each of these places there may be fields
under other names, and what has a default may be left out.  None of this changes the shape, and the
coordinates of the shape are the integers of the table (`Shape.decode_is_exact_and_local`).

The slots of the records and `Knows` follow the readers.  All that is said of a whole shape comes
from there: a table is read like its plain form, and changes at a place that keep the plain form of
the record there keep that of the shape (`Shape.Place.plain_change`).
-/
import Placard.Proofs.Known
import Placard.Proofs.RoundTrip

namespace Placard

open Document

/-! ### The parts of a chart -/

namespace UnitPoint

def slots : Slots := [.field "x" Decoder.number id, .field "y" Decoder.number id]

theorem knows : Knows record slots :=
  .map _ (.both (.field (.whole _)) (.field (.whole _)))

theorem nodup_names : slots.names.Nodup := by decide

theorem regards : decode.Regards slots.plain := knows.regards nodup_names _

end UnitPoint

namespace Series

def slots : Slots :=
  [.field "label" Decoder.text id, .field "status" Status.decode id,
    .field "points" (Decoder.list UnitPoint.decode) (Value.each UnitPoint.slots.plain)]

theorem knows : Knows record slots :=
  .map _ (.both (.field (.whole _)) (.both (.field (.whole _)) (.field UnitPoint.regards.list)))

theorem nodup_names : slots.names.Nodup := by decide

theorem regards : decode.Regards slots.plain := knows.regards nodup_names _

end Series

namespace Annotation

def slots : Slots :=
  [.field "anchor" UnitPoint.decode UnitPoint.slots.plain, .field "headline" Decoder.text id,
    .field "detail" Decoder.text id, .fieldOr "status" Status.decode Status.critical.encode id]

theorem knows : Knows record slots :=
  .map _ (.both (.field UnitPoint.regards) (.both (.field (.whole _)) (.both (.field (.whole _))
    (.fieldOr (.whole _) fun s => Status.reads.decode s .critical))))

theorem nodup_names : slots.names.Nodup := by decide

theorem regards : decode.Regards slots.plain := knows.regards nodup_names _

end Annotation

/-! ### The fields of a shape -/

namespace Shape

def areaSlots : Slots :=
  [.field "x" Decoder.pixel id, .field "y" Decoder.pixel id, .field "w" Decoder.pixel id,
    .field "h" Decoder.pixel id]

theorem knows_area : Knows areaRecord areaSlots :=
  .both (.field (.whole _)) (.both (.field (.whole _)) (.both (.field (.whole _))
    (.field (.whole _))))

/-- The fields of a shape after its kind. -/
def Kind.slots : Kind → Slots
  | .panel => areaSlots ++ [.fieldIf "title" Decoder.text id]
  | .bullet =>
    [.field "x" Decoder.pixel id, .field "y" Decoder.pixel id, .field "text" Decoder.text id,
      .fieldOr "status" Status.decode Status.ok.encode id]
  | .arrow =>
    [.field "x1" Decoder.pixel id, .field "y1" Decoder.pixel id, .field "x2" Decoder.pixel id,
      .field "y2" Decoder.pixel id, .fieldOr "status" Status.decode Status.info.encode id]
  | .chart => areaSlots ++
    [.field "series" (Decoder.list Series.decode) (Value.each Series.slots.plain),
      .fieldIf "annotation" Annotation.decode Annotation.slots.plain]
  | .text =>
    [.field "x" Decoder.pixel id, .field "y" Decoder.pixel id, .field "text" Decoder.text id,
      .fieldOr "role" Role.decode Role.body.encode id,
      .fieldOr "tone" Tone.decode Tone.text.encode id]
  | .block => areaSlots ++
    [.field "radius" Decoder.number id, .field "fill" Tone.decode id,
      .fieldIf "outline" Tone.decode id]

theorem Kind.nodup_names (k : Kind) : ("kind" :: k.slots.names).Nodup := by
  cases k <;> decide

/-- The reader of the fields of a shape is that of a record with these slots. -/
theorem knows (k : Kind) : ∃ (record : Record Shape) (title : String),
    content k = record.decode title ∧ Knows record k.slots := by
  cases k with
  | panel =>
    refine ⟨panelRecord, _, rfl, ?_⟩
    exact .map _ (.both knows_area (.fieldIf (.whole _)))
  | bullet =>
    refine ⟨bulletRecord, _, rfl, ?_⟩
    exact .map _ (.both (.field (.whole _)) (.both (.field (.whole _)) (.both (.field (.whole _))
      (.fieldOr (.whole _) fun s => Status.reads.decode s .ok))))
  | arrow =>
    refine ⟨arrowRecord, _, rfl, ?_⟩
    exact .map _ (.both (.field (.whole _)) (.both (.field (.whole _)) (.both (.field (.whole _))
      (.both (.field (.whole _)) (.fieldOr (.whole _) fun s => Status.reads.decode s .info)))))
  | chart =>
    -- the fields are those of the chart itself
    refine ⟨Chart.record.map chart, "struct TimelineChart", ?_, ?_⟩
    · exact funext fun s => funext fun v => (Record.decode_map Chart.record chart _ s v).symm
    · exact .map _ (.map _ (.both knows_area (.both (.field Series.regards.list)
        (.fieldIf Annotation.regards))))
  | text =>
    refine ⟨textRecord, _, rfl, ?_⟩
    exact .map _ (.both (.field (.whole _)) (.both (.field (.whole _)) (.both (.field (.whole _))
      (.both (.fieldOr (.whole _) fun s => Role.reads.decode s .body)
        (.fieldOr (.whole _) fun s => Tone.reads.decode s .text)))))
  | block =>
    refine ⟨blockRecord, _, rfl, ?_⟩
    exact .map _ (.both knows_area (.both (.field (.whole _)) (.both (.field (.whole _))
      (.fieldIf (.whole _)))))

/-- The fields of a shape are read like their plain form. -/
theorem content_plain (k : Kind) (s : Source) (v : Value) :
    content k s (k.slots.plain v) = content k s v := by
  obtain ⟨record, title, hcontent, hknows⟩ := knows k
  rw [hcontent]
  exact (hknows.regards k.nodup_names.of_cons title).decode s v

theorem kind_of_content {k : Kind} {s : Source} {v : Value} {shape : Shape}
    (h : content k s v = .ok shape) : shape.kind = k := by
  cases k with
  | chart =>
    obtain ⟨c, -, rfl⟩ := Except.map_eq_ok.mp h
    rfl
  | _ =>
    obtain ⟨fields, rfl⟩ := Record.of_decode_map h
    rfl

theorem Kind.decode_eq_ok {v : Value} {k : Kind} : decode v = .ok k ↔ v = .text k.name := by
  constructor
  · intro h
    cases v with
    | text name =>
      unfold decode at h
      dsimp only at h
      cases hlookup : names.lookup name with
      | none =>
        rw [hlookup] at h
        cases h
      | some found =>
        rw [hlookup] at h
        obtain rfl : found = k := Except.ok.inj h
        obtain ⟨before, after, hnames, -⟩ := List.lookup_eq_some_iff.mp hlookup
        have hmem : (name, found) ∈ names := by simp [hnames]
        have hall : ∀ e ∈ names, e.1 = e.2.name := by decide
        exact congrArg Value.text (hall _ hmem)
    | _ => cases h
  · rintro rfl
    exact decode_name k

/-- The kind is looked up, and the other fields are read as it says. -/
theorem decode_of_kind {s : Source} {v : Value} {k : Kind} (hnarrow : v.Narrow)
    (hkind : v.field? "kind" = some (.text k.name)) : decode s v = content k s.hold v := by
  cases v with
  | table entries =>
    replace hkind : entries.lookup "kind" = some (.text k.name) := hkind
    have hunknown : "kind" ∉ k.slots.names := (List.nodup_cons.mp k.nodup_names).1
    unfold decode
    rw [Decoder.held_of_narrow _ hnarrow]
    simp only [hkind]
    rw [Kind.decode_name]
    show content k s.hold ((Value.table entries).drop "kind") = _
    rw [← content_plain, Slots.plain_drop_unknown hunknown, content_plain]
  | _ => cases hkind

/-- What is read off a table is of the kind that it names. -/
theorem of_decode {s : Source} {entries : Entries} {shape : Shape}
    (h : decode s (.table entries) = .ok shape) : (Value.table entries).Narrow ∧
      entries.lookup "kind" = some (.text shape.kind.name) ∧
      content shape.kind s.hold (.table entries) = .ok shape := by
  obtain ⟨hnarrow, hread⟩ := Decoder.held_eq_ok.mp h
  have hkind : entries.lookup "kind" = some (.text shape.kind.name) := by
    dsimp only at hread
    cases hlookup : entries.lookup "kind" with
    | none =>
      rw [hlookup] at hread
      cases hread
    | some v =>
      rw [hlookup] at hread
      obtain ⟨k, hk, hcontent⟩ := Except.bind_eq_ok.mp hread
      rw [kind_of_content hcontent, Kind.decode_eq_ok.mp hk]
  refine ⟨hnarrow, hkind, ?_⟩
  rw [← decode_of_kind hnarrow hkind, h]

/-- Tables of one kind that are plainly the same are the same shape. -/
theorem decode_congr {s : Source} {v w : Value} {k : Kind} (hv : v.Narrow) (hw : w.Narrow)
    (hkind : v.field? "kind" = some (.text k.name)) (hsame : w.field? "kind" = v.field? "kind")
    (hplain : k.slots.plain w = k.slots.plain v) : decode s w = decode s v := by
  rw [decode_of_kind hv hkind, decode_of_kind hw (hsame.trans hkind), ← content_plain, hplain,
    content_plain]

/-! ### Coordinates -/

def areaCoordinates (x y w h : Pixel) : List (String × Pixel) :=
  [("x", x), ("y", y), ("w", w), ("h", h)]

/-- The coordinates of a shape, each under the name of its field. -/
def coordinates : Shape → List (String × Pixel)
  | panel x y w h _ => areaCoordinates x y w h
  | bullet x y _ _ => [("x", x), ("y", y)]
  | arrow x1 y1 x2 y2 _ => [("x1", x1), ("y1", y1), ("x2", x2), ("y2", y2)]
  | chart c => areaCoordinates c.x c.y c.w c.h
  | text x y _ _ _ => [("x", x), ("y", y)]
  | block x y w h _ _ _ => areaCoordinates x y w h

def Kind.coordinates : Kind → List String
  | .panel | .chart | .block => ["x", "y", "w", "h"]
  | .bullet | .text => ["x", "y"]
  | .arrow => ["x1", "y1", "x2", "y2"]

theorem names_coordinates (shape : Shape) :
    shape.coordinates.map (·.1) = shape.kind.coordinates := by
  cases shape <;> rfl

theorem ofTable_pixel {s : Source} {entries : Entries} {name : String} {p : Pixel} :
    (Record.field name Decoder.pixel).ofTable s entries = .ok p ↔
      entries.lookup name = some (.integer p.val) := by
  simp only [Record.ofTable_field, Decoder.pixel_eq_ok, exists_eq_right]

theorem ofTable_area {s : Source} {entries : Entries} {x y w h : Pixel} :
    areaRecord.ofTable s entries = .ok (x, y, w, h) ↔
      ∀ c ∈ areaCoordinates x y w h, entries.lookup c.1 = some (.integer c.2.val) := by
  simp only [areaRecord, Record.ofTable_both, ofTable_pixel, areaCoordinates, List.forall_mem_cons,
    List.not_mem_nil, IsEmpty.forall_iff, implies_true, and_true]

/-- The coordinates that are read off a table are its integers. -/
theorem lookup_coordinates {k : Kind} {s : Source} {entries : Entries} {shape : Shape}
    (h : content k s (.table entries) = .ok shape) :
    ∀ c ∈ shape.coordinates, entries.lookup c.1 = some (.integer c.2.val) := by
  cases k with
  | panel =>
    obtain ⟨⟨⟨x, y, w, h⟩, title⟩, hread, rfl⟩ := Record.of_decodeTable_map h
    exact ofTable_area.mp (Record.ofTable_both.mp hread).1
  | bullet =>
    obtain ⟨⟨x, y, label, status⟩, hread, rfl⟩ := Record.of_decodeTable_map h
    simp only [Record.ofTable_both, ofTable_pixel] at hread
    simpa [coordinates] using ⟨hread.1, hread.2.1⟩
  | arrow =>
    obtain ⟨⟨x1, y1, x2, y2, status⟩, hread, rfl⟩ := Record.of_decodeTable_map h
    simp only [Record.ofTable_both, ofTable_pixel] at hread
    simpa [coordinates] using ⟨hread.1, hread.2.1, hread.2.2.1, hread.2.2.2.1⟩
  | chart =>
    obtain ⟨c, hc, rfl⟩ := Except.map_eq_ok.mp h
    obtain ⟨⟨⟨x, y, w, h⟩, series, callout⟩, hread, rfl⟩ := Record.of_decodeTable_map hc
    exact ofTable_area.mp (Record.ofTable_both.mp hread).1
  | text =>
    obtain ⟨⟨x, y, words, role, tone⟩, hread, rfl⟩ := Record.of_decodeTable_map h
    simp only [Record.ofTable_both, ofTable_pixel] at hread
    simpa [coordinates] using ⟨hread.1, hread.2.1⟩
  | block =>
    obtain ⟨⟨⟨x, y, w, h⟩, radius, fill, outline⟩, hread, rfl⟩ := Record.of_decodeTable_map h
    exact ofTable_area.mp (Record.ofTable_both.mp hread).1

/-! ### Places -/

/-- Where there is a record in the table of a shape: at the top and, in that of a chart, also
below. -/
inductive Place where
  | top
  | series (i : Nat)
  | point (i j : Nat)
  | callout
  | anchor

namespace Place

/-- The fields of the record, apart from the kind of the shape. -/
def slots (k : Kind) : Place → Slots
  | top => k.slots
  | series _ => Series.slots
  | point _ _ => UnitPoint.slots
  | callout => Annotation.slots
  | anchor => UnitPoint.slots

/-- The names of all fields of the record. -/
def names (k : Kind) : Place → List String
  | top => "kind" :: k.slots.names
  | place => (place.slots k).names

/-- The fields of the record that may be left out, with what stands for them then. -/
def defaults (k : Kind) : Place → Entries
  | top =>
    match k with
    | .panel => [("title", .null)]
    | .bullet => [("status", .text "ok")]
    | .arrow => [("status", .text "info")]
    | .chart => [("annotation", .null)]
    | .text => [("role", .text "body"), ("tone", .text "text")]
    | .block => [("outline", .null)]
  | callout => [("status", .text "critical")]
  | series _ | point _ _ | anchor => []

/-- Changes the record at a place, if there is one. -/
def change (k : Kind) (place : Place) (v : Value) (f : Value → Value) : Value :=
  match place with
  | top => f v
  | series i => k.slots.onField v "series" (·.onItem i f)
  | point i j =>
    k.slots.onField v "series" (·.onItem i (Series.slots.onField · "points" (·.onItem j f)))
  | callout => k.slots.onField v "annotation" f
  | anchor => k.slots.onField v "annotation" fun a => Annotation.slots.onField a "anchor" f

variable {k : Kind} {place : Place}

theorem nodup_names (k : Kind) (place : Place) : (place.slots k).names.Nodup := by
  cases place with
  | top => exact k.nodup_names.of_cons
  | series => exact Series.nodup_names
  | point => exact UnitPoint.nodup_names
  | callout => exact Annotation.nodup_names
  | anchor => exact UnitPoint.nodup_names

theorem defaults_slots (k : Kind) (place : Place) :
    (place.slots k).defaults = place.defaults k := by
  cases place with
  | top => cases k <;> rfl
  | _ => rfl

theorem narrow_default {e : String × Value} (he : e ∈ place.defaults k) : e.2.Narrow := by
  revert e
  show ∀ e ∈ place.defaults k, Decoder.isNarrow e.2 = true
  cases place with
  | top => cases k <;> decide
  | callout => exact List.forall_mem_singleton.mpr rfl
  | _ => exact List.forall_mem_nil _

theorem ne_kind_of_default {e : String × Value} (he : e ∈ place.defaults k) (htop : place = top) :
    e.1 ≠ "kind" := by
  subst htop
  intro hkind
  obtain ⟨f, hf, hname, -⟩ := Slots.mem_defaults.mp (defaults_slots k top ▸ he)
  apply (List.nodup_cons.mp k.nodup_names).1
  rw [← hkind, ← hname]
  exact List.mem_map_of_mem hf

/-- A field of a chart that no other shape has. -/
theorem slot_of_chart {f own : Slot} (hown : own ∈ Kind.chart.slots)
    (honly : ∀ k : Kind, own.name ∈ k.slots.names → k = .chart) (hf : f ∈ k.slots)
    (hname : f.name = own.name) : f = own := by
  obtain rfl : k = .chart := honly k (hname ▸ List.mem_map_of_mem hf)
  exact Slots.eq_of_name Kind.chart.nodup_names.of_cons hf hown hname

theorem slot_series {f : Slot} (hf : f ∈ k.slots) (hname : f.name = "series") :
    f = .field "series" (Decoder.list Series.decode) (Value.each Series.slots.plain) :=
  slot_of_chart (by simp [Kind.slots]) (fun k => by cases k <;> decide) hf hname

theorem slot_callout {f : Slot} (hf : f ∈ k.slots) (hname : f.name = "annotation") :
    f = .fieldIf "annotation" Annotation.decode Annotation.slots.plain :=
  slot_of_chart (by simp [Kind.slots]) (fun k => by cases k <;> decide) hf hname

/-- Two changes come to the same if they make plainly the same of the record at the place. -/
theorem plain_change {first second : Value → Value}
    (h : ∀ v, (place.slots k).plain (first v) = (place.slots k).plain (second v)) (v : Value) :
    k.slots.plain (place.change k v first) = k.slots.plain (place.change k v second) := by
  -- a field whose plain form is the same keeps that of the record around it, layer by layer
  unfold change
  cases place with
  | top => exact h v
  | series i =>
    refine Slots.plain_onField (fun f hf hname l => ?_) v
    rw [slot_series hf hname]
    exact Value.each_onItem h i l
  | point i j =>
    refine Slots.plain_onField (fun f hf hname l => ?_) v
    rw [slot_series hf hname]
    refine Value.each_onItem (fun w => Slots.plain_onField (fun g hg hpoints p => ?_) w) i l
    obtain rfl := Slots.eq_of_name Series.nodup_names hg
      (g := .field "points" (Decoder.list UnitPoint.decode) (Value.each UnitPoint.slots.plain))
      (by simp [Series.slots]) hpoints
    exact Value.each_onItem h j p
  | callout =>
    refine Slots.plain_onField (fun f hf hname a => ?_) v
    rw [slot_callout hf hname]
    exact h a
  | anchor =>
    refine Slots.plain_onField (fun f hf hname a => ?_) v
    rw [slot_callout hf hname]
    refine Slots.plain_onField (fun g hg hanchor w => ?_) a
    obtain rfl := Slots.eq_of_name Annotation.nodup_names hg List.mem_cons_self hanchor
    exact h w

@[simp] theorem change_self (v : Value) : place.change k v (fun w => w) = v := by
  cases place <;> simp [change]

/-- What a change has to leave as it is. -/
structure Keeps (place : Place) (f : Value → Value) : Prop where
  narrow : ∀ v, v.Narrow → (f v).Narrow
  kind : place = top → ∀ v, (f v).field? "kind" = v.field? "kind"

theorem keeps_self : Keeps place fun v => v := ⟨fun _ h => h, fun _ _ => rfl⟩

theorem keeps_put {name : String} {w : Value} (hw : w.Narrow)
    (hname : place = top → name ≠ "kind") : Keeps place (·.put name w) :=
  ⟨fun _ hv => Value.narrow_put hv hw, fun h _ => Value.field?_put_of_ne (hname h).symm⟩

theorem keeps_drop {name : String} (hname : place = top → name ≠ "kind") :
    Keeps place (·.drop name) :=
  ⟨fun _ hv => Value.narrow_drop hv, fun h _ => Value.field?_drop_of_ne (hname h).symm⟩

namespace Keeps

variable {f : Value → Value}

theorem narrow_change (h : Keeps place f) {v : Value} (hv : v.Narrow) :
    (place.change k v f).Narrow := by
  cases place with
  | top => exact h.narrow v hv
  | series i => exact Slots.narrow_onField (fun l => Value.narrow_onItem h.narrow i) _ _ hv
  | point i j =>
    refine Slots.narrow_onField (fun l => Value.narrow_onItem (fun w => ?_) i) _ _ hv
    exact Slots.narrow_onField (fun p => Value.narrow_onItem h.narrow j) _ _
  | callout => exact Slots.narrow_onField h.narrow _ _ hv
  | anchor => exact Slots.narrow_onField (fun a => Slots.narrow_onField h.narrow _ _) _ _ hv

theorem field?_change (h : Keeps place f) (v : Value) :
    (place.change k v f).field? "kind" = v.field? "kind" := by
  have hseries : "kind" ≠ "series" := by decide
  have hcallout : "kind" ≠ "annotation" := by decide
  unfold change
  cases place with
  | top => exact h.kind rfl v
  | series => exact Slots.field?_onField_of_ne hseries
  | point => exact Slots.field?_onField_of_ne hseries
  | callout => exact Slots.field?_onField_of_ne hcallout
  | anchor => exact Slots.field?_onField_of_ne hcallout

end Keeps

/-- Then the same shape is read. -/
theorem decode_change {first second : Value → Value} (hfirst : Keeps place first)
    (hsecond : Keeps place second)
    (hplain : ∀ v, (place.slots k).plain (first v) = (place.slots k).plain (second v))
    (s : Source) {v : Value} (hv : v.Narrow) (hkind : v.field? "kind" = some (.text k.name)) :
    decode s (place.change k v first) = decode s (place.change k v second) := by
  refine decode_congr (hsecond.narrow_change hv) (hfirst.narrow_change hv)
    ((hsecond.field?_change v).trans hkind) ?_ (plain_change hplain v)
  rw [hfirst.field?_change, hsecond.field?_change]

/-- What has a default may be taken out, wherever it is. -/
theorem takes_drop {e : String × Value} (he : e ∈ place.defaults k) {s : Source}
    {entries : Entries} (h : (content k).Takes s (.table entries)) :
    (content k).Takes s (place.change k (.table entries) (·.drop e.1)) := by
  obtain ⟨record, title, hcontent, hknows⟩ := knows k
  rw [hcontent] at h ⊢
  rw [← defaults_slots] at he
  cases place with
  | top =>
    exact hknows.takes_drop (fun f hf => Slots.isSome_default (nodup_names k .top) he hf) h
  | callout =>
    unfold change
    refine hknows.takes_onField (fun f hf hname v hv => ?_) h
    rw [slot_callout hf hname] at hv ⊢
    rcases Decoder.takes_optional.mp hv with rfl | hv
    · exact Decoder.takes_optional.mpr (.inl rfl)
    · have hdefault : ∀ g ∈ Annotation.slots, g.name = e.1 → g.default?.isSome :=
        fun g hg => Slots.isSome_default Annotation.nodup_names he hg
      exact Decoder.takes_optional.mpr (.inr ( Annotation.knows.takes_drop hdefault hv))
  | _ => exact absurd he List.not_mem_nil

end Place

/-! ### Whole tables -/

/-- A field that is put into the record at a place. -/
structure Addition where
  place : Place
  name : String
  value : Value

/-- The record there has no field of that name.  The integers of the value are those that a document
can hold, which have at most 64 bits. -/
structure Addition.Unknown (k : Kind) (a : Addition) : Prop where
  fresh : a.name ∉ a.place.names k
  narrow : a.value.Narrow

/-- The table with these fields put into it one after the other. -/
def addAll (k : Kind) (more : List Addition) (v : Value) : Value :=
  more.foldl (fun v a => a.place.change k v (·.put a.name a.value)) v

variable {k : Kind} {s : Source}

theorem Addition.Unknown.keeps {a : Addition} (h : a.Unknown k) :
    a.place.Keeps (·.put a.name a.value) := by
  refine Place.keeps_put h.narrow fun htop hkind => h.fresh ?_
  rw [htop, hkind]
  exact List.mem_cons_self

theorem Addition.Unknown.not_mem_slots {a : Addition} (h : a.Unknown k) :
    a.name ∉ (a.place.slots k).names := by
  obtain ⟨place, name, value⟩ := a
  cases place with
  | top => exact fun hmem => h.fresh (List.mem_cons_of_mem _ hmem)
  | _ => exact h.fresh

/-- One field more that is not known. -/
theorem decode_add {a : Addition} (ha : a.Unknown k) {v : Value} (hv : v.Narrow)
    (hkind : v.field? "kind" = some (.text k.name)) :
    decode s (a.place.change k v (·.put a.name a.value)) = decode s v := by
  have hsame := Place.decode_change ha.keeps Place.keeps_self
    (fun w => Slots.plain_put_unknown ha.not_mem_slots) s hv hkind
  rw [hsame, Place.change_self]

/-- Any number of fields that are not known. -/
theorem decode_addAll {more : List Addition} (hmore : ∀ a ∈ more, a.Unknown k) {v : Value}
    (hv : v.Narrow) (hkind : v.field? "kind" = some (.text k.name)) :
    decode s (addAll k more v) = decode s v := by
  induction more generalizing v with
  | nil => rfl
  | cons a rest ih =>
    obtain ⟨ha, hrest⟩ := List.forall_mem_cons.mp hmore
    calc decode s (addAll k (a :: rest) v)
        = decode s (a.place.change k v (·.put a.name a.value)) :=
          ih hrest (ha.keeps.narrow_change hv) ((ha.keeps.field?_change v).trans hkind)
      _ = decode s v := decode_add ha hv hkind

/-- A default that is left out, and the same default written. -/
theorem decode_default {place : Place} {e : String × Value} (he : e ∈ place.defaults k) {v : Value}
    (hv : v.Narrow) (hkind : v.field? "kind" = some (.text k.name)) :
    decode s (place.change k v (·.put e.1 e.2)) = decode s (place.change k v (·.drop e.1)) := by
  refine Place.decode_change ?_ ?_ (fun w => ?_) s hv hkind
  · exact Place.keeps_put (Place.narrow_default he) (Place.ne_kind_of_default he)
  · exact Place.keeps_drop (Place.ne_kind_of_default he)
  · exact Slots.plain_put_default (Place.nodup_names k place) (Place.defaults_slots k place ▸ he)

/-- Without what has a default there is still a shape. -/
theorem takes_drop {place : Place} {e : String × Value} {entries : Entries} {shape : Shape}
    (he : e ∈ place.defaults shape.kind) (h : decode s (.table entries) = .ok shape) :
    decode.Takes s (place.change shape.kind (.table entries) (·.drop e.1)) := by
  obtain ⟨hnarrow, hkind, hcontent⟩ := of_decode h
  have hkeeps : place.Keeps (·.drop e.1) := Place.keeps_drop (Place.ne_kind_of_default he)
  obtain ⟨plainer, hplainer⟩ := Place.takes_drop he ⟨shape, hcontent⟩
  refine ⟨plainer, ?_⟩
  rw [decode_of_kind (hkeeps.narrow_change hnarrow) ((hkeeps.field?_change _).trans hkind)]
  exact hplainer

/-- A coordinate that the grid does not have, or that is no integer, is refused. -/
theorem decode_error {entries : Entries} {name : String} {v : Value}
    (hkind : entries.lookup "kind" = some (.text k.name)) (hname : name ∈ k.coordinates)
    (hv : entries.lookup name = some v)
    (hoff : ∀ n, v = .integer n → n < Pixel.least ∨ Pixel.greatest < n) :
    ∃ e, decode s (.table entries) = .error e := by
  cases h : decode s (.table entries) with
  | error e => exact ⟨e, rfl⟩
  | ok shape =>
    obtain ⟨-, hkind', hcontent⟩ := of_decode h
    have hk : k = shape.kind := by
      have hwords : Value.text k.name = .text shape.kind.name :=
        Option.some.inj (hkind.symm.trans hkind')
      have hdecode := Kind.decode_name k
      rw [hwords, Kind.decode_name] at hdecode
      exact (Except.ok.inj hdecode).symm
    rw [hk, ← names_coordinates] at hname
    obtain ⟨⟨_, p⟩, hc, rfl⟩ := List.mem_map.mp hname
    obtain rfl : v = .integer p.val :=
      Option.some.inj (hv.symm.trans (lookup_coordinates hcontent _ hc))
    have hleast := p.least_le
    have hgreatest := p.le_greatest
    have hout := hoff p.val rfl
    simp only [Pixel.least, Pixel.greatest] at hout
    omega

/-- **Reading a shape is exact and local.**  A table that is read as a shape names its kind and has
its coordinates as integers.  What has a default may be taken out of the record at any place, and
the default may be written there instead; the same shape is read from both.  Fields under names
that the records at their places do not have change nothing.  And a table is refused if one of its
coordinates is not an integer of the grid. -/
theorem decode_is_exact_and_local (s : Source) (entries : Entries) :
    (∀ shape, decode s (.table entries) = .ok shape →
      entries.lookup "kind" = some (.text shape.kind.name) ∧
      (∀ c ∈ shape.coordinates, entries.lookup c.1 = some (.integer c.2.val)) ∧
      (∀ place : Place, ∀ e ∈ place.defaults shape.kind, ∃ plainer,
        decode s (place.change shape.kind (.table entries) (·.drop e.1)) = .ok plainer ∧
        decode s (place.change shape.kind (.table entries) (·.put e.1 e.2)) = .ok plainer) ∧
      (∀ more : List Addition, (∀ a ∈ more, a.Unknown shape.kind) →
        decode s (addAll shape.kind more (.table entries)) = .ok shape)) ∧
    (∀ (k : Kind) (name : String) (v : Value), entries.lookup "kind" = some (.text k.name) →
      name ∈ k.coordinates → entries.lookup name = some v →
      (∀ n, v = .integer n → n < Pixel.least ∨ Pixel.greatest < n) →
      ∃ e, decode s (.table entries) = .error e) := by
  refine ⟨fun shape h => ?_, fun k name v hkind hname hv hoff => decode_error hkind hname hv hoff⟩
  obtain ⟨hnarrow, hkind, hcontent⟩ := of_decode h
  refine ⟨hkind, lookup_coordinates hcontent, fun place e he => ?_, fun more hmore => ?_⟩
  · obtain ⟨plainer, hplainer⟩ := takes_drop he h
    exact ⟨plainer, hplainer, (decode_default he hnarrow hkind).trans hplainer⟩
  · exact (decode_addAll hmore hnarrow hkind).trans h

/-- The table of a chart whose left side is at `x`.  Its annotation has no status. -/
def annotatedEntries (x : Int) : Entries :=
  [("annotation", .table [("anchor", .table [("x", .number 0.5), ("y", .number 0.25)]),
      ("detail", .text "since noon"), ("headline", .text "peak")]),
    ("h", .integer 200), ("kind", .text "chart"),
    ("series", .list [.table [("label", .text "load"),
      ("points", .list [.table [("x", .number 0), ("y", .number 0.75)]]),
      ("status", .text "ok")]]),
    ("w", .integer 300), ("x", .integer x), ("y", .integer 40)]

def annotated : Shape :=
  .chart ⟨-5, 40, 300, 200, [⟨"load", .ok, [⟨0, 0.75⟩]⟩],
    some ⟨⟨0.5, 0.25⟩, "peak", "since noon", .critical⟩⟩

/-- Fields at the chart, its series, their point, the annotation and its anchor. -/
def notes : List Addition :=
  [⟨.top, "radius", .number 4⟩, ⟨.series 0, "kind", .text "line"⟩, ⟨.point 0 0, "z", .integer 1⟩,
    ⟨.callout, "title", .null⟩, ⟨.anchor, "w", .list []⟩]

theorem decode_is_exact_and_local_of_annotated :
    decode .json (.table (annotatedEntries (-5))) = .ok annotated ∧
    decode .json (Place.callout.change .chart (.table (annotatedEntries (-5)))
      (·.put "status" (.text "critical"))) = .ok annotated ∧
    (∀ a ∈ notes, a.Unknown .chart) ∧
    decode .json (addAll .chart notes (.table (annotatedEntries (-5)))) = .ok annotated ∧
    ∃ e, decode .json (.table (annotatedEntries 2147483648)) = .error e := by
  have hread : decode .json (.table (annotatedEntries (-5))) = .ok annotated := rfl
  have hunknown : ∀ a ∈ notes, a.Unknown .chart := by
    have hfresh : ∀ a ∈ notes, a.name ∉ a.place.names .chart ∧ Decoder.isNarrow a.value := by decide
    exact fun a ha => ⟨(hfresh a ha).1, (hfresh a ha).2⟩
  obtain ⟨hexact, -⟩ := decode_is_exact_and_local .json (annotatedEntries (-5))
  obtain ⟨-, -, hdefault, hmore⟩ := hexact annotated hread
  obtain ⟨-, hrefuse⟩ := decode_is_exact_and_local .json (annotatedEntries 2147483648)
  refine ⟨hread, ?_, hunknown, hmore notes hunknown, ?_⟩
  · obtain ⟨plainer, hdrop, hput⟩ :=
      hdefault .callout ("status", .text "critical") List.mem_cons_self
    -- there was no status to take out
    obtain rfl : plainer = annotated := Except.ok.inj (hdrop.symm.trans hread)
    exact hput
  · refine hrefuse .chart "x" (.integer 2147483648) rfl (by decide) rfl fun n hn => ?_
    obtain rfl : 2147483648 = n := Value.integer.inj hn
    exact .inr (by decide)

end Shape

end Placard
