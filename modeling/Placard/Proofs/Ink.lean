/-
Placard/Proofs/Ink.lean

In which colors, line widths and fonts everything is drawn.

Color, line width and font are settings of the device that stay until they are changed, so what a
call paints with depends on the calls before it.  An `Ink` is what a painting call is meant to
paint with.  `Primitive.inks` and `Shape.inks` list what the calls of a primitive and of a shape
are meant to paint with, and `Diagram.marks_show_inks` replays a whole drawing: mark by mark, the
pen of the device is the one that the shapes ask for.
-/
import Mathlib.Data.List.Forall2
import Placard.Proofs.Composition
import Placard.Proofs.Parts

namespace Placard

/-- What something on the surface is painted with. -/
inductive Ink where
  /-- the whole surface -/
  | ground (color : Color)
  | area (color : Color)
  | stroke (color : Color) (width : Float)
  | glyphs (content : String) (color : Color) (font : Font)

/-- The mark was left by a call of the right kind, while the pen had the right color and the right
line width or font.  An installed family is asked for by name, in a size of whole pixels. -/
def Mark.Shows (m : Mark) : Ink → Prop
  | .ground color => m.call = .paint ∧ m.pen.source = some color
  | .area color => (m.call = .fill ∨ m.call = .fillPreserve) ∧ m.pen.source = some color
  | .stroke color width =>
    m.call = .stroke ∧ m.pen.source = some color ∧ m.pen.lineWidth = some width
  | .glyphs content color font =>
    m.pen.source = some color ∧
      match font.face with
      | .family name =>
        m.call = .showLayout ⟨name, font.weight, roundWhole font.size * 1024⟩ content
      | .builtin =>
        m.call = .showText content ∧ m.pen.face = some (builtinFamily, font.weight) ∧
          m.pen.fontSize = some font.size

/-! ### Painting calls -/

/-- The call puts something on the surface. -/
def Call.paints : Call → Bool
  | .paint | .fill | .fillPreserve | .stroke | .showText _ | .showLayout _ _ => true
  | _ => false

namespace Context

variable {x y : Context}

theorem calls_after {c : Call} (h : x.after c = some y) :
    y.marks.map Mark.call = x.marks.map Mark.call ++ [c].filter Call.paints := by
  cases c with
  | restore =>
    obtain ⟨pen, saved, path, marks⟩ := x
    cases saved with
    | nil => cases h
    | cons p rest =>
      cases h
      exact (List.append_nil _).symm
  | paint | fill | stroke | fillPreserve | showText _ | showLayout _ _ =>
    cases h
    exact List.map_append
  | _ =>
    cases h
    exact (List.append_nil _).symm

/-- Every call that puts something on the surface leaves a mark, and no other call does. -/
theorem calls_replay {script : Script} (h : x.replay script = some y) :
    y.marks.map Mark.call = x.marks.map Mark.call ++ script.filter Call.paints := by
  induction script generalizing x with
  | nil =>
    cases h
    exact (List.append_nil _).symm
  | cons c rest ih =>
    rw [replay_cons] at h
    obtain ⟨z, hz, hy⟩ := Option.bind_eq_some_iff.mp h
    rw [ih hy, calls_after hz, List.append_assoc, ← List.filter_append]
    rfl

end Context

/-! ### Primitives -/

/-- What the painting calls of a primitive are meant to paint with, in their order. -/
def Primitive.inks : Primitive → List Ink
  | roundedRect _ _ fill outline width =>
    (fill.map Ink.area).toList ++ (outline.map fun c => Ink.stroke c width).toList
  | text _ content color font => [.glyphs content color font]
  | line _ _ color width => [.stroke color width]
  | polygon [] _ => []
  | polygon (_ :: _) color => [.area color]
  | ellipse _ color => [.area color]

namespace Context

variable {x : Context} (ascentOf : Font → Float)

/-- A polygon on an empty surface: the color is set before the path is built. -/
theorem replay_polygon_inks (pen : Pen) (p : Point) (rest : List Point) (color : Color) :
    ∃ y, (fresh pen).replay ((Primitive.polygon (p :: rest) color).script ascentOf) = some y ∧
      y.Clean ∧ List.Forall₂ Mark.Shows y.marks [.area color] := by
  obtain ⟨contour, hcontour, hscript⟩ := Primitive.figureScript_polygon p rest color
  rw [Primitive.script_polygon, hscript, replay_cons]
  show ∃ y, replay { fresh pen with pen.source := some color } (contour ++ [.fill]) = some y ∧ _
  rw [replay_append, replay_of_buildsPath hcontour]
  exact ⟨_, rfl, ⟨rfl, rfl, rfl⟩, .cons ⟨.inl rfl, rfl⟩ .nil⟩

/-- A text on an empty surface, in an installed family or in the built-in face. -/
theorem replay_text_inks (pen : Pen) (position : Point) (content : String) (color : Color)
    (font : Font) :
    ∃ y, (fresh pen).replay ((Primitive.text position content color font).script ascentOf) =
      some y ∧ y.Clean ∧ List.Forall₂ Mark.Shows y.marks [.glyphs content color font] := by
  obtain ⟨face, weight, size⟩ := font
  cases face with
  | family name => exact ⟨_, rfl, ⟨rfl, rfl, rfl⟩, .cons ⟨rfl, rfl⟩ .nil⟩
  | builtin => exact ⟨_, rfl, ⟨rfl, rfl, rfl⟩, .cons ⟨rfl, rfl, rfl, rfl⟩ .nil⟩

/-- A primitive on an empty surface. -/
theorem replay_inks_of_fresh (pen : Pen) (p : Primitive) :
    ∃ y, (fresh pen).replay (p.script ascentOf) = some y ∧ y.Clean ∧
      List.Forall₂ Mark.Shows y.marks p.inks := by
  cases p with
  | roundedRect bounds radius fill outline width =>
    cases fill with
    | none =>
      cases outline with
      | none => exact ⟨_, rfl, ⟨rfl, rfl, rfl⟩, .nil⟩
      | some c => exact ⟨_, rfl, ⟨rfl, rfl, rfl⟩, .cons ⟨rfl, rfl, rfl⟩ .nil⟩
    | some f =>
      cases outline with
      | none => exact ⟨_, rfl, ⟨rfl, rfl, rfl⟩, .cons ⟨.inl rfl, rfl⟩ .nil⟩
      | some c =>
        -- the color changes between the filling and the outline, the path stays
        exact ⟨_, rfl, ⟨rfl, rfl, rfl⟩, .cons ⟨.inr rfl, rfl⟩ (.cons ⟨rfl, rfl, rfl⟩ .nil)⟩
  | text position content color font =>
    exact replay_text_inks ascentOf pen position content color font
  | line start stop color width =>
    exact ⟨_, rfl, ⟨rfl, rfl, rfl⟩, .cons ⟨rfl, rfl, rfl⟩ .nil⟩
  | ellipse bounds color => exact ⟨_, rfl, ⟨rfl, rfl, rfl⟩, .cons ⟨.inl rfl, rfl⟩ .nil⟩
  | polygon corners color =>
    cases corners with
    | nil => exact ⟨_, rfl, ⟨rfl, rfl, rfl⟩, .nil⟩
    | cons p rest => exact replay_polygon_inks ascentOf pen p rest color

/-- **One primitive.**  On a clean context, it adds marks of its own inks. -/
theorem replay_inks (hx : x.Clean) (p : Primitive) :
    ∃ y, x.replay (p.script ascentOf) = some y ∧ y.Clean ∧
      ∃ new, y.marks = x.marks ++ new ∧ List.Forall₂ Mark.Shows new p.inks := by
  obtain ⟨y, hy, hclean, hshows⟩ := replay_inks_of_fresh ascentOf x.pen p
  exact ⟨y.above x.marks, (hx.replay_of_fresh hy).1, hclean.above x.marks, y.marks, rfl, hshows⟩

/-- Any number of primitives, by induction: each of them finds a clean context. -/
theorem replay_all_inks (hx : x.Clean) (ps : List Primitive) :
    ∃ y, x.replay (ps.flatMap (Primitive.script ascentOf)) = some y ∧
      ∃ new, y.marks = x.marks ++ new ∧
        List.Forall₂ Mark.Shows new (ps.flatMap Primitive.inks) := by
  induction ps generalizing x with
  | nil => exact ⟨x, rfl, [], (List.append_nil _).symm, .nil⟩
  | cons p rest ih =>
    obtain ⟨y, hy, hclean, first, hfirst, hshows⟩ := replay_inks ascentOf hx p
    obtain ⟨z, hz, more, hmore, hall⟩ := ih hclean
    refine ⟨z, ?_, first ++ more, ?_, List.rel_append hshows hall⟩
    · rw [List.flatMap_cons, replay_append, hy]
      exact hz
    · rw [hmore, hfirst, List.append_assoc]

end Context

/-! ### Sketches -/

namespace Sketch

variable {α β : Type}

/-- A sketch is meant to be painted with certain inks: as far as it goes, and completely if it
succeeds. -/
structure Inks (t : Sketch α) (inks : List Ink) : Prop where
  upTo : t.items.flatMap Primitive.inks <+: inks
  whole : ∀ a, t.outcome = .ok a → t.items.flatMap Primitive.inks = inks

theorem Inks.andThen {t : Sketch α} {f : α → Sketch β} {a b : List Ink} (ht : Inks t a)
    (hf : ∀ r, t.outcome = .ok r → Inks (f r) b) : Inks (t.andThen f) (a ++ b) := by
  cases ho : t.outcome with
  | error e =>
    rw [Trace.andThen_of_error ho]
    exact ⟨ht.upTo.trans (List.prefix_append a b), fun r hr => (by cases hr)⟩
  | ok r =>
    have hitems : ∀ {l : List Ink}, l = ((f r).items.flatMap Primitive.inks) →
        (t.items ++ (f r).items).flatMap Primitive.inks = a ++ l := by
      rintro l rfl
      rw [List.flatMap_append, ht.whole r ho]
    rw [Trace.andThen_of_ok ho]
    constructor
    · rw [hitems rfl]
      exact (List.prefix_append_right_inj a).mpr (hf r ho).upTo
    · intro u hu
      exact hitems ((hf r ho).whole u hu).symm

/-- The primitives that are drawn are painted as they are meant to be. -/
theorem Inks.of_drawn {t : Sketch Unit} {inks : List Ink} (ht : Inks t inks) :
    (drawn t).flatMap Primitive.inks <+: inks := by
  obtain ⟨refused, hrefused⟩ : drawn t <+: t.items := List.takeWhile_prefix _
  refine List.IsPrefix.trans ?_ ht.upTo
  rw [← hrefused, List.flatMap_append]
  exact List.prefix_append _ _

theorem inks_steps (items : List Primitive) :
    Inks (Trace.steps items) (items.flatMap Primitive.inks) :=
  ⟨List.prefix_rfl, fun _ _ => rfl⟩

/-- A check before a sketch. -/
theorem inks_check {r : Except Fault α} {f : α → Sketch β} {inks : List Ink}
    (h : ∀ a, r = .ok a → Inks (f a) inks) : Inks ((Trace.check r).andThen f) inks := by
  have hnone : Inks (Trace.check r : Sketch α) [] := ⟨List.prefix_rfl, fun _ _ => rfl⟩
  exact hnone.andThen h

theorem inks_all {γ : Type} {f : γ → Sketch Unit} {g : γ → List Ink} {xs : List γ}
    (h : ∀ c ∈ xs, Inks (f c) (g c)) : Inks (Trace.all (xs.map f)) (xs.flatMap g) := by
  induction xs with
  | nil => exact ⟨List.prefix_rfl, fun _ _ => rfl⟩
  | cons c rest ih =>
    exact (h c List.mem_cons_self).andThen fun _ _ =>
      ih fun d hd => h d (List.mem_cons_of_mem c hd)

end Sketch

/-! ### Charts -/

namespace Chart

variable (style : Style) (c : Chart)

/-- What a callout is meant to be painted with: its box, its two lines of text and its pointer. -/
def calloutInks (a : Annotation) : List Ink :=
  let color := style.theme.color
  [.area (color .callout), .stroke (color (.status a.status)) 2,
    .glyphs a.headline (color .text) (style.typography.font .body),
    .glyphs a.detail (color .text) (style.typography.font .caption),
    .stroke (color (.status a.status)) 4, .area (color (.status a.status))]

/-- What a chart is meant to be painted with: the container, one stroke for each segment of each
series, one dot for each point, one caption for each series, and the callout. -/
def inks : List Ink :=
  let color := style.theme.color
  [.area (color .surfaceAlt), .stroke (color .border) 2] ++
    c.series.flatMap (fun s =>
      List.replicate (s.points.length - 1) (.stroke (color (.status s.status)) 5)) ++
    c.series.flatMap (fun s =>
      List.replicate s.points.length (.area (color (.status s.status)))) ++
    c.series.map (fun s =>
      .glyphs s.label (color (.status s.status)) (style.typography.font .caption)) ++
    c.annotation.toList.flatMap (calloutInks style)

theorem inks_segments (color : Color) (points : List Point) :
    (segments color points).flatMap Primitive.inks =
      List.replicate (points.length - 1) (.stroke color 5) := by
  induction points with
  | nil => rfl
  | cons p rest ih =>
    cases rest with
    | nil => rfl
    | cons q rest =>
      rw [segments, List.flatMap_cons, ih]
      rfl

theorem inks_markers (color : Color) (points : List Point) :
    Sketch.Inks (markers color points) (List.replicate points.length (.area color)) := by
  rw [← List.map_const', List.map_eq_flatMap]
  refine Sketch.inks_all fun p _ => ?_
  show Sketch.Inks ((Trace.check (marker color p)).andThen Trace.step) _
  refine Sketch.inks_check fun m hm => ?_
  obtain ⟨-, r, -, rfl⟩ := marker_eq_ok.mp hm
  exact Sketch.inks_steps [_]

theorem inks_captions : (c.series.mapIdx (caption style c)).flatMap Primitive.inks =
    c.series.map fun s => .glyphs s.label (style.theme.color (.status s.status))
      (style.typography.font .caption) := by
  have hfirst : c.series = c.series.zipIdx.map Prod.fst := (List.zipIdx_map_fst 0 _).symm
  conv => rhs; rw [hfirst]
  rw [List.mapIdx_eq_zipIdx_map, List.flatMap_map, List.map_map, List.map_eq_flatMap]
  rfl

theorem inks_calloutSketch (bounds : Rect) : Sketch.Inks (c.calloutSketch style bounds)
    (c.annotation.toList.flatMap (calloutInks style)) := by
  unfold calloutSketch
  cases c.annotation with
  | none => exact Sketch.inks_steps []
  | some a => exact Sketch.inks_check fun l _ => Sketch.inks_steps (callout style a l)

/-- The segments and the dots of all series. -/
theorem inks_lines :
    ((c.lines style).flatMap fun l => segments l.1 l.2).flatMap Primitive.inks =
      c.series.flatMap (fun s =>
        List.replicate (s.points.length - 1) (.stroke (style.theme.color (.status s.status)) 5)) ∧
    Sketch.Inks (Trace.all ((c.lines style).map fun l => markers l.1 l.2))
      (c.series.flatMap fun s =>
        List.replicate s.points.length (.area (style.theme.color (.status s.status)))) := by
  constructor
  · rw [List.flatMap_assoc, lines, List.flatMap_map]
    refine List.flatMap_congr fun s _ => ?_
    rw [inks_segments, List.length_map]
    rfl
  · rw [lines, List.map_map]
    refine Sketch.inks_all fun s _ => ?_
    have hdots := inks_markers (style.theme.status s.status) (s.points.map c.place)
    rwa [List.length_map] at hdots

/-- A chart is painted as it is meant to be. -/
theorem inks_sketch : Sketch.Inks (c.sketch style) (c.inks style) := by
  rw [sketch_eq]
  refine Sketch.inks_check fun bounds hb => ?_
  have hcontainer := Sketch.inks_steps
    [.box bounds cornerRadius style.theme.surfaceAlt style.theme.border]
  simp only [inks, List.append_assoc]
  refine hcontainer.andThen fun _ _ => Sketch.inks_check fun lines hlines => ?_
  obtain ⟨-, rfl⟩ := (mapM_line_eq_ok hb).mp hlines
  obtain ⟨hsegments, hmarkers⟩ := inks_lines style c
  have hfirst := Sketch.inks_steps ((c.lines style).flatMap fun l => segments l.1 l.2)
  have hcaptions := Sketch.inks_steps (c.series.mapIdx (caption style c))
  rw [hsegments] at hfirst
  rw [inks_captions] at hcaptions
  exact hfirst.andThen fun _ _ => hmarkers.andThen fun _ _ => hcaptions.andThen fun _ _ =>
    inks_calloutSketch style c bounds

end Chart

/-! ### Shapes -/

namespace Shape

variable (style : Style)

/-- What a shape is meant to be painted with: the fillings first, then the outlines, then the
texts. -/
def inks : Shape → List Ink
  | panel _ _ _ _ title =>
    [.area (style.theme.color .surface), .stroke (style.theme.color .border) 2] ++
      title.toList.map fun t =>
        .glyphs t (style.theme.color .text) (style.typography.font .heading)
  | bullet _ _ label status =>
    [.area (style.theme.color (.status status)),
      .glyphs label (style.theme.color .text) (style.typography.font .body)]
  | arrow _ _ _ _ status =>
    [.stroke (style.theme.color (.status status)) 4, .area (style.theme.color (.status status))]
  | chart c => c.inks style
  | text _ _ words role tone => [.glyphs words (style.theme.color tone) (style.typography.font role)]
  | block _ _ _ _ _ fill outline =>
    .area (style.theme.color fill) ::
      outline.toList.map fun tone => .stroke (style.theme.color tone) 2

/-- Every shape is painted as it is meant to be. -/
theorem inks_sketch (s : Shape) : Sketch.Inks (s.sketch style) (s.inks style) := by
  cases s with
  | panel x y w h title =>
    rw [sketch_panel]
    refine Sketch.inks_check fun bounds _ => ?_
    cases title with
    | none => exact Sketch.inks_steps [_]
    | some t => exact Sketch.inks_steps [_, style.label bounds.titleOrigin t .heading]
  | bullet x y label status =>
    rw [sketch_bullet]
    exact Sketch.inks_check fun bounds _ => Sketch.inks_steps [_, _]
  | arrow x1 y1 x2 y2 status => exact Sketch.inks_steps (style.arrow ⟨x1, y1⟩ ⟨x2, y2⟩ status)
  | text x y words role tone =>
    exact Sketch.inks_steps
      [.text ⟨x, y⟩ words (style.theme.color tone) (style.typography.font role)]
  | block x y w h radius fill outline =>
    rw [sketch_block]
    refine Sketch.inks_check fun bounds _ => ?_
    cases outline with
    | none => exact Sketch.inks_steps [_]
    | some tone => exact Sketch.inks_steps [.roundedRect bounds radius _ (some _) outlineWidth]
  | chart c => exact c.inks_sketch style

end Shape

/-! ### Drawings -/

/-- What a whole drawing is meant to be painted with. -/
def Diagram.inks (style : Style) (d : Diagram) : List Ink :=
  .ground (style.theme.color .background) :: d.shapes.flatMap (Shape.inks style)

namespace Shape

variable (style : Style)

/-- Several shapes make the calls of some primitives, which are painted as they are meant to be up
to the first one that is refused. -/
theorem inks_planAll (ascentOf : Font → Float) (shapes : List Shape) : ∃ ps : List Primitive,
    (planAll ascentOf style shapes).items = ps.flatMap (Primitive.script ascentOf) ∧
    ps.flatMap Primitive.inks <+: shapes.flatMap (inks style) ∧
    ((planAll ascentOf style shapes).outcome = .ok () →
      ps.flatMap Primitive.inks = shapes.flatMap (inks style)) := by
  have hall : planAll ascentOf style shapes =
      (Trace.all (shapes.map (sketch style))).expand (Primitive.plan ascentOf) := by
    rw [Trace.expand_all, List.map_map]
    rfl
  have hinks : Sketch.Inks (Trace.all (shapes.map (sketch style)))
      (shapes.flatMap (inks style)) := Sketch.inks_all fun s _ => inks_sketch style s
  rw [hall]
  refine ⟨_, Sketch.items_expand ascentOf _, hinks.of_drawn, fun hok => ?_⟩
  rw [Sketch.drawn_eq_items hok]
  exact hinks.whole () (Trace.outcome_expand_eq_ok.mp hok).1

end Shape

namespace Diagram

variable (style : Style) (size : CanvasSize) (d : Diagram)

/-- On a surface of its own, every mark of some primitives shows the ink that it is meant to
show. -/
theorem replay_on_canvas (ascentOf : Font → Float) (ps : List Primitive) : ∃ x,
    Context.replay {} (Canvas.opening size style.theme.background ++
      ps.flatMap (Primitive.script ascentOf)) = some x ∧
    List.Forall₂ Mark.Shows x.marks
      (.ground (style.theme.color .background) :: ps.flatMap Primitive.inks) := by
  obtain ⟨canvas, hcanvas, hclean, hground⟩ : ∃ canvas,
      Context.replay {} (Canvas.opening size style.theme.background) = some canvas ∧
      canvas.Clean ∧
      List.Forall₂ Mark.Shows canvas.marks [.ground (style.theme.color .background)] :=
    ⟨_, rfl, ⟨rfl, rfl, rfl⟩, .cons ⟨rfl, rfl⟩ .nil⟩
  obtain ⟨x, hx, new, hnew, hshows⟩ := Context.replay_all_inks ascentOf hclean ps
  refine ⟨x, ?_, ?_⟩
  · rw [Context.replay_append, hcanvas]
    exact hx
  · rw [hnew]
    exact List.rel_append hground hshows

/-- **Every call paints as it is meant to.**  On a device that refuses nothing, whatever was
recorded before: the calls of a drawing can be replayed, every painting call leaves a mark, and
mark by mark the kind of the call, the color, the line width and the font in force are those that
the diagram asks for, up to the first primitive that is refused, and completely if the drawing
succeeds. -/
theorem marks_show_inks (s : Session) (backend : Backend) (calls : Array Call) :
    let drawing := d.draw style size { s with device := { backend, calls } }
    ∃ added x shown, drawing.2.device.recording = calls.toList ++ added ∧
      Context.replay {} added = some x ∧ x.marks.map Mark.call = added.filter Call.paints ∧
      List.Forall₂ Mark.Shows x.marks shown ∧ shown <+: d.inks style ∧
      (drawing.1 = .ok () → shown = d.inks style) := by
  intro drawing
  cases ha : size.area with
  | error e =>
    -- there is no canvas to draw on
    have hdrawing : drawing =
        (.error (.geometry e), { s with device := { backend, calls } }) := draw_of_no_area ha rfl
    rw [hdrawing]
    refine ⟨[], {}, [], (List.append_nil _).symm, rfl, rfl, .nil, List.nil_prefix, ?_⟩
    intro h
    cases h
  | ok area =>
    let start : Session := { s with device := { backend, calls } }
    have hdrawing : drawing = _ := @draw_of_area style size d area ha start rfl
    obtain ⟨ps, hitems, hprefix, hwhole⟩ := Shape.inks_planAll style backend.ascentOf d.shapes
    obtain ⟨x, hx, hshows⟩ := replay_on_canvas style size backend.ascentOf ps
    rw [hdrawing, hitems]
    refine ⟨_, x, _, Device.recording_record _ _, hx, Context.calls_replay hx, hshows,
      List.cons_prefix_cons.mpr ⟨rfl, hprefix⟩, fun hok => ?_⟩
    rw [hwhole (Except.mapError_eq_ok.mp hok)]
    rfl

end Diagram

end Placard
