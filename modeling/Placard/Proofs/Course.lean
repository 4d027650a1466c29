/-
Placard/Proofs/Course.lean

In which order a chart is drawn, and how far the drawing gets if the geometry is not valid.

An `Element` is a primitive in plain numbers.  `Chart.course` lists the elements of a whole chart:
the container, all lines, all markers, all captions and the callout.  The drawing follows this list
from its beginning.  It stops after the container if a point lies outside of the chart, inside of
the markers if one of them leaves the grid, and after the captions if there is no room for the
callout (`Chart.sketch_of_outside`, `Chart.sketch_of_crowded`, `Chart.sketch_of_room`).
-/
import Mathlib.Data.List.Basic
import Placard.Proofs.Drawable

namespace Placard

/-! ### Elements -/

/-- Something that can be drawn in one go, with rectangles given by position and size. -/
inductive Element where
  | box (x y width height : Int) (radius : Float) (fill outline : Option Color) (pen : Float)
  | words (position : Point) (content : String) (color : Color) (font : Font)
  | segment (start stop : Point) (color : Color) (pen : Float)
  | polygon (corners : List Point) (color : Color)
  | ellipse (x y width height : Int) (color : Color)

/-- The primitive in plain numbers. -/
def Primitive.element : Primitive → Element
  | roundedRect b radius fill outline width =>
    .box b.x.val b.y.val b.width b.height radius fill outline width
  | text position content color font => .words position content color font
  | line start stop color width => .segment start stop color width
  | polygon corners color => .polygon corners color
  | ellipse b color => .ellipse b.x.val b.y.val b.width b.height color

/-- Nothing is lost in plain numbers. -/
theorem Primitive.element_injective {p q : Primitive} (h : p.element = q.element) : p = q := by
  cases p <;> cases q <;> simp only [element, Element.box.injEq, Element.words.injEq,
    Element.segment.injEq, Element.polygon.injEq, Element.ellipse.injEq, reduceCtorEq] at h
  · obtain ⟨hx, hy, hw, hh, rfl, rfl, rfl, rfl⟩ := h
    rw [Rect.ext (Pixel.ext hx) (Pixel.ext hy) hw hh]
  · obtain ⟨rfl, rfl, rfl, rfl⟩ := h
    rfl
  · obtain ⟨rfl, rfl, rfl, rfl⟩ := h
    rfl
  · obtain ⟨rfl, rfl⟩ := h
    rfl
  · obtain ⟨hx, hy, hw, hh, rfl⟩ := h
    rw [Rect.ext (Pixel.ext hx) (Pixel.ext hy) hw hh]

/-- The calls that are added are those of these elements, each once and in this order. -/
def Device.Draws (d : Device) (t : Drawing Unit) (elements : List Element) : Prop :=
  ∃ painted : List Primitive, painted.map Primitive.element = elements ∧
    (d.run t).2 = d.record (painted.flatMap (Primitive.script d.ascentOf))

/-! ### The elements of a chart -/

namespace Chart

variable (style : Style) (c : Chart)

/-- The frame that everything else is drawn on. -/
def container : Element :=
  .box c.x.val c.y.val c.w.val c.h.val 12 (some style.theme.surfaceAlt) (some style.theme.border) 2

/-- The lines of a series: from each of its points to the next one. -/
def strokesOf (s : Series) : List Element :=
  let points := s.points.map c.place
  (points.zip points.tail).map fun e => .segment e.1 e.2 (style.theme.status s.status) 5

/-- The lines of all series. -/
def strokes : List Element := c.series.flatMap (c.strokesOf style)

/-- Every point of every series, with the color of the series. -/
def dots : List (Color × Point) :=
  c.series.flatMap fun s => s.points.map fun p => (style.theme.status s.status, c.place p)

/-- The marker of a point: its corner is five pixels to the left and above. -/
def disc (dot : Color × Point) : Element :=
  let corner := dot.2.offset (-5) (-5)
  .ellipse corner.x.val corner.y.val 10 10 dot.1

/-- The captions of all series. -/
def captions : List Element :=
  c.series.mapIdx fun i s => .words (c.captionOrigin i) s.label (style.theme.status s.status)
    (style.typography.font .caption)

/-- The callout of an annotation whose anchor is at `q`. -/
def pinned (a : Annotation) (q : Point) : List Element :=
  let color := style.theme.status a.status
  let frame := q.offset (-170) (-120)
  let start := q.offset (-30) (-8)
  let stop := q.offset 10 18
  [.box frame.x.val frame.y.val 390 150 12 (some style.theme.callout) (some color) 2,
    .words (q.offset (-150) (-94)) a.headline style.theme.text (style.typography.font .body),
    .words (q.offset (-150) (-54)) a.detail style.theme.text (style.typography.font .caption),
    .segment start stop color 4,
    .polygon (Arrowhead.ofEnds start stop).corners color]

/-- Everything that a chart is drawn with, in its order. -/
def course : List Element :=
  [c.container style] ++ c.strokes style ++ (c.dots style).map disc ++ c.captions style ++
    c.annotation.toList.flatMap fun a => pinned style a (c.place a.anchor)

variable {style c} {bounds : Rect}

/-! ### Each part in plain numbers -/

theorem element_container (hb : c.bounds = .ok bounds) :
    (Primitive.box bounds cornerRadius style.theme.surfaceAlt style.theme.border).element =
      c.container style := by
  obtain ⟨-, hx, hy, hw, hh⟩ := Rect.ofSize_eq_ok.mp hb
  rw [Primitive.box, Primitive.element, hx, hy, hw, hh]
  rfl

/-- The segments of a list of points join neighbours. -/
theorem elements_segments (color : Color) (points : List Point) :
    (segments color points).map Primitive.element =
      (points.zip points.tail).map fun e => .segment e.1 e.2 color 5 := by
  induction points with
  | nil => rfl
  | cons p rest ih =>
    cases rest with
    | nil => rfl
    | cons q rest =>
      rw [segments, List.map_cons, ih]
      rfl

theorem elements_strokes :
    ((c.lines style).flatMap fun l => segments l.1 l.2).map Primitive.element =
      c.strokes style := by
  rw [List.map_flatMap, lines, List.flatMap_map]
  exact List.flatMap_congr fun s _ => elements_segments _ _

/-- One line fewer than there are points. -/
theorem length_strokesOf (s : Series) : (c.strokesOf style s).length = s.points.length - 1 := by
  simp [strokesOf]

theorem elements_captions :
    (c.series.mapIdx (caption style c)).map Primitive.element = c.captions style := by
  rw [captions, List.mapIdx_eq_zipIdx_map, List.mapIdx_eq_zipIdx_map, List.map_map]
  rfl

theorem elements_callout {a : Annotation} {q : Point} {l : Callout}
    (hl : Callout.around q = .ok l) :
    (callout style a l).map Primitive.element = pinned style a q := by
  obtain ⟨-, r, ⟨hx, hy, hw, hh⟩, rfl⟩ := Callout.around_eq_ok.mp hl
  simp only [callout, Style.arrow, Style.label, Primitive.box, List.map_append, List.map_cons,
    List.map_nil, Primitive.element, hx, hy, hw, hh]
  rfl

/-- With room for the callout, all of it is drawn. -/
theorem elements_calloutSketch (hb : c.bounds = .ok bounds)
    (h : ∀ a ∈ c.annotation, ∃ l, a.layout bounds = .ok l) :
    (c.calloutSketch style bounds).items.map Primitive.element =
      c.annotation.toList.flatMap fun a => pinned style a (c.place a.anchor) := by
  unfold calloutSketch
  generalize c.annotation = annotation at h
  cases annotation with
  | none => rfl
  | some a =>
    obtain ⟨l, hl⟩ := h a rfl
    show ((Trace.check (a.layout bounds)).andThen _).items.map _ = _
    rw [hl, Trace.check_ok_andThen, Option.toList_some, List.flatMap_singleton]
    exact elements_callout ((layout_eq_ok hb).mp hl).2

/-- Without room for the callout, nothing of it is drawn. -/
theorem calloutSketch_of_error {e : Fault} (h : (c.calloutSketch style bounds).outcome = .error e) :
    (c.calloutSketch style bounds).items = [] ∧ ∃ a ∈ c.annotation, a.layout bounds = .error e := by
  unfold calloutSketch at h ⊢
  generalize c.annotation = annotation at h
  cases annotation with
  | none => cases h
  | some a =>
    change ((Trace.check (a.layout bounds)).andThen _).outcome = _ at h
    show ((Trace.check (a.layout bounds)).andThen _).items = [] ∧ _
    cases hl : a.layout bounds with
    | ok l =>
      rw [hl] at h
      cases h
    | error fault =>
      rw [hl] at h
      cases h
      exact ⟨rfl, a, rfl, hl⟩

/-! ### Markers -/

/-- There is room on the grid for a marker around the point. -/
def MarkerFits (dot : Color × Point) : Prop :=
  dot.2.x.val ≤ Pixel.greatest - 5 ∧ dot.2.y.val ≤ Pixel.greatest - 5

instance (dot : Color × Point) : Decidable (MarkerFits dot) := inferInstanceAs (Decidable (_ ∧ _))

end Chart

/-- Sequences in sequence are a single one. -/
theorem Trace.all_flatMap {ι α : Type} (f : α → List (Trace ι Unit)) (xs : List α) :
    all (xs.flatMap f) = all (xs.map fun x => all (f x)) := by
  induction xs with
  | nil => rfl
  | cons x rest ih => rw [List.flatMap_cons, all_append, ih, List.map_cons, all]

namespace Chart

variable {style : Style} {c : Chart} {bounds : Rect}

/-- Markers are drawn up to the first one that leaves the grid. -/
theorem elements_markers_of (dots : List (Color × Point)) :
    let t : Sketch Unit := Trace.all (dots.map fun d =>
      (Trace.check (marker d.1 d.2)).andThen Trace.step)
    t.items.map Primitive.element = (dots.takeWhile fun d => MarkerFits d).map disc ∧
      (t.outcome = .ok () ↔ ∀ d ∈ dots, MarkerFits d) := by
  intro t
  induction dots with
  | nil => exact ⟨rfl, fun _ => List.forall_mem_nil _, fun _ => rfl⟩
  | cons d rest ih =>
    have ht : t = ((Trace.check (marker d.1 d.2)).andThen Trace.step).andThen fun _ =>
        Trace.all (rest.map fun d => (Trace.check (marker d.1 d.2)).andThen Trace.step) := rfl
    by_cases hd : MarkerFits d
    · obtain ⟨m, hm⟩ := exists_marker_eq_ok.mpr hd
      obtain ⟨-, r, ⟨hx, hy, hw, hh⟩, hr⟩ := marker_eq_ok.mp hm
      have hdisc : m.element = disc d := by
        rw [hr, Primitive.element, hx, hy, hw, hh]
        rfl
      rw [hm, Trace.check_ok_andThen] at ht
      rw [ht, List.takeWhile_cons_of_pos (p := fun d => MarkerFits d) (decide_eq_true hd),
        List.map_cons, ← hdisc, ← ih.1, List.forall_mem_cons, ← ih.2]
      exact ⟨rfl, fun h => ⟨hd, h⟩, And.right⟩
    · obtain ⟨e, he⟩ : ∃ e, marker d.1 d.2 = .error e :=
        Except.exists_eq_error fun m hm => hd (exists_marker_eq_ok.mp ⟨m, hm⟩)
      rw [he] at ht
      rw [ht, List.takeWhile_cons_of_neg (by simpa using hd), List.forall_mem_cons]
      refine ⟨rfl, fun h => ?_, fun h => absurd h.1 hd⟩
      cases h

/-- The markers of all series. -/
theorem elements_markers :
    let t : Sketch Unit := Trace.all ((c.lines style).map fun l => markers l.1 l.2)
    t.items.map Primitive.element = ((c.dots style).takeWhile fun d => MarkerFits d).map disc ∧
      (t.outcome = .ok () ↔ ∀ d ∈ c.dots style, MarkerFits d) := by
  have hall : Trace.all ((c.lines style).map fun l => markers l.1 l.2) =
      Trace.all ((c.dots style).map fun d =>
        (Trace.check (marker d.1 d.2)).andThen Trace.step) := by
    rw [dots, List.map_flatMap, Trace.all_flatMap, lines, List.map_map]
    refine congrArg Trace.all (List.map_congr_left fun s _ => ?_)
    rw [List.map_map]
    show Trace.all ((s.points.map c.place).map _) = _
    rw [List.map_map]
    rfl
  rw [hall]
  exact elements_markers_of _

/-! ### How far the drawing gets -/

/-- Without a rectangle nothing is drawn. -/
theorem sketch_of_error {e : Fault} (hb : c.bounds = .error e) :
    c.sketch style = Trace.fail e := by
  rw [sketch_eq, hb]
  rfl

/-- With a point outside of the chart, only the container is drawn. -/
theorem sketch_of_outside (hb : c.bounds = .ok bounds)
    (h : ∃ s ∈ c.series, ∃ p ∈ s.points, p.inside = false) :
    (c.sketch style).items.map Primitive.element = [c.container style] ∧
      ∃ e, (c.sketch style).outcome = .error e := by
  obtain ⟨e, he⟩ : ∃ e, c.series.mapM (c.line style) = .error e := by
    refine Except.exists_eq_error fun lines hlines => ?_
    obtain ⟨s, hs, p, hp, houtside⟩ := h
    have hinside := ((mapM_line_eq_ok hb).mp hlines).1 s hs p hp
    rw [houtside] at hinside
    cases hinside
  rw [sketch_eq, hb, Trace.check_ok_andThen, he, ← element_container hb]
  exact ⟨rfl, e, rfl⟩

/-- With all points inside of the chart, the container and all lines are drawn, and then the
markers. -/
theorem sketch_of_inside (hb : c.bounds = .ok bounds)
    (hinside : ∀ s ∈ c.series, ∀ p ∈ s.points, p.inside = true) : c.sketch style =
      (Trace.steps (.box bounds cornerRadius style.theme.surfaceAlt style.theme.border ::
        (c.lines style).flatMap fun l => segments l.1 l.2)).andThen fun _ =>
      (Trace.all ((c.lines style).map fun l => markers l.1 l.2)).andThen fun _ =>
      (Trace.steps (c.series.mapIdx (caption style c))).andThen fun _ =>
      c.calloutSketch style bounds := by
  rw [sketch_eq, hb, Trace.check_ok_andThen, (mapM_line_eq_ok hb).mpr ⟨hinside, rfl⟩,
    Trace.check_ok_andThen, ← Trace.andThen_assoc, ← Trace.steps_append]
  rfl

/-- If a marker leaves the grid, then those before it are the last that is drawn. -/
theorem sketch_of_crowded (hb : c.bounds = .ok bounds)
    (hinside : ∀ s ∈ c.series, ∀ p ∈ s.points, p.inside = true)
    (hcrowded : ¬ ∀ d ∈ c.dots style, MarkerFits d) :
    (c.sketch style).items.map Primitive.element = [c.container style] ++ c.strokes style ++
        ((c.dots style).takeWhile fun d => MarkerFits d).map disc ∧
      ∃ e, (c.sketch style).outcome = .error e := by
  obtain ⟨hdiscs, houtcome⟩ := @elements_markers style c
  obtain ⟨e, he⟩ :
      ∃ e, (Trace.all ((c.lines style).map fun l => markers l.1 l.2)).outcome = .error e :=
    Except.exists_eq_error fun _ ho => hcrowded (houtcome.mp ho)
  rw [sketch_of_inside hb hinside, Trace.steps_andThen, Trace.andThen_of_error he]
  refine ⟨?_, e, rfl⟩
  rw [List.map_append, List.map_cons, element_container hb, elements_strokes, hdiscs]
  rfl

/-- Otherwise all markers and all captions are drawn, and then the callout. -/
theorem sketch_of_room (hb : c.bounds = .ok bounds)
    (hinside : ∀ s ∈ c.series, ∀ p ∈ s.points, p.inside = true)
    (hfits : ∀ d ∈ c.dots style, MarkerFits d) :
    (c.sketch style).items.map Primitive.element = [c.container style] ++ c.strokes style ++
        (c.dots style).map disc ++ c.captions style ++
        (c.calloutSketch style bounds).items.map Primitive.element ∧
      (c.sketch style).outcome = (c.calloutSketch style bounds).outcome := by
  obtain ⟨hdiscs, houtcome⟩ := @elements_markers style c
  have hall : ((c.dots style).takeWhile fun d => MarkerFits d) = c.dots style :=
    List.takeWhile_eq_self_iff.mpr fun d hd => decide_eq_true (hfits d hd)
  rw [sketch_of_inside hb hinside, Trace.steps_andThen,
    Trace.andThen_of_ok (houtcome.mpr hfits), Trace.steps_andThen]
  refine ⟨?_, rfl⟩
  rw [List.map_append, List.map_cons, element_container hb, elements_strokes, List.map_append,
    hdiscs, hall, List.map_append, elements_captions]
  simp only [List.append_assoc, List.cons_append, List.nil_append]

/-- A chart is drawn as far as its sketch goes. -/
theorem plan_eq {ascentOf : Font → Float} : (Shape.chart c).plan ascentOf style =
    ⟨(c.sketch style).items.flatMap (Primitive.script ascentOf), (c.sketch style).outcome⟩ :=
  Sketch.expand_of_valid fault?_of_mem_sketch

/-! ### Captions -/

/-- Captions are 34 pixels apart, as long as the distance to the first one is a coordinate. -/
theorem captionOrigin_val {i : Nat} (hx : c.x.val + 30 ≤ Pixel.greatest)
    (hi : 34 * (i : Int) ≤ Pixel.greatest) (hy : c.y.val + 18 + 34 * i ≤ Pixel.greatest) :
    (c.captionOrigin i).x.val = c.x.val + 30 ∧
      (c.captionOrigin i).y.val = c.y.val + 18 + 34 * i := by
  have hxleast := c.x.least_le
  have hyleast := c.y.least_le
  simp only [Pixel.greatest] at hx hi hy
  simp only [captionOrigin, captionSpacing, Point.offset_x, Point.offset_y, Pixel.shift_val,
    Pixel.clamp_val]
  omega

/-! ### The whole chart -/

/-- **In which order a chart is drawn.**  If a chart is drawn to its end, then its rectangle is
valid, all of its points are on the grid, and the calls made are those of the elements of
`Chart.course`, each once and in that order.  A series has one line fewer than it has points, and
captions are 34 pixels apart as long as the grid has room for that. -/
theorem drawn_in_course {d : Device} (h : (d.run ((Shape.chart c).draw style)).1 = .ok ()) :
    (∃ bounds, c.bounds = .ok bounds ∧
        ∀ a ∈ c.annotation, bounds.pixel a.anchor = .ok (c.place a.anchor)) ∧
      (∀ s ∈ c.series, c.pixels s = .ok (s.points.map c.place)) ∧
      d.Draws ((Shape.chart c).draw style) (c.course style) ∧
      (∀ s, (c.strokesOf style s).length = s.points.length - 1) ∧
      ∀ i : Nat, c.x.val + 30 ≤ Pixel.greatest → 34 * (i : Int) ≤ Pixel.greatest →
        c.y.val + 18 + 34 * i ≤ Pixel.greatest →
        (c.captionOrigin i).x.val = c.x.val + 30 ∧
          (c.captionOrigin i).y.val = c.y.val + 18 + 34 * i := by
  have hrun := (Shape.follows_draw style (.chart c)).run_of_not_refused
    (by rw [h]; exact fun he => nomatch he)
  rw [plan_eq] at hrun
  have hok : (c.sketch style).outcome = .ok () := by
    rw [hrun, Except.mapError_eq_ok] at h
    exact h
  obtain ⟨bounds, hb⟩ := exists_bounds_of_outcome hok
  obtain ⟨hinside, -, hlast⟩ := (outcome_sketch_eq_ok hb).mp hok
  have hfits : ∀ d ∈ c.dots style, MarkerFits d := by
    by_contra hcrowded
    obtain ⟨-, e, he⟩ := sketch_of_crowded hb hinside hcrowded
    rw [hok] at he
    cases he
  refine ⟨⟨bounds, hb, fun a ha => ?_⟩, fun s hs => (pixels_eq_ok hb).mpr ⟨hinside s hs, rfl⟩,
    ⟨(c.sketch style).items, ?_, by rw [hrun]⟩, length_strokesOf,
    fun i => captionOrigin_val⟩
  · obtain ⟨l, hl⟩ := hlast a ha
    exact (pixel_eq_ok hb).mpr ⟨((layout_eq_ok hb).mp hl).1, rfl⟩
  · rw [(sketch_of_room hb hinside hfits).1, elements_calloutSketch hb hlast, course]

/-- A chart with one line and three markers. -/
theorem drawn_in_course_two_series :
    let c : Chart := ⟨92, 560, 1360, 300, [⟨"local", .ok, [⟨0.25, 0.75⟩, ⟨0.75, 0.5⟩]⟩,
      ⟨"remote", .critical, [⟨0.5, 0.25⟩]⟩], some ⟨⟨0.75, 0.5⟩, "high", "low", .elevated⟩⟩
    let draw := (Shape.chart c).draw Style.plain
    (Device.run {} draw).1 = .ok () ∧ Device.Draws {} draw (c.course Style.plain) ∧
      (c.strokes Style.plain).length = 1 ∧ (c.dots Style.plain).length = 3 ∧
      (c.captionOrigin 1).x.val = 122 ∧ (c.captionOrigin 1).y.val = 612 := by
  intro c draw
  have h : (Device.run {} draw).1 = .ok () :=
    Shape.run_draw_eq_ok_iff.mpr (by decide +kernel : (Shape.chart c).Drawable)
  obtain ⟨-, -, hcourse, -, hcaption⟩ := drawn_in_course h
  obtain ⟨hx, hy⟩ := hcaption 1 (by decide) (by decide) (by decide)
  exact ⟨h, hcourse, rfl, rfl, hx, hy⟩

/-- With enough series, the distance to the first caption is no coordinate any more.  A caption that
would have room at 26 is then drawn at 17, on a chart that is drawn to its end. -/
theorem caption_above_its_place :
    let c : Chart :=
      ⟨0, Pixel.clamp Pixel.least, 1, 1, List.replicate 63161285 ⟨"", .ok, []⟩, none⟩
    (Device.run {} ((Shape.chart c).draw Style.plain)).1 = .ok () ∧
      63161284 < c.series.length ∧ c.x.val + 30 = 30 ∧ c.y.val + 18 + 34 * 63161284 = 26 ∧
      c.captionOrigin 63161284 = ⟨30, 17⟩ := by
  -- no point is drawn, however many series there are
  have hall : ∀ series : List Series, (∀ s ∈ series, s.points = []) →
      63161284 < series.length →
      let c : Chart := ⟨0, Pixel.clamp Pixel.least, 1, 1, series, none⟩
      (Device.run {} ((Shape.chart c).draw Style.plain)).1 = .ok () ∧
        63161284 < c.series.length ∧ c.x.val + 30 = 30 ∧ c.y.val + 18 + 34 * 63161284 = 26 ∧
        c.captionOrigin 63161284 = ⟨30, 17⟩ := by
    intro series hempty hlength c
    have hfits : Rect.Fits 0 (Pixel.clamp Pixel.least) 1 1 := by decide
    have hdrawable : (Shape.chart c).Drawable := by
      refine ⟨hfits, fun s hs p hp => ?_, fun a ha => nomatch ha⟩
      rw [hempty s hs] at hp
      cases hp
    exact ⟨Shape.run_draw_eq_ok_iff.mpr hdrawable, hlength, rfl, rfl, rfl⟩
  refine hall _ (fun s hs => ?_) ?_
  · rw [List.eq_of_mem_replicate hs]
  · rw [List.length_replicate]
    omega

end Chart

end Placard
