/-
Placard/Proofs/Parts.lean

The parts that shapes are drawn with.

For each part this file says when its geometry is accepted and what it is then: rectangles
(`Rect.ofSize_eq_ok`), the points of a chart (`Chart.pixel_eq_ok`), markers and callouts.
`Chart.sketch_eq` cuts the longest sketch into these parts.
-/
import Placard.Proofs.Outcome

namespace Placard

/-! ### Rectangles -/

namespace Rect

/-- A rectangle of this size has an area, and its edges are on the grid. -/
def Fits (x y w h : Pixel) : Prop :=
  0 < w.val ∧ 0 < h.val ∧ x.val + w.val ≤ Pixel.greatest ∧ y.val + h.val ≤ Pixel.greatest

instance (x y w h : Pixel) : Decidable (Fits x y w h) :=
  inferInstanceAs (Decidable (_ ∧ _ ∧ _ ∧ _))

theorem ofSize_eq_ok {x y w h : Pixel} {r : Rect} : ofSize x y w h = .ok r ↔
    Fits x y w h ∧ r.x = x ∧ r.y = y ∧ r.width = w.val ∧ r.height = h.val := by
  unfold ofSize Fits Pixel.greatest
  split
  · rename_i hpos
    constructor
    · intro h
      cases h
    · rintro ⟨hfits, -⟩
      omega
  · split
    · rename_i hfit
      constructor
      · intro h
        cases h
      · rintro ⟨hfits, -⟩
        omega
    · constructor
      · intro h
        cases h
        exact ⟨by omega, rfl, rfl, rfl, rfl⟩
      · rintro ⟨-, hx, hy, hw, hh⟩
        exact congrArg Except.ok (ext hx.symm hy.symm hw.symm hh.symm)

theorem exists_ofSize_eq_ok {x y w h : Pixel} :
    (∃ r, ofSize x y w h = .ok r) ↔ Fits x y w h := by
  constructor
  · rintro ⟨r, hr⟩
    exact (ofSize_eq_ok.mp hr).1
  · intro hfits
    have hpos : ¬ (w.val ≤ 0 ∨ h.val ≤ 0) := by
      have := hfits.1
      have := hfits.2.1
      omega
    have hfit : ¬ (2147483647 < x.val + w.val ∨ 2147483647 < y.val + h.val) := by
      have : x.val + w.val ≤ 2147483647 := hfits.2.2.1
      have : y.val + h.val ≤ 2147483647 := hfits.2.2.2
      omega
    unfold ofSize
    rw [dif_neg hpos, dif_neg hfit]
    exact ⟨_, rfl⟩

theorem pixel_eq_ok {bounds : Rect} {p : UnitPoint} {q : Point} : bounds.pixel p = .ok q ↔
    p.inside = true ∧ ⟨bounds.x.along bounds.width p.x, bounds.y.along bounds.height p.y⟩ = q := by
  unfold pixel
  cases p.inside with
  | false =>
    constructor
    · intro h
      cases h
    · rintro ⟨h, -⟩
      cases h
  | true => exact ⟨fun h => ⟨rfl, Except.ok.inj h⟩, fun h => congrArg Except.ok h.2⟩

theorem pixel_eq_error {bounds : Rect} {p : UnitPoint} {fault : Fault} :
    bounds.pixel p = .error fault ↔ p.inside = false ∧ .outsideUnitSquare p = fault := by
  unfold pixel
  cases p.inside with
  | false => exact ⟨fun h => ⟨rfl, Except.error.inj h⟩, fun h => congrArg Except.error h.2⟩
  | true =>
    constructor
    · intro h
      cases h
    · rintro ⟨h, -⟩
      cases h

end Rect

/-! ### The parts of a chart -/

namespace Chart

variable {style : Style} {c : Chart} {bounds : Rect}

/-- The pixel of a position in the chart, wherever that is. -/
def place (c : Chart) (p : UnitPoint) : Point :=
  ⟨c.x.along c.w.val p.x, c.y.along c.h.val p.y⟩

/-- The color of every series, and its points on the grid. -/
def lines (style : Style) (c : Chart) : List (Color × List Point) :=
  c.series.map fun s => (style.theme.status s.status, s.points.map c.place)

theorem pixel_eq_ok (hb : c.bounds = .ok bounds) {p : UnitPoint} {q : Point} :
    bounds.pixel p = .ok q ↔ p.inside = true ∧ c.place p = q := by
  obtain ⟨-, hx, hy, hw, hh⟩ := Rect.ofSize_eq_ok.mp hb
  rw [Rect.pixel_eq_ok, hx, hy, hw, hh]
  rfl

theorem pixels_eq_ok (hb : c.bounds = .ok bounds) {s : Series} {points : List Point} :
    c.pixels s = .ok points ↔ (∀ p ∈ s.points, p.inside = true) ∧ s.points.map c.place = points := by
  unfold pixels
  rw [hb]
  exact Except.mapM_eq_ok fun _ _ => pixel_eq_ok hb

/-- The color of a series and its points on the grid, if they are inside of the chart. -/
def line (style : Style) (c : Chart) (s : Series) : Except Fault (Color × List Point) := do
  return (style.theme.status s.status, ← c.pixels s)

theorem mapM_line_eq_ok (hb : c.bounds = .ok bounds) {lines : List (Color × List Point)} :
    c.series.mapM (c.line style) = .ok lines ↔
      (∀ s ∈ c.series, ∀ p ∈ s.points, p.inside = true) ∧ c.lines style = lines := by
  refine Except.mapM_eq_ok fun s l => ?_
  rw [line, Except.bind_eq_ok]
  constructor
  · rintro ⟨points, hpoints, hl⟩
    obtain ⟨hinside, rfl⟩ := (pixels_eq_ok hb).mp hpoints
    exact ⟨hinside, Except.ok.inj hl⟩
  · rintro ⟨hinside, rfl⟩
    exact ⟨_, (pixels_eq_ok hb).mpr ⟨hinside, rfl⟩, rfl⟩

/-- The callout of a chart that has one. -/
def calloutSketch (style : Style) (c : Chart) (bounds : Rect) : Sketch Unit :=
  match c.annotation with
  | none => Trace.done ()
  | some a => (Trace.check (a.layout bounds)).andThen fun layout =>
    Trace.steps (callout style a layout)

/-- A chart in its parts: the container, the lines of all series, their markers, their captions
and the callout. -/
theorem sketch_eq (style : Style) (c : Chart) : c.sketch style =
    (Trace.check c.bounds).andThen fun bounds =>
      (Trace.steps [.box bounds cornerRadius style.theme.surfaceAlt style.theme.border]).andThen
        fun _ => (Trace.check (c.series.mapM (c.line style))).andThen fun lines =>
      (Trace.steps (lines.flatMap fun l => segments l.1 l.2)).andThen fun _ =>
      (Trace.all (lines.map fun l => markers l.1 l.2)).andThen fun _ =>
      (Trace.steps (c.series.mapIdx (caption style c))).andThen fun _ =>
      c.calloutSketch style bounds := by
  -- the points of a series are placed before anything else is done with it
  have hline : (fun s => do return (style.theme.status s.status, ← c.pixels s)) =
      fun s => (Trace.check (c.line style s) : Sketch _) := by
    funext s
    unfold line
    cases c.pixels s with
    | error e => rfl
    | ok points => rfl
  unfold sketch
  rw [hline, Trace.mapM_check]
  rfl

/-! ### Segments and markers -/

/-- A segment of a line runs from one of its points to the next. -/
theorem mem_segments {color : Color} {points : List Point} {p : Primitive}
    (h : p ∈ segments color points) :
    ∃ start ∈ points, ∃ stop ∈ points, p = .line start stop color seriesWidth := by
  induction points with
  | nil => cases h
  | cons a rest ih =>
    cases rest with
    | nil => cases h
    | cons b rest =>
      rcases List.mem_cons.mp h with rfl | h
      · exact ⟨a, List.mem_cons_self, b, by simp, rfl⟩
      · obtain ⟨start, hstart, stop, hstop, rfl⟩ := ih h
        exact ⟨start, List.mem_cons_of_mem a hstart, stop, List.mem_cons_of_mem a hstop, rfl⟩

/-- Below and to the right of a marker's middle there have to be five pixels; where there are less
to the left or above, the marker is moved. -/
theorem fits_marker {q : Point} : Rect.Fits (q.x.shift (-5)) (q.y.shift (-5)) 10 10 ↔
    q.x.val ≤ Pixel.greatest - 5 ∧ q.y.val ≤ Pixel.greatest - 5 := by
  have hten : (10 : Pixel).val = 10 := rfl
  simp only [Rect.Fits, Pixel.shift_val, hten, Pixel.greatest]
  omega

theorem marker_eq_ok {color : Color} {q : Point} {m : Primitive} : marker color q = .ok m ↔
    (q.x.val ≤ Pixel.greatest - 5 ∧ q.y.val ≤ Pixel.greatest - 5) ∧
      ∃ r : Rect, (r.x = q.x.shift (-5) ∧ r.y = q.y.shift (-5) ∧ r.width = 10 ∧ r.height = 10) ∧
        m = .ellipse r color := by
  show (Rect.ofSize (q.x.shift (-5)) (q.y.shift (-5)) 10 10 >>= _) = _ ↔ _
  rw [Except.bind_eq_ok, ← fits_marker]
  constructor
  · rintro ⟨r, hr, hm⟩
    obtain ⟨h, hxywh⟩ := Rect.ofSize_eq_ok.mp hr
    exact ⟨h, r, hxywh, (Except.ok.inj hm).symm⟩
  · rintro ⟨h, r, hxywh, rfl⟩
    exact ⟨r, Rect.ofSize_eq_ok.mpr ⟨h, hxywh⟩, rfl⟩

theorem exists_marker_eq_ok {color : Color} {q : Point} : (∃ m, marker color q = .ok m) ↔
    q.x.val ≤ Pixel.greatest - 5 ∧ q.y.val ≤ Pixel.greatest - 5 := by
  constructor
  · rintro ⟨m, hm⟩
    exact (marker_eq_ok.mp hm).1
  · intro h
    obtain ⟨r, hr⟩ := Rect.exists_ofSize_eq_ok.mpr (fits_marker.mpr h)
    exact ⟨.ellipse r color, marker_eq_ok.mpr ⟨h, r, (Rect.ofSize_eq_ok.mp hr).2, rfl⟩⟩

theorem outcome_markers_eq_ok {color : Color} {points : List Point} :
    (markers color points).outcome = .ok () ↔
      ∀ q ∈ points, q.x.val ≤ Pixel.greatest - 5 ∧ q.y.val ≤ Pixel.greatest - 5 := by
  rw [markers, Trace.outcome_all_eq_ok, List.forall_mem_map]
  refine forall₂_congr fun q _ => ?_
  show ((Trace.check (marker color q)).andThen Trace.step).outcome = .ok () ↔ _
  rw [Trace.outcome_check_andThen_eq_ok, ← exists_marker_eq_ok]
  exact exists_congr fun m => and_iff_left rfl

theorem forall_items_markers {P : Primitive → Prop} {color : Color} {points : List Point}
    (h : (markers color points).outcome = .ok ()) : (∀ p ∈ (markers color points).items, P p) ↔
      ∀ q ∈ points, ∀ p, marker color q = .ok p → P p := by
  unfold markers at h ⊢
  rw [Trace.forall_items_all h, List.forall_mem_map]
  refine forall₂_congr fun q _ => ?_
  show (∀ p ∈ ((Trace.check (marker color q)).andThen Trace.step).items, P p) ↔ _
  rw [Trace.forall_items_check_andThen]
  exact forall₂_congr fun p _ => List.forall_mem_singleton

end Chart

/-! ### Callouts -/

/-- To the right of an anchor there have to be 220 pixels, and 30 below. -/
theorem Callout.fits_frame {q : Point} :
    Rect.Fits (q.x.shift (-170)) (q.y.shift (-120)) 390 150 ↔
      q.x.val ≤ Pixel.greatest - 220 ∧ q.y.val ≤ Pixel.greatest - 30 := by
  have hwidth : (390 : Pixel).val = 390 := rfl
  have hheight : (150 : Pixel).val = 150 := rfl
  simp only [Rect.Fits, Pixel.shift_val, hwidth, hheight, Pixel.greatest]
  omega

theorem Callout.around_eq_ok {q : Point} {l : Callout} : around q = .ok l ↔
    (q.x.val ≤ Pixel.greatest - 220 ∧ q.y.val ≤ Pixel.greatest - 30) ∧
      ∃ r : Rect, (r.x = q.x.shift (-170) ∧ r.y = q.y.shift (-120) ∧ r.width = 390 ∧
          r.height = 150) ∧
        l = ⟨q, r, q.offset (-150) (-94), q.offset (-150) (-54), q.offset (-30) (-8),
          q.offset 10 18⟩ := by
  show (Rect.ofSize (q.x.shift (-170)) (q.y.shift (-120)) 390 150 >>= _) = _ ↔ _
  rw [Except.bind_eq_ok, ← fits_frame]
  constructor
  · rintro ⟨r, hr, hl⟩
    obtain ⟨h, hxywh⟩ := Rect.ofSize_eq_ok.mp hr
    exact ⟨h, r, hxywh, (Except.ok.inj hl).symm⟩
  · rintro ⟨h, r, hxywh, rfl⟩
    exact ⟨r, Rect.ofSize_eq_ok.mpr ⟨h, hxywh⟩, rfl⟩

theorem Callout.exists_around_eq_ok {q : Point} : (∃ l, around q = .ok l) ↔
    q.x.val ≤ Pixel.greatest - 220 ∧ q.y.val ≤ Pixel.greatest - 30 := by
  constructor
  · rintro ⟨l, hl⟩
    exact (around_eq_ok.mp hl).1
  · intro h
    obtain ⟨r, hr⟩ := Rect.exists_ofSize_eq_ok.mpr (fits_frame.mpr h)
    exact ⟨_, around_eq_ok.mpr ⟨h, r, (Rect.ofSize_eq_ok.mp hr).2, rfl⟩⟩

theorem Chart.layout_eq_ok {c : Chart} {bounds : Rect} (hb : c.bounds = .ok bounds)
    {a : Annotation} {l : Callout} : a.layout bounds = .ok l ↔
      a.anchor.inside = true ∧ Callout.around (c.place a.anchor) = .ok l := by
  unfold Annotation.layout
  rw [Except.bind_eq_ok]
  constructor
  · rintro ⟨q, hq, hl⟩
    obtain ⟨hinside, rfl⟩ := (Chart.pixel_eq_ok hb).mp hq
    exact ⟨hinside, hl⟩
  · rintro ⟨hinside, hl⟩
    exact ⟨_, (Chart.pixel_eq_ok hb).mpr ⟨hinside, rfl⟩, hl⟩

/-! ### When primitives are refused -/

/-- A rectangle is refused for its radius, and if it has an outline, then also for the width of
that. -/
theorem Primitive.fault?_roundedRect_eq_none_iff {bounds : Rect} {radius width : Float}
    {fill outline : Option Color} :
    (roundedRect bounds radius fill outline width).fault? = none ↔
      (¬ radius < 0 ∧ radius.isFinite = true) ∧ (outline.isSome = true → ¬ width ≤ 0) := by
  rw [fault?, ← Bool.not_eq_false radius.isFinite, ← not_or, ← not_and]
  by_cases hradius : radius < 0 ∨ radius.isFinite = false
  · rw [if_pos hradius]
    exact ⟨fun h => (by cases h), fun h => absurd hradius h.1⟩
  · rw [if_neg hradius]
    by_cases hwidth : outline.isSome = true ∧ width ≤ 0
    · rw [if_pos hwidth]
      exact ⟨fun h => (by cases h), fun h => absurd hwidth h.2⟩
    · rw [if_neg hwidth]
      exact ⟨fun _ => ⟨hradius, hwidth⟩, fun _ => rfl⟩

/-- A rectangle with the usual outline is refused for its radius only. -/
theorem Primitive.fault?_roundedRect_eq_none {bounds : Rect} {radius : Float}
    {fill outline : Option Color} :
    (roundedRect bounds radius fill outline outlineWidth).fault? = none ↔
      ¬ radius < 0 ∧ radius.isFinite = true := by
  have hwidth : ¬ outlineWidth ≤ 0 := by decide +kernel
  rw [fault?_roundedRect_eq_none_iff]
  exact and_iff_left fun _ => hwidth

/-- The shaft of an arrow has a width, and its head three corners. -/
theorem Style.fault?_of_mem_arrow {style : Style} {start stop : Point} {status : Status}
    {p : Primitive} (h : p ∈ style.arrow start stop status) : p.fault? = none := by
  have hshaft : ¬ Float.ofInt Shape.shaftWidth ≤ 0 := by decide +kernel
  rcases List.mem_cons.mp h with rfl | h
  · rw [Primitive.fault?, if_neg hshaft]
  · obtain rfl := List.mem_singleton.mp h
    rfl

/-! ### The whole chart -/

namespace Chart

variable {style : Style} {c : Chart} {bounds : Rect}

theorem exists_bounds_of_outcome (hok : (c.sketch style).outcome = .ok ()) :
    ∃ bounds, c.bounds = .ok bounds := by
  rw [sketch_eq, Trace.outcome_check_andThen_eq_ok] at hok
  obtain ⟨bounds, hb, -⟩ := hok
  exact ⟨bounds, hb⟩

theorem outcome_all_markers_eq_ok {lines : List (Color × List Point)} :
    (Trace.all (lines.map fun l => markers l.1 l.2)).outcome = .ok () ↔
      ∀ l ∈ lines, ∀ q ∈ l.2, q.x.val ≤ Pixel.greatest - 5 ∧ q.y.val ≤ Pixel.greatest - 5 := by
  rw [Trace.outcome_all_eq_ok, List.forall_mem_map]
  exact forall₂_congr fun l _ => outcome_markers_eq_ok

theorem outcome_calloutSketch_eq_ok : (c.calloutSketch style bounds).outcome = .ok () ↔
    ∀ a ∈ c.annotation, ∃ l, a.layout bounds = .ok l := by
  unfold calloutSketch
  cases c.annotation with
  | none => exact ⟨fun _ a ha => (by cases ha), fun _ => rfl⟩
  | some a =>
    rw [Trace.outcome_check_andThen_eq_ok]
    constructor
    · rintro ⟨l, hl, -⟩ a' ha
      cases ha
      exact ⟨l, hl⟩
    · intro h
      obtain ⟨l, hl⟩ := h a rfl
      exact ⟨l, hl, rfl⟩

/-- The container is drawn first; what can go wrong after it is a point outside of the chart, or a
marker or a callout that leaves the grid. -/
theorem outcome_sketch_eq_ok (hb : c.bounds = .ok bounds) : (c.sketch style).outcome = .ok () ↔
    (∀ s ∈ c.series, ∀ p ∈ s.points, p.inside = true) ∧
    (∀ l ∈ c.lines style, ∀ q ∈ l.2,
      q.x.val ≤ Pixel.greatest - 5 ∧ q.y.val ≤ Pixel.greatest - 5) ∧
    ∀ a ∈ c.annotation, ∃ l, a.layout bounds = .ok l := by
  rw [sketch_eq, hb, Trace.check_ok_andThen, Trace.outcome_steps_andThen,
    Trace.outcome_check_andThen_eq_ok]
  simp only [mapM_line_eq_ok hb, Trace.outcome_steps_andThen, Trace.outcome_andThen_eq_ok,
    outcome_calloutSketch_eq_ok]
  constructor
  · rintro ⟨_, ⟨hinside, rfl⟩, _, hroom, hlast⟩
    exact ⟨hinside, outcome_all_markers_eq_ok.mp hroom, hlast⟩
  · rintro ⟨hinside, hroom, hlast⟩
    exact ⟨_, ⟨hinside, rfl⟩, (), outcome_all_markers_eq_ok.mpr hroom, hlast⟩

theorem forall_items_calloutSketch {P : Primitive → Prop} :
    (∀ p ∈ (c.calloutSketch style bounds).items, P p) ↔
      ∀ a ∈ c.annotation, ∀ l, a.layout bounds = .ok l → ∀ p ∈ callout style a l, P p := by
  unfold calloutSketch
  cases c.annotation with
  | none => exact ⟨fun _ a ha => (by cases ha), fun _ => List.forall_mem_nil _⟩
  | some a =>
    rw [Trace.forall_items_check_andThen]
    constructor
    · intro h a' ha
      cases ha
      exact h
    · exact fun h => h a rfl

/-- What holds of all primitives of a chart that can be drawn. -/
theorem forall_items_sketch {P : Primitive → Prop} (hb : c.bounds = .ok bounds)
    (hok : (c.sketch style).outcome = .ok ()) : (∀ p ∈ (c.sketch style).items, P p) ↔
      P (.box bounds cornerRadius style.theme.surfaceAlt style.theme.border) ∧
      (∀ l ∈ c.lines style, ∀ p ∈ segments l.1 l.2, P p) ∧
      (∀ l ∈ c.lines style, ∀ q ∈ l.2, ∀ p, marker l.1 q = .ok p → P p) ∧
      (∀ p ∈ c.series.mapIdx (caption style c), P p) ∧
      ∀ a ∈ c.annotation, ∀ l, a.layout bounds = .ok l → ∀ p ∈ callout style a l, P p := by
  obtain ⟨hinside, hroom, -⟩ := (outcome_sketch_eq_ok hb).mp hok
  have hlines : c.series.mapM (c.line style) = .ok (c.lines style) :=
    (mapM_line_eq_ok hb).mpr ⟨hinside, rfl⟩
  have hmarkers : (Trace.all ((c.lines style).map fun l => markers l.1 l.2)).outcome = .ok () :=
    outcome_all_markers_eq_ok.mpr hroom
  have heach : ∀ l ∈ c.lines style, (∀ p ∈ (markers l.1 l.2).items, P p) ↔
      ∀ q ∈ l.2, ∀ p, marker l.1 q = .ok p → P p :=
    fun l hl => forall_items_markers (outcome_markers_eq_ok.mpr (hroom l hl))
  rw [sketch_eq, hb, hlines]
  simp only [Trace.check_ok_andThen, Trace.forall_items_steps_andThen]
  rw [Trace.andThen_of_ok hmarkers, List.forall_mem_append, Trace.forall_items_all hmarkers,
    List.forall_mem_map, Trace.forall_items_steps_andThen, forall_items_calloutSketch,
    List.forall_mem_singleton, List.forall_mem_flatMap, forall₂_congr heach]

end Chart

/-! ### The other shapes -/

namespace Shape

variable {style : Style}

theorem sketch_panel (x y w h : Pixel) (title : Option String) :
    (panel x y w h title).sketch style =
      (Trace.check (Rect.ofSize x y w h)).andThen fun bounds =>
        Trace.steps (.box bounds panelRadius style.theme.surface style.theme.border ::
          (title.map fun t => style.label bounds.titleOrigin t .heading).toList) := by
  cases title with
  | none => rfl
  | some t => rfl

theorem sketch_bullet (x y : Pixel) (label : String) (status : Status) :
    (bullet x y label status).sketch style =
      (Trace.check (dot x y)).andThen fun bounds =>
        Trace.steps [.ellipse bounds (style.theme.status status),
          style.label (labelOrigin x y) label .body] := rfl

theorem sketch_block (x y w h : Pixel) (radius : Float) (fill : Tone) (outline : Option Tone) :
    (block x y w h radius fill outline).sketch style =
      (Trace.check (Rect.ofSize x y w h)).andThen fun bounds =>
        Trace.steps [.roundedRect bounds radius (some (style.theme.color fill))
          (outline.map style.theme.color) outlineWidth] := rfl

theorem sketch_chart (c : Chart) : (chart c).sketch style = c.sketch style := rfl

end Shape

end Placard
