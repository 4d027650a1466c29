/-
Placard/Proofs/Painted.lean

Whether a shape stays inside of its extent.

The extent of a shape is compared with the canvas before the shape is drawn, but it is computed
apart from the drawing.  `Shape.Roomy` says what it takes for a shape to be drawn inside of its
extent, and `Shape.painted_inside_extent_iff` that it takes exactly this.  The titles of small
panels, and the markers, lines and captions of charts near an edge are not inside.
-/
import Placard.Proofs.Extent
import Placard.Proofs.Inside

namespace Placard

/-! ### Room inside of the extent -/

/-- What it takes for a chart to be drawn inside of its extent `r`.  Near the least coordinate of
the grid markers and callouts are moved, and the pointer of a callout leaves the grid. -/
structure Chart.Roomy (c : Chart) (r : Rect) : Prop where
  container : c.x.val + c.w.val ≤ r.right ∧ c.y.val + c.h.val ≤ r.bottom
  lines : ∀ s ∈ c.series, 1 < s.points.length → ∀ p ∈ s.points,
    r.Surrounds (c.place p).x.val (c.place p).y.val 3
  markers : ∀ s ∈ c.series, ∀ p ∈ s.points, r.Surrounds (max (c.place p).x.val (Pixel.least + 5))
    (max (c.place p).y.val (Pixel.least + 5)) 5
  captions : c.series ≠ [] → c.x.val + 30 < r.right ∧
    c.y.val + 18 + Chart.captionSpacing * ((c.series.length : Int) - 1) < r.bottom
  frame : ∀ a ∈ c.annotation, max (c.place a.anchor).x.val (Pixel.least + 170) + 220 ≤ r.right ∧
    max (c.place a.anchor).y.val (Pixel.least + 120) + 30 ≤ r.bottom
  pointer : ∀ a ∈ c.annotation, Pixel.least + 32 ≤ (c.place a.anchor).x.val ∧
    Pixel.least + 10 ≤ (c.place a.anchor).y.val

namespace Chart

variable {style : Style} {c : Chart} {r : Rect}

/-- A property of all segments of a line that is one of their ends. -/
theorem forall_segments {P : Primitive → Prop} {D : Point → Prop} {color : Color}
    {points : List Point} (h : ∀ a b, P (.line a b color seriesWidth) ↔ D a ∧ D b) :
    (∀ p ∈ segments color points, P p) ↔ (1 < points.length → ∀ q ∈ points, D q) := by
  induction points with
  | nil => exact ⟨fun _ _ => List.forall_mem_nil D, fun _ => List.forall_mem_nil P⟩
  | cons a rest ih =>
    cases rest with
    | nil => exact ⟨fun _ hlen => absurd hlen (by simp), fun _ => List.forall_mem_nil P⟩
    | cons b rest =>
      rw [segments, List.forall_mem_cons, h a b, ih]
      have hlen : 1 < (a :: b :: rest).length := by simp
      constructor
      · rintro ⟨⟨ha, hb⟩, hrest⟩ - q hq
        rcases List.mem_cons.mp hq with rfl | hq
        · exact ha
        · rcases List.mem_cons.mp hq with rfl | hlast
          · exact hb
          · refine hrest ?_ q hq
            have := List.length_pos_of_mem hlast
            rw [List.length_cons]
            omega
      · intro hall
        have hall := List.forall_mem_cons.mp (hall hlen)
        exact ⟨⟨hall.1, hall.2 b List.mem_cons_self⟩, fun _ => hall.2⟩

theorem inside_segments_iff {color : Color} {points : List Point} :
    (∀ p ∈ segments color points, p.Inside r) ↔
      (1 < points.length → ∀ q ∈ points, r.Surrounds q.x.val q.y.val 3) := by
  refine forall_segments fun a b => ?_
  rw [Primitive.Inside, Rect.hasDisc_seriesWidth, Rect.hasDisc_seriesWidth]

theorem inside_marker_iff {color : Color} {q : Point} {p : Primitive}
    (h : marker color q = .ok p) : p.Inside r ↔
      r.Surrounds (max q.x.val (Pixel.least + 5)) (max q.y.val (Pixel.least + 5)) 5 := by
  obtain ⟨⟨hx, hy⟩, m, ⟨hmx, hmy, hmw, hmh⟩, rfl⟩ := marker_eq_ok.mp h
  rw [Primitive.Inside, Rect.contains_iff, Rect.Surrounds]
  have hleft : m.x.val = max (-2147483648) (min (q.x.val + -5) 2147483647) := by
    rw [hmx, Pixel.shift_val]
  have htop : m.y.val = max (-2147483648) (min (q.y.val + -5) 2147483647) := by
    rw [hmy, Pixel.shift_val]
  unfold Rect.right Rect.bottom
  unfold Pixel.greatest at hx hy
  unfold Pixel.least
  omega

/-- The caption of series number `i` starts `34 * i` pixels below the first one, or so far below that
no extent reaches it. -/
theorem hasPixel_captionOrigin_iff (hx : r.x.val ≤ c.x.val) (hy : r.y.val ≤ c.y.val)
    (hh : r.height ≤ Pixel.greatest) (i : Nat) : r.HasPixel (c.captionOrigin i) ↔
      c.x.val + 30 < r.right ∧ c.y.val + 18 + captionSpacing * (i : Int) < r.bottom := by
  have hox : (c.captionOrigin i).x = (c.x.shift 30).shift 0 := rfl
  have hoy : (c.captionOrigin i).y =
      (c.y.shift 18).shift (Pixel.clamp (captionSpacing * (Pixel.clamp i).val)).val := rfl
  have := r.right_le
  have := r.bottom_le
  have := c.x.least_le
  have := c.y.least_le
  rw [Rect.HasPixel, hox, hoy]
  simp only [Pixel.shift_val, Pixel.clamp_val, captionSpacing, Rect.right, Rect.bottom]
  unfold Pixel.greatest at hh
  -- where the row is cut off neither side holds, since `r` is not that high
  omega

theorem inside_captions_iff (hx : r.x.val ≤ c.x.val) (hy : r.y.val ≤ c.y.val)
    (hh : r.height ≤ Pixel.greatest) : (∀ p ∈ c.series.mapIdx (caption style c), p.Inside r) ↔
      (c.series ≠ [] → c.x.val + 30 < r.right ∧
        c.y.val + 18 + captionSpacing * ((c.series.length : Int) - 1) < r.bottom) := by
  have heach : (∀ p ∈ c.series.mapIdx (caption style c), p.Inside r) ↔
      ∀ i < c.series.length, r.HasPixel (c.captionOrigin i) := by
    constructor
    · intro h i hi
      exact h _ (List.mem_mapIdx.mpr ⟨i, hi, rfl⟩)
    · intro h p hp
      obtain ⟨i, hi, rfl⟩ := List.mem_mapIdx.mp hp
      exact h i hi
  rw [heach]
  constructor
  · intro h hne
    have hpos : 0 < c.series.length := List.length_pos_iff.mpr hne
    have hlast := (hasPixel_captionOrigin_iff hx hy hh _).mp (h (c.series.length - 1) (by omega))
    have hcast : ((c.series.length - 1 : Nat) : Int) = (c.series.length : Int) - 1 := by omega
    rwa [hcast] at hlast
  · -- the captions above the last one are inside if that one is
    intro h i hi
    have hpos : 0 < c.series.length := by omega
    have hlast := h (List.length_pos_iff.mp hpos)
    unfold captionSpacing at hlast
    refine (hasPixel_captionOrigin_iff hx hy hh i).mpr ⟨hlast.1, ?_⟩
    unfold captionSpacing
    omega

/-- If the frame of a callout is inside, then so are its lines of text. -/
theorem hasPixel_of_frame {q : Point} {f : Rect} (hf : f.x = q.x.shift (-170) ∧
    f.y = q.y.shift (-120) ∧ f.width = 390 ∧ f.height = 150) (hr : r.contains f = true)
    {dx dy : Int} (hdx : -170 ≤ dx ∧ dx ≤ 0) (hdy : -120 ≤ dy ∧ dy ≤ 0) :
    r.HasPixel (q.offset dx dy) := by
  have hsides := Rect.contains_iff.mp hr
  have := q.x.least_le
  have := q.x.le_greatest
  have := q.y.least_le
  have := q.y.le_greatest
  rw [Rect.right, Rect.bottom, hf.1, hf.2.1, hf.2.2.1, hf.2.2.2, Pixel.shift_val,
    Pixel.shift_val] at hsides
  rw [Rect.HasPixel, Point.offset_x, Point.offset_y, Pixel.shift_val, Pixel.shift_val]
  omega

/-- If the frame of a callout is inside, then so is the pointer unless it is cut off where the grid
begins. -/
theorem inside_pointer_iff {q : Point} {f : Rect} {status : Status}
    (hf : f.x = q.x.shift (-170) ∧ f.y = q.y.shift (-120) ∧ f.width = 390 ∧ f.height = 150)
    (hqx : q.x.val ≤ Pixel.greatest - 220) (hqy : q.y.val ≤ Pixel.greatest - 30)
    (hr : r.contains f = true) :
    (∀ p ∈ style.arrow (q.offset (-30) (-8)) (q.offset 10 18) status, p.Inside r) ↔
      Pixel.least + 32 ≤ q.x.val ∧ Pixel.least + 10 ≤ q.y.val := by
  have hsides := Rect.contains_iff.mp hr
  have := q.x.least_le
  have := q.y.least_le
  have := r.x.least_le
  have := r.y.least_le
  rw [Rect.right, Rect.bottom, hf.1, hf.2.1, hf.2.2.1, hf.2.2.2, Pixel.shift_val,
    Pixel.shift_val] at hsides
  unfold Pixel.greatest at hqx hqy
  -- the start of the shaft can be cut off, and then there is no room for half of its width
  have hshaft : (r.Surrounds (q.x.shift (-30)).val (q.y.shift (-8)).val 2 ∧
      r.Surrounds (q.x.shift 10).val (q.y.shift 18).val 2) ↔
      Pixel.least + 32 ≤ q.x.val ∧ Pixel.least + 10 ≤ q.y.val := by
    simp only [Rect.Surrounds, Pixel.shift_val, Pixel.least]
    omega
  -- the pointer goes to the right, so that its head is to the left of the tip
  have hhead : ∀ p ∈ (Arrowhead.ofEnds (q.offset (-30) (-8)) (q.offset 10 18)).corners,
      r.HasPoint p := by
    have hcolumns : (q.x.shift (-30)).val ≤ (q.x.shift 10).val := by
      rw [Pixel.shift_val, Pixel.shift_val]
      omega
    have hcorners : (Arrowhead.ofEnds (q.offset (-30) (-8)) (q.offset 10 18)).corners =
        [q.offset 10 18, (q.offset 10 18).offset (-14) (-8), (q.offset 10 18).offset (-14) 8] := by
      show [_, (q.offset 10 18).offset (Heading.ofColumns (q.x.shift (-30)) (q.x.shift 10)).back _,
        (q.offset 10 18).offset (Heading.ofColumns (q.x.shift (-30)) (q.x.shift 10)).back _] = _
      rw [Heading.ofColumns, if_pos hcolumns]
      rfl
    rw [hcorners, List.forall_mem_cons, List.forall_mem_cons, List.forall_mem_singleton]
    simp only [Rect.HasPoint, Point.offset_x, Point.offset_y, Pixel.shift_val]
    omega
  rw [Style.inside_arrow_iff]
  exact (and_iff_left hhead).trans hshaft

/-- If the frame of a callout is inside, then so is everything in it but perhaps the pointer. -/
theorem inside_callout_iff {q : Point} {l : Callout} {a : Annotation}
    (hl : Callout.around q = .ok l) (hx : r.x.val ≤ l.frame.x.val) (hy : r.y.val ≤ l.frame.y.val) :
    (∀ p ∈ callout style a l, p.Inside r) ↔
      (max q.x.val (Pixel.least + 170) + 220 ≤ r.right ∧
        max q.y.val (Pixel.least + 120) + 30 ≤ r.bottom) ∧
      Pixel.least + 32 ≤ q.x.val ∧ Pixel.least + 10 ≤ q.y.val := by
  obtain ⟨⟨hqx, hqy⟩, f, hf, rfl⟩ := Callout.around_eq_ok.mp hl
  have hsides : r.contains f = true ↔ max q.x.val (Pixel.least + 170) + 220 ≤ r.right ∧
      max q.y.val (Pixel.least + 120) + 30 ≤ r.bottom := by
    change r.x.val ≤ f.x.val at hx
    change r.y.val ≤ f.y.val at hy
    have hright : f.right = max q.x.val (Pixel.least + 170) + 220 := by
      rw [Rect.right, hf.1, hf.2.2.1, Pixel.shift_val]
      unfold Pixel.greatest at hqx
      unfold Pixel.least
      omega
    have hbottom : f.bottom = max q.y.val (Pixel.least + 120) + 30 := by
      rw [Rect.bottom, hf.2.1, hf.2.2.2, Pixel.shift_val]
      unfold Pixel.greatest at hqy
      unfold Pixel.least
      omega
    rw [Rect.contains_iff, hright, hbottom]
    exact ⟨fun h => h.2.2, fun h => ⟨hx, hy, h⟩⟩
  have hpointer := fun hframe => @inside_pointer_iff style r q f a.status hf hqx hqy hframe
  rw [← hsides]
  constructor
  · intro h
    have hframe : r.contains f = true := h _ List.mem_cons_self
    refine ⟨hframe, (hpointer hframe).mp fun p hp => ?_⟩
    exact h p (List.mem_append_right _ hp)
  · rintro ⟨hframe, hanchor⟩ p hp
    rcases List.mem_append.mp hp with hp | hp
    · rcases List.mem_cons.mp hp with rfl | hp
      · exact hframe
      · rcases List.mem_cons.mp hp with rfl | hp
        · exact hasPixel_of_frame hf hframe (by omega) (by omega)
        · obtain rfl := List.mem_singleton.mp hp
          exact hasPixel_of_frame hf hframe (by omega) (by omega)
    · exact (hpointer hframe).mpr hanchor p hp

/-- The extent of a chart begins where its rectangle and its callout do, or before. -/
theorem extent_le {bounds : Rect} (hb : c.bounds = .ok bounds)
    (hlayout : ∀ a ∈ c.annotation, ∃ l, a.layout bounds = .ok l)
    (hr : (Shape.chart c).extent? = some r) :
    (r.x.val ≤ bounds.x.val ∧ r.y.val ≤ bounds.y.val) ∧ r.height ≤ Pixel.greatest ∧
    ∀ a ∈ c.annotation, ∀ l, a.layout bounds = .ok l →
      r.x.val ≤ l.frame.x.val ∧ r.y.val ≤ l.frame.y.val := by
  cases ha : c.annotation with
  | none =>
    rw [Shape.extent?_chart_of_none hb ha] at hr
    obtain rfl := Option.some.inj hr
    obtain ⟨-, -, -, -, hh⟩ := Rect.ofSize_eq_ok.mp hb
    refine ⟨⟨Int.le_refl _, Int.le_refl _⟩, ?_, fun a ha => (by cases ha)⟩
    rw [hh]
    exact c.h.le_greatest
  | some a =>
    obtain ⟨l, hl⟩ := hlayout a ha
    rw [Shape.extent?_chart_of_some hb ha hl] at hr
    obtain rfl := Option.some.inj hr
    rw [Rect.union_x_val, Rect.union_y_val]
    refine ⟨⟨Int.min_le_left _ _, Int.min_le_left _ _⟩, Rect.union_height_le,
      fun a' ha' l' hl' => ?_⟩
    cases ha'
    cases hl.symm.trans hl'
    exact ⟨Int.min_le_right _ _, Int.min_le_right _ _⟩

/-- A chart that is drawn lies in its extent if there is room for it. -/
theorem inside_sketch_iff (hok : (c.sketch style).outcome = .ok ())
    (hr : (Shape.chart c).extent? = some r) :
    (∀ p ∈ (c.sketch style).items, p.Inside r) ↔ c.Roomy r := by
  obtain ⟨bounds, hb⟩ := exists_bounds_of_outcome hok
  obtain ⟨-, hx, hy, hw, hh⟩ := Rect.ofSize_eq_ok.mp hb
  obtain ⟨-, hroom, hlayout⟩ := (outcome_sketch_eq_ok hb).mp hok
  obtain ⟨⟨hrx, hry⟩, hheight, hframe⟩ := extent_le hb hlayout hr
  have hcontainer : (Primitive.box bounds cornerRadius style.theme.surfaceAlt
      style.theme.border).Inside r ↔
      c.x.val + c.w.val ≤ r.right ∧ c.y.val + c.h.val ≤ r.bottom := by
    show r.contains bounds = true ↔ _
    rw [Rect.contains_iff, ← hx, ← hy, ← hw, ← hh]
    exact ⟨fun h => h.2.2, fun h => ⟨hrx, hry, h⟩⟩
  have hlines : (∀ l ∈ c.lines style, ∀ p ∈ segments l.1 l.2, p.Inside r) ↔
      ∀ s ∈ c.series, 1 < s.points.length → ∀ p ∈ s.points,
        r.Surrounds (c.place p).x.val (c.place p).y.val 3 := by
    rw [lines, List.forall_mem_map]
    refine forall₂_congr fun s _ => ?_
    rw [inside_segments_iff, List.length_map, List.forall_mem_map]
  have hmarkers : (∀ l ∈ c.lines style, ∀ q ∈ l.2, ∀ p, marker l.1 q = .ok p → p.Inside r) ↔
      ∀ s ∈ c.series, ∀ p ∈ s.points, r.Surrounds (max (c.place p).x.val (Pixel.least + 5))
        (max (c.place p).y.val (Pixel.least + 5)) 5 := by
    rw [lines, List.forall_mem_map] at hroom ⊢
    refine forall₂_congr fun s hs => ?_
    rw [List.forall_mem_map]
    refine forall₂_congr fun p hp => ?_
    obtain ⟨m, hm⟩ := exists_marker_eq_ok.mpr (hroom s hs _ (List.mem_map_of_mem hp))
    exact ⟨fun h => (inside_marker_iff hm).mp (h m hm), fun h m hm => (inside_marker_iff hm).mpr h⟩
  have hcallout : (∀ a ∈ c.annotation, ∀ l, a.layout bounds = .ok l →
      ∀ p ∈ callout style a l, p.Inside r) ↔ ∀ a ∈ c.annotation,
      (max (c.place a.anchor).x.val (Pixel.least + 170) + 220 ≤ r.right ∧
        max (c.place a.anchor).y.val (Pixel.least + 120) + 30 ≤ r.bottom) ∧
      Pixel.least + 32 ≤ (c.place a.anchor).x.val ∧
      Pixel.least + 10 ≤ (c.place a.anchor).y.val := by
    refine forall₂_congr fun a ha => ?_
    have heach : ∀ l, a.layout bounds = .ok l → ((∀ p ∈ callout style a l, p.Inside r) ↔ _) :=
      fun l hl => inside_callout_iff ((Chart.layout_eq_ok hb).mp hl).2
        (hframe a ha l hl).1 (hframe a ha l hl).2
    obtain ⟨l, hl⟩ := hlayout a ha
    exact ⟨fun h => (heach l hl).mp (h l hl), fun h l hl => (heach l hl).mpr h⟩
  rw [forall_items_sketch hb hok, hcontainer, hlines, hmarkers, hcallout,
    inside_captions_iff (hx ▸ hrx) (hy ▸ hry) hheight]
  constructor
  · rintro ⟨hcontainer, hlines, hmarkers, hcaptions, hcallout⟩
    exact ⟨hcontainer, hlines, hmarkers, hcaptions, fun a ha => (hcallout a ha).1,
      fun a ha => (hcallout a ha).2⟩
  · rintro ⟨hcontainer, hlines, hmarkers, hcaptions, hframe, hpointer⟩
    exact ⟨hcontainer, hlines, hmarkers, hcaptions, fun a ha => ⟨hframe a ha, hpointer a ha⟩⟩

end Chart

/-! ### All shapes -/

/-- What it takes for a shape to be drawn inside of its extent `r`. -/
def Shape.Roomy (r : Rect) : Shape → Prop
  | panel _ _ w h (some _) => 20 < w.val ∧ 14 < h.val
  | arrow x1 y1 x2 y2 _ =>
    ∀ z ∈ [x1, y1, x2, y2], Pixel.least + 2 ≤ z.val ∧ z.val ≤ Pixel.greatest - 2
  | chart c => c.Roomy r
  | panel _ _ _ _ none => True
  | bullet _ _ _ _ => True
  | text _ _ _ _ _ => True
  | block _ _ _ _ _ _ _ => True

namespace Shape

variable {style : Style} {r : Rect}

/-- The title of a panel is inside of the panel unless that is too small. -/
theorem hasPixel_titleOrigin_iff {x y w h : Pixel} (hr : Rect.ofSize x y w h = .ok r) :
    r.HasPixel r.titleOrigin ↔ 20 < w.val ∧ 14 < h.val := by
  obtain ⟨⟨-, -, hfx, hfy⟩, hx, hy, hw, hh⟩ := Rect.ofSize_eq_ok.mp hr
  have hox : r.titleOrigin.x.val = max (-2147483648) (min (x.val + 20) 2147483647) := by
    rw [← hx]
    rfl
  have hoy : r.titleOrigin.y.val = max (-2147483648) (min (y.val + 14) 2147483647) := by
    rw [← hy]
    rfl
  have := x.least_le
  have := y.least_le
  unfold Pixel.greatest at hfx hfy
  rw [Rect.HasPixel, Rect.right, Rect.bottom, hox, hoy, hx, hy, hw, hh]
  omega

/-- The pixel of a text is the only one of its extent. -/
theorem hasPixel_of_cell {p : Point} (hr : cell p = .ok r) : r.HasPixel p := by
  obtain ⟨-, hx, hy, hw, hh⟩ := Rect.ofSize_eq_ok.mp hr
  have hone : (1 : Pixel).val = 1 := rfl
  rw [Rect.HasPixel, Rect.right, Rect.bottom, hx, hy, hw, hh, hone]
  omega

/-- The dot and the label of a bullet are inside of its extent. -/
theorem inside_bullet {x y : Pixel} {label : String} {status : Status} {d : Rect}
    (hd : dot x y = .ok d) (hr : (bullet x y label status).extent? = some r) :
    r.contains d = true ∧ r.HasPixel (labelOrigin x y) := by
  rw [extent?_bullet, hd] at hr
  cases hc : cell (labelOrigin x y) with
  | error e =>
    rw [hc] at hr
    cases hr
  | ok c =>
    rw [hc] at hr
    obtain rfl := Option.some.inj hr
    -- the union is at most 19 by 18 pixels in size, so it is not cut
    have hedges : c.right - d.x.val ≤ 19 ∧ d.right - d.x.val = 10 ∧ d.x.val ≤ c.x.val ∧
        d.bottom - c.y.val ≤ 18 ∧ c.bottom - c.y.val = 1 ∧ c.y.val ≤ d.y.val := by
      obtain ⟨-, hdx, hdy, hdw, hdh⟩ := Rect.ofSize_eq_ok.mp hd
      obtain ⟨-, hcx, hcy, hcw, hch⟩ := Rect.ofSize_eq_ok.mp hc
      have hone : (1 : Pixel).val = 1 := rfl
      have hten : dotSize.val = 10 := rfl
      have hlabel : (labelOrigin x y).x = x.shift 18 ∧ (labelOrigin x y).y = y.shift 0 :=
        ⟨rfl, rfl⟩
      have := x.least_le
      have := x.le_greatest
      have := y.least_le
      have := y.le_greatest
      unfold Rect.right Rect.bottom
      rw [hdx, hdy, hdw, hdh, hcx, hcy, hcw, hch, hone, hten, hlabel.1, hlabel.2, Pixel.shift_val,
        Pixel.shift_val, Pixel.shift_val]
      omega
    obtain ⟨hcell, hdot⟩ : (c.union d).contains c = true ∧ (c.union d).contains d = true :=
      Rect.union_contains_iff.mpr (by unfold Pixel.greatest; omega)
    exact ⟨hdot, (hasPixel_of_cell hc).mono hcell⟩

/-- Whatever lies between two ends lies between the padded ends, and it keeps the padding unless that
was cut off where the grid ends. -/
theorem between_padded {low high : Int} {z : Pixel} (h : low ≤ z.val ∧ z.val ≤ high) :
    ((Pixel.clamp (low - 2)).val ≤ z.val ∧ z.val ≤ (Pixel.clamp (high + 2)).val) ∧
    ((Pixel.clamp (low - 2)).val + 2 ≤ z.val ∧ z.val + 2 ≤ (Pixel.clamp (high + 2)).val ↔
      Pixel.least + 2 ≤ z.val ∧ z.val ≤ Pixel.greatest - 2) := by
  have := z.least_le
  have := z.le_greatest
  rw [Pixel.clamp_val, Pixel.clamp_val]
  unfold Pixel.least Pixel.greatest
  omega

/-- The head of an arrow is inside of its extent, and so is the shaft, away from the edges of the
grid. -/
theorem inside_arrow_iff {x1 y1 x2 y2 : Pixel} {status : Status}
    (hr : (arrow x1 y1 x2 y2 status).extent? = some r) :
    (∀ p ∈ style.arrow ⟨x1, y1⟩ ⟨x2, y2⟩ status, p.Inside r) ↔
      ∀ z ∈ [x1, y1, x2, y2], Pixel.least + 2 ≤ z.val ∧ z.val ≤ Pixel.greatest - 2 := by
  rw [extent?_arrow, Except.toOption_eq_some_iff] at hr
  obtain ⟨hx, hy, hright, hbottom⟩ := Rect.ofSpan_eq_ok hr
  have htip : (Arrowhead.ofEnds ⟨x1, y1⟩ ⟨x2, y2⟩).tip = ⟨x2, y2⟩ := rfl
  rw [Style.inside_arrow_iff]
  generalize Arrowhead.ofEnds ⟨x1, y1⟩ ⟨x2, y2⟩ = head at *
  have hcolumns : ∀ z ∈ [x1, x2, head.upper.x, head.lower.x],
      (r.x.val ≤ z.val ∧ z.val ≤ r.right) ∧ (r.x.val + 2 ≤ z.val ∧ z.val + 2 ≤ r.right ↔
        Pixel.least + 2 ≤ z.val ∧ z.val ≤ Pixel.greatest - 2) := by
    rw [hx, hright]
    simp only [List.forall_mem_cons]
    refine ⟨between_padded ?_, between_padded ?_, between_padded ?_, between_padded ?_,
      List.forall_mem_nil _⟩
    all_goals omega
  have hrows : ∀ z ∈ [y1, y2, head.upper.y, head.lower.y],
      (r.y.val ≤ z.val ∧ z.val ≤ r.bottom) ∧ (r.y.val + 2 ≤ z.val ∧ z.val + 2 ≤ r.bottom ↔
        Pixel.least + 2 ≤ z.val ∧ z.val ≤ Pixel.greatest - 2) := by
    rw [hy, hbottom]
    simp only [List.forall_mem_cons]
    refine ⟨between_padded ?_, between_padded ?_, between_padded ?_, between_padded ?_,
      List.forall_mem_nil _⟩
    all_goals omega
  simp only [List.forall_mem_cons] at hcolumns hrows
  obtain ⟨hx1, hx2, hux, hlx, -⟩ := hcolumns
  obtain ⟨hy1, hy2, huy, hly, -⟩ := hrows
  have hhead : ∀ p ∈ head.corners, r.HasPoint p := by
    rw [Arrowhead.corners, htip, List.forall_mem_cons, List.forall_mem_cons,
      List.forall_mem_singleton]
    exact ⟨⟨hx2.1, hy2.1⟩, ⟨hux.1, huy.1⟩, hlx.1, hly.1⟩
  rw [and_iff_left hhead, Rect.Surrounds, Rect.Surrounds, hx1.2, hy1.2, hx2.2, hy2.2,
    List.forall_mem_cons, List.forall_mem_cons, List.forall_mem_cons, List.forall_mem_singleton]
  exact and_assoc

/-- A shape that is drawn lies in its extent if there is room for it. -/
theorem inside_extent_iff {s : Shape} (hok : (s.sketch style).outcome = .ok ())
    (hr : s.extent? = some r) : (∀ p ∈ (s.sketch style).items, p.Inside r) ↔ s.Roomy r := by
  have hself : r.contains r = true := Rect.contains_iff.mpr (by omega)
  cases s with
  | panel x y w h title =>
    have hbounds : Rect.ofSize x y w h = .ok r := Except.toOption_eq_some_iff.mp hr
    rw [sketch_panel, hbounds, Trace.check_ok_andThen]
    cases title with
    | none => exact ⟨fun _ => trivial, fun _ => List.forall_mem_singleton.mpr hself⟩
    | some title =>
      show (∀ p ∈ [_, style.label r.titleOrigin title .heading], p.Inside r) ↔ _
      rw [List.forall_mem_cons, List.forall_mem_singleton, and_iff_right (by exact hself)]
      exact hasPixel_titleOrigin_iff hbounds
  | block x y w h radius fill outline =>
    have hbounds : Rect.ofSize x y w h = .ok r := Except.toOption_eq_some_iff.mp hr
    rw [sketch_block, hbounds, Trace.check_ok_andThen]
    exact ⟨fun _ => trivial, fun _ => List.forall_mem_singleton.mpr hself⟩
  | bullet x y label status =>
    rw [sketch_bullet, Trace.outcome_check_andThen_eq_ok] at hok
    obtain ⟨d, hd, -⟩ := hok
    obtain ⟨hdot, hlabel⟩ := inside_bullet hd hr
    rw [sketch_bullet, hd, Trace.check_ok_andThen]
    refine ⟨fun _ => trivial, fun _ => ?_⟩
    exact List.forall_mem_cons.mpr ⟨hdot, List.forall_mem_singleton.mpr hlabel⟩
  | arrow x1 y1 x2 y2 status => exact inside_arrow_iff hr
  | text x y words role tone =>
    refine ⟨fun _ => trivial, fun _ => List.forall_mem_singleton.mpr ?_⟩
    exact hasPixel_of_cell (Except.toOption_eq_some_iff.mp hr)
  | chart c => exact Chart.inside_sketch_iff hok hr

theorem leaves_eq_false_iff {s : Shape} (hr : s.extent? = some r) (area : Rect) :
    Diagram.leaves area s = false ↔ area.contains r = true := by
  rw [Diagram.leaves, hr, Option.any_some, Bool.not_eq_false']

/-- **Painting inside of the extent.**  On a device that refuses nothing, a shape that is drawn and
has an extent paints inside of it if the shape is roomy, and only then.  So the list of shapes that
leave a rectangle is complete for roomy shapes: what is not on it paints inside of the rectangle.
Of every other shape there is a rectangle that it leaves unnoticed. -/
theorem painted_inside_extent_iff (style : Style) (backend : Backend) (calls : Array Call)
    {s : Shape} {r : Rect} (hr : s.extent? = some r)
    (hok : (Device.run { backend, calls } (s.draw style)).1 = .ok ()) :
    let device : Device := { backend, calls }
    let painted := Sketch.drawn (s.sketch style)
    (device.run (s.draw style)).2.recording =
      calls.toList ++ painted.flatMap (Primitive.script device.ascentOf) ∧
    ((∀ p ∈ painted, p.Inside r) ↔ s.Roomy r) ∧
    ((∀ area, Diagram.leaves area s = false → ∀ p ∈ painted, p.Inside area) ↔ s.Roomy r) := by
  intro device painted
  have hplan : (s.plan device.ascentOf style).outcome = .ok () :=
    plan_ok_iff_drawable.mpr (run_draw_eq_ok_iff.mp hok)
  have hinside : (∀ p ∈ painted, p.Inside r) ↔ s.Roomy r := by
    show (∀ p ∈ Sketch.drawn (s.sketch style), p.Inside r) ↔ _
    rw [Sketch.drawn_eq_items hplan]
    exact inside_extent_iff (outcome_plan_eq_ok.mp hplan).1 hr
  refine ⟨?_, hinside, ?_⟩
  · rw [(follows_draw style s).run_of_refusing_none rfl, Device.recording_record, plan,
      Sketch.items_expand]
    rfl
  · rw [← hinside]
    constructor
    · intro h
      exact h r ((leaves_eq_false_iff hr r).mpr (Rect.contains_iff.mpr (by omega)))
    · intro h area harea p hp
      exact (h p hp).mono ((leaves_eq_false_iff hr area).mp harea)

/-- A chart with a line, a caption and a callout that has room for them. -/
theorem painted_inside_extent_of_chart :
    let s : Shape := .chart ⟨0, 0, 800, 400, [⟨"load", .ok, [⟨0.25, 0.5⟩, ⟨0.5, 0.25⟩]⟩],
      some ⟨⟨0.5, 0.5⟩, "peak", "at noon", .critical⟩⟩
    let r : Rect := ⟨0, 0, 800, 400, by decide, by decide, by decide, by decide⟩
    s.extent? = some r ∧ (Device.run {} (s.draw .plain)).1 = .ok () ∧
      ∀ p ∈ Sketch.drawn (s.sketch .plain), p.Inside r := by
  intro s r
  have hr : s.extent? = some r := by decide +kernel
  have hok : (Device.run {} (s.draw .plain)).1 = .ok () :=
    run_draw_eq_ok_iff.mpr (by decide +kernel)
  have hroomy : s.Roomy r := ⟨by decide +kernel, by decide +kernel, by decide +kernel,
    by decide +kernel, by decide +kernel, by decide +kernel⟩
  exact ⟨hr, hok, (painted_inside_extent_iff .plain .standIn #[] hr hok).2.1.mpr hroomy⟩

/-- The title of a small panel near the right edge of a canvas starts beyond that edge.  The panel
is drawn, and not listed as leaving the canvas. -/
theorem title_beyond_canvas_unlisted :
    let s : Shape := .panel 90 10 8 8 (some "T")
    let canvas : Rect := ⟨0, 0, 100, 100, by decide, by decide, by decide, by decide⟩
    (Device.run {} (s.draw .plain)).1 = .ok () ∧
      (⟨"small", [s]⟩ : Diagram).outside canvas = [] ∧
      ∃ p ∈ Sketch.drawn (s.sketch .plain), ¬ p.Inside canvas := by
  intro s canvas
  have hdrawable : s.Drawable := by decide
  refine ⟨run_draw_eq_ok_iff.mpr hdrawable, rfl, ?_⟩
  have hplan := (@plan_ok_iff_drawable .plain (Backend.ascentOf .standIn) s).mpr hdrawable
  rw [Sketch.drawn_eq_items hplan]
  refine ⟨Style.plain.label ⟨110, 24⟩ "T" .heading, List.mem_cons_of_mem _ List.mem_cons_self, ?_⟩
  intro h
  exact absurd h.1.2 (by decide)

end Shape

end Placard
