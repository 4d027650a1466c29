/-
Placard/Proofs/Extent.lean

Which shapes have an extent.

A shape without an extent is left out when the shapes that leave a canvas are listed, since it is
taken for a shape that cannot be drawn.  That is right for panels, blocks and charts.  The extent of
a text, of an arrow and of the label of a bullet asks for more room on the grid than their drawing
does: `Shape.Overlooked` says where, and `Shape.drawn_without_extent_iff` that it is there and
nowhere else that a shape is drawn without having an extent.
-/
import Placard.Diagram
import Placard.Proofs.Drawable

namespace Placard

/-! ### Rectangles between two corners -/

theorem Pixel.exists_ofInt?_eq_some {z : Int} (h : 0 ≤ z) :
    (∃ p, ofInt? z = some p) ↔ z ≤ greatest := by
  constructor
  · rintro ⟨p, hp⟩
    rw [← ofInt?_eq_some_iff.mp hp]
    exact p.le_greatest
  · intro hz
    exact ⟨⟨z, by omega, hz⟩, ofInt?_eq_some_iff.mpr rfl⟩

/-- Between two corners, each coordinate of the first one before that of the second, there is a
rectangle unless it is wider or higher than a coordinate can say. -/
theorem Rect.exists_ofSpan_eq_ok {left top right bottom : Pixel} (hx : left.val < right.val)
    (hy : top.val < bottom.val) : (∃ r, ofSpan left top right bottom = .ok r) ↔
      right.val - left.val ≤ Pixel.greatest ∧ bottom.val - top.val ≤ Pixel.greatest := by
  have hwidth := Pixel.exists_ofInt?_eq_some (z := right.val - left.val) (by omega)
  have hheight := Pixel.exists_ofInt?_eq_some (z := bottom.val - top.val) (by omega)
  unfold ofSpan
  constructor
  · rintro ⟨r, hr⟩
    split at hr
    · rename_i w h hw hh
      exact ⟨hwidth.mp ⟨w, hw⟩, hheight.mp ⟨h, hh⟩⟩
    · cases hr
  · rintro ⟨hw, hh⟩
    obtain ⟨w, hw⟩ := hwidth.mpr hw
    obtain ⟨h, hh⟩ := hheight.mpr hh
    rw [hw, hh]
    have hw := Pixel.ofInt?_eq_some_iff.mp hw
    have hh := Pixel.ofInt?_eq_some_iff.mp hh
    have hright : right.val ≤ Pixel.greatest := right.le_greatest
    have hbottom : bottom.val ≤ Pixel.greatest := bottom.le_greatest
    exact exists_ofSize_eq_ok.mpr ⟨by omega, by omega, by omega, by omega⟩

/-- Two numbers with a coordinate between them stay apart when they are padded and cut to the grid:
the coordinate is on the grid, so that at most one of them is cut back to it. -/
theorem Pixel.clamp_sub_lt_clamp_add (p : Pixel) {low high pad : Int} (hpad : 0 < pad)
    (hp : low ≤ p.val ∧ p.val ≤ high) : (clamp (low - pad)).val < (clamp (high + pad)).val := by
  have := p.least_le
  have := p.le_greatest
  rw [clamp_val, clamp_val]
  omega

/-! ### Shapes without an extent -/

/-- From `low` to `high`, with two pixels more on either side as far as the grid goes, is farther
than a coordinate can say. -/
def BeyondSpan (low high : Int) : Prop :=
  Pixel.greatest < (Pixel.clamp (high + 2)).val - (Pixel.clamp (low - 2)).val

instance (low high : Int) : Decidable (BeyondSpan low high) :=
  inferInstanceAs (Decidable (_ < _))

/-- It makes no difference if the lower end was cut off before. -/
theorem Pixel.clamp_min_clamp (p : Pixel) (z : Int) :
    clamp (min p.val (clamp z).val - 2) = clamp (min p.val z - 2) := by
  have := p.le_greatest
  ext
  simp only [Pixel.clamp_val]
  omega

/-- It makes no difference if the upper end was cut off before. -/
theorem Pixel.clamp_max_clamp (p : Pixel) (z : Int) :
    clamp (max p.val (clamp z).val + 2) = clamp (max p.val z + 2) := by
  have := p.least_le
  ext
  simp only [Pixel.clamp_val]
  omega

/-- The farthest that `a`, `b`, `u` and `l` are apart, if `u` and `l` are around `b`. -/
theorem beyondSpan_around {a b u l : Pixel} (back ahead : Int)
    (hlow : min b.val (min u.val l.val) = (Pixel.clamp (b.val - back)).val)
    (hhigh : max b.val (max u.val l.val) = (Pixel.clamp (b.val + ahead)).val) :
    BeyondSpan (min (min (min a.val b.val) u.val) l.val) (max (max (max a.val b.val) u.val) l.val) ↔
      BeyondSpan (min a.val (b.val - back)) (max a.val (b.val + ahead)) := by
  have hmin : min (min (min a.val b.val) u.val) l.val =
      min a.val (Pixel.clamp (b.val - back)).val := by
    rw [← hlow]
    omega
  have hmax : max (max (max a.val b.val) u.val) l.val =
      max a.val (Pixel.clamp (b.val + ahead)).val := by
    rw [← hhigh]
    omega
  rw [BeyondSpan, hmin, hmax, Pixel.clamp_min_clamp, Pixel.clamp_max_clamp]
  rfl

namespace Shape

/-- The shape is drawn although it has no extent: the label of a bullet or a text has no pixel to
its right or below, or an arrow together with its head is longer than a coordinate can say. -/
def Overlooked : Shape → Prop
  | bullet x y _ _ =>
    (Pixel.greatest - 18 ≤ x.val ∧ x.val ≤ Pixel.greatest - 10) ∧ y.val ≤ Pixel.greatest - 18
  | text x y _ _ _ => x.val = Pixel.greatest ∨ y.val = Pixel.greatest
  | arrow x1 y1 x2 y2 _ =>
    (if x1.val ≤ x2.val then BeyondSpan (min x1.val (x2.val - 14)) (max x1.val x2.val)
      else BeyondSpan (min x1.val x2.val) (max x1.val (x2.val + 14))) ∨
    BeyondSpan (min y1.val (y2.val - 8)) (max y1.val (y2.val + 8))
  | panel _ _ _ _ _ => False
  | block _ _ _ _ _ _ _ => False
  | chart _ => False

instance : (s : Shape) → Decidable s.Overlooked
  | bullet x y _ _ => inferInstanceAs (Decidable
      ((Pixel.greatest - 18 ≤ x.val ∧ x.val ≤ Pixel.greatest - 10) ∧
        y.val ≤ Pixel.greatest - 18))
  | text x y _ _ _ =>
    inferInstanceAs (Decidable (x.val = Pixel.greatest ∨ y.val = Pixel.greatest))
  | arrow x1 y1 x2 y2 _ => inferInstanceAs (Decidable
      ((if x1.val ≤ x2.val then BeyondSpan (min x1.val (x2.val - 14)) (max x1.val x2.val)
        else BeyondSpan (min x1.val x2.val) (max x1.val (x2.val + 14))) ∨
      BeyondSpan (min y1.val (y2.val - 8)) (max y1.val (y2.val + 8))))
  | panel _ _ _ _ _ => .isFalse id
  | block _ _ _ _ _ _ _ => .isFalse id
  | chart _ => .isFalse id

theorem fits_cell {x y : Pixel} :
    Rect.Fits x y 1 1 ↔ x.val < Pixel.greatest ∧ y.val < Pixel.greatest := by
  have hone : (1 : Pixel).val = 1 := rfl
  simp only [Rect.Fits, hone]
  omega

theorem extent?_text_eq_none {x y : Pixel} {words : String} {role : Role} {tone : Tone} :
    (text x y words role tone).extent? = none ↔
      x.val = Pixel.greatest ∨ y.val = Pixel.greatest := by
  show (Rect.ofSize x y 1 1).toOption = none ↔ _
  have hx : x.val ≤ Pixel.greatest := x.le_greatest
  have hy : y.val ≤ Pixel.greatest := y.le_greatest
  rw [Except.toOption_eq_none_iff, Rect.exists_ofSize_eq_ok, fits_cell]
  omega

/-- The extent of a bullet covers its dot and the first pixel of its label. -/
theorem extent?_bullet (x y : Pixel) (label : String) (status : Status) :
    (bullet x y label status).extent? = (dot x y).toOption.bind fun d =>
      (cell (labelOrigin x y)).toOption.bind fun c => some (c.union d) := rfl

/-- A bullet has an extent if its dot and the first pixel of its label are on the grid. -/
theorem extent?_bullet_eq_none {x y : Pixel} {label : String} {status : Status} :
    (bullet x y label status).extent? = none ↔
      ¬ (x.val + 10 ≤ Pixel.greatest ∧ y.val + 18 ≤ Pixel.greatest) ∨
        Pixel.greatest - 18 ≤ x.val := by
  have hdot : (dot x y).toOption = none ↔
      ¬ (x.val + 10 ≤ Pixel.greatest ∧ y.val + 18 ≤ Pixel.greatest) := by
    rw [Except.toOption_eq_none_iff, dot, Rect.exists_ofSize_eq_ok, fits_dot]
  have hlabel : (cell (labelOrigin x y)).toOption = none ↔
      ¬ ((x.shift 18).val < Pixel.greatest ∧ (y.shift 0).val < Pixel.greatest) := by
    rw [Except.toOption_eq_none_iff, cell, Rect.exists_ofSize_eq_ok, fits_cell]
    rfl
  have hboth : (bullet x y label status).extent? = none ↔
      (dot x y).toOption = none ∨ (cell (labelOrigin x y)).toOption = none := by
    rw [extent?_bullet]
    cases (dot x y).toOption with
    | none => exact ⟨fun _ => .inl rfl, fun _ => rfl⟩
    | some d =>
      cases (cell (labelOrigin x y)).toOption with
      | none => exact ⟨fun _ => .inr rfl, fun _ => rfl⟩
      | some c =>
        constructor
        · intro h
          cases h
        · rintro (h | h)
          · cases h
          · cases h
  rw [hboth, hdot, hlabel, Pixel.shift_val, Pixel.shift_val]
  unfold Pixel.greatest
  have := x.least_le
  have := y.least_le
  omega

/-- The padded box around some points, `q` among them, is missing only if it is too wide or too
high. -/
theorem box_eq_none {left top right bottom : Int} (q : Point)
    (hx : left ≤ q.x.val ∧ q.x.val ≤ right) (hy : top ≤ q.y.val ∧ q.y.val ≤ bottom) :
    (Rect.ofSpan (Pixel.clamp (left - 2)) (Pixel.clamp (top - 2)) (Pixel.clamp (right + 2))
      (Pixel.clamp (bottom + 2))).toOption = none ↔
      BeyondSpan left right ∨ BeyondSpan top bottom := by
  rw [Except.toOption_eq_none_iff, Rect.exists_ofSpan_eq_ok
    (q.x.clamp_sub_lt_clamp_add (by decide) hx) (q.y.clamp_sub_lt_clamp_add (by decide) hy)]
  unfold BeyondSpan
  omega

/-- The extent of an arrow is the padded box around its ends and the corners of its head. -/
theorem extent?_arrow (x1 y1 x2 y2 : Pixel) (status : Status) :
    let head := Arrowhead.ofEnds ⟨x1, y1⟩ ⟨x2, y2⟩
    (arrow x1 y1 x2 y2 status).extent? = (Rect.ofSpan
      (Pixel.clamp (min (min (min x1.val x2.val) head.upper.x.val) head.lower.x.val - 2))
      (Pixel.clamp (min (min (min y1.val y2.val) head.upper.y.val) head.lower.y.val - 2))
      (Pixel.clamp (max (max (max x1.val x2.val) head.upper.x.val) head.lower.x.val + 2))
      (Pixel.clamp (max (max (max y1.val y2.val) head.upper.y.val) head.lower.y.val + 2))
        ).toOption := rfl

/-- An arrow has an extent unless the box around its start and its head is too wide or too high. -/
theorem extent?_arrow_eq_none {x1 y1 x2 y2 : Pixel} {status : Status} :
    (arrow x1 y1 x2 y2 status).extent? = none ↔ (arrow x1 y1 x2 y2 status).Overlooked := by
  rw [extent?_arrow, box_eq_none ⟨x1, y1⟩ (show _ ≤ x1.val ∧ x1.val ≤ _ by omega)
    (show _ ≤ y1.val ∧ y1.val ≤ _ by omega)]
  generalize hhead : Arrowhead.ofEnds ⟨x1, y1⟩ ⟨x2, y2⟩ = head
  refine or_congr ?_ ?_
  · -- the base of the head is in one column, before or after that of the tip
    have hbase : head.upper.x = x2.shift (Heading.ofColumns x1 x2).back ∧
        head.lower.x = x2.shift (Heading.ofColumns x1 x2).back := by
      rw [← hhead]
      exact ⟨rfl, rfl⟩
    have := x2.least_le
    have := x2.le_greatest
    rw [hbase.1, hbase.2, Heading.ofColumns]
    by_cases h : x1.val ≤ x2.val
    · have hshift : (x2.shift Heading.right.back).val = (Pixel.clamp (x2.val - 14)).val := rfl
      rw [if_pos h, if_pos h]
      rw [Pixel.clamp_val] at hshift
      simpa only [Int.add_zero] using beyondSpan_around 14 0
        (by rw [Pixel.clamp_val]; omega) (by rw [Pixel.clamp_val]; omega)
    · have hshift : (x2.shift Heading.left.back).val = (Pixel.clamp (x2.val + 14)).val := rfl
      rw [if_neg h, if_neg h]
      rw [Pixel.clamp_val] at hshift
      simpa only [Int.sub_zero] using beyondSpan_around 0 14
        (by rw [Pixel.clamp_val]; omega) (by rw [Pixel.clamp_val]; omega)
  · have hrows : head.upper.y = Pixel.clamp (y2.val - 8) ∧
        head.lower.y = Pixel.clamp (y2.val + 8) := by
      rw [← hhead]
      exact ⟨rfl, rfl⟩
    have := y2.least_le
    have := y2.le_greatest
    refine beyondSpan_around 8 8 ?_ ?_
    · rw [hrows.1, hrows.2, Pixel.clamp_val, Pixel.clamp_val]
      omega
    · rw [hrows.1, hrows.2, Pixel.clamp_val, Pixel.clamp_val]
      omega

/-- The extent of a chart without a callout is its rectangle. -/
theorem extent?_chart_of_none {c : Chart} {bounds : Rect} (hb : c.bounds = .ok bounds)
    (ha : c.annotation = none) : (chart c).extent? = some bounds := by
  simp only [extent?, hb, ha]
  rfl

/-- The extent of a chart with a callout covers its rectangle and the frame of the callout. -/
theorem extent?_chart_of_some {c : Chart} {bounds : Rect} {a : Annotation} {l : Callout}
    (hb : c.bounds = .ok bounds) (ha : c.annotation = some a) (hl : a.layout bounds = .ok l) :
    (chart c).extent? = some (bounds.union l.frame) := by
  simp only [extent?, hb, ha]
  show ((a.layout bounds).toOption >>= _) = _
  rw [hl]
  rfl

/-- A chart that can be drawn has an extent. -/
theorem extent?_chart_ne_none {c : Chart} (h : c.Drawable) : (chart c).extent? ≠ none := by
  obtain ⟨bounds, hb⟩ : ∃ bounds, c.bounds = .ok bounds := Rect.exists_ofSize_eq_ok.mpr h.fits
  cases ha : c.annotation with
  | none =>
    rw [extent?_chart_of_none hb ha]
    exact Option.some_ne_none _
  | some a =>
    obtain ⟨l, hl⟩ := (Chart.exists_layout_eq_ok hb).mpr (h.callout a ha)
    rw [extent?_chart_of_some hb ha hl]
    exact Option.some_ne_none _

/-- A shape without an extent can be drawn if it is overlooked. -/
theorem extent?_eq_none_and_drawable_iff {s : Shape} :
    s.extent? = none ∧ s.Drawable ↔ s.Overlooked := by
  cases s with
  | panel x y w h title =>
    show (Rect.ofSize x y w h).toOption = none ∧ Rect.Fits x y w h ↔ False
    rw [Except.toOption_eq_none_iff, Rect.exists_ofSize_eq_ok]
    exact not_and_self_iff _
  | block x y w h radius fill outline =>
    show (Rect.ofSize x y w h).toOption = none ∧ Rect.Fits x y w h ∧ _ ↔ False
    rw [Except.toOption_eq_none_iff, Rect.exists_ofSize_eq_ok]
    exact iff_false_intro fun h => h.1 h.2.1
  | bullet x y label status =>
    rw [extent?_bullet_eq_none, Drawable, Overlooked]
    omega
  | arrow x1 y1 x2 y2 status =>
    rw [extent?_arrow_eq_none, Drawable]
    exact and_iff_left trivial
  | text x y words role tone =>
    rw [extent?_text_eq_none, Drawable, Overlooked]
    exact and_iff_left trivial
  | chart c => exact iff_false_intro fun h => extent?_chart_ne_none h.2 h.1

/-- **Where a shape is drawn without an extent.**  On a device that refuses nothing and in whatever
style, the shapes that have no extent and are drawn are those that are overlooked; every other
shape without an extent fails with a fault of the geometry.  So whatever is drawn and not overlooked
has an extent to be compared with the canvas. -/
theorem drawn_without_extent_iff (style : Style) (s : Shape) (backend : Backend)
    (calls : Array Call) :
    let result := (Device.run { backend, calls } (s.draw style)).1
    (s.extent? = none ∧ result = .ok () ↔ s.Overlooked) ∧
      (s.extent? = none → ¬ s.Overlooked → ∃ fault, result = .error (.geometry fault)) := by
  intro result
  have hdrawn : result = .ok () ↔ s.Drawable := run_draw_eq_ok_iff
  rw [hdrawn, extent?_eq_none_and_drawable_iff]
  refine ⟨Iff.rfl, fun hnone hseen => exists_fault_of_not_drawable fun hd => ?_⟩
  exact hseen (extent?_eq_none_and_drawable_iff.mp ⟨hnone, hd⟩)

/-- A text in the last column of the grid has no extent.  It is drawn on a small canvas, far
outside of it, and not listed as leaving it. -/
theorem text_in_last_column_unlisted :
    let s : Shape := .text 2147483647 0 "edge" .body .text
    let canvas : Rect := ⟨0, 0, 200, 100, by decide, by decide, by decide, by decide⟩
    s.extent? = none ∧ (Device.run {} (s.draw .plain)).1 = .ok () ∧
      (⟨"edge", [s]⟩ : Diagram).outside canvas = [] :=
  ⟨rfl, rfl, rfl⟩

/-- An arrow that is longer than a coordinate can say is overlooked as well. -/
example : (arrow (-2000000000) 0 2000000000 0 .ok).Overlooked := by decide

end Shape

end Placard
