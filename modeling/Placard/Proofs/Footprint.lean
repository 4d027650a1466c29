/-
Placard/Proofs/Footprint.lean

What arrows, bullets and texts cover, and the extents that are given for them.

The points that a recording reaches are computed from its numbers: the calls are replayed, and every
piece of a filled or stroked path is taken, in exact numbers, through the changes of the coordinate
system that were in force.  `Script.reaches_scripts` reduces that to the figures of single
primitives.  An extent is computed from the shape instead, in coordinates that stop at the ends of
the grid.  `Shape.extent_covers` compares the two.
-/
import Placard.Proofs.Outline
import Placard.Proofs.Painted

namespace Placard

/-! ### The points that a recording reaches -/

namespace Motion

/-- Where a point is, seen from before the change of the coordinate system. -/
def move : Motion → ℚ × ℚ → Option (ℚ × ℚ)
  | translate a b, q => do return ((← Exact.value? a) + q.1, (← Exact.value? b) + q.2)
  | scale a b, q => do return ((← Exact.value? a) * q.1, (← Exact.value? b) * q.2)

end Motion

/-- The points that the call adds to the path, in its own coordinate system: the end of a line, or
the disc of an arc. -/
def Call.Reaches : Call → ℚ × ℚ → Prop
  | moveTo x y, q | lineTo x y, q => Exact.value? x = some q.1 ∧ Exact.value? y = some q.2
  | arc x y radius _ _, q => ∃ a b r, Exact.value? x = some a ∧ Exact.value? y = some b ∧
      Exact.value? radius = some r ∧ (q.1 - a) ^ 2 + (q.2 - b) ^ 2 ≤ r ^ 2
  | _, _ => False

/-- The point of the surface is one of the piece's. -/
def Piece.Reaches (p : Piece) (q : ℚ × ℚ) : Prop :=
  ∃ u, p.call.Reaches u ∧ p.transform.foldrM Motion.move u = some q

/-- The recording fills or strokes a path with that point. -/
def Script.Reaches (calls : Script) (q : ℚ × ℚ) : Prop :=
  ∃ x, Context.replay {} calls = some x ∧ ∃ painting ∈ x.painted, ∃ p ∈ painting.2, p.Reaches q

/-- The primitive fills or strokes a path with that point. -/
def Primitive.Reaches (p : Primitive) (q : ℚ × ℚ) : Prop :=
  ∃ painting ∈ p.paintings, ∃ piece ∈ painting.2, piece.Reaches q

/-- The point in exact numbers. -/
def Point.exact (p : Point) : ℚ × ℚ := (p.x.val, p.y.val)

/-- What is reached is reached by one of the primitives. -/
theorem Script.reaches_scripts {ascentOf : Font → Float} {ps : List Primitive} {q : ℚ × ℚ} :
    Script.Reaches (ps.flatMap (Primitive.script ascentOf)) q ↔ ∃ p ∈ ps, p.Reaches q := by
  have hclean : Context.Clean {} := ⟨rfl, rfl, rfl⟩
  obtain ⟨x, hx, -, hpainted⟩ := Context.replay_scripts ascentOf hclean ps
  have hpaintings : x.painted = ps.flatMap Primitive.paintings := hpainted
  unfold Script.Reaches
  constructor
  · rintro ⟨y, hy, painting, hpainting, hq⟩
    obtain rfl : x = y := Option.some.inj (hx.symm.trans hy)
    rw [hpaintings] at hpainting
    obtain ⟨p, hp, hpainting⟩ := List.mem_flatMap.mp hpainting
    exact ⟨p, hp, painting, hpainting, hq⟩
  · rintro ⟨p, hp, painting, hpainting, hq⟩
    refine ⟨x, hx, painting, ?_, hq⟩
    rw [hpaintings]
    exact List.mem_flatMap.mpr ⟨p, hp, hpainting⟩

/-! ### The points of a primitive -/

/-- A corner on the grid is a single point, in the coordinate system of the surface. -/
theorem Piece.reaches_moveTo {p : Point} {q : ℚ × ℚ} :
    (⟨.moveTo p.x.toFloat p.y.toFloat, []⟩ : Piece).Reaches q ↔ q = p.exact := by
  constructor
  · rintro ⟨u, ⟨hx, hy⟩, hu⟩
    rw [Pixel.value?_toFloat] at hx hy
    obtain rfl : u = q := Option.some.inj hu
    exact Prod.ext (Option.some.inj hx).symm (Option.some.inj hy).symm
  · rintro rfl
    exact ⟨p.exact, ⟨p.x.value?_toFloat, p.y.value?_toFloat⟩, rfl⟩

theorem Piece.reaches_lineTo {p : Point} {q : ℚ × ℚ} :
    (⟨.lineTo p.x.toFloat p.y.toFloat, []⟩ : Piece).Reaches q ↔ q = p.exact :=
  Piece.reaches_moveTo

theorem Piece.not_reaches_closePath {transform : List Motion} {q : ℚ × ℚ} :
    ¬ (⟨.closePath, transform⟩ : Piece).Reaches q := fun ⟨_, h, _⟩ => h

namespace Primitive

/-- A primitive that paints a single path. -/
theorem reaches_of_paintings {p : Primitive} {call : Call} {path : List Piece} {q : ℚ × ℚ}
    (h : p.paintings = [(call, path)]) : p.Reaches q ↔ ∃ piece ∈ path, piece.Reaches q := by
  simp only [Reaches, h, List.mem_singleton, exists_eq_left]

theorem reaches_line {start stop : Point} {color : Color} {width : Float} {q : ℚ × ℚ} :
    (line start stop color width).Reaches q ↔ q = start.exact ∨ q = stop.exact := by
  have hpaintings : (line start stop color width).paintings =
      [(.stroke, [⟨.moveTo start.x.toFloat start.y.toFloat, []⟩,
        ⟨.lineTo stop.x.toFloat stop.y.toFloat, []⟩])] := rfl
  rw [reaches_of_paintings hpaintings, List.exists_mem_cons_iff, Piece.reaches_moveTo,
    List.exists_mem_cons_iff, Piece.reaches_lineTo]
  simp only [List.not_mem_nil, false_and, exists_false, or_false]

theorem reaches_polygon {p : Point} {rest : List Point} {color : Color} {q : ℚ × ℚ} :
    (polygon (p :: rest) color).Reaches q ↔ ∃ c ∈ p :: rest, q = c.exact := by
  let sides := rest.map fun c => Call.lineTo c.x.toFloat c.y.toFloat
  let contour : Script := .moveTo p.x.toFloat p.y.toFloat :: (sides ++ [.closePath])
  have hcontour : ∀ c ∈ contour, c.buildsPath = true := by
    simp only [contour, sides, List.forall_mem_cons, List.forall_mem_append, List.forall_mem_map]
    exact ⟨rfl, fun _ _ => rfl, rfl, List.forall_mem_nil _⟩
  have hscript : (polygon (p :: rest) color).figureScript =
      .setSource color :: (contour ++ [.fill]) := by
    simp [figureScript, contour, sides]
  rw [reaches_of_paintings (paintings_of_contour hcontour hscript), List.map_cons, List.map_append,
    List.map_map, List.exists_mem_cons_iff, Piece.reaches_moveTo, List.exists_mem_cons_iff]
  refine or_congr_right ?_
  constructor
  · rintro ⟨piece, hpiece, hq⟩
    rcases List.mem_append.mp hpiece with h | h
    · obtain ⟨c, hc, rfl⟩ := List.mem_map.mp h
      exact ⟨c, hc, Piece.reaches_lineTo.mp hq⟩
    · obtain rfl := List.mem_singleton.mp h
      exact absurd hq Piece.not_reaches_closePath
  · rintro ⟨c, hc, hq⟩
    exact ⟨_, List.mem_append_left _ (List.mem_map_of_mem hc), Piece.reaches_lineTo.mpr hq⟩

/-- A text puts glyphs on the surface, and no path. -/
theorem not_reaches_text {position : Point} {content : String} {color : Color} {font : Font}
    {q : ℚ × ℚ} : ¬ (text position content color font).Reaches q := by
  rintro ⟨painting, hpainting, -⟩
  cases hpainting

end Primitive

/-! ### Ellipses -/

namespace Rect

/-- The point is in the ellipse that touches all four edges. -/
def InEllipse (r : Rect) (q : ℚ × ℚ) : Prop :=
  ((q.1 - (r.x.val + r.width / 2)) / (r.width / 2)) ^ 2 +
    ((q.2 - (r.y.val + r.height / 2)) / (r.height / 2)) ^ 2 ≤ 1

/-- The point is in the rectangle or on one of its edges. -/
def HasExact (r : Rect) (q : ℚ × ℚ) : Prop :=
  (r.x.val ≤ q.1 ∧ q.1 ≤ r.right) ∧ r.y.val ≤ q.2 ∧ q.2 ≤ r.bottom

/-- Half of a side, and the middle of it, are computed exactly. -/
theorem value?_middle (p : Pixel) {length : ℤ} (hlength : 0 < length)
    (hend : p.val + length ≤ 2147483647) :
    Exact.value? (Float.ofInt length / 2) = some (length / 2 : ℚ) ∧
      Exact.value? (p.toFloat + Float.ofInt length / 2) = some (p.val + length / 2 : ℚ) := by
  have hp := p.least_le
  have hvalue : Exact.value? (Float.ofInt length) = some (length : ℚ) :=
    value?_ofInt (abs_lt.mpr (by omega))
  have hhalf := (rounds_half hvalue).value? (.ofInt_div_two (abs_le.mpr (by omega)))
  have hmiddle : (p.val + length / 2 : ℚ) = ((2 * p.val + length : ℤ) : ℚ) / 2 := by
    push_cast
    ring
  have hshort : Short (p.val + length / 2 : ℚ) := by
    rw [hmiddle]
    exact .ofInt_div_two (abs_le.mpr (by omega))
  have hmax : |(p.val + length / 2 : ℚ)| ≤ greatestFinite := by
    have hbound : |((2 * p.val + length : ℤ) : ℚ)| ≤ 2 ^ 33 := by
      have : |2 * p.val + length| ≤ 2 ^ 33 := abs_le.mpr (by omega)
      exact_mod_cast this
    rw [hmiddle, abs_div, abs_two]
    refine le_greatestFinite ?_
    calc |((2 * p.val + length : ℤ) : ℚ)| / 2 ≤ 2 ^ 33 := by linarith
      _ ≤ 2 ^ 1023 := pow_le_pow_right₀ one_le_two (by decide)
  exact ⟨hhalf, (Exact.rounds_add p.value?_toFloat hhalf hmax).value? hshort⟩

/-- One coordinate of a point of an ellipse. -/
theorem between_of_sq {z start length : ℚ} (hlength : 0 < length)
    (h : ((z - (start + length / 2)) / (length / 2)) ^ 2 ≤ 1) :
    start ≤ z ∧ z ≤ start + length := by
  have hhalf : 0 < length / 2 := half_pos hlength
  rw [sq_le_one_iff_abs_le_one, abs_le, le_div_iff₀ hhalf, div_le_iff₀ hhalf] at h
  constructor <;> linarith

theorem InEllipse.hasExact {r : Rect} {q : ℚ × ℚ} (h : r.InEllipse q) : r.HasExact q := by
  have hwidth : (0 : ℚ) < r.width := by exact_mod_cast r.width_pos
  have hheight : (0 : ℚ) < r.height := by exact_mod_cast r.height_pos
  have hx := between_of_sq hwidth ((le_add_of_nonneg_right (sq_nonneg _)).trans h)
  have hy := between_of_sq hheight ((le_add_of_nonneg_left (sq_nonneg _)).trans h)
  unfold HasExact right bottom
  push_cast
  exact ⟨hx, hy⟩

theorem HasExact.mono {r area : Rect} {q : ℚ × ℚ} (h : r.HasExact q)
    (harea : area.contains r = true) : area.HasExact q := by
  obtain ⟨hx, hy, hright, hbottom⟩ := contains_iff.mp harea
  have hx : (area.x.val : ℚ) ≤ r.x.val := by exact_mod_cast hx
  have hy : (area.y.val : ℚ) ≤ r.y.val := by exact_mod_cast hy
  have hright : (r.right : ℚ) ≤ area.right := by exact_mod_cast hright
  have hbottom : (r.bottom : ℚ) ≤ area.bottom := by exact_mod_cast hbottom
  exact ⟨⟨hx.trans h.1.1, h.1.2.trans hright⟩, hy.trans h.2.1, h.2.2.trans hbottom⟩

end Rect

theorem Primitive.reaches_ellipse {bounds : Rect} {color : Color} {q : ℚ × ℚ} :
    (ellipse bounds color).Reaches q ↔ bounds.InEllipse q := by
  obtain ⟨hrx, hx⟩ := Rect.value?_middle bounds.x bounds.width_pos bounds.right_le
  obtain ⟨hry, hy⟩ := Rect.value?_middle bounds.y bounds.height_pos bounds.bottom_le
  have hw : (0 : ℚ) < bounds.width / 2 := half_pos (by exact_mod_cast bounds.width_pos)
  have hh : (0 : ℚ) < bounds.height / 2 := half_pos (by exact_mod_cast bounds.height_pos)
  have hpaintings : (ellipse bounds color).paintings =
      [(.fill, [⟨.arc 0 0 1 0 (2 * halfTurn),
        [.translate (bounds.x.toFloat + Float.ofInt bounds.width / 2)
          (bounds.y.toFloat + Float.ofInt bounds.height / 2),
        .scale (Float.ofInt bounds.width / 2) (Float.ofInt bounds.height / 2)]⟩])] := rfl
  rw [reaches_of_paintings hpaintings]
  simp only [List.mem_singleton, exists_eq_left]
  have hmove : ∀ u : ℚ × ℚ, [Motion.translate (bounds.x.toFloat + Float.ofInt bounds.width / 2)
      (bounds.y.toFloat + Float.ofInt bounds.height / 2),
      .scale (Float.ofInt bounds.width / 2) (Float.ofInt bounds.height / 2)].foldrM Motion.move u =
      some (bounds.x.val + bounds.width / 2 + bounds.width / 2 * u.1,
        bounds.y.val + bounds.height / 2 + bounds.height / 2 * u.2) := by
    intro u
    simp [Motion.move, hrx, hx, hry, hy]
  unfold Rect.InEllipse
  constructor
  · rintro ⟨u, ⟨a, b, r, ha, hb, hr, hu⟩, hq⟩
    rw [value?_zero] at ha hb
    rw [value?_one] at hr
    obtain rfl := Option.some.inj ha
    obtain rfl := Option.some.inj hb
    obtain rfl := Option.some.inj hr
    obtain rfl := Option.some.inj ((hmove u).symm.trans hq)
    simpa [hw.ne', hh.ne'] using hu
  · intro h
    refine ⟨((q.1 - (bounds.x.val + bounds.width / 2)) / (bounds.width / 2),
      (q.2 - (bounds.y.val + bounds.height / 2)) / (bounds.height / 2)),
      ⟨0, 0, 1, value?_zero, value?_zero, value?_one, by simpa using h⟩, ?_⟩
    rw [hmove, mul_div_cancel₀ _ hw.ne', mul_div_cancel₀ _ hh.ne', add_sub_cancel, add_sub_cancel]

/-! ### Growing a point -/

/-- The coordinate, or the end of the grid beyond which it is. -/
def Pixel.cut (z : ℚ) : ℚ := max (least : ℚ) (min z (greatest : ℚ))

/-- Cutting a whole number is clamping it. -/
theorem Pixel.cut_intCast (z : ℤ) : cut z = ((clamp z).val : ℚ) := by
  rw [clamp_val, cut]
  push_cast
  rfl

namespace Rect

/-- The square that reaches so far from the point, cut off at the ends of the grid, lies in the
rectangle. -/
def HasAround (r : Rect) (reach : ℚ) (q : ℚ × ℚ) : Prop :=
  (r.x.val ≤ Pixel.cut (q.1 - reach) ∧ Pixel.cut (q.1 + reach) ≤ r.right) ∧
    r.y.val ≤ Pixel.cut (q.2 - reach) ∧ Pixel.cut (q.2 + reach) ≤ r.bottom

/-- Around a point of the grid, two pixels far. -/
theorem hasAround_exact {r : Rect} {p : Point} : r.HasAround 2 p.exact ↔
    (r.x.val ≤ (Pixel.clamp (p.x.val - 2)).val ∧ (Pixel.clamp (p.x.val + 2)).val ≤ r.right) ∧
      r.y.val ≤ (Pixel.clamp (p.y.val - 2)).val ∧ (Pixel.clamp (p.y.val + 2)).val ≤ r.bottom := by
  have hminus : ∀ z : ℤ, Pixel.cut ((z : ℚ) - 2) = ((Pixel.clamp (z - 2)).val : ℚ) := fun z => by
    rw [← Pixel.cut_intCast]
    push_cast
    rfl
  have hplus : ∀ z : ℤ, Pixel.cut ((z : ℚ) + 2) = ((Pixel.clamp (z + 2)).val : ℚ) := fun z => by
    rw [← Pixel.cut_intCast]
    push_cast
    rfl
  simp only [HasAround, Point.exact, hminus, hplus, Int.cast_le]

/-- A rectangle covers a pixel if it has it. -/
theorem contains_cell_iff {r c : Rect} {p : Point} (hc : Shape.cell p = .ok c) :
    r.contains c = true ↔ r.HasPixel p := by
  obtain ⟨-, hx, hy, hw, hh⟩ := ofSize_eq_ok.mp hc
  have hone : (1 : Pixel).val = 1 := rfl
  rw [contains_iff, HasPixel, right, bottom, right, bottom, hx, hy, hw, hh, hone]
  omega

end Rect

/-! ### Extents -/

theorem Pixel.clamp_min_sub (a b d : ℤ) :
    (clamp (min a b - d)).val = min (clamp (a - d)).val (clamp (b - d)).val := by
  simp only [clamp_val]
  omega

theorem Pixel.clamp_max_add (a b d : ℤ) :
    (clamp (max a b + d)).val = max (clamp (a + d)).val (clamp (b + d)).val := by
  simp only [clamp_val]
  omega

/-- The padded span of four numbers lies between two others if each of them does, padded. -/
theorem padded_iff (a b u l : Pixel) (low high : ℤ) :
    (low ≤ (Pixel.clamp (min (min (min a.val b.val) u.val) l.val - 2)).val ∧
      (Pixel.clamp (max (max (max a.val b.val) u.val) l.val + 2)).val ≤ high) ↔
    ∀ z ∈ [a, b, u, l], low ≤ (Pixel.clamp (z.val - 2)).val ∧
      (Pixel.clamp (z.val + 2)).val ≤ high := by
  simp only [Pixel.clamp_min_sub, Pixel.clamp_max_add, le_min_iff, max_le_iff,
    List.forall_mem_cons]
  constructor
  · rintro ⟨⟨⟨⟨ha, hb⟩, hu⟩, hl⟩, ⟨⟨ha', hb'⟩, hu'⟩, hl'⟩
    exact ⟨⟨ha, ha'⟩, ⟨hb, hb'⟩, ⟨hu, hu'⟩, ⟨hl, hl'⟩, List.forall_mem_nil _⟩
  · rintro ⟨⟨ha, ha'⟩, ⟨hb, hb'⟩, ⟨hu, hu'⟩, ⟨hl, hl'⟩, -⟩
    exact ⟨⟨⟨⟨ha, hb⟩, hu⟩, hl⟩, ⟨⟨ha', hb'⟩, hu'⟩, hl'⟩

namespace Shape

variable {style : Style} {r : Rect} {ascentOf : Font → Float}

/-- The shape is given by a rectangle, which it fills. -/
def isBoxed : Shape → Bool
  | panel _ _ _ _ _ | block _ _ _ _ _ _ _ | chart _ => true
  | bullet _ _ _ _ | arrow _ _ _ _ _ | text _ _ _ _ _ => false

/-- What the calls of a shape paint, and that `r` is the extent of it.

* An arrow reaches the ends of its shaft and the corners of its head.  Its extent is the smallest
  rectangle with all of these points, each grown by half of the shaft's width.
* A bullet reaches the whole ellipse in its dot, and its extent has all of it.  It has the first
  pixel of the label, too.
* The extent of a text has its first pixel.

The letters of a text may reach up as far as they like. -/
def Covers (ascentOf : Font → Float) (r : Rect) (calls : Script) : Shape → Prop
  | arrow x1 y1 x2 y2 _ =>
    (∀ q, Script.Reaches calls q ↔ ∃ p ∈ (⟨x1, y1⟩ : Point) :: ⟨x2, y2⟩ ::
      (Arrowhead.ofEnds ⟨x1, y1⟩ ⟨x2, y2⟩).corners, q = p.exact) ∧
    ∃ width σ, Script.pens calls = [width] ∧ Exact.value? width = some σ ∧
      ∀ other : Rect, other.contains r = true ↔
        ∀ q, Script.Reaches calls q → other.HasAround (σ / 2) q
  | bullet x y label _ =>
    (∃ d, dot x y = .ok d ∧ ∀ q, Script.Reaches calls q ↔ d.InEllipse q) ∧
    (∀ q, Script.Reaches calls q → r.HasExact q) ∧
    ∃ before color font c,
      calls = before ++ (Primitive.text (labelOrigin x y) label color font).script ascentOf ∧
      cell (labelOrigin x y) = .ok c ∧ r.contains c = true
  | text x y words _ _ =>
    (∀ q, ¬ Script.Reaches calls q) ∧
    ∃ color font c, calls = (Primitive.text ⟨x, y⟩ words color font).script ascentOf ∧
      cell ⟨x, y⟩ = .ok c ∧ r.contains c = true
  | panel _ _ _ _ _ | block _ _ _ _ _ _ _ | chart _ => False

theorem covers_arrow {x1 y1 x2 y2 : Pixel} {status : Status}
    (hr : (arrow x1 y1 x2 y2 status).extent? = some r) :
    (arrow x1 y1 x2 y2 status).Covers ascentOf r
      ((style.arrow ⟨x1, y1⟩ ⟨x2, y2⟩ status).flatMap (Primitive.script ascentOf)) := by
  have hreaches : ∀ q, Script.Reaches
      ((style.arrow ⟨x1, y1⟩ ⟨x2, y2⟩ status).flatMap (Primitive.script ascentOf)) q ↔
        ∃ p ∈ (⟨x1, y1⟩ : Point) :: ⟨x2, y2⟩ ::
          (Arrowhead.ofEnds ⟨x1, y1⟩ ⟨x2, y2⟩).corners, q = p.exact := by
    intro q
    rw [Script.reaches_scripts, Style.arrow, List.exists_mem_cons_iff, Primitive.reaches_line,
      List.exists_mem_cons_iff, Arrowhead.corners, Primitive.reaches_polygon,
      List.exists_mem_cons_iff (a := (⟨x1, y1⟩ : Point)),
      List.exists_mem_cons_iff (a := (⟨x2, y2⟩ : Point)), or_assoc]
    simp only [List.not_mem_nil, false_and, exists_false, or_false]
  refine ⟨hreaches, _, 4, rfl, value?_ofNat (n := 4) (by decide), fun other => ?_⟩
  rw [extent?_arrow, Except.toOption_eq_some_iff] at hr
  obtain ⟨hx, hy, hright, hbottom⟩ := Rect.ofSpan_eq_ok hr
  have htip : (Arrowhead.ofEnds ⟨x1, y1⟩ ⟨x2, y2⟩).tip = ⟨x2, y2⟩ := rfl
  have hgrown : (∀ q, Script.Reaches
      ((style.arrow ⟨x1, y1⟩ ⟨x2, y2⟩ status).flatMap (Primitive.script ascentOf)) q →
        other.HasAround (4 / 2) q) ↔
      ∀ p ∈ (⟨x1, y1⟩ : Point) :: ⟨x2, y2⟩ :: (Arrowhead.ofEnds ⟨x1, y1⟩ ⟨x2, y2⟩).corners,
        other.HasAround 2 p.exact := by
    norm_num only
    constructor
    · exact fun h p hp => h _ ((hreaches _).mpr ⟨p, hp, rfl⟩)
    · intro h q hq
      obtain ⟨p, hp, rfl⟩ := (hreaches q).mp hq
      exact h p hp
  rw [hgrown]
  generalize Arrowhead.ofEnds ⟨x1, y1⟩ ⟨x2, y2⟩ = head at *
  have hcolumns := padded_iff x1 x2 head.upper.x head.lower.x other.x.val other.right
  have hrows := padded_iff y1 y2 head.upper.y head.lower.y other.y.val other.bottom
  rw [Rect.contains_iff, hx, hy, hright, hbottom]
  simp only [Rect.hasAround_exact, Arrowhead.corners, htip, List.forall_mem_cons]
    at hcolumns hrows ⊢
  constructor
  · rintro ⟨hl, ht, hr, hb⟩
    obtain ⟨hx1, hx2, hux, hlx, -⟩ := hcolumns.mp ⟨hl, hr⟩
    obtain ⟨hy1, hy2, huy, hly, -⟩ := hrows.mp ⟨ht, hb⟩
    exact ⟨⟨hx1, hy1⟩, ⟨hx2, hy2⟩, ⟨hx2, hy2⟩, ⟨hux, huy⟩, ⟨hlx, hly⟩, List.forall_mem_nil _⟩
  · rintro ⟨⟨hx1, hy1⟩, ⟨hx2, hy2⟩, -, ⟨hux, huy⟩, ⟨hlx, hly⟩, -⟩
    obtain ⟨hl, hr⟩ := hcolumns.mpr ⟨hx1, hx2, hux, hlx, List.forall_mem_nil _⟩
    obtain ⟨ht, hb⟩ := hrows.mpr ⟨hy1, hy2, huy, hly, List.forall_mem_nil _⟩
    exact ⟨hl, ht, hr, hb⟩

theorem covers_bullet {x y : Pixel} {label : String} {status : Status} {d : Rect} {color : Color}
    (hd : dot x y = .ok d) (hr : (bullet x y label status).extent? = some r) :
    (bullet x y label status).Covers ascentOf r
      ([.ellipse d color, style.label (labelOrigin x y) label .body].flatMap
        (Primitive.script ascentOf)) := by
  obtain ⟨hdot, hpixel⟩ := inside_bullet hd hr
  have hreaches : ∀ q, Script.Reaches
      ([.ellipse d color, style.label (labelOrigin x y) label .body].flatMap
        (Primitive.script ascentOf)) q ↔ d.InEllipse q := by
    intro q
    rw [Script.reaches_scripts, List.exists_mem_cons_iff, Primitive.reaches_ellipse,
      List.exists_mem_cons_iff, Style.label, eq_false Primitive.not_reaches_text]
    simp only [List.not_mem_nil, false_and, exists_false, or_false]
  refine ⟨⟨d, hd, hreaches⟩, fun q hq => ((hreaches q).mp hq).hasExact.mono hdot, ?_⟩
  -- the extent has a first pixel of the label only if that is on the grid
  obtain ⟨c, hc⟩ : ∃ c, cell (labelOrigin x y) = .ok c := by
    rw [extent?_bullet, hd] at hr
    cases hc : cell (labelOrigin x y) with
    | error e =>
      rw [hc] at hr
      cases hr
    | ok c => exact ⟨c, rfl⟩
  exact ⟨_, _, _, c, by rw [List.flatMap_cons, List.flatMap_singleton]; rfl, hc,
    (Rect.contains_cell_iff hc).mpr hpixel⟩

theorem covers_text {x y : Pixel} {words : String} {role : Role} {tone : Tone} {color : Color}
    {font : Font} (hr : (text x y words role tone).extent? = some r) :
    (text x y words role tone).Covers ascentOf r
      ([Primitive.text ⟨x, y⟩ words color font].flatMap (Primitive.script ascentOf)) := by
  have hcell : cell ⟨x, y⟩ = .ok r := Except.toOption_eq_some_iff.mp hr
  refine ⟨fun q => ?_, color, font, r, List.flatMap_singleton _ _, hcell,
    (Rect.contains_cell_iff hcell).mpr (hasPixel_of_cell hcell)⟩
  rw [Script.reaches_scripts, List.exists_mem_cons_iff, eq_false Primitive.not_reaches_text]
  simp only [List.not_mem_nil, false_and, exists_false, or_false, not_false_eq_true]

/-- A shape that can be drawn makes all of its calls, unless one of them is refused. -/
theorem run_of_drawable {d : Device} {s : Shape} (h : s.Drawable)
    (hrun : (d.run (s.draw style)).1 ≠ .error .device) :
    d.run (s.draw style) =
      (.ok (), d.record ((s.sketch style).items.flatMap (Primitive.script d.ascentOf))) := by
  have hplan : (s.plan d.ascentOf style).outcome = .ok () := plan_ok_iff_drawable.mpr h
  obtain ⟨hsketch, hvalid⟩ := outcome_plan_eq_ok.mp hplan
  rw [(follows_draw style s).run_of_not_refused hrun, plan, Sketch.expand_of_valid hvalid, hsketch]
  rfl

/-- **Extents and what is painted.**  A shape that is not given by a rectangle is drawn if it has an
extent, unless a call is refused, and the extent covers all of what its calls paint; text counts as
its first pixel.  The extent of an arrow is the smallest rectangle that does. -/
theorem extent_covers (d : Device) (style : Style) {s : Shape} {r : Rect}
    (hkind : s.isBoxed = false) (hr : s.extent? = some r)
    (hrun : (d.run (s.draw style)).1 ≠ .error .device) :
    (d.run (s.draw style)).1 = .ok () ∧ ∃ calls,
      (d.run (s.draw style)).2.recording = d.recording ++ calls ∧
        s.Covers d.ascentOf r calls := by
  have hdone : s.Drawable → (d.run (s.draw style)).1 = .ok () ∧
      (d.run (s.draw style)).2.recording =
        d.recording ++ (s.sketch style).items.flatMap (Primitive.script d.ascentOf) := by
    intro hdrawable
    rw [run_of_drawable hdrawable hrun, Device.recording_record]
    exact ⟨rfl, rfl⟩
  cases s with
  | arrow x1 y1 x2 y2 status =>
    obtain ⟨hok, hrecording⟩ := hdone trivial
    exact ⟨hok, _, hrecording, covers_arrow hr⟩
  | text x y words role tone =>
    obtain ⟨hok, hrecording⟩ := hdone trivial
    exact ⟨hok, _, hrecording, covers_text hr⟩
  | bullet x y label status =>
    have hsome : ¬ (bullet x y label status).extent? = none := by
      rw [hr]
      exact Option.some_ne_none r
    have hdrawable : (bullet x y label status).Drawable := by
      rw [extent?_bullet_eq_none] at hsome
      exact not_not.mp (not_or.mp hsome).1
    obtain ⟨hok, hrecording⟩ := hdone hdrawable
    cases hd : dot x y with
    | error e =>
      rw [extent?_bullet, hd] at hr
      cases hr
    | ok dot =>
      rw [sketch_bullet, hd] at hrecording
      exact ⟨hok, _, hrecording, covers_bullet hd hr⟩
  | panel x y w h title => cases hkind
  | block x y w h radius fill outline => cases hkind
  | chart c => cases hkind

/-- An arrow to the first column of the grid, where the padding is cut off. -/
theorem extent_covers_arrow_at_edge :
    let s : Shape := .arrow (-2147483600) 0 (Pixel.clamp Pixel.least) 0 .ok
    let r : Rect :=
      ⟨Pixel.clamp Pixel.least, -10, 50, 20, by decide, by decide, by decide, by decide⟩
    s.extent? = some r ∧ (Device.run {} (s.draw .plain)).1 = .ok () ∧
      s.Covers (Device.ascentOf {}) r (Device.run {} (s.draw .plain)).2.recording := by
  intro s r
  have hr : s.extent? = some r := by decide +kernel
  obtain ⟨hok, calls, hcalls, hcovers⟩ :=
    extent_covers {} .plain rfl hr ((follows_draw .plain s).not_refused rfl)
  refine ⟨hr, hok, ?_⟩
  rw [hcalls]
  exact hcovers

end Shape

end Placard
