/-
Placard/Proofs/Inside.lean

What it means that something drawn lies in a rectangle.

`Primitive.Inside` compares what a primitive paints with the edges of a rectangle.  Half of the
width of a line need not be a whole number of pixels: `Rect.HasDisc` says in exact numbers that the
round end of a line lies in the rectangle, and `Rect.Surrounds` says it in pixels.
-/
import Placard.Proofs.Parts

namespace Placard

/-! ### Being inside of a rectangle -/

/-- Half of the number is at most `z`. -/
def Exact.HalfWithin (z : Int) : Exact → Prop
  | finite false m q => (numerator m q : Int) ≤ 2 * z * (denominator q : Int)
  | _ => False

namespace Rect

/-- The pixel at a point is one of the rectangle's. -/
def HasPixel (r : Rect) (p : Point) : Prop :=
  (r.x.val ≤ p.x.val ∧ p.x.val < r.right) ∧ r.y.val ≤ p.y.val ∧ p.y.val < r.bottom

/-- The point lies in the rectangle or on one of its edges. -/
def HasPoint (r : Rect) (p : Point) : Prop :=
  (r.x.val ≤ p.x.val ∧ p.x.val ≤ r.right) ∧ r.y.val ≤ p.y.val ∧ p.y.val ≤ r.bottom

/-- The disc around a point, of the given diameter, lies in the rectangle. -/
def HasDisc (r : Rect) (p : Point) (diameter : Exact) : Prop :=
  (diameter.HalfWithin (p.x.val - r.x.val) ∧ diameter.HalfWithin (r.right - p.x.val)) ∧
    diameter.HalfWithin (p.y.val - r.y.val) ∧ diameter.HalfWithin (r.bottom - p.y.val)

end Rect

/-- What a primitive paints lies in the rectangle; text counts as its first pixel.  A line has round
ends, and lies in the rectangle if the discs around its ends do. -/
def Primitive.Inside (r : Rect) : Primitive → Prop
  | roundedRect bounds _ _ _ _ => r.contains bounds = true
  | ellipse bounds _ => r.contains bounds = true
  | text position _ _ _ => r.HasPixel position
  | line start stop _ width =>
    r.HasDisc start (Exact.ofFloat width) ∧ r.HasDisc stop (Exact.ofFloat width)
  | polygon corners _ => ∀ p ∈ corners, r.HasPoint p

theorem Exact.HalfWithin.mono {e : Exact} {a b : Int} (h : e.HalfWithin a) (hab : a ≤ b) :
    e.HalfWithin b := by
  cases e with
  | nan => exact h
  | infinite negative => exact h
  | finite negative m q =>
    cases negative with
    | true => exact h
    | false =>
      have hd : (0 : Int) ≤ denominator q := Int.natCast_nonneg _
      exact Int.le_trans h (Int.mul_le_mul_of_nonneg_right (by omega) hd)

theorem Rect.HasPixel.mono {r area : Rect} {p : Point} (h : r.HasPixel p)
    (ha : area.contains r = true) : area.HasPixel p := by
  have := Rect.contains_iff.mp ha
  obtain ⟨hx, hy⟩ := h
  exact ⟨by omega, by omega⟩

namespace Primitive

/-- What lies in a rectangle lies in every larger one. -/
theorem Inside.mono {r area : Rect} {p : Primitive} (h : p.Inside r)
    (ha : area.contains r = true) : p.Inside area := by
  have hsides := Rect.contains_iff.mp ha
  have hdisc : ∀ q e, r.HasDisc q e → area.HasDisc q e := by
    rintro q e ⟨⟨hl, hr⟩, ht, hb⟩
    exact ⟨⟨hl.mono (by omega), hr.mono (by omega)⟩, ht.mono (by omega), hb.mono (by omega)⟩
  have hrect : ∀ b, r.contains b = true → area.contains b = true := by
    intro b hb
    have := Rect.contains_iff.mp hb
    exact Rect.contains_iff.mpr (by omega)
  cases p with
  | roundedRect bounds radius fill outline width => exact hrect bounds h
  | ellipse bounds fill => exact hrect bounds h
  | text position content color font => exact Rect.HasPixel.mono h ha
  | line start stop color width => exact ⟨hdisc _ _ h.1, hdisc _ _ h.2⟩
  | polygon corners fill =>
    intro q hq
    obtain ⟨hx, hy⟩ := h q hq
    exact ⟨by omega, by omega⟩

end Primitive

/-! ### Lines -/

/-- A width of `w` pixels: half of it is at most `z` if `w` is at most `2 * z`. -/
theorem Exact.halfWithin_iff {m w : Nat} {q z : Int} (h : numerator m q = w * denominator q) :
    (finite false m q).HalfWithin z ↔ (w : Int) ≤ 2 * z := by
  have hpos : (0 : Int) < denominator q := Int.natCast_pos.mpr (Nat.two_pow_pos _)
  rw [HalfWithin, h, Int.natCast_mul]
  exact Int.mul_le_mul_right hpos

namespace Rect

variable {r : Rect} {p : Point}

/-- The rectangle reaches `n` pixels to every side of `(x, y)`. -/
def Surrounds (r : Rect) (x y n : Int) : Prop :=
  (r.x.val + n ≤ x ∧ x + n ≤ r.right) ∧ r.y.val + n ≤ y ∧ y + n ≤ r.bottom

instance (r : Rect) (x y n : Int) : Decidable (r.Surrounds x y n) :=
  inferInstanceAs (Decidable ((_ ∧ _) ∧ _ ∧ _))

/-- Half of the width of a series is two and a half pixels. -/
theorem hasDisc_seriesWidth :
    r.HasDisc p (Exact.ofFloat Chart.seriesWidth) ↔ r.Surrounds p.x.val p.y.val 3 := by
  have hwidth : Exact.ofFloat Chart.seriesWidth = .finite false (5 * 2 ^ 50) (-50) := by
    decide +kernel
  have hfive : Exact.numerator (5 * 2 ^ 50) (-50) = 5 * Exact.denominator (-50) := by
    decide +kernel
  rw [hwidth, HasDisc, Exact.halfWithin_iff hfive, Exact.halfWithin_iff hfive,
    Exact.halfWithin_iff hfive, Exact.halfWithin_iff hfive, Surrounds]
  omega

theorem hasDisc_shaftWidth : r.HasDisc p (Exact.ofFloat (Float.ofInt Shape.shaftWidth)) ↔
    r.Surrounds p.x.val p.y.val 2 := by
  have hwidth : Exact.ofFloat (Float.ofInt Shape.shaftWidth) =
      .finite false (4 * 2 ^ 50) (-50) := by
    decide +kernel
  have hfour : Exact.numerator (4 * 2 ^ 50) (-50) = 4 * Exact.denominator (-50) := by
    decide +kernel
  rw [hwidth, HasDisc, Exact.halfWithin_iff hfour, Exact.halfWithin_iff hfour,
    Exact.halfWithin_iff hfour, Exact.halfWithin_iff hfour, Surrounds]
  omega

end Rect

/-- An arrow is inside if both ends of its shaft and the corners of its head are. -/
theorem Style.inside_arrow_iff {style : Style} {r : Rect} {start stop : Point} {status : Status} :
    (∀ p ∈ style.arrow start stop status, p.Inside r) ↔
      (r.Surrounds start.x.val start.y.val 2 ∧ r.Surrounds stop.x.val stop.y.val 2) ∧
      ∀ p ∈ (Arrowhead.ofEnds start stop).corners, r.HasPoint p := by
  rw [arrow, List.forall_mem_cons, List.forall_mem_singleton, ← Rect.hasDisc_shaftWidth,
    ← Rect.hasDisc_shaftWidth]
  rfl

/-! ### Unions and spans -/

namespace Rect

variable {a b r : Rect}

theorem union_x_val : (a.union b).x.val = min a.x.val b.x.val := by
  show (if a.x.val ≤ b.x.val then a.x else b.x).val = _
  split
  · omega
  · omega

theorem union_y_val : (a.union b).y.val = min a.y.val b.y.val := by
  show (if a.y.val ≤ b.y.val then a.y else b.y).val = _
  split
  · omega
  · omega

theorem union_height_le : (a.union b).height ≤ Pixel.greatest := Int.min_le_right _ _

/-- A union is cut where its width would be no coordinate. -/
theorem union_right :
    (a.union b).right = min (max a.right b.right) (min a.x.val b.x.val + Pixel.greatest) := by
  show (a.union b).x.val + min (max a.right b.right - (a.union b).x.val) 2147483647 = _
  rw [union_x_val, Pixel.greatest]
  omega

theorem union_bottom :
    (a.union b).bottom = min (max a.bottom b.bottom) (min a.y.val b.y.val + Pixel.greatest) := by
  show (a.union b).y.val + min (max a.bottom b.bottom - (a.union b).y.val) 2147483647 = _
  rw [union_y_val, Pixel.greatest]
  omega

/-- A union covers both rectangles unless it is cut. -/
theorem union_contains_iff :
    (a.union b).contains a = true ∧ (a.union b).contains b = true ↔
      max a.right b.right - min a.x.val b.x.val ≤ Pixel.greatest ∧
        max a.bottom b.bottom - min a.y.val b.y.val ≤ Pixel.greatest := by
  rw [contains_iff, contains_iff, union_x_val, union_y_val, union_right, union_bottom]
  omega

/-- The edges of a rectangle between two corners. -/
theorem ofSpan_eq_ok {left top right bottom : Pixel}
    (h : ofSpan left top right bottom = .ok r) :
    r.x = left ∧ r.y = top ∧ r.right = right.val ∧ r.bottom = bottom.val := by
  unfold ofSpan at h
  split at h
  · rename_i w h' hw hh
    obtain ⟨-, hx, hy, hwidth, hheight⟩ := ofSize_eq_ok.mp h
    have hw := Pixel.ofInt?_eq_some_iff.mp hw
    have hh := Pixel.ofInt?_eq_some_iff.mp hh
    unfold Rect.right Rect.bottom
    rw [hx, hy]
    exact ⟨rfl, rfl, by omega, by omega⟩
  · cases h

end Rect

end Placard
