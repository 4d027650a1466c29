/-
Placard/Proofs/Placed.lean

Where the positions in a rectangle are placed on the grid.

A position is given by a share of the width and a share of the height, floats from zero to one.  The
share is multiplied with the length, which rounds, and the product is rounded down to a pixel.
Neither leads out of the rectangle: zero and the length are themselves numbers that need no
rounding, and rounding does not go past these (`Nearest.le_of_le`).  So the sum of the product and
the edge of the rectangle is never cut off (`Pixel.along_val`).  Rounding also keeps the order
(`Exact.mul_mono`).
-/
import Placard.Proofs.Arithmetic
import Placard.Proofs.Built
import Placard.Proofs.Inside

namespace Placard

/-! ### Shares -/

namespace Exact

/-- A number from zero to one. -/
def IsShare (x : Float) : Prop := ∃ a, value? x = some a ∧ 0 ≤ a ∧ a ≤ 1

/-- What compares as lying between zero and one is a number between them. -/
theorem isShare_iff {x : Float} : IsShare x ↔ 0 ≤ x ∧ x ≤ 1 := by
  constructor
  · rintro ⟨a, ha, h0, h1⟩
    exact ⟨(le_iff value?_zero ha).mpr h0, (le_iff ha value?_one).mpr h1⟩
  · rintro ⟨h0, h1⟩
    obtain ⟨a, ha⟩ := exists_value?_of_between value?_zero value?_one h0 h1
    exact ⟨a, ha, (le_iff value?_zero ha).mp h0, (le_iff ha value?_one).mp h1⟩

end Exact

theorem UnitPoint.inside_iff_isShare {p : UnitPoint} :
    p.inside = true ↔ Exact.IsShare p.x ∧ Exact.IsShare p.y := by
  rw [inside_iff, Exact.isShare_iff, Exact.isShare_iff]
  rfl

/-! ### Rounding down -/

namespace Exact

theorem numerator_div_denominator (m : ℕ) (q : ℤ) :
    (numerator m q : ℚ) / denominator q = m * 2 ^ q := by
  unfold numerator denominator
  rcases le_total 0 q with hq | hq
  · obtain ⟨n, rfl⟩ := Int.eq_ofNat_of_zero_le hq
    simp
  · obtain ⟨n, hn⟩ := Int.eq_ofNat_of_zero_le (neg_nonneg.mpr hq)
    obtain rfl : q = -n := by omega
    simp [div_eq_mul_inv]

theorem floorOf_eq (negative : Bool) (m : ℕ) (q : ℤ) :
    floorOf negative m q = ⌊(if negative then -(m : ℚ) else m) * 2 ^ q⌋ := by
  have hvalue : (if negative then -(m : ℚ) else m) * 2 ^ q =
      ((if negative then -(numerator m q : ℤ) else numerator m q : ℤ) : ℚ) / denominator q := by
    cases negative with
    | false =>
      rw [if_neg Bool.false_ne_true, if_neg Bool.false_ne_true, Int.cast_natCast,
        numerator_div_denominator]
    | true =>
      rw [if_pos rfl, if_pos rfl, Int.cast_neg, Int.cast_natCast, neg_div,
        numerator_div_denominator, neg_mul]
  rw [hvalue, Rat.floor_intCast_div_natCast]
  exact Int.fdiv_eq_ediv_of_nonneg _ (Int.natCast_nonneg _)

/-- A finite float is rounded down to the floor of its number, as far as that is on the grid. -/
theorem floorPixel_of_value? {x : Float} {v : ℚ} (h : value? x = some v) :
    (ofFloat x).floorPixel = Pixel.clamp ⌊v⌋ := by
  unfold value? at h
  split at h
  · rename_i negative m q hparts
    rw [hparts, floorPixel, floorOf_eq, Option.some.inj h]
  · cases h

end Exact

/-! ### Along one side -/

namespace Pixel

/-- A side of a rectangle: it has a length that can be said in coordinates, and from `start` on it
stays on the grid. -/
structure Stretch (start : Pixel) (length : ℤ) : Prop where
  pos : 0 < length
  le : length ≤ greatest
  room : start.val + length ≤ greatest

namespace Stretch

variable {start : Pixel} {length : ℤ} {x y : Float} {a : ℚ}

theorem value?_length (h : start.Stretch length) :
    Exact.value? (Float.ofInt length) = some (length : ℚ) := by
  have := h.pos
  have hle : length ≤ 2147483647 := h.le
  exact value?_ofInt (abs_lt.mpr (by omega))

theorem cast_pos (h : start.Stretch length) : (0 : ℚ) < length := by exact_mod_cast h.pos

theorem short_length (h : start.Stretch length) : Short (length : ℚ) :=
  Exact.short_of_value? h.value?_length

theorem abs_share_le (h : start.Stretch length) (h0 : 0 ≤ a) (h1 : a ≤ 1) :
    |a * length| ≤ greatestFinite := by
  rw [abs_of_nonneg (mul_nonneg h0 h.cast_pos.le)]
  calc a * length ≤ length := mul_le_of_le_one_left h.cast_pos.le h1
    _ ≤ |(length : ℚ)| := le_abs_self _
    _ ≤ greatestFinite := Exact.abs_le_of_value? h.value?_length

/-- The product with the length is rounded to a number between zero and the length, and so nothing
is cut off where it is added to the start. -/
theorem exists_product (h : start.Stretch length) (hx : Exact.value? x = some a) (h0 : 0 ≤ a)
    (h1 : a ≤ 1) : ∃ v, Exact.value? (x * Float.ofInt length) = some v ∧ Nearest (a * length) v ∧
      (0 ≤ ⌊v⌋ ∧ ⌊v⌋ ≤ length) ∧ (start.along length x).val = start.val + ⌊v⌋ := by
  obtain ⟨v, hv, hproduct⟩ := Exact.rounds_mul hx h.value?_length (h.abs_share_le h0 h1)
  have hnonneg : 0 ≤ v := hv.ge_of_ge .zero (mul_nonneg h0 h.cast_pos.le)
  have hle : v ≤ length := hv.le_of_le h.short_length (mul_le_of_le_one_left h.cast_pos.le h1)
  have hfloor : 0 ≤ ⌊v⌋ ∧ ⌊v⌋ ≤ length :=
    ⟨Int.floor_nonneg.mpr hnonneg, Int.floor_le_iff.mpr (hle.trans_lt (lt_add_one _))⟩
  refine ⟨v, hproduct, hv, hfloor, ?_⟩
  have hlength : length ≤ 2147483647 := h.le
  have hroom : start.val + length ≤ 2147483647 := h.room
  have := start.least_le
  have hpixel : (Pixel.clamp ⌊v⌋).val = ⌊v⌋ := val_clamp_of_mem (by omega) (by omega)
  rw [along, Exact.floorPixel_of_value? hproduct, hpixel]
  exact val_clamp_of_mem (by omega) (by omega)

/-- The sum is exact, and does not lead beyond the end of the side. -/
theorem along_val (h : start.Stretch length) (hx : Exact.IsShare x) :
    (start.along length x).val =
      start.val + (Exact.ofFloat (x * Float.ofInt length)).floorPixel.val ∧
    start.val ≤ (start.along length x).val ∧ (start.along length x).val ≤ start.val + length := by
  obtain ⟨a, ha, h0, h1⟩ := hx
  obtain ⟨v, hproduct, -, ⟨hnonneg, hle⟩, halong⟩ := h.exists_product ha h0 h1
  have hlength : length ≤ 2147483647 := h.le
  have hpixel : (Pixel.clamp ⌊v⌋).val = ⌊v⌋ := val_clamp_of_mem (by omega) (by omega)
  rw [Exact.floorPixel_of_value? hproduct, hpixel, halong]
  omega

/-- A greater share does not end before a smaller one. -/
theorem along_mono (h : start.Stretch length) (hx : Exact.IsShare x) (hy : Exact.IsShare y)
    (hxy : x ≤ y) : (start.along length x).val ≤ (start.along length y).val := by
  obtain ⟨a, ha, ha0, ha1⟩ := hx
  obtain ⟨b, hb, hb0, hb1⟩ := hy
  obtain ⟨v, hv, -, -, hx⟩ := h.exists_product ha ha0 ha1
  obtain ⟨w, hw, -, -, hy⟩ := h.exists_product hb hb0 hb1
  have hvw : v ≤ w := Exact.mul_mono ha hb h.value?_length h.cast_pos ((Exact.le_iff ha hb).mp hxy)
    (h.abs_share_le ha0 ha1) (h.abs_share_le hb0 hb1) hv hw
  rw [hx, hy]
  exact add_le_add_right (Int.floor_le_floor hvw) _

theorem along_zero (h : start.Stretch length) (hx : Exact.value? x = some 0) :
    (start.along length x).val = start.val := by
  obtain ⟨v, -, hv, -, halong⟩ := h.exists_product hx le_rfl zero_le_one
  rw [zero_mul] at hv
  rw [halong, hv.eq_of_short .zero, Int.floor_zero, add_zero]

theorem along_one (h : start.Stretch length) (hx : Exact.value? x = some 1) :
    (start.along length x).val = start.val + length := by
  obtain ⟨v, -, hv, -, halong⟩ := h.exists_product hx zero_le_one le_rfl
  rw [one_mul] at hv
  rw [halong, hv.eq_of_short h.short_length, Int.floor_intCast]

end Stretch

end Pixel

/-! ### In a rectangle -/

namespace Rect

variable {bounds : Rect}

theorem Sized.across (h : bounds.Sized) : bounds.x.Stretch bounds.width :=
  ⟨bounds.width_pos, h.width, bounds.right_le⟩

theorem Sized.down (h : bounds.Sized) : bounds.y.Stretch bounds.height :=
  ⟨bounds.height_pos, h.height, bounds.bottom_le⟩

theorem pixel_eq_ok_iff {p : UnitPoint} {q : Point} : bounds.pixel p = .ok q ↔
    (Exact.IsShare p.x ∧ Exact.IsShare p.y) ∧
      q.x = bounds.x.along bounds.width p.x ∧ q.y = bounds.y.along bounds.height p.y := by
  rw [pixel_eq_ok, UnitPoint.inside_iff_isShare]
  refine and_congr_right fun _ => ⟨?_, fun h => Point.ext h.1.symm h.2.symm⟩
  rintro rfl
  exact ⟨rfl, rfl⟩

/-- **Positions are placed in their rectangle, and in order.**  A position is refused if and only if
one of its shares is not a number from zero to one.  Every other position is placed on a pixel of
the rectangle or on its right or lower edge, and the sums that give the pixel are exact.  A greater
share is never placed before a smaller one; zero is placed on the near edge and one on the far edge.
The points of a series have one pixel each, in the same order, or else the fault of the first of
them that is refused. -/
theorem pixel_keeps_bounds_and_order (bounds : Rect) (hb : bounds.Sized) :
    (∀ p fault, bounds.pixel p = .error fault ↔
      ¬ (Exact.IsShare p.x ∧ Exact.IsShare p.y) ∧ .outsideUnitSquare p = fault) ∧
    (∀ p, Exact.IsShare p.x → Exact.IsShare p.y → ∃ q, bounds.pixel p = .ok q ∧ bounds.HasPoint q ∧
      q.x.val = bounds.x.val + (Exact.ofFloat (p.x * Float.ofInt bounds.width)).floorPixel.val ∧
      q.y.val = bounds.y.val + (Exact.ofFloat (p.y * Float.ofInt bounds.height)).floorPixel.val) ∧
    (∀ p p' q q', bounds.pixel p = .ok q → bounds.pixel p' = .ok q' →
      (p.x ≤ p'.x → q.x.val ≤ q'.x.val) ∧ (p.y ≤ p'.y → q.y.val ≤ q'.y.val)) ∧
    (∀ p q, bounds.pixel p = .ok q →
      (Exact.value? p.x = some 0 → q.x.val = bounds.x.val) ∧
      (Exact.value? p.x = some 1 → q.x.val = bounds.right) ∧
      (Exact.value? p.y = some 0 → q.y.val = bounds.y.val) ∧
      (Exact.value? p.y = some 1 → q.y.val = bounds.bottom)) ∧
    ∀ (c : Chart) (s : Series), c.bounds = .ok bounds →
      (∀ qs, c.pixels s = .ok qs ↔ List.Forall₂ (fun p q => bounds.pixel p = .ok q) s.points qs) ∧
      ∀ fault, c.pixels s = .error fault ↔ ∃ before p after, s.points = before ++ p :: after ∧
        (∀ b ∈ before, ∃ q, bounds.pixel b = .ok q) ∧ bounds.pixel p = .error fault := by
  refine ⟨?_, ?_, ?_, ?_, ?_⟩
  · intro p fault
    rw [pixel_eq_error, ← Bool.not_eq_true, UnitPoint.inside_iff_isShare]
  · intro p hx hy
    obtain ⟨hacross, hright⟩ := hb.across.along_val hx
    obtain ⟨hdown, hbottom⟩ := hb.down.along_val hy
    exact ⟨⟨_, _⟩, pixel_eq_ok_iff.mpr ⟨⟨hx, hy⟩, rfl, rfl⟩, ⟨hright, hbottom⟩, hacross, hdown⟩
  · intro p p' q q' hq hq'
    obtain ⟨⟨hx, hy⟩, hqx, hqy⟩ := pixel_eq_ok_iff.mp hq
    obtain ⟨⟨hx', hy'⟩, hqx', hqy'⟩ := pixel_eq_ok_iff.mp hq'
    rw [hqx, hqy, hqx', hqy']
    exact ⟨hb.across.along_mono hx hx', hb.down.along_mono hy hy'⟩
  · intro p q hq
    obtain ⟨-, hqx, hqy⟩ := pixel_eq_ok_iff.mp hq
    rw [hqx, hqy]
    exact ⟨hb.across.along_zero, hb.across.along_one, hb.down.along_zero, hb.down.along_one⟩
  · intro c s hbounds
    have hpixels : c.pixels s = s.points.mapM bounds.pixel := by
      unfold Chart.pixels
      rw [hbounds]
      rfl
    rw [hpixels]
    exact ⟨fun _ => Except.mapM_eq_ok_iff_forall₂, fun _ => Except.mapM_eq_error⟩

/-- In one of the largest rectangles: the greatest float below one and the least above zero, the
ends with a negative zero, and what is no number. -/
theorem pixel_keeps_bounds_and_order_of_largest :
    let bounds : Rect := ⟨0, Pixel.clamp Pixel.least, 2147483647, 2147483647, by decide, by decide,
      by decide, by decide⟩
    let p : UnitPoint := ⟨Float.ofBits 0x3FEFFFFFFFFFFFFF, Float.ofBits 1⟩
    (∃ q, bounds.pixel p = .ok q ∧ bounds.HasPoint q ∧
      q.x.val = bounds.right - 1 ∧ q.y.val = bounds.y.val) ∧
    (∃ q, bounds.pixel ⟨1, -0⟩ = .ok q ∧ q.x.val = bounds.right ∧ q.y.val = bounds.y.val) ∧
    bounds.pixel ⟨0 / 0, 0⟩ = .error (.outsideUnitSquare ⟨0 / 0, 0⟩) := by
  intro bounds p
  have hb : bounds.Sized := ⟨by decide, by decide⟩
  obtain ⟨hrefused, hplaced, -, hends, -⟩ := pixel_keeps_bounds_and_order bounds hb
  have hshare : ∀ {x : Float}, 0 ≤ x ∧ x ≤ 1 → Exact.IsShare x := Exact.isShare_iff.mpr
  refine ⟨?_, ?_, ?_⟩
  · obtain ⟨q, hq, hinside, hx, hy⟩ :=
      hplaced p (hshare (by decide +kernel)) (hshare (by decide +kernel))
    refine ⟨q, hq, hinside, ?_, ?_⟩
    · rw [hx]
      decide +kernel
    · rw [hy]
      decide +kernel
  · obtain ⟨q, hq, -⟩ := hplaced ⟨1, -0⟩ (hshare (by decide +kernel)) (hshare (by decide +kernel))
    obtain ⟨-, hright, htop, -⟩ := hends _ q hq
    have hzero : Exact.value? (-0) = some 0 := by
      have := Exact.value?_neg value?_zero
      rwa [neg_zero] at this
    exact ⟨q, hq, hright value?_one, htop hzero⟩
  · refine (hrefused _ _).mpr ⟨fun h => ?_, rfl⟩
    exact absurd (Exact.isShare_iff.mp h.1) (by decide +kernel)

end Rect

end Placard
