/-
Placard/Proofs/Outline.lean

Where the outline of a rectangle goes.

The middle of the pen goes along a contour: the rectangle, shrunk by half of the pen's width on
every side.  `Square.ofArc?` is the square around one of the four arcs of the contour, grown by what
the pen covers beside its middle.  The numbers of the contour are computed with floats.  `Steady`
is the precision of that: either every operation may be off by `2^-21`, or the numbers are
multiples of `2^-21` and nothing is off.  The bounds are proved for both at once, one side of the
rectangle at a time (`Side`).  If the pen is wider than the rectangle, then the contour is shrunk
to nothing, but its pen is not, and every arc reaches beyond the rectangle (`arcs_beyond`).
-/
import Placard.Proofs.Arithmetic
import Placard.Proofs.Plan

namespace Placard

/-! ### Precision -/

/-- With the precision `ε`, numbers like `v` up to about `2^32` are computed: either all of them,
with an error of `2^-21` at most, or the multiples of `2^-21`, and without any error. -/
def Steady (ε v : ℚ) : Prop := ε = 2 ^ (-21 : ℤ) ∨ ε = 0 ∧ ∃ k : ℤ, v = k * 2 ^ (-21 : ℤ)

namespace Steady

variable {ε u v q : ℚ}

theorem nonneg (h : Steady ε v) : 0 ≤ ε := by
  rcases h with rfl | ⟨rfl, -⟩
  · positivity
  · exact le_rfl

theorem le_one (h : Steady ε v) : ε ≤ 1 := by
  rcases h with rfl | ⟨rfl, -⟩
  · norm_num
  · exact zero_le_one

theorem intCast_div_two (h : Steady ε v) (z : ℤ) : Steady ε (z / 2) := by
  refine h.imp_right fun ⟨hε, _⟩ => ⟨hε, z * 2 ^ 20, ?_⟩
  rw [Int.cast_mul, mul_assoc, div_eq_mul_inv]
  norm_num

theorem add (hu : Steady ε u) (hv : Steady ε v) : Steady ε (u + v) := by
  rcases hu with hε | ⟨hε, k, rfl⟩
  · exact .inl hε
  · rcases hv with hε | ⟨-, l, rfl⟩
    · exact .inl hε
    · exact .inr ⟨hε, k + l, by push_cast; ring⟩

theorem intCast (h : Steady ε v) (z : ℤ) : Steady ε z := by
  have := (h.intCast_div_two z).add (h.intCast_div_two z)
  rwa [add_halves] at this

theorem neg (hu : Steady ε u) : Steady ε (-u) :=
  hu.imp_right fun ⟨hε, k, hk⟩ => ⟨hε, -k, by rw [hk]; push_cast; ring⟩

theorem sub (hu : Steady ε u) (hv : Steady ε v) : Steady ε (u - v) := by
  rw [sub_eq_add_neg]
  exact hu.add hv.neg

/-- What is within the precision is the same number, if there are no errors. -/
theorem of_near (hv : Steady ε v) (hq : |q - v| ≤ ε) : Steady ε q := by
  rcases hv with hε | ⟨rfl, k, hk⟩
  · exact .inl hε
  · rw [sub_eq_zero.mp (abs_nonpos_iff.mp hq)]
    exact .inr ⟨rfl, k, hk⟩

/-- Rounding keeps the precision. -/
theorem near (hv : Steady ε v) (hbound : |v| ≤ 2 ^ 32 + 16 * ε) (hq : Nearest v q) :
    |q - v| ≤ ε := by
  rcases hv with rfl | ⟨rfl, k, rfl⟩
  · refine hq.error_le (n := 33) (by decide) (hbound.trans ?_)
    norm_num
  · have hplace : (0 : ℚ) < 2 ^ (-21 : ℤ) := by positivity
    have hk : |k| ≤ 2 ^ 53 := by
      rw [mul_zero, add_zero, abs_mul, abs_of_pos hplace] at hbound
      have : (|k| : ℚ) * 2 ^ (-21 : ℤ) ≤ 2 ^ 53 * 2 ^ (-21 : ℤ) := hbound.trans (by norm_num)
      exact_mod_cast le_of_mul_le_mul_right this hplace
    rw [hq.eq_of_short ⟨k, -21, hk, by decide, rfl⟩, sub_self, abs_zero]

theorem rounds (hv : Steady ε v) (hbound : |v| ≤ 2 ^ 32 + 16 * ε) {x : Float} (h : Rounds v x) :
    ∃ c, Exact.value? x = some c ∧ |c - v| ≤ ε ∧ Steady ε c := by
  obtain ⟨c, hc, hx⟩ := h
  exact ⟨c, hx, hv.near hbound hc, hv.of_near (hv.near hbound hc)⟩

theorem le_greatest (hv : Steady ε v) (hbound : |v| ≤ 2 ^ 32 + 16 * ε) : |v| ≤ greatestFinite := by
  have := hv.le_one
  refine hbound.trans (le_greatestFinite ?_)
  calc (2 : ℚ) ^ 32 + 16 * ε ≤ 2 ^ 33 := by linarith
    _ ≤ 2 ^ 1023 := pow_le_pow_right₀ one_le_two (by decide)

/-- A sum of two floats. -/
theorem sum {x y : Float} (hx : Exact.value? x = some u) (hy : Exact.value? y = some v)
    (hu : Steady ε u) (hv : Steady ε v) (hbound : |u + v| ≤ 2 ^ 32 + 16 * ε) :
    ∃ c, Exact.value? (x + y) = some c ∧ |c - (u + v)| ≤ ε ∧ Steady ε c :=
  (hu.add hv).rounds hbound (Exact.rounds_add hx hy ((hu.add hv).le_greatest hbound))

/-- A difference of two floats. -/
theorem difference {x y : Float} (hx : Exact.value? x = some u) (hy : Exact.value? y = some v)
    (hu : Steady ε u) (hv : Steady ε v) (hbound : |u - v| ≤ 2 ^ 32 + 16 * ε) :
    ∃ c, Exact.value? (x - y) = some c ∧ |c - (u - v)| ≤ ε ∧ Steady ε c :=
  (hu.sub hv).rounds hbound (Exact.rounds_sub hx hy ((hu.sub hv).le_greatest hbound))

end Steady

/-! ### One side of the contour -/

/-- Halving rounds only very small numbers. -/
theorem rounds_half {x : Float} {v : ℚ} (hx : Exact.value? x = some v) :
    Rounds (v / 2) (x / 2) := by
  refine Exact.rounds_div hx value?_two two_ne_zero ?_
  rw [abs_div, abs_two]
  have := Exact.abs_le_of_value? hx
  have := abs_nonneg v
  linarith

/-- The start and the size of the contour along a side of length `length` at `b`, of a pen of width
`σ`. -/
structure Side (ε σ : ℚ) (b length : ℤ) (start size : Float) (x w : ℚ) : Prop where
  start : Exact.value? start = some x
  size : Exact.value? size = some w
  start_near : |x - (b + σ / 2)| ≤ 2 * ε
  size_near : |w - (length - σ)| ≤ ε
  size_nonneg : 0 ≤ w
  start_steady : Steady ε x
  size_steady : Steady ε w
  half_steady : Steady ε (w / 2)

section

variable {stroke : Float} {σ ε : ℚ} {p : Pixel} {length : ℤ}

/-- The size of the contour, for any pen. -/
theorem exists_size (hσ : Exact.value? stroke = some σ) (hpos : 0 < σ) (hlength : 0 < length)
    (hle : length < 2 ^ 32) : ∃ n, Nearest (length - σ) n ∧
      Exact.value? (greater (Float.ofInt length - stroke) 0) = some (max n 0) := by
  have hvalue : Exact.value? (Float.ofInt length) = some (length : ℚ) :=
    value?_ofInt (abs_lt.mpr (by omega))
  have hlength' : (0 : ℚ) < length := by exact_mod_cast hlength
  have hle' : (length : ℚ) < 2 ^ 32 := by exact_mod_cast hle
  have hmax : |length - σ| ≤ greatestFinite := by
    have hσmax := (le_abs_self σ).trans (Exact.abs_le_of_value? hσ)
    have hbig : (2 : ℚ) ^ 32 ≤ greatestFinite :=
      le_greatestFinite (pow_le_pow_right₀ one_le_two (by decide))
    rw [abs_le]
    constructor <;> linarith
  obtain ⟨n, hn, hdiff⟩ := Exact.rounds_sub hvalue hσ hmax
  exact ⟨n, hn, value?_greater hdiff value?_zero⟩

/-- A pen that is not wider than the side. -/
theorem exists_side (hσ : Exact.value? stroke = some σ) (hpos : 0 < σ) (hlength : 0 < length)
    (hend : p.val + length ≤ 2147483647) (hle : σ ≤ length) (hsteady : Steady ε (σ / 2)) :
    ∃ x w, Side ε σ p.val length (p.toFloat + stroke / 2)
      (greater (Float.ofInt length - stroke) 0) x w := by
  have hp := p.least_le
  have hε := hsteady.nonneg
  have hlength' : (length : ℚ) ≤ 2 ^ 32 := by
    have : length ≤ 2 ^ 32 := by omega
    exact_mod_cast this
  -- the size
  have hσsteady : Steady ε σ := by
    have := hsteady.add hsteady
    rwa [add_halves] at this
  obtain ⟨n, hn, hsize⟩ := exists_size hσ hpos hlength (by omega)
  have hn0 : 0 ≤ n := hn.ge_of_ge .zero (by linarith)
  have hnsteady : Steady ε (length - σ) := (hsteady.intCast length).sub hσsteady
  have hnnear : |n - (length - σ)| ≤ ε :=
    hnsteady.near (by rw [abs_of_nonneg (by linarith)]; linarith) hn
  have hhalf : Steady ε ((length - σ) / 2) := by
    rw [sub_div]
    exact (hsteady.intCast_div_two length).sub hsteady
  have hnhalf : |n / 2 - (length - σ) / 2| ≤ ε := by
    rw [← sub_div, abs_div, abs_two]
    have := abs_nonneg (n - (length - σ))
    linarith
  -- the start
  obtain ⟨i, hinset, hinear, histeady⟩ :=
    hsteady.rounds (by rw [abs_of_pos (by linarith)]; linarith) (rounds_half hσ)
  have hi := abs_le.mp hinear
  have hstart : |p.val + i| ≤ 2 ^ 32 + 16 * ε := by
    have hp' : (-2 ^ 31 : ℚ) ≤ p.val := by exact_mod_cast hp
    have hend' : (p.val + length : ℚ) ≤ 2 ^ 31 := by
      have : p.val + length ≤ 2 ^ 31 := by omega
      exact_mod_cast this
    rw [abs_le]
    constructor <;> linarith
  obtain ⟨x, hsum, hxnear, hxsteady⟩ :=
    Steady.sum p.value?_toFloat hinset (hsteady.intCast p.val) histeady hstart
  have hx := abs_le.mp hxnear
  refine ⟨x, n, hsum, ?_, abs_le.mpr ?_, hnnear, hn0, hxsteady, hnsteady.of_near hnnear,
    hhalf.of_near hnhalf⟩
  · rw [hsize, max_eq_left hn0]
  · constructor <;> linarith

/-- A pen that is wider than the side: its middle stays in the second half of the side, and so the
pen reaches beyond the end of it. -/
theorem exists_short_side (hσ : Exact.value? stroke = some σ) (hlength : 0 < length)
    (hend : p.val + length ≤ 2147483647) (hlt : length < σ) :
    ∃ x, Exact.value? (p.toFloat + stroke / 2) = some x ∧
      Exact.value? (greater (Float.ofInt length - stroke) 0) = some 0 ∧
      p.val + length < x + σ / 2 := by
  have hp := p.least_le
  have hone : (1 : ℚ) ≤ length := by exact_mod_cast hlength
  have hσmax := (le_abs_self σ).trans (Exact.abs_le_of_value? hσ)
  obtain ⟨n, hn, hsize⟩ := exists_size hσ (by linarith) hlength (by omega)
  have hn0 : n ≤ 0 := hn.le_of_le .zero (by linarith)
  -- so wide a pen is halved exactly
  have hinset : Exact.value? (stroke / 2) = some (σ / 2) :=
    (rounds_half hσ).value? ((Exact.short_of_value? hσ).half (by linarith))
  have hp' : (-2 ^ 31 : ℚ) ≤ p.val := by exact_mod_cast hp
  have hp'' : (p.val : ℚ) ≤ 2 ^ 31 := by
    have : p.val ≤ 2 ^ 31 := by omega
    exact_mod_cast this
  have hmax : |p.val + σ / 2| ≤ greatestFinite := by
    have hbig : (2 : ℚ) ^ 32 ≤ greatestFinite :=
      le_greatestFinite (pow_le_pow_right₀ one_le_two (by decide))
    rw [abs_le]
    constructor <;> linarith
  obtain ⟨x, hx, hsum⟩ := Exact.rounds_add p.value?_toFloat hinset hmax
  have hmiddle : ((2 * p.val + length : ℤ) / 2 : ℚ) ≤ x := by
    refine hx.ge_of_ge (.ofInt_div_two (abs_le.mpr (by omega))) ?_
    push_cast
    linarith
  push_cast at hmiddle
  refine ⟨x, hsum, ?_, by linarith⟩
  rw [hsize, max_eq_right hn0]

end

/-! ### The radius -/

section

variable {radius stroke size size' : Float} {ρ σ ε w w' : ℚ}

/-- The radius is at least zero, and within half of the smaller size. -/
theorem exists_radius (hρ : Exact.value? radius = some ρ) (hρ0 : 0 ≤ ρ)
    (hσ : Exact.value? stroke = some σ) (hσ0 : 0 < σ) (hw : Exact.value? size = some w)
    (hw0 : 0 ≤ w) (hw' : Exact.value? size' = some w') (hw0' : 0 ≤ w') :
    ∃ i n m, Nearest (σ / 2) i ∧ Nearest (ρ - i) n ∧ Nearest (min w w' / 2) m ∧ 0 ≤ m ∧
      Exact.value? (limitTo (radius - stroke / 2) 0 (smaller size size' / 2)) =
        some (max 0 (min n m)) := by
  obtain ⟨i, hi, hinset⟩ := rounds_half hσ
  obtain ⟨m, hm, hhalf⟩ := rounds_half (value?_smaller hw hw')
  have hi0 : 0 ≤ i := hi.ge_of_ge .zero (by linarith)
  have hm0 : 0 ≤ m := hm.ge_of_ge .zero (by have := le_min hw0 hw0'; linarith)
  have hmax : |ρ - i| ≤ greatestFinite := by
    have hρmax := (le_abs_self ρ).trans (Exact.abs_le_of_value? hρ)
    have himax := (le_abs_self i).trans (Exact.abs_le_of_value? hinset)
    rw [abs_le]
    constructor <;> linarith
  obtain ⟨n, hn, hdiff⟩ := Exact.rounds_sub hρ hinset hmax
  exact ⟨i, n, m, hi, hn, hm, hm0, value?_limitTo hdiff value?_zero hhalf hm0⟩

/-- The radius is computed with the same precision. -/
theorem radius_steady {i n m : ℚ} (hρ0 : 0 ≤ ρ) (hρ : Steady ε ρ) (hσ0 : 0 < σ)
    (hσ : Steady ε (σ / 2)) (hσle : σ ≤ 2 ^ 32) (hw : Steady ε (w / 2)) (hwle : w ≤ 2 ^ 32 + ε)
    (hw0 : 0 ≤ w) (hw' : Steady ε (w' / 2)) (hw0' : 0 ≤ w') (hi : Nearest (σ / 2) i)
    (hn : Nearest (ρ - i) n) (hm : Nearest (min w w' / 2) m) (hm0 : 0 ≤ m) :
    Steady ε (max 0 (min n m)) ∧ 2 * max 0 (min n m) ≤ min w w' + 2 * ε := by
  have hε := hσ.nonneg
  have hε1 := hσ.le_one
  have hmin0 : 0 ≤ min w w' := le_min hw0 hw0'
  have hminle : min w w' ≤ w := min_le_left w w'
  have hinear : |i - σ / 2| ≤ ε := hσ.near (by rw [abs_of_pos (by linarith)]; linarith) hi
  have hi' := abs_le.mp hinear
  have hmin : Steady ε (min w w' / 2) := by
    rcases min_choice w w' with h | h
    · rwa [h]
    · rwa [h]
  have hmnear : |m - min w w' / 2| ≤ ε :=
    hmin.near (by rw [abs_of_nonneg (by linarith)]; linarith) hm
  have hm' := abs_le.mp hmnear
  refine ⟨?_, ?_⟩
  · rcases le_total n m with hnm | hmn
    · rcases le_total n 0 with hn0 | hn0
      · rw [min_eq_left hnm, max_eq_left hn0]
        have := hσ.intCast 0
        rwa [Int.cast_zero] at this
      · -- a difference as great as `2^32` would not stay below the limit
        have hsmall : ρ - i ≤ 2 ^ 32 := by
          by_contra! hlarge
          have hlimit : (2 : ℚ) ^ 32 ≤ n :=
            hn.ge_of_ge ⟨2 ^ 32, 0, by decide, by decide, by norm_num⟩ hlarge.le
          linarith
        have hρi : Steady ε (ρ - i) := hρ.sub (hσ.of_near hinear)
        rw [min_eq_left hnm, max_eq_right hn0]
        refine hρi.of_near (hρi.near (abs_le.mpr ?_) hn)
        constructor <;> linarith
    · rw [min_eq_right hmn, max_eq_right hm0]
      exact hmin.of_near hmnear
  · have : max 0 (min n m) ≤ m := max_le hm0 (min_le_right n m)
    linarith

end

/-! ### The ends of the contour -/

namespace Side

variable {ε σ x w r : ℚ} {b length : ℤ} {start size radius : Float}

/-- The arcs at the start of a side: with the pen, they reach to both ends of it at most. -/
theorem near_arc (h : Side ε σ b length start size x w) (hb : -2 ^ 31 ≤ b)
    (hend : b + length ≤ 2 ^ 31) (hσ : 0 < σ) (hσle : σ ≤ length)
    (hr : Exact.value? radius = some r) (hr0 : 0 ≤ r) (hrw : 2 * r ≤ w + 2 * ε)
    (hrs : Steady ε r) :
    ∃ c, Exact.value? (start + radius) = some c ∧
      b - 6 * ε ≤ c - (r + σ / 2) ∧ c + (r + σ / 2) ≤ b + length + 6 * ε := by
  have hε := hrs.nonneg
  have hb' : (-2 ^ 31 : ℚ) ≤ b := by exact_mod_cast hb
  have hend' : (b + length : ℚ) ≤ 2 ^ 31 := by exact_mod_cast hend
  have hx := abs_le.mp h.start_near
  have hw := abs_le.mp h.size_near
  obtain ⟨c, hc, hcnear, -⟩ := Steady.sum h.start hr h.start_steady hrs (by
    rw [abs_le]
    constructor <;> linarith)
  have hc' := abs_le.mp hcnear
  exact ⟨c, hc, by linarith, by linarith⟩

/-- The arcs at the end of a side. -/
theorem far_arc (h : Side ε σ b length start size x w) (hb : -2 ^ 31 ≤ b)
    (hend : b + length ≤ 2 ^ 31) (hσ : 0 < σ) (hr : Exact.value? radius = some r) (hr0 : 0 ≤ r)
    (hrw : 2 * r ≤ w + 2 * ε) (hrs : Steady ε r) :
    ∃ c, Exact.value? (start + size - radius) = some c ∧
      b - 6 * ε ≤ c - (r + σ / 2) ∧ c + (r + σ / 2) ≤ b + length + 6 * ε := by
  have hε := hrs.nonneg
  have hb' : (-2 ^ 31 : ℚ) ≤ b := by exact_mod_cast hb
  have hend' : (b + length : ℚ) ≤ 2 ^ 31 := by exact_mod_cast hend
  have hx := abs_le.mp h.start_near
  have hw := abs_le.mp h.size_near
  obtain ⟨d, hd, hdnear, hds⟩ := Steady.sum h.start h.size h.start_steady h.size_steady (by
    rw [abs_le]
    constructor <;> linarith)
  have hd' := abs_le.mp hdnear
  obtain ⟨c, hc, hcnear, -⟩ := Steady.difference hd hr hds hrs (by
    rw [abs_le]
    constructor <;> linarith)
  have hc' := abs_le.mp hcnear
  exact ⟨c, hc, by linarith, by linarith⟩

end Side

/-! ### The squares around the arcs -/

/-- The middle and the radius of every arc. -/
def Script.arcs (script : Script) : List (Float × Float × Float) :=
  script.filterMap fun
    | .arc x y radius _ _ => some (x, y, radius)
    | _ => none

/-- Every width that the pen is given. -/
def Script.pens (script : Script) : List Float :=
  script.filterMap fun
    | .setLineWidth width => some width
    | _ => none

/-- A square, by its middle and how far it reaches from there. -/
structure Square where
  x : ℚ
  y : ℚ
  reach : ℚ

namespace Square

/-- What an arc reaches at most: the square around its circle, grown by half of the pen's width. -/
def ofArc? (pen : Float) (arc : Float × Float × Float) : Option Square := do
  let x ← Exact.value? arc.1
  let y ← Exact.value? arc.2.1
  let radius ← Exact.value? arc.2.2
  let width ← Exact.value? pen
  return ⟨x, y, radius + width / 2⟩

/-- The square reaches beyond no edge of the rectangle by more than `slack`. -/
def Within (r : Rect) (slack : ℚ) (q : Square) : Prop :=
  (r.x.val - slack ≤ q.x - q.reach ∧ q.x + q.reach ≤ r.x.val + r.width + slack) ∧
    r.y.val - slack ≤ q.y - q.reach ∧ q.y + q.reach ≤ r.y.val + r.height + slack

theorem Within.mono {r : Rect} {a b : ℚ} {q : Square} (h : q.Within r a) (hab : a ≤ b) :
    q.Within r b := by
  obtain ⟨⟨hleft, hright⟩, htop, hbottom⟩ := h
  exact ⟨⟨by linarith, by linarith⟩, by linarith, by linarith⟩

/-- Four squares, in the order of the corners of a contour. -/
def corners (x x' y y' reach : ℚ) : List Square :=
  [⟨x', y, reach⟩, ⟨x', y', reach⟩, ⟨x, y', reach⟩, ⟨x, y, reach⟩]

variable {r : Rect} {slack x x' y y' reach : ℚ}

theorem corners_within
    (hx : r.x.val - slack ≤ x - reach ∧ x + reach ≤ r.x.val + r.width + slack)
    (hx' : r.x.val - slack ≤ x' - reach ∧ x' + reach ≤ r.x.val + r.width + slack)
    (hy : r.y.val - slack ≤ y - reach ∧ y + reach ≤ r.y.val + r.height + slack)
    (hy' : r.y.val - slack ≤ y' - reach ∧ y' + reach ≤ r.y.val + r.height + slack) :
    ∀ q ∈ corners x x' y y' reach, q.Within r slack := by
  simp only [corners, List.forall_mem_cons]
  exact ⟨⟨hx', hy⟩, ⟨hx', hy'⟩, ⟨hx, hy'⟩, ⟨hx, hy⟩, List.forall_mem_nil _⟩

end Square

theorem Contour.arcs_path {c : Contour} {pen : Float} {x x' y y' ρ σ : ℚ}
    (hx : Exact.value? (c.x + c.radius) = some x)
    (hx' : Exact.value? (c.x + c.width - c.radius) = some x')
    (hy : Exact.value? (c.y + c.radius) = some y)
    (hy' : Exact.value? (c.y + c.height - c.radius) = some y')
    (hρ : Exact.value? c.radius = some ρ) (hσ : Exact.value? pen = some σ) :
    c.path.arcs.map (Square.ofArc? pen) =
      (Square.corners x x' y y' (ρ + σ / 2)).map some := by
  simp [Contour.path, Script.arcs, Square.ofArc?, Square.corners, hx, hx', hy, hy', hρ, hσ]

/-- Filling and stroking add no arcs, and the pen is set once. -/
theorem script_roundedRect (bounds : Rect) (radius : Float) (fill : Option Color) (color : Color)
    (width : Float) :
    Script.arcs (Primitive.figureScript (.roundedRect bounds radius fill (some color) width)) =
        (Contour.ofRect bounds radius width).path.arcs ∧
      Script.pens (Primitive.figureScript (.roundedRect bounds radius fill (some color) width)) =
        [width] := by
  cases fill <;>
    simp [Primitive.figureScript, Contour.path, fillScript, outlineScript, Script.arcs,
      Script.pens]

/-! ### Arcs of no radius -/

section

variable {stroke radius : Float} {σ : ℚ} {p : Pixel} {length : ℤ}

/-- Where the arcs along a side are if they have no radius.  A pen that is wider than the side
reaches beyond its end. -/
theorem exists_centres (hσ : Exact.value? stroke = some σ) (hpos : 0 < σ) (hlength : 0 < length)
    (hend : p.val + length ≤ 2147483647) (hr : Exact.value? radius = some 0) :
    ∃ c c', Exact.value? (p.toFloat + stroke / 2 + radius) = some c ∧
      Exact.value? (p.toFloat + stroke / 2 + greater (Float.ofInt length - stroke) 0 - radius) =
        some c' ∧
      (length < σ → p.val + length < c + σ / 2 ∧ p.val + length < c' + σ / 2) := by
  have hp := p.least_le
  rcases le_or_gt σ (length : ℚ) with hle | hlt
  · have hsteady : ∀ v, Steady (2 ^ (-21 : ℤ)) v := fun _ => .inl rfl
    obtain ⟨x, w, hside⟩ := exists_side (p := p) hσ hpos hlength hend hle (hsteady _)
    have hw := hside.size_nonneg
    have hrw : 2 * (0 : ℚ) ≤ w + 2 * 2 ^ (-21 : ℤ) := by
      have : (0 : ℚ) < 2 ^ (-21 : ℤ) := by positivity
      linarith
    obtain ⟨c, hc, -⟩ :=
      hside.near_arc (by omega) (by omega) hpos hle hr le_rfl hrw (hsteady _)
    obtain ⟨c', hc', -⟩ :=
      hside.far_arc (by omega) (by omega) hpos hr le_rfl hrw (hsteady _)
    exact ⟨c, c', hc, hc', fun hlt => absurd hle (not_le.mpr hlt)⟩
  · obtain ⟨x, hx, hsize, hbeyond⟩ := exists_short_side (p := p) hσ hlength hend hlt
    have hshort := Exact.short_of_value? hx
    have hmax := Exact.abs_le_of_value? hx
    have hc := (Exact.rounds_add hx hr (by rwa [add_zero])).value? (by rwa [add_zero])
    have hd := (Exact.rounds_add hx hsize (by rwa [add_zero])).value? (by rwa [add_zero])
    rw [add_zero] at hc hd
    have hc' := (Exact.rounds_sub hd hr (by rwa [sub_zero])).value? (by rwa [sub_zero])
    rw [sub_zero] at hc'
    exact ⟨x, x, hc, hc', fun _ => ⟨hbeyond, hbeyond⟩⟩

end

/-! ### The outline and its rectangle -/

section

variable {bounds : Rect} {radius width : Float} {ρ σ ε : ℚ}

/-- A pen that fits: all arcs lie within the rectangle, up to the errors of the computation. -/
theorem arcs_within (hρ : Exact.value? radius = some ρ) (hρ0 : 0 ≤ ρ)
    (hσ : Exact.value? width = some σ) (hσ0 : 0 < σ) (hwidth : σ ≤ bounds.width)
    (hheight : σ ≤ bounds.height) (hρs : Steady ε ρ) (hσs : Steady ε (σ / 2)) :
    ∃ squares : List Square, squares.length = 4 ∧
      (Contour.ofRect bounds radius width).path.arcs.map (Square.ofArc? width) =
        squares.map some ∧ ∀ q ∈ squares, q.Within bounds (6 * ε) := by
  have hx := bounds.x.least_le
  have hy := bounds.y.least_le
  have hright := bounds.right_le
  have hbottom := bounds.bottom_le
  obtain ⟨x, w, hw⟩ := exists_side hσ hσ0 bounds.width_pos hright hwidth hσs
  obtain ⟨y, h, hh⟩ := exists_side hσ hσ0 bounds.height_pos hbottom hheight hσs
  obtain ⟨i, n, m, hi, hn, hm, hm0, hr⟩ :=
    exists_radius hρ hρ0 hσ hσ0 hw.size hw.size_nonneg hh.size hh.size_nonneg
  have hlength : (bounds.width : ℚ) ≤ 2 ^ 32 := by
    have : bounds.width ≤ 2 ^ 32 := by omega
    exact_mod_cast this
  have hwle : w ≤ 2 ^ 32 + ε := by
    have := abs_le.mp hw.size_near
    linarith
  obtain ⟨hrs, hrle⟩ := radius_steady hρ0 hρs hσ0 hσs (hwidth.trans hlength) hw.half_steady hwle
    hw.size_nonneg hh.half_steady hh.size_nonneg hi hn hm hm0
  have hr0 : 0 ≤ max 0 (min n m) := le_max_left _ _
  generalize max 0 (min n m) = r at hr hrs hrle hr0
  have hrw : 2 * r ≤ w + 2 * ε := by have := min_le_left w h; linarith
  have hrh : 2 * r ≤ h + 2 * ε := by have := min_le_right w h; linarith
  obtain ⟨x₁, hx₁, hin₁⟩ := hw.near_arc (by omega) (by omega) hσ0 hwidth hr hr0 hrw hrs
  obtain ⟨x₂, hx₂, hin₂⟩ := hw.far_arc (by omega) (by omega) hσ0 hr hr0 hrw hrs
  obtain ⟨y₁, hy₁, hin₃⟩ := hh.near_arc (by omega) (by omega) hσ0 hheight hr hr0 hrh hrs
  obtain ⟨y₂, hy₂, hin₄⟩ := hh.far_arc (by omega) (by omega) hσ0 hr hr0 hrh hrs
  exact ⟨Square.corners x₁ x₂ y₁ y₂ (r + σ / 2), rfl,
    Contour.arcs_path hx₁ hx₂ hy₁ hy₂ hr hσ, Square.corners_within hin₁ hin₂ hin₃ hin₄⟩

/-- A pen that is wider or higher than the rectangle: every arc reaches beyond it. -/
theorem arcs_beyond (hρ : Exact.value? radius = some ρ) (hρ0 : 0 ≤ ρ)
    (hσ : Exact.value? width = some σ) (hσ0 : 0 < σ)
    (hlarge : bounds.width < σ ∨ bounds.height < σ) :
    ∃ squares : List Square, squares.length = 4 ∧
      (Contour.ofRect bounds radius width).path.arcs.map (Square.ofArc? width) =
        squares.map some ∧ ∀ q ∈ squares, ¬ q.Within bounds 0 := by
  have hx := bounds.x.least_le
  have hy := bounds.y.least_le
  have hright := bounds.right_le
  have hbottom := bounds.bottom_le
  obtain ⟨n, hn, hw⟩ := exists_size hσ hσ0 bounds.width_pos (by omega)
  obtain ⟨n', hn', hh⟩ := exists_size hσ hσ0 bounds.height_pos (by omega)
  obtain ⟨i, k, m, -, -, hm, hm0, hr⟩ :=
    exists_radius hρ hρ0 hσ hσ0 hw (le_max_right _ _) hh (le_max_right _ _)
  -- one size is zero, and then so is the radius
  have hmin : min (max n 0) (max n' 0) = 0 := by
    rcases hlarge with hlt | hlt
    · rw [max_eq_right (hn.le_of_le .zero (by linarith))]
      exact min_eq_left (le_max_right _ _)
    · rw [max_eq_right (hn'.le_of_le .zero (by linarith))]
      exact min_eq_right (le_max_right _ _)
  have hmzero : m = 0 := by
    rw [hmin, zero_div] at hm
    exact hm.eq_of_short .zero
  have hzero : max 0 (min k m) = 0 := by
    rw [hmzero]
    exact max_eq_left (min_le_right _ _)
  rw [hzero] at hr
  obtain ⟨x₁, x₂, hx₁, hx₂, hbeyond⟩ := exists_centres hσ hσ0 bounds.width_pos hright hr
  obtain ⟨y₁, y₂, hy₁, hy₂, hbeyond'⟩ := exists_centres hσ hσ0 bounds.height_pos hbottom hr
  refine ⟨Square.corners x₁ x₂ y₁ y₂ (0 + σ / 2), rfl,
    Contour.arcs_path hx₁ hx₂ hy₁ hy₂ hr hσ, ?_⟩
  simp only [Square.corners, List.forall_mem_cons, Square.Within, zero_add, add_zero]
  rcases hlarge with hlt | hlt
  · obtain ⟨h₁, h₂⟩ := hbeyond hlt
    exact ⟨fun h => absurd h.1.2 (not_le.mpr h₂), fun h => absurd h.1.2 (not_le.mpr h₂),
      fun h => absurd h.1.2 (not_le.mpr h₁), fun h => absurd h.1.2 (not_le.mpr h₁),
      List.forall_mem_nil _⟩
  · obtain ⟨h₁, h₂⟩ := hbeyond' hlt
    exact ⟨fun h => absurd h.2.2 (not_le.mpr h₁), fun h => absurd h.2.2 (not_le.mpr h₂),
      fun h => absurd h.2.2 (not_le.mpr h₂), fun h => absurd h.2.2 (not_le.mpr h₁),
      List.forall_mem_nil _⟩

/-- A rectangle with a radius that is not negative and a pen that has a width is not refused. -/
theorem fault?_outlined (hρ : Exact.value? radius = some ρ) (hρ0 : 0 ≤ ρ)
    (hσ : Exact.value? width = some σ) (hσ0 : 0 < σ) (bounds : Rect) (fill : Option Color)
    (color : Color) :
    (Primitive.roundedRect bounds radius fill (some color) width).fault? = none := by
  have hnegative : ¬ radius < 0 := fun h =>
    absurd ((Exact.lt_iff hρ value?_zero).mp h) (not_lt.mpr hρ0)
  have hfinite : radius.isFinite = true := Exact.isFinite_iff.mpr ⟨ρ, hρ⟩
  have hwidth : ¬ width ≤ 0 := fun h =>
    absurd ((Exact.le_iff hσ value?_zero).mp h) (not_le.mpr hσ0)
  rw [Primitive.fault?, if_neg (by rw [hfinite]; simpa using hnegative), if_neg fun h => hwidth h.2]

/-- **Outlines and their rectangles.**  An outlined rectangle is drawn with four arcs, and the pen
is set once, to the width of the outline.  A pen that is wider or higher than the rectangle takes
every arc beyond it.  With any other pen all arcs stay within the rectangle: exactly so if radius
and width are multiples of `2^-20`, and up to the rounding of the computation, less than `2^-18`,
otherwise. -/
theorem arcs_of_outlined_rect (d : Device) (bounds : Rect) (fill : Option Color) (color : Color)
    (hρ : Exact.value? radius = some ρ) (hρ0 : 0 ≤ ρ) (hσ : Exact.value? width = some σ)
    (hσ0 : 0 < σ)
    (hrun : (d.run (Primitive.roundedRect bounds radius fill (some color) width).draw).1 ≠
      .error .device) :
    let run := d.run (Primitive.roundedRect bounds radius fill (some color) width).draw
    run.1 = .ok () ∧ ∃ (calls : Script) (squares : List Square),
      run.2.recording = d.recording ++ calls ∧ calls.pens = [width] ∧ squares.length = 4 ∧
      calls.arcs.map (Square.ofArc? width) = squares.map some ∧
      (bounds.width < σ ∨ bounds.height < σ → ∀ q ∈ squares, ¬ q.Within bounds 0) ∧
      (σ ≤ bounds.width → σ ≤ bounds.height →
        (∀ q ∈ squares, q.Within bounds (2 ^ (-18 : ℤ))) ∧
        ((∃ k : ℤ, ρ = k * 2 ^ (-20 : ℤ)) → (∃ k : ℤ, σ = k * 2 ^ (-20 : ℤ)) →
          ∀ q ∈ squares, q.Within bounds 0)) := by
  intro run
  have hfault := fault?_outlined hρ hρ0 hσ hσ0 bounds fill color
  obtain ⟨harcs, hpens⟩ := script_roundedRect bounds radius fill color width
  have hplan : (Primitive.roundedRect bounds radius fill (some color) width).plan d.ascentOf =
      Trace.steps (Primitive.roundedRect bounds radius fill (some color) width).figureScript := by
    rw [Primitive.plan, hfault]
    rfl
  have hdone : run = (.ok (), d.record
      (Primitive.figureScript (.roundedRect bounds radius fill (some color) width))) := by
    show d.run _ = _
    rw [(Primitive.follows_draw _).run_of_not_refused hrun, hplan]
    rfl
  rw [hdone]
  have hrecording := Device.recording_record d
    (Primitive.figureScript (.roundedRect bounds radius fill (some color) width))
  rcases lt_or_ge (bounds.width : ℚ) σ with hwide | hwidth
  · obtain ⟨squares, hfour, hsquares, hbeyond⟩ := arcs_beyond hρ hρ0 hσ hσ0 (.inl hwide)
    exact ⟨rfl, _, squares, hrecording, hpens, hfour, by rw [harcs, hsquares], fun _ => hbeyond,
      fun hfits => absurd hwide (not_lt.mpr hfits)⟩
  rcases lt_or_ge (bounds.height : ℚ) σ with hhigh | hheight
  · obtain ⟨squares, hfour, hsquares, hbeyond⟩ := arcs_beyond hρ hρ0 hσ hσ0 (.inr hhigh)
    exact ⟨rfl, _, squares, hrecording, hpens, hfour, by rw [harcs, hsquares], fun _ => hbeyond,
      fun _ hfits => absurd hhigh (not_lt.mpr hfits)⟩
  · obtain ⟨squares, hfour, hsquares, hwithin⟩ :=
      arcs_within hρ hρ0 hσ hσ0 hwidth hheight (.inl rfl) (.inl rfl)
    refine ⟨rfl, _, squares, hrecording, hpens, hfour, by rw [harcs, hsquares], ?_, fun _ _ => ?_⟩
    · rintro (hlt | hlt)
      · exact absurd hlt (not_lt.mpr hwidth)
      · exact absurd hlt (not_lt.mpr hheight)
    · refine ⟨fun q hq => (hwithin q hq).mono (by norm_num), ?_⟩
      rintro ⟨k, hk⟩ ⟨l, hl⟩
      -- multiples of `2^-20` are computed without errors
      have hρs : Steady 0 ρ := .inr ⟨rfl, 2 * k, by rw [hk]; push_cast; norm_num; ring⟩
      have hσs : Steady 0 (σ / 2) := .inr ⟨rfl, l, by rw [hl]; norm_num; ring⟩
      obtain ⟨squares', -, hsquares', hexact⟩ :=
        arcs_within hρ hρ0 hσ hσ0 hwidth hheight hρs hσs
      rw [hsquares, List.map_inj_right fun _ _ => Option.some.inj] at hsquares'
      rw [hsquares', mul_zero] at *
      exact hexact

/-- An outlined rectangle with round corners, as panels have them. -/
theorem arcs_of_large_rect :
    let bounds : Rect := ⟨40, 50, 100, 60, by decide, by decide, by decide, by decide⟩
    let run := Device.run {}
      (Primitive.roundedRect bounds 20 none (some Theme.standard.border) 2).draw
    run.1 = .ok () ∧ ∃ squares : List Square,
      squares.length = 4 ∧
      (Script.arcs run.2.recording).map (Square.ofArc? 2) = squares.map some ∧
      ∀ q ∈ squares, q.Within bounds 0 := by
  intro bounds run
  have hρ : Exact.value? 20 = some 20 := value?_ofNat (n := 20) (by decide)
  obtain ⟨hok, calls, squares, hcalls, -, hfour, hsquares, -, hfits⟩ :=
    arcs_of_outlined_rect {} bounds none Theme.standard.border hρ (by norm_num) value?_two
      (by norm_num) ((Primitive.follows_draw _).not_refused rfl)
  have hexact := (hfits (by norm_num [bounds]) (by norm_num [bounds])).2
    ⟨20 * 2 ^ 20, by norm_num⟩ ⟨2 * 2 ^ 20, by norm_num⟩
  rw [hcalls]
  exact ⟨hok, squares, hfour, hsquares, hexact⟩

end

/-- The smallest panel is outlined beyond its rectangle: all four arcs have no radius and are in the
lower right corner, and the pen reaches one pixel further from there. -/
theorem outline_beyond_smallest_panel :
    let bounds : Rect := ⟨10, 10, 1, 1, by decide, by decide, by decide, by decide⟩
    let run := Device.run {} ((Shape.panel 10 10 1 1 none).draw .plain)
    Rect.ofSize 10 10 1 1 = .ok bounds ∧ run.1 = .ok () ∧
      Script.pens run.2.recording = [outlineWidth] ∧
      (Script.arcs run.2.recording).map (Square.ofArc? outlineWidth) =
        List.replicate 4 (some ⟨11, 11, 1⟩) ∧
      ¬ Square.Within bounds 0 ⟨11, 11, 1⟩ := by
  intro bounds run
  let plan := (Shape.panel 10 10 1 1 none).plan (Device.ascentOf {}) .plain
  have hrun : run = (.ok (), Device.record {} plan.items) :=
    (Shape.follows_draw .plain (.panel 10 10 1 1 none)).run_of_refusing_none rfl
  have hrecording : run.2.recording = plan.items := by rw [hrun, Device.recording_record]; rfl
  have harcs : Script.arcs plan.items = List.replicate 4 (11, 11, 0) := by decide +kernel
  have hcentre : Exact.value? 11 = some 11 := value?_ofNat (n := 11) (by decide)
  have hpen : Exact.value? outlineWidth = some 2 := value?_two
  rw [hrecording, hrun]
  refine ⟨rfl, rfl, rfl, ?_, ?_⟩
  · rw [harcs, List.map_replicate, Square.ofArc?, hcentre, value?_zero, hpen]
    norm_num
  · intro h
    have hright : (11 + 1 : ℚ) ≤ (10 : ℤ) + (1 : ℤ) + 0 := h.1.2
    norm_num at hright

end Placard
