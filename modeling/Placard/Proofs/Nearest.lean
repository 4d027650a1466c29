/-
Placard/Proofs/Nearest.lean

Rounding of exact numbers to 53 binary digits.

`Short` are the numbers with at most 53 digits, with no bound above, and `Nearest v q` says that no
short number is nearer to `v` than `q` is.  How ties are broken is left open.  What is computed with
rounded numbers needs only this: short numbers are kept (`Nearest.eq_of_short`), rounding does not
go past a short number (`Nearest.le_of_le`), and the error is bounded (`Nearest.error_le`).
-/
import Mathlib.Algebra.Order.Round
import Mathlib.Data.Rat.Floor
import Mathlib.Algebra.Order.Field.Power
import Mathlib.Tactic.Linarith
import Mathlib.Tactic.Ring

namespace Placard

/-! ### Short numbers -/

/-- A number of at most 53 significant binary digits, none of them below the place of `2^-1074`.
There is no greatest such number. -/
def Short (v : ℚ) : Prop := ∃ m e : ℤ, |m| ≤ 2 ^ 53 ∧ -1074 ≤ e ∧ v = m * 2 ^ e

/-- The short number `q` is as near to `v` as any other. -/
structure Nearest (v q : ℚ) : Prop where
  short : Short q
  least : ∀ p, Short p → |q - v| ≤ |p - v|

namespace Short

variable {v : ℚ}

theorem neg (h : Short v) : Short (-v) := by
  obtain ⟨m, e, hm, he, rfl⟩ := h
  exact ⟨-m, e, by rwa [abs_neg], he, by push_cast; ring⟩

theorem intCast {z : ℤ} (h : |z| ≤ 2 ^ 53) : Short z :=
  ⟨z, 0, h, by decide, by rw [zpow_zero, mul_one]⟩

theorem ofInt_div_two {z : ℤ} (h : |z| ≤ 2 ^ 53) : Short (z / 2) :=
  ⟨z, -1, h, by decide, by rw [zpow_neg_one, div_eq_mul_inv]⟩

/-- Half of a short number is short, unless the number is too small. -/
theorem half (h : Short v) (hv : 1 ≤ v) : Short (v / 2) := by
  obtain ⟨m, e, hm, he, rfl⟩ := h
  refine ⟨m, e - 1, hm, ?_, by rw [zpow_sub_one₀ two_ne_zero]; ring⟩
  by_contra! hlt
  have hm' : (m : ℚ) ≤ 2 ^ 53 := by exact_mod_cast (le_abs_self m).trans hm
  have : (1 : ℚ) < 1 :=
    calc (1 : ℚ) ≤ m * 2 ^ e := hv
      _ ≤ 2 ^ 53 * 2 ^ e := mul_le_mul_of_nonneg_right hm' (by positivity)
      _ = 2 ^ (53 + e) := by rw [zpow_add₀ two_ne_zero]; rfl
      _ < 2 ^ (0 : ℤ) := zpow_lt_zpow_right₀ one_lt_two (by omega)
      _ = 1 := zpow_zero 2
  exact lt_irrefl _ this

theorem zero : Short 0 := ⟨0, 0, by decide, by decide, by norm_num⟩

end Short

namespace Nearest

variable {v q a : ℚ}

theorem neg (h : Nearest v q) : Nearest (-v) (-q) := by
  refine ⟨h.short.neg, fun p hp => ?_⟩
  calc |-q - -v| = |q - v| := by rw [neg_sub_neg, abs_sub_comm]
    _ ≤ |-p - v| := h.least (-p) hp.neg
    _ = |p - -v| := by rw [← abs_neg, neg_sub, sub_neg_eq_add, sub_neg_eq_add, add_comm]

theorem of_short (hv : Short v) : Nearest v v :=
  ⟨hv, fun p _ => by rw [sub_self, abs_zero]; exact abs_nonneg _⟩

/-- A short number is rounded to itself. -/
theorem eq_of_short (h : Nearest v q) (hv : Short v) : q = v := by
  have hle := h.least v hv
  rw [sub_self, abs_zero] at hle
  exact sub_eq_zero.mp (abs_nonpos_iff.mp hle)

/-- Rounding does not go past a short number. -/
theorem le_of_le (h : Nearest v q) (ha : Short a) (hva : v ≤ a) : q ≤ a := by
  by_contra! hlt
  have hle := h.least a ha
  rw [abs_of_nonneg (by linarith), abs_of_nonneg (by linarith)] at hle
  linarith

theorem ge_of_ge (h : Nearest v q) (ha : Short a) (hav : a ≤ v) : a ≤ q := by
  have := h.neg.le_of_le ha.neg (neg_le_neg hav)
  linarith

/-- Rounding keeps the order.  Of a number and itself this says nothing, since a tie may be broken
either way. -/
theorem le_of_lt {w r : ℚ} (h : Nearest v q) (h' : Nearest w r) (hlt : v < w) : q ≤ r := by
  by_contra! hrq
  -- the middle of `r` and `q` would be at most `v` and at least `w`
  have hv : q + r ≤ 2 * v := by
    by_contra! hmiddle
    have hnearer : |r - v| < q - v := abs_lt.mpr ⟨by linarith, by linarith⟩
    exact (hnearer.trans_le (le_abs_self _)).not_ge (h.least r h'.short)
  have hw : 2 * w ≤ q + r := by
    by_contra! hmiddle
    have hnearer : |q - w| < -(r - w) := abs_lt.mpr ⟨by linarith, by linarith⟩
    exact (hnearer.trans_le (neg_le_abs _)).not_ge (h'.least q h.short)
  linarith

/-- Up to `2^n` the short numbers are at most `2^(n - 53)` apart. -/
theorem error_le (h : Nearest v q) {n : ℤ} (hn : -1021 ≤ n) (hv : |v| ≤ 2 ^ n) :
    |q - v| ≤ 2 ^ (n - 54) := by
  have hgap : (0 : ℚ) < 2 ^ (n - 53) := by positivity
  set k : ℤ := round (v / 2 ^ (n - 53)) with hk
  have hround : |v / 2 ^ (n - 53) - k| ≤ 1 / 2 := abs_sub_round _
  have hscaled : |v / 2 ^ (n - 53)| ≤ 2 ^ 53 := by
    rw [abs_div, abs_of_pos hgap, div_le_iff₀ hgap, ← zpow_natCast, ← zpow_add₀ two_ne_zero]
    calc |v| ≤ 2 ^ n := hv
      _ = 2 ^ (((53 : ℕ) : ℤ) + (n - 53)) := by congr 1; push_cast; ring
  have hshort : Short (k * 2 ^ (n - 53)) := by
    refine ⟨k, n - 53, ?_, by omega, rfl⟩
    have hlt : (|k| : ℚ) < 2 ^ 53 + 1 := by
      calc (|k| : ℚ) = |v / 2 ^ (n - 53) - (v / 2 ^ (n - 53) - k)| := by rw [sub_sub_cancel]
        _ ≤ |v / 2 ^ (n - 53)| + |v / 2 ^ (n - 53) - k| := abs_sub _ _
        _ < 2 ^ 53 + 1 := by linarith
    have : |k| < 2 ^ 53 + 1 := by exact_mod_cast hlt
    omega
  calc |q - v| ≤ |k * 2 ^ (n - 53) - v| := h.least _ hshort
    _ = |v / 2 ^ (n - 53) - k| * 2 ^ (n - 53) := by
      rw [abs_sub_comm, ← abs_of_pos hgap, ← abs_mul, abs_of_pos hgap, sub_mul,
        div_mul_cancel₀ _ hgap.ne']
    _ ≤ 1 / 2 * 2 ^ (n - 53) := mul_le_mul_of_nonneg_right hround hgap.le
    _ = 2 ^ (n - 54) := by
      rw [show n - 53 = (n - 54) + 1 by ring, zpow_add_one₀ two_ne_zero]
      ring

/-- No integer is nearer to `y` than one that is half a unit away. -/
theorem abs_sub_le_of_half {y : ℚ} {r : ℤ} (hr : |r - y| ≤ 1 / 2) (k : ℤ) :
    |r - y| ≤ |k - y| := by
  rcases eq_or_ne k r with rfl | hne
  · exact le_rfl
  · have hapart : (1 : ℚ) ≤ |(k : ℚ) - r| := by
      exact_mod_cast Int.one_le_abs (sub_ne_zero.mpr hne)
    have htriangle : |(k : ℚ) - r| ≤ |k - y| + |r - y| := by
      rw [abs_sub_comm (r : ℚ) y]
      exact abs_sub_le _ _ _
    linarith

/-- Rounding to a multiple of `2^t`: the nearest multiple is the nearest short number, if all 53
digits are used or `2^t` is the least place. -/
theorem of_grid {y : ℚ} {r t : ℤ} (hr : |r - y| ≤ 1 / 2) (hbound : |r| ≤ 2 ^ 53)
    (ht : -1074 ≤ t) (hy : 2 ^ 52 ≤ y ∨ t = -1074) : Nearest (y * 2 ^ t) (r * 2 ^ t) := by
  have hplace : (0 : ℚ) < 2 ^ t := by positivity
  have hscale : ∀ z : ℚ, |z * 2 ^ t - y * 2 ^ t| = |z - y| * 2 ^ t := fun z => by
    rw [← sub_mul, abs_mul, abs_of_pos hplace]
  refine ⟨⟨r, t, hbound, ht, rfl⟩, ?_⟩
  rintro p ⟨m, e, hm, he, rfl⟩
  rw [hscale]
  rcases le_or_gt t e with hte | het
  · -- a multiple of `2^t`
    have hmultiple : (m : ℚ) * 2 ^ e = ((m * 2 ^ (e - t).toNat : ℤ) : ℚ) * 2 ^ t := by
      push_cast
      rw [mul_assoc, ← zpow_natCast, ← zpow_add₀ two_ne_zero]
      congr 2
      omega
    rw [hmultiple, hscale]
    exact mul_le_mul_of_nonneg_right (abs_sub_le_of_half hr _) hplace.le
  · -- a smaller number of more places, below `2^52 * 2^t`
    have hfull : 2 ^ 52 ≤ y := hy.resolve_right (by omega)
    have hsmall : (m : ℚ) * 2 ^ e ≤ 2 ^ 52 * 2 ^ t := by
      have hm' : (m : ℚ) ≤ 2 ^ 53 := by exact_mod_cast (le_abs_self m).trans hm
      calc (m : ℚ) * 2 ^ e ≤ 2 ^ 53 * 2 ^ e := mul_le_mul_of_nonneg_right hm' (by positivity)
        _ = 2 ^ 52 * 2 ^ (e + 1) := by rw [zpow_add_one₀ two_ne_zero]; ring
        _ ≤ 2 ^ 52 * 2 ^ t := by
          refine mul_le_mul_of_nonneg_left ?_ (by positivity)
          exact zpow_le_zpow_right₀ one_le_two (by omega)
    have hnear : |r - y| ≤ y - 2 ^ 52 := by
      have h := abs_sub_le_of_half hr (2 ^ 52)
      rwa [abs_sub_comm ((2 ^ 52 : ℤ) : ℚ), Int.cast_pow, Int.cast_ofNat,
        abs_of_nonneg (sub_nonneg.mpr hfull)] at h
    calc |r - y| * 2 ^ t ≤ (y - 2 ^ 52) * 2 ^ t := mul_le_mul_of_nonneg_right hnear hplace.le
      _ ≤ y * 2 ^ t - m * 2 ^ e := by linarith
      _ ≤ |m * 2 ^ e - y * 2 ^ t| := by
        rw [abs_sub_comm]
        exact le_abs_self _

end Nearest

end Placard
