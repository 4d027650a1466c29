/-
Placard/Proofs/Arithmetic.lean

Arithmetic on floats, read as arithmetic on exact numbers.

Sums, differences, products and quotients of finite floats are the exact ones, rounded
(`Exact.rounds_add` and so on), comparisons are those of the exact numbers (`Exact.lt_iff`), and
whole numbers below `2^53` are exact (`value?_ofInt`).  `StandsFor` is the relation between a float
that is taken apart and its number: it has one case for zeros and one for everything else, and each
operation is followed through these cases.
-/
import Mathlib.Order.Compare
import Placard.Drawing.Primitive
import Placard.Proofs.Rounding

namespace Placard

open Float.Model UnpackedFloat

/-! ### Floats taken apart -/

/-- The parts `f` are those of a finite number of 53 digits, and its value is `v`. -/
inductive StandsFor : UnpackedFloat → ℚ → Prop
  | zero (s : Sign) : StandsFor (.zero s) 0
  | finite (s : Sign) {m : ℕ} {e : ℤ} (hm : 0 < m) (h : Canonical m e) (he : e ≤ 971) :
      StandsFor (.finite s m e hm) (signed s (m * 2 ^ e))

/-- What a finite float stands for is canonical. -/
theorem canonical_of_ofFloat {x : Float} {negative : Bool} {m : ℕ} {e : ℤ}
    (h : Exact.ofFloat x = .finite negative m e) : Canonical m e ∧ e ≤ 971 := by
  rw [Exact.ofFloat, Exact.ofBits] at h
  simp only [Nat.pow_eq] at h
  split at h
  · split at h <;> cases h
  · split at h
    · obtain ⟨-, rfl, rfl⟩ := Exact.finite.inj h
      exact ⟨⟨by omega, by decide, .inr rfl⟩, by decide⟩
    · obtain ⟨-, rfl, rfl⟩ := Exact.finite.inj h
      exact ⟨⟨by omega, by omega, .inl (by omega)⟩, by omega⟩

theorem standsFor_of_value? {x : Float} {v : ℚ} (h : Exact.value? x = some v) :
    StandsFor x.toModel.unpack v := by
  rw [Exact.value?, ofFloat_eq] at h
  cases hparts : x.toModel.unpack with
  | infinity s =>
    rw [hparts] at h
    cases h
  | notANumber =>
    rw [hparts] at h
    cases h
  | zero s =>
    rw [hparts] at h
    obtain rfl : v = 0 := by simpa using h.symm
    exact .zero s
  | finite s m e hm =>
    have hvalue : Exact.ofFloat x = .finite (s == .negative) m e := by
      rw [ofFloat_eq, hparts, Exact.ofUnpacked_finite]
    obtain ⟨hcanonical, he⟩ := canonical_of_ofFloat hvalue
    rw [hparts] at h
    obtain rfl : v = signed s (m * 2 ^ e) := by
      rw [← Option.some.inj h, signed]
      split <;> simp
    exact .finite s hm hcanonical he

namespace StandsFor

variable {f g : UnpackedFloat} {a b : ℚ}

/-- Every finite float is short. -/
theorem short (h : StandsFor f a) : Short a := by
  cases h with
  | zero s => exact .zero
  | @finite s m e hm h he =>
    have hshort : Short (m * 2 ^ e) :=
      ⟨m, e, by rw [Nat.abs_cast]; exact_mod_cast h.lt.le, h.least, by rw [Int.cast_natCast]⟩
    unfold signed
    split
    · exact hshort.neg
    · exact hshort

theorem abs_le (h : StandsFor f a) : |a| ≤ greatestFinite := by
  cases h with
  | zero s =>
    rw [abs_zero]
    norm_num [greatestFinite]
  | @finite s m e hm h he =>
    have hm' : (m : ℚ) ≤ 2 ^ 53 - 1 := by
      have : m + 1 ≤ 2 ^ 53 := h.lt
      have : (m + 1 : ℚ) ≤ 2 ^ 53 := by exact_mod_cast this
      linarith
    rw [abs_signed, abs_of_nonneg (by positivity)]
    calc (m : ℚ) * 2 ^ e ≤ (2 ^ 53 - 1) * 2 ^ e := mul_le_mul_of_nonneg_right hm' (by positivity)
      _ ≤ (2 ^ 53 - 1) * 2 ^ (971 : ℤ) :=
        mul_le_mul_of_nonneg_left (zpow_le_zpow_right₀ one_le_two he) (by norm_num)

theorem value?_pack (h : StandsFor f a) :
    Exact.value? (.ofModel (Float.Model.pack f)) = some a := by
  cases h with
  | zero s => simp [Exact.value?, ofFloat_pack_zero]
  | finite s hm h he =>
    rw [Exact.value?, ofFloat_pack hm h he]
    simp [signed]

theorem rounds_pack (h : StandsFor f a) : Rounds a (.ofModel (Float.Model.pack f)) :=
  ⟨a, .of_short h.short, h.value?_pack⟩

theorem neg (h : StandsFor f a) : StandsFor f.neg (-a) := by
  cases h with
  | zero s =>
    rw [neg_zero]
    exact .zero _
  | @finite s m e hm h he =>
    have hneg : -signed s (m * 2 ^ e) = signed (-s) (m * 2 ^ e) := by
      cases s
      · exact neg_neg _
      · rfl
    rw [hneg]
    exact .finite _ hm h he

end StandsFor

/-- A number as a multiple of a smaller place. -/
theorem decreaseExponent_value (s : Sign) (m : ℕ) {e t : ℤ} (ht : t ≤ e) :
    ((s.apply (decreaseExponent m e t).1 : ℤ) : ℚ) * 2 ^ t = signed s (m * 2 ^ e) := by
  have hshift : (((decreaseExponent m e t).1 : ℕ) : ℚ) * 2 ^ t = m * 2 ^ e := by
    show ((m <<< (e - t).toNat : ℕ) : ℚ) * 2 ^ t = m * 2 ^ e
    rw [shiftLeft_value, Int.toNat_of_nonneg (sub_nonneg.mpr ht), add_sub_cancel]
  rw [← hshift]
  cases s
  · exact (congrArg (· * _) (Int.cast_neg _)).trans (neg_mul _ _)
  · rfl

/-! ### Operations on floats taken apart -/

namespace StandsFor

variable {f g : UnpackedFloat} {a b : ℚ}

theorem rounds_add (hf : StandsFor f a) (hg : StandsFor g b) (hmax : |a + b| ≤ greatestFinite) :
    Rounds (a + b) (.ofModel (Float.Model.pack (UnpackedFloat.add Format.binary64 f g))) := by
  cases hf with
  | zero s =>
    rw [zero_add]
    cases hg with
    | zero t =>
      cases s <;> cases t <;> exact (StandsFor.zero _).rounds_pack
    | finite t hm h he => exact (StandsFor.finite t hm h he).rounds_pack
  | @finite s m e hm h he =>
    cases hg with
    | zero t =>
      rw [add_zero]
      exact (StandsFor.finite s hm h he).rounds_pack
    | @finite t m' e' hm' h' he' =>
      have hsum : signed s (m * 2 ^ e) + signed t (m' * 2 ^ e') =
          ((s.apply (decreaseExponent m e (min e e')).1 +
            t.apply (decreaseExponent m' e' (min e e')).1 : ℤ) : ℚ) * 2 ^ min e e' := by
        rw [Int.cast_add, add_mul, decreaseExponent_value s m (min_le_left e e'),
          decreaseExponent_value t m' (min_le_right e e')]
      rw [hsum] at hmax ⊢
      exact rounds_normalize _ _ .positive hmax

/-- Subtracting is adding the opposite, also in the sign of zero. -/
theorem sub_eq_add_neg (hf : StandsFor f a) (hg : StandsFor g b) :
    UnpackedFloat.sub Format.binary64 f g = UnpackedFloat.add Format.binary64 f g.neg := by
  cases hf with
  | zero s =>
    cases hg with
    | zero t => rfl
    | finite t hm h he => rfl
  | @finite s m e hm h he =>
    cases hg with
    | zero t => rfl
    | @finite t m' e' hm' h' he' =>
      cases t
      · show UnpackedFloat.normalize _ (_ - -_) _ _ = _
        rw [sub_neg_eq_add]
        rfl
      · rfl

theorem rounds_mul (hf : StandsFor f a) (hg : StandsFor g b) (hmax : |a * b| ≤ greatestFinite) :
    Rounds (a * b) (.ofModel (Float.Model.pack (UnpackedFloat.mul Format.binary64 f g))) := by
  cases hf with
  | zero s =>
    rw [zero_mul]
    cases hg <;> exact (StandsFor.zero _).rounds_pack
  | @finite s m e hm h he =>
    cases hg with
    | zero t =>
      rw [mul_zero]
      exact (StandsFor.zero _).rounds_pack
    | @finite t m' e' hm' h' he' =>
      have hvalue : ((m * m' : ℕ) : ℚ) * 2 ^ (e + e') = m * 2 ^ e * (m' * 2 ^ e') := by
        rw [zpow_add₀ two_ne_zero, Nat.cast_mul]
        ring
      have hproduct : signed s (m * 2 ^ e) * signed t (m' * 2 ^ e') =
          signed (s * t) (((m * m' : ℕ) : ℚ) * 2 ^ (e + e')) := by
        rw [signed_mul, hvalue]
      have henough : 2 ^ 52 ≤ m * m' ∨ e + e' ≤ -1074 := by
        rcases h.full with hfull | rfl
        · exact .inl (hfull.trans (Nat.le_mul_of_pos_right m hm'))
        · rcases h'.full with hfull' | rfl
          · exact .inl (hfull'.trans (Nat.le_mul_of_pos_left m' hm))
          · exact .inr (by decide)
      rw [hproduct] at hmax ⊢
      rw [abs_signed] at hmax
      exact nearest_pack _ (.of_nat _) henough ((le_abs_self _).trans hmax)

/-- If the dividend is given so many places more than the divisor, then the quotient has as many
digits as a mantissa, unless the exponent is the least one. -/
theorem pow_le_quotient {m m' k : ℕ} {place : ℤ} (hm : 0 < m) (hm' : 0 < m')
    (hk : -1074 < place → 52 + (m'.log2 + 1) ≤ m.log2 + k) :
    2 ^ 52 ≤ (m <<< k) / m' ∨ place ≤ -1074 := by
  by_cases hleast : place ≤ -1074
  · exact .inr hleast
  · rw [Nat.le_div_iff_mul_le hm']
    left
    calc 2 ^ 52 * m' ≤ 2 ^ 52 * 2 ^ (m'.log2 + 1) :=
          Nat.mul_le_mul_left _ Nat.lt_log2_self.le
      _ = 2 ^ (52 + (m'.log2 + 1)) := (pow_add 2 52 _).symm
      _ ≤ 2 ^ (m.log2 + k) := Nat.pow_le_pow_right (by decide) (hk (not_le.mp hleast))
      _ ≤ m <<< k := pow_le_shiftLeft hm k

theorem rounds_div (hf : StandsFor f a) (hg : StandsFor g b) (hb : b ≠ 0)
    (hmax : |a / b| ≤ greatestFinite) :
    Rounds (a / b) (.ofModel (Float.Model.pack (UnpackedFloat.div Format.binary64 f g))) := by
  cases hg with
  | zero t => exact absurd rfl hb
  | @finite t m' e' hm' h' he' =>
    cases hf with
    | zero s =>
      rw [zero_div]
      exact (StandsFor.zero _).rounds_pack
    | @finite s m e hm h he =>
      obtain ⟨place, hplace⟩ : ∃ place, place = min (e - e') (Format.binary64.targetExponent
        (totalExponent m e - totalExponent m' e')) := ⟨_, rfl⟩
      obtain ⟨k, hk⟩ : ∃ k, k = (e - e' - place).toNat := ⟨_, rfl⟩
      have hdiv : UnpackedFloat.div Format.binary64 (.finite s m e hm) (.finite t m' e' hm') =
          roundWithAccuracy Format.binary64 (s / t) ((m <<< k) / m') place
            (accuracyOfFraction ((m <<< k) % m') m') := by
        subst hk hplace
        rfl
      have htarget : Format.binary64.targetExponent (totalExponent m e - totalExponent m' e') =
          max (m.log2 + e - (m'.log2 + e') - 53) (-1074) := by
        rw [targetExponent_eq, totalExponent_eq, totalExponent_eq]
        omega
      rw [htarget] at hplace
      have henough : 2 ^ 52 ≤ (m <<< k) / m' ∨ place ≤ -1074 :=
        pow_le_quotient hm hm' fun hleast => by omega
      have hquotient : signed s (m * 2 ^ e) / signed t (m' * 2 ^ e') =
          signed (s / t) ((m <<< k : ℕ) / m' * 2 ^ place) := by
        have hplaces : place + k = e - e' := by omega
        rw [signed_div, div_mul_eq_mul_div, shiftLeft_value, hplaces, zpow_sub₀ two_ne_zero,
          mul_div_assoc', div_div, mul_comm (2 ^ e')]
      rw [hquotient] at hmax ⊢
      rw [abs_signed] at hmax
      rw [hdiv]
      exact nearest_pack _ (.of_div _ hm') henough ((le_abs_self _).trans hmax)

end StandsFor


/-! ### Order -/

/-- The number with the greater exponent is the greater one, since it uses all 53 digits. -/
theorem Canonical.lt_of_exponent_lt {m m' : ℕ} {e e' : ℤ} (h : Canonical m e)
    (h' : Canonical m' e') (hlt : e < e') : (m * 2 ^ e : ℚ) < m' * 2 ^ e' := by
  have hm : (m : ℚ) < 2 ^ 53 := by exact_mod_cast h.lt
  have hm' : (2 : ℚ) ^ 52 ≤ m' := by
    exact_mod_cast h'.full.resolve_right (by have := h.least; omega)
  calc (m : ℚ) * 2 ^ e < 2 ^ 53 * 2 ^ e := mul_lt_mul_of_pos_right hm (by positivity)
    _ = 2 ^ 52 * 2 ^ (e + 1) := by rw [zpow_add_one₀ two_ne_zero]; ring
    _ ≤ 2 ^ 52 * 2 ^ e' :=
      mul_le_mul_of_nonneg_left (zpow_le_zpow_right₀ one_le_two hlt) (by positivity)
    _ ≤ m' * 2 ^ e' := mul_le_mul_of_nonneg_right hm' (by positivity)

/-- Exponents are compared first, then mantissas. -/
theorem Canonical.compares {m m' : ℕ} {e e' : ℤ} (h : Canonical m e) (h' : Canonical m' e') :
    ((compare e e').then (compare m m')).Compares (m * 2 ^ e : ℚ) (m' * 2 ^ e') := by
  rcases lt_trichotomy e e' with hlt | rfl | hgt
  · rw [Int.compare_eq_lt.mpr hlt]
    exact h.lt_of_exponent_lt h' hlt
  · rw [Int.compare_eq_eq.mpr rfl]
    have hplace : (0 : ℚ) < 2 ^ e := by positivity
    rcases lt_trichotomy m m' with hlt | rfl | hgt
    · rw [Nat.compare_eq_lt.mpr hlt]
      exact mul_lt_mul_of_pos_right (by exact_mod_cast hlt) hplace
    · rw [Nat.compare_eq_eq.mpr rfl]
      exact rfl
    · rw [Nat.compare_eq_gt.mpr hgt]
      exact mul_lt_mul_of_pos_right (by exact_mod_cast hgt) hplace
  · rw [Int.compare_eq_gt.mpr hgt]
    exact h'.lt_of_exponent_lt h hgt

/-- There is one canonical way to write a number. -/
theorem Canonical.eq_of_value_eq {m m' : ℕ} {e e' : ℤ} (h : Canonical m e) (h' : Canonical m' e')
    (hvalue : (m * 2 ^ e : ℚ) = m' * 2 ^ e') : m = m' ∧ e = e' := by
  rcases lt_trichotomy e e' with hlt | rfl | hgt
  · exact absurd hvalue (h.lt_of_exponent_lt h' hlt).ne
  · have hplace : (2 : ℚ) ^ e ≠ 0 := by positivity
    exact ⟨by exact_mod_cast mul_right_cancel₀ hplace hvalue, rfl⟩
  · exact absurd hvalue (h'.lt_of_exponent_lt h hgt).ne'

/-- Except for the two zeros, a number has one float only. -/
theorem StandsFor.eq_of_ne_zero {f g : UnpackedFloat} {a b : ℚ} (hf : StandsFor f a)
    (hg : StandsFor g b) (hab : a = b) (ha : a ≠ 0) : f = g := by
  have hpos : ∀ {m : ℕ} (e : ℤ), 0 < m → (0 : ℚ) < m * 2 ^ e := fun e hm =>
    mul_pos (by exact_mod_cast hm) (by positivity)
  cases hf with
  | zero s => exact absurd rfl ha
  | @finite s m e hm h he =>
    cases hg with
    | zero t => exact absurd hab ha
    | @finite t m' e' hm' h' he' =>
      have hsame : s = t ∧ (m * 2 ^ e : ℚ) = m' * 2 ^ e' := by
        have hm := hpos e hm
        have hm' := hpos e' hm'
        cases s <;> cases t
        · exact ⟨rfl, neg_injective hab⟩
        · exact absurd hab ((neg_neg_of_pos hm).trans hm').ne
        · exact absurd hab ((neg_neg_of_pos hm').trans hm).ne'
        · exact ⟨rfl, hab⟩
      obtain ⟨rfl, hvalue⟩ := hsame
      obtain ⟨rfl, rfl⟩ := h.eq_of_value_eq h' hvalue
      rfl

/-- The order of the parts is that of the numbers. -/
theorem StandsFor.compares {f g : UnpackedFloat} {a b : ℚ} (hf : StandsFor f a)
    (hg : StandsFor g b) : ∃ o, f.compare g = some o ∧ o.Compares a b := by
  have hpos : ∀ {m : ℕ} (e : ℤ), 0 < m → (0 : ℚ) < m * 2 ^ e := fun e hm =>
    mul_pos (by exact_mod_cast hm) (by positivity)
  cases hf with
  | zero s =>
    cases hg with
    | zero t => exact ⟨.eq, by cases s <;> cases t <;> rfl, rfl⟩
    | @finite t m' e' hm' h' he' =>
      cases t
      · exact ⟨.gt, by cases s <;> rfl, neg_neg_of_pos (hpos e' hm')⟩
      · exact ⟨.lt, by cases s <;> rfl, hpos e' hm'⟩
  | @finite s m e hm h he =>
    cases hg with
    | zero t =>
      cases s
      · exact ⟨.lt, rfl, neg_neg_of_pos (hpos e hm)⟩
      · exact ⟨.gt, rfl, hpos e hm⟩
    | @finite t m' e' hm' h' he' =>
      cases s <;> cases t
      · refine ⟨_, rfl, ?_⟩
        have hcompares := h.compares h'
        generalize (compare e e').then (compare m m') = o at hcompares
        cases o
        · exact neg_lt_neg hcompares
        · exact congrArg Neg.neg hcompares
        · exact neg_lt_neg hcompares
      · exact ⟨.lt, rfl, (neg_neg_of_pos (hpos e hm)).trans (hpos e' hm')⟩
      · exact ⟨.gt, rfl, (neg_neg_of_pos (hpos e' hm')).trans (hpos e hm)⟩
      · exact ⟨_, rfl, h.compares h'⟩

/-! ### The operations on floats -/

namespace Exact

variable {x y : Float} {a b : ℚ}

theorem short_of_value? (hx : value? x = some a) : Short a := (standsFor_of_value? hx).short

theorem abs_le_of_value? (hx : value? x = some a) : |a| ≤ greatestFinite :=
  (standsFor_of_value? hx).abs_le

theorem value?_neg (hx : value? x = some a) : value? (-x) = some (-a) :=
  (standsFor_of_value? hx).neg.value?_pack

theorem rounds_add (hx : value? x = some a) (hy : value? y = some b)
    (hmax : |a + b| ≤ greatestFinite) : Rounds (a + b) (x + y) :=
  (standsFor_of_value? hx).rounds_add (standsFor_of_value? hy) hmax

theorem rounds_sub (hx : value? x = some a) (hy : value? y = some b)
    (hmax : |a - b| ≤ greatestFinite) : Rounds (a - b) (x - y) := by
  have hf := standsFor_of_value? hx
  have hg := standsFor_of_value? hy
  show Rounds (a - b) (.ofModel (Float.Model.pack (UnpackedFloat.sub Format.binary64 _ _)))
  rw [hf.sub_eq_add_neg hg, sub_eq_add_neg]
  exact hf.rounds_add hg.neg (by rwa [← sub_eq_add_neg])

theorem rounds_mul (hx : value? x = some a) (hy : value? y = some b)
    (hmax : |a * b| ≤ greatestFinite) : Rounds (a * b) (x * y) :=
  (standsFor_of_value? hx).rounds_mul (standsFor_of_value? hy) hmax

theorem rounds_div (hx : value? x = some a) (hy : value? y = some b) (hb : b ≠ 0)
    (hmax : |a / b| ≤ greatestFinite) : Rounds (a / b) (x / y) :=
  (standsFor_of_value? hx).rounds_div (standsFor_of_value? hy) hb hmax

theorem lt_iff (hx : value? x = some a) (hy : value? y = some b) : x < y ↔ a < b := by
  obtain ⟨o, ho, hcompares⟩ := (standsFor_of_value? hx).compares (standsFor_of_value? hy)
  rw [← hcompares.eq_lt]
  show decide ((x.toModel.unpack.compare y.toModel.unpack == some .lt) = true) = true ↔ _
  rw [ho]
  cases o <;> decide

theorem le_iff (hx : value? x = some a) (hy : value? y = some b) : x ≤ y ↔ a ≤ b := by
  obtain ⟨o, ho, hcompares⟩ := (standsFor_of_value? hx).compares (standsFor_of_value? hy)
  rw [← hcompares.ne_gt]
  show decide (((x.toModel.unpack.compare y.toModel.unpack).any (·.isLE)) = true) = true ↔ _
  rw [ho]
  cases o <;> decide

/-- What lies between two finite floats is finite. -/
theorem exists_value?_of_between {z : Float} (hx : value? x = some a) (hy : value? y = some b)
    (hl : x ≤ z) (hu : z ≤ y) : ∃ c, value? z = some c := by
  have hf := standsFor_of_value? hx
  have hg := standsFor_of_value? hy
  replace hl : decide (((x.toModel.unpack.compare z.toModel.unpack).any (·.isLE)) = true) = true := hl
  replace hu : decide (((z.toModel.unpack.compare y.toModel.unpack).any (·.isLE)) = true) = true := hu
  rw [← Option.isSome_iff_exists, value?, ofFloat_eq]
  generalize x.toModel.unpack = f at hf hl
  generalize y.toModel.unpack = g at hg hu
  cases hz : z.toModel.unpack with
  | infinity s =>
    rw [hz] at hl hu
    cases s
    · cases hf <;> cases hl
    · cases hg <;> cases hu
  | notANumber =>
    rw [hz] at hu
    cases hu
  | zero s => rfl
  | finite s m e hm => rfl

/-- Multiplying with a positive number keeps the order. -/
theorem mul_mono {z : Float} {c p q : ℚ} (hx : value? x = some a) (hy : value? y = some b)
    (hz : value? z = some c) (hc : 0 < c) (hab : a ≤ b) (ha : |a * c| ≤ greatestFinite)
    (hb : |b * c| ≤ greatestFinite) (hp : value? (x * z) = some p) (hq : value? (y * z) = some q) :
    p ≤ q := by
  obtain ⟨p', hnearest, hp'⟩ := rounds_mul hx hz ha
  obtain rfl : p' = p := Option.some.inj (hp'.symm.trans hp)
  obtain ⟨q', hnearest', hq'⟩ := rounds_mul hy hz hb
  obtain rfl : q' = q := Option.some.inj (hq'.symm.trans hq)
  rcases hab.lt_or_eq with hlt | rfl
  · exact hnearest.le_of_lt hnearest' (mul_lt_mul_of_pos_right hlt hc)
  · -- the same number: either the floats are the same, or both are zeros
    by_cases h0 : a = 0
    · have hzero : Short (a * c) := by
        rw [h0, zero_mul]
        exact .zero
      rw [hnearest.eq_of_short hzero, hnearest'.eq_of_short hzero]
    · have hsame := (standsFor_of_value? hx).eq_of_ne_zero (standsFor_of_value? hy) rfl h0
      have hproduct : x * z = y * z := by
        show Float.ofModel (Float.Model.pack (UnpackedFloat.mul Format.binary64 _ _)) =
          Float.ofModel (Float.Model.pack (UnpackedFloat.mul Format.binary64 _ _))
        rw [hsame]
      rw [hproduct, hq] at hp
      exact (Option.some.inj hp).ge

theorem isNaN_eq_false (hx : value? x = some a) : x.isNaN = false := by
  have hf := standsFor_of_value? hx
  show x.toModel.unpack.isNaN = false
  generalize x.toModel.unpack = f at hf
  cases hf <;> rfl

/-- Finite is what stands for a number. -/
theorem isFinite_iff : x.isFinite = true ↔ ∃ a, value? x = some a := by
  show x.toModel.unpack.isFinite = true ↔ _
  rw [← Option.isSome_iff_exists, value?, ofFloat_eq]
  cases x.toModel.unpack with
  | infinity s => rfl
  | notANumber => rfl
  | zero s => rfl
  | finite s m e hm => rfl

end Exact

/-! ### Whole numbers -/

theorem le_greatestFinite {v : ℚ} (h : v ≤ 2 ^ 1023) : v ≤ greatestFinite :=
  calc v ≤ 2 ^ 1023 := h
    _ = 2 ^ 52 * 2 ^ 971 := (pow_add 2 52 971)
    _ ≤ greatestFinite := mul_le_mul_of_nonneg_right (by norm_num) (by positivity)

theorem value?_ofNat {n : ℕ} (hn : n < 2 ^ 53) : Exact.value? (Float.ofNat n) = some (n : ℚ) := by
  have hone : Exact.value? (Float.ofBits 0x3FF0000000000000) = some 1 := by
    have : Exact.ofFloat (Float.ofBits 0x3FF0000000000000) = .finite false (2 ^ 52) (-52) := by
      decide +kernel
    rw [Exact.value?, this]
    norm_num
  have hshort : Short (n : ℚ) := by
    have := Short.intCast (z := n) (by rw [Nat.abs_cast]; exact_mod_cast hn.le)
    rwa [Int.cast_natCast] at this
  have hmax : |(n : ℚ)| ≤ greatestFinite := by
    rw [Nat.abs_cast]
    refine le_greatestFinite ?_
    calc (n : ℚ) ≤ 2 ^ 53 := by exact_mod_cast hn.le
      _ ≤ 2 ^ 1023 := pow_le_pow_right₀ one_le_two (by decide)
  have hwhole : Exact.value? n.toUInt64.toFloat = some (n : ℚ) := by
    have hto : n.toUInt64.toNat = n := by simp; omega
    have hnormalize :=
      rounds_normalize n 0 .positive (by rwa [zpow_zero, mul_one, Int.cast_natCast])
    rw [zpow_zero, mul_one, Int.cast_natCast] at hnormalize
    refine Rounds.value? ?_ hshort
    show Rounds _ (.ofModel (Float.Model.pack
      (UnpackedFloat.normalize _ (n.toUInt64.toNat : ℤ) 0 .positive)))
    rwa [hto]
  -- the decimal reader multiplies by a power of ten, here the power that is one
  have hdef : Float.ofNat n = n.toUInt64.toFloat * Float.ofBits 0x3FF0000000000000 := by
    show (if h : n < 2 ^ 53 ∧ 0 ≤ 22 then _ else _) = _
    rw [dif_pos ⟨hn, by decide⟩]
    rfl
  have hproduct := Exact.rounds_mul hwhole hone (by rwa [mul_one])
  rw [mul_one] at hproduct
  rw [hdef]
  exact hproduct.value? hshort

theorem value?_zero : Exact.value? 0 = some 0 := by
  have := value?_ofNat (n := 0) (by decide)
  rwa [Nat.cast_zero] at this

theorem value?_one : Exact.value? 1 = some 1 := by
  have := value?_ofNat (n := 1) (by decide)
  rwa [Nat.cast_one] at this

theorem value?_two : Exact.value? 2 = some 2 := value?_ofNat (n := 2) (by decide)

/-- A whole number below `2^53` is exact as a float. -/
theorem value?_ofInt {z : ℤ} (hz : |z| < 2 ^ 53) : Exact.value? (Float.ofInt z) = some (z : ℚ) := by
  rw [abs_lt] at hz
  cases z with
  | ofNat n =>
    have hn : (n : ℤ) < 2 ^ 53 := hz.2
    exact value?_ofNat (by omega)
  | negSucc n =>
    have := Exact.value?_neg (value?_ofNat (n := n + 1) (by omega))
    rw [Int.cast_negSucc]
    exact this

/-- Coordinates are exact. -/
theorem Pixel.value?_toFloat (p : Pixel) : Exact.value? p.toFloat = some (p.val : ℚ) := by
  have := p.least_le
  have := p.le_greatest
  exact value?_ofInt (abs_lt.mpr (by omega))

/-! ### The greater, the smaller, and limits -/

section

variable {x y z : Float} {a b c : ℚ}

theorem value?_greater (hx : Exact.value? x = some a) (hy : Exact.value? y = some b) :
    Exact.value? (greater x y) = some (max a b) := by
  unfold greater
  rw [Exact.isNaN_eq_false hx, Exact.isNaN_eq_false hy, if_neg Bool.false_ne_true,
    if_neg Bool.false_ne_true]
  split
  · rename_i h
    rw [hy, max_eq_right ((Exact.lt_iff hx hy).mp h).le]
  · rename_i h
    rw [hx, max_eq_left (not_lt.mp (mt (Exact.lt_iff hx hy).mpr h))]

theorem value?_smaller (hx : Exact.value? x = some a) (hy : Exact.value? y = some b) :
    Exact.value? (smaller x y) = some (min a b) := by
  unfold smaller
  rw [Exact.isNaN_eq_false hx, Exact.isNaN_eq_false hy, if_neg Bool.false_ne_true,
    if_neg Bool.false_ne_true]
  split
  · rename_i h
    rw [hy, min_eq_right ((Exact.lt_iff hy hx).mp h).le]
  · rename_i h
    rw [hx, min_eq_left (not_lt.mp (mt (Exact.lt_iff hy hx).mpr h))]

theorem value?_limitTo (hx : Exact.value? x = some a) (hy : Exact.value? y = some b)
    (hz : Exact.value? z = some c) (hbc : b ≤ c) :
    Exact.value? (limitTo x y z) = some (max b (min a c)) := by
  unfold limitTo
  split
  · rename_i h
    have hab := (Exact.lt_iff hx hy).mp h
    rw [hy, max_eq_left (min_le_of_left_le hab.le)]
  · rename_i h
    have hba : b ≤ a := not_lt.mp (mt (Exact.lt_iff hx hy).mpr h)
    split
    · rename_i h
      rw [hz, min_eq_right ((Exact.lt_iff hz hx).mp h).le, max_eq_right hbc]
    · rename_i h
      rw [hx, min_eq_left (not_lt.mp (mt (Exact.lt_iff hz hx).mpr h)), max_eq_right hba]

end

end Placard
