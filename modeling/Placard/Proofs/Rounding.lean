/-
Placard/Proofs/Rounding.lean

Floats as exact numbers, and the rounding of exact numbers to floats.

`Exact.value?` is the number that a finite float stands for.  Lean's floats are computed by taking
their bits apart, computing with mantissas and exponents, rounding and packing.  The mantissa that
is rounded is the beginning of an exact number, and two more bits tell what was left out of it:
`BitsOf` says which number that is, and shifting keeps it true.  So what is packed in the end is the
short number nearest to the exact one (`nearest_pack`), as long as that number is not too great
(`greatestFinite`).
-/
import Mathlib.Tactic.NormNum
import Mathlib.Tactic.Positivity
import Placard.Number.Binary64
import Placard.Proofs.Nearest

namespace Placard

open Float.Model UnpackedFloat

/-! ### The number that a float stands for -/

/-- The number that `x` stands for, if it is finite. -/
def Exact.value? (x : Float) : Option ℚ :=
  match ofFloat x with
  | finite negative m q => some ((if negative then -(m : ℚ) else m) * 2 ^ q)
  | _ => none

/-- The value of a float that is taken apart. -/
def Exact.ofUnpacked : UnpackedFloat → Exact
  | .infinity s => .infinite (s == .negative)
  | .notANumber => .nan
  | .zero s => .finite (s == .negative) 0 (-1074)
  | .finite s m e _ => .finite (s == .negative) m e

@[simp] theorem Exact.ofUnpacked_infinity (s : Sign) :
    ofUnpacked (.infinity s) = .infinite (s == .negative) := rfl

@[simp] theorem Exact.ofUnpacked_notANumber : ofUnpacked .notANumber = .nan := rfl

@[simp] theorem Exact.ofUnpacked_zero (s : Sign) :
    ofUnpacked (.zero s) = .finite (s == .negative) 0 (-1074) := rfl

@[simp] theorem Exact.ofUnpacked_finite (s : Sign) {m : ℕ} (e : ℤ) (hm : 0 < m) :
    ofUnpacked (.finite s m e hm) = .finite (s == .negative) m e := rfl

theorem toNat_unpackMantissa (b : UInt64) :
    (@unpackMantissa Format.binary64 b.toBitVec).toNat = b.toNat % 2 ^ 52 := by
  simp [unpackMantissa]

theorem toNat_unpackExponent (b : UInt64) :
    (@unpackExponent Format.binary64 b.toBitVec).toNat = b.toNat / 2 ^ 52 % 2 ^ 11 := by
  simp [unpackExponent, Nat.shiftRight_eq_div_pow]

theorem toNat_unpackSign (b : UInt64) :
    (@unpackSign Format.binary64 b.toBitVec).toNat = b.toNat / 2 ^ 63 := by
  have := b.toNat_lt
  show (b.toBitVec.extractLsb 63 63).toNat = _
  rw [BitVec.extractLsb_toNat, UInt64.toNat_toBitVec, Nat.shiftRight_eq_div_pow]
  omega

theorem sign_unpackSign (b : UInt64) :
    (Sign.ofBitVec (@unpackSign Format.binary64 b.toBitVec) == .negative) =
      (b.toNat / 2 ^ 63 == 1) := by
  rw [← toNat_unpackSign]
  generalize @unpackSign Format.binary64 b.toBitVec = s
  revert s
  decide

/-- The value of the bits is that of the parts they are taken apart into. -/
theorem ofFloat_eq (x : Float) : Exact.ofFloat x = Exact.ofUnpacked x.toModel.unpack := by
  obtain ⟨⟨b, hvalid⟩⟩ := x
  have hm := toNat_unpackMantissa b
  have he := toNat_unpackExponent b
  show Exact.ofBits b = Exact.ofUnpacked (UnpackedFloat.unpack Format.binary64 b.toBitVec)
  have hexp : ∀ n, @unpackExponent Format.binary64 b.toBitVec = n ↔
      b.toNat / 2 ^ 52 % 2 ^ 11 = n.toNat := by
    intro n
    rw [← BitVec.toNat_inj, he]
  have hman : ∀ n, @unpackMantissa Format.binary64 b.toBitVec = n ↔
      b.toNat % 2 ^ 52 = n.toNat := by
    intro n
    rw [← BitVec.toNat_inj, hm]
  unfold Exact.ofBits
  simp only [Nat.pow_eq]
  unfold UnpackedFloat.unpack
  by_cases hmax : b.toNat / 2 ^ 52 % 2 ^ 11 = 2047
  · -- infinities and what is no number
    rw [if_pos hmax, if_pos ((hexp (-1#11)).mpr hmax)]
    by_cases hzero : b.toNat % 2 ^ 52 = 0
    · rw [if_pos hzero, if_pos ((hman 0#52).mpr hzero), Exact.ofUnpacked_infinity,
        sign_unpackSign]
    · rw [if_neg hzero, if_neg (fun h => hzero ((hman 0#52).mp h)), Exact.ofUnpacked_notANumber]
  · rw [if_neg hmax, if_neg (fun h => hmax ((hexp (-1#11)).mp h))]
    by_cases hleast : b.toNat / 2 ^ 52 % 2 ^ 11 = 0
    · -- the least exponent, where there is no leading one
      rw [if_pos hleast, if_pos ((hexp 0#11).mpr hleast)]
      by_cases hzero : b.toNat % 2 ^ 52 = 0
      · rw [dif_pos ((hman 0#52).mpr hzero), Exact.ofUnpacked_zero, sign_unpackSign, hzero]
      · rw [dif_neg (fun h => hzero ((hman 0#52).mp h)), Exact.ofUnpacked_finite, sign_unpackSign,
          hm, he, hleast]
        rfl
    · rw [if_neg hleast, if_neg (fun h => hleast ((hexp 0#11).mp h)), Exact.ofUnpacked_finite,
        sign_unpackSign, he, BitVec.toNat_append,
        ← Nat.shiftLeft_add_eq_or_of_lt (BitVec.isLt _), hm]
      rfl

/-! ### The beginning of a number -/

/-- The mantissa together with the bit after it. -/
def firstHalf (em : ExtendedMantissa) : ℚ := em.mantissa + if em.roundBit then 1 / 2 else 0

/-- The bits are those of `y`: the last one tells whether there are others behind it. -/
def BitsOf (em : ExtendedMantissa) (y : ℚ) : Prop :=
  if em.stickyBit then firstHalf em < y ∧ y < firstHalf em + 1 / 2 else y = firstHalf em

namespace BitsOf

variable {em : ExtendedMantissa} {y : ℚ}

/-- The mantissa is the whole part, and without bits behind it all of the number. -/
theorem whole (h : BitsOf em y) : (em.mantissa : ℚ) ≤ y ∧ y < em.mantissa + 1 ∧
    ((em.roundBit || em.stickyBit) = true ↔ (em.mantissa : ℚ) < y) := by
  obtain ⟨m, roundBit, stickyBit⟩ := em
  unfold BitsOf firstHalf at h
  cases roundBit <;> cases stickyBit <;> simp at h ⊢
  · subst h
    simp
  · exact ⟨by linarith, by linarith, by linarith⟩
  · subst h
    exact ⟨by linarith, by linarith, by linarith⟩
  · exact ⟨by linarith, by linarith, by linarith⟩

/-- The mantissa is rounded to the nearest whole number. -/
theorem rounded (h : BitsOf em y) : |(em.roundedMantissa : ℚ) - y| ≤ 1 / 2 := by
  obtain ⟨m, roundBit, stickyBit⟩ := em
  have hparity : ((m % 2 : ℕ) : ℚ) = 0 ∨ ((m % 2 : ℕ) : ℚ) = 1 := by
    exact_mod_cast Nat.mod_two_eq_zero_or_one m
  unfold BitsOf firstHalf at h
  rw [abs_le]
  cases roundBit <;> cases stickyBit <;>
    simp [ExtendedMantissa.roundedMantissa, ExtendedMantissa.accuracy,
      Accuracy.roundToNearestEven] at h ⊢
  · constructor <;> linarith
  · constructor <;> linarith
  · rcases hparity with hp | hp
    · rw [hp]
      constructor <;> linarith
    · rw [hp]
      constructor <;> linarith
  · constructor <;> linarith

/-- What is shifted out goes into the bits behind the mantissa. -/
theorem shiftRightOne (h : BitsOf em y) : BitsOf em.shiftRightOne (y / 2) := by
  obtain ⟨hl, hu, hb⟩ := h.whole
  have hhalf : firstHalf em.shiftRightOne = em.mantissa / 2 := by
    have hm : (em.mantissa : ℚ) = 2 * (em.mantissa / 2 : ℕ) + (em.mantissa % 2 : ℕ) := by
      exact_mod_cast (Nat.div_add_mod em.mantissa 2).symm
    rw [firstHalf, ExtendedMantissa.shiftRightOne]
    dsimp only
    rcases Nat.mod_two_eq_zero_or_one em.mantissa with hr | hr
    · rw [hr] at hm ⊢
      simp at hm ⊢
      linarith
    · rw [hr] at hm ⊢
      simp at hm ⊢
      linarith
  rw [BitsOf, hhalf]
  show if (em.roundBit || em.stickyBit) = true then _ else _
  split
  · rename_i hbit
    have := hb.mp hbit
    exact ⟨by linarith, by linarith⟩
  · rename_i hbit
    have := mt hb.mpr hbit
    linarith

theorem shiftRight (h : BitsOf em y) (n : ℕ) : BitsOf (em >>> n) (y / 2 ^ n) := by
  show BitsOf (n.repeat ExtendedMantissa.shiftRightOne em) _
  induction n with
  | zero => rwa [pow_zero, div_one]
  | succ n ih =>
    rw [pow_succ, ← div_div]
    exact ih.shiftRightOne

/-- A quotient, as its whole part and what the remainder says of the rest. -/
theorem of_div (m : ℕ) {d : ℕ} (hd : 0 < d) :
    BitsOf (.ofMantissaAndAccuracy (m / d) (accuracyOfFraction (m % d) d)) (m / d) := by
  have hlt : m % d < d := Nat.mod_lt m hd
  have hpos : (0 : ℚ) < d := by exact_mod_cast hd
  have hm : (m : ℚ) / d = (m / d : ℕ) + (m % d : ℕ) / d := by
    rw [eq_comm, add_div_eq_mul_add_div _ _ hpos.ne', div_left_inj' hpos.ne']
    exact_mod_cast (Nat.div_add_mod' m d)
  rw [hm]
  generalize m / d = w
  generalize m % d = r at hlt
  unfold accuracyOfFraction
  split
  · rename_i hr
    subst hr
    simp [BitsOf, firstHalf, ExtendedMantissa.ofMantissaAndAccuracy]
  · rename_i hr
    have hr0 : (0 : ℚ) < r / d := div_pos (by exact_mod_cast Nat.pos_of_ne_zero hr) hpos
    have hr1 : (r : ℚ) / d < 1 := (div_lt_one hpos).mpr (by exact_mod_cast hlt)
    have hhalf : (r : ℚ) / d * 2 = (2 * r : ℕ) / d := by push_cast; ring
    rcases lt_trichotomy (2 * r) d with h | h | h
    · have hless : ((2 * r : ℕ) : ℚ) / d < 1 := (div_lt_one hpos).mpr (by exact_mod_cast h)
      rw [Nat.compare_eq_lt.mpr h]
      simp [BitsOf, firstHalf, ExtendedMantissa.ofMantissaAndAccuracy]
      exact ⟨by linarith, by linarith⟩
    · have hsame : ((2 * r : ℕ) : ℚ) / d = 1 := by rw [h, div_self hpos.ne']
      rw [Nat.compare_eq_eq.mpr h]
      simp [BitsOf, firstHalf, ExtendedMantissa.ofMantissaAndAccuracy]
      linarith
    · have hmore : 1 < ((2 * r : ℕ) : ℚ) / d := (one_lt_div hpos).mpr (by exact_mod_cast h)
      rw [Nat.compare_eq_gt.mpr h]
      simp [BitsOf, firstHalf, ExtendedMantissa.ofMantissaAndAccuracy]
      exact ⟨by linarith, by linarith⟩

theorem of_nat (m : ℕ) : BitsOf (.ofMantissaAndAccuracy m .exact) m := by
  simp [BitsOf, firstHalf, ExtendedMantissa.ofMantissaAndAccuracy]

end BitsOf

/-! ### Rounding -/

/-- The greatest finite number. -/
def greatestFinite : ℚ := (2 ^ 53 - 1) * 2 ^ 971

/-- A mantissa of at most 53 digits, and no fewer unless the exponent is the least one. -/
structure Canonical (m : ℕ) (e : ℤ) : Prop where
  lt : m < 2 ^ 53
  least : -1074 ≤ e
  full : 2 ^ 52 ≤ m ∨ e = -1074

/-- Shifted to the left, a number stands for the same value some places further down. -/
theorem shiftLeft_value (m k : ℕ) (e : ℤ) : ((m <<< k : ℕ) : ℚ) * 2 ^ e = m * 2 ^ (e + k) := by
  rw [Nat.shiftLeft_eq, Nat.cast_mul, Nat.cast_pow, Nat.cast_ofNat, mul_assoc, ← zpow_natCast,
    ← zpow_add₀ two_ne_zero, add_comm]

theorem pow_le_shiftLeft {m : ℕ} (hm : 0 < m) (k : ℕ) : 2 ^ (m.log2 + k) ≤ m <<< k := by
  rw [pow_add, Nat.shiftLeft_eq]
  exact Nat.mul_le_mul_right _ (Nat.log2_self_le hm.ne')

theorem totalExponent_eq (m : ℕ) (e : ℤ) : totalExponent m e = m.log2 + 1 + e := rfl

/-- A mantissa has 53 digits, unless the exponent is the least one. -/
theorem targetExponent_eq (t : ℤ) :
    Format.binary64.targetExponent t = max (t - 53) (-1074) := rfl

theorem targetExponent_totalExponent (m : ℕ) (e : ℤ) :
    Format.binary64.targetExponent (totalExponent m e) = max (m.log2 + e - 52) (-1074) := by
  rw [targetExponent_eq, totalExponent_eq]
  omega

theorem shiftToTargetExponent_eq (m : ℕ) (e : ℤ) (a : Accuracy) {k : ℕ}
    (hk : k = (max (m.log2 + e - 52) (-1074) - e).toNat) :
    shiftToTargetExponent Format.binary64 m e a =
      (ExtendedMantissa.ofMantissaAndAccuracy m a >>> k, e + k) := by
  rw [shiftToTargetExponent, targetExponent_totalExponent, hk]
  rfl

/-- A mantissa that takes one digit too many by being rounded is shifted once more. -/
theorem roundWithAccuracy_of_rounded {s : Sign} {m : ℕ} {e : ℤ} {a : Accuracy}
    {em : ExtendedMantissa} {t : ℤ}
    (hshift : shiftToTargetExponent Format.binary64 m e a = (em, t))
    (hle : em.roundedMantissa ≤ 2 ^ 53) (hmin : -1074 ≤ t)
    (hfull : 2 ^ 52 ≤ em.roundedMantissa ∨ t = -1074) :
    (roundWithAccuracy Format.binary64 s m e a = .zero s ∧ em.roundedMantissa = 0) ∨
    ∃ m' e' hm', roundWithAccuracy Format.binary64 s m e a = .finite s m' e' hm' ∧
      Canonical m' e' ∧ (m' * 2 ^ e' : ℚ) = em.roundedMantissa * 2 ^ t := by
  have heq : ∀ p, shiftToTargetExponent Format.binary64 em.roundedMantissa t .exact = p →
      roundWithAccuracy Format.binary64 s m e a = if h : p.1.mantissa = 0 then .zero s
        else .finite s p.1.mantissa p.2 (Nat.pos_of_ne_zero h) := by
    rintro p rfl
    unfold roundWithAccuracy
    rw [hshift]
  generalize em.roundedMantissa = r at *
  rcases Nat.lt_or_eq_of_le hle with hlt | rfl
  · have hlog : r.log2 ≤ 52 := by
      rcases Nat.eq_zero_or_pos r with rfl | hpos
      · decide
      · exact Nat.le_of_lt_succ ((Nat.log2_lt hpos.ne').mpr hlt)
    have hsame : shiftToTargetExponent Format.binary64 r t .exact = (⟨r, false, false⟩, t) := by
      rw [shiftToTargetExponent_eq r t .exact (k := 0) (by omega), Int.natCast_zero, add_zero]
      rfl
    rw [heq _ hsame]
    by_cases h0 : r = 0
    · exact .inl ⟨dif_pos h0, h0⟩
    · exact .inr ⟨r, t, Nat.pos_of_ne_zero h0, dif_neg h0, ⟨hlt, hmin, hfull⟩, rfl⟩
  · have hcarry : shiftToTargetExponent Format.binary64 (2 ^ 53) t .exact =
        (⟨2 ^ 52, false, false⟩, t + 1) := by
      rw [shiftToTargetExponent_eq (2 ^ 53) t .exact (k := 1) (by rw [Nat.log2_two_pow]; omega)]
      rfl
    refine .inr ⟨2 ^ 52, t + 1, by decide, heq _ hcarry, ⟨by decide, by omega, .inl le_rfl⟩, ?_⟩
    rw [zpow_add_one₀ two_ne_zero]
    push_cast
    ring

/-- How many digits are left of a number that is shifted to the exponent of a mantissa. -/
theorem digits_of_shifted {m k : ℕ} {e : ℤ} {y : ℚ} (hm : m ≤ y ∧ y < m + 1)
    (hk : k = (max (m.log2 + e - 52) (-1074) - e).toNat) (henough : 2 ^ 52 ≤ m ∨ e ≤ -1074) :
    y / 2 ^ k < 2 ^ 53 ∧ (2 ^ 52 ≤ y / 2 ^ k ∨ e + k = -1074) := by
  have hpow : (0 : ℚ) < 2 ^ k := by positivity
  have hlog : 2 ^ 52 ≤ m → 52 ≤ m.log2 := fun h => (Nat.le_log2 (by omega)).mpr h
  constructor
  · have hdigits : m + 1 ≤ 2 ^ (53 + k) :=
      Nat.lt_log2_self.trans_le (Nat.pow_le_pow_right (by decide) (by omega))
    have hdigits' : (m : ℚ) + 1 ≤ 2 ^ (53 + k) := by exact_mod_cast hdigits
    rw [div_lt_iff₀ hpow, ← pow_add]
    exact hm.2.trans_le hdigits'
  · by_cases hleast : e + k = -1074
    · exact .inr hleast
    · have hpos : m ≠ 0 := by
        rintro rfl
        rw [Nat.log2_zero] at hk
        omega
      have hdigits : 2 ^ (52 + k) ≤ m :=
        (Nat.pow_le_pow_right (by decide) (by omega)).trans (Nat.log2_self_le hpos)
      have hdigits' : (2 ^ (52 + k) : ℚ) ≤ m := by exact_mod_cast hdigits
      rw [le_div_iff₀ hpow, ← pow_add]
      exact .inl (hdigits'.trans hm.1)

/-- A number becomes the short number nearest to it, if the mantissa holds enough of it. -/
theorem nearest_roundWithAccuracy (s : Sign) {m : ℕ} {e : ℤ} {a : Accuracy} {y : ℚ}
    (hy : BitsOf (.ofMantissaAndAccuracy m a) y) (henough : 2 ^ 52 ≤ m ∨ e ≤ -1074) :
    ∃ q : ℚ, Nearest (y * 2 ^ e) q ∧
      ((roundWithAccuracy Format.binary64 s m e a = .zero s ∧ q = 0) ∨
      ∃ m' e' hm', roundWithAccuracy Format.binary64 s m e a = .finite s m' e' hm' ∧
        Canonical m' e' ∧ m' * 2 ^ e' = q) := by
  obtain ⟨k, hk⟩ : ∃ k, k = (max (m.log2 + e - 52) (-1074) - e).toNat := ⟨_, rfl⟩
  have hshift := shiftToTargetExponent_eq m e a hk
  have hbits := hy.shiftRight k
  generalize ExtendedMantissa.ofMantissaAndAccuracy m a >>> k = em at *
  have hwhole := hbits.whole
  have hrounded := abs_le.mp hbits.rounded
  have hm := hy.whole
  have hmantissa : (ExtendedMantissa.ofMantissaAndAccuracy m a).mantissa = m := by
    cases a with
    | exact => rfl
    | inexact o => cases o <;> rfl
  rw [hmantissa] at hm
  obtain ⟨hlow, hhigh⟩ := digits_of_shifted ⟨hm.1, hm.2.1⟩ hk henough
  have hscale : y * 2 ^ e = y / 2 ^ k * 2 ^ (e + k) := by
    have hpow : (2 : ℚ) ^ k ≠ 0 := by positivity
    rw [add_comm, zpow_add₀ two_ne_zero, zpow_natCast, ← mul_assoc, div_mul_cancel₀ _ hpow]
  have hle : em.roundedMantissa ≤ 2 ^ 53 := by
    have : (em.roundedMantissa : ℚ) < 2 ^ 53 + 1 := by linarith
    have : em.roundedMantissa < 2 ^ 53 + 1 := by exact_mod_cast this
    omega
  have hfull : 2 ^ 52 ≤ em.roundedMantissa ∨ e + k = -1074 := by
    refine hhigh.imp_left fun h => ?_
    have : (2 ^ 52 : ℚ) < em.roundedMantissa + 1 := by linarith
    have : 2 ^ 52 < em.roundedMantissa + 1 := by exact_mod_cast this
    omega
  refine ⟨em.roundedMantissa * 2 ^ (e + k), ?_, ?_⟩
  · rw [hscale]
    exact Nearest.of_grid (r := em.roundedMantissa) (by exact_mod_cast hbits.rounded)
      (by rw [Nat.abs_cast]; exact_mod_cast hle) (by omega) hhigh
  · have := roundWithAccuracy_of_rounded (s := s) hshift hle (by omega) hfull
    refine this.imp_left fun h => ⟨h.1, ?_⟩
    rw [h.2, Nat.cast_zero, zero_mul]

/-! ### Packing -/

theorem toNat_packComponents (s : Sign) (e : BitVec 11) (m : BitVec 52) :
    (packComponents Format.binary64 s e m).toNat =
      (s.toBitVec.toNat * 2 ^ 11 + e.toNat) * 2 ^ 52 + m.toNat := by
  show ((s.toBitVec ++ e) ++ m).toNat = _
  rw [BitVec.toNat_append, ← Nat.shiftLeft_add_eq_or_of_lt m.isLt, BitVec.toNat_append,
    ← Nat.shiftLeft_add_eq_or_of_lt e.isLt, Nat.shiftLeft_eq, Nat.shiftLeft_eq]

/-- The value of a float that was put together from its parts. -/
theorem ofFloat_of_packComponents (s : Sign) (e : BitVec 11) (m : BitVec 52) {x : Float}
    (hx : x.toBits.toBitVec = packComponents Format.binary64 s e m) (he : e.toNat ≠ 2047) :
    Exact.ofFloat x = if e.toNat = 0 then .finite (s == .negative) m.toNat (-1074)
      else .finite (s == .negative) (2 ^ 52 + m.toNat) (e.toNat - 1075) := by
  have hbits : x.toBits.toNat = (s.toBitVec.toNat * 2 ^ 11 + e.toNat) * 2 ^ 52 + m.toNat := by
    rw [← toNat_packComponents, ← hx]
    rfl
  have := m.isLt
  have := e.isLt
  have hm : x.toBits.toNat % 2 ^ 52 = m.toNat := by omega
  have hexp : x.toBits.toNat / 2 ^ 52 % 2 ^ 11 = e.toNat := by omega
  have hs : (x.toBits.toNat / 2 ^ 63 == 1) = (s == .negative) := by
    have hdiv : x.toBits.toNat / 2 ^ 63 = s.toBitVec.toNat := by omega
    rw [hdiv]
    cases s <;> rfl
  rw [Exact.ofFloat, Exact.ofBits]
  simp only [Nat.pow_eq, hm, hexp, hs]
  rw [if_neg he]

/-- A canonical number keeps its value when it is put into bits. -/
theorem ofFloat_pack {s : Sign} {m : ℕ} {e : ℤ} (hm : 0 < m) (h : Canonical m e) (he : e ≤ 971) :
    Exact.ofFloat (.ofModel (Float.Model.pack (.finite s m e hm))) =
      .finite (s == .negative) m e := by
  obtain ⟨hlt, hleast, hfull⟩ := h
  have hmax : ¬ 2 ^ 11 ≤ (e + (1023 : ℕ) + (52 : ℕ)).toNat + 1 := by omega
  have hbits : (Float.ofModel (Float.Model.pack (.finite s m e hm))).toBits.toBitVec =
      if 2 ^ 11 ≤ (e + (1023 : ℕ) + (52 : ℕ)).toNat + 1 then packedInfinity Format.binary64 s
      else if m.log2 + 1 = 53 then packComponents Format.binary64 s
        (BitVec.ofNat 11 (e + (1023 : ℕ) + (52 : ℕ)).toNat) (BitVec.ofNat 52 m)
      else packComponents Format.binary64 s 0#11 (BitVec.ofNat 52 m) := rfl
  rw [if_neg hmax] at hbits
  by_cases hnormal : 2 ^ 52 ≤ m
  · have hlog : m.log2 + 1 = 53 := by
      rw [(Nat.log2_eq_iff hm.ne').mpr ⟨hnormal, hlt⟩]
    have hexp : (BitVec.ofNat 11 (e + (1023 : ℕ) + (52 : ℕ)).toNat).toNat = (e + 1075).toNat := by
      rw [BitVec.toNat_ofNat]
      omega
    have hman : 2 ^ 52 + (BitVec.ofNat 52 m).toNat = m := by
      rw [BitVec.toNat_ofNat]
      omega
    rw [if_pos hlog] at hbits
    rw [ofFloat_of_packComponents s _ _ hbits (by omega), hexp, if_neg (by omega), hman]
    congr 1
    omega
  · have hlog : ¬ m.log2 + 1 = 53 := by
      have := (Nat.log2_lt hm.ne').mpr (show m < 2 ^ 52 by omega)
      omega
    have hman : (BitVec.ofNat 52 m).toNat = m := by
      rw [BitVec.toNat_ofNat]
      omega
    rw [if_neg hlog] at hbits
    rw [ofFloat_of_packComponents s _ _ hbits (by decide), hman]
    rw [hfull.resolve_left hnormal]
    rfl

/-- So does zero, in both signs. -/
theorem ofFloat_pack_zero (s : Sign) :
    Exact.ofFloat (.ofModel (Float.Model.pack (.zero s))) = .finite (s == .negative) 0 (-1074) := by
  cases s <;> decide +kernel

/-! ### What rounding leads to -/

/-- The float stands for the short number nearest to `v`. -/
def Rounds (v : ℚ) (x : Float) : Prop := ∃ q, Nearest v q ∧ Exact.value? x = some q

/-- A short number is rounded to a float that stands for it. -/
theorem Rounds.value? {v : ℚ} {x : Float} (h : Rounds v x) (hv : Short v) :
    Exact.value? x = some v := by
  obtain ⟨q, hq, hx⟩ := h
  rw [hx, hq.eq_of_short hv]

/-- The magnitude `y` with a sign. -/
def signed (s : Sign) (y : ℚ) : ℚ := if s == .negative then -y else y

theorem Canonical.le_of_value_le {m : ℕ} {e : ℤ} (h : Canonical m e)
    (hle : (m * 2 ^ e : ℚ) ≤ greatestFinite) : e ≤ 971 := by
  rcases h.full with hfull | rfl
  · have hfull' : (2 ^ 52 : ℚ) ≤ m := by exact_mod_cast hfull
    have hlt : (2 : ℚ) ^ (e + 52) < 2 ^ (1024 : ℤ) :=
      calc (2 : ℚ) ^ (e + 52) = 2 ^ 52 * 2 ^ e := by
            rw [zpow_add₀ two_ne_zero, mul_comm]
            norm_num
        _ ≤ m * 2 ^ e := mul_le_mul_of_nonneg_right hfull' (by positivity)
        _ ≤ greatestFinite := hle
        _ < 2 ^ 53 * 2 ^ 971 := mul_lt_mul_of_pos_right (by norm_num) (by positivity)
        _ = 2 ^ (1024 : ℤ) := by rw [← pow_add]; rfl
    have := (zpow_lt_zpow_iff_right₀ one_lt_two).mp hlt
    omega
  · decide

/-- **Rounding.**  What is rounded and packed stands for the short number nearest to the exact
one. -/
theorem nearest_pack (s : Sign) {m : ℕ} {e : ℤ} {a : Accuracy} {y : ℚ}
    (hy : BitsOf (.ofMantissaAndAccuracy m a) y) (henough : 2 ^ 52 ≤ m ∨ e ≤ -1074)
    (hmax : y * 2 ^ e ≤ greatestFinite) :
    Rounds (signed s (y * 2 ^ e))
      (.ofModel (Float.Model.pack (roundWithAccuracy Format.binary64 s m e a))) := by
  obtain ⟨q, hq, hcases⟩ := nearest_roundWithAccuracy s hy henough
  have hsigned : Nearest (signed s (y * 2 ^ e)) (signed s q) := by
    unfold signed
    split
    · exact hq.neg
    · exact hq
  refine ⟨signed s q, hsigned, ?_⟩
  rcases hcases with ⟨h, rfl⟩ | ⟨m', e', hm', h, hcanonical, rfl⟩
  · rw [h, Exact.value?, ofFloat_pack_zero]
    simp [signed]
  · have hle : (m' * 2 ^ e' : ℚ) ≤ greatestFinite :=
      hq.le_of_le ⟨2 ^ 53 - 1, 971, by decide, by decide, by norm_num [greatestFinite]⟩ hmax
    have he' : e' ≤ 971 := hcanonical.le_of_value_le hle
    rw [h, Exact.value?, ofFloat_pack hm' hcanonical he']
    simp [signed]

theorem abs_signed (s : Sign) (y : ℚ) : |signed s y| = |y| := by
  unfold signed
  split
  · exact abs_neg y
  · rfl

theorem signed_mul (s t : Sign) (x y : ℚ) : signed s x * signed t y = signed (s * t) (x * y) := by
  cases s <;> cases t
  · exact neg_mul_neg x y
  · exact neg_mul x y
  · exact mul_neg x y
  · rfl

theorem signed_div (s t : Sign) (x y : ℚ) : signed s x / signed t y = signed (s / t) (x / y) := by
  cases s <;> cases t
  · exact neg_div_neg_eq x y
  · exact neg_div y x
  · exact div_neg x
  · rfl

/-- Digits are filled up with zeros before rounding. -/
theorem rounds_round (s : Sign) {m : ℕ} (hm : 0 < m) (e : ℤ)
    (hmax : (m * 2 ^ e : ℚ) ≤ greatestFinite) :
    Rounds (signed s (m * 2 ^ e))
      (.ofModel (Float.Model.pack (UnpackedFloat.round Format.binary64 s m e))) := by
  obtain ⟨k, hk⟩ : ∃ k, k = (e - max (m.log2 + e - 52) (-1074)).toNat := ⟨_, rfl⟩
  have hround : UnpackedFloat.round Format.binary64 s m e =
      roundWithAccuracy Format.binary64 s (m <<< k) (e - k) .exact := by
    rw [UnpackedFloat.round, targetExponent_totalExponent, hk]
    rfl
  have henough : 2 ^ 52 ≤ m <<< k ∨ e - k ≤ -1074 := by
    by_cases hleast : e - k ≤ -1074
    · exact .inr hleast
    · have hdigits : 2 ^ 52 ≤ 2 ^ (m.log2 + k) := Nat.pow_le_pow_right (by decide) (by omega)
      exact .inl (hdigits.trans (pow_le_shiftLeft hm k))
  have hvalue : ((m <<< k : ℕ) : ℚ) * 2 ^ (e - k) = m * 2 ^ e := by
    rw [shiftLeft_value, sub_add_cancel]
  rw [hround, ← hvalue]
  exact nearest_pack s (.of_nat _) henough (by rwa [hvalue])

theorem rounds_normalize (n e : ℤ) (zeroSign : Sign)
    (hmax : |(n * 2 ^ e : ℚ)| ≤ greatestFinite) :
    Rounds (n * 2 ^ e)
      (.ofModel (Float.Model.pack (UnpackedFloat.normalize Format.binary64 n e zeroSign))) := by
  have hplace : (0 : ℚ) < 2 ^ e := by positivity
  unfold UnpackedFloat.normalize
  rcases lt_trichotomy n 0 with hn | rfl | hn
  · rw [Int.compare_eq_lt.mpr hn]
    have hcast : ((-n).toNat : ℚ) = -n := by exact_mod_cast Int.toNat_of_nonneg (by omega)
    have hneg : (n * 2 ^ e : ℚ) = signed .negative ((-n).toNat * 2 ^ e) := by
      rw [hcast]
      exact (neg_eq_iff_eq_neg.mpr (neg_mul _ _)).symm
    rw [hneg] at hmax ⊢
    rw [abs_signed] at hmax
    exact rounds_round .negative (by omega) e ((le_abs_self _).trans hmax)
  · rw [show compare (0 : ℤ) 0 = .eq from rfl, Int.cast_zero, zero_mul]
    refine ⟨0, .of_short .zero, ?_⟩
    rw [Exact.value?, ofFloat_pack_zero]
    simp
  · rw [Int.compare_eq_gt.mpr hn]
    have hcast : (n.toNat : ℚ) = n := by exact_mod_cast Int.toNat_of_nonneg (by omega)
    have hpos : (n * 2 ^ e : ℚ) = signed .positive (n.toNat * 2 ^ e) := by
      rw [hcast]
      rfl
    rw [hpos] at hmax ⊢
    rw [abs_signed] at hmax
    exact rounds_round .positive (by omega) e ((le_abs_self _).trans hmax)

end Placard
