/-
Placard/Proofs/Order.lean

The order of all floats, infinities and NaN included.

`Exact.lt_iff` and `Exact.le_iff` compare finite floats by their numbers.  A guard that is passed by
any float at all needs a little more: apart from NaN all floats are in a line (`Exact.not_lt_iff`),
and every comparison with NaN fails (`Exact.isNaN_of_le`, `Exact.not_lt_of_isNaN`).
-/
import Placard.Proofs.Arithmetic

namespace Placard

open Float.Model UnpackedFloat

namespace Exact

/-- Comparing the other way round gives the opposite answer. -/
theorem compare_swap (f g : UnpackedFloat) : g.compare f = (f.compare g).map Ordering.swap := by
  have hfinite : ∀ (e e' : ℤ) (m m' : ℕ), (compare e' e).then (compare m' m) =
      ((compare e e').then (compare m m')).swap := fun e e' m m' => by
    rw [Ordering.swap_then, Int.compare_swap, Nat.compare_swap]
  cases f with
  | notANumber => cases g <;> rfl
  | infinity s =>
    cases g with
    | infinity t => cases s <;> cases t <;> rfl
    | _ => cases s <;> rfl
  | zero s =>
    cases g with
    | infinity t | finite t _ _ _ => cases t <;> rfl
    | _ => rfl
  | finite s m e hm =>
    cases g with
    | infinity t => cases t <;> rfl
    | notANumber => rfl
    | zero t => cases s <;> rfl
    | finite t m' e' hm' =>
      cases s <;> cases t
      · exact congrArg some (congrArg Ordering.swap (hfinite e e' m m'))
      · rfl
      · rfl
      · exact congrArg some (hfinite e e' m m')

/-- Everything but NaN can be compared. -/
theorem exists_compare_eq {f g : UnpackedFloat} (hf : f.isNaN = false) (hg : g.isNaN = false) :
    ∃ o, f.compare g = some o := by
  cases f with
  | notANumber => cases hf
  | infinity s =>
    cases g with
    | notANumber => cases hg
    | infinity t => exact ⟨_, rfl⟩
    | _ => cases s <;> exact ⟨_, rfl⟩
  | zero s =>
    cases g with
    | notANumber => cases hg
    | infinity t | finite t _ _ _ => cases t <;> exact ⟨_, rfl⟩
    | zero t => exact ⟨_, rfl⟩
  | finite s m e hm =>
    cases g with
    | notANumber => cases hg
    | infinity t | finite t _ _ _ => cases s <;> cases t <;> exact ⟨_, rfl⟩
    | zero t => cases s <;> exact ⟨_, rfl⟩

variable {x y : Float}

theorem lt_iff_compare : x < y ↔ x.toModel.unpack.compare y.toModel.unpack = some .lt := by
  show decide ((x.toModel.unpack.compare y.toModel.unpack == some .lt) = true) = true ↔ _
  rw [decide_eq_true_iff, beq_iff_eq]

theorem le_iff_compare :
    x ≤ y ↔ ∃ o : Ordering, x.toModel.unpack.compare y.toModel.unpack = some o ∧ o ≠ .gt := by
  show decide (((x.toModel.unpack.compare y.toModel.unpack).any (·.isLE)) = true) = true ↔ _
  rw [decide_eq_true_iff, Option.any_eq_true]
  refine exists_congr fun o => and_congr_right fun _ => ?_
  cases o <;> decide

/-- Apart from NaN, what does not come before comes after, or at the same place. -/
theorem not_lt_iff (hx : x.isNaN = false) (hy : y.isNaN = false) : ¬ x < y ↔ y ≤ x := by
  obtain ⟨o, ho⟩ := exists_compare_eq (f := x.toModel.unpack) (g := y.toModel.unpack) hx hy
  rw [lt_iff_compare, le_iff_compare, compare_swap x.toModel.unpack y.toModel.unpack, ho]
  cases o <;> simp

/-- What is compared with success is not NaN. -/
theorem isNaN_of_le (h : x ≤ y) : x.isNaN = false ∧ y.isNaN = false := by
  obtain ⟨o, ho, -⟩ := le_iff_compare.mp h
  have hnone : ∀ f : UnpackedFloat, f.compare .notANumber = none := fun f => by cases f <;> rfl
  constructor
  · show x.toModel.unpack.isNaN = false
    cases hf : x.toModel.unpack with
    | notANumber => rw [hf] at ho; cases ho
    | _ => rfl
  · show y.toModel.unpack.isNaN = false
    cases hg : y.toModel.unpack with
    | notANumber => rw [hg, hnone] at ho; cases ho
    | _ => rfl

theorem le_of_lt (h : x < y) : x ≤ y :=
  le_iff_compare.mpr ⟨.lt, lt_iff_compare.mp h, by decide⟩

theorem not_lt_of_le (h : y ≤ x) : ¬ x < y := by
  obtain ⟨hy, hx⟩ := isNaN_of_le h
  exact (not_lt_iff hx hy).mpr h

theorem not_le_of_lt (h : x < y) : ¬ y ≤ x := fun hle => not_lt_of_le hle h

/-- NaN comes neither before nor after anything. -/
theorem not_lt_of_isNaN (h : x.isNaN = true) (y : Float) : ¬ x < y ∧ ¬ y < x := by
  constructor
  · intro hlt
    rw [(isNaN_of_le (le_of_lt hlt)).1] at h
    cases h
  · intro hlt
    rw [(isNaN_of_le (le_of_lt hlt)).2] at h
    cases h

end Exact

end Placard
