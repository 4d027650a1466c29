/-
Placard/Pixel.lean

Coordinates of the pixel grid.

A coordinate is an integer that fits in 32 signed bits.  Sums and differences are
taken in the integers and brought back by `Pixel.clamp`, which stops at the end of
the grid; `Pixel.ofInt?` refuses instead.
-/
namespace Placard

/-- A coordinate of the pixel grid. -/
structure Pixel where
  val : Int
  least_le : -2147483648 ≤ val
  le_greatest : val ≤ 2147483647
deriving DecidableEq

namespace Pixel

instance : Coe Pixel Int := ⟨Pixel.val⟩

/-- The greatest coordinate. -/
def greatest : Int := 2147483647

/-- The least coordinate. -/
def least : Int := -2147483648

/-- The coordinate nearest to `z`. -/
def clamp (z : Int) : Pixel :=
  ⟨max (-2147483648) (min z 2147483647), by omega, by omega⟩

/-- `z` as a coordinate, if the grid reaches that far. -/
def ofInt? (z : Int) : Option Pixel :=
  if h : -2147483648 ≤ z ∧ z ≤ 2147483647 then some ⟨z, h.1, h.2⟩ else none

/-- The coordinate `d` further on, or the last one in that direction. -/
def shift (p : Pixel) (d : Int) : Pixel := clamp (p.val + d)

instance (n : Nat) : OfNat Pixel n := ⟨clamp n⟩

instance : Neg Pixel := ⟨fun p => clamp (-p.val)⟩

instance : Inhabited Pixel := ⟨0⟩

@[ext] theorem ext {p q : Pixel} (h : p.val = q.val) : p = q := by
  cases p; cases q; simp_all

theorem clamp_val (z : Int) : (clamp z).val = max (-2147483648) (min z 2147483647) := rfl

/-- Clamping changes nothing on the grid. -/
theorem val_clamp_of_mem {z : Int} (hl : -2147483648 ≤ z) (hu : z ≤ 2147483647) :
    (clamp z).val = z := by
  rw [clamp_val]; omega

/-- Clamping keeps the order. -/
theorem clamp_mono {a b : Int} (h : a ≤ b) : (clamp a).val ≤ (clamp b).val := by
  simp only [clamp_val]; omega

theorem shift_val (p : Pixel) (d : Int) :
    (p.shift d).val = max (-2147483648) (min (p.val + d) 2147483647) := rfl

theorem ofInt?_eq_some_iff {z : Int} {p : Pixel} : ofInt? z = some p ↔ p.val = z := by
  unfold ofInt?
  split
  · rename_i h
    constructor
    · rintro ⟨⟩; rfl
    · intro e; exact congrArg some (Pixel.ext e.symm)
  · rename_i h
    constructor
    · rintro ⟨⟩
    · intro e; exact absurd ⟨e ▸ p.least_le, e ▸ p.le_greatest⟩ h

end Pixel

end Placard
