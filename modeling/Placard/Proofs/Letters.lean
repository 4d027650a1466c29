/-
Placard/Proofs/Letters.lean

The letters of ASCII in upper and lower case.

`SameLetter` names the 26 pairs of letters one by one, and `SameUpToCase` compares texts with it
character by character.  Both are the same as equality in lower case (`toLower_eq_toLower_iff`,
`map_toLower_eq_iff`).  Lower case changes nothing outside of ASCII, so that what is to be known of
a character and its lower case can be checked on 128 code points (`toLower_of_ascii`).
-/
import Mathlib.Data.List.Forall2

namespace Placard

/-- What holds of every character and itself, and of those of ASCII and their lower case, holds of
every character and its lower case. -/
theorem toLower_of_ascii {P : Char → Char → Prop} (hself : ∀ c, P c c)
    (hascii : ∀ n < 128, P (Char.ofNat n) (Char.ofNat n).toLower) (c : Char) : P c c.toLower := by
  by_cases hc : c.toNat < 128
  · have h := hascii c.toNat hc
    rwa [Char.ofNat_toNat] at h
  · have hother : c.toLower = c := by
      unfold Char.toLower
      split
      · rename_i hletter
        have hle : c.toNat ≤ 90 := hletter.2
        exact absurd (Nat.lt_of_le_of_lt hle (by decide)) hc
      · rfl
    rw [hother]
    exact hself c

/-! ### Pairs of letters -/

/-- The letters, each in upper and in lower case. -/
def letterPairs : List (Char × Char) :=
  "ABCDEFGHIJKLMNOPQRSTUVWXYZ".toList.zip "abcdefghijklmnopqrstuvwxyz".toList

/-- The same character, or the same letter in the other case. -/
def SameLetter (a b : Char) : Prop := a = b ∨ (a, b) ∈ letterPairs ∨ (b, a) ∈ letterPairs

instance (a b : Char) : Decidable (SameLetter a b) := inferInstanceAs (Decidable (_ ∨ _ ∨ _))

theorem toLower_of_mem_letterPairs :
    ∀ p ∈ letterPairs, p.1.toLower = p.2 ∧ p.2.toLower = p.2 := by decide

/-- No two letters in upper case have the same lower case. -/
theorem eq_of_mem_letterPairs :
    ∀ p ∈ letterPairs, ∀ q ∈ letterPairs, p.2 = q.2 → p.1 = q.1 := by decide

theorem toLower_eq_or (c : Char) : c.toLower = c ∨ (c, c.toLower) ∈ letterPairs :=
  toLower_of_ascii (P := fun c d => d = c ∨ (c, d) ∈ letterPairs) (fun _ => .inl rfl) (by decide) c

theorem toLower_eq_toLower_iff {a b : Char} : a.toLower = b.toLower ↔ SameLetter a b := by
  constructor
  · intro h
    rcases toLower_eq_or a with ha | ha <;> rcases toLower_eq_or b with hb | hb
    · exact .inl (ha.symm.trans (h.trans hb))
    · rw [← h, ha] at hb
      exact .inr (.inr hb)
    · rw [h, hb] at ha
      exact .inr (.inl ha)
    · exact .inl (eq_of_mem_letterPairs _ ha _ hb h)
  · rintro (rfl | h | h)
    · rfl
    · obtain ⟨ha, hb⟩ := toLower_of_mem_letterPairs _ h
      exact ha.trans hb.symm
    · obtain ⟨hb, ha⟩ := toLower_of_mem_letterPairs _ h
      exact ha.trans hb.symm

/-! ### Texts -/

/-- The same text up to the case of the letters of ASCII. -/
def SameUpToCase (s t : String) : Prop := List.Forall₂ SameLetter s.toList t.toList

theorem map_toLower_eq_iff {s t : String} :
    s.toList.map Char.toLower = t.toList.map Char.toLower ↔ SameUpToCase s t := by
  rw [← List.forall₂_eq_eq_eq, List.forall₂_map_left_iff, List.forall₂_map_right_iff]
  simp only [toLower_eq_toLower_iff]
  rfl

theorem SameUpToCase.symm {s t : String} (h : SameUpToCase s t) : SameUpToCase t s :=
  map_toLower_eq_iff.mp (map_toLower_eq_iff.mpr h).symm

theorem SameUpToCase.trans {s t u : String} (hst : SameUpToCase s t) (htu : SameUpToCase t u) :
    SameUpToCase s u :=
  map_toLower_eq_iff.mp ((map_toLower_eq_iff.mpr hst).trans (map_toLower_eq_iff.mpr htu))

end Placard
