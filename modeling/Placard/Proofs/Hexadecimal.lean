/-
Placard/Proofs/Hexadecimal.lean

Which texts are hexadecimal colors.

`HexDigit c n` says by its place among the sixteen digits that `c` is the digit of value `n`, and
`HexPair a b v` that the digits `a` and `b` denote the byte `v`.  A color is written as an optional
`#` and a pair for each of its three bytes (`Color.Written`).  Every text of this form is read as the
color of these bytes, but the reader knows more pairs than there are pairs of digits: it takes a
plus sign in place of the first one (`SignedPair`).  What it reads is given by these pairs exactly
(`Color.ofHex?_eq_some_iff`), and by pairs of digits for texts without a plus sign.
-/
import Placard.Palette.Override
import Placard.Proofs.Letters

namespace Placard

/-! ### Digits -/

/-- `c` is the digit of value `n`, in lower or in upper case. -/
def HexDigit (c : Char) (n : Nat) : Prop :=
  "0123456789abcdef".toList[n]? = some c ∨ "0123456789ABCDEF".toList[n]? = some c

instance (c : Char) (n : Nat) : Decidable (HexDigit c n) :=
  inferInstanceAs (Decidable (_ ∨ _))

/-- The characters from `first` on are the digits from the value `start` on, `count` of them. -/
theorem HexDigit.of_run (first start count : Nat)
    (hrun : ∀ k < count, HexDigit (Char.ofNat (first + k)) (start + k)) {c : Char}
    (hl : first ≤ c.toNat) (hu : c.toNat < first + count) :
    HexDigit c (c.toNat - first + start) := by
  have h := hrun (c.toNat - first) (by omega)
  rwa [Nat.add_sub_cancel' hl, Char.ofNat_toNat, Nat.add_comm start] at h

theorem HexDigit.of_hexDigit? {c : Char} {n : Nat} (h : hexDigit? c = some n) : HexDigit c n := by
  have htoNat : ∀ {a b : Char}, a ≤ b → a.toNat ≤ b.toNat := fun h => h
  -- three runs of characters: the numerals, and the letters in lower and in upper case
  unfold hexDigit? at h
  split at h
  · rename_i hc
    obtain rfl := Option.some.inj h
    exact of_run 48 0 10 (by decide) (htoNat hc.1)
      (Nat.lt_succ_of_le (htoNat hc.2))
  · split at h
    · rename_i hc
      obtain rfl := Option.some.inj h
      exact of_run 97 10 6 (by decide) (htoNat hc.1)
        (Nat.lt_succ_of_le (htoNat hc.2))
    · split at h
      · rename_i hc
        obtain rfl := Option.some.inj h
        exact of_run 65 10 6 (by decide) (htoNat hc.1)
          (Nat.lt_succ_of_le (htoNat hc.2))
      · cases h

/-- The digits are read as their values. -/
theorem hexDigit?_eq_some_iff {c : Char} {n : Nat} : hexDigit? c = some n ↔ HexDigit c n := by
  have hread : ∀ {digits : List Char},
      (∀ k < digits.length, (digits[k]?).all (hexDigit? · == some k) = true) →
      digits[n]? = some c → hexDigit? c = some n := by
    intro digits hdigits h
    have hvalue := hdigits n (List.getElem?_eq_some_iff.mp h).1
    rw [h] at hvalue
    exact beq_iff_eq.mp hvalue
  exact ⟨.of_hexDigit?, Or.rec (hread (by decide)) (hread (by decide))⟩

/-! ### Pairs -/

/-- The two digits of a byte. -/
def HexPair (a b : Char) (v : UInt8) : Prop :=
  ∃ m n, HexDigit a m ∧ HexDigit b n ∧ v = UInt8.ofNat (16 * m + n)

/-- The two digits of a byte, or a plus sign and a digit. -/
def SignedPair (a b : Char) (v : UInt8) : Prop :=
  HexPair a b v ∨ a = '+' ∧ ∃ n, HexDigit b n ∧ v = UInt8.ofNat n

theorem HexPair.not_plus {a b : Char} {v : UInt8} (h : HexPair a b v) : a ≠ '+' := by
  obtain ⟨m, n, ha, -, -⟩ := h
  rintro rfl
  cases hexDigit?_eq_some_iff.mpr ha

theorem SignedPair.not_hash {a b : Char} {v : UInt8} (h : SignedPair a b v) : a ≠ '#' := by
  rintro rfl
  rcases h with ⟨m, n, ha, -, -⟩ | ⟨hplus, -⟩
  · cases hexDigit?_eq_some_iff.mpr ha
  · cases hplus

namespace Color

theorem hexByte?_eq_some_iff {a b : Char} {v : UInt8} :
    hexByte? a b = some v ↔ SignedPair a b v := by
  unfold hexByte?
  split
  · rename_i ha
    rw [Option.map_eq_some_iff]
    constructor
    · rintro ⟨n, hn, rfl⟩
      exact .inr ⟨ha, n, hexDigit?_eq_some_iff.mp hn, rfl⟩
    · rintro (h | ⟨-, n, hn, rfl⟩)
      · exact absurd ha h.not_plus
      · exact ⟨n, hexDigit?_eq_some_iff.mpr hn, rfl⟩
  · rename_i ha
    simp only [bind, Option.bind_eq_some_iff, pure, Option.some.injEq]
    constructor
    · rintro ⟨m, hm, n, hn, rfl⟩
      exact .inl ⟨m, n, hexDigit?_eq_some_iff.mp hm, hexDigit?_eq_some_iff.mp hn, rfl⟩
    · rintro (⟨m, n, hm, hn, rfl⟩ | ⟨hplus, -⟩)
      · exact ⟨m, hexDigit?_eq_some_iff.mpr hm, n, hexDigit?_eq_some_iff.mpr hn, rfl⟩
      · exact absurd hplus ha

/-! ### Texts -/

/-- The text is an optional `#` and three pairs, which denote the bytes in the way of `pair`. -/
def Written (pair : Char → Char → UInt8 → Prop) (text : String) (r g b : UInt8) : Prop :=
  ∃ hash r₁ r₂ g₁ g₂ b₁ b₂, (hash = [] ∨ hash = ['#']) ∧
    text.toList = hash ++ [r₁, r₂, g₁, g₂, b₁, b₂] ∧
    pair r₁ r₂ r ∧ pair g₁ g₂ g ∧ pair b₁ b₂ b

theorem ofHexDigits?_eq_some_iff {digits : List Char} {c : Color} :
    ofHexDigits? digits = some c ↔ ∃ r₁ r₂ g₁ g₂ b₁ b₂ r g b,
      digits = [r₁, r₂, g₁, g₂, b₁, b₂] ∧
      (SignedPair r₁ r₂ r ∧ SignedPair g₁ g₂ g ∧ SignedPair b₁ b₂ b) ∧ c = ofBytes r g b := by
  constructor
  · intro h
    unfold ofHexDigits? at h
    split at h
    · simp only [bind, Option.bind_eq_some_iff, pure, Option.some.injEq] at h
      obtain ⟨r, hr, g, hg, b, hb, rfl⟩ := h
      exact ⟨_, _, _, _, _, _, r, g, b, rfl, ⟨hexByte?_eq_some_iff.mp hr,
        hexByte?_eq_some_iff.mp hg, hexByte?_eq_some_iff.mp hb⟩, rfl⟩
    · cases h
  · rintro ⟨r₁, r₂, g₁, g₂, b₁, b₂, r, g, b, rfl, ⟨hr, hg, hb⟩, rfl⟩
    simp only [ofHexDigits?, hexByte?_eq_some_iff.mpr hr, hexByte?_eq_some_iff.mpr hg,
      hexByte?_eq_some_iff.mpr hb]
    rfl

variable {text : String} {r g b : UInt8}

/-- What is written with digits is also written with digits or plus signs. -/
theorem Written.signed (h : Written HexPair text r g b) : Written SignedPair text r g b := by
  obtain ⟨hash, r₁, r₂, g₁, g₂, b₁, b₂, hhash, htext, hr, hg, hb⟩ := h
  exact ⟨hash, r₁, r₂, g₁, g₂, b₁, b₂, hhash, htext, .inl hr, .inl hg, .inl hb⟩

/-- Without a plus sign there are only digits. -/
theorem Written.digits (h : Written SignedPair text r g b) (hplus : '+' ∉ text.toList) :
    Written HexPair text r g b := by
  obtain ⟨hash, r₁, r₂, g₁, g₂, b₁, b₂, hhash, htext, hr, hg, hb⟩ := h
  have hpair : ∀ {a c : Char} {v : UInt8}, SignedPair a c v → a ∈ text.toList → HexPair a c v := by
    rintro a c v (h | ⟨rfl, -⟩) ha
    · exact h
    · exact absurd ha hplus
  have hmem : ∀ a ∈ [r₁, r₂, g₁, g₂, b₁, b₂], a ∈ text.toList := fun a ha =>
    htext ▸ List.mem_append_right hash ha
  exact ⟨hash, r₁, r₂, g₁, g₂, b₁, b₂, hhash, htext, hpair hr (hmem r₁ (by simp)),
    hpair hg (hmem g₁ (by simp)), hpair hb (hmem b₁ (by simp))⟩

/-- A text is read as a color if and only if it is written with digits or plus signs. -/
theorem ofHex?_eq_some_iff {c : Color} :
    ofHex? text = some c ↔ ∃ r g b, Written SignedPair text r g b ∧ c = ofBytes r g b := by
  unfold ofHex?
  split
  · rename_i digits htext
    rw [ofHexDigits?_eq_some_iff]
    constructor
    · rintro ⟨r₁, r₂, g₁, g₂, b₁, b₂, r, g, b, rfl, hpairs, hc⟩
      exact ⟨r, g, b, ⟨['#'], r₁, r₂, g₁, g₂, b₁, b₂, .inr rfl, htext, hpairs⟩, hc⟩
    · rintro ⟨r, g, b, ⟨hash, r₁, r₂, g₁, g₂, b₁, b₂, hhash, hwritten, hpairs⟩, hc⟩
      rw [htext] at hwritten
      rcases hhash with rfl | rfl
      · -- the `#` would be the first character of a pair
        exact absurd (List.cons.inj hwritten).1.symm hpairs.1.not_hash
      · exact ⟨r₁, r₂, g₁, g₂, b₁, b₂, r, g, b, (List.cons.inj hwritten).2, hpairs, hc⟩
  · rename_i hnone
    rw [ofHexDigits?_eq_some_iff]
    constructor
    · rintro ⟨r₁, r₂, g₁, g₂, b₁, b₂, r, g, b, htext, hpairs, hc⟩
      exact ⟨r, g, b, ⟨[], r₁, r₂, g₁, g₂, b₁, b₂, .inl rfl, htext, hpairs⟩, hc⟩
    · rintro ⟨r, g, b, ⟨hash, r₁, r₂, g₁, g₂, b₁, b₂, hhash, hwritten, hpairs⟩, hc⟩
      rcases hhash with rfl | rfl
      · exact ⟨r₁, r₂, g₁, g₂, b₁, b₂, r, g, b, hwritten, hpairs, hc⟩
      · exact absurd hwritten (hnone _)

/-! ### Letter case -/

theorem hexDigit?_toLower (c : Char) : hexDigit? c = hexDigit? c.toLower :=
  toLower_of_ascii (P := fun c d => hexDigit? c = hexDigit? d) (fun _ => rfl) (by decide) c

theorem toLower_eq_plus_iff (c : Char) : c = '+' ↔ c.toLower = '+' :=
  toLower_of_ascii (P := fun c d => c = '+' ↔ d = '+') (fun _ => Iff.rfl) (by decide) c

theorem toLower_eq_hash_iff (c : Char) : c = '#' ↔ c.toLower = '#' :=
  toLower_of_ascii (P := fun c d => c = '#' ↔ d = '#') (fun _ => Iff.rfl) (by decide) c

theorem hexByte?_toLower (a b : Char) : hexByte? a b = hexByte? a.toLower b.toLower := by
  simp only [hexByte?, toLower_eq_plus_iff a, hexDigit?_toLower a, hexDigit?_toLower b]

theorem ofHexDigits?_map_toLower :
    ∀ digits : List Char, ofHexDigits? digits = ofHexDigits? (digits.map Char.toLower)
  | [r₁, r₂, g₁, g₂, b₁, b₂] => by
    simp only [ofHexDigits?, List.map, hexByte?_toLower r₁, hexByte?_toLower g₁,
      hexByte?_toLower b₁]
  | [] | [_] | [_, _] | [_, _, _] | [_, _, _, _] | [_, _, _, _, _]
  | _ :: _ :: _ :: _ :: _ :: _ :: _ :: _ => rfl

theorem ofHex?_map_toLower (text : String) :
    ofHex? text = ofHex? (String.ofList (text.toList.map Char.toLower)) := by
  unfold ofHex?
  rw [String.toList_ofList]
  split
  · rename_i digits htext
    rw [htext]
    exact ofHexDigits?_map_toLower digits
  · rename_i hnone
    split
    · rename_i digits hlower
      obtain ⟨c, rest, htext, hc, -⟩ := List.map_eq_cons_iff.mp hlower
      rw [← toLower_eq_hash_iff] at hc
      exact absurd (hc ▸ htext) (hnone rest)
    · exact ofHexDigits?_map_toLower _

/-- **Hexadecimal colors.**  A text is read as a color if and only if it is an optional `#` and
three pairs, each of them two digits or a plus sign and a digit; the color is the opaque one of the
three bytes.  So every text that is written with digits alone is read, and nothing else is, unless it
has a plus sign.  Letter case makes no difference. -/
theorem ofHex?_reads_signed_pairs (text : String) :
    (∀ c, ofHex? text = some c ↔ ∃ r g b, Written SignedPair text r g b ∧ c = ofBytes r g b) ∧
    (∀ r g b, Written HexPair text r g b → ofHex? text = some (ofBytes r g b)) ∧
    ('+' ∉ text.toList → ∀ c,
      ofHex? text = some c ↔ ∃ r g b, Written HexPair text r g b ∧ c = ofBytes r g b) ∧
    ∀ other : String, text.toList.map Char.toLower = other.toList.map Char.toLower →
      ofHex? text = ofHex? other := by
  -- the first part says what the reader does; the others are read off it
  refine ⟨fun c => ofHex?_eq_some_iff, fun r g b h => ?_, fun hplus c => ?_, fun other h => ?_⟩
  · exact ofHex?_eq_some_iff.mpr ⟨r, g, b, h.signed, rfl⟩
  · rw [ofHex?_eq_some_iff]
    constructor
    · rintro ⟨r, g, b, h, hc⟩
      exact ⟨r, g, b, h.digits hplus, hc⟩
    · rintro ⟨r, g, b, h, hc⟩
      exact ⟨r, g, b, h.signed, hc⟩
  · rw [ofHex?_map_toLower text, h, ← ofHex?_map_toLower]

/-- The background of the standard palette, with its letters in both cases. -/
theorem ofHex?_reads_signed_pairs_of_background :
    Written HexPair "#0b1220" 0x0B 0x12 0x20 ∧
    ofHex? "#0b1220" = some (ofBytes 0x0B 0x12 0x20) ∧ ofHex? "#0B1220" = ofHex? "#0b1220" := by
  have hwritten : Written HexPair "#0b1220" 0x0B 0x12 0x20 :=
    ⟨['#'], '0', 'b', '1', '2', '2', '0', .inr rfl, rfl, ⟨0, 11, by decide, by decide, rfl⟩,
      ⟨1, 2, by decide, by decide, rfl⟩, ⟨2, 0, by decide, by decide, rfl⟩⟩
  obtain ⟨-, hread, -, -⟩ := ofHex?_reads_signed_pairs "#0b1220"
  obtain ⟨-, -, -, hcase⟩ := ofHex?_reads_signed_pairs "#0B1220"
  exact ⟨hwritten, hread _ _ _ hwritten, hcase _ (by decide)⟩

/-- A text with plus signs is taken for a color, although it is not written with digits; as a
setting of the palette it is not refused. -/
theorem plus_signs_read_as_digits :
    ofHex? "#+1+2+3" = some (ofBytes 1 2 3) ∧
    (ColorSpec.name "#+1+2+3").refusal? = none ∧
    ¬ ∃ r g b, Written HexPair "#+1+2+3" r g b := by
  refine ⟨rfl, rfl, ?_⟩
  rintro ⟨r, g, b, hash, r₁, r₂, g₁, g₂, b₁, b₂, rfl | rfl, htext, hr, -, -⟩
  · cases htext
  · exact hr.not_plus (List.cons.inj (List.cons.inj htext).2).1.symm

end Color

end Placard
