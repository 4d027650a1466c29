/-
Placard/Lowercase/Runs.lean

The characters beyond ASCII whose lower case is one other character.

They come in runs: capital letters in a row, or every second character where capital and small
letters take turns, with their lower cases at the same distances.  A letter that is alone in this
makes a run of its own.
-/
namespace Placard.Lowercase

/-- Every `step`-th character from `first` to `last`.  The lower case of `first` is `image`, and
those of the others follow at the same distances. -/
structure Run where
  first : Nat
  last : Nat
  step : Nat
  image : Nat
  /-- neither a surrogate nor a number beyond the last character is reached -/
  isChar : image + (last - first) < 0xD800 ∨
    0xDFFF < image ∧ image + (last - first) < 0x110000 := by decide

namespace Run

/-- The lower case of a character, if it is one of the run. -/
def lower? (r : Run) (c : Char) : Option Char :=
  if r.first ≤ c.toNat ∧ c.toNat ≤ r.last ∧ (c.toNat - r.first) % r.step = 0 then
    some (Char.ofNat (r.image + (c.toNat - r.first)))
  else none

theorem lower?_eq_some {r : Run} {c d : Char} (h : r.lower? c = some d) :
    (r.first ≤ c.toNat ∧ c.toNat ≤ r.last) ∧ d.toNat = r.image + (c.toNat - r.first) := by
  unfold lower? at h
  split at h
  · rename_i hc
    obtain rfl := Option.some.inj h
    obtain ⟨hl, hu, -⟩ := hc
    refine ⟨⟨hl, hu⟩, ?_⟩
    have hvalid : (r.image + (c.toNat - r.first)).isValidChar := by
      have := r.isChar
      unfold Nat.isValidChar
      omega
    unfold Char.ofNat
    rw [dif_pos hvalid]
    rfl
  · cases h

end Run

/-- The runs in increasing order. -/
def runs : List Run :=
  [.mk 0xC0 0xD6 1 0xE0, .mk 0xD8 0xDE 1 0xF8, .mk 0x100 0x12E 2 0x101, .mk 0x132 0x136 2 0x133,
    .mk 0x139 0x147 2 0x13A, .mk 0x14A 0x176 2 0x14B, .mk 0x178 0x178 1 0xFF,
    .mk 0x179 0x17D 2 0x17A, .mk 0x181 0x181 1 0x253, .mk 0x182 0x184 2 0x183,
    .mk 0x186 0x186 1 0x254, .mk 0x187 0x187 1 0x188, .mk 0x189 0x18A 1 0x256,
    .mk 0x18B 0x18B 1 0x18C, .mk 0x18E 0x18E 1 0x1DD, .mk 0x18F 0x18F 1 0x259,
    .mk 0x190 0x190 1 0x25B, .mk 0x191 0x191 1 0x192, .mk 0x193 0x193 1 0x260,
    .mk 0x194 0x194 1 0x263, .mk 0x196 0x196 1 0x269, .mk 0x197 0x197 1 0x268,
    .mk 0x198 0x198 1 0x199, .mk 0x19C 0x19C 1 0x26F, .mk 0x19D 0x19D 1 0x272,
    .mk 0x19F 0x19F 1 0x275, .mk 0x1A0 0x1A4 2 0x1A1, .mk 0x1A6 0x1A6 1 0x280,
    .mk 0x1A7 0x1A7 1 0x1A8, .mk 0x1A9 0x1A9 1 0x283, .mk 0x1AC 0x1AC 1 0x1AD,
    .mk 0x1AE 0x1AE 1 0x288, .mk 0x1AF 0x1AF 1 0x1B0, .mk 0x1B1 0x1B2 1 0x28A,
    .mk 0x1B3 0x1B5 2 0x1B4, .mk 0x1B7 0x1B7 1 0x292, .mk 0x1B8 0x1B8 1 0x1B9,
    .mk 0x1BC 0x1BC 1 0x1BD, .mk 0x1C4 0x1C4 1 0x1C6, .mk 0x1C5 0x1C5 1 0x1C6,
    .mk 0x1C7 0x1C7 1 0x1C9, .mk 0x1C8 0x1C8 1 0x1C9, .mk 0x1CA 0x1CA 1 0x1CC,
    .mk 0x1CB 0x1DB 2 0x1CC, .mk 0x1DE 0x1EE 2 0x1DF, .mk 0x1F1 0x1F1 1 0x1F3,
    .mk 0x1F2 0x1F4 2 0x1F3, .mk 0x1F6 0x1F6 1 0x195, .mk 0x1F7 0x1F7 1 0x1BF,
    .mk 0x1F8 0x21E 2 0x1F9, .mk 0x220 0x220 1 0x19E, .mk 0x222 0x232 2 0x223,
    .mk 0x23A 0x23A 1 0x2C65, .mk 0x23B 0x23B 1 0x23C, .mk 0x23D 0x23D 1 0x19A,
    .mk 0x23E 0x23E 1 0x2C66, .mk 0x241 0x241 1 0x242, .mk 0x243 0x243 1 0x180,
    .mk 0x244 0x244 1 0x289, .mk 0x245 0x245 1 0x28C, .mk 0x246 0x24E 2 0x247,
    .mk 0x370 0x372 2 0x371, .mk 0x376 0x376 1 0x377, .mk 0x37F 0x37F 1 0x3F3,
    .mk 0x386 0x386 1 0x3AC, .mk 0x388 0x38A 1 0x3AD, .mk 0x38C 0x38C 1 0x3CC,
    .mk 0x38E 0x38F 1 0x3CD, .mk 0x391 0x3A1 1 0x3B1, .mk 0x3A3 0x3AB 1 0x3C3,
    .mk 0x3CF 0x3CF 1 0x3D7, .mk 0x3D8 0x3EE 2 0x3D9, .mk 0x3F4 0x3F4 1 0x3B8,
    .mk 0x3F7 0x3F7 1 0x3F8, .mk 0x3F9 0x3F9 1 0x3F2, .mk 0x3FA 0x3FA 1 0x3FB,
    .mk 0x3FD 0x3FF 1 0x37B, .mk 0x400 0x40F 1 0x450, .mk 0x410 0x42F 1 0x430,
    .mk 0x460 0x480 2 0x461, .mk 0x48A 0x4BE 2 0x48B, .mk 0x4C0 0x4C0 1 0x4CF,
    .mk 0x4C1 0x4CD 2 0x4C2, .mk 0x4D0 0x52E 2 0x4D1, .mk 0x531 0x556 1 0x561,
    .mk 0x10A0 0x10C5 1 0x2D00, .mk 0x10C7 0x10C7 1 0x2D27, .mk 0x10CD 0x10CD 1 0x2D2D,
    .mk 0x13A0 0x13EF 1 0xAB70, .mk 0x13F0 0x13F5 1 0x13F8, .mk 0x1C89 0x1C89 1 0x1C8A,
    .mk 0x1C90 0x1CBA 1 0x10D0, .mk 0x1CBD 0x1CBF 1 0x10FD, .mk 0x1E00 0x1E94 2 0x1E01,
    .mk 0x1E9E 0x1E9E 1 0xDF, .mk 0x1EA0 0x1EFE 2 0x1EA1, .mk 0x1F08 0x1F0F 1 0x1F00,
    .mk 0x1F18 0x1F1D 1 0x1F10, .mk 0x1F28 0x1F2F 1 0x1F20, .mk 0x1F38 0x1F3F 1 0x1F30,
    .mk 0x1F48 0x1F4D 1 0x1F40, .mk 0x1F59 0x1F5F 2 0x1F51, .mk 0x1F68 0x1F6F 1 0x1F60,
    .mk 0x1F88 0x1F8F 1 0x1F80, .mk 0x1F98 0x1F9F 1 0x1F90, .mk 0x1FA8 0x1FAF 1 0x1FA0,
    .mk 0x1FB8 0x1FB9 1 0x1FB0, .mk 0x1FBA 0x1FBB 1 0x1F70, .mk 0x1FBC 0x1FBC 1 0x1FB3,
    .mk 0x1FC8 0x1FCB 1 0x1F72, .mk 0x1FCC 0x1FCC 1 0x1FC3, .mk 0x1FD8 0x1FD9 1 0x1FD0,
    .mk 0x1FDA 0x1FDB 1 0x1F76, .mk 0x1FE8 0x1FE9 1 0x1FE0, .mk 0x1FEA 0x1FEB 1 0x1F7A,
    .mk 0x1FEC 0x1FEC 1 0x1FE5, .mk 0x1FF8 0x1FF9 1 0x1F78, .mk 0x1FFA 0x1FFB 1 0x1F7C,
    .mk 0x1FFC 0x1FFC 1 0x1FF3, .mk 0x2126 0x2126 1 0x3C9, .mk 0x212A 0x212A 1 0x6B,
    .mk 0x212B 0x212B 1 0xE5, .mk 0x2132 0x2132 1 0x214E, .mk 0x2160 0x216F 1 0x2170,
    .mk 0x2183 0x2183 1 0x2184, .mk 0x24B6 0x24CF 1 0x24D0, .mk 0x2C00 0x2C2F 1 0x2C30,
    .mk 0x2C60 0x2C60 1 0x2C61, .mk 0x2C62 0x2C62 1 0x26B, .mk 0x2C63 0x2C63 1 0x1D7D,
    .mk 0x2C64 0x2C64 1 0x27D, .mk 0x2C67 0x2C6B 2 0x2C68, .mk 0x2C6D 0x2C6D 1 0x251,
    .mk 0x2C6E 0x2C6E 1 0x271, .mk 0x2C6F 0x2C6F 1 0x250, .mk 0x2C70 0x2C70 1 0x252,
    .mk 0x2C72 0x2C72 1 0x2C73, .mk 0x2C75 0x2C75 1 0x2C76, .mk 0x2C7E 0x2C7F 1 0x23F,
    .mk 0x2C80 0x2CE2 2 0x2C81, .mk 0x2CEB 0x2CED 2 0x2CEC, .mk 0x2CF2 0x2CF2 1 0x2CF3,
    .mk 0xA640 0xA66C 2 0xA641, .mk 0xA680 0xA69A 2 0xA681, .mk 0xA722 0xA72E 2 0xA723,
    .mk 0xA732 0xA76E 2 0xA733, .mk 0xA779 0xA77B 2 0xA77A, .mk 0xA77D 0xA77D 1 0x1D79,
    .mk 0xA77E 0xA786 2 0xA77F, .mk 0xA78B 0xA78B 1 0xA78C, .mk 0xA78D 0xA78D 1 0x265,
    .mk 0xA790 0xA792 2 0xA791, .mk 0xA796 0xA7A8 2 0xA797, .mk 0xA7AA 0xA7AA 1 0x266,
    .mk 0xA7AB 0xA7AB 1 0x25C, .mk 0xA7AC 0xA7AC 1 0x261, .mk 0xA7AD 0xA7AD 1 0x26C,
    .mk 0xA7AE 0xA7AE 1 0x26A, .mk 0xA7B0 0xA7B0 1 0x29E, .mk 0xA7B1 0xA7B1 1 0x287,
    .mk 0xA7B2 0xA7B2 1 0x29D, .mk 0xA7B3 0xA7B3 1 0xAB53, .mk 0xA7B4 0xA7C2 2 0xA7B5,
    .mk 0xA7C4 0xA7C4 1 0xA794, .mk 0xA7C5 0xA7C5 1 0x282, .mk 0xA7C6 0xA7C6 1 0x1D8E,
    .mk 0xA7C7 0xA7C9 2 0xA7C8, .mk 0xA7CB 0xA7CB 1 0x264, .mk 0xA7CC 0xA7DA 2 0xA7CD,
    .mk 0xA7DC 0xA7DC 1 0x19B, .mk 0xA7F5 0xA7F5 1 0xA7F6, .mk 0xFF21 0xFF3A 1 0xFF41,
    .mk 0x10400 0x10427 1 0x10428, .mk 0x104B0 0x104D3 1 0x104D8, .mk 0x10570 0x1057A 1 0x10597,
    .mk 0x1057C 0x1058A 1 0x105A3, .mk 0x1058C 0x10592 1 0x105B3, .mk 0x10594 0x10595 1 0x105BB,
    .mk 0x10C80 0x10CB2 1 0x10CC0, .mk 0x10D50 0x10D65 1 0x10D70, .mk 0x118A0 0x118BF 1 0x118C0,
    .mk 0x16E40 0x16E5F 1 0x16E60, .mk 0x16EA0 0x16EB8 1 0x16EBB, .mk 0x1E900 0x1E921 1 0x1E922]

/-- Only the Kelvin sign has its lower case within ASCII. -/
theorem image_of_mem_runs :
    ∀ r ∈ runs, 128 ≤ r.image ∨ r.first = 0x212A ∧ r.last = 0x212A ∧ r.image = 0x6B := by
  decide +kernel

end Placard.Lowercase
