/-
Placard/Proofs/Named.lean

Which texts name a color.

The lower case of a text is compared with seven words of ASCII.  A character of ASCII and the Kelvin
sign, whose lower case is a `k`, have one character of ASCII as their lower case; that of any other
character has something beyond ASCII in it, wherever in a word it is (`Lowercase.inPlace_cases`).
So a text whose lower case is a word of ASCII has one character for each of the letters
(`Lowercase.ofString_eq_iff`).  Only one of the seven words has a `k`, which is its last letter: the
Kelvin sign may be the last character of that name, and nothing else beyond ASCII is in any name.
-/
import Placard.Color
import Placard.Proofs.Letters

namespace Placard

/-! ### Characters -/

namespace Lowercase

def kelvinSign : Char := '\u212A'

/-- `l` is the lower case of `c` and is of ASCII. -/
def Stands (c l : Char) : Prop := c.toNat < 128 ∧ c.toLower = l ∨ c = kelvinSign ∧ l = 'k'

/-- The lower case of a character is one letter of ASCII, or has something beyond ASCII in it. -/
theorem ofChar_cases (c : Char) :
    (∃ l, Stands c l ∧ ofChar c = [l]) ∨ ∃ d ∈ ofChar c, 128 ≤ d.toNat := by
  unfold ofChar
  split
  · rename_i hc
    exact .inl ⟨c.toLower, .inl ⟨hc, rfl⟩, rfl⟩
  · rename_i hc
    have hbeyond : 128 ≤ c.toNat := Nat.le_of_not_lt hc
    split
    · -- the dot is left
      exact .inr ⟨'\u0307', by simp, by decide⟩
    · cases hrun : runs.findSome? (·.lower? c) with
      | none => exact .inr ⟨c, by simp, hbeyond⟩
      | some d =>
        obtain ⟨r, hr, hd⟩ := List.exists_of_findSome?_eq_some hrun
        obtain ⟨⟨hfirst, hlast⟩, hnumber⟩ := Run.lower?_eq_some hd
        rcases image_of_mem_runs r hr with himage | ⟨hkelvin, hsame, hk⟩
        · exact .inr ⟨d, by simp, by omega⟩
        · have hc : c = kelvinSign := Char.toNat_inj.mp (show c.toNat = 0x212A by omega)
          have hd : d = 'k' := Char.toNat_inj.mp (show d.toNat = 0x6B by omega)
          exact .inl ⟨d, .inr ⟨hc, hd⟩, rfl⟩

/-- It makes no difference to this what comes before and after the character. -/
theorem inPlace_cases (before : List Char) (c : Char) (after : List Char) :
    (∃ l, Stands c l ∧ inPlace before c after = [l]) ∨
      ∃ d ∈ inPlace before c after, 128 ≤ d.toNat := by
  unfold inPlace
  split
  · exact .inr ⟨'ς', by simp, by decide⟩
  · exact ofChar_cases c

theorem Stands.ofChar {c l : Char} (h : Stands c l) : ofChar c = [l] := by
  rcases h with ⟨hc, rfl⟩ | ⟨rfl, rfl⟩
  · unfold Lowercase.ofChar
    rw [if_pos hc]
  · decide +kernel

theorem Stands.inPlace {c l : Char} (h : Stands c l) (before after : List Char) :
    inPlace before c after = [l] := by
  have hsigma : c ≠ 'Σ' := by
    rintro rfl
    rcases h with ⟨hc, -⟩ | ⟨hc, -⟩
    · exact absurd hc (by decide)
    · exact absurd hc (by decide)
  unfold Lowercase.inPlace
  rw [if_neg fun hc => hsigma hc.1]
  exact h.ofChar

/-- A letter of ASCII is the lower case of the same letter in either case, and of nothing else that
is of ASCII. -/
theorem sameLetter_iff {c l : Char} (hascii : l.toNat < 128) (hlower : l.toLower = l) :
    SameLetter c l ↔ c.toNat < 128 ∧ c.toLower = l := by
  rw [← toLower_eq_toLower_iff, hlower, iff_and_self]
  rintro rfl
  -- lower case makes no character one of ASCII
  exact toLower_of_ascii (P := fun c d => d.toNat < 128 → c.toNat < 128) (fun _ => id) (by decide)
    c hascii

theorem stands_iff {c l : Char} (hascii : l.toNat < 128) (hlower : l.toLower = l) :
    Stands c l ↔ SameLetter c l ∨ c = kelvinSign ∧ l = 'k' := by
  rw [Stands, sameLetter_iff hascii hlower]

/-! ### Texts -/

/-- Each character of the text stands for the letter of the word at its place. -/
def Spells (text word : String) : Prop := List.Forall₂ Stands text.toList word.toList

/-- A word of ASCII is the lower case of the characters that stand for its letters, whatever comes
before them, and of no others. -/
theorem ofChars_eq_iff (chars : List Char) :
    ∀ {word : List Char} (before : List Char), (∀ l ∈ word, l.toNat < 128) →
      (ofChars before chars = word ↔ List.Forall₂ Stands chars word) := by
  induction chars with
  | nil =>
    intro word before _
    rw [List.forall₂_nil_left_iff]
    exact eq_comm
  | cons c after ih =>
    intro word before hword
    constructor
    · rintro rfl
      rcases inPlace_cases before c after with ⟨l, hl, hplace⟩ | ⟨d, hd, hbeyond⟩
      · have hafter : ∀ l ∈ ofChars (c :: before) after, l.toNat < 128 :=
          fun l hl => hword l (List.mem_append_right _ hl)
        show List.Forall₂ Stands (c :: after) (inPlace before c after ++ ofChars _ after)
        rw [hplace]
        exact .cons hl ((ih (c :: before) hafter).mp rfl)
      · exact absurd (hword d (List.mem_append_left _ hd)) (Nat.not_lt.mpr hbeyond)
    · intro h
      obtain ⟨l, rest, hl, hrest, rfl⟩ := List.forall₂_cons_left_iff.mp h
      have hafter := (ih (c :: before) fun l hl => hword l (List.mem_cons_of_mem _ hl)).mpr hrest
      show inPlace before c after ++ ofChars (c :: before) after = l :: rest
      rw [hl.inPlace, hafter]
      rfl

/-- The words of ASCII without capital letters. -/
def Plain (word : String) : Prop := ∀ l ∈ word.toList, l.toNat < 128 ∧ l.toLower = l

-- by the letters of the word and not by all characters
instance (word : String) : Decidable (Plain word) := List.decidableBAll _ word.toList

variable {text word : String}

/-- A text has a word of ASCII as its lower case if and only if it spells it. -/
theorem ofString_eq_iff (hword : Plain word) : ofString text = word ↔ Spells text word := by
  rw [← String.toList_inj, ofString, String.toList_ofList]
  exact ofChars_eq_iff text.toList [] fun l hl => (hword l hl).1

/-- Without a `k` there is no place for the Kelvin sign. -/
theorem spells_iff (hword : Plain word) (hk : 'k' ∉ word.toList) :
    Spells text word ↔ SameUpToCase text word := by
  have hletter : ∀ {c l : Char}, l ∈ word.toList → (Stands c l ↔ SameLetter c l) := by
    intro c l hl
    rw [stands_iff (hword l hl).1 (hword l hl).2, or_iff_left]
    rintro ⟨-, rfl⟩
    exact hk hl
  rw [Spells, SameUpToCase, List.forall₂_iff_zip, List.forall₂_iff_zip]
  refine and_congr_right fun _ => ⟨fun h c l hcl => ?_, fun h c l hcl => ?_⟩
  · exact (hletter (List.of_mem_zip hcl).2).mp (h hcl)
  · exact (hletter (List.of_mem_zip hcl).2).mpr (h hcl)

/-- A text that is compared with a word and one more letter has a last character for that letter. -/
theorem forall₂_push_iff {R : Char → Char → Prop} {l : Char} :
    List.Forall₂ R text.toList (word.push l).toList ↔
      ∃ start c, text = String.push start c ∧ List.Forall₂ R start.toList word.toList ∧ R c l := by
  rw [String.toList_push, ← List.forall₂_reverse_iff, List.reverse_append, List.reverse_singleton,
    List.singleton_append, List.forall₂_cons_right_iff]
  constructor
  · rintro ⟨c, start, hc, hstart, htext⟩
    rw [List.reverse_eq_cons_iff] at htext
    refine ⟨String.ofList start.reverse, c, ?_, ?_, hc⟩
    · rw [← String.toList_inj, String.toList_push, String.toList_ofList, htext]
    · rw [String.toList_ofList, ← List.forall₂_reverse_iff, List.reverse_reverse]
      exact hstart
  · rintro ⟨start, c, rfl, hstart, hc⟩
    exact ⟨c, start.toList.reverse, hc, List.forall₂_reverse_iff.mpr hstart, by simp⟩

/-- The text is the word in any case with a Kelvin sign after it. -/
def EndsInKelvinSign (text word : String) : Prop :=
  ∃ start, SameUpToCase start word ∧ text = start.push kelvinSign

/-- If the last letter is the only `k`, the Kelvin sign may be there and nowhere else. -/
theorem spells_push_iff (hword : Plain word) (hk : 'k' ∉ word.toList) :
    Spells text (word.push 'k') ↔
      SameUpToCase text (word.push 'k') ∨ EndsInKelvinSign text word := by
  rw [Spells, SameUpToCase, forall₂_push_iff, forall₂_push_iff]
  have hlast : ∀ {c : Char}, Stands c 'k' ↔ SameLetter c 'k' ∨ c = kelvinSign := by
    intro c
    rw [stands_iff (by decide) (by decide), and_iff_left rfl]
  constructor
  · rintro ⟨start, c, rfl, hstart, hc⟩
    have hstart := (spells_iff hword hk).mp hstart
    rcases hlast.mp hc with hc | rfl
    · exact .inl ⟨start, c, rfl, hstart, hc⟩
    · exact .inr ⟨start, hstart, rfl⟩
  · rintro (⟨start, c, rfl, hstart, hc⟩ | ⟨start, hstart, rfl⟩)
    · exact ⟨start, c, rfl, (spells_iff hword hk).mpr hstart, hlast.mpr (.inl hc)⟩
    · exact ⟨start, kelvinSign, rfl, (spells_iff hword hk).mpr hstart, hlast.mpr (.inr rfl)⟩

/-- The Kelvin sign has no other case within ASCII. -/
theorem eq_of_sameLetter_kelvinSign {c : Char} (h : SameLetter c kelvinSign) : c = kelvinSign := by
  have hpairs : ∀ p ∈ letterPairs, p.1 ≠ kelvinSign ∧ p.2 ≠ kelvinSign := by decide
  rcases h with h | h | h
  · exact h
  · exact absurd rfl (hpairs _ h).2
  · exact absurd rfl (hpairs _ h).1

theorem EndsInKelvinSign.of_same {other : String} (h : EndsInKelvinSign text word)
    (hother : SameUpToCase other text) : EndsInKelvinSign other word := by
  obtain ⟨start, hstart, rfl⟩ := h
  obtain ⟨first, c, rfl, hfirst, hc⟩ := forall₂_push_iff.mp hother
  rw [eq_of_sameLetter_kelvinSign hc]
  exact ⟨first, SameUpToCase.trans hfirst hstart, rfl⟩

/-- A text that is the same as a word of ASCII up to case is of ASCII. -/
theorem toNat_lt_of_same (hword : Plain word) (h : SameUpToCase text word) :
    ∀ a ∈ text.toList, a.toNat < 128 := by
  intro a ha
  have hmem : a.toLower ∈ word.toList.map Char.toLower := by
    rw [← map_toLower_eq_iff.mpr h]
    exact List.mem_map_of_mem ha
  obtain ⟨l, hl, hla⟩ := List.mem_map.mp hmem
  have hsame : SameLetter a l := toLower_eq_toLower_iff.mp hla.symm
  exact ((sameLetter_iff (hword l hl).1 (hword l hl).2).mp hsame).1

end Lowercase

/-! ### Names -/

namespace Color

open Lowercase

theorem nodup_words : (names.map (·.1)).Nodup := by decide

theorem plain_of_mem_names : ∀ e ∈ names, Plain e.1 := by decide

theorem lookup_names_iff {word : String} {c : Color} :
    names.lookup word = some c ↔ (word, c) ∈ names := by
  rw [List.lookup_eq_some_iff]
  constructor
  · rintro ⟨before, after, hnames, -⟩
    rw [hnames]
    simp
  · intro h
    obtain ⟨before, after, hnames⟩ := List.append_of_mem h
    refine ⟨before, after, hnames, fun e he => ?_⟩
    have hdistinct := nodup_words
    rw [hnames, List.map_append, List.nodup_append] at hdistinct
    have hne := hdistinct.2.2 e.1 (List.mem_map_of_mem he) word (by simp)
    exact bne_iff_ne.mpr hne.symm

/-- A text names the color of the word that it spells. -/
theorem named?_eq_some_iff_spells {text : String} {c : Color} :
    named? text = some c ↔ ∃ word, (word, c) ∈ names ∧ Spells text word := by
  rw [named?, lookup_names_iff]
  constructor
  · intro h
    exact ⟨_, h, (ofString_eq_iff (plain_of_mem_names _ h)).mp rfl⟩
  · rintro ⟨word, h, hspells⟩
    rwa [(ofString_eq_iff (plain_of_mem_names _ h)).mpr hspells]

theorem spells_name_iff {text word : String} {c : Color} (h : (word, c) ∈ names) :
    Spells text word ↔
      SameUpToCase text word ∨ word = "black" ∧ EndsInKelvinSign text "blac" := by
  have hk : ∀ e ∈ names, e.1 = "black" ∨ 'k' ∉ e.1.toList := by decide
  by_cases hblack : word = "black"
  · subst hblack
    have hplain : Plain "blac" := by decide
    rw [and_iff_right rfl]
    exact spells_push_iff hplain (by decide)
  · rw [or_iff_left fun hword => hblack hword.1]
    exact spells_iff (plain_of_mem_names _ h) ((hk _ h).resolve_left hblack)

theorem named?_eq_some_iff {text : String} {c : Color} :
    named? text = some c ↔ ∃ word, (word, c) ∈ names ∧
      (SameUpToCase text word ∨ word = "black" ∧ EndsInKelvinSign text "blac") := by
  rw [named?_eq_some_iff_spells]
  constructor
  · rintro ⟨word, h, hspells⟩
    exact ⟨word, h, (spells_name_iff h).mp hspells⟩
  · rintro ⟨word, h, hword⟩
    exact ⟨word, h, (spells_name_iff h).mpr hword⟩

theorem named?_of_same {text other : String} {c : Color} (hsame : SameUpToCase text other)
    (h : named? text = some c) : named? other = some c := by
  rw [named?_eq_some_iff] at h ⊢
  obtain ⟨word, hword, hcase | ⟨hblack, hkelvin⟩⟩ := h
  · exact ⟨word, hword, .inl (hsame.symm.trans hcase)⟩
  · exact ⟨word, hword, .inr ⟨hblack, hkelvin.of_same hsame.symm⟩⟩

theorem isSome_named?_iff {text : String} :
    (named? text).isSome ↔
      (∃ word ∈ names.map (·.1), SameUpToCase text word) ∨ EndsInKelvinSign text "blac" := by
  rw [Option.isSome_iff_exists]
  constructor
  · rintro ⟨c, h⟩
    obtain ⟨word, hword, hcase | ⟨-, hkelvin⟩⟩ := named?_eq_some_iff.mp h
    · exact .inl ⟨word, List.mem_map_of_mem hword, hcase⟩
    · exact .inr hkelvin
  · rintro (⟨word, hword, hcase⟩ | hkelvin)
    · obtain ⟨⟨_, c⟩, he, rfl⟩ := List.mem_map.mp hword
      exact ⟨c, named?_eq_some_iff.mpr ⟨_, he, .inl hcase⟩⟩
    · have hblack : ("black", black) ∈ names := by simp [names]
      exact ⟨black, named?_eq_some_iff.mpr ⟨_, hblack, .inr ⟨rfl, hkelvin⟩⟩⟩

/-- **Names of colors.**  A text names a color if and only if it is one of the seven words up to the
case of the letters of ASCII, or "black" with the Kelvin sign for its `k`; the color is that of the
word.  Texts that are the same up to case name the same color or none.  Of the texts that are not of
ASCII there is one only, up to case, that names a color, and it is "black" with the Kelvin sign. -/
theorem named?_knows_seven_words (text : String) :
    (∀ c, named? text = some c ↔ ∃ word, (word, c) ∈ names ∧
      (SameUpToCase text word ∨ word = "black" ∧ EndsInKelvinSign text "blac")) ∧
    ((named? text).isSome ↔
      (∃ word ∈ ["red", "green", "blue", "yellow", "orange", "white", "black"],
        SameUpToCase text word) ∨ EndsInKelvinSign text "blac") ∧
    (∀ other, SameUpToCase text other → named? text = named? other) ∧
    ((∃ a ∈ text.toList, 128 ≤ a.toNat) →
      ((named? text).isSome ↔ EndsInKelvinSign text "blac")) := by
  refine ⟨fun c => named?_eq_some_iff, isSome_named?_iff, fun other hsame => ?_, ?_⟩
  · ext c
    exact ⟨named?_of_same hsame, named?_of_same hsame.symm⟩
  · rintro ⟨a, ha, hbeyond⟩
    rw [isSome_named?_iff, or_iff_right]
    rintro ⟨word, hword, hcase⟩
    obtain ⟨e, he, rfl⟩ := List.mem_map.mp hword
    exact absurd (toNat_lt_of_same (plain_of_mem_names e he) hcase a ha) (Nat.not_lt.mpr hbeyond)

/-- The Kelvin sign after capital letters, and the same text in the other case. -/
theorem named?_knows_seven_words_of_kelvin_sign :
    (∃ a ∈ "BLAC\u212A".toList, 128 ≤ a.toNat) ∧ (named? "BLAC\u212A").isSome ∧
    SameUpToCase "BLAC\u212A" "blac\u212A" ∧ named? "BLAC\u212A" = named? "blac\u212A" := by
  have hbeyond : ∃ a ∈ "BLAC\u212A".toList, 128 ≤ a.toNat := ⟨kelvinSign, by decide, by decide⟩
  have hkelvin : EndsInKelvinSign "BLAC\u212A" "blac" :=
    ⟨"BLAC", map_toLower_eq_iff.mp (by decide), rfl⟩
  have hsame : SameUpToCase "BLAC\u212A" "blac\u212A" := map_toLower_eq_iff.mp (by decide)
  obtain ⟨-, -, hcase, hforeign⟩ := named?_knows_seven_words "BLAC\u212A"
  exact ⟨hbeyond, (hforeign hbeyond).mpr hkelvin, hsame, hcase _ hsame⟩

end Color

end Placard
