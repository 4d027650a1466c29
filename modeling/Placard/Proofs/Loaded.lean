/-
Placard/Proofs/Loaded.lean

Which candidates can be loaded, and what is reported of the others.

Several things can be wrong with a candidate at the same time.  `Candidate.FileFlaw` and
`Candidate.Flaw` state each of them on its own, by what is in the tree of files and which families
are installed, and `FontError.rank` puts them in the order in which they are looked for.  The file
is checked before the family, so what is reported comes first of all that applies to the file alone
(`checkFile_cases`), and then of all that applies to the candidate (`load_cases`).  No two flaws
have the same rank, so that there is only one that comes first.
-/
import Placard.Proofs.Job
import Placard.Proofs.Letters
import Placard.Typeface.Candidate

namespace Placard

/-! ### Reading the beginning of a file -/

theorem byteArray_toList_loop (content : ByteArray) (i : Nat) (front : List UInt8) :
    ByteArray.toList.loop content i front = front.reverse ++ content.data.toList.drop i := by
  induction i, front using ByteArray.toList.loop.induct content with
  | case1 i front hi ih =>
    have hnext : content.data.toList.drop i =
        content.get! i :: content.data.toList.drop (i + 1) := by
      rw [List.drop_eq_getElem_cons hi]
      simp [ByteArray.get!, hi]
    rw [ByteArray.toList.loop, if_pos hi, ih, hnext, List.reverse_cons, List.append_assoc]
    rfl
  | case2 i front hi =>
    have hend : content.data.toList.drop i = [] := List.drop_eq_nil_of_le (Nat.le_of_not_lt hi)
    rw [ByteArray.toList.loop, if_neg hi, hend, List.append_nil]

theorem byteArray_toList (content : ByteArray) : content.toList = content.data.toList :=
  byteArray_toList_loop content 0 []

namespace Files

/-- The path leads to a file with this content. -/
def Holds (f : Files) (path : String) (content : ByteArray) : Prop :=
  ∃ l, f.resolve path = .ok l ∧ f.at? l = some (.file content)

/-- The first `count` bytes at the path cannot be read, for this reason. -/
inductive Unread (f : Files) (path : String) (count : Nat) : FileError → Prop
  /-- the path leads nowhere -/
  | lost {e : FileError} (h : f.resolve path = .error e) : Unread f path count e
  | directory {l : Location} (hl : f.resolve path = .ok l) (h : f.at? l = some .directory) :
      Unread f path count .isDirectory
  | nothing {l : Location} (hl : f.resolve path = .ok l) (h : f.at? l = none) :
      Unread f path count .notFound
  | short {content : ByteArray} (h : f.Holds path content) (hsize : content.size < count) :
      Unread f path count .tooShort

variable {f : Files} {path : String} {content : ByteArray} {count : Nat} {e : FileError}

theorem exists?_eq_true_iff : f.exists? path = true ↔ ∃ l, f.resolve path = .ok l := by
  unfold exists?
  cases f.resolve path with
  | ok l => exact ⟨fun _ => ⟨l, rfl⟩, fun _ => rfl⟩
  | error e =>
    constructor
    · intro h
      cases h
    · rintro ⟨l, hl⟩
      cases hl

/-- What is read at the end of a path. -/
theorem read_of_resolve {l : Location} (hl : f.resolve path = .ok l) : f.read path =
    match f.at? l with
    | some (.file content) => .ok content
    | some .directory => .error .isDirectory
    | none => .error .notFound := by
  unfold read
  rw [hl]
  rfl

theorem read_cases (f : Files) (path : String) :
    (∃ e, f.read path = .error e ∧ ∀ count, f.Unread path count e) ∨
    ∃ content, f.read path = .ok content ∧ f.Holds path content := by
  cases hl : f.resolve path with
  | error e =>
    refine .inl ⟨e, ?_, fun _ => .lost hl⟩
    unfold read
    rw [hl]
    rfl
  | ok l =>
    rw [read_of_resolve hl]
    cases hat : f.at? l with
    | none => exact .inl ⟨_, rfl, fun _ => .nothing hl hat⟩
    | some entry =>
      cases entry with
      | directory => exact .inl ⟨_, rfl, fun _ => .directory hl hat⟩
      | file content => exact .inr ⟨content, rfl, l, hl, hat⟩

theorem readFirst_of_read_error (h : f.read path = .error e) (count : Nat) :
    f.readFirst path count = .error e := by
  unfold readFirst
  rw [h]
  rfl

theorem readFirst_of_read (h : f.read path = .ok content) (count : Nat) :
    f.readFirst path count =
      if content.size < count then .error .tooShort
      else .ok (content.data.toList.take count) := by
  unfold readFirst
  rw [h, ← byteArray_toList]
  show (if content.size < count then _ else _) = _
  split
  · rfl
  · rfl

/-- Reading the beginning of a file gives its first bytes, or else there is a reason against it. -/
theorem readFirst_cases (f : Files) (path : String) (count : Nat) :
    (∃ e, f.readFirst path count = .error e ∧ f.Unread path count e) ∨
    ∃ content, f.readFirst path count = .ok (content.data.toList.take count) ∧
      f.Holds path content ∧ count ≤ content.size := by
  rcases read_cases f path with ⟨e, hread, hunread⟩ | ⟨content, hread, hholds⟩
  · exact .inl ⟨e, readFirst_of_read_error hread count, hunread count⟩
  · rw [readFirst_of_read hread]
    by_cases hsize : content.size < count
    · exact .inl ⟨_, if_pos hsize, .short hholds hsize⟩
    · exact .inr ⟨content, if_neg hsize, hholds, Nat.le_of_not_lt hsize⟩

theorem readFirst_eq_error_iff : f.readFirst path count = .error e ↔ f.Unread path count e := by
  constructor
  · intro h
    rcases readFirst_cases f path count with ⟨e', hread, hunread⟩ | ⟨content, hread, -⟩
    · cases hread.symm.trans h
      exact hunread
    · cases hread.symm.trans h
  · intro h
    cases h with
    | lost h =>
      refine readFirst_of_read_error ?_ count
      unfold read
      rw [h]
      rfl
    | directory hl h => exact readFirst_of_read_error (by rw [read_of_resolve hl, h]) count
    | nothing hl h => exact readFirst_of_read_error (by rw [read_of_resolve hl, h]) count
    | short h hsize =>
      obtain ⟨l, hl, h⟩ := h
      rw [readFirst_of_read (by rw [read_of_resolve hl, h]), if_pos hsize]

theorem Holds.unique {content' : ByteArray} (h : f.Holds path content)
    (h' : f.Holds path content') : content = content' := by
  obtain ⟨l, hl, hat⟩ := h
  obtain ⟨l', hl', hat'⟩ := h'
  cases hl.symm.trans hl'
  cases hat.symm.trans hat'
  rfl

/-- What is there and long enough can be read. -/
theorem Holds.not_unread (h : f.Holds path content) (hsize : count ≤ content.size) :
    ¬ f.Unread path count e := by
  obtain ⟨l, hl, hat⟩ := id h
  intro hunread
  cases hunread with
  | lost hlost => cases hl.symm.trans hlost
  | directory hl' hat' =>
    cases hl.symm.trans hl'
    cases hat.symm.trans hat'
  | nothing hl' hat' =>
    cases hl.symm.trans hl'
    cases hat.symm.trans hat'
  | short h' hshort =>
    obtain rfl := h.unique h'
    omega

end Files

/-! ### What can be wrong -/

/-- The place of an error in the order in which candidates are checked. -/
def FontError.rank : FontError → Nat
  | .missing _ => 0
  | .unreadable _ _ => 1
  | .unsupported _ => 2
  | .unknownFamily _ => 3

/-- Of all errors that apply, this one comes first. -/
def FontError.First (applies : FontError → Prop) (e : FontError) : Prop :=
  applies e ∧ ∀ e', applies e' → e.rank ≤ e'.rank

namespace Candidate

/-- The content begins with the bytes 00 01 00 00, or with one of three words. -/
def BeginsLikeFont (content : ByteArray) : Prop :=
  ∃ signature, (signature = [0x00, 0x01, 0x00, 0x00] ∨
    ∃ word ∈ ["OTTO", "true", "ttcf"], signature = word.toUTF8.data.toList) ∧
    signature <+: content.data.toList

/-- Something is wrong with the font file at `path`, and this error applies. -/
inductive FileFlaw (files : Files) (path : String) : FontError → Prop
  | missing (h : ∀ l, files.resolve path ≠ .ok l) : FileFlaw files path (.missing path)
  | unreadable {cause : FileError} (h : files.Unread path 4 cause) :
      FileFlaw files path (.unreadable path cause)
  | unsupported (h : ∀ content, files.Holds path content → ¬ BeginsLikeFont content) :
      FileFlaw files path (.unsupported path)

/-- Something is wrong with the candidate, and this error applies. -/
inductive Flaw (files : Files) (installed : List String) (c : Candidate) : FontError → Prop
  | file {path : String} {e : FontError} (hpath : c.path = some path)
      (h : FileFlaw files path e) : Flaw files installed c e
  | unknownFamily (h : ∀ family ∈ installed, ¬ SameUpToCase family c.family) :
      Flaw files installed c (.unknownFamily c.family)

section

variable {files : Files} {installed : List String} {c : Candidate} {path : String}
  {content : ByteArray} {e e' : FontError}

theorem mem_fontSignatures_iff {signature : List UInt8} : signature ∈ fontSignatures ↔
    signature = [0x00, 0x01, 0x00, 0x00] ∨
      ∃ word ∈ ["OTTO", "true", "ttcf"], signature = word.toUTF8.data.toList := by
  have hwords : fontSignatures = [0x00, 0x01, 0x00, 0x00] ::
      ["OTTO", "true", "ttcf"].map fun word => word.toUTF8.data.toList := by decide
  rw [hwords, List.mem_cons, List.mem_map]
  simp only [eq_comm]

theorem length_of_mem_fontSignatures : ∀ signature ∈ fontSignatures, signature.length = 4 := by
  decide

/-- All signatures have four bytes, so the first four bytes of the content are one. -/
theorem beginsLikeFont_iff :
    BeginsLikeFont content ↔ content.data.toList.take 4 ∈ fontSignatures := by
  unfold BeginsLikeFont
  simp only [← mem_fontSignatures_iff]
  constructor
  · rintro ⟨signature, hmem, hprefix⟩
    have htake := List.prefix_iff_eq_take.mp hprefix
    rw [length_of_mem_fontSignatures _ hmem] at htake
    rwa [← htake]
  · exact fun h => ⟨_, h, List.take_prefix 4 _⟩

theorem sameFamily_iff {a b : String} : sameFamily a b = true ↔ SameUpToCase a b := by
  rw [← map_toLower_eq_iff]
  exact beq_iff_eq

/-! ### The first thing that is wrong -/

theorem FileFlaw.rank_le (h : FileFlaw files path e) : e.rank ≤ 2 := by
  cases h with
  | missing => exact Nat.zero_le 2
  | unreadable => exact Nat.le_succ 1
  | unsupported => exact Nat.le_refl 2

/-- No two errors of one rank apply to a file. -/
theorem FileFlaw.unique (h : FileFlaw files path e) (h' : FileFlaw files path e')
    (hrank : e.rank = e'.rank) : e = e' := by
  cases h with
  | missing _ =>
    cases h' with
    | missing _ => rfl
    | _ => cases hrank
  | unreadable h =>
    cases h' with
    | unreadable h' =>
      rw [← Files.readFirst_eq_error_iff] at h h'
      cases h.symm.trans h'
      rfl
    | _ => cases hrank
  | unsupported _ =>
    cases h' with
    | unsupported _ => rfl
    | _ => cases hrank

theorem Flaw.unique (h : c.Flaw files installed e) (h' : c.Flaw files installed e')
    (hrank : e.rank = e'.rank) : e = e' := by
  have hfamily : FontError.rank (.unknownFamily c.family) = 3 := rfl
  cases h with
  | file hpath h =>
    cases h' with
    | file hpath' h' =>
      cases hpath.symm.trans hpath'
      exact h.unique h' hrank
    | unknownFamily _ =>
      have := h.rank_le
      omega
  | unknownFamily _ =>
    cases h' with
    | file hpath' h' =>
      have := h'.rank_le
      omega
    | unknownFamily _ => rfl

theorem first_unique (h : FontError.First (c.Flaw files installed) e)
    (h' : FontError.First (c.Flaw files installed) e') : e = e' :=
  h.1.unique h'.1 (Nat.le_antisymm (h.2 e' h'.1) (h'.2 e h.1))

/-- Checking a file: either nothing is wrong with it, or the first thing that is wrong is
reported. -/
theorem checkFile_cases (files : Files) (path : String) :
    (checkFile files path = .ok () ∧ ∀ e, ¬ FileFlaw files path e) ∨
    ∃ e, checkFile files path = .error e ∧ FontError.First (FileFlaw files path) e := by
  unfold checkFile
  by_cases hexists : ∃ l, files.resolve path = .ok l
  · rw [if_pos (Files.exists?_eq_true_iff.mpr hexists)]
    have hfound : ¬ ∀ l, files.resolve path ≠ .ok l := fun h =>
      hexists.elim fun l hl => h l hl
    rcases files.readFirst_cases path 4 with ⟨cause, hread, hunread⟩ |
      ⟨content, hread, hholds, hsize⟩
    · rw [hread]
      refine .inr ⟨_, rfl, .unreadable hunread, fun e' h' => ?_⟩
      cases h' with
      | missing h => exact absurd h hfound
      | unreadable => exact Nat.le_refl 1
      | unsupported => exact Nat.le_succ 1
    · rw [hread]
      have hreadable : ∀ cause, ¬ files.Unread path 4 cause := fun _ => hholds.not_unread hsize
      by_cases hfont : content.data.toList.take 4 ∈ fontSignatures
      · refine .inl ⟨if_pos hfont, fun e' h' => ?_⟩
        cases h' with
        | missing h => exact hfound h
        | unreadable h => exact hreadable _ h
        | unsupported h => exact h content hholds (beginsLikeFont_iff.mpr hfont)
      · refine .inr ⟨_, if_neg hfont, .unsupported fun content' h' => ?_, fun e' h' => ?_⟩
        · rw [h'.unique hholds]
          exact mt beginsLikeFont_iff.mp hfont
        · cases h' with
          | missing h => exact absurd h hfound
          | unreadable h => exact absurd h (hreadable _)
          | unsupported => exact Nat.le_refl 2
  · rw [if_neg (mt Files.exists?_eq_true_iff.mp hexists)]
    exact .inr ⟨_, rfl, .missing fun l hl => hexists ⟨l, hl⟩, fun _ _ => Nat.zero_le _⟩

theorem load_of_flawed_file (hpath : c.path = some path) (h : checkFile files path = .error e) :
    c.load files installed = .error e := by
  unfold load
  rw [hpath]
  show checkFile files path >>= _ = _
  rw [h]
  rfl

/-- Once its file is checked, a candidate depends on its family. -/
theorem load_of_checked (h : ∀ path, c.path = some path → checkFile files path = .ok ()) :
    c.load files installed =
      if installed.any fun family => sameFamily family c.family then .ok (.family c.family)
      else .error (.unknownFamily c.family) := by
  unfold load
  cases hpath : c.path with
  | none => rfl
  | some path =>
    show checkFile files path >>= _ = _
    rw [h path hpath]
    rfl

theorem any_sameFamily_iff : (installed.any fun family => sameFamily family c.family) = true ↔
    ∃ family ∈ installed, SameUpToCase family c.family := by
  simp only [List.any_eq_true, sameFamily_iff]

/-- Loading a candidate: either nothing is wrong with it, or the first thing that is wrong is
reported. -/
theorem load_cases (files : Files) (installed : List String) (c : Candidate) :
    (c.load files installed = .ok (.family c.family) ∧ ∀ e, ¬ c.Flaw files installed e) ∨
    ∃ e, c.load files installed = .error e ∧ FontError.First (c.Flaw files installed) e := by
  by_cases hfile : ∃ path e, c.path = some path ∧ checkFile files path = .error e
  · obtain ⟨path, e, hpath, he⟩ := hfile
    rcases checkFile_cases files path with ⟨hok, -⟩ | ⟨e', he', hflaw, hfirst⟩
    · cases hok.symm.trans he
    · cases he'.symm.trans he
      refine .inr ⟨e, load_of_flawed_file hpath he, .file hpath hflaw, fun e' h' => ?_⟩
      cases h' with
      | file hpath' h' =>
        cases hpath.symm.trans hpath'
        exact hfirst _ h'
      | unknownFamily => exact Nat.le_succ_of_le hflaw.rank_le
  · have hchecked : ∀ path, c.path = some path →
        checkFile files path = .ok () ∧ ∀ e, ¬ FileFlaw files path e := by
      intro path hpath
      rcases checkFile_cases files path with h | ⟨e, he, -⟩
      · exact h
      · exact absurd ⟨path, e, hpath, he⟩ hfile
    rw [load_of_checked fun path hpath => (hchecked path hpath).1]
    by_cases hfamily : ∃ family ∈ installed, SameUpToCase family c.family
    · refine .inl ⟨if_pos (any_sameFamily_iff.mpr hfamily), fun e h => ?_⟩
      cases h with
      | file hpath h => exact (hchecked _ hpath).2 _ h
      | unknownFamily h =>
        obtain ⟨family, hmem, hsame⟩ := hfamily
        exact h family hmem hsame
    · refine .inr ⟨_, if_neg (mt any_sameFamily_iff.mp hfamily), .unknownFamily
        fun family hmem hsame => hfamily ⟨family, hmem, hsame⟩, fun e' h' => ?_⟩
      cases h' with
      | file hpath h' => exact absurd h' ((hchecked _ hpath).2 _)
      | unknownFamily => exact Nat.le_refl 3

theorem not_fileFlaw_iff : (∀ e, ¬ FileFlaw files path e) ↔
    ∃ content, files.Holds path content ∧ 4 ≤ content.size ∧ BeginsLikeFont content := by
  constructor
  · intro h
    rcases files.readFirst_cases path 4 with ⟨cause, -, hunread⟩ | ⟨content, -, hholds, hsize⟩
    · exact absurd (.unreadable hunread) (h _)
    · refine ⟨content, hholds, hsize, ?_⟩
      by_contra hfont
      exact h _ (.unsupported fun content' h' => h'.unique hholds ▸ hfont)
  · rintro ⟨content, hholds, hsize, hfont⟩ e h
    cases h with
    | missing h => exact hholds.elim fun l hl => h l hl.1
    | unreadable h => exact hholds.not_unread hsize h
    | unsupported h => exact h content hholds hfont

theorem not_flaw_iff : (∀ e, ¬ c.Flaw files installed e) ↔
    (∀ path, c.path = some path →
      ∃ content, files.Holds path content ∧ 4 ≤ content.size ∧ BeginsLikeFont content) ∧
    ∃ family ∈ installed, SameUpToCase family c.family := by
  constructor
  · intro h
    refine ⟨fun path hpath => not_fileFlaw_iff.mp fun e he => h e (.file hpath he), ?_⟩
    by_contra hfamily
    exact h _ (.unknownFamily fun family hmem hsame => hfamily ⟨family, hmem, hsame⟩)
  · rintro ⟨hfile, family, hmem, hsame⟩ e h
    cases h with
    | file hpath he => exact not_fileFlaw_iff.mpr (hfile _ hpath) _ he
    | unknownFamily hfamily => exact hfamily family hmem hsame

end

/-- **Which candidates are loaded.**  A candidate gives its own family, in its own spelling, if and
only if its path, where it has one, leads to a file of at least four bytes that begins like a font,
and some installed family is the same up to the case of letters.  It gives no other face.  Otherwise
it gives the first error that applies, in this order: the path leads nowhere; there is no file that
can be read, or it is too short; it does not begin like a font; no such family is installed. -/
theorem load_gives_family_or_first_error (files : Files) (installed : List String)
    (c : Candidate) :
    (c.load files installed = .ok (.family c.family) ↔
      (∀ path, c.path = some path →
        ∃ content, files.Holds path content ∧ 4 ≤ content.size ∧ BeginsLikeFont content) ∧
      ∃ family ∈ installed, SameUpToCase family c.family) ∧
    (∀ face, c.load files installed = .ok face ↔
      face = .family c.family ∧ ∀ e, ¬ c.Flaw files installed e) ∧
    ∀ e, c.load files installed = .error e ↔ FontError.First (c.Flaw files installed) e := by
  rw [← not_flaw_iff]
  rcases load_cases files installed c with ⟨hload, hnone⟩ | ⟨e, hload, hfirst⟩
  · rw [hload]
    refine ⟨⟨fun _ => hnone, fun _ => rfl⟩, fun face => ?_, fun e => ?_⟩
    · rw [Except.ok.injEq, eq_comm]
      exact (and_iff_left hnone).symm
    · exact ⟨nofun, fun h => absurd h.1 (hnone e)⟩
  · rw [hload]
    have hsome : ¬ ∀ e, ¬ c.Flaw files installed e := fun hnone => hnone e hfirst.1
    refine ⟨⟨nofun, fun h => absurd h hsome⟩, fun face => ?_, fun e' => ?_⟩
    · exact ⟨nofun, fun h => absurd h.2 hsome⟩
    · rw [Except.error.injEq]
      exact ⟨fun h => h ▸ hfirst, fun h => first_unique hfirst h⟩

/-- A directory in the place of a font file, for a family that is not installed either: only the
first of the two is reported.  A file that is just long enough, and a family in other letters. -/
theorem load_gives_family_or_first_error_of_directory :
    let files : Files := ⟨[], [(["fonts"], .directory), (["fonts", "a.otf"], .file "OTTO".toUTF8)]⟩
    let taken : Candidate := ⟨"dejavu SANS", some "fonts/./a.otf"⟩
    let refused : Candidate := ⟨"Arial", some "/fonts"⟩
    taken.load files ["Serif", "DejaVu Sans"] = .ok (.family "dejavu SANS") ∧
    refused.Flaw files [] (.unknownFamily "Arial") ∧
    refused.load files [] = .error (.unreadable "/fonts" .isDirectory) := by
  intro files taken refused
  obtain ⟨htaken, -, -⟩ := load_gives_family_or_first_error files ["Serif", "DejaVu Sans"] taken
  obtain ⟨-, -, hrefused⟩ := load_gives_family_or_first_error files [] refused
  have hdirectory : files.resolve "/fonts" = .ok ["fonts"] := rfl
  refine ⟨htaken.mpr ⟨?_, "DejaVu Sans", by decide, ?_⟩, .unknownFamily (List.forall_mem_nil _),
    (hrefused _).mpr ⟨.file rfl (.unreadable (.directory hdirectory rfl)), fun e' h' => ?_⟩⟩
  · rintro path hpath
    cases hpath
    exact ⟨"OTTO".toUTF8, ⟨["fonts", "a.otf"], rfl, rfl⟩, by decide,
      "OTTO".toUTF8.data.toList, .inr ⟨"OTTO", by decide, rfl⟩, List.prefix_rfl⟩
  · exact map_toLower_eq_iff.mp (by decide)
  · cases h' with
    | file hpath h' =>
      cases hpath
      cases h' with
      | missing h => exact absurd hdirectory (h _)
      | unreadable => exact Nat.le_refl 1
      | unsupported => exact Nat.le_succ 1
    | unknownFamily => decide

end Candidate

end Placard
