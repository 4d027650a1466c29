/-
Placard/Proofs/Contained.lean

Where the images of layouts are put.

The name of a diagram comes from a file that anybody may have written, and becomes part of a path.
A layout is only loaded if its name is made of letters, digits, `_` and `-` (`Diagram.WellNamed`),
and then the image has a name of its own in the directory for the images (`Within`): whatever tree
of files there is, the path leads to a place in that directory and to no other one.
-/
import Placard.Diagram.File
import Placard.Proofs.Stored

namespace Placard

/-! ### Names -/

namespace Diagram

/-- A letter or digit of ASCII, `_` or `-`. -/
def NameChar (c : Char) : Prop :=
  ('A' ≤ c ∧ c ≤ 'Z') ∨ ('a' ≤ c ∧ c ≤ 'z') ∨ ('0' ≤ c ∧ c ≤ '9') ∨ c = '_' ∨ c = '-'

/-- What the name of a layout has to be like. -/
structure WellNamed (name : String) : Prop where
  nonempty : name ≠ ""
  chars : ∀ c ∈ name.toList, NameChar c

theorem isNameChar_iff {c : Char} : isNameChar c = true ↔ NameChar c := by
  have hranges : isNameChar c = ((decide ('A' ≤ c ∧ c ≤ 'Z') || ('a' ≤ c && c ≤ 'z')) ||
      ('0' ≤ c && c ≤ '9') || c == '_' || c == '-') := rfl
  rw [hranges]
  simp only [NameChar, Bool.or_eq_true, Bool.and_eq_true, decide_eq_true_eq, beq_iff_eq, or_assoc]

theorem isName_iff {name : String} : isName name = true ↔ WellNamed name := by
  unfold isName
  rw [Bool.and_eq_true, Bool.not_eq_true', List.isEmpty_eq_false_iff, List.all_eq_true]
  simp only [isNameChar_iff]
  constructor
  · rintro ⟨hne, hchars⟩
    exact ⟨fun h => hne (String.toList_eq_nil_iff.mpr h), hchars⟩
  · rintro ⟨hne, hchars⟩
    exact ⟨mt String.toList_eq_nil_iff.mp hne, hchars⟩

/-! ### Layouts -/

/-- The text at `path` is a layout of the diagram, whatever its name is. -/
def IsLayout (files : Files) (path : String) (d : Diagram) : Prop :=
  ∃ text v, files.readText path = .ok text ∧ Toml.read? text = some v ∧ decode .toml v = .ok d

section

variable {files : Files} {path : String} {d e : Diagram} {name : String}

/-- The diagram of a layout can be computed. -/
theorem isLayout_iff : IsLayout files path d ↔
    (((files.readText path).toOption.bind Toml.read?).bind fun v => (decode .toml v).toOption) =
      some d := by
  simp only [IsLayout, Option.bind_eq_some_iff, Except.toOption_eq_some_iff]
  constructor
  · rintro ⟨text, v, hread, hvalue, hdecode⟩
    exact ⟨v, ⟨text, hread, hvalue⟩, hdecode⟩
  · rintro ⟨v, ⟨text, hread, hvalue⟩, hdecode⟩
    exact ⟨text, v, hread, hvalue, hdecode⟩

/-- The steps of loading a layout, and at which of them it can end. -/
theorem load_eq (files : Files) (path : String) : load files path =
    match files.readText path with
    | .error cause => .error (.unreadable path cause)
    | .ok text =>
      match Toml.read? text with
      | none => .error (.notToml path)
      | some v =>
        match decode .toml v with
        | .error cause => .error (if Toml.isProper v then .mismatch path cause else .notToml path)
        | .ok d => if isName d.name then .ok d else .error (.badName d.name) := by
  unfold load
  cases files.readText path with
  | error cause => rfl
  | ok text =>
    dsimp only [Except.mapError, bind, Except.bind]
    cases Toml.read? text with
    | none => rfl
    | some v =>
      dsimp only
      cases decode .toml v with
      | error cause => rfl
      | ok d => rfl

/-- A layout is accepted or refused by its name. -/
theorem load_of_isLayout (h : IsLayout files path d) :
    load files path = if isName d.name then .ok d else .error (.badName d.name) := by
  obtain ⟨text, v, hread, hvalue, hdecode⟩ := h
  rw [load_eq, hread]
  dsimp only
  rw [hvalue]
  dsimp only
  rw [hdecode]

/-- What is no layout is refused for another reason than its name. -/
theorem isLayout_or_refused (files : Files) (path : String) :
    (∃ d, IsLayout files path d) ∨
    ∃ e, load files path = .error e ∧ ∀ name, e ≠ .badName name := by
  rw [load_eq]
  cases hread : files.readText path with
  | error cause => exact .inr ⟨_, rfl, nofun⟩
  | ok text =>
    dsimp only
    cases hvalue : Toml.read? text with
    | none => exact .inr ⟨_, rfl, nofun⟩
    | some v =>
      dsimp only
      cases hdecode : decode .toml v with
      | ok d => exact .inl ⟨d, text, v, hread, hvalue, hdecode⟩
      | error cause =>
        refine .inr ⟨_, rfl, fun name => ?_⟩
        split
        · nofun
        · nofun

theorem load_eq_ok_iff : load files path = .ok d ↔ IsLayout files path d ∧ WellNamed d.name := by
  rw [← isName_iff]
  constructor
  · intro h
    rcases isLayout_or_refused files path with ⟨e, he⟩ | ⟨cause, hcause, -⟩
    · rw [load_of_isLayout he] at h
      split at h
      · cases h
        exact ⟨he, ‹_›⟩
      · cases h
    · cases h.symm.trans hcause
  · rintro ⟨hlayout, hname⟩
    rw [load_of_isLayout hlayout, if_pos hname]

theorem load_eq_badName_iff : load files path = .error (.badName name) ↔
    ∃ d, IsLayout files path d ∧ d.name = name ∧ ¬ WellNamed name := by
  rw [← isName_iff]
  constructor
  · intro h
    rcases isLayout_or_refused files path with ⟨d, hd⟩ | ⟨cause, hcause, hother⟩
    · rw [load_of_isLayout hd] at h
      split at h
      · cases h
      · cases h
        exact ⟨d, hd, rfl, ‹_›⟩
    · cases h.symm.trans hcause
      exact absurd rfl (hother name)
  · rintro ⟨d, hlayout, rfl, hname⟩
    rw [load_of_isLayout hlayout, if_neg hname]

end

end Diagram

/-! ### Places in a directory -/

/-- `path` is that of `name` in `directory`, and `name` stands for itself: it is one part of the
path, and neither stays in the directory nor leads out of it. -/
structure Within (directory name path : String) : Prop where
  absolute : isAbsolute path = isAbsolute directory
  parts : pathParts path = pathParts.named directory ++ [name]
  plain : Plain name
  dot : name ≠ "."
  dots : name ≠ ".."

/-- In every tree of files, such a path leads to a place in the directory, under this name. -/
theorem Within.resolve {directory name path : String} (h : Within directory name path)
    {f : Files} {m : Location} (hm : f.resolve path = .ok m) :
    ∃ l, f.LeadsTo directory l ∧ m = l ++ [name] := by
  obtain ⟨_, -, hwalk⟩ := Except.bind_eq_ok.mp hm
  rw [h.parts, Files.start, h.absolute, ← Files.start] at hwalk
  obtain ⟨l, hfirst, hlast⟩ := Files.walk_append_eq_ok.mp hwalk
  obtain ⟨hl, hnext⟩ := Files.walk_cons_eq_ok.mp hlast
  refine ⟨l, Files.leadsTo_of_walk hfirst hl, ?_⟩
  rcases hnext with ⟨hdot, -⟩ | ⟨-, hdots, -⟩ | ⟨-, -, -, -, hend⟩
  · exact absurd hdot h.dot
  · exact absurd hdots h.dots
  · exact (Except.ok.inj hend).symm

namespace Diagram

variable {d e : Diagram} {directory : String}

/-- The file of a diagram ends in `.png`, so it is neither of the two names made of dots. -/
theorem fileName_ne_dots (d : Diagram) : d.fileName ≠ "." ∧ d.fileName ≠ ".." := by
  have hlast : ∀ text : String, text.toList.getLast? ≠ some 'g' → d.fileName ≠ text := by
    rintro text htext rfl
    refine htext ?_
    rw [fileName, String.toList_append, List.getLast?_append]
    rfl
  exact ⟨hlast "." (by decide), hlast ".." (by decide)⟩

theorem WellNamed.within (h : WellNamed d.name) (directory : String) :
    Within directory d.fileName (joinPath directory d.fileName) :=
  have hplain := plain_fileName (isName_iff.mpr h)
  ⟨isAbsolute_joinPath hplain, pathParts_joinPath hplain, hplain, d.fileName_ne_dots.1,
    d.fileName_ne_dots.2⟩

theorem WellNamed.chars_fileName (h : WellNamed d.name) :
    ∀ c ∈ d.fileName.toList, NameChar c ∨ c = '.' := by
  have hfront : "infographic_".toList.all isNameChar = true := by decide
  have hend : (".png".toList.all fun c => isNameChar c || c == '.') = true := by decide
  simp only [List.all_eq_true, Bool.or_eq_true, beq_iff_eq, isNameChar_iff] at hfront hend
  intro c hc
  rw [fileName, String.toList_append, String.toList_append, List.append_assoc, List.mem_append,
    List.mem_append] at hc
  rcases hc with hc | hc | hc
  · exact .inl (hfront c hc)
  · exact .inl (h.chars c hc)
  · exact hend c hc

theorem WellNamed.joinPath_eq_iff (hd : WellNamed d.name) (he : WellNamed e.name) :
    joinPath directory d.fileName = joinPath directory e.fileName ↔ d.name = e.name := by
  constructor
  · exact fun h => fileName_inj (joinPath_inj (plain_fileName (isName_iff.mpr hd))
      (plain_fileName (isName_iff.mpr he)) h)
  · intro h
    rw [fileName, fileName, h]

/-- Saving puts at most one file into the directory, under the name of the diagram. -/
theorem WellNamed.save_gains (h : WellNamed d.name) (style : Style) (size : CanvasSize)
    (directory : String) (s : Session) :
    (∀ saved, (d.save style size directory s).1 = .ok saved →
      saved = joinPath directory d.fileName ∧
      s.files.Gains directory [d.image (d.save style size directory s).2.device]
        (d.save style size directory s).2.files) ∧
    ∀ cause, (d.save style size directory s).1 = .error cause →
      s.files.Gains directory (d.leftBehind cause) (d.save style size directory s).2.files := by
  have hname := isName_iff.mpr h
  have hnone := Files.Gains.refl s.files directory
  constructor
  · intro saved hsaved
    have hsave : d.save style size directory s = (.ok saved, (d.save style size directory s).2) :=
      Prod.ext hsaved rfl
    exact ⟨path_of_saved hsave, gains_of_saved hsave hname hnone (List.forall_mem_nil _)⟩
  · intro cause hcause
    have hsave : d.save style size directory s =
        (.error cause, (d.save style size directory s).2) := Prod.ext hcause rfl
    exact gains_of_failed hsave hname hnone (List.forall_mem_nil _)

/-- **Layouts stay inside of the directory for images.**  A layout is accepted if and only if its
name is not empty and made of letters and digits of ASCII, `_` and `-`; with any other name it is
refused for its name, and nothing else is.  So, for every directory, the image of an accepted layout
has a path one part longer than that of the directory, by a name that is neither `.` nor `..`; in
every tree of files, the path leads to a place in the directory; and whatever else happens while it
is saved, nothing is changed but the file of this name in this directory.  The paths of two accepted
layouts are only the same if their names are. -/
theorem layouts_stay_inside (files : Files) (path : String) :
    (∀ d, load files path = .ok d ↔ IsLayout files path d ∧ WellNamed d.name) ∧
    (∀ name, load files path = .error (.badName name) ↔
      ∃ d, IsLayout files path d ∧ d.name = name ∧ ¬ WellNamed name) ∧
    (∀ d, load files path = .ok d → ∀ directory,
      Within directory d.fileName (joinPath directory d.fileName) ∧
      (∀ c ∈ d.fileName.toList, NameChar c ∨ c = '.') ∧
      (∀ (tree : Files) (m : Location), tree.resolve (joinPath directory d.fileName) = .ok m →
        ∃ l, tree.LeadsTo directory l ∧ m = l ++ [d.fileName]) ∧
      ∀ style size s,
        (∀ saved, (d.save style size directory s).1 = .ok saved →
          saved = joinPath directory d.fileName ∧
          s.files.Gains directory [d.image (d.save style size directory s).2.device]
            (d.save style size directory s).2.files) ∧
        ∀ cause, (d.save style size directory s).1 = .error cause →
          s.files.Gains directory (d.leftBehind cause)
            (d.save style size directory s).2.files) ∧
    ∀ otherFiles otherPath d e directory, load files path = .ok d →
      load otherFiles otherPath = .ok e →
      (joinPath directory d.fileName = joinPath directory e.fileName ↔ d.name = e.name) := by
  refine ⟨fun _ => load_eq_ok_iff, fun _ => load_eq_badName_iff, fun d hd directory => ?_, ?_⟩
  · have hname : WellNamed d.name := (load_eq_ok_iff.mp hd).2
    have hwithin := hname.within directory
    exact ⟨hwithin, hname.chars_fileName, fun _ _ => hwithin.resolve,
      fun style size s => hname.save_gains style size directory s⟩
  · intro otherFiles otherPath d e directory hd he
    exact (load_eq_ok_iff.mp hd).2.joinPath_eq_iff (load_eq_ok_iff.mp he).2

/-- A layout with a good name, which is saved in a directory, and one whose name would lead out of
it. -/
theorem layouts_stay_inside_of_escape :
    let files : Files := ⟨[], [(["out"], .directory),
      (["good.toml"], .file "name = \"a-B_9\"".toUTF8),
      (["bad.toml"], .file "name = \"../escape\"".toUTF8)]⟩
    let good : Diagram := ⟨"a-B_9", []⟩
    let run := good.save .plain ⟨200, 100⟩ "/out" { files }
    load files "good.toml" = .ok good ∧
    load files "bad.toml" = .error (.badName "../escape") ∧
    Within "/out" "infographic_a-B_9.png" "/out/infographic_a-B_9.png" ∧
    run.1 = .ok "/out/infographic_a-B_9.png" ∧
    files.Gains "/out" [("infographic_a-B_9.png", run.2.device.image)] run.2.files := by
  intro files good run
  obtain ⟨haccepted, -, hinside, -⟩ := layouts_stay_inside files "good.toml"
  obtain ⟨-, hrefused, -, -⟩ := layouts_stay_inside files "bad.toml"
  have hlayout : ∀ path name,
      ((((files.readText path).toOption.bind Toml.read?).bind fun v =>
        (decode .toml v).toOption).map fun d => (d.name, d.shapes.isEmpty)) = some (name, true) →
      IsLayout files path ⟨name, []⟩ := by
    intro path name h
    obtain ⟨⟨name', shapes⟩, hd, hnamed⟩ := Option.map_eq_some_iff.mp h
    obtain ⟨rfl, hempty⟩ := Prod.mk.inj hnamed
    obtain rfl : shapes = [] := List.isEmpty_iff.mp hempty
    exact isLayout_iff.mpr hd
  have hgood : load files "good.toml" = .ok good :=
    (haccepted good).mpr ⟨hlayout _ _ (by decide +kernel), isName_iff.mp (by decide)⟩
  have hbad : load files "bad.toml" = .error (.badName "../escape") :=
    (hrefused "../escape").mpr ⟨⟨"../escape", []⟩, hlayout _ _ (by decide +kernel), rfl,
      mt isName_iff.mpr (by decide)⟩
  obtain ⟨hwithin, -, -, hsave⟩ := hinside good hgood "/out"
  have hfile : good.fileName = "infographic_a-B_9.png" := by decide
  have hpath : joinPath "/out" "infographic_a-B_9.png" = "/out/infographic_a-B_9.png" := by decide
  rw [hfile, hpath] at hwithin
  have hrun : run.1 = .ok "/out/infographic_a-B_9.png" :=
    Except.toOption_eq_some_iff.mp (by decide +kernel)
  exact ⟨hgood, hbad, hwithin, hrun, ((hsave .plain ⟨200, 100⟩ { files }).1 _ hrun).2⟩

end Diagram

end Placard
