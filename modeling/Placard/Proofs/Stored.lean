/-
Placard/Proofs/Stored.lean

What saving diagrams leaves in the files.

`Files.Gains` says that a tree differs from an earlier one in some files of one directory, and
in nothing else.  Saving a diagram either puts its image there, or leaves an empty file if only
the encoding failed, or leaves everything as it was (`Diagram.save_cases`); saving several
diagrams in a row adds up (`Command.Saved.gains`).
-/
import Placard.Command
import Placard.Proofs.Path
import Placard.Proofs.Saving

namespace Placard

/-! ### Files put into a directory -/

namespace Files

/-- `g` is `f` with these files in `directory`, each under its name and with its content; they
take the place of files or of nothing, and everything else is the same. -/
structure Gains (f : Files) (directory : String) (images : List (String × ByteArray))
    (g : Files) : Prop where
  here : g.here = f.here
  place : ∃ l, (images ≠ [] → f.LeadsTo directory l) ∧
    (∀ i ∈ images, f.at? (l ++ [i.1]) ≠ some .directory ∧
      g.at? (l ++ [i.1]) = some (.file i.2)) ∧
    ∀ m, (∀ i ∈ images, m ≠ l ++ [i.1]) → g.at? m = f.at? m

namespace Gains

variable {f g : Files} {directory : String} {images : List (String × ByteArray)} {l m : Location}

theorem refl (f : Files) (directory : String) : f.Gains directory [] f :=
  ⟨rfl, [], fun h => absurd rfl h, List.forall_mem_nil _, fun _ _ => rfl⟩

/-- Both trees lead to the same directory, where the files are. -/
theorem place_of_leadsTo (h : f.Gains directory images g) (hl : g.LeadsTo directory l) :
    f.LeadsTo directory l ∧
    (∀ i ∈ images, f.at? (l ++ [i.1]) ≠ some .directory ∧
      g.at? (l ++ [i.1]) = some (.file i.2)) ∧
    ∀ m, (∀ i ∈ images, m ≠ l ++ [i.1]) → g.at? m = f.at? m := by
  obtain ⟨hhere, k, hk, himages, hrest⟩ := h
  have hstart : g.start directory = f.start directory := by rw [start, start, hhere]
  by_cases hnil : images = []
  · -- nothing was put anywhere
    subst hnil
    have hsame : ∀ m, g.at? m = f.at? m := fun m => hrest m (List.forall_mem_nil _)
    refine ⟨⟨?_, hsame l ▸ hl.2⟩, List.forall_mem_nil _, fun m _ => hsame m⟩
    rw [← hstart]
    exact walk_mono (fun m hm => hsame m ▸ hm) (fun m e hm => ⟨e, hsame m ▸ hm⟩) hl.1
  · -- no directory is lost, so the way to the directory of the files is the same in both trees
    have hkeep : ∀ m, f.at? m = some .directory → g.at? m = some .directory := by
      intro m hm
      rw [hrest m, hm]
      rintro i hi rfl
      exact (himages i hi).1 hm
    have hsome : ∀ m e, f.at? m = some e → ∃ e', g.at? m = some e' := by
      intro m e hm
      by_cases hi : ∃ i ∈ images, m = k ++ [i.1]
      · obtain ⟨i, hi, rfl⟩ := hi
        exact ⟨_, (himages i hi).2⟩
      · exact ⟨e, (hrest m fun i hmem hm => hi ⟨i, hmem, hm⟩).trans hm⟩
    have hgk : g.LeadsTo directory k := by
      refine ⟨?_, hkeep k (hk hnil).2⟩
      rw [hstart]
      exact walk_mono hkeep hsome (hk hnil).1
    obtain rfl := hgk.unique hl
    exact ⟨hk hnil, himages, hrest⟩

variable {name : String} {g' : Files}

/-- One more file, under a name of its own. -/
theorem snoc (h : f.Gains directory images g) (hl : g.LeadsTo directory l)
    (hfree : g.at? (l ++ [name]) ≠ some .directory) (hnew : ∀ i ∈ images, i.1 ≠ name)
    {content : ByteArray} (hhere : g'.here = g.here)
    (hput : ∀ m, g'.at? m = if m = l ++ [name] then some (.file content) else g.at? m) :
    f.Gains directory (images ++ [(name, content)]) g' := by
  obtain ⟨hfl, himages, hrest⟩ := h.place_of_leadsTo hl
  -- no file is in the way of another one
  have hne : ∀ i ∈ images, l ++ [i.1] ≠ l ++ [name] := by
    intro i hi heq
    exact hnew i hi (List.singleton_inj.mp (List.append_cancel_left heq))
  refine ⟨hhere.trans h.here, l, fun _ => hfl, ?_, ?_⟩
  · intro i hi
    rcases List.mem_append.mp hi with hi | hi
    · refine ⟨(himages i hi).1, ?_⟩
      rw [hput, if_neg (hne i hi)]
      exact (himages i hi).2
    · obtain rfl := List.mem_singleton.mp hi
      refine ⟨?_, by rw [hput, if_pos rfl]⟩
      rw [← hrest _ fun i hi => (hne i hi).symm]
      exact hfree
  · intro m hm
    have hlast : m ≠ l ++ [name] := hm (name, content) (by simp)
    rw [hput, if_neg hlast]
    exact hrest m fun i hi => hm i (List.mem_append_left _ hi)

/-- An empty file that was made under a new name. -/
theorem create (h : f.Gains directory images g) (hname : Plain name)
    (hnew : ∀ i ∈ images, i.1 ≠ name) (hc : g.create (joinPath directory name) = .ok (m, g')) :
    f.Gains directory (images ++ [(name, ByteArray.empty)]) g' := by
  obtain ⟨l, hl, rfl, hfree, rfl⟩ := create_joinPath hname hc
  exact h.snoc hl hfree hnew (here_put _ _ _) fun k => at?_put _ (by simp) _ k

/-- A file that was made under a new name and then filled. -/
theorem create_write (h : f.Gains directory images g) (hname : Plain name)
    (hnew : ∀ i ∈ images, i.1 ≠ name) (hc : g.create (joinPath directory name) = .ok (m, g'))
    (content : ByteArray) :
    f.Gains directory (images ++ [(name, content)]) (g'.write m content) := by
  obtain ⟨l, hl, rfl, hfree, rfl⟩ := create_joinPath hname hc
  refine h.snoc hl hfree hnew ?_ ?_
  · rw [write, here_put, here_put]
  · intro k
    rw [write, at?_put _ (by simp), at?_put _ (by simp)]
    by_cases hk : k = l ++ [name]
    · rw [if_pos hk, if_pos hk]
    · rw [if_neg hk, if_neg hk, if_neg hk]

end Gains

end Files

/-! ### Saving one diagram -/

namespace Diagram

variable {style : Style} {size : CanvasSize} {directory : String} {d : Diagram}

theorem plain_fileName (h : isName d.name = true) : Plain d.fileName := by
  have hname : '/' ∉ d.name.toList := by
    intro hmem
    have hall : d.name.toList.all isNameChar = true := (Bool.and_eq_true_iff.mp h).2
    have hslash : isNameChar '/' = true := List.all_eq_true.mp hall '/' hmem
    exact absurd hslash (by decide)
  have hfront : "infographic_".toList ≠ [] ∧ '/' ∉ "infographic_".toList := by decide
  have hend : '/' ∉ ".png".toList := by decide
  constructor
  · intro hempty
    have hnil := String.toList_eq_nil_iff.mpr hempty
    rw [fileName, String.toList_append, String.toList_append] at hnil
    exact hfront.1 (List.append_eq_nil_iff.mp (List.append_eq_nil_iff.mp hnil).1).1
  · intro hmem
    rw [fileName, String.toList_append, String.toList_append] at hmem
    rcases List.mem_append.mp hmem with hmem | hmem
    · exact (List.mem_append.mp hmem).elim hfront.2 hname
    · exact hend hmem

theorem fileName_inj {e : Diagram} (h : d.fileName = e.fileName) : d.name = e.name :=
  (String.append_right_inj _).mp ((String.append_left_inj _).mp h)

/-- Drawing does not touch the files. -/
theorem draw_files (s : Session) : (d.draw style size s).2.files = s.files :=
  Job.bind_files (Job.perform_files _)
    (fun _ => Job.bind_files (Job.tell_files _) fun _ => Job.perform_files _) s

/-- How storing a drawing ends, and what it does to the files. -/
theorem store_cases (size : CanvasSize) (directory : String) (d : Diagram) (s : Session) :
    (∃ e s', d.store size directory s = (.error e, s') ∧ e ≠ .notEncoded ∧ s'.files = s.files) ∨
    (∃ l g, s.files.create (joinPath directory d.fileName) = .ok (l, g) ∧
      ((∃ s', d.store size directory s = (.error .notEncoded, s') ∧ s'.files = g) ∨
        (∃ s', d.store size directory s = (.ok (joinPath directory d.fileName), s') ∧
          s'.files = g.write l s'.device.image))) := by
  obtain ⟨flushed, hstore, hfiles, -⟩ := store_flushes size directory d s
  rw [hstore, ← hfiles]
  rcases makeFile_cases (joinPath directory d.fileName) flushed with ⟨e, -, hmake⟩ |
    ⟨l, g, hcreate, hmake⟩
  · -- there is no file to put it into
    exact .inl ⟨_, _, hmake, nofun, rfl⟩
  · -- from here on there is a file, and it stays empty until the image is encoded
    rw [hmake]
    refine .inr ⟨l, g, hcreate, ?_⟩
    rcases fillFile_cases (joinPath directory d.fileName) l { flushed with files := g } with
      ⟨s', hfill, hs', -⟩ | ⟨s', hfill, hs', -⟩
    · exact .inl ⟨s', hfill, hs'⟩
    · exact .inr ⟨s', hfill, hs'⟩

/-- How saving ends, and what it does to the files: nothing, if something fails before the file
is made; an empty file, if the image cannot be encoded; else the image. -/
theorem save_cases (style : Style) (size : CanvasSize) (directory : String) (d : Diagram)
    (s : Session) :
    (∃ e s', d.save style size directory s = (.error e, s') ∧ e ≠ .notEncoded ∧
      s'.files = s.files) ∨
    (∃ l g, s.files.create (joinPath directory d.fileName) = .ok (l, g) ∧
      ((∃ s', d.save style size directory s = (.error .notEncoded, s') ∧ s'.files = g) ∨
        (∃ s', d.save style size directory s = (.ok (joinPath directory d.fileName), s') ∧
          s'.files = g.write l s'.device.image))) := by
  have hfiles : (d.draw style size s).2.files = s.files := draw_files s
  rcases hd : d.draw style size s with ⟨e | u, s₁⟩
  · rw [hd] at hfiles
    exact .inl ⟨_, _, save_of_not_drawn directory hd, nofun, hfiles⟩
  · rw [hd] at hfiles
    rw [save_of_drawn directory hd, ← hfiles]
    exact store_cases size directory d s₁

/-- The file that holds the image of a diagram, which `device` has encoded. -/
def image (d : Diagram) (device : Device) : String × ByteArray := (d.fileName, device.image)

/-- The answer is the path of the file. -/
theorem path_of_saved {s s' : Session} {path : String}
    (h : d.save style size directory s = (.ok path, s')) :
    path = joinPath directory d.fileName := by
  rcases save_cases style size directory d s with ⟨e, s₁, hsave, -, -⟩ |
    ⟨l, g, -, ⟨s₁, hsave, -⟩ | ⟨s₁, hsave, -⟩⟩
  · cases h.symm.trans hsave
  · cases h.symm.trans hsave
  · cases h.symm.trans hsave
    rfl

/-- What a diagram that is saved adds to the files. -/
theorem gains_of_saved {s s' : Session} {path : String}
    (h : d.save style size directory s = (.ok path, s')) (hname : isName d.name = true)
    {f : Files} {images : List (String × ByteArray)} (hs : f.Gains directory images s.files)
    (hnew : ∀ i ∈ images, i.1 ≠ d.fileName) :
    f.Gains directory (images ++ [d.image s'.device]) s'.files := by
  rcases save_cases style size directory d s with ⟨e, s₁, hsave, -, -⟩ |
    ⟨l, g, hc, ⟨s₁, hsave, -⟩ | ⟨s₁, hsave, hfiles⟩⟩
  · cases h.symm.trans hsave
  · cases h.symm.trans hsave
  · cases h.symm.trans hsave
    rw [hfiles]
    exact hs.create_write (plain_fileName hname) hnew hc _

/-- The file that is left behind by a diagram that could not be saved: an empty one if only the
encoding failed, else none. -/
def leftBehind (d : Diagram) : PublishError → List (String × ByteArray)
  | .notEncoded => [(d.fileName, ByteArray.empty)]
  | _ => []

/-- What a diagram that cannot be saved adds to the files. -/
theorem gains_of_failed {s s' : Session} {cause : PublishError}
    (h : d.save style size directory s = (.error cause, s')) (hname : isName d.name = true)
    {f : Files} {images : List (String × ByteArray)} (hs : f.Gains directory images s.files)
    (hnew : ∀ i ∈ images, i.1 ≠ d.fileName) :
    f.Gains directory (images ++ d.leftBehind cause) s'.files := by
  rcases save_cases style size directory d s with ⟨e, s₁, hsave, he, hfiles⟩ |
    ⟨l, g, hc, ⟨s₁, hsave, hfiles⟩ | ⟨s₁, hsave, -⟩⟩
  · rw [h] at hsave
    cases hsave
    have hnone : d.leftBehind cause = [] := by
      cases cause with
      | notEncoded => exact absurd rfl he
      | _ => rfl
    rw [hnone, List.append_nil, hfiles]
    exact hs
  · rw [h] at hsave
    cases hsave
    rw [hfiles]
    exact hs.create (plain_fileName hname) hnew hc
  · rw [h] at hsave
    cases hsave

end Diagram

/-! ### Saving several diagrams -/

namespace Command

variable {style : Style} {size : CanvasSize} {directory : String}

theorem nodup_names_concat {ds : List Diagram} {d : Diagram} :
    ((ds ++ [d]).map (·.name)).Nodup ↔
      (ds.map (·.name)).Nodup ∧ (ds.any fun other => other.name == d.name) = false := by
  have hany : (ds.any fun other => other.name == d.name) = false ↔
      ∀ a ∈ ds.map (·.name), a ≠ d.name := by
    rw [List.any_eq_false]
    constructor
    · intro h a ha
      obtain ⟨other, hother, rfl⟩ := List.mem_map.mp ha
      exact fun heq => h other hother (beq_iff_eq.mpr heq)
    · intro h other hother heq
      exact h _ (List.mem_map_of_mem hother) (beq_iff_eq.mp heq)
  rw [hany, List.map_append, List.nodup_append]
  constructor
  · rintro ⟨hds, -, hne⟩
    exact ⟨hds, fun a ha => hne a ha d.name (by simp)⟩
  · rintro ⟨hds, hne⟩
    refine ⟨hds, List.pairwise_singleton _ _, ?_⟩
    intro a ha b hb
    obtain rfl := List.mem_singleton.mp hb
    exact hne a ha

/-- The diagrams are saved one after the other, and all of them succeed.  Each of them adds one
image: what the device has encoded by then. -/
inductive Saved (style : Style) (size : CanvasSize) (directory : String) :
    List Diagram → List (String × ByteArray) → Session → Session → Prop
  | nil (s : Session) : Saved style size directory [] [] s s
  | cons {d : Diagram} {rest : List Diagram} {images : List (String × ByteArray)}
      {s s₁ s₂ : Session}
      (head : d.save style size directory s = (.ok (joinPath directory d.fileName), s₁))
      (tail : Saved style size directory rest images s₁ s₂) :
      Saved style size directory (d :: rest) (d.image s₁.device :: images) s s₂

theorem Saved.names {ds : List Diagram} {images : List (String × ByteArray)} {s s' : Session}
    (h : Saved style size directory ds images s s') :
    images.map (·.1) = ds.map Diagram.fileName := by
  induction h with
  | nil s => rfl
  | cons head tail ih => rw [List.map_cons, List.map_cons, ih]; rfl

/-- Saving several diagrams ends with the last one or with the first one that fails. -/
theorem saveAll_cases (style : Style) (size : CanvasSize) (directory : String)
    (ds : List Diagram) (s : Session) :
    (∃ images s', saveAll style size directory ds s = (.ok (), s') ∧
      Saved style size directory ds images s s') ∨
    (∃ before d after images cause s₁ s₂, ds = before ++ d :: after ∧
      Saved style size directory before images s s₁ ∧
      d.save style size directory s₁ = (.error cause, s₂) ∧
      saveAll style size directory ds s = (.error (.render d.name cause), s₂)) := by
  induction ds generalizing s with
  | nil => exact .inl ⟨[], s, rfl, .nil s⟩
  | cons d rest ih =>
    rw [saveAll]
    rcases hd : d.save style size directory s with ⟨cause | path, s₁⟩
    · -- the first diagram fails already
      rw [Job.bind_of_error (Job.within_of_error hd)]
      exact .inr ⟨[], d, rest, [], cause, s, s₁, rfl, .nil s, hd, rfl⟩
    · obtain rfl := Diagram.path_of_saved hd
      rw [Job.bind_of_ok (Job.within_of_ok hd)]
      rcases ih s₁ with ⟨images, s', hrest, hsaved⟩ |
        ⟨before, d', after, images, cause, s₂, s₃, rfl, hsaved, hfail, hrest⟩
      · exact .inl ⟨_, s', hrest, .cons hd hsaved⟩
      · exact .inr ⟨d :: before, d', after, _, cause, s₂, s₃, rfl, .cons hd hsaved, hfail, hrest⟩

/-- What is in the files after some diagrams were saved: what was there before, and one image for
each of them. -/
theorem Saved.gains {ds : List Diagram} {images : List (String × ByteArray)} {s s' : Session}
    (h : Saved style size directory ds images s s')
    (hname : ∀ d ∈ ds, Diagram.isName d.name = true) (hdistinct : (ds.map (·.name)).Nodup)
    {f : Files} {earlier : List (String × ByteArray)} (hs : f.Gains directory earlier s.files)
    (hnew : ∀ d ∈ ds, ∀ i ∈ earlier, i.1 ≠ d.fileName) :
    f.Gains directory (earlier ++ images) s'.files := by
  induction h generalizing earlier with
  | nil s => simpa using hs
  | @cons d rest images s s₁ s₂ head tail ih =>
    have hd := List.mem_cons_self (a := d) (l := rest)
    rw [List.map_cons, List.nodup_cons] at hdistinct
    -- the image of the first diagram
    have hfirst := Diagram.gains_of_saved head (hname d hd) hs (hnew d hd)
    rw [List.append_cons]
    refine ih (fun d hd => hname d (List.mem_cons_of_mem _ hd)) hdistinct.2 hfirst ?_
    intro d' hd' i hi
    rcases List.mem_append.mp hi with hi | hi
    · exact hnew d' (List.mem_cons_of_mem _ hd') i hi
    · obtain rfl := List.mem_singleton.mp hi
      intro heq
      exact hdistinct.1 (List.mem_map.mpr ⟨d', hd', (Diagram.fileName_inj heq).symm⟩)

/-- What is in the files after a diagram could not be saved: one image for each of the diagrams
before it, what that one left behind, and nothing of those after it. -/
theorem Saved.gains_up_to_failure {before after : List Diagram} {d : Diagram}
    {images : List (String × ByteArray)} {cause : PublishError} {s reached stop : Session}
    (h : Saved style size directory before images s reached)
    (hfail : d.save style size directory reached = (.error cause, stop))
    (hname : ∀ e ∈ before ++ d :: after, Diagram.isName e.name = true)
    (hdistinct : ((before ++ d :: after).map (·.name)).Nodup) {f : Files}
    (hs : f.Gains directory [] s.files) :
    f.Gains directory (images ++ d.leftBehind cause) stop.files := by
  rw [List.append_cons] at hdistinct
  obtain ⟨hbefore, hany⟩ :=
    nodup_names_concat.mp (((List.sublist_append_left _ _).map _).nodup hdistinct)
  have hreached := h.gains (fun e he => hname e (List.mem_append_left _ he)) hbefore hs
    fun _ _ => List.forall_mem_nil _
  refine Diagram.gains_of_failed hfail (hname d (by simp)) hreached ?_
  -- no image before it has its name
  intro i hi heq
  obtain ⟨e, he, hei⟩ := List.mem_map.mp (h.names ▸ List.mem_map_of_mem hi)
  have hne := List.any_eq_false.mp hany e he
  exact hne (beq_iff_eq.mpr (Diagram.fileName_inj (hei.trans heq)))

end Command

end Placard
