/-
Placard/Proofs/Kept.lean

What saving a diagram leaves as it was.

A diagram is drawn to its end before there is a file for it, so a drawing that fails leaves no trace
in the files.  `Files.Stores` says that one file was put at a path and that nothing else changed;
`Diagram.save_keeps_files` says for each way in which saving can end what has become of the files,
and at which point the surface is flushed, the file is made, and the image is encoded.  The device
may refuse any call, and the name of the diagram may be any text.
-/
import Placard.Proofs.Stored

namespace Placard

/-! ### A file at a path -/

/-- `g` is `f` with a file at `path`, in the place of a file or of nothing.  The path leads to the
file, and everything else is the same. -/
structure Files.Stores (f : Files) (path : String) (content : ByteArray) (g : Files) : Prop where
  here : g.here = f.here
  place : ∃ l, g.resolve path = .ok l ∧ f.at? l ≠ some .directory ∧
    g.at? l = some (.file content) ∧ ∀ m, m ≠ l → g.at? m = f.at? m

namespace Files

variable {f g h : Files} {l m : Location} {path : String} {content : ByteArray}

theorem ne_of_isDots_eq_false {name : String} (hdots : isDots name = false) :
    name ≠ "." ∧ name ≠ ".." := by
  simpa [isDots] using hdots

/-- A path to something that is not a directory ends in a name. -/
theorem pathParts_eq_concat {name : String} (hlast : (pathParts path).getLastD "." = name)
    (hdots : isDots name = false) : pathParts path = (pathParts path).dropLast ++ [name] := by
  rcases List.eq_nil_or_concat (pathParts path) with hnil | ⟨front, last, hparts⟩
  · -- without any part, the path would stand for the directory itself
    rw [hnil] at hlast
    exact absurd hlast.symm (ne_of_isDots_eq_false hdots).1
  · rw [List.concat_eq_append] at hparts
    rw [hparts, List.getLastD_concat] at hlast
    rw [hparts, List.dropLast_concat, hlast]

/-- Any change that, to an observer, puts a file where `create` would put it. -/
theorem Stores.of_create (hc : f.create path = .ok (m, g)) (hhere : h.here = f.here)
    (hput : ∀ k, h.at? k = if k = m then some (.file content) else f.at? k) :
    f.Stores path content h := by
  obtain ⟨l, name, hr, hdots, rfl, hfile, -⟩ := create_eq_ok hc
  obtain ⟨hcheck, hwalk, hl, hlast, hshort⟩ := resolveNew_eq_ok.mp hr
  obtain ⟨hdot, hdotdot⟩ := ne_of_isDots_eq_false hdots
  have hdirectory : ∀ k, f.at? k = some .directory → h.at? k = some .directory := by
    intro k hk
    have hne : k ≠ l ++ [name] := by
      rintro rfl
      exact hfile hk
    rw [hput, if_neg hne, hk]
  have hsome : ∀ k e, f.at? k = some e → ∃ e', h.at? k = some e' := by
    intro k e hk
    by_cases hkm : k = l ++ [name]
    · exact ⟨_, by rw [hput, if_pos hkm]⟩
    · exact ⟨e, by rw [hput, if_neg hkm, hk]⟩
  have hplace : h.at? (l ++ [name]) = some (.file content) := by rw [hput, if_pos rfl]
  refine ⟨hhere, l ++ [name], ?_, hfile, hplace, fun k hk => by rw [hput, if_neg hk]⟩
  -- the way to the directory is still open, and from there it is one more name
  have hfirst : h.walk (h.start path) (pathParts path).dropLast = .ok l := by
    rw [start, hhere, ← start]
    exact walk_mono hdirectory hsome hwalk
  have hname : h.walk l [name] = .ok (l ++ [name]) :=
    walk_cons_eq_ok.mpr ⟨hdirectory l hl, .inr (.inr ⟨hdot, hdotdot, hshort, ⟨_, hplace⟩, rfl⟩)⟩
  unfold resolve
  rw [Except.bind_eq_ok]
  refine ⟨(), hcheck, ?_⟩
  rw [pathParts_eq_concat hlast hdots]
  exact walk_append_eq_ok.mpr ⟨l, hfirst, hname⟩

theorem at?_of_create (hc : f.create path = .ok (m, g)) (k : Location) :
    g.here = f.here ∧ m ≠ [] ∧
      g.at? k = if k = m then some (.file ByteArray.empty) else f.at? k := by
  obtain ⟨l, name, -, -, rfl, -, rfl⟩ := create_eq_ok hc
  have hne : l ++ [name] ≠ [] := by simp
  exact ⟨here_put _ _ _, hne, at?_put f hne _ k⟩

/-- A file that was made and is still empty. -/
theorem stores_create (hc : f.create path = .ok (m, g)) : f.Stores path ByteArray.empty g :=
  .of_create hc (at?_of_create hc []).1 fun k => (at?_of_create hc k).2.2

/-- A file that was made and then filled. -/
theorem stores_write (hc : f.create path = .ok (m, g)) (content : ByteArray) :
    f.Stores path content (g.write m content) := by
  obtain ⟨hhere, hne, -⟩ := at?_of_create hc []
  refine .of_create hc ((here_put _ _ _).trans hhere) fun k => ?_
  rw [write, at?_put g hne, (at?_of_create hc k).2.2]
  by_cases hk : k = m
  · rw [if_pos hk, if_pos hk]
  · rw [if_neg hk, if_neg hk, if_neg hk]

end Files

/-! ### Calls that a job adds -/

namespace Job

variable {ε δ α β : Type} {P : Call → Prop}

/-- Whatever is refused, every call that the job makes is of a certain kind. -/
def Adds (P : Call → Prop) (job : Job ε α) : Prop :=
  ∀ s, ∃ script, (job s).2.device.recording = s.device.recording ++ script ∧ ∀ c ∈ script, P c

theorem Offline.adds {job : Job ε α} (h : Offline job) : Adds P job :=
  fun s => ⟨[], by rw [h.device, List.append_nil], List.forall_mem_nil P⟩

theorem adds_perform {drawing : Drawing α} {plan : (Font → Float) → Trace Call α}
    (hplan : drawing.Follows plan) (h : ∀ ascentOf, ∀ c ∈ (plan ascentOf).items, P c) :
    Adds P (perform drawing) := by
  intro s
  obtain ⟨made, hmade, hrecord⟩ := s.device.perform_eq_record (plan s.device.ascentOf).items
  refine ⟨made, ?_, fun c hc => h _ c (hmade.subset hc)⟩
  rw [perform_apply, hplan s.device, Device.play_device, hrecord, Device.recording_record]

theorem Adds.bind {job : Job ε α} {f : α → Job ε β} (hjob : Adds P job)
    (hf : ∀ a, Adds P (f a)) : Adds P (job >>= f) := by
  intro s
  obtain ⟨first, hfirst, hP⟩ := hjob s
  rcases h : job s with ⟨e | a, s₁⟩
  · rw [bind_of_error h]
    rw [h] at hfirst
    exact ⟨first, hfirst, hP⟩
  · obtain ⟨rest, hrest, hQ⟩ := hf a s₁
    rw [h] at hfirst
    refine ⟨first ++ rest, ?_, List.forall_mem_append.mpr ⟨hP, hQ⟩⟩
    rw [bind_of_ok h, hrest, hfirst, List.append_assoc]

end Job

namespace Diagram

variable (style : Style) (size : CanvasSize) (directory : String) (d : Diagram)

/-- Drawing encodes nothing, not even if a call is refused. -/
theorem draw_adds : Job.Adds (· ≠ .writePng) (d.draw style size) :=
  (Job.adds_perform (Canvas.follows_create _ _) fun _ _ => Canvas.ne_writePng_of_mem_plan).bind
    fun _ => (Job.Offline.adds (.tell _)).bind fun _ =>
      Job.adds_perform (Shape.follows_drawAll _ _) fun _ _ => Shape.ne_writePng_of_mem_planAll

/-! ### The course of saving -/

theorem fillFile_device (path : String) (l : Location) (s : Session) :
    (fillFile path l s).2.device = s.device.record [.writePng] := by
  rcases fillFile_cases path l s with ⟨after, hfill, -, hdevice⟩ | ⟨after, hfill, -, hdevice⟩
  · rw [hfill, hdevice]
  · rw [hfill, hdevice]

/-- How saving goes on from `s`: a drawing that fails ends it.  Otherwise there is a session in
which the surface is flushed while the files are as they were; then the file is made, and then the
image is encoded. -/
def Course (style : Style) (size : CanvasSize) (directory : String) (d : Diagram)
    (s : Session) : Prop :=
  let path := joinPath directory d.fileName
  let run := d.save style size directory s
  (∃ cause drawing, run.1 = .error (.notDrawn d.name cause) ∧ run.2.files = s.files ∧
    run.2.device.recording = s.device.recording ++ drawing ∧ ∀ c ∈ drawing, c ≠ .writePng) ∨
  ∃ flushed drawing, run = makeFile path flushed ∧ flushed.files = s.files ∧
    flushed.device.recording = s.device.recording ++ drawing ++ [.surfaceFlush] ∧
    (∀ c ∈ drawing, c ≠ .writePng) ∧
    match flushed.files.create path with
    | .error e => run = (.error (.noFile path e), flushed)
    | .ok (location, files) =>
      run = fillFile path location { flushed with files } ∧
        run.2.device.recording = flushed.device.recording ++ [.writePng]

theorem save_course (s : Session) : Course style size directory d s := by
  obtain ⟨drawing, hdrawing, hcalls⟩ := draw_adds style size d s
  have hfiles : (d.draw style size s).2.files = s.files := draw_files s
  unfold Course
  intro path run
  rcases hd : d.draw style size s with ⟨cause | u, drawn⟩
  · rw [hd] at hdrawing hfiles
    have hrun : run = (.error (.notDrawn d.name cause), drawn) := save_of_not_drawn directory hd
    rw [hrun]
    exact .inl ⟨cause, drawing, rfl, hfiles, hdrawing, hcalls⟩
  · rw [hd] at hdrawing hfiles
    obtain ⟨flushed, hstore, hflushed, hdevice⟩ := store_flushes size directory d drawn
    have hrun : run = makeFile path flushed := (save_of_drawn directory hd).trans hstore
    have hrecording : flushed.device.recording =
        s.device.recording ++ drawing ++ [.surfaceFlush] := by
      rw [hdevice, Device.recording_record, hdrawing]
    refine .inr ⟨flushed, drawing, hrun, hflushed.trans hfiles, hrecording, hcalls, ?_⟩
    rcases makeFile_cases path flushed with ⟨e, hcreate, hmake⟩ | ⟨l, g, hcreate, hmake⟩
    · rw [hcreate]
      exact hrun.trans hmake
    · rw [hcreate]
      refine ⟨hrun.trans hmake, ?_⟩
      rw [hrun, hmake, fillFile_device, Device.recording_record]

/-- **Saving leaves no file for a failed drawing.**  If a diagram cannot be drawn or no file can be
made for it, the files are exactly as before.  If only the encoding fails, they differ in the file
of the diagram, which is empty, and if saving succeeds, in that file alone, which holds the image
that the device encoded.
The surface is flushed while the files are still as before, and the image is encoded once the file
is there. -/
theorem save_keeps_files (s : Session) :
    (match (d.save style size directory s).1 with
      | .error (.notDrawn _ _) => (d.save style size directory s).2.files = s.files
      | .error (.noFile _ _) => (d.save style size directory s).2.files = s.files
      | .error .notEncoded => s.files.Stores (joinPath directory d.fileName) ByteArray.empty
          (d.save style size directory s).2.files
      | .error (.noDirectory _ _) => False
      | .ok path => path = joinPath directory d.fileName ∧
          s.files.Stores path (d.save style size directory s).2.device.image
            (d.save style size directory s).2.files) ∧
    Course style size directory d s := by
  have hcourse := save_course style size directory d s
  refine ⟨?_, hcourse⟩
  rcases hcourse with ⟨cause, -, hresult, hfiles, -⟩ | ⟨flushed, -, hrun, hfiles, -⟩
  · rw [hresult]
    exact hfiles
  · rw [hrun]
    rcases makeFile_cases (joinPath directory d.fileName) flushed with ⟨e, -, hmake⟩ |
      ⟨l, g, hcreate, hmake⟩
    · -- no file could be made
      rw [hmake]
      exact hfiles
    · rw [hmake]
      rw [hfiles] at hcreate
      rcases fillFile_cases (joinPath directory d.fileName) l { flushed with files := g } with
        ⟨after, hfill, hafter, -⟩ | ⟨after, hfill, hafter, -⟩
      · -- the file stays empty
        rw [hfill]
        show Files.Stores s.files _ ByteArray.empty after.files
        rw [hafter]
        exact Files.stores_create hcreate
      · rw [hfill]
        refine ⟨rfl, ?_⟩
        show Files.Stores s.files _ after.device.image after.files
        rw [hafter]
        exact Files.stores_write hcreate after.device.image

end Diagram

end Placard
