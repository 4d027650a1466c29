/-
Placard/Proofs/Run.lean

What a run of the program leaves behind.

A run reads first and writes then.  It is `Command.Ready` if everything that it reads is in
order; if it is not, nothing is changed.  Else the diagrams are saved in their order, up to the
first one that fails, and `Command.execute_up_to_first_failure` says which files there are
afterwards.
-/
import Mathlib.Data.List.Forall2
import Placard.Proofs.Contained
import Placard.Proofs.Selected

namespace Placard

/-! ### Names -/

theorem Gallery.isName_of_mem {d : Diagram} (h : d ∈ Gallery.all) :
    Diagram.isName d.name = true := by
  have hall : (Gallery.all.map (·.name)).all Diagram.isName = true := by decide
  exact List.all_eq_true.mp hall _ (List.mem_map_of_mem h)

theorem Diagram.isName_of_load {files : Files} {path : String} {d : Diagram}
    (h : Diagram.load files path = .ok d) : Diagram.isName d.name = true :=
  isName_iff.mpr (load_eq_ok_iff.mp h).2

theorem Diagram.isName_of_loads {files : Files} {paths : List String} {loaded : List Diagram}
    (h : List.Forall₂ (fun path d => Diagram.load files path = .ok d) paths loaded) :
    ∀ d ∈ loaded, Diagram.isName d.name = true := by
  induction h with
  | nil => exact List.forall_mem_nil _
  | cons hd _ ih => exact List.forall_mem_cons.mpr ⟨Diagram.isName_of_load hd, ih⟩

/-! ### The directory -/

section

variable {path : String} {s : Session}

/-- The path without dots of what is at `path`, or else `path` itself. -/
def Files.canonicalOr (f : Files) (path : String) : String :=
  match f.canonical path with
  | .ok canonical => canonical
  | .error _ => path

theorem canonicalOr_apply (path : String) (s : Session) :
    (Job.files >>= fun files =>
      match files.canonical path with
      | .ok path => pure path
      | .error _ => pure path : Job PublishError String) s =
      (.ok (s.files.canonicalOr path), s) := by
  rw [Job.bind_of_ok (Job.files_apply s), Files.canonicalOr]
  cases s.files.canonical path with
  | ok canonical => rfl
  | error e => rfl

/-- What is there already is taken as it is, even if it is a file. -/
theorem ensureDirectory_of_exists (h : s.files.exists? path = true) :
    ensureDirectory path s = (.ok (s.files.canonicalOr path), s) := by
  unfold ensureDirectory
  rw [Job.bind_of_ok (Job.files_apply s), h]
  exact canonicalOr_apply path s

theorem ensureDirectory_of_missing (h : s.files.exists? path = false)
    {r : Except FileError Unit} {g : Files} (hg : s.files.makeDirectories path = (r, g)) :
    ensureDirectory path s =
      ((r.mapError (.noDirectory path)).map fun _ => g.canonicalOr path,
        { s with files := g, notices := s.notices ++ [.directoryMissing path] }) := by
  have hmade : Job.attempt (fun files => files.makeDirectories path)
      { s with notices := s.notices ++ [.directoryMissing path] } =
      (r, { s with files := g, notices := s.notices ++ [.directoryMissing path] }) := by
    rw [Job.attempt_apply, hg]
  unfold ensureDirectory
  rw [Job.bind_of_ok (Job.files_apply s), h]
  show (Job.tell [.directoryMissing path] >>= fun _ => _) s = _
  rw [Job.bind_of_ok (Job.tell_apply _ _)]
  cases r with
  | error e =>
    rw [Job.bind_of_error (Job.within_of_error hmade)]
    rfl
  | ok u =>
    rw [Job.bind_of_ok (Job.within_of_ok hmade)]
    exact canonicalOr_apply path _

/-- Only the files matter, and the device stays as it is. -/
theorem ensureDirectory_apply (path : String) (s : Session) :
    (ensureDirectory path s).1 = (ensureDirectory path { files := s.files }).1 ∧
    (ensureDirectory path s).2.files = (ensureDirectory path { files := s.files }).2.files ∧
    (ensureDirectory path s).2.device = s.device := by
  cases h : s.files.exists? path with
  | true =>
    rw [ensureDirectory_of_exists h, @ensureDirectory_of_exists path { files := s.files } h]
    exact ⟨rfl, rfl, rfl⟩
  | false =>
    rcases hg : s.files.makeDirectories path with ⟨r, g⟩
    rw [ensureDirectory_of_missing h hg,
      @ensureDirectory_of_missing path { files := s.files } h r g hg]
    exact ⟨rfl, rfl, rfl⟩

end

namespace Command

/-! ### Reading -/

/-- Everything that a run reads is in order: there are settings, the names that are asked for are
those of diagrams, every layout can be read, and no two diagrams have one name. -/
structure Ready (s : Surroundings) (files : Files) (o : Options) (config : Config)
    (chosen loaded : List Diagram) : Prop where
  settings : ∃ notices, loadConfig s files o = .ok (config, notices)
  known : Gallery.select o.only = .ok chosen
  layouts : List.Forall₂ (fun path d => Diagram.load files path = .ok d) o.layouts loaded
  distinct : ((chosen ++ loaded).map (·.name)).Nodup

/-- One layout: it can be read, and its name is not taken. -/
theorem addLayouts_cons_eq_ok {files : Files} {ds all : List Diagram} {path : String}
    {rest : List String} :
    (∃ notices, addLayouts files ds (path :: rest) = .ok (all, notices)) ↔
      ∃ d, Diagram.load files path = .ok d ∧
        (ds.any fun other => other.name == d.name) = false ∧
        ∃ notices, addLayouts files (ds ++ [d]) rest = .ok (all, notices) := by
  rw [addLayouts]
  constructor
  · rintro ⟨notices, h⟩
    obtain ⟨d, hd, h⟩ := Except.bind_eq_ok.mp h
    refine ⟨d, Except.mapError_eq_ok.mp hd, ?_⟩
    cases hany : ds.any fun other => other.name == d.name with
    | true =>
      -- the name is taken
      rw [if_pos hany] at h
      cases h
    | false =>
      rw [if_neg (by rw [hany]; exact Bool.false_ne_true)] at h
      obtain ⟨⟨all', notices'⟩, hrest, h⟩ := Except.bind_eq_ok.mp h
      cases h
      exact ⟨rfl, notices', hrest⟩
  · rintro ⟨d, hd, hany, notices, hrest⟩
    refine ⟨.layoutLoaded d.name d.shapes.length path :: notices, ?_⟩
    refine Except.bind_eq_ok.mpr ⟨d, Except.mapError_eq_ok.mpr hd, ?_⟩
    rw [if_neg (by rw [hany]; exact Bool.false_ne_true)]
    exact Except.bind_eq_ok.mpr ⟨(all, notices), hrest, rfl⟩

/-- All layouts, by induction: their diagrams follow those that are there, and all names
differ. -/
theorem addLayouts_eq_ok {files : Files} {ds all : List Diagram} {paths : List String}
    (hdistinct : (ds.map (·.name)).Nodup) :
    (∃ notices, addLayouts files ds paths = .ok (all, notices)) ↔
      ∃ loaded, List.Forall₂ (fun path d => Diagram.load files path = .ok d) paths loaded ∧
        all = ds ++ loaded ∧ (all.map (·.name)).Nodup := by
  induction paths generalizing ds with
  | nil =>
    constructor
    · rintro ⟨notices, h⟩
      cases h
      exact ⟨[], .nil, (List.append_nil _).symm, hdistinct⟩
    · rintro ⟨loaded, hloaded, rfl, -⟩
      cases hloaded
      exact ⟨[], by rw [addLayouts, List.append_nil]⟩
  | cons path rest ih =>
    rw [addLayouts_cons_eq_ok]
    constructor
    · rintro ⟨d, hd, hany, hrest⟩
      obtain ⟨loaded, hloaded, rfl, hall⟩ :=
        (ih (nodup_names_concat.mpr ⟨hdistinct, hany⟩)).mp hrest
      exact ⟨d :: loaded, .cons hd hloaded, List.append_assoc _ _ _, hall⟩
    · rintro ⟨loaded, hloaded, rfl, hall⟩
      cases hloaded with
      | @cons _ d _ loaded hd hrest =>
        rw [List.append_cons] at hall
        have hfront : ((ds ++ [d]).map (·.name)).Nodup :=
          ((List.sublist_append_left _ _).map _).nodup hall
        exact ⟨d, hd, (nodup_names_concat.mp hfront).2,
          (ih hfront).mpr ⟨loaded, hrest, List.append_cons _ _ _, List.append_cons _ _ _ ▸ hall⟩⟩

/-- A run can be prepared if everything that it reads is in order. -/
theorem Ready.prepare {s : Surroundings} {files : Files} {o : Options} {config : Config}
    {chosen loaded : List Diagram} (h : Ready s files o config chosen loaded) :
    ∃ notices, prepare s files o =
      .ok ⟨config, chosen ++ loaded, o.directory.getD config.directory, notices⟩ := by
  obtain ⟨⟨told, hconfig⟩, hchosen, hloaded, hdistinct⟩ := h
  have hfront : (chosen.map (·.name)).Nodup :=
    ((List.sublist_append_left _ _).map _).nodup hdistinct
  obtain ⟨found, hadd⟩ := (addLayouts_eq_ok hfront).mpr ⟨loaded, hloaded, rfl, hdistinct⟩
  refine ⟨told ++ found, ?_⟩
  refine Except.bind_eq_ok.mpr ⟨(config, told), Except.mapError_eq_ok.mpr hconfig, ?_⟩
  refine Except.bind_eq_ok.mpr ⟨chosen, Except.mapError_eq_ok.mpr hchosen, ?_⟩
  exact Except.bind_eq_ok.mpr ⟨(chosen ++ loaded, found), hadd, rfl⟩

/-- And only then. -/
theorem ready_of_prepare {s : Surroundings} {files : Files} {o : Options} {plan : Plan}
    (h : Command.prepare s files o = .ok plan) :
    ∃ chosen loaded, Ready s files o plan.config chosen loaded := by
  obtain ⟨⟨config, told⟩, hconfig, h⟩ := Except.bind_eq_ok.mp h
  obtain ⟨chosen, hchosen, h⟩ := Except.bind_eq_ok.mp h
  obtain ⟨⟨ds, found⟩, hadd, h⟩ := Except.bind_eq_ok.mp h
  cases h
  have hknown := Except.mapError_eq_ok.mp hchosen
  have hfront : (chosen.map (·.name)).Nodup :=
    ((Gallery.select_sublist hknown).map _).nodup Gallery.nodup_names
  obtain ⟨loaded, hloaded, rfl, hdistinct⟩ := (addLayouts_eq_ok hfront).mp ⟨found, hadd⟩
  exact ⟨chosen, loaded, ⟨told, Except.mapError_eq_ok.mp hconfig⟩, hknown, hloaded, hdistinct⟩

/-! ### Running -/

section

variable {s : Surroundings} {o : Options} {start : Session}

/-- A run that cannot be prepared does nothing. -/
theorem run_of_not_prepared {e : RunError} (h : Command.prepare s start.files o = .error e) :
    run s o start = (.error e, start) := by
  unfold run
  rw [Job.bind_of_ok (Job.files_apply start), h]
  rfl

theorem run_of_prepared {plan : Plan} (h : Command.prepare s start.files o = .ok plan) :
    run s o start = publish s plan start := by
  unfold run
  rw [Job.bind_of_ok (Job.files_apply start), h]
  rfl

theorem publish_of_no_directory {plan : Plan} {cause : PublishError} {s₁ : Session}
    (h : ensureDirectory plan.directory { start with notices := start.notices ++ plan.notices } =
      (.error cause, s₁)) : publish s plan start = (.error (.publish cause), s₁) := by
  unfold publish
  rw [Job.bind_of_ok (Job.tell_apply _ _), Job.bind_of_error (Job.within_of_error h)]

/-- With a directory, the diagrams are saved in the style that the files give. -/
theorem publish_of_directory {plan : Plan} {directory : String} {s₁ : Session}
    (h : ensureDirectory plan.directory { start with notices := start.notices ++ plan.notices } =
      (.ok directory, s₁)) :
    ∃ notices, publish s plan start =
      (saveAll (plan.config.style s₁.files s.installed).1 plan.config.canvas directory
        plan.diagrams >>= fun _ => pure directory) { s₁ with notices } := by
  refine ⟨s₁.notices ++ (plan.config.style s₁.files s.installed).2, ?_⟩
  unfold publish
  rw [Job.bind_of_ok (Job.tell_apply _ _), Job.bind_of_ok (Job.within_of_ok h),
    Job.bind_of_ok (Job.files_apply _)]
  exact Job.bind_of_ok (Job.tell_apply _ _) _

/-- A run that is ready makes sure of its directory, and then saves its diagrams. -/
theorem run_of_ready {config : Config} {chosen loaded : List Diagram}
    (h : Ready s start.files o config chosen loaded) :
    let ensured := ensureDirectory (o.directory.getD config.directory) { files := start.files }
    let style := (config.style ensured.2.files s.installed).1
    (∀ cause, ensured.1 = .error cause →
      ∃ stop, run s o start = (.error (.publish cause), stop) ∧ stop.files = ensured.2.files) ∧
    ∀ directory, ensured.1 = .ok directory →
      ∃ made : Session, made.files = ensured.2.files ∧ made.device = start.device ∧
        run s o start =
          (saveAll style config.canvas directory (chosen ++ loaded) >>= fun _ => pure directory)
            made := by
  intro ensured style
  obtain ⟨told, hprepare⟩ := h.prepare
  rw [run_of_prepared hprepare]
  generalize hplan : Plan.mk config (chosen ++ loaded) (o.directory.getD config.directory) told =
    plan
  -- the notices of the plan come first; they make no difference to the directory
  obtain ⟨hresult, hfiles, hdevice⟩ := ensureDirectory_apply plan.directory
    { start with notices := start.notices ++ plan.notices }
  rcases hensure : ensureDirectory plan.directory
    { start with notices := start.notices ++ plan.notices } with ⟨r, s₁⟩
  rw [hensure] at hresult hfiles hdevice
  subst hplan
  constructor
  · intro cause hcause
    obtain rfl : r = .error cause := hresult.trans hcause
    exact ⟨s₁, publish_of_no_directory hensure, hfiles⟩
  · intro directory hdirectory
    obtain rfl : r = .ok directory := hresult.trans hdirectory
    obtain ⟨notices, hpublish⟩ := publish_of_directory (s := s) hensure
    have hstyle : (config.style s₁.files s.installed).1 = style :=
      congrArg (fun files => (config.style files s.installed).1) hfiles
    refine ⟨{ s₁ with notices }, hfiles, hdevice, ?_⟩
    rw [hpublish, ← hstyle]

end

/-! ### The whole program -/

section

variable {s : Surroundings} {words : List String} {files : Files} {device : Device} {o : Options}

theorem execute_of_options (hwords : Options.ofWords words = .ok o) (hlist : o.list = false) :
    execute s words files device =
      match run s o { files, device } with
      | (.ok directory, session) =>
        { code := 0, output := "updated infographics in " ++ directory ++ "\n"
          files := session.files }
      | (.error e, session) => { code := 1, errors := e.report, files := session.files } := by
  unfold execute
  rw [hwords]
  dsimp only
  rw [if_neg (by rw [hlist]; exact Bool.false_ne_true)]
  rfl

/-- All names of a run are names that a file can have. -/
theorem Ready.isName {config : Config} {chosen loaded : List Diagram}
    (h : Ready s files o config chosen loaded) :
    ∀ d ∈ chosen ++ loaded, Diagram.isName d.name = true := by
  intro d hd
  rcases List.mem_append.mp hd with hd | hd
  · exact Gallery.isName_of_mem ((Gallery.select_sublist h.known).subset hd)
  · exact Diagram.isName_of_loads h.layouts d hd

/-- Different names give different paths. -/
theorem nodup_paths {ds : List Diagram} (hname : ∀ d ∈ ds, Diagram.isName d.name = true)
    (hdistinct : (ds.map (·.name)).Nodup) (directory : String) :
    (ds.map fun d => joinPath directory d.fileName).Nodup := by
  rw [List.Nodup, List.pairwise_map] at hdistinct ⊢
  refine hdistinct.imp_of_mem ?_
  intro d e hd he hne heq
  exact hne (Diagram.fileName_inj (joinPath_inj (Diagram.plain_fileName (hname d hd))
    (Diagram.plain_fileName (hname e he)) heq))

/-- **A run reads first, and then writes up to the first failure.**  If anything that it reads is
not in order, the run fails and changes nothing.  Else, once there is a directory, the diagrams
are saved in their order, those of the gallery first, at paths that differ.  Either all of them
are saved: then the run succeeds and says so, and there is one more image for each of them, as the
device encoded it.  Or one of them fails: then there are the images of those before it, an empty
file if that one only could not be encoded, and nothing else; and the run fails. -/
theorem execute_up_to_first_failure (s : Surroundings) (words : List String) (files : Files)
    (device : Device) {o : Options} (hwords : Options.ofWords words = .ok o)
    (hlist : o.list = false) :
    let out := execute s words files device
    ((¬ ∃ config chosen loaded, Ready s files o config chosen loaded) →
      out.code = 1 ∧ out.output = "" ∧ out.files = files) ∧
    ∀ config chosen loaded, Ready s files o config chosen loaded →
      let ds := chosen ++ loaded
      let ensured := ensureDirectory (o.directory.getD config.directory) { files }
      let style := (config.style ensured.2.files s.installed).1
      (∀ cause, ensured.1 = .error cause →
        out.code = 1 ∧ out.output = "" ∧ out.files = ensured.2.files) ∧
      ∀ directory, ensured.1 = .ok directory →
        (ds.map fun d => joinPath directory d.fileName).Nodup ∧
        ∃ start, start.files = ensured.2.files ∧ start.device = device ∧
          ((∃ images stop, Saved style config.canvas directory ds images start stop ∧
              images.map (·.1) = ds.map Diagram.fileName ∧
              out.code = 0 ∧ out.output = "updated infographics in " ++ directory ++ "\n" ∧
              ensured.2.files.Gains directory images out.files) ∨
            (∃ before d after images cause reached stop, ds = before ++ d :: after ∧
              Saved style config.canvas directory before images start reached ∧
              images.map (·.1) = before.map Diagram.fileName ∧
              d.save style config.canvas directory reached = (.error cause, stop) ∧
              out.code = 1 ∧ out.output = "" ∧
              out.errors = (RunError.render d.name cause).report ∧
              ensured.2.files.Gains directory (images ++ d.leftBehind cause) out.files)) := by
  intro out
  have hout : out = _ := execute_of_options hwords hlist
  constructor
  · intro hready
    cases hprepare : Command.prepare s files o with
    | ok plan =>
      -- a plan cannot be made of what is not in order
      obtain ⟨chosen, loaded, h⟩ := ready_of_prepare hprepare
      exact absurd ⟨plan.config, chosen, loaded, h⟩ hready
    | error e =>
      have hrun : run s o { files, device } = (.error e, { files, device }) :=
        run_of_not_prepared hprepare
      rw [hout, hrun]
      exact ⟨rfl, rfl, rfl⟩
  · intro config chosen loaded h ds ensured style
    have hrun := @run_of_ready s o { files, device } config chosen loaded h
    constructor
    · -- no directory, no images
      intro cause hcause
      obtain ⟨stop, hstop, hfiles⟩ := hrun.1 cause hcause
      rw [hout, hstop]
      exact ⟨rfl, rfl, hfiles⟩
    · intro directory hdirectory
      refine ⟨nodup_paths h.isName h.distinct directory, ?_⟩
      obtain ⟨start, hfiles, hdevice, hsaving⟩ := hrun.2 directory hdirectory
      refine ⟨start, hfiles, hdevice, ?_⟩
      have hgains : ensured.2.files.Gains directory [] start.files := by
        rw [hfiles]
        exact .refl _ _
      rcases saveAll_cases style config.canvas directory ds start with
        ⟨images, stop, hsave, hsaved⟩ |
        ⟨before, d, after, images, cause, reached, stop, hds, hsaved, hfail, hsave⟩
      · -- all diagrams are saved
        refine .inl ⟨images, stop, hsaved, hsaved.names, ?_⟩
        have hall := hsaved.gains h.isName h.distinct hgains fun _ _ => List.forall_mem_nil _
        rw [hout, hsaving.trans (Job.bind_of_ok hsave _)]
        exact ⟨rfl, rfl, hall⟩
      · -- `d` is the first one that is not
        refine .inr ⟨before, d, after, images, cause, reached, stop, hds, hsaved, hsaved.names,
          hfail, ?_⟩
        have hname : ∀ e ∈ ds, Diagram.isName e.name = true := h.isName
        have hdistinct : (ds.map (·.name)).Nodup := h.distinct
        rw [hds] at hname hdistinct
        have hall := hsaved.gains_up_to_failure hfail hname hdistinct hgains
        rw [hout, hsaving.trans (Job.bind_of_error hsave _)]
        exact ⟨rfl, rfl, rfl, hall⟩

/-- An unknown name changes nothing.  A surface that cannot be made leaves an empty directory
behind. -/
theorem execute_up_to_first_failure_of_refused_surface :
    let files : Files := ⟨["home"], [(["home"], .directory)]⟩
    let unknown := execute { home := "/" } ["--only", "tea"] files
    let refused := execute { home := "/" } ["--only", "architecture"] files { refusing := some 0 }
    (Options.ofWords ["--only", "tea"] = .ok { only := ["tea"] } ∧
      (¬ ∃ config chosen loaded,
        Ready { home := "/" } files { only := ["tea"] } config chosen loaded) ∧
      unknown.code = 1 ∧ unknown.output = "" ∧ unknown.files = files) ∧
    (Options.ofWords ["--only", "architecture"] = .ok { only := ["architecture"] } ∧
      Ready { home := "/" } files { only := ["architecture"] } {} [Gallery.architecture] [] ∧
      refused.code = 1 ∧ refused.output = "" ∧
      refused.errors =
        (RunError.render "architecture" (.notDrawn "architecture" .device)).report ∧
      (ensureDirectory "docs/launch" { files }).1 = .ok "/home/docs/launch" ∧
      (ensureDirectory "docs/launch" { files }).2.files.Gains "/home/docs/launch" []
        refused.files) := by
  intro files unknown refused
  have hunknown : ¬ ∃ config chosen loaded,
      Ready { home := "/" } files { only := ["tea"] } config chosen loaded := by
    rintro ⟨config, chosen, loaded, h⟩
    have hknown := h.known
    rw [show Gallery.select ["tea"] = .error "tea" by rfl] at hknown
    cases hknown
  have hready : Ready { home := "/" } files { only := ["architecture"] } {}
      [Gallery.architecture] [] :=
    ⟨⟨_, by rfl⟩, by rfl, .nil, by decide⟩
  refine ⟨⟨by rfl, hunknown, ?_⟩, ⟨by rfl, hready, ?_⟩⟩
  · exact (execute_up_to_first_failure { home := "/" } ["--only", "tea"] files {} rfl rfl).1 hunknown
  · have hrun := (execute_up_to_first_failure { home := "/" } ["--only", "architecture"] files
      { refusing := some 0 } rfl rfl).2 {} [Gallery.architecture] [] hready
    obtain ⟨-, ⟨f, device, notices⟩, hfiles, hdevice, hcases⟩ :=
      hrun.2 "/home/docs/launch" (by rfl)
    obtain rfl : f = _ := hfiles
    obtain rfl : device = _ := hdevice
    obtain ⟨images, stop, hsaved, -⟩ |
      ⟨before, d, after, images, cause, reached, stop, hds, hbefore, -, hfail, hcode, houtput,
        herrors, hgains⟩ := hcases
    · cases hsaved with
      | cons head tail =>
        have hok : Except.error (PublishError.notDrawn "architecture" .device) = Except.ok _ :=
          congrArg Prod.fst head
        cases hok
    · -- the only diagram is the one that fails
      cases before with
      | cons e rest =>
        obtain ⟨-, hnil⟩ := List.cons.inj hds
        exact absurd hnil (by simp)
      | nil =>
        obtain ⟨rfl, -⟩ := List.cons.inj hds
        cases hbefore
        have hcause : Except.error (.notDrawn "architecture" .device) = Except.error cause :=
          congrArg Prod.fst hfail
        cases hcause
        exact ⟨hcode, houtput, herrors, by rfl, hgains⟩

end

end Command

end Placard
