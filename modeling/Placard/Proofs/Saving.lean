/-
Placard/Proofs/Saving.lean

Drawing a diagram and saving the drawing, with and without a refused call.

`Diagram.save` draws first and then stores the drawing (`Diagram.store`).  Only storing
encodes an image, so the two halves tell their calls apart, and `Diagram.save_refused` says
for every call what refusing it leads to.
-/
import Placard.Proofs.Refusal

namespace Placard

/-! ### Calls of a drawing -/

theorem Primitive.ne_writePng_of_mem_script {ascentOf : Font → Float} {p : Primitive} {c : Call}
    (h : c ∈ p.script ascentOf) : c ≠ .writePng := by
  rintro rfl
  cases p with
  | roundedRect bounds radius fill outline width =>
    rcases fill with - | fill <;> rcases outline with - | outline <;>
      simp [script, figureScript, Contour.path, fillScript, outlineScript] at h
  | text position content color font =>
    cases hr : font.request? <;> simp [script, lineScript, hr] at h
  | line start stop color width => simp [script, figureScript] at h
  | polygon corners color =>
    cases corners with
    | nil => simp [script, figureScript] at h
    | cons p rest => simp [script, figureScript] at h
  | ellipse bounds color => simp [script, figureScript] at h

theorem Primitive.items_plan_subset (ascentOf : Font → Float) (p : Primitive) :
    (p.plan ascentOf).items ⊆ p.script ascentOf := by
  unfold plan
  cases p.fault? with
  | some e => exact List.nil_subset _
  | none => exact fun _ h => h

/-- No shape encodes an image. -/
theorem Shape.ne_writePng_of_mem_planAll {ascentOf : Font → Float} {style : Style}
    {shapes : List Shape} {c : Call} (h : c ∈ (planAll ascentOf style shapes).items) :
    c ≠ .writePng := by
  obtain ⟨t, ht, hc⟩ := Trace.mem_items_all h
  obtain ⟨s, -, rfl⟩ := List.mem_map.mp ht
  obtain ⟨p, -, hp⟩ := Trace.mem_items_expand hc
  exact Primitive.ne_writePng_of_mem_script (p.items_plan_subset ascentOf hp)

namespace Canvas

theorem plan_of_ok {size : CanvasSize} {area : Rect} (h : size.area = .ok area)
    (background : Color) : plan size background = ⟨opening size background, .ok area⟩ := by
  rw [plan, h]

theorem plan_of_error {size : CanvasSize} {e : Fault} (h : size.area = .error e)
    (background : Color) : plan size background = ⟨[], .error e⟩ := by
  rw [plan, h]
  rfl

theorem ne_writePng_of_mem_plan {size : CanvasSize} {background : Color} {c : Call}
    (h : c ∈ (plan size background).items) : c ≠ .writePng := by
  cases ha : size.area with
  | error e =>
    rw [plan_of_error ha] at h
    cases h
  | ok area =>
    rw [plan_of_ok ha] at h
    rintro rfl
    simp [opening] at h

end Canvas

namespace Diagram

variable (style : Style) (size : CanvasSize) (directory : String) (d : Diagram)

/-! ### The two halves of saving -/

/-- What is done with a finished drawing: it is put into a file of the directory. -/
def store (size : CanvasSize) (directory : String) (d : Diagram) : Job PublishError String := do
  let path := joinPath directory d.fileName
  Job.tell [.saving d.name size path]
  Job.within (.notDrawn d.name) (Job.perform (Drawing.make Canvas.finish))
  let location ← Job.within (.noFile path) (Job.change fun files => files.create path)
  let image ← Job.within (fun _ => .notEncoded) (Job.perform Drawing.encode)
  Job.update fun files => files.write location image
  Job.tell [.saved path]
  return path

theorem save_eq : d.save style size directory =
    Job.within (.notDrawn d.name) (d.draw style size) >>= fun _ => d.store size directory := rfl

/-- What is done with the empty file that was made for the image. -/
def fillFile (path : String) (location : Location) : Job PublishError String := do
  let image ← Job.within (fun _ => .notEncoded) (Job.perform Drawing.encode)
  Job.update fun files => files.write location image
  Job.tell [.saved path]
  return path

/-- Making a file for the image, and filling it. -/
def makeFile (path : String) : Job PublishError String := do
  let location ← Job.within (.noFile path) (Job.change fun files => files.create path)
  fillFile path location

theorem store_eq : d.store size directory =
    Job.tell [.saving d.name size (joinPath directory d.fileName)] >>= fun _ =>
      Job.within (.notDrawn d.name) (Job.perform (Drawing.make [.surfaceFlush])) >>= fun _ =>
        makeFile (joinPath directory d.fileName) := rfl

/-- Filling a file encodes the image, which may fail, and then writes it. -/
theorem fillFile_cases (path : String) (l : Location) (s : Session) :
    (∃ s', fillFile path l s = (.error .notEncoded, s') ∧ s'.files = s.files ∧
      s'.device = s.device.record [.writePng]) ∨
    (∃ s', fillFile path l s = (.ok path, s') ∧ s'.files = s.files.write l s'.device.image ∧
      s'.device = s.device.record [.writePng]) := by
  have hencode := Job.perform_apply Drawing.encode s
  rw [Drawing.run_encode] at hencode
  unfold fillFile
  cases hcall : (s.device.call .writePng).1 with
  | false =>
    rw [hcall] at hencode
    rw [Job.bind_of_error (Job.within_of_error hencode)]
    exact .inl ⟨_, rfl, rfl, rfl⟩
  | true =>
    rw [hcall] at hencode
    rw [Job.bind_of_ok (Job.within_of_ok hencode)]
    exact .inr ⟨_, rfl, rfl, rfl⟩

/-- A file that cannot be made ends the job, and one that is made is filled. -/
theorem makeFile_cases (path : String) (s : Session) :
    (∃ e, s.files.create path = .error e ∧ makeFile path s = (.error (.noFile path e), s)) ∨
    (∃ l g, s.files.create path = .ok (l, g) ∧
      makeFile path s = fillFile path l { s with files := g }) := by
  unfold makeFile
  cases hc : s.files.create path with
  | error e =>
    rw [Job.bind_of_error (Job.within_of_error (Job.change_of_error hc))]
    exact .inl ⟨e, rfl, rfl⟩
  | ok made =>
    obtain ⟨l, g⟩ := made
    rw [Job.bind_of_ok (Job.within_of_ok (Job.change_of_ok hc))]
    exact .inr ⟨l, g, rfl, rfl⟩

/-- The surface is flushed before there is a file, which always works. -/
theorem store_flushes (size : CanvasSize) (directory : String) (d : Diagram) (s : Session) :
    ∃ flushed, d.store size directory s = makeFile (joinPath directory d.fileName) flushed ∧
      flushed.files = s.files ∧ flushed.device = s.device.record [.surfaceFlush] := by
  rw [store_eq, Job.bind_of_ok (Job.tell_apply _ _)]
  generalize htold : ({ s with notices := _ } : Session) = told
  have hflush := Job.perform_apply (Drawing.make [.surfaceFlush]) told
  rw [Device.run_make, Device.play_singleton, Device.call_of_infallible rfl] at hflush
  rw [Job.bind_of_ok (Job.within_of_ok hflush), ← htold]
  exact ⟨_, rfl, rfl, rfl⟩

variable {style size d}

/-- A finished drawing is stored in the session in which it ended. -/
theorem save_of_drawn {s s₁ : Session} {a : Unit} (h : d.draw style size s = (.ok a, s₁)) :
    d.save style size directory s = d.store size directory s₁ := by
  rw [save_eq]
  exact Job.bind_of_ok (Job.within_of_ok h) _

/-- A drawing that failed is not stored. -/
theorem save_of_not_drawn {s s₁ : Session} {e : DrawError}
    (h : d.draw style size s = (.error e, s₁)) :
    d.save style size directory s = (.error (.notDrawn d.name e), s₁) := by
  rw [save_eq]
  exact Job.bind_of_error (Job.within_of_error h) _

/-! ### Without a refused call -/

/-- Drawing is making the canvas, warning of what leaves it, and carrying out the plans of all
shapes. -/
theorem draw_of_area {area : Rect} (ha : size.area = .ok area) {s : Session}
    (hs : s.device.refusing = none) :
    let shapes := Shape.planAll s.device.backend.ascentOf style d.shapes
    d.draw style size s = (shapes.outcome.mapError .geometry,
      { s with
        device := s.device.record (Canvas.opening size style.theme.background ++ shapes.items)
        notices := s.notices ++ d.warnings size area }) := by
  intro shapes
  have hcreate : Job.perform (Canvas.create size style.theme.background) s = (.ok area,
      { s with device := s.device.record (Canvas.opening size style.theme.background) }) := by
    rw [Job.perform_apply, (Canvas.follows_create _ _).run_of_refusing_none hs,
      Canvas.plan_of_ok ha]
    rfl
  have hcanvas : (s.device.record (Canvas.opening size style.theme.background)).refusing = none :=
    hs
  unfold draw
  rw [Job.bind_of_ok hcreate, Job.bind_of_ok (Job.tell_apply _ _), Job.perform_apply]
  rw [(Shape.follows_drawAll style d.shapes).run_of_refusing_none hcanvas,
    Device.ascentOf_record_opening, Device.record_record]

/-- Without a canvas nothing is drawn. -/
theorem draw_of_no_area {e : Fault} (ha : size.area = .error e) {s : Session}
    (hs : s.device.refusing = none) : d.draw style size s = (.error (.geometry e), s) := by
  have hcreate : Job.perform (Canvas.create size style.theme.background) s =
      (.error (.geometry e), s) := by
    rw [Job.perform_apply, (Canvas.follows_create _ _).run_of_refusing_none hs,
      Canvas.plan_of_error ha, Device.record_nil]
    rfl
  exact Job.bind_of_error hcreate _

/-- Storing a finished drawing makes two more calls, if there is a file for it. -/
theorem recording_save_of_drawn {s s₁ : Session} {a : Unit}
    (h : d.draw style size s = (.ok a, s₁)) {made : Location × Files}
    (hmade : s₁.files.create (joinPath directory d.fileName) = .ok made) :
    (d.save style size directory s).2.device.recording =
      s₁.device.recording ++ [.surfaceFlush, .writePng] := by
  obtain ⟨flushed, hstore, hfiles, hdevice⟩ := store_flushes size directory d s₁
  rw [save_of_drawn directory h, hstore]
  rcases makeFile_cases (joinPath directory d.fileName) flushed with ⟨e, hcreate, -⟩ |
    ⟨l, g, -, hmake⟩
  · rw [hfiles, hmade] at hcreate
    cases hcreate
  · rw [hmake]
    have hrecorded : ∀ s', s'.device = (flushed.device.record [.writePng]) →
        (s' : Session).device.recording = s₁.device.recording ++ [.surfaceFlush, .writePng] := by
      intro s' hs'
      rw [hs', hdevice, Device.record_record, Device.recording_record]
      rfl
    rcases fillFile_cases (joinPath directory d.fileName) l { flushed with files := g } with
      ⟨s', hfill, -, hs'⟩ | ⟨s', hfill, -, hs'⟩
    · rw [hfill]
      exact hrecorded s' hs'
    · rw [hfill]
      exact hrecorded s' hs'

variable (style size d)

/-! ### Refused calls -/

open Job

/-- A refused call ends a drawing with the error of the device. -/
theorem draw_stops : StopsWhenRefused (fun c e => c ≠ .writePng ∧ e = .device)
    (d.draw style size) := by
  refine .bind ?_ fun area => .bind (.ofOffline (.tell _)) fun _ => ?_
  · refine (StopsWhenRefused.perform (Canvas.follows_create _ _)).mono ?_
    rintro c e ⟨⟨_, hc⟩, -, rfl⟩
    exact ⟨Canvas.ne_writePng_of_mem_plan hc, rfl⟩
  · refine (StopsWhenRefused.perform (Shape.follows_drawAll _ _)).mono ?_
    rintro c e ⟨⟨_, hc⟩, -, rfl⟩
    exact ⟨Shape.ne_writePng_of_mem_planAll hc, rfl⟩

/-- The only call of storing that can be refused is the one that encodes the image. -/
theorem store_stops : StopsWhenRefused (fun c e => c = .writePng ∧ e = .notEncoded)
    (d.store size directory) := by
  refine .bind (.ofOffline (.tell _)) fun _ => .bind ?_ fun _ => ?_
  · refine ((StopsWhenRefused.perform (Drawing.follows_make _)).within _).mono ?_
    rintro c e ⟨_, ⟨⟨_, hc⟩, hf, -⟩, -⟩
    cases List.mem_singleton.mp hc
    cases hf
  refine .bind ((StopsWhenRefused.ofOffline (R := fun _ _ => False) (.change _)).within _ |>.mono ?_)
    fun location => .bind ?_ fun _ => .bind (.ofOffline (.update _)) fun _ =>
      .bind (.ofOffline (.tell _)) fun _ => .ofOffline (.pure _)
  · rintro c e ⟨e', h, -⟩
    exact h.elim
  · refine (StopsWhenRefused.perform_encode.within _).mono ?_
    rintro c e ⟨e', ⟨hc, -⟩, rfl⟩
    exact ⟨hc, rfl⟩

theorem save_stops : StopsWhenRefused (fun c e => (c ≠ .writePng ∧ e = .notDrawn d.name .device) ∨
    (c = .writePng ∧ e = .notEncoded)) (d.save style size directory) := by
  rw [save_eq]
  refine .bind (((draw_stops style size d).within _).mono ?_)
    fun _ => (store_stops size directory d).mono ?_
  · rintro c e ⟨e', ⟨hc, rfl⟩, rfl⟩
    exact .inl ⟨hc, rfl⟩
  · rintro c e h
    exact .inr h

/-- Call number `n` of saving is a call of the drawing, or it is the one that encodes. -/
theorem call_of_save {s : Session} {n : Nat} {c : Call} (hs : s.device.refusing = none)
    (hn : s.device.recording.length ≤ n)
    (hc : (d.save style size directory s).2.device.recording[n]? = some c)
    (hf : c.fallible = true) :
    (n < (d.draw style size s).2.device.recording.length → c ≠ .writePng) ∧
    ((d.draw style size s).2.device.recording.length ≤ n → c = .writePng) := by
  have hdraw := draw_stops style size d
  rcases hd : d.draw style size s with ⟨e | a, s₁⟩
  · rw [save_of_not_drawn directory hd] at hc
    refine ⟨fun _ => ?_, fun hle => ?_⟩
    · obtain ⟨-, e', -, hne, -⟩ := hdraw.refused hs hn (by rw [hd]; exact hc) hf
      exact hne
    · exact absurd (List.getElem?_eq_some_iff.mp hc).1 (Nat.not_lt.mpr hle)
  · have hkeep : s₁.device.refusing = none := by
      have := hdraw.keeps hs
      rwa [hd] at this
    rw [save_of_drawn directory hd] at hc
    have hstore := store_stops size directory d
    refine ⟨fun hlt => ?_, fun hle => ?_⟩
    · rw [hstore.getElem?_of_lt hkeep hlt] at hc
      obtain ⟨-, e', -, hne, -⟩ := hdraw.refused hs hn (by rw [hd]; exact hc) hf
      exact hne
    · obtain ⟨-, e', -, heq, -⟩ := hstore.refused hkeep hle hc hf
      exact heq

/-- **Refusing call number `n`.**  If saving makes that call and it can fail, the calls up to and
including it are made and no others; the error is that of the drawing for a call of the drawing,
and that of the encoder for the only other call that can fail.  In every other case nothing
changes: not the calls, not the result, not the files and not the notices. -/
theorem save_refused (backend : Backend) (files : Files) (n : Nat) :
    let plain := d.save style size directory { files, device := { backend } }
    let refused := d.save style size directory
      { files, device := { backend, refusing := some n } }
    let drawn := (d.draw style size { files, device := { backend } }).2.device.recording
    let recorded := plain.2.device.recording
    (∀ c, recorded[n]? = some c → c.fallible = true →
      refused.2.device.recording = recorded.take (n + 1) ∧
      (n < drawn.length → c ≠ .writePng ∧ refused.1 = .error (.notDrawn d.name .device)) ∧
      (drawn.length ≤ n → c = .writePng ∧ refused.1 = .error .notEncoded)) ∧
    ((∀ c, recorded[n]? = some c → c.fallible = false) →
      refused = (plain.1, plain.2.refuse n)) := by
  intro plain refused drawn recorded
  have hs : ({ files, device := { backend } } : Session).device.refusing = none := rfl
  have h := save_stops style size directory d
  constructor
  · intro c hc hf
    obtain ⟨hrec, e, he, hR⟩ := h.refused hs (Nat.zero_le n) hc hf
    obtain ⟨hin, hout⟩ := call_of_save style size directory d hs (Nat.zero_le n) hc hf
    refine ⟨hrec, fun hlt => ⟨hin hlt, ?_⟩, fun hle => ⟨hout hle, ?_⟩⟩
    · rcases hR with ⟨-, rfl⟩ | ⟨hw, -⟩
      · exact he
      · exact absurd hw (hin hlt)
    · rcases hR with ⟨hw, -⟩ | ⟨-, rfl⟩
      · exact absurd (hout hle) hw
      · exact he
  · intro hc
    have hsame := h.spared (n := n) hs fun c _ => hc c
    exact hsame

/-- A heading in the built-in face: call number 8 asks for the extents of the font and belongs to
the drawing, call number 23 encodes the image, and there is no call number 24. -/
theorem save_refused_of_header :
    let save := fun device : Device =>
      (withHeader "note" "Note" "").save .plain {} "" ⟨⟨[], []⟩, device, []⟩
    let recorded := (save {}).2.device.recording
    (recorded[8]? = some .fontExtents ∧ Call.fontExtents.fallible = true ∧
      (save { refusing := some 8 }).2.device.recording = recorded.take 9 ∧
      (save { refusing := some 8 }).1 = .error (.notDrawn "note" .device)) ∧
    (recorded[23]? = some .writePng ∧ Call.writePng.fallible = true ∧
      (save { refusing := some 23 }).2.device.recording = recorded.take 24 ∧
      (save { refusing := some 23 }).1 = .error .notEncoded) ∧
    recorded[24]? = none ∧ (save { refusing := some 24 }).1 = (save {}).1 := by
  have hlaw := save_refused .plain {} "" (withHeader "note" "Note" "") .standIn ⟨[], []⟩
  have hdraw := @draw_of_area .plain {} (withHeader "note" "Note" "") _ rfl
    { files := ⟨[], []⟩ } rfl
  have hrecorded := recording_save_of_drawn "" hdraw rfl
  have hdrawn : (draw .plain {} (withHeader "note" "Note" "")
      { files := ⟨[], []⟩ }).2.device.recording.length = 22 := by
    rw [hdraw]
    rfl
  dsimp only at hlaw ⊢
  rw [hdrawn] at hlaw
  -- from here on only the recording counts, not how it came about
  generalize save .plain {} "" (withHeader "note" "Note" "") { files := ⟨[], []⟩ } = saved
    at hlaw hrecorded ⊢
  have hextents : saved.2.device.recording[8]? = some .fontExtents := by rw [hrecorded]; rfl
  have hencode : saved.2.device.recording[23]? = some .writePng := by rw [hrecorded]; rfl
  have hend : saved.2.device.recording[24]? = none := by rw [hrecorded]; rfl
  refine ⟨⟨hextents, rfl, ?_⟩, ⟨hencode, rfl, ?_⟩, hend, ?_⟩
  · obtain ⟨hrec, hin, -⟩ := (hlaw 8).1 _ hextents rfl
    exact ⟨hrec, (hin (by decide)).2⟩
  · obtain ⟨hrec, -, hout⟩ := (hlaw 23).1 _ hencode rfl
    exact ⟨hrec, (hout (by decide)).2⟩
  · have hsame := (hlaw 24).2 (by
      intro c hc
      rw [hend] at hc
      cases hc)
    rw [hsame]

end Diagram

end Placard
