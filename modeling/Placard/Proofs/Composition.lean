/-
Placard/Proofs/Composition.lean

A diagram is drawn shape by shape.

`Shape.alone` is what a shape does on a canvas that nothing else is drawn on: how drawing it
ends, and the calls it makes.  `Diagram.draw_shape_by_shape` puts the drawing of a whole
diagram together from these: after the calls that make the canvas come the calls of each shape
in turn, up to the first shape that cannot be drawn.  The device is asked for the extents of its
font on the way, and all shapes share its state; still nothing that was drawn before and no size of
the canvas makes a difference to what a shape does.
-/
import Placard.Proofs.CleanContext

namespace Placard

/-! ### Traces in a row -/

namespace Trace

variable {ι : Type}

/-- Traces that all succeed are taken one after the other. -/
theorem all_of_ok {ts : List (Trace ι Unit)} (h : ∀ t ∈ ts, t.outcome = .ok ()) :
    all ts = ⟨ts.flatMap (·.items), .ok ()⟩ := by
  induction ts with
  | nil => rfl
  | cons t rest ih =>
    rw [all, andThen_of_ok (h t List.mem_cons_self)]
    rw [ih fun u hu => h u (List.mem_cons_of_mem t hu), List.flatMap_cons]

/-- However traces end, more of them only add steps; and if they all succeed, these are the
steps of the others. -/
theorem items_all_append (a b : List (Trace ι Unit)) :
    ∃ more, (all (a ++ b)).items = (all a).items ++ more := by
  rw [all_append]
  cases ho : (all a).outcome with
  | error e => exact ⟨[], by rw [andThen_of_error ho, List.append_nil]⟩
  | ok u => exact ⟨(all b).items, by rw [andThen_of_ok ho]⟩

end Trace

/-! ### A shape alone -/

/-- How drawing a shape ends on a canvas of its own, and the calls that it makes there. -/
def Shape.alone (backend : Backend) (style : Style) (size : CanvasSize) (t : Shape) :
    Except DrawError Unit × List Call :=
  let canvas := Device.blank backend size style.theme.background
  let (result, device) := canvas.run (t.draw style)
  (result, device.recording.drop canvas.recording.length)

namespace Shape

variable {backend : Backend} {style : Style} {size : CanvasSize} {t : Shape}

theorem alone_eq : t.alone backend style size =
    ((t.plan backend.ascentOf style).outcome.mapError .geometry,
      (t.plan backend.ascentOf style).items) := by
  have hcanvas := Device.blank_refusing backend size style.theme.background
  simp only [alone, (follows_draw style t).run_of_refusing_none hcanvas, Device.ascentOf_blank,
    Device.recording_record, List.drop_left]

/-- On every device that refuses nothing and has the coordinate system of its surface, a shape does
what it does alone: no font that is in force there makes a difference. -/
theorem run_draw {device : Device} (h : device.refusing = none)
    (hbackend : device.backend = backend) (htransform : device.context.pen.transform = []) :
    device.run (t.draw style) = ((t.alone backend style size).1,
      device.record (t.alone backend style size).2) := by
  rw [(follows_draw style t).run_of_refusing_none h, Device.ascentOf_of_transform htransform,
    hbackend, alone_eq]

theorem outcome_of_alone_ok (h : (t.alone backend style size).1 = .ok ()) :
    (t.plan backend.ascentOf style).outcome = .ok () := by
  rw [alone_eq] at h
  exact Except.mapError_eq_ok.mp h

theorem outcome_of_alone_error {e : DrawError} (h : (t.alone backend style size).1 = .error e) :
    ∃ fault, (t.plan backend.ascentOf style).outcome = .error fault ∧ e = .geometry fault := by
  rw [alone_eq] at h
  cases ho : (t.plan backend.ascentOf style).outcome with
  | error fault =>
    rw [ho] at h
    cases h
    exact ⟨fault, rfl, rfl⟩
  | ok u => rw [ho] at h; cases h

/-- Shapes that can all be drawn alone. -/
theorem planAll_of_alone_ok {shapes : List Shape}
    (h : ∀ t ∈ shapes, (t.alone backend style size).1 = .ok ()) :
    planAll backend.ascentOf style shapes =
      ⟨shapes.flatMap fun t => (t.alone backend style size).2, .ok ()⟩ := by
  have halone : (fun t : Shape => (t.alone backend style size).2) =
      fun t => (t.plan backend.ascentOf style).items :=
    funext fun t => by rw [alone_eq]
  rw [planAll, Trace.all_of_ok, List.flatMap_map, halone]
  intro u hu
  obtain ⟨t, ht, rfl⟩ := List.mem_map.mp hu
  exact outcome_of_alone_ok (h t ht)

/-- The first shape that cannot be drawn alone is the last one that anything is drawn of. -/
theorem planAll_of_alone_error {before after : List Shape} {e : DrawError}
    (hbefore : ∀ u ∈ before, (u.alone backend style size).1 = .ok ())
    (ht : (t.alone backend style size).1 = .error e) :
    ∃ fault, e = .geometry fault ∧ planAll backend.ascentOf style (before ++ t :: after) =
      ⟨(before.flatMap fun u => (u.alone backend style size).2) ++
        (t.alone backend style size).2, .error fault⟩ := by
  obtain ⟨fault, hfault, rfl⟩ := outcome_of_alone_error ht
  refine ⟨fault, rfl, ?_⟩
  have hfirst := planAll_of_alone_ok hbefore
  rw [planAll] at hfirst
  rw [planAll, List.map_append, Trace.all_append, hfirst, Trace.andThen_of_ok rfl, List.map_cons,
    Trace.all, Trace.andThen_of_error hfault, alone_eq]

end Shape

/-! ### After other steps -/

/-- Whatever is drawn on a new canvas, it keeps the coordinate system of its surface. -/
theorem Canvas.transform_follow (backend : Backend) (size : CanvasSize) (background : Color)
    (steps : List Step) :
    (follow (Device.blank backend size background) steps).context.pen.transform = [] := by
  rw [follow_eq_record (Device.blank_refusing backend size background),
    (Primitive.steady_scripts _ _).transform_record, Device.transform_blank]

/-- So every shape finds a device there on which it does what it does alone. -/
theorem Shape.run_draw_after_steps (backend : Backend) (style : Style) (own size : CanvasSize)
    (background : Color) (steps : List Canvas.Step) (t : Shape) :
    let device := Canvas.follow (Device.blank backend size background) steps
    device.run (t.draw style) = ((t.alone backend style own).1,
      device.record (t.alone backend style own).2) := by
  intro device
  have hdevice : device = _ :=
    Canvas.follow_eq_record (Device.blank_refusing backend size background) steps
  refine run_draw ?_ ?_ (Canvas.transform_follow backend size background steps)
  · rw [hdevice]
    exact Device.blank_refusing backend size background
  · rw [hdevice]
    exact Device.blank_backend backend size background

/-! ### The whole drawing -/

theorem CanvasSize.area_of_pos {size : CanvasSize} (hw : 0 < size.width.val)
    (hh : 0 < size.height.val) : ∃ area, size.area = .ok area := by
  unfold area
  rw [dif_neg (by omega)]
  exact ⟨_, rfl⟩

namespace Diagram

variable (style : Style) (size own : CanvasSize) (d : Diagram)

/-- The calls of a drawing: those that make the canvas, and those that its shapes plan. -/
theorem recording_draw {area : Rect} (ha : size.area = .ok area) {s : Session}
    (hs : s.device.refusing = none) :
    (d.draw style size s).2.device.recording =
      s.device.recording ++ Canvas.opening size style.theme.background ++
        (Shape.planAll s.device.backend.ascentOf style d.shapes).items := by
  rw [draw_of_area ha hs, Device.recording_record, List.append_assoc]

/-- More shapes come after all others. -/
theorem recording_draw_add {area : Rect} (ha : size.area = .ok area) {s : Session}
    (hs : s.device.refusing = none) (shapes : List Shape) :
    ∃ more, ((d.add shapes).draw style size s).2.device.recording =
      (d.draw style size s).2.device.recording ++ more := by
  let plan := Shape.plan s.device.backend.ascentOf style
  obtain ⟨more, hmore⟩ := Trace.items_all_append (d.shapes.map plan) (shapes.map plan)
  have hadded : (Shape.planAll s.device.backend.ascentOf style (d.add shapes).shapes).items =
      (Shape.planAll s.device.backend.ascentOf style d.shapes).items ++ more := by
    show (Trace.all ((d.shapes ++ shapes).map plan)).items = _
    rw [List.map_append, hmore]
    rfl
  refine ⟨more, ?_⟩
  rw [recording_draw style size _ ha hs, recording_draw style size _ ha hs, hadded]
  exact (List.append_assoc _ _ _).symm

/-- **Drawing shape by shape.**  On a device that refuses nothing, a diagram makes the four calls
that make its canvas and then the calls that each of its shapes makes alone, in their order.  The
first shape that cannot be drawn alone ends the drawing with the same error, after the calls that
it makes before it fails.

What a shape does depends on nothing that was done before.  It does the same on every device that
is in the coordinate system of its surface, with whatever font in force, and so after any steps on a
canvas of any size, also after some that failed.  So shapes put on top of a diagram only add
calls. -/
theorem draw_shape_by_shape (hw : 0 < size.width.val) (hh : 0 < size.height.val) (s : Session)
    (hs : s.device.refusing = none) :
    let drawing := d.draw style size s
    let backend := s.device.backend
    let alone := Shape.alone backend style own
    let canvas := s.device.recording ++ [.surfaceCreate size.width size.height, .contextNew,
      .setSource style.theme.background, .paint]
    ((∀ t ∈ d.shapes, (alone t).1 = .ok ()) →
      drawing.1 = .ok () ∧ drawing.2.device.recording =
        canvas ++ d.shapes.flatMap fun t => (alone t).2) ∧
    (∀ before t after e, d.shapes = before ++ t :: after →
      (∀ u ∈ before, (alone u).1 = .ok ()) → (alone t).1 = .error e →
      drawing.1 = .error e ∧ drawing.2.device.recording =
        canvas ++ (before.flatMap fun u => (alone u).2) ++ (alone t).2) ∧
    (∀ (t : Shape) (device : Device), device.refusing = none → device.backend = backend →
      device.context.pen.transform = [] →
      (device.run (t.draw style)).1 = (alone t).1 ∧
      (device.run (t.draw style)).2.recording = device.recording ++ (alone t).2) ∧
    (∀ (t : Shape) (other : CanvasSize) (background : Color) (steps : List Canvas.Step),
      let device := Canvas.follow (Device.blank backend other background) steps
      (device.run (t.draw style)).1 = (alone t).1 ∧
      (device.run (t.draw style)).2.recording = device.recording ++ (alone t).2) ∧
    (∀ shapes, ∃ more, ((d.add shapes).draw style size s).2.device.recording =
      drawing.2.device.recording ++ more) := by
  intro drawing backend alone canvas
  obtain ⟨area, ha⟩ := CanvasSize.area_of_pos hw hh
  have hdraw : drawing = _ := draw_of_area ha hs
  have hrecording : drawing.2.device.recording =
      canvas ++ (Shape.planAll backend.ascentOf style d.shapes).items :=
    recording_draw style size d ha hs
  refine ⟨?_, ?_, ?_, ?_, recording_draw_add style size d ha hs⟩
  · -- no shape stops the drawing
    intro hok
    have hall := Shape.planAll_of_alone_ok hok
    rw [hrecording, hdraw, hall]
    exact ⟨rfl, rfl⟩
  · -- `t` is the first one that does
    intro before t after e hshapes hbefore ht
    obtain ⟨fault, rfl, hall⟩ := Shape.planAll_of_alone_error hbefore ht
    rw [← hshapes] at hall
    rw [hrecording, hdraw, hall]
    exact ⟨rfl, (List.append_assoc _ _ _).symm⟩
  · intro t device hdevice hbackend htransform
    rw [@Shape.run_draw backend style own t device hdevice hbackend htransform]
    exact ⟨rfl, Device.recording_record _ _⟩
  · intro t other background steps device
    have hrun : device.run (t.draw style) = _ :=
      Shape.run_draw_after_steps backend style own other background steps t
    rw [hrun]
    exact ⟨rfl, Device.recording_record _ _⟩

/-- A title, a line below it, a panel without a width, and a text that is never reached. -/
theorem draw_shape_by_shape_of_empty_panel :
    let header := (withHeader "note" "Note" "").shapes
    let panel : Shape := .panel 10 10 0 40 none
    let late : Shape := .text 0 0 "late" .body .text
    let drawing := (⟨"note", header ++ panel :: [late]⟩ : Diagram).draw .plain {}
      { files := ⟨[], []⟩ }
    let alone := Shape.alone .standIn .plain {}
    (∀ u ∈ header, (alone u).1 = .ok ()) ∧
    (alone panel).1 = .error (.geometry (.emptyRect 10 10 0 40)) ∧
    drawing.1 = .error (.geometry (.emptyRect 10 10 0 40)) ∧
    drawing.2.device.recording =
      [.surfaceCreate 1536 1024, .contextNew, .setSource Theme.standard.background, .paint] ++
        header.flatMap fun u => (alone u).2 := by
  have hheader : ∀ u ∈ (withHeader "note" "Note" "").shapes,
      (Shape.alone .standIn .plain {} u).1 = .ok () := by
    intro u hu
    rw [Shape.alone_eq]
    rcases List.mem_cons.mp hu with rfl | hu
    · rfl
    · obtain rfl := List.mem_singleton.mp hu
      rfl
  have hpanel : Shape.alone .standIn .plain {} (.panel 10 10 0 40 none) =
      (.error (.geometry (.emptyRect 10 10 0 40)), []) := Shape.alone_eq
  obtain ⟨-, hfail, -⟩ := draw_shape_by_shape .plain {} {}
    ⟨"note", (withHeader "note" "Note" "").shapes ++
      .panel 10 10 0 40 none :: [.text 0 0 "late" .body .text]⟩
    (by decide) (by decide) { files := ⟨[], []⟩ } rfl
  obtain ⟨hresult, hcalls⟩ := hfail _ _ _ _ rfl hheader (congrArg Prod.fst hpanel)
  dsimp only at hresult hcalls ⊢
  rw [hpanel, List.append_nil] at hcalls
  exact ⟨hheader, congrArg Prod.fst hpanel, hresult, hcalls⟩

end Diagram

end Placard
