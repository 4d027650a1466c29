/-
Placard/Proofs/CleanContext.lean

Between the steps of a drawing the device's own state is clean.

Lines, polygons and ellipses are drawn without clearing the path first, and so rely on what was
drawn before them.  Every primitive leaves a clean context behind if it finds one
(`Context.replay_script`): nothing is put aside, the coordinate system is that of the surface
and the path is empty.  `Canvas.clean_between_steps` takes this through every sequence of
steps, some of which may end in a geometric fault.  What is filled or stroked is then the
figure of the primitive that asks for it, and nothing else.
-/
import Placard.Proofs.Context
import Placard.Proofs.Saving

namespace Placard

/-! ### What a primitive paints -/

namespace Primitive

/-- The path that a figure is made of, if there is none before: each piece of it, in the coordinate
system that the figure moves to.  A text is no figure. -/
def figure (p : Primitive) : List Piece :=
  (p.figureScript.filter Call.buildsPath).map fun c => ⟨c, p.figureScript.filterMap Call.motion?⟩

/-- What a primitive paints along a path, if there is none before: its own figure, once for
each call that fills or strokes. -/
def paintings (p : Primitive) : List (Call × List Piece) :=
  (p.figureScript.filter Call.paintsPath).map fun c => (c, p.figure)

/-- What is painted by setting a color, building a path and filling it. -/
theorem paintings_of_contour {p : Primitive} {color : Color} {contour : Script}
    (hcontour : ∀ c ∈ contour, c.buildsPath = true)
    (hscript : p.figureScript = .setSource color :: (contour ++ [.fill])) :
    p.paintings = [(.fill, contour.map fun c => ⟨c, []⟩)] := by
  have hbuilds : contour.filter Call.buildsPath = contour :=
    List.filter_eq_self.mpr hcontour
  have hpaints : contour.filter Call.paintsPath = [] := by
    rw [List.filter_eq_nil_iff]
    intro c hc
    rw [(Call.only_buildsPath (hcontour c hc)).1]
    exact Bool.false_ne_true
  have hmotions : contour.filterMap Call.motion? = [] := by
    rw [List.filterMap_eq_nil_iff]
    exact fun c hc => (Call.only_buildsPath (hcontour c hc)).2.2
  have hfigure : p.figure = contour.map fun c => ⟨c, []⟩ := by
    have hpieces : (Call.setSource color :: (contour ++ [.fill])).filter Call.buildsPath =
        contour := by
      simp [hbuilds, Call.buildsPath]
    have hnone : (Call.setSource color :: (contour ++ [.fill])).filterMap Call.motion? = [] := by
      rw [List.filterMap_cons_none rfl, List.filterMap_append, hmotions]
      rfl
    rw [figure, hscript, hpieces, hnone]
  rw [paintings, hfigure, hscript]
  simp [hpaints, Call.paintsPath]

/-- No primitive puts more than one pen aside. -/
theorem countP_isSave_le (ascentOf : Font → Float) (p : Primitive) :
    (p.script ascentOf).countP Call.isSave ≤ 1 := by
  cases p with
  | roundedRect bounds radius fill outline width =>
    cases fill <;> cases outline <;> exact Nat.zero_le 1
  | text position content color font =>
    rcases script_text ascentOf position content color font with ⟨x, y, request, h⟩ | ⟨x, y, h⟩
    · rw [h]; exact Nat.le_refl 1
    · rw [h]; exact Nat.le_refl 1
  | line start stop color width => exact Nat.zero_le 1
  | ellipse bounds color => exact Nat.le_refl 1
  | polygon corners color =>
    cases corners with
    | nil => exact Nat.zero_le 1
    | cons p rest =>
      obtain ⟨contour, hcontour, h⟩ := figureScript_polygon p rest color
      have hnone : contour.countP Call.isSave = 0 := by
        rw [List.countP_eq_zero]
        intro c hc
        rw [(Call.only_buildsPath (hcontour c hc)).2.1]
        exact Bool.false_ne_true
      rw [script_polygon, h, List.countP_cons, List.countP_append, hnone]
      exact Nat.zero_le 1

end Primitive

namespace Context

variable {x : Context} (ascentOf : Font → Float)

/-- A polygon on an empty surface: every call between the color and the filling adds to the
path. -/
theorem replay_polygon (pen : Pen) (p : Point) (rest : List Point) (color : Color) :
    ∃ y, (fresh pen).replay ((Primitive.polygon (p :: rest) color).script ascentOf) = some y ∧
      y.Clean ∧ y.painted = (Primitive.polygon (p :: rest) color).paintings := by
  obtain ⟨contour, hcontour, hscript⟩ := Primitive.figureScript_polygon p rest color
  have hpaintings := Primitive.paintings_of_contour hcontour hscript
  rw [Primitive.script_polygon, hscript, hpaintings, replay_cons]
  show ∃ y, replay { fresh pen with pen.source := some color } (contour ++ [.fill]) = some y ∧ _
  rw [replay_append, replay_of_buildsPath hcontour]
  exact ⟨_, rfl, ⟨rfl, rfl, rfl⟩, rfl⟩

/-- A primitive on an empty surface leaves a clean context behind, and paints its own figure. -/
theorem replay_script_of_fresh (pen : Pen) (p : Primitive) :
    ∃ y, (fresh pen).replay (p.script ascentOf) = some y ∧ y.Clean ∧ y.painted = p.paintings := by
  cases p with
  | roundedRect bounds radius fill outline width =>
    -- with or without a filling, and with or without an outline
    cases fill <;> cases outline <;> exact ⟨_, rfl, ⟨rfl, rfl, rfl⟩, rfl⟩
  | text position content color font =>
    rw [Primitive.paintings, Primitive.figure]
    rcases Primitive.script_text ascentOf position content color font with
      ⟨x, y, request, h⟩ | ⟨x, y, h⟩
    · rw [h]
      exact ⟨_, rfl, ⟨rfl, rfl, rfl⟩, rfl⟩
    · rw [h]
      exact ⟨_, rfl, ⟨rfl, rfl, rfl⟩, rfl⟩
  | line start stop color width => exact ⟨_, rfl, ⟨rfl, rfl, rfl⟩, rfl⟩
  | ellipse bounds color => exact ⟨_, rfl, ⟨rfl, rfl, rfl⟩, rfl⟩
  | polygon corners color =>
    cases corners with
    | nil => exact ⟨_, rfl, ⟨rfl, rfl, rfl⟩, rfl⟩
    | cons p rest => exact replay_polygon ascentOf pen p rest color

/-- **One primitive.**  From a clean context to a clean context, painting its own figure. -/
theorem replay_script (hx : x.Clean) (p : Primitive) :
    ∃ y, x.replay (p.script ascentOf) = some y ∧ y.Clean ∧
      y.painted = x.painted ++ p.paintings := by
  obtain ⟨y, hy, hclean, hpainted⟩ := replay_script_of_fresh ascentOf x.pen p
  obtain ⟨hreplay, hmore⟩ := hx.replay_of_fresh hy
  exact ⟨y.above x.marks, hreplay, hclean.above x.marks, hpainted ▸ hmore⟩

/-- Any number of primitives, by induction: each of them finds a clean context. -/
theorem replay_scripts (hx : x.Clean) (ps : List Primitive) :
    ∃ y, x.replay (ps.flatMap (Primitive.script ascentOf)) = some y ∧ y.Clean ∧
      y.painted = x.painted ++ ps.flatMap Primitive.paintings := by
  induction ps generalizing x with
  | nil => exact ⟨x, rfl, hx, (List.append_nil _).symm⟩
  | cons p rest ih =>
    obtain ⟨y, hy, hclean, hpainted⟩ := replay_script ascentOf hx p
    obtain ⟨z, hz, hend, hall⟩ := ih hclean
    refine ⟨z, ?_, hend, ?_⟩
    · rw [List.flatMap_cons, replay_append, hy]
      exact hz
    · rw [hall, hpainted, List.append_assoc, List.flatMap_cons]

/-- Inside of a primitive at most one pen is put aside. -/
theorem depth_take_script (hx : x.Clean) (p : Primitive) (n : Nat) :
    ∃ y, x.replay ((p.script ascentOf).take n) = some y ∧ y.depth ≤ 1 := by
  obtain ⟨z, hz, -, -⟩ := replay_script ascentOf hx p
  rw [← List.take_append_drop n (p.script ascentOf)] at hz
  obtain ⟨y, hy, -⟩ := replay_of_append hz
  refine ⟨y, hy, ?_⟩
  calc y.depth
      ≤ x.depth + ((p.script ascentOf).take n).countP Call.isSave := depth_replay_le hy
    _ = ((p.script ascentOf).take n).countP Call.isSave := by rw [hx.depth, Nat.zero_add]
    _ ≤ (p.script ascentOf).countP Call.isSave := (List.take_sublist n _).countP_le
    _ ≤ 1 := p.countP_isSave_le ascentOf

theorem depth_take_scripts (hx : x.Clean) (ps : List Primitive) (n : Nat) :
    ∃ y, x.replay ((ps.flatMap (Primitive.script ascentOf)).take n) = some y ∧ y.depth ≤ 1 := by
  induction ps generalizing x n with
  | nil =>
    rw [List.flatMap_nil, List.take_nil]
    exact ⟨x, rfl, hx.depth ▸ Nat.zero_le 1⟩
  | cons p rest ih =>
    rw [List.flatMap_cons, List.take_append, replay_append]
    rcases Nat.le_total (p.script ascentOf).length n with hn | hn
    · -- the first primitive is complete
      obtain ⟨y, hy, hclean, -⟩ := replay_script ascentOf hx p
      rw [List.take_of_length_le hn, hy]
      exact ih hclean (n - (p.script ascentOf).length)
    · obtain ⟨y, hy, hdepth⟩ := depth_take_script ascentOf hx p n
      rw [hy, Nat.sub_eq_zero_of_le hn, List.take_zero]
      exact ⟨y, rfl, hdepth⟩

end Context

/-! ### What a sketch draws -/

namespace Sketch

/-- The primitives of a sketch that are drawn: those before the first one that is refused. -/
def drawn (t : Sketch Unit) : List Primitive := t.items.takeWhile fun p => p.fault?.isNone

theorem items_expand (ascentOf : Font → Float) (t : Sketch Unit) :
    (t.expand (Primitive.plan ascentOf)).items =
      (drawn t).flatMap (Primitive.script ascentOf) := by
  obtain ⟨items, r⟩ := t
  induction items with
  | nil => rfl
  | cons p rest ih =>
    rw [Trace.expand_cons, drawn]
    cases hp : p.fault? with
    | some e =>
      have hplan : p.plan ascentOf = Trace.fail e := by rw [Primitive.plan, hp]
      rw [hplan, Trace.andThen_of_error rfl, List.takeWhile_cons_of_neg (by simp [hp])]
      rfl
    | none =>
      have hplan : p.plan ascentOf = Trace.steps (p.script ascentOf) := by
        rw [Primitive.plan, hp]
      rw [hplan, Trace.steps_andThen, List.takeWhile_cons_of_pos (by simp [hp]),
        List.flatMap_cons]
      exact congrArg (p.script ascentOf ++ ·) ih

end Sketch

/-! ### Steps on a canvas -/

namespace Canvas

/-- Something that is drawn on a canvas in one go. -/
inductive Step where
  | primitive (p : Primitive)
  | shape (style : Style) (s : Shape)
  /-- several shapes, up to the first one that cannot be drawn -/
  | shapes (style : Style) (shapes : List Shape)

namespace Step

/-- What is done for a step. -/
def draw : Step → Drawing Unit
  | primitive p => p.draw
  | shape style s => s.draw style
  | shapes style list => Shape.drawAll style list

/-- The primitives that a step asks for. -/
def sketch : Step → Sketch Unit
  | primitive p => Trace.step p
  | shape style s => s.sketch style
  | shapes style list => Trace.all (list.map (Shape.sketch style))

/-- The primitives that a step draws. -/
def drawn (step : Step) : List Primitive := Sketch.drawn step.sketch

/-- The calls that a step makes, and how it ends. -/
def plan (ascentOf : Font → Float) (step : Step) : Trace Call Unit :=
  step.sketch.expand (Primitive.plan ascentOf)

theorem follows_draw (step : Step) : step.draw.Follows fun ascentOf => step.plan ascentOf := by
  cases step with
  | primitive p =>
    intro d
    have hplan : plan d.ascentOf (primitive p) = p.plan d.ascentOf :=
      bind_pure (m := Trace Call) (p.plan d.ascentOf)
    exact (p.follows_draw d).trans (congrArg d.play hplan.symm)
  | shape style s => exact Shape.follows_draw style s
  | shapes style list =>
    intro d
    have hplan : plan d.ascentOf (shapes style list) = Shape.planAll d.ascentOf style list := by
      rw [plan, sketch, Trace.expand_all, List.map_map]
      rfl
    exact (Shape.follows_drawAll style list d).trans (congrArg d.play hplan.symm)

theorem items_plan (ascentOf : Font → Float) (step : Step) :
    (step.plan ascentOf).items = step.drawn.flatMap (Primitive.script ascentOf) := by
  rw [plan, Sketch.items_expand, drawn]

/-- A step leaves the coordinate system as it finds it. -/
theorem steady_plan (ascentOf : Font → Float) (step : Step) :
    Script.Steady (step.plan ascentOf).items := Sketch.steady_plan ascentOf step.sketch

end Step

/-- The device after some steps; a step that ends in a fault does not keep later ones from being
taken. -/
def follow (d : Device) (steps : List Step) : Device :=
  steps.foldl (fun d step => (d.run step.draw).2) d

/-- On a device that refuses nothing, the primitives of all steps are drawn in their order, and each
text among them is answered as if it were the first one. -/
theorem follow_eq_record {d : Device} (h : d.refusing = none) (steps : List Step) :
    follow d steps =
      d.record ((steps.flatMap Step.drawn).flatMap (Primitive.script d.ascentOf)) := by
  induction steps generalizing d with
  | nil => exact (Device.record_nil d).symm
  | cons step rest ih =>
    have hrun : (d.run step.draw).2 = d.record (step.plan d.ascentOf).items := by
      rw [step.follows_draw.run_of_refusing_none h]
    have hkept : (d.record (step.plan d.ascentOf).items).refusing = none := h
    have hascent : (d.record (step.plan d.ascentOf).items).ascentOf = d.ascentOf :=
      (step.steady_plan d.ascentOf).ascentOf_record d
    show follow (d.run step.draw).2 rest = _
    rw [hrun, ih hkept, hascent, Device.record_record, Step.items_plan, List.flatMap_cons,
      List.flatMap_append]

/-- A new canvas is clean, nothing was painted on it along a path, and no pen was put aside
while it was made. -/
theorem replay_blank (backend : Backend) (size : CanvasSize) (background : Color) :
    (∃ x, Context.replay {} (Device.blank backend size background).recording = some x ∧ x.Clean ∧
      x.painted = []) ∧
    (Device.blank backend size background).recording.countP Call.isSave = 0 := by
  rw [Device.blank_eq]
  cases ha : size.area with
  | ok area =>
    rw [plan_of_ok ha]
    exact ⟨⟨_, rfl, ⟨rfl, rfl, rfl⟩, rfl⟩, rfl⟩
  | error e =>
    rw [plan_of_error ha]
    exact ⟨⟨_, rfl, ⟨rfl, rfl, rfl⟩, rfl⟩, rfl⟩

theorem recording_follow_blank (backend : Backend) (size : CanvasSize) (background : Color)
    (steps : List Step) :
    let canvas := Device.blank backend size background
    (follow canvas steps).recording = canvas.recording ++
      (steps.flatMap Step.drawn).flatMap (Primitive.script backend.ascentOf) := by
  intro canvas
  rw [follow_eq_record (Device.blank_refusing backend size background), Device.ascentOf_blank,
    Device.recording_record]

/-- After any steps the canvas is clean, and the figures of what was drawn are on it. -/
theorem replay_follow (backend : Backend) (size : CanvasSize) (background : Color)
    (steps : List Step) :
    ∃ x, Context.replay {} (follow (Device.blank backend size background) steps).recording =
      some x ∧ x.Clean ∧ x.painted = (steps.flatMap Step.drawn).flatMap Primitive.paintings := by
  obtain ⟨⟨x, hx, hclean, hpainted⟩, -⟩ := replay_blank backend size background
  obtain ⟨y, hy, hend, hall⟩ :=
    Context.replay_scripts backend.ascentOf hclean (steps.flatMap Step.drawn)
  refine ⟨y, ?_, hend, by rw [hall, hpainted, List.nil_append]⟩
  rw [recording_follow_blank, Context.replay_append, hx]
  exact hy

/-- At no call of a drawing is more than one pen put aside. -/
theorem depth_take_follow (backend : Backend) (size : CanvasSize) (background : Color)
    (steps : List Step) (n : Nat) :
    ∃ x, Context.replay {}
        ((follow (Device.blank backend size background) steps).recording.take n) = some x ∧
      x.depth ≤ 1 := by
  obtain ⟨⟨x, hx, hclean, -⟩, hsaves⟩ := replay_blank backend size background
  rw [recording_follow_blank, List.take_append,
    Context.replay_append]
  rcases Nat.le_total (Device.blank backend size background).recording.length n with hn | hn
  · -- the canvas is there, and some of the primitives
    rw [List.take_of_length_le hn, hx]
    exact Context.depth_take_scripts backend.ascentOf hclean _ _
  · -- the canvas is not complete yet
    rw [← List.take_append_drop n (Device.blank backend size background).recording] at hx
    obtain ⟨y, hy, -⟩ := Context.replay_of_append hx
    have hfew : ((Device.blank backend size background).recording.take n).countP Call.isSave ≤ 0 :=
      hsaves ▸ (List.take_sublist n _).countP_le
    have hdepth : y.depth ≤
        0 + ((Device.blank backend size background).recording.take n).countP Call.isSave :=
      Context.depth_replay_le hy
    rw [hy, Nat.sub_eq_zero_of_le hn, List.take_zero]
    exact ⟨y, rfl, by omega⟩

/-- **Every step finds a clean canvas.**  Whatever is drawn on a device that refuses nothing, and
wherever steps end in a geometric fault: between any two steps no pen is put aside, the
coordinate system is that of the surface and the path is empty, and inside of the steps at most
one pen is put aside.  So whatever is filled or stroked is the figure of the primitive that the
call belongs to: neither more nor less. -/
theorem clean_between_steps (backend : Backend) (size : CanvasSize) (background : Color)
    (steps : List Step) :
    let canvas := Device.blank backend size background
    let primitives := steps.flatMap Step.drawn
    let recording := (follow canvas steps).recording
    recording = canvas.recording ++ primitives.flatMap (Primitive.script backend.ascentOf) ∧
    (∀ k, ∃ x, Context.replay {} (follow canvas (steps.take k)).recording = some x ∧ x.Clean) ∧
    (∀ n, ∃ x, Context.replay {} (recording.take n) = some x ∧ x.depth ≤ 1) ∧
    (∃ x, Context.replay {} recording = some x ∧
      x.painted = primitives.flatMap Primitive.paintings) := by
  refine ⟨recording_follow_blank backend size background steps, ?_, ?_, ?_⟩
  · intro k
    obtain ⟨x, hx, hclean, -⟩ := replay_follow backend size background (steps.take k)
    exact ⟨x, hx, hclean⟩
  · exact depth_take_follow backend size background steps
  · obtain ⟨x, hx, -, hpainted⟩ := replay_follow backend size background steps
    exact ⟨x, hx, hpainted⟩

/-- A polygon of two points is refused, and the ellipse after it is filled in the coordinates that
it was built in. -/
example : ((Context.replay {} (follow (Device.blank .standIn {} .black)
    [.primitive (.polygon [⟨1, 2⟩, ⟨3, 4⟩] .white),
      .primitive (.ellipse ⟨0, 0, 2, 2, by decide, by decide, by decide, by decide⟩ .white)]
    ).recording).map Context.painted) =
      some [(.fill, [⟨.arc 0 0 1 0 (2 * halfTurn), [.translate 1 1, .scale 1 1]⟩])] := by
  rfl

end Canvas

end Placard
