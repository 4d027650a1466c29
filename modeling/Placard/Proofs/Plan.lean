/-
Placard/Proofs/Plan.lean

What a drawing does, said before it is done.

Drawing is a dialogue.  A text in the built-in face asks the device for the extents of the font in
force, and goes where the answer says; the font in force belongs to a state that everything on a
canvas shares.  But a text sets its face and its size before it asks, so the answer is the one for
its own font (`Device.ascent_record_ask`), and only the coordinate system is left of what was done
before.  That is the same for all primitives of a drawing, since each of them leaves it as it finds
it (`Primitive.steady_script`).

So a drawing has a plan: a trace of calls that is known as soon as one knows how far the letters of
the built-in face reach.  `Drawing.Follows` says that a drawing carries out its plan on every
device, and `Sketch.follows_draw` proves it for everything that can be sketched.
-/
import Placard.Proofs.Context

namespace Placard

/-! ### How far letters reach -/

/-- How far the letters of the built-in face reach above the base line in a font, on the surface
itself. -/
def Backend.ascentOf (backend : Backend) (font : Font) : Float :=
  backend.ascent ⟨some (builtinFamily, font.weight), some font.size, []⟩

namespace Device

variable {d : Device}

/-- The same in the coordinate system that the calls so far have led to. -/
def ascentOf (d : Device) (font : Font) : Float :=
  d.backend.ascent ⟨some (builtinFamily, font.weight), some font.size, d.context.pen.transform⟩

theorem ascentOf_of_transform (h : d.context.pen.transform = []) :
    d.ascentOf = d.backend.ascentOf := by
  funext font
  rw [ascentOf, h, Backend.ascentOf]

theorem context_record (d : Device) (script : Script) :
    (d.record script).context = d.context.reached script := by
  have hcalls : (d.record script).calls.toList = d.calls.toList ++ script := by simp [record]
  rw [context, hcalls, Context.reached_append]
  rfl

/-- Once a text has set its face and its size, the answer is the one for its own font, whatever
font was in force before. -/
theorem ascent_record_ask (d : Device) (font : Font) :
    (d.record [.selectFontFace builtinFamily font.weight, .setFontSize font.size,
      .fontExtents]).ascent = d.ascentOf font := by
  rw [ascent, context_record]
  rfl

/-- The coordinate system does make a difference: in one that was scaled, the answer is the one for
a scaled font. -/
example (backend : Backend) (font : Font) :
    ascentOf { backend, calls := #[.scale 2 2] } font =
      backend.ascent ⟨some (builtinFamily, font.weight), some font.size, [.scale 2 2]⟩ := rfl

end Device

/-! ### Calls that leave the coordinate system alone -/

/-- Wherever the calls are made, the coordinate system is the same afterwards. -/
def Script.Steady (script : Script) : Prop :=
  ∀ x : Context, (x.reached script).pen.transform = x.pen.transform

namespace Script.Steady

variable {a b script : Script}

theorem nil : Steady [] := fun _ => rfl

theorem append (ha : Steady a) (hb : Steady b) : Steady (a ++ b) := by
  intro x
  rw [Context.reached_append, hb, ha]

theorem of_replay (h : ∀ x : Context, ∃ y : Context,
    x.replay script = some y ∧ y.pen.transform = x.pen.transform) : Steady script := by
  intro x
  obtain ⟨y, hy, htransform⟩ := h x
  rw [Context.reached_of_replay hy, htransform]

theorem transform_record (h : Steady script) (d : Device) :
    (d.record script).context.pen.transform = d.context.pen.transform := by
  rw [Device.context_record, h]

theorem ascentOf_record (h : Steady script) (d : Device) :
    (d.record script).ascentOf = d.ascentOf := by
  funext font
  rw [Device.ascentOf, h.transform_record, Device.ascentOf]
  rfl

theorem andThen {α β : Type} {t : Trace Call α} {f : α → Trace Call β} (ht : Steady t.items)
    (hf : ∀ a, Steady (f a).items) : Steady (t.andThen f).items := by
  cases ho : t.outcome with
  | error e =>
    rw [Trace.andThen_of_error ho]
    exact ht
  | ok a =>
    rw [Trace.andThen_of_ok ho]
    exact ht.append (hf a)

end Script.Steady

/-! ### Plans -/

/-- The calls that show a line of text, if letters reach as far as `ascentOf` says. -/
def lineScript (ascentOf : Font → Float) (position : Point) (text : String) (font : Font) :
    Script :=
  let x := position.x.toFloat
  let y := position.y.toFloat
  match font.request? with
  | some request => [.moveTo x y, .showLayout request text, .status]
  | none =>
    [.selectFontFace builtinFamily font.weight, .setFontSize font.size, .fontExtents,
      .moveTo x (y + ascentOf font), .showText text]

namespace Primitive

/-- The calls that draw a primitive, if letters reach as far as `ascentOf` says. -/
def script (ascentOf : Font → Float) : Primitive → Script
  | text position content color font =>
    [.save, .setSource color] ++ lineScript ascentOf position content font ++ [.newPath, .restore]
  | p => p.figureScript

/-- The calls of a primitive, or none if it is refused. -/
def plan (ascentOf : Font → Float) (p : Primitive) : Trace Call Unit :=
  match p.fault? with
  | some e => Trace.fail e
  | none => Trace.steps (p.script ascentOf)

end Primitive

namespace Shape

/-- The calls that draw a shape. -/
def plan (ascentOf : Font → Float) (style : Style) (s : Shape) : Trace Call Unit :=
  (s.sketch style).expand (Primitive.plan ascentOf)

/-- The calls that draw several shapes. -/
def planAll (ascentOf : Font → Float) (style : Style) (shapes : List Shape) : Trace Call Unit :=
  Trace.all (shapes.map (plan ascentOf style))

end Shape

/-- The calls that begin a drawing. -/
def Canvas.plan (size : CanvasSize) (background : Color) : Trace Call Rect :=
  match size.area with
  | .error e => Trace.fail e
  | .ok area => ⟨opening size background, .ok area⟩

/-! ### The coordinate system during a plan -/

namespace Primitive

theorem script_polygon (ascentOf : Font → Float) (corners : List Point) (color : Color) :
    (polygon corners color).script ascentOf = (polygon corners color).figureScript := rfl

/-- The calls between the color and the filling of a polygon. -/
theorem figureScript_polygon (p : Point) (rest : List Point) (color : Color) :
    ∃ contour : Script, (∀ c ∈ contour, c.buildsPath = true) ∧
      (polygon (p :: rest) color).figureScript = .setSource color :: (contour ++ [.fill]) := by
  refine ⟨.moveTo p.x.toFloat p.y.toFloat ::
    (rest.map (fun q => .lineTo q.x.toFloat q.y.toFloat) ++ [.closePath]), ?_, ?_⟩
  · intro c hc
    rcases List.mem_cons.mp hc with rfl | hc
    · rfl
    · rcases List.mem_append.mp hc with hc | hc
      · obtain ⟨q, -, rfl⟩ := List.mem_map.mp hc
        rfl
      · obtain rfl := List.mem_singleton.mp hc
        rfl
  · simp [figureScript]

/-- The calls of a text, in the two ways in which it can be shown. -/
theorem script_text (ascentOf : Font → Float) (position : Point) (content : String)
    (color : Color) (font : Font) :
    (∃ (x y : Float) (request : FontRequest), (text position content color font).script ascentOf =
      [.save, .setSource color, .moveTo x y, .showLayout request content, .status, .newPath,
        .restore]) ∨
    (∃ x y : Float, (text position content color font).script ascentOf =
      [.save, .setSource color, .selectFontFace builtinFamily font.weight,
        .setFontSize font.size, .fontExtents, .moveTo x y, .showText content, .newPath,
        .restore]) := by
  cases hr : font.request? with
  | some request =>
    refine .inl ⟨position.x.toFloat, position.y.toFloat, request, ?_⟩
    simp [script, lineScript, hr]
  | none =>
    refine .inr ⟨position.x.toFloat, position.y.toFloat + ascentOf font, ?_⟩
    simp [script, lineScript, hr]

/-- A primitive leaves the coordinate system as it finds it: an ellipse is drawn in one of its
own, which is put away again. -/
theorem steady_script (ascentOf : Font → Float) (p : Primitive) :
    Script.Steady (p.script ascentOf) := by
  refine .of_replay fun x => ?_
  cases p with
  | roundedRect bounds radius fill outline width =>
    cases fill <;> cases outline <;> exact ⟨_, rfl, rfl⟩
  | text position content color font =>
    rcases script_text ascentOf position content color font with ⟨a, b, request, h⟩ | ⟨a, b, h⟩
    · rw [h]
      exact ⟨_, rfl, rfl⟩
    · rw [h]
      exact ⟨_, rfl, rfl⟩
  | line start stop color width => exact ⟨_, rfl, rfl⟩
  | ellipse bounds color =>
    -- `restore` brings back the coordinate system that `save` put aside
    exact ⟨_, rfl, rfl⟩
  | polygon corners color =>
    cases corners with
    | nil => exact ⟨x, rfl, rfl⟩
    | cons p rest =>
      obtain ⟨contour, hcontour, hscript⟩ := figureScript_polygon p rest color
      rw [script_polygon, hscript, Context.replay_cons]
      show ∃ y, Context.replay { x with pen.source := some color } (contour ++ [.fill]) = some y ∧ _
      rw [Context.replay_append, Context.replay_of_buildsPath hcontour]
      exact ⟨_, rfl, rfl⟩

theorem steady_scripts (ascentOf : Font → Float) (ps : List Primitive) :
    Script.Steady (ps.flatMap (script ascentOf)) := by
  induction ps with
  | nil => exact .nil
  | cons p rest ih =>
    rw [List.flatMap_cons]
    exact (steady_script ascentOf p).append ih

theorem steady_plan (ascentOf : Font → Float) (p : Primitive) :
    Script.Steady (p.plan ascentOf).items := by
  unfold plan
  cases p.fault? with
  | some e => exact .nil
  | none => exact steady_script ascentOf p

end Primitive

theorem Sketch.steady_plan {α : Type} (ascentOf : Font → Float) (t : Sketch α) :
    Script.Steady (t.expand (Primitive.plan ascentOf)).items := by
  obtain ⟨items, r⟩ := t
  induction items with
  | nil => exact .nil
  | cons p rest ih => exact (Primitive.steady_plan ascentOf p).andThen fun _ => ih

/-! ### Carrying out a plan -/

namespace Device

variable {α β : Type} {d d' : Device}

/-- After a success the next step starts where the first one ended. -/
theorem run_bind_of_ok {t : Drawing α} {a : α} (h : d.run t = (.ok a, d')) (f : α → Drawing β) :
    d.run (t >>= f) = d'.run (f a) := by
  show (match (t d : Except DrawError α × Device) with | (r, d') => ExceptT.bindCont f r d') = _
  rw [show t d = (.ok a, d') from h]
  rfl

theorem run_bind_of_error {t : Drawing α} {e : DrawError} (h : d.run t = (.error e, d'))
    (f : α → Drawing β) : d.run (t >>= f) = (.error e, d') := by
  show (match (t d : Except DrawError α × Device) with | (r, d') => ExceptT.bindCont f r d') = _
  rw [show t d = (.error e, d') from h]
  rfl

/-- Making calls is performing a script. -/
theorem run_make (d : Device) (script : Script) :
    d.run (Drawing.make script) = d.play (Trace.steps script) := by
  show Drawing.make script d = d.play ⟨script, .ok ()⟩
  unfold Drawing.make play
  dsimp only
  rcases d.perform script with ⟨works | works, d'⟩
  · rfl
  · rfl

theorem play_singleton (d : Device) (c : Call) :
    d.play (Trace.steps [c]) =
      (if (d.call c).1 then .ok () else .error .device, d.record [c]) := by
  rw [play, show (Trace.steps [c]).items = [c] from rfl, perform_singleton]
  cases (d.call c).1 with
  | true => rfl
  | false => rfl

theorem play_of_refused {t : Trace Call α} (h : (d.perform t.items).1 = false) :
    d.play t = (.error .device, (d.perform t.items).2) := by
  rcases hp : d.perform t.items with ⟨works, d'⟩
  obtain rfl : works = false := by rw [hp] at h; exact h
  rw [play, hp]

theorem play_of_works {t : Trace Call α} (h : (d.perform t.items).1 = true) :
    d.play t = (t.outcome.mapError .geometry, d.record t.items) := by
  have hrecord := perform_of_works h
  rcases hp : d.perform t.items with ⟨works, d'⟩
  rw [hp] at h hrecord
  obtain rfl : works = true := h
  obtain rfl : d' = d.record t.items := hrecord
  rw [play, hp]

/-- A trace succeeds if it ends in a result and none of its calls is refused. -/
theorem play_eq_ok_iff {t : Trace Call α} {a : α} :
    (d.play t).1 = .ok a ↔ t.outcome = .ok a ∧ (d.perform t.items).1 = true := by
  cases h : (d.perform t.items).1 with
  | false =>
    rw [play_of_refused h]
    constructor
    · intro hok
      cases hok
    · rintro ⟨-, hworks⟩
      cases hworks
  | true =>
    rw [play_of_works h, Except.mapError_eq_ok]
    exact (and_iff_left rfl).symm

/-- A trace in two parts: the second one is played if the first one worked and succeeded. -/
theorem play_andThen (d : Device) (t : Trace Call α) (f : α → Trace Call β) :
    d.play (t.andThen f) =
      match d.play t with
      | (.ok a, d') => d'.play (f a)
      | (.error e, d') => (.error e, d') := by
  cases ho : t.outcome with
  | error e =>
    rw [Trace.andThen_of_error ho]
    cases h : (d.perform t.items).1 with
    | true => rw [play_of_works h, ho, @play_of_works _ d ⟨t.items, .error e⟩ h]; rfl
    | false => rw [play_of_refused h, @play_of_refused _ d ⟨t.items, .error e⟩ h]
  | ok a =>
    rw [Trace.andThen_of_ok ho]
    cases h : (d.perform t.items).1 with
    | true =>
      -- the second part starts on the device with the calls of the first one
      rw [play_of_works h, ho]
      show _ = (d.record t.items).play (f a)
      have happend := perform_append d t.items (f a).items
      rw [h, if_pos rfl, perform_of_works h] at happend
      rw [play, happend, play]
    | false =>
      have happend := perform_append d t.items (f a).items
      rw [if_neg (by rw [h]; exact Bool.false_ne_true)] at happend
      rw [play_of_refused h, play, happend]
      rcases hp : d.perform t.items with ⟨works, d'⟩
      obtain rfl : works = false := by rw [hp] at h; exact h
      rfl

end Device

namespace Drawing

variable {α β : Type}

/-- On every device, the drawing makes the calls of its plan, up to one that is refused, and it ends
as the plan does. -/
def Follows (drawing : Drawing α) (plan : (Font → Float) → Trace Call α) : Prop :=
  ∀ d : Device, d.run drawing = d.play (plan d.ascentOf)

theorem follows_make (script : Script) : (make script).Follows fun _ => Trace.steps script :=
  fun d => d.run_make script

theorem follows_check (r : Except Fault α) : (check r).Follows fun _ => ⟨[], r⟩ := fun _ => rfl

/-- On a device that refuses nothing, all calls of the plan are made. -/
theorem Follows.run_of_refusing_none {drawing : Drawing α}
    {plan : (Font → Float) → Trace Call α} (h : drawing.Follows plan) {d : Device}
    (hd : d.refusing = none) : d.run drawing =
      ((plan d.ascentOf).outcome.mapError .geometry, d.record (plan d.ascentOf).items) := by
  rw [h d, Device.play_of_refusing_none hd]

/-- So they are on every other device, unless one of them is refused. -/
theorem Follows.run_of_not_refused {drawing : Drawing α} {plan : (Font → Float) → Trace Call α}
    (h : drawing.Follows plan) {d : Device} (hd : (d.run drawing).1 ≠ .error .device) :
    d.run drawing =
      ((plan d.ascentOf).outcome.mapError .geometry, d.record (plan d.ascentOf).items) := by
  rw [h d] at hd ⊢
  exact Device.play_of_not_refused hd

theorem Follows.not_refused {drawing : Drawing α} {plan : (Font → Float) → Trace Call α}
    (h : drawing.Follows plan) {d : Device} (hd : d.refusing = none) :
    (d.run drawing).1 ≠ .error .device := by
  rw [h d]
  exact Device.not_refused hd _

/-- Drawings in a row.  The plans are for one and the same coordinate system, so the first one has
to leave it alone. -/
theorem Follows.bind {t : Drawing α} {f : α → Drawing β} {p : (Font → Float) → Trace Call α}
    {q : (Font → Float) → α → Trace Call β} (ht : t.Follows p)
    (hsteady : ∀ ascentOf, Script.Steady (p ascentOf).items)
    (hf : ∀ a, (f a).Follows fun ascentOf => q ascentOf a) :
    (t >>= f).Follows fun ascentOf => (p ascentOf).andThen (q ascentOf) := by
  intro d
  have hd := ht d
  rw [Device.play_andThen]
  cases h : (d.perform (p d.ascentOf).items).1 with
  | false =>
    rw [Device.play_of_refused h] at hd ⊢
    exact Device.run_bind_of_error hd f
  | true =>
    rw [Device.play_of_works h] at hd ⊢
    cases ho : (p d.ascentOf).outcome with
    | error e =>
      rw [ho] at hd
      exact Device.run_bind_of_error hd f
    | ok a =>
      -- the second drawing is answered as if the first one had not been made
      rw [ho] at hd
      rw [Device.run_bind_of_ok hd f, hf a, (hsteady d.ascentOf).ascentOf_record d]
      rfl

/-- A call whose answer is read off the device after it. -/
theorem run_ask (d : Device) (c : Call) (answer : Device → α) :
    d.run (do
      make [c]
      return answer (← get)) =
      (if (d.call c).1 then .ok (answer (d.record [c])) else .error .device, d.record [c]) := by
  have hmake := d.run_make [c]
  rw [Device.play_singleton] at hmake
  cases h : (d.call c).1 with
  | false =>
    rw [h] at hmake
    exact Device.run_bind_of_error hmake _
  | true =>
    rw [h] at hmake
    rw [Device.run_bind_of_ok hmake]
    rfl

theorem run_fontExtents (d : Device) : d.run fontExtents =
    (if (d.call .fontExtents).1 then .ok (d.record [.fontExtents]).ascent else .error .device,
      d.record [.fontExtents]) :=
  run_ask d .fontExtents Device.ascent

theorem run_encode (d : Device) : d.run encode =
    (if (d.call .writePng).1 then .ok (d.record [.writePng]).image else .error .device,
      d.record [.writePng]) :=
  run_ask d .writePng Device.image

/-- A text that sets its face and its size and asks then gets the answer for its own font. -/
theorem follows_ask (font : Font) (goOn : Float → Script) :
    Drawing.Follows (do
      make [.selectFontFace builtinFamily font.weight, .setFontSize font.size]
      let ascent ← fontExtents
      make (goOn ascent)) fun ascentOf =>
        Trace.steps ([.selectFontFace builtinFamily font.weight, .setFontSize font.size,
          .fontExtents] ++ goOn (ascentOf font)) := by
  intro d
  let choice : Script := [.selectFontFace builtinFamily font.weight, .setFontSize font.size]
  -- the font can always be chosen
  have hchoice : d.play (Trace.steps choice) = (.ok (), d.record choice) := by
    have hall : ∀ c ∈ choice, c.fallible = false :=
      List.forall_mem_cons.mpr ⟨rfl, List.forall_mem_singleton.mpr rfl⟩
    rw [Device.play, show (Trace.steps choice).items = choice from rfl,
      Device.perform_of_infallible hall]
    rfl
  have hparts : Trace.steps (choice ++ [.fontExtents] ++ goOn (d.ascentOf font)) =
      (Trace.steps choice).andThen fun _ =>
        (Trace.steps [.fontExtents]).andThen fun _ => Trace.steps (goOn (d.ascentOf font)) := rfl
  have hanswer : ((d.record choice).record [.fontExtents]).ascent = d.ascentOf font := by
    rw [Device.record_record]
    exact d.ascent_record_ask font
  have hask := run_fontExtents (d.record choice)
  rw [Device.run_bind_of_ok ((d.run_make choice).trans hchoice)]
  refine Eq.trans ?_ (congrArg d.play hparts).symm
  rw [Device.play_andThen, hchoice]
  show _ = (d.record choice).play _
  rw [Device.play_andThen, Device.play_singleton]
  cases h : ((d.record choice).call .fontExtents).1 with
  | false =>
    rw [h] at hask
    exact Device.run_bind_of_error hask _
  | true =>
    rw [h] at hask
    rw [Device.run_bind_of_ok hask, hanswer, Device.run_make]
    rfl

end Drawing

/-! ### Everything that is drawn -/

namespace Primitive

theorem steady_lineScript (ascentOf : Font → Float) (position : Point) (text : String)
    (font : Font) : Script.Steady (lineScript ascentOf position text font) := by
  unfold lineScript
  cases font.request? with
  | some request => exact fun _ => rfl
  | none => exact fun _ => rfl

theorem follows_showLine (position : Point) (text : String) (font : Font) :
    (showLine position text font).Follows fun ascentOf =>
      Trace.steps (lineScript ascentOf position text font) := by
  unfold showLine lineScript
  cases font.request? with
  | some request => exact Drawing.follows_make _
  | none => exact Drawing.follows_ask font fun ascent =>
      [.moveTo position.x.toFloat (position.y.toFloat + ascent), .showText text]

/-- **One primitive.**  Whatever was drawn before it, it makes the calls of its plan. -/
theorem follows_draw (p : Primitive) : p.draw.Follows fun ascentOf => p.plan ascentOf := by
  unfold draw plan
  cases p.fault? with
  | some e => exact Drawing.follows_check (.error e)
  | none =>
    cases p with
    | text position content color font =>
      -- the line is framed by calls that are known beforehand
      exact (Drawing.follows_make [.save, .setSource color]).bind (fun _ _ => rfl) fun _ =>
        (follows_showLine position content font).bind
          (fun ascentOf => steady_lineScript ascentOf position content font)
          fun _ => Drawing.follows_make [.newPath, .restore]
    | _ => exact Drawing.follows_make _

end Primitive

/-- Everything that can be sketched, primitive by primitive. -/
theorem Sketch.follows_draw (t : Sketch Unit) :
    (Sketch.draw t).Follows fun ascentOf => t.expand (Primitive.plan ascentOf) := by
  obtain ⟨items, r⟩ := t
  show Drawing.Follows (items.forM Primitive.draw >>= fun _ => Drawing.check r) _
  induction items with
  | nil => exact Drawing.follows_check r
  | cons p rest ih =>
    have hdraw : ((p :: rest).forM Primitive.draw >>= fun _ => Drawing.check r) =
        p.draw >>= fun _ => (rest.forM Primitive.draw >>= fun _ => Drawing.check r) :=
      bind_assoc p.draw (fun _ => rest.forM Primitive.draw) fun _ => Drawing.check r
    rw [hdraw]
    exact p.follows_draw.bind (fun ascentOf => p.steady_plan ascentOf) fun _ => ih

namespace Shape

variable (style : Style)

theorem follows_draw (s : Shape) : (s.draw style).Follows fun ascentOf => s.plan ascentOf style :=
  Sketch.follows_draw (s.sketch style)

theorem follows_drawAll (shapes : List Shape) :
    (drawAll style shapes).Follows fun ascentOf => planAll ascentOf style shapes := by
  induction shapes with
  | nil => exact fun _ => rfl
  | cons s rest ih =>
    show (s.draw style >>= fun _ => drawAll style rest).Follows _
    exact (follows_draw style s).bind
      (fun ascentOf => Sketch.steady_plan ascentOf (s.sketch style)) fun _ => ih

end Shape

namespace Canvas

theorem follows_create (size : CanvasSize) (background : Color) :
    (create size background).Follows fun _ => plan size background := by
  intro d
  unfold create plan
  cases size.area with
  | error e => rfl
  | ok area =>
    have hmake := d.run_make (opening size background)
    show d.run (Drawing.make (opening size background) >>= fun _ => pure area) = _
    cases h : (d.perform (opening size background)).1 with
    | false =>
      rw [Device.play_of_refused h] at hmake
      rw [Device.run_bind_of_error hmake, Device.play_of_refused h]
      rfl
    | true =>
      rw [Device.play_of_works h] at hmake
      rw [Device.run_bind_of_ok hmake, Device.play_of_works h]
      rfl

end Canvas

/-! ### A new canvas -/

namespace Device

variable {d : Device}

/-- A new canvas has the coordinate system of its surface, whatever was drawn before. -/
theorem transform_record_opening (d : Device) (size : CanvasSize) (background : Color) :
    (d.record (Canvas.opening size background)).context.pen.transform = [] := by
  rw [context_record]
  rfl

theorem ascentOf_record_opening (d : Device) (size : CanvasSize) (background : Color) :
    (d.record (Canvas.opening size background)).ascentOf = d.backend.ascentOf :=
  ascentOf_of_transform (transform_record_opening d size background)

/-- The device of a new canvas that refuses nothing. -/
def blank (backend : Backend) (size : CanvasSize) (background : Color) : Device :=
  (Device.run { backend } (Canvas.create size background)).2

variable (backend : Backend) (size : CanvasSize) (background : Color)

theorem blank_eq : blank backend size background =
    record { backend } (Canvas.plan size background).items := by
  rw [blank, (Canvas.follows_create size background).run_of_refusing_none rfl]

theorem blank_refusing : (blank backend size background).refusing = none := by
  rw [blank_eq]
  rfl

theorem blank_backend : (blank backend size background).backend = backend := by
  rw [blank_eq]
  rfl

theorem transform_blank : (blank backend size background).context.pen.transform = [] := by
  rw [blank_eq, Canvas.plan]
  cases size.area with
  | error e => rfl
  | ok area => exact transform_record_opening { backend } size background

theorem ascentOf_blank : (blank backend size background).ascentOf = backend.ascentOf := by
  rw [ascentOf_of_transform (transform_blank backend size background), blank_backend]

end Device

end Placard
