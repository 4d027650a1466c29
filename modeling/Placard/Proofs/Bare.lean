/-
Placard/Proofs/Bare.lean

Colors and wording make no difference to where anything goes.

`bare` takes the colors and the words out of a call, a primitive, a shape, a theme and a diagram,
and leaves whether there is a title, an outline or a callout.  Drawing commutes with it at each
level: the plan of a bare shape in a bare theme has the bare calls of the plan of the shape
(`Shape.plan_bare`).  A device that may refuse a call cannot tell a call from a bare one
(`Device.play_bare`), and it answers the same after it (`Device.ascentOf_bare`).  So two diagrams
that are the same when bare make the same calls up to colors and words, and end in the same way, in
any two themes (`Diagram.draw_of_bare_eq`).
-/
import Placard.Proofs.Parts

namespace Placard

/-! ### Without colors and words -/

/-- The color and the words of a call do not count. -/
def Call.bare : Call → Call
  | .setSource _ => .setSource .black
  | .showText _ => .showText ""
  | .showLayout request _ => .showLayout request ""
  | c => c

/-- A theme in which all colors are the same. -/
def Theme.blank : Theme := .ofTones fun _ => .black

/-- The same fonts in a theme without colors. -/
def Style.bare (style : Style) : Style := ⟨.blank, style.typography⟩

/-- A rectangle stays filled or outlined if it is. -/
def Primitive.bare : Primitive → Primitive
  | roundedRect bounds radius fill outline width =>
    roundedRect bounds radius (fill.map fun _ => .black) (outline.map fun _ => .black) width
  | text position _ _ font => text position "" .black font
  | line start stop _ width => line start stop .black width
  | polygon corners _ => polygon corners .black
  | ellipse bounds _ => ellipse bounds .black

def Series.bare (s : Series) : Series := ⟨"", .ok, s.points⟩

def Annotation.bare (a : Annotation) : Annotation := ⟨a.anchor, "", "", .ok⟩

/-- A chart has as many series as before, and a callout if it had one. -/
def Chart.bare (c : Chart) : Chart :=
  { c with series := c.series.map Series.bare, annotation := c.annotation.map Annotation.bare }

/-- A panel keeps a title and a block its outline; the role of a text is part of its geometry. -/
def Shape.bare : Shape → Shape
  | panel x y w h title => panel x y w h (title.map fun _ => "")
  | bullet x y _ _ => bullet x y "" .ok
  | arrow x1 y1 x2 y2 _ => arrow x1 y1 x2 y2 .ok
  | chart c => chart c.bare
  | text x y _ role _ => text x y "" role .text
  | block x y w h radius _ outline => block x y w h radius .text (outline.map fun _ => .text)

/-- The name of a diagram is a wording too. -/
def Diagram.bare (d : Diagram) : Diagram := ⟨"", d.shapes.map Shape.bare⟩

@[simp] theorem Call.fallible_bare (c : Call) : c.bare.fallible = c.fallible := by
  cases c <;> rfl

/-! ### Traces with other steps -/

namespace Trace

variable {ι κ α β γ : Type}

/-- The same trace with every step in another form. -/
def relabel (f : ι → κ) (t : Trace ι α) : Trace κ α := ⟨t.items.map f, t.outcome⟩

variable {f : ι → κ}

/-- Two traces in a row are relabelled one after the other. -/
theorem relabel_andThen {t : Trace ι α} {t' : Trace κ α} {g : α → Trace ι β}
    {g' : α → Trace κ β} (ht : t.relabel f = t') (hg : ∀ a, (g a).relabel f = g' a) :
    (t.andThen g).relabel f = t'.andThen g' := by
  subst ht
  obtain ⟨items, r⟩ := t
  cases r with
  | error e => rfl
  | ok a => simp [andThen, relabel, ← hg a]

/-- After a check, the trace that goes on may use the answer in another form. -/
theorem relabel_check_andThen {r : Except Fault α} {g : α → Trace ι β} {h : α → γ}
    {g' : γ → Trace κ β} (hg : ∀ a, (g a).relabel f = g' (h a)) :
    ((check r).andThen g).relabel f = (check (r.map h)).andThen g' := by
  cases r with
  | error e => rfl
  | ok a => exact hg a

theorem relabel_all (ts : List (Trace ι Unit)) :
    (all ts).relabel f = all (ts.map (relabel f)) := by
  induction ts with
  | nil => rfl
  | cons t rest ih => exact relabel_andThen rfl fun _ => ih

/-- If every step, in its other form, stands for the other forms of what it stood for, then so
does the whole trace. -/
theorem relabel_expand {e : ι → Trace κ Unit} {g : ι → ι} {h : κ → κ}
    (he : ∀ i, (e i).relabel h = e (g i)) (t : Trace ι α) :
    (t.expand e).relabel h = (t.relabel g).expand e := by
  obtain ⟨items, r⟩ := t
  induction items with
  | nil => rfl
  | cons i rest ih => exact relabel_andThen (he i) fun _ => ih

end Trace

/-! ### Primitives -/

namespace Primitive

theorem fault?_bare (p : Primitive) : p.bare.fault? = p.fault? := by
  cases p with
  | roundedRect bounds radius fill outline width => simp only [bare, fault?, Option.isSome_map]
  | polygon corners color => cases corners <;> rfl
  | _ => rfl

theorem script_bare (ascentOf : Font → Float) (p : Primitive) :
    (p.script ascentOf).map Call.bare = p.bare.script ascentOf := by
  cases p with
  | roundedRect bounds radius fill outline width =>
    -- which calls there are depends on whether there is a fill and an outline
    cases fill with
    | none => cases outline <;> rfl
    | some c => cases outline <;> rfl
  | text position words color font =>
    -- an installed face is asked for in another way than the built-in one
    obtain ⟨face, weight, size⟩ := font
    cases face <;> rfl
  | line start stop color width => rfl
  | polygon corners color =>
    cases corners with
    | nil => rfl
    | cons p rest => simp [bare, script, figureScript, Call.bare]
  | ellipse bounds color => rfl

/-- Whatever its color and its words, a primitive is refused for the same fault or drawn with the
same calls. -/
theorem plan_bare (ascentOf : Font → Float) (p : Primitive) :
    (p.plan ascentOf).relabel Call.bare = p.bare.plan ascentOf := by
  unfold plan
  rw [fault?_bare]
  cases p.fault? with
  | some e => rfl
  | none => exact congrArg Trace.steps (script_bare ascentOf p)

end Primitive

/-! ### Charts -/

namespace Chart

variable (style : Style) (c : Chart)

theorem segments_bare (color : Color) (points : List Point) :
    (segments color points).map Primitive.bare = segments .black points := by
  induction points with
  | nil => rfl
  | cons p rest ih =>
    cases rest with
    | nil => rfl
    | cons q rest => exact congrArg (.line p q .black seriesWidth :: ·) ih

theorem markers_bare (color : Color) (points : List Point) :
    (markers color points).relabel Primitive.bare = markers .black points := by
  have hmarker : ∀ color p, marker color p =
      (Rect.ofSize (p.x.shift (-5)) (p.y.shift (-5)) 10 10).map (.ellipse · color) := by
    intro color p
    show (Rect.ofSize (p.x.shift (-5)) (p.y.shift (-5)) 10 10 >>= _) = _
    cases Rect.ofSize (p.x.shift (-5)) (p.y.shift (-5)) 10 10 <;> rfl
  unfold markers
  rw [Trace.relabel_all, List.map_map]
  refine congrArg Trace.all (List.map_congr_left fun p _ => ?_)
  show ((Trace.check (marker color p)).andThen Trace.step).relabel Primitive.bare =
    (Trace.check (marker .black p)).andThen Trace.step
  rw [hmarker color, hmarker .black]
  cases Rect.ofSize (p.x.shift (-5)) (p.y.shift (-5)) 10 10 <;> rfl

/-- The color of a series does not decide where its points are. -/
theorem line_bare (s : Series) :
    c.bare.line style.bare s.bare = (c.line style s).map fun l => (.black, l.2) := by
  have hpixels : c.bare.pixels s.bare = c.pixels s := rfl
  unfold line
  rw [hpixels]
  cases c.pixels s <;> rfl

theorem mapM_line_bare (series : List Series) :
    (series.map Series.bare).mapM (c.bare.line style.bare) =
      (series.mapM (c.line style)).map (List.map fun l => (.black, l.2)) := by
  induction series with
  | nil => rfl
  | cons s rest ih =>
    rw [List.map_cons, List.mapM_cons, line_bare, ih, List.mapM_cons]
    cases c.line style s with
    | error e => rfl
    | ok l => cases rest.mapM (c.line style) <;> rfl

/-- What is drawn of the series after their points have been placed. -/
theorem lines_bare (lines : List (Color × List Point)) :
    let bare := lines.map fun l => (Color.black, l.2)
    (lines.flatMap fun l => segments l.1 l.2).map Primitive.bare =
      (bare.flatMap fun l => segments l.1 l.2) ∧
    (Trace.all (lines.map fun l => markers l.1 l.2)).relabel Primitive.bare =
      Trace.all (bare.map fun l => markers l.1 l.2) := by
  intro bare
  constructor
  · rw [List.map_flatMap, List.flatMap_map]
    simp only [segments_bare]
  · rw [Trace.relabel_all, List.map_map, List.map_map]
    exact congrArg Trace.all (List.map_congr_left fun l _ => markers_bare l.1 l.2)

theorem captions_bare : (c.series.mapIdx (caption style c)).map Primitive.bare =
    c.bare.series.mapIdx (caption style.bare c.bare) := by
  have hcaption : ∀ index s, (caption style c index s).bare =
      caption style.bare c.bare index s.bare := fun _ _ => rfl
  refine List.ext_getElem? fun i => ?_
  show _ = ((c.series.map Series.bare).mapIdx (caption style.bare c.bare))[i]?
  simp [Function.comp_def, hcaption]

theorem calloutSketch_bare (bounds : Rect) :
    (c.calloutSketch style bounds).relabel Primitive.bare =
      c.bare.calloutSketch style.bare bounds := by
  unfold calloutSketch bare
  cases c.annotation with
  | none => rfl
  | some a => exact Trace.relabel_andThen rfl fun _ => rfl

/-- A chart is cut into its parts, and none of them depends on a color or a word. -/
theorem sketch_bare : (c.sketch style).relabel Primitive.bare = c.bare.sketch style.bare := by
  rw [sketch_eq, sketch_eq]
  refine Trace.relabel_andThen rfl fun bounds => ?_
  refine Trace.relabel_andThen rfl fun _ => ?_
  show _ = (Trace.check ((c.series.map Series.bare).mapM (c.bare.line style.bare))).andThen _
  rw [mapM_line_bare]
  refine Trace.relabel_check_andThen fun lines => ?_
  obtain ⟨hsegments, hmarkers⟩ := lines_bare lines
  refine Trace.relabel_andThen (congrArg Trace.steps hsegments) fun _ => ?_
  refine Trace.relabel_andThen hmarkers fun _ => ?_
  refine Trace.relabel_andThen (congrArg Trace.steps (captions_bare style c)) fun _ => ?_
  exact calloutSketch_bare style c bounds

end Chart

/-! ### Shapes -/

namespace Shape

variable (style : Style)

/-- Taking out colors and words before sketching a shape comes to the same as doing so
afterwards. -/
theorem sketch_bare (s : Shape) :
    (s.sketch style).relabel Primitive.bare = s.bare.sketch style.bare := by
  cases s with
  | panel x y w h title =>
    rw [sketch_panel, bare, sketch_panel]
    cases title with
    | none => exact Trace.relabel_andThen rfl fun _ => rfl
    | some t => exact Trace.relabel_andThen rfl fun _ => rfl
  | bullet x y label status => exact Trace.relabel_andThen rfl fun _ => rfl
  | arrow x1 y1 x2 y2 status => rfl
  | chart c => exact c.sketch_bare style
  | text x y words role tone => rfl
  | block x y w h radius fill outline =>
    rw [sketch_block, bare, sketch_block]
    cases outline with
    | none => exact Trace.relabel_andThen rfl fun _ => rfl
    | some tone => exact Trace.relabel_andThen rfl fun _ => rfl

theorem plan_bare (ascentOf : Font → Float) (s : Shape) :
    (s.plan ascentOf style).relabel Call.bare = s.bare.plan ascentOf style.bare := by
  unfold plan
  rw [Trace.relabel_expand (Primitive.plan_bare ascentOf), sketch_bare]

theorem planAll_bare (ascentOf : Font → Float) (shapes : List Shape) :
    (planAll ascentOf style shapes).relabel Call.bare =
      planAll ascentOf style.bare (shapes.map bare) := by
  unfold planAll
  rw [Trace.relabel_all, List.map_map, List.map_map]
  exact congrArg Trace.all (List.map_congr_left fun s _ => plan_bare style ascentOf s)

end Shape

/-! ### Devices -/

namespace Context

variable {x y : Context}

/-- The coordinate systems of two contexts are the same, those that were put aside included. -/
structure Aligned (x y : Context) : Prop where
  transform : x.pen.transform = y.pen.transform
  saved : x.saved.map (·.transform) = y.saved.map (·.transform)

/-- A call without its color and its words moves the coordinate system in the same way. -/
theorem Aligned.next_bare (h : Aligned x y) (c : Call) : Aligned (x.next c) (y.next c.bare) := by
  cases c with
  | contextNew => exact ⟨rfl, rfl⟩
  | translate a b => exact ⟨congrArg (· ++ [Motion.translate a b]) h.transform, h.saved⟩
  | scale a b => exact ⟨congrArg (· ++ [Motion.scale a b]) h.transform, h.saved⟩
  | save =>
    refine ⟨h.transform, ?_⟩
    show x.pen.transform :: x.saved.map (·.transform) = y.pen.transform :: y.saved.map (·.transform)
    rw [h.transform, h.saved]
  | restore =>
    obtain ⟨pen, saved, path, marks⟩ := x
    obtain ⟨pen', saved', path', marks'⟩ := y
    have hsaved : saved.map (·.transform) = saved'.map (·.transform) := h.saved
    cases saved with
    | nil =>
      -- with nothing to restore, both stay as they are
      obtain rfl : saved' = [] := List.map_eq_nil_iff.mp hsaved.symm
      exact h
    | cons p rest =>
      cases saved' with
      | nil => cases hsaved
      | cons p' rest' =>
        obtain ⟨hp, hrest⟩ := List.cons.inj hsaved
        exact ⟨hp, hrest⟩
  | _ => exact ⟨h.transform, h.saved⟩

theorem Aligned.reached_bare (h : Aligned x y) (script : Script) :
    Aligned (x.reached script) (y.reached (script.map Call.bare)) := by
  induction script generalizing x y with
  | nil => exact h
  | cons c rest ih => exact ih (h.next_bare c)

end Context

namespace Device

variable {α : Type}

/-- A device that has recorded bare calls only. -/
def bare (d : Device) : Device := { d with calls := d.calls.map Call.bare }

theorem recording_bare (d : Device) : d.bare.recording = d.recording.map Call.bare := by
  simp [recording, bare]

/-- A call is refused for its number, and for being one that can fail. -/
theorem call_bare (d : Device) (c : Call) :
    d.bare.call c.bare = ((d.call c).1, (d.call c).2.bare) := by
  simp [call, bare]

theorem perform_bare (d : Device) (script : Script) :
    d.bare.perform (script.map Call.bare) = ((d.perform script).1, (d.perform script).2.bare) := by
  induction script generalizing d with
  | nil => rfl
  | cons c rest ih =>
    rw [List.map_cons]
    have hc := d.call_bare c
    cases h : (d.call c).1 with
    | true =>
      rw [perform_cons_of_works (by rw [hc, h]), perform_cons_of_works h, hc, ih]
    | false =>
      rw [perform_cons_of_refused (by rw [hc, h]), perform_cons_of_refused h, hc]

theorem play_bare (d : Device) (t : Trace Call α) :
    d.bare.play (t.relabel Call.bare) = ((d.play t).1, (d.play t).2.bare) := by
  have hitems : (t.relabel Call.bare).items = t.items.map Call.bare := rfl
  unfold play
  rw [hitems, perform_bare]
  rcases d.perform t.items with ⟨works, after⟩
  cases works <;> rfl

/-- What the device answers does not depend on colors and words. -/
theorem ascentOf_bare (d : Device) : d.bare.ascentOf = d.ascentOf := by
  have haligned : Context.Aligned d.context d.bare.context := by
    have hcalls : d.bare.calls.toList = d.calls.toList.map Call.bare := Array.toList_map
    rw [context, context, hcalls]
    exact Context.Aligned.reached_bare ⟨rfl, rfl⟩ d.calls.toList
  funext font
  rw [ascentOf, ascentOf, haligned.transform]
  rfl

end Device

/-! ### Jobs -/

namespace Job

variable {ε α β : Type}

/-- `bare` does without colors and words what `job` does: from a session whose device has recorded
the bare calls of another one, it ends in the same way, and so that this is again the case. -/
def Shadows (job bare : Job ε α) : Prop :=
  ∀ s s', s'.device = s.device.bare →
    (bare s').1 = (job s).1 ∧ (bare s').2.device = (job s).2.device.bare

theorem shadows_perform {drawing drawing' : Drawing α} {plan plan' : (Font → Float) → Trace Call α}
    (hplan : drawing.Follows plan) (hplan' : drawing'.Follows plan')
    (hbare : ∀ ascentOf, (plan ascentOf).relabel Call.bare = plan' ascentOf) :
    Shadows (perform drawing) (perform drawing') := by
  intro s s' h
  rw [perform_apply, perform_apply, h, hplan, hplan', Device.ascentOf_bare, ← hbare,
    Device.play_bare]
  exact ⟨rfl, rfl⟩

/-- Notices may differ as they like. -/
theorem shadows_tell (notices others : List Notice) :
    Shadows (tell notices : Job ε Unit) (tell others) :=
  fun _ _ h => ⟨rfl, h⟩

theorem Shadows.bind {job bare : Job ε α} {f g : α → Job ε β} (hjob : Shadows job bare)
    (hf : ∀ a, Shadows (f a) (g a)) : Shadows (job >>= f) (bare >>= g) := by
  intro s s' h
  obtain ⟨hresult, hdevice⟩ := hjob s s' h
  rcases hj : job s with ⟨r, after⟩
  rcases hb : bare s' with ⟨r', after'⟩
  rw [hj, hb] at hresult hdevice
  obtain rfl : r' = r := hresult
  cases r' with
  | error e =>
    rw [bind_of_error hj, bind_of_error hb]
    exact ⟨rfl, hdevice⟩
  | ok a =>
    rw [bind_of_ok hj, bind_of_ok hb]
    exact hf a after after' hdevice

end Job

/-! ### Diagrams -/

theorem Canvas.plan_bare (size : CanvasSize) (background : Color) :
    (plan size background).relabel Call.bare = plan size .black := by
  unfold plan
  cases size.area with
  | error e => rfl
  | ok area => rfl

namespace Diagram

theorem draw_bare (style : Style) (size : CanvasSize) (d : Diagram) :
    Job.Shadows (d.draw style size) (d.bare.draw style.bare size) := by
  unfold draw
  refine (Job.shadows_perform (Canvas.follows_create size style.theme.background)
    (Canvas.follows_create size .black)
    fun _ => Canvas.plan_bare size style.theme.background).bind fun area => ?_
  refine (Job.shadows_tell _ _).bind fun _ => ?_
  exact Job.shadows_perform (Shape.follows_drawAll style d.shapes)
    (Shape.follows_drawAll style.bare d.bare.shapes)
    fun ascentOf => Shape.planAll_bare style ascentOf d.shapes

/-- **Geometry independent of palette and wording.**  Two diagrams that differ in nothing but
words, statuses and tones, drawn in any two themes with the same fonts, on canvases of the same
size and on devices that refuse the same call: both drawings succeed or fail with the same error,
and their recordings are equal call by call except for colors and words. -/
theorem draw_of_bare_eq (typography : Typography) (theme theme' : Theme) (size : CanvasSize)
    {d e : Diagram} (h : d.bare = e.bare) (s : Session) :
    let run := d.draw ⟨theme, typography⟩ size s
    let other := e.draw ⟨theme', typography⟩ size s
    run.1 = other.1 ∧
    run.2.device.recording.length = other.2.device.recording.length ∧
    run.2.device.recording.map Call.bare = other.2.device.recording.map Call.bare := by
  intro run other
  -- both have the same shadow
  let shadow := d.bare.draw ⟨.blank, typography⟩ size { s with device := s.device.bare }
  obtain ⟨hresult, hdevice⟩ : shadow.1 = run.1 ∧ shadow.2.device = run.2.device.bare :=
    draw_bare ⟨theme, typography⟩ size d s _ rfl
  obtain ⟨hresult', hdevice'⟩ : shadow.1 = other.1 ∧ shadow.2.device = other.2.device.bare := by
    show (d.bare.draw ⟨.blank, typography⟩ size _).1 = _ ∧ (d.bare.draw _ _ _).2.device = _
    rw [h]
    exact draw_bare ⟨theme', typography⟩ size e s _ rfl
  have hcalls : run.2.device.recording.map Call.bare = other.2.device.recording.map Call.bare := by
    rw [← Device.recording_bare, ← Device.recording_bare, ← hdevice, hdevice']
  refine ⟨hresult.symm.trans hresult', ?_, hcalls⟩
  simpa using congrArg List.length hcalls

/-- A panel, a bullet and a chart in two wordings, with the thirtieth call refused. -/
theorem draw_of_bare_eq_of_two_wordings :
    let plan : Diagram := ⟨"plan", [.panel 20 20 300 200 (some "Plan"),
      .bullet 40 60 "begun" .info,
      .chart ⟨400, 20, 500, 300, [⟨"cost", .ok, [⟨0, 0.5⟩, ⟨1, 0.25⟩]⟩],
        some ⟨⟨0.5, 0.5⟩, "now", "", .caution⟩⟩]⟩
    let report : Diagram := ⟨"report", [.panel 20 20 300 200 (some ""),
      .bullet 40 60 "late" .critical,
      .chart ⟨400, 20, 500, 300, [⟨"spent", .elevated, [⟨0, 0.5⟩, ⟨1, 0.25⟩]⟩],
        some ⟨⟨0.5, 0.5⟩, "too late", "", .critical⟩⟩]⟩
    let start : Session := { files := ⟨[], []⟩, device := { refusing := some 29 } }
    let run := plan.draw ⟨.standard, ⟨.builtin, {}⟩⟩ {} start
    let other := report.draw ⟨.blank, ⟨.builtin, {}⟩⟩ {} start
    plan.bare = report.bare ∧ run.1 = other.1 ∧
      run.2.device.recording.length = other.2.device.recording.length ∧
      run.2.device.recording.map Call.bare = other.2.device.recording.map Call.bare := by
  intro plan report start
  have hbare : plan.bare = report.bare := rfl
  have hdraw := draw_of_bare_eq ⟨.builtin, {}⟩ .standard .blank {} hbare start
  exact And.intro hbare hdraw

end Diagram

end Placard
