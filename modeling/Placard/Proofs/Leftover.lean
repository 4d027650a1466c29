/-
Placard/Proofs/Leftover.lean

What an invalid shape leaves on the canvas.

Only the first primitive of a shape that is no chart can be refused, and the geometry of such a
shape is checked before that: an invalid one makes no calls at all
(`Sketch.items_expand_of_error`).  A chart is cut short instead: after the container if a point
lies outside of it, at the first marker without room, or before the callout.
-/
import Placard.Proofs.Course

namespace Placard

/-! ### A single check -/

/-- With a check in front, and with nothing that can be refused after the first primitive, a drawing
fails before its first call. -/
theorem Sketch.items_expand_of_error {α : Type} {ascentOf : Font → Float} {r : Except Fault α}
    {first : α → Primitive} {rest : α → List Primitive} (hrest : ∀ a, ∀ p ∈ rest a, p.fault? = none) {fault : Fault} :
    let t : Sketch Unit := (Trace.check r).andThen fun a => Trace.steps (first a :: rest a)
    (t.expand (Primitive.plan ascentOf)).outcome = .error fault →
      (t.expand (Primitive.plan ascentOf)).items = [] := by
  intro t h
  cases r with
  | error e => rfl
  | ok a =>
    have ht : t.expand (Primitive.plan ascentOf) = ((first a).plan ascentOf).andThen fun _ =>
        (Trace.steps (rest a)).expand (Primitive.plan ascentOf) := rfl
    rw [ht] at h ⊢
    cases hfirst : (first a).fault? with
    | some e =>
      have hplan : (first a).plan ascentOf = Trace.fail e := by rw [Primitive.plan, hfirst]
      rw [hplan]
      rfl
    | none =>
      -- the first primitive is drawn, and so is everything after it
      have hplan : (first a).plan ascentOf = Trace.steps ((first a).script ascentOf) := by
        rw [Primitive.plan, hfirst]
      rw [hplan, Trace.outcome_steps_andThen, Sketch.expand_of_valid (hrest a)] at h
      cases h

namespace Drawing

variable {drawing : Drawing Unit} {plan : (Font → Float) → Trace Call Unit} {d : Device}
  {fault : Fault}

/-- After a fault of the geometry, all calls of the plan were made. -/
theorem Follows.run_of_fault (hplan : drawing.Follows plan)
    (h : (d.run drawing).1 = .error (.geometry fault)) :
    (plan d.ascentOf).outcome = .error fault ∧
      (d.run drawing).2 = d.record (plan d.ascentOf).items := by
  have hrun := hplan.run_of_not_refused (by rw [h]; exact fun he => nomatch he)
  refine ⟨?_, by rw [hrun]⟩
  rw [hrun] at h
  cases ho : (plan d.ascentOf).outcome with
  | ok u =>
    rw [ho] at h
    cases h
  | error e =>
    rw [ho] at h
    cases h
    rfl

/-- A drawing that does not fail after its first call leaves the device as it was if it fails. -/
theorem Follows.unchanged_of_fault (hplan : drawing.Follows plan)
    (hnone : ∀ ascentOf e, (plan ascentOf).outcome = .error e → (plan ascentOf).items = [])
    (h : (d.run drawing).1 = .error (.geometry fault)) : (d.run drawing).2 = d := by
  obtain ⟨ho, hd⟩ := hplan.run_of_fault h
  rw [hd, hnone _ fault ho, Device.record_nil]

end Drawing

/-! ### Everything but charts -/

/-- A primitive that is refused makes no calls. -/
theorem Primitive.items_plan_of_error {ascentOf : Font → Float} {p : Primitive} {e : Fault}
    (h : (p.plan ascentOf).outcome = .error e) : (p.plan ascentOf).items = [] := by
  unfold plan at h ⊢
  cases hp : p.fault? with
  | some e => rfl
  | none =>
    rw [hp] at h
    cases h

namespace Shape

variable {style : Style}

/-- An invalid shape makes no calls, unless it is a chart. -/
theorem items_plan_of_error {ascentOf : Font → Float} {s : Shape} (hs : ∀ c, s ≠ chart c)
    {e : Fault} (h : (s.plan ascentOf style).outcome = .error e) :
    (s.plan ascentOf style).items = [] := by
  cases s with
  | panel x y w h title =>
    rw [plan, sketch_panel] at h ⊢
    refine Sketch.items_expand_of_error (fun bounds p hp => ?_) h
    obtain ⟨t, -, rfl⟩ := Option.map_eq_some_iff.mp (Option.mem_toList.mp hp)
    rfl
  | bullet x y label status =>
    rw [plan, sketch_bullet] at h ⊢
    refine Sketch.items_expand_of_error (fun bounds p hp => ?_) h
    obtain rfl := List.mem_singleton.mp hp
    rfl
  | block x y w h radius fill outline =>
    rw [plan, sketch_block] at h ⊢
    exact Sketch.items_expand_of_error (fun bounds => List.forall_mem_nil _) h
  | arrow x1 y1 x2 y2 status =>
    have hok : ((arrow x1 y1 x2 y2 status).plan ascentOf style).outcome = .ok () :=
      plan_ok_iff_drawable.mpr trivial
    rw [hok] at h
    cases h
  | text x y words role tone =>
    have hok : ((text x y words role tone).plan ascentOf style).outcome = .ok () :=
      plan_ok_iff_drawable.mpr trivial
    rw [hok] at h
    cases h
  | chart c => exact absurd rfl (hs c)

end Shape

/-! ### Charts -/

namespace Chart

variable {style : Style} {c : Chart} {d : Device} {fault : Fault}

/-- A chart that fails has drawn the elements of its sketch. -/
theorem draws_of_fault {elements : List Element}
    (h : (d.run ((Shape.chart c).draw style)).1 = .error (.geometry fault))
    (helements : (c.sketch style).items.map Primitive.element = elements) :
    (c.sketch style).outcome = .error fault ∧
      d.Draws ((Shape.chart c).draw style) elements := by
  obtain ⟨ho, hd⟩ := (Shape.follows_draw style (.chart c)).run_of_fault h
  rw [plan_eq] at ho hd
  exact ⟨ho, (c.sketch style).items, helements, hd⟩

end Chart

/-! ### All shapes -/

/-- **What an invalid shape leaves.**  On any device and in any style, a primitive or a shape other
than a chart that fails with a fault of the geometry makes no calls.  A chart that fails so

* makes no calls if its rectangle is invalid,
* leaves exactly its container if some point lies outside of it,
* leaves the container, all lines and the markers before the first one without room, if only the
  markers and perhaps the callout leave the grid,
* leaves everything but the callout otherwise, and it is the callout that has no room. -/
theorem leftover_of_fault (d : Device) (style : Style) :
    (∀ (p : Primitive) fault, (d.run p.draw).1 = .error (.geometry fault) →
      (d.run p.draw).2 = d) ∧
    (∀ (s : Shape) fault, (∀ c, s ≠ .chart c) →
      (d.run (s.draw style)).1 = .error (.geometry fault) → (d.run (s.draw style)).2 = d) ∧
    ∀ (c : Chart) fault, (d.run ((Shape.chart c).draw style)).1 = .error (.geometry fault) →
      ((∃ e, c.bounds = .error e) → (d.run ((Shape.chart c).draw style)).2 = d) ∧
      ∀ bounds, c.bounds = .ok bounds →
        ((∃ s ∈ c.series, ∃ p ∈ s.points, p.inside = false) →
          d.Draws ((Shape.chart c).draw style) [c.container style]) ∧
        ((∀ s ∈ c.series, ∀ p ∈ s.points, p.inside = true) →
          ((¬ ∀ q ∈ c.dots style, Chart.MarkerFits q) →
            d.Draws ((Shape.chart c).draw style) ([c.container style] ++ c.strokes style ++
              ((c.dots style).takeWhile fun q => Chart.MarkerFits q).map Chart.disc)) ∧
          ((∀ q ∈ c.dots style, Chart.MarkerFits q) →
            (∃ a ∈ c.annotation, a.layout bounds = .error fault) ∧
            d.Draws ((Shape.chart c).draw style) ([c.container style] ++ c.strokes style ++
              (c.dots style).map Chart.disc ++ c.captions style))) := by
  refine ⟨fun p fault => p.follows_draw.unchanged_of_fault fun _ _ =>
      Primitive.items_plan_of_error,
    fun s fault hs => (Shape.follows_draw style s).unchanged_of_fault fun _ _ =>
      Shape.items_plan_of_error hs,
    fun c fault h => ⟨?_, fun bounds hb => ⟨fun houtside => ?_, fun hinside =>
      ⟨fun hcrowded => ?_, fun hfits => ?_⟩⟩⟩⟩
  · rintro ⟨e, hb⟩
    refine (Shape.follows_draw style (.chart c)).unchanged_of_fault (fun _ _ _ => ?_) h
    rw [Chart.plan_eq, Chart.sketch_of_error hb]
    rfl
  · exact (Chart.draws_of_fault h (Chart.sketch_of_outside hb houtside).1).2
  · exact (Chart.draws_of_fault h (Chart.sketch_of_crowded hb hinside hcrowded).1).2
  · obtain ⟨helements, houtcome⟩ := @Chart.sketch_of_room style c bounds hb hinside hfits
    obtain ⟨ho, hdraws⟩ := Chart.draws_of_fault h helements
    rw [houtcome] at ho
    obtain ⟨hitems, hlayout⟩ := Chart.calloutSketch_of_error ho
    rw [hitems, List.map_nil, List.append_nil] at hdraws
    exact ⟨hlayout, hdraws⟩

/-- A polygon without corners, a panel and a chart without an area, a chart with a point outside of
it, one whose marker has no room and one whose callout has none. -/
theorem leftover_of_fault_everywhere :
    let run (s : Shape) := Device.run {} (s.draw Style.plain)
    let flat : Chart := ⟨0, 0, 0, 1, [], none⟩
    let beyond : Chart := ⟨0, 0, 9, 9, [⟨"", .ok, [⟨0, 0⟩, ⟨2, 0⟩]⟩], none⟩
    let edge : Chart := ⟨2147483547, 0, 100, 100, [⟨"", .ok, [⟨0, 0.5⟩, ⟨1, 0.5⟩]⟩], none⟩
    let tight : Chart := ⟨2147483547, 0, 50, 50, [⟨"", .ok, [⟨0, 0⟩, ⟨1, 1⟩]⟩],
      some ⟨⟨0, 0⟩, "", "", .ok⟩⟩
    let whole (c : Chart) (discs : Nat) := [c.container Style.plain] ++ c.strokes Style.plain ++
      ((c.dots Style.plain).take discs).map Chart.disc
    (Device.run {} (Primitive.polygon [] Style.plain.theme.text).draw).2 = {} ∧
    (run (.panel 0 0 0 1 none)).2 = {} ∧ (run (.chart flat)).2 = {} ∧
    Device.Draws {} ((Shape.chart beyond).draw Style.plain) [beyond.container Style.plain] ∧
    Device.Draws {} ((Shape.chart edge).draw Style.plain) (whole edge 1) ∧
    Device.Draws {} ((Shape.chart tight).draw Style.plain)
      (whole tight 2 ++ tight.captions Style.plain) := by
  intro run flat beyond edge tight whole
  obtain ⟨hprimitive, hshape, hchart⟩ := leftover_of_fault {} Style.plain
  have hfault (s : Shape) (hs : ¬ s.Drawable) : ∃ fault, (run s).1 = .error (.geometry fault) :=
    Shape.exists_fault_of_not_drawable hs
  have hbounds (c : Chart) (hc : Rect.Fits c.x c.y c.w c.h) : ∃ bounds, c.bounds = .ok bounds :=
    Rect.exists_ofSize_eq_ok.mpr hc
  refine ⟨hprimitive _ .noPoints rfl, ?_, ?_, ?_, ?_, ?_⟩
  · obtain ⟨fault, h⟩ := hfault (.panel 0 0 0 1 none) (by decide)
    exact hshape _ fault (fun c hc => nomatch hc) h
  · obtain ⟨fault, h⟩ := hfault (.chart flat) (by decide)
    exact (hchart flat fault h).1 ⟨_, rfl⟩
  · obtain ⟨fault, h⟩ := hfault (.chart beyond) (by decide +kernel)
    obtain ⟨bounds, hb⟩ := hbounds beyond (by decide)
    exact ((hchart beyond fault h).2 bounds hb).1 (by decide +kernel)
  · obtain ⟨fault, h⟩ := hfault (.chart edge) (by decide +kernel)
    obtain ⟨bounds, hb⟩ := hbounds edge (by decide)
    have hdraws := (((hchart edge fault h).2 bounds hb).2 (by decide +kernel)).1 (by decide +kernel)
    -- only the first marker has room
    have hlength : ((edge.dots Style.plain).takeWhile fun q => Chart.MarkerFits q).length = 1 := by
      decide +kernel
    rw [List.prefix_iff_eq_take.mp (List.takeWhile_prefix _), hlength] at hdraws
    exact hdraws
  · obtain ⟨fault, h⟩ := hfault (.chart tight) (by decide +kernel)
    obtain ⟨bounds, hb⟩ := hbounds tight (by decide)
    exact (((hchart tight fault h).2 bounds hb).2 (by decide +kernel)).2 (by decide +kernel) |>.2

end Placard
