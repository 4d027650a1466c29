/-
Placard/Proofs/Drawable.lean

Which shapes can be drawn.

The calls that draw a shape are preceded, and in a chart interrupted, by checks of its geometry.
`Shape.Drawable` puts these checks together as conditions on the numbers that the shape is given
by, and `Shape.drawn_iff_drawable` says that no other check is made and that nothing but the
geometry stops a drawing.  At the upper end of the grid a shape needs the room for its parts; at
the lower end coordinates are cut off, and no room is needed.
-/
import Placard.Proofs.Parts

namespace Placard

/-! ### Conditions -/

/-- Both fractions lie between zero and one. -/
def UnitPoint.InSquare (p : UnitPoint) : Prop := (0 ≤ p.x ∧ p.x ≤ 1) ∧ 0 ≤ p.y ∧ p.y ≤ 1

instance (p : UnitPoint) : Decidable p.InSquare := inferInstanceAs (Decidable ((_ ∧ _) ∧ _ ∧ _))

theorem UnitPoint.inside_iff {p : UnitPoint} : p.inside = true ↔ p.InSquare := by
  simp only [inside, InSquare, Bool.and_eq_true, decide_eq_true_eq]

namespace Chart

variable {style : Style} {c : Chart} {bounds : Rect}

/-- A position in the chart whose pixel has so much room on the grid to its right and below. -/
def HasRoom (c : Chart) (right below : Int) (p : UnitPoint) : Prop :=
  p.InSquare ∧ (c.place p).x.val ≤ Pixel.greatest - right ∧
    (c.place p).y.val ≤ Pixel.greatest - below

instance (c : Chart) (right below : Int) (p : UnitPoint) : Decidable (c.HasRoom right below p) :=
  inferInstanceAs (Decidable (_ ∧ _ ∧ _))

/-- The chart is on the grid, with room for its markers and its callout. -/
structure Drawable (c : Chart) : Prop where
  fits : Rect.Fits c.x c.y c.w c.h
  markers : ∀ s ∈ c.series, ∀ p ∈ s.points, c.HasRoom 5 5 p
  callout : ∀ a ∈ c.annotation, c.HasRoom 220 30 a.anchor

instance (c : Chart) : Decidable c.Drawable :=
  decidable_of_iff (Rect.Fits c.x c.y c.w c.h ∧
      (∀ s ∈ c.series, ∀ p ∈ s.points, c.HasRoom 5 5 p) ∧
      ∀ a ∈ c.annotation, c.HasRoom 220 30 a.anchor)
    ⟨fun ⟨fits, markers, callout⟩ => ⟨fits, markers, callout⟩,
      fun ⟨fits, markers, callout⟩ => ⟨fits, markers, callout⟩⟩

end Chart

/-- What the numbers that a shape is given by have to fulfil for it to be drawn. -/
def Shape.Drawable : Shape → Prop
  | panel x y w h _ => Rect.Fits x y w h
  | block x y w h radius _ _ => Rect.Fits x y w h ∧ ¬ radius < 0 ∧ radius.isFinite = true
  | bullet x y _ _ => x.val + 10 ≤ Pixel.greatest ∧ y.val + 18 ≤ Pixel.greatest
  | arrow _ _ _ _ _ => True
  | text _ _ _ _ _ => True
  | chart c => c.Drawable

instance : (s : Shape) → Decidable s.Drawable
  | .panel x y w h _ => inferInstanceAs (Decidable (Rect.Fits x y w h))
  | .block x y w h radius _ _ =>
    inferInstanceAs (Decidable (Rect.Fits x y w h ∧ ¬ radius < 0 ∧ radius.isFinite = true))
  | .bullet x y _ _ =>
    inferInstanceAs (Decidable (x.val + 10 ≤ Pixel.greatest ∧ y.val + 18 ≤ Pixel.greatest))
  | .arrow _ _ _ _ _ => .isTrue trivial
  | .text _ _ _ _ _ => .isTrue trivial
  | .chart c => inferInstanceAs (Decidable c.Drawable)

/-! ### Charts -/

namespace Chart

variable {style : Style} {c : Chart}

/-- What holds of frames, texts, segments, markers and arrows holds of all that a chart is drawn
with, however far the drawing gets. -/
theorem forall_mem_sketch {P : Primitive → Prop}
    (hbox : ∀ bounds fill outline, P (.box bounds cornerRadius fill outline))
    (htext : ∀ position content color font, P (.text position content color font))
    (hsegment : ∀ start stop color, P (.line start stop color seriesWidth))
    (hmarker : ∀ bounds color, P (.ellipse bounds color))
    (harrow : ∀ start stop status, ∀ p ∈ style.arrow start stop status, P p) :
    ∀ p ∈ (c.sketch style).items, P p := by
  rw [sketch_eq, Trace.forall_items_check_andThen]
  intro bounds _
  rw [Trace.forall_items_steps_andThen, List.forall_mem_singleton,
    Trace.forall_items_check_andThen]
  refine ⟨hbox _ _ _, fun lines _ => ?_⟩
  rw [Trace.forall_items_steps_andThen, Trace.forall_items_andThen]
  refine ⟨?_, ?_, fun _ _ => ?_⟩
  · intro p hp
    obtain ⟨l, -, hp⟩ := List.mem_flatMap.mp hp
    obtain ⟨start, -, stop, -, rfl⟩ := mem_segments hp
    exact hsegment _ _ _
  · intro p hp
    obtain ⟨t, ht, hp⟩ := Trace.mem_items_all hp
    obtain ⟨l, -, rfl⟩ := List.mem_map.mp ht
    obtain ⟨t, ht, hp⟩ := Trace.mem_items_all hp
    obtain ⟨q, -, rfl⟩ := List.mem_map.mp ht
    have hmarkers : ∀ p ∈ ((Trace.check (marker l.1 q)).andThen Trace.step).items, P p := by
      rw [Trace.forall_items_check_andThen]
      intro m hm
      obtain ⟨-, r, -, rfl⟩ := marker_eq_ok.mp hm
      exact List.forall_mem_singleton.mpr (hmarker _ _)
    exact hmarkers p hp
  · rw [Trace.forall_items_steps_andThen, forall_items_calloutSketch]
    constructor
    · intro p hp
      obtain ⟨i, hi, rfl⟩ := List.mem_mapIdx.mp hp
      exact htext _ _ _ _
    · intro a _ l _ p hp
      rcases List.mem_append.mp hp with hp | hp
      · rcases List.mem_cons.mp hp with rfl | hp
        · exact hbox _ _ _
        · rcases List.mem_cons.mp hp with rfl | hp
          · exact htext _ _ _ _
          · obtain rfl := List.mem_singleton.mp hp
            exact htext _ _ _ _
      · exact harrow _ _ _ p hp

/-- Nothing that a chart is drawn with is refused. -/
theorem fault?_of_mem_sketch : ∀ p ∈ (c.sketch style).items, p.fault? = none := by
  have hwidth : ¬ seriesWidth ≤ 0 := by decide +kernel
  refine forall_mem_sketch ?_ (fun _ _ _ _ => rfl) ?_ (fun _ _ => rfl)
    fun _ _ _ _ => Style.fault?_of_mem_arrow
  · intro bounds fill outline
    exact Primitive.fault?_roundedRect_eq_none.mpr (by decide +kernel)
  · intro start stop color
    rw [Primitive.fault?, if_neg hwidth]

/-- A callout has a place if its anchor has room for it. -/
theorem exists_layout_eq_ok {bounds : Rect} (hb : c.bounds = .ok bounds) {a : Annotation} :
    (∃ l, a.layout bounds = .ok l) ↔ c.HasRoom 220 30 a.anchor := by
  simp only [Chart.layout_eq_ok hb, exists_and_left, Callout.exists_around_eq_ok,
    UnitPoint.inside_iff, HasRoom]

theorem sketch_ok_iff_drawable : (c.sketch style).outcome = .ok () ↔ c.Drawable := by
  by_cases hfits : Rect.Fits c.x c.y c.w c.h
  · obtain ⟨bounds, hb⟩ : ∃ bounds, c.bounds = .ok bounds := Rect.exists_ofSize_eq_ok.mpr hfits
    have hlayout : ∀ a ∈ c.annotation, (∃ l, a.layout bounds = .ok l) ↔
        c.HasRoom 220 30 a.anchor := fun _ _ => exists_layout_eq_ok hb
    rw [outcome_sketch_eq_ok hb, forall₂_congr hlayout]
    simp only [lines, List.forall_mem_map, UnitPoint.inside_iff]
    constructor
    · rintro ⟨hinside, hroom, hcallout⟩
      exact ⟨hfits, fun s hs p hp => ⟨hinside s hs p hp, hroom s hs p hp⟩, hcallout⟩
    · rintro ⟨-, hmarkers, hcallout⟩
      exact ⟨fun s hs p hp => (hmarkers s hs p hp).1, fun s hs p hp => (hmarkers s hs p hp).2,
        hcallout⟩
  · -- not even the container is drawn
    constructor
    · intro h
      exact absurd (Rect.exists_ofSize_eq_ok.mp (exists_bounds_of_outcome h)) hfits
    · exact fun h => absurd h.fits hfits

end Chart

/-! ### All shapes -/

namespace Shape

variable {style : Style}

theorem fits_dot {x y : Pixel} : Rect.Fits x (y.shift 8) dotSize dotSize ↔
    x.val + 10 ≤ Pixel.greatest ∧ y.val + 18 ≤ Pixel.greatest := by
  have hsize : dotSize.val = 10 := rfl
  simp only [Rect.Fits, Pixel.shift_val, hsize, Pixel.greatest]
  have := y.least_le
  omega

/-- The plan of a shape succeeds if the numbers are right. -/
theorem plan_ok_iff_drawable {ascentOf : Font → Float} {s : Shape} :
    (s.plan ascentOf style).outcome = .ok () ↔ s.Drawable := by
  rw [outcome_plan_eq_ok]
  cases s with
  | panel x y w h title =>
    rw [sketch_panel, Trace.check_andThen_steps_iff, Drawable, ← Rect.exists_ofSize_eq_ok]
    refine exists_congr fun bounds => and_iff_left fun p hp => ?_
    rcases List.mem_cons.mp hp with rfl | hp
    · exact Primitive.fault?_roundedRect_eq_none.mpr (by decide +kernel)
    · obtain ⟨t, -, rfl⟩ := Option.map_eq_some_iff.mp (Option.mem_toList.mp hp)
      rfl
  | block x y w h radius fill outline =>
    rw [sketch_block, Trace.check_andThen_steps_iff, Drawable, ← Rect.exists_ofSize_eq_ok]
    simp only [List.forall_mem_singleton, Primitive.fault?_roundedRect_eq_none, exists_and_right]
  | bullet x y label status =>
    rw [sketch_bullet, Trace.check_andThen_steps_iff, Drawable, ← fits_dot,
      ← Rect.exists_ofSize_eq_ok]
    refine exists_congr fun bounds => and_iff_left fun p hp => ?_
    rcases List.mem_cons.mp hp with rfl | hp
    · rfl
    · obtain rfl := List.mem_singleton.mp hp
      rfl
  | arrow x1 y1 x2 y2 status =>
    exact ⟨fun _ => trivial, fun _ => ⟨rfl, fun _ => Style.fault?_of_mem_arrow⟩⟩
  | text x y words role tone =>
    exact ⟨fun _ => trivial, fun _ => ⟨rfl, List.forall_mem_singleton.mpr rfl⟩⟩
  | chart c =>
    rw [sketch_chart, Drawable, ← @Chart.sketch_ok_iff_drawable style c]
    exact and_iff_left Chart.fault?_of_mem_sketch

variable {backend : Backend} {calls : Array Call}

theorem run_draw_eq_ok_iff {s : Shape} :
    (Device.run { backend, calls } (s.draw style)).1 = .ok () ↔ s.Drawable := by
  rw [(follows_draw style s).run_of_refusing_none rfl, Except.mapError_eq_ok, plan_ok_iff_drawable]

theorem exists_fault_of_not_drawable {s : Shape} (h : ¬ s.Drawable) :
    ∃ fault, (Device.run { backend, calls } (s.draw style)).1 = .error (.geometry fault) := by
  rw [(follows_draw style s).run_of_refusing_none rfl]
  cases ho : (s.plan (Device.ascentOf { backend, calls }) style).outcome with
  | ok u => exact absurd (plan_ok_iff_drawable.mp ho) h
  | error fault => exact ⟨fault, rfl⟩

/-- **Exactly which shapes are drawn.**  On a device that refuses nothing, whatever was drawn on it
before and in whatever style, a shape is drawn if its numbers fulfil the conditions of
`Shape.Drawable`, and otherwise the drawing fails with a fault of the geometry. -/
theorem drawn_iff_drawable (style : Style) (s : Shape) (backend : Backend) (calls : Array Call) :
    let result := (Device.run { backend, calls } (s.draw style)).1
    (result = .ok () ↔ s.Drawable) ∧
      (¬ s.Drawable → ∃ fault, result = .error (.geometry fault)) :=
  ⟨run_draw_eq_ok_iff, exists_fault_of_not_drawable⟩

/-- A point at the very end of the grid is inside of its chart, but its marker is not on the
grid. -/
example : ¬ (chart ⟨2147483547, 0, 100, 100, [⟨"edge", .ok, [⟨1, 0.5⟩]⟩], none⟩).Drawable := by
  decide +kernel

end Shape

end Placard
