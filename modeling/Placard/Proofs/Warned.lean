/-
Placard/Proofs/Warned.lean

The warnings of a drawing.

The warnings are told between the making of the canvas and the first shape.  So it only matters for
them whether the canvas is made (`Canvas.Made`), and not how the drawing goes on: the device may
refuse a call of some shape, and a shape may be invalid, with others after it.  What is warned of is
`Diagram.outside`, a filter of the numbers of all shapes, and a larger rectangle contains what a
smaller one contains (`Rect.contains_trans`).
-/
import Placard.Proofs.Composition
import Placard.Proofs.Union

namespace Placard

/-! ### Scripts that work -/

/-- A script works to its end unless the device refuses one of its calls that can fail. -/
theorem Device.perform_works_iff {d : Device} {script : Script} : (d.perform script).1 = true ↔
    ∀ k c, script[k]? = some c → c.fallible = true →
      d.refusing ≠ some (d.recording.length + k) := by
  cases hr : d.refusing with
  | none =>
    rw [perform_of_refusing_none hr]
    exact ⟨fun _ _ _ _ _ => nofun, fun _ => rfl⟩
  | some n =>
    have hd : d = d.refuse n := by
      obtain ⟨backend, calls, refusing⟩ := d
      obtain rfl : refusing = some n := hr
      rfl
    constructor
    · intro hworks k c hk hc hn
      obtain rfl := Option.some.inj hn
      rw [hd, perform_refuse_of_fallible hk hc] at hworks
      cases hworks
    · intro h
      rw [hd, perform_refuse_of_spared]
      intro k c hk hn
      by_contra hc
      exact h k c hk (eq_true_of_ne_false hc) (congrArg some hn.symm)

namespace Canvas

variable {size : CanvasSize} {background : Color} {device : Device} {area : Rect}

/-- The device makes the canvas. -/
def Made (size : CanvasSize) (background : Color) (device : Device) : Prop :=
  ∃ area, (device.run (create size background)).1 = .ok area

theorem run_create_eq_ok_iff : (device.run (create size background)).1 = .ok area ↔
    size.area = .ok area ∧ (device.perform (opening size background)).1 = true := by
  rw [follows_create size background device, Device.play_eq_ok_iff]
  cases ha : size.area with
  | error e =>
    rw [plan_of_error ha]
    constructor
    · rintro ⟨h, -⟩
      cases h
    · rintro ⟨h, -⟩
      cases h
  | ok a => rw [plan_of_ok ha]

/-- A canvas is made if it has an area and none of the calls that make it is refused. -/
theorem made_iff : Made size background device ↔
    (0 < size.width.val ∧ 0 < size.height.val) ∧
      ∀ k c, (opening size background)[k]? = some c → c.fallible = true →
        device.refusing ≠ some (device.recording.length + k) := by
  have harea : (∃ area, size.area = .ok area) ↔ 0 < size.width.val ∧ 0 < size.height.val := by
    constructor
    · rintro ⟨area, ha⟩
      unfold CanvasSize.area at ha
      split at ha
      · cases ha
      · omega
    · exact fun h => CanvasSize.area_of_pos h.1 h.2
  unfold Made
  simp only [run_create_eq_ok_iff, exists_and_right, harea, Device.perform_works_iff]

end Canvas

/-! ### What is outside -/

/-- The rectangle is not contained in the one from the origin of a canvas to its size. -/
def Rect.Beyond (r : Rect) (size : CanvasSize) : Prop :=
  r.x.val < 0 ∨ r.y.val < 0 ∨ size.width.val < r.right ∨ size.height.val < r.bottom

theorem Rect.contains_trans {a b c : Rect} (hab : a.contains b = true) (hbc : b.contains c = true) :
    a.contains c = true := by
  rw [contains_iff] at *
  omega

namespace CanvasSize

variable {size larger : CanvasSize} {area area' : Rect}

theorem area_edges (h : size.area = .ok area) : area.x.val = 0 ∧ area.y.val = 0 ∧
    area.right = size.width.val ∧ area.bottom = size.height.val := by
  unfold CanvasSize.area at h
  split at h
  · cases h
  · obtain rfl := Except.ok.inj h
    exact ⟨rfl, rfl, Int.zero_add _, Int.zero_add _⟩

theorem contains_eq_false_iff (h : size.area = .ok area) (r : Rect) :
    area.contains r = false ↔ r.Beyond size := by
  obtain ⟨hx, hy, hright, hbottom⟩ := area_edges h
  rw [← Bool.not_eq_true, Rect.contains_iff, Rect.Beyond, hx, hy, hright, hbottom]
  omega

theorem area_contains (h : size.area = .ok area) (h' : larger.area = .ok area')
    (hw : size.width.val ≤ larger.width.val) (hh : size.height.val ≤ larger.height.val) :
    area'.contains area = true := by
  have := area_edges h
  have := area_edges h'
  rw [Rect.contains_iff]
  omega

end CanvasSize

namespace Diagram

variable {style : Style} {size : CanvasSize} {d : Diagram} {s : Session} {area a b : Rect}

theorem leaves_eq_true_iff {t : Shape} (h : size.area = .ok area) :
    leaves area t = true ↔ ∃ r, t.extent? = some r ∧ r.Beyond size := by
  unfold leaves
  rw [Option.any_eq_true]
  simp only [Bool.not_eq_true', CanvasSize.contains_eq_false_iff h]

/-- What leaves a rectangle leaves every rectangle in it. -/
theorem leaves_of_contains {t : Shape} (hab : b.contains a = true) (h : leaves b t = true) :
    leaves a t = true := by
  unfold leaves at *
  rw [Option.any_eq_true] at *
  obtain ⟨r, hr, hbr⟩ := h
  refine ⟨r, hr, ?_⟩
  rw [Bool.not_eq_true'] at *
  by_contra har
  rw [Rect.contains_trans hab (eq_true_of_ne_false har)] at hbr
  cases hbr

/-- The numbers are increasing: they are some of those of all shapes, in their order. -/
theorem pairwise_outside (d : Diagram) (area : Rect) : (d.outside area).Pairwise (· < ·) := by
  have hall : (d.shapes.zipIdx.map (·.2)).Pairwise (· < ·) := by
    rw [List.zipIdx_map_snd]
    exact List.pairwise_lt_range' 1
  exact hall.sublist (List.filter_sublist.map _)

theorem outside_sublist (hab : b.contains a = true) (d : Diagram) :
    (d.outside b).Sublist (d.outside a) :=
  (List.monotone_filter_right _ fun _ h => leaves_of_contains hab h).map _

/-! ### What is told -/

theorem draw_notices_of_ok
    (h : (s.device.run (Canvas.create size style.theme.background)).1 = .ok area) :
    (d.draw style size s).2.notices = s.notices ++ d.warnings size area := by
  have hmade := Job.perform_apply (Canvas.create size style.theme.background) s
  rw [h] at hmade
  unfold draw
  rw [Job.bind_of_ok hmade, Job.bind_of_ok (Job.tell_apply _ _), Job.perform_notices]

theorem draw_notices_of_error {e : DrawError}
    (h : (s.device.run (Canvas.create size style.theme.background)).1 = .error e) :
    (d.draw style size s).2.notices = s.notices := by
  have hmade := Job.perform_apply (Canvas.create size style.theme.background) s
  rw [h] at hmade
  unfold draw
  rw [Job.bind_of_error hmade]

/-- **Warnings of shapes outside.**  If the canvas is made, drawing a diagram on it adds one warning
for each shape that has an extent not contained in the canvas, in the order of the shapes, and adds
nothing else; this is so in whatever way the drawing goes on and ends.  If the canvas is not made,
because it has no area or because one of the calls that make it is refused, nothing is added.  What
leaves a rectangle leaves every rectangle in it, so that a larger canvas never adds a warning. -/
theorem draw_warns_of_shapes_outside (d : Diagram) (size : CanvasSize) :
    (∀ area, size.area = .ok area →
      (d.outside area).Pairwise (· < ·) ∧
      (∀ i, i ∈ d.outside area ↔
        ∃ t r, d.shapes[i]? = some t ∧ t.extent? = some r ∧ r.Beyond size) ∧
      (∀ i, (Notice.shapeOutside i d.name size).level = .warn) ∧
      ∀ style s, Canvas.Made size style.theme.background s.device →
        (d.draw style size s).2.notices =
          s.notices ++ (d.outside area).map fun i => .shapeOutside i d.name size) ∧
    (∀ style s, ¬ Canvas.Made size style.theme.background s.device →
      (d.draw style size s).2.notices = s.notices) ∧
    (∀ background device, Canvas.Made size background device ↔
      (0 < size.width.val ∧ 0 < size.height.val) ∧
        ∀ k c, (Canvas.opening size background)[k]? = some c → c.fallible = true →
          device.refusing ≠ some (device.recording.length + k)) ∧
    (∀ a b : Rect, b.contains a = true → (d.outside b).Sublist (d.outside a)) ∧
    ∀ larger area area', size.area = .ok area → CanvasSize.area larger = .ok area' →
      size.width.val ≤ larger.width.val → size.height.val ≤ larger.height.val →
      (d.outside area').Sublist (d.outside area) := by
  refine ⟨fun area ha => ⟨pairwise_outside d area, fun i => ?_, fun _ => rfl, ?_⟩, ?_,
    fun _ _ => Canvas.made_iff, fun _ _ hab => outside_sublist hab d, ?_⟩
  · rw [mem_outside_iff]
    simp only [leaves_eq_true_iff ha, exists_and_left]
  · rintro style s ⟨area', hmade⟩
    obtain rfl := Except.ok.inj (ha.symm.trans (Canvas.run_create_eq_ok_iff.mp hmade).1)
    exact draw_notices_of_ok hmade
  · intro style s hnone
    obtain ⟨e, he⟩ := Except.exists_eq_error fun area h => hnone ⟨area, h⟩
    exact draw_notices_of_error he
  · intro larger area area' ha ha' hw hh
    exact outside_sublist (CanvasSize.area_contains ha ha' hw hh) d

/-- A text to the left of the canvas, a panel without a width, and an arrow that leads out of the
canvas.  Whether the drawing ends at the panel, or already at a call of the text, there are the same
two warnings.  A refused surface leads to none, and on a canvas of twice the width the arrow is
inside. -/
theorem draw_warns_of_shapes_outside_of_empty_panel :
    let d : Diagram := ⟨"edge", [.text (-1) 0 "left" .body .text, .panel 10 10 0 40 none,
      .arrow 10 50 300 50 .info]⟩
    let drawing := fun size device => d.draw .plain size ⟨⟨[], []⟩, device, []⟩
    (drawing ⟨200, 100⟩ {}).1 = .error (.geometry (.emptyRect 10 10 0 40)) ∧
    (drawing ⟨200, 100⟩ { refusing := some 8 }).1 = .error .device ∧
    (drawing ⟨200, 100⟩ {}).2.notices.map Notice.message =
      ["Shape #0 of 'edge' extends past the 200x100 canvas",
        "Shape #2 of 'edge' extends past the 200x100 canvas"] ∧
    (drawing ⟨200, 100⟩ { refusing := some 8 }).2.notices =
      (drawing ⟨200, 100⟩ {}).2.notices ∧
    (drawing ⟨200, 100⟩ { refusing := some 0 }).2.notices = [] ∧
    (drawing ⟨400, 100⟩ {}).2.notices.map Notice.message =
      ["Shape #0 of 'edge' extends past the 400x100 canvas"] := by
  intro d drawing
  obtain ⟨hnarrow, hnone, hmade, -, -⟩ := draw_warns_of_shapes_outside d ⟨200, 100⟩
  obtain ⟨hwide, -, hmadeWide, -, -⟩ := draw_warns_of_shapes_outside d ⟨400, 100⟩
  obtain ⟨-, -, -, htold⟩ := hnarrow _ rfl
  obtain ⟨-, -, -, htoldWide⟩ := hwide _ rfl
  let start : Option Nat → Session := fun refusing => ⟨⟨[], []⟩, { refusing }, []⟩
  have hdrawing : ∀ size refusing,
      drawing size { refusing } = d.draw .plain size (start refusing) := fun _ _ => rfl
  have hrefuse : (start none).refuse 8 = start (some 8) := rfl
  have hfree := htold .plain (start none) ((hmade _ _).mpr ⟨by decide, fun _ _ _ _ => nofun⟩)
  have hfar := htoldWide .plain (start none)
    ((hmadeWide _ _).mpr ⟨by decide, fun _ _ _ _ => nofun⟩)
  have hlate := htold .plain (start (some 8)) ((hmade _ _).mpr ⟨by decide, fun k c hk _ hn => by
    -- making the canvas takes fewer calls
    obtain rfl : 8 = k := (Option.some.inj hn).trans (Nat.zero_add k)
    cases hk⟩)
  have hnothing := hnone .plain (start (some 0)) fun h =>
    -- the surface is call number zero
    ((hmade _ _).mp h).2 0 _ rfl rfl rfl
  have hrun : d.draw .plain ⟨200, 100⟩ (start none) = _ := draw_of_area rfl rfl
  have hcall : (d.draw .plain ⟨200, 100⟩ (start none)).2.device.recording[8]? =
      some .fontExtents := by
    rw [hrun]
    rfl
  obtain ⟨-, e, herror, -, rfl⟩ :=
    (draw_stops .plain ⟨200, 100⟩ d).refused rfl (Nat.zero_le 8) hcall rfl
  rw [hrefuse] at herror
  simp only [hdrawing]
  refine ⟨?_, herror, ?_, hlate.trans hfree.symm, hnothing, ?_⟩
  · rw [hrun]
    rfl
  · rw [hfree]
    decide
  · rw [hfar]
    decide

end Diagram

end Placard
