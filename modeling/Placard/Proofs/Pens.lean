/-
Placard/Proofs/Pens.lean

The widths of pens and the radii of arcs, over whole drawings.

A width is refused if it is at most zero, and a radius if it is negative or not finite
(`Primitive.fault?`).  Every call that is recorded belongs to a primitive that passed these guards
(`Canvas.exists_calls_follow`), so that its width is positive, and its radius, which is computed
from the width, is not negative.  Both can be infinite along the way: then half of the width is
infinite as well, and the radius minus that is below every limit.

Nothing compares with NaN, not even the guard of the widths.  A pen whose width is NaN is drawn
with, and inside of a rectangle it makes NaN of the radius too (`Canvas.nan_widths_are_drawn`).
-/
import Placard.Proofs.CleanContext
import Placard.Proofs.Drawable
import Placard.Proofs.Order
import Placard.Proofs.Outline
import Placard.Proofs.Placed

namespace Placard

open Float.Model UnpackedFloat

/-! ### Floats that are not negative -/

namespace Exact

variable {x y : Float} {a : ℚ}

theorem zero_le_zero : (0 : Float) ≤ 0 := (le_iff value?_zero value?_zero).mpr le_rfl

theorem zero_le_unit : (0 : Float) ≤ 1 := (le_iff value?_zero value?_one).mpr zero_le_one

theorem isNaN_zero : (0 : Float).isNaN = false := isNaN_eq_false value?_zero

/-- What is not negative is a number or positive infinity. -/
theorem value?_or_infinity_of_nonneg (h : 0 ≤ x) :
    (∃ a, value? x = some a ∧ 0 ≤ a) ∨ x.toModel.unpack = .infinity .positive := by
  by_cases hfinite : x.isFinite = true
  · obtain ⟨a, ha⟩ := isFinite_iff.mp hfinite
    exact .inl ⟨a, ha, (le_iff value?_zero ha).mp h⟩
  · -- of what is not finite, only positive infinity is not below zero
    obtain ⟨o, ho, hgt⟩ := le_iff_compare.mp h
    replace hfinite : ¬ x.toModel.unpack.isFinite = true := hfinite
    replace ho : UnpackedFloat.compare (.zero .positive) x.toModel.unpack = some o := ho
    right
    cases hx : x.toModel.unpack with
    | infinity s =>
      cases s
      · rw [hx] at ho
        cases ho
        exact absurd rfl hgt
      · rfl
    | notANumber =>
      rw [hx] at ho
      cases ho
    | zero s =>
      rw [hx] at hfinite
      exact absurd rfl hfinite
    | finite s m e hm =>
      rw [hx] at hfinite
      exact absurd rfl hfinite

theorem nonneg_of_infinity (h : x.toModel.unpack = .infinity .positive) : 0 ≤ x :=
  le_iff_compare.mpr ⟨.lt, by rw [h]; rfl, by decide⟩

theorem half_infinity (h : x.toModel.unpack = .infinity .positive) :
    (x / 2).toModel.unpack = .infinity .positive := by
  show (Float.Model.pack (UnpackedFloat.div Format.binary64 x.toModel.unpack _)).unpack = _
  rw [h]
  rfl

theorem isNaN_pack_infinity (s : Sign) :
    (Float.Model.pack (.infinity s)).unpack.isNaN = false := by
  cases s <;> rfl

/-- Positive infinity, subtracted from a number. -/
theorem isNaN_sub_infinity (hx : value? x = some a) (h : y.toModel.unpack = .infinity .positive) :
    (x - y).isNaN = false := by
  show (Float.Model.pack
    (UnpackedFloat.sub Format.binary64 x.toModel.unpack y.toModel.unpack)).unpack.isNaN = false
  rw [h]
  have hf := standsFor_of_value? hx
  generalize x.toModel.unpack = f at hf
  cases hf <;> exact isNaN_pack_infinity _

theorem half_nonneg (h : 0 ≤ x) : 0 ≤ x / 2 := by
  rcases value?_or_infinity_of_nonneg h with ⟨a, ha, h0⟩ | hx
  · obtain ⟨i, hi, hhalf⟩ := rounds_half ha
    exact (le_iff value?_zero hhalf).mpr (hi.ge_of_ge .zero (by linarith))
  · exact nonneg_of_infinity (half_infinity hx)

/-- The difference of two floats that are not negative, the first one finite: there is no way to
get NaN. -/
theorem isNaN_sub_of_nonneg (hx : value? x = some a) (h0 : 0 ≤ a) (h : 0 ≤ y) :
    (x - y).isNaN = false := by
  rcases value?_or_infinity_of_nonneg h with ⟨b, hb, hb0⟩ | hy
  · -- a difference of numbers of the same sign does not overflow
    have hmax : |a - b| ≤ greatestFinite := by
      have hamax := (le_abs_self a).trans (abs_le_of_value? hx)
      have hbmax := (le_abs_self b).trans (abs_le_of_value? hb)
      rw [abs_le]
      constructor <;> linarith
    obtain ⟨n, -, hdiff⟩ := rounds_sub hx hb hmax
    exact isNaN_eq_false hdiff
  · exact isNaN_sub_infinity hx hy

end Exact

/-! ### The numbers of a contour -/

theorem greater_zero_nonneg (x : Float) : 0 ≤ greater x 0 := by
  unfold greater
  rw [Exact.isNaN_zero]
  split
  · exact Exact.zero_le_zero
  · rename_i hx
    rw [if_neg Bool.false_ne_true]
    split
    · exact Exact.zero_le_zero
    · rename_i hlt
      exact (Exact.not_lt_iff (Bool.eq_false_of_not_eq_true hx) Exact.isNaN_zero).mp hlt

theorem smaller_nonneg {x y : Float} (hx : 0 ≤ x) (hy : 0 ≤ y) : 0 ≤ smaller x y := by
  unfold smaller
  split_ifs
  · exact hy
  · exact hx
  · exact hy
  · exact hx

/-- NaN is below no limit and above none. -/
theorem limitTo_of_isNaN {x : Float} (h : x.isNaN = true) (low high : Float) :
    limitTo x low high = x := by
  unfold limitTo
  rw [if_neg (Exact.not_lt_of_isNaN h low).1, if_neg (Exact.not_lt_of_isNaN h high).2]

theorem limitTo_zero_nonneg {x high : Float} (hx : x.isNaN = false) (hhigh : 0 ≤ high) :
    0 ≤ limitTo x 0 high := by
  unfold limitTo
  split_ifs with hlow
  · exact Exact.zero_le_zero
  · exact hhigh
  · exact (Exact.not_lt_iff hx Exact.isNaN_zero).mp hlow

/-- `x`, or the nearer of the two limits, provided that the limits are in order. -/
def limitTo? (x low high : Float) : Option Float :=
  if low ≤ high then some (limitTo x low high) else none

namespace Contour

/-- The contour of `bounds`, provided that the limits of its radius are in order. -/
def ofRect? (bounds : Rect) (radius stroke : Float) : Option Contour := do
  let inset := stroke / 2
  let width := greater (Float.ofInt bounds.width - stroke) 0
  let height := greater (Float.ofInt bounds.height - stroke) 0
  let radius ← limitTo? (radius - inset) 0 (smaller width height / 2)
  return { x := bounds.x.toFloat + inset, y := bounds.y.toFloat + inset, width, height, radius }

variable (bounds : Rect) (radius stroke : Float)

/-- The upper limit of the radius is not NaN and not below zero, whatever the width of the pen
is. -/
theorem limit_nonneg :
    0 ≤ smaller (ofRect bounds radius stroke).width (ofRect bounds radius stroke).height / 2 :=
  Exact.half_nonneg (smaller_nonneg (greater_zero_nonneg _) (greater_zero_nonneg _))

theorem ofRect?_eq : ofRect? bounds radius stroke = some (ofRect bounds radius stroke) := by
  have hlimits : limitTo? (radius - stroke / 2) 0 _ = _ := if_pos (limit_nonneg bounds radius stroke)
  unfold ofRect?
  exact congrArg (· >>= _) hlimits

/-- The radius is not negative, or it is what no limit applies to. -/
theorem radius_nonneg_or_isNaN : 0 ≤ (ofRect bounds radius stroke).radius ∨
    (ofRect bounds radius stroke).radius.isNaN = true := by
  cases hnan : (radius - stroke / 2).isNaN with
  | false => exact .inl (limitTo_zero_nonneg hnan (limit_nonneg bounds radius stroke))
  | true =>
    right
    show (limitTo (radius - stroke / 2) 0 _).isNaN = true
    rw [limitTo_of_isNaN hnan, hnan]

/-- The four arcs have one radius. -/
theorem radius_of_arc_mem_path {c : Contour} {x y r start stop : Float}
    (h : .arc x y r start stop ∈ c.path) : c.radius = r := by
  simp only [path, List.mem_cons, Call.arc.injEq, reduceCtorEq, false_or, or_false,
    List.not_mem_nil] at h
  rcases h with h | h | h | h <;> exact h.2.2.1.symm

variable {bounds radius stroke}

/-- With a pen of some width, or of none, NaN does not come up. -/
theorem radius_nonneg (hneg : ¬ radius < 0) (hfinite : radius.isFinite = true) (h : 0 ≤ stroke) :
    0 ≤ (ofRect bounds radius stroke).radius := by
  obtain ⟨ρ, hρ⟩ := Exact.isFinite_iff.mp hfinite
  have hρ0 : 0 ≤ ρ := not_lt.mp fun hlt => hneg ((Exact.lt_iff hρ value?_zero).mpr hlt)
  exact limitTo_zero_nonneg (Exact.isNaN_sub_of_nonneg hρ hρ0 (Exact.half_nonneg h))
    (limit_nonneg bounds radius stroke)

end Contour

/-! ### Sums on the grid -/

/-- The point that a position is placed on, provided that the sums of the edges and the products are
on the grid. -/
def Rect.sums? (r : Rect) (p : UnitPoint) : Option Point := do
  let x ← Pixel.ofInt? (r.x.val + (Exact.ofFloat (p.x * Float.ofInt r.width)).floorPixel.val)
  let y ← Pixel.ofInt? (r.y.val + (Exact.ofFloat (p.y * Float.ofInt r.height)).floorPixel.val)
  return ⟨x, y⟩

theorem Rect.sums?_of_pixel {r : Rect} (hr : r.Sized) {p : UnitPoint} {q : Point}
    (h : r.pixel p = .ok q) : r.sums? p = some q := by
  obtain ⟨⟨hx, hy⟩, hqx, hqy⟩ := pixel_eq_ok_iff.mp h
  unfold sums?
  rw [← (hr.across.along_val hx).1, ← (hr.down.along_val hy).1, ← hqx, ← hqy,
    Pixel.ofInt?_eq_some_iff.mpr rfl, Pixel.ofInt?_eq_some_iff.mpr rfl]
  rfl

/-! ### Primitives -/

namespace Primitive

/-- The width of the pen, for what is drawn with one. -/
def pen? : Primitive → Option Float
  | roundedRect _ _ _ outline width => outline.map fun _ => width
  | line _ _ _ width => some width
  | text _ _ _ _ => none
  | polygon _ _ => none
  | ellipse _ _ => none

/-- The radius of the arcs, for what has some. -/
def radius? : Primitive → Option Float
  | roundedRect bounds radius _ outline width =>
    some (Contour.ofRect bounds radius (if outline.isSome then width else 0)).radius
  | ellipse _ _ => some 1
  | text _ _ _ _ => none
  | line _ _ _ _ => none
  | polygon _ _ => none

variable {p : Primitive} {w r : Float} {ascentOf : Font → Float}

/-- The only width that is set is that of the primitive's pen. -/
theorem setLineWidth_mem_script : .setLineWidth w ∈ p.script ascentOf ↔ p.pen? = some w := by
  cases p with
  | roundedRect bounds radius fill outline width =>
    cases fill <;> cases outline <;>
      simp [script, figureScript, pen?, Contour.path, fillScript, outlineScript, eq_comm]
  | text position content color font =>
    rcases script_text ascentOf position content color font with ⟨x, y, request, h⟩ | ⟨x, y, h⟩
    · simp [h, pen?]
    · simp [h, pen?]
  | line start stop color width => simp [script, figureScript, pen?, eq_comm]
  | polygon corners color =>
    cases corners with
    | nil => simp [script, figureScript, pen?]
    | cons q rest => simp [script, figureScript, pen?]
  | ellipse bounds color => simp [script, figureScript, pen?]

theorem arc_mem_script {x y start stop : Float} (h : .arc x y r start stop ∈ p.script ascentOf) :
    p.radius? = some r := by
  cases p with
  | roundedRect bounds radius fill outline width =>
    -- neither the filling nor the outline adds an arc
    have hpath : .arc x y r start stop ∈
        (Contour.ofRect bounds radius (if outline.isSome then width else 0)).path := by
      cases fill <;> cases outline <;>
        simpa [script, figureScript, fillScript, outlineScript] using h
    exact congrArg some (Contour.radius_of_arc_mem_path hpath)
  | text position content color font =>
    rcases script_text ascentOf position content color font with ⟨x, y, request, hs⟩ | ⟨x, y, hs⟩
    · simp [hs] at h
    · simp [hs] at h
  | line start stop color width => simp [script, figureScript] at h
  | polygon corners color =>
    cases corners with
    | nil => simp [script, figureScript] at h
    | cons q rest => simp [script, figureScript] at h
  | ellipse bounds color =>
    simp [script, figureScript] at h
    simp [radius?, h]

/-- A pen gets through if it is not at most zero. -/
theorem not_le_of_pen? (h : p.fault? = none) (hw : p.pen? = some w) : ¬ w ≤ 0 := by
  cases p with
  | roundedRect bounds radius fill outline width =>
    obtain ⟨color, hcolor, rfl⟩ := Option.map_eq_some_iff.mp hw
    exact (fault?_roundedRect_eq_none_iff.mp h).2 (by rw [hcolor]; rfl)
  | line start stop color width =>
    obtain rfl := Option.some.inj hw
    intro hle
    rw [fault?, if_pos hle] at h
    cases h
  | text _ _ _ _ => cases hw
  | polygon _ _ => cases hw
  | ellipse _ _ => cases hw

theorem pen?_pos_iff (h : p.fault? = none) (hw : p.pen? = some w) : 0 < w ↔ w.isNaN = false := by
  constructor
  · exact fun hpos => (Exact.isNaN_of_le (Exact.le_of_lt hpos)).2
  · intro hnan
    by_contra hpos
    exact not_le_of_pen? h hw ((Exact.not_lt_iff Exact.isNaN_zero hnan).mp hpos)

theorem radius?_nonneg_or_isNaN (hr : p.radius? = some r) : 0 ≤ r ∨ r.isNaN = true := by
  cases p with
  | roundedRect bounds radius fill outline width =>
    obtain rfl := Option.some.inj hr
    exact Contour.radius_nonneg_or_isNaN _ _ _
  | ellipse bounds color =>
    obtain rfl := Option.some.inj hr
    exact .inl Exact.zero_le_unit
  | text _ _ _ _ => cases hr
  | line _ _ _ _ => cases hr
  | polygon _ _ => cases hr

theorem radius?_nonneg (h : p.fault? = none) (hw : ∀ w ∈ p.pen?, w.isNaN = false)
    (hr : p.radius? = some r) : 0 ≤ r := by
  cases p with
  | roundedRect bounds radius fill outline width =>
    obtain rfl := Option.some.inj hr
    obtain ⟨⟨hneg, hfinite⟩, -⟩ := fault?_roundedRect_eq_none_iff.mp h
    refine Contour.radius_nonneg hneg hfinite ?_
    -- without an outline the contour is that of a pen without a width
    cases outline with
    | none => exact Exact.zero_le_zero
    | some color => exact Exact.le_of_lt ((pen?_pos_iff h rfl).mpr (hw width rfl))
  | ellipse bounds color =>
    obtain rfl := Option.some.inj hr
    exact Exact.zero_le_unit
  | text _ _ _ _ => cases hr
  | line _ _ _ _ => cases hr
  | polygon _ _ => cases hr

/-- A width that is a number or infinite, and not positive, is refused before any call. -/
theorem run_draw_of_not_pos (hw : p.pen? = some w) (hpos : ¬ 0 < w) (hnan : w.isNaN = false)
    (d : Device) : ∃ fault, d.run p.draw = (.error (.geometry fault), d) := by
  cases h : p.fault? with
  | none => exact absurd ((pen?_pos_iff h hw).mpr hnan) hpos
  | some fault =>
    refine ⟨fault, ?_⟩
    rw [draw, h]
    rfl

theorem run_draw_of_valid (h : p.fault? = none) {d : Device} (hd : d.refusing = none) :
    (d.run p.draw).1 = .ok () := by
  rw [p.follows_draw.run_of_refusing_none hd, plan, h]
  rfl

end Primitive

/-! ### Shapes -/

/-- The pens of shapes have fixed widths. -/
theorem Shape.pen?_of_mem_sketch {style : Style} {s : Shape} :
    ∀ p ∈ (s.sketch style).items, ∀ w ∈ p.pen?, w.isNaN = false := by
  have hnone : ∀ w ∈ (none : Option Float), w.isNaN = false := fun w hw => by cases hw
  have hrect : ∀ bounds radius fill outline,
      ∀ w ∈ (Primitive.roundedRect bounds radius fill outline outlineWidth).pen?,
        w.isNaN = false := by
    intro bounds radius fill outline w hw
    obtain ⟨-, -, rfl⟩ := Option.map_eq_some_iff.mp hw
    exact Exact.isNaN_eq_false value?_two
  have harrow : ∀ start stop status, ∀ p ∈ style.arrow start stop status,
      ∀ w ∈ p.pen?, w.isNaN = false := by
    intro start stop status
    refine List.forall_mem_cons.mpr ⟨fun w hw => ?_, List.forall_mem_singleton.mpr hnone⟩
    obtain rfl := Option.some.inj hw
    exact Exact.isNaN_eq_false (value?_ofInt (z := Shape.shaftWidth) (by decide))
  cases s with
  | panel x y w h title =>
    rw [sketch_panel, Trace.forall_items_check_andThen]
    refine fun bounds _ => List.forall_mem_cons.mpr ⟨hrect _ _ _ _, fun p hp => ?_⟩
    obtain ⟨t, -, rfl⟩ := Option.map_eq_some_iff.mp (Option.mem_toList.mp hp)
    exact hnone
  | block x y w h radius fill outline =>
    rw [sketch_block, Trace.forall_items_check_andThen]
    exact fun bounds _ => List.forall_mem_singleton.mpr (hrect _ _ _ _)
  | bullet x y label status =>
    rw [sketch_bullet, Trace.forall_items_check_andThen]
    exact fun bounds _ => List.forall_mem_cons.mpr ⟨hnone, List.forall_mem_singleton.mpr hnone⟩
  | arrow x1 y1 x2 y2 status => exact harrow _ _ _
  | text x y words role tone => exact List.forall_mem_singleton.mpr hnone
  | chart c =>
    rw [sketch_chart]
    refine Chart.forall_mem_sketch (fun _ _ _ => hrect _ _ _ _) (fun _ _ _ _ => hnone) ?_
      (fun _ _ => hnone) harrow
    intro start stop color w hw
    obtain rfl := Option.some.inj hw
    exact Exact.isNaN_eq_false (value?_ofNat (n := 5) (by decide))

/-! ### Whole drawings -/

namespace Canvas

namespace Step

variable {step : Step} {p : Primitive}

theorem drawn_primitive (h : p.fault? = none) : (primitive p).drawn = [p] := by
  show [p].takeWhile (fun q => q.fault?.isNone) = [p]
  rw [List.takeWhile_cons_of_pos (by rw [h]; rfl), List.takeWhile_nil]

theorem fault?_of_mem_drawn (h : p ∈ step.drawn) : p.fault? = none :=
  Option.isNone_iff_eq_none.mp (List.mem_takeWhile_imp (p := fun q : Primitive => q.fault?.isNone) h)

/-- A pen that is NaN was asked for as such, and not by a shape. -/
theorem pen?_of_mem_drawn (h : p ∈ step.drawn) :
    step = .primitive p ∨ ∀ w ∈ p.pen?, w.isNaN = false := by
  have hmem : p ∈ step.sketch.items := (List.takeWhile_sublist _).subset h
  cases step with
  | primitive q =>
    obtain rfl := List.mem_singleton.mp hmem
    exact .inl rfl
  | shape style s => exact .inr (Shape.pen?_of_mem_sketch p hmem)
  | shapes style list =>
    obtain ⟨t, ht, hp⟩ := Trace.mem_items_all hmem
    obtain ⟨s, -, rfl⟩ := List.mem_map.mp ht
    exact .inr (Shape.pen?_of_mem_sketch p hp)

end Step

/-- Whatever call is refused, every call that is recorded belongs to a primitive that is drawn. -/
theorem exists_calls_follow (d : Device) (steps : List Step) :
    ∃ calls : Script, (follow d steps).recording = d.recording ++ calls ∧
      ∀ c ∈ calls, ∃ step ∈ steps, ∃ p ∈ step.drawn, ∃ ascentOf, c ∈ p.script ascentOf := by
  induction steps generalizing d with
  | nil => exact ⟨[], (List.append_nil _).symm, List.forall_mem_nil _⟩
  | cons step rest ih =>
    obtain ⟨made, hmade, hrun⟩ := d.perform_eq_record (step.plan d.ascentOf).items
    obtain ⟨calls, hcalls, hall⟩ := ih (d.run step.draw).2
    -- a call that is refused cuts its own step short, and no other
    refine ⟨made ++ calls, ?_, ?_⟩
    · show (follow (d.run step.draw).2 rest).recording = _
      rw [hcalls, step.follows_draw d, Device.play_device, hrun, Device.recording_record,
        List.append_assoc]
    · intro c hc
      rcases List.mem_append.mp hc with hc | hc
      · have hdrawn : c ∈ step.drawn.flatMap (Primitive.script d.ascentOf) :=
          step.items_plan d.ascentOf ▸ hmade.subset hc
        obtain ⟨p, hp, hcp⟩ := List.mem_flatMap.mp hdrawn
        exact ⟨step, List.mem_cons_self, p, hp, d.ascentOf, hcp⟩
      · obtain ⟨step', hstep, hdrawn⟩ := hall c hc
        exact ⟨step', List.mem_cons_of_mem step hstep, hdrawn⟩

/-- **Pens have a width and radii are not negative, apart from NaN.**  Whatever is drawn and
whatever call is refused: a width that is set is positive or NaN, and the radius of an arc is not
negative or NaN.  Both are numbers or infinite if no primitive that is drawn asks for a pen whose
width is NaN; and where nothing is refused, every width that is asked for is set, NaN included.
Every other width that is not positive is refused before any call.  The two operations of a drawing
that cannot deal with every operand are safe: the limits of a radius are in order, and the sums that
place the points of a chart stay on the grid. -/
theorem widths_pos_and_radii_nonneg (d : Device) (steps : List Step) :
    (∃ calls : Script, (follow d steps).recording = d.recording ++ calls ∧
      (∀ w, .setLineWidth w ∈ calls → 0 < w ∨ w.isNaN = true) ∧
      (∀ x y r start stop, .arc x y r start stop ∈ calls → 0 ≤ r ∨ r.isNaN = true) ∧
      ((∀ p, .primitive p ∈ steps → p.fault? = none → ∀ w ∈ p.pen?, w.isNaN = false) →
        (∀ w, .setLineWidth w ∈ calls → 0 < w) ∧
        ∀ x y r start stop, .arc x y r start stop ∈ calls → 0 ≤ r) ∧
      (d.refusing = none → ∀ p, .primitive p ∈ steps → p.fault? = none →
        ∀ w ∈ p.pen?, .setLineWidth w ∈ calls)) ∧
    (∀ (p : Primitive) (w : Float), p.pen? = some w → ¬ 0 < w → w.isNaN = false →
      ∃ fault, d.run p.draw = (.error (.geometry fault), d)) ∧
    (∀ bounds radius stroke,
      Contour.ofRect? bounds radius stroke = some (Contour.ofRect bounds radius stroke)) ∧
    ∀ (c : Chart) bounds p q, c.bounds = .ok bounds → bounds.pixel p = .ok q →
      bounds.sums? p = some q := by
  obtain ⟨calls, hcalls, hall⟩ := exists_calls_follow d steps
  refine ⟨⟨calls, hcalls, ?_, ?_, fun hnan => ?_, fun hnone p hp hfault w hw => ?_⟩, ?_,
    Contour.ofRect?_eq, ?_⟩
  · intro w hw
    obtain ⟨step, -, p, hp, _, hwp⟩ := hall _ hw
    rw [Primitive.pen?_pos_iff (Step.fault?_of_mem_drawn hp)
      (Primitive.setLineWidth_mem_script.mp hwp)]
    exact (Bool.eq_false_or_eq_true _).symm
  · intro x y r start stop hr
    obtain ⟨step, -, p, -, _, hrp⟩ := hall _ hr
    exact Primitive.radius?_nonneg_or_isNaN (Primitive.arc_mem_script hrp)
  · -- the pens of shapes are numbers anyway
    have hpens : ∀ step ∈ steps, ∀ p ∈ step.drawn, ∀ w ∈ p.pen?, w.isNaN = false := by
      intro step hstep p hp
      rcases Step.pen?_of_mem_drawn hp with rfl | h
      · exact hnan p hstep (Step.fault?_of_mem_drawn hp)
      · exact h
    constructor
    · intro w hw
      obtain ⟨step, hstep, p, hp, _, hwp⟩ := hall _ hw
      have hpen := Primitive.setLineWidth_mem_script.mp hwp
      exact (Primitive.pen?_pos_iff (Step.fault?_of_mem_drawn hp) hpen).mpr
        (hpens step hstep p hp w hpen)
    · intro x y r start stop hr
      obtain ⟨step, hstep, p, hp, _, hrp⟩ := hall _ hr
      exact Primitive.radius?_nonneg (Step.fault?_of_mem_drawn hp) (hpens step hstep p hp)
        (Primitive.arc_mem_script hrp)
  · -- without a refused call the recording is known in full
    have hmade : calls = (steps.flatMap Step.drawn).flatMap (Primitive.script d.ascentOf) := by
      rw [follow_eq_record hnone, Device.recording_record] at hcalls
      exact (List.append_cancel_left hcalls).symm
    rw [hmade, List.mem_flatMap]
    have hdrawn : p ∈ (Step.primitive p).drawn :=
      Step.drawn_primitive hfault ▸ List.mem_singleton_self p
    exact ⟨p, List.mem_flatMap.mpr ⟨_, hp, hdrawn⟩, Primitive.setLineWidth_mem_script.mpr hw⟩
  · exact fun p w hw hpos hwnan => Primitive.run_draw_of_not_pos hw hpos hwnan d
  · exact fun c bounds p q hb hq => Rect.sums?_of_pixel (Rect.sized_of_ofSize hb) hq

/-- Infinite pens are drawn with, for a line and for an outline, a pen of width zero is refused, and
the far corner of a chart at the end of the grid is placed without leaving it. -/
theorem widths_pos_and_radii_nonneg_of_infinite_pens :
    let d := Device.blank .standIn {} .black
    let bounds : Rect := ⟨2, 2, 10, 10, by decide, by decide, by decide, by decide⟩
    let line : Float → Primitive := Primitive.line ⟨0, 0⟩ ⟨10, 10⟩ Color.white
    let outlined := Primitive.roundedRect bounds 3 none (some Color.white) (1 / 0)
    let steps : List Step := [.primitive (line (1 / 0)), .primitive outlined, .primitive (line 0)]
    let corner : Rect := ⟨2147483637, 2147483637, 10, 10, by decide, by decide, by decide, by decide⟩
    (∃ calls : Script, (follow d steps).recording = d.recording ++ calls ∧
      .setLineWidth (1 / 0) ∈ calls ∧ (∀ w, .setLineWidth w ∈ calls → 0 < w) ∧
      ∀ x y r start stop, .arc x y r start stop ∈ calls → 0 ≤ r) ∧
    (∃ fault, d.run (line 0).draw = (.error (.geometry fault), d)) ∧
    corner.sums? ⟨1, 1⟩ = some ⟨2147483647, 2147483647⟩ := by
  intro d bounds line outlined steps corner
  obtain ⟨⟨calls, hcalls, -, -, hnumbers, hset⟩, hrefused, -, hsums⟩ :=
    widths_pos_and_radii_nonneg d steps
  have hinfinity : 0 < (1 / 0 : Float) := by decide +kernel
  have hnan : ∀ p, .primitive p ∈ steps → p.fault? = none → ∀ w ∈ p.pen?, w.isNaN = false := by
    intro p hp _ w hw
    rcases List.mem_cons.mp hp with h | hp
    · cases h
      cases hw
      exact (Exact.isNaN_of_le (Exact.le_of_lt hinfinity)).2
    · rcases List.mem_cons.mp hp with h | hp
      · cases h
        cases hw
        exact (Exact.isNaN_of_le (Exact.le_of_lt hinfinity)).2
      · cases List.mem_singleton.mp hp
        cases hw
        exact Exact.isNaN_zero
  obtain ⟨hwidths, hradii⟩ := hnumbers hnan
  have hfault : (line (1 / 0)).fault? = none := by
    rw [Primitive.fault?, if_neg (Exact.not_le_of_lt hinfinity)]
  refine ⟨⟨calls, hcalls, ?_, hwidths, hradii⟩, ?_, ?_⟩
  · exact hset rfl _ List.mem_cons_self hfault _ rfl
  · exact hrefused (line 0) 0 rfl (Exact.not_lt_of_le Exact.zero_le_zero) Exact.isNaN_zero
  · have hcorner : corner.Sized := ⟨by decide, by decide⟩
    have hend : Exact.IsShare 1 := ⟨1, value?_one, zero_le_one, le_rfl⟩
    refine hsums ⟨2147483637, 2147483637, 10, 10, [], none⟩ corner ⟨1, 1⟩ _ rfl ?_
    exact Rect.pixel_eq_ok_iff.mpr ⟨⟨hend, hend⟩,
      Pixel.ext (hcorner.across.along_one value?_one).symm,
      Pixel.ext (hcorner.down.along_one value?_one).symm⟩

/-- A line and an outline with pens whose width is NaN are drawn: NaN, which is not positive, is set
twice, and the four arcs have a radius that is not at least zero. -/
theorem nan_widths_are_drawn :
    let d := Device.blank .standIn {} .black
    let bounds : Rect := ⟨2, 2, 10, 10, by decide, by decide, by decide, by decide⟩
    let nan : Float := 0 / 0
    let line := Primitive.line ⟨0, 0⟩ ⟨10, 10⟩ Color.white nan
    let outlined := Primitive.roundedRect bounds 3 none (some Color.white) nan
    let recording := (follow d [.primitive line, .primitive outlined]).recording
    ¬ 0 < nan ∧ (d.run line.draw).1 = .ok () ∧ (d.run outlined.draw).1 = .ok () ∧
    Script.pens recording = [nan, nan] ∧
    ∃ radius, (Script.arcs recording).map (·.2.2) = [radius, radius, radius, radius] ∧
      ¬ 0 ≤ radius := by
  intro d bounds nan line outlined recording
  have hnan : nan.isNaN = true := by decide +kernel
  have hpen : ¬ nan ≤ 0 := fun h => by
    rw [(Exact.isNaN_of_le h).1] at hnan
    cases hnan
  have hradius : Exact.value? 3 = some 3 := value?_ofNat (n := 3) (by decide)
  have hnonneg : ¬ (3 : Float) < 0 := by
    rw [Exact.lt_iff hradius value?_zero]
    norm_num
  have hline : line.fault? = none := by rw [Primitive.fault?, if_neg hpen]
  have houtlined : outlined.fault? = none :=
    Primitive.fault?_roundedRect_eq_none_iff.mpr
      ⟨⟨hnonneg, Exact.isFinite_iff.mpr ⟨3, hradius⟩⟩, fun _ => hpen⟩
  have hd : d.refusing = none := Device.blank_refusing .standIn {} .black
  have hrecording : recording = d.recording ++ (line.figureScript ++ outlined.figureScript) := by
    show (follow d _).recording = _
    rw [follow_eq_record hd, Device.recording_record, List.flatMap_cons, List.flatMap_singleton,
      Step.drawn_primitive hline, Step.drawn_primitive houtlined]
    rfl
  refine ⟨(Exact.not_lt_of_isNaN hnan 0).2, Primitive.run_draw_of_valid hline hd,
    Primitive.run_draw_of_valid houtlined hd, ?_, (Contour.ofRect bounds 3 nan).radius, ?_, ?_⟩
  · rw [hrecording]
    rfl
  · rw [hrecording]
    rfl
  · decide +kernel

end Canvas

end Placard
