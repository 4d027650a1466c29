/-
Placard/Proofs/Union.lean

The union of rectangles, and what it says about charts that leave a canvas.

A union is the smallest rectangle around both, except that its width and height are cut to the
greatest coordinate.  All that is proved here rests on where the edges of a cut union are
(`Rect.union_right`, `Rect.union_bottom`): the cut depends on nothing but the least left and the
least upper edge, and so a union that is cut on the way is cut in the same place at the end.  That
makes unions of rectangles a semilattice (`SizedRect`), and the union of several rectangles
independent of how they are put together (`Assembly`).

A union that is cut does not cover its two rectangles, but it begins left of or above the middle of
the grid.  What begins there lies in no canvas, and so it makes no difference whether a canvas is
compared with a union or with both of its parts (`Rect.contains_union_iff`).
-/
import Mathlib.Order.Lattice
import Placard.Proofs.Built
import Placard.Proofs.Inside

namespace Placard

namespace Rect

variable {a b c r : Rect}

/-- A rectangle is given by its four edges. -/
theorem eq_of_edges (hleft : a.x.val = b.x.val) (htop : a.y.val = b.y.val)
    (hright : a.right = b.right) (hbottom : a.bottom = b.bottom) : a = b := by
  unfold right at hright
  unfold bottom at hbottom
  exact ext (Pixel.ext hleft) (Pixel.ext htop) (by omega) (by omega)

/-- The sized rectangles are those that can be made from four coordinates.  A union is always one of
them, and it is on them that unions form a semilattice. -/
theorem sized_iff : r.Sized ↔ ∃ x y w h, ofSize x y w h = .ok r := by
  constructor
  · intro h
    refine ⟨r.x, r.y, r.quad.width, r.quad.height, ofSize_eq_ok.mpr ⟨h.sound, rfl, rfl, ?_, ?_⟩⟩
    · exact h.quad_width.symm
    · exact h.quad_height.symm
  · rintro ⟨x, y, w, h, hr⟩
    exact sized_of_ofSize hr

/-! ### The smallest rectangle around two -/

/-- What covers both covers the union, also if that is cut. -/
theorem contains_union (ha : r.contains a = true) (hb : r.contains b = true) :
    r.contains (a.union b) = true := by
  rw [contains_iff] at ha hb ⊢
  rw [union_x_val, union_y_val, union_right, union_bottom]
  omega

/-- **The least cover.**  The union of two rectangles covers them if and only if, from the first of
their edges to the last, it is on neither axis farther than a coordinate can say.  Cut or not, it
lies in every rectangle that covers both. -/
theorem union_covers_and_is_least (a b : Rect) :
    ((a.union b).contains a = true ∧ (a.union b).contains b = true ↔
      max a.right b.right - min a.x.val b.x.val ≤ Pixel.greatest ∧
        max a.bottom b.bottom - min a.y.val b.y.val ≤ Pixel.greatest) ∧
    ∀ r : Rect, r.contains a = true → r.contains b = true → r.contains (a.union b) = true :=
  ⟨union_contains_iff, fun _ => contains_union⟩

/-- From the left end of the grid, a union that ends just left of the middle covers its parts, and
lies in a rectangle that covers them; one that would end a column farther to the right is cut. -/
theorem union_covers_and_is_least_up_to_the_middle :
    let left : Rect := ⟨Pixel.clamp Pixel.least, 0, 10, 10, by decide, by decide, by decide,
      by decide⟩
    let near : Rect := ⟨-11, 5, 10, 10, by decide, by decide, by decide, by decide⟩
    let far : Rect := ⟨-10, 5, 10, 10, by decide, by decide, by decide, by decide⟩
    let r : Rect := ⟨Pixel.clamp Pixel.least, -1, 2147483647, 20, by decide, by decide, by decide,
      by decide⟩
    ((left.union near).contains left = true ∧ (left.union near).contains near = true) ∧
    ¬ ((left.union far).contains left = true ∧ (left.union far).contains far = true) ∧
    r.contains left = true ∧ r.contains near = true ∧ r.contains (left.union near) = true := by
  intro left near far r
  have hleft : r.contains left = true := by decide
  have hnear : r.contains near = true := by decide
  refine ⟨(union_covers_and_is_least left near).1.mpr (by decide), ?_, hleft, hnear, ?_⟩
  · exact mt (union_covers_and_is_least left far).1.mp (by decide)
  · exact (union_covers_and_is_least left near).2 r hleft hnear

/-! ### Unions of several rectangles -/

theorem union_comm (a b : Rect) : a.union b = b.union a := by
  apply eq_of_edges
  · rw [union_x_val, union_x_val, Int.min_comm]
  · rw [union_y_val, union_y_val, Int.min_comm]
  · rw [union_right, union_right, Int.max_comm, Int.min_comm a.x.val]
  · rw [union_bottom, union_bottom, Int.max_comm, Int.min_comm a.y.val]

/-- An edge that was cut at `left + size` is cut again at the same place or before it, if the outer
union begins at `left` or before. -/
theorem cut_cut (last next left first size : Int) :
    min (max (min last (left + size)) next) (min left first + size) =
      min (max last next) (min left first + size) := by
  omega

/-- A third rectangle: the first cut leaves no trace. -/
theorem union_union_right (a b c : Rect) : ((a.union b).union c).right =
    min (max (max a.right b.right) c.right)
      (min (min a.x.val b.x.val) c.x.val + Pixel.greatest) := by
  rw [union_right, union_right, union_x_val, cut_cut]

theorem union_union_bottom (a b c : Rect) : ((a.union b).union c).bottom =
    min (max (max a.bottom b.bottom) c.bottom)
      (min (min a.y.val b.y.val) c.y.val + Pixel.greatest) := by
  rw [union_bottom, union_bottom, union_y_val, cut_cut]

theorem union_assoc (a b c : Rect) : (a.union b).union c = a.union (b.union c) := by
  rw [union_comm a (b.union c)]
  apply eq_of_edges
  · simp only [union_x_val]
    rw [Int.min_assoc, Int.min_comm]
  · simp only [union_y_val]
    rw [Int.min_assoc, Int.min_comm]
  · rw [union_union_right, union_union_right, Int.max_assoc, Int.max_comm, Int.min_assoc,
      Int.min_comm a.x.val]
  · rw [union_union_bottom, union_union_bottom, Int.max_assoc, Int.max_comm, Int.min_assoc,
      Int.min_comm a.y.val]

/-- A rectangle is only cut in a union with itself if it is too wide or too high. -/
theorem Sized.union_self (h : a.Sized) : a.union a = a := by
  obtain ⟨hwidth, hheight⟩ := h
  apply eq_of_edges
  · rw [union_x_val, Int.min_self]
  · rw [union_y_val, Int.min_self]
  · rw [union_right, Int.max_self, Int.min_self, right]
    omega
  · rw [union_bottom, Int.max_self, Int.min_self, bottom]
    omega

end Rect

/-- A rectangle whose size can be said in coordinates. -/
abbrev SizedRect := {r : Rect // r.Sized}

namespace SizedRect

instance : Max SizedRect := ⟨fun a b => ⟨a.val.union b.val, Rect.sized_union a.val b.val⟩⟩

/-- A rectangle is below another one that does not change in the union with it.  This is not the
same as to lie in it, since unions may be cut. -/
instance : SemilatticeSup SizedRect := SemilatticeSup.mk'
  (fun a b => Subtype.ext (Rect.union_comm a.val b.val))
  (fun a b c => Subtype.ext (Rect.union_assoc a.val b.val c.val))
  (fun a => Subtype.ext a.property.union_self)

theorem le_iff {a b : SizedRect} : a ≤ b ↔ a.val.union b.val = b.val := Subtype.ext_iff

end SizedRect

/-- A way to put rectangles together: one as it is, or two that were put together before. -/
inductive Assembly where
  | single (r : Rect)
  | union (s t : Assembly)

namespace Assembly

/-- The rectangles that are put together, from left to right. -/
def parts : Assembly → List Rect
  | single r => [r]
  | union s t => s.parts ++ t.parts

/-- What they are put together to. -/
def rect : Assembly → Rect
  | single r => r
  | union s t => s.rect.union t.rect

variable {s t : Assembly}

theorem sized_rect (h : ∀ r ∈ t.parts, r.Sized) : t.rect.Sized := by
  cases t with
  | single r => exact h r List.mem_cons_self
  | union s t => exact Rect.sized_union s.rect t.rect

/-- The whole is below a rectangle if all of its parts are. -/
theorem union_eq_iff {c : Rect} (hc : c.Sized) (h : ∀ r ∈ t.parts, r.Sized) :
    t.rect.union c = c ↔ ∀ r ∈ t.parts, r.union c = c := by
  induction t with
  | single r =>
    rw [parts, List.forall_mem_singleton]
    rfl
  | union s t ihs iht =>
    rw [parts, List.forall_mem_append] at h ⊢
    rw [← ihs h.1, ← iht h.2]
    let left : SizedRect := ⟨s.rect, sized_rect h.1⟩
    let right : SizedRect := ⟨t.rect, sized_rect h.2⟩
    let whole : SizedRect := ⟨c, hc⟩
    have hsup : left ⊔ right ≤ whole ↔ left ≤ whole ∧ right ≤ whole := sup_le_iff
    rwa [SizedRect.le_iff, SizedRect.le_iff, SizedRect.le_iff] at hsup

/-- The parts of one assembly are below another one that has them too. -/
theorem union_rect_of_subset (ht : ∀ r ∈ t.parts, r.Sized) (h : ∀ r ∈ s.parts, r ∈ t.parts) :
    s.rect.union t.rect = t.rect := by
  have hwhole := sized_rect ht
  have hparts := (union_eq_iff hwhole ht).mp hwhole.union_self
  exact (union_eq_iff hwhole fun r hr => ht r (h r hr)).mpr fun r hr => hparts r (h r hr)

/-- Order, grouping and repetition make no difference. -/
theorem rect_eq_of_parts (ht : ∀ r ∈ t.parts, r.Sized) (h : ∀ r, r ∈ s.parts ↔ r ∈ t.parts) :
    s.rect = t.rect := by
  have hs : ∀ r ∈ s.parts, r.Sized := fun r hr => ht r ((h r).mp hr)
  calc s.rect = t.rect.union s.rect := (union_rect_of_subset hs fun r => (h r).mpr).symm
    _ = s.rect.union t.rect := Rect.union_comm _ _
    _ = t.rect := union_rect_of_subset ht fun r => (h r).mp

/-- Puts one rectangle after the other to what is there. -/
def extend (t : Assembly) (rest : List Rect) : Assembly :=
  rest.foldl (fun t r => t.union (single r)) t

theorem parts_extend (t : Assembly) (rest : List Rect) :
    (t.extend rest).parts = t.parts ++ rest := by
  induction rest generalizing t with
  | nil => exact (List.append_nil _).symm
  | cons r rest ih => exact (ih _).trans (List.append_assoc t.parts [r] rest)

theorem rect_extend (t : Assembly) (rest : List Rect) :
    (t.extend rest).rect = rest.foldl Rect.union t.rect := by
  induction rest generalizing t with
  | nil => rfl
  | cons r rest ih => exact ih _

end Assembly

namespace Rect

/-- **Unions are a semilattice.**  Union is commutative and associative, also where it is cut; on
rectangles whose size can be said in coordinates it is idempotent, and it never leads out of these.
So in whatever order and grouping the members of a list of such rectangles are put together, and
however often each of them is taken, the result is what taking them one after the other gives. -/
theorem union_is_semilattice :
    (∀ a b : Rect, a.union b = b.union a) ∧
    (∀ a b c : Rect, (a.union b).union c = a.union (b.union c)) ∧
    (∀ a : Rect, a.Sized → a.union a = a) ∧
    (∀ a b : Rect, (a.union b).Sized) ∧
    ∀ (first : Rect) (rest : List Rect), (∀ r ∈ first :: rest, r.Sized) →
      ∀ t : Assembly, (∀ r, r ∈ t.parts ↔ r ∈ first :: rest) → t.rect = rest.foldl union first := by
  refine ⟨union_comm, union_assoc, fun _ => Sized.union_self, sized_union, ?_⟩
  intro first rest hsized t ht
  have hparts : ((Assembly.single first).extend rest).parts = first :: rest :=
    Assembly.parts_extend _ _
  rw [← hparts] at hsized ht
  rw [Assembly.rect_eq_of_parts hsized ht, Assembly.rect_extend]
  rfl

/-- Three rectangles, two of them at the ends of the grid, in another order and grouping, and one of
them twice.  The union is cut, and in the same place. -/
theorem union_is_semilattice_where_it_is_cut :
    let left : Rect := ⟨Pixel.clamp Pixel.least, 0, 10, 10, by decide, by decide, by decide,
      by decide⟩
    let middle : Rect := ⟨-5, -5, 10, 10, by decide, by decide, by decide, by decide⟩
    let right : Rect := ⟨2147483637, 0, 10, 10, by decide, by decide, by decide, by decide⟩
    let t : Assembly := .union (.single right)
      (.union (.union (.single middle) (.single right)) (.single left))
    (∀ r ∈ [left, middle, right], r.Sized) ∧ (∀ r, r ∈ t.parts ↔ r ∈ [left, middle, right]) ∧
      t.rect = (left.union middle).union right ∧ t.rect.right = -1 := by
  intro left middle right t
  have hsized : ∀ r ∈ [left, middle, right], r.Sized := by
    simp only [List.forall_mem_cons]
    exact ⟨⟨by decide, by decide⟩, ⟨by decide, by decide⟩, ⟨by decide, by decide⟩,
      List.forall_mem_nil _⟩
  have hparts : ∀ r, r ∈ t.parts ↔ r ∈ [left, middle, right] := by
    intro r
    simp only [t, Assembly.parts, List.mem_append, List.mem_cons, List.not_mem_nil, or_false]
    grind
  exact ⟨hsized, hparts, union_is_semilattice.2.2.2.2 left [middle, right] hsized t hparts,
    by decide⟩

/-! ### Charts that leave a canvas -/

variable {a b r : Rect}

/-- A rectangle that begins at the middle of the grid or after it contains a union if and only if it
contains both parts.  If the union is cut, then one of the parts begins before the middle. -/
theorem contains_union_iff (hx : 0 ≤ r.x.val) (hy : 0 ≤ r.y.val) :
    r.contains (a.union b) = true ↔ r.contains a = true ∧ r.contains b = true := by
  refine ⟨fun h => ?_, fun h => contains_union h.1 h.2⟩
  rw [contains_iff, union_x_val, union_y_val, union_right, union_bottom] at h
  have hright : a.right ≤ Pixel.greatest ∧ b.right ≤ Pixel.greatest := ⟨a.right_le, b.right_le⟩
  have hbottom : a.bottom ≤ Pixel.greatest ∧ b.bottom ≤ Pixel.greatest := ⟨a.bottom_le, b.bottom_le⟩
  rw [contains_iff, contains_iff]
  omega

/-- Farther to the left that is not so: the union of a chart and its callout is cut to the chart. -/
example :
    let bounds : Rect := ⟨Pixel.clamp Pixel.least, 0, 2147483647, 100, by decide, by decide,
      by decide, by decide⟩
    let frame : Rect := ⟨-171, 0, 390, 100, by decide, by decide, by decide, by decide⟩
    bounds.contains (bounds.union frame) = true ∧ bounds.contains frame = false := by
  decide

end Rect

/-- A canvas begins at the middle of the grid. -/
theorem CanvasSize.area_origin {size : CanvasSize} {area : Rect} (h : size.area = .ok area) :
    area.origin = ⟨0, 0⟩ := by
  unfold CanvasSize.area at h
  split at h
  · cases h
  · obtain rfl := Except.ok.inj h
    rfl

namespace Chart

/-- The rectangle of the chart or the frame of its callout is not contained in `area`. -/
def Leaves (c : Chart) (bounds area : Rect) : Prop :=
  area.contains bounds = false ∨
    ∃ a ∈ c.annotation, ∃ l, a.layout bounds = .ok l ∧ area.contains l.frame = false

variable {c : Chart} {bounds area : Rect}

theorem leaves_iff (hb : c.bounds = .ok bounds)
    (hlayout : ∀ a ∈ c.annotation, ∃ l, a.layout bounds = .ok l)
    (hx : 0 ≤ area.x.val) (hy : 0 ≤ area.y.val) :
    Diagram.leaves area (.chart c) = true ↔ c.Leaves bounds area := by
  unfold Diagram.leaves Leaves
  cases ha : c.annotation with
  | none =>
    rw [Shape.extent?_chart_of_none hb ha, Option.any_some, Bool.not_eq_true']
    exact (or_iff_left fun ⟨a, ha, _⟩ => by cases ha).symm
  | some a =>
    obtain ⟨l, hl⟩ := hlayout a ha
    have hframe : (∃ a' ∈ some a, ∃ l, a'.layout bounds = .ok l ∧ area.contains l.frame = false) ↔
        area.contains l.frame = false := by
      constructor
      · rintro ⟨a', ha', l', hl', h⟩
        cases ha'
        cases hl.symm.trans hl'
        exact h
      · exact fun h => ⟨a, rfl, l, hl, h⟩
    rw [Shape.extent?_chart_of_some hb ha hl, Option.any_some, Bool.not_eq_true', hframe,
      ← Bool.not_eq_true, ← Bool.not_eq_true, ← Bool.not_eq_true, Rect.contains_union_iff hx hy]
    exact not_and_or

end Chart

namespace Diagram

variable {d : Diagram} {area : Rect} {i : Nat}

/-- The numbers on the list are those of the shapes that leave. -/
theorem mem_outside_iff :
    i ∈ d.outside area ↔ ∃ s, d.shapes[i]? = some s ∧ leaves area s = true := by
  unfold outside
  rw [List.mem_map]
  constructor
  · rintro ⟨⟨s, j⟩, hs, rfl⟩
    obtain ⟨hs, hleaves⟩ := List.mem_filter.mp hs
    exact ⟨s, List.mem_zipIdx_iff_getElem?.mp hs, hleaves⟩
  · rintro ⟨s, hs, hleaves⟩
    exact ⟨(s, i), List.mem_filter.mpr ⟨List.mem_zipIdx_iff_getElem?.mpr hs, hleaves⟩, rfl⟩

/-- **Charts that leave a canvas.**  Let the rectangle of a chart be valid, and so its callout if it
has one.  Then the chart is listed as leaving a rectangle that begins at the middle of the grid or
after it if and only if this does not contain the chart's rectangle, or not the frame of the
callout.  Every canvas is such a rectangle.  The chart and the frame may be so far apart that their
union is cut. -/
theorem chart_outside_iff {c : Chart} {bounds : Rect} (hi : d.shapes[i]? = some (.chart c))
    (hb : c.bounds = .ok bounds) (hlayout : ∀ a ∈ c.annotation, ∃ l, a.layout bounds = .ok l) :
    (∀ area : Rect, 0 ≤ area.x.val → 0 ≤ area.y.val →
      (i ∈ d.outside area ↔ c.Leaves bounds area)) ∧
    ∀ (size : CanvasSize) (area : Rect), size.area = .ok area →
      (i ∈ d.outside area ↔ c.Leaves bounds area) := by
  have hmem : ∀ area, i ∈ d.outside area ↔ leaves area (.chart c) = true := by
    intro area
    rw [mem_outside_iff, hi]
    exact ⟨fun ⟨s, hs, h⟩ => Option.some.inj hs ▸ h, fun h => ⟨_, rfl, h⟩⟩
  refine ⟨fun area hx hy => ?_, fun size area harea => ?_⟩
  · rw [hmem, Chart.leaves_iff hb hlayout hx hy]
  · have horigin := CanvasSize.area_origin harea
    have hx : area.x = 0 := congrArg Point.x horigin
    have hy : area.y = 0 := congrArg Point.y horigin
    rw [hmem, Chart.leaves_iff hb hlayout (by rw [hx]; decide) (by rw [hy]; decide)]

/-- A chart that reaches from the left end of the grid to its middle, with a callout at its right
edge.  The union of the two does not cover the callout.  The chart is listed. -/
theorem chart_outside_iff_of_cut_union :
    let bounds : Rect := ⟨Pixel.clamp Pixel.least, 0, 2147483647, 200, by decide, by decide,
      by decide, by decide⟩
    let frame : Rect := ⟨-171, -20, 390, 150, by decide, by decide, by decide, by decide⟩
    let a : Annotation := ⟨⟨1, 0.5⟩, "peak", "at noon", .critical⟩
    let c : Chart := ⟨Pixel.clamp Pixel.least, 0, 2147483647, 200, [], some a⟩
    (∃ l, a.layout bounds = .ok l ∧ l.frame = frame) ∧ (bounds.union frame).contains frame = false ∧
      ∀ area, CanvasSize.area {} = .ok area →
        0 ∈ (⟨"wide", [.chart c]⟩ : Diagram).outside area := by
  intro bounds frame a c
  have hb : c.bounds = .ok bounds := rfl
  have hplace : c.place a.anchor = ⟨-1, 100⟩ := by decide +kernel
  have haround : ∃ l, Callout.around ⟨-1, 100⟩ = .ok l ∧ l.frame = frame := ⟨_, rfl, rfl⟩
  obtain ⟨l, hl, hframe⟩ := haround
  have hlayout : a.layout bounds = .ok l :=
    (Chart.layout_eq_ok hb).mpr ⟨by decide +kernel, by rw [hplace, hl]⟩
  have hall : ∀ a ∈ c.annotation, ∃ l, a.layout bounds = .ok l := by
    intro a' ha
    cases ha
    exact ⟨l, hlayout⟩
  refine ⟨⟨l, hlayout, hframe⟩, by decide, fun area harea => ?_⟩
  refine ((chart_outside_iff rfl hb hall).2 {} area harea).mpr (.inl ?_)
  cases harea
  decide

end Diagram

end Placard
