/-
Placard/Proofs/Built.lean

Rectangles that are made from one another.

A `Rect` carries the proof that it fits the grid, and its edges are sums of integers.  A `Quad` is
four coordinates of which nothing is known, its edges are sums that stop at the end of the grid,
and `Quad.union` checks nothing.  `Rect.Step` is one way to make a rectangle: from numbers, between
two corners, around points, or around two rectangles made before.  Any number of steps gives the
same in both worlds, so that no rectangle is ever cut off by its type
(`Rect.every_rect_made_is_sound`).

A union may be cut: the two rectangles can be farther apart than a coordinate can say.  It is cut
to the greatest width there is, which only happens left of the middle of the grid, and so the right
edge is on the grid all the same.
-/
import Placard.Proofs.Extent

namespace Placard

/-- Four coordinates in the place of a rectangle, of which nothing is known. -/
structure Quad where
  x : Pixel
  y : Pixel
  width : Pixel
  height : Pixel
deriving DecidableEq

namespace Quad

/-- The right edge, or the end of the grid. -/
def right (q : Quad) : Pixel := q.x.shift q.width.val

/-- The lower edge, or the end of the grid. -/
def bottom (q : Quad) : Pixel := q.y.shift q.height.val

/-- Around both, without a check: every sum and difference stops at the end of the grid. -/
def union (a b : Quad) : Quad :=
  let x := if a.x.val ≤ b.x.val then a.x else b.x
  let y := if a.y.val ≤ b.y.val then a.y else b.y
  { x, y
    width := Pixel.clamp (max a.right.val b.right.val - x.val)
    height := Pixel.clamp (max a.bottom.val b.bottom.val - y.val) }

/-- The four coordinates are those of a rectangle: it has an area, and its edges are on the
grid. -/
def Sound (q : Quad) : Prop := Rect.Fits q.x q.y q.width q.height

variable {a b q : Quad}

@[ext] theorem ext (hx : a.x = b.x) (hy : a.y = b.y) (hw : a.width = b.width)
    (hh : a.height = b.height) : a = b := by
  cases a; cases b; simp_all

/-- The edges of a rectangle are where its size says. -/
theorem Sound.edges (h : q.Sound) :
    q.right.val = q.x.val + q.width.val ∧ q.bottom.val = q.y.val + q.height.val := by
  obtain ⟨hw, hh, hr, hb⟩ := h
  unfold Pixel.greatest at hr hb
  have := q.x.least_le
  have := q.y.least_le
  rw [right, bottom, Pixel.shift_val, Pixel.shift_val]
  omega

end Quad

namespace Rect

variable {a b r : Rect}

/-- The four coordinates of a rectangle. -/
def quad (r : Rect) : Quad := ⟨r.x, r.y, Pixel.clamp r.width, Pixel.clamp r.height⟩

/-- The size of the rectangle can be said in coordinates.  This is not part of its type, since
rectangles may begin left of the middle of the grid and end right of it. -/
structure Sized (r : Rect) : Prop where
  width : r.width ≤ Pixel.greatest
  height : r.height ≤ Pixel.greatest

namespace Sized

theorem quad_width (h : r.Sized) : r.quad.width.val = r.width := by
  have := r.width_pos
  exact Pixel.val_clamp_of_mem (by omega) h.width

theorem quad_height (h : r.Sized) : r.quad.height.val = r.height := by
  have := r.height_pos
  exact Pixel.val_clamp_of_mem (by omega) h.height

theorem sound (h : r.Sized) : r.quad.Sound := by
  unfold Quad.Sound Fits
  rw [h.quad_width, h.quad_height]
  exact ⟨r.width_pos, r.height_pos, r.right_le, r.bottom_le⟩

theorem quad_right (h : r.Sized) : r.quad.right.val = r.right := by
  rw [h.sound.edges.1, h.quad_width]
  rfl

theorem quad_bottom (h : r.Sized) : r.quad.bottom.val = r.bottom := by
  rw [h.sound.edges.2, h.quad_height]
  rfl

end Sized

/-! ### One step -/

theorem sized_of_ofSize {x y w h : Pixel} (hr : ofSize x y w h = .ok r) : r.Sized := by
  obtain ⟨-, -, -, hw, hh⟩ := ofSize_eq_ok.mp hr
  exact ⟨hw ▸ w.le_greatest, hh ▸ h.le_greatest⟩

theorem sized_of_ofSpan {left top right bottom : Pixel}
    (hr : ofSpan left top right bottom = .ok r) : r.Sized := by
  unfold ofSpan at hr
  split at hr
  · exact sized_of_ofSize hr
  · cases hr

theorem sized_of_box {points : List Point} {padding : Int}
    (hr : Point.box? points padding = some r) : r.Sized := by
  cases points with
  | nil => cases hr
  | cons p rest => exact sized_of_ofSpan (Except.toOption_eq_some_iff.mp hr)

theorem sized_union (a b : Rect) : (a.union b).Sized :=
  ⟨Int.min_le_right _ _, Int.min_le_right _ _⟩

/-- Putting two rectangles together is the same with and without their proofs. -/
theorem quad_union (ha : a.Sized) (hb : b.Sized) : (a.union b).quad = a.quad.union b.quad := by
  have hcut : ∀ z : Int, Pixel.clamp (min z 2147483647) = Pixel.clamp z := by
    intro z
    ext
    simp only [Pixel.clamp_val]
    omega
  ext1
  · rfl
  · rfl
  · show Pixel.clamp (min (max a.right b.right - (a.union b).x.val) 2147483647) =
      Pixel.clamp (max a.quad.right.val b.quad.right.val - (a.union b).x.val)
    rw [hcut, ha.quad_right, hb.quad_right]
  · show Pixel.clamp (min (max a.bottom b.bottom - (a.union b).y.val) 2147483647) =
      Pixel.clamp (max a.quad.bottom.val b.quad.bottom.val - (a.union b).y.val)
    rw [hcut, ha.quad_bottom, hb.quad_bottom]

/-- A rectangle is the one between its own corners. -/
theorem Sized.ofSpan_edges (h : r.Sized) : ofSpan r.x r.y r.quad.right r.quad.bottom = .ok r := by
  have hright := h.quad_right
  have hbottom := h.quad_bottom
  have hwidth : Pixel.ofInt? (r.quad.right.val - r.x.val) = some r.quad.width := by
    rw [Pixel.ofInt?_eq_some_iff, h.quad_width, hright, right]
    omega
  have hheight : Pixel.ofInt? (r.quad.bottom.val - r.y.val) = some r.quad.height := by
    rw [Pixel.ofInt?_eq_some_iff, h.quad_height, hbottom, bottom]
    omega
  unfold ofSpan
  rw [hwidth, hheight]
  exact ofSize_eq_ok.mpr ⟨h.sound, rfl, rfl, h.quad_width.symm, h.quad_height.symm⟩

/-! ### Many steps -/

/-- One way to make a rectangle. -/
inductive Step where
  | size (x y width height : Pixel)
  | span (left top right bottom : Pixel)
  /-- around the points, with a padding -/
  | box (points : List Point) (padding : Pixel)
  /-- around the rectangles that step number `i` and step number `j` made -/
  | union (i j : Nat)

namespace Step

/-- What a step makes, given what the steps before it made. -/
def make (made : List (Option Rect)) : Step → Option Rect
  | size x y width height => (ofSize x y width height).toOption
  | span left top right bottom => (ofSpan left top right bottom).toOption
  | box points padding => Point.box? points padding.val
  | union i j => made[i]?.join.bind fun a => made[j]?.join.map a.union

/-- The same without proofs: the union of what was made before is not checked. -/
def makeQuad (made : List (Option Quad)) : Step → Option Quad
  | size x y width height => ((ofSize x y width height).toOption).map quad
  | span left top right bottom => ((ofSpan left top right bottom).toOption).map quad
  | box points padding => (Point.box? points padding.val).map quad
  | union i j => made[i]?.join.bind fun a => made[j]?.join.map a.union

end Step

/-- What the steps make, one after the other. -/
def made (steps : List Step) : List (Option Rect) :=
  steps.foldl (fun made step => made ++ [step.make made]) []

/-- What the steps make without proofs. -/
def madeQuads (steps : List Step) : List (Option Quad) :=
  steps.foldl (fun made step => made ++ [step.makeQuad made]) []

/-- The size of every rectangle in the list can be said in coordinates. -/
def AllSized (made : List (Option Rect)) : Prop := ∀ r, some r ∈ made → r.Sized

variable {before : List (Option Rect)}

theorem AllSized.register (h : AllSized before) {i : Nat} (hr : before[i]?.join = some r) :
    r.Sized :=
  h r (List.mem_of_getElem? (Option.join_eq_some_iff.mp hr))

/-- **One step**, after any others: its rectangle has a size that can be said in coordinates, and
is the same with and without proofs. -/
theorem Step.make_sound (h : AllSized before) (step : Step) :
    (∀ r, step.make before = some r → r.Sized) ∧
      step.makeQuad (before.map (Option.map quad)) = (step.make before).map quad := by
  cases step with
  | size x y width height =>
    exact ⟨fun r hr => sized_of_ofSize (Except.toOption_eq_some_iff.mp hr), rfl⟩
  | span left top right bottom =>
    exact ⟨fun r hr => sized_of_ofSpan (Except.toOption_eq_some_iff.mp hr), rfl⟩
  | box points padding => exact ⟨fun r hr => sized_of_box hr, rfl⟩
  | union i j =>
    have hregister : ∀ k : Nat, ((before.map (Option.map quad))[k]?).join =
        before[k]?.join.map quad := by
      intro k
      rw [List.getElem?_map]
      cases before[k]? with
      | none => rfl
      | some o => rfl
    rw [makeQuad, make, hregister i, hregister j]
    cases hi : before[i]?.join with
    | none => exact ⟨fun r hr => (by cases hr), rfl⟩
    | some a =>
      cases hj : before[j]?.join with
      | none => exact ⟨fun r hr => (by cases hr), rfl⟩
      | some b =>
        refine ⟨fun r hr => ?_, congrArg some (quad_union (h.register hi) (h.register hj)).symm⟩
        rw [← Option.some.inj hr]
        exact sized_union a b

/-- Any number of steps, by induction: each of them finds rectangles of the right sizes. -/
theorem foldl_make_sound (steps : List Step) (h : AllSized before) :
    AllSized (steps.foldl (fun made step => made ++ [step.make made]) before) ∧
      steps.foldl (fun made step => made ++ [step.makeQuad made]) (before.map (Option.map quad)) =
        (steps.foldl (fun made step => made ++ [step.make made]) before).map (Option.map quad) := by
  induction steps generalizing before with
  | nil => exact ⟨h, rfl⟩
  | cons step rest ih =>
    obtain ⟨hsized, hquad⟩ := step.make_sound h
    have hnext : AllSized (before ++ [step.make before]) := by
      intro r hr
      rcases List.mem_append.mp hr with hr | hr
      · exact h r hr
      · exact hsized r (List.mem_singleton.mp hr).symm
    rw [List.foldl_cons, List.foldl_cons, hquad]
    have hmap : before.map (Option.map quad) ++ [(step.make before).map quad] =
        (before ++ [step.make before]).map (Option.map quad) := by
      rw [List.map_append]
      rfl
    rw [hmap]
    exact ih hnext

theorem made_sound (steps : List Step) :
    AllSized (made steps) ∧ madeQuads steps = (made steps).map (Option.map quad) :=
  foldl_make_sound steps fun _ hr => absurd hr List.not_mem_nil

/-- **Every rectangle that is made is sound.**  However rectangles are made from numbers, corners,
points and from one another, checking nothing in a union is as good as carrying proofs along: each
of them has an area, its right and lower edges are on the grid and are where its size says, and it
is the rectangle between its own corners. -/
theorem every_rect_made_is_sound (steps : List Step) :
    madeQuads steps = (made steps).map (Option.map quad) ∧
    ∀ q, some q ∈ madeQuads steps →
      (0 < q.width.val ∧ 0 < q.height.val) ∧
      (q.x.val + q.width.val ≤ Pixel.greatest ∧ q.y.val + q.height.val ≤ Pixel.greatest) ∧
      (q.right.val = q.x.val + q.width.val ∧ q.bottom.val = q.y.val + q.height.val) ∧
      ∃ r, some r ∈ made steps ∧ r.quad = q ∧ ofSpan q.x q.y q.right q.bottom = .ok r := by
  obtain ⟨hsized, hsame⟩ := made_sound steps
  refine ⟨hsame, fun q hq => ?_⟩
  rw [hsame] at hq
  obtain ⟨o, ho, hoq⟩ := List.mem_map.mp hq
  obtain ⟨r, rfl, rfl⟩ := Option.map_eq_some_iff.mp hoq
  have hr : r.Sized := hsized r ho
  obtain ⟨hw, hh, hright, hbottom⟩ := hr.sound
  exact ⟨⟨hw, hh⟩, ⟨hright, hbottom⟩, hr.sound.edges, r, ho, rfl, hr.ofSpan_edges⟩

/-- A rectangle at the left end of the grid and one that reaches to its right end: the union is cut
to the greatest width, and its right edge is left of the middle. -/
theorem every_rect_made_is_sound_of_cut_union :
    let left := Pixel.clamp Pixel.least
    let steps := [Step.size left 0 10 10, .size 0 0 2147483647 20, .union 0 1, .union 2 0]
    let q : Quad := ⟨left, 0, 2147483647, 20⟩
    some q ∈ madeQuads steps ∧ q.right.val = -1 ∧
      ∃ r, r.quad = q ∧ ofSpan left 0 (-1) 20 = .ok r := by
  intro left steps q
  have hq : some q ∈ madeQuads steps := by decide
  obtain ⟨-, hsound⟩ := every_rect_made_is_sound steps
  obtain ⟨-, -, ⟨hright, -⟩, r, -, hr, hspan⟩ := hsound q hq
  exact ⟨hq, hright, r, hr, hspan⟩

end Rect

end Placard
