/-
Placard/Proofs/Padded.lean

The padded box around a list of points.

The loop over the points keeps the least and the greatest coordinate seen so far (`Ranges.snoc`), so
in the end it has those of all points (`Point.ranges_cons`).  From then on the two axes do not meet:
the box is missing if the padded range is too long on one of them, and otherwise its edges are the
ends of the two padded ranges (`Point.box?_eq_none_of_ranges`, `Point.edges_of_box?`).  As a range
depends on nothing but which points there are, so does the box.
-/
import Mathlib.Data.List.Induction
import Mathlib.Order.Bounds.Basic
import Placard.Proofs.Inside
import Placard.Proofs.Extent

namespace Placard

/-- The two axes of the grid. -/
inductive Axis where
  | across
  | down

/-- The coordinate of a point on an axis. -/
def Axis.coordinate : Axis → Point → ℤ
  | across, p => p.x.val
  | down, p => p.y.val

/-- The edges of a rectangle on an axis, the second one exclusive. -/
def Rect.edges (r : Rect) : Axis → ℤ × ℤ
  | .across => (r.x.val, r.right)
  | .down => (r.y.val, r.bottom)

theorem Rect.contains_iff_edges {a b : Rect} : a.contains b = true ↔
    ∀ axis, (a.edges axis).1 ≤ (b.edges axis).1 ∧ (b.edges axis).2 ≤ (a.edges axis).2 := by
  rw [contains_iff]
  constructor
  · rintro ⟨hleft, htop, hright, hbottom⟩ (_ | _)
    · exact ⟨hleft, hright⟩
    · exact ⟨htop, hbottom⟩
  · intro h
    exact ⟨(h .across).1, (h .down).1, (h .across).2, (h .down).2⟩

namespace Point

/-! ### What the loop finds -/

/-- On an axis, the points reach from `low` to `high`. -/
structure Ranges (points : List Point) (axis : Axis) (low high : ℤ) : Prop where
  least : IsLeast (axis.coordinate '' {p | p ∈ points}) low
  greatest : IsGreatest (axis.coordinate '' {p | p ∈ points}) high

namespace Ranges

variable {points more : List Point} {axis : Axis} {low high low' high' : ℤ}

theorem unique (h : Ranges points axis low high) (h' : Ranges points axis low' high') :
    low = low' ∧ high = high' :=
  ⟨h.least.unique h'.least, h.greatest.unique h'.greatest⟩

/-- Only which points there are counts, not how often or in which order. -/
theorem of_mem_iff (hsame : ∀ p, p ∈ more ↔ p ∈ points) (h : Ranges points axis low high) :
    Ranges more axis low high := by
  have hset : {p | p ∈ more} = {p | p ∈ points} := Set.ext hsame
  exact ⟨hset ▸ h.least, hset ▸ h.greatest⟩

/-- More points reach at least as far. -/
theorem mono (hsub : points ⊆ more) (h : Ranges points axis low high)
    (h' : Ranges more axis low' high') : low' ≤ low ∧ high ≤ high' := by
  have himage : axis.coordinate '' {p | p ∈ points} ⊆ axis.coordinate '' {p | p ∈ more} :=
    Set.image_mono fun _ hp => hsub hp
  exact ⟨h.least.mono h'.least himage, h.greatest.mono h'.greatest himage⟩

/-- One step of the loop. -/
theorem snoc (h : Ranges points axis low high) (q : Point) : Ranges (points ++ [q]) axis
    (min low (axis.coordinate q)) (max high (axis.coordinate q)) := by
  have hset : {p | p ∈ points ++ [q]} = insert q {p | p ∈ points} := by
    ext p
    simp [or_comm]
  rw [min_comm, max_comm]
  constructor
  · rw [hset, Set.image_insert_eq]
    exact h.least.insert _
  · rw [hset, Set.image_insert_eq]
    exact h.greatest.insert _

/-- One of the points is between the two ends. -/
theorem between (h : Ranges points axis low high) : ∃ p ∈ points,
    low ≤ axis.coordinate p ∧ axis.coordinate p ≤ high := by
  obtain ⟨p, hp, hlow⟩ := h.least.1
  exact ⟨p, hp, hlow.ge, h.greatest.2 (Set.mem_image_of_mem _ hp)⟩

end Ranges

/-- The whole loop, which begins with the first point. -/
theorem ranges_cons (axis : Axis) (p : Point) (rest : List Point) : Ranges (p :: rest) axis
    (rest.foldl (fun m q => min m (axis.coordinate q)) (axis.coordinate p))
    (rest.foldl (fun m q => max m (axis.coordinate q)) (axis.coordinate p)) := by
  -- the induction is on the end of the list, where the loop takes its last step
  induction rest using List.reverseRecOn with
  | nil =>
    have hset : axis.coordinate '' {q | q ∈ [p]} = {axis.coordinate p} := by simp
    exact ⟨hset ▸ isLeast_singleton, hset ▸ isGreatest_singleton⟩
  | append_singleton rest q ih =>
    rw [List.foldl_append, List.foldl_append]
    exact ih.snoc q

theorem exists_ranges {points : List Point} (h : points ≠ []) (axis : Axis) :
    ∃ low high, Ranges points axis low high := by
  obtain ⟨p, rest, rfl⟩ := List.exists_cons_of_ne_nil h
  exact ⟨_, _, ranges_cons axis p rest⟩

/-! ### The box -/

section

variable {points : List Point} {left right top bottom padding : ℤ} {r : Rect}

/-- The two ends of a padded range, on the grid. -/
def padded (padding low high : ℤ) : Pixel × Pixel :=
  (Pixel.clamp (low - max padding 1), Pixel.clamp (high + max padding 1))

theorem box?_of_ranges (hx : Ranges points .across left right)
    (hy : Ranges points .down top bottom) :
    box? points padding = (Rect.ofSpan (padded padding left right).1 (padded padding top bottom).1
      (padded padding left right).2 (padded padding top bottom).2).toOption := by
  cases points with
  | nil =>
    obtain ⟨p, hp, -⟩ := hx.between
    cases hp
  | cons p rest =>
    obtain ⟨rfl, rfl⟩ := hx.unique (ranges_cons .across p rest)
    obtain ⟨rfl, rfl⟩ := hy.unique (ranges_cons .down p rest)
    rfl

/-- A padded range is longer than a coordinate can say. -/
def TooLong (padding low high : ℤ) : Prop :=
  Pixel.greatest < (padded padding low high).2.val - (padded padding low high).1.val

theorem padded_lt {p : Pixel} {low high : ℤ} (h : low ≤ p.val ∧ p.val ≤ high) :
    (padded padding low high).1.val < (padded padding low high).2.val :=
  p.clamp_sub_lt_clamp_add (show 0 < max padding 1 by omega) h

/-- The padding keeps the box from being empty, even where one of its sides is cut off. -/
theorem box?_eq_none_of_ranges (hx : Ranges points .across left right)
    (hy : Ranges points .down top bottom) :
    box? points padding = none ↔ TooLong padding left right ∨ TooLong padding top bottom := by
  obtain ⟨p, -, hp⟩ := hx.between
  obtain ⟨q, -, hq⟩ := hy.between
  rw [box?_of_ranges hx hy, Except.toOption_eq_none_iff,
    Rect.exists_ofSpan_eq_ok (padded_lt (p := p.x) hp) (padded_lt (p := q.y) hq), not_and_or,
    not_le, not_le]
  rfl

theorem edges_of_box? (h : box? points padding = some r) (axis : Axis) : ∃ low high,
    Ranges points axis low high ∧
      r.edges axis = ((padded padding low high).1.val, (padded padding low high).2.val) := by
  have hne : points ≠ [] := by
    rintro rfl
    cases h
  obtain ⟨left, right, hx⟩ := exists_ranges hne .across
  obtain ⟨top, bottom, hy⟩ := exists_ranges hne .down
  rw [box?_of_ranges hx hy, Except.toOption_eq_some_iff] at h
  obtain ⟨hleft, htop, hright, hbottom⟩ := Rect.ofSpan_eq_ok h
  cases axis with
  | across => exact ⟨left, right, hx, by rw [Rect.edges, hleft, hright]⟩
  | down => exact ⟨top, bottom, hy, by rw [Rect.edges, htop, hbottom]⟩

theorem box?_eq_none_iff : box? points padding = none ↔
    points = [] ∨ ∃ axis low high, Ranges points axis low high ∧ TooLong padding low high := by
  by_cases hne : points = []
  · exact iff_of_true (hne ▸ rfl) (.inl hne)
  obtain ⟨left, right, hx⟩ := exists_ranges hne .across
  obtain ⟨top, bottom, hy⟩ := exists_ranges hne .down
  rw [box?_eq_none_of_ranges hx hy, or_iff_right hne]
  constructor
  · rintro (h | h)
    · exact ⟨.across, left, right, hx, h⟩
    · exact ⟨.down, top, bottom, hy, h⟩
  · rintro ⟨axis, low, high, hrange, h⟩
    cases axis with
    | across =>
      obtain ⟨rfl, rfl⟩ := hrange.unique hx
      exact .inl h
    | down =>
      obtain ⟨rfl, rfl⟩ := hrange.unique hy
      exact .inr h

theorem box?_of_mem_iff {other : List Point} (hsame : ∀ p, p ∈ other ↔ p ∈ points) :
    box? other padding = box? points padding := by
  by_cases hne : points = []
  · subst hne
    obtain rfl : other = [] := List.eq_nil_iff_forall_not_mem.mpr fun p hp =>
      List.not_mem_nil ((hsame p).mp hp)
    rfl
  obtain ⟨left, right, hx⟩ := exists_ranges hne .across
  obtain ⟨top, bottom, hy⟩ := exists_ranges hne .down
  rw [box?_of_ranges hx hy, box?_of_ranges (hx.of_mem_iff hsame) (hy.of_mem_iff hsame)]

theorem contains_of_subset {more : List Point} {larger : Rect} (h : box? points padding = some r)
    (hsub : points ⊆ more) (h' : box? more padding = some larger) : larger.contains r = true := by
  rw [Rect.contains_iff_edges]
  intro axis
  obtain ⟨low, high, hrange, hedges⟩ := edges_of_box? h axis
  obtain ⟨low', high', hrange', hedges'⟩ := edges_of_box? h' axis
  obtain ⟨hlow, hhigh⟩ := hrange.mono hsub hrange'
  rw [hedges, hedges']
  exact ⟨Pixel.clamp_mono (by omega), Pixel.clamp_mono (by omega)⟩

end

/-- **The padded box.**  There is no box around no points, and none if, on one of the axes, it is
farther than a coordinate can say from the least coordinate less the padding to the greatest plus
the padding, both taken on the grid.  Otherwise these are the edges of the box.  Neither order nor
repetition of the points counts, and the box around more points contains the one around some of
them. -/
theorem box?_is_padded (points : List Point) (padding : ℤ) :
    (box? points padding = none ↔ points = [] ∨ ∃ axis low high, Ranges points axis low high ∧
      Pixel.greatest <
        (Pixel.clamp (high + max padding 1)).val - (Pixel.clamp (low - max padding 1)).val) ∧
    (∀ r, box? points padding = some r → ∀ axis, ∃ low high, Ranges points axis low high ∧
      r.edges axis =
        ((Pixel.clamp (low - max padding 1)).val, (Pixel.clamp (high + max padding 1)).val)) ∧
    (∀ other : List Point, (∀ p, p ∈ other ↔ p ∈ points) →
      box? other padding = box? points padding) ∧
    ∀ r more larger, box? points padding = some r → points ⊆ more →
      box? more padding = some larger → larger.contains r = true :=
  ⟨box?_eq_none_iff, fun _ => edges_of_box?, fun _ => box?_of_mem_iff,
    fun _ _ _ => contains_of_subset⟩

/-- Two points, padded by three pixels: in another order and with one of them repeated they have the
same box.  A third point at the right end of the grid widens it as far as the grid goes, and a
fourth one at the left end makes it too wide. -/
theorem box?_is_padded_up_to_the_right_end :
    let points : List Point := [⟨10, 20⟩, ⟨30, 40⟩]
    let more := points ++ [⟨2147483647, 25⟩]
    ∃ r larger, box? points 3 = some r ∧ r.edges .across = (7, 33) ∧ r.edges .down = (17, 43) ∧
      box? [⟨30, 40⟩, ⟨10, 20⟩, ⟨30, 40⟩] 3 = some r ∧
      box? more 3 = some larger ∧ larger.edges .across = (7, 2147483647) ∧
      larger.contains r = true ∧ box? (⟨-2147483648, 25⟩ :: more) 3 = none := by
  intro points more
  obtain ⟨-, -, hsame, hmore⟩ := box?_is_padded points 3
  have hbox : box? points 3 =
      some ⟨7, 17, 26, 26, by decide, by decide, by decide, by decide⟩ := rfl
  have hlarger : box? more 3 =
      some ⟨7, 17, 2147483640, 26, by decide, by decide, by decide, by decide⟩ := rfl
  refine ⟨_, _, hbox, rfl, rfl, ?_, hlarger, rfl, ?_, rfl⟩
  · rw [← hbox]
    exact hsame _ (by simp [points, or_comm])
  · exact hmore _ more _ hbox (List.subset_append_left _ _) hlarger

end Point

end Placard
