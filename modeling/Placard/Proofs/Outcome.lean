/-
Placard/Proofs/Outcome.lean

How a composed trace ends, and what holds of all of its steps.

A trace succeeds if all of its parts do.  The lemmas of this file say so for each way in which
traces are put together; `Shape.outcome_plan_eq_ok` applies them to the drawing of a shape.
-/
import Mathlib.Data.List.Forall2
import Mathlib.Data.List.TakeWhile
import Placard.Proofs.CleanContext

/-! ### Checks -/

namespace Except

variable {ε α β : Type}

theorem exists_eq_error {r : Except ε α} (h : ∀ a, r ≠ .ok a) : ∃ e, r = .error e := by
  cases r with
  | error e => exact ⟨e, rfl⟩
  | ok a => exact absurd rfl (h a)

/-- A check that is made for every member of a list, if all of them pass: one answer each, in their
order. -/
theorem mapM_eq_ok_iff_forall₂ {f : α → Except ε β} {xs : List α} {ys : List β} :
    xs.mapM f = .ok ys ↔ List.Forall₂ (fun a b => f a = .ok b) xs ys := by
  induction xs generalizing ys with
  | nil =>
    rw [List.mapM_nil, List.forall₂_nil_left_iff]
    exact ⟨fun h => (Except.ok.inj h).symm, fun h => congrArg Except.ok h.symm⟩
  | cons a rest ih =>
    rw [List.mapM_cons, bind_eq_ok, List.forall₂_cons_left_iff]
    constructor
    · rintro ⟨b, hb, hrest⟩
      obtain ⟨bs, hbs, hys⟩ := bind_eq_ok.mp hrest
      exact ⟨b, bs, hb, ih.mp hbs, (Except.ok.inj hys).symm⟩
    · rintro ⟨b, bs, hb, hbs, rfl⟩
      exact ⟨b, hb, bind_eq_ok.mpr ⟨bs, ih.mpr hbs, rfl⟩⟩

/-- The error of such a check is that of the first member that does not pass. -/
theorem mapM_eq_error {f : α → Except ε β} {xs : List α} {e : ε} :
    xs.mapM f = .error e ↔ ∃ before a after, xs = before ++ a :: after ∧
      (∀ b ∈ before, ∃ c, f b = .ok c) ∧ f a = .error e := by
  induction xs with
  | nil =>
    constructor
    · intro h
      cases h
    · rintro ⟨before, a, after, h, -⟩
      exact absurd h.symm (List.append_ne_nil_of_right_ne_nil _ (List.cons_ne_nil _ _))
  | cons x rest ih =>
    have hrest : ∀ y, (rest.mapM f >>= fun ys => pure (y :: ys)) = .error e ↔
        rest.mapM f = .error e := by
      intro y
      cases rest.mapM f with
      | error e' => exact Iff.rfl
      | ok ys => exact ⟨fun h => (by cases h), fun h => (by cases h)⟩
    rw [List.mapM_cons, bind_eq_error]
    simp only [hrest, ih]
    constructor
    · rintro (hx | ⟨y, hy, before, a, after, rfl, hbefore, ha⟩)
      · exact ⟨[], x, rest, rfl, List.forall_mem_nil _, hx⟩
      · exact ⟨x :: before, a, after, rfl, List.forall_mem_cons.mpr ⟨⟨y, hy⟩, hbefore⟩, ha⟩
    · rintro ⟨before, a, after, h, hbefore, ha⟩
      cases before with
      | nil =>
        obtain ⟨rfl, rfl⟩ := List.cons.inj h
        exact .inl ha
      | cons b before =>
        obtain ⟨rfl, rfl⟩ := List.cons.inj h
        obtain ⟨⟨y, hy⟩, hbefore⟩ := List.forall_mem_cons.mp hbefore
        exact .inr ⟨y, hy, before, a, after, rfl, hbefore, ha⟩

/-- A check that succeeds on `P`, with the answer `g`, made for every member of a list. -/
theorem mapM_eq_ok {f : α → Except ε β} {P : α → Prop} {g : α → β}
    (h : ∀ a b, f a = .ok b ↔ P a ∧ g a = b) {xs : List α} {ys : List β} :
    xs.mapM f = .ok ys ↔ (∀ a ∈ xs, P a) ∧ xs.map g = ys := by
  simp only [mapM_eq_ok_iff_forall₂, h, List.forall₂_and_left]
  rw [← List.forall₂_map_left_iff (R := Eq), List.forall₂_eq_eq_eq]

end Except

namespace Placard

/-! ### How a composed trace ends -/

namespace Trace

variable {ι κ α β : Type}

theorem outcome_andThen_eq_ok {t : Trace ι α} {f : α → Trace ι β} {b : β} :
    (t.andThen f).outcome = .ok b ↔ ∃ a, t.outcome = .ok a ∧ (f a).outcome = .ok b := by
  cases ho : t.outcome with
  | error e =>
    rw [andThen_of_error ho]
    constructor
    · intro h
      cases h
    · rintro ⟨a, ha, -⟩
      cases ha
  | ok a =>
    rw [andThen_of_ok ho]
    constructor
    · exact fun h => ⟨a, rfl, h⟩
    · rintro ⟨a', ha, h⟩
      cases ha
      exact h

theorem outcome_all_eq_ok {ts : List (Trace ι Unit)} :
    (all ts).outcome = .ok () ↔ ∀ t ∈ ts, t.outcome = .ok () := by
  induction ts with
  | nil => exact ⟨fun _ => List.forall_mem_nil _, fun _ => rfl⟩
  | cons t rest ih =>
    rw [all, outcome_andThen_eq_ok, List.forall_mem_cons, ← ih]
    constructor
    · rintro ⟨u, ht, hrest⟩
      exact ⟨ht, hrest⟩
    · rintro ⟨ht, hrest⟩
      exact ⟨(), ht, hrest⟩

/-- Steps that are replaced by finer ones: the whole succeeds if every replacement does. -/
theorem outcome_expand_eq_ok {f : ι → Trace κ Unit} {t : Trace ι α} {a : α} :
    (t.expand f).outcome = .ok a ↔
      t.outcome = .ok a ∧ ∀ i ∈ t.items, (f i).outcome = .ok () := by
  obtain ⟨items, r⟩ := t
  induction items with
  | nil => exact ⟨fun h => ⟨h, List.forall_mem_nil _⟩, And.left⟩
  | cons i rest ih =>
    rw [expand_cons, outcome_andThen_eq_ok, List.forall_mem_cons]
    constructor
    · rintro ⟨_, hi, hrest⟩
      obtain ⟨hr, hall⟩ := ih.mp hrest
      exact ⟨hr, hi, hall⟩
    · rintro ⟨hr, hi, hall⟩
      exact ⟨(), hi, ih.mpr ⟨hr, hall⟩⟩

/-- A property of all steps of two traces in a row. -/
theorem forall_items_andThen {P : ι → Prop} {t : Trace ι α} {f : α → Trace ι β} :
    (∀ i ∈ (t.andThen f).items, P i) ↔
      (∀ i ∈ t.items, P i) ∧ ∀ a, t.outcome = .ok a → ∀ i ∈ (f a).items, P i := by
  cases ho : t.outcome with
  | error e =>
    rw [andThen_of_error ho]
    exact ⟨fun h => ⟨h, fun a ha => (by cases ha)⟩, And.left⟩
  | ok a =>
    rw [andThen_of_ok ho, List.forall_mem_append]
    constructor
    · rintro ⟨ht, hf⟩
      refine ⟨ht, fun a' ha => ?_⟩
      cases ha
      exact hf
    · exact fun ⟨ht, hf⟩ => ⟨ht, hf a rfl⟩

theorem forall_items_all {P : ι → Prop} {ts : List (Trace ι Unit)}
    (h : (all ts).outcome = .ok ()) :
    (∀ i ∈ (all ts).items, P i) ↔ ∀ t ∈ ts, ∀ i ∈ t.items, P i := by
  induction ts with
  | nil => exact ⟨fun _ => List.forall_mem_nil _, fun _ => List.forall_mem_nil _⟩
  | cons t rest ih =>
    obtain ⟨u, hu, hrest⟩ := outcome_andThen_eq_ok.mp h
    rw [all, forall_items_andThen, List.forall_mem_cons, ← ih hrest]
    constructor
    · rintro ⟨ht, hf⟩
      exact ⟨ht, hf u hu⟩
    · rintro ⟨ht, hf⟩
      exact ⟨ht, fun _ _ => hf⟩

/-- A check, which takes no steps. -/
def check (r : Except Fault α) : Trace ι α := ⟨[], r⟩

/-- Checks made one after the other are a single check. -/
theorem mapM_check (f : α → Except Fault β) (xs : List α) :
    (xs.mapM fun a => (check (f a) : Trace ι β)) = check (xs.mapM f) := by
  induction xs with
  | nil => rfl
  | cons a rest ih =>
    rw [List.mapM_cons, ih, List.mapM_cons]
    cases f a with
    | error e => rfl
    | ok b =>
      cases rest.mapM f with
      | error e => rfl
      | ok bs => rfl

theorem check_ok_andThen (a : α) (f : α → Trace ι β) : (check (.ok a)).andThen f = f a := rfl

theorem outcome_check_andThen_eq_ok {r : Except Fault α} {f : α → Trace ι β} {b : β} :
    ((check r).andThen f).outcome = .ok b ↔ ∃ a, r = .ok a ∧ (f a).outcome = .ok b :=
  outcome_andThen_eq_ok

theorem forall_items_check_andThen {P : ι → Prop} {r : Except Fault α} {f : α → Trace ι β} :
    (∀ i ∈ ((check r).andThen f).items, P i) ↔ ∀ a, r = .ok a → ∀ i ∈ (f a).items, P i := by
  rw [forall_items_andThen]
  exact ⟨And.right, fun h => ⟨List.forall_mem_nil P, h⟩⟩

theorem outcome_steps_andThen (items : List ι) (f : Unit → Trace ι β) :
    ((steps items).andThen f).outcome = (f ()).outcome := rfl

theorem forall_items_steps_andThen {P : ι → Prop} {items : List ι} {f : Unit → Trace ι β} :
    (∀ i ∈ ((steps items).andThen f).items, P i) ↔
      (∀ i ∈ items, P i) ∧ ∀ i ∈ (f ()).items, P i :=
  List.forall_mem_append

/-- A single check, and steps that depend on its answer. -/
theorem check_andThen_steps_iff {P : ι → Prop} {r : Except Fault α} {f : α → List ι} :
    ((check r).andThen fun a => steps (f a)).outcome = .ok () ∧
      (∀ i ∈ ((check r).andThen fun a => steps (f a)).items, P i) ↔
    ∃ a, r = .ok a ∧ ∀ i ∈ f a, P i := by
  rw [outcome_check_andThen_eq_ok, forall_items_check_andThen]
  constructor
  · rintro ⟨⟨a, ha, -⟩, hall⟩
    exact ⟨a, ha, hall a ha⟩
  · rintro ⟨a, rfl, hall⟩
    refine ⟨⟨a, rfl, rfl⟩, fun a' ha => ?_⟩
    cases ha
    exact hall

end Trace

/-! ### A single shape -/

namespace Primitive

theorem outcome_plan_eq_ok {ascentOf : Font → Float} {p : Primitive} :
    (p.plan ascentOf).outcome = .ok () ↔ p.fault? = none := by
  unfold plan
  cases p.fault? with
  | some e =>
    constructor
    · intro h
      cases h
    · intro h
      cases h
  | none => exact ⟨fun _ => rfl, fun _ => rfl⟩

end Primitive

/-- If no primitive of a sketch is refused, then the sketch is drawn as far as it goes. -/
theorem Sketch.expand_of_valid {ascentOf : Font → Float} {t : Sketch Unit}
    (h : ∀ p ∈ t.items, p.fault? = none) :
    t.expand (Primitive.plan ascentOf) =
      ⟨t.items.flatMap (Primitive.script ascentOf), t.outcome⟩ := by
  obtain ⟨items, r⟩ := t
  induction items with
  | nil => rfl
  | cons p rest ih =>
    obtain ⟨hp, hrest⟩ := List.forall_mem_cons.mp h
    have hplan : p.plan ascentOf = Trace.steps (p.script ascentOf) := by
      rw [Primitive.plan, hp]
    rw [Trace.expand_cons, hplan, ih hrest, Trace.steps_andThen, List.flatMap_cons]

/-- If a sketch is drawn to its end, then all of its primitives are drawn. -/
theorem Sketch.drawn_eq_items {ascentOf : Font → Float} {t : Sketch Unit}
    (h : (t.expand (Primitive.plan ascentOf)).outcome = .ok ()) : drawn t = t.items := by
  refine List.takeWhile_eq_self_iff.mpr fun p hp => ?_
  rw [Primitive.outcome_plan_eq_ok.mp ((Trace.outcome_expand_eq_ok.mp h).2 p hp)]
  rfl

/-- A shape can be drawn if it can be sketched and no primitive of the sketch is refused. -/
theorem Shape.outcome_plan_eq_ok {ascentOf : Font → Float} {style : Style} {s : Shape} :
    (s.plan ascentOf style).outcome = .ok () ↔ (s.sketch style).outcome = .ok () ∧
      ∀ p ∈ (s.sketch style).items, p.fault? = none := by
  rw [plan, Trace.outcome_expand_eq_ok]
  simp only [Primitive.outcome_plan_eq_ok]

end Placard
