/-
Placard/Drawing/Trace.lean

Sequences of drawing steps that may end early.

A `Trace ι α` is the list of the steps taken, together with how it ended: with a result,
or with a geometric fault.  Steps taken before a fault stay in the list.  Traces are put
together by `bind`, which appends the steps.
-/
import Placard.Geometry.Fault

namespace Placard

/-- The steps taken, and how they ended. -/
structure Trace (ι : Type) (α : Type) where
  items : List ι
  outcome : Except Fault α

namespace Trace

variable {ι κ α β : Type}

/-- No steps, and a result. -/
def done (a : α) : Trace ι α := ⟨[], .ok a⟩

/-- No steps, and a fault. -/
def fail (e : Fault) : Trace ι α := ⟨[], .error e⟩

/-- A single step. -/
def step (i : ι) : Trace ι Unit := ⟨[i], .ok ()⟩

/-- Several steps. -/
def steps (items : List ι) : Trace ι Unit := ⟨items, .ok ()⟩

/-- Goes on with `f` unless `t` ended in a fault. -/
def andThen (t : Trace ι α) (f : α → Trace ι β) : Trace ι β :=
  match t.outcome with
  | .error e => ⟨t.items, .error e⟩
  | .ok a => ⟨t.items ++ (f a).items, (f a).outcome⟩

instance : Monad (Trace ι) where
  pure := done
  bind := andThen

/-- A check takes no steps. -/
instance : MonadLift (Except Fault) (Trace ι) where
  monadLift r := ⟨[], r⟩

instance : LawfulMonad (Trace ι) := LawfulMonad.mk' (Trace ι)
  (by
    intro α t
    rcases t with ⟨items, e | a⟩ <;> simp [Functor.map, andThen, done])
  (by
    intro α β a f
    simp [bind, pure, andThen, done])
  (by
    intro α β γ t f g
    rcases t with ⟨items, e | a⟩
    · rfl
    · simp only [bind, andThen]
      cases (f a).outcome <;> simp)

/-- One trace after the other. -/
def all : List (Trace ι Unit) → Trace ι Unit
  | [] => done ()
  | t :: rest => andThen t fun _ => all rest

/-! ### How traces are put together -/

theorem andThen_of_ok {t : Trace ι α} {a : α} (h : t.outcome = .ok a) (f : α → Trace ι β) :
    t.andThen f = ⟨t.items ++ (f a).items, (f a).outcome⟩ := by
  simp only [andThen, h]

theorem andThen_of_error {t : Trace ι α} {e : Fault} (h : t.outcome = .error e)
    (f : α → Trace ι β) : t.andThen f = ⟨t.items, .error e⟩ := by
  simp only [andThen, h]

theorem andThen_assoc (t : Trace ι α) (f : α → Trace ι β) {γ : Type} (g : β → Trace ι γ) :
    (t.andThen f).andThen g = t.andThen fun a => (f a).andThen g :=
  bind_assoc (m := Trace ι) t f g

/-- The outcome of steps that all succeed is that of the trace after them. -/
theorem steps_andThen (items : List ι) (f : Unit → Trace ι α) :
    (steps items).andThen f = ⟨items ++ (f ()).items, (f ()).outcome⟩ := rfl

/-- Steps in a row can be taken in two parts. -/
theorem steps_append (a b : List ι) :
    (steps (a ++ b) : Trace ι Unit) = (steps a).andThen fun _ => steps b := rfl

theorem all_append (a b : List (Trace ι Unit)) :
    all (a ++ b) = (all a).andThen fun _ => all b := by
  induction a with
  | nil => rfl
  | cons t rest ih => rw [List.cons_append, all, ih, all, andThen_assoc]

end Trace

end Placard
