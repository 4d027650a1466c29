/-
Placard/Proofs/Context.lean

Replaying a recording.

A recording can be replayed part by part, and what is on the surface already makes no difference
to it (`Context.replay_above`).  Between the primitives of a drawing the context is `Context.Clean`:
clean contexts differ in their pens and in what is on the surface only.
-/
import Placard.Proofs.Recording

namespace Placard

namespace Call

/-- The call adds to the path. -/
def buildsPath : Call → Bool
  | .moveTo _ _ | .lineTo _ _ | .arc _ _ _ _ _ | .closePath => true
  | _ => false

/-- The call paints along the path. -/
def paintsPath : Call → Bool
  | .fill | .fillPreserve | .stroke => true
  | _ => false

def isSave : Call → Bool
  | .save => true
  | _ => false

/-- The change of the coordinate system that the call asks for. -/
def motion? : Call → Option Motion
  | .translate x y => some (.translate x y)
  | .scale x y => some (.scale x y)
  | _ => none

/-- A call that adds to the path does nothing else. -/
theorem only_buildsPath {c : Call} (h : c.buildsPath = true) :
    c.paintsPath = false ∧ c.isSave = false ∧ c.motion? = none := by
  cases c with
  | moveTo _ _ | lineTo _ _ | arc _ _ _ _ _ | closePath => exact ⟨rfl, rfl, rfl⟩
  | _ => cases h

end Call

namespace Context

/-- How many pens are put aside. -/
def depth (x : Context) : Nat := x.saved.length

/-- What was painted along a path: the call, and the path. -/
def painted (x : Context) : List (Call × List Piece) :=
  (x.marks.filter fun m => m.call.paintsPath).map fun m => (m.call, m.path)

/-- Nothing is put aside, the coordinate system is that of the surface, and there is no path. -/
structure Clean (x : Context) : Prop where
  saved : x.saved = []
  transform : x.pen.transform = []
  path : x.path = []

/-! ### Replaying in parts -/

variable {x y : Context}

theorem replay_nil (x : Context) : x.replay [] = some x := rfl

theorem replay_cons (x : Context) (c : Call) (rest : Script) :
    x.replay (c :: rest) = (x.after c).bind fun y => y.replay rest := rfl

theorem replay_append (x : Context) (a b : Script) :
    x.replay (a ++ b) = (x.replay a).bind fun y => y.replay b := by
  induction a generalizing x with
  | nil => rfl
  | cons c rest ih =>
    rw [List.cons_append, replay_cons, replay_cons, Option.bind_assoc]
    exact congrArg _ (funext fun y => ih y)

/-- A part of a recording that can be replayed can be replayed. -/
theorem replay_of_append {a b : Script} (h : x.replay (a ++ b) = some y) :
    ∃ z, x.replay a = some z ∧ z.replay b = some y := by
  rw [replay_append] at h
  exact Option.bind_eq_some_iff.mp h

theorem reached_append (x : Context) (a b : Script) :
    x.reached (a ++ b) = (x.reached a).reached b := List.foldl_append

/-- A recording that can be replayed leads to where it is replayed to. -/
theorem reached_of_replay {script : Script} (h : x.replay script = some y) :
    x.reached script = y := by
  induction script generalizing x with
  | nil =>
    cases h
    rfl
  | cons c rest ih =>
    rw [replay_cons] at h
    obtain ⟨z, hz, hy⟩ := Option.bind_eq_some_iff.mp h
    show (x.next c).reached rest = y
    rw [next, hz]
    exact ih hy

/-- Calls that only add to the path do nothing else. -/
theorem replay_of_buildsPath {script : Script} (h : ∀ c ∈ script, c.buildsPath = true) :
    x.replay script =
      some { x with path := x.path ++ script.map fun c => ⟨c, x.pen.transform⟩ } := by
  induction script generalizing x with
  | nil => simp [replay_nil]
  | cons c rest ih =>
    have hc : x.after c = some { x with path := x.path ++ [⟨c, x.pen.transform⟩] } := by
      have hb := h c List.mem_cons_self
      cases c with
      | moveTo _ _ | lineTo _ _ | arc _ _ _ _ _ | closePath => rfl
      | _ => cases hb
    rw [replay_cons, hc, Option.bind_some, ih fun c hc => h c (List.mem_cons_of_mem _ hc)]
    simp

/-! ### What is on the surface already -/

/-- The same context on a surface that something was put on before. -/
def above (marks : List Mark) (x : Context) : Context := { x with marks := marks ++ x.marks }

theorem after_above (marks : List Mark) (c : Call) :
    (x.above marks).after c = (x.after c).map (above marks) := by
  cases c with
  | restore =>
    obtain ⟨pen, saved, path, old⟩ := x
    cases saved with
    | nil => rfl
    | cons p rest => rfl
  | paint | fill | stroke | fillPreserve | showText _ | showLayout _ _ =>
    simp [after, above, mark]
  | _ => rfl

/-- What is on the surface makes no difference to later calls. -/
theorem replay_above (marks : List Mark) (script : Script) :
    (x.above marks).replay script = (x.replay script).map (above marks) := by
  induction script generalizing x with
  | nil => rfl
  | cons c rest ih =>
    rw [replay_cons, replay_cons, after_above]
    cases x.after c with
    | none => rfl
    | some y => exact ih

theorem painted_above (marks : List Mark) :
    (x.above marks).painted = ({ marks } : Context).painted ++ x.painted := by
  simp [painted, above]

/-! ### Clean contexts -/

/-- A clean context on an empty surface. -/
def fresh (pen : Pen) : Context := { pen := { pen with transform := [] } }

/-- Clean contexts differ in their pen and in what is on the surface only. -/
theorem Clean.eq_above (h : x.Clean) : x = (fresh x.pen).above x.marks := by
  obtain ⟨⟨source, width, join, cap, face, size, transform⟩, saved, path, marks⟩ := x
  obtain ⟨hsaved, htransform, hpath⟩ := h
  obtain rfl : saved = [] := hsaved
  obtain rfl : transform = [] := htransform
  obtain rfl : path = [] := hpath
  simp [fresh, above]

theorem Clean.above (h : x.Clean) (marks : List Mark) : (x.above marks).Clean :=
  ⟨h.saved, h.transform, h.path⟩

theorem Clean.depth (h : x.Clean) : x.depth = 0 := by
  rw [Context.depth, h.saved]
  rfl

/-- What a script does to an empty surface, it does to every other surface as well. -/
theorem Clean.replay_of_fresh {script : Script} (hx : x.Clean)
    (hy : (fresh x.pen).replay script = some y) :
    x.replay script = some (y.above x.marks) ∧
      (y.above x.marks).painted = x.painted ++ y.painted := by
  refine ⟨?_, painted_above x.marks⟩
  calc x.replay script
      = ((fresh x.pen).above x.marks).replay script := congrArg (·.replay script) hx.eq_above
    _ = some (y.above x.marks) := by rw [replay_above, hy]; rfl

/-! ### Depth -/

theorem depth_after_le {c : Call} (h : x.after c = some y) :
    y.depth ≤ x.depth + if c.isSave then 1 else 0 := by
  cases c with
  | save =>
    cases h
    exact Nat.le_refl _
  | restore =>
    obtain ⟨pen, saved, path, marks⟩ := x
    cases saved with
    | nil => cases h  -- there is nothing to restore
    | cons p rest =>
      cases h
      show rest.length ≤ (p :: rest).length + 0
      exact Nat.le_succ _
  | contextNew =>
    cases h
    exact Nat.zero_le _
  | _ =>
    cases h
    exact Nat.le_refl _

/-- Only a `save` makes the context deeper. -/
theorem depth_replay_le {script : Script} (h : x.replay script = some y) :
    y.depth ≤ x.depth + script.countP Call.isSave := by
  induction script generalizing x with
  | nil =>
    cases h
    exact Nat.le_refl _
  | cons c rest ih =>
    rw [replay_cons] at h
    obtain ⟨z, hz, hy⟩ := Option.bind_eq_some_iff.mp h
    have hfirst := depth_after_le hz
    have hrest := ih hy
    rw [List.countP_cons]
    omega

end Context

end Placard
