/-
Placard/Session.lean

Work that changes files, draws, and tells about it.

A job either succeeds or stops with an error; what it has done until then stays done.
-/
import Placard.Drawing.Device
import Placard.Notice

namespace Placard

/-- The files, the drawing device, and the notices so far. -/
structure Session where
  files : Files
  device : Device := {}
  notices : List Notice := []

/-- Work in a session. -/
abbrev Job (ε α : Type) := ExceptT ε (StateM Session) α

namespace Job

variable {ε α : Type}

/-- The files as they are. -/
def files : Job ε Files := return (← get).files

/-- Tells something. -/
def tell (notices : List Notice) : Job ε Unit :=
  modify fun s => { s with notices := s.notices ++ notices }

/-- Draws on the device. -/
def perform (drawing : Drawing α) : Job DrawError α := fun s =>
  let (result, device) := s.device.run drawing
  (result, { s with device })

/-- Changes the files, or leaves them as they are. -/
def change (f : Files → Except FileError (α × Files)) : Job FileError α := fun s =>
  match f s.files with
  | .ok (a, files) => (.ok a, { s with files })
  | .error e => (.error e, s)

/-- Changes the files in a way that may fail half-way. -/
def attempt (f : Files → Except FileError α × Files) : Job FileError α := fun s =>
  let (result, files) := f s.files
  (result, { s with files })

/-- Changes the files in a way that cannot fail. -/
def update (f : Files → Files) : Job ε Unit :=
  modify fun s => { s with files := f s.files }

/-- Reports errors as part of larger ones. -/
def within {δ : Type} (f : δ → ε) (job : Job δ α) : Job ε α := ExceptT.adapt f job

/-! ### What a job leaves alone -/

theorem perform_files (drawing : Drawing α) (s : Session) :
    ((perform drawing) s).2.files = s.files := rfl

theorem perform_notices (drawing : Drawing α) (s : Session) :
    ((perform drawing) s).2.notices = s.notices := rfl

theorem tell_files (notices : List Notice) (s : Session) :
    ((tell notices : Job ε Unit) s).2.files = s.files := rfl

/-- A change that fails changes nothing. -/
theorem change_of_error {f : Files → Except FileError (α × Files)} {s : Session}
    {e : FileError} (h : f s.files = .error e) : (change f) s = (.error e, s) := by
  unfold change
  rw [h]

end Job

end Placard
