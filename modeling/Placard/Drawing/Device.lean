/-
Placard/Drawing/Device.lean

A device that records the calls made on it, one of which it may refuse, and that can be asked.

`Device.perform` makes a list of calls one by one.  The refused call is recorded and ends
the list; later calls work again.  The recorded calls determine the state of the device
(`Device.context`), and what it answers depends on that state.

A `Drawing` is work on a device: it makes calls and may go on in a way that depends on an answer.
It ends with a result, with a geometric fault, or at the refused call.
-/
import Placard.Drawing.Context
import Placard.Geometry.Fault

namespace Placard

/-- Why a drawing failed. -/
inductive DrawError where
  | geometry (fault : Fault)
  /-- The device ran out of memory. -/
  | device

def DrawError.message : DrawError → String
  | .geometry fault => "invalid geometry: " ++ fault.detail
  | .device => "cairo error: No Memory"

/-- What a device leaves to the library behind it. -/
structure Backend where
  /-- how far the letters of a font reach above the base line -/
  ascent : ScaledFont → Float
  /-- the file that holds the image drawn by some calls -/
  encode : Script → ByteArray

/-- A stand-in for a library: letters reach three quarters of their size above the base line, and
image files end after their signature. -/
def Backend.standIn : Backend where
  ascent font := 0.75 * font.size.getD 10
  encode _ := ⟨#[0x89, 0x50, 0x4E, 0x47, 0x0D, 0x0A, 0x1A, 0x0A]⟩

/-- The calls made so far, and the number of the call to refuse, counted from zero.
Calls that cannot fail are never refused. -/
structure Device where
  backend : Backend := .standIn
  calls : Array Call := #[]
  refusing : Option Nat := none

/-- Work on a device. -/
abbrev Drawing (α : Type) := ExceptT DrawError (StateM Device) α

namespace Device

/-- Makes one call; the answer tells whether it worked. -/
def call (d : Device) (c : Call) : Bool × Device :=
  (!(c.fallible && d.refusing == some d.calls.size), { d with calls := d.calls.push c })

/-- Makes calls until one is refused; the answer tells whether all of them worked. -/
def perform (d : Device) : Script → Bool × Device
  | [] => (true, d)
  | c :: rest =>
    match d.call c with
    | (true, d) => d.perform rest
    | (false, d) => (false, d)

/-- The state that the calls so far have led to. -/
def context (d : Device) : Context := Context.reached {} d.calls.toList

/-- How far the letters of the font in force reach above the base line. -/
def ascent (d : Device) : Float := d.backend.ascent d.context.pen.scaledFont

/-- The file that holds the image drawn so far. -/
def image (d : Device) : ByteArray := d.backend.encode d.calls.toList

/-- Does some work on the device. -/
def run {α : Type} (d : Device) (drawing : Drawing α) : Except DrawError α × Device := drawing d

/-! ### One call after the other -/

theorem perform_cons_of_works {d : Device} {c : Call} (h : (d.call c).1 = true)
    (rest : Script) : d.perform (c :: rest) = (d.call c).2.perform rest := by
  rw [perform]
  split
  · rename_i hd; rw [hd]
  · rename_i hd; rw [hd] at h; cases h

theorem perform_cons_of_refused {d : Device} {c : Call} (h : (d.call c).1 = false)
    (rest : Script) : d.perform (c :: rest) = (false, (d.call c).2) := by
  rw [perform]
  split
  · rename_i hd; rw [hd] at h; cases h
  · rename_i hd; rw [hd]

/-- A script in two parts: the second one is performed only if the first one worked. -/
theorem perform_append (d : Device) (a b : Script) :
    d.perform (a ++ b) =
      if (d.perform a).1 then (d.perform a).2.perform b else d.perform a := by
  induction a generalizing d with
  | nil => simp [perform]
  | cons c rest ih =>
    cases h : (d.call c).1 with
    | true => rw [List.cons_append, perform_cons_of_works h, perform_cons_of_works h, ih]
    | false => simp [List.cons_append, perform_cons_of_refused h]

/-- Without a call to refuse, every script is performed to its end. -/
theorem perform_of_refusing_none {d : Device} (h : d.refusing = none) (s : Script) :
    d.perform s = (true, { d with calls := d.calls ++ s.toArray }) := by
  induction s generalizing d with
  | nil => simp [perform]
  | cons c rest ih =>
    have works : (d.call c).1 = true := by simp [call, h]
    have kept : (d.call c).2.refusing = none := h
    rw [perform_cons_of_works works, ih kept]
    simp [call]

end Device

/-! ### The steps of a drawing -/

namespace Drawing

variable {α : Type}

/-- Makes calls, one after the other. -/
def make (script : Script) : Drawing Unit := fun d =>
  match d.perform script with
  | (true, d) => (.ok (), d)
  | (false, d) => (.error .device, d)

/-- Asks how far the letters of the font in force reach above the base line. -/
def fontExtents : Drawing Float := do
  make [.fontExtents]
  return (← get).ascent

/-- Makes an image file of what was drawn so far. -/
def encode : Drawing ByteArray := do
  make [.writePng]
  return (← get).image

/-- A check, which makes no calls. -/
def check (r : Except Fault α) : Drawing α := fun d => (r.mapError .geometry, d)

end Drawing

end Placard
