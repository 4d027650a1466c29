/-
Placard/Gallery/ControlPlane.lean

What the operator can do, and the state that it acts on.
-/
import Placard.Gallery.Rows

namespace Placard.Gallery

namespace ControlPlane

def surfaces : List Shape :=
  .panel 56 180 720 760 (some "Operator Surfaces") ::
  bullets 84 250 50
    [("Agents tab: guided setup and runtime controls", .ok),
      ("Overview / Activity / Budget / Providers", .ok),
      ("Desktop snapshots for widget + menu bar", .ok),
      ("CLI JSON contract for desktop integration", .ok)]

def actions : List Shape :=
  .text 84 490 "Primary actions" .heading .text ::
  paragraph 84 540 44 .body .muted
    ["- tokfence start / stop / status", "- tokfence launch / restart / logs",
      "- tokfence kill / unkill / revoke / restore", "- tokfence budget set / clear / status",
      "- tokfence watch --once / --interval"]

/-- A part of the state: what it is, and its value in the color of a status. -/
structure Part where
  title : String
  value : String
  status : Status

def parts : List Part :=
  [⟨"Daemon", "Online", .ok⟩, ⟨"Transport", "UDS preferred + TCP fallback", .info⟩,
    ⟨"Capabilities", "Session scoped + signed", .ok⟩,
    ⟨"Risk", "GREEN / YELLOW / ORANGE / RED", .caution⟩,
    ⟨"Kill switch", "Immediate global block", .critical⟩,
    ⟨"Audit", "SQLite request logs + stats", .ok⟩]

/-- The box of a part of the state. -/
def box (index : Nat) (p : Part) : List Shape :=
  let y := row 250 104 index
  [.block 844 y 608 90 14 .surfaceAlt (some .border),
    .text 870 (y.shift 20) p.title .heading .text,
    .text 1110 (y.shift 24) p.value .body (.status p.status)]

def runtimeState : List Shape :=
  .panel 816 180 664 760 (some "Runtime State") :: (parts.mapIdx box).flatten

end ControlPlane

def controlPlane : Diagram :=
  (Diagram.withHeader "control_plane" "Tokfence Control Plane"
    "Desktop + CLI operate the same local daemon state").add
    (ControlPlane.surfaces ++ ControlPlane.actions ++ ControlPlane.runtimeState)

end Placard.Gallery
