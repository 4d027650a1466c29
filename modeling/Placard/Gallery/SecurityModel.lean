/-
Placard/Gallery/SecurityModel.lean

Threats, controls, and the ladder of risk states.
-/
import Placard.Gallery.Rows

namespace Placard.Gallery

namespace SecurityModel

/-- From one bullet to the next. -/
def pitch : Int := 50

def threats : List Shape :=
  .panel 56 180 460 760 (some "Threats") ::
  bullets 84 250 pitch
    [("Prompt injection attempts to exfiltrate keys", .critical),
      ("Compromised local process calls proxy", .critical),
      ("Runaway token spend or abuse", .critical),
      ("Dangerous endpoint/method misuse", .critical),
      ("Leaked token appears in outputs", .critical)]

def boundaryNote : List Shape :=
  .text 84 530 "Boundary note:" .heading .text ::
  paragraph 84 574 38 .body .muted
    ["localhost is not a full isolation boundary.", "UDS + capabilities reduce attack surface",
      "but do not replace host compromise defenses."]

def controls : List Shape :=
  .panel 556 180 924 760 (some "Controls") ::
  bullets 584 250 pitch
    [("Vault-backed key injection (no plaintext key in agent)", .ok),
      ("Dual listener: UDS preferred, TCP for Docker flows", .info),
      ("Capability gating before upstream/tool actions", .ok),
      ("Risk-state policy enforcement (scope + TTL)", .ok),
      ("Budget/rate-limit/kill switch containment", .ok),
      ("Canary leak detection with incident logging", .caution)]

/-! ### The ladder -/

/-- The exclusive right edge of the box around the ladder. -/
def ladderRight : Int := 1400

/-- The risk states, mildest first. -/
def states : List (String × Status) :=
  [("GREEN", .ok), ("YELLOW", .caution), ("ORANGE", .elevated), ("RED", .critical)]

def segmentWidth : Int := 170

def segmentGap : Int := 50

/-- One step of the ladder. An arrow to the next one is drawn as long as the box has room
for it. -/
def segment (index : Nat) (state : String × Status) : List Shape :=
  let x := row 648 (segmentWidth + segmentGap) index
  [.block x 676 (Pixel.clamp segmentWidth) 76 12 (.status state.2) none,
    .text (x.shift 46) 700 state.1 .heading .background] ++
  if x.val + segmentWidth + 42 < ladderRight then
    [.arrow (x.shift (segmentWidth + 8)) 714 (x.shift (segmentWidth + 34)) 714 .info]
  else []

def ladder : List Shape :=
  [.block 620 590 780 290 16 .surfaceAlt (some .border),
    .text 644 606 "Risk Escalation" .heading .text] ++
  (states.mapIdx segment).flatten ++
  [.text 644 786 "No auto-downgrade in-session. New session/reset required." .body .muted]

end SecurityModel

def securityModel : Diagram :=
  (Diagram.withHeader "security_model" "Tokfence Security Model"
    "Practical trust boundaries and layered controls").add
    (SecurityModel.threats ++ SecurityModel.boundaryNote ++ SecurityModel.controls ++
      SecurityModel.ladder)

end Placard.Gallery
