/-
Placard/Gallery/Architecture.lean

The parts of the system and how they are connected.
-/
import Placard.Gallery.Rows

namespace Placard.Gallery

namespace Architecture

/-- From one bullet to the next. -/
def pitch : Int := 44

def panels : List Shape :=
  [.panel 56 180 280 260 (some "Clients"), .panel 390 180 280 260 (some "Transport"),
    .panel 724 180 360 260 (some "Tokfence Core"), .panel 1138 180 340 260 (some "Providers"),
    .panel 56 500 700 440 (some "Security Layer (ImmuneFence)"),
    .panel 800 500 678 440 (some "Data Plane Guarantees")]

/-- The bullets of the four upper panels. -/
def upper : List Shape :=
  bullets 82 242 pitch [("OpenClaw", .ok), ("CLI", .ok), ("Desktop App", .ok)] ++
  bullets 416 242 pitch
    [("UDS: ~/.tokfence/tokfence.sock", .info), ("TCP: 127.0.0.1:9471", .info),
      ("Socket perms: 0660", .info)] ++
  bullets 750 242 pitch
    [("Proxy routing + header sanitization", .ok), ("Budget + rate limits + kill switch", .ok),
      ("Live logs + stats + watch", .ok)] ++
  bullets 1164 242 pitch
    [("Anthropic / OpenAI / Groq", .ok), ("Mistral / Google / OpenRouter", .ok),
      ("Custom upstreams", .ok)]

/-- The bullets of the two lower panels. -/
def lower : List Shape :=
  bullets 84 562 pitch
    [("Capability token validation (Ed25519)", .ok),
      ("Risk ladder: GREEN -> YELLOW -> ORANGE -> RED", .caution),
      ("Sensor scans: secret refs, endpoint abuse", .ok),
      ("Canary leak tripwire -> RED escalation", .critical),
      ("Scope restrictions per risk state", .ok)] ++
  bullets 828 562 pitch
    [("Keys stay in vault (Keychain/Argon2 file)", .ok), ("Agent receives dummy apiKey only", .ok),
      ("Upstream auth injected at request time", .ok),
      ("No secret bodies in normal request logs", .ok),
      ("Desktop snapshots: local-only, 0600", .ok)]

/-- The arrows between the upper panels. -/
def connectors : List Shape :=
  [.arrow 336 310 390 310 .info, .arrow 670 310 724 310 .info, .arrow 1084 310 1138 310 .info]

end Architecture

def architecture : Diagram :=
  (Diagram.withHeader "architecture" "Tokfence Architecture"
    "Agents-first desktop + UDS/TCP dual transport + ImmuneFence").add
    (Architecture.panels ++ Architecture.upper ++ Architecture.lower ++ Architecture.connectors)

end Placard.Gallery
