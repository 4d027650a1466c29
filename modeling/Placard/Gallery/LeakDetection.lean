/-
Placard/Gallery/LeakDetection.lean

How the usage that a provider reports is compared with the local logs.
-/
import Placard.Gallery.Rows

namespace Placard.Gallery

namespace LeakDetection

def inputs : List Shape :=
  .panel 56 180 1424 260 (some "Detection Inputs") ::
  bullets 84 248 44
    [("Local logs: request count, tokens, cost by provider", .ok),
      ("Remote usage endpoint: billing/usage totals", .ok),
      ("Thresholds: absolute delta + percentage + idle-window", .ok)]

/-- The usage in the local logs. -/
def ownUsage : Series where
  label := "Green = Tokfence local usage"
  status := .ok
  points := [⟨0.05, 0.78⟩, ⟨0.20, 0.70⟩, ⟨0.35, 0.58⟩, ⟨0.50, 0.54⟩, ⟨0.65, 0.48⟩,
    ⟨0.80, 0.44⟩, ⟨0.93, 0.40⟩]

/-- The usage that the provider reports. -/
def providerUsage : Series where
  label := "Red = provider-side usage"
  status := .critical
  points := [⟨0.05, 0.78⟩, ⟨0.20, 0.70⟩, ⟨0.35, 0.58⟩, ⟨0.50, 0.51⟩, ⟨0.65, 0.40⟩,
    ⟨0.80, 0.30⟩, ⟨0.93, 0.18⟩]

def incident : Annotation where
  anchor := ⟨0.82, 0.30⟩
  headline := "Delta exceeds threshold"
  detail := "Risk -> RED, optional auto-revoke"
  status := .critical

def timeline : List Shape :=
  [.panel 56 470 1424 470 (some "Detection Timeline"),
    .chart ⟨92, 560, 1360, 300, [ownUsage, providerUsage], some incident⟩]

end LeakDetection

def leakDetection : Diagram :=
  (Diagram.withHeader "leak_detection" "Key Leak Detector"
    "Compare provider usage vs Tokfence logs and raise incidents").add
    (LeakDetection.inputs ++ LeakDetection.timeline)

end Placard.Gallery
