import OpenFlow.Wire.Features
import OpenFlow.Log

/-!
# Session variants

A controller session runs the learning switch and consults a variant at three points
(`Variant`): when the switch's features become known, when the switch sends a frame on purpose
(a capture), and after each handled packet-in, when the variant may hand back one frame to send
out of a port (`Injection`). A variant works on a state `σ` of its own, which two sessions may
share, and reports what it does as log records. The plain learning switch does nothing at the
three points (`Variant.plain`).
-/

namespace OpenFlow

/-- A frame to send out of a switch port. -/
structure Injection where
  port : UInt16
  frame : List UInt8
deriving DecidableEq, Repr

/-- What a session variant does at the three points where the controller consults it. -/
structure Variant (σ : Type) where
  /-- The switch's features became known. -/
  featuresKnown : SwitchFeatures → σ → σ × List LogLine
  /-- The switch sent a frame on purpose. -/
  capture : List UInt8 → σ → σ × List LogLine
  /-- A packet-in was handled; the variant may give a frame to send. -/
  injectOpportunity : σ → σ × List LogLine × Option Injection

/-- The variant that does nothing: the plain learning switch. -/
def Variant.plain {σ : Type} : Variant σ where
  featuresKnown _ w := (w, [])
  capture _ w := (w, [])
  injectOpportunity w := (w, [], none)

end OpenFlow
