import OpenFlow.Wire.Features
import OpenFlow.Log

/-!
# The tap port

A bridge injects frames into the switch port named after its tap device (`TapPort`). The port
is looked up again in every features reply (`TapPort.update`): the first port with exactly that
name wins, and a switch without one leaves nothing to inject into.
-/

namespace OpenFlow

/-- The name of the tap device and the switch port it was last found on. -/
structure TapPort where
  name : String
  port : Option UInt16 := none
deriving DecidableEq, Repr

/-- The tap device name bridges use unless told otherwise. -/
def defaultTapName : String := "tapdevice"

/-- The tap port looked up in a features reply, with the log record of the outcome. -/
def TapPort.update (t : TapPort) (f : SwitchFeatures) : TapPort × List LogLine :=
  match f.portNamed t.name with
  | some p =>
    ({ t with port := some p.portNo },
      [⟨.info, "Tap device " ++ t.name ++ " is port " ++ toString p.portNo.toNat⟩])
  | none =>
    ({ t with port := none },
      [⟨.warn, "Switch has no port named " ++ t.name ++ ", nothing will be injected"⟩])

end OpenFlow
