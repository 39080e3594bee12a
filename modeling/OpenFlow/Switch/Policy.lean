import OpenFlow.Frame.Flow
import OpenFlow.Switch.Table

/-!
# The forwarding policy

How the learning switch answers a packet-in (`Forwarding`, `decide`): IPv4 frames and ARP
replies get a flow entry towards the port their destination was learned on (flooding when it
is unknown), ARP requests, RARP and IPv6 multicast are flooded, and anything else is flooded as
a packet without policy. `installFlow` is the flow-mod of a decision and `flood` the packet-out
that sends the packet everywhere.
-/

namespace OpenFlow

/-- What to do with a packet-in. -/
inductive Forwarding where
  /-- Install a flow sending the packet and its successors to the port. -/
  | install (port : PseudoPort)
  /-- Send this packet out of every port. -/
  | flood
  /-- Flood a packet the controller has no policy for. -/
  | floodUnknown
deriving DecidableEq, Repr

/-- The ARP opcode of a request. -/
def arpRequest : UInt8 := 1

/-- The ARP opcode of a reply. -/
def arpReply : UInt8 := 2

/-- Cookie of the flows the switch installs. -/
def flowCookie : UInt64 := 9

/-- Priority of the flows the switch installs. -/
def flowPriority : UInt16 := 9

/-- Idle timeout, in seconds, of the flows the switch installs. -/
def flowIdleTimeout : UInt16 := 60

/-- The forwarding decision for a flow, by its ethernet type. -/
def decide (f : Flow) (t : LearningTable) : Forwarding :=
  match f.etherType with
  | .ip => .install (t.lookup f.dlDst)
  | .arp =>
    if f.nwProto = arpRequest then .flood
    else if f.nwProto = arpReply then .install (t.lookup f.dlDst)
    else .floodUnknown
  | .rarp | .unspecified => .flood
  | .ipv6 => if f.isIpv6Multicast then .flood else .floodUnknown
  | .vlan | .other _ => .floodUnknown

/-- The flow-mod that installs the flow's match with a single output to `port`. -/
def installFlow (f : Flow) (port : PseudoPort) : FlowMod :=
  { command := .add, pattern := f.pattern, priority := flowPriority,
    actions := [.output port], cookie := flowCookie,
    idleTimeout := .expiresAfter flowIdleTimeout, hardTimeout := .permanent, flags := 0,
    applyToPacket := if f.bufferId = noBuffer then none else some f.bufferId,
    outPort := some port }

/-- The packet-out that floods a packet-in's packet, by buffer id when the switch holds it. -/
def flood (pi : PacketIn) : PacketOut :=
  { payload := pi.payload, portId := some pi.port, actions := [.output .flood] }

end OpenFlow
