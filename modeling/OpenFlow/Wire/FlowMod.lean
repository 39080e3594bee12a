import OpenFlow.Wire.Match
import OpenFlow.Wire.Port
import OpenFlow.Wire.Packet

/-!
# Flow table modifications

A flow-mod adds, changes or deletes flow entries (`FlowMod`). Its body is 64 fixed bytes (the
match pattern, cookie, command, timeouts, priority, buffer, output port and flags) and then its
actions. Writing one puts the actions to the controller last and refuses an output to the flow
table (`FlowMod.encode`). `FlowMod.addFlow` is the permanent add that the builders start from.
-/

namespace OpenFlow

/-- What a flow-mod does to the flow table. -/
inductive FlowModCommand where
  | add
  | modify
  | modifyStrict
  | delete
  | deleteStrict
deriving DecidableEq, Repr

namespace FlowModCommand

/-- The command's wire number. -/
def toWire : FlowModCommand → UInt16
  | add => 0
  | modify => 1
  | modifyStrict => 2
  | delete => 3
  | deleteStrict => 4

/-- The command of a wire number. -/
def ofWire (n : UInt16) : Except WireError FlowModCommand :=
  match n.toNat with
  | 0 => .ok add
  | 1 => .ok modify
  | 2 => .ok modifyStrict
  | 3 => .ok delete
  | 4 => .ok deleteStrict
  | _ => .error (.malformed "flow mod" ("unknown command " ++ toString n.toNat))

end FlowModCommand

/-- How long a flow entry lives. -/
inductive Timeout where
  | permanent
  | expiresAfter (seconds : UInt16)
deriving DecidableEq, Repr

namespace Timeout

/-- The wire number: zero for a permanent entry. -/
def toWire : Timeout → UInt16
  | permanent => 0
  | expiresAfter s => s

/-- The timeout of a wire number; zero is permanent. -/
def ofWire (n : UInt16) : Timeout :=
  if n = 0 then permanent else expiresAfter n

end Timeout

/-- A change to a switch's flow table. -/
structure FlowMod where
  command : FlowModCommand
  pattern : Match
  priority : UInt16
  actions : List Action
  cookie : UInt64
  idleTimeout : Timeout
  hardTimeout : Timeout
  flags : UInt16
  /-- The buffered packet to run through the new entry, if any. -/
  applyToPacket : Option UInt32
  outPort : Option PseudoPort
deriving DecidableEq, Repr

namespace FlowMod

/-- Bytes before the actions. -/
def fixedSize : Nat := 64

/-- Bytes of the flow-mod body. -/
def size (f : FlowMod) : Nat :=
  fixedSize + Action.size * f.actions.length

/-- A permanent entry with the given priority, pattern and actions, and all else empty. -/
def addFlow (priority : UInt16) (pattern : Match) (actions : List Action) : FlowMod :=
  { command := .add, pattern, priority, actions, cookie := 0, idleTimeout := .permanent,
    hardTimeout := .permanent, flags := 0, applyToPacket := none, outPort := none }

/-- Whether an action outputs to the flow table, which an installed entry may not do. -/
def outputsToTable : Action → Bool
  | .output .table => true
  | _ => false

/-- The flow-mod body, actions to the controller last; an output to the flow table is
refused. -/
def encode (f : FlowMod) : Except WireError (List UInt8) :=
  let acts := Action.controllerLast f.actions
  if acts.any outputsToTable then
    .error (.malformed "flow mod" "OFPP_TABLE not allowed in installed flow")
  else
    .ok (f.pattern.encode ++ be64 f.cookie ++ be16 f.command.toWire ++
      be16 f.idleTimeout.toWire ++ be16 f.hardTimeout.toWire ++ be16 f.priority ++
      be32 (f.applyToPacket.getD noBuffer) ++
      be16 ((f.outPort.map PseudoPort.number).getD PseudoPort.noPort) ++ be16 f.flags ++
      Action.encodeAll acts)

/-- The flow-mod of a body of at least 64 bytes. -/
def decode (bs : List UInt8) : Except WireError FlowMod :=
  if bs.length < fixedSize then .error (.truncated "flow mod" fixedSize bs.length)
  else do
    let pattern ← Match.decode (bs.take Match.size)
    let fixed ← Decoder.decode (do
      let cookie ← Decoder.u64
      let command ← Decoder.u16
      let idle ← Decoder.u16
      let hard ← Decoder.u16
      let priority ← Decoder.u16
      let bufferId ← Decoder.u32
      let outPort ← Decoder.u16
      let flags ← Decoder.u16
      pure (cookie, command, idle, hard, priority, bufferId, outPort, flags))
      ((bs.take fixedSize).drop Match.size)
    let (cookie, command, idle, hard, priority, bufferId, outPort, flags) := fixed
    let command ← FlowModCommand.ofWire command
    let outPort ← PseudoPort.ofWire? outPort
    let actions ← Action.decodeAll (bs.drop fixedSize)
    pure { command, pattern, priority, actions, cookie, idleTimeout := Timeout.ofWire idle,
           hardTimeout := Timeout.ofWire hard, flags,
           applyToPacket := if bufferId = noBuffer then none else some bufferId, outPort }

end FlowMod

end OpenFlow
