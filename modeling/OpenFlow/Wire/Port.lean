import OpenFlow.Wire.Decoder

/-!
# Ports and actions

A pseudo port is where an output action sends a packet (`PseudoPort`): a physical port numbered
up to `0xff00`, or one of the seven reserved numbers `0xfff8` to `0xfffe`. `PseudoPort.make`
reads a port number and refuses the numbers in between and `0xffff`, which means "no port"
(`PseudoPort.ofWire?`). The only action is output to a port (`Action`), eight bytes on the wire;
`Action.decodeAll` reads a list of them and `Action.controllerLast` moves outputs to the
controller behind all others, keeping both groups in order.
-/

namespace OpenFlow

/-- A destination for output actions. -/
inductive PseudoPort where
  /-- A numbered switch port. -/
  | physical (number : UInt16)
  /-- The port the packet came in on. -/
  | inPort
  /-- The switch's flow table. -/
  | table
  /-- The switch's own forwarding. -/
  | normal
  /-- All ports but the input port and blocked ones. -/
  | flood
  /-- All ports but the input port. -/
  | allPorts
  /-- The controller, with the number of bytes to send it. -/
  | controller (maxLen : UInt16)
  /-- The switch's local networking stack. -/
  | localPort
deriving DecidableEq, Repr

namespace PseudoPort

/-- The number that stands for "no port". -/
def noPort : UInt16 := 0xffff

/-- The highest physical port number. -/
def maxPhysical : UInt16 := 0xff00

/-- The port number written on the wire. -/
def number : PseudoPort → UInt16
  | physical n => n
  | inPort => 0xfff8
  | table => 0xfff9
  | normal => 0xfffa
  | flood => 0xfffb
  | allPorts => 0xfffc
  | controller _ => 0xfffd
  | localPort => 0xfffe

/-- The port of a wire number, `maxLen` serving a controller port. -/
def make (p maxLen : UInt16) : Except WireError PseudoPort :=
  if p = 0xfff8 then .ok inPort
  else if p = 0xfff9 then .ok table
  else if p = 0xfffa then .ok normal
  else if p = 0xfffb then .ok flood
  else if p = 0xfffc then .ok allPorts
  else if p = 0xfffd then .ok (controller maxLen)
  else if p = 0xfffe then .ok localPort
  else if p ≤ maxPhysical then .ok (physical p)
  else .error (.malformed "port number" ("unsupported port 0x" ++ Text.hex p.toNat))

/-- The port of a wire number where `0xffff` means no port. -/
def ofWire? (p : UInt16) : Except WireError (Option PseudoPort) :=
  if p = noPort then .ok none else (make p 0).map some

/-- Whether the port is the controller. -/
def isController : PseudoPort → Bool
  | controller _ => true
  | _ => false

end PseudoPort

/-- What a switch does with a packet. -/
inductive Action where
  /-- Send the packet out of a port. -/
  | output (port : PseudoPort)
deriving DecidableEq, Repr

namespace Action

/-- Bytes in an output action. -/
def size : Nat := 8

/-- The action's eight bytes: type 0, length 8, port, and the byte limit for the controller. -/
def encode : Action → List UInt8
  | output p =>
    be16 0 ++ be16 8 ++ be16 p.number ++
      be16 (match p with
        | .controller n => n
        | _ => 0)

/-- All actions of a list, one after the other. -/
def encodeAll (acts : List Action) : List UInt8 :=
  (acts.map encode).flatten

/-- Whether the action sends to the controller. -/
def toController : Action → Bool
  | output p => p.isController

/-- The actions not to the controller, then those to the controller, each group in order. -/
def controllerLast (acts : List Action) : List Action :=
  acts.filter (fun a => !a.toController) ++ acts.filter toController

/-- Reads actions until the buffer is used up. Type and length are checked before a short
action is noticed. -/
def decodeAll : List UInt8 → Except WireError (List Action)
  | [] => .ok []
  | [_] => .error .overrun
  | [_, _] => .error .overrun
  | [_, _, _] => .error .overrun
  | t0 :: t1 :: l0 :: l1 :: rest =>
    let code := word16 t0 t1
    let len := word16 l0 l1
    if code ≠ 0 then
      .error (.malformed "action" ("unsupported action type " ++ toString code.toNat))
    else if len ≠ 8 then
      .error (.malformed "action" ("output action of length " ++ toString len.toNat))
    else
      match rest with
      | p0 :: p1 :: m0 :: m1 :: more => do
        let port ← PseudoPort.make (word16 p0 p1) (word16 m0 m1)
        let tail ← decodeAll more
        pure (output port :: tail)
      | _ => .error .overrun
termination_by bs => bs.length

end Action

end OpenFlow
