import OpenFlow.Wire.Port

/-!
# Packets between switch and controller

A packet-in carries a frame the switch sends to the controller (`PacketIn`), a packet-out one
the controller sends back out (`PacketOut`). Either names a switch buffer or carries the frame
itself (`Payload`). A packet-in body has ten fixed bytes, then the frame. A packet-out body has
eight fixed bytes, its actions and, only when it names no buffer, the frame.
-/

namespace OpenFlow

/-- The buffer id that names no switch buffer. -/
def noBuffer : UInt32 := 0xffffffff

/-- A frame, possibly also held in a switch buffer. -/
inductive Payload where
  /-- The switch keeps the frame in the numbered buffer. -/
  | buffered (bufferId : UInt32) (data : List UInt8)
  /-- The frame travels in the message alone. -/
  | notBuffered (data : List UInt8)
deriving DecidableEq, Repr

namespace Payload

/-- The frame. -/
def data : Payload → List UInt8
  | buffered _ d => d
  | notBuffered d => d

/-- The switch buffer id, `noBuffer` when the frame is not buffered. -/
def bufferId : Payload → UInt32
  | buffered id _ => id
  | notBuffered _ => noBuffer

/-- The payload a buffer id and frame stand for on the wire. -/
def ofWire (bufferId : UInt32) (data : List UInt8) : Payload :=
  if bufferId = noBuffer then notBuffered data else buffered bufferId data

end Payload

/-- Why a switch sends a packet to the controller. -/
inductive PacketInReason where
  /-- No flow entry matched. -/
  | noMatch
  /-- A flow entry sent it. -/
  | explicitSend
deriving DecidableEq, Repr

namespace PacketInReason

/-- The reason's wire byte. -/
def toByte : PacketInReason → UInt8
  | noMatch => 0
  | explicitSend => 1

/-- The reason of a wire byte. -/
def ofByte (b : UInt8) : Except WireError PacketInReason :=
  if b = 0 then .ok noMatch
  else if b = 1 then .ok explicitSend
  else .error (.malformed "packet in" ("unknown reason " ++ toString b.toNat))

end PacketInReason

/-- A frame the switch hands to the controller. -/
structure PacketIn where
  payload : Payload
  totalLen : UInt16
  port : UInt16
  reason : PacketInReason
deriving DecidableEq, Repr

namespace PacketIn

/-- Bytes before the frame. -/
def fixedSize : Nat := 10

/-- Bytes of the packet-in body. -/
def size (p : PacketIn) : Nat :=
  fixedSize + p.payload.data.length

/-- The packet-in body. -/
def encode (p : PacketIn) : List UInt8 :=
  be32 p.payload.bufferId ++ be16 p.totalLen ++ be16 p.port ++ [p.reason.toByte] ++ padding 1 ++
    p.payload.data

/-- The packet-in of a body of at least ten bytes. -/
def decode (bs : List UInt8) : Except WireError PacketIn :=
  match bs with
  | b0 :: b1 :: b2 :: b3 :: t0 :: t1 :: p0 :: p1 :: r :: _ :: frame => do
    let reason ← PacketInReason.ofByte r
    pure { payload := Payload.ofWire (word32 b0 b1 b2 b3) frame, totalLen := word16 t0 t1,
           port := word16 p0 p1, reason }
  | _ => .error (.truncated "packet in" fixedSize bs.length)

end PacketIn

/-- A frame the controller has the switch send. -/
structure PacketOut where
  payload : Payload
  /-- The port the frame counts as arriving on, if any. -/
  portId : Option UInt16
  actions : List Action
deriving DecidableEq, Repr

namespace PacketOut

/-- Bytes before the actions. -/
def fixedSize : Nat := 8

/-- The frame bytes the body carries: none when the switch holds the frame. -/
def carriedData : Payload → List UInt8
  | .buffered _ _ => []
  | .notBuffered d => d

/-- Bytes of the packet-out body. -/
def size (p : PacketOut) : Nat :=
  fixedSize + Action.size * p.actions.length + (carriedData p.payload).length

/-- The packet-out body. -/
def encode (p : PacketOut) : List UInt8 :=
  be32 p.payload.bufferId ++ be16 (p.portId.getD PseudoPort.noPort) ++
    be16 (Action.size * p.actions.length).toUInt16 ++ Action.encodeAll p.actions ++
    carriedData p.payload

/-- The packet-out of a body: eight fixed bytes, then as many action bytes as announced, then
the frame. -/
def decode (bs : List UInt8) : Except WireError PacketOut :=
  match bs with
  | b0 :: b1 :: b2 :: b3 :: i0 :: i1 :: a0 :: a1 :: rest =>
    let actionsLen := (word16 a0 a1).toNat
    if rest.length < actionsLen then
      .error (.truncated "packet out actions" (fixedSize + actionsLen) bs.length)
    else do
      let actions ← Action.decodeAll (rest.take actionsLen)
      let inPort := word16 i0 i1
      pure { payload := Payload.ofWire (word32 b0 b1 b2 b3) (rest.drop actionsLen),
             portId := if inPort = PseudoPort.noPort then none else some inPort, actions }
  | _ => .error (.truncated "packet out" fixedSize bs.length)

end PacketOut

end OpenFlow
