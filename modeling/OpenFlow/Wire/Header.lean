import OpenFlow.Wire.Decoder

/-!
# Message types and the message header

Every OpenFlow message starts with an eight-byte header: protocol version, message type,
total length and transaction id (`Header`). The 22 message types of OpenFlow 1.0 are `MsgCode`;
a type byte above 21 is a protocol violation (`MsgCode.ofByte`). `Header.decode` needs eight
bytes and ignores the rest; `Header.encode` writes the eight.
-/

namespace OpenFlow

/-- The message types of OpenFlow 1.0, in wire order. -/
inductive MsgCode where
  | hello
  | error
  | echoRequest
  | echoReply
  | vendor
  | featuresRequest
  | featuresReply
  | getConfigRequest
  | getConfigReply
  | setConfig
  | packetIn
  | flowRemoved
  | portStatus
  | packetOut
  | flowMod
  | portMod
  | statsRequest
  | statsReply
  | barrierRequest
  | barrierReply
  | queueGetConfigRequest
  | queueGetConfigReply
deriving DecidableEq, Repr

namespace MsgCode

/-- Every message type, in wire order. -/
def all : List MsgCode :=
  [hello, error, echoRequest, echoReply, vendor, featuresRequest, featuresReply,
    getConfigRequest, getConfigReply, setConfig, packetIn, flowRemoved, portStatus, packetOut,
    flowMod, portMod, statsRequest, statsReply, barrierRequest, barrierReply,
    queueGetConfigRequest, queueGetConfigReply]

/-- The type byte of a message type. -/
def toByte : MsgCode → UInt8
  | hello => 0
  | error => 1
  | echoRequest => 2
  | echoReply => 3
  | vendor => 4
  | featuresRequest => 5
  | featuresReply => 6
  | getConfigRequest => 7
  | getConfigReply => 8
  | setConfig => 9
  | packetIn => 10
  | flowRemoved => 11
  | portStatus => 12
  | packetOut => 13
  | flowMod => 14
  | portMod => 15
  | statsRequest => 16
  | statsReply => 17
  | barrierRequest => 18
  | barrierReply => 19
  | queueGetConfigRequest => 20
  | queueGetConfigReply => 21

/-- The message type of a type byte, if it names one. -/
def ofByte? (b : UInt8) : Option MsgCode :=
  all[b.toNat]?

/-- The message type of a type byte; an unknown byte is a protocol violation. -/
def ofByte (b : UInt8) : Except WireError MsgCode :=
  match ofByte? b with
  | some c => .ok c
  | none => .error (.protocolViolation ("unknown message type " ++ toString b.toNat))

/-- The name a message type is logged by. -/
def name : MsgCode → String
  | hello => "Hello"
  | error => "Error"
  | echoRequest => "EchoReq"
  | echoReply => "EchoResp"
  | vendor => "Vendor"
  | featuresRequest => "FeaturesReq"
  | featuresReply => "FeaturesResp"
  | getConfigRequest => "GetConfigReq"
  | getConfigReply => "GetConfigResp"
  | setConfig => "SetConfig"
  | packetIn => "PacketIn"
  | flowRemoved => "FlowRemoved"
  | portStatus => "PortStatus"
  | packetOut => "PacketOut"
  | flowMod => "FlowMod"
  | portMod => "PortMod"
  | statsRequest => "StatsReq"
  | statsReply => "StatsResp"
  | barrierRequest => "BarrierReq"
  | barrierReply => "BarrierResp"
  | queueGetConfigRequest => "QueueGetConfigReq"
  | queueGetConfigReply => "QueueGetConfigResp"

end MsgCode

/-- The protocol version this controller speaks first. -/
def protocolVersion : UInt8 := 1

/-- The fixed header in front of every message. -/
structure Header where
  /-- Protocol version. -/
  version : UInt8
  /-- Message type byte. -/
  typeCode : UInt8
  /-- Length of the whole message, header included. -/
  length : UInt16
  /-- Transaction id. -/
  xid : UInt32
deriving DecidableEq, Repr

namespace Header

/-- Bytes in a header. -/
def size : Nat := 8

/-- The length of the body the header announces; a length below the header's own counts as
none. -/
def bodyLength (h : Header) : Nat :=
  h.length.toNat - size

/-- The message type the header names. -/
def code (h : Header) : Except WireError MsgCode :=
  MsgCode.ofByte h.typeCode

/-- The header's eight bytes. -/
def encode (h : Header) : List UInt8 :=
  h.version :: h.typeCode :: (be16 h.length ++ be32 h.xid)

/-- The header at the front of a buffer; fewer than eight bytes are truncated. -/
def decode (bs : List UInt8) : Except WireError Header :=
  match bs with
  | v :: t :: l0 :: l1 :: x0 :: x1 :: x2 :: x3 :: _ => .ok ⟨v, t, word16 l0 l1, word32 x0 x1 x2 x3⟩
  | _ => .error (.truncated "header" size bs.length)

end Header

end OpenFlow
