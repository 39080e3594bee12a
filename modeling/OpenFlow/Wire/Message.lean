import OpenFlow.Wire.Header
import OpenFlow.Wire.Features
import OpenFlow.Wire.FlowMod
import OpenFlow.Wire.ErrorMsg

/-!
# Messages

The messages this controller reads and writes (`Message`); the other message types are kept as
raw bodies (`Message.unmodeled`). A message's size is its header plus body and must fit the
16-bit length field (`Message.header`). `Message.encode` writes header and body;
`Message.parse` reads a body by the type its header names; `Message.decode` reads one whole
message from the front of a buffer, and `Message.decodeStream` reads messages one after the
other until the buffer is used up or one fails.
-/

namespace OpenFlow

/-- An OpenFlow 1.0 message. -/
inductive Message where
  | hello
  | error (e : ErrorMsg)
  | echoRequest (data : List UInt8)
  | echoReply (data : List UInt8)
  | featuresRequest
  | featuresReply (features : SwitchFeatures)
  | packetIn (p : PacketIn)
  | packetOut (p : PacketOut)
  | flowMod (f : FlowMod)
  /-- A message of a known type whose body is not interpreted. -/
  | unmodeled (code : MsgCode) (data : List UInt8)
deriving DecidableEq, Repr

namespace Message

/-- The message type of a message. -/
def code : Message → MsgCode
  | hello => .hello
  | error _ => .error
  | echoRequest _ => .echoRequest
  | echoReply _ => .echoReply
  | featuresRequest => .featuresRequest
  | featuresReply _ => .featuresReply
  | packetIn _ => .packetIn
  | packetOut _ => .packetOut
  | flowMod _ => .flowMod
  | unmodeled c _ => c

/-- Bytes of the body. -/
def bodySize : Message → Nat
  | hello => 0
  | error e => e.size
  | echoRequest d => d.length
  | echoReply d => d.length
  | featuresRequest => 0
  | featuresReply f => f.size
  | packetIn p => p.size
  | packetOut p => p.size
  | flowMod f => f.size
  | unmodeled _ d => d.length

/-- Bytes of the whole message. -/
def size (m : Message) : Nat :=
  Header.size + m.bodySize

/-- The largest message the length field can announce. -/
def maxSize : Nat := 65535

/-- The header of a message; a message too long for the length field is refused. -/
def header (version : UInt8) (xid : UInt32) (m : Message) : Except WireError Header :=
  if m.size > maxSize then
    .error (.malformed "message" (toString m.size ++ " bytes exceeds the length field"))
  else
    .ok ⟨version, m.code.toByte, m.size.toUInt16, xid⟩

/-- The body of a message. -/
def encodeBody : Message → Except WireError (List UInt8)
  | hello => .ok []
  | error e => .ok e.encode
  | echoRequest d => .ok d
  | echoReply d => .ok d
  | featuresRequest => .ok []
  | featuresReply f => .ok f.encode
  | packetIn p => .ok p.encode
  | packetOut p => .ok p.encode
  | flowMod f => f.encode
  | unmodeled _ d => .ok d

/-- The bytes of a message: header, then body. -/
def encode (version : UInt8) (xid : UInt32) (m : Message) : Except WireError (List UInt8) := do
  let h ← header version xid m
  let body ← encodeBody m
  pure (h.encode ++ body)

/-- A flow-mod whose pattern is given as wire bytes: the pattern read from them replaces the
flow-mod's own, and the message is written as usual. -/
def encodeFlowModRaw (version : UInt8) (xid : UInt32) (pattern : List UInt8) (f : FlowMod) :
    Except WireError (List UInt8) := do
  let p ← Match.decode pattern
  encode version xid (flowMod { f with pattern := p })

/-- The message of a body, read by the type its header names. -/
def parse (h : Header) (body : List UInt8) : Except WireError Message := do
  match ← h.code with
  | .hello => pure hello
  | .error => return error (← ErrorMsg.decode body)
  | .echoRequest => pure (echoRequest body)
  | .echoReply => pure (echoReply body)
  | .featuresRequest => pure featuresRequest
  | .featuresReply => return featuresReply (← SwitchFeatures.decode body)
  | .packetIn => return packetIn (← PacketIn.decode body)
  | .packetOut => return packetOut (← PacketOut.decode body)
  | .flowMod => return flowMod (← FlowMod.decode body)
  | c => pure (unmodeled c body)

/-- The whole message at the front of a buffer; the buffer must hold as many bytes as the
header announces, and bytes after them are ignored. -/
def decode (bs : List UInt8) : Except WireError (Header × Message) := do
  let h ← Header.decode bs
  let len := h.length.toNat
  let frame := bs.take len
  if len < Header.size || frame.length < len then
    throw (.truncated "message" len bs.length)
  let m ← parse h (frame.drop Header.size)
  pure (h, m)

/-- Messages read one after the other from `bs`, after the results `acc` already read (last
first); a failure ends the list. -/
def decodeStreamOnto (bs : List UInt8) (acc : List (Except WireError (Header × Message))) :
    List (Except WireError (Header × Message)) :=
  match bs with
  | [] => acc.reverse
  | b :: rest =>
    match decode (b :: rest) with
    | .error e => (.error e :: acc).reverse
    | .ok (h, m) =>
      if 0 < h.length.toNat then
        decodeStreamOnto ((b :: rest).drop h.length.toNat) (.ok (h, m) :: acc)
      else
        (.ok (h, m) :: acc).reverse
termination_by bs.length
decreasing_by simp only [List.length_drop, List.length_cons]; omega

/-- Messages read one after the other until the buffer is used up; a failure ends the list. -/
def decodeStream (bs : List UInt8) : List (Except WireError (Header × Message)) :=
  decodeStreamOnto bs []

end Message

end OpenFlow
