import OpenFlow.Net.Address
import OpenFlow.Text.Flags
import OpenFlow.Text.Utf8

/-!
# Switch features

A switch answers the features request with its datapath id, buffer and table counts, the
capabilities and actions it supports, and a 48-byte description of each port (`PortDesc`,
`SwitchFeatures`). A port's name is a 16-byte field read up to the first zero byte as lenient
UTF-8 and written as its UTF-8 bytes cut at 16 and padded with zeros. `SwitchFeatures.decode`
needs the 24 fixed bytes and a whole number of port descriptions. The flag words are kept raw;
`capabilitiesFlags`, `actionsFlags`, `portConfigFlags` and `portStateFlags` name their bits for
the log.
-/

namespace OpenFlow

/-! ### Flag names -/

/-- The capability bits a switch may announce. -/
def capabilitiesFlags : Text.FlagSet :=
  ⟨"Capabilities", [("FLOW_STATS", 0x1), ("TABLE_STATS", 0x2), ("PORT_STATS", 0x4),
    ("STP", 0x8), ("RESERVED", 0x10), ("IP_REASM", 0x20), ("QUEUE_STATS", 0x40),
    ("ARP_MATCH_IP", 0x80)]⟩

/-- The action bits a switch may announce. -/
def actionsFlags : Text.FlagSet :=
  ⟨"SupportedActions", [("OUTPUT", 0x1), ("SET_VLAN_VID", 0x2), ("SET_VLAN_PCP", 0x4),
    ("STRIP_VLAN", 0x8), ("SET_DL_SRC", 0x10), ("SET_DL_DST", 0x20), ("SET_NW_SRC", 0x40),
    ("SET_NW_DST", 0x80), ("SET_NW_TOS", 0x100), ("SET_TP_SRC", 0x200), ("SET_TP_DST", 0x400),
    ("ENQUEUE", 0x800)]⟩

/-- The configuration bits of a port. -/
def portConfigFlags : Text.FlagSet :=
  ⟨"PortConfig", [("PORT_DOWN", 0x1), ("NO_STP", 0x2), ("NO_RECV", 0x4),
    ("NO_RECV_STP", 0x8), ("NO_FLOOD", 0x10), ("NO_FWD", 0x20), ("NO_PACKET_IN", 0x40)]⟩

/-- The state bits of a port; the two spanning-tree bits form one field. -/
def portStateFlags : Text.FlagSet :=
  ⟨"PortState", [("LINK_DOWN", 0x1), ("STP_LEARN", 0x100), ("STP_FORWARD", 0x200),
    ("STP_BLOCK", 0x300), ("STP_MASK", 0x300)]⟩

/-! ### Ports -/

/-- The spanning-tree state of a port. -/
inductive StpState where
  | listen
  | learn
  | forward
  | block
deriving DecidableEq, Repr

/-- The spanning-tree state held in bits 8 and 9 of a port's state word. -/
def StpState.ofBits (state : UInt32) : StpState :=
  match ((state &&& 0x300) >>> 8).toNat with
  | 0 => .listen
  | 1 => .learn
  | 2 => .forward
  | _ => .block

/-- Bytes in a port name field. -/
def portNameLength : Nat := 16

/-- Description of one switch port. -/
structure PortDesc where
  portNo : UInt16
  hwAddr : MacAddr
  name : String
  config : UInt32
  state : UInt32
  curr : UInt32
  advertised : UInt32
  supported : UInt32
  peer : UInt32
deriving DecidableEq, Repr

namespace PortDesc

/-- Bytes in a port description. -/
def size : Nat := 48

/-- The port's spanning-tree state. -/
def stpState (p : PortDesc) : StpState :=
  StpState.ofBits p.state

/-- The name field: the name's UTF-8 bytes cut at 16 and padded with zeros. -/
def encodeName (name : String) : List UInt8 :=
  let raw := name.toUTF8.toList.take portNameLength
  raw ++ padding (portNameLength - raw.length)

/-- The name in a name field: the bytes before the first zero, read leniently. -/
def decodeName (field : List UInt8) : String :=
  Text.stringOfUtf8Lossy (field.takeWhile (· != 0))

/-- The description's 48 bytes. -/
def encode (p : PortDesc) : List UInt8 :=
  be16 p.portNo ++ p.hwAddr.toList ++ encodeName p.name ++ be32 p.config ++ be32 p.state ++
    be32 p.curr ++ be32 p.advertised ++ be32 p.supported ++ be32 p.peer

/-- Reads one port description. -/
def decoder : Decoder PortDesc := do
  let portNo ← Decoder.u16
  let hwAddr ← MacAddr.decoder
  let name ← Decoder.take portNameLength
  let config ← Decoder.u32
  let state ← Decoder.u32
  let curr ← Decoder.u32
  let advertised ← Decoder.u32
  let supported ← Decoder.u32
  let peer ← Decoder.u32
  pure { portNo, hwAddr, name := decodeName name, config, state, curr, advertised, supported,
         peer }

/-- The port description at the front of a buffer; bytes after the first 48 are ignored. -/
def decode (bs : List UInt8) : Except WireError PortDesc :=
  if bs.length < size then .error (.truncated "port description" size bs.length)
  else decoder.decode (bs.take size)

end PortDesc

/-! ### Features -/

/-- What a switch tells about itself. -/
structure SwitchFeatures where
  datapathId : UInt64
  numBuffers : UInt32
  numTables : UInt8
  capabilities : UInt32
  actions : UInt32
  ports : List PortDesc
deriving DecidableEq, Repr

namespace SwitchFeatures

/-- Bytes before the port descriptions. -/
def fixedSize : Nat := 24

/-- Bytes of the features body. -/
def size (f : SwitchFeatures) : Nat :=
  fixedSize + PortDesc.size * f.ports.length

/-- The first port whose name is exactly `name`. -/
def portNamed (f : SwitchFeatures) (name : String) : Option PortDesc :=
  f.ports.find? (·.name == name)

/-- The features body. -/
def encode (f : SwitchFeatures) : List UInt8 :=
  be64 f.datapathId ++ be32 f.numBuffers ++ [f.numTables] ++ padding 3 ++ be32 f.capabilities ++
    be32 f.actions ++ (f.ports.map PortDesc.encode).flatten

/-- Reads `n` port descriptions. -/
def portsDecoder : Nat → Decoder (List PortDesc)
  | 0 => pure []
  | n + 1 => do
    let p ← PortDesc.decoder
    let ps ← portsDecoder n
    pure (p :: ps)

/-- The features in a body of 24 fixed bytes and whole port descriptions. -/
def decode (bs : List UInt8) : Except WireError SwitchFeatures :=
  if bs.length < fixedSize then .error (.truncated "features reply" fixedSize bs.length)
  else
    let portBytes := bs.length - fixedSize
    if portBytes % PortDesc.size ≠ 0 then
      .error (.malformed "features reply"
        (toString portBytes ++ " port bytes is not a multiple of " ++ toString PortDesc.size))
    else
      Decoder.decode (do
        let datapathId ← Decoder.u64
        let numBuffers ← Decoder.u32
        let numTables ← Decoder.byte
        Decoder.skip 3
        let capabilities ← Decoder.u32
        let actions ← Decoder.u32
        let ports ← portsDecoder (portBytes / PortDesc.size)
        pure { datapathId, numBuffers, numTables, capabilities, actions, ports }) bs

end SwitchFeatures

end OpenFlow
