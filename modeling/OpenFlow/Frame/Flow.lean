import OpenFlow.Frame.EtherType
import OpenFlow.Wire.Message

/-!
# Flows of packet-ins

A flow is what the controller reads off one packet-in to decide how to forward it (`Flow`):
the ethernet addresses and type, an 802.1Q tag, and the ARP or IPv4 fields.
`Flow.ofPacketIn` walks the ethernet header, an optional VLAN tag, and then an ARP payload or
an IPv4 header; a frame too short for a header it must read is truncated, and an ethernet type
it cannot classify is refused. `Flow.pattern` is the match a flow-mod installs for the flow and
`Flow.text` the line it is logged by.
-/

namespace OpenFlow

/-- Fields of an 802.1Q tag. -/
structure Vlan where
  id : UInt16
  pcp : UInt8
deriving DecidableEq, Repr

/-- The forwarding-relevant fields of one packet-in. -/
structure Flow where
  xid : UInt32
  bufferId : UInt32
  totalLen : UInt16
  inPort : UInt16
  reason : PacketInReason
  dlSrc : MacAddr
  dlDst : MacAddr
  /-- The ethernet type behind any VLAN tag. -/
  ethType : UInt16
  vlan : Option Vlan
  nwTos : UInt8
  /-- The IP protocol, or the ARP opcode of an ARP frame. -/
  nwProto : UInt8
  nwSrc : UInt32
  nwDst : UInt32
  tpSrc : UInt16
  tpDst : UInt16
  arpSha : MacAddr
  arpTha : MacAddr
  /-- Where the network header starts in the frame. -/
  l3Offset : Nat
  wildcards : Wildcards
deriving DecidableEq, Repr

/-! ### Reading frames -/

/-- Bytes in an ethernet header. -/
def ethHeaderLength : Nat := 14

/-- Bytes in an 802.1Q tag. -/
def vlanTagLength : Nat := 4

/-- Bytes in an ARP payload for IPv4 over ethernet. -/
def arpPayloadLength : Nat := 28

/-- Bytes in an IPv4 header without options. -/
def ipv4MinHeaderLength : Nat := 20

/-- The `dl_vlan` value of a frame without a VLAN tag. -/
def vlanNone : UInt16 := 0xffff

/-- The byte at offset `i` of a frame known to be long enough. -/
def byteAt (frame : List UInt8) (i : Nat) : UInt8 :=
  frame.getD i 0

/-- The big-endian 16-bit word at offset `i`. -/
def word16At (frame : List UInt8) (i : Nat) : UInt16 :=
  word16 (byteAt frame i) (byteAt frame (i + 1))

/-- The big-endian 32-bit word at offset `i`. -/
def word32At (frame : List UInt8) (i : Nat) : UInt32 :=
  word32 (byteAt frame i) (byteAt frame (i + 1)) (byteAt frame (i + 2)) (byteAt frame (i + 3))

/-- The hardware address at offset `i`. -/
def macAt (frame : List UInt8) (i : Nat) : MacAddr :=
  ⟨byteAt frame i, byteAt frame (i + 1), byteAt frame (i + 2), byteAt frame (i + 3),
    byteAt frame (i + 4), byteAt frame (i + 5)⟩

/-- Fails with a truncation of `what` unless the frame has at least `len` bytes. -/
def need (what : String) (frame : List UInt8) (len : Nat) : Except WireError Unit :=
  if frame.length < len then .error (.truncated what len frame.length) else .ok ()

namespace Flow

/-- A flow carrying nothing but its transaction id. -/
def empty (xid : UInt32) : Flow :=
  { xid, bufferId := noBuffer, totalLen := 0, inPort := 0, reason := .noMatch,
    dlSrc := MacAddr.zero, dlDst := MacAddr.zero, ethType := 0, vlan := none, nwTos := 0,
    nwProto := 0, nwSrc := 0, nwDst := 0, tpSrc := 0, tpDst := 0, arpSha := MacAddr.zero,
    arpTha := MacAddr.zero, l3Offset := 0, wildcards := Wildcards.none }

/-- The flow's ethernet type. -/
def etherType (f : Flow) : EtherType :=
  EtherType.ofWire f.ethType

/-- Whether the frame goes to an IPv6 multicast group (`33:33:…`). -/
def isIpv6Multicast (f : Flow) : Bool :=
  f.dlDst.b0 == 0x33 && f.dlDst.b1 == 0x33

/-- The ARP fields of an IPv4-over-ethernet ARP payload; any other ARP payload leaves the flow
as it is. -/
def withArp (f : Flow) (frame : List UInt8) : Except WireError Flow := do
  let l3 := f.l3Offset
  need "arp payload" frame (l3 + arpPayloadLength)
  let opcode := word16At frame (l3 + 6)
  if word16At frame l3 ≠ 1 || word16At frame (l3 + 2) ≠ EtherType.ip.toWire ||
      byteAt frame (l3 + 4) ≠ 6 || byteAt frame (l3 + 5) ≠ 4 || opcode > 0xff then
    pure f
  else
    pure { f with nwProto := opcode.toUInt8, arpSha := macAt frame (l3 + 8),
                  nwSrc := word32At frame (l3 + 14), arpTha := macAt frame (l3 + 18),
                  nwDst := word32At frame (l3 + 24),
                  wildcards := ⟨Wildcards.tpSrc ||| Wildcards.tpDst ||| Wildcards.dlVlan |||
                    Wildcards.dlVlanPcp⟩ }

/-- The IPv4 fields, and the transport ports when the frame holds them. -/
def withIpv4 (f : Flow) (frame : List UInt8) : Except WireError Flow := do
  let l3 := f.l3Offset
  need "ipv4 header" frame (l3 + ipv4MinHeaderLength)
  let ihl := byteAt frame l3 &&& 0x0f
  let l4 := l3 + (if ihl > 5 then 24 else 20)
  let f := { f with nwTos := byteAt frame (l3 + 1) >>> 2, nwProto := byteAt frame (l3 + 9),
                    nwSrc := word32At frame (l3 + 12), nwDst := word32At frame (l3 + 16),
                    wildcards := ⟨Wildcards.dlVlan ||| Wildcards.dlVlanPcp⟩ }
  if frame.length ≥ l4 + 4 then
    pure { f with tpSrc := word16At frame l4, tpDst := word16At frame (l4 + 2) }
  else
    pure { f with wildcards := f.wildcards.insert (Wildcards.tpSrc ||| Wildcards.tpDst) }

/-- The flow of a packet-in's frame. -/
def ofPacketIn (xid : UInt32) (pi : PacketIn) : Except WireError Flow := do
  let frame := pi.payload.data
  need "ethernet header" frame ethHeaderLength
  let base := { empty xid with
    bufferId := pi.payload.bufferId, totalLen := pi.totalLen, inPort := pi.port,
    reason := pi.reason, dlDst := macAt frame 0, dlSrc := macAt frame 6 }
  let outer := word16At frame 12
  let f ← if EtherType.ofWire outer = .vlan then do
      need "vlan tag" frame (ethHeaderLength + vlanTagLength)
      let tci := word16At frame 14
      pure { base with vlan := some ⟨tci &&& 0x0fff, (tci >>> 13).toUInt8⟩,
                       ethType := word16At frame 16,
                       l3Offset := ethHeaderLength + vlanTagLength }
    else
      pure { base with ethType := outer, l3Offset := ethHeaderLength }
  match f.etherType with
  | .arp => f.withArp frame
  | .ip => f.withIpv4 frame
  | .ipv6 | .rarp | .unspecified => pure f
  | .vlan | .other _ => throw (.unknownEtherType f.ethType)

/-- The flow of a message: hello, error and echo requests give an empty flow, a packet-in the
flow of its frame, and any other message none. -/
def extract (h : Header) (body : List UInt8) : Except WireError Flow := do
  match ← h.code with
  | .hello | .error | .echoRequest => pure (empty h.xid)
  | .packetIn => ofPacketIn h.xid (← PacketIn.decode body)
  | c => throw (.malformed "flow" (c.name ++ " carries no packet"))

/-- The match a flow-mod installs for this flow. -/
def pattern (f : Flow) : Match :=
  { wildcards := f.wildcards, inPort := f.inPort, dlSrc := f.dlSrc, dlDst := f.dlDst,
    dlVlan := (f.vlan.map Vlan.id).getD vlanNone, dlVlanPcp := (f.vlan.map Vlan.pcp).getD 0,
    dlType := f.ethType, nwTos := f.nwTos, nwProto := f.nwProto, nwSrc := f.nwSrc,
    nwDst := f.nwDst, tpSrc := f.tpSrc, tpDst := f.tpDst }

/-- The line a flow is logged by. -/
def text (f : Flow) : String :=
  let head := "xid " ++ toString f.xid.toNat ++ " port " ++ toString f.inPort.toNat ++ " " ++
    f.dlSrc.text ++ " -> " ++ f.dlDst.text ++ " type 0x" ++ Text.hexPadded 4 f.ethType.toNat
  let tag := match f.vlan with
    | some v => " vlan " ++ toString v.id.toNat ++ " pcp " ++ toString v.pcp.toNat
    | none => ""
  let body := match f.etherType with
    | .ip => " " ++ dottedQuad f.nwSrc ++ ":" ++ toString f.tpSrc.toNat ++ " -> " ++
        dottedQuad f.nwDst ++ ":" ++ toString f.tpDst.toNat ++ " proto " ++
        toString f.nwProto.toNat
    | .arp => " arp op " ++ toString f.nwProto.toNat ++ " " ++ dottedQuad f.nwSrc ++ " -> " ++
        dottedQuad f.nwDst
    | _ => ""
  head ++ tag ++ body

end Flow

end OpenFlow
