import OpenFlow.Net.Address

/-!
# Match patterns

A match pattern names the header fields a flow entry looks at (`Match`); it is always 40 bytes
on the wire. Its wildcard word (`Wildcards`) marks the ignored fields by single bits and holds
two 6-bit counts of ignored low-order IPv4 source and destination bits. `withNwSrcBits` and
`withNwDstBits` replace one count by the given value capped at 32 and leave every other bit.
`Match.decode` accepts exactly 40 bytes; `Match.encode` writes them one field after the other,
padding as zero, and `Match.toBytes` writes them into a fixed array field by field.
-/

namespace OpenFlow

/-- The wildcard word of a match pattern. -/
structure Wildcards where
  /-- The raw word; unknown bits are kept. -/
  bits : UInt32
deriving DecidableEq, Repr

namespace Wildcards

/-- Ignore the input port. -/
def inPort : UInt32 := 0x1
/-- Ignore the VLAN id. -/
def dlVlan : UInt32 := 0x2
/-- Ignore the ethernet source. -/
def dlSrc : UInt32 := 0x4
/-- Ignore the ethernet destination. -/
def dlDst : UInt32 := 0x8
/-- Ignore the ethernet type. -/
def dlType : UInt32 := 0x10
/-- Ignore the IP protocol. -/
def nwProto : UInt32 := 0x20
/-- Ignore the transport source port. -/
def tpSrc : UInt32 := 0x40
/-- Ignore the transport destination port. -/
def tpDst : UInt32 := 0x80
/-- Ignore the VLAN priority. -/
def dlVlanPcp : UInt32 := 0x100000
/-- Ignore the IP type of service. -/
def nwTos : UInt32 := 0x200000

/-- Where the count of ignored IPv4 source bits starts. -/
def nwSrcShift : UInt32 := 8
/-- Where the count of ignored IPv4 destination bits starts. -/
def nwDstShift : UInt32 := 14

/-- Every field ignored. -/
def all : Wildcards := ⟨0x3fffff⟩

/-- No field ignored. -/
def none : Wildcards := ⟨0⟩

/-- The six-bit count that starts at `shift`. -/
def field (w : Wildcards) (shift : UInt32) : UInt32 :=
  (w.bits >>> shift) &&& 0x3f

/-- The word with the six-bit count at `shift` replaced by `v` capped at 32. -/
def withField (w : Wildcards) (shift v : UInt32) : Wildcards :=
  ⟨(w.bits &&& ~~~((0x3f : UInt32) <<< shift)) ||| ((min v 32 &&& 0x3f) <<< shift)⟩

/-- Ignored low-order bits of the IPv4 source (32 ignores it all). -/
def nwSrcBits (w : Wildcards) : UInt32 := w.field nwSrcShift

/-- Ignored low-order bits of the IPv4 destination (32 ignores it all). -/
def nwDstBits (w : Wildcards) : UInt32 := w.field nwDstShift

/-- The word with `v` (capped at 32) ignored IPv4 source bits. -/
def withNwSrcBits (w : Wildcards) (v : UInt32) : Wildcards := w.withField nwSrcShift v

/-- The word with `v` (capped at 32) ignored IPv4 destination bits. -/
def withNwDstBits (w : Wildcards) (v : UInt32) : Wildcards := w.withField nwDstShift v

/-- The word with the given flag bits set as well. -/
def insert (w : Wildcards) (flags : UInt32) : Wildcards := ⟨w.bits ||| flags⟩

end Wildcards

/-- The header fields a flow entry matches on. -/
structure Match where
  wildcards : Wildcards
  inPort : UInt16
  dlSrc : MacAddr
  dlDst : MacAddr
  dlVlan : UInt16
  dlVlanPcp : UInt8
  dlType : UInt16
  nwTos : UInt8
  nwProto : UInt8
  nwSrc : UInt32
  nwDst : UInt32
  tpSrc : UInt16
  tpDst : UInt16
deriving DecidableEq, Repr

namespace Match

/-- Bytes in a match pattern. -/
def size : Nat := 40

/-- The pattern that ignores every field. -/
def all : Match :=
  { wildcards := Wildcards.all, inPort := 0, dlSrc := MacAddr.zero, dlDst := MacAddr.zero,
    dlVlan := 0, dlVlanPcp := 0, dlType := 0, nwTos := 0, nwProto := 0, nwSrc := 0, nwDst := 0,
    tpSrc := 0, tpDst := 0 }

/-- The pattern's 40 bytes, padding as zero. -/
def encode (m : Match) : List UInt8 :=
  be32 m.wildcards.bits ++ be16 m.inPort ++ m.dlSrc.toList ++ m.dlDst.toList ++
    be16 m.dlVlan ++ [m.dlVlanPcp] ++ padding 1 ++ be16 m.dlType ++ [m.nwTos, m.nwProto] ++
    padding 2 ++ be32 m.nwSrc ++ be32 m.nwDst ++ be16 m.tpSrc ++ be16 m.tpDst

/-- `src` copied over `arr` from index `off` on, as a slice copy does. -/
def copySlice {n : Nat} (arr : Vector UInt8 n) (off : Nat) : List UInt8 → Vector UInt8 n
  | [] => arr
  | b :: bs => copySlice (arr.setIfInBounds off b) (off + 1) bs

/-- The pattern as a fixed array: every field copied to its offset in 40 zero bytes, so the
padding stays zero. -/
def toBytes (m : Match) : Vector UInt8 40 :=
  let arr := copySlice (Vector.replicate 40 0) 0 (be32 m.wildcards.bits)
  let arr := copySlice arr 4 (be16 m.inPort)
  let arr := copySlice arr 6 m.dlSrc.toList
  let arr := copySlice arr 12 m.dlDst.toList
  let arr := copySlice arr 18 (be16 m.dlVlan)
  let arr := arr.set 20 m.dlVlanPcp
  let arr := copySlice arr 22 (be16 m.dlType)
  let arr := arr.set 24 m.nwTos
  let arr := arr.set 25 m.nwProto
  let arr := copySlice arr 28 (be32 m.nwSrc)
  let arr := copySlice arr 32 (be32 m.nwDst)
  let arr := copySlice arr 36 (be16 m.tpSrc)
  copySlice arr 38 (be16 m.tpDst)

/-- Reads the fields of a pattern, passing over its padding. -/
def decoder : Decoder Match := do
  let wildcards ← Decoder.u32
  let inPort ← Decoder.u16
  let dlSrc ← MacAddr.decoder
  let dlDst ← MacAddr.decoder
  let dlVlan ← Decoder.u16
  let dlVlanPcp ← Decoder.byte
  Decoder.skip 1
  let dlType ← Decoder.u16
  let nwTos ← Decoder.byte
  let nwProto ← Decoder.byte
  Decoder.skip 2
  let nwSrc ← Decoder.u32
  let nwDst ← Decoder.u32
  let tpSrc ← Decoder.u16
  let tpDst ← Decoder.u16
  pure { wildcards := ⟨wildcards⟩, inPort, dlSrc, dlDst, dlVlan, dlVlanPcp, dlType, nwTos,
         nwProto, nwSrc, nwDst, tpSrc, tpDst }

/-- The pattern of exactly 40 bytes; any other length is refused. -/
def decode (bs : List UInt8) : Except WireError Match :=
  if bs.length = size then decoder.decode bs else .error (.invalidMatch bs.length)

end Match

end OpenFlow
