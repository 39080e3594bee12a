import OpenFlow.Wire.Decoder

/-!
# Hardware and network addresses

A hardware address is six bytes (`MacAddr`); it is written as six lower-case byte pairs joined
by colons (`MacAddr.text`) and ordered by its bytes read as one big-endian number
(`MacAddr.key`). An IPv4 address is a 32-bit word written as four decimal octets
(`dottedQuad`).
-/

namespace OpenFlow

/-- A six-byte hardware address. -/
structure MacAddr where
  b0 : UInt8
  b1 : UInt8
  b2 : UInt8
  b3 : UInt8
  b4 : UInt8
  b5 : UInt8
deriving DecidableEq, Repr

namespace MacAddr

/-- The all-zero address. -/
def zero : MacAddr := ⟨0, 0, 0, 0, 0, 0⟩

/-- The address's bytes in wire order. -/
def toList (m : MacAddr) : List UInt8 :=
  [m.b0, m.b1, m.b2, m.b3, m.b4, m.b5]

/-- The address of exactly six bytes. -/
def ofList? : List UInt8 → Option MacAddr
  | [a, b, c, d, e, f] => some ⟨a, b, c, d, e, f⟩
  | _ => none

/-- The address read as a 48-bit big-endian number; addresses are ordered by it. -/
def key (m : MacAddr) : Nat :=
  m.toList.foldl (fun acc b => acc * 256 + b.toNat) 0

/-- Six lower-case byte pairs joined by colons. -/
def text (m : MacAddr) : String :=
  ":".intercalate (m.toList.map Text.byteHex)

/-- The next six bytes as an address. -/
def decoder : Decoder MacAddr := do
  let a ← Decoder.byte
  let b ← Decoder.byte
  let c ← Decoder.byte
  let d ← Decoder.byte
  let e ← Decoder.byte
  let f ← Decoder.byte
  pure ⟨a, b, c, d, e, f⟩

end MacAddr

/-- An IPv4 address as four decimal octets joined by dots, most significant first. -/
def dottedQuad (a : UInt32) : String :=
  ".".intercalate ((be32 a).map fun b => toString b.toNat)

end OpenFlow
