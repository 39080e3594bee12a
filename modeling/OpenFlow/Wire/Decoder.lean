import OpenFlow.Wire.Error

/-!
# Big-endian words and the byte decoder

OpenFlow writes every multi-byte field most significant byte first. This file gives the byte
images of 16-, 32- and 64-bit words (`be16`, `be32`, `be64`), the words built back from bytes
(`word16`, `word32`), and `Decoder`, a reader that consumes a buffer from the front. Reading
past the end of the buffer fails with `WireError.overrun`; skipping padding never fails.
-/

namespace OpenFlow

/-! ### Words as bytes -/

/-- The two bytes of a 16-bit word, most significant first. -/
def be16 (w : UInt16) : List UInt8 :=
  [(w >>> 8).toUInt8, w.toUInt8]

/-- The four bytes of a 32-bit word, most significant first. -/
def be32 (w : UInt32) : List UInt8 :=
  [(w >>> 24).toUInt8, (w >>> 16).toUInt8, (w >>> 8).toUInt8, w.toUInt8]

/-- The eight bytes of a 64-bit word, most significant first. -/
def be64 (w : UInt64) : List UInt8 :=
  be32 (w >>> 32).toUInt32 ++ be32 w.toUInt32

/-- The 16-bit word of two bytes, the first most significant. -/
def word16 (hi lo : UInt8) : UInt16 :=
  (hi.toUInt16 <<< 8) ||| lo.toUInt16

/-- The 32-bit word of four bytes, the first most significant. -/
def word32 (a b c d : UInt8) : UInt32 :=
  (a.toUInt32 <<< 24) ||| (b.toUInt32 <<< 16) ||| (c.toUInt32 <<< 8) ||| d.toUInt32

/-- `n` zero bytes of padding. -/
def padding (n : Nat) : List UInt8 :=
  List.replicate n 0

/-! ### Decoder -/

/-- A reader over the rest of a buffer that may fail with a wire error. -/
abbrev Decoder := StateT (List UInt8) (Except WireError)

namespace Decoder

/-- The next byte. -/
def byte : Decoder UInt8 := fun bs =>
  match bs with
  | b :: rest => .ok (b, rest)
  | [] => .error .overrun

/-- The next `n` bytes; only those are looked at, so that reading is linear in the input. -/
def take (n : Nat) : Decoder (List UInt8) := fun bs =>
  let front := bs.take n
  if front.length = n then .ok (front, bs.drop n) else .error .overrun

/-- Passes over `n` bytes of padding, or over what is left if that is less. -/
def skip (n : Nat) : Decoder Unit := fun bs =>
  .ok ((), bs.drop n)

/-- Everything that is left. -/
def rest : Decoder (List UInt8) := fun bs =>
  .ok (bs, [])

/-- The next 16-bit word. -/
def u16 : Decoder UInt16 := do
  let hi ← byte
  let lo ← byte
  pure (word16 hi lo)

/-- The next 32-bit word. -/
def u32 : Decoder UInt32 := do
  let a ← byte
  let b ← byte
  let c ← byte
  let d ← byte
  pure (word32 a b c d)

/-- The next 64-bit word. -/
def u64 : Decoder UInt64 := do
  let hi ← u32
  let lo ← u32
  pure ((hi.toUInt64 <<< 32) ||| lo.toUInt64)

/-- Runs a decoder over a whole buffer and keeps its value. -/
def decode {α : Type} (d : Decoder α) (bs : List UInt8) : Except WireError α :=
  (d.run bs).map Prod.fst

end Decoder

end OpenFlow
