/-!
# Hexadecimal text

Numbers in base sixteen as they appear in log lines and error texts: lower-case digits with an
optional zero padding (`hexPadded`), the two lower-case digits of a byte (`byteHex`), and the
upper-case dump of a buffer (`hexDump`). The dump is written one byte at a time by `dumpRows`,
which breaks the line after every eighth byte by its index in the whole dump, unless that byte is
the last; a message read as a header and a body is dumped as one buffer (`hexDumpMessage`).
-/

namespace OpenFlow.Text

/-! ### Digits -/

/-- The lower-case hexadecimal digit of a value below sixteen. -/
def hexDigit (n : Nat) : Char :=
  if n < 10 then Char.ofNat (48 + n) else Char.ofNat (87 + n)

/-- The upper-case hexadecimal digit of a value below sixteen. -/
def hexDigitUpper (n : Nat) : Char :=
  if n < 10 then Char.ofNat (48 + n) else Char.ofNat (55 + n)

/-- Lower-case hexadecimal digits of `n`, most significant first, without leading zeros. -/
def hexDigits (n : Nat) : List Char :=
  if n < 16 then [hexDigit n] else hexDigits (n / 16) ++ [hexDigit (n % 16)]
termination_by n
decreasing_by omega

/-- `n` in lower-case hexadecimal, left-padded with zeros to at least `width` digits. -/
def hexPadded (width n : Nat) : String :=
  let ds := hexDigits n
  String.ofList (List.replicate (width - ds.length) '0' ++ ds)

/-- `n` in lower-case hexadecimal without padding. -/
def hex (n : Nat) : String :=
  String.ofList (hexDigits n)

/-- The two lower-case hexadecimal digits of a byte. -/
def byteHex (b : UInt8) : String :=
  String.ofList [hexDigit (b.toNat / 16), hexDigit (b.toNat % 16)]

/-- A byte string as lower-case hexadecimal, two digits per byte. -/
def bytesHex (bs : List UInt8) : String :=
  String.join (bs.map byteHex)

/-! ### Dump -/

/-- The two upper-case hexadecimal digits of a byte. -/
def byteHexUpper (b : UInt8) : String :=
  String.ofList [hexDigitUpper (b.toNat / 16), hexDigitUpper (b.toNat % 16)]

/-- Writes a byte `b` with its index `i` (`cell = (b, i)`) in a dump of `len` bytes: its two
upper-case digits and a space, then a newline when it closes a group of eight and is not the
last byte. -/
def dumpByte (len : Nat) (out : String) (cell : UInt8 × Nat) : String :=
  let out := out ++ byteHexUpper cell.1 ++ " "
  if cell.2 % 8 = 7 ∧ cell.2 + 1 ≠ len then out.push '\n' else out

/-- The dump of `bytes`, numbered from zero, taken as a buffer of `len` bytes. -/
def dumpRows (bytes : List UInt8) (len : Nat) : String :=
  bytes.zipIdx.foldl (dumpByte len) ""

/-- The dump of a buffer: rows of eight bytes. -/
def hexDump (buf : List UInt8) : String :=
  dumpRows buf buf.length

/-- The dump of a message read as a header and a body: the body's bytes are numbered on from the
header's. -/
def hexDumpMessage (header body : List UInt8) : String :=
  dumpRows (header ++ body) (header.length + body.length)

end OpenFlow.Text
