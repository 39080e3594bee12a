/-!
# Lenient UTF-8 decoding

`decodeLossy` reads bytes as UTF-8 and puts one replacement character `U+FFFD` for each
maximal ill-formed part: a byte that starts no sequence, or a started sequence cut short by a
byte outside the range its position allows (that byte then starts afresh). Well-formed input
decodes to its characters.
-/

namespace OpenFlow.Text

/-- The character written for an ill-formed part. -/
def replacementChar : Char := '�'

/-- Whether a byte lies in the closed range from `lo` to `hi`. -/
def inRange (lo hi b : UInt8) : Bool :=
  lo ≤ b && b ≤ hi

/-- Whether a byte continues a multi-byte sequence. -/
def isContinuation (b : UInt8) : Bool :=
  inRange 0x80 0xBF b

/-- For a byte that starts a multi-byte sequence: the sequence's length and the range its
second byte must lie in. -/
def leadShape (b : UInt8) : Option (Nat × UInt8 × UInt8) :=
  if inRange 0xC2 0xDF b then some (2, 0x80, 0xBF)
  else if b == 0xE0 then some (3, 0xA0, 0xBF)
  else if b == 0xED then some (3, 0x80, 0x9F)
  else if inRange 0xE1 0xEF b then some (3, 0x80, 0xBF)
  else if b == 0xF0 then some (4, 0x90, 0xBF)
  else if b == 0xF4 then some (4, 0x80, 0x8F)
  else if inRange 0xF1 0xF3 b then some (4, 0x80, 0xBF)
  else none

/-- The low six bits of a continuation byte. -/
def payload (b : UInt8) : Nat :=
  b.toNat % 64

/-- Characters of a byte string read as UTF-8, ill-formed parts replaced. -/
def decodeLossy : List UInt8 → List Char
  | [] => []
  | b :: rest =>
    if b < 0x80 then Char.ofNat b.toNat :: decodeLossy rest
    else
      match leadShape b with
      | none => replacementChar :: decodeLossy rest
      | some (width, lo, hi) =>
        match rest with
        | [] => [replacementChar]
        | c1 :: r1 =>
          if !inRange lo hi c1 then replacementChar :: decodeLossy (c1 :: r1)
          else if width = 2 then
            Char.ofNat ((b.toNat % 32) * 64 + payload c1) :: decodeLossy r1
          else
            match r1 with
            | [] => [replacementChar]
            | c2 :: r2 =>
              if !isContinuation c2 then replacementChar :: decodeLossy (c2 :: r2)
              else if width = 3 then
                Char.ofNat ((b.toNat % 16) * 4096 + payload c1 * 64 + payload c2) ::
                  decodeLossy r2
              else
                match r2 with
                | [] => [replacementChar]
                | c3 :: r3 =>
                  if !isContinuation c3 then replacementChar :: decodeLossy (c3 :: r3)
                  else
                    Char.ofNat ((b.toNat % 8) * 262144 + payload c1 * 4096 + payload c2 * 64 +
                      payload c3) :: decodeLossy r3
termination_by bs => bs.length

/-- A byte string read as UTF-8 text, ill-formed parts replaced. -/
def stringOfUtf8Lossy (bs : List UInt8) : String :=
  String.ofList (decodeLossy bs)

end OpenFlow.Text
