import OpenFlow.Text.Hex

/-!
# Flag sets as text

A flag set names some bit patterns of a 32-bit word (`FlagSet`). Its text (`FlagSet.render`)
lists, in declaration order, every name whose bits are all set and that still covers a bit no
earlier written name covered, then the uncovered rest in hexadecimal; the empty word is written
`0x0`. So a name whose bits are the union of earlier names never appears.
-/

namespace OpenFlow.Text

/-- A named family of bit patterns, in the order their names are written. -/
structure FlagSet where
  /-- The name the text is wrapped in. -/
  typeName : String
  /-- Each flag's name and bits. -/
  flags : List (String × UInt32)

namespace FlagSet

/-- The names written for `bits` among `flags`, and the bits of `remaining` they leave
uncovered. -/
def namesOf (bits : UInt32) : List (String × UInt32) → UInt32 → List String × UInt32
  | [], remaining => ([], remaining)
  | (name, v) :: rest, remaining =>
    if bits &&& v == v && remaining &&& v != 0 then
      let (names, left) := namesOf bits rest (remaining &&& ~~~v)
      (name :: names, left)
    else
      namesOf bits rest remaining

/-- The text of `bits`: `TypeName(A | B | 0xrest)`, or `TypeName(0x0)` when no bit is set. -/
def render (s : FlagSet) (bits : UInt32) : String :=
  if bits == 0 then
    s.typeName ++ "(0x0)"
  else
    let (names, left) := namesOf bits s.flags bits
    let parts := if left == 0 then names else names ++ ["0x" ++ hex left.toNat]
    s.typeName ++ "(" ++ " | ".intercalate parts ++ ")"

end FlagSet

end OpenFlow.Text
