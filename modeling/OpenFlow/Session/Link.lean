/-!
# The link to a switch

The controller's end of a byte stream to a switch (`Link`): the bytes the switch has sent and
the controller has not read yet, the messages written since they were last collected, and
whether writes fail. `takeExact` splits off exactly `n` bytes when there are that many.
-/

namespace OpenFlow

/-- The controller's end of the byte stream to one switch. -/
structure Link where
  /-- Bytes from the switch not read yet. -/
  pending : List UInt8 := []
  /-- Byte strings written since they were last collected, newest first. -/
  sentRev : List (List UInt8) := []
  /-- Whether the switch refuses writes. -/
  writeFails : Bool := false
deriving DecidableEq, Repr

/-- The first `n` bytes of `bs` and the rest, when `bs` has `n` bytes; `acc` holds the bytes
already taken, last first. -/
def takeExact : Nat → List UInt8 → List UInt8 → Option (List UInt8 × List UInt8)
  | 0, bs, acc => some (acc.reverse, bs)
  | _ + 1, [], _ => none
  | n + 1, b :: bs, acc => takeExact n bs (b :: acc)

namespace Link

/-- Everything written since the last collection, in order. -/
def written (l : Link) : List UInt8 :=
  l.sentRev.reverse.flatten

/-- The link after the switch sent `bs`. -/
def feed (l : Link) (bs : List UInt8) : Link :=
  { l with pending := l.pending ++ bs }

/-- The link after writing `bs`. -/
def write (l : Link) (bs : List UInt8) : Link :=
  { l with sentRev := bs :: l.sentRev }

end Link

end OpenFlow
