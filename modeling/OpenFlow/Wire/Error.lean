import OpenFlow.Text.Hex

/-!
# Wire errors

Everything that can go wrong while reading, writing or handling OpenFlow messages, as causes
(`WireError`), with the text each cause is reported by (`WireError.message`) and whether it ends
a controller session (`WireError.isFatal`): only a protocol violation or a failed link does.
-/

namespace OpenFlow

/-- Why the byte stream to the switch stopped working. -/
inductive LinkFailure where
  /-- The input ended in the middle of a message. -/
  | inputEnded
  /-- The switch no longer accepts writes. -/
  | brokenPipe
deriving DecidableEq, Repr

/-- The system's text for a link failure. -/
def LinkFailure.text : LinkFailure → String
  | .inputEnded => "failed to fill whole buffer"
  | .brokenPipe => "broken pipe"

/-- A failure while decoding, encoding or handling a message. -/
inductive WireError where
  /-- A structure needed `needed` bytes and found only `got`. -/
  | truncated (what : String) (needed got : Nat)
  /-- A field holds a value the protocol does not allow. -/
  | malformed (what reason : String)
  /-- A match pattern of the wrong length. -/
  | invalidMatch (len : Nat)
  /-- A frame whose ethernet type the controller cannot classify. -/
  | unknownEtherType (etherType : UInt16)
  /-- A hardware address that is not six bytes long. -/
  | invalidAddressLength (len : Nat)
  /-- The switch broke the rules of the conversation. -/
  | protocolViolation (reason : String)
  /-- The link to the switch failed. -/
  | transportFailure (failure : LinkFailure)
deriving DecidableEq, Repr

namespace WireError

/-- Reading past the end of an in-memory buffer. -/
def overrun : WireError :=
  .truncated "buffer" 0 0

/-- The text a wire error is reported by. -/
def message : WireError → String
  | .truncated what needed got =>
    "Truncated " ++ what ++ ": needed " ++ toString needed ++ " bytes, got " ++ toString got
  | .malformed what reason => "Malformed " ++ what ++ ": " ++ reason
  | .invalidMatch len => "Invalid match: expected 40 bytes, got " ++ toString len
  | .unknownEtherType t => "Unknown ethernet type 0x" ++ Text.hexPadded 4 t.toNat
  | .invalidAddressLength len => "Invalid hardware address length " ++ toString len
  | .protocolViolation reason => "Protocol violation: " ++ reason
  | .transportFailure failure => "Transport failure: " ++ failure.text

/-- A fatal error ends the session; any other error only drops the message at hand. -/
def isFatal : WireError → Bool
  | .protocolViolation _ => true
  | .transportFailure _ => true
  | _ => false

end WireError

end OpenFlow
