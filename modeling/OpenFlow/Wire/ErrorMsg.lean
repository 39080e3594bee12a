import OpenFlow.Wire.Decoder

/-!
# Error reports from the switch

A switch reports an error as a type, a code and some data (`ErrorMsg`). Six types have names
(`ErrorType`); the text of a report (`ErrorMsg.text`) names the type when it can.
-/

namespace OpenFlow

/-- The named kinds of switch errors. -/
inductive ErrorType where
  | helloFailed
  | badRequest
  | badAction
  | flowModFailed
  | portModFailed
  | queueOpFailed
deriving DecidableEq, Repr

namespace ErrorType

/-- The error type of a wire number. -/
def ofWire? (n : UInt16) : Option ErrorType :=
  [helloFailed, badRequest, badAction, flowModFailed, portModFailed, queueOpFailed][n.toNat]?

/-- The name of an error type. -/
def name : ErrorType → String
  | helloFailed => "HelloFailed"
  | badRequest => "BadRequest"
  | badAction => "BadAction"
  | flowModFailed => "FlowModFailed"
  | portModFailed => "PortModFailed"
  | queueOpFailed => "QueueOpFailed"

end ErrorType

/-- An error the switch reports. -/
structure ErrorMsg where
  typ : UInt16
  code : UInt16
  data : List UInt8
deriving DecidableEq, Repr

namespace ErrorMsg

/-- The named type of the report, if it has one. -/
def errorType? (e : ErrorMsg) : Option ErrorType :=
  ErrorType.ofWire? e.typ

/-- `BadRequest code 6`, or `type 9 code 6` for a type without a name. -/
def text (e : ErrorMsg) : String :=
  match e.errorType? with
  | some t => t.name ++ " code " ++ toString e.code.toNat
  | none => "type " ++ toString e.typ.toNat ++ " code " ++ toString e.code.toNat

/-- Bytes of the error body. -/
def size (e : ErrorMsg) : Nat :=
  4 + e.data.length

/-- The error body. -/
def encode (e : ErrorMsg) : List UInt8 :=
  be16 e.typ ++ be16 e.code ++ e.data

/-- The error of a body of at least four bytes. -/
def decode (bs : List UInt8) : Except WireError ErrorMsg :=
  match bs with
  | t0 :: t1 :: c0 :: c1 :: data => .ok ⟨word16 t0 t1, word16 c0 c1, data⟩
  | _ => .error (.truncated "error" 4 bs.length)

end ErrorMsg

end OpenFlow
