import OpenFlow.Net.Address
import OpenFlow.Wire.Port
import OpenFlow.Log

/-!
# The learning table

The learning table maps each hardware address seen as a source to the port it was last seen on
(`LearningTable`). Its entries stay sorted by address with one entry per address, so the
table's text (`LearningTable.text`) lists hosts in address order. Looking up an unknown address
floods (`LearningTable.lookup`). The byte-level entry points (`learnBytes`, `lookupBytes`,
`macEqBytes`) refuse an address that is not six bytes long.
-/

namespace OpenFlow

/-- Source addresses and the ports they were last seen on, sorted by address. -/
structure LearningTable where
  entries : List (MacAddr × UInt16)
deriving DecidableEq, Repr

namespace LearningTable

/-- The table that knows no host. -/
def empty : LearningTable := ⟨[]⟩

/-- Entries with `mac` set to `port`, keeping the address order. -/
def insertSorted (mac : MacAddr) (port : UInt16) :
    List (MacAddr × UInt16) → List (MacAddr × UInt16)
  | [] => [(mac, port)]
  | (m, p) :: rest =>
    if mac.key < m.key then (mac, port) :: (m, p) :: rest
    else if mac.key = m.key then (mac, port) :: rest
    else (m, p) :: insertSorted mac port rest

/-- The port `mac` was last seen on. -/
def find? (t : LearningTable) (mac : MacAddr) : Option UInt16 :=
  (t.entries.find? (·.1 == mac)).map Prod.snd

/-- Records that `mac` was seen on `port`, with the log record telling what changed. -/
def learn (t : LearningTable) (mac : MacAddr) (port : UInt16) :
    LearningTable × List LogLine :=
  let t' := ⟨insertSorted mac port t.entries⟩
  match t.find? mac with
  | none => (t', [⟨.debug, "learned host " ++ mac.text ++ " on port " ++ toString port.toNat⟩])
  | some old =>
    if old = port then (t', [])
    else (t', [⟨.debug, "host " ++ mac.text ++ " moved from port " ++ toString old.toNat ++
      " to port " ++ toString port.toNat⟩])

/-- Where to send a frame for `mac`: its port, or everywhere when it is unknown. -/
def lookup (t : LearningTable) (mac : MacAddr) : PseudoPort :=
  match t.find? mac with
  | some p => .physical p
  | none => .flood

/-- Number of known hosts. -/
def size (t : LearningTable) : Nat :=
  t.entries.length

/-- Whether no host is known. -/
def isEmpty (t : LearningTable) : Bool :=
  t.entries.isEmpty

/-- `Known Hosts:` followed by ` mac@port` for each host in address order. -/
def text (t : LearningTable) : String :=
  "Known Hosts:" ++ String.join (t.entries.map fun (m, p) => " " ++ m.text ++ "@" ++
    toString p.toNat)

/-! ### Addresses as raw bytes -/

/-- The address of a byte string that must be six bytes long. -/
def macOf (bs : List UInt8) : Except WireError MacAddr :=
  match MacAddr.ofList? bs with
  | some m => .ok m
  | none => .error (.invalidAddressLength bs.length)

/-- `learn` for an address given as bytes. -/
def learnBytes (t : LearningTable) (mac : List UInt8) (port : UInt16) :
    Except WireError (LearningTable × List LogLine) := do
  let m ← macOf mac
  pure (t.learn m port)

/-- `lookup` for an address given as bytes. -/
def lookupBytes (t : LearningTable) (mac : List UInt8) : Except WireError PseudoPort := do
  let m ← macOf mac
  pure (t.lookup m)

/-- Whether two addresses given as bytes are equal; the first is checked first. -/
def macEqBytes (a b : List UInt8) : Except WireError Bool := do
  let x ← macOf a
  let y ← macOf b
  pure (x == y)

end LearningTable

end OpenFlow
