import OpenFlow.Net.Address

/-!
# IP addresses as text

An IP address is IPv4 or IPv6 (`IpAddr`). `IpAddr.parse?` reads the standard text forms: four
decimal octets of at most three digits without leading zeros, or eight groups of up to four
hexadecimal digits, where one `::` stands for a run of zero groups and the last two groups may
be written as an IPv4 address. The whole text must be used. `IpAddr.text` writes an IPv6
address in its canonical short form: lower-case groups without leading zeros, the longest run of
two or more zero groups (the first of equals) shortened to `::`, and an IPv4-mapped address as
`::ffff:` and dotted octets.

A socket address (`SocketAddr`) is an address and a port; an IPv6 one also carries a flow label
and a scope id, which `SocketAddr.new` sets to zero.
-/

namespace OpenFlow

/-- An IPv4 or IPv6 address. -/
inductive IpAddr where
  | v4 (bits : UInt32)
  /-- Eight 16-bit groups, most significant first. -/
  | v6 (groups : Vector UInt16 8)
deriving DecidableEq, Repr

namespace IpAddr

/-- The unspecified IPv4 address `0.0.0.0`. -/
def unspecified : IpAddr := .v4 0

/-! ### Reading -/

/-- The value of a digit in the given radix (10 or 16). -/
def digitValue (radix : Nat) (c : Char) : Option Nat :=
  if c.isDigit then some (c.toNat - 48)
  else if radix = 16 && 'a' ≤ c && c ≤ 'f' then some (c.toNat - 87)
  else if radix = 16 && 'A' ≤ c && c ≤ 'F' then some (c.toNat - 55)
  else none

/-- The longest run of at most `k` digits at the front, as values. -/
def digitRun (radix : Nat) : Nat → List Char → List Nat × List Char
  | 0, cs => ([], cs)
  | _ + 1, [] => ([], [])
  | k + 1, c :: cs =>
    match digitValue radix c with
    | some d => let (ds, rest) := digitRun radix k cs; (d :: ds, rest)
    | none => ([], c :: cs)

/-- A number of one to `maxDigits` digits below `limit` at the front; with `zeroPrefix` off a
leading zero is allowed only in `0` itself. Reading stops one digit past `maxDigits`, which
already rules the number out. -/
def number (radix maxDigits limit : Nat) (zeroPrefix : Bool) (cs : List Char) :
    Option (Nat × List Char) :=
  let (ds, rest) := digitRun radix (maxDigits + 1) cs
  let v := ds.foldl (fun acc d => acc * radix + d) 0
  if ds.isEmpty || ds.length > maxDigits || v ≥ limit then none
  else if !zeroPrefix && ds.length > 1 && ds.head? = some 0 then none
  else some (v, rest)

/-- An IPv4 address at the front: four octets joined by dots. -/
def ipv4Prefix (cs : List Char) : Option (UInt32 × List Char) := do
  let (a, r) ← number 10 3 256 false cs
  let r ← match r with | '.' :: r => some r | _ => none
  let (b, r) ← number 10 3 256 false r
  let r ← match r with | '.' :: r => some r | _ => none
  let (c, r) ← number 10 3 256 false r
  let r ← match r with | '.' :: r => some r | _ => none
  let (d, r) ← number 10 3 256 false r
  pure ((((a * 256 + b) * 256 + c) * 256 + d).toUInt32, r)

/-- The text after a separator: the separator is needed before every item but the first. -/
def afterSeparator (first : Bool) (cs : List Char) : Option (List Char) :=
  if first then some cs
  else match cs with
    | ':' :: r => some r
    | _ => none

/-- Up to `limit` groups at the front, the last two of which may be an IPv4 address; also
whether they ended with one. -/
def groups : Nat → Bool → List Char → List UInt16 × Bool × List Char
  | 0, _, cs => ([], false, cs)
  | limit + 1, first, cs =>
    let v4 := if limit ≥ 1 then (afterSeparator first cs).bind ipv4Prefix else none
    match v4 with
    | some (a, r) => ([(a >>> 16).toUInt16, a.toUInt16], true, r)
    | none =>
      match (afterSeparator first cs).bind (number 16 4 65536 true) with
      | some (g, r) =>
        let (gs, v4, rest) := groups limit false r
        (g.toUInt16 :: gs, v4, rest)
      | none => ([], false, cs)

/-- An IPv6 address at the front. -/
def ipv6Prefix (cs : List Char) : Option (List UInt16 × List Char) :=
  let (head, headV4, r) := groups 8 true cs
  if head.length = 8 then some (head, r)
  else if headV4 then none
  else
    match r with
    | ':' :: ':' :: r =>
      let (tail, _, r) := groups (8 - (head.length + 1)) true r
      some (head ++ List.replicate (8 - head.length - tail.length) 0 ++ tail, r)
    | _ => none

/-- The address written by the whole text. -/
def parse? (s : String) : Option IpAddr :=
  let cs := s.toList
  match ipv4Prefix cs with
  | some (a, []) => some (.v4 a)
  | _ =>
    match ipv6Prefix cs with
    | some (gs, []) => if h : gs.length = 8 then some (.v6 ⟨gs.toArray, by simpa using h⟩) else none
    | _ => none

/-! ### Writing -/

/-- The longest run of zero groups as start and length; the first of equally long runs. -/
def longestZeroRun (gs : List UInt16) : Nat × Nat :=
  let step := fun (acc : (Nat × Nat) × (Nat × Nat) × Nat) (g : UInt16) =>
    let ((bestStart, bestLen), (curStart, curLen), i) := acc
    if g = 0 then
      let cur := if curLen = 0 then (i, 1) else (curStart, curLen + 1)
      let best := if cur.2 > bestLen then cur else (bestStart, bestLen)
      (best, cur, i + 1)
    else ((bestStart, bestLen), (0, 0), i + 1)
  (gs.foldl step ((0, 0), (0, 0), 0)).1

/-- Groups in hexadecimal joined by colons. -/
def groupsText (gs : List UInt16) : String :=
  ":".intercalate (gs.map fun g => Text.hex g.toNat)

/-- The canonical text of an address. -/
def text : IpAddr → String
  | .v4 a => dottedQuad a
  | .v6 g =>
    match g.toList with
    | [0, 0, 0, 0, 0, 0xffff, hi, lo] =>
      "::ffff:" ++ dottedQuad ((hi.toUInt32 <<< 16) ||| lo.toUInt32)
    | gs =>
      let (start, len) := longestZeroRun gs
      if len > 1 then
        groupsText (gs.take start) ++ "::" ++ groupsText (gs.drop (start + len))
      else groupsText gs

end IpAddr

/-- An IPv4 address and a port, or an IPv6 address and a port with a flow label and a scope id. -/
inductive SocketAddr where
  | v4 (ip : UInt32) (port : UInt16)
  | v6 (ip : Vector UInt16 8) (port : UInt16) (flowinfo : UInt32) (scopeId : UInt32)
deriving DecidableEq, Repr

namespace SocketAddr

/-- The socket address of an address and a port, with no flow label and scope id. -/
def new : IpAddr → UInt16 → SocketAddr
  | .v4 a, p => .v4 a p
  | .v6 g, p => .v6 g p 0 0

/-- The address. -/
def ip : SocketAddr → IpAddr
  | .v4 a _ => .v4 a
  | .v6 g _ _ _ => .v6 g

/-- The port. -/
def port : SocketAddr → UInt16
  | .v4 _ p => p
  | .v6 _ p _ _ => p

end SocketAddr

end OpenFlow
