import OpenFlow.Net.Ip

/-!
# Connection strings

A controller reaches its switch through an `Endpoint` written as a connection string:
`tcp:IP[:PORT]` connects out, `ptcp:[PORT][:IP]` listens, `unix:FILE` connects to a local
socket and `punix:FILE` listens on one. `Endpoint.parse` reads the string, `Endpoint.text`
writes it back in full (a missing port becomes 6633, a missing listening address `0.0.0.0`).
The string has no place for an IPv6 address's flow label and scope id: they are read as zero
and not written.
-/

namespace OpenFlow

/-- The well-known controller port. -/
def controllerPort : UInt16 := 6633

/-- Why a connection string names no endpoint. -/
inductive EndpointError where
  | unknownScheme (scheme : String)
  | missingTarget (conn : String)
  | badPort (port : String)
  | badAddress (address : String)
deriving DecidableEq, Repr

namespace EndpointError

/-- The text shown for the error. -/
def message : EndpointError → String
  | .unknownScheme s => s!"Unknown connection type '{s}', expected tcp:, ptcp:, unix: or punix:"
  | .missingTarget c => s!"Connection string '{c}' names no target"
  | .badPort p => s!"Bad port '{p}'"
  | .badAddress a => s!"Bad IP address '{a}'"

end EndpointError

/-- Where the switch connection comes from. -/
inductive Endpoint where
  | tcp (addr : SocketAddr)
  | passiveTcp (addr : SocketAddr)
  | unix (path : String)
  | passiveUnix (path : String)
deriving DecidableEq, Repr

/-- A decimal number of type `UInt16`: digits with an optional leading `+`, nothing else.
Leading zeros are allowed; a number with more than five other digits is too large without
being worked out. -/
def parseUInt16? (s : String) : Option UInt16 :=
  let digits : List Char := match s.toList with
    | '+' :: ds => ds
    | ds => ds
  if digits.isEmpty || !digits.all Char.isDigit then none
  else
    let significant := digits.dropWhile (· = '0')
    if significant.length > 5 then none
    else
      let v : Nat := significant.foldl (fun acc c => acc * 10 + (c.toNat - 48)) 0
      if v < 65536 then some v.toUInt16 else none

namespace Endpoint

/-- A port field: empty means the controller port. -/
def port (text : String) : Except EndpointError UInt16 :=
  if text.isEmpty then .ok controllerPort
  else match parseUInt16? text with
    | some p => .ok p
    | none => .error (.badPort text)

/-- An address field. -/
def address (text : String) : Except EndpointError IpAddr :=
  match IpAddr.parse? text with
  | some a => .ok a
  | none => .error (.badAddress text)

/-- The text before and after the first colon, if there is one. -/
def splitColon (s : String) : Option (String × String) :=
  let cs := s.toList
  let before := cs.takeWhile (· ≠ ':')
  if before.length = cs.length then none
  else some (String.ofList before, String.ofList (cs.drop (before.length + 1)))

/-- The endpoint a connection string names. -/
def parse (conn : String) : Except EndpointError Endpoint :=
  match splitColon conn with
  | none => .error (.unknownScheme conn)
  | some (scheme, target) =>
    let (first, second) := match splitColon target with
      | some (a, b) => (a, some b)
      | none => (target, none)
    if scheme = "tcp" then
      if first.isEmpty then .error (.missingTarget conn)
      else do
        let ip ← address first
        let p ← port (second.getD "")
        pure (.tcp (.new ip p))
    else if scheme = "ptcp" then do
      let p ← port first
      let ip ← match second with
        | some a => if a.isEmpty then pure IpAddr.unspecified else address a
        | none => pure IpAddr.unspecified
      pure (.passiveTcp (.new ip p))
    else if scheme = "unix" || scheme = "punix" then
      if target.isEmpty then .error (.missingTarget conn)
      else if scheme = "unix" then .ok (.unix target)
      else .ok (.passiveUnix target)
    else .error (.unknownScheme scheme)

/-- The full connection string. -/
def text : Endpoint → String
  | .tcp a => s!"tcp:{a.ip.text}:{a.port}"
  | .passiveTcp a => s!"ptcp:{a.port}:{a.ip.text}"
  | .unix path => s!"unix:{path}"
  | .passiveUnix path => s!"punix:{path}"

/-- Whether the endpoint waits for the switch to connect. -/
def isPassive : Endpoint → Bool
  | .passiveTcp _ | .passiveUnix _ => true
  | .tcp _ | .unix _ => false

end Endpoint

end OpenFlow
