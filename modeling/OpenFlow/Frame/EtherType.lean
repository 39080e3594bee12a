/-!
# Ethernet types

The ethernet types the controller knows by name (`EtherType`); every other 16-bit value is
`EtherType.other`. `EtherType.ofWire` and `EtherType.toWire` are inverse to each other.
-/

namespace OpenFlow

/-- The protocol an ethernet frame carries. -/
inductive EtherType where
  | ip
  | arp
  | vlan
  | ipv6
  | rarp
  /-- `0x002c`, seen from some switches with no registered protocol behind it. -/
  | unspecified
  | other (value : UInt16)
deriving DecidableEq, Repr

namespace EtherType

/-- The ethernet type of a 16-bit value. -/
def ofWire (n : UInt16) : EtherType :=
  if n = 0x0800 then ip
  else if n = 0x0806 then arp
  else if n = 0x8100 then vlan
  else if n = 0x86dd then ipv6
  else if n = 0x8035 then rarp
  else if n = 0x002c then unspecified
  else other n

/-- The 16-bit value of an ethernet type. -/
def toWire : EtherType → UInt16
  | ip => 0x0800
  | arp => 0x0806
  | vlan => 0x8100
  | ipv6 => 0x86dd
  | rarp => 0x8035
  | unspecified => 0x002c
  | other n => n

end EtherType

end OpenFlow
