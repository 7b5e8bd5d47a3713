import ArpProbe.Address.Ipv6
import ArpProbe.Error
import ArpProbe.Text.Blank

/-!
# Addresses given by a user

Only IPv4 addresses can be asked for. An IPv6 address is accepted where it stands for one.
-/

namespace ArpProbe

/-- An address of either family. -/
inductive Ip
  | v4 (ip : Ipv4)
  | v6 (ip : Ipv6)
deriving DecidableEq, Repr

namespace Ip

/-- Reads an address at the front of a text: an IPv4 address if there is one, otherwise an IPv6
address. -/
def read? (text : List Char) : Option (Ip × List Char) :=
  match Ipv4.read? text with
  | some (ip, rest) => some (.v4 ip, rest)
  | none => (Ipv6.read? text).map fun (ip, rest) => (.v6 ip, rest)

/-- The address that a whole text denotes. -/
def parse? (text : List Char) : Option Ip :=
  match read? text with
  | some (ip, []) => some ip
  | _ => none

/-- The IPv4 address that is meant. -/
def toIpv4 : Ip → Except Error Ipv4
  | v4 ip => .ok ip
  | v6 ip =>
    match ip.mapped? with
    | some mapped => .ok mapped
    | none => .error (.invalidAddress ip.text)

end Ip

/-- Reads the address that a user gave, with blanks around it or without. -/
def Ipv4.ofInput (given : String) : Except Error Ipv4 :=
  match Ip.parse? (Text.trim given.toList) with
  | some ip => ip.toIpv4
  | none => .error (.invalidAddress given)

end ArpProbe
