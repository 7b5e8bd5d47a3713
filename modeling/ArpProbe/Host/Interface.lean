import ArpProbe.Address.Mac
import ArpProbe.Error

/-!
# Interfaces

An interface of this host with its addresses, and whether a destination can be reached over it.
-/

namespace ArpProbe

/-- An address of this host with the netmask of its network. -/
structure LocalAddress where
  ip : Ipv4
  netmask : Ipv4
deriving DecidableEq, Repr

/-- The network of the address contains `dst`: both agree where the netmask has ones. -/
def LocalAddress.contains (address : LocalAddress) (dst : Ipv4) : Bool :=
  address.ip.bits &&& address.netmask.bits == dst.bits &&& address.netmask.bits

/-- A network interface. -/
structure Interface where
  name : String
  index : UInt32
  mac : Option Mac
  addresses : List LocalAddress
  up : Bool
deriving DecidableEq, Repr

/-- Whether an interface can be used for a destination. -/
inductive Verdict
  | down
  | otherNetwork
  | usable
deriving DecidableEq, Repr

namespace Interface

/-- The address that frames are sent from. -/
def hardwareAddress (iface : Interface) : Except Error Mac :=
  match iface.mac with
  | some mac => .ok mac
  | none => .error (.noHardwareAddress iface.name)

/-- The first local address in a network with `dst`. -/
def addressFor (iface : Interface) (dst : Ipv4) : Except Error Ipv4 :=
  match iface.addresses.find? (·.contains dst) with
  | some address => .ok address.ip
  | none => .error (.unreachable iface.name dst)

/-- The interface is looked at for `dst`. -/
def verdict (iface : Interface) (dst : Ipv4) : Verdict :=
  if !iface.up then .down
  else if iface.addresses.any (·.contains dst) then .usable
  else .otherNetwork

end Interface

end ArpProbe
