import ArpProbe.Address.Ipv6
import ArpProbe.Host.Interface

/-!
# The interfaces of a host

The operating system lists links. A link named like `eth0:1` is an alias of the interface `eth0`:
all links of one base name make one interface, at the place of the first of them.
-/

namespace ArpProbe

/-- A network that a link has an address in. -/
inductive Network
  | v4 (ip : Ipv4) (length : Fin 33)
  | v6 (ip : Ipv6) (length : Fin 129)
deriving DecidableEq, Repr

/-- The address and netmask of an IPv4 network. -/
def Network.localAddress? : Network → Option LocalAddress
  | v4 ip length => some ⟨ip, Ipv4.netmask length⟩
  | v6 _ _ => none

/-- A link as the operating system lists it. -/
structure HostLink where
  name : String
  index : UInt32
  mac : Option Mac
  networks : List Network
  flags : UInt32
deriving DecidableEq, Repr

namespace HostLink

/-- The lowest flag says that a link is up. -/
def isUp (link : HostLink) : Bool :=
  link.flags &&& 1 != 0

/-- The name up to the first colon. -/
def baseName (link : HostLink) : String :=
  String.ofList (link.name.toList.takeWhile (· ≠ ':'))

/-- The IPv4 addresses of a link. -/
def localAddresses (link : HostLink) : List LocalAddress :=
  link.networks.filterMap Network.localAddress?

/-- The interface that a link makes by itself. -/
def toInterface (link : HostLink) : Interface where
  name := link.baseName
  index := link.index
  mac := link.mac
  addresses := link.localAddresses
  up := link.isUp

end HostLink

namespace Interface

/-- An interface with what another link of its name adds. -/
def absorb (iface other : Interface) : Interface :=
  { iface with
    up := iface.up || other.up
    mac := iface.mac <|> other.mac
    addresses := iface.addresses ++ other.addresses }

/-- The interfaces found so far with one more link: part of the interface of its name, or a new
interface at the end. -/
def insert : List Interface → Interface → List Interface
  | [], link => [link]
  | iface :: found, link =>
    if iface.name = link.name then iface.absorb link :: found else iface :: insert found link

/-- The interfaces that a list of links makes. -/
def enumerate (links : List HostLink) : List Interface :=
  (links.map HostLink.toInterface).foldl insert []

/-- The interface of the given name. -/
def byName (found : List Interface) (name : String) : Except Error Interface :=
  match found.find? (·.name == name) with
  | some iface => .ok iface
  | none => .error (.interfaceNotFound name)

/-- The first interface that is up and has a network with `dst`. -/
def select? (found : List Interface) (dst : Ipv4) : Option Interface :=
  found.find? (·.verdict dst == .usable)

/-- The interfaces that are looked at for `dst`: all up to the first that can be used. -/
def inspected (dst : Ipv4) : List Interface → List Interface
  | [] => []
  | iface :: found =>
    if iface.verdict dst = .usable then [iface] else iface :: inspected dst found

/-- The interface that is used for `dst`. -/
def usableFor (found : List Interface) (dst : Ipv4) : Except Error Interface :=
  match select? found dst with
  | some iface => .ok iface
  | none => .error (.noUsableInterface dst)

end Interface

end ArpProbe
