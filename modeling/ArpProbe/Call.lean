import ArpProbe.Address.Input
import ArpProbe.Host.Enumeration
import ArpProbe.Link

/-!
# Calls

Pings and announcements start the same way: the address has to be an IPv4 address, then an interface
is looked up in one of three ways, and only then the call goes over that interface.
-/

namespace ArpProbe

/-- How a call ends. -/
inductive Ending (α : Type)
  /-- It returns after some time. -/
  | finished (result : Except Error α) (elapsed : Nat)
  /-- The link broke down, and the call with it after some time. -/
  | crashed (text : String) (elapsed : Nat)

/-- What a call comes to: its end, what it reported, and the link as it left it. -/
structure Call (α σ : Type) where
  ending : Ending α
  log : List LogEntry
  link : σ

namespace Ending

/-- The ending with another value. -/
def map {α β : Type} (f : α → β) : Ending α → Ending β
  | finished result elapsed => .finished (result.map f) elapsed
  | crashed text elapsed => .crashed text elapsed

/-- The time that the call took. -/
def elapsed {α : Type} : Ending α → Nat
  | finished _ elapsed => elapsed
  | crashed _ elapsed => elapsed

end Ending

namespace Call

variable {α σ : Type}

/-- A call that fails before any time passes. -/
def refused (error : Error) (link : σ) : Call α σ :=
  ⟨.finished (.error error) 0, [], link⟩

/-- A call that reported something else first. -/
def reporting (log : List LogEntry) (call : Call α σ) : Call α σ :=
  { call with log := log ++ call.log }

/-- The call with another value. -/
def map {β : Type} (f : α → β) (call : Call α σ) : Call β σ :=
  ⟨call.ending.map f, call.log, call.link⟩

end Call

/-- The ways to choose an interface. -/
inductive Route
  /-- The first interface that can be used for the address. -/
  | automatic
  /-- The interface of the given name. -/
  | named (name : String)
  /-- A given interface. -/
  | given (iface : Interface)

namespace Route

/-- The interface that is chosen among those of the host. -/
def resolve (host : List Interface) (ip : Ipv4) : Route → Except Error Interface
  | automatic => Interface.usableFor host ip
  | named name => Interface.byName host name
  | given iface => .ok iface

/-- What is reported about the choice. -/
def log (host : List Interface) (ip : Ipv4) : Route → List LogEntry
  | automatic =>
    .search ip ::
      (Interface.inspected ip host).map fun iface => .inspected iface.name (iface.verdict ip)
  | _ => []

/-- A call for an address over the interface that the route leads to. -/
def call {α σ : Type} (route : Route) (host : List Interface) (ip : Ip) (link : σ)
    (make : Ipv4 → Interface → Call α σ) : Call α σ :=
  match ip.toIpv4 with
  | .error error => .refused error link
  | .ok ip =>
    .reporting (route.log host ip) <|
      match route.resolve host ip with
      | .error error => .refused error link
      | .ok iface => make ip iface

end Route

end ArpProbe
