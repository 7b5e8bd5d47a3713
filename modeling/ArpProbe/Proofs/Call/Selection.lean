import ArpProbe.Call
import Mathlib.Tactic.Lemma

/-!
# Which calls are refused

Before anything is opened, a call needs an IPv4 address, an interface, a hardware address and, if it
asks for an answer, a network with the address. `Refused` and `Admitted` say in terms of the host
what comes of these checks, and `refused_or_admitted` that they decide every call.
-/

namespace ArpProbe

/-! ## Addresses -/

/-- The IPv4 address that an address stands for. -/
inductive Ip.StandsFor : Ip → Ipv4 → Prop
  | v4 (dst : Ipv4) : StandsFor (.v4 dst) dst
  | mapped {ip : Ipv6} {dst : Ipv4} (mapped : ip.mapped? = some dst) : StandsFor (.v6 ip) dst

/-- The validation of an address accepts what stands for an IPv4 address, and nothing else. -/
lemma Ip.toIpv4_eq_ok_iff {ip : Ip} {dst : Ipv4} : ip.toIpv4 = .ok dst ↔ ip.StandsFor dst := by
  constructor
  · intro valid
    cases ip with
    | v4 ip =>
      obtain rfl : ip = dst := Except.ok.inj valid
      exact .v4 ip
    | v6 ip =>
      apply StandsFor.mapped
      rw [toIpv4] at valid
      split at valid
      · next mapped => rw [mapped, Except.ok.inj valid]
      · cases valid
  · intro stands
    cases stands with
    | v4 => rfl
    | mapped mapped => rw [toIpv4, mapped]

/-! ## Interfaces -/

namespace Interface

/-- The interface has a network with `dst`. -/
def Covers (iface : Interface) (dst : Ipv4) : Prop :=
  ∃ address ∈ iface.addresses, address.contains dst = true

/-- The interface is up and has a network with `dst`. -/
def CanReach (iface : Interface) (dst : Ipv4) : Prop :=
  iface.up = true ∧ iface.Covers dst

variable {iface : Interface} {dst : Ipv4}

/-- The verdict on an interface is that it is usable exactly when it can reach the address. -/
lemma verdict_eq_usable_iff : iface.verdict dst = .usable ↔ iface.CanReach dst := by
  have covers : iface.addresses.any (·.contains dst) = true ↔ iface.Covers dst :=
    List.any_eq_true
  rw [verdict, CanReach, ← covers]
  cases iface.up <;> cases iface.addresses.any (·.contains dst) <;> simp

lemma hardwareAddress_eq_ok_iff {mac : Mac} :
    iface.hardwareAddress = .ok mac ↔ iface.mac = some mac := by
  rw [hardwareAddress]
  cases iface.mac <;> simp

lemma hardwareAddress_of_none (bare : iface.mac = none) :
    iface.hardwareAddress = .error (.noHardwareAddress iface.name) := by
  rw [hardwareAddress, bare]

lemma exists_address_of_covers (covers : iface.Covers dst) :
    ∃ address, iface.addresses.find? (·.contains dst) = some address := by
  rw [← Option.isSome_iff_exists, List.find?_isSome]
  exact covers

/-- Without a network that has `dst` in it there is no address to ask from. -/
lemma addressFor_of_not_covers (outside : ¬ iface.Covers dst) :
    iface.addressFor dst = .error (.unreachable iface.name dst) := by
  have none : iface.addresses.find? (·.contains dst) = none := by
    rw [List.find?_eq_none]
    exact fun address member contains => outside ⟨address, member, contains⟩
  rw [addressFor, none]

end Interface

/-! ## Routes -/

namespace Interface

/-- The interface is the first of the host with a property. -/
def IsFirst (P : Interface → Prop) (host : List Interface) (iface : Interface) : Prop :=
  P iface ∧ ∃ before after, host = before ++ iface :: after ∧ ∀ other ∈ before, ¬ P other

section

variable {P : Interface → Prop} {test : Interface → Bool} {host : List Interface}
  {iface : Interface}

/-- A search finds the first interface with a property, if its test decides that property. -/
lemma find?_eq_some_iff_isFirst (decides : ∀ iface, test iface = true ↔ P iface) :
    host.find? test = some iface ↔ IsFirst P host iface := by
  simp only [List.find?_eq_some_iff_append, IsFirst, ← decides, Bool.not_eq_true, Bool.not_eq_true']

/-- A search finds nothing exactly when no interface has the property. -/
lemma find?_eq_none_iff_forall (decides : ∀ iface, test iface = true ↔ P iface) :
    host.find? test = none ↔ ∀ iface ∈ host, ¬ P iface := by
  simp only [List.find?_eq_none, decides]

end

end Interface

namespace Route

/-- The interface that a route leads to: the first of the host that can reach the address, the first
of the given name, or the given one. -/
inductive Selects (host : List Interface) (dst : Ipv4) : Route → Interface → Prop
  | automatic {iface : Interface} (first : Interface.IsFirst (·.CanReach dst) host iface) :
      Selects host dst .automatic iface
  | named {name : String} {iface : Interface}
      (first : Interface.IsFirst (·.name = name) host iface) : Selects host dst (.named name) iface
  | given (iface : Interface) : Selects host dst (.given iface) iface

/-- The error of a route that leads nowhere. -/
inductive Fails (host : List Interface) (dst : Ipv4) : Route → Error → Prop
  | automatic (nobody : ∀ iface ∈ host, ¬ iface.CanReach dst) :
      Fails host dst .automatic (.noUsableInterface dst)
  | named {name : String} (nobody : ∀ iface ∈ host, iface.name ≠ name) :
      Fails host dst (.named name) (.interfaceNotFound name)

variable {host : List Interface} {dst : Ipv4} {route : Route} {iface : Interface} {error : Error}

/-- The test of the automatic selection decides whether an interface can reach `dst`. -/
lemma decides_usable (dst : Ipv4) (iface : Interface) :
    (iface.verdict dst == .usable) = true ↔ iface.CanReach dst := by
  rw [beq_iff_eq, Interface.verdict_eq_usable_iff]

lemma decides_name (name : String) (iface : Interface) :
    (iface.name == name) = true ↔ iface.name = name :=
  beq_iff_eq

/-- A route that selects an interface leads to it. -/
lemma resolve_of_selects (selects : route.Selects host dst iface) :
    route.resolve host dst = .ok iface := by
  cases selects with
  | automatic first =>
    rw [resolve, Interface.usableFor, Interface.select?,
      (Interface.find?_eq_some_iff_isFirst (decides_usable dst)).2 first]
  | named first =>
    rw [resolve, Interface.byName,
      (Interface.find?_eq_some_iff_isFirst (decides_name _)).2 first]
  | given => rfl

/-- A route that fails leads to its error. -/
lemma resolve_of_fails (fails : route.Fails host dst error) :
    route.resolve host dst = .error error := by
  cases fails with
  | automatic nobody =>
    rw [resolve, Interface.usableFor, Interface.select?,
      (Interface.find?_eq_none_iff_forall (decides_usable dst)).2 nobody]
  | named nobody =>
    rw [resolve, Interface.byName,
      (Interface.find?_eq_none_iff_forall (decides_name _)).2 nobody]

/-- Every route leads to an interface or fails. -/
lemma selects_or_fails (host : List Interface) (dst : Ipv4) (route : Route) :
    (∃ iface, route.Selects host dst iface) ∨ ∃ error, route.Fails host dst error := by
  cases route with
  | automatic =>
    cases found : host.find? (·.verdict dst == .usable) with
    | some iface =>
      exact .inl ⟨iface, .automatic
        ((Interface.find?_eq_some_iff_isFirst (decides_usable dst)).1 found)⟩
    | none =>
      exact .inr ⟨_, .automatic
        ((Interface.find?_eq_none_iff_forall (decides_usable dst)).1 found)⟩
  | named name =>
    cases found : host.find? (·.name == name) with
    | some iface =>
      exact .inl ⟨iface, .named
        ((Interface.find?_eq_some_iff_isFirst (decides_name name)).1 found)⟩
    | none =>
      exact .inr ⟨_, .named ((Interface.find?_eq_none_iff_forall (decides_name name)).1 found)⟩
  | given iface => exact .inl ⟨iface, .given iface⟩

section

variable {α σ : Type} {ip : Ip} {link : σ} {make : Ipv4 → Interface → Call α σ}

/-- A call on a route that fails is refused, and the link stays as it was. -/
lemma call_of_fails (stands : ip.StandsFor dst) (fails : route.Fails host dst error) :
    route.call host ip link make = .reporting (route.log host dst) (.refused error link) := by
  rw [call, Ip.toIpv4_eq_ok_iff.2 stands]
  simp only [resolve_of_fails fails]

/-- A call on a route that selects an interface is made over that interface. -/
lemma call_of_selects (stands : ip.StandsFor dst) (selects : route.Selects host dst iface) :
    route.call host ip link make = .reporting (route.log host dst) (make dst iface) := by
  rw [call, Ip.toIpv4_eq_ok_iff.2 stands]
  simp only [resolve_of_selects selects]

end

end Route

/-! ## All checks -/

section

variable {host : List Interface} {route : Route} {networked : Bool} {ip : Ip}

/-- The error of a call whose checks fail. A check counts only if all checks before it pass, and the
last is made only if the interface has to have a network with the address. -/
inductive Refused (host : List Interface) (route : Route) (networked : Bool) : Ip → Error → Prop
  | address {ip : Ipv6} (foreign : ip.mapped? = none) :
      Refused host route networked (.v6 ip) (.invalidAddress ip.text)
  | route {ip : Ip} {dst : Ipv4} {error : Error} (stands : ip.StandsFor dst)
      (fails : route.Fails host dst error) : Refused host route networked ip error
  | hardware {ip : Ip} {dst : Ipv4} {iface : Interface} (stands : ip.StandsFor dst)
      (selects : route.Selects host dst iface) (bare : iface.mac = none) :
      Refused host route networked ip (.noHardwareAddress iface.name)
  | network {ip : Ip} {dst : Ipv4} {iface : Interface} {mac : Mac} (stands : ip.StandsFor dst)
      (selects : route.Selects host dst iface) (hardware : iface.mac = some mac)
      (needed : networked = true) (outside : ¬ iface.Covers dst) :
      Refused host route networked ip (.unreachable iface.name dst)

/-- All checks of a call pass: it is for an IPv4 address and goes over an interface from a hardware
address. -/
structure Admitted (host : List Interface) (route : Route) (networked : Bool) (ip : Ip)
    (dst : Ipv4) (iface : Interface) (mac : Mac) : Prop where
  stands : ip.StandsFor dst
  selects : route.Selects host dst iface
  hardware : iface.mac = some mac
  network : networked = true → iface.Covers dst

/-- A call ends with the first check that fails, and does nothing to the link. -/
lemma Refused.call {α σ : Type} {error : Error} {link : σ} {make : Ipv4 → Interface → Call α σ}
    (refused : Refused host route networked ip error)
    (bare : ∀ dst iface, iface.mac = none →
      make dst iface = .refused (.noHardwareAddress iface.name) link)
    (outside : ∀ dst iface mac, iface.mac = some mac → networked = true → ¬ iface.Covers dst →
      make dst iface = .refused (.unreachable iface.name dst) link) :
    (route.call host ip link make).ending = .finished (.error error) 0 ∧
      (route.call host ip link make).link = link := by
  cases refused with
  | address foreign =>
    rw [Route.call, Ip.toIpv4, foreign]
    exact ⟨rfl, rfl⟩
  | route stands fails =>
    rw [Route.call_of_fails stands fails]
    exact ⟨rfl, rfl⟩
  | hardware stands selects none =>
    rw [Route.call_of_selects stands selects, bare _ _ none]
    exact ⟨rfl, rfl⟩
  | network stands selects hardware needed far =>
    rw [Route.call_of_selects stands selects, outside _ _ _ hardware needed far]
    exact ⟨rfl, rfl⟩

/-- The checks decide every call. -/
lemma refused_or_admitted (host : List Interface) (route : Route) (networked : Bool) (ip : Ip) :
    (∃ error, Refused host route networked ip error) ∨
      ∃ dst iface mac, Admitted host route networked ip dst iface mac := by
  by_cases valid : ∃ dst, ip.StandsFor dst
  · obtain ⟨dst, stands⟩ := valid
    obtain ⟨iface, selects⟩ | ⟨error, fails⟩ := route.selects_or_fails host dst
    · cases hardware : iface.mac with
      | none => exact .inl ⟨_, .hardware stands selects hardware⟩
      | some mac =>
        by_cases network : networked = true → iface.Covers dst
        · exact .inr ⟨dst, iface, mac, stands, selects, hardware, network⟩
        · obtain ⟨needed, outside⟩ := Classical.not_imp.1 network
          exact .inl ⟨_, .network stands selects hardware needed outside⟩
    · exact .inl ⟨error, .route stands fails⟩
  · cases ip with
    | v4 dst => exact absurd ⟨dst, .v4 dst⟩ valid
    | v6 ip =>
      cases mapped : ip.mapped? with
      | none => exact .inl ⟨_, .address mapped⟩
      | some dst => exact absurd ⟨dst, .mapped mapped⟩ valid

end

end ArpProbe
