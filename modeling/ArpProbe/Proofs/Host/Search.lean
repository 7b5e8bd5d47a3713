import ArpProbe.Proofs.Call.Watching
import ArpProbe.Proofs.Host.Folding

/-!
# The search for an interface

What is found for an address, said on the links as the operating system lists them: the first base
name of which a link is up and a link has a network with the address, although not necessarily the
same one. `search_exact` says which interface that is, which source address a ping then uses, and
what the search reports.
-/

namespace ArpProbe

/-! ## Usable base names -/

/-- The network is an IPv4 network with `dst`. -/
def Network.Contains (network : Network) (dst : Ipv4) : Prop :=
  ∃ ip length, network = .v4 ip length ∧
    (⟨ip, Ipv4.netmask length⟩ : LocalAddress).contains dst = true

namespace HostLink

/-- The link has an IPv4 address in a network with `dst`. -/
def Covers (link : HostLink) (dst : Ipv4) : Prop :=
  ∃ network ∈ link.networks, network.Contains dst

/-- A link of the base name is up, and one has a network with `dst`. -/
structure Usable (links : List HostLink) (dst : Ipv4) (name : String) : Prop where
  up : ∃ link ∈ links, link.baseName = name ∧ link.isUp = true
  covers : ∃ link ∈ links, link.baseName = name ∧ link.Covers dst

/-- The base name is the first that is usable, and these come before it. -/
structure Chosen (links : List HostLink) (dst : Ipv4) (before : List String) (name : String) :
    Prop where
  place : ∃ after, baseNames links = before ++ name :: after
  usable : Usable links dst name
  first : ∀ other ∈ before, ¬ Usable links dst other

/-- The address is the first of a base name, link after link, whose network contains `dst`. -/
inductive FirstAddress (links : List HostLink) (dst : Ipv4) (name : String) (src : Ipv4) : Prop
  | found {before after : List HostLink} {link : HostLink} {nearer farther : List Network}
      {length : Fin 33} (place : links = before ++ link :: after) (base : link.baseName = name)
      (networks : link.networks = nearer ++ .v4 src length :: farther)
      (contains : (Network.v4 src length).Contains dst)
      (earlier : ∀ other ∈ before, other.baseName = name → ¬ other.Covers dst)
      (within : ∀ network ∈ nearer, ¬ network.Contains dst)

variable {links : List HostLink} {link : HostLink} {dst : Ipv4} {name : String}

/-- The IPv4 networks of a link are its local addresses, with the masks of their lengths. -/
lemma mem_localAddresses {address : LocalAddress} : address ∈ link.localAddresses ↔
    ∃ ip length, Network.v4 ip length ∈ link.networks ∧ address = ⟨ip, Ipv4.netmask length⟩ := by
  rw [localAddresses, List.mem_filterMap]
  constructor
  · rintro ⟨network, member, isLocal⟩
    cases network with
    | v4 ip length => exact ⟨ip, length, member, (Option.some.inj isLocal).symm⟩
    | v6 ip length => cases isLocal
  · rintro ⟨ip, length, member, rfl⟩
    exact ⟨_, member, rfl⟩

/-- A link has a network with `dst` exactly if one of its local addresses does. -/
lemma covers_iff : link.Covers dst ↔
    ∃ address ∈ link.localAddresses, address.contains dst = true := by
  constructor
  · rintro ⟨_, member, ip, length, rfl, contains⟩
    exact ⟨_, mem_localAddresses.2 ⟨ip, length, member, rfl⟩, contains⟩
  · rintro ⟨address, member, contains⟩
    obtain ⟨ip, length, listed, rfl⟩ := mem_localAddresses.1 member
    exact ⟨_, listed, ip, length, rfl, contains⟩

/-- A usable base name is chosen as soon as it is the first. -/
lemma exists_chosen (usable : ∃ name ∈ baseNames links, Usable links dst name) :
    ∃ before name, Chosen links dst before name := by
  classical
  obtain ⟨name, found⟩ : ∃ name, (baseNames links).find? (Usable links dst ·) = some name := by
    rw [← Option.isSome_iff_exists, List.find?_isSome]
    simpa using usable
  obtain ⟨holds, before, after, place, first⟩ := List.find?_eq_some_iff_append.1 found
  exact ⟨before, name, ⟨after, place⟩, by simpa using holds, by simpa using first⟩

end HostLink

/-! ## Interfaces of base names -/

namespace Interface

variable {links : List HostLink} {dst : Ipv4} {name : String}

lemma mem_addresses_ofBase {address : LocalAddress} : address ∈ (ofBase links name).addresses ↔
    ∃ link ∈ links, link.baseName = name ∧ address ∈ link.localAddresses := by
  simp only [ofBase, ofLinks, List.mem_flatMap, HostLink.mem_ofBase, and_assoc]

/-- An interface can reach `dst` exactly if its base name is usable. -/
lemma canReach_ofBase_iff : (ofBase links name).CanReach dst ↔ HostLink.Usable links dst name := by
  have up : (ofBase links name).up = true ↔
      ∃ link ∈ links, link.baseName = name ∧ link.isUp = true := by
    simp only [ofBase, ofLinks, List.any_eq_true, HostLink.mem_ofBase, and_assoc]
  have covers : (ofBase links name).Covers dst ↔
      ∃ link ∈ links, link.baseName = name ∧ link.Covers dst := by
    constructor
    · rintro ⟨address, member, contains⟩
      obtain ⟨link, member, base, own⟩ := mem_addresses_ofBase.1 member
      exact ⟨link, member, base, HostLink.covers_iff.2 ⟨address, own, contains⟩⟩
    · rintro ⟨link, member, base, covers⟩
      obtain ⟨address, own, contains⟩ := HostLink.covers_iff.1 covers
      exact ⟨address, mem_addresses_ofBase.2 ⟨link, member, base, own⟩, contains⟩
  rw [CanReach, up, covers]
  exact ⟨fun holds => ⟨holds.1, holds.2⟩, fun usable => ⟨usable.up, usable.covers⟩⟩

/-- The automatic selection comes to the interface of the base name that is chosen. -/
lemma usableFor_enumerate_of_chosen {before : List String}
    (chosen : HostLink.Chosen links dst before name) :
    usableFor (enumerate links) dst = .ok (ofBase links name) := by
  obtain ⟨after, place⟩ := chosen.place
  apply Route.resolve_of_selects (.automatic _)
  refine ⟨canReach_ofBase_iff.2 chosen.usable, before.map (ofBase links), after.map (ofBase links),
    ?_, ?_⟩
  · rw [enumerate_eq, place, List.map_append, List.map_cons]
  · intro other member reaches
    obtain ⟨name, earlier, rfl⟩ := List.mem_map.1 member
    exact chosen.first name earlier (canReach_ofBase_iff.1 reaches)

/-- Without a usable base name the automatic selection fails. -/
lemma usableFor_enumerate_of_unusable
    (unusable : ∀ name ∈ HostLink.baseNames links, ¬ HostLink.Usable links dst name) :
    usableFor (enumerate links) dst = .error (.noUsableInterface dst) := by
  apply Route.resolve_of_fails (.automatic _)
  intro iface member reaches
  rw [enumerate_eq] at member
  obtain ⟨name, known, rfl⟩ := List.mem_map.1 member
  exact unusable name known (canReach_ofBase_iff.1 reaches)

/-! ## The source address -/

/-- The first address of the interface in a network with `dst` is the first of its links. -/
lemma firstAddress_of_find? {address : LocalAddress}
    (own : (ofBase links name).addresses.find? (·.contains dst) = some address) :
    HostLink.FirstAddress links dst name address.ip := by
  rw [ofBase, ofLinks, List.find?_flatMap] at own
  -- the link that has the address, and the links of its name before it
  obtain ⟨before, link, after, split, ofLink, earlier⟩ := List.findSome?_eq_some_iff.1 own
  obtain ⟨front, back, rfl, passed, split⟩ := List.filter_eq_append_iff.1 split
  obtain ⟨others, back, rfl, skipped, base, -⟩ := List.filter_eq_cons_iff.1 split
  -- the network of the address among those of the link
  unfold HostLink.localAddresses at ofLink
  rw [List.find?_filterMap] at ofLink
  obtain ⟨network, found, isLocal⟩ := Option.bind_eq_some_iff.1 ofLink
  obtain ⟨holds, nearer, farther, networks, within⟩ := List.find?_eq_some_iff_append.1 found
  cases network with
  | v6 ip length => cases isLocal
  | v4 ip length =>
    obtain rfl : ⟨ip, Ipv4.netmask length⟩ = address := Option.some.inj isLocal
    have place : front ++ (others ++ link :: back) = (front ++ others) ++ link :: back := by
      rw [List.append_assoc]
    refine .found place (of_decide_eq_true base) networks ⟨ip, length, rfl, holds⟩ ?_ ?_
    · intro other member same covers
      rw [List.mem_append] at member
      rcases member with member | member
      · have kept : other ∈ before := by
          rw [← passed, List.mem_filter]
          exact ⟨member, by simpa using same⟩
        obtain ⟨address, own, contains⟩ := HostLink.covers_iff.1 covers
        have none := List.find?_eq_none.1 (earlier other kept) address own
        exact none contains
      · exact skipped other member (by simpa using same)
    · rintro network member ⟨ip', length', rfl, contains⟩
      have refused := within _ member
      simp [Network.localAddress?, contains] at refused

/-- The address to ask from is the first whose network has `dst` in it, link after link. -/
lemma addressFor_ofBase (covers : (ofBase links name).Covers dst) :
    ∃ src, HostLink.FirstAddress links dst name src ∧
      (ofBase links name).addressFor dst = .ok src := by
  obtain ⟨address, own⟩ := exists_address_of_covers covers
  exact ⟨address.ip, firstAddress_of_find? own, by rw [addressFor, own]⟩

/-! ## The report -/

variable {iface : Interface}

/-- The search stops at the first interface that can be used. -/
lemma inspected_of_first {before after : List Interface} (usable : iface.verdict dst = .usable)
    (first : ∀ other ∈ before, other.verdict dst ≠ .usable) :
    inspected dst (before ++ iface :: after) = before ++ [iface] := by
  induction before with
  | nil => rw [List.nil_append, inspected, if_pos usable, List.nil_append]
  | cons other before ih =>
    rw [List.forall_mem_cons] at first
    rw [List.cons_append, inspected, if_neg first.1, ih first.2, List.cons_append]

lemma inspected_of_none {found : List Interface}
    (none : ∀ other ∈ found, other.verdict dst ≠ .usable) : inspected dst found = found := by
  induction found with
  | nil => rfl
  | cons other found ih =>
    rw [List.forall_mem_cons] at none
    rw [inspected, if_neg none.1, ih none.2]

lemma verdict_ofBase_ne_usable (unusable : ¬ HostLink.Usable links dst name) :
    (ofBase links name).verdict dst ≠ .usable := by
  rw [Ne, verdict_eq_usable_iff, canReach_ofBase_iff]
  exact unusable

end Interface

/-- What the search reports of a base name. -/
def Interface.reportOf (links : List HostLink) (dst : Ipv4) (name : String) : LogEntry :=
  .inspected name ((ofBase links name).verdict dst)

/-- No other verdict reads like that on a usable interface. -/
lemma Verdict.text_ne_usable {verdict : Verdict} (other : verdict ≠ .usable) :
    verdict.text ≠ "USABLE" := by
  cases verdict with
  | down => decide
  | otherNetwork => decide
  | usable => exact absurd rfl other

section

variable {links : List HostLink} {dst : Ipv4} {name : String}

/-- The report of an unusable base name does not call it usable. -/
lemma Interface.message_reportOf_ne (unusable : ¬ HostLink.Usable links dst name) :
    (reportOf links dst name).message ≠ "USABLE" :=
  Verdict.text_ne_usable (verdict_ofBase_ne_usable unusable)

/-- The log of the selection ends with the interface that is chosen. -/
lemma Route.log_of_chosen {before : List String} (chosen : HostLink.Chosen links dst before name) :
    Route.automatic.log (Interface.enumerate links) dst =
      .search dst :: before.map (Interface.reportOf links dst) ++ [.inspected name .usable] := by
  obtain ⟨after, place⟩ := chosen.place
  have usable : (Interface.ofBase links name).verdict dst = .usable :=
    Interface.verdict_eq_usable_iff.2 (Interface.canReach_ofBase_iff.2 chosen.usable)
  have first : ∀ other ∈ before.map (Interface.ofBase links), other.verdict dst ≠ .usable := by
    intro other member
    obtain ⟨name, earlier, rfl⟩ := List.mem_map.1 member
    exact Interface.verdict_ofBase_ne_usable (chosen.first name earlier)
  rw [log, Interface.enumerate_eq, place, List.map_append, List.map_cons,
    Interface.inspected_of_first usable first, List.map_append, List.map_map, List.map_singleton,
    usable, List.cons_append]
  rfl

/-- The log of a selection that fails goes through all interfaces. -/
lemma Route.log_of_unusable
    (unusable : ∀ name ∈ HostLink.baseNames links, ¬ HostLink.Usable links dst name) :
    Route.automatic.log (Interface.enumerate links) dst =
      .search dst :: (HostLink.baseNames links).map (Interface.reportOf links dst) := by
  have none : ∀ other ∈ (HostLink.baseNames links).map (Interface.ofBase links),
      other.verdict dst ≠ .usable := by
    intro other member
    obtain ⟨name, known, rfl⟩ := List.mem_map.1 member
    exact Interface.verdict_ofBase_ne_usable (unusable name known)
  rw [log, Interface.enumerate_eq, Interface.inspected_of_none none, List.map_map]
  rfl

end

/-- A ping that searches for its interface asks from the address that the interface it finds has for
the destination. -/
lemma ping_sends_of_usableFor {σ : Type} {host : List Interface} {iface : Interface} {ip : Ip}
    {dst src : Ipv4} (stands : ip.StandsFor dst)
    (usable : Interface.usableFor host dst = .ok iface) (own : iface.addressFor dst = .ok src)
    (link : Link σ) (config : Config) (start : Nat) (s : σ) :
    (ping link.watched host config .automatic ip start (s, [])).Sends
      (ping link host config .automatic ip start s)
      fun frame => ∃ mac, iface.mac = some mac ∧ frame = (Arp.request mac src dst).toBytes := by
  apply (ping_watched link host config .automatic ip start s).mono
  rintro frame ⟨dst', iface', valid, found, mac, src', addressed, sent⟩
  have asked : ip.toIpv4 = .ok dst := Ip.toIpv4_eq_ok_iff.2 stands
  obtain rfl : dst = dst' := Except.ok.inj (asked.symm.trans valid)
  obtain rfl : iface = iface' := Except.ok.inj (usable.symm.trans found)
  obtain ⟨hardware, address⟩ := Ping.addresses_of_sender addressed
  obtain rfl : src = src' := Except.ok.inj (own.symm.trans address)
  exact ⟨mac, hardware, sent⟩

/-- The search for an interface, on the links of a host.

The interface of the first usable base name is found, and none exactly if no link is of a usable
base name. A ping that searches for its interface asks, over any link, from the first address of
that name whose network contains the destination. The search reports in order on the base names up
to the one that is found, or on all of them, and calls only that one usable. With this report the
log of the call begins. -/
theorem search_exact (links : List HostLink) (dst : Ipv4) :
    let host := Interface.enumerate links
    let log := Route.automatic.log host dst
    (∀ before name, HostLink.Chosen links dst before name →
      Interface.usableFor host dst = .ok (Interface.ofBase links name) ∧
      (∃ src, HostLink.FirstAddress links dst name src ∧
        (Interface.ofBase links name).addressFor dst = .ok src ∧
        ∀ (σ : Type) (link : Link σ) (config : Config) (ip : Ip) (start : Nat) (s : σ),
          ip.StandsFor dst →
          (ping link.watched host config .automatic ip start (s, [])).Sends
            (ping link host config .automatic ip start s)
            fun frame => ∃ mac, (Interface.ofBase links name).mac = some mac ∧
              frame = (Arp.request mac src dst).toBytes) ∧
      log = .search dst :: before.map (Interface.reportOf links dst) ++
        [.inspected name .usable] ∧
      (LogEntry.inspected name .usable).message = "USABLE" ∧
      ∀ other ∈ before, (Interface.reportOf links dst other).message ≠ "USABLE") ∧
    ((∃ before name, HostLink.Chosen links dst before name) ↔
      ∃ link ∈ links, HostLink.Usable links dst link.baseName) ∧
    ((∀ link ∈ links, ¬ HostLink.Usable links dst link.baseName) →
      Interface.usableFor host dst = .error (.noUsableInterface dst) ∧
      log = .search dst :: (HostLink.baseNames links).map (Interface.reportOf links dst) ∧
      ∀ name ∈ HostLink.baseNames links,
        (Interface.reportOf links dst name).message ≠ "USABLE") ∧
    (∀ (σ : Type) (link : Link σ) (config : Config) (ip : Ip) (start : Nat) (s : σ),
      ip.StandsFor dst →
      log <+: (ping link host config .automatic ip start s).log ∧
        log <+: (announce link host .automatic ip s).log) := by
  intro host log
  refine ⟨?_, ?_, ?_, ?_⟩
  · intro before name chosen
    -- the chosen base name gives the interface, and its first fitting address the sender
    have usable := Interface.usableFor_enumerate_of_chosen chosen
    have covers := (Interface.canReach_ofBase_iff.2 chosen.usable).2
    obtain ⟨src, first, own⟩ := Interface.addressFor_ofBase covers
    refine ⟨usable, ⟨src, first, own, ?_⟩, Route.log_of_chosen chosen, rfl, ?_⟩
    · intro σ link config ip start s stands
      exact ping_sends_of_usableFor stands usable own link config start s
    · intro other earlier
      exact Interface.message_reportOf_ne (chosen.first other earlier)
  · constructor
    · rintro ⟨before, name, chosen⟩
      obtain ⟨link, member, base, -⟩ := chosen.usable.up
      exact ⟨link, member, base ▸ chosen.usable⟩
    · rintro ⟨link, member, usable⟩
      exact HostLink.exists_chosen
        ⟨link.baseName, HostLink.mem_baseNames.2 ⟨link, member, rfl⟩, usable⟩
  · intro unusable
    have names : ∀ name ∈ HostLink.baseNames links, ¬ HostLink.Usable links dst name := by
      intro name known
      obtain ⟨link, member, rfl⟩ := HostLink.mem_baseNames.1 known
      exact unusable link member
    exact ⟨Interface.usableFor_enumerate_of_unusable names, Route.log_of_unusable names,
      fun name known => Interface.message_reportOf_ne (names name known)⟩
  · intro σ link config ip start s stands
    exact ⟨Route.log_prefix_call stands, Route.log_prefix_call stands⟩

end ArpProbe
