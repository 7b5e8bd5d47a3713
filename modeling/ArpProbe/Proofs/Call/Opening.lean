import ArpProbe.Announcement
import ArpProbe.Proofs.Call.Selection
import ArpProbe.Proofs.Ping.Outcome

/-!
# How calls begin

A ping or an announcement over an interface begins in one of few ways: it has no address to send
from, it gets no channel, or it gets one. There is one equation for each of them here. Where a call
goes is known from the interface that its route is resolved to, and a call over a route begins with
its checks.
-/

namespace ArpProbe

section

variable {σ : Type} {link : Link σ} {s next : σ} {iface : Interface} {mac : Mac} {failure : IoError}
  {log : List LogEntry}

namespace Ping

variable {config : Config} {start : Nat} {dst src : Ipv4}

/-! ## Pings -/

/-- An interface without a hardware address cannot ask. -/
lemma sender_of_bare (bare : iface.mac = none) :
    sender iface dst = .error (.noHardwareAddress iface.name) := by
  rw [sender, Interface.hardwareAddress_of_none bare]
  rfl

lemma sender_of_not_covers (hardware : iface.mac = some mac) (outside : ¬ iface.Covers dst) :
    sender iface dst = .error (.unreachable iface.name dst) := by
  rw [sender, Interface.hardwareAddress_eq_ok_iff.2 hardware,
    Interface.addressFor_of_not_covers outside]
  rfl

/-- A ping sends from the addresses that its interface has for the destination. -/
lemma addresses_of_sender (addressed : sender iface dst = .ok (mac, src)) :
    iface.mac = some mac ∧ iface.addressFor dst = .ok src := by
  rw [sender] at addressed
  cases hardware : iface.hardwareAddress with
  | error error =>
    rw [hardware] at addressed
    cases addressed
  | ok own =>
    cases address : iface.addressFor dst with
    | error error =>
      rw [hardware, address] at addressed
      cases addressed
    | ok ip =>
      rw [hardware, address] at addressed
      cases addressed
      exact ⟨Interface.hardwareAddress_eq_ok_iff.1 hardware, rfl⟩

lemma overInterface_of_refused {error : Error} (refused : sender iface dst = .error error) :
    overInterface link config start s dst iface = .refused error s := by
  rw [overInterface, refused]

/-- A ping whose channel does not open is over at once. -/
lemma overInterface_of_unopened (addressed : sender iface dst = .ok (mac, src))
    (fails : link.attach iface s = (.error failure, next)) :
    overInterface link config start s dst iface =
      .refused (.openFailed iface.name failure) next := by
  rw [overInterface, addressed]
  simp only [fails]

end Ping

/-! ## Announcements -/

namespace Announcement

variable {src : Ipv4}

lemma overInterface_of_bare (bare : iface.mac = none) :
    overInterface link s src iface = .refused (.noHardwareAddress iface.name) s := by
  rw [overInterface, Interface.hardwareAddress_of_none bare]

lemma overInterface_of_unopened (hardware : iface.mac = some mac)
    (fails : link.attach iface s = (.error failure, next)) :
    overInterface link s src iface = .refused (.openFailed iface.name failure) next := by
  rw [overInterface, Interface.hardwareAddress_eq_ok_iff.2 hardware]
  simp only [fails]

/-- Over a channel that opens, an announcement is one request. -/
lemma overInterface_of_attach (hardware : iface.mac = some mac)
    (opens : link.attach iface s = (.ok log, next)) :
    let sending := link.send (Arp.request mac src src).toBytes next
    overInterface link s src iface =
      ⟨.finished (sending.outcome.mapError .transport) sending.after,
        log ++ [.announcing iface.name src], link.close sending.next⟩ := by
  intro sending
  rw [overInterface, Interface.hardwareAddress_eq_ok_iff.2 hardware]
  simp only [opens]
  rfl

end Announcement

end

/-! ## Calls over a route -/

namespace Route

variable {route : Route} {host : List Interface} {dst : Ipv4}

/-- A route leads only to an interface that it selects. -/
lemma selects_of_resolve {iface : Interface} (resolved : route.resolve host dst = .ok iface) :
    route.Selects host dst iface := by
  obtain ⟨other, selects⟩ | ⟨error, fails⟩ := selects_or_fails host dst route
  · obtain rfl : other = iface := Except.ok.inj ((resolve_of_selects selects).symm.trans resolved)
    exact selects
  · rw [resolve_of_fails fails] at resolved
    cases resolved

lemma fails_of_resolve {error : Error} (unresolved : route.resolve host dst = .error error) :
    route.Fails host dst error := by
  obtain ⟨iface, selects⟩ | ⟨other, fails⟩ := selects_or_fails host dst route
  · rw [resolve_of_selects selects] at unresolved
    cases unresolved
  · obtain rfl : other = error := Except.error.inj ((resolve_of_fails fails).symm.trans unresolved)
    exact fails

/-- A call begins its log with what was reported about the choice of its interface. -/
lemma log_prefix_call {α σ : Type} {ip : Ip} {s : σ} {make : Ipv4 → Interface → Call α σ}
    (stands : ip.StandsFor dst) : route.log host dst <+: (route.call host ip s make).log := by
  rw [call, Ip.toIpv4_eq_ok_iff.2 stands]
  exact List.prefix_append _ _

end Route

/-! ## Calls and their checks -/

section

variable {σ : Type} {link : Link σ} {s next : σ} {host : List Interface} {route : Route} {ip : Ip}
  {dst : Ipv4} {iface : Interface} {mac : Mac} {address : LocalAddress} {failure : IoError}
  {log : List LogEntry} {error : Error} {config : Config} {start : Nat}

/-- A ping whose checks fail does nothing else. -/
lemma ping_of_refused (refused : Refused host route true ip error) :
    (ping link host config route ip start s).ending = .finished (.error error) 0 ∧
      (ping link host config route ip start s).link = s := by
  apply refused.call
  · intro dst iface bare
    exact Ping.overInterface_of_refused (Ping.sender_of_bare bare)
  · intro dst iface mac hardware _ outside
    exact Ping.overInterface_of_refused (Ping.sender_of_not_covers hardware outside)

/-- A ping that passes the checks fails at once if its channel does not open. -/
lemma ending_ping_of_unopened (admitted : Admitted host route true ip dst iface mac)
    (own : iface.addresses.find? (·.contains dst) = some address)
    (fails : link.attach iface s = (.error failure, next)) :
    (ping link host config route ip start s).ending =
      .finished (.error (.openFailed iface.name failure)) 0 := by
  rw [ping, Route.call_of_selects admitted.stands admitted.selects, Call.ending_reporting,
    Ping.overInterface_of_unopened (Ping.sender_eq_ok admitted.hardware own) fails]
  rfl

/-- A ping whose checks pass ends like the exchange over its channel. -/
lemma ending_ping_of_attach (admitted : Admitted host route true ip dst iface mac)
    (own : iface.addresses.find? (·.contains dst) = some address)
    (opens : link.attach iface s = (.ok log, next)) :
    (ping link host config route ip start s).ending =
      (Ping.exchange link (.request mac address.ip dst) config.verbose (config.window start)
        next).ending := by
  rw [ping, Route.call_of_selects admitted.stands admitted.selects, Call.ending_reporting]
  exact Ping.ending_overInterface (Ping.sender_eq_ok admitted.hardware own) opens

/-- An announcement whose checks fail does nothing else. -/
lemma announce_of_refused (refused : Refused host route false ip error) :
    (announce link host route ip s).ending = .finished (.error error) 0 ∧
      (announce link host route ip s).link = s := by
  refine refused.call ?_ nofun
  intro dst iface bare
  exact Announcement.overInterface_of_bare bare

lemma ending_announce_of_unopened (admitted : Admitted host route false ip dst iface mac)
    (fails : link.attach iface s = (.error failure, next)) :
    (announce link host route ip s).ending =
      .finished (.error (.openFailed iface.name failure)) 0 := by
  rw [announce, Route.call_of_selects admitted.stands admitted.selects, Call.ending_reporting,
    Announcement.overInterface_of_unopened admitted.hardware fails]
  rfl

/-- An announcement whose checks pass ends like the sending of its request. -/
lemma ending_announce_of_attach (admitted : Admitted host route false ip dst iface mac)
    (opens : link.attach iface s = (.ok log, next)) :
    let sending := link.send (Arp.request mac dst dst).toBytes next
    (announce link host route ip s).ending =
      .finished (sending.outcome.mapError .transport) sending.after := by
  intro sending
  rw [announce, Route.call_of_selects admitted.stands admitted.selects, Call.ending_reporting,
    Announcement.overInterface_of_attach admitted.hardware opens]

end

end ArpProbe
