import ArpProbe.Call
import ArpProbe.Frame.Arp

/-!
# Announcements

An announcement tells all hosts on a network who has an address. It is a request for the sender's own
address, and nobody is expected to answer.
-/

namespace ArpProbe

namespace Announcement

variable {σ : Type}

/-- Announces `src` over an interface: sends one request, and closes the channel whether or not it
was sent. -/
def overInterface (link : Link σ) (s : σ) (src : Ipv4) (iface : Interface) : Call Unit σ :=
  match iface.hardwareAddress with
  | .error error => .refused error s
  | .ok mac =>
    match link.attach iface s with
    | (.error error, s) => .refused (.openFailed iface.name error) s
    | (.ok log, s) =>
      let sending := link.send (Arp.request mac src src).toBytes s
      ⟨.finished (sending.outcome.mapError .transport) sending.after,
        log ++ [.announcing iface.name src], link.close sending.next⟩

end Announcement

/-- Announces an address over the interface that the route leads to. -/
def announce {σ : Type} (link : Link σ) (host : List Interface) (route : Route) (ip : Ip) (s : σ) :
    Call Unit σ :=
  route.call host ip s (Announcement.overInterface link s)

end ArpProbe
