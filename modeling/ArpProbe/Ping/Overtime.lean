import ArpProbe.Ping

/-!
# The end of the window

When the window closes the collector leaves, before it takes anything that comes at that very instant.
The listener stops once it notices. Until then it may still do what is due at that instant, whichever of
the two it turns to first: send the request, hear a frame, fail or break down. `Hears`, `Exchanges` and
`Pings` are all that may come of that; `listen`, `exchange` and `overInterface` are the runs in which the
listener notices at once.
-/

namespace ArpProbe.Ping

variable {σ : Type}

/-- What listening for answers may come to, for a request sent at `sentAt`, from `now` on. A failure at
the end of the window makes no difference, because nobody learns of it. -/
inductive Hears (link : Link σ) (request : Arp) (verbose : Bool) (window sentAt : Nat) :
    Nat → σ → Hearing σ → Prop
  /-- The window has closed, and the listener does not wait again. -/
  | closed {now : Nat} {s : σ} (expired : window ≤ now) :
      Hears link request verbose window sentAt now s (.stopped .windowClosed s)
  /-- Nothing happens until the window closes. -/
  | silence {now : Nat} {s next : σ} (received : link.receive s = .silence next) :
      Hears link request verbose window sentAt now s (.stopped .windowClosed next)
  /-- The listener notices first that the window has closed. -/
  | late {now after : Nat} {event : Event} {s next : σ}
      (received : link.receive s = .event after event next) (late : window ≤ now + after) :
      Hears link request verbose window sentAt now s (.stopped .windowClosed next)
  | failed {now after : Nat} {error : IoError} {s next : σ}
      (received : link.receive s = .event after (.failure error) next)
      (early : now + after < window) :
      Hears link request verbose window sentAt now s (.stopped (.failed error (now + after)) next)
  | crashed {now after : Nat} {text : String} {s next : σ}
      (received : link.receive s = .event after (.crash text) next)
      (in_time : now + after ≤ window) :
      Hears link request verbose window sentAt now s (.stopped (.crashed text) next)
  | heard {now after : Nat} {bytes : Bytes} {stamp : Option Nat} {s next : σ} {hearing : Hearing σ}
      (received : link.receive s = .event after (.frame bytes stamp) next)
      (early : now + after < window)
      (rest : Hears link request verbose window sentAt (now + after) next hearing) :
      Hears link request verbose window sentAt now s
        (hearing.heard verbose bytes (stamp.getD (now + after) - sentAt) (.classify request bytes))
  /-- Other traffic comes at the end of the window. -/
  | ignored {now after : Nat} {bytes : Bytes} {stamp : Option Nat} {s next : σ} {hearing : Hearing σ}
      (received : link.receive s = .event after (.frame bytes stamp) next)
      (at_end : now + after = window) (other : (Inbound.classify request bytes).reply? 0 = none)
      (rest : Hears link request verbose window sentAt window next hearing) :
      Hears link request verbose window sentAt now s
        (hearing.heard verbose bytes 0 (.classify request bytes))
  /-- An answer comes at the end of the window, and there is nobody to take it. -/
  | missed {now after : Nat} {bytes : Bytes} {stamp : Option Nat} {m : Arp} {s next : σ}
      (received : link.receive s = .event after (.frame bytes stamp) next)
      (at_end : now + after = window) (answer : Inbound.classify request bytes = .reply m) :
      Hears link request verbose window sentAt now s
        ⟨[], [.heard verbose true m.senderIp m.senderMac], .windowClosed, next⟩

/-- What sending a request and listening for answers may come to. Sending may be over before the
window has closed or just as it closes, but not at the first instant, unless the link is prompt. -/
inductive Exchanges (prompt : Bool) (link : Link σ) (request : Arp) (verbose : Bool) (window : Nat)
    (s : σ) : Call (List Reply) σ → Prop
  /-- The listener notices that the window has closed while it sends. -/
  | late (late : window ≤ (link.send request.toBytes s).after) :
      Exchanges prompt link request verbose window s
        ⟨.finished (.error .timeout) window, [], link.close s⟩
  | unsent {error : IoError} (early : (link.send request.toBytes s).after < window)
      (unsent : (link.send request.toBytes s).outcome = .error error) :
      Exchanges prompt link request verbose window s
        ⟨.finished (.error (.transport error)) (link.send request.toBytes s).after, [],
          link.close (link.send request.toBytes s).next⟩
  /-- Sending fails at the end of the window, and nobody learns of it. -/
  | unreported {error : IoError} (at_end : (link.send request.toBytes s).after = window)
      (ready : prompt = true ∨ 0 < window)
      (unsent : (link.send request.toBytes s).outcome = .error error) :
      Exchanges prompt link request verbose window s
        ⟨.finished (.error .timeout) window, [], link.close (link.send request.toBytes s).next⟩
  | sent {hearing : Hearing σ} (in_time : (link.send request.toBytes s).after ≤ window)
      (ready : prompt = true ∨ 0 < window)
      (sent : (link.send request.toBytes s).outcome = .ok ())
      (hears : Hears link request verbose window (link.send request.toBytes s).after
        (link.send request.toBytes s).after (link.send request.toBytes s).next hearing) :
      Exchanges prompt link request verbose window s (conclude link window hearing)

/-- What a ping over an interface may come to. -/
inductive Pings (prompt : Bool) (link : Link σ) (config : Config) (start : Nat) (s : σ) (dst : Ipv4)
    (iface : Interface) : Call (List Reply) σ → Prop
  | refused {error : Error} (refused : sender iface dst = .error error) :
      Pings prompt link config start s dst iface (.refused error s)
  | unopened {mac : Mac} {ip : Ipv4} {error : IoError} {next : σ}
      (addressed : sender iface dst = .ok (mac, ip))
      (fails : link.attach iface s = (.error error, next)) :
      Pings prompt link config start s dst iface (.refused (.openFailed iface.name error) next)
  | exchanged {mac : Mac} {ip : Ipv4} {log : List LogEntry} {next : σ} {call : Call (List Reply) σ}
      (addressed : sender iface dst = .ok (mac, ip))
      (opens : link.attach iface s = (.ok log, next))
      (exchanges : Exchanges prompt link (.request mac ip dst) config.verbose (config.window start)
        next call) :
      Pings prompt link config start s dst iface
        (call.reporting (log ++ [.pinging dst iface.name ip]))

end ArpProbe.Ping
