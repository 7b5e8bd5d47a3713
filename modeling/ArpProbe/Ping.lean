import ArpProbe.Call
import ArpProbe.Frame.Arp

/-!
# Pings

A ping asks over one interface who has an address, and listens until its window closes. The answers
are returned in the order in which they came; none at all is a timeout. The window is counted from
the start of the call, and when it closes at the very instant of something else, it closes first. What
may still be done at that instant depends on whose turn it is; `exchange` is the run in which nothing
is, and `ArpProbe.Ping.Overtime` has the others.
-/

namespace ArpProbe

/-- Who answered, and how long after the request went out. -/
structure Reply where
  mac : Mac
  duration : Nat
deriving DecidableEq, Repr

/-- What a frame that came in means for a request. -/
inductive Inbound
  /-- It answers the request. -/
  | reply (m : Arp)
  /-- It is another ARP message. -/
  | unrelated (m : Arp)
  /-- It is other traffic. -/
  | notArp

/-- The meaning of a frame for a request. -/
def Inbound.classify (request : Arp) (bytes : Bytes) : Inbound :=
  match Arp.decode? bytes with
  | some m => if m.isResponseOf request then .reply m else .unrelated m
  | none => .notArp

/-- The reply that a frame is for a ping, if it answers the request after the given time. -/
def Inbound.reply? (duration : Nat) : Inbound → Option Reply
  | .reply m => some ⟨m.senderMac, duration⟩
  | _ => none

namespace Ping

/-- Why listening stopped. -/
inductive Stop
  /-- The window closed. -/
  | windowClosed
  | failed (error : IoError) (time : Nat)
  | crashed (text : String)
deriving DecidableEq, Repr

/-- What was heard until listening stopped. -/
structure Hearing (σ : Type) where
  replies : List Reply
  log : List LogEntry
  stop : Stop
  link : σ

namespace Hearing

variable {σ : Type}

/-- Nothing was heard. -/
def stopped (stop : Stop) (link : σ) : Hearing σ :=
  ⟨[], [], stop, link⟩

/-- A frame was heard before all else. -/
def heard (verbose : Bool) (bytes : Bytes) (duration : Nat) (hearing : Hearing σ) :
    Inbound → Hearing σ
  | .reply m =>
    { hearing with
      replies := ⟨m.senderMac, duration⟩ :: hearing.replies
      log := .heard verbose true m.senderIp m.senderMac :: hearing.log }
  | .unrelated m =>
    { hearing with log := .heard verbose false m.senderIp m.senderMac :: hearing.log }
  | .notArp => { hearing with log := .notArp bytes.length :: hearing.log }

end Hearing

variable {σ : Type}

/-- Listens for answers to a request sent at `sentAt`, from `now` until `window`. A frame with a time
before the request counts as answered at once. -/
def listen (link : Link σ) (request : Arp) (verbose : Bool) (window sentAt now : Nat)
    (s : σ) : Hearing σ :=
  match received : link.receive s with
  | .silence next => .stopped .windowClosed next
  | .event after (.failure error) next =>
    if window ≤ now + after then .stopped .windowClosed next
    else .stopped (.failed error (now + after)) next
  | .event after (.crash text) next =>
    if window ≤ now + after then .stopped .windowClosed next
    else .stopped (.crashed text) next
  | .event after (.frame bytes stamp) next =>
    if window ≤ now + after then .stopped .windowClosed next
    else
      have := link.pending_lt received
      (listen link request verbose window sentAt (now + after) next).heard verbose bytes
        (stamp.getD (now + after) - sentAt) (.classify request bytes)
termination_by link.pending s

/-- What a call returns when its window closes. -/
def verdict (replies : List Reply) : Except Error (List Reply) :=
  if replies.isEmpty then .error .timeout else .ok replies

/-- Closes the channel after listening. A channel that broke down is not closed, and the call ends
with its window. -/
def conclude (link : Link σ) (window : Nat) (hearing : Hearing σ) : Call (List Reply) σ :=
  match hearing.stop with
  | .windowClosed =>
    ⟨.finished (verdict hearing.replies) window, hearing.log, link.close hearing.link⟩
  | .failed error time =>
    ⟨.finished (.error (.transport error)) time, hearing.log, link.close hearing.link⟩
  | .crashed text => ⟨.crashed text window, hearing.log, hearing.link⟩

/-- Sends a request over an open channel, listens for answers, and closes the channel. Of the ways it
may go when something is due at the end of the window, this is the one where all of that is too late. -/
def exchange (link : Link σ) (request : Arp) (verbose : Bool) (window : Nat) (s : σ) :
    Call (List Reply) σ :=
  let sending := link.send request.toBytes s
  if window ≤ sending.after then
    ⟨.finished (.error .timeout) window, [], link.close s⟩
  else match sending.outcome with
    | .error error =>
      ⟨.finished (.error (.transport error)) sending.after, [], link.close sending.next⟩
    | .ok () =>
      conclude link window
        (listen link request verbose window sending.after sending.after sending.next)

/-- The addresses that a request for `dst` comes from. -/
def sender (iface : Interface) (dst : Ipv4) : Except Error (Mac × Ipv4) := do
  return (← iface.hardwareAddress, ← iface.addressFor dst)

/-- Pings `dst` over an interface, from the instant `start` on. -/
def overInterface (link : Link σ) (config : Config) (start : Nat) (s : σ) (dst : Ipv4)
    (iface : Interface) : Call (List Reply) σ :=
  match sender iface dst with
  | .error error => .refused error s
  | .ok (mac, ip) =>
    match link.attach iface s with
    | (.error error, s) => .refused (.openFailed iface.name error) s
    | (.ok log, s) =>
      .reporting (log ++ [.pinging dst iface.name ip])
        (exchange link (.request mac ip dst) config.verbose (config.window start) s)

end Ping

/-- Pings an address over the interface that the route leads to, from the instant `start` on. -/
def ping {σ : Type} (link : Link σ) (host : List Interface) (config : Config) (route : Route)
    (ip : Ip) (start : Nat) (s : σ) : Call (List Reply) σ :=
  route.call host ip s (Ping.overInterface link config start s)

end ArpProbe
