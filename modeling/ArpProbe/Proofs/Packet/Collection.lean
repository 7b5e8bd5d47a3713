import ArpProbe.Proofs.Call.Opening
import ArpProbe.Proofs.Packet.Provenance

/-!
# What a ping collects over packet sockets

All that the kernel has to say comes at once, so a ping with time to listen hears all of it:
`ending_ping_eq_ok_iff` says when replies are returned, and which.
-/

namespace ArpProbe.Packet

/-- Who answers a request among the frames of other hosts, in order of arrival. -/
def repliesTo (request : Arp) (receipts : List ReceiveAnswer) : List Reply :=
  (((receipts.filterMap ReceiveAnswer.frame?).filterMap Arp.decode?).filter
    (·.isResponseOf request)).map fun m => ⟨m.senderMac, 0⟩

section

variable {request : Arp} {verbose : Bool} {window : Nat} {s : BoundSocket} {k : Kernel}

/-- Listening on a channel goes on until a failure to receive, or else until the window closes. -/
lemma listen_channel (early : 0 < window) :
    let hearing := Ping.listen Channel.link request verbose window 0 0 ⟨k, some s⟩
    (fault? k.receipts = none →
      hearing.stop = .windowClosed ∧ hearing.replies = repliesTo request k.receipts) ∧
    ∀ errno, fault? k.receipts = some errno → hearing.stop = .failed (.os errno) 0 := by
  intro hearing
  -- an ideal link with the script of the kernel has the same to say, and says it all at once
  let wire : Wire := .ofScript none 0 none (script k.receipts)
  obtain ⟨replies, stop⟩ := @Ping.listen_alike _ _ Channel.link Wire.link request verbose verbose
    window 0 0 Follows ⟨k, some s⟩ wire (reception_alike request) ⟨s, k, rfl, rfl⟩
  obtain ⟨replies', stop'⟩ := @listen_at_once request verbose window 0 0 wire _ _ rfl early
  constructor
  · intro silent
    have silence := @Ping.receive_nil { wire with steps := [] } rfl
    rw [silent] at replies' stop'
    simp only [Option.toList_none, List.map_nil, Ping.listen_of_silence silence] at replies' stop'
    refine ⟨stop.trans stop', replies.trans ?_⟩
    rw [replies', Ping.Hearing.replies_stopped, List.append_nil, filterMap_reply?_classify,
      frames_eq_of_fault?_eq_none silent]
    rfl
  · intro errno fault
    have failed := @Ping.receive_cons { wire with steps := [⟨0, .failure (.os errno)⟩] } _ _ rfl
    rw [fault] at stop'
    simp only [Option.toList_some, List.map_cons, List.map_nil,
      Ping.listen_of_failure failed early] at stop'
    exact stop.trans stop'

/-- How an exchange over a channel ends that has time to listen. -/
lemma ending_exchange_channel (early : 0 < window) :
    (Ping.exchange Channel.link request verbose window ⟨k, some s⟩).ending =
      match (Channel.send request.toBytes ⟨k, some s⟩).1 with
      | .error error => .finished (.error (.transport error)) 0
      | .ok () =>
        match fault? k.receipts with
        | some errno => .finished (.error (.transport (.os errno))) 0
        | none => .finished (Ping.verdict (repliesTo request k.receipts)) window := by
  cases outcome : (Channel.send request.toBytes ⟨k, some s⟩).1 with
  | error error =>
    have unsent : (Channel.link.send request.toBytes ⟨k, some s⟩).outcome = .error error := outcome
    rw [Ping.exchange_of_unsent early unsent]
    rfl
  | ok =>
    -- sending leaves the answers to calls to receive as they were
    obtain ⟨sent, next, receipts⟩ : ∃ sent : Kernel,
        (Channel.link.send request.toBytes ⟨k, some s⟩).next = ⟨sent, some s⟩ ∧
          sent.receipts = k.receipts :=
      ⟨_, rfl, Channel.receipts_awaitSend s request.toBytes k⟩
    obtain ⟨heard, failed⟩ := @listen_channel request verbose window s sent early
    rw [← receipts, Ping.exchange_of_sent early outcome, next]
    cases fault : fault? sent.receipts with
    | some errno => exact congrArg Call.ending (Ping.conclude_of_failed (failed errno fault))
    | none =>
      obtain ⟨stop, replies⟩ := heard fault
      rw [← replies]
      exact congrArg Call.ending (Ping.conclude_of_windowClosed stop)

/-- An exchange over a channel returns the replies among the answers of the kernel, if nothing fails
and there are some. -/
lemma ending_exchange_channel_eq_ok_iff {replies : List Reply} {elapsed : Nat} :
    (Ping.exchange Channel.link request verbose window ⟨k, some s⟩).ending =
        .finished (.ok replies) elapsed ↔
      0 < window ∧ (Channel.send request.toBytes ⟨k, some s⟩).1 = .ok () ∧
        fault? k.receipts = none ∧ repliesTo request k.receipts = replies ∧ replies ≠ [] ∧
        elapsed = window := by
  rcases Nat.eq_zero_or_pos window with none | early
  · subst none
    rw [Ping.exchange_of_late (Nat.zero_le _)]
    simp
  rw [ending_exchange_channel early]
  cases (Channel.send request.toBytes ⟨k, some s⟩).1 with
  | error error => simp
  | ok =>
    cases fault? k.receipts with
    | some errno => simp
    | none =>
      simp only [Ending.finished.injEq, Ping.verdict_eq_ok_iff]
      constructor
      · rintro ⟨⟨some, rfl⟩, rfl⟩
        exact ⟨early, trivial, trivial, rfl, some, rfl⟩
      · rintro ⟨-, -, -, rfl, some, rfl⟩
        exact ⟨⟨some, rfl⟩, rfl⟩

/-- The link over packet sockets does not break down. -/
lemma ending_exchange_channel_ne_crashed (text : String) (elapsed : Nat) :
    (Ping.exchange Channel.link request verbose window ⟨k, some s⟩).ending ≠
      .crashed text elapsed := by
  rcases Nat.eq_zero_or_pos window with none | early
  · subst none
    rw [Ping.exchange_of_late (Nat.zero_le _)]
    nofun
  rw [ending_exchange_channel early]
  cases (Channel.send request.toBytes ⟨k, some s⟩).1 with
  | error error => nofun
  | ok =>
    cases fault? k.receipts with
    | some errno => nofun
    | none => nofun

end

/-! ## Pings -/

/-- What a ping collects: its checks pass, the channel opens, there is time to listen, the request
goes out, and nothing fails while it listens. -/
inductive Collects (host : List Interface) (config : Config) (route : Route) (ip : Ip) (start : Nat)
    (k : Kernel) : List Reply → Prop
  | intro {dst : Ipv4} {iface : Interface} {mac : Mac} {address : LocalAddress}
      {log : List LogEntry} {opened : Channel} (admitted : Admitted host route true ip dst iface mac)
      (own : iface.addresses.find? (·.contains dst) = some address)
      (opens : Channel.attach iface ⟨k, none⟩ = (.ok log, opened))
      (time : 0 < config.window start)
      (sent : (opened.send (Arp.request mac address.ip dst).toBytes).1 = .ok ())
      (unfailing : fault? k.receipts = none) :
      Collects host config route ip start k (repliesTo (.request mac address.ip dst) k.receipts)

section

variable {host : List Interface} {config : Config} {route : Route} {ip : Ip} {start : Nat}
  {k : Kernel}

/-- A channel that opens has a socket, and the answers to calls to receive before it. -/
lemma exists_bound_of_attach {iface : Interface} {log : List LogEntry} {opened : Channel}
    (opens : Channel.link.attach iface ⟨k, none⟩ = (.ok log, opened)) :
    ∃ bound s, opened = ⟨bound, some s⟩ ∧ bound.receipts = k.receipts := by
  obtain ⟨⟨s, socket⟩, answers⟩ := Channel.open_of_attach opens
  obtain ⟨bound, _⟩ := opened
  subst socket
  exact ⟨bound, s, rfl, (Prod.mk.inj answers).2⟩

/-- A ping returns what it collects, if that is anything. -/
lemma ending_ping_eq_ok_iff {replies : List Reply} {elapsed : Nat} :
    (ping Channel.link host config route ip start ⟨k, none⟩).ending =
        .finished (.ok replies) elapsed ↔
      Collects host config route ip start k replies ∧ replies ≠ [] ∧
        elapsed = config.window start := by
  constructor
  · intro ending
    obtain ⟨error, refused⟩ | ⟨dst, iface, mac, admitted⟩ := refused_or_admitted host route true ip
    · rw [(ping_of_refused refused).1] at ending
      cases ending
    obtain ⟨address, own⟩ := Interface.exists_address_of_covers (admitted.network rfl)
    rcases opens : Channel.link.attach iface ⟨k, none⟩ with ⟨failure | log, opened⟩
    · rw [ending_ping_of_unopened admitted own opens] at ending
      cases ending
    obtain ⟨bound, s, rfl, receipts⟩ := exists_bound_of_attach opens
    rw [ending_ping_of_attach admitted own opens, ending_exchange_channel_eq_ok_iff, receipts]
      at ending
    obtain ⟨time, sent, unfailing, rfl, some, rfl⟩ := ending
    exact ⟨.intro admitted own opens time sent unfailing, some, rfl⟩
  · rintro ⟨⟨admitted, own, opens, time, sent, unfailing⟩, some, rfl⟩
    have opens : Channel.link.attach _ ⟨k, none⟩ = _ := opens
    obtain ⟨bound, s, rfl, receipts⟩ := exists_bound_of_attach opens
    rw [ending_ping_of_attach admitted own opens, ending_exchange_channel_eq_ok_iff, receipts]
    exact ⟨time, sent, unfailing, rfl, some, rfl⟩

lemma ending_ping_ne_crashed (text : String) (elapsed : Nat) :
    (ping Channel.link host config route ip start ⟨k, none⟩).ending ≠ .crashed text elapsed := by
  obtain ⟨error, refused⟩ | ⟨dst, iface, mac, admitted⟩ := refused_or_admitted host route true ip
  · rw [(ping_of_refused refused).1]
    nofun
  obtain ⟨address, own⟩ := Interface.exists_address_of_covers (admitted.network rfl)
  rcases opens : Channel.link.attach iface ⟨k, none⟩ with ⟨failure | log, opened⟩
  · rw [ending_ping_of_unopened admitted own opens]
    nofun
  obtain ⟨bound, s, rfl, -⟩ := exists_bound_of_attach opens
  rw [ending_ping_of_attach admitted own opens]
  exact ending_exchange_channel_ne_crashed text elapsed

end

end ArpProbe.Packet
